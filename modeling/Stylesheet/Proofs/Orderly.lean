import Stylesheet.Proofs.Composition
import Stylesheet.Proofs.Development

namespace Stylesheet

namespace Sheet

/-- What is said of any whole operations on a sheet, one after the other, but for those that declare a
variable. -/
structure IsGrowth (R : Sheet → Sheet → Prop) : Prop where
  refl : ∀ S, R S S
  trans : ∀ {S T U}, R S T → R T U → R S U
  line : ∀ {S} words, S.output = none → R S (S.write (.line · words))
  raw : ∀ {S T} words, S.output = none → R S T → R S (T.append (.raw words))
  leftBlock : ∀ {S T} heading, S.output = none →
    R (S.write (.opening · heading)).deepen T → R S T.rise
  block : ∀ {S T} heading, S.output = none →
    R (S.write (.opening · heading)).deepen T → T.output = none → R S (T.rise.write .closing)
  finish : ∀ {S T}, S.output = none → S.rendering = false → R S.start T → R S T.finish
  abandon : ∀ {S T}, S.output = none → S.rendering = false → R S.start T → R S T.abandon

theorem becomes_isGrowth : IsGrowth Becomes where
  refl := .refl
  trans := .trans
  line := .line
  raw := .raw
  leftBlock := .leftBlock
  block := .block
  finish := .finish
  abandon := .abandon

end Sheet

namespace Studio

variable {s t u : Studio} {id : SheetId} {R : Sheet → Sheet → Prop}

def Each (R : Sheet → Sheet → Prop) (s t : Studio) : Prop :=
  ∀ id, id < s.sheets.length → id < t.sheets.length ∧ R (s.sheet id) (t.sheet id)

theorem Each.of_sheets (hrefl : ∀ S, R S S) (h : t.sheets = s.sheets) : s.Each R t := by
  intro id hid
  refine ⟨h ▸ hid, ?_⟩
  rw [sheet, sheet, h]
  exact hrefl _

theorem Each.trans (htrans : ∀ {S T U}, R S T → R T U → R S U) (h : s.Each R t) (h' : t.Each R u) :
    s.Each R u := by
  intro id hid
  obtain ⟨ht, hst⟩ := h id hid
  obtain ⟨hu, htu⟩ := h' id ht
  exact ⟨hu, htrans hst htu⟩

theorem Each.update {g : Sheet → Sheet} (h : s.Each R t)
    (hg : id < s.sheets.length → R (s.sheet id) (t.sheet id) → R (s.sheet id) (g (t.sheet id))) :
    s.Each R (t.updateSheet id g) := by
  intro i hi
  obtain ⟨ht, hst⟩ := h i hi
  refine ⟨by simpa using ht, ?_⟩
  by_cases he : id = i
  · subst he
    rw [t.sheet_updateSheet_self _ _ ht]
    exact hg hi hst
  · rwa [t.sheet_updateSheet_ne _ _ _ he]

/-- Work between two changes of one sheet is judged by that sheet. -/
theorem Each.within {f g : Sheet → Sheet} (h : (s.updateSheet id f).Each R t)
    (hg : id < s.sheets.length → R (f (s.sheet id)) (t.sheet id) → R (s.sheet id) (g (t.sheet id))) :
    s.Each R (t.updateSheet id g) := by
  intro i hi
  obtain ⟨ht, hst⟩ := h i (by simpa using hi)
  refine ⟨by simpa using ht, ?_⟩
  by_cases he : id = i
  · subst he
    rw [s.sheet_updateSheet_self _ _ hi] at hst
    rw [t.sheet_updateSheet_self _ _ ht]
    exact hg hi hst
  · rw [s.sheet_updateSheet_ne _ _ _ he] at hst
    rwa [t.sheet_updateSheet_ne _ _ _ he]

def Develops (s t : Studio) : Prop :=
  ∀ id, id < s.sheets.length → id < t.sheets.length ∧ (s.sheet id).Becomes (t.sheet id)

theorem Develops.of_sheets (h : t.sheets = s.sheets) : s.Develops t := Each.of_sheets .refl h

theorem Develops.refl (s : Studio) : s.Develops s := .of_sheets rfl

theorem Develops.trans (h : s.Develops t) (h' : t.Develops u) : s.Develops u :=
  Each.trans .trans h h'

theorem Develops.sheet_eq {text : String} (h : s.Develops t)
    (hs : (s.sheet id).output = some text) : t.sheet id = s.sheet id :=
  (h id (s.lt_of_output id hs)).2.eq_of_finished hs

end Studio

namespace Build

variable {α β : Type} {m : Build α} {f : α → Build β} {R : Sheet → Sheet → Prop}

theorem IsQuiet.keepsEach (hrefl : ∀ S, R S S) (hm : m.IsQuiet) : m.Keeps (Studio.Each R) := by
  intro s id hid
  have hp : s.sheets <+: (m.on s).2.sheets := hm.sheets rfl
  rw [Studio.sheet_of_prefix hp hid]
  exact ⟨Nat.lt_of_lt_of_le hid hp.length_le, hrefl _⟩

def IsOrderly (m : Build α) : Prop := ∀ s : Studio, s.Develops (m.on s).2

theorem IsOrderly.develops {s t : Studio} {r : Except Fault α} (hm : m.IsOrderly)
    (h : m.on s = (r, t)) : s.Develops t := Keeps.of_on hm h

theorem IsQuiet.isOrderly (hm : m.IsQuiet) : m.IsOrderly := hm.keepsEach .refl

theorem IsOrderly.bind (hm : m.IsOrderly) (hf : ∀ a, (f a).IsOrderly) : (m >>= f).IsOrderly :=
  Keeps.bind .trans hm hf

end Build

namespace Builder

open Build

section

variable {R : Sheet → Sheet → Prop} (hR : Sheet.IsGrowth R)

include hR

theorem writeLine_keepsEach (id : SheetId) (line : String) :
    (writeLine id line).Keeps (Studio.Each R) := by
  intro s
  have hsame : s.Each R s := .of_sheets hR.refl rfl
  rcases ho : (s.sheet id).output with _ | text
  · rw [writeLine, on_write _ ho]
    exact hsame.update fun _ _ ↦ hR.line line ho
  · rw [writeLine, on_write_finished _ ho]
    exact hsame

theorem block_keepsEach (id : SheetId) (heading : String) {inside : Build Unit}
    (hi : inside.Keeps (Studio.Each R)) : (block id heading inside).Keeps (Studio.Each R) := by
  intro s
  rcases ho : (s.sheet id).output with _ | text
  · rcases h : inside.on (opened id heading s) with ⟨e | _, t⟩ <;> have hd := hi.of_on h
    · rw [on_block_error ho h]
      exact hd.within fun _ ↦ hR.leftBlock heading ho
    · rw [on_block_ok ho h]
      rcases ht : ((t.updateSheet id Sheet.rise).sheet id).output with _ | text
      · rw [on_write _ ht, Studio.updateSheet_updateSheet]
        refine hd.within fun hid hb ↦ hR.block heading ho hb ?_
        have hl := (hd id (by simpa [opened] using hid)).1
        rwa [t.sheet_updateSheet_self _ _ hl] at ht
      · rw [on_write_finished _ ht]
        exact hd.within fun _ ↦ hR.leftBlock heading ho
  · rw [on_block_finished ho]
    exact .of_sheets hR.refl rfl

variable {activate : Activation} (ha : ∀ b v, (activate b v).Keeps (Studio.Each R))

include ha

theorem runSheetBody_keepsEach (id : SheetId) : (runSheetBody activate id).Keeps (Studio.Each R) := by
  intro s
  rw [runSheetBody, on_bind_ok (on_sheet id s)]
  rcases (s.sheet id).body with _ | b
  · exact .of_sheets hR.refl rfl
  · exact ha b _ s

theorem render_keepsEach (id : SheetId) : (render activate id).Keeps (Studio.Each R) := by
  intro s
  rw [on_render]
  cases hs : s.answer? id with
  | some r => exact .of_sheets hR.refl rfl
  | none =>
    obtain ⟨-, ho, hr⟩ := Studio.answer?_eq_none.1 hs
    rcases h : (runSheetBody activate id).on (started id s) with ⟨e | _, t⟩ <;>
      have hd := (runSheetBody_keepsEach hR ha id).of_on h
    · rw [on_pass_error h]
      exact hd.within fun _ ↦ hR.abandon ho hr
    · rw [on_pass_ok h]
      exact (hd.within fun _ ↦ hR.finish ho hr).trans hR.trans (.of_sheets hR.refl rfl)

theorem text_keepsEach (v : Value) : (text activate v).Keeps (Studio.Each R) := by
  cases v with
  | sheet id => exact render_keepsEach hR ha id
  | _ => exact IsQuiet.keepsEach hR.refl (text_isQuiet nofun)

theorem raw_keepsEach (id : SheetId) (chunk : Value) :
    (perform activate id (.raw chunk)).Keeps (Studio.Each R) := by
  intro s
  rcases ho : (s.sheet id).output with _ | text
  · rw [perform, on_bind_ok (on_checkWritable ho)]
    rcases h : (Builder.text activate chunk).on s with ⟨e | shown, t⟩ <;>
      have hd := (text_keepsEach hR ha chunk).of_on h
    · rw [on_bind_error h]
      exact hd
    · rw [on_bind_ok h, on_bind_ok (on_updateSheet _ _ _), on_pure]
      exact hd.update fun _ hb ↦ hR.raw shown ho hb
  · rw [perform, on_bind_error (on_checkWritable_finished ho)]
    exact .of_sheets hR.refl rfl

theorem Inside.keepsEach {id : SheetId} {inside : Activation → Build Unit}
    (hi : Inside id inside) : (inside activate).Keeps (Studio.Each R) := by
  cases hi with
  | quiet hm => exact hm.keepsEach hR.refl
  | body b => exact ha b _
  | context b =>
    exact .bind (Studio.Each.trans hR.trans) (IsQuiet.keepsEach hR.refl (.newContext id)) fun v ↦ ha b v

/-- What whole operations do to sheets, computations made of them do, if the declaring of a variable
does it as far as they declare any. -/
theorem Composed.keepsEach {α : Type} {p : Prop} {m : Activation → Build α} (hm : Composed p m)
    (hassign : p → ∀ id name value, (Builder.assign activate id name value).Keeps (Studio.Each R)) :
    (m activate).Keeps (Studio.Each R) := by
  induction hm with
  | quiet hm => exact hm.keepsEach hR.refl
  | bind _ _ ihm ihf => exact .bind (Studio.Each.trans hR.trans) ihm ihf
  | outcome _ ih => exact ih
  | line id words => exact writeLine_keepsEach hR id words
  | assign id name value hp => exact hassign hp id name value
  | raw id chunk => exact raw_keepsEach hR ha id chunk
  | block id heading hi => exact block_keepsEach hR id heading (hi.keepsEach hR ha)
  | render id => exact render_keepsEach hR ha id

end

variable {activate : Body → Value → Build Unit}
variable (ha : ∀ b v, (activate b v).IsOrderly)

include ha

theorem runSheetBody_isOrderly (id : SheetId) : (runSheetBody activate id).IsOrderly :=
  runSheetBody_keepsEach Sheet.becomes_isGrowth ha id

theorem of_render_ok {id : SheetId} {s t : Studio} {T : String}
    (ho : (s.sheet id).output = none) (h : (render activate id).on s = (.ok T, t)) :
    id < s.sheets.length ∧ (s.sheet id).rendering = false ∧
      ∃ u, (runSheetBody activate id).on (started id s) = (.ok (), u) ∧ id < u.sheets.length ∧
        T = (u.sheet id).document ∧ t = rendered id u := by
  cases hs : s.answer? id with
  | some r =>
    rw [on_render, hs] at h
    obtain ⟨rfl, rfl⟩ := Prod.mk.inj h
    simp [Studio.answer?_eq_ok.1 hs] at ho
  | none =>
    obtain ⟨hid, -, hr⟩ := Studio.answer?_eq_none.1 hs
    rcases hb : (runSheetBody activate id).on (started id s) with ⟨e | _, u⟩
    · simp [on_render_error hid ho hr hb] at h
    · have hu := ((runSheetBody_isOrderly ha id).develops hb id (by simpa [started] using hid)).1
      rw [on_render_ok hid ho hr hu hb, Prod.mk.injEq, Except.ok.injEq] at h
      exact ⟨hid, hr, u, rfl, hu, h.1.symm, h.2.symm⟩

theorem of_render_error {id : SheetId} {s t : Studio} {e : Fault} (hid : id < s.sheets.length)
    (ho : (s.sheet id).output = none) (hr : (s.sheet id).rendering = false)
    (h : (render activate id).on s = (.error e, t)) :
    ∃ u, (runSheetBody activate id).on (started id s) = (.error e, u) ∧ id < u.sheets.length ∧
      t = u.updateSheet id Sheet.abandon := by
  rcases hb : (runSheetBody activate id).on (started id s) with ⟨e' | _, u⟩ <;>
    have hu := ((runSheetBody_isOrderly ha id).develops hb id (by simpa [started] using hid)).1
  · rw [on_render_error hid ho hr hb, Prod.mk.injEq, Except.error.injEq] at h
    obtain ⟨rfl, rfl⟩ := h
    exact ⟨u, rfl, hu, rfl⟩
  · simp [on_render_ok hid ho hr hu hb] at h

theorem output_of_render {id : SheetId} {s t : Studio} {T : String}
    (h : (render activate id).on s = (.ok T, t)) : (t.sheet id).output = some T := by
  rcases ho : (s.sheet id).output with _ | text
  · obtain ⟨-, -, u, -, hu, rfl, rfl⟩ := of_render_ok ha ho h
    rw [rendered_sheet hu]
    rfl
  · rw [on_render_finished activate ho, Prod.mk.injEq, Except.ok.injEq] at h
    obtain ⟨rfl, rfl⟩ := h
    exact ho

/-- The text of a value that has been asked for once is there without further work, for as long as
finished sheets stay finished. -/
theorem text_again {v : Value} {s t u : Studio} {a : String}
    (h : (text activate v).on s = (.ok a, t))
    (hu : ∀ j T, (t.sheet j).output = some T → (u.sheet j).output = some T) :
    ∃ b, (text activate v).on u = (.ok b, u) ∧ ∀ n, v = .text n → b = n ∧ a = n := by
  cases v with
  | atom x =>
    obtain ⟨hx, rfl⟩ := of_text_atom h
    refine ⟨_, on_text_atom hx u, ?_⟩
    rintro n ⟨rfl⟩
    exact ⟨rfl, rfl⟩
  | sheet id => exact ⟨a, on_render_finished activate (hu _ _ (output_of_render ha h)), nofun⟩
  | _ => exact ⟨_, on_shown (isWritable_of_shown h) u, nofun⟩

theorem text_isOrderly (v : Value) : (text activate v).IsOrderly :=
  text_keepsEach Sheet.becomes_isGrowth ha v

theorem on_assign {id : SheetId} {name value : Value} {s t u : Studio} {a shown : String}
    (h₁ : (text activate name).on s = (.ok a, t)) (h₂ : (text activate value).on t = (.ok shown, u))
    (ho : (u.sheet id).output = none) :
    ∃ key, (assign activate id name value).on s = (.ok ("$" ++ a), u.updateSheet id fun S ↦
        (S.write (.assignment · name ("$" ++ a) shown)).assign key ("$" ++ a)) ∧
      ∀ n, name = .text n → key = n ∧ a = n := by
  let v := u.updateSheet id (·.write (.assignment · name ("$" ++ a) shown))
  have hk : ∀ j T, (t.sheet j).output = some T → (v.sheet j).output = some T := by
    intro j T hj
    have he := ((text_isOrderly ha value).develops h₂).sheet_eq hj
    have hne : id ≠ j := by
      rintro rfl
      simp [he, hj] at ho
    rw [u.sheet_updateSheet_ne _ _ _ hne, he, hj]
  obtain ⟨key, h₃, hn⟩ := text_again ha h₁ hk
  refine ⟨key, ?_, hn⟩
  rw [assign, on_bind_ok h₁, on_bind_ok h₂, on_bind_ok (on_write _ ho), on_bind_ok h₃,
    on_bind_ok (on_updateSheet _ _ _), on_pure, Studio.updateSheet_updateSheet]
  rfl

theorem assign_isOrderly (id : SheetId) (name value : Value) :
    (assign activate id name value).IsOrderly := by
  intro s
  rcases h₁ : (text activate name).on s with ⟨e | a, s₁⟩ <;>
    have hd₁ := (text_isOrderly ha name).develops h₁
  · rw [assign, on_bind_error h₁]
    exact hd₁
  rcases h₂ : (text activate value).on s₁ with ⟨e | shown, s₂⟩ <;>
    have hd₂ := (text_isOrderly ha value).develops h₂
  · rw [assign, on_bind_ok h₁, on_bind_error h₂]
    exact hd₁.trans hd₂
  rcases ho : (s₂.sheet id).output with _ | text
  · obtain ⟨key, h, hn⟩ := on_assign ha h₁ h₂ ho
    rw [h]
    refine Studio.Each.update (hd₁.trans hd₂) fun _ hb ↦ hb.trans (.assignment name _ shown key ho ?_)
    intro n hname
    obtain ⟨rfl, rfl⟩ := hn n hname
    exact ⟨rfl, rfl⟩
  · rw [assign, on_bind_ok h₁, on_bind_ok h₂, on_bind_error (on_write_finished _ ho)]
    exact hd₁.trans hd₂

theorem Composed.isOrderly {α : Type} {m : Activation → Build α} (hm : Composed True m) :
    (m activate).IsOrderly :=
  hm.keepsEach Sheet.becomes_isGrowth ha fun _ ↦ assign_isOrderly ha

theorem Line.text_isOrderly (l : Line) : (l.text activate).IsOrderly := l.text_composed.isOrderly ha

theorem Heading.worded_isOrderly (h : Heading) (body : Value) :
    (h.worded activate body).IsOrderly := (h.worded_composed body).isOrderly ha

theorem Heading.runBody_isOrderly (h : Heading) (id : SheetId) (body : Value) :
    (h.runBody activate id body).IsOrderly :=
  (h.runBody_inside id body).keepsEach Sheet.becomes_isGrowth ha

theorem perform_isOrderly (id : SheetId) (c : Call) : (perform activate id c).IsOrderly :=
  (perform_composed id c fun _ _ _ ↦ trivial).isOrderly ha

theorem callStep_isOrderly (argument : Value) (on : Receiver) (name : String) (args : List Expr)
    (named : List (String × Expr)) (bind : Option String) :
    (callStep activate argument on name args named bind).IsOrderly :=
  (callStep_composed argument on name args named bind).isOrderly ha

theorem runStep_isOrderly (argument : Value) (step : Step) :
    (runStep activate argument step).IsOrderly := (runStep_composed argument step).isOrderly ha

theorem runSteps_isOrderly (argument : Value) (steps : List Step) :
    (runSteps activate argument steps).IsOrderly := (runSteps_composed argument steps).isOrderly ha

omit ha in
theorem runBodyWithin_isOrderly (limit : Nat) (b : Body) (v : Value) :
    (runBodyWithin limit b v).IsOrderly := by
  induction limit generalizing b v with
  | zero => exact fun s ↦ .refl s
  | succ limit ih => exact runSteps_isOrderly ih v b.steps

end Builder

end Stylesheet

import Stylesheet.Proofs.Orderly

namespace Stylesheet

open Build

namespace Sheet

/-- What is done to a sheet next, beside the number of raw texts that are being made for it. A block
or a pass that is begun here ends in some later step. -/
inductive Next : Sheet × Nat → Sheet × Nat → Prop
  | line {S : Sheet} {n : Nat} (words : String) (ho : S.output = none) :
      Next (S, n) (S.write (.line · words), n)
  | assignment {S : Sheet} {n : Nat} (name : Value) (token shown key : String)
      (ho : S.output = none) :
      Next (S, n) ((S.write (.assignment · name token shown)).assign key token, n)
  | rawBegins {S : Sheet} {n : Nat} (ho : S.output = none) : Next (S, n) (S, n + 1)
  | rawEnds {S : Sheet} {n : Nat} (words : String) : Next (S, n + 1) (S.append (.raw words), n)
  | rawFails {S : Sheet} {n : Nat} : Next (S, n + 1) (S, n)
  | blockBegins {S : Sheet} {n : Nat} (heading : String) (ho : S.output = none) :
      Next (S, n) ((S.write (.opening · heading)).deepen, n)
  | blockIsLeft {S : Sheet} {n : Nat} : Next (S, n) (S.rise, n)
  | blockEnds {S : Sheet} {n : Nat} (ho : S.output = none) : Next (S, n) (S.write .closing, n)
  | passBegins {S : Sheet} {n : Nat} (ho : S.output = none) (hr : S.rendering = false) :
      Next (S, n) (S.start, n)
  | passEnds {S : Sheet} {n : Nat} (hr : S.rendering = true) : Next (S, n) (S.finish, n)
  | passFails {S : Sheet} {n : Nat} (hr : S.rendering = true) : Next (S, n) (S.abandon, n)

/-- Whatever may be done to a sheet in a run that goes on, by work under way and by programs
(`Builder.runSteps_continues`). -/
def Continues : Sheet × Nat → Sheet × Nat → Prop := Relation.ReflTransGen Next

variable {S T U : Sheet} {n m : Nat}

theorem Becomes.continues (h : Becomes S T) (n : Nat) : Continues (S, n) (T, n) := by
  induction h generalizing n with
  | refl => exact .refl
  | trans _ _ ih₁ ih₂ => exact (ih₁ n).trans (ih₂ n)
  | line words ho => exact .single (.line words ho)
  | assignment name token shown key ho _ => exact .single (.assignment name token shown key ho)
  | raw words ho _ ih => exact .head (.rawBegins ho) (.tail (ih (n + 1)) (.rawEnds words))
  | leftBlock heading ho _ ih => exact .head (.blockBegins heading ho) (.tail (ih n) .blockIsLeft)
  | block heading ho _ ht ih =>
    exact .head (.blockBegins heading ho) (.tail (.tail (ih n) .blockIsLeft) (.blockEnds ht))
  | finish ho hr h ih =>
    obtain ⟨_, hx⟩ := h.extends ⟨ho, rfl⟩
    exact .head (.passBegins ho hr) (.tail (ih n) (.passEnds hx.building.rendering))
  | abandon ho hr h ih =>
    obtain ⟨_, hx⟩ := h.extends ⟨ho, rfl⟩
    exact .head (.passBegins ho hr) (.tail (ih n) (.passFails hx.building.rendering))

/-- `T` is the finished sheet `S` with raw texts behind it. -/
structure Outlasts (raws : List String) (S T : Sheet) : Prop where
  body : T.body = S.body
  output : T.output = S.output
  tokens : T.tokens = S.tokens
  rendering : T.rendering = S.rendering
  chunks : T.chunks = S.chunks ++ raws.map .raw

theorem Outlasts.refl (S : Sheet) : Outlasts [] S S := ⟨rfl, rfl, rfl, rfl, by simp⟩

theorem Outlasts.rise {raws : List String} (h : Outlasts raws S T) : Outlasts raws S T.rise :=
  ⟨h.body, h.output, h.tokens, h.rendering, h.chunks⟩

theorem Outlasts.raw {raws : List String} (h : Outlasts raws S T) (words : String) :
    Outlasts (raws ++ [words]) S (T.append (.raw words)) where
  body := h.body
  output := h.output
  tokens := h.tokens
  rendering := h.rendering
  chunks := by simp [append, h.chunks]

theorem Outlasts.document {raws : List String} (h : Outlasts raws S T) :
    T.document = S.document ++ String.join raws := by
  have hraws : (raws.map Chunk.raw).map Chunk.text = raws := by
    simp [Function.comp_def, Chunk.text]
  rw [Sheet.document, h.chunks, List.map_append, String.join_append, hraws, Sheet.document]

theorem Outlasts.document_eq_iff {raws : List String} (h : Outlasts raws S T) :
    T.document = S.document ↔ ∀ w ∈ raws, w = "" := by
  rw [h.document, String.append_eq_left_iff]
  rw [← String.toList_inj, String.toList_join, String.toList_empty, List.flatMap_eq_nil_iff]
  exact forall₂_congr fun w _ ↦ String.toList_eq_nil_iff

theorem Outlasts.next {raws : List String} {text : String} (h : Outlasts raws S T)
    (hs : S.output = some text) (hr : S.rendering = false) (hn : Next (T, n) (U, m)) :
    ∃ more, Outlasts (raws ++ more) S U ∧ more.length + m ≤ n := by
  have ho := h.output.trans hs
  have hi := h.rendering.trans hr
  cases hn with
  | line _ hw | assignment _ _ _ _ hw | rawBegins hw | blockBegins _ hw | blockEnds hw
  | passBegins hw => simp [ho] at hw
  | passEnds hw | passFails hw => simp [hi] at hw
  | rawEnds words => exact ⟨[words], h.raw words, by simp; omega⟩
  | rawFails => exact ⟨[], by simpa using h, by simp⟩
  | blockIsLeft => exact ⟨[], by simpa using h.rise, by simp⟩

theorem Continues.outlasts {text : String} {p q : Sheet × Nat} (h : Continues p q)
    (hs : p.1.output = some text) (hr : p.1.rendering = false) :
    ∃ raws, Outlasts raws p.1 q.1 ∧ raws.length + q.2 ≤ p.2 := by
  induction h with
  | refl => exact ⟨[], .refl _, by simp⟩
  | tail _ hn ih =>
    obtain ⟨raws, ho, hl⟩ := ih
    obtain ⟨more, ho', hl'⟩ := ho.next hs hr hn
    exact ⟨_, ho', by simp; omega⟩

end Sheet

namespace Builder

namespace Call

/-- Whether a call writes on the sheet. The others ask for its text. -/
def writes : Call → Bool
  | .text | .css _ _ _ => false
  | _ => true

variable (activate : Body → Value → Build Unit)

def wording : Call → Build Unit
  | .line l => do let _ ← l.text activate
  | .assign name value => do
    let _ ← Builder.text activate name
    let _ ← Builder.text activate value
  | .block h body => do let _ ← h.worded activate body
  | _ => pure ()

end Call

theorem Method.writes_of_call? {m : Method} {args rest : List Value} {c : Call}
    (h : m.call? args rest = some c) (ht : m ≠ .text) (hc : m ≠ .css) : c.writes = true := by
  unfold Method.call? at h
  split at h <;> simp_all
  all_goals exact h ▸ rfl

theorem Method.writes_of_bind {m : Method} {args : List Value} {named : List (String × Value)}
    {c : Call} (h : m.bind args named = .ok c) (ht : m ≠ .text) (hc : m ≠ .css) :
    c.writes = true := by
  unfold Method.bind at h
  rcases hb : m.signature.bind args named with e | ⟨values, rest⟩
  · rw [hb] at h
    cases h
  · simp only [hb, Bind.bind, Except.bind] at h
    split at h
    · next hv =>
      obtain rfl := Except.ok.inj h
      exact m.writes_of_call? hv ht hc
    · cases h

/-- Whether a value is a sheet or a context of it, asked for something else than the text. -/
def IsWriter (id : SheetId) (target : Value) (name : String) : Prop :=
  (target = .sheet id ∧ name ≠ "to_sass" ∧ name ≠ "to_css") ∨ ∃ i, target = .context i id

theorem ofName?_ne {name : String} (ht : name ≠ "to_sass") (hc : name ≠ "to_css") :
    Method.ofName? name ≠ some .text ∧ Method.ofName? name ≠ some .css := by
  unfold Method.ofName?
  split <;> simp_all

theorem writes_of_ofSheet {name : String} {found : Attribute} {args : List Value}
    {named : List (String × Value)} {c : Call} (hf : Attribute.ofSheet name = .ok found)
    (hb : found.bind args named = .ok c) (ht : name ≠ "to_sass") (hc : name ≠ "to_css") :
    c.writes = true := by
  obtain ⟨ht, hc⟩ := ofName?_ne ht hc
  unfold Attribute.ofSheet at hf
  split at hf
  · next m _ hm =>
    obtain rfl := Except.ok.inj hf
    exact Method.writes_of_bind hb (by rintro rfl; exact ht hm) (by rintro rfl; exact hc hm)
  · obtain rfl := Except.ok.inj hf
    cases hb
  · split at hf
    · cases hf
    · obtain rfl := Except.ok.inj hf
      unfold Attribute.ofWord at hb
      split at hb
      · exact Method.writes_of_bind hb nofun nofun
      · split at hb <;> exact Method.writes_of_bind hb nofun nofun

theorem writes_of_ofContext {name : String} {found : Attribute} {args : List Value}
    {named : List (String × Value)} {c : Call} (hf : Attribute.ofContext name = .ok found)
    (hb : found.bind args named = .ok c) : c.writes = true := by
  unfold Attribute.ofContext at hf
  split at hf
  · obtain rfl := Except.ok.inj hf
    exact Method.writes_of_bind hb nofun nofun
  split at hf
  · obtain rfl := Except.ok.inj hf
    cases hb
  split at hf
  · cases hf
  · obtain rfl := Except.ok.inj hf
    exact Method.writes_of_bind hb nofun nofun

theorem IsWriter.writes {id : SheetId} {target : Value} {name : String} {found : Attribute}
    {args : List Value} {named : List (String × Value)} {c : Call} (h : IsWriter id target name)
    (hf : Attribute.ofValue target name = .ok found) (hb : found.bind args named = .ok c) :
    c.writes = true := by
  rcases h with ⟨rfl, ht, hc⟩ | ⟨i, rfl⟩
  · exact writes_of_ofSheet hf hb ht hc
  · exact writes_of_ofContext hf hb

theorem IsWriter.of_resolve {id j : SheetId} {argument target : Value} {on : Receiver}
    {name : String} {args : List Expr} {named : List (String × Expr)} {c : Call} {s t u : Studio}
    (hw : IsWriter id target name) (hr : (receiver argument on).on s = (.ok target, t))
    (h : (resolve argument on name args named).on s = (.ok (j, c), u)) :
    j = id ∧ c.writes = true := by
  rw [resolve, on_bind_ok hr] at h
  obtain ⟨found, t₁, hf, h⟩ := of_bind_ok h
  obtain ⟨args', t₂, -, h⟩ := of_bind_ok h
  obtain ⟨named', t₃, -, h⟩ := of_bind_ok h
  obtain ⟨c', t₄, hb, h⟩ := of_bind_ok h
  rw [on_ofExcept, Prod.mk.injEq] at hf hb
  have hid : sheetOf target = pure id := by
    rcases hw with ⟨rfl, -, -⟩ | ⟨i, rfl⟩ <;> rfl
  rw [hid, pure_bind, on_pure, Prod.mk.injEq, Except.ok.injEq, Prod.mk.injEq] at h
  obtain ⟨⟨rfl, rfl⟩, -⟩ := h
  exact ⟨rfl, hw.writes hf.1 hb.1⟩

section

variable {activate : Body → Value → Build Unit} {s t : Studio} {id : SheetId} {T : String}

theorem on_css_finished (ho : (s.sheet id).output = some T) (includes compress : Value)
    (engine : Engine) : (css activate id includes compress engine).on s =
      (Compiler.Job.run activate ⟨T, includes, compress, engine⟩).on s := by
  rw [css, on_bind_ok (on_render_finished activate ho)]

variable (ha : ∀ b v, (activate b v).IsOrderly)

include ha

/-- A call that would write on a finished sheet makes its texts and fails. -/
theorem on_perform_finished {c : Call} (hc : c.writes = true)
    (ho : (s.sheet id).output = some T) :
    (perform activate id c).on s = (do c.wording activate; throw .finished : Build Value).on s := by
  cases c with
  | line l =>
    rw [perform, Call.wording, bind_assoc]
    rcases h : (l.text activate).on s with ⟨e | words, t⟩
    · rw [on_bind_error h, on_bind_error h]
    · have ht := ((Line.text_isOrderly ha l).develops h).sheet_eq ho
      rw [on_bind_ok h, on_bind_ok h, writeLine, on_bind_error (on_write_finished _ (ht ▸ ho))]
      rfl
  | assign name value =>
    rw [perform, assign, Call.wording, bind_assoc, bind_assoc]
    rcases h₁ : (Builder.text activate name).on s with ⟨e | a, t⟩
    · rw [on_bind_error h₁, on_bind_error h₁]
    have ht := ((text_isOrderly ha name).develops h₁).sheet_eq ho
    rw [on_bind_ok h₁, on_bind_ok h₁, bind_assoc, bind_assoc]
    rcases h₂ : (Builder.text activate value).on t with ⟨e | shown, u⟩
    · rw [on_bind_error h₂, on_bind_error h₂]
    have hu := ((text_isOrderly ha value).develops h₂).sheet_eq (ht ▸ ho)
    rw [on_bind_ok h₂, on_bind_ok h₂, bind_assoc,
      on_bind_error (on_write_finished _ (by rw [hu, ht, ho]))]
    rfl
  | raw chunk =>
    rw [perform, on_bind_error (on_checkWritable_finished ho)]
    rfl
  | block h body =>
    rw [perform, headed, Call.wording, bind_assoc, bind_assoc]
    rcases hw : (h.worded activate body).on s with ⟨e | ⟨heading, h', body'⟩, t⟩
    · rw [on_bind_error hw, on_bind_error hw]
    · have ht := ((Heading.worded_isOrderly ha h body).develops hw).sheet_eq ho
      rw [on_bind_ok hw, on_bind_ok hw]
      exact on_bind_error (on_block_finished (ht ▸ ho))
  | text | css includes compress engine => cases hc

theorem perform_fails_finished {c : Call} (hc : c.writes = true)
    (ho : (s.sheet id).output = some T) : ∃ e, ((perform activate id c).on s).1 = .error e := by
  rw [on_perform_finished ha hc ho]
  rcases h : (c.wording activate).on s with ⟨e | _, t⟩
  · exact ⟨e, by rw [on_bind_error h]⟩
  · exact ⟨_, by rw [on_bind_ok h, on_throw]⟩

theorem callStep_fails_finished {argument target : Value} {on : Receiver} {name : String}
    {args : List Expr} {named : List (String × Expr)} {bind : Option String}
    (hr : (receiver argument on).on s = (.ok target, t)) (hw : IsWriter id target name)
    (ho : (s.sheet id).output = some T) :
    ∃ e, ((callStep activate argument on name args named bind).on s).1 = .error e := by
  rcases hc : (resolve argument on name args named).on s with ⟨e | ⟨j, c⟩, u⟩
  · exact ⟨e, by rw [callStep, on_bind_error hc]⟩
  · obtain ⟨rfl, hcw⟩ := hw.of_resolve hr hc
    have hu := Studio.sheet_of_prefix ((resolve_isQuiet argument on name args named).sheets hc)
      (s.lt_of_output j ho)
    rcases hp : (perform activate j c).on u with ⟨e | v, w⟩
    · exact ⟨e, by rw [callStep, on_bind_ok hc, on_bind_error hp]⟩
    · obtain ⟨e, he⟩ := perform_fails_finished ha hcw (hu ▸ ho)
      simp [hp] at he

end

theorem runSteps_continues (limit : Nat) (argument : Value) (steps : List Step) {s : Studio}
    {id : SheetId} (hid : id < s.sheets.length) (n : Nat) :
    Sheet.Continues (s.sheet id, n)
      (((runSteps (runBodyWithin limit) argument steps).on s).2.sheet id, n) :=
  (runSteps_isOrderly (runBodyWithin_isOrderly limit) argument steps s id hid).2.continues n

/-- Once the text of a sheet has been returned, it is the sheet's text in every continuation of the
run, with `n` raw texts being made for the sheet at that moment. It is asked for without running
anything, the tokens stay, and whatever would write on the sheet makes its texts and fails. The chunks
stay, too, but for the raw texts that were being made: the text is what the chunks come to unless one
of these was not empty. -/
theorem finished_for_good {limit : Nat} {s s₁ : Studio} {id : SheetId} {T : String}
    (ho : (s.sheet id).output = none)
    (h : (render (runBodyWithin limit) id).on s = (.ok T, s₁)) :
    (s₁.sheet id).document = T ∧
    ∀ n m t, Sheet.Continues (s₁.sheet id, n) (t.sheet id, m) →
      (t.sheet id).output = some T ∧
      (t.sheet id).tokens = (s₁.sheet id).tokens ∧
      (∃ raws : List String, (t.sheet id).chunks = (s₁.sheet id).chunks ++ raws.map .raw ∧
        raws.length + m ≤ n ∧ ((t.sheet id).document = T ↔ ∀ w ∈ raws, w = "")) ∧
      (∀ activate, (render activate id).on t = (.ok T, t)) ∧
      (∀ activate, (text activate (.sheet id)).on t = (.ok T, t)) ∧
      (∀ activate includes compress engine, (css activate id includes compress engine).on t =
        (Compiler.Job.run activate ⟨T, includes, compress, engine⟩).on t) ∧
      (∀ limit c, c.writes = true →
        (perform (runBodyWithin limit) id c).on t =
          (do c.wording (runBodyWithin limit); throw .finished : Build Value).on t ∧
        (∃ e, ((perform (runBodyWithin limit) id c).on t).1 = .error e) ∧
        ((perform (runBodyWithin limit) id c).on t).2.sheet id = t.sheet id) ∧
      (∀ limit argument on name args named bind target u,
        (receiver argument on).on t = (.ok target, u) → IsWriter id target name →
        (∃ e, ((callStep (runBodyWithin limit) argument on name args named bind).on t).1 =
          .error e) ∧
        ((callStep (runBodyWithin limit) argument on name args named bind).on t).2.sheet id =
          t.sheet id) ∧
      ∀ limit argument steps,
        ((runSteps (runBodyWithin limit) argument steps).on t).2.sheet id = t.sheet id := by
  obtain ⟨-, -, u, -, hu, rfl, rfl⟩ := of_render_ok (runBodyWithin_isOrderly limit) ho h
  have hf := rendered_sheet hu
  have hs : ((rendered id u).sheet id).output = some (u.sheet id).document := by rw [hf]; rfl
  have hd : ((rendered id u).sheet id).document = (u.sheet id).document := by rw [hf]; rfl
  refine ⟨hd, fun n m t hc ↦ ?_⟩
  obtain ⟨raws, hr, hl⟩ := hc.outlasts hs (by rw [hf]; rfl)
  have ht : (t.sheet id).output = some (u.sheet id).document := hr.output.trans hs
  refine ⟨ht, hr.tokens, ⟨raws, hr.chunks, hl, ?_⟩, fun activate ↦ on_render_finished activate ht,
    fun activate ↦ on_render_finished activate ht, fun activate ↦ on_css_finished ht,
    fun limit c hw ↦ ?_, fun limit argument on name args named bind target v hv hw ↦ ?_,
    fun limit argument steps ↦ ?_⟩
  · rw [← hd]
    exact hr.document_eq_iff
  · have ha := runBodyWithin_isOrderly limit
    exact ⟨on_perform_finished ha hw ht, perform_fails_finished ha hw ht,
      (perform_isOrderly ha id c t).sheet_eq ht⟩
  · have ha := runBodyWithin_isOrderly limit
    exact ⟨callStep_fails_finished ha hv hw ht,
      (callStep_isOrderly ha argument on name args named bind t).sheet_eq ht⟩
  · exact (runSteps_isOrderly (runBodyWithin_isOrderly limit) argument steps t).sheet_eq ht

/-- A sheet that a raw text is being made for. -/
def halfway : Studio := { sheets := [{ chunks := [.raw "x"] }] }

theorem finished_for_good_halfway :
    (halfway.sheet 0).output = none ∧
    ∃ s t, (render (runBodyWithin 0) 0).on halfway = (.ok "x", s) ∧
      Sheet.Continues (s.sheet 0, 1) (t.sheet 0, 0) ∧ (t.sheet 0).output = some "x" ∧
      IsWriter 0 (.sheet 0) "max_width" ∧
      ∃ e, ((callStep (runBodyWithin 0) .none .root "max_width" [.atom (.int 1)] [] none).on t).1 =
        .error e := by
  have ho : (halfway.sheet 0).output = none := rfl
  have h : (render (runBodyWithin 0) 0).on halfway = (.ok "x", rendered 0 (started 0 halfway)) := rfl
  have hw : IsWriter 0 (.sheet 0) "max_width" := .inl ⟨rfl, by decide, by decide⟩
  let s := rendered 0 (started 0 halfway)
  let t := s.updateSheet 0 (·.append (.raw "y"))
  have hc : Sheet.Continues (s.sheet 0, 1) (t.sheet 0, 0) := .single (.rawEnds "y")
  obtain ⟨-, hf⟩ := finished_for_good ho h
  obtain ⟨ht, -, -, -, -, -, -, hcall, -⟩ := hf 1 0 t hc
  exact ⟨ho, s, t, h, hc, ht, hw, (hcall 0 .none .root _ _ _ _ _ _ rfl hw).1⟩

/-- A raw text that is the sheet itself comes in behind the text that its making has fixed. -/
theorem text_is_not_the_chunks :
    let s := Studio.withRoot {} none
    let t := ((runSteps (runBodyWithin 0) .none [.call .root "raw" [.atom (.text "x")] [] none,
      .call .root "raw" [.root] [] none]).on s).2
    ((text (runBodyWithin 0) (.sheet 0)).on t).1 = .ok "x" ∧ (t.sheet 0).document = "xx" :=
  ⟨rfl, rfl⟩

end Builder

end Stylesheet

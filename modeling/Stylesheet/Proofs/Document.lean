import Stylesheet.Proofs.CallTree
import Stylesheet.Proofs.Orderly

namespace Stylesheet

open Build

namespace Builder

def Call.leaf? : Call → Option Tree
  | .line l => if l.isPlain then some (.line l) else none
  | .assign name value =>
    if name.isPlain && value.isPlain then some (.assign name value) else none
  | .raw chunk => if chunk.isPlain then some (.raw chunk) else none
  | _ => none

namespace Heading

/-- What a block of a sheet gives its body. -/
def argument (id : SheetId) (s : Studio) : Heading → Value
  | .ruleWithContext _ => .context s.identities id
  | _ => .sheet id

def inside (s : Studio) : Heading → Studio
  | .ruleWithContext _ => { s with identities := s.identities + 1 }
  | _ => s

theorem on_runBody (h : Heading) (limit : Nat) (id : SheetId) (i : Identity) (b : Body)
    (s : Studio) : (h.runBody (runBodyWithin (limit + 1)) id (.body i b)).on s =
      (runSteps (runBodyWithin limit) (h.argument id s) b.steps).on (h.inside s) := by
  cases h <;> rfl

theorem on_runBody_none (h : Heading) (activate : Body → Value → Build Unit) (id : SheetId)
    (s : Studio) : (h.runBody activate id .none).on s = (.ok (), s) := by
  cases h <;> rfl

theorem sheets_inside (h : Heading) (s : Studio) : (h.inside s).sheets = s.sheets := by
  cases h <;> rfl

end Heading

/-- The calls that steps make on a sheet when they are run on a studio, with plain values and with
nothing or a body in the place of a body. Other steps leave the sheet alone, and if one of them fails,
its error is caught between the calls. -/
inductive Issues (id : SheetId) : Nat → Value → List Step → Studio → List Tree → Prop
  | done {limit : Nat} {argument : Value} {s : Studio} : Issues id limit argument [] s []
  | aside {limit : Nat} {argument : Value} {step : Step} {rest : List Step} {s t : Studio}
      {ts : List Tree} (hs : (runStep (runBodyWithin limit) argument step).on s = (.ok (), t))
      (ht : t.sheet id = s.sheet id) :
      Issues id limit argument rest t ts → Issues id limit argument (step :: rest) s ts
  | attempt {limit : Nat} {argument : Value} {steps rest : List Step} {s : Studio}
      {ts us : List Tree} : Issues id limit argument steps s ts →
      Issues id limit argument rest
        ((runStep (runBodyWithin limit) argument (.attempt steps)).on s).2 us →
      Issues id limit argument (.attempt steps :: rest) s (ts ++ us)
  | caught {limit : Nat} {argument : Value} {steps later rest : List Step} {step : Step}
      {s t u : Studio} {e : Fault} {ts us : List Tree}
      (hs : (runSteps (runBodyWithin limit) argument steps).on s = (.ok (), t))
      (hf : (runStep (runBodyWithin limit) argument step).on t = (.error e, u))
      (hu : u.sheet id = t.sheet id) :
      Issues id limit argument steps s ts →
      Issues id limit argument rest
        ((runStep (runBodyWithin limit) argument (.attempt (steps ++ step :: later))).on s).2 us →
      Issues id limit argument (.attempt (steps ++ step :: later) :: rest) s (ts ++ us)
  | leaf {limit : Nat} {argument : Value} {on : Receiver} {name : String} {args : List Expr}
      {named : List (String × Expr)} {bind : Option String} {rest : List Step} {s u : Studio}
      {c : Call} {t : Tree} {ts : List Tree}
      (hc : (resolve argument on name args named).on s = (.ok (id, c), u))
      (hl : c.leaf? = some t) :
      Issues id limit argument rest
        ((runStep (runBodyWithin limit) argument (.call on name args named bind)).on s).2 ts →
      Issues id limit argument (.call on name args named bind :: rest) s (t :: ts)
  | bare {limit : Nat} {argument : Value} {on : Receiver} {name : String} {args : List Expr}
      {named : List (String × Expr)} {bind : Option String} {rest : List Step} {s u : Studio}
      {h h' : Heading} {body : Value} {ts : List Tree}
      (hc : (resolve argument on name args named).on s = (.ok (id, .block h body), u))
      (hb : (h.split body).on u = (.ok (h', .none), u)) (hp : h'.isPlain = true) :
      Issues id limit argument rest
        ((runStep (runBodyWithin limit) argument (.call on name args named bind)).on s).2 ts →
      Issues id limit argument (.call on name args named bind :: rest) s (.block h' [] :: ts)
  | block {limit : Nat} {argument : Value} {on : Receiver} {name : String} {args : List Expr}
      {named : List (String × Expr)} {bind : Option String} {rest : List Step} {s u : Studio}
      {h h' : Heading} {body : Value} {i : Identity} {b : Body} {children ts : List Tree}
      (hc : (resolve argument on name args named).on s = (.ok (id, .block h body), u))
      (hb : (h.split body).on u = (.ok (h', .body i b), u)) (hp : h'.isPlain = true) :
      Issues id limit (h'.argument id (opened id h'.words u)) b.steps
        (h'.inside (opened id h'.words u)) children →
      Issues id (limit + 1) argument rest
        ((runStep (runBodyWithin (limit + 1)) argument (.call on name args named bind)).on s).2 ts →
      Issues id (limit + 1) argument (.call on name args named bind :: rest) s
        (.block h' children :: ts)

def BodyIssues (id : SheetId) : Nat → Option Body → Studio → List Tree → Prop
  | _, none, _, ts => ts = []
  | 0, some _, _, _ => False
  | limit + 1, some b, s, ts => Issues id limit (.sheet id) b.steps s ts

section

variable {activate : Body → Value → Build Unit} {id : SheetId} {s t u : Studio}

def Bears (id : SheetId) (ts : List Tree) (s t : Studio) : Prop :=
  id < t.sheets.length ∧ t.sheet id = (s.sheet id).bearing ts

theorem Bears.of_sheets {v : Studio} {ts : List Tree} (h : Bears id ts s t)
    (hv : v.sheets = t.sheets) : Bears id ts s v := by
  obtain ⟨hl, hs⟩ := h
  refine ⟨hv ▸ hl, ?_⟩
  rw [Studio.sheet, hv]
  exact hs

theorem Bears.trans {ts us : List Tree} (h : Bears id ts s t) (h' : Bears id us t u) :
    Bears id (ts ++ us) s u :=
  ⟨h'.1, by rw [h'.2, h.2, Sheet.bearing_append]⟩

theorem Bears.output {ts : List Tree} (h : Bears id ts s t) (ho : (s.sheet id).output = none) :
    (t.sheet id).output = none := by
  rw [h.2]
  exact ho

theorem bears_of_update {f : Sheet → Sheet} {ts : List Tree} (hid : id < s.sheets.length)
    (hf : f (s.sheet id) = (s.sheet id).bearing ts) : Bears id ts s (s.updateSheet id f) :=
  ⟨by simpa using hid, by rw [s.sheet_updateSheet_self id f hid, hf]⟩

theorem perform_leaf {c : Call} {x : Tree} (hl : c.leaf? = some x) (hid : id < s.sheets.length)
    (ho : (s.sheet id).output = none) :
    ∃ v t, (perform activate id c).on s = (.ok v, t) ∧ Bears id [x] s t := by
  unfold Call.leaf? at hl
  split at hl <;> simp only [Option.ite_none_right_eq_some, Option.some.injEq, reduceCtorEq] at hl
  · next l =>
    obtain ⟨hp, rfl⟩ := hl
    rw [perform, on_bind_ok (Line.on_text hp), writeLine, on_bind_ok (on_write _ ho)]
    exact ⟨_, _, rfl, bears_of_update hid rfl⟩
  · next name value =>
    obtain ⟨hp, rfl⟩ := hl
    obtain ⟨hn, hv⟩ := Bool.and_eq_true_iff.1 hp
    rw [perform, assign, bind_assoc, on_bind_ok (on_text hn), bind_assoc, on_bind_ok (on_text hv),
      bind_assoc, on_bind_ok (on_write _ ho), bind_assoc, on_bind_ok (on_text hn), bind_assoc,
      on_bind_ok (on_updateSheet _ _ _), Studio.updateSheet_updateSheet]
    exact ⟨_, _, rfl, bears_of_update hid rfl⟩
  · next chunk =>
    obtain ⟨hp, rfl⟩ := hl
    rw [perform, on_bind_ok (on_checkWritable ho), on_bind_ok (on_text hp),
      on_bind_ok (on_updateSheet _ _ _)]
    exact ⟨_, _, rfl, bears_of_update hid rfl⟩

theorem perform_block {h h' : Heading} {body body' : Value} {children : List Tree}
    (hb : (h.split body).on s = (.ok (h', body'), s)) (hp : h'.isPlain = true)
    (hid : id < s.sheets.length) (ho : (s.sheet id).output = none)
    (hi : (h'.runBody activate id body').on (opened id h'.words s) = (.ok (), t))
    (ht : Bears id children (opened id h'.words s) t) :
    ∃ v u, (perform activate id (.block h body)).on s = (.ok v, u) ∧
      Bears id [.block h' children] s u := by
  have hopen : (opened id h'.words s).sheet id = _ := sheet_opened hid
  have hw : (h.worded activate body).on s = (.ok (h'.words, h', body'), s) := by
    rw [Heading.worded, on_bind_ok hb, on_bind_ok (Heading.on_text hp), on_pure]
  have hrise := t.sheet_updateSheet_self id Sheet.rise ht.1
  have hto : ((t.updateSheet id Sheet.rise).sheet id).output = none := by
    rw [hrise]
    exact ht.output (by rw [hopen]; exact ho)
  rw [perform, headed, bind_assoc, on_bind_ok hw]
  refine ⟨.none, _, on_bind_ok ((on_block_ok ho hi).trans (on_write _ hto)), by simpa using ht.1, ?_⟩
  rw [Studio.sheet_updateSheet_self _ _ _ (by simpa using ht.1), hrise, ht.2, hopen,
    Sheet.bearing_block]

theorem on_callStep {argument : Value} {on : Receiver} {name : String} {args : List Expr}
    {named : List (String × Expr)} {c : Call} {v : Value} (bind : Option String)
    (hc : (resolve argument on name args named).on s = (.ok (id, c), u))
    (hp : (perform activate id c).on u = (.ok v, t)) :
    ∃ w, (runStep activate argument (.call on name args named bind)).on s = (.ok (), w) ∧
      w.sheets = t.sheets := by
  rw [runStep, noted, callStep]
  cases bind with
  | none =>
    refine ⟨t.note (.returned v), ?_, rfl⟩
    rw [on_bind_ok (on_outcome _ s), on_bind_ok hc, on_bind_ok hp]
    rfl
  | some n =>
    refine ⟨({ t with names := t.names.set n v } : Studio).note (.returned v), ?_, rfl⟩
    rw [on_bind_ok (on_outcome _ s), on_bind_ok hc, on_bind_ok hp]
    rfl

theorem Bears.refl (hid : id < s.sheets.length) : Bears id [] s s :=
  ⟨hid, (s.sheet id).bearing_nil.symm⟩

theorem runSteps_cons {argument : Value} {step : Step} {rest : List Step} {ts us : List Tree}
    (hs : (runStep activate argument step).on s = (.ok (), t)) (hb : Bears id ts s t)
    (hr : ∃ u, (runSteps activate argument rest).on t = (.ok (), u) ∧ Bears id us t u) :
    ∃ u, (runSteps activate argument (step :: rest)).on s = (.ok (), u) ∧
      Bears id (ts ++ us) s u := by
  obtain ⟨u, hu, hbu⟩ := hr
  exact ⟨u, by rw [runSteps, on_bind_ok hs, hu], hb.trans hbu⟩

theorem resolved {argument : Value} {on : Receiver} {name : String} {args : List Expr}
    {named : List (String × Expr)} {c : Call}
    (hc : (resolve argument on name args named).on s = (.ok (id, c), u))
    (hid : id < s.sheets.length) : id < u.sheets.length ∧ u.sheet id = s.sheet id := by
  have hu := (resolve_isQuiet argument on name args named).sheets hc
  exact ⟨Nat.lt_of_lt_of_le hid hu.length_le, Studio.sheet_of_prefix hu hid⟩

theorem runSteps_call {argument : Value} {on : Receiver} {name : String} {args : List Expr}
    {named : List (String × Expr)} {bind : Option String} {rest : List Step} {c : Call} {v : Value}
    {x : Tree} {ts : List Tree}
    (hc : (resolve argument on name args named).on s = (.ok (id, c), u))
    (hid : id < s.sheets.length) (ho : (s.sheet id).output = none)
    (hp : (perform activate id c).on u = (.ok v, t)) (hb : Bears id [x] u t)
    (hr : ∀ w, ((runStep activate argument (.call on name args named bind)).on s).2 = w →
      id < w.sheets.length → (w.sheet id).output = none →
      ∃ t, (runSteps activate argument rest).on w = (.ok (), t) ∧ Bears id ts w t) :
    ∃ t, (runSteps activate argument (.call on name args named bind :: rest)).on s = (.ok (), t) ∧
      Bears id (x :: ts) s t := by
  obtain ⟨w, hs, hw⟩ := on_callStep bind hc hp
  have hx : Bears id [x] s t := ⟨hb.1, by rw [hb.2, (resolved hc hid).2]⟩
  have hsw := hx.of_sheets hw
  exact runSteps_cons hs hsw (hr w (by rw [hs]) hsw.1 (hsw.output ho))

theorem on_runSteps_append {argument : Value} {steps more : List Step}
    (h : (runSteps activate argument steps).on s = (.ok (), t)) :
    (runSteps activate argument (steps ++ more)).on s = (runSteps activate argument more).on t := by
  induction steps generalizing s with
  | nil =>
    obtain rfl : s = t := congrArg Prod.snd h
    rfl
  | cons step rest ih =>
    rw [runSteps] at h
    obtain ⟨_, u, hs, hr⟩ := of_bind_ok h
    rw [List.cons_append, runSteps, on_bind_ok hs, ih hr]

theorem on_attempt_ok {argument : Value} {steps : List Step}
    (h : (runSteps activate argument steps).on s = (.ok (), t)) :
    (runStep activate argument (.attempt steps)).on s = (.ok (), t.note (.returned .none)) := by
  rw [runStep, on_bind_ok (on_outcome _ s), h]
  rfl

theorem on_attempt_error {argument : Value} {steps : List Step} {e : Fault}
    (h : (runSteps activate argument steps).on s = (.error e, t)) :
    (runStep activate argument (.attempt steps)).on s = (.ok (), t.note (.caught e)) := by
  rw [runStep, on_bind_ok (on_outcome _ s), h]
  rfl

theorem bears_nil {r : Except Fault Unit} {limit : Nat} {argument : Value} {step : Step}
    (hs : (runStep (runBodyWithin limit) argument step).on s = (r, t))
    (ht : t.sheet id = s.sheet id) (hid : id < s.sheets.length) : Bears id [] s t :=
  ⟨((runStep_isOrderly (runBodyWithin_isOrderly limit) argument step).develops hs id hid).1,
    ht.trans (Sheet.bearing_nil _).symm⟩

theorem Issues.runs {limit : Nat} {argument : Value} {steps : List Step} {ts : List Tree}
    (h : Issues id limit argument steps s ts) (hid : id < s.sheets.length)
    (ho : (s.sheet id).output = none) :
    ∃ t, (runSteps (runBodyWithin limit) argument steps).on s = (.ok (), t) ∧ Bears id ts s t := by
  induction h with
  | done => exact ⟨_, rfl, .refl hid⟩
  | aside hs ht _ ih =>
    have hb := bears_nil hs ht hid
    exact runSteps_cons hs hb (ih hb.1 (hb.output ho))
  | attempt _ _ ih ihr =>
    obtain ⟨t, ht, hb⟩ := ih hid ho
    have hs := on_attempt_ok ht
    have hn : Bears id _ _ (t.note (.returned .none)) := hb.of_sheets rfl
    rw [hs] at ihr
    exact runSteps_cons hs hn (ihr hn.1 (hn.output ho))
  | @caught limit argument steps later rest step s t u e ts us hs hf hu _ _ ih ihr =>
    obtain ⟨t', ht, hb⟩ := ih hid ho
    obtain rfl : t = t' := congrArg Prod.snd (hs.symm.trans ht)
    have he : (runSteps (runBodyWithin limit) argument (steps ++ step :: later)).on s =
        (.error e, u) := by
      rw [on_runSteps_append hs, runSteps, on_bind_error hf]
    have hn : Bears id (ts ++ []) s (u.note (.caught e)) :=
      (hb.trans (bears_nil hf hu hb.1)).of_sheets rfl
    rw [List.append_nil] at hn
    have hs' := on_attempt_error he
    rw [hs'] at ihr
    exact runSteps_cons hs' hn (ihr hn.1 (hn.output ho))
  | leaf hc hl _ ih =>
    obtain ⟨hu, he⟩ := resolved hc hid
    obtain ⟨v, t, hp, hb⟩ := perform_leaf hl hu (by rw [he, ho])
    exact runSteps_call hc hid ho hp hb fun w hw ↦ hw ▸ ih
  | @bare limit argument on name args named bind rest s u h h' body ts hc hb hp _ ih =>
    obtain ⟨hu, he⟩ := resolved hc hid
    obtain ⟨v, t, hp, hb⟩ := perform_block hb hp hu (by rw [he, ho])
      (h'.on_runBody_none (runBodyWithin limit) id _) (.refl (by rw [length_opened]; exact hu))
    exact runSteps_call hc hid ho hp hb fun w hw ↦ hw ▸ ih
  | @block limit argument on name args named bind rest s u h h' body i b children ts hc hb hp _ _
      ihb ih =>
    obtain ⟨hu, he⟩ := resolved hc hid
    have hoo : ((opened id h'.words u).sheet id).output = none := by
      rw [sheet_opened hu]
      exact (congrArg Sheet.output he).trans ho
    have hin := h'.sheets_inside (opened id h'.words u)
    have hsheet : (h'.inside (opened id h'.words u)).sheet id = (opened id h'.words u).sheet id := by
      rw [Studio.sheet, Studio.sheet, hin]
    have hlen : id < (h'.inside (opened id h'.words u)).sheets.length := by
      rw [hin, length_opened]
      exact hu
    obtain ⟨t, ht, hbt⟩ := ihb hlen (by rw [hsheet, hoo])
    have hrun := (h'.on_runBody limit id i b (opened id h'.words u)).trans ht
    obtain ⟨v, w, hp, hb⟩ := perform_block hb hp hu (by rw [he, ho]) hrun
      ⟨hbt.1, by rw [hbt.2, hsheet]⟩
    exact runSteps_call hc hid ho hp hb fun w hw ↦ hw ▸ ih

theorem BodyIssues.runs {limit : Nat} {b : Option Body} {us : List Tree}
    (h : BodyIssues id limit b s us) (hb : (s.sheet id).body = b) (hid : id < s.sheets.length)
    (ho : (s.sheet id).output = none) :
    ∃ t, (runSheetBody (runBodyWithin limit) id).on s = (.ok (), t) ∧ Bears id us s t := by
  cases b with
  | none =>
    obtain rfl : us = [] := by cases limit <;> exact h
    exact ⟨s, by rw [runSheetBody, on_bind_ok (on_sheet id s), hb]; rfl, .refl hid⟩
  | some b =>
    cases limit with
    | zero => exact h.elim
    | succ limit =>
      obtain ⟨t, ht, hbt⟩ := Issues.runs h hid ho
      refine ⟨t, ?_, hbt⟩
      rw [runSheetBody, on_bind_ok (on_sheet id s), hb]
      exact ht

end

/-- A new sheet on which steps make the calls `ts`, and then its body the calls `us`, has the document
that is printed from these calls, whichever of them come from the body. -/
theorem document_of_calls {direct limit : Nat} {id : SheetId} {b : Option Body} {s t : Studio}
    {argument : Value} {steps : List Step} {ts us : List Tree} (hid : id < s.sheets.length)
    (hs : s.sheet id = { body := b }) (hts : Issues id direct argument steps s ts)
    (ht : ((runSteps (runBodyWithin direct) argument steps).on s).2 = t)
    (hus : BodyIssues id limit b (started id t) us) :
    (runSteps (runBodyWithin direct) argument steps).on s = (.ok (), t) ∧
    ∃ u, (render (runBodyWithin limit) id).on t = (.ok (Tree.printAll 0 (ts ++ us)), u) ∧
      (u.sheet id).tokens = Tree.declareAll [] (ts ++ us) := by
  obtain ⟨t', hrun, hl, hbt⟩ := hts.runs hid (by rw [hs])
  obtain rfl : t' = t := by rw [← ht, hrun]
  rw [hs] at hbt
  have hstart : (started id t').sheet id = ((({ body := b } : Sheet).bearing ts).start) := by
    rw [started, t'.sheet_updateSheet_self id _ hl, hbt]
  obtain ⟨v, hv, hlv, hbv⟩ := hus.runs (by rw [hstart]; rfl) (by simpa [started] using hl)
    (by rw [hstart]; rfl)
  rw [hstart] at hbv
  have hdoc : (v.sheet id).document = Tree.printAll 0 (ts ++ us) := by
    have hts : (({ body := b } : Sheet).bearing ts).start.document = Tree.printAll 0 ts :=
      (Sheet.document_bearing _ rfl ts).trans String.empty_append
    rw [hbv, Sheet.document_bearing _ rfl, hts, Tree.printAll_append]
  refine ⟨hrun, rendered id v, ?_, ?_⟩
  · rw [on_render_ok hl (by rw [hbt]; rfl) (by rw [hbt]; rfl) hlv hv, hdoc]
  · rw [rendered_sheet hlv, hbv, Tree.declareAll_append]
    rfl

def page : Body where
  steps := [.call .argument "s" [.atom (.text ".a"), .body none
    [.call .argument "extend" [.atom (.text ".b")] [] none]] [] none]

def preface : List Step := [.call .root "v" [.atom (.text "c"), .atom (.text "red")] [] (some "c")]

theorem document_of_page :
    0 < (Studio.withRoot {} (some page)).sheets.length ∧
    (Studio.withRoot {} (some page)).sheet 0 = { body := some page } ∧
    Issues 0 0 .none preface (Studio.withRoot {} (some page))
      [.assign (.text "c") (.text "red")] ∧
    ∃ t u, ((runSteps (runBodyWithin 0) .none preface).on (Studio.withRoot {} (some page))).2 = t ∧
      BodyIssues 0 2 (some page) (started 0 t)
        [.block (.rule (.text ".a")) [.line (.extend (.text ".b"))]] ∧
      (render (runBodyWithin 2) 0).on t =
        (.ok "$c: red;\n.a \x7b\n  @extend .b;\n\x7d\n", u) := by
  have hs : (Studio.withRoot {} (some page)).sheet 0 = { body := some page } := rfl
  have hts : Issues 0 0 .none preface (Studio.withRoot {} (some page))
      [.assign (.text "c") (.text "red")] := .leaf rfl rfl .done
  have hus : BodyIssues 0 2 (some page)
      (started 0 ((runSteps (runBodyWithin 0) .none preface).on (Studio.withRoot {} (some page))).2)
      [.block (.rule (.text ".a")) [.line (.extend (.text ".b"))]] :=
    Issues.block rfl rfl rfl (.leaf rfl rfl .done) .done
  obtain ⟨-, u, hu, -⟩ := document_of_calls Nat.one_pos hs hts rfl hus
  exact ⟨Nat.one_pos, hs, hts, _, u, rfl, hus, hu⟩

end Builder

end Stylesheet

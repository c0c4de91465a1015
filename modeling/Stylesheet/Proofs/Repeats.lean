import Stylesheet.Proofs.Compilation
import Stylesheet.Proofs.Joining

namespace Stylesheet

open Build Builder Include Studio

namespace Engine

/-- An engine that leaves alone what includes stand for. -/
structure IsApart (engine : Engine) : Prop where
  name : engine.name.Keeps (ReadsOnly [])
  compile : ∀ source style, (engine.compile source style).Keeps (ReadsOnly [])

theorem readsOnly_refl (s : Studio) : ReadsOnly [] s s := .of_sources (.refl s) rfl

theorem request_readsOnly (r : Request) : (request r).Keeps (ReadsOnly []) :=
  fun _ ↦ .of_sources ⟨rfl, fun _ ↦ rfl⟩ rfl

theorem answer_readsOnly (result : Value) (error : Option Fault) :
    (answer result error).Keeps (ReadsOnly []) := by
  cases error <;> exact readsOnly_refl

theorem fixed_isApart (result : Value) (error : Option Fault) : (fixed result error).IsApart where
  name := readsOnly_refl
  compile _ _ := .bind ReadsOnly.trans (request_readsOnly _) fun _ ↦ answer_readsOnly result error

theorem installed_isApart (paths : List Value) (precision : Value) :
    (installed paths precision).IsApart where
  name := readsOnly_refl
  compile _ _ := .bind ReadsOnly.trans (request_readsOnly _) fun _ ↦
    .get_bind fun _ ↦ answer_readsOnly _ _

theorem engineName_readsOnly (v : Value) : (engineName v).Keeps (ReadsOnly []) := by
  unfold engineName
  split
  · exact readsOnly_refl
  · refine .bind ReadsOnly.trans (fun s ↦ ?_) fun found ↦ ?_
    · rw [on_ofExcept]
      exact readsOnly_refl s
    · cases found <;> exact readsOnly_refl

theorem ask_compile_readsOnly (activate : Activation) (v : Value) (source style : String) :
    (ask activate v "compile" [.text source, .text style]).Keeps (ReadsOnly []) := by
  -- Neither a declaration nor a block takes that many arguments.
  have hdeclare : ∃ e, Method.declare.bind [.text "compile", .text source, .text style] [] = .error e :=
    ⟨_, rfl⟩
  have hpseudo : ∃ e, Method.pseudo.bind [.text "compile", .text source, .text style] [] = .error e :=
    ⟨_, rfl⟩
  obtain ⟨e, he⟩ := hdeclare
  obtain ⟨e', he'⟩ := hpseudo
  cases v with
  | sheet id =>
    rw [ask, he]
    exact readsOnly_refl
  | context n id =>
    rw [ask, he']
    exact readsOnly_refl
  | _ => exact readsOnly_refl

theorem engineOf_isApart (activate : Activation) (v : Value) : (engineOf activate v).IsApart := by
  cases hv : v.isTruthy
  · have hstandard : engineOf activate v = standard := by simp [engineOf, hv]
    rw [hstandard]
    exact installed_isApart _ _
  · have hvalue : engineOf activate v = ⟨engineName v, fun source style ↦ do
        ask activate v "compile" [.text source, .text style.text]
        return .none⟩ := by simp [engineOf, hv]
    rw [hvalue]
    exact ⟨engineName_readsOnly v, fun source style ↦
      .bind ReadsOnly.trans (ask_compile_readsOnly activate v source style.text) fun _ ↦ readsOnly_refl⟩

end Engine

namespace Include

variable {activate : Activation} {items rest before after : List Value} {item : Value}
  {texts : List String} {s s' t u : Studio} {e : Fault}

theorem mem_of_mem_front {v : Value} (h : v ∈ before ++ [item]) : v ∈ before ++ item :: after := by
  rw [List.append_cons]
  exact List.mem_append_left _ h

def reached (activate : Activation) : List Value → Studio → List StreamId
  | [], _ => []
  | item :: rest, s =>
    streamsOf [item] ++
      match (resolve activate item).on s with
      | (.ok _, t) => reached activate rest t
      | (.error _, _) => []

theorem Resolves.reached (h : Resolves activate items s texts t) :
    Include.reached activate items s = streamsOf items := by
  induction h with
  | nil s => rfl
  | @cons item rest _ _ _ _ _ hx _ ih =>
    rw [Include.reached, hx, streamsOf_cons item rest, ← ih]

theorem Resolves.reached_of_error (h : Resolves activate before s texts t)
    (he : (resolve activate item).on t = (.error e, u)) :
    Include.reached activate (before ++ item :: after) s = streamsOf (before ++ [item]) := by
  induction h with
  | nil s =>
    rw [List.nil_append, Include.reached, he, List.append_nil, List.nil_append]
  | @cons first rest _ _ _ _ _ hx _ ih =>
    rw [List.cons_append, Include.reached, hx, List.cons_append, streamsOf_cons first (rest ++ [item]),
      ← ih he]

def withoutStreams (items : List Value) (texts : List String) : List String :=
  items.zipWith (fun item x ↦ if (stream? item).isSome then "" else x) texts

/-- Items that have been resolved once are resolved again, wherever their streams have nothing to give and
nothing else has changed that they stand for. -/
theorem Resolves.again (hg : ∀ v ∈ items, GivesNoSheet v) (h : Resolves activate items s texts t)
    (hs : s.SameSources s') (hempty : ∀ id ∈ streamsOf items, (s'.unread id).source = .ok "") :
    ∃ t', Resolves activate items s' (withoutStreams items texts) t' := by
  induction h generalizing s' with
  | nil s => exact ⟨s', .nil s'⟩
  | @cons item rest x xs s t u hx _ ih =>
    obtain ⟨hitem, hrest⟩ := List.forall_mem_cons.1 hg
    rw [streamsOf_cons, List.forall_mem_append] at hempty
    obtain ⟨hfirst, hothers⟩ := hempty
    obtain ⟨t', hx'⟩ : ∃ t', (resolve activate item).on s' =
        (.ok (if (stream? item).isSome then "" else x), t') := by
      rcases hi : stream? item with _ | id
      · have hm : (resolve activate item).IsSettled := resolve_isSettled hitem hi
        have hsame := hm.same hs
        rw [hx] at hsame
        exact ⟨((resolve activate item).on s').2, Prod.ext hsame rfl⟩
      · rw [on_resolve_stream hi, hfirst id (by simp [streamsOf_singleton, hi])]
        exact ⟨_, rfl⟩
    have hreads := resolve_readsOnly hitem hx
    have hreads' := resolve_readsOnly hitem hx'
    have hsources := (hreads.symm.trans hs).trans hreads'.toSameSources
    have hlater : ∀ id ∈ streamsOf rest, (t'.unread id).source = .ok "" := by
      intro id hid
      rw [hreads'.source id, hothers id hid, ite_self]
    obtain ⟨u', hr'⟩ := ih hrest hsources hlater
    exact ⟨u', .cons hx' hr'⟩

theorem length_joined_withoutStreams_le (items : List Value) (texts : List String) :
    (joined (withoutStreams items texts)).length ≤ (joined texts).length := by
  induction items generalizing texts with
  | nil => simp [withoutStreams, joined]
  | cons item rest ih =>
    cases texts with
    | nil => simp [withoutStreams, joined]
    | cons x xs =>
      have hrest := ih xs
      rw [withoutStreams, List.zipWith_cons_cons, joined_cons, joined_cons]
      simp only [String.length_append]
      split
      · simp only [String.length_empty]
        exact Nat.add_le_add (by omega) hrest
      · exact Nat.add_le_add_left hrest _

theorem Resolves.empty_of_joined (hg : ∀ v ∈ items, GivesNoSheet v)
    (h : Resolves activate items s texts t)
    (hj : joined (withoutStreams items texts) = joined texts) :
    ∀ id ∈ streamsOf items, (s.unread id).source = .ok "" := by
  induction h with
  | nil s => nofun
  | @cons item rest x xs s t u hx _ ih =>
    obtain ⟨hitem, hrest⟩ := List.forall_mem_cons.1 hg
    have hsplit : withoutStreams (item :: rest) (x :: xs) =
        (if (stream? item).isSome then "" else x) :: withoutStreams rest xs := rfl
    rw [hsplit, joined_cons, joined_cons] at hj
    -- Nothing has become longer behind the first text, so that this has not become shorter.
    have hfirst : (if (stream? item).isSome then "" else x) = x := by
      have hlength := congrArg String.length hj
      have hle := length_joined_withoutStreams_le rest xs
      simp only [String.length_append] at hlength
      split at hlength <;> rename_i hi
      · rw [if_pos hi, eq_comm, ← String.length_eq_zero_iff]
        rw [String.length_empty] at hlength
        omega
      · rw [if_neg hi]
    rw [hfirst] at hj
    have hothers := ih hrest ((String.append_right_inj _).1 hj)
    have hnow : ∀ id ∈ streamsOf [item], (s.unread id).source = .ok "" := by
      intro id hid
      rw [streamsOf_singleton, Option.mem_toList] at hid
      rw [on_resolve_stream hid] at hx
      rw [hid] at hfirst
      have hsource : (s.unread id).source = .ok x := congrArg Prod.fst hx
      rw [hsource, ← hfirst]
      rfl
    rw [streamsOf_cons item rest, List.forall_mem_append]
    refine ⟨hnow, fun id hid ↦ ?_⟩
    by_cases hagain : id ∈ streamsOf [item]
    · exact hnow id hagain
    · have hlast := (resolve_readsOnly hitem hx).source id
      rwa [if_neg hagain, hothers id hid, eq_comm] at hlast

end Include

namespace Compiler.Job

/-- What a job can be asked for: the CSS, or the source that this is made from. -/
inductive Use where
  | css
  | source

section

variable (activate : Activation) (j : Job)

def use : Use → Build Value
  | .css => j.run activate
  | .source => return .text (← j.source activate)

/-- The studio behind uses in a row, of which some may have failed. -/
def after : List Use → Studio → Studio
  | [], s => s
  | u :: rest, s => after rest ((j.use activate u).on s).2

def reached : List Use → Studio → List StreamId
  | [], _ => []
  | u :: rest, s =>
    Include.reached activate (itemsOf j.includes) s ++ reached rest ((j.use activate u).on s).2

end

variable {activate : Activation} {j : Job} {R : List StreamId → Studio → Studio → Prop} {u : Use}
  {uses : List Use} {s : Studio}

/-- Both uses resolve the includes first, and leave alone what these stand for behind that. -/
theorem use_eq (activate : Activation) (he : j.engine.IsApart) (u : Use) :
    ∃ f : String → Build Value, j.use activate u = process activate j.includes >>= f ∧
      ∀ x, (f x).Keeps (ReadsOnly []) := by
  have hpure {α : Type} (a : α) : (pure a : Build α).Keeps (ReadsOnly []) :=
    fun s ↦ .of_sources (.refl s) rfl
  cases u with
  | source =>
    refine ⟨fun x ↦ pure (.text (x ++ j.document)), ?_, fun x ↦ hpure _⟩
    simp only [use, source, bind_assoc, pure_bind]
  | css =>
    refine ⟨_, by simp only [use, run, source, bind_assoc, pure_bind]; rfl, fun x ↦ ?_⟩
    refine .bind ReadsOnly.trans he.name fun name ↦ .bind ReadsOnly.trans (fun s ↦ ?_) fun _ ↦
      .bind ReadsOnly.trans (he.compile _ _) fun css ↦ ?_
    · exact .of_sources ⟨rfl, fun _ ↦ rfl⟩ rfl
    · split
      · exact .bind ReadsOnly.trans (fun s ↦ .of_sources ⟨rfl, fun _ ↦ rfl⟩ rfl) fun _ ↦ hpure _
      · exact fun s ↦ .of_sources (.refl s) rfl

section

variable (hR : IsTally R)

include hR

theorem use_tally (he : j.engine.IsApart) (u : Use) (s : Studio)
    (hstep : ∀ v ∈ itemsOf j.includes, ∀ s r t, (resolve activate v).on s = (r, t) →
      R (streamsOf [v]) s t) :
    R (Include.reached activate (itemsOf j.includes) s) s ((j.use activate u).on s).2 := by
  obtain ⟨f, hf, hrest⟩ := use_eq activate he u
  rw [hf]
  rcases resolves_or_fails activate (itemsOf j.includes) s with
    ⟨texts, t, hr⟩ | ⟨before, item, behind, texts, t, e, v, hi, hr, hx⟩
  · rw [on_bind_ok hr.on_process, hr.reached, ← List.append_nil (streamsOf _)]
    exact hR.trans (hr.tally hR hstep) (hR.nothing (hrest _ t))
  · rw [on_bind_error (hr.on_process_error hi hx), hi, hr.reached_of_error hx]
    rw [hi] at hstep
    exact hr.tally_of_error hR hx fun w hw ↦ hstep w (mem_of_mem_front hw)

theorem after_tally (he : j.engine.IsApart)
    (hstep : ∀ v ∈ itemsOf j.includes, ∀ s r t, (resolve activate v).on s = (r, t) →
      R (streamsOf [v]) s t) (uses : List Use) (s : Studio) :
    R (j.reached activate uses s) s (j.after activate uses s) := by
  induction uses generalizing s with
  | nil => exact hR.nothing (.of_sources (.refl s) rfl)
  | cons u rest ih => exact hR.trans (use_tally hR he u s hstep) (ih _)

end

theorem readsOnly_after (activate : Activation) (he : j.engine.IsApart)
    (hg : ∀ v ∈ itemsOf j.includes, GivesNoSheet v) (uses : List Use) (s : Studio) :
    ReadsOnly (j.reached activate uses s) s (j.after activate uses s) :=
  after_tally readsOnly_isTally he (fun v hv _ _ _ ↦ resolve_readsOnly (hg v hv)) uses s

variable {before : List Value} {item : Value} {texts : List String} {t v : Studio} {e : Fault}
  {id : StreamId}

/-- A stream that has been come to before has nothing to give, whatever the items are. -/
theorem on_resolve_reached (ha : ∀ b v, (activate b v).Keeps StreamsLast) (he : j.engine.IsApart)
    (hr : Resolves activate before (j.after activate uses s) texts t) (hi : stream? item = some id)
    (hl : id < s.streams.length) (hid : id ∈ j.reached activate uses s ++ streamsOf before) :
    ((resolve activate item).on t).1 = .ok "" := by
  have hstep (v : Value) (s t : Studio) (r : Except Fault String)
      (h : (resolve activate v).on s = (r, t)) : Spends (streamsOf [v]) s t := resolve_spends ha h
  have huses : Spends (j.reached activate uses s) s (j.after activate uses s) :=
    after_tally spends_isTally he (fun v _ s r t ↦ hstep v s t r) uses s
  have hbefore := hr.tally spends_isTally fun v _ s r t ↦ hstep v s t r
  have hspent : t.IsSpent id := (spends_isTally.trans huses hbefore).spent id hid hl
  rw [on_resolve_stream hi, hspent.source]

theorem on_resolve_later (he : j.engine.IsApart) (hg : ∀ v ∈ itemsOf j.includes, GivesNoSheet v)
    {behind : List Value} (hitems : itemsOf j.includes = before ++ item :: behind)
    (hr : Resolves activate before (j.after activate uses s) texts t) :
    (stream? item = none → ((resolve activate item).on t).1 = ((resolve activate item).on s).1) ∧
    ∀ id, stream? item = some id → ((resolve activate item).on t).1 =
      if id ∈ j.reached activate uses s ++ streamsOf before then .ok "" else (s.unread id).source := by
  have huses := readsOnly_after activate he hg uses s
  rw [hitems, List.forall_mem_append, List.forall_mem_cons] at hg
  obtain ⟨hbefore, hitem, -⟩ := hg
  have hreads := huses.trans (hr.readsOnly hbefore)
  refine ⟨fun hi ↦ (resolve_isSettled hitem hi).same hreads.toSameSources, fun id hi ↦ ?_⟩
  rw [on_resolve_stream hi]
  exact hreads.source id

theorem resolves_later (he : j.engine.IsApart) (hg : ∀ v ∈ itemsOf j.includes, GivesNoSheet v)
    (h : Resolves activate (itemsOf j.includes) s texts t) (u : Use) (uses : List Use) :
    ∃ t', Resolves activate (itemsOf j.includes) (j.after activate (u :: uses) s)
      (withoutStreams (itemsOf j.includes) texts) t' := by
  have hreads := readsOnly_after activate he hg (u :: uses) s
  refine h.again hg hreads.toSameSources fun id hid ↦ ?_
  have hreached : id ∈ j.reached activate (u :: uses) s := by
    rw [reached, h.reached]
    exact List.mem_append_left _ hid
  rw [hreads.source id, if_pos hreached]

theorem joined_withoutStreams_iff {items : List Value} (hg : ∀ v ∈ items, GivesNoSheet v)
    (h : Resolves activate items s texts t) :
    joined (withoutStreams items texts) = joined texts ↔
      ∀ id ∈ streamsOf items, (s.unread id).source = .ok "" := by
  refine ⟨h.empty_of_joined hg, fun hempty ↦ ?_⟩
  obtain ⟨t', h'⟩ := h.again hg (.refl s) hempty
  have hsame := h'.on_combine
  rw [h.on_combine] at hsame
  exact (Except.ok.inj (congrArg Prod.fst hsame)).symm

theorem on_use_error (he : j.engine.IsApart) {behind : List Value}
    (hitems : itemsOf j.includes = before ++ item :: behind) (hr : Resolves activate before s texts t)
    (hx : (resolve activate item).on t = (.error e, v)) (u : Use) :
    (j.use activate u).on s = (.error e.inIteration, v) := by
  obtain ⟨f, hf, -⟩ := use_eq activate he u
  rw [hf, on_bind_error (hr.on_process_error hitems hx)]

/-- A document that is compiled again and again with the same includes. In every use, an item that is a
stream contributes nothing but its line end if an item before it, or an earlier use, has come to the stream.

If no item gives a sheet, nothing else changes from use to use. A stream has its text where it is come to
first, and all other items contribute the same in every use. So if the first use resolves all items, all
others do, and compile one and the same source, which is that of the first just if no stream had a text. If
the first use fails at an item, the streams before it have been used up, and those that are first listed
behind it are as they were. -/
theorem streams_give_once (limit : Nat) {j : Compiler.Job} (he : j.engine.IsApart) (s : Studio) :
    let activate := runBodyWithin limit
    let items := itemsOf j.includes
    (∀ uses before item behind texts t id, items = before ++ item :: behind →
      Resolves activate before (j.after activate uses s) texts t → stream? item = some id →
      id < s.streams.length → id ∈ j.reached activate uses s ++ streamsOf before →
      ((resolve activate item).on t).1 = .ok "") ∧
    ((∀ v ∈ items, GivesNoSheet v) →
      (∀ uses before item behind texts t, items = before ++ item :: behind →
        Resolves activate before (j.after activate uses s) texts t →
        (stream? item = none →
          ((resolve activate item).on t).1 = ((resolve activate item).on s).1) ∧
        ∀ id, stream? item = some id → ((resolve activate item).on t).1 =
          if id ∈ j.reached activate uses s ++ streamsOf before then .ok ""
          else (s.unread id).source) ∧
      (∀ texts t, Resolves activate items s texts t →
        let first := joined texts ++ j.document
        let later := joined (withoutStreams items texts) ++ j.document
        (j.source activate).on s = (.ok first, t) ∧
        (∀ u uses, let s' := j.after activate (u :: uses) s
          ∃ t', Resolves activate items s' (withoutStreams items texts) t' ∧
            (j.source activate).on s' = (.ok later, t') ∧
            ∀ name, j.engine.IsNamed name →
              (j.run activate).on s' = j.engine.compiled name later j.style t') ∧
        (later = first ↔ ∀ id ∈ streamsOf items, (s.unread id).source = .ok "")) ∧
      ∀ before item behind texts t e v, items = before ++ item :: behind →
        Resolves activate before s texts t → (resolve activate item).on t = (.error e, v) →
        (∀ u, (j.use activate u).on s = (.error e, v)) ∧
        (∀ id ∈ streamsOf before, (v.unread id).source = .ok "") ∧
        ∀ id, id ∉ streamsOf (before ++ [item]) → v.streams[id]? = s.streams[id]?) := by
  intro activate items
  have ha := runBodyWithin_keeps streamsLast_isSteady limit
  refine ⟨fun uses before item behind texts t id _ hr hi hl hid ↦ on_resolve_reached ha he hr hi hl hid,
    fun hg ↦ ⟨fun uses before item behind texts t hitems hr ↦ on_resolve_later he hg hitems hr,
      fun texts t hr ↦ ⟨on_source hr, fun u uses ↦ ?_, ?_⟩,
      fun before item behind texts t e v hitems hr hx ↦ ?_⟩⟩
  · obtain ⟨t', hr'⟩ := resolves_later he hg hr u uses
    exact ⟨t', hr', on_source hr', fun name hn ↦ on_job hn hr'⟩
  · rw [← joined_withoutStreams_iff hg hr]
    exact String.append_left_inj _
  · have hg' : ∀ w ∈ before ++ [item], GivesNoSheet w :=
      fun w hw ↦ hg w (hitems ▸ mem_of_mem_front hw)
    have hreads := hr.readsOnly_of_error hg' hx
    refine ⟨fun u ↦ ?_, fun id hid ↦ ?_, fun id hid ↦ hreads.getElem?_of_not_mem hid⟩
    · rw [on_use_error he hitems hr hx, inIteration_of_resolve (hg' item (by simp)) hx]
    · rw [hreads.source id, if_pos]
      exact streamsOf_append before [item] ▸ List.mem_append_left _ hid

/-- A stream that is listed twice has its text in front, and in the first use only. -/
theorem streams_give_once_shelf :
    let j : Compiler.Job :=
      ⟨"d", .list [.text "a", .textStream 0, .textStream 0], .bool false, .fixed (.text "c") none⟩
    let t := (shelf.spend 0).spend 0
    j.engine.IsApart ∧ (∀ v ∈ itemsOf j.includes, GivesNoSheet v) ∧
      Resolves (runBodyWithin 0) (itemsOf j.includes) shelf ["a", "y", ""] t ∧
      (j.source (runBodyWithin 0)).on shelf = (.ok "a\ny\n\nd", t) ∧
      ∃ t', (j.source (runBodyWithin 0)).on (j.after (runBodyWithin 0) [.css] shelf) =
        (.ok "a\n\n\nd", t') := by
  intro j t
  have he : j.engine.IsApart := Engine.fixed_isApart (.text "c") none
  have hg : ∀ v ∈ itemsOf j.includes, GivesNoSheet v := by
    simp [j, itemsOf, GivesNoSheet]
  have hr : Resolves (runBodyWithin 0) (itemsOf j.includes) shelf ["a", "y", ""] t :=
    .cons rfl (.cons rfl (.cons rfl (.nil t)))
  obtain ⟨-, hplain⟩ := streams_give_once 0 he shelf
  obtain ⟨-, hall, -⟩ := hplain hg
  obtain ⟨hfirst, hlater, -⟩ := hall _ t hr
  obtain ⟨t', -, hsource, -⟩ := hlater .css []
  exact ⟨he, hg, hr, hfirst, t', hsource⟩

def reading : Body where
  steps := [.call .argument "each_loop" [.atom (.text "i"), .name "a"] [] none]

def ofItems (items : List Value) : Compiler.Job := ⟨"", .list items, .bool false, .standard⟩

def showing : Value := .reader 0 (.list [.sheet 0])

def farsighted : Studio where
  sheets := [{ body := some reading }]
  streams := [⟨.text "x", false⟩]
  names := [("a", .textStream 0)]

/-- What is different where items give sheets. The body of a sheet may read streams that are only listed
behind an item that fails. A sheet that is only shown looks different when something has been written on it.
And once a sheet is finished, a selector context of it that has been read before can be read no more. -/
theorem sheets_are_different :
    (¬ ∀ (j : Compiler.Job) (s t v : Studio) (before behind : List Value) (item : Value)
      (texts : List String) (e : Fault) (id : StreamId),
      itemsOf j.includes = before ++ item :: behind → Resolves (runBodyWithin 1) before s texts t →
      (Include.resolve (runBodyWithin 1) item).on t = (.error e, v) →
      id ∈ streamsOf behind → id ∉ streamsOf (before ++ [item]) → v.streams[id]? = s.streams[id]?) ∧
    (¬ ∀ (j : Compiler.Job) (s t t' : Studio) (texts texts' : List String),
      streamsOf (itemsOf j.includes) = [] → Resolves (runBodyWithin 1) (itemsOf j.includes) s texts t →
      Resolves (runBodyWithin 1) (itemsOf j.includes) (j.after (runBodyWithin 1) [.source] s) texts' t' →
      texts' = texts) ∧
    ¬ ∀ (j : Compiler.Job) (s t : Studio) (texts : List String),
      Resolves (runBodyWithin 1) (itemsOf j.includes) s texts t → ∃ texts' t',
        Resolves (runBodyWithin 1) (itemsOf j.includes) (j.after (runBodyWithin 1) [.source] s) texts' t' := by
  refine ⟨fun hall ↦ ?_, fun hall ↦ ?_, fun hall ↦ ?_⟩
  · have hreader : (Include.resolve (runBodyWithin 1) (.reader 0 (.sheet 0))).on farsighted =
      (.ok _, _) := rfl
    have hr := Resolves.cons hreader (.nil _)
    have hwhole := hall (ofItems [.reader 0 (.sheet 0), .int 5, .textStream 0]) farsighted _ _ _
      [.textStream 0] (.int 5) _ _ 0 rfl hr rfl (by decide) (by decide)
    cases hwhole
  · have hx : (Include.resolve (runBodyWithin 1) showing).on farsighted =
      (.ok "[Renderer(pending, chunks=0)]", farsighted) := rfl
    have hcontext : (Include.resolve (runBodyWithin 1) (.context 1 0)).on farsighted =
      (.ok "None", _) := rfl
    have hx' : (Include.resolve (runBodyWithin 1) showing).on
        ((ofItems [showing, .context 1 0]).after (runBodyWithin 1) [.source] farsighted) =
      (.ok "[Renderer(pending, chunks=2)]", _) := rfl
    have hcontext' : (Include.resolve (runBodyWithin 1) (.context 1 0)).on
        ((ofItems [showing, .context 1 0]).after (runBodyWithin 1) [.source] farsighted) =
      (.ok "None", _) := rfl
    have hsame := hall (ofItems [showing, .context 1 0]) farsighted _ _ _ _ rfl
      (.cons hx (.cons hcontext (.nil _))) (.cons hx' (.cons hcontext' (.nil _)))
    exact absurd (List.cons.inj hsame).1 (by decide)
  · have hcontext : (Include.resolve (runBodyWithin 1) (.context 1 0)).on farsighted = (.ok _, _) := rfl
    have hreader : (Include.resolve (runBodyWithin 1) (.reader 0 (.sheet 0))).on
      ((Include.resolve (runBodyWithin 1) (.context 1 0)).on farsighted).2 = (.ok _, _) := rfl
    obtain ⟨texts', t', hr'⟩ := hall (ofItems [.context 1 0, .reader 0 (.sheet 0)]) farsighted _ _
      (.cons hcontext (.cons hreader (.nil _)))
    have hok := hr'.on_combine
    cases hok

end Compiler.Job

end Stylesheet

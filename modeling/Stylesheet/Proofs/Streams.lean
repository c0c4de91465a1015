import Stylesheet.Proofs.Includes
import Stylesheet.Proofs.World

namespace Stylesheet

open Build

theorem Stream.unread_spent (x : Stream) : x.spent.unread = emptied x.unread := by
  obtain ⟨content, spent⟩ := x
  cases spent <;> cases content <;> rfl

theorem Stream.spent_comp_spent : Stream.spent ∘ Stream.spent = Stream.spent := rfl

namespace Studio

variable {ids ids' : List StreamId} {id : StreamId} {s t u : Studio}

/-- What items other than streams stand for depends on nothing else. -/
structure SameSources (s t : Studio) : Prop where
  files : t.files = s.files
  outputs : ∀ id, (t.sheet id).output = (s.sheet id).output

theorem SameSources.refl (s : Studio) : s.SameSources s := ⟨rfl, fun _ ↦ rfl⟩

theorem SameSources.symm (h : s.SameSources t) : t.SameSources s :=
  ⟨h.files.symm, fun id ↦ (h.outputs id).symm⟩

theorem SameSources.trans (h : s.SameSources t) (h' : t.SameSources u) : s.SameSources u :=
  ⟨h'.files.trans h.files, fun id ↦ (h'.outputs id).trans (h.outputs id)⟩

/-- The streams of the list have been read, and no other one. Nothing else has changed that items stand
for. -/
structure ReadsOnly (ids : List StreamId) (s t : Studio) : Prop extends SameSources s t where
  streams : ∀ id : StreamId, t.streams[id]? =
    if id ∈ ids then (s.streams[id]?).map Stream.spent else s.streams[id]?

theorem ReadsOnly.of_sources (h : s.SameSources t) (hs : t.streams = s.streams) : ReadsOnly [] s t :=
  ⟨h, fun id ↦ by simp [hs]⟩

theorem ReadsOnly.spend (id : StreamId) (s : Studio) : ReadsOnly [id] s (s.spend id) :=
  ⟨⟨rfl, fun _ ↦ rfl⟩, fun j ↦ by simp [getElem?_spend]⟩

theorem ReadsOnly.trans (h : ReadsOnly ids s t) (h' : ReadsOnly ids' t u) :
    ReadsOnly (ids ++ ids') s u := by
  refine ⟨h.toSameSources.trans h'.toSameSources, fun id ↦ ?_⟩
  rw [h'.streams id, h.streams id]
  by_cases hid : id ∈ ids <;> by_cases hid' : id ∈ ids' <;>
    simp [hid, hid', Stream.spent_comp_spent]

theorem ReadsOnly.unread (h : ReadsOnly ids s t) (id : StreamId) :
    t.unread id = if id ∈ ids then emptied (s.unread id) else s.unread id := by
  rw [Studio.unread, h.streams id, Studio.unread]
  split
  · cases s.streams[id]? with
    | none => rfl
    | some x => exact x.unread_spent
  · rfl

theorem ReadsOnly.source (h : ReadsOnly ids s t) (id : StreamId) :
    (t.unread id).source = if id ∈ ids then .ok "" else (s.unread id).source := by
  rw [h.unread id]
  split
  · exact Content.source_emptied _
  · rfl

theorem ReadsOnly.getElem?_of_not_mem (h : ReadsOnly ids s t) (hid : id ∉ ids) :
    t.streams[id]? = s.streams[id]? := by
  rw [h.streams id, if_neg hid]

theorem ReadsOnly.streamsLast (h : ReadsOnly ids s t) : s.StreamsLast t := by
  intro id x hx
  rw [h.streams id, hx]
  split
  · exact ⟨x.spent, rfl, rfl, fun _ ↦ rfl⟩
  · exact ⟨x, rfl, rfl, fun h ↦ h⟩

def IsSpent (s : Studio) (id : StreamId) : Prop := ∃ x, s.streams[id]? = some x ∧ x.isSpent = true

theorem IsSpent.source (h : s.IsSpent id) : (s.unread id).source = .ok "" := by
  obtain ⟨x, hx, hspent⟩ := h
  have hunread : s.unread id = emptied x.content := by
    rw [Studio.unread, hx, Option.elim_some, Stream.unread, if_pos hspent]
  rw [hunread, Content.source_emptied]

theorem IsSpent.last (h : s.IsSpent id) (hl : s.StreamsLast t) : t.IsSpent id := by
  obtain ⟨x, hx, hspent⟩ := h
  obtain ⟨y, hy, -, hlast⟩ := hl id x hx
  exact ⟨y, hy, hlast hspent⟩

theorem isSpent_spend (h : id < s.streams.length) : (s.spend id).IsSpent id := by
  refine ⟨(s.streams[id]).spent, ?_, rfl⟩
  rw [getElem?_spend, if_pos rfl, List.getElem?_eq_getElem h]
  rfl

theorem StreamsLast.lt_length (h : s.StreamsLast t) (hid : id < s.streams.length) :
    id < t.streams.length := by
  obtain ⟨y, hy, -⟩ := h id _ (List.getElem?_eq_getElem hid)
  exact (List.getElem?_eq_some_iff.1 hy).1

/-- The streams of the list have been read, whatever else has been done. -/
structure Spends (ids : List StreamId) (s t : Studio) : Prop where
  last : s.StreamsLast t
  spent : ∀ id ∈ ids, id < s.streams.length → t.IsSpent id

/-- A relation that keeps account of the streams that are read. -/
structure IsTally (R : List StreamId → Studio → Studio → Prop) : Prop where
  nothing : ∀ {s t}, ReadsOnly [] s t → R [] s t
  trans : ∀ {ids ids' s t u}, R ids s t → R ids' t u → R (ids ++ ids') s u

theorem readsOnly_isTally : IsTally ReadsOnly where
  nothing h := h
  trans := ReadsOnly.trans

theorem spends_isTally : IsTally Spends where
  nothing h := ⟨h.streamsLast, nofun⟩
  trans {ids ids' s t u} h h' := by
    refine ⟨h.last.trans h'.last, fun id hid hl ↦ ?_⟩
    rcases List.mem_append.1 hid with hid | hid
    · exact (h.spent id hid hl).last h'.last
    · exact h'.spent id hid (h.last.lt_length hl)

theorem SameSources.updateSheet {f : Sheet → Sheet} (hf : ∀ S, (f S).output = S.output) (s : Studio)
    (id : SheetId) : s.SameSources (s.updateSheet id f) := by
  refine ⟨rfl, fun j ↦ ?_⟩
  by_cases h : id = j
  · subst h
    rcases Nat.lt_or_ge id s.sheets.length with hid | hid
    · rw [s.sheet_updateSheet_self id f hid, hf]
    · rw [sheet_eq_default _ _ (by simpa using hid), s.sheet_eq_default id hid]
  · rw [s.sheet_updateSheet_ne id j f h]

end Studio

namespace Build

open Studio

variable {α β : Type} {m : Build α} {f : α → Build β}

/-- A computation that reads no stream, and that fails with errors of this library only. Its result depends
on the files and on the texts of finished sheets, neither of which it changes. -/
structure IsSettled (m : Build α) : Prop where
  same : ∀ {s t : Studio}, s.SameSources t → (m.on t).1 = (m.on s).1
  sources : m.Keeps SameSources
  streams : m.Keeps fun s t ↦ t.streams = s.streams
  unasked : ∀ {s t : Studio} {e : Fault}, m.on s = (.error e, t) → ∀ kind text, e ≠ .asked kind text

theorem IsSettled.pure (a : α) : (pure a : Build α).IsSettled :=
  ⟨fun _ ↦ rfl, .refl, fun _ ↦ rfl, nofun⟩

theorem IsSettled.throw {e : Fault} (he : ∀ kind text, e ≠ .asked kind text) :
    (throw e : Build α).IsSettled :=
  ⟨fun _ ↦ rfl, .refl, fun _ ↦ rfl, fun h ↦ by cases h; exact he⟩

theorem IsSettled.bind (hm : m.IsSettled) (hf : ∀ a, (f a).IsSettled) : (m >>= f).IsSettled where
  same {s t} h := by
    have hsame := hm.same h
    rcases hs : m.on s with ⟨e | a, s'⟩ <;> rcases ht : m.on t with ⟨e' | a', t'⟩ <;>
      rw [hs, ht] at hsame <;> cases hsame
    · rw [on_bind_error hs, on_bind_error ht]
    · rw [on_bind_ok hs, on_bind_ok ht]
      exact (hf a).same (((hm.sources.of_on hs).symm.trans h).trans (hm.sources.of_on ht))
  sources := .bind SameSources.trans hm.sources fun a ↦ (hf a).sources
  streams := .bind (fun h h' ↦ Eq.trans h' h) hm.streams fun a ↦ (hf a).streams
  unasked {s t e} h := by
    rcases hs : m.on s with ⟨e' | a, s'⟩
    · rw [on_bind_error hs] at h
      cases h
      exact hm.unasked hs
    · rw [on_bind_ok hs] at h
      exact (hf a).unasked h

theorem IsSettled.ite {p : Prop} [Decidable p] {n : Build α} (hm : m.IsSettled)
    (hn : n.IsSettled) : (if p then m else n).IsSettled := by
  split
  · exact hm
  · exact hn

theorem IsSettled.log (logger message : String) : (log logger message).IsSettled :=
  ⟨fun _ ↦ rfl, fun _ ↦ ⟨rfl, fun _ ↦ rfl⟩, fun _ ↦ rfl, nofun⟩

theorem IsSettled.get_bind {f : Studio → Build α} (hsame : ∀ {s t}, s.SameSources t → f t = f s)
    (hf : ∀ s, (f s).IsSettled) : (get >>= f).IsSettled where
  same {s t} h := by
    rw [on_bind_ok (on_get _), on_bind_ok (on_get _), hsame h]
    exact (hf s).same h
  sources s := (hf s).sources s
  streams s := (hf s).streams s
  unasked {s t e} h := (hf s).unasked h

theorem IsSettled.ofExcept {r : Except Fault α}
    (hr : ∀ e, r = .error e → ∀ kind text, e ≠ .asked kind text) : (ofExcept r).IsSettled := by
  cases r with
  | ok a => exact .pure a
  | error e => exact .throw (hr e rfl)

theorem IsSettled.updateSheet (id : SheetId) {f : Sheet → Sheet} (hf : ∀ S, (f S).output = S.output) :
    (updateSheet id f).IsSettled :=
  ⟨fun _ ↦ rfl, fun s ↦ .updateSheet hf s id, fun _ ↦ rfl, nofun⟩

theorem shown_isSettled {v : Value} (h : ∀ shown shown', v.shown shown = v.shown shown') :
    (Build.shown v).IsSettled :=
  .ite (.get_bind (fun _ ↦ by rw [Studio.shown, Studio.shown, h]) fun _ ↦ .pure _) (.throw nofun)

end Build

namespace Builder

variable {activate : Activation} {v : Value}

theorem checkWritable_isSettled (id : SheetId) : (checkWritable id).IsSettled := by
  let rest (s : Studio) : Build Unit := if (s.sheet id).isFinished then throw .finished else pure ()
  have hsame {s t : Studio} (h : s.SameSources t) : rest t = rest s := by
    have hfinished : (t.sheet id).isFinished = (s.sheet id).isFinished :=
      congrArg Option.isSome (h.outputs id)
    simp only [rest, hfinished]
  refine .get_bind (f := rest) hsame fun s ↦ ?_
  simp only [rest]
  split
  · exact .throw (by simp)
  · exact .pure ()

theorem write_isSettled (id : SheetId) (chunkAt : Int → Chunk) : (write id chunkAt).IsSettled :=
  .bind (checkWritable_isSettled id) fun _ ↦ .updateSheet id fun _ ↦ rfl

theorem emptyBlock_isSettled (id : SheetId) (heading : String) :
    (block id heading (pure ())).IsSettled := by
  have hrise : Build.andThenAlways (pure ()) (·.updateSheet id Sheet.rise) =
    Build.updateSheet id Sheet.rise := rfl
  rw [block, hrise]
  exact .bind (write_isSettled id _) fun _ ↦ .bind (.updateSheet id fun _ ↦ rfl) fun _ ↦
    .bind (.updateSheet id fun _ ↦ rfl) fun _ ↦ write_isSettled id _

theorem text_isSettled (h : ∀ shown shown', v.shown shown = v.shown shown') :
    (text activate v).IsSettled := by
  cases v with
  | atom a => exact .ite (.pure _) (.throw nofun)
  | sheet id =>
    have hsame : "" = "a" := h (fun _ ↦ "") fun _ ↦ "a"
    exact absurd hsame (by decide)
  | _ => exact shown_isSettled h

end Builder

namespace Include

open Builder Studio

variable {activate : Activation} {items : List Value} {item : Value} {texts : List String}
  {s t u : Studio} {r : Except Fault String} {before : List Value} {e : Fault}

/-- The streams that are among items, as often as they are. -/
def streamsOf (items : List Value) : List StreamId := items.filterMap stream?

/-- Not an item that gives a sheet, which would have to be built, or something that shows one. -/
def GivesNoSheet (item : Value) : Prop :=
  ∀ (n : Identity) (content : Value), item = .reader n content →
    ∀ shown shown', content.shown shown = content.shown shown'

theorem decode_isSettled (b : ByteArray) : (decode b).IsSettled := by
  rw [decode]
  split
  · exact .pure _
  · exact .throw (by simp [Fault.ofBytes])

theorem readFile_isSettled (path : String) : (readFile path).IsSettled := by
  refine .bind (.log _ _) fun _ ↦ .get_bind (fun h ↦ by rw [h.files]) fun s ↦ .ofExcept fun e h ↦ ?_
  rw [Files.Tree.readText] at h
  split at h
  · cases h
    simp
  · split at h <;> cases h
    simp [Fault.ofBytes]

theorem contentOf_isSettled {v : Value} (h : ∀ shown shown', v.shown shown = v.shown shown') :
    (contentOf activate v).IsSettled := by
  have htext : (text activate v).IsSettled := text_isSettled h
  cases v with
  | atom a =>
    cases a with
    | bytes b => exact decode_isSettled b
    | _ => exact htext
  | _ => exact htext

theorem ask_sheet_isSettled (id : SheetId) : (ask activate (.sheet id) "read" []).IsSettled := by
  -- A declaration has a value, which is missing.
  obtain ⟨e, he, hbind⟩ : ∃ e : Fault, (∀ kind text, e ≠ .asked kind text) ∧
      Method.declare.bind [.text "read"] [] = .error e :=
    ⟨_, by simp [Signature.missing, Signature.complaint], rfl⟩
  have hask : ask activate (.sheet id) "read" [] = throw e := by
    rw [ask, hbind]
    rfl
  rw [hask]
  exact .throw he

theorem ask_context_isSettled (n : Identity) (id : SheetId) :
    (ask activate (.context n id) "read" []).IsSettled := by
  have hbind : Method.pseudo.bind [.text "read"] [] = .ok (.block (.pseudo (.text "read")) .none) := rfl
  -- An empty block is written, whatever bodies do.
  have hask : ask activate (.context n id) "read" [] = block id "&:read" (pure ()) := by
    rw [ask, hbind]
    rfl
  rw [hask]
  exact emptyBlock_isSettled id _

theorem resolve_isSettled (hg : GivesNoSheet item) (hs : stream? item = none) :
    (resolve activate item).IsSettled := by
  have hnone : (contentOf activate .none).IsSettled := contentOf_isSettled fun _ _ ↦ rfl
  cases item with
  | atom a =>
    cases a with
    | text name =>
      refine .get_bind (fun h ↦ by rw [h.files]) fun s ↦ ?_
      split
      · exact readFile_isSettled name
      · exact .pure name
    | path p => exact readFile_isSettled _
    | _ => exact .throw (by simp)
  | textStream id | byteStream id => cases hs
  | reader n content => exact contentOf_isSettled (hg n content rfl)
  | sheet id => exact .bind (ask_sheet_isSettled id) fun _ ↦ hnone
  | context n id => exact .bind (ask_context_isSettled n id) fun _ ↦ hnone
  | _ => exact .throw (by simp)

theorem streamsOf_singleton (item : Value) : streamsOf [item] = (stream? item).toList := by
  cases h : stream? item <;> simp [streamsOf, h]

theorem resolve_readsOnly (hg : GivesNoSheet item) (h : (resolve activate item).on s = (r, t)) :
    ReadsOnly (streamsOf [item]) s t := by
  rw [streamsOf_singleton]
  rcases hs : stream? item with _ | id
  · have hm : (resolve activate item).IsSettled := resolve_isSettled hg hs
    exact .of_sources (hm.sources.of_on h) (hm.streams.of_on h)
  · rw [on_resolve_stream hs] at h
    cases h
    exact .spend id s

theorem resolve_spends (ha : ∀ b v, (activate b v).Keeps StreamsLast)
    (h : (resolve activate item).on s = (r, t)) : Spends (streamsOf [item]) s t := by
  have hlast : s.StreamsLast t := ((resolve_composed item).keeps streamsLast_isSteady ha).of_on h
  refine ⟨hlast, fun id hid hl ↦ ?_⟩
  rw [streamsOf_singleton, Option.mem_toList] at hid
  rw [on_resolve_stream hid] at h
  cases h
  exact isSpent_spend hl

theorem streamsOf_append (xs ys : List Value) : streamsOf (xs ++ ys) = streamsOf xs ++ streamsOf ys :=
  List.filterMap_append

theorem streamsOf_cons (item : Value) (rest : List Value) :
    streamsOf (item :: rest) = streamsOf [item] ++ streamsOf rest := streamsOf_append [item] rest

section

variable {R : List StreamId → Studio → Studio → Prop} (hR : IsTally R)

include hR

theorem Resolves.tally (h : Resolves activate items s texts t)
    (hstep : ∀ v ∈ items, ∀ s r t, (resolve activate v).on s = (r, t) → R (streamsOf [v]) s t) :
    R (streamsOf items) s t := by
  induction h with
  | nil s => exact hR.nothing (.of_sources (.refl s) rfl)
  | @cons item rest _ _ _ _ _ hx _ ih =>
    obtain ⟨hitem, hrest⟩ := List.forall_mem_cons.1 hstep
    rw [streamsOf_cons]
    exact hR.trans (hitem _ _ _ hx) (ih hrest)

theorem Resolves.tally_of_error (h : Resolves activate before s texts t)
    (he : (resolve activate item).on t = (.error e, u))
    (hstep : ∀ v ∈ before ++ [item], ∀ s r t, (resolve activate v).on s = (r, t) → R (streamsOf [v]) s t) :
    R (streamsOf (before ++ [item])) s u := by
  obtain ⟨hbefore, hitem⟩ := List.forall_mem_append.1 hstep
  rw [streamsOf_append]
  exact hR.trans (h.tally hR hbefore) (hitem item (by simp) _ _ _ he)

end

theorem Resolves.readsOnly (hg : ∀ v ∈ items, GivesNoSheet v) (h : Resolves activate items s texts t) :
    ReadsOnly (streamsOf items) s t :=
  h.tally readsOnly_isTally fun v hv _ _ _ ↦ resolve_readsOnly (hg v hv)

theorem Resolves.readsOnly_of_error (hg : ∀ v ∈ before ++ [item], GivesNoSheet v)
    (h : Resolves activate before s texts t) (he : (resolve activate item).on t = (.error e, u)) :
    ReadsOnly (streamsOf (before ++ [item])) s u :=
  h.tally_of_error readsOnly_isTally he fun v hv _ _ _ ↦ resolve_readsOnly (hg v hv)

end Include

end Stylesheet

import Stylesheet.Proofs.Computation

namespace Stylesheet

/-- A record with a text for its message, without values for marks in it, and with no fields or with
named ones. -/
structure Log.Record.IsPlain (r : Log.Record) : Prop where
  template : ∃ message, r.template = .text message
  args : r.args = []
  fields : r.fields = .none ∨ ∃ entries, r.fields = .dict entries

theorem Log.plain_isPlain (logger : String) (level : Log.Level) (message : String) :
    (Log.Record.plain logger level message).IsPlain := ⟨⟨message, rfl⟩, rfl, .inl rfl⟩

namespace Studio

/-- A studio in which a sheet has another body. -/
def withBody (s : Studio) (id : SheetId) (b : Option Body) : Studio :=
  s.updateSheet id fun S ↦ { S with body := b }

variable {s t : Studio} {id j : SheetId} {b : Option Body}

/-- The files and the compiler are the same. -/
structure SameWorld (s t : Studio) : Prop where
  files : t.files = s.files
  compiler : t.compiler = s.compiler

theorem SameWorld.refl (s : Studio) : s.SameWorld s := ⟨rfl, rfl⟩

theorem SameWorld.trans {u : Studio} (h : s.SameWorld t) (h' : t.SameWorld u) : s.SameWorld u :=
  ⟨h'.files.trans h.files, h'.compiler.trans h.compiler⟩

def LogsPlainly (s t : Studio) : Prop :=
  ∃ added, t.records = s.records ++ added ∧ ∀ r ∈ added, r.IsPlain

theorem LogsPlainly.of_records (h : t.records = s.records) : s.LogsPlainly t :=
  ⟨[], by simp [h], by simp⟩

theorem LogsPlainly.refl (s : Studio) : s.LogsPlainly s := .of_records rfl

theorem LogsPlainly.trans {u : Studio} (h : s.LogsPlainly t) (h' : t.LogsPlainly u) :
    s.LogsPlainly u := by
  obtain ⟨a, ha, hplain⟩ := h
  obtain ⟨b, hb, hplain'⟩ := h'
  refine ⟨a ++ b, by rw [hb, ha, List.append_assoc], fun r hr ↦ ?_⟩
  rcases List.mem_append.1 hr with hr | hr
  · exact hplain r hr
  · exact hplain' r hr

theorem LogsPlainly.record {r : Log.Record} (hr : r.IsPlain) (s : Studio) :
    s.LogsPlainly (s.record r) := ⟨[r], rfl, by simpa using hr⟩

def StreamsLast (s t : Studio) : Prop :=
  ∀ (id : StreamId) (x : Stream), s.streams[id]? = some x →
    ∃ y, t.streams[id]? = some y ∧ y.content = x.content ∧ (x.isSpent = true → y.isSpent = true)

theorem StreamsLast.of_streams (h : t.streams = s.streams) : s.StreamsLast t :=
  fun _ x hx ↦ ⟨x, by rw [h, hx], rfl, fun hspent ↦ hspent⟩

theorem StreamsLast.refl (s : Studio) : s.StreamsLast s := .of_streams rfl

theorem StreamsLast.trans {u : Studio} (h : s.StreamsLast t) (h' : t.StreamsLast u) :
    s.StreamsLast u := by
  intro id x hx
  obtain ⟨y, hy, hcontent, hspent⟩ := h id x hx
  obtain ⟨z, hz, hcontent', hspent'⟩ := h' id y hy
  exact ⟨z, hz, hcontent'.trans hcontent, hspent' ∘ hspent⟩

theorem sheet_of_prefix (h : s.sheets <+: t.sheets) (hid : id < s.sheets.length) :
    t.sheet id = s.sheet id := by
  obtain ⟨more, hm⟩ := h
  have he : (s.sheets ++ more)[id]? = s.sheets[id]? := List.getElem?_append_left hid
  rw [sheet, sheet, ← hm, List.getD_eq_getElem?_getD, he, List.getD_eq_getElem?_getD]

@[simp] theorem length_withBody : (s.withBody id b).sheets.length = s.sheets.length :=
  s.length_updateSheet id _

theorem sheet_withBody_ne (h : id ≠ j) : (s.withBody id b).sheet j = s.sheet j :=
  s.sheet_updateSheet_ne id j _ h

/-- A sheet is the same but for its body. -/
theorem sheet_withBody (s : Studio) (id : SheetId) (b : Option Body) (j : SheetId) :
    ∃ c, (s.withBody id b).sheet j = { s.sheet j with body := c } := by
  by_cases h : id = j
  · subst h
    rcases Nat.lt_or_ge id s.sheets.length with hid | hid
    · exact ⟨b, s.sheet_updateSheet_self id _ hid⟩
    · refine ⟨none, ?_⟩
      rw [sheet_eq_default _ _ (by simpa using hid), s.sheet_eq_default id hid]
  · exact ⟨(s.sheet j).body, sheet_withBody_ne h⟩

theorem sheetShown_withBody : (s.withBody id b).sheetShown = s.sheetShown := by
  funext j
  obtain ⟨c, hc⟩ := s.sheet_withBody id b j
  rw [sheetShown, hc]
  rfl

theorem shown_withBody (v : Value) : (s.withBody id b).shown v = s.shown v := by
  rw [shown, sheetShown_withBody]
  rfl

theorem note_withBody (o : Outcome) : (s.withBody id b).note o = (s.note o).withBody id b := by
  obtain ⟨c, hc⟩ := s.sheet_withBody id b rootSheet
  rw [note, hc]
  rfl

end Studio

namespace Build

variable {α β : Type} {m : Build α} {f : α → Build β}

/-- A computation that does nothing to sheets but to make new ones, that is the same whatever bodies the
sheets have, that touches neither files nor the compiler, that does nothing to streams but to read them
and to make new ones, and that logs nothing but plain records. -/
structure IsQuiet (m : Build α) : Prop where
  makes : ∀ s : Studio, ∃ bodies : List (Option Body),
    (m.on s).2.sheets = s.sheets ++ bodies.map fun b ↦ { body := b }
  isBlind : ∀ (s : Studio) (id : SheetId) (b : Option Body), id < s.sheets.length →
    m.on (s.withBody id b) = ((m.on s).1, (m.on s).2.withBody id b)
  world : ∀ s : Studio, s.SameWorld (m.on s).2
  logs : ∀ s : Studio, s.LogsPlainly (m.on s).2
  streams : ∀ s : Studio, s.StreamsLast (m.on s).2

theorem IsQuiet.sheets {s t : Studio} {r : Except Fault α} (hm : m.IsQuiet)
    (h : m.on s = (r, t)) : s.sheets <+: t.sheets := by
  obtain ⟨bodies, hs⟩ := hm.makes s
  rw [h] at hs
  exact ⟨_, hs.symm⟩

theorem IsQuiet.of_sheets (hs : ∀ s, (m.on s).2.sheets = s.sheets)
    (hb : ∀ s id b, m.on (s.withBody id b) = ((m.on s).1, (m.on s).2.withBody id b))
    (hw : ∀ s : Studio, s.SameWorld (m.on s).2) (hl : ∀ s : Studio, s.LogsPlainly (m.on s).2)
    (hst : ∀ s : Studio, s.StreamsLast (m.on s).2) : m.IsQuiet :=
  ⟨fun s ↦ ⟨[], by simp [hs s]⟩, fun s id b _ ↦ hb s id b, hw, hl, hst⟩

theorem IsQuiet.pure (a : α) : (pure a : Build α).IsQuiet :=
  .of_sheets (fun _ ↦ rfl) (fun _ _ _ ↦ rfl) (fun s ↦ .refl s) (fun s ↦ .refl s) fun s ↦ .refl s

theorem IsQuiet.throw (e : Fault) : (throw e : Build α).IsQuiet :=
  .of_sheets (fun _ ↦ rfl) (fun _ _ _ ↦ rfl) (fun s ↦ .refl s) (fun s ↦ .refl s) fun s ↦ .refl s

theorem IsQuiet.modify {g : Studio → Studio} (hs : ∀ s, (g s).sheets = s.sheets)
    (hst : ∀ s, (g s).streams = s.streams)
    (hb : ∀ s id b, g (s.withBody id b) = (g s).withBody id b) (hw : ∀ s : Studio, s.SameWorld (g s))
    (hl : ∀ s : Studio, s.LogsPlainly (g s)) : (modify g : Build Unit).IsQuiet := by
  refine .of_sheets hs (fun s id b ↦ ?_) hw hl fun s ↦ .of_streams (hst s)
  change (Except.ok (), g (s.withBody id b)) = (Except.ok (), (g s).withBody id b)
  rw [hb]

theorem IsQuiet.ofExcept (r : Except Fault α) : (ofExcept r).IsQuiet := by
  cases r with
  | ok a => exact .pure a
  | error e => exact .throw e

theorem IsQuiet.log (logger message : String) : (log logger message).IsQuiet :=
  .modify (fun _ ↦ rfl) (fun _ ↦ rfl) (fun _ _ _ ↦ rfl) (fun _ ↦ ⟨rfl, rfl⟩)
    (.record (Log.plain_isPlain _ _ _))

theorem IsQuiet.newIdentity : newIdentity.IsQuiet :=
  .of_sheets (fun _ ↦ rfl) (fun _ _ _ ↦ rfl) (fun _ ↦ ⟨rfl, rfl⟩) (fun _ ↦ .of_records rfl) fun _ ↦
    .of_streams rfl

theorem IsQuiet.newContext (id : SheetId) : (newContext id).IsQuiet :=
  .of_sheets (fun _ ↦ rfl) (fun _ _ _ ↦ rfl) (fun _ ↦ ⟨rfl, rfl⟩) (fun _ ↦ .of_records rfl) fun _ ↦
    .of_streams rfl

theorem IsQuiet.newStream (c : Content) : (newStream c).IsQuiet :=
  .of_sheets (fun _ ↦ rfl) (fun _ _ _ ↦ rfl) (fun _ ↦ ⟨rfl, rfl⟩) (fun _ ↦ .of_records rfl)
    fun s id x hx ↦ by
      have hid : id < s.streams.length := (List.getElem?_eq_some_iff.1 hx).1
      exact ⟨x, (List.getElem?_append_left hid).trans hx, rfl, fun h ↦ h⟩

theorem IsQuiet.newSheet (body : Option Body) : (newSheet body).IsQuiet where
  makes s := ⟨[body], rfl⟩
  world s := ⟨rfl, rfl⟩
  logs s := .of_records rfl
  streams s := .of_streams rfl
  isBlind s id b hid := by
    let f : Sheet → Sheet := fun S ↦ { S with body := b }
    let new : Sheet := { body := body }
    have hl : (s.sheets.modify id f).length = s.sheets.length := by simp
    have hs : s.sheets.modify id f ++ [new] = (s.sheets ++ [new]).modify id f := by
      apply List.ext_getElem?
      intro j
      rw [List.getElem?_modify, List.getElem?_append, List.getElem?_append, List.getElem?_modify, hl]
      split
      · rfl
      · next hj =>
        have hne : id ≠ j := fun h ↦ hj (h ▸ hid)
        simp [hne]
    have hr : (Build.newSheet body).on (s.withBody id b) = (.ok (s.sheets.modify id f).length,
        { s.withBody id b with sheets := s.sheets.modify id f ++ [new] }) := rfl
    rw [hr, hl, hs]
    rfl

theorem IsQuiet.bind (hm : m.IsQuiet) (hf : ∀ a, (f a).IsQuiet) : (m >>= f).IsQuiet where
  makes s := by
    obtain ⟨bodies, hs⟩ := hm.makes s
    rcases h : m.on s with ⟨e | a, t⟩ <;> rw [h] at hs
    · rw [on_bind_error h]
      exact ⟨bodies, hs⟩
    · rw [on_bind_ok h]
      obtain ⟨more, ht⟩ := (hf a).makes t
      exact ⟨bodies ++ more, by rw [ht, hs, List.map_append, List.append_assoc]⟩
  isBlind s id b hid := by
    have hb := hm.isBlind s id b hid
    rcases h : m.on s with ⟨e | a, t⟩ <;> rw [h] at hb
    · rw [on_bind_error h, on_bind_error hb]
    · rw [on_bind_ok h, on_bind_ok hb]
      exact (hf a).isBlind t id b (Nat.lt_of_lt_of_le hid (hm.sheets h).length_le)
  world := Keeps.bind .trans hm.world fun a ↦ (hf a).world
  logs := Keeps.bind .trans hm.logs fun a ↦ (hf a).logs
  streams := Keeps.bind .trans hm.streams fun a ↦ (hf a).streams

theorem IsQuiet.ite {p : Prop} [Decidable p] {n : Build α} (hm : m.IsQuiet) (hn : n.IsQuiet) :
    (if p then m else n).IsQuiet := by
  by_cases hp : p
  · rwa [if_pos hp]
  · rwa [if_neg hp]

theorem IsQuiet.get_bind {f : Studio → Build α} (hb : ∀ s id b, f (s.withBody id b) = f s)
    (hf : ∀ s, (f s).IsQuiet) : (get >>= f).IsQuiet where
  makes s := (hf s).makes s
  isBlind s id b hid := by
    rw [on_bind_ok (on_get _), on_bind_ok (on_get _), hb]
    exact (hf s).isBlind s id b hid
  world s := (hf s).world s
  logs s := (hf s).logs s
  streams s := (hf s).streams s

theorem IsQuiet.shown (v : Value) {f : String → Build α} (hf : ∀ x, (f x).IsQuiet) :
    (get >>= fun s : Studio ↦ f (s.shown v)).IsQuiet :=
  .get_bind (fun _ _ _ ↦ congrArg f (Studio.shown_withBody v)) fun _ ↦ hf _

theorem shown_isQuiet (v : Value) : (Build.shown v).IsQuiet :=
  .ite (.shown v .pure) (.throw _)

def emptied : Content → Content
  | .text _ => .text ""
  | .bytes _ => .bytes ByteArray.empty

end Build

def Stream.unread (x : Stream) : Content := if x.isSpent then Build.emptied x.content else x.content

def Stream.spent (x : Stream) : Stream := { x with isSpent := true }

namespace Studio

def unread (s : Studio) (id : StreamId) : Content := (s.streams[id]?).elim (.text "") Stream.unread

def spend (s : Studio) (id : StreamId) : Studio := { s with streams := s.streams.modify id Stream.spent }

end Studio

namespace Build

theorem on_readStream (id : StreamId) (s : Studio) :
    (readStream id).on s = (.ok (s.unread id), s.spend id) := by
  rw [readStream, on_bind_ok (on_get s), Studio.unread, Studio.spend]
  rcases h : s.streams[id]? with _ | ⟨content, spent⟩
  · rw [List.modify_eq_self (List.getElem?_eq_none_iff.1 h)]
    rfl
  · rw [List.modify_eq_set, h]
    cases spent <;> cases content <;> rfl

theorem getElem?_spend (s : Studio) (id j : StreamId) :
    (s.spend id).streams[j]? =
      if j = id then (s.streams[j]?).map Stream.spent else s.streams[j]? := by
  rw [Studio.spend, List.getElem?_modify]
  by_cases h : j = id
  · simp [h]
  · simp [h, Ne.symm h]

theorem IsQuiet.readStream (id : StreamId) : (readStream id).IsQuiet := by
  refine .of_sheets (fun s ↦ ?_) (fun s i b ↦ ?_) (fun s ↦ ?_) (fun s ↦ ?_) fun s ↦ ?_ <;>
    rw [on_readStream]
  · rfl
  · rw [on_readStream]
    rfl
  · exact ⟨rfl, rfl⟩
  · exact .of_records rfl
  · intro j x hx
    rw [getElem?_spend, hx]
    split
    · exact ⟨x.spent, rfl, rfl, fun _ ↦ rfl⟩
    · exact ⟨x, rfl, rfl, fun h ↦ h⟩

end Build

namespace Builder

open Build

theorem addEntry_isQuiet (entries : List (Value × Value)) (key item : Value) :
    (addEntry entries key item).IsQuiet := .bind (.ofExcept _) fun _ ↦ .pure _

mutual

theorem eval_isQuiet (argument : Value) : (x : Expr) → (eval argument x).IsQuiet
  | .atom a => by
    unfold eval
    split
    · exact .bind .newIdentity fun _ ↦ .pure _
    · exact .pure _
    all_goals contradiction
  | .list xs | .tuple xs => .bind (evalAll_isQuiet argument xs) fun _ ↦ .pure _
  | .dict entries => .bind (evalEntries_isQuiet argument [] entries) fun _ ↦ .pure _
  | .body _ _ => .bind .newIdentity fun _ ↦ .pure _
  | .sheet none | .sheet (some _) => .bind (.newSheet _) fun _ ↦ .pure _
  | .textStream _ | .byteStream _ => .bind (.newStream _) fun _ ↦ .pure _
  | .reader content => .bind (eval_isQuiet argument content) fun _ ↦
      .bind .newIdentity fun _ ↦ .pure _
  | .name n => by
    refine .get_bind (fun _ _ _ ↦ rfl) fun s ↦ ?_
    split
    · exact .pure _
    · exact .throw _
  | .root => .pure _
  | .argument => .pure _
  | .malformed f => .throw f

theorem evalAll_isQuiet (argument : Value) : (xs : List Expr) → (evalAll argument xs).IsQuiet
  | [] => .pure _
  | x :: rest => .bind (eval_isQuiet argument x) fun _ ↦
      .bind (evalAll_isQuiet argument rest) fun _ ↦ .pure _

theorem evalEntries_isQuiet (argument : Value) (done : List (Value × Value)) :
    (entries : List (Expr × Expr)) → (evalEntries argument done entries).IsQuiet
  | [] => .pure _
  | (key, item) :: rest => .bind (eval_isQuiet argument key) fun _ ↦
      .bind (eval_isQuiet argument item) fun _ ↦
        .bind (addEntry_isQuiet done _ _) fun done ↦ evalEntries_isQuiet argument done rest

end

theorem evalNamed_isQuiet (argument : Value) (xs : List (String × Expr)) :
    (evalNamed argument xs).IsQuiet := by
  induction xs with
  | nil => exact .pure _
  | cons x rest ih => exact .bind (eval_isQuiet argument x.2) fun _ ↦ .bind ih fun _ ↦ .pure _

theorem evalOr_isQuiet (argument default : Value) (x : Option Expr) :
    (evalOr argument default x).IsQuiet := by
  cases x with
  | none => exact .pure _
  | some x => exact eval_isQuiet argument x

theorem receiver_isQuiet (argument : Value) (on : Receiver) :
    (receiver argument on).IsQuiet := by
  cases on with
  | argument | root => exact .pure _
  | context => exact .newContext _
  | named n => exact eval_isQuiet argument _

theorem sheetOf_isQuiet (v : Value) : (sheetOf v).IsQuiet := by
  unfold sheetOf
  split
  · exact .pure _
  · exact .pure _
  · exact .throw _

theorem resolve_isQuiet (argument : Value) (on : Receiver) (name : String) (args : List Expr)
    (named : List (String × Expr)) : (resolve argument on name args named).IsQuiet :=
  .bind (receiver_isQuiet argument on) fun target ↦ .bind (.ofExcept _) fun _ ↦
    .bind (evalAll_isQuiet argument args) fun _ ↦ .bind (evalNamed_isQuiet argument named) fun _ ↦
      .bind (.ofExcept _) fun _ ↦ .bind (sheetOf_isQuiet target) fun _ ↦ .pure _

end Builder

end Stylesheet

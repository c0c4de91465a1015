import Stylesheet.Proofs.Orderly

namespace Stylesheet

/-- What an error comes to that is raised in an iteration. -/
def Fault.inIteration (e : Fault) : Fault := if e.kind = "StopIteration" then .endedInside else e

/-- The text that a content is. Bytes need not be one. -/
def Content.source : Content → Except Fault String
  | .text s => .ok s
  | .bytes b =>
    match Text.decodeUtf8? b with
    | some s => .ok s
    | none => .error (.ofBytes b)

theorem Content.source_emptied (c : Content) : (Build.emptied c).source = .ok "" := by
  cases c with
  | text s => rfl
  | bytes b =>
    have h : Text.decodeUtf8? ByteArray.empty = some "" := by decide
    rw [Build.emptied, source, h]

namespace Builder

open Build

variable {α : Type} {m : Build α} {s t : Studio}

theorem on_iterating_ok {a : α} (h : m.on s = (.ok a, t)) : (iterating m).on s = (.ok a, t) := by
  rw [iterating, on_bind_ok (on_outcome m s), h]
  rfl

theorem on_iterating_error {e : Fault} (h : m.on s = (.error e, t)) :
    (iterating m).on s = (.error e.inIteration, t) := by
  rw [iterating, on_bind_ok (on_outcome m s), h]
  rfl

end Builder

namespace Include

open Build Builder

/-- Texts in a row, each followed by a line end. -/
def joined (texts : List String) : String := String.join (texts.map (· ++ "\n"))

theorem joined_cons (x : String) (xs : List String) : joined (x :: xs) = x ++ "\n" ++ joined xs := by
  simp [joined, String.join_cons]

variable {activate : Activation} {items rest before after : List Value} {item : Value}
  {texts : List String} {s t u v : Studio} {e : Fault}

theorem on_readFile (path : String) (s : Studio) :
    (readFile path).on s = (s.files.readText path,
      s.record (.plain "py2sass.compiler" Log.debug ("Reading include file: " ++ path))) := by
  rw [readFile, on_bind_ok (on_log _ _ s), on_bind_ok (on_get _), on_ofExcept]
  rfl

theorem on_resolve_path (p : Path) (s : Studio) :
    (resolve activate (.atom (.path p))).on s = (readFile p.toString).on s := rfl

theorem on_resolve_file {name : String} (h : s.files.isFile name = true) :
    (resolve activate (.text name)).on s = (readFile name).on s := by
  rw [resolve, on_bind_ok (on_get s), if_pos h]

theorem on_resolve_text {name : String} (h : s.files.isFile name = false) :
    (resolve activate (.text name)).on s = (.ok name, s) := by
  rw [resolve, on_bind_ok (on_get s), h]
  rfl

def stream? : Value → Option StreamId
  | .textStream id => some id
  | .byteStream id => some id
  | _ => none

theorem on_decode (b : ByteArray) (s : Studio) : (decode b).on s = ((Content.bytes b).source, s) := by
  rw [decode, Content.source]
  cases Text.decodeUtf8? b <;> rfl

theorem on_resolve_stream {id : StreamId} (h : stream? item = some id) (s : Studio) :
    (resolve activate item).on s = ((s.unread id).source, s.spend id) := by
  cases item <;> cases h <;> rw [resolve, on_bind_ok (on_readStream id s)] <;> split <;>
    next hc => rw [hc]; first | rfl | exact on_decode _ _

/-- The items stand for the texts in order. Each is resolved in the studio that those before it have
left, so that a stream has its content once. -/
inductive Resolves (activate : Activation) : List Value → Studio → List String → Studio → Prop
  | nil (s : Studio) : Resolves activate [] s [] s
  | cons {item : Value} {rest : List Value} {x : String} {xs : List String} {s t u : Studio}
      (h : (resolve activate item).on s = (.ok x, t)) (hr : Resolves activate rest t xs u) :
      Resolves activate (item :: rest) s (x :: xs) u

theorem Resolves.on_combine (h : Resolves activate items s texts t) :
    (combine activate items).on s = (.ok (joined texts), t) := by
  induction h with
  | nil s => rfl
  | cons hx _ ih =>
    rw [combine, on_bind_ok (on_iterating_ok hx), on_bind_ok ih, joined_cons]
    rfl

/-- The first item that fails gives the error, and no item behind it is resolved. -/
theorem Resolves.on_combine_error (h : Resolves activate before s texts t)
    (he : (resolve activate item).on t = (.error e, u)) :
    (combine activate (before ++ item :: after)).on s = (.error e.inIteration, u) := by
  induction h with
  | nil s => rw [List.nil_append, combine, on_bind_error (on_iterating_error he)]
  | cons hx _ ih =>
    rw [List.cons_append, combine, on_bind_ok (on_iterating_ok hx), on_bind_error (ih he)]

theorem Resolves.on_process {includes : Value} (h : Resolves activate (itemsOf includes) s texts t) :
    (process activate includes).on s = (.ok (joined texts), t) := h.on_combine

theorem Resolves.on_process_error {includes : Value} (h : Resolves activate before s texts t)
    (hi : itemsOf includes = before ++ item :: after)
    (he : (resolve activate item).on t = (.error e, u)) :
    (process activate includes).on s = (.error e.inIteration, u) := by
  rw [process, hi, h.on_combine_error he]

theorem resolves_or_fails (activate : Activation) (items : List Value) (s : Studio) :
    (∃ texts t, Resolves activate items s texts t) ∨
    ∃ before item after texts t e u, items = before ++ item :: after ∧
      Resolves activate before s texts t ∧ (resolve activate item).on t = (.error e, u) := by
  induction items generalizing s with
  | nil => exact .inl ⟨[], s, .nil s⟩
  | cons first rest ih =>
    rcases h : (resolve activate first).on s with ⟨e | x, t⟩
    · exact .inr ⟨[], first, rest, [], s, e, t, rfl, .nil s, h⟩
    · rcases ih t with ⟨texts, u, hr⟩ | ⟨before, item, after, texts, u, e, v, rfl, hr, he⟩
      · exact .inl ⟨x :: texts, u, .cons h hr⟩
      · exact .inr ⟨first :: before, item, after, x :: texts, u, e, v, rfl, .cons h hr, he⟩

theorem Resolves.develops (ha : ∀ b v, (activate b v).IsOrderly)
    (h : Resolves activate items s texts t) : s.Develops t :=
  ((combine_composed items).isOrderly ha).develops h.on_combine

end Include

end Stylesheet

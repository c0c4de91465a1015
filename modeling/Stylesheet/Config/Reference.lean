import Stylesheet.Fault
import Stylesheet.Value

namespace Stylesheet

abbrev Environment := Table String String

namespace Environment

/-- The name in the reference at the front, and what follows the reference. A name has at least one
character and ends before the first closing brace. -/
def reference? : List Char → Option (List Char × List Char)
  | '$' :: '\x7b' :: rest =>
    match rest.takeWhile (· != '\x7d'), rest.dropWhile (· != '\x7d') with
    | c :: name, _ :: after => some (c :: name, after)
    | _, _ => none
  | _ => none

theorem length_dropWhile_le (p : Char → Bool) (cs : List Char) :
    (cs.dropWhile p).length ≤ cs.length := by
  induction cs with
  | nil => simp
  | cons c rest ih =>
    by_cases h : p c
    · simpa [h] using Nat.le_succ_of_le ih
    · simp [h]

theorem length_after_reference {cs name after : List Char} (h : reference? cs = some (name, after)) :
    after.length < cs.length := by
  unfold reference? at h
  split at h
  · rename_i rest
    split at h
    · rename_i hd
      have hle := length_dropWhile_le (· != '\x7d') rest
      rw [hd] at hle
      cases h
      simp only [List.length_cons] at hle ⊢
      omega
    · exact absurd h (by simp)
  · exact absurd h (by simp)

def expandChars (env : Environment) : List Char → Except Fault (List Char)
  | [] => .ok []
  | c :: rest =>
    match _h : reference? (c :: rest) with
    | none => (expandChars env rest).map (c :: ·)
    | some (name, after) =>
      match env.get? (String.ofList name) with
      | none => .error (.unsetVariable (String.ofList name))
      | some value => (expandChars env after).map (value.toList ++ ·)
termination_by cs => cs.length
decreasing_by
  · simp
  · exact length_after_reference _h

def expandText (env : Environment) (s : String) : Except Fault String :=
  (env.expandChars s.toList).map String.ofList

mutual

/-- Replaces the references in every text inside lists and as a value in dictionaries. -/
def expand (env : Environment) : Value → Except Fault Value
  | .atom (.text s) => (env.expandText s).map .text
  | .list items => (expandItems env items).map .list
  | .dict entries => (expandEntries env entries).map .dict
  | v => .ok v

def expandItems (env : Environment) : List Value → Except Fault (List Value)
  | [] => .ok []
  | item :: rest =>
    match expand env item with
    | .error e => .error e
    | .ok item => (expandItems env rest).map (item :: ·)

def expandEntries (env : Environment) : List (Value × Value) → Except Fault (List (Value × Value))
  | [] => .ok []
  | (key, item) :: rest =>
    match expand env item with
    | .error e => .error e
    | .ok item => (expandEntries env rest).map ((key, item) :: ·)

end

end Environment

end Stylesheet

namespace Stylesheet

/-- Pairs in the order in which their keys were first set. -/
abbrev Table (α β : Type) := List (α × β)

namespace Table

variable {α β : Type} [BEq α]

def get? (t : Table α β) (key : α) : Option β := (t.find? fun entry ↦ entry.1 == key).map (·.2)

/-- Gives `key` the value: at its place if it has one, at the end otherwise. -/
def set : Table α β → α → β → Table α β
  | [], key, value => [(key, value)]
  | entry :: rest, key, value =>
    if entry.1 == key then (entry.1, value) :: rest else entry :: set rest key value

def keys (t : Table α β) : List α := t.map (·.1)

def setAll (t entries : Table α β) : Table α β :=
  entries.foldl (fun t entry ↦ t.set entry.1 entry.2) t

@[simp] theorem get?_nil (key : α) : get? ([] : Table α β) key = none := rfl

theorem get?_set_self [LawfulBEq α] (t : Table α β) (key : α) (value : β) :
    (t.set key value).get? key = some value := by
  induction t with
  | nil => simp [set, get?]
  | cons entry rest ih =>
    by_cases h : entry.1 == key
    · simp [set, get?, h]
    · simpa [set, get?, h] using ih

theorem get?_set_ne [LawfulBEq α] (t : Table α β) {key other : α} (value : β) (h : key ≠ other) :
    (t.set key value).get? other = t.get? other := by
  induction t with
  | nil => simp [set, get?, h]
  | cons entry rest ih =>
    by_cases hk : entry.1 == key
    · have hne : (entry.1 == other) = false := by
        simp only [beq_iff_eq] at hk
        simpa [hk] using h
      simp [set, get?, hk, hne]
    · by_cases ho : entry.1 == other
      · simp [set, get?, hk, ho]
      · simpa [set, get?, hk, ho] using ih

theorem keys_set [LawfulBEq α] (t : Table α β) (key : α) (value : β) :
    (t.set key value).keys = if key ∈ t.keys then t.keys else t.keys ++ [key] := by
  induction t with
  | nil => simp [set, keys]
  | cons entry rest ih =>
    by_cases h : entry.1 == key
    · simp only [beq_iff_eq] at h
      simp [set, keys, h]
    · have hne : key ≠ entry.1 := fun e ↦ h (by simp [e])
      simp only [keys] at ih
      by_cases hm : key ∈ rest.map (·.1) <;> simp_all [set, keys]

end Table

end Stylesheet

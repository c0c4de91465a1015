import Mathlib.Data.List.Basic
import Stylesheet.Preflight
import Stylesheet.Proofs.PlainText

namespace Stylesheet.Preflight

open Build

def Check.isMissing (needed : Bool) (c : Check) : Bool := !c.isAvailable && c.isRequired == needed

theorem Check.ofNamed_entries (c : Check) :
    ∃ named, c.entries = named.map (fun entry ↦ (.text entry.1, entry.2)) ∧ ofNamed named = .ok c :=
  ⟨[("name", c.name), ("available", c.available), ("version", c.version), ("required", c.required),
    ("path", c.path), ("message", c.message)], rfl, rfl⟩

theorem Check.entries_injective : Function.Injective Check.entries := by
  rintro ⟨⟩ ⟨⟩ h
  simp only [entries, List.cons.injEq, Prod.mk.injEq, true_and, and_true] at h
  obtain ⟨rfl, rfl, rfl, rfl, rfl, rfl⟩ := h
  rfl

namespace Report

/-- What a report comes to when these checks have been added to it, in this order. -/
structure Tells (r : Report) (checks : List Check) : Prop where
  inOrder : r.checks = checks
  errors : r.errors = (checks.filter (Check.isMissing true)).map fun c ↦
    "Required dependency not found: " ++ c.name.plain
  warnings : r.warnings = (checks.filter (Check.isMissing false)).map fun c ↦
    "Optional dependency not found: " ++ c.name.plain
  success : r.success = true ↔ r.errors = []

section

variable {r : Report} {c : Check} {checks : List Check}

theorem tells_nothing : ({} : Report).Tells [] := ⟨rfl, rfl, rfl, by simp⟩

theorem Tells.add (h : r.Tells checks) (c : Check) : (r.add c).Tells (checks ++ [c]) := by
  obtain ⟨hchecks, herrors, hwarnings, hsuccess⟩ := h
  rcases ha : c.isAvailable with _ | _
  · rcases hr : c.isRequired with _ | _
    -- One more warning, and the verdict stays.
    · constructor <;> simp [Report.add, Check.isMissing, *]
    -- One more error, which is the end of success.
    · constructor <;> simp [Report.add, Check.isMissing, *]
  · constructor <;> simp [Report.add, Check.isMissing, *]

theorem Tells.addAll (h : r.Tells checks) (more : List Check) :
    (more.foldl Report.add r).Tells (checks ++ more) := by
  induction more generalizing r checks with
  | nil => simpa using h
  | cons c more ih => simpa using ih (h.add c)

theorem tells_ofChecks (checks : List Check) : (ofChecks checks).Tells checks :=
  tells_nothing.addAll checks

theorem success_of_add (h : (r.add c).success = true) : r.success = true := by
  rw [Report.add] at h
  split at h
  · exact h
  · split at h
    · cases h
    · exact h

theorem success_of_addAll {more : List Check} (h : (more.foldl Report.add r).success = true) :
    r.success = true := by
  induction more generalizing r with
  | nil => exact h
  | cons c more ih => exact success_of_add (ih h)

end

section

variable {activate : Body → Value → Build Unit} {s : Studio} {r : Report} {c : Check}
  {checks : List Check}

theorem on_addNamed (h : c.isAvailable = false → c.name.isPlain = true) :
    (r.addNamed activate c).on s = (.ok (r.add c), s) := by
  rw [addNamed]
  rcases ha : c.isAvailable with _ | _
  · rw [Bool.not_false, if_pos rfl, on_bind_ok (Builder.on_text (h ha)), on_pure]
  · rfl

theorem on_addNamed_all (h : ∀ c ∈ checks, c.isAvailable = false → c.name.isPlain = true) :
    (checks.foldlM (addNamed activate) r).on s = (.ok (checks.foldl Report.add r), s) := by
  induction checks generalizing r with
  | nil => rfl
  | cons c rest ih =>
    obtain ⟨hc, hrest⟩ := List.forall_mem_cons.1 h
    rw [List.foldlM_cons, on_bind_ok (on_addNamed hc), ih hrest, List.foldl_cons]

end

theorem toValue_injective : Function.Injective Report.toValue := by
  rintro ⟨success, checks, errors, warnings⟩ ⟨success', checks', errors', warnings'⟩ h
  simp only [toValue, Value.dict.injEq, List.cons.injEq, Prod.mk.injEq, true_and, and_true,
    Value.list.injEq, Value.atom.injEq, Atom.bool.injEq] at h
  obtain ⟨rfl, hchecks, herrors, hwarnings⟩ := h
  have hentries : Function.Injective fun c : Check ↦ Value.dict c.entries :=
    fun _ _ h ↦ Check.entries_injective (Value.dict.inj h)
  have htext : Function.Injective Value.text := fun _ _ h ↦ Atom.text.inj (Value.atom.inj h)
  obtain rfl := List.map_injective_iff.2 hentries hchecks
  obtain rfl := List.map_injective_iff.2 htext herrors
  obtain rfl := List.map_injective_iff.2 htext hwarnings
  rfl

end Report

/-- A report tells all that was checked, in its order: an error for each check of what is needed and
missing, a warning for each of what is missing and not needed, and success only without errors. What is
checked later does not make it a success again. Its dictionary has the same, and no other report has that
dictionary. Adding the checks one by one comes to the report. -/
theorem reports_tell_all (checks : List Check) :
    let r := Report.ofChecks checks
    r.Tells checks ∧
    (∀ more, r.success = false → (Report.ofChecks (checks ++ more)).success = false) ∧
    r.toValue = .dict [(.text "success", .bool r.errors.isEmpty),
      (.text "checks", .list (checks.map fun c ↦ .dict c.entries)),
      (.text "errors", .list (r.errors.map .text)),
      (.text "warnings", .list (r.warnings.map .text))] ∧
    (∀ c ∈ checks, ∃ named, c.entries = named.map (fun entry ↦ (.text entry.1, entry.2)) ∧
      Check.ofNamed named = .ok c) ∧
    (∀ r' : Report, r'.toValue = r.toValue → r' = r) ∧
    ((∀ c ∈ checks, c.isAvailable = false → c.name.isPlain = true) → ∀ activate s,
      (checks.foldlM (Report.addNamed activate) {}).on s = (.ok r, s)) := by
  intro r
  have htells : r.Tells checks := Report.tells_ofChecks checks
  refine ⟨htells, fun more hfailed ↦ ?_, ?_, fun c _ ↦ c.ofNamed_entries,
    fun _ h ↦ Report.toValue_injective h, fun h _ _ ↦ Report.on_addNamed_all h⟩
  · have happend : Report.ofChecks (checks ++ more) = more.foldl Report.add r := List.foldl_append
    rw [happend, ← Bool.not_eq_true]
    intro hsuccess
    rw [Report.success_of_addAll hsuccess] at hfailed
    cases hfailed
  · have hsuccess : r.success = r.errors.isEmpty := by
      rw [Bool.eq_iff_iff, htells.success, List.isEmpty_iff]
    rw [Report.toValue, htells.inOrder, hsuccess]

/-- A report on what is missing and needed, what is missing and not needed, and what is there. -/
theorem missing_is_told :
    let checks : List Check := [{ name := .text "libsass", available := .bool false },
      { name := .text "extra", available := .bool false, required := .bool false },
      { name := .text "other", available := .bool true }]
    (Report.ofChecks checks).errors = ["Required dependency not found: libsass"] ∧
    (Report.ofChecks checks).warnings = ["Optional dependency not found: extra"] ∧
    (∀ more, (Report.ofChecks (checks ++ more)).success = false) ∧
    ∀ activate s,
      (checks.foldlM (Report.addNamed activate) {}).on s = (.ok (Report.ofChecks checks), s) := by
  intro checks
  obtain ⟨⟨-, herrors, hwarnings, -⟩, hfailed, -, -, -, hadded⟩ := reports_tell_all checks
  refine ⟨herrors, hwarnings, fun more ↦ hfailed more rfl, hadded ?_⟩
  decide

end Stylesheet.Preflight

import Stylesheet.Proofs.Configuration
import Stylesheet.Proofs.Settings

namespace Stylesheet

def Value.isNumberLike : Value → Bool
  | .atom (.int _) | .atom (.bool _) | .atom (.float _) | .nan _ => true
  | .atom (.text _) | .atom (.bytes _) => true
  | _ => false

theorem Environment.unset_of_expand {env : Environment} {v : Value} {f : Fault}
    (h : env.expand v = .error f) : ∃ n, f = .unsetVariable n := by
  obtain ⟨names, -, ha⟩ := env.expand_asks v
  rw [Asks] at ha
  rcases hn : env.unset? names.flatten with _ | n <;> rw [hn] at ha
  · obtain ⟨v', hv'⟩ : ∃ v', env.expand v = .ok v' := ha
    rw [hv'] at h
    cases h
  · have hunset : env.expand v = .error (.unsetVariable n) := ha
    exact ⟨n, Except.error.inj (h.symm.trans hunset)⟩

theorem Environment.unset_of_expandEntries {env : Environment} {es : List (Value × Value)} {f : Fault}
    (h : env.expandEntries es = .error f) : ∃ n, f = .unsetVariable n := by
  have hexpand : env.expand (.dict es) = .error f := by
    rw [expand, h]
    rfl
  exact unset_of_expand hexpand

namespace Config

variable {env : Environment} {es data : List (Value × Value)} {v : Value} {f : Fault} {key : String}

def strayAt? (data : List (Value × Value)) (key : String) : Option Fault :=
  ((Value.entry? data key).filter fun v ↦ v.isTruthy && !v.isDict).map noEntries

def stray? (data : List (Value × Value)) : Option Fault :=
  (strayAt? data "output").or (strayAt? data "compile")

theorem entriesAt_eq_elim (data : List (Value × Value)) (key : String) :
    entriesAt data key = (strayAt? data key).elim (.ok (sectionAt data key)) .error := by
  rw [entriesAt, strayAt?, sectionAt]
  rcases Value.entry? data key with _ | v
  · rfl
  · rw [Option.filter_some]
    cases v with
    | dict entries =>
      have hdict : (Value.dict entries).isDict = true := rfl
      rw [hdict, Bool.not_true, Bool.and_false]
      rfl
    | _ =>
      simp only [Value.isDict, Bool.not_false, Bool.and_true, Option.getD_some]
      split <;> rfl

/-- Once its references are replaced, a dictionary is looked at section by section, and then setting by
setting. -/
theorem ofValue_dict (env : Environment) (es : List (Value × Value)) :
    ofValue env (.dict es) = (env.expandEntries es).bind fun data ↦
      (stray? data).elim (ofSettings (setting? data)) .error := by
  rw [ofValue, Environment.expand]
  rcases env.expandEntries es with f | data
  · rfl
  · have hcompile (entries : List (Value × Value)) :
        compileSettings entries = settingsOf (Value.entry? entries) := compileSettings_eq entries
    simp only [Except.map, bind, Except.bind, entriesAt_eq_elim, stray?]
    rcases strayAt? data "output" with _ | f
    · rcases strayAt? data "compile" with _ | f
      · simp only [Option.elim, hcompile]
        rfl
      · rfl
    · rfl

/-- What a value says of which no number is made. -/
def noNumber (v : Value) : Fault :=
  .wrongType ("int() argument must be a string, a bytes-like object or a real " ++
    "number, not " ++ Text.quoted v.fullTypeName)

/-- A value of which no integer can be made, and not because of what it holds; and what it says. -/
inductive NoNumber : Value → Fault → Prop
  | infinite (negative : Bool) :
      NoNumber (.atom (.float (.infinite negative))) (notFinite (.infinite negative))
  | other {v : Value} (h : v.isNumberLike = false) : NoNumber v (noNumber v)

theorem NoNumber.integer_eq (h : NoNumber v f) : integer v = .error f := by
  cases h with
  | infinite negative => rfl
  | other h =>
    cases v with
    | atom a => cases a <;> first | rfl | cases h
    | nan id => cases h
    | _ => rfl

theorem NoNumber.kind (h : NoNumber v f) : f.kind = "TypeError" ∨ f.kind = "OverflowError" := by
  cases h with
  | infinite negative => exact .inr rfl
  | other h => exact .inl rfl

theorem kind_of_ofNumeral {shown s : String} (h : integer.ofNumeral shown s = .error f) :
    f.kind = "ValueError" := by
  rw [integer.ofNumeral] at h
  rcases hs : Number.integer s with r | n <;> rw [hs] at h <;> cases h
  cases r <;> rfl

theorem of_integer_error (h : integer v = .error f) : f.kind = "ValueError" ∨ NoNumber v f := by
  cases v with
  | atom a =>
    cases a with
    | int n => cases h
    | bool b => cases h
    | float x =>
      cases x with
      | nan =>
        cases h
        exact .inl rfl
      | infinite negative =>
        cases h
        exact .inr (.infinite negative)
      | finite negative m e => cases h
    | text s => exact .inl (kind_of_ofNumeral h)
    | bytes b =>
      rw [integer] at h
      split at h
      · exact .inl (kind_of_ofNumeral h)
      · cases h
        exact .inl rfl
    | _ =>
      cases h
      exact .inr (.other rfl)
  | nan id =>
    cases h
    exact .inl rfl
  | _ =>
    cases h
    exact .inr (.other rfl)

theorem kind_of_listOf (h : CompileSettings.listOf key v = .error f) : f.kind = "ValueError" := by
  cases v <;> cases h <;> rfl

theorem kind_belowZero (n : Int) : (CompileSettings.belowZero (.int n)).kind = "ValueError" := by
  rw [CompileSettings.belowZero]
  cases Number.isWritable n <;> rfl

theorem kind_of_make {compress includes includePaths : Value} {n : Int}
    (h : CompileSettings.make compress includes includePaths (.int n) = .error f) :
    f.kind = "ValueError" := by
  rw [CompileSettings.make] at h
  rcases hi : CompileSettings.listOf "compile.include" includes with e | items <;> rw [hi] at h
  · cases h
    exact kind_of_listOf hi
  rcases hp : CompileSettings.listOf "compile.include_paths" includePaths with e | paths <;> rw [hp] at h
  · cases h
    exact kind_of_listOf hp
  rcases hn : decide (n < 0) with _ | _
  · simp only [CompileSettings.isBelowZero, hn] at h
    cases h
  · simp only [CompileSettings.isBelowZero, hn] at h
    obtain rfl : CompileSettings.belowZero (.int n) = f := Except.error.inj h
    exact kind_belowZero n

theorem of_ofSettings_error {value : String × String → Option Value}
    (h : ofSettings value = .error f) :
    f.kind = "ValueError" ∨ ∃ v, value ("compile", "precision") = some v ∧ NoNumber v f := by
  rw [ofSettings, settingsOf] at h
  rcases hn : integer ((value ("compile", "precision")).getD (.int 5)) with e | n <;>
    simp only [hn] at h
  · cases h
    rcases hv : value ("compile", "precision") with _ | v <;> rw [hv] at hn
    · cases hn
    · exact (of_integer_error hn).imp id fun hv ↦ ⟨v, rfl, hv⟩
  · left
    simp only [bind, Except.bind] at h
    split at h
    · next hm =>
      cases h
      exact kind_of_make hm
    · cases h

theorem ofSettings_of_integer_error {value : String × String → Option Value}
    (hv : value ("compile", "precision") = some v) (h : integer v = .error f) :
    ofSettings value = .error f := by
  simp only [ofSettings, settingsOf, hv, Option.getD_some, h]
  rfl

/-- What is in a place where it does not fit, once references are replaced: the first section that is
none, and behind that a precision of which no number is made. -/
inductive Misfit (data : List (Value × Value)) : Fault → Prop
  | stray {f : Fault} (h : stray? data = some f) : Misfit data f
  | precision {v : Value} {f : Fault} (hs : stray? data = none)
      (hv : setting? data ("compile", "precision") = some v) (h : NoNumber v f) : Misfit data f

theorem kind_of_strayAt? (h : strayAt? data key = some f) :
    f.kind = "AttributeError" ∨ f.kind = "TypeError" := by
  rw [strayAt?, Option.map_eq_some_iff] at h
  obtain ⟨v, -, rfl⟩ := h
  cases v <;> first | exact .inl rfl | exact .inr rfl

theorem Misfit.kind (h : Misfit data f) :
    f.kind ∈ ["AttributeError", "TypeError", "OverflowError"] := by
  cases h with
  | stray h =>
    rcases Option.or_eq_some_iff.1 h with h | ⟨-, h⟩ <;> rcases kind_of_strayAt? h with h | h <;> simp [h]
  | precision hs hv h => rcases h.kind with h | h <;> simp [h]

/-- A dictionary is refused with another error than one of a value just if all its references are set and
something in it does not fit: a section counts as yes and is no dictionary, or the precision is infinite or
of a type that writes no number. -/
theorem refused_otherwise (env : Environment) (es : List (Value × Value)) (f : Fault) :
    ofValue env (.dict es) = .error f ∧ f.kind ≠ "ValueError" ↔
      ∃ data, env.expandEntries es = .ok data ∧ Misfit data f ∧
        f.kind ∈ ["AttributeError", "TypeError", "OverflowError"] := by
  rw [ofValue_dict]
  constructor
  · rintro ⟨h, hkind⟩
    rcases he : env.expandEntries es with e | data <;> rw [he] at h
    · obtain ⟨n, rfl⟩ := Environment.unset_of_expandEntries he
      cases h
      exact absurd rfl hkind
    · have hmisfit : Misfit data f := by
        rcases hs : stray? data with _ | e <;> simp only [Except.bind, hs, Option.elim] at h
        · rcases of_ofSettings_error h with hf | ⟨v, hv, hn⟩
          · exact absurd hf hkind
          · exact .precision hs hv hn
        · cases h
          exact .stray hs
      exact ⟨data, rfl, hmisfit, hmisfit.kind⟩
  · rintro ⟨data, he, hmisfit, hkind⟩
    refine ⟨?_, by rintro hf; simp [hf] at hkind⟩
    rw [he]
    cases hmisfit with
    | stray h => simp [Except.bind, h]
    | precision hs hv h => simpa [Except.bind, hs] using ofSettings_of_integer_error hv h.integer_eq

/-- A list in the place of the precision is refused with an error of another kind. -/
theorem refused_list :
    (Value.dict [(.text "compile", .dict [(.text "precision", .list [.int 5])])]).IsWritten ∧
    ∃ f, ofValue [] (.dict [(.text "compile", .dict [(.text "precision", .list [.int 5])])]) =
      .error f ∧ f.kind = "TypeError" := by
  have hprecision : (Value.list [.int 5]).IsWritten := .list (by simp [Value.IsWritten.atom])
  have hcompile : (Value.dict [(.text "precision", .list [.int 5])]).IsWritten :=
    .dict (by simpa using hprecision)
  exact ⟨.dict (by simpa using hcompile), _, rfl, rfl⟩

end Config

end Stylesheet

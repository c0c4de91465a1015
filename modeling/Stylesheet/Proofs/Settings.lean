import Mathlib
import Stylesheet.Config.Load
import Stylesheet.Proofs.Computation
import Stylesheet.Proofs.SecondExpansion

namespace Stylesheet

theorem Value.isDict_iff {v : Value} : v.isDict = true ↔ ∃ es, v = .dict es := by
  cases v <;> simp [Value.isDict]

namespace Environment

variable {env : Environment} {v : Value} {es es' : List (Value × Value)}

theorem mentions_iff {names : List (List String)} (h : v.texts.Forall₂ Refers names) (n : String) :
    Mentions v n ↔ n ∈ names.flatten := by
  rw [Mentions]
  generalize v.texts = texts at h
  induction h with
  | nil => simp
  | @cons s ns _ _ hs _ ih =>
    rw [List.flatten_cons, List.mem_append, ← ih]
    constructor
    · rintro ⟨s', hs', ns', hr, hn⟩
      rcases List.mem_cons.1 hs' with rfl | hs'
      · exact .inl (hr.unique hs ▸ hn)
      · exact .inr ⟨s', hs', ns', hr, hn⟩
    · rintro (hn | ⟨s', hs', hr⟩)
      · exact ⟨s, List.mem_cons_self .., ns, hs, hn⟩
      · exact ⟨s', List.mem_cons_of_mem _ hs', hr⟩

theorem expand_isOk_iff (env : Environment) (v : Value) :
    (∃ v', env.expand v = .ok v') ↔ ∀ n, Mentions v n → (env.get? n).isSome := by
  obtain ⟨names, hr, ha⟩ := expand_asks env v
  simp only [mentions_iff hr]
  rw [Asks] at ha
  rw [← unset?_eq_none]
  rcases hn : env.unset? names.flatten with _ | n <;> rw [hn] at ha
  · obtain ⟨v', hv'⟩ : ∃ v', env.expand v = .ok v' := ha
    simp [hv']
  · have hv' : env.expand v = .error (.unsetVariable n) := ha
    simp [hv']

/-- What stands under a key is expanded, and no key is added or lost. -/
theorem entry?_expandEntries (h : env.expandEntries es = .ok es') (key : String) :
    Option.Rel (fun v v' ↦ env.expand v = .ok v') (Value.entry? es key) (Value.entry? es' key) := by
  induction es generalizing es' with
  | nil =>
    cases h
    exact .none
  | cons e rest ih =>
    obtain ⟨k, v⟩ := e
    rw [expandEntries_cons] at h
    rcases hv : env.expand v with f | v' <;> rw [hv] at h
    · cases h
    rcases hr : env.expandEntries rest with f | rest' <;> rw [hr] at h <;> cases h
    rcases hk : k.sameKey (.text key) with _ | _
    · simpa [Value.entry?, hk] using ih hr
    · simpa [Value.entry?, hk] using Option.Rel.some hv

end Environment

namespace Config

variable {env : Environment} {es es' fs fs' : List (Value × Value)} {key : String}

/-- The settings that are looked at, each with the section that it is in. -/
def knownKeys : List (String × String) :=
  [("output", "path"), ("compile", "compress"), ("compile", "include"), ("compile", "include_paths"),
    ("compile", "precision")]

def sectionAt (data : List (Value × Value)) (key : String) : List (Value × Value) :=
  match Value.entry? data key with
  | some (.dict entries) => entries
  | _ => []

/-- The value of a setting, if there is one. -/
def setting? (data : List (Value × Value)) (p : String × String) : Option Value :=
  Value.entry? (sectionAt data p.1) p.2

/-- Sections are dictionaries, or missing. -/
def HasSections (data : List (Value × Value)) : Prop :=
  ∀ key ∈ ["output", "compile"], ∀ v, Value.entry? data key = some v → v.isDict = true

def settingsOf (value : String → Option Value) : Except Fault CompileSettings := do
  let compress := ((value "compress").getD (.bool false)).isTruthy
  let includes := ((value "include").getD .none).orElse (.list [])
  let includePaths := ((value "include_paths").getD .none).orElse (.list [])
  let precision ← integer ((value "precision").getD (.int 5))
  CompileSettings.make (.bool compress) includes includePaths (.int precision)

theorem compileSettings_eq (entries : List (Value × Value)) :
    compileSettings entries = settingsOf (Value.entry? entries) := by
  cases entries with
  | nil => rfl
  | cons e rest => rfl

theorem entriesAt_eq (h : entriesAt es key = .ok fs) : fs = sectionAt es key := by
  rw [entriesAt] at h
  rw [sectionAt]
  rcases he : Value.entry? es key with _ | v <;> rw [he] at h
  · cases h
    rfl
  · cases v with
    | dict entries =>
      cases h
      rfl
    | _ =>
      dsimp only [Option.getD_some] at h
      split at h <;> cases h
      rfl

theorem HasSections.entriesAt_eq (h : HasSections es) (hk : key ∈ ["output", "compile"]) :
    entriesAt es key = .ok (sectionAt es key) := by
  rw [entriesAt, sectionAt]
  rcases he : Value.entry? es key with _ | v
  · rfl
  · obtain ⟨entries, rfl⟩ := Value.isDict_iff.1 (h key hk v he)
    rfl

theorem HasSections.expand (h : HasSections es) (he : env.expandEntries es = .ok es')
    (hk : key ∈ ["output", "compile"]) :
    env.expandEntries (sectionAt es key) = .ok (sectionAt es' key) ∧
      ∀ v, Value.entry? es' key = some v → v.isDict = true := by
  have hrel := Environment.entry?_expandEntries he key
  have hdict := h key hk
  rw [sectionAt, sectionAt]
  generalize Value.entry? es key = x at hrel hdict
  generalize Value.entry? es' key = y at hrel
  cases hrel with
  | none => exact ⟨rfl, nofun⟩
  | some hx =>
    obtain ⟨entries, rfl⟩ := Value.isDict_iff.1 (hdict _ rfl)
    rw [Environment.expand] at hx
    rcases hent : env.expandEntries entries with f | entries' <;> rw [hent] at hx <;> cases hx
    exact ⟨rfl, fun v hv ↦ Option.some.inj hv ▸ rfl⟩

theorem section_of_known {p : String × String} (hp : p ∈ knownKeys) : p.1 ∈ ["output", "compile"] := by
  revert p
  decide

theorem setting?_expand (h : HasSections es) (he : env.expandEntries es = .ok es') {p : String × String}
    (hp : p ∈ knownKeys) :
    Option.Rel (fun v v' ↦ env.expand v = .ok v') (setting? es p) (setting? es' p) :=
  Environment.entry?_expandEntries (h.expand he (section_of_known hp)).1 p.2

theorem agree_expand (hes : HasSections es) (hfs : HasSections fs)
    (he : env.expandEntries es = .ok es') (hf : env.expandEntries fs = .ok fs')
    (h : ∀ p ∈ knownKeys, setting? es p = setting? fs p) :
    ∀ p ∈ knownKeys, setting? es' p = setting? fs' p := by
  intro p hp
  have hrel := setting?_expand hes he hp
  have hrel' := setting?_expand hfs hf hp
  rw [h p hp] at hrel
  generalize setting? fs p = given at hrel hrel'
  generalize setting? es' p = x at hrel ⊢
  generalize setting? fs' p = y at hrel' ⊢
  cases hrel with
  | none =>
    cases hrel'
    rfl
  | some hv =>
    obtain ⟨hv'⟩ := hrel'
    rw [hv] at hv'
    rw [Except.ok.inj hv']

def ofSettings (value : String × String → Option Value) : Except Fault Config := do
  let compile ← settingsOf fun key ↦ value ("compile", key)
  return { outputPath := (value ("output", "path")).getD .none, compile : Config }

theorem ofValue_eq (h : HasSections es) (he : env.expandEntries es = .ok es') :
    ofValue env (.dict es) = ofSettings (setting? es') := by
  have hes' : HasSections es' := fun key hk ↦ (h.expand he hk).2
  have hexpand : env.expand (.dict es) = .ok (.dict es') := by
    rw [Environment.expand, he]
    rfl
  have houtput : entriesAt es' "output" = .ok (sectionAt es' "output") := hes'.entriesAt_eq (by simp)
  have hcompile : entriesAt es' "compile" = .ok (sectionAt es' "compile") := hes'.entriesAt_eq (by simp)
  rw [ofValue, hexpand]
  simp only [Except.bind, bind, houtput, hcompile, compileSettings_eq]
  rfl

theorem ofSettings_congr {value value' : String × String → Option Value}
    (h : ∀ p ∈ knownKeys, value p = value' p) : ofSettings value = ofSettings value' := by
  simp only [knownKeys, List.forall_mem_cons] at h
  obtain ⟨hpath, hcompress, hincludes, hpaths, hprecision, -⟩ := h
  simp only [ofSettings, settingsOf, hpath, hcompress, hincludes, hpaths, hprecision]

theorem ofSettings_empty : ofSettings (fun _ ↦ none) = .ok {} := rfl

/-- What a build can rely on: a truth value and a number that is not below zero, beside two lists. -/
structure IsValid (c : Config) : Prop where
  compress : ∃ b, c.compile.compress = .bool b
  precision : ∃ n, c.compile.precision = .int n ∧ 0 ≤ n

/-- The lists of a configuration are those that are given; what counts as no gives an empty one. -/
structure ListsOf (data : List (Value × Value)) (c : Config) : Prop where
  includes : .list c.compile.includes =
    ((setting? data ("compile", "include")).getD .none).orElse (.list [])
  includePaths : .list c.compile.includePaths =
    ((setting? data ("compile", "include_paths")).getD .none).orElse (.list [])

theorem listOf_eq_ok {v : Value} {items : List Value} (h : CompileSettings.listOf key v = .ok items) :
    v = .list items := by
  cases v <;> cases h
  rfl

theorem of_make {compress includes includePaths : Value} {n : Int} {c : CompileSettings}
    (h : CompileSettings.make compress includes includePaths (.int n) = .ok c) :
    c.compress = compress ∧ includes = .list c.includes ∧ includePaths = .list c.includePaths ∧
      c.precision = .int n ∧ 0 ≤ n := by
  rw [CompileSettings.make] at h
  obtain ⟨items, hi, h⟩ := Fault.of_bind_ok h
  obtain ⟨paths, hp, h⟩ := Fault.of_bind_ok h
  obtain ⟨below, hb, h⟩ := Fault.of_bind_ok h
  obtain rfl : decide (n < 0) = below := Except.ok.inj hb
  rcases hn : decide (n < 0) with _ | _ <;> rw [hn] at h <;> cases h
  exact ⟨rfl, listOf_eq_ok hi, listOf_eq_ok hp, rfl, by simpa using hn⟩

theorem of_settingsOf {value : String → Option Value} {c : CompileSettings}
    (h : settingsOf value = .ok c) :
    (∃ b, c.compress = .bool b) ∧ (∃ n, c.precision = .int n ∧ 0 ≤ n) ∧
      .list c.includes = ((value "include").getD .none).orElse (.list []) ∧
      .list c.includePaths = ((value "include_paths").getD .none).orElse (.list []) := by
  rw [settingsOf] at h
  obtain ⟨n, -, h⟩ := Fault.of_bind_ok h
  obtain ⟨hc, hi, hp, hn, hpos⟩ := of_make h
  exact ⟨⟨_, hc⟩, ⟨n, hn, hpos⟩, hi.symm, hp.symm⟩

theorem isValid_of_ofValue {v : Value} {c : Config} (h : ofValue env v = .ok c) :
    c.IsValid ∧ ∀ es, v = .dict es → ∃ es', env.expandEntries es = .ok es' ∧ ListsOf es' c := by
  rw [ofValue] at h
  obtain ⟨v', hv, h⟩ := Fault.of_bind_ok h
  have hdict (es : List (Value × Value)) (he : v = .dict es) :
      ∃ es', env.expandEntries es = .ok es' ∧ v' = .dict es' := by
    subst he
    rw [Environment.expand] at hv
    rcases hx : env.expandEntries es with f | es' <;> rw [hx] at hv <;> cases hv
    exact ⟨es', rfl, rfl⟩
  cases v' with
  | dict data =>
    obtain ⟨output, -, h⟩ := Fault.of_bind_ok h
    obtain ⟨entries, he, h⟩ := Fault.of_bind_ok h
    obtain ⟨settings, hs, h⟩ := Fault.of_bind_ok h
    cases h
    rw [compileSettings_eq, entriesAt_eq he] at hs
    obtain ⟨hc, hn, hi, hp⟩ := of_settingsOf hs
    refine ⟨⟨hc, hn⟩, fun es hes ↦ ?_⟩
    obtain ⟨es', hx, hes'⟩ := hdict es hes
    cases hes'
    exact ⟨data, hx, hi, hp⟩
  | sheet id =>
    cases h
    refine ⟨⟨⟨false, rfl⟩, 5, rfl, by decide⟩, fun es hes ↦ ?_⟩
    obtain ⟨es', -, hes'⟩ := hdict es hes
    cases hes'
  | _ => cases h

/-- Two dictionaries with the same known settings give the same configuration or the same fault, if all
that they refer to is set; without a known setting that is the default. And every configuration that a
value gives is valid. -/
theorem known_settings_decide (hes : HasSections es) (hfs : HasSections fs)
    (hset : ∀ n, Environment.Mentions (.dict es) n → (env.get? n).isSome)
    (hset' : ∀ n, Environment.Mentions (.dict fs) n → (env.get? n).isSome)
    (h : ∀ p ∈ knownKeys, setting? es p = setting? fs p) :
    ofValue env (.dict es) = ofValue env (.dict fs) ∧
    ((∀ p ∈ knownKeys, setting? es p = none) → ofValue env (.dict es) = .ok {}) ∧
    ∀ v c, ofValue env v = .ok c →
      c.IsValid ∧ ∀ data, v = .dict data →
        ∃ data', env.expandEntries data = .ok data' ∧ ListsOf data' c := by
  have hentries {es : List (Value × Value)}
      (hset : ∀ n, Environment.Mentions (.dict es) n → (env.get? n).isSome) :
      ∃ es', env.expandEntries es = .ok es' := by
    obtain ⟨v', hv⟩ := (env.expand_isOk_iff _).2 hset
    rw [Environment.expand] at hv
    rcases hx : env.expandEntries es with f | es' <;> rw [hx] at hv
    · cases hv
    · exact ⟨es', rfl⟩
  obtain ⟨es', he⟩ := hentries hset
  obtain ⟨fs', hf⟩ := hentries hset'
  refine ⟨?_, fun hnone ↦ ?_, fun v c hc ↦ isValid_of_ofValue hc⟩
  · rw [ofValue_eq hes he, ofValue_eq hfs hf]
    exact ofSettings_congr (agree_expand hes hfs he hf h)
  · -- An empty dictionary has no setting either.
    have hempty : HasSections [] := by
      intro key _ v hv
      cases hv
    rw [ofValue_eq hes he, ← ofSettings_empty]
    have hdone : env.expandEntries [] = .ok [] := rfl
    exact ofSettings_congr (agree_expand hes hempty he hdone hnone)

/-- Unknown keys beside the known ones and in sections, one of which is missing in the other dictionary. -/
theorem known_settings_decide_paths :
    let env : Environment := [("OUT", "a.css")]
    let path : Value := .text "$\x7bOUT\x7d"
    let es := [(.text "name", .list [path]), (.text "compile", .dict [(.text "style", .int 1)]),
      (.text "output", .dict [(.text "mode", .none), (.text "path", path)])]
    let fs := [(.text "output", .dict [(.text "path", path)])]
    HasSections es ∧ HasSections fs ∧
      (∀ n, Environment.Mentions (.dict es) n → (env.get? n).isSome) ∧
      (∀ p ∈ knownKeys, setting? es p = setting? fs p) ∧
      ofValue env (.dict es) = ofValue env (.dict fs) := by
  intro env path es fs
  have hes : HasSections es := by
    intro key hk v hv
    fin_cases hk <;> cases hv <;> rfl
  have hfs : HasSections fs := by
    intro key hk v hv
    fin_cases hk <;> cases hv
    rfl
  have hset : ∀ n, Environment.Mentions (.dict es) n → (env.get? n).isSome :=
    (env.expand_isOk_iff _).1 ⟨_, by cbv⟩
  have hset' : ∀ n, Environment.Mentions (.dict fs) n → (env.get? n).isSome :=
    (env.expand_isOk_iff _).1 ⟨_, by cbv⟩
  have hknown : ∀ p ∈ knownKeys, setting? es p = setting? fs p := by
    intro p hp
    fin_cases hp <;> rfl
  exact ⟨hes, hfs, hset, hknown, (known_settings_decide hes hfs hset hset' hknown).1⟩

end Config

end Stylesheet

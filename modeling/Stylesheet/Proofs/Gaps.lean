import Stylesheet.Proofs.Sections

namespace Stylesheet

namespace Value

theorem entry?_append (es fs : List (Value × Value)) (key : String) :
    Value.entry? (es ++ fs) key = (Value.entry? es key).or (Value.entry? fs key) := by
  rw [Value.entry?, Value.entry?, Value.entry?, List.find?_append]
  cases es.find? fun e ↦ e.1.sameKey (.text key) <;> rfl

theorem entry?_text_self (key : String) (v : Value) (es : List (Value × Value)) :
    Value.entry? ((.text key, v) :: es) key = some v := by
  simp [Value.entry?, sameKey, sameAtom]

theorem entry?_text_ne {key other : String} (h : key ≠ other) (v : Value) (es : List (Value × Value)) :
    Value.entry? ((.text key, v) :: es) other = Value.entry? es other := by
  simp [Value.entry?, sameKey, sameAtom, h]

end Value

namespace Environment

variable {env : Environment} {v v' : Value} {v? v?' : Option Value}

theorem expandEntries_append (env : Environment) (es fs : List (Value × Value)) :
    env.expandEntries (es ++ fs) =
      (env.expandEntries es).bind fun es' ↦ (env.expandEntries fs).map (es' ++ ·) := by
  induction es with
  | nil =>
    rw [List.nil_append]
    cases env.expandEntries fs <;> rfl
  | cons e rest ih =>
    obtain ⟨k, v⟩ := e
    rw [List.cons_append, expandEntries_cons, expandEntries_cons, ih]
    rcases env.expand v with f | v'
    · rfl
    · rcases env.expandEntries rest with f | rest'
      · rfl
      · cases env.expandEntries fs <;> rfl

theorem expand_of_not_isTruthy (env : Environment) (h : v.isTruthy = false) : env.expand v = .ok v := by
  cases v with
  | atom a =>
    cases a with
    | text s =>
      obtain rfl : s = "" := by simpa [Value.isTruthy] using h
      rw [expand, expandText, String.toList_empty, expandChars]
      rfl
    | _ => rfl
  | list items =>
    obtain rfl : items = [] := by simpa [Value.isTruthy] using h
    rfl
  | dict entries =>
    obtain rfl : entries = [] := by simpa [Value.isTruthy] using h
    rfl
  | _ => rfl

abbrev ExpandsTo (env : Environment) (v? v?' : Option Value) : Prop :=
  Option.Rel (fun v v' ↦ env.expand v = .ok v') v? v?'

end Environment

namespace Config

open Environment (ExpandsTo)

variable {env : Environment} {es fs data data' : List (Value × Value)} {key other : String}
  {p q : String × String} {v w : Value} {v? v?' w? w?' : Option Value} {f : Fault}

/-- A dictionary without a key, and the place where an entry of this key may be put. -/
structure Gap (key : String) where
  before : List (Value × Value)
  behind : List (Value × Value)
  lacks : Value.entry? (before ++ behind) key = none

namespace Gap

def fill (g : Gap key) (v? : Option Value) : List (Value × Value) :=
  g.before ++ ((v?.map fun v ↦ (.text key, v)).toList ++ g.behind)

theorem fill_none (g : Gap key) : g.fill none = g.before ++ g.behind := rfl

theorem fill_some (g : Gap key) (v : Value) :
    g.fill (some v) = g.before ++ (.text key, v) :: g.behind := rfl

theorem entry?_fill (g : Gap key) (v? : Option Value) : Value.entry? (g.fill v?) key = v? := by
  have hlacks := g.lacks
  rw [Value.entry?_append, Option.or_eq_none_iff] at hlacks
  obtain ⟨hbefore, hbehind⟩ := hlacks
  rw [fill, Value.entry?_append, hbefore, Option.none_or]
  cases v? with
  | none => exact hbehind
  | some v => exact Value.entry?_text_self key v g.behind

theorem entry?_fill_ne (g : Gap key) (h : key ≠ other) (v? : Option Value) :
    Value.entry? (g.fill v?) other = Value.entry? (g.before ++ g.behind) other := by
  cases v? with
  | none => rfl
  | some v => rw [fill_some, Value.entry?_append, Value.entry?_text_ne h, Value.entry?_append]

theorem expandEntries_some (g : Gap key) (v : Value) :
    env.expandEntries (g.fill (some v)) = (env.expandEntries g.before).bind fun before ↦
      (env.expand v).bind fun v' ↦ (env.expandEntries g.behind).map fun behind ↦
        before ++ (.text key, v') :: behind := by
  rw [fill_some, Environment.expandEntries_append, Environment.expandEntries_cons]
  rcases env.expandEntries g.before with f | before
  · rfl
  · rcases env.expand v with f | v'
    · rfl
    · cases env.expandEntries g.behind <;> rfl

/-- The entries around a gap are expanded alike, whatever is put into it. -/
theorem expand_cases (env : Environment) (g : Gap key) :
    (∃ f, ∀ v? v?', env.ExpandsTo v? v?' → env.expandEntries (g.fill v?) = .error f) ∨
    ∃ g' : Gap key, ∀ v? v?', env.ExpandsTo v? v?' → env.expandEntries (g.fill v?) = .ok (g'.fill v?') := by
  rcases hbefore : env.expandEntries g.before with f | before
  · left
    refine ⟨f, fun v? v?' hv ↦ ?_⟩
    cases hv with
    | none => rw [fill_none, Environment.expandEntries_append, hbefore]; rfl
    | some hv => rw [expandEntries_some, hbefore]; rfl
  rcases hbehind : env.expandEntries g.behind with f | behind
  · left
    refine ⟨f, fun v? v?' hv ↦ ?_⟩
    cases hv with
    | none => rw [fill_none, Environment.expandEntries_append, hbefore, hbehind]; rfl
    | some hv => rw [expandEntries_some, hbefore, hv, hbehind]; rfl
  · right
    have hall : env.expandEntries (g.before ++ g.behind) = .ok (before ++ behind) := by
      rw [Environment.expandEntries_append, hbefore, hbehind]
      rfl
    have hlacks : Value.entry? (before ++ behind) key = none := by
      have hrel := Environment.entry?_expandEntries hall key
      rw [g.lacks] at hrel
      generalize Value.entry? (before ++ behind) key = x at hrel
      cases hrel
      rfl
    refine ⟨⟨before, behind, hlacks⟩, fun v? v?' hv ↦ ?_⟩
    cases hv with
    | none => exact hall
    | some hv => rw [expandEntries_some, hbefore, hv, hbehind]; rfl

end Gap

/-- A dictionary with a section in which a setting may be put. -/
structure Place (p : String × String) where
  around : Gap p.1
  inside : Gap p.2

namespace Place

def fill (pl : Place p) (v? : Option Value) : List (Value × Value) :=
  pl.around.fill (some (.dict (pl.inside.fill v?)))

theorem expand_cases (env : Environment) (pl : Place p) :
    (∃ f, ∀ v? v?', env.ExpandsTo v? v?' → env.expandEntries (pl.fill v?) = .error f) ∨
    ∃ pl' : Place p, ∀ v? v?', env.ExpandsTo v? v?' →
      env.expandEntries (pl.fill v?) = .ok (pl'.fill v?') := by
  rcases pl.inside.expand_cases env with ⟨f, hf⟩ | ⟨inside, hinside⟩
  · -- What stands in front of the section is expanded first.
    left
    rcases hbefore : env.expandEntries pl.around.before with e | before
    · refine ⟨e, fun v? v?' _ ↦ ?_⟩
      rw [fill, Gap.expandEntries_some, hbefore]
      rfl
    · refine ⟨f, fun v? v?' hv ↦ ?_⟩
      rw [fill, Gap.expandEntries_some, hbefore, Environment.expand, hf v? v?' hv]
      rfl
  · have hsection {v? v?' : Option Value} (hv : env.ExpandsTo v? v?') :
        env.ExpandsTo (some (.dict (pl.inside.fill v?))) (some (.dict (inside.fill v?'))) := by
      refine .some ?_
      rw [Environment.expand, hinside v? v?' hv]
      rfl
    rcases pl.around.expand_cases env with ⟨f, hf⟩ | ⟨around, haround⟩
    · exact .inl ⟨f, fun v? v?' hv ↦ hf _ _ (hsection hv)⟩
    · exact .inr ⟨⟨around, inside⟩, fun v? v?' hv ↦ haround _ _ (hsection hv)⟩

end Place

/-- Two dictionaries that are the same but for what stands at a setting. Where there is nothing at it, its
section may be missing, or count as no. -/
inductive DifferAt (p : String × String) :
    Option Value → Option Value → List (Value × Value) → List (Value × Value) → Prop
  | inSection (pl : Place p) (v? w? : Option Value) : DifferAt p v? w? (pl.fill v?) (pl.fill w?)
  | newSection (g : Gap p.1) (section? : Option Value)
      (h : ∀ v, section? = some v → v.isTruthy = false) (v : Value) :
      DifferAt p none (some v) (g.fill section?) (g.fill (some (.dict [(.text p.2, v)])))

theorem strayAt?_of_entry {es' : List (Value × Value)}
    (h : ∀ v, Value.entry? es key = some v → v.isTruthy = false ∨ v.isDict = true)
    (h' : ∀ v, Value.entry? es' key = some v → v.isTruthy = false ∨ v.isDict = true) :
    strayAt? es key = strayAt? es' key := by
  have hnone {es : List (Value × Value)}
      (h : ∀ v, Value.entry? es key = some v → v.isTruthy = false ∨ v.isDict = true) :
      strayAt? es key = none := by
    rw [strayAt?, Option.map_eq_none_iff, Option.filter_eq_none_iff]
    intro v hv
    rcases h v hv with h | h <;> simp [h]
  rw [hnone h, hnone h']

theorem Gap.strayAt?_fill (g : Gap key) (hv : ∀ v, v? = some v → v.isTruthy = false ∨ v.isDict = true)
    (hw : ∀ w, w? = some w → w.isTruthy = false ∨ w.isDict = true) (other : String) :
    strayAt? (g.fill v?) other = strayAt? (g.fill w?) other := by
  by_cases hkey : key = other
  · subst hkey
    refine strayAt?_of_entry ?_ ?_ <;> rw [g.entry?_fill]
    · exact hv
    · exact hw
  · rw [strayAt?, strayAt?, g.entry?_fill_ne hkey, g.entry?_fill_ne hkey]

theorem Gap.stray?_fill (g : Gap key) (hv : ∀ v, v? = some v → v.isTruthy = false ∨ v.isDict = true)
    (hw : ∀ w, w? = some w → w.isTruthy = false ∨ w.isDict = true) :
    stray? (g.fill v?) = stray? (g.fill w?) := by
  rw [stray?, stray?, g.strayAt?_fill hv hw, g.strayAt?_fill hv hw]

theorem sectionAt_of_not_isTruthy (h : ∀ v, Value.entry? es key = some v → v.isTruthy = false) :
    sectionAt es key = [] := by
  rw [sectionAt]
  rcases he : Value.entry? es key with _ | v
  · rfl
  · have hv := h v he
    cases v with
    | dict entries => simpa [Value.isTruthy] using hv
    | _ => rfl

namespace DifferAt

theorem stray?_eq (h : DifferAt p v? w? es fs) : stray? es = stray? fs := by
  cases h with
  | inSection pl v? w? =>
    refine pl.around.stray?_fill ?_ ?_ <;> rintro v ⟨⟩ <;> exact .inr rfl
  | newSection g section? h v =>
    refine g.stray?_fill (fun v hv ↦ .inl (h v hv)) ?_
    rintro v ⟨⟩
    exact .inr rfl

theorem setting?_left (h : DifferAt p v? w? es fs) : setting? es p = v? := by
  rw [setting?]
  cases h with
  | inSection pl v? w? => rw [sectionAt, Place.fill, Gap.entry?_fill, Gap.entry?_fill]
  | newSection g section? h v =>
    rw [sectionAt_of_not_isTruthy (by rwa [g.entry?_fill])]
    rfl

theorem setting?_right (h : DifferAt p v? w? es fs) : setting? fs p = w? := by
  rw [setting?, sectionAt]
  cases h with
  | inSection pl v? w? => rw [Place.fill, Gap.entry?_fill, Gap.entry?_fill]
  | newSection g section? h v => rw [Gap.entry?_fill, Value.entry?_text_self]

theorem setting?_ne (h : DifferAt p v? w? es fs) (hq : q ≠ p) : setting? es q = setting? fs q := by
  obtain ⟨name, key⟩ := q
  by_cases hname : p.1 = name
  · subst hname
    have hkey : p.2 ≠ key := fun hkey ↦ hq (by rw [← hkey])
    rw [setting?, setting?]
    cases h with
    | inSection pl v? w? =>
      rw [sectionAt, sectionAt, Place.fill, Place.fill, Gap.entry?_fill, Gap.entry?_fill]
      exact (pl.inside.entry?_fill_ne hkey v?).trans (pl.inside.entry?_fill_ne hkey w?).symm
    | newSection g section? h v =>
      rw [sectionAt_of_not_isTruthy (by rwa [g.entry?_fill]), sectionAt, g.entry?_fill,
        Value.entry?_text_ne hkey]
  · have hsection {x? y? : Option Value} (g : Gap p.1) :
        setting? (g.fill x?) (name, key) = setting? (g.fill y?) (name, key) := by
      rw [setting?, setting?, sectionAt, sectionAt, g.entry?_fill_ne hname, g.entry?_fill_ne hname]
    cases h with
    | inSection pl v? w? => exact hsection pl.around
    | newSection g section? h v => exact hsection g

theorem expand (h : DifferAt p v? w? es fs) (hv : env.ExpandsTo v? v?') (hw : env.ExpandsTo w? w?') :
    (∃ f, env.expandEntries es = .error f ∧ env.expandEntries fs = .error f) ∨
    ∃ data data', env.expandEntries es = .ok data ∧ env.expandEntries fs = .ok data' ∧
      DifferAt p v?' w?' data data' := by
  cases h with
  | inSection pl v? w? =>
    rcases pl.expand_cases env with ⟨f, hf⟩ | ⟨pl', hpl⟩
    · exact .inl ⟨f, hf _ _ hv, hf _ _ hw⟩
    · exact .inr ⟨_, _, hpl _ _ hv, hpl _ _ hw, .inSection pl' _ _⟩
  | newSection g section? h v =>
    cases hv
    obtain @⟨_, v', hv⟩ := hw
    have hsection : env.ExpandsTo section? section? := by
      rcases section? with _ | x
      · exact .none
      · exact .some (env.expand_of_not_isTruthy (h x rfl))
    have hnew : env.ExpandsTo (some (.dict [(.text p.2, v)])) (some (.dict [(.text p.2, v')])) := by
      refine .some ?_
      rw [Environment.expand, Environment.expandEntries_cons, hv]
      rfl
    rcases g.expand_cases env with ⟨f, hf⟩ | ⟨g', hg⟩
    · exact .inl ⟨f, hf _ _ hsection, hf _ _ hnew⟩
    · exact .inr ⟨_, _, hg _ _ hsection, hg _ _ hnew, .newSection g' section? h _⟩

end DifferAt

/-- What the loading of a dictionary stops with before any setting is looked at. -/
inductive Stops (env : Environment) (es : List (Value × Value)) : Fault → Prop
  | unset {f : Fault} (h : env.expandEntries es = .error f) : Stops env es f
  | stray {data : List (Value × Value)} {f : Fault} (h : env.expandEntries es = .ok data)
      (hs : stray? data = some f) : Stops env es f

theorem Stops.ofValue_eq (h : Stops env es f) : ofValue env (.dict es) = .error f := by
  rw [ofValue_dict]
  cases h with
  | unset h =>
    rw [h]
    rfl
  | stray h hs => simp [h, hs, Except.bind]

theorem not_stops (h : env.expandEntries es = .ok data) (hs : stray? data = none) :
    ∀ f, ¬ Stops env es f := by
  rintro f (h' | ⟨h', hs'⟩) <;> rw [h] at h' <;> cases h'
  rw [hs] at hs'
  cases hs'

theorem ofValue_of_stray?_eq_none (h : env.expandEntries es = .ok data) (hs : stray? data = none) :
    ofValue env (.dict es) = ofSettings (setting? data) := by
  simp [ofValue_dict, h, hs, Except.bind]

theorem DifferAt.ofValue_cases (h : DifferAt p v? w? es fs) (hv : env.ExpandsTo v? v?')
    (hw : env.ExpandsTo w? w?') :
    (∃ f, Stops env es f ∧ Stops env fs f) ∨
    (∀ f, ¬ Stops env es f) ∧ ∃ data data', DifferAt p v?' w?' data data' ∧
      ofValue env (.dict es) = ofSettings (setting? data) ∧
      ofValue env (.dict fs) = ofSettings (setting? data') := by
  rcases h.expand hv hw with ⟨f, he, hf⟩ | ⟨data, data', he, hf, hdata⟩
  · exact .inl ⟨f, .unset he, .unset hf⟩
  · rcases hs : stray? data with _ | f
    · have hs' : stray? data' = none := hdata.stray?_eq ▸ hs
      exact .inr ⟨not_stops he hs, data, data', hdata, ofValue_of_stray?_eq_none he hs,
        ofValue_of_stray?_eq_none hf hs'⟩
    · have hs' : stray? data' = some f := hdata.stray?_eq ▸ hs
      exact .inl ⟨f, .stray he hs, .stray hf hs'⟩

section Defaults

variable {value value' : String × String → Option Value}

theorem ofSettings_of_nothing (h : ∀ q, q ≠ p → value q = value' q) (hvalue : value p = none)
    (hvalue' : value' p = some .none) (hp : p ≠ ("compile", "precision")) :
    ofSettings value = ofSettings value' := by
  have hnone (q : String × String) : (value q).getD .none = (value' q).getD .none := by
    rcases eq_or_ne q p with rfl | hq
    · rw [hvalue, hvalue']
      rfl
    · rw [h q hq]
  have htruthy (q : String × String) :
      ((value q).getD (.bool false)).isTruthy = ((value' q).getD (.bool false)).isTruthy := by
    rcases eq_or_ne q p with rfl | hq
    · rw [hvalue, hvalue']
      rfl
    · rw [h q hq]
  simp only [ofSettings, settingsOf, hnone, htruthy, h _ hp.symm]

end Defaults

theorem Gap.ofValue_fill (env : Environment) (g : Gap key) (hv : v.isTruthy = false) :
    ofValue env (.dict (g.fill (some v))) = ofValue env (.dict (g.fill none)) := by
  have hexpand : env.ExpandsTo (some v) (some v) := .some (env.expand_of_not_isTruthy hv)
  rw [ofValue_dict, ofValue_dict]
  rcases g.expand_cases env with ⟨f, hf⟩ | ⟨g', hg⟩
  · rw [hf _ _ hexpand, hf _ _ .none]
  · rw [hg _ _ hexpand, hg _ _ .none]
    have hstray : stray? (g'.fill (some v)) = stray? (g'.fill none) :=
      g'.stray?_fill (by rintro v ⟨⟩; exact .inl hv) nofun
    have hsetting : setting? (g'.fill (some v)) = setting? (g'.fill none) := by
      funext q
      rw [setting?, setting?]
      congr 1
      by_cases hkey : key = q.1
      · subst hkey
        rw [sectionAt_of_not_isTruthy (by rw [g'.entry?_fill]; rintro v ⟨⟩; exact hv),
          sectionAt_of_not_isTruthy (by rw [g'.entry?_fill]; exact nofun)]
      · rw [sectionAt, sectionAt, g'.entry?_fill_ne hkey, g'.entry?_fill_ne hkey]
    simp only [Except.bind, hstray, hsetting]

/-- A key with nothing behind it is as good as no key, for sections and for all settings but one. With an
empty precision, loading is refused unless it stops before. -/
theorem empty_key_is_default (env : Environment) :
    (∀ key (g : Gap key),
      ofValue env (.dict (g.fill (some .none))) = ofValue env (.dict (g.fill none))) ∧
    ∀ p es fs, DifferAt p none (some .none) es fs →
      (p ≠ ("compile", "precision") → ofValue env (.dict fs) = ofValue env (.dict es)) ∧
      (p = ("compile", "precision") →
        (ofValue env (.dict fs) = ofValue env (.dict es) ↔ ∃ f, Stops env es f) ∧
        ((∀ f, ¬ Stops env es f) → ofValue env (.dict fs) = .error (noNumber .none))) := by
  refine ⟨fun key g ↦ g.ofValue_fill env rfl, fun p es fs h ↦ ?_⟩
  have hnothing : env.ExpandsTo (some .none) (some .none) := .some rfl
  rcases h.ofValue_cases .none hnothing with
    ⟨f, hes, hfs⟩ | ⟨hstops, data, data', hdata, hes, hfs⟩
  · have heq : ofValue env (.dict fs) = ofValue env (.dict es) := hfs.ofValue_eq.trans hes.ofValue_eq.symm
    exact ⟨fun _ ↦ heq, fun _ ↦ ⟨⟨fun _ ↦ ⟨f, hes⟩, fun _ ↦ heq⟩, fun hstops ↦ absurd hes (hstops f)⟩⟩
  · rw [hes, hfs]
    refine ⟨fun hp ↦ (ofSettings_of_nothing (fun q ↦ hdata.setting?_ne) hdata.setting?_left
      hdata.setting?_right hp).symm, fun hp ↦ ?_⟩
    subst hp
    have hrefused : ofSettings (setting? data') = .error (noNumber .none) :=
      ofSettings_of_integer_error hdata.setting?_right rfl
    refine ⟨⟨fun heq ↦ ?_, fun ⟨f, hf⟩ ↦ absurd hf (hstops f)⟩, fun _ ↦ hrefused⟩
    rw [hrefused] at heq
    rcases of_ofSettings_error heq.symm with hkind | ⟨v, hv, -⟩
    · exact absurd hkind (by decide)
    · rw [hdata.setting?_left] at hv
      cases hv

/-- An output path in a section of its own, and a precision behind a reference. -/
theorem empty_key_is_default_paths :
    let env : Environment := [("DIR", "scss")]
    let paths : Value × Value := (.text "include_paths", .list [.text "$\x7bDIR\x7d"])
    let es := [(.text "compile", .dict [paths])]
    let fs := [(.text "compile", .dict [paths]), (.text "output", .dict [(.text "path", .none)])]
    let gs := [(.text "compile", .dict [paths, (.text "precision", .none)])]
    DifferAt ("output", "path") none (some .none) es fs ∧
    DifferAt ("compile", "precision") none (some .none) es gs ∧ (∀ f, ¬ Stops env es f) ∧
    ofValue env (.dict fs) = ofValue env (.dict es) ∧
    ofValue env (.dict gs) = .error (noNumber .none) := by
  intro env paths es fs gs
  have hpath : DifferAt ("output", "path") none (some .none) es fs :=
    .newSection ⟨es, [], rfl⟩ none nofun .none
  have hprecision : DifferAt ("compile", "precision") none (some .none) es gs :=
    .inSection ⟨⟨[], [], rfl⟩, ⟨[paths], [], rfl⟩⟩ none (some .none)
  have hstops : ∀ f, ¬ Stops env es f := by
    have hexpand : env.expandEntries es = .ok
        [(.text "compile", .dict [(.text "include_paths", .list [.text "scss"])])] := by cbv
    exact not_stops hexpand rfl
  exact ⟨hpath, hprecision, hstops, ((empty_key_is_default env).2 _ _ _ hpath).1 (by decide),
    (((empty_key_is_default env).2 _ _ _ hprecision).2 rfl).2 hstops⟩

/-- A compression that is empty is off, but a precision that is empty is refused. -/
theorem empty_precision_refused :
    ofValue [] (.dict [(.text "compile", .dict [])]) = .ok {} ∧
    ofValue [] (.dict [(.text "compile", .dict [(.text "compress", .none)])]) = .ok {} ∧
    ∃ f, ofValue [] (.dict [(.text "compile", .dict [(.text "precision", .none)])]) = .error f ∧
      f.kind = "TypeError" := ⟨rfl, rfl, _, rfl, rfl⟩

end Config

end Stylesheet

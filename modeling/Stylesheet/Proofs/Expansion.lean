import Mathlib.Data.List.Forall2
import Stylesheet.Proofs.References

namespace Stylesheet

namespace Value

/-- What holds of texts, passes from items to their list and from the values of a dictionary to the
dictionary, and holds of all that is none of these, holds of every value. -/
@[elab_as_elim]
theorem inductionOnTexts {motive : Value → Prop} (text : ∀ s, motive (.text s))
    (list : ∀ items, (∀ v ∈ items, motive v) → motive (.list items))
    (dict : ∀ entries, (∀ e ∈ entries, motive e.2) → motive (.dict entries))
    (other : ∀ v, (∀ s, v ≠ .text s) → v.isList = false → v.isDict = false → motive v) :
    ∀ v, motive v
  | .atom a => by
    cases a with
    | text s => exact text s
    | _ => exact other _ (by simp) rfl rfl
  | .list items => list items fun v _ ↦ inductionOnTexts text list dict other v
  | .dict entries => dict entries fun (_, v) _ ↦ inductionOnTexts text list dict other v
  | .nan _ | .timestamp _ | .tuple _ | .set _ | .body _ _ | .sheet _ | .context _ _ | .textStream _
  | .byteStream _ | .reader _ _ => other _ (by simp) rfl rfl
decreasing_by
  · have := List.sizeOf_lt_of_mem ‹_ ∈ items›
    simp
    omega
  · have := List.sizeOf_lt_of_mem ‹_ ∈ entries›
    simp at *
    omega

mutual

/-- The texts that stand in a value as items and as values of dictionaries, from left to right. Keys are
not among them, nor is what other values hold. -/
def texts : Value → List String
  | .atom (.text s) => [s]
  | .list items => textsIn items
  | .dict entries => textsOf entries
  | _ => []

def textsIn : List Value → List String
  | [] => []
  | v :: rest => v.texts ++ textsIn rest

def textsOf : List (Value × Value) → List String
  | [] => []
  | (_, v) :: rest => v.texts ++ textsOf rest

end

end Value

namespace Environment

open Value (texts textsIn textsOf)

/-- A value with all its texts expanded. Lists keep their lengths, dictionaries their keys and the order
of their entries, and what is neither a text nor one of these is the same. -/
inductive Expands (env : Environment) : Value → Value → Prop
  | text {s x : String} (h : env.expandText s = .ok x) : Expands env (.text s) (.text x)
  | list {items items' : List Value} (hl : items'.length = items.length)
      (h : ∀ p ∈ items.zip items', Expands env p.1 p.2) : Expands env (.list items) (.list items')
  | dict {entries entries' : List (Value × Value)}
      (hk : entries'.map Prod.fst = entries.map Prod.fst)
      (h : ∀ p ∈ entries.zip entries', Expands env p.1.2 p.2.2) :
      Expands env (.dict entries) (.dict entries')
  | other {v : Value} (ht : ∀ s, v ≠ .text s) (hl : v.isList = false) (hd : v.isDict = false) :
      Expands env v v

/-- The names that a text refers to, in order. -/
def Refers (s : String) (names : List String) : Prop :=
  ∃ found last, Scan s.toList found last ∧ names = namesIn found

variable {env : Environment} {v v' : Value} {vs vs' : List Value} {es es' : List (Value × Value)}

theorem expand_other (ht : ∀ s, v ≠ .text s) (hl : v.isList = false) (hd : v.isDict = false) :
    env.expand v = .ok v := by
  unfold expand
  split
  · exact absurd rfl (ht _)
  · cases hl
  · cases hd
  · rfl

theorem expandItems_cons (v : Value) (rest : List Value) :
    env.expandItems (v :: rest) =
      (env.expand v).bind fun v' ↦ (env.expandItems rest).map (v' :: ·) := by
  rw [expandItems]
  cases env.expand v <;> rfl

theorem expandEntries_cons (key v : Value) (rest : List (Value × Value)) :
    env.expandEntries ((key, v) :: rest) =
      (env.expand v).bind fun v' ↦ (env.expandEntries rest).map ((key, v') :: ·) := by
  rw [expandEntries]
  cases env.expand v <;> rfl

theorem expandItems_eq_ok (hv : ∀ v ∈ vs, ∀ v', env.expand v = .ok v' ↔ env.Expands v v') :
    env.expandItems vs = .ok vs' ↔
      vs'.length = vs.length ∧ ∀ p ∈ vs.zip vs', env.Expands p.1 p.2 := by
  induction vs generalizing vs' with
  | nil => cases vs' <;> simp [expandItems]
  | cons v rest ih =>
    obtain ⟨hfirst, hrest⟩ := List.forall_mem_cons.1 hv
    rw [expandItems_cons]
    cases vs' with
    | nil => cases env.expand v <;> cases env.expandItems rest <;> simp [Except.bind, Except.map]
    | cons v' rest' =>
      have hboth : (env.expand v).bind (fun x ↦ (env.expandItems rest).map (x :: ·)) = .ok (v' :: rest') ↔
          env.expand v = .ok v' ∧ env.expandItems rest = .ok rest' := by
        cases env.expand v <;> cases env.expandItems rest <;> simp [Except.bind, Except.map]
      rw [hboth, hfirst, ih hrest]
      simp only [List.length_cons, Nat.add_right_cancel_iff, List.zip_cons_cons, List.forall_mem_cons]
      tauto

theorem expandEntries_eq_ok (hv : ∀ e ∈ es, ∀ v', env.expand e.2 = .ok v' ↔ env.Expands e.2 v') :
    env.expandEntries es = .ok es' ↔
      es'.map Prod.fst = es.map Prod.fst ∧ ∀ p ∈ es.zip es', env.Expands p.1.2 p.2.2 := by
  induction es generalizing es' with
  | nil => cases es' <;> simp [expandEntries]
  | cons e rest ih =>
    obtain ⟨key, v⟩ := e
    obtain ⟨hfirst, hrest⟩ := List.forall_mem_cons.1 hv
    rw [expandEntries_cons]
    cases es' with
    | nil => cases env.expand v <;> cases env.expandEntries rest <;> simp [Except.bind, Except.map]
    | cons e' rest' =>
      obtain ⟨key', v'⟩ := e'
      have hboth : (env.expand v).bind (fun x ↦ (env.expandEntries rest).map ((key, x) :: ·)) =
          .ok ((key', v') :: rest') ↔
          key' = key ∧ env.expand v = .ok v' ∧ env.expandEntries rest = .ok rest' := by
        cases env.expand v <;> cases env.expandEntries rest <;>
          simp [Except.bind, Except.map, eq_comm, and_assoc]
      rw [hboth, hfirst, ih hrest]
      simp only [List.map_cons, List.cons.injEq, List.zip_cons_cons, List.forall_mem_cons]
      tauto

theorem expand_eq_ok : env.expand v = .ok v' ↔ env.Expands v v' := by
  induction v using Value.inductionOnTexts generalizing v' with
  | text s =>
    rw [expand]
    constructor
    · intro h
      rcases hs : env.expandText s with f | x <;> rw [hs] at h <;> cases h
      exact .text hs
    · rintro (h | _ | _ | ht)
      · rw [h]
        rfl
      · exact absurd rfl (ht s)
  | list items ih =>
    rw [expand]
    constructor
    · intro h
      rcases hi : env.expandItems items with f | items' <;> rw [hi] at h <;> cases h
      obtain ⟨hl, hall⟩ := (expandItems_eq_ok fun v hv v' ↦ ih v hv).1 hi
      exact .list hl hall
    · rintro (_ | ⟨hl, hall⟩ | _ | ⟨-, hl⟩)
      · rw [(expandItems_eq_ok fun v hv v' ↦ ih v hv).2 ⟨hl, hall⟩]
        rfl
      · cases hl
  | dict entries ih =>
    rw [expand]
    constructor
    · intro h
      rcases he : env.expandEntries entries with f | entries' <;> rw [he] at h <;> cases h
      obtain ⟨hk, hall⟩ := (expandEntries_eq_ok fun e he v' ↦ ih e he).1 he
      exact .dict hk hall
    · rintro (_ | _ | ⟨hk, hall⟩ | ⟨-, -, hd⟩)
      · rw [(expandEntries_eq_ok fun e he v' ↦ ih e he).2 ⟨hk, hall⟩]
        rfl
      · cases hd
  | other v ht hl hd =>
    rw [expand_other ht hl hd]
    constructor
    · rintro ⟨⟩
      exact .other ht hl hd
    · rintro (_ | _ | _ | _)
      · exact absurd rfl (ht _)
      · cases hl
      · cases hd
      · rfl

section

variable {α β : Type} {e : Except Fault α} {names names' : List String}

def Asks (env : Environment) (names : List String) (e : Except Fault α) : Prop :=
  (env.unset? names).elim (∃ a, e = .ok a) fun n ↦ e = .error (.unsetVariable n)

theorem Asks.ok (a : α) : env.Asks [] (.ok a : Except Fault α) := ⟨a, rfl⟩

theorem Asks.map (h : env.Asks names e) (f : α → β) : env.Asks names (e.map f) := by
  rw [Asks] at h ⊢
  rcases hn : env.unset? names with _ | n <;> rw [hn] at h
  · obtain ⟨a, rfl⟩ : ∃ a, e = .ok a := h
    exact ⟨f a, rfl⟩
  · obtain rfl : e = .error (.unsetVariable n) := h
    rfl

theorem Asks.bind {f : α → Except Fault β} (h : env.Asks names e)
    (hf : ∀ a, env.Asks names' (f a)) : env.Asks (names ++ names') (e.bind f) := by
  have happend : env.unset? (names ++ names') = (env.unset? names).or (env.unset? names') :=
    List.find?_append
  rw [Asks] at h
  rw [Asks, happend]
  rcases hn : env.unset? names with _ | n <;> rw [hn] at h
  · obtain ⟨a, rfl⟩ : ∃ a, e = .ok a := h
    exact hf a
  · obtain rfl : e = .error (.unsetVariable n) := h
    rfl

theorem asks_text {s : String} (h : Refers s names) : env.Asks names (env.expandText s) := by
  obtain ⟨found, last, hs, rfl⟩ := h
  have htext : env.Asks (namesIn found) (env.expandChars s.toList) := by
    rw [Asks, hs.expandChars env]
    cases env.unset? (namesIn found) with
    | none => exact ⟨_, rfl⟩
    | some n => rfl
  exact htext.map String.ofList

end

theorem exists_refers (s : String) : ∃ names, Refers s names := by
  obtain ⟨found, last, hs⟩ := exists_scan s.toList
  exact ⟨_, found, last, hs, rfl⟩

theorem expandItems_asks
    (hv : ∀ v ∈ vs, ∃ names, v.texts.Forall₂ Refers names ∧ env.Asks names.flatten (env.expand v)) :
    ∃ names, (textsIn vs).Forall₂ Refers names ∧ env.Asks names.flatten (env.expandItems vs) := by
  induction vs with
  | nil => exact ⟨[], .nil, .ok _⟩
  | cons v rest ih =>
    obtain ⟨hfirst, hrest⟩ := List.forall_mem_cons.1 hv
    obtain ⟨names, hr, ha⟩ := hfirst
    obtain ⟨names', hr', ha'⟩ := ih hrest
    refine ⟨names ++ names', List.rel_append hr hr', ?_⟩
    rw [expandItems_cons, List.flatten_append]
    exact ha.bind fun v' ↦ ha'.map _

theorem expandEntries_asks
    (hv : ∀ e ∈ es, ∃ names, e.2.texts.Forall₂ Refers names ∧
      env.Asks names.flatten (env.expand e.2)) :
    ∃ names, (textsOf es).Forall₂ Refers names ∧ env.Asks names.flatten (env.expandEntries es) := by
  induction es with
  | nil => exact ⟨[], .nil, .ok _⟩
  | cons e rest ih =>
    obtain ⟨hfirst, hrest⟩ := List.forall_mem_cons.1 hv
    obtain ⟨names, hr, ha⟩ := hfirst
    obtain ⟨names', hr', ha'⟩ := ih hrest
    refine ⟨names ++ names', List.rel_append hr hr', ?_⟩
    rw [expandEntries_cons, List.flatten_append]
    exact ha.bind fun v' ↦ ha'.map _

theorem texts_other (ht : ∀ s, v ≠ .text s) (hl : v.isList = false) (hd : v.isDict = false) :
    v.texts = [] := by
  unfold Value.texts
  split
  · exact absurd rfl (ht _)
  · cases hl
  · cases hd
  · rfl

/-- The names in a value are asked for text by text, from left to right. -/
theorem expand_asks (env : Environment) (v : Value) :
    ∃ names, v.texts.Forall₂ Refers names ∧ env.Asks names.flatten (env.expand v) := by
  induction v using Value.inductionOnTexts with
  | text s =>
    obtain ⟨names, hs⟩ := exists_refers s
    refine ⟨[names], .cons hs .nil, ?_⟩
    rw [List.flatten_singleton, expand]
    exact (asks_text hs).map _
  | list items ih =>
    obtain ⟨names, hr, ha⟩ := expandItems_asks ih
    exact ⟨names, by rwa [texts], by rw [expand]; exact ha.map _⟩
  | dict entries ih =>
    obtain ⟨names, hr, ha⟩ := expandEntries_asks ih
    exact ⟨names, by rwa [texts], by rw [expand]; exact ha.map _⟩
  | other v ht hl hd =>
    rw [texts_other ht hl hd, expand_other ht hl hd]
    exact ⟨[], .nil, .ok v⟩

/-- Expanding a value keeps all of it but its texts. There is a result just if all references in its
texts are set, and otherwise the first that is not set, from left to right, is the fault. -/
theorem expand_keeps_structure (env : Environment) (v : Value) :
    (∀ v', env.expand v = .ok v' ↔ env.Expands v v') ∧
    ∃ names, v.texts.Forall₂ Refers names ∧
      ((∃ v', env.expand v = .ok v') ↔ ∀ n ∈ names.flatten, (env.get? n).isSome) ∧
      ∀ f, env.expand v = .error f ↔
        ∃ n, env.unset? names.flatten = some n ∧ f = .unsetVariable n := by
  obtain ⟨names, hr, ha⟩ := expand_asks env v
  refine ⟨fun v' ↦ expand_eq_ok, names, hr, ?_⟩
  rw [Asks] at ha
  rw [← unset?_eq_none]
  rcases hn : env.unset? names.flatten with _ | n <;> rw [hn] at ha
  · obtain ⟨v', hv'⟩ : ∃ v', env.expand v = .ok v' := ha
    simp [hv']
  · have hv' : env.expand v = .error (.unsetVariable n) := ha
    simp [hv', eq_comm]

end Environment

end Stylesheet

import Mathlib.Data.List.Induction
import Mathlib.Data.List.Nodup
import Stylesheet.Vocabulary

namespace Stylesheet

namespace Table

variable {α β γ : Type} [BEq α] {names : List γ} {key : γ → α}

theorem get?_map (names : List γ) (key : γ → α) (value : γ → β) (k : α) :
    get? (names.map fun n ↦ (key n, value n)) k = (names.find? fun n ↦ key n == k).map value := by
  rw [get?, List.find?_map, Option.map_map]
  rfl

theorem get?_map_eq_none_iff [LawfulBEq α] {value : γ → β} {k : α} :
    get? (names.map fun n ↦ (key n, value n)) k = none ↔ k ∉ names.map key := by
  simp [get?_map]

theorem get?_map_of_mem [LawfulBEq α] (value : γ → β) (h : (names.map key).Nodup) {n : γ}
    (hn : n ∈ names) : get? (names.map fun n ↦ (key n, value n)) (key n) = some (value n) := by
  have hsome : (names.find? fun m ↦ key m == key n).isSome = true :=
    List.find?_isSome.2 ⟨n, hn, beq_self_eq_true _⟩
  obtain ⟨m, hm⟩ := Option.isSome_iff_exists.1 hsome
  have hkey : (key m == key n) = true := List.find?_some (p := fun m ↦ key m == key n) hm
  have hmn : m = n := List.inj_on_of_nodup_map h (List.mem_of_find?_eq_some hm) hn (eq_of_beq hkey)
  rw [get?_map, hm, hmn]
  rfl

end Table

theorem Text.toList_replaceChar (old new : Char) (s : String) :
    (replaceChar old new s).toList = s.toList.map fun c ↦ if c = old then new else c :=
  String.toList_map

namespace Vocabulary

variable {names taken rest : List String} {name earlier later : String}

/-- The characters of a method name, from those of its word. -/
def spelled : List Char → List Char
  | '@' :: rest => rest.map fun c ↦ if c = '-' then '_' else c
  | cs => cs.map fun c ↦ if c = '-' then '_' else c

theorem toList_methodName (name : String) : (methodName name).toList = spelled name.toList := by
  rw [methodName, Text.toList_replaceChar, withoutMarker, startsWithMarker, marker]
  rcases h : name.toList with _ | ⟨c, rest⟩
  · rw [if_neg (by simp), h]
    rfl
  · by_cases hc : c = '@'
    · simp [hc, spelled]
    · rw [if_neg (by simpa using hc), h, spelled]
      rintro rest' ⟨⟩
      exact hc rfl

theorem ofWord_eq (name : String) :
    Entry.ofWord name =
      ⟨name, if name.toList.head? = some '@' then .directive else .declaration⟩ := by
  by_cases h : name.toList.head? = some '@' <;> simp [Entry.ofWord, startsWithMarker, marker, h]

def tableOf (names : List String) : Table String Entry :=
  names.map fun name ↦ (methodName name, Entry.ofWord name)

/-- The first word in a list whose method name is taken, and the word before it that took it. -/
structure Clash (names : List String) (earlier later : String) : Prop where
  split : ∃ before after, names = before ++ later :: after ∧ (before.map methodName).Nodup ∧
    earlier ∈ before
  same : methodName earlier = methodName later

theorem extend_tableOf_new (h : methodName name ∉ taken.map methodName) :
    extend (tableOf taken) name = .ok (tableOf (taken ++ [name])) := by
  have hnone : (tableOf taken).get? (Entry.ofWord name).methodName = none :=
    Table.get?_map_eq_none_iff.2 h
  rw [extend, hnone, tableOf, tableOf, List.map_append]
  rfl

theorem extend_tableOf_taken (hd : (taken.map methodName).Nodup) (he : earlier ∈ taken)
    (h : methodName earlier = methodName name) :
    extend (tableOf taken) name = .error (.duplicateWord (methodName name) earlier name) := by
  have hfound : (tableOf taken).get? (methodName earlier) = some (Entry.ofWord earlier) :=
    Table.get?_map_of_mem _ hd he
  have hname : (Entry.ofWord name).methodName = methodName earlier := h.symm
  rw [extend, hname, hfound, h]
  rfl

theorem buildFrom_append (hd : ((taken ++ names).map methodName).Nodup) (rest : List String) :
    buildFrom (tableOf taken) (names ++ rest) = buildFrom (tableOf (taken ++ names)) rest := by
  induction names generalizing taken with
  | nil => rw [List.nil_append, List.append_nil]
  | cons name names ih =>
    have hcons : taken ++ name :: names = taken ++ [name] ++ names := by simp
    rw [hcons] at hd ⊢
    have hnew : methodName name ∉ taken.map methodName := by
      rw [List.append_assoc, List.map_append, List.nodup_append'] at hd
      exact fun hmem ↦ hd.2.2 hmem (List.mem_cons_self ..)
    rw [List.cons_append, buildFrom, extend_tableOf_new hnew]
    exact ih hd

theorem build_append (h : (names.map methodName).Nodup) (rest : List String) :
    build (names ++ rest) = buildFrom (tableOf names) rest :=
  have hnil : (([] ++ names).map methodName).Nodup := h
  buildFrom_append hnil rest

theorem build_of_nodup (h : (names.map methodName).Nodup) : build names = .ok (tableOf names) := by
  have happend := build_append h []
  rwa [List.append_nil] at happend

theorem Clash.build_eq (h : Clash names earlier later) :
    build names = .error (.duplicateWord (methodName later) earlier later) := by
  obtain ⟨before, after, rfl, hd, he⟩ := h.split
  rw [build_append hd, buildFrom, extend_tableOf_taken hd he h.same]

theorem exists_clash (h : ¬ (names.map methodName).Nodup) : ∃ earlier later, Clash names earlier later := by
  induction names using List.reverseRecOn with
  | nil => exact absurd List.nodup_nil h
  | append_singleton names name ih =>
    by_cases hd : (names.map methodName).Nodup
    · have hmem : methodName name ∈ names.map methodName := by
        by_contra hnew
        rw [List.map_append, List.nodup_append'] at h
        exact h ⟨hd, List.nodup_singleton _, List.disjoint_singleton.2 hnew⟩
      obtain ⟨earlier, he, hsame⟩ := List.mem_map.1 hmem
      exact ⟨earlier, name, ⟨names, [], rfl, hd, he⟩, hsame⟩
    · obtain ⟨earlier, later, ⟨before, after, hnames, hd, he⟩, hsame⟩ := ih hd
      exact ⟨earlier, later, ⟨before, after ++ [name], by simp [hnames], hd, he⟩, hsame⟩

theorem build_eq_ok_iff {table : Table String Entry} :
    build names = .ok table ↔ (names.map methodName).Nodup ∧ table = tableOf names := by
  constructor
  · intro h
    by_cases hd : (names.map methodName).Nodup
    · rw [build_of_nodup hd] at h
      exact ⟨hd, (Except.ok.inj h).symm⟩
    · obtain ⟨earlier, later, hclash⟩ := exists_clash hd
      rw [hclash.build_eq] at h
      cases h
  · rintro ⟨hd, rfl⟩
    exact build_of_nodup hd

theorem build_eq_error_iff {f : Fault} :
    build names = .error f ↔
      ∃ earlier later, Clash names earlier later ∧ f = .duplicateWord (methodName later) earlier later := by
  constructor
  · intro h
    have hd : ¬ (names.map methodName).Nodup := by
      intro hd
      rw [build_of_nodup hd] at h
      cases h
    obtain ⟨earlier, later, hclash⟩ := exists_clash hd
    rw [hclash.build_eq] at h
    exact ⟨earlier, later, hclash, (Except.error.inj h).symm⟩
  · rintro ⟨earlier, later, hclash, rfl⟩
    exact hclash.build_eq

/-- A list of words has a vocabulary if their method names are different, and it has one entry for each
word then. If not, the first two words that clash are reported. -/
theorem built_iff_distinct_methods (names : List String) :
    ((∃ table, build names = .ok table) ↔ (names.map methodName).Nodup) ∧
    (∀ table, build names = .ok table →
      table = names.map (fun name ↦ (methodName name,
        ⟨name, if name.toList.head? = some '@' then .directive else .declaration⟩)) ∧
      (∀ name ∈ names, (table.get? (methodName name)).map Entry.name = some name) ∧
      ∀ method, method ∉ names.map methodName → table.get? method = none) ∧
    (∀ f, build names = .error f ↔ ∃ earlier later, Clash names earlier later ∧
      f = .duplicateWord (methodName later) earlier later) ∧
    (∀ f, build names = .error f → f.kind = "ValueError" ∧ ∃ earlier later, Clash names earlier later ∧
      f.text = "Duplicate vocabulary method name: " ++ methodName later ++ " (" ++
        Text.quoted earlier ++ " and " ++ Text.quoted later ++ ")") ∧
    ∀ name, (methodName name).toList = spelled name.toList := by
  refine ⟨⟨fun ⟨_, h⟩ ↦ (build_eq_ok_iff.1 h).1, fun h ↦ ⟨_, build_of_nodup h⟩⟩, fun table htable ↦ ?_,
    fun _ ↦ build_eq_error_iff, fun f hf ↦ ?_, toList_methodName⟩
  · obtain ⟨hd, rfl⟩ := build_eq_ok_iff.1 htable
    refine ⟨?_, fun name hn ↦ ?_, fun method hm ↦ Table.get?_map_eq_none_iff.2 hm⟩
    · simp only [tableOf, ofWord_eq]
    · rw [tableOf, Table.get?_map_of_mem _ hd hn]
      rfl
  · obtain ⟨earlier, later, hclash, rfl⟩ := build_eq_error_iff.1 hf
    exact ⟨rfl, earlier, later, hclash, rfl⟩

/-- Of `page` and `@page`, which stand in two places, the second is refused. Either could stand alone. -/
theorem pages_clash :
    build ["page", "a-b", "@page", "a_b"] = .error (.duplicateWord "page" "page" "@page") ∧
    ∃ table, build ["a-b", "@page"] = .ok table ∧
      table = [("a_b", ⟨"a-b", .declaration⟩), ("page", ⟨"@page", .directive⟩)] := by
  obtain ⟨-, -, herror, -⟩ := built_iff_distinct_methods ["page", "a-b", "@page", "a_b"]
  obtain ⟨hok, htable, -⟩ := built_iff_distinct_methods ["a-b", "@page"]
  refine ⟨(herror _).2 ⟨"page", "@page", ⟨⟨["page", "a-b"], ["a_b"], rfl, ?_, ?_⟩, ?_⟩, ?_⟩, ?_⟩
  · decide +kernel
  · decide
  · decide +kernel
  · have hmethod : methodName "@page" = "page" := by decide +kernel
    rw [hmethod]
  · obtain ⟨table, h⟩ := hok.2 (by decide +kernel)
    refine ⟨table, h, ?_⟩
    rw [(htable table h).1]
    decide +kernel

def number (s : String) : Nat := s.toList.foldl (fun n c ↦ n * 128 + c.toNat) 0

theorem nodup_words : (words.map methodName).Nodup := by
  -- Texts are slow to compare, so that their numbers are.
  apply List.Nodup.of_map number
  simp only [List.map_map, Function.comp_def, number, toList_methodName]
  decide +kernel

theorem build_words : build words = .ok standard := build_of_nodup nodup_words

end Vocabulary

end Stylesheet

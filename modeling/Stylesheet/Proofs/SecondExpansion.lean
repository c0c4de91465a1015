import Mathlib
import Stylesheet.Proofs.Expansion

namespace Stylesheet

namespace Value

variable {s : String} {items : List Value} {entries : List (Value × Value)}

theorem mem_textsIn : s ∈ textsIn items ↔ ∃ v ∈ items, s ∈ v.texts := by
  induction items with
  | nil => simp [textsIn]
  | cons v rest ih => simp [textsIn, ih]

theorem mem_textsOf : s ∈ textsOf entries ↔ ∃ e ∈ entries, s ∈ e.2.texts := by
  induction entries with
  | nil => simp [textsOf]
  | cons e rest ih => simp [textsOf, ih]

end Value

namespace Environment

/-- What can be put into a text without a reference being formed at its ends: something without a dollar
sign that does not begin with a brace. -/
structure IsPlain (x : String) : Prop where
  ne_empty : x ≠ ""
  no_dollar : '$' ∉ x.toList
  no_brace : x.toList.head? ≠ some '\x7b'

/-- The name stands in a reference in one of the texts of a value. -/
def Mentions (v : Value) (n : String) : Prop :=
  ∃ s ∈ v.texts, ∃ names, Refers s names ∧ n ∈ names

variable {env : Environment} {cs before name after last rest : List Char}
  {found : List (List Char × List Char)} {v v' : Value} {s x n : String} {items : List Value}
  {entries : List (Value × Value)}

theorem Mentions.of_item (hv : v ∈ items) (h : Mentions v n) : Mentions (.list items) n := by
  obtain ⟨s, hs, hn⟩ := h
  exact ⟨s, Value.mem_textsIn.2 ⟨v, hv, hs⟩, hn⟩

theorem Mentions.of_entry {e : Value × Value} (he : e ∈ entries) (h : Mentions e.2 n) :
    Mentions (.dict entries) n := by
  obtain ⟨s, hs, hn⟩ := h
  exact ⟨s, Value.mem_textsOf.2 ⟨e, he, hs⟩, hn⟩

/-- A reference begins where something that is not the closing brace comes between the opening and a
closing brace, however far behind that is. -/
theorem begins_iff :
    Begins cs ↔ ∃ c rest, cs = '$' :: '\x7b' :: c :: rest ∧ c ≠ '\x7d' ∧ '\x7d' ∈ rest := by
  constructor
  · rintro ⟨name, after, ⟨hne, hclosing⟩, rfl⟩
    obtain ⟨c, more, rfl⟩ := List.exists_cons_of_ne_nil hne
    obtain ⟨hc, -⟩ := not_or.1 (mt List.mem_cons.2 hclosing)
    refine ⟨c, more ++ '\x7d' :: after, ?_, Ne.symm hc, by simp⟩
    rw [written_append, List.cons_append]
  · rintro ⟨c, rest, rfl, hc, hmem⟩
    obtain ⟨more, after, rfl, hmore⟩ := List.eq_append_cons_of_mem hmem
    refine ⟨c :: more, after, ⟨by simp, ?_⟩, ?_⟩
    · rintro (_ | ⟨_, h⟩)
      · exact hc rfl
      · exact hmore h
    · rw [written_append, List.cons_append]

/-- Where no reference began in front of another one, none begins in front of a plain value. -/
theorem not_begins_before (hx : IsPlain x) (hne : before ≠ [])
    (h : ¬ Begins (before ++ (written name ++ after))) :
    ¬ Begins (before ++ (x.toList ++ rest)) := by
  intro hb
  obtain ⟨c, more, he, hc, -⟩ := begins_iff.1 hb
  obtain ⟨first, others, hx'⟩ := List.exists_cons_of_ne_nil (mt String.toList_eq_nil_iff.1 hx.ne_empty)
  match before, hne with
  | [_], _ =>
    -- The brace would be the first character of the value.
    rw [hx'] at he
    obtain ⟨-, rfl, -⟩ : _ ∧ first = '\x7b' ∧ _ := by simpa using he
    exact hx.no_brace (by rw [hx']; rfl)
  | [_, _], _ =>
    -- The opening was left over, which cannot be: the other reference has a closing brace.
    obtain ⟨rfl, rfl, -⟩ : _ = '$' ∧ _ = '\x7b' ∧ _ := by simpa using he
    refine h (begins_iff.2 ⟨'$', '\x7b' :: (name ++ '\x7d' :: after), ?_, by decide, by simp⟩)
    rw [written_append]
    rfl
  | _ :: _ :: d :: tail, _ =>
    obtain ⟨rfl, rfl, rfl, -⟩ : _ = '$' ∧ _ = '\x7b' ∧ d = c ∧ _ := by simpa using he
    refine h (begins_iff.2 ⟨d, tail ++ (written name ++ after), rfl, hc, ?_⟩)
    simp [written_append]

theorem not_begins_inside {tail : List Char} (hx : IsPlain x) (ht : tail <:+ x.toList)
    (hne : tail ≠ []) : ¬ Begins (tail ++ rest) := by
  intro hb
  obtain ⟨c, more, he, -⟩ := begins_iff.1 hb
  obtain ⟨d, others, rfl⟩ := List.exists_cons_of_ne_nil hne
  obtain ⟨rfl, -⟩ : d = '$' ∧ _ := by simpa using he
  exact hx.no_dollar (ht.subset (List.mem_cons_self ..))

theorem of_suffix_append {a b tail : List Char} (h : tail <:+ a ++ b) :
    tail <:+ b ∨ ∃ front, front <:+ a ∧ front ≠ [] ∧ tail = front ++ b := by
  obtain ⟨front, he⟩ := h
  rcases List.append_eq_append_iff.1 he with ⟨more, rfl, rfl⟩ | ⟨more, -, rfl⟩
  · rcases eq_or_ne more [] with rfl | hne
    · exact .inl (List.suffix_refl _)
    · exact .inr ⟨more, List.suffix_append _ _, hne, rfl⟩
  · exact .inl (List.suffix_append _ _)

theorem Scan.not_begins_filled (h : Scan cs found last)
    (hset : ∀ n ∈ namesIn found, ∃ x, env.get? n = some x ∧ IsPlain x) :
    ∀ tail, tail <:+ env.filled found last → ¬ Begins tail := by
  induction h with
  | last hnone => exact hnone
  | @next before name after last found hn hfirst _ ih =>
    obtain ⟨⟨x, hx, hplain⟩, hothers⟩ := List.forall_mem_cons.1 hset
    have hfilled : env.filled ((before, name) :: found) last =
        before ++ (x.toList ++ env.filled found last) := by
      simp [filled, hx]
    rw [hfilled]
    intro tail htail
    rcases of_suffix_append htail with hbehind | ⟨front, hfront, hne, rfl⟩
    · rcases of_suffix_append hbehind with hrest | ⟨inner, hinner, hne, rfl⟩
      · exact ih hothers tail hrest
      · exact not_begins_inside hplain hinner hne
    · exact not_begins_before hplain hne (hfirst front hfront hne)

theorem refers_nothing {names : List String} (hs : Refers s names) (hx : env.expandText s = .ok x)
    (hplain : ∀ n ∈ names, ∀ y, env.get? n = some y → IsPlain y) : Refers x [] := by
  obtain ⟨found, last, hscan, rfl⟩ := hs
  have hchars := hscan.expandChars env
  rw [expandText_ok.1 hx] at hchars
  rcases hnone : env.unset? (namesIn found) with _ | n <;> rw [hnone] at hchars
  · have hset : ∀ n ∈ namesIn found, ∃ y, env.get? n = some y ∧ IsPlain y := by
      intro n hn
      obtain ⟨y, hy⟩ := Option.isSome_iff_exists.1 (unset?_eq_none.1 hnone n hn)
      exact ⟨y, hy, hplain n hn y hy⟩
    have hout : x.toList = env.filled found last := Except.ok.inj hchars
    refine ⟨[], x.toList, .last ?_, rfl⟩
    rw [hout]
    exact hscan.not_begins_filled hset
  · cases hchars

theorem Refers.unique {names names' : List String} (h : Refers s names) (h' : Refers s names') :
    names = names' := by
  obtain ⟨found, last, hs, rfl⟩ := h
  obtain ⟨found', last', hs', rfl⟩ := h'
  rw [(hs.unique hs').1]

theorem expandText_of_refers_nothing (h : Refers s []) (env : Environment) :
    env.expandText s = .ok s := by
  obtain ⟨found, last, hscan, hnames⟩ := h
  obtain rfl : found = [] := List.map_eq_nil_iff.1 hnames.symm
  rw [expandText_ok, hscan.expandChars env]
  generalize s.toList = cs at hscan
  cases hscan
  rfl

theorem zip_self {α : Type} (as : List α) : as.zip as = as.map fun a ↦ (a, a) := by
  simpa using List.zip_map' (f := id) (g := id) (l := as)

theorem expands_self (env : Environment) (h : ∀ n, ¬ Mentions v n) : env.Expands v v := by
  induction v using Value.inductionOnTexts with
  | text s =>
    obtain ⟨names, hs⟩ := exists_refers s
    obtain rfl : names = [] := by
      refine List.eq_nil_iff_forall_not_mem.2 fun n hn ↦ h n ⟨s, ?_, names, hs, hn⟩
      simp [Value.texts]
    exact .text (expandText_of_refers_nothing hs env)
  | list items ih =>
    refine .list rfl fun p hp ↦ ?_
    rw [zip_self] at hp
    obtain ⟨u, hu, rfl⟩ := List.mem_map.1 hp
    exact ih u hu fun n hn ↦ h n (hn.of_item hu)
  | dict entries ih =>
    refine .dict rfl fun p hp ↦ ?_
    rw [zip_self] at hp
    obtain ⟨e, he, rfl⟩ := List.mem_map.1 hp
    exact ih e he fun n hn ↦ h n (hn.of_entry he)
  | other v ht hl hd => exact .other ht hl hd

theorem exists_mem_zip {α β : Type} {as : List α} {bs : List β} {b : β}
    (hl : bs.length = as.length) (hb : b ∈ bs) : ∃ a, a ∈ as ∧ (a, b) ∈ as.zip bs := by
  have hmap : (as.zip bs).map Prod.snd = bs := List.map_snd_zip (Nat.le_of_eq hl)
  rw [← hmap] at hb
  obtain ⟨⟨a, _⟩, hp, rfl⟩ := List.mem_map.1 hb
  exact ⟨a, (List.of_mem_zip hp).1, hp⟩

theorem Expands.mentions_nothing (h : env.Expands v v')
    (hplain : ∀ n, Mentions v n → ∀ x, env.get? n = some x → IsPlain x) :
    ∀ n, ¬ Mentions v' n := by
  induction h with
  | @text s x hx =>
    rintro n ⟨y, hy, names, hr, hn⟩
    obtain rfl : y = x := by simpa [Value.texts] using hy
    obtain ⟨names', hs⟩ := exists_refers s
    have hnothing : Refers y [] := by
      refine refers_nothing hs hx fun m hm ↦ hplain m ⟨s, ?_, names', hs, hm⟩
      simp [Value.texts]
    rw [hr.unique hnothing] at hn
    cases hn
  | @list items items' hl _ ih =>
    rintro n ⟨s, hs, hn⟩
    obtain ⟨w, hw, hs⟩ := Value.mem_textsIn.1 hs
    obtain ⟨u, hu, hp⟩ := exists_mem_zip hl hw
    exact ih _ hp (fun m hm ↦ hplain m (hm.of_item hu)) n ⟨s, hs, hn⟩
  | @dict entries entries' hk _ ih =>
    rintro n ⟨s, hs, hn⟩
    obtain ⟨w, hw, hs⟩ := Value.mem_textsOf.1 hs
    obtain ⟨u, hu, hp⟩ := exists_mem_zip (by simpa using congrArg List.length hk) hw
    exact ih _ hp (fun m hm ↦ hplain m (hm.of_entry hu)) n ⟨s, hs, hn⟩
  | other ht hl hd =>
    rintro n ⟨s, hs, -⟩
    rw [texts_other ht hl hd] at hs
    cases hs

/-- A second expansion changes nothing if the values of all names that a value mentions are plain. After
the first one it mentions no name, so it is its own expansion from then on, whatever is set by then. -/
theorem expanded_once (h : env.expand v = .ok v')
    (hplain : ∀ n, Mentions v n → ∀ x, env.get? n = some x → IsPlain x) :
    env.expand v' = .ok v' ∧ (∀ n, ¬ Mentions v' n) ∧
      ∀ later : Environment, later.expand v' = .ok v' := by
  have hnothing := (expand_eq_ok.1 h).mentions_nothing hplain
  have hself (later : Environment) : later.expand v' = .ok v' :=
    expand_eq_ok.2 (expands_self later hnothing)
  exact ⟨hself env, hnothing, hself⟩

/-- Two braces, put behind a dollar sign and behind a reference without a name. -/
theorem expanded_once_braces :
    let env : Environment := [("A", "\x7d\x7b")]
    let v : Value :=
      .list [.text "$$\x7bA\x7d", .dict [(.text "$\x7bA\x7d", .text "$\x7b\x7d$\x7bA\x7d")]]
    let v' : Value :=
      .list [.text "$\x7d\x7b", .dict [(.text "$\x7bA\x7d", .text "$\x7b\x7d\x7d\x7b")]]
    env.expand v = .ok v' ∧ (∀ n, Mentions v n → ∀ x, env.get? n = some x → IsPlain x) ∧
      env.expand v' = .ok v' := by
  intro env v v'
  have hv : env.expand v = .ok v' := by
    cbv
  have hplain : ∀ n, Mentions v n → ∀ x, env.get? n = some x → IsPlain x := by
    intro n _ x hx
    obtain ⟨rfl, rfl⟩ : "A" = n ∧ "\x7d\x7b" = x := by simpa [env, Table.get?] using hx
    exact ⟨by decide, by decide, by decide⟩
  exact ⟨hv, hplain, (expanded_once hv hplain).1⟩

end Environment

end Stylesheet

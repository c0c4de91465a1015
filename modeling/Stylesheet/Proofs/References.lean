import Mathlib.Data.List.Infix
import Mathlib.Data.List.TakeWhile
import Stylesheet.Config.Reference

namespace Stylesheet

namespace Environment

/-- What a reference can name: something, with no closing brace in it. -/
def IsName (name : List Char) : Prop := name ≠ [] ∧ '\x7d' ∉ name

/-- The reference to a name. -/
def written (name : List Char) : List Char := '$' :: '\x7b' :: (name ++ ['\x7d'])

def Begins (cs : List Char) : Prop := ∃ name after, IsName name ∧ cs = written name ++ after

/-- The references of a text, each with the characters in front of it, and the characters behind the
last one. None begins further to the left than the one that is found, also none that overlaps it. -/
inductive Scan : List Char → List (List Char × List Char) → List Char → Prop
  | last {cs : List Char} (h : ∀ tail, tail <:+ cs → ¬ Begins tail) : Scan cs [] cs
  | next {before name after last : List Char} {found : List (List Char × List Char)}
      (hn : IsName name)
      (h : ∀ tail, tail <:+ before → tail ≠ [] → ¬ Begins (tail ++ (written name ++ after)))
      (hs : Scan after found last) :
      Scan (before ++ (written name ++ after)) ((before, name) :: found) last

/-- The names in references, in order. -/
def namesIn (found : List (List Char × List Char)) : List String :=
  found.map fun p ↦ String.ofList p.2

variable {env : Environment} {cs before name after last last' : List Char}
  {found found' : List (List Char × List Char)}

/-- The first name that is not set. -/
def unset? (env : Environment) (names : List String) : Option String :=
  names.find? fun n ↦ (env.get? n).isNone

/-- A text with the values in the places of its references. -/
def filled (env : Environment) (found : List (List Char × List Char)) (last : List Char) :
    List Char :=
  (found.flatMap fun p ↦ p.1 ++ ((env.get? (String.ofList p.2)).getD "").toList) ++ last

theorem written_append (name after : List Char) :
    written name ++ after = '$' :: '\x7b' :: (name ++ '\x7d' :: after) := by
  simp [written]

theorem reference?_written (hn : IsName name) (after : List Char) :
    reference? (written name ++ after) = some (name, after) := by
  obtain ⟨hne, hclosing⟩ := hn
  have hall : ∀ c ∈ name, (c != '\x7d') = true := by
    intro c hc
    simpa using fun h : c = '\x7d' ↦ hclosing (h ▸ hc)
  have htake : (name ++ '\x7d' :: after).takeWhile (· != '\x7d') = name := by
    rw [List.takeWhile_append_of_pos hall]
    simp
  have hdrop : (name ++ '\x7d' :: after).dropWhile (· != '\x7d') = '\x7d' :: after := by
    rw [List.dropWhile_append_of_pos hall]
    simp
  obtain ⟨c, rest, rfl⟩ := List.exists_cons_of_ne_nil hne
  rw [written_append, reference?, htake, hdrop]

example : reference? "$\x7ba$\x7bb\x7d".toList = some ("a$\x7bb".toList, []) := by decide

theorem of_reference? (h : reference? cs = some (name, after)) :
    IsName name ∧ cs = written name ++ after := by
  unfold reference? at h
  split at h
  · next rest =>
    split at h
    · next c name' d after' htake hdrop =>
      cases h
      have hsplit := List.takeWhile_append_dropWhile (p := (· != '\x7d')) (l := rest)
      have hd : d = '\x7d' := by
        have hhead := List.head_dropWhile_not (· != '\x7d') (l := rest) (by simp [hdrop])
        simpa [hdrop] using hhead
      have hclosing : '\x7d' ∉ c :: name' := by
        intro hmem
        rw [← htake] at hmem
        simpa using List.mem_takeWhile_imp hmem
      refine ⟨⟨by simp, hclosing⟩, ?_⟩
      rw [written_append, ← hsplit, htake, hdrop, hd]
    · cases h
  · cases h

theorem reference?_eq_none : reference? cs = none ↔ ¬ Begins cs := by
  constructor
  · rintro h ⟨name, after, hn, rfl⟩
    rw [reference?_written hn] at h
    cases h
  · intro h
    rcases hr : reference? cs with _ | ⟨name, after⟩
    · rfl
    · obtain ⟨hn, hcs⟩ := of_reference? hr
      exact absurd ⟨name, after, hn, hcs⟩ h

theorem not_begins_nil : ¬ Begins [] := by
  rintro ⟨name, after, -, h⟩
  simp [written] at h

/-- A text has no reference, or one that begins before all others. -/
theorem none_or_first (cs : List Char) :
    (∀ tail, tail <:+ cs → ¬ Begins tail) ∨
    ∃ before name after, cs = before ++ (written name ++ after) ∧ IsName name ∧
      ∀ tail, tail <:+ before → tail ≠ [] → ¬ Begins (tail ++ (written name ++ after)) := by
  induction cs with
  | nil =>
    left
    intro tail htail
    rw [List.suffix_nil.1 htail]
    exact not_begins_nil
  | cons c rest ih =>
    by_cases hb : Begins (c :: rest)
    · obtain ⟨name, after, hn, hcs⟩ := hb
      refine .inr ⟨[], name, after, hcs, hn, fun tail htail hne ↦ ?_⟩
      exact absurd (List.suffix_nil.1 htail) hne
    · rcases ih with hnone | ⟨before, name, after, rfl, hn, hfirst⟩
      · left
        intro tail htail
        rcases List.suffix_cons_iff.1 htail with rfl | htail
        · exact hb
        · exact hnone tail htail
      · refine .inr ⟨c :: before, name, after, rfl, hn, fun tail htail hne ↦ ?_⟩
        rcases List.suffix_cons_iff.1 htail with rfl | htail
        · exact hb
        · exact hfirst tail htail hne

theorem exists_scan (cs : List Char) : ∃ found last, Scan cs found last := by
  -- The reading goes on far behind the first character, so the induction is on the length.
  induction hlength : cs.length using Nat.strong_induction_on generalizing cs with
  | _ n ih =>
    rcases none_or_first cs with hnone | ⟨before, name, after, rfl, hn, hfirst⟩
    · exact ⟨[], cs, .last hnone⟩
    · have hshorter : after.length < n := by
        rw [← hlength]
        simp only [written_append, List.length_append, List.length_cons]
        omega
      obtain ⟨found, last, hs⟩ := ih _ hshorter after rfl
      exact ⟨(before, name) :: found, last, .next hn hfirst hs⟩

theorem front_unique {before' name' after' : List Char} (hn : IsName name) (hn' : IsName name')
    (h : ∀ tail, tail <:+ before → tail ≠ [] → ¬ Begins (tail ++ (written name ++ after)))
    (h' : ∀ tail, tail <:+ before' → tail ≠ [] → ¬ Begins (tail ++ (written name' ++ after')))
    (he : before ++ (written name ++ after) = before' ++ (written name' ++ after')) :
    before = before' ∧ name = name' ∧ after = after' := by
  have hfront : before = before' := by
    -- In the longer of the two fronts there would be the begin of the other reference.
    rcases List.append_eq_append_iff.1 he with ⟨more, rfl, hmore⟩ | ⟨more, rfl, hmore⟩
    · by_contra hne
      refine h' more (List.suffix_append _ _) (by simpa using hne) ?_
      exact ⟨name, after, hn, hmore.symm⟩
    · by_contra hne
      refine h more (List.suffix_append _ _) (by simpa using hne) ?_
      exact ⟨name', after', hn', hmore.symm⟩
  subst hfront
  have hr := reference?_written hn after
  rw [List.append_cancel_left he, reference?_written hn'] at hr
  obtain ⟨rfl, rfl⟩ := Prod.mk.inj (Option.some.inj hr)
  exact ⟨rfl, rfl, rfl⟩

theorem Scan.unique (h : Scan cs found last) (h' : Scan cs found' last') :
    found' = found ∧ last' = last := by
  induction h generalizing found' last' with
  | last hnone =>
    cases h' with
    | last => exact ⟨rfl, rfl⟩
    | @next before name after _ _ hn => exact absurd ⟨name, after, hn, rfl⟩ (hnone _ (List.suffix_append _ _))
  | @next before name after last found hn hfirst _ ih =>
    generalize hcs : before ++ (written name ++ after) = cs at h'
    cases h' with
    | last hnone =>
      exact absurd ⟨name, after, hn, rfl⟩ (hnone _ ⟨before, hcs⟩)
    | next hn' hfirst' hs' =>
      obtain ⟨rfl, rfl, rfl⟩ := front_unique hn hn' hfirst hfirst' hcs
      obtain ⟨rfl, rfl⟩ := ih hs'
      exact ⟨rfl, rfl⟩

theorem expandChars_cons_of_none {c : Char} {rest : List Char} (h : ¬ Begins (c :: rest)) :
    env.expandChars (c :: rest) = (env.expandChars rest).map (c :: ·) := by
  rw [expandChars]
  split
  · rfl
  · next hr =>
    rw [reference?_eq_none.2 h] at hr
    cases hr

theorem expandChars_append (env : Environment)
    (h : ∀ tail, tail <:+ before → tail ≠ [] → ¬ Begins (tail ++ cs)) :
    env.expandChars (before ++ cs) = (env.expandChars cs).map (before ++ ·) := by
  induction before with
  | nil =>
    rw [List.nil_append]
    cases env.expandChars cs <;> rfl
  | cons c rest ih =>
    have hrest : ∀ tail, tail <:+ rest → tail ≠ [] → ¬ Begins (tail ++ cs) :=
      fun tail htail ↦ h tail (htail.trans (List.suffix_cons c rest))
    have hc : ¬ Begins (c :: (rest ++ cs)) := h _ (List.suffix_refl _) (by simp)
    rw [List.cons_append, expandChars_cons_of_none hc, ih hrest]
    cases env.expandChars cs <;> rfl

/-- At a reference the value of its name is put, if it has one, and the reading goes on behind it. -/
theorem expandChars_written (hn : IsName name) :
    env.expandChars (written name ++ after) =
      (env.get? (String.ofList name)).elim (.error (.unsetVariable (String.ofList name)))
        fun value ↦ (env.expandChars after).map (value.toList ++ ·) := by
  have hr := reference?_written hn after
  rw [written_append] at hr ⊢
  rw [expandChars]
  split
  · next h =>
    rw [hr] at h
    cases h
  · next h =>
    rw [hr] at h
    cases h
    cases env.get? (String.ofList name) <;> rfl

theorem unset?_cons (env : Environment) (n : String) (names : List String) :
    env.unset? (n :: names) = if (env.get? n).isNone then some n else env.unset? names := by
  rw [unset?, List.find?_cons]
  cases (env.get? n).isNone <;> rfl

theorem unset?_eq_none {names : List String} :
    env.unset? names = none ↔ ∀ n ∈ names, (env.get? n).isSome := by
  simp [unset?, List.find?_eq_none, Option.isSome_iff_ne_none]

theorem Scan.expandChars (env : Environment) (h : Scan cs found last) :
    env.expandChars cs =
      (env.unset? (namesIn found)).elim (.ok (env.filled found last)) fun n ↦
        .error (.unsetVariable n) := by
  induction h with
  | @last cs hnone =>
    have hcs : env.expandChars (cs ++ []) = (env.expandChars []).map (cs ++ ·) :=
      expandChars_append env fun tail htail _ ↦ by simpa using hnone tail htail
    rw [List.append_nil] at hcs
    rw [hcs, Environment.expandChars]
    simp [Except.map, filled, namesIn, unset?]
  | @next before name after last found hn hfirst _ ih =>
    have hnames : namesIn ((before, name) :: found) = String.ofList name :: namesIn found := rfl
    rw [expandChars_append env hfirst, expandChars_written hn, ih, hnames, unset?_cons]
    rcases hv : env.get? (String.ofList name) with _ | value
    · rfl
    · rcases env.unset? (namesIn found) with _ | n
      · simp [Except.map, filled, hv]
      · rfl

theorem getLast?_written (name : List Char) : (written name).getLast? = some '\x7d' := by
  rw [written, ← List.cons_append, ← List.cons_append, List.getLast?_concat]

theorem begins_append {tail : List Char} (ht : '\x7d' ∉ tail) : Begins (cs ++ tail) ↔ Begins cs := by
  constructor
  · rintro ⟨name, after, hn, he⟩
    rcases List.append_eq_append_iff.1 he with ⟨more, hmore, rfl⟩ | ⟨more, rfl, -⟩
    · -- The closing brace of the reference is its last character, so nothing of it is in the tail.
      rcases List.eq_nil_or_concat more with rfl | ⟨init, c, rfl⟩
      · exact ⟨name, [], hn, by simpa using hmore.symm⟩
      · have hc : c = '\x7d' := by
          have hlast := congrArg List.getLast? hmore
          rw [getLast?_written] at hlast
          simpa using hlast.symm
        simp [hc] at ht
    · exact ⟨name, more, hn, rfl⟩
  · rintro ⟨name, after, hn, rfl⟩
    exact ⟨name, after ++ tail, hn, by rw [List.append_assoc]⟩

theorem Scan.append {tail : List Char} (ht : '\x7d' ∉ tail) (h : Scan cs found last) :
    Scan (cs ++ tail) found (last ++ tail) := by
  induction h with
  | @last cs hnone =>
    refine .last fun rest hrest ↦ ?_
    obtain ⟨front, hfront⟩ := hrest
    rcases List.append_eq_append_iff.1 hfront with ⟨more, rfl, rfl⟩ | ⟨more, -, rfl⟩
    · rw [begins_append ht]
      exact hnone more (List.suffix_append _ _)
    · have hrest : '\x7d' ∉ rest := fun hmem ↦ ht (List.mem_append_right _ hmem)
      rw [← List.nil_append rest, begins_append hrest]
      exact not_begins_nil
  | @next before name after last found hn hfirst _ ih =>
    rw [List.append_assoc, List.append_assoc]
    refine .next hn (fun rest hrest hne ↦ ?_) ih
    rw [← List.append_assoc (written name), ← List.append_assoc, begins_append ht]
    exact hfirst rest hrest hne

theorem filled_append (env : Environment) (found : List (List Char × List Char))
    (last tail : List Char) : env.filled found (last ++ tail) = env.filled found last ++ tail := by
  simp [filled]

theorem opening_of_begins (h : Begins cs) : ['$', '\x7b'] <+: cs := by
  obtain ⟨name, after, -, rfl⟩ := h
  rw [written_append]
  exact ⟨_, rfl⟩

theorem expandChars_empty (cs : List Char) :
    env.expandChars ('$' :: '\x7b' :: '\x7d' :: cs) =
      (env.expandChars cs).map (['$', '\x7b', '\x7d'] ++ ·) := by
  change env.expandChars (['$', '\x7b', '\x7d'] ++ cs) = _
  refine expandChars_append env fun tail htail hne hb ↦ ?_
  have hnone : reference? (tail ++ cs) = none := by
    simp only [List.suffix_cons_iff, List.suffix_nil] at htail
    rcases htail with rfl | rfl | rfl | rfl
    · rfl
    · rfl
    · rfl
    · exact absurd rfl hne
  exact reference?_eq_none.1 hnone hb

theorem expandText_ok {s out : String} :
    env.expandText s = .ok out ↔ env.expandChars s.toList = .ok out.toList := by
  rw [expandText]
  rcases env.expandChars s.toList with f | cs
  · simp [Except.map]
  · simp only [Except.map, Except.ok.injEq]
    constructor
    · rintro rfl
      simp
    · rintro rfl
      simp

theorem expandText_error {s : String} {f : Fault} :
    env.expandText s = .error f ↔ env.expandChars s.toList = .error f := by
  rw [expandText]
  cases env.expandChars s.toList <;> simp [Except.map]

/-- A text is expanded as it is read from the left. Every text can be read in one way only. If all its
references are set, their values are put in their places, and nothing else is changed; if not, the
first that is not set is the fault. So a text in which nothing opens a reference stays as it is, as do
a reference without a name and one that is not closed. -/
theorem expandText_scan (env : Environment) (s : String) :
    (∃ found last, Scan s.toList found last ∧
      (∀ found' last', Scan s.toList found' last' → found' = found ∧ last' = last) ∧
      (∀ out, env.expandText s = .ok out ↔
        (∀ n ∈ namesIn found, (env.get? n).isSome) ∧ out.toList = env.filled found last) ∧
      ∀ f, env.expandText s = .error f ↔
        ∃ n, env.unset? (namesIn found) = some n ∧ f = .unsetVariable n) ∧
    (∀ n, (Fault.unsetVariable n).kind = "ValueError" ∧
      (Fault.unsetVariable n).text = "Environment variable not set: " ++ n) ∧
    (¬ ['$', '\x7b'] <:+: s.toList → env.expandText s = .ok s) ∧
    env.expandText ("$\x7b\x7d" ++ s) = (env.expandText s).map ("$\x7b\x7d" ++ ·) ∧
    ∀ t, '\x7d' ∉ t.toList → env.expandText (s ++ t) = (env.expandText s).map (· ++ t) := by
  obtain ⟨found, last, hs⟩ := exists_scan s.toList
  have hchars := hs.expandChars env
  refine ⟨⟨found, last, hs, fun _ _ ↦ hs.unique, fun out ↦ ?_, fun f ↦ ?_⟩, fun _ ↦ ⟨rfl, rfl⟩, ?_, ?_, ?_⟩
  · rw [expandText_ok, hchars, ← unset?_eq_none]
    cases env.unset? (namesIn found) <;> simp [eq_comm]
  · rw [expandText_error, hchars]
    cases env.unset? (namesIn found) <;> simp [eq_comm]
  · intro hopen
    have hnone : ∀ tail, tail <:+ s.toList → ¬ Begins tail :=
      fun tail htail hb ↦ hopen ((opening_of_begins hb).isInfix.trans htail.isInfix)
    rw [expandText_ok, (Scan.last hnone).expandChars env]
    rfl
  · rw [expandText, expandText, String.toList_append]
    change (env.expandChars ('$' :: '\x7b' :: '\x7d' :: s.toList)).map _ = _
    rw [expandChars_empty]
    rcases env.expandChars s.toList with f | out
    · rfl
    · exact congrArg Except.ok (String.toList_inj.1 (by simp))
  · intro t ht
    have happend : env.expandChars (s ++ t).toList = (env.expandChars s.toList).map (· ++ t.toList) := by
      rw [String.toList_append, (hs.append ht).expandChars env, hchars, filled_append]
      cases env.unset? (namesIn found) <;> rfl
    rw [expandText, expandText, happend]
    cases env.expandChars s.toList <;> simp [Except.map]

end Environment

end Stylesheet

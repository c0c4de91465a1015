import Mathlib
import Stylesheet.Proofs.Files

namespace Stylesheet

namespace Path

variable {p : Path} {c : Char} {cs rest acc : List Char} {name s : String} {names : List String}

def isKept (name : String) : Bool := name != "" && name != "."

theorem go_slash : splitNames.go acc ('/' :: rest) =
    String.ofList acc.reverse :: splitNames.go [] rest := by
  rw [splitNames.go]

theorem go_cons (hc : c ≠ '/') : splitNames.go acc (c :: rest) = splitNames.go (c :: acc) rest := by
  rw [splitNames.go]
  exact hc

theorem go_of_not_mem (h : '/' ∉ cs) : splitNames.go acc cs = [String.ofList (acc.reverse ++ cs)] := by
  induction cs generalizing acc with
  | nil => simp [splitNames.go]
  | cons c rest ih =>
    obtain ⟨hc, hrest⟩ := not_or.1 (mt List.mem_cons.2 h)
    rw [go_cons (Ne.symm hc), ih hrest]
    simp

theorem go_append (h : '/' ∉ cs) :
    splitNames.go acc (cs ++ '/' :: rest) =
      String.ofList (acc.reverse ++ cs) :: splitNames.go [] rest := by
  induction cs generalizing acc with
  | nil => simp [go_slash]
  | cons c more ih =>
    obtain ⟨hc, hmore⟩ := not_or.1 (mt List.mem_cons.2 h)
    rw [List.cons_append, go_cons (Ne.symm hc), ih hmore]
    simp

theorem not_mem_of_mem_go (hacc : '/' ∉ acc) (h : name ∈ splitNames.go acc cs) :
    '/' ∉ name.toList := by
  induction cs generalizing acc with
  | nil =>
    obtain rfl : name = String.ofList acc.reverse := by simpa [splitNames.go] using h
    simpa using hacc
  | cons c rest ih =>
    rcases eq_or_ne c '/' with rfl | hc
    · rw [go_slash] at h
      rcases List.mem_cons.1 h with rfl | h
      · simpa using hacc
      · exact ih (by simp) h
    · rw [go_cons hc] at h
      refine ih ?_ h
      simp [hacc, hc.symm]

theorem join_cons (x : String) (rest : List String) :
    Text.join "/" (x :: rest) = if rest = [] then x else x ++ "/" ++ Text.join "/" rest := by
  cases rest <;> simp [Text.join]

theorem splitNames_join (hne : names ≠ []) (h : ∀ n ∈ names, '/' ∉ n.toList) :
    splitNames (Text.join "/" names) = names := by
  induction names with
  | nil => exact absurd rfl hne
  | cons x rest ih =>
    obtain ⟨hx, hrest⟩ := List.forall_mem_cons.1 h
    rw [join_cons, splitNames]
    split
    · next he => simp [go_of_not_mem hx, he]
    · next he =>
      have hi := ih he hrest
      rw [splitNames] at hi
      have htext : (x ++ "/" ++ Text.join "/" rest).toList =
          x.toList ++ '/' :: (Text.join "/" rest).toList := by simp
      rw [htext, go_append hx, hi]
      simp

theorem join_kept_sublist (acc cs : List Char) :
    (Text.join "/" ((splitNames.go acc cs).filter isKept)).toList.Sublist (acc.reverse ++ cs) := by
  induction cs generalizing acc with
  | nil =>
    cases hk : isKept (String.ofList acc.reverse) <;> simp [splitNames.go, hk, Text.join]
  | cons c rest ih =>
    rcases eq_or_ne c '/' with rfl | hc
    · have hrest := ih []
      rw [go_slash, List.filter_cons]
      split
      · rw [join_cons]
        split
        · simp
        · simpa using hrest
      · exact hrest.trans ((List.sublist_cons_self _ _).trans (List.sublist_append_right _ _))
    · rw [go_cons hc]
      simpa using ih (c :: acc)

theorem not_mem_of_mem_names (h : name ∈ (ofString s).names) : '/' ∉ name.toList :=
  not_mem_of_mem_go (by simp) (List.mem_of_mem_filter h)

theorem rootOf_cases (cs : List Char) :
    (rootOf cs = .relative ∧ cs.head? ≠ some '/') ∨
    (∃ rest, cs = '/' :: rest ∧ rootOf cs = .slash) ∨
    ∃ rest, cs = '/' :: '/' :: rest ∧ rootOf cs = .doubleSlash := by
  unfold rootOf
  split
  · exact .inr (.inl ⟨_, rfl, rfl⟩)
  · exact .inr (.inr ⟨_, rfl, rfl⟩)
  · exact .inr (.inl ⟨_, rfl, rfl⟩)
  · next h =>
    refine .inl ⟨rfl, fun hs ↦ ?_⟩
    obtain ⟨rest, rfl⟩ := List.head?_eq_some_iff.1 hs
    exact h rest rfl

theorem kept_slash :
    (splitNames.go [] ('/' :: rest)).filter isKept = (splitNames.go [] rest).filter isKept := by
  rw [go_slash]
  rfl

theorem dot_mem_of_none_kept (hne : cs ≠ []) (hs : cs.head? ≠ some '/')
    (h : (splitNames.go [] cs).filter isKept = []) : '.' ∈ cs := by
  have hdot {name : List Char} (hn : name ≠ []) (hk : isKept (String.ofList name) = false) :
      name = ['.'] := by
    have hname : String.ofList name = "." := by simpa [isKept, hn] using hk
    simpa using congrArg String.toList hname
  by_cases hmem : '/' ∈ cs
  · obtain ⟨name, rest, rfl, hname⟩ := List.eq_append_cons_of_mem hmem
    have hn : name ≠ [] := by
      rintro rfl
      exact hs rfl
    rw [go_append hname, List.filter_eq_nil_iff] at h
    rw [hdot hn (by simpa using h _ (List.mem_cons_self ..))]
    simp
  · rw [go_of_not_mem hmem, List.filter_eq_nil_iff] at h
    rw [hdot hne (by simpa using h _ (List.mem_cons_self ..))]
    simp

theorem toString_cases (p : Path) :
    (p.root = .relative ∧ p.names = [] ∧ p.toString = ".") ∨
    (p.root = .relative ∧ p.names ≠ [] ∧ p.toString = Text.join "/" p.names) ∨
    (p.root = .slash ∧ p.toString = "/" ++ Text.join "/" p.names) ∨
    (p.root = .doubleSlash ∧ p.toString = "/" ++ ("/" ++ Text.join "/" p.names)) := by
  rcases p with ⟨root, names⟩
  cases root with
  | relative => cases names <;> simp [toString, Root.text]
  | slash => simp [toString, Root.text]
  | doubleSlash =>
    have htwo : "//" = "/" ++ "/" := by decide
    simp [toString, Root.text, ← String.append_assoc, ← htwo]

theorem ofString_cases (s : String) :
    (s.toList.head? ≠ some '/' ∧ (ofString s).names = [] ∧ (ofString s).toString = ".") ∨
    (s.toList.head? ≠ some '/' ∧ (ofString s).names ≠ [] ∧
      (ofString s).toString = Text.join "/" (ofString s).names) ∨
    (∃ rest, s.toList = '/' :: rest ∧
      (ofString s).toString = "/" ++ Text.join "/" (ofString s).names) ∨
    ∃ rest, s.toList = '/' :: '/' :: rest ∧
      (ofString s).toString = "/" ++ ("/" ++ Text.join "/" (ofString s).names) := by
  have hroot : (ofString s).root = rootOf s.toList := rfl
  rcases rootOf_cases s.toList with ⟨hr, hs⟩ | ⟨rest, hs, hr⟩ | ⟨rest, hs, hr⟩ <;>
    rw [← hroot] at hr <;>
    rcases toString_cases (ofString s) with ⟨hp, hn, ht⟩ | ⟨hp, hn, ht⟩ | ⟨hp, ht⟩ | ⟨hp, ht⟩ <;>
    rw [hr] at hp <;> cases hp
  · exact .inl ⟨hs, hn, ht⟩
  · exact .inr (.inl ⟨hs, hn, ht⟩)
  · exact .inr (.inr (.inl ⟨rest, hs, ht⟩))
  · exact .inr (.inr (.inr ⟨rest, hs, ht⟩))

/-- A path is written with characters of the text that it is made from. -/
theorem toString_sublist (hne : s ≠ "") : (ofString s).toString.toList.Sublist s.toList := by
  have hcs : s.toList ≠ [] := mt String.toList_eq_nil_iff.1 hne
  have hnames : (ofString s).names = (splitNames.go [] s.toList).filter isKept := rfl
  rcases ofString_cases s with ⟨hs, hn, ht⟩ | ⟨hs, hn, ht⟩ | ⟨rest, hs, ht⟩ | ⟨rest, hs, ht⟩ <;> rw [ht]
  · rw [hnames] at hn
    simpa using dot_mem_of_none_kept hcs hs hn
  · rw [hnames]
    simpa using join_kept_sublist [] s.toList
  · rw [hnames, hs, kept_slash]
    simpa using join_kept_sublist [] rest
  · rw [hnames, hs, kept_slash, kept_slash]
    simpa using join_kept_sublist [] rest

theorem root_eq_relative (s : String) :
    (ofString s).root = .relative ↔ s.toList.head? ≠ some '/' := by
  have hroot : (ofString s).root = rootOf s.toList := rfl
  rcases rootOf_cases s.toList with ⟨hr, hs⟩ | ⟨rest, hs, hr⟩ | ⟨rest, hs, hr⟩ <;> rw [hroot, hr]
  · simp [hs]
  · simp [hs]
  · simp [hs]

def IsClean (p : Path) : Prop := ∀ n ∈ p.names, n ≠ "" ∧ '/' ∉ n.toList

theorem ofString_isClean (s : String) : (ofString s).IsClean := by
  intro n hn
  refine ⟨?_, not_mem_of_mem_names hn⟩
  rintro rfl
  exact absurd (List.of_mem_filter hn) (by decide)

theorem IsClean.toString_eq_cons (h : p.IsClean) :
    ∃ c cs, p.toString.toList = c :: cs ∧ (c = '/' ↔ p.root ≠ .relative) := by
  rcases p.toString_cases with ⟨hr, -, ht⟩ | ⟨hr, hn, ht⟩ | ⟨hr, ht⟩ | ⟨hr, ht⟩ <;> rw [ht, hr]
  · exact ⟨'.', [], rfl, by simp⟩
  · obtain ⟨first, rest, hnames⟩ := List.exists_cons_of_ne_nil hn
    obtain ⟨hne, hslash⟩ := h first (hnames ▸ List.mem_cons_self ..)
    obtain ⟨c, cs, hfirst⟩ := List.exists_cons_of_ne_nil (mt String.toList_eq_nil_iff.1 hne)
    have hc : c ≠ '/' := by
      rintro rfl
      exact hslash (by simp [hfirst])
    rw [hnames, join_cons]
    split
    · exact ⟨c, cs, hfirst, by simp [hc]⟩
    · exact ⟨c, _, by simp [hfirst]; rfl, by simp [hc]⟩
  · exact ⟨'/', _, by simp; rfl, by simp⟩
  · exact ⟨'/', _, by simp; rfl, by simp⟩

theorem join_concat (names : List String) (name : String) :
    Text.join "/" (names ++ [name]) =
      if names = [] then name else Text.join "/" names ++ "/" ++ name := by
  induction names with
  | nil => rfl
  | cons x rest ih =>
    rw [List.cons_append, join_cons, ih, join_cons]
    by_cases hrest : rest = []
    · simp [hrest]
    · simp [hrest, String.append_assoc]

theorem mem_toString_child (h : c ∈ (p.child name).toString.toList) :
    c ∈ p.toString.toList ∨ c = '/' ∨ c ∈ name.toList := by
  have hchild : (p.child name).toString = p.root.text ++ Text.join "/" (p.names ++ [name]) := by
    simp [toString, child]
  have hroot : c ∈ p.root.text.toList → c = '/' := by
    cases p.root <;> simp [Root.text]
  rw [hchild, join_concat, String.toList_append, List.mem_append] at h
  by_cases hn : p.names = []
  · rw [if_pos hn] at h
    exact .inr (h.imp_left hroot)
  · rw [if_neg hn] at h
    have hp : p.toString = p.root.text ++ Text.join "/" p.names := if_neg (by simp [hn])
    rw [hp]
    simp only [String.toList_append, List.mem_append] at h ⊢
    have hslash : c ∈ "/".toList → c = '/' := by simp
    rcases h with h | (h | h) | h
    · exact .inl (.inl h)
    · exact .inl (.inr h)
    · exact .inr (.inl (hslash h))
    · exact .inr (.inr h)

/-- A name that something in a folder can have. -/
structure IsFileName (name : String) : Prop where
  ne_empty : name ≠ ""
  ne_dot : name ≠ "."
  ne_dots : name ≠ ".."
  noSlash : '/' ∉ name.toList
  noNul : '\x00' ∉ name.toList
  short : name.utf8ByteSize ≤ Files.Tree.longestName

theorem IsClean.child (h : p.IsClean) (hn : IsFileName name) : (p.child name).IsClean := by
  intro n hmem
  rcases List.mem_append.1 hmem with hmem | hmem
  · exact h n hmem
  · obtain rfl := List.mem_singleton.1 hmem
    exact ⟨hn.ne_empty, hn.noSlash⟩

theorem parent_child (p : Path) (name : String) : (p.child name).parent = p := by
  simp [parent, child]

end Path

namespace Files.Tree

variable {t : Tree} {l l' : Location} {names more : List String} {name s : String} {n : Node} {p : Path}

theorem walk_kept (h : t.walk l names = .ok l') : t.walk l (names.filter Path.isKept) = .ok l' := by
  induction names generalizing l with
  | nil => exact h
  | cons name rest ih =>
    rw [walk] at h
    rcases hs : t.step l name with e | next <;> rw [hs] at h
    · cases h
    cases hk : Path.isKept name
    · have hstay : next = l := by
        have hname : name = "" ∨ name = "." := by
          simpa [Path.isKept, imp_iff_not_or, or_comm] using hk
        rw [step] at hs
        split at hs
        · cases hs
        · cases hs
        · rw [if_pos hname] at hs
          exact (Except.ok.inj hs).symm
      rw [List.filter_cons_of_neg (by simp [hk])]
      exact ih (hstay ▸ h)
    · rw [List.filter_cons_of_pos hk, walk, hs]
      exact ih h

section

variable (hl : t.node? l = some .folder)

include hl

theorem walk_slash (text : String) :
    t.walk l (Path.splitNames ("/" ++ text)) = t.walk l (Path.splitNames text) := by
  have hsplit : Path.splitNames ("/" ++ text) = "" :: Path.splitNames text := by
    rw [Path.splitNames, String.toList_append]
    exact Path.go_slash
  rw [hsplit, walk, step, hl]
  rfl

theorem walk_join (h : ∀ n ∈ names, '/' ∉ n.toList) :
    t.walk l (Path.splitNames (Text.join "/" names)) = t.walk l names := by
  rcases eq_or_ne names [] with rfl | hne
  · have hempty : Path.splitNames (Text.join "/" []) = [""] := by decide
    simp [hempty, walk, step, hl]
  · rw [Path.splitNames_join hne h]

theorem walk_toString {p : Path} (h : ∀ n ∈ p.names, '/' ∉ n.toList) :
    t.walk l (Path.splitNames p.toString) = t.walk l p.names := by
  rcases p.toString_cases with ⟨-, hn, ht⟩ | ⟨-, -, ht⟩ | ⟨-, ht⟩ | ⟨-, ht⟩ <;> rw [ht]
  · have hdot : Path.splitNames "." = ["."] := by decide
    simp [hdot, walk, step, hl, hn]
  · exact walk_join hl h
  · rw [walk_slash hl, walk_join hl h]
  · rw [walk_slash hl, walk_slash hl, walk_join hl h]

end

theorem node?_start (t : Tree) (cs : List Char) :
    t.node? (if cs.head? = some '/' then [] else t.home) = some .folder := by
  split <;> simp [node?]

theorem of_locate (h : t.locate s = .ok l) :
    '\x00' ∉ s.toList ∧ s ≠ "" ∧ s.utf8ByteSize ≤ longestPath ∧
      t.walk (if s.toList.head? = some '/' then [] else t.home) (Path.splitNames s) = .ok l := by
  rw [locate] at h
  split at h
  · cases h
  next hnul =>
  split at h
  · cases h
  next hempty =>
  split at h
  · cases h
  next hlong =>
  exact ⟨fun hmem ↦ hnul (List.contains_iff_mem.2 hmem), hempty, Nat.not_lt.1 hlong, h⟩

theorem locate_toString (h : p.IsClean) (hnul : '\x00' ∉ p.toString.toList)
    (hlong : p.toString.utf8ByteSize ≤ longestPath) :
    t.locate p.toString = t.walk (if p.root = .relative then t.home else []) p.names := by
  obtain ⟨c, cs, hcons, hslash⟩ := h.toString_eq_cons
  have hne : p.toString ≠ "" := by
    intro he
    rw [he] at hcons
    cases hcons
  have hhead : p.toString.toList.head? = some '/' ↔ p.root ≠ .relative := by
    rw [hcons, ← hslash]
    simp
  have hstart : (if p.toString.toList.head? = some '/' then [] else t.home) =
      if p.root = .relative then t.home else [] := by
    simp only [hhead, ite_not]
  have hfolder := t.node?_start p.toString.toList
  rw [locate, if_neg (mt List.contains_iff_mem.1 hnul), if_neg hne, if_neg (Nat.not_lt.2 hlong),
    walk_toString hfolder fun n hn ↦ (h n hn).2, hstart]

theorem locate_ofString (h : t.locate s = .ok l) : t.locate (Path.ofString s).toString = .ok l := by
  obtain ⟨hnul, hempty, hlong, hwalk⟩ := of_locate h
  have hsub := Path.toString_sublist hempty
  have hlong' : (Path.ofString s).toString.utf8ByteSize ≤ longestPath := by
    have hle := String.utf8Len_le_of_sublist hsub
    rw [← String.utf8ByteSize_ofList, ← String.utf8ByteSize_ofList, String.ofList_toList,
      String.ofList_toList] at hle
    exact hle.trans hlong
  rw [locate_toString (Path.ofString_isClean s) (fun hmem ↦ hnul (hsub.subset hmem)) hlong']
  simp only [Path.root_eq_relative, ite_not]
  exact walk_kept hwalk

/-- What a text leads to, its path leads to as well. -/
theorem find_ofString (h : t.find s = .ok n) : t.find (Path.ofString s).toString = .ok n := by
  rw [find] at h ⊢
  rcases hl : t.locate s with e | l <;> rw [hl] at h
  · cases h
  · rw [locate_ofString hl]
    exact h

theorem walk_append (names more : List String) :
    t.walk l (names ++ more) = t.walk l names >>= fun l' ↦ t.walk l' more := by
  induction names generalizing l with
  | nil => rfl
  | cons name rest ih =>
    rw [List.cons_append, walk, walk]
    cases t.step l name with
    | error e => rfl
    | ok next => exact ih

theorem nul_not_mem_child (hn : Path.IsFileName name) (h : '\x00' ∉ p.toString.toList) :
    '\x00' ∉ (p.child name).toString.toList := by
  intro hmem
  rcases Path.mem_toString_child hmem with hmem | hmem | hmem
  · exact h hmem
  · exact absurd hmem (by decide)
  · exact hn.noNul hmem

theorem locate_child (h : p.IsClean) (hn : Path.IsFileName name) (hl : t.locate p.toString = .ok l)
    (hfolder : t.node? l = some .folder) (hlong : (p.child name).toString.utf8ByteSize ≤ longestPath) :
    t.locate (p.child name).toString = .ok (l ++ [name]) := by
  obtain ⟨hnul, -, hshort, -⟩ := of_locate hl
  have hstep : t.step l name = .ok (l ++ [name]) := by
    rw [step, hfolder]
    simp only [hn.ne_empty, hn.ne_dot, hn.ne_dots, or_self, if_false, if_neg (Nat.not_lt.2 hn.short)]
  rw [locate_toString h hnul hshort] at hl
  rw [locate_toString (h.child hn) (nul_not_mem_child hn hnul) hlong]
  change t.walk (if p.root = .relative then t.home else []) (p.names ++ [name]) = _
  rw [walk_append, hl]
  change t.walk l [name] = _
  rw [walk, hstep]
  rfl

end Files.Tree

end Stylesheet

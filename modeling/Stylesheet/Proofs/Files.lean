import Stylesheet.Command.Perform
import Stylesheet.Proofs.Computation

namespace Stylesheet

namespace Files.Tree

variable {t t' u : Tree} {l l' : Location} {names : List String} {text : String} {bytes : ByteArray}
  {n : Node}

theorem node?_set (hl : l.isPrefixOf t.home = false) (l' : Location) :
    ({ t with nodes := t.nodes.set l n } : Tree).node? l' = if l' = l then some n else t.node? l' := by
  by_cases h : l' = l
  · subst h
    simp [node?, hl, Table.get?_set_self]
  · simp [node?, h, Table.get?_set_ne t.nodes n (Ne.symm h)]

theorem isPrefixOf_home (h : t.node? l ≠ some .folder) : l.isPrefixOf t.home = false := by
  cases hp : l.isPrefixOf t.home with
  | false => rfl
  | true => exact absurd (by rw [node?, if_pos hp]) h

theorem walk_of_folders (hf : ∀ l, t.node? l = some .folder → t'.node? l = some .folder)
    {names : List String} (h : t.walk l names = .ok l') : t'.walk l names = .ok l' := by
  induction names generalizing l with
  | nil => exact h
  | cons name rest ih =>
    rw [walk] at h ⊢
    cases hn : t.node? l with
    | none => simp [step, hn] at h
    | some node =>
      cases node with
      | file bytes => simp [step, hn] at h
      | folder =>
        have hstep : t'.step l name = t.step l name := by rw [step, step, hf l hn, hn]
        rw [hstep]
        cases hs : t.step l name with
        | error e => simp [hs] at h
        | ok next =>
          rw [hs] at h
          exact ih h

theorem locate_of_folders (hh : t'.home = t.home)
    (hf : ∀ l, t.node? l = some .folder → t'.node? l = some .folder)
    (h : t.locate text = .ok l) : t'.locate text = .ok l := by
  rw [locate] at h ⊢
  split at h
  · cases h
  next hnul =>
  split at h
  · cases h
  next hempty =>
  split at h
  · cases h
  next hlong =>
  rw [if_neg hnul, if_neg hempty, if_neg hlong, hh]
  exact walk_of_folders hf h

theorem walk_ne_nul {names : List String} : t.walk l names ≠ .error .nulInName := by
  induction names generalizing l with
  | nil => simp [walk]
  | cons name rest ih =>
    have hstep : t.step l name ≠ .error .nulInName := by
      rw [step]
      split
      · simp
      · simp
      · split <;> (try split) <;> (try split) <;> simp
    rw [walk]
    split
    · exact ih
    · next e he =>
      rintro ⟨⟩
      exact hstep he

theorem find_ne_nul (h : t.locate text = .ok l) (u : Tree) : u.find text ≠ .error .nulInName := by
  have hnul : ¬ text.toList.contains '\x00' = true := by
    intro hn
    rw [locate, if_pos hn] at h
    cases h
  rw [find]
  split
  · next e he =>
    rintro ⟨⟩
    rw [locate, if_neg hnul] at he
    split at he
    · cases he
    · split at he
      · cases he
      · exact walk_ne_nul he
  · split <;> simp

/-- Folders have been made where nothing was. -/
structure Grows (t t' : Tree) : Prop where
  home : t'.home = t.home
  nodes : ∀ l, t'.node? l = t.node? l ∨ t.node? l = none ∧ t'.node? l = some .folder

theorem Grows.refl (t : Tree) : t.Grows t := ⟨rfl, fun _ ↦ .inl rfl⟩

theorem Grows.trans (h : t.Grows t') (h' : t'.Grows u) : t.Grows u := by
  refine ⟨h'.home.trans h.home, fun l ↦ ?_⟩
  rcases h.nodes l with hl | ⟨hl, hl'⟩
  · rw [← hl]
    exact h'.nodes l
  · rcases h'.nodes l with hu | ⟨hu, -⟩
    · exact .inr ⟨hl, hu.trans hl'⟩
    · rw [hl'] at hu
      cases hu

namespace Grows

variable (h : t.Grows u)

include h

theorem folder (hn : t.node? l = some .folder) : u.node? l = some .folder := by
  rcases h.nodes l with hl | ⟨hl, -⟩
  · rw [hl, hn]
  · rw [hn] at hl
    cases hl

theorem locate (hl : t.locate text = .ok l) : u.locate text = .ok l :=
  locate_of_folders h.home (fun _ ↦ h.folder) hl

theorem find_file (hf : t.find text = .ok (.file bytes)) : u.find text = .ok (.file bytes) := by
  rw [find] at hf
  rcases hl : t.locate text with e | l <;> rw [hl] at hf
  · cases hf
  rcases hn : t.node? l with _ | n <;> simp only [hn] at hf <;> cases hf
  rcases h.nodes l with hu | ⟨hnone, -⟩
  · rw [find, h.locate hl]
    simp only [hu, hn]
  · rw [hn] at hnone
    cases hnone

theorem walk_cases (hu : u.walk l names = .ok l') :
    t.walk l names = .ok l' ∨ t.walk l names = .error .missing := by
  induction names generalizing l with
  | nil => exact .inl hu
  | cons name rest ih =>
    rw [walk] at hu ⊢
    rcases h.nodes l with hl | ⟨hl, -⟩
    · have hstep : u.step l name = t.step l name := by rw [step, step, hl]
      rw [hstep] at hu
      rcases hs : t.step l name with e | next <;> rw [hs] at hu
      · cases hu
      · exact ih hu
    · have hstep : t.step l name = .error .missing := by rw [step, hl]
      rw [hstep]
      exact .inr rfl

theorem locate_cases (hu : u.locate text = .ok l) :
    t.locate text = .ok l ∨ t.locate text = .error .missing := by
  rw [Tree.locate] at hu ⊢
  split at hu
  · cases hu
  next hnul =>
  split at hu
  · cases hu
  next hempty =>
  split at hu
  · cases hu
  next hlong =>
  rw [if_neg hnul, if_neg hempty, if_neg hlong, ← h.home]
  exact h.walk_cases hu

theorem holds {p : Path} (hu : u.locate p.toString = .ok l) : ∃ there, t.holds p = .ok there := by
  rw [Tree.holds, seek, find]
  rcases h.locate_cases hu with hl | hl <;> rw [hl]
  · rcases hn : t.node? l with _ | n
    · exact ⟨false, by simp only [hn]; rfl⟩
    · exact ⟨true, by simp only [hn]; rfl⟩
  · exact ⟨false, rfl⟩

end Grows

theorem makeFolder_grows (h : t.makeFolder text = .ok t') : t.Grows t' := by
  rw [makeFolder] at h
  split at h
  · cases h
  · next l hl =>
    split at h
    · cases h
    · next hn =>
      cases h
      have hp := isPrefixOf_home (t := t) (l := l) (by simp [hn])
      refine ⟨rfl, fun l' ↦ ?_⟩
      rw [node?_set hp]
      by_cases he : l' = l
      · subst he
        exact .inr ⟨hn, if_pos rfl⟩
      · exact .inl (if_neg he)

theorem makeFolders_grows {p : Path} {count : Nat} (h : t.makeFolders p count = .ok t') :
    t.Grows t' := by
  induction count generalizing t t' with
  | zero =>
    rw [makeFolders] at h
    split at h
    · next u hu =>
      cases h
      exact makeFolder_grows hu
    · split at h
      · cases h
        exact .refl t
      · cases h
  | succ count ih =>
    rw [makeFolders] at h
    split at h
    · next u hu =>
      cases h
      exact makeFolder_grows hu
    · split at h
      · cases h
      · next u hu =>
        split at h
        · next v hv =>
          cases h
          exact (ih hu).trans (makeFolder_grows hv)
        · split at h
          · cases h
            exact ih hu
          · cases h
    · split at h
      · cases h
        exact .refl t
      · cases h

theorem find_of_isFolder (h : t.isFolder text = true) : t.find text = .ok .folder := by
  rw [isFolder] at h
  split at h
  · assumption
  · cases h

theorem makeFolder_find (h : t.makeFolder text = .ok u) : u.find text = .ok .folder := by
  have hgrows := makeFolder_grows h
  rw [makeFolder] at h
  split at h
  · cases h
  · next l hl =>
    split at h
    · cases h
    · next hn =>
      have hhome := isPrefixOf_home (t := t) (l := l) (by simp [hn])
      rw [find, hgrows.locate hl]
      cases h
      simp only [node?_set hhome, if_true]

theorem makeFolders_find {p : Path} {count : Nat} (h : t.makeFolders p count = .ok u) :
    u.find (Path.toString ⟨p.root, p.names.take count⟩) = .ok .folder := by
  cases count with
  | zero =>
    rw [makeFolders] at h
    split at h
    · next v hv =>
      cases h
      exact makeFolder_find hv
    · split at h
      · next hthere =>
        cases h
        exact find_of_isFolder hthere
      · cases h
  | succ count =>
    rw [makeFolders] at h
    split at h
    · next v hv =>
      cases h
      exact makeFolder_find hv
    · split at h
      · cases h
      · split at h
        · next hv =>
          cases h
          exact makeFolder_find hv
        · split at h
          · next hthere =>
            cases h
            exact find_of_isFolder hthere
          · cases h
    · split at h
      · next hthere =>
        cases h
        exact find_of_isFolder hthere
      · cases h

theorem ensureFolder_find {p : Path} (h : t.ensureFolder p = .ok u) :
    u.find p.toString = .ok .folder := by
  have hmade := makeFolders_find h
  rwa [List.take_length] at hmade

theorem of_write (h : t.write text bytes = .ok t') :
    ∃ l, t'.locate text = .ok l ∧ t'.node? l = some (.file bytes) ∧
      ∀ l', l' ≠ l → t'.node? l' = t.node? l' := by
  rw [write] at h
  split at h
  · cases h
  · next l hl =>
    split at h
    · cases h
    · next hn =>
      cases h
      let u : Tree := { t with nodes := t.nodes.set l (.file bytes) }
      have hset (k : Location) : u.node? k = if k = l then some (.file bytes) else t.node? k :=
        node?_set (isPrefixOf_home hn) k
      have hfolders (k : Location) (hk : t.node? k = some .folder) : u.node? k = some .folder := by
        have hne : k ≠ l := by
          rintro rfl
          exact hn hk
        rw [hset, if_neg hne, hk]
      have hlocated : u.locate text = .ok l := locate_of_folders (t := t) rfl hfolders hl
      exact ⟨l, hlocated, by rw [hset, if_pos rfl], fun l' hl' ↦ by rw [hset, if_neg hl']⟩

theorem read_of_locate (hl : t.locate text = .ok l) (hn : t.node? l = some (.file bytes)) :
    t.read text = .ok bytes := by
  rw [read, find, hl]
  simp [hn]

theorem find_of_read (h : t.read text = .ok bytes) : t.find text = .ok (.file bytes) := by
  rw [read] at h
  split at h
  · cases h
  · cases h
  · next hf =>
    cases h
    exact hf

end Files.Tree

namespace Command

open Files Tree

variable {t t' : Tree} {path : Path} {content : String}

theorem of_mapError_ok {α ε ε' : Type} {e : Except ε α} {f : ε → ε'} {a : α}
    (h : e.mapError f = .ok a) : e = .ok a := by
  cases e <;> cases h
  rfl

/-- A text that has been written below folders is read again from its path. But for it there are new
folders only. -/
theorem of_writeBelow (h : writeBelow t path content = .ok t') :
    t'.read path.toString = .ok content.toUTF8 ∧
    ∃ l, t'.locate path.toString = .ok l ∧
      ∀ l', l' ≠ l → t'.node? l' = t.node? l' ∨ t.node? l' = none ∧ t'.node? l' = some .folder := by
  rw [writeBelow] at h
  obtain ⟨u, he, h⟩ := Fault.of_bind_ok h
  have hgrows : t.Grows u := makeFolders_grows (of_mapError_ok he)
  have hw : u.write path.toString content.toUTF8 = .ok t' := of_mapError_ok h
  obtain ⟨l, hl, hn, hother⟩ := of_write hw
  refine ⟨read_of_locate hl hn, l, hl, fun l' hl' ↦ ?_⟩
  rw [hother l' hl']
  exact hgrows.nodes l'

end Command

end Stylesheet

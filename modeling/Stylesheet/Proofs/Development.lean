import Stylesheet.Proofs.Computation

namespace Stylesheet

namespace Chunk

def depth? : Chunk → Option Int
  | .line d _ | .assignment d _ _ _ | .opening d _ | .closing d => some d
  | .raw _ => none

def isOddlyNamed : Chunk → Bool
  | .assignment _ (.atom (.text _)) _ _ => false
  | .assignment _ _ _ _ => true
  | _ => false

theorem text_of_isOddlyNamed {d : Int} {name : Value} {token shown : String}
    (h : (assignment d name token shown).isOddlyNamed = false) : ∃ n, name = .text n := by
  cases name with
  | atom a => cases a <;> simp_all [isOddlyNamed]
  | _ => simp [isOddlyNamed] at h

end Chunk

/-- Lines that are all at least as deep as `depth`. Raw texts have no depth of their own. -/
def AreDeep (depth : Int) (chunks : List Chunk) : Prop :=
  ∀ c ∈ chunks, ∀ d, c.depth? = some d → depth ≤ d

namespace AreDeep

variable {depth : Int} {a b : List Chunk} {c : Chunk}

theorem nil : AreDeep depth [] := nofun

theorem cons (hc : ∀ d, c.depth? = some d → depth ≤ d) (h : AreDeep depth a) :
    AreDeep depth (c :: a) := by
  intro c' hc' d hd
  rcases List.mem_cons.1 hc' with rfl | hc'
  · exact hc d hd
  · exact h c' hc' d hd

theorem append (h : AreDeep depth a) (h' : AreDeep depth b) : AreDeep depth (a ++ b) := by
  intro c hc d hd
  rcases List.mem_append.1 hc with hc | hc
  · exact h c hc d hd
  · exact h' c hc d hd

theorem of_le {depth' : Int} (h : AreDeep depth' a) (hd : depth ≤ depth') : AreDeep depth a :=
  fun c hc d hcd ↦ Int.le_trans hd (h c hc d hcd)

end AreDeep

namespace Sheet

/-- Whole operations on a sheet, whoever asks for them: lines, variables, raw texts, blocks with what
is done inside them, and attempts to build the text. A raw text is made after the sheet was found
writable, so other operations may come between the two. -/
inductive Becomes : Sheet → Sheet → Prop
  | refl (S : Sheet) : Becomes S S
  | trans {S T U : Sheet} : Becomes S T → Becomes T U → Becomes S U
  | line {S : Sheet} (words : String) (ho : S.output = none) : Becomes S (S.write (.line · words))
  | assignment {S : Sheet} (name : Value) (token shown key : String) (ho : S.output = none)
      (hn : ∀ n, name = .text n → key = n ∧ token = "$" ++ n) :
      Becomes S ((S.write (.assignment · name token shown)).assign key token)
  | raw {S T : Sheet} (words : String) (ho : S.output = none) :
      Becomes S T → Becomes S (T.append (.raw words))
  | leftBlock {S T : Sheet} (heading : String) (ho : S.output = none) :
      Becomes (S.write (.opening · heading)).deepen T → Becomes S T.rise
  | block {S T : Sheet} (heading : String) (ho : S.output = none) :
      Becomes (S.write (.opening · heading)).deepen T → T.output = none →
      Becomes S (T.rise.write .closing)
  | finish {S T : Sheet} (ho : S.output = none) (hr : S.rendering = false) :
      Becomes S.start T → Becomes S T.finish
  | abandon {S T : Sheet} (ho : S.output = none) (hr : S.rendering = false) :
      Becomes S.start T → Becomes S T.abandon

variable {S T U : Sheet}

theorem Becomes.eq_of_finished {text : String} (h : Becomes S T) (hs : S.output = some text) :
    T = S := by
  induction h with
  | refl => rfl
  | trans _ _ ih₁ ih₂ =>
    have h₁ := ih₁ hs
    exact (ih₂ (h₁ ▸ hs)).trans h₁
  | line _ ho | assignment _ _ _ _ ho | raw _ ho | leftBlock _ ho | block _ ho | finish ho
  | abandon ho => simp [hs] at ho

/-- The text is being built and there is none yet: so it is from the start of the sheet's body to its
end, also inside blocks. -/
structure IsBuilding (S : Sheet) : Prop where
  output : S.output = none
  rendering : S.rendering = true

def TokensAreNames (tokens : Table String String) : Prop :=
  ∀ k t, tokens.get? k = some t → t = "$" ++ k

/-- `T` is `S` with chunks added, whose lines are no less deep than `S` stands, and with tokens added.
Unless variables were declared by something else than texts, the tokens of `S` have not changed. -/
structure Extends (added : List Chunk) (S T : Sheet) : Prop where
  body : T.body = S.body
  building : T.IsBuilding
  indentation : T.indentation = S.indentation
  chunks : T.chunks = S.chunks ++ added
  deep : AreDeep S.indentation added
  keys : S.tokens.keys <+: T.tokens.keys
  tokens : (∀ c ∈ added, c.isOddlyNamed = false) → TokensAreNames S.tokens →
    TokensAreNames T.tokens ∧ ∀ k t, S.tokens.get? k = some t → T.tokens.get? k = some t

theorem Extends.refl (hs : S.IsBuilding) : Extends [] S S where
  body := rfl
  building := hs
  indentation := rfl
  chunks := by simp
  deep := .nil
  keys := List.prefix_rfl
  tokens _ h := ⟨h, fun _ _ ↦ id⟩

theorem Extends.trans {a b : List Chunk} (h : Extends a S T) (h' : Extends b T U) :
    Extends (a ++ b) S U where
  body := h'.body.trans h.body
  building := h'.building
  indentation := h'.indentation.trans h.indentation
  chunks := by rw [h'.chunks, h.chunks, List.append_assoc]
  deep := h.deep.append (h.indentation ▸ h'.deep)
  keys := h.keys.trans h'.keys
  tokens ha hs := by
    obtain ⟨ht, hk⟩ := h.tokens (fun c hc ↦ ha c (List.mem_append_left _ hc)) hs
    obtain ⟨hu, hk'⟩ := h'.tokens (fun c hc ↦ ha c (List.mem_append_right _ hc)) ht
    exact ⟨hu, fun k t hkt ↦ hk' k t (hk k t hkt)⟩

theorem Extends.append (hs : S.IsBuilding) {c : Chunk}
    (hc : ∀ d, c.depth? = some d → S.indentation ≤ d) : Extends [c] S (S.append c) where
  body := rfl
  building := ⟨hs.output, hs.rendering⟩
  indentation := rfl
  chunks := rfl
  deep := .cons hc .nil
  keys := List.prefix_rfl
  tokens _ h := ⟨h, fun _ _ ↦ id⟩

theorem Extends.assignment (hs : S.IsBuilding) {name : Value} {token shown key : String}
    (hn : ∀ n, name = .text n → key = n ∧ token = "$" ++ n) :
    Extends [.assignment S.indentation name token shown] S
      ((S.write (.assignment · name token shown)).assign key token) where
  body := rfl
  building := ⟨hs.output, hs.rendering⟩
  indentation := rfl
  chunks := rfl
  deep := .cons (by simp [Chunk.depth?]) .nil
  keys := by
    change _ <+: Table.keys (Table.set S.tokens key token)
    rw [Table.keys_set]
    split
    · exact List.prefix_rfl
    · exact List.prefix_append _ _
  tokens ha ht := by
    obtain ⟨n, rfl⟩ := Chunk.text_of_isOddlyNamed (ha _ (List.mem_singleton_self _))
    obtain ⟨rfl, rfl⟩ := hn n rfl
    have hset : ∀ k t, Table.get? (Table.set S.tokens key ("$" ++ key)) k = some t →
        t = "$" ++ k := by
      intro k t hk
      by_cases h : key = k
      · subst h
        rw [Table.get?_set_self] at hk
        exact (Option.some.inj hk).symm
      · exact ht k t (by rwa [Table.get?_set_ne _ _ h] at hk)
    refine ⟨hset, fun k t hk ↦ ?_⟩
    change Table.get? (Table.set S.tokens key ("$" ++ key)) k = some t
    by_cases h : key = k
    · subst h
      rw [Table.get?_set_self, ht _ _ hk]
    · rwa [Table.get?_set_ne _ _ h]

theorem Extends.leftBlock {heading : String} {inner : List Chunk}
    (h : Extends inner (S.write (.opening · heading)).deepen T) :
    Extends (.opening S.indentation heading :: inner) S T.rise ∧
      AreDeep (S.indentation + 1) inner := by
  have hdeep : AreDeep (S.indentation + 1) inner := h.deep
  refine ⟨?_, hdeep⟩
  exact {
    body := h.body
    building := ⟨h.building.output, h.building.rendering⟩
    indentation := by
      have hi : T.indentation = S.indentation + 1 := h.indentation
      simp [rise, hi]
    chunks := by
      have hc : T.chunks = S.chunks ++ [.opening S.indentation heading] ++ inner := h.chunks
      simpa [rise] using hc
    deep := .cons (by simp [Chunk.depth?]) (hdeep.of_le (by omega))
    keys := h.keys
    tokens := fun ha ↦ h.tokens fun c hc ↦ ha c (List.mem_cons_of_mem _ hc) }

theorem Becomes.extends (h : Becomes S T) (hs : S.IsBuilding) : ∃ added, Extends added S T := by
  induction h with
  | refl => exact ⟨_, .refl hs⟩
  | trans _ _ ih₁ ih₂ =>
    obtain ⟨a, ha⟩ := ih₁ hs
    obtain ⟨b, hb⟩ := ih₂ ha.building
    exact ⟨_, ha.trans hb⟩
  | line => exact ⟨_, .append hs (by simp [Chunk.depth?])⟩
  | assignment _ _ _ _ _ hn => exact ⟨_, .assignment hs hn⟩
  | raw words _ _ ih =>
    obtain ⟨a, ha⟩ := ih hs
    exact ⟨_, ha.trans (.append ha.building (by simp [Chunk.depth?]))⟩
  | leftBlock _ _ _ ih =>
    obtain ⟨inner, hi⟩ := ih ⟨hs.output, hs.rendering⟩
    exact ⟨_, hi.leftBlock.1⟩
  | block _ _ _ _ ih =>
    obtain ⟨inner, hi⟩ := ih ⟨hs.output, hs.rendering⟩
    have hl := hi.leftBlock.1
    exact ⟨_, hl.trans (.append hl.building (by simp [Chunk.depth?]))⟩
  | finish _ hr | abandon _ hr => simp [hs.rendering] at hr

end Sheet

end Stylesheet

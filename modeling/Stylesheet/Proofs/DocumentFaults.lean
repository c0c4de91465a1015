import Mathlib
import Stylesheet.Yaml.Document
import Stylesheet.Proofs.TokenFaults

namespace Stylesheet

namespace Yaml

namespace Node

def Source.IsSound (s : Source) : Prop := ∀ f, s.fault = some f → f.IsUnasked

variable {α β : Type} {m : Reading α} {g : α → Reading β}

def Reads (m : Reading α) : Prop :=
  ∀ s : Source, s.IsSound → Yields (fun r ↦ r.2.IsSound) (m.run s)

namespace Reads

theorem pure (a : α) : Reads (pure a) := fun _ hs ↦ .ok hs

theorem get : Reads get := fun _ hs ↦ .ok hs

theorem modify {change : Source → Source} (h : ∀ s, (change s).fault = s.fault) :
    Reads (modify change) :=
  fun s hs ↦ .ok fun f hf ↦ hs f (h s ▸ hf)

theorem malformed : Reads (throw .malformedYaml : Reading α) := fun _ _ ↦ .error rfl

theorem bind (hm : Reads m) (hg : ∀ a, Reads (g a)) : Reads (m >>= g) :=
  fun s hs ↦ (hm s hs).bind fun r hr ↦ hg r.1 r.2 hr

theorem ite {c : Prop} [Decidable c] {n : Reading α} (hm : Reads m) (hn : Reads n) :
    Reads (if c then m else n) := by
  split
  · exact hm
  · exact hn

end Reads

theorem peek_reads : Reads peek := by
  rintro ⟨_ | ⟨t, rest⟩, fault, handles, anchors⟩ hs
  · cases fault with
    | none => exact .ok hs
    | some f => exact .error (hs f rfl)
  · exact .ok hs

theorem advance_reads : Reads advance := .modify fun _ ↦ rfl

theorem accept_reads (t : Token) : Reads (accept t) :=
  peek_reads.bind fun _ ↦ .ite (advance_reads.bind fun _ ↦ .pure _) (.pure _)

theorem require_reads (t : Token) : Reads (require t) :=
  (accept_reads t).bind fun _ ↦ .ite .malformed (.pure _)

variable {read : Reading Node}

theorem optional_reads (ends : List Token) (h : Reads read) : Reads (optional ends read) :=
  peek_reads.bind fun _ ↦ .ite (.pure _) h

theorem behindColon_reads (ends : List Token) (h : Reads read) : Reads (behindColon ends read) :=
  (accept_reads _).bind fun _ ↦ .ite (optional_reads ends h) (.pure _)

theorem anchor?_reads : Reads anchor? := by
  refine peek_reads.bind fun t ↦ ?_
  split
  · exact advance_reads.bind fun _ ↦ .pure _
  · exact .pure _

theorem tag?_reads : Reads tag? := by
  refine peek_reads.bind fun t ↦ ?_
  split
  · exact advance_reads.bind fun _ ↦ .pure _
  · exact .pure _

theorem fullName_reads (name : TagName) : Reads (fullName name) := by
  rw [fullName]
  split
  · exact .pure _
  · refine Reads.get.bind fun s ↦ ?_
    split
    · exact .pure _
    · exact .malformed

theorem properties_reads : Reads properties := by
  refine anchor?_reads.bind fun early ↦ tag?_reads.bind fun name ↦ ?_
  have hrest (anchor : Option String) :
      Reads (do return (anchor, ← name.mapM fullName)) := by
    cases name with
    | none => exact .pure _
    | some name => exact ((fullName_reads name).bind fun _ ↦ .pure _).bind fun _ ↦ .pure _
  exact .ite (anchor?_reads.bind hrest) (hrest early)

theorem anchored_reads (name : Option String) (h : Reads read) : Reads (anchored name read) := by
  cases name with
  | none => exact h
  | some name =>
    have hrest : Reads (do
        modify fun s ↦ { s with anchors := s.anchors.set name none }
        let n ← read
        modify fun s ↦ { s with anchors := s.anchors.set name (some n) }
        return n) :=
      Reads.bind (.modify fun _ ↦ rfl) fun _ ↦ h.bind fun _ ↦
        Reads.bind (.modify fun _ ↦ rfl) fun _ ↦ .pure _
    exact Reads.get.bind fun s ↦ .ite (Reads.malformed.bind fun _ ↦ hrest) hrest

/-- The readers of nodes call each other with less fuel. -/
structure AllRead (fuel : Nat) : Prop where
  node (isBlock isBehindKey : Bool) : Reads (node isBlock isBehindKey fuel)
  content (isBlock isBehindKey hasProperty : Bool) (name : Option String) :
    Reads (content isBlock isBehindKey hasProperty name fuel)
  blockItems : Reads (blockItems fuel)
  itemsBehindKey : Reads (itemsBehindKey fuel)
  blockEntries : Reads (blockEntries fuel)
  bracketItems (isFirst : Bool) : Reads (bracketItems isFirst fuel)
  bracketEntries (isFirst : Bool) : Reads (bracketEntries isFirst fuel)

theorem AllRead.zero : AllRead 0 where
  node _ _ := .malformed
  content _ _ _ _ := .malformed
  blockItems := .malformed
  itemsBehindKey := .malformed
  blockEntries := .malformed
  bracketItems _ := .malformed
  bracketEntries _ := .malformed

namespace AllRead

variable {fuel : Nat} (h : AllRead fuel)

include h

theorem node_succ (isBlock isBehindKey : Bool) : Reads (Node.node isBlock isBehindKey (fuel + 1)) := by
  rw [Node.node]
  refine peek_reads.bind fun t ↦ ?_
  split
  · refine advance_reads.bind fun _ ↦ Reads.get.bind fun s ↦ ?_
    split
    · exact .pure _
    · exact .malformed
  · exact properties_reads.bind fun _ ↦ anchored_reads _ (h.content _ _ _ _)

theorem content_succ (isBlock isBehindKey hasProperty : Bool) (name : Option String) :
    Reads (Node.content isBlock isBehindKey hasProperty name (fuel + 1)) := by
  rw [Node.content]
  have hleftOut : Reads (if hasProperty then return .scalar (scalarTag true "" name) ""
      else throw .malformedYaml : Reading Node) := .ite (.pure _) .malformed
  refine peek_reads.bind fun t ↦ ?_
  split
  · exact advance_reads.bind fun _ ↦ .pure _
  · exact advance_reads.bind fun _ ↦ (h.bracketItems _).bind fun _ ↦ .pure _
  · exact advance_reads.bind fun _ ↦ (h.bracketEntries _).bind fun _ ↦ .pure _
  · exact .ite (h.itemsBehindKey.bind fun _ ↦ .pure _) hleftOut
  · exact .ite (advance_reads.bind fun _ ↦ h.blockItems.bind fun _ ↦ .pure _) hleftOut
  · exact .ite (advance_reads.bind fun _ ↦ h.blockEntries.bind fun _ ↦ .pure _) hleftOut
  · exact hleftOut

theorem blockItems_succ : Reads (Node.blockItems (fuel + 1)) := by
  rw [Node.blockItems]
  refine (accept_reads _).bind fun _ ↦ .ite ?_ ((require_reads _).bind fun _ ↦ .pure _)
  exact (optional_reads _ (h.node _ _)).bind fun _ ↦ h.blockItems.bind fun _ ↦ .pure _

theorem itemsBehindKey_succ : Reads (Node.itemsBehindKey (fuel + 1)) := by
  rw [Node.itemsBehindKey]
  refine (accept_reads _).bind fun _ ↦ .ite ?_ (.pure _)
  exact (optional_reads _ (h.node _ _)).bind fun _ ↦ h.itemsBehindKey.bind fun _ ↦ .pure _

theorem blockEntries_succ : Reads (Node.blockEntries (fuel + 1)) := by
  rw [Node.blockEntries]
  refine (accept_reads _).bind fun _ ↦ .ite ?_ ((require_reads _).bind fun _ ↦ .pure _)
  exact (optional_reads _ (h.node _ _)).bind fun _ ↦ (behindColon_reads _ (h.node _ _)).bind fun _ ↦
    h.blockEntries.bind fun _ ↦ .pure _

theorem bracketItems_succ (isFirst : Bool) : Reads (Node.bracketItems isFirst (fuel + 1)) := by
  rw [Node.bracketItems]
  have hrest (item : Node) : Reads (do return item :: (← Node.bracketItems false fuel)) :=
    (h.bracketItems _).bind fun _ ↦ .pure _
  have hitem : Reads (do
      if ← accept .closeSequence then return []
      let item ← if ← accept .key then do
          let ends := [.comma, .closeSequence]
          let key ← optional (.value :: ends) (Node.node false false fuel)
          let item ← behindColon ends (Node.node false false fuel)
          pure (.mapping .mapping [(key, item)])
        else Node.node false false fuel
      return item :: (← Node.bracketItems false fuel)) := by
    refine (accept_reads _).bind fun _ ↦ .ite (.pure _) ((accept_reads _).bind fun _ ↦ .ite ?_ ?_)
    · exact (optional_reads _ (h.node _ _)).bind fun _ ↦ (behindColon_reads _ (h.node _ _)).bind fun _ ↦
        hrest _
    · exact (h.node _ _).bind hrest
  refine (accept_reads _).bind fun _ ↦ .ite (.pure _) (.ite ?_ hitem)
  exact (require_reads _).bind fun _ ↦ hitem

theorem bracketEntries_succ (isFirst : Bool) : Reads (Node.bracketEntries isFirst (fuel + 1)) := by
  rw [Node.bracketEntries]
  have hrest (entry : Node × Node) : Reads (do return entry :: (← Node.bracketEntries false fuel)) :=
    (h.bracketEntries _).bind fun _ ↦ .pure _
  have hentry : Reads (do
      if ← accept .closeMapping then return []
      let ends := [.comma, .closeMapping]
      let entry ← if ← accept .key then do
          let key ← optional (.value :: ends) (Node.node false false fuel)
          let item ← behindColon ends (Node.node false false fuel)
          pure (key, item)
        else do
          pure (← Node.node false false fuel, empty)
      return entry :: (← Node.bracketEntries false fuel)) := by
    refine (accept_reads _).bind fun _ ↦ .ite (.pure _) ((accept_reads _).bind fun _ ↦ .ite ?_ ?_)
    · exact (optional_reads _ (h.node _ _)).bind fun _ ↦ (behindColon_reads _ (h.node _ _)).bind fun _ ↦
        hrest _
    · exact (h.node _ _).bind fun _ ↦ hrest _
  refine (accept_reads _).bind fun _ ↦ .ite (.pure _) (.ite ?_ hentry)
  exact (require_reads _).bind fun _ ↦ hentry

theorem succ : AllRead (fuel + 1) where
  node := h.node_succ
  content := h.content_succ
  blockItems := h.blockItems_succ
  itemsBehindKey := h.itemsBehindKey_succ
  blockEntries := h.blockEntries_succ
  bracketItems := h.bracketItems_succ
  bracketEntries := h.bracketEntries_succ

end AllRead

theorem allRead (fuel : Nat) : AllRead fuel := by
  induction fuel with
  | zero => exact .zero
  | succ fuel ih => exact ih.succ

theorem directives_reads (fuel : Nat) (hasVersion : Bool) : Reads (directives fuel hasVersion) := by
  induction fuel generalizing hasVersion with
  | zero => exact .malformed
  | succ fuel ih =>
    rw [directives]
    refine peek_reads.bind fun t ↦ ?_
    split
    · refine advance_reads.bind fun _ ↦ ?_
      split
      · exact .ite (Reads.malformed.bind fun _ ↦ ih _) (ih _)
      · refine Reads.get.bind fun s ↦ .ite (Reads.malformed.bind fun _ ↦ ?_) ?_
        · exact Reads.bind (.modify fun _ ↦ rfl) fun _ ↦ ih _
        · exact Reads.bind (.modify fun _ ↦ rfl) fun _ ↦ ih _
      · exact ih _
    · exact .pure _

theorem explicitDocument_reads (fuel : Nat) : Reads (explicitDocument fuel) :=
  (directives_reads _ _).bind fun _ ↦ (require_reads _).bind fun _ ↦
    Reads.bind (.modify fun _ ↦ rfl) fun _ ↦ peek_reads.bind fun _ ↦
      .ite (.pure _) ((allRead fuel).node _ _)

theorem document_reads (fuel : Nat) : Reads (document fuel) := by
  have hrest (n : Node) : Reads (do
      modify fun s ↦ { s with tokens := s.tokens.dropWhile (· == .documentEnd) }
      if (← peek).isSome then
        directives fuel false
        let _ ← peek
        throw .malformedYaml
      return some n) :=
    Reads.bind (.modify fun _ ↦ rfl) fun _ ↦ peek_reads.bind fun _ ↦
      .ite ((directives_reads _ _).bind fun _ ↦ peek_reads.bind fun _ ↦ Reads.malformed.bind fun _ ↦
        .pure _) (.pure _)
  refine peek_reads.bind fun t ↦ ?_
  split
  · exact .pure _
  · refine .ite ((explicitDocument_reads fuel).bind hrest) ?_
    exact Reads.bind (.modify fun _ ↦ rfl) fun _ ↦ ((allRead fuel).node _ _).bind hrest

end Node

theorem isUnasked_of_readable {flaw : Option Text.Flaw} {pieces : List (List Char)} {f : Fault}
    (h : (readable flaw pieces).2 = some f) : f.IsUnasked := by
  fun_induction readable flaw pieces with
  | case1 =>
    obtain ⟨flaw, -, rfl⟩ := Option.map_eq_some_iff.1 h
    rfl
  | case2 =>
    obtain rfl := Option.some.inj h
    rfl
  | case3 piece more hp rest trouble hr ih => exact ih (hr ▸ h)

theorem start_isSound (text : Text.Pieces) : (start text).IsSound := by
  have hsound (read : List Char × Option Fault) (hread : ∀ f, read.2 = some f → f.IsUnasked) :
      (if read.1.head? == some byteOrderMark
        then ({ rest := read.1, trouble := read.2 } : Cursor).step
        else { rest := read.1, trouble := read.2 }).IsSound := by
    have hc : ({ rest := read.1, trouble := read.2 } : Cursor).IsSound := hread
    split
    · exact hc.step
    · exact hc
  rw [start]
  refine hsound _ fun f hf ↦ ?_
  split at hf
  · exact isUnasked_of_readable hf
  · exact isUnasked_of_readable hf
  · obtain rfl := Option.some.inj hf
    rfl
  · exact isUnasked_of_readable hf

theorem tokens_isSound {c : Cursor} (h : c.IsSound) :
    ({ tokens := (tokens c).1, fault := (tokens c).2 } : Node.Source).IsSound :=
  fun _ hf ↦ Layout.isUnasked_of_run (l := { cursor := c }) h (Prod.ext rfl hf)

theorem root_onlyUnasked (text : Text.Pieces) : OnlyUnasked (root text) :=
  (Node.document_reads _ _ (tokens_isSound (start_isSound text))).bind fun _ _ ↦ .ok trivial

namespace Constant

theorem isUnasked_ofRefusal (shown : String) (r : Number.Refusal) :
    (Fault.ofRefusal shown r).IsUnasked := by
  cases r <;> rfl

theorem decimal_onlyUnasked (cs : List Char) : OnlyUnasked (decimal cs) := by
  rw [decimal]
  cases Number.integer (String.ofList cs) with
  | ok n => exact .ok trivial
  | error r => exact .error (isUnasked_ofRefusal _ r)

theorem inBase_onlyUnasked (base : Nat) (cs : List Char) : OnlyUnasked (inBase base cs) := by
  rw [inBase]
  exact .ite (.error rfl) (.ok trivial)

theorem signed_onlyUnasked (cs : List Char) : OnlyUnasked (signed cs) :=
  .ite (.error rfl) (.ok trivial)

theorem bool_onlyUnasked (text : String) : OnlyUnasked (bool text) :=
  .ite (.ok trivial) <| .ite (.ok trivial) (.error rfl)

theorem int_onlyUnasked (text : String) : OnlyUnasked (int text) := by
  rw [int]
  refine (signed_onlyUnasked _).bind fun ⟨negative, cs⟩ _ ↦ ?_
  dsimp only
  split
  · exact .error rfl
  · exact .ok trivial
  · exact (inBase_onlyUnasked 2 _).bind fun n _ ↦ .ok trivial
  · exact (inBase_onlyUnasked 16 _).bind fun n _ ↦ .ok trivial
  · exact (inBase_onlyUnasked 8 _).bind fun n _ ↦ .ok trivial
  · refine .ite ?_ ?_
    · exact (Yields.mapM decimal_onlyUnasked).bind fun n _ ↦ .ok trivial
    · exact (decimal_onlyUnasked _).bind fun n _ ↦ .ok trivial

theorem fraction_onlyUnasked (cs : List Char) : OnlyUnasked (fraction cs) := by
  rw [fraction]
  split
  · exact .ok trivial
  · exact .error rfl

theorem float_onlyUnasked (text : String) : OnlyUnasked (float text) := by
  rw [float]
  refine (signed_onlyUnasked _).bind fun ⟨negative, cs⟩ _ ↦ ?_
  refine .ite (.ok trivial) <| .ite (.ok trivial) <| .ite ?_ ?_
  · exact (Yields.mapM fraction_onlyUnasked).bind fun _ _ ↦ .ok trivial
  · exact (fraction_onlyUnasked _).bind fun _ _ ↦ .ok trivial

theorem binary_onlyUnasked (text : String) : OnlyUnasked (binary text) := by
  rw [binary]
  refine .ite ?_ (.error rfl)
  split
  · exact .ok trivial
  · exact .error rfl

theorem timestamp_onlyUnasked (text : String) : OnlyUnasked (timestamp text) := by
  rw [timestamp]
  split
  · exact .error rfl
  · split
    · exact .ok trivial
    · exact .error rfl

theorem ofTag_onlyUnasked (tag : Tag) (text : String) : OnlyUnasked (ofTag tag text) := by
  rw [ofTag.eq_def]
  split
  · exact .ok trivial
  · exact (bool_onlyUnasked text).map fun _ _ ↦ trivial
  · exact (int_onlyUnasked text).map fun _ _ ↦ trivial
  · exact (float_onlyUnasked text).map fun _ _ ↦ trivial
  · exact (binary_onlyUnasked text).map fun _ _ ↦ trivial
  · exact (timestamp_onlyUnasked text).map fun _ _ ↦ trivial
  · exact .ok trivial
  · exact .error rfl

end Constant

namespace Document

variable {α β : Type} {m : Building α} {g : α → Building β}

def Findings.IsSound (s : Findings) : Prop := ∀ level f, s.fault = some (level, f) → f.IsUnasked

def Builds (m : Building α) : Prop := ∀ s : Findings, s.IsSound → (m.run s).2.IsSound

namespace Builds

theorem pure (a : α) : Builds (pure a) := fun _ hs ↦ hs

theorem bind (hm : Builds m) (hg : ∀ a, Builds (g a)) : Builds (m >>= g) :=
  fun s hs ↦ hg _ _ (hm s hs)

theorem ite {c : Prop} [Decidable c] {n : Building α} (hm : Builds m) (hn : Builds n) :
    Builds (if c then m else n) := by
  split
  · exact hm
  · exact hn

theorem mapM {l : List α} (hg : ∀ a, Builds (g a)) : Builds (l.mapM g) := by
  induction l with
  | nil => exact .pure _
  | cons a l ih =>
    rw [List.mapM_cons]
    exact (hg a).bind fun _ ↦ ih.bind fun _ ↦ .pure _

theorem foldlM {g : β → α → Building β} {l : List α} {b : β} (hg : ∀ b a, Builds (g b a)) :
    Builds (l.foldlM g b) := by
  induction l generalizing b with
  | nil => exact .pure _
  | cons a l ih =>
    rw [List.foldlM_cons]
    exact (hg b a).bind fun _ ↦ ih

end Builds

theorem report_builds (level : Nat) {f : Fault} (h : f.IsUnasked) : Builds (report level f) := by
  intro s hs
  change (if s.fault.any fun found ↦ found.1 ≤ level then s
    else { s with fault := some (level, f) }).IsSound
  split
  · exact hs
  · rintro level' f' ⟨⟩
    exact h

theorem report_malformed_builds (level : Nat) : Builds (report level .malformedYaml) :=
  report_builds level rfl

theorem faulty_builds (level : Nat) {f : Fault} (h : f.IsUnasked) : Builds (faulty level f) :=
  (report_builds level h).bind fun _ ↦ .pure _

theorem misshapen_builds (level : Nat) : Builds (misshapen level) :=
  (report_malformed_builds level).bind fun _ ↦ .pure _

theorem leftOut_builds : Builds leftOut := by
  have hmark : Builds (modify fun s ↦ { s with isEndless := true }) := fun _ hs ↦ hs
  exact hmark.bind fun _ ↦ .pure _

theorem scalarText_onlyUnasked (anchors : Array (Option Node)) (fuel : Nat) (n : Node) :
    OnlyUnasked (scalarText anchors fuel n) := by
  induction fuel generalizing n with
  | zero =>
    cases n with
    | scalar => exact .ok trivial
    | _ => exact .error rfl
  | succ fuel ih =>
    cases n with
    | scalar => exact .ok trivial
    | mapping tag entries =>
      rw [scalarText]
      split
      · exact ih _
      · exact .error rfl
    | _ => exact .error rfl

theorem scalar_builds (level : Nat) (tag : Tag) (text : String) : Builds (scalar level tag text) := by
  rw [scalar]
  have htag := Constant.ofTag_onlyUnasked tag text
  cases hv : Constant.ofTag tag text <;> rw [hv] at htag
  · exact faulty_builds level htag.of_error
  · exact .pure _

theorem flatten_builds (anchors : Array (Option Node)) (level fuel : Nat) (inside : List Nat)
    (entries : List (Node × Node)) : Builds (flatten anchors level fuel inside entries) := by
  induction fuel generalizing inside entries with
  | zero => exact .pure _
  | succ fuel ih =>
    rw [flatten.eq_def]
    dsimp -zeta only
    extract_lets mergedMapping
    have hmerged (n : Node) : Builds (mergedMapping n) := by
      simp only [mergedMapping]
      split
      · exact .ite (.pure _) (ih _ _)
      · exact ih _ _
      · exact (report_malformed_builds level).bind fun _ ↦ .pure _
    refine (Builds.mapM fun entry ↦ ?_).bind fun _ ↦ .pure _
    split
    · exact (Builds.mapM hmerged).bind fun _ ↦ .pure _
    · exact hmerged _

theorem build_builds (anchors : Array (Option Node)) (fuel level : Nat) (inside : List Nat) (n : Node) :
    Builds (build anchors fuel level inside n) := by
  induction fuel generalizing level inside n with
  | zero => exact leftOut_builds
  | succ fuel ih =>
    rw [build.eq_def]
    dsimp -zeta only
    extract_lets inner child entries pair
    have hchild (n : Node) : Builds (child n) := by
      simp only [child]
      split
      · exact .ite leftOut_builds (ih _ _ _)
      · exact ih _ _ _
    have hentries (nodes : List (Node × Node)) : Builds (entries nodes) := by
      refine (flatten_builds _ _ _ _ _).bind fun flat ↦ .foldlM fun es node ↦ ?_
      refine (hchild node.1).bind fun key ↦ ?_
      have hset : Builds (do return Value.setEntry es key (← child node.2)) :=
        (hchild node.2).bind fun _ ↦ .pure _
      exact .ite ((report_malformed_builds inner).bind fun _ ↦ hset) hset
    have hpair (n : Node) : Builds (pair n) := by
      simp only [pair]
      split
      · exact (hchild _).bind fun _ ↦ (hchild _).bind fun _ ↦ .pure _
      · exact misshapen_builds inner
    have hmisfit : Builds (faulty level .malformedYaml) := faulty_builds level rfl
    match n with
    | .scalar tag text => exact .ite (misshapen_builds inner) (scalar_builds level tag text)
    | .sequence tag items =>
      have hitems : Builds (do return Value.list (← items.mapM child)) :=
        (Builds.mapM hchild).bind fun _ ↦ .pure _
      have hpairs : Builds (do return Value.list (← items.mapM pair)) :=
        (Builds.mapM hpair).bind fun _ ↦ .pure _
      cases tag
      case sequence => exact hitems
      case orderedMap => exact hpairs
      case pairs => exact hpairs
      case set => exact misshapen_builds inner
      case mapping => exact misshapen_builds inner
      all_goals exact hmisfit
    | .mapping tag nodes =>
      cases tag
      case mapping => exact (hentries nodes).bind fun _ ↦ .pure _
      case set => exact (hentries nodes).bind fun _ ↦ .pure _
      case orderedMap => exact misshapen_builds inner
      case pairs => exact misshapen_builds inner
      case sequence => exact misshapen_builds inner
      all_goals
        dsimp only
        split
        · exact scalar_builds level _ _
        · next he => exact faulty_builds level (he ▸ scalarText_onlyUnasked anchors _ _).of_error
    | .alias _ => exact leftOut_builds

end Document

theorem document_onlyUnasked (text : Text.Pieces) : OnlyUnasked (document text) := by
  rw [document]
  refine (root_onlyUnasked text).bind fun ⟨n, anchors⟩ _ ↦ ?_
  have hbuild := Document.build_builds anchors ((anchors.size + 1) * (text.size + 2)) 0 []
    (n.getD .empty) {} (by rintro _ _ ⟨⟩)
  dsimp only
  split
  next value findings hrun =>
    rw [hrun] at hbuild
    split
    · next hf => exact .error (hbuild _ _ hf)
    · exact .ok trivial

end Yaml

end Stylesheet

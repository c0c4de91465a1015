import Stylesheet.Proofs.Computation

namespace Stylesheet

theorem Number.isWritable_byte (x : UInt8) : isWritable x.toNat = true := by
  have hbyte : x.toNat < 10 ^ 3 := Nat.lt_trans x.toNat_lt (by decide)
  have hx : x.toNat < 10 ^ longestNumeral :=
    Nat.lt_of_lt_of_le hbyte (Nat.pow_le_pow_right (by decide) (by decide))
  rw [isWritable, decide_eq_true_eq]
  exact (Nat.length_toDigits_le_iff (by decide) (by decide)).2 hx

namespace Value

mutual

def isPlain : Value → Bool
  | .atom a => a.isWritable
  | .list items => areAllPlain items
  | .tuple items => areAllPlain items
  | .dict entries => areEntriesPlain entries
  | .set members => areAllPlain members
  | .sheet _ => false
  | .context _ _ => false
  | _ => true

def areAllPlain : List Value → Bool
  | [] => true
  | v :: rest => v.isPlain && areAllPlain rest

def areEntriesPlain : List (Value × Value) → Bool
  | [] => true
  | (key, item) :: rest => key.isPlain && item.isPlain && areEntriesPlain rest

end

mutual

theorem isWritable_of_isPlain : (v : Value) → v.isPlain = true → v.isWritable = true
  | .atom _, h => h
  | .list items, h | .tuple items, h | .set items, h => areAllWritable_of_arePlain items h
  | .dict entries, h => areEntriesWritable_of_arePlain entries h
  | .nan _, _ | .timestamp _, _ | .body _ _, _ | .textStream _, _ | .byteStream _, _
  | .reader _ _, _ => rfl
  | .sheet _, h | .context _ _, h => nomatch h

theorem areAllWritable_of_arePlain : (items : List Value) →
    areAllPlain items = true → areAllWritable items = true
  | [], _ => rfl
  | item :: rest, h => by
    obtain ⟨hi, hr⟩ := Bool.and_eq_true_iff.1 h
    exact Bool.and_eq_true_iff.2
      ⟨isWritable_of_isPlain item hi, areAllWritable_of_arePlain rest hr⟩

theorem areEntriesWritable_of_arePlain : (entries : List (Value × Value)) →
    areEntriesPlain entries = true → areEntriesWritable entries = true
  | [], _ => rfl
  | (key, item) :: rest, h => by
    obtain ⟨he, hr⟩ := Bool.and_eq_true_iff.1 h
    obtain ⟨hk, hi⟩ := Bool.and_eq_true_iff.1 he
    have hwritten := And.intro (isWritable_of_isPlain key hk) (isWritable_of_isPlain item hi)
    exact Bool.and_eq_true_iff.2
      ⟨Bool.and_eq_true_iff.2 hwritten, areEntriesWritable_of_arePlain rest hr⟩

end

mutual

theorem shown_of_isPlain (f : SheetId → String) : (v : Value) → v.isPlain = true →
    v.shown f = v.shown fun _ ↦ ""
  | .atom _, _ | .nan _, _ | .timestamp _, _ | .body _ _, _ | .textStream _, _
  | .byteStream _, _ | .reader _ _, _ | .tuple [], _ | .set [], _ => rfl
  | .list items, h =>
    congrArg ("[" ++ Text.join ", " · ++ "]") (shownItems_of_arePlain f items h)
  | .tuple [item], h =>
    congrArg ("(" ++ · ++ ",)") (shown_of_isPlain f item (Bool.and_eq_true_iff.1 h).1)
  | .tuple (item :: second :: rest), h =>
    congrArg ("(" ++ Text.join ", " · ++ ")")
      (shownItems_of_arePlain f (item :: second :: rest) h)
  | .dict entries, h =>
    congrArg ("\x7b" ++ Text.join ", " · ++ "\x7d") (shownEntries_of_arePlain f entries h)
  | .set (member :: rest), h =>
    congrArg ("\x7b" ++ Text.join ", " · ++ "\x7d")
      (shownItems_of_arePlain f (member :: rest) h)
  | .sheet _, h | .context _ _, h => nomatch h

theorem shownItems_of_arePlain (f : SheetId → String) : (items : List Value) →
    areAllPlain items = true → shownItems f items = shownItems (fun _ ↦ "") items
  | [], _ => rfl
  | item :: rest, h => by
    obtain ⟨hi, hr⟩ := Bool.and_eq_true_iff.1 h
    exact congrArg₂ List.cons (shown_of_isPlain f item hi) (shownItems_of_arePlain f rest hr)

theorem shownEntries_of_arePlain (f : SheetId → String) : (entries : List (Value × Value)) →
    areEntriesPlain entries = true → shownEntries f entries = shownEntries (fun _ ↦ "") entries
  | [], _ => rfl
  | (key, item) :: rest, h => by
    obtain ⟨he, hr⟩ := Bool.and_eq_true_iff.1 h
    obtain ⟨hk, hi⟩ := Bool.and_eq_true_iff.1 he
    have hshown := congrArg₂ (· ++ ": " ++ ·) (shown_of_isPlain f key hk)
      (shown_of_isPlain f item hi)
    exact congrArg₂ List.cons hshown (shownEntries_of_arePlain f rest hr)

end

theorem areAllPlain_iff {vs : List Value} :
    areAllPlain vs = true ↔ ∀ v ∈ vs, v.isPlain = true := by
  induction vs with
  | nil => simp [areAllPlain]
  | cons v rest ih => simp [areAllPlain, ih]

theorem areAllPlain_keys {entries : List (Value × Value)} (h : areEntriesPlain entries = true) :
    areAllPlain (entries.map (·.1)) = true := by
  induction entries with
  | nil => rfl
  | cons entry rest ih =>
    simp only [areEntriesPlain, Bool.and_eq_true] at h
    simp [areAllPlain, h.1.1, ih h.2]

theorem areAllPlain_items {v : Value} {vs : List Value} (h : v.isPlain = true)
    (hv : v.items? = some vs) : areAllPlain vs = true := by
  unfold items? at hv
  split at hv <;> simp only [Option.some.injEq, reduceCtorEq] at hv <;> subst hv
  · simpa [isPlain] using h
  · simpa [isPlain] using h
  · exact areAllPlain_keys (by simpa [isPlain] using h)
  · simpa [isPlain] using h
  · simp [areAllPlain_iff, isPlain, Atom.isWritable]
  · simp [areAllPlain_iff, isPlain, Atom.isWritable, Number.isWritable_byte]

end Value

namespace Builder

open Build

def argumentWords (args : List Value) : String :=
  if args.isEmpty then "" else "(" ++ Text.join ", " (args.map Value.plain) ++ ")"

def listWords : Value → String
  | .atom (.text s) => s
  | v => Text.join ", " ((v.items?.getD []).map Value.plain)

namespace Line

def words : Line → String
  | .declare name value => name.plain ++ ": " ++ value.plain ++ ";"
  | .includeMixin name args => "@include " ++ name.plain ++ argumentWords args ++ ";"
  | .importFile path => "@import '" ++ path.plain ++ "';"
  | .extend selector => "@extend " ++ selector.plain ++ ";"
  | .returnValue value => "@return " ++ value.plain ++ ";"

def isPlain : Line → Bool
  | .declare name value => name.isPlain && value.isPlain
  | .includeMixin name args => name.isPlain && Value.areAllPlain args
  | .importFile v | .extend v | .returnValue v => v.isPlain

end Line

namespace Heading

def directiveWords (name : Value) (args : List Value) : String :=
  let marked := match name with
    | .atom (.text s) => Vocabulary.startsWithMarker s
    | _ => false
  Text.join " " ((if marked then name.plain else "@" ++ name.plain) :: args.map Value.plain)

def words : Heading → String
  | .rule selector => selector.plain
  | .ruleWithContext selector => selector.plain
  | .pseudo name => "&:" ++ name.plain
  | .directive name args => directiveWords name args
  | .media queries => directiveWords (.text "@media") queries
  | .keyframes name => directiveWords (.text "@keyframes") [name]
  | .mixin name params => "@mixin " ++ name.plain ++ argumentWords params
  | .function name params => "@function " ++ name.plain ++ argumentWords params
  | .ifBlock condition => "@if " ++ condition.plain
  | .elseIfBlock condition => "@else if " ++ condition.plain
  | .elseBlock => "@else"
  | .forLoop counter start stop =>
    "@for $" ++ counter.plain ++ " from " ++ start.plain ++ " through " ++ stop.plain
  | .eachLoop counter list => "@each $" ++ counter.plain ++ " in " ++ listWords list
  | .whileLoop condition => "@while " ++ condition.plain

def isText : Value → Bool
  | .atom (.text _) => true
  | _ => false

/-- Whether a heading has plain values only, a text for the name of a directive, and items to go
through. -/
def isPlain : Heading → Bool
  | .directive name args => isText name && Value.areAllPlain args
  | .media args => Value.areAllPlain args
  | .mixin name args | .function name args => name.isPlain && Value.areAllPlain args
  | .rule v | .ruleWithContext v | .pseudo v | .keyframes v | .ifBlock v | .elseIfBlock v
  | .whileLoop v => v.isPlain
  | .elseBlock => true
  | .forLoop counter start stop => counter.isPlain && start.isPlain && stop.isPlain
  | .eachLoop counter list => counter.isPlain && list.isPlain && list.items?.isSome

end Heading

section

variable {activate : Body → Value → Build Unit} {s : Studio}

theorem on_text {v : Value} (h : v.isPlain = true) :
    (text activate v).on s = (.ok v.plain, s) := by
  cases v with
  | atom a => exact on_text_atom h s
  | sheet id => cases h
  | _ =>
    refine (on_shown (Value.isWritable_of_isPlain _ h) s).trans ?_
    rw [Studio.shown, Value.shown_of_isPlain _ _ h]
    rfl

theorem on_textsInOrder {vs : List Value} (h : Value.areAllPlain vs = true) :
    (textsInOrder activate vs).on s = (.ok (vs.map Value.plain), s) := by
  induction vs with
  | nil => rfl
  | cons v rest ih =>
    simp only [Value.areAllPlain, Bool.and_eq_true] at h
    rw [textsInOrder, on_bind_ok (on_text h.1), on_bind_ok (ih h.2), on_pure, List.map_cons]

theorem on_texts {vs : List Value} (h : Value.areAllPlain vs = true) :
    (texts activate vs).on s = (.ok (vs.map Value.plain), s) := by
  rw [texts, iterating, on_bind_ok (on_outcome _ s), on_textsInOrder h]
  rfl

theorem on_arguments {args : List Value} (h : Value.areAllPlain args = true) :
    (arguments activate args).on s = (.ok (argumentWords args), s) := by
  unfold arguments argumentWords
  split
  · rfl
  · rw [on_bind_ok (on_texts h), on_pure]

theorem on_listText {v : Value} (h : v.isPlain = true) (hi : v.items?.isSome = true) :
    (listText activate v).on s = (.ok (listWords v), s) := by
  obtain ⟨vs, hv⟩ := Option.isSome_iff_exists.1 hi
  have hitems : (items v).on s = (.ok vs, s) := by
    unfold items
    split
    · simp [Value.items?] at hv
    · simp [Value.items?] at hv
    · rw [hv, on_pure]
  by_cases ht : ∃ n, v = .text n
  · obtain ⟨n, rfl⟩ := ht
    rfl
  · have hw : listWords v = Text.join ", " (vs.map Value.plain) := by
      unfold listWords
      split
      · exact absurd ⟨_, rfl⟩ ht
      · rw [hv, Option.getD_some]
    unfold listText
    split
    · exact absurd ⟨_, rfl⟩ ht
    · rw [on_bind_ok hitems, on_bind_ok (on_texts (Value.areAllPlain_items h hv)), on_pure, hw]

theorem Line.on_text {l : Line} (h : l.isPlain = true) :
    (l.text activate).on s = (.ok l.words, s) := by
  cases l with
  | declare name value =>
    simp only [Line.isPlain, Bool.and_eq_true] at h
    rw [Line.text, declaration, on_bind_ok (Builder.on_text h.1), on_bind_ok (Builder.on_text h.2),
      on_pure, Line.words]
  | includeMixin name args =>
    simp only [Line.isPlain, Bool.and_eq_true] at h
    rw [Line.text, on_bind_ok (Builder.on_text h.1), on_bind_ok (on_arguments h.2), on_pure,
      Line.words]
  | importFile v | extend v | returnValue v =>
    rw [Line.text, on_bind_ok (Builder.on_text h), on_pure, Line.words]

theorem on_directiveHeading {name : Value} {args : List Value} (hn : Heading.isText name = true)
    (h : Value.areAllPlain args = true) :
    (directiveHeading activate name args).on s = (.ok (Heading.directiveWords name args), s) := by
  unfold Heading.isText at hn
  split at hn
  · rw [directiveHeading, hasMarker, pure_bind, on_bind_ok (Builder.on_text rfl),
      on_bind_ok (on_texts h), on_pure, Heading.directiveWords]
  · cases hn

theorem on_callableHeading (keyword : String) {name : Value} {params : List Value}
    (hn : name.isPlain = true) (h : Value.areAllPlain params = true) :
    (callableHeading activate keyword name params).on s =
      (.ok (keyword ++ " " ++ name.plain ++ argumentWords params), s) := by
  rw [callableHeading, on_bind_ok (Builder.on_text hn), on_bind_ok (on_arguments h), on_pure]

theorem Heading.on_text {h : Heading} (hp : h.isPlain = true) :
    (h.text activate).on s = (.ok h.words, s) := by
  cases h with
  | rule v | ruleWithContext v => exact Builder.on_text hp
  | pseudo v | ifBlock v | elseIfBlock v | whileLoop v =>
    rw [Heading.text, on_bind_ok (Builder.on_text hp), on_pure, Heading.words]
  | directive name args =>
    simp only [Heading.isPlain, Bool.and_eq_true] at hp
    exact on_directiveHeading hp.1 hp.2
  | media queries => exact on_directiveHeading rfl hp
  | keyframes name =>
    exact on_directiveHeading rfl (by simpa [Value.areAllPlain, Heading.isPlain] using hp)
  | mixin name params | function name params =>
    simp only [Heading.isPlain, Bool.and_eq_true] at hp
    exact on_callableHeading _ hp.1 hp.2
  | elseBlock => rfl
  | forLoop counter start stop =>
    simp only [Heading.isPlain, Bool.and_eq_true] at hp
    rw [Heading.text, on_bind_ok (Builder.on_text hp.1.1), on_bind_ok (Builder.on_text hp.1.2),
      on_bind_ok (Builder.on_text hp.2), on_pure, Heading.words]
  | eachLoop counter list =>
    simp only [Heading.isPlain, Bool.and_eq_true] at hp
    rw [Heading.text, on_bind_ok (on_listText hp.1.2 hp.2), on_bind_ok (Builder.on_text hp.1.1),
      on_pure, Heading.words]

end

end Builder

end Stylesheet

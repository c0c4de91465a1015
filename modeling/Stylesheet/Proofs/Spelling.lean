import Stylesheet.Proofs.Passes

namespace Stylesheet.Builder

open Build

/-- A call as it is made: on what, by which name, and with which arguments. -/
structure Spelling where
  target : Value
  name : String
  args : List Value := []
  named : List (String × Value) := []

namespace Spelling

def operation (w : Spelling) : Build (SheetId × Call) := do
  let found ← Build.ofExcept (Attribute.ofValue w.target w.name)
  let call ← Build.ofExcept (found.bind w.args w.named)
  return (← sheetOf w.target, call)

def run (activate : Activation) (w : Spelling) : Build Value := do
  let (id, call) ← w.operation
  perform activate id call

end Spelling

/-- Whether an operation is a block that takes any number of arguments before its body. -/
def Method.isVariadicBlock (m : Method) : Bool := m.signature.isVariadic && !m.signature.named.isEmpty

def lacksBody : List (String × Value) → Bool
  | [] => true
  | [(name, v)] => name == "body" && v.isNone
  | _ => false

/-- A public name that is neither an operation nor a property of sheets. -/
structure IsFree (name : String) : Prop where
  method : Method.ofName? name = none
  property : Attribute.propertyOfSheet? name = none
  isPublic : Attribute.isPrivate name = false

/-- Rewriting of a call towards its core form: the words of the vocabulary and other free names, the
names on selector contexts, second names of operations, the two operations that are directives, and
bodies at the end of the arguments of blocks that take any number of these. -/
inductive Desugars : Spelling → Spelling → Prop
  | declaration {id : SheetId} {name : String} {args : List Value} {named : List (String × Value)}
      {e : Vocabulary.Entry} (hf : IsFree name) (he : Vocabulary.lookup name = some e)
      (hd : e.isDirective = false) :
      Desugars ⟨.sheet id, name, args, named⟩ ⟨.sheet id, "declare", .text e.name :: args, named⟩
  | directive {id : SheetId} {name : String} {args : List Value} {named : List (String × Value)}
      {e : Vocabulary.Entry} (hf : IsFree name) (he : Vocabulary.lookup name = some e)
      (hd : e.isDirective = true) :
      Desugars ⟨.sheet id, name, args, named⟩ ⟨.sheet id, "directive", .text e.name :: args, named⟩
  | property {id : SheetId} {name : String} {args : List Value} {named : List (String × Value)}
      (hf : IsFree name) (he : Vocabulary.lookup name = none) :
      Desugars ⟨.sheet id, name, args, named⟩
        ⟨.sheet id, "declare", .text (Vocabulary.propertyName name) :: args, named⟩
  | pseudo {i : Identity} {id : SheetId} {name : String} {args : List Value}
      {named : List (String × Value)} {h : Heading} {body : Value}
      (hf : Attribute.ofContext name = .ok (.method .pseudo [.text (Vocabulary.propertyName name)]))
      (hb : Method.pseudo.bind (.text (Vocabulary.propertyName name) :: args) named =
        .ok (.block h body)) :
      Desugars ⟨.context i id, name, args, named⟩
        ⟨.sheet id, "s", [.text ("&:" ++ Vocabulary.propertyName name), body], []⟩
  | rule {id : SheetId} {args : List Value} {named : List (String × Value)} :
      Desugars ⟨.sheet id, "rule", args, named⟩ ⟨.sheet id, "s", args, named⟩
  | ruleWithContext {id : SheetId} {args : List Value} {named : List (String × Value)} :
      Desugars ⟨.sheet id, "rule_with_context", args, named⟩
        ⟨.sheet id, "s_with_context", args, named⟩
  | media {id : SheetId} {args : List Value} {named : List (String × Value)} {h : Heading}
      {body : Value} (hb : Method.media.bind args named = .ok (.block h body)) :
      Desugars ⟨.sheet id, "media", args, named⟩
        ⟨.sheet id, "directive", .text "@media" :: args, named⟩
  | keyframes {id : SheetId} {args : List Value} {named : List (String × Value)} {n body : Value}
      (hb : Method.keyframes.bind args named = .ok (.block (.keyframes n) body)) :
      Desugars ⟨.sheet id, "keyframes", args, named⟩
        ⟨.sheet id, "directive", [.text "@keyframes", n], [("body", body)]⟩
  | trailing {id : SheetId} {name : String} {m : Method} {args : List Value} {body : Value}
      {named : List (String × Value)} (hm : Method.ofName? name = some m)
      (hv : m.isVariadicBlock = true) (ha : m.signature.positional.length ≤ args.length)
      (hbody : body.isBody = true) (hn : lacksBody named = true) :
      Desugars ⟨.sheet id, name, args ++ [body], named⟩ ⟨.sheet id, name, args, [("body", body)]⟩

section

variable {m : Method} {args : List Value} {named : List (String × Value)} {c : Call}

def bodyOf (named : List (String × Value)) : Value :=
  (Signature.valueOf? named Method.bodyParameter).getD .none

theorem valueOf?_body : Signature.valueOf? named Method.bodyParameter = some (bodyOf named) := by
  rw [bodyOf, Signature.valueOf?]
  split <;> rfl

theorem of_lacksBody (h : lacksBody named = true) :
    bodyOf named = .none ∧ ∀ e ∈ named, e.1 = "body" := by
  rcases named with _ | ⟨⟨name, v⟩, _ | _⟩
  · exact ⟨rfl, fun e he ↦ nomatch he⟩
  · obtain ⟨hname, hv⟩ := Bool.and_eq_true_iff.1 h
    obtain rfl : name = "body" := eq_of_beq hname
    refine ⟨?_, fun e he ↦ by rw [List.mem_singleton.1 he]⟩
    change v = .none
    cases v with
    | atom a =>
      cases a with
      | none => rfl
      | _ => cases hv
    | _ => cases hv
  · cases h

theorem acceptsAll_ok (s : Signature) (taken : List Parameter) :
    s.acceptsAll taken named = .ok () ↔ ∀ e ∈ named, s.accepts taken e.1 = .ok () := by
  induction named with
  | nil => simp [Signature.acceptsAll]
  | cons e rest ih =>
    rw [Signature.acceptsAll]
    rcases h : s.accepts taken e.1 with f | u
    · simp [h]
    · simp [h, ih]

theorem of_method_bind (h : m.bind args named = .ok c) :
    ∃ values rest, m.signature.bind args named = .ok (values, rest) ∧
      m.call? values rest = some c := by
  rw [Method.bind] at h
  rcases hs : m.signature.bind args named with e | ⟨values, rest⟩
  · rw [hs] at h
    cases h
  · rw [hs] at h
    refine ⟨values, rest, rfl, ?_⟩
    rcases hc : m.call? values rest with _ | c'
    · simp [hc, Bind.bind, Except.bind] at h
    · simp [hc, Bind.bind, Except.bind] at h
      cases h
      rfl

theorem of_signature_bind {s : Signature} {values rest : List Value}
    (h : s.bind args named = .ok (values, rest)) :
    s.acceptsAll (s.positional.take args.length) named = .ok () ∧
      ∃ more, values = args.take s.positional.length ++ more := by
  rw [Signature.bind] at h
  rcases ha : s.acceptsAll (s.positional.take args.length) named with e | u
  · rw [ha] at h
    cases h
  refine ⟨rfl, ?_⟩
  rw [ha] at h
  simp only [bind, Except.bind] at h
  split at h
  · cases h
  split at h
  · cases h
  split at h
  · cases h
  simp [pure, Except.pure] at h
  obtain ⟨rfl, -⟩ := h
  exact ⟨_, rfl⟩

theorem isVariadicBlock_signature (hv : m.isVariadicBlock = true) :
    m.signature.isVariadic = true ∧ m.signature.named = [Method.bodyParameter] := by
  cases m with
  | directive | media | mixin | function => exact ⟨rfl, rfl⟩
  | _ => cases hv

theorem bind_variadic (hv : m.isVariadicBlock = true)
    (ha : m.signature.positional.length ≤ args.length)
    (hn : ∀ e ∈ named, m.signature.accepts m.signature.positional e.1 = .ok ()) :
    m.signature.bind args named = .ok (args.take m.signature.positional.length ++ [bodyOf named],
      args.drop m.signature.positional.length) := by
  have htake := List.take_of_length_le ha
  have hdrop := List.drop_of_length_le ha
  have haccepts := (acceptsAll_ok m.signature m.signature.positional).2 hn
  obtain ⟨hv, hb⟩ := isVariadicBlock_signature hv
  simp [Signature.bind, htake, hdrop, haccepts, hv, hb, Signature.fill, valueOf?_body]
  rfl

theorem accepts_body (hv : m.isVariadicBlock = true) :
    m.signature.accepts m.signature.positional "body" = .ok () := by
  cases m with
  | directive | media | mixin | function => rfl
  | _ => cases hv

def variadicHeading? : Method → List Value → Option Heading
  | .directive, name :: args => some (.directive name args)
  | .media, queries => some (.media queries)
  | .mixin, name :: params => some (.mixin name params)
  | .function, name :: params => some (.function name params)
  | _, _ => none

theorem bind_block (hv : m.isVariadicBlock = true)
    (ha : m.signature.positional.length ≤ args.length) (hn : ∀ e ∈ named, e.1 = "body") :
    ∃ h, variadicHeading? m args = some h ∧ m.bind args named = .ok (.block h (bodyOf named)) := by
  have haccepts : ∀ e ∈ named, m.signature.accepts m.signature.positional e.1 = .ok () := by
    intro e he
    rw [hn e he]
    exact accepts_body hv
  have hbind := bind_variadic hv ha haccepts
  rw [Method.bind, hbind]
  cases m with
  | media => exact ⟨_, rfl, rfl⟩
  | directive | mixin | function =>
    obtain ⟨first, rest, rfl⟩ := List.exists_cons_of_length_pos ha
    exact ⟨_, rfl, rfl⟩
  | _ => cases hv

theorem of_pseudo_bind {first : Value} (h : Method.pseudo.bind (first :: args) named = .ok c) :
    ∃ body, c = .block (.pseudo first) body := by
  obtain ⟨values, rest, hs, hc⟩ := of_method_bind h
  obtain ⟨-, more, rfl⟩ := of_signature_bind hs
  change Method.pseudo.call? (first :: (args.take 1 ++ more)) rest = some c at hc
  generalize args.take 1 ++ more = others at hc
  rcases others with _ | ⟨body, _ | ⟨_, _⟩⟩
  · cases hc
  · cases hc
    exact ⟨body, rfl⟩
  · cases hc

theorem of_media_bind (h : Method.media.bind args named = .ok c) :
    ∀ e ∈ named, e.1 = "body" := by
  obtain ⟨values, rest, hs, -⟩ := of_method_bind h
  have haccepts := (acceptsAll_ok _ _).1 (of_signature_bind hs).1
  intro e he
  have hcase := haccepts e he
  by_cases hne : e.1 = "body"
  · exact hne
  have hother : (Method.media.signature.positional ++ Method.media.signature.named).any
      (fun p ↦ p.name == e.1) = false := by
    simpa [Method.signature, Method.signature.variadic, Method.bodyParameter] using Ne.symm hne
  rw [Signature.accepts, hother] at hcase
  split at hcase
  · cases hcase
  · cases hcase

end

section

variable {m : Method} {id : SheetId} {name : String} {args first : List Value}
  {named : List (String × Value)} {activate : Activation} {h h' : Heading} {body body' : Value}

theorem Spelling.run_found {w : Spelling} {found : Attribute}
    (hf : Attribute.ofValue w.target w.name = .ok found) (ht : sheetOf w.target = pure id) :
    w.run activate = Build.ofExcept (found.bind w.args w.named) >>= perform activate id := by
  have hfound : Build.ofExcept (.ok found : Except Fault Attribute) = pure found := rfl
  rw [Spelling.run, Spelling.operation, hf, ht, hfound]
  simp only [bind_assoc, pure_bind]

theorem run_on_sheet (hm : Attribute.ofSheet name = .ok (.method m first)) :
    Spelling.run activate ⟨.sheet id, name, args, named⟩ =
      Build.ofExcept (m.bind (first ++ args) named) >>= perform activate id := by
  let w : Spelling := ⟨.sheet id, name, args, named⟩
  have hfound : Attribute.ofValue w.target w.name = .ok (.method m first) := hm
  exact Spelling.run_found hfound rfl

theorem run_bound {c : Call} (hm : Attribute.ofSheet name = .ok (.method m []))
    (hb : m.bind args named = .ok c) :
    Spelling.run activate ⟨.sheet id, name, args, named⟩ = perform activate id c := by
  rw [run_on_sheet hm, List.nil_append, hb]
  rfl

theorem ofSheet_method (hm : Method.ofName? name = some m) :
    Attribute.ofSheet name = .ok (.method m []) := by
  rw [Attribute.ofSheet, hm]

theorem IsFree.ofSheet_eq (hf : IsFree name) :
    Attribute.ofSheet name = .ok (Attribute.ofWord name) := by
  simp [Attribute.ofSheet, hf.method, hf.property, hf.isPublic]

theorem perform_of_split (hs : h.split body = h'.split body') :
    perform activate id (.block h body) = perform activate id (.block h' body') := by
  rw [perform, perform, headed, headed, Heading.worded, Heading.worded, hs]

theorem splitBody_trailing (hbody : body.isBody = true) :
    splitBody (args ++ [body]) .none = splitBody args body := by
  have hlast : (args ++ [body]).getLastD .none = body := by simp
  have hnone : body.isNone = false := by
    cases body with
    | body => rfl
    | _ => cases hbody
  rw [splitBody, splitBody]
  simp only [hlast, hbody, hnone, List.dropLast_concat]
  rfl

theorem split_trailing (hh : variadicHeading? m (args ++ [body]) = some h)
    (hh' : variadicHeading? m args = some h') (hbody : body.isBody = true) :
    h.split .none = h'.split body := by
  have hsplit (args : List Value) : splitBody (args.append [body]) .none = splitBody args body :=
    splitBody_trailing hbody
  cases m with
  | media =>
    cases hh
    cases hh'
    simp only [Heading.split, splitBody_trailing hbody]
  | directive | mixin | function =>
    rcases args with _ | ⟨first, rest⟩
    · cases hh'
    · cases hh
      cases hh'
      simp only [Heading.split, hsplit]
  | _ => cases hh'

/-- A rewritten call does what the call does: it is the same operation, or it makes the same text for
the same body. -/
theorem Desugars.run_eq {w w' : Spelling} (hw : Desugars w w') (activate : Activation) :
    w.run activate = w'.run activate := by
  cases hw with
  | declaration hf he hd =>
    have hword := hf.ofSheet_eq
    simp only [Attribute.ofWord, he, hd] at hword
    rw [run_on_sheet hword, run_on_sheet (ofSheet_method rfl)]
    rfl
  | directive hf he hd =>
    have hword := hf.ofSheet_eq
    simp only [Attribute.ofWord, he, hd] at hword
    rw [run_on_sheet hword, run_on_sheet (ofSheet_method rfl)]
    rfl
  | property hf he =>
    have hword := hf.ofSheet_eq
    simp only [Attribute.ofWord, he] at hword
    rw [run_on_sheet hword, run_on_sheet (ofSheet_method rfl)]
    rfl
  | @pseudo i id name args named h body hf hb =>
    obtain ⟨_, hc⟩ := of_pseudo_bind hb
    cases hc
    have hfound : Attribute.ofValue (.context i id) name = _ := hf
    rw [Spelling.run_found hfound rfl, run_bound (c := .block (.rule _) body) (ofSheet_method rfl) rfl]
    change Build.ofExcept (Method.pseudo.bind (_ :: args) named) >>= _ = _
    rw [hb]
    rfl
  | rule => rfl
  | ruleWithContext => rfl
  | @media id args named h body hb =>
    have hn := of_media_bind hb
    have hlength : 1 ≤ (Value.text "@media" :: args).length := Nat.succ_le_succ (Nat.zero_le _)
    obtain ⟨h₁, hh₁, hb₁⟩ := bind_block (m := .media) rfl (Nat.zero_le args.length) hn
    obtain ⟨h₂, hh₂, hb₂⟩ := bind_block (m := .directive) rfl hlength hn
    cases hh₁
    cases hh₂
    rw [run_bound (ofSheet_method rfl) hb₁, run_bound (ofSheet_method rfl) hb₂]
    exact perform_of_split rfl
  | @keyframes id args named n body hb =>
    have hbind : Method.directive.bind [.text "@keyframes", n] [("body", body)] =
        .ok (.block (.directive (.text "@keyframes") [n]) body) := rfl
    rw [run_bound (ofSheet_method rfl) hb, run_bound (ofSheet_method rfl) hbind]
    exact perform_of_split rfl
  | @trailing id name m args body named hm hv ha hbody hn =>
    obtain ⟨hnone, hnames⟩ := of_lacksBody hn
    have hlength : m.signature.positional.length ≤ (args ++ [body]).length := by
      rw [List.length_append]
      exact Nat.le_add_right_of_le ha
    obtain ⟨h₁, hh₁, hb₁⟩ := bind_block hv hlength hnames
    have hgiven : ∀ e ∈ [("body", body)], e.1 = "body" := by
      intro e he
      rw [List.mem_singleton.1 he]
    obtain ⟨h₂, hh₂, hb₂⟩ := bind_block hv ha hgiven
    rw [hnone] at hb₁
    rw [run_bound (ofSheet_method hm) hb₁, run_bound (ofSheet_method hm) hb₂]
    exact perform_of_split (split_trailing hh₁ hh₂ hbody)

end

namespace Spelling

def byMethod (w : Spelling) : Spelling :=
  match Attribute.ofSheet w.name with
  | .ok (.method m first) => { w with name := m.signature.name, args := first ++ w.args }
  | _ => w

def byDirective (w : Spelling) : Spelling :=
  match w.name with
  | "media" =>
    match Method.media.bind w.args w.named with
    | .ok _ => { w with name := "directive", args := .text "@media" :: w.args }
    | .error _ => w
  | "keyframes" =>
    match Method.keyframes.bind w.args w.named with
    | .ok (.block (.keyframes n) body) =>
      { w with name := "directive", args := [.text "@keyframes", n], named := [("body", body)] }
    | _ => w
  | _ => w

def byBody (w : Spelling) : Spelling :=
  match Method.ofName? w.name with
  | some m =>
    let last := w.args.getLastD .none
    if m.isVariadicBlock ∧ m.signature.positional.length < w.args.length ∧ last.isBody ∧
        lacksBody w.named then
      { w with args := w.args.dropLast, named := [("body", last)] }
    else w
  | none => w

def core (w : Spelling) : Spelling :=
  match w.target with
  | .sheet _ => w.byMethod.byDirective.byBody
  | .context _ id =>
    match Attribute.ofContext w.name with
    | .ok (.method .pseudo [.atom (.text p)]) =>
      match Method.pseudo.bind (.text p :: w.args) w.named with
      | .ok (.block _ body) => ⟨.sheet id, "s", [.text ("&:" ++ p), body], []⟩
      | _ => w
    | _ => w
  | _ => w

variable {w : Spelling} {id : SheetId}

theorem name_of_method {m : Method} {name : String} (hm : Method.ofName? name = some m) :
    name = m.signature.name ∨ (name = "rule" ∧ m = .rule) ∨
      (name = "rule_with_context" ∧ m = .ruleWithContext) := by
  unfold Method.ofName? at hm
  split at hm <;> cases hm <;> first
    | exact .inl rfl
    | exact .inr (.inl ⟨rfl, rfl⟩)
    | exact .inr (.inr ⟨rfl, rfl⟩)

theorem byMethod_desugars (ht : w.target = .sheet id) :
    Relation.ReflTransGen Desugars w w.byMethod := by
  obtain ⟨target, name, args, named⟩ := w
  cases ht
  rcases hm : Method.ofName? name with _ | m
  · rcases hp : Attribute.propertyOfSheet? name with _ | p
    · rcases hpriv : Attribute.isPrivate name with _ | _
      · have hf : IsFree name := ⟨hm, hp, hpriv⟩
        have hword := hf.ofSheet_eq
        rw [byMethod, hword, Attribute.ofWord]
        rcases he : Vocabulary.lookup name with _ | e
        · exact .single (.property hf he)
        · rcases hd : e.isDirective with _ | _
          · simp only [hd]
            exact .single (.declaration hf he hd)
          · simp only [hd]
            exact .single (.directive hf he hd)
      · have herror : Attribute.ofSheet name = .error (.unknownAttribute "Renderer" name) := by
          simp [Attribute.ofSheet, hm, hp, hpriv]
        rw [byMethod, herror]
    · have hproperty : Attribute.ofSheet name = .ok (.property p) := by
        simp [Attribute.ofSheet, hm, hp]
      rw [byMethod, hproperty]
  · rw [byMethod, ofSheet_method hm]
    rcases name_of_method hm with h | ⟨rfl, rfl⟩ | ⟨rfl, rfl⟩
    · dsimp only
      rw [← h]
      exact .refl
    · exact .single .rule
    · exact .single .ruleWithContext

theorem byDirective_desugars (ht : w.target = .sheet id) :
    Relation.ReflTransGen Desugars w w.byDirective := by
  obtain ⟨target, name, args, named⟩ := w
  cases ht
  rw [byDirective]
  dsimp only
  split
  · rcases hb : Method.media.bind args named with e | c
    · exact .refl
    · obtain ⟨h, -, hc⟩ := bind_block (m := .media) rfl (Nat.zero_le args.length) (of_media_bind hb)
      exact .single (.media hc)
  · split
    · next n body hb => exact .single (.keyframes hb)
    · exact .refl
  · exact .refl

theorem byBody_desugars (ht : w.target = .sheet id) :
    Relation.ReflTransGen Desugars w w.byBody := by
  obtain ⟨target, name, args, named⟩ := w
  cases ht
  rw [byBody]
  dsimp only
  rcases hm : Method.ofName? name with _ | m
  · exact .refl
  dsimp only
  split
  · next hc =>
    obtain ⟨hv, ha, hbody, hn⟩ := hc
    rcases List.eq_nil_or_concat args with rfl | ⟨lead, last, rfl⟩
    · cases ha
    · rw [List.concat_eq_append] at *
      rw [List.length_append, List.length_singleton] at ha
      rw [List.getLastD_concat] at hbody
      rw [List.getLastD_concat, List.dropLast_concat]
      exact .single (.trailing hm hv (Nat.le_of_lt_succ ha) hbody hn)
  · exact .refl

theorem target_byMethod : w.byMethod.target = w.target := by
  rw [byMethod]
  split <;> rfl

theorem target_byDirective : w.byDirective.target = w.target := by
  rw [byDirective]
  split
  · split <;> rfl
  · split <;> rfl
  · rfl

theorem of_ofContext {name p : String} (h : Attribute.ofContext name = .ok (.method .pseudo [.text p])) :
    p = Vocabulary.propertyName name := by
  rw [Attribute.ofContext] at h
  split at h
  · cases h
  split at h
  · cases h
  split at h
  · cases h
  cases h
  rfl

theorem core_desugars (w : Spelling) : Relation.ReflTransGen Desugars w w.core := by
  rw [core]
  split
  · next id ht =>
    have ht₁ : w.byMethod.target = .sheet id := target_byMethod.trans ht
    have ht₂ : w.byMethod.byDirective.target = .sheet id := target_byDirective.trans ht₁
    exact (byMethod_desugars ht).trans ((byDirective_desugars ht₁).trans (byBody_desugars ht₂))
  · next i id ht =>
    obtain ⟨target, name, args, named⟩ := w
    cases ht
    dsimp only
    split
    · next p hp =>
      obtain rfl := of_ofContext hp
      rcases hb : Method.pseudo.bind _ named with e | c
      · exact .refl
      · obtain ⟨body, rfl⟩ := of_pseudo_bind hb
        exact .single (.pseudo hp hb)
    · exact .refl
  · exact .refl

end Spelling

end Stylesheet.Builder

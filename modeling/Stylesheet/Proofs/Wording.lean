import Stylesheet.Proofs.Bodies
import Stylesheet.Proofs.Finished
import Stylesheet.Proofs.Includes

namespace Stylesheet

/-- An error and what has become of it on its way out of iterations. -/
def Fault.ComesTo (e e' : Fault) : Prop := e' = e ∨ e' = e.inIteration

theorem Fault.ComesTo.refl (e : Fault) : e.ComesTo e := .inl rfl

theorem Fault.ComesTo.inIteration {e e' : Fault} (h : e.ComesTo e') : e.ComesTo e'.inIteration := by
  have hagain : e.inIteration.inIteration = e.inIteration := by
    rw [Fault.inIteration, Fault.inIteration]
    split <;> simp_all [Fault.kind]
  rcases h with rfl | rfl
  · exact .inr rfl
  · exact .inr hagain

namespace Builder

open Build

/-- `m` begins as `n` does and goes on with its result as `k` does. -/
structure Begins {α β : Type} (m : Build α) (n : Build β) (k : β → Build α) : Prop where
  ok : ∀ {s t : Studio} {b : β}, n.on s = (.ok b, t) → m.on s = (k b).on t
  error : ∀ {s t : Studio} {e : Fault}, n.on s = (.error e, t) →
    ∃ e', m.on s = (.error e', t) ∧ e.ComesTo e'

def Shapes {α β : Type} (f : β → α) (m : Build α) (n : Build β) : Prop :=
  Begins m n fun b ↦ pure (f b)

namespace Begins

variable {α β γ δ : Type} {f : β → α} {m : Build α} {n : Build β}

theorem refl (m : Build α) : Begins m m pure := ⟨fun h ↦ h, fun h ↦ ⟨_, h, .refl _⟩⟩

theorem bind {k : α → Build γ} {l : β → Build δ} {j : δ → Build γ} (h : Shapes f m n)
    (hk : ∀ b, Begins (k (f b)) (l b) j) : Begins (m >>= k) (n >>= l) j where
  ok {s t d} hd := by
    obtain ⟨b, u, hb, hd⟩ := of_bind_ok hd
    rw [on_bind_ok (h.ok hb), (hk b).ok hd]
  error {s t e} he := by
    rcases hb : n.on s with ⟨e₁ | b, u⟩
    · rw [on_bind_error hb] at he
      cases he
      obtain ⟨e', he', hc⟩ := h.error hb
      exact ⟨e', on_bind_error he', hc⟩
    · rw [on_bind_ok hb] at he
      obtain ⟨e', he', hc⟩ := (hk b).error he
      exact ⟨e', by rw [on_bind_ok (h.ok hb), he'], hc⟩

theorem of_map {g : γ → β} {n : Build γ} {k : β → Build α} (h : Begins m n fun c ↦ k (g c)) :
    Begins m (n >>= fun c ↦ pure (g c)) k where
  ok {s t b} hb := by
    obtain ⟨c, u, hc, hb⟩ := of_bind_ok hb
    cases hb
    exact h.ok hc
  error {s t e} he := by
    rcases hc : n.on s with ⟨e₁ | c, u⟩
    · rw [on_bind_error hc] at he
      cases he
      exact h.error hc
    · rw [on_bind_ok hc] at he
      cases he

end Begins

namespace Shapes

variable {α β γ : Type} {f : β → α} {m : Build α} {n : Build β}

theorem andThen (h : Shapes f m n) (k : α → Build γ) : Begins (m >>= k) n fun b ↦ k (f b) where
  ok hb := on_bind_ok (h.ok hb)
  error he := by
    obtain ⟨e', he', hc⟩ := h.error he
    exact ⟨e', on_bind_error he', hc⟩

theorem iterating (h : Shapes f m n) : Shapes f (iterating m) n where
  ok hb := on_iterating_ok (h.ok hb)
  error he := by
    obtain ⟨e', he', hc⟩ := h.error he
    exact ⟨_, on_iterating_error he', hc.inIteration⟩

end Shapes

variable {activate : Activation}

theorem textsInOrder_append (front back : List Value) :
    textsInOrder activate (front ++ back) = (do
      let xs ← textsInOrder activate front
      let ys ← textsInOrder activate back
      return xs ++ ys) := by
  induction front with
  | nil => simp [textsInOrder]
  | cons v rest ih => simp [textsInOrder, ih]

section

variable {α : Type} {v : Value} {vs : List Value}

theorem begins_nil {m : Build α} {k : List String → Build α} (h : m = k []) :
    Begins m (textsInOrder activate []) k where
  ok hb := by cases hb; rw [h]
  error he := by cases he

theorem begins_cons {m : String → Build α} {k : List String → Build α}
    (h : ∀ x, Begins (m x) (textsInOrder activate vs) fun xs ↦ k (x :: xs)) :
    Begins (text activate v >>= m) (textsInOrder activate (v :: vs)) k :=
  .bind (.refl (text activate v)) fun x ↦ .of_map (h x)

theorem shapes_texts (f : List String → α) (vs : List Value) :
    Shapes f (texts activate vs >>= fun xs ↦ pure (f xs)) (textsInOrder activate vs) :=
  Shapes.andThen (.iterating (.refl _)) fun xs ↦ pure (f xs)

theorem shapes_text {f : List String → String} (v : Value) (hf : ∀ x, f [x] = x) :
    Shapes f (text activate v) (textsInOrder activate [v]) := by
  have h : Shapes f (text activate v >>= fun x ↦ pure (f [x])) (textsInOrder activate [v]) :=
    begins_cons fun x ↦ begins_nil rfl
  simpa only [hf, bind_pure] using h

end

def inParentheses (xs : List String) : String :=
  if xs.isEmpty then "" else "(" ++ Text.join ", " xs ++ ")"

theorem shapes_arguments (args : List Value) :
    Shapes inParentheses (arguments activate args) (textsInOrder activate args) := by
  cases args with
  | nil => exact begins_nil rfl
  | cons v rest =>
    have h : Shapes _ (arguments activate (v :: rest)) (textsInOrder activate (v :: rest)) :=
      shapes_texts (fun xs ↦ "(" ++ Text.join ", " xs ++ ")") (v :: rest)
    refine ⟨fun {s t xs} hxs ↦ ?_, h.error⟩
    obtain ⟨x, u, -, hrest⟩ := of_bind_ok hxs
    obtain ⟨more, w, -, hmore⟩ := of_bind_ok hrest
    cases hmore
    exact h.ok hxs

namespace Line

/-- The values whose texts a line needs, in order. -/
def values : Line → List Value
  | .declare name value => [name, value]
  | .includeMixin name args => name :: args
  | .importFile v | .extend v | .returnValue v => [v]

/-- A line with the texts of its values in their places. -/
def assemble : Line → List String → String
  | .declare _ _, [property, shown] => property ++ ": " ++ shown ++ ";"
  | .includeMixin _ _, name :: args => "@include " ++ name ++ inParentheses args ++ ";"
  | .importFile _, [path] => "@import '" ++ path ++ "';"
  | .extend _, [selector] => "@extend " ++ selector ++ ";"
  | .returnValue _, [value] => "@return " ++ value ++ ";"
  | _, _ => ""

theorem shapes (l : Line) : Shapes l.assemble (l.text activate) (textsInOrder activate l.values) := by
  cases l with
  | declare name value => exact begins_cons fun x ↦ begins_cons fun y ↦ begins_nil rfl
  | includeMixin name args => exact begins_cons fun x ↦
      (shapes_arguments args).andThen fun a ↦ pure ("@include " ++ x ++ a ++ ";")
  | importFile v | extend v | returnValue v => exact begins_cons fun x ↦ begins_nil rfl

end Line

namespace Heading

def isMarked : Value → Bool
  | .atom (.text s) => Vocabulary.startsWithMarker s
  | _ => false

def directiveLine (name : Value) : List String → String
  | [] => ""
  | x :: args => Text.join " " ((if isMarked name then x else "@" ++ x) :: args)

/-- A heading with the texts of its values in their places. -/
def assemble : Heading → List String → String
  | .rule _, [selector] => selector
  | .ruleWithContext _, [selector] => selector
  | .pseudo _, [name] => "&:" ++ name
  | .directive name _, xs => directiveLine name xs
  | .media _, xs => directiveLine (.text "@media") xs
  | .keyframes _, xs => directiveLine (.text "@keyframes") xs
  | .mixin _ _, name :: params => "@mixin " ++ name ++ inParentheses params
  | .function _ _, name :: params => "@function " ++ name ++ inParentheses params
  | .ifBlock _, [condition] => "@if " ++ condition
  | .elseIfBlock _, [condition] => "@else if " ++ condition
  | .elseBlock, _ => "@else"
  | .forLoop _ _ _, [counter, start, stop] =>
    "@for $" ++ counter ++ " from " ++ start ++ " through " ++ stop
  | .eachLoop _ _, xs => "@each $" ++ xs.getLastD "" ++ " in " ++ Text.join ", " xs.dropLast
  | .whileLoop _, [condition] => "@while " ++ condition
  | _, _ => ""

def listed : Value → Build (List Value)
  | .atom (.text s) => pure [.text s]
  | v => items v

/-- All that is given for a heading, the name of a directive first. -/
def arguments : Heading → List Value
  | .directive name args => name :: args
  | .media queries => .text "@media" :: queries
  | .keyframes name => [.text "@keyframes", name]
  | .mixin name params | .function name params => name :: params
  | .rule v | .ruleWithContext v | .pseudo v | .ifBlock v | .elseIfBlock v | .whileLoop v => [v]
  | .elseBlock => []
  | .forLoop counter start stop => [counter, start, stop]
  | .eachLoop counter list => [list, counter]

/-- The values whose texts a heading needs, in order. -/
def values (activate : Activation) : Heading → Build (List Value)
  | .directive name args => do
    let _ ← hasMarker activate name
    return name :: args
  | .eachLoop counter list => do return (← listed list) ++ [counter]
  | h => pure h.arguments

theorem shapes_callable (keyword : String) (name : Value) (params : List Value)
    {f : List String → String}
    (hf : ∀ x xs, f (x :: xs) = keyword ++ " " ++ x ++ inParentheses xs) :
    Shapes f (callableHeading activate keyword name params)
      (textsInOrder activate (name :: params)) := by
  refine begins_cons fun x ↦ ?_
  simp only [hf]
  exact (shapes_arguments params).andThen fun a ↦ pure (keyword ++ " " ++ x ++ a)

theorem hasMarker_eq (activate : Activation) (name : Value) :
    ∃ m : Build Unit, hasMarker activate name = m >>= fun _ ↦ pure (isMarked name) := by
  unfold hasMarker
  split
  · exact ⟨pure (), rfl⟩
  · exact ⟨throw _, rfl⟩
  · next ht _ =>
    refine ⟨ask activate name "startswith" [.text "@"], ?_⟩
    unfold isMarked
    split
    · exact absurd rfl (ht _)
    · rfl

theorem shapes_directive (name : Value) (args : List Value) :
    Shapes (directiveLine name) (directiveHeading activate name args)
      (values activate (.directive name args) >>= textsInOrder activate) := by
  obtain ⟨m, hm⟩ := hasMarker_eq activate name
  simp only [directiveHeading, values, hm, bind_assoc, pure_bind]
  exact .bind (.refl m) fun _ ↦ begins_cons fun x ↦
    shapes_texts (fun xs ↦ Text.join " " ((if isMarked name then x else "@" ++ x) :: xs)) args

theorem shapes_list (list : Value) :
    Shapes (Text.join ", ") (listText activate list) (listed list >>= textsInOrder activate) := by
  unfold listText
  split
  · next s =>
    have h : Shapes (Text.join ", ") (Builder.text activate (.text s))
        (textsInOrder activate [.text s]) := shapes_text _ fun _ ↦ rfl
    exact h
  · next ht =>
    have hl : listed list = items list := by
      unfold listed
      split
      · exact absurd rfl (ht _)
      · rfl
    rw [hl]
    exact .bind (.refl _) fun vs ↦ shapes_texts _ vs

theorem shapes_eachLoop (counter list : Value) :
    Shapes (assemble (.eachLoop counter list)) (text activate (.eachLoop counter list))
      (values activate (.eachLoop counter list) >>= textsInOrder activate) := by
  simp only [text, values, bind_assoc, pure_bind, textsInOrder_append]
  rw [← bind_assoc]
  refine .bind (shapes_list list) fun xs ↦ .of_map (begins_cons fun x ↦ ?_)
  have hx : assemble (.eachLoop counter list) (xs ++ [x]) = "@each $" ++ x ++ " in " ++ Text.join ", " xs := by
    simp [assemble]
  rw [← hx]
  exact begins_nil rfl

theorem shapes (h : Heading) :
    Shapes h.assemble (h.text activate) (h.values activate >>= textsInOrder activate) := by
  cases h with
  | rule v | ruleWithContext v => exact shapes_text v fun x ↦ rfl
  | pseudo v | ifBlock v | elseIfBlock v | whileLoop v => exact begins_cons fun x ↦ begins_nil rfl
  | directive name args => exact shapes_directive name args
  | media queries => exact shapes_directive (.text "@media") queries
  | keyframes name => exact shapes_directive (.text "@keyframes") [name]
  | mixin name params => exact shapes_callable _ _ _ fun _ _ ↦ rfl
  | function name params => exact shapes_callable _ _ _ fun _ _ ↦ rfl
  | elseBlock =>
    have h : Shapes (assemble .elseBlock) (pure "@else") (textsInOrder activate []) := begins_nil rfl
    exact h
  | forLoop counter start stop =>
    exact begins_cons fun x ↦ begins_cons fun y ↦ begins_cons fun z ↦ begins_nil rfl
  | eachLoop counter list => exact shapes_eachLoop counter list

theorem splitBody_cases (args : List Value) (body : Value) :
    (∃ e : Studio → Fault, splitBody args body = (get : Build Studio) >>= fun s ↦ throw (e s)) ∨
      splitBody args body = pure (args.filter (!·.isBody), (parted args body).2) := by
  rw [splitBody_parted]
  rcases hf : (parted args body).1.find? Value.isBody with _ | stray
  · have hbodiless : ∀ v ∈ (parted args body).1, (!v.isBody) = true := by simpa using hf
    have hfilter : args.filter (!·.isBody) = (parted args body).1 := by
      rcases parted_cases args body with hp | ⟨front, last, rfl, hlast, -, hp⟩
      · rw [hp] at hbodiless ⊢
        exact List.filter_eq_self.2 hbodiless
      · rw [hp] at hbodiless ⊢
        rw [List.filter_append, List.filter_eq_self.2 hbodiless]
        simp [hlast]
    exact .inr (hfilter ▸ rfl)
  · exact .inl ⟨_, rfl⟩

section

variable {h h' : Heading} {body body' : Value} {s t : Studio}

theorem assemble_bare (h : Heading) (args : List Value) : (h.bare args).assemble = h.assemble := by
  funext xs
  cases h <;> cases xs <;> rfl

theorem arguments_bare (hh : h.takesBodies = true) (args : List Value) :
    (h.bare args).arguments = h.arguments.take 1 ++ args := by
  cases h <;> first | rfl | cases hh

theorem arguments_drop (hh : h.takesBodies = true) : h.arguments.drop 1 = h.others := by
  cases h <;> first | rfl | cases hh

/-- A block is refused, or it has its heading without the bodies that are among its arguments. -/
theorem split_cases (h : Heading) (body : Value) :
    (∃ e : Studio → Fault, h.split body = (get : Build Studio) >>= fun s ↦ throw (e s)) ∨
      ∃ h' body', h.split body = pure (h', body') ∧ h' = h.bare (h.others.filter (!·.isBody)) := by
  rcases hh : h.takesBodies with _ | _
  · refine .inr ⟨h, body, split_eq_self hh body, ?_⟩
    cases h <;> first | rfl | cases hh
  · rw [split_of_takesBodies hh]
    rcases splitBody_cases h.others body with ⟨e, he⟩ | hp
    · exact .inl ⟨e, by rw [he]; rfl⟩
    · exact .inr ⟨_, _, by rw [hp, pure_bind], rfl⟩

theorem of_split_ok (hs : (h.split body).on s = (.ok (h', body'), t)) :
    h.split body = pure (h', body') ∧ h' = h.bare (h.others.filter (!·.isBody)) := by
  rcases h.split_cases body with ⟨e, he⟩ | ⟨h₁, body₁, hb, hbare⟩
  · rw [he] at hs
    cases hs
  · rw [hb] at hs ⊢
    cases hs
    exact ⟨rfl, hbare⟩

end

end Heading

namespace Call

variable (activate : Activation) (id : SheetId)

/-- The values whose texts a writing call needs, in order. A block takes its body from its arguments
before, and a raw text is made only if it may be written. -/
def values : Call → Build (List Value)
  | .line l => pure l.values
  | .assign name value => pure [name, value]
  | .raw chunk => do
    checkWritable id
    return [chunk]
  | .block h body => do
    let (h, _) ← h.split body
    h.values activate
  | .text | .css _ _ _ => pure []

/-- The texts that a writing call needs, in order. -/
def texts (c : Call) : Build (List String) := do textsInOrder activate (← c.values activate id)

/-- What a call writes first, with the texts that it needs in their places. -/
def chunk : Call → List String → Int → Chunk
  | .line l, xs, depth => .line depth (l.assemble xs)
  | .assign name _, x :: shown :: _, depth => .assignment depth name ("$" ++ x) shown
  | .block h _, xs, depth => .opening depth (h.assemble xs)
  | _, xs, _ => .raw (xs.headD "")

/-- What a call does after the first that it writes. -/
def proceed : Call → List String → Build Value
  | .assign name _, x :: _ => do
    let key ← Builder.text activate name
    Build.updateSheet id fun s ↦ s.assign key ("$" ++ x)
    return .text ("$" ++ x)
  | .block h body, _ => do
    let (h, body) ← h.split body
    Build.updateSheet id Sheet.deepen
    Build.andThenAlways (h.runBody activate id body) fun s ↦ s.updateSheet id Sheet.rise
    write id .closing
    return .none
  | _, _ => pure .none

def writeFirst : Call → (Int → Chunk) → Build Unit
  | .raw _, chunkAt => Build.updateSheet id (·.write chunkAt)
  | _, chunkAt => write id chunkAt

end Call

section

variable {id : SheetId} {c : Call} {xs : List String} {s w : Studio} {e : Fault} {T : String}

theorem on_writeFirst (c : Call) (chunkAt : Int → Chunk) (ho : (s.sheet id).output = none) :
    (c.writeFirst id chunkAt).on s = (.ok (), s.updateSheet id (·.write chunkAt)) := by
  cases c with
  | raw chunk => rfl
  | _ => exact on_write chunkAt ho

theorem on_writeFirst_finished (hr : ∀ chunk, c ≠ .raw chunk) (chunkAt : Int → Chunk)
    (ho : (s.sheet id).output = some T) : (c.writeFirst id chunkAt).on s = (.error .finished, s) := by
  cases c with
  | raw chunk => exact absurd rfl (hr chunk)
  | _ => exact on_write_finished chunkAt ho

theorem perform_begins (hc : c.writes = true) :
    Begins (perform activate id c) (c.texts activate id) fun xs ↦
      c.writeFirst id (c.chunk xs) >>= fun _ ↦ c.proceed activate id xs := by
  cases c with
  | line l => exact l.shapes.andThen fun line ↦ writeLine id line >>= fun _ ↦ pure Value.none
  | assign name value =>
    simp only [perform, assign, Call.texts, Call.values, bind_assoc, pure_bind]
    exact begins_cons fun x ↦ begins_cons fun y ↦ begins_nil rfl
  | raw chunk =>
    simp only [perform, Call.texts, Call.values, bind_assoc, pure_bind]
    exact .bind (.refl (checkWritable id)) fun _ ↦ begins_cons fun x ↦ begins_nil rfl
  | block h body =>
    rcases h.split_cases body with ⟨e, he⟩ | ⟨h', body', hs, hbare⟩
    · -- a block that is refused has no texts
      refine ⟨fun hx ↦ ?_, fun hx ↦ ?_⟩ <;> rw [Call.texts, Call.values, he] at hx <;> cases hx
      rw [perform, headed, Heading.worded, he]
      exact ⟨_, rfl, .refl _⟩
    · have hchunk (xs : List String) :
          (Call.block h body).chunk xs = (.opening · (h'.assemble xs)) := by
        rw [hbare, Heading.assemble_bare]
        rfl
      simp only [perform, headed, block, Heading.worded, Call.texts, Call.values, Call.writeFirst,
        Call.proceed, hs, hchunk, bind_assoc, pure_bind]
      exact h'.shapes.andThen _
  | text | css => cases hc

/-- The sheet may have been finished meanwhile. Only a raw text is written still. -/
theorem on_perform_unwritten (hc : c.writes = true) (hr : ∀ chunk, c ≠ .raw chunk)
    (hx : (c.texts activate id).on s = (.ok xs, w)) (ho : (w.sheet id).output = some T) :
    (perform activate id c).on s = (.error .finished, w) :=
  ((perform_begins hc).ok hx).trans (on_bind_error (on_writeFirst_finished hr _ ho))

theorem on_perform_written (hc : c.writes = true) (hx : (c.texts activate id).on s = (.ok xs, w))
    (ho : (w.sheet id).output = none) :
    (perform activate id c).on s =
      (c.proceed activate id xs).on (w.updateSheet id (·.write (c.chunk xs))) :=
  ((perform_begins hc).ok hx).trans (on_bind_ok (on_writeFirst c _ ho))

end

section

variable {activate : Activation} {id : SheetId} {m : Method} {args vs : List Value}
  {named : List (String × Value)} {c : Call} {h : Heading} {body : Value} {s t : Studio}

theorem of_bind_takesBodies (hm : m.isVariadicBlock = true ∨ m = .keyframes)
    (hb : m.bind args named = .ok c) : ∃ h body, c = .block h body ∧ h.takesBodies = true := by
  obtain ⟨values, rest, -, hc⟩ := of_method_bind hb
  cases m with
  | directive | media | keyframes | mixin | function =>
    rcases values with _ | ⟨a, _ | ⟨b, _ | ⟨_, _⟩⟩⟩ <;> cases hc
    exact ⟨_, _, rfl, rfl⟩
  | _ => rcases hm with hm | hm <;> cases hm

theorem eq_of_mem_bodiless {name v : Value} (hv : v ∈ name :: args.filter (!·.isBody))
    (hb : v.isBody = true) : v = name := by
  rcases List.mem_cons.1 hv with rfl | hv
  · rfl
  · simp [hb] at hv

theorem hasMarker_name {name : Value} {marked : Bool}
    (h : (hasMarker activate name).on s = (.ok marked, t)) : name.isBody = false := by
  cases name with
  | body i b => cases h
  | _ => rfl

/-- The values of a block are its arguments without bodies. Only the name of a mixin or a function may
be one. -/
theorem of_block_values_ok (hh : h.takesBodies = true)
    (hv : ((Call.block h body).values activate id).on s = (.ok vs, t)) :
    vs = h.arguments.take 1 ++ (h.arguments.drop 1).filter (!·.isBody) ∧
      ∀ v ∈ vs, v.isBody = true → ∃ params, h = .mixin v params ∨ h = .function v params := by
  obtain ⟨⟨h', body'⟩, s', hs, hv⟩ := of_bind_ok hv
  rw [(Heading.of_split_ok hs).2] at hv
  have ha : vs = (h.bare (h.others.filter (!·.isBody))).arguments →
      vs = h.arguments.take 1 ++ (h.arguments.drop 1).filter (!·.isBody) := fun hvs ↦ by
    rw [hvs, Heading.arguments_bare hh, Heading.arguments_drop hh]
  cases h with
  | directive name args =>
    obtain ⟨marked, u, hm, hv⟩ := of_bind_ok hv
    cases hv
    refine ⟨ha rfl, fun v hv hb ↦ ?_⟩
    obtain rfl : v = name := eq_of_mem_bodiless hv hb
    simp [hasMarker_name hm] at hb
  | media | keyframes =>
    obtain ⟨marked, u, hm, hv⟩ := of_bind_ok hv
    cases hv
    refine ⟨ha rfl, fun v hv hb ↦ ?_⟩
    obtain rfl : v = .text _ := eq_of_mem_bodiless hv hb
    cases hb
  | mixin name | function name =>
    cases hv
    refine ⟨ha rfl, fun v hv hb ↦ ?_⟩
    obtain rfl : v = name := eq_of_mem_bodiless hv hb
    simp
  | _ => cases hh

/-- What a block writes first, in a call that completes, is made of the texts of its arguments in their
places, and of no body among them but one that is the name of a mixin or a function. -/
theorem openings_are_bodiless {m : Method} {name : String} {pre args : List Value}
    {named : List (String × Value)} (hm : Attribute.ofSheet name = .ok (.method m pre))
    (hv : m.isVariadicBlock = true ∨ m = .keyframes) {activate : Activation} {id : SheetId}
    {s t : Studio} {v : Value}
    (hr : (Spelling.run activate ⟨.sheet id, name, args, named⟩).on s = (.ok v, t)) :
    ∃ h body vs xs s' u, m.bind (pre ++ args) named = .ok (.block h body) ∧
      ((Call.block h body).values activate id).on s = (.ok vs, s') ∧
      (textsInOrder activate vs).on s' = (.ok xs, u) ∧ (u.sheet id).output = none ∧
      ((Call.block h body).proceed activate id xs).on
        (u.updateSheet id (·.write (.opening · (h.assemble xs)))) = (.ok v, t) ∧
      vs = h.arguments.take 1 ++ (h.arguments.drop 1).filter (!·.isBody) ∧
      ∀ w ∈ vs, w.isBody = true → ∃ params, h = .mixin w params ∨ h = .function w params := by
  rw [run_on_sheet hm] at hr
  rcases hb : m.bind (pre ++ args) named with e | c
  · rw [hb] at hr
    cases hr
  rw [hb] at hr
  obtain ⟨h, body, rfl, hh⟩ := of_bind_takesBodies hv hb
  change (perform activate id (.block h body)).on s = (.ok v, t) at hr
  have hc : (Call.block h body).writes = true := rfl
  rcases hx : ((Call.block h body).texts activate id).on s with ⟨e | xs, u⟩
  · obtain ⟨e', he, -⟩ := (perform_begins hc).error hx
    rw [he] at hr
    cases hr
  rcases ho : (u.sheet id).output with _ | T
  · rw [on_perform_written hc hx ho] at hr
    obtain ⟨vs, s', hvs, hxs⟩ := of_bind_ok hx
    obtain ⟨hargs, hbodies⟩ := of_block_values_ok hh hvs
    exact ⟨h, body, vs, xs, s', u, rfl, hvs, hxs, ho, hr, hargs, hbodies⟩
  · rw [on_perform_unwritten hc nofun hx ho] at hr
    cases hr

theorem openings_are_bodiless_media :
    let w : Spelling := ⟨.sheet 0, "media", [.text "print", .body 0 ⟨none, []⟩], []⟩
    ∃ s' xs u, (w.run (runBodyWithin 1)).on { sheets := [{}] } =
        (.ok .none, { sheets := [{ chunks := [.opening 0 "@media print", .closing 0] }] }) ∧
      (textsInOrder (runBodyWithin 1) [.text "@media", .text "print"]).on s' = (.ok xs, u) := by
  intro w
  have hrun : (w.run (runBodyWithin 1)).on { sheets := [{}] } =
    (.ok .none, { sheets := [{ chunks := [.opening 0 "@media print", .closing 0] }] }) := rfl
  have hm : Attribute.ofSheet "media" = .ok (.method .media []) := rfl
  obtain ⟨h, body, vs, xs, s', u, hb, -, hxs, -, -, hvs, -⟩ :=
    openings_are_bodiless hm (.inl rfl) hrun
  cases hb
  obtain rfl : vs = [.text "@media", .text "print"] := hvs
  exact ⟨s', xs, u, hrun, hxs⟩

/-- The name of a mixin is not looked at: a body in its place has its shown form in the opening. -/
theorem body_in_opening :
    (Spelling.run (runBodyWithin 1)
        ⟨.sheet 0, "mixin", [.body 0 ⟨none, []⟩, .text "x"], []⟩).on { sheets := [{}] } =
      (.ok .none, { sheets := [{ chunks := [.opening 0 "@mixin <body>(x)", .closing 0] }] }) := by
  rfl

end

end Builder

end Stylesheet

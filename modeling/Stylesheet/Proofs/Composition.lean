import Stylesheet.Proofs.Evaluation

namespace Stylesheet

namespace Builder

open Build

/-- A way to run bodies. -/
abbrev Activation := Body → Value → Build Unit

/-- The inside of a block of a sheet: a body that is given the sheet or a new context of it, or what
runs no body. -/
inductive Inside (id : SheetId) : (Activation → Build Unit) → Prop
  | quiet {m : Build Unit} (hm : m.IsQuiet) : Inside id fun _ ↦ m
  | body (b : Body) : Inside id fun activate ↦ activate b (.sheet id)
  | context (b : Body) : Inside id fun activate ↦ newContext id >>= activate b

/-- Computations that are made of the builder's actions, given a way to run bodies. They declare
variables only if `p` holds. -/
inductive Composed (p : Prop) : {α : Type} → (Activation → Build α) → Prop
  | quiet {α : Type} {m : Build α} (hm : m.IsQuiet) : Composed p fun _ ↦ m
  | bind {α β : Type} {m : Activation → Build α} {f : α → Activation → Build β} :
      Composed p m → (∀ a, Composed p (f a)) → Composed p fun activate ↦ m activate >>= (f · activate)
  | outcome {α : Type} {m : Activation → Build α} :
      Composed p m → Composed p fun activate ↦ outcome (m activate)
  | line (id : SheetId) (words : String) : Composed p fun _ ↦ writeLine id words
  | assign (id : SheetId) (name value : Value) (hp : p) :
      Composed p fun activate ↦ assign activate id name value
  | raw (id : SheetId) (chunk : Value) : Composed p fun activate ↦ perform activate id (.raw chunk)
  | block (id : SheetId) (heading : String) {inside : Activation → Build Unit} :
      Inside id inside → Composed p fun activate ↦ block id heading (inside activate)
  | render (id : SheetId) : Composed p fun activate ↦ render activate id

variable {p : Prop}

namespace Composed

variable {α β : Type} {m n : Activation → Build α}

theorem pure (a : α) : Composed p fun _ ↦ (pure a : Build α) := .quiet (.pure a)

theorem throw (e : Fault) : Composed p fun _ ↦ (throw e : Build α) := .quiet (.throw e)

theorem ofExcept (r : Except Fault α) : Composed p fun _ ↦ Build.ofExcept r := .quiet (.ofExcept r)

theorem log (logger message : String) : Composed p fun _ ↦ log logger message :=
  .quiet (.log logger message)

theorem shown (v : Value) (f : String → Build α) (hf : ∀ x, (f x).IsQuiet) :
    Composed p fun _ ↦ (get : Build Studio) >>= fun s ↦ f (s.shown v) :=
  .quiet (.shown v hf)

theorem ite {q : Prop} [Decidable q] (hm : Composed p m) (hn : Composed p n) :
    Composed p fun activate ↦ if q then m activate else n activate := by
  by_cases hq : q
  · simpa only [if_pos hq] using hm
  · simpa only [if_neg hq] using hn

theorem iterating (hm : Composed p m) : Composed p fun activate ↦ iterating (m activate) := by
  refine .bind (.outcome hm) fun r ↦ ?_
  cases r with
  | ok a => exact .pure a
  | error e => exact .throw _

end Composed

theorem runBody_inside (id : SheetId) (body : Value) :
    Inside id fun activate ↦ runBody activate body (.sheet id) := by
  cases body with
  | body i b => exact .body b
  | atom a =>
    cases a with
    | none => exact .quiet (.pure _)
    | _ => exact .quiet (.throw _)
  | _ => exact .quiet (.throw _)

theorem runBody_context_inside (id : SheetId) (body : Value) :
    Inside id fun activate ↦ newContext id >>= runBody activate body := by
  cases body with
  | body i b => exact .context b
  | atom a =>
    cases a with
    | none => exact .quiet (.bind (.newContext id) fun _ ↦ .pure _)
    | _ => exact .quiet (.bind (.newContext id) fun _ ↦ .throw _)
  | _ => exact .quiet (.bind (.newContext id) fun _ ↦ .throw _)

theorem text_isQuiet {activate : Activation} {v : Value} (hv : ∀ id, v ≠ .sheet id) :
    (text activate v).IsQuiet := by
  cases v with
  | atom a => exact .ite (.pure _) (.throw _)
  | sheet id => exact absurd rfl (hv id)
  | _ => exact shown_isQuiet _

theorem text_composed (v : Value) : Composed p fun activate ↦ text activate v := by
  have hshown (v : Value) : Composed p fun _ ↦ Build.shown v := .quiet (shown_isQuiet v)
  cases v with
  | atom a => exact .ite (.pure _) (.throw _)
  | sheet id => exact .render id
  | _ => exact hshown _

theorem textsInOrder_composed (vs : List Value) :
    Composed p fun activate ↦ textsInOrder activate vs := by
  induction vs with
  | nil => exact .pure _
  | cons v rest ih => exact .bind (text_composed v) fun _ ↦ .bind ih fun _ ↦ .pure _

theorem texts_composed (vs : List Value) : Composed p fun activate ↦ texts activate vs :=
  .iterating (textsInOrder_composed vs)

theorem arguments_composed (args : List Value) : Composed p fun activate ↦ arguments activate args :=
  .ite (.pure _) (.bind (texts_composed args) fun _ ↦ .pure _)

theorem declaration_composed (name value : Value) :
    Composed p fun activate ↦ declaration activate name value :=
  .bind (text_composed name) fun _ ↦ .bind (text_composed value) fun _ ↦ .pure _

theorem declare_composed (id : SheetId) (name value : Value) :
    Composed p fun activate ↦ declare activate id name value :=
  .bind (declaration_composed name value) fun _ ↦ .line id _

theorem rule_composed (id : SheetId) (selector body : Value) :
    Composed p fun activate ↦ rule activate id selector body :=
  .bind (text_composed selector) fun heading ↦ .block id heading (runBody_inside id body)

theorem ask_composed (target : Value) (request : String) (args : List Value) :
    Composed p fun activate ↦ ask activate target request args := by
  cases target with
  | sheet id =>
    refine .bind (.ofExcept _) fun c ↦ ?_
    cases c with
    | line l =>
      cases l with
      | declare name value => exact declare_composed id name value
      | _ => exact .pure _
    | _ => exact .pure _
  | context i id =>
    refine .bind (.ofExcept _) fun c ↦ ?_
    cases c with
    | block h body =>
      cases h with
      | pseudo name => exact .bind (text_composed name) fun _ ↦ rule_composed id _ body
      | _ => exact .pure _
    | _ => exact .pure _
  | _ => exact .throw _

theorem items_composed (v : Value) : Composed p fun _ ↦ items v := by
  unfold items
  split
  · exact .bind (.quiet (.readStream _)) fun _ ↦ .pure _
  · exact .bind (.quiet (.readStream _)) fun _ ↦ .pure _
  · split
    · exact .pure _
    · exact .throw _

theorem splitBody_composed (args : List Value) (body : Value) :
    Composed p fun _ ↦ splitBody args body := by
  unfold splitBody
  dsimp only
  split
  · next stray _ => exact .shown stray (throw <| .misplacedBody ·) fun _ ↦ .throw _
  · exact .pure _

theorem hasMarker_composed (name : Value) : Composed p fun activate ↦ hasMarker activate name := by
  have hask : Composed p fun activate ↦ do
      ask activate name "startswith" [.text "@"]
      return false := .bind (ask_composed _ _ _) fun _ ↦ .pure _
  cases name with
  | atom a =>
    cases a with
    | text s => exact .pure _
    | bytes b => exact .throw _
    | _ => exact hask
  | _ => exact hask

theorem directiveHeading_composed (name : Value) (args : List Value) :
    Composed p fun activate ↦ directiveHeading activate name args :=
  .bind (hasMarker_composed name) fun _ ↦ .bind (text_composed name) fun _ ↦
    .bind (texts_composed args) fun _ ↦ .pure _

theorem callableHeading_composed (keyword : String) (name : Value) (params : List Value) :
    Composed p fun activate ↦ callableHeading activate keyword name params :=
  .bind (text_composed name) fun _ ↦ .bind (arguments_composed params) fun _ ↦ .pure _

theorem listText_composed (v : Value) : Composed p fun activate ↦ listText activate v := by
  have hitems : Composed p fun activate ↦ do
      return Text.join ", " (← texts activate (← items v)) :=
    .bind (items_composed v) fun _ ↦ .bind (texts_composed _) fun _ ↦ .pure _
  cases v with
  | atom a =>
    cases a with
    | text s => exact .pure _
    | _ => exact hitems
  | _ => exact hitems

theorem Line.text_composed (l : Line) : Composed p fun activate ↦ l.text activate := by
  cases l with
  | declare name value => exact declaration_composed name value
  | includeMixin name args =>
    exact .bind (Builder.text_composed name) fun _ ↦ .bind (arguments_composed args) fun _ ↦ .pure _
  | importFile v | extend v | returnValue v =>
    exact .bind (Builder.text_composed v) fun _ ↦ .pure _

theorem Heading.split_composed (h : Heading) (body : Value) : Composed p fun _ ↦ h.split body := by
  cases h with
  | directive | media | keyframes | mixin | function =>
    exact .bind (splitBody_composed _ _) fun _ ↦ .pure _
  | _ => exact .pure _

theorem Heading.text_composed (h : Heading) : Composed p fun activate ↦ h.text activate := by
  cases h with
  | rule v | ruleWithContext v => exact Builder.text_composed v
  | pseudo v | ifBlock v | elseIfBlock v | whileLoop v =>
    exact .bind (Builder.text_composed v) fun _ ↦ .pure _
  | directive name args => exact directiveHeading_composed name args
  | media queries => exact directiveHeading_composed _ queries
  | keyframes name => exact directiveHeading_composed _ [name]
  | mixin name params | function name params => exact callableHeading_composed _ name params
  | elseBlock => exact .pure _
  | forLoop counter start stop =>
    exact .bind (Builder.text_composed counter) fun _ ↦ .bind (Builder.text_composed start) fun _ ↦
      .bind (Builder.text_composed stop) fun _ ↦ .pure _
  | eachLoop counter list =>
    exact .bind (listText_composed list) fun _ ↦ .bind (Builder.text_composed counter) fun _ ↦
      .pure _

theorem Heading.worded_composed (h : Heading) (body : Value) :
    Composed p fun activate ↦ h.worded activate body :=
  .bind (h.split_composed body) fun (h, _) ↦ .bind h.text_composed fun _ ↦ .pure _

theorem Heading.runBody_inside (h : Heading) (id : SheetId) (body : Value) :
    Inside id fun activate ↦ h.runBody activate id body := by
  cases h with
  | ruleWithContext selector =>
    have hc := runBody_context_inside id body
    by_cases hb : body.isNone
    · have he : (fun activate : Activation ↦
          (Heading.ruleWithContext selector).runBody activate id body) = fun _ ↦ pure () := by
        funext activate
        simp [Heading.runBody, hb]
      exact he ▸ .quiet (.pure ())
    · have he : (fun activate : Activation ↦
          (Heading.ruleWithContext selector).runBody activate id body) =
            fun activate ↦ newContext id >>= Builder.runBody activate body := by
        funext activate
        simp [Heading.runBody, hb]
      exact he ▸ hc
  | _ => exact Builder.runBody_inside id body

theorem headed_composed (id : SheetId) (h : Heading) (body : Value) :
    Composed p fun activate ↦ headed activate id h body :=
  .bind (h.worded_composed body) fun (heading, h, body) ↦ .block id heading (h.runBody_inside id body)

end Builder

namespace Include

open Builder

variable {p : Prop}

theorem decode_composed (bytes : ByteArray) : Composed p fun _ ↦ decode bytes := by
  unfold decode
  split
  · exact .pure _
  · exact .throw _

theorem readFile_isQuiet (path : String) : (readFile path).IsQuiet :=
  .bind (.log _ _) fun _ ↦ .get_bind (fun _ _ _ ↦ rfl) fun _ ↦ .ofExcept _

theorem contentOf_composed (v : Value) : Composed p fun activate ↦ contentOf activate v := by
  have htext := text_composed (p := p) v
  cases v with
  | atom a =>
    cases a with
    | bytes b => exact decode_composed b
    | _ => exact htext
  | _ => exact htext

theorem resolve_composed (v : Value) : Composed p fun activate ↦ resolve activate v := by
  cases v with
  | atom a =>
    cases a with
    | text s =>
      exact .quiet (.get_bind (fun _ _ _ ↦ rfl) fun _ ↦ .ite (readFile_isQuiet s) (.pure s))
    | path p => exact .quiet (readFile_isQuiet _)
    | _ => exact .throw _
  | textStream id | byteStream id =>
    refine .bind (.quiet (.readStream id)) fun c ↦ ?_
    cases c with
    | text s => exact .pure s
    | bytes b => exact decode_composed b
  | reader i content => exact contentOf_composed content
  | sheet id | context i id =>
    exact .bind (ask_composed _ _ _) fun _ ↦ contentOf_composed _
  | _ => exact .throw _

theorem combine_composed (vs : List Value) : Composed p fun activate ↦ combine activate vs := by
  induction vs with
  | nil => exact .pure _
  | cons v rest ih => exact .bind (.iterating (resolve_composed v)) fun _ ↦ .bind ih fun _ ↦ .pure _

end Include

namespace Engine

open Builder

variable {p : Prop}

/-- An engine that is made of the builder's actions, given a way to run bodies. -/
structure IsComposed (p : Prop) (e : Activation → Engine) : Prop where
  name : Composed p fun activate ↦ (e activate).name
  compile : ∀ source style, Composed p fun activate ↦ (e activate).compile source style

theorem request_isQuiet (r : Request) : (request r).IsQuiet :=
  .modify (fun _ ↦ rfl) (fun _ ↦ rfl) (fun _ _ _ ↦ rfl) (fun _ ↦ ⟨rfl, rfl⟩) fun _ ↦ .of_records rfl

theorem answer_isQuiet (result : Value) (error : Option Fault) :
    (answer result error).IsQuiet := by
  cases error with
  | none => exact .pure _
  | some e => exact .throw _

theorem fixed_isComposed (result : Value) (error : Option Fault) :
    IsComposed p fun _ ↦ fixed result error where
  name := .pure _
  compile _ _ := .quiet (.bind (request_isQuiet _) fun _ ↦ answer_isQuiet result error)

theorem installed_isComposed (paths : List Value) (precision : Value) :
    IsComposed p fun _ ↦ installed paths precision where
  name := .pure _
  compile _ _ := .quiet (.bind (request_isQuiet _) fun _ ↦
    .get_bind (fun _ _ _ ↦ rfl) fun _ ↦ answer_isQuiet _ _)

end Engine

namespace Builder

open Build

variable {p : Prop}

theorem engineName_composed (v : Value) : Composed p fun _ ↦ engineName v := by
  unfold engineName
  split
  · exact .pure _
  · refine .bind (.ofExcept _) fun found ↦ ?_
    cases found with
    | method m first =>
      exact .shown v (fun x ↦ return Attribute.shownMethod m first x) fun _ ↦ .pure _
    | property p => exact .pure _

theorem engineOf_isComposed (v : Value) : Engine.IsComposed p fun activate ↦ engineOf activate v := by
  by_cases hv : v.isTruthy
  · have he : (fun activate ↦ engineOf activate v) = fun activate ↦ ⟨engineName v, fun source style ↦ do
        ask activate v "compile" [.text source, .text style.text]
        return .none⟩ := by
      funext activate
      simp [engineOf, hv]
    rw [he]
    exact ⟨engineName_composed v, fun _ _ ↦ .bind (ask_composed _ _ _) fun _ ↦ .pure _⟩
  · have he : (fun activate ↦ engineOf activate v) = fun _ ↦ Engine.standard := by
      funext activate
      simp [engineOf, hv]
    rw [he]
    exact Engine.installed_isComposed _ _

theorem job_composed (document : String) (includes compress : Value) {e : Activation → Engine}
    (he : Engine.IsComposed p e) :
    Composed p fun activate ↦ Compiler.Job.run activate ⟨document, includes, compress, e activate⟩ := by
  simp only [Compiler.Job.run, Compiler.Job.source, Compiler.Job.style]
  have hsource : Composed p fun activate ↦ do
      return (← Include.process activate includes) ++ document :=
    .bind (Include.combine_composed (Include.itemsOf includes)) fun _ ↦ .pure _
  refine .bind hsource fun source ↦ .bind he.name fun name ↦ ?_
  refine .bind (.log _ _) fun _ ↦ .bind (he.compile _ _) fun css ↦ ?_
  cases css.size? with
  | some size => exact .bind (.log _ _) fun _ ↦ .pure css
  | none => exact .throw _

theorem css_composed (id : SheetId) (includes compress : Value) {e : Activation → Engine}
    (he : Engine.IsComposed p e) :
    Composed p fun activate ↦ css activate id includes compress (e activate) :=
  .bind (.render id) fun document ↦ job_composed document includes compress he

theorem perform_composed (id : SheetId) (c : Call) (hp : ∀ name value, c = .assign name value → p) :
    Composed p fun activate ↦ perform activate id c := by
  cases c with
  | line l => exact .bind l.text_composed fun _ ↦ .bind (.line id _) fun _ ↦ .pure _
  | assign name value => exact .bind (.assign id name value (hp _ _ rfl)) fun _ ↦ .pure _
  | raw chunk => exact .raw id chunk
  | block h body => exact .bind (headed_composed id h body) fun _ ↦ .pure _
  | text => exact .bind (.render id) fun _ ↦ .pure _
  | css includes compress engine => exact css_composed id _ _ (engineOf_isComposed engine)

theorem bindName_isQuiet (name : String) (v : Value) : (bindName name v).IsQuiet :=
  .modify (fun _ ↦ rfl) (fun _ ↦ rfl) (fun _ _ _ ↦ rfl) (fun _ ↦ ⟨rfl, rfl⟩) fun _ ↦ .of_records rfl

theorem note_isQuiet (o : Outcome) : (note o).IsQuiet :=
  .modify (fun _ ↦ rfl) (fun _ ↦ rfl) (fun _ _ _ ↦ Studio.note_withBody o) (fun _ ↦ ⟨rfl, rfl⟩)
    fun _ ↦ .of_records rfl

theorem failStep_isQuiet (label : Nat) (error : Fault) (times : Option Nat) :
    (failStep label error times).IsQuiet := by
  refine .get_bind (fun _ _ _ ↦ rfl) fun s ↦ ?_
  exact .ite (.bind (.modify (fun _ ↦ rfl) (fun _ ↦ rfl) (fun _ _ _ ↦ rfl) (fun _ ↦ ⟨rfl, rfl⟩)
    fun _ ↦ .of_records rfl) fun _ ↦ .throw _) (.pure _)

theorem propertyOf_isQuiet (id : SheetId) (p : Property) : (propertyOf id p).IsQuiet := by
  refine .of_sheets (fun s ↦ by cases p <;> rfl) (fun s i b ↦ ?_) (fun s ↦ ?_) (fun s ↦ ?_) fun s ↦ ?_
  · obtain ⟨c, hc⟩ := s.sheet_withBody i b id
    rw [propertyOf, on_bind_ok (on_sheet _ _), on_bind_ok (on_sheet _ _), hc]
    cases p <;> rfl
  · cases p <;> exact .refl s
  · cases p <;> exact .refl s
  · cases p <;> exact .refl s

theorem noted_composed {m : Activation → Build Outcome} (hm : Composed p m) :
    Composed p fun activate ↦ noted (m activate) := by
  refine .bind (.outcome hm) fun r ↦ ?_
  cases r with
  | ok o => exact .quiet (note_isQuiet o)
  | error e => exact .bind (.quiet (note_isQuiet _)) fun _ ↦ .throw e

theorem Composed.requests {α : Type} {f : List Request → Activation → Build α}
    (hf : ∀ rs, Composed p (f rs)) :
    Composed p fun activate ↦ (get : Build Studio) >>= fun s ↦ f s.requests activate := by
  have hq : (do return (← get).requests : Build (List Request)).IsQuiet :=
    .get_bind (fun _ _ _ ↦ rfl) fun _ ↦ .pure _
  have h := Composed.bind (.quiet hq) hf
  exact h

theorem withRequests_composed {α : Type} {m : Activation → Build α} (hm : Composed p m) :
    Composed p fun activate ↦ withRequests (m activate) := by
  have hset (rs : List Request) : (modify fun s ↦ { s with requests := rs } : Build Unit).IsQuiet :=
    .modify (fun _ ↦ rfl) (fun _ ↦ rfl) (fun _ _ _ ↦ rfl) (fun _ ↦ ⟨rfl, rfl⟩) fun _ ↦ .of_records rfl
  have hrun (outer : List Request) : Composed p fun activate ↦ do
      modify fun s ↦ { s with requests := [] }
      let result ← Build.outcome (m activate)
      let requests := (← get).requests
      modify fun s ↦ { s with requests := outer }
      return (result, requests) :=
    .bind (.quiet (hset [])) fun _ ↦ .bind (.outcome hm) fun _ ↦
      .quiet (.get_bind (fun _ _ _ ↦ rfl) fun _ ↦ .bind (hset outer) fun _ ↦ .pure _)
  exact .requests hrun

theorem getStep_composed (argument : Value) (on : Receiver) (name : String) :
    Composed p fun _ ↦ getStep argument on name := by
  refine .bind (.quiet (receiver_isQuiet argument on)) fun target ↦ .bind (.ofExcept _) fun found ↦ ?_
  cases found with
  | property p => exact .quiet (.bind (sheetOf_isQuiet target) fun id ↦ propertyOf_isQuiet id p)
  | method m first =>
    let after (x : String) : Build Outcome := return .object (Attribute.shownMethod m first x)
    exact .shown target after fun _ ↦ .pure _

theorem callStep_composed (argument : Value) (on : Receiver) (name : String) (args : List Expr)
    (named : List (String × Expr)) (bind : Option String) :
    Composed True fun activate ↦ callStep activate argument on name args named bind := by
  refine .bind (.quiet (resolve_isQuiet argument on name args named)) fun (id, call) ↦ ?_
  refine .bind (perform_composed id call fun _ _ _ ↦ trivial) fun v ↦ ?_
  cases bind with
  | none => exact .pure _
  | some n => exact .bind (.quiet (bindName_isQuiet n v)) fun _ ↦ .pure _

theorem cssStep_composed (argument : Value) (on : Receiver) (includes compress : Option Expr)
    (result : Expr) (error : Option Fault) :
    Composed p fun activate ↦ cssStep activate argument on includes compress result error := by
  refine .bind (.quiet (receiver_isQuiet argument on)) fun target ↦ ?_
  refine .bind (.quiet (evalOr_isQuiet argument _ includes)) fun includes ↦ ?_
  refine .bind (.quiet (evalOr_isQuiet argument _ compress)) fun compress ↦ ?_
  refine .bind (.quiet (eval_isQuiet argument result)) fun result ↦ ?_
  cases target with
  | sheet id =>
    refine .bind (withRequests_composed (css_composed id _ _ (Engine.fixed_isComposed result error)))
      fun (r, requests) ↦ ?_
    cases r with
    | ok css => exact .pure _
    | error e =>
      exact .ite (.bind (.quiet (note_isQuiet _)) fun _ ↦ .throw e) (.throw e)
  | context i id => exact .bind (.ofExcept _) fun _ ↦ .bind (.ofExcept _) fun _ ↦ .pure _
  | _ => exact .throw _

mutual

theorem runStep_composed (argument : Value) : (step : Step) →
    Composed True fun activate ↦ runStep activate argument step
  | .call on name args named bind => noted_composed (callStep_composed argument on name args named bind)
  | .get on name => noted_composed (getStep_composed argument on name)
  | .has on _ => noted_composed (.bind (.quiet (receiver_isQuiet argument on)) fun _ ↦ .pure _)
  | .text on => noted_composed (.bind (.quiet (receiver_isQuiet argument on)) fun v ↦
      .bind (text_composed v) fun _ ↦ .pure _)
  | .shown on => noted_composed (.bind (.quiet (receiver_isQuiet argument on)) fun v ↦
      .bind (.quiet (shown_isQuiet v)) fun _ ↦ .pure _)
  | .bind name value => noted_composed (.bind (.quiet (eval_isQuiet argument value)) fun v ↦
      .bind (.quiet (bindName_isQuiet name v)) fun _ ↦ .pure _)
  | .fail label error times => noted_composed (.bind (.quiet (failStep_isQuiet label error times))
      fun _ ↦ .pure _)
  | .misuse _ => noted_composed (.throw _)
  | .attempt steps => .bind (.outcome (runSteps_composed argument steps)) fun r ↦ by
      cases r with
      | ok u => exact .quiet (note_isQuiet _)
      | error e => exact .quiet (note_isQuiet _)
  | .css on includes compress result error =>
    noted_composed (cssStep_composed argument on includes compress result error)

theorem runSteps_composed (argument : Value) : (steps : List Step) →
    Composed True fun activate ↦ runSteps activate argument steps
  | [] => .pure _
  | step :: rest => .bind (runStep_composed argument step) fun _ ↦ runSteps_composed argument rest

end

end Builder

end Stylesheet

import Stylesheet.Proofs.Finished
import Stylesheet.Proofs.Includes

namespace Stylesheet

open Build

namespace Engine

/-- An engine's name, if it is there without further work. -/
def IsNamed (engine : Engine) (name : String) : Prop := ∀ s, engine.name.on s = (.ok name, s)

def begun (name source : String) (style : Style) (s : Studio) : Studio :=
  s.record (.plain "py2sass.compiler" Log.debug ("Compiling " ++ Number.intText source.length ++
    " characters with " ++ name ++ " (" ++ style.text ++ ")"))

def ended (size : Nat) (s : Studio) : Studio :=
  s.record (.plain "py2sass.compiler" Log.debug
    ("Compiled stylesheet (" ++ Number.intText size ++ " characters)"))

/-- What a compilation comes to when the engine is asked once. Its error is the error, and its result
is the result if this has a size, as every text has. -/
def compiled (engine : Engine) (name source : String) (style : Style) (s : Studio) :
    Except Fault Value × Studio :=
  match (engine.compile source style).on (begun name source style s) with
  | (.error e, t) => (.error e, t)
  | (.ok css, t) =>
    match css.size? with
    | some size => (.ok css, ended size t)
    | none => (.error css.notSized, t)

theorem fixed_isNamed (result : Value) (error : Option Fault) :
    (fixed result error).IsNamed "recorder" := fun _ ↦ rfl

theorem installed_isNamed (paths : List Value) (precision : Value) :
    (installed paths precision).IsNamed "libsass" := fun _ ↦ rfl

variable {engine : Engine} {name source : String} {style : Style} {s t : Studio} {T : String}
  {id : SheetId}

theorem compiled_error {e : Fault}
    (h : (engine.compile source style).on (begun name source style s) = (.error e, t)) :
    engine.compiled name source style s = (.error e, t) := by
  rw [compiled, h]

theorem compiled_ok {css : Value} {size : Nat}
    (h : (engine.compile source style).on (begun name source style s) = (.ok css, t))
    (hsize : css.size? = some size) :
    engine.compiled name source style s = (.ok css, ended size t) := by
  rw [compiled, h]
  simp only [hsize]

theorem compiled_unsized {css : Value}
    (h : (engine.compile source style).on (begun name source style s) = (.ok css, t))
    (hsize : css.size? = none) :
    engine.compiled name source style s = (.error css.notSized, t) := by
  rw [compiled, h]
  simp only [hsize]

theorem installed_compiled {paths : List Value} {precision : Value} {css : String}
    (he : s.compiler.error = none) (hc : s.compiler.result = .text css) :
    (installed paths precision).compiled "libsass" source style s = (.ok (.text css),
      ended css.length { begun "libsass" source style s with
        requests := s.requests ++ [.full source style paths precision] }) := by
  have h : ((installed paths precision).compile source style).on (begun "libsass" source style s) =
      (answer s.compiler.result s.compiler.error).on { begun "libsass" source style s with
        requests := s.requests ++ [.full source style paths precision] } := rfl
  rw [he, hc] at h
  exact compiled_ok h rfl

theorem compiled_develops (ho : (engine.compile source style).IsOrderly) :
    s.Develops (engine.compiled name source style s).2 := by
  have hstart : s.Develops (begun name source style s) := .of_sheets rfl
  have hend := hstart.trans (ho _)
  rcases h : (engine.compile source style).on (begun name source style s) with ⟨e | css, t⟩ <;>
    rw [h] at hend
  · rw [compiled_error h]
    exact hend
  · rcases hsize : css.size? with _ | size
    · rw [compiled_unsized h hsize]
      exact hend
    · rw [compiled_ok h hsize]
      exact hend.trans (.of_sheets rfl)

theorem requests_compiled (result : Value) (error : Option Fault) :
    ((fixed result error).compiled name source style s).2.requests =
      s.requests ++ [.bare source style] := by
  let asked : Studio := { begun name source style s with requests := s.requests ++ [.bare source style] }
  cases error with
  | some e => rfl
  | none =>
    have h : ((fixed result none).compile source style).on (begun name source style s) =
        (.ok result, asked) := rfl
    rcases hsize : result.size? with _ | size
    · rw [compiled_unsized h hsize]
    · rw [compiled_ok h hsize]
      rfl

end Engine

namespace Builder

open Include

variable {activate : Activation} {id : SheetId} {s t u v : Studio} {T : String}
  {includes compress : Value} {engine : Engine} {e : Fault}

theorem on_css_render_error (h : (render activate id).on s = (.error e, t)) :
    (css activate id includes compress engine).on s = (.error e, t) := by
  rw [css, on_bind_error h]

theorem on_job_include_error {j : Compiler.Job} {before after : List Value} {item : Value}
    {texts : List String} (hi : itemsOf j.includes = before ++ item :: after)
    (hr : Resolves activate before s texts t) (he : (Include.resolve activate item).on t = (.error e, u)) :
    (j.run activate).on s = (.error e.inIteration, u) := by
  rw [Compiler.Job.run, Compiler.Job.source, on_bind_error (on_bind_error (hr.on_process_error hi he))]

theorem on_css_include_error {before after : List Value} {item : Value} {texts : List String}
    (h : (render activate id).on s = (.ok T, t))
    (hi : itemsOf includes = before ++ item :: after) (hr : Resolves activate before t texts u)
    (he : (Include.resolve activate item).on u = (.error e, v)) :
    (css activate id includes compress engine).on s = (.error e.inIteration, v) := by
  rw [css, on_bind_ok h]
  let j : Compiler.Job := ⟨T, includes, compress, engine⟩
  have hj : itemsOf j.includes = before ++ item :: after := hi
  exact on_job_include_error hj hr he

theorem on_source {j : Compiler.Job} {texts : List String}
    (hr : Resolves activate (itemsOf j.includes) s texts t) :
    (j.source activate).on s = (.ok (joined texts ++ j.document), t) := by
  rw [Compiler.Job.source, on_bind_ok hr.on_process]
  rfl

theorem on_job {j : Compiler.Job} {texts : List String} {name : String} (hn : j.engine.IsNamed name)
    (hr : Resolves activate (itemsOf j.includes) s texts t) :
    (j.run activate).on s = j.engine.compiled name (joined texts ++ j.document) j.style t := by
  rw [Compiler.Job.run, on_bind_ok (on_source hr), on_bind_ok (hn t), on_bind_ok (on_log _ _ _)]
  rcases hc : (j.engine.compile (joined texts ++ j.document) j.style).on
    (Engine.begun name (joined texts ++ j.document) j.style t) with ⟨e | css, u⟩
  · rw [Engine.compiled_error hc]
    exact on_bind_error hc
  · refine (on_bind_ok hc).trans ?_
    rcases hsize : css.size? with _ | size
    · rw [Engine.compiled_unsized hc hsize]
      rfl
    · rw [Engine.compiled_ok hc hsize]
      rfl

theorem on_css {texts : List String} {name : String} (hn : engine.IsNamed name)
    (h : (render activate id).on s = (.ok T, t)) (hr : Resolves activate (itemsOf includes) t texts u) :
    (css activate id includes compress engine).on s =
      engine.compiled name (joined texts ++ T) (.ofCompress compress.isTruthy) u := by
  rw [css, on_bind_ok h]
  let j : Compiler.Job := ⟨T, includes, compress, engine⟩
  have hnamed : j.engine.IsNamed name := hn
  exact on_job hnamed hr

theorem requests_css {texts : List String} (h : (render activate id).on s = (.ok T, t))
    (hr : Resolves activate (itemsOf includes) t texts u) (result : Value) (error : Option Fault) :
    ((css activate id includes compress (.fixed result error)).on s).2.requests =
      u.requests ++ [.bare (joined texts ++ T) (.ofCompress compress.isTruthy)] := by
  rw [on_css (Engine.fixed_isNamed result error) h hr, Engine.requests_compiled]

section

variable {limit : Nat} {name : String} (hn : engine.IsNamed name)
  (ho : ∀ source style, (engine.compile source style).IsOrderly)
  (h : (render (runBodyWithin limit) id).on s = (.ok T, t))

include hn ho h

theorem css_develops :
    t.Develops ((css (runBodyWithin limit) id includes compress engine).on s).2 := by
  have ha := runBodyWithin_isOrderly limit
  rcases resolves_or_fails (runBodyWithin limit) (itemsOf includes) t with
    ⟨texts, u, hr⟩ | ⟨before, item, after, texts, u, e, w, hi, hr, he⟩
  · rw [on_css hn h hr]
    exact (hr.develops ha).trans (Engine.compiled_develops (ho _ _))
  · rw [on_css_include_error h hi hr he]
    exact (hr.develops ha).trans (((resolve_composed item).isOrderly ha).develops he)

/-- The text is final in all that follows a compilation, and the next one is asked for the same text. -/
theorem css_after_css (hv : ((css (runBodyWithin limit) id includes compress engine).on s).2.Develops v) :
    (v.sheet id).output = some T ∧ (render (runBodyWithin limit) id).on v = (.ok T, v) ∧
    ∀ includes' compress' texts w, Resolves (runBodyWithin limit) (itemsOf includes') v texts w →
      ∀ engine' name', engine'.IsNamed name' →
        (css (runBodyWithin limit) id includes' compress' engine').on v = engine'.compiled name'
          (joined texts ++ T) (.ofCompress compress'.isTruthy) w := by
  have hT : (v.sheet id).output = some T := by
    have ht := output_of_render (runBodyWithin_isOrderly limit) h
    rwa [((css_develops hn ho h).trans hv).sheet_eq ht]
  have hrender := on_render_finished (runBodyWithin limit) hT
  refine ⟨hT, hrender, ?_⟩
  intro includes' compress' texts w hr engine' name' hn'
  exact on_css hn' hrender hr

end

/-- Compiling a sheet builds its text, resolves the includes and asks the engine, in this order. If the
text fails, no include is resolved and no engine is asked; if an item fails, no engine is asked, and the
error is that of the first such item, as it comes out of an iteration. Otherwise the engine is asked
once for the includes and the text. The text is final in all that may follow, and every later
compilation has it at its end. -/
theorem compilation_in_order (limit : Nat) (s : Studio) (id : SheetId) (includes compress : Value) :
    let activate := runBodyWithin limit
    (∀ e t, (render activate id).on s = (.error e, t) →
      ∀ engine, (css activate id includes compress engine).on s = (.error e, t)) ∧
    ∀ T t, (render activate id).on s = (.ok T, t) →
      (∀ before item after texts u e v, itemsOf includes = before ++ item :: after →
        Resolves activate before t texts u → (Include.resolve activate item).on u = (.error e, v) →
        ∀ engine, (css activate id includes compress engine).on s = (.error e.inIteration, v)) ∧
      (∀ texts u, Resolves activate (itemsOf includes) t texts u →
        let source := joined texts ++ T
        let style := Style.ofCompress compress.isTruthy
        (∀ engine name, engine.IsNamed name →
          (css activate id includes compress engine).on s = engine.compiled name source style u) ∧
        ∀ result error,
          ((css activate id includes compress (.fixed result error)).on s).2.requests =
            u.requests ++ [.bare source style]) ∧
      ((∃ texts u, Resolves activate (itemsOf includes) t texts u) ∨
        ∃ before item after texts u e v, itemsOf includes = before ++ item :: after ∧
          Resolves activate before t texts u ∧ (Include.resolve activate item).on u = (.error e, v)) ∧
      ∀ engine name, engine.IsNamed name → (∀ source style, (engine.compile source style).IsOrderly) →
        ∀ v, ((css activate id includes compress engine).on s).2.Develops v →
          (v.sheet id).output = some T ∧ (render activate id).on v = (.ok T, v) ∧
          ∀ includes' compress' texts w, Resolves activate (itemsOf includes') v texts w →
            ∀ engine' name', engine'.IsNamed name' →
              (css activate id includes' compress' engine').on v = engine'.compiled name'
                (joined texts ++ T) (.ofCompress compress'.isTruthy) w := by
  refine ⟨fun e t h engine ↦ on_css_render_error h, fun T t h ↦ ⟨?_, ?_, ?_, ?_⟩⟩
  · intro before item after texts u e v hi hr he engine
    exact on_css_include_error h hi hr he
  · intro texts u hr
    exact ⟨fun engine name hn ↦ on_css hn h hr, requests_css h hr⟩
  · exact resolves_or_fails (runBodyWithin limit) (itemsOf includes) t
  · intro engine name hn ho v hv
    exact css_after_css hn ho h hv

/-- A sheet that has nothing to do but to write. -/
def lettered : Studio :=
  Studio.withRoot {} (some { steps := [.call .argument "raw" [.atom (.text "a")] [] none] })

theorem lettered_compilation :
    ∃ t, (render (runBodyWithin 1) 0).on lettered = (.ok "a", t) ∧
      Resolves (runBodyWithin 1) [.text "b"] t ["b"] t ∧
      (Engine.fixed (.text "c") none).IsNamed "recorder" ∧
      let r := (css (runBodyWithin 1) 0 (.list [.text "b"]) (.bool true) (.fixed (.text "c") none)).on
        lettered
      r = (Engine.fixed (.text "c") none).compiled "recorder" "b\na" .compressed t ∧
      r.2.requests = [.bare "b\na" .compressed] ∧ (r.2.sheet 0).output = some "a" := by
  have hrender : (render (runBodyWithin 1) 0).on lettered = (.ok "a", _) := rfl
  have hb : (Include.resolve (runBodyWithin 1) (.text "b")).on
      ((render (runBodyWithin 1) 0).on lettered).2 = (.ok "b", _) := rfl
  have hr := Resolves.cons hb (.nil _)
  have hn := Engine.fixed_isNamed (.text "c") none
  have ho (source : String) (style : Style) :
      ((Engine.fixed (.text "c") none).compile source style).IsOrderly :=
    ((Engine.fixed_isComposed (.text "c") none).compile source style).isOrderly
      (runBodyWithin_isOrderly 1)
  obtain ⟨-, hall⟩ := compilation_in_order 1 lettered 0 (.list [.text "b"]) (.bool true)
  obtain ⟨-, hcompiled, -, hlater⟩ := hall _ _ hrender
  obtain ⟨hengine, hrequests⟩ := hcompiled _ _ hr
  exact ⟨_, hrender, hr, hn, hengine _ _ hn, hrequests _ _, (hlater _ _ hn ho _ (.refl _)).1⟩

def exhausted : Studio :=
  { sheets := [{}, { body := some { steps := [.fail 0 (.asked "StopIteration" (some "x")) none] } }] }

/-- What the engine gives need not be the result: what has no size is refused. And the error of an item
need not be that of the compilation: an iteration reports its own end that is asked for inside it as
another error. -/
theorem results_and_errors_are_replaced :
    (¬ ∀ (s t u : Studio) (includes result : Value) (texts : List String) (T : String),
      (render (runBodyWithin 1) 0).on s = (.ok T, t) →
      Resolves (runBodyWithin 1) (itemsOf includes) t texts u →
      ((css (runBodyWithin 1) 0 includes (.bool false) (.fixed result none)).on s).1 = .ok result) ∧
    ¬ ∀ (s t u v : Studio) (includes item : Value) (before after : List Value) (texts : List String)
      (T : String) (e : Fault), (render (runBodyWithin 1) 0).on s = (.ok T, t) →
      itemsOf includes = before ++ item :: after → Resolves (runBodyWithin 1) before t texts u →
      (Include.resolve (runBodyWithin 1) item).on u = (.error e, v) →
      ∀ engine, (css (runBodyWithin 1) 0 includes (.bool false) engine).on s = (.error e, v) := by
  have hrender : (render (runBodyWithin 1) 0).on exhausted = (.ok "", _) := rfl
  refine ⟨fun hall ↦ ?_, fun hall ↦ ?_⟩
  · cases hall exhausted _ _ .none (.int 5) [] _ hrender (.nil _)
  · have he : (Include.resolve (runBodyWithin 1) (.reader 0 (.sheet 1))).on
        ((render (runBodyWithin 1) 0).on exhausted).2 =
          (.error (.asked "StopIteration" (some "x")), _) := rfl
    have h := hall exhausted _ _ _ (.list [.reader 0 (.sheet 1)]) _ [] [] [] _ _ hrender rfl (.nil _) he
      (.fixed .none none)
    cases congrArg Prod.fst h

end Builder

end Stylesheet

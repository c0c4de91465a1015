import Mathlib
import Stylesheet.Command.Run
import Stylesheet.Proofs.Acts
import Stylesheet.Proofs.Arguments
import Stylesheet.Proofs.Compilation
import Stylesheet.Proofs.Configuration
import Stylesheet.Proofs.Files

namespace Stylesheet

namespace Text

theorem length_afterControl? {cs after : List Char} (h : afterControl? cs = some after) :
    after.length < cs.length := by
  unfold afterControl? at h
  split at h
  · next rest =>
    split at h
    · next c rest' hdrop =>
      have hle : (rest.dropWhile isParameter).length ≤ rest.length :=
        (List.dropWhile_suffix _).length_le
      rw [hdrop] at hle
      split at h
      · cases h
        simp only [List.length_cons] at hle ⊢
        omega
      · cases h
    · cases h
  · cases h

theorem length_go_le (n : Nat) (cs : List Char) : (withoutControls.go n cs).length ≤ cs.length := by
  induction n generalizing cs with
  | zero => exact Nat.le_refl _
  | succ n ih =>
    cases cs with
    | nil => exact Nat.le_refl _
    | cons c rest =>
      rw [withoutControls.go]
      split
      · next after h => exact Nat.le_trans (ih after) (Nat.le_of_lt (length_afterControl? h))
      · exact Nat.succ_le_succ (ih rest)

theorem go_eq_self {n : Nat} {cs : List Char} (hn : cs.length ≤ n) :
    withoutControls.go n cs = cs ↔ ∀ tail, tail <:+ cs → afterControl? tail = none := by
  induction n generalizing cs with
  | zero =>
    obtain rfl : cs = [] := List.length_eq_zero_iff.1 (Nat.le_zero.1 hn)
    simp [withoutControls.go, afterControl?]
  | succ n ih =>
    cases cs with
    | nil => simp [withoutControls.go, afterControl?]
    | cons c rest =>
      rw [withoutControls.go]
      split
      · next after h =>
        constructor
        · intro hgo
          -- What is left when a sequence is removed is too short to be the whole.
          have hlt := Nat.lt_of_le_of_lt (length_go_le n after) (length_afterControl? h)
          rw [hgo] at hlt
          exact absurd hlt (Nat.lt_irrefl _)
        · intro hall
          rw [hall _ (List.suffix_refl _)] at h
          cases h
      · next h =>
        rw [List.cons.injEq, ih (Nat.le_of_succ_le_succ hn)]
        simp only [List.suffix_cons_iff, forall_eq_or_imp, h, true_and]

theorem withoutControls_eq_self (s : String) :
    withoutControls s = s ↔ ∀ tail, tail <:+ s.toList → afterControl? tail = none := by
  rw [← go_eq_self (Nat.le_of_eq s.length_toList), withoutControls]
  constructor
  · intro h
    simpa using congrArg String.toList h
  · intro h
    rw [h, String.ofList_toList]

end Text

namespace Command

open Build Builder Include

open Command.Act

variable {s t : Studio}

theorem on_standing {argument : String}
    (h : s.files.find (Path.ofString argument).toString ≠ .error .nulInName) :
    ∃ node?, (standing argument).on s = (.ok (Path.ofString argument, node?), s) ∧
      ∀ n, node? = some n → s.files.find (Path.ofString argument).toString = .ok n := by
  rw [standing, Act.on_bind_ok (on_get s)]
  rcases hf : s.files.find (Path.ofString argument).toString with e | n
  · cases e with
    | nulInName => exact absurd hf h
    | _ => exact ⟨none, rfl, nofun⟩
  · exact ⟨some n, rfl, fun _ hn ↦ congrArg Except.ok (Option.some.inj hn)⟩

theorem on_standing_nul {argument : String}
    (h : s.files.find (Path.ofString argument).toString = .error .nulInName) :
    (standing argument).on s = (.error { ending := .misused }, s) := by
  rw [standing, Act.on_bind_ok (on_get s), h]
  rfl

theorem on_standing_found {argument : String} {n : Files.Node}
    (h : s.files.find (Path.ofString argument).toString = .ok n) :
    (standing argument).on s = (.ok (Path.ofString argument, some n), s) := by
  rw [standing, Act.on_bind_ok (on_get s), h]
  rfl

theorem on_requireFile {argument : String} {bytes : ByteArray}
    (h : s.files.find (Path.ofString argument).toString = .ok (.file bytes)) :
    (requireFile argument).on s = (.ok (Path.ofString argument), s) := by
  rw [requireFile, Act.on_bind_ok (on_standing_found h)]
  rfl

theorem file_of_load {path : Path} {entry : String} {id : SheetId}
    (h : (Script.load path entry).on s = (.ok id, t)) :
    ∃ bytes, s.files.find path.toString = .ok (.file bytes) := by
  rw [Script.load, Build.on_bind_ok (Build.on_get s), Files.Tree.seek] at h
  rcases hf : s.files.find path.toString with e | n
  · rw [hf] at h
    cases e <;> cases h
  · rw [hf] at h
    cases n with
    | file bytes => exact ⟨bytes, rfl⟩
    | folder => cases h

theorem file_of_loadConfig {files : Files.Tree} {env : Environment} {path : Path} {c : Config}
    (h : Config.load files env (some path) true = .ok c) :
    ∃ bytes, files.find path.toString = .ok (.file bytes) := by
  rw [Config.load] at h
  obtain ⟨source, hs, h⟩ := Fault.of_bind_ok h
  rw [Config.sourceOf] at hs
  obtain ⟨_ | _, -, hs⟩ := Fault.of_bind_ok hs <;> cases hs
  change Config.ofFile files env path = .ok c at h
  rw [Config.ofFile] at h
  obtain ⟨pieces, hp, -⟩ := Fault.of_bind_ok h
  rw [Files.Tree.readPieces] at hp
  rcases hr : files.read path.toString with e | bytes
  · rw [hr] at hp
    cases hp
  · exact ⟨bytes, Files.Tree.find_of_read hr⟩

namespace BuildOptions

variable {o : BuildOptions} {c : Config} {content : String} {path : Path} {files : Files.Tree}

theorem destination_option {a : String} (ho : o.output = some a) :
    o.destination c = .ok (some (Path.ofString a)) := by simp only [destination, ho]

theorem destination_path {a : String} (ho : o.output = none) (hp : c.outputPath = .text a) :
    o.destination c = .ok (if a = "" then none else some (Path.ofString a)) := by
  simp only [destination, ho, hp]

theorem destination_none (ho : o.output = none) (hp : c.outputPath = .none) :
    o.destination c = .ok none := by
  simp only [destination, ho, hp]
  rfl

theorem on_deliver_printed (hd : o.destination c = .ok none) :
    (o.deliver c (.text content)).on s = (.ok (Text.withoutControls content), s) := by
  rw [deliver, hd, Act.on_bind_ok (Act.on_ofExcept _ s)]
  rfl

/-- A studio in which content has been written to a file. -/
def written (o : BuildOptions) (path : Path) (content : String) (files : Files.Tree) (s : Studio) :
    Studio :=
  { s with files := files }.record (writtenRecord (if o.sassOnly then "SCSS" else "CSS") path content)

theorem on_deliver_written (hd : o.destination c = .ok (some path))
    (hw : writeBelow s.files path content = .ok files) :
    (o.deliver c (.text content)).on s = (.ok "", o.written path content files s) := by
  rw [deliver, hd, Act.on_bind_ok (Act.on_ofExcept _ s)]
  change (do
    let files ← Act.ofExcept (writeBelow (← get).files path content)
    modify fun s ↦ { s with files }
    Act.log (writtenRecord (if o.sassOnly then "SCSS" else "CSS") path content)
    return "" : Act String).on s = _
  rw [Act.on_bind_ok (Act.on_get s), hw, Act.on_bind_ok (Act.on_ofExcept _ s)]
  rfl

theorem style_job (script : Path) (T : String) :
    (o.job files c script T).style = .ofCompress (o.compress.getD c.compile.compress.isTruthy) := by
  cases h : o.compress <;> simp [Compiler.Job.style, job, h, Value.isTruthy]

theorem on_job_compiled {activate : Activation} {texts : List String} (files : Files.Tree)
    (script : Path) (T : String)
    (h : Resolves activate (c.compile.includes ++ o.includes.map .text) s texts t) :
    ((o.job files c script T).run activate).on s =
      (Engine.installed (includePaths files c script) c.compile.precision).compiled "libsass"
        (joined texts ++ T) (.ofCompress (o.compress.getD c.compile.compress.isTruthy)) t := by
  rw [← style_job script T]
  exact Builder.on_job (Engine.installed_isNamed _ _) h

theorem on_job {activate : Activation} {css : String} {texts : List String} (files : Files.Tree)
    (script : Path) (T : String)
    (h : Resolves activate (c.compile.includes ++ o.includes.map .text) s texts t)
    (he : t.compiler.error = none) (hc : t.compiler.result = .text css) :
    ∃ u, ((o.job files c script T).run activate).on s = (.ok (.text css), u) ∧ t.SameWorld u ∧
      u.requests = t.requests ++ [.full (joined texts ++ T)
        (.ofCompress (o.compress.getD c.compile.compress.isTruthy)) (includePaths files c script)
        c.compile.precision] := by
  rw [on_job_compiled files script T h, Engine.installed_compiled he hc]
  exact ⟨_, rfl, ⟨rfl, rfl⟩, rfl⟩

def makeFrom (o : BuildOptions) (c : Config) (script : Path) (document : String) : Act Value :=
  if o.sassOnly then pure (.text document)
  else do
    let files := (← get).files
    Act.stage ((o.job files c script document).run Builder.activate) compileReport

def make (o : BuildOptions) (c : Config) : Act Value := do
  let script ← requireFile o.script
  if let some path := o.output then
    let _ ← standing path
  let sheet ← Act.stage (Script.load script Script.entryName) loadReport
  let document ← Act.stage (Builder.render Builder.activate sheet) renderReport
  o.makeFrom c script document

theorem perform_eq (o : BuildOptions) (c : Config) : o.perform c = o.make c >>= o.deliver c := by
  unfold perform make makeFrom
  simp only [bind_assoc]
  cases o.output <;> cases o.sassOnly <;> simp

/-- The script is there, and the output may be. -/
structure CanStart (o : BuildOptions) (s : Studio) : Prop where
  script : ∃ bytes, s.files.find (Path.ofString o.script).toString = .ok (.file bytes)
  output : ∀ a, o.output = some a → s.files.find (Path.ofString a).toString ≠ .error .nulInName

theorem on_make (h : o.CanStart s) (c : Config) :
    (o.make c).on s = (do
      let sheet ← Act.stage (Script.load (Path.ofString o.script) Script.entryName) loadReport
      let document ← Act.stage (Builder.render Builder.activate sheet) renderReport
      o.makeFrom c (Path.ofString o.script) document : Act Value).on s := by
  obtain ⟨bytes, hfile⟩ := h.script
  rw [make, Act.on_bind_ok (on_requireFile hfile)]
  rcases ho : o.output with _ | a
  · rfl
  · obtain ⟨node?, hstanding, -⟩ := on_standing (h.output a ho)
    exact Act.on_bind_ok hstanding

theorem on_make_rendered {id : SheetId} {T : String} {u : Studio} (h : o.CanStart s)
    (hl : (Script.load (Path.ofString o.script) Script.entryName).on s = (.ok id, t))
    (hr : (Builder.render Builder.activate id).on t = (.ok T, u)) :
    (o.make c).on s = (o.makeFrom c (Path.ofString o.script) T).on u := by
  rw [on_make h, Act.on_bind_ok (on_stage_ok hl), Act.on_bind_ok (on_stage_ok hr)]

theorem on_makeFrom_sass {script : Path} {T : String} (hs : o.sassOnly = true) (s : Studio) :
    (o.makeFrom c script T).on s = (.ok (.text T), s) := by
  rw [makeFrom, if_pos hs]
  rfl

theorem on_makeFrom_css {script : Path} {T : String} (hs : o.sassOnly = false) (s : Studio) :
    (o.makeFrom c script T).on s =
      (Act.stage ((o.job s.files c script T).run Builder.activate) compileReport).on s := by
  rw [makeFrom, hs]
  exact Act.on_bind_ok (Act.on_get s)

theorem canStart {id : SheetId}
    (hout : ∀ a, o.output = some a → s.files.find (Path.ofString a).toString ≠ .error .nulInName)
    (hl : (Script.load (Path.ofString o.script) Script.entryName).on s = (.ok id, t)) :
    o.CanStart s := ⟨file_of_load hl, hout⟩

theorem on_perform_sass {id : SheetId} {T : String} {u : Studio}
    (hout : ∀ a, o.output = some a → s.files.find (Path.ofString a).toString ≠ .error .nulInName)
    (hl : (Script.load (Path.ofString o.script) Script.entryName).on s = (.ok id, t))
    (hr : (Builder.render Builder.activate id).on t = (.ok T, u)) (hs : o.sassOnly = true) :
    (o.perform c).on s = (o.deliver c (.text T)).on u := by
  rw [perform_eq]
  apply Act.on_bind_ok
  rw [on_make_rendered (canStart hout hl) hl hr, on_makeFrom_sass hs]

theorem on_perform_css {id : SheetId} {T : String} {u v : Studio} {css : Value}
    (hout : ∀ a, o.output = some a → s.files.find (Path.ofString a).toString ≠ .error .nulInName)
    (hl : (Script.load (Path.ofString o.script) Script.entryName).on s = (.ok id, t))
    (hr : (Builder.render Builder.activate id).on t = (.ok T, u)) (hs : o.sassOnly = false)
    (hj : ((o.job u.files c (Path.ofString o.script) T).run Builder.activate).on u = (.ok css, v)) :
    (o.perform c).on s = (o.deliver c css).on v := by
  rw [perform_eq]
  apply Act.on_bind_ok
  rw [on_make_rendered (canStart hout hl) hl hr, on_makeFrom_css hs]
  exact on_stage_ok hj

end BuildOptions

def World.configured (w : World) (c : Config) : Studio :=
  match c.source with
  | some path =>
    w.studio.record (.plain Log.mainLogger Log.debug ("Loaded config from: " ++ path.toString))
  | none => w.studio

/-- A command line that asks for a build, and the configuration that is loaded for it. -/
structure AsksFor (w : World) (args : List String) (i : Invocation) (o : BuildOptions) (c : Config) :
    Prop where
  invocation : Invocation.ofArguments args = .run i
  task : i.task = some "build"
  options : Task.ofArguments "build" i.arguments = .run (.build o)
  config : Config.load w.files w.environment (i.config.map Path.ofString) true = .ok c

section

variable {w : World} {args : List String} {i : Invocation} {o : BuildOptions} {c : Config}

theorem asksFor_arguments (o : BuildOptions)
    (h : Config.load w.files w.environment none true = .ok c) :
    AsksFor w ("build" :: o.arguments) { task := some "build", arguments := o.arguments } o c where
  invocation := ofArguments_task (by decide +kernel) (by decide)
  task := rfl
  options := o.ofArguments_arguments
  config := h

theorem configured_sameWorld (w : World) (c : Config) : w.studio.SameWorld (w.configured c) := by
  rw [World.configured]
  split
  · exact ⟨rfl, rfl⟩
  · exact .refl _

theorem AsksFor.items_isWritten (ha : AsksFor w args i o c) :
    ∀ v ∈ c.compile.includes ++ o.includes.map .text, v.IsWritten := by
  intro v hv
  rcases List.mem_append.1 hv with h | h
  · exact Config.load_isWritten ha.config v h
  · obtain ⟨name, -, rfl⟩ := List.mem_map.1 h
    exact .text name

theorem on_loadConfig {given : Option Path}
    (h : Config.load w.files w.environment given true = .ok c) :
    (loadConfig w.environment given).on w.studio = (.ok c, w.configured c) := by
  have hload : (Act.stage (Stylesheet.Build.ofExcept (Config.load w.studio.files w.environment given true))
      configReport).on w.studio = (.ok c, w.studio) := by
    refine on_stage_ok ?_
    rw [Build.on_ofExcept]
    exact congrArg (·, w.studio) h
  rw [loadConfig, Act.on_bind_ok (Act.on_get _), Act.on_bind_ok hload, World.configured]
  cases c.source with
  | none => rfl
  | some path => rfl

def Invocation.CanStart (i : Invocation) (w : World) : Prop :=
  ∀ path, i.config = some path → ∃ bytes, w.files.find (Path.ofString path).toString = .ok (.file bytes)

theorem canStart_of_load (h : Config.load w.files w.environment (i.config.map Path.ofString) true = .ok c) :
    i.CanStart w := by
  intro path hi
  rw [hi] at h
  exact file_of_loadConfig h

theorem AsksFor.canStart (ha : AsksFor w args i o c) : i.CanStart w := canStart_of_load ha.config

theorem on_perform_task {name : String} (hname : Task.names.contains name = true)
    (ht : i.task = some name) (hi : i.CanStart w) :
    (perform w.environment i).on w.studio = (do
      let c ← loadConfig w.environment (i.config.map Path.ofString)
      demanded (Task.ofArguments name i.arguments) (Task.perform c) : Act String).on w.studio := by
  rw [perform, ht]
  simp only [hname, if_true]
  rcases hconfig : i.config with _ | path
  · rfl
  · obtain ⟨bytes, hfile⟩ := hi path hconfig
    have hrequire : (requireFile path).on w.studio = (.ok (Path.ofString path), w.studio) :=
      on_requireFile hfile
    have hgiven : (some <$> requireFile path).on w.studio =
        (.ok (some (Path.ofString path)), w.studio) := by
      rw [map_eq_pure_bind, Act.on_bind_ok hrequire]
      rfl
    exact Act.on_bind_ok hgiven

theorem on_perform_build (ht : i.task = some "build") (hi : i.CanStart w) :
    (perform w.environment i).on w.studio = (do
      let c ← loadConfig w.environment (i.config.map Path.ofString)
      demanded (Task.ofArguments "build" i.arguments) (Task.perform c) : Act String).on w.studio :=
  on_perform_task rfl ht hi

theorem AsksFor.on_perform (ha : AsksFor w args i o c) :
    (perform w.environment i).on w.studio = (o.perform c).on (w.configured c) := by
  rw [on_perform_build ha.task ha.canStart, Act.on_bind_ok (on_loadConfig ha.config), ha.options]
  rfl

theorem run_of_ok (isTerminal : Bool) (hi : Invocation.ofArguments args = .run i) {printed : String}
    (h : (perform w.environment i).on w.studio = (.ok printed, t)) :
    run w isTerminal args =
      { ending := .done, printed, setup := .ofSwitches i.switches isTerminal, studio := t } := by
  have hrun : (demanded (.run i) (perform w.environment)).run.run w.studio = (.ok printed, t) := h
  rw [run, hi]
  simp only [hrun]
  rfl

theorem run_of_error (isTerminal : Bool) (hi : Invocation.ofArguments args = .run i) {halt : Stop}
    (h : (perform w.environment i).on w.studio = (.error halt, t)) :
    run w isTerminal args =
      { ending := halt.ending, printed := halt.printed, setup := .ofSwitches i.switches isTerminal,
        studio := t } := by
  have hrun : (demanded (.run i) (perform w.environment)).run.run w.studio = (.error halt, t) := h
  rw [run, hi]
  simp only [hrun]
  rfl

theorem run_of_perform (isTerminal : Bool) (ha : AsksFor w args i o c) {printed : String}
    (h : (o.perform c).on (w.configured c) = (.ok printed, t)) :
    run w isTerminal args =
      { ending := .done, printed, setup := .ofSwitches i.switches isTerminal, studio := t } :=
  run_of_ok isTerminal ha.invocation (ha.on_perform.trans h)

/-- What a build leaves whose content is there in a studio: it is printed, or it stands in the file that
the options or the configuration name, and nothing else has changed. Without a file, the same build
prints it. -/
structure Delivers (w : World) (o : BuildOptions) (c : Config) (content : String) (u : Studio)
    (r : Report) : Prop where
  printed : o.destination c = .ok none →
    r.ending = .done ∧ r.studio = u ∧ u.files = w.files ∧ r.printed = Text.withoutControls content
  written : ∀ path files, o.destination c = .ok (some path) →
    writeBelow w.files path content = .ok files →
    r.ending = .done ∧ r.studio = o.written path content files u ∧ r.printed = "" ∧
    files.read path.toString = .ok content.toUTF8 ∧
    ∃ l, files.locate path.toString = .ok l ∧ ∀ l', l' ≠ l →
      files.node? l' = w.files.node? l' ∨ w.files.node? l' = none ∧ files.node? l' = some .folder
  withoutOption : ∀ isTerminal args i, AsksFor w args i { o with output := none } c →
    { o with output := none }.destination c = .ok none →
    (run w isTerminal args).ending = .done ∧
    (run w isTerminal args).printed = Text.withoutControls content
  withoutPath : ({ o with output := none }.perform { c with outputPath := .none }).on
    (w.configured c) = (.ok (Text.withoutControls content), u)

def Makes (w : World) (o : BuildOptions) (c : Config) (content : String) (u : Studio) : Prop :=
  ∀ (output : Option String) (outputPath : Value),
    (∀ a, output = some a → w.files.find (Path.ofString a).toString ≠ .error .nulInName) →
    ({ o with output }.perform { c with outputPath }).on (w.configured c) =
      ({ o with output }.deliver { c with outputPath } (.text content)).on u

theorem Makes.delivers {content : String} {u : Studio} (h : Makes w o c content u)
    (ha : AsksFor w args i o c) (hw : w.studio.SameWorld u) (isTerminal : Bool) :
    Delivers w o c content u (run w isTerminal args) where
  printed hd := by
    have hnone : o.output = none := by
      rcases ho : o.output with _ | a
      · rfl
      · simp [BuildOptions.destination, ho] at hd
    have hperform := h o.output c.outputPath (by simp [hnone])
    rw [run_of_perform isTerminal ha (hperform.trans (BuildOptions.on_deliver_printed hd))]
    exact ⟨rfl, rfl, hw.files, rfl⟩
  written path files hd hf := by
    -- A file that can be written has no NUL in its name, for which the option would be refused.
    have hnul : ∀ a, o.output = some a →
        w.files.find (Path.ofString a).toString ≠ .error .nulInName := by
      intro a ho
      simp only [BuildOptions.destination, ho, Except.ok.injEq, Option.some.injEq] at hd
      obtain ⟨-, l, hl, -⟩ := of_writeBelow hf
      rw [hd]
      exact Files.Tree.find_ne_nul hl w.files
    have hwrite : writeBelow u.files path content = .ok files := by
      rw [hw.files]
      exact hf
    have hperform := h o.output c.outputPath hnul
    rw [run_of_perform isTerminal ha (hperform.trans (BuildOptions.on_deliver_written hd hwrite))]
    obtain ⟨hread, hother⟩ := of_writeBelow hf
    exact ⟨rfl, rfl, rfl, hread, hother⟩
  withoutOption isTerminal args i ha hd := by
    have hperform := h none c.outputPath (by simp)
    rw [run_of_perform isTerminal ha (hperform.trans (BuildOptions.on_deliver_printed hd))]
    exact ⟨rfl, rfl⟩
  withoutPath := (h none .none (by simp)).trans (BuildOptions.on_deliver_printed rfl)

section

variable {id : SheetId} {T : String}
  (hl : (Script.load (Path.ofString o.script) Script.entryName).on (w.configured c) = (.ok id, s))
  (hr : (Builder.render Builder.activate id).on s = (.ok T, t))

include hl hr

theorem makes_sass (hs : o.sassOnly = true) : Makes w o c T t := by
  intro output outputPath hout
  have hfiles : (w.configured c).files = w.files := (configured_sameWorld w c).files
  rw [← hfiles] at hout
  exact BuildOptions.on_perform_sass hout hl hr hs

theorem makes_css {u : Studio} {css : String} (hs : o.sassOnly = false)
    (hj : ((o.job t.files c (Path.ofString o.script) T).run Builder.activate).on t =
      (.ok (.text css), u)) : Makes w o c css u := by
  intro output outputPath hout
  have hfiles : (w.configured c).files = w.files := (configured_sameWorld w c).files
  rw [← hfiles] at hout
  exact BuildOptions.on_perform_css hout hl hr hs hj

theorem rendered_sameWorld : w.studio.SameWorld t :=
  ((configured_sameWorld w c).trans ((Script.load_keepsWorld _ _).same hl)).trans
    ((render_keepsWorld (runBodyWithin_keepsWorld deepest) id).same hr)

theorem document_delivers (ha : AsksFor w args i o c) (isTerminal : Bool) (hs : o.sassOnly = true) :
    Delivers w o c T t (run w isTerminal args) :=
  (makes_sass hl hr hs).delivers ha (rendered_sameWorld hl hr) isTerminal

theorem resolves_iff_standsFor (ha : AsksFor w args i o c) {texts : List String} :
    (∃ u, Resolves Builder.activate (c.compile.includes ++ o.includes.map .text) t texts u) ↔
      (c.compile.includes ++ o.includes.map Value.text).Forall₂ (StandsFor w.files) texts := by
  have hfiles : t.files = w.files := (rendered_sameWorld hl hr).files
  rw [← hfiles]
  exact ⟨fun ⟨u, h⟩ ↦ (h.standsFor ha.items_isWritten).1, resolves_of_standsFor _⟩

/-- The compiler is asked once, in the world that the command has found, and its result is the content. -/
theorem result_delivers (ha : AsksFor w args i o c) (isTerminal : Bool) (hs : o.sassOnly = false)
    {texts : List String} {css : String}
    (htexts : (c.compile.includes ++ o.includes.map Value.text).Forall₂ (StandsFor w.files) texts)
    (he : w.compiler.error = none) (hc : w.compiler.result = .text css) :
    ∃ u, u.requests = t.requests ++ [.full (joined texts ++ T)
        (.ofCompress (o.compress.getD c.compile.compress.isTruthy))
        (.text (w.files.homePath.resolve (Path.ofString o.script).parent).toString ::
          c.compile.includePaths) c.compile.precision] ∧
      Delivers w o c css u (run w isTerminal args) := by
  have hw := rendered_sameWorld hl hr
  obtain ⟨u, hu⟩ := (resolves_iff_standsFor hl hr ha).2 htexts
  have hwu : w.studio.SameWorld u := hw.trans (hu.sameWorld (runBodyWithin_keepsWorld deepest))
  have hcompiler : u.compiler = w.compiler := hwu.compiler
  rw [← hcompiler] at he hc
  obtain ⟨v, hv, hwv, hrequests⟩ :=
    BuildOptions.on_job t.files (Path.ofString o.script) T hu he hc
  have hsame : u.requests = t.requests := (hu.standsFor ha.items_isWritten).2
  have hfiles : t.files = w.files := hw.files
  rw [hsame, hfiles] at hrequests
  exact ⟨v, hrequests, (makes_css hl hr hs hv).delivers ha (hwu.trans hwv) isTerminal⟩

/-- A build delivers its content: the document alone if that is asked for, and otherwise what the
compiler, asked once, makes of the included texts and the document. The file that the options name comes
before that of the configuration, and without either the content is printed. Printed it is the same just
if it has no control sequences. -/
theorem build_delivers (ha : AsksFor w args i o c) (isTerminal : Bool) :
    let items := c.compile.includes ++ o.includes.map .text
    let r := run w isTerminal args
    (∀ a, o.output = some a → o.destination c = .ok (some (Path.ofString a))) ∧
    (∀ a, o.output = none → c.outputPath = .text a →
      o.destination c = .ok (if a = "" then none else some (Path.ofString a))) ∧
    (o.output = none → c.outputPath = .none → o.destination c = .ok none) ∧
    (o.sassOnly = true → Delivers w o c T t r) ∧
    (∀ texts, (∃ u, Resolves Builder.activate items t texts u) ↔
      items.Forall₂ (StandsFor w.files) texts) ∧
    (o.sassOnly = false → ∀ texts, items.Forall₂ (StandsFor w.files) texts →
      w.compiler.error = none → ∀ css, w.compiler.result = .text css →
      ∃ u, u.requests = t.requests ++ [.full (joined texts ++ T)
          (.ofCompress (o.compress.getD c.compile.compress.isTruthy))
          (.text (w.files.homePath.resolve (Path.ofString o.script).parent).toString ::
            c.compile.includePaths) c.compile.precision] ∧
        Delivers w o c css u r) ∧
    ∀ content, Text.withoutControls content = content ↔
      ∀ tail, tail <:+ content.toList → Text.afterControl? tail = none := by
  intro items r
  refine ⟨fun a ho ↦ BuildOptions.destination_option ho,
    fun a ho hp ↦ BuildOptions.destination_path ho hp,
    fun ho hp ↦ BuildOptions.destination_none ho hp, document_delivers hl hr ha isTerminal,
    fun texts ↦ resolves_iff_standsFor hl hr ha, ?_, Text.withoutControls_eq_self⟩
  intro hs texts htexts he css hc
  exact result_delivers hl hr ha isTerminal hs htexts he hc

end

end

def scriptText : String :=
  "\x7b\"script\":\x7b\"defs\":[[\"stylesheet\",\x7b\"$fn\":[\x7b\"do\":\"raw\",\"args\":[\"\\u001b[31ma\"]\x7d]\x7d]]\x7d\x7d"

def scriptSteps : List Step := [.call .argument "raw" [.atom (.text "\x1b[31ma")] [] none]

/-- A folder with this script, and a compiler. -/
def workshop : World :=
  { files := { nodes := [(["a.py"], .file scriptText.toUTF8)] }, compiler := { result := .text "b" } }

def loadedWorkshop : Studio :=
  { workshop.studio with
    sheets := [{ body := some { steps := scriptSteps } }]
    identities := 1
    records := [.plain "py2sass.script" Log.debug "Using body function stylesheet from a.py"] }

/-- A world in whose folder this script stands. -/
structure World.HoldsScript (w : World) : Prop where
  readText : w.studio.files.readText "a.py" = .ok scriptText
  seek : w.studio.files.seek "a.py" = .ok (some (.file scriptText.toUTF8))

theorem ofFile?_script : Text.ofFile? scriptText.toUTF8 = some scriptText := by decide +kernel

theorem holdsScript (more : List (Files.Location × Files.Node)) (compiler : Compiler) :
    World.HoldsScript
      { files := { nodes := (["a.py"], .file scriptText.toUTF8) :: more }, compiler } where
  readText := by
    have hread : Files.Tree.read { nodes := (["a.py"], .file scriptText.toUTF8) :: more } "a.py" =
        .ok scriptText.toUTF8 := rfl
    rw [World.studio, Files.Tree.readText, hread]
    simp only [ofFile?_script]
  seek := rfl

theorem ofText_script :
    Script.ofText scriptText = { definitions := [("stylesheet", .value (.body none scriptSteps))] } := by
  cbv

def World.loaded (w : World) : Studio :=
  { w.studio with
    sheets := [{ body := some { steps := scriptSteps } }]
    identities := 1
    records := [.plain "py2sass.script" Log.debug "Using body function stylesheet from a.py"] }

theorem World.HoldsScript.loads_behind {w : World} (h : w.HoldsScript) (records : List Log.Record) :
    (Script.load (Path.ofString "a.py") Script.entryName).on { w.studio with records } =
      (.ok 0, { w.loaded with records := records ++ w.loaded.records }) := by
  have hpath : (Path.ofString "a.py").toString = "a.py" := by decide +kernel
  have hname : Script.isScriptName "a.py" = true := by decide +kernel
  have hdefinitions : (Script.definitionsOf "a.py").on { w.studio with records } =
      (.ok [("stylesheet", .value (.body 0 { steps := scriptSteps }))],
        { w.studio with records, identities := 1 }) := by
    rw [Script.definitionsOf, Build.on_bind_ok (Build.on_get _), h.readText]
    simp only [Build.ofExcept, pure_bind, ofText_script]
    rfl
  rw [Script.load, Build.on_bind_ok (Build.on_get _), hpath]
  simp only [h.seek, hname]
  exact (Build.on_bind_ok hdefinitions).trans rfl

theorem World.HoldsScript.loads {w : World} (h : w.HoldsScript) :
    (Script.load (Path.ofString "a.py") Script.entryName).on (w.configured {}) =
      (.ok 0, w.loaded) := h.loads_behind []

theorem workshop_loads :
    (Script.load (Path.ofString "a.py") Script.entryName).on (workshop.configured {}) =
      (.ok 0, loadedWorkshop) := (holdsScript _ _).loads

def filedBuild : BuildOptions :=
  { script := "a.py", output := some "d", includes := ["c"], compress := some true }

def printedBuild : BuildOptions := { script := "a.py", sassOnly := true }

theorem workshop_delivers :
    AsksFor workshop ["build", "--output", "d", "--include", "c", "--compress", "--", "a.py"]
      { task := some "build", arguments := filedBuild.arguments } filedBuild {} ∧
    ∃ t, (Builder.render Builder.activate 0).on loadedWorkshop = (.ok "\x1b[31ma", t) ∧
      ∃ u, u.requests = t.requests ++
          [.full "c\n\x1b[31ma" .compressed [.text "/"] (.int 5)] ∧
        Delivers workshop filedBuild {} "b" u (run workshop false
          ["build", "--output", "d", "--include", "c", "--compress", "--", "a.py"]) := by
  have ha := asksFor_arguments (w := workshop) filedBuild rfl
  have hr : (Builder.render Builder.activate 0).on loadedWorkshop = (.ok "\x1b[31ma", _) := rfl
  obtain ⟨-, -, -, -, -, hcss, -⟩ := build_delivers (o := filedBuild) workshop_loads hr ha false
  have hfile : workshop.files.isFile "c" = false := by decide +kernel
  have hstands : StandsFor workshop.files (.text "c") "c" := ⟨"c", rfl, by simp [hfile]⟩
  exact ⟨ha, _, hr, hcss rfl ["c"] (.cons hstands .nil) rfl "b" rfl⟩

/-- A text with control sequences is not printed as it stands. -/
theorem control_sequences_are_not_printed :
    ∃ t, (Builder.render Builder.activate 0).on loadedWorkshop = (.ok "\x1b[31ma", t) ∧
      ∀ isTerminal, (run workshop isTerminal ["build", "--sass", "--", "a.py"]).printed = "a" := by
  have ha := asksFor_arguments (w := workshop) printedBuild rfl
  have hr : (Builder.render Builder.activate 0).on loadedWorkshop = (.ok "\x1b[31ma", _) := rfl
  have hw := rendered_sameWorld (o := printedBuild) workshop_loads hr
  refine ⟨_, hr, fun isTerminal ↦ ?_⟩
  have hmakes := makes_sass (o := printedBuild) workshop_loads hr rfl
  obtain ⟨-, -, -, hprinted⟩ := (hmakes.delivers ha hw isTerminal).printed rfl
  have hstripped : Text.withoutControls "\x1b[31ma" = "a" := by decide +kernel
  exact hprinted.trans hstripped

end Command

end Stylesheet

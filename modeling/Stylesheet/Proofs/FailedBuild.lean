import Stylesheet.Proofs.Delivery

namespace Stylesheet.Command

open Build Builder Include Command.Act BuildOptions

variable {w : World} {args : List String} {i : Invocation} {o : BuildOptions} {c : Config}
  {s t : Studio} {halt : Stop}

theorem on_requireFile_error {argument : String}
    (h : ∀ bytes, s.files.find (Path.ofString argument).toString ≠ .ok (.file bytes)) :
    (requireFile argument).on s = (.error { ending := .misused }, s) := by
  by_cases hnul : s.files.find (Path.ofString argument).toString = .error .nulInName
  · rw [requireFile, Act.on_bind_error (on_standing_nul hnul)]
  · obtain ⟨node?, hstanding, hfound⟩ := on_standing hnul
    rw [requireFile, Act.on_bind_ok hstanding]
    cases node? with
    | none => rfl
    | some n =>
      cases n with
      | folder => rfl
      | file bytes => exact absurd (hfound _ rfl) (h bytes)

theorem standing_isSilent (argument : String) : (standing argument).IsSilent := by
  refine .get_bind fun s ↦ ?_
  split
  · exact .pure _
  · exact .stop _
  · exact .pure _

theorem requireFile_isSilent (argument : String) : (requireFile argument).IsSilent := by
  refine .bind (standing_isSilent argument) fun found ↦ ?_
  split
  · exact .pure _
  · exact .stop _

section

variable {R : Studio → Studio → Prop} (hR : Studio.IsSteady R)

include hR

theorem standing_keeps (argument : String) : (standing argument).Keeps R := by
  refine .get_bind fun s ↦ ?_
  split
  · exact .pure hR _
  · exact .throw hR _
  · exact .pure hR _

theorem requireFile_keeps (argument : String) : (requireFile argument).Keeps R := by
  refine .bind hR (standing_keeps hR argument) fun found ↦ ?_
  split
  · exact .pure hR _
  · exact .throw hR _

end

namespace BuildOptions

theorem makeFrom_isSilent (o : BuildOptions) (c : Config) (script : Path) (T : String) :
    (o.makeFrom c script T).IsSilent := by
  unfold makeFrom
  split
  · exact .pure _
  · exact .get_bind fun s ↦ .stage _ _

theorem make_isSilent (o : BuildOptions) (c : Config) : (o.make c).IsSilent := by
  refine .bind (requireFile_isSilent _) fun script ↦ ?_
  have hrest : (do
      let sheet ← Act.stage (Script.load script Script.entryName) loadReport
      let document ← Act.stage (Builder.render Builder.activate sheet) renderReport
      o.makeFrom c script document : Act Value).IsSilent :=
    .bind (.stage _ _) fun _ ↦ .bind (.stage _ _) fun _ ↦ makeFrom_isSilent o c script _
  split
  · exact .bind (standing_isSilent _) fun _ ↦ hrest
  · exact hrest

section

variable {R : Studio → Studio → Prop} (hR : Studio.IsSteady R)

include hR

theorem makeFrom_keeps (o : BuildOptions) (c : Config) (script : Path) (T : String) :
    (o.makeFrom c script T).Keeps R := by
  unfold makeFrom
  split
  · exact .pure hR _
  · refine .get_bind fun s ↦ .stage hR ?_ _
    have hjob := job_composed (p := True) T (.list (c.compile.includes ++ o.includes.map .text))
      (o.job s.files c script T).compress
      (Engine.installed_isComposed (includePaths s.files c script) c.compile.precision)
    exact hjob.keeps hR (runBodyWithin_keeps hR deepest)

theorem make_keeps (o : BuildOptions) (c : Config) : (o.make c).Keeps R := by
  refine .bind hR (requireFile_keeps hR _) fun script ↦ ?_
  have hrest : (do
      let sheet ← Act.stage (Script.load script Script.entryName) loadReport
      let document ← Act.stage (Builder.render Builder.activate sheet) renderReport
      o.makeFrom c script document : Act Value).Keeps R := by
    refine .bind hR (.stage hR (Script.load_keeps hR _ _) _) fun sheet ↦ ?_
    refine .bind hR (.stage hR (render_keeps hR (runBodyWithin_keeps hR deepest) sheet) _) fun T ↦ ?_
    exact makeFrom_keeps hR o c script T
  split
  · exact .bind hR (standing_keeps hR _) fun _ ↦ hrest
  · exact hrest

end

end BuildOptions

/-- A build whose script, and whose output if it is to be a file, may be there. -/
structure Starts (w : World) (args : List String) (i : Invocation) (o : BuildOptions) (c : Config) :
    Prop extends AsksFor w args i o c where
  canStart : o.CanStart (w.configured c)

/-- A build whose script gives a sheet. -/
structure Loads (w : World) (args : List String) (i : Invocation) (o : BuildOptions) (c : Config)
    (id : SheetId) (s : Studio) : Prop extends Starts w args i o c where
  load : (Script.load (Path.ofString o.script) Script.entryName).on (w.configured c) = (.ok id, s)

/-- A build that is to compile the document of its sheet. -/
structure Renders (w : World) (args : List String) (i : Invocation) (o : BuildOptions) (c : Config)
    (id : SheetId) (s : Studio) (T : String) (t : Studio) : Prop extends Loads w args i o c id s where
  render : (Builder.render Builder.activate id).on s = (.ok T, t)
  compiles : o.sassOnly = false

/-- The reasons for which a build comes to no content, and how the command ends: with a report of the
fault if there is one for it. -/
inductive Fails (w : World) (args : List String) (i : Invocation) : Ending → Prop
  | configFile {path : String} (hi : i.config = some path)
      (h : ∀ bytes, w.files.find (Path.ofString path).toString ≠ .ok (.file bytes)) :
      Fails w args i .misused
  | config {f : Fault} (hi : i.CanStart w)
      (h : Config.load w.files w.environment (i.config.map Path.ofString) true = .error f) :
      Fails w args i (.reporting configReport f)
  | scriptFile {o : BuildOptions} {c : Config} (ha : AsksFor w args i o c)
      (h : ∀ bytes, w.files.find (Path.ofString o.script).toString ≠ .ok (.file bytes)) :
      Fails w args i .misused
  | script {o : BuildOptions} {c : Config} {f : Fault} {s : Studio} (ha : Starts w args i o c)
      (h : (Script.load (Path.ofString o.script) Script.entryName).on (w.configured c) =
        (.error f, s)) :
      Fails w args i (.reporting loadReport f)
  | body {o : BuildOptions} {c : Config} {id : SheetId} {f : Fault} {s t : Studio}
      (ha : Loads w args i o c id s)
      (h : (Builder.render Builder.activate id).on s = (.error f, t)) :
      Fails w args i (.reporting renderReport f)
  | item {o : BuildOptions} {c : Config} {id : SheetId} {T : String} {f : Fault} {s t u v : Studio}
      {before after : List Value} {item : Value} {texts : List String}
      (ha : Renders w args i o c id s T t)
      (hitems : c.compile.includes ++ o.includes.map .text = before ++ item :: after)
      (hbefore : Resolves Builder.activate before t texts u)
      (h : (Include.resolve Builder.activate item).on u = (.error f, v)) :
      Fails w args i (.reporting compileReport f.inIteration)
  | compilation {o : BuildOptions} {c : Config} {id : SheetId} {T : String} {f : Fault}
      {s t u v : Studio} {texts : List String} (ha : Renders w args i o c id s T t)
      (hitems : Resolves Builder.activate (c.compile.includes ++ o.includes.map .text) t texts u)
      (h : (Engine.installed (includePaths w.files c (Path.ofString o.script))
        c.compile.precision).compiled "libsass" (joined texts ++ T)
        (.ofCompress (o.compress.getD c.compile.compress.isTruthy)) u = (.error f, v)) :
      Fails w args i (.reporting compileReport f)

/-- A command that has ended in this way without printing anything, with the files as they were. -/
structure Leaves (w : World) (e : Ending) (r : Report) : Prop where
  ending : r.ending = e
  files : r.studio.files = w.files
  printed : r.printed = ""

theorem leaves_of_error (isTerminal : Bool) (hi : Invocation.ofArguments args = .run i)
    (h : (perform w.environment i).on w.studio = (.error halt, t)) (hp : halt.printed = "")
    (ht : t.files = w.files) : Leaves w halt.ending (run w isTerminal args) := by
  rw [run_of_error isTerminal hi h]
  exact ⟨rfl, ht, hp⟩

theorem AsksFor.leaves_of_make (ha : AsksFor w args i o c) (isTerminal : Bool)
    (h : (o.make c).on (w.configured c) = (.error halt, t)) :
    Leaves w halt.ending (run w isTerminal args) := by
  have hperform : (perform w.environment i).on w.studio = (.error halt, t) := by
    rw [ha.on_perform, perform_eq, Act.on_bind_error h]
  have hworld : (w.configured c).SameWorld t :=
    (make_keeps Studio.sameWorld_isSteady o c).of_on h
  exact leaves_of_error isTerminal ha.invocation hperform (make_isSilent o c _ _ _ h)
    (hworld.files.trans (configured_sameWorld w c).files)

theorem on_perform_configFile {path : String} (hi : i.config = some path)
    (h : ∀ bytes, w.files.find (Path.ofString path).toString ≠ .ok (.file bytes)) :
    (perform w.environment i).on w.studio = (.error { ending := .misused }, w.studio) := by
  have hrequire : (requireFile path).on w.studio = (.error { ending := .misused }, w.studio) :=
    on_requireFile_error h
  have hgiven : (some <$> requireFile path).on w.studio =
      (.error { ending := .misused }, w.studio) := by
    rw [map_eq_pure_bind, Act.on_bind_error hrequire]
  rw [perform, hi]
  exact Act.on_bind_error hgiven

theorem on_loadConfig_error {given : Option Path} {f : Fault}
    (h : Config.load w.files w.environment given true = .error f) :
    (loadConfig w.environment given).on w.studio =
      (.error { ending := .reporting configReport f }, reported configReport f w.studio) := by
  have hload : (Stylesheet.Build.ofExcept (Config.load w.studio.files w.environment given true)).on
      w.studio = (.error f, w.studio) := by
    rw [Build.on_ofExcept]
    exact congrArg (·, w.studio) h
  rw [loadConfig, Act.on_bind_ok (Act.on_get _), Act.on_bind_error (on_stage_error hload)]

/-- No task begins before the configuration is loaded. -/
theorem leaves_of_load_error {name : String} {f : Fault} (hname : Task.names.contains name = true)
    (hi : Invocation.ofArguments args = .run i) (ht : i.task = some name) (hstart : i.CanStart w)
    (h : Config.load w.files w.environment (i.config.map Path.ofString) true = .error f)
    (isTerminal : Bool) : Leaves w (.reporting configReport f) (run w isTerminal args) := by
  have hperform := on_perform_task hname ht hstart
  rw [Act.on_bind_error (on_loadConfig_error h)] at hperform
  have hworld := reported_of_steady Studio.sameWorld_isSteady configReport f w.studio
  exact leaves_of_error isTerminal hi hperform rfl hworld.files

theorem Renders.files {id : SheetId} {T : String} (h : Renders w args i o c id s T t) :
    t.files = w.files := (rendered_sameWorld h.load h.render).files

theorem Renders.on_make {id : SheetId} {T : String} (h : Renders w args i o c id s T t) :
    (o.make c).on (w.configured c) = (Act.stage ((o.job w.files c (Path.ofString o.script) T).run
      Builder.activate) compileReport).on t := by
  rw [on_make_rendered h.canStart h.load h.render, on_makeFrom_css h.compiles, h.files]

theorem Renders.on_make_item {id : SheetId} {T : String} {f : Fault} {u v : Studio}
    {before after : List Value} {item : Value} {texts : List String}
    (h : Renders w args i o c id s T t)
    (hitems : c.compile.includes ++ o.includes.map .text = before ++ item :: after)
    (hbefore : Resolves Builder.activate before t texts u)
    (he : (Include.resolve Builder.activate item).on u = (.error f, v)) :
    (o.make c).on (w.configured c) =
      (.error { ending := .reporting compileReport f.inIteration },
        reported compileReport f.inIteration v) := by
  let j := o.job w.files c (Path.ofString o.script) T
  have hj : itemsOf j.includes = before ++ item :: after := hitems
  rw [h.on_make, on_stage_error (on_job_include_error hj hbefore he)]

theorem Renders.on_make_compiled {id : SheetId} {T : String} {f : Fault} {u v : Studio}
    {texts : List String} (h : Renders w args i o c id s T t)
    (hitems : Resolves Builder.activate (c.compile.includes ++ o.includes.map .text) t texts u)
    (he : (Engine.installed (includePaths w.files c (Path.ofString o.script))
      c.compile.precision).compiled "libsass" (joined texts ++ T)
      (.ofCompress (o.compress.getD c.compile.compress.isTruthy)) u = (.error f, v)) :
    (o.make c).on (w.configured c) =
      (.error { ending := .reporting compileReport f }, reported compileReport f v) := by
  rw [h.on_make]
  exact on_stage_error ((on_job_compiled w.files _ T hitems).trans he)

theorem Fails.leaves {e : Ending} (h : Fails w args i e)
    (hi : Invocation.ofArguments args = .run i) (ht : i.task = some "build") (isTerminal : Bool) :
    Leaves w e (run w isTerminal args) := by
  cases h with
  | configFile hpath h => exact leaves_of_error isTerminal hi (on_perform_configFile hpath h) rfl rfl
  | config hstart h => exact leaves_of_load_error rfl hi ht hstart h isTerminal
  | @scriptFile o c ha h =>
    have hfiles : (w.configured c).files = w.files := (configured_sameWorld w c).files
    rw [← hfiles] at h
    exact ha.leaves_of_make isTerminal (Act.on_bind_error (on_requireFile_error h))
  | @script o c f u ha h =>
    have hmake := on_make ha.canStart c
    rw [Act.on_bind_error (on_stage_error h)] at hmake
    exact ha.leaves_of_make isTerminal hmake
  | @body o c id f u v ha h =>
    have hmake := on_make ha.canStart c
    rw [Act.on_bind_ok (on_stage_ok ha.load), Act.on_bind_error (on_stage_error h)] at hmake
    exact ha.leaves_of_make isTerminal hmake
  | item ha hitems hbefore h => exact ha.leaves_of_make isTerminal (ha.on_make_item hitems hbefore h)
  | compilation ha hitems h =>
    exact ha.leaves_of_make isTerminal (ha.on_make_compiled hitems h)

theorem build_of_ofArguments {arguments : List String} {task : Task}
    (h : Task.ofArguments "build" arguments = .run task) : ∃ o, task = .build o := by
  unfold Task.ofArguments at h
  split at h
  · cases h
  · next p _ =>
    split at h
    · cases h
    · unfold Task.ofParsed at h
      split at h
      · cases h
        exact ⟨_, rfl⟩
      all_goals simp_all

theorem of_deliver_error {content : Value} (h : (o.deliver c content).on s = (.error halt, t)) :
    (halt.printed = "" ∧ t.files = s.files) ∨ ∃ path, o.destination c = .ok (some path) ∧
      ∀ text files, content = .text text → writeBelow s.files path text ≠ .ok files := by
  rcases hd : o.destination c with e | destination
  · rw [deliver, hd, Act.on_bind_error (Act.on_ofExcept_error e s)] at h
    cases h
    exact .inl ⟨rfl, rfl⟩
  · cases destination with
    | none =>
      rw [deliver, hd, Act.on_bind_ok (Act.on_ofExcept _ s)] at h
      by_cases hw : content.isWritable = true
      · simp only [if_pos hw] at h
        cases h
      · simp only [if_neg hw] at h
        cases h
        exact .inl ⟨rfl, rfl⟩
    | some path =>
      refine .inr ⟨path, rfl, fun text files hc hw ↦ ?_⟩
      rw [hc, on_deliver_written hd hw] at h
      cases h

/-- A build has come to a content that cannot be written to the file it is for: it is no text, or the
file refuses it. -/
structure CannotWrite (w : World) (o : BuildOptions) (c : Config) (content : Value) (path : Path) :
    Prop where
  make : ∃ t, (o.make c).on (w.configured c) = (.ok content, t)
  destination : o.destination c = .ok (some path)
  write : ∀ text files, content = .text text → writeBelow w.files path text ≠ .ok files

theorem Leaves.of_report {e : Ending} {r : Report} (h : Leaves w e r) : Leaves w r.ending r :=
  ⟨rfl, h.files, h.printed⟩

theorem ending_of_ok {printed : String} (isTerminal : Bool)
    (hi : Invocation.ofArguments args = .run i)
    (h : (perform w.environment i).on w.studio = (.ok printed, t)) :
    (run w isTerminal args).ending = .done := by rw [run_of_ok isTerminal hi h]

theorem AsksFor.leaves_or_cannot_write (ha : AsksFor w args i o c) (isTerminal : Bool)
    (hdone : (run w isTerminal args).ending ≠ .done) :
    Leaves w (run w isTerminal args).ending (run w isTerminal args) ∨
      ∃ content path, CannotWrite w o c content path := by
  have hbuild := ha.on_perform
  rw [perform_eq] at hbuild
  rcases hmake : (o.make c).on (w.configured c) with ⟨halt | content, t⟩
  · exact .inl (ha.leaves_of_make isTerminal hmake).of_report
  rw [Act.on_bind_ok hmake] at hbuild
  have hworld : (w.configured c).SameWorld t :=
    (make_keeps Studio.sameWorld_isSteady o c).of_on hmake
  have hfiles : t.files = w.files := hworld.files.trans (configured_sameWorld w c).files
  rcases hdeliver : (o.deliver c content).on t with ⟨halt | printed, u⟩
  · rcases of_deliver_error hdeliver with ⟨hprinted, hu⟩ | ⟨path, hd, hw⟩
    · exact .inl (leaves_of_error isTerminal ha.invocation (hbuild.trans hdeliver) hprinted
        (hu.trans hfiles)).of_report
    · rw [hfiles] at hw
      exact .inr ⟨content, path, ⟨t, hmake⟩, hd, hw⟩
  · exact absurd (ending_of_ok isTerminal ha.invocation (hbuild.trans hdeliver)) hdone

/-- A build that comes to no content leaves the files as they were and prints nothing, whatever the
reason. So does every build that does not end well, but for one whose content cannot be written. -/
theorem failed_build_writes_nothing (hi : Invocation.ofArguments args = .run i)
    (ht : i.task = some "build") (isTerminal : Bool) :
    let r := run w isTerminal args
    (∀ e, Fails w args i e → Leaves w e r) ∧
    (r.ending ≠ .done → Leaves w r.ending r ∨
      ∃ o c content path, AsksFor w args i o c ∧ CannotWrite w o c content path) := by
  intro r
  have hfails : ∀ e, Fails w args i e → Leaves w e r := fun e h ↦ h.leaves hi ht isTerminal
  refine ⟨hfails, fun hdone ↦ ?_⟩
  -- In the order in which the command goes on: the configuration, the options, the build itself.
  by_cases hstart : i.CanStart w
  · rcases hload : Config.load w.files w.environment (i.config.map Path.ofString) true with f | c
    · exact .inl (hfails _ (.config hstart hload)).of_report
    have hperform := on_perform_build ht hstart
    rw [Act.on_bind_ok (on_loadConfig hload)] at hperform
    rcases hoptions : Task.ofArguments "build" i.arguments with task | _ | _ | _
    · obtain ⟨o, rfl⟩ := build_of_ofArguments hoptions
      have ha : AsksFor w args i o c := ⟨hi, ht, hoptions, hload⟩
      rcases ha.leaves_or_cannot_write isTerminal hdone with h | ⟨content, path, h⟩
      · exact .inl h
      · exact .inr ⟨o, c, content, path, ha, h⟩
    · rw [hoptions] at hperform
      exact absurd (ending_of_ok isTerminal hi hperform) hdone
    · rw [hoptions] at hperform
      exact absurd (ending_of_ok isTerminal hi hperform) hdone
    · rw [hoptions] at hperform
      have hfiles : (w.configured c).files = w.files := (configured_sameWorld w c).files
      exact .inl (leaves_of_error isTerminal hi hperform rfl hfiles).of_report
  · simp only [Invocation.CanStart, not_forall, not_exists] at hstart
    obtain ⟨path, hpath, hfile⟩ := hstart
    exact .inl (hfails _ (.configFile hpath hfile)).of_report

/-- A folder with a script and the output of an earlier build, and a compiler that refuses its source. -/
def refusingWorkshop : World where
  files := { nodes := [(["a.py"], .file scriptText.toUTF8), (["d"], .file "b".toUTF8)] }
  compiler := { error := some (.asked "CompilationError" (some "c")) }

def refusedBuild : BuildOptions := { script := "a.py", output := some "d" }

theorem refusingWorkshop_fails :
    Fails refusingWorkshop ("build" :: refusedBuild.arguments)
      { task := some "build", arguments := refusedBuild.arguments } .failed := by
  have hscript : refusingWorkshop.HoldsScript := holdsScript _ _
  have hl := hscript.loads
  have hr : (Builder.render Builder.activate 0).on refusingWorkshop.loaded =
      (.ok "\x1b[31ma", _) := rfl
  have hout : ∀ a, refusedBuild.output = some a →
      (refusingWorkshop.configured {}).files.find (Path.ofString a).toString ≠ .error .nulInName := by
    have hpath : (Path.ofString "d").toString = "d" := by decide +kernel
    have hread : refusingWorkshop.files.read "d" = .ok "b".toUTF8 := rfl
    have hfiles : (refusingWorkshop.configured {}).files = refusingWorkshop.files := rfl
    rintro a ha
    cases ha
    rw [hpath, hfiles, Files.Tree.find_of_read hread]
    nofun
  have h : Renders refusingWorkshop _ _ refusedBuild {} 0 _ _ _ :=
    { asksFor_arguments refusedBuild rfl with
      canStart := BuildOptions.canStart hout hl
      load := hl
      render := hr
      compiles := rfl }
  exact .compilation h (.nil _) rfl

theorem refused_build_keeps_output :
    Leaves refusingWorkshop .failed
      (run refusingWorkshop false ("build" :: refusedBuild.arguments)) ∧
    (run refusingWorkshop false ("build" :: refusedBuild.arguments)).studio.files.read "d" =
      .ok "b".toUTF8 := by
  have ha := asksFor_arguments (w := refusingWorkshop) refusedBuild rfl
  obtain ⟨hfails, -⟩ := failed_build_writes_nothing ha.invocation ha.task false
  have h := hfails _ refusingWorkshop_fails
  refine ⟨h, ?_⟩
  rw [h.files]
  rfl

end Stylesheet.Command

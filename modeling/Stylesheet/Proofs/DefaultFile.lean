import Mathlib
import Stylesheet.Proofs.LoadFaults
import Stylesheet.Proofs.Logging
import Stylesheet.Proofs.Paths

namespace Stylesheet

namespace Files.Tree

variable {t u : Tree} {p : Path} {name content : String}

theorem exists_locate_of_find {n : Node} {text : String} (h : t.find text = .ok n) :
    ∃ l, t.locate text = .ok l ∧ t.node? l = some n := by
  rw [find] at h
  rcases hl : t.locate text with e | l <;> rw [hl] at h
  · cases h
  rcases hn : t.node? l with _ | m <;> simp only [hn] at h <;> cases h
  exact ⟨l, rfl, hn⟩

section

variable (hu : t.ensureFolder p = .ok u)

include hu

theorem find_of_ensureFolder : t.find p.toString ≠ .error .nulInName ∧
    ∀ bytes, t.find p.toString ≠ .ok (.file bytes) := by
  have hfolder := ensureFolder_find hu
  obtain ⟨l, hl, -⟩ := exists_locate_of_find hfolder
  refine ⟨find_ne_nul hl t, fun bytes hfile ↦ ?_⟩
  rw [(makeFolders_grows hu).find_file hfile] at hfolder
  cases hfolder

variable (hp : p.IsClean) (hn : Path.IsFileName name)

include hp hn

theorem exists_locate_child (hlong : (p.child name).toString.utf8ByteSize ≤ longestPath) :
    ∃ l, u.locate (p.child name).toString = .ok l := by
  obtain ⟨l, hl, hfolder⟩ := exists_locate_of_find (ensureFolder_find hu)
  exact ⟨_, locate_child hp hn hl hfolder hlong⟩

/-- In a folder that is there, or can be made, a file can be written where no folder stands. -/
theorem exists_writeBelow (hfree : u.find (p.child name).toString ≠ .ok .folder)
    (hlong : (p.child name).toString.utf8ByteSize ≤ longestPath) (content : String) :
    ∃ files, Command.writeBelow t (p.child name) content = .ok files := by
  obtain ⟨l, hl⟩ := exists_locate_child hu hp hn hlong
  have hwrite : ∃ files, u.write (p.child name).toString content.toUTF8 = .ok files := by
    rw [write, hl]
    rcases hnode : u.node? l with _ | ⟨bytes⟩ | _
    · exact ⟨_, by simp only [hnode]; rfl⟩
    · exact ⟨_, by simp only [hnode]; rfl⟩
    · rw [find, hl] at hfree
      simp only [hnode] at hfree
      exact absurd rfl hfree
  obtain ⟨files, hfiles⟩ := hwrite
  refine ⟨files, ?_⟩
  rw [Command.writeBelow, Command.ensureAbove, Path.parent_child, hu]
  change (u.write _ _).mapError _ = _
  rw [hfiles]
  rfl

end

/-- Of a path that is too long it cannot be told whether something is there. -/
theorem holds_of_long (hnul : '\x00' ∉ p.toString.toList)
    (hlong : longestPath < p.toString.utf8ByteSize) :
    t.holds p = .error (.files .nameTooLong p.toString) := by
  have hne : p.toString ≠ "" := by
    intro he
    rw [he] at hlong
    exact absurd hlong (by decide)
  have hl : t.locate p.toString = .error .nameTooLong := by
    rw [locate, if_neg (mt List.contains_iff_mem.1 hnul), if_neg hne, if_pos hlong]
  rw [holds, seek, find, hl]

end Files.Tree

namespace Command

open Build Command.Act

theorem fileName_isFileName : Path.IsFileName Config.fileName where
  ne_empty := by decide
  ne_dot := by decide
  ne_dots := by decide
  noSlash := by decide +kernel
  noNul := by decide +kernel
  short := by decide +kernel

namespace InitOptions

variable {o : InitOptions} {s : Studio} {files : Files.Tree}

def folderPath (o : InitOptions) : Path := Path.ofString o.folder

def target (o : InitOptions) : Path := o.folderPath.child Config.fileName

def fill (o : InitOptions) (files : Files.Tree) : Act String := do
  if (← Act.ofExcept (files.holds o.target)) && !o.force then
    Act.fail ("Config file already exists: " ++ o.target.toString ++ " (use --force to overwrite)")
  let files ← Act.ofExcept (writeBelow files o.target Config.defaultText)
  modify fun s ↦ { s with files }
  Act.note Log.info ("Created " ++ o.target.toString)
  return ""

theorem on_perform_fill (hnul : s.files.find o.folderPath.toString ≠ .error .nulInName)
    (hfile : ∀ bytes, s.files.find o.folderPath.toString ≠ .ok (.file bytes)) :
    o.perform.on s = (o.fill s.files).on s := by
  obtain ⟨node?, hstanding, hfound⟩ := on_standing hnul
  rw [perform, Act.on_bind_ok hstanding]
  rcases node? with _ | ⟨bytes⟩ | _
  · exact Act.on_bind_ok (Act.on_get s)
  · exact absurd (hfound _ rfl) (hfile bytes)
  · exact Act.on_bind_ok (Act.on_get s)

/-- A studio in which the default configuration has been written. -/
def filled (o : InitOptions) (files : Files.Tree) (s : Studio) : Studio :=
  { s with files }.record (.plain Log.mainLogger Log.info ("Created " ++ o.target.toString))

theorem on_fill {there : Bool} (hholds : s.files.holds o.target = .ok there)
    (hfree : (there && !o.force) = false)
    (hw : writeBelow s.files o.target Config.defaultText = .ok files) :
    (o.fill s.files).on s = (.ok "", o.filled files s) := by
  rw [fill, hholds, Act.on_bind_ok (Act.on_ofExcept _ s), hfree, hw]
  exact Act.on_bind_ok (Act.on_ofExcept _ s)

theorem on_fill_refused (hholds : s.files.holds o.target = .ok true) (hforce : o.force = false) :
    (o.fill s.files).on s = (.error { ending := .failed }, s.record (.plain Log.mainLogger Log.error
      ("Config file already exists: " ++ o.target.toString ++ " (use --force to overwrite)"))) := by
  rw [fill, hholds, Act.on_bind_ok (Act.on_ofExcept _ s), hforce]
  rfl

theorem on_perform_misused (h : s.files.find o.folderPath.toString = .error .nulInName ∨
    ∃ bytes, s.files.find o.folderPath.toString = .ok (.file bytes)) :
    o.perform.on s = (.error { ending := .misused }, s) := by
  rcases h with h | ⟨bytes, h⟩
  · rw [perform, Act.on_bind_error (on_standing_nul h)]
  · rw [perform, Act.on_bind_ok (on_standing_found h)]
    rfl

theorem on_fill_error {f : Fault} (hholds : s.files.holds o.target = .error f) :
    (o.fill s.files).on s = (.error { ending := .ofFault f }, s) := by
  rw [fill, hholds, Act.on_bind_error (Act.on_ofExcept_error f s)]

end InitOptions

variable {w : World} {args : List String} {i : Invocation} {o : InitOptions} {c : Config} {f : Fault}
  {t : Studio} {halt : Stop}

/-- A command line that asks for the default configuration. -/
structure AsksForDefault (args : List String) (i : Invocation) (o : InitOptions) : Prop where
  invocation : Invocation.ofArguments args = .run i
  task : i.task = some "init"
  options : Task.ofArguments "init" i.arguments = .run (.init o)

namespace AsksForDefault

theorem on_perform (h : AsksForDefault args i o)
    (hload : Config.load w.files w.environment (i.config.map Path.ofString) true = .ok c) :
    (perform w.environment i).on w.studio = o.perform.on (w.configured c) := by
  rw [on_perform_task rfl h.task (canStart_of_load hload), Act.on_bind_ok (on_loadConfig hload),
    h.options]
  rfl

theorem run_eq (h : AsksForDefault args i o)
    (hload : Config.load w.files w.environment (i.config.map Path.ofString) true = .ok c)
    (isTerminal : Bool) : run w isTerminal args =
      .ofOutcome (.ofSwitches i.switches isTerminal) (o.perform.on (w.configured c)) := by
  have hperform := h.on_perform hload
  rcases houtcome : o.perform.on (w.configured c) with ⟨halt | printed, t⟩ <;>
    rw [houtcome] at hperform
  · exact run_of_error isTerminal h.invocation hperform
  · exact run_of_ok isTerminal h.invocation hperform

end AsksForDefault

/-- The default configuration stands in its file; all else is as it was, but that there may be new
folders. -/
structure Restores (w : World) (o : InitOptions) (r : Report) : Prop where
  ending : r.ending = .done
  printed : r.printed = ""
  restored : r.studio.files.read o.target.toString = .ok Config.defaultText.toUTF8
  others : ∃ l, r.studio.files.locate o.target.toString = .ok l ∧ ∀ l', l' ≠ l →
    r.studio.files.node? l' = w.files.node? l' ∨
      w.files.node? l' = none ∧ r.studio.files.node? l' = some .folder

theorem reporting_configReport (h : f.isError = true) :
    Ending.reporting configReport f = .failed := by
  cases f <;> first | rfl | simp [Ending.reporting, configReport, h]

theorem leaves_of_refused_config {name : String} (hname : Task.names.contains name = true)
    (hi : Invocation.ofArguments args = .run i) (ht : i.task = some name) (hstart : i.CanStart w)
    (h : Config.load w.files w.environment (i.config.map Path.ofString) true = .error f)
    (isTerminal : Bool) : Leaves w .failed (run w isTerminal args) := by
  rw [← reporting_configReport (Config.isError_of_load h)]
  exact leaves_of_load_error hname hi ht hstart h isTerminal

theorem configured_files (w : World) (c : Config) : (w.configured c).files = w.files :=
  (configured_sameWorld w c).files

namespace AsksForDefault

variable {u : Files.Tree}

section

variable (h : AsksForDefault args i o)
  (hload : Config.load w.files w.environment (i.config.map Path.ofString) true = .ok c)
  (hu : w.files.ensureFolder o.folderPath = .ok u)

include h hload hu

theorem run_eq_fill (isTerminal : Bool) : run w isTerminal args =
    .ofOutcome (.ofSwitches i.switches isTerminal) ((o.fill w.files).on (w.configured c)) := by
  obtain ⟨hnul, hfile⟩ := Files.Tree.find_of_ensureFolder hu
  rw [← configured_files w c] at hnul hfile
  rw [h.run_eq hload, InitOptions.on_perform_fill hnul hfile, configured_files]

theorem restores (hforce : o.force = true) (hfree : u.find o.target.toString ≠ .ok .folder)
    (hlong : o.target.toString.utf8ByteSize ≤ Files.Tree.longestPath) (isTerminal : Bool) :
    Restores w o (run w isTerminal args) := by
  have hp : o.folderPath.IsClean := Path.ofString_isClean _
  obtain ⟨l, hl⟩ := Files.Tree.exists_locate_child hu hp fileName_isFileName hlong
  obtain ⟨there, hholds⟩ := (Files.Tree.makeFolders_grows hu).holds hl
  obtain ⟨files, hw⟩ := Files.Tree.exists_writeBelow hu hp fileName_isFileName hfree hlong
    Config.defaultText
  obtain ⟨hread, hothers⟩ := of_writeBelow hw
  have hfill : (o.fill w.files).on (w.configured c) = (.ok "", o.filled files (w.configured c)) := by
    rw [← configured_files w c] at hholds hw ⊢
    exact InitOptions.on_fill hholds (by simp [hforce]) hw
  rw [h.run_eq_fill hload hu, hfill]
  exact ⟨rfl, rfl, hread, hothers⟩

theorem crashes (hlong : Files.Tree.longestPath < o.target.toString.utf8ByteSize)
    (isTerminal : Bool) :
    Leaves w (.crashed (.files .nameTooLong o.target.toString)) (run w isTerminal args) := by
  obtain ⟨l, hl, -⟩ := Files.Tree.exists_locate_of_find (Files.Tree.ensureFolder_find hu)
  obtain ⟨hnul, -⟩ := Files.Tree.of_locate hl
  have hholds : w.files.holds o.target = .error (.files .nameTooLong o.target.toString) :=
    Files.Tree.holds_of_long (Files.Tree.nul_not_mem_child fileName_isFileName hnul) hlong
  have hfill : (o.fill w.files).on (w.configured c) =
      (.error { ending := .crashed (.files .nameTooLong o.target.toString) }, w.configured c) := by
    rw [← configured_files w c] at hholds ⊢
    exact InitOptions.on_fill_error hholds
  rw [h.run_eq_fill hload hu, hfill]
  exact ⟨rfl, configured_files w c, rfl⟩

end

theorem keeps (h : AsksForDefault args i o) (hforce : o.force = false) {n : Files.Node}
    (hn : w.files.find o.target.toString = .ok n) (isTerminal : Bool) :
    (run w isTerminal args).studio.files = w.files := by
  by_cases hstart : i.CanStart w
  · rcases hload : Config.load w.files w.environment (i.config.map Path.ofString) true with f | c
    · exact (leaves_of_refused_config rfl h.invocation h.task hstart hload isTerminal).files
    · have hfiles := configured_files w c
      rw [h.run_eq hload]
      by_cases hmisused : (w.configured c).files.find o.folderPath.toString = .error .nulInName ∨
          ∃ bytes, (w.configured c).files.find o.folderPath.toString = .ok (.file bytes)
      · rw [InitOptions.on_perform_misused hmisused]
        exact hfiles
      · obtain ⟨hnul, hfile⟩ := not_or.1 hmisused
        have hholds : (w.configured c).files.holds o.target = .ok true := by
          rw [hfiles, Files.Tree.holds, Files.Tree.seek, hn]
          rfl
        rw [InitOptions.on_perform_fill hnul (not_exists.1 hfile),
          InitOptions.on_fill_refused hholds hforce]
        exact hfiles
  · simp only [Invocation.CanStart, not_forall, not_exists] at hstart
    obtain ⟨path, hpath, hfile⟩ := hstart
    exact (leaves_of_error isTerminal h.invocation (on_perform_configFile hpath hfile) rfl rfl).files

end AsksForDefault

/-- Once the configuration loads, the default one is written over what stands in its file, whatever
that is, if the folder is there or can be made, no folder stands in the place of the file, and its path
is not longer than a path can be. If the configuration does not load, the command fails, and all files
stay as they are. So does a file that is there, unless it is to be overwritten. -/
theorem default_replaces_config_that_loads (h : AsksForDefault args i o) (isTerminal : Bool) :
    let r := run w isTerminal args
    (∀ c u, Config.load w.files w.environment (i.config.map Path.ofString) true = .ok c →
      o.force = true → w.files.ensureFolder o.folderPath = .ok u →
      u.find o.target.toString ≠ .ok .folder →
      (o.target.toString.utf8ByteSize ≤ Files.Tree.longestPath → Restores w o r) ∧
      (Files.Tree.longestPath < o.target.toString.utf8ByteSize →
        Leaves w (.crashed (.files .nameTooLong o.target.toString)) r)) ∧
    (∀ f, i.CanStart w →
      Config.load w.files w.environment (i.config.map Path.ofString) true = .error f →
      Leaves w .failed r) ∧
    (o.force = false → ∀ n, w.files.find o.target.toString = .ok n → r.studio.files = w.files) := by
  intro r
  refine ⟨?_, ?_, fun hforce n hn ↦ h.keeps hforce hn isTerminal⟩
  · intro c u hload hforce hu hfree
    exact ⟨fun hlong ↦ h.restores hload hu hforce hfree hlong isTerminal,
      fun hlong ↦ h.crashes hload hu hlong isTerminal⟩
  · intro f hstart hload
    exact leaves_of_refused_config rfl h.invocation h.task hstart hload isTerminal

/-- A folder with a configuration file. -/
def configuredBy (text : String) : World :=
  { files := { nodes := [(["py2sass.yaml"], .file text.toUTF8)] } }

def oldText : String := "output: \x7bpath: a.css\x7d\n"

def badText : String := "compile: \x7bprecision: -1\x7d\n"

theorem asksForDefault_force :
    AsksForDefault ["init", "--force"] { task := some "init", arguments := ["--force"] }
      { force := true } where
  invocation := ofArguments_task (by decide +kernel) (by decide)
  task := rfl
  options := by cbv

theorem old_config_loads : ∃ c, Config.load (configuredBy oldText).files
    (configuredBy oldText).environment none true = .ok c := by
  have hsome : (Config.load (configuredBy oldText).files (configuredBy oldText).environment none
      true).toOption.isSome = true := by decide +kernel
  rcases hload : Config.load (configuredBy oldText).files (configuredBy oldText).environment none true
    with f | c
  · rw [hload] at hsome
    cases hsome
  · exact ⟨c, rfl⟩

theorem default_replaces_old_config :
    Restores (configuredBy oldText) { force := true }
      (run (configuredBy oldText) false ["init", "--force"]) := by
  obtain ⟨c, hload⟩ := old_config_loads
  obtain ⟨hreplaces, -, -⟩ := default_replaces_config_that_loads (w := configuredBy oldText)
    asksForDefault_force false
  have hu : (configuredBy oldText).files.ensureFolder (InitOptions.folderPath { force := true }) =
      .ok (configuredBy oldText).files := rfl
  have hfile : (configuredBy oldText).files.find (InitOptions.target { force := true }).toString =
      .ok (.file oldText.toUTF8) := rfl
  have hfree : (configuredBy oldText).files.find (InitOptions.target { force := true }).toString ≠
      .ok .folder := by
    rw [hfile]
    nofun
  exact (hreplaces c _ hload rfl hu hfree).1 (by decide +kernel)

theorem bad_config_is_refused : ∃ f, Config.load (configuredBy badText).files
    (configuredBy badText).environment none true = .error f := by
  have hnone : (Config.load (configuredBy badText).files (configuredBy badText).environment none
      true).toOption.isSome = false := by decide +kernel
  rcases hload : Config.load (configuredBy badText).files (configuredBy badText).environment none true
    with f | c
  · exact ⟨f, rfl⟩
  · rw [hload] at hnone
    cases hnone

/-- A configuration that does not load is not overwritten, although it is asked for: the command fails,
and the file is as it was. -/
theorem bad_config_is_not_replaced :
    Leaves (configuredBy badText) .failed (run (configuredBy badText) false ["init", "--force"]) ∧
    (run (configuredBy badText) false ["init", "--force"]).studio.files.read "py2sass.yaml" =
      .ok badText.toUTF8 ∧
    badText ≠ Config.defaultText := by
  obtain ⟨f, hload⟩ := bad_config_is_refused
  have hleaves := leaves_of_refused_config rfl asksForDefault_force.invocation
    asksForDefault_force.task nofun hload false
  refine ⟨hleaves, ?_, by decide +kernel⟩
  rw [hleaves.files]
  rfl

end Command

end Stylesheet

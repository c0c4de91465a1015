import Mathlib
import Stylesheet.Config.File
import Stylesheet.Proofs.DocumentFaults
import Stylesheet.Proofs.Sections

namespace Stylesheet

namespace Config

open Files

variable {t : Tree} {env : Environment} {f : Fault}

theorem holds_onlyUnasked (t : Tree) (p : Path) : OnlyUnasked (t.holds p) := by
  rw [Tree.holds]
  split
  · exact .ok trivial
  · exact .error rfl

theorem firstHeld_onlyUnasked (t : Tree) (ps : List Path) : OnlyUnasked (firstHeld t ps) := by
  induction ps with
  | nil => exact .ok trivial
  | cons p rest ih =>
    rw [firstHeld]
    split
    · next he => exact .error (he ▸ holds_onlyUnasked t p).of_error
    · exact .ok trivial
    · exact ih

theorem sourceOf_onlyUnasked (t : Tree) (given : Option Path) (discover : Bool) :
    OnlyUnasked (sourceOf t given discover) := by
  cases given with
  | some p => exact (holds_onlyUnasked t p).bind fun _ _ ↦ .ite (.ok trivial) (.error rfl)
  | none =>
    refine .ite ?_ (.ok trivial)
    exact .ite (.error rfl) (firstHeld_onlyUnasked t _)

theorem readPieces_onlyUnasked (t : Tree) (path : String) : OnlyUnasked (t.readPieces path) := by
  rw [Tree.readPieces]
  cases t.read path with
  | error e => exact .error rfl
  | ok bytes => exact .ok trivial

theorem expand_onlyUnasked (env : Environment) (v : Value) : OnlyUnasked (env.expand v) := by
  rcases h : env.expand v with f | v'
  · obtain ⟨n, rfl⟩ := Environment.unset_of_expand h
    exact .error rfl
  · exact .ok trivial

theorem integer_onlyUnasked (v : Value) : OnlyUnasked (integer v) := by
  have hnumeral (shown s : String) : OnlyUnasked (integer.ofNumeral shown s) := by
    rw [integer.ofNumeral]
    cases Number.integer s with
    | ok n => exact .ok trivial
    | error r => cases r <;> exact .error rfl
  have hnotFinite (x : Number.Binary64) : (notFinite x).IsUnasked := by cases x <;> rfl
  unfold integer
  split
  · exact .ok trivial
  · exact .ok trivial
  · split
    · exact .ok trivial
    · exact .error (hnotFinite _)
  · exact .error (hnotFinite _)
  · exact hnumeral _ _
  · exact .ite (hnumeral _ _) (.error rfl)
  · exact .error rfl

theorem noEntries_isUnasked (v : Value) : (noEntries v).IsUnasked := by
  rw [noEntries.eq_def]
  split <;> rfl

theorem entriesAt_onlyUnasked (data : List (Value × Value)) (key : String) :
    OnlyUnasked (entriesAt data key) := by
  rw [entriesAt]
  split
  · exact .ok trivial
  · exact .ite (.error (noEntries_isUnasked _)) (.ok trivial)

theorem listOf_onlyUnasked (key : String) (v : Value) :
    OnlyUnasked (CompileSettings.listOf key v) := by
  rw [CompileSettings.listOf.eq_def]
  split
  · exact .ok trivial
  · exact .error rfl

theorem make_onlyUnasked (compress includes includePaths : Value) (n : Int) :
    OnlyUnasked (CompileSettings.make compress includes includePaths (.int n)) := by
  have hbelow : (CompileSettings.belowZero (.int n)).IsUnasked := by
    change (if Number.isWritable n then .negativePrecision (Number.intText n) else .unwritable :
      Fault).IsUnasked
    split <;> rfl
  rw [CompileSettings.make]
  refine (listOf_onlyUnasked _ _).bind fun _ _ ↦ (listOf_onlyUnasked _ _).bind fun _ _ ↦ ?_
  exact .guard hbelow (.ok trivial)

theorem compileSettings_onlyUnasked (entries : List (Value × Value)) :
    OnlyUnasked (compileSettings entries) := by
  rw [compileSettings]
  exact .ite (.ok trivial) <| (integer_onlyUnasked _).bind fun n _ ↦ make_onlyUnasked _ _ _ n

theorem ofValue_onlyUnasked (env : Environment) (data : Value) : OnlyUnasked (ofValue env data) := by
  rw [ofValue]
  refine (expand_onlyUnasked env data).bind fun v _ ↦ ?_
  split
  · exact (entriesAt_onlyUnasked _ _).bind fun _ _ ↦ (entriesAt_onlyUnasked _ _).bind fun _ _ ↦
      (compileSettings_onlyUnasked _).bind fun _ _ ↦ .ok trivial
  · exact .ok trivial
  · exact .error rfl

theorem ofFile_onlyUnasked (t : Tree) (env : Environment) (p : Path) :
    OnlyUnasked (ofFile t env p) := by
  rw [ofFile]
  refine (readPieces_onlyUnasked t _).bind fun _ _ ↦ (Yaml.document_onlyUnasked _).bind fun d _ ↦ ?_
  refine .guard rfl <| .guard rfl ?_
  exact (ofValue_onlyUnasked env _).bind fun _ _ ↦ .ok trivial

theorem load_onlyUnasked (t : Tree) (env : Environment) (given : Option Path) (discover : Bool) :
    OnlyUnasked (load t env given discover) := by
  rw [load]
  refine (sourceOf_onlyUnasked t given discover).bind fun p _ ↦ ?_
  split
  · exact ofFile_onlyUnasked t env _
  · exact .ok trivial

theorem isError_of_load {given : Option Path} {discover : Bool}
    (h : load t env given discover = .error f) : f.isError = true := by
  have hload := load_onlyUnasked t env given discover
  rw [h] at hload
  exact hload.of_error.isError

end Config

end Stylesheet

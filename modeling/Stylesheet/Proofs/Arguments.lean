import Stylesheet.Command.Invocation

namespace Stylesheet.Command

variable {rules : List Rule} {mixed : Bool} {args : List String}
  {option : String × Option String} {options : List (String × Option String)}

def writtenOption : String × Option String → List String
  | (word, none) => [word]
  | (word, some value) => [word, value]

def IsRuled (rules : List Rule) (word : String) (takesValue : Bool) : Prop :=
  isOption word = true ∧ word ≠ "--" ∧
    readOption rules word = some (if takesValue then ([], some word) else ([(word, none)], none))

instance (rules : List Rule) (word : String) (takesValue : Bool) :
    Decidable (IsRuled rules word takesValue) :=
  inferInstanceAs (Decidable (_ ∧ _ ∧ _))

theorem parse_read {arg : String} (ho : isOption arg = true) (hw : arg ≠ "--")
    (hr : readOption rules arg = some (options, none)) (rest : List String) :
    parse rules mixed none (arg :: rest) =
      (parse rules mixed none rest).map fun p ↦ { p with options := options ++ p.options } := by
  simp only [parse, beq_iff_eq, hw, if_false, ho, if_true, hr]

theorem parse_option (h : IsRuled rules option.1 option.2.isSome) (rest : List String) :
    parse rules mixed none (writtenOption option ++ rest) =
      (parse rules mixed none rest).map fun p ↦ { p with options := option :: p.options } := by
  obtain ⟨word, value⟩ := option
  obtain ⟨ho, hw, hr⟩ := h
  cases value with
  | none => exact parse_read ho hw hr rest
  | some value =>
    simp_all [writtenOption, parse]
    rfl

theorem parse_options (h : ∀ option ∈ options, IsRuled rules option.1 option.2.isSome)
    (rest : List String) :
    parse rules mixed none (options.flatMap writtenOption ++ rest) =
      (parse rules mixed none rest).map fun p ↦ { p with options := options ++ p.options } := by
  induction options with
  | nil => simp
  | cons option more ih =>
    obtain ⟨hfirst, hmore⟩ := List.forall_mem_cons.1 h
    rw [List.flatMap_cons, List.append_assoc, parse_option hfirst, ih hmore, Option.map_map]
    rfl

theorem ofArguments_task {name : String} (ho : isOption name = false) (hw : name ≠ "--") :
    Invocation.ofArguments (name :: args) = .run { task := some name, arguments := args } := by
  have hp : parse Invocation.rules false none (name :: args) = some { arguments := name :: args } := by
    simp [parse, ho, hw]
  rw [Invocation.ofArguments, hp]
  rfl

namespace BuildOptions

variable (o : BuildOptions)

def words : List (String × Option String) :=
  (o.output.map fun path ↦ ("--output", some path)).toList ++
    o.includes.map (fun item ↦ ("--include", some item)) ++
    (o.compress.map fun b ↦ (if b then "--compress" else "--expanded", none)).toList ++
    if o.sassOnly then [("--sass", none)] else []

def arguments : List String := o.words.flatMap writtenOption ++ ["--", o.script]

theorem isRuled : ∀ r ∈ [("--output", true), ("--include", true), ("--compress", false),
    ("--expanded", false), ("--sass", false)], IsRuled (Task.rules "build") r.1 r.2 := by
  decide +kernel

theorem words_areRuled : ∀ w ∈ o.words, IsRuled (Task.rules "build") w.1 w.2.isSome := by
  have hruled := isRuled
  simp only [List.forall_mem_cons] at hruled
  obtain ⟨houtput, hinclude, hcompress, hexpanded, hsass, -⟩ := hruled
  simp only [words, List.mem_append, or_imp, forall_and, List.forall_mem_map]
  refine ⟨⟨⟨?_, fun _ _ ↦ hinclude⟩, ?_⟩, ?_⟩
  · cases o.output <;> simp [houtput]
  · rcases o.compress with _ | _ | _ <;> simp [hcompress, hexpanded]
  · cases o.sassOnly <;> simp [hsass]

theorem ofArguments_arguments : Task.ofArguments "build" o.arguments = .run (.build o) := by
  rw [Task.ofArguments, arguments, parse_options o.words_areRuled, parse]
  obtain ⟨script, output, includes, compress, sassOnly⟩ := o
  have hnone : includes.filter (fun _ ↦ false) = [] := List.filter_eq_nil_iff.2 (by simp)
  -- The words of the options are known once it is known which are there.
  rcases output with _ | path <;> rcases compress with _ | _ | _ <;> cases sassOnly <;>
    simp [words, Task.ofParsed, helpRule, Parsed.has, Parsed.value?, Parsed.values, Parsed.last?,
      List.filter_map, Function.comp_def, hnone]

end BuildOptions

end Stylesheet.Command

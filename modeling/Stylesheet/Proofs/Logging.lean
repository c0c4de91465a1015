import Stylesheet.Proofs.FailedBuild

namespace Stylesheet

namespace Json

def FailsMildly {α : Type} (r : Except Fault α) : Prop :=
  ∀ e, r = .error e → (e.isError && !e.isTooDeep) = true

namespace FailsMildly

variable {α β : Type}

theorem ok (a : α) : FailsMildly (.ok a) := nofun

theorem wrongType (text : String) : FailsMildly (.error (.wrongType text) : Except Fault α) := by
  rintro _ ⟨⟩
  rfl

theorem unwritable : FailsMildly (.error .unwritable : Except Fault α) := by
  rintro _ ⟨⟩
  rfl

theorem map {r : Except Fault α} (h : FailsMildly r) (f : α → β) : FailsMildly (r.map f) := by
  cases r with
  | ok a => nofun
  | error e =>
    rintro _ ⟨⟩
    exact h e rfl

theorem andThen {r : Except Fault α} {f : α → Except Fault β} (h : FailsMildly r)
    (hf : ∀ a, FailsMildly (f a)) : FailsMildly (r.bind f) := by
  cases r with
  | ok a => exact hf a
  | error e =>
    rintro _ ⟨⟩
    exact h e rfl

theorem ofInt (n : Int) (a : α) :
    FailsMildly (if Number.isWritable n then .ok a else .error .unwritable) := by
  split
  · exact .ok a
  · exact .unwritable

end FailsMildly

theorem nameOf_failsMildly (v : Value) : FailsMildly (nameOf v) := by
  cases v with
  | atom a =>
    cases a with
    | int n => exact .ofInt n _
    | bytes _ | path _ => exact .wrongType _
    | _ => exact .ok _
  | nan _ => exact .ok _
  | _ => exact .wrongType _

mutual

theorem ofValue_failsMildly : (v : Value) → FailsMildly (ofValue v)
  | .list items | .tuple items => by
    rw [ofValue]
    exact (ofItems_failsMildly items).map _
  | .dict entries => by
    rw [ofValue]
    exact (ofEntries_failsMildly entries).map _
  | .atom (.int n) => .ofInt n _
  | .atom (.bytes _) => .wrongType _
  | .atom (.path _) => .wrongType _
  | .atom .none | .atom (.bool _) | .atom (.float _) | .atom (.text _) | .nan _ => .ok _
  | .timestamp _ | .set _ | .body _ _ | .sheet _ | .context _ _ | .textStream _ | .byteStream _
  | .reader _ _ => .wrongType _

theorem ofItems_failsMildly : (items : List Value) → FailsMildly (ofItems items)
  | [] => .ok _
  | item :: rest => by
    have hbind : ofItems (item :: rest) =
        (ofValue item).bind fun j ↦ (ofItems rest).map (j :: ·) := by
      rw [ofItems]
      cases ofValue item <;> rfl
    rw [hbind]
    exact (ofValue_failsMildly item).andThen fun j ↦ (ofItems_failsMildly rest).map _

theorem ofEntries_failsMildly : (entries : List (Value × Value)) →
    FailsMildly (ofEntries entries)
  | [] => .ok _
  | (key, item) :: rest => by
    have hbind : ofEntries ((key, item) :: rest) = (nameOf key).bind fun name ↦
        (ofValue item).bind fun j ↦ (ofEntries rest).map ((name, j) :: ·) := by
      rw [ofEntries]
      cases nameOf key <;> cases ofValue item <;> rfl
    rw [hbind]
    refine (nameOf_failsMildly key).andThen fun name ↦ ?_
    exact (ofValue_failsMildly item).andThen fun j ↦ (ofEntries_failsMildly rest).map _

end

end Json

namespace Log

variable {r : Record}

theorem lineOrNothing_pure (line : String) : lineOrNothing (pure line) = pure (line ++ "\n") := rfl

theorem lineOrNothing_ofExcept {line : Except Fault String} (h : Json.FailsMildly line) :
    ∃ written, lineOrNothing (Build.ofExcept line) = pure written := by
  cases line with
  | ok line => exact ⟨line ++ "\n", rfl⟩
  | error e =>
    have hpassed : lineOrNothing (Build.ofExcept (.error e)) =
        if e.isError && !e.isTooDeep then pure "" else throw e := rfl
    exact ⟨"", by rw [hpassed, if_pos (h e rfl)]⟩

namespace Record.IsPlain

variable (activate : Builder.Activation)

theorem message_eq (h : r.IsPlain) : ∃ text, r.message activate = pure text := by
  obtain ⟨text, ht⟩ := h.template
  exact ⟨text, by rw [message, ht, h.args]; rfl⟩

theorem humanLine_eq (h : r.IsPlain) (colors : Bool) (time? : Option String) :
    ∃ line, r.humanLine activate colors time? = pure line := by
  obtain ⟨text, ht⟩ := h.message_eq activate
  unfold humanLine
  rw [ht]
  exact ⟨_, rfl⟩

theorem bareLine_eq (h : r.IsPlain) : ∃ line, r.bareLine activate = pure line := by
  obtain ⟨text, ht⟩ := h.message_eq activate
  unfold bareLine
  rw [ht]
  exact ⟨_, rfl⟩

theorem fieldEntries_eq (h : r.IsPlain) :
    ∃ entries, fieldEntries activate r.fields = pure entries := by
  rcases h.fields with hf | ⟨entries, hf⟩
  · exact ⟨[], by rw [hf]; rfl⟩
  · cases entries with
    | nil => exact ⟨[], by rw [hf]; rfl⟩
    | cons e rest => exact ⟨e :: rest, by rw [hf]; rfl⟩

theorem jsonLine_eq (h : r.IsPlain) (now : Moment) :
    ∃ line, r.jsonLine activate now = Build.ofExcept line ∧ Json.FailsMildly line := by
  obtain ⟨text, ht⟩ := h.message_eq activate
  obtain ⟨entries, he⟩ := h.fieldEntries_eq activate
  let j := Json.ofValue (.dict (Value.setEntries (r.baseEntries now text) entries))
  refine ⟨j.map Json.toLine, ?_, (Json.ofValue_failsMildly _).map _⟩
  rw [jsonLine, jsonEntries, ht, he]
  change (Build.ofExcept j >>= fun json ↦ pure json.toLine) = _
  cases j <;> rfl

theorem line_eq (h : r.IsPlain) (f : Formatter) (now : Moment) :
    ∃ written, lineOrNothing (f.line activate now r) = pure written := by
  cases f with
  | human colors timestamps =>
    obtain ⟨line, hl⟩ := h.humanLine_eq activate colors
      (if timestamps then some now.time else none)
    exact ⟨_, by rw [Formatter.line, hl, lineOrNothing_pure]⟩
  | verbose colors =>
    obtain ⟨line, hl⟩ := h.humanLine_eq activate colors (some now.time)
    exact ⟨_, by rw [Formatter.line, hl, lineOrNothing_pure]⟩
  | json =>
    -- Only here the making of the line can fail, and just with faults that are passed over.
    obtain ⟨line, hl, herror⟩ := h.jsonLine_eq activate now
    rw [Formatter.line, hl]
    exact lineOrNothing_ofExcept herror

theorem output_eq (h : r.IsPlain) (setup : Setup) (now : Moment) :
    ∃ out, setup.output activate now r = pure out := by
  obtain ⟨handled, hh⟩ := h.line_eq activate setup.formatter now
  obtain ⟨line, hl⟩ := h.bareLine_eq activate
  unfold Setup.output
  split <;> split
  · exact ⟨{ handled }, by rw [hh]; rfl⟩
  · exact ⟨{}, rfl⟩
  · exact ⟨{ unhandled := line ++ "\n" }, by rw [hl]; rfl⟩
  · exact ⟨{}, rfl⟩

end Record.IsPlain

def Record.IsHarmless (r : Record) : Prop :=
  ∀ (setup : Setup) (now : Moment), ∃ out, ∀ s,
    (setup.output Builder.activate now r).on s = (.ok out, s)

theorem Record.IsPlain.isHarmless (h : r.IsPlain) : r.IsHarmless := by
  intro setup now
  obtain ⟨out, hout⟩ := h.output_eq Builder.activate setup now
  exact ⟨out, fun s ↦ by rw [hout]; rfl⟩

end Log

namespace Preflight

open Build

theorem checkCompiler_isQuiet (required : Value) : (checkCompiler required).IsQuiet := by
  refine .get_bind (fun _ _ _ ↦ rfl) fun s ↦ ?_
  have havailable : Adapter.isAvailable.IsQuiet := by
    refine .bind (Engine.request_isQuiet _) fun _ ↦ .get_bind (fun _ _ _ ↦ rfl) fun s ↦ ?_
    exact .ite (.bind (.log _ _) fun _ ↦ .pure _) (.pure _)
  have hversion (a : Adapter) : a.version.IsQuiet := by
    refine .ite (.pure _) (.get_bind (fun _ _ _ ↦ rfl) fun _ ↦ .pure _)
  refine .ite (.pure _) (.bind havailable fun available ↦ ?_)
  exact .ite (.bind (hversion _) fun _ ↦ .pure _) (.pure _)

theorem run_isQuiet : run.IsQuiet := .bind (checkCompiler_isQuiet _) fun _ ↦ .pure _

end Preflight

namespace Command

open Command.Act Studio

theorem setFiles_logsPlainly (files : Files.Tree) :
    (modify fun s ↦ { s with files } : Act Unit).Keeps LogsPlainly := fun _ ↦ .of_records rfl

theorem loadConfig_logsPlainly (env : Environment) (given : Option Path) :
    (loadConfig env given).Keeps LogsPlainly := by
  have hR := logsPlainly_isSteady
  refine .get_bind fun s ↦ .bind hR (.stage hR ((Build.IsQuiet.ofExcept _).keeps hR) _) fun c ↦ ?_
  split
  · exact .bind hR (.note hR _ _) fun _ ↦ .pure hR _
  · exact .pure hR _

theorem writtenRecord_isPlain (form : String) (path : Path) (content : String) :
    (BuildOptions.writtenRecord form path content).IsPlain := ⟨⟨_, rfl⟩, rfl, .inr ⟨_, rfl⟩⟩

theorem deliver_logsPlainly (o : BuildOptions) (c : Config) (content : Value) :
    (o.deliver c content).Keeps LogsPlainly := by
  have hR := logsPlainly_isSteady
  refine .bind hR (.ofExcept hR _) fun destination ↦ ?_
  split
  · exact .ite (.pure hR _) (.ofExcept hR _)
  · refine .get_bind fun s ↦ .bind hR (.ofExcept hR _) fun files ↦ ?_
    refine .bind hR (setFiles_logsPlainly files) fun _ ↦ ?_
    exact .bind hR (.log hR (writtenRecord_isPlain _ _ _)) fun _ ↦ .pure hR _
  · refine .get_bind fun s ↦ .bind hR (.ofExcept hR _) fun files ↦ ?_
    exact .bind hR (setFiles_logsPlainly files) fun _ ↦ .ofExcept hR _

theorem init_logsPlainly (o : InitOptions) : o.perform.Keeps LogsPlainly := by
  have hR := logsPlainly_isSteady
  have hwrite (files : Files.Tree) (path : Path) : (do
      let files ← Act.ofExcept (writeBelow files path Config.defaultText)
      modify fun s ↦ { s with files }
      Act.note Log.info ("Created " ++ path.toString)
      return "" : Act String).Keeps LogsPlainly := by
    refine .bind hR (.ofExcept hR _) fun files ↦ .bind hR (setFiles_logsPlainly files) fun _ ↦ ?_
    exact .bind hR (.note hR _ _) fun _ ↦ .pure hR _
  have hrest (path : Path) : (do
      let files := (← get).files
      if (← Act.ofExcept (files.holds path)) && !o.force then
        Act.fail ("Config file already exists: " ++ path.toString ++ " (use --force to overwrite)")
      let files ← Act.ofExcept (writeBelow files path Config.defaultText)
      modify fun s ↦ { s with files }
      Act.note Log.info ("Created " ++ path.toString)
      return "" : Act String).Keeps LogsPlainly := by
    refine .get_bind fun s ↦ .bind hR (.ofExcept hR _) fun there ↦ ?_
    exact .ite (.bind hR (.fail hR _) fun _ ↦ hwrite _ _) (hwrite _ _)
  refine .bind hR (standing_keeps hR _) fun found ↦ ?_
  exact .ite (.bind hR (.throw hR _) fun _ ↦ hrest _) (hrest _)

theorem task_logsPlainly (c : Config) (task : Task) : (task.perform c).Keeps LogsPlainly := by
  have hR := logsPlainly_isSteady
  cases task with
  | build o =>
    change (o.perform c).Keeps LogsPlainly
    rw [BuildOptions.perform_eq]
    exact .bind hR (o.make_keeps hR c) fun content ↦ deliver_logsPlainly o c content
  | check json =>
    refine .bind hR (.stage hR (Preflight.run_isQuiet.keeps hR) _) fun report ↦ ?_
    refine .bind hR (.ofExcept hR _) fun printed ↦ ?_
    split
    · exact .pure hR _
    · exact .throw hR _
  | init o => exact init_logsPlainly o

theorem demanded_logsPlainly {α : Type} (d : Demand α) {f : α → Act String}
    (hf : ∀ a, (f a).Keeps LogsPlainly) : (demanded d f).Keeps LogsPlainly := by
  have hR := logsPlainly_isSteady
  cases d with
  | run a => exact hf a
  | version => exact .pure hR _
  | help => exact .pure hR _
  | misuse => exact .throw hR _

theorem perform_logsPlainly (env : Environment) (i : Invocation) :
    (perform env i).Keeps LogsPlainly := by
  have hR := logsPlainly_isSteady
  have hgiven (path : String) : (some <$> requireFile path).Keeps LogsPlainly := by
    rw [map_eq_pure_bind]
    exact .bind hR (requireFile_keeps hR _) fun _ ↦ .pure hR _
  unfold perform
  rcases i.task with _ | name
  · rcases i.config with _ | path
    · exact .bind hR (.pure hR _) fun _ ↦ .throw hR _
    · exact .bind hR (hgiven path) fun _ ↦ .throw hR _
  · have hrest (given : Option Path) : (if Task.names.contains name then do
        let c ← loadConfig env given
        demanded (Task.ofArguments name i.arguments) (Task.perform c)
      else demanded (Invocation.ofArguments (name :: i.arguments)) fun _ ↦ Act.stop .misused :
        Act String).Keeps LogsPlainly := by
      refine .ite (.bind hR (loadConfig_logsPlainly env given) fun c ↦ ?_) ?_
      · exact demanded_logsPlainly _ (task_logsPlainly c)
      · exact demanded_logsPlainly _ fun _ ↦ .throw hR _
    rcases i.config with _ | path
    · exact .bind hR (.pure hR _) hrest
    · exact .bind hR (hgiven path) hrest

def outcomeOf (w : World) (args : List String) : Except Stop String × Studio :=
  (demanded (Invocation.ofArguments args) (perform w.environment)).on w.studio

def Report.ofOutcome (setup : Log.Setup) : Except Stop String × Studio → Report
  | (.ok printed, studio) => { ending := .done, printed, setup, studio }
  | (.error halt, studio) => { ending := halt.ending, printed := halt.printed, setup, studio }

theorem run_eq (w : World) (isTerminal : Bool) (args : List String) :
    run w isTerminal args = .ofOutcome
      (.ofSwitches (switchesOf (Invocation.ofArguments args)) isTerminal) (outcomeOf w args) := by
  rw [run, outcomeOf, Act.on]
  rcases (demanded (Invocation.ofArguments args) (perform w.environment)).run.run w.studio with
    ⟨_ | _, _⟩ <;> rfl

theorem studio_run (w : World) (isTerminal : Bool) (args : List String) :
    (run w isTerminal args).studio = (outcomeOf w args).2 := by
  rw [run_eq]
  rcases outcomeOf w args with ⟨_ | _, _⟩ <;> rfl

theorem setup_run (w : World) (isTerminal : Bool) (args : List String) :
    (run w isTerminal args).setup =
      .ofSwitches (switchesOf (Invocation.ofArguments args)) isTerminal := by
  rw [run_eq]
  rcases outcomeOf w args with ⟨_ | _, _⟩ <;> rfl

theorem run_logsPlainly (w : World) (isTerminal : Bool) (args : List String) :
    ∀ r ∈ (run w isTerminal args).studio.records, r.IsPlain := by
  have hlogs : w.studio.LogsPlainly (outcomeOf w args).2 :=
    demanded_logsPlainly _ (perform_logsPlainly w.environment) w.studio
  obtain ⟨added, hadded, hplain⟩ := hlogs
  have hnew : (outcomeOf w args).2.records = added := hadded
  rw [studio_run, hnew]
  exact hplain

def switchWords : List String := ["--verbose", "--quiet", "--ci"]

def Parsed.withoutSwitches (p : Parsed) : Parsed :=
  { p with options := p.options.filter fun o ↦ !switchWords.contains o.1 }

/-- Two command lines that are the same, but that other switches are set at other places. -/
def SameButSwitches (args args' : List String) : Prop :=
  (parse Invocation.rules false none args).map Parsed.withoutSwitches =
    (parse Invocation.rules false none args').map Parsed.withoutSwitches

theorem SameButSwitches.trans {args args' args'' : List String} (h : SameButSwitches args args')
    (h' : SameButSwitches args' args'') : SameButSwitches args args'' := Eq.trans h h'

theorem read_switch : ∀ word ∈ ["--verbose", "-v", "--quiet", "-q", "--ci"], ∃ long ∈ switchWords,
    isOption word = true ∧ word ≠ "--" ∧
      readOption Invocation.rules word = some ([(long, none)], none) := by
  decide +kernel

/-- A switch may be put anywhere among the options of the program. -/
theorem sameButSwitches_of_switch (options : List (String × Option String)) {word : String}
    (h : ∀ option ∈ options, IsRuled Invocation.rules option.1 option.2.isSome)
    (hw : word ∈ ["--verbose", "-v", "--quiet", "-q", "--ci"]) (rest : List String) :
    SameButSwitches (options.flatMap writtenOption ++ rest)
      (options.flatMap writtenOption ++ word :: rest) := by
  obtain ⟨long, hlong, ho, hne, hread⟩ := read_switch word hw
  rw [SameButSwitches, parse_options h, parse_options h, parse_read ho hne hread]
  simp only [Option.map_map]
  congr 1
  funext p
  simp [Parsed.withoutSwitches, hlong]

namespace Parsed

variable (p : Parsed)

theorem first?_withoutSwitches {words : List String} (h : ∀ word ∈ words, word ∉ switchWords) :
    p.withoutSwitches.first? words = p.first? words := by
  have hwords : (fun o : String × Option String ↦
      !switchWords.contains o.1 && words.contains o.1) = fun o ↦ words.contains o.1 := by
    funext o
    by_cases ho : o.1 ∈ words
    · simp [ho, h _ ho]
    · simp [ho]
  simp only [first?, withoutSwitches, List.find?_map, List.find?_filter, Function.comp_def,
    Bool.decide_and, Bool.decide_eq_true, hwords]

theorem values_withoutSwitches {word : String} (h : word ∉ switchWords) :
    p.withoutSwitches.values word = p.values word := by
  have hword : (fun o : String × Option String ↦
      o.1 == word && !switchWords.contains o.1) = fun o ↦ o.1 == word := by
    funext o
    by_cases ho : o.1 = word
    · simp [ho, h]
    · simp [ho]
  simp only [values, withoutSwitches, List.filter_filter, hword]

end Parsed

def performReading (env : Environment) : Option Parsed → Act String
  | none => Act.stop .misused
  | some p =>
    match p.first? ["--version", "--help"] with
    | some word => return if word = "--version" then version else usage
    | none => perform env (.ofParsed p)

theorem performReading_withoutSwitches (env : Environment) (reading : Option Parsed) :
    performReading env (reading.map Parsed.withoutSwitches) = performReading env reading := by
  cases reading with
  | none => rfl
  | some p =>
    have hfirst : p.withoutSwitches.first? ["--version", "--help"] =
        p.first? ["--version", "--help"] := p.first?_withoutSwitches (by decide)
    have hconfig : p.withoutSwitches.value? "--config" = p.value? "--config" :=
      congrArg List.getLast? (p.values_withoutSwitches (by decide))
    rw [Option.map_some, performReading, performReading, hfirst]
    cases p.first? ["--version", "--help"] with
    | some word => rfl
    | none =>
      -- The task is performed without a look at the switches.
      simp only [perform, Invocation.ofParsed, hconfig]
      rfl

theorem demanded_ofArguments (env : Environment) (args : List String) :
    demanded (Invocation.ofArguments args) (perform env) =
      performReading env (parse Invocation.rules false none args) := by
  cases args with
  | nil => rfl
  | cons arg rest =>
    rw [Invocation.ofArguments]
    simp only [List.isEmpty_cons, Bool.false_eq_true, if_false]
    cases parse Invocation.rules false none (arg :: rest) with
    | none => rfl
    | some p =>
      rw [performReading]
      dsimp only
      cases p.first? ["--version", "--help"] with
      | none => rfl
      | some word =>
        dsimp only
        split <;> rfl

theorem SameButSwitches.outcome_eq {args args' : List String} (h : SameButSwitches args args')
    (w : World) : outcomeOf w args' = outcomeOf w args := by
  rw [outcomeOf, outcomeOf, demanded_ofArguments, demanded_ofArguments,
    ← performReading_withoutSwitches, ← h, performReading_withoutSwitches]

theorem SameButSwitches.same_report {args args' : List String} (h : SameButSwitches args args')
    (w : World) (isTerminal : Bool) :
    let r := run w isTerminal args
    let r' := run w isTerminal args'
    r'.ending = r.ending ∧ r'.printed = r.printed ∧ r'.studio = r.studio := by
  intro r r'
  have hr : r = .ofOutcome _ (outcomeOf w args) := run_eq w isTerminal args
  have hr' : r' = .ofOutcome _ (outcomeOf w args') := run_eq w isTerminal args'
  rw [hr, hr', h.outcome_eq w]
  rcases outcomeOf w args with ⟨_ | _, _⟩ <;> exact ⟨rfl, rfl, rfl⟩

/-- Two command lines that differ in their switches only end alike, print the same and leave the same
studio, with its files, its requests to the compiler and its log records. To write these, in whatever
form, cannot fail and changes nothing. -/
theorem switches_change_the_log_only {args args' : List String} (h : SameButSwitches args args')
    (w : World) (isTerminal : Bool) :
    let r := run w isTerminal args
    let r' := run w isTerminal args'
    r'.ending = r.ending ∧ r'.printed = r.printed ∧ r'.studio.files = r.studio.files ∧
    r'.studio.requests = r.studio.requests ∧ r'.studio.records = r.studio.records ∧
    ∀ record ∈ r.studio.records, record.IsHarmless := by
  intro r r'
  obtain ⟨hending, hprinted, hstudio⟩ := h.same_report w isTerminal
  refine ⟨hending, hprinted, congrArg Studio.files hstudio, congrArg Studio.requests hstudio,
    congrArg Studio.records hstudio, fun record hrecord ↦ ?_⟩
  exact (run_logsPlainly w isTerminal args record hrecord).isHarmless

/-- More is written of the log, and nothing else is different. -/
theorem switched_workshop :
    SameButSwitches ["build", "--", "a.py"] ["--ci", "-v", "build", "--", "a.py"] ∧
    let r := run workshop false ["build", "--", "a.py"]
    let r' := run workshop false ["--ci", "-v", "build", "--", "a.py"]
    r'.ending = r.ending ∧ r'.printed = r.printed ∧ r'.studio.files = r.studio.files ∧
    r'.studio.requests = r.studio.requests ∧ r'.setup.level < r.setup.level := by
  have hverbose (args : List String) : SameButSwitches args ("-v" :: args) :=
    sameButSwitches_of_switch [] (by simp) (by simp) args
  have hci (args : List String) : SameButSwitches args ("--ci" :: args) :=
    sameButSwitches_of_switch [] (by simp) (by simp) args
  have h := (hverbose ["build", "--", "a.py"]).trans (hci _)
  obtain ⟨hending, hprinted, hfiles, hrequests, -⟩ := switches_change_the_log_only h workshop false
  refine ⟨h, hending, hprinted, hfiles, hrequests, ?_⟩
  rw [setup_run, setup_run]
  decide +kernel

end Command

end Stylesheet

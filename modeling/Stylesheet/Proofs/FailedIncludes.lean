import Stylesheet.Proofs.Decoding
import Stylesheet.Proofs.FailedBuild
import Stylesheet.Proofs.Joining

namespace Stylesheet

namespace Include

open Build Builder

variable {activate : Activation} {items : List Value} {item : Value} {texts : List String}
  {files : Files.Tree} {x : String} {s t u : Studio} {f : Fault}

/-- A value that cannot be included, and what it says: it is no text, or it names a file and the bytes of
the file are none. -/
inductive Refuses (files : Files.Tree) : Value → Fault → Prop
  | unsupported {item : Value} (h : ∀ name, item ≠ .text name) :
      Refuses files item (.unsupportedInclude item.typeName)
  | undecodable {name : String} {bytes : ByteArray} (h : files.find name = .ok (.file bytes))
      (hb : ¬ bytes.IsValidUTF8) : Refuses files (.text name) (.ofBytes bytes)

/-- The first value in a list that is refused. Those in front of it stand for texts. -/
inductive RefusedFirst (files : Files.Tree) : List Value → Fault → Prop
  | here {item : Value} {rest : List Value} {f : Fault} (h : Refuses files item f) :
      RefusedFirst files (item :: rest) f
  | behind {item : Value} {rest : List Value} {x : String} {f : Fault} (h : StandsFor files item x)
      (hr : RefusedFirst files rest f) : RefusedFirst files (item :: rest) f

theorem find_of_isFile {name : String} (h : files.isFile name = true) :
    ∃ bytes, files.find name = .ok (.file bytes) := by
  rw [Files.Tree.isFile] at h
  split at h
  · next bytes hf => exact ⟨bytes, hf⟩
  · cases h

theorem readText_file {name : String} {bytes : ByteArray} (h : files.find name = .ok (.file bytes)) :
    files.readText name = (Content.bytes bytes).source.map Text.unified :=
  @readText_of_find { files } bytes name h

theorem readText_undecodable {name : String} {bytes : ByteArray}
    (h : files.find name = .ok (.file bytes)) (hb : ¬ bytes.IsValidUTF8) :
    files.readText name = .error (.ofBytes bytes) := by
  rw [readText_file h, Content.source, Text.decodeUtf8?_eq_none hb]
  rfl

theorem standsFor_file {name : String} {bytes : ByteArray} (h : files.find name = .ok (.file bytes)) :
    (∃ x, StandsFor files (.text name) x) ↔ bytes.IsValidUTF8 := by
  have hfile : files.isFile name = true := @isFile_of_find { files } bytes name h
  constructor
  · rintro ⟨x, _, hname, hx⟩
    cases hname
    by_contra hb
    rw [if_pos hfile, readText_undecodable h hb] at hx
    cases hx
  · intro hb
    obtain ⟨x, hx, -⟩ := Text.decodeUtf8?_eq_some hb
    refine ⟨Text.unified x, name, rfl, ?_⟩
    rw [if_pos hfile, readText_file h, Content.source, hx]
    rfl

theorem standsFor_iff (files : Files.Tree) (item : Value) :
    (∃ x, StandsFor files item x) ↔ ∀ f, ¬ Refuses files item f := by
  constructor
  · rintro ⟨x, hx⟩ f hf
    cases hf with
    | unsupported h =>
      obtain ⟨name, hname, -⟩ := hx
      exact h name hname
    | undecodable h hb => exact hb ((standsFor_file h).1 ⟨x, hx⟩)
  · intro hnone
    by_cases ht : ∃ name, item = .text name
    · obtain ⟨name, rfl⟩ := ht
      rcases hf : files.isFile name with _ | _
      · exact ⟨name, name, rfl, by simp [hf]⟩
      · obtain ⟨bytes, hbytes⟩ := find_of_isFile hf
        refine (standsFor_file hbytes).2 ?_
        by_contra hb
        exact hnone _ (.undecodable hbytes hb)
    · exact absurd (.unsupported fun name h ↦ ht ⟨name, h⟩) (hnone _)

theorem forall_standsFor_iff (files : Files.Tree) (items : List Value) :
    (∃ texts, items.Forall₂ (StandsFor files) texts) ↔ ∀ item ∈ items, ∀ f, ¬ Refuses files item f := by
  induction items with
  | nil => exact ⟨fun _ ↦ nofun, fun _ ↦ ⟨[], .nil⟩⟩
  | cons item rest ih =>
    rw [List.forall_mem_cons, ← standsFor_iff, ← ih]
    constructor
    · rintro ⟨_, h⟩
      cases h with
      | cons hitem hrest => exact ⟨⟨_, hitem⟩, _, hrest⟩
    · rintro ⟨⟨x, hx⟩, texts, htexts⟩
      exact ⟨x :: texts, .cons hx htexts⟩

theorem exists_refusedFirst (h : ∃ item ∈ items, ∃ f, Refuses files item f) :
    ∃ f, RefusedFirst files items f := by
  obtain ⟨item, hmem, f, hf⟩ := h
  induction items with
  | nil => cases hmem
  | cons first rest ih =>
    by_cases hfirst : ∃ f, Refuses files first f
    · obtain ⟨f, hf⟩ := hfirst
      exact ⟨f, .here hf⟩
    · obtain ⟨x, hx⟩ := (standsFor_iff files first).2 (not_exists.1 hfirst)
      rcases List.mem_cons.1 hmem with rfl | hmem
      · exact absurd ⟨f, hf⟩ hfirst
      · obtain ⟨f, hrest⟩ := ih hmem
        exact ⟨f, .behind hx hrest⟩

theorem RefusedFirst.refuses (h : RefusedFirst files items f) :
    ∃ item, Refuses files item f := by
  induction h with
  | here h => exact ⟨_, h⟩
  | behind h hr ih => exact ih

theorem Refuses.inIteration_eq (h : Refuses files item f) :
    f.inIteration = f := by
  cases h <;> exact Fault.inIteration_of_unasked nofun

def reading (name : String) : Log.Record :=
  .plain "py2sass.compiler" Log.debug ("Reading include file: " ++ name)

def OnlyReads (s t : Studio) : Prop :=
  ∃ names : List String, t = { s with records := s.records ++ names.map reading }

theorem OnlyReads.refl (s : Studio) : OnlyReads s s := ⟨[], by simp⟩

theorem OnlyReads.trans (h : OnlyReads s t) (h' : OnlyReads t u) : OnlyReads s u := by
  obtain ⟨names, rfl⟩ := h
  obtain ⟨names', rfl⟩ := h'
  exact ⟨names ++ names', by simp⟩

theorem OnlyReads.record (s : Studio) (name : String) : OnlyReads s (s.record (reading name)) :=
  ⟨[name], rfl⟩

theorem OnlyReads.files_eq (h : OnlyReads s t) : t.files = s.files := by
  obtain ⟨names, rfl⟩ := h
  rfl

theorem on_resolve_read (activate : Activation) {name : String} (h : s.files.isFile name = true) :
    (resolve activate (.text name)).on s = (s.files.readText name, s.record (reading name)) := by
  rw [on_resolve_file h, on_readFile, reading]

theorem on_resolve_standsFor (activate : Activation) (h : StandsFor s.files item x) :
    ∃ t, (resolve activate item).on s = (.ok x, t) ∧ OnlyReads s t := by
  obtain ⟨name, rfl, h⟩ := h
  rcases hf : s.files.isFile name with _ | _
  · obtain rfl : x = name := by simpa [hf] using h
    exact ⟨s, on_resolve_text hf, .refl s⟩
  · rw [if_pos hf] at h
    rw [on_resolve_read activate hf, h]
    exact ⟨_, rfl, .record s name⟩

theorem on_resolve_refuses (activate : Activation) (hi : item.IsWritten) (h : Refuses s.files item f) :
    ∃ t, (resolve activate item).on s = (.error f, t) ∧ OnlyReads s t := by
  cases h with
  | unsupported h =>
    refine ⟨s, ?_, .refl s⟩
    cases hi with
    | @atom a ha =>
      cases a with
      | text name => exact absurd rfl (h name)
      | path p => exact absurd rfl (ha p)
      | _ => rfl
    | _ => rfl
  | @undecodable name bytes h hb =>
    rw [on_resolve_read activate (isFile_of_find h), readText_undecodable h hb]
    exact ⟨_, rfl, .record s name⟩

/-- The first refused value of a list is the first that fails, and nothing but reading is done before. -/
theorem RefusedFirst.fails (activate : Activation) (hi : ∀ v ∈ items, v.IsWritten)
    (h : RefusedFirst s.files items f) :
    ∃ before item after texts t u, items = before ++ item :: after ∧ Resolves activate before s texts t ∧
      (resolve activate item).on t = (.error f, u) ∧ OnlyReads s u := by
  -- Reading changes no file, so that what is refused behind the first value is so in the studio left by it.
  generalize hfiles : s.files = files at h
  induction h generalizing s with
  | @here item rest f h =>
    rw [← hfiles] at h
    obtain ⟨u, hu, hreads⟩ := on_resolve_refuses activate (hi item (List.mem_cons_self ..)) h
    exact ⟨[], item, rest, [], s, u, rfl, .nil s, hu, hreads⟩
  | @behind first rest x f h hr ih =>
    obtain ⟨hfirst, hrest⟩ := List.forall_mem_cons.1 hi
    rw [← hfiles] at h
    obtain ⟨t, ht, hreads⟩ := on_resolve_standsFor activate h
    obtain ⟨before, item, after, texts, u, v, rfl, hbefore, hv, hreads'⟩ :=
      ih hrest (hreads.files_eq.trans hfiles)
    exact ⟨first :: before, item, after, x :: texts, u, v, rfl, .cons ht hbefore, hv, hreads.trans hreads'⟩

end Include

namespace Command

open Include BuildOptions Command.Act

variable {w : World} {args : List String} {i : Invocation} {o : BuildOptions} {c : Config} {id : SheetId}
  {T : String} {s t u : Studio} {f : Fault} {halt : Stop}

theorem AsksFor.run_of_make_error (ha : AsksFor w args i o c) (isTerminal : Bool)
    (h : (o.make c).on (w.configured c) = (.error halt, t)) :
    run w isTerminal args =
      { ending := halt.ending, printed := halt.printed, setup := .ofSwitches i.switches isTerminal,
        studio := t } := by
  refine run_of_error isTerminal ha.invocation ?_
  rw [ha.on_perform, perform_eq, Act.on_bind_error h]

def refusal (f : Fault) : Log.Record :=
  .plain Log.mainLogger Log.error ("Failed to resolve includes: " ++ f.text)

theorem lets_error (switches : Log.Switches) (isTerminal : Bool) :
    (Log.Setup.ofSwitches switches isTerminal).lets Log.error = true := by
  obtain ⟨verbose, quiet, json⟩ := switches
  cases verbose <;> cases quiet <;> rfl

/-- What a build leaves that has rendered its document and is refused an include: only notes on files that
are read are added to the log, and a report on errors, which every setup lets through. -/
structure Refused (w : World) (t : Studio) (ending : Ending) (report : List Log.Record) (r : Report) :
    Prop extends Leaves w ending r where
  requests : r.studio.requests = t.requests
  records : ∃ names : List String, r.studio.records = t.records ++ names.map reading ++ report
  lets : r.setup.lets Log.error = true

theorem reported_eq (report : Fault → Option String) (f : Fault) (s : Studio) :
    reported report f s = { s with
      records := s.records ++ ((report f).map (.plain Log.mainLogger Log.error)).toList } := by
  rw [reported]
  cases report f with
  | none => simp
  | some message => rfl

theorem Renders.refused (h : Renders w args i o c id s T t) (isTerminal : Bool)
    (hf : RefusedFirst w.files (c.compile.includes ++ o.includes.map .text) f) :
    Refused w t (.reporting compileReport f)
      ((compileReport f).map (.plain Log.mainLogger Log.error)).toList (run w isTerminal args) := by
  rw [← h.files] at hf
  obtain ⟨before, item, after, texts, u, v, hitems, hbefore, hv, names, rfl⟩ :=
    hf.fails Builder.activate h.items_isWritten
  obtain ⟨_, hrefuses⟩ := hf.refuses
  have hmake := h.on_make_item hitems hbefore hv
  rw [hrefuses.inIteration_eq] at hmake
  have hleaves := h.leaves_of_make isTerminal hmake
  have hrun := h.run_of_make_error isTerminal hmake
  rw [reported_eq] at hrun
  exact
    { hleaves with
      requests := by rw [hrun]
      records := ⟨names, by rw [hrun]⟩
      lets := by rw [hrun]; exact lets_error _ _ }

/-- Either all includes of a build stand for texts, or one of them is refused, and then the build comes to
nothing. If the first that is refused is no text, there is one report on it, and the build has failed. If its
bytes are no text, there is none, and the error is let through. -/
theorem refused_include_ends_build (h : Renders w args i o c id s T t) (isTerminal : Bool) :
    let items := c.compile.includes ++ o.includes.map .text
    let r := run w isTerminal args
    ((∃ texts, items.Forall₂ (StandsFor w.files) texts) ↔
      ∀ item ∈ items, ∀ f, ¬ Refuses w.files item f) ∧
    ((∃ item ∈ items, ∃ f, Refuses w.files item f) → ∃ f, RefusedFirst w.files items f) ∧
    ∀ f, RefusedFirst w.files items f →
      (∃ name, f = .unsupportedInclude name ∧ Refused w t .failed [refusal f] r) ∨
      ∃ bytes : ByteArray, ¬ bytes.IsValidUTF8 ∧ f = .ofBytes bytes ∧ Refused w t (.crashed f) [] r := by
  intro items r
  refine ⟨forall_standsFor_iff w.files items, exists_refusedFirst, fun f hf ↦ ?_⟩
  have hrefused := h.refused isTerminal hf
  obtain ⟨item, hrefuses⟩ := hf.refuses
  cases hrefuses with
  | unsupported h => exact .inl ⟨_, rfl, hrefused⟩
  | undecodable h hb => exact .inr ⟨_, hb, rfl, hrefused⟩

def folderOf (more : List (Files.Location × Files.Node)) : World :=
  { files := { nodes := (["a.py"], .file scriptText.toUTF8) :: more } }

theorem configured_eq (w : World) (c : Config) :
    w.configured c = { w.studio with records := (w.configured c).records } := by
  rw [World.configured]
  cases c.source <;> rfl

theorem renders_folderOf {more : List (Files.Location × Files.Node)} {includes : List String}
    (ha : AsksFor (folderOf more) args i { script := "a.py", includes } c) :
    ∃ s T t, Renders (folderOf more) args i { script := "a.py", includes } c 0 s T t := by
  have hscript : (folderOf more).HoldsScript := holdsScript more {}
  have hl := hscript.loads_behind ((folderOf more).configured c).records
  rw [← configured_eq] at hl
  have hr : (Builder.render Builder.activate 0).on { (folderOf more).loaded with
      records := ((folderOf more).configured c).records ++ (folderOf more).loaded.records } =
      (.ok "\x1b[31ma", _) := rfl
  exact ⟨_, _, _, { ha with
      canStart := BuildOptions.canStart nofun hl
      load := hl
      render := hr
      compiles := rfl }⟩

/-- A folder with a configuration that includes a number. -/
def numbered : World := folderOf [(["py2sass.yaml"], .file "compile: \x7binclude: [5]\x7d\n".toUTF8)]

theorem numbered_config : ∃ c item, Config.load numbered.files numbered.environment none true = .ok c ∧
    c.compile.includes = [item] ∧ item.typeName = "int" := by
  have htypes : (Config.load numbered.files numbered.environment none true).toOption.map
      (fun c ↦ c.compile.includes.map Value.typeName) = some ["int"] := by decide +kernel
  rcases hload : Config.load numbered.files numbered.environment none true with f | c
  · rw [hload] at htypes
    cases htypes
  · rw [hload] at htypes
    obtain ⟨item, hitem, htype⟩ := List.map_eq_singleton_iff.1 (Option.some.inj htypes)
    exact ⟨c, item, rfl, hitem, htype⟩

theorem refused_include_ends_build_of_number :
    ∃ i c s T t item, Renders numbered ["build", "--", "a.py"] i { script := "a.py" } c 0 s T t ∧
      c.compile.includes = [item] ∧ Refuses numbered.files item (.unsupportedInclude "int") ∧
      Refused numbered t .failed [refusal (.unsupportedInclude "int")]
        (run numbered false ["build", "--", "a.py"]) := by
  obtain ⟨c, item, hload, hincludes, htype⟩ := numbered_config
  obtain ⟨s, T, t, h⟩ := renders_folderOf (asksFor_arguments { script := "a.py" } hload)
  have hrefuses : Refuses numbered.files item (.unsupportedInclude "int") := by
    rw [← htype]
    refine .unsupported fun name hname ↦ ?_
    have hstr : (Value.text name).typeName = "str" := rfl
    rw [hname, hstr] at htype
    exact absurd htype (by decide)
  obtain ⟨-, -, hends⟩ := refused_include_ends_build h false
  rw [hincludes] at hends
  rcases hends _ (.here hrefuses) with ⟨name, -, hrefused⟩ | ⟨bytes, -, hbytes, -⟩
  · exact ⟨_, c, s, T, t, item, h, hincludes, hrefuses, hrefused⟩
  · cases hbytes

/-- A folder with a file whose only byte is no text. -/
def garbled : World := folderOf [(["b.scss"], .file ⟨#[0xFF]⟩)]

/-- The option for includes does not report a file that is no text: the error is let through, and nothing
is logged as an error. -/
theorem undecodable_include_escapes :
    ∃ i s T t, Renders garbled ["build", "--include", "b.scss", "--", "a.py"] i
        { script := "a.py", includes := ["b.scss"] } {} 0 s T t ∧
      Refuses garbled.files (.text "b.scss") (.ofBytes ⟨#[0xFF]⟩) ∧
      (Fault.ofBytes ⟨#[0xFF]⟩).kind = "UnicodeDecodeError" ∧
      ∀ isTerminal, Refused garbled t (.crashed (.ofBytes ⟨#[0xFF]⟩)) []
        (run garbled isTerminal ["build", "--include", "b.scss", "--", "a.py"]) := by
  have ha := asksFor_arguments (w := garbled) { script := "a.py", includes := ["b.scss"] } rfl
  obtain ⟨s, T, t, h⟩ := renders_folderOf ha
  have hrefuses : Refuses garbled.files (.text "b.scss") (.ofBytes ⟨#[0xFF]⟩) :=
    .undecodable rfl (by decide)
  exact ⟨_, s, T, t, h, hrefuses, rfl, fun isTerminal ↦ h.refused isTerminal (.here hrefuses)⟩

end Command

end Stylesheet

import Stylesheet.Proofs.Readings

namespace Stylesheet.Builder

open Build Vocabulary

namespace Reading

section

variable {names before after : List String} {table table' : Table String Vocabulary.Entry}
  {word name : String} {e : Vocabulary.Entry}

theorem call_property {ρ : Reading} {activate : Activation} {id : SheetId} {property : String}
    {args : List Value} {named : List (String × Value)} (hf : IsFree name)
    (hρ : ρ name = .method .declare [.text property]) :
    ρ.call activate ⟨.sheet id, name, args, named⟩ =
      Spelling.run activate ⟨.sheet id, "declare", .text property :: args, named⟩ := by
  have hfound : ρ.ofValue (.sheet id) name = .ok (.method .declare [.text property]) := by
    simp [ofValue, ofSheet, hf.method, hf.property, hf.isPublic, hρ]
  rw [call, hfound, run_on_sheet (ofSheet_method rfl)]
  change (Build.ofExcept (Method.declare.bind (.text property :: args) named) >>= _) =
    Build.ofExcept (Method.declare.bind (.text property :: args) named) >>= _
  rcases hb : Method.declare.bind (.text property :: args) named with e | c
  · rfl
  · obtain ⟨_, _, rfl⟩ := of_declare_bind hb
    rfl

theorem ofTable_property (hb : Vocabulary.build names = .ok table)
    (hn : ∀ word ∈ names, startsWithMarker word = false → '_' ∉ word.toList)
    (he : table.get? name = some e) (hd : e.isDirective = false) :
    ofTable table name = ofTable [] name := by
  obtain ⟨-, rfl⟩ := build_eq_ok_iff.1 hb
  obtain ⟨word, hword, rfl, rfl⟩ := of_get?_tableOf he
  have hm : startsWithMarker word = false := isDirective_ofWord word ▸ hd
  have hback : propertyName (methodName word) = word :=
    propertyName_methodName hm (hn word hword hm)
  simp [ofTable, he, hd, hback]

/-- A name is looked up among the other words, or it is that of the new word and nothing else has it. -/
theorem ofTable_add (hm : startsWithMarker word = false) (hu : '_' ∉ word.toList)
    (hb : Vocabulary.build (before ++ after) = .ok table)
    (hb' : Vocabulary.build (before ++ word :: after) = .ok table') : ofTable table' = ofTable table := by
  obtain ⟨-, rfl⟩ := build_eq_ok_iff.1 hb
  obtain ⟨hd, rfl⟩ := build_eq_ok_iff.1 hb'
  funext name
  by_cases hname : methodName word = name
  · subst hname
    have hnew : methodName word ∉ (before ++ after).map methodName := by
      rw [List.map_append, List.map_cons, List.nodup_middle, List.nodup_cons] at hd
      rw [List.map_append]
      exact hd.1
    have hmem : word ∈ before ++ word :: after := by simp
    have hfound : (tableOf (before ++ word :: after)).get? (methodName word) =
        some (Vocabulary.Entry.ofWord word) := Table.get?_map_of_mem _ hd hmem
    have hnone : (tableOf (before ++ after)).get? (methodName word) = none :=
      Table.get?_map_eq_none_iff.2 hnew
    have hback := propertyName_methodName hm hu
    simp [ofTable, hfound, hnone, isDirective_ofWord, hm, hback]
  · have hsame : (tableOf (before ++ word :: after)).get? name =
        (tableOf (before ++ after)).get? name := by
      simp [tableOf, Table.get?, List.find?_append, hname]
    rw [ofTable, ofTable, hsame]

theorem call_word (hb : Vocabulary.build names = .ok table)
    (hn : ∀ word ∈ names, startsWithMarker word = false → '_' ∉ word.toList) (hf : IsFree name)
    (he : table.get? name = some e) (hd : e.isDirective = false) (activate : Activation)
    (id : SheetId) (args : List Value) (named : List (String × Value)) :
    (ofTable table).call activate ⟨.sheet id, name, args, named⟩ =
      (ofTable []).call activate ⟨.sheet id, name, args, named⟩ := by
  have hnothing : ofTable [] name = .method .declare [.text (propertyName name)] := rfl
  have hword := (ofTable_property hb hn he hd).trans hnothing
  rw [call_property hf hword, call_property hf hnothing]

theorem call_name_declares (hf : IsFree name) (activate : Activation) (id : SheetId) (value : Value) :
    (ofTable []).call activate ⟨.sheet id, name, [value], []⟩ = do
      let shown ← text activate value
      writeLine id (propertyName name ++ ": " ++ shown ++ ";")
      return .none := by
  rw [call_property hf rfl, run_bound (c := .line (.declare _ value)) (ofSheet_method rfl) rfl]
  simp only [Builder.perform, Line.text, declaration, text, pure_bind, bind_assoc]
  rfl

end

/-- Names of properties and their method names tell each other, and words without underscores share a
method name only if a marker is all that they differ by. So in a vocabulary whose unmarked words have no
underscores, a name that stands for one of these writes what it would write if it were no word. Another
such word, put anywhere among them, changes no document and no run of a program. Programs as they run are
those read with the standard vocabulary. -/
theorem plain_words_change_nothing {names : List String} {table : Table String Vocabulary.Entry}
    (hb : Vocabulary.build names = .ok table)
    (hn : ∀ word ∈ names, startsWithMarker word = false → '_' ∉ word.toList) :
    (∀ name, startsWithMarker name = false → '_' ∉ name.toList →
      propertyName (methodName name) = name) ∧
    (∀ method, startsWithMarker method = false → '-' ∉ method.toList →
      methodName (propertyName method) = method) ∧
    (∀ name other, '_' ∉ name.toList → '_' ∉ other.toList → methodName name = methodName other →
      name = other ∨ name = "@" ++ other ∨ other = "@" ++ name) ∧
    (∀ name e, IsFree name → table.get? name = some e → e.isDirective = false → ∀ activate id,
      (∀ args named, (ofTable table).call activate ⟨.sheet id, name, args, named⟩ =
        (ofTable []).call activate ⟨.sheet id, name, args, named⟩) ∧
      ∀ value, (ofTable table).call activate ⟨.sheet id, name, [value], []⟩ = do
        let shown ← text activate value
        writeLine id (propertyName name ++ ": " ++ shown ++ ";")
        return .none) ∧
    (∀ before after word table', names = before ++ after → startsWithMarker word = false →
      '_' ∉ word.toList → Vocabulary.build (before ++ word :: after) = .ok table' →
      (∀ limit id, render ((ofTable table').runBodyWithin limit) id =
        render ((ofTable table).runBodyWithin limit) id) ∧
      ∀ s body steps, (ofTable table').runProgram s body steps =
        (ofTable table).runProgram s body steps) ∧
    (∀ limit, standard.runBodyWithin limit = Builder.runBodyWithin limit) ∧
    ∀ s body steps, standard.runProgram s body steps = Builder.runProgram s body steps := by
  refine ⟨fun name ↦ propertyName_methodName, fun method ↦ methodName_propertyName,
    fun name other ↦ of_methodName_eq, ?_, ?_, runBodyWithin_eq, runProgram_eq⟩
  · intro name e hf he hd activate id
    have hcall := call_word hb hn hf he hd activate id
    exact ⟨hcall, fun value ↦ (hcall [value] []).trans (call_name_declares hf activate id value)⟩
  · intro before after word table' hnames hm hu hb'
    subst hnames
    rw [ofTable_add hm hu hb hb']
    exact ⟨fun _ _ ↦ rfl, fun _ _ _ ↦ rfl⟩

/-- `max_width` writes what it writes anyway, and `grid-gap` can be added to the standard vocabulary. -/
theorem grid_gap_changes_nothing :
    (∀ activate value, Spelling.run activate ⟨.sheet 0, "max_width", [value], []⟩ = do
      let shown ← text activate value
      writeLine 0 ("max-width: " ++ shown ++ ";")
      return .none) ∧
    ∃ table, Vocabulary.build (words ++ ["grid-gap"]) = .ok table ∧
      table.get? "grid_gap" = some (Vocabulary.Entry.ofWord "grid-gap") ∧
      ∀ s body steps, (ofTable table).runProgram s body steps = Builder.runProgram s body steps := by
  have hgap : methodName "grid-gap" ∉ words.map methodName :=
    Table.get?_map_eq_none_iff.1 (lookup_eq_none (by decide +kernel) (by decide +kernel))
  have hd : ((words ++ ["grid-gap"]).map methodName).Nodup := by
    rw [List.map_append, List.nodup_append']
    exact ⟨nodup_words, List.nodup_singleton _, List.disjoint_singleton.2 hgap⟩
  have hbuilt := build_of_nodup hd
  have hmaxWidth : methodName "max-width" = "max_width" := by decide +kernel
  have hgridGap : methodName "grid-gap" = "grid_gap" := by decide +kernel
  have hwidth : Vocabulary.standard.get? "max_width" = some (Vocabulary.Entry.ofWord "max-width") :=
    hmaxWidth ▸ Table.get?_map_of_mem _ nodup_words (by decide +kernel)
  obtain ⟨-, -, -, hplain, hadded, -, hrun⟩ := plain_words_change_nothing build_words
    fun word hw _ ↦ words_without_underscores word hw
  refine ⟨fun activate value ↦ ?_, _, hbuilt, ?_, fun s body steps ↦ ?_⟩
  · have hcall := (hplain "max_width" _ ⟨rfl, rfl, rfl⟩ hwidth rfl activate 0).2 value
    have hname : propertyName "max_width" ++ ": " = "max-width: " := by decide +kernel
    rw [call_eq, hname] at hcall
    exact hcall
  · exact hgridGap ▸ Table.get?_map_of_mem _ hd (List.mem_append_right _ (List.mem_singleton_self _))
  · rw [(hadded words [] "grid-gap" _ (List.append_nil _).symm (by decide)
      (by decide) hbuilt).2, hrun]

end Reading

end Stylesheet.Builder

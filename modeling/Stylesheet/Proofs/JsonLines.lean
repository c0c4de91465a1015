import Mathlib
import Stylesheet.Builder.Run
import Stylesheet.Log.Setup
import Stylesheet.Proofs.Computation
import Stylesheet.Proofs.JsonText

namespace Stylesheet

namespace Table

variable {α β : Type} [BEq α] {t added : Table α β} {key : α} {value : β} {e : α × β}

theorem setAll_cons (t : Table α β) (e : α × β) (added : Table α β) :
    t.setAll (e :: added) = (t.set e.1 e.2).setAll added := rfl

variable [LawfulBEq α]

theorem mem_of_mem_set (h : e ∈ t.set key value) : e ∈ t ∨ e = (key, value) := by
  induction t with
  | nil => exact .inr (List.mem_singleton.1 h)
  | cons entry rest ih =>
    rw [set] at h
    split at h
    · next hkey =>
      rcases List.mem_cons.1 h with rfl | h
      · exact .inr (by rw [eq_of_beq hkey])
      · exact .inl (List.mem_cons_of_mem _ h)
    · rcases List.mem_cons.1 h with rfl | h
      · exact .inl (List.mem_cons_self ..)
      · exact (ih h).imp_left (List.mem_cons_of_mem _)

theorem mem_of_mem_setAll (h : e ∈ t.setAll added) : e ∈ t ∨ e ∈ added := by
  induction added generalizing t with
  | nil => exact .inl h
  | cons f more ih =>
    rcases ih h with h | h
    · rcases mem_of_mem_set h with h | rfl
      · exact .inl h
      · exact .inr (List.mem_cons_self ..)
    · exact .inr (List.mem_cons_of_mem _ h)

theorem keys_setAll (hn : added.keys.Nodup) :
    (t.setAll added).keys = t.keys ++ added.keys.filter fun key ↦ !t.keys.contains key := by
  induction added generalizing t with
  | nil => simp [setAll, keys]
  | cons f more ih =>
    obtain ⟨hf, hmore⟩ := List.nodup_cons.1 hn
    rw [setAll_cons, ih hmore, keys_set]
    have hkeys : keys (f :: more) = f.1 :: keys more := rfl
    rw [hkeys, List.filter_cons]
    by_cases hold : f.1 ∈ t.keys
    · simp [hold]
    · have hbehind : (keys more).filter (fun key ↦ !(t.keys ++ [f.1]).contains key) =
          (keys more).filter fun key ↦ !t.keys.contains key := by
        refine List.filter_congr fun key hkey ↦ ?_
        have hne : key ≠ f.1 := by
          rintro rfl
          exact hf hkey
        simp [hne]
      rw [if_neg hold, hbehind]
      simp [hold]

theorem nodup_keys_setAll (ht : t.keys.Nodup) (hn : added.keys.Nodup) :
    (t.setAll added).keys.Nodup := by
  rw [keys_setAll hn]
  refine ht.append (hn.filter _) ?_
  intro key hkey hadded
  simpa [hkey] using List.of_mem_filter hadded

theorem mem_of_get? (h : t.get? key = some value) : (key, value) ∈ t := by
  obtain ⟨e, he, rfl⟩ := Option.map_eq_some_iff.1 h
  have hkey : e.1 = key := by simpa using List.find?_some he
  exact hkey ▸ List.mem_of_find?_eq_some he

theorem get?_setAll_of_not_mem (h : key ∉ added.keys) : (t.setAll added).get? key = t.get? key := by
  induction added generalizing t with
  | nil => rfl
  | cons f more ih =>
    obtain ⟨hne, hmore⟩ := not_or.1 (mt List.mem_cons.2 h)
    rw [setAll_cons, ih hmore, get?_set_ne t f.2 (Ne.symm hne)]

theorem get?_setAll_of_mem (hn : added.keys.Nodup) (h : e ∈ added) :
    (t.setAll added).get? e.1 = some e.2 := by
  induction added generalizing t with
  | nil => cases h
  | cons f more ih =>
    obtain ⟨hf, hmore⟩ := List.nodup_cons.1 hn
    rw [setAll_cons]
    rcases List.mem_cons.1 h with rfl | h
    · rw [get?_setAll_of_not_mem hf, get?_set_self]
    · exact ih hmore h

theorem set_of_not_mem (h : key ∉ t.keys) : t.set key value = t ++ [(key, value)] := by
  induction t with
  | nil => rfl
  | cons entry rest ih =>
    obtain ⟨hne, hrest⟩ := not_or.1 (mt List.mem_cons.2 h)
    have hbeq : (entry.1 == key) = false := beq_eq_false_iff_ne.2 (Ne.symm hne)
    rw [set, hbeq, ih hrest]
    rfl

theorem setAll_of_disjoint (hn : added.keys.Nodup) (h : List.Disjoint t.keys added.keys) :
    t.setAll added = t ++ added := by
  induction added generalizing t with
  | nil => exact (List.append_nil t).symm
  | cons f more ih =>
    obtain ⟨hf, hmore⟩ := List.nodup_cons.1 hn
    obtain ⟨hold, hdisjoint⟩ := List.disjoint_cons_right.1 h
    have hset : t.set f.1 f.2 = t ++ [f] := set_of_not_mem hold
    have hkeys : keys (t ++ [f]) = t.keys ++ [f.1] := List.map_append
    rw [setAll_cons, hset, ih hmore, List.append_assoc, List.singleton_append]
    rw [hkeys, List.disjoint_append_left]
    exact ⟨hdisjoint, List.singleton_disjoint.2 hf⟩

theorem setAll_nil (hn : added.keys.Nodup) : Table.setAll [] added = added :=
  setAll_of_disjoint hn (List.disjoint_nil_left _)

end Table

namespace Value

/-- The entries of a table whose keys are texts. -/
def named (t : Table String Value) : List (Value × Value) := t.map fun e ↦ (.text e.1, e.2)

theorem setEntry_named (t : Table String Value) (key : String) (v : Value) :
    setEntry (named t) (.text key) v = named (t.set key v) := by
  induction t with
  | nil => rfl
  | cons e rest ih =>
    have hkey : sameKey (.text e.1) (.text key) = (e.1 == key) := by simp [sameKey, sameAtom]
    change setEntry ((.text e.1, e.2) :: named rest) (.text key) v = named (Table.set (e :: rest) key v)
    rw [setEntry, Table.set, hkey, ih]
    split <;> rfl

theorem setEntries_named (t added : Table String Value) :
    setEntries (named t) (named added) = named (t.setAll added) := by
  induction added generalizing t with
  | nil => rfl
  | cons e more ih =>
    change setEntries (setEntry (named t) (.text e.1) e.2) (named more) = _
    rw [setEntry_named, ih, Table.setAll_cons]

/-- Values that JSON has a form for, but for floats: a dictionary of them has texts as keys. -/
inductive IsData : Value → Prop
  | none : IsData .none
  | bool (b : Bool) : IsData (.bool b)
  | int (n : Int) : IsData (.int n)
  | text (s : String) : IsData (.text s)
  | list {items : List Value} (h : ∀ item ∈ items, IsData item) : IsData (.list items)
  | dict {t : Table String Value} (hkeys : t.keys.Nodup) (h : ∀ e ∈ t, IsData e.2) :
    IsData (.dict (named t))

end Value

namespace Json

open Value (named IsData)

mutual

def data : Json → Value
  | .null => .none
  | .bool b => .bool b
  | .int n => .int n
  | .decimal numeral => ((Number.float? numeral).map fun x ↦ .atom (.float x)).getD .none
  | .text s => .text s
  | .array items => .list (itemsData items)
  | .object members => .dict (named (Table.setAll [] (membersData members)))

def itemsData : List Json → List Value
  | [] => []
  | j :: rest => data j :: itemsData rest

def membersData : List (String × Json) → Table String Value
  | [] => []
  | (name, j) :: rest => (name, data j) :: membersData rest

end

/-- A value has this form in JSON, from which it is read again. -/
structure Writes (v : Value) (j : Json) : Prop where
  json : ofValue v = .ok j
  isWhole : j.IsWhole
  data : j.data = v

theorem isWritable_named {t : Table String Value} :
    (Value.dict (named t)).isWritable = true ↔ ∀ e ∈ t, e.2.isWritable = true := by
  have hkey (name : String) : (Value.text name).isWritable = true := rfl
  rw [Value.isWritable, Value.areEntriesWritable_iff, named, List.forall_mem_map]
  simp only [hkey, true_and]

theorem exists_items {items : List Value} (h : ∀ item ∈ items, ∃ j, Writes item j) :
    ∃ js, ofItems items = .ok js ∧ (∀ j ∈ js, j.IsWhole) ∧ itemsData js = items := by
  induction items with
  | nil => exact ⟨[], rfl, by simp, rfl⟩
  | cons item rest ih =>
    obtain ⟨⟨j, hj⟩, hrest⟩ := List.forall_mem_cons.1 h
    obtain ⟨js, hjs, hwhole, hdata⟩ := ih hrest
    refine ⟨j :: js, ?_, List.forall_mem_cons.2 ⟨hj.isWhole, hwhole⟩, ?_⟩
    · rw [ofItems, hj.json, hjs]
      rfl
    · rw [itemsData, hj.data, hdata]

theorem exists_members {t : Table String Value} (h : ∀ e ∈ t, ∃ j, Writes e.2 j) :
    ∃ members, ofEntries (named t) = .ok members ∧ (∀ m ∈ members, m.2.IsWhole) ∧
      members.map (·.1) = t.keys ∧ membersData members = t := by
  induction t with
  | nil => exact ⟨[], rfl, by simp, rfl, rfl⟩
  | cons e rest ih =>
    obtain ⟨⟨j, hj⟩, hrest⟩ := List.forall_mem_cons.1 h
    obtain ⟨members, hmembers, hwhole, hkeys, hdata⟩ := ih hrest
    refine ⟨(e.1, j) :: members, ?_, List.forall_mem_cons.2 ⟨hj.isWhole, hwhole⟩, ?_, ?_⟩
    · change ofEntries ((.text e.1, e.2) :: named rest) = _
      rw [ofEntries, nameOf, hj.json, hmembers]
      rfl
    · exact congrArg (e.1 :: ·) hkeys
    · rw [membersData, hj.data, hdata]

theorem exists_object {t : Table String Value} (hkeys : t.keys.Nodup)
    (h : ∀ e ∈ t, ∃ j, Writes e.2 j) :
    ∃ members, Writes (.dict (named t)) (.object members) ∧ members.map (·.1) = t.keys := by
  obtain ⟨members, hmembers, hwhole, hnames, hdata⟩ := exists_members h
  refine ⟨members, ⟨?_, .object hwhole, ?_⟩, hnames⟩
  · rw [ofValue, hmembers]
    rfl
  · rw [Json.data, hdata, Table.setAll_nil hkeys]

theorem exists_writes {v : Value} (h : v.IsData) (hw : v.isWritable = true) : ∃ j, Writes v j := by
  induction h with
  | none => exact ⟨.null, rfl, .null, rfl⟩
  | bool b => exact ⟨.bool b, rfl, .bool b, rfl⟩
  | int n =>
    have hn : Number.isWritable n = true := hw
    exact ⟨.int n, by rw [ofValue, if_pos hn], .int hn, rfl⟩
  | text s => exact ⟨.text s, rfl, .text s, rfl⟩
  | list _ ih =>
    have hitems := Value.areAllWritable_iff.1 hw
    obtain ⟨js, hjs, hwhole, hdata⟩ := exists_items fun item hi ↦ ih item hi (hitems item hi)
    refine ⟨.array js, ?_, .array hwhole, ?_⟩
    · rw [ofValue, hjs]
      rfl
    · rw [Json.data, hdata]
  | dict hkeys _ ih =>
    have hentries := isWritable_named.1 hw
    obtain ⟨members, hmembers, -⟩ := exists_object hkeys fun e he ↦ ih e he (hentries e he)
    exact ⟨_, hmembers⟩

theorem ofItems_unwritable {items : List Value}
    (h : ∀ item ∈ items, (∃ j, Writes item j) ∨ ofValue item = .error .unwritable)
    (hex : ∃ item ∈ items, ofValue item = .error .unwritable) :
    ofItems items = .error .unwritable := by
  induction items with
  | nil => simp at hex
  | cons item rest ih =>
    obtain ⟨hfirst, hrest⟩ := List.forall_mem_cons.1 h
    rcases hfirst with ⟨j, hj⟩ | he
    · have hlater : ∃ item ∈ rest, ofValue item = .error .unwritable := by
        simpa [hj.json] using hex
      rw [ofItems, hj.json, ih hrest hlater]
      rfl
    · rw [ofItems, he]

theorem ofEntries_unwritable {t : Table String Value}
    (h : ∀ e ∈ t, (∃ j, Writes e.2 j) ∨ ofValue e.2 = .error .unwritable)
    (hex : ∃ e ∈ t, ofValue e.2 = .error .unwritable) :
    ofEntries (named t) = .error .unwritable := by
  induction t with
  | nil => simp at hex
  | cons e rest ih =>
    obtain ⟨hfirst, hrest⟩ := List.forall_mem_cons.1 h
    change ofEntries ((.text e.1, e.2) :: named rest) = _
    rcases hfirst with ⟨j, hj⟩ | he
    · have hlater : ∃ e ∈ rest, ofValue e.2 = .error .unwritable := by
        simpa [hj.json] using hex
      rw [ofEntries, nameOf, hj.json, ih hrest hlater]
      rfl
    · rw [ofEntries, nameOf, he]

/-- Data that cannot be written fails with the one fault there is for it. -/
theorem ofValue_unwritable {v : Value} (h : v.IsData) (hw : v.isWritable = false) :
    ofValue v = .error .unwritable := by
  induction h with
  | none | bool | text => simp [Value.isWritable, Atom.isWritable] at hw
  | int n =>
    have hn : Number.isWritable n = false := hw
    rw [ofValue, hn]
    rfl
  | @list items hd ih =>
    have hex : ∃ item ∈ items, item.isWritable = false := by
      by_contra hnone
      push Not at hnone
      rw [Value.isWritable, Value.areAllWritable_iff.2 fun v hv ↦ by simpa using hnone v hv] at hw
      cases hw
    have hall (item : Value) (hi : item ∈ items) :
        (∃ j, Writes item j) ∨ ofValue item = .error .unwritable := by
      rcases hb : item.isWritable with _ | _
      · exact .inr (ih item hi hb)
      · exact .inl (exists_writes (hd item hi) hb)
    obtain ⟨item, hi, hb⟩ := hex
    rw [ofValue, ofItems_unwritable hall ⟨item, hi, ih item hi hb⟩]
    rfl
  | @dict t hkeys hd ih =>
    have hex : ∃ e ∈ t, e.2.isWritable = false := by
      by_contra hnone
      push Not at hnone
      rw [isWritable_named.2 fun e he ↦ by simpa using hnone e he] at hw
      cases hw
    have hall (e : String × Value) (he : e ∈ t) :
        (∃ j, Writes e.2 j) ∨ ofValue e.2 = .error .unwritable := by
      rcases hb : e.2.isWritable with _ | _
      · exact .inr (ih e he hb)
      · exact .inl (exists_writes (hd e he) hb)
    obtain ⟨e, he, hb⟩ := hex
    rw [ofValue, ofEntries_unwritable hall ⟨e, he, ih e he hb⟩]
    rfl

end Json

namespace Log

open Value (named IsData)

def baseTable (level : Level) (now : Moment) (logger message : String) : Table String Value :=
  [("level", .text (levelName level)), ("ts", .text now.stamp), ("logger", .text logger),
    ("msg", .text message)]

theorem baseTable_isData {level : Level} {now : Moment} {logger message : String} :
    ∀ e ∈ baseTable level now logger message, e.2.IsData := by
  simp only [baseTable, List.forall_mem_cons]
  exact ⟨.text _, .text _, .text _, .text _, by simp⟩

def baseNames : List String := ["level", "ts", "logger", "msg"]

namespace Record

variable {activate : Body → Value → Build Unit} {logger msg : String} {level : Level}
  {fields : Table String Value} {r : Record} {now : Moment}

theorem of_structured (h : Record.structured logger level (.text msg) fields = .ok r) :
    r = { logger, level, template := .text msg, fields := .dict (named fields) } ∧
      ∀ name ∈ fields.keys, name ∉ reservedFields := by
  unfold Record.structured at h
  split at h
  · cases h
  split at h
  · cases h
  split at h
  · cases h
  · next hreserved _ =>
    cases h
    refine ⟨rfl, fun name hname hmem ↦ hreserved ?_⟩
    obtain ⟨e, he, rfl⟩ := List.mem_map.1 hname
    exact List.any_eq_true.2 ⟨e, he, List.contains_iff_mem.2 hmem⟩

theorem fieldEntries_dict (entries : List (Value × Value)) :
    fieldEntries activate (.dict entries) = pure entries := by
  cases entries <;> rfl

/-- The entries of the line are what every line holds, with the fields set in it. -/
theorem jsonEntries_eq (logger : String) (level : Level) (msg : String) (fields : Table String Value) :
    jsonEntries activate
        { logger, level, template := .text msg, fields := .dict (named fields) } now =
      pure (named ((baseTable level now logger msg).setAll fields)) := by
  rw [jsonEntries, fieldEntries_dict, ← Value.setEntries_named]
  rfl

theorem isWritable_baseTable {level : Level} {now : Moment} {logger message : String} :
    ∀ e ∈ baseTable level now logger message, e.2.isWritable = true := by
  simp only [baseTable, List.forall_mem_cons]
  exact ⟨rfl, rfl, rfl, rfl, by simp⟩

theorem nodup_keys_lineTable (hkeys : fields.keys.Nodup) :
    ((baseTable level now logger msg).setAll fields).keys.Nodup := by
  have hbase : baseNames.Nodup := by decide
  exact Table.nodup_keys_setAll hbase hkeys

theorem isData_lineTable (hfields : ∀ e ∈ fields, e.2.IsData) :
    ∀ e ∈ (baseTable level now logger msg).setAll fields, e.2.IsData := by
  intro e he
  rcases Table.mem_of_mem_setAll he with he | he
  · exact baseTable_isData e he
  · exact hfields e he

section

variable (hkeys : fields.keys.Nodup) (hfields : ∀ e ∈ fields, e.2.IsData)

include hkeys hfields

theorem exists_line (hw : ∀ e ∈ fields, e.2.isWritable = true) (s : Studio) :
    let table := (baseTable level now logger msg).setAll fields
    ∃ line members, (Formatter.json.line activate now
          { logger, level, template := .text msg, fields := .dict (named fields) }).on s =
        (.ok line, s) ∧
      (∀ c ∈ line.toList, Json.IsPrintable c) ∧
      Json.parse? line = some (.object members) ∧ members.map (·.1) = table.keys ∧
      (Json.object members).data = .dict (named table) := by
  intro table
  have hwrites : ∀ e ∈ table, ∃ j, Json.Writes e.2 j := by
    intro e he
    refine Json.exists_writes (isData_lineTable hfields e he) ?_
    rcases Table.mem_of_mem_setAll he with he | he
    · exact isWritable_baseTable e he
    · exact hw e he
  obtain ⟨members, hmembers, hnames⟩ := Json.exists_object (nodup_keys_lineTable hkeys) hwrites
  refine ⟨(Json.object members).toLine, members, ?_, ?_, hmembers.isWhole.parse?_toLine, hnames,
    hmembers.data⟩
  · rw [Formatter.line, jsonLine, jsonEntries_eq, pure_bind, hmembers.json]
    rfl
  · rw [Json.toLine, String.toList_ofList]
    exact hmembers.isWhole.isPrintable

theorem on_line_unwritable (hlong : ∃ e ∈ fields, e.2.isWritable = false) (s : Studio) :
    (Formatter.json.line activate now
      { logger, level, template := .text msg, fields := .dict (named fields) }).on s =
        (.error .unwritable, s) := by
  let table := (baseTable level now logger msg).setAll fields
  have hdata : (Value.dict (named table)).IsData :=
    .dict (nodup_keys_lineTable hkeys) (isData_lineTable hfields)
  have hunwritable : (Value.dict (named table)).isWritable = false := by
    obtain ⟨e, he, hlong⟩ := hlong
    rw [Bool.eq_false_iff]
    intro hall
    have htable : e ∈ table := Table.mem_of_get? (Table.get?_setAll_of_mem hkeys he)
    simp [Json.isWritable_named.1 hall e htable] at hlong
  rw [Formatter.line, jsonLine, jsonEntries_eq, pure_bind, Json.ofValue_unwritable hdata hunwritable]
  rfl

end

/-- The JSON line of a record with fields is one line of printable characters. It is read as an object of
what every line holds, in this order, with the fields set in it one after the other: each replaces what has
its name, at the place of that, or comes at the end. The message cannot be replaced. Only if an integer
in the fields is too long to be written, there is no line. -/
theorem structured_line_is_read_back
    (h : Record.structured logger level (.text msg) fields = .ok r)
    (hkeys : fields.keys.Nodup) (hfields : ∀ e ∈ fields, e.2.IsData)
    (activate : Body → Value → Build Unit) (now : Moment) (s : Studio) :
    let base := baseTable level now logger msg
    let table := base.setAll fields
    ((∀ e ∈ fields, e.2.isWritable = true) →
      ∃ line members, (Formatter.json.line activate now r).on s = (.ok line, s) ∧
        (∀ c ∈ line.toList, Json.IsPrintable c) ∧
        Json.parse? line = some (.object members) ∧ members.map (·.1) = table.keys ∧
        (Json.object members).data = .dict (named table)) ∧
    ((∃ e ∈ fields, e.2.isWritable = false) →
      (Formatter.json.line activate now r).on s = (.error .unwritable, s)) ∧
    table.keys = baseNames ++ fields.keys.filter (fun name ↦ !baseNames.contains name) ∧
    (∀ e ∈ fields, table.get? e.1 = some e.2) ∧
    (∀ name, name ∉ fields.keys → table.get? name = base.get? name) ∧
    table.get? "msg" = some (.text msg) := by
  intro base table
  obtain ⟨rfl, hreserved⟩ := of_structured h
  have hrest (name : String) (hname : name ∉ fields.keys) : table.get? name = base.get? name :=
    Table.get?_setAll_of_not_mem hname
  refine ⟨fun hw ↦ exists_line hkeys hfields hw s, fun hlong ↦ on_line_unwritable hkeys hfields hlong s,
    Table.keys_setAll hkeys, fun e he ↦ Table.get?_setAll_of_mem hkeys he, hrest, ?_⟩
  rw [hrest "msg" fun hmem ↦ hreserved _ hmem (by decide)]
  rfl

/-- A text with characters that are escaped in every way there is. -/
def awkwardText : String := "a\"b\\c\n\t\x00\x7fé😀"

def awkwardFields : Table String Value :=
  [("ts", .none), ("n", .int (-12)),
    ("f", .list [.bool true, .text awkwardText, .dict (named [(awkwardText, .text "")])])]

theorem awkwardFields_areData : ∀ e ∈ awkwardFields, e.2.IsData := by
  have hinner : ∀ e ∈ [(awkwardText, Value.text "")], e.2.IsData :=
    List.forall_mem_singleton.2 (.text _)
  simp only [awkwardFields, List.forall_mem_cons]
  refine ⟨.none, .int _, .list ?_, by simp⟩
  simp only [List.forall_mem_cons]
  exact ⟨.bool _, .text _, .dict (by simp [Table.keys]) hinner, by simp⟩

theorem awkward_line_is_read_back :
    ∃ r line members,
      Record.structured mainLogger error (.text awkwardText) awkwardFields = .ok r ∧
      (Formatter.json.line Builder.activate default r).on {} = (.ok line, {}) ∧
      Json.parse? line = some (.object members) ∧
      (Json.object members).data = .dict (named ([("level", .text "ERROR"), ("ts", .none),
        ("logger", .text "py2sass"), ("msg", .text awkwardText)] ++ awkwardFields.tail)) := by
  have hr : ∃ r, Record.structured mainLogger error (.text awkwardText) awkwardFields = .ok r :=
    ⟨_, rfl⟩
  obtain ⟨r, hr⟩ := hr
  have hw : ∀ e ∈ awkwardFields, e.2.isWritable = true := by decide
  obtain ⟨hwritten, -⟩ :=
    structured_line_is_read_back hr (by decide) awkwardFields_areData Builder.activate default {}
  obtain ⟨line, members, hline, -, hparse, -, hdata⟩ := hwritten hw
  exact ⟨r, line, members, hr, hline, hparse, hdata⟩

/-- The shortest integer that is too long to be written. -/
def longFields : Table String Value := [("n", .int (10 ^ Number.longestNumeral))]

theorem long_integer_is_not_written :
    ∃ r, Record.structured mainLogger info (.text "m") longFields = .ok r ∧
      (∀ e ∈ longFields, e.2.IsData) ∧
      ((Formatter.json.line Builder.activate default r).on {}).1 = .error .unwritable := by
  have hdata : ∀ e ∈ longFields, e.2.IsData := List.forall_mem_singleton.2 (.int _)
  have hlong : Number.isWritable (10 ^ Number.longestNumeral) = false := by decide +kernel
  have hline : (Formatter.json.line Builder.activate default
      { level := info, template := .text "m", fields := .dict (named longFields) }).on {} =
        (.error .unwritable, {}) :=
    on_line_unwritable (by decide) hdata ⟨_, List.mem_singleton_self _, hlong⟩ {}
  exact ⟨_, rfl, hdata, congrArg Prod.fst hline⟩

end Record

end Log

end Stylesheet

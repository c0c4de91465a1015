import Stylesheet.Proofs.Gaps
import Stylesheet.Proofs.Numerals

namespace Stylesheet

namespace Environment

variable {env : Environment} {name x : String}

/-- The text that refers to a variable. -/
def reference (name : String) : Value := .text (String.ofList (written name.toList))

theorem expand_reference (hname : IsName name.toList) (hx : env.get? name = some x) :
    env.expand (reference name) = .ok (.text x) := by
  have hchars : env.expandChars (written name.toList) = .ok x.toList := by
    rw [← List.append_nil (written name.toList), expandChars_written hname, String.ofList_toList, hx,
      Option.elim, expandChars]
    simp [Except.map]
  rw [reference, expand, expandText, String.toList_ofList, hchars]
  simp [Except.map]

end Environment

namespace Yaml.Constant

variable {x : String}

theorem ne_empty_of_bool {b : Bool} (h : ofPlain x = .ok (.bool b)) : x ≠ "" := by
  rintro rfl
  have hnull : ofPlain "" = .ok .none := by cbv
  rw [hnull] at h
  cases h

theorem int_of_ofPlain {n : Int} (h : ofPlain x = .ok (.int n)) : int x = .ok n := by
  rw [ofPlain] at h
  have hmap {α : Type} {e : Except Fault α} {g : α → Value} (h : e.map g = .ok (.int n)) :
      ∃ a, e = .ok a ∧ g a = .int n := by
    cases e with
    | error f => cases h
    | ok a => exact ⟨a, rfl, Except.ok.inj h⟩
  generalize Tag.ofPlain x = tag at h
  cases tag with
  | int =>
    obtain ⟨m, hm, h⟩ := hmap h
    cases h
    exact hm
  | bool | float | binary | timestamp =>
    obtain ⟨a, -, h⟩ := hmap h
    cases h
  | _ => cases h

end Yaml.Constant

namespace Config

open Environment (IsName reference)

variable {env : Environment} {p : String × String} {v w v' w' : Value} {name x : String}
  {value value' : String × String → Option Value}

/-- The configuration with compression. -/
def compressed (c : Config) : Config := { c with compile := { c.compile with compress := .bool true } }

theorem make_compressed (compress includes includePaths precision : Value) :
    CompileSettings.make (.bool true) includes includePaths precision =
      (CompileSettings.make compress includes includePaths precision).map
        fun s ↦ { s with compress := .bool true } := by
  rw [CompileSettings.make, CompileSettings.make]
  rcases CompileSettings.listOf "compile.include" includes with f | items
  · rfl
  rcases CompileSettings.listOf "compile.include_paths" includePaths with f | paths
  · rfl
  rcases CompileSettings.isBelowZero precision with f | (_ | _) <;> rfl

section Settings

variable (h : ∀ q, q ≠ p → value q = value' q) (hv : value p = some v) (hw : value' p = some w)
include h hv hw

theorem ofSettings_congr_compress (hp : p = ("compile", "compress")) (hvw : v.isTruthy = w.isTruthy) :
    ofSettings value = ofSettings value' := by
  subst hp
  simp (disch := decide) only [ofSettings, settingsOf, hv, hw, h, Option.getD_some, hvw]

theorem ofSettings_compressed (hp : p = ("compile", "compress")) (hyes : v.isTruthy = true) :
    ofSettings value = (ofSettings value').map compressed := by
  subst hp
  simp (disch := decide) only [ofSettings, settingsOf, hv, hw, h, Option.getD_some, hyes]
  rcases integer ((value' ("compile", "precision")).getD (.int 5)) with f | n
  · rfl
  simp only [bind, Except.bind, make_compressed (.bool w.isTruthy)]
  generalize CompileSettings.make (.bool w.isTruthy) _ _ _ = e
  cases e <;> rfl

theorem ofSettings_congr_precision (hp : p = ("compile", "precision")) (hvw : integer v = integer w) :
    ofSettings value = ofSettings value' := by
  subst hp
  simp (disch := decide) only [ofSettings, settingsOf, hv, hw, h, Option.getD_some, hvw]

end Settings

theorem Place.ofValue_eq (pl : Place p) (hv : env.expand v = .ok v') (hw : env.expand w = .ok w')
    {g : Except Fault Config → Except Fault Config} (hg : ∀ f, g (.error f) = .error f)
    (h : ∀ value value' : String × String → Option Value, (∀ q, q ≠ p → value q = value' q) →
      value p = some v' → value' p = some w' → ofSettings value = g (ofSettings value')) :
    ofValue env (.dict (pl.fill (some v))) = g (ofValue env (.dict (pl.fill (some w)))) := by
  have hdiffer : DifferAt p (some v) (some w) (pl.fill (some v)) (pl.fill (some w)) := .inSection pl _ _
  rcases hdiffer.ofValue_cases (.some hv) (.some hw) with
    ⟨f, hstops, hstops'⟩ | ⟨-, data, data', hdata, hes, hfs⟩
  · rw [hstops.ofValue_eq, hstops'.ofValue_eq, hg]
  · rw [hes, hfs]
    exact h _ _ (fun q ↦ hdata.setting?_ne) hdata.setting?_left hdata.setting?_right

theorem integer_text {n : Int} {negative : Bool} {cs : List Char}
    (hn : Yaml.Constant.ofPlain x = .ok (.int n)) (hsplit : Number.splitSign x.toList = (negative, cs))
    (hten : Number.IsBaseTen cs) :
    (Number.IsRun cs → integer (.text x) = .ok n) ∧
    (¬ Number.IsRun cs → integer (.text x) = .error (.badLiteral 10 (Text.quoted x))) := by
  obtain ⟨hrun, hother⟩ := Number.integer_of_int hsplit hten (Yaml.Constant.int_of_ofPlain hn)
  have htext : integer (.text x) = integer.ofNumeral (Text.quoted x) x := rfl
  rw [htext, integer.ofNumeral]
  constructor
  · intro h
    rw [hrun h]
    rfl
  · intro h
    rw [hother h]
    rfl

/-- A truth value that is taken from a variable is always yes. A number to the base of ten that is taken
from one is what a document reads there, if underscores stand between digits only; with other underscores
it is refused. -/
theorem referred_setting (hname : IsName name.toList) (hx : env.get? name = some x) :
    (∀ (pl : Place ("compile", "compress")) (b : Bool), Yaml.Constant.ofPlain x = .ok (.bool b) →
      ofValue env (.dict (pl.fill (some (reference name)))) =
        ofValue env (.dict (pl.fill (some (.bool true)))) ∧
      ofValue env (.dict (pl.fill (some (reference name)))) =
        (ofValue env (.dict (pl.fill (some (.bool b))))).map compressed) ∧
    ∀ (pl : Place ("compile", "precision")) (n : Int) (negative : Bool) (cs : List Char),
      Yaml.Constant.ofPlain x = .ok (.int n) → Number.splitSign x.toList = (negative, cs) →
      Number.IsBaseTen cs →
      (Number.IsRun cs → ofValue env (.dict (pl.fill (some (reference name)))) =
        ofValue env (.dict (pl.fill (some (.int n))))) ∧
      (¬ Number.IsRun cs → (∀ f, ¬ Stops env (pl.fill (some (reference name))) f) →
        ofValue env (.dict (pl.fill (some (reference name)))) =
          .error (.badLiteral 10 (Text.quoted x))) := by
  have hexpand : env.expand (reference name) = .ok (.text x) := Environment.expand_reference hname hx
  constructor
  · intro pl b hb
    have hyes : (Value.text x).isTruthy = true := by
      simpa [Value.isTruthy] using Yaml.Constant.ne_empty_of_bool hb
    constructor
    · exact pl.ofValue_eq (w := .bool true) (g := id) hexpand rfl (fun _ ↦ rfl) fun _ _ h hv hw ↦
        ofSettings_congr_compress h hv hw rfl hyes
    · exact pl.ofValue_eq hexpand rfl (fun _ ↦ rfl) fun _ _ h hv hw ↦
        ofSettings_compressed h hv hw rfl hyes
  · intro pl n negative cs hn hsplit hten
    obtain ⟨hread, hrefused⟩ := integer_text hn hsplit hten
    constructor
    · intro hrun
      exact pl.ofValue_eq (w := .int n) (g := id) hexpand rfl (fun _ ↦ rfl) fun _ _ h hv hw ↦
        ofSettings_congr_precision h hv hw rfl (hread hrun)
    · intro hrun hstops
      have hsame : DifferAt ("compile", "precision") (some (reference name)) (some (reference name))
          (pl.fill (some (reference name))) (pl.fill (some (reference name))) := .inSection pl _ _
      rcases hsame.ofValue_cases (.some hexpand) (.some hexpand) with
        ⟨f, hf, -⟩ | ⟨-, data, data', hdata, hes, -⟩
      · exact absurd hf (hstops f)
      · rw [hes]
        exact ofSettings_of_integer_error hdata.setting?_left (hrefused hrun)

/-- A word for no, and a numeral with two underscores in a row. -/
theorem referred_setting_words :
    let env : Environment := [("WORD", "off"), ("N", "-1__0")]
    let compress : Place ("compile", "compress") := ⟨⟨[], [], rfl⟩, ⟨[], [], rfl⟩⟩
    let precision : Place ("compile", "precision") := ⟨⟨[], [], rfl⟩, ⟨[], [], rfl⟩⟩
    let digits := ['1', '_', '_', '0']
    IsName "WORD".toList ∧ env.get? "WORD" = some "off" ∧
    Yaml.Constant.ofPlain "off" = .ok (.bool false) ∧
    ofValue env (.dict (compress.fill (some (reference "WORD")))) =
      (ofValue env (.dict (compress.fill (some (.bool false))))).map compressed ∧
    IsName "N".toList ∧ env.get? "N" = some "-1__0" ∧
    Yaml.Constant.ofPlain "-1__0" = .ok (.int (-10)) ∧
    Number.splitSign "-1__0".toList = (true, digits) ∧ Number.IsBaseTen digits ∧
    ¬ Number.IsRun digits ∧ (∀ f, ¬ Stops env (precision.fill (some (reference "N"))) f) ∧
    ofValue env (.dict (precision.fill (some (reference "N")))) =
      .error (.badLiteral 10 (Text.quoted "-1__0")) := by
  intro env compress precision digits
  have hword : IsName "WORD".toList := ⟨by decide, by decide⟩
  have hn : IsName "N".toList := ⟨by decide, by decide⟩
  have hoff : Yaml.Constant.ofPlain "off" = .ok (.bool false) := by cbv
  have hsign : Number.splitSign "-1__0".toList = (true, digits) := by cbv
  have hnumeral : Yaml.Constant.ofPlain "-1__0" = .ok (.int (-10)) := by
    have htag : Yaml.Tag.ofPlain "-1__0" = .int := by decide +kernel
    have hint : Yaml.Constant.int "-1__0" = .ok (-10) := by cbv
    rw [Yaml.Constant.ofPlain, htag, Yaml.Constant.ofTag, hint]
    rfl
  have hten : Number.IsBaseTen digits := .other rfl (by decide) (by simp [Yaml.isDigitOrLine])
  have hrun : ¬ Number.IsRun digits := by
    intro h
    have hnone : Number.digitRun? digits = none := by decide
    rw [h.digitRun?_eq] at hnone
    cases hnone
  have hstops : ∀ f, ¬ Stops env (precision.fill (some (reference "N"))) f := by
    have hexpand : env.expandEntries (precision.fill (some (reference "N"))) =
        .ok [(.text "compile", .dict [(.text "precision", .text "-1__0")])] := by cbv
    exact not_stops hexpand rfl
  exact ⟨hword, rfl, hoff, ((referred_setting hword rfl).1 compress false hoff).2, hn, rfl, hnumeral,
    hsign, hten, hrun, hstops,
    ((referred_setting hn rfl).2 precision (-10) true _ hnumeral hsign hten).2 hrun hstops⟩

/-- The word for no in a variable is another setting than the word in the document. -/
theorem referred_false :
    let env : Environment := [("X", "false")]
    let dict (v : Value) : Value := .dict [(.text "compile", .dict [(.text "compress", v)])]
    Yaml.Constant.ofPlain "false" = .ok (.bool false) ∧
    ofValue env (dict (.bool false)) = .ok {} ∧
    ofValue env (dict (.text "$\x7bX\x7d")) = .ok (compressed {}) := by
  refine ⟨by cbv, rfl, ?_⟩
  cbv

end Config

end Stylesheet

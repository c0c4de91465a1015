import Stylesheet.Proofs.Orderly

namespace Stylesheet

open Build

namespace Sheet

/-- A sheet at some point of a run. Of its blocks so many are open; so many were open when a failed
pass last dropped what was written; and so many, opened since then, have been left without a closing
line. -/
structure Stage where
  sheet : Sheet
  opened : Nat := 0
  lost : Nat := 0
  unclosed : Nat := 0

/-- What is done to a sheet next. A block that is left gets its closing line at once, or never. -/
inductive Move : Stage → Stage → Prop
  | line {p : Stage} (words : String) (ho : p.sheet.output = none) :
      Move p { p with sheet := p.sheet.write (.line · words) }
  | assignment {p : Stage} (name : Value) (token shown key : String) (ho : p.sheet.output = none) :
      Move p { p with sheet := (p.sheet.write (.assignment · name token shown)).assign key token }
  | raw {p : Stage} (words : String) : Move p { p with sheet := p.sheet.append (.raw words) }
  | opens {p : Stage} (heading : String) (ho : p.sheet.output = none) :
      Move p { p with
        sheet := (p.sheet.write (.opening · heading)).deepen
        opened := p.opened + 1 }
  | closes {p : Stage} {k : Nat} (hk : p.opened = k + 1) (ho : p.sheet.output = none) :
      Move p { p with sheet := p.sheet.rise.write .closing, opened := k }
  | leaves {p : Stage} {k : Nat} (hk : p.opened = k + 1) :
      Move p { p with sheet := p.sheet.rise, opened := k, unclosed := p.unclosed + 1 }
  | starts {p : Stage} (ho : p.sheet.output = none) (hr : p.sheet.rendering = false) :
      Move p { p with sheet := p.sheet.start }
  | finishes {p : Stage} (hb : p.sheet.IsBuilding) : Move p { p with sheet := p.sheet.finish }
  | fails {p : Stage} (hb : p.sheet.IsBuilding) :
      Move p { sheet := p.sheet.abandon, opened := p.opened, lost := p.opened, unclosed := 0 }

/-- Whatever may be done to a sheet in a run, by work under way and by programs
(`Builder.runSteps_course`). -/
def Course : Stage → Stage → Prop := Relation.ReflTransGen Move

theorem Move.indentation {p q : Stage} (h : Move p q)
    (hp : p.sheet.indentation = p.opened - p.lost) : q.sheet.indentation = q.opened - q.lost := by
  cases h with
  | line | assignment | raw | starts | finishes => exact hp
  | opens =>
    change p.sheet.indentation + 1 = ((p.opened + 1 : Nat) : Int) - p.lost
    omega
  | @closes k hk | @leaves k hk =>
    change p.sheet.indentation - 1 = (k : Int) - p.lost
    omega
  | fails =>
    change (0 : Int) = p.opened - p.opened
    omega

theorem Course.indentation {p q : Stage} (h : Course p q)
    (hp : p.sheet.indentation = p.opened - p.lost) : q.sheet.indentation = q.opened - q.lost := by
  induction h with
  | refl => exact hp
  | tail _ hm ih => exact hm.indentation ih

variable {S T : Sheet}

/-- Whole operations are courses on which as many blocks are open at the end as at the start. While
the sheet is building it is not reset. -/
theorem Becomes.course (h : Becomes S T) (k lost unclosed : Nat) :
    ∃ lost' unclosed', Course ⟨S, k, lost, unclosed⟩ ⟨T, k, lost', unclosed'⟩ ∧
      (S.IsBuilding → lost' = lost) := by
  induction h generalizing k lost unclosed with
  | refl => exact ⟨lost, unclosed, .refl, fun _ ↦ rfl⟩
  | trans h _ ih₁ ih₂ =>
    obtain ⟨l₁, u₁, h₁, hl₁⟩ := ih₁ k lost unclosed
    obtain ⟨l₂, u₂, h₂, hl₂⟩ := ih₂ k l₁ u₁
    refine ⟨l₂, u₂, h₁.trans h₂, fun hb ↦ ?_⟩
    obtain ⟨_, hx⟩ := h.extends hb
    exact (hl₂ hx.building).trans (hl₁ hb)
  | line words ho => exact ⟨lost, unclosed, .single (.line words ho), fun _ ↦ rfl⟩
  | assignment name token shown key ho _ =>
    exact ⟨lost, unclosed, .single (.assignment name token shown key ho), fun _ ↦ rfl⟩
  | raw words _ _ ih =>
    obtain ⟨l, u, h, hl⟩ := ih k lost unclosed
    exact ⟨l, u, h.tail (.raw words), hl⟩
  | leftBlock heading ho _ ih =>
    obtain ⟨l, u, h, hl⟩ := ih (k + 1) lost unclosed
    exact ⟨l, u + 1, .head (.opens heading ho) (h.tail (.leaves rfl)), fun hb ↦
      hl ⟨hb.output, hb.rendering⟩⟩
  | block heading ho _ ht ih =>
    obtain ⟨l, u, h, hl⟩ := ih (k + 1) lost unclosed
    exact ⟨l, u, .head (.opens heading ho) (h.tail (.closes rfl ht)), fun hb ↦
      hl ⟨hb.output, hb.rendering⟩⟩
  | finish ho hr h ih =>
    obtain ⟨l, u, hc, -⟩ := ih k lost unclosed
    obtain ⟨_, hx⟩ := h.extends ⟨ho, rfl⟩
    refine ⟨l, u, .head (.starts ho hr) (hc.tail (.finishes hx.building)), fun hb ↦ ?_⟩
    simp [hb.rendering] at hr
  | abandon ho hr h ih =>
    obtain ⟨l, u, hc, -⟩ := ih k lost unclosed
    obtain ⟨_, hx⟩ := h.extends ⟨ho, rfl⟩
    refine ⟨k, 0, .head (.starts ho hr) (hc.tail (.fails hx.building)), fun hb ↦ ?_⟩
    simp [hb.rendering] at hr

end Sheet

namespace Builder

open Sheet

variable {limit : Nat} {id : SheetId} {s t : Studio} {p : Stage}

theorem runSteps_course (limit : Nat) (argument : Value) (steps : List Step)
    (hid : id < s.sheets.length) (hs : s.sheet id = p.sheet) :
    ∃ lost unclosed, Course p
      ⟨((runSteps (runBodyWithin limit) argument steps).on s).2.sheet id, p.opened, lost, unclosed⟩ := by
  have hd := (runSteps_isOrderly (runBodyWithin_isOrderly limit) argument steps s id hid).2
  obtain ⟨l, u, h, -⟩ := hd.course p.opened p.lost p.unclosed
  rw [hs] at h
  exact ⟨l, u, h⟩

theorem started_course (hid : id < s.sheets.length) (hs : s.sheet id = p.sheet)
    (ho : p.sheet.output = none) (hr : p.sheet.rendering = false) {r : Except Fault Unit}
    (h : (runSheetBody (runBodyWithin limit) id).on (started id s) = (r, t)) :
    (t.sheet id).IsBuilding ∧
      ∃ unclosed, Course p ⟨t.sheet id, p.opened, p.lost, unclosed⟩ := by
  have hd := (runSheetBody_isOrderly (runBodyWithin_isOrderly limit) id).develops h
  have hb := (hd id (by simpa [started] using hid)).2
  rw [started, s.sheet_updateSheet_self id _ hid, hs] at hb
  have hstart : p.sheet.start.IsBuilding := ⟨ho, rfl⟩
  obtain ⟨l, u, hc, hl⟩ := hb.course p.opened p.lost p.unclosed
  obtain rfl := hl hstart
  obtain ⟨_, hx⟩ := hb.extends hstart
  exact ⟨hx.building, u, .head (.starts ho hr) hc⟩

theorem render_error_course {e : Fault} (hid : id < s.sheets.length) (hs : s.sheet id = p.sheet)
    (ho : p.sheet.output = none) (hr : p.sheet.rendering = false)
    (h : (render (runBodyWithin limit) id).on s = (.error e, t)) :
    Course p ⟨t.sheet id, p.opened, p.opened, 0⟩ := by
  obtain ⟨u, hu, hl, rfl⟩ := of_render_error (runBodyWithin_isOrderly limit) hid (hs ▸ ho) (hs ▸ hr) h
  obtain ⟨hb, unclosed, hc⟩ := started_course hid hs ho hr hu
  rw [u.sheet_updateSheet_self id _ hl]
  exact hc.tail (.fails hb)

theorem render_ok_course {T : String} (hs : s.sheet id = p.sheet) (ho : p.sheet.output = none)
    (h : (render (runBodyWithin limit) id).on s = (.ok T, t)) :
    ∃ unclosed, Course p ⟨t.sheet id, p.opened, p.lost, unclosed⟩ ∧ T = (t.sheet id).document := by
  obtain ⟨hid, hr, u, hu, hl, rfl, rfl⟩ :=
    of_render_ok (runBodyWithin_isOrderly limit) (hs ▸ ho) h
  obtain ⟨hb, unclosed, hc⟩ := started_course hid hs ho (hs ▸ hr) hu
  rw [rendered_sheet hl]
  exact ⟨unclosed, hc.tail (.finishes hb), rfl⟩

/-- The indentation of a sheet is the number of its open blocks, less the number of those that were
open when a failed attempt to build its text last reset it. So it is the number of its open blocks as
long as no attempt fails inside one of them; after one that does it falls short, and below zero once
they are left.

At the points of a run: steps leave as many blocks open as they find; a failed attempt resets the
sheet, whose open blocks stay open; and inside a block or a pass the steps of the body go on from where
it has begun. -/
theorem indentation_counts_open_blocks {b : Option Body} {p : Stage}
    (hp : Course { sheet := { body := b } } p) :
    p.sheet.indentation = p.opened - p.lost ∧
    (p.sheet.indentation = p.opened ↔ p.lost = 0) ∧
    (p.sheet.indentation < 0 ↔ p.opened < p.lost) ∧
    ∀ (limit : Nat) (s : Studio) (id : SheetId), id < s.sheets.length → s.sheet id = p.sheet →
      (∀ argument steps, ∃ lost unclosed, Course p
        ⟨((runSteps (runBodyWithin limit) argument steps).on s).2.sheet id, p.opened, lost,
          unclosed⟩) ∧
      (p.sheet.output = none → p.sheet.rendering = false → ∀ e t,
        (render (runBodyWithin limit) id).on s = (.error e, t) →
          Course p ⟨t.sheet id, p.opened, p.opened, 0⟩) ∧
      (p.sheet.output = none → ∀ heading,
        Course p ⟨(opened id heading s).sheet id, p.opened + 1, p.lost, p.unclosed⟩) ∧
      (p.sheet.output = none → p.sheet.rendering = false →
        Course p ⟨(started id s).sheet id, p.opened, p.lost, p.unclosed⟩) := by
  have hi := hp.indentation (p := { sheet := { body := b } }) rfl
  refine ⟨hi, by omega, by omega, fun limit s id hid hs ↦ ⟨fun argument steps ↦
    runSteps_course limit argument steps hid hs, fun ho hr e t h ↦
    render_error_course hid hs ho hr h, fun ho heading ↦ ?_, fun ho hr ↦ ?_⟩⟩
  · rw [sheet_opened hid, hs]
    exact .single (.opens heading ho)
  · rw [started, s.sheet_updateSheet_self id _ hid, hs]
    exact .single (.starts ho hr)

def failing : Body where
  steps := [.fail 0 (.asked "ValueError" none) none]

/-- A sheet that is reset inside a block has that block open and no indentation. -/
theorem indentation_in_reset_block :
    let s := Studio.withRoot {} (some failing)
    let t := ((render (runBodyWithin 1) 0).on (opened 0 ".a" s)).2
    Course { sheet := { body := some failing } } ⟨t.sheet 0, 1, 1, 0⟩ ∧
      (t.sheet 0).indentation = (1 : Nat) - (1 : Nat) := by
  intro s t
  have hs : Course { sheet := { body := some failing } } { sheet := s.sheet 0 } := .refl
  obtain ⟨-, -, -, hblock⟩ := indentation_counts_open_blocks hs
  have hinside := (hblock 1 s 0 Nat.one_pos rfl).2.2.1 rfl ".a"
  obtain ⟨-, -, -, hpass⟩ := indentation_counts_open_blocks hinside
  have hreset := (hpass 1 (opened 0 ".a" s) 0 Nat.one_pos rfl).2.1 rfl rfl _ t rfl
  exact ⟨hinside.trans hreset, (indentation_counts_open_blocks (hinside.trans hreset)).1⟩

/-- A block whose body catches the failure of an attempt leaves the sheet one level too far out. -/
theorem indentation_below_zero :
    let s := Studio.withRoot {} (some failing)
    let t := ((runSteps (runBodyWithin 2) (.sheet 0) [.call .root "s" [.atom (.text ".a"), .body none
      [.attempt [.text .root]]] [] none]).on s).2
    (t.sheet 0).indentation = -1 := rfl

end Builder

end Stylesheet

import Stylesheet.Proofs.Orderly

namespace Stylesheet

open Build

namespace Studio

variable {s t : Studio} {id : SheetId}

theorem lt_of_isBuilding (hb : (s.sheet id).IsBuilding) : id < s.sheets.length := by
  rcases Nat.lt_or_ge id s.sheets.length with hi | hi
  · exact hi
  · have hr := hb.rendering
    simp [s.sheet_eq_default id hi] at hr

theorem Develops.extends (h : s.Develops t) (hb : (s.sheet id).IsBuilding) :
    ∃ added, Sheet.Extends added (s.sheet id) (t.sheet id) :=
  (h id (lt_of_isBuilding hb)).2.extends hb

end Studio

namespace Builder

variable {s t : Studio} {id : SheetId}

theorem opened_isBuilding (heading : String) (hb : (s.sheet id).IsBuilding) :
    ((opened id heading s).sheet id).IsBuilding := by
  rw [sheet_opened (Studio.lt_of_isBuilding hb)]
  exact ⟨hb.output, hb.rendering⟩

theorem left_block {heading : String} (hb : (s.sheet id).IsBuilding)
    (hd : (opened id heading s).Develops t) :
    ∃ inner, Sheet.Extends (.opening (s.sheet id).indentation heading :: inner) (s.sheet id)
        ((t.updateSheet id Sheet.rise).sheet id) ∧
      AreDeep ((s.sheet id).indentation + 1) inner := by
  obtain ⟨inner, hi⟩ := hd.extends (opened_isBuilding heading hb)
  rw [sheet_opened (Studio.lt_of_isBuilding hb)] at hi
  rw [t.sheet_updateSheet_self id _ (Studio.lt_of_isBuilding hi.building)]
  exact ⟨inner, hi.leftBlock⟩

theorem block_fails {heading : String} {inside : Build Unit} {e : Fault}
    (hi : inside.IsOrderly) (hb : (s.sheet id).IsBuilding)
    (h : inside.on (opened id heading s) = (.error e, t)) :
    ((block id heading inside).on s).1 = .error e ∧
      ∃ inner, (((block id heading inside).on s).2.sheet id).chunks =
          (s.sheet id).chunks ++ .opening (s.sheet id).indentation heading :: inner ∧
        AreDeep ((s.sheet id).indentation + 1) inner := by
  rw [on_block_error hb.output h]
  obtain ⟨inner, hl, hdeep⟩ := left_block hb (hi.develops h)
  exact ⟨rfl, inner, hl.chunks, hdeep⟩

theorem block_returns {heading : String} {inside : Build Unit}
    (hi : inside.IsOrderly) (hb : (s.sheet id).IsBuilding)
    (h : inside.on (opened id heading s) = (.ok (), t)) :
    ((block id heading inside).on s).1 = .ok () ∧
      ∃ inner, (((block id heading inside).on s).2.sheet id).chunks =
          (s.sheet id).chunks ++ .opening (s.sheet id).indentation heading :: inner ++
            [.closing (s.sheet id).indentation] ∧
        AreDeep ((s.sheet id).indentation + 1) inner := by
  rw [on_block_ok hb.output h]
  obtain ⟨inner, hl, hdeep⟩ := left_block hb (hi.develops h)
  rw [on_write _ hl.building.output]
  refine ⟨rfl, inner, ?_, hdeep⟩
  rw [Studio.sheet_updateSheet_self _ id _ (Studio.lt_of_isBuilding hl.building)]
  change _ ++ [Chunk.closing _] = _
  rw [hl.chunks, hl.indentation]

variable {activate : Body → Value → Build Unit}

theorem on_perform_block {h h' : Heading} {body body' : Value} {heading : String}
    (hw : (h.worded activate body).on s = (.ok (heading, h', body'), t)) :
    (perform activate id (.block h body)).on s =
      (do block id heading (h'.runBody activate id body'); return Value.none).on t := by
  rw [perform, headed, bind_assoc, on_bind_ok hw]

/-- While the text of a sheet is being built, whatever is done only adds to the sheet: a call on any
sheet, the making of any text, the steps of any program. A block operation on it that returns has
added, after what its texts added, the opening line, deeper lines and the closing line; one whose body
fails fails alike and has no closing line. -/
theorem only_extended_while_building (limit : Nat) {s : Studio} {id : SheetId}
    (hb : (s.sheet id).IsBuilding) :
    (∀ j c, ∃ added, Sheet.Extends added (s.sheet id)
      (((perform (runBodyWithin limit) j c).on s).2.sheet id)) ∧
    (∀ v, ∃ added, Sheet.Extends added (s.sheet id)
      (((text (runBodyWithin limit) v).on s).2.sheet id)) ∧
    (∀ argument steps, ∃ added, Sheet.Extends added (s.sheet id)
      (((runSteps (runBodyWithin limit) argument steps).on s).2.sheet id)) ∧
    (∀ h body v t, (perform (runBodyWithin limit) id (.block h body)).on s = (.ok v, t) →
      ∃ heading before inner,
        ((h.worded (runBodyWithin limit) body).on s).1.map (·.1) = .ok heading ∧
        (t.sheet id).chunks = (s.sheet id).chunks ++ before ++
          .opening (s.sheet id).indentation heading :: inner ++
            [.closing (s.sheet id).indentation] ∧
        AreDeep ((s.sheet id).indentation + 1) inner) ∧
    (∀ h body heading h' body' t e u,
      (h.worded (runBodyWithin limit) body).on s = (.ok (heading, h', body'), t) →
      (h'.runBody (runBodyWithin limit) id body').on (opened id heading t) = (.error e, u) →
      ((perform (runBodyWithin limit) id (.block h body)).on s).1 = .error e ∧
      ∃ before inner,
        (((perform (runBodyWithin limit) id (.block h body)).on s).2.sheet id).chunks =
          (s.sheet id).chunks ++ before ++ .opening (s.sheet id).indentation heading :: inner ∧
        AreDeep ((s.sheet id).indentation + 1) inner) := by
  have ha := runBodyWithin_isOrderly limit
  refine ⟨fun j c ↦ (perform_isOrderly ha j c s).extends hb, fun v ↦
    (text_isOrderly ha v s).extends hb, fun argument steps ↦
    (runSteps_isOrderly ha argument steps s).extends hb, ?_, ?_⟩
  · intro h body v t hv
    rcases hw : (h.worded (runBodyWithin limit) body).on s with ⟨e | ⟨heading, h', body'⟩, u⟩
    · rw [perform, headed, bind_assoc, on_bind_error hw] at hv
      simp at hv
    · obtain ⟨before, hu⟩ := ((Heading.worded_isOrderly ha h body).develops hw).extends hb
      have hi := Heading.runBody_isOrderly ha h' id body'
      rw [on_perform_block hw] at hv
      obtain ⟨_, u', hblock, hv⟩ := of_bind_ok hv
      obtain rfl : u' = t := congrArg Prod.snd hv
      rcases hr : (h'.runBody (runBodyWithin limit) id body').on (opened id heading u) with ⟨e | _, x⟩
      · have hf := (block_fails hi hu.building hr).1
        simp [hblock] at hf
      · obtain ⟨-, inner, hc, hdeep⟩ := block_returns hi hu.building hr
        rw [hblock, hu.chunks, hu.indentation] at hc
        rw [hu.indentation] at hdeep
        exact ⟨heading, before, inner, rfl, hc, hdeep⟩
  · intro h body heading h' body' t e u ht hu
    obtain ⟨before, hx⟩ := ((Heading.worded_isOrderly ha h body).develops ht).extends hb
    obtain ⟨he, inner, hc, hdeep⟩ :=
      block_fails (Heading.runBody_isOrderly ha h' id body') hx.building hu
    rcases hblock : (block id heading (h'.runBody (runBodyWithin limit) id body')).on t with ⟨r, x⟩
    rw [hblock] at he hc
    obtain rfl : r = .error e := he
    rw [on_perform_block ht, on_bind_error hblock]
    rw [hx.chunks, hx.indentation] at hc
    rw [hx.indentation] at hdeep
    exact ⟨rfl, before, inner, hc, hdeep⟩

def busy : Studio := { sheets := [{ rendering := true, indentation := 1 }] }

/-- A body that opens a block, writes in it and fails there. -/
def failingBody : Body where
  steps := [.call .argument "mixin" [.atom (.text "m"), .body none
    [.call .argument "extend" [.atom (.text ".b")] [] none,
      .fail 0 (.asked "ValueError" none) none]] [] none]

theorem failing_block_while_building :
    (busy.sheet 0).IsBuilding ∧
    ∃ e before inner,
      ((perform (runBodyWithin 3) 0 (.block (.rule (.text ".a")) (.body 0 failingBody))).on busy).1 =
        .error e ∧
      (((perform (runBodyWithin 3) 0 (.block (.rule (.text ".a")) (.body 0 failingBody))).on
        busy).2.sheet 0).chunks = before ++ .opening 1 ".a" :: inner ∧
      AreDeep 2 inner := by
  have hb : (busy.sheet 0).IsBuilding := ⟨rfl, rfl⟩
  obtain ⟨he, before, inner, hc, hdeep⟩ := (only_extended_while_building 3 hb).2.2.2.2
    (.rule (.text ".a")) (.body 0 failingBody) _ _ _ _ _ _ rfl rfl
  exact ⟨hb, _, before, inner, he, hc, hdeep⟩

end Builder

end Stylesheet

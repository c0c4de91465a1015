import Stylesheet.Proofs.Deeds
import Stylesheet.Proofs.Retry
import Stylesheet.Proofs.Wording

namespace Stylesheet.Builder

open Build

/-- Whether a sheet is given for the name of a directive. -/
def Call.hasSheetName : Call → Bool
  | .block (.directive (.sheet _) _) _ => true
  | _ => false

section

variable {activate : Activation} {id : SheetId} {s t u w : Studio} {vs : List Value}

theorem block_throw_error (id : SheetId) (heading : String) (e : Fault) (s : Studio) :
    ∃ e' t, (block id heading (throw e)).on s = (.error e', t) := by
  rcases ho : (s.sheet id).output with _ | T
  · exact ⟨_, _, on_block_error ho (on_throw e _)⟩
  · exact ⟨_, _, on_block_finished ho⟩

theorem of_hasMarker_ok {name : Value} {marked : Bool} (hn : ∀ j, name ≠ .sheet j)
    (h : (hasMarker activate name).on s = (.ok marked, u)) : u = s := by
  unfold hasMarker at h
  split at h
  · cases h
    rfl
  · cases h
  · obtain ⟨_, v, h, hv⟩ := of_bind_ok h
    cases name with
    | sheet j => exact absurd rfl (hn j)
    | context i j =>
      obtain ⟨e, t, he⟩ := block_throw_error j ("&:" ++ "startswith") (.notCallable "str") s
      cases h.symm.trans he
    | _ => cases h

theorem items_sheets (v : Value) (s : Studio) : ((items v).on s).2.sheets = s.sheets := by
  unfold items
  split
  · rw [on_bind_ok (on_readStream _ s)]
    rfl
  · rw [on_bind_ok (on_readStream _ s)]
    rfl
  · split <;> rfl

theorem Heading.values_sheets {h : Heading} (hn : ∀ j args, h ≠ .directive (.sheet j) args)
    (hv : (h.values activate).on s = (.ok vs, u)) : u.sheets = s.sheets := by
  cases h with
  | directive name args =>
    obtain ⟨marked, v, hm, hv⟩ := of_bind_ok hv
    cases hv
    rw [of_hasMarker_ok (fun j hj ↦ hn j args (hj ▸ rfl)) hm]
  | eachLoop counter list =>
    obtain ⟨xs, v, hx, hv⟩ := of_bind_ok hv
    cases hv
    unfold listed at hx
    split at hx
    · cases hx
      rfl
    · have hi := items_sheets list s
      rwa [hx] at hi
  | _ =>
    cases hv
    rfl

theorem Heading.directive_of_bare {h : Heading} {j : SheetId} {args args' : List Value}
    (hh : h.bare args = .directive (.sheet j) args') : ∃ given, h = .directive (.sheet j) given := by
  cases h <;> cases hh
  exact ⟨_, rfl⟩

theorem Call.values_sheets {c : Call} (hn : c.hasSheetName = false)
    (hv : (c.values activate id).on s = (.ok vs, u)) : u.sheets = s.sheets := by
  cases c with
  | line | assign | text | css =>
    cases hv
    rfl
  | raw chunk =>
    obtain ⟨_, v, h, hv⟩ := of_bind_ok hv
    cases hv
    rcases ho : (s.sheet id).output with _ | T
    · rw [on_checkWritable ho] at h
      cases h
      rfl
    · rw [on_checkWritable_finished ho] at h
      cases h
  | block h body =>
    obtain ⟨⟨h', body'⟩, v, hs, hv⟩ := of_bind_ok hv
    obtain ⟨hsplit, hbare⟩ := Heading.of_split_ok hs
    have hname (j : SheetId) (args : List Value) : h' ≠ .directive (.sheet j) args := by
      intro hh
      obtain ⟨given, rfl⟩ := Heading.directive_of_bare (hbare ▸ hh)
      cases hn
    rw [hsplit] at hs
    cases hs
    exact Heading.values_sheets hname hv

theorem of_textsInOrder_ok (ha : ∀ b v, (activate b v).IsOrderly) {xs : List String}
    (hx : (textsInOrder activate vs).on s = (.ok xs, t)) {i : Nat} {j : SheetId}
    (hi : vs[i]? = some (.sheet j)) : ∃ x, xs[i]? = some x ∧ (t.sheet j).output = some x := by
  induction vs generalizing s xs i with
  | nil => cases hi
  | cons v rest ih =>
    obtain ⟨x, u, hv, hx⟩ := of_bind_ok hx
    obtain ⟨more, w, hrest, hx⟩ := of_bind_ok hx
    cases hx
    cases i with
    | zero =>
      obtain rfl : v = .sheet j := Option.some.inj hi
      have ho := output_of_render ha hv
      rw [((textsInOrder_composed rest).isOrderly ha).develops hrest |>.sheet_eq ho]
      exact ⟨x, rfl, ho⟩
    | succ i => exact ih hrest hi

theorem proceed_hasDeeds (ha : ∀ b v, HasDeeds (activate b v)) (c : Call) (xs : List String) :
    HasDeeds (c.proceed activate id xs) := by
  cases c with
  | assign name value =>
    cases xs with
    | nil => exact .of_quiet (.pure _)
    | cons x rest =>
      exact .bind (text_hasDeeds ha name) fun _ ↦ .bind (.change id (fun _ ↦ rfl) fun _ ↦ rfl) fun _ ↦
        .of_quiet (.pure _)
  | block h body =>
    exact .bind ((h.split_composed body).hasDeeds ha) fun (h, body) ↦
      .bind (.change id (fun _ ↦ rfl) fun _ ↦ rfl) fun _ ↦
        .bind (((h.runBody_inside id body).hasDeeds ha).andThenRise id) fun _ ↦
          .bind (write_hasDeeds id _) fun _ ↦ .of_quiet (.pure _)
  | _ => exact .of_quiet (.pure _)

end

/-- Over runs in a row, a sheet that is not finished before them has one pass if it is finished
meanwhile. -/
theorem one_pass {α β γ : Type} {before : Build α} {call : Build β} {after : Build γ}
    {s s₀ : Studio} {ds₀ ds₁ ds₂ : List Deed} {j : SheetId} {x : String}
    (hs : (before.on s₀).2 = s) (ho : (s₀.sheet j).output = none)
    (hx : ((call.on s).2.sheet j).output = some x) (h₀ : Does before s₀ ds₀) (h₁ : Does call s ds₁)
    (h₂ : Does after (call.on s).2 ds₂) : (ds₀ ++ ds₁ ++ ds₂).count (.pass j) = 1 := by
  subst hs
  have hall := (h₀.leaves.trans h₁.leaves).trans h₂.leaves
  have hp := hall.passes j
  simpa [Sheet.isFinished, ho, h₂.leaves.text j x hx] using hp

theorem of_perform_ok {activate : Activation} {id : SheetId} {c : Call} {s t u : Studio}
    {vs : List Value} {v : Value} (hc : c.writes = true)
    (hv : (c.values activate id).on s = (.ok vs, u))
    (hkept : ((textsInOrder activate vs).on u).2.sheet id = s.sheet id)
    (h : (perform activate id c).on s = (.ok v, t)) :
    ∃ xs w, (textsInOrder activate vs).on u = (.ok xs, w) ∧ w.sheet id = s.sheet id ∧
      (w.sheet id).output = none ∧
      (c.proceed activate id xs).on (w.updateSheet id (·.write (c.chunk xs))) = (.ok v, t) := by
  rcases hx : (textsInOrder activate vs).on u with ⟨e | xs, w⟩
  · obtain ⟨e', he, -⟩ := (perform_begins hc).error ((on_bind_ok hv).trans hx)
    cases he.symm.trans h
  rw [hx] at hkept
  have htexts : (c.texts activate id).on s = (.ok xs, w) := (on_bind_ok hv).trans hx
  rcases ho : (w.sheet id).output with _ | T
  · rw [on_perform_written hc htexts ho] at h
    exact ⟨xs, w, rfl, hkept, ho, h⟩
  · by_cases hraw : ∃ chunk, c = .raw chunk
    · -- a raw text is made only if the sheet is not finished, and it has stayed so
      obtain ⟨chunk, rfl⟩ := hraw
      rw [hkept] at ho
      obtain ⟨_, _, hcheck, -⟩ := of_bind_ok hv
      rw [on_checkWritable_finished ho] at hcheck
      cases hcheck
    · have hfinished := on_perform_unwritten hc (fun chunk hch ↦ hraw ⟨chunk, hch⟩) htexts ho
      cases hfinished.symm.trans h

theorem after_render_error {limit : Nat} {j : SheetId} {w t : Studio} {e : Fault}
    (h : (render (runBodyWithin limit) j).on w = (.error e, t)) :
    (t.sheet j).output = none ∧ (j < w.sheets.length → (w.sheet j).rendering = false →
      t.sheet j = { body := (w.sheet j).body } ∧
        ∀ activate, (render activate j).on t = (pass activate j).on t) := by
  have ho : (w.sheet j).output = none := by
    rcases ho : (w.sheet j).output with _ | T
    · rfl
    · rw [on_render_finished _ ho] at h
      cases h
  refine ⟨?_, fun hj hr ↦ ?_⟩
  · cases hw : w.answer? j with
    | some r =>
      rw [on_render, hw] at h
      cases h
      exact ho
    | none =>
      obtain ⟨hj, -, hr⟩ := Studio.answer?_eq_none.1 hw
      rw [(failed_attempt hj ho hr rfl h).2.2]
  · obtain ⟨-, hl, ht⟩ := failed_attempt hj ho hr rfl h
    refine ⟨ht, fun activate ↦ ?_⟩
    rw [on_render, Studio.answer?_eq_none.2 ⟨hl, by rw [ht], by rw [ht]⟩]

/-- A call on one sheet with others among its arguments, whose texts are made without any use of the
first. If it returns, what it has written first on the unchanged sheet holds each sheet's own text in its
place; these sheets are finished, and over all that was done before and is done later, one pass over the
body of each has come to a good end. If the text of one cannot be made, the call fails right there: its
sheet is as it was, and the other one has no text and can be tried again. -/
theorem embeds_or_leaves_alone {limit : Nat} {id : SheetId} {c : Call} {s u : Studio}
    {vs : List Value} {ds : List Deed} (hid : id < s.sheets.length) (hc : c.writes = true)
    (hn : c.hasSheetName = false) (hv : (c.values (runBodyWithin limit) id).on s = (.ok vs, u))
    (hd : Does (textsInOrder (runBodyWithin limit) vs) u ds) (hu : .use id ∉ ds) :
    (∀ v t, (perform (runBodyWithin limit) id c).on s = (.ok v, t) → ∃ xs w,
      (textsInOrder (runBodyWithin limit) vs).on u = (.ok xs, w) ∧ w.sheet id = s.sheet id ∧
      (c.proceed (runBodyWithin limit) id xs).on (w.updateSheet id (·.write (c.chunk xs))) =
        (.ok v, t) ∧
      ∀ (i : Nat) (j : SheetId), vs[i]? = some (.sheet j) → ∃ x, xs[i]? = some x ∧
        (t.sheet j).output = some x ∧ (∀ activate, (render activate j).on t = (.ok x, t)) ∧
        ∀ {α β : Type} (before : Build α) (after : Build β) s₀ ds₀ ds₁ ds₂,
          (before.on s₀).2 = s → (s₀.sheet j).output = none → Does before s₀ ds₀ →
          Does (perform (runBodyWithin limit) id c) s ds₁ → Does after t ds₂ →
          (ds₀ ++ ds₁ ++ ds₂).count (.pass j) = 1) ∧
    (∀ front j back xs w e t, vs = front ++ .sheet j :: back →
      (textsInOrder (runBodyWithin limit) front).on u = (.ok xs, w) →
      (render (runBodyWithin limit) j).on w = (.error e, t) →
      (∃ e', (perform (runBodyWithin limit) id c).on s = (.error e', t) ∧ e.ComesTo e') ∧
      t.sheet id = s.sheet id ∧ (t.sheet j).output = none ∧
      (j < w.sheets.length → (w.sheet j).rendering = false →
        t.sheet j = { body := (w.sheet j).body } ∧
          ∀ activate, (render activate j).on t = (pass activate j).on t)) ∧
    HasDeeds (perform (runBodyWithin limit) id c) ∧
    ∀ argument steps, HasDeeds (runSteps (runBodyWithin limit) argument steps) := by
  have hsheets := Call.values_sheets hn hv
  have hkept : ((textsInOrder (runBodyWithin limit) vs).on u).2.sheet id = s.sheet id := by
    rw [hd.leaves.unused id (by rwa [hsheets]) hu, Studio.sheet, Studio.sheet, hsheets]
  have hord := runBodyWithin_isOrderly limit
  have hdeeds := runBodyWithin_hasDeeds limit
  refine ⟨fun v t h ↦ ?_, fun front j back xs w e t hvs hx he ↦ ?_,
    (perform_composed id c fun _ _ _ ↦ trivial).hasDeeds hdeeds, fun argument steps ↦
      (runSteps_composed argument steps).hasDeeds hdeeds⟩
  · obtain ⟨xs, w, hx, hw, ho, hp⟩ := of_perform_ok hc hv hkept h
    refine ⟨xs, w, hx, hw, hp, fun i j hi ↦ ?_⟩
    obtain ⟨x, hxi, hout⟩ := of_textsInOrder_ok hord hx hi
    obtain ⟨ds', hd'⟩ := proceed_hasDeeds hdeeds c xs (w.updateSheet id (·.write (c.chunk xs)))
    have hxt : (t.sheet j).output = some x := by
      have hwritten := Leaves.change id w (g := (·.write (c.chunk xs))) (fun _ ↦ rfl) fun _ ↦ rfl
      have hlast := (hwritten.trans hd'.leaves).text j x hout
      rwa [hp] at hlast
    refine ⟨x, hxi, hxt, fun activate ↦ on_render_finished activate hxt, ?_⟩
    intro α β before after s₀ ds₀ ds₁ ds₂ hs hs₀ h₀ h₁ h₂
    have ht : ((perform (runBodyWithin limit) id c).on s).2 = t := by rw [h]
    subst ht
    exact one_pass hs hs₀ hxt h₀ h₁ h₂
  · have hall : (textsInOrder (runBodyWithin limit) vs).on u = (.error e, t) := by
      have hj : (textsInOrder (runBodyWithin limit) (.sheet j :: back)).on w = (.error e, t) :=
        on_bind_error he
      rw [hvs, textsInOrder_append, on_bind_ok hx, on_bind_error hj]
    rw [hall] at hkept
    obtain ⟨hout, hagain⟩ := after_render_error he
    exact ⟨(perform_begins hc).error ((on_bind_ok hv).trans hall), hkept, hout, hagain⟩

theorem does_textsInOrder {activate : Activation} {v : Value} {rest : List Value} {s t : Studio}
    {ds es : List Deed} {x : String} (hv : (text activate v).on s = (.ok x, t))
    (h : Does (text activate v) s ds) (hr : Does (textsInOrder activate rest) t es) :
    Does (textsInOrder activate (v :: rest)) s (ds ++ es) := by
  refine .bind hv h ?_
  rcases hrest : (textsInOrder activate rest).on t with ⟨e | xs, u⟩
  · exact .fails hrest hr
  · exact List.append_nil es ▸ .bind hrest hr (.quiet (.pure _))

def framed : Studio where
  sheets := [{ indentation := 1 }, { body := some ⟨none, []⟩, chunks := [.raw "x"] }]

theorem embeds_framed :
    let c : Call := .line (.declare (.text "content") (.sheet 1))
    ∃ t, (perform (runBodyWithin 1) 0 c).on framed = (.ok .none, t) ∧
      (t.sheet 0).chunks = [.line 1 "content: x;"] ∧ (t.sheet 1).output = some "x" := by
  intro c
  have hpass : Does (text (runBodyWithin 1) (.sheet 1)) framed [.use 1, .pass 1] :=
    .passed rfl rfl (.body rfl (.quiet (.pure ())))
  have hd : Does (textsInOrder (runBodyWithin 1) [.text "content", .sheet 1]) framed
      [.use 1, .pass 1] :=
    does_textsInOrder rfl (.quiet (.pure _)) (does_textsInOrder rfl hpass (.quiet (.pure [])))
  have hvalues : (c.values (runBodyWithin 1) 0).on framed =
    (.ok [.text "content", .sheet 1], framed) := rfl
  obtain ⟨hreturns, -⟩ := embeds_or_leaves_alone (by decide) rfl rfl hvalues hd (by decide)
  obtain ⟨xs, w, hx, -, -, hsheets⟩ := hreturns .none _ rfl
  cases hx
  obtain ⟨x, hx, hout, -⟩ := hsheets 1 1 rfl
  cases hx
  exact ⟨_, rfl, rfl, hout⟩

end Stylesheet.Builder

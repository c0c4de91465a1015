import Stylesheet.Proofs.Spelling

namespace Stylesheet.Builder

open Build

def parted (args : List Value) (body : Value) : List Value × Value :=
  let last := args.getLastD .none
  if body.isNone && last.isBody then (args.dropLast, last) else (args, body)

section

variable {args : List Value} {body stray : Value} {s : Studio}

theorem splitBody_parted (args : List Value) (body : Value) :
    splitBody args body = match (parted args body).1.find? Value.isBody with
      | some stray => (get : Build Studio) >>= fun s ↦ throw (.misplacedBody (s.shown stray))
      | none => pure (parted args body) := rfl

theorem on_splitBody_stray (h : (parted args body).1.find? Value.isBody = some stray) :
    (splitBody args body).on s = (.error (.misplacedBody (s.shown stray)), s) := by
  rw [splitBody_parted, h]
  rfl

theorem splitBody_eq (h : (parted args body).1.find? Value.isBody = none) :
    splitBody args body = pure (parted args body) := by
  rw [splitBody_parted, h]

theorem parted_cases (args : List Value) (body : Value) :
    parted args body = (args, body) ∨
      ∃ front last, args = front ++ [last] ∧ last.isBody = true ∧ body = .none ∧
        parted args body = (front, last) := by
  rw [parted]
  split
  · next h =>
    obtain ⟨hbody, hlast⟩ := Bool.and_eq_true_iff.1 h
    rcases List.eq_nil_or_concat args with rfl | ⟨front, last, rfl⟩
    · cases hlast
    · rw [List.concat_eq_append, List.getLastD_concat] at *
      have hnone : body = .none := by
        cases body with
        | atom a => cases a <;> first | rfl | cases hbody
        | _ => cases hbody
      exact .inr ⟨front, last, rfl, hlast, hnone, by rw [List.dropLast_concat]⟩
  · exact .inl rfl

theorem parted_of_bodiless (h : ∀ v ∈ args, v.isBody = false) : parted args body = (args, body) := by
  rcases parted_cases args body with hp | ⟨front, last, rfl, hlast, -, -⟩
  · exact hp
  · have hnot := h last (List.mem_append_right front (List.mem_singleton_self last))
    simp [hlast] at hnot

end

namespace Heading

def takesBodies : Heading → Bool
  | .directive _ _ | .media _ | .keyframes _ | .mixin _ _ | .function _ _ => true
  | _ => false

def others : Heading → List Value
  | .directive _ args | .media args | .mixin _ args | .function _ args => args
  | .keyframes name => [name]
  | _ => []

def bare : Heading → List Value → Heading
  | .directive name _, args => .directive name args
  | .media _, args => .directive (.text "@media") args
  | .keyframes _, args => .directive (.text "@keyframes") args
  | .mixin name _, args => .mixin name args
  | .function name _, args => .function name args
  | h, _ => h

variable {h : Heading} {body : Value} {activate : Activation}

theorem split_of_takesBodies (hh : h.takesBodies = true) (body : Value) :
    h.split body = splitBody h.others body >>= fun p ↦ pure (h.bare p.1, p.2) := by
  cases h <;> first | rfl | cases hh

theorem split_eq_self (hh : h.takesBodies = false) (body : Value) : h.split body = pure (h, body) := by
  cases h <;> first | rfl | cases hh

theorem text_bare (h : Heading) : (h.bare h.others).text activate = h.text activate := by
  cases h <;> rfl

theorem runBody_bare (hh : h.takesBodies = true) (args : List Value) (id : SheetId) :
    (h.bare args).runBody activate id body = Builder.runBody activate body (.sheet id) := by
  cases h <;> first | rfl | cases hh

end Heading

section

variable {m : Method} {first args : List Value} {body stray : Value} {h h' : Heading}
  {activate : Activation} {id : SheetId} {s t : Studio} {e : Fault}

theorem others_of_variadicHeading (hh : variadicHeading? m (first ++ args) = some h)
    (hl : first.length = m.signature.positional.length) :
    h.takesBodies = true ∧ h.others = args := by
  cases m with
  | media =>
    obtain rfl := List.length_eq_zero_iff.1 hl
    cases hh
    exact ⟨rfl, rfl⟩
  | directive | mixin | function =>
    obtain ⟨n, rfl⟩ := List.length_eq_one_iff.1 hl
    cases hh
    exact ⟨rfl, rfl⟩
  | _ => cases hh

theorem on_split_stray (hh : h.takesBodies = true)
    (hs : (parted h.others body).1.find? Value.isBody = some stray) :
    (h.split body).on s = (.error (.misplacedBody (s.shown stray)), s) := by
  rw [Heading.split_of_takesBodies hh, on_bind_error (on_splitBody_stray hs)]

theorem split_parted (hh : variadicHeading? m (first ++ args) = some h)
    (hh' : variadicHeading? m (first ++ (parted args body).1) = some h') :
    h.split body = h'.split (parted args body).2 := by
  rcases parted_cases args body with hp | ⟨front, last, rfl, hlast, rfl, hp⟩
  · rw [hp, hh] at hh'
    cases hh'
    rw [hp]
  · rw [hp] at hh' ⊢
    rw [← List.append_assoc] at hh
    exact split_trailing hh hh' hlast

theorem split_bodiless (hh : h.takesBodies = true) (hbodiless : ∀ v ∈ h.others, v.isBody = false)
    (body : Value) : h.split body = pure (h.bare h.others, body) := by
  have hparted : parted h.others body = (h.others, body) := parted_of_bodiless hbodiless
  have hfind : (parted h.others body).1.find? Value.isBody = none := by
    rw [hparted]
    simpa using hbodiless
  rw [Heading.split_of_takesBodies hh, splitBody_eq hfind, hparted, pure_bind]

theorem of_perform_block_error (hs : h.split body = pure (h', body))
    (hp : (perform activate id (.block h body)).on s = (.error e, t)) :
    (h'.text activate).on s = (.error e, t) ∨
      ∃ heading u, (h'.text activate).on s = (.ok heading, u) ∧
        (e = .finished ∨ ∃ v, (h'.runBody activate id body).on (opened id heading u) = (.error e, v)) := by
  rcases ht : (h'.text activate).on s with ⟨e' | heading, u⟩
  · have hw : (h.worded activate body).on s = (.error e', u) := by
      rw [Heading.worded, hs, pure_bind, on_bind_error ht]
    rw [perform, headed, bind_assoc, on_bind_error hw] at hp
    cases hp
    exact .inl rfl
  · have hw : (h.worded activate body).on s = (.ok (heading, h', body), u) := by
      rw [Heading.worded, hs, pure_bind, on_bind_ok ht, on_pure]
    refine .inr ⟨heading, u, rfl, ?_⟩
    rw [on_perform_block hw] at hp
    rcases ho : (u.sheet id).output with _ | T
    · rcases hb : (h'.runBody activate id body).on (opened id heading u) with ⟨e' | _, v⟩
      · rw [on_bind_error (on_block_error ho hb)] at hp
        cases hp
        exact .inr ⟨v, rfl⟩
      · rw [on_bind, on_block_ok ho hb] at hp
        rcases hc : ((v.updateSheet id Sheet.rise).sheet id).output with _ | T
        · rw [on_write _ hc] at hp
          cases hp
        · rw [on_write_finished _ hc] at hp
          cases hp
          exact .inl rfl
    · rw [on_bind_error (on_block_finished ho)] at hp
      cases hp
      exact .inl rfl

theorem run_variadic {name : String} {pre first : List Value} {named : List (String × Value)}
    (hm : Attribute.ofSheet name = .ok (.method m pre)) (hv : m.isVariadicBlock = true)
    (hl : (pre ++ first).length = m.signature.positional.length)
    (hnames : ∀ e ∈ named, e.1 = "body") (id : SheetId) (args : List Value) :
    ∃ h, variadicHeading? m (pre ++ first ++ args) = some h ∧ h.takesBodies = true ∧
      h.others = args ∧ ∀ activate, Spelling.run activate ⟨.sheet id, name, first ++ args, named⟩ =
        perform activate id (.block h (bodyOf named)) := by
  have hlength : m.signature.positional.length ≤ (pre ++ first ++ args).length := by
    rw [List.length_append, hl]
    exact Nat.le_add_right _ _
  obtain ⟨h, hh, hb⟩ := bind_block hv hlength hnames
  obtain ⟨htakes, hothers⟩ := others_of_variadicHeading hh hl
  refine ⟨h, hh, htakes, hothers, fun activate ↦ ?_⟩
  rw [run_on_sheet hm, ← List.append_assoc, hb]
  rfl

end

/-- What is to be a block's body may stand at the end of the arguments behind its name: the call is the
one without it among the arguments and with it for its body. Another body among the arguments is
refused, the first one, before anything is run or changed, be the sheet finished or not. Without one
there is no such refusal but those that the texts of the heading or the body come to. -/
theorem last_body_is_the_body {m : Method} {name : String} {pre first : List Value}
    {named : List (String × Value)} (hm : Attribute.ofSheet name = .ok (.method m pre))
    (hv : m.isVariadicBlock = true) (hl : (pre ++ first).length = m.signature.positional.length)
    (hn : named = [] ∨ ∃ b, named = [("body", b)]) (id : SheetId) (args : List Value) :
    let rest := (parted args (bodyOf named)).1
    let body := (parted args (bodyOf named)).2
    (∀ activate, Spelling.run activate ⟨.sheet id, name, first ++ args, named⟩ =
      Spelling.run activate ⟨.sheet id, name, first ++ rest, [("body", body)]⟩) ∧
    ((∃ v ∈ rest, v.isBody = true) → ∃ stray ∈ rest, stray.isBody = true ∧ ∀ activate s,
      let e := Fault.misplacedBody (s.shown stray)
      (Spelling.run activate ⟨.sheet id, name, first ++ args, named⟩).on s = (.error e, s) ∧
        e.kind = "TypeError" ∧ e.text =
          "Block body must be the last argument, got callable " ++ s.shown stray ++ " before it") ∧
    ((∀ v ∈ rest, v.isBody = false) → ∃ h, variadicHeading? m (pre ++ first ++ rest) = some h ∧
      ∀ activate s t shown,
        (Spelling.run activate ⟨.sheet id, name, first ++ args, named⟩).on s =
          (.error (.misplacedBody shown), t) →
        (h.text activate).on s = (.error (.misplacedBody shown), t) ∨
          ∃ heading u v, (h.text activate).on s = (.ok heading, u) ∧
            (runBody activate body (.sheet id)).on (opened id heading u) =
              (.error (.misplacedBody shown), v)) := by
  intro rest body
  have hnames : ∀ e ∈ named, e.1 = "body" := by
    rcases hn with rfl | ⟨b, rfl⟩ <;> simp
  have hgiven : ∀ e ∈ [("body", body)], e.1 = "body" := by simp
  obtain ⟨h, hh, htakes, hothers, hrun⟩ := run_variadic hm hv hl hnames id args
  obtain ⟨h', hh', htakes', hothers', hrun'⟩ := run_variadic hm hv hl hgiven id rest
  have hbody : bodyOf [("body", body)] = body := rfl
  have hsplit : h.split (bodyOf named) = h'.split body := split_parted hh hh'
  refine ⟨fun activate ↦ ?_, ?_, fun hbodiless ↦ ?_⟩
  · rw [hrun, hrun', hbody, perform_of_split hsplit]
  · rintro ⟨v, hv, hvb⟩
    obtain ⟨stray, hs⟩ := Option.isSome_iff_exists.1 (List.find?_isSome.2 ⟨v, hv, hvb⟩)
    refine ⟨stray, List.mem_of_find?_eq_some hs, List.find?_some hs, fun activate s ↦ ⟨?_, rfl, rfl⟩⟩
    change (parted args (bodyOf named)).1.find? Value.isBody = some stray at hs
    rw [← hothers] at hs
    rw [hrun, perform, headed, bind_assoc, Heading.worded, bind_assoc,
      on_bind_error (on_split_stray htakes hs)]
  · have hs := split_bodiless htakes' (hothers' ▸ hbodiless) body
    refine ⟨h', hh', fun activate s t shown he ↦ ?_⟩
    rw [hrun, perform_of_split hsplit] at he
    rcases of_perform_block_error hs he with ht | ⟨heading, u, ht, hf | ⟨v, hv⟩⟩
    · exact .inl (h'.text_bare ▸ ht)
    · cases hf
    · exact .inr ⟨heading, u, v, h'.text_bare ▸ ht, Heading.runBody_bare htakes' _ id ▸ hv⟩

theorem last_body_of_mixin :
    (∀ activate,
      Spelling.run activate ⟨.sheet 0, "mixin", [.text "m", .text "$a", .body 0 ⟨none, []⟩], []⟩ =
        Spelling.run activate ⟨.sheet 0, "mixin", [.text "m", .text "$a"],
          [("body", .body 0 ⟨none, []⟩)]⟩) ∧
    ∃ stray, ∀ activate s,
      (Spelling.run activate
        ⟨.sheet 0, "media", [.body 0 ⟨none, []⟩, .text "print"], [("body", .none)]⟩).on s =
          (.error (.misplacedBody (s.shown stray)), s) := by
  have hmixin : Attribute.ofSheet "mixin" = .ok (.method .mixin []) := rfl
  have hname : ([] ++ [Value.text "m"]).length = Method.mixin.signature.positional.length := rfl
  obtain ⟨hgiven, -⟩ := last_body_is_the_body hmixin rfl hname (.inl rfl) 0
    [.text "$a", .body 0 ⟨none, []⟩]
  have hmedia : Attribute.ofSheet "media" = .ok (.method .media []) := rfl
  have hnone : ([] ++ ([] : List Value)).length = Method.media.signature.positional.length := rfl
  obtain ⟨-, hstray, -⟩ := last_body_is_the_body hmedia rfl hnone (.inr ⟨.none, rfl⟩) 0
    [.body 0 ⟨none, []⟩, .text "print"]
  obtain ⟨stray, -, -, he⟩ := hstray ⟨_, List.mem_cons_self, rfl⟩
  exact ⟨hgiven, stray, fun activate s ↦ (he activate s).1⟩

end Stylesheet.Builder

import Stylesheet.Compiler.Adapter
import Stylesheet.Proofs.World

namespace Stylesheet.Adapter

open Build Builder

def Use.asksVersion : Use → Bool
  | .version | .metadata => true
  | _ => false

def Use.installed (c : Compiler) : Use → Compiler
  | .install c' => c'
  | _ => c

def installedAfter (c : Compiler) (uses : List Use) : Compiler := uses.foldl Use.installed c

def told (c : Compiler) : List Use → List Value
  | [] => []
  | u :: rest => (if u.asksVersion then [currentVersion c] else []) ++ told (u.installed c) rest

def firstKnown : List Value → Value
  | [] => .none
  | v :: rest => if v.isNone then firstKnown rest else v

section

variable (activate : Activation)

/-- The adapter and the studio behind uses in a row, of which some may have failed. -/
def after (a : Adapter) (s : Studio) : List Use → Adapter × Studio
  | [] => (a, s)
  | u :: rest =>
    match (a.use activate u).on s with
    | (.ok (_, a'), t) => a'.after t rest
    | (.error _, t) => a.after t rest

def answer (a : Adapter) (s : Studio) (before : List Use) (u : Use) (behind : List Use) :
    Option (Except Fault Value) :=
  ((a.useEach activate (before ++ u :: behind)).on s).1.toOption.bind (·[before.length]?)

end

variable {activate : Activation} {t : Studio} {u : Use} {rest : List Use} {v : Value}

theorem isNone_iff : v.isNone = true ↔ v = .none := by
  rcases v with ⟨_ | _ | _ | _ | _ | _ | _⟩ | _ <;> simp [Value.isNone]

theorem firstKnown_append (vs ws : List Value) :
    firstKnown (vs ++ ws) = firstKnown (firstKnown vs :: ws) := by
  induction vs with
  | nil => rfl
  | cons v rest ih =>
    rcases hv : v.isNone with _ | _
    · simp [firstKnown, hv]
    · simpa [firstKnown, hv] using ih

theorem firstKnown_singleton (v : Value) : firstKnown [v] = v := by
  rcases h : v.isNone with _ | _
  · simp [firstKnown, h]
  · simp [firstKnown, isNone_iff.1 h, Value.isNone]

def hearing (a : Adapter) (vs : List Value) : Adapter :=
  { a with knownVersion := firstKnown (a.knownVersion :: vs) }

theorem hearing_nil (a : Adapter) : a.hearing [] = a := by
  rw [hearing, firstKnown_singleton]

theorem hearing_append (a : Adapter) (vs ws : List Value) :
    a.hearing (vs ++ ws) = (a.hearing vs).hearing ws := by
  simp only [hearing, ← List.cons_append, firstKnown_append]

theorem on_version (a : Adapter) (s : Studio) :
    a.version.on s =
      let a' := a.hearing [currentVersion s.compiler]
      (.ok (a'.knownVersion, a'), s) := by
  rcases h : a.knownVersion.isNone with _ | _
  · have hsame : a.hearing [currentVersion s.compiler] = a := by simp [hearing, firstKnown, h]
    rw [hsame, version, h]
    rfl
  · have hnew : a.hearing [currentVersion s.compiler] =
        { a with knownVersion := currentVersion s.compiler } := by
      rw [hearing, firstKnown, if_pos h, firstKnown_singleton]
    rw [hnew, version, h]
    rfl

theorem on_isAvailable (s : Studio) :
    ∃ t, isAvailable.on s = (.ok (!s.compiler.isBroken), t) ∧ t.compiler = s.compiler := by
  let asked : Studio := { s with requests := s.requests ++ [.trial trialRule] }
  have hrequest : (Engine.request (.trial trialRule)).on s = (.ok (), asked) := rfl
  have hbroken : asked.compiler.isBroken = s.compiler.isBroken := rfl
  rw [isAvailable, on_bind_ok hrequest, on_bind_ok (on_get asked), hbroken]
  cases s.compiler.isBroken <;> exact ⟨_, rfl, rfl⟩

theorem on_metadata (a : Adapter) (s : Studio) :
    ∃ t, t.compiler = s.compiler ∧ a.metadata.on s =
      let a' := a.hearing [currentVersion s.compiler]
      (.ok (.dict [(.text "name", .text name), (.text "version", a'.knownVersion),
        (.text "available", .bool (!s.compiler.isBroken))], a'), t) := by
  obtain ⟨t, havailable, ht⟩ := on_isAvailable s
  refine ⟨t, ht, ?_⟩
  rw [metadata, on_bind_ok (on_version a s), on_bind_ok havailable]
  rfl

theorem on_use_apart (limit : Nat) (a : Adapter) (h : u.asksVersion = false) (s : Studio) :
    ∃ t, t.compiler = u.installed s.compiler ∧
      ((∃ v, (a.use (runBodyWithin limit) u).on s = (.ok (v, a), t)) ∨
        ∃ e, (a.use (runBodyWithin limit) u).on s = (.error e, t)) := by
  have hkept {m : Build Value} (hm : m.KeepsWorld) :
      ∃ t, t.compiler = s.compiler ∧ ((∃ v, (m >>= fun v ↦ pure (v, a)).on s = (.ok (v, a), t)) ∨
        ∃ e, (m >>= fun v ↦ pure (v, a)).on s = (.error e, t)) := by
    rcases hr : m.on s with ⟨e | v, t⟩
    · exact ⟨t, (hm.same hr).compiler, .inr ⟨e, on_bind_error hr⟩⟩
    · exact ⟨t, (hm.same hr).compiler, .inl ⟨v, on_bind_ok hr⟩⟩
  have ha := runBodyWithin_keeps Studio.sameWorld_isSteady limit
  cases u with
  | version | metadata => cases h
  | name | precision | includePaths | currentVersion => exact ⟨s, rfl, .inl ⟨_, rfl⟩⟩
  | install c => exact ⟨{ s with compiler := c }, rfl, .inl ⟨_, rfl⟩⟩
  | isAvailable =>
    obtain ⟨t, havailable, ht⟩ := on_isAvailable s
    exact ⟨t, ht, .inl ⟨_, on_bind_ok havailable⟩⟩
  | compile source style =>
    exact hkept (((Engine.installed_isComposed _ _).compile source style).keeps
      Studio.sameWorld_isSteady ha)
  | css source includes compress withThis =>
    refine hkept ?_
    cases withThis
    · exact (job_composed source includes compress (Engine.installed_isComposed _ _)).keeps
        Studio.sameWorld_isSteady ha
    · exact (job_composed source includes compress (Engine.installed_isComposed _ _)).keeps
        Studio.sameWorld_isSteady ha

theorem on_use (limit : Nat) (a : Adapter) (u : Use) (s : Studio) :
    ∃ t, t.compiler = u.installed s.compiler ∧
      ((∃ v, (a.use (runBodyWithin limit) u).on s = (.ok (v, a.hearing (told s.compiler [u])), t)) ∨
        ∃ e, (a.use (runBodyWithin limit) u).on s = (.error e, t) ∧ a.hearing (told s.compiler [u]) = a) := by
  cases h : u.asksVersion with
  | false =>
    have htold : told s.compiler [u] = [] := by simp [told, h]
    rw [htold, hearing_nil]
    obtain ⟨t, ht, hv | ⟨e, he⟩⟩ := on_use_apart limit a h s
    · exact ⟨t, ht, .inl hv⟩
    · exact ⟨t, ht, .inr ⟨e, he, rfl⟩⟩
  | true =>
    cases u with
    | version => exact ⟨s, rfl, .inl ⟨_, on_version a s⟩⟩
    | metadata =>
      obtain ⟨t, ht, hmetadata⟩ := on_metadata a s
      exact ⟨t, ht, .inl ⟨_, hmetadata⟩⟩
    | _ => cases h

/-- A run of uses: all that it has been told stands behind the version that it knew before. -/
theorem after_eq (limit : Nat) (a : Adapter) (s : Studio) (uses : List Use) :
    ∃ t, a.after (runBodyWithin limit) s uses = (a.hearing (told s.compiler uses), t) ∧
      t.compiler = installedAfter s.compiler uses := by
  induction uses generalizing a s with
  | nil => exact ⟨s, by rw [told, hearing_nil]; rfl, rfl⟩
  | cons u rest ih =>
    have hcons : told s.compiler (u :: rest) =
        told s.compiler [u] ++ told (u.installed s.compiler) rest := by simp [told]
    obtain ⟨t, ht, hu⟩ := on_use limit a u s
    have hrest := ih (a.hearing (told s.compiler [u])) t
    rw [← hearing_append, ht, ← hcons] at hrest
    rcases hu with ⟨v, hv⟩ | ⟨e, he, ha⟩
    · rw [after, hv]
      exact hrest
    · rw [ha] at hrest
      rw [after, he]
      exact hrest

theorem on_useEach_cons {results : List (Except Fault Value)} (a : Adapter) (u : Use) (s : Studio)
    (h : ((a.after activate s [u]).1.useEach activate rest).on (a.after activate s [u]).2 =
      (.ok results, t)) :
    (a.useEach activate (u :: rest)).on s =
      (.ok (((a.use activate u).on s).1.map Prod.fst :: results), t) := by
  rw [useEach, on_bind_ok (on_outcome _ s)]
  rcases hu : (a.use activate u).on s with ⟨e | ⟨v, a'⟩, t'⟩
  all_goals
    simp only [after, hu] at h ⊢
    rw [on_bind_ok h]
    rfl

theorem on_useEach (activate : Activation) (a : Adapter) (s : Studio) (uses : List Use) :
    ∃ results t, (a.useEach activate uses).on s = (.ok results, t) := by
  induction uses generalizing a s with
  | nil => exact ⟨[], s, rfl⟩
  | cons u rest ih =>
    obtain ⟨results, t, h⟩ := ih (a.after activate s [u]).1 (a.after activate s [u]).2
    exact ⟨_, t, on_useEach_cons a u s h⟩

theorem on_useEach_append (activate : Activation) (a : Adapter) (s : Studio) (before : List Use) (u : Use)
    (behind : List Use) :
    ∃ answers more t, answers.length = before.length ∧
      let now := a.after activate s before
      (a.useEach activate (before ++ u :: behind)).on s =
        (.ok (answers ++ ((now.1.use activate u).on now.2).1.map Prod.fst :: more), t) := by
  induction before generalizing a s with
  | nil =>
    obtain ⟨more, t, h⟩ := on_useEach activate (a.after activate s [u]).1 (a.after activate s [u]).2 behind
    exact ⟨[], more, t, rfl, on_useEach_cons a u s h⟩
  | cons first before ih =>
    have hafter : a.after activate s (first :: before) =
        (a.after activate s [first]).1.after activate (a.after activate s [first]).2 before := by
      rcases hu : (a.use activate first).on s with ⟨e | ⟨v, a'⟩, t'⟩ <;> simp only [after, hu]
    obtain ⟨answers, more, t, hlength, h⟩ :=
      ih (a.after activate s [first]).1 (a.after activate s [first]).2
    rw [← hafter] at h
    exact ⟨((a.use activate first).on s).1.map Prod.fst :: answers, more, t, congrArg Nat.succ hlength,
      on_useEach_cons a first s h⟩

theorem answer_eq (activate : Activation) (a : Adapter) (s : Studio) (before : List Use) (u : Use)
    (behind : List Use) :
    let now := a.after activate s before
    a.answer activate s before u behind = some (((now.1.use activate u).on now.2).1.map Prod.fst) := by
  obtain ⟨answers, more, t, hlength, h⟩ := on_useEach_append activate a s before u behind
  rw [answer, h]
  simp [Except.toOption, ← hlength]

/-- Whatever an adapter is used for, and whichever compilers are installed meanwhile: it remembers the first
version that it was told when it was asked for one, and gives the version that the compiler has to tell now
until there is one. What the compiler of the moment has to tell can always be asked for, and this is not
remembered, nor does any other use change what is. -/
theorem first_version_is_kept (limit : Nat) (includePaths : List Value) (precision : Value) (s : Studio)
    (before behind : List Use) :
    let a : Adapter := { includePaths, precision }
    let answer (u : Use) := a.answer (runBodyWithin limit) s before u behind
    let c := installedAfter s.compiler before
    let known := firstKnown (told s.compiler before)
    let version := if known.isNone then currentVersion c else known
    (a.after (runBodyWithin limit) s before).1 = { a with knownVersion := known } ∧
    answer .version = some (.ok version) ∧
    answer .metadata = some (.ok (.dict [(.text "name", .text "libsass"), (.text "version", version),
      (.text "available", .bool (!c.isBroken))])) ∧
    answer .currentVersion = some (.ok (currentVersion c)) ∧
    currentVersion c =
      if c.libraryVersion.isTruthy then c.libraryVersion else c.packageVersion := by
  intro a answer c known version
  let seen := told s.compiler before
  obtain ⟨t, hafter, ht⟩ := after_eq limit a s before
  have hanswer (u : Use) : answer u =
      some ((((a.hearing seen).use (runBodyWithin limit) u).on t).1.map Prod.fst) := by
    change a.answer _ _ _ _ _ = _
    rw [answer_eq, hafter]
  have hknown : ((a.hearing seen).hearing [currentVersion t.compiler]).knownVersion = version := by
    rw [hearing, firstKnown, firstKnown_singleton, ht]
    rfl
  refine ⟨congrArg Prod.fst hafter, ?_, ?_, ?_, rfl⟩
  · have hversion := on_version (a.hearing seen) t
    rw [hanswer, use, hversion, ← hknown]
    rfl
  · obtain ⟨u, -, hmetadata⟩ := on_metadata (a.hearing seen) t
    have hbroken : c.isBroken = t.compiler.isBroken := by rw [ht]
    rw [hanswer, use, hmetadata, ← hknown, hbroken]
    rfl
  · have hcurrent : currentVersion c = currentVersion t.compiler := by rw [ht]
    rw [hanswer, hcurrent]
    rfl

end Stylesheet.Adapter

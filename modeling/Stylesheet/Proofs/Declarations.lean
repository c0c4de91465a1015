import Mathlib.Data.List.Basic
import Stylesheet.Proofs.Finished

namespace Stylesheet

open Build

def Chunk.declared? : Chunk → Option Value
  | .assignment _ name _ _ => some name
  | _ => none

def tokensOf (names : List String) : Table String String :=
  names.eraseDups.map fun n ↦ (n, "$" ++ n)

theorem keys_tokensOf (names : List String) : (tokensOf names).keys = names.eraseDups := by
  simp [tokensOf, Table.keys, Function.comp_def]

theorem get?_tokensOf (names : List String) (key token : String) :
    (tokensOf names).get? key = some token ↔ key ∈ names ∧ token = "$" ++ key := by
  have hfind : ∀ ns : List String, (ns.map fun n ↦ (n, "$" ++ n)).find? (fun e ↦ e.1 == key) =
      if key ∈ ns then some (key, "$" ++ key) else none := by
    intro ns
    induction ns with
    | nil => rfl
    | cons n ns ih =>
      by_cases h : n = key
      · simp [h]
      · have hne : key ≠ n := fun he ↦ h he.symm
        simpa [h, hne] using ih
  rw [Table.get?, tokensOf, hfind]
  by_cases h : key ∈ names
  · simp [h, eq_comm]
  · simp [h]

theorem eraseDups_concat (names : List String) (n : String) :
    (names ++ [n]).eraseDups = if n ∈ names then names.eraseDups else names.eraseDups ++ [n] := by
  rw [List.eraseDups_append]
  by_cases h : n ∈ names
  · simp [List.removeAll, h]
  · simp [List.removeAll, h, List.eraseDups_cons]

/-- A table of tokens is not changed by a name that it has, and gets any other name at its end. -/
theorem set_tokensOf (names : List String) (n : String) :
    Table.set (tokensOf names) n ("$" ++ n) = tokensOf (names ++ [n]) := by
  have hset : ∀ ns : List String, Table.set (ns.map fun m ↦ (m, "$" ++ m)) n ("$" ++ n) =
      (if n ∈ ns then ns else ns ++ [n]).map fun m ↦ (m, "$" ++ m) := by
    intro ns
    induction ns with
    | nil => rfl
    | cons m ns ih =>
      by_cases h : m = n
      · simp [Table.set, h]
      · have hne : n ≠ m := fun he ↦ h he.symm
        rw [List.map_cons, Table.set, if_neg (by simpa using h), ih]
        by_cases hm : n ∈ ns <;> simp [hm, hne]
  rw [tokensOf, hset, tokensOf, eraseDups_concat]
  simp only [List.mem_eraseDups]

namespace Sheet

/-- A sheet at some point of a run, with the names that have been declared on it since it was made, or
since a failed pass last dropped what was written. -/
structure Account where
  sheet : Sheet
  declared : List Value := []

/-- What is done to a sheet next: a variable is declared, something else is written or changed, or a
failed pass drops all. -/
inductive Change : Account → Account → Prop
  | declares {p : Account} (name : Value) (token shown key : String) (ho : p.sheet.output = none)
      (hn : ∀ n, name = .text n → key = n ∧ token = "$" ++ n) :
      Change p ⟨(p.sheet.write (.assignment · name token shown)).assign key token,
        p.declared ++ [name]⟩
  | other {p : Account} {S : Sheet} (added : List Chunk)
      (hc : S.chunks = p.sheet.chunks ++ added) (ha : ∀ c ∈ added, c.declared? = none)
      (ht : S.tokens = p.sheet.tokens) : Change p ⟨S, p.declared⟩
  | drops {p : Account} : Change p ⟨p.sheet.abandon, []⟩

/-- Whatever may be done to a sheet in a run, by work under way and by programs
(`Builder.runSteps_ledger`). -/
def Ledger : Account → Account → Prop := Relation.ReflTransGen Change

/-- What the account says shows on the sheet: the declared names have their lines, in this order, and
if they are texts the tokens are theirs. -/
structure Account.IsKept (p : Account) : Prop where
  lines : p.sheet.chunks.filterMap Chunk.declared? = p.declared
  tokens : ∀ names : List String, p.declared = names.map .text → p.sheet.tokens = tokensOf names
  references : ∀ depth n token shown, .assignment depth (.text n) token shown ∈ p.sheet.chunks →
    token = "$" ++ n

variable {p q : Account} {S T : Sheet}

theorem Account.IsKept.blank (hc : S.chunks = []) (ht : S.tokens = []) :
    Account.IsKept ⟨S, []⟩ where
  lines := by simp [hc]
  tokens names h := by
    have hnil : names = [] := List.map_eq_nil_iff.1 h.symm
    rw [hnil]
    exact ht
  references _ _ _ _ h := by simp [hc] at h

theorem Change.isKept (h : Change p q) (hp : p.IsKept) : q.IsKept := by
  cases h with
  | declares name token shown key ho hn =>
    refine ⟨?_, ?_, ?_⟩
    · change (p.sheet.chunks ++ [_]).filterMap Chunk.declared? = _
      rw [List.filterMap_append, hp.lines]
      rfl
    · intro names hnames
      -- the last of the names is the one that is declared now
      obtain ⟨before, last, rfl, hbefore, hlast⟩ := List.map_eq_append_iff.1 hnames.symm
      obtain ⟨n, rfl, hn'⟩ := List.map_eq_singleton_iff.1 hlast
      obtain ⟨rfl, rfl⟩ := hn n hn'.symm
      have htokens := hp.tokens before hbefore.symm
      change Table.set p.sheet.tokens key ("$" ++ key) = _
      rw [htokens, set_tokensOf]
    · intro depth n token' shown' hmem
      rcases List.mem_append.1 hmem with hmem | hmem
      · exact hp.references depth n token' shown' hmem
      · cases List.mem_singleton.1 hmem
        exact (hn n rfl).2
  | other added hc ha ht =>
    have hnone : added.filterMap Chunk.declared? = [] := List.filterMap_eq_nil_iff.2 ha
    refine ⟨?_, ?_, ?_⟩
    · rw [hc, List.filterMap_append, hp.lines, hnone, List.append_nil]
    · intro names hnames
      rw [ht, hp.tokens names hnames]
    · intro depth n token shown hmem
      rw [hc] at hmem
      rcases List.mem_append.1 hmem with hmem | hmem
      · exact hp.references depth n token shown hmem
      · exact nomatch ha _ hmem
  | drops => exact .blank rfl rfl

theorem Ledger.isKept (h : Ledger p q) (hp : p.IsKept) : q.IsKept := by
  induction h with
  | refl => exact hp
  | tail _ he ih => exact he.isKept ih

theorem Account.IsKept.line_of_declared {names : List String} {n : String} (hp : p.IsKept)
    (hnames : p.declared = names.map .text) (hn : n ∈ names) :
    ∃ depth shown, .assignment depth (.text n) ("$" ++ n) shown ∈ p.sheet.chunks := by
  have hmem : Value.text n ∈ p.sheet.chunks.filterMap Chunk.declared? := by
    rw [hp.lines, hnames]
    exact List.mem_map_of_mem hn
  obtain ⟨c, hc, hname⟩ := List.mem_filterMap.1 hmem
  cases c with
  | assignment depth name token shown =>
    obtain rfl : name = .text n := Option.some.inj hname
    obtain rfl := hp.references depth n token shown hc
    exact ⟨depth, shown, hc⟩
  | _ => cases hname

theorem Change.same (hc : S.chunks = p.sheet.chunks) (ht : S.tokens = p.sheet.tokens) :
    Change p ⟨S, p.declared⟩ :=
  .other [] (by rw [hc, List.append_nil]) (fun _ h ↦ nomatch h) ht

theorem Change.one {c : Chunk} (hc : S.chunks = p.sheet.chunks ++ [c]) (ha : c.declared? = none)
    (ht : S.tokens = p.sheet.tokens) : Change p ⟨S, p.declared⟩ := by
  refine .other [c] hc (fun c' h ↦ ?_) ht
  rw [List.mem_singleton.1 h, ha]

def Accounted (q : List Value → List Value → Prop) (S T : Sheet) : Prop :=
  ∀ declared, ∃ now, q declared now ∧ Ledger ⟨S, declared⟩ ⟨T, now⟩

/-- Nothing but the declaring of a variable adds a name to an account; a failed pass empties it. -/
theorem accounted_isGrowth {q : List Value → List Value → Prop} (hrefl : ∀ d, q d d)
    (htrans : ∀ {d e f}, q d e → q e f → q d f) (hdrops : ∀ d, q d []) :
    IsGrowth (Accounted q) where
  refl _ d := ⟨d, hrefl d, .refl⟩
  trans h h' d := by
    obtain ⟨e, hde, hST⟩ := h d
    obtain ⟨f, hef, hTU⟩ := h' e
    exact ⟨f, htrans hde hef, hST.trans hTU⟩
  line _ _ d := ⟨d, hrefl d, .single (.one rfl rfl rfl)⟩
  raw _ _ h d := by
    obtain ⟨e, hde, hST⟩ := h d
    exact ⟨e, hde, hST.tail (.one rfl rfl rfl)⟩
  leftBlock {S _} heading _ h d := by
    obtain ⟨e, hde, hST⟩ := h d
    have hopen : Change ⟨S, d⟩ ⟨(S.write (.opening · heading)).deepen, d⟩ := .one rfl rfl rfl
    exact ⟨e, hde, .head hopen (hST.tail (.same rfl rfl))⟩
  block {S _} heading _ h _ d := by
    obtain ⟨e, hde, hST⟩ := h d
    have hopen : Change ⟨S, d⟩ ⟨(S.write (.opening · heading)).deepen, d⟩ := .one rfl rfl rfl
    exact ⟨e, hde, .head hopen (hST.tail (.one rfl rfl rfl))⟩
  finish {S _} _ _ h d := by
    obtain ⟨e, hde, hST⟩ := h d
    have hstart : Change ⟨S, d⟩ ⟨S.start, d⟩ := .same rfl rfl
    exact ⟨e, hde, .head hstart (hST.tail (.same rfl rfl))⟩
  abandon {S _} _ _ h d := by
    obtain ⟨_, -, hST⟩ := h d
    have hstart : Change ⟨S, d⟩ ⟨S.start, d⟩ := .same rfl rfl
    exact ⟨[], hdrops d, .head hstart (hST.tail .drops)⟩

theorem Becomes.accounted (h : Becomes S T) : Accounted (fun _ _ ↦ True) S T := by
  have hG : IsGrowth (Accounted fun _ _ ↦ True) :=
    accounted_isGrowth (fun _ ↦ trivial) (fun _ _ ↦ trivial) fun _ ↦ trivial
  induction h with
  | refl S => exact hG.refl S
  | trans _ _ ih₁ ih₂ => exact hG.trans ih₁ ih₂
  | line words ho => exact hG.line words ho
  | assignment name token shown key ho hn =>
    intro declared
    exact ⟨declared ++ [name], trivial, .single (.declares name token shown key ho hn)⟩
  | raw words ho _ ih => exact hG.raw words ho ih
  | leftBlock heading ho _ ih => exact hG.leftBlock heading ho ih
  | block heading ho _ ht ih => exact hG.block heading ho ih ht
  | finish ho hr _ ih => exact hG.finish ho hr ih
  | abandon ho hr _ ih => exact hG.abandon ho hr ih

theorem Becomes.ledger (h : Becomes S T) (declared : List Value) :
    ∃ declared', Ledger ⟨S, declared⟩ ⟨T, declared'⟩ := by
  obtain ⟨declared', -, h⟩ := h.accounted declared
  exact ⟨declared', h⟩

/-- No name has been declared meanwhile: those that were declared still are, or a failed pass has dropped
them all. -/
def NamesNothing : Sheet → Sheet → Prop := Accounted fun declared now ↦ now = declared ∨ now = []

theorem namesNothing_isGrowth : IsGrowth NamesNothing := by
  refine accounted_isGrowth (fun _ ↦ .inl rfl) ?_ fun _ ↦ .inr rfl
  rintro d e f (rfl | rfl) (rfl | rfl)
  · exact .inl rfl
  · exact .inr rfl
  · exact .inr rfl
  · exact .inr rfl

end Sheet

namespace Builder

open Sheet

variable {limit : Nat} {id : SheetId} {s t : Studio} {p : Account} {name value : Value}

theorem runSteps_ledger (limit : Nat) (argument : Value) (steps : List Step)
    (hid : id < s.sheets.length) (hs : s.sheet id = p.sheet) :
    ∃ declared, Ledger p
      ⟨((runSteps (runBodyWithin limit) argument steps).on s).2.sheet id, declared⟩ := by
  have hd := (runSteps_isOrderly (runBodyWithin_isOrderly limit) argument steps s id hid).2
  rw [hs] at hd
  exact hd.ledger p.declared

theorem wording_isOrderly (limit : Nat) (name value : Value) :
    ((Call.assign name value).wording (runBodyWithin limit)).IsOrderly := by
  have ha := runBodyWithin_isOrderly limit
  exact .bind (text_isOrderly ha name) fun _ ↦ .bind (text_isOrderly ha value) fun _ ↦
    (IsQuiet.pure _).isOrderly

/-- A call for a variable makes its texts. Then it fails and has done no more, or the line and the token
are there. -/
theorem on_perform_assign (limit : Nat) (id : SheetId) (name value : Value) (s : Studio) :
    let r := ((Call.assign name value).wording (runBodyWithin limit)).on s
    (∃ e, (perform (runBodyWithin limit) id (.assign name value)).on s = (.error e, r.2)) ∨
    ∃ token shown key, r.1 = .ok () ∧ (r.2.sheet id).output = none ∧
      (perform (runBodyWithin limit) id (.assign name value)).on s =
        (.ok (.text token), r.2.updateSheet id fun S ↦
          (S.write (.assignment · name token shown)).assign key token) ∧
      ∀ n, name = .text n → key = n ∧ token = "$" ++ n := by
  have ha := runBodyWithin_isOrderly limit
  rw [perform, Call.wording]
  rcases h₁ : (text (runBodyWithin limit) name).on s with ⟨e | a, s₁⟩
  · have hf : (assign (runBodyWithin limit) id name value).on s = (.error e, s₁) := by
      rw [assign, on_bind_error h₁]
    rw [on_bind_error h₁, on_bind_error hf]
    exact .inl ⟨e, rfl⟩
  rcases h₂ : (text (runBodyWithin limit) value).on s₁ with ⟨e | shown, s₂⟩
  · have hf : (assign (runBodyWithin limit) id name value).on s = (.error e, s₂) := by
      rw [assign, on_bind_ok h₁, on_bind_error h₂]
    rw [on_bind_ok h₁, on_bind_error h₂, on_bind_error hf]
    exact .inl ⟨e, rfl⟩
  rw [on_bind_ok h₁, on_bind_ok h₂]
  rcases ho : (s₂.sheet id).output with _ | T
  · obtain ⟨key, hk, hn⟩ := on_assign ha h₁ h₂ ho
    refine .inr ⟨"$" ++ a, shown, key, rfl, ho, ?_, fun n hname ↦ ?_⟩
    · rw [on_bind_ok hk]
      rfl
    · obtain ⟨hkey, ha'⟩ := hn n hname
      exact ⟨hkey, by rw [ha']⟩
  · have hf : (assign (runBodyWithin limit) id name value).on s = (.error .finished, s₂) := by
      rw [assign, on_bind_ok h₁, on_bind_ok h₂, on_bind_error (on_write_finished _ ho)]
    rw [on_bind_error hf]
    exact .inl ⟨.finished, rfl⟩

theorem ledger_of_assign_ok {n : String} {v : Value} (hid : id < s.sheets.length)
    (hs : s.sheet id = p.sheet)
    (h : (perform (runBodyWithin limit) id (.assign (.text n) value)).on s = (.ok v, t)) :
    ∃ u shown declared,
      ((Call.assign (.text n) value).wording (runBodyWithin limit)).on s = (.ok (), u) ∧
      Ledger p ⟨u.sheet id, declared⟩ ∧
      t.sheet id =
        ((u.sheet id).write (.assignment · (.text n) ("$" ++ n) shown)).assign n ("$" ++ n) ∧
      Ledger p ⟨t.sheet id, declared ++ [.text n]⟩ := by
  have hw := wording_isOrderly limit (.text n) value s
  obtain ⟨hl, hb⟩ := hw id hid
  rw [hs] at hb
  obtain ⟨declared, hd⟩ := hb.ledger p.declared
  rcases on_perform_assign limit id (.text n) value s with ⟨e, he⟩ | ⟨token, shown, key, hr, ho, he, hn⟩
  · rw [he] at h
    cases h
  · rw [he, Prod.mk.injEq] at h
    obtain ⟨-, rfl⟩ := h
    obtain ⟨rfl, rfl⟩ := hn n rfl
    refine ⟨_, shown, declared, Prod.ext hr rfl, hd, ?_, ?_⟩
    · rw [Studio.sheet_updateSheet_self _ id _ hl]
    · rw [Studio.sheet_updateSheet_self _ id _ hl]
      exact hd.tail (.declares _ _ shown _ ho hn)

theorem ledger_of_assign_error {e : Fault} (hid : id < s.sheets.length) (hs : s.sheet id = p.sheet)
    (h : (perform (runBodyWithin limit) id (.assign name value)).on s = (.error e, t)) :
    t = (((Call.assign name value).wording (runBodyWithin limit)).on s).2 ∧
      ∃ declared, Ledger p ⟨t.sheet id, declared⟩ := by
  have ht : t = (((Call.assign name value).wording (runBodyWithin limit)).on s).2 := by
    rcases on_perform_assign limit id name value s with ⟨_, he⟩ | ⟨_, _, _, -, -, he, -⟩
    · rw [he] at h
      exact (congrArg Prod.snd h).symm
    · rw [he] at h
      cases h
  have hb := (wording_isOrderly limit name value s id hid).2
  rw [hs, ← ht] at hb
  exact ⟨ht, hb.ledger p.declared⟩

/-- A call for something else than a variable declares no name, if the bodies that it runs declare none.
Bodies are run as `activate` does it. -/
theorem perform_namesNothing {activate : Activation} (i : SheetId) {c : Call}
    (hc : ∀ name value, c ≠ .assign name value)
    (ha : ∀ b v, (activate b v).Keeps (Studio.Each NamesNothing)) :
    (perform activate i c).Keeps (Studio.Each NamesNothing) :=
  (perform_composed i c hc).keepsEach namesNothing_isGrowth ha False.elim

theorem render_error_ledger {e : Fault} (hid : id < s.sheets.length) (hs : s.sheet id = p.sheet)
    (ho : p.sheet.output = none) (hr : p.sheet.rendering = false)
    (h : (render (runBodyWithin limit) id).on s = (.error e, t)) :
    (t.sheet id).tokens = [] ∧ (t.sheet id).chunks = [] ∧ Ledger p ⟨t.sheet id, []⟩ := by
  have ha := runBodyWithin_isOrderly limit
  obtain ⟨u, hu, hl, rfl⟩ := of_render_error ha hid (hs ▸ ho) (hs ▸ hr) h
  have hd := (runSheetBody_isOrderly ha id).develops hu
  have hb := (hd id (by simpa [started] using hid)).2
  rw [started, s.sheet_updateSheet_self id _ hid, hs] at hb
  obtain ⟨declared, hc⟩ := hb.ledger p.declared
  have hstart : Change p ⟨p.sheet.start, p.declared⟩ := .same rfl rfl
  rw [u.sheet_updateSheet_self id _ hl]
  exact ⟨rfl, rfl, .head hstart (hc.tail .drops)⟩

/-- The tokens of a sheet are those of the names that have been declared on it, each `$` and its name,
in the order in which the names first came; every one of them has its line among the chunks. This is so
at every point of a run that declares names that are texts, counted since the sheet was made or since a
pass over its body last failed.

At the points of a run: programs go on with the account; a call for a variable that returns adds its
name to it behind what its texts have done, and one that fails has done nothing but to make its texts;
a failed pass leaves an empty account; and inside a block or a pass the steps of the body go on with the
account that they find. No other call on any sheet adds a name of its own: with bodies that declare none
it leaves the account as it was, or empty after a failed pass. -/
theorem tokens_follow_declarations {b : Option Body} {p : Account} {names : List String}
    (hp : Ledger ⟨{ body := b }, []⟩ p) (hnames : p.declared = names.map .text) :
    p.sheet.tokens = names.eraseDups.map (fun n ↦ (n, "$" ++ n)) ∧
    p.sheet.tokens.keys = names.eraseDups ∧
    (∀ key token, p.sheet.tokens.get? key = some token ↔ key ∈ names ∧ token = "$" ++ key) ∧
    p.sheet.chunks.filterMap Chunk.declared? = names.map .text ∧
    (∀ n ∈ names, ∃ depth shown, ∃ c ∈ p.sheet.chunks, c.declared? = some (.text n) ∧
      c.text = Chunk.lineAt depth ("$" ++ n ++ ": " ++ shown ++ ";")) ∧
    ∀ (limit : Nat) (s : Studio) (id : SheetId), id < s.sheets.length → s.sheet id = p.sheet →
      (∀ argument steps, ∃ declared, Ledger p
        ⟨((runSteps (runBodyWithin limit) argument steps).on s).2.sheet id, declared⟩) ∧
      (∀ n value v t, (perform (runBodyWithin limit) id (.assign (.text n) value)).on s = (.ok v, t) →
        ∃ u shown declared,
          ((Call.assign (.text n) value).wording (runBodyWithin limit)).on s = (.ok (), u) ∧
          Ledger p ⟨u.sheet id, declared⟩ ∧
          t.sheet id =
            ((u.sheet id).write (.assignment · (.text n) ("$" ++ n) shown)).assign n ("$" ++ n) ∧
          Ledger p ⟨t.sheet id, declared ++ [.text n]⟩) ∧
      (∀ n value e t, (perform (runBodyWithin limit) id (.assign (.text n) value)).on s =
          (.error e, t) →
        t = (((Call.assign (.text n) value).wording (runBodyWithin limit)).on s).2 ∧
        ∃ declared, Ledger p ⟨t.sheet id, declared⟩) ∧
      (p.sheet.output = none → p.sheet.rendering = false → ∀ e t,
        (render (runBodyWithin limit) id).on s = (.error e, t) →
        (t.sheet id).tokens = [] ∧ (t.sheet id).chunks = [] ∧ Ledger p ⟨t.sheet id, []⟩) ∧
      (∀ heading, Ledger p ⟨(opened id heading s).sheet id, p.declared⟩) ∧
      Ledger p ⟨(started id s).sheet id, p.declared⟩ ∧
      ∀ activate : Activation, (∀ b v, (activate b v).Keeps (Studio.Each NamesNothing)) →
        ∀ (i : SheetId) (c : Call), (∀ name value, c ≠ .assign name value) →
          ∃ declared, (declared = p.declared ∨ declared = []) ∧
            Ledger p ⟨((perform activate i c).on s).2.sheet id, declared⟩ := by
  have hk := Ledger.isKept hp (.blank rfl rfl)
  have htokens := hk.tokens names hnames
  refine ⟨htokens, ?_, ?_, hk.lines.trans hnames, ?_, ?_⟩
  · rw [htokens, keys_tokensOf]
  · intro key token
    rw [htokens, get?_tokensOf]
  · intro n hn
    obtain ⟨depth, shown, hc⟩ := hk.line_of_declared hnames hn
    exact ⟨depth, shown, _, hc, rfl, rfl⟩
  intro limit s id hid hs
  refine ⟨fun argument steps ↦ runSteps_ledger limit argument steps hid hs, ?_, ?_, ?_, ?_, ?_, ?_⟩
  · intro n value v t h
    exact ledger_of_assign_ok hid hs h
  · intro n value e t h
    exact ledger_of_assign_error hid hs h
  · intro ho hr e t h
    exact render_error_ledger hid hs ho hr h
  · intro heading
    rw [sheet_opened hid, hs]
    exact .single (.one rfl rfl rfl)
  · rw [started, s.sheet_updateSheet_self id _ hid, hs]
    exact .single (.same rfl rfl)
  · intro activate ha i c hc
    have hnone := (perform_namesNothing i hc ha s id hid).2 p.declared
    rwa [hs] at hnone

/-- A program that declares two variables, one of them again. -/
def palette : List Step :=
  [.call .root "v" [.atom (.text "a"), .atom (.int 1)] [] none,
    .call .root "v" [.atom (.text "b"), .atom (.int 2)] [] none,
    .call .root "v" [.atom (.text "a"), .atom (.int 3)] [] none]

theorem tokens_of_palette :
    0 < (Studio.withRoot {} none).sheets.length ∧
    ∃ t, ((runSteps (runBodyWithin 0) .none palette).on (Studio.withRoot {} none)).2 = t ∧
      Sheet.Ledger ⟨{}, []⟩ ⟨t.sheet 0, ["a", "b", "a"].map .text⟩ ∧
      (t.sheet 0).tokens = [("a", "$a"), ("b", "$b")] ∧
      ∃ u v, (perform (runBodyWithin 0) 0 (.assign (.text "c") (.int 4))).on t = (.ok v, u) ∧
        ∃ declared, Sheet.Ledger ⟨t.sheet 0, ["a", "b", "a"].map .text⟩
          ⟨u.sheet 0, declared ++ [.text "c"]⟩ := by
  have hfresh : Sheet.Ledger ⟨{}, []⟩ ⟨{}, []⟩ := .refl
  have hnone : ([] : List Value) = ([] : List String).map .text := rfl
  obtain ⟨-, -, -, -, -, hpoints⟩ := tokens_follow_declarations hfresh hnone
  let s := Studio.withRoot {} none
  obtain ⟨declared, ht⟩ := (hpoints 0 s 0 Nat.one_pos rfl).1 .none palette
  obtain rfl : ["a", "b", "a"].map Value.text = declared := (ht.isKept (.blank rfl rfl)).lines
  obtain ⟨htokens, -, -, -, -, hlater⟩ := tokens_follow_declarations ht rfl
  let t := ((runSteps (runBodyWithin 0) .none palette).on s).2
  obtain ⟨u, shown, declared, -, -, -, hu⟩ :=
    (hlater 0 t 0 Nat.one_pos rfl).2.1 "c" (.int 4) _ _ rfl
  exact ⟨Nat.one_pos, t, rfl, ht, htokens, _, _, rfl, declared, hu⟩

end Builder

end Stylesheet

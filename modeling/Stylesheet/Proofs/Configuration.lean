import Mathlib.Data.List.Forall2
import Stylesheet.Config.File
import Stylesheet.Proofs.Includes

namespace Stylesheet

namespace Value

/-- Values that a document can write. Of dictionaries and sets, keys are not looked at. -/
inductive IsWritten : Value → Prop
  | atom {a : Atom} (h : ∀ p, a ≠ .path p) : IsWritten (.atom a)
  | timestamp (t : Timestamp) : IsWritten (.timestamp t)
  | list {items : List Value} (h : ∀ v ∈ items, IsWritten v) : IsWritten (.list items)
  | tuple {items : List Value} (h : ∀ v ∈ items, IsWritten v) : IsWritten (.tuple items)
  | dict {entries : List (Value × Value)} (h : ∀ e ∈ entries, IsWritten e.2) : IsWritten (.dict entries)
  | set (members : List Value) : IsWritten (.set members)

theorem IsWritten.none : IsWritten .none := .atom (by simp)

theorem IsWritten.text (s : String) : IsWritten (.text s) := .atom (by simp)

variable {v default key item : Value} {vs : List Value} {es : List (Value × Value)}

theorem IsWritten.items (h : IsWritten (.list vs)) : ∀ v ∈ vs, IsWritten v := by
  cases h with
  | list h => exact h

theorem IsWritten.entries (h : IsWritten (.dict es)) : ∀ e ∈ es, IsWritten e.2 := by
  cases h with
  | dict h => exact h

theorem IsWritten.of_map {α : Type} {e : Except Fault α} {f : α → Value} (h : e.map f = .ok v)
    (hf : ∀ a, (f a).IsWritten) : v.IsWritten := by
  cases e with
  | error e => cases h
  | ok a =>
    cases h
    exact hf a

theorem IsWritten.orElse (h : v.IsWritten) (hd : default.IsWritten) :
    (v.orElse default).IsWritten := by
  rw [Value.orElse]
  split
  · exact h
  · exact hd

theorem IsWritten.setEntry (h : ∀ e ∈ es, IsWritten e.2) (hi : item.IsWritten) :
    ∀ e ∈ setEntry es key item, IsWritten e.2 := by
  induction es with
  | nil => simpa [Value.setEntry] using hi
  | cons first rest ih =>
    obtain ⟨hfirst, hrest⟩ := List.forall_mem_cons.1 h
    rw [Value.setEntry]
    split
    · exact List.forall_mem_cons.2 ⟨hi, hrest⟩
    · exact List.forall_mem_cons.2 ⟨hfirst, ih hrest⟩

theorem IsWritten.entry {name : String} (h : ∀ e ∈ es, IsWritten e.2) (hd : default.IsWritten) :
    ((Value.entry? es name).getD default).IsWritten := by
  rcases he : Value.entry? es name with _ | v
  · exact hd
  · rw [Value.entry?, Option.map_eq_some_iff] at he
    obtain ⟨e, he, rfl⟩ := he
    exact h e (List.mem_of_find?_eq_some he)

end Value

namespace Yaml

open Value (IsWritten setEntry)

theorem Constant.isWritten {tag : Tag} {text : String} {v : Value} (h : ofTag tag text = .ok v) :
    v.IsWritten := by
  cases tag <;> simp only [ofTag] at h
  case null =>
    cases h
    exact .none
  case text =>
    cases h
    exact .text text
  case timestamp => exact .of_map h .timestamp
  all_goals first | exact .of_map h fun _ ↦ .atom (by simp) | cases h

namespace Document

variable {α β : Type} {m : Building α} {f : α → Building β} {p : α → Prop} {q : β → Prop}

def Gives (m : Building α) (p : α → Prop) : Prop := ∀ s, p (m.run s).1

theorem Gives.pure {a : α} (h : p a) : Gives (pure a) p := fun _ ↦ h

theorem Gives.any (m : Building α) : Gives m fun _ ↦ True := fun _ ↦ trivial

theorem Gives.bind (hm : Gives m p) (hf : ∀ a, p a → Gives (f a) q) : Gives (m >>= f) q :=
  fun s ↦ hf _ (hm s) _

theorem Gives.mapM {l : List α} (hf : ∀ a, Gives (f a) q) :
    Gives (l.mapM f) fun bs ↦ ∀ b ∈ bs, q b := by
  induction l with
  | nil => exact .pure (by simp)
  | cons a rest ih =>
    rw [List.mapM_cons]
    exact (hf a).bind fun b hb ↦ ih.bind fun bs hbs ↦ .pure (List.forall_mem_cons.2 ⟨hb, hbs⟩)

theorem Gives.foldlM {g : β → α → Building β} {l : List α} {b : β} (hb : q b)
    (hg : ∀ b a, q b → Gives (g b a) q) : Gives (l.foldlM g b) q := by
  induction l generalizing b with
  | nil => exact .pure hb
  | cons a rest ih =>
    rw [List.foldlM_cons]
    exact (hg b a hb).bind fun b hb ↦ ih hb

theorem scalar_isWritten (level : Nat) (tag : Tag) (text : String) :
    Gives (scalar level tag text) IsWritten := by
  rw [scalar]
  split
  · next v h => exact .pure (Constant.isWritten h)
  · exact (Gives.any _).bind fun _ _ ↦ .pure .none

theorem noItems_isWritten : IsWritten (.list []) := .list (by simp)

theorem leftOut_isWritten : Gives leftOut IsWritten :=
  (Gives.any _).bind fun _ _ ↦ .pure noItems_isWritten

theorem misshapen_isWritten (level : Nat) : Gives (misshapen level) IsWritten :=
  (Gives.any _).bind fun _ _ ↦ .pure noItems_isWritten

theorem faulty_isWritten (level : Nat) (f : Fault) : Gives (faulty level f) IsWritten :=
  (Gives.any _).bind fun _ _ ↦ .pure .none

theorem build_isWritten (anchors : Array (Option Node)) (fuel level : Nat) (inside : List Nat)
    (n : Node) : Gives (build anchors fuel level inside n) IsWritten := by
  -- Children are built with less fuel, also those that an alias leads to.
  induction fuel generalizing level inside n with
  | zero => exact leftOut_isWritten
  | succ fuel ih =>
    rw [build.eq_def]
    dsimp -zeta only
    extract_lets inner child entries pair
    have hchild (n : Node) : Gives (child n) IsWritten := by
      simp only [child]
      split
      · split
        · exact leftOut_isWritten
        · exact ih _ _ _
      · exact ih _ _ _
    have hentries (nodes : List (Node × Node)) :
        Gives (entries nodes) fun es ↦ ∀ e ∈ es, IsWritten e.2 := by
      refine (Gives.any _).bind fun flat _ ↦ .foldlM (by simp) fun es node hes ↦ ?_
      obtain ⟨key, item⟩ := node
      refine (hchild key).bind fun key _ ↦ ?_
      have hset : Gives (do return setEntry es key (← child item)) fun es ↦ ∀ e ∈ es, IsWritten e.2 :=
        (hchild item).bind fun _ hitem ↦ .pure (IsWritten.setEntry hes hitem)
      dsimp only
      split
      · exact (Gives.any _).bind fun _ _ ↦ hset
      · exact hset
    have hpair (n : Node) : Gives (pair n) IsWritten := by
      simp only [pair]
      split
      · next key item _ =>
        exact (hchild key).bind fun key hkey ↦ (hchild item).bind fun item hitem ↦
          .pure (.tuple (by simp [hkey, hitem]))
      · exact misshapen_isWritten inner
    match n with
    | .scalar tag text =>
      dsimp only
      split
      · exact misshapen_isWritten inner
      · exact scalar_isWritten level tag text
    | .sequence tag items =>
      have hitems : Gives (do return Value.list (← items.mapM child)) IsWritten :=
        (Gives.mapM hchild).bind fun _ h ↦ .pure (.list h)
      have hpairs : Gives (do return Value.list (← items.mapM pair)) IsWritten :=
        (Gives.mapM hpair).bind fun _ h ↦ .pure (.list h)
      cases tag
      case sequence => exact hitems
      case orderedMap => exact hpairs
      case pairs => exact hpairs
      case set => exact misshapen_isWritten inner
      case mapping => exact misshapen_isWritten inner
      all_goals exact faulty_isWritten level _
    | .mapping tag nodes =>
      cases tag
      case mapping => exact (hentries nodes).bind fun _ h ↦ .pure (.dict h)
      case set => exact (hentries nodes).bind fun _ _ ↦ .pure (.set _)
      case orderedMap => exact misshapen_isWritten inner
      case pairs => exact misshapen_isWritten inner
      case sequence => exact misshapen_isWritten inner
      all_goals
        dsimp only
        split
        · exact scalar_isWritten level _ _
        · exact faulty_isWritten level _
    | .alias _ => exact leftOut_isWritten

end Document

theorem document_isWritten {text : Text.Pieces} {d : Document} (h : document text = .ok d) :
    d.value.IsWritten := by
  rw [document] at h
  obtain ⟨⟨n, anchors⟩, -, h⟩ := Fault.of_bind_ok h
  have hbuild := Document.build_isWritten anchors ((anchors.size + 1) * (text.size + 2)) 0 []
    (n.getD .empty) {}
  dsimp only at h
  split at h
  next value findings hrun =>
    rw [hrun] at hbuild
    split at h
    · cases h
    · cases h
      exact hbuild

end Yaml

namespace Environment

open Value (IsWritten)

variable {env : Environment} {v v' : Value} {vs vs' : List Value} {es es' : List (Value × Value)}

theorem expandItems_isWritten (hv : ∀ v ∈ vs, ∀ v', env.expand v = .ok v' → v'.IsWritten)
    (h : env.expandItems vs = .ok vs') : ∀ v ∈ vs', v.IsWritten := by
  induction vs generalizing vs' with
  | nil =>
    cases h
    simp
  | cons v rest ih =>
    obtain ⟨hfirst, hrest⟩ := List.forall_mem_cons.1 hv
    rw [expandItems] at h
    rcases he : env.expand v with e | v' <;> rw [he] at h
    · cases h
    rcases hr : env.expandItems rest with e | rest' <;> rw [hr] at h <;> cases h
    exact List.forall_mem_cons.2 ⟨hfirst v' he, ih hrest hr⟩

theorem expandEntries_isWritten (hv : ∀ e ∈ es, ∀ v', env.expand e.2 = .ok v' → v'.IsWritten)
    (h : env.expandEntries es = .ok es') : ∀ e ∈ es', IsWritten e.2 := by
  induction es generalizing es' with
  | nil =>
    cases h
    simp
  | cons first rest ih =>
    obtain ⟨hfirst, hrest⟩ := List.forall_mem_cons.1 hv
    obtain ⟨key, v⟩ := first
    rw [expandEntries] at h
    rcases he : env.expand v with e | v' <;> rw [he] at h
    · cases h
    rcases hr : env.expandEntries rest with e | rest' <;> rw [hr] at h <;> cases h
    exact List.forall_mem_cons.2 ⟨hfirst v' he, ih hrest hr⟩

theorem expand_isWritten (hv : v.IsWritten) : ∀ v', env.expand v = .ok v' → v'.IsWritten := by
  -- References are replaced in texts, lists and dictionaries; the rest stays as it is.
  induction hv with
  | @atom a ha =>
    intro v' h
    cases a with
    | text s => exact .of_map h .text
    | _ =>
      cases h
      exact .atom ha
  | timestamp t =>
    intro v' h
    cases h
    exact .timestamp t
  | @list items _ ih =>
    intro v' h
    rw [expand] at h
    rcases he : env.expandItems items with e | items' <;> rw [he] at h <;> cases h
    exact .list (expandItems_isWritten ih he)
  | tuple hi =>
    intro v' h
    cases h
    exact .tuple hi
  | @dict entries _ ih =>
    intro v' h
    rw [expand] at h
    rcases he : env.expandEntries entries with e | entries' <;> rw [he] at h <;> cases h
    exact .dict (expandEntries_isWritten ih he)
  | set members =>
    intro v' h
    cases h
    exact .set members

end Environment

namespace Config

open Value (IsWritten)

variable {es es' : List (Value × Value)} {c : Config} {v : Value}

theorem entriesAt_isWritten {key : String} (hes : ∀ e ∈ es, IsWritten e.2)
    (h : entriesAt es key = .ok es') : ∀ e ∈ es', IsWritten e.2 := by
  rw [entriesAt] at h
  have hv : ((Value.entry? es key).getD .none).IsWritten := IsWritten.entry hes .none
  split at h
  · next entries heq =>
    cases h
    rw [heq] at hv
    exact hv.entries
  · split at h
    · cases h
    · cases h
      simp

theorem makeSettings_includes {compress includes includePaths precision : Value}
    {settings : CompileSettings}
    (h : CompileSettings.make compress includes includePaths precision = .ok settings) :
    includes = .list settings.includes := by
  rw [CompileSettings.make] at h
  obtain ⟨items, hi, h⟩ := Fault.of_bind_ok h
  obtain ⟨paths, -, h⟩ := Fault.of_bind_ok h
  obtain ⟨negative, -, h⟩ := Fault.of_bind_ok h
  cases negative <;> cases h
  cases includes with
  | list _ =>
    cases hi
    rfl
  | _ => cases hi

theorem compileSettings_isWritten {settings : CompileSettings} (hes : ∀ e ∈ es, IsWritten e.2)
    (h : compileSettings es = .ok settings) : ∀ v ∈ settings.includes, v.IsWritten := by
  rw [compileSettings] at h
  split at h
  · cases h
    simp
  · extract_lets value compress includes includePaths at h
    have hi : includes.IsWritten := .orElse (IsWritten.entry hes .none) (.list (by simp))
    obtain ⟨precision, -, h⟩ := Fault.of_bind_ok h
    rw [makeSettings_includes h] at hi
    exact hi.items

theorem ofValue_isWritten {env : Environment} (hv : v.IsWritten) (h : ofValue env v = .ok c) :
    ∀ v ∈ c.compile.includes, v.IsWritten := by
  rw [ofValue] at h
  obtain ⟨v', he, h⟩ := Fault.of_bind_ok h
  have hv' := Environment.expand_isWritten hv v' he
  cases v' with
  | dict data =>
    obtain ⟨output, -, h⟩ := Fault.of_bind_ok h
    obtain ⟨compile, hc, h⟩ := Fault.of_bind_ok h
    obtain ⟨settings, hs, h⟩ := Fault.of_bind_ok h
    cases h
    exact compileSettings_isWritten (entriesAt_isWritten hv'.entries hc) hs
  | _ => cases hv' <;> cases h

theorem load_isWritten {t : Files.Tree} {env : Environment} {given : Option Path} {discover : Bool}
    (h : load t env given discover = .ok c) : ∀ v ∈ c.compile.includes, v.IsWritten := by
  rw [load] at h
  obtain ⟨source, -, h⟩ := Fault.of_bind_ok h
  cases source with
  | none =>
    cases h
    simp
  | some p =>
    change ofFile t env p = .ok c at h
    rw [ofFile] at h
    obtain ⟨pieces, -, h⟩ := Fault.of_bind_ok h
    obtain ⟨d, hd, h⟩ := Fault.of_bind_ok h
    have hdata : (d.value.orElse (.dict [])).IsWritten :=
      (Yaml.document_isWritten hd).orElse (.dict (by simp))
    dsimp only at h
    split at h
    · cases h
    split at h
    · cases h
    obtain ⟨c', hc, h⟩ := Fault.of_bind_ok h
    cases h
    exact (ofValue_isWritten hdata hc :)

end Config

namespace Include

open Build Builder

variable {activate : Activation} {items : List Value} {item : Value} {texts : List String}
  {x : String} {s t : Studio}

def StandsFor (files : Files.Tree) (item : Value) (x : String) : Prop :=
  ∃ name, item = .text name ∧ if files.isFile name then files.readText name = .ok x else x = name

theorem standsFor_of_resolve (hi : item.IsWritten) (h : (resolve activate item).on s = (.ok x, t)) :
    StandsFor s.files item x ∧ t.files = s.files ∧ t.requests = s.requests := by
  cases hi with
  | @atom a ha =>
    cases a with
    | text name =>
      rcases hf : s.files.isFile name with _ | _
      · rw [on_resolve_text hf] at h
        cases h
        exact ⟨⟨x, rfl, by simp [hf]⟩, rfl, rfl⟩
      · rw [on_resolve_file hf, on_readFile] at h
        obtain ⟨hx, rfl⟩ := Prod.mk.inj h
        exact ⟨⟨name, rfl, by simp [hf, hx]⟩, rfl, rfl⟩
    | path p => exact absurd rfl (ha p)
    | _ => cases h
  | _ => cases h

theorem resolve_of_standsFor (activate : Activation) (h : StandsFor s.files item x) :
    ∃ t, (resolve activate item).on s = (.ok x, t) ∧ t.files = s.files := by
  obtain ⟨name, rfl, h⟩ := h
  rcases hf : s.files.isFile name with _ | _
  · obtain rfl : x = name := by simpa [hf] using h
    exact ⟨s, on_resolve_text hf, rfl⟩
  · rw [if_pos hf] at h
    rw [on_resolve_file hf, on_readFile, h]
    exact ⟨_, rfl, rfl⟩

theorem Resolves.standsFor (hi : ∀ v ∈ items, v.IsWritten) (h : Resolves activate items s texts t) :
    items.Forall₂ (StandsFor s.files) texts ∧ t.requests = s.requests := by
  induction h with
  | nil s => exact ⟨.nil, rfl⟩
  | cons hx hr ih =>
    obtain ⟨hitem, hrest⟩ := List.forall_mem_cons.1 hi
    obtain ⟨hfirst, hfiles, hrequests⟩ := standsFor_of_resolve hitem hx
    obtain ⟨hothers, hrequests'⟩ := ih hrest
    rw [hfiles] at hothers
    exact ⟨.cons hfirst hothers, hrequests'.trans hrequests⟩

theorem resolves_of_standsFor (activate : Activation) (h : items.Forall₂ (StandsFor s.files) texts) :
    ∃ t, Resolves activate items s texts t := by
  -- No item changes the files, so the others stand for the same behind it.
  generalize hfiles : s.files = files at h
  induction h generalizing s with
  | nil => exact ⟨s, .nil s⟩
  | cons hfirst _ ih =>
    rw [← hfiles] at hfirst
    obtain ⟨t, ht, htfiles⟩ := resolve_of_standsFor activate hfirst
    obtain ⟨u, hu⟩ := ih (htfiles.trans hfiles)
    exact ⟨u, .cons ht hu⟩

end Include

end Stylesheet

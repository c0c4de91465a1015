import Stylesheet.Proofs.Paths
import Stylesheet.Proofs.Streams

namespace Stylesheet

open Build

theorem Fault.inIteration_of_unasked {e : Fault} (he : ∀ kind text, e ≠ .asked kind text) :
    e.inIteration = e := by
  have hkind : e.kind ≠ "StopIteration" := by
    cases e with
    | asked kind text => exact absurd rfl (he kind text)
    | files trouble path => cases trouble <;> simp [kind, troubleKind]
    | _ => simp [kind]
  rw [inIteration, if_neg hkind]

theorem Content.unasked_of_source {c : Content} {e : Fault} (h : c.source = .error e) :
    ∀ kind text, e ≠ .asked kind text := by
  cases c with
  | text s => cases h
  | bytes b =>
    rw [source] at h
    split at h <;> cases h
    simp [Fault.ofBytes]

namespace Include

open Builder Studio

variable {activate : Activation} {xs ys items before after : List Value} {item : Value}
  {texts : List String} {s t u : Studio} {e : Fault} {name : String} {p : Path}

theorem inIteration_of_resolve (hg : GivesNoSheet item)
    (h : (resolve activate item).on s = (.error e, t)) : e.inIteration = e := by
  refine Fault.inIteration_of_unasked ?_
  rcases hs : stream? item with _ | id
  · exact (resolve_isSettled hg hs).unasked h
  · rw [on_resolve_stream hs] at h
    exact Content.unasked_of_source (congrArg Prod.fst h)

theorem combine_append (activate : Activation) (xs ys : List Value) :
    combine activate (xs ++ ys) = do
      return (← combine activate xs) ++ (← combine activate ys) := by
  induction xs with
  | nil => simp only [combine, List.nil_append, pure_bind, String.empty_append, bind_pure]
  | cons item rest ih =>
    simp only [combine, List.cons_append, ih, bind_assoc, pure_bind, String.append_assoc]

theorem combine_error_iff (activate : Activation) (items : List Value) (s : Studio) :
    (∃ e t, (combine activate items).on s = (.error e, t)) ↔
      ∃ before item after texts t e u, items = before ++ item :: after ∧
        Resolves activate before s texts t ∧ (resolve activate item).on t = (.error e, u) := by
  constructor
  · rintro ⟨e, t, h⟩
    rcases resolves_or_fails activate items s with ⟨texts, u, hr⟩ | hfails
    · rw [hr.on_combine] at h
      cases h
    · exact hfails
  · rintro ⟨before, item, after, texts, t, e, u, rfl, hr, he⟩
    exact ⟨_, u, hr.on_combine_error he⟩

theorem on_resolve_name (h : s.files.isFile name = true) :
    ((resolve activate (.text name)).on s).1 =
      ((resolve activate (.atom (.path (Path.ofString name)))).on s).1 := by
  rw [on_resolve_file h, on_resolve_path, on_readFile, on_readFile]
  rw [Files.Tree.isFile] at h
  split at h
  · next bytes hf =>
    rw [Files.Tree.readText, Files.Tree.readText, Files.Tree.read, Files.Tree.read, hf,
      Files.Tree.find_ofString hf]
  · cases h

theorem on_resolve_path_error (h : s.files.isFile p.toString = false) :
    ∃ trouble, ((resolve activate (.atom (.path p))).on s).1 = .error (.files trouble p.toString) ∧
      (s.files.find p.toString = .error .missing → trouble = .missing) := by
  rw [on_resolve_path, on_readFile]
  rw [Files.Tree.isFile] at h
  rw [Files.Tree.readText, Files.Tree.read]
  rcases hf : s.files.find p.toString with trouble | (bytes | _)
  · exact ⟨trouble, rfl, fun h ↦ Except.error.inj h⟩
  · rw [hf] at h
    cases h
  · exact ⟨.isAFolder, rfl, fun h ↦ by cases h⟩

theorem process_single {v : Value} (hnone : v ≠ .none) (hlist : ∀ items, v ≠ .list items)
    (htuple : ∀ items, v ≠ .tuple items) : process activate v = process activate (.list [v]) := by
  have hitems : itemsOf v = [v] := by
    cases v with
    | atom a =>
      cases a with
      | none => exact absurd rfl hnone
      | _ => rfl
    | list items => exact absurd rfl (hlist items)
    | tuple items => exact absurd rfl (htuple items)
    | _ => rfl
  rw [process, process, hitems]
  rfl

/-- Includes are joined in their order. Nothing has no items, a tuple those of a list, and any other value
is the only one; the items of two lists are those of the first, then those of the second. The sources that
the items stand for are put in a row, each with a line end. There is an error just if an item fails when
its turn comes. It is the error of the first such item (as it comes out of an iteration, which makes a
difference for sheets only), and nothing is done for the items behind it: streams that only they are stay
as they are. A text that names a file comes to the same as the path of this name, any other text to itself,
and a path that leads to no file fails. -/
theorem includes_in_order (activate : Activation) (s : Studio) :
    (process activate .none).on s = (.ok "", s) ∧
    (∀ items, process activate (.tuple items) = process activate (.list items)) ∧
    (∀ v : Value, v ≠ .none → (∀ items, v ≠ .list items) → (∀ items, v ≠ .tuple items) →
      process activate v = process activate (.list [v])) ∧
    (∀ xs ys, process activate (.list (xs ++ ys)) = do
      return (← process activate (.list xs)) ++ (← process activate (.list ys))) ∧
    (∀ items texts t, Resolves activate items s texts t →
      (process activate (.list items)).on s = (.ok (joined texts), t)) ∧
    (∀ items, (∃ e t, (process activate (.list items)).on s = (.error e, t)) ↔
      ∃ before item after texts t e u, items = before ++ item :: after ∧
        Resolves activate before s texts t ∧ (resolve activate item).on t = (.error e, u)) ∧
    (∀ before item after texts t e u, Resolves activate before s texts t →
      (resolve activate item).on t = (.error e, u) →
      (process activate (.list (before ++ item :: after))).on s = (.error e.inIteration, u) ∧
      ((∀ v ∈ before ++ [item], GivesNoSheet v) → e.inIteration = e ∧
        ∀ id, id ∉ streamsOf (before ++ [item]) → u.streams[id]? = s.streams[id]?)) ∧
    (∀ name, s.files.isFile name = true →
      ((resolve activate (.text name)).on s).1 =
        ((resolve activate (.atom (.path (Path.ofString name)))).on s).1) ∧
    (∀ name, s.files.isFile name = false → (resolve activate (.text name)).on s = (.ok name, s)) ∧
    ∀ p : Path, s.files.isFile p.toString = false → ∃ trouble,
      ((resolve activate (.atom (.path p))).on s).1 = .error (.files trouble p.toString) ∧
      (s.files.find p.toString = .error .missing → trouble = .missing) := by
  refine ⟨rfl, fun _ ↦ rfl, fun v ↦ process_single, combine_append activate,
    fun items texts t hr ↦ hr.on_combine, fun items ↦ combine_error_iff activate items s,
    fun before item after texts t e u hr he ↦ ⟨hr.on_combine_error he, fun hg ↦ ⟨?_, fun id hid ↦ ?_⟩⟩,
    fun name ↦ on_resolve_name, fun name ↦ on_resolve_text, fun p ↦ on_resolve_path_error⟩
  · exact inIteration_of_resolve (hg item (by simp)) he
  · exact (hr.readsOnly_of_error hg he).getElem?_of_not_mem hid

def shelf : Studio where
  streams := [⟨.text "y", false⟩, ⟨.text "z", false⟩]
  files := { nodes := [(["f"], .file "x".toUTF8)] }

/-- A number stands before the second stream, which is not read. -/
theorem includes_of_shelf :
    let before : List Value := [.text "a", .textStream 0]
    let t := shelf.spend 0
    Resolves (runBodyWithin 0) before shelf ["a", "y"] t ∧
      (resolve (runBodyWithin 0) (.int 5)).on t = (.error (.unsupportedInclude "int"), t) ∧
      (∀ v ∈ before ++ [.int 5], GivesNoSheet v) ∧ shelf.files.isFile "f" = true ∧
      (process (runBodyWithin 0) (.list before)).on shelf = (.ok "a\ny\n", t) ∧
      (process (runBodyWithin 0) (.list (before ++ .int 5 :: [.textStream 1]))).on shelf =
        (.error (.unsupportedInclude "int"), t) ∧
      t.streams[1]? = shelf.streams[1]? ∧
      ((resolve (runBodyWithin 0) (.text "f")).on shelf).1 =
        ((resolve (runBodyWithin 0) (.atom (.path (Path.ofString "f")))).on shelf).1 := by
  intro before t
  have hr : Resolves (runBodyWithin 0) before shelf ["a", "y"] t := .cons rfl (.cons rfl (.nil t))
  have he : (resolve (runBodyWithin 0) (.int 5)).on t = (.error (.unsupportedInclude "int"), t) := rfl
  have hg : ∀ v ∈ before ++ [.int 5], GivesNoSheet v := by
    simp [before, GivesNoSheet]
  have hfile : shelf.files.isFile "f" = true := rfl
  obtain ⟨-, -, -, -, hok, -, herror, hname, -⟩ := includes_in_order (runBodyWithin 0) shelf
  obtain ⟨hprocess, hplain⟩ := herror before (.int 5) [.textStream 1] _ _ _ _ hr he
  exact ⟨hr, he, hg, hfile, hok _ _ _ hr, hprocess, (hplain hg).2 1 (by decide), hname "f" hfile⟩

end Include

end Stylesheet

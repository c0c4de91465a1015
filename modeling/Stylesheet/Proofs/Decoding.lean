import Mathlib
import Stylesheet.Proofs.Includes

namespace Stylesheet

namespace Text

variable {b : ByteArray} {c : Char} {cs : List Char} {s x : String}

def withoutPairs : List Char → List Char
  | [] => []
  | '\r' :: '\n' :: rest => '\n' :: withoutPairs rest
  | c :: rest => c :: withoutPairs rest

def withoutReturns (cs : List Char) : List Char := cs.map fun c ↦ if c = '\r' then '\n' else c

def unified (s : String) : String := String.ofList (withoutReturns (withoutPairs s.toList))

theorem withoutPairs_cons (h : c = '\r' → cs.head? ≠ some '\n') :
    withoutPairs (c :: cs) = c :: withoutPairs cs := by
  rw [withoutPairs]
  rintro rest rfl rfl
  exact h rfl rfl

theorem unifyLineEnds_eq (cs : List Char) : unifyLineEnds cs = withoutReturns (withoutPairs cs) := by
  fun_induction unifyLineEnds cs with
  | case1 => rfl
  | case2 rest ih => simpa [withoutPairs, withoutReturns] using ih
  | case3 rest hpair ih =>
    have halone : rest.head? ≠ some '\n' := by
      intro h
      obtain ⟨more, rfl⟩ := List.head?_eq_some_iff.1 h
      exact hpair more rfl
    rw [withoutPairs_cons fun _ ↦ halone, ih]
    simp [withoutReturns]
  | case4 c rest hpair hreturn ih =>
    have hc : c ≠ '\r' := hreturn
    rw [withoutPairs_cons fun h ↦ absurd h hc, ih]
    simp [withoutReturns, hc]

theorem ofFile?_eq (b : ByteArray) : ofFile? b = (decodeUtf8? b).map unified := by
  rw [ofFile?]
  congr 1
  funext s
  rw [unifyLineEnds_eq, unified]

theorem decodeUtf8?_eq_none (h : ¬ b.IsValidUTF8) : decodeUtf8? b = none := by
  rw [decodeUtf8?, String.fromUTF8?, dif_neg h]

theorem decodeUtf8?_eq_some (h : b.IsValidUTF8) : ∃ x, decodeUtf8? b = some x ∧ x.toUTF8 = b := by
  refine ⟨String.fromUTF8 b h, ?_, rfl⟩
  rw [decodeUtf8?, String.fromUTF8?, dif_pos h]

def byteOrderMark : ByteArray := ⟨#[0xEF, 0xBB, 0xBF]⟩

theorem exists_of_byteOrderMark {rest : ByteArray} (h : x.toUTF8 = byteOrderMark ++ rest) :
    ∃ y, x = "\ufeff" ++ y := by
  have hmark : ['\ufeff'].utf8Encode = byteOrderMark := rfl
  have hbytes : ['\ufeff'].utf8Encode ++ rest = x.toList.utf8Encode := by
    rw [hmark, ← h, String.utf8Encode_toList, String.toUTF8_eq_toByteArray]
  obtain ⟨cs, hcs⟩ := List.isPrefix_of_utf8Encode_append_eq_utf8Encode rest hbytes
  refine ⟨String.ofList cs, ?_⟩
  rw [← String.toList_inj, ← hcs]
  simp

theorem unified_byteOrderMark (y : String) : unified ("\ufeff" ++ y) = "\ufeff" ++ unified y := by
  have hfront : ("\ufeff" ++ y).toList = '\ufeff' :: y.toList := by simp
  rw [unified, hfront, withoutPairs_cons (by simp), ← String.toList_inj]
  simp [withoutReturns, unified]

end Text

namespace Include

open Build Builder Text

variable {s : Studio} {b : ByteArray} {path : String}

theorem readText_of_find (h : s.files.find path = .ok (.file b)) :
    s.files.readText path = (Content.bytes b).source.map unified := by
  rw [Files.Tree.readText, Files.Tree.read, h, Content.source]
  dsimp only
  rw [ofFile?_eq]
  cases decodeUtf8? b <;> rfl

theorem isFile_of_find (h : s.files.find path = .ok (.file b)) : s.files.isFile path = true := by
  rw [Files.Tree.isFile, h]

/-- A stream of bytes, a text that names a file with these bytes and a path to such a file fail alike if
the bytes are no UTF-8. If they are, the stream stands for the text that they encode, and both files stand
for this text with its line ends made one. A mark of the byte order stays in front of all three. -/
theorem sources_of_bytes (activate : Activation) {id : StreamId} {name : String} {p : Path}
    (hstream : s.streams[id]? = some ⟨.bytes b, false⟩) (hname : s.files.find name = .ok (.file b))
    (hpath : s.files.find p.toString = .ok (.file b)) :
    let ofStream := ((resolve activate (.byteStream id)).on s).1
    let ofName := ((resolve activate (.text name)).on s).1
    let ofPath := ((resolve activate (.atom (.path p))).on s).1
    (¬ b.IsValidUTF8 → ∃ e : Fault, e.kind = "UnicodeDecodeError" ∧
      ofStream = .error e ∧ ofName = .error e ∧ ofPath = .error e) ∧
    (b.IsValidUTF8 → ∃ x : String, x.toUTF8 = b ∧
      ofStream = .ok x ∧ ofName = .ok (unified x) ∧ ofPath = .ok (unified x) ∧
      ∀ rest, b = byteOrderMark ++ rest →
        ∃ y, x = "\ufeff" ++ y ∧ unified x = "\ufeff" ++ unified y) := by
  intro ofStream ofName ofPath
  have hs : ofStream = (Content.bytes b).source := by
    have hunread : s.unread id = .bytes b := by
      rw [Studio.unread, hstream]
      rfl
    have hon : (resolve activate (.byteStream id)).on s = _ := on_resolve_stream rfl s
    rw [hunread] at hon
    exact congrArg Prod.fst hon
  have hn : ofName = (Content.bytes b).source.map unified := by
    rw [← readText_of_find hname]
    exact congrArg Prod.fst ((on_resolve_file (isFile_of_find hname)).trans (on_readFile name s))
  have hp : ofPath = (Content.bytes b).source.map unified := by
    rw [← readText_of_find hpath]
    exact congrArg Prod.fst ((on_resolve_path p s).trans (on_readFile p.toString s))
  rw [hs, hn, hp, Content.source]
  constructor
  · intro hb
    rw [decodeUtf8?_eq_none hb]
    exact ⟨.ofBytes b, rfl, rfl, rfl, rfl⟩
  · intro hb
    obtain ⟨x, hx, hbytes⟩ := decodeUtf8?_eq_some hb
    rw [hx]
    refine ⟨x, hbytes, rfl, rfl, rfl, fun rest hrest ↦ ?_⟩
    obtain ⟨y, rfl⟩ := exists_of_byteOrderMark (hbytes.trans hrest)
    exact ⟨y, rfl, unified_byteOrderMark y⟩

def stocked (b : ByteArray) : Studio where
  streams := [⟨.bytes b, false⟩]
  files := { nodes := [(["f"], .file b)] }

/-- A mark, a letter, a pair and a carriage return that is left; and a letter before what begins nothing. -/
theorem sources_of_bytes_stocked :
    let marked : ByteArray := ⟨#[0xEF, 0xBB, 0xBF, 0x61, 0x0D, 0x0A, 0x0D]⟩
    let broken : ByteArray := ⟨#[0x61, 0xFF]⟩
    let p := Path.ofString "./f"
    (∀ b, (stocked b).streams[0]? = some ⟨.bytes b, false⟩ ∧ (stocked b).files.find "f" = .ok (.file b) ∧
      (stocked b).files.find p.toString = .ok (.file b)) ∧
    (marked.IsValidUTF8 ∧ ∃ x y : String, x = "﻿" ++ y ∧ x.toUTF8 = marked ∧
      ((resolve (runBodyWithin 0) (.byteStream 0)).on (stocked marked)).1 = .ok x ∧
      ((resolve (runBodyWithin 0) (.text "f")).on (stocked marked)).1 = .ok (unified x)) ∧
    (¬ broken.IsValidUTF8 ∧ ∃ e : Fault, e.kind = "UnicodeDecodeError" ∧
      ((resolve (runBodyWithin 0) (.atom (.path p))).on (stocked broken)).1 = .error e) := by
  intro marked broken p
  have hp : p.toString = "f" := by decide
  have hstocked (b : ByteArray) : (stocked b).streams[0]? = some ⟨.bytes b, false⟩ ∧
      (stocked b).files.find "f" = .ok (.file b) ∧ (stocked b).files.find p.toString = .ok (.file b) := by
    rw [hp]
    exact ⟨rfl, rfl, rfl⟩
  have hvalid : marked.IsValidUTF8 := by decide
  have hbroken : ¬ broken.IsValidUTF8 := by decide
  refine ⟨hstocked, ⟨hvalid, ?_⟩, hbroken, ?_⟩
  · obtain ⟨hstream, hname, hpath⟩ := hstocked marked
    obtain ⟨x, hx, hs, hn, -, hmark⟩ :=
      (sources_of_bytes (runBodyWithin 0) hstream hname hpath).2 hvalid
    obtain ⟨y, hy, -⟩ := hmark ⟨#[0x61, 0x0D, 0x0A, 0x0D]⟩ rfl
    exact ⟨x, y, hy, hx, hs, hn⟩
  · obtain ⟨hstream, hname, hpath⟩ := hstocked broken
    obtain ⟨e, he, -, -, hp⟩ :=
      (sources_of_bytes (runBodyWithin 0) hstream hname hpath).1 hbroken
    exact ⟨e, he, hp⟩

end Include

end Stylesheet

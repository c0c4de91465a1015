import Stylesheet.Proofs.Vocabularies

namespace Stylesheet

namespace Text

variable {old new : Char} {s t : String}

theorem replaceChar_replaceChar (h : new ∉ s.toList) :
    replaceChar new old (replaceChar old new s) = s := by
  apply String.toList_inj.1
  rw [toList_replaceChar, toList_replaceChar, List.map_map]
  refine (List.map_congr_left fun c hc ↦ ?_).trans (List.map_id _)
  have hne : c ≠ new := fun he ↦ h (he ▸ hc)
  by_cases ho : c = old
  · simp [ho]
  · simp [ho, hne]

theorem eq_of_replaceChar_eq (hs : new ∉ s.toList) (ht : new ∉ t.toList)
    (h : replaceChar old new s = replaceChar old new t) : s = t :=
  calc s = replaceChar new old (replaceChar old new s) := (replaceChar_replaceChar hs).symm
    _ = replaceChar new old (replaceChar old new t) := by rw [h]
    _ = t := replaceChar_replaceChar ht

theorem mem_bytes {c : Char} {b : UInt8} (hb : b ∈ String.utf8EncodeChar c) (h : c ∈ s.toList) :
    b ∈ s.toByteArray.data.toList := by
  rw [← String.utf8Encode_toList, List.utf8Encode, List.toList_data_toByteArray]
  exact List.mem_flatMap.2 ⟨c, h, hb⟩

end Text

namespace Vocabulary

variable {name other method : String}

theorem withoutMarker_of_unmarked (h : startsWithMarker name = false) : withoutMarker name = name := by
  rw [withoutMarker, h, if_neg Bool.false_ne_true]

theorem methodName_of_unmarked (h : startsWithMarker name = false) :
    methodName name = Text.replaceChar '-' '_' name := by
  rw [methodName, withoutMarker_of_unmarked h]

theorem propertyName_methodName (hm : startsWithMarker name = false) (hu : '_' ∉ name.toList) :
    propertyName (methodName name) = name := by
  rw [methodName_of_unmarked hm, propertyName, Text.replaceChar_replaceChar hu]

theorem startsWithMarker_propertyName (method : String) :
    startsWithMarker (propertyName method) = startsWithMarker method := by
  rw [startsWithMarker, startsWithMarker, propertyName, Text.toList_replaceChar]
  rcases method.toList with _ | ⟨c, cs⟩
  · rfl
  · by_cases hc : c = '_'
    · simp [hc, marker]
    · simp [hc]

theorem methodName_propertyName (hm : startsWithMarker method = false) (hh : '-' ∉ method.toList) :
    methodName (propertyName method) = method := by
  rw [methodName_of_unmarked (startsWithMarker_propertyName method ▸ hm), propertyName,
    Text.replaceChar_replaceChar hh]

theorem eq_marked_of_startsWithMarker (h : startsWithMarker name = true) :
    name = "@" ++ withoutMarker name := by
  apply String.toList_inj.1
  have hhead : name.toList.head? = some '@' := eq_of_beq h
  rw [withoutMarker, if_pos h, String.toList_append, String.toList_ofList, String.toList_ofList]
  exact (List.cons_head?_tail hhead).symm

theorem not_mem_withoutMarker {c : Char} (h : c ∉ name.toList) : c ∉ (withoutMarker name).toList := by
  rw [withoutMarker]
  split
  · rw [String.toList_ofList]
    exact fun hc ↦ h (List.mem_of_mem_tail hc)
  · exact h

/-- Two words without underscores share a method name only if a marker is all that they differ by. -/
theorem of_methodName_eq (hn : '_' ∉ name.toList) (ho : '_' ∉ other.toList)
    (h : methodName name = methodName other) :
    name = other ∨ name = "@" ++ other ∨ other = "@" ++ name := by
  have hsame : withoutMarker name = withoutMarker other :=
    Text.eq_of_replaceChar_eq (not_mem_withoutMarker hn) (not_mem_withoutMarker ho) h
  rcases hmn : startsWithMarker name with _ | _ <;> rcases hmo : startsWithMarker other with _ | _
  · rw [withoutMarker_of_unmarked hmn, withoutMarker_of_unmarked hmo] at hsame
    exact .inl hsame
  · rw [withoutMarker_of_unmarked hmn] at hsame
    exact .inr (.inr (hsame ▸ eq_marked_of_startsWithMarker hmo))
  · rw [withoutMarker_of_unmarked hmo] at hsame
    exact .inr (.inl (hsame ▸ eq_marked_of_startsWithMarker hmn))
  · rw [eq_marked_of_startsWithMarker hmn, eq_marked_of_startsWithMarker hmo, hsame]
    exact .inl rfl

@[simp] theorem name_ofWord (word : String) : (Entry.ofWord word).name = word := rfl

theorem isDirective_ofWord (word : String) :
    (Entry.ofWord word).isDirective = startsWithMarker word := by
  rcases h : startsWithMarker word with _ | _
  · simp [Entry.ofWord, Entry.isDirective, h]
  · simp [Entry.ofWord, Entry.isDirective, h]

theorem of_get?_tableOf {names : List String} {e : Entry} (h : (tableOf names).get? method = some e) :
    ∃ name ∈ names, methodName name = method ∧ e = Entry.ofWord name := by
  rw [tableOf, Table.get?_map, Option.map_eq_some_iff] at h
  obtain ⟨name, hfound, rfl⟩ := h
  have hkey : (methodName name == method) = true :=
    List.find?_some (p := fun name ↦ methodName name == method) hfound
  exact ⟨name, List.mem_of_find?_eq_some hfound, eq_of_beq hkey, rfl⟩

theorem words_without_underscores : ∀ word ∈ words, '_' ∉ word.toList := by
  -- Bytes are read off a text much faster than characters.
  have hbytes : ∀ word ∈ words, (95 : UInt8) ∉ word.toByteArray.data.toList := by decide +kernel
  exact fun word hw h ↦ hbytes word hw (Text.mem_bytes (by decide) h)

theorem lookup_eq_none (h : propertyName method ∉ words) (hm : "@" ++ propertyName method ∉ words) :
    lookup method = none := by
  rcases hl : lookup method with _ | e
  · rfl
  · obtain ⟨name, hname, rfl, -⟩ := of_get?_tableOf hl
    have hback : propertyName (methodName name) = withoutMarker name :=
      Text.replaceChar_replaceChar (not_mem_withoutMarker (words_without_underscores name hname))
    rw [hback] at h hm
    rcases hmarked : startsWithMarker name with _ | _
    · rw [withoutMarker_of_unmarked hmarked] at h
      exact absurd hname h
    · exact absurd (eq_marked_of_startsWithMarker hmarked ▸ hname) hm

end Vocabulary

end Stylesheet

import DirectoryAuth.Bytes

/-! The UTF-8 form of a text, character by character. -/
namespace DirectoryAuth

theorem utf8_eq_flatMap (s : String) : utf8 s = s.toList.flatMap String.utf8EncodeChar := by
  rw [utf8, String.toUTF8, ← String.utf8Encode_toList, List.utf8Encode, List.data_toByteArray]

theorem ofUtf8?_flatMap (cs : List Char) :
    ofUtf8? (cs.flatMap String.utf8EncodeChar) = some (String.ofList cs) := by
  have hbytes : (⟨(cs.flatMap String.utf8EncodeChar).toArray⟩ : ByteArray) = cs.utf8Encode := by
    apply ByteArray.ext
    rw [List.utf8Encode, List.data_toByteArray]
  rw [ofUtf8?, hbytes, String.fromUTF8?, dif_pos ⟨cs, rfl⟩]
  rfl

theorem utf8_append (s t : String) : utf8 (s ++ t) = utf8 s ++ utf8 t := by
  simp only [utf8_eq_flatMap, String.toList_append, List.flatMap_append]

/-- Two texts with one form are equal. -/
theorem utf8_injective {s t : String} (h : utf8 s = utf8 t) : s = t := by
  rw [utf8_eq_flatMap, utf8_eq_flatMap] at h
  have hread := ofUtf8?_flatMap s.toList
  rw [h, ofUtf8?_flatMap] at hread
  simpa using (Option.some.inj hread).symm

/-- Zeros are the form of characters NUL, and of nothing else. -/
theorem utf8_eq_zeros_iff {s : String} :
    (∀ b ∈ utf8 s, b = 0) ↔ ∀ c ∈ s.toList, c = '\x00' := by
  have hnul : String.utf8EncodeChar '\x00' = [0] := rfl
  constructor
  · intro h
    have hzeros : utf8 s = utf8 (String.ofList (List.replicate (utf8 s).length '\x00')) := by
      rw [utf8_eq_flatMap (String.ofList _), String.toList_ofList, List.flatMap_replicate, hnul,
        List.flatten_replicate_singleton]
      exact List.eq_replicate_of_mem h
    intro c hc
    rw [utf8_injective hzeros, String.toList_ofList] at hc
    exact List.eq_of_mem_replicate hc
  · intro h b hb
    rw [utf8_eq_flatMap] at hb
    obtain ⟨c, hc, hb⟩ := List.mem_flatMap.mp hb
    rw [h c hc, hnul] at hb
    exact List.mem_singleton.mp hb

end DirectoryAuth

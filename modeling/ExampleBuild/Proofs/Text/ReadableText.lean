import ExampleBuild.Arguments.Option

namespace ExampleBuild

/-! Byte texts that can be read as strings. A character that is encoded with a single byte cuts
such a text into two. -/

open OwnOption (hyphen equalsSign)

def ByteText.IsText (bytes : ByteText) : Prop := ∃ text, utf8 text = bytes

theorem ByteText.isText_iff {bytes : ByteText} : bytes.IsText ↔ bytes.decode? ≠ none := by
  simp only [IsText, ← ByteText.decode?_eq_some_iff]
  exact Option.ne_none_iff_exists'.symm

namespace ByteText

theorem isText_iff_isValidUTF8 {bytes : ByteText} :
    bytes.IsText ↔ bytes.toByteArray.IsValidUTF8 := by
  constructor
  · intro isText
    rcases isText with ⟨text, rfl⟩
    have same : (utf8 text).toByteArray = text.toByteArray := by
      apply ByteArray.ext
      apply Array.toList_inj.mp
      rw [List.toList_data_toByteArray, utf8]
    exact same ▸ text.isValidUTF8
  · intro valid
    exact ⟨.ofByteArray _ valid, List.toList_data_toByteArray⟩

theorem isText_hyphen_cons_iff {text : ByteText} :
    ByteText.IsText (hyphen :: text) ↔ text.IsText := by
  have encoded : (hyphen :: text).toByteArray = ['-'].utf8Encode ++ text.toByteArray :=
    List.toByteArray_append (l := [hyphen])
  rw [isText_iff_isValidUTF8, isText_iff_isValidUTF8, encoded,
    ByteArray.isValidUTF8_utf8Encode_singleton_append_iff]

/-- No other character is encoded with the byte of an equals sign, so text can be cut
there. -/
theorem isText_cut_iff {before after : ByteText} :
    (before ++ equalsSign :: after).IsText ↔ before.IsText ∧ after.IsText := by
  simp only [isText_iff_isValidUTF8]
  have sign : (equalsSign :: after).toByteArray = ['='].utf8Encode ++ after.toByteArray :=
    List.toByteArray_append (l := [equalsSign])
  constructor
  · intro valid
    let text : String := .ofByteArray _ valid
    have bytes : text.toByteArray = before.toByteArray ++ (equalsSign :: after).toByteArray :=
      List.toByteArray_append
    have size : text.utf8ByteSize = before.length + (after.length + 1) := by
      rw [← String.size_toByteArray, bytes]
      simp
    have inside : (⟨before.length⟩ : String.Pos.Raw) < text.rawEndPos := by
      simp [String.Pos.Raw.lt_iff, size]
    have boundary : String.Pos.Raw.IsValid text ⟨before.length⟩ := by
      apply String.Pos.Raw.isValid_iff_isUTF8FirstByte.mpr
      have found : text.getUTF8Byte ⟨before.length⟩ inside = equalsSign := by
        simp [String.getUTF8Byte, bytes, ByteArray.getElem_append_right]
      refine .inr ⟨inside, ?_⟩
      rw [found]
      exact .inl rfl
    have first := boundary.isValidUTF8_extract_zero
    have second := boundary.isValidUTF8_extract_utf8ByteSize
    rw [bytes, ByteArray.extract_append_eq_left (by simp)] at first
    rw [bytes, size, ByteArray.extract_append_eq_right (by simp) (by simp), sign] at second
    exact ⟨first, ByteArray.isValidUTF8_utf8Encode_singleton_append_iff.mp second⟩
  · intro both
    rw [List.toByteArray_append, sign]
    exact both.1.append (ByteArray.isValidUTF8_utf8Encode_singleton_append_iff.mpr both.2)

end ByteText

end ExampleBuild

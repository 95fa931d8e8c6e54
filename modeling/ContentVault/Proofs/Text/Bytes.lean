import ContentVault.Text.Utf8

/-!
# The bytes of a text

* the bytes of a text are the bytes of its characters, one after another;
* different texts have different bytes;
* a byte below 0x80 occurs only as the whole of the character with that number,
  so a text holds such a byte exactly if it holds the character.
-/

namespace ContentVault.Utf8

private theorem toList_loop
    (bytes : ByteArray) (position : Nat) (found : List UInt8) :
    ByteArray.toList.loop bytes position found =
      found.reverse ++ bytes.data.toList.drop position := by
  fun_induction ByteArray.toList.loop bytes position found with
  | case1 position found inside inductionHypothesis =>
      have bound : position < bytes.data.toList.length := by
        simpa using inside
      have byteHere : bytes.get! position = bytes.data.toList[position] := by
        change bytes.data[position]! = _
        rw [getElem!_pos bytes.data position (by simpa using bound)]
        simp
      rw [inductionHypothesis, List.drop_eq_getElem_cons bound, byteHere]
      simp
  | case2 position found outside =>
      have past : bytes.data.toList.length ≤ position := by
        simpa using outside
      rw [List.drop_eq_nil_of_le past, List.append_nil]

theorem toList_eq_data (bytes : ByteArray) : bytes.toList = bytes.data.toList := by
  simp [ByteArray.toList, toList_loop]

theorem encode_eq_flatMap (text : String) :
    encode text = text.toList.flatMap String.utf8EncodeChar := by
  have spelled : text.toUTF8 = text.toList.utf8Encode := by
    rw [String.toUTF8_eq_toByteArray, String.utf8Encode_toList]
  rw [encode, spelled, toList_eq_data, List.utf8Encode, List.toList_data_toByteArray]

theorem encode_append (first second : String) :
    encode (first ++ second) = encode first ++ encode second := by
  simp [encode_eq_flatMap]

theorem encode_injective {first second : String}
    (same : encode first = encode second) :
    first = second := by
  rw [encode, encode, toList_eq_data, toList_eq_data] at same
  have sameBytes : first.toUTF8 = second.toUTF8 :=
    ByteArray.ext (Array.toList_inj.1 same)
  rw [String.toUTF8_eq_toByteArray, String.toUTF8_eq_toByteArray] at sameBytes
  exact String.toByteArray_inj.1 sameBytes

theorem encode_empty : encode "" = [] := by
  simp [encode_eq_flatMap]

/-- Bytes are decoded to the text that they spell. -/
theorem decode?_eq_some_iff {bytes : List UInt8} {text : String} :
    decode? (ByteArray.mk bytes.toArray) = some text ↔ bytes = encode text := by
  have spelled : bytes = encode text ↔ ByteArray.mk bytes.toArray = text.toByteArray := by
    rw [encode, toList_eq_data, String.toUTF8_eq_toByteArray, ByteArray.ext_iff,
      ← Array.toList_inj]
  rw [spelled, decode?, String.fromUTF8?]
  split
  · rw [Option.some_inj, ← String.toByteArray_inj]
    rfl
  · rename_i invalid
    refine iff_of_false (Option.some_ne_none text).symm fun same => invalid ?_
    rw [same]
    exact text.isValidUTF8

/-- A byte below 0x80 is the whole of the character in which it occurs. -/
theorem toNat_eq_of_mem_utf8EncodeChar
    {character : Char} {byte : UInt8}
    (small : byte.toNat < 0x80)
    (member : byte ∈ String.utf8EncodeChar character) :
    character.toNat = byte.toNat := by
  have number : character.toNat = character.val.toNat := rfl
  unfold String.utf8EncodeChar at member
  dsimp only at member
  split at member
  · simp only [List.mem_singleton] at member
    subst member
    rw [UInt8.toNat_ofNat']
    omega
  · -- Every byte of a longer spelling has its highest bit set.
    exfalso
    split at member
    · simp only [List.mem_cons, List.not_mem_nil, or_false] at member
      rcases member with rfl | rfl <;> simp only [UInt8.toNat_ofNat'] at small <;> omega
    · split at member
      · simp only [List.mem_cons, List.not_mem_nil, or_false] at member
        rcases member with rfl | rfl | rfl <;>
          simp only [UInt8.toNat_ofNat'] at small <;> omega
      · simp only [List.mem_cons, List.not_mem_nil, or_false] at member
        rcases member with rfl | rfl | rfl | rfl <;>
          simp only [UInt8.toNat_ofNat'] at small <;> omega

/-- A text without an ASCII character has no byte with its number. -/
theorem not_mem_encode
    {text : String} {character : Char} {byte : UInt8}
    (small : byte.toNat < 0x80)
    (number : character.toNat = byte.toNat)
    (absent : character ∉ text.toList) :
    byte ∉ encode text := by
  rw [encode_eq_flatMap, List.mem_flatMap]
  rintro ⟨found, member, spelled⟩
  have sameNumber : found.toNat = character.toNat := by
    rw [toNat_eq_of_mem_utf8EncodeChar small spelled, number]
  have same : found = character :=
    Char.ext (UInt32.toNat_inj.1 sameNumber)
  exact absent (same ▸ member)

end ContentVault.Utf8

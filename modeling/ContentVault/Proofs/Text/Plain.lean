import ContentVault.Proofs.Text.Bytes

/-!
# Plain texts

Texts of ASCII characters other than NUL.

* each character of a plain text is one byte, and no byte is zero;
* a plain text is read back from its bytes.
-/

namespace ContentVault.Utf8

/-- A text of ASCII characters other than NUL. -/
def IsPlain (text : String) : Prop :=
  ∀ character ∈ text.toList, 0 < character.toNat ∧ character.toNat < 0x80

theorem plain_of_isDigit {character : Char} (digit : character.isDigit = true) :
    0 < character.toNat ∧ character.toNat < 0x80 := by
  simp only [Char.isDigit, Bool.and_eq_true, decide_eq_true_eq, ge_iff_le,
    UInt32.le_iff_toNat_le] at digit
  change 48 ≤ character.toNat ∧ character.toNat ≤ 57 at digit
  omega

theorem isPlain_repr (number : Nat) : IsPlain number.repr := by
  intro character member
  rw [Nat.repr, String.toList_ofList] at member
  exact plain_of_isDigit (Nat.isDigit_of_mem_toDigits (by decide) (by decide) member)

theorem IsPlain.append {first second : String} (firstPlain : IsPlain first)
    (secondPlain : IsPlain second) : IsPlain (first ++ second) := by
  intro character member
  rw [String.toList_append, List.mem_append] at member
  exact member.elim (firstPlain character) (secondPlain character)

theorem utf8EncodeChar_of_ascii {character : Char} (ascii : character.toNat < 0x80) :
    String.utf8EncodeChar character = [UInt8.ofNat character.toNat] := by
  have number : character.toNat = character.val.toNat := rfl
  unfold String.utf8EncodeChar
  dsimp only
  rw [if_pos (by omega)]
  rfl

theorem encode_of_plain {text : String} (plain : IsPlain text) :
    encode text = text.toList.map fun character => UInt8.ofNat character.toNat := by
  rw [encode_eq_flatMap, List.map_eq_flatMap, List.flatMap_def, List.flatMap_def]
  exact congrArg List.flatten <| List.map_congr_left fun character member =>
    utf8EncodeChar_of_ascii (plain character member).2

theorem decodeFrom_of_ascii {bytes : List UInt8} (ascii : ∀ byte ∈ bytes, byte < 0x80)
    (done rest : List UInt8) (split : bytes = done ++ rest) (text : String) :
    decodeFrom (ByteArray.mk bytes.toArray) rest.length done.length text =
      text ++ String.ofList (rest.map fun byte => Char.ofNat byte.toNat) := by
  induction rest generalizing done text with
  | nil =>
      simp [decodeFrom]
  | cons byte rest inductionHypothesis =>
      have inside : done.length < (ByteArray.mk bytes.toArray).size := by
        simp [ByteArray.size, split]
      have isByte : (ByteArray.mk bytes.toArray)[done.length] = byte := by
        simp [ByteArray.getElem_eq_getElem_data, split]
      have isAscii : byte < 0x80 := ascii byte (by simp [split])
      have decoded : characterAt (ByteArray.mk bytes.toArray) done.length =
          (some (Char.ofNat byte.toNat), 1) := by
        unfold characterAt
        rw [dif_pos inside]
        simp only [isByte, if_pos isAscii]
      have onward := inductionHypothesis (done ++ [byte]) (by simp [split])
        (text.push (Char.ofNat byte.toNat))
      rw [List.length_cons, decodeFrom, if_pos inside, decoded]
      simp only [Option.getD_some]
      rw [List.length_append, List.length_singleton] at onward
      rw [onward, List.map_cons]
      apply String.toList_inj.1
      simp

/-- Plain text is read back from its bytes. -/
theorem decodeBytesLossy_encode {text : String} (plain : IsPlain text) :
    decodeBytesLossy (encode text) = text := by
  have ascii : ∀ byte ∈ encode text, byte < 0x80 := by
    intro byte member
    rw [encode_of_plain plain] at member
    obtain ⟨character, isCharacter, rfl⟩ := List.mem_map.1 member
    have bound := (plain character isCharacter).2
    rw [UInt8.lt_iff_toNat_lt, UInt8.toNat_ofNat']
    change _ < 128
    omega
  have decoded := decodeFrom_of_ascii ascii [] (encode text) (List.nil_append _).symm ""
  have size : (ByteArray.mk (encode text).toArray).size = (encode text).length := by
    simp [ByteArray.size]
  rw [decodeBytesLossy, decodeLossy, size]
  refine decoded.trans ?_
  apply String.toList_inj.1
  have back : ∀ character ∈ text.toList,
      Char.ofNat (UInt8.ofNat character.toNat).toNat = character := by
    intro character member
    have bound := (plain character member).2
    rw [UInt8.toNat_ofNat', Nat.mod_eq_of_lt (by omega)]
    exact Char.ofNat_toNat character
  change ([] ++ (String.ofList _).toList : List Char) = _
  rw [List.nil_append, String.toList_ofList, encode_of_plain plain, List.map_map]
  exact (List.map_congr_left back).trans (List.map_id _)

theorem length_encode {text : String} (plain : IsPlain text) :
    (encode text).length = text.toList.length := by
  rw [encode_of_plain plain, List.length_map]

/-- Plain text has no NUL byte. -/
theorem zero_not_mem_encode {text : String} (plain : IsPlain text) : 0 ∉ encode text := by
  have noNul : '\x00' ∉ text.toList := fun member => absurd (plain _ member).1 (by decide)
  exact not_mem_encode (by decide) (by decide) noNul

end ContentVault.Utf8

import ContentVault.Proofs.Text.Bytes
import Mathlib.Data.String.Basic

/-!
# The order of texts

Texts are in the order of their bytes.

* of two characters the one with the lower number has the lesser bytes, whatever follows them,
  as no spelling of a character starts another one;
* so comparing texts by their characters is comparing them by their bytes.
-/

namespace ContentVault.Utf8

/-- The leading bytes of characters with four bytes decide, and where they agree the next ones. -/
private theorem fourBytes_lt {low high : Nat} (smaller : low < high) (bound : high < 0x110000)
    (rest others : List UInt8) :
    UInt8.ofNat (low / 262144 % 8 + 240) :: UInt8.ofNat (low / 4096 % 64 + 128) ::
        UInt8.ofNat (low / 64 % 64 + 128) :: UInt8.ofNat (low % 64 + 128) :: rest <
      UInt8.ofNat (high / 262144 % 8 + 240) :: UInt8.ofNat (high / 4096 % 64 + 128) ::
        UInt8.ofNat (high / 64 % 64 + 128) :: UInt8.ofNat (high % 64 + 128) :: others := by
  simp only [List.cons_lt_cons_iff, UInt8.lt_iff_toNat_lt, ← UInt8.toNat_inj,
    UInt8.toNat_ofNat']
  rcases (Nat.div_le_div_right (c := 262144) smaller.le).lt_or_eq with leads | sameLead
  · exact Or.inl (by omega)
  refine Or.inr ⟨by rw [sameLead], ?_⟩
  rcases (Nat.div_le_div_right (c := 4096) smaller.le).lt_or_eq with second | sameSecond
  · exact Or.inl (by omega)
  refine Or.inr ⟨by rw [sameSecond], ?_⟩
  rcases (Nat.div_le_div_right (c := 64) smaller.le).lt_or_eq with third | sameThird
  · exact Or.inl (by omega)
  · exact Or.inr ⟨by rw [sameThird], Or.inl (by omega)⟩

/-- The bytes of a character come before those of a later one, whatever follows them. -/
theorem utf8EncodeChar_append_lt {first second : Char} (before : first < second)
    (rest others : List UInt8) :
    String.utf8EncodeChar first ++ rest < String.utf8EncodeChar second ++ others := by
  have smaller : first.val.toNat < second.val.toNat := before
  have bound : second.val.toNat < 0x110000 := by
    have valid := second.valid
    rw [UInt32.isValidChar, Nat.isValidChar] at valid
    omega
  unfold String.utf8EncodeChar
  dsimp only
  generalize first.val.toNat = low at smaller
  generalize second.val.toNat = high at smaller bound
  by_cases long : 65535 < low
  · rw [if_neg (by omega), if_neg (by omega), if_neg (by omega), if_neg (by omega),
      if_neg (by omega), if_neg (by omega)]
    exact fourBytes_lt smaller bound rest others
  · split_ifs <;>
      simp only [List.cons_append, List.nil_append, List.cons_lt_cons_iff,
        UInt8.lt_iff_toNat_lt, ← UInt8.toNat_inj, UInt8.toNat_ofNat'] <;>
      omega

theorem flatMap_utf8EncodeChar_lt {first second : List Char} (before : first < second) :
    first.flatMap String.utf8EncodeChar < second.flatMap String.utf8EncodeChar := by
  induction first generalizing second with
  | nil =>
      cases second with
      | nil =>
          exact absurd before (List.lt_irrefl [])
      | cons character others =>
          rw [List.flatMap_nil, List.flatMap_cons]
          obtain ⟨byte, bytes, isSpelled⟩ :=
            List.exists_cons_of_ne_nil String.utf8EncodeChar_ne_nil
          rw [isSpelled, List.cons_append]
          exact List.nil_lt_cons byte _
  | cons character rest inductionHypothesis =>
      cases second with
      | nil =>
          exact absurd before (List.not_lt_nil _)
      | cons other others =>
          rw [List.flatMap_cons, List.flatMap_cons]
          rcases List.cons_lt_cons_iff.1 before with isBefore | ⟨rfl, restBefore⟩
          · exact utf8EncodeChar_append_lt isBefore _ _
          · exact List.append_left_lt (inductionHypothesis restBefore)

/-- The bytes of a text come before those of a later one. -/
theorem encode_lt_encode {first second : String} (before : first < second) :
    encode first < encode second := by
  rw [encode_eq_flatMap, encode_eq_flatMap]
  exact flatMap_utf8EncodeChar_lt (String.lt_iff_toList_lt.1 before)

end ContentVault.Utf8

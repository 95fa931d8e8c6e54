/-!
# Hexadecimal text

Lowercase hexadecimal spelling of bytes and words, and its reader.

* every byte is spelled with exactly two digits, the high half first;
* the reader accepts both letter cases and an even number of digits only.
-/

namespace ContentVault.Hexadecimal

/-- The lowercase digit of a value below sixteen; larger values wrap around. -/
def digit (value : Nat) : Char :=
  match value % 16 with
  | 0 => '0'
  | 1 => '1'
  | 2 => '2'
  | 3 => '3'
  | 4 => '4'
  | 5 => '5'
  | 6 => '6'
  | 7 => '7'
  | 8 => '8'
  | 9 => '9'
  | 10 => 'a'
  | 11 => 'b'
  | 12 => 'c'
  | 13 => 'd'
  | 14 => 'e'
  | _ => 'f'

/-- The value of a hexadecimal digit of either letter case. -/
def digitValue? (character : Char) : Option Nat :=
  if '0' ≤ character ∧ character ≤ '9' then
    some (character.toNat - '0'.toNat)
  else if 'a' ≤ character ∧ character ≤ 'f' then
    some (character.toNat - 'a'.toNat + 10)
  else if 'A' ≤ character ∧ character ≤ 'F' then
    some (character.toNat - 'A'.toNat + 10)
  else
    none

/-- A character that occurs in the lowercase spelling. -/
def IsLowerDigit (character : Char) : Prop :=
  ('0' ≤ character ∧ character ≤ '9') ∨ ('a' ≤ character ∧ character ≤ 'f')

instance (character : Char) : Decidable (IsLowerDigit character) :=
  inferInstanceAs (Decidable (_ ∨ _))

/-- The two digits of a byte, the high half first. -/
def ofByte (byte : UInt8) : List Char :=
  [digit (byte.toNat / 16), digit byte.toNat]

/-- The spelling of a byte sequence. -/
def ofBytes (bytes : List UInt8) : List Char :=
  bytes.flatMap ofByte

/-- The minimal spelling of a number, without leading zeros. -/
def ofNat (value : Nat) : String :=
  String.ofList (Nat.toDigits 16 value)

/-- Read pairs of digits back into bytes. -/
def toBytes? : List Char → Option (List UInt8)
  | [] => some []
  | [_] => none
  | high :: low :: rest => do
      let highValue ← digitValue? high
      let lowValue ← digitValue? low
      let bytes ← toBytes? rest
      return (highValue * 16 + lowValue).toUInt8 :: bytes

theorem digit_isLowerDigit (value : Nat) : IsLowerDigit (digit value) := by
  have bounded : value % 16 < 16 := Nat.mod_lt _ (by decide)
  have cases : ∀ remainder < 16, IsLowerDigit (digit remainder) := by decide
  have same : digit value = digit (value % 16) := by
    simp only [digit, Nat.mod_mod]
  rw [same]
  exact cases _ bounded

theorem length_ofBytes (bytes : List UInt8) :
    (ofBytes bytes).length = 2 * bytes.length := by
  induction bytes with
  | nil =>
      rfl
  | cons byte rest inductionHypothesis =>
      simp only [ofBytes, List.flatMap_cons, List.length_append] at *
      simp only [ofByte, List.length_cons, List.length_nil]
      omega

theorem ofBytes_isLowerDigit (bytes : List UInt8) :
    ∀ character ∈ ofBytes bytes, IsLowerDigit character := by
  intro character member
  simp only [ofBytes, List.mem_flatMap, ofByte, List.mem_cons, List.not_mem_nil,
    or_false] at member
  obtain ⟨byte, _, rfl | rfl⟩ := member
  · exact digit_isLowerDigit _
  · exact digit_isLowerDigit _

end ContentVault.Hexadecimal

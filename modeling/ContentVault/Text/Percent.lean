import ContentVault.Text.Hexadecimal
import ContentVault.Text.Pieces
import ContentVault.Text.Utf8

/-!
# Percent encoding

Bytes written as a percent sign and two hexadecimal digits, and the fields of a
form that are written in this way.

* a sign that no two digits follow stands for itself;
* in a form a plus sign stands for a blank, and a field without an equals sign has
  an empty value.
-/

namespace ContentVault

/-- The value of a byte that is a hexadecimal digit. -/
def byteDigit? (byte : UInt8) : Option Nat :=
  Hexadecimal.digitValue? (Char.ofNat byte.toNat)

/-- The bytes that percent-encoded bytes stand for. -/
def percentDecode : List UInt8 → List UInt8
  | 0x25 :: high :: low :: rest =>
      match byteDigit? high, byteDigit? low with
      | some highValue, some lowValue =>
          (highValue * 16 + lowValue).toUInt8 :: percentDecode rest
      | _, _ => 0x25 :: percentDecode (high :: low :: rest)
  | byte :: rest => byte :: percentDecode rest
  | [] => []

/-- The text of one component of a form. -/
def formText (component : List UInt8) : String :=
  Utf8.decodeBytesLossy
    (percentDecode (component.map fun byte => if byte = 0x2B then 0x20 else byte))

/-- One field of a form: its name and its value. -/
def formField (field : List UInt8) : String × String :=
  let name := field.takeWhile (· ≠ 0x3D)
  (formText name, formText (field.drop (name.length + 1)))

/-- The fields of a form in order; empty ones are no fields. -/
def formFields (form : List UInt8) : List (String × String) :=
  ((pieces 0x26 form).filter fun field => !field.isEmpty).map formField

end ContentVault

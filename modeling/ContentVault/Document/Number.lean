import ContentVault.Document.Reader
import ContentVault.Text.Hexadecimal

/-!
# Numbers in documents

* digits of a base are read as a natural number;
* a decimal number is too large if it lies beyond the largest double-precision
  number by at least half a step, where rounding leads to infinity;
* a code point stands for a character unless it is a surrogate or out of range.
-/

namespace ContentVault

/-- The value of digits, each given by its own value. -/
def valueOfDigits (base : Nat) (digits : List Nat) : Nat :=
  digits.foldl (fun value digit => value * base + digit) 0

/-- The value of a digit in a base. -/
def digitIn? (base : Nat) (character : Char) : Option Nat :=
  (Hexadecimal.digitValue? character).filter (· < base)

/-- The value of a text of digits, which must not be empty. -/
def natOfDigits? (base : Nat) (characters : List Char) : Option Nat :=
  if characters.isEmpty then
    none
  else
    (characters.mapM (digitIn? base)).map (valueOfDigits base)

/-- The least number that rounds to infinity. -/
def infinityBound : Nat := 1 <<< 1024 - 1 <<< 970

/-- Whether `significand * 10 ^ exponent` rounds to infinity. -/
def overflowsDouble (significand : Nat) (exponent : Int) : Bool :=
  if significand = 0 then
    false
  else
    let magnitude := exponent + (Nat.toDigits 10 significand).length
    if 311 ≤ magnitude then
      true
    else if magnitude ≤ 307 then
      false
    else if 0 ≤ exponent then
      infinityBound ≤ significand * Nat.pow 10 exponent.toNat
    else
      infinityBound * Nat.pow 10 exponent.natAbs ≤ significand

/-- The character of a code point. -/
def charOfCode? (code : Nat) : Option Char :=
  if valid : code.isValidChar then some (Char.ofNatAux code valid) else none

namespace Reader

/-- Read a fixed number of hexadecimal digits. -/
def hexadecimal (count : Nat) : Reader Nat :=
  fun input =>
    let digits := input.take count
    if digits.length = count then
      (natOfDigits? 16 digits).map (·, input.drop count)
    else
      none

/-- Read the character that a fixed number of hexadecimal digits stands for. -/
def codePoint (count : Nat) : Reader Char := do
  match charOfCode? (← hexadecimal count) with
  | some character => return character
  | none => failure

end Reader

end ContentVault

import ContentVault.Document.Basic
import ContentVault.Document.Number

/-!
# JSON

* only what the grammar of JSON allows is read: no comments, no trailing commas,
  no bare control characters, no unpaired surrogates;
* the last value of a repeated name counts;
* integers beyond 64 bits, and a negative zero, are decimal numbers.
-/

namespace ContentVault

namespace JsonText

/-- A blank between tokens. -/
def isBlank (character : Char) : Bool :=
  character = ' ' || character = '\n' || character = '\t' || character = '\r'

/-- Drop blanks. -/
def skipBlanks : Reader Unit :=
  Reader.skipWhile isBlank

/-- A character that ends the plain part of a string. -/
def endsPlain (character : Char) : Bool :=
  character = '"' || character = '\\' || character.toNat < 0x20

/-- Read the code point of an escape; a high surrogate needs its low one. -/
def escapedCode : Reader Char := do
  let high ← Reader.hexadecimal 4
  if 0xD800 ≤ high ∧ high < 0xDC00 then
    Reader.exactly '\\'
    Reader.exactly 'u'
    let low ← Reader.hexadecimal 4
    if 0xDC00 ≤ low ∧ low < 0xE000 then
      return Char.ofNat (0x10000 + (high - 0xD800) * 0x400 + (low - 0xDC00))
    else
      failure
  else
    match charOfCode? high with
    | some character => return character
    | none => failure

/-- Read an escape behind its backslash. -/
def escape : Reader Char := do
  match ← Reader.next with
  | '"' => return '"'
  | '\\' => return '\\'
  | '/' => return '/'
  | 'b' => return '\x08'
  | 'f' => return '\x0c'
  | 'n' => return '\n'
  | 'r' => return '\r'
  | 't' => return '\t'
  | 'u' => escapedCode
  | _ => failure

/-- Read a string behind its opening quote. -/
def string : Reader String :=
  Reader.loop
    (fun done : String => do
      let plain ← Reader.takeWhile fun character => !endsPlain character
      let done := done ++ String.ofList plain
      match ← Reader.next with
      | '"' => return .inr done
      | '\\' => return .inl (done.push (← escape))
      | _ => failure)
    ""

/-- Read the digits behind a decimal point, if there is one. -/
def fraction : Reader (Option (List Char)) := do
  if ← Reader.skip? '.' then
    return some (← Reader.takeSome Char.isDigit)
  else
    return none

/-- Read an exponent, if there is one. -/
def exponent : Reader (Option Int) := do
  let lower ← Reader.skip? 'e'
  let marked ← if lower then pure true else Reader.skip? 'E'
  if marked then
    let negative ← Reader.skip? '-'
    let _ ← if negative then pure false else Reader.skip? '+'
    let digits ← Reader.takeSome Char.isDigit
    let value := valueOfDigits 10 (digits.filterMap (digitIn? 10))
    return some (if negative then -value else value)
  else
    return none

/-- Read a number. -/
def number : Reader Document := do
  let negative ← Reader.skip? '-'
  let whole ← Reader.takeSome Char.isDigit
  if 1 < whole.length && whole.head? = some '0' then
    failure
  let fractional ← fraction
  let exponent ← exponent
  let digits := whole ++ fractional.getD []
  let significand := valueOfDigits 10 (digits.filterMap (digitIn? 10))
  let scale := exponent.getD 0 - (fractional.getD []).length
  if fractional.isNone && exponent.isNone &&
      (if negative then 0 < significand && significand ≤ 0x8000000000000000 else significand < 0x10000000000000000) then
    return .integer (if negative then -significand else significand)
  else if overflowsDouble significand scale then
    failure
  else
    return .decimal
      ((if negative then "-" else "") ++ toString significand ++ "e" ++ toString scale)

/-- Read items between commas up to a closing character, behind the opening
one. -/
def items {β : Type} (closing : Char) (item : β → Reader β) (start : β) : Reader β := do
  skipBlanks
  if ← Reader.skip? closing then
    return start
  else
    Reader.loop
      (fun done => do
        skipBlanks
        let done ← item done
        skipBlanks
        match ← Reader.next with
        | ',' => return .inl done
        | character => if character = closing then return .inr done else failure)
      start

/-- Read a value with at most a number of lists and tables around each other. -/
def value : Nat → Reader Document
  | 0 => failure
  | depth + 1 => do
      match ← Reader.peek? with
      | some '"' =>
          Reader.exactly '"'
          return .text (← string)
      | some '[' =>
          Reader.exactly '['
          if depth = 0 then failure
          let found ← items ']' (fun done => do return (← value depth) :: done) []
          return .list found.reverse
      | some '\x7b' =>
          Reader.exactly '\x7b'
          if depth = 0 then failure
          let entries ← items '\x7d'
            (fun done : Table String Document => do
              Reader.exactly '"'
              let name ← string
              skipBlanks
              Reader.exactly ':'
              skipBlanks
              return done.put name (← value depth))
            []
          return .table entries
      | _ =>
          if ← Reader.skipText? "null".toList then
            return .absent
          else if ← Reader.skipText? "true".toList then
            return .boolean true
          else if ← Reader.skipText? "false".toList then
            return .boolean false
          else
            number

/-- How many lists and tables may stand around each other, and one more. -/
def depthLimit : Nat := 128

end JsonText

/-- The document that a JSON text spells. -/
def Document.ofJson? (text : String) : Option Document :=
  Reader.run?
    (do
      JsonText.skipBlanks
      let document ← JsonText.value JsonText.depthLimit
      JsonText.skipBlanks
      return document)
    text

end ContentVault

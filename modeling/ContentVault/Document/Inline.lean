import ContentVault.Document.Basic
import ContentVault.Document.Number
import ContentVault.Text.Blank

/-!
# Values on one line

The notation of values in environment variables.

* `true`, `false`, integers, numbers with a point, quoted strings, lists in
  brackets and tables in braces become such values;
* everything else is text, and so is a value that starts well and then breaks off.
-/

namespace ContentVault

namespace InlineText

/-- A character that separates values. -/
def isSeparator (character : Char) : Bool :=
  character = ',' || character = '\x7b' || character = '\x7d' || character = '[' ||
    character = ']'

/-- A character of a bare name. -/
def isNameChar (character : Char) : Bool :=
  character.isAlphanum || character = '_' || character = '-'

/-- A blank between tokens. -/
def isGap (character : Char) : Bool :=
  character = ' ' || character = '\t' || character = '\n' || character = '\x0c' ||
    character = '\r'

/-- Drop blanks between tokens. -/
def skipGaps : Reader Unit :=
  Reader.skipWhile isGap

/-- Read an escape behind its backslash. -/
def escape : Reader Char := do
  match ← Reader.next with
  | '"' => return '"'
  | '\\' => return '\\'
  | 'b' => return '\x08'
  | 'f' => return '\x0c'
  | 'n' => return '\n'
  | 'r' => return '\r'
  | 't' => return '\t'
  | 'u' => Reader.codePoint 4
  | 'U' => Reader.codePoint 8
  | _ => failure

/-- Read a string behind its opening quote. -/
def string : Reader String :=
  Reader.loop
    (fun done : String => do
      match ← Reader.next with
      | '"' => return .inr done
      | '\\' => return .inl (done.push (← escape))
      | character => return .inl (done.push character))
    ""

/-- The integer that a text spells, if it takes no more than 128 bits. -/
def integerOf? (characters : List Char) : Option Int :=
  match characters with
  | '-' :: digits =>
      ((natOfDigits? 10 digits).filter (· ≤ 1 <<< 127)).map fun magnitude => -Int.ofNat magnitude
  | '+' :: digits => ((natOfDigits? 10 digits).filter (· < 1 <<< 128)).map Int.ofNat
  | digits => ((natOfDigits? 10 digits).filter (· < 1 <<< 128)).map Int.ofNat

/-- The characters behind a sign. -/
def unsigned : List Char → List Char
  | '-' :: rest => rest
  | '+' :: rest => rest
  | rest => rest

/-- Read digits around a point and an exponent. -/
def pointedNumber : Reader Unit := do
  let whole ← Reader.takeWhile Char.isDigit
  Reader.exactly '.'
  let fractional ← Reader.takeWhile Char.isDigit
  if whole.isEmpty && fractional.isEmpty then failure
  match ← Reader.peek? with
  | some 'e' | some 'E' =>
      let _ ← Reader.next
      let negative ← Reader.skip? '-'
      let _ ← if negative then pure false else Reader.skip? '+'
      let _ ← Reader.takeSome Char.isDigit
      return ()
  | _ => return ()

/-- Whether a text spells a number with a point. -/
def isDecimal (characters : List Char) : Bool :=
  characters.contains '.' && (pointedNumber.run? (String.ofList (unsigned characters))).isSome

/-- The value that a bare text spells. -/
def bareValue (characters : List Char) : Document :=
  let trimmed := trimChars characters
  if isDecimal trimmed then
    .decimal (String.ofList trimmed)
  else
    match integerOf? trimmed with
    | some value => .integer value
    | none => .text (String.ofList trimmed)

/-- Read items between commas up to a closing character, behind the opening one. -/
def items {β : Type} (closing : Char) (item : β → Reader β) (start : β) : Reader β :=
  Reader.loop
    (fun done => do
      if ← Reader.skip? closing then
        return .inr done
      else
        let done ← item done
        if ← Reader.skip? ',' then
          return .inl done
        else
          Reader.exactly closing
          return .inr done)
    start

/-- Read the name of an entry. -/
def entryName : Reader String := do
  if ← Reader.skip? '"' then
    string
  else
    return String.ofList (← Reader.takeSome isNameChar)

/-- Read a value with at most a number of lists and tables around each other. -/
def value : Nat → Reader Document
  | 0 => failure
  | depth + 1 => do
      skipGaps
      let found : Document ←
        if ← Reader.skipText? "true".toList then
          pure (.boolean true)
        else if ← Reader.skipText? "false".toList then
          pure (.boolean false)
        else if ← Reader.skip? '\x7b' then do
          let entries ← items '\x7d'
            (fun done : Table String Document => do
              skipGaps
              let name ← entryName
              skipGaps
              Reader.exactly '='
              return done.put name (← value depth))
            []
          pure (.table entries)
        else if ← Reader.skip? '[' then do
          let found ← items ']' (fun done => do return (← value depth) :: done) []
          pure (.list found.reverse)
        else if ← Reader.skip? '"' then do
          pure (.text (← string))
        else if ← Reader.skip? '\'' then do
          let character ← Reader.next
          Reader.exactly '\''
          pure (.text character.toString)
        else do
          pure (bareValue (← Reader.takeWhile fun character => !isSeparator character))
      skipGaps
      return found

end InlineText

/-- The document that a text on one line spells. -/
def Document.ofInline (text : String) : Document :=
  let trimmed := trim text
  match Reader.run? (InlineText.value (trimmed.length + 1)) trimmed with
  | some document => document
  | none => .text trimmed

end ContentVault

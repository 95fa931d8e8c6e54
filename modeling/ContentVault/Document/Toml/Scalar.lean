import ContentVault.Document.Basic
import ContentVault.Document.Number

/-!
# Scalars of TOML

* strings stand between one or three quotes of either kind; only double quotes
  have escapes, and only three quotes may span lines;
* numbers may have single underscores between digits;
* an integer takes at most 64 bits, and a date is an opaque value.
-/

namespace ContentVault.TomlText

/-- A blank inside a line. -/
def isGap (character : Char) : Bool :=
  character = ' ' || character = '\t'

/-- A character that may stand in a comment. -/
def isPrintable (character : Char) : Bool :=
  character = '\t' || (0x20 ≤ character.toNat && character.toNat ≠ 0x7F)

/-- Take a line break, if there is one, and tell whether there was. -/
def lineBreak? : Reader Bool := do
  if ← Reader.skip? '\n' then
    return true
  else
    Reader.skipText? ['\r', '\n']

/-- Drop blanks inside a line. -/
def skipGaps : Reader Unit :=
  Reader.skipWhile isGap

/-- Drop a comment. -/
def skipComment : Reader Unit := do
  if ← Reader.skip? '#' then
    Reader.skipWhile isPrintable

/-- Drop blanks, comments and line breaks. -/
def skipLines : Reader Unit :=
  Reader.loop
    (fun () => do
      skipGaps
      skipComment
      if ← lineBreak? then return .inl () else return .inr ())
    ()

/-- Read an escape behind its backslash. -/
def escape : Reader Char := do
  match ← Reader.next with
  | '"' => return '"'
  | '\\' => return '\\'
  | 'b' => return '\x08'
  | 'f' => return '\x0c'
  | 'n' => return '\n'
  | 'r' => return '\r'
  | 't' => return '\t'
  | 'u' => Reader.codePoint 4
  | 'U' => Reader.codePoint 8
  | _ => failure

/-- Read a string on one line behind its opening double quote. -/
def basicString : Reader String :=
  Reader.loop
    (fun done : String => do
      match ← Reader.next with
      | '"' => return .inr done
      | '\\' => return .inl (done.push (← escape))
      | character => if isPrintable character then return .inl (done.push character) else failure)
    ""

/-- Read a string on one line behind its opening single quote. -/
def literalString : Reader String := do
  let content ← Reader.takeWhile fun character => isPrintable character && character ≠ '\''
  Reader.exactly '\''
  return String.ofList content

/-- Take up to two quotes before the closing three, which have been taken. -/
def closingQuotes (quote : Char) (done : String) : Reader String := do
  if ← Reader.skip? quote then
    if ← Reader.skip? quote then
      return (done.push quote).push quote
    else
      return done.push quote
  else
    return done

/-- Drop the blanks and line breaks that an escaped line break covers. -/
def skipFolded : Reader Unit := do
  skipGaps
  if ← lineBreak? then
    Reader.loop
      (fun () => do
        skipGaps
        if ← lineBreak? then return .inl () else return .inr ())
      ()
  else
    failure

/-- Read a string over several lines behind its opening three quotes. -/
def longString (quote : Char) : Reader String := do
  let _ ← lineBreak?
  Reader.loop
    (fun done : String => do
      if ← Reader.skipText? [quote, quote, quote] then
        return .inr (← closingQuotes quote done)
      else if ← lineBreak? then
        return .inl (done.push '\n')
      else
        match ← Reader.next with
        | '\\' =>
            if quote = '"' then
              match ← Reader.ifPossible? skipFolded with
              | some () => return .inl done
              | none => return .inl (done.push (← escape))
            else
              return .inl (done.push '\\')
        | character =>
            if isPrintable character then return .inl (done.push character) else failure)
    ""

/-- Read a string that may span lines. -/
def string : Reader String := do
  if ← Reader.skipText? ['"', '"', '"'] then
    longString '"'
  else if ← Reader.skipText? ['\'', '\'', '\''] then
    longString '\''
  else if ← Reader.skip? '"' then
    basicString
  else
    Reader.exactly '\''
    literalString

/-- The digits of a number whose underscores all stand between two digits. -/
def withoutUnderscores? : List Char → Option (List Char)
  | [] => none
  | [digit] => if digit = '_' then none else some [digit]
  | digit :: '_' :: rest =>
      if digit = '_' then none else (withoutUnderscores? rest).map (digit :: ·)
  | digit :: rest =>
      if digit = '_' then none else (withoutUnderscores? rest).map (digit :: ·)

/-- The value of digits with underscores in a base. -/
def digitsValue? (base : Nat) (characters : List Char) : Option Nat := do
  natOfDigits? base (← withoutUnderscores? characters)

/-- The value of decimal digits without a needless leading zero. -/
def wholeValue? (characters : List Char) : Option Nat :=
  match characters with
  | '0' :: _ :: _ => none
  | _ => digitsValue? 10 characters

/-- A number together with its sign. -/
def signed (characters : List Char) : Bool × List Char :=
  match characters with
  | '-' :: rest => (true, rest)
  | '+' :: rest => (false, rest)
  | rest => (false, rest)

/-- The integer that a text spells. -/
def integerOf? (characters : List Char) : Option Int := do
  let value : Int ←
    match characters with
    | '0' :: 'x' :: digits => Int.ofNat <$> digitsValue? 16 digits
    | '0' :: 'o' :: digits => Int.ofNat <$> digitsValue? 8 digits
    | '0' :: 'b' :: digits => Int.ofNat <$> digitsValue? 2 digits
    | _ =>
        let (negative, digits) := signed characters
        (fun magnitude : Nat => if negative then -magnitude else magnitude) <$> wholeValue? digits
  if -0x8000000000000000 ≤ value ∧ value < 0x8000000000000000 then some value else none

/-- Whether a text is a number with a point or an exponent, and not too large. -/
def isDecimal (characters : List Char) : Bool :=
  let (_, magnitude) := signed characters
  if magnitude = "inf".toList ∨ magnitude = "nan".toList then
    true
  else
    let (mantissa, tail) := magnitude.span fun character => character ≠ 'e' && character ≠ 'E'
    let (whole, point) := mantissa.span (· ≠ '.')
    let fractional? : Option (List Char) :=
      match point with
      | [] => some []
      | _ :: digits => withoutUnderscores? digits
    let exponent? : Option Int :=
      match tail with
      | [] => some 0
      | _ :: digits =>
          let (negative, digits) := signed digits
          (digitsValue? 10 digits).map fun value : Nat => if negative then -value else value
    match wholeValue? whole, fractional?, exponent? with
    | some _, some fractional, some exponent =>
        match natOfDigits? 10 (whole.filter (· ≠ '_') ++ fractional) with
        | some significand =>
            !(point.isEmpty && tail.isEmpty) &&
              !overflowsDouble significand (exponent - fractional.length)
        | none => false
    | _, _, _ => false

/-- The value of a fixed number of digits at the start of a text. -/
def takeNumber (count : Nat) (characters : List Char) : Option (Nat × List Char) :=
  if (characters.take count).length = count then
    (natOfDigits? 10 (characters.take count)).map (·, characters.drop count)
  else
    none

/-- The number of days of a month. -/
def daysInMonth (year month : Nat) : Nat :=
  if month = 2 then
    if year % 4 = 0 ∧ (year % 100 ≠ 0 ∨ year % 400 = 0) then 29 else 28
  else if month = 4 ∨ month = 6 ∨ month = 9 ∨ month = 11 then
    30
  else
    31

/-- What is left of a text behind a calendar date. -/
def afterDate? (characters : List Char) : Option (List Char) := do
  let (year, rest) ← takeNumber 4 characters
  let '-' :: rest := rest | none
  let (month, rest) ← takeNumber 2 rest
  let '-' :: rest := rest | none
  let (day, rest) ← takeNumber 2 rest
  if 1 ≤ month ∧ month ≤ 12 ∧ 1 ≤ day ∧ day ≤ daysInMonth year month then some rest else none

/-- What is left of a text behind a time of day. -/
def afterTime? (characters : List Char) : Option (List Char) := do
  let (hour, rest) ← takeNumber 2 characters
  let ':' :: rest := rest | none
  let (minute, rest) ← takeNumber 2 rest
  let ':' :: rest := rest | none
  let (second, rest) ← takeNumber 2 rest
  if 23 < hour ∨ 59 < minute ∨ 60 < second then
    none
  else
    match rest with
    | '.' :: fraction =>
        let digits := fraction.takeWhile Char.isDigit
        if digits.isEmpty then none else some (fraction.drop digits.length)
    | _ => some rest

/-- Whether a text is an offset from universal time, or nothing. -/
def isOffset (characters : List Char) : Bool :=
  match characters with
  | [] => true
  | ['Z'] => true
  | ['z'] => true
  | sign :: rest =>
      (sign = '+' || sign = '-') &&
        match takeNumber 2 rest with
        | some (hour, ':' :: rest) =>
            match takeNumber 2 rest with
            | some (minute, []) => hour ≤ 23 && minute ≤ 59
            | _ => false
        | _ => false

/-- Whether a text is a date, a time of day or both. -/
def isMoment (characters : List Char) : Bool :=
  match afterDate? characters with
  | some [] => true
  | some (separator :: time) =>
      (separator = 'T' || separator = 't' || separator = ' ') &&
        (match afterTime? time with
        | some offset => isOffset offset
        | none => false)
  | none => afterTime? characters == some []

/-- A character of a bare value. -/
def isBareChar (character : Char) : Bool :=
  character.isAlphanum || character = '+' || character = '-' || character = '_' ||
    character = '.' || character = ':'

/-- Read a bare value; a time of day may follow a date behind one blank. -/
def bareText : Reader (List Char) := do
  let first ← Reader.takeSome isBareChar
  if afterDate? first == some [] then
    let joined ← Reader.ifPossible? do
      Reader.exactly ' '
      let time ← Reader.takeSome isBareChar
      if (afterTime? time).isSome then return time else failure
    match joined with
    | some time => return first ++ ' ' :: time
    | none => return first
  else
    return first

/-- The name of the only entry of a date. -/
def dateName : String := "$date"

/-- Read a value that is neither a string nor a list nor a table. -/
def bareValue : Reader Document := do
  let characters ← bareText
  if characters = "true".toList then
    return .boolean true
  else if characters = "false".toList then
    return .boolean false
  else
    match integerOf? characters with
    | some value => return .integer value
    | none =>
        if isMoment characters then
          return .table [(dateName, .text (String.ofList characters))]
        else if isDecimal characters then
          return .decimal (String.ofList characters)
        else
          failure

end ContentVault.TomlText

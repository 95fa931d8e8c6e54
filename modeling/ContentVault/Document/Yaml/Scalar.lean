import ContentVault.Document.Number
import ContentVault.Document.Yaml.Cursor
import ContentVault.Text.Pieces

/-!
# Scalars of YAML

* a plain scalar is read up to what ends it and then resolved: nulls, booleans,
  integers and numbers have a few spellings each, and all else is text;
* a scalar over several lines is folded: one line break becomes a blank, and of
  more than one the first is dropped;
* a tag can ask for another type, and fails if the scalar does not have it.
-/

namespace ContentVault

namespace YamlScalar

/-- Whether the digits of a number look like one but are text, because they start
with a needless zero. -/
def isPaddedNumber (characters : List Char) : Bool :=
  let magnitude :=
    match characters with
    | '-' :: rest => rest
    | '+' :: rest => rest
    | rest => rest
  match magnitude with
  | '0' :: digits => !digits.isEmpty && digits.all Char.isDigit
  | _ => false

/-- The value of a magnitude in the base that its first characters name. -/
def magnitudeOf? (characters : List Char) : Option Nat :=
  match characters with
  | '0' :: 'x' :: digits => natOfDigits? 16 digits
  | '0' :: 'o' :: digits => natOfDigits? 8 digits
  | '0' :: 'b' :: digits => natOfDigits? 2 digits
  | digits => if isPaddedNumber digits then none else natOfDigits? 10 digits

/-- The integer that a plain scalar spells, if it takes no more than 128 bits. -/
def integerOf? (characters : List Char) : Option Int :=
  match characters with
  | '-' :: magnitude =>
      ((magnitudeOf? magnitude).filter (· ≤ 1 <<< 127)).map fun value => -Int.ofNat value
  | '+' :: magnitude => ((magnitudeOf? magnitude).filter (· < 1 <<< 128)).map Int.ofNat
  | magnitude => ((magnitudeOf? magnitude).filter (· < 1 <<< 128)).map Int.ofNat

/-- Whether an unsigned text is a finite number. -/
def isFiniteMagnitude (characters : List Char) : Bool :=
  let (mantissa, tail) := characters.span fun character => character ≠ 'e' && character ≠ 'E'
  let (whole, point) := mantissa.span (· ≠ '.')
  let fractional := point.drop 1
  let exponent? : Option Int :=
    match tail with
    | [] => some 0
    | _ :: '-' :: digits => (natOfDigits? 10 digits).map fun value => -Int.ofNat value
    | _ :: '+' :: digits => (natOfDigits? 10 digits).map Int.ofNat
    | _ :: digits => (natOfDigits? 10 digits).map Int.ofNat
  match natOfDigits? 10 (whole ++ fractional), exponent? with
  | some significand, some exponent =>
      !overflowsDouble significand (exponent - fractional.length)
  | _, _ => false

/-- Whether a plain scalar spells a number. -/
def isDecimal (characters : List Char) : Bool :=
  let text := String.ofList characters
  if [".inf", ".Inf", ".INF", "+.inf", "+.Inf", "+.INF", "-.inf", "-.Inf", "-.INF",
      ".nan", ".NaN", ".NAN"].contains text then
    true
  else
    match characters with
    | '-' :: rest => isFiniteMagnitude rest
    | '+' :: rest => isFiniteMagnitude rest
    | rest => isFiniteMagnitude rest

/-- Whether a plain scalar spells the absence of a value. -/
def isNull (text : String) : Bool :=
  ["null", "Null", "NULL", "~"].contains text

/-- The truth value that a plain scalar spells. -/
def boolean? (text : String) : Option Bool :=
  if ["true", "True", "TRUE"].contains text then some true
  else if ["false", "False", "FALSE"].contains text then some false
  else none

/-- The value of a plain scalar. -/
def resolve (text : String) : Document :=
  if text = "" ∨ isNull text then
    .absent
  else
    match boolean? text, integerOf? text.toList with
    | some value, _ => .boolean value
    | none, some value => .integer value
    | none, none =>
        if !isPaddedNumber text.toList && isDecimal text.toList then
          .decimal text
        else
          .text text

/-- The tags of the types that a tag can ask for. -/
def standardTag (name : String) : String := "tag:yaml.org,2002:" ++ name

/-- The value of a scalar under a tag. -/
def tagged? (tag text : String) : Option Document :=
  if tag = standardTag "bool" then
    (boolean? text).map .boolean
  else if tag = standardTag "int" then
    (integerOf? text.toList).map .integer
  else if tag = standardTag "float" then
    if isDecimal text.toList then some (.decimal text) else none
  else if tag = standardTag "null" then
    if isNull text then some .absent else none
  else if tag.startsWith "!" then
    none
  else
    some (.text text)

/-- What a number of line breaks in a folded scalar stands for. -/
def foldedBreaks (count : Nat) : List Char :=
  if count = 1 then [' '] else List.replicate (count - 1) '\n'

end YamlScalar

namespace YamlReader

open YamlScalar

/-- A character that separates values inside brackets. -/
def isFlowIndicator (character : Char) : Bool :=
  character = ',' || character = '[' || character = ']' || character = '\x7b' ||
    character = '\x7d'

/-- A character that has a meaning at the start of a value. -/
def isIndicator (character : Char) : Bool :=
  isFlowIndicator character ||
    ['-', '?', ':', '#', '&', '*', '!', '|', '>', '\'', '"', '%', '@', Char.ofNat 0x60].contains
      character

/-- Whether a plain scalar starts here. -/
def atPlain (bracketed : Bool) : YamlReader Bool := do
  match ← peek? with
  | none => return false
  | some character =>
      let second ← peekSecond?
      return (!endsWord (some character) && !isIndicator character) ||
        (character = '-' && !endsWord second) ||
        (!bracketed && (character = '?' || character = ':') && !endsWord second)

/-- Read a plain scalar as far as it goes on the line; blanks at its end do not
belong to it. -/
def plainLine (bracketed : Bool) : YamlReader (List Char) :=
  loop
    (fun (done, blanks) => do
      match ← peek? with
      | none | some '\n' => return .inr done.reverse
      | some character =>
          let second ← peekSecond?
          if isBlank character then
            let _ ← next
            return .inl (done, character :: blanks)
          else if character = '#' && !blanks.isEmpty then
            return .inr done.reverse
          else if character = ':' && endsWord second then
            return .inr done.reverse
          else if bracketed && character = ':' && second.any isFlowIndicator then
            failure
          else if bracketed && isFlowIndicator character then
            return .inr done.reverse
          else
            let _ ← next
            return .inl (character :: (blanks ++ done), []))
    (([] : List Char), ([] : List Char))

/-- Drop line breaks and indentation and count the line breaks. -/
def skipBreaks : YamlReader Nat :=
  loop
    (fun count => do
      skipBlanks
      match ← peek? with
      | some '\n' =>
          let _ ← next
          return .inl (count + 1)
      | _ => return .inr count)
    0

/-- Read a plain scalar.  Outside of brackets its further lines must be indented
at least to a column. -/
def plain (bracketed : Bool) (indent : Int) : YamlReader String := do
  let first ← plainLine bracketed
  let characters ← loop
    (fun done : List Char => do
      let before ← get
      let breaks ← skipBreaks
      let cursor ← get
      let ended ← atDocumentEnd
      if breaks = 0 || ended || cursor.rest.head? = some '#' ||
          (!bracketed && (cursor.column : Int) < indent) then
        set before
        return .inr done
      else
        let more ← plainLine bracketed
        if more.isEmpty then
          set before
          return .inr done
        else
          return .inl (done ++ foldedBreaks breaks ++ more))
    first
  return String.ofList characters

/-- Put what blanks and line breaks inside a quoted scalar stand for behind what
was read, newest character first. -/
def foldQuoted (blanks : List Char) (breaks : Nat) (escapedBreak : Bool) (done : List Char) :
    List Char :=
  if escapedBreak then
    List.replicate breaks '\n' ++ done
  else if breaks = 0 then
    blanks ++ done
  else
    foldedBreaks breaks ++ done

/-- Read the blanks and line breaks inside a quoted scalar. -/
def quotedGap (escapedBreak : Bool) (done : List Char) : YamlReader (List Char) := do
  let blanks ← takeWhile isBlank
  let breaks ← skipBreaks
  if ← atMarker then failure
  return foldQuoted blanks.reverse breaks escapedBreak done

/-- Read a scalar behind its opening single quote. -/
def singleQuoted : YamlReader String :=
  loop
    (fun done : List Char => do
      match ← peek? with
      | none => failure
      | some '\'' =>
          let _ ← next
          if (← peek?) = some '\'' then
            let _ ← next
            return .inl ('\'' :: done)
          else
            return .inr (String.ofList done.reverse)
      | some character =>
          if endsWord (some character) then
            return .inl (← quotedGap false done)
          else
            return .inl ((← next) :: done))
    []

/-- Read the code point of an escape. -/
def codePoint (count : Nat) : YamlReader Char := do
  let digits ← takeWhile fun _ => true
  let cursor ← get
  match Reader.codePoint count digits with
  | none => failure
  | some (character, rest) =>
      set { cursor with
        rest := rest ++ cursor.rest
        column := cursor.column - rest.length }
      return character

/-- Read an escape behind its backslash. -/
def escape : YamlReader Char := do
  match ← next with
  | '0' => return '\x00'
  | 'a' => return '\x07'
  | 'b' => return '\x08'
  | 't' | '\t' => return '\t'
  | 'n' => return '\n'
  | 'v' => return '\x0b'
  | 'f' => return '\x0c'
  | 'r' => return '\r'
  | 'e' => return '\x1b'
  | ' ' => return ' '
  | '"' => return '"'
  | '/' => return '/'
  | '\\' => return '\\'
  | 'N' => return Char.ofNat 0x85
  | '_' => return Char.ofNat 0xA0
  | 'L' => return Char.ofNat 0x2028
  | 'P' => return Char.ofNat 0x2029
  | 'x' => codePoint 2
  | 'u' => codePoint 4
  | 'U' => codePoint 8
  | _ => failure

/-- Read a scalar behind its opening double quote. -/
def doubleQuoted : YamlReader String :=
  loop
    (fun done : List Char => do
      match ← peek? with
      | none => failure
      | some '"' =>
          let _ ← next
          return .inr (String.ofList done.reverse)
      | some '\\' =>
          let _ ← next
          if (← peek?) = some '\n' then
            let _ ← next
            return .inl (← quotedGap true done)
          else
            return .inl ((← escape) :: done)
      | some character =>
          if endsWord (some character) then
            return .inl (← quotedGap false done)
          else
            return .inl ((← next) :: done))
    []

/-- What happens to the line breaks at the end of a block scalar. -/
inductive Chomping where
  | strip
  | clip
  | keep
  deriving DecidableEq, Repr

/-- Read the header of a block scalar behind its indicator: the chomping and how
much deeper the lines are indented, if that is given. -/
def blockHeader : YamlReader (Chomping × Option Nat) := do
  let marks ← takeWhile fun character => !isBlank character && character ≠ '#'
  let chomping := fun mark : Char =>
    if mark = '-' then some Chomping.strip else if mark = '+' then some .keep else none
  let depth := fun mark : Char => (digitIn? 10 mark).filter (0 < ·)
  let header : Option (Chomping × Option Nat) :=
    match marks with
    | [] => some (.clip, none)
    | [mark] =>
        match chomping mark, depth mark with
        | some chosen, _ => some (chosen, none)
        | none, some given => some (.clip, some given)
        | none, none => none
    | [first, second] =>
        match chomping first, depth second, depth first, chomping second with
        | some chosen, some given, _, _ => some (chosen, some given)
        | _, _, some given, some chosen => some (chosen, some given)
        | _, _, _, _ => none
    | _ => none
  skipBlanks
  if (← peek?) = some '#' then
    let _ ← takeWhile fun _ => true
  match header, ← peek? with
  | some found, none => return found
  | some found, some '\n' =>
      let _ ← next
      return found
  | _, _ => failure

/-- The number of blanks that a line starts with. -/
def indentation (line : List Char) : Nat :=
  (line.takeWhile (· = ' ')).length

/-- Whether a line holds nothing but blanks. -/
def isBlankLine (line : List Char) : Bool :=
  line.all (· = ' ')

/-- The column at which the lines of a block scalar start, if no depth is given. -/
def detectedIndent (least : Nat) (lines : List (List Char)) : Nat :=
  let leading := lines.takeWhile isBlankLine
  let first := lines.drop leading.length
  max least ((leading ++ first.take 1).foldl (fun deepest line => max deepest (indentation line)) 0)

/-- What has been read of a block scalar. -/
structure BlockText where
  /-- The characters, newest first. -/
  done : List Char
  /-- Whether a line has been read, whose line break is still to be written. -/
  started : Bool
  /-- Whether that line starts with a blank. -/
  indented : Bool
  /-- Whether that line ends with a line break. -/
  closed : Bool
  /-- The number of empty lines behind it. -/
  emptyLines : Nat

/-- Add a line, without its indentation, to a block scalar. -/
def BlockText.addLine (block : BlockText) (folding closed : Bool) (line : List Char) :
    BlockText :=
  let indented := line.head?.any isBlank
  let breaks :=
    if !block.started then
      List.replicate block.emptyLines '\n'
    else if folding && !block.indented && !indented then
      foldedBreaks (block.emptyLines + 1)
    else
      List.replicate (block.emptyLines + 1) '\n'
  ⟨line.reverse ++ breaks ++ block.done, true, indented, closed, 0⟩

/-- Read the lines of a block scalar and leave those that do not belong to it. -/
def blockLines (folding : Bool) (indent : Nat) : List (List Char) → BlockText →
    BlockText × List (List Char)
  | [], block => (block, [])
  | line :: rest, block =>
      if isBlankLine line && line.length ≤ indent then
        match rest with
        | [] => (block, [])
        | _ :: _ =>
            blockLines folding indent rest { block with emptyLines := block.emptyLines + 1 }
      else if indent ≤ indentation line then
        blockLines folding indent rest
          (block.addLine folding (!rest.isEmpty) (line.drop indent))
      else
        (block, line :: rest)

/-- Read a block scalar behind its indicator, inside a node that starts at a
column. -/
def blockScalar (folding : Bool) (parent : Int) : YamlReader String := do
  let (chomping, depth) ← blockHeader
  let cursor ← get
  let lines := pieces '\n' cursor.rest
  let base := (max parent 0).toNat
  let indent :=
    match depth with
    | some given => if 0 ≤ parent then base + given else given
    | none => detectedIndent (max 1 (parent + 1).toNat) lines
  let (block, left) := blockLines folding indent lines ⟨[], false, false, false, 0⟩
  let finalBreak := if block.closed then ['\n'] else []
  let ending :=
    match chomping with
    | .strip => []
    | .clip => finalBreak
    | .keep => List.replicate block.emptyLines '\n' ++ finalBreak
  set { cursor with
    rest := joinPieces '\n' left
    column := 0
    line := cursor.line + (lines.length - left.length)
    fresh := true }
  return String.ofList (ending ++ block.done).reverse

end YamlReader

end ContentVault

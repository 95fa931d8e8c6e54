import ContentVault.Text.Pieces

/-!
# Words of a command line

What a single word looks like, before anything is known about the command.

* a word with two dashes names an option, perhaps with a value behind an equals
  sign; the two dashes alone end the options;
* a word with one dash starts with the letter of an option, perhaps with a value
  right behind it; a dash alone is an ordinary word;
* every other word is an ordinary one.
-/

namespace ContentVault

/-- The look of a word. -/
inductive WordShape where
  | separator
  | long (name : String) (attached : Option String)
  | short (letter : Char) (attached : Option String)
  | plain
  deriving DecidableEq, Repr

/-- Split an option's name from a value behind an equals sign. -/
def splitAttached (text : List Char) : String × Option String :=
  match text.span (· ≠ '=') with
  | (name, []) => (String.ofList name, none)
  | (name, _ :: value) => (String.ofList name, some (String.ofList value))

/-- The value that stands right behind the letter of an option. -/
def attachedToLetter : List Char → Option String
  | [] => none
  | '=' :: value => some (String.ofList value)
  | value => some (String.ofList value)

/-- The look of a word. -/
def WordShape.of (word : String) : WordShape :=
  match word.toList with
  | ['-', '-'] => .separator
  | '-' :: '-' :: text =>
      let (name, attached) := splitAttached text
      .long name attached
  | '-' :: letter :: text => .short letter (attachedToLetter text)
  | _ => .plain

/-- Whether characters could spell a number, given whether a point and an exponent
were seen before and whether this is the start. -/
def spellsNumberFrom (hasPoint hasExponent isStart : Bool) : List Char → Bool
  | [] => true
  | '.' :: rest =>
      !hasPoint && !hasExponent && !isStart && spellsNumberFrom true hasExponent false rest
  | 'e' :: rest =>
      !hasExponent && !isStart && !rest.isEmpty && spellsNumberFrom hasPoint true false rest
  | character :: rest => character.isDigit && spellsNumberFrom hasPoint hasExponent false rest

/-- Whether a word that starts with a dash could be a negative number. -/
def isNegativeNumber (word : String) : Bool :=
  match word.toList with
  | '-' :: first :: rest => spellsNumberFrom false false true (first :: rest)
  | _ => false

end ContentVault

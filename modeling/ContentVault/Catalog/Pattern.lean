/-!
# Patterns of the name filter

The pattern language of the catalog's text search.

* `%` stands for any run of characters, `_` for any one character, and a
  backslash makes the next character stand for itself;
* ASCII letters match in either case, all other characters only themselves;
* both the pattern and the text end at their first NUL.
-/

namespace ContentVault

/-- One element of a pattern. -/
inductive PatternItem where
  | anyRun
  | anyOne
  | exactly (character : Char)
  deriving DecidableEq, Repr

/-- Read a pattern; a backslash at the end matches nothing. -/
def patternItems : List Char → Option (List PatternItem)
  | [] => some []
  | '\\' :: character :: rest => (patternItems rest).map (.exactly character :: ·)
  | '\\' :: [] => none
  | '%' :: rest => (patternItems rest).map (.anyRun :: ·)
  | '_' :: rest => (patternItems rest).map (.anyOne :: ·)
  | character :: rest => (patternItems rest).map (.exactly character :: ·)

/-- Whether a predicate accepts some end of a text. -/
def anyEnd (accepts : List Char → Bool) : List Char → Bool
  | [] => accepts []
  | character :: rest => accepts (character :: rest) || anyEnd accepts rest

/-- Whether a list of characters matches the elements of a pattern. -/
def matchesItems : List PatternItem → List Char → Bool
  | [], text => text.isEmpty
  | .anyRun :: items, text => anyEnd (matchesItems items) text
  | .anyOne :: _, [] => false
  | .anyOne :: items, _ :: text => matchesItems items text
  | .exactly _ :: _, [] => false
  | .exactly character :: items, other :: text =>
      character.toLower == other.toLower && matchesItems items text

/-- The characters up to the first NUL. -/
def untilNul (text : String) : List Char :=
  text.toList.takeWhile (· ≠ '\x00')

/-- Whether a text matches a pattern. -/
def matchesPattern (pattern text : String) : Bool :=
  match patternItems (untilNul pattern) with
  | some items => matchesItems items (untilNul text)
  | none => false

/-- A character of a pattern that stands for itself. -/
def escapeChar (character : Char) : List Char :=
  if character = '\\' ∨ character = '%' ∨ character = '_' then
    ['\\', character]
  else
    [character]

/-- Put a backslash before each character that has a meaning in patterns. -/
def escapePattern (characters : List Char) : List Char :=
  characters.flatMap escapeChar

/-- The pattern of the texts that contain another text. -/
def containsPattern (part : String) : String :=
  String.ofList ('%' :: (escapePattern part.toList ++ ['%']))

/-- The size of the longest pattern that is evaluated. -/
def longestPattern : Nat := 50000

end ContentVault

/-!
# White space

The blank characters are those with the Unicode property `White_Space`; trimming
drops them from both ends of a text.

* a text of blanks trims to the empty text;
* what is left neither starts nor ends with a blank.
-/

namespace ContentVault

/-- A character with the Unicode property `White_Space`. -/
def isBlank (character : Char) : Bool :=
  let code := character.toNat
  (9 ≤ code && code ≤ 13) || code == 0x20 || code == 0x85 || code == 0xA0 ||
    code == 0x1680 || (0x2000 ≤ code && code ≤ 0x200A) || code == 0x2028 ||
    code == 0x2029 || code == 0x202F || code == 0x205F || code == 0x3000

/-- Drop the leading blanks. -/
def trimStartChars (characters : List Char) : List Char :=
  characters.dropWhile isBlank

/-- Drop the trailing blanks. -/
def trimEndChars (characters : List Char) : List Char :=
  (trimStartChars characters.reverse).reverse

/-- Drop the blanks at both ends. -/
def trimChars (characters : List Char) : List Char :=
  trimEndChars (trimStartChars characters)

/-- Drop the blanks at both ends of a text. -/
def trim (text : String) : String :=
  String.ofList (trimChars text.toList)

/-- The trimmed text, if anything is left of it. -/
def nonBlank? (text : String) : Option String :=
  let trimmed := trim text
  if trimmed = "" then none else some trimmed

/-- Blanks inside ASCII only: space, tab, line feed, form feed and carriage
return. -/
def isAsciiBlank (byte : UInt8) : Bool :=
  byte == 0x20 || byte == 0x09 || byte == 0x0A || byte == 0x0C || byte == 0x0D

end ContentVault

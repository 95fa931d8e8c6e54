import ContentVault.Text.CaseTable

/-!
# Lowercase text

Lowercasing over all of Unicode.

* one character at a time, by the runs of the case table; the dotted capital I
  alone becomes two characters;
* a capital sigma becomes a final sigma exactly where it ends a word: a cased
  character stands before it and none after it, case-ignorable ones passed over.
-/

namespace ContentVault

/-- The lowercase form of a character, regardless of its neighbours. -/
def lowercaseChar (character : Char) : List Char :=
  if character.toNat < 0x80 then
    [character.toLower]
  else if character.toNat = 0x130 then
    ['i', Char.ofNat 0x307]
  else
    match CaseTable.lowercaseRuns.find? fun run => run.contains character.toNat with
    | some run => [Char.ofNat (Int.toNat (character.toNat + run.shift))]
    | none => [character]

/-- Whether the first character that is not case-ignorable is cased. -/
def startsCased : List Char → Bool
  | [] => false
  | character :: rest =>
      if CaseTable.inRanges CaseTable.caseIgnorableRanges character.toNat then
        startsCased rest
      else
        CaseTable.inRanges CaseTable.casedRanges character.toNat

/-- The lowercase form of a character between the characters before it, nearest
first, and those after it. -/
def lowercaseBetween (before : List Char) (character : Char) (after : List Char) :
    List Char :=
  if character.toNat = 0x3A3 then
    if startsCased before && !startsCased after then
      [Char.ofNat 0x3C2]
    else
      [Char.ofNat 0x3C3]
  else
    lowercaseChar character

/-- Lowercase a list of characters behind a text; `before` holds the characters
that were read so far, nearest first. -/
def lowercaseOnto (text : String) : List Char → List Char → String
  | _, [] => text
  | before, character :: rest =>
      lowercaseOnto
        (text ++ String.ofList (lowercaseBetween before character rest))
        (character :: before) rest

/-- The lowercase form of a text. -/
def lowercase (text : String) : String :=
  lowercaseOnto "" [] text.toList

/-- Lowercase the ASCII letters of a text and leave all else. -/
def asciiLowercase (text : String) : String :=
  String.ofList (text.toList.map Char.toLower)

end ContentVault

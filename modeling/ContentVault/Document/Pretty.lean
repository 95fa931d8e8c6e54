import ContentVault.Document.Basic
import ContentVault.Text.Hexadecimal

/-!
# Documents as indented JSON

* each item of a list and each entry of a table stands on a line of its own, two
  blanks deeper than what it belongs to;
* an empty list and an empty table stay on their line;
* in a string, quotes, backslashes and control characters are escaped and all else
  stands for itself.
-/

namespace ContentVault

/-- The written form of one character inside a JSON string. -/
def jsonChar (character : Char) : List Char :=
  if character = '"' then
    ['\\', '"']
  else if character = '\\' then
    ['\\', '\\']
  else if character = '\n' then
    ['\\', 'n']
  else if character = '\r' then
    ['\\', 'r']
  else if character = '\t' then
    ['\\', 't']
  else if character = '\x08' then
    ['\\', 'b']
  else if character = '\x0c' then
    ['\\', 'f']
  else if character.toNat < 0x20 then
    ['\\', 'u', '0', '0'] ++ Hexadecimal.ofByte character.toNat.toUInt8
  else
    [character]

/-- A text as a JSON string. -/
def jsonString (text : String) : String :=
  String.ofList ('"' :: (text.toList.flatMap jsonChar ++ ['"']))

/-- A new line with blanks for a number of levels. -/
def newLine (level : Nat) : String :=
  String.ofList ('\n' :: List.replicate (2 * level) ' ')

namespace Document

mutual

/-- A document as JSON inside a number of levels. -/
def prettyAt (level : Nat) : Document → String
  | .absent => "null"
  | .boolean value => if value then "true" else "false"
  | .integer value => toString value
  | .decimal spelling => spelling
  | .text value => jsonString value
  | .list [] => "[]"
  | .list (first :: rest) =>
      "[" ++ newLine (level + 1) ++ prettyAt (level + 1) first ++
        prettyItems (level + 1) rest ++ newLine level ++ "]"
  | .table [] => "\x7b\x7d"
  | .table (first :: rest) =>
      "\x7b" ++ newLine (level + 1) ++ prettyEntry (level + 1) first ++
        prettyEntries (level + 1) rest ++ newLine level ++ "\x7d"

/-- The items of a list behind its first one. -/
def prettyItems (level : Nat) : List Document → String
  | [] => ""
  | item :: rest =>
      "," ++ newLine level ++ prettyAt level item ++ prettyItems level rest

/-- One entry of a table. -/
def prettyEntry (level : Nat) : String × Document → String
  | (name, value) => jsonString name ++ ": " ++ prettyAt level value

/-- The entries of a table behind its first one. -/
def prettyEntries (level : Nat) : List (String × Document) → String
  | [] => ""
  | entry :: rest =>
      "," ++ newLine level ++ prettyEntry level entry ++ prettyEntries level rest

end

/-- A document as JSON. -/
def pretty (document : Document) : String :=
  prettyAt 0 document

end Document

end ContentVault

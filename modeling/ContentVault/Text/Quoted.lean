import ContentVault.Text.CaseTable
import ContentVault.Text.EscapeTable
import ContentVault.Text.Hexadecimal

/-!
# Quoted text

A text between double quotes, as error messages show the name of an owner.

* the quote, the backslash and five control characters have a short escape;
* the other characters of the escape table are written as `\u` and their code
  point in braces;
* everything else stands for itself.
-/

namespace ContentVault

/-- The written form of one character inside quotes. -/
def quoteChar (character : Char) : List Char :=
  if character = '\x00' then
    ['\\', '0']
  else if character = '\t' then
    ['\\', 't']
  else if character = '\r' then
    ['\\', 'r']
  else if character = '\n' then
    ['\\', 'n']
  else if character = '\\' then
    ['\\', '\\']
  else if character = '"' then
    ['\\', '"']
  else if CaseTable.inRanges EscapeTable.escapedRanges character.toNat then
    ['\\', 'u', '\x7b'] ++ (Hexadecimal.ofNat character.toNat).toList ++ ['\x7d']
  else
    [character]

/-- The text with its escapes between double quotes. -/
def quoted (text : String) : String :=
  String.ofList ('"' :: (text.toList.flatMap quoteChar ++ ['"']))

end ContentVault

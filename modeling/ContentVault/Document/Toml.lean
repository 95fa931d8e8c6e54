import ContentVault.Document.Toml.Scalar
import ContentVault.Document.Toml.Table

/-!
# TOML

A text is a sequence of lines: headers of tables, names with values, comments.

* lists may span lines, tables in braces may not;
* what a line means depends on the header before it;
* any line that cannot be read makes the whole text unreadable.
-/

namespace ContentVault

namespace TomlText

/-- A character of a bare name. -/
def isNameChar (character : Char) : Bool :=
  character.isAlphanum || character = '_' || character = '-'

/-- Read one name. -/
def name : Reader String := do
  if ← Reader.skip? '"' then
    basicString
  else if ← Reader.skip? '\'' then
    literalString
  else
    return String.ofList (← Reader.takeSome isNameChar)

/-- Read names between dots: those before the last one, and the last one. -/
def dottedName : Reader (List String × String) := do
  let first ← name
  Reader.loop
    (fun (before, last) => do
      skipGaps
      if ← Reader.skip? '.' then
        skipGaps
        return .inl (before ++ [last], ← name)
      else
        return .inr (before, last))
    (([] : List String), first)

/-- Read the items of a list behind its opening bracket. -/
def listItems (value : Reader Document) : Reader (List Document) :=
  Reader.loop
    (fun done : List Document => do
      skipLines
      if ← Reader.skip? ']' then
        return .inr done.reverse
      else
        let item ← value
        skipLines
        if ← Reader.skip? ',' then
          return .inl (item :: done)
        else
          Reader.exactly ']'
          return .inr (item :: done).reverse)
    []

/-- Read a name with its value into a table. -/
def assignment (value : Reader Document)
    (store : List String → String → Document → Option TomlEntries) : Reader TomlEntries := do
  let (path, last) ← dottedName
  skipGaps
  Reader.exactly '='
  skipGaps
  match store path last (← value) with
  | some entries => return entries
  | none => failure

/-- Read the entries of a table behind its opening brace. -/
def braceEntries (value : Reader Document) : Reader TomlEntries := do
  skipGaps
  if ← Reader.skip? '\x7d' then
    return []
  else
    Reader.loop
      (fun done : TomlEntries => do
        skipGaps
        let done ← assignment value fun path last document => done.setDotted path last document
        skipGaps
        if ← Reader.skip? ',' then
          return .inl done
        else
          Reader.exactly '\x7d'
          return .inr done)
      []

/-- Read a value with at most a number of lists and tables around each other. -/
def value : Nat → Reader Document
  | 0 => failure
  | depth + 1 => do
      match ← Reader.peek? with
      | some '"' | some '\'' => return .text (← string)
      | some '[' =>
          Reader.exactly '['
          return .list (← listItems (value depth))
      | some '\x7b' =>
          Reader.exactly '\x7b'
          return (← braceEntries (value depth)).toDocument
      | _ => bareValue

/-- How many lists and tables may stand around each other. -/
def depthLimit : Nat := 80

/-- The entries read so far, and the path of the table that is being filled. -/
structure Progress where
  entries : TomlEntries
  current : List String

/-- Read a header behind its first bracket. -/
def header (progress : Progress) : Reader Progress := do
  let isList ← Reader.skip? '['
  skipGaps
  let (path, last) ← dottedName
  Reader.exactly ']'
  if isList then
    Reader.exactly ']'
  let changed :=
    if isList then
      progress.entries.addTable path last
    else
      progress.entries.declareTable path last
  match changed with
  | some entries => return ⟨entries, path ++ [last]⟩
  | none => failure

/-- Read what a line says. -/
def statement (progress : Progress) : Reader Progress := do
  match ← Reader.peek? with
  | some '[' =>
      Reader.exactly '['
      header progress
  | some '\n' | some '\r' | some '#' | none => return progress
  | _ =>
      let entries ← assignment (value depthLimit) fun path last document =>
        progress.entries.setBelow progress.current path last document
      return { progress with entries }

/-- Read all lines. -/
def lines : Reader TomlEntries :=
  Reader.loop
    (fun progress => do
      skipGaps
      let progress ← statement progress
      skipGaps
      skipComment
      if ← lineBreak? then
        return .inl progress
      else
        Reader.atEnd
        return .inr progress.entries)
    ⟨[], []⟩

end TomlText

/-- The document that a TOML text spells. -/
def Document.ofToml? (text : String) : Option Document :=
  let characters := text.toList
  let content := if characters.head? = some (Char.ofNat 0xFEFF) then characters.tail else characters
  (Reader.run? TomlText.lines (String.ofList content)).map TomlEntries.toDocument

end ContentVault

import ContentVault.Document.Basic
import ContentVault.Document.Reader

/-!
# A place in a YAML text

What the reader of a YAML text knows about the place it has reached: the column,
the line, whether anything but blanks stands before it on its line, and the nodes
that have been given a name.
-/

namespace ContentVault

/-- A node of a YAML text. -/
structure YamlNode where
  document : Document
  /-- The text of a scalar before it was resolved. -/
  scalar? : Option String

/-- A place in a YAML text. -/
structure YamlCursor where
  rest : List Char
  column : Nat
  line : Nat
  /-- Only blanks stand before the place on its line. -/
  fresh : Bool
  anchors : Table String YamlNode

/-- Reads on from a place, or fails. -/
abbrev YamlReader (α : Type) := StateT YamlCursor Option α

namespace YamlReader

variable {α β γ : Type}

/-- A blank inside a line. -/
def isBlank (character : Char) : Bool :=
  character = ' ' || character = '\t'

/-- Whether a character, or the end of the text, ends a word. -/
def endsWord : Option Char → Bool
  | none => true
  | some character => isBlank character || character = '\n'

/-- The next character, which stays. -/
def peek? : YamlReader (Option Char) :=
  fun cursor => some (cursor.rest.head?, cursor)

/-- The character behind the next one. -/
def peekSecond? : YamlReader (Option Char) :=
  fun cursor => some (cursor.rest.tail.head?, cursor)

/-- Take the next character. -/
def next : YamlReader Char :=
  fun cursor =>
    match cursor.rest with
    | [] => none
    | character :: rest =>
        if character = '\n' then
          some (character, { cursor with
            rest, column := 0, line := cursor.line + 1, fresh := true })
        else
          some (character, { cursor with
            rest, column := cursor.column + 1, fresh := cursor.fresh && isBlank character })

/-- Take a character that must be the next one. -/
def exactly (character : Char) : YamlReader Unit := do
  let first ← next
  if first = character then return () else failure

/-- Repeat a step until it gives a result.  A step that goes on has to take at
least one character. -/
def loop (step : β → YamlReader (β ⊕ γ)) (progress : β) : YamlReader γ :=
  fun cursor => loopWithin step (cursor.rest.length + 2) progress cursor

/-- Take the longest prefix of a line whose characters satisfy a condition. -/
def takeWhile (condition : Char → Bool) : YamlReader (List Char) :=
  fun cursor =>
    let (taken, rest) :=
      cursor.rest.span fun character => condition character && character ≠ '\n'
    some (taken, { cursor with
      rest
      column := cursor.column + taken.length
      fresh := cursor.fresh && taken.all isBlank })

/-- Drop the blanks on the line. -/
def skipBlanks : YamlReader Unit := do
  let _ ← takeWhile isBlank

/-- Drop blanks, comments and line breaks.  Outside of brackets a line must not be
indented by tabs. -/
def skipGap (bracketed : Bool) : YamlReader Unit :=
  loop
    (fun () => do
      match ← peek? with
      | some ' ' | some '\n' =>
          let _ ← next
          return .inl ()
      | some '\t' =>
          if bracketed || !(← get).fresh then
            let _ ← next
            return .inl ()
          else
            failure
      | some '#' =>
          let _ ← takeWhile fun _ => true
          return .inl ()
      | _ => return .inr ())
    ()

/-- Whether a marker of documents stands here. -/
def atMarker : YamlReader Bool := do
  let cursor ← get
  let marker := cursor.rest.take 3
  return cursor.column = 0 && (marker = ['-', '-', '-'] || marker = ['.', '.', '.']) &&
    endsWord (cursor.rest.drop 3).head?

/-- Whether the document ends here. -/
def atDocumentEnd : YamlReader Bool := do
  if (← get).rest.isEmpty then return true else atMarker

/-- Name a node. -/
def define (anchor : Option String) (node : YamlNode) : YamlReader YamlNode := do
  match anchor with
  | none => return node
  | some name =>
      modify fun cursor => { cursor with anchors := cursor.anchors.put name node }
      return node

end YamlReader

end ContentVault

import ContentVault.Document.Yaml.Scalar

/-!
# YAML

A text holds at most one document; an empty text is an empty table.

* a mapping or a sequence outside of brackets is made of the entries that start in
  one column, deeper than what it belongs to; a sequence may stand in the column
  of the mapping that it belongs to;
* a name is a scalar on one line, and the last value of a repeated name counts;
* a node can be named and referred to later, and can have a tag.
-/

namespace ContentVault

namespace YamlReader

open YamlScalar

/-- What stands before a node: its own name and the tag for it. -/
structure NodeProperties where
  anchor : Option String
  tag : Option String

/-- No properties. -/
def NodeProperties.none : NodeProperties := ⟨.none, .none⟩

/-- Whether a node has any properties. -/
def NodeProperties.isSome (properties : NodeProperties) : Bool :=
  properties.anchor.isSome || properties.tag.isSome

/-- A character of the name of a node. -/
def isAnchorChar (character : Char) : Bool :=
  character.isAlphanum || character = '_' || character = '-'

/-- A character of a tag. -/
def isTagChar (character : Char) : Bool :=
  character.isAlphanum || "-_;/?:@&=+$.%~*'()#".toList.contains character

/-- Read the name of a node behind its mark. -/
def anchorName : YamlReader String := do
  let name ← takeWhile isAnchorChar
  let following ← peek?
  if name.isEmpty || !(endsWord following || following.any isFlowIndicator) then
    failure
  else
    return String.ofList name

/-- Read a tag behind its first exclamation mark. -/
def tagName : YamlReader String := do
  match ← peek? with
  | some '<' =>
      exactly '<'
      let name ← takeWhile fun character => character ≠ '>' && !isBlank character
      exactly '>'
      return String.ofList name
  | some '!' =>
      exactly '!'
      return standardTag (String.ofList (← takeWhile isTagChar))
  | _ => return "!" ++ String.ofList (← takeWhile isTagChar)

/-- Read what stands before a node on its line. -/
def properties : YamlReader NodeProperties :=
  loop
    (fun found : NodeProperties => do
      match ← peek? with
      | some '&' =>
          if found.anchor.isSome then failure
          exactly '&'
          let name ← anchorName
          skipBlanks
          return .inl { found with anchor := some name }
      | some '!' =>
          if found.tag.isSome then failure
          exactly '!'
          let name ← tagName
          let following ← peek?
          if !(endsWord following || following.any isFlowIndicator) then failure
          skipBlanks
          return .inl { found with tag := some name }
      | _ => return .inr found)
    .none

/-- The node of a scalar. -/
def scalarNode (tag : Option String) (isPlain : Bool) (text : String) :
    YamlReader YamlNode := do
  match tag with
  | none => return ⟨if isPlain then resolve text else .text text, some text⟩
  | some tag =>
      match tagged? tag text with
      | some document => return ⟨document, some text⟩
      | none => failure

/-- The node of a list or a table, which can only have a standard tag. -/
def collectionNode (tag : Option String) (document : Document) : YamlReader YamlNode :=
  if tag.any fun name => name.startsWith "!" then failure else return ⟨document, none⟩

/-- Apply a tag that stands on a line before its node. -/
def retag (tag : Option String) (node : YamlNode) : YamlReader YamlNode :=
  match tag, node.scalar? with
  | none, _ => return node
  | some _, some text => scalarNode tag true text
  | some _, none => collectionNode tag node.document

/-- The node with a name. -/
def referredNode (name : String) : YamlReader YamlNode := do
  match (← get).anchors.get? name with
  | some node => return node
  | none => failure

/-- The absence of a node, which is an empty scalar. -/
def emptyNode (properties : NodeProperties) : YamlReader YamlNode := do
  define properties.anchor (← scalarNode properties.tag true "")

/-- The name that a node is for a value. -/
def nameOf (node : YamlNode) : YamlReader String :=
  match node.scalar? with
  | some name => return name
  | none => failure

/-- Read the items of a list behind its opening bracket. -/
def bracketItems (node : YamlReader YamlNode) : YamlReader (List Document) :=
  loop
    (fun done : List Document => do
      skipGap true
      if (← peek?) = some ']' then
        exactly ']'
        return .inr done.reverse
      else
        let item ← node
        skipGap true
        let document ←
          if (← peek?) = some ':' then do
            exactly ':'
            skipGap true
            let name ← nameOf item
            let value ← node
            pure (Document.table [(name, value.document)])
          else
            pure item.document
        skipGap true
        if (← peek?) = some ',' then
          exactly ','
          return .inl (document :: done)
        else
          exactly ']'
          return .inr (document :: done).reverse)
    []

/-- Read the entries of a table behind its opening brace. -/
def braceEntries (node : YamlReader YamlNode) : YamlReader (Table String Document) :=
  loop
    (fun done : Table String Document => do
      skipGap true
      if (← peek?) = some '\x7d' then
        exactly '\x7d'
        return .inr done
      else
        let name ← nameOf (← node)
        skipGap true
        let value ←
          if (← peek?) = some ':' then do
            exactly ':'
            skipGap true
            pure (← node).document
          else
            pure .absent
        let done := done.put name value
        skipGap true
        if (← peek?) = some ',' then
          exactly ','
          return .inl done
        else
          exactly '\x7d'
          return .inr done)
    []

/-- Read a node that looks the same inside and outside of brackets, behind its
properties.  A plain scalar may go on in lines from a column on. -/
def commonNode (inner : YamlReader YamlNode) (bracketed : Bool) (indent : Int)
    (properties : NodeProperties) : YamlReader YamlNode := do
  match ← peek? with
  | some '[' =>
      exactly '['
      define properties.anchor
        (← collectionNode properties.tag (.list (← bracketItems inner)))
  | some '\x7b' =>
      exactly '\x7b'
      define properties.anchor
        (← collectionNode properties.tag (.table (← braceEntries inner)))
  | some '"' =>
      exactly '"'
      define properties.anchor (← scalarNode properties.tag false (← doubleQuoted))
  | some '\'' =>
      exactly '\''
      define properties.anchor (← scalarNode properties.tag false (← singleQuoted))
  | some '*' =>
      if properties.isSome then failure
      exactly '*'
      referredNode (← anchorName)
  | _ =>
      if ← atPlain bracketed then
        define properties.anchor
          (← scalarNode properties.tag true (← plain bracketed indent))
      else
        failure

/-- Read a node inside brackets, with at most a number of nodes around each other. -/
def bracketedNode : Nat → YamlReader YamlNode
  | 0 => failure
  | depth + 1 => do
      let found ← properties
      skipGap true
      match ← peek? with
      | some ',' | some ']' | some '\x7d' | some ':' =>
          if (← peek?) = some ':' && (← atPlain true) then
            commonNode (bracketedNode depth) true 0 found
          else
            emptyNode found
      | _ => commonNode (bracketedNode depth) true 0 found

/-- Take the colon behind a name on the same line, if there is one. -/
def colon? : YamlReader Bool := do
  skipBlanks
  if (← peek?) = some ':' && endsWord (← peekSecond?) then
    exactly ':'
    return true
  else
    return false

/-- Whether an item of a sequence starts here. -/
def atItem : YamlReader Bool := do
  return (← peek?) = some '-' && endsWord (← peekSecond?)

/-- Read the name of an entry and its colon. -/
def entryName (inner : YamlReader YamlNode) : YamlReader String := do
  let line := (← get).line
  let found ← properties
  let node ← commonNode inner false 0 found
  if (← get).line ≠ line then failure
  if ← colon? then nameOf node else failure

/-- Read the rest of a mapping in a column behind the first name and its colon. -/
def mappingEntries (node : YamlReader YamlNode) (inner : YamlReader YamlNode) (column : Nat)
    (first : String) : YamlReader (Table String Document) :=
  loop
    (fun ((done, name) : Table String Document × String) => do
      let done := done.put name (← node).document
      skipGap false
      let cursor ← get
      if ← atDocumentEnd then
        return .inr done
      else if !cursor.fresh then
        failure
      else if cursor.column < column then
        return .inr done
      else if cursor.column = column then
        return .inl (done, ← entryName inner)
      else
        failure)
    (([] : Table String Document), first)

/-- Read a sequence in a column. -/
def sequenceItems (node : YamlReader YamlNode) (column : Nat) : YamlReader (List Document) :=
  loop
    (fun done : List Document => do
      exactly '-'
      let done := (← node).document :: done
      skipGap false
      let cursor ← get
      if ← atDocumentEnd then
        return .inr done.reverse
      else if !cursor.fresh then
        failure
      else if cursor.column = column && (← atItem) then
        return .inl done
      else if cursor.column ≤ column then
        return .inr done.reverse
      else
        failure)
    []

/-- Read a node outside of brackets that belongs to a collection in the column
`parent`.  A `compact` node may be a collection that starts on this line; one that
is not may be a sequence in the column of its parent. -/
def blockNode : Nat → Int → Bool → YamlReader YamlNode
  | 0, _, _ => failure
  | depth + 1, parent, compact => do
      skipGap false
      let start ← get
      let isItem ← atItem
      let column : Int := start.column
      if ← atDocumentEnd then
        emptyNode .none
      else if start.fresh && (column < parent ||
          (column = parent && !(isItem && !compact))) then
        emptyNode .none
      else if isItem then
        if compact || start.fresh then
          let items ← sequenceItems (blockNode depth start.column true) start.column
          return ⟨.list items, none⟩
        else
          failure
      else
        let found ← properties
        let following ← peek?
        if found.isSome && (following.isNone || following = some '\n' || following = some '#') then
          let node ← blockNode depth parent false
          define found.anchor (← retag found.tag node)
        else
          match following with
          | some '|' | some '>' =>
              let mark ← next
              let text ← blockScalar (mark = '>') parent
              define found.anchor (← scalarNode found.tag false text)
          | _ =>
              let node ← commonNode (bracketedNode depth) false (parent + 1) found
              let finish ← get
              if finish.line = start.line && (compact || start.fresh) && (← colon?) then
                let name ← nameOf node
                let entries ← mappingEntries (blockNode depth start.column false)
                  (bracketedNode depth) start.column name
                return ⟨.table entries, none⟩
              else
                return node

/-- How many nodes may stand around each other. -/
def depthLimit : Nat := 128

/-- Drop the lines of directives, and tell whether there were any. -/
def skipDirectives : YamlReader Bool :=
  loop
    (fun found => do
      skipGap false
      if (← peek?) = some '%' && (← get).column = 0 then
        let _ ← takeWhile fun _ => true
        return .inl true
      else
        return .inr found)
    false

/-- Nothing may follow the document but the marker of its end. -/
def finish : YamlReader Unit := do
  skipGap false
  if (← get).rest.isEmpty then
    return ()
  else if !(← atMarker) then
    failure
  else
    let mark ← next
    exactly mark
    exactly mark
    if mark = '-' then failure
    skipGap false
    if (← get).rest.isEmpty then return () else failure

/-- Read the only document of a text. -/
def onlyDocument : YamlReader Document := do
  let directives ← skipDirectives
  if (← get).rest.isEmpty && !directives then
    return .table []
  else
    let marked := (← atMarker) && (← peek?) = some '-'
    if directives && !marked then failure
    if marked then
      exactly '-'
      exactly '-'
      exactly '-'
    let node ← blockNode depthLimit (-1) (!marked)
    finish
    return if node.scalar? = some "" && node.document == .absent then .table [] else node.document

end YamlReader

/-- A character that may stand in a YAML text. -/
def isYamlChar (character : Char) : Bool :=
  let code := character.toNat
  code = 0x09 || code = 0x0A || code = 0x0D || (0x20 ≤ code && code ≤ 0x7E) || code = 0x85 ||
    (0xA0 ≤ code && code ≤ 0xFFFD && code ≠ 0xFEFF) || 0x10000 ≤ code

/-- The characters with every line break as a line feed. -/
def plainBreaks : List Char → List Char → List Char
  | done, [] => done.reverse
  | done, '\r' :: '\n' :: rest => plainBreaks ('\n' :: done) rest
  | done, character :: rest =>
      if character = '\r' || character.toNat = 0x85 then
        plainBreaks ('\n' :: done) rest
      else
        plainBreaks (character :: done) rest

/-- The document that a YAML text spells. -/
def Document.ofYaml? (text : String) : Option Document :=
  let characters := text.toList
  let content := if characters.head? = some (Char.ofNat 0xFEFF) then characters.tail else characters
  if content.all isYamlChar then
    match YamlReader.onlyDocument ⟨plainBreaks [] content, 0, 0, true, []⟩ with
    | some (document, _) => some document
    | none => none
  else
    none

end ContentVault

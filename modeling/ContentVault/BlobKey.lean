import ContentVault.Text.Pieces

/-!
# Blob keys

A blob is stored under a relative path.  Paths arrive as arbitrary bytes; a key
is their normal form, the list of the names that lead from the root to the blob.

* empty and `.` segments are dropped, `..` cancels the name before it;
* a path that leaves the root, holds a NUL byte in a name or names nothing has no
  key;
* names are bytes and need not be text.
-/

namespace ContentVault

/-- One name on the way to a blob. -/
abbrev PathName := List UInt8

/-- The byte between two names. -/
def slash : UInt8 := 0x2F

/-- The segment that stays where it is. -/
def currentSegment : PathName := [0x2E]

/-- The segment that leads one level up. -/
def parentSegment : PathName := [0x2E, 0x2E]

/-- What a segment of a path asks for. -/
inductive PathStep where
  | stay
  | up
  | down (name : PathName)
  deriving DecidableEq, Repr

/-- Read one segment between slashes. -/
def PathStep.ofSegment (segment : PathName) : PathStep :=
  if segment = [] ∨ segment = currentSegment then
    .stay
  else if segment = parentSegment then
    .up
  else
    .down segment

/-- The segments of a path that count, in order. -/
def pathSteps (path : List UInt8) : List PathStep :=
  (pieces slash path).map PathStep.ofSegment

/-- Whether a path starts at the root of the file system. -/
def isAbsolutePath (path : List UInt8) : Bool :=
  path.head? == some slash

/-- Follow the steps from a position, given as the names that lead there,
deepest first. -/
def followSteps : List PathStep → List PathName → Option (List PathName)
  | [], position => some position
  | .stay :: rest, position => followSteps rest position
  | .up :: rest, position =>
      match position with
      | [] => none
      | _ :: above => followSteps rest above
  | .down name :: rest, position =>
      if 0 ∈ name then none else followSteps rest (name :: position)

/-- The key of a path, unless the path leaves the root or names nothing. -/
def blobKey? (path : List UInt8) : Option (List PathName) :=
  match followSteps (pathSteps path) [] with
  | some [] => none
  | some position => some position.reverse
  | none => none

/-- The path that spells a key. -/
def keyPath (names : List PathName) : List UInt8 :=
  joinPieces slash names

/-- The normal form of a path. -/
def normalPath? (path : List UInt8) : Option (List UInt8) :=
  (blobKey? path).map keyPath

/-- The last name of a path; none if it ends by going up or names nothing. -/
def lastName? (path : List UInt8) : Option PathName :=
  match (pathSteps path).reverse.find? (· ≠ .stay) with
  | some (.down name) => some name
  | _ => none

/-- Whether a segment of a path counts, given whether the path could start with it. -/
def isPathPart (isFirst : Bool) (segment : PathName) : Bool :=
  decide (segment ≠ []) && (isFirst || decide (segment ≠ currentSegment))

/-- Segments without those at the end that do not count, given by whether the path
could start with the first one. -/
def dropIdleEnd (isFirst : Bool) : List PathName → List PathName
  | [] => []
  | segment :: rest =>
      match dropIdleEnd false rest with
      | [] => if isPathPart isFirst segment then [segment] else []
      | kept => segment :: kept

/-- The path of the directory that holds what a path names; none if that is the
directory in which the path starts. -/
def parentPath? (path : List UInt8) : Option (List UInt8) :=
  let isAbsolute := isAbsolutePath path
  let below := if isAbsolute then path.drop 1 else path
  let segments := dropIdleEnd (!isAbsolute) (pieces slash below)
  let above := dropIdleEnd (!isAbsolute) segments.dropLast
  match segments, isAbsolute, above with
  | [], _, _ => none
  | _, true, _ => some (slash :: keyPath above)
  | _, false, [] => none
  | _, false, _ => some (keyPath above)

/-- Split a name at its last dot.  A name whose only dot is its first character
has no extension. -/
def nameExtension? (name : PathName) : Option PathName :=
  if name = parentSegment then
    none
  else
    let backwards := name.reverse
    let extension := backwards.takeWhile (· ≠ 0x2E)
    match backwards.drop extension.length with
    | [] => none
    | [_] => none
    | _ :: _ :: _ => some extension.reverse

/-- The extension of the last name of a path. -/
def pathExtension? (path : List UInt8) : Option PathName :=
  (lastName? path).bind nameExtension?

end ContentVault

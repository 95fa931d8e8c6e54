import ContentVault.Catalog.Pattern
import ContentVault.Catalog.Tables

/-!
# Listing files

The one query that combines filters, an order and a window.

* every filter that is given must hold, and trashed files never match;
* files are ordered by one column and then by their identifier, both in the same
  direction;
* the total counts all matches, whatever the window;
* a name filter whose pattern is too long fails as soon as a file has to be
  compared with it.
-/

namespace ContentVault

/-- The column by which a listing is ordered. -/
inductive SortKey where
  | name
  | size
  | fileType
  | date
  deriving DecidableEq, Repr

/-- The direction of a listing. -/
inductive SortDirection where
  | ascending
  | descending
  deriving DecidableEq, Repr

/-- Bounds in time, both inclusive and either one open. -/
structure TimeRange where
  earliest : Option Timestamp
  latest : Option Timestamp
  deriving DecidableEq

/-- The range without bounds. -/
def TimeRange.unbounded : TimeRange := ⟨none, none⟩

/-- Filters, order and window of a listing. -/
structure FileQuery where
  owner : Option String
  nameContains : Option String
  fileType : Option String
  created : TimeRange
  updated : TimeRange
  tagId : Option String
  sort : SortKey
  direction : SortDirection
  limit : UInt32
  offset : UInt64

/-- One window of a listing with the number of all matches. -/
structure Page (α : Type) where
  items : List α
  total : Nat

namespace TimeRange

/-- Whether a stored time lies in the range. -/
def holds (range : TimeRange) (stored : Int64) : Bool :=
  (range.earliest.all fun bound => bound.seconds ≤ stored.toInt) &&
    range.latest.all fun bound => stored.toInt ≤ bound.seconds

end TimeRange

namespace FileQuery

/-- Compare a file's name with the name filter. -/
def nameMatches (query : FileQuery) (row : FileRow) : Except StatementFailure Bool :=
  match query.nameContains with
  | none => .ok true
  | some part =>
      let pattern := containsPattern part
      if longestPattern < pattern.utf8ByteSize then
        .error .other
      else
        .ok (matchesPattern pattern row.fileName)

/-- The filters that are looked at before the name. -/
def admitsEarly (query : FileQuery) (links : List TagLink) (row : FileRow) : Bool :=
  row.trashedAt.isNone &&
    (query.tagId.all fun tagId => links.contains ⟨row.fileId, tagId⟩) &&
    query.owner.all fun owner => row.owner = owner

/-- The filters that are looked at after the name. -/
def admitsLate (query : FileQuery) (row : FileRow) : Bool :=
  (query.fileType.all fun fileType => row.fileType = fileType) &&
    query.created.holds row.createdAt && query.updated.holds row.updatedAt

/-- Whether a file passes all filters. -/
def admits (query : FileQuery) (links : List TagLink) (row : FileRow) :
    Except StatementFailure Bool :=
  if query.admitsEarly links row then do
    let named ← query.nameMatches row
    return named && query.admitsLate row
  else
    return false

/-- The files that pass all filters, unordered. -/
def selectRows (query : FileQuery) (links : List TagLink) :
    List FileRow → Except StatementFailure (List FileRow)
  | [] => .ok []
  | row :: rest => do
      let admitted ← query.admits links row
      let others ← query.selectRows links rest
      return if admitted then row :: others else others

/-- Whether a file comes no later than another in ascending order. -/
def ascends (key : SortKey) (first second : FileRow) : Bool :=
  match key with
  | .name =>
      first.fileName < second.fileName ||
        (first.fileName = second.fileName && first.fileId ≤ second.fileId)
  | .size =>
      first.size.toInt < second.size.toInt ||
        (first.size = second.size && first.fileId ≤ second.fileId)
  | .fileType =>
      first.fileType < second.fileType ||
        (first.fileType = second.fileType && first.fileId ≤ second.fileId)
  | .date =>
      first.updatedAt.toInt < second.updatedAt.toInt ||
        (first.updatedAt = second.updatedAt && first.fileId ≤ second.fileId)

/-- Whether a file comes no later than another in the order of the query. -/
def precedes (query : FileQuery) (first second : FileRow) : Bool :=
  match query.direction with
  | .ascending => ascends query.sort first second
  | .descending => ascends query.sort second first

/-- All matches in order. -/
def matchingRows (query : FileQuery) (tables : Tables) :
    Except StatementFailure (List FileRow) := do
  let links ←
    match query.tagId with
    | none => pure []
    | some _ => tables.requireLinks
  let rows ← query.selectRows links tables.files
  return rows.mergeSort query.precedes

/-- Answer the query. -/
def answer (query : FileQuery) (tables : Tables) : Except CatalogError (Page FileRecord) :=
  match query.matchingRows tables with
  | .error _ => .error .database
  | .ok rows =>
      let total := rows.length
      if total = 0 ∨ query.limit = 0 then
        .ok ⟨[], total⟩
      else if 0x8000000000000000 ≤ query.offset.toNat then
        .error (.invalidData .offset)
      else do
        let window := (rows.drop query.offset.toNat).take query.limit.toNat
        let items ← window.mapM FileRow.toRecord
        return ⟨items, total⟩

end FileQuery

end ContentVault

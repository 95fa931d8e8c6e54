import ContentVault.Text.Blank
import ContentVault.Text.Lowercase
import ContentVault.Vault.World

/-!
# Listings

One page of the live files that pass a request's filters.

* blank filters are ignored, and values out of range are replaced, not refused;
* pages are counted from 1 and hold ten files unless a size up to a hundred is
  asked for;
* a tag that nobody has used gives an empty page.
-/

namespace ContentVault.Vault

/-- The size of a page unless asked otherwise. -/
def defaultPageSize : UInt32 := 10

/-- The size of the largest page. -/
def maxPageSize : UInt32 := 100

/-- The order that a text asks for; the date of the last update is the default. -/
def sortKeyOf (text : Option String) : SortKey :=
  match text.map fun given => asciiLowercase (trim given) with
  | some "name" => .name
  | some "size" => .size
  | some "type" => .fileType
  | _ => .date

/-- The direction that a text asks for; descending is the default. -/
def directionOf (text : Option String) : SortDirection :=
  match text.map fun given => asciiLowercase (trim given) with
  | some "asc" => .ascending
  | _ => .descending

/-- The page that a number asks for. -/
def pageOf (page : Int) : UInt32 :=
  if page < 1 then 1
  else if page < 0x100000000 then UInt32.ofNat page.toNat
  else UInt32.ofNat 0xFFFFFFFF

/-- The page size that a number asks for. -/
def pageSizeOf (pageSize : Int) : UInt32 :=
  if 1 ≤ pageSize ∧ pageSize ≤ maxPageSize.toNat then UInt32.ofNat pageSize.toNat
  else defaultPageSize

/-- How many matches come before a page. -/
def offsetOf (page pageSize : UInt32) : UInt64 :=
  (page - 1).toUInt64 * pageSize.toUInt64

/-- The query that a request asks for, once its tag is known. -/
def queryOf (request : ListRequest) (tagId : Option String) : FileQuery :=
  let page := pageOf request.page
  let pageSize := pageSizeOf request.pageSize
  { owner := request.owner.bind nonBlank?
    nameContains := request.name.bind nonBlank?
    fileType := request.fileType.bind nonBlank?
    created := ⟨request.createdFrom, request.createdTo⟩
    updated := ⟨request.updatedFrom, request.updatedTo⟩
    tagId
    sort := sortKeyOf request.sort
    direction := directionOf request.direction
    limit := pageSize
    offset := offsetOf page pageSize }

/-- Answer a query with the description of each file. -/
def listMatching (request : ListRequest) (tagId : Option String) : VaultAction Listing := do
  let query := queryOf request tagId
  let found ← bounded .catalogRead (.listFiles query)
  let page := pageOf request.page
  let pageSize := pageSizeOf request.pageSize
  if found.items.isEmpty then
    return { items := [], page, pageSize, total := found.total }
  let tags ← bounded .catalogRead (.tagsForFiles (found.items.map FileRecord.fileId))
  let items := found.items.map fun file =>
    FileMetadata.current file ((tags.lookup file.fileId).getD [])
  return { items, page, pageSize, total := found.total }

/-- One page of the live files that pass all filters. -/
def list (request : ListRequest) : VaultAction Listing := do
  match request.tag.bind nonBlank? with
  | none => listMatching request none
  | some name =>
      match ← bounded .catalogRead (.findTag name) with
      | some tag => listMatching request (some tag.tagId)
      | none =>
          return {
            items := []
            page := pageOf request.page
            pageSize := pageSizeOf request.pageSize
            total := 0 }

end ContentVault.Vault

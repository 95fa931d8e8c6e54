import ContentVault.Text.Pieces

/-!
# Normal form of addresses

How an address is split behind its scheme and written again.

* after two slashes comes a host, perhaps with a user before it and a number behind
  it; everything up to the first question mark or number sign is then a path;
* in a path that starts with a slash, `.` and `..` are resolved by their spelling
  alone; a path without that slash is kept as it is;
* a path that would look like a host afterwards gets a dot segment before it;
* characters that cannot be part of a host refuse the whole address.
-/

namespace ContentVault

/-- The parts of an address behind its scheme. -/
structure UrlParts where
  /-- Everything before the query. -/
  base : List Char
  query : Option (List Char)
  fragment : Option (List Char)
  deriving DecidableEq, Repr

namespace UrlParts

/-- Split at the first occurrence of a separator. -/
def splitFirst (separator : Char) (text : List Char) : List Char × Option (List Char) :=
  match text.span (· ≠ separator) with
  | (first, []) => (first, none)
  | (first, _ :: rest) => (first, some rest)

/-- Split the part of an address behind its scheme. -/
def ofChars (text : List Char) : UrlParts :=
  let (beforeFragment, fragment) := splitFirst '#' text
  let (base, query) := splitFirst '?' beforeFragment
  ⟨base, query, fragment⟩

/-- A part with the separator before it, if there is one. -/
def marked (separator : Char) : Option (List Char) → List Char
  | some part => separator :: part
  | none => []

/-- The text of the parts. -/
def toChars (parts : UrlParts) : List Char :=
  parts.base ++ marked '?' parts.query ++ marked '#' parts.fragment

end UrlParts

/-- The characters that no host has. -/
def forbiddenInHost : List Char :=
  ['\x00', '\t', '\n', '\r', ' ', '#', '/', ':', '<', '>', '?', '@', '[', '\\', ']', '^', '|']

/-- The largest number that can follow a host. -/
def largestHostNumber : Nat := 65535

/-- The written form of what follows a host. -/
def normalHostNumber? : List Char → Option (List Char)
  | [] | [':'] => some []
  | ':' :: digits =>
      if digits.all Char.isDigit then
        let number := digits.foldl (fun value digit => value * 10 + (digit.toNat - '0'.toNat)) 0
        if number ≤ largestHostNumber then some (':' :: Nat.toDigits 10 number) else none
      else
        none
  | _ => none

/-- The written form of a user, whose empty name or password leaves no trace. -/
def normalUser (user : List Char) : List Char :=
  let name := user.takeWhile (· ≠ ':')
  let password := user.drop (name.length + 1)
  if name = [] ∧ password = [] then
    []
  else if password = [] then
    name ++ ['@']
  else
    name ++ ':' :: (password ++ ['@'])

/-- The written form of an authority, given what follows it. -/
def normalAuthority? (authority following : List Char) : Option (List Char) := do
  let hostAndNumber := (authority.reverse.takeWhile (· ≠ '@')).reverse
  let user := authority.take (authority.length - hostAndNumber.length - 1)
  let isMarked := decide (hostAndNumber.length < authority.length)
  let host := hostAndNumber.takeWhile (· ≠ ':')
  let number := hostAndNumber.drop host.length
  let written := normalUser user
  if host.any forbiddenInHost.contains then
    none
  else if host = [] ∧ (number ≠ [] ∨ written ≠ [] ∨ (isMarked ∧ following ≠ [])) then
    none
  else
    return written ++ host ++ (← normalHostNumber? number)

/-- A segment with its encoded dots written plainly. -/
def plainDots : List Char → List Char
  | '%' :: '2' :: 'e' :: rest => '.' :: plainDots rest
  | '%' :: '2' :: 'E' :: rest => '.' :: plainDots rest
  | character :: rest => character :: plainDots rest
  | [] => []

/-- Resolve segments behind those that are kept, the last one first.  A dot segment
at the end leaves an empty one. -/
def resolveSegments (kept : List (List Char)) : List (List Char) → List (List Char)
  | [] => kept.reverse
  | segment :: rest =>
      if plainDots segment = ['.', '.'] then
        resolveSegments (if rest = [] then [] :: kept.drop 1 else kept.drop 1) rest
      else if plainDots segment = ['.'] then
        resolveSegments (if rest = [] then [] :: kept else kept) rest
      else
        resolveSegments (segment :: kept) rest

/-- The written form of a path that starts with a slash. -/
def normalSlashPath (path : List Char) : List Char :=
  match path with
  | [] => []
  | _ :: segments => '/' :: joinPieces '/' (resolveSegments [] (pieces '/' segments))

/-- The written form of everything before the query, given whether anything comes
after it. -/
def normalBase? (base : List Char) (isFollowed : Bool) : Option (List Char) :=
  match base with
  | '/' :: '/' :: hierarchy =>
      let authority := hierarchy.takeWhile (· ≠ '/')
      let path := hierarchy.drop authority.length
      (normalAuthority? authority (if isFollowed then '?' :: path else path)).map fun written =>
        '/' :: '/' :: (written ++ normalSlashPath path)
  | '/' :: _ =>
      match normalSlashPath base with
      | '/' :: '/' :: rest => some ('/' :: '.' :: '/' :: '/' :: rest)
      | path => some path
  | _ => some base

/-- Whether an address drops a character wherever it stands. -/
def isDropped (character : Char) : Bool :=
  character = '\t' || character = '\n' || character = '\r'

/-- Drop control characters and blanks at both ends and line breaks and tabs
everywhere. -/
def cleanUrl (text : List Char) : List Char :=
  let isOuter := fun character : Char => decide (character.toNat ≤ 0x20)
  let started := text.dropWhile isOuter
  ((started.reverse.dropWhile isOuter).reverse).filter fun character => !isDropped character

/-- The normal form of an address. -/
def normalUrl? (url : List Char) : Option (List Char) :=
  let cleaned := cleanUrl url
  let scheme := cleaned.takeWhile (· ≠ ':')
  let parts := UrlParts.ofChars (cleaned.drop (scheme.length + 1))
  (normalBase? parts.base (parts.query.isSome || parts.fragment.isSome)).map fun base =>
    scheme ++ ':' :: { parts with base }.toChars

end ContentVault

import ContentVault.Table

/-!
# Documents

The data that configuration files and reports are made of, whatever their format.

* a table holds one value per name, in the order of first mention;
* laying one document over another keeps what only one of them has; where both
  have a table the two are joined, and everywhere else the upper one counts.
-/

namespace ContentVault

/-- A tree of data. -/
inductive Document where
  | absent
  | boolean (value : Bool)
  | integer (value : Int)
  /-- A number that is not an integer, as it was spelled. -/
  | decimal (spelling : String)
  | text (value : String)
  | list (items : List Document)
  | table (entries : List (String × Document))
  deriving Repr

namespace Document

instance : Inhabited Document := ⟨.absent⟩

/-- The entries of a table; no other document has any. -/
def entries : Document → Table String Document
  | .table entries => entries
  | _ => []

/-- The value under a name. -/
def get? (document : Document) (name : String) : Option Document :=
  document.entries.get? name

mutual

/-- Lay a document over another one. -/
def laidOver : Document → Document → Document
  | .table upper, lower => .table (entriesOver upper lower.entries)
  | other, _ => other

/-- Lay the entries of a table over those of another one. -/
def entriesOver : List (String × Document) → Table String Document → Table String Document
  | [], lower => lower
  | entry :: rest, lower => entriesOver rest (entryOver entry lower)

/-- Lay a single entry over the entries of a table. -/
def entryOver : String × Document → Table String Document → Table String Document
  | (name, value), lower => lower.put name (laidOver value ((lower.get? name).getD .absent))

end

/-- A table with a single value below a path of names. -/
def nested : List String → Document → Document
  | [], value => value
  | name :: rest, value => .table [(name, nested rest value)]

mutual

/-- Whether two documents are the same. -/
def isSame : Document → Document → Bool
  | .absent, .absent => true
  | .boolean first, .boolean second => first = second
  | .integer first, .integer second => first = second
  | .decimal first, .decimal second => first = second
  | .text first, .text second => first = second
  | .list first, .list second => areSame first second
  | .table first, .table second => haveSame first second
  | _, _ => false

/-- Whether two lists hold the same documents. -/
def areSame : List Document → List Document → Bool
  | [], [] => true
  | first :: rest, second :: others => isSame first second && areSame rest others
  | _, _ => false

/-- Whether two tables have the same entries in the same order. -/
def haveSame : List (String × Document) → List (String × Document) → Bool
  | [], [] => true
  | (name, first) :: rest, (other, second) :: others =>
      name = other && isSame first second && haveSame rest others
  | _, _ => false

end

mutual

theorem isSame_iff (first second : Document) :
    isSame first second = true ↔ first = second := by
  cases first with
  | list items => cases second <;> simp [isSame, areSame_iff items]
  | table entries => cases second <;> simp [isSame, haveSame_iff entries]
  | _ => cases second <;> simp [isSame]

theorem areSame_iff (first second : List Document) :
    areSame first second = true ↔ first = second := by
  match first with
  | [] => cases second <;> simp [areSame]
  | item :: rest => cases second <;> simp [areSame, isSame_iff item, areSame_iff rest]

theorem haveSame_iff (first second : List (String × Document)) :
    haveSame first second = true ↔ first = second := by
  match first with
  | [] => cases second <;> simp [haveSame]
  | (name, value) :: rest =>
      cases second <;> simp [haveSame, Prod.ext_iff, isSame_iff value, haveSame_iff rest]

end

end Document

instance : DecidableEq Document := fun first second =>
  decidable_of_iff _ (Document.isSame_iff first second)

end ContentVault

import ContentVault.Document.Basic

/-!
# Tables of TOML while they are read

* a table is declared once: by its header, by dotted names inside one other table,
  or by being above a declared one, and then its own header may follow;
* a name is given a value once;
* a list of tables grows by one table with each of its headers, and what follows
  belongs to the newest one.
-/

namespace ContentVault

/-- How a table came about. -/
inductive TableOrigin where
  /-- By a header of its own. -/
  | declared
  /-- By a header of a table below it. -/
  | implied
  /-- By a dotted name. -/
  | dotted
  deriving DecidableEq, Repr

/-- What a name stands for while the text is being read. -/
inductive TomlNode where
  | value (document : Document)
  | table (origin : TableOrigin) (entries : List (String × TomlNode))
  /-- A list of tables, newest first. -/
  | tables (newest : List (String × TomlNode)) (older : List (List (String × TomlNode)))

/-- The names of a table with what they stand for. -/
abbrev TomlEntries := Table String TomlNode

namespace TomlNode

mutual

/-- The finished document. -/
def toDocument : TomlNode → Document
  | .value document => document
  | .table _ entries => .table (entriesToDocuments entries)
  | .tables newest older =>
      .list ((.table (entriesToDocuments newest) :: tablesToDocuments older).reverse)

/-- The finished entries of a table. -/
def entriesToDocuments : List (String × TomlNode) → List (String × Document)
  | [] => []
  | entry :: rest => entryToDocument entry :: entriesToDocuments rest

/-- A finished entry. -/
def entryToDocument : String × TomlNode → String × Document
  | (name, node) => (name, toDocument node)

/-- The finished tables of a list. -/
def tablesToDocuments : List (List (String × TomlNode)) → List Document
  | [] => []
  | entries :: rest => .table (entriesToDocuments entries) :: tablesToDocuments rest

end

end TomlNode

namespace TomlEntries

/-- Change the table at a path below a table; tables that are missing on the way
come about as `created`. -/
def changeAt
    (created : TableOrigin) (change : TableOrigin → TomlEntries → Option TomlEntries) :
    List String → TableOrigin → TomlEntries → Option TomlEntries
  | [], origin, entries => change origin entries
  | name :: rest, _, entries =>
      match entries.get? name with
      | none => do
          let inner ← changeAt created change rest created []
          return entries.put name (.table created inner)
      | some (.value _) => none
      | some (.table origin inner) =>
          if created = .dotted ∧ origin = .declared then
            none
          else do
            let changed ← changeAt created change rest origin inner
            return entries.put name (.table origin changed)
      | some (.tables newest older) => do
          let changed ← changeAt created change rest .declared newest
          return entries.put name (.tables changed older)

/-- Give a name, dotted by the names before it, a value.  A table that dotted names
made is filled by dotted names, and every other one is not. -/
def setDotted (path : List String) (name : String) (value : Document)
    (entries : TomlEntries) : Option TomlEntries :=
  changeAt .dotted
    (fun origin entries =>
      if decide (origin = .dotted) == path.isEmpty then
        none
      else
        match entries.get? name with
        | some _ => none
        | none => some (entries.put name (.value value)))
    path .declared entries

/-- Give a name a value inside the table at a path. -/
def setBelow (current path : List String) (name : String) (value : Document)
    (entries : TomlEntries) : Option TomlEntries :=
  changeAt .implied (fun _ entries => setDotted path name value entries) current .declared entries

/-- Declare the table with a name below a path. -/
def declareTable (path : List String) (name : String) (entries : TomlEntries) :
    Option TomlEntries :=
  changeAt .implied
    (fun _ entries =>
      match entries.get? name with
      | none => some (entries.put name (.table .declared []))
      | some (.table .implied inner) => some (entries.put name (.table .declared inner))
      | some _ => none)
    path .declared entries

/-- Add a table to the list of tables with a name below a path. -/
def addTable (path : List String) (name : String) (entries : TomlEntries) :
    Option TomlEntries :=
  changeAt .implied
    (fun _ entries =>
      match entries.get? name with
      | none => some (entries.put name (.tables [] []))
      | some (.tables newest older) => some (entries.put name (.tables [] (newest :: older)))
      | some _ => none)
    path .declared entries

/-- The finished document. -/
def toDocument (entries : TomlEntries) : Document :=
  .table (TomlNode.entriesToDocuments entries)

end TomlEntries

end ContentVault

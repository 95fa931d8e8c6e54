import ContentVault.FileTree

/-!
# Changes of a tree

What has to be done to a tree so that it becomes another one: directories to be
created, files to be written and files to be removed, in an order in which each
step can be taken.
-/

namespace ContentVault

/-- One step of a change. -/
inductive FileChange where
  | createDirectory (names : List PathName)
  | write (names : List PathName) (content : ByteArray)
  | remove (names : List PathName)

namespace FileTree

/-- The step that brings about an entry, if it is not there already. -/
def changeTo (before : FileTree) (names : List PathName) (entry : FileEntry) :
    Option FileChange :=
  if before.entries.get? names = some entry then
    none
  else
    match entry with
    | .directory => some (.createDirectory names)
    | .file content => some (.write names content)

/-- The step that takes away an entry, if it is a file and not there any more. -/
def changeFrom (after : FileTree) (names : List PathName) (entry : FileEntry) :
    Option FileChange :=
  match entry, after.entries.get? names with
  | .file _, none => some (.remove names)
  | _, _ => none

/-- The steps from one tree to another; directories come before what they hold. -/
def changes (before after : FileTree) : List FileChange :=
  let wanted := after.entries.mergeSort fun first second => first.1.length ≤ second.1.length
  wanted.filterMap (fun entry => before.changeTo entry.1 entry.2) ++
    before.entries.filterMap fun entry => after.changeFrom entry.1 entry.2

end FileTree

end ContentVault

import PackageSearch.Storage.FileTree

/-!
# Leaf directories

A walk comes by everything below an entry: by a directory before what is in it, and by siblings in
the order of their names' bytes. Links are not followed. The leaf directories are the directories
that the walk comes by and that are the parent of no other one of them.
-/

set_option autoImplicit false

namespace PackageSearch.Storage

/-- What a walk comes by, and the names that lead to it. -/
structure Visit where
  names : List FileName
  entry : Entry

def Visit.under (visit : Visit) (name : FileName) : Visit :=
  { visit with names := name :: visit.names }

def nameLe (left right : FileName) : Bool := ! (right < left : Bool)

/-- What a walk comes by at and below several entries of one directory, these in order. -/
def inOrder (found : List (FileName × List Visit)) : List Visit :=
  (found.mergeSort fun left right => nameLe left.1 right.1).flatMap fun sibling =>
    sibling.2.map fun visit => visit.under sibling.1

mutual

def Entry.walk : Entry → List Visit
  | .directory _ children => inOrder (walksOfAll children)
  | _ => []

def walksOfAll : List (FileName × Entry) → List (FileName × List Visit)
  | [] => []
  | (name, entry) :: rest => (name, ⟨[], entry⟩ :: entry.walk) :: walksOfAll rest

end

/-- A directory found below another one: the names that lead to it, and the time of its last
change. -/
structure Leaf where
  names : List FileName
  modified : Instant

def Visit.directory? (visit : Visit) : Option Leaf :=
  match visit.entry with
  | .directory modified _ => some ⟨visit.names, modified⟩
  | _ => none

def Entry.leaves (entry : Entry) : List Leaf :=
  let directories := entry.walk.filterMap Visit.directory?
  let parents := directories.map fun directory => directory.names.dropLast
  directories.filter fun directory => ! parents.contains directory.names

end PackageSearch.Storage

import PackageSearch.Storage.Path
import PackageSearch.Time.Instant

/-!
# Trees of files

Directories, files and symbolic links, with what a program does to them: find what a path leads
to, read a file, and make or remove entries. Names in one directory differ. A path is followed part
by part from the root or from the working directory; links are followed wherever they stand, but
only so many of them.
-/

set_option autoImplicit false

namespace PackageSearch.Storage

/-- What stands under a name: a file, a symbolic link, or a directory with the time of its last
change. -/
inductive Entry where
  | file (content : Bytes)
  | link (target : Path)
  | directory (modified : Instant) (children : List (FileName × Entry))

namespace Entry

def emptyDirectory : Entry := .directory .epoch []

instance : Inhabited Entry := ⟨emptyDirectory⟩

/-- The entries of a directory; nothing else has any. -/
def children : Entry → List (FileName × Entry)
  | directory _ children => children
  | _ => []

def isDirectory : Entry → Bool
  | directory _ _ => true
  | _ => false

def child? (entry : Entry) (name : FileName) : Option Entry :=
  entry.children.lookup name

def at? (entry : Entry) : List FileName → Option Entry
  | [] => some entry
  | name :: rest => (entry.child? name).bind fun child => child.at? rest

def setChild (name : FileName) (child : Option Entry) (children : List (FileName × Entry)) :
    List (FileName × Entry) :=
  let others := children.filter fun entry => entry.1 != name
  match child with
  | some entry => (name, entry) :: others
  | none => others

def change (edit : Option Entry → Option Entry) : List FileName → Entry → Entry
  | [], entry => (edit (some entry)).getD entry
  | [name], .directory modified children =>
      .directory modified (setChild name (edit (children.lookup name)) children)
  | name :: rest, .directory modified children =>
      match children.lookup name with
      | some child =>
          .directory modified (setChild name (some (child.change edit rest)) children)
      | none => .directory modified children
  | _, entry => entry

end Entry

/-- Why a path does not lead to what is wanted. -/
inductive FileError where
  | notFound
  | notDirectory
  | isDirectory
  | tooManyLinks
  | nameTooLong
  | nullByte
  | notUnicode
  deriving DecidableEq

def FileError.text : FileError → String
  | notFound => "No such file or directory (os error 2)"
  | notDirectory => "Not a directory (os error 20)"
  | isDirectory => "Is a directory (os error 21)"
  | tooManyLinks => "Too many levels of symbolic links (os error 40)"
  | nameTooLong => "File name too long (os error 36)"
  | nullByte => "file name contained an unexpected NUL byte"
  | notUnicode => "stream did not contain valid UTF-8"

/-- A tree and the place in it from which relative paths start. -/
structure FileTree where
  root : Entry
  here : List FileName
  deriving Inhabited

namespace FileTree

def maxLinks : Nat := 40

def maxName : Nat := 255

def maxPath : Nat := 4095

/-- The parts of a path as they are followed. A slash at the end asks for a directory, as a period
does. -/
def steps (path : Path) : List Component :=
  let given := path.parts.map Path.componentOf
  let asked := if path.bytes.getLast? = some Path.slash then given ++ [.current] else given
  if path.isAbsolute then .root :: asked else asked

/-- The place that steps lead to from a given place, while at most `links` links are followed. The
place is given by the names from the root. -/
def follow (root : Entry) (links : Nat) (place : List FileName) (todo : List Component) :
    Except FileError (List FileName) :=
  match todo with
  | [] => .ok place
  | step :: rest =>
      match root.at? place with
      | some (.directory _ children) =>
          match step with
          | .root => follow root links [] rest
          | .current => follow root links place rest
          | .parent => follow root links place.dropLast rest
          | .normal name =>
              if maxName < name.length then .error .nameTooLong
              else match children.lookup name with
                | none => .error .notFound
                | some (.link target) =>
                    match links with
                    | 0 => .error .tooManyLinks
                    | links + 1 => follow root links place (steps target ++ rest)
                | some _ => follow root links (place ++ [name]) rest
      | _ => .error .notDirectory
termination_by (links, todo.length)

def place (tree : FileTree) (path : Path) : Except FileError (List FileName) :=
  if path.bytes.contains 0 then .error .nullByte
  else if path.bytes.isEmpty then .error .notFound
  else if maxPath < path.bytes.length then .error .nameTooLong
  else follow tree.root maxLinks tree.here (steps path)

def entry (tree : FileTree) (path : Path) : Except FileError Entry := do
  let place ← tree.place path
  match tree.root.at? place with
  | some entry => .ok entry
  | none => .error .notFound

def read (tree : FileTree) (path : Path) : Except FileError Bytes := do
  match ← tree.entry path with
  | .file content => .ok content
  | .directory _ _ => .error .isDirectory
  | .link _ => .error .tooManyLinks

/-- Change what a path leads to, or would lead to in the directory that it names. -/
def change (tree : FileTree) (path : Path) (edit : Option Entry → Option Entry) : FileTree :=
  match tree.place path with
  | .ok place => { tree with root := tree.root.change edit place }
  | .error _ =>
      match path.parts.getLast?, tree.place (if path.parent.bytes.isEmpty then ⟨[Path.period]⟩
          else path.parent) with
      | some name, .ok place => { tree with root := tree.root.change edit (place ++ [name]) }
      | _, _ => tree

def makeDirectory (tree : FileTree) (path : Path) : FileTree :=
  let starts := (List.range path.parts.length).map fun count =>
    let kept := List.intercalate [Path.slash] (path.parts.take (count + 1))
    Path.mk (if path.isAbsolute then Path.slash :: kept else kept)
  starts.foldl (fun tree start => tree.change start fun found =>
    some (found.getD .emptyDirectory)) tree

/-- Write a file, in directories that are made where there are none. -/
def writeFile (tree : FileTree) (path : Path) (content : Bytes) : FileTree :=
  (tree.makeDirectory path.parent).change path fun _ => some (.file content)

def makeLink (tree : FileTree) (path target : Path) : FileTree :=
  (tree.makeDirectory path.parent).change path fun found => some (found.getD (.link target))

/-- Remove an entry with all that is in it; a link is removed itself. -/
def remove (tree : FileTree) (path : Path) : FileTree :=
  match path.parts.getLast?, tree.place (if path.parent.bytes.isEmpty then ⟨[Path.period]⟩
      else path.parent) with
  | some name, .ok place => { tree with root := tree.root.change (fun _ => none) (place ++ [name]) }
  | _, _ => tree

def touch (tree : FileTree) (path : Path) (modified : Instant) : FileTree :=
  tree.change path fun found => found.map fun entry =>
    match entry with
    | .directory _ children => .directory modified children
    | other => other

end FileTree

end PackageSearch.Storage

import PackageSearch.Text.Blank
import PackageSearch.Text.Quoted

/-!
# Paths

A path is a sequence of bytes with slashes between its parts. What it means is its list of
components: empty parts are dropped, and so are parts that are a single period, except at the
start of a relative path. Paths are compared by components, so two spellings may be the same path.
-/

set_option autoImplicit false

namespace PackageSearch.Storage

abbrev FileName := Bytes

structure Path where
  bytes : Bytes
  deriving DecidableEq, Inhabited

inductive Component where
  | root
  | current
  | parent
  | normal (name : FileName)
  deriving DecidableEq

namespace Path

def slash : UInt8 := 0x2f

def period : UInt8 := 0x2e

def ofText (text : String) : Path := ⟨text.toUTF8.toList⟩

/-- The path as a text; malformed parts are replaced. -/
def text (path : Path) : String := Text.lossyText path.bytes

def quoted (path : Path) : String := Text.quotedBytes path.bytes

def isAbsolute (path : Path) : Bool := path.bytes.head? == some slash

def parts (path : Path) : List FileName := Text.runs (· == slash) path.bytes

def componentOf (part : FileName) : Component :=
  if part = [period] then .current
  else if part = [period, period] then .parent
  else .normal part

def components (path : Path) : List Component :=
  let given := path.parts.map componentOf
  let kept := given.filter (· != .current)
  if path.isAbsolute then .root :: kept
  else if given.head? = some .current then .current :: kept
  else kept

/-- A path taken from another one: an absolute one stands for itself. -/
def join (base path : Path) : Path :=
  if path.isAbsolute then path
  else if base.bytes.isEmpty || base.bytes.getLast? == some slash then ⟨base.bytes ++ path.bytes⟩
  else ⟨base.bytes ++ slash :: path.bytes⟩

def trimmedReverse : Bytes → Bytes
  | first :: rest =>
      if first = slash then trimmedReverse rest
      else if first = period && rest.head? == some slash then trimmedReverse rest
      else first :: rest
  | [] => []

/-- The directory that a path stands in: the path without its last component. -/
def parent (path : Path) : Path :=
  let cut := (trimmedReverse path.bytes.reverse).dropWhile (· != slash)
  let kept := (trimmedReverse cut).reverse
  if kept.isEmpty && path.isAbsolute then ⟨[slash]⟩ else ⟨kept⟩

/-- Whether the components of `base` begin those of the path. -/
def startsWith (path base : Path) : Bool :=
  base.components.isPrefixOf path.components

def componentsAfter? (path base : Path) : Option (List Component) :=
  if path.startsWith base then some (path.components.drop base.components.length) else none

end Path

end PackageSearch.Storage

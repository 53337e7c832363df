/-!
# Values of TOML documents

Real numbers and moments are told apart from other values, but not which ones they are. While a
document is read, tables are remembered with how they came to be: a header may complete a table
that was only implied, a dotted key may add to a table made by dotted keys, and nothing else may be
defined twice.
-/

set_option autoImplicit false

namespace PackageSearch.Toml

inductive Value where
  | text (value : String)
  | integer (value : Int)
  | real
  | boolean (value : Bool)
  | moment
  | list (items : List Value)
  | table (members : List (String × Value))
  deriving Inhabited

/-- How a table came to be: by a header, as part of the path of a header, or by a dotted key. -/
inductive Origin where
  | header
  | implied
  | dotted
  deriving DecidableEq

/-- What stands under a key while a document is read. A list of tables made by headers is kept with
the last one first. -/
inductive Item where
  | value (value : Value)
  | table (origin : Origin) (members : List (String × Item))
  | tables (tables : List (List (String × Item)))

/-- The keys of a table and what stands under them, in the order of their definition. -/
abbrev Members := List (String × Item)

/-- A table that is being defined. -/
structure Table where
  origin : Origin
  members : Members

namespace Table

def empty : Table := ⟨.header, []⟩

def replace (key : String) (item : Item) (members : Members) : Members :=
  members.map fun member => if member.1 = key then (key, item) else member

/-- Change the table that a path leads to from a given one; tables that are not there are made.
Of several tables under one key, the last one is meant. A dotted path does not lead through a table
that has a header. -/
def change (isDotted : Bool) (edit : Table → Option Table) : List String → Table → Option Table
  | [], table => edit table
  | key :: rest, table =>
      match table.members.lookup key with
      | none => do
          let made ← change isDotted edit rest ⟨if isDotted then .dotted else .implied, []⟩
          some { table with members := table.members ++ [(key, .table made.origin made.members)] }
      | some (.table origin members) =>
          if isDotted && origin = .header then none
          else do
            let made ← change isDotted edit rest ⟨origin, members⟩
            some { table with
              members := replace key (.table made.origin made.members) table.members }
      | some (.tables (last :: before)) => do
          let made ← change isDotted edit rest ⟨.header, last⟩
          some
            { table with members := replace key (.tables (made.members :: before)) table.members }
      | _ => none

def define (key : String) (item : Item) (table : Table) : Option Table :=
  if (table.members.lookup key).isSome then none
  else some { table with members := table.members ++ [(key, item)] }

/-- Give a value to a key behind a dotted path. The table that holds the key must have been made by
a dotted key if and only if there is a path. -/
def assign (path : List String) (key : String) (value : Value) (table : Table) : Option Table :=
  table.change true (fun table =>
    if (table.origin = .dotted) = path.isEmpty then none else table.define key (.value value)) path

/-- Define a table by its header, which may be implied before. -/
def openTable (path : List String) (key : String) (table : Table) : Option Table :=
  table.change false (fun table =>
    match table.members.lookup key with
    | some (.table .implied members) =>
        some { table with members := replace key (.table .header members) table.members }
    | _ => table.define key (.table .header [])) path

def appendTable (path : List String) (key : String) (table : Table) : Option Table :=
  table.change false (fun table =>
    match table.members.lookup key with
    | some (.tables tables) =>
        some { table with members := replace key (.tables ([] :: tables)) table.members }
    | _ => table.define key (.tables [[]])) path

end Table

namespace Item

def toValue : Item → Value
  | .value given => given
  | .table _ members => .table (memberValues members)
  | .tables given => .list (tableValues given).reverse
where
  /-- The values of a table. -/
  memberValues : Members → List (String × Value)
    | [] => []
    | (key, item) :: rest => (key, toValue item) :: memberValues rest
  /-- The values of several tables. -/
  tableValues : List Members → List Value
    | [] => []
    | members :: rest => .table (memberValues members) :: tableValues rest

end Item

def Table.toValue (table : Table) : Value :=
  (Item.table table.origin table.members).toValue

end PackageSearch.Toml

import PackageSearch.Number.Numeral

/-!
# Query expressions

What a query text says: words and quoted phrases, each perhaps in one field, ranges and sets of
words, and groups of these whose members are required, excluded or optional.
-/

set_option autoImplicit false

namespace PackageSearch.Index

/-- The part a member plays in a group. -/
inductive Occurrence where
  | should
  | must
  | mustNot
  deriving DecidableEq

/-- What stands around a phrase. -/
inductive Quoting where
  | none
  | single
  | double
  deriving DecidableEq

/-- One end of a range. -/
inductive Bound (α : Type) where
  | unbounded
  | included (value : α)
  | excluded (value : α)
  deriving DecidableEq

/-- A number written with a fraction: `digits / 10 ^ places`. -/
structure Factor where
  digits : Nat
  places : Nat

def Factor.same (left right : Factor) : Bool :=
  left.digits * Nat.pow 10 right.places = right.digits * Nat.pow 10 left.places

/-- One thing that is looked for. -/
inductive Leaf where
  | everything
  | nothing
  | phrase (field : Option String) (quoting : Quoting) (text : String) (slop : Nat) (isOpen : Bool)
  | range (field : Option String) (lower upper : Bound String)
  | set (field : Option String) (members : List String)
  deriving DecidableEq

def Leaf.inField (field : String) : Leaf → Leaf
  | .everything => .nothing
  | .nothing => .nothing
  | .phrase named quoting text slop isOpen =>
      .phrase (named <|> some field) quoting text slop isOpen
  | .range named lower upper => .range (named <|> some field) lower upper
  | .set named members => .set (named <|> some field) members

/-- A query; a member of a group without an occurrence of its own is optional. -/
inductive Expression where
  | leaf (target : Leaf)
  | boosted (expression : Expression) (factor : Factor)
  | group (members : List (Option Occurrence × Expression))

abbrev Member := Option Occurrence × Expression

namespace Expression

/-- Whether two expressions are equal, factors by their values. -/
def same : Expression → Expression → Bool
  | .leaf left, .leaf right => left = right
  | .boosted left factor, .boosted right other => factor.same other && same left right
  | .group left, .group right => sameMembers left right
  | _, _ => false
where
  /-- Whether two lists of members are equal. -/
  sameMembers : List Member → List Member → Bool
    | [], [] => true
    | (first, left) :: lefts, (second, right) :: rights =>
        first = second && same left right && sameMembers lefts rights
    | _, _ => false

def inField (field : String) : Expression → Expression
  | .leaf target => .leaf (target.inField field)
  | .boosted expression factor => .boosted (inField field expression) factor
  | .group members => .group (membersInField field members)
where
  /-- The members of a group inside a field. -/
  membersInField (field : String) : List Member → List Member
    | [] => []
    | (occurrence, member) :: rest =>
        (occurrence, inField field member) :: membersInField field rest

/-- Multiply what a match counts; a factor of one leaves the expression as it is. -/
def boost (factor : Factor) (expression : Expression) : Expression :=
  if factor.same ⟨1, 0⟩ then expression else .boosted expression factor

def sameMember (left right : Member) : Bool :=
  left.1 = right.1 && same left.2 right.2

/-- The members without those that repeat one of `seen` or an earlier one. -/
def withoutRepeats (seen : List Member) : List Member → List Member
  | [] => []
  | member :: rest =>
      if seen.any fun other => sameMember other member then withoutRepeats seen rest
      else member :: withoutRepeats (member :: seen) rest

def unwrap : Member → Member
  | (none, .group [member]) => member
  | member => member

/-- The simplest form of an expression: in a group equal members count once, and groups of one are
taken out. What is boosted keeps its form. -/
def simplify : Expression → Expression
  | .group members => .group ((withoutRepeats [] (simplifyMembers members)).map unwrap)
  | expression => expression
where
  /-- The members of a group, each in its simplest form. -/
  simplifyMembers : List Member → List Member
    | [] => []
    | (occurrence, member) :: rest => (occurrence, simplify member) :: simplifyMembers rest

end Expression

end PackageSearch.Index

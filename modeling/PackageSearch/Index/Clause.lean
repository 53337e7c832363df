import PackageSearch.Index.Document
import PackageSearch.Index.Expression

/-!
# Clauses

A query with its fields and tokens settled. What names no field is looked for in all standard ones;
what names no field there is, or has no token, is left out. A query that only excludes is one for
everything else.
-/

set_option autoImplicit false

namespace PackageSearch.Index

/-- A settled query. -/
inductive Clause where
  | everything
  | phrase (field : Field) (tokens : List Token) (slop : Nat)
  | openPhrase (field : Field) (tokens : List Token) (last : Token)
  | range (field : Field) (lower upper : Bound Token)
  | among (field : Field) (tokens : List Token)
  | boosted (clause : Clause) (factor : Factor)
  | group (members : List (Occurrence × Clause))

namespace Clause

def never : Clause := .group []

/-- A phrase in a field; one with an open end has at least two tokens. -/
def ofPhrase? (text : List Char) (slop : Nat) (isOpen : Bool) (field : Field) : Option Clause :=
  match field.tokensIn text with
  | [] => none
  | [token] => if isOpen then none else some (.phrase field [token] slop)
  | tokens =>
      if isOpen then tokens.getLast?.map (.openPhrase field tokens.dropLast)
      else some (.phrase field tokens slop)

def token? (field : Field) (text : String) : Option Token :=
  match field.tokensIn text.toList with
  | [token] => some token
  | _ => none

def boundIn (field : Field) : Bound String → Bound Token
  | .unbounded => .unbounded
  | .included text => ((token? field text).map Bound.included).getD .unbounded
  | .excluded text => ((token? field text).map Bound.excluded).getD .unbounded

def ofLeaf : Leaf → Clause
  | .everything => .everything
  | .nothing => never
  | .phrase none _ text slop isOpen =>
      .group <| (Field.standard.filterMap (ofPhrase? text.toList slop isOpen)).map fun clause =>
        (.should, clause)
  | .phrase (some name) _ text slop isOpen =>
      ((Field.ofName? name).bind (ofPhrase? text.toList slop isOpen)).getD never
  | .range none _ _ => never
  | .range (some name) lower upper =>
      match Field.ofName? name with
      | some field =>
          let (lower, upper) := (boundIn field lower, boundIn field upper)
          if lower = .unbounded && upper = .unbounded then never else .range field lower upper
      | none => never
  | .set none _ => never
  | .set (some name) members =>
      match Field.ofName? name with
      | some field => .among field (members.filterMap (token? field))
      | none => never

/-- The clause of an expression; a member without an occurrence is optional. -/
def settle : Expression → Clause
  | .leaf target => ofLeaf target
  | .boosted expression factor => .boosted (settle expression) factor
  | .group members => .group (settleMembers members)
where
  /-- The clauses of a group's members. -/
  settleMembers : List Member → List (Occurrence × Clause)
    | [] => []
    | (occurrence, member) :: rest =>
        (occurrence.getD .should, settle member) :: settleMembers rest

def onlyExcludes : Clause → Bool
  | .group members => allExclude members
  | .boosted clause _ => onlyExcludes clause
  | _ => false
where
  /-- Whether every member is excluded or only excludes. -/
  allExclude : List (Occurrence × Clause) → Bool
    | [] => true
    | (occurrence, member) :: rest =>
        (occurrence = .mustNot || onlyExcludes member) && allExclude rest

def orEverything : Clause → Clause
  | .group members => .group (members ++ [(.should, .everything)])
  | .boosted clause factor => .boosted (orEverything clause) factor
  | clause => clause

def trim : Clause → Clause
  | .group members => .group (trimMembers members)
  | .boosted clause factor => .boosted (trim clause) factor
  | clause => clause
where
  /-- The trimmed members that are no empty groups. -/
  trimMembers : List (Occurrence × Clause) → List (Occurrence × Clause)
    | [] => []
    | (occurrence, member) :: rest =>
        match trim member with
        | .group [] => trimMembers rest
        | clause => (occurrence, clause) :: trimMembers rest

def ofExpression (expression : Expression) : Clause :=
  match settle expression with
  | .group [] => never
  | clause => trim (if onlyExcludes clause then orEverything clause else clause)

end Clause

end PackageSearch.Index

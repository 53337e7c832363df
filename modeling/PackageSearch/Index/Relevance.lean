import PackageSearch.Index.Clause
import PackageSearch.Number.Logarithm

/-!
# Relevance

How well a document meets a clause. Scores are fixed-point numbers. A token counts the more, the
rarer it is in the collection and the more often it occurs in the field, and less in a long field;
statistics are taken over the whole collection, retired documents included.
-/

set_option autoImplicit false

namespace PackageSearch.Index

open FixedPoint (logarithm)

/-! ## Occurrences -/

def positions (token : Token) (tokens : List Token) : List Nat :=
  (tokens.zipIdx.filter fun entry => entry.1 = token).map fun entry => entry.2

/-- The positions of the second list that lie no more than `slop` behind one of the first; each
position is used once. Both lists ascend. -/
def meeting (slop : Nat) : List Nat → List Nat → List Nat
  | [], _ => []
  | _, [] => []
  | start :: starts, position :: others =>
      if start + slop < position then meeting slop starts (position :: others)
      else if start ≤ position then
        position :: meeting slop (starts.dropWhile (· ≤ position)) others
      else meeting slop (start :: starts) others
termination_by starts others => starts.length + others.length
decreasing_by
  · simp
  · have := (List.dropWhile_sublist (l := starts) (· ≤ position)).length_le
    simp only [List.length_cons]
    omega
  · simp

def phraseEnds (slop : Nat) (tokens : List Token) : List Token → List Nat
  | [] => []
  | first :: rest =>
      rest.foldl (fun ends token => meeting slop (ends.map (· + 1)) (positions token tokens))
        (positions first tokens)

def occurrences (slop : Nat) (tokens phrase : List Token) : Nat :=
  (phraseEnds slop tokens phrase).length

def hasOpenPhrase (tokens phrase : List Token) (last : Token) : Bool :=
  (phraseEnds 0 tokens phrase).any fun position =>
    (tokens[position + 1]?).any fun token => last.isPrefixOf token

/-! ## Statistics -/

/-- A length as it is recorded: up to 24 exactly, and what is beyond with four binary digits. -/
def recordedLength (length : Nat) : Nat :=
  let unit := Nat.pow 2 ((length - 24).log2 - 3)
  if length ≤ 24 then length else 24 + (length - 24) / unit * unit

def documentFrequency (collection : List Document) (field : Field) (token : Token) : Nat :=
  (collection.filter fun document => (document.tokens field).contains token).length

/-- How much a token says: the logarithm of how rare it is. -/
def rarity (collection : List Document) (field : Field) (token : Token) : Nat :=
  logarithm (2 * collection.length + 2) (2 * documentFrequency collection field token + 1)

def totalLength (collection : List Document) (field : Field) : Nat :=
  (collection.map fun document => (document.tokens field).length).foldr (· + ·) 0

/-- The score of a phrase that occurs `frequency` times in a field of a document. -/
def phraseScore (collection : List Document) (document : Document) (field : Field)
    (phrase : List Token) (frequency : Nat) : Nat :=
  let total := totalLength collection field
  let length := recordedLength (document.tokens field).length
  field.weight * (phrase.map (rarity collection field)).foldr (· + ·) 0 * (22 * frequency * total) /
    (10 * frequency * total + 3 * total + 9 * length * collection.length)

/-! ## Scores -/

def Bound.below (token : Token) : Bound Token → Bool
  | .unbounded => true
  | .included bound => ! decide (token < bound)
  | .excluded bound => bound < token

def Bound.above (token : Token) : Bound Token → Bool
  | .unbounded => true
  | .included bound => ! decide (bound < token)
  | .excluded bound => token < bound

/-- The score of a group: no excluded member is met, every required one and at least one that is
not excluded; the scores of these add up. -/
def groupScore? (scores : List (Occurrence × Option Nat)) : Option Nat :=
  let wanted := (scores.filter fun score => score.1 ≠ .mustNot).filterMap fun score => score.2
  if scores.any fun score => score.1 = .mustNot && score.2.isSome then none
  else if scores.any fun score => score.1 = .must && score.2.isNone then none
  else if wanted.isEmpty then none
  else some (wanted.foldr (· + ·) 0)

def Clause.score? (collection : List Document) (document : Document) : Clause → Option Nat
  | .everything => some FixedPoint.one
  | .phrase field sought slop =>
      match occurrences slop (document.tokens field) sought with
      | 0 => none
      | frequency => some (phraseScore collection document field sought frequency)
  | .openPhrase field sought last =>
      let tokens := document.tokens field
      if hasOpenPhrase tokens sought last then
        if sought.length = 1 then some (field.weight * FixedPoint.one)
        else some (phraseScore collection document field sought (occurrences 0 tokens sought))
      else none
  | .range field lower upper =>
      if (document.tokens field).any fun token => lower.below token && upper.above token then
        some FixedPoint.one
      else none
  | .among field tokens =>
      if (document.tokens field).any tokens.contains then some FixedPoint.one else none
  | .boosted clause factor =>
      (score? collection document clause).map fun score =>
        score * factor.digits / Nat.pow 10 factor.places
  | .group members => groupScore? (memberScores collection document members)
where
  /-- The scores of a group's members. -/
  memberScores (collection : List Document) (document : Document) :
      List (Occurrence × Clause) → List (Occurrence × Option Nat)
    | [] => []
    | (occurrence, member) :: rest =>
        (occurrence, score? collection document member) ::
          memberScores collection document rest

def infixScore (document : Document) (runs : List Token) : Option Nat :=
  match runs.countP fun run => (document.tokens .name).any (Text.occursIn run) with
  | 0 => none
  | count => some (count * Field.name.weight * FixedPoint.one)

end PackageSearch.Index

/-!
# Sets of characters

A set of character codes is a list of ranges, in ascending order and with gaps between them. Union,
complement and the operations made of them keep that form.
-/

set_option autoImplicit false

namespace PackageSearch.Text

/-- Whether ranges stand in ascending order from `start` on, with a gap before each other one. -/
def isSeparated (start : Nat) : List (Nat × Nat) → Bool
  | [] => true
  | range :: rest => start ≤ range.1 && range.1 ≤ range.2 && isSeparated (range.2 + 2) rest

theorem isSeparated_of_le {start first : Nat} {ranges : List (Nat × Nat)} (before : start ≤ first)
    (separated : isSeparated first ranges = true) : isSeparated start ranges = true := by
  cases ranges with
  | nil => rfl
  | cons range rest =>
      simp only [isSeparated, Bool.and_eq_true, decide_eq_true_eq] at separated ⊢
      exact ⟨⟨Nat.le_trans before separated.1.1, separated.1.2⟩, separated.2⟩

/-- A set of codes as inclusive ranges. -/
structure CharacterSet where
  ranges : List (Nat × Nat)
  separated : isSeparated 0 ranges = true
  deriving DecidableEq

namespace CharacterSet

def contains (set : CharacterSet) (code : Nat) : Bool :=
  set.ranges.any fun range => range.1 ≤ code && code ≤ range.2

def empty : CharacterSet := ⟨[], rfl⟩

def singleton (code : Nat) : CharacterSet := ⟨[(code, code)], by simp [isSeparated]⟩

/-- The range from `first` to `last` and those of a list ordered by first code, where ranges that
touch are joined. -/
def joinedFrom (first last : Nat) : List (Nat × Nat) → List (Nat × Nat)
  | [] => [(first, last)]
  | range :: rest =>
      if range.1 ≤ last + 1 then joinedFrom first (max last range.2) rest
      else (first, last) :: joinedFrom range.1 range.2 rest

theorem isSeparated_joinedFrom {first last : Nat} {ranges : List (Nat × Nat)}
    (given : first ≤ last) (all : ∀ range ∈ ranges, range.1 ≤ range.2) :
    isSeparated first (joinedFrom first last ranges) = true := by
  induction ranges generalizing first last with
  | nil => simp [joinedFrom, isSeparated, given]
  | cons range rest ih =>
      have others : ∀ range ∈ rest, range.1 ≤ range.2 := fun _ listed =>
        all _ (List.mem_cons_of_mem _ listed)
      rw [joinedFrom]
      split
      · exact ih (Nat.le_trans given (Nat.le_max_left ..)) others
      · rename_i apart
        simp only [isSeparated, Nat.le_refl, given, decide_true, Bool.true_and]
        exact isSeparated_of_le (Nat.lt_of_not_le apart) (ih (all range List.mem_cons_self) others)

/-- The ranges of a list ordered by first code, where those that touch are joined. -/
def joined : List (Nat × Nat) → List (Nat × Nat)
  | [] => []
  | range :: rest => joinedFrom range.1 range.2 rest

theorem isSeparated_joined {ranges : List (Nat × Nat)}
    (all : ∀ range ∈ ranges, range.1 ≤ range.2) : isSeparated 0 (joined ranges) = true := by
  cases ranges with
  | nil => rfl
  | cons range rest =>
      exact isSeparated_of_le (Nat.zero_le _) (isSeparated_joinedFrom (all range List.mem_cons_self)
        fun _ listed => all _ (List.mem_cons_of_mem _ listed))

/-- Ranges in the order of their first codes. A range whose end lies before its start is empty. -/
def ordered (ranges : List (Nat × Nat)) : List (Nat × Nat) :=
  (ranges.filter fun range => range.1 ≤ range.2).mergeSort fun left right => left.1 ≤ right.1

theorem mem_ordered {ranges : List (Nat × Nat)} {range : Nat × Nat} :
    range ∈ ordered ranges ↔ range ∈ ranges ∧ range.1 ≤ range.2 := by
  rw [ordered, List.mem_mergeSort, List.mem_filter, decide_eq_true_eq]

/-- The set of any ranges. -/
def ofRanges (ranges : List (Nat × Nat)) : CharacterSet :=
  ⟨joined (ordered ranges), isSeparated_joined fun _ listed => (mem_ordered.1 listed).2⟩

def union (left right : CharacterSet) : CharacterSet :=
  ofRanges (left.ranges ++ right.ranges)

def unionAll (sets : List CharacterSet) : CharacterSet :=
  ofRanges (sets.flatMap CharacterSet.ranges)

/-- The gaps between ascending ranges, from `start` to `last`. -/
def gaps (last : Nat) : Nat → List (Nat × Nat) → List (Nat × Nat)
  | start, [] => if start ≤ last then [(start, last)] else []
  | start, range :: rest =>
      if start < range.1 then (start, range.1 - 1) :: gaps last (range.2 + 1) rest
      else gaps last (range.2 + 1) rest

theorem isSeparated_gaps {last start : Nat} {ranges : List (Nat × Nat)}
    (separated : isSeparated start ranges = true) :
    isSeparated start (gaps last start ranges) = true := by
  induction ranges generalizing start with
  | nil =>
      rw [gaps]
      split <;> simp [isSeparated, *]
  | cons range rest ih =>
      simp only [isSeparated, Bool.and_eq_true, decide_eq_true_eq] at separated
      have behind := ih (isSeparated_of_le (Nat.le_succ _) separated.2)
      rw [gaps]
      split
      · simp only [isSeparated, Bool.and_eq_true, decide_eq_true_eq]
        exact ⟨⟨Nat.le_refl _, by omega⟩, isSeparated_of_le (by omega) behind⟩
      · exact isSeparated_of_le (by omega) behind

/-- The codes up to `last` that are not in a set. -/
def complement (last : Nat) (set : CharacterSet) : CharacterSet :=
  ⟨gaps last 0 set.ranges, isSeparated_gaps set.separated⟩

def lastCode : Nat := 0x10ffff

def all : CharacterSet := .ofRanges [(0, lastCode)]

def intersection (left right : CharacterSet) : CharacterSet :=
  complement lastCode (union (complement lastCode left) (complement lastCode right))

def difference (left right : CharacterSet) : CharacterSet :=
  intersection left (complement lastCode right)

def symmetricDifference (left right : CharacterSet) : CharacterSet :=
  difference (union left right) (intersection left right)

/-! ## Tables

A table is a list of lines with blanks between their words. A word is a range: `41-5a` from one
code to another, or one code alone, in hexadecimal digits. -/

def hexNumber (digits : List Char) : Nat :=
  digits.foldl (fun value digit =>
    16 * value + (if digit.isDigit then digit.toNat - 48 else digit.toLower.toNat - 87)) 0

def rangeOf (text : List Char) : Nat × Nat :=
  let first := text.takeWhile (· != '-')
  match text.drop first.length with
  | _ :: last => (hexNumber first, hexNumber last)
  | [] => (hexNumber first, hexNumber first)

/-- The words of a line between blanks, read from its end. -/
def tableWords (text : List Char) : List (List Char) :=
  (text.foldr (fun character (words : List (List Char)) =>
    if character = ' ' then [] :: words
    else match words with
      | word :: others => (character :: word) :: others
      | [] => [[character]]) [[]]).filter fun word => ! word.isEmpty

def ofTable (table : List String) : CharacterSet :=
  ofRanges ((table.flatMap fun line => tableWords line.toList).map rangeOf)

end CharacterSet

end PackageSearch.Text

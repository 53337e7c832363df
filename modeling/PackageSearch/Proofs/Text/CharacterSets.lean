import Mathlib
import PackageSearch.Text.Category

/-!
# Membership in sets of characters

What the operations on sets of characters mean for their members. The canonical form of a set holds
the same codes as the ranges it is made of, since ranges are joined only when no code lies between
them; a set that is read from a table holds the codes that some word of the table covers.
-/

set_option autoImplicit false

namespace PackageSearch.Text

/-- Whether a code lies in one of the ranges. -/
def covers (ranges : List (Nat × Nat)) (code : Nat) : Bool :=
  ranges.any fun range => range.1 ≤ code && code ≤ range.2

theorem covers_cons (range : Nat × Nat) (rest : List (Nat × Nat)) (code : Nat) :
    covers (range :: rest) code =
      (decide (range.1 ≤ code) && decide (code ≤ range.2) || covers rest code) := rfl

/-- Whether a word of a table covers a code. -/
def tableCovers (table : List String) (code : Nat) : Bool :=
  table.any fun line =>
    covers ((CharacterSet.tableWords line.toList).map CharacterSet.rangeOf) code

namespace CharacterSet

/-- Joining ranges that touch keeps the codes. -/
theorem covers_joinedFrom {first last : Nat} {ranges : List (Nat × Nat)}
    (ascending : ((first, last) :: ranges).Pairwise fun left right => left.1 ≤ right.1)
    (code : Nat) :
    covers (joinedFrom first last ranges) code = covers ((first, last) :: ranges) code := by
  induction ranges generalizing first last with
  | nil => rfl
  | cons range rest ih =>
      obtain ⟨before, behind⟩ := List.pairwise_cons.mp ascending
      rw [joinedFrom]
      split
      · rename_i touching
        have start : first ≤ range.1 := before range List.mem_cons_self
        have merged : ((first, max last range.2) :: rest).Pairwise fun left right =>
            left.1 ≤ right.1 :=
          List.pairwise_cons.mpr
            ⟨fun other listed => before other (List.mem_cons_of_mem _ listed), behind.of_cons⟩
        have joins : (first ≤ code ∧ code ≤ max last range.2) ↔
            (first ≤ code ∧ code ≤ last) ∨ (range.1 ≤ code ∧ code ≤ range.2) := by
          omega
        rw [ih merged, Bool.eq_iff_iff]
        simp only [covers_cons, Bool.or_eq_true, Bool.and_eq_true, decide_eq_true_eq, joins,
          or_assoc]
      · rw [covers_cons, ih behind, ← covers_cons]

theorem covers_joined {ranges : List (Nat × Nat)}
    (ascending : ranges.Pairwise fun left right => left.1 ≤ right.1) (code : Nat) :
    covers (joined ranges) code = covers ranges code := by
  cases ranges with
  | nil => rfl
  | cons range rest => exact covers_joinedFrom ascending code

theorem pairwise_ordered (ranges : List (Nat × Nat)) :
    (ordered ranges).Pairwise fun left right => left.1 ≤ right.1 := by
  refine List.Pairwise.imp (fun {left right} before => by simpa using before)
    (List.pairwise_mergeSort (fun first second third => ?_) (fun first second => ?_) _)
  · simp only [decide_eq_true_eq]
    omega
  · simp only [Bool.or_eq_true, decide_eq_true_eq]
    omega

theorem covers_ordered (ranges : List (Nat × Nat)) (code : Nat) :
    covers (ordered ranges) code = covers ranges code := by
  rw [Bool.eq_iff_iff]
  simp only [covers, List.any_eq_true, mem_ordered, Bool.and_eq_true, decide_eq_true_eq]
  constructor
  · rintro ⟨range, ⟨listed, -⟩, inside⟩
    exact ⟨range, listed, inside⟩
  · rintro ⟨range, listed, inside⟩
    exact ⟨range, ⟨listed, inside.1.trans inside.2⟩, inside⟩

theorem contains_ofRanges (ranges : List (Nat × Nat)) (code : Nat) :
    (ofRanges ranges).contains code = covers ranges code :=
  (covers_joined (pairwise_ordered ranges) code).trans (covers_ordered ranges code)

/-! ## Operations -/

@[simp] theorem contains_union (left right : CharacterSet) (code : Nat) :
    (left.union right).contains code = (left.contains code || right.contains code) := by
  rw [union, contains_ofRanges, covers, List.any_append]
  rfl

@[simp] theorem contains_unionAll (sets : List CharacterSet) (code : Nat) :
    (unionAll sets).contains code = sets.any fun set => set.contains code := by
  rw [unionAll, contains_ofRanges, covers, List.any_flatMap]
  rfl

@[simp] theorem contains_ofTable (table : List String) (code : Nat) :
    (ofTable table).contains code = tableCovers table code := by
  rw [ofTable, contains_ofRanges, covers, List.any_map, List.any_flatMap, tableCovers]
  simp only [covers, List.any_map]

@[simp] theorem contains_singleton (only code : Nat) :
    (singleton only).contains code = decide (code = only) := by
  rw [contains, singleton, List.any_cons, List.any_nil, Bool.or_false, Bool.eq_iff_iff]
  simp only [Bool.and_eq_true, decide_eq_true_eq]
  omega

theorem covers_of_lt {start code : Nat} {ranges : List (Nat × Nat)}
    (separated : isSeparated start ranges = true) (before : code < start) :
    covers ranges code = false := by
  induction ranges generalizing start with
  | nil => rfl
  | cons range rest ih =>
      simp only [isSeparated, Bool.and_eq_true, decide_eq_true_eq] at separated
      obtain ⟨⟨begins, ascends⟩, others⟩ := separated
      rw [covers_cons, ih others (by omega), Bool.or_false, Bool.and_eq_false_iff]
      exact .inl (decide_eq_false (by omega))

/-- The gaps from `start` on hold what the ranges leave out. -/
theorem covers_gaps {start last code : Nat} {ranges : List (Nat × Nat)}
    (separated : isSeparated start ranges = true) (behind : start ≤ code) (within : code ≤ last) :
    covers (gaps last start ranges) code = ! covers ranges code := by
  induction ranges generalizing start with
  | nil => simp [gaps, covers, behind, within, behind.trans within]
  | cons range rest ih =>
      simp only [isSeparated, Bool.and_eq_true, decide_eq_true_eq] at separated
      obtain ⟨⟨begins, ascends⟩, others⟩ := separated
      have next : isSeparated (range.2 + 1) rest = true := isSeparated_of_le (Nat.le_succ _) others
      -- Up to the end of the range neither the later gaps nor the later ranges hold a code.
      have later : covers (gaps last (range.2 + 1) rest) code =
          (decide (range.2 < code) && ! covers rest code) := by
        by_cases past : range.2 < code
        · rw [ih next past, decide_eq_true past, Bool.true_and]
        · rw [covers_of_lt (isSeparated_gaps next) (by omega), decide_eq_false past, Bool.false_and]
      have early : code ≤ range.2 → covers rest code = false := fun inside =>
        covers_of_lt others (by omega)
      have gap : covers (gaps last start (range :: rest)) code =
          (decide (code < range.1) || covers (gaps last (range.2 + 1) rest) code) := by
        rw [gaps]
        split
        · have first : (start ≤ code ∧ code ≤ range.1 - 1) ↔ code < range.1 := by omega
          rw [covers_cons, ← Bool.decide_and, decide_eq_decide.2 first]
        · rw [decide_eq_false (by omega), Bool.false_or]
      rw [gap, later, covers_cons]
      rcases Nat.lt_or_ge range.2 code with past | inside
      · have outside : ¬ code ≤ range.2 := by omega
        have started : ¬ code < range.1 := by omega
        simp [past, outside, started]
      · have started : decide (code < range.1) = ! decide (range.1 ≤ code) := by
          rw [← decide_not, decide_eq_decide, Nat.not_le]
        simp [early inside, inside, Nat.not_lt.2 inside, started]

/-- The complement of a set holds the other codes up to the last. -/
@[simp] theorem contains_complement {last code : Nat} (within : code ≤ last) (set : CharacterSet) :
    (set.complement last).contains code = ! set.contains code :=
  covers_gaps set.separated (Nat.zero_le code) within

theorem contains_intersection {code : Nat} (within : code ≤ lastCode) (left right : CharacterSet) :
    (left.intersection right).contains code = (left.contains code && right.contains code) := by
  rw [intersection, contains_complement within, contains_union, contains_complement within,
    contains_complement within, Bool.not_or, Bool.not_not, Bool.not_not]

theorem contains_difference {code : Nat} (within : code ≤ lastCode) (left right : CharacterSet) :
    (left.difference right).contains code = (left.contains code && ! right.contains code) := by
  rw [difference, contains_intersection within, contains_complement within]

theorem contains_symmetricDifference {code : Nat} (within : code ≤ lastCode)
    (left right : CharacterSet) :
    (left.symmetricDifference right).contains code =
      (left.contains code != right.contains code) := by
  rw [symmetricDifference, contains_difference within, contains_union, contains_intersection within]
  cases left.contains code <;> cases right.contains code <;> rfl

end CharacterSet

theorem codes_eq (category : Category) : category.codes = .ofTable category.table := by
  cases category <;> rfl

@[simp] theorem contains_codesOf (categories : List Category) (code : Nat) :
    (codesOf categories).contains code =
      categories.any fun category => tableCovers category.table code := by
  rw [codesOf, CharacterSet.contains_unionAll, List.any_map]
  simp only [Function.comp_def, codes_eq, CharacterSet.contains_ofTable]

end PackageSearch.Text

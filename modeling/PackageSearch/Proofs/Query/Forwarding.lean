import Mathlib
import PackageSearch.Query
import PackageSearch.Proofs.Number.Displayed

/-!
# Forwarded queries

A query that is passed on as parameters is read back from them as it was: its text, its range, and
each of its weights, where a weight that is not a number comes back as one that is not a number. So
what a client's parameters are understood as is what an uplink with the same reader understands, and
the parameters passed on once are those passed on ever after.
-/

set_option autoImplicit false

namespace PackageSearch

/-! ## Looking up a list of entries -/

namespace Dictionary

variable {α : Type}

theorem lookup_cons_eq_ite (key head : String) (value : α) (rest : List (String × α)) :
    List.lookup key ((head, value) :: rest) =
      if key = head then some value else rest.lookup key := by
  rw [List.lookup_cons]
  by_cases same : key = head
  · simp [same]
  · simp only [beq_false_of_ne same, if_neg same]

theorem get?_insert (dictionary : Dictionary α) (key other : String) (value : α) :
    (dictionary.insert key value).get? other =
      if other = key then some value else dictionary.get? other := by
  unfold get? insert
  simp only
  induction dictionary.entries with
  | nil => exact lookup_cons_eq_ite other key value []
  | cons entry rest ih =>
      obtain ⟨head, held⟩ := entry
      rw [insertEntry]
      split
      · exact lookup_cons_eq_ite other key value _
      · split
        · -- The entry goes farther back, since keys are in ascending order.
          rename_i after
          have differs : head ≠ key := fun same => String.lt_irrefl key (same ▸ after)
          rw [lookup_cons_eq_ite, lookup_cons_eq_ite, ih]
          by_cases first : other = head
          · rw [if_pos first, if_pos first, if_neg (first ▸ differs)]
          · rw [if_neg first, if_neg first]
        · rename_i notBefore notAfter
          obtain rfl : key = head := String.le_antisymm
            (String.not_lt.1 notAfter) (String.not_lt.1 notBefore)
          rw [lookup_cons_eq_ite, lookup_cons_eq_ite]
          by_cases same : other = key
          · rw [if_pos same, if_pos same]
          · rw [if_neg same, if_neg same, if_neg same]

theorem get?_ofList {entries : List (String × α)} (distinct : (entries.map Prod.fst).Nodup)
    (key : String) : (ofList entries).get? key = entries.lookup key := by
  have folded (dictionary : Dictionary α) :
      (entries.foldl (fun dictionary entry => dictionary.insert entry.1 entry.2)
          dictionary).get? key =
        (entries.lookup key).or (dictionary.get? key) := by
    induction entries generalizing dictionary with
    | nil => rfl
    | cons entry rest ih =>
        obtain ⟨head, held⟩ := entry
        obtain ⟨absent, distinct⟩ := List.nodup_cons.mp distinct
        rw [List.foldl_cons, ih distinct, get?_insert, lookup_cons_eq_ite]
        by_cases same : key = head
        · subst same
          have none : rest.lookup key = none := List.lookup_eq_none_iff.mpr fun entry member => by
            simpa using fun same => absent (List.mem_map.mpr ⟨entry, member, same.symm⟩)
          rw [if_pos rfl, if_pos rfl, none, Option.none_or, Option.some_or]
        · rw [if_neg same, if_neg same]
  rw [ofList, folded]
  exact Option.or_none

end Dictionary

namespace Query

/-! ## The range -/

theorem leadingInteger?_toString {value : Nat} (small : value ≤ maxSigned) :
    leadingInteger? (toString value) = some (value : Int) := by
  have text : (toString value).toList = Nat.toDigits 10 value := by
    show value.repr.toList = _
    rw [Nat.repr_eq_ofList_toDigits, String.toList_ofList]
  have digits := isDigit_toDigits value
  have number := numeralValue_toDigits value
  obtain ⟨first, rest, start⟩ :=
    List.exists_cons_of_ne_nil (Nat.toDigits_ne_nil (n := value) (b := 10))
  rw [start] at digits number
  have digit := digits first List.mem_cons_self
  have solid : Text.trimLeft (first :: rest) = first :: rest := by
    rw [Text.trimLeft, List.dropWhile_cons, if_neg (by simp [isBlank_of_isDigit digit])]
  have whole : numeral? (first :: rest) = some value := by
    rw [numeral?, if_neg (by simpa using digits), number]
  simp only [leadingInteger?, text, start, solid, leadingSign_of_isDigit digit,
    leadingDigits_eq_self digits, whole]
  rw [if_neg (Nat.not_lt.mpr small)]
  rfl

theorem natAbs_le_of_leadingInteger? {text : String} {value : Int}
    (found : leadingInteger? text = some value) : value.natAbs ≤ maxSigned := by
  simp only [leadingInteger?] at found
  split at found
  · cases found
  · split at found
    · cases found
    · rename_i small
      rw [← Option.some.inj found]
      split <;> omega

theorem sizeOf_range (given : Option String) : 1 ≤ sizeOf given ∧ sizeOf given ≤ maxSigned := by
  have fallback : 1 ≤ defaultSize ∧ defaultSize ≤ maxSigned := by decide
  unfold sizeOf
  split
  · rename_i value found
    obtain ⟨text, -, read⟩ := Option.bind_eq_some_iff.mp found
    have bound := natAbs_le_of_leadingInteger? read
    split <;> omega
  · exact fallback

theorem startOf_le (given : Option String) : startOf given ≤ maxSigned := by
  have fallback : defaultStart ≤ maxSigned := by decide
  unfold startOf
  split
  · rename_i value found
    obtain ⟨text, -, read⟩ := Option.bind_eq_some_iff.mp found
    have bound := natAbs_le_of_leadingInteger? read
    split <;> omega
  · exact fallback

theorem sizeOf_toString {size : Nat} (positive : 1 ≤ size) (small : size ≤ maxSigned) :
    sizeOf (some (toString size)) = size := by
  simp only [sizeOf, Option.bind_some, leadingInteger?_toString small]
  rw [if_pos (by omega), Int.toNat_natCast]

theorem startOf_toString {start : Nat} (small : start ≤ maxSigned) :
    startOf (some (toString start)) = start := by
  simp only [startOf, Option.bind_some, leadingInteger?_toString small]
  rw [if_pos (by omega), Int.toNat_natCast]

/-! ## The weights -/

/-- Two weights are both absent, or the same number, or neither is a number. -/
def SameWeight : Option Binary64 → Option Binary64 → Prop :=
  Option.Rel fun left right => left = right ∨ left.isNaN = true ∧ right.isNaN = true

theorem sameWeight_weightOf (weight : Option Binary64) :
    SameWeight (weightOf (weight.map Binary64.displayText)) weight := by
  cases weight with
  | none => exact .none
  | some number =>
      simp only [weightOf, Option.map_some, Option.bind_some]
      cases kind : number.isNaN with
      | false =>
          obtain ⟨read, solid⟩ := Binary64.ofText?_displayText kind
          rw [trim_eq_self solid, String.ofList_toList, read]
          exact .some (.inl rfl)
      | true =>
          obtain ⟨read, solid⟩ := Binary64.ofText?_displayText_of_isNaN kind
          rw [trim_eq_self solid, String.ofList_toList, read]
          exact .some (.inr ⟨by decide, kind⟩)

theorem SameWeight.weightParameter_eq {left right : Option Binary64} (same : SameWeight left right)
    (key : String) : weightParameter key left = weightParameter key right := by
  cases same with
  | none => rfl
  | some numbers =>
      rcases numbers with rfl | ⟨left, right⟩
      · rfl
      · simp only [weightParameter, Binary64.displayText, left, right, if_true]

/-! ## The query -/

/-- Two queries agree in everything, their weights as far as these are numbers. -/
structure Same (left right : Query) : Prop where
  text : left.text = right.text
  size : left.size = right.size
  start : left.start = right.start
  quality : SameWeight left.quality right.quality
  popularity : SameWeight left.popularity right.popularity
  maintenance : SameWeight left.maintenance right.maintenance

/-- What a reader of the parameters that a query is passed on with understands. -/
def reread (query : Query) : Query :=
  ofParameters (Dictionary.ofList query.toParameters)

theorem Same.toParameters_eq {left right : Query} (same : left.Same right) :
    left.toParameters = right.toParameters := by
  unfold toParameters
  rw [same.text, same.size, same.start, same.quality.weightParameter_eq,
    same.popularity.weightParameter_eq, same.maintenance.weightParameter_eq]

theorem keys_weightParameter (key : String) (weight : Option Binary64) :
    ((weightParameter key weight).map Prod.fst).Sublist [key] := by
  cases weight with
  | none => exact List.nil_sublist _
  | some number => exact List.Sublist.refl _

theorem nodup_keys_toParameters (query : Query) : (query.toParameters.map Prod.fst).Nodup := by
  have sublist : (query.toParameters.map Prod.fst).Sublist
      (["text", "size", "from"] ++ ["quality"] ++ ["popularity"] ++ ["maintenance"]) := by
    simp only [toParameters, List.map_append]
    exact (((List.Sublist.refl _).append (keys_weightParameter _ _)).append
      (keys_weightParameter _ _)).append (keys_weightParameter _ _)
  exact sublist.nodup (by decide)

theorem lookup_weightParameter (key other : String) (weight : Option Binary64) :
    (weightParameter key weight).lookup other =
      if other = key then weight.map Binary64.displayText else none := by
  cases weight with
  | none => exact (ite_self none).symm
  | some number => exact Dictionary.lookup_cons_eq_ite other key number.displayText []

theorem reread_eq (query : Query) :
    query.reread =
      { text := query.text
        size := sizeOf (some (toString query.size))
        start := startOf (some (toString query.start))
        quality := weightOf (query.quality.map Binary64.displayText)
        popularity := weightOf (query.popularity.map Binary64.displayText)
        maintenance := weightOf (query.maintenance.map Binary64.displayText) } := by
  have found (key : String) : (Dictionary.ofList query.toParameters).get? key =
      query.toParameters.lookup key := Dictionary.get?_ofList (nodup_keys_toParameters query) key
  unfold reread ofParameters
  simp only [found]
  simp [toParameters, List.lookup_append, lookup_weightParameter, Dictionary.lookup_cons_eq_ite]

theorem same_reread {query : Query} (positive : 1 ≤ query.size) (size : query.size ≤ maxSigned)
    (start : query.start ≤ maxSigned) : query.reread.Same query := by
  rw [reread_eq]
  exact ⟨rfl, sizeOf_toString positive size, startOf_toString start, sameWeight_weightOf _,
    sameWeight_weightOf _, sameWeight_weightOf _⟩

/-- A query that is passed on is read back as it was understood, whatever parameters it was read
from, and is passed on again unchanged; so is any query of a range that a reader accepts. -/
theorem reread_as_understood :
    (∀ parameters : Dictionary String,
      (ofParameters parameters).reread.Same (ofParameters parameters) ∧
        (ofParameters parameters).reread.toParameters = (ofParameters parameters).toParameters) ∧
    ∀ query : Query, 1 ≤ query.size → query.size ≤ maxSigned → query.start ≤ maxSigned →
      query.reread.Same query ∧ query.reread.toParameters = query.toParameters := by
  have read {query : Query} (positive : 1 ≤ query.size) (size : query.size ≤ maxSigned)
      (start : query.start ≤ maxSigned) :
      query.reread.Same query ∧ query.reread.toParameters = query.toParameters :=
    have same := same_reread positive size start
    ⟨same, same.toParameters_eq⟩
  exact ⟨fun parameters => read (sizeOf_range _).1 (sizeOf_range _).2 (startOf_le _),
    fun query => read⟩

/-- A query with the last start, a negative zero, the least double and what is not a number. -/
def weightedQuery : Query :=
  ((ofText "café \x7b\x7d").withStart maxSigned).withWeights (.ofBits true 0) (.ofBits false 1)
    (.ofBits true (Binary64.infinityBits + 1))

theorem reread_weightedQuery :
    (1 ≤ weightedQuery.size ∧ weightedQuery.size ≤ maxSigned ∧ weightedQuery.start ≤ maxSigned) ∧
      weightedQuery.reread.Same weightedQuery ∧
      weightedQuery.reread.toParameters = weightedQuery.toParameters :=
  ⟨⟨by decide, by decide, by decide⟩,
    reread_as_understood.2 weightedQuery (by decide) (by decide) (by decide)⟩

end Query

end PackageSearch

import Mathlib
import PackageSearch.Proofs.Uplink.Malformed

/-!
# Elements are slices

Whatever bytes the scanner is fed, what it keeps of an element is the input since the bracket that
opened it, and it is in a list of results, at a depth of three or more, for as long as it keeps
anything. So the elements that it completes are slices of the input, one behind the other, each of
which closes its first bracket with its last byte.
-/

set_option autoImplicit false

namespace PackageSearch.Uplink

open Scanner (quotationMark isOpening isClosing)

/-! ## Brackets that are opened and closed -/

/-- How many brackets are opened outside of texts. -/
def openings (bytes : Bytes) : Nat :=
  (bare bytes).countP isOpening

/-- How many brackets are closed outside of texts. -/
def closings (bytes : Bytes) : Nat :=
  (bare bytes).countP isClosing

theorem bare_concat (bytes : Bytes) (byte : UInt8) :
    bare (bytes ++ [byte]) =
      if Quoting.outside.after bytes = .outside then bare bytes ++ [byte] else bare bytes := by
  rw [bare, Quoting.unquoted_append]
  split
  · rename_i outside
    rw [outside]
    rfl
  · rename_i within
    rw [Quoting.unquoted, if_neg within, Quoting.unquoted, List.append_nil, bare]

/-- The bytes open a bracket first, and so far as they go some bracket stays open; `level` are open
at their end. -/
structure Unclosed (bytes : Bytes) (level : Nat) : Prop where
  opens : ∃ first rest, bytes = first :: rest ∧ isOpening first = true
  level_eq : openings bytes = closings bytes + level
  stays : ∀ front, front <+: bytes → front ≠ [] → closings front < openings front

/-- The bytes begin with a bracket that opens and end with one that closes, and at their end as many
are closed as were opened, texts left out, for the first time. -/
structure IsElement (bytes : Bytes) : Prop where
  opens : ∃ first rest, bytes = first :: rest ∧ isOpening first = true
  closes : ∃ front last, bytes = front ++ [last] ∧ isClosing last = true
  balanced : closings bytes = openings bytes
  first : ∀ front, front <+: bytes → front ≠ [] → front ≠ bytes → closings front < openings front

theorem isClosing_of_isOpening {byte : UInt8} (opening : isOpening byte = true) :
    isClosing byte = false := by
  rw [isOpening, Bool.or_eq_true, decide_eq_true_eq, decide_eq_true_eq] at opening
  rcases opening with rfl | rfl <;> rfl

theorem isOpening_of_isClosing {byte : UInt8} (closing : isClosing byte = true) :
    isOpening byte = false :=
  Bool.eq_false_iff.mpr fun opening => by simp [isClosing_of_isOpening opening] at closing

theorem ne_quotationMark_of_isOpening {byte : UInt8} (opening : isOpening byte = true) :
    byte ≠ quotationMark := by
  rintro rfl
  cases opening

theorem ne_quotationMark_of_isClosing {byte : UInt8} (closing : isClosing byte = true) :
    byte ≠ quotationMark := by
  rintro rfl
  cases closing

section Counts

variable {bytes : Bytes} {byte : UInt8}

theorem openings_concat (outside : Quoting.outside.after bytes = .outside) :
    openings (bytes ++ [byte]) = openings bytes + if isOpening byte then 1 else 0 := by
  rw [openings, bare_concat, if_pos outside, List.countP_append, List.countP_singleton, openings]

theorem closings_concat (outside : Quoting.outside.after bytes = .outside) :
    closings (bytes ++ [byte]) = closings bytes + if isClosing byte then 1 else 0 := by
  rw [closings, bare_concat, if_pos outside, List.countP_append, List.countP_singleton, closings]

theorem counts_concat_within (within : Quoting.outside.after bytes ≠ .outside) (byte : UInt8) :
    openings (bytes ++ [byte]) = openings bytes ∧ closings (bytes ++ [byte]) = closings bytes := by
  simp only [openings, closings, bare_concat, if_neg within, and_self]

end Counts

namespace Unclosed

variable {bytes : Bytes} {level : Nat}

theorem level_pos (unclosed : Unclosed bytes level) : 0 < level := by
  obtain ⟨first, rest, rfl, -⟩ := unclosed.opens
  have fewer := unclosed.stays _ List.prefix_rfl (List.cons_ne_nil first rest)
  have level_eq := unclosed.level_eq
  omega

theorem single {byte : UInt8} (opening : isOpening byte = true) : Unclosed [byte] 1 := by
  have opened : openings [byte] = 1 := by
    simp [openings, bare, Quoting.unquoted, opening]
  have closed : closings [byte] = 0 := by
    simp [closings, bare, Quoting.unquoted, isClosing_of_isOpening opening]
  refine ⟨⟨byte, [], rfl, opening⟩, by rw [opened, closed], ?_⟩
  intro front initial nonempty
  rcases List.prefix_cons_iff.1 initial with rfl | ⟨rest, rfl, none⟩
  · exact absurd rfl nonempty
  · rw [List.prefix_nil.1 none, opened, closed]
    exact Nat.one_pos

theorem concat (unclosed : Unclosed bytes level) {byte : UInt8} {next : Nat}
    (level_eq : openings (bytes ++ [byte]) = closings (bytes ++ [byte]) + next)
    (positive : 0 < next) : Unclosed (bytes ++ [byte]) next := by
  obtain ⟨first, rest, whole, opening⟩ := unclosed.opens
  refine ⟨⟨first, rest ++ [byte], by rw [whole, List.cons_append], opening⟩, level_eq, ?_⟩
  intro front initial nonempty
  rcases List.prefix_concat_iff.1 initial with rfl | within
  · omega
  · exact unclosed.stays front within nonempty

theorem isElement (unclosed : Unclosed bytes 1) {byte : UInt8} (closing : isClosing byte = true)
    (outside : Quoting.outside.after bytes = .outside) : IsElement (bytes ++ [byte]) := by
  obtain ⟨first, rest, whole, opening⟩ := unclosed.opens
  refine ⟨⟨first, rest ++ [byte], by rw [whole, List.cons_append], opening⟩,
    ⟨bytes, byte, rfl, closing⟩, ?_, ?_⟩
  · rw [openings_concat outside, closings_concat outside, isOpening_of_isClosing closing, closing,
      unclosed.level_eq]
    rfl
  · intro front initial nonempty shorter
    rcases List.prefix_concat_iff.1 initial with rfl | within
    · exact absurd rfl shorter
    · exact unclosed.stays front within nonempty

end Unclosed

/-- Behind an element one is outside of texts. -/
theorem IsElement.after_eq {bytes : Bytes} (element : IsElement bytes) :
    Quoting.outside.after bytes = .outside := by
  obtain ⟨front, last, rfl, closing⟩ := element.closes
  have outside : Quoting.outside.after front = .outside := by
    by_contra within
    obtain ⟨opened, closed⟩ := counts_concat_within within last
    have balanced := element.balanced
    have nonempty : front ≠ [] := by
      rintro rfl
      exact within rfl
    have fewer := element.first front (List.prefix_append _ _) nonempty (by simp)
    omega
  rw [Quoting.after_append, outside]
  exact if_neg (ne_quotationMark_of_isClosing closing)

/-! ## Slices of an input -/

/-- Of bytes that follow in a certain place, the elements are slices, in order and none overlapping
another one, each of which begins outside of texts. -/
inductive Slices : Quoting → Bytes → List Bytes → Prop where
  | none (quoting : Quoting) (rest : Bytes) : Slices quoting rest []
  | next {quoting : Quoting} {gap element rest : Bytes} {elements : List Bytes}
      (outside : quoting.after gap = .outside) (isElement : IsElement element)
      (further : Slices .outside rest elements) :
      Slices quoting (gap ++ (element ++ rest)) (element :: elements)

namespace Slices

variable {quoting : Quoting} {bytes : Bytes} {elements : List Bytes}

theorem append (slices : Slices quoting bytes elements) (more : Bytes) :
    Slices quoting (bytes ++ more) elements := by
  induction slices with
  | none quoting rest => exact .none quoting (rest ++ more)
  | next outside isElement _ ih =>
      rw [List.append_assoc, List.append_assoc]
      exact .next outside isElement ih

theorem concat (slices : Slices quoting bytes elements) (outside : quoting.after bytes = .outside)
    {element : Bytes} (isElement : IsElement element) :
    Slices quoting (bytes ++ element) (elements ++ [element]) := by
  induction slices with
  | none quoting rest =>
      have last : Slices .outside [] [] := .none .outside []
      have slice := Slices.next outside isElement last
      rwa [List.append_nil] at slice
  | next gapOutside isFirst _ ih =>
      rw [Quoting.after_append, gapOutside, Quoting.after_append, isFirst.after_eq] at outside
      rw [List.append_assoc, List.append_assoc]
      exact .next gapOutside isFirst (ih outside)

end Slices

/-! ## What the scanner keeps -/

namespace Scanner

/-- A list of results is two brackets deep, and what is kept of an element is kept in such a list,
at least one bracket deeper. -/
structure Consistent (scanner : Scanner) : Prop where
  listed : scanner.inObjects = true → 2 ≤ scanner.depth
  captured : scanner.element ≠ [] → scanner.inObjects = true ∧ 3 ≤ scanner.depth

/-- Where the scanner is in its input: between elements, or within an element of which it keeps all
that has come. -/
inductive Tracks (input : Bytes) (elements : List Bytes) (scanner : Scanner) : Prop where
  | between (empty : scanner.element = []) (listed : scanner.inObjects = true → scanner.depth = 2)
      (slices : Slices .outside input elements)
  | within {front : Bytes} {level : Nat} (listed : scanner.inObjects = true)
      (depth : scanner.depth = level + 2) (unclosed : Unclosed scanner.element.reverse level)
      (whole : front ++ scanner.element.reverse = input)
      (outside : Quoting.outside.after front = .outside) (slices : Slices .outside front elements)

section Step

variable {scanner : Scanner} {byte : UInt8}

/-- A byte of a text, and one that is no bracket, is kept if an element is kept. -/
theorem step_of_not_bracket
    (plain : scanner.inText = false → isOpening byte = false ∧ isClosing byte = false) :
    (scanner.step byte).2 = none ∧ (scanner.step byte).1.depth = scanner.depth ∧
      (scanner.step byte).1.inObjects = scanner.inObjects ∧
      (scanner.step byte).1.element = (scanner.passed [byte]).element := by
  cases inText : scanner.inText with
  | true =>
      rw [step, if_pos inText, stepInText_eq]
      dsimp only
      repeat' split
      all_goals exact ⟨rfl, rfl, rfl, rfl⟩
  | false =>
      obtain ⟨notOpening, notClosing⟩ := plain inText
      simp only [step, inText, notOpening, notClosing, Bool.false_eq_true, if_false]
      by_cases mark : byte = quotationMark
      · subst mark
        cases capturing : scanner.isCapturing <;>
          simp [openText, passed, capture, capturing]
        split <;> simp
      · simp only [mark, if_false]
        cases capturing : scanner.isCapturing <;> simp [passed, capture, capturing]

theorem step_opening (outside : scanner.inText = false) (opening : isOpening byte = true) :
    scanner.step byte = (scanner.openBracket byte, none) := by
  rw [step, if_neg (by simp [outside]), if_neg (ne_quotationMark_of_isOpening opening),
    if_pos opening]

theorem step_closingBracket (outside : scanner.inText = false) (closing : isClosing byte = true) :
    scanner.step byte = scanner.closeBracket byte := by
  rw [step, if_neg (by simp [outside]), if_neg (ne_quotationMark_of_isClosing closing),
    if_neg (by simp [isOpening_of_isClosing closing]), if_pos closing]

end Step

namespace Tracks

theorem after_eq_of_append {front kept input : Bytes} (whole : front ++ kept = input)
    (outside : Quoting.outside.after front = .outside) :
    Quoting.outside.after kept = Quoting.outside.after input := by
  rw [← whole, Quoting.after_append, outside]

variable {input : Bytes} {elements : List Bytes} {scanner : Scanner} {byte : UInt8}

theorem slices_input (tracks : Tracks input elements scanner) : Slices .outside input elements := by
  cases tracks with
  | between empty listed slices => exact slices
  | within listed depth unclosed whole outside slices => exact whole ▸ slices.append _

theorem consistent (tracks : Tracks input elements scanner) : scanner.Consistent := by
  cases tracks with
  | between empty listed slices =>
      exact ⟨fun inside => Nat.le_of_eq (listed inside).symm, fun kept => absurd empty kept⟩
  | within listed depth unclosed whole outside slices =>
      have positive := unclosed.level_pos
      exact ⟨fun _ => by omega, fun _ => ⟨listed, by omega⟩⟩

variable (tracks : Tracks input elements scanner)
  (placed : scanner.inText = decide (Quoting.outside.after input ≠ .outside))

include tracks placed

theorem plain (plain : scanner.inText = false → isOpening byte = false ∧ isClosing byte = false) :
    Tracks (input ++ [byte]) (elements ++ (scanner.step byte).2.toList) (scanner.step byte).1 := by
  obtain ⟨silent, depth_eq, inObjects_eq, element_eq⟩ := step_of_not_bracket plain
  rw [silent, Option.toList_none, List.append_nil]
  cases tracks with
  | between empty listed slices =>
      have idle : scanner.isCapturing = false := by
        rw [isCapturing, Bool.and_eq_false_imp]
        intro inside
        simp [listed inside]
      refine .between ?_ (by rwa [inObjects_eq, depth_eq]) (slices.append [byte])
      rw [element_eq, passed, idle, empty]
      rfl
  | @within front level listed depth unclosed whole outside slices =>
      have positive := unclosed.level_pos
      have capturing : scanner.isCapturing = true := by
        rw [isCapturing, listed, depth, Bool.true_and, decide_eq_true_eq]
        omega
      have kept : (scanner.step byte).1.element.reverse = scanner.element.reverse ++ [byte] := by
        rw [element_eq, passed, if_pos capturing]
        simp
      have quoting := after_eq_of_append whole outside
      have level_eq : openings (scanner.element.reverse ++ [byte]) =
          closings (scanner.element.reverse ++ [byte]) + level := by
        by_cases between : Quoting.outside.after input = .outside
        · obtain ⟨notOpening, notClosing⟩ := plain (by simp [placed, between])
          rw [openings_concat (quoting.trans between), closings_concat (quoting.trans between),
            notOpening, notClosing]
          exact unclosed.level_eq
        · obtain ⟨opened, closed⟩ := counts_concat_within (quoting ▸ between) byte
          rw [opened, closed, unclosed.level_eq]
      refine .within (inObjects_eq.trans listed) (depth_eq.trans depth) ?_ ?_ outside slices
      · rw [kept]
        exact unclosed.concat level_eq positive
      · rw [kept, ← List.append_assoc, whole]

theorem opening (between : Quoting.outside.after input = .outside)
    (opening : isOpening byte = true) :
    Tracks (input ++ [byte]) (elements ++ (scanner.step byte).2.toList) (scanner.step byte).1 := by
  rw [step_opening (by simp [placed, between]) opening, Option.toList_none, List.append_nil]
  cases tracks with
  | between empty listed slices =>
      by_cases inside : scanner.inObjects = true
      · have depth := listed inside
        refine @within _ _ _ input 1 ?_ ?_ ?_ ?_ between slices
        · simp [openBracket, inside]
        · simp [openBracket, depth]
        · simpa [openBracket, inside, depth, empty] using Unclosed.single opening
        · simp [openBracket, inside, depth, empty]
      · refine .between ?_ ?_ (slices.append [byte])
        · simp [openBracket, inside, empty]
        · intro begun
          have direct : scanner.depth = 1 := by
            simp [openBracket, inside] at begun
            exact begun.1.2
          simp [openBracket, direct]
  | @within front level listed depth unclosed whole outside slices =>
      have kept :
          (scanner.openBracket byte).element.reverse = scanner.element.reverse ++ [byte] := by
        simp [openBracket, listed, depth]
      have quoting := (after_eq_of_append whole outside).trans between
      refine @within _ _ _ front (level + 1) ?_ ?_ ?_ ?_ outside slices
      · simp [openBracket, listed]
      · simp [openBracket, depth]
      · rw [kept]
        refine unclosed.concat ?_ (Nat.succ_pos level)
        rw [openings_concat quoting, closings_concat quoting, opening,
          isClosing_of_isOpening opening, unclosed.level_eq]
        rfl
      · rw [kept, ← List.append_assoc, whole]

theorem closing (between : Quoting.outside.after input = .outside)
    (closing : isClosing byte = true) :
    Tracks (input ++ [byte]) (elements ++ (scanner.step byte).2.toList) (scanner.step byte).1 := by
  rw [step_closingBracket (by simp [placed, between]) closing]
  cases tracks with
  | between empty listed slices =>
      have silent : (scanner.closeBracket byte).2 = none ∧
          (scanner.closeBracket byte).1.inObjects = false ∧
          (scanner.closeBracket byte).1.element = [] := by
        by_cases inside : scanner.inObjects = true
        · simp [closeBracket, inside, listed inside, empty]
        · simp [closeBracket, inside, empty]
      obtain ⟨none, ended, nothing⟩ := silent
      rw [none, Option.toList_none, List.append_nil]
      exact .between nothing (fun inside => by simp [ended] at inside) (slices.append [byte])
  | @within front level listed depth unclosed whole outside slices =>
      have quoting := (after_eq_of_append whole outside).trans between
      by_cases last : level = 1
      · subst last
        have completed : scanner.closeBracket byte =
            ({ scanner with depth := 2, element := [] },
              some (scanner.element.reverse ++ [byte])) := by
          simp [closeBracket, listed, depth]
        rw [completed, Option.toList_some, ← whole, List.append_assoc]
        exact .between rfl (fun _ => rfl)
          (slices.concat outside (unclosed.isElement closing quoting))
      · have positive := unclosed.level_pos
        obtain ⟨lower, rfl⟩ : ∃ lower, level = lower + 2 := ⟨level - 2, by omega⟩
        have going : scanner.closeBracket byte =
            ({ scanner with depth := lower + 3, element := byte :: scanner.element }, none) := by
          simp [closeBracket, listed, depth, capture]
        have kept : (byte :: scanner.element).reverse = scanner.element.reverse ++ [byte] :=
          List.reverse_cons
        rw [going, Option.toList_none, List.append_nil]
        refine @within _ _ _ front (lower + 1) listed rfl ?_ ?_ outside slices
        · rw [kept]
          refine unclosed.concat ?_ (Nat.succ_pos lower)
          rw [openings_concat quoting, closings_concat quoting, isOpening_of_isClosing closing,
            closing, unclosed.level_eq]
          simp only [if_true, Bool.false_eq_true, if_false]
          omega
        · rw [kept, ← List.append_assoc, whole]

end Tracks

theorem feed_concat (scanner : Scanner) (bytes : Bytes) (byte : UInt8) :
    scanner.feed (bytes ++ [byte]) =
      (((scanner.feed bytes).1.step byte).1,
        (scanner.feed bytes).2 ++ ((scanner.feed bytes).1.step byte).2.toList) :=
  ((scanner.reads_feed bytes).append (Reads.single rfl)).feed_eq

theorem inText_feed (input : Bytes) :
    (start.feed input).1.inText = decide (Quoting.outside.after input ≠ .outside) := by
  have position := position_feed start input
  rw [show start.position = .ofQuoting 0 .outside from rfl, Position.after_ofQuoting] at position
  exact congrArg Position.inText position

/-- Whatever the input is, the scanner tracks it. -/
theorem tracks_feed (input : Bytes) :
    Tracks input (start.feed input).2 (start.feed input).1 := by
  induction input using List.reverseRecOn with
  | nil => exact .between rfl nofun (.none .outside [])
  | append_singleton input byte ih =>
      have placed := inText_feed input
      rw [feed_concat]
      by_cases between : Quoting.outside.after input = .outside
      · by_cases opening : isOpening byte = true
        · exact ih.opening placed between opening
        · by_cases closing : isClosing byte = true
          · exact ih.closing placed between closing
          · exact ih.plain placed fun _ => ⟨by simpa using opening, by simpa using closing⟩
      · exact ih.plain placed fun outside => by simp [placed, between] at outside

end Scanner

/-- After any chunks and any first bytes of a next one, the scanner is consistent, and the elements
that it has given are slices of what it was fed: in order, none overlapping another one, and each
with a bracket first that only its last byte closes. -/
theorem Scanner.feedChunks_slices (chunks : List Bytes) (front : Bytes) :
    let before := start.feedChunks chunks
    let now := before.1.feed front
    now.1.Consistent ∧ Slices .outside (chunks.flatten ++ front) (before.2 ++ now.2) := by
  intro before now
  have fed : start.feed (chunks.flatten ++ front) = (now.1, before.2 ++ now.2) := by
    have reads := (start.reads_feed chunks.flatten).append (reads_feed _ front)
    rw [← feedChunks_eq] at reads
    exact reads.feed_eq
  have tracks := tracks_feed (chunks.flatten ++ front)
  rw [fed] at tracks
  exact ⟨tracks.consistent, tracks.slices_input⟩

end PackageSearch.Uplink

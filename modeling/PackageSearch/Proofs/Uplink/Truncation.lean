import PackageSearch.Proofs.Uplink.Batches
import PackageSearch.Proofs.Uplink.Objects

/-!
# Bodies that are cut off

Whether a body is complete depends on how many brackets are open and on whether a text is. In a
document both return to the start only behind the closing brace of the root, wherever the brackets
and quotation marks inside of texts stand, so a body that lacks this brace is never taken for whole.
-/

set_option autoImplicit false

namespace PackageSearch.Uplink

open Json.Syntax
open Package (Listing)
open Scanner (quotationMark reverseSolidus isOpening isClosing isIdle)

/-! ## Positions -/

/-- Of the scanner's state, what decides whether the body may end. -/
structure Position where
  depth : Nat
  inText : Bool
  escaped : Bool

namespace Position

def outside (depth : Nat) : Position := ⟨depth, false, false⟩

def step (position : Position) (byte : UInt8) : Position :=
  if position.inText then
    if position.escaped then { position with escaped := false }
    else if byte = reverseSolidus then { position with escaped := true }
    else if byte = quotationMark then { position with inText := false }
    else position
  else if byte = quotationMark then { position with inText := true }
  else if isOpening byte then { position with depth := position.depth + 1 }
  else if isClosing byte then { position with depth := position.depth - 1 }
  else position

def after (position : Position) (bytes : Bytes) : Position :=
  bytes.foldl step position

theorem after_append (position : Position) (left right : Bytes) :
    position.after (left ++ right) = (position.after left).after right :=
  List.foldl_append

end Position

namespace Scanner

def position (scanner : Scanner) : Position :=
  ⟨scanner.depth, scanner.inText, scanner.escaped⟩

theorem position_stepInText (scanner : Scanner) (byte : UInt8) :
    (scanner.stepInText byte).position =
      if scanner.escaped then { scanner.position with escaped := false }
      else if byte = reverseSolidus then { scanner.position with escaped := true }
      else if byte = quotationMark then { scanner.position with inText := false }
      else scanner.position := by
  have kept : (scanner.kept [byte]).position = scanner.position := rfl
  have escaped : (scanner.kept [byte]).escaped = scanner.escaped := rfl
  simp only [stepInText_eq, escaped, ← kept]
  repeat' split
  all_goals rfl

theorem position_openText (scanner : Scanner) :
    scanner.openText.position = { scanner.position with inText := true } := by
  unfold openText
  dsimp only
  repeat' split
  all_goals rfl

theorem position_closeBracket (scanner : Scanner) (byte : UInt8) :
    (scanner.closeBracket byte).1.position =
      { scanner.position with depth := scanner.depth - 1 } := by
  unfold closeBracket
  dsimp only
  repeat' split
  all_goals rfl

theorem position_step (scanner : Scanner) (byte : UInt8) :
    (scanner.step byte).1.position = scanner.position.step byte := by
  have inText : scanner.position.inText = scanner.inText := rfl
  have escaped : scanner.position.escaped = scanner.escaped := rfl
  simp only [step, Position.step, inText, escaped, apply_ite Prod.fst, apply_ite position]
  congr 1
  · exact position_stepInText scanner byte
  · congr 1
    · exact position_openText scanner
    · congr 1
      congr 1
      · exact position_closeBracket scanner byte
      · exact ite_self _

theorem position_feed (scanner : Scanner) (bytes : Bytes) :
    (scanner.feed bytes).1.position = scanner.position.after bytes := by
  induction bytes generalizing scanner with
  | nil => rfl
  | cons byte rest ih =>
      have whole : scanner.Reads (byte :: rest) _ _ :=
        (Reads.single rfl).append ((scanner.step byte).1.reads_feed rest)
      rw [whole.feed_eq, ih, position_step]
      rfl

end Scanner

/-! ## What closes all that it opens -/

namespace Position

/-- The bytes lead back to a position, and on the way nothing is closed that was open there. -/
structure Returns (position : Position) (bytes : Bytes) : Prop where
  back : position.after bytes = position
  above : ∀ front, front <+: bytes → position.depth ≤ (position.after front).depth

namespace Returns

variable {outer inner : Position} {bytes left right : Bytes}

theorem nil (position : Position) : position.Returns [] := by
  constructor
  · rfl
  · intro front initial
    rw [List.prefix_nil.1 initial]
    exact Nat.le_refl _

theorem append (first : outer.Returns left) (second : outer.Returns right) :
    outer.Returns (left ++ right) := by
  constructor
  · rw [after_append, first.back, second.back]
  · -- A front ends within the first part, or has all of it and a front of the second.
    rintro front ⟨lost, same⟩
    rcases List.append_eq_append_iff.1 same with ⟨between, whole, -⟩ | ⟨beyond, rfl, whole⟩
    · exact first.above front ⟨between, whole.symm⟩
    · rw [after_append, first.back]
      exact second.above beyond ⟨lost, whole.symm⟩

theorem single {byte : UInt8} (stays : outer.step byte = outer) : outer.Returns [byte] := by
  constructor
  · exact stays
  · intro front initial
    rcases List.prefix_cons_iff.1 initial with rfl | ⟨rest, rfl, within⟩
    · exact Nat.le_refl _
    · rw [List.prefix_nil.1 within]
      exact Nat.le_of_eq (congrArg depth stays.symm)

theorem of_forall (stays : ∀ byte ∈ bytes, outer.step byte = outer) : outer.Returns bytes := by
  induction bytes with
  | nil => exact .nil outer
  | cons byte rest ih =>
      have first := single (stays byte List.mem_cons_self)
      exact first.append (ih fun other member => stays other (List.mem_cons_of_mem _ member))

theorem enclosed {opening closing : UInt8} (opens : outer.step opening = inner)
    (deeper : outer.depth ≤ inner.depth) (inside : inner.Returns bytes)
    (closes : inner.step closing = outer) : outer.Returns (opening :: (bytes ++ [closing])) := by
  have behind (front : Bytes) : outer.after (opening :: front) = inner.after front := by
    rw [← opens]
    rfl
  have whole : outer.after (opening :: (bytes ++ [closing])) = outer := by
    rw [behind, after_append, inside.back]
    exact closes
  constructor
  · exact whole
  · intro front initial
    rcases List.prefix_cons_iff.1 initial with rfl | ⟨rest, rfl, inner⟩
    · exact Nat.le_refl _
    · rcases List.prefix_concat_iff.1 inner with rfl | within
      · exact Nat.le_of_eq (congrArg depth whole.symm)
      · rw [behind]
        exact Nat.le_trans deeper (inside.above rest within)

end Returns

theorem returns_idle (depth : Nat) {bytes : Bytes} (idle : ∀ byte ∈ bytes, isIdle byte = true) :
    (outside depth).Returns bytes := by
  refine .of_forall fun byte member => ?_
  obtain ⟨unquoted, unopened, unclosed⟩ := Scanner.isIdle_iff.1 (idle byte member)
  simp [step, outside, unquoted, unopened, unclosed]

theorem returns_part (depth : Nat) (part : Part) : Returns ⟨depth, true, false⟩ part.source := by
  have plain {byte : UInt8} (unmarked : byte ≠ quotationMark ∧ byte ≠ reverseSolidus) :
      step ⟨depth, true, false⟩ byte = ⟨depth, true, false⟩ := by
    simp [step, unmarked]
  have escape (letter : UInt8) : Returns ⟨depth, true, false⟩ [reverseSolidus, letter] := by
    have opens : step ⟨depth, true, false⟩ reverseSolidus = ⟨depth, true, true⟩ := rfl
    exact .enclosed opens (Nat.le_refl depth) (.nil _) rfl
  cases part with
  | plain byte known =>
      simp only [isPlain, Bool.and_eq_true, decide_eq_true_eq] at known
      exact .single (plain ⟨known.1.2, known.2⟩)
  | escape letter _ => exact escape letter
  | unit first second third fourth =>
      have digits : Returns ⟨depth, true, false⟩
          [first.letter, second.letter, third.letter, fourth.letter] := by
        refine .of_forall ?_
        simp only [List.forall_mem_cons]
        exact ⟨plain (Scanner.isPlain_hexDigit first), plain (Scanner.isPlain_hexDigit second),
          plain (Scanner.isPlain_hexDigit third), plain (Scanner.isPlain_hexDigit fourth),
          List.forall_mem_nil _⟩
      exact (escape 0x75).append digits

theorem returns_quoted (depth : Nat) (parts : List Part) :
    (outside depth).Returns (quoted parts) := by
  have inside : Returns ⟨depth, true, false⟩ (spelling parts) := by
    induction parts with
    | nil => exact .nil _
    | cons part rest ih => exact (returns_part depth part).append ih
  exact .enclosed rfl (Nat.le_refl depth) inside rfl

theorem returns_brackets (depth : Nat) {inside : Bytes} {opening closing : UInt8}
    (opens : (outside depth).step opening = outside (depth + 1))
    (returns : (outside (depth + 1)).Returns inside)
    (closes : (outside (depth + 1)).step closing = outside depth) :
    (outside depth).Returns (opening :: (inside ++ [closing])) :=
  .enclosed opens (Nat.le_succ depth) returns closes

theorem returns_composes :
    Scanner.Composes fun bytes => ∀ depth, (outside depth).Returns bytes where
  idle idle depth := returns_idle depth idle
  quoted parts depth := returns_quoted depth parts
  append first second depth := (first depth).append (second depth)
  list inside depth := returns_brackets depth rfl (inside (depth + 1)) rfl
  record inside depth := returns_brackets depth rfl (inside (depth + 1)) rfl

end Position

/-! ## Bodies without their last brace -/

namespace Scanner

variable {document : Document} {front lost : Bytes}

theorem isComplete_eq_false_of_cut
    (cut : front ++ (lost ++ 0x7d :: document.after.source) = document.source) :
    (start.feed front).1.isComplete = false := by
  let inside := document.blanks.source ++ document.members.source []
  have unclosed : front ++ lost = document.before.source ++ 0x7b :: inside := by
    refine (List.append_left_inj (0x7d :: document.after.source)).1 ?_
    simpa [Document.source, Node.source, inside] using cut
  have blanks := isIdle_of_mem_blanks document.before
  have unopened {bytes : Bytes} (blank : ∀ byte ∈ bytes, isIdle byte = true) :
      (start.feed bytes).1.isComplete = false := by
    rw [(reads_idle start rfl blank).feed_eq]
    rfl
  -- The cut is among the blanks before the root, or else the front holds the opening brace.
  rcases List.append_eq_append_iff.1 unclosed with ⟨rest, whole, -⟩ | ⟨rest, rfl, opened⟩
  · refine unopened fun byte member => blanks byte ?_
    rw [whole]
    exact List.mem_append_left rest member
  · cases rest with
    | nil =>
        rw [List.append_nil]
        exact unopened blanks
    | cons byte rest =>
        obtain ⟨rfl, whole⟩ := List.cons.inj opened
        have within : rest <+: inside := ⟨lost, whole.symm⟩
        have returns : (Position.outside 1).Returns inside :=
          Position.returns_composes.inside_record document.blanks document.members 1
        have reached : (start.feed (document.before.source ++ 0x7b :: rest)).1.position =
            (Position.outside 1).after rest := by
          have before : start.position.after document.before.source = Position.outside 0 :=
            (Position.returns_idle 0 blanks).back
          rw [position_feed, Position.after_append, before]
          rfl
        have above := returns.above rest within
        rw [← reached] at above
        have deep : (start.feed (document.before.source ++ 0x7b :: rest)).1.depth ≠ 0 :=
          Nat.one_le_iff_ne_zero.1 above
        simp [isComplete, deep]

end Scanner

/-- A body that is cut off before the closing brace of its root fails to decode, wherever the cut is
and whatever the chunks are. What the scanner has found by then is what it finds first in the whole
document. -/
theorem streams_truncated {document : Document} {chunks : List Bytes} {lost : Bytes}
    (cut : chunks.flatten ++ (lost ++ 0x7d :: document.after.source) = document.source)
    (maxBatch : Nat) :
    (∃ (batches : List (List Listing)) (place : DecodePlace), ∀ items,
      (BodyBatches.start maxBatch (bodyOf chunks false)).Streams items ↔
        items = batches.map .ok ++ [.error (.decode place)]) ∧
      ∀ whole : List Bytes, whole.flatten = document.source →
        (Scanner.start.feedChunks chunks).2 <+: (Scanner.start.feedChunks whole).2 := by
  constructor
  · have incomplete := Scanner.isComplete_eq_false_of_cut cut
    rw [← Scanner.feedChunks_eq] at incomplete
    have failed : (deliver maxBatch (bodyOf chunks false)).failure ≠ none := by
      intro clean
      obtain ⟨-, complete, -⟩ := deliverFrom_failure_eq_none.1 clean
      rw [incomplete] at complete
      cases complete
    obtain ⟨place, failure⟩ := deliverFrom_failure_eq_decode failed
    have failure : (deliver maxBatch (bodyOf chunks false)).failure = some (.decode place) :=
      failure
    refine ⟨(deliver maxBatch (bodyOf chunks false)).batches, place, fun items => ?_⟩
    rw [BodyBatches.streams_iff, Delivery.stream, failure]
    rfl
  · intro whole same
    have reads := (Scanner.start.reads_feed chunks.flatten).append
      (Scanner.reads_feed _ (lost ++ 0x7d :: document.after.source))
    rw [Scanner.feedChunks_eq, Scanner.feedChunks_eq, same, ← cut, reads.feed_eq]
    exact List.prefix_append _ _

/-- The body `{"objects" :[["]\""],null,{"o`, in chunks of one byte. -/
theorem streams_truncated_sampleDocument :
    let source := Scanner.sampleDocument.source
    let chunks := (source.take 29).map fun byte => [byte]
    let lost := (source.drop 29).take 14
    chunks.flatten ++ (lost ++ 0x7d :: Scanner.sampleDocument.after.source) = source ∧
      (∃ (batches : List (List Listing)) (place : DecodePlace), ∀ items,
        (BodyBatches.start 2 (bodyOf chunks false)).Streams items ↔
          items = batches.map .ok ++ [.error (.decode place)]) ∧
      (Scanner.start.feedChunks chunks).2 = ["[\"]\\\"\"]".toUTF8.toList] ∧
      (Scanner.start.feedChunks chunks).2 <+: (Scanner.start.feedChunks [source]).2 := by
  intro source chunks lost
  have cut : chunks.flatten ++ (lost ++ 0x7d :: Scanner.sampleDocument.after.source) = source := by
    decide +kernel
  obtain ⟨fails, first⟩ := streams_truncated cut 2
  refine ⟨cut, fails, ?_, first [source] (List.append_nil source)⟩
  decide +kernel

end PackageSearch.Uplink

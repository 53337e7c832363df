import PackageSearch.Proofs.Json.Syntax
import PackageSearch.Proofs.Uplink.Feed

/-!
# What the scanner finds in a document

The scanner counts brackets and does not parse. In a document it still finds exactly the lists and
records that stand in a list under the key `objects` of the root.
-/

set_option autoImplicit false

namespace PackageSearch.Uplink.Scanner

open Json (isSpace isDigitByte hexValue? escapeByte?)
open Json.Syntax

/-! ## Bytes outside of texts -/

def marks : Bytes := [quotationMark, 0x7b, 0x5b, 0x7d, 0x5d]

def isIdle (byte : UInt8) : Bool := ! marks.contains byte

theorem isIdle_iff {byte : UInt8} :
    isIdle byte = true ↔
      byte ≠ quotationMark ∧ isOpening byte = false ∧ isClosing byte = false := by
  simp only [isIdle, marks, isOpening, isClosing, List.contains_cons, List.contains_nil,
    Bool.or_false, Bool.not_eq_true', Bool.or_eq_false_iff, beq_eq_false_iff_ne,
    decide_eq_false_iff_not, and_assoc]

theorem isIdle_of (holds : UInt8 → Bool) (unmarked : marks.all (fun mark => ! holds mark) = true)
    {byte : UInt8} (known : holds byte = true) : isIdle byte = true := by
  cases idle : isIdle byte with
  | true => rfl
  | false =>
      have marked : byte ∈ marks := by simpa [isIdle] using idle
      have unknown := List.all_eq_true.1 unmarked byte marked
      rw [known] at unknown
      cases unknown

/-- Bytes are captured if they belong to an element, and skipped if not. -/
def passed (scanner : Scanner) (bytes : Bytes) : Scanner :=
  { scanner with
    element := if scanner.isCapturing then bytes.reverse ++ scanner.element else scanner.element }

theorem passed_nil (scanner : Scanner) : scanner.passed [] = scanner := by
  unfold passed
  split <;> rfl

theorem passed_append (scanner : Scanner) (bytes others : Bytes) :
    scanner.passed (bytes ++ others) = (scanner.passed bytes).passed others := by
  cases capturing : scanner.isCapturing <;> simp_all [passed, isCapturing]

theorem passed_singleton (scanner : Scanner) (byte : UInt8) :
    scanner.passed [byte] = if scanner.isCapturing then scanner.capture byte else scanner := by
  unfold passed
  split <;> rfl

theorem step_idle {scanner : Scanner} {byte : UInt8} (between : scanner.inText = false)
    (idle : isIdle byte = true) : scanner.step byte = (scanner.passed [byte], none) := by
  obtain ⟨unquoted, unopened, unclosed⟩ := isIdle_iff.1 idle
  rw [passed_singleton]
  cases capturing : scanner.isCapturing <;>
    simp [step, between, unquoted, unopened, unclosed, capturing]

theorem reads_idle (scanner : Scanner) {bytes : Bytes} (between : scanner.inText = false)
    (idle : ∀ byte ∈ bytes, isIdle byte = true) :
    scanner.Reads bytes (scanner.passed bytes) [] := by
  induction bytes generalizing scanner with
  | nil =>
      rw [passed_nil]
      exact .nil scanner
  | cons byte rest ih =>
      have behind := ih (scanner.passed [byte]) between
        fun other member => idle other (List.mem_cons_of_mem _ member)
      rw [← passed_append] at behind
      exact .cons (step_idle between (idle byte List.mem_cons_self)) behind

theorem isIdle_of_mem {bytes : Bytes} (idle : bytes.all isIdle = true) :
    ∀ byte ∈ bytes, isIdle byte = true :=
  List.all_eq_true.1 idle

theorem isIdle_of_mem_comma : ∀ byte ∈ ([0x2c] : Bytes), isIdle byte = true :=
  isIdle_of_mem rfl

theorem isIdle_of_mem_colon : ∀ byte ∈ ([0x3a] : Bytes), isIdle byte = true :=
  isIdle_of_mem rfl

theorem isIdle_of_mem_blanks (blanks : Blanks) : ∀ byte ∈ blanks.source, isIdle byte = true :=
  fun byte member => isIdle_of isSpace rfl (List.all_eq_true.1 blanks.blank byte member)

theorem isIdle_of_mem_digits (digits : Digits) : ∀ byte ∈ digits.source, isIdle byte = true :=
  fun byte member => isIdle_of isDigitByte rfl (List.all_eq_true.1 digits.digits byte member)

theorem isIdle_of_mem_exponent (exponent : Exponent) :
    ∀ byte ∈ exponent.source, isIdle byte = true := by
  obtain ⟨capital, sign, digits⟩ := exponent
  simp only [Exponent.source, List.forall_mem_cons, List.forall_mem_append]
  refine ⟨?_, ?_, isIdle_of_mem_digits digits⟩
  · cases capital <;> rfl
  · rcases sign with _ | negative
    · nofun
    · cases negative <;> exact List.forall_mem_singleton.2 rfl

theorem isIdle_of_mem_number (number : NumberText) :
    ∀ byte ∈ number.source, isIdle byte = true := by
  obtain ⟨negative, whole, -, fraction, exponent⟩ := number
  simp only [NumberText.source, List.forall_mem_append]
  refine ⟨⟨⟨?_, isIdle_of_mem_digits whole⟩, ?_⟩, ?_⟩
  · cases negative
    · nofun
    · exact List.forall_mem_singleton.2 rfl
  · cases fraction with
    | none => nofun
    | some digits =>
        exact List.forall_mem_cons.2 ⟨by decide, isIdle_of_mem_digits digits⟩
  · cases exponent with
    | none => nofun
    | some exponent => exact isIdle_of_mem_exponent exponent

/-! ## Values from their parts -/

/-- A property of texts of values that comes from their parts: bytes outside of texts, quoted texts,
sequences, and what stands in brackets. -/
structure Composes (holds : Bytes → Prop) : Prop where
  idle {bytes : Bytes} : (∀ byte ∈ bytes, isIdle byte = true) → holds bytes
  quoted (parts : List Part) : holds (quoted parts)
  append {left right : Bytes} : holds left → holds right → holds (left ++ right)
  list {inside : Bytes} : holds inside → holds (0x5b :: (inside ++ [0x5d]))
  record {inside : Bytes} : holds inside → holds (0x7b :: (inside ++ [0x7d]))

namespace Composes

variable {holds : Bytes → Prop}

theorem blanks (composes : Composes holds) (blanks : Blanks) : holds blanks.source :=
  composes.idle (isIdle_of_mem_blanks blanks)

mutual

theorem node (composes : Composes holds) (node : Node) : holds node.source := by
  cases node with
  | null => exact composes.idle (isIdle_of_mem rfl)
  | boolean value => cases value <;> exact composes.idle (isIdle_of_mem rfl)
  | number number => exact composes.idle (isIdle_of_mem_number number)
  | text parts => exact composes.quoted parts
  | list blanks items =>
      have inside := composes.items items (List.forall_mem_nil _)
      exact composes.list (composes.append (composes.blanks blanks) inside)
  | record blanks members =>
      have inside := composes.members members (List.forall_mem_nil _)
      exact composes.record (composes.append (composes.blanks blanks) inside)

theorem items (composes : Composes holds) (items : Items) {separator : Bytes}
    (idle : ∀ byte ∈ separator, isIdle byte = true) : holds (items.source separator) := by
  cases items with
  | nil => exact composes.idle (List.forall_mem_nil _)
  | cons before item after rest =>
      have front := composes.append (composes.idle idle) (composes.blanks before)
      have whole := composes.append (composes.append front (composes.node item))
        (composes.blanks after)
      exact composes.append whole (composes.items rest isIdle_of_mem_comma)

theorem members (composes : Composes holds) (members : Members) {separator : Bytes}
    (idle : ∀ byte ∈ separator, isIdle byte = true) : holds (members.source separator) := by
  cases members with
  | nil => exact composes.idle (List.forall_mem_nil _)
  | cons before key afterKey beforeValue value after rest =>
      have front := composes.append (composes.idle idle) (composes.blanks before)
      have named := composes.append (composes.append front (composes.quoted key))
        (composes.blanks afterKey)
      have separated := composes.append (composes.append named (composes.idle isIdle_of_mem_colon))
        (composes.blanks beforeValue)
      have valued := composes.append (composes.append separated (composes.node value))
        (composes.blanks after)
      exact composes.append valued (composes.members rest isIdle_of_mem_comma)

end

theorem inside_list (composes : Composes holds) (blanks : Blanks) (items : Items) :
    holds (blanks.source ++ items.source []) :=
  composes.append (composes.blanks blanks) (composes.items items (List.forall_mem_nil _))

theorem inside_record (composes : Composes holds) (blanks : Blanks) (members : Members) :
    holds (blanks.source ++ members.source []) :=
  composes.append (composes.blanks blanks) (composes.members members (List.forall_mem_nil _))

end Composes

/-! ## Texts -/

/-- Bytes of a text that begins directly in the root are kept as its key. -/
def kept (scanner : Scanner) (bytes : Bytes) : Scanner :=
  { scanner.passed bytes with
    key := if scanner.depth = 1 then bytes.reverse ++ scanner.key else scanner.key }

theorem kept_nil (scanner : Scanner) : scanner.kept [] = scanner := by
  simp [kept, passed_nil]

theorem kept_append (scanner : Scanner) (bytes others : Bytes) :
    scanner.kept (bytes ++ others) = (scanner.kept bytes).kept others := by
  by_cases direct : scanner.depth = 1
  · simp [kept, passed, isCapturing, direct]
  · cases capturing : scanner.isCapturing <;> simp_all [kept, passed, isCapturing]

theorem kept_of_depth_ne (scanner : Scanner) (below : scanner.depth ≠ 1) (bytes : Bytes) :
    scanner.kept bytes = scanner.passed bytes := by
  simp only [kept, below, ↓reduceIte]
  rfl

theorem stepInText_eq (scanner : Scanner) (byte : UInt8) :
    scanner.stepInText byte =
      let kept := scanner.kept [byte]
      if kept.escaped then { kept with escaped := false }
      else if byte = reverseSolidus then { kept with escaped := true }
      else if byte = quotationMark then
        if kept.depth = 1 then
          { kept with inText := false, lastKey := (kept.key.drop 1).reverse, key := [] }
        else { kept with inText := false }
      else kept := by
  have same : (if scanner.isCapturing then scanner.capture byte
      else if scanner.depth = 1 then { scanner with key := byte :: scanner.key }
      else scanner) = scanner.kept [byte] := by
    by_cases direct : scanner.depth = 1
    · simp [kept, passed, isCapturing, direct]
    · cases capturing : scanner.isCapturing <;> simp [kept, passed, capture, capturing, direct]
  rw [stepInText, same]

/-- Within a text, and not behind a reverse solidus. -/
structure IsReading (scanner : Scanner) : Prop where
  inText : scanner.inText = true
  calm : scanner.escaped = false

theorem IsReading.kept {scanner : Scanner} (reading : scanner.IsReading) (bytes : Bytes) :
    (scanner.kept bytes).IsReading :=
  ⟨reading.inText, reading.calm⟩

theorem reads_plain {scanner : Scanner} {bytes : Bytes} (reading : scanner.IsReading)
    (plain : ∀ byte ∈ bytes, byte ≠ quotationMark ∧ byte ≠ reverseSolidus) :
    scanner.Reads bytes (scanner.kept bytes) [] := by
  induction bytes generalizing scanner with
  | nil =>
      rw [kept_nil]
      exact .nil scanner
  | cons byte rest ih =>
      have behind := ih (reading.kept [byte])
        fun other member => plain other (List.mem_cons_of_mem _ member)
      rw [← kept_append] at behind
      refine .cons ?_ behind
      obtain ⟨unquoted, unescaped⟩ := plain byte List.mem_cons_self
      have calm : (scanner.kept [byte]).escaped = false := reading.calm
      simp [step, reading.inText, stepInText_eq, calm, unquoted, unescaped]

theorem reads_escape {scanner : Scanner} (reading : scanner.IsReading) (letter : UInt8) :
    scanner.Reads [reverseSolidus, letter] (scanner.kept [reverseSolidus, letter]) [] := by
  let escaping := { scanner.kept [reverseSolidus] with escaped := true }
  have calm : (scanner.kept [reverseSolidus]).escaped = false := reading.calm
  have first : scanner.step reverseSolidus = (escaping, none) := by
    simp [step, reading.inText, stepInText_eq, calm, escaping]
  have inText : escaping.inText = true := reading.inText
  have escaped : (escaping.kept [letter]).escaped = true := rfl
  have restored : { escaping.kept [letter] with escaped := false } =
      (scanner.kept [reverseSolidus]).kept [letter] := by
    rw [← reading.calm]
    rfl
  have second : escaping.step letter = (scanner.kept [reverseSolidus, letter], none) := by
    have whole := scanner.kept_append [reverseSolidus] [letter]
    rw [List.singleton_append] at whole
    simp only [step, inText, stepInText_eq, escaped, ↓reduceIte, restored, whole]
  exact .cons first (.single second)

theorem isPlain_hexDigit (digit : HexDigit) :
    digit.letter ≠ quotationMark ∧ digit.letter ≠ reverseSolidus := by
  obtain ⟨letter, known⟩ := digit
  constructor <;> rintro rfl <;> cases known

theorem reads_part {scanner : Scanner} (reading : scanner.IsReading) (part : Part) :
    scanner.Reads part.source (scanner.kept part.source) [] := by
  cases part with
  | plain byte known =>
      simp only [isPlain, Bool.and_eq_true, decide_eq_true_eq] at known
      exact reads_plain reading (List.forall_mem_singleton.2 ⟨known.1.2, known.2⟩)
  | escape letter _ => exact reads_escape reading letter
  | unit first second third fourth =>
      have digits : ∀ byte ∈ [first.letter, second.letter, third.letter, fourth.letter],
          byte ≠ quotationMark ∧ byte ≠ reverseSolidus := by
        simp only [List.forall_mem_cons]
        exact ⟨isPlain_hexDigit first, isPlain_hexDigit second, isPlain_hexDigit third,
          isPlain_hexDigit fourth, nofun⟩
      have whole :=
        (reads_escape reading 0x75).append (reads_plain (reading.kept _) digits)
      rw [← kept_append] at whole
      exact whole

theorem reads_spelling {scanner : Scanner} (reading : scanner.IsReading) (parts : List Part) :
    scanner.Reads (spelling parts) (scanner.kept (spelling parts)) [] := by
  induction parts generalizing scanner with
  | nil =>
      rw [spelling, List.flatMap_nil, kept_nil]
      exact .nil scanner
  | cons part rest ih =>
      have whole := (reads_part reading part).append (ih (reading.kept part.source))
      rw [← kept_append] at whole
      exact whole

theorem step_closing {scanner : Scanner} (reading : scanner.IsReading) :
    scanner.step quotationMark =
      (if scanner.depth = 1 then
        { scanner.passed [quotationMark] with
          inText := false, lastKey := scanner.key.reverse, key := [] }
      else { scanner.passed [quotationMark] with inText := false }, none) := by
  have calm : (scanner.kept [quotationMark]).escaped = false := reading.calm
  have different : quotationMark ≠ reverseSolidus := by decide
  simp only [step, reading.inText, ↓reduceIte, stepInText_eq, calm, different, Bool.false_eq_true]
  by_cases direct : scanner.depth = 1
  · simp [kept, passed, direct, reading.calm]
  · simp [kept_of_depth_ne scanner direct, passed, direct, reading.calm]

/-- Outside of texts. -/
structure IsBetween (scanner : Scanner) : Prop where
  outside : scanner.inText = false
  calm : scanner.escaped = false

theorem IsBetween.passed {scanner : Scanner} (between : scanner.IsBetween) (bytes : Bytes) :
    (scanner.passed bytes).IsBetween :=
  ⟨between.outside, between.calm⟩

/-- The quotation marks of a text are treated like its other bytes. -/
theorem reads_quoted {scanner : Scanner} (between : scanner.IsBetween) (below : scanner.depth ≠ 1)
    (parts : List Part) :
    scanner.Reads (quoted parts) (scanner.passed (quoted parts)) [] := by
  let begun := { scanner.passed [quotationMark] with inText := true }
  have opened : scanner.step quotationMark = (begun, none) := by
    cases capturing : scanner.isCapturing <;>
      simp [step, between.outside, openText, capture, capturing, below, begun, passed_singleton]
  have reading : begun.IsReading := ⟨rfl, between.calm⟩
  have inside := reads_spelling reading parts
  have whole := (Reads.cons opened inside).append (.single (step_closing (reading.kept _)))
  have deep : (begun.kept (spelling parts)).depth ≠ 1 := below
  have same : { (begun.kept (spelling parts)).passed [quotationMark] with inText := false } =
      scanner.passed (quoted parts) := by
    rw [kept_of_depth_ne begun below, ← passed_append]
    by_cases capturing : scanner.inObjects = true ∧ 3 ≤ scanner.depth <;>
      simp [passed, isCapturing, begun, capturing, between.outside, quoted, quotationMark]
  simp only [deep, ↓reduceIte, same] at whole
  exact whole

/-- A text directly in the root is the last key. -/
theorem reads_key {scanner : Scanner} (between : scanner.IsBetween) (direct : scanner.depth = 1)
    (parts : List Part) :
    scanner.Reads (quoted parts) { scanner with key := [], lastKey := spelling parts } [] := by
  let begun := { scanner with inText := true, key := [] }
  have opened : scanner.step quotationMark = (begun, none) := by
    simp [step, between.outside, openText, isCapturing, direct, begun]
  have reading : begun.IsReading := ⟨rfl, between.calm⟩
  have inside := reads_spelling reading parts
  have whole := (Reads.cons opened inside).append (.single (step_closing (reading.kept _)))
  have root : (begun.kept (spelling parts)).depth = 1 := direct
  have same : { (begun.kept (spelling parts)).passed [quotationMark] with
      inText := false, lastKey := (begun.kept (spelling parts)).key.reverse, key := [] } =
      { scanner with key := [], lastKey := spelling parts } := by
    simp [kept, passed, isCapturing, begun, direct, between.outside]
  simp only [root, ↓reduceIte, same] at whole
  exact whole

/-! ## Values below the elements -/

theorem Reads.enclosed {scanner inner last : Scanner} {opening closing : UInt8} {inside : Bytes}
    {elements : List Bytes} {element : Option Bytes} (outside : scanner.inText = false)
    (opens : isOpening opening = true)
    (reads : (scanner.openBracket opening).Reads inside inner elements)
    (still : inner.inText = false) (closes : isClosing closing = true)
    (closed : inner.closeBracket closing = (last, element)) :
    scanner.Reads (opening :: (inside ++ [closing])) last (elements ++ element.toList) := by
  have opened : scanner.step opening = (scanner.openBracket opening, none) := by
    have unquoted : opening ≠ quotationMark := by rintro rfl; cases opens
    simp only [step, outside, unquoted, opens, Bool.false_eq_true, ↓reduceIte]
  have ended : inner.step closing = (last, element) := by
    have unquoted : closing ≠ quotationMark := by rintro rfl; cases closes
    have unopened : isOpening closing = false := by
      simp only [isClosing, Bool.or_eq_true, decide_eq_true_eq] at closes
      rcases closes with rfl | rfl <;> rfl
    simp only [step, still, unquoted, unopened, closes, Bool.false_eq_true, ↓reduceIte, closed]
  exact .cons opened (reads.append (.single ended))

/-- Where brackets neither begin nor end an element. -/
structure IsBelow (scanner : Scanner) : Prop extends scanner.IsBetween where
  deep : 2 ≤ scanner.depth
  within : scanner.inObjects = true → 3 ≤ scanner.depth

theorem IsBelow.passed {scanner : Scanner} (below : scanner.IsBelow) (bytes : Bytes) :
    (scanner.passed bytes).IsBelow :=
  ⟨below.toIsBetween.passed bytes, below.deep, below.within⟩

/-- Bytes that the scanner captures or skips as a whole wherever they stand below. -/
def Inert (bytes : Bytes) : Prop :=
  ∀ scanner : Scanner, scanner.IsBelow → scanner.Reads bytes (scanner.passed bytes) []

theorem Inert.append {left right : Bytes} (before : Inert left) (behind : Inert right) :
    Inert (left ++ right) := by
  intro scanner below
  have whole := (before scanner below).append (behind _ (below.passed left))
  rw [← passed_append] at whole
  exact whole

theorem inert_idle {bytes : Bytes} (idle : ∀ byte ∈ bytes, isIdle byte = true) : Inert bytes :=
  fun scanner below => reads_idle scanner below.outside idle

theorem inert_quoted (parts : List Part) : Inert (quoted parts) := by
  intro scanner below
  refine reads_quoted below.toIsBetween ?_ parts
  have deep := below.deep
  omega

theorem Inert.enclosed {inside : Bytes} (inert : Inert inside) {opening closing : UInt8}
    (opens : isOpening opening = true) (closes : isClosing closing = true) :
    Inert (opening :: (inside ++ [closing])) := by
  intro scanner below
  have deep := below.deep
  let begun := { scanner.passed [opening] with depth := scanner.depth + 1 }
  have opened : scanner.openBracket opening = begun := by
    have started : scanner.depth ≠ 0 := by omega
    have beyond : scanner.depth ≠ 1 := by omega
    by_cases within : scanner.inObjects = true
    · have far := below.within within
      simp [openBracket, passed, isCapturing, begun, within, started, beyond, deep, far]
    · simp [openBracket, passed, isCapturing, begun, within, started, beyond]
  have closed : (begun.passed inside).closeBracket closing =
      (scanner.passed (opening :: (inside ++ [closing])), none) := by
    by_cases within : scanner.inObjects = true
    · have far := below.within within
      have beyond : scanner.depth ≠ 2 := by omega
      simp [closeBracket, capture, passed, isCapturing, begun, within, deep, beyond, far,
        Nat.lt_of_succ_le far]
    · simp [closeBracket, passed, isCapturing, begun, within]
  have deeper : begun.IsBelow :=
    ⟨⟨below.outside, below.calm⟩, Nat.le_succ_of_le deep, fun _ => Nat.succ_le_succ deep⟩
  have reads : (scanner.openBracket opening).Reads inside (begun.passed inside) [] := by
    rw [opened]
    exact inert begun deeper
  exact .enclosed below.outside opens reads (deeper.passed inside).outside closes closed

theorem inert_composes : Composes Inert where
  idle := inert_idle
  quoted := inert_quoted
  append := Inert.append
  list inert := inert.enclosed rfl rfl
  record inert := inert.enclosed rfl rfl

/-! ## The items of the results -/

/-- Directly in the list whose lists and records are elements. -/
structure IsListing (scanner : Scanner) : Prop extends scanner.IsBetween where
  depth : scanner.depth = 2
  within : scanner.inObjects = true
  element : scanner.element = []

theorem IsListing.passed_eq {scanner : Scanner} (listing : scanner.IsListing) (bytes : Bytes) :
    scanner.passed bytes = scanner := by
  have skipping : scanner.isCapturing = false := by simp [isCapturing, listing.depth]
  simp only [passed, skipping, Bool.false_eq_true, ↓reduceIte]

theorem IsListing.reads_idle {scanner : Scanner} (listing : scanner.IsListing) {bytes : Bytes}
    (idle : ∀ byte ∈ bytes, isIdle byte = true) : scanner.Reads bytes scanner [] := by
  have reads := Scanner.reads_idle scanner listing.outside idle
  rwa [listing.passed_eq] at reads

theorem IsListing.reads_enclosed {scanner : Scanner} (listing : scanner.IsListing) {inside : Bytes}
    (inert : Inert inside) {opening closing : UInt8} (opens : isOpening opening = true)
    (closes : isClosing closing = true) :
    scanner.Reads (opening :: (inside ++ [closing])) scanner
      [opening :: (inside ++ [closing])] := by
  let begun := { scanner with depth := 3, element := [opening] }
  have opened : scanner.openBracket opening = begun := by
    simp [openBracket, begun, listing.depth, listing.within, listing.element]
  have closed : (begun.passed inside).closeBracket closing =
      (scanner, some (opening :: (inside ++ [closing]))) := by
    obtain ⟨depth, inText, escaped, root, key, lastKey, inObjects, element⟩ := scanner
    obtain ⟨-, rfl, rfl, rfl⟩ := listing
    simp [closeBracket, passed, isCapturing, begun]
  have deeper : begun.IsBelow :=
    ⟨⟨listing.outside, listing.calm⟩, Nat.le_succ 2, fun _ => Nat.le_refl 3⟩
  have reads : (scanner.openBracket opening).Reads inside (begun.passed inside) [] := by
    rw [opened]
    exact inert begun deeper
  exact .enclosed listing.outside opens reads (deeper.passed inside).outside closes closed

theorem reads_item {scanner : Scanner} (listing : scanner.IsListing) (item : Node) :
    scanner.Reads item.source scanner item.composite?.toList := by
  cases item with
  | null => exact listing.reads_idle (isIdle_of_mem rfl)
  | boolean value => cases value <;> exact listing.reads_idle (isIdle_of_mem rfl)
  | number number => exact listing.reads_idle (isIdle_of_mem_number number)
  | text parts =>
      have reads := reads_quoted listing.toIsBetween (by simp [listing.depth]) parts
      rwa [listing.passed_eq] at reads
  | list blanks items =>
      exact listing.reads_enclosed (inert_composes.inside_list blanks items) rfl rfl
  | record blanks members =>
      exact listing.reads_enclosed (inert_composes.inside_record blanks members) rfl rfl

theorem reads_items {scanner : Scanner} (listing : scanner.IsListing) (items : Items)
    {separator : Bytes} (idle : ∀ byte ∈ separator, isIdle byte = true) :
    scanner.Reads (items.source separator) scanner items.composites := by
  match items with
  | .nil => exact .nil scanner
  | .cons before item after rest =>
      have front := (listing.reads_idle idle).append
        (listing.reads_idle (isIdle_of_mem_blanks before))
      have whole := ((front.append (reads_item listing item)).append
        (listing.reads_idle (isIdle_of_mem_blanks after))).append
        (reads_items listing rest isIdle_of_mem_comma)
      simpa [Items.source, Items.composites] using whole

/-! ## The members of the root -/

def atRoot (lastKey : Bytes) : Scanner :=
  { start with depth := 1, root := some 0x7b, lastKey }

theorem isBetween_atRoot (lastKey : Bytes) : (atRoot lastKey).IsBetween :=
  ⟨rfl, rfl⟩

theorem reads_idle_atRoot (lastKey : Bytes) {bytes : Bytes}
    (idle : ∀ byte ∈ bytes, isIdle byte = true) :
    (atRoot lastKey).Reads bytes (atRoot lastKey) [] :=
  reads_idle _ rfl idle

theorem openBracket_atRoot (lastKey : Bytes) (opening : UInt8) :
    (atRoot lastKey).openBracket opening =
      { atRoot lastKey with
        depth := 2, inObjects := opening = 0x5b && lastKey = objectsKey } := by
  by_cases wanted : lastKey = objectsKey <;>
    simp [openBracket, atRoot, start, wanted]

/-- A list under another key, or a record. -/
theorem reads_elsewhere {lastKey inside : Bytes} (inert : Inert inside) {opening closing : UInt8}
    (opens : isOpening opening = true) (closes : isClosing closing = true)
    (other : opening = 0x5b → lastKey ≠ objectsKey) :
    (atRoot lastKey).Reads (opening :: (inside ++ [closing])) (atRoot lastKey) [] := by
  let begun := { atRoot lastKey with depth := 2 }
  have opened : (atRoot lastKey).openBracket opening = begun := by
    have unwanted : (opening = 0x5b && lastKey = objectsKey) = false := by simpa using other
    rw [openBracket_atRoot, unwanted]
    rfl
  have deeper : begun.IsBelow := ⟨⟨rfl, rfl⟩, Nat.le_refl 2, nofun⟩
  have reads : ((atRoot lastKey).openBracket opening).Reads inside (begun.passed inside) [] := by
    rw [opened]
    exact inert begun deeper
  exact .enclosed rfl opens reads rfl closes rfl

/-- The list under the key `objects`. -/
theorem reads_objects (blanks : Blanks) (items : Items) :
    (atRoot objectsKey).Reads (Node.list blanks items).source (atRoot objectsKey)
      items.composites := by
  let begun := { atRoot objectsKey with depth := 2, inObjects := true }
  have opened : (atRoot objectsKey).openBracket 0x5b = begun := by
    simp only [openBracket_atRoot, decide_true, Bool.and_self, begun]
  have listing : begun.IsListing := ⟨⟨rfl, rfl⟩, rfl, rfl, rfl⟩
  have reads : ((atRoot objectsKey).openBracket 0x5b).Reads (blanks.source ++ items.source [])
      begun items.composites := by
    rw [opened]
    exact (listing.reads_idle (isIdle_of_mem_blanks blanks)).append
      (reads_items listing items (List.forall_mem_nil _))
  have closed : begun.closeBracket 0x5d = (atRoot objectsKey, none) := rfl
  have whole := Reads.enclosed rfl rfl reads rfl rfl closed
  rwa [Option.toList_none, List.append_nil] at whole

/-- Whatever value is read directly in the root, only the last key can change. -/
theorem reads_value (lastKey : Bytes) (value : Node) :
    ∃ later, (atRoot lastKey).Reads value.source (atRoot later)
      (if lastKey = objectsKey then value.composites else []) := by
  cases value with
  | null =>
      simp only [Node.composites, ite_self]
      exact ⟨lastKey, reads_idle_atRoot lastKey (isIdle_of_mem rfl)⟩
  | boolean value =>
      simp only [Node.composites, ite_self]
      cases value <;> exact ⟨lastKey, reads_idle_atRoot lastKey (isIdle_of_mem rfl)⟩
  | number number =>
      simp only [Node.composites, ite_self]
      exact ⟨lastKey, reads_idle_atRoot lastKey (isIdle_of_mem_number number)⟩
  | text parts =>
      simp only [Node.composites, ite_self]
      exact ⟨spelling parts, reads_key (isBetween_atRoot lastKey) rfl parts⟩
  | list blanks items =>
      refine ⟨lastKey, ?_⟩
      by_cases wanted : lastKey = objectsKey
      · simp only [wanted, ↓reduceIte]
        exact reads_objects blanks items
      · simp only [wanted, ↓reduceIte]
        exact reads_elsewhere (inert_composes.inside_list blanks items) rfl rfl fun _ => wanted
  | record blanks members =>
      simp only [Node.composites, ite_self]
      exact ⟨lastKey, reads_elsewhere (inert_composes.inside_record blanks members) rfl rfl nofun⟩

theorem reads_members (lastKey : Bytes) (members : Members) {separator : Bytes}
    (idle : ∀ byte ∈ separator, isIdle byte = true) :
    ∃ later, (atRoot lastKey).Reads (members.source separator) (atRoot later)
      (members.composites objectsKey) := by
  match members with
  | .nil => exact ⟨lastKey, .nil _⟩
  | .cons before key afterKey beforeValue value after rest =>
      have front := (reads_idle_atRoot lastKey idle).append
        (reads_idle_atRoot lastKey (isIdle_of_mem_blanks before))
      have named := (front.append (reads_key (isBetween_atRoot lastKey) rfl key)).append
        (reads_idle_atRoot (spelling key) (isIdle_of_mem_blanks afterKey))
      have separated := (named.append
        (reads_idle_atRoot (spelling key) isIdle_of_mem_colon)).append
          (reads_idle_atRoot (spelling key) (isIdle_of_mem_blanks beforeValue))
      obtain ⟨between, valued⟩ := reads_value (spelling key) value
      obtain ⟨later, others⟩ := reads_members between rest isIdle_of_mem_comma
      have whole := ((separated.append valued).append
        (reads_idle_atRoot between (isIdle_of_mem_blanks after))).append others
      exact ⟨later, by simpa [Members.source, Members.composites] using whole⟩

/-- A document leads from the start to a state in which everything is closed again. -/
theorem reads_document (document : Document) :
    ∃ lastKey, start.Reads document.source { atRoot lastKey with depth := 0 }
      (document.members.composites objectsKey) := by
  have outside : start.openBracket 0x7b = atRoot [] := rfl
  obtain ⟨lastKey, members⟩ := reads_members [] document.members (List.forall_mem_nil _)
  have inside := (reads_idle_atRoot [] (isIdle_of_mem_blanks document.blanks)).append members
  rw [← outside] at inside
  have closed : (atRoot lastKey).closeBracket 0x7d = ({ atRoot lastKey with depth := 0 }, none) :=
    rfl
  have root := Reads.enclosed rfl rfl inside rfl rfl closed
  have before : start.Reads document.before.source start [] :=
    reads_idle _ rfl (isIdle_of_mem_blanks document.before)
  have after : { atRoot lastKey with depth := 0 }.Reads document.after.source
      { atRoot lastKey with depth := 0 } [] :=
    reads_idle _ rfl (isIdle_of_mem_blanks document.after)
  have whole := (before.append root).append after
  refine ⟨lastKey, ?_⟩
  simpa [Document.source, Node.source] using whole

/-- However a document is cut into chunks, the elements are the lists and records that are items of
a list under a key spelled `objects` of the root, and nothing is left over. -/
theorem feedChunks_document (document : Document) {chunks : List Bytes}
    (cut : chunks.flatten = document.source) :
    (start.feedChunks chunks).2 = document.members.composites objectsKey ∧
      (start.feedChunks chunks).1.isComplete = true ∧ (start.feedChunks chunks).1.element = [] := by
  obtain ⟨lastKey, reads⟩ := reads_document document
  rw [feedChunks_eq, cut, reads.feed_eq]
  exact ⟨rfl, rfl, rfl⟩

def plainParts (bytes : Bytes) (plain : bytes.all isPlain = true) : List Part :=
  bytes.pmap Part.plain (List.all_eq_true.1 plain)

/-- `{"objects" :[["]\""],null,{"objects":[[]]}]}` and a blank. -/
def sampleDocument : Document :=
  let close : Blanks := ⟨[], rfl⟩
  let space : Blanks := ⟨[0x20], rfl⟩
  let key : List Part := plainParts [0x6f, 0x62, 0x6a, 0x65, 0x63, 0x74, 0x73] rfl
  let text : Node := .text (plainParts [0x5d] rfl ++ [.escape 0x22 rfl])
  let deeper : Node := .record close
    (.cons close key close close
      (.list close (.cons close (.list close .nil) close .nil)) close .nil)
  { before := close
    blanks := close
    members := .cons close key space close
      (.list close (.cons close (.list close (.cons close text close .nil)) close
        (.cons close .null close (.cons close deeper close .nil)))) close .nil
    after := space }

/-- The document in chunks of one byte. -/
theorem feedChunks_sampleDocument :
    let chunks := sampleDocument.source.map fun byte => [byte]
    chunks.flatten = sampleDocument.source ∧
      (start.feedChunks chunks).2 =
        ["[\"]\\\"\"]", "\x7b\"objects\":[[]]\x7d"].map fun text => text.toUTF8.toList := by
  intro chunks
  have cut : chunks.flatten = sampleDocument.source := by decide +kernel
  refine ⟨cut, (feedChunks_document sampleDocument cut).1.trans ?_⟩
  decide +kernel

end PackageSearch.Uplink.Scanner

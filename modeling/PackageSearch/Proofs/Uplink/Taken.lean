import PackageSearch.Proofs.Json.Numeral
import PackageSearch.Proofs.Uplink.Objects

/-!
# What a reader takes

The bytes that are read as a value are blanks, quoted texts, brackets in pairs of one kind and other
bytes between them. So a property that texts of values have by their parts holds of every text that
decodes to a structure.
-/

set_option autoImplicit false

namespace PackageSearch.Json

open Syntax (HexDigit spelling isPlain)
open Uplink.Scanner (Composes isIdle isIdle_of_mem)

/-! ## Texts -/

theorem exists_hexDigits {text rest : Bytes} {value : Nat}
    (read : hexUnit text = .ok (value, rest)) :
    ∃ first second third fourth : HexDigit,
      text = first.letter :: second.letter :: third.letter :: fourth.letter :: rest := by
  unfold hexUnit at read
  split at read
  · rename_i first second third fourth others
    split at read
    · rename_i firstValue secondValue thirdValue fourthValue
      cases read
      exact ⟨⟨first, Option.isSome_of_eq_some firstValue⟩,
        ⟨second, Option.isSome_of_eq_some secondValue⟩,
        ⟨third, Option.isSome_of_eq_some thirdValue⟩,
        ⟨fourth, Option.isSome_of_eq_some fourthValue⟩, rfl⟩
    · cases read
  · cases read

theorem exists_parts {fuel : Nat} {pieces found : List Piece} {text rest : Bytes}
    (read : readPieces fuel pieces text = .ok (found, rest)) :
    ∃ parts, text = spelling parts ++ 0x22 :: rest := by
  have further (part : Syntax.Part) {text : Bytes}
      (later : ∃ parts, text = spelling parts ++ 0x22 :: rest) :
      ∃ parts, part.source ++ text = spelling parts ++ 0x22 :: rest := by
    obtain ⟨parts, rfl⟩ := later
    exact ⟨part :: parts, by simp [spelling]⟩
  induction fuel generalizing pieces text with
  | zero => cases read
  | succ fuel ih =>
      cases text with
      | nil => cases read
      | cons byte others =>
          simp only [readPieces] at read
          split at read
          · rename_i mark
            cases read
            exact ⟨[], congrArg (fun byte => byte :: rest) mark⟩
          rename_i noMark
          split at read
          · rename_i escape
            subst escape
            split at read
            · cases read
            · rename_i letter others
              split at read
              · rename_i unit
                subst unit
                split at read
                · rename_i hexRead
                  obtain ⟨first, second, third, fourth, rfl⟩ := exists_hexDigits hexRead
                  exact further (.unit first second third fourth) (ih read)
                · cases read
              · split at read
                · rename_i known
                  exact further (.escape letter (Option.isSome_of_eq_some known)) (ih read)
                · cases read
          rename_i noEscape
          split at read
          · cases read
          · rename_i printable
            have plain : isPlain byte = true := by
              simp only [isPlain, noMark, noEscape, ne_eq, not_false_eq_true, decide_true,
                Bool.and_true, decide_eq_true_eq]
              exact UInt8.not_lt.mp printable
            exact further (.plain byte plain) (ih read)

theorem exists_quoted {text rest : Bytes} {value : Except Fault String}
    (read : readText text = .ok (value, rest)) :
    ∃ parts, 0x22 :: text = Syntax.quoted parts ++ rest := by
  obtain ⟨⟨pieces, behind⟩, piecesRead, same⟩ := bind_eq_ok.mp read
  cases same
  obtain ⟨parts, rfl⟩ := exists_parts piecesRead
  exact ⟨parts, by simp [Syntax.quoted]⟩

/-! ## Words and numbers -/

theorem expectWord_eq {word text rest : Bytes} (read : expectWord word text = .ok rest) :
    text = word ++ rest := by
  induction word generalizing text with
  | nil =>
      cases read
      rfl
  | cons expected word ih =>
      cases text with
      | nil => cases read
      | cons byte text =>
          simp only [expectWord] at read
          split at read
          · rename_i same
            rw [same, ih read]
            rfl
          · cases read

theorem isIdle_of_isDigitByte {byte : UInt8} (digit : isDigitByte byte = true) :
    isIdle byte = true :=
  Uplink.Scanner.isIdle_of isDigitByte (by decide) digit

theorem isIdle_of_isSpace {byte : UInt8} (space : isSpace byte = true) : isIdle byte = true :=
  Uplink.Scanner.isIdle_of isSpace (by decide) space

/-- The bytes up to a rest have a property. -/
def Takes (holds : Bytes → Prop) (text rest : Bytes) : Prop :=
  ∃ taken, text = taken ++ rest ∧ holds taken

section Takes

variable {holds : Bytes → Prop} {text middle rest : Bytes}

theorem Takes.trans (composes : Composes holds) (first : Takes holds text middle)
    (second : Takes holds middle rest) : Takes holds text rest := by
  obtain ⟨front, rfl, frontHolds⟩ := first
  obtain ⟨behind, rfl, behindHolds⟩ := second
  exact ⟨front ++ behind, (List.append_assoc _ _ _).symm, composes.append frontHolds behindHolds⟩

theorem Takes.nothing (composes : Composes holds) (text : Bytes) : Takes holds text text :=
  ⟨[], rfl, composes.idle (List.forall_mem_nil _)⟩

theorem Takes.run (composes : Composes holds) {inside : UInt8 → Bool}
    (idle : ∀ byte, inside byte = true → isIdle byte = true) (text : Bytes) :
    Takes holds text (text.dropWhile inside) :=
  ⟨text.takeWhile inside, List.takeWhile_append_dropWhile.symm,
    composes.idle fun byte member => idle byte (List.mem_takeWhile_imp member)⟩

theorem Takes.spaces (composes : Composes holds) (text : Bytes) :
    Takes holds text (skipSpaces text) :=
  .run composes (fun _ => isIdle_of_isSpace) text

theorem Takes.single (composes : Composes holds) {byte : UInt8} (idle : isIdle byte = true)
    (rest : Bytes) : Takes holds (byte :: rest) rest :=
  ⟨[byte], rfl, composes.idle (List.forall_mem_singleton.2 idle)⟩

theorem Takes.digits (composes : Composes holds) {run : Bytes}
    (read : digitRun text = .ok (run, rest)) : Takes holds text rest := by
  unfold digitRun at read
  split at read
  · cases read
  · cases read
    exact .run composes (fun _ => isIdle_of_isDigitByte) text

theorem Takes.sign (composes : Composes holds) (text : Bytes) :
    Takes holds text (leadingMinus text).2 := by
  unfold leadingMinus
  split
  · exact .single composes rfl _
  · exact .nothing composes _

theorem Takes.exponentSign (composes : Composes holds) (text : Bytes) :
    Takes holds text (exponentSign text).2 := by
  unfold Json.exponentSign
  split
  · exact .single composes rfl _
  · exact .single composes rfl _
  · exact .nothing composes _

theorem Takes.exponent (composes : Composes holds) {power : Option (Bool × Bytes)}
    (read : exponentRun text = .ok (power, rest)) : Takes holds text rest := by
  cases text with
  | nil =>
      cases read
      exact .nothing composes _
  | cons mark others =>
      rw [exponentRun_cons] at read
      split at read
      · rename_i marked
        obtain ⟨⟨run, behind⟩, digits, same⟩ := map_eq_ok.mp read
        cases same
        have letter : isIdle mark = true := by rcases marked with rfl | rfl <;> rfl
        have signed :=
          (Takes.single composes letter _).trans composes (.exponentSign composes others)
        exact signed.trans composes (.digits composes digits)
      · cases read
        exact .nothing composes _

theorem Takes.numeral (composes : Composes holds) {numeral : Numeral}
    (read : readNumeral text = .ok (numeral, rest)) : Takes holds text rest := by
  obtain ⟨negative, wholeDigits, fractionDigits, power⟩ := numeral
  obtain ⟨behindWhole, behindFraction, whole, fraction, exponent, -⟩ :=
    readNumeral_eq_ok_iff.mp read
  simp only at whole fraction exponent
  have wholeTaken : Takes holds (leadingMinus text).2 behindWhole := by
    obtain ⟨⟨run, behind⟩, digits, same⟩ := bind_eq_ok.mp whole
    simp only at same
    split at same
    · cases same
    · cases same
      exact .digits composes digits
  have fractionTaken : Takes holds behindWhole behindFraction := by
    unfold fractionRun at fraction
    split at fraction
    · exact (Takes.single composes rfl _).trans composes (.digits composes fraction)
    · cases fraction
      exact .nothing composes _
  exact (((Takes.sign composes text).trans composes wholeTaken).trans composes fractionTaken).trans
    composes (.exponent composes exponent)

theorem Takes.word (composes : Composes holds) {first : UInt8} {word : Bytes} {value node : Node}
    (idle : (first :: word).all isIdle = true)
    (read : readWord word value text = (node, rest)) (whole : node.break? = none) :
    Takes holds (first :: text) rest := by
  unfold readWord at read
  split at read
  · rename_i behind spelled
    cases read
    exact ⟨first :: word, congrArg (first :: ·) (expectWord_eq spelled),
      composes.idle (isIdle_of_mem idle)⟩
  · cases read
    cases whole

theorem Takes.list (composes : Composes holds) (inside : Takes holds text (0x5d :: rest)) :
    Takes holds (0x5b :: text) rest := by
  obtain ⟨taken, rfl, takenHolds⟩ := inside
  exact ⟨0x5b :: (taken ++ [0x5d]), by simp, composes.list takenHolds⟩

theorem Takes.record (composes : Composes holds) (inside : Takes holds text (0x7d :: rest)) :
    Takes holds (0x7b :: text) rest := by
  obtain ⟨taken, rfl, takenHolds⟩ := inside
  exact ⟨0x7b :: (taken ++ [0x7d]), by simp, composes.record takenHolds⟩

theorem Takes.quoted (composes : Composes holds) {value : Except Fault String}
    (read : readText text = .ok (value, rest)) : Takes holds (0x22 :: text) rest := by
  obtain ⟨parts, same⟩ := exists_quoted read
  exact ⟨_, same, composes.quoted parts⟩

end Takes

/-! ## Values -/

section Values

variable {holds : Bytes → Prop} {fuel : Nat}

theorem Takes.node_step (composes : Composes holds)
    (items : ∀ {text rest : Bytes} {items : List Node},
      readItems fuel true text = (items, none, rest) → Takes holds text (0x5d :: rest))
    (members : ∀ {text rest : Bytes} {members : List (Except Fault String × Node)},
      readMembers fuel true text = (members, none, rest) → Takes holds text (0x7d :: rest))
    {text rest : Bytes} {node : Node} (read : readNode (fuel + 1) text = (node, rest))
    (whole : node.break? = none) : Takes holds text rest := by
  refine (Takes.spaces composes text).trans composes ?_
  rw [readNode] at read
  split at read
  · cases read
    cases whole
  rename_i byte others start
  rw [start]
  -- The first byte decides: a word, a number, a text, a list or a record.
  split at read
  · rename_i letter
    subst letter
    exact .word composes rfl read whole
  split at read
  · rename_i letter
    subst letter
    exact .word composes rfl read whole
  split at read
  · rename_i letter
    subst letter
    exact .word composes rfl read whole
  split at read
  · split at read
    · rename_i numeralRead
      cases read
      exact .numeral composes numeralRead
    · cases read
      cases whole
  split at read
  · rename_i mark
    subst mark
    split at read
    · rename_i textRead
      cases read
      exact .quoted composes textRead
    · cases read
      cases whole
  split at read
  · rename_i bracket
    subst bracket
    cases itemsRead : readItems fuel true others with
    | mk found behind =>
        obtain ⟨ending, behind⟩ := behind
        rw [itemsRead] at read
        cases read
        cases whole
        exact .list composes (items itemsRead)
  split at read
  · rename_i bracket
    subst bracket
    cases membersRead : readMembers fuel true others with
    | mk found behind =>
        obtain ⟨ending, behind⟩ := behind
        rw [membersRead] at read
        cases read
        cases whole
        exact .record composes (members membersRead)
  · cases read
    cases whole

theorem Takes.separator (composes : Composes holds) {first : Bool} {byte : UInt8}
    (separated : (first || decide (byte = 0x2c)) = true) (others : Bytes) :
    Takes holds (byte :: others) (if first then byte :: others else others) := by
  cases first with
  | true => exact .nothing composes _
  | false =>
      obtain rfl : byte = 0x2c := by simpa using separated
      exact .single composes rfl _

theorem Takes.items_step (composes : Composes holds)
    (node : ∀ {text rest : Bytes} {node : Node}, readNode fuel text = (node, rest) →
      node.break? = none → Takes holds text rest)
    (items : ∀ {text rest : Bytes} {items : List Node},
      readItems fuel false text = (items, none, rest) → Takes holds text (0x5d :: rest))
    {first : Bool} {text rest : Bytes} {found : List Node}
    (read : readItems (fuel + 1) first text = (found, none, rest)) :
    Takes holds text (0x5d :: rest) := by
  refine (Takes.spaces composes text).trans composes ?_
  rw [readItems] at read
  split at read
  · cases read
  rename_i byte others start
  rw [start]
  split at read
  · rename_i bracket
    subst bracket
    cases read
    exact .nothing composes _
  split at read
  · rename_i separated
    refine (Takes.separator composes separated others).trans composes ?_
    cases itemRead : readNode fuel (if first then byte :: others else others) with
    | mk item behind =>
        simp only [itemRead] at read
        split at read
        · cases read
        · rename_i whole
          cases laterRead : readItems fuel false behind with
          | mk later ending =>
              obtain ⟨ending, after⟩ := ending
              rw [laterRead] at read
              cases read
              exact (node itemRead whole).trans composes (items laterRead)
  · cases read

theorem Takes.members_step (composes : Composes holds)
    (node : ∀ {text rest : Bytes} {node : Node}, readNode fuel text = (node, rest) →
      node.break? = none → Takes holds text rest)
    (members : ∀ {text rest : Bytes} {members : List (Except Fault String × Node)},
      readMembers fuel false text = (members, none, rest) → Takes holds text (0x7d :: rest))
    {first : Bool} {text rest : Bytes} {found : List (Except Fault String × Node)}
    (read : readMembers (fuel + 1) first text = (found, none, rest)) :
    Takes holds text (0x7d :: rest) := by
  refine (Takes.spaces composes text).trans composes ?_
  rw [readMembers] at read
  split at read
  · cases read
  rename_i byte others start
  rw [start]
  split at read
  · rename_i bracket
    subst bracket
    cases read
    exact .nothing composes _
  split at read
  · rename_i separated
    refine (Takes.separator composes separated others).trans composes ?_
    refine (Takes.spaces composes _).trans composes ?_
    split at read
    · cases read
    · rename_i key keyStart
      rw [keyStart]
      split at read
      · cases read
      · rename_i name behindKey keyRead
        refine (Takes.quoted composes keyRead).trans composes ?_
        refine (Takes.spaces composes behindKey).trans composes ?_
        split at read
        · rename_i behindColon colon
          rw [colon]
          refine (Takes.single composes rfl behindColon).trans composes ?_
          cases valueRead : readNode fuel behindColon with
          | mk value behind =>
              simp only [valueRead] at read
              split at read
              · cases read
              · rename_i whole
                cases laterRead : readMembers fuel false behind with
                | mk later ending =>
                    obtain ⟨ending, after⟩ := ending
                    rw [laterRead] at read
                    cases read
                    exact (node valueRead whole).trans composes (members laterRead)
        · cases read
        · cases read
    · cases read
  · cases read

/-- The bytes of a tree without a break have every property that comes from their parts. -/
theorem Takes.node (composes : Composes holds) {text rest : Bytes} {node : Node}
    (read : readNode fuel text = (node, rest)) (whole : node.break? = none) :
    Takes holds text rest := by
  have all : (∀ {text rest : Bytes} {node : Node}, readNode fuel text = (node, rest) →
        node.break? = none → Takes holds text rest) ∧
      (∀ {first : Bool} {text rest : Bytes} {items : List Node},
        readItems fuel first text = (items, none, rest) → Takes holds text (0x5d :: rest)) ∧
      ∀ {first : Bool} {text rest : Bytes} {members : List (Except Fault String × Node)},
        readMembers fuel first text = (members, none, rest) → Takes holds text (0x7d :: rest) := by
    clear read whole
    induction fuel with
    | zero =>
        refine ⟨fun read whole => ?_, fun read => ?_, fun read => ?_⟩
        · cases read
          cases whole
        · cases read
        · cases read
    | succ fuel ih =>
        obtain ⟨node, items, members⟩ := ih
        exact ⟨.node_step composes items members, .items_step composes node items,
          .members_step composes node members⟩
  exact all.1 read whole

end Values

/-! ## Structures -/

theorem eq_none_of_closed {ending : Option Break} {result : Unit}
    (closes : closed ending = .ok result) :
    ending = none := by
  cases ending with
  | none => rfl
  | some place => cases closes

namespace Shape

variable {ρ : Type} {shape : Shape ρ} {levels : Nat} {node : Node} {result : ρ}

theorem ending_of_readItems {ending : Option Break} {fields : List (Field ρ)} {items : List Node}
    {held : ρ} (read : readItems levels ending fields items held = .ok result) : ending = none := by
  induction fields generalizing items held with
  | nil =>
      cases items with
      | nil =>
          obtain ⟨_, closes, -⟩ := map_eq_ok.mp read
          exact eq_none_of_closed closes
      | cons item items => cases read
  | cons field fields ih =>
      cases items with
      | nil =>
          obtain ⟨_, closes, -⟩ := bind_eq_ok.mp read
          exact eq_none_of_closed closes
      | cons item items =>
          obtain ⟨_, -, later⟩ := bind_eq_ok.mp read
          exact ih later

theorem break?_of_read (read : shape.decoder levels node = .ok result) : node.break? = none := by
  cases levels with
  | zero => cases node <;> cases read
  | succ levels =>
      cases node with
      | list items ending => exact ending_of_readItems read
      | record members ending =>
          obtain ⟨_, -, read⟩ := bind_eq_ok.mp read
          obtain ⟨_, closes, -⟩ := bind_eq_ok.mp read
          exact eq_none_of_closed closes
      | _ => cases read

/-- A text that decodes to a structure has every property that comes from its parts. -/
theorem holds_of_decode {holds : Bytes → Prop} (composes : Composes holds) {text : Bytes}
    (decoded : decode shape.decoder text = .ok result) : holds text := by
  unfold decode Document.ofBytes at decoded
  cases tree : readNode (2 * text.length + 2) text with
  | mk root rest =>
      rw [tree] at decoded
      obtain ⟨value, read, ends⟩ := bind_eq_ok.mp decoded
      simp only at read ends
      split at ends
      · cases ends
      · rename_i last
        have nothing : skipSpaces rest = [] := by simpa using last
        have whole := (Takes.node composes tree (break?_of_read read)).trans composes
          (Takes.spaces composes rest)
        rw [nothing] at whole
        obtain ⟨taken, rfl, takenHolds⟩ := whole
        rw [List.append_nil]
        exact takenHolds

end Shape

end PackageSearch.Json

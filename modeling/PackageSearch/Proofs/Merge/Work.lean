import PackageSearch.Merge.Script

/-!
# What work sends

Work that is neither cancelled nor left unheard sends its items, a report if it fails aloud, and the
notice that it is done: `messagesOf_eq`. The work of a script holds the items of the script and its
failure, and it ends if the script does.
-/

set_option autoImplicit false

namespace PackageSearch.Merge

/-- The items of work, up to its first failure or hang. -/
def itemsOf : List Act → List Item
  | [] => []
  | .pause _ :: rest => itemsOf rest
  | .deliver item :: rest => item :: itemsOf rest
  | .fail _ :: _ => []
  | .hang :: _ => []

/-- The failure that work ends with, unless it hangs before. -/
def failureOf? : List Act → Option Failure
  | [] => none
  | .pause _ :: rest => failureOf? rest
  | .deliver _ :: rest => failureOf? rest
  | .fail failure :: _ => some failure
  | .hang :: _ => none

/-- Whether work comes to an end: no hang stands before the first failure. -/
def workEnds : List Act → Bool
  | [] => true
  | .fail _ :: _ => true
  | .hang :: _ => false
  | .pause _ :: rest => workEnds rest
  | .deliver _ :: rest => workEnds rest

/-- What work sends as long as its messages are received and nobody cancels it: its items up to
the first failure or hang, a report if it fails aloud, and the notice that it is done. -/
def messagesOf (source : SourceId) : List Act → List Message
  | [] => [.done source]
  | .pause _ :: rest => messagesOf source rest
  | .deliver item :: rest => .item source item :: messagesOf source rest
  | .fail failure :: _ =>
      if failure.isQuiet then [.done source] else [.failed source failure, .done source]
  | .hang :: _ => [.done source]

theorem messagesOf_ne_nil (source : SourceId) (work : List Act) : messagesOf source work ≠ [] := by
  fun_induction messagesOf source work <;> simp_all

/-- How a producer comes to leave its work: the work is complete, it fails, the producer is
cancelled, or it finds that nobody receives its messages. -/
inductive Exit where
  | completed
  | failed (failure : Failure)
  | cancelled
  | unheard

namespace Exit

/-- The failure that is reported. Cancellation is not, whether by the caller or by the uplink. -/
def report? : Exit → Option Failure
  | failed failure => if failure.isQuiet then none else some failure
  | completed => none
  | cancelled => none
  | unheard => none

/-- What is sent after the items: perhaps a report, and the notice that the source is done. -/
def notices (source : SourceId) (exit : Exit) : List Message :=
  exit.report?.toList.map (.failed source) ++ [.done source]

/-- How work is left that neither hangs nor is left before its end. -/
def ofWork (work : List Act) : Exit :=
  match failureOf? work with
  | some failure => failed failure
  | none => completed

end Exit

theorem messagesOf_eq (source : SourceId) (work : List Act) :
    messagesOf source work =
      (itemsOf work).map (.item source) ++ (Exit.ofWork work).notices source := by
  fun_induction messagesOf source work with
  | case1 => rfl
  | case2 _ _ ih => exact ih
  | case3 item rest ih => exact congrArg _ ih
  | case4 failure rest quiet =>
      simp [itemsOf, Exit.ofWork, failureOf?, Exit.notices, Exit.report?, quiet]
  | case5 failure rest loud =>
      simp [itemsOf, Exit.ofWork, failureOf?, Exit.notices, Exit.report?, loud]
  | case6 => rfl

namespace Script

variable {ε α : Type}

/-- What does not count pauses does not see how long a call takes. -/
theorem ignoring_wait {β : Type} (view : List Act → β)
    (ignores : ∀ milliseconds rest, view (.pause milliseconds :: rest) = view rest) (wait : Nat)
    (rest : List Act) : view ((if wait = 0 then [] else [.pause wait]) ++ rest) = view rest := by
  split
  · rfl
  · exact ignores wait rest

theorem itemsOf_work (kind : SourceKind ε α) (script : Script ε α) :
    itemsOf (script.work kind) = script.items.map kind.item := by
  induction script with
  | nil => rfl
  | cons call rest ih =>
      obtain ⟨wait, ending⟩ := call
      simp only [work, List.flatMap_cons, Call.work, List.append_assoc,
        ignoring_wait itemsOf fun _ _ => rfl] at ih ⊢
      cases ending with
      | value item => cases item <;> simp [itemsOf, items, ih]
      | error | panic | never => rfl

theorem failureOf?_work (kind : SourceKind ε α) (script : Script ε α) :
    failureOf? (script.work kind) = (script.failure? kind).map kind.failure := by
  induction script with
  | nil => rfl
  | cons call rest ih =>
      obtain ⟨wait, ending⟩ := call
      simp only [work, List.flatMap_cons, Call.work, List.append_assoc,
        ignoring_wait failureOf? fun _ _ => rfl] at ih ⊢
      cases ending with
      | value item => cases item <;> simp [failureOf?, failure?, ih]
      | error | panic | never => rfl

theorem workEnds_work (kind : SourceKind ε α) (script : Script ε α) :
    workEnds (script.work kind) = script.ends := by
  induction script with
  | nil => rfl
  | cons call rest ih =>
      obtain ⟨wait, ending⟩ := call
      simp only [work, List.flatMap_cons, Call.work, List.append_assoc,
        ignoring_wait workEnds fun _ _ => rfl] at ih ⊢
      cases ending with
      | value item => cases item <;> simp [workEnds, ends, ih]
      | error | panic | never => rfl

/-- What work sends is what the script gives: its items, then its failure unless that is quiet,
then the notice. -/
theorem messagesOf_work (kind : SourceKind ε α) (source : SourceId) (script : Script ε α) :
    messagesOf source (script.work kind) =
      script.items.map (fun item => .item source (kind.item item)) ++
      (((script.failure? kind).map kind.failure).filter fun failure => ! failure.isQuiet).toList.map
        (.failed source) ++ [.done source] := by
  rw [messagesOf_eq, itemsOf_work, Exit.ofWork, failureOf?_work, List.map_map, List.append_assoc]
  cases (script.failure? kind).map kind.failure with
  | none => rfl
  | some failure =>
      cases quiet : failure.isQuiet <;>
        simp [Exit.notices, Exit.report?, Option.filter, quiet]

end Script

end PackageSearch.Merge

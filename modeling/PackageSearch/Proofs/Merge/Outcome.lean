import Mathlib
import PackageSearch.Proofs.Merge.Arrivals

/-!
# What a merge gives

A merge heeds the messages before the last notice that it awaits. It fails with the first failure of
the local store among them, or else because that notice never comes; otherwise it gives the matching
listings that they bring. Hence reports of uplinks, the places of the notices before the last one,
and all that follows the last one make no difference.
-/

set_option autoImplicit false

namespace PackageSearch.Merge

open Package (Listing)

def Message.notices (message : Message) : Nat :=
  if message.isDone then 1 else 0

theorem countP_isDone_cons (message : Message) (rest : List Message) :
    (message :: rest).countP Message.isDone = rest.countP Message.isDone + message.notices :=
  List.countP_cons

/-- The messages before the notice of a given number, counted from one; all of them if there are
fewer notices. -/
def beforeNotice : Nat → List Message → List Message
  | _, [] => []
  | number, message :: rest =>
      if number ≤ message.notices then []
      else message :: beforeNotice (number - message.notices) rest

section BeforeNotice

variable {number : Nat} {front rest : List Message}

theorem beforeNotice_zero (messages : List Message) : beforeNotice 0 messages = [] := by
  cases messages with
  | nil => rfl
  | cons message rest => rw [beforeNotice, if_pos (Nat.zero_le _)]

theorem beforeNotice_cons {message : Message} (other : message.isDone = false)
    (positive : 0 < number) :
    beforeNotice number (message :: rest) = message :: beforeNotice number rest := by
  have none : message.notices = 0 := if_neg (by simp [other])
  rw [beforeNotice, none, if_neg (Nat.not_le.2 positive), Nat.sub_zero]

/-- What has fewer notices than that stands before it. -/
theorem beforeNotice_append (fewer : front.countP Message.isDone < number) :
    beforeNotice number (front ++ rest) =
      front ++ beforeNotice (number - front.countP Message.isDone) rest := by
  induction front generalizing number with
  | nil => rfl
  | cons message front ih =>
      rw [countP_isDone_cons] at fewer ⊢
      rw [List.cons_append, beforeNotice, if_neg (by omega), ih (by omega), List.cons_append,
        Nat.sub_sub, Nat.add_comm message.notices]

/-- Behind so many notices nothing stands before the last of them. -/
theorem beforeNotice_append_of_le (enough : number ≤ front.countP Message.isDone) :
    beforeNotice number (front ++ rest) = beforeNotice number front := by
  induction front generalizing number with
  | nil =>
      rw [Nat.eq_zero_of_le_zero enough, beforeNotice_zero, beforeNotice_zero]
  | cons message front ih =>
      rw [countP_isDone_cons] at enough
      rw [List.cons_append, beforeNotice, beforeNotice, ih (by omega)]

/-- Too few notices have every message before them. -/
theorem beforeNotice_eq_self (fewer : front.countP Message.isDone < number) :
    beforeNotice number front = front := by
  have whole : beforeNotice number (front ++ []) = _ := beforeNotice_append fewer
  rwa [List.append_nil, beforeNotice, List.append_nil] at whole

/-- What stands before the notice of that number, and nothing else. -/
theorem beforeNotice_append_done (last : front.countP Message.isDone + 1 = number)
    (source : SourceId) : beforeNotice number (front ++ .done source :: rest) = front := by
  have alone : beforeNotice 1 (.done source :: rest) = [] := if_pos (Nat.le_refl 1)
  rw [beforeNotice_append (by omega), ← last, Nat.add_sub_cancel_left, alone, List.append_nil]

end BeforeNotice

/-! ## The outcome -/

/-- What a merge gives that heeds certain messages and keeps listings already, and for which every
notice comes or not. -/
def verdict (pattern : Matcher) (kept : List Listing) (heeded : List Message) (complete : Bool) :
    Except MergeError (List Listing) :=
  match heeded.findSome? Message.storeFailure? with
  | some error => .error (.store error)
  | none =>
      if complete then
        .ok (kept ++ (deliveredListings heeded).filter fun listing =>
          pattern.accepts listing.package)
      else .error .closed

section Outcome

variable {pattern : Matcher} {kept : List Listing} {complete : Bool}

theorem verdict_cons_failure {message : Message} {error : StoreError}
    (failed : message.storeFailure? = some error) (rest : List Message) :
    verdict pattern kept (message :: rest) complete = .error (.store error) := by
  rw [verdict, List.findSome?_cons, failed]

theorem verdict_cons {message : Message} (sound : message.storeFailure? = none)
    (rest : List Message) :
    verdict pattern kept (message :: rest) complete =
      verdict pattern
        (kept ++ (deliveredListings [message]).filter fun listing =>
          pattern.accepts listing.package) rest complete := by
  have listings : deliveredListings (message :: rest) =
      deliveredListings [message] ++ deliveredListings rest := by
    rw [deliveredListings, ← List.singleton_append, List.filterMap_append, List.flatMap_append]
    rfl
  rw [verdict, verdict, List.findSome?_cons, sound, listings, List.filter_append,
    List.append_assoc]

/-- A message that brings no listing and no failure of the local store changes nothing. -/
theorem verdict_silent {message : Message} (itemless : message.item? = none)
    (sound : message.storeFailure? = none) (front rest : List Message) :
    verdict pattern kept (front ++ message :: rest) complete =
      verdict pattern kept (front ++ rest) complete := by
  have failures : (front ++ message :: rest).findSome? Message.storeFailure? =
      (front ++ rest).findSome? Message.storeFailure? := by
    rw [List.findSome?_append, List.findSome?_append, List.findSome?_cons, sound]
  have listings : deliveredListings (front ++ message :: rest) =
      deliveredListings (front ++ rest) := by
    rw [deliveredListings, deliveredListings, List.filterMap_append, List.filterMap_append,
      List.filterMap_cons_none itemless]
  rw [verdict, verdict, failures, listings]

/-- A notice may stand at another place among the messages that are heeded. -/
theorem verdict_moved (source : SourceId) (front part rest : List Message) :
    verdict pattern kept (front ++ .done source :: part ++ rest) complete =
      verdict pattern kept (front ++ (part ++ [.done source]) ++ rest) complete := by
  have silent (before behind : List Message) :
      verdict pattern kept (before ++ .done source :: behind) complete =
        verdict pattern kept (before ++ behind) complete :=
    verdict_silent rfl rfl before behind
  calc
    _ = verdict pattern kept (front ++ (part ++ rest)) complete := by
        rw [List.append_assoc, List.cons_append, silent]
    _ = verdict pattern kept (front ++ part ++ .done source :: rest) complete := by
        rw [silent, List.append_assoc]
    _ = _ := by simp

theorem verdict_eq_store_iff {heeded : List Message} {error : StoreError} :
    verdict pattern kept heeded complete = .error (.store error) ↔
      heeded.findSome? Message.storeFailure? = some error := by
  rw [verdict]
  cases heeded.findSome? Message.storeFailure? with
  | some found => simp
  | none => cases complete <;> simp

theorem verdict_eq_closed_iff {heeded : List Message} :
    verdict pattern kept heeded complete = .error .closed ↔
      heeded.findSome? Message.storeFailure? = none ∧ complete = false := by
  rw [verdict]
  cases heeded.findSome? Message.storeFailure? with
  | some found => simp
  | none => cases complete <;> simp

theorem verdict_eq_ok_iff {heeded : List Message} {listings : List Listing} :
    verdict pattern kept heeded complete = .ok listings ↔
      heeded.findSome? Message.storeFailure? = none ∧ complete = true ∧
        listings = kept ++ (deliveredListings heeded).filter fun listing =>
          pattern.accepts listing.package := by
  rw [verdict]
  cases heeded.findSome? Message.storeFailure? with
  | some found => simp
  | none => cases complete <;> simp [eq_comm]

namespace Consumer

variable {consumer : Consumer}

theorem receiveAll_of_isOver (ended : consumer.isOver = true) (messages : List Message) :
    consumer.receiveAll pattern messages = consumer := by
  cases messages with
  | nil => rfl
  | cons message rest => rw [receiveAll, if_pos ended]

theorem receive_of_storeFailure {message : Message} {error : StoreError}
    (failed : message.storeFailure? = some error) :
    consumer.receive pattern message = { consumer with failure := some error } := by
  cases message with
  | item source item => cases failed
  | done source => cases failed
  | failed source failure =>
      cases failure with
      | store reported =>
          cases failed
          rfl
      | uplink reported => cases failed

theorem deliveredListings_of_notices {message : Message} (notice : message.notices ≠ 0) :
    deliveredListings [message] = [] := by
  cases message with
  | item source item => exact absurd rfl notice
  | failed source failure => exact absurd rfl notice
  | done source => rfl

theorem notices_of_storeFailure {message : Message} {error : StoreError}
    (failed : message.storeFailure? = some error) : message.notices = 0 := by
  cases message with
  | item source item => rfl
  | done source => cases failed
  | failed source failure => rfl

theorem receive_sound (consumer : Consumer) (pattern : Matcher) {message : Message}
    (sound : message.storeFailure? = none) :
    (consumer.receive pattern message).failure = consumer.failure ∧
      (consumer.receive pattern message).awaited = consumer.awaited - message.notices ∧
      (consumer.receive pattern message).merged =
        consumer.merged ++ (deliveredListings [message]).filter fun listing =>
          pattern.accepts listing.package := by
  refine ⟨?_, ?_, foldl_merged consumer [message]⟩
  · cases message with
    | item source item => rfl
    | done source => rfl
    | failed source failure =>
        cases failure with
        | store error => cases sound
        | uplink error => rfl
  · have counted : (consumer.receive pattern message).awaited = _ :=
      foldl_awaited consumer [message]
    rwa [countP_isDone_cons, List.countP_nil, Nat.zero_add] at counted

theorem outcome_receiveAll (going : consumer.failure = none) (messages : List Message) :
    (consumer.receiveAll pattern messages).outcome =
      verdict pattern consumer.merged (beforeNotice consumer.awaited messages)
        (decide (consumer.awaited ≤ messages.countP Message.isDone)) := by
  induction messages generalizing consumer with
  | nil =>
      rw [receiveAll, outcome, going, beforeNotice]
      by_cases none : consumer.awaited = 0
      · simp [none, verdict, deliveredListings]
      · simp [none, verdict]
  | cons message rest ih =>
      by_cases none : consumer.awaited = 0
      · have ended : consumer.isOver = true := by simp [isOver, none]
        rw [receiveAll_of_isOver ended, outcome, going, none, beforeNotice_zero]
        simp [verdict, deliveredListings]
      · have ongoing : ¬ consumer.isOver = true := by simp [isOver, none, going]
        have complete : consumer.awaited - message.notices ≤ rest.countP Message.isDone ↔
            consumer.awaited ≤ (message :: rest).countP Message.isDone := by
          rw [countP_isDone_cons]
          omega
        rw [receiveAll, if_neg ongoing]
        cases failed : message.storeFailure? with
        | some error =>
            have ended : (consumer.receive pattern message).isOver = true := by
              simp [isOver, receive_of_storeFailure failed]
            have heeded : ¬ consumer.awaited ≤ message.notices := by
              rw [notices_of_storeFailure failed]
              omega
            rw [receiveAll_of_isOver ended, receive_of_storeFailure failed, beforeNotice,
              if_neg heeded, verdict_cons_failure failed, outcome]
        | none =>
            obtain ⟨sound, awaited, merged⟩ := consumer.receive_sound pattern failed
            rw [ih (sound.trans going), awaited, merged, decide_eq_decide.2 complete, beforeNotice]
            split
            · -- the last notice brings no listing, and nothing behind it is heeded
              rename_i last
              have notice : message.notices ≠ 0 := by omega
              rw [deliveredListings_of_notices notice, Nat.sub_eq_zero_of_le last,
                beforeNotice_zero, List.filter_nil, List.append_nil]
            · exact (verdict_cons failed _).symm

end Consumer

end Outcome

/-! ## Changes that make no difference -/

/-- A change to messages: the report of an uplink is left out, a notice is moved over a part of what
stands before the last notice, or what stands behind it becomes something else. -/
inductive Adjusts (producers : Nat) : List Message → List Message → Prop where
  | dropReport (front rest : List Message) (source : SourceId) (error : UplinkError) :
      Adjusts producers (front ++ .failed source (.uplink error) :: rest) (front ++ rest)
  | moveNotice (front part rest : List Message) (source : SourceId)
      (early : (front ++ .done source :: part).countP Message.isDone < producers) :
      Adjusts producers (front ++ .done source :: (part ++ rest))
        (front ++ (part ++ .done source :: rest))
  | changeBehind (front rest other : List Message)
      (last : producers ≤ front.countP Message.isDone) :
      Adjusts producers (front ++ rest) (front ++ other)

theorem merge_outcome_eq (pattern : Matcher) (producers : Nat) (messages : List Message) :
    (merge pattern producers messages).outcome =
      verdict pattern [] (beforeNotice producers messages)
        (decide (producers ≤ messages.countP Message.isDone)) :=
  Consumer.outcome_receiveAll rfl messages

theorem Adjusts.outcome_eq {producers : Nat} {messages others : List Message}
    (adjusts : Adjusts producers messages others) (pattern : Matcher) :
    (merge pattern producers messages).outcome = (merge pattern producers others).outcome := by
  rw [merge_outcome_eq, merge_outcome_eq]
  cases adjusts with
  | dropReport front rest source error =>
      have count : (front ++ .failed source (.uplink error) :: rest).countP Message.isDone =
          (front ++ rest).countP Message.isDone := by
        rw [List.countP_append, List.countP_append, List.countP_cons_of_neg (by nofun)]
      rw [count]
      by_cases enough : producers ≤ front.countP Message.isDone
      · rw [beforeNotice_append_of_le enough, beforeNotice_append_of_le enough]
      · have fewer := Nat.lt_of_not_le enough
        rw [beforeNotice_append fewer, beforeNotice_append fewer,
          beforeNotice_cons rfl (Nat.sub_pos_of_lt fewer)]
        exact verdict_silent rfl rfl front _
  | moveNotice front part rest source early =>
      let notice := Message.done source
      have moved : (front ++ notice :: part).Perm (front ++ (part ++ [notice])) :=
        (List.perm_append_singleton notice part).symm.append_left front
      have count := moved.countP_eq Message.isDone
      have whole : front ++ notice :: (part ++ rest) = front ++ notice :: part ++ rest := by simp
      have others : front ++ (part ++ notice :: rest) = front ++ (part ++ [notice]) ++ rest := by
        simp
      rw [whole, others, (moved.append_right rest).countP_eq, beforeNotice_append early,
        beforeNotice_append (count ▸ early), ← count]
      exact verdict_moved source front part _
  | changeBehind front rest other last =>
      have complete (behind : List Message) :
          producers ≤ (front ++ behind).countP Message.isDone := by
        rw [List.countP_append]
        omega
      rw [beforeNotice_append_of_le last, beforeNotice_append_of_le last,
        decide_eq_true (complete rest), decide_eq_true (complete other)]

theorem outcome_eq_of_eqvGen {producers : Nat} {messages others : List Message}
    (changed : Relation.EqvGen (Adjusts producers) messages others) (pattern : Matcher) :
    (merge pattern producers messages).outcome = (merge pattern producers others).outcome := by
  induction changed with
  | rel first second adjusts => exact adjusts.outcome_eq pattern
  | refl same => rfl
  | symm first second _ ih => exact ih.symm
  | trans first second third _ _ early late => exact early.trans late

/-- A merge fails with the first failure of the local store before the last notice that it awaits;
else it ends early exactly if there are too few notices; else it gives the matching listings of what
stands before the last notice, in order. Any number of changes that leave these alone, made forward
or back, leave the outcome as it is. -/
theorem merge_outcome (pattern : Matcher) (producers : Nat) (messages : List Message) :
    let heeded := beforeNotice producers messages
    let failure? := heeded.findSome? Message.storeFailure?
    let outcome := (merge pattern producers messages).outcome
    (∀ error, outcome = .error (.store error) ↔ failure? = some error) ∧
      (outcome = .error .closed ↔
        failure? = none ∧ messages.countP Message.isDone < producers) ∧
      (∀ listings, outcome = .ok listings ↔
        failure? = none ∧ producers ≤ messages.countP Message.isDone ∧
          listings = (deliveredListings heeded).filter fun listing =>
            pattern.accepts listing.package) ∧
      ∀ others, Relation.EqvGen (Adjusts producers) messages others →
        (merge pattern producers others).outcome = outcome := by
  intro heeded failure? outcome
  have stated : outcome = verdict pattern [] heeded
      (decide (producers ≤ messages.countP Message.isDone)) :=
    merge_outcome_eq pattern producers messages
  refine ⟨fun error => ?_, ?_, fun listings => ?_, fun others changed => ?_⟩
  · rw [stated, verdict_eq_store_iff]
  · rw [stated, verdict_eq_closed_iff, decide_eq_false_iff_not, Nat.not_le]
  · rw [stated, verdict_eq_ok_iff, decide_eq_true_iff, List.nil_append]
  · exact (outcome_eq_of_eqvGen changed pattern).symm

/-- The messages of an uplink that fails after a batch and of a local store. Then the report is left
out, the uplink's notice comes first, and another message follows the last notice. -/
theorem merge_outcome_sample :
    let uplink := SourceId.uplink "npmjs"
    let named (name : String) : Listing :=
      { Listing.blank with package := { Package.Summary.blank with name } }
    let batch := Message.item uplink (.batch [named "pad-b", named "other"])
    let record := Message.item .localStore
      (.single ⟨{ Package.Manifest.blank with name := "pad-a" }, .epoch⟩)
    let failure := Message.failed .localStore (.store (.unavailable "disk"))
    let messages := [batch, .failed uplink (.uplink (.status "npmjs" 502)), .done uplink, record,
      .done .localStore, failure]
    let others := [.done uplink, batch, record, .done .localStore, batch]
    Relation.EqvGen (Adjusts 2) messages others ∧
      ∃ listings, (merge (Matcher.compile "pad") 2 messages).outcome = .ok listings ∧
        listings.map Listing.name = ["pad-b", "pad-a"] ∧
        (merge (Matcher.compile "pad") 2 others).outcome = .ok listings := by
  intro uplink named batch record failure messages others
  have changed : Relation.EqvGen (Adjusts 2) messages others := by
    have dropped : Adjusts 2 messages [batch, .done uplink, record, .done .localStore, failure] :=
      .dropReport [batch] _ uplink _
    have moved : Adjusts 2 [.done uplink, batch, record, .done .localStore, failure]
        [batch, .done uplink, record, .done .localStore, failure] :=
      .moveNotice [] [batch] [record, .done .localStore, failure] uplink (by decide)
    have behind : Adjusts 2 [.done uplink, batch, record, .done .localStore, failure] others :=
      .changeBehind [.done uplink, batch, record, .done .localStore] [failure] [batch]
        (by decide)
    have early := Relation.EqvGen.trans _ _ _ (.rel _ _ dropped) (.symm _ _ (.rel _ _ moved))
    exact early.trans _ _ _ (.rel _ _ behind)
  obtain ⟨-, -, succeeds, unchanged⟩ := merge_outcome (Matcher.compile "pad") 2 messages
  have outcome := (succeeds _).2 ⟨rfl, by decide, rfl⟩
  exact ⟨changed, _, outcome, by decide +kernel, (unchanged others changed).trans outcome⟩

end PackageSearch.Merge

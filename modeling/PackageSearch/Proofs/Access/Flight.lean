import PackageSearch.Proofs.Access.Decisions
import PackageSearch.Proofs.Interleaving

/-!
# Checks in any order of completion

A window of checks in flight, apart from the clock that says when each check is finished: `Moves`
allows every order of completion that a bounded window allows. `decideAll_in_any_order` says that
whatever the order, the outcome is that of checking one package after the other; `Window.InOrder`
also says how far the checks get ahead of the results that were taken.
-/

set_option autoImplicit false

namespace PackageSearch.Access

/-- What happens to the check of the package at a position. -/
inductive Turn where
  | admitted (position : Nat)
  | begun (position : Nat)
  | finished (position : Nat)
  | taken (position : Nat)
  deriving DecidableEq

namespace Turn

def admitted? : Turn → Option Nat
  | admitted position => some position
  | begun _ => none
  | finished _ => none
  | taken _ => none

def begun? : Turn → Option Nat
  | admitted _ => none
  | begun position => some position
  | finished _ => none
  | taken _ => none

def taken? : Turn → Option Nat
  | admitted _ => none
  | begun _ => none
  | finished _ => none
  | taken position => some position

end Turn

/-- The positions whose checks were begun and are not finished. -/
def inFlight (turns : List Turn) : List Nat :=
  (turns.filterMap Turn.begun?).filter fun position => .finished position ∉ turns

namespace Window

/-- What can happen in a window of at most `limit` checks: a package is taken up, the first check
that waits begins, any running check finishes, or the result at the front is taken. Time passes, and
the number of running checks is noted, without a turn. -/
inductive Moves (oracle : Oracle) (identity : Identity) (limit : Nat) :
    Window → Option Turn → Window → Prop where
  | enter {clock peak : Nat} {package : String} {waiting : List String} {held : List Check}
      {taken : List Bool} : held.length < limit →
      Moves oracle identity limit ⟨clock, package :: waiting, held, taken, peak⟩
        (some (.admitted (taken.length + held.length)))
        ⟨clock, waiting, held ++ [⟨package, .queued⟩], taken, peak⟩
  | start {window : Window} {package : String} (place due : Nat) :
      window.held[place]? = some ⟨package, .queued⟩ →
      (∀ earlier < place, ∀ check, window.held[earlier]? = some check → check.stage ≠ .queued) →
      Moves oracle identity limit window (some (.begun (window.taken.length + place)))
        { window with held := window.held.set place ⟨package, .running due⟩ }
  | finish {window : Window} {package : String} {due : Nat} (place : Nat) :
      window.held[place]? = some ⟨package, .running due⟩ →
      Moves oracle identity limit window (some (.finished (window.taken.length + place)))
        { window with
          held := window.held.set place ⟨package, .finished (oracle.decision identity package)⟩ }
  | take {clock peak : Nat} {waiting : List String} {rest : List Check} {package : String}
      {allowed : Bool} {taken : List Bool} :
      Moves oracle identity limit
        ⟨clock, waiting, ⟨package, .finished (.ok allowed)⟩ :: rest, taken, peak⟩
        (some (.taken taken.length)) ⟨clock, waiting, rest, allowed :: taken, peak⟩
  | wait {window : Window} (clock : Nat) :
      Moves oracle identity limit window none { window with clock }
  | note {window : Window} :
      Moves oracle identity limit window none
        { window with peak := max window.peak window.runningCount }

/-- Moves one after the other, with their turns. -/
inductive Course (oracle : Oracle) (identity : Identity) (limit : Nat) :
    Window → List Turn → Window → Prop where
  | refl {window : Window} : Course oracle identity limit window [] window
  | snoc {first middle last : Window} {turns : List Turn} {turn : Option Turn} :
      Course oracle identity limit first turns middle →
      Moves oracle identity limit middle turn last →
      Course oracle identity limit first (turns ++ turn.toList) last

/-- How checking comes to an end: all results are taken, or the one at the front is a failure. -/
inductive Ends : Window → Except CheckError (List Bool) → Prop where
  | all {clock peak : Nat} {taken : List Bool} :
      Ends ⟨clock, [], [], taken, peak⟩ (.ok taken.reverse)
  | failed {clock peak : Nat} {waiting : List String} {rest : List Check} {package : String}
      {error : CheckError} {taken : List Bool} :
      Ends ⟨clock, waiting, ⟨package, .finished (.error error)⟩ :: rest, taken, peak⟩ (.error error)

variable {oracle : Oracle} {identity : Identity} {limit : Nat}

/-! ## What every move keeps -/

/-- A window on the way from a list of packages. -/
structure OnTheWay (oracle : Oracle) (identity : Identity) (limit : Nat) (packages : List String)
    (window : Window) : Prop where
  sound : Sound oracle identity window.held
  verdict : window.verdict oracle identity = decideInOrder oracle identity packages
  places : window.taken.length + window.held.length + window.waiting.length = packages.length
  room : window.held.length ≤ limit
  noted : window.peak ≤ limit

theorem runningCount_le_length (window : Window) : window.runningCount ≤ window.held.length :=
  List.length_filter_le _ _

theorem Sound.set {held : List Check} {place : Nat} {check : Check}
    (sound : Sound oracle identity held)
    (here : ∀ result, check.stage = .finished result →
      result = oracle.decision identity check.package) :
    Sound oracle identity (held.set place check) := by
  intro other member
  rcases List.mem_or_eq_of_mem_set member with earlier | rfl
  · exact sound other earlier
  · exact here

/-- A check that only gets further on leaves the verdict as it is. -/
theorem OnTheWay.set {packages : List String} {window : Window} {place : Nat} {package : String}
    {stage later : Stage} (own : OnTheWay oracle identity limit packages window)
    (found : window.held[place]? = some ⟨package, stage⟩)
    (here : ∀ result, later = .finished result → result = oracle.decision identity package) :
    OnTheWay oracle identity limit packages
      { window with held := window.held.set place ⟨package, later⟩ } where
  sound := own.sound.set here
  verdict := by
    have same : (window.held.set place ⟨package, later⟩).map Check.package =
        window.held.map Check.package := map_set_of_eq found rfl
    rw [← own.verdict, Window.verdict, Window.verdict, same]
  places := by simpa using own.places
  room := by simpa using own.room
  noted := own.noted

theorem Moves.onTheWay {packages : List String} {window next : Window} {turn : Option Turn}
    (moves : Moves oracle identity limit window turn next)
    (own : OnTheWay oracle identity limit packages window) :
    OnTheWay oracle identity limit packages next := by
  cases moves with
  | @enter clock peak package waiting held taken room =>
      obtain ⟨sound, verdict, places, -, noted⟩ := own
      refine ⟨?_, ?_, ?_, ?_, noted⟩
      · intro check member result finished
        rcases List.mem_append.1 member with earlier | fresh
        · exact sound check earlier result finished
        · cases List.mem_singleton.1 fresh
          cases finished
      · simpa [Window.verdict] using verdict
      · simp only [List.length_cons, List.length_append, List.length_nil] at places ⊢
        omega
      · rw [List.length_append]
        exact room
  | start _ _ found _ =>
      refine own.set found ?_
      intro result started
      cases started
  | finish _ found =>
      refine own.set found ?_
      rintro result ⟨⟩
      rfl
  | @take clock peak waiting rest package allowed taken =>
      obtain ⟨sound, verdict, places, room, noted⟩ := own
      have decided := sound _ List.mem_cons_self _ rfl
      refine ⟨sound.tail, ?_, ?_, ?_, noted⟩
      · rw [← verdict]
        simp only [Window.verdict, List.map_cons, List.cons_append, decideInOrder, ← decided]
        cases decideInOrder oracle identity (rest.map Check.package ++ waiting) <;>
          simp [bind, Except.bind, Except.map]
      · simp only [List.length_cons] at places ⊢
        omega
      · exact Nat.le_of_succ_le room
  | wait clock => exact ⟨own.sound, own.verdict, own.places, own.room, own.noted⟩
  | note =>
      obtain ⟨sound, verdict, places, room, noted⟩ := own
      exact ⟨sound, verdict, places, room,
        Nat.max_le.2 ⟨noted, Nat.le_trans (runningCount_le_length window) room⟩⟩

theorem onTheWay_start (oracle : Oracle) (identity : Identity) (limit : Nat)
    (packages : List String) : OnTheWay oracle identity limit packages (start packages) where
  sound := nofun
  verdict := by
    simp only [verdict, start, List.map_nil, List.nil_append, List.reverse_nil]
    cases decideInOrder oracle identity packages <;> rfl
  places := by simp [start]
  room := Nat.zero_le _
  noted := Nat.zero_le _

theorem Course.onTheWay {packages : List String} {first last : Window} {turns : List Turn}
    (course : Course oracle identity limit first turns last)
    (own : OnTheWay oracle identity limit packages first) :
    OnTheWay oracle identity limit packages last := by
  induction course with
  | refl => exact own
  | snoc _ moves ih => exact moves.onTheWay ih

/-- Whenever checking comes to an end, its outcome is that of checking in order. -/
theorem OnTheWay.outcome_eq {packages : List String} {window : Window}
    {outcome : Except CheckError (List Bool)}
    (own : OnTheWay oracle identity limit packages window) (ends : window.Ends outcome) :
    outcome = decideInOrder oracle identity packages := by
  rw [← own.verdict]
  cases ends with
  | all => simp [Window.verdict, decideInOrder, Except.map]
  | failed =>
      have decided := own.sound _ List.mem_cons_self _ rfl
      simp [Window.verdict, decideInOrder, ← decided, bind, Except.bind, Except.map]

/-- As long as checking has not come to an end, something can happen. -/
theorem exists_moves (positive : 0 < limit) (window : Window) :
    (∃ outcome, window.Ends outcome) ∨
      ∃ turn next, Moves oracle identity limit window (some turn) next := by
  obtain ⟨clock, waiting, held, taken, peak⟩ := window
  cases held with
  | nil =>
      cases waiting with
      | nil => exact .inl ⟨_, .all⟩
      | cons package waiting => exact .inr ⟨_, _, .enter positive⟩
  | cons check rest =>
      obtain ⟨package, stage⟩ := check
      cases stage with
      | queued => exact .inr ⟨_, _, .start 0 0 rfl nofun⟩
      | running due => exact .inr ⟨_, _, .finish 0 rfl⟩
      | finished result =>
          cases result with
          | ok allowed => exact .inr ⟨_, _, .take⟩
          | error error => exact .inl ⟨_, .failed⟩

/-! ## How many turns there are -/

/-- How many turns a check still has before it. -/
def turnsOf : Stage → Nat
  | .queued => 3
  | .running _ => 2
  | .finished _ => 1

def turnsLeft (window : Window) : Nat :=
  4 * window.waiting.length + (window.held.map fun check => turnsOf check.stage).sum

theorem turnsLeft_set {window : Window} {place : Nat} {before : Check} (after : Check)
    (found : window.held[place]? = some before)
    (less : turnsOf after.stage + 1 = turnsOf before.stage) :
    turnsLeft { window with held := window.held.set place after } + 1 = window.turnsLeft := by
  have total := sum_map_set (fun check : Check => turnsOf check.stage) after found
  simp only [turnsLeft] at total ⊢
  omega

theorem Moves.turnsLeft_eq {window next : Window} {turn : Option Turn}
    (moves : Moves oracle identity limit window turn next) :
    turn.toList.length + next.turnsLeft = window.turnsLeft := by
  cases moves with
  | enter room =>
      simp only [turnsLeft, List.map_append, List.sum_append, List.map_cons, List.map_nil,
        List.sum_cons, List.sum_nil, List.length_cons, turnsOf, Option.toList_some, List.length_nil]
      omega
  | @start _ package place due found _ =>
      rw [Nat.add_comm]
      exact turnsLeft_set ⟨package, .running due⟩ found rfl
  | @finish _ package due place found =>
      rw [Nat.add_comm]
      exact turnsLeft_set ⟨package, .finished (oracle.decision identity package)⟩ found rfl
  | take =>
      simp only [turnsLeft, List.map_cons, List.sum_cons, turnsOf, Option.toList_some,
        List.length_cons, List.length_nil]
      omega
  | wait => exact Nat.zero_add _
  | note => exact Nat.zero_add _

theorem Course.length_add_turnsLeft {first last : Window} {turns : List Turn}
    (course : Course oracle identity limit first turns last) :
    turns.length + last.turnsLeft = first.turnsLeft := by
  induction course with
  | refl => exact Nat.zero_add _
  | snoc _ moves ih =>
      rw [← ih, ← moves.turnsLeft_eq, List.length_append, Nat.add_assoc]

/-! ## What turns leave behind -/

/-- What the turns so far say of a window. The checks before some place were begun, and those from
there on were not. -/
structure Traced (limit : Nat) (turns : List Turn) (window : Window) : Prop where
  admitted : turns.filterMap Turn.admitted? = List.range (window.taken.length + window.held.length)
  begun : ∃ count ≤ window.held.length,
    turns.filterMap Turn.begun? = List.range (window.taken.length + count) ∧
    ∀ place check, window.held[place]? = some check → (check.stage = .queued ↔ count ≤ place)
  taken : turns.filterMap Turn.taken? = List.range window.taken.length
  settled : ∀ position < window.taken.length, .finished position ∈ turns
  finished : ∀ place check result, window.held[place]? = some check →
    check.stage = .finished result → .finished (window.taken.length + place) ∈ turns
  awaited : ∀ early position, early ++ [.begun position] <+: turns →
    ∀ earlier, earlier + limit ≤ position → .taken earlier ∈ early

theorem traced_start (limit : Nat) (packages : List String) : Traced limit [] (start packages) where
  admitted := rfl
  begun := ⟨0, Nat.le_refl _, rfl, nofun⟩
  taken := rfl
  settled := nofun
  finished := nofun
  awaited := by
    intro early position begins
    simp at begins

theorem Traced.taken_mem {turns : List Turn} {window : Window}
    (traced : Traced limit turns window) {position : Nat}
    (before : position < window.taken.length) : .taken position ∈ turns := by
  have taken : position ∈ turns.filterMap Turn.taken? := by
    rw [traced.taken]
    exact List.mem_range.2 before
  obtain ⟨turn, member, view⟩ := List.mem_filterMap.1 taken
  cases turn with
  | taken =>
      cases view
      exact member
  | admitted | begun | finished => cases view

/-- A turn that begins no check leaves what was awaited before each beginning. -/
theorem Traced.awaited_snoc {turns : List Turn} {window : Window} {turn : Turn}
    (traced : Traced limit turns window) (other : turn.begun? = none) :
    ∀ early position, early ++ [.begun position] <+: turns ++ [turn] →
      ∀ earlier, earlier + limit ≤ position → .taken earlier ∈ early := by
  intro early position begins
  rcases List.prefix_concat_iff.1 begins with last | before
  · obtain ⟨-, same⟩ := List.append_inj' last rfl
    cases same
    cases other
  · exact traced.awaited early position before

theorem Traced.enter {turns : List Turn} {clock peak : Nat} {package : String}
    {waiting : List String} {held : List Check} {taken : List Bool}
    (traced : Traced limit turns ⟨clock, package :: waiting, held, taken, peak⟩) :
    Traced limit (turns ++ [.admitted (taken.length + held.length)])
      ⟨clock, waiting, held ++ [⟨package, .queued⟩], taken, peak⟩ := by
  obtain ⟨count, small, begun, stages⟩ := traced.begun
  refine ⟨?_, ⟨count, ?_, ?_, ?_⟩, ?_, ?_, ?_, traced.awaited_snoc rfl⟩
  · simp [traced.admitted, Turn.admitted?, List.range_succ, ← Nat.add_assoc]
  · rw [List.length_append]
    exact Nat.le_add_right_of_le small
  · simpa [List.filterMap_cons, Turn.begun?] using begun
  · intro place check found
    rcases Nat.lt_or_ge place held.length with inside | beyond
    · rw [List.getElem?_append_left inside] at found
      exact stages place check found
    · obtain ⟨-, same⟩ := List.getElem?_eq_some_iff.1 found
      rw [List.getElem?_append_right beyond] at found
      obtain ⟨rfl⟩ := List.mem_singleton.1 (List.mem_of_getElem? found)
      simpa using Nat.le_trans small beyond
  · simpa [List.filterMap_cons, Turn.taken?] using traced.taken
  · intro position before
    exact List.mem_append_left _ (traced.settled position before)
  · intro place check result found finished
    rcases Nat.lt_or_ge place held.length with inside | beyond
    · rw [List.getElem?_append_left inside] at found
      exact List.mem_append_left _ (traced.finished place check result found finished)
    · rw [List.getElem?_append_right beyond] at found
      obtain ⟨rfl⟩ := List.mem_singleton.1 (List.mem_of_getElem? found)
      cases finished

/-- The check that begins is the first one that was not begun. -/
theorem Traced.start {turns : List Turn} {window : Window} {package : String} {place due : Nat}
    (traced : Traced limit turns window) (room : window.held.length ≤ limit)
    (found : window.held[place]? = some ⟨package, .queued⟩)
    (first : ∀ earlier < place, ∀ check, window.held[earlier]? = some check →
      check.stage ≠ .queued) :
    Traced limit (turns ++ [.begun (window.taken.length + place)])
      { window with held := window.held.set place ⟨package, .running due⟩ } := by
  obtain ⟨count, small, begun, stages⟩ := traced.begun
  obtain ⟨inside, -⟩ := List.getElem?_eq_some_iff.1 found
  have same : count = place := by
    refine Nat.le_antisymm ((stages place _ found).1 rfl) (Nat.le_of_not_lt fun before => ?_)
    have here : window.held[count]? = some window.held[count] := List.getElem?_eq_getElem _
    exact first count before _ here ((stages count _ here).2 (Nat.le_refl _))
  subst same
  refine ⟨?_, ⟨count + 1, ?_, ?_, ?_⟩, ?_, ?_, ?_, ?_⟩
  · simpa [List.filterMap_cons, Turn.admitted?] using traced.admitted
  · rw [List.length_set]
    exact inside
  · simp [begun, Turn.begun?, List.range_succ, ← Nat.add_assoc]
  · intro other check held
    by_cases here : count = other
    · subst here
      rw [List.getElem?_set_self inside] at held
      cases held
      simp
    · rw [List.getElem?_set_ne here] at held
      rw [stages other check held]
      omega
  · simpa [List.filterMap_cons, Turn.taken?] using traced.taken
  · intro position before
    exact List.mem_append_left _ (traced.settled position before)
  · intro other check result held finished
    by_cases here : count = other
    · subst here
      rw [List.getElem?_set_self inside] at held
      cases held
      cases finished
    · rw [List.getElem?_set_ne here] at held
      exact List.mem_append_left _ (traced.finished other check result held finished)
  · intro early position begins earlier behind
    rcases List.prefix_concat_iff.1 begins with last | before
    · obtain ⟨rfl, same⟩ := List.append_inj' last rfl
      cases same
      -- Were its result not taken, the window would hold more than `limit` checks.
      exact traced.taken_mem (by omega)
    · exact traced.awaited early position before earlier behind

theorem Traced.finish {turns : List Turn} {window : Window} {package : String} {place due : Nat}
    {answer : Except CheckError Bool} (traced : Traced limit turns window)
    (found : window.held[place]? = some ⟨package, .running due⟩) :
    Traced limit (turns ++ [.finished (window.taken.length + place)])
      { window with held := window.held.set place ⟨package, .finished answer⟩ } := by
  obtain ⟨count, small, begun, stages⟩ := traced.begun
  obtain ⟨inside, -⟩ := List.getElem?_eq_some_iff.1 found
  refine ⟨?_, ⟨count, ?_, ?_, ?_⟩, ?_, ?_, ?_, traced.awaited_snoc rfl⟩
  · simpa [List.filterMap_cons, Turn.admitted?] using traced.admitted
  · simpa using small
  · simpa [List.filterMap_cons, Turn.begun?] using begun
  · intro other check held
    by_cases here : place = other
    · subst here
      rw [List.getElem?_set_self inside] at held
      cases held
      simpa using stages place _ found
    · rw [List.getElem?_set_ne here] at held
      exact stages other check held
  · simpa [List.filterMap_cons, Turn.taken?] using traced.taken
  · intro position before
    exact List.mem_append_left _ (traced.settled position before)
  · intro other check result held finished
    by_cases here : place = other
    · subst here
      exact List.mem_append_right _ List.mem_cons_self
    · rw [List.getElem?_set_ne here] at held
      exact List.mem_append_left _ (traced.finished other check result held finished)

theorem Traced.take {turns : List Turn} {clock peak : Nat} {waiting : List String}
    {rest : List Check} {package : String} {allowed : Bool} {taken : List Bool}
    (traced : Traced limit turns
      ⟨clock, waiting, ⟨package, .finished (.ok allowed)⟩ :: rest, taken, peak⟩) :
    Traced limit (turns ++ [.taken taken.length])
      ⟨clock, waiting, rest, allowed :: taken, peak⟩ := by
  obtain ⟨count, small, begun, stages⟩ := traced.begun
  have some : 0 < count := Nat.pos_of_ne_zero fun none => by
    cases (stages 0 _ rfl).2 (Nat.le_of_eq none)
  refine ⟨?_, ⟨count - 1, ?_, ?_, ?_⟩, ?_, ?_, ?_, traced.awaited_snoc rfl⟩
  · simpa [List.filterMap_cons, Turn.admitted?, Nat.add_right_comm, Nat.add_assoc]
      using traced.admitted
  · exact Nat.sub_le_of_le_add small
  · have same : taken.length + 1 + (count - 1) = taken.length + count := by omega
    simpa [List.filterMap_cons, Turn.begun?, same] using begun
  · intro place check held
    rw [stages (place + 1) check held]
    omega
  · simp [traced.taken, Turn.taken?, List.range_succ]
  · intro position before
    rcases Nat.lt_succ_iff_lt_or_eq.1 before with earlier | rfl
    · exact List.mem_append_left _ (traced.settled position earlier)
    · exact List.mem_append_left _ (traced.finished 0 _ _ rfl rfl)
  · intro place check result held finished
    have known := traced.finished (place + 1) check result held finished
    rw [List.length_cons, Nat.add_right_comm]
    exact List.mem_append_left _ known

theorem Moves.traced {window next : Window} {turn : Option Turn} {turns : List Turn}
    (moves : Moves oracle identity limit window turn next) (room : window.held.length ≤ limit)
    (traced : Traced limit turns window) : Traced limit (turns ++ turn.toList) next := by
  cases moves with
  | enter => exact traced.enter
  | start _ _ found first => exact traced.start room found first
  | finish _ found => exact traced.finish found
  | take => exact traced.take
  | wait | note =>
      rw [Option.toList_none, List.append_nil]
      exact ⟨traced.admitted, traced.begun, traced.taken, traced.settled, traced.finished,
        traced.awaited⟩

theorem Course.traced {packages : List String} {window : Window} {turns : List Turn}
    (course : Course oracle identity limit (start packages) turns window) :
    Traced limit turns window := by
  induction course with
  | refl => exact traced_start limit packages
  | snoc earlier moves ih =>
      have own := earlier.onTheWay (onTheWay_start oracle identity limit packages)
      exact moves.traced own.room ih

/-- Of the checks that were begun, those in front of the window are finished. -/
theorem Traced.length_inFlight_le {turns : List Turn} {window : Window}
    (traced : Traced limit turns window) : (inFlight turns).length ≤ window.held.length := by
  obtain ⟨count, small, begun, -⟩ := traced.begun
  have front : (List.range window.taken.length).filter
      (fun position => .finished position ∉ turns) = [] := by
    refine List.filter_eq_nil_iff.2 fun position member => ?_
    simpa using traced.settled position (List.mem_range.1 member)
  rw [inFlight, begun, List.range_add, List.filter_append, front, List.nil_append]
  refine Nat.le_trans (List.length_filter_le _ _) ?_
  simpa using small

/-! ## The order of the clock is one of them -/

theorem Course.trans {first middle last : Window} {early late : List Turn}
    (before : Course oracle identity limit first early middle)
    (behind : Course oracle identity limit middle late last) :
    Course oracle identity limit first (early ++ late) last := by
  induction behind with
  | refl => rwa [List.append_nil]
  | snoc _ moves ih =>
      rw [← List.append_assoc]
      exact ih.snoc moves

theorem Course.single {window next : Window} {turn : Option Turn}
    (moves : Moves oracle identity limit window turn next) :
    Course oracle identity limit window turn.toList next :=
  Course.refl.snoc moves

/-- Taking up as many packages as there is room for is taking up one after the other. -/
theorem exists_course_enter (clock peak : Nat) (taken : List Bool) (count : Nat) :
    ∀ (waiting : List String) (held : List Check), held.length + count ≤ limit →
      ∃ turns, Course oracle identity limit ⟨clock, waiting, held, taken, peak⟩ turns
        ⟨clock, waiting.drop count,
          held ++ (waiting.take count).map (fun package => ⟨package, .queued⟩), taken, peak⟩ := by
  induction count with
  | zero =>
      intro waiting held _
      refine ⟨[], ?_⟩
      simpa using Course.refl
  | succ count ih =>
      intro waiting held room
      cases waiting with
      | nil =>
          refine ⟨[], ?_⟩
          simpa using Course.refl
      | cons package waiting =>
          have small : held.length + 1 + count ≤ limit := by omega
          obtain ⟨turns, course⟩ := ih waiting (held ++ [⟨package, .queued⟩]) (by simpa using small)
          rw [List.append_assoc, List.singleton_append] at course
          exact ⟨_, (Course.single (.enter (by omega))).trans course⟩

theorem exists_course_fill {window : Window} (room : window.held.length ≤ limit) :
    ∃ turns, Course oracle identity limit window turns (window.fill limit) :=
  exists_course_enter window.clock window.peak window.taken (limit - window.held.length)
    window.waiting window.held (by omega)

theorem exists_finish_of_finishDue? {clock : Nat} {held next : List Check}
    (found : finishDue? oracle identity clock held = some next) :
    ∃ place package due, held[place]? = some ⟨package, .running due⟩ ∧
      next = held.set place ⟨package, .finished (oracle.decision identity package)⟩ := by
  induction held generalizing next with
  | nil => cases found
  | cons check rest ih =>
      have later (skipped : (finishDue? oracle identity clock rest).map (check :: ·) = some next) :
          ∃ place package due, (check :: rest)[place]? = some ⟨package, .running due⟩ ∧
            next = (check :: rest).set place
              ⟨package, .finished (oracle.decision identity package)⟩ := by
        obtain ⟨tail, inner, rfl⟩ := Option.map_eq_some_iff.1 skipped
        obtain ⟨place, package, due, held, rfl⟩ := ih inner
        exact ⟨place + 1, package, due, held, rfl⟩
      obtain ⟨package, stage⟩ := check
      cases stage with
      | queued => exact later found
      | finished result => exact later found
      | running due =>
          simp only [finishDue?] at found
          split at found
          · cases found
            exact ⟨0, package, due, rfl, rfl⟩
          · exact later found

theorem exists_start_of_begin? {clock : Nat} {held next : List Check}
    (found : begin? oracle identity clock held = some next) :
    ∃ place package, held[place]? = some ⟨package, .queued⟩ ∧
      (∀ earlier < place, ∀ check, held[earlier]? = some check → check.stage ≠ .queued) ∧
      next = held.set place ⟨package,
        if oracle.delay package = 0 then .finished (oracle.decision identity package)
        else .running (clock + oracle.delay package)⟩ := by
  induction held generalizing next with
  | nil => cases found
  | cons check rest ih =>
      have later (begun : check.stage ≠ .queued)
          (skipped : (begin? oracle identity clock rest).map (check :: ·) = some next) :
          ∃ place package, (check :: rest)[place]? = some ⟨package, .queued⟩ ∧
            (∀ earlier < place, ∀ other, (check :: rest)[earlier]? = some other →
              other.stage ≠ .queued) ∧
            next = (check :: rest).set place ⟨package,
              if oracle.delay package = 0 then .finished (oracle.decision identity package)
              else .running (clock + oracle.delay package)⟩ := by
        obtain ⟨tail, inner, rfl⟩ := Option.map_eq_some_iff.1 skipped
        obtain ⟨place, package, held, first, rfl⟩ := ih inner
        refine ⟨place + 1, package, held, fun earlier before other found => ?_, rfl⟩
        cases earlier with
        | zero =>
            cases found
            exact begun
        | succ earlier => exact first earlier (Nat.lt_of_succ_lt_succ before) other found
      obtain ⟨package, stage⟩ := check
      cases stage with
      | running due => exact later nofun found
      | finished result => exact later nofun found
      | queued =>
          cases found
          exact ⟨0, package, rfl, nofun, rfl⟩

theorem runningCount_set {window : Window} {place : Nat} {package : String} (due : Nat)
    (queued : window.held[place]? = some ⟨package, .queued⟩) :
    runningCount { window with held := window.held.set place ⟨package, .running due⟩ } =
      window.runningCount + 1 := by
  obtain ⟨inside, same⟩ := List.getElem?_eq_some_iff.1 queued
  simp only [runningCount, ← List.countP_eq_length_filter]
  rw [List.countP_set inside, same]
  rfl

/-- A check that begins is noted; one without delay is finished at once. -/
theorem exists_course_begin {window : Window} {held : List Check}
    (found : begin? oracle identity window.clock window.held = some held) :
    ∃ turns, Course oracle identity limit window turns
      { window with held, peak := max window.peak (window.runningCount + 1) } := by
  obtain ⟨place, package, queued, first, rfl⟩ := exists_start_of_begin? found
  have noted (due : Nat) : Course oracle identity limit window
      ([.begun (window.taken.length + place)] ++ [])
      { window with
        held := window.held.set place ⟨package, .running due⟩
        peak := max window.peak (window.runningCount + 1) } := by
    rw [← runningCount_set due queued]
    exact (Course.single (.start place due queued first)).snoc .note
  by_cases immediate : oracle.delay package = 0
  · obtain ⟨inside, -⟩ := List.getElem?_eq_some_iff.1 queued
    have running : (window.held.set place ⟨package, .running 0⟩)[place]? =
        some ⟨package, .running 0⟩ := List.getElem?_set_self inside
    have finished := (noted 0).snoc (.finish place running)
    rw [List.set_set] at finished
    rw [if_pos immediate]
    exact ⟨_, finished⟩
  · rw [if_neg immediate]
    exact ⟨_, noted _⟩

theorem exists_course_move {window next : Window}
    (moved : window.move oracle identity = .inl next) :
    ∃ turns, Course oracle identity limit window turns next := by
  unfold move at moved
  split at moved
  · rename_i held advanced
    cases moved
    obtain ⟨place, package, due, running, rfl⟩ := exists_finish_of_finishDue? advanced
    exact ⟨_, .single (.finish place running)⟩
  · split at moved
    · rename_i held begun
      cases moved
      exact exists_course_begin begun
    · split at moved
      · rename_i due next
        cases moved
        exact ⟨_, .single (.wait due)⟩
      · cases moved

theorem move_ne_inr {window : Window} {check : Check} {rest : List Check}
    (held : window.held = check :: rest) (unfinished : ∀ result, check.stage ≠ .finished result)
    (outcome : Except CheckError (List Bool)) : window.move oracle identity ≠ .inr outcome := by
  intro moved
  unfold move at moved
  split at moved
  · cases moved
  · split at moved
    · cases moved
    · split at moved
      · cases moved
      · rename_i idle _ timeless
        rw [held] at idle timeless
        obtain ⟨result, finished⟩ := front_finished idle timeless
        exact unfinished result finished

/-- A step of the clock is a course, or it finds that checking has come to an end. -/
theorem exists_course_step (positive : 0 < limit) {window : Window}
    (room : window.held.length ≤ limit) :
    (∀ next, window.step oracle identity limit = .inl next →
      ∃ turns, Course oracle identity limit window turns next) ∧
    ∀ outcome, window.step oracle identity limit = .inr outcome →
      (window.fill limit).Ends outcome := by
  obtain ⟨turns, filled⟩ := exists_course_fill room
  have exhausted := waiting_fill positive window
  simp only [step]
  generalize window.fill limit = full at filled exhausted
  obtain ⟨clock, waiting, held, taken, peak⟩ := full
  cases held with
  | nil =>
      cases exhausted rfl
      constructor
      · intro next moved
        cases moved
      · rintro outcome ⟨⟩
        exact .all
  | cons check rest =>
      obtain ⟨package, stage⟩ := check
      cases stage with
      | queued =>
          constructor
          · intro next moved
            obtain ⟨more, course⟩ := exists_course_move moved
            exact ⟨_, filled.trans course⟩
          · intro outcome moved
            have unfinished (result) : Stage.queued ≠ .finished result := by simp
            exact absurd moved (move_ne_inr rfl unfinished outcome)
      | running due =>
          constructor
          · intro next moved
            obtain ⟨more, course⟩ := exists_course_move moved
            exact ⟨_, filled.trans course⟩
          · intro outcome moved
            have unfinished (result) : Stage.running due ≠ .finished result := by simp
            exact absurd moved (move_ne_inr rfl unfinished outcome)
      | finished result =>
          cases result with
          | ok allowed =>
              constructor
              · rintro next ⟨⟩
                exact ⟨_, filled.snoc .take⟩
              · intro outcome moved
                cases moved
          | error error =>
              constructor
              · intro next moved
                cases moved
              · rintro outcome ⟨⟩
                exact .failed

/-- With fuel enough, checking in the order of the clock is a course to an end. -/
theorem exists_course_run (positive : 0 < limit) {packages : List String} {fuel : Nat} :
    ∀ {window : Window}, OnTheWay oracle identity limit packages window → window.cost < fuel →
      ∃ turns last, Course oracle identity limit window turns last ∧
        last.Ends (run oracle identity limit fuel window).1 ∧
        (run oracle identity limit fuel window).2 = last.peak := by
  induction fuel with
  | zero =>
      intro window _ enough
      omega
  | succ fuel ih =>
      intro window own enough
      obtain ⟨goes, ends⟩ := exists_course_step positive own.room
      have leads := step_leadsTo positive own.sound
      simp only [run]
      cases stepped : window.step oracle identity limit with
      | inr outcome =>
          obtain ⟨turns, filled⟩ := exists_course_fill own.room
          exact ⟨turns, _, filled, ends outcome stepped, rfl⟩
      | inl next =>
          rw [stepped] at leads
          obtain ⟨-, less, -⟩ := leads
          obtain ⟨turns, course⟩ := goes next stepped
          obtain ⟨more, last, further, ended, peak⟩ := ih (course.onTheWay own) (by omega)
          exact ⟨_, last, course.trans further, ended, peak⟩

/-! ## Any order of completion -/

/-- What holds of the checks of a list of packages at every moment. -/
structure InOrder (oracle : Oracle) (identity : Identity) (limit : Nat) (packages : List String)
    (turns : List Turn) (window : Window) : Prop where
  outcome : ∀ outcome, window.Ends outcome → outcome = decideInOrder oracle identity packages
  goes_on : (∃ outcome, window.Ends outcome) ∨
    ∃ turn next, Moves oracle identity limit window (some turn) next
  bounded : turns.length ≤ 4 * packages.length
  few : (inFlight turns).length ≤ limit
  begun : ∃ count ≤ packages.length, turns.filterMap Turn.begun? = List.range count
  taken : turns.filterMap Turn.taken? = List.range window.taken.length
  awaited : ∀ early position, early ++ [.begun position] <+: turns →
    ∀ earlier, earlier + limit ≤ position → .taken earlier ∈ early

theorem Course.inOrder (positive : 0 < limit) {packages : List String} {window : Window}
    {turns : List Turn} (course : Course oracle identity limit (start packages) turns window) :
    InOrder oracle identity limit packages turns window := by
  have own := course.onTheWay (onTheWay_start oracle identity limit packages)
  have traced := course.traced
  refine ⟨fun _ => own.outcome_eq, exists_moves positive window, ?_, ?_, ?_, traced.taken,
    traced.awaited⟩
  · have counted : turns.length + window.turnsLeft = 4 * packages.length :=
      course.length_add_turnsLeft
    omega
  · exact Nat.le_trans traced.length_inFlight_le own.room
  · obtain ⟨count, small, begun, -⟩ := traced.begun
    have places := own.places
    exact ⟨_, by omega, begun⟩

end Window

open Window in
/-- In whatever order the checks are finished, and with as many in flight as are allowed, the
decisions are those of checking in order: one for each package, or the first fatal failure. -/
theorem decideAll_in_any_order (oracle : Oracle) (identity : Identity) (packages : List String)
    (concurrency : Nat) :
    decideAll oracle identity packages concurrency = decideInOrder oracle identity packages ∧
    decideInOrder oracle identity packages =
      (match packages.findSome? (oracle.fatal? identity) with
      | some error => .error error
      | none => .ok (packages.map (oracle.grants identity))) ∧
    (∀ {turns window},
      Course oracle identity (max 1 concurrency) (start packages) turns window →
        InOrder oracle identity (max 1 concurrency) packages turns window) ∧
    ∃ turns last, Course oracle identity (max 1 concurrency) (start packages) turns last ∧
      last.Ends (decideAll oracle identity packages concurrency) ∧
      (decideWithPeak oracle identity packages concurrency).2 ≤ max 1 concurrency := by
  have positive : 0 < max 1 concurrency := Nat.lt_of_lt_of_le Nat.one_pos (Nat.le_max_left _ _)
  refine ⟨decideAll_eq_decideInOrder .., decideInOrder_eq .., Course.inOrder positive, ?_⟩
  have enough : (start packages).cost < 4 * packages.length + 1 := by
    simp [cost, start, heldCost]
  have begun := onTheWay_start oracle identity (max 1 concurrency) packages
  obtain ⟨turns, last, course, ended, peak⟩ := exists_course_run positive begun enough
  refine ⟨turns, last, course, ended, ?_⟩
  rw [decideWithPeak, peak]
  exact (course.onTheWay begun).noted

open Window in
/-- The check of the second package fails at once, and that of the first one is reported. -/
theorem decideAll_in_any_order_sample :
    let oracle : Oracle :=
      ⟨fun package _ => .error ⟨some 500, package⟩, fun package => 9 - package.length⟩
    let turns : List Turn :=
      [.admitted 0, .admitted 1, .begun 0, .begun 1, .finished 1, .finished 0]
    ∃ last, Course oracle .anonymous 2 (start ["slow", "immediate"]) turns last ∧
      last.Ends (.error ⟨some 500, "slow"⟩) ∧
      InOrder oracle .anonymous 2 ["slow", "immediate"] turns last := by
  intro oracle turns
  have admitted : Course oracle .anonymous 2 (start ["slow", "immediate"])
      [.admitted 0, .admitted 1] ⟨0, [], [⟨"slow", .queued⟩, ⟨"immediate", .queued⟩], [], 0⟩ :=
    (Course.single (.enter (by decide))).snoc (.enter (by decide))
  have begun : Course oracle .anonymous 2 (start ["slow", "immediate"])
      [.admitted 0, .admitted 1, .begun 0, .begun 1]
      ⟨0, [], [⟨"slow", .running 5⟩, ⟨"immediate", .running 0⟩], [], 0⟩ :=
    (admitted.snoc (.start 0 5 rfl nofun)).snoc (.start 1 0 rfl fun
      | 0, _, _, found, waits => by cases found; cases waits)
  have finished : Course oracle .anonymous 2 (start ["slow", "immediate"]) turns _ :=
    (begun.snoc (.finish 1 rfl)).snoc (.finish 0 rfl)
  obtain ⟨-, -, inOrder, -⟩ := decideAll_in_any_order oracle .anonymous ["slow", "immediate"] 2
  exact ⟨_, finished, .failed, inOrder finished⟩

end PackageSearch.Access

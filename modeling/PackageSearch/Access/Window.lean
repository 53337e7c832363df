import PackageSearch.Access.Oracle

/-!
# Checks in flight

Packages are checked with a bounded number of checks at once. A window holds the checks that were
taken up and whose results are not taken yet, in the order of the packages; results are taken from
its front only. Time is virtual: the clock moves to the next completion when nothing else can
happen.
-/

set_option autoImplicit false

namespace PackageSearch.Access

/-- What has become of a check in the window. -/
inductive Stage where
  | queued
  | running (due : Nat)
  | finished (result : Except CheckError Bool)

structure Check where
  package : String
  stage : Stage

/-- The state of checking a list of packages. `taken` holds the decisions so far, last first, and
`peak` the largest number of checks that ran at once. -/
structure Window where
  clock : Nat
  waiting : List String
  held : List Check
  taken : List Bool
  peak : Nat

namespace Window

def start (packages : List String) : Window := ⟨0, packages, [], [], 0⟩

def isRunning : Stage → Bool
  | .running _ => true
  | _ => false

def runningCount (window : Window) : Nat :=
  (window.held.filter fun check => isRunning check.stage).length

def fill (limit : Nat) (window : Window) : Window :=
  let room := limit - window.held.length
  { window with
    held := window.held ++ (window.waiting.take room).map fun package => ⟨package, .queued⟩
    waiting := window.waiting.drop room }

def finishDue? (oracle : Oracle) (identity : Identity) (clock : Nat) :
    List Check → Option (List Check)
  | [] => none
  | check :: rest =>
      match check.stage with
      | .running due =>
          if due ≤ clock then
            some (⟨check.package, .finished (oracle.decision identity check.package)⟩ :: rest)
          else (finishDue? oracle identity clock rest).map (check :: ·)
      | _ => (finishDue? oracle identity clock rest).map (check :: ·)

/-- Begin the first queued check. One without delay is finished at once. -/
def begin? (oracle : Oracle) (identity : Identity) (clock : Nat) :
    List Check → Option (List Check)
  | [] => none
  | check :: rest =>
      match check.stage with
      | .queued =>
          let delay := oracle.delay check.package
          let stage :=
            if delay = 0 then .finished (oracle.decision identity check.package)
            else .running (clock + delay)
          some (⟨check.package, stage⟩ :: rest)
      | _ => (begin? oracle identity clock rest).map (check :: ·)

def nextDue? (held : List Check) : Option Nat :=
  (held.filterMap fun check =>
    match check.stage with
    | .running due => some due
    | _ => none).min?

/-- What happens when no result can be taken: due checks finish before queued ones begin; only then
does time pass. -/
def move (oracle : Oracle) (identity : Identity) (window : Window) :
    Window ⊕ Except CheckError (List Bool) :=
  match finishDue? oracle identity window.clock window.held with
  | some held => .inl { window with held }
  | none =>
      match begin? oracle identity window.clock window.held with
      | some held => .inl { window with held, peak := max window.peak (window.runningCount + 1) }
      | none =>
          match nextDue? window.held with
          | some due => .inl { window with clock := due }
          | none => .inr (.ok window.taken.reverse)

/-- One step, or the outcome. Results are taken from the front before anything else happens. -/
def step (oracle : Oracle) (identity : Identity) (limit : Nat) (window : Window) :
    Window ⊕ Except CheckError (List Bool) :=
  let window := window.fill limit
  match window.held with
  | [] => .inr (.ok window.taken.reverse)
  | ⟨_, .finished (.ok allowed)⟩ :: rest =>
      .inl { window with held := rest, taken := allowed :: window.taken }
  | ⟨_, .finished (.error error)⟩ :: _ => .inr (.error error)
  | _ => window.move oracle identity

/-- Run at most so many steps. The largest number of checks at once is given with the outcome. -/
def run (oracle : Oracle) (identity : Identity) (limit : Nat) :
    Nat → Window → Except CheckError (List Bool) × Nat
  | 0, window => (.ok window.taken.reverse, window.peak)
  | fuel + 1, window =>
      match window.step oracle identity limit with
      | .inr outcome => (outcome, window.peak)
      | .inl window => run oracle identity limit fuel window

end Window

/-- Check packages with at most `concurrency` checks at once, at least one. Each check is begun
once, finished once and taken once, and time passes at most once for each, which bounds the
steps. -/
def decideWithPeak (oracle : Oracle) (identity : Identity) (packages : List String)
    (concurrency : Nat) : Except CheckError (List Bool) × Nat :=
  Window.run oracle identity (max 1 concurrency) (4 * packages.length + 1) (Window.start packages)

/-- The decision on each package, or the first fatal failure in the order of the packages. -/
def decideAll (oracle : Oracle) (identity : Identity) (packages : List String)
    (concurrency : Nat) : Except CheckError (List Bool) :=
  (decideWithPeak oracle identity packages concurrency).1

/-- Keep the items whose packages the identity may read, in their order. -/
def authorize {α : Type} (oracle : Oracle) (identity : Identity) (packageOf : α → String)
    (items : List α) (concurrency : Nat) : Except CheckError (List α) := do
  let decisions ← decideAll oracle identity (items.map packageOf) concurrency
  .ok ((items.zip decisions).filterMap fun decided => if decided.2 then some decided.1 else none)

end PackageSearch.Access

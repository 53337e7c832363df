/-!
# Access checks

An oracle says for each package whether an identity may read it, perhaps after a delay, or fails.
A failure with a status of the 4xx range counts as a denial; any other failure is fatal. The
decisions for a list of packages are those of checking them one after the other.
-/

set_option autoImplicit false

namespace PackageSearch.Access

/-- Who is asking: a name, unless anonymous, and groups. -/
structure Identity where
  name : Option String
  groups : List String
  deriving DecidableEq, Inhabited

def Identity.anonymous : Identity := ⟨none, []⟩

/-- A failure of the oracle. -/
structure CheckError where
  status : Option Nat
  message : String
  deriving DecidableEq, Inhabited

def CheckError.isClientError (error : CheckError) : Bool :=
  error.status.any fun status => 400 ≤ status && status < 500

def CheckError.text (error : CheckError) : String :=
  "access check failed: " ++ error.message

/-- The answers of an oracle, and after how many milliseconds it gives them. -/
structure Oracle where
  answer : String → Identity → Except CheckError Bool
  delay : String → Nat

def Oracle.allowAll : Oracle := ⟨fun _ _ => .ok true, fun _ => 0⟩

/-- The decision that an answer means: a client error denies. -/
def settle : Except CheckError Bool → Except CheckError Bool
  | .ok allowed => .ok allowed
  | .error error => if error.isClientError then .ok false else .error error

def Oracle.decision (oracle : Oracle) (identity : Identity) (package : String) :
    Except CheckError Bool :=
  settle (oracle.answer package identity)

/-- Check packages one after the other, up to the first fatal failure. -/
def decideInOrder (oracle : Oracle) (identity : Identity) :
    List String → Except CheckError (List Bool)
  | [] => .ok []
  | package :: rest => do
      let allowed ← oracle.decision identity package
      let others ← decideInOrder oracle identity rest
      .ok (allowed :: others)

end PackageSearch.Access

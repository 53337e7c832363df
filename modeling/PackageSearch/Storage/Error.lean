import PackageSearch.Json.Node

/-!
# Failures of the local store
-/

set_option autoImplicit false

namespace PackageSearch

/-- Why local storage cannot be read: a file is unreadable, a manifest does not decode, the walk
over the directories fails, the work on it breaks down, or the store is not available. Paths are
given as shown texts. -/
inductive StoreError where
  | unreadable (path cause : String)
  | invalidManifest (path : String) (fault : Json.Fault)
  | walk (cause : String)
  | task (cause : String)
  | unavailable (cause : String)
  deriving DecidableEq

def Json.Fault.text : Json.Fault → String
  | .ended => "the document ends early"
  | .malformed => "the document is not JSON"
  | .mismatched => "a value has the wrong type"

def StoreError.text : StoreError → String
  | unreadable path cause => "failed to read " ++ path ++ ": " ++ cause
  | invalidManifest path fault => "invalid package manifest " ++ path ++ ": " ++ fault.text
  | walk cause => "storage walk failed: " ++ cause
  | task cause => "storage task failed: " ++ cause
  | unavailable cause => "storage unavailable: " ++ cause

end PackageSearch

/-!
# Failures of an uplink
-/

set_option autoImplicit false

namespace PackageSearch

/-- How a search at an uplink fails: a status that is no success, an exchange that breaks down, an
answer that cannot be read, a breakdown of the work itself, or cancellation. -/
inductive UplinkError where
  | status (uplink : String) (code : Nat)
  | transport (uplink cause : String)
  | decode (uplink cause : String)
  | task (uplink cause : String)
  | cancelled
  deriving DecidableEq

namespace UplinkError

def text : UplinkError → String
  | status _ code => "bad status code " ++ toString code ++ " from uplink"
  | transport uplink cause => "uplink " ++ uplink ++ " unreachable: " ++ cause
  | decode uplink cause => "uplink " ++ uplink ++ " sent an unreadable response: " ++ cause
  | task uplink cause => "uplink " ++ uplink ++ " task failed: " ++ cause
  | cancelled => "uplink search cancelled"

def status? : UplinkError → Option Nat
  | status _ code => some code
  | _ => none

end UplinkError

end PackageSearch

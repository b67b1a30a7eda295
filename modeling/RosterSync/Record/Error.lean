import RosterSync.Json.Write

/-!
Failures of the record store.

A failure is a misconfiguration, a transport failure (a timeout or not), a provider's error code,
an HTTP status outside 2xx, or a response that does not decode. A failure is retryable when
trying again can help: transport failures are; misconfiguration and undecodable responses are
not; a provider error is unless its code is one of the permanent codes 10001, 10002, 10005,
10007; an HTTP status is unless it is a client error `400..499` other than 408 and 429.
-/

namespace RosterSync.Record

inductive StoreError where
  | configuration (message : String)
  | transport (timeout : Bool) (message : String)
  | provider (code : Int) (message : String)
  | status (status : Nat) (message : String)
  | decode (message : String)
deriving DecidableEq, Repr, Inhabited

namespace StoreError

/-- Provider codes that never succeed on a second try. -/
def permanentCodes : List Int := [10001, 10002, 10005, 10007]

/-- The provider's code for a row that does not exist. -/
def rowNotFoundCode : Int := 10007

def message : StoreError → String
  | .configuration m => "record store misconfigured: " ++ m
  | .transport t m => "transport error (timeout=" ++ (if t then "true" else "false") ++ "): " ++ m
  | .provider c m => "provider error " ++ Json.intText c ++ ": " ++ m
  | .status s m => "HTTP " ++ Json.natText s ++ ": " ++ m
  | .decode m => "failed to decode response: " ++ m

def isRetryable : StoreError → Bool
  | .configuration _ => false
  | .decode _ => false
  | .transport _ _ => true
  | .provider c _ => !permanentCodes.contains c
  | .status s _ => !(400 ≤ s && s ≤ 499) || s == 408 || s == 429

def kind : StoreError → String
  | .configuration _ => "configuration"
  | .transport true _ => "timeout"
  | .transport false _ => "transport"
  | .provider _ _ => "provider"
  | .status _ _ => "status"
  | .decode _ => "decode"

def variant : StoreError → String
  | .configuration _ => "Configuration"
  | .transport _ _ => "Transport"
  | .provider _ _ => "Provider"
  | .status _ _ => "Status"
  | .decode _ => "Decode"

/-- The provider error of a row that does not exist. -/
def rowNotFound (rowId : String) : StoreError :=
  .provider rowNotFoundCode ("row " ++ rowId ++ " not found")

end StoreError

end RosterSync.Record

import RosterSync.Record.Error
import RosterSync.Directory.Entity

/-!
Failures of binding and customer operations, shaped for an HTTP caller.

A request is bad, conflicts with a binding, names what does not exist, is refused by a provider
with a code, or fails inside. A record store failure with a provider code or an HTTP status
becomes a provider failure with that number; a directory failure with an API code likewise;
every other failure is internal and keeps the cause's message.
-/

namespace RosterSync.Binding

open RosterSync.Json RosterSync.Record RosterSync.Directory

inductive BindError where
  | badRequest (message : String)
  | conflict (message : String)
  | notFound (message : String)
  | provider (code : Int) (message : String)
  | internal (message : String)
deriving DecidableEq, Repr

namespace BindError

def message : BindError → String
  | .badRequest m => "bad request: " ++ m
  | .conflict m => "conflict: " ++ m
  | .notFound m => "not found: " ++ m
  | .provider c m => "provider error " ++ intText c ++ ": " ++ m
  | .internal m => "internal error: " ++ m

def kind : BindError → String
  | .badRequest _ => "bad_request"
  | .conflict _ => "conflict"
  | .notFound _ => "not_found"
  | .provider _ _ => "provider"
  | .internal _ => "internal"

def variant : BindError → String
  | .badRequest _ => "BadRequest"
  | .conflict _ => "Conflict"
  | .notFound _ => "NotFound"
  | .provider _ _ => "Provider"
  | .internal _ => "Internal"

/-- A record store failure as seen by a caller. -/
def ofStore : StoreError → BindError
  | .provider c m => .provider c m
  | .status s m => .provider s m
  | e => .internal e.message

def ofDirectory : DirectoryError → BindError
  | .api c m => .provider c m
  | e => .internal e.message

end BindError

end RosterSync.Binding

import RosterSync.Json.Write
import RosterSync.Retry

/-!
Settings of the sync engine.

Every setting has a default, so an empty object is a complete configuration. Settings are read
from JSON as an object by name (unknown names ignored) or as an array in field order (missing
trailing fields take their defaults; extra items are refused). A present setting must have its
type: a text is a JSON string, a flag a Boolean, a count a non-negative JSON integer of its
width, an optional text a string or `null`, a group an object or array; the protocol is `v2`
or `v3`.

Validation checks, in this order: the tenant id is set; the record store's base URL, app key
and signature are set and the URL is `http://` or `https://`; the scheduler's interval and
lease are positive; retry allows at least one attempt.
-/

-- natural powers take the core instance even where the monoid power is in scope
attribute [local instance (2000)] instPowNat

namespace RosterSync

open RosterSync.Json

/-- A setting that is missing or has a bad value. -/
inductive ConfigError where
  | missing (name : String)
  | invalid (name reason : String)
deriving DecidableEq, Repr

def ConfigError.message : ConfigError → String
  | .missing n => "missing required setting: " ++ n
  | .invalid n r => "invalid setting " ++ n ++ ": " ++ r

inductive Protocol where
  | v2
  | v3
deriving DecidableEq, Repr

def Protocol.name : Protocol → String
  | .v2 => "v2"
  | .v3 => "v3"

structure RecordStoreConfig where
  apiBase : String := ""
  appKey : String := ""
  sign : String := ""
  protocol : Protocol := .v2
  timeoutSecs : Nat := 30
deriving DecidableEq, Repr

structure SchedulerConfig where
  intervalSecs : Nat := 600
  lockLeaseSecs : Nat := 300
  throttleMs : Nat := 100
  taskName : String := "directory_sync"
deriving DecidableEq, Repr

structure ContactApiConfig where
  apiBase : String := "https://qyapi.weixin.qq.com/cgi-bin"
  corpId : String := ""
  secret : String := ""
  timeoutSecs : Nat := 10
deriving DecidableEq, Repr

structure SyncConfig where
  tenantId : String := ""
  staffSyncEnabled : Bool := true
  redisUrl : Option String := none
  directoryUrl : Option String := none
  recordStore : RecordStoreConfig := {}
  scheduler : SchedulerConfig := {}
  retry : RetryPolicy := {}
  contactApi : ContactApiConfig := {}
deriving DecidableEq, Repr

def RecordStoreConfig.validate (c : RecordStoreConfig) : Except ConfigError Unit :=
  if c.apiBase.isEmpty then .error (.missing "record_store.api_base")
  else if c.appKey.isEmpty then .error (.missing "record_store.app_key")
  else if c.sign.isEmpty then .error (.missing "record_store.sign")
  else if !(c.apiBase.startsWith "http://" || c.apiBase.startsWith "https://") then
    .error (.invalid "record_store.api_base" ("not an http(s) URL: " ++ c.apiBase))
  else .ok ()

def SchedulerConfig.validate (c : SchedulerConfig) : Except ConfigError Unit :=
  if c.intervalSecs = 0 then .error (.invalid "scheduler.interval_secs" "must be greater than zero")
  else if c.lockLeaseSecs = 0 then
    .error (.invalid "scheduler.lock_lease_secs" "must be greater than zero")
  else .ok ()

def SyncConfig.validate (c : SyncConfig) : Except ConfigError Unit := do
  if c.tenantId.isEmpty then throw (.missing "tenant_id")
  c.recordStore.validate
  c.scheduler.validate
  if c.retry.maxAttempts = 0 then throw (.invalid "retry.max_attempts" "must be at least 1")

namespace Settings

/-- The values given for the named fields of a group, in field order (`none` where missing):
from an object by name, or from an array by position. -/
def fields (names : List String) : Value → Option (List (Option Value))
  | .obj members => some (names.map fun n => (members.find? (·.1 == n)).map (·.2))
  | .arr items =>
    if items.length > names.length then none
    else some ((List.range names.length).map fun i => items[i]?)
  | _ => none

def field {α : Type} (given : Option Value) (default : α) (read : Value → Option α) : Option α :=
  match given with
  | none => some default
  | some v => read v

def text : Value → Option String
  | .str s => some s
  | _ => none

def flag : Value → Option Bool
  | .bool b => some b
  | _ => none

/-- A count of 64 bits. -/
def count64 : Value → Option Nat
  | .num (.nat n) => some n
  | _ => none

/-- A count of 32 bits. -/
def count32 : Value → Option Nat
  | .num (.nat n) => if n < 2 ^ (32 : Nat) then some n else none
  | _ => none

def optText : Value → Option (Option String)
  | .null => some none
  | .str s => some (some s)
  | _ => none

/-- A protocol: its name, or an object holding only its name mapped to `null`. -/
def protocol : Value → Option Protocol
  | .str "v2" => some .v2
  | .str "v3" => some .v3
  | .obj [("v2", .null)] => some .v2
  | .obj [("v3", .null)] => some .v3
  | _ => none

def recordStore (v : Value) : Option RecordStoreConfig := do
  let fs ← fields ["api_base", "app_key", "sign", "protocol", "timeout_secs"] v
  let d : RecordStoreConfig := {}
  let apiBase ← field (fs.getD 0 none) d.apiBase text
  let appKey ← field (fs.getD 1 none) d.appKey text
  let sign ← field (fs.getD 2 none) d.sign text
  let protocol ← field (fs.getD 3 none) d.protocol protocol
  let timeoutSecs ← field (fs.getD 4 none) d.timeoutSecs count64
  pure { apiBase, appKey, sign, protocol, timeoutSecs }

def scheduler (v : Value) : Option SchedulerConfig := do
  let fs ← fields ["interval_secs", "lock_lease_secs", "throttle_ms", "task_name"] v
  let d : SchedulerConfig := {}
  let intervalSecs ← field (fs.getD 0 none) d.intervalSecs count64
  let lockLeaseSecs ← field (fs.getD 1 none) d.lockLeaseSecs count64
  let throttleMs ← field (fs.getD 2 none) d.throttleMs count64
  let taskName ← field (fs.getD 3 none) d.taskName text
  pure { intervalSecs, lockLeaseSecs, throttleMs, taskName }

def retry (v : Value) : Option RetryPolicy := do
  let fs ← fields ["max_attempts", "base_delay_ms"] v
  let d : RetryPolicy := {}
  let maxAttempts ← field (fs.getD 0 none) d.maxAttempts count32
  let baseDelayMs ← field (fs.getD 1 none) d.baseDelayMs count64
  pure { maxAttempts, baseDelayMs }

def contactApi (v : Value) : Option ContactApiConfig := do
  let fs ← fields ["api_base", "corp_id", "secret", "timeout_secs"] v
  let d : ContactApiConfig := {}
  let apiBase ← field (fs.getD 0 none) d.apiBase text
  let corpId ← field (fs.getD 1 none) d.corpId text
  let secret ← field (fs.getD 2 none) d.secret text
  let timeoutSecs ← field (fs.getD 3 none) d.timeoutSecs count64
  pure { apiBase, corpId, secret, timeoutSecs }

end Settings

/-- Reads settings from JSON, or `none` when a present setting has the wrong type. -/
def SyncConfig.ofJson? (v : Value) : Option SyncConfig := do
  let fs ← Settings.fields ["tenant_id", "staff_sync_enabled", "redis_url", "directory_url",
    "record_store", "scheduler", "retry", "contact_api"] v
  let d : SyncConfig := {}
  let tenantId ← Settings.field (fs.getD 0 none) d.tenantId Settings.text
  let staffSyncEnabled ← Settings.field (fs.getD 1 none) d.staffSyncEnabled Settings.flag
  let redisUrl ← Settings.field (fs.getD 2 none) d.redisUrl Settings.optText
  let directoryUrl ← Settings.field (fs.getD 3 none) d.directoryUrl Settings.optText
  let recordStore ← Settings.field (fs.getD 4 none) d.recordStore Settings.recordStore
  let scheduler ← Settings.field (fs.getD 5 none) d.scheduler Settings.scheduler
  let retry ← Settings.field (fs.getD 6 none) d.retry Settings.retry
  let contactApi ← Settings.field (fs.getD 7 none) d.contactApi Settings.contactApi
  pure { tenantId, staffSyncEnabled, redisUrl, directoryUrl, recordStore, scheduler, retry,
         contactApi }

end RosterSync

import RosterSync.Console.Stateless
import RosterSync.Startup

/-!
Requests about settings, startup, the engine's life cycle and the remote clients.

A configuration request reads the settings, shows them with their checks, builds the two
clients and starts the engine when its directory is in memory and no Redis URL is set. A
life-cycle request starts and stops an engine and reports its states. The remote client
requests build a client and run its calls, each of which fails in transport; their failures
are written without the transport's own message.
-/

namespace RosterSync

open RosterSync.Json RosterSync.Console

def SchedulerConfig.toJson (c : SchedulerConfig) : Value :=
  obj [("interval_secs", nat c.intervalSecs), ("lock_lease_secs", nat c.lockLeaseSecs),
    ("throttle_ms", nat c.throttleMs), ("task_name", txt c.taskName)]

/-- A startup failure: its case, the failure inside, and its message. Storage failures come
from the Redis client and are written without its message. -/
def StartupError.toJson (e : StartupError) : Value :=
  let (inner, message) := match e with
    | .config c => (c.toJson, txt e.message)
    | .recordStore s => (s.toJson, txt e.message)
    | .directory d => (d.toJson, txt e.message)
    | .storage s => (s.toJsonWith .null, Value.null)
  obj [("error", txt ("StartupError." ++ e.variant)), ("inner", inner), ("message", message)]

end RosterSync

namespace RosterSync.Console

open RosterSync.Json RosterSync.Record RosterSync.Directory RosterSync.Storage RosterSync.Remote

/-- The settings under `config`, empty when missing; `none` when they do not read. -/
def settingsAt? (req : Value) : Option SyncConfig :=
  SyncConfig.ofJson? ((req.get? "config").getD .null)

/-- The URL of the local Redis server started for a request. -/
def localRedisUrl : String := "redis://127.0.0.1:6379/"

/-- Settings shown with their checks, the two clients built, and the engine started. -/
def configReply (req : Value) : Decode Value := do
  let some c := settingsAt? req | pure (obj [("error", txt "deserialize")])
  let fakeRedis ← boolOr req "fake_redis" false
  let connect := match connectStore c.recordStore with
    | .ok p => txt p.name
    | .error e => e.toJson
  let contacts := match connectContacts c.contactApi with
    | .ok () => txt "ok"
    | .error e => e.toJson
  let startsHere := c.redisUrl.isNone &&
    (c.directoryUrl.isNone || c.directoryUrl == some memoryDirectoryUrl)
  let startup :=
    if !startsHere then txt "skipped"
    else match Engine.connect c (if fakeRedis then some localRedisUrl else none) with
      | .ok e => obj [("state", txt e.state.name)]
      | .error e => e.toJson
  pure (obj [("tenant_id", txt c.tenantId), ("staff_sync_enabled", flag c.staffSyncEnabled),
    ("redis_url", optText c.redisUrl), ("directory_url", optText c.directoryUrl),
    ("record_store", c.recordStore.toJson), ("scheduler", c.scheduler.toJson),
    ("retry", c.retry.toJson), ("contact_api", c.contactApi.toJson),
    ("validate", checkJson c.validate), ("record_store_validate", checkJson c.recordStore.validate),
    ("scheduler_validate", checkJson c.scheduler.validate), ("connect", connect),
    ("contact_api_new", contacts), ("startup", startup)])

/-- The settings of a request that needs them, empty when missing; `null` does not read. -/
def settingsAt (req : Value) : Decode SyncConfig :=
  match SyncConfig.ofJson? ((req.get? "config").getD (.obj [])) with
  | some c => pure c
  | none => throw (.field "config")

inductive LifeStep where
  | start
  | shutdown
  | state
  | wait

def LifeStep.ofName? : String → Option LifeStep
  | "start" => some .start
  | "shutdown" => some .shutdown
  | "state" => some .state
  | "wait" => some .wait
  | _ => none

/-- An engine after a life step; waiting lets the scheduler tick and changes no state. -/
def LifeStep.apply : LifeStep → Engine → Engine
  | .start, e => e.start
  | .shutdown, e => e.shutdown
  | .state, e => e
  | .wait, e => e

/-- The states of an engine through a list of life steps. -/
def lifecycleReply (req : Value) : Decode Value := do
  let c ← settingsAt req
  let names ← match member? req "steps" with
    | none => pure []
    | some (.arr items) => pure items
    | some _ => throw (.field "steps")
  let some texts := names.mapM Value.asStr? | throw (.field "steps")
  let some steps := texts.mapM LifeStep.ofName? | throw .steps
  let details ← boolOr req "details" false
  if let some d := member? req "fail_directory" then
    let _ ← directoryErrorOf d
  let engines := steps.scanl (fun e s => s.apply e) ({} : Engine)
  let states := .arr (engines.map fun e => txt e.state.name)
  let final := (engines.getLast?).getD {}
  if details then
    pure (obj [("states", states), ("watched", txt final.state.name), ("tenant_id", txt c.tenantId)])
  else pure (obj [("states", states)])

def localHttpBase : String := "http://127.0.0.1:8080"

/-- Why a record store call of a request could not be made: its worksheet, its operation or
its filter does not read. -/
def callProblem? (v : Value) : Option String :=
  let worksheet? := (member? v "worksheet").bind fun x => x.asStr?.bind Worksheet.ofName?
  let filter? := (member? v "filter").bind Filter.ofTagged?
  match worksheet?, (member? v "call").bind Value.asStr? with
  | none, _ => some "bad worksheet"
  | some _, some "filter" | some _, some "find_one" =>
    if filter?.isSome then none else some "bad filter"
  | some _, some "create" | some _, some "get" | some _, some "update" | some _, some "delete"
  | some _, some "schema" => none
  | some _, _ => some "bad call"

/-- The failure of a record store call: a call that cannot be made is refused as a
misconfiguration, every other one fails in transport. -/
def storeCallFailure (v : Value) : StoreError :=
  match callProblem? v with
  | some problem => .configuration ("oracle: " ++ problem)
  | none => storeUnreachable

/-- A remote call's failure, written with the request log of the call. -/
def remoteFailure (err : Value) : Value := obj [("err", err), ("requests", .arr [])]

def storeHttpReply (req : Value) : Decode Value := do
  let protocol ← match member? req "protocol" with
    | none => pure Protocol.v2
    | some (.str "v2") => pure .v2
    | some (.str "v3") => pure .v3
    | some _ => throw (.field "protocol")
  let appKey ← textOr req "app_key" "key-1"
  let sign ← textOr req "sign" "sign-1"
  let suffix ← textOr req "base_suffix" ""
  let timeoutSecs ← u64Or req "timeout_secs" 30
  let _ ← boolOr req "paused_clock" false
  let cfg : RecordStoreConfig :=
    { apiBase := localHttpBase ++ suffix, appKey := appKey, sign := sign, protocol := protocol,
      timeoutSecs := timeoutSecs }
  let calls ← listOr req "calls"
  let _ ← listOr req "responses"
  match connectStore cfg with
  | .error e => pure e.toJson
  | .ok p =>
    let answers := calls.map fun c =>
      match storeCallFailure c with
      | .transport t m => remoteFailure ((StoreError.transport t m).toJsonWith .null)
      | e => remoteFailure e.toJson
    pure (obj [("protocol", txt p.name), ("calls", .arr answers)])

/-- A contact API call of a request: it is read, then fails in transport. -/
def contactCallOf (v : Value) : Decode Unit := do
  match ← textReq v "call" with
  | "add_contact_way" =>
    let _ ← textOr v "staff_id" ""; let _ ← textOr v "state" ""; let _ ← boolOr v "skip_verify" true
  | "get_external_contact" => let _ ← textOr v "external_user_id" ""
  | _ => throw (.field "call")

def contactsHttpReply (req : Value) : Decode Value := do
  let corpId ← textOr req "corp_id" "corp-1"
  let secret ← textOr req "secret" "s3cret"
  let suffix ← textOr req "base_suffix" ""
  let cfg : ContactApiConfig := { apiBase := localHttpBase ++ suffix, corpId := corpId, secret := secret }
  let _ ← listOr req "responses"
  match connectContacts cfg with
  | .error e => pure e.toJson
  | .ok () =>
    let calls ← (← listOr req "calls").mapM fun c => do
      contactCallOf c
      pure (remoteFailure (contactsUnreachable.toJsonWith .null))
    pure (obj [("calls", .arr calls)])

/-- Steps against the Redis store, which does not connect. -/
def redisReply (req : Value) : Decode Value := do
  let _ ← stepsAt req
  let url ← textOr req "url" localRedisUrl
  match connectRedis url with
  | .error e => pure (obj [("connect", e.toJsonWith .null)])
  | .ok () => pure (obj [("connect", txt "ok"), ("steps", .arr [])])

end RosterSync.Console

import RosterSync.Console.Kv
import RosterSync.Binding.Service

/-!
Sessions against a whole engine over in-memory backends.

A world holds the record store, the directory, the contact API, the cursor and lock store and
the clocks, and runs steps against them: seeding data, injecting failures, and every operation
of the upsert engine, the scheduler, the event dispatcher, the binding and customer services and
the record store itself. Each step is answered with its result or its failure, together with the
record store calls it made and the virtual milliseconds it took.

Rows the store creates get fresh ids; the `N`-th is written `new-N` throughout an answer, and a
row id `new-N` in a step names it. Lock tokens handed out by `hold_lock` are written `lock-N` as
in a kv session. A step that stops the program makes the whole answer the stop.
-/

namespace RosterSync.Record

open RosterSync.Json RosterSync.Console

/-- A logged call: its operation and worksheet, with its row id and fields when it has them. -/
def Call.toJson (c : Call) : Value :=
  let base := [("op", txt c.op.name), ("worksheet", txt c.worksheet.name)]
  let withRow := match c.rowId with
    | some r => base ++ [("row_id", txt r)]
    | none => base
  match c.fields with
  | some f => obj (withRow ++ [("fields", .obj f)])
  | none => obj withRow

end RosterSync.Record

namespace RosterSync.Binding

def ContactAdded.name : ContactAdded → String
  | .notOurs => "not_ours"
  | .dropped => "dropped"
  | .spawned => "spawned"

end RosterSync.Binding

namespace RosterSync.Console

open RosterSync.Json RosterSync.Record RosterSync.Directory RosterSync.Sync RosterSync.Binding
open RosterSync.Storage

def hexDigitsValue? (cs : List Char) : Option Nat :=
  cs.foldlM (fun acc c =>
    if '0' ≤ c ∧ c ≤ '9' then some (acc * 16 + (c.toNat - 48))
    else if 'a' ≤ c ∧ c ≤ 'f' then some (acc * 16 + (c.toNat - 87))
    else none) 0

/-- The number of the row, among the first `created`, whose id starts the text, if one does. -/
def createdIdAt? (created : Nat) (cs : List Char) : Option Nat :=
  if createdIdPrefix.toList.isPrefixOf cs then
    let digits := (cs.drop createdIdPrefix.length).take 12
    if digits.length = 12 then
      match hexDigitsValue? digits with
      | some n => if 1 ≤ n ∧ n ≤ created then some n else none
      | none => none
    else none
  else none

/-- Text with the ids of the first `created` rows written `new-N`. -/
def nameCreatedIds (created : Nat) : List Char → List Char
  | [] => []
  | c :: rest =>
    match createdIdAt? created (c :: rest) with
    | some n => ("new-" ++ natText n).toList ++
        nameCreatedIds created (rest.drop (createdIdPrefix.length + 11))
    | none => c :: nameCreatedIds created rest
termination_by cs => cs.length
decreasing_by
  · simp only [List.length_drop, List.length_cons]; omega
  · simp only [List.length_cons]; omega

mutual

/-- A value with the ids of the first `created` rows written `new-N`, in keys and texts alike. -/
def nameCreatedIn (created : Nat) : Value → Value
  | .str s => .str (String.ofList (nameCreatedIds created s.toList))
  | .arr items => .arr (nameCreatedInItems created items)
  | .obj members => .obj (nameCreatedInMembers created members)
  | v => v

def nameCreatedInItems (created : Nat) : List Value → List Value
  | [] => []
  | v :: rest => nameCreatedIn created v :: nameCreatedInItems created rest

def nameCreatedInMembers (created : Nat) : List (String × Value) → List (String × Value)
  | [] => []
  | (k, v) :: rest =>
    (String.ofList (nameCreatedIds created k.toList), nameCreatedIn created v) ::
      nameCreatedInMembers created rest

end

/-- The created row id that `new-N` names, when that row was created. -/
def createdRef? (created : Nat) (s : String) : Option String :=
  if s.startsWith "new-" then
    match countText? (s.drop 4).toString with
    | some n => if 1 ≤ n ∧ n ≤ created then some (createdRowId n) else none
    | none => none
  else none

/-- A world: the backends, the lock tokens handed out, and whether the program stopped in a
step. -/
structure World where
  backends : Backends
  handed : List LockToken := []
  stopped : Bool := false

/-- A step's result: its answer, or the failure written in its place. -/
abbrev StepResult := Except Value Value

/-- Runs a computation over the backends of a world. -/
def World.run {α : Type} (w : World) (act : Run α) : α × World :=
  let (a, b) := act.run w.backends
  (a, { w with backends := b })

/-- A row id of a step, which must be given, with `new-N` naming a created row. -/
def World.rowIdAt (w : World) (req : Value) (name : String) : Decode String := do
  let s ← textReq req name
  pure ((createdRef? w.backends.store.created s).getD s)

def syncResult {α : Type} (r : Except SyncError α) (f : α → Value) : StepResult :=
  match r with
  | .ok a => .ok (f a)
  | .error e => .error e.toJson

def bindResult {α : Type} (r : Except BindError α) (f : α → Value) : StepResult :=
  match r with
  | .ok a => .ok (f a)
  | .error e => .error e.toJson

def storeResult {α : Type} (r : Except StoreError α) (f : α → Value) : StepResult :=
  match r with
  | .ok a => .ok (f a)
  | .error e => .error e.toJson

def Outcome.toJson (o : Outcome) : Value :=
  match o.rowId? with
  | some r => obj [("outcome", txt o.name), ("row_id", txt r)]
  | none => obj [("outcome", txt o.name)]

/-- A `fail_store` step: the failure, how often and after how many calls, then the operation. -/
structure StoreFailure where
  op : Operation
  error : StoreError
  times : Nat
  skip : Nat

def storeFailureOf (req : Value) : Decode StoreFailure := do
  let error ← storeErrorOf (← valueReq req "error")
  let times ← u64Or req "times" 1
  let skip ← u64Or req "skip" 0
  let op ← readReq req "operation" fun v => v.asStr?.bind Operation.ofName?
  pure { op, error, times, skip }

/-- Queues the failures at once, or sets them to wait for the call of their operation that
comes after `skip` more. -/
def queueStoreFailure (b : Backends) (f : StoreFailure) : Backends :=
  if f.skip = 0 then { b with store := b.store.failNext f.op f.error f.times }
  else { b with waiting := b.waiting ++ [⟨f.op, f.error, f.times, callsOf b.store f.op + f.skip⟩] }

/-- Clears the call log; waiting failures keep waiting for the same later calls. -/
def clearStoreCalls (b : Backends) : Backends :=
  let kept := b.waiting.filter fun f => callsOf b.store f.op ≤ f.due
  { b with store := { b.store with calls := [] },
           waiting := kept.map fun f => { f with due := f.due - callsOf b.store f.op } }

/-- A text member of a strict record: present, and a string. -/
def strictText? (v : Value) (name : String) : Option String :=
  (v.get? name).bind Value.asStr?

/-- A schema option from its object: both members are required texts. -/
def schemaOptionOf? (v : Value) : Option SchemaOption := do
  let .obj _ := v | none
  pure { key := ← strictText? v "key", value := ← strictText? v "value" }

/-- A schema field from its object: id, name and type are required texts; the alias may be
missing or `null`; `required` and `options`, when present, must be a flag and a list of
options. Other members are ignored. -/
def schemaFieldOf? (v : Value) : Option SchemaField := do
  let .obj _ := v | none
  let id ← strictText? v "id"
  let name ← strictText? v "name"
  let fieldType ← strictText? v "type"
  let fieldAlias ← match v.get? "alias" with
    | none | some .null => some none
    | some (.str a) => some (some a)
    | some _ => none
  let required ← match v.get? "required" with
    | none => some false
    | some (.bool b) => some b
    | some _ => none
  let options ← match v.get? "options" with
    | none => some []
    | some (.arr items) => items.mapM schemaOptionOf?
    | some _ => none
  pure { id, name, fieldType, fieldAlias, required, options }

def schemaFieldsAt (req : Value) : Decode (List SchemaField) :=
  match req.get? "fields" with
  | some (.arr items) =>
    match items.mapM schemaFieldOf? with
    | some fields => pure fields
    | none => throw (.field "fields")
  | _ => throw (.field "fields")

/-- A contact from its description; a description that is not an object has no members. -/
def contactOf (v : Value) : Decode Contact := do
  let name ← textOr v "name" ""
  let avatar ← textOr v "avatar" ""
  let gender ← countOr v "gender" 256 0
  let unionId ← textOr v "union_id" ""
  let externalUserId ← textOr v "external_user_id" ""
  let externalProfile := member? v "external_profile"
  pure { externalUserId, name, avatar, gender, unionId, externalProfile }

def FieldConfig.toJson (f : FieldConfig) : Value :=
  let base := [("id", txt f.id), ("name", txt f.name), ("type", txt f.fieldType),
    ("editable", flag f.editable)]
  if f.options.isEmpty then obj base
  else obj (base ++ [("options", .arr (f.options.map SchemaOption.toJson))])

def ContactWayRequest.toJson (r : ContactWayRequest) : Value :=
  obj [("staff_id", txt r.staffId), ("state", txt r.state), ("skip_verify", flag r.skipVerify)]

def ScheduledRun.toJson (now : Int) : ScheduledRun → Value
  | .completed c report => obj [("run", txt "completed"), ("tenant_id", txt c.tenantId),
      ("cursor", timeJson now c.lastSyncedAt), ("report", report.toJson)]
  | .lockHeld => obj [("run", txt "lock_held")]
  | .disabled => obj [("run", txt "disabled")]

/-- One step against a world: its result and the world after it. -/
def World.step (cfg : SyncConfig) (w : World) (req : Value) : Decode (StepResult × World) := do
  let now := w.backends.now
  let done (w' : World) : Decode (StepResult × World) := pure (.ok (obj []), w')
  let modifyStore (f : MemoryStore → MemoryStore) : World :=
    { w with backends := { w.backends with store := f w.backends.store } }
  match member? req "do" with
  | some (.str "seed_row") =>
    let ws ← worksheetAt req "worksheet"
    let rowId ← w.rowIdAt req "row_id"
    let fields ← fieldsOr req "fields"
    done (modifyStore fun s => s.insertRow ws rowId fields)
  | some (.str "set_schema") =>
    let fields ← schemaFieldsAt req
    let ws ← worksheetAt req "worksheet"
    done (modifyStore fun s => { s with schemas := fun x => if x = ws then fields else s.schemas x })
  | some (.str "put_entity") =>
    let e ← entityAt req
    done { w with backends := { w.backends with directory := w.backends.directory.put e } }
  | some (.str "remove_entity") =>
    let tenant ← textOr req "tenant" defaultTenant
    let kind ← kindAt req "kind"
    let externalId ← textOr req "external_id" ""
    done { w with backends := { w.backends with
      directory := w.backends.directory.remove tenant kind externalId } }
  | some (.str "put_contact") =>
    let c ← contactOf ((member? req "contact").getD .null)
    done { w with backends := { w.backends with contacts := w.backends.contacts.put c } }
  | some (.str "fail_store") =>
    let f ← storeFailureOf req
    done { w with backends := queueStoreFailure w.backends f }
  | some (.str "fail_directory") =>
    let e ← directoryErrorOf (← valueReq req "error")
    done { w with backends := { w.backends with directory := w.backends.directory.failNext e } }
  | some (.str "fail_contacts") =>
    let e ← directoryErrorOf (← valueReq req "error")
    done { w with backends := { w.backends with contacts := w.backends.contacts.failNext e } }
  | some (.str "sleep") =>
    let ms ← u64Or req "ms" 0
    done (w.run (Backends.sleep ms)).2
  | some (.str "protocol") => pure (.ok (obj [("protocol", txt "memory")]), w)
  | some (.str "upsert") =>
    let e ← entityAt req
    let a ← actionAt req "action"
    let (r, w') := w.run (upsert e a).run
    pure (syncResult r Outcome.toJson, w')
  | some (.str "upsert_retry") =>
    let e ← entityAt req
    let a ← actionAt req "action"
    let (r, w') := w.run (upsertWithRetry cfg.retry e a)
    pure (.ok (obj [("result", (r.map Outcome.toJson).getD .null)]), w')
  | some (.str "resolve") =>
    let tenant ← textOr req "tenant" defaultTenant
    let ids ← textsOr req "department_ids"
    let (rows, w') := w.run (resolve tenant ids)
    pure (.ok (obj [("rows", .arr (rows.map txt))]), w')
  | some (.str "full_sync") =>
    let tenant ← textOr req "tenant" defaultTenant
    let kind ← kindAt req "kind"
    let (r, w') := w.run (fullSync cfg tenant kind).run
    pure (syncResult r KindReport.toJson, w')
  | some (.str "full_sync_all") =>
    let tenant ← textOr req "tenant" defaultTenant
    let (r, w') := w.run (fullSyncAll cfg tenant).run
    pure (syncResult r PassReport.toJson, w')
  | some (.str "incremental_pass") =>
    let tenant ← textOr req "tenant" defaultTenant
    let since ← timeOr req "since_ms" 0
    let (r, w') := w.run (incrementalPass cfg ⟨tenant, since⟩).run
    pure (syncResult r (fun (c, report) => obj [("tenant_id", txt c.tenantId),
      ("cursor", timeJson now c.lastSyncedAt), ("report", report.toJson)]), w')
  | some (.str "run_scheduled") =>
    let tenant ← textOr req "tenant" defaultTenant
    match w.run (runScheduled cfg tenant).run with
    | (.ok (some run), w') => pure (.ok (ScheduledRun.toJson now run), w')
    | (.ok none, w') => pure (.ok .null, { w' with stopped := true })
    | (.error e, w') => pure (.error e.toJson, w')
  | some (.str "dispatch") =>
    let e ← entityAt req
    let a ← actionAt req "action"
    let (spawned, w') := w.run (dispatch cfg ⟨e, a⟩)
    if spawned then pure (.ok (obj [("spawned", flag true), ("joined", flag true)]), w')
    else pure (.ok (obj [("spawned", flag false)]), w')
  | some (.str "hold_lock") =>
    let name ← textOr req "name" defaultLockName
    let lease ← u64Or req "lease_ms" defaultLeaseMs
    if (w.run (leaseOverflows name lease)).1 then return (.ok .null, { w with stopped := true })
    match w.run (tryAcquire name lease) with
    | (some t, w') =>
      let handed := w'.handed ++ [t]
      pure (.ok (obj [("token", lastHandedName handed)]), { w' with handed })
    | (none, w') => pure (.ok (obj [("token", .null)]), w')
  | some (.str "release_lock") =>
    let t ← releasedToken w.handed req
    let (released, w') := w.run (releaseLock t)
    pure (.ok (obj [("released", flag released)]), w')
  | some (.str "is_locked") =>
    let name ← textOr req "name" defaultLockName
    let (locked, w') := w.run (isLocked name)
    pure (.ok (obj [("locked", flag locked)]), w')
  | some (.str "kv_load") =>
    let tenant ← textOr req "tenant" defaultTenant
    let (at_, w') := w.run (loadCursor tenant)
    pure (.ok (obj [("at", timeOrNull now at_)]), w')
  | some (.str "kv_advance") =>
    let tenant ← textOr req "tenant" defaultTenant
    let time ← timeOr req "at_ms" 0
    let (moved, w') := w.run (advanceCursor tenant time)
    pure (.ok (obj [("moved", flag moved)]), w')
  | some (.str "calls_of") =>
    let op ← readReq req "operation" fun v => v.asStr?.bind Operation.ofName?
    let calls := w.backends.store.calls.filter (·.op == op)
    pure (.ok (obj [("calls", .arr (calls.map Call.toJson))]), w)
  | some (.str "clear_calls") => done { w with backends := clearStoreCalls w.backends }
  | some (.str "store_row") =>
    let ws ← worksheetAt req "worksheet"
    let rowId ← w.rowIdAt req "row_id"
    pure (.ok (obj [("row", rowOrNull (w.backends.store.row? ws rowId))]), w)
  | some (.str "contact_way_qr") =>
    let staffId ← textReq req "staff_id"
    let correlationId ← textReq req "correlation_id"
    let (r, w') := w.run (contactWayQr .standard staffId correlationId).run
    pure (bindResult r fun c => obj [("config_id", txt c.configId), ("qr_code", txt c.qrCode)], w')
  | some (.str "bind") =>
    let rowId ← w.rowIdAt req "row_id"
    let externalUserId ← textReq req "external_user_id"
    let staffId ← textReq req "staff_id"
    let (r, w') := w.run (bind rowId externalUserId staffId).run
    pure (bindResult r fun _ => obj [("ok", flag true)], w')
  | some (.str "change_binding") =>
    let oldRowId ← w.rowIdAt req "old_row_id"
    let newRowId ← w.rowIdAt req "new_row_id"
    let externalUserId ← textReq req "external_user_id"
    let staffId ← textReq req "staff_id"
    let (r, w') := w.run (changeBinding oldRowId newRowId externalUserId staffId).run
    pure (bindResult r fun _ => obj [("ok", flag true)], w')
  | some (.str "contact_added") =>
    let staffId ← textReq req "staff_id"
    let externalUserId ← textReq req "external_user_id"
    let state ← textReq req "state"
    let (r, w') := w.run (acceptContactAdded .standard staffId externalUserId state)
    let handled := flag (Token.isCorrelationState state)
    match r with
    | .spawned =>
      pure (.ok (obj [("handled", handled), ("result", txt r.name), ("joined", flag true)]), w')
    | _ => pure (.ok (obj [("handled", handled), ("result", txt r.name)]), w')
  | some (.str "contact_requests") =>
    pure (.ok (obj [("requests",
      .arr (w.backends.contacts.requests.map ContactWayRequest.toJson))]), w)
  | some (.str "match") =>
    let externalUserId ← textReq req "external_user_id"
    let (r, w') := w.run (matchByExternalUser externalUserId).run
    pure (bindResult r fun row => obj [("row", rowOrNull row)], w')
  | some (.str "search") =>
    let size ← u32Or req "size" 10
    let index ← u32Or req "index" 1
    let keyword ← textReq req "keyword"
    let (r, w') := w.run (search keyword (Page.clamped size index)).run
    pure (bindResult r RowPage.toJson, w')
  | some (.str "get") =>
    let rowId ← w.rowIdAt req "row_id"
    let (r, w') := w.run (getCustomer rowId).run
    pure (bindResult r Row.toJson, w')
  | some (.str "update_fields") =>
    let rowId ← w.rowIdAt req "row_id"
    let updates ← fieldsOr req "updates"
    let (r, w') := w.run (updateFields rowId updates).run
    pure (bindResult r fun n => obj [("written", nat n)], w')
  | some (.str "field_configs") =>
    let (r, w') := w.run fieldConfigs.run
    pure (bindResult r fun fs => obj [("fields", .arr (fs.map FieldConfig.toJson))], w')
  | some (.str "store_create") =>
    let ws ← worksheetAt req "worksheet"
    let fields ← fieldsOr req "fields"
    let (r, w') := w.run (Backends.inStore (MemoryStore.createRow ws fields))
    pure (storeResult r fun id => obj [("row_id", txt id)], w')
  | some (.str "store_get") =>
    let ws ← worksheetAt req "worksheet"
    let rowId ← w.rowIdAt req "row_id"
    let (r, w') := w.run (Backends.inStore (MemoryStore.getRow ws rowId))
    pure (storeResult r fun row => obj [("row", rowOrNull row)], w')
  | some (.str "store_filter") =>
    let ws ← worksheetAt req "worksheet"
    let f ← filterAt req "filter"
    let size ← u32Or req "size" 10
    let index ← u32Or req "index" 1
    let (r, w') := w.run (Backends.inStore (MemoryStore.filterRows ws f ⟨size, index⟩))
    pure (storeResult r RowPage.toJson, w')
  | some (.str "store_find_one") =>
    let ws ← worksheetAt req "worksheet"
    let f ← filterAt req "filter"
    let (r, w') := w.run (Backends.inStore (MemoryStore.findOne ws f))
    pure (storeResult r fun row => obj [("row", rowOrNull row)], w')
  | some (.str "store_update") =>
    let ws ← worksheetAt req "worksheet"
    let rowId ← w.rowIdAt req "row_id"
    let fields ← fieldsOr req "fields"
    let (r, w') := w.run (Backends.inStore (MemoryStore.updateRow ws rowId fields))
    pure (storeResult r fun _ => obj [("ok", flag true)], w')
  | some (.str "store_delete") =>
    let ws ← worksheetAt req "worksheet"
    let rowId ← w.rowIdAt req "row_id"
    let (r, w') := w.run (Backends.inStore (MemoryStore.deleteRow ws rowId))
    pure (storeResult r fun _ => obj [("ok", flag true)], w')
  | some (.str "store_schema") =>
    let ws ← worksheetAt req "worksheet"
    let (r, w') := w.run (Backends.inStore (MemoryStore.worksheetSchema ws))
    pure (storeResult r fun fs => obj [("fields", .arr (fs.map SchemaField.toJson))], w')
  | some (.str "rows") =>
    let ws ← worksheetAt req "worksheet"
    pure (.ok (obj [("rows", .arr ((w.backends.store.rows ws).map Row.toJson))]), w)
  | some (.str "directory") =>
    let kind ← kindAt req "kind"
    let tenant ← textOr req "tenant" defaultTenant
    let (r, w') := w.run (Backends.inDirectory (MemoryDirectory.list tenant kind))
    match r with
    | .ok es => pure (.ok (obj [("entities", .arr (es.map Entity.toJson))]), w')
    | .error e => pure (.error e.toJson, w')
  | some (.str "redis_get") | some (.str "redis_set") | some (.str "redis_fail") =>
    throw .noRedis
  | _ => throw (.field "do")

/-- A step's answer: its result under `ok` or `err`, the record store calls it made, and the
virtual milliseconds it took. -/
def stepAnswer (result : StepResult) (calls : List Call) (ms : Nat) : Value :=
  let main := match result with
    | .ok v => [("ok", v)]
    | .error e => [("err", e)]
  let withCalls := if calls.isEmpty then main
    else main ++ [("calls", .arr (calls.map Call.toJson))]
  obj (if ms = 0 then withCalls else withCalls ++ [("ms", nat ms)])

/-- Runs the steps of a world, answering each, with the world after them; none when the program
stopped in one. -/
def World.runSteps (cfg : SyncConfig) : World → List Value → Option (List Value × World)
  | w, [] => some ([], w)
  | w, req :: rest =>
    match w.step cfg req with
    | .error e => (fun (r, w'') => (obj [("err", e.toJson)] :: r, w'')) <$> World.runSteps cfg w rest
    | .ok (result, w') =>
      if w'.stopped then none
      else
        let calls := w'.backends.store.calls.drop w.backends.store.calls.length
        let ms := w'.backends.clock - w.backends.clock
        (fun (r, w'') => (stepAnswer result calls ms :: r, w'')) <$> World.runSteps cfg w' rest

/-- A world session: settings, the kind of cursor and lock store, and steps. -/
def worldReply (now : Int) (req : Value) : Decode Value := do
  let cfg ← settingsAt req
  let kv ← textOr req "kv" "memory"
  if kv == "redis" then
    match Remote.connectRedis localRedisUrl with
    | .error e => return e.toJsonWith .null
    | .ok () => pure ()
  else if kv != "memory" then throw (.field "kv")
  let steps ← stepsAt req
  match World.runSteps cfg { backends := { now } } steps with
  | some (answers, w) =>
    pure (nameCreatedIn w.backends.store.created (obj [("steps", .arr answers)]))
  | none => pure stoppedAnswer

end RosterSync.Console

import RosterSync.Console.Reply
import RosterSync.Token
import RosterSync.Mapping
import RosterSync.Record.Filter.Conditions
import RosterSync.Record.Filter.Tree
import RosterSync.Binding.Customer
import RosterSync.Engine
import RosterSync.Timer

/-!
Requests that need no state: each answer is a function of the request alone.

They cover correlation tokens, field encoding and mappings, filter evaluation and its two wire
forms, the description of every failure family with its conversions, the retry schedule and a
scripted retry loop on a virtual clock, filter construction, entities and their events, the
defaults of every setting, supervised tasks, pages, row texts, cursor arithmetic, storage keys
and editable customer fields.
-/

namespace RosterSync.Mapping

open RosterSync.Json RosterSync.Console

def FieldMapping.toJson (f : FieldMapping) : Value :=
  obj [("purpose", txt f.purpose), ("field_id", txt f.fieldId), ("kind", txt f.kind.name)]

end RosterSync.Mapping

namespace RosterSync.Console

open RosterSync.Json RosterSync.Record RosterSync.Directory RosterSync.Sync RosterSync.Binding
open RosterSync.Storage RosterSync.Mapping

/-- A correlation token for `raw`, its length in bytes and whether it fits a state. -/
def tokenEncode (req : Value) : Decode Value := do
  let raw ← textReq req "raw"
  let token := Token.encode .standard raw
  pure (obj [("token", txt token), ("len", nat token.utf8ByteSize),
    ("fits_state", flag (token.utf8ByteSize ≤ Token.maxStateLen))])

def tokenDecode (req : Value) : Decode Value := do
  pure (obj [("raw", txt (Token.decode .standard (← textReq req "token")))])

def tokenIsState (req : Value) : Decode Value := do
  pure (obj [("result", flag (Token.isCorrelationState (← textReq req "state")))])

def attachmentName (req : Value) : Decode Value := do
  pure (obj [("name", txt (attachmentFileName (← textReq req "url")))])

/-- The field kinds a value can be encoded for, by name. -/
def fieldKindOf? : String → Option FieldKind
  | "text" => some .text
  | "gender" => some (.dropdown genderOptions)
  | "status" => some (.dropdown statusOptions)
  | "attachment" => some .attachment
  | "relation" => some .relation
  | _ => none

/-- A value encoded for a field kind, or `null` when it is left out. -/
def encodeValueReply (req : Value) : Decode Value := do
  let kind ← readReq req "kind" fun v => v.asStr?.bind fieldKindOf?
  let value := (member? req "value").getD .null
  pure (obj [("encoded", (encodeValue kind value).getD .null)])

def mappingReply (req : Value) : Decode Value := do
  let kind ← kindAt req "kind"
  let m := mappingFor kind
  pure (obj [("worksheet", txt m.worksheet.name), ("alias", txt m.worksheet.platformAlias),
    ("external_id_field", txt m.externalIdField), ("fields", .arr (m.fields.map FieldMapping.toJson)),
    ("departed_key", txt departedKey), ("departments_field", txt departmentsField),
    ("status_field", txt statusField)])

def buildFieldsReply (req : Value) : Decode Value := do
  let e ← entityAt req
  pure (obj [("fields", .obj ((mappingFor e.kind).buildFields e))])

def filterMatches (req : Value) : Decode Value := do
  let f ← filterAt req "filter"
  let fields ← fieldsOr req "fields"
  pure (obj [("matches", flag (f.matches fields))])

def flatConditions (f : Filter) : Value := .arr (Condition.listToJson f.conditions)

def flatReply (req : Value) : Decode Value := do
  pure (obj [("filters", flatConditions (← filterAt req "filter"))])

def treeReply (req : Value) : Decode Value := do
  pure (obj [("tree", (← filterAt req "filter").tree.toJson)])

/-- A storage failure from its description: its message, then its type. -/
def storageErrorOf (v : Value) : Decode StorageError := do
  let message ← textOr v "message" ""
  let kind ← textReq v "type"
  match kind with
  | "backend" => pure (.backend message)
  | "corrupt" => pure (.corrupt (← textOr v "key" "") message)
  | _ => throw (.field "type")

/-- A sync failure of its own kind from its description: the entity's kind and external id,
then the type. -/
def syncErrorOf (v : Value) : Decode SyncError := do
  let entityKind ← kindAt v "kind"
  let externalId ← textOr v "external_id" ""
  match ← textReq v "type" with
  | "empty_field_set" => pure (.emptyFieldSet entityKind externalId)
  | "missing_external_id" => pure (.missingExternalId entityKind)
  | _ => throw (.field "type")

/-- A binding failure from its description: its message, then its type. -/
def bindErrorOf (v : Value) : Decode BindError := do
  let message ← textOr v "message" ""
  let kind ← textReq v "type"
  match kind with
  | "bad_request" => pure (.badRequest message)
  | "conflict" => pure (.conflict message)
  | "not_found" => pure (.notFound message)
  | "provider" => pure (.provider (← i64Or v "code" 0) message)
  | "internal" => pure (.internal message)
  | _ => throw (.field "type")

/-- A failure described by the request, with the failures it converts to. -/
def errorInfo (req : Value) : Decode Value := do
  if let some v := member? req "record_store_error" then
    let e ← storeErrorOf v
    return obj [("record_store", e.toJson), ("bind", (BindError.ofStore e).toJson),
      ("sync", (SyncError.recordStore e).toJson)]
  if let some v := member? req "directory_error" then
    let e ← directoryErrorOf v
    return obj [("directory", e.toJson), ("bind", (BindError.ofDirectory e).toJson),
      ("sync", (SyncError.directory e).toJson)]
  if let some v := member? req "storage_error" then
    let e ← storageErrorOf v
    return obj [("storage", obj [("message", txt e.message)]),
      ("sync", (SyncError.ofStorage e).toJson)]
  if let some v := member? req "sync_error" then
    return obj [("sync", (← syncErrorOf v).toJson)]
  if let some v := member? req "bind_error" then
    return obj [("bind", (← bindErrorOf v).toJson)]
  throw .noErrorGiven

def policyOf (req : Value) : Decode RetryPolicy := do
  let maxAttempts ← u32Or req "max_attempts" 3
  let baseDelayMs ← u64Or req "base_delay_ms" 1000
  pure { maxAttempts, baseDelayMs }

def retryDelay (req : Value) : Decode Value := do
  let p ← policyOf req
  let attempt ← u32Or req "attempt" 1
  pure (obj [("delay_ms", txt (natText (p.delayBefore attempt))),
    ("base_delay_ms", txt (natText p.baseDelayMs))])

/-- A scripted operation on a virtual clock: its outcomes in order, the clock, and when each
attempt was made. -/
structure Script where
  outcomes : List (Except StoreError Value)
  clock : Nat := 0
  attemptsAt : List Nat := []

/-- The outcome of an attempt past the end of a script. -/
def scriptExhausted : Value := .str "script-exhausted"

/-- One attempt: the next outcome of the script, stamped with the clock. -/
def Script.attempt : StateM Script (Except StoreError Value) :=
  modifyGet fun s =>
    ((s.outcomes[s.attemptsAt.length]?).getD (.ok scriptExhausted),
      { s with attemptsAt := s.attemptsAt ++ [s.clock] })

/-- Waiting on the virtual clock, as long as the timer lets the wait last. -/
def Script.sleep (t : Timer) (ms : Nat) : StateM Script Unit :=
  modify fun s => { s with clock := s.clock + t.waited ms }

/-- A scripted outcome: the failure under `err` when there is one, otherwise success with the
value under `ok` (`null` when there is none). -/
def outcomeOf (v : Value) : Decode (Except StoreError Value) :=
  match member? v "err" with
  | some e => .error <$> storeErrorOf e
  | none => pure (.ok ((member? v "ok").getD .null))

def retryRun (req : Value) : Decode Value := do
  let p ← policyOf req
  let outcomes ← (← listOr req "outcomes").mapM outcomeOf
  let (result, s) := (retry p StoreError.isRetryable (Script.sleep .runtime) Script.attempt).run { outcomes }
  let resultJson := match result with
    | .ok v => obj [("ok", v)]
    | .error e => e.toJson
  pure (obj [("result", resultJson), ("attempts", nat s.attemptsAt.length),
    ("attempt_at_ms", .arr (s.attemptsAt.map nat)), ("elapsed_ms", nat s.clock)])

def singleMember? : Value → Option (String × Value)
  | .obj [m] => some m
  | _ => none

def exprBound? : Value → Option (Option String)
  | .null => some none
  | .str s => some (some s)
  | _ => none

/-- A filter from a construction expression, within `fuel` levels. -/
def filterOfExpr? : Nat → Value → Option Filter
  | 0, _ => none
  | fuel + 1, v => do
    let (name, args) ← singleMember? v
    match name, args with
    | "eq", .arr [.str f, .str x] => pure (Filter.eq f x)
    | "contains", .arr [.str f, .str x] => pure (Filter.contains f x)
    | "range", .arr [.str f, lo, hi] => pure (Filter.range f (← exprBound? lo) (← exprBound? hi))
    | "any_of", .arr [.str f, .arr xs] => pure (Filter.anyOf f (← xs.mapM Value.asStr?))
    | "and", .arr [a, b] => pure (Filter.and (← filterOfExpr? fuel a) (← filterOfExpr? fuel b))
    | "or", .arr [a, b] => pure (Filter.or (← filterOfExpr? fuel a) (← filterOfExpr? fuel b))
    | "build_and", .arr items =>
      pure (FilterBuilder.buildAll ⟨← items.mapM (filterOfExpr? fuel)⟩)
    | "build_or", .arr items =>
      pure (FilterBuilder.buildAny ⟨← items.mapM (filterOfExpr? fuel)⟩)
    | _, _ => none

/-- The nesting depth of a value, a bound on the levels of an expression. -/
def depth : Value → Nat
  | .arr items => 1 + (items.map depth).foldl max 0
  | .obj members => 1 + (members.attach.map fun ⟨m, _⟩ => depth m.2).foldl max 0
  | _ => 0
termination_by v => sizeOf v
decreasing_by
  all_goals simp_wf
  all_goals
    first
    | (have h := List.sizeOf_lt_of_mem ‹_ ∈ items›; omega)
    | (rename_i h; have := List.sizeOf_lt_of_mem h; cases m; simp_all; omega)

/-- A filter built from an expression, its two wire forms, and whether it matches the given
fields. -/
def filterBuild (req : Value) : Decode Value := do
  let expr ← valueReq req "expr"
  let some f := filterOfExpr? (depth expr + 1) expr | throw .filterExpression
  let base := [("filter", obj [("root", f.toTagged)]), ("v2", flatConditions f),
    ("v3", f.tree.toJson)]
  match member? req "fields" with
  | some (.obj fields) => pure (obj (base ++ [("matches", flag (f.matches fields))]))
  | _ => pure (obj base)

def settingOf (v : Value) : Decode (String × Value) :=
  match v with
  | .arr [.str k, x] => pure (k, x)
  | _ => throw (.field "set")

/-- An entity built step by step, what it reads back, and the event of an action on it. -/
def entityOps (req : Value) : Decode Value := do
  let kind ← kindAt req "kind"
  let tenant ← textOr req "tenant_id" defaultTenant
  let externalId ← textOr req "external_id" ""
  let updatedAt ← timeOr req "updated_at_ms" defaultUpdatedAt
  let settings ← (← listOr req "set").mapM settingOf
  let e0 := Entity.new kind tenant externalId updatedAt
  let e1 := settings.foldl (fun e kv => e.withAttribute kv.1 kv.2) e0
  let e ← match member? req "department_ids" with
    | none => pure e1
    | some _ => e1.withDepartments <$> textsOr req "department_ids"
  let reads ← textsOr req "read"
  let action ← actionAt req "action"
  let readJson := reads.map fun k => (k, (e.attribute? k).getD .null)
  pure (obj [("entity", e.toJson), ("read", obj readJson), ("kind_display", txt kind.name),
    ("action_display", txt action.name), ("action_str", txt action.name),
    ("event_external_id", txt e.externalId), ("event_action", txt action.name)])

/-- The defaults of every setting and the fixed names of the library. -/
def defaultsReply : Value :=
  let c : SyncConfig := {}
  let s : SchedulerConfig := {}
  obj [("config", obj [("tenant_id", txt c.tenantId), ("staff_sync_enabled", flag c.staffSyncEnabled),
      ("redis_url", optText c.redisUrl), ("directory_url", optText c.directoryUrl),
      ("protocol", txt c.recordStore.protocol.name)]),
    ("record_store", c.recordStore.toJson),
    ("contact_api", c.contactApi.toJson),
    ("retry", c.retry.toJson),
    ("scheduler", obj [("interval_ms", nat (s.intervalSecs * 1000)),
      ("lock_lease_ms", nat (s.lockLeaseSecs * 1000)), ("throttle_ms", nat s.throttleMs),
      ("task_name", txt s.taskName), ("validate", checkJson s.validate)]),
    ("states", .arr (EngineState.all.map fun st => txt st.name)),
    ("worksheets", .arr (Worksheet.all.map fun w => .arr [txt w.name, txt w.platformAlias])),
    ("pass_report", ({} : PassReport).toJson),
    ("protocols", .arr [txt Protocol.v2.name, txt Protocol.v3.name]),
    ("kinds", .arr [txt Kind.staff.name, txt Kind.department.name]),
    ("outcomes", .arr [txt Outcome.skipped.name, txt (Outcome.created "").name]),
    ("state_prefix", txt Token.statePrefix),
    ("max_state_len", nat Token.maxStateLen)]

def taskEndOf (req : Value) : Decode TaskEnd := do
  let message ← textOr req "message" ""
  match member? req "outcome" with
  | some (.str "ok") => pure .finished
  | some (.str "error") => pure (.failed message)
  | some (.str "panic") => pure (.panicked message)
  | _ => throw (.field "outcome")

def superviseReply (req : Value) : Decode Value := do
  pure (obj [("joined", flag (← taskEndOf req).joins)])

def pageReply (req : Value) : Decode Value := do
  let size ← u32Or req "size" 0
  let index ← u32Or req "index" 0
  let p := Page.clamped size index
  pure (obj [("size", nat p.size), ("index", nat p.index), ("default", Page.default.pairJson),
    ("first", Page.first.pairJson)])

/-- The texts of row fields and whether they hold values. -/
def rowText (req : Value) : Decode Value := do
  let fields ← fieldsOr req "fields"
  let reads ← textsOr req "read"
  let row : Row := { rowId := "", worksheet := .staff, fields }
  pure (obj [("text", obj (reads.map fun k => (k, optText (row.text k)))),
    ("has_value", obj (reads.map fun k => (k, flag (row.hasValue k))))])

def cursorMath (req : Value) : Decode Value := do
  let tenant ← textOr req "tenant_id" defaultTenant
  let last ← timeReq req "last_ms"
  let cursor : Cursor := ⟨tenant, last⟩
  let advanced ← (timeOpt req "at_ms").map fun a? =>
    a?.map fun a => ("advanced_ms", int (cursor.advancedTo a).lastSyncedAt)
  let lag ← (timeOpt req "now_ms").map fun n? =>
    n?.map fun n => ("lag_secs", int (cursor.lagSecs n))
  pure (obj (advanced.toList ++ lag.toList))

def keysReply (req : Value) : Decode Value := do
  let name ← textReq req "name"
  pure (obj [("cursor_key", txt (cursorKey name)), ("lock_key", txt (lockKey name))])

def editableReply (req : Value) : Decode Value := do
  pure (obj [("editable", flag (isEditable (← textReq req "field_id")))])

end RosterSync.Console

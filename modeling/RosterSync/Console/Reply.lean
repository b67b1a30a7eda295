import RosterSync.Console.Request
import RosterSync.Sync.Error
import RosterSync.Binding.Error
import RosterSync.Config

/-!
Writing answers.

Every failure is written as an object naming its family and case (`RecordStoreError.Provider`),
its message, and what the family adds: record store failures their kind and whether they are
retryable, directory and sync failures whether they are retryable, binding failures their kind.
Rows, pages, entities, schema fields and pass reports have one written form each.

A time read from the wall clock is written relative to it: `now` within the same second,
`now-Ns` when it lies `N` whole seconds behind within a year, and as Unix milliseconds
otherwise.
-/

-- natural powers take the core instance even where the monoid power is in scope
attribute [local instance (2000)] instPowNat

namespace RosterSync.Console

open RosterSync.Json

def obj (members : List (String × Value)) : Value := Value.objOf members

def txt (s : String) : Value := .str s

def flag (b : Bool) : Value := .bool b

def nat (n : Nat) : Value := Value.ofNat n

def int (i : Int) : Value := Value.ofInt i

def optText : Option String → Value
  | some s => .str s
  | none => .null

def InputError.toJson (e : InputError) : Value :=
  obj [("error", txt "bad_input"), ("message", txt e.message)]

/-- The whole answer to a request in which the program stopped. -/
def stoppedAnswer : Value := obj [("error", txt "panic")]

/-- A failure object: its family and case, its message, and the family's extra members. -/
def failure (family variant : String) (message : Value) (extra : List (String × Value)) : Value :=
  obj ([("error", txt (family ++ "." ++ variant)), ("message", message)] ++ extra)

/-- Milliseconds in a year of 365 days: how far back a time is still written relative to the
wall clock. -/
def relativeSpanMs : Int := 365 * 24 * 3600 * 1000

/-- A time, relative to the wall clock `now` when close behind it. -/
def timeJson (now t : Int) : Value :=
  let behind := now - t
  if 0 ≤ behind ∧ behind < 1000 then txt "now"
  else if 0 ≤ behind ∧ behind < relativeSpanMs then
    txt ("now-" ++ intText (behind / 1000) ++ "s")
  else int t

def timeOrNull (now : Int) : Option Int → Value
  | some t => timeJson now t
  | none => .null

end RosterSync.Console

namespace RosterSync.Record

open RosterSync.Json RosterSync.Console

def StoreError.toJsonWith (e : StoreError) (message : Value) : Value :=
  failure "RecordStoreError" e.variant message
    [("kind", txt e.kind), ("retryable", flag e.isRetryable)]

def StoreError.toJson (e : StoreError) : Value := e.toJsonWith (txt e.message)

def Row.toJson (r : Row) : Value :=
  obj [("row_id", txt r.rowId), ("worksheet", txt r.worksheet.name), ("fields", .obj r.fields)]

def rowOrNull : Option Row → Value
  | some r => r.toJson
  | none => .null

def RowPage.toJson (p : RowPage) : Value :=
  obj [("rows", .arr (p.rows.map Row.toJson)), ("total", nat p.total)]

def SchemaOption.toJson (o : SchemaOption) : Value :=
  obj [("key", txt o.key), ("value", txt o.value)]

/-- A schema field; the alias is left out when there is none, the options when empty. -/
def SchemaField.toJson (f : SchemaField) : Value :=
  let base := [("id", txt f.id), ("name", txt f.name), ("type", txt f.fieldType),
    ("required", flag f.required)]
  let withAlias := match f.fieldAlias with
    | some a => base ++ [("alias", txt a)]
    | none => base
  let withOptions := if f.options.isEmpty then withAlias
    else withAlias ++ [("options", .arr (f.options.map SchemaOption.toJson))]
  obj withOptions

def Page.pairJson (p : Page) : Value := .arr [nat p.size, nat p.index]

end RosterSync.Record

namespace RosterSync.Directory

open RosterSync.Json RosterSync.Console

def DirectoryError.toJsonWith (e : DirectoryError) (message : Value) : Value :=
  failure "DirectoryError" e.variant message [("retryable", flag e.isRetryable)]

def DirectoryError.toJson (e : DirectoryError) : Value := e.toJsonWith (txt e.message)

def Entity.toJson (e : Entity) : Value :=
  obj [("kind", txt e.kind.name), ("tenant_id", txt e.tenantId), ("external_id", txt e.externalId),
    ("attributes", .obj e.attributes), ("department_ids", .arr (e.departmentIds.map txt)),
    ("updated_at_ms", int e.updatedAt)]

end RosterSync.Directory

namespace RosterSync.Sync

open RosterSync.Json RosterSync.Console

def SyncError.toJsonWith (e : SyncError) (message : Value) : Value :=
  failure "SyncError" e.variant message [("retryable", flag e.isRetryable)]

def SyncError.toJson (e : SyncError) : Value := e.toJsonWith (txt e.message)

def KindReport.toJson (r : KindReport) : Value :=
  obj [("succeeded", nat r.succeeded), ("failed", nat r.failed), ("total", nat r.total)]

def PassReport.toJson (r : PassReport) : Value :=
  obj [("departments", r.departments.toJson), ("staff", r.staff.toJson), ("failed", nat r.failed)]

end RosterSync.Sync

namespace RosterSync.Binding

open RosterSync.Json RosterSync.Console

def BindError.toJson (e : BindError) : Value :=
  failure "BindError" e.variant (txt e.message) [("kind", txt e.kind)]

end RosterSync.Binding

namespace RosterSync.Storage

open RosterSync.Json RosterSync.Console

def StorageError.variant : StorageError → String
  | .backend _ => "Backend"
  | .corrupt _ _ => "Corrupt"

def StorageError.toJsonWith (e : StorageError) (message : Value) : Value :=
  failure "StorageError" e.variant message []

def StorageError.toJson (e : StorageError) : Value := e.toJsonWith (txt e.message)

end RosterSync.Storage

namespace RosterSync

open RosterSync.Json RosterSync.Console

def ConfigError.variant : ConfigError → String
  | .missing _ => "Missing"
  | .invalid _ _ => "Invalid"

def ConfigError.toJson (e : ConfigError) : Value :=
  failure "ConfigError" e.variant (txt e.message) []

def checkJson : Except ConfigError Unit → Value
  | .ok () => txt "ok"
  | .error e => e.toJson

/-- The record store settings as written; the timeout in milliseconds is kept to 64 bits,
wrapping around. -/
def RecordStoreConfig.toJson (c : RecordStoreConfig) : Value :=
  obj [("api_base", txt c.apiBase), ("app_key", txt c.appKey), ("sign", txt c.sign),
    ("protocol", txt c.protocol.name), ("timeout_secs", nat c.timeoutSecs),
    ("timeout_ms", nat (c.timeoutSecs * 1000 % 2 ^ (64 : Nat)))]

def ContactApiConfig.toJson (c : ContactApiConfig) : Value :=
  obj [("api_base", txt c.apiBase), ("corp_id", txt c.corpId), ("secret", txt c.secret),
    ("timeout_secs", nat c.timeoutSecs)]

def RetryPolicy.toJson (p : RetryPolicy) : Value :=
  obj [("max_attempts", nat p.maxAttempts), ("base_delay_ms", nat p.baseDelayMs)]

end RosterSync

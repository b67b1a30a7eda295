import RosterSync.Json.Read
import RosterSync.Record.Filter.Tagged
import RosterSync.Record.Error
import RosterSync.Directory.Entity
import RosterSync.Calendar

/-!
Reading requests.

A request is a JSON object. A member that is missing or `null` takes its default; a member that
is present must have its type, or the request is refused naming that member. Counts are
non-negative integers below their width, times are signed 64-bit milliseconds inside the
calendar's range. The shared shapes (worksheet, entity, action, filter, failure descriptions)
are read here once for every operation.
-/

-- natural powers take the core instance even where the monoid power is in scope
attribute [local instance (2000)] instPowNat

namespace RosterSync.Console

open RosterSync.Json RosterSync.Record RosterSync.Directory

inductive InputError where
  | field (name : String)
  | notJson
  | unknownOp
  | sqlFailed
  | noErrorGiven
  | steps
  | filterExpression
  | noRedis
deriving DecidableEq, Repr

def InputError.message : InputError → String
  | .field name => "field " ++ name
  | .notJson => "not json"
  | .unknownOp => "unknown op"
  | .sqlFailed => "sql statement failed"
  | .noErrorGiven => "no error given"
  | .steps => "steps"
  | .filterExpression => "filter expression"
  | .noRedis => "no redis"

abbrev Decode := Except InputError

/-- The member under `name`, with `null` read as missing. -/
def member? (v : Value) (name : String) : Option Value :=
  match v.get? name with
  | some .null => none
  | r => r

def textOr (v : Value) (name : String) (default : String) : Decode String :=
  match member? v name with
  | none => pure default
  | some (.str s) => pure s
  | some _ => throw (.field name)

def textReq (v : Value) (name : String) : Decode String :=
  match member? v name with
  | some (.str s) => pure s
  | _ => throw (.field name)

def textOpt (v : Value) (name : String) : Decode (Option String) :=
  match member? v name with
  | none => pure none
  | some (.str s) => pure (some s)
  | some _ => throw (.field name)

def countOr (v : Value) (name : String) (bound default : Nat) : Decode Nat :=
  match member? v name with
  | none => pure default
  | some (.num (.nat n)) => if n < bound then pure n else throw (.field name)
  | some _ => throw (.field name)

/-- A count of 64 bits with a default. -/
def u64Or (v : Value) (name : String) (default : Nat) : Decode Nat :=
  countOr v name (2 ^ (64 : Nat)) default

/-- A count of 32 bits with a default. -/
def u32Or (v : Value) (name : String) (default : Nat) : Decode Nat :=
  countOr v name (2 ^ (32 : Nat)) default

/-- A signed 64-bit integer with a default. -/
def i64Or (v : Value) (name : String) (default : Int) : Decode Int :=
  match member? v name with
  | none => pure default
  | some x => match x.asI64? with
    | some i => pure i
    | none => throw (.field name)

def timeOr (v : Value) (name : String) (default : Int) : Decode Int := do
  let t ← i64Or v name default
  if Calendar.holds t then pure t else throw (.field name)

def timeReq (v : Value) (name : String) : Decode Int := do
  match member? v name with
  | none => throw (.field name)
  | some _ => timeOr v name 0

def timeOpt (v : Value) (name : String) : Decode (Option Int) :=
  match member? v name with
  | none => pure none
  | some _ => some <$> timeOr v name 0

def boolOr (v : Value) (name : String) (default : Bool) : Decode Bool :=
  match member? v name with
  | none => pure default
  | some (.bool b) => pure b
  | some _ => throw (.field name)

def textsOr (v : Value) (name : String) : Decode (List String) :=
  match member? v name with
  | none => pure []
  | some (.arr items) =>
    match items.mapM Value.asStr? with
    | some xs => pure xs
    | none => throw (.field name)
  | some _ => throw (.field name)

def listOr (v : Value) (name : String) : Decode (List Value) :=
  match member? v name with
  | none => pure []
  | some (.arr items) => pure items
  | some _ => throw (.field name)

def fieldsOr (v : Value) (name : String) : Decode Fields :=
  match member? v name with
  | none => pure []
  | some (.obj members) => pure members
  | some _ => throw (.field name)

/-- A member that must be present, of any type. -/
def valueReq (v : Value) (name : String) : Decode Value :=
  match member? v name with
  | some x => pure x
  | none => throw (.field name)

/-- A member read by a partial reader, refused under its own name. -/
def readReq {α : Type} (v : Value) (name : String) (read : Value → Option α) : Decode α :=
  match (member? v name).bind read with
  | some a => pure a
  | none => throw (.field name)

def worksheetAt (v : Value) (name : String) : Decode Worksheet :=
  readReq v name fun x => x.asStr?.bind Worksheet.ofName?

def kindAt (v : Value) (name : String) : Decode Kind :=
  readReq v name fun x => x.asStr?.bind Kind.ofName?

def actionAt (v : Value) (name : String) : Decode Action :=
  readReq v name fun x => x.asStr?.bind Action.ofName?

/-- The count a decimal text names: digits after an optional plus sign. -/
def countText? (s : String) : Option Nat :=
  let digits := if s.startsWith "+" then (s.drop 1).toString else s
  if !digits.isEmpty && digits.all Char.isDigit then digits.toNat? else none

def defaultTenant : String := "corp"

def defaultUpdatedAt : Int := 1700000000000

/-- An entity from its description: its key first, then its time, attributes and
departments. A description that is not an object has no members. -/
def entityOf (v : Value) : Decode Entity := do
  let kind ← kindAt v "kind"
  let tenantId ← textOr v "tenant_id" defaultTenant
  let externalId ← textOr v "external_id" ""
  let updatedAt ← timeOr v "updated_at_ms" defaultUpdatedAt
  let attributes ← fieldsOr v "attributes"
  let departmentIds ← textsOr v "department_ids"
  pure { kind, tenantId, externalId, attributes, departmentIds, updatedAt }

def entityAt (v : Value) : Decode Entity :=
  entityOf ((member? v "entity").getD .null)

def filterAt (v : Value) (name : String) : Decode Filter :=
  readReq v name Filter.ofTagged?

/-- A record store failure from its description: its message, then its type. -/
def storeErrorOf (v : Value) : Decode StoreError := do
  let message ← textOr v "message" ""
  let kind ← textReq v "type"
  match kind with
  | "configuration" => pure (.configuration message)
  | "transport" => pure (.transport false message)
  | "timeout" => pure (.transport true message)
  | "provider" => pure (.provider (← i64Or v "code" 0) message)
  | "status" => pure (.status (← countOr v "status" (2 ^ (16 : Nat)) 500) message)
  | "decode" => pure (.decode message)
  | _ => throw (.field "type")

/-- A directory failure from its description: its message, then its type. -/
def directoryErrorOf (v : Value) : Decode DirectoryError := do
  let message ← textOr v "message" ""
  let kind ← textReq v "type"
  match kind with
  | "database" => pure (.database message)
  | "api" => pure (.api (← i64Or v "code" 0) message)
  | "transport" => pure (.transport message)
  | "decode" => pure (.decode message)
  | _ => throw (.field "type")

def stepsAt (req : Value) : Decode (List Value) :=
  match member? req "steps" with
  | some (.arr items) => pure items
  | none => pure []
  | some _ => throw (.field "steps")

def objectAt (v : Value) (name : String) : Decode Value :=
  match member? v name with
  | some o@(.obj _) => pure o
  | _ => throw (.field name)

end RosterSync.Console

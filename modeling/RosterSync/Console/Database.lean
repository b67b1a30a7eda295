import RosterSync.Console.Reply
import RosterSync.Database.Driver

/-!
Requests against the directory database.

A request opens a fresh in-memory database of the engine, creates the directory's tables unless
told not to, runs its statements (a statement that fails refuses the request), and answers its
queries in order: one entity by external id, all of a tenant's entities of a kind, or those
changed after a time. Database failures are written without the database's own message.
-/

namespace RosterSync.Console

open RosterSync.Json RosterSync.Directory RosterSync.Database

/-- A query's failure: database failures without their message, others with it. -/
def queryFailure (e : DirectoryError) : Value :=
  match e with
  | .database _ => e.toJsonWith .null
  | _ => e.toJson

def queryAnswer {α : Type} (r : Except DirectoryError α) (f : α → Value) : Value :=
  match r with
  | .ok a => obj [("ok", f a)]
  | .error e => obj [("err", queryFailure e)]

inductive DirectoryQuery where
  | get (tenant : String) (kind : Kind) (externalId : String)
  | list (tenant : String) (kind : Kind)
  | changedSince (tenant : String) (kind : Kind) (since : Int)

def queryOf (q : Value) : Decode DirectoryQuery := do
  let op ← textReq q "do"
  let kind ← kindAt q "kind"
  let tenant ← textOr q "tenant" defaultTenant
  match op with
  | "get" => pure (.get tenant kind (← textOr q "external_id" ""))
  | "list" => pure (.list tenant kind)
  | "list_changed_since" => pure (.changedSince tenant kind (← timeOr q "since_ms" 0))
  | _ => throw (.field "do")

def DirectoryQuery.answer (db : Connection) : DirectoryQuery → Value
  | .get tenant kind externalId =>
    queryAnswer (Sql.get engine db tenant kind externalId) fun e? =>
      obj [("entity", match e? with | some e => e.toJson | none => .null)]
  | .list tenant kind =>
    queryAnswer (Sql.list engine db tenant kind) fun es => obj [("entities", .arr (es.map Entity.toJson))]
  | .changedSince tenant kind since =>
    queryAnswer (Sql.listChangedSince engine db tenant kind since) fun es =>
      obj [("entities", .arr (es.map Entity.toJson))]

/-- Reads the whole request (statements, queries, then the options), then runs the statements on a
fresh directory database and answers the queries. -/
def databaseReply (req : Value) : Decode Value := do
  let statements ← textsOr req "sql"
  let queries ← (← listOr req "queries").mapM queryOf
  let _ ← boolOr req "with_pool" false
  let schema ← boolOr req "schema" true
  let start := if schema then Sql.withSchema engine else .ok Connection.empty
  let run := statements.foldlM (fun (db : Connection) s => db.runScript s)
  let .ok db := start.bind run | throw .sqlFailed
  pure (obj [("results", .arr (queries.map (·.answer db)))])

end RosterSync.Console

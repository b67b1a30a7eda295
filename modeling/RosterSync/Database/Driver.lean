import RosterSync.Database.Resolve
import RosterSync.Directory.Sql

/-!
The database engine behind a driver, as the directory's `SqlEngine`.

A script runs statement by statement, each checked as a whole before it runs. The driver refuses
any result, when it has rows, with a column declared `BOOL`, `BOOLEAN`, `DATE`, `TIME`,
`DATETIME` or `TIMESTAMP`, or with a text that is not UTF-8; a query's columns declare the types
its check found.
-/

namespace RosterSync.Database

open RosterSync.Directory

def statementFuel : Nat := 100000

def unreadableTypes : List String := ["bool", "boolean", "date", "time", "datetime", "timestamp"]

def Datum.holdsRawText : Datum → Bool
  | .text s => hasRawBytes s
  | _ => false

/-- Whether the driver accepts a result: no rows, or no column of an unreadable type. -/
def Relation.readable (rel : Relation) : Bool :=
  rel.rows.isEmpty || rel.columns.all fun c =>
    match c.declType with
    | some t => !unreadableTypes.contains t.toLower
    | none => true

/-- The message of a result the driver refuses, if it does. -/
def Relation.refusal? (rel : Relation) : Option String :=
  if !rel.readable then some "unreadable column type"
  else if rel.rows.any (·.any Datum.holdsRawText) then some "text is not UTF-8"
  else none

def Datum.toCell : Datum → Cell
  | .null => .null
  | .integer i => .integer i
  | .real _ => .real
  | .text s => .text s
  | .blob b => .blob b

def Cell.toDatum : Cell → Datum
  | .null => .null
  | .integer i => .integer i
  | .real => .null
  | .text s => .text s
  | .blob b => .blob b

def Relation.toResultSet (rel : Relation) : ResultSet :=
  ⟨rel.columns.map (·.name), rel.rows.map (·.map Datum.toCell)⟩

/-- Runs a script of statements; every result a statement returns must pass the driver. -/
def Connection.runScript (db : Connection) (text : String) : Except String Connection := do
  let stmts ← parseScript text
  stmts.foldlM (fun db st =>
    match db.check [] st with
    | .error (.error m) => .error m
    | .error .ignoreRow => .error "RAISE() may only be used within a trigger-program"
    | .ok shape =>
      match runStatement statementFuel (Ctx.top []) db st with
      | .ok out =>
        match out.rows with
        | some rel =>
          let rel := match shape with
            | some s => rel.withTypes s.firstTypes
            | none => rel
          match rel.refusal? with
          | some m => .error m
          | none => .ok out.db
        | none => .ok out.db
      | .error (.error m) => .error m
      | .error .ignoreRow => .error "RAISE() may only be used within a trigger-program") db

/-- Runs a query with positional parameters; the result must pass the driver. -/
def Connection.query (db : Connection) (text : String) (params : List Cell) :
    Except String ResultSet :=
  match parseQueryText text with
  | .error m => .error m
  | .ok q =>
    let env := (Ctx.top (params.map Cell.toDatum)).env db
    let run : Eval Relation := do
      let shape ← resolveQuery statementFuel env false q
      let rel ← evalQuery statementFuel env q
      pure (rel.withTypes shape.firstTypes)
    match run with
    | .error (.error m) => .error m
    | .error .ignoreRow => .error "RAISE() may only be used within a trigger-program"
    | .ok rel =>
      match rel.refusal? with
      | some m => .error m
      | none => .ok rel.toResultSet

def engine : SqlEngine where
  Db := Connection
  empty := Connection.empty
  execute := Connection.runScript
  query := Connection.query

end RosterSync.Database

import RosterSync.Directory.Entity
import RosterSync.Json.Read
import RosterSync.Calendar
import RosterSync.Text.Blank

/-!
The directory kept in a database.

Two tables hold the directory: `department` (tenant, external id, name, update time) and `staff`
(the same, with avatar, gender, mobile, email, position, status and department ids); the tenant
and the external id together key each row. The directory creates them when they are missing, with
the statements below.

Reading runs one query per request: a tenant's rows of a kind (with a given external id, or
changed after a time), ordered by external id. The database and its driver are the directory's
environment: `SqlEngine` stands for them, running statements and answering a query with its
result columns and rows, or with the failure's message. Cells are found by their exact column
name. Texts are read from texts or valid UTF-8 byte strings and count only when non-empty;
integers only from integers. A row without an external id, or with an update time outside the
calendar, fails the read. Department ids are a JSON array (texts kept, numbers written as JSON
numbers, anything else dropped) or else a comma-separated list, each item trimmed and blank ones
dropped.
-/

namespace RosterSync.Directory

open RosterSync.Json

/-- A cell as the database driver hands it over. -/
inductive Cell where
  | null
  | integer (i : Int)
  | real
  | text (s : String)
  | blob (bytes : List UInt8)

/-- A query's answer: the names of its columns and its rows. -/
structure ResultSet where
  columns : List String
  rows : List (List Cell)

/-- A database with its driver: running a script of statements, and running a query with
positional parameters. -/
structure SqlEngine where
  Db : Type
  empty : Db
  execute : Db → String → Except String Db
  query : Db → String → List Cell → Except String ResultSet

namespace Sql

/-- The statement that creates the department table when it is missing. -/
def departmentSchema : String :=
  "CREATE TABLE IF NOT EXISTS department (ext_corp_id VARCHAR(64) NOT NULL, " ++
  "ext_id VARCHAR(64) NOT NULL, name VARCHAR(255) NOT NULL DEFAULT '', " ++
  "updated_at BIGINT NOT NULL DEFAULT 0, PRIMARY KEY (ext_corp_id, ext_id))"

/-- The statement that creates the staff table when it is missing. -/
def staffSchema : String :=
  "CREATE TABLE IF NOT EXISTS staff (ext_corp_id VARCHAR(64) NOT NULL, " ++
  "ext_id VARCHAR(64) NOT NULL, name VARCHAR(255) NOT NULL DEFAULT '', avatar_url TEXT, " ++
  "gender INT NOT NULL DEFAULT 0, mobile VARCHAR(32), email VARCHAR(255), " ++
  "external_position VARCHAR(255), status INT NOT NULL DEFAULT 1, dept_ids TEXT, " ++
  "updated_at BIGINT NOT NULL DEFAULT 0, PRIMARY KEY (ext_corp_id, ext_id))"

def withSchema (E : SqlEngine) : Except String E.Db := do
  let db ← E.execute E.empty departmentSchema
  E.execute db staffSchema

def tableName : Kind → String
  | .department => "department"
  | .staff => "staff"

/-- The columns the directory reads for a kind of entity. -/
def selectedColumns : Kind → String
  | .department => "ext_corp_id, ext_id, name, updated_at"
  | .staff => "ext_corp_id, ext_id, name, avatar_url, gender, mobile, email, external_position, " ++
      "status, dept_ids, updated_at"

/-- The query reading a kind's rows under a filter. -/
def selectText (kind : Kind) (filter : String) : String :=
  "SELECT " ++ selectedColumns kind ++ " FROM " ++ tableName kind ++ " WHERE " ++ filter ++ " ORDER BY ext_id"

/-- A result row's value in the column of an exact name. -/
def cellOf (cols : List String) (row : List Cell) (name : String) : Cell :=
  match cols.findIdx? (· == name) with
  | some i => row.getD i .null
  | none => .null

/-- The text of a cell: a text or valid UTF-8 bytes, and not empty. -/
def cellText? : Cell → Option String
  | .text s => if s.isEmpty then none else some s
  | .blob b =>
    match String.fromUTF8? (ByteArray.mk b.toArray) with
    | some s => if s.isEmpty then none else some s
    | none => none
  | _ => none

def cellInt? : Cell → Option Int
  | .integer i => some i
  | _ => none

def splitCommas : List Char → List (List Char)
  | [] => [[]]
  | c :: rest =>
    match splitCommas rest with
    | cur :: more => if c = ',' then [] :: cur :: more else (c :: cur) :: more
    | [] => [[c]]

def departmentIdsOf (raw : String) : List String :=
  match Json.parse? raw with
  | some (.arr items) => items.filterMap fun v =>
    match v with
    | .str s => some s
    | .num n => some n.text
    | _ => none
  | _ => ((splitCommas raw.toList).map fun cs => Text.trim (String.ofList cs)).filter (!·.isEmpty)

def entityOf (kind : Kind) (cols : List String) (row : List Cell) : Except DirectoryError Entity := do
  let text? (n : String) := cellText? (cellOf cols row n)
  let int? (n : String) := cellInt? (cellOf cols row n)
  let tenant := (text? "ext_corp_id").getD ""
  let some externalId := text? "ext_id"
    | throw (.decode (kind.name ++ " row without ext_id"))
  let updated := (int? "updated_at").getD 0
  if !Calendar.holds updated then throw (.decode ("bad updated_at " ++ intText updated))
  let e := Entity.new kind tenant externalId updated
  let e := match text? "name" with
    | some n => e.withAttribute "name" (.str n)
    | none => e
  match kind with
  | .department => pure e
  | .staff =>
    let e := [("avatar_url", "avatar"), ("mobile", "mobile"), ("email", "email"),
      ("external_position", "position")].foldl (fun e (col, key) =>
        match text? col with
        | some v => e.withAttribute key (.str v)
        | none => e) e
    let e := [("gender", "gender"), ("status", "status")].foldl (fun e (col, key) =>
        match int? col with
        | some v => e.withAttribute key (Value.ofInt v)
        | none => e) e
    match text? "dept_ids" with
    | some raw => pure (e.withDepartments (departmentIdsOf raw))
    | none => pure e

variable (E : SqlEngine)

/-- The entities of a kind under a filter with its parameters, in the order of the query. -/
def fetch (db : E.Db) (kind : Kind) (filter : String) (params : List Cell) :
    Except DirectoryError (List Entity) :=
  match E.query db (selectText kind filter) params with
  | .error m => .error (.database m)
  | .ok rs => rs.rows.mapM (entityOf kind rs.columns)

/-- The entity of a tenant, kind and external id: the last row found. -/
def get (db : E.Db) (tenant : String) (kind : Kind) (externalId : String) :
    Except DirectoryError (Option Entity) :=
  (fetch E db kind "ext_corp_id = ? AND ext_id = ?" [.text tenant, .text externalId]).map
    List.getLast?

def list (db : E.Db) (tenant : String) (kind : Kind) : Except DirectoryError (List Entity) :=
  fetch E db kind "ext_corp_id = ?" [.text tenant]

def listChangedSince (db : E.Db) (tenant : String) (kind : Kind) (since : Int) :
    Except DirectoryError (List Entity) :=
  fetch E db kind "ext_corp_id = ? AND updated_at > ?" [.text tenant, .integer since]

end Sql

end RosterSync.Directory

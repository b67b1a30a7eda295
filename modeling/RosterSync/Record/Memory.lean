import RosterSync.Record.Filter
import RosterSync.Record.Error

/-!
A record store kept in memory.

Each worksheet holds its rows in insertion order. Every call is first written to a log, then
takes the oldest failure queued for its operation, if any, and fails with it without touching
the rows. A created row gets a fresh id, and every stored row carries its own id in its `rowid`
field. Filtering returns the matching rows of one page and the number of matches; updating
merges fields into the first row of that id; deleting removes every row of that id. A row id
that no row has gives the provider's not-found error.
-/

namespace RosterSync.Record

open RosterSync.Json

inductive Operation where
  | create
  | get
  | filter
  | update
  | delete
  | schema
deriving DecidableEq, Repr, Inhabited

def Operation.name : Operation → String
  | .create => "create"
  | .get => "get"
  | .filter => "filter"
  | .update => "update"
  | .delete => "delete"
  | .schema => "schema"

def Operation.ofName? (s : String) : Option Operation :=
  [Operation.create, .get, .filter, .update, .delete, .schema].find? (·.name == s)

structure Call where
  op : Operation
  worksheet : Worksheet
  rowId : Option String
  fields : Option Fields

def createdIdPrefix : String := "c7e1a9f0-3b5d-4f2e-8a6c-"

/-- The id of the `n`-th created row: a version-4 UUID that only creation produces, the
prefix followed by `n` in twelve hex digits. -/
def createdRowId (n : Nat) : String :=
  let hex := Nat.toDigits 16 n
  createdIdPrefix ++ String.ofList (List.replicate (12 - hex.length) '0' ++ hex)

structure MemoryStore where
  rows : Worksheet → List Row := fun _ => []
  schemas : Worksheet → List SchemaField := fun _ => []
  /-- Logged calls, oldest first. -/
  calls : List Call := []
  /-- Queued failures of each operation, oldest first. -/
  failures : Operation → List StoreError := fun _ => []
  /-- How many rows were created. -/
  created : Nat := 0

namespace MemoryStore

def setRows (s : MemoryStore) (w : Worksheet) (rows : List Row) : MemoryStore :=
  { s with rows := fun w' => if w' = w then rows else s.rows w' }

/-- Appends a row with the given id; its `rowid` field is set to the id. -/
def insertRow (s : MemoryStore) (w : Worksheet) (rowId : String) (fields : Fields) : MemoryStore :=
  s.setRows w (s.rows w ++ [{ rowId, worksheet := w, fields := fields.insert "rowid" (.str rowId) }])

/-- The first row of a worksheet with the given id. -/
def row? (s : MemoryStore) (w : Worksheet) (rowId : String) : Option Row :=
  (s.rows w).find? (·.rowId == rowId)

/-- Queues `times` copies of a failure for an operation. -/
def failNext (s : MemoryStore) (op : Operation) (error : StoreError) (times : Nat) : MemoryStore :=
  { s with failures := fun o => if o = op then s.failures o ++ List.replicate times error
                                 else s.failures o }

/-- Logs a call and takes the failure due for it, if any. -/
def enter (op : Operation) (w : Worksheet) (rowId : Option String) (fields : Option Fields) :
    StateM MemoryStore (Option StoreError) := do
  let s ← get
  let call : Call := { op, worksheet := w, rowId, fields }
  let s : MemoryStore := { s with calls := s.calls ++ [call] }
  match s.failures op with
  | e :: rest =>
    set { s with failures := fun o => if o = op then rest else s.failures o }
    pure (some e)
  | [] =>
    set s
    pure none

def createRow (w : Worksheet) (fields : Fields) : StateM MemoryStore (Except StoreError String) := do
  match ← enter .create w none (some fields) with
  | some e => pure (.error e)
  | none =>
    let s ← get
    let rowId := createdRowId (s.created + 1)
    set ({ s with created := s.created + 1 }.insertRow w rowId fields)
    pure (.ok rowId)

def getRow (w : Worksheet) (rowId : String) :
    StateM MemoryStore (Except StoreError (Option Row)) := do
  match ← enter .get w (some rowId) none with
  | some e => pure (.error e)
  | none => pure (.ok ((← get).row? w rowId))

/-- The page of rows that match a filter, and how many match in all. -/
def filterRows (w : Worksheet) (f : Filter) (page : Page) :
    StateM MemoryStore (Except StoreError RowPage) := do
  match ← enter .filter w none none with
  | some e => pure (.error e)
  | none =>
    let matched := ((← get).rows w).filter fun r => f.matches r.fields
    let skip := (page.index - 1) * page.size
    pure (.ok { rows := (matched.drop skip).take page.size, total := matched.length })

/-- Merges fields into the first row of an id. -/
def updateRow (w : Worksheet) (rowId : String) (fields : Fields) :
    StateM MemoryStore (Except StoreError Unit) := do
  match ← enter .update w (some rowId) (some fields) with
  | some e => pure (.error e)
  | none =>
    let s ← get
    match (s.rows w).findIdx? (·.rowId == rowId) with
    | none => pure (.error (StoreError.rowNotFound rowId))
    | some i =>
      set (s.setRows w ((s.rows w).modify i fun r => { r with fields := r.fields.merge fields }))
      pure (.ok ())

def deleteRow (w : Worksheet) (rowId : String) : StateM MemoryStore (Except StoreError Unit) := do
  match ← enter .delete w (some rowId) none with
  | some e => pure (.error e)
  | none =>
    let s ← get
    let kept := (s.rows w).filter (·.rowId != rowId)
    if kept.length = (s.rows w).length then pure (.error (StoreError.rowNotFound rowId))
    else
      set (s.setRows w kept)
      pure (.ok ())

/-- The schema of a worksheet, empty when none was set. -/
def worksheetSchema (w : Worksheet) : StateM MemoryStore (Except StoreError (List SchemaField)) := do
  match ← enter .schema w none none with
  | some e => pure (.error e)
  | none => pure (.ok ((← get).schemas w))

def findOne (w : Worksheet) (f : Filter) : StateM MemoryStore (Except StoreError (Option Row)) := do
  match ← filterRows w f Page.first with
  | .error e => pure (.error e)
  | .ok page => pure (.ok page.rows.head?)

end MemoryStore

end RosterSync.Record

import RosterSync.Json.Write

/-!
Worksheets, rows and pages of a record store.

The record store keeps three worksheets, each with a name and the alias the platform knows it by.
A row has an id and its fields, a JSON object whose keys are sorted. The text of a field is the
string it holds, or the compact JSON text of any other value; a null or missing field has no
text. A field has a value when its text is neither empty nor `[]`.
-/

namespace RosterSync.Record

open RosterSync.Json

inductive Worksheet where
  | staff
  | department
  | customer
deriving DecidableEq, Repr, Inhabited

namespace Worksheet

def name : Worksheet → String
  | .staff => "staff"
  | .department => "department"
  | .customer => "customer"

def platformAlias : Worksheet → String
  | .staff => "starstaffinfo"
  | .department => "stardeptinfo"
  | .customer => "starclientinfo"

def all : List Worksheet := [.staff, .department, .customer]

def ofName? (s : String) : Option Worksheet :=
  all.find? fun w => w.name == s

end Worksheet

/-- Field values keyed by field id, keys sorted and unique. -/
abbrev Fields := List (String × Value)

def Fields.get? (fields : Fields) (key : String) : Option Value :=
  (fields.find? (·.1 == key)).map (·.2)

/-- Sets a key of sorted fields, keeping them sorted. -/
def Fields.insert (fields : Fields) (key : String) (v : Value) : Fields :=
  Value.insertSorted key v fields

/-- Writes every member of `updates` over `fields`, in the order of `updates`. -/
def Fields.merge (fields updates : Fields) : Fields :=
  updates.foldl (fun acc kv => acc.insert kv.1 kv.2) fields

/-- The text form of a field value: a string as it is, `null` as none, anything else as its
compact JSON text. -/
def valueText? : Value → Option String
  | .null => none
  | .str s => some s
  | v => some v.render

structure Row where
  rowId : String
  worksheet : Worksheet
  fields : Fields
deriving Inhabited

namespace Row

/-- The text of a field, if it holds a non-null value. -/
def text (row : Row) (field : String) : Option String :=
  (row.fields.get? field).bind valueText?

/-- Whether a field holds a value: its text is neither empty nor `[]`. -/
def hasValue (row : Row) (field : String) : Bool :=
  match row.text field with
  | some s => s != "" && s != "[]"
  | none => false

/-- A row read from a provider's object: its id is the first string among `rowid`, `rowId`
and `id`. -/
def ofRaw? (worksheet : Worksheet) (fields : Fields) : Option Row :=
  let idOf (key : String) : Option String := (fields.get? key).bind Value.asStr?
  match (idOf "rowid" <|> idOf "rowId" <|> idOf "id") with
  | some rowId => some { rowId, worksheet, fields }
  | none => none

end Row

/-- A page request: rows `size` at a time, the `index`-th page counting from one. -/
structure Page where
  size : Nat
  index : Nat
deriving DecidableEq, Repr

namespace Page

/-- A page with both numbers raised to at least one. -/
def clamped (size index : Nat) : Page := ⟨max size 1, max index 1⟩

def default : Page := clamped 10 1

def first : Page := clamped 1 1

end Page

/-- One page of rows and the number of rows that matched in all. -/
structure RowPage where
  rows : List Row
  total : Nat

structure SchemaOption where
  key : String
  value : String
deriving DecidableEq, Repr

structure SchemaField where
  id : String
  name : String
  fieldType : String
  fieldAlias : Option String
  required : Bool
  options : List SchemaOption
deriving DecidableEq, Repr

end RosterSync.Record

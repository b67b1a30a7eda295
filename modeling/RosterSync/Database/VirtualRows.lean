import RosterSync.Database.Relation
import RosterSync.Database.TextSearch.Query

/-!
The rows of virtual tables and how writes change them.

**Full-text indexes** keep their rows in row id order, each with the raw values of its columns.
A new row takes the row id given (read as an integer key) or one past the largest; a row id that
is taken fails the insertion unless it replaces or is ignored. A value in the column named like
the table is a command instead (`optimize`, `rebuild`, … ), which changes no row. An update of
the older index moves a row only when its `docid` is set.

**R*Trees** keep their rows in the order they were written: an update takes the row out and
writes it again at the end. Each bound is stored as a 32-bit number: a float rounded down for a
lower bound and up for an upper one, or a 32-bit integer; a lower bound above its upper bound
fails the write. The id is read as a 64-bit integer; `NULL` takes one past the largest.

After every write the tables the module keeps its data in are brought up to date: the content
table with the rows' values, the table of document sizes with each row's word counts, and the
R*Tree's table of row ids with its auxiliary values.
-/

-- natural powers take the core instance even where the monoid power is in scope
attribute [local instance (2000)] instPowNat

namespace RosterSync.Database

open TextSearch

/-- The words of a row's columns as a full-text index holds them. -/
def TextIndex.document (ix : TextIndex) (values : List Datum) : Document :=
  (values.zip ix.indexed).map fun (v, on) =>
    if on then
      match v.text? with
      | some s => (ix.tokenizer.words s).map (·.term)
      | none => []
    else []

/-- Reads a full-text query against an index's columns, narrowed to one column when given. The
newer index reads a missing query as an empty one, and refuses what its detail level cannot
answer; the older finds nothing for a missing query. -/
def TextIndex.parseQuery (ix : TextIndex) (columns : List String) (column : Option Nat)
    (q : Option String) : Except String Search :=
  if ix.version == 5 then do
    let s ← parseNewerQuery { tokenizer := ix.tokenizer, columns := columns } none (q.getD "")
    if ix.detail > 0 then
      match s.detailError (ix.detail == 2) with
      | some e => throw e
      | none => pure ()
    match column with
    | some c =>
      if ix.detail == 2 && s != .nothing then throw "fts5: column queries are not supported (detail=none)"
      else pure (s.within [c])
    | none => pure s
  else
    match q with
    | none => .ok .nothing
    | some q =>
      parseOlderQuery { tokenizer := ix.tokenizer, columns := columns, defaultColumn := column,
                        carets := ix.version == 4 } q

/-! ### R*Tree bounds -/

/-- The factor that moves a single-precision number one step toward zero. -/
def towardZero : Float := 1.0 - 1.0 / 8388608.0

/-- The factor that moves a single-precision number one step away from zero. -/
def awayFromZero : Float := 1.0 + 1.0 / 8388608.0

/-- The nearest single-precision number to a double, as a double. -/
def toSingle (d : Float) : Float := d.toFloat32.toFloat

/-- A lower bound as stored: a single-precision number at or below the double. -/
def lowerSingle (d : Float) : Float :=
  let f := toSingle d
  if f > d then toSingle (d * (if d < 0 then awayFromZero else towardZero)) else f

/-- An upper bound as stored: a single-precision number at or above the double. -/
def upperSingle (d : Float) : Float :=
  let f := toSingle d
  if f < d then toSingle (d * (if d < 0 then towardZero else awayFromZero)) else f

/-- The signed 32-bit integer of a value's low 32 bits. -/
def int32Of (d : Datum) : Int :=
  let m := d.intValue % (2 ^ (32 : Nat) : Int)
  if m ≥ 2 ^ (31 : Nat) then m - 2 ^ (32 : Nat) else m

/-- A bound as stored, and the number it compares by. -/
def SpatialIndex.bound (ix : SpatialIndex) (lower : Bool) (v : Datum) : Datum × Float :=
  if ix.integers then
    let i := int32Of v
    (.integer i, Float.ofInt i)
  else
    let d := v.realValue.toFloat
    let f := if lower then lowerSingle d else upperSingle d
    (.real (Binary64.ofFloat f), f)

/-- The stored bounds of a box from its given values, or the error of a lower bound above its
upper bound, naming the two columns. -/
def SpatialIndex.bounds (ix : SpatialIndex) (tableName : String) (names : List String)
    (given : List Datum) : Except String (List Datum) :=
  (List.range ix.dimensions).foldlM (fun (acc : List Datum) k => do
    let (lo, lf) := ix.bound true (given.getD (2 * k) .null)
    let (hi, hf) := ix.bound false (given.getD (2 * k + 1) .null)
    if lf > hf then
      throw ("rtree constraint failed: " ++ tableName ++ ".(" ++ names.getD (2 * k) "" ++ "<=" ++
        names.getD (2 * k + 1) "" ++ ")")
    else pure (acc ++ [lo, hi])) []

/-! ### Sizes of documents -/

/-- The varint of the database file: seven bits a byte from the most significant, the high bit
marking all bytes but the last; nine bytes for numbers of 57 bits or more. -/
def fileVarint (n : Nat) : List UInt8 :=
  if n ≥ 2 ^ (56 : Nat) then
    (List.range 8).reverse.map (fun k => ((n / 256 / 2 ^ (7 * k)) % 128 + 128).toUInt8) ++
      [(n % 256).toUInt8]
  else
    let groups := sevenBits n []
    groups.dropLast.map (fun g => (g + 128).toUInt8) ++ [(groups.getLast?.getD 0).toUInt8]
where
  sevenBits (n : Nat) (acc : List Nat) : List Nat :=
    if h : n < 128 then n :: acc else sevenBits (n / 128) (n % 128 :: acc)
  termination_by n
  decreasing_by omega

/-- The varint of the older index: seven bits a byte from the least significant, the high bit
marking all bytes but the last. -/
def littleVarint (n : Nat) : List UInt8 :=
  if h : n < 128 then [n.toUInt8] else (n % 128 + 128).toUInt8 :: littleVarint (n / 128)
termination_by n
decreasing_by omega

/-- The recorded sizes of a row's columns: each column's word count as a varint. -/
def TextIndex.sizeRecord (ix : TextIndex) (values : List Datum) : Datum :=
  let counts := (ix.document values).map List.length
  .blob (counts.flatMap fun n => if ix.version == 5 then fileVarint n else littleVarint n)

/-! ### The tables a module keeps its data in -/

/-- A store with a table's rows replaced, in row id order, when the table exists. -/
def Store.refill (s : Store) (name : String) (rows : List Row) : Store :=
  match s.table? name with
  | some t => s.putTable { t with rows := rows.mergeSort fun a b => a.rowid ≤ b.rowid }
  | none => s

/-- A store with the tables a virtual table keeps its data in brought up to date. -/
def Store.withShadows (s : Store) (t : Table) : Store :=
  match t.module with
  | some (.text ix) =>
    let content := t.rows.map fun r =>
      { rowid := r.rowid,
        values := .integer r.rowid :: r.values ++
          (if ix.version < 5 && ix.languageColumn != "__langid" then [.integer 0] else []) : Row }
    let s := if ix.content == .own then s.refill (t.name ++ "_content") content else s
    s.refill (t.name ++ "_docsize")
      (t.rows.map fun r => { rowid := r.rowid, values := [.integer r.rowid, ix.sizeRecord r.values] })
  | some (.spatial ix) =>
    s.refill (t.name ++ "_rowid") (t.rows.map fun r =>
      { rowid := r.rowid, values := [.integer r.rowid, .integer 1] ++ r.values.drop (1 + 2 * ix.dimensions) })
  | none => s

/-! ### Writes -/

/-- What writing one row of a virtual table did: the table after it, what the last inserted row
id becomes (if it changes), and the row written, if any. -/
structure VirtualWrite where
  table : Table
  lastRowid : Option Int
  row : Option Row

/-- A row id from a value: an integer after integer affinity, else a type mismatch. -/
def keyOf (d : Datum) : Except String Int :=
  match d.withAffinity .integer with
  | .integer i => .ok i
  | _ => .error "datatype mismatch"

/-- One past the largest row id of a table, or 1 when it has none. -/
def Table.nextKey (t : Table) : Int :=
  (t.rows.foldl (fun (m : Option Int) r => some (match m with
    | some x => max x r.rowid
    | none => r.rowid)) none).map (· + 1) |>.getD 1

/-- A table with a row put in row id order. -/
def Table.putInOrder (t : Table) (r : Row) : Table :=
  let (front, back) := t.rows.span fun x => x.rowid ≤ r.rowid
  { t with rows := front ++ r :: back }

/-- The commands the newer index takes in its own column. -/
def newerCommands : List String :=
  ["optimize", "rebuild", "integrity-check", "merge", "automerge", "crisismerge", "usermerge",
   "pgsz", "rank", "secure-delete", "deletemerge", "hashsize"]

/-- Runs a command written into a full-text index's own column. -/
def Table.textCommand (t : Table) (ix : TextIndex) (cmd : Datum) : Except String VirtualWrite :=
  let c := (cmd.text?.getD "").toLower
  let done : VirtualWrite := { table := t, lastRowid := some 0, row := none }
  if ix.version == 5 then
    if newerCommands.contains c then .ok done
    else if c == "delete-all" then
      if ix.content == .own then
        .error "'delete-all' may only be used with a contentless or external content fts5 table"
      else .ok { done with table := { t with rows := [] } }
    else .error "SQL logic error"
  else if c == "optimize" || c == "rebuild" || c == "integrity-check" || c == "flush" ||
      c.startsWith "merge=" || c.startsWith "automerge=" then .ok done
  else .error "SQL logic error"

/-- A row id taken by another row: replaced, ignored (`none`), or an error. -/
def Table.resolveTaken (t : Table) (oc : Option Conflict) (rowid : Int) (except : Option Int)
    (err : String) : Except String (Option Table) :=
  if t.rows.any fun r => r.rowid == rowid && except != some r.rowid then
    match oc with
    | some .replace => .ok (some { t with rows := t.rows.filter (·.rowid != rowid) })
    | some .ignore => .ok none
    | _ => .error err
  else .ok (some t)

/-- The value given for a hidden column, if any. -/
def hiddenValue (hidden : List (String × Datum)) (name : String) : Option Datum :=
  (hidden.reverse.find? fun (n, _) => sameName n name).map (·.2)

/-- Inserts a row into a virtual table: the row id given (if any), values given for hidden
columns by name, and the values of the visible columns. `none` when the row is skipped. -/
def Table.insertVirtual (t : Table) (oc : Option Conflict) (rowid : Option Datum)
    (hidden : List (String × Datum)) (values : List Datum) : Except String (Option VirtualWrite) := do
  match t.module with
  | some (.text ix) =>
    match hiddenValue hidden t.name with
    | some cmd =>
      if cmd != .null then return some (← t.textCommand ix cmd)
    | none => pure ()
    let docid := if ix.version < 5 then (hiddenValue hidden "docid").filter (· != .null) else none
    let given ← match docid, rowid.filter (· != .null) with
      | some _, some _ => throw "SQL logic error"
      | some d, none => pure (some d)
      | none, r => pure r
    let key ← match given with
      | some v => keyOf v
      | none => pure t.nextKey
    match ← t.resolveTaken oc key none "constraint failed" with
    | none => return none
    | some t =>
      let row : Row := { rowid := key, values := values }
      return some { table := t.putInOrder row, lastRowid := some key, row := some row }
  | some (.spatial ix) =>
    let names := t.columns.map (·.name)
    match ix.bounds t.name (names.drop 1) (values.drop 1) with
    | .error e => if oc == some .ignore then return none else throw e
    | .ok bounds =>
      let key := match values.head? with
        | some .null | none => t.nextKey
        | some v => v.intValue
      match ← t.resolveTaken oc key none ("UNIQUE constraint failed: " ++ t.name ++ "." ++ names.headD "") with
      | none => return none
      | some t =>
        let row : Row := { rowid := key,
                           values := .integer key :: bounds ++ values.drop (1 + 2 * ix.dimensions) }
        return some { table := { t with rows := t.rows ++ [row] }, lastRowid := some key, row := some row }
  | none => return none

/-- Updates a row of a virtual table to new visible values, with the row id and hidden values
an update assigned. `none` when the row is skipped. -/
def Table.updateVirtual (t : Table) (oc : Option Conflict) (old : Row) (rowid : Option Datum)
    (hidden : List (String × Datum)) (values : List Datum) : Except String (Option VirtualWrite) := do
  match t.module with
  | some (.text ix) =>
    let key ← if ix.version == 5 then
        match rowid with
        | some v => keyOf v
        | none => pure old.rowid
      else
        match hiddenValue hidden "docid" with
        | some v => if v == .null then (match rowid with
            | some r => keyOf r
            | none => pure old.rowid) else keyOf v
        | none => pure old.rowid
    let rest : Table := { t with rows := t.rows.filter (·.rowid != old.rowid) }
    match ← rest.resolveTaken oc key none "constraint failed" with
    | none => return none
    | some rest =>
      let row : Row := { rowid := key, values := values }
      return some { table := rest.putInOrder row,
                    lastRowid := some (if ix.version == 5 then key else 0), row := some row }
  | some (.spatial ix) =>
    let names := t.columns.map (·.name)
    match ix.bounds t.name (names.drop 1) (values.drop 1) with
    | .error e => if oc == some .ignore then return none else throw e
    | .ok bounds =>
      let key := match values.head? with
        | some .null | none => t.nextKey
        | some v => v.intValue
      let rest : Table := { t with rows := t.rows.filter (·.rowid != old.rowid) }
      match ← rest.resolveTaken oc key none ("UNIQUE constraint failed: " ++ t.name ++ "." ++ names.headD "") with
      | none => return none
      | some rest =>
        let row : Row := { rowid := key,
                           values := .integer key :: bounds ++ values.drop (1 + 2 * ix.dimensions) }
        return some { table := { rest with rows := rest.rows ++ [row] }, lastRowid := none, row := some row }
  | none => return none

def Table.deleteVirtual (t : Table) (old : Row) : VirtualWrite :=
  let last := match t.module with
    | some (.text ix) => if ix.version == 5 then none else some 0
    | _ => none
  { table := { t with rows := t.rows.filter (·.rowid != old.rowid) }, lastRowid := last, row := some old }

/-- A connection after a write of a virtual table: the table and its module's tables stored, and
the last inserted row id moved as the write says. -/
def Connection.afterVirtual (db : Connection) (w : VirtualWrite) : Connection :=
  { db with store := (db.store.putTable w.table).withShadows w.table,
            lastRowid := w.lastRowid.getD db.lastRowid }

end RosterSync.Database

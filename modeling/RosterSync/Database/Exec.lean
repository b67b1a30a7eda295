import RosterSync.Database.Define

/-!
Running statements.

A statement changes the database and may return rows (a query, or `RETURNING`). Creating a table
reads its column types into affinities, decides which single `INTEGER PRIMARY KEY` column is the
row id, and turns the other keys into unique keys. Inserting fills each column from the first
value written for it, else from its default, converts values by affinity, computes generated
columns, and checks `NOT NULL`, `CHECK` and then the unique keys; a conflict is resolved by the
statement's `OR` clause, else the constraint's own clause, else by aborting. `REPLACE` deletes the
rows in the way (a missing value in a `NOT NULL` column takes the column's default), `IGNORE`
skips the row, and an upsert clause whose target matches the conflicting key does nothing or
updates the existing row. Updating evaluates every assignment against the row as it was. Rows are
kept in row id order (in key order for tables without row ids), which is the order a scan meets
them.

Transactions and savepoints save the store when they open and put it back on rollback. Triggers
run their statements for each row with the row's `NEW` and `OLD` values, and `RAISE(IGNORE)` in a
trigger that runs before a change skips that change.
-/

namespace RosterSync.Database

/-- A row id from a value: an integer after integer affinity, else a type mismatch. -/
def rowidOf (d : Datum) : Eval Int :=
  match d.withAffinity .integer with
  | .integer i => pure i
  | _ => fail "datatype mismatch"

/-- The row id a new row takes: one past the largest, or past the sequence for
`AUTOINCREMENT`. -/
def Table.nextRowid (t : Table) (sequences : List (String × Int)) : Eval Int :=
  let largest := t.rows.foldl (fun (m : Option Int) r => some (match m with
    | some x => max x r.rowid
    | none => r.rowid)) none
  if t.autoincrement then
    let seq := ((sequences.find? fun (n, _) => sameName n t.name).map (·.2)).getD 0
    let base := max seq (largest.getD 0)
    if base ≥ maxI64 then fail "database or disk is full" else pure (base + 1)
  else
    match largest with
    | none => pure 1
    | some m => if m ≥ maxI64 then fail "database or disk is full" else pure (m + 1)

/-- The columns a table's primary key orders rows by, without row ids: position, collation and
direction of each. -/
def Table.orderColumns (t : Table) : List (Nat × Collation × Bool) :=
  match t.keys.find? (·.primary) with
  | some k => k.columns.filterMap fun ic =>
    match ic.expr with
    | .column _ n _ =>
      (t.columnIndex? n).map fun i =>
        let coll := (ic.collation.bind Collation.ofName?).getD ((t.columns[i]?.map (·.collation)).getD .binary)
        (i, coll, ic.desc)
    | _ => none
  | none => []

/-- Whether a row comes before another in a table's scan order. -/
def Table.before (t : Table) (a b : Row) : Bool :=
  if t.withoutRowid then
    let rec go : List (Nat × Collation × Bool) → Bool
      | [] => true
      | (i, coll, desc) :: rest =>
        match Datum.compareWith coll (a.values.getD i .null) (b.values.getD i .null) with
        | .eq => go rest
        | .lt => !desc
        | .gt => desc
    go t.orderColumns
  else a.rowid ≤ b.rowid

/-- A table with a row stored in scan order. -/
def Table.place (t : Table) (r : Row) : Table :=
  let (front, back) := t.rows.span fun x => t.before x r
  { t with rows := front ++ r :: back }

/-- A table without the rows of some row ids. -/
def Table.without (t : Table) (ids : List Int) : Table :=
  { t with rows := t.rows.filter fun r => !ids.contains r.rowid }

def keyCollation (env : Env) (ic : IndexedColumn) : Eval Collation := do
  match ic.collation with
  | some n =>
    match Collation.ofName? n with
    | some c => pure c
    | none => fail ("no such collation sequence: " ++ n)
  | none => pure ((← env.collationOf ic.expr).getD .binary)

/-- The values of a key in a row with their collations; `none` when the row is outside a
partial key or holds `NULL` in it (such rows never collide). -/
def keyValues (fuel : Nat) (ctx : Ctx) (db : Connection) (k : UniqueKey) (frame : Frame) :
    Eval (Option (List (Datum × Collation))) := do
  let env := ctx.rowEnv db [frame]
  let inKey ← match k.filter with
    | none => pure true
    | some f => keeps fuel env f
  if !inKey then return none
  let vals ← k.columns.mapM fun ic => do
    let v ← evalExpr fuel env ic.expr
    pure (v, ← keyCollation env ic)
  if vals.any (·.1 == .null) then return none
  pure (some vals)

def sameKey (a b : List (Datum × Collation)) : Bool :=
  a.length == b.length && (a.zip b).all fun ((x, c), (y, _)) => Datum.compareWith c x y == .eq

/-- The rows of a table other than one that collide with a row on a key. -/
def collisions (fuel : Nat) (ctx : Ctx) (db : Connection) (t : Table) (k : UniqueKey) (frame : Frame)
    (exclude : Option Int) : Eval (List Row) := do
  match ← keyValues fuel ctx db k frame with
  | none => pure []
  | some kv =>
    t.rows.filterM fun r => do
      if exclude == some r.rowid then pure false
      else
        match ← keyValues fuel ctx db k (t.frameOf t.name r) with
        | some rv => pure (sameKey kv rv)
        | none => pure false

def uniqueFailure (t : Table) (k : UniqueKey) : String :=
  "UNIQUE constraint failed: " ++ ", ".intercalate (k.columnNames.map fun n => t.name ++ "." ++ n)

/-- Whether an upsert clause's target is a key (`none` for the row id). -/
def Upsert.targets (u : Upsert) (t : Table) (k : Option UniqueKey) : Bool :=
  match u.target with
  | none => true
  | some (cols, _) =>
    let names := cols.filterMap fun ic =>
      match ic.expr with
      | .column _ n _ => some n
      | _ => none
    if names.length != cols.length then false
    else
      match k with
      | none =>
        match names, t.rowidAlias with
        | [n], some a => (t.columns[a]?.map fun c => sameName c.name n).getD false
        | _, _ => false
      | some key =>
        let keyNames := key.columnNames
        keyNames.length == key.columns.length && names.length == keyNames.length &&
          names.all (fun n => keyNames.any (sameName · n)) && keyNames.all (fun n => names.any (sameName · n))

/-- What resolving the keys of a new row decided. -/
inductive KeyOutcome where
  | proceed (db : Connection)
  | skip
  | upsert (u : Upsert) (existing : Row)

/-- Resolves the keys of a row about to be stored: the row id first, then each unique key. A
collision goes to the first upsert clause that targets its key, else to the conflict rule. -/
def resolveKeys (fuel : Nat) (ctx : Ctx) (oc : Option Conflict) (upserts : List Upsert)
    (exclude : Option Int) (frame : Frame) (rowid : Int) (tname : String) :
    Connection → List UniqueKey → Eval KeyOutcome
  | db, [] => pure (.proceed db)
  | db, k :: rest => do
    let t ← db.tableNamed tname
    let hits ← collisions fuel ctx db t k frame exclude
    match hits with
    | [] => resolveKeys fuel ctx oc upserts exclude frame rowid tname db rest
    | h :: _ =>
      match upserts.find? (·.targets t (some k)) with
      | some u => pure (.upsert u h)
      | none =>
        match oc.getD (k.conflict.getD .abort) with
        | .replace =>
          let db := db.withTable (t.without (hits.map (·.rowid)))
          resolveKeys fuel ctx oc upserts exclude frame rowid tname db rest
        | .ignore => pure .skip
        | _ => fail (uniqueFailure t k)

/-- Resolves a row id already taken by another row. -/
def resolveRowid (oc : Option Conflict) (upserts : List Upsert) (t : Table) (db : Connection)
    (rowid : Int) (exclude : Option Int) : Eval KeyOutcome :=
  if t.withoutRowid then pure (.proceed db)
  else
    match t.rows.find? fun r => r.rowid == rowid && exclude != some r.rowid with
    | none => pure (.proceed db)
    | some h =>
      match upserts.find? (·.targets t none) with
      | some u => pure (.upsert u h)
      | none =>
        match oc.getD .abort with
        | .replace => pure (.proceed (db.withTable (t.without [h.rowid])))
        | .ignore => pure .skip
        | _ =>
          let col := (t.rowidAlias.bind fun a => t.columns[a]?.map (·.name)).getD "rowid"
          fail ("UNIQUE constraint failed: " ++ t.name ++ "." ++ col)

/-- Fills generated columns from the row's other values, in column order. -/
def fillGenerated (fuel : Nat) (ctx : Ctx) (db : Connection) (t : Table) (rowid : Int)
    (values : List Datum) : Eval (List Datum) :=
  (List.range t.columns.length).foldlM (fun vals i => do
    match t.columns[i]? with
    | some c =>
      match c.generated with
      | some e => do
        let v ← evalExpr fuel (ctx.rowEnv db [t.frameOf t.name { rowid := rowid, values := vals }]) e
        pure (vals.set i (← t.storeValue c v))
      | none => pure vals
    | none => pure vals) values

/-- Checks `NOT NULL` columns: `REPLACE` puts the column's default in, `IGNORE` skips the row
(`none`), other rules fail. -/
def checkNotNull (fuel : Nat) (ctx : Ctx) (db : Connection) (t : Table) (oc : Option Conflict)
    (values : List Datum) : Eval (Option (List Datum)) :=
  (List.range t.columns.length).foldlM (fun (acc : Option (List Datum)) i => do
    match acc, t.columns[i]? with
    | some vals, some c =>
      if vals.getD i .null == .null && c.notNull.isSome && t.rowidAlias != some i then
        match oc.getD (c.notNull.getD .abort) with
        | .replace =>
          match c.default with
          | some e => do
            let d ← t.storeValue c (← evalExpr fuel (ctx.env db) e)
            if d == .null then fail ("NOT NULL constraint failed: " ++ t.name ++ "." ++ c.name)
            else pure (some (vals.set i d))
          | none => fail ("NOT NULL constraint failed: " ++ t.name ++ "." ++ c.name)
        | .ignore => pure none
        | _ => fail ("NOT NULL constraint failed: " ++ t.name ++ "." ++ c.name)
      else pure (some vals)
    | _, _ => pure acc) (some values)

/-- Checks `CHECK` constraints: a false one fails, or skips the row under `IGNORE` (`false`). -/
def checkChecks (fuel : Nat) (ctx : Ctx) (db : Connection) (t : Table) (oc : Option Conflict)
    (frame : Frame) : Eval Bool :=
  t.checks.foldlM (fun ok e => do
    if !ok then pure false
    else
      let v ← evalExpr fuel (ctx.rowEnv db [frame]) e
      if v.truth? == some false then
        if oc == some .ignore then pure false else fail "CHECK constraint failed"
      else pure true) true

/-- Checks the foreign keys of a row: each reference whose columns are all set must reach a row of
its parent. -/
def checkForeignKeys (db : Connection) (t : Table) (values : List Datum) : Eval Unit := do
  if !db.foreignKeys then return ()
  for fk in t.foreignKeys do
    let childVals := fk.columns.map fun n => ((t.columnIndex? n).bind fun i => values[i]?).getD .null
    if childVals.any (· == .null) then continue
    match db.store.table? fk.key.parent with
    | none => fail "no such table"
    | some p =>
      let parentCols : List Nat :=
        if fk.key.parentColumns.isEmpty then
          match p.rowidAlias with
          | some a => [a]
          | none => ((p.keys.find? (·.primary)).map fun k => k.columnNames.filterMap p.columnIndex?).getD []
        else fk.key.parentColumns.filterMap p.columnIndex?
      if parentCols.length != childVals.length then fail "foreign key mismatch"
      let found := p.rows.any fun r =>
        (parentCols.zip childVals).all fun (i, v) =>
          match p.columns[i]? with
          | some c =>
            let (a, b) := prepareCompare (combineAffinity (some c.affinity) none) (r.values.getD i .null) v
            Datum.compareWith c.collation a b == .eq
          | none => false
      if !found then fail "FOREIGN KEY constraint failed"

/-- Whether a trigger fires on an event, given the columns an update sets. -/
def TriggerEvent.fires (e : TriggerEvent) (kind : Nat) (changed : List String) : Bool :=
  match e with
  | .insert => kind == 0
  | .delete => kind == 2
  | .update cols => kind == 1 && (cols.isEmpty || cols.any fun c => changed.any (sameName · c))

/-- The rows a `RETURNING` clause makes of changed rows. -/
def returningRows (fuel : Nat) (ctx : Ctx) (db : Connection) (t : Table) (name : String)
    (returning : List ResultColumn) (rows : List Row) : Eval (Option Relation) := do
  if returning.isEmpty then return none
  let shape := [t.frameOf name { rowid := 0, values := t.columns.map fun _ => .null }]
  let items ← expandColumns shape returning
  let env := ctx.rowEnv db shape
  let infos ← items.mapM fun (n, e, a) => columnInfoOf env n e (env.affinityOf e) a.isSome false
  let vals ← rows.mapM fun r => items.mapM fun (_, e, _) => evalExpr fuel (ctx.rowEnv db [t.frameOf name r]) e
  pure (some { columns := infos, rows := vals })

/-- Where a value of an insertion goes: a column, the row id, or a hidden column of a virtual
table. -/
inductive Target where
  | column (i : Nat)
  | rowid
  | hidden (name : String)
deriving DecidableEq

/-- The targets of an insertion's column list (all stored columns when there is none). -/
def insertTargets (t : Table) (cols : Option (List String)) : Eval (List Target) :=
  match cols with
  | none => pure (((List.range t.columns.length).filter fun i =>
      (t.columns[i]?.bind Column.generated).isNone).map Target.column)
  | some names => names.mapM fun n =>
    match t.columnIndex? n with
    | some i =>
      if (t.columns[i]?.bind Column.generated).isSome then fail ("cannot INSERT into generated column \"" ++ n ++ "\"")
      else pure (.column i)
    | none =>
      if isRowidName n && !t.withoutRowid then pure .rowid
      else
        match (t.module.map (·.hiddenNames t.name)).getD [] |>.find? (sameName · n) with
        | some h => pure (.hidden h)
        | none => fail ("table " ++ t.name ++ " has no column named " ++ n)

/-- The values an update's assignments give, name by name, each evaluated against the row as it
was. -/
def assignedPairs (fuel : Nat) (env : Env) (sets : Assignments) : Eval (List (String × Datum)) :=
  sets.foldlM (fun (acc : List (String × Datum)) (names, e) => do
    let vs ← match names, e with
      | [_], _ => do pure [← evalExpr fuel env e]
      | _, .row items =>
        if items.length != names.length then fail (toString names.length ++ " columns assigned " ++ toString items.length ++ " values")
        else items.mapM (evalExpr fuel env)
      | _, .scalar q => do
        let rel ← evalQuery fuel env q
        if rel.columns.length != names.length then fail (toString names.length ++ " columns assigned " ++ toString rel.columns.length ++ " values")
        else pure (rel.rows.head?.getD (names.map fun _ => .null))
      | _, _ => fail "row value misused"
    pure (acc ++ names.zip vs)) []

/-- Applies an update's assignments to a row, each evaluated against the row as it was. -/
def assignValues (fuel : Nat) (env : Env) (t : Table) (old : Row) (sets : Assignments) :
    Eval (List Datum × Int) := do
  let pairs ← assignedPairs fuel env sets
  pairs.foldlM (fun (acc : List Datum × Int) (n, v) => do
    let (vals, rowid) := acc
    match t.columnIndex? n with
    | some i =>
      match t.columns[i]? with
      | some c =>
        if t.rowidAlias == some i then
          let r ← rowidOf v
          pure (vals.set i (.integer r), r)
        else pure (vals.set i (← t.storeValue c v), rowid)
      | none => pure (vals, rowid)
    | none =>
      if isRowidName n && !t.withoutRowid then
        let r ← rowidOf v
        let vals := match t.rowidAlias with
          | some a => vals.set a (.integer r)
          | none => vals
        pure (vals, r)
      else fail ("no such column: " ++ n)) (old.values, old.rowid)

/-- A row of a virtual table with an update's assignments applied: the new values of its visible
columns, the row id assigned (if any), and the values assigned to hidden columns. -/
def assignVirtual (fuel : Nat) (env : Env) (t : Table) (old : Row) (sets : Assignments) :
    Eval (List Datum × Option Datum × List (String × Datum)) := do
  let pairs ← assignedPairs fuel env sets
  let spatial := match t.module with
    | some (.spatial _) => true
    | _ => false
  pure (pairs.foldl (fun (acc : List Datum × Option Datum × List (String × Datum)) (n, v) =>
    let (vals, rowid, hidden) := acc
    match t.columnIndex? n with
    | some i => (vals.set i v, rowid, hidden)
    | none =>
      if isRowidName n then
        if spatial then (vals.set 0 v, rowid, hidden) else (vals, some v, hidden)
      else (vals, rowid, hidden ++ [(n, v)])) (old.values, none, []))

/-- Stores a virtual table's write: its rows and the tables its module keeps its data in. -/
def Connection.virtualWrite (db : Connection) (w : Except String (Option VirtualWrite)) :
    Eval (Connection × Option Row) :=
  match w with
  | .error e => fail e
  | .ok none => pure (db, none)
  | .ok (some w) => pure (db.afterVirtual w, w.row)

def Assignments.columnNames (sets : Assignments) : List String := sets.flatMap (·.1)

mutual

def runStatement (fuel : Nat) (ctx : Ctx) (db : Connection) (st : Statement) : Eval Outcome :=
  match fuel with
  | 0 => fail "statement nested too deeply"
  | fuel + 1 =>
    match st with
    | .query q => do
      let rel ← evalQuery fuel (ctx.env db) q
      pure { db := db, rows := some rel }
    | .withTables _ ctes body => do
      let env ← withCtes fuel (ctx.env db) ctes fun _ => 2
      runStatement fuel { ctx with ctes := env.ctes } db body
    | .insert oc tname asName cols source upserts returning =>
      insertStatement fuel ctx db oc tname asName cols source upserts returning
    | .update oc tname asName sets src filter returning =>
      updateStatement fuel ctx db oc tname asName sets src filter returning
    | .delete tname asName filter returning => deleteStatement fuel ctx db tname asName filter returning
    | .createVirtual ine name module args text => do
      match ← db.createVirtual ine name module args text with
      | none => pure { db := db, rows := none }
      | some (db, script) =>
        match parseScript script with
        | .ok stmts => do pure { db := ← runBody fuel ctx db stmts, rows := none }
        | .error e => fail e
    | other => do
      let db ← schemaStatement fuel ctx db other
      pure { db := db, rows := none }
termination_by structural fuel

def insertStatement (fuel : Nat) (ctx : Ctx) (db : Connection) (oc : Option Conflict) (tname : String)
    (asName : Option String) (cols : Option (List String)) (source : Option Query) (upserts : List Upsert)
    (returning : List ResultColumn) : Eval Outcome :=
  match fuel with
  | 0 => fail "statement nested too deeply"
  | fuel + 1 => do
    let t ← match db.store.table? tname with
      | some t => pure t
      | none =>
        if (db.store.view? tname).isSome then fail ("cannot modify " ++ tname ++ " because it is a view")
        else fail ("no such table: " ++ tname)
    let targets ← insertTargets t cols
    let keys := db.store.uniqueKeys t
    for u in upserts do
      if u.target.isSome && !(u.targets t none || keys.any fun k => u.targets t (some k)) then
        fail "ON CONFLICT clause does not match any PRIMARY KEY or UNIQUE constraint"
    let rows : List (List Expr) ← match source with
      | none => pure [[]]
      | some (.mk false [] (.values rows) [] [] none none) => pure rows
      | some q => do
        let rel ← evalQuery fuel (ctx.env db) q
        pure (rel.rows.map fun vs => vs.map Expr.literal)
    let width := targets.length
    let (db, done) ← rows.foldlM (fun (acc : Connection × List Row) exprs => do
      let (db, done) := acc
      let given ← exprs.mapM (evalExpr fuel (ctx.env db))
      if source.isSome && given.length != width then
        if cols.isNone then
          fail ("table " ++ t.name ++ " has " ++ toString width ++ " columns but " ++ toString given.length ++ " values were supplied")
        else fail (toString given.length ++ " values for " ++ toString width ++ " columns")
      else if t.module.isSome then
        let pairs := targets.zip given
        let valueFor (tg : Target) : Option Datum := (pairs.find? fun (x, _) => x == tg).map (·.2)
        let values := (List.range t.columns.length).map fun i => (valueFor (.column i)).getD .null
        let rowid := match t.module with
          | some (.spatial _) => none
          | _ => valueFor .rowid
        let hidden := pairs.filterMap fun (x, v) =>
          match x with
          | .hidden n => some (n, v)
          | _ => none
        let t ← db.tableNamed t.name
        let (db, row?) ← db.virtualWrite (t.insertVirtual oc rowid hidden values)
        pure (db, done ++ row?.toList)
      else
        let (db, row?) ← insertOne fuel ctx db t.name (asName.getD t.name) oc targets given upserts
        pure (db, done ++ row?.toList)) (db, [])
    let t' ← db.tableNamed t.name
    let rel ← returningRows fuel ctx db t' (asName.getD t.name) returning done
    pure { db := { db with changes := done.length, totalChanges := db.totalChanges + done.length }, rows := rel }
termination_by structural fuel

/-- Inserts one row; the stored row, or the row an upsert updated, or nothing when it was
skipped. -/
def insertOne (fuel : Nat) (ctx : Ctx) (db : Connection) (tname name : String) (oc : Option Conflict)
    (targets : List Target) (given : List Datum) (upserts : List Upsert) : Eval (Connection × Option Row) :=
  match fuel with
  | 0 => fail "statement nested too deeply"
  | fuel + 1 => do
    let t ← db.tableNamed tname
    let pairs := targets.zip given
    let valueFor (tg : Target) : Option Datum := (pairs.find? fun (x, _) => x == tg).map (·.2)
    let explicitRowid : Option Datum :=
      match t.rowidAlias.bind fun a => valueFor (.column a) with
      | some v => some v
      | none => valueFor .rowid
    let values ← (List.range t.columns.length).mapM fun i => do
      match t.columns[i]? with
      | some c =>
        match valueFor (.column i) with
        | some v => t.storeValue c v
        | none =>
          match c.default with
          | some e => do t.storeValue c (← evalExpr fuel (ctx.env db) e)
          | none => pure .null
      | none => pure .null
    let rowid? ← match explicitRowid with
      | some v => if v == .null then pure none else some <$> rowidOf v
      | none => pure none
    let provisional := rowid?.getD (-1)
    let values := match t.rowidAlias, rowid? with
      | some a, some r => values.set a (.integer r)
      | _, _ => values
    let values ← fillGenerated fuel ctx db t provisional values
    let (db, skip) ← fireTriggers fuel ctx db t 0 true
      (some (t.frameOf "new" { rowid := provisional, values := values })) none []
    if skip then return (db, none)
    let t ← db.tableNamed tname
    match ← checkNotNull fuel ctx db t oc values with
    | none => pure (db, none)
    | some values => do
      let rowid ← match rowid? with
        | some r => pure r
        | none =>
          if t.withoutRowid then pure ((t.rows.foldl (fun m (r : Row) => max m r.rowid) 0) + 1)
          else t.nextRowid db.store.sequences
      let values := match t.rowidAlias with
        | some a => values.set a (.integer rowid)
        | none => values
      let row : Row := { rowid := rowid, values := values }
      let frame := t.frameOf t.name row
      if !(← checkChecks fuel ctx db t oc frame) then return (db, none)
      let outcome ← match ← resolveRowid oc upserts t db rowid none with
        | .proceed db => resolveKeys fuel ctx oc upserts none frame rowid t.name db (db.store.uniqueKeys t)
        | other => pure other
      match outcome with
      | .skip => pure (db, none)
      | .upsert u existing =>
        match u.action with
        | none => pure (db, none)
        | some (sets, cond) => do
          let old := t.frameOf name existing
          let excluded := { t.frameOf "excluded" row with merged := t.columns.map (·.name) }
          let env := ctx.rowEnv db [old, excluded]
          let go ← match cond with
            | none => pure true
            | some c => keeps fuel env c
          if !go then pure (db, none)
          else
            let (vals, newRowid) ← assignValues fuel env t existing sets
            updateOne fuel ctx db t.name (some .abort) existing vals newRowid sets.columnNames
      | .proceed db => do
        let t ← db.tableNamed tname
        checkForeignKeys db t values
        let t := t.place row
        let seqs := if t.autoincrement then
            (db.store.sequences.filter fun (n, _) => !sameName n t.name) ++
              [(t.name, max rowid (((db.store.sequences.find? fun (n, _) => sameName n t.name).map (·.2)).getD 0))]
          else db.store.sequences
        let db := { db.withTable t with
          store := { (db.withTable t).store with sequences := seqs },
          lastRowid := if t.withoutRowid then db.lastRowid else rowid }
        let (db, _) ← fireTriggers fuel ctx db t 0 false (some (t.frameOf "new" row)) none []
        pure (db, some row)
termination_by structural fuel

/-- Stores new values for a row after checking them; the stored row, or nothing when skipped. -/
def updateOne (fuel : Nat) (ctx : Ctx) (db : Connection) (tname : String) (oc : Option Conflict)
    (old : Row) (vals : List Datum) (newRowid : Int) (changed : List String) :
    Eval (Connection × Option Row) :=
  match fuel with
  | 0 => fail "statement nested too deeply"
  | fuel + 1 => do
    let t ← db.tableNamed tname
    let vals ← fillGenerated fuel ctx db t newRowid vals
    let (db, skip) ← fireTriggers fuel ctx db t 1 true
      (some (t.frameOf "new" { rowid := newRowid, values := vals })) (some (t.frameOf "old" old)) changed
    if skip then return (db, none)
    let t ← db.tableNamed tname
    if !(t.rows.any (·.rowid == old.rowid)) then return (db, none)
    match ← checkNotNull fuel ctx db t oc vals with
    | none => pure (db, none)
    | some vals => do
      let row : Row := { rowid := newRowid, values := vals }
      let frame := t.frameOf t.name row
      if !(← checkChecks fuel ctx db t oc frame) then return (db, none)
      let outcome ← match ← resolveRowid oc [] t db newRowid (some old.rowid) with
        | .proceed db => resolveKeys fuel ctx oc [] (some old.rowid) frame newRowid t.name db (db.store.uniqueKeys t)
        | other => pure other
      match outcome with
      | .proceed db => do
        let t ← db.tableNamed tname
        checkForeignKeys db t vals
        let t := (t.without [old.rowid]).place row
        let db := db.withTable t
        let (db, _) ← fireTriggers fuel ctx db t 1 false (some (t.frameOf "new" row)) (some (t.frameOf "old" old)) changed
        pure (db, some row)
      | _ => pure (db, none)
termination_by structural fuel

def updateStatement (fuel : Nat) (ctx : Ctx) (db : Connection) (oc : Option Conflict) (tname : String)
    (asName : Option String) (sets : Assignments) (src : Option Source) (filter : Option Expr)
    (returning : List ResultColumn) : Eval Outcome :=
  match fuel with
  | 0 => fail "statement nested too deeply"
  | fuel + 1 => do
    let t ← match db.store.table? tname with
      | some t => pure t
      | none =>
        if (db.store.view? tname).isSome then fail ("cannot modify " ++ tname ++ " because it is a view")
        else fail ("no such table: " ++ tname)
    let name := asName.getD t.name
    let hiddenNames := (t.module.map (·.hiddenNames t.name)).getD []
    for n in sets.columnNames do
      if (t.columnIndex? n).isNone && !(isRowidName n && !t.withoutRowid) &&
          !hiddenNames.any (sameName · n) then fail ("no such column: " ++ n)
    let shape := [t.frameOf name { rowid := 0, values := t.columns.map fun _ => .null }]
    let filter := filter.map (markTextSearches shape)
    for (a, qe) in (filter.map (fixedSearches shape 10000)).getD [] do
      match parsedSearch shape a (← evalExpr fuel (ctx.rowEnv db shape) qe) with
      | .error e => fail e
      | .ok _ => pure ()
    let extra ← match src with
      | some s => do pure (some (← evalSource fuel (ctx.env db) s []))
      | none => pure none
    let candidates ← t.rows.filterMapM fun r => do
      let frame := t.frameOf name r
      let joins := match extra with
        | some e => e.rows.map fun fs => frame :: fs
        | none => [[frame]]
      let hit ← joins.findM? fun fs => do
        match filter with
        | none => pure true
        | some f => keeps fuel (ctx.rowEnv db fs) f
      pure (hit.map fun fs => (r.rowid, fs.drop 1))
    let (db, done) ← candidates.foldlM (fun (acc : Connection × List Row) (rid, others) => do
      let (db, done) := acc
      let t ← db.tableNamed tname
      match t.rows.find? (·.rowid == rid) with
      | none => pure (db, done)
      | some old => do
        let env := ctx.rowEnv db (t.frameOf name old :: others)
        if t.module.isSome then
          let (vals, rowid, hidden) ← assignVirtual fuel env t old sets
          let (db, row?) ← db.virtualWrite (t.updateVirtual oc old rowid hidden vals)
          pure (db, done ++ row?.toList)
        else
          let (vals, newRowid) ← assignValues fuel env t old sets
          let (db, row?) ← updateOne fuel ctx db t.name oc old vals newRowid sets.columnNames
          pure (db, done ++ row?.toList)) (db, [])
    let t' ← db.tableNamed t.name
    let rel ← returningRows fuel ctx db t' name returning done
    pure { db := { db with changes := done.length, totalChanges := db.totalChanges + done.length }, rows := rel }
termination_by structural fuel

def deleteStatement (fuel : Nat) (ctx : Ctx) (db : Connection) (tname : String) (asName : Option String)
    (filter : Option Expr) (returning : List ResultColumn) : Eval Outcome :=
  match fuel with
  | 0 => fail "statement nested too deeply"
  | fuel + 1 => do
    let t ← match db.store.table? tname with
      | some t => pure t
      | none =>
        if (db.store.view? tname).isSome then fail ("cannot modify " ++ tname ++ " because it is a view")
        else fail ("no such table: " ++ tname)
    let name := asName.getD t.name
    let shape := [t.frameOf name { rowid := 0, values := t.columns.map fun _ => .null }]
    let filter := filter.map (markTextSearches shape)
    for (a, qe) in (filter.map (fixedSearches shape 10000)).getD [] do
      match parsedSearch shape a (← evalExpr fuel (ctx.rowEnv db shape) qe) with
      | .error e => fail e
      | .ok _ => pure ()
    let doomed ← t.rows.filterM fun r => do
      match filter with
      | none => pure true
      | some f => keeps fuel (ctx.rowEnv db [t.frameOf name r]) f
    let (db, done) ← doomed.foldlM (fun (acc : Connection × List Row) old => do
      let (db, done) := acc
      let t ← db.tableNamed tname
      if !(t.rows.any (·.rowid == old.rowid)) then pure (db, done)
      else if t.module.isSome then pure (db.afterVirtual (t.deleteVirtual old), done ++ [old])
      else
        let (db, skip) ← fireTriggers fuel ctx db t 2 true none (some (t.frameOf "old" old)) []
        if skip then pure (db, done)
        else
          let t ← db.tableNamed tname
          let db := db.withTable (t.without [old.rowid])
          let (db, _) ← fireTriggers fuel ctx db t 2 false none (some (t.frameOf "old" old)) []
          pure (db, done ++ [old])) (db, [])
    let rel ← returningRows fuel ctx db t name returning done
    pure { db := { db with changes := done.length, totalChanges := db.totalChanges + done.length }, rows := rel }
termination_by structural fuel

/-- Runs the triggers of a table for one row change (`kind` 0 insert, 1 update, 2 delete);
whether a trigger asked to skip the change. -/
def fireTriggers (fuel : Nat) (ctx : Ctx) (db : Connection) (t : Table) (kind : Nat) (before : Bool)
    (new old : Option Frame) (changed : List String) : Eval (Connection × Bool) :=
  match fuel with
  | 0 => fail "too many levels of trigger recursion"
  | fuel + 1 =>
    let timing : TriggerTiming := if before then .before else .after
    let trigs := db.store.triggers.filter fun g =>
      sameName g.table t.name && g.timing == timing && g.event.fires kind changed &&
        !ctx.active.any (sameName · g.name)
    trigs.foldlM (fun (acc : Connection × Bool) g => do
      let (db, skip) := acc
      if skip then pure (db, skip)
      else
        let frames := new.toList ++ old.toList
        let inner : Ctx := { params := [], outer := [frames], ctes := [], active := g.name :: ctx.active }
        let go ← match g.condition with
          | none => pure true
          | some c => keeps fuel (inner.env db) c
        if !go then pure (db, false)
        else
          match runBody fuel inner db g.body with
          | .ok db => pure (db, false)
          | .error .ignoreRow => pure (db, true)
          | .error e => .error e) (db, false)
termination_by structural fuel

def runBody (fuel : Nat) (ctx : Ctx) (db : Connection) (body : List Statement) : Eval Connection :=
  match fuel with
  | 0 => fail "too many levels of trigger recursion"
  | fuel + 1 =>
    match body with
    | [] => pure db
    | s :: rest => do
      let out ← runStatement fuel ctx db s
      runBody fuel ctx out.db rest
termination_by structural fuel

end

end RosterSync.Database

import RosterSync.Database.Eval
import RosterSync.Database.ParseStatement

/-!
Statements that define the schema or control transactions.

A table definition gives each column its declared type, the affinity that type names, its
collation, whether it must hold a value, its default and its generation rule. A single primary
key column declared exactly `INTEGER` (and not `DESC` on the column itself) is the row id; any
other primary key and every `UNIQUE` constraint is a unique key, and the primary key of a table
without row ids also makes its columns `NOT NULL`. Indexes, views and triggers are kept beside the
tables; dropping a table drops its indexes and triggers.

`BEGIN` and `SAVEPOINT` save the store, `ROLLBACK` puts back the outermost saved store (or the
named savepoint's, keeping that savepoint), and `COMMIT` and `RELEASE` forget saved stores.
Pragmas set foreign key enforcement (only outside a transaction), `LIKE` case sensitivity and
recursive triggers; other pragmas change nothing.
-/

namespace RosterSync.Database

/-- What statements run with: parameters, the `NEW`/`OLD` rows of enclosing triggers, the common
tables in scope, and the triggers already running. -/
structure Ctx where
  params : List Datum
  outer : List (List Frame)
  ctes : List (String × Relation)
  active : List String

def Ctx.top (params : List Datum) : Ctx := { params := params, outer := [], ctes := [], active := [] }

def Ctx.env (c : Ctx) (db : Connection) : Env :=
  { db := db, params := c.params, scopes := c.outer, group := none, aliases := [], ctes := c.ctes,
    regroupsCompounds := c.active.isEmpty }

def Ctx.rowEnv (c : Ctx) (db : Connection) (frames : List Frame) : Env :=
  { db := db, params := c.params, scopes := frames :: c.outer, group := none, aliases := [], ctes := c.ctes,
    regroupsCompounds := c.active.isEmpty }

/-- What a statement leaves: the database after it and the rows it returned. -/
structure Outcome where
  db : Connection
  rows : Option Relation

def Connection.tableNamed (db : Connection) (name : String) : Eval Table :=
  match db.store.table? name with
  | some t => pure t
  | none => fail ("no such table: " ++ name)

def Connection.withTable (db : Connection) (t : Table) : Connection :=
  { db with store := db.store.putTable t }

/-- A value as a column stores it: converted by affinity; a strict table also checks its type. -/
def Table.storeValue (t : Table) (c : Column) (d : Datum) : Eval Datum :=
  let v := d.withAffinity c.affinity
  if !t.strict || v == .null then pure v
  else
    let ty := c.declType.toUpper
    let ok := match ty, v with
      | "ANY", _ => true
      | "INT", .integer _ | "INTEGER", .integer _ => true
      | "REAL", .real _ => true
      | "TEXT", .text _ => true
      | "BLOB", .blob _ => true
      | _, _ => false
    if ok then pure v
    else fail ("cannot store " ++ v.typeName.toUpper ++ " value in " ++ ty ++ " column " ++ t.name ++ "." ++ c.name)

/-- Whether a name is taken by a table, view or index. -/
def Store.nameTaken (s : Store) (n : String) : Bool :=
  (s.table? n).isSome || (s.view? n).isSome || s.indexes.any fun i => sameName i.name n

def columnOf (d : ColumnDef) : Eval Column := do
  let collName := d.constraints.findSome? fun c =>
    match c with
    | .collate n => some n
    | _ => none
  let coll ← match collName with
    | some n =>
      match Collation.ofName? n with
      | some c => pure c
      | none => fail ("no such collation sequence: " ++ n)
    | none => pure .binary
  pure { name := d.name, declType := d.typeName, affinity := affinityOfType d.typeName, collation := coll,
         notNull := d.constraints.findSome? fun c =>
           match c with
           | .notNull cf => some (cf.getD .abort)
           | _ => none,
         default := d.constraints.findSome? fun c =>
           match c with
           | .default e _ => some e
           | _ => none,
         generated := d.constraints.findSome? fun c =>
           match c with
           | .generated e _ => some e
           | _ => none,
         defaultText := (d.constraints.findSome? fun c =>
           match c with
           | .default _ t => some t
           | _ => none).getD "",
         stored := d.constraints.any fun c =>
           match c with
           | .generated _ true => true
           | _ => false,
         collationText := collName.getD "BINARY" }

def plainKey (names : List String) : List IndexedColumn :=
  names.map fun n => { expr := .column none n false, collation := none, desc := false }

def strictTypes : List String := ["INT", "INTEGER", "REAL", "TEXT", "BLOB", "ANY"]

def buildTable (name : String) (defs : List ColumnDef) (cons : List TableConstraint)
    (withoutRowid strict : Bool) : Eval Table := do
  if name.toLower.startsWith "sqlite_" then fail ("object name reserved for internal use: " ++ name)
  let cols ← defs.mapM columnOf
  let names := defs.map (·.name)
  for i in List.range names.length do
    match names[i]? with
    | some n =>
      if (names.take i).any (sameName · n) then fail ("duplicate column name: " ++ n)
    | none => pure ()
  if strict then
    for d in defs do
      if d.typeName.isEmpty then fail ("missing datatype for " ++ name ++ "." ++ d.name)
      if !strictTypes.contains d.typeName.toUpper then
        fail ("unknown datatype for " ++ name ++ "." ++ d.name ++ ": \"" ++ d.typeName ++ "\"")
  let indexed := (List.range defs.length).zip defs
  let colPks := indexed.filterMap fun (i, d) => d.constraints.findSome? fun c =>
    match c with
    | .primaryKey desc cf auto => some (i, desc, cf, auto)
    | _ => none
  let tablePks := cons.filterMap fun c =>
    match c with
    | .primaryKey ics cf auto => some (ics, cf, auto)
    | _ => none
  if colPks.length + tablePks.length > 1 then fail ("table \"" ++ name ++ "\" has more than one primary key")
  let pk : Option (List IndexedColumn × Option Conflict × Bool × Bool) :=
    match colPks, tablePks with
    | [(i, desc, cf, auto)], _ =>
      some ([{ expr := .column none (names.getD i "") false, collation := none, desc := desc }], cf, auto, desc)
    | [], [(ics, cf, auto)] => some (ics, cf, auto, false)
    | _, _ => none
  let pkNames : List String := match pk with
    | some (ics, _, _, _) => ics.filterMap fun ic =>
      match ic.expr with
      | .column _ n _ => some n
      | _ => none
    | none => []
  for n in pkNames do
    if !names.any (sameName · n) then fail ("no such column: " ++ n)
  let aliasIdx : Option Nat := match pk with
    | some ([ic], _, _, colDesc) =>
      match ic.expr with
      | .column none n _ =>
        (names.findIdx? (sameName · n)).bind fun i =>
          if !withoutRowid && isIntegerType ((defs[i]?.map (·.typeName)).getD "") && !colDesc then some i else none
      | _ => none
    | _ => none
  let autoinc := match pk with
    | some (_, _, a, _) => a
    | none => false
  if autoinc && aliasIdx.isNone then fail "AUTOINCREMENT is only allowed on an INTEGER PRIMARY KEY"
  if withoutRowid && pk.isNone then fail ("PRIMARY KEY missing on table " ++ name)
  let pkColumns : List IndexedColumn := match pk with
    | some (ics, _, _, _) => ics
    | none => []
  -- the keys in the order they are written, but for a primary key that is the row id
  let writtenKeys : List (List IndexedColumn) :=
    (defs.flatMap fun d => d.constraints.filterMap fun c =>
      match c with
      | .primaryKey _ _ _ => if aliasIdx.isNone then some pkColumns else none
      | .unique _ => some (plainKey [d.name])
      | _ => none) ++
    cons.filterMap fun c =>
      match c with
      | .primaryKey ics _ _ => if aliasIdx.isNone then some ics else none
      | .unique ics _ => some ics
      | _ => none
  let signature (ics : List IndexedColumn) : List (String × String) :=
    ics.map fun ic =>
      let n := match ic.expr with
        | .column _ n _ => n.toLower
        | _ => ""
      let coll := match ic.collation with
        | some c => c.toLower
        | none => ((cols.find? fun c => sameName c.name n).map (·.collation.name.toLower)).getD "binary"
      (n, coll)
  let made := writtenKeys.foldl (fun (acc : List (List (String × String))) ics =>
    if acc.contains (signature ics) then acc else acc ++ [signature ics]) []
  let keyName (ics : List IndexedColumn) : String :=
    "sqlite_autoindex_" ++ name ++ "_" ++ toString (made.idxOf (signature ics) + 1)
  let pkKey : List UniqueKey := match pk, aliasIdx with
    | some (ics, cf, _, _), none =>
      [{ name := keyName ics, columns := ics, conflict := cf, primary := true, filter := none }]
    | _, _ => []
  let colUniques : List UniqueKey := indexed.flatMap fun (_, d) => d.constraints.filterMap fun c =>
    match c with
    | .unique cf => some { name := keyName (plainKey [d.name]), columns := plainKey [d.name],
                           conflict := cf, primary := false, filter := none }
    | _ => none
  let tableUniques : List UniqueKey := cons.filterMap fun c =>
    match c with
    | .unique ics cf => some { name := keyName ics, columns := ics, conflict := cf,
                               primary := false, filter := none }
    | _ => none
  let cols := if withoutRowid then
      cols.map fun c => if pkNames.any (sameName · c.name) then { c with notNull := c.notNull.orElse fun _ => some .abort } else c
    else cols
  let checks := defs.flatMap (fun d => d.constraints.filterMap fun c =>
      match c with
      | .check e => some e
      | _ => none) ++ cons.filterMap fun c =>
    match c with
    | .check e => some e
    | _ => none
  let fks := defs.flatMap (fun d => d.constraints.filterMap fun c =>
      match c with
      | .references fk => some { columns := [d.name], key := fk }
      | _ => none) ++ cons.filterMap fun c =>
    match c with
    | .foreignKey cs fk => some { columns := cs, key := fk }
    | _ => none
  pure { name := name, columns := cols, rowidAlias := aliasIdx, withoutRowid := withoutRowid, strict := strict,
         autoincrement := autoinc, keys := pkKey ++ colUniques ++ tableUniques, checks := checks,
         foreignKeys := fks, rows := [], sql := "" }

/-- The declared type a column made from a query's column takes, by its affinity. -/
def Affinity.typeText : Option Affinity → String
  | some .text => "TEXT"
  | some .numeric => "NUM"
  | some .integer => "INT"
  | some .real => "REAL"
  | _ => ""

/-- The words of the language, which a name must be quoted to be. -/
def sqlKeywords : List String :=
  ["abort", "action", "add", "after", "all", "alter", "always", "analyze", "and", "as", "asc",
   "attach", "autoincrement", "before", "begin", "between", "by", "cascade", "case", "cast",
   "check", "collate", "column", "commit", "conflict", "constraint", "create", "cross", "current",
   "current_date", "current_time", "current_timestamp", "database", "default", "deferrable",
   "deferred", "delete", "desc", "detach", "distinct", "do", "drop", "each", "else", "end",
   "escape", "except", "exclude", "exclusive", "exists", "explain", "fail", "filter", "first",
   "following", "for", "foreign", "from", "full", "generated", "glob", "group", "groups", "having",
   "if", "ignore", "immediate", "in", "index", "indexed", "initially", "inner", "insert",
   "instead", "intersect", "into", "is", "isnull", "join", "key", "last", "left", "like", "limit",
   "match", "materialized", "natural", "no", "not", "nothing", "notnull", "null", "nulls", "of",
   "offset", "on", "or", "order", "others", "outer", "over", "partition", "plan", "pragma",
   "preceding", "primary", "query", "raise", "range", "recursive", "references", "regexp",
   "reindex", "release", "rename", "replace", "restrict", "returning", "right", "rollback", "row",
   "rows", "savepoint", "select", "set", "table", "temp", "temporary", "then", "ties", "to",
   "transaction", "trigger", "unbounded", "union", "unique", "update", "using", "vacuum", "values",
   "view", "virtual", "when", "where", "window", "with", "without"]

/-- A name as a generated definition writes it: in double quotes (doubling those inside) when it
is empty, starts with a digit, holds anything but ASCII letters, digits and underscores, or is a
word of the language. -/
def writtenName (n : String) : String :=
  let plain := !n.isEmpty && !(n.toList.headD ' ').isDigit &&
    n.all (fun c => c.isAlphanum || c = '_') && !sqlKeywords.contains n.toLower
  if plain then n else "\"" ++ String.join (n.toList.map fun c => if c = '"' then "\"\"" else c.toString) ++ "\""

/-- The definition a table made from a query keeps: its name, then each column's name with the
type its affinity names; all on one line when the names are short (their quoted lengths, five
more per column, below fifty), else a column a line. -/
def queryTableSql (name : String) (cols : List (String × String)) : String :=
  let quotedLength (n : String) : Nat := n.utf8ByteSize + (n.toList.filter (· = '"')).length + 2
  let size := cols.foldl (fun acc c => acc + quotedLength c.1 + 5) 0 + quotedLength name
  let (first, between, finish) := if size < 50 then ("", ",", ")") else ("\n  ", ",\n  ", "\n)")
  let parts := cols.map fun (c, ty) => writtenName c ++ (if ty.isEmpty then "" else " " ++ ty)
  "CREATE TABLE " ++ writtenName name ++ "(" ++ first ++ between.intercalate parts ++ finish

/-- A table's definition with the name at its start (after `lead` characters) written anew, in
double quotes as a renamed table's name always is. -/
def renamedSql (sql : String) (lead : Nat) (newName : String) : String :=
  let rest := (sql.drop lead).toString
  match spannedTokensOf rest with
  | some (t :: _) => (sql.take lead).toString ++ doubleQuoted newName ++ (rest.drop t.stop).toString
  | _ => sql

/-- A definition with each name `old` that `refers` picks out written anew as the double-quoted
`new`; `refers` sees the word right before the name, if a word is there, and whether a dot
follows it. -/
def renamedWhere (refers : Option String → Bool → Bool) (sql old new : String) : String :=
  match spannedTokensOf sql with
  | none => sql
  | some toks =>
    let around := toks.zip ((none :: toks.map some).zip ((toks.drop 1).map some ++ [none]))
    let spans := around.filterMap fun (t, prev, next) =>
      let word := match prev.map Spanned.token with
        | some (Token.word k) => some k
        | _ => none
      let dotted := next.map Spanned.token == some (Token.symbol ".")
      match t.token with
      | Token.word n | Token.quoted n =>
        if sameName n old && refers word dotted then some (t.start, t.stop) else none
      | _ => none
    let chars := sql.toList
    let (out, last) := spans.foldl (fun (acc, pos) (a, b) =>
      (acc ++ String.ofList ((chars.drop pos).take (a - pos)) ++ doubleQuoted new, b)) ("", 0)
    out ++ String.ofList (chars.drop last)

/-- A definition with each name `old` that directly follows the word `keyword` written anew: how
a renamed table's name is carried into a key that refers to it or an index on it. -/
def renamedAfter (sql keyword old new : String) : String :=
  renamedWhere (fun word _ => word.any (sameName · keyword)) sql old new

/-- A view's or trigger's definition with the renamed table written anew where it names a table:
after `FROM`, `JOIN`, `INTO`, `UPDATE` or `ON`, or before the dot of a qualified column. -/
def renamedReferences (sql old new : String) : String :=
  renamedWhere (fun word dotted => dotted ||
    word.any fun w => ["from", "join", "into", "update", "on"].any (sameName w ·)) sql old new

/-- The truth a pragma value names: `on`, `yes`, `true` and non-zero numbers are true. -/
def pragmaTruth (v : Datum) : Bool :=
  match v with
  | .integer i => i != 0
  | .text s =>
    match s.toLower with
    | "on" | "yes" | "true" | "full" | "extra" => true
    | "off" | "no" | "false" => false
    | _ => (scanInteger s.toList).1 != 0
  | _ => false

/-- The names of the tables a virtual table keeps its data in. -/
def Table.shadowNames (t : Table) : List String :=
  match t.module with
  | some m => m.shadowSuffixes.map fun x => t.name ++ "_" ++ x
  | none => []

/-- The names of the tables a virtual table keeps its data in once it takes a new name. -/
def Table.renamedShadows (t : Table) (newName : String) : List String :=
  match t.module with
  | some m => m.shadowSuffixes.map fun x => newName ++ "_" ++ x
  | none => []

/-- Creates a virtual table: the table itself, and the script that creates and fills the tables
its module keeps its data in; nothing when the name is taken and `IF NOT EXISTS` was given. -/
def Connection.createVirtual (db : Connection) (ifNotExists : Bool) (name module : String)
    (args : List String) (text : String) : Eval (Option (Connection × String)) := do
  let s := db.store
  if s.nameTaken name then
    if ifNotExists then return none
    else fail ("table " ++ name ++ " already exists")
  if name.toLower.startsWith "sqlite_" then fail ("object name reserved for internal use: " ++ name)
  let spec ← match VirtualSpec.ofArguments module name args with
    | .ok spec => pure spec
    | .error e => fail e
  let cols : List Column := spec.columns.map fun (n, ty) =>
    { name := n, declType := ty, affinity := affinityOfType ty, collation := .binary,
      notNull := none, default := none, generated := none }
  let t : Table := { name := name, columns := cols, rowidAlias := none, withoutRowid := false,
                     strict := false, autoincrement := false, keys := [], checks := [],
                     foreignKeys := [], rows := [], sql := "CREATE VIRTUAL TABLE " ++ text,
                     serial := s.serials, module := some spec.module }
  return some ({ db with store := { s with tables := s.tables ++ [t], serials := s.serials + 1 } },
    spec.shadowScript name)

/-- Runs a statement that defines the schema, controls a transaction or sets a pragma. -/
def schemaStatement (fuel : Nat) (ctx : Ctx) (db : Connection) (st : Statement) : Eval Connection := do
  let s := db.store
  match st with
  | .createTable ine name defs cons withoutRowid strict text columnsEnd =>
    if s.nameTaken name then
      if ine && (s.table? name).isSome then pure db
      else fail ("table " ++ name ++ " already exists")
    else
      let t ← buildTable name defs cons withoutRowid strict
      let t := { t with serial := s.serials, pages := s.freePages (1 + t.pagedAutoIndexes.length),
                        sql := "CREATE TABLE " ++ text, columnsEnd := 13 + columnsEnd }
      pure { db with store := { s with tables := s.tables ++ [t], serials := s.serials + 1 } }
  | .createTableAs ine name q =>
    if s.nameTaken name then
      if ine && (s.table? name).isSome then pure db
      else fail ("table " ++ name ++ " already exists")
    else
      if name.toLower.startsWith "sqlite_" then fail ("object name reserved for internal use: " ++ name)
      let rel := uniqueColumnNames (← evalQuery fuel (ctx.env db) q)
      let cols : List Column := rel.columns.map fun c =>
        let ty := Affinity.typeText c.affinity
        { name := c.name, declType := ty, affinity := affinityOfType ty, collation := c.collation.getD .binary,
          notNull := none, default := none, generated := none }
      let rows := ((List.range rel.rows.length).zip rel.rows).map fun (i, vs) =>
        { rowid := i + 1, values := (cols.zip vs).map fun (c, v) => v.withAffinity c.affinity : Row }
      let t : Table := { name := name, columns := cols, rowidAlias := none, withoutRowid := false, strict := false,
                         autoincrement := false, keys := [], checks := [], foreignKeys := [], rows := rows,
                         sql := queryTableSql name (cols.map fun c => (c.name, c.declType)),
                         serial := s.serials, pages := s.freePages 1 }
      pure { db with store := { s with tables := s.tables ++ [t], serials := s.serials + 1 } }
  | .createIndex unique ine name tname cols filter text =>
    if s.nameTaken name then
      if ine && s.indexes.any (fun i => sameName i.name name) then pure db
      else fail ("index " ++ name ++ " already exists")
    else
      match s.table? tname with
      | none =>
        if (s.view? tname).isSome then fail "views may not be indexed" else fail ("no such table: main." ++ tname)
      | some t => do
        if t.module.isSome then fail "virtual tables may not be indexed"
        for ic in cols do
          match ic.expr with
          | .column _ n _ =>
            if (t.columnIndex? n).isNone && !isRowidName n then fail ("no such column: " ++ n)
          | _ => pure ()
        let idx : Index := { name := name, table := t.name, columns := cols, unique := unique, filter := filter,
                             serial := s.serials, page := (s.freePages 1).headD 2,
                             sql := "CREATE " ++ (if unique then "UNIQUE " else "") ++ "INDEX " ++ text }
        if unique then
          let key : UniqueKey := { name := name, columns := cols, conflict := none, primary := false, filter := filter }
          let vals ← t.rows.mapM fun r => do
            let env := ctx.rowEnv db [{ name := t.name, columns := t.columns.map Column.info, values := r.values,
                                        rowid := if t.withoutRowid then none else some r.rowid, merged := [] }]
            let inKey ← match filter with
              | none => pure true
              | some f => keeps fuel env f
            if !inKey then pure none
            else
              let vs ← cols.mapM fun ic => do
                let v ← evalExpr fuel env ic.expr
                let coll ← match ic.collation with
                  | some n => pure ((Collation.ofName? n).getD .binary)
                  | none => pure ((← env.collationOf ic.expr).getD .binary)
                pure (v, coll)
              pure (if vs.any (·.1 == .null) then none else some vs)
          let present := vals.filterMap id
          for i in List.range present.length do
            match present[i]? with
            | some a =>
              if (present.drop (i + 1)).any fun b =>
                  a.length == b.length && (a.zip b).all fun ((x, c), (y, _)) => Datum.compareWith c x y == .eq then
                fail ("UNIQUE constraint failed: " ++ key.name)
            | none => pure ()
        pure { db with store := { s with indexes := s.indexes ++ [idx], serials := s.serials + 1 } }
  | .createView ine name cols q text =>
    if s.nameTaken name then
      if ine then pure db else fail ("view " ++ name ++ " already exists")
    else
      let v : View := { name := name, columns := cols, query := q, serial := s.serials,
                        sql := "CREATE VIEW " ++ text }
      pure { db with store := { s with views := s.views ++ [v], serials := s.serials + 1 } }
  | .createTrigger ine name timing event tname cond body text =>
    if s.triggers.any fun g => sameName g.name name then
      if ine then pure db else fail ("trigger " ++ name ++ " already exists")
    else
      match s.table? tname, s.view? tname with
      | none, none => fail ("no such table: main." ++ tname)
      | some t, _ =>
        if t.module.isSome then fail "cannot create triggers on virtual tables"
        else if timing == .insteadOf then fail ("cannot create INSTEAD OF trigger on table: " ++ tname)
        else pure { db with store := { s with serials := s.serials + 1, triggers := s.triggers ++
          [{ name := name, table := t.name, timing := timing, event := event, condition := cond, body := body,
             serial := s.serials, sql := "CREATE TRIGGER " ++ text }] } }
      | none, some v =>
        if timing != .insteadOf then fail ("cannot create trigger on view: " ++ tname)
        else pure { db with store := { s with serials := s.serials + 1, triggers := s.triggers ++
          [{ name := name, table := v.name, timing := timing, event := event, condition := cond, body := body,
             serial := s.serials, sql := "CREATE TRIGGER " ++ text }] } }
  | .drop kind ifExists name =>
    match kind with
    | .table =>
      match s.table? name with
      | some t => pure { db with store := { s with
          tables := s.tables.filter (fun x => !(t.name :: t.shadowNames).any (sameName x.name ·)),
          indexes := s.indexes.filter (fun i => !sameName i.table t.name),
          triggers := s.triggers.filter (fun g => !sameName g.table t.name),
          sequences := s.sequences.filter (fun (n, _) => !sameName n t.name) } }
      | none =>
        if (s.view? name).isSome then fail ("use DROP VIEW to delete view " ++ name)
        else if ifExists then pure db else fail ("no such table: " ++ name)
    | .view =>
      match s.view? name with
      | some v => pure { db with store := { s with
          views := s.views.filter (fun x => !sameName x.name v.name),
          triggers := s.triggers.filter (fun g => !sameName g.table v.name) } }
      | none =>
        if (s.table? name).isSome then fail ("use DROP TABLE to delete table " ++ name)
        else if ifExists then pure db else fail ("no such view: " ++ name)
    | .index =>
      if s.indexes.any (fun i => sameName i.name name) then
        pure { db with store := { s with indexes := s.indexes.filter fun i => !sameName i.name name } }
      else if ifExists then pure db else fail ("no such index: " ++ name)
    | .trigger =>
      if s.triggers.any (fun g => sameName g.name name) then
        pure { db with store := { s with triggers := s.triggers.filter fun g => !sameName g.name name } }
      else if ifExists then pure db else fail ("no such trigger: " ++ name)
  | .renameTable tname newName =>
    match s.table? tname with
    | none =>
      if (s.view? tname).isSome then fail ("view " ++ tname ++ " may not be altered")
      else fail ("no such table: " ++ tname)
    | some t =>
      if s.nameTaken newName && !sameName newName t.name then
        fail ("there is already another table or index with this name: " ++ newName)
      else if newName.toLower.startsWith "sqlite_" then fail ("object name reserved for internal use: " ++ newName)
      else
        let renameTo (x : Table) (n : String) (lead : Nat) : Table :=
          { x with name := n, sql := renamedSql x.sql lead n,
                   keys := x.keys.map fun k =>
                     if isAutoIndexName k.name then
                       { k with name := "sqlite_autoindex_" ++ n ++ "_" ++ toString (autoIndexNumber k.name) }
                     else k }
        let shadows := t.shadowNames.zip (t.renamedShadows newName)
        let renameShadow (x : Table) : Table :=
          match shadows.find? fun (o, _) => sameName o x.name with
          | some (_, n) => renameTo x n 13
          | none => x
        let s : Store := { s with tables := s.tables.map renameShadow }
        let t' := renameTo t newName (if t.module.isSome then 21 else 13)
        let referring (x : Table) : Table :=
          if x.foreignKeys.any (sameName ·.key.parent t.name) then
            { x with sql := renamedAfter x.sql "references" t.name newName,
                     foreignKeys := x.foreignKeys.map fun k =>
                       if sameName k.key.parent t.name then { k with key := { k.key with parent := newName } }
                       else k }
          else x
        pure { db with store := { s with
          tables := s.tables.map (fun x => referring (if sameName x.name t.name then t' else x)),
          indexes := s.indexes.map (fun i =>
            if sameName i.table t.name then
              { i with table := newName, sql := renamedAfter i.sql "on" t.name newName }
            else i),
          views := s.views.map (fun v =>
            let sql := renamedReferences v.sql t.name newName
            match parseScript sql with
            | .ok [.createView _ _ _ q _] => { v with sql := sql, query := q }
            | _ => v),
          triggers := s.triggers.map (fun g =>
            let sql := renamedReferences g.sql t.name newName
            let g := if sameName g.table t.name then { g with table := newName } else g
            match parseScript sql with
            | .ok [.createTrigger _ _ _ _ _ cond body _] => { g with sql := sql, condition := cond, body := body }
            | _ => g),
          sequences := s.sequences.map (fun (n, q) => if sameName n t.name then (newName, q) else (n, q)) } }
  | .renameColumn tname old new =>
    let t ← db.tableNamed tname
    if t.module.isSome then fail ("cannot rename columns of virtual table \"" ++ t.name ++ "\"")
    match t.columnIndex? old with
    | none => fail ("no such column: \"" ++ old ++ "\"")
    | some i =>
      if (t.columnIndex? new).isSome then fail ("duplicate column name: " ++ new)
      else
        let ren (ic : IndexedColumn) : IndexedColumn :=
          match ic.expr with
          | .column q n quoted => if sameName n old then { ic with expr := .column q new quoted } else ic
          | _ => ic
        let t' := { t with
          columns := t.columns.mapIdx (fun j c => if j == i then { c with name := new } else c),
          keys := t.keys.map (fun k => { k with columns := k.columns.map ren }),
          foreignKeys := t.foreignKeys.map (fun f => { f with columns := f.columns.map fun n => if sameName n old then new else n }) }
        pure { db with store := { s.putTable t' with
          indexes := s.indexes.map fun ix => if sameName ix.table t.name then { ix with columns := ix.columns.map ren } else ix } }
  | .addColumn tname d text =>
    let t ← db.tableNamed tname
    if t.module.isSome then fail "virtual tables may not be altered"
    if (t.columnIndex? d.name).isSome then fail ("duplicate column name: " ++ d.name)
    for c in d.constraints do
      match c with
      | .primaryKey _ _ _ => fail "Cannot add a PRIMARY KEY column"
      | .unique _ => fail "Cannot add a UNIQUE column"
      | .generated _ true => fail "cannot add a STORED column"
      | _ => pure ()
    let c ← columnOf d
    let dflt ← match c.default with
      | some e => evalExpr fuel (ctx.env db) e
      | none => pure .null
    if c.notNull.isSome && dflt == .null && c.generated.isNone then
      fail "Cannot add a NOT NULL column with default value NULL"
    let v := dflt.withAffinity c.affinity
    let checks := d.constraints.filterMap fun x =>
      match x with
      | .check e => some e
      | _ => none
    let fks := d.constraints.filterMap fun x =>
      match x with
      | .references fk => some { columns := [d.name], key := fk : ChildKey }
      | _ => none
    let cut := t.columnsEnd
    let t' := { t with columns := t.columns ++ [c], checks := t.checks ++ checks,
                       foreignKeys := t.foreignKeys ++ fks,
                       sql := (t.sql.take cut).toString ++ ", " ++ text ++ (t.sql.drop cut).toString,
                       columnsEnd := cut + 2 + text.length,
                       rows := t.rows.map fun r => { r with values := r.values ++ [v] } }
    pure (db.withTable t')
  | .dropColumn tname cname =>
    let t ← db.tableNamed tname
    if t.module.isSome then fail ("cannot drop column from virtual table \"" ++ t.name ++ "\"")
    match t.columnIndex? cname with
    | none => fail ("no such column: \"" ++ cname ++ "\"")
    | some i =>
      let inKey := (t.keys ++ s.uniqueKeys t).any fun k => k.columnNames.any (sameName · cname)
      let indexedBy := s.indexes.any fun ix => sameName ix.table t.name &&
        ix.columns.any fun ic => match ic.expr with
          | .column _ n _ => sameName n cname
          | _ => false
      if t.columns.length ≤ 1 then fail ("cannot drop column \"" ++ cname ++ "\": no other columns exist")
      else if t.rowidAlias == some i || (t.keys.any fun k => k.primary && k.columnNames.any (sameName · cname)) then
        fail ("cannot drop PRIMARY KEY column: \"" ++ cname ++ "\"")
      else if inKey then fail ("cannot drop UNIQUE column: \"" ++ cname ++ "\"")
      else if indexedBy then fail ("error in index after drop column: no such column: " ++ cname)
      else
        let t' := { t with
          columns := t.columns.eraseIdx i,
          rowidAlias := t.rowidAlias.map fun a => if a > i then a - 1 else a,
          rows := t.rows.map fun r => { r with values := r.values.eraseIdx i } }
        pure (db.withTable t')
  | .begin =>
    if !db.savepoints.isEmpty then fail "cannot start a transaction within a transaction"
    else pure { db with savepoints := [(none, s)] }
  | .commit =>
    if db.savepoints.isEmpty then fail "cannot commit - no transaction is active"
    else pure { db with savepoints := [] }
  | .rollback none =>
    match db.savepoints.getLast? with
    | none => fail "cannot rollback - no transaction is active"
    | some (_, saved) => pure { db with store := saved, savepoints := [] }
  | .rollback (some n) =>
    match db.savepoints.findIdx? (fun (m, _) => m.any (sameName · n)) with
    | none => fail ("no such savepoint: " ++ n)
    | some i =>
      match db.savepoints[i]? with
      | some (_, saved) => pure { db with store := saved, savepoints := db.savepoints.drop i }
      | none => fail ("no such savepoint: " ++ n)
  | .savepoint n => pure { db with savepoints := (some n, s) :: db.savepoints }
  | .release n =>
    match db.savepoints.findIdx? (fun (m, _) => m.any (sameName · n)) with
    | none => fail ("no such savepoint: " ++ n)
    | some i => pure { db with savepoints := db.savepoints.drop (i + 1) }
  | .pragma name value =>
    let n := ((name.splitOn ".").getLast?.getD name).toLower
    match n, value with
    | "foreign_keys", some v =>
      if db.savepoints.isEmpty then pure { db with foreignKeys := pragmaTruth v } else pure db
    | "case_sensitive_like", some v => pure { db with caseSensitiveLike := pragmaTruth v }
    | "recursive_triggers", some v => pure { db with recursiveTriggers := pragmaTruth v }
    | _, _ => pure db
  | _ => pure db

end RosterSync.Database

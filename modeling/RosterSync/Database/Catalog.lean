import RosterSync.Database.Relation

/-!
The catalog: what a database tells about its own schema.

The schema table (`sqlite_schema`, also `sqlite_master`) has a row per object in the order the
objects were made: its type, name, table, first page and defining text. A table's row is
followed by rows for the indexes made for its keys that take pages of their own, which have no
text. The temporary schema table (`sqlite_temp_schema`) is empty.

The `pragma_` table functions report on the schema:

* `pragma_table_info(t)` and `pragma_table_xinfo(t)`: a table's columns with their declared
  type (a standard type name in capitals), `NOT NULL` rule, default as written and place in the
  primary key; the first leaves out generated columns (and numbers the others without them),
  the second marks them hidden (`2` computed when read, `3` stored). A view's columns have the
  type their values take: the declared type of the column they read when its affinity is theirs,
  else the standard name of their affinity.
* `pragma_index_list(t)`: a table's indexes, the latest first but those that replace on
  conflict after the others, each with whether it is unique, how it came (`c` made by name, `u`
  for a `UNIQUE` key, `pk` for the primary key) and whether it is partial.
* `pragma_index_info(i)` and `pragma_index_xinfo(i)`: an index's key columns (an expression has
  place `-2` and no name); the second adds the columns that follow the key in each entry (the
  row id, or the primary key of a table without row ids) and each column's order, collation and
  whether it is part of the key. A table without row ids names its primary key's index.
* `pragma_foreign_key_list(t)`: a table's foreign keys, the last written first, one row per
  column pair.
* `pragma_collation_list`, `pragma_database_list`, `pragma_table_list` and
  `pragma_function_list`: the collations, the one database, the tables and views (the latest
  first, then the schema tables), and the built-in functions.

A pragma that names an object takes the name as its argument and the schema (`main`) as an
optional second one; without an argument, or with a NULL one, it gives no rows.
-/

namespace RosterSync.Database

/-- Whether a name is one of the names of the schema table. -/
def isSchemaTableName (n : String) : Bool :=
  sameName n "sqlite_master" || sameName n "sqlite_schema" || sameName n "sqlite_temp_master" ||
    sameName n "sqlite_temp_schema"

/-- Whether a name is one of the names of the temporary schema table. -/
def isTempSchemaName (n : String) : Bool :=
  sameName n "sqlite_temp_master" || sameName n "sqlite_temp_schema"

/-- The rows of the schema table: each object's rows, in the order the objects were made. -/
def Store.schemaRows (s : Store) : List (List Datum) :=
  let tables := s.tables.map fun t => (t.serial,
    [Datum.text "table", .text t.name, .text t.name, .integer (t.pages.headD 0), .text t.sql] ::
      (t.pagedAutoIndexes.zip (t.pages.drop 1)).map fun (k, p) =>
        [Datum.text "index", .text k.name, .text t.name, .integer p, .null])
  let indexes := s.indexes.map fun i =>
    (i.serial, [[Datum.text "index", .text i.name, .text i.table, .integer i.page, .text i.sql]])
  let views := s.views.map fun v =>
    (v.serial, [[Datum.text "view", .text v.name, .text v.name, .integer 0, .text v.sql]])
  let triggers := s.triggers.map fun g =>
    (g.serial, [[Datum.text "trigger", .text g.name, .text g.table, .integer 0, .text g.sql]])
  ((tables ++ indexes ++ views ++ triggers).mergeSort fun a b => a.1 ≤ b.1).flatMap (·.2)

/-- The columns of the schema table with their declared types. -/
def schemaColumns : List (String × String) :=
  [("type", "TEXT"), ("name", "TEXT"), ("tbl_name", "TEXT"), ("rootpage", "INT"), ("sql", "TEXT")]

/-- The schema table under a name: the temporary one is empty. -/
def schemaRelation (s : Store) (name : String) : Relation :=
  let col (c : String × String) : ColumnInfo :=
    { name := c.1, affinity := some (affinityOfType c.2), collation := some .binary,
      declType := some c.2 }
  { columns := schemaColumns.map col,
    rows := if isTempSchemaName name then [] else s.schemaRows }

/-- The standard type names, which a declared type equal to one of them (ignoring case) is
reported as. -/
def standardTypes : List String := ["ANY", "BLOB", "INT", "INTEGER", "REAL", "TEXT"]

/-- A declared type as the catalog reports it: a standard type name in capitals, any other as
written. -/
def reportedType (decl : String) : String :=
  (standardTypes.find? fun t => t == decl.toUpper).getD decl

/-- The type a column of a view reports: the declared type of the column it reads when that
type gives the column's own affinity, else the standard name of the affinity (none for a value
of no affinity). -/
def viewColumnType (c : ColumnInfo) : String :=
  let standard := match c.affinity with
    | some .numeric => "NUM"
    | some .blob => "BLOB"
    | some .integer => "INT"
    | some .text => "TEXT"
    | some .real => "REAL"
    | none => ""
  match c.declType with
  | some d => if some (affinityOfType d) == c.affinity then reportedType d else standard
  | none => standard

/-- The place of a column of a table in its primary key, from one; zero for other columns. -/
def Table.keyPlace (t : Table) (i : Nat) (c : Column) : Nat :=
  if t.rowidAlias == some i then 1
  else
    match t.keys.find? (·.primary) with
    | some k => ((k.columnNames.findIdx? (sameName · c.name)).map (· + 1)).getD 0
    | none => 0

/-- The rows of `pragma_table_info` (or of `pragma_table_xinfo` when `extended`) for a table; the
extended rows also list a virtual table's hidden columns. -/
def tableInfoRows (t : Table) (extended : Bool) : List (List Datum) :=
  let hiddenOf (c : Column) : Nat := if c.generated.isNone then 0 else if c.stored then 3 else 2
  let cols := t.columns.zipIdx.filter fun (c, _) => extended || hiddenOf c == 0
  let shown := cols.zipIdx.map fun ((c, i), cid) =>
    let dflt : Datum := if c.default.isSome && c.generated.isNone then .text c.defaultText else .null
    [Datum.integer (if extended then i else cid), .text c.name, .text (reportedType c.declType),
      .integer (if c.notNull.isSome then 1 else 0), dflt, .integer (t.keyPlace i c)] ++
      (if extended then [Datum.integer (hiddenOf c)] else [])
  let hidden := if extended then (t.module.map (·.hiddenNames t.name)).getD [] else []
  shown ++ hidden.zipIdx.map fun (n, k) =>
    [Datum.integer (t.columns.length + k), .text n, .text "", .integer 0, .null, .integer 0,
      .integer 1]

/-- The rows of `pragma_table_info` (or of `pragma_table_xinfo` when `extended`) for columns of
the given names and types that have no rules: those of a view or of the schema table. -/
def plainInfoRows (cols : List (String × String)) (extended : Bool) : List (List Datum) :=
  cols.zipIdx.map fun ((n, ty), i) =>
    [Datum.integer i, .text n, .text ty, .integer 0, .null, .integer 0] ++
      (if extended then [Datum.integer 0] else [])

/-- An index of a table as the catalog lists it: its name, whether it is unique, how it came, the
filter of a partial index, whether it replaces rows on conflict, and its key columns. -/
structure ListedIndex where
  name : String
  unique : Bool
  origin : String
  filter : Option Expr
  replaces : Bool
  columns : List IndexedColumn

/-- The indexes of a table in the order they were made: those made for its keys, then those
made by name. -/
def Store.indexesMade (s : Store) (t : Table) : List ListedIndex :=
  (t.autoIndexes.map fun (k, pk) =>
    { name := k.name, unique := true, origin := if pk then "pk" else "u", filter := none,
      replaces := k.conflict == some .replace, columns := k.columns }) ++
  ((s.indexes.filter fun i => sameName i.table t.name).mergeSort fun a b => a.serial ≤ b.serial).map
    fun i => { name := i.name, unique := i.unique, origin := "c", filter := i.filter,
               replaces := false, columns := i.columns }

/-- Puts a new index in a table's list of indexes: first, but one that replaces rows on conflict
after all those that do not when the first does not. -/
def ListedIndex.placeIn (i : ListedIndex) (acc : List ListedIndex) : List ListedIndex :=
  if !i.replaces || (acc.head?.all (·.replaces)) then i :: acc
  else
    let kept := acc.takeWhile (!·.replaces)
    kept ++ i :: acc.drop kept.length

def Store.listedIndexes (s : Store) (t : Table) : List ListedIndex :=
  (s.indexesMade t).foldl (fun acc i => i.placeIn acc) []

def indexListRows (s : Store) (t : Table) : List (List Datum) :=
  (s.listedIndexes t).zipIdx.map fun (i, seq) =>
    [Datum.integer seq, .text i.name, .integer (if i.unique then 1 else 0), .text i.origin,
      .integer (if i.filter.isSome then 1 else 0)]

/-- One column of an index entry: its place in the table (`-1` the row id, `-2` an expression),
its name, whether it sorts down, its collation and whether it is part of the key. -/
structure EntryColumn where
  cid : Int
  name : Option String
  desc : Bool
  collation : String
  key : Bool

/-- A key column of an index of a table; its collation is the one written, else the column's. -/
def Table.entryColumn (t : Table) (ic : IndexedColumn) : EntryColumn :=
  let written := ic.collation.getD "BINARY"
  match ic.expr with
  | .column _ n _ =>
    match t.columnIndex? n, t.columns.find? fun c => sameName c.name n with
    | some i, some c =>
      { cid := i, name := some c.name, desc := ic.desc, collation := ic.collation.getD c.collationText,
        key := true }
    | _, _ => { cid := -1, name := none, desc := ic.desc, collation := written, key := true }
  | _ => { cid := -2, name := none, desc := ic.desc, collation := written, key := true }

/-- The columns of each entry of an index of a table: the key columns, then the row id, or for
a table without row ids the primary key's columns the key leaves out (all the table's other
columns for the primary key's own index). A key column leaves a primary key column out only
under the same collation. -/
def Table.entryColumns (t : Table) (cols : List IndexedColumn) (isPrimary : Bool) : List EntryColumn :=
  let keyCols := cols.map t.entryColumn
  let inKey (i : Int) : Bool := keyCols.any (·.cid == i)
  let rest : List EntryColumn :=
    if !t.withoutRowid then [{ cid := -1, name := none, desc := false, collation := "BINARY", key := false }]
    else if isPrimary then
      (t.columns.zipIdx.filter fun (_, i) => !inKey i).map fun (c, i) =>
        { cid := i, name := some c.name, desc := false, collation := c.collationText, key := false }
    else
      let pk := ((t.keys.find? (·.primary)).map (·.columns)).getD []
      let inKeyAlike (e : EntryColumn) : Bool :=
        keyCols.any fun k => k.cid == e.cid && sameName k.collation e.collation
      ((pk.map t.entryColumn).filter fun e => !inKeyAlike e).map fun e => { e with key := false }
  keyCols ++ rest

/-- The entry columns of the index of a name: one made by name, one made for a table's key, or
the primary key's index of a table without row ids of that name. -/
def Store.indexEntryColumns (s : Store) (name : String) : Option (List EntryColumn) :=
  match s.indexes.find? fun i => sameName i.name name with
  | some i => (s.table? i.table).map fun t => t.entryColumns i.columns false
  | none =>
    match s.tables.findSome? fun t =>
        (t.autoIndexes.find? fun (k, _) => sameName k.name name).map fun (k, pk) =>
          t.entryColumns k.columns pk with
    | some cols => some cols
    | none =>
      (s.table? name).bind fun t =>
        if !t.withoutRowid then none
        else (t.keys.find? (·.primary)).map fun k => t.entryColumns k.columns true

/-- The rows of `pragma_index_info` (or `pragma_index_xinfo` when `extended`) for an index. -/
def indexInfoRows (cols : List EntryColumn) (extended : Bool) : List (List Datum) :=
  let shown := if extended then cols else cols.filter (·.key)
  shown.zipIdx.map fun (c, seq) =>
    [Datum.integer seq, .integer c.cid, (c.name.map Datum.text).getD .null] ++
      (if extended then
        [Datum.integer (if c.desc then 1 else 0), .text c.collation, .integer (if c.key then 1 else 0)]
      else [])

/-- The name of what a foreign key does when its parent changes. -/
def KeyAction.catalogName : KeyAction → String
  | .noAction => "NO ACTION"
  | .restrict => "RESTRICT"
  | .setNull => "SET NULL"
  | .setDefault => "SET DEFAULT"
  | .cascade => "CASCADE"

/-- The rows of `pragma_foreign_key_list` for a table: the last written key first, and a parent
column NULL where the key names none. -/
def foreignKeyRows (t : Table) : List (List Datum) :=
  t.foreignKeys.reverse.zipIdx.flatMap fun (fk, id) =>
    fk.columns.zipIdx.map fun (c, seq) =>
      [Datum.integer id, .integer seq, .text fk.key.parent, .text c,
        ((fk.key.parentColumns[seq]?).map Datum.text).getD .null,
        .text fk.key.onUpdate.catalogName, .text fk.key.onDelete.catalogName, .text "NONE"]

/-- Whether a table keeps part of a virtual table's rows: its name is that of a virtual table, an
underscore and one of the names the table's module gives its own tables. -/
def Store.isShadow (s : Store) (name : String) : Bool :=
  let parts := name.splitOn "_"
  match parts.dropLast, parts.getLast? with
  | owner@(_ :: _), some suffix =>
    match s.table? ("_".intercalate owner) with
    | some t =>
      match t.module with
      | some m => m.shadowSuffixes.any (sameName · suffix)
      | none => false
    | none => false
  | _, _ => false

/-- The rows of `pragma_table_list` whose name is `named` (all when none), given the number of
columns of each view: the tables and views, the latest first, then the schema tables. -/
def tableListRows (s : Store) (viewWidth : View → Nat) (named : Option String) : List (List Datum) :=
  let objects := (s.tables.map fun t =>
      let (kind, width) := match t.module with
        | some m => ("virtual", t.columns.length + (m.hiddenNames t.name).length)
        | none => (if s.isShadow t.name then "shadow" else "table", t.columns.length)
      (t.serial, t.name, [Datum.text "main", .text t.name, .text kind, .integer width,
        .integer (if t.withoutRowid then 1 else 0), .integer (if t.strict then 1 else 0)])) ++
    s.views.map fun v =>
      (v.serial, v.name, [Datum.text "main", .text v.name, .text "view", .integer (viewWidth v),
        .integer 0, .integer 0])
  let schemas : List (String × List Datum) :=
    [("sqlite_master", [.text "main", .text "sqlite_schema", .text "table", .integer 5, .integer 0, .integer 0]),
     ("sqlite_temp_master",
       [.text "temp", .text "sqlite_temp_schema", .text "table", .integer 5, .integer 0, .integer 0])]
  let wanted (n : String) : Bool := named.all (sameName · n)
  ((objects.mergeSort fun a b => a.1 ≥ b.1).filter (wanted ·.2.1)).map (·.2.2) ++
    (schemas.filter (wanted ·.1)).map (·.2)

def collationListRows : List (List Datum) :=
  [[.integer 0, .text "RTRIM"], [.integer 1, .text "NOCASE"], [.integer 2, .text "BINARY"]]

def databaseListRows : List (List Datum) := [[.integer 0, .text "main", .text ""]]

/-- The built-in functions: name, whether built in, kind (`s` scalar, `a` aggregate, `w` window),
number of arguments (`-1` any) and flags. -/
def builtinFunctions : List (String × Bool × String × Int × Nat) :=
[("group_concat", true, "w", 1, 2097152),
   ("group_concat", true, "w", 2, 2097152),
   ("json_type", true, "s", 1, 2099200),
   ("json_type", true, "s", 2, 2099200),
   ("jsonb_set", true, "s", -1, 3147776),
   ("julianday", true, "s", -1, 2099200),
   ("ntile", true, "w", 1, 2097152),
   ("nullif", true, "s", 2, 2099200),
   ("sqlite_compileoption_get", true, "s", 1, 2097152),
   ("json_valid", true, "s", 1, 2099200),
   ("json_valid", true, "s", 2, 2099200),
   ("json_quote", true, "s", 1, 3147776),
   ("json_patch", true, "s", 2, 2099200),
   ("->", true, "s", 2, 2099200),
   ("json_array", true, "s", -1, 3147776),
   ("current_timestamp", true, "s", 0, 2097152),
   ("sqlite_compileoption_used", true, "s", 1, 2097152),
   ("json_remove", true, "s", -1, 2099200),
   ("json_pretty", true, "s", 1, 2099200),
   ("json_pretty", true, "s", 2, 2099200),
   ("jsonb_patch", true, "s", 2, 2099200),
   ("json_object", true, "s", -1, 3147776),
   ("json_insert", true, "s", -1, 3147776),
   ("->>", true, "s", 2, 2099200),
   ("jsonb_array", true, "s", -1, 3147776),
   ("sum", true, "w", 1, 2097152),
   ("quote", true, "s", 1, 2099200),
   ("printf", true, "s", -1, 2099200),
   ("likelihood", true, "s", 2, 2099200),
   ("json_replace", true, "s", -1, 3147776),
   ("jsonb_remove", true, "s", -1, 2099200),
   ("jsonb_object", true, "s", -1, 3147776),
   ("jsonb_insert", true, "s", -1, 3147776),
   ("json_extract", true, "s", -1, 2099200),
   ("last_value", true, "w", 1, 2097152),
   ("rank", true, "w", 0, 2097152),
   ("sign", true, "s", 1, 2099200),
   ("round", true, "s", 1, 2099200),
   ("round", true, "s", 2, 2099200),
   ("rtrim", true, "s", 1, 2099200),
   ("rtrim", true, "s", 2, 2099200),
   ("jsonb_replace", true, "s", -1, 3147776),
   ("jsonb_extract", true, "s", -1, 2099200),
   ("nth_value", true, "w", 2, 2097152),
   ("random", true, "s", 0, 2097152),
   ("trim", true, "s", 1, 2099200),
   ("trim", true, "s", 2, 2099200),
   ("time", true, "s", -1, 2099200),
   ("total", true, "w", 1, 2097152),
   ("substr", true, "s", 2, 2099200),
   ("substr", true, "s", 3, 2099200),
   ("replace", true, "s", 3, 2099200),
   ("unhex", true, "s", 1, 2099200),
   ("unhex", true, "s", 2, 2099200),
   ("upper", true, "s", 1, 2099200),
   ("subtype", true, "s", 1, 2099200),
   ("typeof", true, "s", 1, 2099200),
   ("load_extension", true, "s", 1, 524288),
   ("load_extension", true, "s", 2, 524288),
   ("soundex", true, "s", 1, 2099200),
   ("json_group_array", true, "w", 1, 3147776),
   ("avg", true, "w", 1, 2097152),
   ("abs", true, "s", 1, 2099200),
   ("octet_length", true, "s", 1, 2099200),
   ("json_group_object", true, "w", 2, 3147776),
   ("jsonb_group_array", true, "w", 1, 3147776),
   ("json_array_length", true, "s", 1, 2099200),
   ("json_array_length", true, "s", 2, 2099200),
   ("strftime", true, "s", -1, 2099200),
   ("substring", true, "s", 2, 2099200),
   ("substring", true, "s", 3, 2099200),
   ("randomblob", true, "s", 1, 2097152),
   ("unicode", true, "s", 1, 2099200),
   ("jsonb_group_object", true, "w", 2, 3147776),
   ("timediff", true, "s", 2, 2099200),
   ("percent_rank", true, "w", 0, 2097152),
   ("row_number", true, "w", 0, 2097152),
   ("string_agg", true, "w", 2, 2097152),
   ("last_insert_rowid", true, "s", 0, 2097152),
   ("sqlite_log", true, "s", 2, 2099200),
   ("unlikely", true, "s", 1, 2099200),
   ("json_error_position", true, "s", 1, 2099200),
   ("char", true, "s", -1, 2099200),
   ("unixepoch", true, "s", -1, 2099200),
   ("count", true, "w", 0, 2097152),
   ("count", true, "w", 1, 2097152),
   ("date", true, "s", -1, 2099200),
   ("concat", true, "s", -1, 2099200),
   ("total_changes", true, "s", 0, 2097152),
   ("changes", true, "s", 0, 2097152),
   ("sqlite_version", true, "s", 0, 2097152),
   ("coalesce", true, "s", -1, 2099200),
   ("glob", true, "s", 2, 2099200),
   ("zeroblob", true, "s", 1, 2099200),
   ("hex", true, "s", 1, 2099200),
   ("iif", true, "s", 3, 2099200),
   ("sqlite_source_id", true, "s", 0, 2097152),
   ("concat_ws", true, "s", -1, 2099200),
   ("format", true, "s", -1, 2099200),
   ("datetime", true, "s", -1, 2099200),
   ("cume_dist", true, "w", 0, 2097152),
   ("instr", true, "s", 2, 2099200),
   ("json", true, "s", 1, 2099200),
   ("dense_rank", true, "w", 0, 2097152),
   ("ifnull", true, "s", 2, 2099200),
   ("jsonb", true, "s", 1, 2099200),
   ("current_date", true, "s", 0, 2097152),
   ("current_time", true, "s", 0, 2097152),
   ("lag", true, "w", 1, 2097152),
   ("lag", true, "w", 3, 2097152),
   ("lag", true, "w", 2, 2097152),
   ("like", true, "s", 2, 2099200),
   ("like", true, "s", 3, 2099200),
   ("max", true, "s", -1, 2099200),
   ("max", true, "w", 1, 2097152),
   ("min", true, "s", -1, 2099200),
   ("min", true, "w", 1, 2097152),
   ("lead", true, "w", 1, 2097152),
   ("lead", true, "w", 3, 2097152),
   ("lead", true, "w", 2, 2097152),
   ("lower", true, "s", 1, 2099200),
   ("ltrim", true, "s", 1, 2099200),
   ("ltrim", true, "s", 2, 2099200),
   ("first_value", true, "w", 1, 2097152),
   ("length", true, "s", 1, 2099200),
   ("likely", true, "s", 1, 2099200),
   ("json_set", true, "s", -1, 3147776),
   ("rtreedepth", false, "s", 1, 0),
   ("match", false, "s", 2, 0),
   ("snippet", false, "s", -1, 0),
   ("fts5_source_id", false, "s", 0, 2099200),
   ("offsets", false, "s", 1, 0),
   ("matchinfo", false, "s", 2, 0),
   ("matchinfo", false, "s", 1, 0),
   ("optimize", false, "s", 1, 0),
   ("rtreecheck", false, "s", -1, 0),
   ("rtreenode", false, "s", 2, 0),
   ("highlight", false, "s", -1, 0),
   ("bm25", false, "s", -1, 0),
   ("fts3_tokenizer", false, "s", 2, 524288),
   ("fts3_tokenizer", false, "s", 1, 524288),
   ("fts5", false, "s", 1, 0)]

def functionListRows : List (List Datum) :=
  builtinFunctions.map fun (n, builtin, kind, narg, flags) =>
    [Datum.text n, .integer (if builtin then 1 else 0), .text kind, .text "utf8", .integer narg,
      .integer flags]

end RosterSync.Database

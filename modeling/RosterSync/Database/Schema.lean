import RosterSync.Database.Syntax
import RosterSync.Database.VirtualTable

/-!
The objects a database holds.

A table has columns (each with a declared type, the affinity that type gives, a collation, an
optional `NOT NULL` rule, default and generating expression), keys that must stay unique, checks,
foreign keys and rows. Each row has a row id; a column declared `INTEGER PRIMARY KEY` is that row
id under another name. Rows are kept in the order the table is read in: by row id, or by primary
key for a table without row ids. Indexes, views and triggers are kept beside the tables, and
row-id sequences of `AUTOINCREMENT` tables in their own list.

Every object keeps the number of its creation and the text that defines it, and every table and
index the pages it takes (a table also one per index made for its keys, but for the primary key
of a table without row ids, which is the table itself): a new one takes the lowest pages from 2
up that are free. The indexes a table makes for its keys are named `sqlite_autoindex_T_N`, `N`
counting them in the order the keys are written; a key with the columns and collations of an
earlier one shares its index.

Names of tables, columns and other objects match without regard to ASCII case.
-/

namespace RosterSync.Database

/-- Whether two names are the same, ignoring ASCII case. -/
def sameName (a b : String) : Bool :=
  a.length == b.length && (a.toList.map asciiLower) == (b.toList.map asciiLower)

/-- Whether the outermost parts of two expressions are written alike: the same kind of node with
the same operator, names compared without case, and a column named with its table taken for the
same column named alone. -/
def exprHeadSame (a b : Expr) : Bool :=
  match a, b with
  | .literal x, .literal y => x == y
  | .number t r, .number t' r' => t == t' && r == r'
  | .param n, .param m => n == m
  | .column t n _, .column t' n' _ =>
    sameName n n' && match t, t' with
      | some x, some y => sameName x y
      | _, _ => true
  | .unary op _, .unary op' _ => op == op'
  | .binary op _ _, .binary op' _ _ => op == op'
  | .matching op neg _ _ esc, .matching op' neg' _ _ esc' =>
    op == op' && neg == neg' && esc.isSome == esc'.isSome
  | .between neg _ _ _, .between neg' _ _ _ => neg == neg'
  | .inList neg _ xs, .inList neg' _ ys => neg == neg' && xs.length == ys.length
  | .isNull neg _, .isNull neg' _ => neg == neg'
  | .cast _ t, .cast _ t' => t.toLower == t'.toLower
  | .collate _ n, .collate _ n' => n.toLower == n'.toLower
  | .caseOf o arms els, .caseOf o' arms' els' =>
    o.isSome == o'.isSome && arms.length == arms'.length && els.isSome == els'.isSome
  | .call n d s args ord f none, .call n' d' s' args' ord' f' none =>
    n.toLower == n'.toLower && d == d' && s == s' && args.length == args'.length &&
      ord.length == ord'.length && f.isSome == f'.isSome &&
      (ord.zip ord').all fun p =>
        match p with
        | (.mk _ x y, .mk _ x' y') => x == x' && y == y'
  | .row xs, .row ys => xs.length == ys.length
  | _, _ => false

/-- Whether two expressions are written alike, names compared without case and a column named
with its table taken for the same column named alone; an expression that holds a subquery is
like no other. -/
def exprSame : Nat → Expr → Expr → Bool
  | 0, _, _ => false
  | fuel + 1, a, b =>
    exprHeadSame a b && a.children.length == b.children.length &&
      (a.children.zip b.children).all fun p => exprSame fuel p.1 p.2

structure Column where
  name : String
  declType : String
  affinity : Affinity
  collation : Collation
  notNull : Option Conflict
  default : Option Expr
  generated : Option Expr
  defaultText : String := ""
  stored : Bool := false
  collationText : String := "BINARY"

/-- A set of columns (or expressions) whose values no two rows may share. -/
structure UniqueKey where
  name : String
  columns : List IndexedColumn
  conflict : Option Conflict
  primary : Bool
  filter : Option Expr

/-- A foreign key: the child columns and the reference. -/
structure ChildKey where
  columns : List String
  key : ForeignKey

/-- A row: its id and its values, one per column. -/
structure Row where
  rowid : Int
  values : List Datum

structure Table where
  name : String
  columns : List Column
  rowidAlias : Option Nat
  withoutRowid : Bool
  strict : Bool
  autoincrement : Bool
  keys : List UniqueKey
  checks : List Expr
  foreignKeys : List ChildKey
  rows : List Row
  sql : String
  serial : Nat := 0
  pages : List Nat := []
  columnsEnd : Nat := 0
  /-- The module that keeps a virtual table's rows; none for a stored table. -/
  module : Option VirtualModule := none

structure Index where
  name : String
  table : String
  columns : List IndexedColumn
  unique : Bool
  filter : Option Expr
  serial : Nat := 0
  page : Nat := 0
  sql : String := ""

structure View where
  name : String
  columns : List String
  query : Query
  serial : Nat := 0
  sql : String := ""

structure Trigger where
  name : String
  table : String
  timing : TriggerTiming
  event : TriggerEvent
  condition : Option Expr
  body : List Statement
  serial : Nat := 0
  sql : String := ""

structure Store where
  tables : List Table
  indexes : List Index
  views : List View
  triggers : List Trigger
  sequences : List (String × Int)
  serials : Nat := 0

/-- A connection to a database: what the database holds, the stores saved at each open savepoint
(innermost first, the outermost being the transaction itself), the connection's settings, and what
its last statements changed. -/
structure Connection where
  store : Store
  savepoints : List (Option String × Store)
  foreignKeys : Bool
  caseSensitiveLike : Bool
  recursiveTriggers : Bool
  lastRowid : Int
  changes : Nat
  totalChanges : Nat

/-- A connection to a database holding nothing, with foreign keys enforced. -/
def Connection.empty : Connection :=
  { store := { tables := [], indexes := [], views := [], triggers := [], sequences := [] },
    savepoints := [], foreignKeys := true, caseSensitiveLike := false, recursiveTriggers := false,
    lastRowid := 0, changes := 0, totalChanges := 0 }

def Store.table? (s : Store) (name : String) : Option Table :=
  s.tables.find? fun t => sameName t.name name

def Store.view? (s : Store) (name : String) : Option View :=
  s.views.find? fun v => sameName v.name name

def Store.putTable (s : Store) (t : Table) : Store :=
  { s with tables := s.tables.map fun x => if sameName x.name t.name then t else x }

/-- The name a select gives a table's row id when it reads it as a column: the name of the column
that is the row id, if there is one. -/
def Table.rowidName (t : Table) : String :=
  (t.rowidAlias.bind fun i => (t.columns[i]?).map (·.name)).getD "rowid"

def Table.columnIndex? (t : Table) (name : String) : Option Nat :=
  t.columns.findIdx? fun c => sameName c.name name

def UniqueKey.columnNames (k : UniqueKey) : List String :=
  k.columns.filterMap fun ic =>
    match ic.expr with
    | .column _ n _ => some n
    | _ => none

/-- The unique keys of a table: its own and those of its unique indexes. -/
def Store.uniqueKeys (s : Store) (t : Table) : List UniqueKey :=
  t.keys ++ (s.indexes.filter fun i => i.unique && sameName i.table t.name).map fun i =>
    { name := i.name, columns := i.columns, conflict := none, primary := false, filter := i.filter }

/-- The pages the tables and indexes of a store take. -/
def Store.usedPages (s : Store) : List Nat := s.tables.flatMap (·.pages) ++ s.indexes.map (·.page)

/-- The `n` lowest pages from 2 up that no table or index takes. -/
def Store.freePages (s : Store) (n : Nat) : List Nat :=
  let used := s.usedPages
  ((List.range (used.length + n + 2)).filter fun p => p ≥ 2 && !used.contains p).take n

/-- The number at the end of the name of an index made for a key. -/
def autoIndexNumber (name : String) : Nat :=
  digitsValue (name.toList.reverse.takeWhile Char.isDigit).reverse

/-- Whether an index name is one made for a key. -/
def isAutoIndexName (name : String) : Bool := name.startsWith "sqlite_autoindex_"

/-- The indexes a table made for its keys, in the order they were made, each once: its key and
whether it serves the primary key. -/
def Table.autoIndexes (t : Table) : List (UniqueKey × Bool) :=
  let named := t.keys.filter fun k => isAutoIndexName k.name
  let distinct := named.foldl (fun acc k => if acc.any (·.name == k.name) then acc else acc ++ [k]) []
  let sorted := distinct.mergeSort fun a b => autoIndexNumber a.name ≤ autoIndexNumber b.name
  sorted.map fun k => (k, named.any fun k' => k'.name == k.name && k'.primary)

/-- The indexes made for a table's keys that take pages of their own. -/
def Table.pagedAutoIndexes (t : Table) : List UniqueKey :=
  (t.autoIndexes.filter fun (_, pk) => !(t.withoutRowid && pk)).map (·.1)

/-- Whether a declared type makes a single-column primary key the row id. -/
def isIntegerType (decl : String) : Bool := decl.toLower == "integer"

end RosterSync.Database

import RosterSync.Database.Schema
import RosterSync.Database.Functions
import RosterSync.Database.TextSearch.Found

/-!
Rows in flight and the names that reach them.

A query's result is a relation: named columns (each with the affinity and collation its
expression carries, and the declared type when it is a plain table column) and rows of values.
While a select runs, each row of its source is a list of frames, one per table or subquery it
joins, and the frames of enclosing queries stay visible behind it.

A column name is looked up in the current row's frames first (a name in two frames is ambiguous,
except the right-hand copy of a `USING` column), then in the select's result aliases, then in the
rows of enclosing queries. `rowid`, `oid` and `_rowid_` reach a table's row id when no column has
that name. A double-quoted name that reaches nothing is a string, and `TRUE` and `FALSE` are `1`
and `0`.
-/

namespace RosterSync.Database

/-- A column of a relation: its name, affinity, collation and declared type, the kinds of value
its expression may give (bits: 1 numbers, 2 texts, 4 byte strings), whether that expression
is a cast, and whether the column is hidden (named only, never reached by `*`). -/
structure ColumnInfo where
  name : String
  affinity : Option Affinity
  collation : Option Collation
  declType : Option String
  kinds : Nat := 7
  cast : Bool := false
  hidden : Bool := false

/-- The result of a query: its columns as a table made from it has them, its rows, and for a
compound query the columns as its last select gives them. -/
structure Relation where
  columns : List ColumnInfo
  rows : List (List Datum)
  lastSelect : List ColumnInfo := []

/-- The columns as a query's last select gives them; a value the query yields compares with
another under their affinity and collation. A single select's are its own columns. -/
def Relation.lastColumns (rel : Relation) : List ColumnInfo :=
  if rel.lastSelect.isEmpty then rel.columns else rel.lastSelect

/-- One table's part of a source row; a select that names the row id as a column calls it by
`rowidName` (the column that is the row id under another name, if there is one). -/
structure Frame where
  name : String
  columns : List ColumnInfo
  values : List Datum
  rowid : Option Int
  merged : List String
  rowidName : String := "rowid"
  /-- The full-text index whose row this is, if any. -/
  index : Option TextIndex := none
  /-- What the searches of the index found, when the row came from a search. -/
  found : Option TextSearch.Found := none

/-- Why evaluation stopped: an error, or a trigger's `RAISE(IGNORE)`. -/
inductive Failure where
  | error (msg : String)
  | ignoreRow
deriving Repr

abbrev Eval := Except Failure

def fail {α : Type} (msg : String) : Eval α := .error (.error msg)

/-- What expressions are evaluated against; `writtenNames` tells a select read as a table (a
subquery in `FROM` or a common table) to name a column it reads as the column is written there,
not by the column's own name. -/
structure Env where
  db : Connection
  params : List Datum
  scopes : List (List Frame)
  group : Option (List (List Frame))
  aliases : List (String × Expr)
  ctes : List (String × Relation)
  writtenNames : Bool := false
  /-- Whether the functions of a full-text search can reach the row they are called on: not in
  the results of a query that aggregates, where a row stands for its group. -/
  searchFunctions : Bool := true
  /-- Whether a compound query ordered under a written collation is read as a select over the
  compound: so in the statement being run and the queries nested in it, but not in a common
  table's, a view's or a trigger's queries. -/
  regroupsCompounds : Bool := true
  /-- The common tables in scope that a select reading them may copy conditions into, as their
  names, column names and queries. -/
  pushableCtes : List (String × List String × Query) := []

def Env.callContext (env : Env) : CallContext :=
  { caseSensitiveLike := env.db.caseSensitiveLike, lastRowid := env.db.lastRowid,
    changes := env.db.changes, totalChanges := env.db.totalChanges }

/-- Whether a name is one of the row id's names. -/
def isRowidName (n : String) : Bool :=
  sameName n "rowid" || sameName n "oid" || sameName n "_rowid_"

inductive Reached where
  | value (d : Datum) (info : Option ColumnInfo)
  | aliased (e : Expr)
  | none
  | ambiguous

def findInFrames (table : Option String) (name : String) (frames : List Frame) : Reached :=
  let candidates := frames.filter fun f =>
    match table with
    | some t => sameName f.name t
    | none => true
  let hits := candidates.filterMap fun f =>
    match f.columns.findIdx? (fun c => sameName c.name name) with
    | some i =>
      if table.isNone && f.merged.any (sameName · name) then none
      else some (f.values.getD i .null, f.columns[i]?)
    | none => none
  match hits with
  | [(d, info)] => .value d info
  | _ :: _ :: _ => .ambiguous
  | [] =>
    if isRowidName name then
      -- A frame that hides the row id's name from unqualified lookups lists it among its merged names.
      let withRowid := candidates.filter fun f =>
        f.rowid.isSome && (table.isSome || !f.merged.any (sameName · name))
      match withRowid with
      | [f] => .value (.integer (f.rowid.getD 0)) (some { name := "rowid", affinity := some .integer, collation := none, declType := some "INTEGER" })
      | _ :: _ :: _ => .ambiguous
      | [] => .none
    else .none

/-- Looks a column up: the current row, the result aliases, then enclosing rows. -/
def Env.lookup (env : Env) (table : Option String) (name : String) : Reached :=
  match env.scopes with
  | [] => .none
  | inner :: outer =>
    match findInFrames table name inner with
    | .none =>
      let byAlias : Option Expr :=
        if table.isNone then (env.aliases.find? fun (a, _) => sameName a name).map (·.2) else none
      match byAlias with
      | some e => .aliased e
      | none =>
        let rec outerLookup : List (List Frame) → Reached
          | [] => .none
          | fs :: more =>
            match findInFrames table name fs with
            | .none => outerLookup more
            | r => r
        outerLookup outer
    | r => r

/-- The column a plain column expression reaches, if any. -/
def Env.columnInfo? (env : Env) (e : Expr) : Option ColumnInfo :=
  match e with
  | .column t n _ =>
    match env.lookup t n with
    | .value _ info => info
    | _ => none
  | _ => none

/-- The affinity an expression carries: a column's, a cast's type, a scalar subquery's first
column, through `COLLATE`. -/
def Env.affinityOf (env : Env) : Expr → Option Affinity
  | .column t n q =>
    match env.lookup t n with
    | .value _ info => info.bind (·.affinity)
    | _ => let _ := q; none
  | .cast _ ty => some (if ty.isEmpty then .numeric else affinityOfType ty)
  | .collate e _ => env.affinityOf e
  | _ => none

/-- The kinds of value a column of an affinity may hold: numbers and byte strings under a numeric
affinity, texts and byte strings under text, any otherwise. -/
def kindsOfAffinity : Option Affinity → Nat
  | some a => if a.isNumeric then 5 else if a == .text then 6 else 7
  | none => 7

/-- The kinds of value an expression may give, as bits: 1 numbers, 2 texts, 4 byte strings.
`NULL` gives none; a column, cast or subquery gives what its affinity allows; a `CASE` what its
branches give; a function or parameter anything; other operators numbers. -/
def Env.valueKinds (env : Env) : Nat → Expr → Nat
  | 0, _ => 7
  | fuel + 1, e =>
    match e with
    | .collate x _ | .unary .plus x => env.valueKinds fuel x
    | .literal .null => 0
    | .literal (.text _) => 2
    | .literal (.blob _) => 4
    | .binary .concat _ _ => 6
    | .param _ | .call _ _ _ _ _ _ _ => 7
    | .column t n q =>
      match env.lookup t n with
      | .value _ info => kindsOfAffinity (info.bind (·.affinity))
      | .none => if q then 2 else 1
      | _ => 7
    | .cast _ _ | .scalar _ | .row _ => kindsOfAffinity (env.affinityOf e)
    | .caseOf _ arms els =>
      arms.foldl (fun m (_, t) => m ||| env.valueKinds fuel t) 0 |||
        match els with
        | some x => env.valueKinds fuel x
        | none => 0
    | _ => 1

/-- The affinity a column of a compound query has as a table's column: the first affinity its
selects give in order, turned into none at all (blob) when another select may give a value of
another kind (a number to a text column, a text to a numeric one); a numeric first column written
as a cast stays numeric. `later` holds the kinds the other selects' columns may give. -/
def compoundAffinity (first : Option Affinity) (cast : Bool) (later : Nat) : Option Affinity :=
  match first with
  | some .text => if later &&& 1 != 0 then some .blob else some .text
  | some a =>
    if !a.isNumeric then some a
    else if later &&& 2 != 0 then some .blob
    else if cast then some .numeric
    else some a
  | none => none

/-- The collation written with `COLLATE` in an expression: the first one met going through its
operands in order (a pattern before the text it is matched against), but not into subqueries,
nor into a conjunction that is false as written. -/
def explicitCollation : Expr → Option String
  | .collate _ n => some n
  | .unary _ e => explicitCollation e
  | .binary op a b =>
    if (Expr.binary op a b).foldsFalse then none
    else (explicitCollation a).orElse fun _ => explicitCollation b
  | .cast e _ => explicitCollation e
  | .matching _ _ a p esc =>
    (explicitCollation p).orElse fun _ => (explicitCollation a).orElse fun _ =>
      match esc with
      | some x => explicitCollation x
      | none => none
  | .between _ e lo hi =>
    (explicitCollation e).orElse fun _ => (explicitCollation lo).orElse fun _ => explicitCollation hi
  | .isNull _ e => explicitCollation e
  | .inList _ e items => (explicitCollation e).orElse fun _ => firstExplicit items
  | .inQuery _ e _ => explicitCollation e
  | .caseOf o arms els =>
    let first := match o with
      | some x => explicitCollation x
      | none => none
    first.orElse fun _ => (armsExplicit arms).orElse fun _ =>
      match els with
      | some x => explicitCollation x
      | none => none
  | .call _ _ _ args _ _ _ => firstExplicit args
  | _ => none
where
  firstExplicit : List Expr → Option String
    | [] => none
    | a :: rest => (explicitCollation a).orElse fun _ => firstExplicit rest
  armsExplicit : List (Expr × Expr) → Option String
    | [] => none
    | (w, t) :: rest =>
      (explicitCollation w).orElse fun _ => (explicitCollation t).orElse fun _ => armsExplicit rest

/-- The collation of an expression: written with `COLLATE`, or the column's own. A written
collation that does not exist counts as none; statements that would compare by one are refused
before they run. -/
def Env.collationOf (env : Env) (e : Expr) : Eval (Option Collation) := do
  match explicitCollation e with
  | some n => return Collation.ofName? n
  | none =>
    let rec base : Expr → Expr
      | .cast inner _ => base inner
      | .unary .plus inner => base inner
      | x => x
    match base e with
    | .column t n _ =>
      match env.lookup t n with
      | .value _ info => return info.bind (·.collation)
      | _ => return none
    | _ => return none

/-- The collation of a comparison: the left side's written one, the right side's written one,
the left column's, the right column's, else binary. -/
def Env.compareCollation (env : Env) (a b : Expr) : Eval Collation := do
  if (explicitCollation a).isSome then return (← env.collationOf a).getD .binary
  if (explicitCollation b).isSome then return (← env.collationOf b).getD .binary
  match ← env.collationOf a with
  | some c => return c
  | none => return (← env.collationOf b).getD .binary

/-- The affinity under which two expressions are compared: numeric when either side is numeric
and both carry an affinity; the one side's when only it carries one; none otherwise (a blob
affinity converts nothing). -/
def Env.compareAffinity (env : Env) (a b : Expr) : Option Affinity :=
  match env.affinityOf a, env.affinityOf b with
  | some x, some y => if x.isNumeric || y.isNumeric then some .numeric else none
  | some x, none => if x == .blob then none else some x
  | none, some y => if y == .blob then none else some y
  | none, none => none

/-- Compares two values under an affinity and a collation; `none` when either is `NULL`. -/
def compareValues (aff : Option Affinity) (coll : Collation) (a b : Datum) : Option Ordering :=
  if a == .null || b == .null then none
  else
    let (a, b) := prepareCompare aff a b
    some (Datum.compareWith coll a b)

/-- The text of a value for naming a result column written as an expression. -/
def BinaryOp.symbol : BinaryOp → String
  | .add => "+" | .sub => "-" | .mul => "*" | .div => "/" | .rem => "%" | .concat => "||"
  | .and => " AND " | .or => " OR " | .eq => "=" | .ne => "!=" | .lt => "<" | .le => "<="
  | .gt => ">" | .ge => ">=" | .is => " IS " | .isNot => " IS NOT " | .bitAnd => "&"
  | .bitOr => "|" | .shiftLeft => "<<" | .shiftRight => ">>" | .extract => "->"
  | .extractText => "->>"

/-- A name for a result column written as an expression. -/
def exprName : Expr → String
  | .column _ n _ => n
  | .number t _ => t
  | .literal (.text s) => "'" ++ s ++ "'"
  | .literal .null => "NULL"
  | .literal d => (d.text?).getD ""
  | .param n => "?" ++ toString n
  | .unary .negate e => "-" ++ exprName e
  | .unary .plus e => "+" ++ exprName e
  | .unary .not e => "NOT " ++ exprName e
  | .unary .bitNot e => "~" ++ exprName e
  | .binary op a b => exprName a ++ op.symbol ++ exprName b
  | .call n _ star args _ _ _ =>
    n ++ "(" ++ (if star then "*" else ",".intercalate (args.map exprName)) ++ ")"
  | .cast e t => "CAST(" ++ exprName e ++ " AS " ++ t ++ ")"
  | .collate e c => exprName e ++ " COLLATE " ++ c
  | _ => "expr"

/-- The empty row of a shape: every value `NULL`. -/
def Frame.nulls (f : Frame) : Frame := { f with values := f.columns.map fun _ => .null, rowid := none }

end RosterSync.Database

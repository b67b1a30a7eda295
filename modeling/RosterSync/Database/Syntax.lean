import RosterSync.Database.Datum

/-!
The statements the database runs, as trees.

An expression is a literal (numbers kept as written, so that a minus sign before one can be read
together with it), a parameter, a column, an operator applied to expressions, a
pattern match (`LIKE`, `GLOB`), a range or membership test, a cast, a collation, a `CASE`, a
function call (an aggregate may order its rows, and any call may run over a window of rows), or a
query used as a value (`EXISTS`, a scalar subquery, `IN (SELECT …)`). A query
is a chain of selects joined by set operators, with optional common tables before it and
ordering and limits after it. A select takes its rows from a source of tables, subqueries and
joins, filters, groups and projects them, and may name windows for its calls; `VALUES` lists rows
outright.

Statements define tables, indexes, views and triggers, change rows (insert, update, delete, with
conflict rules and upserts), control transactions and savepoints, and set pragmas.
-/

-- natural powers take the core instance even where the monoid power is in scope
attribute [local instance (2000)] instPowNat

namespace RosterSync.Database

inductive UnaryOp where
  | negate
  | plus
  | not
  | bitNot
deriving DecidableEq, Repr

inductive BinaryOp where
  | add
  | sub
  | mul
  | div
  | rem
  | concat
  | and
  | or
  | eq
  | ne
  | lt
  | le
  | gt
  | ge
  | is
  | isNot
  | bitAnd
  | bitOr
  | shiftLeft
  | shiftRight
  | extract
  | extractText
deriving DecidableEq, Repr

inductive MatchOp where
  | like
  | glob
  | regexp
  | matchOp
  /-- A `MATCH` the full-text index it names answers: one standing where the index can use it. -/
  | textSearch
deriving DecidableEq, Repr

inductive NullsOrder where
  | natural
  | first
  | last
deriving DecidableEq, Repr

inductive CompoundOp where
  | union
  | unionAll
  | intersect
  | except
deriving DecidableEq, Repr

inductive JoinKind where
  | inner
  | left
  | right
  | full
  | cross
deriving DecidableEq, Repr

inductive RaiseAction where
  | ignore
  | rollback
  | abort
  | fail
deriving DecidableEq, Repr

/-- The unit a window frame counts in: rows, ranges of ordering values, or groups of peers. -/
inductive FrameUnit where
  | rows
  | range
  | groups
deriving DecidableEq, Repr

inductive FrameExclude where
  | noOthers
  | currentRow
  | group
  | ties
deriving DecidableEq, Repr

mutual

inductive Expr where
  | literal (d : Datum)
  | number (text : String) (isReal : Bool)
  | param (n : Nat)
  | column (table : Option String) (name : String) (quoted : Bool)
  | unary (op : UnaryOp) (e : Expr)
  | binary (op : BinaryOp) (a b : Expr)
  | matching (op : MatchOp) (negated : Bool) (a p : Expr) (escape : Option Expr)
  | between (negated : Bool) (e lo hi : Expr)
  | inList (negated : Bool) (e : Expr) (items : List Expr)
  | inQuery (negated : Bool) (e : Expr) (q : Query)
  | isNull (negated : Bool) (e : Expr)
  | cast (e : Expr) (typeName : String)
  | collate (e : Expr) (name : String)
  | caseOf (operand : Option Expr) (arms : List (Expr × Expr)) (otherwise : Option Expr)
  | call (name : String) (distinct : Bool) (star : Bool) (args : List Expr) (orderBy : List OrderTerm)
      (filter : Option Expr) (overClause : Option Window)
  | exists (q : Query)
  | scalar (q : Query)
  | row (items : List Expr)
  | raise (action : RaiseAction) (message : String)

/-- A query: common tables, selects joined by set operators, ordering and limits. -/
inductive Query where
  | mk (recursive : Bool) (ctes : List Cte) (first : Core) (rest : List (CompoundOp × Core))
      (orderBy : List OrderTerm) (limit : Option Expr) (offset : Option Expr)

/-- A named query usable as a table within a statement; a materialized one is computed once,
apart from the statement reading it. -/
inductive Cte where
  | mk (name : String) (columns : List String) (materialized : Bool) (q : Query)

inductive Core where
  | select (distinct : Bool) (columns : List ResultColumn) (source : Option Source)
      (filter : Option Expr) (groupBy : List Expr) (having : Option Expr)
      (windows : List (String × Window))
  | values (rows : List (List Expr))

/-- A column of a select's result; an expression keeps its text as written, which names it. -/
inductive ResultColumn where
  | all
  | allOf (table : String)
  | expr (e : Expr) (asName : Option String) (text : String)

inductive Source where
  | table (name : String) (asName : Option String)
  | query (q : Query) (asName : Option String)
  | function (name : String) (args : List Expr) (asName : Option String)
  | join (left : Source) (natural : Bool) (kind : JoinKind) (right : Source) (on : Option Expr)
      (usingColumns : List String)

inductive OrderTerm where
  | mk (e : Expr) (desc : Bool) (nulls : NullsOrder)

inductive FrameBound where
  | unboundedPreceding
  | preceding (e : Expr)
  | currentRow
  | following (e : Expr)
  | unboundedFollowing

/-- A window frame: its unit, its two ends and what it leaves out. -/
inductive WindowFrame where
  | mk (unit : FrameUnit) (start finish : FrameBound) (exclude : FrameExclude)

/-- A window: the named window it builds on, its partitioning, its ordering and its frame. -/
inductive Window where
  | mk (base : Option String) (partition : List Expr) (orderBy : List OrderTerm)
      (frame : Option WindowFrame)

end

instance : Inhabited Expr := ⟨.literal .null⟩

def OrderTerm.expr : OrderTerm → Expr
  | .mk e _ _ => e

/-- The offset of a frame's end, if it has one. -/
def FrameBound.offset? : FrameBound → Option Expr
  | .preceding e => some e
  | .following e => some e
  | _ => none

/-- The expressions a window holds: its partitioning, its ordering and its frame's offsets. -/
def Window.exprs : Window → List Expr
  | .mk _ part ord frame =>
    part ++ ord.map OrderTerm.expr ++
      match frame with
      | some (.mk _ s f _) => s.offset?.toList ++ f.offset?.toList
      | none => []

/-- The value of a number literal written as an integer that fits 32 bits (decimal, or
hexadecimal below `2 ^ 31`). -/
def Expr.smallInt? : Expr → Option Int
  | .number t false =>
    match t.toList with
    | '0' :: x :: hex =>
      if (x == 'x' || x == 'X') && !hex.isEmpty && hex.all (fun c => c.isDigit || ('a' ≤ c.toLower && c.toLower ≤ 'f')) then
        let sig := hex.dropWhile (· == '0')
        let v := sig.foldl (fun acc d => acc * 16 +
          (if d.isDigit then d.toNat - 48 else (d.toLower.toNat - 87))) (0 : Nat)
        if sig.length ≤ 8 && v < 2 ^ (31 : Nat) then some (v : Int) else none
      else if t.all Char.isDigit then
        let sig := t.toList.dropWhile (· == '0')
        let v := sig.foldl (fun acc d => acc * 10 + (d.toNat - 48)) (0 : Nat)
        if sig.length ≤ 10 && v < 2 ^ (31 : Nat) then some (v : Int) else none
      else none
    | cs =>
      if !cs.isEmpty && cs.all Char.isDigit then
        let sig := cs.dropWhile (· == '0')
        let v := sig.foldl (fun acc d => acc * 10 + (d.toNat - 48)) (0 : Nat)
        if sig.length ≤ 10 && v < 2 ^ (31 : Nat) then some (v : Int) else none
      else none
  | _ => none

/-- Whether a conjunction is false as written: one of its sides is the integer literal zero (as
`Expr.smallInt?` reads it), or is itself such a conjunction. Such a conjunction is taken for `0`
as soon as it is read, so neither of its sides is ever looked at. -/
def Expr.foldsFalse : Expr → Bool
  | .binary .and a b => a.smallInt? == some 0 || b.smallInt? == some 0 || a.foldsFalse || b.foldsFalse
  | _ => false

/-- An ordering or grouping term without the collations written around it. -/
def Expr.withoutCollate : Expr → Expr
  | .collate e _ => e.withoutCollate
  | e => e

/-- The value of a term written as a 32-bit integer, signs before it included. -/
def Expr.termInteger? : Expr → Option Int
  | .unary .plus e => e.termInteger?
  | .unary .negate e => e.termInteger?.map (- ·)
  | e => e.smallInt?

/-- The expressions right inside an expression, not looking into subqueries; a conjunction that
is false as written has none. -/
def Expr.children (e : Expr) : List Expr :=
  match e with
  | .unary _ a => [a]
  | .binary _ a b => if e.foldsFalse then [] else [a, b]
  | .matching _ _ a p esc => [a, p] ++ esc.toList
  | .between _ a lo hi => [a, lo, hi]
  | .inList _ a items => a :: items
  | .inQuery _ a _ => [a]
  | .isNull _ a => [a]
  | .cast a _ => [a]
  | .collate a _ => [a]
  | .caseOf o arms els => o.toList ++ arms.flatMap (fun (w, t) => [w, t]) ++ els.toList
  | .call _ _ _ args ord f w =>
    args ++ ord.map OrderTerm.expr ++ f.toList ++ (w.map Window.exprs).getD []
  | .row items => items
  | _ => []

/-- Whether a source is a subquery that a query reading it can take in as its own rows: one
select with no `DISTINCT`, grouping, ordering or limit. -/
def Source.isPlainSubquery : Source → Bool
  | .query (.mk false [] (.select false _ (some _) _ [] none []) [] [] none none) _ => true
  | _ => false

inductive Conflict where
  | rollback
  | abort
  | fail
  | ignore
  | replace
deriving DecidableEq, Repr

/-- A column of an index or key, with its collation and direction. -/
structure IndexedColumn where
  expr : Expr
  collation : Option String
  desc : Bool

/-- What a foreign key does when its parent row changes. -/
inductive KeyAction where
  | noAction
  | restrict
  | setNull
  | setDefault
  | cascade
deriving DecidableEq, Repr

/-- A reference from some columns to a parent table. -/
structure ForeignKey where
  parent : String
  parentColumns : List String
  onDelete : KeyAction
  onUpdate : KeyAction

inductive ColumnConstraint where
  | primaryKey (desc : Bool) (conflict : Option Conflict) (autoincrement : Bool)
  | notNull (conflict : Option Conflict)
  | unique (conflict : Option Conflict)
  | check (e : Expr)
  | default (e : Expr) (text : String)
  | collate (name : String)
  | references (fk : ForeignKey)
  | generated (e : Expr) (stored : Bool)

structure ColumnDef where
  name : String
  typeName : String
  constraints : List ColumnConstraint

inductive TableConstraint where
  | primaryKey (columns : List IndexedColumn) (conflict : Option Conflict) (autoincrement : Bool)
  | unique (columns : List IndexedColumn) (conflict : Option Conflict)
  | check (e : Expr)
  | foreignKey (columns : List String) (fk : ForeignKey)

/-- Assignments of an update: each sets one or more columns from an expression. -/
abbrev Assignments := List (List String × Expr)

/-- What an insertion does when a row collides with an existing one on a key. -/
structure Upsert where
  target : Option (List IndexedColumn × Option Expr)
  action : Option (Assignments × Option Expr)

inductive TriggerTiming where
  | before
  | after
  | insteadOf
deriving DecidableEq, Repr

inductive TriggerEvent where
  | delete
  | insert
  | update (columns : List String)
deriving DecidableEq, Repr

inductive ObjectKind where
  | table
  | index
  | view
  | trigger
deriving DecidableEq, Repr

/-- A statement. A definition keeps its text as written from the object's name to its end (a
table also the place in that text where its columns end), and an added column its own text. -/
inductive Statement where
  | query (q : Query)
  | insert (conflict : Option Conflict) (table : String) (asName : Option String)
      (columns : Option (List String)) (source : Option Query) (upserts : List Upsert)
      (returning : List ResultColumn)
  | update (conflict : Option Conflict) (table : String) (asName : Option String)
      (sets : Assignments) (source : Option Source) (filter : Option Expr)
      (returning : List ResultColumn)
  | delete (table : String) (asName : Option String) (filter : Option Expr)
      (returning : List ResultColumn)
  | withTables (recursive : Bool) (ctes : List Cte) (body : Statement)
  | createTable (ifNotExists : Bool) (name : String) (columns : List ColumnDef)
      (constraints : List TableConstraint) (withoutRowid : Bool) (strict : Bool) (text : String)
      (columnsEnd : Nat)
  | createTableAs (ifNotExists : Bool) (name : String) (q : Query)
  | createVirtual (ifNotExists : Bool) (name : String) (module : String) (args : List String)
      (text : String)
  | createIndex (unique : Bool) (ifNotExists : Bool) (name : String) (table : String)
      (columns : List IndexedColumn) (filter : Option Expr) (text : String)
  | createView (ifNotExists : Bool) (name : String) (columns : List String) (q : Query)
      (text : String)
  | createTrigger (ifNotExists : Bool) (name : String) (timing : TriggerTiming)
      (event : TriggerEvent) (table : String) (condition : Option Expr) (body : List Statement)
      (text : String)
  | drop (kind : ObjectKind) (ifExists : Bool) (name : String)
  | renameTable (table newName : String)
  | renameColumn (table old new : String)
  | addColumn (table : String) (column : ColumnDef) (text : String)
  | dropColumn (table column : String)
  | begin
  | commit
  | rollback (savepoint : Option String)
  | savepoint (name : String)
  | release (name : String)
  | pragma (name : String) (value : Option Datum)
  | maintenance

end RosterSync.Database

import RosterSync.Database.Syntax
import RosterSync.Database.Schema

/-!
Conditions of a select's `WHERE` that the query engine also checks inside a compound query the
select reads.

When a select reads a compound query (a subquery in `FROM`, a view, or a common table read once
and not materialized), the engine copies each condition of the select's `WHERE` that reads only
that source into every select of the compound, with the select's own result expressions put in
for the source's columns. The copy is checked before the set operators join the selects' rows,
and under the affinity each select's own expression carries rather than the compound column's,
so it can drop rows the condition on the compound's column keeps: a text compared with a number
under a column of no affinity is greater, but compared under the text affinity of the select
that gave it, it is compared as text.

The check which conditions are copied is conservative, in the way of the engine's: a condition
is copied only when every column it reads is the source's, it calls no function whose value may
change from one call to the next, and it holds no subquery.
-/

namespace RosterSync.Database

/-- The conditions a condition is the conjunction of, left to right. -/
def Expr.conjuncts : Expr → List Expr
  | .binary .and a b => a.conjuncts ++ b.conjuncts
  | e => [e]

/-- Functions whose value may change from one call to the next, or with the clock: a condition
calling one is not copied. -/
def changingFunction (name : String) : Bool :=
  ["random", "randomblob", "changes", "total_changes", "last_insert_rowid", "date", "time",
   "datetime", "julianday", "unixepoch", "strftime", "timediff"].contains name.toLower

/-- Whether a condition reads only columns of the source of a name with the given columns, calls
no changing function and no window, and holds no subquery and no `RAISE`. -/
def Expr.readsOnly (frame : String) (names : List String) : Nat → Expr → Bool
  | 0, _ => false
  | fuel + 1, e =>
    match e with
    | .column t n _ => names.any (sameName · n) && t.all (sameName · frame)
    | .exists _ | .scalar _ | .inQuery _ _ _ | .raise _ _ | .call _ _ _ _ _ _ (some _) => false
    | .call name _ _ _ _ _ none => !changingFunction name && e.children.all (Expr.readsOnly frame names fuel)
    | _ => e.children.all (Expr.readsOnly frame names fuel)

/-- Conditions of a select's `WHERE` offered to a compound query it reads: the name the select
gives the source, the names it reads the compound's columns by (none: the compound's own), and
the conditions. -/
structure Pushed where
  frame : String
  columns : List String
  conds : List Expr

/-- The offered conditions that read only the source, whose columns have the given names. -/
def Pushed.applicable (p : Pushed) (names : List String) : List Expr :=
  p.conds.filter (Expr.readsOnly p.frame names 10000)

mutual

/-- How many times the sources of a query, its common tables' and subqueries' included, read a
table of a name. -/
def Query.sourceUses (name : String) : Nat → Query → Nat
  | 0, _ => 0
  | fuel + 1, .mk _ ctes first rest orderBy limit offset =>
    (ctes.map (Cte.sourceUses name fuel)).sum
      + ((first :: rest.map (·.2)).map (Core.sourceUses name fuel)).sum
      + ((orderBy.map OrderTerm.expr ++ limit.toList ++ offset.toList).map (Expr.sourceUses name fuel)).sum

/-- How many times a common table's query reads a table of a name. -/
def Cte.sourceUses (name : String) : Nat → Cte → Nat
  | 0, _ => 0
  | fuel + 1, .mk _ _ _ q => q.sourceUses name fuel

/-- How many times a select reads a table of a name. -/
def Core.sourceUses (name : String) : Nat → Core → Nat
  | 0, _ => 0
  | fuel + 1, .select _ columns source filter groupBy having _ =>
    let exprs := columns.filterMap (fun c =>
      match c with
      | .expr e _ _ => some e
      | _ => none) ++ filter.toList ++ groupBy ++ having.toList
    (source.map (Source.sourceUses name fuel)).getD 0 + (exprs.map (Expr.sourceUses name fuel)).sum
  | fuel + 1, .values rows => (rows.flatten.map (Expr.sourceUses name fuel)).sum

/-- How many times a source reads a table of a name. -/
def Source.sourceUses (name : String) : Nat → Source → Nat
  | 0, _ => 0
  | fuel + 1, s =>
    match s with
    | .table n _ => if sameName n name then 1 else 0
    | .query q _ => q.sourceUses name fuel
    | .function _ args _ => (args.map (Expr.sourceUses name fuel)).sum
    | .join l _ _ r on _ =>
      l.sourceUses name fuel + r.sourceUses name fuel + (on.map (Expr.sourceUses name fuel)).getD 0

/-- How many times the subqueries of an expression read a table of a name. -/
def Expr.sourceUses (name : String) : Nat → Expr → Nat
  | 0, _ => 0
  | fuel + 1, e =>
    let inner := match e with
      | .exists q | .scalar q | .inQuery _ _ q => q.sourceUses name fuel
      | _ => 0
    inner + (e.children.map (Expr.sourceUses name fuel)).sum

end

end RosterSync.Database

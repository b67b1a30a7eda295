import RosterSync.Database.Relation
import RosterSync.Database.Windowing
import RosterSync.Database.DateTime
import RosterSync.Database.TableFunction
import RosterSync.Database.Plan
import RosterSync.Database.TextMatch
import RosterSync.Database.Pushdown

/-!
Evaluating expressions and queries.

An expression is evaluated against an environment: the frames of the current row and of the rows
of enclosing queries, the result aliases of the current select, and, inside a group, the rows of
that group. A select reads the rows of its source (tables, views, common tables, subqueries and
joins of them), keeps those its filter makes true, groups them when it aggregates, and projects
each row or group through its result columns; `DISTINCT` keeps the first of equal rows and
`ORDER BY` sorts stably. Set operators other than `UNION ALL` yield their rows sorted and without
repeats, as the database's own temporary index does. A recursive common table runs its recursive
selects once per row taken from a queue, first in first out.

Arithmetic stays on 64-bit integers while both operands are integers and the result fits, and
goes to doubles otherwise; division or remainder by zero is `NULL`. Comparisons convert their
operands by the affinity of the columns they come from and compare texts by collation; `NULL`
makes a comparison unknown. In a group, a column outside an aggregate takes its value from the
group's first row, or, when the select has `min` or `max`, from the row that last set one of them.

Every function here takes a fuel argument, spent by one on every nested call and by one on every
row a recursive common table produces.
-/

-- natural powers take the core instance even where the monoid power is in scope
attribute [local instance (2000)] instPowNat

namespace RosterSync.Database

/-- The rows a select reads: the frames of a row with no values, and the rows. -/
structure SourceRows where
  shape : List Frame
  rows : List (List Frame)

/-- A decimal integer literal: an integer when it fits, a double otherwise. -/
def decimalLiteral (cs : List Char) (negated : Bool) : Datum :=
  let (i, code) := scanInteger cs
  if code == 2 || (code == 3 && !negated) then
    let x := (scanReal cs).1
    .real (if negated then x.negate else x)
  else if code == 3 then .integer minI64
  else .integer (if negated then -i else i)

/-- The value of a number literal, negated when a minus sign stands right before it. Hexadecimal
literals are 64-bit two's complement, with at most sixteen digits after leading zeros. -/
def literalNumber (text : String) (isReal negated : Bool) : Eval Datum :=
  let cs := text.toList
  if isReal then
    let x := (scanReal cs).1
    pure (.real (if negated then x.negate else x))
  else
    match cs with
    | '0' :: x :: hex =>
      if x = 'x' || x = 'X' then
        let v := hex.foldl (fun acc d => acc * 16 + hexValue d) 0
        let s : Int := if v ≥ 2 ^ (63 : Nat) then (v : Int) - 2 ^ (64 : Nat) else v
        if (hex.dropWhile (· = '0')).length > 16 then
          fail ("hex literal too big: " ++ (if negated then "-" else "") ++ text)
        else if negated && s == minI64 then fail ("hex literal too big: -" ++ text)
        else pure (.integer (if negated then -s else s))
      else pure (decimalLiteral cs negated)
    | _ => pure (decimalLiteral cs negated)

/-- Integer arithmetic: `none` when the result leaves 64 bits, `NULL` for a zero divisor. -/
def intArithmetic (op : BinaryOp) (x y : Int) : Option Datum :=
  let fit (r : Int) : Option Datum := if fitsI64 r then some (.integer r) else none
  match op with
  | .add => fit (x + y)
  | .sub => fit (x - y)
  | .mul => fit (x * y)
  | .div =>
    if y == 0 then some .null else if x == minI64 && y == -1 then none else some (.integer (x.tdiv y))
  | .rem => if y == 0 then some .null else if y == -1 then some (.integer 0) else some (.integer (x.tmod y))
  | _ => some .null

/-- Double arithmetic; the remainder works on the operands' integers. -/
def realArithmetic (op : BinaryOp) (a b : Datum) : Datum :=
  let x := a.realValue
  let y := b.realValue
  let r : Option Binary64 := match op with
    | .add => some (x.add y)
    | .sub => some (x.sub y)
    | .mul => some (x.mul y)
    | .div => if y.isZero then none else some (x.div y)
    | .rem =>
      let d := b.intValue
      if d == 0 then none
      else some (Binary64.ofInt (a.intValue.tmod (if d == -1 then 1 else d)))
    | _ => none
  match r with
  | some v => if v.isNaN then .null else .real v
  | none => .null

def arithmetic (op : BinaryOp) (a b : Datum) : Datum :=
  match a.number?, b.number? with
  | some (.int x), some (.int y) =>
    match intArithmetic op x y with
    | some d => d
    | none => realArithmetic op a b
  | some _, some _ => realArithmetic op a b
  | _, _ => .null

/-- An integer as 64 unsigned bits. -/
def toUnsigned64 (i : Int) : Nat := (i % (2 ^ (64 : Nat) : Int)).toNat

/-- 64 unsigned bits as a signed integer. -/
def ofUnsigned64 (n : Nat) : Int := if n ≥ 2 ^ (63 : Nat) then (n : Int) - 2 ^ (64 : Nat) else n

/-- A shift; a negative count shifts the other way, and counts from 64 on shift everything out. -/
def shiftValue (x n : Int) (left : Bool) : Int :=
  let (left, n) : Bool × Int := if n < 0 then (!left, if n > -64 then -n else 64) else (left, n)
  if n == 0 then x
  else if n ≥ 64 then (if x ≥ 0 || left then 0 else -1)
  else if left then ofUnsigned64 ((toUnsigned64 x * 2 ^ n.toNat) % 2 ^ (64 : Nat))
  else Int.fdiv x (2 ^ n.toNat)

def bitwise (op : BinaryOp) (a b : Datum) : Datum :=
  if a == .null || b == .null then .null else
  let x := a.intValue
  let y := b.intValue
  match op with
  | .bitAnd => .integer (ofUnsigned64 (toUnsigned64 x &&& toUnsigned64 y))
  | .bitOr => .integer (ofUnsigned64 (toUnsigned64 x ||| toUnsigned64 y))
  | .shiftLeft => .integer (shiftValue x y true)
  | .shiftRight => .integer (shiftValue x y false)
  | _ => .null

/-- The value of a truth: `1`, `0` or `NULL`. -/
def truthValue : Option Bool → Datum
  | some true => .integer 1
  | some false => .integer 0
  | none => .null

def andTruth (a b : Option Bool) : Option Bool :=
  if a == some false || b == some false then some false
  else if a == some true && b == some true then some true else none

def orTruth (a b : Option Bool) : Option Bool :=
  if a == some true || b == some true then some true
  else if a == some false && b == some false then some false else none

/-- The result of an operator with one operand (a minus before a literal aside). -/
def unaryValue (op : UnaryOp) (v : Datum) : Datum :=
  match op with
  | .negate => arithmetic .sub (.integer 0) v
  | .plus => v
  | .not => truthValue (v.truth?.map (!·))
  | .bitNot => if v == .null then .null else .integer (-v.intValue - 1)

def concatValue (a b : Datum) : Datum :=
  match a.text?, b.text? with
  | some x, some y => .text (x ++ y)
  | _, _ => .null

def BinaryOp.isComparison : BinaryOp → Bool
  | .eq | .ne | .lt | .le | .gt | .ge | .is | .isNot => true
  | _ => false

/-- The truth of a comparison operator on an ordering. -/
def comparisonHolds (op : BinaryOp) (o : Ordering) : Bool :=
  match op with
  | .eq | .is => o == .eq
  | .ne | .isNot => o != .eq
  | .lt => o == .lt
  | .le => o != .gt
  | .gt => o == .gt
  | .ge => o != .lt
  | _ => false

/-- The affinity of a comparison between two affinities (see `Env.compareAffinity`). -/
def combineAffinity (a b : Option Affinity) : Option Affinity :=
  match a, b with
  | some x, some y => if x.isNumeric || y.isNumeric then some .numeric else none
  | some x, none => if x == .blob then none else some x
  | none, some y => if y == .blob then none else some y
  | none, none => none

def isAggregateCall (name : String) (arity : Nat) (star : Bool) : Bool :=
  match name.toLower with
  | "count" => star || arity ≤ 1
  | "sum" | "total" | "avg" | "json_group_array" | "jsonb_group_array" => arity == 1
  | "min" | "max" => arity == 1
  | "group_concat" => arity == 1 || arity == 2
  | "string_agg" | "json_group_object" | "jsonb_group_object" => arity == 2
  | _ => false

/-- Whether an expression calls an aggregate function outside subqueries. -/
def hasAggregate : Nat → Expr → Bool
  | 0, _ => false
  | fuel + 1, e =>
    match e with
    | .call n _ star args _ _ overClause =>
      (overClause.isNone && isAggregateCall n args.length star) || e.children.any (hasAggregate fuel)
    | _ => e.children.any (hasAggregate fuel)

/-- The `min` and `max` aggregate calls of an expression: whether each is `max`, its argument and
its filter. -/
def minMaxCalls : Nat → Expr → List (Bool × Expr × Option Expr)
  | 0, _ => []
  | fuel + 1, e =>
    match e with
    | .call n _ false [a] _ f none =>
      let l := n.toLower
      if l == "min" || l == "max" then [(l == "max", a, f)]
      else (e.children.map (minMaxCalls fuel)).flatten
    | _ => (e.children.map (minMaxCalls fuel)).flatten

/-- Where an expression's text comes from: a JSON function, `json_extract`, or elsewhere. -/
def textOrigin : Expr → TextOrigin
  | .call n _ _ args _ _ _ => callOrigin n args.length
  | .binary .extract _ _ => .json
  | _ => .plain

/-- The calls over windows in an expression, in the order they are met, not looking into
subqueries or into the calls found. -/
def windowCalls : Nat → Expr → List Expr
  | 0, _ => []
  | fuel + 1, e =>
    match e with
    | .call _ _ _ _ _ _ (some _) => [e]
    | _ => e.children.flatMap (windowCalls fuel)

/-- An expression with the expressions right inside it replaced, taken in the order
`Expr.children` lists them. -/
def Expr.withChildren (e : Expr) (cs : List Expr) : Expr :=
  let nth (k : Nat) : Expr := cs.getD k (.literal .null)
  if e.foldsFalse then e else
  match e with
  | .unary op _ => .unary op (nth 0)
  | .binary op _ _ => .binary op (nth 0) (nth 1)
  | .matching op neg _ _ esc => .matching op neg (nth 0) (nth 1) (esc.map fun _ => nth 2)
  | .between neg _ _ _ => .between neg (nth 0) (nth 1) (nth 2)
  | .inList neg _ items => .inList neg (nth 0) ((cs.drop 1).take items.length)
  | .inQuery neg _ q => .inQuery neg (nth 0) q
  | .isNull neg _ => .isNull neg (nth 0)
  | .cast _ t => .cast (nth 0) t
  | .collate _ n => .collate (nth 0) n
  | .caseOf o arms els =>
    let skip := if o.isSome then 1 else 0
    let arms' := (List.range arms.length).map fun k => (nth (skip + 2 * k), nth (skip + 2 * k + 1))
    .caseOf (o.map fun _ => nth 0) arms' (els.map fun _ => nth (skip + 2 * arms.length))
  | .call n d s args ord f none =>
    let ord' := (ord.zip (List.range ord.length)).map fun p =>
      match p with
      | (.mk _ desc nulls, k) => OrderTerm.mk (nth (args.length + k)) desc nulls
    .call n d s (cs.take args.length) ord' (f.map fun _ => nth (args.length + ord.length)) none
  | .row _ => .row cs
  | _ => e

mutual

/-- Replaces the calls over windows of an expression, in the order `windowCalls` meets them, by
values taken in turn from a list; gives back the values left over. -/
def replaceWindowCalls : Nat → List Datum → Expr → Expr × List Datum
  | 0, vs, e => (e, vs)
  | fuel + 1, vs, e =>
    match e with
    | .call _ _ _ _ _ _ (some _) =>
      match vs with
      | v :: rest => (.literal v, rest)
      | [] => (e, [])
    | _ =>
      let (cs, rest) := replaceWindowCallsIn fuel vs e.children
      (e.withChildren cs, rest)

/-- Replaces the calls over windows of expressions in turn. -/
def replaceWindowCallsIn : Nat → List Datum → List Expr → List Expr × List Datum
  | 0, vs, es => (es, vs)
  | fuel + 1, vs, es =>
    match es with
    | [] => ([], vs)
    | e :: more =>
      let (e', vs') := replaceWindowCalls fuel vs e
      let (more', vs'') := replaceWindowCallsIn fuel vs' more
      (e' :: more', vs'')

end

/-- The window calls of an `ORDER BY` term in the order they are met, each with whether the term
holds it in its own text: a name in the term that stands for a result column holds a copy of
that column's calls, which are not the term's own. -/
def orderTermCalls (env : Env) : Nat → Expr → List (Expr × Bool)
  | 0, _ => []
  | fuel + 1, e =>
    match e with
    | .call _ _ _ _ _ _ (some _) => [(e, true)]
    | .column none n _ =>
      match env.lookup none n with
      | .aliased r => (windowCalls 10000 r).map fun c => (c, false)
      | _ => []
    | _ => e.children.flatMap (orderTermCalls env fuel)

/-- An `ORDER BY` term with its window calls replaced by values taken in turn, in the order
`orderTermCalls` meets them: a name standing for a result column with window calls becomes a
copy of that column, with the copy's calls replaced. Gives back the values left over. -/
def replaceOrderCalls (env : Env) : Nat → List Datum → Expr → Expr × List Datum
  | 0, vs, e => (e, vs)
  | fuel + 1, vs, e =>
    match e with
    | .call _ _ _ _ _ _ (some _) =>
      match vs with
      | v :: rest => (.literal v, rest)
      | [] => (e, [])
    | .column none n _ =>
      match env.lookup none n with
      | .aliased r => if (windowCalls 10000 r).isEmpty then (e, vs) else replaceWindowCalls 10000 vs r
      | _ => (e, vs)
    | _ =>
      let (cs, rest) := e.children.foldl (fun (acc, vs) c =>
        let (c', vs') := replaceOrderCalls env fuel vs c
        (acc ++ [c'], vs')) ([], vs)
      (e.withChildren cs, rest)

/-- The message for the first window function used where none may be: in a clause that allows
none (`allowed` false), inside the arguments of an aggregate, or inside another window call. A
function that exists only over windows called without one is misused too. -/
def windowMisuse : Nat → Bool → Expr → Option String
  | 0, _, _ => none
  | fuel + 1, allowed, e =>
    match e with
    | .call n _ star args _ _ overClause =>
      let lname := n.toLower
      let windowOnly := windowOnlyFunctions.contains lname && !star && windowArity lname args.length
      if (overClause.isSome && !allowed) || (overClause.isNone && windowOnly) then
        some ("misuse of window function " ++ n ++ "()")
      else
        let inner := if overClause.isSome || isAggregateCall lname args.length star then false else allowed
        e.children.findSome? (windowMisuse fuel inner)
    | _ => e.children.findSome? (windowMisuse fuel allowed)

/-- Whether a frame offset may be computed once for the whole query: it reads no column, no
parameter and no subquery. Any other offset counts as `NULL`. -/
def isFixedOffset : Nat → Expr → Bool
  | 0, _ => false
  | fuel + 1, e =>
    match e with
    | .column _ _ _ | .param _ | .exists _ | .scalar _ | .inQuery _ _ _ | .raise _ _ => false
    | .call _ _ _ _ _ _ (some _) => false
    | _ => e.children.all (isFixedOffset fuel)

/-- A call over a window made ready to run: its function's name in lower case, its arguments,
filter and `*`, and the window it runs over with the frame spelled out. -/
structure WindowPlan where
  name : String
  star : Bool
  args : List Expr
  filter : Option Expr
  partition : List Expr
  orderBy : List OrderTerm
  frame : WindowFrame

def FrameBound.same : FrameBound → FrameBound → Bool
  | .unboundedPreceding, .unboundedPreceding => true
  | .currentRow, .currentRow => true
  | .unboundedFollowing, .unboundedFollowing => true
  | .preceding x, .preceding y => exprSame 10000 x y
  | .following x, .following y => exprSame 10000 x y
  | _, _ => false

/-- Whether two plans run over the same window: the same partitioning, ordering and frame, so
that one pass over the rows serves both. -/
def WindowPlan.sameWindow (p q : WindowPlan) : Bool :=
  let sameList (xs ys : List Expr) : Bool :=
    xs.length == ys.length && (xs.zip ys).all fun (x, y) => exprSame 10000 x y
  let sameOrder := p.orderBy.length == q.orderBy.length && (p.orderBy.zip q.orderBy).all fun t =>
    match t with
    | (.mk x d n, .mk y d' n') => d == d' && n == n' && exprSame 10000 x y
  let sameFrame := match p.frame, q.frame with
    | .mk u s f x, .mk u' s' f' x' => u == u' && x == x' && s.same s' && f.same f'
  sameList p.partition q.partition && sameOrder && sameFrame

/-- The frame of a window that names none: from the partition's start to the current row's last
peer. -/
def impliedFrame : WindowFrame := .mk .range .unboundedPreceding .currentRow .noOthers

/-- The frame a built-in window function runs over whatever its window says. -/
def builtinFrame? (name : String) : Option WindowFrame :=
  match name with
  | "row_number" => some (.mk .rows .unboundedPreceding .currentRow .noOthers)
  | "rank" | "dense_rank" => some (.mk .range .unboundedPreceding .currentRow .noOthers)
  | "percent_rank" => some (.mk .groups .currentRow .unboundedFollowing .noOthers)
  | "cume_dist" => some (.mk .groups (.following (.number "1" false)) .unboundedFollowing .noOthers)
  | "ntile" => some (.mk .rows .currentRow .unboundedFollowing .noOthers)
  | "lead" => some (.mk .rows .unboundedPreceding .unboundedFollowing .noOthers)
  | "lag" => some (.mk .rows .unboundedPreceding .currentRow .noOthers)
  | _ => none

/-- A named window's partitioning, ordering and frame, found among a select's window
definitions; a later definition of a name hides an earlier one. -/
def findWindow (defs : List (String × Window)) (name : String) : Eval Window :=
  match defs.reverse.find? fun (n, _) => n.toLower == name.toLower with
  | some (_, w) => pure w
  | none => fail ("no such window: " ++ name)

/-- A window built on a named one: it takes the named window's partitioning, and its ordering
when it has none of its own; it may not replace the partitioning, an ordering, or a frame the
named window gives. The named window itself is resolved among the definitions before it. -/
def resolveWindow (defs : List (String × Window)) :
    Nat → Window → Eval (List Expr × List OrderTerm × Option WindowFrame)
  | 0, _ => fail "no such window"
  | fuel + 1, .mk base part ord frame =>
    match base with
    | none => pure (part, ord, frame)
    | some b => do
      let earlier := defs.takeWhile fun (n, _) => n.toLower != b.toLower
      let w ← findWindow defs b
      let (bpart, bord, bframe) ← resolveWindow earlier fuel w
      match part, frame with
      | [], none =>
        -- `OVER name` takes the named window whole, its frame included.
        if ord.isEmpty then pure (bpart, bord, bframe)
        else if !bord.isEmpty then fail ("cannot override ORDER BY clause of window: " ++ b)
        else if bframe.isSome then fail ("cannot override frame specification of window: " ++ b)
        else pure (bpart, ord, none)
      | _ :: _, _ => fail ("cannot override PARTITION clause of window: " ++ b)
      | [], some _ =>
        if !bord.isEmpty && !ord.isEmpty then fail ("cannot override ORDER BY clause of window: " ++ b)
        else if bframe.isSome then fail ("cannot override frame specification of window: " ++ b)
        else pure (bpart, if ord.isEmpty then bord else ord, frame)

/-- The rank of a frame end in the order unbounded preceding, preceding, current row, following,
unbounded following. -/
def FrameBound.rank : FrameBound → Nat
  | .unboundedPreceding => 0
  | .preceding _ => 1
  | .currentRow => 2
  | .following _ => 3
  | .unboundedFollowing => 4

/-- Makes a call over a window ready to run, checking that its function may run over a window and
that its window and frame make sense. -/
def planWindowCall (defs : List (String × Window)) (c : Expr) : Eval WindowPlan :=
  match c with
  | .call name distinct star args ord filter (some w) => do
    let lname := name.toLower
    match w with
    | .mk _ _ _ (some (.mk _ s f _)) =>
      if (s.rank == 2 && f.rank == 1) || (s.rank == 3 && (f.rank == 1 || f.rank == 2)) then
        fail "unsupported frame specification"
      else pure ()
    | _ => pure ()
    if distinct then fail "DISTINCT is not supported for window functions"
    else if !ord.isEmpty && !args.isEmpty then
      fail ("ORDER BY may not be used with non-aggregate " ++ name ++ "()")
    else pure ()
    let windowOnly := windowOnlyFunctions.contains lname
    if windowOnly && (star || !windowArity lname args.length) then
      fail ("wrong number of arguments to function " ++ name ++ "()")
    else if !windowOnly && !isAggregateCall lname args.length star then
      fail (name ++ "() may not be used as a window function")
    else pure ()
    let (part, order, frame) ← resolveWindow defs 64 w
    let written := frame.getD impliedFrame
    match written with
    | .mk unit s f _ =>
      if unit == .range && (s.offset?.isSome || f.offset?.isSome) && order.length != 1 then
        fail "RANGE with offset PRECEDING/FOLLOWING requires exactly one ORDER BY term"
      else if windowOnly && filter.isSome then
        fail "FILTER clause may only be used with aggregate window functions"
      else
        pure { name := lname, star := star, args := args, filter := filter, partition := part,
               orderBy := order, frame := (builtinFrame? lname).getD written }
  | _ => fail "misuse of window function"

/-- Groups plans, given with their positions, by the window they run over, in the order each
window is first met: the positions of each group's plans. -/
def groupByWindow (plans : List (Nat × WindowPlan)) : List (List Nat) :=
  let step := fun (acc : List (WindowPlan × List Nat)) (ip : Nat × WindowPlan) =>
    match acc.findIdx? (fun q => q.1.sameWindow ip.2) with
    | some k => acc.mapIdx fun j q => if j == k then (q.1, q.2 ++ [ip.1]) else q
    | none => acc ++ [(ip.2, [ip.1])]
  (plans.foldl step []).map (·.2)

/-- The classes of a select's window calls, the positions of the plans each computes at once.
The select computes itself the calls over the window of its first call, among those it met in
its own text (`own`); an `ORDER BY` term naming a result column holds a copy of that column's
calls, which is not its own. Every other call, copies included, is computed by a nested select
that reads the rows first, whose own calls are likewise those over the window of its first. -/
def windowClasses (plans : List WindowPlan) (own : List Bool) : List (List Nat) :=
  match plans with
  | [] => []
  | first :: _ =>
    let indexed := ((List.range plans.length).zip plans).zip (own ++ plans.map fun _ => true)
    let isMain := fun (x : (Nat × WindowPlan) × Bool) => x.2 && x.1.2.sameWindow first
    (indexed.filter isMain).map (·.1.1) :: groupByWindow ((indexed.filter (!isMain ·)).map (·.1))

/-- Functions whose value may change between calls with the same arguments. -/
def volatileFunctions : List String :=
  ["random", "randomblob", "changes", "total_changes", "last_insert_rowid", "current_date",
   "current_time", "current_timestamp"]

/-- Whether an expression is a constant: it reads no column and no subquery, and calls only
functions whose value depends on their arguments alone. -/
def isConstantExpr : Nat → Expr → Bool
  | 0, _ => false
  | fuel + 1, e =>
    match e with
    | .column _ _ _ | .exists _ | .scalar _ | .inQuery _ _ _ | .raise _ _ => false
    | .call n _ star args _ _ overClause =>
      overClause.isNone && !isAggregateCall n args.length star &&
        !volatileFunctions.contains n.toLower && e.children.all (isConstantExpr fuel)
    | _ => e.children.all (isConstantExpr fuel)

/-- Whether an expression is a number written with a point or an exponent whose value is at most
one: the only second argument `likelihood` accepts. -/
def isProbability (e : Expr) : Bool :=
  match e with
  | .number t true =>
    match literalNumber t true false with
    | .ok (.real x) => x.le (Binary64.ofInt 1)
    | _ => false
  | _ => false

/-- The truth a literal has whatever the row: a number written as a 32-bit integer is true when
it is not zero. -/
def literalTruth? (e : Expr) : Option Bool := e.smallInt?.map (· != 0)

/-- An `AND` or `OR` with its sides simplified first and then a side that settles it taken
alone: `AND` with a true side is its other side and with a false side is that side, `OR` the
other way round. -/
def simplifyAndOr : Nat → Expr → Expr
  | 0, e => e
  | fuel + 1, e =>
    match e with
    | .binary op a b =>
      if op == .and || op == .or then
        let a := simplifyAndOr fuel a
        let b := simplifyAndOr fuel b
        if literalTruth? a == some true || literalTruth? b == some false then
          (if op == .and then b else a)
        else if literalTruth? b == some true || literalTruth? a == some false then
          (if op == .and then a else b)
        else .binary op a b
      else e
    | _ => e

def columnLabel (t : Option String) (n : String) : String :=
  match t with
  | some x => x ++ "." ++ n
  | none => n

/-- A value as a column of a relation gives it when read as a table: a column of real affinity
gives its integers as reals, the way a stored whole real is read back. -/
def ColumnInfo.read (c : ColumnInfo) (d : Datum) : Datum :=
  match d with
  | .integer i => if c.affinity == some .real then .real (Binary64.ofInt i) else d
  | _ => d

/-- The frames of a relation's rows under a name, each value as its column gives it when read. -/
def relationRows (name : String) (rel : Relation) : SourceRows :=
  let frame (vs : List Datum) : Frame :=
    { name := name, columns := rel.columns, values := vs, rowid := none, merged := [] }
  { shape := [frame (rel.columns.map fun _ => .null)],
    rows := rel.rows.map fun vs => [frame ((rel.columns.zip vs).map fun (c, v) => c.read v)] }

/-- The column of a table as a relation sees it. -/
def Column.info (c : Column) : ColumnInfo :=
  { name := c.name, affinity := some c.affinity, collation := some c.collation,
    declType := if c.declType.isEmpty then none else some c.declType }

/-- The full-text index of a table, if it is one. -/
def Table.textIndex? (t : Table) : Option TextIndex :=
  match t.module with
  | some (.text ix) => some ix
  | _ => none

/-- The hidden columns of a virtual table: named, typeless, reached only by name. -/
def Table.hiddenInfos (t : Table) : List ColumnInfo :=
  match t.module with
  | some m => (m.hiddenNames t.name).map fun n =>
      { name := n, affinity := some .blob, collation := some .binary, declType := none, hidden := true }
  | none => []

/-- The values a virtual table's hidden columns show for a row: the table's own column is
`NULL`, the rank is `NULL` outside a search, `docid` is the row id and the language is 0. -/
def Table.hiddenValues (t : Table) (r : Row) : List Datum :=
  match t.module with
  | some (.text ix) => if ix.version == 5 then [.null, .null] else [.null, .integer r.rowid, .integer 0]
  | _ => []

/-- The frame of a stored row under a name: its columns' values, then the hidden ones of a
virtual table; an index that keeps no content shows `NULL` for its columns. -/
def Table.frameOf (t : Table) (name : String) (r : Row) : Frame :=
  let values := match t.textIndex? with
    | some ix => if ix.content == .none then r.values.map fun _ => .null else r.values
    | none => r.values
  { name := name, columns := t.columns.map Column.info ++ t.hiddenInfos,
    values := values ++ t.hiddenValues r,
    rowid := if t.withoutRowid then none else some r.rowid, merged := [], rowidName := t.rowidName,
    index := t.textIndex? }

/-- The frames of a table's rows under a name, in the order a scan meets them: a full-text index
kept in descending order gives its rows from the last. -/
def tableRows (name : String) (t : Table) : SourceRows :=
  let rows := if (t.textIndex?.map (·.descending)).getD false then t.rows.reverse else t.rows
  { shape := [{ t.frameOf name { rowid := 0, values := t.columns.map fun _ => .null } with rowid := none }],
    rows := rows.map fun r => [t.frameOf name r] }

/-- Marks the columns of frames that a `USING` list merges into the left side. -/
def markMerged (names : List String) (frames : List Frame) : List Frame :=
  frames.map fun f =>
    { f with merged := f.merged ++ names.filter fun n => f.columns.any fun c => sameName c.name n }

def visibleNames (frames : List Frame) : List String :=
  frames.flatMap fun f => (f.columns.filter fun c => !f.merged.any (sameName · c.name)).map (·.name)

/-- Orders lists of values column by column under collations, `NULL` first. -/
def compareRows (colls : List Collation) (a b : List Datum) : Ordering :=
  match a, b with
  | x :: xs, y :: ys =>
    match Datum.compareWith (colls.headD .binary) x y with
    | .eq => compareRows colls.tail xs ys
    | o => o
  | [], [] => .eq
  | [], _ => .lt
  | _, [] => .gt

/-- Compares two lists of values term by term, each term in its collation and direction (`true`
for descending). -/
def compareDirected (colls : List Collation) (desc : List Bool) (a b : List Datum) : Ordering :=
  match a, b with
  | x :: xs, y :: ys =>
    let o := Datum.compareWith (colls.headD .binary) x y
    let o := if desc.headD false then o.swap else o
    match o with
    | .eq => compareDirected colls.tail desc.tail xs ys
    | o => o
  | [], [] => .eq
  | [], _ => .lt
  | _, [] => .gt

/-- The table a select reads alone, with the name it reads it by: a stored table (not a virtual
one) named in its `FROM` that no common table of that name hides. -/
def Env.soleTable? (env : Env) : Option Source → Option (Table × String)
  | some (.table name asName) =>
    if env.ctes.any (fun (n, _) => sameName n name) || isSchemaTableName name then none
    else ((env.db.store.table? name).filter (·.module.isNone)).map fun t => (t, asName.getD name)
  | _ => none

/-- Whether `x IN (q)` is answered from an index whose first column sorts down. That is so when
`q` reads one column of one stored table and nothing else (no filter, `DISTINCT`, grouping,
limit or compound, and not the row id), the comparison's affinity lets an index of the column
answer it, and the first of the table's indexes in the catalog's order that is not partial and
leads with the column under the comparison's collation sorts it down. The engine then learns
whether the right side holds `NULL` from that index's first entry, which sorting down is `NULL`
only when every entry is: a left side found nowhere is false even beside a `NULL`. -/
def Env.readsDownIndex (env : Env) (lhsAffinity : Option Affinity) (coll : Collation) :
    Query → Bool
  | .mk _ [] (.select false [.expr (.column qual n _) _ _] src none [] none []) [] _ none none =>
    match env.soleTable? src with
    | some (t, asName) =>
      match t.columnIndex? n, t.columns.find? fun c => sameName c.name n with
      | some i, some c =>
        let affinityOk := !((lhsAffinity.map Affinity.isNumeric).getD false && !c.affinity.isNumeric)
        let leads (ix : ListedIndex) : Bool :=
          ix.filter.isNone &&
            match ix.columns.head? with
            | some ic =>
              let e := t.entryColumn ic
              e.cid == (i : Int) && sameName e.collation coll.name
            | none => false
        qual.all (sameName · asName) && t.rowidAlias != some i && affinityOk &&
          match (env.db.store.listedIndexes t).find? leads with
          | some ix => (ix.columns.head?.map (·.desc)).getD false
          | none => false
      | _, _ => false
    | none => false
  | _ => false

/-- Why a name written as a function in `FROM` names no source: it names a table, view or
common table that takes no arguments, or nothing at all. -/
def functionSourceError (env : Env) (name : String) : String :=
  if env.ctes.any (fun (n, _) => sameName n name) || isSchemaTableName name ||
      (env.db.store.table? name).isSome || (env.db.store.view? name).isSome then
    "'" ++ name ++ "' is not a function"
  else "no such table: " ++ name

/-- The frames of a source written as a function, before any row: a table-valued function's or a
virtual table's. -/
def functionShape (env : Env) (name frameName : String) : Option (List Frame) :=
  match tableFunction? name with
  | some f => some [f.emptyFrame frameName]
  | none =>
    (env.db.store.table? name).bind fun t =>
      if t.module.isSome then some (tableRows frameName t).shape else none

def distinctRows (colls : List Collation) (rows : List (List Datum)) : List (List Datum) :=
  (rows.foldl (fun acc r => if acc.any (compareRows colls · r == .eq) then acc else r :: acc) []).reverse

def sortedDistinct (colls : List Collation) (rows : List (List Datum)) : List (List Datum) :=
  distinctRows colls (rows.mergeSort fun a b => compareRows colls a b != .gt)

/-- Sorts rows and keeps, of those that compare equal, the last: so an index keeps rows, an equal
row put in replacing the one there. -/
def indexedRows (colls : List Collation) (rows : List (List Datum)) : List (List Datum) :=
  distinctRows colls (rows.reverse.mergeSort fun a b => compareRows colls a b != .gt)

/-- Drops each row that compares equal to the row kept before it. -/
def dropRepeats (colls : List Collation) : Option (List Datum) → List (List Datum) → List (List Datum)
  | _, [] => []
  | some p, r :: rs => if compareRows colls p r == .eq then dropRepeats colls (some p) rs else r :: dropRepeats colls (some r) rs
  | none, r :: rs => r :: dropRepeats colls (some r) rs

/-- The rows of a compound query with no ordering, its selects' rows joined left to right. `UNION`,
`INTERSECT` and `EXCEPT` put rows into an index, so of rows that compare equal the last put in
stays, and give them in the index's order; `UNION ALL` appends. -/
def setRows (colls : List Collation) (rows : List (List Datum)) :
    List (CompoundOp × List (List Datum)) → List (List Datum)
  | [] => rows
  | (op, more) :: rest =>
    let inRight (r : List Datum) := more.any (compareRows colls · r == .eq)
    let rows := match op with
      | .unionAll => rows ++ more
      | .union => indexedRows colls (rows ++ more)
      | .intersect => indexedRows colls (rows.filter inRight)
      | .except => indexedRows colls (rows.filter fun r => !inRight r)
    setRows colls rows rest

/-- Merges two streams sorted by a comparison under a set operator, as an ordered compound query
does: where the streams' rows compare equal, `UNION ALL` gives the left one first, `UNION` and
`EXCEPT` drop the left one, `INTERSECT` gives it; `UNION ALL` and `UNION` give every other row,
`EXCEPT` the left stream's, `INTERSECT` none. -/
def mergeStreams (op : CompoundOp) (cmp : List Datum → List Datum → Ordering) :
    List (List Datum) → List (List Datum) → List (List Datum)
  | [], bs => if op == .unionAll || op == .union then bs else []
  | as, [] => if op == .intersect then [] else as
  | a :: as, b :: bs =>
    match cmp a b with
    | .lt => if op == .intersect then mergeStreams op cmp as (b :: bs) else a :: mergeStreams op cmp as (b :: bs)
    | .eq =>
      if op == .unionAll || op == .intersect then a :: mergeStreams op cmp as (b :: bs)
      else mergeStreams op cmp as (b :: bs)
    | .gt =>
      if op == .unionAll || op == .union then b :: mergeStreams op cmp (a :: as) bs
      else mergeStreams op cmp (a :: as) bs
termination_by as bs => as.length + bs.length

/-- The rules of an ordering made to cover every one of `width` columns: columns it leaves out
follow, ascending, under their collations. -/
def coveringRules (width : Nat) (colls : List Collation) (rules : List (Nat × OrderRule)) :
    List (Nat × OrderRule) :=
  rules ++ ((List.range width).filter fun k => !rules.any (·.1 == k)).map fun k =>
    (k, { desc := false, nulls := .natural, collation := colls.getD k .binary })

/-- Where a run of selects is split to be merged: after the selects joined by other operators,
the last select alone, or for a run of more than three selects joined by one `UNION` or
`UNION ALL`, about its right half. `ops` are the operators before the selects after the first. -/
def mergeSplit (ops : List CompoundOp) : Nat :=
  match ops.getLast? with
  | none => 0
  | some op =>
    let run := if op == .unionAll || op == .union then (ops.reverse.takeWhile (· == op)).length + 1 else 1
    ops.length - (if run ≤ 3 then 0 else (run - 1) / 2)

/-- The rows of a compound query with an ordering, merged as the query engine merges them. A single
select's rows are sorted (rows that compare equal keep their order); otherwise the selects are
split (see `mergeSplit`), each part merged, and the two streams merged by the operator before
the right part, each repeat of the row given before it then dropped unless that operator is
`UNION ALL`. An operator other than `UNION ALL` first makes the ordering cover every column. -/
def mergeSelects (width : Nat) (colls : List Collation) (rules : List (Nat × OrderRule)) :
    Nat → List (List (List Datum)) → List CompoundOp → List (List Datum)
  | 0, _, _ => []
  | _, [], _ => []
  | _, [rows], _ =>
    let keyed := rows.map fun r => (r, rules.map fun (k, _) => r.getD k .null)
    (sortByKeys (rules.map (·.2)) keyed).map (·.1)
  | fuel + 1, arms, ops =>
    let op := ops.getLast?.getD .unionAll
    let rules := if op == .unionAll then rules else coveringRules width colls rules
    let k := mergeSplit ops
    let left := mergeSelects width colls rules fuel (arms.take k) (ops.take (k - 1))
    let right := mergeSelects width colls rules fuel (arms.drop k) (ops.drop k)
    let key (r : List Datum) := rules.map fun (i, _) => r.getD i .null
    let merged := mergeStreams op (fun a b => compareKeys (rules.map (·.2)) (key a) (key b)) left right
    if op == .unionAll then merged else dropRepeats colls none merged

/-- The columns of a compound query from its selects' columns: the first select's names and types;
each column the first affinity the selects give from the left, turned into none at all (blob)
when another select may give a value of another kind (see `compoundAffinity`); and the first
collation they give from the left, which its set operators and its ordering compare under. -/
def compoundColumns (first : List ColumnInfo) (more : List (List ColumnInfo)) : List ColumnInfo :=
  let step (acc : List (ColumnInfo × Nat)) (next : List ColumnInfo) : List (ColumnInfo × Nat) :=
    (acc.zip next).map fun ((a, m), b) =>
      let coll := a.collation.orElse fun _ => b.collation
      if a.affinity.isNone && b.affinity.isSome then ({ a with affinity := b.affinity, collation := coll }, m ||| a.kinds)
      else ({ a with collation := coll }, m ||| b.kinds)
  if more.isEmpty then first
  else (more.foldl step (first.map fun c => (c, 0))).map fun (c, m) =>
    { c with affinity := compoundAffinity c.affinity c.cast m }

def Query.lastCore : Query → Core
  | .mk _ _ first rest _ _ _ => ((rest.getLast?).map (·.2)).getD first

/-- Whether an expression writes a collation outside its subqueries. -/
def writesCollation : Nat → Expr → Bool
  | 0, _ => false
  | fuel + 1, e =>
    match e with
    | .collate _ _ => true
    | _ => e.children.any (writesCollation fuel)

/-- A compound query that the query engine reads as a select over the compound: one ordered under
a written collation that uses an operator other than `UNION ALL`. The select over it takes the
last select's grouping, `HAVING` and `DISTINCT`; the compound keeps everything else. Gives the
compound (common tables, ordering and limits left out) and the select over it, which reads every
column of a subquery. -/
def Query.regrouped? : Query → Option (Query × Core)
  | .mk recursive _ first rest orderBy _ _ =>
    if rest.isEmpty || rest.all (·.1 == .unionAll) || !orderBy.any fun (.mk e _ _) => writesCollation 10000 e then none
    else
      match rest.reverse with
      | (op, .select distinct columns source filter groupBy having windows) :: before =>
        let last := Core.select distinct columns source filter [] none windows
        let inner := Query.mk recursive [] first (before.reverse ++ [(op, last)]) [] none none
        some (inner, .select distinct [.all] (some (.query inner none)) none groupBy having [])
      | _ => none

/-- An ordering term turned into the number of the result column it names, keeping the collations
written around it. -/
def OrderTerm.toColumn (k : Nat) : OrderTerm → OrderTerm
  | .mk e desc nulls =>
    let rec wrap : Expr → Expr
      | .collate x n => .collate (wrap x) n
      | _ => .number (toString (k + 1)) false
    .mk (wrap e) desc nulls

/-- The rows in a window of an offset and an optional limit. -/
def window {α : Type} (offset : Nat) (limit : Option Nat) (rows : List α) : List α :=
  let rows := rows.drop offset
  match limit with
  | some n => rows.take n
  | none => rows

/-- A limit or offset value: an integer, or an error. -/
def countValue (d : Datum) : Eval Int :=
  match d.withAffinity .numeric with
  | .integer i => pure i
  | _ => fail "datatype mismatch"

/-- The position of the result column an ordering or grouping term names: an integer `K` names
the `K`-th, a plain name an alias. An integer out of range is an error. -/
def outputIndex? (what : String) (aliases : List (Option String)) : Expr → Option (Except String Nat)
  | .number t false =>
    let k := digitsValue t.toList
    if t.all Char.isDigit && 1 ≤ k && k ≤ aliases.length then some (.ok (k - 1))
    else if t.all Char.isDigit && k < 2 ^ (31 : Nat) then
      some (.error (what ++ " term out of range - should be between 1 and " ++ toString aliases.length))
    else none
  | .unary .plus e => outputIndex? what aliases e
  | .unary .negate (.number t false) =>
    if t.all Char.isDigit && digitsValue t.toList < 2 ^ (31 : Nat) then
      some (.error (what ++ " term out of range - should be between 1 and " ++ toString aliases.length))
    else none
  | .collate e _ => outputIndex? what aliases e
  | .column none n _ =>
    (aliases.findIdx? fun a => match a with
      | some x => sameName x n
      | none => false).map .ok
  | _ => none

/-- Whether every column an expression names outside its subqueries reaches something. -/
def namesReach (env : Env) : Nat → Expr → Bool
  | 0, _ => false
  | fuel + 1, e =>
    match e with
    | .column t n q =>
      match env.lookup t n with
      | .value _ _ | .aliased _ => true
      | .ambiguous => false
      | .none => t.isNone && (q || sameName n "true" || sameName n "false")
    | _ => e.children.all (namesReach env fuel)

/-- What a term of a compound query's ordering can name in one of its selects: the environment
the select's own rows and result aliases make, its result expressions, and the names given
with `AS`. -/
structure SelectFace where
  env : Env
  exprs : List Expr
  aliases : List (Option String)

/-- The result column a term names in one select: the one whose `AS` name the term is, else
one written like the term when all the term's names reach something there. -/
def SelectFace.columnOf (f : SelectFace) (e : Expr) : Option Nat :=
  let byAlias : Option Nat := match e with
    | .column none n _ => f.aliases.findIdx? fun a =>
      match a with
      | some x => sameName x n
      | none => false
    | _ => none
  byAlias.orElse fun _ =>
    if namesReach f.env 10000 e then f.exprs.findIdx? (exprSame 10000 e) else none

/-- The result column a term of a compound query's ordering names: an integer gives its
position among `width` columns; otherwise the first select, from the left, in which the term
names a column. -/
def compoundColumn (faces : List SelectFace) (width : Nat) (e : Expr) : Except String Nat :=
  let bare := e.withoutCollate
  match bare.termInteger? with
  | some k =>
    if 1 ≤ k && k ≤ width then .ok (k.toNat - 1)
    else .error ("ORDER BY term out of range - should be between 1 and " ++ toString width)
  | none =>
    match faces.findSome? fun f => f.columnOf bare with
    | some k => .ok k
    | none => .error "ORDER BY term does not match any column in the result set"

/-- The frame of a row whose values are all `NULL`. -/
def nullRow (shape : List Frame) : List Frame := shape.map Frame.nulls

/-- Renames a relation's columns by a list of names, which must be as long. -/
def renameColumns (what : String) (names : List String) (rel : Relation) : Eval Relation :=
  if names.isEmpty then pure rel
  else if names.length != rel.columns.length then
    fail (what ++ " has " ++ toString rel.columns.length ++ " values for " ++ toString names.length ++ " columns")
  else pure { rel with columns := (rel.columns.zip names).map fun (c, n) => { c with name := n } }

/-- Whether a select reads a table of a name in its top-level sources. -/
def Source.mentions (name : String) : Source → Bool
  | .table n _ => sameName n name
  | .join l _ _ r _ _ => l.mentions name || r.mentions name
  | _ => false

/-- Whether a select reads a table of a name in its top-level sources. -/
def Core.mentions (name : String) : Core → Bool
  | .select _ _ (some s) _ _ _ _ => s.mentions name
  | _ => false

/-- The date function and arguments a clock keyword stands for. -/
def clockKeyword? (n : String) : Option (String × List Datum) :=
  match n.toLower with
  | "current_date" => some ("date", [.text "now"])
  | "current_time" => some ("time", [.text "now"])
  | "current_timestamp" => some ("datetime", [.text "now"])
  | _ => none

def liftString (r : Except String Datum) : Eval Datum :=
  match r with
  | .ok d => pure d
  | .error m => fail m

/-- A call of a scalar function on evaluated arguments: JSON, date and time, then the others;
`jsonArgs` tells where the text of each argument comes from. -/
def plainCall (env : Env) (name lname : String) (jsonArgs : List TextOrigin) (vals : List Datum)
    (coll : Collation) : Eval Datum :=
  match jsonFunction lname vals jsonArgs with
  | some r => liftString r
  | none =>
    match dateFunction lname vals with
    | some d => pure d
    | none =>
      match scalarFunction env.callContext coll lname vals with
      | some r => liftString r
      | none => fail ("no such function: " ++ name)

/-- The result columns of a select with `*` and `t.*` expanded: each with its name, its
expression and its alias. -/
def expandColumns (shape : List Frame) (cols : List ResultColumn) :
    Eval (List (String × Expr × Option String)) := do
  let parts ← cols.mapM fun rc =>
    match rc with
    | .all =>
      if shape.isEmpty then fail "no tables specified"
      else pure (shape.flatMap fun f =>
        (f.columns.filter fun c => !c.hidden && !f.merged.any (sameName · c.name)).map fun c =>
          (c.name, Expr.column (some f.name) c.name false, (none : Option String)))
    | .allOf t =>
      match shape.filter (fun f => sameName f.name t) with
      | [] => fail ("no such table: " ++ t)
      | fs => pure (fs.flatMap fun f => (f.columns.filter fun c => !c.hidden).map fun c =>
          (c.name, Expr.column (some f.name) c.name false, (none : Option String)))
    | .expr e a text => pure [(a.getD (if text.isEmpty then exprName e else text), e, a)]
  pure parts.flatten

/-- The name a result column takes: its alias when it has one; for a plain column (also under
`COLLATE`), its name as written when the select is read as a table (`written`), else the name of
the column it reaches (the row id by the name its frame gives it); else its text as written. -/
def resultColumnName (env : Env) (name : String) (e : Expr) (explicit written : Bool) : String :=
  let rec named : Expr → Expr
    | .collate inner _ => named inner
    | x => x
  if explicit then name
  else
    match named e with
    | .column t n _ =>
      if written then n
      else
        match env.lookup t n with
        | .value _ (some info) => info.name
        | _ =>
          if isRowidName n then
            let frames := (env.scopes.headD []).filter fun f => t.all (sameName f.name ·)
            (frames.head?.map (·.rowidName)).getD name
          else name
    | _ => name

/-- The column a result expression makes: a plain column (also under `COLLATE`) keeps its table's
name (or its name as written, when `written`), type, affinity and collation; the row id is named
as its table calls it; other expressions carry their own affinity and collation. -/
def columnInfoOf (env : Env) (name : String) (e : Expr) (aff : Option Affinity) (explicit written : Bool) :
    Eval ColumnInfo := do
  let coll ← env.collationOf e
  let kinds := match e.withoutCollate with
    | .scalar _ => kindsOfAffinity aff
    | _ => env.valueKinds 10000 e
  let cast := match e with
    | .cast _ _ => true
    | _ => false
  let plain : ColumnInfo :=
    { name := resultColumnName env name e explicit written, affinity := aff,
      collation := coll, declType := none, kinds := kinds, cast := cast }
  let rec named : Expr → Expr
    | .collate inner _ => named inner
    | x => x
  match named e with
  | .column t n _ =>
    match env.lookup t n with
    | .value _ (some info) =>
      pure { info with name := plain.name, collation := coll.orElse fun _ => info.collation,
                       kinds := kinds, cast := false }
    | _ => pure plain
  | _ => pure plain

/-- The result column each term of an ordering of output rows names, with its rule. -/
def outputRules (cols : List ColumnInfo) (orderBy : List OrderTerm) : Eval (List (Nat × OrderRule)) :=
  let names := cols.map fun c => some c.name
  orderBy.mapM fun (.mk e desc nulls) => do
    let k ← match outputIndex? "ORDER BY" names e with
      | some (.ok k) => pure k
      | some (.error m) => fail m
      | none => fail "ORDER BY term does not match any column in the result set"
    let coll := match explicitCollation e with
      | some n => (Collation.ofName? n).getD .binary
      | none => (cols[k]?.bind (·.collation)).getD .binary
    pure (k, { desc := desc, nulls := nulls, collation := coll })

/-- The column and rule of each term of a compound query's ordering: the column it names in
the query's selects, compared under the collation written with it or else the column's. -/
def compoundRules (faces : List SelectFace) (cols : List ColumnInfo) (orderBy : List OrderTerm) :
    Eval (List (Nat × OrderRule)) :=
  orderBy.mapM fun (.mk e desc nulls) => do
    let k ← match compoundColumn faces cols.length e with
      | .ok k => pure k
      | .error m => fail m
    let coll := match explicitCollation e with
      | some n => (Collation.ofName? n).getD .binary
      | none => (cols[k]?.bind (·.collation)).getD .binary
    pure (k, { desc := desc, nulls := nulls, collation := coll })

/-- Sorts output rows by an ordering of their columns. -/
def sortByOutput (cols : List ColumnInfo) (rows : List (List Datum)) (orderBy : List OrderTerm) :
    Eval (List (List Datum)) := do
  if orderBy.isEmpty then return rows
  let rules ← outputRules cols orderBy
  let keyed := rows.map fun r => (r, rules.map fun (k, _) => r.getD k .null)
  pure ((sortByKeys (rules.map (·.2)) keyed).map (·.1))

/-- A name not yet taken, made by numbering a base name. -/
def freshName (taken : List String) (base : String) : Nat → Nat → String
  | 0, _ => base
  | fuel + 1, k =>
    let n := base ++ ":" ++ toString k
    if taken.any (sameName · n) then freshName taken base fuel (k + 1) else n

/-- A relation whose repeated column names are numbered apart. -/
def uniqueColumnNames (rel : Relation) : Relation :=
  let names := rel.columns.foldl (fun (acc : List String) c =>
    if acc.any (sameName · c.name) then acc ++ [freshName acc c.name (acc.length + 1) 1]
    else acc ++ [c.name]) []
  { rel with columns := (rel.columns.zip names).map fun (c, n) => { c with name := n } }

mutual

def evalExpr (fuel : Nat) (env : Env) (e : Expr) : Eval Datum :=
  match fuel with
  | 0 => fail "expression nested too deeply"
  | fuel + 1 =>
    match e with
    | .literal d => pure d
    | .number t r => literalNumber t r false
    | .param n => pure (env.params.getD (n - 1) .null)
    | .column t n q => lookupColumn fuel env t n q
    | .unary .negate (.number t r) => literalNumber t r true
    | .unary op a => do
      let v ← evalExpr fuel env a
      pure (unaryValue op v)
    | .binary .and a b => do
      if (Expr.binary .and a b).foldsFalse then return .integer 0
      -- As a value, both sides are computed whatever the first gives.
      let x := (← evalExpr fuel env a).truth?
      let y := (← evalExpr fuel env b).truth?
      pure (truthValue (andTruth x y))
    | other => evalOther fuel env other
termination_by structural fuel

/-- Whether a condition holds in the sense asked: with `wantTrue`, whether the expression is
true, else whether it is false; `onNull` is the answer for an unknown value. `AND`, `OR` and
`NOT` are decided side by side, the right side computed only when the left does not settle
the answer; every other expression is computed as a value. -/
def conditionHolds (fuel : Nat) (env : Env) (e : Expr) (wantTrue onNull : Bool) : Eval Bool :=
  match fuel with
  | 0 => fail "expression nested too deeply"
  | fuel + 1 =>
    match simplifyAndOr 10000 e with
    | .binary .and a b => do
      if wantTrue then
        if ← conditionHolds fuel env a false (!onNull) then pure false
        else conditionHolds fuel env b true onNull
      else
        if ← conditionHolds fuel env a false onNull then pure true
        else conditionHolds fuel env b false onNull
    | .binary .or a b => do
      if wantTrue then
        if ← conditionHolds fuel env a true onNull then pure true
        else conditionHolds fuel env b true onNull
      else
        if ← conditionHolds fuel env a true (!onNull) then pure false
        else conditionHolds fuel env b false onNull
    | .unary .not a => conditionHolds fuel env a (!wantTrue) onNull
    | e => do
      match (← evalExpr fuel env e).truth? with
      | some t => pure (t == wantTrue)
      | none => pure onNull
termination_by structural fuel

/-- Whether a filtering condition keeps a row: it does unless the condition is false or
unknown. -/
def keeps (fuel : Nat) (env : Env) (e : Expr) : Eval Bool :=
  match fuel with
  | 0 => fail "expression nested too deeply"
  | fuel + 1 => do pure !(← conditionHolds fuel env e false true)
termination_by structural fuel

def lookupColumn (fuel : Nat) (env : Env) (t : Option String) (n : String) (q : Bool) : Eval Datum :=
  match fuel with
  | 0 => fail "expression nested too deeply"
  | fuel + 1 =>
      match env.lookup t n with
      | .value d _ => pure d
      | .aliased a => evalExpr fuel { env with aliases := [] } a
      | .ambiguous => fail ("ambiguous column name: " ++ columnLabel t n)
      | .none =>
        if t.isNone && q then pure (.text n)
        else if t.isNone && sameName n "true" then pure (.integer 1)
        else if t.isNone && sameName n "false" then pure (.integer 0)
        else fail ("no such column: " ++ columnLabel t n)
termination_by structural fuel

/-- The truth a bare `TRUE` or `FALSE` names where no column takes the name. -/
def truthConstant? (env : Env) : Expr → Option Bool
  | .column none n false =>
    if sameName n "true" || sameName n "false" then
      match env.lookup none n with
      | .none => some (sameName n "true")
      | _ => none
    else none
  | _ => none

/-- The value of an expression other than a literal, parameter, column or conjunction. -/
def evalOther (fuel : Nat) (env : Env) (e : Expr) : Eval Datum :=
  match fuel with
  | 0 => fail "expression nested too deeply"
  | fuel + 1 =>
    match e with
    | .binary .or a b => do
      let x := (← evalExpr fuel env a).truth?
      let y := (← evalExpr fuel env b).truth?
      pure (truthValue (orTruth x y))
    | .binary op a b => do
      if op.isComparison then
        let x ← evalExpr fuel env a
        let y ← evalExpr fuel env b
        let aff := combineAffinity (← exprAffinity fuel env a) (← exprAffinity fuel env b)
        let coll ← env.compareCollation a b
        if op == .is || op == .isNot then
          match truthConstant? env b with
          | some named =>
            let r := if named then x.truth?.getD false else !(x.truth?.getD true)
            pure (truthValue (some (if op == .is then r else !r)))
          | none =>
            let o := if x == .null && y == .null then Ordering.eq
              else if x == .null || y == .null then Ordering.lt
              else (compareValues aff coll x y).getD .lt
            pure (truthValue (some (comparisonHolds op o)))
        else pure (truthValue ((compareValues aff coll x y).map (comparisonHolds op)))
      else
        let x ← evalExpr fuel env a
        let y ← evalExpr fuel env b
        match op with
        | .add | .sub | .mul | .div | .rem => pure (arithmetic op x y)
        | .concat => pure (concatValue x y)
        | .extract => liftString ((jsonFunction "->" [x, y] [textOrigin a, .plain]).getD (.ok .null))
        | .extractText => liftString ((jsonFunction "->>" [x, y] [textOrigin a, .plain]).getD (.ok .null))
        | _ => pure (bitwise op x y)
    | .matching .textSearch _ a p _ => do
      let q ← evalExpr fuel env p
      match textSearchHolds (env.scopes.headD []) a q with
      | .ok b => pure (truthValue (some b))
      | .error e => fail e
    | .matching op neg a p esc => do
      let x ← evalExpr fuel env a
      let pat ← evalExpr fuel env p
      let escape ← match esc with
        | some e' => do pure (some (← evalExpr fuel env e'))
        | none => pure none
      let r ← match op with
        | .like => liftString (likeValue env.db.caseSensitiveLike pat x escape)
        | .glob => liftString (globValue pat x)
        | .regexp => fail "no such function: REGEXP"
        | .matchOp | .textSearch => fail "unable to use function MATCH in the requested context"
      pure (if neg then unaryValue .not r else r)
    | .between neg x lo hi => do
      let v ← evalExpr fuel env x
      let l ← evalExpr fuel env lo
      let h ← evalExpr fuel env hi
      let ax ← exprAffinity fuel env x
      let c1 := compareValues (combineAffinity ax (← exprAffinity fuel env lo)) (← env.compareCollation x lo) v l
      let c2 := compareValues (combineAffinity ax (← exprAffinity fuel env hi)) (← env.compareCollation x hi) v h
      let r := andTruth (c1.map (· != .lt)) (c2.map (· != .gt))
      pure (truthValue (if neg then r.map (!·) else r))
    | .inList neg x items =>
      if items.isEmpty then pure (.integer (if neg then 1 else 0))
      else do
        -- Three or more constant values are gathered before the left side is computed; other
        -- lists are compared item by item, stopping at the first match.
        let gathered := items.length ≥ 3 && items.all (isConstantExpr 10000)
        let vals ← if gathered then items.mapM (evalExpr fuel env) else pure []
        let v ← evalExpr fuel env x
        let aff := combineAffinity (← exprAffinity fuel env x) none
        let coll := (← env.collationOf x).getD .binary
        let r ← if gathered then
            if v == .null then pure none
            else
              let found := vals.any fun w => compareValues aff coll v w == some .eq
              pure (if found then some true else if vals.any (· == .null) then none else some false)
          else inListScan fuel env aff coll v items false
        pure (truthValue (if neg then r.map (!·) else r))
    | .inQuery neg x q => do
      let v ← evalExpr fuel env x
      let rel ← evalQuery fuel { env with aliases := [], group := none } q
      if rel.columns.length != 1 then
        fail ("sub-select returns " ++ toString rel.columns.length ++ " columns - expected 1")
      else if rel.rows.isEmpty then pure (.integer (if neg then 1 else 0))
      else if v == .null then pure .null
      else
        -- The values compare under the affinity and collation of the last select's column.
        let info := rel.lastColumns.headD { name := "", affinity := none, collation := none, declType := none }
        let lhsAffinity ← exprAffinity fuel env x
        let aff := combineAffinity lhsAffinity info.affinity
        let coll := ((← env.collationOf x).orElse fun _ => info.collation).getD .binary
        let vals := rel.rows.map fun r => r.headD .null
        let found := vals.any fun w => compareValues aff coll v w == some .eq
        let holdsNull :=
          if env.readsDownIndex lhsAffinity coll q then vals.all (· == .null)
          else vals.any (· == .null)
        let r := if found then some true else if holdsNull then none else some false
        pure (truthValue (if neg then r.map (!·) else r))
    | .isNull neg x => do
      let v ← evalExpr fuel env x
      pure (.integer (if (v == .null) != neg then 1 else 0))
    | .cast x ty => do
      let v ← evalExpr fuel env x
      pure (v.cast (if ty.isEmpty then .numeric else affinityOfType ty))
    | .collate x _ => evalExpr fuel env x
    | .caseOf (some o) arms otherwise => do
      let v ← evalExpr fuel env o
      caseWith fuel env o v arms otherwise
    | .caseOf none arms otherwise => caseWhen fuel env arms otherwise
    | .call name _ _ _ _ _ (some _) => fail ("misuse of window function " ++ name ++ "()")
    | .call name distinct star args ord filter none => evalCall fuel env name distinct star args ord filter
    | .exists q => do
      let rel ← evalQuery fuel { env with aliases := [], group := none } q
      pure (.integer (if rel.rows.isEmpty then 0 else 1))
    | .scalar q => do
      let rel ← evalQuery fuel { env with aliases := [], group := none } q
      if rel.columns.length != 1 then
        fail ("sub-select returns " ++ toString rel.columns.length ++ " columns - expected 1")
      else pure ((rel.rows.head?.bind List.head?).getD .null)
    | .row _ => fail "row value misused"
    | .raise act msg =>
      match act with
      | .ignore => .error .ignoreRow
      | _ => fail msg
    | _ => evalExpr fuel env e
termination_by structural fuel

/-- The value of `CASE x WHEN … THEN … END`: the first arm whose value equals `x`. -/
def caseWith (fuel : Nat) (env : Env) (o : Expr) (v : Datum) (arms : List (Expr × Expr))
    (otherwise : Option Expr) : Eval Datum :=
  match fuel with
  | 0 => fail "expression nested too deeply"
  | fuel + 1 =>
    match arms with
    | [] =>
      match otherwise with
      | some e => evalExpr fuel env e
      | none => pure .null
    | (w, t) :: rest => do
      let x ← evalExpr fuel env w
      let coll ← env.compareCollation o w
      let aff := combineAffinity (← exprAffinity fuel env o) (← exprAffinity fuel env w)
      if compareValues aff coll v x == some .eq then evalExpr fuel env t
      else caseWith fuel env o v rest otherwise
termination_by structural fuel

/-- The value of `CASE WHEN … THEN … END`: the first arm whose condition is true. -/
def caseWhen (fuel : Nat) (env : Env) (arms : List (Expr × Expr)) (otherwise : Option Expr) :
    Eval Datum :=
  match fuel with
  | 0 => fail "expression nested too deeply"
  | fuel + 1 =>
    match arms with
    | [] =>
      match otherwise with
      | some e => evalExpr fuel env e
      | none => pure .null
    | (w, t) :: rest => do
      if ← keeps fuel env w then evalExpr fuel env t else caseWhen fuel env rest otherwise
termination_by structural fuel

/-- The value of a function of a full-text search for the current row of the index its first
argument names; other first arguments cannot use it. -/
def textFunctionCall (fuel : Nat) (env : Env) (name lname : String) (args : List Expr) : Eval Datum :=
  match fuel with
  | 0 => fail "expression nested too deeply"
  | fuel + 1 => do
    let unable : Eval Datum := fail ("unable to use function " ++ name ++ " in the requested context")
    match (if env.searchFunctions then args else []) with
    | [] => unable
    | first :: rest =>
      match textColumn? (env.scopes.headD []) first with
      | some (f, none) => do
        let vals ← rest.mapM (evalExpr fuel env)
        match textFunctionValue f lname vals with
        | some r => liftString r
        | none => unable
      | _ => do
        let _ ← args.mapM (evalExpr fuel env)
        unable
termination_by structural fuel

/-- The value of a function call that runs over no window. -/
def evalCall (fuel : Nat) (env : Env) (name : String) (distinct star : Bool) (args : List Expr)
    (ord : List OrderTerm) (filter : Option Expr) : Eval Datum :=
  match fuel with
  | 0 => fail "expression nested too deeply"
  | fuel + 1 =>
    let lname := name.toLower
    if textSearchFunctions.contains lname then textFunctionCall fuel env name lname args
    else if isAggregateCall lname args.length star then
      match env.group with
      | some rows => aggregateValue fuel env lname distinct star args ord filter rows
      | none => fail ("misuse of aggregate function " ++ name ++ "()")
    else if windowOnlyFunctions.contains lname then
      if !star && windowArity lname args.length then fail ("misuse of window function " ++ name ++ "()")
      else fail ("wrong number of arguments to function " ++ name ++ "()")
    else if filter.isSome then fail (name ++ "() may not be used as a window function")
    else if star && !args.isEmpty then
      fail ("wrong number of arguments to function " ++ name ++ "()")
    else if !ord.isEmpty && !args.isEmpty then
      fail ("ORDER BY may not be used with non-aggregate " ++ name ++ "()")
    else if lname == "likelihood" && args.length == 2 && !isProbability (args.getD 1 (.literal .null)) then
      fail ("second argument to " ++ name ++ "() must be a constant between 0.0 and 1.0")
    else
      match lname, args with
      | "coalesce", _ :: _ :: _ => firstNonNull fuel env args
      | "ifnull", [_, _] => firstNonNull fuel env args
      | _, [] =>
        match clockKeyword? lname with
        | some (f, fargs) => pure ((dateFunction f fargs).getD .null)
        | none => plainCall env name lname [] [] .binary
      | "iif", [c, a, b] => do
        if ← keeps fuel env c then evalExpr fuel env a else evalExpr fuel env b
      | _, _ => do
        let vals ← args.mapM (evalExpr fuel env)
        let coll ← firstCollation fuel env args
        plainCall env name lname (args.map textOrigin) vals coll
termination_by structural fuel

/-- The truth of `v IN (items)` with the items computed in turn, stopping at the first one equal
to `v`: true then; otherwise unknown when `v` or an item was `NULL`, else false. -/
def inListScan (fuel : Nat) (env : Env) (aff : Option Affinity) (coll : Collation) (v : Datum)
    (items : List Expr) (sawNull : Bool) : Eval (Option Bool) :=
  match fuel with
  | 0 => fail "expression nested too deeply"
  | fuel + 1 =>
    match items with
    | [] => pure (if sawNull || v == .null then none else some false)
    | e :: rest => do
      let w ← evalExpr fuel env e
      if v != .null && compareValues aff coll v w == some .eq then pure (some true)
      else inListScan fuel env aff coll v rest (sawNull || w == .null)
termination_by structural fuel

/-- The first value that is not `NULL`, evaluating no further. -/
def firstNonNull (fuel : Nat) (env : Env) (args : List Expr) : Eval Datum :=
  match fuel with
  | 0 => fail "expression nested too deeply"
  | fuel + 1 =>
    match args with
    | [] => pure .null
    | a :: rest => do
      let v ← evalExpr fuel env a
      if v == .null then firstNonNull fuel env rest else pure v
termination_by structural fuel

/-- The collation of the first argument that carries one. -/
def firstCollation (fuel : Nat) (env : Env) (args : List Expr) : Eval Collation :=
  match fuel with
  | 0 => pure .binary
  | fuel + 1 =>
    match args with
    | [] => pure .binary
    | a :: rest => do
      match ← env.collationOf a with
      | some c => pure c
      | none => firstCollation fuel env rest
termination_by structural fuel

/-- The value of an aggregate call over the rows of a group, taken in the order of the call's own
ordering when it has one. -/
def aggregateValue (fuel : Nat) (env : Env) (name : String) (distinct star : Bool) (args : List Expr)
    (ord : List OrderTerm) (filter : Option Expr) (rows : List (List Frame)) : Eval Datum :=
  match fuel with
  | 0 => fail "expression nested too deeply"
  | fuel + 1 => do
    let rowEnv (r : List Frame) : Env := { env with scopes := r :: env.scopes.tail, group := none }
    let kept ← rows.filterM fun r => do
      match filter with
      | none => pure true
      | some f => keeps fuel (rowEnv r) f
    if star then pure (.integer kept.length)
    else
      if distinct && args.length != 1 then fail "DISTINCT aggregates must have exactly one argument"
      else
        let argRows ← kept.mapM fun r => args.mapM (evalExpr fuel (rowEnv r))
        let argRows ← if ord.isEmpty then pure argRows
          else do
            let rules ← ord.mapM fun (.mk e desc nulls) => do
              let coll ← env.collationOf e
              pure { desc := desc, nulls := nulls, collation := coll.getD .binary : OrderRule }
            let keyed ← (kept.zip argRows).mapM fun (r, vs) => do
              let ks ← ord.mapM fun t => evalExpr fuel (rowEnv r) t.expr
              pure (vs, ks)
            pure ((sortByKeys rules keyed).map (·.1))
        let coll ← firstCollation fuel env args
        liftString (aggregateOf name distinct false coll (args.map textOrigin) argRows)
termination_by structural fuel

def evalQuery (fuel : Nat) (env : Env) (q : Query) : Eval Relation :=
  match fuel with
  | 0 => fail "query nested too deeply"
  | fuel + 1 => evalQueryWith fuel env q none
termination_by structural fuel

/-- The rows of a query read by a select that offers it conditions of its `WHERE` (see `Pushed`):
a compound query checks those that read only it in each of its selects, unless it has a limit,
a select of it calls a window function or reads a list of rows, or it joins selects by another
operator than `UNION ALL` and a select's column has a collation other than `BINARY`. -/
def evalQueryWith (fuel : Nat) (env : Env) (q : Query) (pushed : Option Pushed) : Eval Relation :=
  match fuel with
  | 0 => fail "query nested too deeply"
  | fuel + 1 =>
    match q with
    | .mk _ ctes first rest orderBy limit offset => do
      let env ← withCtes fuel env ctes fun n => q.sourceUses n 10000
      let lim ← match limit with
        | some e => do
          let n ← countValue (← evalExpr fuel env e)
          pure (if n < 0 then none else some n.toNat)
        | none => pure none
      let off ← match offset with
        | some e => do
          let n ← countValue (← evalExpr fuel env e)
          pure (if n < 0 then 0 else n.toNat)
        | none => pure 0
      if rest.isEmpty then
        match first with
        | .values _ => do
          let (cols, rows) ← evalCore fuel env first [] none
          let rows ← sortByOutput cols rows orderBy
          pure { columns := cols, rows := window off lim rows }
        | _ => do
          let (cols, rows) ← evalCore fuel env first orderBy limit
          pure { columns := cols, rows := window off lim rows }
      else
        let cores := first :: rest.map (·.2)
        let ops := rest.map (·.1)
        match (if env.regroupsCompounds then q.regrouped? else none) with
        | some (_, outer) => do
          let faces ← cores.mapM (coreFace fuel env)
          let width := (faces.head?.map (·.exprs.length)).getD 0
          let terms ← orderBy.mapM fun t => do
            match compoundColumn faces width t.expr with
            | .ok k => pure (t.toColumn k)
            | .error m => fail m
          let (cols, rows) ← evalCore fuel env outer terms limit
          pure { columns := cols, rows := window off lim rows }
        | none => do
          let arms ← cores.mapM fun c => evalCore fuel env c [] none
          let firstCols := (arms.head?.map (·.1)).getD []
          if arms.any (·.1.length != firstCols.length) then
            fail "SELECTs to the left and right of a compound operator do not have the same number of result columns"
          let cols := compoundColumns firstCols ((arms.drop 1).map (·.1))
          let takesConditions := limit.isNone && cores.all (fun c =>
              match c with
              | .select _ columns _ _ _ _ windows =>
                windows.isEmpty && columns.all fun r =>
                  match r with
                  | .expr e _ _ => (windowCalls 10000 e).isEmpty
                  | _ => true
              | .values _ => false) &&
            (ops.all (· == .unionAll) ||
              arms.all fun (cs, _) => cs.all fun c => c.collation.isNone || c.collation == some .binary)
          let arms ← match pushed with
            | some p =>
              if !takesConditions then pure arms
              else
                let names := if p.columns.isEmpty then
                    (uniqueColumnNames { columns := cols, rows := [] }).columns.map (·.name)
                  else p.columns
                let conds := p.applicable names
                if conds.isEmpty then pure arms
                else arms.mapM fun (cs, rows) => do
                  -- A select's row is read as the source's row, each column under the affinity of
                  -- the select's own expression and the first select's collation.
                  let shown := ((cs.zip names).zip firstCols).map fun ((c, n), f) =>
                    { c with name := n, collation := f.collation }
                  let kept ← rows.filterM fun r => do
                    let frame : Frame := { name := p.frame, columns := shown, values := r, rowid := none, merged := [] }
                    let rowEnv := { env with scopes := [[frame]], aliases := [], group := none }
                    conds.allM fun c => do pure ((← evalExpr fuel rowEnv c).truth? == some true)
                  pure (cs, kept)
            | none => pure arms
          let colls := cols.map fun c => c.collation.getD .binary
          let rows ← if orderBy.isEmpty then
              pure (setRows colls ((arms.head?.map (·.2)).getD []) (ops.zip ((arms.drop 1).map (·.2))))
            else do
              let faces ← cores.mapM (coreFace fuel env)
              let rules ← compoundRules faces cols orderBy
              pure (mergeSelects firstCols.length colls rules (arms.length + 1) (arms.map (·.2)) ops)
          -- Read as a table, a column has the first select's collation.
          pure { columns := (cols.zip firstCols).map fun (c, f) => { c with collation := f.collation },
                 rows := window off lim rows, lastSelect := (arms.getLast?.map (·.1)).getD [] }
termination_by structural fuel

/-- The affinity an expression carries where it is compared (see `Env.affinityOf`); a scalar
subquery carries that of its last select's first column. -/
def exprAffinity (fuel : Nat) (env : Env) (e : Expr) : Eval (Option Affinity) :=
  match fuel with
  | 0 => pure none
  | fuel + 1 =>
    match e with
    | .collate x _ => exprAffinity fuel env x
    | .scalar q =>
      let reads := match q.lastCore with
        | .select _ (.expr x _ _ :: _) _ _ _ _ _ =>
          match x.withoutCollate with
          | .column _ _ _ | .scalar _ => true
          | _ => false
        | .select _ _ _ _ _ _ _ => true
        | .values _ => false
      if reads then do
        let rel ← evalQuery fuel { env with aliases := [], group := none } q
        pure (rel.lastColumns.head?.bind (·.affinity))
      else
        match q.lastCore with
        | .select _ (.expr x _ _ :: _) _ _ _ _ _ => pure (env.affinityOf x)
        | _ => pure none
    | _ => pure (env.affinityOf e)
termination_by structural fuel

/-- What a term of a compound query's ordering can name in one of its selects, found the way
checking the select finds it: its result expressions, their `AS` names, and its rows' columns
under the names given there. -/
def coreFace (fuel : Nat) (env : Env) (core : Core) : Eval SelectFace :=
  match fuel with
  | 0 => fail "query nested too deeply"
  | fuel + 1 =>
    match core with
    | .values rows =>
      pure { env := { env with scopes := [[]], aliases := [], group := none }, exprs := rows.headD [],
             aliases := (rows.headD []).map fun _ => none }
    | .select _ columns source _ _ _ _ => do
      let shape ← match source with
        | some s => pure (← evalSource fuel env s []).shape
        | none => pure []
      let items ← expandColumns shape columns
      let aliases := items.filterMap fun (n, e, a) => if a.isSome then some (n, e) else none
      pure { env := { env with scopes := [shape], aliases := aliases, group := none },
             exprs := items.map (·.2.1), aliases := items.map (·.2.2) }
termination_by structural fuel

/-- Binds common tables in order; one that reads itself runs recursively. `uses` tells how many
times the statement reads a table of a name: a common table read once that is neither
materialized nor recursive is also kept as its query, so that conditions of the select reading
it can be copied into it. -/
def withCtes (fuel : Nat) (env : Env) (ctes : List Cte) (uses : String → Nat) : Eval Env :=
  match fuel with
  | 0 => fail "query nested too deeply"
  | fuel + 1 =>
    match ctes with
    | [] => pure env
    | .mk name columns materialized q :: rest => do
      let own := { env with writtenNames := true, regroupsCompounds := false }
      let recursive := match q with
        | .mk _ _ first more _ _ _ => (first :: more.map (·.2)).any (Core.mentions name)
      let rel ← if recursive then recursiveCte fuel own name columns q else evalQuery fuel own q
      let rel ← renameColumns ("table " ++ name) columns rel
      let others := env.pushableCtes.filter fun (n, _) => !sameName n name
      let pushable := if recursive || materialized || uses name ≥ 2 then others else (name, columns, q) :: others
      withCtes fuel { env with ctes := (name, rel) :: env.ctes, pushableCtes := pushable } rest uses
termination_by structural fuel

/-- The rows of a recursive common table: the selects that do not read it give the first rows;
each row taken from the queue is produced and fed to the selects that read it. -/
def recursiveCte (fuel : Nat) (env : Env) (name : String) (columns : List String) (q : Query) :
    Eval Relation :=
  match fuel with
  | 0 => fail "query nested too deeply"
  | fuel + 1 =>
    match q with
    | .mk _ _ first more orderBy limit offset => do
      let cores := (CompoundOp.unionAll, first) :: more
      let initial := cores.takeWhile fun (_, c) => !c.mentions name
      let recursive := cores.drop initial.length
      let isUnion := match recursive.head? with
        | some (op, _) => op == .union
        | none => false
      match initial with
      | [] => fail ("recursive reference in a subquery: " ++ name)
      | (_, c0) :: initRest => do
        let (cols, rows0) ← evalCore fuel env c0 [] none
        let more ← initRest.mapM fun (_, c) => evalCore fuel env c [] none
        if more.any (·.1.length != cols.length) then
          fail "SELECTs to the left and right of a compound operator do not have the same number of result columns"
        let startCols := compoundColumns cols (more.map (·.1))
        let start : Relation :=
          { columns := startCols,
            rows := setRows (startCols.map fun c => c.collation.getD .binary) rows0
              ((initRest.map (·.1)).zip (more.map (·.2))) }
        let start ← renameColumns ("table " ++ name) columns start
        let colls := start.columns.map fun c => c.collation.getD .binary
        let startRows := if isUnion then distinctRows colls start.rows else start.rows
        let lim ← match limit with
          | some e => do
            let n ← countValue (← evalExpr fuel env e)
            pure (if n < 0 then none else some n.toNat)
          | none => pure none
        let off ← match offset with
          | some e => do
            let n ← countValue (← evalExpr fuel env e)
            pure (if n < 0 then 0 else n.toNat)
          | none => pure 0
        let rules ← outputRules start.columns orderBy
        let cap := lim.map (· + off)
        let out ← cteLoop fuel env name start.columns (recursive.map (·.2)) isUnion
          (rules.map (·.1)) (rules.map (·.2)) cap startRows [] startRows
        pure { columns := start.columns, rows := window off lim out }
termination_by structural fuel

/-- Produces the rows of a recursive common table from its queue. -/
def cteLoop (fuel : Nat) (env : Env) (name : String) (cols : List ColumnInfo) (steps : List Core)
    (isUnion : Bool) (keyIdx : List Nat) (rules : List OrderRule) (cap : Option Nat)
    (queue out seen : List (List Datum)) :
    Eval (List (List Datum)) :=
  match fuel with
  | 0 => fail "recursive query ran too long"
  | fuel + 1 =>
    if cap == some out.length then pure out
    else
      let pick : Option (List Datum × List (List Datum)) :=
        if rules.isEmpty then
          match queue with
          | r :: rest => some (r, rest)
          | [] => none
        else
          let indexed := (List.range queue.length).zip queue
          match indexed.foldl (fun (best : Option (Nat × List Datum)) (i, r) =>
              match best with
              | none => some (i, r)
              | some (j, b) =>
                let key (x : List Datum) := keyIdx.map fun k => x.getD k .null
                if compareKeys rules (key r) (key b) == .lt then some (i, r) else some (j, b)) none with
          | some (i, r) => some (r, queue.eraseIdx i)
          | none => none
      match pick with
      | none => pure out
      | some (row, rest) => do
        let env' := { env with ctes := (name, { columns := cols, rows := [row] }) :: env.ctes }
        let fresh ← steps.mapM fun c => do
          let (_, rows) ← evalCore fuel env' c [] none
          pure rows
        let fresh := fresh.flatten
        let colls := cols.map fun c => c.collation.getD .binary
        let (fresh, seen) := if isUnion then
            let f := distinctRows colls (fresh.filter fun r => !seen.any (compareRows colls · r == .eq))
            (f, seen ++ f)
          else (fresh, seen)
        cteLoop fuel env name cols steps isUnion keyIdx rules cap (rest ++ fresh) (out ++ [row]) seen
termination_by structural fuel

/-- One select or list of rows: its columns and rows, sorted by an ordering when one is given. -/
def evalCore (fuel : Nat) (env : Env) (core : Core) (orderBy : List OrderTerm) (limit : Option Expr) :
    Eval (List ColumnInfo × List (List Datum)) :=
  match fuel with
  | 0 => fail "query nested too deeply"
  | fuel + 1 =>
    match core with
    | .values rows => do
      let env' := { env with aliases := [], group := none }
      let vals ← rows.mapM fun r => r.mapM (evalExpr fuel env')
      let width := (vals.head?.map List.length).getD 0
      if vals.any (·.length != width) then fail "all VALUES must have the same number of terms"
      else
        let cols := (List.range width).map fun i =>
          { name := "column" ++ toString (i + 1), affinity := none, collation := none, declType := none,
            kinds := rows.foldl (fun m r => m ||| env'.valueKinds 10000 (r.getD i (.literal .null))) 0 : ColumnInfo }
        pure (cols, vals)
    | .select distinct columns source filter groupBy having windows => do
      -- A plain subquery read by a query that aggregates is merged into it, so its rows stand for
      -- groups there too.
      let aggregates := !groupBy.isEmpty || having.isSome || columns.any fun c =>
        match c with
        | .expr e _ _ => hasAggregate 10000 e
        | _ => false
      let src ← match source with
        | none => pure { shape := [], rows := [[]] }
        | some s =>
          evalSource fuel (if aggregates && s.isPlainSubquery then { env with searchFunctions := false } else env) s
            ((filter.map Expr.conjuncts).getD [])
      let filter := filter.map (markTextSearches src.shape)
      let items ← expandColumns src.shape columns
      let exprs := items.map (·.2.1)
      let aliasNames := items.map (·.2.2)
      let aliases := items.filterMap fun (n, e, a) => if a.isSome then some (n, e) else none
      let rowEnv (r : List Frame) : Env :=
        { env with scopes := r :: env.scopes, aliases := aliases, group := none }
      let shapeEnv := rowEnv (nullRow src.shape)
      let searches ← ((filter.map (fixedSearches src.shape 10000)).getD []).mapM fun (a, qe) => do
        match parsedSearch src.shape a (← evalExpr fuel shapeEnv qe) with
        | .error e => fail e
        | .ok (f, _, s) => pure (f.name, s)
      let src := { src with rows := withFindings env.db.store searches src.rows }
      let infos ← items.mapM fun (n, e, a) => do
        columnInfoOf shapeEnv n e (← exprAffinity fuel shapeEnv e) a.isSome env.writtenNames
      let orderExprs := orderBy.map fun (.mk e _ _) => e
      let misuse := ((exprs.map (windowMisuse 10000 true) ++
          (having.toList ++ filter.toList).map (windowMisuse 10000 false) ++
          orderExprs.map (windowMisuse 10000 true) ++ groupBy.map (windowMisuse 10000 false))).findSome? id
      match misuse with
      | some m => fail m
      | none => pure ()
      -- An `ORDER BY` term naming a result column, and a name in a term standing for one, hold
      -- a copy of that column's window calls.
      let named := orderExprs.map fun e =>
        match outputIndex? "ORDER BY" aliasNames e with
        | some (.ok k) => some k
        | _ => none
      let orderCalls := (orderExprs.zip named).flatMap fun (e, k) =>
        match k with
        | some k => (windowCalls 10000 (exprs.getD k e)).map fun c => (c, false)
        | none => orderTermCalls shapeEnv 10000 e
      let siteCalls := (exprs.flatMap (windowCalls 10000)).map (fun c => (c, true)) ++ orderCalls
      let plans ← (siteCalls.map (·.1)).mapM (planWindowCall windows)
      let own := siteCalls.map (·.2)
      let aggregate := !groupBy.isEmpty || having.isSome ||
        (exprs ++ orderExprs).any (hasAggregate 10000)
      let rules ← orderBy.mapM fun (.mk e desc nulls) => do
        let coll ← match explicitCollation e, outputIndex? "ORDER BY" aliasNames e with
          | none, some (.ok k) => shapeEnv.collationOf (exprs.getD k (.literal .null))
          | _, _ => shapeEnv.collationOf e
        pure { desc := desc, nulls := nulls, collation := coll.getD .binary : OrderRule }
      let wantedOrder : List OrderKey := (orderBy.zip rules).map fun (t, rule) =>
        match t with
        | .mk e desc nulls =>
          let e := match outputIndex? "ORDER BY" aliasNames e with
            | some (.ok k) => exprs.getD k e
            | _ => e
          { expr := e, desc := desc, collation := rule.collation,
            bigNull := (desc && nulls == .first) || (!desc && nulls == .last) }
      let groupTerms : Option (List Expr) := groupBy.mapM fun g =>
        match outputIndex? "GROUP BY" aliasNames g with
        | some (.ok k) =>
          match g with
          | .column _ _ _ => some g
          | _ => some (exprs.getD k g)
        | some (.error _) => none
        | none => some g
      let sameLength := wantedOrder.length == groupBy.length
      let groupKeys ← (groupTerms.getD []).zipIdx.mapM fun (g, i) => do
        let coll ← shapeEnv.collationOf g
        pure { expr := g, desc := sameLength && (wantedOrder[i]?).any (·.desc), bigNull := false,
               collation := coll.getD .binary : OrderKey }
      let groupDesc := groupKeys.map (·.desc)
      let (src, groupsInOrder) := match env.soleTable? source with
        | some (t, frameName) =>
          if !plans.isEmpty then (src, false)
          else
            let ctx : ScanContext := { table := t, frame := frameName, env := shapeEnv }
            let (keys, grouping, distinctRows) :=
              if aggregate then
                if groupBy.isEmpty || groupTerms.isNone then ([], false, false) else (groupKeys, true, false)
              else if !wantedOrder.isEmpty then (wantedOrder, false, false)
              else if distinct then
                ((exprs.zip infos).map fun ((e, c) : Expr × ColumnInfo) =>
                  { expr := e, desc := false, bigNull := false, collation := c.collation.getD .binary : OrderKey },
                  false, true)
              else ([], false, false)
            let sortByGroup := grouping && sameLength && !wantedOrder.any (·.bigNull) &&
              (groupKeys.zip wantedOrder).all fun (g, o) => exprSame 10000 g.expr o.expr
            let colUsed := ((exprs ++ filter.toList ++ groupBy ++ having.toList ++ orderExprs).flatMap
              (ctx.reads 10000)).filterMap id |>.eraseDups
            let fixedLimit : Option Int := if aggregate then none else
              (limit.bind (·.termInteger?)).bind fun n => if n > 0 then some (logEst n.toNat) else none
            let plan := ctx.plan (env.db.store.probes t)
              { filter := filter, keys := keys, grouping := grouping, distinctRows := distinctRows,
                sortByGroup := sortByGroup, results := exprs.length, limit := fixedLimit,
                wantDistinct := distinct && !aggregate, colUsed := colUsed }
            ({ src with rows := plan.arrange src.rows }, grouping && plan.ordered)
        | none => (src, false)
      let rows ← src.rows.filterM fun r => do
        match filter with
        | none => pure true
        | some f => keeps fuel (rowEnv r) f
      let envs ← if aggregate then do
          let groups ← if groupBy.isEmpty then pure [rows]
            else groupRows fuel rowEnv exprs aliasNames groupBy shapeEnv groupsInOrder groupDesc rows
          let calls := (exprs ++ having.toList ++ orderExprs).flatMap (minMaxCalls 10000)
          let calls ← calls.mapM fun (isMax, a, f) => do
            pure (isMax, a, f, ((← shapeEnv.collationOf a).getD .binary))
          let outs ← groups.mapM fun g => do
            let rep ← representative fuel rowEnv calls (nullRow src.shape) g
            let genv := { rowEnv rep with group := some g, searchFunctions := false }
            let keep ← match having with
              | none => pure true
              | some h => keeps fuel genv h
            pure (if keep then some genv else none)
          pure (outs.filterMap id)
        else pure (rows.map rowEnv)
      let windowed ← computeWindows fuel shapeEnv plans (windowClasses plans own)
        (envs.map fun e => (e, plans.map fun _ => Datum.null))
      let produced ← windowed.mapM fun (renv, ws) => do
        let (exprs', rest) := replaceWindowCallsIn 10000 ws exprs
        -- A term naming a result column with window calls gives that column its copy's values
        -- (the last such term's), the column being read back from the sort key; rows made
        -- distinct keep their own.
        let (orderRev, copies, _) := (orderExprs.zip named).foldl
          (fun (acc, copies, vs) (e, k) =>
            match k with
            | some k =>
              let source := exprs.getD k e
              let (c, vs') := replaceWindowCalls 10000 vs source
              (e :: acc, if (windowCalls 10000 source).isEmpty then copies else (k, c) :: copies, vs')
            | none =>
              let (e', vs') := replaceOrderCalls shapeEnv 10000 vs e
              (e' :: acc, copies, vs')) ([], [], rest)
        let orderExprs' := orderRev.reverse
        let exprs' := if distinct then exprs' else
          exprs'.mapIdx fun i x => ((copies.find? (·.1 == i)).map (·.2)).getD x
        let orderBy' := (orderBy.zip orderExprs').map fun (t, e) =>
          match t with
          | .mk _ desc nulls => OrderTerm.mk e desc nulls
        let rowAliases := (items.zip exprs').filterMap fun ((n, _, a), e) =>
          if a.isSome then some (n, e) else none
        let vals ← exprs'.mapM (evalExpr fuel { renv with aliases := [] })
        let keys ← orderKeys fuel { renv with aliases := rowAliases } aliasNames vals orderBy'
        pure (vals, keys)
      let colls := infos.map fun c => c.collation.getD .binary
      let produced := if distinct then
          (produced.foldl (fun acc p =>
            if acc.any (fun (q : List Datum × List Datum) => compareRows colls q.1 p.1 == .eq) then acc
            else p :: acc) []).reverse
        else produced
      pure (infos, (sortByKeys rules produced).map (·.1))
termination_by structural fuel

/-- The values of a select's window calls at each of its rows, with the rows in the order the
windows leave them. Calls over the same window form a class (`classes` lists the positions of
each class's calls); the classes run from the last to the first, each sorting the rows stably by
its partitioning and ordering and then computing its calls partition by partition. Each row
carries its environment and the values found so far, one per call. -/
def computeWindows (fuel : Nat) (shapeEnv : Env) (plans : List WindowPlan) (classes : List (List Nat))
    (rows : List (Env × List Datum)) : Eval (List (Env × List Datum)) :=
  match fuel with
  | 0 => fail "query nested too deeply"
  | fuel + 1 =>
    match classes with
    | [] => pure rows
    | cls :: more => do
      let rows ← computeWindows fuel shapeEnv plans more rows
      match cls.head?.bind (plans[·]?) with
      | none => pure rows
      | some p0 => do
        let fixedEnv := { shapeEnv with aliases := [] }
        let partColls ← p0.partition.mapM fun e => do pure ((← fixedEnv.collationOf e).getD .binary)
        let orderRules ← p0.orderBy.mapM fun (.mk e desc nulls) => do
          let coll ← fixedEnv.collationOf e
          pure { desc := desc, nulls := nulls, collation := coll.getD .binary : OrderRule }
        let keyed ← rows.mapM fun (renv, vs) => do
          let wenv := { renv with aliases := [] }
          let pk ← p0.partition.mapM (evalExpr fuel wenv)
          let ok ← p0.orderBy.mapM fun t => evalExpr fuel wenv t.expr
          pure ((renv, vs), pk ++ ok)
        let partRules := partColls.map fun c => { desc := false, nulls := .natural, collation := c : OrderRule }
        let sorted := sortByKeys (partRules ++ orderRules) keyed
        let np := p0.partition.length
        let indexed := (List.range sorted.length).zip sorted
        let runs := partitionRuns partColls (fun (x : Nat × (Env × List Datum) × List Datum) => x.2.2.take np)
          indexed
        let shape ← if sorted.isEmpty then pure defaultFrame else frameShapeOf fuel fixedEnv p0.frame
        let results ← cls.mapM fun k => do
          match plans[k]? with
          | none => pure (k, [])
          | some p => do
            let fn ← match WindowFn.builtin? p.name with
              | some f => pure f
              | none => do
                let coll ← firstCollation fuel fixedEnv p.args
                pure (WindowFn.aggregate p.name p.star coll (p.args.map textOrigin))
            let vals ← runs.mapM fun run => do
              let wrows ← run.mapM fun (i, (renv, _), keys) => do
                let wenv := { renv with aliases := [] }
                let args ← p.args.mapM (evalExpr fuel wenv)
                let kept ← match p.filter with
                  | none => pure true
                  | some f => keeps fuel wenv f
                pure { index := i, keys := keys.drop np, args := args, kept := kept : WindowRow }
              match partitionValues fn shape orderRules wrows with
              | .ok vs => pure (vs.map (·.2))
              | .error m => fail m
            pure (k, vals.flatten)
        pure (sorted.mapIdx fun i ((renv, vs), _) =>
          (renv, results.foldl (fun acc (k, vals) => acc.set k (vals.getD i .null)) vs))
termination_by structural fuel

/-- A frame with its offsets evaluated and checked: counts of rows or groups must be whole
numbers and values of `RANGE` frames numbers, none of them negative. An offset that reads a
column, a parameter or a subquery is `NULL`. -/
def frameShapeOf (fuel : Nat) (env : Env) (frame : WindowFrame) : Eval FrameShape :=
  match fuel with
  | 0 => fail "query nested too deeply"
  | fuel + 1 =>
    match frame with
    | .mk unit s f exclude => do
      let edge (b : FrameBound) (which : String) : Eval Edge := do
        match b with
        | .unboundedPreceding | .unboundedFollowing => pure .unbounded
        | .currentRow => pure .current
        | .preceding e | .following e =>
          let before := b.rank == 1
          let v ← if isFixedOffset 10000 e then evalExpr fuel env e else pure .null
          if unit == .range then
            match v.withAffinity .numeric with
            | .integer i =>
              if i < 0 then fail ("frame " ++ which ++ " offset must be a non-negative number")
              else pure (.offset before (.integer i))
            | .real x =>
              if x.lt (Binary64.ofInt 0) then fail ("frame " ++ which ++ " offset must be a non-negative number")
              else pure (.offset before (.real x))
            | _ => fail ("frame " ++ which ++ " offset must be a non-negative number")
          else
            match v.withAffinity .numeric with
            | .integer i =>
              if i < 0 then fail ("frame " ++ which ++ " offset must be a non-negative integer")
              else pure (.offset before (.integer i))
            | .real x =>
              if x.isIntegral && 0 ≤ x.truncate then pure (.offset before (.integer x.truncate))
              else fail ("frame " ++ which ++ " offset must be a non-negative integer")
            | _ => fail ("frame " ++ which ++ " offset must be a non-negative integer")
      let start ← edge s "starting"
      let finish ← edge f "ending"
      pure { unit := unit, start := start, finish := finish, exclude := exclude }
termination_by structural fuel

/-- The keys of a row for an ordering: result columns by position or alias, else expressions. -/
def orderKeys (fuel : Nat) (env : Env) (aliasNames : List (Option String)) (vals : List Datum)
    (terms : List OrderTerm) : Eval (List Datum) :=
  match fuel with
  | 0 => fail "query nested too deeply"
  | fuel + 1 =>
    terms.mapM fun (.mk e _ _) => do
      match outputIndex? "ORDER BY" aliasNames e with
      | some (.ok k) => pure (vals.getD k .null)
      | some (.error m) => fail m
      | none => evalExpr fuel env e
termination_by structural fuel

/-- Groups rows by the values of grouping terms, in the order of those values. -/
def groupRows (fuel : Nat) (rowEnv : List Frame → Env) (exprs : List Expr)
    (aliasNames : List (Option String)) (groupBy : List Expr) (shapeEnv : Env) (inOrder : Bool)
    (desc : List Bool) (rows : List (List Frame)) : Eval (List (List (List Frame))) :=
  match fuel with
  | 0 => fail "query nested too deeply"
  | fuel + 1 => do
    let terms ← groupBy.mapM fun g =>
      match outputIndex? "GROUP BY" aliasNames g with
      | some (.ok k) =>
        match g with
        | .column _ _ _ => pure g
        | _ => pure (exprs.getD k g)
      | some (.error m) => fail m
      | none => pure g
    let colls ← terms.mapM fun t => do pure ((← shapeEnv.collationOf t).getD .binary)
    let keyed ← rows.mapM fun r => do
      let ks ← terms.mapM (evalExpr fuel (rowEnv r))
      pure (ks, r)
    let sorted := if inOrder then keyed else keyed.mergeSort fun a b => compareDirected colls desc a.1 b.1 != .gt
    let grouped := sorted.foldr (fun (ks, r) (acc : List (List Datum × List (List Frame))) =>
      match acc with
      | (ks', g) :: more => if compareRows colls ks ks' == .eq then (ks, r :: g) :: more else (ks, [r]) :: acc
      | [] => [(ks, [r])]) []
    pure (grouped.map (·.2))
termination_by structural fuel

/-- The row whose plain columns a group shows: the first, or under `min`/`max` the last row that
set every extreme it was compared for. -/
def representative (fuel : Nat) (rowEnv : List Frame → Env)
    (calls : List (Bool × Expr × Option Expr × Collation)) (empty : List Frame)
    (g : List (List Frame)) : Eval (List Frame) :=
  match fuel with
  | 0 => fail "query nested too deeply"
  | fuel + 1 =>
    match g with
    | [] => pure empty
    | first :: _ =>
      if calls.isEmpty then pure first
      else do
        let (_, chosen) ← g.foldlM (fun (acc : List (Option Datum) × List Frame) r => do
            let (bests, chosen) := acc
            let steps ← (calls.zip bests).mapM fun ((isMax, a, f, coll), best) => do
              let active ← match f with
                | none => pure true
                | some c => keeps fuel (rowEnv r) c
              if !active then pure (best, false)
              else
                let v ← evalExpr fuel (rowEnv r) a
                match best with
                | none => pure (if v == .null then (none, false) else (some v, false))
                | some b =>
                  if v == .null then pure (some b, true)
                  else
                    let c := Datum.compareWith coll b v
                    if (isMax && c == .lt) || (!isMax && c == .gt) then pure (some v, false)
                    else pure (some b, true)
            let skipped := steps.any (·.2)
            pure (steps.map (·.1), if skipped then chosen else r)) (calls.map fun _ => none, first)
        pure chosen
termination_by structural fuel

/-- The rows of a source, offering the conditions `conds` of the reading select's `WHERE` to the
compound queries it reads (see `Pushed`). A source joined on its right by a `LEFT JOIN` is offered
only the join's own conditions, and neither side of a `RIGHT` or `FULL` join is offered any; an
inner join's conditions are offered to both its sides. -/
def evalSource (fuel : Nat) (env : Env) (s : Source) (conds : List Expr) : Eval SourceRows :=
  match fuel with
  | 0 => fail "query nested too deeply"
  | fuel + 1 =>
    let offered (frame : String) (columns : List String) : Option Pushed :=
      if conds.isEmpty then none else some { frame := frame, columns := columns, conds := conds }
    let sides (kind : JoinKind) (on : Option Expr) : List Expr × List Expr :=
      let own := (on.map Expr.conjuncts).getD []
      match kind with
      | .inner | .cross => (conds ++ own, conds ++ own)
      | .left => (conds, own)
      | .right | .full => ([], [])
    match s with
    | .table name asName => namedSource fuel env name asName conds
    | .query q asName => do
      let rel ← evalQueryWith fuel { env with aliases := [], group := none, writtenNames := true } q
        (offered (asName.getD "") [])
      pure (relationRows (asName.getD "") (uniqueColumnNames rel))
    | .function name args asName => functionRows fuel env name args (asName.getD name)
    | .join l natural kind (.function name args asName) on usingColumns => do
      let left ← evalSource fuel env l (sides kind on).1
      match functionShape env name (asName.getD name) with
      | none => fail (functionSourceError env name)
      | some rightShape =>
        let names := if natural then
            (visibleNames rightShape).filter fun n => (visibleNames left.shape).any (sameName · n)
          else usingColumns
        let missing := names.filter fun n =>
          !(visibleNames left.shape).any (sameName · n) || !(visibleNames rightShape).any (sameName · n)
        match missing with
        | n :: _ => fail ("cannot join using column " ++ n ++ " - column not present in both tables")
        | [] => do
          let parts ← left.rows.mapM fun l => do
            let right ← functionRows fuel { env with scopes := l :: env.scopes } name args (asName.getD name)
            let joined ← joinRows fuel env { shape := left.shape, rows := [l] } right kind on names
            pure joined.rows
          pure { shape := left.shape ++ markMerged names rightShape, rows := parts.flatten }
    | .join l natural kind r on usingColumns => do
      let left ← evalSource fuel env l (sides kind on).1
      let right ← evalSource fuel env r (sides kind on).2
      let names := if natural then
          (visibleNames right.shape).filter fun n => (visibleNames left.shape).any (sameName · n)
        else usingColumns
      let missing := names.filter fun n =>
        !(visibleNames left.shape).any (sameName · n) || !(visibleNames right.shape).any (sameName · n)
      match missing with
      | n :: _ => fail ("cannot join using column " ++ n ++ " - column not present in both tables")
      | [] => joinRows fuel env left right kind on names
termination_by structural fuel

def joinRows (fuel : Nat) (env : Env) (left right : SourceRows) (kind : JoinKind) (on : Option Expr)
    (names : List String) : Eval SourceRows :=
  match fuel with
  | 0 => fail "query nested too deeply"
  | fuel + 1 => do
    let rightShape := markMerged names right.shape
    let on := on.map (markTextSearches (left.shape ++ rightShape))
    let pairMatches (l r : List Frame) : Eval Bool := do
      let usingOk := names.all fun n =>
        match findInFrames none n l, findInFrames none n r with
        | .value a ia, .value b ib =>
          let aff := combineAffinity (ia.bind (·.affinity)) (ib.bind (·.affinity))
          let coll := ((ia.bind (·.collation)).orElse fun _ => ib.bind (·.collation)).getD .binary
          compareValues aff coll a b == some .eq
        | _, _ => false
      if !usingOk then pure false
      else
        match on with
        | none => pure true
        | some c =>
          let env' := { env with scopes := (l ++ markMerged names r) :: env.scopes, aliases := [], group := none }
          keeps fuel env' c
    let pairs ← left.rows.mapM fun l => do
      let ms ← right.rows.filterM (pairMatches l)
      pure (l, ms)
    let leftPart := pairs.flatMap fun (l, ms) =>
      if ms.isEmpty && (kind == .left || kind == .full) then [l ++ nullRow rightShape]
      else ms.map fun r => l ++ markMerged names r
    let rightPart ← if kind == .right || kind == .full then
        right.rows.filterM fun r => do
          let hit ← left.rows.anyM fun l => pairMatches l r
          pure !hit
      else pure []
    pure { shape := left.shape ++ rightShape,
           rows := leftPart ++ rightPart.map fun r => nullRow left.shape ++ markMerged names r }
termination_by structural fuel

/-- The rows of a source written as a function: a table-valued function, or a virtual table
whose hidden columns the arguments fix. -/
def functionRows (fuel : Nat) (env : Env) (name : String) (args : List Expr) (frameName : String) :
    Eval SourceRows :=
  match fuel with
  | 0 => fail "query nested too deeply"
  | fuel + 1 =>
    match tableFunction? name with
    | some f => functionSource fuel env f args frameName
    | none =>
      match env.db.store.table? name with
      | some t =>
        if t.module.isSome then virtualFunctionSource fuel env t args frameName
        else fail (functionSourceError env name)
      | none => fail (functionSourceError env name)
termination_by structural fuel

/-- The rows of a virtual table read as a function: each argument fixes one of its hidden
columns in turn, as a `column = argument` term of a filter (for the newer full-text index, a
search). -/
def virtualFunctionSource (fuel : Nat) (env : Env) (t : Table) (args : List Expr)
    (frameName : String) : Eval SourceRows :=
  match fuel with
  | 0 => fail "query nested too deeply"
  | fuel + 1 => do
    let hidden := (t.module.map (·.hiddenNames t.name)).getD []
    if args.length > hidden.length then
      fail ("too many arguments on " ++ t.name ++ "() - max " ++ toString hidden.length)
    let base := tableRows frameName t
    let terms := (hidden.zip args).map fun (h, a) => Expr.binary .eq (.column (some frameName) h false) a
    match terms with
    | [] => pure base
    | c :: cs =>
      let cond := markTextSearches base.shape (cs.foldl (.binary .and) c)
      let shapeEnv := { env with scopes := nullRow base.shape :: env.scopes, aliases := [], group := none }
      let searches ← (fixedSearches base.shape 10000 cond).mapM fun (a, qe) => do
        match parsedSearch base.shape a (← evalExpr fuel shapeEnv qe) with
        | .error e => fail e
        | .ok (f, _, s) => pure (f.name, s)
      let rows := withFindings env.db.store searches base.rows
      let kept ← rows.filterM fun r =>
        keeps fuel { env with scopes := r :: env.scopes, aliases := [], group := none } cond
      pure { base with rows := kept }
termination_by structural fuel

/-- The rows of a named source: a common table, the schema table, a table or a view. A view, or a
common table whose conditions may be copied into it, is offered the conditions `conds`. -/
def namedSource (fuel : Nat) (env : Env) (name : String) (asName : Option String) (conds : List Expr) :
    Eval SourceRows :=
  match fuel with
  | 0 => fail "query nested too deeply"
  | fuel + 1 =>
    let frameName := asName.getD name
    let offered (columns : List String) : Option Pushed :=
      if conds.isEmpty then none else some { frame := frameName, columns := columns, conds := conds }
    match env.ctes.find? fun (n, _) => sameName n name with
    | some (_, rel) =>
      match (if conds.isEmpty then none else env.pushableCtes.find? fun (n, _) => sameName n name) with
      | some (_, columns, body) => do
        let rel ← evalQueryWith fuel
          { env with aliases := [], group := none, writtenNames := true, regroupsCompounds := false } body
          (offered columns)
        let rel ← renameColumns ("table " ++ name) columns rel
        pure (relationRows frameName (uniqueColumnNames rel))
      | none => pure (relationRows frameName (uniqueColumnNames rel))
    | none =>
      if isSchemaTableName name then pure (relationRows frameName (schemaRelation env.db.store name))
      else
        match env.db.store.table? name with
        | some t => pure (tableRows frameName t)
        | none =>
          match env.db.store.view? name with
          | some v => do
            let rel ← evalQueryWith fuel
              { env with scopes := [], aliases := [], group := none, ctes := [], pushableCtes := [],
                         writtenNames := false, regroupsCompounds := false } v.query (offered v.columns)
            let rel ← renameColumns ("view " ++ v.name) v.columns rel
            pure (relationRows frameName (uniqueColumnNames rel))
          | none =>
            match tableFunction? name with
            | some f => functionSource fuel env f [] frameName
            | none => fail ("no such table: " ++ name)
termination_by structural fuel

/-- The rows of a table function called with arguments, under a frame name. The catalog's view
columns come from reading each view's query. -/
def functionSource (fuel : Nat) (env : Env) (f : TableFunction) (args : List Expr) (frameName : String) :
    Eval SourceRows :=
  match fuel with
  | 0 => fail "query nested too deeply"
  | fuel + 1 => do
    let values ← args.mapM (evalExpr fuel { env with aliases := [], group := none })
    let viewColumns (v : View) : Except String (List (String × String)) :=
      let rel : Eval Relation := do
        let rel ← evalQuery fuel
          { env with scopes := [], aliases := [], group := none, ctes := [], writtenNames := false } v.query
        renameColumns ("view " ++ v.name) v.columns rel
      match rel with
      | .ok r => .ok ((uniqueColumnNames r).columns.map fun c => (c.name, viewColumnType c))
      | .error (.error m) => .error m
      | .error .ignoreRow => .ok []
    match ({ store := env.db.store, viewColumns := viewColumns } : CatalogSource).functionRows f values with
    | .error m => fail m
    | .ok rows =>
      pure { shape := [f.emptyFrame frameName],
             rows := rows.zipIdx.map fun (vs, i) => [f.frame frameName vs (f.firstRowid + i)] }
termination_by structural fuel

end

end RosterSync.Database

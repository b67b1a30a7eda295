import RosterSync.Database.Exec

/-!
Checking a statement before it runs.

A statement is checked as a whole before any of it runs, so a fault anywhere in it stops it even
where no row would ever reach the fault: in a branch of a `CASE` that is never taken, in a query
that reads no rows, in the program of a trigger the statement would fire.

Every name must reach exactly one column, and every function must exist and take the number of
arguments given (`f(*)` gives none). Aggregate calls stand only in a select's result columns,
and in its `HAVING` and ordering when it groups, never inside another aggregate; calls over
windows stand only in result columns and the ordering. A row value stands only where it is
compared with a row of its size, and a subquery used as a value yields one column. Integer terms
of an ordering or grouping name a result column, and the ordering of a compound query names a
column of one of its selects. The ordering and grouping of a select reach only its own rows. A
table's checks, generated columns and index expressions reach only its own columns and hold no
subquery or parameter; its defaults name no column.

A conjunction with the integer literal zero on a side is that zero as soon as it is read, so
neither side is checked.

Collations are looked up where code is made that compares by them: comparisons, ranges, the
left side of membership tests, `CASE x WHEN`, `min`, `max` and `nullif`, orderings, groupings,
`DISTINCT`, set operators, and the columns of a query read as a table. A condition is first
simplified by its constant sides, and only what is left is looked at. A table's checks are made
into code when a row is inserted, or when an update sets a column they read.

Checking a query also finds the declared types of its columns: a table's column declares its
type, a column of a query read as a table takes the type that the last select of that query
gives it, and a scalar subquery takes the type of its first column.
-/

namespace RosterSync.Database

/-- What an expression may hold where it stands: aggregate calls, calls over windows (with the
windows its select names), subqueries, parameters, functions whose value may change between
calls, and `RAISE` (only in a trigger's program). -/
structure Place where
  aggregates : Bool
  windows : Bool
  subqueries : Bool
  parameters : Bool
  volatile : Bool
  trigger : Bool
  windowDefs : List (String × Window)

/-- A place in a statement where only plain values stand. -/
def Place.plain (trigger : Bool) : Place :=
  { aggregates := false, windows := false, subqueries := true, parameters := true, volatile := true,
    trigger := trigger, windowDefs := [] }

/-- A place in what a table keeps with its definition: a check (which may call functions whose
value changes), a generated column or an index. -/
def Place.kept (volatile : Bool) : Place :=
  { aggregates := false, windows := false, subqueries := false, parameters := false,
    volatile := volatile, trigger := false, windowDefs := [] }

/-- The numbers of arguments a built-in function that is no aggregate takes, for the names such
functions have; `min` and `max` of one value are aggregates. -/
def scalarArity? (name : String) : Option (Nat → Bool) :=
  match name with
  | "changes" | "total_changes" | "last_insert_rowid" | "random" | "sqlite_version"
  | "sqlite_source_id" | "fts5_source_id" | "current_date" | "current_time"
  | "current_timestamp" => some (· == 0)
  | "abs" | "hex" | "length" | "likely" | "unlikely" | "lower" | "upper" | "octet_length"
  | "quote" | "randomblob" | "sign" | "soundex" | "typeof" | "subtype" | "unicode" | "zeroblob"
  | "json" | "jsonb" | "json_error_position" | "json_quote" | "sqlite_compileoption_get"
  | "sqlite_compileoption_used" | "offsets" | "optimize" | "rtreedepth" | "fts5" => some (· == 1)
  | "ltrim" | "rtrim" | "trim" | "round" | "unhex" | "json_array_length" | "json_pretty"
  | "json_type" | "json_valid" | "load_extension" | "matchinfo" | "fts3_tokenizer"
  | "rtreecheck" => some fun n => n == 1 || n == 2
  | "glob" | "instr" | "likelihood" | "nullif" | "ifnull" | "json_patch" | "jsonb_patch"
  | "timediff" | "sqlite_log" | "match" | "rtreenode" => some (· == 2)
  | "like" | "substr" | "substring" => some fun n => n == 2 || n == 3
  | "replace" | "iif" => some (· == 3)
  | "coalesce" | "concat_ws" | "min" | "max" => some (· ≥ 2)
  | "concat" => some (· ≥ 1)
  | "char" | "format" | "printf" | "date" | "time" | "datetime" | "julianday" | "unixepoch"
  | "strftime" | "json_array" | "jsonb_array" | "json_object" | "jsonb_object" | "json_extract"
  | "jsonb_extract" | "json_insert" | "jsonb_insert" | "json_remove" | "jsonb_remove"
  | "json_replace" | "jsonb_replace" | "json_set" | "jsonb_set" | "snippet" | "highlight"
  | "bm25" => some fun _ => true
  | _ => none

/-- The numbers of arguments an aggregate function takes, for the names aggregates have. -/
def aggregateArity? (name : String) : Option (Nat → Bool) :=
  match name with
  | "count" => some (· ≤ 1)
  | "sum" | "total" | "avg" | "min" | "max" | "json_group_array" | "jsonb_group_array" =>
    some (· == 1)
  | "group_concat" => some fun n => n == 1 || n == 2
  | "string_agg" | "json_group_object" | "jsonb_group_object" => some (· == 2)
  | _ => none

/-- What a call names: a function of one row's values, an aggregate, a function that runs only
over windows, nothing, or a function that takes another number of arguments. -/
inductive CallKind where
  | scalar
  | aggregate
  | windowOnly
  | missing
  | badArity
deriving DecidableEq

/-- What a call of a name (in lower case) with a number of arguments names. -/
def callKind (name : String) (n : Nat) : CallKind :=
  if windowOnlyFunctions.contains name then
    if windowArity name n then .windowOnly else .badArity
  else if ((aggregateArity? name).map (· n)).getD false then .aggregate
  else
    match scalarArity? name with
    | some ok => if ok n then .scalar else .badArity
    | none => if (aggregateArity? name).isSome then .badArity else .missing

def collationKnown (n : String) : Eval Unit :=
  match Collation.ofName? n with
  | some _ => pure ()
  | none => fail ("no such collation sequence: " ++ n)

/-- Fails unless the collation written in an expression, if any, exists. -/
def writtenCollationKnown (e : Expr) : Eval Unit :=
  match explicitCollation e with
  | some n => collationKnown n
  | none => pure ()

/-- Whether an expression is a column, looking through casts and unary plus: such an expression
carries its column's collation. -/
def Expr.isColumnLike : Expr → Bool
  | .column _ _ _ => true
  | .cast e _ => e.isColumnLike
  | .unary .plus e => e.isColumnLike
  | _ => false

/-- Fails when the collation a comparison takes is unknown: the one written on its left side,
else the one written on its right side. -/
def compareCollationKnown (a b : Expr) : Eval Unit :=
  match explicitCollation a with
  | some n => collationKnown n
  | none => writtenCollationKnown b

/-- Fails when the collation taken from a list of expressions is unknown: the first that carries
a written collation or a column's gives it. Functions that compare their arguments, and set
operators for each column, take their collation so. -/
def firstCollationKnown : List Expr → Eval Unit
  | [] => pure ()
  | a :: rest =>
    match explicitCollation a with
    | some n => collationKnown n
    | none => if a.isColumnLike then pure () else firstCollationKnown rest

/-- The result expressions the last select of a query writes out, when it writes out all of them
(no `*`). -/
def Query.lastResults : Query → List Expr
  | .mk _ _ first rest _ _ _ =>
    match (rest.getLast?.map (·.2)).getD first with
    | .select _ cols _ _ _ _ _ =>
      let es := cols.filterMap fun c =>
        match c with
        | .expr e _ _ => some e
        | _ => none
      if es.length == cols.length then es else []
    | .values rows => rows.getLastD []

/-- The values a side of a comparison holds: the items of a row value, the result expressions of
a subquery of more than one column, else the side itself. -/
def sideItems (e : Expr) : List Expr :=
  match e with
  | .row items => items
  | .scalar q => if q.lastResults.length > 1 then q.lastResults else [e]
  | _ => [e]

/-- Fails when a comparison of two sides takes an unknown collation; row values compare item by
item. -/
def comparisonCollationsKnown (a b : Expr) : Eval Unit :=
  let xs := sideItems a
  let ys := sideItems b
  if xs.length > 1 || ys.length > 1 then (xs.zip ys).forM fun (x, y) => compareCollationKnown x y
  else compareCollationKnown a b

/-- Fails when the code made for an expression would look up a collation that does not exist. A
condition (`cond`) is simplified by its constant sides first, and only what is left is made into
code; subqueries are checked on their own. -/
def codedCollations : Nat → Bool → Expr → Eval Unit
  | 0, _, _ => pure ()
  | fuel + 1, cond, e =>
    let e := if cond then simplifyAndOr 10000 e else e
    if e.foldsFalse then pure () else
    match e with
    | .binary .and a b | .binary .or a b => do
      codedCollations fuel cond a
      codedCollations fuel cond b
    | .unary .not a => codedCollations fuel cond a
    | .binary op a b => do
      if op.isComparison then comparisonCollationsKnown a b
      codedCollations fuel false a
      codedCollations fuel false b
    | .between _ x lo hi => do
      comparisonCollationsKnown x lo
      comparisonCollationsKnown x hi
      [x, lo, hi].forM (codedCollations fuel false)
    | .inList _ x items => do
      writtenCollationKnown x
      (x :: items).forM (codedCollations fuel false)
    | .inQuery _ x q => do
      match q.lastResults with
      | [r] => compareCollationKnown x r
      | rs => ((sideItems x).zip rs).forM fun (y, r) => compareCollationKnown y r
      codedCollations fuel false x
    | .caseOf o arms els => do
      match o with
      | some x => do
        arms.forM fun (w, _) => comparisonCollationsKnown x w
        codedCollations fuel false x
      | none => pure ()
      arms.forM fun (w, t) => do
        codedCollations fuel o.isNone w
        codedCollations fuel false t
      match els with
      | some x => codedCollations fuel false x
      | none => pure ()
    | .call name _ _ args ord filter _ => do
      let lname := name.toLower
      if lname == "min" || lname == "max" || lname == "nullif" then firstCollationKnown args
      ord.forM fun t => writtenCollationKnown t.expr
      match lname, args with
      | "iif", [c, x, y] => do
        codedCollations fuel true c
        codedCollations fuel false x
        codedCollations fuel false y
      | _, _ => args.forM (codedCollations fuel false)
      ord.forM fun t => codedCollations fuel false t.expr
      match filter with
      | some f => codedCollations fuel true f
      | none => pure ()
    | _ => e.children.forM (codedCollations fuel false)

/-- Checks a column reference: it must reach one column, or an alias whose expression may stand
where the reference does; a double-quoted name that reaches nothing is a string, and `TRUE` and
`FALSE` are values. -/
def resolveColumn (env : Env) (place : Place) (t : Option String) (n : String) (quoted : Bool) :
    Eval Unit :=
  match env.lookup t n with
  | .value _ _ => pure ()
  | .aliased a =>
    if !place.aggregates && hasAggregate 10000 a then fail ("misuse of aliased aggregate " ++ n)
    else if !place.windows && !(windowCalls 10000 a).isEmpty then
      fail ("misuse of aliased window function " ++ n)
    else pure ()
  | .ambiguous => fail ("ambiguous column name: " ++ columnLabel t n)
  | .none =>
    if t.isNone && (quoted || sameName n "true" || sameName n "false") then pure ()
    else fail ("no such column: " ++ columnLabel t n)

/-- What checking one select finds: what its ordering can name, its result columns' names, and
the types they declare. -/
structure SelectShape where
  face : SelectFace
  names : List String
  types : List (Option String)

/-- What checking a query finds: the columns a table made from it has (the first select's names,
numbered apart where they repeat, with the types the last select declares), the types the first
select declares, and the first select's result expressions. -/
structure QueryShape where
  columns : List ColumnInfo
  firstTypes : List (Option String)
  firstExprs : List Expr

/-- Columns of the given names, numbered apart where they repeat, declaring the given types. -/
def shapeColumns (names : List String) (types : List (Option String)) : List ColumnInfo :=
  let rel : Relation :=
    { columns := names.map fun n => { name := n, affinity := none, collation := none, declType := none },
      rows := [] }
  (uniqueColumnNames rel).columns.mapIdx fun i c => { c with declType := types.getD i none }

/-- The frame of a row of a query read as a table under a name, its values all `NULL`. -/
def shapeFrame (name : String) (cols : List ColumnInfo) : Frame :=
  { name := name, columns := cols, values := cols.map fun _ => .null, rowid := none, merged := [] }

/-- The frame of a table's row under a name, its values all `NULL`. -/
def Table.emptyFrame (t : Table) (name : String) : Frame :=
  t.frameOf name { rowid := 0, values := t.columns.map fun _ => .null }

/-- A frame whose columns and row id are reached only by naming the frame. -/
def Frame.qualifiedOnly (f : Frame) : Frame :=
  { f with merged := f.columns.map (·.name) ++ ["rowid", "oid", "_rowid_"] }

/-- A query's columns renamed by a list of names, which must be as long; no names keep them. -/
def renamedColumns (what : String) (names : List String) (cols : List ColumnInfo) :
    Eval (List ColumnInfo) :=
  if names.isEmpty then pure cols
  else if names.length != cols.length then
    fail (what ++ " has " ++ toString cols.length ++ " values for " ++ toString names.length ++ " columns")
  else pure (shapeColumns names (cols.map (·.declType)))

/-- What checking a compound query finds from its selects: each must yield as many columns,
its ordering must name their columns, and the collations of the columns that its set operators
or its ordering compare (the first select's that carries one, from the left) must exist. -/
def compoundShape (s0 : SelectShape) (more : List SelectShape) (ops : List CompoundOp)
    (orderBy : List OrderTerm) : Eval QueryShape := do
  let width := s0.face.exprs.length
  if more.any (·.face.exprs.length != width) then
    fail "SELECTs to the left and right of a compound operator do not have the same number of result columns"
  let all := s0 :: more
  let ordered ← orderBy.mapM fun t => do
    match compoundColumn (all.map (·.face)) width t.expr with
    | .ok k => do
      writtenCollationKnown t.expr
      pure (k, (explicitCollation t.expr).isSome)
    | .error m => fail m
  let compared := if ops.any (· != .unionAll) then
      (List.range width).filter fun k => !ordered.any fun (j, w) => j == k && w
    else (ordered.filter fun (_, w) => !w).map (·.1)
  compared.forM fun k => firstCollationKnown (all.map fun s => s.face.exprs.getD k (.literal .null))
  let last := more.getLast?.getD s0
  pure { columns := shapeColumns s0.names last.types, firstTypes := s0.types, firstExprs := s0.face.exprs }

mutual

def resolveExpr (fuel : Nat) (env : Env) (place : Place) (e : Expr) : Eval Unit :=
  match fuel with
  | 0 => fail "expression nested too deeply"
  | fuel + 1 =>
    if e.foldsFalse then pure () else
    match e with
    | .literal _ | .number _ _ => pure ()
    | .param _ => if place.parameters then pure () else fail "parameters prohibited here"
    | .column t n q => resolveColumn env place t n q
    | .binary op a b => do
      if op.isComparison then
        let wa ← operandWidth fuel env place a
        let wb ← operandWidth fuel env place b
        if wa != wb then fail "row value misused"
      else
        resolveExpr fuel env place a
        resolveExpr fuel env place b
    | .matching op _ a p esc => do
      if op == .regexp then fail "no such function: REGEXP"
      resolveExpr fuel env place a
      resolveExpr fuel env place p
      match esc with
      | some x => resolveExpr fuel env place x
      | none => pure ()
    | .between _ x lo hi => do
      let wx ← operandWidth fuel env place x
      let wl ← operandWidth fuel env place lo
      let wh ← operandWidth fuel env place hi
      if wx != wl || wx != wh then fail "row value misused"
    | .inList _ x items => do
      let wx ← operandWidth fuel env place x
      if wx == 1 then items.forM (resolveExpr fuel env place)
      else
        items.forM fun i => do
          let w ← operandWidth fuel env place i
          if w != wx then fail "row value misused"
    | .inQuery _ x q => do
      let wx ← operandWidth fuel env place x
      let shape ← subqueryShape fuel env place q
      if shape.columns.length != wx then
        fail ("sub-select returns " ++ toString shape.columns.length ++ " columns - expected " ++ toString wx)
    | .isNull _ a | .cast a _ | .collate a _ | .unary _ a => resolveExpr fuel env place a
    | .caseOf o arms els => do
      match o with
      | some x => do
        let wx ← operandWidth fuel env place x
        arms.forM fun (w, t) => do
          let ww ← operandWidth fuel env place w
          if ww != wx then fail "row value misused"
          resolveExpr fuel env place t
      | none =>
        arms.forM fun (w, t) => do
          resolveExpr fuel env place w
          resolveExpr fuel env place t
      match els with
      | some x => resolveExpr fuel env place x
      | none => pure ()
    | .call _ _ _ _ _ _ _ => resolveCall fuel env place e
    | .exists q => do
      let _ ← subqueryShape fuel env place q
    | .scalar q => do
      let shape ← subqueryShape fuel env place q
      if shape.columns.length != 1 then
        fail ("sub-select returns " ++ toString shape.columns.length ++ " columns - expected 1")
    | .row _ => fail "row value misused"
    | .raise _ _ =>
      if place.trigger then pure () else fail "RAISE() may only be used within a trigger-program"
termination_by structural fuel

/-- Checks a side of a comparison, which may be a row value, and gives how many values it
holds. -/
def operandWidth (fuel : Nat) (env : Env) (place : Place) (e : Expr) : Eval Nat :=
  match fuel with
  | 0 => fail "expression nested too deeply"
  | fuel + 1 =>
    match e with
    | .row items => do
      items.forM (resolveExpr fuel env place)
      pure items.length
    | .scalar q => do
      let shape ← subqueryShape fuel env place q
      pure shape.columns.length
    | _ => do
      resolveExpr fuel env place e
      pure 1
termination_by structural fuel

def subqueryShape (fuel : Nat) (env : Env) (place : Place) (q : Query) : Eval QueryShape :=
  match fuel with
  | 0 => fail "query nested too deeply"
  | fuel + 1 =>
    if !place.subqueries then fail "subqueries prohibited here"
    else resolveQuery fuel { env with aliases := [], group := none } place.trigger q
termination_by structural fuel

def resolveCall (fuel : Nat) (env : Env) (place : Place) (e : Expr) : Eval Unit :=
  match fuel with
  | 0 => fail "expression nested too deeply"
  | fuel + 1 =>
    match e with
    | .call name distinct star args ord filter overClause =>
      let lname := name.toLower
      let n := if star then 0 else args.length
      match callKind lname n, overClause with
      | .missing, _ => fail ("no such function: " ++ name)
      | .badArity, _ => fail ("wrong number of arguments to function " ++ name ++ "()")
      | .scalar, some _ => fail (name ++ "() may not be used as a window function")
      | _, some _ => do
        if !place.windows then fail ("misuse of window function " ++ name ++ "()")
        if !ord.isEmpty then fail ("ORDER BY may not be used with non-aggregate " ++ name ++ "()")
        let plan ← planWindowCall place.windowDefs e
        let inner := { place with windows := false }
        args.forM (resolveExpr fuel env inner)
        match filter with
        | some f => resolveExpr fuel env inner f
        | none => pure ()
        plan.partition.forM fun p => do
          resolveExpr fuel env inner p
          writtenCollationKnown p
        plan.orderBy.forM fun t => do
          resolveExpr fuel env inner t.expr
          writtenCollationKnown t.expr
      | .windowOnly, none => fail ("misuse of window function " ++ name ++ "()")
      | .aggregate, none => do
        if !place.aggregates then fail ("misuse of aggregate function " ++ name ++ "()")
        if distinct && n != 1 then fail "DISTINCT aggregates must have exactly one argument"
        let inner := { place with aggregates := false, windows := false }
        args.forM (resolveExpr fuel env inner)
        match filter with
        | some f => resolveExpr fuel env inner f
        | none => pure ()
        ord.forM fun t => resolveExpr fuel env inner t.expr
      | _, none => do
        if filter.isSome then fail ("FILTER may not be used with non-aggregate " ++ name ++ "()")
        if !ord.isEmpty then fail ("ORDER BY may not be used with non-aggregate " ++ name ++ "()")
        if lname == "likelihood" && !isProbability (args.getD 1 (.literal .null)) then
          fail ("second argument to " ++ name ++ "() must be a constant between 0.0 and 1.0")
        if !place.volatile && volatileFunctions.contains lname then
          fail ("non-deterministic functions prohibited here: " ++ name ++ "()")
        args.forM (resolveExpr fuel env place)
    | _ => resolveExpr fuel env place e
termination_by structural fuel

/-- Checks a query: its common tables, its selects, its ordering and its limits. -/
def resolveQuery (fuel : Nat) (env : Env) (trigger : Bool) (q : Query) : Eval QueryShape :=
  match fuel with
  | 0 => fail "query nested too deeply"
  | fuel + 1 =>
    match q with
    | .mk _ ctes first rest orderBy limit offset => do
      let env ← resolveCtes fuel env trigger ctes
      let bare := { env with scopes := [], aliases := [], group := none }
      (limit.toList ++ offset.toList).forM fun x => do
        resolveExpr fuel bare (Place.plain trigger) x
        codedCollations 10000 false x
      match rest with
      | [] => do
        let s ← resolveSelect fuel env trigger first orderBy
        pure { columns := shapeColumns s.names s.types, firstTypes := s.types, firstExprs := s.face.exprs }
      | _ =>
        match (if !trigger && env.regroupsCompounds then q.regrouped? else none) with
        | some (.mk _ _ f r _ _ _, outer) => do
          -- The compound is read by a select over it, ordered by the columns the terms name.
          let s0 ← resolveSelect fuel env trigger f []
          let more ← r.mapM fun (_, c) => resolveSelect fuel env trigger c []
          let _ ← compoundShape s0 more (r.map (·.1)) []
          let width := s0.face.exprs.length
          let terms ← orderBy.mapM fun t => do
            match compoundColumn ((s0 :: more).map (·.face)) width t.expr with
            | .ok k => pure (t.toColumn k)
            | .error m => fail m
          let s ← resolveSelect fuel env trigger outer terms
          pure { columns := shapeColumns s.names s.types, firstTypes := s.types, firstExprs := s.face.exprs }
        | none => do
          let s0 ← resolveSelect fuel env trigger first []
          let more ← rest.mapM fun (_, c) => resolveSelect fuel env trigger c []
          compoundShape s0 more (rest.map (·.1)) orderBy
termination_by structural fuel

/-- Checks a common table that reads itself: the selects before the first one that reads it
give its columns, and the others are checked with it bound to them. -/
def recursiveShape (fuel : Nat) (env : Env) (trigger : Bool) (name : String) (columns : List String)
    (q : Query) : Eval QueryShape :=
  match fuel with
  | 0 => fail "query nested too deeply"
  | fuel + 1 =>
    match q with
    | .mk _ _ first more orderBy limit offset => do
      let cores := (CompoundOp.unionAll, first) :: more
      let initial := cores.takeWhile fun (_, c) => !c.mentions name
      let recursive := cores.drop initial.length
      let firsts ← initial.mapM fun (_, c) => resolveSelect fuel env trigger c []
      match firsts with
      | [] => fail ("recursive reference in a subquery: " ++ name)
      | s0 :: others => do
        let cols ← renamedColumns ("table " ++ name) columns (shapeColumns s0.names s0.types)
        let env' := { env with ctes := (name, { columns := cols, rows := [] }) :: env.ctes }
        let steps ← recursive.mapM fun (_, c) => resolveSelect fuel env' trigger c []
        let bare := { env with scopes := [], aliases := [], group := none }
        (limit.toList ++ offset.toList).forM fun x => resolveExpr fuel bare (Place.plain trigger) x
        compoundShape s0 (others ++ steps) ((cores.drop 1).map (·.1)) orderBy
termination_by structural fuel

/-- Checks common tables in order, binding each, with the columns it yields, for the ones after
it and for the query they belong to. -/
def resolveCtes (fuel : Nat) (env : Env) (trigger : Bool) (ctes : List Cte) : Eval Env :=
  match fuel with
  | 0 => fail "query nested too deeply"
  | fuel + 1 =>
    match ctes with
    | [] => pure env
    | .mk name columns _ q :: rest => do
      let own := { env with writtenNames := true, regroupsCompounds := false }
      let shape ← match q with
        | .mk _ _ first more _ _ _ =>
          if (first :: more.map (·.2)).any (Core.mentions name) then
            recursiveShape fuel own trigger name columns q
          else resolveQuery fuel own trigger q
      shape.firstExprs.forM writtenCollationKnown
      let cols ← renamedColumns ("table " ++ name) columns shape.columns
      resolveCtes fuel { env with ctes := (name, { columns := cols, rows := [] }) :: env.ctes } trigger rest
termination_by structural fuel

/-- Checks one select, or a list of rows, with the ordering it carries when it stands alone. -/
def resolveSelect (fuel : Nat) (env : Env) (trigger : Bool) (core : Core) (orderBy : List OrderTerm) :
    Eval SelectShape :=
  match fuel with
  | 0 => fail "query nested too deeply"
  | fuel + 1 =>
    let plain := Place.plain trigger
    match core with
    | .values rows => do
      let env' := { env with aliases := [], group := none }
      let place := { plain with aggregates := true, windows := true }
      rows.forM fun r => r.forM fun x => do
        resolveExpr fuel env' place x
        codedCollations 10000 false x
      let width := (rows.head?.map List.length).getD 0
      if rows.any (·.length != width) then fail "all VALUES must have the same number of terms"
      let names := (List.range width).map fun i => "column" ++ toString (i + 1)
      let face : SelectFace :=
        { env := { env' with scopes := [[]] }, exprs := rows.headD [], aliases := names.map fun _ => none }
      orderBy.forM fun t => do
        match compoundColumn [face] width t.expr with
        | .ok _ => writtenCollationKnown t.expr
        | .error m => fail m
      pure { face := face, names := names, types := names.map fun _ => none }
    | .select distinct columns source filter groupBy having windows => do
      let frames ← match source with
        | some s => resolveSource fuel env trigger s
        | none => pure []
      let items ← expandColumns frames columns
      let exprs := items.map (·.2.1)
      let aliasNames := items.map (·.2.2)
      let aliases := items.filterMap fun (n, e, a) => if a.isSome then some (n, e) else none
      let rowEnv : Env := { env with scopes := frames :: env.scopes, aliases := [], group := none }
      let named := { rowEnv with aliases := aliases }
      let own := { named with scopes := [frames] }
      let grouped := !groupBy.isEmpty || exprs.any (hasAggregate 10000)
      exprs.forM fun x => do
        resolveExpr fuel rowEnv { plain with aggregates := true, windows := true, windowDefs := windows } x
        codedCollations 10000 false x
        if distinct then writtenCollationKnown x
      match having with
      | some h => do
        if !grouped then fail "HAVING clause on a non-aggregate query"
        resolveExpr fuel named { plain with aggregates := true } h
        codedCollations 10000 true h
      | none => pure ()
      match filter with
      | some f => do
        resolveExpr fuel named plain f
        codedCollations 10000 true f
      | none => pure ()
      groupBy.forM fun g => do
        match g.withoutCollate.termInteger? with
        | some k =>
          if k < 1 || k > exprs.length then
            fail ("GROUP BY term out of range - should be between 1 and " ++ toString exprs.length)
          else
            let x := exprs.getD (k.toNat - 1) (.literal .null)
            if hasAggregate 10000 x then fail "aggregate functions are not allowed in the GROUP BY clause"
            writtenCollationKnown g
            writtenCollationKnown x
        | none => do
          resolveExpr fuel own plain g
          codedCollations 10000 false g
          writtenCollationKnown g
      let orderPlace := { plain with aggregates := grouped, windows := true, windowDefs := windows }
      orderBy.forM fun t => do
        let x := t.expr
        let byAlias : Option Nat := match x.withoutCollate with
          | .column none n _ => aliasNames.findIdx? fun a =>
            match a with
            | some y => sameName y n
            | none => false
          | _ => none
        let named? : Option Int := match byAlias with
          | some k => some (k + 1)
          | none => x.withoutCollate.termInteger?
        match named? with
        | some k =>
          if k < 1 || k > exprs.length then
            fail ("ORDER BY term out of range - should be between 1 and " ++ toString exprs.length)
          else
            writtenCollationKnown x
            writtenCollationKnown (exprs.getD (k.toNat - 1) (.literal .null))
        | none => do
          resolveExpr fuel own orderPlace x
          codedCollations 10000 false x
          writtenCollationKnown x
      let types ← exprs.mapM (declTypeOf fuel rowEnv trigger)
      let names := items.map fun (n, e, a) => resultColumnName rowEnv n e a.isSome env.writtenNames
      pure { face := { env := own, exprs := exprs, aliases := aliasNames }, names := names,
             types := types }
termination_by structural fuel

/-- The type a result expression declares: a column's, or the first column's of a scalar
subquery as the subquery's last select declares it. -/
def declTypeOf (fuel : Nat) (env : Env) (trigger : Bool) (e : Expr) : Eval (Option String) :=
  match fuel with
  | 0 => pure none
  | fuel + 1 =>
    match e with
    | .column t n _ =>
      match env.lookup t n with
      | .value _ info => pure (info.bind (·.declType))
      | _ => pure none
    | .scalar q => do
      let shape ← resolveQuery fuel { env with aliases := [], group := none } trigger q
      pure (shape.columns.head?.bind (·.declType))
    | _ => pure none
termination_by structural fuel

/-- Checks a source and gives the frames of its rows. -/
def resolveSource (fuel : Nat) (env : Env) (trigger : Bool) (s : Source) : Eval (List Frame) :=
  match fuel with
  | 0 => fail "query nested too deeply"
  | fuel + 1 =>
    match s with
    | .table name asName => namedFrames fuel env name asName
    | .query q asName => do
      let shape ← resolveQuery fuel { env with aliases := [], group := none, writtenNames := true } trigger q
      shape.firstExprs.forM writtenCollationKnown
      pure [shapeFrame (asName.getD "") shape.columns]
    | .function name args asName =>
      match tableFunction? name with
      | none =>
        match env.db.store.table? name with
        | some t =>
          if t.module.isSome then do
            let hidden := (t.module.map (·.hiddenNames t.name)).getD []
            if args.length > hidden.length then
              fail ("too many arguments on " ++ t.name ++ "() - max " ++ toString hidden.length)
            args.forM fun a => resolveExpr fuel { env with aliases := [], group := none } (Place.plain trigger) a
            pure [t.emptyFrame (asName.getD name)]
          else fail (functionSourceError env name)
        | none => fail (functionSourceError env name)
      | some f => do
        if args.length > f.hidden.length then fail f.tooManyArguments
        args.forM fun a => resolveExpr fuel { env with aliases := [], group := none } (Place.plain trigger) a
        pure [f.emptyFrame (asName.getD name)]
    | .join l natural _ r on usingColumns => do
      let left ← resolveSource fuel env trigger l
      -- a table function's arguments may name the columns of the sources before it
      let right ← match r with
        | .function _ _ _ => resolveSource fuel { env with scopes := left :: env.scopes } trigger r
        | _ => resolveSource fuel env trigger r
      let names := if natural then
          (visibleNames right).filter fun n => (visibleNames left).any (sameName · n)
        else usingColumns
      let missing := names.filter fun n =>
        !(visibleNames left).any (sameName · n) || !(visibleNames right).any (sameName · n)
      match missing with
      | n :: _ => fail ("cannot join using column " ++ n ++ " - column not present in both tables")
      | [] => pure ()
      let frames := left ++ markMerged names right
      match on with
      | some c => do
        resolveExpr fuel { env with scopes := frames :: env.scopes, aliases := [], group := none }
          (Place.plain trigger) c
        codedCollations 10000 true c
      | none => pure ()
      pure frames
termination_by structural fuel

/-- Checks a named source (a common table, the schema table, a table or a view) and gives the
frame of its rows. A view's query is checked here, where it is read. -/
def namedFrames (fuel : Nat) (env : Env) (name : String) (asName : Option String) :
    Eval (List Frame) :=
  match fuel with
  | 0 => fail "query nested too deeply"
  | fuel + 1 =>
    let frameName := asName.getD name
    match env.ctes.find? fun (n, _) => sameName n name with
    | some (_, rel) => pure [shapeFrame frameName rel.columns]
    | none =>
      if isSchemaTableName name then pure [shapeFrame frameName (schemaRelation env.db.store name).columns]
      else
        match env.db.store.table? name with
        | some t => pure [t.emptyFrame frameName]
        | none =>
          match env.db.store.view? name with
          | some v => do
            let shape ← resolveQuery fuel
              { env with scopes := [], aliases := [], group := none, ctes := [], writtenNames := false,
                         regroupsCompounds := false } false v.query
            shape.firstExprs.forM writtenCollationKnown
            let cols ← renamedColumns ("view " ++ v.name) v.columns shape.columns
            pure [shapeFrame frameName cols]
          | none =>
            match tableFunction? name with
            | some f => pure [f.emptyFrame frameName]
            | none => fail ("no such table: " ++ name)
termination_by structural fuel

end

/-- The table a statement changes; a view or a missing name is an error. -/
def writableTable (db : Connection) (name : String) : Eval Table :=
  match db.store.table? name with
  | some t => pure t
  | none =>
    if (db.store.view? name).isSome then fail ("cannot modify " ++ name ++ " because it is a view")
    else fail ("no such table: " ++ name)

/-- The environment of a statement's own rows: their frames in front of the enclosing ones. -/
def Env.within (env : Env) (frames : List Frame) : Env :=
  { env with scopes := frames :: env.scopes, aliases := [], group := none }

/-- Checks the `RETURNING` clause of a change to a table, which reads the changed rows. -/
def resolveReturning (env : Env) (trigger : Bool) (t : Table) (name : String)
    (returning : List ResultColumn) : Eval Unit := do
  if returning.isEmpty then return ()
  let own := t.emptyFrame name
  let items ← expandColumns [own] returning
  items.forM fun (_, x, _) => do
    resolveExpr 10000 (env.within [own]) (Place.plain trigger) x
    codedCollations 10000 false x

/-- Checks the assignments of an update: each names columns of the table and gives as many
values. -/
def resolveAssignments (env : Env) (trigger : Bool) (t : Table) (sets : Assignments) : Eval Unit :=
  sets.forM fun (names, x) => do
    names.forM fun n =>
      if (t.columnIndex? n).isNone && !(isRowidName n && !t.withoutRowid) then
        fail ("no such column: " ++ n)
      else pure ()
    match names with
    | [_] => resolveExpr 10000 env (Place.plain trigger) x
    | _ => do
      let w ← operandWidth 10000 env (Place.plain trigger) x
      if w != names.length then
        fail (toString names.length ++ " columns assigned " ++ toString w ++ " values")
    codedCollations 10000 false x

/-- The names of the columns an expression reads outside its subqueries. -/
def columnNamesIn : Nat → Expr → List String
  | 0, _ => []
  | fuel + 1, e =>
    match e with
    | .column _ n _ => [n]
    | _ => e.children.flatMap (columnNamesIn fuel)

/-- Whether a default is constant: it names no column (`TRUE` and `FALSE` apart) and holds no
parameter, subquery, `RAISE` or call over a window. -/
def isConstantDefault : Nat → Expr → Bool
  | 0, _ => false
  | fuel + 1, e =>
    match e with
    | .column none n false => sameName n "true" || sameName n "false"
    | .column _ _ _ | .param _ | .exists _ | .scalar _ | .inQuery _ _ _ | .raise _ _ => false
    | .call _ _ _ _ _ _ (some _) => false
    | _ => e.children.all (isConstantDefault fuel)

/-- Checks the definition of a new table: its checks and generated columns reach only its own
columns (and a generated column calls no function whose value may change), and its defaults are
constant. -/
def resolveTableDefinition (db : Connection) (name : String) (defs : List ColumnDef)
    (cons : List TableConstraint) (withoutRowid : Bool) : Eval Unit := do
  let frame : Frame :=
    { name := name,
      columns := defs.map fun d => { name := d.name, affinity := none, collation := none, declType := none },
      values := defs.map fun _ => .null, rowid := if withoutRowid then none else some 0, merged := [] }
  let env : Env := { db := db, params := [], scopes := [[frame]], group := none, aliases := [], ctes := [] }
  defs.forM fun d => d.constraints.forM fun c =>
    match c with
    | .check e => resolveExpr 10000 env (Place.kept true) e
    | .generated e _ => resolveExpr 10000 env (Place.kept false) e
    | .default e _ =>
      if isConstantDefault 10000 e then pure ()
      else fail ("default value of column [" ++ d.name ++ "] is not constant")
    | _ => pure ()
  cons.forM fun c =>
    match c with
    | .check e => resolveExpr 10000 env (Place.kept true) e
    | _ => pure ()

/-- Checks an index of a table: its expressions and its condition reach only the table's
columns, hold no subquery or parameter and call no function whose value may change, and its
collations exist. -/
def resolveIndex (db : Connection) (t : Table) (cols : List IndexedColumn) (filter : Option Expr) :
    Eval Unit := do
  let env : Env :=
    { db := db, params := [], scopes := [[t.emptyFrame t.name]], group := none, aliases := [], ctes := [] }
  cols.forM fun ic => do
    resolveExpr 10000 env (Place.kept false) ic.expr
    match ic.collation with
    | some n => collationKnown n
    | none => writtenCollationKnown ic.expr
  match filter with
  | some f => do
    resolveExpr 10000 env (Place.kept false) f
    codedCollations 10000 true f
  | none => pure ()

/-- Checks what an insertion into a table does within the table: the values given (as many as
the columns they go to), the defaults of the columns given no value, the upserts, the
`RETURNING` clause and the checks new rows meet. -/
def resolveInsertion (env : Env) (trigger : Bool) (t : Table) (name : String)
    (cols : Option (List String)) (source : Option Query) (upserts : List Upsert)
    (returning : List ResultColumn) : Eval Unit := do
  let targets ← insertTargets t cols
  let plain := Place.plain trigger
  let given ← match source with
    | none => pure none
    | some (.mk false [] (.values [row]) [] [] none none) => do
      row.forM fun x => do
        resolveExpr 10000 env plain x
        codedCollations 10000 false x
      pure (some row.length)
    | some q => do
      let shape ← resolveQuery 10000 env trigger q
      pure (some shape.columns.length)
  match given with
  | some n =>
    if n != targets.length then
      if cols.isNone then
        fail ("table " ++ t.name ++ " has " ++ toString targets.length ++ " columns but " ++
          toString n ++ " values were supplied")
      else fail (toString n ++ " values for " ++ toString targets.length ++ " columns")
  | none => pure ()
  let valued := if source.isSome then targets else []
  (List.range t.columns.length).forM fun i =>
    match t.columns[i]? with
    | some c =>
      if valued.contains (.column i) || c.generated.isSome then pure ()
      else
        match c.default with
        | some d => do
          resolveExpr 10000 { env with scopes := [] } (Place.plain false) d
          codedCollations 10000 false d
        | none => pure ()
    | none => pure ()
  let own := t.emptyFrame name
  let excluded := (t.emptyFrame "excluded").qualifiedOnly
  upserts.forM fun u => do
    match u.target with
    | some (_, some w) => resolveExpr 10000 (env.within [own]) plain w
    | _ => pure ()
    match u.action with
    | some (sets, cond) => do
      resolveAssignments (env.within [own, excluded]) trigger t sets
      match cond with
      | some c => do
        resolveExpr 10000 (env.within [own, excluded]) plain c
        codedCollations 10000 true c
      | none => pure ()
    | none => pure ()
  resolveReturning env trigger t name returning
  t.checks.forM (codedCollations 10000 true)

/-- Checks what an update of a table does within the table and the sources it joins: its
assignments, its condition, its `RETURNING` clause and the checks that read a column it sets. -/
def resolveUpdating (env : Env) (trigger : Bool) (t : Table) (name : String) (sets : Assignments)
    (joined : List Frame) (filter : Option Expr) (returning : List ResultColumn) : Eval Unit := do
  let rows := env.within (t.emptyFrame name :: joined)
  resolveAssignments rows trigger t sets
  match filter with
  | some f => do
    resolveExpr 10000 rows (Place.plain trigger) f
    codedCollations 10000 true f
  | none => pure ()
  resolveReturning env trigger t name returning
  let changed := sets.columnNames
  t.checks.forM fun c =>
    if (columnNamesIn 10000 c).any fun n => changed.any (sameName · n) then codedCollations 10000 true c
    else pure ()

/-- Checks what a deletion from a table does within the table: its condition and its `RETURNING`
clause. -/
def resolveDeletion (env : Env) (trigger : Bool) (t : Table) (name : String) (filter : Option Expr)
    (returning : List ResultColumn) : Eval Unit := do
  match filter with
  | some f => do
    resolveExpr 10000 (env.within [t.emptyFrame name]) (Place.plain trigger) f
    codedCollations 10000 true f
  | none => pure ()
  resolveReturning env trigger t name returning

mutual

/-- Checks a statement before it runs; for a query, what the check found. `active` names the
triggers whose programs are being checked, which are not checked again inside themselves. -/
def resolveStatement (fuel : Nat) (env : Env) (trigger : Bool) (active : List String) (st : Statement) :
    Eval (Option QueryShape) :=
  match fuel with
  | 0 => fail "statement nested too deeply"
  | fuel + 1 =>
    match st with
    | .query q => do pure (some (← resolveQuery fuel env trigger q))
    | .withTables _ ctes body => do
      let env ← resolveCtes fuel env trigger ctes
      resolveStatement fuel env trigger active body
    | .insert _ tname asName cols source upserts returning => do
      let t ← writableTable env.db tname
      resolveInsertion env trigger t (asName.getD t.name) cols source upserts returning
      resolveTriggers fuel env.db active t 0 []
      -- An upsert that updates the row already there fires the table's update triggers.
      upserts.forM fun u =>
        match u.action with
        | some (sets, _) => resolveTriggers fuel env.db active t 1 sets.columnNames
        | none => pure ()
      pure none
    | .update _ tname asName sets src filter returning => do
      let t ← writableTable env.db tname
      let joined ← match src with
        | some s => resolveSource fuel env trigger s
        | none => pure []
      resolveUpdating env trigger t (asName.getD t.name) sets joined filter returning
      resolveTriggers fuel env.db active t 1 sets.columnNames
      pure none
    | .delete tname asName filter returning => do
      let t ← writableTable env.db tname
      resolveDeletion env trigger t (asName.getD t.name) filter returning
      resolveTriggers fuel env.db active t 2 []
      pure none
    | .createTable ine name defs cons withoutRowid _ _ _ => do
      if !(ine && (env.db.store.table? name).isSome) then
        resolveTableDefinition env.db name defs cons withoutRowid
      pure none
    | .createTableAs ine name q => do
      if !(ine && (env.db.store.table? name).isSome) then
        let shape ← resolveQuery fuel env trigger q
        shape.firstExprs.forM writtenCollationKnown
      pure none
    | .createIndex _ ine name tname cols filter _ => do
      let taken := env.db.store.indexes.any fun i => sameName i.name name
      match env.db.store.table? tname with
      | some t => if !(ine && taken) then resolveIndex env.db t cols filter
      | none => pure ()
      pure none
    | _ => pure none
termination_by structural fuel

/-- Checks the programs of the triggers that a change to a table's rows fires (`kind` 0 for an
insertion, 1 for an update of some columns, 2 for a deletion): each one's condition and
statements, which reach the row only through `NEW` and `OLD`. -/
def resolveTriggers (fuel : Nat) (db : Connection) (active : List String) (t : Table) (kind : Nat)
    (changed : List String) : Eval Unit :=
  match fuel with
  | 0 => pure ()
  | fuel + 1 =>
    let fired := db.store.triggers.filter fun g =>
      sameName g.table t.name && g.event.fires kind changed && !active.any (sameName · g.name)
    fired.forM fun g => do
      let frames := (if kind == 2 then [] else [(t.emptyFrame "new").qualifiedOnly]) ++
        (if kind == 0 then [] else [(t.emptyFrame "old").qualifiedOnly])
      let env : Env :=
        { db := db, params := [], scopes := [frames], group := none, aliases := [], ctes := [] }
      match g.condition with
      | some c => do
        resolveExpr 10000 env (Place.plain true) c
        codedCollations 10000 true c
      | none => pure ()
      g.body.forM fun st => do
        let _ ← resolveStatement fuel env true (g.name :: active) st
termination_by structural fuel

end

/-- Checks a statement of a script before it runs, outside any trigger; for a query, what the
check found. -/
def Connection.check (db : Connection) (params : List Datum) (st : Statement) :
    Eval (Option QueryShape) :=
  resolveStatement 10000 ((Ctx.top params).env db) false [] st

/-- A relation whose columns declare the types a check found. -/
def Relation.withTypes (rel : Relation) (types : List (Option String)) : Relation :=
  { rel with columns := rel.columns.mapIdx fun i c => { c with declType := types.getD i none } }

end RosterSync.Database

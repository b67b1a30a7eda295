import RosterSync.Database.Catalog

/-!
How a select that reads one table reads it, which decides the order its rows come in when
nothing sorts them, and the order of its groups when the way it reads already keeps them together.

A table is read in one of a few ways: straight through in row-id order, or through one of its
indexes, whole or only the part that terms of the filter pick out, forwards or backwards. Each way
has an estimated cost and an estimated number of rows, both kept as ten times their base-2
logarithm (`logEst`): a pass over the table or an index, a look-up into the table for each row
of an index that does not hold every column the select reads, and a sort when the rows do not
come in the order asked for. The cheapest way wins; among equals the first one considered does.
The rows then come in the chosen index's order, ties in row-id order, or all reversed for a
backwards read.

The estimates are those for a table never analysed: about a million rows, each key column of an
index narrowing them by a fixed factor and a whole unique key to one row. The terms of the filter
an index can use compare a column with `=`, `IS`, `<`, `<=`, `>`, `>=`, `IN` or `IS NULL`, from
either side; both ends of a `BETWEEN` count as terms of their own, and so does `x IS NOT NULL`,
read as `x > NULL`. The compared side must not read the table, and the comparison's affinity and
collation must agree with the index column's. A partial index is used only when terms of the
filter imply its condition. Disjunctions are not used, and an index on expressions is not read.
-/

-- natural powers take the core instance even where the monoid power is in scope
attribute [local instance (2000)] instPowNat
-- sums of naturals start from the core zero even where the algebraic one is in scope
attribute [local instance (2000)] Zero.ofOfNat0

namespace RosterSync.Database

/-! ## Estimates -/

/-- Ten times the base-2 logarithm of a count, as the planner rounds it: exact at powers of two
and in steps of eighths between them; zero for counts below two. -/
def logEst (x : Nat) : Int :=
  let eighths : List Int := [0, 2, 3, 5, 6, 7, 8, 9]
  if x < 2 then 0
  else if x < 8 then
    let s := if x < 4 then 2 else 1
    eighths.getD ((x <<< s) % 8) 0 + 30 - 10 * s
  else
    let i := Nat.log2 x - 3
    eighths.getD ((x >>> i) % 8) 0 + 30 + 10 * i

/-- The estimate of the sum of two counts given as estimates: the larger, raised by a little
when the other is close to it. -/
def logEstAdd (a b : Int) : Int :=
  let bump : List Int :=
    [10, 10, 9, 9, 8, 8, 7, 7, 7, 6, 6, 6, 5, 5, 5, 4, 4, 4, 4, 3, 3, 3, 3, 3, 3, 2, 2, 2, 2, 2, 2, 2]
  let (hi, lo) := if a ≥ b then (a, b) else (b, a)
  if hi > lo + 49 then hi
  else if hi > lo + 31 then hi + 1
  else hi + bump.getD (hi - lo).toNat 0

/-- The estimate of the logarithm of a count given as an estimate, the cost of a search among
that many entries. -/
def estLog (n : Int) : Int :=
  if n ≤ 10 then 0 else logEst n.toNat - 33

/-! ## Widths of rows -/

/-- The width of a column declared with one of the standard type names, if it is one. -/
def standardTypeWidth? (decl : String) : Option Nat :=
  match decl.toUpper with
  | "TEXT" | "BLOB" => some 5
  | "INT" | "INTEGER" | "REAL" | "ANY" => some 1
  | _ => none

/-- Reads a declared type four characters at a time, as its affinity is found: the affinity so
far, and the text after `CHAR` (or from the parenthesis after `BLOB`) where a length may be
written. A type naming `INT` stops the reading. -/
def scanType (window : List Char) (aff : Affinity) (after : Option (List Char)) :
    List Char → Affinity × Option (List Char)
  | [] => (aff, after)
  | c :: rest =>
    let w := (window ++ [c.toLower]).drop (window.length + 1 - 4)
    let s := String.ofList w
    if s == "char" then scanType w .text (some rest) rest
    else if s == "clob" || s == "text" then scanType w .text after rest
    else if s == "blob" && (aff == .numeric || aff == .real) then
      scanType w .blob (if rest.head? == some '(' then some rest else after) rest
    else if (s == "real" || s == "floa" || s == "doub") && aff == .numeric then
      scanType w .real after rest
    else if w.drop (w.length - 3) == ['i', 'n', 't'] then (.integer, after)
    else scanType w aff after rest

/-- The number written at the start of a text, leading zeros skipped; zero when it has more
than ten digits or does not fit 31 bits. -/
def leadingCount (cs : List Char) : Nat :=
  let digits := (cs.dropWhile (· == '0')).takeWhile Char.isDigit
  let v := digits.foldl (fun acc d => acc * 10 + (d.toNat - 48)) 0
  if digits.length > 10 || v ≥ 2 ^ (31 : Nat) then 0 else v

/-- The planner's estimate of the width of a column's values, counting an integer as one: a
standard text or blob type five, another standard type one; a type of text or blob affinity a
quarter of the length written after `CHAR` or in `BLOB(...)` plus one (five when none may be
written); any other type one. -/
def typeWidth (decl : String) : Nat :=
  if decl.isEmpty then 1
  else
    match standardTypeWidth? decl with
    | some w => w
    | none =>
      let (aff, after) := scanType [] .numeric none decl.toList
      let v := if aff == .blob || aff == .text then
          match after with
          | some rest => leadingCount (rest.dropWhile fun ch => !ch.isDigit)
          | none => 16
        else 0
      min 255 (v / 4 + 1)

/-- The estimated width of a table's rows: its columns' widths, and one more for a row id that
no column names. -/
def Table.rowWidth (t : Table) : Int :=
  logEst (4 * ((t.columns.map fun c => typeWidth c.declType).sum + (if t.rowidAlias.isSome then 0 else 1)))

/-- Whether a column of a table never holds `NULL`: declared so, or part of the primary key of a
table without row ids. -/
def Table.columnNotNull (t : Table) (i : Nat) : Bool :=
  match t.columns[i]? with
  | none => false
  | some c =>
    c.notNull.isSome ||
      (t.withoutRowid && (t.keys.find? (·.primary)).any fun k => k.columnNames.any (sameName · c.name))

/-! ## Ways into a table -/

/-- One column of an index entry as the planner reads it: the table's column (`none` for the row
id, which the integer primary key names too), its direction and its collation. -/
structure Slot where
  column : Option Nat
  desc : Bool
  collation : Collation

/-- A way into a table: the row-id order of a table that has row ids, or an index. It lists
the columns of each entry (the key, then what identifies the row), how many of them form the
key, whether the key is unique (and never `NULL`), whether it is the table's primary key, whether
it holds every column, the condition of a partial index, the row estimates after each key column
and the width of its entries. -/
structure Probe where
  slots : List Slot
  keyCount : Nat
  unique : Bool
  uniqueNotNull : Bool
  rowidOrder : Bool
  primary : Bool
  holdsAll : Bool
  filter : Option Expr
  rowEst : List Int
  width : Int

/-- The row estimates of an index never analysed: the table's rows (half of them for a partial
index), then the rows each further key column leaves of them, one row for a whole unique key. -/
def defaultRowEst (keyCount : Nat) (unique filtered : Bool) : List Int :=
  let steps : List Int := [33, 32, 30, 28, 26]
  let rest := (List.range keyCount).map fun i => if unique && i + 1 == keyCount then 0 else steps.getD i 23
  (if filtered then 190 else 200) :: rest

/-- The way into a table that has row ids in row-id order. -/
def rowidProbe : Probe :=
  { slots := [{ column := none, desc := false, collation := .binary }], keyCount := 1, unique := true,
    uniqueNotNull := true, rowidOrder := true, primary := false, holdsAll := false, filter := none,
    rowEst := [200, 0], width := 3 }

/-- An entry column as a slot: `none` for a column on an expression. -/
def Table.slotOf (t : Table) (e : EntryColumn) : Option Slot :=
  if e.cid == -2 then none
  else
    let column : Option Nat :=
      if e.cid < 0 then none
      else if t.rowidAlias == some e.cid.toNat then none
      else some e.cid.toNat
    some { column := column, desc := e.desc, collation := (Collation.ofName? e.collation).getD .binary }

/-- The way into a table through one of its indexes; none for an index on expressions. -/
def Table.indexProbe (t : Table) (i : ListedIndex) : Option Probe := do
  let isPrimary := i.origin == "pk"
  let slots ← (t.entryColumns i.columns isPrimary).mapM t.slotOf
  let keyCount := i.columns.length
  let notNull (s : Slot) : Bool := match s.column with
    | none => true
    | some c => t.columnNotNull c
  let width := (slots.map fun s => match s.column with
    | none => 1
    | some c => ((t.columns[c]?).map fun col => typeWidth col.declType).getD 1).sum
  pure { slots := slots, keyCount := keyCount, unique := i.unique,
         uniqueNotNull := i.unique && (slots.take keyCount).all notNull, rowidOrder := false,
         primary := isPrimary, holdsAll := isPrimary && t.withoutRowid, filter := i.filter,
         rowEst := defaultRowEst keyCount i.unique i.filter.isSome, width := logEst (4 * width) }

/-- The ways into a table in the order they are considered, each with its place in that order
counted from one: the row-id order first for a table with row ids, then the indexes in the
catalog's order. -/
def Store.probes (s : Store) (t : Table) : List (Nat × Probe) :=
  let indexes := (s.listedIndexes t).map t.indexProbe
  let all := (if t.withoutRowid then [] else [some rowidProbe]) ++ indexes
  all.zipIdx.filterMap fun (p, k) => p.map fun p => (k + 1, p)

/-! ## Terms of the filter -/

/-- How a term compares a column with the other side. -/
inductive Compare where
  | eq
  | is
  | lt
  | le
  | gt
  | ge
  | isNull
  | inValues (count : Nat)
  | inQuery
deriving DecidableEq

def Compare.flip : Compare → Compare
  | .lt => .gt
  | .le => .ge
  | .gt => .lt
  | .ge => .le
  | c => c

def Compare.isEquality (c : Compare) : Bool := c == .eq || c == .is

def Compare.isMembership : Compare → Bool
  | .inValues _ | .inQuery => true
  | _ => false

/-- What a term lets an index look up: a column of the table (`none` the row id), how it is
compared, and the affinity and collation of the comparison. -/
structure Lookup where
  column : Option Nat
  compare : Compare
  affinity : Option Affinity
  collation : Collation

/-- A term of the filter: its expression, what an index may look up by it, whether it was
derived from another term (its parent), whether it is `x > NULL` standing for `x IS NOT NULL`,
the columns of the table it reads, and whether the side a column is compared with is an integer
from -1 to 1. -/
structure Term where
  expr : Expr
  lookup : Option Lookup
  derived : Bool
  parent : Option Nat
  vnull : Bool
  reads : List (Option Nat)
  smallOther : Bool

/-- The table a select reads, the name it reads it under, and the environment of one of its
rows, which gives the affinities and collations of expressions. -/
structure ScanContext where
  table : Table
  frame : String
  env : Env

/-- The column of the table an expression names, `none` inside for the row id. -/
def ScanContext.columnOf (c : ScanContext) : Expr → Option (Option Nat)
  | .column q n _ =>
    if q.any fun x => !sameName x c.frame then none
    else
      match c.table.columnIndex? n with
      | some i => some (if c.table.rowidAlias == some i then none else some i)
      | none => if isRowidName n && !c.table.withoutRowid then some none else none
  | _ => none

/-- The columns of the table an expression reads outside its subqueries. -/
def ScanContext.reads (c : ScanContext) : Nat → Expr → List (Option Nat)
  | 0, _ => []
  | fuel + 1, e => (c.columnOf e).toList ++ e.children.flatMap (c.reads fuel)

/-- Whether an expression is the same for every row: it reads no column, calls no function and
holds no subquery. -/
def isFixedTerm : Nat → Expr → Bool
  | 0, _ => false
  | fuel + 1, e =>
    match e with
    | .column _ _ _ | .call _ _ _ _ _ _ _ | .exists _ | .scalar _ | .inQuery _ _ _ | .raise _ _ => false
    | _ => e.children.all (isFixedTerm fuel)

def conjuncts : Nat → Expr → List Expr
  | 0, e => [e]
  | fuel + 1, e =>
    match e with
    | .binary .and a b => conjuncts fuel a ++ conjuncts fuel b
    | _ => [e]

def Expr.isNullLiteral : Expr → Bool
  | .literal .null => true
  | _ => false

/-- The term of a comparison `a op b`: a look-up by the column on either side when the other
side does not read the table. -/
def ScanContext.comparison (c : ScanContext) (e : Expr) (op : Compare) (a b : Expr) : Term :=
  let base : Term := { expr := e, lookup := none, derived := false, parent := none, vnull := false,
                       reads := c.reads 10000 e, smallOther := false }
  let readsA := c.reads 10000 a
  let readsB := c.reads 10000 b
  if !readsA.isEmpty && !readsB.isEmpty then base
  else
    let coll := ((c.env.compareCollation a b).toOption).getD .binary
    let aff := c.env.compareAffinity a b
    let small (x : Expr) : Bool := (x.termInteger?).any fun k => -1 ≤ k && k ≤ 1
    match c.columnOf a.withoutCollate, c.columnOf b.withoutCollate with
    | some col, _ =>
      { base with lookup := some { column := col, compare := op, affinity := aff, collation := coll },
                  smallOther := small b }
    | none, some col =>
      { base with lookup := some { column := col, compare := op.flip, affinity := aff, collation := coll },
                  smallOther := small a }
    | none, none => base

def ScanContext.termOf (c : ScanContext) (e : Expr) : Term :=
  let base : Term := { expr := e, lookup := none, derived := false, parent := none, vnull := false,
                       reads := c.reads 10000 e, smallOther := false }
  let collationOf (x : Expr) : Collation := ((c.env.collationOf x).toOption.join).getD .binary
  let membership (x : Expr) (op : Compare) (others : List Expr) : Term :=
    if !(others.flatMap (c.reads 10000)).isEmpty && !(c.reads 10000 x).isEmpty then base
    else
      match c.columnOf x.withoutCollate with
      | some col =>
        { base with lookup := some { column := col, compare := op, affinity := none, collation := collationOf x } }
      | none => base
  match e with
  | .binary .eq a b => c.comparison e .eq a b
  | .binary .lt a b => c.comparison e .lt a b
  | .binary .le a b => c.comparison e .le a b
  | .binary .gt a b => c.comparison e .gt a b
  | .binary .ge a b => c.comparison e .ge a b
  | .binary .is a b =>
    if b.isNullLiteral then membership a .isNull [] else c.comparison e .is a b
  | .isNull false a => membership a .isNull []
  | .inList false x items =>
    match items with
    | [] => base
    | [item] =>
      if isFixedTerm 10000 item then c.comparison (.binary .eq x item) .eq x item
      else membership x (.inValues 1) items
    | _ => membership x (.inValues items.length) items
  | .inQuery false x _ => membership x .inQuery []
  | _ => base

/-- The terms a conjunct adds of its own: the two ends of a `BETWEEN`, and `x > NULL` for
`x IS NOT NULL` on a column of the table. -/
def ScanContext.derivedTerms (c : ScanContext) (e : Expr) (parent : Nat) : List Term :=
  let mark (t : Term) : Term := { t with derived := true, parent := some parent }
  let notNull (x : Expr) : List Term :=
    match x, c.columnOf x with
    | .column _ _ _, some (some i) =>
      let coll := ((c.env.collationOf x).toOption.join).getD .binary
      [{ expr := .binary .gt x (.literal .null),
         lookup := some { column := some i, compare := .gt, affinity := none, collation := coll },
         derived := true, parent := some parent, vnull := true, reads := [some i], smallOther := false }]
    | _, _ => []
  match e with
  | .between false x lo hi =>
    [mark (c.comparison (.binary .ge x lo) .ge x lo), mark (c.comparison (.binary .le x hi) .le x hi)]
  | .isNull true x => notNull x
  | .binary .isNot x n => if n.isNullLiteral then notNull x else []
  | _ => []

/-- The terms of a filter: its conjuncts in order, then the terms they add, those of the last
conjunct first. -/
def ScanContext.terms (c : ScanContext) (filter : Option Expr) : Array Term :=
  let base := (filter.map (conjuncts 10000)).getD []
  let added := base.zipIdx.reverse.flatMap fun (e, i) => c.derivedTerms e i
  (base.map c.termOf ++ added).toArray

/-! ## Partial indexes -/

/-- The value a literal stands for, a minus sign before a number included. -/
def literalValue? : Expr → Option Datum
  | .literal d => some d
  | .number t true => some (.real (scanReal t.toList).1)
  | .number t false => (Expr.number t false).smallInt?.map Datum.integer
  | .unary .negate (.number t true) => some (.real (scanReal t.toList).1.negate)
  | .unary .negate (.number t false) => (Expr.number t false).smallInt?.map fun i => Datum.integer (-i)
  | _ => none

/-- Whether two expressions are alike: written alike part by part, where a parameter of the first
is alike a literal of the second that has its bound value. -/
def ScanContext.alike (c : ScanContext) : Nat → Expr → Expr → Bool
  | 0, _, _ => false
  | fuel + 1, a, b =>
    let bound : Bool := match a, literalValue? b with
      | .param n, some w =>
        let v := c.env.params.getD (n - 1) .null
        v != .null && Datum.compareWith .binary v w == .eq
      | _, _ => false
    bound ||
      (exprHeadSame a b && a.children.length == b.children.length &&
        (a.children.zip b.children).all fun p => c.alike fuel p.1 p.2)

/-- Whether a term being true makes an expression not `NULL`: the expression is the term, or an
operand of it that a `NULL` would make `NULL` (not through a negation where that matters). -/
def ScanContext.impliesNotNull (c : ScanContext) : Nat → Expr → Expr → Bool → Bool
  | 0, _, _, _ => false
  | fuel + 1, p, x, seenNot =>
    if c.alike 10000 p x then true
    else
      match p with
      | .inList neg l _ => let _ := neg; c.impliesNotNull fuel l x true
      | .inQuery neg l _ => if neg || seenNot then false else c.impliesNotNull fuel l x true
      | .between neg l lo hi =>
        if neg || seenNot then false
        else c.impliesNotNull fuel lo x true || c.impliesNotNull fuel hi x true ||
          c.impliesNotNull fuel l x true
      | .binary op l r =>
        match op with
        | .eq | .ne | .lt | .le | .gt | .ge | .add | .sub | .bitOr | .shiftLeft | .shiftRight | .concat =>
          c.impliesNotNull fuel r x true || c.impliesNotNull fuel l x true
        | .mul | .rem | .bitAnd | .div =>
          c.impliesNotNull fuel r x seenNot || c.impliesNotNull fuel l x seenNot
        | _ => false
      | .collate l _ => c.impliesNotNull fuel l x seenNot
      | .unary .plus l | .unary .negate l => c.impliesNotNull fuel l x seenNot
      | .unary .not l | .unary .bitNot l => c.impliesNotNull fuel l x true
      | _ => false

/-- Whether a term of the filter implies a condition: it is the condition, implies a side of a
disjunction, or makes the column a `NOT NULL` condition names not `NULL`. -/
def ScanContext.implies (c : ScanContext) : Nat → Expr → Expr → Bool
  | 0, _, _ => false
  | fuel + 1, p, q =>
    c.alike 10000 p q ||
      match q with
      | .binary .or l r => c.implies fuel p l || c.implies fuel p r
      | .isNull true x => c.impliesNotNull 10000 p x false
      | .binary .isNot x n => n.isNullLiteral && c.impliesNotNull 10000 p x false
      | _ => false

/-- Whether the filter's terms imply every conjunct of a partial index's condition. -/
def ScanContext.usablePartial (c : ScanContext) (terms : Array Term) (cond : Expr) : Bool :=
  (conjuncts 10000 cond).all fun q => terms.any fun t => !t.vnull && c.implies 10000 t.expr q

/-! ## Ways to read the table -/

/-- A way to read the table: the probe it goes through, the group it competes in (zero, or
the probe's place when the probe may help the order asked for), the terms it uses, how many
leading columns they fix, its cost and rows, and what it is: through an index, holding every
column read, at most one row, or looking up a list of values. -/
structure Loop where
  probe : Nat
  sortIdx : Nat
  used : List Nat
  eqCount : Nat
  run : Int
  out : Int
  indexed : Bool
  covering : Bool
  oneRow : Bool
  columnIn : Bool

/-- The estimate of rows left after the terms a way to read does not use: one step fewer for
each such term of the table, and no more than the table's rows less a margin for the strongest
unused equality (smaller for an equality with -1, 0 or 1). -/
def outputAdjust (terms : Array Term) (used : List Nat) (out nRow : Int) : Int :=
  let usedOrParent (k : Nat) : Bool :=
    used.any fun j => j == k || (terms[j]?.bind (·.parent)) == some k
  let (out, reduce) := terms.toList.zipIdx.foldl (fun (acc : Int × Int) (t, k) =>
    if t.derived || t.reads.isEmpty || usedOrParent k then acc
    else
      let reduce := match t.lookup with
        | some l => if l.compare.isEquality then max acc.2 (if t.smallOther then 10 else 20) else acc.2
        | none => acc.2
      (acc.1 - 1, reduce)) (out, 0)
  if out > nRow - reduce then nRow - reduce else out

/-- Whether one way's terms are fewer than and among another's, it is no costlier on both
counts, and it does not hold every column where the other does not. -/
def Loop.cheaperSubsetOf (x y : Loop) : Bool :=
  x.used.length < y.used.length && !(x.run > y.run && x.out > y.out) &&
    x.used.all (y.used.contains ·) && !(x.covering && !y.covering)

/-- A new way through an index made no costlier than a way using a subset of its terms, and no
cheaper than one using a superset. -/
def adjustCost (loops : List Loop) (l : Loop) : Loop :=
  if !l.indexed then l
  else
    loops.foldl (fun l p =>
      if !p.indexed then l
      else if p.cheaperSubsetOf l then { l with run := min p.run l.run, out := min (p.out - 1) l.out }
      else if l.cheaperSubsetOf p then { l with run := max p.run l.run, out := max (p.out + 1) l.out }
      else l) l

inductive Placement where
  | discard
  | replace (i : Nat)
  | append

/-- Finds the first way in the same group that is no worse than the new one (which is then
dropped) or that the new one is no worse than (which it replaces). -/
def placeLoop (l : Loop) : Nat → List Loop → Placement
  | _, [] => .append
  | i, p :: rest =>
    if p.sortIdx != l.sortIdx then placeLoop l (i + 1) rest
    else if p.run ≤ l.run && p.out ≤ l.out then .discard
    else if p.run ≥ l.run && p.out ≥ l.out then .replace i
    else placeLoop l (i + 1) rest

/-- Drops the ways after a replaced one that the new way is also no worse than. -/
def pruneAfter (l : Loop) : Nat → List Loop → List Loop
  | 0, tail => tail
  | fuel + 1, tail =>
    match placeLoop l 0 tail with
    | .replace j => tail.take j ++ pruneAfter l fuel (tail.drop (j + 1))
    | _ => tail

def insertLoop (loops : List Loop) (l : Loop) : List Loop :=
  let l := adjustCost loops l
  match placeLoop l 0 loops with
  | .discard => loops
  | .append => loops ++ [l]
  | .replace i => loops.take i ++ [l] ++ pruneAfter l (loops.length - i) (loops.drop (i + 1))

/-- Whether the comparison's affinity lets an index column of an affinity be used: always
without one, a text comparison only on a text column, a numeric one only on a numeric column. -/
def affinityFits (cmp : Option Affinity) (col : Affinity) : Bool :=
  match cmp with
  | none | some .blob => true
  | some .text => col == .text
  | some _ => col.isNumeric

/-- What a select asks of the order of its table's rows: the terms of the ordering, grouping or
distinct results; whether they group (direction does not matter) or pick distinct rows; the
number of its results; the estimate of a constant `LIMIT`; and whether it is `DISTINCT`. -/
structure OrderKey where
  expr : Expr
  desc : Bool
  bigNull : Bool
  collation : Collation

/-- The state of a search along an index: how many leading columns are fixed, the terms used,
the term of a lower bound, the estimate of how many look-ups the lists of values make, the rows
estimated so far, and whether one row or a list of values has been reached. -/
structure Seek where
  eqCount : Nat
  used : List Nat
  lower : Option Nat
  inMul : Int
  out : Int
  oneRow : Bool
  columnIn : Bool

/-- The context of the ways through one probe: the table's terms, the probe and its place, the
group its ways compete in, whether it holds every column read, and the table's row width. -/
structure ProbeUse where
  terms : Array Term
  probe : Probe
  place : Nat
  sortIdx : Nat
  covering : Bool
  tableWidth : Int

/-- Whether a term may fix or bound the next column of an index. -/
def seekFits (table : Table) (s : Seek) (slot : Slot) (t : Term) (l : Lookup) : Bool :=
  let notNullColumn : Bool := match slot.column with
    | none => true
    | some i => table.columnNotNull i
  l.column == slot.column &&
    (s.lower.isNone || l.compare == .lt || l.compare == .le) &&
    !((l.compare == .isNull || t.vnull) && notNullColumn) &&
    match slot.column with
    | none => true
    | some i =>
      l.compare == .isNull ||
        (affinityFits l.affinity (((table.columns[i]?).map (·.affinity)).getD .blob) &&
          l.collation == slot.collation)

/-- The ways through an index that use terms of the filter, each column in turn fixed by an
equality or a list of values, or bounded from below, above or both, each way kept as found. -/
def ProbeUse.seek (u : ProbeUse) (table : Table) : Nat → Seek → List Loop → List Loop
  | 0, _, loops => loops
  | fuel + 1, s, loops =>
    match u.probe.slots[s.eqCount]? with
    | none => loops
    | some slot =>
      let rSize := u.probe.rowEst.getD 0 200
      let rLogSize := estLog rSize
      u.terms.toList.zipIdx.foldl (fun loops (t, k) =>
        match t.lookup with
        | none => loops
        | some l =>
          if !seekFits table s slot t l then loops
          else
            let used := s.used ++ [k]
            let nIn : Int := match l.compare with
              | .inValues n => logEst n
              | .inQuery => 46
              | _ => 0
            let isRange := l.compare == .lt || l.compare == .le || l.compare == .gt || l.compare == .ge
            let isLower := l.compare == .gt || l.compare == .ge
            let isUpper := l.compare == .lt || l.compare == .le
            let oneRow := s.oneRow ||
              (l.compare.isEquality &&
                (slot.column.isNone && u.probe.rowidOrder ||
                 (s.inMul == 0 && s.eqCount + 1 == u.probe.keyCount &&
                  (u.probe.uniqueNotNull || (u.probe.keyCount == 1 && u.probe.unique && l.compare == .eq)))))
            let out : Int :=
              if isRange then
                let lowerTerm : Option Term := if isLower then some t else (s.lower.bind (u.terms[·]?))
                let upperTerm : Option Term := if isUpper then some t else none
                let cut (b : Option Term) (n : Int) : Int := match b with
                  | some b => if b.vnull then n else n - 20
                  | none => n
                let nNew := cut upperTerm (cut lowerTerm s.out)
                let nNew := if lowerTerm.isSome && upperTerm.isSome then nNew - 20 else nNew
                let nOut := s.out - (if lowerTerm.isSome then 1 else 0) - (if upperTerm.isSome then 1 else 0)
                let nNew := if nNew < 10 then 10 else nNew
                if nNew < nOut then nNew else nOut
              else
                s.out + u.probe.rowEst.getD (s.eqCount + 1) 0 - u.probe.rowEst.getD s.eqCount 0 +
                  (if l.compare == .isNull then 10 else 0)
            let costIdx := if u.probe.rowidOrder then out + 16 else out + 1 + (15 * u.probe.width) / u.tableWidth
            let costIdx := logEstAdd rLogSize costIdx
            let run := if u.covering || u.probe.rowidOrder then costIdx else logEstAdd costIdx (out + 16)
            let unadjusted := out
            let columnIn := s.columnIn || l.compare.isMembership
            let eqCount := if isRange then s.eqCount else s.eqCount + 1
            let loop : Loop :=
              { probe := u.place, sortIdx := u.sortIdx, used := used, eqCount := eqCount,
                run := run + s.inMul + nIn,
                out := outputAdjust u.terms used (out + s.inMul + nIn) rSize,
                indexed := !u.probe.rowidOrder, covering := u.covering, oneRow := oneRow,
                columnIn := columnIn }
            let loops := insertLoop loops loop
            if !isUpper && eqCount < u.probe.slots.length &&
                (eqCount < u.probe.keyCount || !u.probe.primary) then
              u.seek table fuel
                { eqCount := eqCount, used := used, lower := if isLower then some k else s.lower,
                  inMul := s.inMul + nIn, out := if isRange then s.out else unadjusted,
                  oneRow := oneRow, columnIn := columnIn } loops
            else loops) loops

/-- Whether a probe may help the order asked for: a term of it is the row id or a key column of
the probe. -/
def ScanContext.mightHelp (c : ScanContext) (keys : List OrderKey) (p : Probe) : Bool :=
  keys.any fun k =>
    match c.columnOf k.expr.withoutCollate with
    | some none => true
    | some (some i) => (p.slots.take p.keyCount).any (·.column == some i)
    | none => false

/-- All the ways to read the table, the probes taken in order: for each, a pass over all of it
when that may pay, then the searches its terms allow. -/
def ScanContext.loops (c : ScanContext) (terms : Array Term) (probes : List (Nat × Probe))
    (keys : List OrderKey) (colUsed : List Nat) : List Loop :=
  let tableWidth := c.table.rowWidth
  probes.zipIdx.foldl (fun loops ((sortPlace, p), place) =>
    if p.filter.any (fun f => !c.usablePartial terms f) then loops
    else
      let helps := c.mightHelp keys p
      let sortIdx := if helps then sortPlace else 0
      let rSize := p.rowEst.getD 0 200
      let holds (col : Option Nat) : Bool := p.slots.any (·.column == col)
      let covering := p.holdsAll || colUsed.all fun i => holds (some i)
      let full : Option Loop :=
        if p.rowidOrder then
          some { probe := place, sortIdx := sortIdx, used := [], eqCount := 0, run := rSize + 16,
                 out := outputAdjust terms [] rSize rSize, indexed := false, covering := false,
                 oneRow := false, columnIn := false }
        else if helps || c.table.withoutRowid || p.filter.isSome || (covering && p.width < tableWidth) then
          let run := rSize + 1 + (15 * p.width) / tableWidth
          let run := if covering then run
            else
              let (nLookup, _) := terms.toList.foldl (fun (acc : Int × Bool) t =>
                if !acc.2 then acc
                else if t.reads.all holds then
                  (acc.1 - 1 - (if (t.lookup.any (·.compare.isEquality)) then 19 else 0), true)
                else (acc.1, false)) (rSize + 16, true)
              logEstAdd run nLookup
          some { probe := place, sortIdx := sortIdx, used := [], eqCount := 0, run := run,
                 out := outputAdjust terms [] rSize rSize, indexed := true, covering := covering,
                 oneRow := false, columnIn := false }
        else none
      let loops := match full with
        | some l => insertLoop loops l
        | none => loops
      let use : ProbeUse :=
        { terms := terms, probe := p, place := place, sortIdx := sortIdx, covering := covering,
          tableWidth := tableWidth }
      use.seek c.table (2 * p.slots.length + 2)
        { eqCount := 0, used := [], lower := none, inMul := 0, out := rSize, oneRow := false,
          columnIn := false } loops) []

/-! ## Order -/

/-- The first term of the filter that fixes a column by an allowed comparison, an equality
preferred. -/
def findFixing (terms : Array Term) (col : Option Nat) (allowed : Compare → Bool) : Option (Nat × Lookup) :=
  let found := terms.toList.zipIdx.filterMap fun (t, k) =>
    t.lookup.bind fun l => if l.column == col && allowed l.compare then some (k, l) else none
  (found.find? fun (_, l) => l.compare == .eq).orElse fun _ => found.head?

/-- How a way to read the table meets the order asked for: how many leading terms of it the rows
already follow (all of them, or -1 when the rows are distinct in the terms it names but others
are left), and whether the way must read backwards for it. Grouping ignores directions; picking
distinct rows or grouping lets any term match the next column; `limited` lets lists of values
count as fixed columns. -/
def ScanContext.satisfies (c : ScanContext) (terms : Array Term) (probes : List (Nat × Probe))
    (keys : List OrderKey) (grouping distinctRows limited : Bool) (l : Loop) : Int × Bool :=
  let n := keys.length
  let fixesColumn (op : Compare) : Bool :=
    op.isEquality || op == .isNull || (limited && op.isMembership)
  let fixed : List Bool := keys.map fun k =>
    match c.columnOf k.expr.withoutCollate with
    | none => false
    | some col =>
      match findFixing terms col fixesColumn with
      | none => false
      | some (idx, lk) =>
        if lk.compare.isMembership then l.used.contains idx
        else if lk.compare.isEquality && col.isSome then lk.collation == k.collation
        else true
  let probe := ((probes[l.probe]?).map (·.2)).getD rowidProbe
  let (sat, distinct, rev) : List Bool × Bool × Bool :=
    if l.oneRow then (fixed, true, false)
    else
      let nKey := if probe.rowidOrder then 0 else probe.keyCount
      let start : Bool := if probe.rowidOrder then true else probe.unique
      -- the walk over the probe's columns keeps: the terms satisfied, whether the rows are still
      -- distinct, the direction, whether it is known, whether the row id matched, and a stop
      let result := (probe.slots.zipIdx).foldl (fun (acc : List Bool × Bool × Bool × Bool × Bool × Bool) (slot, j) =>
        let (sat, distinct, rev, revSet, rowidMatch, stopped) := acc
        if stopped then acc
        else
          let fixedOp : Option Compare :=
            if j < l.eqCount then ((l.used[j]?.bind (terms[·]?)).bind (·.lookup)).map (·.compare) else none
          if fixedOp.any fixesColumn then
            let op := fixedOp.getD .eq
            (sat, distinct && !(op == .isNull || op == .is), rev, revSet, rowidMatch, false)
          else
            let distinct := distinct &&
              !((slot.column.isSome && j ≥ l.eqCount && !(slot.column.any c.table.columnNotNull)))
            let candidates := (keys.zipIdx.filter fun (_, i) => !(sat.getD i true))
            let candidates := if grouping || distinctRows then candidates else candidates.take 1
            let found := candidates.find? fun (k, _) =>
              c.columnOf k.expr.withoutCollate == some slot.column &&
                (slot.column.isNone || k.collation == slot.collation)
            match found with
            | none => (sat, distinct && !(j == 0 || j < nKey), rev, revSet, rowidMatch, true)
            | some (k, i) =>
              let (ok, rev, revSet) :=
                if grouping then (true, rev, revSet)
                else if revSet then ((rev != slot.desc) == k.desc, rev, revSet)
                else (true, slot.desc != k.desc, true)
              let ok := ok && (!k.bigNull || j == l.eqCount)
              if ok then
                (sat.set i true, distinct, rev, revSet, rowidMatch || slot.column.isNone, false)
              else (sat, distinct && !(j == 0 || j < nKey), rev, revSet, rowidMatch, true))
        (fixed, start, false, false, false, false)
      let (sat, distinct, rev, _, rowidMatch, _) := result
      (sat, distinct || rowidMatch, rev)
  let sat := if distinct then
      (sat.zip keys).map fun (s, k) => s || !(c.reads 10000 k.expr).isEmpty || isFixedTerm 10000 k.expr
    else sat
  if sat.all id then (n, rev)
  else if !distinct then
    let lead := ((List.range n).reverse.find? fun i => i > 0 && (sat.take i).all id).getD 0
    (lead, rev)
  else (-1, rev)

/-- The estimated cost of sorting rows: their number and width, less for a part already in order,
and their logarithm, of no more rows than a limit keeps (of fewer for distinct rows). -/
def sortingCost (nRow : Int) (nOrderBy nSorted nResults : Nat) (limit : Option Int) (wantDistinct : Bool) : Int :=
  let nCol := logEst ((nResults + 59) / 30)
  let cost := nRow + nCol
  let cost := if nSorted > 0 then cost + logEst ((nOrderBy - nSorted) * 100 / nOrderBy) - 66 else cost
  let (cost, rows) := match limit with
    | some lim => (cost + 10 + (if nSorted != 0 then 6 else 0), if lim < nRow then lim else nRow)
    | none => (cost, if wantDistinct && nRow > 10 then nRow - 10 else nRow)
  cost + estLog rows

/-- A way to read the table with what it costs with the order asked for: how far the rows follow
it, whether to read backwards, the cost with any sort, the cost without, and the rows. -/
structure Path where
  loop : Loop
  ordered : Int
  rev : Bool
  cost : Int
  unsorted : Int
  rows : Int

/-- The cheapest way to read, considering the ways in order; `order` gives for a way how far it
meets the order asked for (none on the first pass) and `sortCost` the cost of sorting the rest.
A way replaces the best so far when it is cheaper, or as cheap with fewer rows or a cheaper read;
a way that differs in whether its order is known must be cheaper still. -/
def choosePath (loops : List Loop) (nOrderBy : Nat) (order : Option (Loop → Int × Bool))
    (sortCost : Nat → Int) : Option Path :=
  loops.foldl (fun best l =>
    let unsorted := logEstAdd l.run 0
    let (ordered, rev) := match order with
      | some f => f l
      | none => (0, false)
    let (cost, unsorted) :=
      if 0 ≤ ordered && ordered < nOrderBy then (logEstAdd unsorted (sortCost ordered.toNat) + 3, unsorted)
      else (unsorted, unsorted - 2)
    let cand : Path := { loop := l, ordered := ordered, rev := rev, cost := cost, unsorted := unsorted, rows := l.out }
    match best with
    | none => some cand
    | some b =>
      if (b.ordered == -1) == (ordered == -1) then
        if b.cost < cost || (b.cost == cost && (b.rows < l.out || (b.rows == l.out && b.unsorted ≤ unsorted)))
        then best else some cand
      else if cost > b.cost || (cost == b.cost && unsorted ≥ b.rows) then best
      else some cand) none

/-- What a select asks of its table's rows: its filter, the order wanted (by `ORDER BY`, `GROUP
BY` or `DISTINCT`), whether grouping or distinct rows ask it, whether the grouping is also the
ordering, the number of its results, the estimate of a constant limit, whether it is `DISTINCT`,
and the columns of the table it reads. -/
structure ScanRequest where
  filter : Option Expr
  keys : List OrderKey
  grouping : Bool
  distinctRows : Bool
  sortByGroup : Bool
  results : Nat
  limit : Option Int
  wantDistinct : Bool
  colUsed : List Nat

/-- How the table is read: in the order of a probe, forwards or backwards, and whether that order
is all of the order asked for. -/
structure ScanPlan where
  probe : Probe
  reverse : Bool
  ordered : Bool

/-- Whether `DISTINCT` cannot remove a row: a result is the row id, or a unique index that is not
partial has each key column fixed by an equality of the filter or shown among the results (with
the index's collation), never `NULL` where not fixed. -/
def ScanContext.distinctRedundant (c : ScanContext) (terms : Array Term) (probes : List (Nat × Probe))
    (results : List (Expr × Collation)) : Bool :=
  results.any (fun (e, _) => c.columnOf e.withoutCollate == some none) ||
    probes.any fun (_, p) =>
      !p.rowidOrder && p.unique && p.filter.isNone &&
        (p.slots.take p.keyCount).all fun s =>
          let fixedBy := terms.toList.any fun t => t.lookup.any fun l =>
            l.column == s.column && l.compare == .eq &&
              (s.column.isNone ||
                (affinityFits l.affinity ((s.column.bind (c.table.columns[·]?)).map (·.affinity) |>.getD .blob) &&
                  l.collation == s.collation))
          fixedBy ||
            (results.any (fun (e, coll) => c.columnOf e.withoutCollate == some s.column && coll == s.collation) &&
              (s.column.all c.table.columnNotNull))

/-- Chooses how to read the table: the cheapest way without regard to order, then again with the
cost of sorting what the order asked for leaves, over the rows the first choice gives. -/
def ScanContext.plan (c : ScanContext) (probes : List (Nat × Probe)) (r : ScanRequest) : ScanPlan :=
  let terms := c.terms r.filter
  let redundant := r.distinctRows && c.distinctRedundant terms probes (r.keys.map fun k => (k.expr, k.collation))
  let r := if redundant then { r with keys := [] } else r
  let loops := c.loops terms probes r.keys r.colUsed
  let probeOf (l : Loop) : Probe := ((probes[l.probe]?).map (·.2)).getD rowidProbe
  let fallback : ScanPlan := { probe := (probes.head?.map (·.2)).getD rowidProbe, reverse := false, ordered := false }
  match choosePath loops 0 none (fun _ => 0) with
  | none => fallback
  | some first =>
    if r.keys.isEmpty then { probe := probeOf first.loop, reverse := false, ordered := false }
    else
      let n := r.keys.length
      let nRowEst := first.rows + 1
      let order := c.satisfies terms probes r.keys r.grouping r.distinctRows false
      let cost (sorted : Nat) : Int := sortingCost nRowEst n sorted r.results r.limit r.wantDistinct
      match choosePath loops n (some order) cost with
      | none => fallback
      | some best =>
        let l := best.loop
        let satisfied := best.ordered == n
        let rev :=
          if r.distinctRows then false
          else if best.ordered ≤ 0 && !l.oneRow && !((probeOf l).rowidOrder && l.columnIn) then
            let (k, m) := c.satisfies terms probes r.keys false false true l
            if k == n then m else best.rev
          else if r.sortByGroup && satisfied then
            let (k, m) := c.satisfies terms probes r.keys false false false l
            if k == n then m else best.rev
          else best.rev
        { probe := probeOf l, reverse := rev, ordered := satisfied }

/-- The table's rows in the order a plan reads them: sorted by the probe's columns (each in its
direction and collation), ties kept in row-id order, and all reversed when read backwards. -/
def ScanPlan.arrange (p : ScanPlan) (rows : List (List Frame)) : List (List Frame) :=
  let keyOf (r : List Frame) : List Datum :=
    match r.head? with
    | none => []
    | some f => p.probe.slots.map fun s => match s.column with
      | some i => f.values.getD i .null
      | none => match f.rowid with
        | some id => .integer id
        | none => .null
  let cmp (a b : List Datum) : Ordering :=
    ((p.probe.slots.zip (a.zip b)).foldl (fun acc (s, x, y) =>
      if acc != .eq then acc
      else
        let o := Datum.compareWith s.collation x y
        if s.desc then o.swap else o) Ordering.eq)
  let keyed := rows.map fun r => (keyOf r, r)
  let sorted := (keyed.mergeSort fun a b => cmp a.1 b.1 != .gt).map (·.2)
  if p.reverse then sorted.reverse else sorted

end RosterSync.Database

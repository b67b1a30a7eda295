import RosterSync.Database.Syntax
import RosterSync.Database.Aggregate
import RosterSync.Database.Json.Functions

/-!
Orderings, aggregates over values, and window functions.

An ordering compares keys term by term, each term with its direction, its place for `NULL`s and
its collation; sorting is stable. An aggregate is computed from the argument values of the rows
it covers, in their order.

A window function runs over the rows of a partition, ordered; rows whose ordering keys are equal
are peers. `row_number`, `rank`, `dense_rank`, `percent_rank`, `cume_dist` and `ntile` number
rows, peer groups or buckets; `lag` and `lead` read the row an offset before or after the current
one. `first_value`, `last_value`, `nth_value` and the aggregates read the rows of the current row's
frame. A frame runs from its start to its end, counted in rows, in peer groups, or in ordering
values (`RANGE`, where an offset moves the current row's value), and may leave out the current
row, its peer group, or its peers other than itself.
-/

namespace RosterSync.Database

structure OrderRule where
  desc : Bool
  nulls : NullsOrder
  collation : Collation

def OrderRule.compare (r : OrderRule) (a b : Datum) : Ordering :=
  match a == .null, b == .null with
  | true, true => .eq
  | true, false =>
    match r.nulls with
    | .first => .lt
    | .last => .gt
    | .natural => if r.desc then .gt else .lt
  | false, true =>
    match r.nulls with
    | .first => .gt
    | .last => .lt
    | .natural => if r.desc then .lt else .gt
  | false, false =>
    let o := Datum.compareWith r.collation a b
    if r.desc then o.swap else o

/-- Compares two lists of keys under the rules of an ordering. -/
def compareKeys : List OrderRule → List Datum → List Datum → Ordering
  | r :: rules, a :: as, b :: bs =>
    match r.compare a b with
    | .eq => compareKeys rules as bs
    | o => o
  | _, _, _ => .eq

def sortByKeys {α : Type} (rules : List OrderRule) (rows : List (α × List Datum)) : List (α × List Datum) :=
  if rules.isEmpty then rows else rows.mergeSort fun a b => compareKeys rules a.2 b.2 != .gt

/-- The aggregate `name` over the argument values of the rows it covers (`*` counts rows).
`coll` is the collation of the arguments and `json` tells, per argument, where its text comes
from. -/
def aggregateOf (name : String) (distinct star : Bool) (coll : Collation) (json : List TextOrigin)
    (argRows : List (List Datum)) : Except String Datum :=
  if star then .ok (.integer argRows.length)
  else
    let firsts := argRows.map fun vs => vs.headD .null
    let firsts := if distinct then distinctValues coll (firsts.filter (· != .null)) else firsts
    match name with
    | "count" => .ok (.integer (firsts.filter (· != .null)).length)
    | "sum" => (firsts.foldl SumState.add SumState.empty).sumResult
    | "total" => .ok (firsts.foldl SumState.add SumState.empty).totalResult
    | "avg" => .ok (firsts.foldl SumState.add SumState.empty).avgResult
    | "min" => .ok (extremeOf false coll firsts)
    | "max" => .ok (extremeOf true coll firsts)
    | "group_concat" | "string_agg" =>
      if distinct then .ok (groupConcat (firsts.map fun v => (v, none)))
      else .ok (groupConcat (argRows.map fun vs => (vs.headD .null, vs[1]?)))
    | "json_group_array" | "jsonb_group_array" => do
      let items ← firsts.mapM (embeddedValue (json.headD .plain))
      (if name = "json_group_array" then JsonForm.text else .binary).ofBuiltText
        (JNode.arr items).render
    | "json_group_object" | "jsonb_group_object" => do
      let members := argRows.filterMap fun vs =>
        match vs with
        | [k, v] => k.text?.map fun key => (untilZero key, v)
        | _ => none
      let ms ← members.mapM fun (m : String × Datum) =>
        (embeddedValue (json.getD 1 .plain) m.2).map fun j => (((JText.raw, m.1) : JLabel), j)
      (if name = "json_group_object" then JsonForm.text else .binary).ofBuiltText
        (JNode.obj ms).render
    | _ => .error ("no such function: " ++ name)

def windowOnlyFunctions : List String :=
  ["row_number", "rank", "dense_rank", "percent_rank", "cume_dist", "ntile", "lag", "lead",
   "first_value", "last_value", "nth_value"]

/-- Whether a window function takes a number of arguments. -/
def windowArity (name : String) (n : Nat) : Bool :=
  match name with
  | "ntile" | "first_value" | "last_value" => n == 1
  | "nth_value" => n == 2
  | "lag" | "lead" => 1 ≤ n && n ≤ 3
  | _ => n == 0

/-- One end of a frame with its offset evaluated: unbounded (the partition's edge on its side),
the current row's, or an offset before or after it. -/
inductive Edge where
  | unbounded
  | current
  | offset (before : Bool) (n : Datum)

structure FrameShape where
  unit : FrameUnit
  start : Edge
  finish : Edge
  exclude : FrameExclude

/-- The frame a window has when it names none: from the partition's start to the current row's
last peer. -/
def defaultFrame : FrameShape :=
  { unit := .range, start := .unbounded, finish := .current, exclude := .noOthers }

inductive WindowFn where
  | rowNumber
  | rank
  | denseRank
  | percentRank
  | cumeDist
  | ntile
  | lag
  | lead
  | firstValue
  | lastValue
  | nthValue
  | aggregate (name : String) (star : Bool) (coll : Collation) (json : List TextOrigin)

/-- The window function of a built-in name, if it is one. -/
def WindowFn.builtin? (name : String) : Option WindowFn :=
  match name with
  | "row_number" => some .rowNumber
  | "rank" => some .rank
  | "dense_rank" => some .denseRank
  | "percent_rank" => some .percentRank
  | "cume_dist" => some .cumeDist
  | "ntile" => some .ntile
  | "lag" => some .lag
  | "lead" => some .lead
  | "first_value" => some .firstValue
  | "last_value" => some .lastValue
  | "nth_value" => some .nthValue
  | _ => none

/-- A row of a partition as a window call sees it: its place among all rows, its ordering keys,
its argument values and whether the call's filter keeps it. -/
structure WindowRow where
  index : Nat
  keys : List Datum
  args : List Datum
  kept : Bool

/-- The peer group of each position of a partition, numbered from zero. -/
def peerGroups (rules : List OrderRule) (rows : List WindowRow) : List Nat :=
  let step := fun (acc : List Nat × Option (List Datum)) (r : WindowRow) =>
    let (ids, prev) := acc
    match prev, ids with
    | some k, g :: _ => ((if compareKeys rules k r.keys == .eq then g else g + 1) :: ids, some r.keys)
    | _, _ => (0 :: ids, some r.keys)
  (rows.foldl step ([], none)).1.reverse

/-- The first position of each peer group and the position after its last. -/
def groupBounds (ids : List Nat) : List (Nat × Nat) :=
  let count := (ids.getLast?.map (· + 1)).getD 0
  (List.range count).map fun g =>
    let first := (ids.findIdx? (· == g)).getD ids.length
    let past := first + (ids.filter (· == g)).length
    (first, past)

/-- The number of positions from the front for which a test holds, stopping at the first that
fails it. -/
def prefixLength {α : Type} (p : α → Bool) (xs : List α) : Nat := (xs.takeWhile p).length

/-- The ordering value of a `RANGE` frame's edge: the current value moved by an offset (texts and
byte strings do not move), or an error when the offset is no number. -/
def movedValue (v n : Datum) (up : Bool) : Datum :=
  match v with
  | .text _ | .blob _ | .null => v
  | _ =>
    match v.number?, n.number? with
    | some (.int a), some (.int b) =>
      let r := if up then a + b else a - b
      if fitsI64 r then .integer r
      else .real (if up then (Binary64.ofInt a).add (Binary64.ofInt b) else (Binary64.ofInt a).sub (Binary64.ofInt b))
    | some a, some b =>
      let x := match a with | .int i => Binary64.ofInt i | .real r => r
      let y := match b with | .int i => Binary64.ofInt i | .real r => r
      .real (if up then x.add y else x.sub y)
    | _, _ => v

def compareNullLow (coll : Collation) (a b : Datum) : Ordering :=
  match a == .null, b == .null with
  | true, true => .eq
  | true, false => .lt
  | false, true => .gt
  | false, false => Datum.compareWith coll a b

/-- The positions `[lo, hi)` of the frame of position `i` in a partition of `n` rows, given the
peer group of every position and the bounds of every group. -/
def frameRange (f : FrameShape) (rules : List OrderRule) (rows : List WindowRow) (ids : List Nat)
    (bounds : List (Nat × Nat)) (i : Nat) : Nat × Nat :=
  let n := rows.length
  let g := ids.getD i 0
  let groups := bounds.length
  let (gFirst, gPast) := bounds.getD g (i, i + 1)
  let count (d : Datum) : Nat := d.intValue.toNat
  let rule := rules.headD { desc := false, nulls := .natural, collation := .binary }
  let values := rows.map fun r => r.keys.headD .null
  let v := values.getD i .null
  -- In a `RANGE` frame, the first position whose value is not before `t` (`strict`: not at or
  -- before it), in the ordering's direction.
  let reach (t : Datum) (strict : Bool) : Nat :=
    prefixLength (fun w =>
      let c := compareNullLow rule.collation w t
      let c := if rule.desc then c.swap else c
      if strict then c != .gt else c == .lt) values
  let lo := match f.start with
    | .unbounded => 0
    | .current => if f.unit == .rows then i else gFirst
    | .offset before d =>
      match f.unit with
      | .rows => if before then i - count d else i + count d
      | .groups =>
        if before then (bounds.getD (g - count d) (0, 0)).1
        else if g + count d < groups then (bounds.getD (g + count d) (n, n)).1 else n
      | .range => if v == .null then gFirst else reach (movedValue v d (rule.desc == before)) false
  let hi := match f.finish with
    | .unbounded => n
    | .current => if f.unit == .rows then i + 1 else gPast
    | .offset before d =>
      match f.unit with
      | .rows => if before then (if count d ≤ i then i - count d + 1 else 0) else min n (i + count d + 1)
      | .groups =>
        if before then (if count d ≤ g then (bounds.getD (g - count d) (0, 0)).2 else 0)
        else (bounds.getD (min (g + count d) (groups - 1)) (n, n)).2
      | .range => if v == .null then gPast else reach (movedValue v d (rule.desc == before)) true
  (lo, hi)

/-- The positions of the frame of position `i`, after the frame's exclusion. -/
def framePositions (f : FrameShape) (rules : List OrderRule) (rows : List WindowRow) (ids : List Nat)
    (bounds : List (Nat × Nat)) (i : Nat) : List Nat :=
  let (lo, hi) := frameRange f rules rows ids bounds i
  let inFrame := (List.range (hi - lo)).map (· + lo)
  let g := ids.getD i 0
  match f.exclude with
  | .noOthers => inFrame
  | .currentRow => inFrame.filter (· != i)
  | .group => inFrame.filter fun j => ids.getD j 0 != g
  | .ties => inFrame.filter fun j => j == i || ids.getD j 0 != g

def ratio (a b : Nat) : Datum := .real ((Binary64.ofInt a).div (Binary64.ofInt b))

/-- The position `lag` or `lead` reads: the current position moved by an offset, when the moved
place is a whole number inside the partition. -/
def shiftedPosition (n i : Nat) (offset : Datum) (forward : Bool) : Option Nat :=
  let target : Option Int := match offset.number? with
    | some (.int k) => some (if forward then i + k else i - k)
    | some (.real x) =>
      if x.isIntegral then some (if forward then i + x.truncate else i - x.truncate) else none
    | none => none
  match target with
  | some t => if 0 ≤ t && t < n then some t.toNat else none
  | none => none

/-- The bucket of position `i` of `n` rows among `buckets` buckets, the first ones one row larger
when the rows do not divide evenly. -/
def ntileBucket (n buckets i : Nat) : Nat :=
  let size := n / buckets
  if size == 0 then i + 1
  else
    let large := n - buckets * size
    let small := large * (size + 1)
    if i < small then 1 + i / (size + 1) else 1 + large + (i - small) / size

/-- The `N` of `nth_value`: a positive whole number, or a text that reads as one. -/
def nthIndex? (d : Datum) : Option Nat :=
  match d.withAffinity .numeric with
  | .integer k => if k > 0 then some k.toNat else none
  | .real x => if x.isIntegral && x.truncate > 0 then some x.truncate.toNat else none
  | _ => none

/-- The value of a window call at position `i` of a partition. -/
def windowValueAt (fn : WindowFn) (f : FrameShape) (rules : List OrderRule) (rows : List WindowRow)
    (ids : List Nat) (bounds : List (Nat × Nat)) (i : Nat) : Except String Datum :=
  let n := rows.length
  let row := rows.getD i { index := 0, keys := [], args := [], kept := false }
  let (gFirst, gPast) := bounds.getD (ids.getD i 0) (i, i + 1)
  let arg (r : WindowRow) (k : Nat) : Datum := r.args.getD k .null
  let frame := framePositions f rules rows ids bounds i
  let frameRows := frame.filterMap fun j => rows[j]?
  match fn with
  | .rowNumber => .ok (.integer (i + 1))
  | .rank => .ok (.integer (gFirst + 1))
  | .denseRank => .ok (.integer (ids.getD i 0 + 1))
  | .percentRank => .ok (if n > 1 then ratio gFirst (n - 1) else .real (Binary64.zero false))
  | .cumeDist => .ok (ratio gPast n)
  | .ntile =>
    let buckets := (rows.headD row).args.headD .null |>.intValue
    if buckets ≤ 0 then .error "argument of ntile must be a positive integer"
    else .ok (.integer (ntileBucket n buckets.toNat i))
  | .lag | .lead =>
    let offset := if row.args.length ≥ 2 then arg row 1 else .integer 1
    match shiftedPosition n i offset (match fn with | .lead => true | _ => false) with
    | some j => .ok (arg (rows.getD j row) 0)
    | none => .ok (arg row 2)
  | .firstValue => .ok ((frameRows.head?.map (arg · 0)).getD .null)
  | .lastValue => .ok ((frameRows.getLast?.map (arg · 0)).getD .null)
  | .nthValue =>
    -- `N` is read from the current row; without an exclusion it is checked even when the frame
    -- is empty.
    if frameRows.isEmpty && f.exclude != .noOthers then .ok .null
    else
      match nthIndex? (arg row 1) with
      | none => .error "second argument to nth_value must be a positive integer"
      | some k => .ok (((frameRows[k - 1]?).map (arg · 0)).getD .null)
  | .aggregate name star coll json =>
    aggregateOf name false star coll json ((frameRows.filter (·.kept)).map (·.args))

/-- A frame's pass over one partition as its running sums see it: the value each row adds (none
when the call's filter drops the row), the peer group of each row, and the bounds `[lo, hi)` of
each row's frame, which a `RANGE` frame tests its cursors against. -/
structure SumFrame where
  shape : FrameShape
  values : Array (Option Datum)
  ids : Array Nat
  lows : Array Nat
  highs : Array Nat

/-- Where a running sum's pass over a partition stands: how many rows it has read, the next row
to add (`stop`), the next row to return (`current`), the next row to take back out (`start`), the
countdowns of the frame's start and end offsets, the sum, and the rows returned so far with the
sum each was returned with (last first). -/
structure SumPass where
  avail : Nat
  start : Nat
  current : Nat
  stop : Nat
  startCount : Int
  endCount : Int
  sum : SumState
  out : List (Nat × SumState)

/-- The position after the unit of rows that starts at `c`: one row, or for `RANGE` and `GROUPS`
frames the rest of its peer group among the rows read. -/
def SumFrame.unitEnd (f : SumFrame) (avail c : Nat) : Nat :=
  if f.shape.unit == .rows then c + 1
  else
    c + 1 + prefixLength (fun j => f.ids.getD j 0 == f.ids.getD c 0)
      ((List.range (avail - (c + 1))).map (· + (c + 1)))

/-- Folds the values of the rows `[a, b)` into a sum. -/
def SumFrame.foldRows (f : SumFrame) (act : SumState → Datum → SumState) (s : SumState) (a b : Nat) :
    SumState :=
  ((List.range (b - a)).map (· + a)).foldl (fun s j => ((f.values.getD j none).map (act s)).getD s) s

/-- Adds the unit at the end cursor to the sum. -/
def SumPass.add (f : SumFrame) (s : SumPass) : SumPass :=
  if s.stop ≥ s.avail then s
  else
    let e := f.unitEnd s.avail s.stop
    { s with sum := f.foldRows SumState.add s.sum s.stop e, stop := e }

/-- Takes the unit at the start cursor back out of the sum. -/
def SumPass.takeOut (f : SumFrame) (s : SumPass) : SumPass :=
  if s.start ≥ s.avail then s
  else
    let e := f.unitEnd s.avail s.start
    { s with sum := f.foldRows SumState.remove s.sum s.start e, start := e }

/-- Returns the unit at the current cursor, every row of it with the sum as it stands. -/
def SumPass.emit (f : SumFrame) (s : SumPass) : SumPass :=
  if s.current ≥ s.avail then s
  else
    let e := f.unitEnd s.avail s.current
    { s with out := ((List.range (e - s.current)).map (· + s.current)).reverse.map (·, s.sum) ++ s.out,
             current := e }

/-- Runs an operation unless the start countdown is positive, which it then lowers by one. -/
def SumPass.unlessStartCount (s : SumPass) (op : SumPass → SumPass) : SumPass :=
  if s.startCount > 0 then { s with startCount := s.startCount - 1 } else op s

/-- Runs an operation unless the end countdown is positive, which it then lowers by one. -/
def SumPass.unlessEndCount (s : SumPass) (op : SumPass → SumPass) : SumPass :=
  if s.endCount > 0 then { s with endCount := s.endCount - 1 } else op s

/-- Whether a `RANGE` frame's end cursor stands inside the current row's frame. -/
def SumPass.stopInFrame (f : SumFrame) (s : SumPass) : Bool :=
  s.stop < f.highs.getD s.current f.values.size

/-- Whether a `RANGE` frame's start cursor stands before the current row's frame. -/
def SumPass.startBeforeFrame (f : SumFrame) (s : SumPass) : Bool :=
  s.start < f.lows.getD s.current f.values.size

/-- Whether both ends of a frame are offsets on the same side of the current row. -/
def FrameShape.sameSide (f : FrameShape) : Bool :=
  match f.start, f.finish with
  | .offset a _, .offset b _ => a == b
  | _, _ => false

/-- Adds units while the end cursor stands inside the current row's frame (a `RANGE` end before
the current row); while rows are still being read, and both ends lie before the current row, the
cursor stays before the newest row. -/
def SumPass.addWhileInFrame (f : SumFrame) (reading : Bool) : Nat → SumPass → SumPass
  | 0, s => s
  | fuel + 1, s =>
    let fenced := reading && f.shape.sameSide && s.stop + 1 ≥ s.avail
    if s.stop < s.avail && s.stopInFrame f && !fenced then addWhileInFrame f reading fuel (s.add f)
    else s

/-- Takes units out while the start cursor stands before the current row's frame (a `RANGE`
start offset); when both ends lie on one side of the current row, the start cursor does not pass
the end cursor. -/
def SumPass.takeOutBeforeFrame (f : SumFrame) : Nat → SumPass → SumPass
  | 0, s => s
  | fuel + 1, s =>
    let fenced := f.shape.sameSide && s.start ≥ s.stop
    if s.start < s.avail && s.startBeforeFrame f && !fenced then takeOutBeforeFrame f fuel (s.takeOut f)
    else s

/-- Takes back out of the sum what leaves the frame after a row is returned: nothing for a frame
that starts with the partition, the rows before the frame for a `RANGE` offset, else one unit once
the start countdown has run out. -/
def SumPass.leave (f : SumFrame) (fuel : Nat) (s : SumPass) : SumPass :=
  match f.shape.start with
  | .unbounded => s
  | .current => s.takeOut f
  | .offset _ _ =>
    if f.shape.unit == .range then s.takeOutBeforeFrame f fuel
    else s.unlessStartCount (SumPass.takeOut f)

/-- Returns rows and takes rows out while the end cursor stands past the current row's frame, as
a `RANGE` frame ending after the current row does once a unit was added. -/
def SumPass.emitPastFrame (f : SumFrame) (leaveFirst : Bool) : Nat → SumPass → SumPass
  | 0, s => s
  | fuel + 1, s =>
    if s.current < s.avail && !s.stopInFrame f then
      let s := if leaveFirst then (s.leave f fuel).emit f else (s.emit f).leave f fuel
      emitPastFrame f leaveFirst fuel s
    else s

/-- What a pass does when a row arrives that starts a new unit (every row for `ROWS`). -/
def SumPass.arrive (f : SumFrame) (fuel : Nat) (s : SumPass) : SumPass :=
  let isRange := f.shape.unit == .range
  match f.shape.start, f.shape.finish with
  | .offset false _, finish =>
    let s := s.add f
    match finish with
    | .unbounded => s
    | _ =>
      if isRange then s.emitPastFrame f true fuel
      else (s.unlessEndCount (SumPass.emit f)).leave f fuel
  | start, .offset true _ =>
    let rangeBefore := isRange && (match start with | .offset true _ => true | _ => false)
    let s := if isRange then s.addWhileInFrame f true fuel else s.unlessEndCount (SumPass.add f)
    if rangeBefore then (s.leave f fuel).emit f
    else (s.emit f).leave f fuel
  | _, finish =>
    let s := s.add f
    match finish with
    | .unbounded => s
    | .current => (s.emit f).leave f fuel
    | .offset _ _ =>
      if isRange then s.emitPastFrame f false fuel
      else s.unlessEndCount fun s => (s.emit f).leave f fuel

/-- Returns the rows left once the partition has been read: with a start after the current row,
rows are returned and taken out until the start cursor runs out, then the rest returned. -/
def SumPass.drainFollowing (f : SumFrame) : Nat → SumPass → SumPass
  | 0, s => s
  | fuel + 1, s =>
    if s.current ≥ s.avail then s
    else
      let isRange := f.shape.unit == .range
      let unboundedEnd := match f.shape.finish with | .unbounded => true | _ => false
      if isRange then
        let s := s.takeOutBeforeFrame f fuel
        if s.start ≥ s.avail then drainRest f fuel s
        else drainFollowing f fuel (s.emit f)
      else
        let both := min s.startCount s.endCount
        let s := if !unboundedEnd && both > 0 then
            { s with startCount := s.startCount - both, endCount := s.endCount - both }
          else s
        let s := if unboundedEnd then s.unlessStartCount (SumPass.emit f)
          else s.unlessEndCount (SumPass.emit f)
        if s.current ≥ s.avail then s
        else
          let runs := unboundedEnd || s.startCount ≤ 0
          let s := if unboundedEnd then s.takeOut f else s.unlessStartCount (SumPass.takeOut f)
          if runs && s.start ≥ s.avail then drainRest f fuel s
          else drainFollowing f fuel s
where
  /-- Returns every row left. -/
  drainRest (f : SumFrame) : Nat → SumPass → SumPass
    | 0, s => s
    | fuel + 1, s => if s.current ≥ s.avail then s else drainRest f fuel (s.emit f)

/-- Returns every row left, taking out what leaves the frame after each. -/
def SumPass.drain (f : SumFrame) : Nat → SumPass → SumPass
  | 0, s => s
  | fuel + 1, s =>
    let s := s.emit f
    if s.current ≥ s.avail then s else drain f fuel (s.leave f fuel)

/-- What a pass does once the partition has been read. -/
def SumPass.finish (f : SumFrame) (fuel : Nat) (s : SumPass) : SumPass :=
  let isRange := f.shape.unit == .range
  match f.shape.start, f.shape.finish with
  | start, .offset true _ =>
    let rangeBefore := isRange && (match start with | .offset true _ => true | _ => false)
    let s := if isRange then s.addWhileInFrame f false fuel else s.unlessEndCount (SumPass.add f)
    (if rangeBefore then s.leave f fuel else s).emit f
  | .offset false _, _ => (s.add f).drainFollowing f fuel
  | _, _ => (s.add f).drain f fuel

def Edge.count : Edge → Int
  | .offset _ d => d.intValue
  | _ => 0

/-- The sums a window returns over one partition, row by row, as its single pass computes them:
each arriving row that starts a unit adds, returns and takes out rows by the frame's kind, and
the rest are returned once the partition is read. A frame whose two offsets on one side leave it
empty returns an empty sum for every row. Rows added and taken out this way can make a sum
compensated, or overflow, though no frame holds them together. -/
def runningSums (f : SumFrame) : List (Nat × SumState) :=
  let n := f.values.size
  let fuel := 4 * n + 8
  let startCount := f.shape.start.count
  let endCount := f.shape.finish.count
  let empty : Bool := f.shape.unit != .range &&
    match f.shape.start, f.shape.finish with
    | .offset false _, .offset false _ => endCount < startCount
    | .offset true _, .offset true _ => endCount > startCount
    | _, _ => false
  if n = 0 then []
  else if empty then (List.range n).map (·, SumState.empty)
  else
    let startCount := match f.shape.start, f.shape.finish with
      | .offset false _, .offset _ _ => if f.shape.unit == .range then startCount else endCount - startCount
      | _, _ => startCount
    let first : SumPass :=
      { avail := 1, start := 0, current := 0, stop := 0, startCount := startCount, endCount := endCount,
        sum := SumState.empty, out := [] }
    let read := (List.range (n - 1)).foldl (fun s k =>
      let s := { s with avail := k + 2 }
      if f.shape.unit != .rows && f.ids.getD (k + 1) 0 == f.ids.getD k 0 then s
      else s.arrive f fuel) first
    (read.finish f fuel).out.reverse

/-- The values of a window call over one partition, in order: each row's place with its value.
`sum`, `total` and `avg` over a frame that leaves nothing out run in one pass; everything else is
computed from each row's frame afresh. -/
def partitionValues (fn : WindowFn) (f : FrameShape) (rules : List OrderRule) (rows : List WindowRow) :
    Except String (List (Nat × Datum)) :=
  let ids := peerGroups rules rows
  let bounds := groupBounds ids
  let places := rows.map (·.index)
  let summed := match fn, f.exclude with
    | .aggregate name false _ _, .noOthers =>
      if name == "sum" || name == "total" || name == "avg" then some name else none
    | _, _ => none
  match summed with
  | some name =>
    let ranges := (List.range rows.length).map (frameRange f rules rows ids bounds)
    let frame : SumFrame :=
      { shape := f, values := (rows.map fun r => if r.kept then some (r.args.headD .null) else none).toArray,
        ids := ids.toArray, lows := (ranges.map (·.1)).toArray, highs := (ranges.map (·.2)).toArray }
    (runningSums frame).mapM fun (j, s) => do
      let v ← match name with
        | "sum" => s.sumResult
        | "total" => pure s.totalResult
        | _ => pure s.avgResult
      pure (places.getD j 0, v)
  | none => (List.range rows.length).mapM fun i => do
    pure (places.getD i 0, ← windowValueAt fn f rules rows ids bounds i)

/-- Splits rows in order into runs whose partition keys are equal under collations. -/
def partitionRuns {α : Type} (colls : List Collation) (key : α → List Datum) (rows : List α) : List (List α) :=
  let same (a b : List Datum) : Bool :=
    (a.zip b).zip colls |>.all fun ((x, y), c) => Datum.compareWith c x y == .eq
  (rows.foldl (fun (acc : List (List α)) r =>
    match acc with
    | (run@(last :: _)) :: more => if same (key last) (key r) then (r :: run) :: more else [r] :: acc
    | _ => [r] :: acc) []).reverse.map List.reverse

end RosterSync.Database

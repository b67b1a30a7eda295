import RosterSync.Database.Datum

/-!
Aggregate functions over the values of a group.

`count` counts values that are not `NULL` (or rows, with `*`); `min` and `max` keep the first of
the least or greatest values under a collation. `sum` adds integers exactly while every value is
an integer and the total fits 64 bits; otherwise it adds doubles with Kahan–Babuška–Neumaier
compensation (integers from `2^52` on are split so that no bits are lost), and a 64-bit overflow
that no double ever followed is an error. `total` is the same sum as a double and `avg` divides
it by the count. `group_concat` joins the texts of its values, each after the separator of its
own row.
-/

namespace RosterSync.Database

structure SumState where
  count : Nat
  approx : Bool
  overflow : Bool
  iSum : Int
  rSum : Float
  rErr : Float

def SumState.empty : SumState :=
  { count := 0, approx := false, overflow := false, iSum := 0, rSum := 0, rErr := 0 }

def floatOfInt (i : Int) : Float := (Binary64.ofInt i).toFloat

def SumState.step (s : SumState) (r : Float) : SumState :=
  let t := s.rSum + r
  let err := if s.rSum.abs > r.abs then (s.rSum - t) + r else (r - t) + s.rSum
  { s with rErr := s.rErr + err, rSum := t }

/-- Whether an integer is too large for a double to hold exactly. -/
def isBigForDouble (i : Int) : Bool := i ≤ -4503599627370496 || i ≥ 4503599627370496

/-- One compensated step by an integer, split when large. -/
def SumState.stepInt (s : SumState) (i : Int) : SumState :=
  if isBigForDouble i then
    let small := i.tmod 16384
    (s.step (floatOfInt (i - small))).step (floatOfInt small)
  else s.step (floatOfInt i)

def SumState.startApprox (s : SumState) : SumState :=
  if isBigForDouble s.iSum then
    let small := s.iSum.tmod 16384
    { s with approx := true, rSum := floatOfInt (s.iSum - small), rErr := floatOfInt small }
  else { s with approx := true, rSum := floatOfInt s.iSum, rErr := 0 }

/-- Whether a value counts as an integer for a sum: an integer, or a text that is wholly one. -/
def sumsAsInteger? : Datum → Option Int
  | .integer i => some i
  | .text s => match numericText false s with
    | .integer i => some i
    | _ => none
  | _ => none

/-- The double a value adds to a sum that is not an integer. -/
def sumReal (d : Datum) : Float :=
  (match d with
    | .text str => match numericText false str with
      | .real x => x
      | _ => d.realValue
    | _ => d.realValue).toFloat

def SumState.add (s : SumState) (d : Datum) : SumState :=
  if d == .null then s else
  let s := { s with count := s.count + 1 }
  match sumsAsInteger? d with
  | some i =>
    if s.approx then s.stepInt i
    else
      let t := s.iSum + i
      if fitsI64 t then { s with iSum := t }
      else { s.startApprox with overflow := true }.stepInt i
  | none =>
    if s.approx then { s with overflow := false }.step (sumReal d)
    else s.startApprox.step (sumReal d)

/-- Takes one value that was added back out of a sum, as a window does when a row leaves its
frame. An exact sum subtracts it, wrapping around on overflow; a compensated sum adds its
negation, so a sum that once held a double stays compensated. -/
def SumState.remove (s : SumState) (d : Datum) : SumState :=
  if d == .null then s else
  let s := { s with count := s.count - 1 }
  match sumsAsInteger? d, s.approx with
  | some i, true =>
    if i == minI64 then (s.stepInt maxI64).stepInt 1 else s.stepInt (-i)
  | _, true => s.step (-(sumReal d))
  | _, false => { s with iSum := wrapI64 (s.iSum - d.intValue) }

/-- Whether a double is infinite or not a number. -/
def floatOverflows (r : Float) : Bool := r.isInf || r.isNaN

def SumState.real (s : SumState) : Float :=
  if s.approx then (if floatOverflows s.rErr then s.rSum else s.rSum + s.rErr) else floatOfInt s.iSum

def realResult (r : Float) : Datum :=
  if r.isNaN then .null else .real (Binary64.ofFloat r)

def SumState.sumResult (s : SumState) : Except String Datum :=
  if s.count = 0 then .ok .null
  else if s.approx then
    if s.overflow then .error "integer overflow" else .ok (realResult s.real)
  else .ok (.integer s.iSum)

def SumState.totalResult (s : SumState) : Datum := realResult s.real

def SumState.avgResult (s : SumState) : Datum :=
  if s.count = 0 then .null else realResult (s.real / floatOfInt s.count)

/-- The first least (or greatest) value that is not `NULL`. -/
def extremeOf (greatest : Bool) (coll : Collation) (values : List Datum) : Datum :=
  values.foldl (fun best v =>
    if v == .null then best
    else if best == .null then v
    else
      let c := Datum.compareWith coll best v
      if (greatest && c == .lt) || (!greatest && c == .gt) then v else best) .null

/-- The position of the first least (or greatest) value that is not `NULL`. -/
def extremeIndex (greatest : Bool) (coll : Collation) (values : List Datum) : Option Nat :=
  let step := fun (acc : Option (Nat × Datum)) (p : Nat × Datum) =>
    let (i, v) := p
    if v == .null then acc
    else match acc with
      | none => some (i, v)
      | some (j, best) =>
        let c := Datum.compareWith coll best v
        if (greatest && c == .lt) || (!greatest && c == .gt) then some (i, v) else some (j, best)
  ((List.range values.length).zip values |>.foldl step none).map (·.1)

/-- `group_concat` of values, each with the separator of its row. -/
def groupConcat (items : List (Datum × Option Datum)) : Datum :=
  let parts := items.filterMap fun (v, sep) =>
    v.text?.map fun t => (t, match sep with
      | some s => (s.text?).getD ""
      | none => ",")
  match parts with
  | [] => .null
  | (t, _) :: rest => .text (rest.foldl (fun acc (x, s) => acc ++ s ++ x) t)

def distinctValues (coll : Collation) (values : List Datum) : List Datum :=
  values.foldl (fun acc v =>
    if acc.any (fun w => Datum.compareWith coll w v == .eq) then acc else acc ++ [v]) []

end RosterSync.Database

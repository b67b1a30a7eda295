import RosterSync.Database.Binary64

/-!
Extended-precision numbers and the conversions between doubles and decimal digits.

The database converts between decimal text and doubles in the 80-bit extended format of the
machine's floating-point unit: a 64-bit significand scaled by a power of two, every product
rounded to 64 significant bits, to nearest with ties to even. Decimal text becomes a double by
gathering its digits into a significand below `2^64`, multiplying by powers of ten in extended
precision (hundreds of decades first, then tens, then single decades) and rounding the result
to a double. A double becomes decimal digits by multiplying it by powers of ten in extended
precision until it lies in `[10^17, 10^19)` and taking the integer part. Doing the same steps
keeps every digit the database writes, also where the procedure is not correctly rounded.

Only positive numbers are needed; the exponent range is wide enough that no conversion
overflows or underflows it.
-/

-- natural powers take the core instance even where the monoid power is in scope
attribute [local instance (2000)] instPowNat

namespace RosterSync.Database

/-- A positive extended-precision number `significand · 2 ^ exponent`; the significand is below
`2 ^ 64` and, unless the number is zero, at least `2 ^ 63`. -/
structure Extended where
  significand : Nat
  exponent : Int
deriving DecidableEq, Repr

namespace Extended

/-- The number `m · 2 ^ e` rounded to 64 significant bits, to nearest with ties to even. -/
def ofScaled (m : Nat) (e : Int) : Extended :=
  if m = 0 then ⟨0, 0⟩ else
  let len := m.log2 + 1
  if len ≤ 64 then ⟨m * 2 ^ (64 - len), e - ((64 - len : Nat) : Int)⟩
  else
    let sh := len - 64
    let q := m / 2 ^ sh
    let r := m % 2 ^ sh
    let half := 2 ^ (sh - 1)
    let q := if r > half ∨ (r = half ∧ q % 2 = 1) then q + 1 else q
    if q = 2 ^ (64 : Nat) then ⟨2 ^ (63 : Nat), e + (sh : Int) + 1⟩ else ⟨q, e + (sh : Int)⟩

/-- The ratio `num / den` rounded to 64 significant bits. The quotient is taken to at least 66
bits and a last bit records whether anything was left over, which decides ties exactly. -/
def ofRatio (num den : Nat) : Extended :=
  if num = 0 ∨ den = 0 then ⟨0, 0⟩ else
  let k : Int := 66 - ((num.log2 : Int) - den.log2)
  let n := if 0 ≤ k then num * 2 ^ k.toNat else num
  let d := if 0 ≤ k then den else den * 2 ^ (-k).toNat
  let sticky := if n % d = 0 then 0 else 1
  ofScaled (2 * (n / d) + sticky) (-k - 1)

/-- The extended number of a positive finite double, exactly. -/
def ofDouble (x : Binary64) : Extended := ofScaled x.significand x.power

def mul (x y : Extended) : Extended :=
  ofScaled (x.significand * y.significand) (x.exponent + y.exponent)

def compare (x y : Extended) : Ordering :=
  if x.significand = 0 then (if y.significand = 0 then .eq else .lt)
  else if y.significand = 0 then .gt
  else if x.exponent ≠ y.exponent then Ord.compare x.exponent y.exponent
  else Ord.compare x.significand y.significand

def lt (x y : Extended) : Bool := compare x y == .lt

def truncate (x : Extended) : Nat :=
  if 0 ≤ x.exponent then x.significand * 2 ^ x.exponent.toNat
  else x.significand / 2 ^ (-x.exponent).toNat

def toDouble (x : Extended) : Binary64 :=
  if 0 ≤ x.exponent then Binary64.ofRatio false (x.significand * 2 ^ x.exponent.toNat) 1
  else Binary64.ofRatio false x.significand (2 ^ (-x.exponent).toNat)

/-- `10 ^ n` in extended precision. -/
def tenTo (n : Nat) : Extended := ofScaled (10 ^ n) 0

/-- `10 ^ -n` in extended precision. -/
def tenToMinus (n : Nat) : Extended := ofRatio 1 (10 ^ n)

/-- `10 ^ 100`. -/
def up100 : Extended := tenTo 100

/-- `10 ^ 10`. -/
def up10 : Extended := tenTo 10

/-- `10`. -/
def up1 : Extended := tenTo 1

/-- `10 ^ -100`. -/
def down100 : Extended := tenToMinus 100

/-- `10 ^ -10`. -/
def down10 : Extended := tenToMinus 10

/-- `10 ^ -1`. -/
def down1 : Extended := tenToMinus 1

/-- The largest finite double, above which a converted number is infinite. -/
def doubleMax : Extended := ofScaled (2 ^ (53 : Nat) - 1) 971

/-- Multiplies by a factor while a test holds, counting the steps by `step`. -/
def scaleWhile (test : Extended → Bool) (factor : Extended) (step : Int) :
    Nat → Extended × Int → Extended × Int
  | 0, acc => acc
  | fuel + 1, (r, count) =>
    if test r then scaleWhile test factor step fuel (mul r factor, count + step) else (r, count)

/-- A significand times `10 ^ e`: multiplied by `10 ^ 100`, `10 ^ 10` and `10` (or their
inverses) in turn, as many times as the exponent holds each. -/
def scaleByTen (r : Extended) (e : Int) : Extended :=
  let n := e.natAbs
  let times (f : Extended) (k : Nat) (x : Extended) : Extended :=
    (scaleWhile (fun _ => true) f 0 k (x, 0)).1
  if 0 ≤ e then times up1 (n % 10) (times up10 (n % 100 / 10) (times up100 (n / 100) r))
  else times down1 (n % 10) (times down10 (n % 100 / 10) (times down100 (n / 100) r))

/-- A positive finite double moved into `[10^17, 10^19)` by powers of ten, with the number of
decades it moved: down by `10^100` while at least `10^119`, by `10^10` while at least `10^29`
and by `10` while at least `10^19`; or up by `10^100` while below `10^-97`, by `10^10` while
below `10^7` and by `10` while below `10^17`. -/
def decades (x : Binary64) : Extended × Int :=
  let r := ofDouble x
  if !r.lt (tenTo 19) then
    let acc := scaleWhile (fun r => !r.lt (tenTo 119)) down100 100 400 (r, 0)
    let acc := scaleWhile (fun r => !r.lt (tenTo 29)) down10 10 400 acc
    scaleWhile (fun r => !r.lt (tenTo 19)) down1 1 400 acc
  else
    let acc := scaleWhile (fun r => r.lt (tenToMinus 97)) up100 (-100) 400 (r, 0)
    let acc := scaleWhile (fun r => r.lt (tenTo 7)) up10 (-10) 400 acc
    scaleWhile (fun r => r.lt (tenTo 17)) up1 (-1) 400 acc

end Extended

namespace Binary64

/-- The largest unsigned 64-bit integer. -/
def u64Max : Nat := 2 ^ (64 : Nat) - 1

/-- Moves decades of the exponent into the significand while it stays below `2 ^ 64`. -/
def shiftUp : Nat → Nat → Int → Nat × Int
  | 0, s, e => (s, e)
  | fuel + 1, s, e => if e > 0 ∧ s < u64Max / 10 then shiftUp fuel (s * 10) (e - 1) else (s, e)

/-- Moves trailing zeros of the significand into a negative exponent. -/
def shiftDown : Nat → Nat → Int → Nat × Int
  | 0, s, e => (s, e)
  | fuel + 1, s, e => if e < 0 ∧ s % 10 = 0 ∧ s ≠ 0 then shiftDown fuel (s / 10) (e + 1) else (s, e)

/-- The double of `s · 10 ^ e` for a significand `s < 2 ^ 64`, as the database computes it: the
exponent first shrunk, then the significand scaled by decades in extended precision and
rounded to a double; past the largest finite double the result is infinite. -/
def ofScaled (neg : Bool) (s : Nat) (e : Int) : Binary64 :=
  if s = 0 then zero neg else
  let (s, e) := shiftUp 25 s e
  let (s, e) := shiftDown 25 s e
  let r := Extended.scaleByTen (Extended.ofScaled s 0) e
  let r := if Extended.compare r Extended.doubleMax == .gt then infinity false else r.toDouble
  if neg then r.negate else r

/-- The decimal digits of a natural number, most significant first. -/
def digitsOf (n : Nat) : List Nat := (Nat.toDigits 10 n).map fun c => c.toNat - 48

/-- Adds one to a list of decimal digits, least significant first; a carry out of the last
digit is reported. -/
def incrementDigits : List Nat → List Nat × Bool
  | [] => ([], true)
  | d :: ds => if d + 1 ≤ 9 then ((d + 1) :: ds, false)
    else let (ds', carry) := incrementDigits ds; (0 :: ds', carry)

/-- Decimal digits of a positive finite double: the significant digits (without trailing
zeros) and the place of the decimal point after the first `iDP` of them. A positive `iRound`
rounds to that many digits, a non-positive one to `-iRound` places after the point; rounding
looks only at the first dropped digit and never keeps more than `mxRound` digits. -/
def decimalDigits (x : Binary64) (iRound : Int) (mxRound : Nat) : List Nat × Int :=
  let (r, exp) := Extended.decades x
  let ds := digitsOf r.truncate
  let iDP : Int := ds.length + exp
  let (ds, iDP, iRound) :=
    if iRound ≤ 0 then
      let iRound := iDP - iRound
      if iRound = 0 ∧ ds.headD 0 ≥ 5 then (0 :: ds, iDP + 1, (1 : Int)) else (ds, iDP, iRound)
    else (ds, iDP, iRound)
  let (ds, iDP) :=
    if iRound > 0 ∧ (iRound < ds.length ∨ ds.length > mxRound) then
      let k := min iRound.toNat mxRound
      let kept := ds.take k
      if ds.getD k 0 ≥ 5 then
        let (up, carry) := incrementDigits kept.reverse
        if carry then (1 :: up.reverse, iDP + 1) else (up.reverse, iDP)
      else (kept, iDP)
    else (ds, iDP)
  let ds := (ds.reverse.dropWhile (· = 0)).reverse
  (ds, iDP)

end Binary64

end RosterSync.Database

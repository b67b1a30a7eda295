import RosterSync.Database.Extended

/-!
Doubles written as text.

A double is written by a conversion of the database's formatter: fixed (`f`), exponent (`e`,
`E`) or general (`g`, `G`), with a precision (six unless given), an optional sign prefix, the
alternate forms (`#` keeps the point, `!` keeps at least one digit after it and allows 26 digits
instead of 16), thousands separators (`,`) and zero padding to a width. General form chooses the
exponent form when the decimal exponent is below `-4` or not below the precision, and drops
trailing zeros unless `#` is given. Infinities are written `Inf`, or as `9.0e+999` when zero
padding is asked for.
-/

namespace RosterSync.Database

structure FloatFormat where
  conversion : Char
  precision : Option Nat
  signPrefix : Option Char
  alternate : Bool
  alternate2 : Bool
  zeroPad : Bool
  leftJustify : Bool
  thousands : Bool
  width : Nat
deriving Repr

inductive FloatLayout where
  | fixed
  | exponent
deriving DecidableEq

def digitChar (d : Nat) : Char := Char.ofNat (48 + d)

/-- The integer part of a fixed layout: digits for the places `e2` down to zero, a digit from the
significant ones while they last and zero after, with a separator before each group of three
when asked. -/
def integerPlaces (thousands : Bool) : Nat → List Nat → List Char
  | 0, ds => [digitChar (ds.headD 0)]
  | e + 1, ds =>
    let sep := if thousands && (e + 1) % 3 == 0 && e + 1 > 1 then [','] else []
    digitChar (ds.headD 0) :: sep ++ integerPlaces thousands e ds.tail

/-- Drops trailing zeros after the point; a bare point is dropped, or followed by one zero. -/
def trimFraction (keepOne : Bool) (cs : List Char) : List Char :=
  let r := cs.reverse.dropWhile (· = '0')
  match r with
  | '.' :: rest => if keepOne then ('0' :: '.' :: rest).reverse else rest.reverse
  | _ => r.reverse

/-- The exponent suffix: a letter, a sign and at least two digits. -/
def exponentSuffix (letter : Char) (exp : Int) : List Char :=
  let n := exp.natAbs
  let hundreds := if n ≥ 100 then [digitChar (n / 100)] else []
  let n := n % 100
  letter :: (if exp < 0 then '-' else '+') :: hundreds ++ [digitChar (n / 10), digitChar (n % 10)]

/-- Whether a format is the general one, which picks fixed or exponent layout by the exponent. -/
def FloatFormat.isGeneral (f : FloatFormat) : Bool := f.conversion == 'g' || f.conversion == 'G'

/-- The precision a format works with: six unless given, and at least one in general form. -/
def FloatFormat.places (f : FloatFormat) : Nat :=
  let p := f.precision.getD 6
  if f.isGeneral && p == 0 then 1 else p

/-- The significant digits of a finite double, or of an infinity under zero padding (a nine
at place 1000), rounded as the format asks, with the place of the decimal point. -/
def FloatFormat.digitsOf (f : FloatFormat) (x : Binary64) : List Nat × Int :=
  let iRound : Int :=
    if f.conversion == 'f' then -(f.places : Int) else if f.isGeneral then f.places else f.places + 1
  if x.isInfinite then ([9], 1000)
  else if x.isZero then ([0], 1)
  else x.abs.decimalDigits iRound (if f.alternate2 then 26 else 16)

/-- The layout of a number with a decimal exponent: fixed or exponent, the digits after the
point, and whether trailing zeros go. -/
def FloatFormat.layoutAt (f : FloatFormat) (exp : Int) : FloatLayout × Nat × Bool :=
  if f.isGeneral then
    let p := f.places - 1
    if exp < -4 ∨ exp > p then (.exponent, p, !f.alternate)
    else (.fixed, (p - exp).toNat, !f.alternate)
  else (if f.conversion == 'f' then .fixed else .exponent, f.places, f.alternate2)

/-- The room set aside to write a double: the places before the point, the digits after it,
the width and fifteen more, and a separator per three places when they are asked for. A NaN or
an infinity written as a word needs none. -/
def FloatFormat.scratchSize (f : FloatFormat) (x : Binary64) : Nat :=
  if x.isNaN || (x.isInfinite && !f.zeroPad) then 0 else
  let iDP := (f.digitsOf x).2
  let (layout, precision, _) := f.layoutAt (iDP - 1)
  let e2 : Int := if layout == .exponent then 0 else iDP - 1
  let separators := if f.thousands && e2 > 0 then ((e2 + 2) / 3).toNat else 0
  e2.toNat + precision + f.width + 15 + separators

/-- The text of a double in a format, before padding to the width with spaces. -/
def FloatFormat.render (f : FloatFormat) (x : Binary64) : String :=
  let neg := x.lt (Binary64.zero false)
  if x.isNaN then (if f.zeroPad then "null" else "NaN") else
  if x.isInfinite && !f.zeroPad then
    if neg then "-Inf" else match f.signPrefix with
      | some c => String.ofList [c] ++ "Inf"
      | none => "Inf"
  else
  let (ds, iDP) := f.digitsOf x
  let pfx : List Char := if neg then ['-'] else match f.signPrefix with
    | some c => [c]
    | none => []
  let exp := iDP - 1
  let (layout, precision, rtz) := f.layoutAt exp
  let e2 : Int := if layout == .exponent then 0 else iDP - 1
  let dp := precision > 0 || f.alternate || f.alternate2
  let (intPart, rest) : List Char × List Nat :=
    if e2 < 0 then (['0'], ds) else (integerPlaces f.thousands e2.toNat ds, ds.drop (e2.toNat + 1))
  let leadZeros : Nat := if e2 < 0 then min ((-(e2 + 1)).toNat) precision else 0
  let fracDigits := precision - leadZeros
  let frac := List.replicate leadZeros '0' ++ (List.range fracDigits).map fun i => digitChar (rest.getD i 0)
  let body := intPart ++ (if dp then '.' :: frac else [])
  let body := if rtz && dp then trimFraction f.alternate2 body else body
  let upper := f.conversion == 'E' || f.conversion == 'G'
  let body := if layout == .exponent then body ++ exponentSuffix (if upper then 'E' else 'e') exp else body
  let len := pfx.length + body.length
  if f.zeroPad && !f.leftJustify && len < f.width then
    String.ofList (pfx ++ List.replicate (f.width - len) '0' ++ body)
  else String.ofList (pfx ++ body)

/-- The general format with fifteen digits and the `!` form: how a stored double becomes text. -/
def storedFormat : FloatFormat :=
  { conversion := 'g', precision := some 15, signPrefix := none, alternate := false,
    alternate2 := true, zeroPad := false, leftJustify := false, thousands := false, width := 0 }

/-- The text of a double as the database stores it. -/
def Binary64.text (x : Binary64) : String := storedFormat.render x

/-- The text of a double inside JSON: as stored, but infinities as `9.0e+999`. -/
def Binary64.jsonText (x : Binary64) : String := { storedFormat with zeroPad := true }.render x

end RosterSync.Database

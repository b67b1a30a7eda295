/-!
Shortest decimal digits of a double.

A finite double is `mantissa · 2^exponent`. The reals that round to it form an interval around it,
closed when the mantissa is even. The shortest decimal of it is found by trying one digit, then
two, and so on: on the grid of `n`-digit decimals at the value's magnitude only the two grid
points next to the value can fall inside the interval. The first grid with a point inside wins;
of two points inside, the one nearer the value; an exact tie goes to the even digit string.
All comparisons are exact, in `Nat`.
-/

-- natural powers take the core instance even where the monoid power is in scope
attribute [local instance (2000)] instPowNat

namespace RosterSync.Decimal

/-- A finite double split into its sign, an integer mantissa and a power of two. -/
structure Binary where
  negative : Bool
  mantissa : Nat
  exponent : Int
  /-- The gap below is half the gap above: the mantissa is the least normal one and the value
  is not in the lowest binade. -/
  narrowBelow : Bool
deriving DecidableEq, Repr

/-- Digits `significand · 10^exponent`, with no trailing zero unless the value is zero. -/
structure Digits where
  significand : Nat
  exponent : Int
deriving DecidableEq, Repr

/-- The fields of an IEEE double given by its 64 bits; only meaningful for finite values. -/
def Binary.ofBits (bits : UInt64) : Binary :=
  let n : Nat := bits.toNat
  let fraction : Nat := n % 2 ^ (52 : Nat)
  let biased : Nat := (n / 2 ^ (52 : Nat)) % 2 ^ (11 : Nat)
  let negative := n / 2 ^ (63 : Nat) == 1
  if biased == 0 then
    { negative, mantissa := fraction, exponent := -1074, narrowBelow := false }
  else
    { negative, mantissa := fraction + 2 ^ (52 : Nat), exponent := (biased : Int) - 1075,
      narrowBelow := fraction == 0 && biased > 1 }

/-- Orders `d · 10^k` against `x · 2^e`. -/
def compareScaled (d : Nat) (k : Int) (x : Nat) (e : Int) : Ordering :=
  compare (d * 10 ^ k.toNat * 2 ^ (-e).toNat) (x * 2 ^ e.toNat * 10 ^ (-k).toNat)

/-- `⌊x · 2^e / 10^k⌋`. -/
def floorScaled (x : Nat) (e k : Int) : Nat :=
  (x * 2 ^ e.toNat * 10 ^ (-k).toNat) / (10 ^ k.toNat * 2 ^ (-e).toNat)

/-- Moves a guess `g` of `⌊log₁₀ (x · 2^e)⌋` to the right value, one step at a time. -/
def settleMagnitude (x : Nat) (e : Int) : Nat → Int → Int
  | 0, g => g
  | fuel + 1, g =>
    if compareScaled 1 g x e == .gt then settleMagnitude x e fuel (g - 1)
    else if compareScaled 1 (g + 1) x e != .gt then settleMagnitude x e fuel (g + 1)
    else g

/-- `⌊log₁₀ (x · 2^e)⌋` for `x > 0`: a binary estimate corrected exactly. -/
def magnitude (x : Nat) (e : Int) : Int :=
  settleMagnitude x e 8 ((((Nat.log2 x : Int) + e) * 30103) / 100000)

def trimZeros (d : Nat) (k : Int) : Digits :=
  if h : d ≠ 0 ∧ d % 10 = 0 then
    have : d / 10 < d := Nat.div_lt_self (Nat.pos_of_ne_zero h.1) (by decide)
    trimZeros (d / 10) (k + 1)
  else ⟨d, k⟩
termination_by d

/-- The point of a grid chosen for one digit count, if one of the value's two neighbours on the
grid lies inside the rounding interval `[lo, hi] · 2^e` (ends only when `closed`). -/
def pickOnGrid (x lo hi : Nat) (e : Int) (closed : Bool) (k : Int) : Option Nat :=
  let inside (d : Nat) : Bool :=
    let above := compareScaled d k lo e
    let below := compareScaled d k hi e
    (above == .gt || (closed && above == .eq)) && (below == .lt || (closed && below == .eq))
  let d0 := floorScaled x e k
  let d1 := d0 + 1
  match inside d0, inside d1 with
  | true, true =>
    -- the nearer neighbour: compare 2v with (d0 + d1) · 10^k
    match compareScaled (d0 + d1) k (2 * x) e with
    | .gt => some d0
    | .lt => some d1
    | .eq => some (if d0 % 2 == 0 then d0 else d1)
  | true, false => some d0
  | false, true => some d1
  | false, false => none

/-- The shortest digits that read back as the double `b`; among those, the nearest to it. -/
def Binary.shortest (b : Binary) : Digits :=
  if b.mantissa = 0 then ⟨0, 0⟩ else
  let x := 4 * b.mantissa
  let e := b.exponent - 2
  let hi := x + 2
  let lo := if b.narrowBelow then x - 1 else x - 2
  let closed := b.mantissa % 2 == 0
  let top := magnitude x e
  let found := (List.range 17).findSome? fun (i : Nat) =>
    let k := top - (i : Int)
    (pickOnGrid x lo hi e closed k).map fun d => (d, k)
  match found with
  | some (d, k) => trimZeros d k
  | none => trimZeros (floorScaled x e (top - 16)) (top - 16)

end RosterSync.Decimal

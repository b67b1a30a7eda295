/-!
Double-precision numbers as the database computes with them.

A double is kept as its 64 IEEE 754 bits and computed with by the machine's binary64 operations.
Integers and ratios of integers become doubles by exact rounding to nearest, ties to even.
-/

-- natural powers take the core instance even where the monoid power is in scope
attribute [local instance (2000)] instPowNat

namespace RosterSync.Database

structure Binary64 where
  bits : UInt64
deriving DecidableEq, Repr, Inhabited

namespace Binary64

def fractionModulus : Nat := 2 ^ (52 : Nat)

def fractionBits (x : Binary64) : Nat := x.bits.toNat % fractionModulus

def exponentBits (x : Binary64) : Nat := x.bits.toNat / fractionModulus % 2048

def negative (x : Binary64) : Bool := decide (2 ^ (63 : Nat) ≤ x.bits.toNat)

def isNaN (x : Binary64) : Bool := x.exponentBits == 2047 && x.fractionBits != 0

def isInfinite (x : Binary64) : Bool := x.exponentBits == 2047 && x.fractionBits == 0

def isZero (x : Binary64) : Bool := x.exponentBits == 0 && x.fractionBits == 0

def significand (x : Binary64) : Nat :=
  if x.exponentBits = 0 then x.fractionBits else fractionModulus + x.fractionBits

/-- The power of two that scales the significand of a finite double. -/
def power (x : Binary64) : Int :=
  if x.exponentBits = 0 then -1074 else (x.exponentBits : Int) - 1075

def toFloat (x : Binary64) : Float := Float.ofBits x.bits

def ofFloat (f : Float) : Binary64 := ⟨f.toBits⟩

/-- A double from its sign and the bits below the sign. -/
def signed (neg : Bool) (magnitude : Nat) : Binary64 :=
  ⟨UInt64.ofNat (if neg then 2 ^ (63 : Nat) + magnitude else magnitude)⟩

def infinity (neg : Bool) : Binary64 := signed neg (2047 * fractionModulus)

def zero (neg : Bool) : Binary64 := signed neg 0

def negate (x : Binary64) : Binary64 := ⟨x.bits ^^^ ((1 : UInt64) <<< 63)⟩

def abs (x : Binary64) : Binary64 := if x.negative then x.negate else x

/-- Whether `num / den` is at least `2 ^ e`. -/
def ratioAtLeast (num den : Nat) (e : Int) : Bool :=
  if 0 ≤ e then decide (den * 2 ^ e.toNat ≤ num) else decide (den ≤ num * 2 ^ (-e).toNat)

/-- The double nearest to `num / den` with a sign, ties to even; past the largest finite double
the result is infinite. The binary exponent `e` of the ratio is the floor of its logarithm, one
of two values next to the difference of the operands' logarithms. Normal results keep 53
significant bits, subnormal ones the bits down to `2 ^ -1074`; a carry out of the significand
moves into the exponent field by itself. -/
def ofRatio (neg : Bool) (num den : Nat) : Binary64 :=
  if num = 0 ∨ den = 0 then zero neg else
  let e0 : Int := (num.log2 : Int) - den.log2
  let e : Int := if ratioAtLeast num den e0 then e0 else e0 - 1
  let shift : Int := if e < -1022 then 1074 else 52 - e
  let n := if 0 ≤ shift then num * 2 ^ shift.toNat else num
  let d := if 0 ≤ shift then den else den * 2 ^ (-shift).toNat
  let q := n / d
  let r := n % d
  let q := if 2 * r > d ∨ (2 * r = d ∧ q % 2 = 1) then q + 1 else q
  let magnitude := if e < -1022 then q else (e + 1023).toNat * fractionModulus + (q - fractionModulus)
  if magnitude ≥ 2047 * fractionModulus then infinity neg else signed neg magnitude

def ofInt (i : Int) : Binary64 := ofRatio (decide (i < 0)) i.natAbs 1

/-- The integer part of a finite double, rounded toward zero. -/
def truncate (x : Binary64) : Int :=
  let m : Nat := if x.power ≥ 0 then x.significand * 2 ^ x.power.toNat
    else x.significand / 2 ^ (-x.power).toNat
  if x.negative then -(m : Int) else m

def isIntegral (x : Binary64) : Bool :=
  x.power ≥ 0 || x.significand % 2 ^ (-x.power).toNat == 0

def add (x y : Binary64) : Binary64 := ofFloat (x.toFloat + y.toFloat)

def sub (x y : Binary64) : Binary64 := ofFloat (x.toFloat - y.toFloat)

def mul (x y : Binary64) : Binary64 := ofFloat (x.toFloat * y.toFloat)

def div (x y : Binary64) : Binary64 := ofFloat (x.toFloat / y.toFloat)

def lt (x y : Binary64) : Bool := decide (x.toFloat < y.toFloat)

def le (x y : Binary64) : Bool := decide (x.toFloat ≤ y.toFloat)

/-- Whether two doubles are equal as numbers (zeros of both signs are equal). -/
def numEq (x y : Binary64) : Bool := x.toFloat == y.toFloat

/-- Compares the exact values of a finite double and an integer. -/
def compareInt (x : Binary64) (i : Int) : Ordering :=
  let m : Int := if x.negative then -(x.significand : Int) else x.significand
  if x.power ≥ 0 then Ord.compare (m * 2 ^ x.power.toNat) i
  else Ord.compare m (i * 2 ^ (-x.power).toNat)

def ofBitsNat (n : Nat) : Binary64 := ⟨UInt64.ofNat n⟩

end Binary64

end RosterSync.Database

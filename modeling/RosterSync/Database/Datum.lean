import RosterSync.Database.FloatText
import RosterSync.Json.Write

/-!
Values of the database and how they convert.

A value is nothing (`NULL`), a 64-bit signed integer, a double, a text or a byte string. Numbers
are read from text the database's way: after optional space and sign, the longest run of digits
with an optional fraction and exponent. Reading reports what it found: a whole integer, a whole
real, a real prefix followed by other text, or nothing numeric. Reading an integer takes the
longest integer prefix and saturates at the 64-bit bounds.

Arithmetic sees a text as an integer when it is written as one (or is not a number at all, which
reads as `0`), and as a real otherwise. Columns and comparisons convert by affinity: a numeric
affinity turns a text that is wholly a number into that number, and an integral real into an
integer; text affinity turns numbers into their text. Values are ordered by class first
(nothing, numbers, texts, byte strings), numbers by exact value, texts by a collation and byte
strings bytewise.
-/

-- natural powers take the core instance even where the monoid power is in scope
attribute [local instance (2000)] instPowNat

namespace RosterSync.Database

open RosterSync.Json

inductive Datum where
  | null
  | integer (i : Int)
  | real (x : Binary64)
  | text (s : String)
  | blob (bytes : List UInt8)
deriving DecidableEq, Repr, Inhabited

/-- The smallest 64-bit signed integer. -/
def minI64 : Int := -(2 ^ (63 : Nat))

/-- The largest 64-bit signed integer. -/
def maxI64 : Int := 2 ^ (63 : Nat) - 1

/-- Whether an integer fits 64 signed bits. -/
def fitsI64 (i : Int) : Bool := decide (minI64 ≤ i ∧ i ≤ maxI64)

/-- An integer wrapped around into 64 signed bits, as two's complement arithmetic leaves it. -/
def wrapI64 (n : Int) : Int := (n + 2 ^ (63 : Nat)) % 2 ^ (64 : Nat) - 2 ^ (63 : Nat)

def isSpaceChar (c : Char) : Bool :=
  c = ' ' || c = '\t' || c = '\n' || c.toNat = 11 || c.toNat = 12 || c = '\r'

def digitOf (c : Char) : Nat := c.toNat - 48

/-- The natural number of a run of decimal digits. -/
def digitsValue (ds : List Char) : Nat := ds.foldl (fun acc c => acc * 10 + digitOf c) 0

/-- The significand bound past which further digits only move the decimal point. -/
def significandBound : Nat := (2 ^ (64 : Nat) - 1 - 9) / 10

/-- Digits before the point: added to the significand while it is below the bound, counted as
places otherwise. Gives the significand, the places, the digits added and the rest. -/
def wholeDigits : List Char → Nat → Int → Nat → Nat × Int × Nat × List Char
  | [], s, d, n => (s, d, n, [])
  | c :: cs, s, d, n =>
    if c.isDigit then
      if s ≥ significandBound then wholeDigits cs s (d + 1) n
      else wholeDigits cs (s * 10 + digitOf c) d (n + 1)
    else (s, d, n, c :: cs)

/-- Digits after the point: added to the significand (each moving the point) while it is below
the bound, skipped otherwise. -/
def fractionDigits : List Char → Nat → Int → Nat → Nat × Int × Nat × List Char
  | [], s, d, n => (s, d, n, [])
  | c :: cs, s, d, n =>
    if c.isDigit then
      if s < significandBound then fractionDigits cs (s * 10 + digitOf c) (d - 1) (n + 1)
      else fractionDigits cs s d n
    else (s, d, n, c :: cs)

/-- Exponent digits, the exponent held at `10000` once it gets there; whether any digit was
read. -/
def exponentDigits : List Char → Nat → Bool → Nat × Bool × List Char
  | [], e, seen => (e, seen, [])
  | c :: cs, e, seen =>
    if c.isDigit then exponentDigits cs (if e < 10000 then e * 10 + digitOf c else 10000) true
    else (e, seen, c :: cs)

/-- Reads a real number from the front of a text. The kind is `1` for a whole integer, `2` or
`3` for a whole number with a point or an exponent (`3` with both), `-1` for a real followed by
other text, and `0` otherwise (the value is then what the integer prefix gave, or zero). -/
def scanReal (cs : List Char) : Binary64 × Int :=
  let cs := cs.dropWhile isSpaceChar
  if cs.isEmpty then (Binary64.zero false, 0) else
  let (neg, cs) : Bool × List Char := match cs with
    | '-' :: r => (true, r)
    | '+' :: r => (false, r)
    | _ => (false, cs)
  let (s, d, n, cs) := wholeDigits cs 0 0 0
  let (s, d, n, eType, cs) : Nat × Int × Nat × Int × List Char := match cs with
    | '.' :: r => let (s, d, n, r) := fractionDigits r s d n; (s, d, n, 2, r)
    | _ => (s, d, n, 1, cs)
  let (e, eValid, eType, cs) : Int × Bool × Int × List Char := match cs with
    | c :: r =>
      if c = 'e' ∨ c = 'E' then
        let (esign, r) : Int × List Char := match r with
          | '-' :: r' => (-1, r')
          | '+' :: r' => (1, r')
          | _ => (1, r)
        let (e, valid, r) := exponentDigits r 0 false
        (esign * e, valid, eType + 1, r)
      else (0, true, eType, c :: r)
    | [] => (0, true, eType, [])
  let cs := cs.dropWhile isSpaceChar
  let value := Binary64.ofScaled neg s (e + d)
  let kind : Int :=
    if cs.isEmpty && n > 0 && eValid && eType > 0 then eType
    else if eType ≥ 2 && (eType == 3 || eValid) && n > 0 then -1
    else 0
  (value, kind)

/-- Reads an integer from the front of a text, saturating at the 64-bit bounds. The code is
`0` for a whole integer that fits, `1` when other text follows, `2` when it does not fit, `3`
for exactly `2^63` without a sign, and `-1` when there are no digits. -/
def scanInteger (cs : List Char) : Int × Int :=
  let cs := cs.dropWhile isSpaceChar
  let (neg, cs) : Bool × List Char := match cs with
    | '-' :: r => (true, r)
    | '+' :: r => (false, r)
    | _ => (false, cs)
  let start := cs
  let cs := cs.dropWhile (· = '0')
  let ds := cs.takeWhile Char.isDigit
  let rest := cs.dropWhile Char.isDigit
  let u := digitsValue ds
  let saturated : Int := if neg then minI64 else maxI64
  let value : Int := if (u : Int) > maxI64 then saturated else if neg then -(u : Int) else u
  let code : Int :=
    if ds.isEmpty && start.length == cs.length then -1
    else if rest.any (fun c => !isSpaceChar c) then 1 else 0
  if ds.length < 19 then (value, code)
  else
    let c : Ordering := if ds.length > 19 then .gt else Ord.compare u (2 ^ (63 : Nat))
    match c with
    | .lt => (value, code)
    | .gt => (saturated, 2)
    | .eq => (saturated, if neg then code else 3)

/-- The characters the number reader sees in a byte string. -/
def bytesChars (bytes : List UInt8) : List Char := bytes.map fun b => Char.ofNat b.toNat

/-- A text may hold bytes that are not UTF-8. Inside a string such a byte `b` (always `0x80` or
above) is the character `rawByteBase + b`, at the top of the last private-use plane, so that the
bytes of the text can be given back exactly. -/
def rawByteBase : Nat := 0x10FF00

/-- The character that stands for a byte outside UTF-8. -/
def rawByteChar (b : Nat) : Char := Char.ofNat (rawByteBase + b)

/-- The byte a character stands for, when it stands for one outside UTF-8. -/
def rawByteOf? (c : Char) : Option UInt8 :=
  if c.toNat ≥ rawByteBase + 0x80 then some (UInt8.ofNat (c.toNat - rawByteBase)) else none

/-- Whether a byte continues a UTF-8 sequence, and lies in `[lo, hi]`. -/
def continuesIn (b : UInt8) (lo hi : Nat) : Bool := lo ≤ b.toNat && b.toNat ≤ hi

/-- The character of a multi-byte UTF-8 sequence at the front of bytes (after its first byte
`b0`), with the number of further bytes it takes; nothing when the sequence is not well formed
(overlong, a surrogate, past the last code point, or cut short). -/
def utf8Sequence (b0 : Nat) (rest : List UInt8) : Option (Char × Nat) :=
  let cont (b : UInt8) : Nat := b.toNat - 0x80
  match rest with
  | b1 :: more =>
    if 0xC2 ≤ b0 && b0 ≤ 0xDF then
      if continuesIn b1 0x80 0xBF then some (Char.ofNat ((b0 - 0xC0) * 64 + cont b1), 1) else none
    else if 0xE0 ≤ b0 && b0 ≤ 0xEF then
      let lo := if b0 = 0xE0 then 0xA0 else 0x80
      let hi := if b0 = 0xED then 0x9F else 0xBF
      match more with
      | b2 :: _ =>
        if continuesIn b1 lo hi && continuesIn b2 0x80 0xBF then
          some (Char.ofNat ((b0 - 0xE0) * 4096 + cont b1 * 64 + cont b2), 2)
        else none
      | [] => none
    else if 0xF0 ≤ b0 && b0 ≤ 0xF4 then
      let lo := if b0 = 0xF0 then 0x90 else 0x80
      let hi := if b0 = 0xF4 then 0x8F else 0xBF
      match more with
      | b2 :: b3 :: _ =>
        if continuesIn b1 lo hi && continuesIn b2 0x80 0xBF && continuesIn b3 0x80 0xBF then
          some (Char.ofNat ((b0 - 0xF0) * 262144 + cont b1 * 4096 + cont b2 * 64 + cont b3), 3)
        else none
      | _ => none
    else none
  | [] => none

/-- Reads bytes as UTF-8, a byte that starts no well-formed sequence standing for itself. Each
step takes at least one byte, so the number of bytes bounds the steps. -/
def decodeBytes : Nat → List UInt8 → List Char
  | 0, _ => []
  | _, [] => []
  | fuel + 1, b :: rest =>
    if b.toNat < 0x80 then Char.ofNat b.toNat :: decodeBytes fuel rest
    else match utf8Sequence b.toNat rest with
      | some (c, k) => c :: decodeBytes fuel (rest.drop k)
      | none => rawByteChar b.toNat :: decodeBytes fuel rest

/-- The text of bytes: UTF-8 where they are UTF-8, other bytes kept as they are. -/
def bytesText (bytes : List UInt8) : String :=
  match String.fromUTF8? (ByteArray.mk bytes.toArray) with
  | some s => s
  | none => String.ofList (decodeBytes (bytes.length + 1) bytes)

/-- Whether a text holds bytes that are not UTF-8. -/
def hasRawBytes (s : String) : Bool := s.toList.any fun c => (rawByteOf? c).isSome

/-- The bytes of a text: UTF-8, and the bytes outside UTF-8 it holds as they are. -/
def textBytes (s : String) : List UInt8 :=
  if hasRawBytes s then
    s.toList.flatMap fun c => match rawByteOf? c with
      | some b => [b]
      | none => (String.singleton c).toUTF8.toList
  else s.toUTF8.toList

/-- An integer as a double-precision number converts to the database's integer: saturating
at the bounds, rounding toward zero. -/
def Binary64.toI64 (x : Binary64) : Int :=
  if x.isNaN then minI64
  else if x.le (Binary64.ofInt minI64) then minI64
  else if (Binary64.ofInt maxI64).le x then maxI64
  else x.truncate

/-- A double rounded toward zero into the integers, saturating a little inside the bounds. -/
def Binary64.toI64Near (x : Binary64) : Int :=
  if x.lt (Binary64.negate (Binary64.ofBitsNat 0x43dfffffffffffff)) then minI64
  else if (Binary64.ofBitsNat 0x43dfffffffffffff).lt x then maxI64
  else x.truncate

/-- Whether a double and an integer are the same number, for integers below `2^51` (zero of
either sign counts). -/
def Binary64.sameAsInt (x : Binary64) (i : Int) : Bool :=
  x.isZero || (x == Binary64.ofInt i && decide (-(2 ^ (51 : Nat)) ≤ i ∧ i < 2 ^ (51 : Nat)))

inductive Num where
  | int (i : Int)
  | real (x : Binary64)
deriving DecidableEq, Repr

def Num.toDatum : Num → Datum
  | .int i => .integer i
  | .real x => .real x

def Datum.chars : Datum → List Char
  | .text s => s.toList
  | .blob b => bytesChars b
  | _ => []

def Datum.realValue : Datum → Binary64
  | .integer i => Binary64.ofInt i
  | .real x => x
  | .null => Binary64.zero false
  | d => (scanReal d.chars).1

/-- A value read as an integer: doubles saturate and round toward zero, texts give their
integer prefix. -/
def Datum.intValue : Datum → Int
  | .integer i => i
  | .real x => x.toI64
  | .null => 0
  | d => (scanInteger d.chars).1

/-- The number arithmetic sees in a text: an integer when it is written as one that fits, or
when it is no number at all (the integer prefix, or zero); a double otherwise. -/
def numberOfChars (cs : List Char) : Num :=
  let (r, kind) := scanReal cs
  let (i, code) := scanInteger cs
  if kind ≤ 0 then
    if kind == 0 && code ≤ 1 then .int i else .real r
  else if kind == 1 && code == 0 then .int i
  else .real r

/-- The number arithmetic sees in a value; nothing for `NULL`. -/
def Datum.number? : Datum → Option Num
  | .null => none
  | .integer i => some (.int i)
  | .real x => some (.real x)
  | d => some (numberOfChars d.chars)

/-- The truth of a value: `NULL` is unknown, numbers are true when non-zero, texts and byte
strings by the double they read as. -/
def Datum.truth? : Datum → Option Bool
  | .null => none
  | .integer i => some (i != 0)
  | d => some (!d.realValue.isZero)

def i64Text (i : Int) : String := intText i

/-- The text of a value: numbers written out, byte strings read as UTF-8; nothing for `NULL`. -/
def Datum.text? : Datum → Option String
  | .null => none
  | .integer i => some (i64Text i)
  | .real x => some x.text
  | .text s => some s
  | .blob b => some (bytesText b)

/-- The bytes of a value: texts by their UTF-8, numbers by their text. -/
def Datum.bytes? : Datum → Option (List UInt8)
  | .blob b => some b
  | d => d.text?.map textBytes

def Datum.typeName : Datum → String
  | .null => "null"
  | .integer _ => "integer"
  | .real _ => "real"
  | .text _ => "text"
  | .blob _ => "blob"

inductive Affinity where
  | blob
  | text
  | numeric
  | integer
  | real
deriving DecidableEq, Repr

/-- Whether an affinity is one of the numeric ones. -/
def Affinity.isNumeric : Affinity → Bool
  | .numeric | .integer | .real => true
  | _ => false

/-- The affinity of a declared type: the first `INT` decides integer; `CHAR`, `CLOB` or `TEXT`
text; `BLOB` (or no type) blob unless text came first; `REAL`, `FLOA` or `DOUB` real unless
something else came first; numeric otherwise. -/
def affinityOfType (decl : String) : Affinity :=
  let rec go : List Char → List Char → Affinity → Affinity
    | [], _, aff => aff
    | c :: cs, window, aff =>
      let w := (window ++ [c.toLower]).drop (if window.length ≥ 4 then 1 else 0)
      let last3 := w.drop (w.length - 3)
      if last3 == ['i', 'n', 't'] then .integer
      else if w == ['c', 'h', 'a', 'r'] || w == ['c', 'l', 'o', 'b'] || w == ['t', 'e', 'x', 't'] then
        go cs w .text
      else if w == ['b', 'l', 'o', 'b'] && (aff == .numeric || aff == .real) then go cs w .blob
      else if (w == ['r', 'e', 'a', 'l'] || w == ['f', 'l', 'o', 'a'] || w == ['d', 'o', 'u', 'b'])
          && aff == .numeric then go cs w .real
      else go cs w aff
  if decl.isEmpty then .blob else go decl.toList [] .numeric

/-- A double that is an integer strictly inside the 64-bit bounds becomes that integer. -/
def integralOf (x : Binary64) : Datum :=
  let i := x.toI64
  if x.compareInt i == .eq && minI64 < i && i < maxI64 then .integer i else .real x

/-- A text that is wholly a number becomes it: an integer when written as one that fits (or
when its double is an integer below `2^51`), a double otherwise, made an integer when integral
and `toInt` asks for it. Other texts stay. -/
def numericText (toInt : Bool) (s : String) : Datum :=
  let (r, kind) := scanReal s.toList
  if kind ≤ 0 then .text s
  else
    let alsoInt : Option Int :=
      if kind == 1 then
        let i := r.toI64Near
        if r.sameAsInt i then some i
        else
          let (j, code) := scanInteger s.toList
          if code == 0 then some j else none
      else none
    match alsoInt with
    | some i => .integer i
    | none => if toInt then integralOf r else .real r

/-- A value converted by an affinity, as a column stores it. -/
def Datum.withAffinity (aff : Affinity) (d : Datum) : Datum :=
  match aff, d with
  | .text, .integer i => .text (i64Text i)
  | .text, .real x => .text x.text
  | .real, .integer i => .real (Binary64.ofInt i)
  | .real, .text s =>
    match numericText true s with
    | .integer i => .real (Binary64.ofInt i)
    | v => v
  | .numeric, .text s => numericText true s
  | .integer, .text s => numericText true s
  | .numeric, .real x => integralOf x
  | .integer, .real x => integralOf x
  | _, v => v

/-- The number `CAST (… AS NUMERIC)` makes of a text: an integer when the text is an integer
(or no number) or its double is a small integer, a double otherwise. -/
def castNumeric (cs : List Char) : Datum :=
  let (r, kind) := scanReal cs
  let (i, code) := scanInteger cs
  if (kind == 0 || kind == 1) && code ≤ 1 then .integer i
  else
    let j := r.toI64Near
    if r.sameAsInt j then .integer j else .real r

/-- A value cast to the type of an affinity. -/
def Datum.cast (aff : Affinity) (d : Datum) : Datum :=
  match d with
  | .null => .null
  | _ =>
    match aff with
    | .blob => match d.bytes? with
      | some b => .blob b
      | none => .null
    | .text => match d.text? with
      | some s => .text s
      | none => .null
    | .integer => .integer d.intValue
    | .real => .real d.realValue
    | .numeric => match d with
      | .integer i => .integer i
      | .real x => .real x
      | _ => castNumeric d.chars

inductive Collation where
  | binary
  | nocase
  | rtrim
deriving DecidableEq, Repr

/-- The name of a collation, as the catalog writes it. -/
def Collation.name : Collation → String
  | .binary => "BINARY"
  | .nocase => "NOCASE"
  | .rtrim => "RTRIM"

def Collation.ofName? (name : String) : Option Collation :=
  match name.toLower with
  | "binary" => some .binary
  | "nocase" => some .nocase
  | "rtrim" => some .rtrim
  | _ => none

/-- A letter in lower case, for ASCII letters only. -/
def asciiLower (c : Char) : Char := if c.isUpper then Char.ofNat (c.toNat + 32) else c

/-- A letter in upper case, for ASCII letters only. -/
def asciiUpper (c : Char) : Char := if c.isLower then Char.ofNat (c.toNat - 32) else c

def Collation.compare (c : Collation) (s t : String) : Ordering :=
  match c with
  | .binary => Ord.compare s t
  | .nocase => Ord.compare (String.ofList (s.toList.map asciiLower)) (String.ofList (t.toList.map asciiLower))
  | .rtrim =>
    let trim (x : String) := String.ofList (x.toList.reverse.dropWhile (· = ' ')).reverse
    Ord.compare (trim s) (trim t)

def compareBytes : List UInt8 → List UInt8 → Ordering
  | [], [] => .eq
  | [], _ :: _ => .lt
  | _ :: _, [] => .gt
  | a :: as, b :: bs => match Ord.compare a b with
    | .eq => compareBytes as bs
    | o => o

def Num.compare : Num → Num → Ordering
  | .int a, .int b => Ord.compare a b
  | .real x, .real y => if x.lt y then .lt else if y.lt x then .gt else .eq
  | .real x, .int b => x.compareInt b
  | .int a, .real y => (y.compareInt a).swap

/-- The order of values under a collation for texts. -/
def Datum.compareWith (coll : Collation) (a b : Datum) : Ordering :=
  match a, b with
  | .null, .null => .eq
  | .null, _ => .lt
  | _, .null => .gt
  | .integer i, .integer j => Ord.compare i j
  | .integer i, .real y => (Num.int i).compare (.real y)
  | .real x, .integer j => (Num.real x).compare (.int j)
  | .real x, .real y => (Num.real x).compare (.real y)
  | .integer _, _ => .lt
  | .real _, _ => .lt
  | _, .integer _ => .gt
  | _, .real _ => .gt
  | .text s, .text t => coll.compare s t
  | .text _, .blob _ => .lt
  | .blob _, .text _ => .gt
  | .blob x, .blob y => compareBytes x y

/-- A text converted for a numeric comparison: only texts that are wholly a number change. -/
def Datum.forNumericCompare : Datum → Datum
  | .text s => numericText false s
  | d => d

def Datum.forTextCompare : Datum → Datum
  | .integer i => .text (i64Text i)
  | .real x => .text x.text
  | d => d

def Datum.isText : Datum → Bool
  | .text _ => true
  | _ => false

def prepareCompare (aff : Option Affinity) (a b : Datum) : Datum × Datum :=
  match aff with
  | some .numeric | some .integer | some .real => (a.forNumericCompare, b.forNumericCompare)
  | some .text =>
    if a.isText || b.isText then (a.forTextCompare, b.forTextCompare) else (a, b)
  | _ => (a, b)

end RosterSync.Database

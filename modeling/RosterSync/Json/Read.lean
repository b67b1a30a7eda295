import RosterSync.Json.Value

/-!
Reading JSON text.

The grammar is strict JSON: blanks are space, tab, line feed and carriage return; a string holds
no raw control character and its `\u` escapes pair surrogates; arrays and objects nest at most
127 deep; nothing but blanks may follow the value.

Numbers keep the kind of their text. Digits alone give a 64-bit integer: unsigned when positive,
signed when negative with a magnitude up to `2^63`. Anything else gives a double: a fraction, an
exponent, `-0`, or more digits than 64 bits hold. A double is formed as its text's digits are
read: the leading digits that fit 64 bits become a double, and one multiplication or division by
a power of ten (or several divisions by `10^308` far below one) places the point; digits that no
longer fit are dropped. A value that overflows to infinity is refused.
-/

-- natural powers take the core instance even where the monoid power is in scope
attribute [local instance (2000)] instPowNat

namespace RosterSync.Json.Read

abbrev Chars := List Char

def isDigit (c : Char) : Bool := '0' ≤ c && c ≤ '9'

def digitVal (c : Char) : Nat := c.toNat - 48

def isBlank (c : Char) : Bool := c = ' ' || c = '\t' || c = '\n' || c = '\r'

def skipBlank : Chars → Chars
  | [] => []
  | c :: rest => if isBlank c then skipBlank rest else c :: rest

def skipDigits : Chars → Chars
  | [] => []
  | c :: rest => if isDigit c then skipDigits rest else c :: rest

def countDigits : Nat → Chars → Nat × Chars
  | n, [] => (n, [])
  | n, c :: rest => if isDigit c then countDigits (n + 1) rest else (n, c :: rest)

/-- Whether `acc * 10 + d` passes `limit`. -/
def overflows (acc d limit : Nat) : Bool :=
  acc ≥ limit / 10 && (acc > limit / 10 || d > limit % 10)

/-- Largest 64-bit unsigned integer. -/
def u64Max : Nat := 2 ^ (64 : Nat) - 1

/-- Largest 32-bit signed integer. -/
def i32Max : Nat := 2 ^ (31 : Nat) - 1

/-- Clamps to the 32-bit signed range. -/
def clampI32 (x : Int) : Int := max (-(2 ^ (31 : Nat))) (min (2 ^ (31 : Nat) - 1) x)

/-- `10^k` rounded to the nearest double. -/
def powTen (k : Nat) : Float := Float.ofScientific 1 false k

/-- Places the decimal point of a double: `f · 10^e` in one rounding step when `|e| ≤ 308`. -/
def scale : Nat → Float → Int → Option Float
  | 0, f, _ => some f
  | fuel + 1, f, e =>
    if e.natAbs ≤ 308 then
      if 0 ≤ e then
        let g := f * powTen e.natAbs
        if g.isInf then none else some g
      else some (f / powTen e.natAbs)
    else if f == 0 then some f
    else if 0 ≤ e then none
    else scale fuel (f / powTen 308) (e + 308)

/-- The double of `±significand · 10^exponent`, formed as the reader forms it. -/
def fromParts (positive : Bool) (significand : Nat) (exponent : Int) : Option Number :=
  (scale 8 (Float.ofNat significand) exponent).map fun f =>
    .double (if positive then f else -f).toBits

def zero (positive : Bool) : Number :=
  .double (if positive then (0.0 : Float) else -0.0).toBits

/-- The digits of an exponent after its sign; the first digit is already read into `exp`. -/
def exponentDigits (positive : Bool) (significand : Nat) (start : Int) (up : Bool) (exp : Nat) :
    Chars → Option (Number × Chars)
  | c :: rest =>
    if isDigit c then
      if overflows exp (digitVal c) i32Max then
        if significand ≠ 0 && up then none else some (zero positive, skipDigits rest)
      else exponentDigits positive significand start up (exp * 10 + digitVal c) rest
    else
      let e := if up then clampI32 (start + exp) else clampI32 (start - exp)
      (fromParts positive significand e).map (·, c :: rest)
  | [] =>
    let e := if up then clampI32 (start + exp) else clampI32 (start - exp)
    (fromParts positive significand e).map (·, [])

def exponentPart (positive : Bool) (significand : Nat) (start : Int) (cs : Chars) :
    Option (Number × Chars) :=
  let (up, cs) := match cs with
    | '+' :: r => (true, r)
    | '-' :: r => (false, r)
    | r => (true, r)
  match cs with
  | c :: rest =>
    if isDigit c then exponentDigits positive significand start up (digitVal c) rest else none
  | [] => none

/-- What follows the digits of a double: an exponent or the end of the number. -/
def afterDigits (positive : Bool) (significand : Nat) (exponent : Int) :
    Chars → Option (Number × Chars)
  | 'e' :: rest => exponentPart positive significand exponent rest
  | 'E' :: rest => exponentPart positive significand exponent rest
  | cs => (fromParts positive significand exponent).map (·, cs)

/-- Digits after the decimal point; `seen` counts those already taken into the significand. -/
def fraction (positive : Bool) (significand : Nat) (before : Int) (seen : Nat) :
    Chars → Option (Number × Chars)
  | c :: rest =>
    if isDigit c then
      if overflows significand (digitVal c) u64Max then
        afterDigits positive significand (before - seen) (skipDigits rest)
      else fraction positive (significand * 10 + digitVal c) before (seen + 1) rest
    else if seen = 0 then none
    else afterDigits positive significand (before - seen) (c :: rest)
  | [] => if seen = 0 then none else afterDigits positive significand (before - seen) []

def afterInteger (positive : Bool) (significand : Nat) : Chars → Option (Number × Chars)
  | '.' :: rest => fraction positive significand 0 0 rest
  | 'e' :: rest => exponentPart positive significand 0 rest
  | 'E' :: rest => exponentPart positive significand 0 rest
  | cs =>
    if positive then some (.nat significand, cs)
    else if significand = 0 then some (zero false, cs)
    else if significand ≤ 2 ^ (63 : Nat) then some (.neg (-(significand : Int)), cs)
    else some (.double (-(Float.ofNat significand)).toBits, cs)

/-- Integer digits that no longer fit 64 bits: each one only moves the point. -/
def longInteger (positive : Bool) (significand : Nat) (cs : Chars) : Option (Number × Chars) :=
  let (extra, rest) := countDigits 0 cs
  match rest with
  | '.' :: r => fraction positive significand extra 0 r
  | 'e' :: r => exponentPart positive significand extra r
  | 'E' :: r => exponentPart positive significand extra r
  | r => (fromParts positive significand extra).map (·, r)

/-- Integer digits after the first, accumulated while they fit 64 bits. -/
def integerDigits (positive : Bool) (significand : Nat) : Chars → Option (Number × Chars)
  | c :: rest =>
    if isDigit c then
      if overflows significand (digitVal c) u64Max then longInteger positive significand (c :: rest)
      else integerDigits positive (significand * 10 + digitVal c) rest
    else afterInteger positive significand (c :: rest)
  | [] => afterInteger positive significand []

def number (positive : Bool) : Chars → Option (Number × Chars)
  | '0' :: rest =>
    match rest with
    | c :: _ => if isDigit c then none else afterInteger positive 0 rest
    | [] => afterInteger positive 0 []
  | c :: rest => if isDigit c then integerDigits positive (digitVal c) rest else none
  | [] => none

def hexVal (c : Char) : Option Nat :=
  if '0' ≤ c && c ≤ '9' then some (c.toNat - 48)
  else if 'a' ≤ c && c ≤ 'f' then some (c.toNat - 87)
  else if 'A' ≤ c && c ≤ 'F' then some (c.toNat - 55)
  else none

def hex4 (a b c d : Char) : Option Nat := do
  let a ← hexVal a
  let b ← hexVal b
  let c ← hexVal c
  let d ← hexVal d
  pure (((a * 16 + b) * 16 + c) * 16 + d)

/-- The rest of a string after its opening quote, up to and without its closing quote. -/
def string (acc : List Char) : Chars → Option (String × Chars)
  | '"' :: rest => some (String.ofList acc.reverse, rest)
  | '\\' :: '"' :: rest => string ('"' :: acc) rest
  | '\\' :: '\\' :: rest => string ('\\' :: acc) rest
  | '\\' :: '/' :: rest => string ('/' :: acc) rest
  | '\\' :: 'b' :: rest => string (Char.ofNat 8 :: acc) rest
  | '\\' :: 'f' :: rest => string (Char.ofNat 12 :: acc) rest
  | '\\' :: 'n' :: rest => string ('\n' :: acc) rest
  | '\\' :: 'r' :: rest => string ('\r' :: acc) rest
  | '\\' :: 't' :: rest => string ('\t' :: acc) rest
  | '\\' :: 'u' :: a :: b :: c :: d :: rest =>
    match hex4 a b c d with
    | none => none
    | some u =>
      if 0xD800 ≤ u ∧ u < 0xDC00 then
        match rest with
        | '\\' :: 'u' :: e :: f :: g :: h :: rest' =>
          match hex4 e f g h with
          | some l =>
            if 0xDC00 ≤ l ∧ l < 0xE000 then
              string (Char.ofNat (0x10000 + (u - 0xD800) * 0x400 + (l - 0xDC00)) :: acc) rest'
            else none
          | none => none
        | _ => none
      else if 0xDC00 ≤ u ∧ u < 0xE000 then none
      else string (Char.ofNat u :: acc) rest
  | '\\' :: _ => none
  | c :: rest => if c.toNat < 32 then none else string (c :: acc) rest
  | [] => none

mutual

/-- A value at the head of the text (no leading blanks); `depth` bounds the nesting left. -/
def value : Nat → Nat → Chars → Option (Value × Chars)
  | 0, _, _ => none
  | fuel + 1, depth, cs =>
    match cs with
    | 'n' :: 'u' :: 'l' :: 'l' :: rest => some (.null, rest)
    | 't' :: 'r' :: 'u' :: 'e' :: rest => some (.bool true, rest)
    | 'f' :: 'a' :: 'l' :: 's' :: 'e' :: rest => some (.bool false, rest)
    | '"' :: rest => (string [] rest).map fun p => (.str p.1, p.2)
    | '[' :: rest =>
      if depth ≤ 1 then none else
      match skipBlank rest with
      | ']' :: r => some (.arr [], r)
      | r => items fuel (depth - 1) [] r
    | '{' :: rest =>
      if depth ≤ 1 then none else
      match skipBlank rest with
      | '}' :: r => some (.obj [], r)
      | r => members fuel (depth - 1) [] r
    | '-' :: rest => (number false rest).map fun p => (.num p.1, p.2)
    | c :: rest => if isDigit c then (number true (c :: rest)).map fun p => (.num p.1, p.2) else none
    | [] => none

/-- Array items after `[`, the earlier ones in `acc` (last first). -/
def items : Nat → Nat → List Value → Chars → Option (Value × Chars)
  | 0, _, _, _ => none
  | fuel + 1, depth, acc, cs =>
    match value fuel depth cs with
    | none => none
    | some (v, r) =>
      match skipBlank r with
      | ',' :: r' => items fuel depth (v :: acc) (skipBlank r')
      | ']' :: r' => some (.arr (v :: acc).reverse, r')
      | _ => none

/-- Object members after `\x7b`, the earlier ones in `acc` (last first). -/
def members : Nat → Nat → List (String × Value) → Chars → Option (Value × Chars)
  | 0, _, _, _ => none
  | fuel + 1, depth, acc, cs =>
    match cs with
    | '"' :: rest =>
      match string [] rest with
      | none => none
      | some (k, r) =>
        match skipBlank r with
        | ':' :: r' =>
          match value fuel depth (skipBlank r') with
          | none => none
          | some (v, r2) =>
            match skipBlank r2 with
            | ',' :: r3 => members fuel depth ((k, v) :: acc) (skipBlank r3)
            | '}' :: r3 => some (.obj ((k, v) :: acc).reverse, r3)
            | _ => none
        | _ => none
    | _ => none

end

/-- The value a whole text holds, members in reading order, or `none` if it is no JSON text. -/
def document (s : String) : Option Value :=
  let cs := skipBlank s.toList
  match value (2 * cs.length + 2) 128 cs with
  | some (v, rest) => if skipBlank rest = [] then some v else none
  | none => none

end RosterSync.Json.Read

namespace RosterSync.Json

def parse? (s : String) : Option Value :=
  (Read.document s).map Value.normalize

end RosterSync.Json

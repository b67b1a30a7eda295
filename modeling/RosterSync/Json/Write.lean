import RosterSync.Decimal.Shortest
import RosterSync.Json.Value

/-!
Compact JSON text.

No blank between tokens; members in the order the object holds them. A string escapes the quote,
the backslash and the control characters: `\b \t \n \f \r` by letter, the others as `\u00xx` with
lowercase hex digits; everything else is written as it is. Integers are written in decimal. A
double is written with its shortest digits: positionally with a trailing `.0` up to 16 integer
digits, as `0.000ddd` down to five leading zeros, and otherwise as `d.ddde±x`, the exponent signed
and with no leading zero.
-/

namespace RosterSync.Json

open RosterSync.Decimal

def natText (n : Nat) : String := String.ofList (Nat.toDigits 10 n)

/-- Decimal text of an integer, with a leading minus sign when negative. -/
def intText (i : Int) : String :=
  if i < 0 then "-" ++ natText i.natAbs else natText i.toNat

def exponentText (x : Int) : String :=
  if x < 0 then intText x else "+" ++ intText x

/-- The text of finite double digits `d · 10^k` (with `d > 0` and no trailing zero). -/
def digitsText (d : Nat) (k : Int) : String :=
  let ds := Nat.toDigits 10 d
  let len : Int := ds.length
  let kk := len + k
  if 0 ≤ k ∧ kk ≤ 16 then
    String.ofList (ds ++ List.replicate k.toNat '0') ++ ".0"
  else if 0 < kk ∧ kk ≤ 16 then
    String.ofList (ds.take kk.toNat) ++ "." ++ String.ofList (ds.drop kk.toNat)
  else if -5 < kk ∧ kk ≤ 0 then
    "0." ++ String.ofList (List.replicate (-kk).toNat '0' ++ ds)
  else if ds.length = 1 then
    String.ofList ds ++ "e" ++ exponentText (kk - 1)
  else
    String.ofList (ds.take 1) ++ "." ++ String.ofList (ds.drop 1) ++ "e" ++ exponentText (kk - 1)

/-- The text of a double given by its bits. -/
def doubleText (bits : UInt64) : String :=
  let b := Binary.ofBits bits
  let sign := if b.negative then "-" else ""
  if b.mantissa = 0 then sign ++ "0.0"
  else
    let digits := b.shortest
    sign ++ digitsText digits.significand digits.exponent

def Number.text : Number → String
  | .nat n => natText n
  | .neg n => intText n
  | .double bits => doubleText bits

def hexDigit (n : Nat) : Char :=
  if n < 10 then Char.ofNat (48 + n) else Char.ofNat (87 + n)

/-- The escaped form of one character inside a string. -/
def escapeChar (c : Char) : List Char :=
  if c = '"' then ['\\', '"']
  else if c = '\\' then ['\\', '\\']
  else if c = '\n' then ['\\', 'n']
  else if c = '\r' then ['\\', 'r']
  else if c = '\t' then ['\\', 't']
  else if c.toNat = 8 then ['\\', 'b']
  else if c.toNat = 12 then ['\\', 'f']
  else if c.toNat < 32 then ['\\', 'u', '0', '0', hexDigit (c.toNat / 16), hexDigit (c.toNat % 16)]
  else [c]

def quote (s : String) : String :=
  String.ofList ('"' :: (s.toList.flatMap escapeChar ++ ['"']))

mutual

def Value.render : Value → String
  | .null => "null"
  | .bool true => "true"
  | .bool false => "false"
  | .num n => n.text
  | .str s => quote s
  | .arr items => "[" ++ ",".intercalate (renderItems items) ++ "]"
  | .obj members => "\x7b" ++ ",".intercalate (renderMembers members) ++ "\x7d"

def renderItems : List Value → List String
  | [] => []
  | v :: rest => v.render :: renderItems rest

def renderMembers : List (String × Value) → List String
  | [] => []
  | (k, v) :: rest => (quote k ++ ":" ++ v.render) :: renderMembers rest

end

end RosterSync.Json

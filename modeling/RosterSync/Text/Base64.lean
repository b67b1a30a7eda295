/-!
Base64 with the URL-safe alphabet and no padding.

Encoding writes each three bytes as four characters of `A–Z a–z 0–9 - _`; a last group of one or
two bytes gives two or three characters. Decoding accepts exactly the texts encoding can produce:
only alphabet characters, a length that is not one more than a multiple of four, and zero bits
in the unused low end of the last character.
-/

namespace RosterSync.Text.Base64

def symbol (n : Nat) : Char :=
  if n < 26 then Char.ofNat (65 + n)
  else if n < 52 then Char.ofNat (97 + n - 26)
  else if n < 62 then Char.ofNat (48 + n - 52)
  else if n = 62 then '-' else '_'

def value? (c : Char) : Option Nat :=
  let n := c.toNat
  if 65 ≤ n ∧ n ≤ 90 then some (n - 65)
  else if 97 ≤ n ∧ n ≤ 122 then some (n - 97 + 26)
  else if 48 ≤ n ∧ n ≤ 57 then some (n - 48 + 52)
  else if c = '-' then some 62
  else if c = '_' then some 63
  else none

/-- Encodes bytes (each below 256). -/
def encode : List Nat → List Char
  | a :: b :: c :: rest =>
    let w := a * 65536 + b * 256 + c
    symbol (w / 262144) :: symbol (w / 4096 % 64) :: symbol (w / 64 % 64) :: symbol (w % 64) ::
      encode rest
  | [a, b] =>
    let w := a * 1024 + b * 4
    [symbol (w / 4096), symbol (w / 64 % 64), symbol (w % 64)]
  | [a] => [symbol (a / 4), symbol (a % 4 * 16)]
  | [] => []

/-- Decodes six-bit values; `none` when the last group is too short or has trailing bits. -/
def decodeValues : List Nat → Option (List Nat)
  | a :: b :: c :: d :: rest =>
    let w := ((a * 64 + b) * 64 + c) * 64 + d
    (decodeValues rest).map fun bytes => w / 65536 :: w / 256 % 256 :: w % 256 :: bytes
  | [a, b, c] =>
    if c % 4 = 0 then some [(a * 64 + b) / 16, ((a * 64 + b) % 16) * 16 + c / 4] else none
  | [a, b] => if b % 16 = 0 then some [(a * 64 + b) / 16] else none
  | [_] => none
  | [] => some []

/-- Decodes a text, or `none` if it is not exactly an encoding. -/
def decode (cs : List Char) : Option (List Nat) :=
  (cs.mapM value?).bind decodeValues

end RosterSync.Text.Base64

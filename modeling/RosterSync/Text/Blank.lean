/-!
Blank characters and trimming.

A blank is a character of the Unicode White_Space property: tab through carriage return, space,
next line, no-break space, ogham space mark, the spaces U+2000 to U+200A, the line and paragraph
separators, the narrow no-break space, the medium mathematical space and the ideographic space.
Trimming removes blanks at both ends and nothing else.
-/

-- natural powers take the core instance even where the monoid power is in scope
attribute [local instance (2000)] instPowNat

namespace RosterSync.Text

def isBlank (c : Char) : Bool :=
  let n := c.toNat
  (0x09 ≤ n && n ≤ 0x0D) || n == 0x20 || n == 0x85 || n == 0xA0 || n == 0x1680 ||
    (0x2000 ≤ n && n ≤ 0x200A) || n == 0x2028 || n == 0x2029 || n == 0x202F || n == 0x205F ||
    n == 0x3000

/-- Drops blanks at the front of a character list. -/
def dropBlanks : List Char → List Char
  | [] => []
  | c :: rest => if isBlank c then dropBlanks rest else c :: rest

def trim (s : String) : String :=
  String.ofList (dropBlanks (dropBlanks s.toList).reverse).reverse

/-- The ASCII digits of a text, when it is a nonempty run of them. -/
def digitsValue? (cs : List Char) : Option Nat :=
  if cs.isEmpty || cs.any (fun c => !('0' ≤ c && c ≤ '9')) then none
  else some (cs.foldl (fun acc c => acc * 10 + (c.toNat - 48)) 0)

/-- A signed 64-bit integer written as an optional sign and decimal digits, nothing else. -/
def parseI64? (s : String) : Option Int :=
  let (negative, digits) := match s.toList with
    | '-' :: rest => (true, rest)
    | '+' :: rest => (false, rest)
    | cs => (false, cs)
  match digitsValue? digits with
  | none => none
  | some n =>
    let v : Int := if negative then -(n : Int) else n
    if -(2 ^ (63 : Nat) : Int) ≤ v ∧ v < 2 ^ (63 : Nat) then some v else none

end RosterSync.Text

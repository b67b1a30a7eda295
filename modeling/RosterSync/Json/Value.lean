/-!
JSON values.

A number keeps the kind it was read as: an integer that fits 64 unsigned bits, a negative integer
that fits 64 signed bits, or a double kept as its bits. An object keeps its members as a list of
pairs; `Value.normalize` gives the form a map with sorted keys has, where a later member of a
repeated key replaces the earlier one. Everything the library stores or compares is normal.
-/

-- natural powers take the core instance even where the monoid power is in scope
attribute [local instance (2000)] instPowNat

namespace RosterSync.Json

/-- A JSON number: `nat n` with `n < 2^64`, `neg n` with `-2^63 ≤ n < 0`, or a finite double. -/
inductive Number where
  | nat (n : Nat)
  | neg (n : Int)
  | double (bits : UInt64)
deriving DecidableEq, Repr, Inhabited

inductive Value where
  | null
  | bool (b : Bool)
  | num (n : Number)
  | str (s : String)
  | arr (items : List Value)
  | obj (members : List (String × Value))
deriving Repr, Inhabited

namespace Number

/-- The number as an integer, when it is one. -/
def toInt? : Number → Option Int
  | .nat n => some n
  | .neg n => some n
  | .double _ => none

/-- The number as a 64-bit unsigned integer, when it is an integer in that range. -/
def toU64? : Number → Option Nat
  | .nat n => some n
  | _ => none

/-- The number as a 64-bit signed integer, when it is an integer in that range. -/
def toI64? : Number → Option Int
  | .nat n => if n < 2 ^ (63 : Nat) then some n else none
  | .neg n => some n
  | .double _ => none

/-- The number of an integer, in the kind a reader gives it. -/
def ofInt (i : Int) : Number :=
  if i < 0 then .neg i else .nat i.toNat

end Number

namespace Value

/-- Inserts a member into a list sorted by key, replacing a member of the same key. -/
def insertSorted (k : String) (v : Value) : List (String × Value) → List (String × Value)
  | [] => [(k, v)]
  | (k', v') :: rest =>
    if k = k' then (k, v) :: rest
    else if k < k' then (k, v) :: (k', v') :: rest
    else (k', v') :: insertSorted k v rest

/-- Builds an object from members in reading order: keys sorted, the last of a repeated key kept. -/
def objOf (members : List (String × Value)) : Value :=
  .obj (members.foldl (fun acc kv => insertSorted kv.1 kv.2 acc) [])

mutual

/-- The form of a value as stored: every object's keys sorted and unique. -/
def normalize : Value → Value
  | .arr items => .arr (normalizeItems items)
  | .obj members => objOf (normalizeMembers members)
  | v => v

def normalizeItems : List Value → List Value
  | [] => []
  | v :: rest => normalize v :: normalizeItems rest

def normalizeMembers : List (String × Value) → List (String × Value)
  | [] => []
  | (k, v) :: rest => (k, normalize v) :: normalizeMembers rest

end

/-- The member of an object under `key` (the last one, if the key repeats). -/
def get? (v : Value) (key : String) : Option Value :=
  match v with
  | .obj members => (members.reverse.find? (·.1 == key)).map (·.2)
  | _ => none

/-- The member under `key`, with `null` standing for a missing one. -/
def getD (v : Value) (key : String) : Value :=
  (v.get? key).getD .null

def asStr? : Value → Option String
  | .str s => some s
  | _ => none

def asArr? : Value → Option (List Value)
  | .arr xs => some xs
  | _ => none

def asObj? : Value → Option (List (String × Value))
  | .obj ms => some ms
  | _ => none

def asBool? : Value → Option Bool
  | .bool b => some b
  | _ => none

/-- A non-negative integer below `2^64`, when the value is one. -/
def asU64? : Value → Option Nat
  | .num n => n.toU64?
  | _ => none

/-- A signed 64-bit integer, when the value is one. -/
def asI64? : Value → Option Int
  | .num n => n.toI64?
  | _ => none

def isNull : Value → Bool
  | .null => true
  | _ => false

def ofInt (i : Int) : Value := .num (Number.ofInt i)

def ofNat (n : Nat) : Value := .num (.nat n)

/-- Sets `key` in an object (keeping keys sorted); any other value becomes that one-member object. -/
def set (v : Value) (key : String) (x : Value) : Value :=
  match v with
  | .obj members => .obj (insertSorted key x members)
  | _ => .obj [(key, x)]

end Value

end RosterSync.Json

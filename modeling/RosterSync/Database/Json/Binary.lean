import RosterSync.Database.Json.Node

/-!
The binary form of JSON.

A blob holds JSON in binary form when its bytes are one element: a header whose low four bits
give the type (`null`, `true`, `false`, the four kinds of number, the four kinds of string,
array, object) and whose high four bits give the payload's size, directly below twelve or in
the one, two, four or eight bytes after it; then the payload. Numbers and strings carry their
text, arrays their items and objects their labels and values in turn. A blob passes for JSON
when its first header is complete and the payload fills the rest exactly; a `null`, `true` or
`false` has no payload.
-/

-- natural powers take the core instance even where the monoid power is in scope
attribute [local instance (2000)] instPowNat

namespace RosterSync.Database

/-- The byte at a place, zero past the end. -/
def byteAt (b : Array UInt8) (i : Nat) : Nat := (b.getD i 0).toNat

/-- The big-endian value of `k` bytes from place `i`. -/
def bytesValue (b : Array UInt8) (i k : Nat) : Nat :=
  (List.range k).foldl (fun acc d => acc * 256 + byteAt b (i + d)) 0

/-- The header of the element at place `i`: its type, the header's length and the payload's
size, when the header is complete and the payload lies inside the bytes. -/
def elementHeader (b : Array UInt8) (i : Nat) : Option (Nat × Nat × Nat) :=
  if i ≥ b.size then none else
  let x := byteAt b i
  let code := x / 16
  let sized : Option (Nat × Nat) :=
    if code ≤ 11 then some (1, code)
    else if code = 12 then if i + 1 < b.size then some (2, byteAt b (i + 1)) else none
    else if code = 13 then if i + 2 < b.size then some (3, bytesValue b (i + 1) 2) else none
    else if code = 14 then if i + 4 < b.size then some (5, bytesValue b (i + 1) 4) else none
    else if i + 8 < b.size && bytesValue b (i + 1) 4 = 0 then some (9, bytesValue b (i + 5) 4)
    else none
  match sized with
  | some (n, sz) => if i + n + sz > b.size then none else some (x % 16, n, sz)
  | none => none

def looksLikeBinaryJson (bytes : List UInt8) : Bool :=
  let b := bytes.toArray
  match elementHeader b 0 with
  | some (t, n, sz) => t ≤ 12 && n + sz = b.size && (t > 2 || sz = 0)
  | none => false

mutual

/-- The JSON value of the element at place `i` and the place after it. -/
def binaryElement : Nat → Array UInt8 → Nat → Option (JNode × Nat)
  | 0, _, _ => none
  | fuel + 1, b, i =>
    match elementHeader b i with
    | none => none
    | some (t, n, sz) =>
      let start := i + n
      let stop := start + sz
      let text := bytesText (b.extract start stop).toList
      let number (f : String → JNode) : Option (JNode × Nat) :=
        if sz = 0 then none else some (f text, stop)
      match t with
      | 0 => if sz = 0 then some (.null, stop) else none
      | 1 => if sz = 0 then some (.yes, stop) else none
      | 2 => if sz = 0 then some (.no, stop) else none
      | 3 => number .int
      | 4 => number .hexInt
      | 5 => number .real
      | 6 => number .looseReal
      | 7 => some (.str .plain text, stop)
      | 8 => some (.str .escaped text, stop)
      | 9 => some (.str .extended text, stop)
      | 10 => some (.str .raw text, stop)
      | 11 => (binaryItems fuel b start stop []).map fun xs => (.arr xs, stop)
      | 12 => (binaryMembers fuel b start stop []).map fun ms => (.obj ms, stop)
      | _ => none

/-- The items of an array from place `j` up to `stop`; `acc` holds those read, last first. -/
def binaryItems : Nat → Array UInt8 → Nat → Nat → List JNode → Option (List JNode)
  | 0, _, _, _, _ => none
  | fuel + 1, b, j, stop, acc =>
    if j = stop then some acc.reverse
    else
      match binaryElement fuel b j with
      | some (v, k) => if k > stop then none else binaryItems fuel b k stop (v :: acc)
      | none => none

/-- The members of an object from place `j` up to `stop`: a string label, then a value. -/
def binaryMembers : Nat → Array UInt8 → Nat → Nat → List (JLabel × JNode) →
    Option (List (JLabel × JNode))
  | 0, _, _, _, _ => none
  | fuel + 1, b, j, stop, acc =>
    if j = stop then some acc.reverse
    else
      match binaryElement fuel b j with
      | some (.str kind label, k) =>
        match binaryElement fuel b k with
        | some (v, k') =>
          if k' > stop then none else binaryMembers fuel b k' stop (((kind, label), v) :: acc)
        | none => none
      | _ => none

end

/-- The header of an element: the type in the low four bits, and a payload size below twelve in
the high four; a larger size goes, big-endian, into the fewest of one, two or four bytes after
it, the high bits saying which. -/
def binaryHeader (type size : Nat) : List UInt8 :=
  (if size ≤ 11 then [type + size * 16]
  else if size ≤ 0xff then [type + 0xC0, size]
  else if size ≤ 0xffff then [type + 0xD0, size / 256, size % 256]
  else [type + 0xE0, size / 2 ^ (24 : Nat) % 256, size / 2 ^ (16 : Nat) % 256, size / 256 % 256, size % 256]).map
    UInt8.ofNat

def binaryElementOf (type : Nat) (payload : List UInt8) : List UInt8 :=
  binaryHeader type payload.length ++ payload

/-- The type of a string element by how its text is held. -/
def JText.binaryType : JText → Nat
  | .plain => 7
  | .escaped => 8
  | .extended => 9
  | .raw => 10

mutual

/-- The bytes of a JSON value in binary form. -/
def JNode.toBinary : JNode → List UInt8
  | .null => [0]
  | .yes => [1]
  | .no => [2]
  | .int t => binaryElementOf 3 (textBytes t)
  | .hexInt t => binaryElementOf 4 (textBytes t)
  | .real t => binaryElementOf 5 (textBytes t)
  | .looseReal t => binaryElementOf 6 (textBytes t)
  | .str kind t => binaryElementOf kind.binaryType (textBytes t)
  | .arr items => binaryElementOf 11 (itemsToBinary items)
  | .obj members => binaryElementOf 12 (membersToBinary members)

def itemsToBinary : List JNode → List UInt8
  | [] => []
  | x :: rest => x.toBinary ++ itemsToBinary rest

/-- The bytes of object members: each label as a string, then its value. -/
def membersToBinary : List (JLabel × JNode) → List UInt8
  | [] => []
  | ((kind, label), v) :: rest =>
    binaryElementOf kind.binaryType (textBytes label) ++ v.toBinary ++ membersToBinary rest

end

/-- The JSON value that bytes in binary form hold, when they hold one completely. -/
def binaryJson? (bytes : List UInt8) : Option JNode :=
  let b := bytes.toArray
  match binaryElement (2 * b.size + 2) b 0 with
  | some (v, k) => if k = b.size then some v else none
  | none => none

end RosterSync.Database

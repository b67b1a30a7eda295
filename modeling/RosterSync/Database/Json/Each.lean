import RosterSync.Database.Json.Functions

/-!
Walks through JSON values: the rows of the table functions `json_each` and `json_tree`.

A walk reads the JSON in binary form (JSON text is first written in that form), so that each
element has a place: the offset of its header, or for a member of an object the offset of its
label. `json_each` gives one row per item or member of the value at the root path, or one row
for that value when it is no array or object; `json_tree` gives the value at the root path and
then every element below it, each element before the elements inside it, in the order they are
written.

A row holds the element's key (an item's index, a member's decoded label), its value as an SQL
value (arrays and objects as JSON text), its type, its atom (the value, NULL for arrays and
objects), its place, the place of its container (in `json_tree`), its full path and the path of
its container; then the JSON walked through and the root path. A member's label goes into a path
as it is written, in quotes unless it is an ASCII letter followed by ASCII letters and digits.

The root row of `json_tree` below `$` takes its key and its container's path from the root path
itself: the path is cut before its last step that names a container holding the root as its
first element, or after the `$` when there is none, and the key is read from the text after the
cut.
-/

namespace RosterSync.Database

/-- A JSON value read from binary form with the place of each element: an item or a value is
placed at its header, and a member of an object also carries the place of its label. -/
inductive JPlaced where
  | leaf (start : Nat) (node : JNode)
  | array (start : Nat) (node : JNode) (items : List JPlaced)
  | object (start : Nat) (node : JNode) (members : List (Nat × JLabel × JPlaced))

def JPlaced.start : JPlaced → Nat
  | .leaf s _ | .array s _ _ | .object s _ _ => s

def JPlaced.node : JPlaced → JNode
  | .leaf _ v | .array _ v _ | .object _ v _ => v

mutual

/-- The placed element at place `i` of bytes in binary form and the place after it. -/
def placedElement : Nat → Array UInt8 → Nat → Option (JPlaced × Nat)
  | 0, _, _ => none
  | fuel + 1, b, i =>
    match elementHeader b i, binaryElement (2 * b.size + 2) b i with
    | some (t, n, _), some (node, stop) =>
      if t = 11 then (placedItems fuel b (i + n) stop []).map fun xs => (.array i node xs, stop)
      else if t = 12 then
        (placedMembers fuel b (i + n) stop []).map fun ms => (.object i node ms, stop)
      else some (.leaf i node, stop)
    | _, _ => none

/-- The placed items of an array from place `j` up to `stop`; `acc` holds those read, last
first. -/
def placedItems : Nat → Array UInt8 → Nat → Nat → List JPlaced → Option (List JPlaced)
  | 0, _, _, _, _ => none
  | fuel + 1, b, j, stop, acc =>
    if j = stop then some acc.reverse
    else
      match placedElement fuel b j with
      | some (v, k) => if k > stop then none else placedItems fuel b k stop (v :: acc)
      | none => none

/-- The placed members of an object from place `j` up to `stop`: each with the place of its
label, the label and its placed value. -/
def placedMembers : Nat → Array UInt8 → Nat → Nat → List (Nat × JLabel × JPlaced) →
    Option (List (Nat × JLabel × JPlaced))
  | 0, _, _, _, _ => none
  | fuel + 1, b, j, stop, acc =>
    if j = stop then some acc.reverse
    else
      match binaryElement (2 * b.size + 2) b j with
      | some (.str kind label, k) =>
        match placedElement fuel b k with
        | some (v, k') =>
          if k' > stop then none else placedMembers fuel b k' stop ((j, (kind, label), v) :: acc)
        | none => none
      | _ => none

end

/-- The element a path (the text after `$`) reaches, with the place of its label when the last
step named a member; `none` when a step finds nothing, an error for a step that cannot be
read. -/
def JPlaced.findPlaced : Nat → JPlaced → Option Nat → List Char →
    Except Unit (Option (JPlaced × Option Nat))
  | 0, _, _, _ => .ok none
  | _ + 1, v, label, [] => .ok (some (v, label))
  | fuel + 1, v, _, '.' :: p =>
    match pathKey p with
    | none => .error ()
    | some (key, rest) =>
      match v with
      | .object _ _ ms =>
        match ms.find? (fun m => labelsMatch key m.2.1) with
        | some (place, _, w) => w.findPlaced fuel (some place) rest
        | none => .ok none
      | _ => .ok none
  | fuel + 1, v, _, '[' :: p =>
    match v with
    | .array _ _ xs =>
      match pathIndex p xs.length with
      | .error _ => .error ()
      | .ok none => .ok none
      | .ok (some (k, rest)) =>
        match xs[k]? with
        | some w => w.findPlaced fuel none rest
        | none => .ok none
    | _ => .ok none
  | _ + 1, _, _, _ => .error ()

/-- The path step of a member's label as written: `.label` for an ASCII letter followed by
ASCII letters and digits, else `."label"`. -/
def labelStep (label : String) : String :=
  let isAlpha (b : Nat) : Bool := (65 ≤ b && b ≤ 90) || (97 ≤ b && b ≤ 122)
  let isAlnum (b : Nat) : Bool := isAlpha b || (48 ≤ b && b ≤ 57)
  match textBytes label with
  | b :: rest =>
    if isAlpha b.toNat && rest.all (fun c => isAlnum c.toNat) then "." ++ label
    else ".\"" ++ label ++ "\""
  | [] => ".\"\""

/-- One row of a walk: the key, the element, its place, its container's place, its full path
and its container's path. -/
structure WalkRow where
  key : Datum
  node : JNode
  id : Nat
  parent : Option Nat
  fullkey : String
  path : String

/-- The elements directly inside a placed element whose full path is `fk`: each with its key,
its place and its full path. -/
def JPlaced.children (v : JPlaced) (fk : String) : List (Datum × JPlaced × Nat × String) :=
  match v with
  | .array _ _ xs =>
    xs.zipIdx.map fun (x, k) => (.integer k, x, x.start, fk ++ "[" ++ toString k ++ "]")
  | .object _ _ ms =>
    ms.map fun (place, (kind, label), x) =>
      let key := ((JNode.str kind label).toDatum).toOption.getD .null
      (key, x, place, fk ++ labelStep label)
  | .leaf _ _ => []

/-- The rows of `json_tree` for an element and everything below it, the element first. -/
def treeRows : Nat → JPlaced → Datum → Nat → Option Nat → String → String → List WalkRow
  | 0, _, _, _, _, _, _ => []
  | fuel + 1, v, key, id, parent, fk, path =>
    { key, node := v.node, id, parent, fullkey := fk, path } ::
      (v.children fk).flatMap fun (k, x, xid, xfk) => treeRows fuel x k xid (some id) xfk fk

/-- The number of characters of a root path that name the container of the root row of
`json_tree`: the path is cut before its last `.` or `[` whose part before it reaches a
container whose first element (or member's label) is at `rootId`; else after the `$`. -/
def treeParentLength (doc : JPlaced) (b : Array UInt8) (rootPath : List Char) (rootId : Nat) :
    Nat :=
  go rootPath.length
where
  go : Nat → Nat
  | 0 => 0
  | 1 => 1
  | n + 2 =>
    let c := rootPath.getD (n + 1) ' '
    let firstInside : Bool :=
      match doc.findPlaced (b.size + 2) none ((rootPath.take (n + 1)).drop 1) with
      | .ok (some (x, _)) =>
        match elementHeader b x.start with
        | some (_, h, _) => x.start + h == rootId
        | none => false
      | _ => false
    if (c = '[' || c = '.') && firstInside then n + 1 else go (n + 1)

/-- The key of the root row of `json_tree` read from the root path after the part that names
its container: the leading integer after a `[`, the text inside the quotes of a quoted label,
or the text after the dot. -/
def treeRootKey (rootPath : List Char) (cut : Nat) : Datum :=
  let rest := rootPath.drop cut
  let n := rest.length
  match rest with
  | [] => .null
  | '[' :: more => .integer (scanInteger (more.take (n - 1))).1
  | _ :: '"' :: more => .text (String.ofList (more.take (n - 3)))
  | _ :: more => .text (String.ofList more)

/-- The rows of a walk below the root path `root` of a placed JSON value `doc` held in bytes `b`:
`json_each` unless `recursive`. -/
def walkRows (recursive : Bool) (doc : JPlaced) (b : Array UInt8) (root : String) :
    Except String (List WalkRow) := do
  let top ← if root.length = 1 then pure (some (doc, (none : Option Nat)))
    else
      match doc.findPlaced (b.size + 2) none (root.toList.drop 1) with
      | .ok r => pure r
      | .error _ => throw (badPathMessage root)
  match top with
  | none => pure []
  | some (v, label?) =>
    let id := label?.getD v.start
    if recursive then
      let (key, path) :=
        if root.length = 1 then (Datum.null, root)
        else
          let cut := treeParentLength doc b root.toList id
          (treeRootKey root.toList cut, String.ofList (root.toList.take cut))
      pure (treeRows (b.size + 2) v key id none root path)
    else
      match v with
      | .leaf _ node => pure [{ key := .null, node, id, parent := none, fullkey := root, path := root }]
      | _ =>
        pure ((v.children root).map fun (k, x, xid, xfk) =>
          { key := k, node := x.node, id := xid, parent := none, fullkey := xfk, path := root })

/-- The bytes in binary form of a JSON argument: a blob that holds JSON in binary form as it
is, anything else read as JSON and written in binary form. -/
def walkBytes (x : Datum) : Except String (List UInt8) := do
  match x with
  | .blob b =>
    if looksLikeBinaryJson b then
      if (binaryJson? b).isSome then return b else throw malformedJson
  | _ => pure ()
  match ← jsonArgument x with
  | some v => pure v.toBinary
  | none => pure []

/-- The names of the columns of `json_each` and `json_tree`; the last two are hidden. -/
def walkColumns : List String :=
  ["key", "value", "type", "atom", "id", "parent", "fullkey", "path", "json", "root"]

/-- The rows of `json_each` (or `json_tree` when `recursive`) with its arguments: the JSON and
an optional root path. No JSON, a NULL JSON or a NULL path gives no rows; a path must start
with `$`. -/
def jsonWalk (recursive : Bool) (args : List Datum) : Except String (List (List Datum)) := do
  match args with
  | [] => pure []
  | x :: rest =>
    if x == .null then return []
    let bytes ← walkBytes x
    let root? := match rest with
      | p :: _ => pathText? p
      | [] => some "$"
    match root? with
    | none => pure []
    | some root =>
      if !root.startsWith "$" then throw (badPathMessage root)
      let b := bytes.toArray
      match placedElement (b.size + 2) b 0 with
      | none => throw malformedJson
      | some (doc, _) =>
        let rows ← walkRows recursive doc b root
        let jsonValue : Datum := match x with
          | .blob bs => .blob bs
          | _ => .text (untilZero ((x.text?).getD ""))
        rows.mapM fun r => do
          let value ← r.node.sqlValue
          pure [r.key, value, .text r.node.typeName, if r.node.isContainer then .null else value,
            .integer r.id, (r.parent.map fun p => Datum.integer p).getD .null, .text r.fullkey,
            .text r.path, jsonValue, .text root]

end RosterSync.Database

import RosterSync.Record.Filter

/-!
Filters in the tagged form.

A node is an object with a single key: `Field` holds a leaf, `And` and `Or` a list of nodes. A
leaf holds `field`, `operator` and `value`. An operator is one of `Equals`, `Contains`, `Range`,
`In`; an operand is `{"Text": t}`, `{"Range": {"min": lo, "max": hi}}` with `null` for an open
bound, or `{"Values": [t, ...]}`.

Reading is more lenient than writing in the ways the format allows: a leaf or a range may be an
array of its members in order, a missing bound is open, and a name may be an object whose only
key is the name, mapped to `null`. Writing always gives the object form.
-/

namespace RosterSync.Record

open RosterSync.Json

def Operator.tag : Operator → String
  | .equals => "Equals"
  | .contains => "Contains"
  | .range => "Range"
  | .oneOf => "In"

def boundJson : Option String → Value
  | some s => .str s
  | none => .null

def Operand.toTagged : Operand → Value
  | .text t => .obj [("Text", .str t)]
  | .bounds lo hi => .obj [("Range", .obj [("max", boundJson hi), ("min", boundJson lo)])]
  | .values vs => .obj [("Values", .arr (vs.map Value.str))]

mutual

def Filter.toTagged : Filter → Value
  | .field name op operand =>
    .obj [("Field", .obj [("field", .str name), ("operator", .str op.tag),
      ("value", operand.toTagged)])]
  | .all nodes => .obj [("And", .arr (Filter.listToTagged nodes))]
  | .any nodes => .obj [("Or", .arr (Filter.listToTagged nodes))]

def Filter.listToTagged : List Filter → List Value
  | [] => []
  | f :: rest => f.toTagged :: Filter.listToTagged rest

end

/-- The name of a tagged unit: a text, or an object whose only key is the name, mapped to
`null`. -/
def unitTag? : Value → Option String
  | .str s => some s
  | .obj [(k, .null)] => some k
  | _ => none

def Operator.ofTagged? (v : Value) : Option Operator :=
  match unitTag? v with
  | some "Equals" => some .equals
  | some "Contains" => some .contains
  | some "Range" => some .range
  | some "In" => some .oneOf
  | _ => none

/-- The values of named members, in order, from an object by name or from an array by position;
an array must hold exactly one item per name. Missing members are `none`. -/
def recordMembers (names : List String) : Value → Option (List (Option Value))
  | .obj members => some (names.map fun n => (members.find? (·.1 == n)).map (·.2))
  | .arr items => if items.length = names.length then some (items.map some) else none
  | _ => none

/-- An open or closed bound: missing or `null` is open. -/
def boundOf? : Option Value → Option (Option String)
  | none => some none
  | some .null => some none
  | some (.str s) => some (some s)
  | some _ => none

def Operand.ofTagged? : Value → Option Operand
  | .obj [("Text", .str s)] => some (.text s)
  | .obj [("Values", .arr items)] => (items.mapM Value.asStr?).map .values
  | .obj [("Range", r)] => do
    let ms ← recordMembers ["min", "max"] r
    let lo ← boundOf? (ms.getD 0 none)
    let hi ← boundOf? (ms.getD 1 none)
    pure (.bounds lo hi)
  | _ => none

def leafOfTagged? (v : Value) : Option Filter := do
  let ms ← recordMembers ["field", "operator", "value"] v
  let name ← (ms.getD 0 none).bind Value.asStr?
  let op ← (ms.getD 1 none).bind Operator.ofTagged?
  let operand ← (ms.getD 2 none).bind Operand.ofTagged?
  pure (.field name op operand)

mutual

def Filter.ofTagged? : Value → Option Filter
  | .obj [("Field", leaf)] => leafOfTagged? leaf
  | .obj [("And", .arr nodes)] => Filter.all <$> Filter.listOfTagged? nodes
  | .obj [("Or", .arr nodes)] => Filter.any <$> Filter.listOfTagged? nodes
  | _ => none

def Filter.listOfTagged? : List Value → Option (List Filter)
  | [] => some []
  | v :: rest => do
    let f ← Filter.ofTagged? v
    let fs ← Filter.listOfTagged? rest
    pure (f :: fs)

end

end RosterSync.Record

import RosterSync.Record.Row

/-!
Row filters.

A filter is a tree: a leaf tests one field, and `and` and `or` nodes join any number of
subtrees. A leaf names an operator and an operand, and the two may disagree: equality and
containment take a text, a range takes optional bounds, membership takes a list of texts. A
leaf compares the field's text, where a null or missing field reads as the empty text: equality,
substring, bounds compared by code points (each present bound inclusive), membership. A leaf
whose operand does not suit its operator matches nothing. An `and` matches when all its
subtrees do, an `or` when one does.
-/

namespace RosterSync.Record

open RosterSync.Json

inductive Operator where
  | equals
  | contains
  | range
  | oneOf
deriving DecidableEq, Repr, Inhabited

inductive Operand where
  | text (t : String)
  | bounds (min max : Option String)
  | values (vs : List String)
deriving DecidableEq, Repr, Inhabited

inductive Filter where
  | field (name : String) (op : Operator) (operand : Operand)
  | all (nodes : List Filter)
  | any (nodes : List Filter)
deriving Repr, Inhabited

namespace Filter

def eq (name value : String) : Filter := .field name .equals (.text value)

def contains (name value : String) : Filter := .field name .contains (.text value)

def range (name : String) (min max : Option String) : Filter := .field name .range (.bounds min max)

def anyOf (name : String) (values : List String) : Filter := .field name .oneOf (.values values)

def and (a b : Filter) : Filter := .all [a, b]

def or (a b : Filter) : Filter := .any [a, b]

end Filter

/-- The text a filter compares for a field: its text, or empty when null or missing. -/
def fieldText (fields : Fields) (name : String) : String :=
  match fields.get? name with
  | some v => (valueText? v).getD ""
  | none => ""

/-- Whether `pattern` occurs in `text` as a contiguous run of characters. -/
def occursIn (pattern : List Char) : List Char → Bool
  | [] => pattern.isEmpty
  | c :: rest => pattern.isPrefixOf (c :: rest) || occursIn pattern rest

/-- Whether a leaf's test holds of a field's text. -/
def Operator.holds : Operator → Operand → String → Bool
  | .equals, .text v, actual => actual == v
  | .contains, .text v, actual => occursIn v.toList actual.toList
  | .range, .bounds lo hi, actual =>
    (match lo with | some m => decide (m ≤ actual) | none => true) &&
      (match hi with | some m => decide (actual ≤ m) | none => true)
  | .oneOf, .values vs, actual => vs.contains actual
  | _, _, _ => false

mutual

def Filter.matches : Filter → Fields → Bool
  | .field name op operand, fields => op.holds operand (fieldText fields name)
  | .all nodes, fields => Filter.matchesAll nodes fields
  | .any nodes, fields => Filter.matchesAny nodes fields

def Filter.matchesAll : List Filter → Fields → Bool
  | [], _ => true
  | f :: rest, fields => f.matches fields && Filter.matchesAll rest fields

def Filter.matchesAny : List Filter → Fields → Bool
  | [], _ => false
  | f :: rest, fields => f.matches fields || Filter.matchesAny rest fields

end

structure FilterBuilder where
  nodes : List Filter := []

namespace FilterBuilder

def push (b : FilterBuilder) (f : Filter) : FilterBuilder := ⟨b.nodes ++ [f]⟩

def buildAll (b : FilterBuilder) : Filter := .all b.nodes

def buildAny (b : FilterBuilder) : Filter := .any b.nodes

end FilterBuilder

end RosterSync.Record

import RosterSync.Record.Filter

/-!
Filters as a flat list of conditions.

The list form joins each condition to the ones before it by a splice, 1 for `and` and 2 for `or`.
A condition on a field carries a filter type: 1 equality of `value`, 13 containment of `value`,
11 between `minValue` and `maxValue` (each sent only when present), 2 membership in `values`. A
nested `and` or `or` becomes a group whose own conditions are spliced by its kind. A leaf whose
operand does not suit its operator is sent as equality with a fallback text: the text itself,
the first of the values (or empty), or the lower bound (or empty). The top of the tree: an
`and` or `or` gives its children spliced by its kind, a single leaf gives a one-item list.
-/

namespace RosterSync.Record

open RosterSync.Json

inductive Splice where
  | and
  | or
deriving DecidableEq, Repr

def Splice.code : Splice → Nat
  | .and => 1
  | .or => 2

inductive Test where
  | equals (value : String)
  | contains (value : String)
  | between (min max : Option String)
  | oneOf (values : List String)
deriving DecidableEq, Repr

inductive Condition where
  | field (controlId : String) (splice : Splice) (test : Test)
  | group (splice : Splice) (items : List Condition)
deriving Repr

def Operand.fallbackText : Operand → String
  | .text t => t
  | .values vs => vs.headD ""
  | .bounds min _ => min.getD ""

def leafTest : Operator → Operand → Test
  | .equals, .text t => .equals t
  | .contains, .text t => .contains t
  | .range, .bounds lo hi => .between lo hi
  | .oneOf, .values vs => .oneOf vs
  | _, operand => .equals operand.fallbackText

mutual

/-- A node of the tree as a condition joined by `splice`. -/
def Filter.toCondition : Filter → Splice → Condition
  | .field name op operand, splice => .field name splice (leafTest op operand)
  | .all nodes, splice => .group splice (Filter.toConditions nodes .and)
  | .any nodes, splice => .group splice (Filter.toConditions nodes .or)

def Filter.toConditions : List Filter → Splice → List Condition
  | [], _ => []
  | f :: rest, splice => f.toCondition splice :: Filter.toConditions rest splice

end

def Filter.conditions : Filter → List Condition
  | .all nodes => Filter.toConditions nodes .and
  | .any nodes => Filter.toConditions nodes .or
  | leaf => [leaf.toCondition .and]

def Test.members : Test → List (String × Value)
  | .equals v => [("filterType", .ofNat 1), ("value", .str v)]
  | .contains v => [("filterType", .ofNat 13), ("value", .str v)]
  | .between lo hi =>
    [("filterType", .ofNat 11)] ++ (match lo with | some m => [("minValue", .str m)] | none => []) ++
      (match hi with | some m => [("maxValue", .str m)] | none => [])
  | .oneOf vs => [("filterType", .ofNat 2), ("values", .arr (vs.map Value.str))]

mutual

def Condition.toJson : Condition → Value
  | .field id splice test =>
    Value.objOf ([("controlId", .str id), ("dataType", .ofNat 2), ("spliceType", .ofNat splice.code)]
      ++ test.members)
  | .group splice items =>
    Value.objOf [("isGroup", .bool true), ("spliceType", .ofNat splice.code),
      ("groupFilters", .arr (Condition.listToJson items))]

def Condition.listToJson : List Condition → List Value
  | [] => []
  | c :: rest => c.toJson :: Condition.listToJson rest

end

end RosterSync.Record

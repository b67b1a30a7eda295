import RosterSync.Record.Filter

/-!
Filters as a tree of groups and conditions.

A group has a logic, `AND` or `OR`, and children; a condition names a field, an operator and a
list of texts: `eq [t]`, `contains [t]`, `between [lo, hi]` with an open bound sent as the empty
text, and `in values`. A leaf whose operand does not suit its operator is sent by its operand:
a text as `eq`, values as `in`, bounds as `between`. The top is always a group: a single leaf is
wrapped in an `AND` group.
-/

namespace RosterSync.Record

open RosterSync.Json

inductive TreeNode where
  | group (logic : String) (children : List TreeNode)
  | condition (field : String) (operator : String) (value : List String)
deriving Repr

/-- The operator and texts a leaf is sent with. -/
def treeTest : Operator → Operand → String × List String
  | .equals, .text t => ("eq", [t])
  | .contains, .text t => ("contains", [t])
  | .range, .bounds lo hi => ("between", [lo.getD "", hi.getD ""])
  | .oneOf, .values vs => ("in", vs)
  | _, .text t => ("eq", [t])
  | _, .values vs => ("in", vs)
  | _, .bounds lo hi => ("between", [lo.getD "", hi.getD ""])

mutual

/-- A node of the filter as a tree node. -/
def Filter.toTreeNode : Filter → TreeNode
  | .field name op operand =>
    let (operator, value) := treeTest op operand
    .condition name operator value
  | .all nodes => .group "AND" (Filter.toTreeNodes nodes)
  | .any nodes => .group "OR" (Filter.toTreeNodes nodes)

def Filter.toTreeNodes : List Filter → List TreeNode
  | [] => []
  | f :: rest => f.toTreeNode :: Filter.toTreeNodes rest

end

/-- The tree of a filter; its top is a group. -/
def Filter.tree : Filter → TreeNode
  | .field name op operand => .group "AND" [(Filter.field name op operand).toTreeNode]
  | node => node.toTreeNode

mutual

def TreeNode.toJson : TreeNode → Value
  | .group logic children =>
    Value.objOf [("type", .str "group"), ("logic", .str logic),
      ("children", .arr (TreeNode.listToJson children))]
  | .condition field operator value =>
    Value.objOf [("type", .str "condition"), ("field", .str field), ("operator", .str operator),
      ("value", .arr (value.map Value.str))]

def TreeNode.listToJson : List TreeNode → List Value
  | [] => []
  | n :: rest => n.toJson :: TreeNode.listToJson rest

end

end RosterSync.Record

import Mathlib
import RosterSync.Record.Filter.Tree
import RosterSync.Proofs.ConditionLists

/-!
Reading the group tree.

The tree is read as its wire format describes (`nodeHolds?`): a group whose `logic` is `AND`
holds when all its children do, one whose logic is `OR` when some child does. A condition
compares the field's text, the text a filter compares: `eq [t]` is equality with `t`,
`contains [t]` containment of `t`, `in vs` membership in `vs`, and `between [lo, hi]` means
`(lo = "" or text ≥ lo) and (hi = "" or text ≤ hi)`, since an open bound is sent as the empty
text. Anything else is malformed and reads as nothing.

A condition written from a leaf whose operand suits its operator reads as the leaf's test with
its empty bounds taken as open (`nodeHolds?_leaf`), and a group as the join of its children
(`nodeHolds?_group`). By induction over the tree, the tree of a well-paired filter reads on every
row as the filter with every empty bound opened (`Filter.openEmptyBounds`). An empty lower bound
admits every text anyway, but an empty upper bound admits only the empty text, and the tree
cannot tell it from an open one: a filter with no empty upper bound reads as itself
(`group_tree_reads_as_filter_with_open_bounds`), and a range up to the empty text reads as
holding on a row it does not match (`empty_upper_bound_sent_as_open`).
-/

namespace RosterSync.Record

open RosterSync.Json

/-- Whether a condition's operator and texts hold of a field's text. -/
def treeTestHolds? : String → List String → String → Option Bool
  | "eq", [t], actual => some (actual == t)
  | "contains", [t], actual => some (decide (t.toList <:+: actual.toList))
  | "between", [lo, hi], actual =>
    some ((lo == "" || decide (lo ≤ actual)) && (hi == "" || decide (actual ≤ hi)))
  | "in", vs, actual => some (vs.contains actual)
  | _, _, _ => none

/-- Whether a condition node holds of a row's fields, read from its members. -/
def conditionNodeHolds? (fields : Fields) (v : Value) : Option Bool := do
  let field ← (v.get? "field").bind Value.asStr?
  let operator ← (v.get? "operator").bind Value.asStr?
  let texts ← ((v.get? "value").bind Value.asArr?).bind (·.mapM Value.asStr?)
  treeTestHolds? operator texts (fieldText fields field)

/-- How a group joins its children, from its `logic`. -/
def groupJoin? : Option Value → List Bool → Option Bool
  | some (.str "AND"), children => some children.and
  | some (.str "OR"), children => some children.or
  | _, _ => none

mutual

/-- Whether a node of the tree holds of a row's fields, read from its members. -/
def nodeHolds? (fields : Fields) : Value → Option Bool
  | .obj members =>
    match (Value.obj members).get? "type" with
    | some (.str "group") => do
      let children ← (childrenHold? fields members).getD none
      groupJoin? ((Value.obj members).get? "logic") children
    | some (.str "condition") => conditionNodeHolds? fields (.obj members)
    | _ => none
  | _ => none

/-- The readings of a group's children, from its last `children` member. -/
def childrenHold? (fields : Fields) : List (String × Value) → Option (Option (List Bool))
  | [] => none
  | (k, v) :: rest =>
    match childrenHold? fields rest with
    | some r => some r
    | none => if k = "children" then some (childItemsHold? fields v) else none

/-- The readings of the items of an array of nodes. -/
def childItemsHold? (fields : Fields) : Value → Option (List Bool)
  | .arr items => nodesHold? fields items
  | _ => none

/-- The readings of nodes, in order; none when one of them is malformed. -/
def nodesHold? (fields : Fields) : List Value → Option (List Bool)
  | [] => some []
  | v :: rest => do pure ((← nodeHolds? fields v) :: (← nodesHold? fields rest))

end

/-- An operand with each empty bound taken as open. -/
def Operand.openEmpty : Operand → Operand
  | .bounds lo hi => .bounds (lo.filter (· != "")) (hi.filter (· != ""))
  | operand => operand

mutual

/-- The filter with every empty bound of a range taken as open. -/
def Filter.openEmptyBounds : Filter → Filter
  | .field name op operand => .field name op operand.openEmpty
  | .all nodes => .all (Filter.allOpenEmptyBounds nodes)
  | .any nodes => .any (Filter.allOpenEmptyBounds nodes)

def Filter.allOpenEmptyBounds : List Filter → List Filter
  | [] => []
  | f :: rest => f.openEmptyBounds :: Filter.allOpenEmptyBounds rest

end

def Operand.upperNonempty : Operand → Bool
  | .bounds _ (some "") => false
  | _ => true

mutual

/-- No range of the filter has the empty text as its upper bound. -/
def Filter.upperBoundsNonempty : Filter → Bool
  | .field _ _ operand => operand.upperNonempty
  | .all nodes => Filter.allUpperBoundsNonempty nodes
  | .any nodes => Filter.allUpperBoundsNonempty nodes

def Filter.allUpperBoundsNonempty : List Filter → Bool
  | [] => true
  | f :: rest => f.upperBoundsNonempty && Filter.allUpperBoundsNonempty rest

end

theorem empty_le_text (s : String) : "" ≤ s := by
  intro h
  rw [String.lt_iff_toList_lt] at h
  simp at h

theorem Operator.holds_range (lo hi : Option String) (actual : String) :
    Operator.range.holds (.bounds lo hi) actual =
      (decide (∀ m ∈ lo, m ≤ actual) && decide (∀ m ∈ hi, actual ≤ m)) := by
  cases lo <;> cases hi <;> simp [Operator.holds]

theorem forall_mem_filter_nonempty (lo : Option String) (actual : String) :
    (∀ m ∈ lo.filter (· != ""), m ≤ actual) ↔ ∀ m ∈ lo, m ≤ actual := by
  rcases lo with _ | l
  · simp
  · by_cases hl : l = ""
    · simp [hl, empty_le_text]
    · simp [hl]

/-- A test with each empty bound opened gives what it gives with only the empty upper bound
opened. -/
theorem Operator.holds_openEmpty {op : Operator} {operand : Operand}
    (h : operand.upperNonempty = true) (actual : String) :
    op.holds operand.openEmpty actual = op.holds operand actual := by
  cases operand with
  | bounds lo hi =>
    have hhi : hi.filter (· != "") = hi := by
      rcases hi with _ | u
      · rfl
      · have hu : u ≠ "" := by rintro rfl; simp [Operand.upperNonempty] at h
        simp [hu]
    cases op
    case range => rw [Operand.openEmpty, Operator.holds_range, Operator.holds_range, hhi,
      decide_eq_decide.mpr (forall_mem_filter_nonempty lo actual)]
    all_goals rfl
  | text t => rfl
  | values vs => rfl

/-- A lower bound sent as a text, absent as the empty one, reads as the bound opened when
empty. -/
theorem lower_bound_read (lo : Option String) (actual : String) :
    (lo.getD "" == "" || decide (lo.getD "" ≤ actual)) =
      decide (∀ m ∈ lo.filter (· != ""), m ≤ actual) := by
  rcases lo with _ | l
  · simp
  · by_cases hl : l = "" <;> simp [hl]

/-- An upper bound sent as a text, absent as the empty one, reads as the bound opened when
empty. -/
theorem upper_bound_read (hi : Option String) (actual : String) :
    (hi.getD "" == "" || decide (actual ≤ hi.getD "")) =
      decide (∀ m ∈ hi.filter (· != ""), actual ≤ m) := by
  rcases hi with _ | u
  · simp
  · by_cases hu : u = "" <;> simp [hu]

/-- A condition's test read from the texts a leaf is sent with, for an operand that suits its
operator: the leaf's own test with each empty bound open. -/
theorem treeTestHolds?_treeTest {op : Operator} {operand : Operand} (h : op.suits operand = true)
    (actual : String) :
    treeTestHolds? (treeTest op operand).1 (treeTest op operand).2 actual =
      some (op.holds operand.openEmpty actual) := by
  cases op <;> cases operand <;> simp only [Operator.suits, Bool.false_eq_true] at h
  case equals.text t => rfl
  case contains.text t =>
    simp [treeTest, treeTestHolds?, Operand.openEmpty, Operator.holds, ← occursIn_iff]
  case range.bounds lo hi =>
    -- an absent bound is sent as the empty text, which the reading takes as open
    rw [Operand.openEmpty, Operator.holds_range, ← lower_bound_read, ← upper_bound_read]
    rfl
  case oneOf.values vs => rfl

theorem childrenHold?_eq (fields : Fields) (ms : List (String × Value)) :
    childrenHold? fields ms = ((Value.obj ms).get? "children").map (childItemsHold? fields) := by
  induction ms with
  | nil => rfl
  | cons kv ms ih =>
    obtain ⟨k, v⟩ := kv
    simp only [Value.get?] at ih ⊢
    rw [childrenHold?, ih, List.reverse_cons, List.find?_append]
    cases ms.reverse.find? (·.1 == "children") with
    | some kv => rfl
    | none =>
      by_cases hk : k = "children"
      · simp [hk]
      · simp [hk]

theorem mapM_asStr_comp_str (vs : List String) : vs.mapM (Value.asStr? ∘ Value.str) = some vs := by
  induction vs with
  | nil => rfl
  | cons v vs ih => simp [Value.asStr?, ih]

theorem nodeHolds?_group (fields : Fields) (logic : String) (children : List TreeNode) :
    nodeHolds? fields (TreeNode.group logic children).toJson =
      (nodesHold? fields (TreeNode.listToJson children)).bind (groupJoin? (some (.str logic))) := by
  have hnd : (([("type", .str "group"), ("logic", .str logic),
      ("children", .arr (TreeNode.listToJson children))] : Fields).map (·.1)).Nodup := by simp
  have htype := get?_objOf hnd "type"
  have hlogic := get?_objOf hnd "logic"
  have hchildren := get?_objOf hnd "children"
  rw [TreeNode.toJson]
  unfold Value.objOf at htype hlogic hchildren ⊢
  rw [nodeHolds?, htype, childrenHold?_eq, hchildren, hlogic]
  simp [Fields.get?, childItemsHold?]

theorem nodeHolds?_condition (fields : Fields) (field operator : String) (value : List String) :
    nodeHolds? fields (TreeNode.condition field operator value).toJson =
      treeTestHolds? operator value (fieldText fields field) := by
  have hnd : (([("type", .str "condition"), ("field", .str field), ("operator", .str operator),
      ("value", .arr (value.map Value.str))] : Fields).map (·.1)).Nodup := by simp
  have htype := get?_objOf hnd "type"
  rw [TreeNode.toJson]
  unfold Value.objOf at htype
  unfold Value.objOf
  rw [nodeHolds?, htype]
  simp only [Fields.get?]
  show conditionNodeHolds? fields (Value.objOf _) = _
  rw [conditionNodeHolds?, get?_objOf hnd, get?_objOf hnd, get?_objOf hnd]
  simp [Fields.get?, Value.asStr?, Value.asArr?, mapM_asStr_comp_str]

theorem Filter.matchesAll_eq_and (nodes : List Filter) (fields : Fields) :
    Filter.matchesAll nodes fields = (nodes.map (·.matches fields)).and := by
  induction nodes with
  | nil => rfl
  | cons f rest ih => simp [Filter.matchesAll, ih]

theorem Filter.matchesAny_eq_or (nodes : List Filter) (fields : Fields) :
    Filter.matchesAny nodes fields = (nodes.map (·.matches fields)).or := by
  induction nodes with
  | nil => rfl
  | cons f rest ih => simp [Filter.matchesAny, ih]

theorem Filter.toTreeNode_field (name : String) (op : Operator) (operand : Operand) :
    (Filter.field name op operand).toTreeNode =
      .condition name (treeTest op operand).1 (treeTest op operand).2 := rfl

mutual

/-- A node of a well-paired filter, written as a tree node, reads as the node with its empty
bounds opened. -/
theorem nodeHolds?_toTreeNode (fields : Fields) :
    ∀ f : Filter, f.wellPaired = true →
      nodeHolds? fields f.toTreeNode.toJson = some (f.openEmptyBounds.matches fields)
  | .field name op operand, hp => by
    rw [Filter.toTreeNode_field, nodeHolds?_condition, treeTestHolds?_treeTest hp]
    rfl
  | .all nodes, hp => by
    rw [Filter.toTreeNode, nodeHolds?_group, nodesHold?_toTreeNodes fields nodes hp,
      Filter.openEmptyBounds, Filter.matches, Filter.matchesAll_eq_and]
    rfl
  | .any nodes, hp => by
    rw [Filter.toTreeNode, nodeHolds?_group, nodesHold?_toTreeNodes fields nodes hp,
      Filter.openEmptyBounds, Filter.matches, Filter.matchesAny_eq_or]
    rfl

theorem nodesHold?_toTreeNodes (fields : Fields) :
    ∀ nodes : List Filter, Filter.allWellPaired nodes = true →
      nodesHold? fields (TreeNode.listToJson (Filter.toTreeNodes nodes)) =
        some ((Filter.allOpenEmptyBounds nodes).map (·.matches fields))
  | [], _ => rfl
  | f :: rest, hp => by
    simp only [Filter.allWellPaired, Bool.and_eq_true] at hp
    rw [Filter.toTreeNodes, TreeNode.listToJson, nodesHold?, nodeHolds?_toTreeNode fields f hp.1,
      nodesHold?_toTreeNodes fields rest hp.2]
    rfl

end

mutual

theorem Filter.matches_openEmptyBounds (fields : Fields) :
    ∀ f : Filter, f.upperBoundsNonempty = true →
      f.openEmptyBounds.matches fields = f.matches fields
  | .field _ _ _, h => Operator.holds_openEmpty h _
  | .all nodes, h => by
    rw [Filter.openEmptyBounds, Filter.matches, Filter.matches, Filter.matchesAll_eq_and,
      Filter.matchesAll_eq_and, Filter.map_matches_allOpenEmptyBounds fields nodes h]
  | .any nodes, h => by
    rw [Filter.openEmptyBounds, Filter.matches, Filter.matches, Filter.matchesAny_eq_or,
      Filter.matchesAny_eq_or, Filter.map_matches_allOpenEmptyBounds fields nodes h]

theorem Filter.map_matches_allOpenEmptyBounds (fields : Fields) :
    ∀ nodes : List Filter, Filter.allUpperBoundsNonempty nodes = true →
      (Filter.allOpenEmptyBounds nodes).map (·.matches fields) = nodes.map (·.matches fields)
  | [], _ => rfl
  | f :: rest, h => by
    simp only [Filter.allUpperBoundsNonempty, Bool.and_eq_true] at h
    rw [Filter.allOpenEmptyBounds, List.map_cons, List.map_cons,
      Filter.matches_openEmptyBounds fields f h.1,
      Filter.map_matches_allOpenEmptyBounds fields rest h.2]

end

theorem nodeHolds?_tree (fields : Fields) {f : Filter} (hp : f.wellPaired = true) :
    nodeHolds? fields f.tree.toJson = some (f.openEmptyBounds.matches fields) := by
  cases f with
  | field name op operand =>
    have hone : Filter.allWellPaired [.field name op operand] = true := by
      simpa [Filter.allWellPaired] using hp
    show nodeHolds? fields
      (TreeNode.group "AND" (Filter.toTreeNodes [.field name op operand])).toJson = _
    rw [nodeHolds?_group, nodesHold?_toTreeNodes fields _ hone]
    simp [groupJoin?, Filter.allOpenEmptyBounds]
  | all nodes => exact nodeHolds?_toTreeNode fields (.all nodes) hp
  | any nodes => exact nodeHolds?_toTreeNode fields (.any nodes) hp

/-- The group tree of a well-paired filter reads, on every row, as the filter with every empty
bound taken as open; a filter with no empty upper bound, as the filter itself. -/
theorem group_tree_reads_as_filter_with_open_bounds (f : Filter) (hp : f.wellPaired = true)
    (fields : Fields) :
    nodeHolds? fields f.tree.toJson = some (f.openEmptyBounds.matches fields) ∧
      (f.upperBoundsNonempty = true →
        nodeHolds? fields f.tree.toJson = some (f.matches fields)) := by
  refine ⟨nodeHolds?_tree fields hp, fun hu => ?_⟩
  rw [nodeHolds?_tree fields hp, Filter.matches_openEmptyBounds fields f hu]

theorem group_tree_of_nested_filter :
    (Filter.any [.eq "a" "y", .all [.contains "a" "x", .range "a" (some "") (some "z")]]).wellPaired
      = true ∧
    (nodeHolds? [("a", .str "x")]
        (Filter.any [.eq "a" "y", .all [.contains "a" "x", .range "a" (some "") (some "z")]]).tree.toJson =
      some ((Filter.any [.eq "a" "y", .all [.contains "a" "x",
        .range "a" (some "") (some "z")]]).openEmptyBounds.matches [("a", .str "x")]) ∧
    ((Filter.any [.eq "a" "y", .all [.contains "a" "x",
        .range "a" (some "") (some "z")]]).upperBoundsNonempty = true →
      nodeHolds? [("a", .str "x")]
          (Filter.any [.eq "a" "y", .all [.contains "a" "x",
            .range "a" (some "") (some "z")]]).tree.toJson =
        some ((Filter.any [.eq "a" "y", .all [.contains "a" "x",
          .range "a" (some "") (some "z")]]).matches [("a", .str "x")]))) :=
  ⟨rfl, group_tree_reads_as_filter_with_open_bounds _ rfl [("a", .str "x")]⟩

/-- A range up to the empty text is sent as the open range is, and its tree holds on a row whose
field is not empty, a row the range does not match. -/
theorem empty_upper_bound_sent_as_open :
    (Filter.range "a" none (some "")).wellPaired = true ∧
    (Filter.range "a" none (some "")).tree.toJson = (Filter.range "a" none none).tree.toJson ∧
    nodeHolds? [("a", .str "x")] (Filter.range "a" none (some "")).tree.toJson = some true ∧
    (Filter.range "a" none (some "")).matches [("a", .str "x")] = false :=
  ⟨rfl, rfl, rfl, rfl⟩

end RosterSync.Record

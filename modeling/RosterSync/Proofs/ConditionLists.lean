import Mathlib
import RosterSync.Record.Filter.Conditions
import RosterSync.Proofs.RecordStore

/-!
Reading the flat condition list.

The flat list is read as its wire format describes (`conditionsHold?`): conditions combine left to
right, each joining the result so far by its `spliceType`, 1 for `and` and 2 for `or`; a group's
`groupFilters` are read the same way; and an empty list or group holds. A field condition
compares the field's text: `filterType` 1 is equality with `value`, 13 containment of `value`, 11
lying between `minValue` and `maxValue` (an absent bound is open), 2 membership in `values`.
Anything else is malformed and reads as nothing.

Objects are written with their keys sorted, and a member of one built from distinct keys is the
member given (`get?_objOf`). So a field condition reads as its leaf's test when the operand suits
the operator (`conditionHolds?_leaf`), and a group as its items (`conditionHolds?_group`). By
induction over the tree, the list of a filter whose leaves all pair their operator with a suiting
operand reads as the filter with each empty `or` taken for an empty `and` (`Filter.asSent`): the
two are written alike, as an empty group. A filter with no empty `or` reads as itself
(`flat_conditions_read_as_sent_filter`); an empty `or`, which matches nothing, reads as holding
(`empty_or_sent_as_empty_and`).
-/

namespace RosterSync.Record

open RosterSync.Json

/-- How a condition joins the result so far, from its `spliceType`: 1 is `and`, 2 is `or`. -/
def joinOf? (v : Value) : Option (Bool → Bool → Bool) :=
  match v.get? "spliceType" with
  | some (.num (.nat 1)) => some (· && ·)
  | some (.num (.nat 2)) => some (· || ·)
  | _ => none

/-- An optional text member: absent is `some none`, a string is that string, anything else is
malformed. -/
def optText? (v : Value) (key : String) : Option (Option String) :=
  match v.get? key with
  | none => some none
  | some (.str s) => some (some s)
  | some _ => none

/-- Whether a field condition holds of a row's fields, read from its members. -/
def leafHolds? (fields : Fields) (v : Value) : Option Bool := do
  let some (.str id) := v.get? "controlId" | none
  let actual := fieldText fields id
  match v.get? "filterType" with
  | some (.num (.nat 1)) =>
    let some (.str value) := v.get? "value" | none
    some (actual == value)
  | some (.num (.nat 13)) =>
    let some (.str value) := v.get? "value" | none
    some (decide (value.toList <:+: actual.toList))
  | some (.num (.nat 11)) =>
    let lo ← optText? v "minValue"
    let hi ← optText? v "maxValue"
    some (decide (∀ m ∈ lo, m ≤ actual) && decide (∀ m ∈ hi, actual ≤ m))
  | some (.num (.nat 2)) =>
    let some (.arr values) := v.get? "values" | none
    some (values.any fun x => match x with | .str s => s == actual | _ => false)
  | _ => none

mutual

def conditionHolds? (fields : Fields) : Value → Option Bool
  | .obj members =>
    match (Value.obj members).get? "isGroup" with
    | some (.bool true) => (groupHolds? fields members).getD none
    | _ => leafHolds? fields (.obj members)
  | _ => none

def groupHolds? (fields : Fields) : List (String × Value) → Option (Option Bool)
  | [] => none
  | (k, v) :: rest =>
    match groupHolds? fields rest with
    | some r => some r
    | none => if k = "groupFilters" then some (itemsHold? fields v) else none

def itemsHold? (fields : Fields) : Value → Option Bool
  | .arr items => conditionsHold? fields items
  | _ => none

def conditionsHold? (fields : Fields) : List Value → Option Bool
  | [] => some true
  | c :: rest => do spliceFrom? fields (← conditionHolds? fields c) rest

def spliceFrom? (fields : Fields) (acc : Bool) : List Value → Option Bool
  | [] => some acc
  | c :: rest => do
    let join ← joinOf? c
    spliceFrom? fields (join acc (← conditionHolds? fields c)) rest

end

theorem Fields.sorted_merge {fs : Fields} (h : fs.Sorted) (us : Fields) : (fs.merge us).Sorted := by
  induction us generalizing fs with
  | nil => exact h
  | cons kv us ih => exact ih (h.insert kv.1 kv.2)

theorem find?_reverse_of_nodup {ms : Fields} (h : (ms.map (·.1)).Nodup) (k : String) :
    ms.reverse.find? (·.1 == k) = ms.find? (·.1 == k) := by
  induction ms with
  | nil => rfl
  | cons kv ms ih =>
    obtain ⟨hfresh, hnodup⟩ := List.nodup_cons.mp h
    rw [List.reverse_cons, List.find?_append, ih hnodup, List.find?_cons]
    by_cases hk : kv.1 = k
    · have hnone : ms.find? (·.1 == k) = none := by
        rw [List.find?_eq_none]
        intro kv' hkv' heq
        have hkey : kv'.1 = kv.1 := by rw [hk]; simpa using heq
        exact hfresh (List.mem_map.mpr ⟨kv', hkv', hkey⟩)
      simp [hnone, hk]
    · have hne : (kv.1 == k) = false := by simpa using hk
      simp [hne]

theorem get?_objOf {ms : Fields} (h : (ms.map (·.1)).Nodup) (k : String) :
    (Value.objOf ms).get? k = ms.get? k := by
  have hsorted : Fields.Sorted (Fields.merge [] ms) :=
    Fields.sorted_merge (by simp [Fields.Sorted]) ms
  have hmerge := Fields.get?_merge [] h k
  simp only [Fields.get?, List.find?_nil, Option.map_none, Option.or_none] at hmerge
  rw [Fields.get?, ← hmerge]
  show ((Fields.merge [] ms).reverse.find? (·.1 == k)).map (·.2) = _
  rw [find?_reverse_of_nodup hsorted.nodup]


theorem groupHolds?_eq (fields : Fields) (ms : List (String × Value)) :
    groupHolds? fields ms = ((Value.obj ms).get? "groupFilters").map (itemsHold? fields) := by
  induction ms with
  | nil => rfl
  | cons kv ms ih =>
    obtain ⟨k, v⟩ := kv
    simp only [Value.get?] at ih ⊢
    rw [groupHolds?, ih, List.reverse_cons, List.find?_append]
    cases ms.reverse.find? (·.1 == "groupFilters") with
    | some kv => rfl
    | none =>
      by_cases hk : k = "groupFilters"
      · simp [hk]
      · simp [hk]

theorem conditionHolds?_objOf (fields : Fields) {ms : Fields} (h : (ms.map (·.1)).Nodup) :
    conditionHolds? fields (Value.objOf ms) =
      match ms.get? "isGroup" with
      | some (.bool true) => ((ms.get? "groupFilters").map (itemsHold? fields)).getD none
      | _ => leafHolds? fields (Value.objOf ms) := by
  -- read the object's members back through lookups, whatever order they were sorted into
  rw [← get?_objOf h, ← get?_objOf h]
  unfold Value.objOf
  rw [conditionHolds?, groupHolds?_eq]

theorem conditionHolds?_group (fields : Fields) (s : Splice) (items : List Condition) :
    conditionHolds? fields (Condition.group s items).toJson =
      conditionsHold? fields (Condition.listToJson items) := by
  rw [Condition.toJson, conditionHolds?_objOf fields (by simp)]
  simp [Fields.get?, itemsHold?]

theorem nodup_fieldMembers (id : String) (s : Splice) (t : Test) :
    ((([("controlId", .str id), ("dataType", .ofNat 2), ("spliceType", .ofNat s.code)] ++
      t.members) : Fields).map (·.1)).Nodup := by
  cases t with
  | between lo hi => cases lo <;> cases hi <;> simp [Test.members]
  | _ => simp [Test.members]

def Splice.join : Splice → Bool → Bool → Bool
  | .and => (· && ·)
  | .or => (· || ·)

theorem joinOf?_field (id : String) (s : Splice) (t : Test) :
    joinOf? (Condition.field id s t).toJson = some s.join := by
  rw [Condition.toJson, joinOf?, get?_objOf (nodup_fieldMembers id s t)]
  cases s <;> simp [Fields.get?, Splice.code, Splice.join, Value.ofNat]

theorem joinOf?_group (s : Splice) (items : List Condition) :
    joinOf? (Condition.group s items).toJson = some s.join := by
  rw [Condition.toJson, joinOf?, get?_objOf (by simp)]
  cases s <;> simp [Fields.get?, Splice.code, Splice.join, Value.ofNat]

def Operator.suits : Operator → Operand → Bool
  | .equals, .text _ => true
  | .contains, .text _ => true
  | .range, .bounds _ _ => true
  | .oneOf, .values _ => true
  | _, _ => false

theorem occursIn_iff (p : List Char) (t : List Char) : occursIn p t = true ↔ p <:+: t := by
  induction t with
  | nil => simp [occursIn]
  | cons c rest ih =>
    rw [List.infix_cons_iff, occursIn, Bool.or_eq_true, ih, List.isPrefixOf_iff_prefix]

theorem conditionHolds?_leaf (fields : Fields) (name : String) (s : Splice) {op : Operator}
    {operand : Operand} (h : op.suits operand = true) :
    conditionHolds? fields (Condition.field name s (leafTest op operand)).toJson =
      some (op.holds operand (fieldText fields name)) := by
  have hnd := nodup_fieldMembers name s (leafTest op operand)
  rw [Condition.toJson, conditionHolds?_objOf fields hnd]
  simp only [leafHolds?, optText?, get?_objOf hnd]
  cases op <;> cases operand <;> simp only [Operator.suits, Bool.false_eq_true] at h
  case equals.text v => simp [leafTest, Fields.get?, Test.members, Operator.holds, Value.ofNat]
  case contains.text v =>
    simp [leafTest, Fields.get?, Test.members, Operator.holds, Value.ofNat, ← occursIn_iff]
  case range.bounds lo hi =>
    cases lo <;> cases hi <;>
      simp [leafTest, Fields.get?, Test.members, Operator.holds, Value.ofNat]
  case oneOf.values vs =>
    simp [leafTest, Fields.get?, Test.members, Operator.holds, Value.ofNat, Function.comp_def,
      List.any_beq']

mutual

/-- Every leaf pairs its operator with an operand that suits it. -/
def Filter.wellPaired : Filter → Bool
  | .field _ op operand => op.suits operand
  | .all nodes => Filter.allWellPaired nodes
  | .any nodes => Filter.allWellPaired nodes

def Filter.allWellPaired : List Filter → Bool
  | [] => true
  | f :: rest => f.wellPaired && Filter.allWellPaired rest

end

mutual

def Filter.anyNonempty : Filter → Bool
  | .field _ _ _ => true
  | .all nodes => Filter.allAnyNonempty nodes
  | .any nodes => !nodes.isEmpty && Filter.allAnyNonempty nodes

def Filter.allAnyNonempty : List Filter → Bool
  | [] => true
  | f :: rest => f.anyNonempty && Filter.allAnyNonempty rest

end

mutual

/-- The filter a condition list expresses: an empty `or` is written as an empty group, which
holds, so it stands for an empty `and`. -/
def Filter.asSent : Filter → Filter
  | .field name op operand => .field name op operand
  | .all nodes => .all (Filter.allAsSent nodes)
  | .any [] => .all []
  | .any (f :: rest) => .any (f.asSent :: Filter.allAsSent rest)

def Filter.allAsSent : List Filter → List Filter
  | [] => []
  | f :: rest => f.asSent :: Filter.allAsSent rest

end

mutual

theorem Filter.asSent_of_anyNonempty : ∀ f : Filter, f.anyNonempty = true → f.asSent = f
  | .field _ _ _, _ => rfl
  | .all nodes, h => by
    rw [Filter.asSent, Filter.allAsSent_of_allAnyNonempty nodes h]
  | .any [], h => by simp [Filter.anyNonempty] at h
  | .any (f :: rest), h => by
    simp only [Filter.anyNonempty, Filter.allAnyNonempty, List.isEmpty_cons, Bool.not_false,
      Bool.true_and, Bool.and_eq_true] at h
    rw [Filter.asSent, Filter.asSent_of_anyNonempty f h.1,
      Filter.allAsSent_of_allAnyNonempty rest h.2]

theorem Filter.allAsSent_of_allAnyNonempty :
    ∀ nodes : List Filter, Filter.allAnyNonempty nodes = true → Filter.allAsSent nodes = nodes
  | [], _ => rfl
  | f :: rest, h => by
    simp only [Filter.allAnyNonempty, Bool.and_eq_true] at h
    rw [Filter.allAsSent, Filter.asSent_of_anyNonempty f h.1,
      Filter.allAsSent_of_allAnyNonempty rest h.2]

end

theorem joinOf?_toCondition (f : Filter) (s : Splice) :
    joinOf? (f.toCondition s).toJson = some s.join := by
  cases f with
  | field name op operand => exact joinOf?_field name s _
  | all nodes => exact joinOf?_group s _
  | any nodes => exact joinOf?_group s _

section Folds

variable (fields : Fields)

theorem foldl_and_asSent (nodes : List Filter) (acc : Bool) :
    nodes.foldl (fun a g => Splice.and.join a (g.asSent.matches fields)) acc =
      (acc && Filter.matchesAll (Filter.allAsSent nodes) fields) := by
  induction nodes generalizing acc with
  | nil => simp [Filter.allAsSent, Filter.matchesAll]
  | cons g rest ih =>
    rw [List.foldl_cons, ih, Filter.allAsSent, Filter.matchesAll, Splice.join, Bool.and_assoc]

theorem foldl_or_asSent (nodes : List Filter) (acc : Bool) :
    nodes.foldl (fun a g => Splice.or.join a (g.asSent.matches fields)) acc =
      (acc || Filter.matchesAny (Filter.allAsSent nodes) fields) := by
  induction nodes generalizing acc with
  | nil => simp [Filter.allAsSent, Filter.matchesAny]
  | cons g rest ih =>
    rw [List.foldl_cons, ih, Filter.allAsSent, Filter.matchesAny, Splice.join, Bool.or_assoc]

end Folds

mutual

theorem conditionHolds?_toCondition (fields : Fields) :
    ∀ (f : Filter) (s : Splice), f.wellPaired = true →
      conditionHolds? fields (f.toCondition s).toJson = some (f.asSent.matches fields)
  | .field name op operand, s, hp => conditionHolds?_leaf fields name s hp
  | .all [], s, _ => by
    rw [Filter.toCondition, conditionHolds?_group]
    rfl
  | .all (f :: rest), s, hp => by
    simp only [Filter.wellPaired, Filter.allWellPaired, Bool.and_eq_true] at hp
    rw [Filter.toCondition, conditionHolds?_group, Filter.toConditions, Condition.listToJson,
      conditionsHold?, conditionHolds?_toCondition fields f .and hp.1]
    refine (spliceFrom?_toConditions fields rest .and _ hp.2).trans ?_
    rw [foldl_and_asSent]
    rfl
  | .any [], s, _ => by
    rw [Filter.toCondition, conditionHolds?_group]
    rfl
  | .any (f :: rest), s, hp => by
    simp only [Filter.wellPaired, Filter.allWellPaired, Bool.and_eq_true] at hp
    rw [Filter.toCondition, conditionHolds?_group, Filter.toConditions, Condition.listToJson,
      conditionsHold?, conditionHolds?_toCondition fields f .or hp.1]
    refine (spliceFrom?_toConditions fields rest .or _ hp.2).trans ?_
    rw [foldl_or_asSent]
    rfl

theorem spliceFrom?_toConditions (fields : Fields) :
    ∀ (nodes : List Filter) (s : Splice) (acc : Bool), Filter.allWellPaired nodes = true →
      spliceFrom? fields acc (Condition.listToJson (Filter.toConditions nodes s)) =
        some (nodes.foldl (fun a g => s.join a (g.asSent.matches fields)) acc)
  | [], _, _, _ => rfl
  | f :: rest, s, acc, hp => by
    simp only [Filter.allWellPaired, Bool.and_eq_true] at hp
    rw [Filter.toConditions, Condition.listToJson, spliceFrom?, joinOf?_toCondition,
      conditionHolds?_toCondition fields f s hp.1]
    exact spliceFrom?_toConditions fields rest s _ hp.2

end

theorem conditionsHold?_conditions (fields : Fields) {f : Filter} (hp : f.wellPaired = true) :
    conditionsHold? fields (Condition.listToJson f.conditions) = some (f.asSent.matches fields) := by
  cases f with
  | field name op operand =>
    show conditionsHold? fields
      (Condition.listToJson [(Filter.field name op operand).toCondition .and]) = _
    rw [Condition.listToJson, Condition.listToJson, conditionsHold?,
      conditionHolds?_toCondition fields _ .and hp]
    rfl
  | all nodes =>
    exact (conditionHolds?_group fields .and _).symm.trans
      (conditionHolds?_toCondition fields (.all nodes) .and hp)
  | any nodes =>
    exact (conditionHolds?_group fields .or _).symm.trans
      (conditionHolds?_toCondition fields (.any nodes) .or hp)

/-- The flat condition list of a well-paired filter reads, on every row, as the filter with each
empty `or` taken for an empty `and`; without empty `or` nodes, as the filter itself. -/
theorem flat_conditions_read_as_sent_filter (f : Filter) (hp : f.wellPaired = true)
    (fields : Fields) :
    conditionsHold? fields (Condition.listToJson f.conditions) = some (f.asSent.matches fields) ∧
      (f.anyNonempty = true →
        conditionsHold? fields (Condition.listToJson f.conditions) = some (f.matches fields)) := by
  refine ⟨conditionsHold?_conditions fields hp, fun hn => ?_⟩
  rw [conditionsHold?_conditions fields hp, Filter.asSent_of_anyNonempty f hn]

theorem flat_conditions_of_nested_filter :
    conditionsHold? [("a", .str "x")] (Condition.listToJson
        (Filter.any [.eq "a" "y", .all [.contains "a" "x", .range "a" (some "a") none]]).conditions) =
      some ((Filter.any [.eq "a" "y", .all [.contains "a" "x", .range "a" (some "a") none]]).asSent.matches
        [("a", .str "x")]) ∧
    ((Filter.any [.eq "a" "y", .all [.contains "a" "x", .range "a" (some "a") none]]).anyNonempty = true →
      conditionsHold? [("a", .str "x")] (Condition.listToJson
          (Filter.any [.eq "a" "y", .all [.contains "a" "x", .range "a" (some "a") none]]).conditions) =
        some ((Filter.any [.eq "a" "y", .all [.contains "a" "x", .range "a" (some "a") none]]).matches
          [("a", .str "x")])) :=
  flat_conditions_read_as_sent_filter _ (by decide) [("a", .str "x")]

/-- An empty `or` is written as an empty `and` is, at the top and nested, and its list holds on a
row it does not match. -/
theorem empty_or_sent_as_empty_and :
    (Filter.any []).wellPaired = true ∧
    Condition.listToJson (Filter.any []).conditions = Condition.listToJson (Filter.all []).conditions ∧
    Condition.listToJson (Filter.all [.any []]).conditions =
      Condition.listToJson (Filter.all [.all []]).conditions ∧
    conditionsHold? [] (Condition.listToJson (Filter.any []).conditions) = some true ∧
    (Filter.any []).matches [] = false :=
  ⟨rfl, rfl, rfl, rfl, rfl⟩

end RosterSync.Record

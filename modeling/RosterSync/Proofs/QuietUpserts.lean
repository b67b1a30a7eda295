import Mathlib.Data.List.Find
import RosterSync.Proofs.UpsertRows

/-!
What an upsert does when nothing fails.

With no failure queued or waiting in the record store and none pending in the directory
(`NoFailures`), every call an upsert makes answers. A lookup answers `rowOf`, the first row whose
title field holds the external id, and changes no row. The write after it puts the entity's
fields over that row, or into a new row when there was none, and leaves the other worksheets and
the row of every other external id as they were (`Wrote`). Read field by field, the written row
holds each field the upsert writes with its written value and every other field as the row held
it before (`priorFields`): an update merges, so nothing removes a field.

Reference repair only reads when every department the directory lists with an external id has
its row (`DepartmentsInRows`): it answers the rows of the department ids that have one, in order
(`linkedRows`), and a staff member's upsert writes `syncedFields`. An entity without an external
id is refused before any call, and the retry loop gives up on it at once.
-/

namespace RosterSync.Sync

open RosterSync.Json RosterSync.Record RosterSync.Directory RosterSync.Mapping
open RosterSync.Record.MemoryStore

/-- The row a lookup of an external id answers in the worksheet of a mapping: the first whose
title field holds it. -/
def rowOf (s : MemoryStore) (m : WorksheetMapping) (id : String) : Option Row :=
  (s.rows m.worksheet).find? fun r => (Filter.eq m.externalIdField id).matches r.fields

/-- What the row of an external id held before a write: the fields of the row that held it, or,
for a row the write creates, only the row id the store puts in every row. -/
def priorFields (s : MemoryStore) (m : WorksheetMapping) (id rowId : String) : Fields :=
  match rowOf s m id with
  | some r => r.fields
  | none => [("rowid", .str rowId)]

/-- The department rows of a list of department ids, in order, dropping the ids with no row. -/
def linkedRows (s : MemoryStore) (ids : List String) : List String :=
  ids.filterMap fun id => (rowOf s departmentMapping id).map (·.rowId)

/-- The fields an update of an entity writes, its department links read against `s`: the fields
built from the entity, and for a staff member the links when any resolve. -/
def syncedFields (s : MemoryStore) (e : Entity) : Fields :=
  match e.kind with
  | .department => departmentMapping.buildFields e
  | .staff =>
    let rows := linkedRows s e.departmentIds
    if rows.isEmpty then staffMapping.buildFields e
    else (staffMapping.buildFields e).insert departmentsField (relationValue rows)

/-- No failure waits where an upsert reads: none queued in the record store or waiting for its
calls, none pending in the directory. -/
structure NoFailures (b : Backends) : Prop where
  store : Quiet b.store
  waiting : b.waiting = []
  directory : b.directory.failure = none

/-- Every department the directory lists for a tenant with an external id has its row. -/
def DepartmentsInRows (d : MemoryDirectory) (s : MemoryStore) (tenant : String) : Prop :=
  ∀ e ∈ d.entities tenant .department, e.externalId ≠ "" →
    (rowOf s departmentMapping e.externalId).isSome

/-- The row of `id` in `s` holds `F` over what the row of `id` held in `s₀`. -/
def Mirrors (m : WorksheetMapping) (F : Fields) (s₀ s : MemoryStore) (id : String) : Prop :=
  ∃ r, rowOf s m id = some r ∧
    ∀ f, r.fields.get? f = (F.get? f).or ((priorFields s₀ m id r.rowId).get? f)

/-- What writing the fields `F` of the external id `id` into the worksheet of `m` did to the
store: the other worksheets and the rows of the other external ids are as they were, and the row
of `id` holds `F` over what it held. -/
structure Wrote (m : WorksheetMapping) (id : String) (F : Fields) (s s' : MemoryStore) : Prop where
  others : ∀ w, w ≠ m.worksheet → s'.rows w = s.rows w
  untouched : ∀ id', id' ≠ id → rowOf s' m id' = rowOf s m id'
  written : Mirrors m F s s' id

section Views

variable {m : WorksheetMapping} {s s' : MemoryStore} {id : String}

theorem matches_eq (name v : String) (fields : Fields) :
    (Filter.eq name v).matches fields = (fieldText fields name == v) := rfl

theorem rowOf_of_rows (h : s'.rows m.worksheet = s.rows m.worksheet) (id : String) :
    rowOf s' m id = rowOf s m id := by
  simp only [rowOf, h]

theorem priorFields_of_rows (h : s'.rows m.worksheet = s.rows m.worksheet) (id rowId : String) :
    priorFields s' m id rowId = priorFields s m id rowId := by
  simp only [priorFields, rowOf_of_rows h]

theorem linkedRows_of_rows (h : s'.rows .department = s.rows .department) (ids : List String) :
    linkedRows s' ids = linkedRows s ids := by
  simp only [linkedRows, rowOf_of_rows (m := departmentMapping) h]

theorem syncedFields_of_rows (h : s'.rows .department = s.rows .department) (e : Entity) :
    syncedFields s' e = syncedFields s e := by
  simp only [syncedFields, linkedRows_of_rows h]

theorem Mirrors.of_rows {F : Fields} {s₀ s₀' : MemoryStore} (hm : Mirrors m F s₀ s id)
    (h₀ : s₀'.rows m.worksheet = s₀.rows m.worksheet)
    (h : s'.rows m.worksheet = s.rows m.worksheet) : Mirrors m F s₀' s' id := by
  obtain ⟨r, hr, hfields⟩ := hm
  exact ⟨r, (rowOf_of_rows h id).trans hr, fun f => by rw [hfields, priorFields_of_rows h₀]⟩

theorem rowOf_holds {r : Row} (h : rowOf s m id = some r) :
    r ∈ s.rows m.worksheet ∧ fieldText r.fields m.externalIdField = id := by
  have hanswer := lookupAnswer_find m id (s.rows m.worksheet)
  rw [← rowOf, h] at hanswer
  exact hanswer

theorem holding_of_rowOf {k : Kind} (hsound : SheetSound s (mappingFor k)) {r : Row}
    (h : rowOf s (mappingFor k) id = some r) (hid : id ≠ "") : holding k id s = 1 := by
  obtain ⟨hr, htext⟩ := rowOf_holds h
  have hone := hsound.keyed.carrying_eq_one hr (htext ▸ hid)
  rwa [htext] at hone

end Views

section Rows

variable {rows : List Row} {r : Row}

/-- Among rows of distinct ids, changing the row at the index of a row's id changes every row of
that id and no other. -/
theorem modify_eq_map (hnodup : (rows.map (·.rowId)).Nodup) {i : Nat}
    (hi : rows.findIdx? (·.rowId == r.rowId) = some i) (hr : r ∈ rows) (g : Row → Row) :
    rows.modify i g = rows.map fun r' => if r'.rowId = r.rowId then g r' else r' := by
  obtain ⟨hlt, hrow⟩ := getElem_findIdx?_rowId hnodup hi hr
  refine List.ext_getElem (by simp) fun j hj₁ hj₂ => ?_
  rw [List.getElem_modify, List.getElem_map]
  by_cases hij : i = j
  · subst hij
    simp [hrow]
  · -- the row at another index has another id
    have hj : j < rows.length := by simpa using hj₂
    have hne : rows[j].rowId ≠ r.rowId := by
      intro heq
      have hi' : i < (rows.map (·.rowId)).length := by simpa using hlt
      have hj' : j < (rows.map (·.rowId)).length := by simpa using hj
      have hsame : (rows.map (·.rowId))[j] = (rows.map (·.rowId))[i] := by
        simp [heq, hrow]
      exact hij ((List.Nodup.getElem_inj_iff hnodup).mp hsame).symm
    simp [hij, hne]

/-- Changing the rows of one id keeps the first match of a test that the change does not alter on
that row. -/
theorem find?_map_rowId (hnodup : (rows.map (·.rowId)).Nodup) (hr : r ∈ rows) {g : Row → Row}
    {p : Row → Bool} (hp : p (g r) = p r) :
    (rows.map fun r' => if r'.rowId = r.rowId then g r' else r').find? p =
      (rows.find? p).map fun r' => if r'.rowId = r.rowId then g r' else r' := by
  rw [List.find?_map]
  congr 1
  refine List.find?_congr fun x hx => ?_
  simp only [Function.comp_apply]
  split
  · rename_i hid
    rw [List.inj_on_of_nodup_map hnodup hx hr hid]
    exact hp
  · rfl

end Rows

section Fields

/-- What holds of the start of an entity's fields and survives setting any mapped field holds of
all of them. -/
theorem buildFields_induction {m : WorksheetMapping} {e : Entity} (P : Fields → Prop)
    (hstart : P (if e.externalId.isEmpty then [] else [(m.externalIdField, .str e.externalId)]))
    (hstep : ∀ acc (f : FieldMapping) v, f ∈ m.fields → P acc → P (acc.insert f.fieldId v)) :
    P (m.buildFields e) := by
  unfold WorksheetMapping.buildFields
  dsimp only
  generalize (if e.externalId.isEmpty then [] else [(m.externalIdField, Value.str e.externalId)]) =
    acc at hstart
  induction e.attributes generalizing acc with
  | nil => exact hstart
  | cons kv rest ih =>
    rw [List.foldl_cons]
    refine ih _ ?_
    split
    · exact hstart
    · rename_i f hf
      split
      · exact hstep acc f _ (List.mem_of_find?_eq_some hf) hstart
      · exact hstart

theorem buildFields_sorted (k : Kind) (e : Entity) : ((mappingFor k).buildFields e).Sorted := by
  refine buildFields_induction _ ?_ fun acc _ v _ hacc => hacc.insert _ v
  split <;> simp [Fields.Sorted]

theorem mappingFor_fieldId_ne_rowid (k : Kind) :
    ∀ f ∈ (mappingFor k).fields, f.fieldId ≠ "rowid" := by
  cases k <;> decide

theorem buildFields_ne_rowid (k : Kind) (e : Entity) :
    ∀ kv ∈ (mappingFor k).buildFields e, kv.1 ≠ "rowid" := by
  refine buildFields_induction (fun fs => ∀ kv ∈ fs, kv.1 ≠ "rowid") ?_
    fun acc f v hf hacc kv hkv => ?_
  · split
    · simp
    · simpa using mappingFor_title_ne_rowid k
  · rcases Fields.mem_insert hkv with rfl | hold
    · exact mappingFor_fieldId_ne_rowid k f hf
    · exact hacc kv hold

/-- The department links are written in a field of their own, not in the title field and not in
the row id field. -/
theorem departmentsField_ne : departmentsField ≠ staffMapping.externalIdField ∧
    departmentsField ≠ "rowid" := by
  decide

theorem syncedFields_sorted (s : MemoryStore) (e : Entity) : (syncedFields s e).Sorted := by
  unfold syncedFields
  split
  · exact buildFields_sorted .department e
  · dsimp only
    split
    · exact buildFields_sorted .staff e
    · exact (buildFields_sorted .staff e).insert _ _

theorem syncedFields_ne_rowid (s : MemoryStore) (e : Entity) :
    ∀ kv ∈ syncedFields s e, kv.1 ≠ "rowid" := by
  unfold syncedFields
  split
  · exact buildFields_ne_rowid .department e
  · dsimp only
    split
    · exact buildFields_ne_rowid .staff e
    · intro kv hkv
      rcases Fields.mem_insert hkv with rfl | hold
      · exact departmentsField_ne.2
      · exact buildFields_ne_rowid .staff e kv hold

theorem syncedFields_title (s : MemoryStore) {e : Entity} (hid : e.externalId ≠ "") :
    TitleHolds (mappingFor e.kind) (syncedFields s e) e.externalId := by
  unfold syncedFields
  split
  · rename_i hk
    rw [hk]
    exact buildFields_title .department e hid
  · rename_i hk
    rw [hk]
    dsimp only
    split
    · exact buildFields_title .staff e hid
    · exact (buildFields_title .staff e hid).insert _ departmentsField_ne.1

end Fields

section Effects

variable {m : WorksheetMapping} {s s' : MemoryStore} {id : String} {F : Fields}

theorem Wrote.of_rows {s₁ : MemoryStore} (h : Wrote m id F s₁ s') (hrows : s₁.rows = s.rows) :
    Wrote m id F s s' where
  others w hw := by rw [h.others w hw, hrows]
  untouched id' hne := by rw [h.untouched id' hne, rowOf_of_rows (congrFun hrows _)]
  written := h.written.of_rows (congrFun hrows.symm _) rfl

/-- Merging `F` into the row a lookup of `id` answered, among rows of distinct ids: the merged row
is the row of `id`, and every other row is as it was. -/
theorem wrote_update (hids : IdsSound s m) {r : Row} (hfound : rowOf s m id = some r)
    (htitle : TitleHolds m F id) (hsorted : F.Sorted) {i : Nat}
    (hi : (s.rows m.worksheet).findIdx? (·.rowId == r.rowId) = some i)
    (hrows : s'.rows = (s.setRows m.worksheet ((s.rows m.worksheet).modify i
      fun r' => { r' with fields := r'.fields.merge F })).rows) : Wrote m id F s s' := by
  obtain ⟨hr, htext⟩ := rowOf_holds hfound
  let g : Row → Row := fun r' => { r' with fields := r'.fields.merge F }
  have hsheet : s'.rows m.worksheet =
      (s.rows m.worksheet).map fun r' => if r'.rowId = r.rowId then g r' else r' := by
    rw [hrows, setRows_rows, if_pos rfl, modify_eq_map hids.nodup hi hr]
  -- the merge keeps the title text, so every lookup tests the merged row as the old one
  have hkeep : fieldText (g r).fields m.externalIdField = fieldText r.fields m.externalIdField :=
    fieldText_merge fun kv hkv htit => (htitle.only kv hkv htit).trans htext.symm
  have hlook : ∀ id', rowOf s' m id' =
      (rowOf s m id').map fun r' => if r'.rowId = r.rowId then g r' else r' := fun id' => by
    rw [rowOf, hsheet, find?_map_rowId hids.nodup hr (by rw [matches_eq, matches_eq, hkeep])]
    rfl
  refine ⟨fun w hw => by rw [hrows, setRows_rows, if_neg hw], fun id' hne => ?_, ?_⟩
  · rw [hlook id']
    cases hother : rowOf s m id' with
    | none => rfl
    | some r' =>
      obtain ⟨hr', htext'⟩ := rowOf_holds hother
      have hid' : r'.rowId ≠ r.rowId := fun heq => hne (by
        rw [← htext', List.inj_on_of_nodup_map hids.nodup hr' hr heq, htext])
      simp [hid']
  · refine ⟨g r, by rw [hlook id, hfound]; simp, fun f => ?_⟩
    simp only [priorFields, hfound, g]
    exact Fields.get?_merge _ hsorted.nodup f

/-- Appending a row for `id` when no row held it: the new row is the row of `id`, holding `F` and
its row id, and every other row is as it was. -/
theorem wrote_create (hnone : rowOf s m id = none) (htitle : TitleHolds m F id)
    (hrowid : ∀ kv ∈ F, kv.1 ≠ "rowid") (hm : m.externalIdField ≠ "rowid")
    (hrows : s'.rows = (s.insertRow m.worksheet (createdRowId (s.created + 1)) F).rows) :
    Wrote m id F s s' := by
  let new : Row :=
    { rowId := createdRowId (s.created + 1), worksheet := m.worksheet,
      fields := F.insert "rowid" (.str (createdRowId (s.created + 1))) }
  have hnew : fieldText new.fields m.externalIdField = id := by
    rw [fieldText_insert_ne _ _ hm]
    exact htitle.text
  have hlook : ∀ id', rowOf s' m id' = (rowOf s m id').or (if id = id' then some new else none) :=
    fun id' => by
      rw [rowOf, rows_of_insert hrows, List.find?_append]
      simp [matches_eq, hnew, rowOf, new]
  refine ⟨fun w hw => by rw [hrows]; simp [insertRow, hw], fun id' hne => ?_, ?_⟩
  · rw [hlook id', if_neg (Ne.symm hne), Option.or_none]
  · refine ⟨new, by rw [hlook id, hnone, if_pos rfl]; rfl, fun f => ?_⟩
    simp only [priorFields, hnone, new]
    exact Fields.get?_insert_fresh hrowid _ f

end Effects

section Calls

variable {α β : Type}

theorem storeCall_run (act : StateM MemoryStore (Except StoreError α)) (b : Backends) :
    (storeCall act).run.run b =
      ((act.run (b.storeBefore act)).1.mapError .recordStore,
        { b with store := (act.run (b.storeBefore act)).2 }) := rfl

theorem storeCall_run_of_waiting_nil {b : Backends} (hw : b.waiting = [])
    (act : StateM MemoryStore (Except StoreError α)) :
    (storeCall act).run.run b =
      ((act.run b.store).1.mapError .recordStore, { b with store := (act.run b.store).2 }) := by
  rw [storeCall_run, Backends.storeBefore_of_waiting_nil hw]

/-- A store call runs on a store with the rows of the one it is given, which is that store itself
when no failure waits. -/
theorem storeCall_run_on (act : StateM MemoryStore (Except StoreError α)) (b : Backends) :
    ∃ s₀, SameRows b.store s₀ ∧ (b.waiting = [] → s₀ = b.store) ∧
      (storeCall act).run.run b =
        ((act.run s₀).1.mapError .recordStore, { b with store := (act.run s₀).2 }) :=
  ⟨_, b.storeBefore_sameRows act, fun hw => Backends.storeBefore_of_waiting_nil hw act,
    storeCall_run act b⟩

theorem run_ok_bind {x : SyncRun α} {f : α → SyncRun β} {b b₁ : Backends} {a : α}
    (h : x.run.run b = (.ok a, b₁)) : (x >>= f).run.run b = (f a).run.run b₁ := by
  rw [ExceptT.run_bind, run_bind_eq h]

theorem lookup_quiet {b : Backends} (h : Quiet b.store) (hw : b.waiting = []) (m : WorksheetMapping)
    (id : String) :
    ∃ s', (lookup m id).run.run b = (.ok (rowOf b.store m id), { b with store := s' }) ∧
      SameRows b.store s' ∧ Quiet s' := by
  obtain ⟨⟨x, hx⟩, hquiet⟩ := findOne_quiet h m.worksheet (Filter.eq m.externalIdField id)
  obtain ⟨hsame, hfound⟩ := findOne_spec m.worksheet (Filter.eq m.externalIdField id) b.store
  refine ⟨_, ?_, hsame, hquiet⟩
  rw [lookup, storeCall_run_of_waiting_nil hw, hx, hfound x hx]
  rfl

/-- With no failure waiting, writing the fields of `id` over the row a lookup answers succeeds
and does what `Wrote` says. -/
theorem writeRow_quiet {b : Backends} {m : WorksheetMapping} {F : Fields} {id : String}
    (hq : Quiet b.store) (hw : b.waiting = []) (hids : IdsSound b.store m) (htitle : TitleHolds m F id)
    (hsorted : F.Sorted) (hrowid : ∀ kv ∈ F, kv.1 ≠ "rowid") (hm : m.externalIdField ≠ "rowid") :
    ∃ o s', (writeRow m (rowOf b.store m id) F).run.run b = (.ok o, { b with store := s' }) ∧
      Quiet s' ∧ Wrote m id F b.store s' := by
  cases hfound : rowOf b.store m id with
  | some r =>
    obtain ⟨hok, hq'⟩ := updateRow_quiet hq m.worksheet ⟨r, (rowOf_holds hfound).1, rfl⟩ F
    rcases updateRow_spec m.worksheet r.rowId F b.store with
      ⟨e, herr, -⟩ | ⟨i, hi, -, -, hrows⟩
    · rw [hok] at herr
      cases herr
    · refine ⟨.updated r.rowId, _, ?_, hq', wrote_update hids hfound htitle hsorted hi hrows⟩
      simp only [writeRow]
      rw [run_ok_bind (by rw [storeCall_run_of_waiting_nil hw, hok]; rfl)]
      rfl
  | none =>
    obtain ⟨⟨x, hx⟩, hq'⟩ := createRow_quiet hq m.worksheet F
    rcases createRow_spec m.worksheet F b.store with ⟨e, herr, -⟩ | ⟨hok, -, hrows⟩
    · rw [hx] at herr
      cases herr
    · refine ⟨.created (createdRowId (b.store.created + 1)), _, ?_, hq',
        wrote_create hfound htitle hrowid hm hrows⟩
      simp only [writeRow]
      rw [run_ok_bind (by rw [storeCall_run_of_waiting_nil hw, hok]; rfl)]
      rfl

theorem get?_quiet {b : Backends} (h : b.directory.failure = none) (t : String) (k : Kind)
    (id : String) : (directoryCall (MemoryDirectory.get? t k id)).run.run b =
      (.ok ((b.directory.entities t k).find? (·.externalId == id)), b) := by
  obtain ⟨store, ⟨entities, failure⟩, contacts, kv, clock, now⟩ := b
  subst h
  rfl

theorem list_quiet {b : Backends} (h : b.directory.failure = none) (t : String) (k : Kind) :
    (directoryCall (MemoryDirectory.list t k)).run.run b = (.ok (b.directory.entities t k), b) := by
  obtain ⟨store, ⟨entities, failure⟩, contacts, kv, clock, now⟩ := b
  subst h
  rfl

end Calls

section Upserts

theorem prepareFields_of_id (k : Kind) {e : Entity} (hid : e.externalId ≠ "") :
    prepareFields (mappingFor k) e = .ok ((mappingFor k).buildFields e) := by
  have htext := (buildFields_title k e hid).text
  have hne : ((mappingFor k).buildFields e).isEmpty = false := by
    cases h : (mappingFor k).buildFields e with
    | nil =>
      rw [h] at htext
      exact absurd htext.symm hid
    | cons _ _ => rfl
  simp [prepareFields, hne, hid]

theorem prepareFields_no_id (m : WorksheetMapping) {e : Entity} (hid : e.externalId = "") :
    ∃ err, prepareFields m e = .error err ∧ err.isRetryable = false := by
  by_cases hempty : (m.buildFields e).isEmpty
  · exact ⟨.emptyFieldSet e.kind e.externalId, by simp [prepareFields, hempty], rfl⟩
  · exact ⟨.missingExternalId e.kind, by simp [prepareFields, hempty, hid], rfl⟩

theorem upsertDepartment_no_id {e : Entity} (hid : e.externalId = "") {a : Action}
    (ha : a ≠ .delete) (b : Backends) :
    ∃ err, (upsertDepartment e a).run.run b = (.error err, b) ∧ err.isRetryable = false := by
  obtain ⟨err, herr, hfatal⟩ := prepareFields_no_id departmentMapping hid
  refine ⟨err, ?_, hfatal⟩
  cases a with
  | delete => exact absurd rfl ha
  | create | update =>
    simp [upsertDepartment, upsertDepartment.liftExcept, herr, ExceptT.run_bind]
    rfl

theorem upsert_no_id {e : Entity} (hid : e.externalId = "") (b : Backends) :
    ∃ err, (upsert e .update).run.run b = (.error err, b) ∧ err.isRetryable = false := by
  cases hk : e.kind with
  | department =>
    simp only [upsert, hk]
    exact upsertDepartment_no_id hid (by decide) b
  | staff =>
    obtain ⟨err, herr, hfatal⟩ := prepareFields_no_id staffMapping hid
    refine ⟨err, ?_, hfatal⟩
    simp [upsert, hk, upsertStaff, herr, ExceptT.run_bind]
    rfl

theorem upsertDepartment_quiet {b : Backends} (hq : Quiet b.store) (hw : b.waiting = [])
    (hsound : StoreSound b.store) {e : Entity} (hid : e.externalId ≠ "") :
    ∃ o s', (upsertDepartment e .update).run.run b = (.ok o, { b with store := s' }) ∧ Quiet s' ∧
      Wrote departmentMapping e.externalId (departmentMapping.buildFields e) b.store s' := by
  obtain ⟨s₁, hlook, hsame, hq₁⟩ := lookup_quiet hq hw departmentMapping e.externalId
  have hids : IdsSound s₁ departmentMapping :=
    (hsound .department).ids.of_rows (congrFun hsame.rows _) (Nat.le_of_eq hsame.created.symm)
  obtain ⟨o, s₂, hwrite, hq₂, hwrote⟩ := writeRow_quiet (b := { b with store := s₁ }) hq₁ hw hids
    (buildFields_title .department e hid) (buildFields_sorted .department e)
    (buildFields_ne_rowid .department e) (mappingFor_title_ne_rowid .department)
  refine ⟨o, s₂, ?_, hq₂, hwrote.of_rows hsame.rows⟩
  rw [rowOf_of_rows (congrFun hsame.rows _)] at hwrite
  have hprep : prepareFields departmentMapping e = .ok (departmentMapping.buildFields e) :=
    prepareFields_of_id .department hid
  simp only [upsertDepartment]
  rw [run_ok_bind (by simp [upsertDepartment.liftExcept, hprep]; rfl), run_ok_bind hlook]
  exact hwrite

theorem DepartmentsInRows.of_rows {d : MemoryDirectory} {s s' : MemoryStore} {tenant : String}
    (h : DepartmentsInRows d s tenant) (hrows : s'.rows .department = s.rows .department) :
    DepartmentsInRows d s' tenant := fun e he hne => by
  rw [rowOf_of_rows (m := departmentMapping) hrows]
  exact h e he hne

/-- When the directory's departments all have rows, repairing a link only reads: it answers the
row of the department id, if any. A department the directory knows but that has no row can only
be one without an external id, and writing it is refused. -/
theorem resolveOne_quiet {b : Backends} (hq : NoFailures b) {tenant : String}
    (hcover : DepartmentsInRows b.directory b.store tenant) (id : String) :
    ∃ s', (resolveOne tenant id).run b =
        ((rowOf b.store departmentMapping id).map (·.rowId), { b with store := s' }) ∧
      SameRows b.store s' ∧ Quiet s' := by
  obtain ⟨s₁, hlook, hsame, hq₁⟩ := lookup_quiet hq.store hq.waiting departmentMapping id
  unfold resolveOne
  rw [run_bind_eq hlook]
  cases hfound : rowOf b.store departmentMapping id with
  | some row => exact ⟨s₁, rfl, hsame, hq₁⟩
  | none =>
    dsimp only
    rw [run_bind_eq (get?_quiet (b := { b with store := s₁ }) hq.directory _ _ _)]
    cases hget : (b.directory.entities tenant .department).find? (·.externalId == id) with
    | none => exact ⟨s₁, rfl, hsame, hq₁⟩
    | some d =>
      have hdid : d.externalId = "" := by
        by_contra hne
        have hrow := hcover d (List.mem_of_find?_eq_some hget) hne
        have hdeq : d.externalId = id := by simpa using List.find?_some hget
        rw [hdeq, hfound] at hrow
        exact absurd hrow (by simp)
      obtain ⟨err, herr, -⟩ := upsertDepartment_no_id hdid (a := .create) (by decide)
        { b with store := s₁ }
      dsimp only
      rw [run_bind_eq herr]
      exact ⟨s₁, rfl, hsame, hq₁⟩

theorem resolve_quiet {b : Backends} (hq : NoFailures b) {tenant : String}
    (hcover : DepartmentsInRows b.directory b.store tenant) (ids : List String) :
    ∃ s', (resolve tenant ids).run b = (linkedRows b.store ids, { b with store := s' }) ∧
      SameRows b.store s' ∧ Quiet s' := by
  induction ids generalizing b with
  | nil => exact ⟨b.store, rfl, SameRows.refl _, hq.store⟩
  | cons id ids ih =>
    obtain ⟨s₁, hone, hsame₁, hq₁⟩ := resolveOne_quiet hq hcover id
    obtain ⟨s₂, hrest, hsame₂, hq₂⟩ := ih (b := { b with store := s₁ }) ⟨hq₁, hq.waiting, hq.directory⟩
      (hcover.of_rows (congrFun hsame₁.rows _))
    have hlinked : linkedRows s₁ ids = linkedRows b.store ids :=
      linkedRows_of_rows (congrFun hsame₁.rows _) ids
    refine ⟨s₂, ?_, hsame₁.trans hsame₂, hq₂⟩
    simp only [resolve, List.filterMapM_cons]
    rw [run_bind_eq hone]
    cases hrow : rowOf b.store departmentMapping id with
    | none =>
      simp only [Option.map_none]
      rw [← resolve, hrest, hlinked]
      simp [linkedRows, hrow]
    | some row =>
      simp only [Option.map_some]
      rw [run_bind_eq (by rw [← resolve]; exact hrest), hlinked]
      simp [linkedRows, hrow]
      rfl

/-- With no failure waiting and the directory's departments all in rows, a staff update writes
its built fields, with the links that resolve, over its row. -/
theorem upsertStaff_quiet {b : Backends} (hq : NoFailures b) (hsound : StoreSound b.store)
    {e : Entity} (hk : e.kind = .staff) (hid : e.externalId ≠ "")
    (hcover : DepartmentsInRows b.directory b.store e.tenantId) :
    ∃ o s', (upsertStaff e .update).run.run b = (.ok o, { b with store := s' }) ∧ Quiet s' ∧
      Wrote staffMapping e.externalId (syncedFields b.store e) b.store s' := by
  obtain ⟨s₁, hlook, hsame₁, hq₁⟩ := lookup_quiet hq.store hq.waiting staffMapping e.externalId
  obtain ⟨s₂, hresolve, hsame₂, hq₂⟩ := resolve_quiet (b := { b with store := s₁ })
    ⟨hq₁, hq.waiting, hq.directory⟩ (hcover.of_rows (congrFun hsame₁.rows _)) e.departmentIds
  have hsame : SameRows b.store s₂ := hsame₁.trans hsame₂
  have hids : IdsSound s₂ staffMapping :=
    (hsound .staff).ids.of_rows (congrFun hsame.rows _) (Nat.le_of_eq hsame.created.symm)
  have htitle : TitleHolds staffMapping (syncedFields b.store e) e.externalId := by
    have h := syncedFields_title b.store hid
    rwa [hk] at h
  obtain ⟨o, s₃, hwrite, hq₃, hwrote⟩ := writeRow_quiet (b := { b with store := s₂ }) hq₂ hq.waiting
    hids
    htitle (syncedFields_sorted b.store e) (syncedFields_ne_rowid b.store e)
    (mappingFor_title_ne_rowid .staff)
  refine ⟨o, s₃, ?_, hq₃, hwrote.of_rows hsame.rows⟩
  have hprep : prepareFields staffMapping e = .ok (staffMapping.buildFields e) :=
    prepareFields_of_id .staff hid
  have hfields : syncedFields b.store e =
      if (linkedRows s₁ e.departmentIds).isEmpty then staffMapping.buildFields e
      else (staffMapping.buildFields e).insert departmentsField
        (relationValue (linkedRows s₁ e.departmentIds)) := by
    rw [linkedRows_of_rows (congrFun hsame₁.rows _)]
    simp only [syncedFields, hk]
  rw [rowOf_of_rows (congrFun hsame.rows _), hfields] at hwrite
  simp only [upsertStaff]
  rw [run_ok_bind (by simp [hprep]; rfl), run_ok_bind hlook,
    run_ok_bind (by simp [hresolve]; rfl)]
  exact hwrite

/-- With no failure waiting, an update of an entity with an external id writes what
`syncedFields` gives over its row, in the worksheet of its kind. -/
theorem upsert_quiet {b : Backends} (hq : NoFailures b) (hsound : StoreSound b.store)
    {e : Entity} (hid : e.externalId ≠ "")
    (hcover : e.kind = .staff → DepartmentsInRows b.directory b.store e.tenantId) :
    ∃ o s', (upsert e .update).run.run b = (.ok o, { b with store := s' }) ∧ Quiet s' ∧
      Wrote (mappingFor e.kind) e.externalId (syncedFields b.store e) b.store s' := by
  cases hk : e.kind with
  | department =>
    have hfields : syncedFields b.store e = departmentMapping.buildFields e := by
      simp only [syncedFields, hk]
    simp only [upsert, hk, hfields]
    exact upsertDepartment_quiet hq.store hq.waiting hsound hid
  | staff =>
    simp only [upsert, hk]
    exact upsertStaff_quiet hq hsound hk hid (hcover hk)

theorem retryFrom_ok {ε α : Type} {p : RetryPolicy} {retryable : ε → Bool}
    {sleep : Nat → Run Unit} {op : Run (Except ε α)} {b b' : Backends} {v : α}
    (h : op.run b = (.ok v, b')) (attempt left : Nat) :
    (retryFrom p retryable sleep op attempt left).run b = (.ok v, b') := by
  rw [retryFrom, run_bind_eq h]
  rfl

theorem retryFrom_fatal {ε α : Type} {p : RetryPolicy} {retryable : ε → Bool}
    {sleep : Nat → Run Unit} {op : Run (Except ε α)} {b b' : Backends} {err : ε}
    (h : op.run b = (.error err, b')) (hfatal : retryable err = false) (attempt left : Nat) :
    (retryFrom p retryable sleep op attempt left).run b = (.error err, b') := by
  rw [retryFrom, run_bind_eq h]
  simp [hfatal]
  rfl

/-- With no failure waiting, an update under the retry policy succeeds at its first attempt and
writes what `syncedFields` gives over the entity's row; an entity without an external id is
refused at once and changes nothing. -/
theorem upsertWithRetry_quiet (policy : RetryPolicy) {b : Backends} (hq : NoFailures b)
    (hsound : StoreSound b.store) (e : Entity)
    (hcover : e.kind = .staff → DepartmentsInRows b.directory b.store e.tenantId) :
    ∃ o s', (upsertWithRetry policy e .update).run b = (o, { b with store := s' }) ∧ Quiet s' ∧
      (e.externalId = "" → s' = b.store) ∧
      (e.externalId ≠ "" →
        Wrote (mappingFor e.kind) e.externalId (syncedFields b.store e) b.store s') := by
  by_cases hid : e.externalId = ""
  · obtain ⟨err, herr, hfatal⟩ := upsert_no_id hid b
    refine ⟨none, b.store, ?_, hq.store, fun _ => rfl, fun hne => absurd hid hne⟩
    simp only [upsertWithRetry, retry]
    rw [run_bind_eq (retryFrom_fatal herr hfatal _ _)]
    rfl
  · obtain ⟨o, s', hrun, hq', hwrote⟩ := upsert_quiet hq hsound hid hcover
    refine ⟨some o, s', ?_, hq', fun h => absurd h hid, fun _ => hwrote⟩
    simp only [upsertWithRetry, retry]
    rw [run_bind_eq (retryFrom_ok hrun _ _)]
    rfl

end Upserts

end RosterSync.Sync

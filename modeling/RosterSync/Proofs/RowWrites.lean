import RosterSync.Proofs.QuietUpserts

/-!
What each record-store call of an upsert does to the rows, whatever fails.

A worksheet's rows are read as a list: a lookup of an external id answers the first row that holds
it in the title field (`FirstHolding` splits the rows around it), and changes no row. Among rows of
distinct ids, an update of that row's id merges the fields into that row alone, and a deletion of
its id removes that row alone, the others staying in their order. A creation appends a row under
the next created id. Every one of these calls may instead fail, and then changes no row.

`RowEffect` gathers what an upsert can do to its entity's worksheet, by what it answered, and the
department upsert is shown to do exactly that and to leave the other worksheets alone. A refused
upsert (no fields, or no external id) makes no call at all; any other failure is the record
store's (`FailedAs`).
-/

namespace RosterSync.Sync

open RosterSync.Json RosterSync.Record RosterSync.Directory RosterSync.Mapping
open RosterSync.Record.MemoryStore

/-- `row` stands in `rows` between `front` and `back`, holds `id` in the title field of `m`, and no
row of `front` does: it is the row a lookup of `id` answers. -/
structure FirstHolding (m : WorksheetMapping) (id : String) (rows front : List Row) (row : Row)
    (back : List Row) : Prop where
  split : rows = front ++ row :: back
  before : ∀ x ∈ front, fieldText x.fields m.externalIdField ≠ id
  holds : fieldText row.fields m.externalIdField = id

def departedFields : Fields := [(statusField, dropdownValue departedKey)]

/-- What an upsert by `a` of an entity of kind `k` with external id `id` did to the rows of its
worksheet, from `rows` to `rows'`, when it answered `r` and a write puts `F`: a failure changes no
row; a creation or an update appends a row holding `F` and its new id when no row held `id`, or
merges `F` into the first row holding `id`; a staff deletion merges the departed status into that
row, a department deletion removes it; a deletion that finds no row skips and changes none. -/
def RowEffect (k : Kind) (a : Action) (id : String) (F : Fields) (rows rows' : List Row) :
    Except SyncError Outcome → Prop
  | .error _ => rows' = rows
  | .ok (.created r) => a ≠ .delete ∧
      (∀ x ∈ rows, fieldText x.fields (mappingFor k).externalIdField ≠ id) ∧
      rows' = rows ++
        [{ rowId := r, worksheet := (mappingFor k).worksheet, fields := F.insert "rowid" (.str r) }]
  | .ok (.updated r) => a ≠ .delete ∧ ∃ front row back,
      FirstHolding (mappingFor k) id rows front row back ∧ row.rowId = r ∧
      rows' = front ++ { row with fields := row.fields.merge F } :: back
  | .ok (.departed r) => a = .delete ∧ k = .staff ∧ ∃ front row back,
      FirstHolding (mappingFor k) id rows front row back ∧ row.rowId = r ∧
      rows' = front ++ { row with fields := row.fields.merge departedFields } :: back
  | .ok (.deleted r) => a = .delete ∧ k = .department ∧ ∃ front row back,
      FirstHolding (mappingFor k) id rows front row back ∧ row.rowId = r ∧ rows' = front ++ back
  | .ok .skipped => a = .delete ∧
      (∀ x ∈ rows, fieldText x.fields (mappingFor k).externalIdField ≠ id) ∧ rows' = rows

/-- How an upsert that ran from `b` to `b'` failed: refused for want of fields or of an external
id, before any call, so that nothing moved; or in the record store. -/
def FailedAs (b b' : Backends) : SyncError → Prop
  | .emptyFieldSet _ _ | .missingExternalId _ => b' = b
  | .recordStore _ => True
  | .directory _ | .storage _ => False

section Rows

variable {m : WorksheetMapping} {id : String} {rows front back : List Row} {row : Row}

theorem rowOf_eq_some_iff {s : MemoryStore} :
    rowOf s m id = some row ↔ ∃ front back, FirstHolding m id (s.rows m.worksheet) front row back := by
  simp only [rowOf, List.find?_eq_some_iff_append, matches_eq, beq_iff_eq, Bool.not_eq_true',
    beq_eq_false_iff_ne]
  constructor
  · rintro ⟨hrow, front, back, hsplit, hfront⟩
    exact ⟨front, back, hsplit, hfront, hrow⟩
  · rintro ⟨front, back, hsplit, hfront, hrow⟩
    exact ⟨hrow, front, back, hsplit, hfront⟩

theorem rowOf_eq_none_iff {s : MemoryStore} :
    rowOf s m id = none ↔ ∀ x ∈ s.rows m.worksheet, fieldText x.fields m.externalIdField ≠ id := by
  simp [rowOf, matches_eq]

theorem rowId_fresh_split (hids : ((front ++ row :: back).map (·.rowId)).Nodup) :
    row.rowId ∉ front.map (·.rowId) ∧ row.rowId ∉ back.map (·.rowId) := by
  simp only [List.map_append, List.map_cons, List.nodup_append, List.nodup_cons] at hids
  exact ⟨fun h => hids.2.2 _ h _ List.mem_cons_self rfl, hids.2.1.1⟩

theorem map_rowId_split (hids : ((front ++ row :: back).map (·.rowId)).Nodup) (g : Row → Row) :
    (front ++ row :: back).map (fun x => if x.rowId = row.rowId then g x else x) =
      front ++ g row :: back := by
  have hkeep : ∀ xs : List Row, row.rowId ∉ xs.map (·.rowId) →
      xs.map (fun x => if x.rowId = row.rowId then g x else x) = xs := fun xs hxs =>
    (List.map_congr_left fun x hx => if_neg fun heq => hxs (List.mem_map.mpr ⟨x, hx, heq⟩)).trans
      (List.map_id xs)
  obtain ⟨hfront, hback⟩ := rowId_fresh_split hids
  simp [hkeep front hfront, hkeep back hback]

theorem filter_rowId_split (hids : ((front ++ row :: back).map (·.rowId)).Nodup) :
    (front ++ row :: back).filter (·.rowId != row.rowId) = front ++ back := by
  have hkeep : ∀ xs : List Row, row.rowId ∉ xs.map (·.rowId) →
      xs.filter (·.rowId != row.rowId) = xs := fun xs hxs => by
    refine List.filter_eq_self.mpr fun x hx => ?_
    simpa using fun heq => hxs (List.mem_map.mpr ⟨x, hx, heq⟩)
  obtain ⟨hfront, hback⟩ := rowId_fresh_split hids
  simp [hkeep front hfront, hkeep back hback]

end Rows

theorem MemoryStore.deleteRow_quiet {s : MemoryStore} (h : Quiet s) (w : Worksheet) {rowId : String}
    (hrow : ∃ r ∈ s.rows w, r.rowId = rowId) :
    ((deleteRow w rowId).run s).1 = .ok () ∧ Quiet ((deleteRow w rowId).run s).2 := by
  obtain ⟨r, hr, hid⟩ := hrow
  -- the row of the id is dropped, so fewer rows are kept
  have hshorter : ((s.rows w).filter (·.rowId != rowId)).length ≠ (s.rows w).length := fun heq =>
    by simpa [hid] using List.length_filter_eq_length_iff.mp heq r hr
  unfold deleteRow
  rw [run_bind_eq (enter_quiet h .delete w (some rowId) none)]
  simp only [run_get_bind]
  rw [if_neg hshorter]
  exact ⟨rfl, ⟨h.failures⟩⟩

section Calls

variable {α β : Type}

theorem run_error_bind {x : SyncRun α} {f : α → SyncRun β} {b b₁ : Backends} {e : SyncError}
    (h : x.run.run b = (.error e, b₁)) : (x >>= f).run.run b = (.error e, b₁) := by
  rw [ExceptT.run_bind, run_bind_eq h]
  rfl

theorem mapError_eq_error {r : Except StoreError α} {e : StoreError} (h : r = .error e) :
    r.mapError SyncError.recordStore = .error (.recordStore e) := by
  rw [h]
  rfl

/-- A lookup changes no row, and fails in the record store or answers the first row holding the
id; with no failure waiting it answers. -/
theorem lookup_spec (m : WorksheetMapping) (id : String) (b : Backends) :
    ∃ r s', (lookup m id).run.run b = (r, { b with store := s' }) ∧ SameRows b.store s' ∧
      ((∃ e, r = .error (.recordStore e)) ∨ r = .ok (rowOf b.store m id)) ∧
      (Quiet b.store → b.waiting = [] → r = .ok (rowOf b.store m id) ∧ Quiet s') := by
  obtain ⟨s₀, h₀, hw₀, hrun⟩ :=
    storeCall_run_on (findOne m.worksheet (Filter.eq m.externalIdField id)) b
  obtain ⟨hsame, hfound⟩ := findOne_spec m.worksheet (Filter.eq m.externalIdField id) s₀
  have hrow : rowOf s₀ m id = rowOf b.store m id := rowOf_of_rows (by rw [h₀.rows]) id
  have hanswer : ((∃ e, ((findOne m.worksheet (Filter.eq m.externalIdField id)).run s₀).1.mapError
      SyncError.recordStore = .error (.recordStore e)) ∨
      ((findOne m.worksheet (Filter.eq m.externalIdField id)).run s₀).1.mapError
        SyncError.recordStore = .ok (rowOf b.store m id)) := by
    rcases hres : ((findOne m.worksheet (Filter.eq m.externalIdField id)).run s₀).1 with e | x
    · exact .inl ⟨e, mapError_eq_error rfl⟩
    · rw [hfound x hres, ← hrow]
      exact .inr rfl
  refine ⟨_, _, hrun, h₀.trans hsame, hanswer, fun hq hw => ?_⟩
  obtain rfl := hw₀ hw
  obtain ⟨x, hx⟩ := (findOne_quiet hq m.worksheet (Filter.eq m.externalIdField id)).1
  refine ⟨?_, (findOne_quiet hq _ _).2⟩
  rw [hx, hfound x hx]
  rfl

/-- Merging fields into the first row holding an id, among rows of distinct ids: the call fails
in the record store and changes no row, or merges into that row alone; with no failure waiting it
goes through. -/
theorem updateRow_call (m : WorksheetMapping) (F : Fields) (b : Backends) {front back : List Row}
    {row : Row} (hsplit : b.store.rows m.worksheet = front ++ row :: back)
    (hids : ((b.store.rows m.worksheet).map (·.rowId)).Nodup) :
    ∃ r s', (storeCall (updateRow m.worksheet row.rowId F)).run.run b =
        (r, { b with store := s' }) ∧ s'.created = b.store.created ∧
      (∀ w, w ≠ m.worksheet → s'.rows w = b.store.rows w) ∧
      ((∃ e, r = .error (.recordStore e)) ∧ s'.rows m.worksheet = b.store.rows m.worksheet ∨
        r = .ok () ∧
          s'.rows m.worksheet = front ++ { row with fields := row.fields.merge F } :: back) ∧
      (Quiet b.store → b.waiting = [] → r = .ok () ∧ Quiet s') := by
  obtain ⟨s₀, h₀, hw₀, hrun⟩ := storeCall_run_on (updateRow m.worksheet row.rowId F) b
  refine ⟨_, _, hrun, ?_⟩
  -- the call runs on `s₀`, which has the rows of `b.store`
  rw [← h₀.rows, ← h₀.created] at *
  have hrow : row ∈ s₀.rows m.worksheet := by simp [hsplit]
  rcases updateRow_spec m.worksheet row.rowId F s₀ with
    ⟨e, herr, hsame⟩ | ⟨i, hi, hok, hcreated, hrows⟩
  · refine ⟨hsame.created, fun w _ => by rw [hsame.rows], .inl ⟨⟨e, mapError_eq_error herr⟩,
      by rw [hsame.rows]⟩, fun hq hw => ?_⟩
    obtain rfl := hw₀ hw
    have := (updateRow_quiet hq m.worksheet ⟨row, hrow, rfl⟩ F).1
    rw [herr] at this
    cases this
  · rw [hok]
    refine ⟨hcreated, fun w hw => by rw [hrows]; simp [hw], .inr ⟨rfl, ?_⟩, fun hq hw => ?_⟩
    · rw [hrows, setRows_rows, if_pos rfl, modify_eq_map hids hi hrow, hsplit]
      exact map_rowId_split (hsplit ▸ hids) _
    · obtain rfl := hw₀ hw
      exact ⟨rfl, (updateRow_quiet hq m.worksheet ⟨row, hrow, rfl⟩ F).2⟩

/-- Deleting the id of the first row holding an id, among rows of distinct ids: the call fails in
the record store and changes no row, or removes that row alone; with no failure waiting it goes
through. -/
theorem deleteRow_call (m : WorksheetMapping) (b : Backends) {front back : List Row} {row : Row}
    (hsplit : b.store.rows m.worksheet = front ++ row :: back)
    (hids : ((b.store.rows m.worksheet).map (·.rowId)).Nodup) :
    ∃ r s', (storeCall (deleteRow m.worksheet row.rowId)).run.run b =
        (r, { b with store := s' }) ∧ s'.created = b.store.created ∧
      (∀ w, w ≠ m.worksheet → s'.rows w = b.store.rows w) ∧
      ((∃ e, r = .error (.recordStore e)) ∧ s'.rows m.worksheet = b.store.rows m.worksheet ∨
        r = .ok () ∧ s'.rows m.worksheet = front ++ back) ∧
      (Quiet b.store → b.waiting = [] → r = .ok () ∧ Quiet s') := by
  obtain ⟨s₀, h₀, hw₀, hrun⟩ := storeCall_run_on (deleteRow m.worksheet row.rowId) b
  refine ⟨_, _, hrun, ?_⟩
  rw [← h₀.rows, ← h₀.created] at *
  have hrow : row ∈ s₀.rows m.worksheet := by simp [hsplit]
  rcases deleteRow_spec m.worksheet row.rowId s₀ with
    ⟨e, herr, hsame⟩ | ⟨hok, hcreated, hrows⟩
  · refine ⟨hsame.created, fun w _ => by rw [hsame.rows], .inl ⟨⟨e, mapError_eq_error herr⟩,
      by rw [hsame.rows]⟩, fun hq hw => ?_⟩
    obtain rfl := hw₀ hw
    have := (MemoryStore.deleteRow_quiet hq m.worksheet ⟨row, hrow, rfl⟩).1
    rw [herr] at this
    cases this
  · rw [hok]
    refine ⟨hcreated, fun w hw => by rw [hrows]; simp [hw], .inr ⟨rfl, ?_⟩, fun hq hw => ?_⟩
    · rw [hrows, setRows_rows, if_pos rfl, hsplit]
      exact filter_rowId_split (hsplit ▸ hids)
    · obtain rfl := hw₀ hw
      exact ⟨rfl, (MemoryStore.deleteRow_quiet hq m.worksheet ⟨row, hrow, rfl⟩).2⟩

/-- A creation fails in the record store and changes no row, or appends a row under the next
created id; with no failure waiting it goes through. -/
theorem createRow_call (w : Worksheet) (F : Fields) (b : Backends) :
    ∃ r s', (storeCall (createRow w F)).run.run b = (r, { b with store := s' }) ∧
      (∀ w', w' ≠ w → s'.rows w' = b.store.rows w') ∧
      ((∃ e, r = .error (.recordStore e)) ∧ s'.rows w = b.store.rows w ∧
          s'.created = b.store.created ∨
        r = .ok (createdRowId (b.store.created + 1)) ∧ s'.created = b.store.created + 1 ∧
          s'.rows w = b.store.rows w ++
            [{ rowId := createdRowId (b.store.created + 1), worksheet := w,
               fields := F.insert "rowid" (.str (createdRowId (b.store.created + 1))) }]) ∧
      (Quiet b.store → b.waiting = [] → (∃ v, r = .ok v) ∧ Quiet s') := by
  obtain ⟨s₀, h₀, hw₀, hrun⟩ := storeCall_run_on (createRow w F) b
  refine ⟨_, _, hrun, ?_⟩
  rw [← h₀.rows, ← h₀.created]
  rcases createRow_spec w F s₀ with ⟨e, herr, hsame⟩ | ⟨hok, hcreated, hrows⟩
  · refine ⟨fun w' _ => by rw [hsame.rows], .inl ⟨⟨e, mapError_eq_error herr⟩, by rw [hsame.rows],
      hsame.created⟩, fun hq hw => ?_⟩
    obtain rfl := hw₀ hw
    obtain ⟨v, hv⟩ := (createRow_quiet hq w F).1
    rw [herr] at hv
    cases hv
  · rw [hok]
    refine ⟨fun w' hw => by rw [hrows]; simp [insertRow, hw], .inr ⟨rfl, hcreated, ?_⟩,
      fun hq hw => ?_⟩
    · rw [hrows]
      simp [insertRow]
    · obtain rfl := hw₀ hw
      exact ⟨⟨_, rfl⟩, (createRow_quiet hq w F).2⟩

end Calls

section Writes

/-- Preparing an entity's fields gives its built fields when it has an external id, and refuses
it otherwise. -/
theorem prepareFields_cases (k : Kind) (e : Entity) :
    e.externalId ≠ "" ∧ prepareFields (mappingFor k) e = .ok ((mappingFor k).buildFields e) ∨
      e.externalId = "" ∧ ∃ err, prepareFields (mappingFor k) e = .error err ∧ ∀ b, FailedAs b b err := by
  by_cases hid : e.externalId = ""
  · refine .inr ⟨hid, ?_⟩
    by_cases hempty : ((mappingFor k).buildFields e).isEmpty
    · exact ⟨.emptyFieldSet e.kind e.externalId, by simp [prepareFields, hempty], fun _ => rfl⟩
    · exact ⟨.missingExternalId e.kind, by simp [prepareFields, hempty, hid], fun _ => rfl⟩
  · exact .inl ⟨hid, prepareFields_of_id k hid⟩

variable (k : Kind) {id : String} (F : Fields) (b : Backends)

/-- A write after a lookup that found no row appends a row holding `F` under the next created id,
or fails in the record store and changes no row. -/
theorem writeRow_none_effect (hnone : rowOf b.store (mappingFor k) id = none) :
    ∃ r s', (writeRow (mappingFor k) none F).run.run b = (r, { b with store := s' }) ∧
      (∀ a, a ≠ .delete → RowEffect k a id F (b.store.rows (mappingFor k).worksheet)
        (s'.rows (mappingFor k).worksheet) r) ∧
      (∀ w, w ≠ (mappingFor k).worksheet → s'.rows w = b.store.rows w) ∧
      (∀ err, r = .error err → ∃ e, err = .recordStore e) ∧
      (∀ o, r = .ok o → o = .created (createdRowId (b.store.created + 1)) ∧
        s'.created = b.store.created + 1) ∧
      (Quiet b.store → b.waiting = [] → (∃ o, r = .ok o) ∧ Quiet s') := by
  obtain ⟨c, s', hrun, hothers, hres, hquiet⟩ := createRow_call (mappingFor k).worksheet F b
  have hfree := rowOf_eq_none_iff.mp hnone
  rcases hres with ⟨⟨e, rfl⟩, hrows, -⟩ | ⟨rfl, hcreated, hrows⟩
  · refine ⟨.error (.recordStore e), s', ?_, fun _ _ => hrows, hothers,
      fun _ h => ⟨e, (Except.error.inj h).symm⟩, fun _ h => (by cases h),
      fun hq hw => absurd (hquiet hq hw).1 (by simp)⟩
    simp only [writeRow]
    exact run_error_bind hrun
  · refine ⟨.ok (.created _), s', ?_, fun _ ha => ⟨ha, hfree, hrows⟩, hothers, fun _ h => (by cases h),
      fun _ h => ⟨(Except.ok.inj h).symm, hcreated⟩, fun hq hw => ⟨⟨_, rfl⟩, (hquiet hq hw).2⟩⟩
    simp only [writeRow]
    rw [run_ok_bind hrun]
    rfl

/-- A write after a lookup that found a row merges `F` into that row, among rows of distinct ids,
or fails in the record store and changes no row. -/
theorem writeRow_some_effect {row : Row} (hfound : rowOf b.store (mappingFor k) id = some row)
    (hids : ((b.store.rows (mappingFor k).worksheet).map (·.rowId)).Nodup) :
    ∃ r s', (writeRow (mappingFor k) (some row) F).run.run b = (r, { b with store := s' }) ∧
      (∀ a, a ≠ .delete → RowEffect k a id F (b.store.rows (mappingFor k).worksheet)
        (s'.rows (mappingFor k).worksheet) r) ∧
      (∀ w, w ≠ (mappingFor k).worksheet → s'.rows w = b.store.rows w) ∧
      (∀ err, r = .error err → ∃ e, err = .recordStore e) ∧
      (Quiet b.store → b.waiting = [] → (∃ o, r = .ok o) ∧ Quiet s') := by
  obtain ⟨front, back, hfirst⟩ := rowOf_eq_some_iff.mp hfound
  obtain ⟨u, s', hrun, -, hothers, hres, hquiet⟩ := updateRow_call (mappingFor k) F b hfirst.split hids
  rcases hres with ⟨⟨e, rfl⟩, hrows⟩ | ⟨rfl, hrows⟩
  · refine ⟨.error (.recordStore e), s', ?_, fun _ _ => hrows, hothers,
      fun _ h => ⟨e, (Except.error.inj h).symm⟩, fun hq hw => absurd (hquiet hq hw).1 (by simp)⟩
    simp only [writeRow]
    exact run_error_bind hrun
  · refine ⟨.ok (.updated row.rowId), s', ?_, fun _ ha => ⟨ha, front, row, back, hfirst, rfl, hrows⟩,
      hothers,
      fun _ h => (by cases h), fun hq hw => ⟨⟨_, rfl⟩, (hquiet hq hw).2⟩⟩
    simp only [writeRow]
    rw [run_ok_bind hrun]
    rfl

/-- A write after a lookup, among rows of distinct ids, does what `RowEffect` says and touches no
other worksheet. -/
theorem writeRow_effect (hids : ((b.store.rows (mappingFor k).worksheet).map (·.rowId)).Nodup) :
    ∃ r s', (writeRow (mappingFor k) (rowOf b.store (mappingFor k) id) F).run.run b =
        (r, { b with store := s' }) ∧
      (∀ a, a ≠ .delete → RowEffect k a id F (b.store.rows (mappingFor k).worksheet)
        (s'.rows (mappingFor k).worksheet) r) ∧
      (∀ w, w ≠ (mappingFor k).worksheet → s'.rows w = b.store.rows w) ∧
      (∀ err, r = .error err → ∃ e, err = .recordStore e) ∧
      (Quiet b.store → b.waiting = [] → (∃ o, r = .ok o) ∧ Quiet s') := by
  cases hfound : rowOf b.store (mappingFor k) id with
  | none =>
    obtain ⟨r, s', hrun, heffect, hothers, herr, -, hquiet⟩ := writeRow_none_effect k F b hfound
    exact ⟨r, s', hrun, heffect, hothers, herr, hquiet⟩
  | some row => exact writeRow_some_effect k F b hfound hids

end Writes

section Department

theorem lookupForDelete_of_id (m : WorksheetMapping) {e : Entity} (hid : e.externalId ≠ "") :
    lookupForDelete m e = lookup m e.externalId := by
  simp [lookupForDelete, hid]

theorem lookupForDelete_no_id (m : WorksheetMapping) {e : Entity} (hid : e.externalId = "")
    (b : Backends) :
    (lookupForDelete m e).run.run b = (.error (.missingExternalId e.kind), b) := by
  simp [lookupForDelete, hid]
  rfl

/-- A department upsert, among department rows of distinct ids, does what `RowEffect` says with
the department's built fields, touches no other worksheet, and fails only as `FailedAs` allows;
with no failure waiting, it goes through for an entity with an external id. -/
theorem upsertDepartment_effect (e : Entity) (a : Action) (b : Backends)
    (hids : ((b.store.rows .department).map (·.rowId)).Nodup) :
    ∃ r s', (upsertDepartment e a).run.run b = (r, { b with store := s' }) ∧
      RowEffect .department a e.externalId (departmentMapping.buildFields e)
        (b.store.rows .department) (s'.rows .department) r ∧
      (∀ w, w ≠ .department → s'.rows w = b.store.rows w) ∧
      (∀ err, r = .error err → FailedAs b { b with store := s' } err) ∧
      (Quiet b.store → b.waiting = [] → e.externalId ≠ "" → (∃ o, r = .ok o) ∧ Quiet s') := by
  obtain ⟨r₁, s₁, hlook, hsame, hans, hq₁⟩ := lookup_spec departmentMapping e.externalId b
  have hids₁ : ((s₁.rows .department).map (·.rowId)).Nodup := by rwa [hsame.rows]
  have hwrite : ∀ a, a ≠ .delete → upsertDepartment e a = upsertDepartment e .update := by
    intro a ha
    cases a <;> first | rfl | exact absurd rfl ha
  by_cases ha : a = .delete
  · subst ha
    by_cases hid : e.externalId = ""
    · -- refused before any call
      have hrun : (upsertDepartment e .delete).run.run b = (.error (.missingExternalId e.kind), b) := by
        simp only [upsertDepartment]
        rw [run_error_bind (lookupForDelete_no_id _ hid b)]
      exact ⟨_, b.store, hrun, rfl, fun _ _ => rfl, fun _ h => (by cases h; rfl),
        fun _ _ hne => absurd hid hne⟩
    have hlook' : (lookupForDelete departmentMapping e).run.run b = (r₁, { b with store := s₁ }) := by
      rw [lookupForDelete_of_id _ hid]
      exact hlook
    rcases hans with ⟨se, rfl⟩ | rfl
    · refine ⟨.error (.recordStore se), s₁, ?_, congrFun hsame.rows _,
        fun w _ => congrFun hsame.rows w, fun _ h => (by cases h; trivial),
        fun hq hw _ => absurd (hq₁ hq hw).1 (by simp)⟩
      simp only [upsertDepartment]
      rw [run_error_bind hlook']
    cases hfound : rowOf b.store departmentMapping e.externalId with
    | none =>
      rw [hfound] at hlook'
      refine ⟨.ok .skipped, s₁, ?_, ⟨rfl, rowOf_eq_none_iff.mp hfound, congrFun hsame.rows _⟩,
        fun w _ => congrFun hsame.rows w, fun _ h => (by cases h),
        fun hq hw _ => ⟨⟨_, rfl⟩, (hq₁ hq hw).2⟩⟩
      simp only [upsertDepartment]
      rw [run_ok_bind hlook']
      rfl
    | some row =>
      rw [hfound] at hlook'
      obtain ⟨front, back, hfirst⟩ := rowOf_eq_some_iff.mp hfound
      obtain ⟨u, s', hdel, -, hothers, hres, hquiet⟩ := deleteRow_call departmentMapping
        { b with store := s₁ } (by rw [hsame.rows]; exact hfirst.split) hids₁
      have hrun : (upsertDepartment e .delete).run.run b =
          ((storeCall (deleteRow departmentMapping.worksheet row.rowId) >>=
            fun _ => pure (Outcome.deleted row.rowId)) : SyncRun Outcome).run.run
            { b with store := s₁ } := by
        simp only [upsertDepartment]
        rw [run_ok_bind hlook']
      rcases hres with ⟨⟨se, rfl⟩, hrows⟩ | ⟨rfl, hrows⟩
      · refine ⟨.error (.recordStore se), s', ?_, hrows.trans (congrFun hsame.rows _),
          fun w hw => (hothers w hw).trans (congrFun hsame.rows w), fun _ h => (by cases h; trivial),
          fun hq hw _ => absurd (hquiet (hq₁ hq hw).2 hw).1 (by simp)⟩
        rw [hrun, run_error_bind hdel]
      · refine ⟨.ok (.deleted row.rowId), s', ?_, ⟨rfl, rfl, front, row, back, hfirst, rfl, hrows⟩,
          fun w hw => (hothers w hw).trans (congrFun hsame.rows w), fun _ h => (by cases h),
          fun hq hw _ => ⟨⟨_, rfl⟩, (hquiet (hq₁ hq hw).2 hw).2⟩⟩
        rw [hrun, run_ok_bind hdel]
        rfl
  rw [hwrite a ha]
  rcases prepareFields_cases .department e with ⟨hid, hprep⟩ | ⟨hid, err, hprep, hfail⟩
  · have hprep' : (upsertDepartment.liftExcept (prepareFields departmentMapping e)).run.run b =
        (.ok (departmentMapping.buildFields e), b) := by
      show (ExceptT.mk (pure (prepareFields (mappingFor .department) e)) : SyncRun Fields).run.run b = _
      rw [hprep]
      rfl
    rcases hans with ⟨se, rfl⟩ | rfl
    · -- the lookup failed: nothing was written
      refine ⟨.error (.recordStore se), s₁, ?_, congrFun hsame.rows _,
        fun w _ => congrFun hsame.rows w, fun _ h => (by cases h; trivial),
        fun hq hw _ => absurd (hq₁ hq hw).1 (by simp)⟩
      simp only [upsertDepartment]
      rw [run_ok_bind hprep', run_error_bind hlook]
    · obtain ⟨r, s', hwrite, heffect, hothers, herr, hquiet⟩ := @writeRow_effect .department
        e.externalId (departmentMapping.buildFields e) { b with store := s₁ } hids₁
      rw [rowOf_of_rows (congrFun hsame.rows _)] at hwrite
      refine ⟨r, s', ?_, hsame.rows ▸ heffect a ha,
        fun w hw => (hothers w hw).trans (congrFun hsame.rows w), fun err h => ?_,
        fun hq hw _ => hquiet (hq₁ hq hw).2 hw⟩
      · simp only [upsertDepartment]
        rw [run_ok_bind hprep', run_ok_bind hlook]
        exact hwrite
      · obtain ⟨se, rfl⟩ := herr err h
        trivial
  · -- refused before any call
    have hrun : (upsertDepartment e .update).run.run b = (.error err, b) := by
      show ((ExceptT.mk (pure (prepareFields (mappingFor .department) e)) : SyncRun Fields) >>=
        _).run.run b = _
      rw [hprep]
      rfl
    refine ⟨.error err, b.store, hrun, rfl, fun _ _ => rfl, fun _ h => ?_, fun _ _ hne => absurd hid hne⟩
    cases h
    exact hfail b

/-- The row that creating the department `dep` appends under the created id `rowId`. -/
def departmentRow (dep : Entity) (rowId : String) : Row :=
  { rowId, worksheet := .department,
    fields := (departmentMapping.buildFields dep).insert "rowid" (.str rowId) }

/-- Creating a department that no row holds, whatever the ids of the other rows: the upsert fails
and changes no row, or appends the department's row under the next created id, which it can only
for a department with an external id. -/
theorem upsertDepartment_create_absent (dep : Entity) (b : Backends)
    (hnone : rowOf b.store departmentMapping dep.externalId = none) :
    ∃ r s', (upsertDepartment dep .create).run.run b = (r, { b with store := s' }) ∧
      (∀ w, w ≠ .department → s'.rows w = b.store.rows w) ∧
      ((∃ err, r = .error err) ∧ s'.rows .department = b.store.rows .department ∨
        dep.externalId ≠ "" ∧ (∃ o, r = .ok o) ∧ s'.rows .department = b.store.rows .department ++
          [departmentRow dep (createdRowId (b.store.created + 1))]) ∧
      (Quiet b.store → b.waiting = [] → Quiet s' ∧ (dep.externalId ≠ "" → ∃ o, r = .ok o)) := by
  rcases prepareFields_cases .department dep with ⟨hid, hprep⟩ | ⟨hid, err, hprep, -⟩
  · have hprep' : (upsertDepartment.liftExcept (prepareFields departmentMapping dep)).run.run b =
        (.ok (departmentMapping.buildFields dep), b) := by
      show (ExceptT.mk (pure (prepareFields (mappingFor .department) dep)) : SyncRun Fields).run.run b = _
      rw [hprep]
      rfl
    obtain ⟨r₁, s₁, hlook, hsame, hans, hq₁⟩ := lookup_spec departmentMapping dep.externalId b
    rcases hans with ⟨se, rfl⟩ | rfl
    · refine ⟨.error (.recordStore se), s₁, ?_, fun w _ => congrFun hsame.rows w,
        .inl ⟨⟨_, rfl⟩, congrFun hsame.rows _⟩, fun hq hw => absurd (hq₁ hq hw).1 (by simp)⟩
      simp only [upsertDepartment]
      rw [run_ok_bind hprep', run_error_bind hlook]
    rw [hnone] at hlook
    have hnone₁ : rowOf s₁ departmentMapping dep.externalId = none := by
      rw [rowOf_of_rows (congrFun hsame.rows _)]
      exact hnone
    obtain ⟨r, s', hwrite, heffect, hothers, -, hcreated, hquiet⟩ := writeRow_none_effect .department
      (departmentMapping.buildFields dep) { b with store := s₁ } hnone₁
    refine ⟨r, s', ?_, fun w hw => (hothers w hw).trans (congrFun hsame.rows w), ?_,
      fun hq hw => ⟨(hquiet (hq₁ hq hw).2 hw).2, fun _ => (hquiet (hq₁ hq hw).2 hw).1⟩⟩
    · simp only [upsertDepartment]
      rw [run_ok_bind hprep', run_ok_bind hlook]
      exact hwrite
    · -- the write fails and keeps the rows, or creates the department's row
      rcases r with e | o
      · exact .inl ⟨⟨e, rfl⟩, (heffect .create (by decide)).trans (congrFun hsame.rows _)⟩
      · obtain ⟨rfl, -⟩ := hcreated o rfl
        have hrows := (heffect .create (by decide)).2.2
        dsimp only at hrows
        rw [congrFun hsame.rows, hsame.created] at hrows
        exact .inr ⟨hid, ⟨_, rfl⟩, hrows⟩
  · have hrun : (upsertDepartment dep .create).run.run b = (.error err, b) := by
      show ((ExceptT.mk (pure (prepareFields (mappingFor .department) dep)) : SyncRun Fields) >>=
        _).run.run b = _
      rw [hprep]
      rfl
    exact ⟨.error err, b.store, hrun, fun _ _ => rfl, .inl ⟨⟨err, rfl⟩, rfl⟩,
      fun hq _ => ⟨hq, fun hne => absurd hid hne⟩⟩

end Department

end RosterSync.Sync

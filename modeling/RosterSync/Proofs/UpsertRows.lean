import Mathlib.Logic.Relation
import RosterSync.Proofs.RecordStore

/-!
Lookup before write keeps one row per external id.

An upsert looks its entity's row up by the external id in the title field and updates the row it
finds or creates one. Run one after another, upserts keep the record store sound (`StoreSound`):
in the staff and department worksheets row ids are distinct and none is an id the store creates
later, and no two rows hold the same nonempty external id, compared in the text form filters
use. A successful creation or update then leaves exactly one row holding the entity's external
id, and a successful department deletion none.

Row ids matter: the store updates the first row of an id and deletes every row of it, so with
two rows under one id an update may write the external id into a row the lookup did not find.

The proof is a Hoare-style triple for each call an upsert makes: a lookup reports what it found
in the rows it saw, a write keeps the worksheet sound when the lookup's answer still holds, and
reference repair inside a staff upsert touches only the department worksheet, so the staff
lookup's answer still holds when the staff row is written.
-/

namespace RosterSync.Sync

open RosterSync.Json RosterSync.Record RosterSync.Directory RosterSync.Mapping
open RosterSync.Record.MemoryStore

/-- The upserts' invariant of the record store: the worksheets of both kinds are sound. -/
def StoreSound (s : MemoryStore) : Prop := ∀ k, SheetSound s (mappingFor k)

/-- A predicate of backend states that reads the record store through its rows and its count of
created rows alone. -/
def RowsOnly (P : Backends → Prop) : Prop :=
  ∀ b b', b'.store.rows = b.store.rows → b'.store.created = b.store.created → P b → P b'

/-- A predicate of backend states that reads only the rows of worksheets other than `ws`: writes
confined to `ws` keep it. -/
def OffSheet (ws : Worksheet) (Q : Backends → Prop) : Prop :=
  ∀ b b', (∀ w, w ≠ ws → b'.store.rows w = b.store.rows w) → Q b → Q b'

/-- What a lookup of `id` in the worksheet of `m` answered, read against the worksheet's rows. -/
def LookupAnswer (m : WorksheetMapping) (id : String) (rows : List Row) : Option Row → Prop
  | some row => row ∈ rows ∧ fieldText row.fields m.externalIdField = id
  | none => ∀ row ∈ rows, fieldText row.fields m.externalIdField ≠ id

/-- Fields that write the external id `id` into the title field, and nothing else there. -/
structure TitleHolds (m : WorksheetMapping) (fields : Fields) (id : String) : Prop where
  text : fieldText fields m.externalIdField = id
  only : ∀ kv ∈ fields, kv.1 = m.externalIdField → (valueText? kv.2).getD "" = id

/-- How many rows of the worksheet of kind `k` hold the external id `id`. -/
def holding (k : Kind) (id : String) (s : MemoryStore) : Nat :=
  carrying (mappingFor k).externalIdField (s.rows (mappingFor k).worksheet) id

/-- What a successful write of the external id `id` leaves in the worksheet of kind `k`: one row
holding it after a creation or an update, none after a department deletion. -/
def Written (k : Kind) (id : String) : Action → MemoryStore → Prop
  | .create, s | .update, s => holding k id s = 1
  | .delete, s => k = .department → holding k id s = 0

/-- The postcondition of a call that keeps `I` whatever it returns and, when it succeeds, leaves
its value and end state satisfying `F`. -/
def KeepsThen {α : Type} (I : Backends → Prop) (F : α → Backends → Prop)
    (r : Except SyncError α) (b : Backends) : Prop :=
  I b ∧ ∀ a, r = .ok a → F a b

section Mappings

theorem mappingFor_worksheet_inj {k k' : Kind}
    (h : (mappingFor k').worksheet = (mappingFor k).worksheet) : k' = k := by
  cases k <;> cases k' <;> first | rfl | exact absurd h (by decide)

theorem mappingFor_fieldId_ne (k : Kind) :
    ∀ f ∈ (mappingFor k).fields, f.fieldId ≠ (mappingFor k).externalIdField := by
  cases k <;> decide

theorem mappingFor_title_ne_rowid (k : Kind) : (mappingFor k).externalIdField ≠ "rowid" := by
  cases k <;> decide

theorem TitleHolds.insert {m : WorksheetMapping} {fields : Fields} {id k : String} (v : Value)
    (h : TitleHolds m fields id) (hk : k ≠ m.externalIdField) :
    TitleHolds m (fields.insert k v) id where
  text := (fieldText_insert_ne fields v (Ne.symm hk)).trans h.text
  only := by
    intro kv hkv htitle
    rcases Fields.mem_insert hkv with rfl | hold
    · exact absurd htitle hk
    · exact h.only kv hold htitle

/-- The fields built for an entity with an external id write it into the title field, and no
attribute writes there. -/
theorem buildFields_title (k : Kind) (e : Entity) (hid : e.externalId ≠ "") :
    TitleHolds (mappingFor k) ((mappingFor k).buildFields e) e.externalId := by
  have hstart : TitleHolds (mappingFor k) [((mappingFor k).externalIdField, .str e.externalId)]
      e.externalId :=
    ⟨by simp [fieldText, Fields.get?, valueText?], fun kv hkv _ => by
      rw [List.mem_singleton] at hkv
      simp [hkv, valueText?]⟩
  unfold WorksheetMapping.buildFields
  rw [if_neg (by simpa using hid)]
  generalize [((mappingFor k).externalIdField, Value.str e.externalId)] = acc at hstart
  induction e.attributes generalizing acc with
  | nil => exact hstart
  | cons kv rest ih =>
    rw [List.foldl_cons]
    refine ih _ ?_
    split
    · exact hstart
    · rename_i f hf
      split
      · exact hstart.insert _ (mappingFor_fieldId_ne k f (List.mem_of_find?_eq_some hf))
      · exact hstart

theorem prepareFields_ok {k : Kind} {e : Entity} {fields : Fields}
    (h : prepareFields (mappingFor k) e = .ok fields) :
    e.externalId ≠ "" ∧ TitleHolds (mappingFor k) fields e.externalId := by
  unfold prepareFields at h
  dsimp only at h
  split at h
  · cases h
  · split at h
    · cases h
    · rename_i hid
      cases h
      have hne : e.externalId ≠ "" := by simpa using hid
      exact ⟨hne, buildFields_title k e hne⟩

end Mappings

section Calls

variable {α β : Type} {P I : Backends → Prop}

theorem StoreSound.of_sameRows {s s' : MemoryStore} (h : StoreSound s) (hs : SameRows s s') :
    StoreSound s' :=
  fun k => (h k).of_rows (congrFun hs.rows _) (Nat.le_of_eq hs.created.symm)

theorem StoreSound.of_sheet {s s' : MemoryStore} {k : Kind} (h : StoreSound s)
    (hk : SheetSound s' (mappingFor k))
    (hother : ∀ w, w ≠ (mappingFor k).worksheet → s'.rows w = s.rows w)
    (hcreated : s.created ≤ s'.created) : StoreSound s' := by
  intro k'
  by_cases hkk : k' = k
  · subst hkk
    exact hk
  · exact (h k').of_rows (hother _ fun heq => hkk (mappingFor_worksheet_inj heq)) hcreated

theorem storeSound_rowsOnly : RowsOnly fun b => StoreSound b.store :=
  fun _ _ hrows hcreated hs => hs.of_sameRows ⟨hrows, hcreated⟩

theorem OffSheet.rowsOnly {ws : Worksheet} {Q : Backends → Prop} (hQ : OffSheet ws Q) :
    RowsOnly fun b => StoreSound b.store ∧ Q b :=
  fun b b' hrows hcreated ⟨hs, hq⟩ =>
    ⟨hs.of_sameRows ⟨hrows, hcreated⟩, hQ b b' (fun w _ => congrFun hrows w) hq⟩

theorem offSheet_true (ws : Worksheet) : OffSheet ws fun _ => True :=
  fun _ _ _ _ => trivial

theorem OffSheet.rowsOnly_lookup {ws : Worksheet} {Q : Backends → Prop} (hQ : OffSheet ws Q)
    (m : WorksheetMapping) (id : String) (x : Option Row) :
    RowsOnly fun b => (StoreSound b.store ∧ Q b) ∧ LookupAnswer m id (b.store.rows m.worksheet) x :=
  fun b b' hrows hcreated ⟨h, hl⟩ => ⟨hQ.rowsOnly b b' hrows hcreated h, by rw [hrows]; exact hl⟩

theorem Triple.keepsBind {x : SyncRun α} {f : α → SyncRun β} {F : α → Backends → Prop}
    {G : β → Backends → Prop} (hx : Triple P x.run (KeepsThen I F))
    (hf : ∀ a, Triple (fun b => I b ∧ F a b) (f a).run (KeepsThen I G)) :
    Triple P (x >>= f).run (KeepsThen I G) :=
  Triple.exceptBind hx (fun a => (hf a).mono (fun _ ⟨hI, hF⟩ => ⟨hI, hF a rfl⟩) fun _ _ => id)
    fun _ _ h => ⟨h.1, fun _ h => nomatch h⟩

theorem Triple.keepsPure {v : α} {F : α → Backends → Prop} (h : ∀ b, P b → I b ∧ F v b) :
    Triple P (Pure.pure v : SyncRun α).run (KeepsThen I F) :=
  Triple.pure fun b hb => ⟨(h b hb).1, fun a ha => by cases ha; exact (h b hb).2⟩

/-- A store call's triple, read off the call's run on the store, for a precondition of the rows:
it then holds of the store with the failures that are due queued. -/
theorem Triple.storeCall {act : StateM MemoryStore (Except StoreError α)}
    {Q : Except SyncError α → Backends → Prop} (hP : RowsOnly P)
    (h : ∀ b, P b → Q ((act.run b.store).1.mapError .recordStore)
      { b with store := (act.run b.store).2 }) :
    Triple P (storeCall act).run Q := fun b hb =>
  have hsame := b.storeBefore_sameRows act
  h { b with store := b.storeBefore act } (hP b _ hsame.rows hsame.created hb)

theorem Triple.directoryCall (hP : RowsOnly P)
    (act : StateM MemoryDirectory (Except DirectoryError α)) :
    Triple P (directoryCall act).run fun _ => P :=
  fun b hb => hP b _ rfl rfl hb

theorem sleep_triple (hP : RowsOnly P) (ms : Nat) : Triple P (Backends.sleep ms) fun _ => P :=
  fun b hb => hP b _ rfl rfl hb

theorem lookupAnswer_find (m : WorksheetMapping) (id : String) (rows : List Row) :
    LookupAnswer m id rows (rows.find? fun r => (Filter.eq m.externalIdField id).matches r.fields) := by
  have hmatch : ∀ r : Row, (Filter.eq m.externalIdField id).matches r.fields =
      (fieldText r.fields m.externalIdField == id) := fun _ => rfl
  cases hfind : rows.find? fun r => (Filter.eq m.externalIdField id).matches r.fields with
  | none =>
    intro row hrow htext
    have hno := List.find?_eq_none.mp hfind row hrow
    rw [hmatch, htext] at hno
    simp at hno
  | some row =>
    have hyes := List.find?_some hfind
    rw [hmatch] at hyes
    exact ⟨List.mem_of_find?_eq_some hfind, by simpa using hyes⟩

theorem lookup_triple (hP : RowsOnly P) (m : WorksheetMapping) (id : String) :
    Triple P (lookup m id).run
      (KeepsThen P fun x b => LookupAnswer m id (b.store.rows m.worksheet) x) := by
  refine Triple.storeCall hP fun b hb => ?_
  obtain ⟨hsame, hfound⟩ := findOne_spec m.worksheet (Filter.eq m.externalIdField id) b.store
  refine ⟨hP b _ hsame.rows hsame.created hb, fun x hx => ?_⟩
  rcases hres : ((findOne m.worksheet (Filter.eq m.externalIdField id)).run b.store).1
    with e | x₀ <;> rw [hres] at hx <;> cases hx
  have hanswer := lookupAnswer_find m id (b.store.rows m.worksheet)
  rw [← hfound x hres, ← hsame.rows] at hanswer
  exact hanswer

theorem lookupForDelete_triple (hP : RowsOnly P) (m : WorksheetMapping) (e : Entity) :
    Triple P (lookupForDelete m e).run (KeepsThen P fun x b =>
      e.externalId ≠ "" ∧ LookupAnswer m e.externalId (b.store.rows m.worksheet) x) := by
  simp only [lookupForDelete]
  split
  · exact Triple.pure fun _ hb => ⟨hb, fun _ h => by cases h⟩
  · rename_i hid
    have hne : e.externalId ≠ "" := by simpa using hid
    exact (lookup_triple hP m e.externalId).mono (fun _ => id)
      fun _ _ h => ⟨h.1, fun x hx => ⟨hne, h.2 x hx⟩⟩

theorem prepareFields_triple (k : Kind) (e : Entity) :
    Triple I (ExceptT.mk (pure (prepareFields (mappingFor k) e)) : SyncRun Fields).run
      (KeepsThen I fun fields _ =>
        e.externalId ≠ "" ∧ TitleHolds (mappingFor k) fields e.externalId) :=
  Triple.pure fun _ hb => ⟨hb, fun _ h => prepareFields_ok h⟩

end Calls

section Writes

/-! Writes to the worksheet of kind `k` keep the store sound and every predicate `Q` of the other
worksheets, given what the lookup before them answered. -/

variable (k : Kind) {id : String} {Q : Backends → Prop}

/-- A write confined to the worksheet of kind `k` that leaves it sound keeps the store sound and
every predicate of the other worksheets. -/
theorem keeps_of_sheet (hQ : OffSheet (mappingFor k).worksheet Q) {b b' : Backends}
    (h : StoreSound b.store ∧ Q b) (hk : SheetSound b'.store (mappingFor k))
    (hother : ∀ w, w ≠ (mappingFor k).worksheet → b'.store.rows w = b.store.rows w)
    (hcreated : b.store.created ≤ b'.store.created) : StoreSound b'.store ∧ Q b' :=
  ⟨h.1.of_sheet hk hother hcreated, hQ b b' hother h.2⟩

theorem updateRow_triple (row : Row) {us : Fields} (hid : id ≠ "")
    (hkeep : ∀ kv ∈ us, kv.1 = (mappingFor k).externalIdField → (valueText? kv.2).getD "" = id)
    (hQ : OffSheet (mappingFor k).worksheet Q) :
    Triple (fun b => (StoreSound b.store ∧ Q b) ∧
        LookupAnswer (mappingFor k) id (b.store.rows (mappingFor k).worksheet) (some row))
      (storeCall (MemoryStore.updateRow (mappingFor k).worksheet row.rowId us)).run
      (KeepsThen (fun b => StoreSound b.store ∧ Q b) fun _ b => holding k id b.store = 1) := by
  refine Triple.storeCall (hQ.rowsOnly_lookup _ id (some row)) fun b ⟨hb, hrow, htext⟩ => ?_
  rcases updateRow_spec (mappingFor k).worksheet row.rowId us b.store with
    ⟨e, herr, hsame⟩ | ⟨i, hi, hok, hcreated, hrows⟩
  · rw [herr]
    exact ⟨hQ.rowsOnly b _ hsame.rows hsame.created hb, fun _ h => nomatch h⟩
  · rw [hok]
    have hsheet : (((MemoryStore.updateRow (mappingFor k).worksheet row.rowId us).run b.store).2.rows
        (mappingFor k).worksheet) = (b.store.rows (mappingFor k).worksheet).modify i
          fun r => { r with fields := r.fields.merge us } := by
      rw [hrows]
      simp
    have hkeep' : ∀ kv ∈ us, kv.1 = (mappingFor k).externalIdField →
        (valueText? kv.2).getD "" = fieldText row.fields (mappingFor k).externalIdField :=
      fun kv hkv htitle => (hkeep kv hkv htitle).trans htext.symm
    have hview := keyView_modify (hb.1 k).ids_nodup hi hrow hkeep'
    refine ⟨keeps_of_sheet k hQ hb ((hb.1 k).update hi hrow hkeep' hsheet hcreated)
      (fun w' hw' => by rw [hrows]; simp [hw']) (Nat.le_of_eq hcreated.symm), fun _ _ => ?_⟩
    show carrying _ ((((MemoryStore.updateRow (mappingFor k).worksheet row.rowId us).run
      b.store).2).rows (mappingFor k).worksheet) id = 1
    rw [hsheet, carrying_of_texts (texts_of_keyView hview), ← htext]
    exact (hb.1 k).keyed.carrying_eq_one hrow (htext ▸ hid)

/-- Creating a row for `id` when no row holds it leaves one row holding `id`: the new row's id is
fresh. -/
theorem createRow_triple {fields : Fields} (htitle : TitleHolds (mappingFor k) fields id)
    (hQ : OffSheet (mappingFor k).worksheet Q) :
    Triple (fun b => (StoreSound b.store ∧ Q b) ∧
        LookupAnswer (mappingFor k) id (b.store.rows (mappingFor k).worksheet) none)
      (storeCall (MemoryStore.createRow (mappingFor k).worksheet fields)).run
      (KeepsThen (fun b => StoreSound b.store ∧ Q b) fun _ b => holding k id b.store = 1) := by
  refine Triple.storeCall (hQ.rowsOnly_lookup _ id none) fun b ⟨hb, hnone⟩ => ?_
  rcases createRow_spec (mappingFor k).worksheet fields b.store with
    ⟨e, herr, hsame⟩ | ⟨hok, hcreated, hrows⟩
  · rw [herr]
    exact ⟨hQ.rowsOnly b _ hsame.rows hsame.created hb, fun _ h => nomatch h⟩
  · rw [hok]
    have hnone' : ∀ row ∈ b.store.rows (mappingFor k).worksheet,
        fieldText row.fields (mappingFor k).externalIdField ≠
          fieldText fields (mappingFor k).externalIdField := htitle.text ▸ hnone
    refine ⟨keeps_of_sheet k hQ hb
      ((hb.1 k).create hnone' (mappingFor_title_ne_rowid k) hrows hcreated)
      (fun w' hw' => by rw [hrows]; simp [MemoryStore.insertRow, hw'])
      (by rw [hcreated]; omega), fun _ _ => ?_⟩
    have hnew : fieldText ((fields.insert "rowid" (.str (createdRowId (b.store.created + 1)))))
        (mappingFor k).externalIdField = id := by
      rw [fieldText_insert_ne _ _ (mappingFor_title_ne_rowid k), htitle.text]
    show carrying _ ((((MemoryStore.createRow (mappingFor k).worksheet fields).run
      b.store).2).rows (mappingFor k).worksheet) id = 1
    rw [hrows, MemoryStore.insertRow, setRows_rows, if_pos rfl, ← hnew]
    exact carrying_append_new (hnew ▸ hnone)

theorem deleteRow_triple (row : Row) (hid : id ≠ "") (hQ : OffSheet (mappingFor k).worksheet Q) :
    Triple (fun b => (StoreSound b.store ∧ Q b) ∧
        LookupAnswer (mappingFor k) id (b.store.rows (mappingFor k).worksheet) (some row))
      (storeCall (MemoryStore.deleteRow (mappingFor k).worksheet row.rowId)).run
      (KeepsThen (fun b => StoreSound b.store ∧ Q b) fun _ b => holding k id b.store = 0) := by
  refine Triple.storeCall (hQ.rowsOnly_lookup _ id (some row)) fun b ⟨hb, hrow, htext⟩ => ?_
  rcases deleteRow_spec (mappingFor k).worksheet row.rowId b.store with
    ⟨e, herr, hsame⟩ | ⟨hok, hcreated, hrows⟩
  · rw [herr]
    exact ⟨hQ.rowsOnly b _ hsame.rows hsame.created hb, fun _ h => nomatch h⟩
  · rw [hok]
    have hsheet : (((MemoryStore.deleteRow (mappingFor k).worksheet row.rowId).run b.store).2.rows
        (mappingFor k).worksheet) =
          (b.store.rows (mappingFor k).worksheet).filter (·.rowId != row.rowId) := by
      rw [hrows]
      simp
    refine ⟨keeps_of_sheet k hQ hb ((hb.1 k).of_sublist (hsheet ▸ List.filter_sublist)
        (Nat.le_of_eq hcreated.symm)) (fun w' hw' => by rw [hrows]; simp [hw'])
        (Nat.le_of_eq hcreated.symm), fun _ _ => ?_⟩
    show carrying _ ((((MemoryStore.deleteRow (mappingFor k).worksheet row.rowId).run
      b.store).2).rows (mappingFor k).worksheet) id = 0
    rw [hsheet, ← htext]
    exact (hb.1 k).keyed.carrying_filter_rowId hrow (htext ▸ hid)

/-- Writing the row a lookup answered, while the answer still holds, leaves one row holding
`id`. -/
theorem writeRow_triple (existing : Option Row) {fields : Fields} (hid : id ≠ "")
    (htitle : TitleHolds (mappingFor k) fields id) (hQ : OffSheet (mappingFor k).worksheet Q) :
    Triple (fun b => (StoreSound b.store ∧ Q b) ∧
        LookupAnswer (mappingFor k) id (b.store.rows (mappingFor k).worksheet) existing)
      (writeRow (mappingFor k) existing fields).run
      (KeepsThen (fun b => StoreSound b.store ∧ Q b) fun _ b => holding k id b.store = 1) := by
  cases existing with
  | some row =>
    exact Triple.keepsBind (updateRow_triple k row hid htitle.only hQ) fun _ =>
      Triple.keepsPure fun _ h => h
  | none =>
    exact Triple.keepsBind (createRow_triple k htitle hQ) fun _ => Triple.keepsPure fun _ h => h

theorem holding_eq_zero {s : MemoryStore}
    (h : LookupAnswer (mappingFor k) id (s.rows (mappingFor k).worksheet) none) :
    holding k id s = 0 :=
  List.countP_eq_zero.mpr fun r hr => by simpa using h r hr

end Writes

section Upserts

variable {Q : Backends → Prop}

/-- A department upsert keeps the store sound and every predicate of the other worksheets, and a
successful one leaves what `Written` says. -/
theorem upsertDepartment_triple (hQ : OffSheet (mappingFor .department).worksheet Q)
    (e : Entity) (a : Action) :
    Triple (fun b => StoreSound b.store ∧ Q b) (upsertDepartment e a).run
      (KeepsThen (fun b => StoreSound b.store ∧ Q b) fun _ b =>
        Written .department e.externalId a b.store) := by
  cases a with
  | create | update =>
    refine Triple.keepsBind (prepareFields_triple .department e) fun fields => ?_
    refine Triple.of_fact fun ⟨hid, htitle⟩ => ?_
    exact Triple.keepsBind (lookup_triple hQ.rowsOnly _ _) fun existing =>
      writeRow_triple .department existing hid htitle hQ
  | delete =>
    refine Triple.keepsBind (lookupForDelete_triple hQ.rowsOnly _ e) fun found => ?_
    refine Triple.of_fact_and fun hid => ?_
    cases found with
    | none => exact Triple.keepsPure fun _ ⟨hb, hnone⟩ => ⟨hb, fun _ => holding_eq_zero _ hnone⟩
    | some row =>
      exact Triple.keepsBind (deleteRow_triple .department row hid hQ) fun _ =>
        Triple.keepsPure fun _ ⟨hb, h0⟩ => ⟨hb, fun _ => h0⟩

theorem resolveOne_triple (hQ : OffSheet (mappingFor .department).worksheet Q)
    (tenant externalId : String) :
    Triple (fun b => StoreSound b.store ∧ Q b) (resolveOne tenant externalId)
      fun _ b => StoreSound b.store ∧ Q b := by
  have hkeep : Triple (fun b => StoreSound b.store ∧ Q b)
      (lookup departmentMapping externalId).run fun _ b => StoreSound b.store ∧ Q b :=
    (lookup_triple hQ.rowsOnly _ _).mono (fun _ => id) fun _ _ h => h.1
  refine Triple.bind hkeep fun found => ?_
  rcases found with _ | _ | _
  · exact Triple.pure fun _ => id
  · refine Triple.bind (Triple.directoryCall hQ.rowsOnly _) fun read => ?_
    rcases read with _ | _ | department
    · exact Triple.pure fun _ => id
    · exact Triple.pure fun _ => id
    · refine Triple.bind ((upsertDepartment_triple hQ department .create).mono (fun _ => id)
        fun _ _ h => h.1) fun created => ?_
      rcases created with _ | _
      · exact Triple.pure fun _ => id
      · refine Triple.bind hkeep fun again => ?_
        rcases again with _ | _ | _ <;> exact Triple.pure fun _ => id
  · exact Triple.pure fun _ => id

theorem resolve_triple (hQ : OffSheet (mappingFor .department).worksheet Q) (tenant : String)
    (ids : List String) :
    Triple (fun b => StoreSound b.store ∧ Q b) (resolve tenant ids)
      fun _ b => StoreSound b.store ∧ Q b := by
  induction ids with
  | nil => exact Triple.pure fun _ => id
  | cons x xs ih =>
    simp only [Sync.resolve, List.filterMapM_cons]
    refine Triple.bind (resolveOne_triple hQ _ _) fun row? => ?_
    cases row? with
    | none => exact ih
    | some row => exact Triple.bind ih fun _ => Triple.pure fun _ => id

theorem upsertStaff_triple (e : Entity) (a : Action) :
    Triple (fun b => StoreSound b.store) (upsertStaff e a).run
      (KeepsThen (fun b => StoreSound b.store) fun _ b => Written .staff e.externalId a b.store) := by
  cases a with
  | create | update =>
    refine Triple.keepsBind (prepareFields_triple .staff e) fun fields => ?_
    refine Triple.of_fact fun ⟨hid, htitle⟩ => ?_
    refine Triple.keepsBind (lookup_triple storeSound_rowsOnly _ _) fun existing => ?_
    -- reference repair writes the department worksheet only, so the lookup's answer still holds
    have hanswer : OffSheet (mappingFor .department).worksheet fun b => LookupAnswer
        (mappingFor .staff) e.externalId (b.store.rows (mappingFor .staff).worksheet) existing :=
      fun _ _ hrows h => by
        dsimp only at h ⊢
        rwa [hrows (mappingFor .staff).worksheet (by decide)]
    refine Triple.keepsBind (Triple.bind (resolve_triple hanswer _ _)
      fun _ => Triple.pure fun _ hb => ⟨hb.1, fun _ _ => hb.2⟩) fun rows => ?_
    have htitle' : TitleHolds (mappingFor .staff) (if rows.isEmpty then fields
        else fields.insert departmentsField (relationValue rows)) e.externalId := by
      split
      · exact htitle
      · exact htitle.insert _ (by decide)
    exact (writeRow_triple .staff existing hid htitle' (offSheet_true _)).mono
      (fun _ ⟨hb, hans⟩ => ⟨⟨hb, trivial⟩, hans⟩) fun _ _ ⟨hb, hw⟩ => ⟨hb.1, hw⟩
  | delete =>
    refine Triple.keepsBind (lookupForDelete_triple storeSound_rowsOnly _ e) fun found => ?_
    refine Triple.of_fact_and fun hid => ?_
    cases found with
    | none => exact Triple.keepsPure fun _ ⟨hb, _⟩ => ⟨hb, fun h => nomatch h⟩
    | some row =>
      have hstatus : ∀ kv ∈ [(statusField, dropdownValue departedKey)],
          kv.1 = (mappingFor .staff).externalIdField → (valueText? kv.2).getD "" = e.externalId :=
        fun kv hkv htitle => absurd (List.mem_singleton.mp hkv ▸ htitle) (by decide)
      exact Triple.keepsBind ((updateRow_triple .staff row hid hstatus (offSheet_true _)).mono
          (fun _ ⟨hb, hrow⟩ => ⟨⟨hb, trivial⟩, hrow⟩) fun _ _ ⟨hb, hw⟩ => ⟨hb.1, hw⟩) fun _ =>
        Triple.keepsPure fun _ ⟨hb, _⟩ => ⟨hb, fun h => nomatch h⟩

theorem upsert_triple (e : Entity) (a : Action) :
    Triple (fun b => StoreSound b.store) (upsert e a).run
      (KeepsThen (fun b => StoreSound b.store) fun _ b => Written e.kind e.externalId a b.store) := by
  cases h : e.kind with
  | department =>
    simp only [Sync.upsert, h]
    exact (upsertDepartment_triple (offSheet_true _) e a).mono (fun _ hb => ⟨hb, trivial⟩)
      fun _ _ h => ⟨h.1.1, h.2⟩
  | staff =>
    simp only [Sync.upsert, h]
    exact upsertStaff_triple e a

/-- Under the retry policy an upsert keeps the store sound, and one that gives an outcome leaves
what `Written` says: a failed attempt keeps the store sound for the next, and sleeping leaves
the store alone. -/
theorem upsertWithRetry_triple (policy : RetryPolicy) (e : Entity) (a : Action) :
    Triple (fun b => StoreSound b.store) (upsertWithRetry policy e a)
      fun r b => StoreSound b.store ∧ ∀ o, r = some o → Written e.kind e.externalId a b.store :=
  Triple.bind (Triple.retryFrom _ _ (upsert_triple e a) (fun _ _ h => h.1)
      (sleep_triple storeSound_rowsOnly) _ _)
    fun r => by
      cases r with
      | ok o => exact Triple.pure fun _ h => ⟨h.1, fun _ _ => h.2 o rfl⟩
      | error _ => exact Triple.pure fun _ h => ⟨h.1, fun _ h => nomatch h⟩

end Upserts

section Sequences

/-- One call of a sequence run one after another: an upsert, an upsert under the retry policy,
failures queued on the record store, or a change of anything the record store does not hold
(the failures waiting for its calls, the directory and the failures it will report, the clock,
the cursors and locks). -/
inductive UpsertStep : Backends → Backends → Prop
  | write (e : Entity) (a : Action) (b : Backends) : UpsertStep b ((upsert e a).run.run b).2
  | writeRetried (policy : RetryPolicy) (e : Entity) (a : Action) (b : Backends) :
      UpsertStep b ((upsertWithRetry policy e a).run b).2
  | failStore (op : Operation) (err : StoreError) (times : Nat) (b : Backends) :
      UpsertStep b { b with store := b.store.failNext op err times }
  | world (b b' : Backends) : b'.store = b.store → UpsertStep b b'

theorem UpsertStep.sound {b b' : Backends} (h : UpsertStep b b') (hs : StoreSound b.store) :
    StoreSound b'.store := by
  cases h with
  | write e a => exact (upsert_triple e a b hs).1
  | writeRetried policy e a => exact (upsertWithRetry_triple policy e a b hs).1
  | failStore op err times => exact hs.of_sameRows (failNext_sameRows b.store op err times)
  | world _ _ hstore => exact hstore ▸ hs

theorem StoreSound.of_steps {b₀ b : Backends} (hsound : StoreSound b₀.store)
    (hrun : Relation.ReflTransGen UpsertStep b₀ b) : StoreSound b.store := by
  induction hrun with
  | refl => exact hsound
  | tail _ hstep ih => exact hstep.sound ih

theorem storeSound_empty : StoreSound ({} : MemoryStore) :=
  fun _ => ⟨List.nodup_nil, fun _ h => (nomatch h), List.Pairwise.nil⟩

/-- From a sound store, every sequence of calls keeps the store sound, and an upsert that
succeeds after it leaves one row holding its entity's external id after a creation or an update,
and none after a department deletion. -/
theorem upserts_keep_one_row_per_id {b₀ b : Backends} (hsound : StoreSound b₀.store)
    (hrun : Relation.ReflTransGen UpsertStep b₀ b) :
    StoreSound b.store ∧
      (∀ e a o b', (upsert e a).run.run b = (.ok o, b') → Written e.kind e.externalId a b'.store) ∧
      (∀ policy e a o b', (upsertWithRetry policy e a).run b = (some o, b') →
        Written e.kind e.externalId a b'.store) := by
  have hb := hsound.of_steps hrun
  refine ⟨hb, fun e a o b' hcall => ?_, fun policy e a o b' hcall => ?_⟩
  · have hwritten := (upsert_triple e a b hb).2 o
    rw [hcall] at hwritten
    exact hwritten rfl
  · have hwritten := (upsertWithRetry_triple policy e a b hb).2 o
    rw [hcall] at hwritten
    exact hwritten rfl

theorem upserts_from_empty_store :
    StoreSound ({} : Backends).store ∧
      Relation.ReflTransGen UpsertStep {} ((upsert (.new .department "corp" "d1" 0) .create).run.run {}).2 ∧
      StoreSound ((upsert (.new .department "corp" "d1" 0) .create).run.run {}).2.store :=
  ⟨storeSound_empty, .single (.write _ _ _),
    (upserts_keep_one_row_per_id storeSound_empty (.single (.write _ _ _))).1⟩

/-- Without distinct row ids the external ids alone are not kept apart: with two department rows
under one row id, updating the entity of the second writes its id into the first as well. -/
theorem twin_row_ids_duplicate_external_id :
    ∃ b : Backends,
      (∀ k, Keyed (mappingFor k).externalIdField (b.store.rows (mappingFor k).worksheet)) ∧
      (∃ o, ((upsert (.new .department "corp" "b" 0) .update).run.run b).1 = .ok o) ∧
      holding .department "b" ((upsert (.new .department "corp" "b" 0) .update).run.run b).2.store = 2 := by
  refine ⟨{ store := { rows := fun w => if w = .department then
      [{ rowId := "r1", worksheet := .department,
         fields := [("69660ddb84223902b9ec7a72", .str "a"), ("rowid", .str "r1")] },
       { rowId := "r1", worksheet := .department,
         fields := [("69660ddb84223902b9ec7a72", .str "b"), ("rowid", .str "r1")] }] else [] } },
    ?_, ⟨_, rfl⟩, by decide⟩
  intro k
  cases k <;> decide

end Sequences

end RosterSync.Sync

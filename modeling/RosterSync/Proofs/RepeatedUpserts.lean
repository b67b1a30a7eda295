import RosterSync.Proofs.UpsertEffects

/-!
Repeating an upsert.

Merging fields is idempotent: setting a key twice to one value, or two different keys in either
order, gives the same fields, so merging the same updates again changes nothing
(`Fields.merge_merge_self`), whatever order the fields were in.

A creation or update of an entity leaves its row holding the fields it wrote (`Settled`), and
for a staff member the department links resolved, every department the directory knows among
them. From such a state, with no failure waiting, a creation or update of the same entity finds
that row, resolves the same links with no repair, merges the same fields again, and changes no
row. A deletion repeated finds nothing to delete, or marks departed a row that already is; with
two department rows of one id, the second deletion removes the other.
-/

namespace RosterSync.Record.Fields

open RosterSync.Json

section Insert

variable {k k' : String} (rest : Fields) (v v' : Value)

theorem insert_nil (k : String) : Fields.insert [] k v = [(k, v)] := rfl

theorem insert_cons_of_eq (k : String) : Fields.insert ((k, v') :: rest) k v = (k, v) :: rest := by
  simp [Fields.insert, Value.insertSorted]

theorem insert_cons_of_lt (h : k < k') :
    Fields.insert ((k', v') :: rest) k v = (k, v) :: (k', v') :: rest := by
  rw [Fields.insert, Value.insertSorted, if_neg (ne_of_lt h), if_pos h]

theorem insert_cons_of_gt (h : k' < k) :
    Fields.insert ((k', v') :: rest) k v = (k', v') :: Fields.insert rest k v := by
  rw [Fields.insert, Value.insertSorted, if_neg (ne_of_gt h), if_neg (not_lt_of_gt h)]
  rfl

end Insert

theorem insert_insert_self (fs : Fields) (k : String) (v : Value) :
    (fs.insert k v).insert k v = fs.insert k v := by
  induction fs with
  | nil => rw [insert_nil, insert_cons_of_eq]
  | cons kv rest ih =>
    obtain ⟨k', v'⟩ := kv
    rcases lt_trichotomy k k' with h | rfl | h
    · rw [insert_cons_of_lt _ _ _ h, insert_cons_of_eq]
    · rw [insert_cons_of_eq, insert_cons_of_eq]
    · rw [insert_cons_of_gt _ _ _ h, insert_cons_of_gt _ _ _ h, ih]

theorem insert_comm (fs : Fields) {k₁ k₂ : String} (h : k₁ ≠ k₂) (v₁ v₂ : Value) :
    (fs.insert k₂ v₂).insert k₁ v₁ = (fs.insert k₁ v₁).insert k₂ v₂ := by
  wlog hlt : k₁ < k₂ generalizing k₁ k₂ v₁ v₂
  · exact (this (Ne.symm h) v₂ v₁ ((lt_or_gt_of_ne h).resolve_left hlt)).symm
  -- the first key below both, the key of each, or between or above them: four places
  induction fs with
  | nil => simp only [insert_nil, insert_cons_of_lt _ _ _ hlt, insert_cons_of_gt _ _ _ hlt]
  | cons kv rest ih =>
    obtain ⟨k, v⟩ := kv
    rcases lt_trichotomy k k₁ with hk | rfl | hk
    · simp only [insert_cons_of_gt _ _ _ hk, insert_cons_of_gt _ _ _ (hk.trans hlt), ih]
    · simp only [insert_cons_of_gt _ _ _ hlt, insert_cons_of_eq]
    · rcases lt_trichotomy k k₂ with hk₂ | rfl | hk₂
      · simp only [insert_cons_of_gt _ _ _ hk₂, insert_cons_of_lt _ _ _ hk,
          insert_cons_of_gt _ _ _ hlt]
      · simp only [insert_cons_of_eq, insert_cons_of_lt _ _ _ hlt, insert_cons_of_gt _ _ _ hlt]
      · simp only [insert_cons_of_lt _ _ _ hk₂, insert_cons_of_lt _ _ _ hlt,
          insert_cons_of_lt _ _ _ (hlt.trans hk₂), insert_cons_of_gt _ _ _ hlt]

theorem insert_merge_comm (fs us : Fields) {k : String} (h : ∀ kv ∈ us, kv.1 ≠ k) (v : Value) :
    (fs.merge us).insert k v = (fs.insert k v).merge us := by
  induction us generalizing fs with
  | nil => rfl
  | cons kv us ih =>
    show ((fs.insert kv.1 kv.2).merge us).insert k v = ((fs.insert k v).insert kv.1 kv.2).merge us
    rw [ih _ fun kv' hkv' => h kv' (List.mem_cons_of_mem _ hkv'),
      insert_comm _ (Ne.symm (h kv List.mem_cons_self))]

theorem merge_merge_self (fs : Fields) {us : Fields} (hus : (us.map (·.1)).Nodup) :
    (fs.merge us).merge us = fs.merge us := by
  induction us generalizing fs with
  | nil => rfl
  | cons kv us ih =>
    obtain ⟨hfresh, hnodup⟩ := List.nodup_cons.mp hus
    have hne : ∀ kv' ∈ us, kv'.1 ≠ kv.1 := fun kv' hkv' heq =>
      hfresh (List.mem_map.mpr ⟨kv', hkv', heq⟩)
    show (((fs.insert kv.1 kv.2).merge us).insert kv.1 kv.2).merge us = (fs.insert kv.1 kv.2).merge us
    rw [insert_merge_comm _ _ hne, insert_insert_self, ih _ hnodup]

theorem merge_eq_self {fs us : Fields} (h : ∀ kv ∈ us, fs.insert kv.1 kv.2 = fs) :
    fs.merge us = fs := by
  induction us with
  | nil => rfl
  | cons kv us ih =>
    show (fs.insert kv.1 kv.2).merge us = fs
    rw [h kv List.mem_cons_self, ih fun kv' hkv' => h kv' (List.mem_cons_of_mem _ hkv')]

theorem Sorted.insert_mem {fs : Fields} (h : fs.Sorted) {kv : String × Value} (hkv : kv ∈ fs) :
    fs.insert kv.1 kv.2 = fs := by
  induction fs with
  | nil => cases hkv
  | cons kv' rest ih =>
    obtain ⟨hhead, hrest⟩ := List.pairwise_cons.mp h
    rcases List.mem_cons.mp hkv with rfl | hkv
    · exact insert_cons_of_eq _ _ _ _
    · have hlt : kv'.1 < kv.1 := hhead _ (List.mem_map_of_mem hkv)
      rw [show kv' = (kv'.1, kv'.2) from rfl, insert_cons_of_gt _ _ _ hlt, ih hrest hkv]

end RosterSync.Record.Fields

namespace RosterSync.Sync

open RosterSync.Json RosterSync.Record RosterSync.Directory RosterSync.Mapping
open RosterSync.Record.MemoryStore

/-- A row with `F` merged into its fields, as an update of it writes them. -/
def mergeFields (F : Fields) (x : Row) : Row := { x with fields := x.fields.merge F }

/-- The first row of id `r` among `rows` already holds `F`: merging `F` into it, as an update of
`r` does, changes nothing. -/
def Held (rows : List Row) (r : String) (F : Fields) : Prop :=
  ∀ i, rows.findIdx? (·.rowId == r) = some i → rows.modify i (mergeFields F) = rows

section Lists

variable {rows : List Row} {g : Row → Row} {i : Nat}

theorem findIdx?_modify_rowId (hg : ∀ x, (g x).rowId = x.rowId) (r : String) :
    (rows.modify i g).findIdx? (·.rowId == r) = rows.findIdx? (·.rowId == r) := by
  induction rows generalizing i with
  | nil => simp
  | cons x xs ih =>
    cases i with
    | zero => simp [List.findIdx?_cons, hg]
    | succ i => simp [List.findIdx?_cons, ih]

/-- Changing the first row of the id `r` of the row a search finds, without changing ids and
without making a found row unfound, leaves a search that finds a row of id `r`. -/
theorem find?_modify_rowId {p : Row → Bool} {row : Row} {r : String}
    (hi : rows.findIdx? (·.rowId == r) = some i) (hfind : rows.find? p = some row)
    (hr : row.rowId = r) (hg : ∀ x, (g x).rowId = x.rowId)
    (hp : ∀ x, p (g x) = true ∨ p (g x) = p x) :
    ((rows.modify i g).find? p).map (·.rowId) = some r := by
  induction rows generalizing i with
  | nil => cases hi
  | cons x xs ih =>
    by_cases hx : x.rowId = r
    · -- the first row of id `r` is the head: the change is there
      have hi0 : i = 0 := by simpa [List.findIdx?_cons, hx] using hi.symm
      subst hi0
      rw [List.modify_zero_cons, List.find?_cons]
      rcases hp x with hgx | hgx
      · simp [hgx, hg, hx]
      · rw [hgx]
        cases hpx : p x
        · rw [List.find?_cons, hpx] at hfind
          simp [hfind, hr]
        · simp [hg, hx]
    · -- the head is not of id `r`, so the search did not stop at it
      obtain ⟨j, hj, rfl⟩ : ∃ j, xs.findIdx? (·.rowId == r) = some j ∧ j + 1 = i := by
        simp only [List.findIdx?_cons, beq_iff_eq, hx, if_false, Option.map_eq_some_iff] at hi
        exact hi
      have hpx : p x = false := by
        cases hpx : p x
        · rfl
        · rw [List.find?_cons, hpx] at hfind
          exact absurd (Option.some.inj hfind ▸ hr) hx
      rw [List.find?_cons, hpx] at hfind
      rw [List.modify_succ_cons, List.find?_cons, hpx]
      exact ih hj hfind

theorem held_modify {F : Fields} (hF : ∀ fs : Fields, (fs.merge F).merge F = fs.merge F)
    {r : String} (hi : rows.findIdx? (·.rowId == r) = some i) :
    Held (rows.modify i (mergeFields F)) r F := by
  intro j hj
  rw [findIdx?_modify_rowId (g := mergeFields F) (fun _ => rfl), hi] at hj
  obtain rfl := Option.some.inj hj
  rw [List.modify_modify_eq]
  congr 1
  funext x
  simp only [Function.comp, mergeFields, hF]

/-- A row appended under an id no other row has is the first of its id, and holds what merging
into it leaves as it is. -/
theorem held_append {x : Row} {F : Fields} (hfresh : ∀ y ∈ rows, y.rowId ≠ x.rowId)
    (hx : x.fields.merge F = x.fields) : Held (rows ++ [x]) x.rowId F := by
  intro j hj
  have hnone : rows.findIdx? (·.rowId == x.rowId) = none := by
    simpa [List.findIdx?_eq_none_iff] using hfresh
  rw [List.findIdx?_append, hnone] at hj
  simp only [List.findIdx?_cons, beq_self_eq_true, if_true, Option.none_or, Option.map_some,
    Option.some.injEq] at hj
  subst hj
  rw [List.modify_eq_take_cons_drop (by simp)]
  simp [mergeFields, hx]

end Lists

section QuietCalls

variable {b : Backends} (hq : Quiet b.store) (hw : b.waiting = []) (w : Worksheet)
include hq hw

/-- With no failure waiting, an update of a row id the worksheet has merges the fields into the
first row of that id. -/
theorem updateRow_quiet_run {r : String} (hrow : ∃ x ∈ b.store.rows w, x.rowId = r) (F : Fields) :
    ∃ i s', (b.store.rows w).findIdx? (·.rowId == r) = some i ∧
      (storeCall (updateRow w r F)).run.run b = (.ok (), { b with store := s' }) ∧ Quiet s' ∧
      s'.created = b.store.created ∧
      s'.rows = (b.store.setRows w ((b.store.rows w).modify i (mergeFields F))).rows := by
  obtain ⟨hok, hq'⟩ := updateRow_quiet hq w hrow F
  rcases updateRow_spec w r F b.store with ⟨e, herr, -⟩ | ⟨i, hi, -, hcreated, hrows⟩
  · rw [hok] at herr
    cases herr
  · refine ⟨i, _, hi, ?_, hq', hcreated, hrows⟩
    rw [storeCall_run_of_waiting_nil hw, hok]
    rfl

/-- With no failure waiting, an update of a row whose first row of its id already holds the
fields changes no row. -/
theorem updateRow_of_held {row : Row} (hrow : row ∈ b.store.rows w) {F : Fields}
    (hheld : Held (b.store.rows w) row.rowId F) :
    ∃ s', (storeCall (updateRow w row.rowId F)).run.run b = (.ok (), { b with store := s' }) ∧
      Quiet s' ∧ s'.rows = b.store.rows := by
  obtain ⟨i, s', hi, hrun, hq', -, hrows⟩ := updateRow_quiet_run hq hw w ⟨row, hrow, rfl⟩ F
  refine ⟨s', hrun, hq', ?_⟩
  rw [hrows, hheld i hi]
  funext w'
  by_cases hw : w' = w
  · subst hw
    simp
  · simp [hw]

theorem createRow_quiet_run (F : Fields) :
    ∃ s', (storeCall (createRow w F)).run.run b =
        (.ok (createdRowId (b.store.created + 1)), { b with store := s' }) ∧ Quiet s' ∧
      s'.created = b.store.created + 1 ∧
      s'.rows = (b.store.insertRow w (createdRowId (b.store.created + 1)) F).rows := by
  obtain ⟨⟨v, hv⟩, hq'⟩ := createRow_quiet hq w F
  rcases createRow_spec w F b.store with ⟨e, herr, -⟩ | ⟨hok, hcreated, hrows⟩
  · rw [hv] at herr
    cases herr
  · refine ⟨_, ?_, hq', hcreated, hrows⟩
    rw [storeCall_run_of_waiting_nil hw, hok]
    rfl

theorem deleteRow_quiet_run {r : String} (hrow : ∃ x ∈ b.store.rows w, x.rowId = r) :
    ∃ s', (storeCall (deleteRow w r)).run.run b = (.ok (), { b with store := s' }) ∧ Quiet s' ∧
      s'.rows = (b.store.setRows w ((b.store.rows w).filter (·.rowId != r))).rows := by
  obtain ⟨hok, hq'⟩ := MemoryStore.deleteRow_quiet hq w hrow
  rcases deleteRow_spec w r b.store with ⟨e, herr, -⟩ | ⟨-, -, hrows⟩
  · rw [hok] at herr
    cases herr
  · refine ⟨_, ?_, hq', hrows⟩
    rw [storeCall_run_of_waiting_nil hw, hok]
    rfl

end QuietCalls

section Created

/-- The store's count of created rows has not dropped from `b` to `b'`. -/
def CreatedGrows (b b' : Backends) : Prop := b.store.created ≤ b'.store.created

instance : Std.Refl CreatedGrows := ⟨fun _ => Nat.le_refl _⟩

instance : IsTrans Backends CreatedGrows := ⟨fun _ _ _ h₁ h₂ => Nat.le_trans h₁ h₂⟩

variable {α : Type}

theorem storeCall_created_grows {act : StateM MemoryStore (Except StoreError α)}
    (h : ∀ s, s.created ≤ (act.run s).2.created) : Stable CreatedGrows (storeCall act).run :=
  fun b => by
    show b.store.created ≤ ((storeCall act).run.run b).2.store.created
    rw [storeCall_run, ← (b.storeBefore_sameRows act).created]
    exact h _

theorem lookup_created_grows (m : WorksheetMapping) (id : String) : Stable CreatedGrows (lookup m id).run :=
  storeCall_created_grows fun s => Nat.le_of_eq (findOne_spec _ _ s).1.created.symm

theorem writeRow_created_grows (m : WorksheetMapping) (existing : Option Row) (F : Fields) :
    Stable CreatedGrows (writeRow m existing F).run := by
  cases existing with
  | some row =>
    refine Stable.exceptBind (storeCall_created_grows fun s => ?_) fun _ => Stable.pure _
    rcases updateRow_spec m.worksheet row.rowId F s with ⟨_, _, hsame⟩ | ⟨_, _, _, hcreated, _⟩
    · exact Nat.le_of_eq hsame.created.symm
    · exact Nat.le_of_eq hcreated.symm
  | none =>
    refine Stable.exceptBind (storeCall_created_grows fun s => ?_) fun _ => Stable.pure _
    rcases createRow_spec m.worksheet F s with ⟨_, _, hsame⟩ | ⟨_, hcreated, _⟩
    · exact Nat.le_of_eq hsame.created.symm
    · rw [hcreated]
      exact Nat.le_succ _

theorem resolve_created_grows (tenant : String) (ids : List String) :
    Stable CreatedGrows (resolve tenant ids) := by
  have hone : ∀ d, Stable CreatedGrows (resolveOne tenant d) := fun d => by
    refine Stable.bind (lookup_created_grows _ _) fun found => ?_
    rcases found with _ | _ | _
    · exact Stable.pure _
    · refine Stable.bind (fun _ => Nat.le_refl _) fun read => ?_
      rcases read with _ | _ | department
      · exact Stable.pure _
      · exact Stable.pure _
      · refine Stable.bind (Stable.exceptBind (fun _ => Nat.le_refl _) fun _ =>
          Stable.exceptBind (lookup_created_grows _ _) fun _ => writeRow_created_grows _ _ _)
          fun created => ?_
        rcases created with _ | _
        · exact Stable.pure _
        · refine Stable.bind (lookup_created_grows _ _) fun again => ?_
          rcases again with _ | _ | _ <;> exact Stable.pure _
    · exact Stable.pure _
  induction ids with
  | nil => exact Stable.pure _
  | cons id ids ih =>
    simp only [Sync.resolve, List.filterMapM_cons]
    refine Stable.bind (hone id) fun row? => ?_
    cases row? with
    | none => exact ih
    | some row => exact Stable.bind ih fun _ => Stable.pure _

end Created

section Writes

variable {m : WorksheetMapping} {id : String} {F : Fields} {b : Backends}

/-- Fields holding the text `id` in a field leave, merged into any fields, that text or the one
already there. -/
theorem fieldText_merge_title (hsorted : F.Sorted) {name : String} (htext : fieldText F name = id)
    (fs : Fields) :
    fieldText (fs.merge F) name = id ∨ fieldText (fs.merge F) name = fieldText fs name := by
  simp only [fieldText, Fields.get?_merge fs hsorted.nodup name] at htext ⊢
  cases hget : F.get? name with
  | none => exact .inr rfl
  | some v =>
    rw [hget] at htext
    exact .inl htext

theorem merge_created (hsorted : F.Sorted) (hrowid : ∀ kv ∈ F, kv.1 ≠ "rowid") (v : Value) :
    (F.insert "rowid" v).merge F = F.insert "rowid" v :=
  Fields.merge_eq_self fun kv hkv => by
    rw [Fields.insert_comm _ (hrowid kv hkv), hsorted.insert_mem hkv]

/-- With no failure waiting, a write after a lookup of `id`, of fields holding the title `id`,
answers a row id `r`; after it the row of `id` has id `r` and the first row of id `r` holds the
fields. A created row takes the next created id, which no row may have. -/
theorem writeRow_settles (hq : Quiet b.store) (hw : b.waiting = []) (htitle : TitleHolds m F id) (hsorted : F.Sorted)
    (hrowid : ∀ kv ∈ F, kv.1 ≠ "rowid") (hm : m.externalIdField ≠ "rowid")
    (hfresh : ∀ x ∈ b.store.rows m.worksheet, x.rowId ≠ createdRowId (b.store.created + 1)) :
    ∃ o s', (writeRow m (rowOf b.store m id) F).run.run b = (.ok o, { b with store := s' }) ∧
      Quiet s' ∧ (∀ w, w ≠ m.worksheet → s'.rows w = b.store.rows w) ∧
      ∃ r, o.rowId? = some r ∧ (rowOf s' m id).map (·.rowId) = some r ∧
        Held (s'.rows m.worksheet) r F := by
  cases hfound : rowOf b.store m id with
  | none =>
    obtain ⟨s', hrun, hq', -, hrows⟩ := createRow_quiet_run hq hw m.worksheet F
    let new : Row :=
      { rowId := createdRowId (b.store.created + 1), worksheet := m.worksheet,
        fields := F.insert "rowid" (.str (createdRowId (b.store.created + 1))) }
    have hsheet : s'.rows m.worksheet = b.store.rows m.worksheet ++ [new] := by
      rw [hrows]
      simp [insertRow, new]
    have hrow : rowOf s' m id = some new := by
      have hnone := rowOf_eq_none_iff.mp hfound
      have hholds : fieldText new.fields m.externalIdField = id :=
        (fieldText_insert_ne F _ hm).trans htitle.text
      have hfront : (b.store.rows m.worksheet).find?
          (fun r => (Filter.eq m.externalIdField id).matches r.fields) = none := hfound
      rw [rowOf, hsheet, List.find?_append, hfront]
      simp [matches_eq, hholds]
    refine ⟨.created new.rowId, s', ?_, hq', fun w hw => by rw [hrows]; simp [insertRow, hw],
      new.rowId, rfl, by rw [hrow]; rfl, ?_⟩
    · simp only [writeRow]
      rw [run_ok_bind hrun]
      rfl
    · rw [hsheet]
      exact held_append hfresh (merge_created hsorted hrowid _)
  | some row =>
    have hmem : row ∈ b.store.rows m.worksheet := List.mem_of_find?_eq_some hfound
    obtain ⟨i, s', hi, hrun, hq', -, hrows⟩ := updateRow_quiet_run hq hw m.worksheet ⟨row, hmem, rfl⟩ F
    have hsheet : s'.rows m.worksheet = (b.store.rows m.worksheet).modify i (mergeFields F) := by
      rw [hrows]
      simp
    refine ⟨.updated row.rowId, s', ?_, hq', fun w hw => by rw [hrows]; simp [hw], row.rowId, rfl,
      ?_, ?_⟩
    · simp only [writeRow]
      rw [run_ok_bind hrun]
      rfl
    · -- the merged row holds the title `id`, or what it held, so the lookup finds a row of the id
      rw [rowOf, hsheet]
      refine find?_modify_rowId hi hfound rfl (fun _ => rfl) fun x => ?_
      simp only [mergeFields, matches_eq]
      rcases fieldText_merge_title hsorted htitle.text x.fields with h | h <;> simp [h]
    · rw [hsheet]
      exact held_modify (fun fs => Fields.merge_merge_self fs hsorted.nodup) hi

/-- With no failure waiting, a write into a row whose first row of its id holds the fields
answers that row, updated, and changes no row. -/
theorem writeRow_of_held (hq : Quiet b.store) (hw : b.waiting = []) {row : Row} (hrow : row ∈ b.store.rows m.worksheet)
    (hheld : Held (b.store.rows m.worksheet) row.rowId F) :
    ∃ s', (writeRow m (some row) F).run.run b = (.ok (.updated row.rowId), { b with store := s' }) ∧
      Quiet s' ∧ s'.rows = b.store.rows := by
  obtain ⟨s', hrun, hq', hrows⟩ := updateRow_of_held hq hw m.worksheet hrow hheld
  refine ⟨s', ?_, hq', hrows⟩
  simp only [writeRow]
  rw [run_ok_bind hrun]
  rfl

end Writes

/-- No row of the worksheet `w` has an id the store creates after `s`, as no stored row has a
random id not yet drawn. -/
def FreshIds (s : MemoryStore) (w : Worksheet) : Prop :=
  ∀ x ∈ s.rows w, ∀ n, x.rowId = createdRowId n → n ≤ s.created

theorem FreshIds.ne_next {s : MemoryStore} {w : Worksheet} (h : FreshIds s w) {c : Nat}
    (hc : s.created ≤ c) : ∀ x ∈ s.rows w, x.rowId ≠ createdRowId (c + 1) :=
  fun x hx heq => absurd (h x hx _ heq) (by omega)

/-- A state in which an upsert of `e` has settled it with the department links `links`, on the
row id `r`: no failure waits, the row of its external id has id `r`, the first row of id `r`
already holds the fields a creation or update writes, and for a staff member the links are the
rows of its department ids, every one the directory knows among them. -/
structure Settled (e : Entity) (links : List String) (b : Backends) (r : String) : Prop where
  quiet : NoFailures b
  found : (rowOf b.store (mappingFor e.kind) e.externalId).map (·.rowId) = some r
  held : Held (b.store.rows (mappingFor e.kind).worksheet) r (writtenFields e links)
  links : e.kind = .staff → LinksResolved (b.directory.entities e.tenantId .department)
    e.departmentIds (b.store.rows .department) links

section Settling

variable {e : Entity} {b : Backends}

/-- A department creation or update of an entity with an external id, once its lookup answered,
writes the built fields. -/
theorem upsertDepartment_write_run {a : Action} (ha : a ≠ .delete) (hid : e.externalId ≠ "")
    {b₁ : Backends} {existing : Option Row}
    (hlook : (lookup departmentMapping e.externalId).run.run b = (.ok existing, b₁)) :
    (upsertDepartment e a).run.run b =
      (writeRow departmentMapping existing (departmentMapping.buildFields e)).run.run b₁ := by
  have hprep : prepareFields departmentMapping e = .ok (departmentMapping.buildFields e) :=
    prepareFields_of_id .department hid
  have hsame : upsertDepartment e a = upsertDepartment e .update := by
    cases a <;> first | rfl | exact absurd rfl ha
  rw [hsame]
  simp only [upsertDepartment]
  rw [run_ok_bind (by simp [upsertDepartment.liftExcept, hprep]; rfl), run_ok_bind hlook]

/-- With no failure waiting and no stored row of an id the store creates later, a creation or
update of an entity with an external id goes through and settles it on the row id it answers. -/
theorem upsert_settles (hid : e.externalId ≠ "") {a : Action} (ha : a ≠ .delete)
    (hq : NoFailures b) (hfresh : FreshIds b.store (mappingFor e.kind).worksheet) :
    ∃ o r, ((upsert e a).run.run b).1 = .ok o ∧ o.rowId? = some r ∧
      Settled e (resolvedLinks e b) ((upsert e a).run.run b).2 r := by
  have htitle := writtenFields_title hid (resolvedLinks e b)
  have hsorted := writtenFields_sorted e (resolvedLinks e b)
  have hrowid := writtenFields_ne_rowid e (resolvedLinks e b)
  cases hk : e.kind with
  | department =>
    rw [hk, writtenFields_of_department hk] at htitle
    rw [writtenFields_of_department hk] at hsorted hrowid
    rw [hk] at hfresh
    obtain ⟨s₁, hlook, hsame₁, hq₁⟩ := lookup_quiet hq.store hq.waiting departmentMapping
        e.externalId
    have hfresh₁ : ∀ x ∈ s₁.rows (mappingFor .department).worksheet,
        x.rowId ≠ createdRowId (s₁.created + 1) := by
      rw [hsame₁.rows, hsame₁.created]
      exact hfresh.ne_next le_rfl
    obtain ⟨o, s', hwrite, hq', -, r, hr, hfound, hheld⟩ := writeRow_settles
      (b := { b with store := s₁ }) hq₁ hq.waiting htitle hsorted hrowid (mappingFor_title_ne_rowid _) hfresh₁
    have hrun : (upsert e a).run.run b = (.ok o, { b with store := s' }) := by
      simp only [upsert, hk]
      rw [upsertDepartment_write_run ha hid hlook,
        ← rowOf_of_rows (m := departmentMapping) (congrFun hsame₁.rows _)]
      exact hwrite
    rw [hrun]
    refine ⟨o, r, rfl, hr, ⟨hq', hq.waiting, hq.directory⟩, ?_, ?_, fun h => absurd (hk.symm.trans h) (by decide)⟩
    · rw [hk]
      exact hfound
    · rw [hk, writtenFields_of_department hk]
      exact hheld
  | staff =>
    rw [hk, writtenFields_of_staff hk] at htitle
    rw [writtenFields_of_staff hk] at hsorted hrowid
    rw [hk] at hfresh
    obtain ⟨s₁, hlook, hsame₁, hq₁⟩ := lookup_quiet hq.store hq.waiting staffMapping e.externalId
    let b₁ : Backends := { b with store := s₁ }
    have hlinks : resolvedLinks e b = ((resolve e.tenantId e.departmentIds).run b₁).1 := by
      simp only [resolvedLinks, hlook]
      rfl
    obtain ⟨hent, -, hothers₂, -, hquiet₂⟩ := resolve_spec e.tenantId e.departmentIds b₁
    obtain ⟨hq₂, hlinked, hfound₂⟩ := hquiet₂ ⟨hq₁, hq.waiting, hq.directory⟩
    let b₂ := ((resolve e.tenantId e.departmentIds).run b₁).2
    have hstaff₂ : b₂.store.rows .staff = b.store.rows .staff :=
      (hothers₂ .staff (by decide)).trans (congrFun hsame₁.rows _)
    have hgrow : b.store.created ≤ b₂.store.created :=
      hsame₁.created ▸ resolve_created_grows e.tenantId e.departmentIds b₁
    have hfresh₂ : ∀ x ∈ b₂.store.rows (mappingFor .staff).worksheet,
        x.rowId ≠ createdRowId (b₂.store.created + 1) := by
      show ∀ x ∈ b₂.store.rows .staff, _
      rw [hstaff₂]
      exact hfresh.ne_next hgrow
    obtain ⟨o, s₃, hwrite, hq₃, hothers₃, r, hr, hfound, hheld⟩ := writeRow_settles (b := b₂)
      hq₂.store hq₂.waiting htitle hsorted hrowid (mappingFor_title_ne_rowid _) hfresh₂
    have hrun : (upsert e a).run.run b = (.ok o, { b₂ with store := s₃ }) := by
      simp only [upsert, hk]
      rw [upsertStaff_write_run e b ha hid hlook, ← hlinks,
        ← rowOf_of_rows (m := staffMapping) hstaff₂]
      exact hwrite
    have hdep₃ : s₃.rows .department = b₂.store.rows .department := hothers₃ _ (by decide)
    rw [hrun]
    refine ⟨o, r, rfl, hr, ⟨hq₃, hq₂.waiting, hq₂.directory⟩, ?_, ?_, fun _ => ⟨?_, fun d hd hne hknown => ?_⟩⟩
    · rw [hk]
      exact hfound
    · rw [hk, writtenFields_of_staff hk]
      exact hheld
    · rw [hdep₃, hlinks]
      exact hlinked
    · rw [hdep₃, hfound₂ d hd]
      exact .inr ⟨hne, hent ▸ hknown⟩

theorem Repaired.eq_of_known {deps : List Entity} {ds : List String} {old new : List Row}
    (h : Repaired deps ds old new)
    (hknown : ∀ d ∈ ds, d ≠ "" → (departmentOf deps d).isSome → (linkOf old d).isSome) :
    new = old := by
  obtain ⟨added, rfl, -, hadded⟩ := h
  cases added with
  | nil => simp
  | cons r added =>
    obtain ⟨hrepair, hmem, hfresh⟩ := hadded r List.mem_cons_self
    obtain ⟨hne, hdep⟩ := hrepair.resolvable
    have hnone : linkOf old (deptTitle r) = none := linkOf_eq_none_iff.mpr fun x hx => hfresh x hx
    simpa [hnone] using hknown _ hmem hne hdep

/-- From a settled state, a creation or update of the same entity answers the settled row id,
updated, and changes no row: a staff member's links resolve again to the same rows, with no
repair. -/
theorem upsert_of_settled {links : List String} {r : String} (h : Settled e links b r)
    (hid : e.externalId ≠ "") {a : Action} (ha : a ≠ .delete) :
    ((upsert e a).run.run b).1 = .ok (.updated r) ∧
      ((upsert e a).run.run b).2.store.rows = b.store.rows := by
  have hfound := h.found
  have hheld := h.held
  cases hk : e.kind with
  | department =>
    rw [hk] at hfound hheld
    rw [writtenFields_of_department hk] at hheld
    obtain ⟨row, hrow, rfl⟩ := Option.map_eq_some_iff.mp hfound
    obtain ⟨s₁, hlook, hsame₁, hq₁⟩ := lookup_quiet h.quiet.store h.quiet.waiting departmentMapping
      e.externalId
    have hmem : row ∈ s₁.rows departmentMapping.worksheet := by
      rw [hsame₁.rows]
      exact List.mem_of_find?_eq_some hrow
    obtain ⟨s₂, hwrite, -, hrows⟩ := writeRow_of_held (b := { b with store := s₁ }) hq₁
      h.quiet.waiting hmem
      (by rw [hsame₁.rows]; exact hheld)
    have hrun : (upsert e a).run.run b = (.ok (.updated row.rowId), { b with store := s₂ }) := by
      simp only [upsert, hk]
      rw [upsertDepartment_write_run ha hid hlook]
      have hrow' : rowOf b.store departmentMapping e.externalId = some row := hrow
      rw [hrow']
      exact hwrite
    rw [hrun]
    exact ⟨rfl, hrows.trans hsame₁.rows⟩
  | staff =>
    rw [hk] at hfound hheld
    rw [writtenFields_of_staff hk] at hheld
    obtain ⟨row, hrow, rfl⟩ := Option.map_eq_some_iff.mp hfound
    obtain ⟨s₁, hlook, hsame₁, hq₁⟩ := lookup_quiet h.quiet.store h.quiet.waiting staffMapping
      e.externalId
    let b₁ : Backends := { b with store := s₁ }
    obtain ⟨-, hrepaired, hothers₂, -, hquiet₂⟩ := resolve_spec e.tenantId e.departmentIds b₁
    obtain ⟨hq₂, hlinked, -⟩ := hquiet₂ ⟨hq₁, h.quiet.waiting, h.quiet.directory⟩
    let b₂ := ((resolve e.tenantId e.departmentIds).run b₁).2
    have hsettled := h.links hk
    -- every department the links could repair already has its row: no repair, the same links
    have hdeps : b₂.store.rows .department = b.store.rows .department := by
      have hknown : ∀ d ∈ e.departmentIds, d ≠ "" →
          (departmentOf (b₁.directory.entities e.tenantId .department) d).isSome →
          (linkOf (b₁.store.rows .department) d).isSome := fun d hd hne hdep => by
        show (linkOf (s₁.rows .department) d).isSome
        rw [congrFun hsame₁.rows]
        exact hsettled.known d hd hne hdep
      exact (hrepaired.eq_of_known hknown).trans (congrFun hsame₁.rows _)
    have hlinks : ((resolve e.tenantId e.departmentIds).run b₁).1 = links := by
      rw [hlinked, hdeps, hsettled.links]
    have hstaff₂ : b₂.store.rows .staff = b.store.rows .staff :=
      (hothers₂ .staff (by decide)).trans (congrFun hsame₁.rows _)
    have hmem : row ∈ b₂.store.rows staffMapping.worksheet := by
      show row ∈ b₂.store.rows .staff
      rw [hstaff₂]
      exact List.mem_of_find?_eq_some hrow
    obtain ⟨s₃, hwrite, -, hrows⟩ := writeRow_of_held (F := staffFields e links) (b := b₂)
      hq₂.store hq₂.waiting hmem (by show Held (b₂.store.rows .staff) _ _; rw [hstaff₂]; exact hheld)
    have hrun : (upsert e a).run.run b = (.ok (.updated row.rowId), { b₂ with store := s₃ }) := by
      simp only [upsert, hk]
      have hrow' : rowOf b.store staffMapping e.externalId = some row := hrow
      rw [upsertStaff_write_run e b ha hid hlook, hlinks, hrow']
      exact hwrite
    rw [hrun]
    refine ⟨rfl, hrows.trans (funext fun w => ?_)⟩
    by_cases hw : w = .department
    · subst hw
      exact hdeps
    · exact (hothers₂ w hw).trans (congrFun hsame₁.rows w)

theorem upsert_delete_absent (hq : Quiet b.store) (hw : b.waiting = []) (hid : e.externalId ≠ "")
    (hnone : rowOf b.store (mappingFor e.kind) e.externalId = none) :
    ∃ s', (upsert e .delete).run.run b = (.ok .skipped, { b with store := s' }) ∧ Quiet s' ∧
      SameRows b.store s' := by
  cases hk : e.kind with
  | department =>
    rw [hk] at hnone
    obtain ⟨s₁, hlook, hsame, hq₁⟩ := lookup_quiet hq hw departmentMapping e.externalId
    have hnone' : rowOf b.store departmentMapping e.externalId = none := hnone
    rw [hnone'] at hlook
    refine ⟨s₁, ?_, hq₁, hsame⟩
    simp only [upsert, hk, upsertDepartment]
    rw [lookupForDelete_of_id _ hid, run_ok_bind hlook]
    rfl
  | staff =>
    rw [hk] at hnone
    obtain ⟨s₁, hlook, hsame, hq₁⟩ := lookup_quiet hq hw staffMapping e.externalId
    have hnone' : rowOf b.store staffMapping e.externalId = none := hnone
    rw [hnone'] at hlook
    refine ⟨s₁, ?_, hq₁, hsame⟩
    simp only [upsert, hk, upsertStaff]
    rw [lookupForDelete_of_id _ hid, run_ok_bind hlook]
    rfl

/-- Among rows holding each nonempty text of a field at most once, removing the rows of one row's
id leaves no row holding that row's text. -/
theorem Keyed.absent_after_delete {field : String} {rows : List Row} (h : Keyed field rows)
    {row : Row} (hrow : row ∈ rows) (hid : fieldText row.fields field ≠ "") :
    ∀ x ∈ rows.filter (·.rowId != row.rowId), fieldText x.fields field ≠ fieldText row.fields field := by
  intro x hx heq
  obtain ⟨hmem, hne⟩ := List.mem_filter.mp hx
  obtain rfl := h.eq_of_clash hmem hrow ⟨by rw [heq]; exact hid, heq⟩
  simp at hne

/-- With no failure waiting and department rows holding each nonempty id at most once, a second
deletion of a department is skipped and changes no row. -/
theorem upsertDepartment_delete_twice (hk : e.kind = .department) (hid : e.externalId ≠ "")
    (hq : NoFailures b) (hkeyed : Keyed departmentMapping.externalIdField (b.store.rows .department)) :
    let first := (upsert e .delete).run.run b
    let second := (upsert e .delete).run.run first.2
    second.1 = .ok .skipped ∧ second.2.store.rows = first.2.store.rows := by
  intro first second
  have hafter : ∃ s₁, first.2 = { b with store := s₁ } ∧ Quiet s₁ ∧
      rowOf s₁ (mappingFor e.kind) e.externalId = none := by
    rw [hk]
    cases hfound : rowOf b.store departmentMapping e.externalId with
    | none =>
      obtain ⟨s₁, h₁, hq₁, hsame⟩ := upsert_delete_absent hq.store hq.waiting hid (by rw [hk]; exact hfound)
      refine ⟨s₁, by simp only [first, h₁], hq₁, ?_⟩
      rw [rowOf_of_rows (congrFun hsame.rows _)]
      exact hfound
    | some row =>
      obtain ⟨s₁, hlook, hsame, hq₁⟩ := lookup_quiet hq.store hq.waiting departmentMapping
        e.externalId
      have hmem : row ∈ b.store.rows .department := List.mem_of_find?_eq_some hfound
      obtain ⟨s₂, hdel, hq₂, hrows⟩ := deleteRow_quiet_run (b := { b with store := s₁ }) hq₁
        hq.waiting departmentMapping.worksheet ⟨row, by rw [hsame.rows]; exact hmem, rfl⟩
      have h₁ : first = (.ok (.deleted row.rowId), { b with store := s₂ }) := by
        simp only [first, upsert, hk, upsertDepartment]
        rw [lookupForDelete_of_id _ hid, run_ok_bind hlook, hfound]
        exact (run_ok_bind hdel).trans rfl
      refine ⟨s₂, by rw [h₁], hq₂, ?_⟩
      -- the row removed was the only one holding the id
      have hholds : fieldText row.fields departmentMapping.externalIdField = e.externalId := by
        obtain ⟨front, back, hfirst⟩ := rowOf_eq_some_iff.mp hfound
        exact hfirst.holds
      rw [rowOf_eq_none_iff]
      show ∀ x ∈ s₂.rows .department, fieldText x.fields departmentMapping.externalIdField ≠ _
      have hw : Worksheet.department = departmentMapping.worksheet := rfl
      rw [hrows, setRows_rows, if_pos hw]
      dsimp only
      rw [hsame.rows, ← hholds]
      exact Keyed.absent_after_delete hkeyed hmem (by rw [hholds]; exact hid)
  obtain ⟨s₁, h₁, hq₁, hnone⟩ := hafter
  obtain ⟨s₂, h₂, -, hsame₂⟩ := upsert_delete_absent (b := { b with store := s₁ }) hq₁ hq.waiting hid hnone
  have hs : second = (.ok .skipped, { b with store := s₂ }) := by
    simp only [second, h₁]
    exact h₂
  rw [hs, h₁]
  exact ⟨rfl, hsame₂.rows⟩

theorem fieldText_merge_departed (fs : Fields) :
    fieldText (fs.merge departedFields) staffMapping.externalIdField =
      fieldText fs staffMapping.externalIdField :=
  fieldText_merge fun kv hkv htit => by
    rw [List.mem_singleton.mp hkv] at htit
    exact absurd htit (by decide)

/-- With no failure waiting, a second deletion of a staff member answers as the first and changes
no row: it skips again, or marks departed again the row already departed. -/
theorem upsertStaff_delete_twice (hk : e.kind = .staff) (hid : e.externalId ≠ "")
    (hq : NoFailures b) :
    let first := (upsert e .delete).run.run b
    let second := (upsert e .delete).run.run first.2
    second.1 = first.1 ∧ (first.1 = .ok .skipped ∨ ∃ r, first.1 = .ok (.departed r)) ∧
      second.2.store.rows = first.2.store.rows := by
  intro first second
  cases hfound : rowOf b.store staffMapping e.externalId with
  | none =>
    obtain ⟨s₁, h₁, hq₁, hsame₁⟩ := upsert_delete_absent hq.store hq.waiting hid (by rw [hk]; exact hfound)
    obtain ⟨s₂, h₂, -, hsame₂⟩ := upsert_delete_absent (b := { b with store := s₁ }) hq₁ hq.waiting hid
      (by rw [hk, rowOf_of_rows (congrFun hsame₁.rows _)]; exact hfound)
    have hf : first = (.ok .skipped, { b with store := s₁ }) := h₁
    have hs : second = (.ok .skipped, { b with store := s₂ }) := by
      simp only [second, hf]
      exact h₂
    rw [hs, hf]
    exact ⟨rfl, .inl rfl, hsame₂.rows⟩
  | some row =>
    obtain ⟨s₁, hlook, hsame₁, hq₁⟩ := lookup_quiet hq.store hq.waiting staffMapping e.externalId
    have hfound₁ : rowOf s₁ staffMapping e.externalId = some row := by
      rw [rowOf_of_rows (congrFun hsame₁.rows _)]
      exact hfound
    obtain ⟨i, s₂, hi, hupd, hq₂, -, hrows₂⟩ := updateRow_quiet_run (b := { b with store := s₁ })
      hq₁ hq.waiting staffMapping.worksheet ⟨row, List.mem_of_find?_eq_some hfound₁, rfl⟩ departedFields
    have hf : first = (.ok (.departed row.rowId), { b with store := s₂ }) := by
      simp only [first, upsert, hk, upsertStaff]
      rw [lookupForDelete_of_id _ hid, run_ok_bind hlook, hfound]
      exact (run_ok_bind hupd).trans rfl
    have hsheet : s₂.rows .staff = (s₁.rows .staff).modify i (mergeFields departedFields) := by
      have hw : Worksheet.staff = staffMapping.worksheet := rfl
      rw [hrows₂, setRows_rows, if_pos hw]
      rfl
    have hrow₂ : (rowOf s₂ staffMapping e.externalId).map (·.rowId) = some row.rowId := by
      show ((s₂.rows .staff).find? _).map _ = _
      rw [hsheet]
      refine find?_modify_rowId hi hfound₁ rfl (fun _ => rfl) fun x => .inr ?_
      simp only [mergeFields, matches_eq, fieldText_merge_departed]
    have hheld : Held (s₂.rows .staff) row.rowId departedFields := by
      rw [hsheet]
      exact held_modify (fun fs => Fields.merge_merge_self fs (by decide)) hi
    obtain ⟨row₂, hfound₂, hid₂⟩ := Option.map_eq_some_iff.mp hrow₂
    obtain ⟨s₃, hlook₃, hsame₃, hq₃⟩ := lookup_quiet (b := { b with store := s₂ }) hq₂
      hq.waiting staffMapping e.externalId
    have hmem₂ : row₂ ∈ s₃.rows staffMapping.worksheet := by
      rw [hsame₃.rows]
      exact List.mem_of_find?_eq_some hfound₂
    obtain ⟨s₄, hupd₄, -, hrows₄⟩ := updateRow_of_held (b := { b with store := s₃ }) hq₃
      hq.waiting staffMapping.worksheet hmem₂ (F := departedFields) (by rw [hsame₃.rows, hid₂]; exact hheld)
    have hs : second = (.ok (.departed row₂.rowId), { b with store := s₄ }) := by
      simp only [second, hf, upsert, hk, upsertStaff]
      rw [lookupForDelete_of_id _ hid, run_ok_bind hlook₃]
      have hfound₂' : rowOf s₂ staffMapping e.externalId = some row₂ := hfound₂
      rw [hfound₂']
      exact (run_ok_bind hupd₄).trans rfl
    rw [hs, hf, hid₂]
    exact ⟨rfl, .inr ⟨_, rfl⟩, hrows₄.trans hsame₃.rows⟩

theorem upsert_refused (hid : e.externalId = "") (a : Action) (b : Backends) :
    ∃ err, (upsert e a).run.run b = (.error err, b) := by
  by_cases ha : a = .delete
  · subst ha
    cases hk : e.kind <;> simp only [upsert, hk, upsertDepartment, upsertStaff] <;>
      exact ⟨_, run_error_bind (lookupForDelete_no_id _ hid b)⟩
  · have hsame : upsert e a = upsert e .update := by
      cases a <;> first | rfl | exact absurd rfl ha
    obtain ⟨err, herr, -⟩ := upsert_no_id hid b
    exact ⟨err, hsame ▸ herr⟩

end Settling

/-- Repeating an upsert changes no row. With no failure waiting and no stored row of an id the
store creates later, an upsert of an entity followed by another of the same entity (a creation
or update after a creation or update, a deletion after a deletion) leaves the rows as the first
left them. A repeated creation or update answers the first one's row id, updated; a repeated
deletion of a staff member answers as the first, and of a department is skipped once department
rows hold each external id at most once. -/
theorem upsert_repeated_changes_no_row (e : Entity) (a a' : Action) (b : Backends)
    (hq : NoFailures b) (hfresh : FreshIds b.store (mappingFor e.kind).worksheet)
    (hkeyed : e.kind = .department → a = .delete →
      Keyed departmentMapping.externalIdField (b.store.rows .department))
    (hsame : a = .delete ↔ a' = .delete) :
    let first := (upsert e a).run.run b
    let second := (upsert e a').run.run first.2
    second.2.store.rows = first.2.store.rows ∧
      (e.externalId ≠ "" →
        (a ≠ .delete → ∃ o r, first.1 = .ok o ∧ o.rowId? = some r ∧ second.1 = .ok (.updated r)) ∧
        (a = .delete → (e.kind = .department → second.1 = .ok .skipped) ∧
          (e.kind = .staff → second.1 = first.1 ∧
            (first.1 = .ok .skipped ∨ ∃ r, first.1 = .ok (.departed r))))) := by
  intro first second
  by_cases hid : e.externalId = ""
  · -- both are refused before any call
    obtain ⟨err, h₂⟩ := upsert_refused hid a' first.2
    have hs : second = (.error err, first.2) := h₂
    rw [hs]
    exact ⟨rfl, fun hne => absurd hid hne⟩
  by_cases ha : a = .delete
  · obtain rfl := ha
    obtain rfl := hsame.mp rfl
    cases hk : e.kind with
    | department =>
      obtain ⟨h₂, hrows⟩ := upsertDepartment_delete_twice hk hid hq (hkeyed hk rfl)
      exact ⟨hrows, fun _ => ⟨fun h => absurd rfl h, fun _ => ⟨fun _ => h₂, nofun⟩⟩⟩
    | staff =>
      obtain ⟨h₂, hfirst, hrows⟩ := upsertStaff_delete_twice hk hid hq
      exact ⟨hrows, fun _ => ⟨fun h => absurd rfl h, fun _ => ⟨nofun, fun _ => ⟨h₂, hfirst⟩⟩⟩⟩
  · -- the first settles the entity, from which the second changes nothing
    have ha' : a' ≠ .delete := fun h => ha (hsame.mpr h)
    obtain ⟨o, r, ho, hr, hsettled⟩ := upsert_settles hid ha hq hfresh
    obtain ⟨h₂, hrows⟩ := upsert_of_settled hsettled hid ha'
    exact ⟨hrows, fun _ => ⟨fun _ => ⟨o, r, ho, hr, h₂⟩, fun h => absurd h ha⟩⟩

/-- A staff member of d1 created where the directory knows d1, then updated: the creation adds
the department's row, and the update changes no row. -/
theorem member_created_then_updated :
    NoFailures knowsD1 ∧ FreshIds knowsD1.store .staff ∧
      (let first := (upsert memberOfD1 .create).run.run knowsD1
       ((upsert memberOfD1 .update).run.run first.2).2.store.rows = first.2.store.rows) := by
  have hq : NoFailures knowsD1 := ⟨⟨fun _ => rfl⟩, rfl, rfl⟩
  have hfresh : FreshIds knowsD1.store .staff := fun x hx => absurd hx List.not_mem_nil
  exact ⟨hq, hfresh, (upsert_repeated_changes_no_row memberOfD1 .create .update knowsD1 hq hfresh
    nofun (by decide)).1⟩

/-- Two department rows holding the external id d1. -/
def twinDepartmentRows : Backends :=
  { store := { rows := fun w => if w = .department then
      [{ rowId := "r1", worksheet := .department,
         fields := [("69660ddb84223902b9ec7a72", .str "d1"), ("rowid", .str "r1")] },
       { rowId := "r2", worksheet := .department,
         fields := [("69660ddb84223902b9ec7a72", .str "d1"), ("rowid", .str "r2")] }] else [] } }

/-- Without one row per external id a repeated deletion is not idempotent: with two department
rows holding d1 and no failure waiting, the first deletion removes r1 and the second removes r2. -/
theorem second_delete_removes_twin_row :
    let e := Entity.new .department "corp" "d1" 0
    let first := (upsert e .delete).run.run twinDepartmentRows
    let second := (upsert e .delete).run.run first.2
    NoFailures twinDepartmentRows ∧ second.1 = .ok (.deleted "r2") ∧
      (first.2.store.rows .department).map (·.rowId) = ["r2"] ∧
      second.2.store.rows .department = [] :=
  ⟨⟨⟨fun _ => rfl⟩, rfl, rfl⟩, rfl, rfl, rfl⟩

end RosterSync.Sync

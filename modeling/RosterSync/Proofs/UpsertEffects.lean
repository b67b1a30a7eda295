import RosterSync.Proofs.ReferenceRepair

/-!
The exact effect of one upsert on the rows, whatever fails.

A staff creation or update writes its built fields with the department links it resolved after
its lookup (`resolvedLinks`); resolving is the one step of an upsert that may write a worksheet
other than its entity's, and it only appends department rows by repair. Everything else an upsert
does is the single write `RowEffect` describes on its own worksheet, or a failure that leaves that
worksheet as it was: a refusal before any call, or a failure of the record store.
-/

namespace RosterSync.Sync

open RosterSync.Json RosterSync.Record RosterSync.Directory RosterSync.Mapping
open RosterSync.Record.MemoryStore

/-- The fields a staff creation or update writes once its department links resolved to `links`:
the built fields, with the links as a relation when any resolved. -/
def staffFields (e : Entity) (links : List String) : Fields :=
  if links.isEmpty then staffMapping.buildFields e
  else (staffMapping.buildFields e).insert departmentsField (relationValue links)

/-- The department rows a staff upsert from `b` resolves, after its lookup. -/
def resolvedLinks (e : Entity) (b : Backends) : List String :=
  ((resolve e.tenantId e.departmentIds).run ((lookup staffMapping e.externalId).run.run b).2).1

/-- The fields a creation or update of `e` writes once its department links resolved to
`links`; a department has none. -/
def writtenFields (e : Entity) (links : List String) : Fields :=
  match e.kind with
  | .department => departmentMapping.buildFields e
  | .staff => staffFields e links

theorem writtenFields_of_department {e : Entity} (h : e.kind = .department) (links : List String) :
    writtenFields e links = departmentMapping.buildFields e := by
  simp only [writtenFields, h]

theorem writtenFields_of_staff {e : Entity} (h : e.kind = .staff) (links : List String) :
    writtenFields e links = staffFields e links := by
  simp only [writtenFields, h]

theorem writtenFields_sorted (e : Entity) (links : List String) :
    (writtenFields e links).Sorted := by
  unfold writtenFields staffFields
  split
  · exact buildFields_sorted .department e
  · split
    · exact buildFields_sorted .staff e
    · exact (buildFields_sorted .staff e).insert _ _

theorem writtenFields_ne_rowid (e : Entity) (links : List String) :
    ∀ kv ∈ writtenFields e links, kv.1 ≠ "rowid" := by
  unfold writtenFields staffFields
  split
  · exact buildFields_ne_rowid .department e
  · split
    · exact buildFields_ne_rowid .staff e
    · intro kv hkv
      rcases Fields.mem_insert hkv with rfl | hold
      · exact departmentsField_ne.2
      · exact buildFields_ne_rowid .staff e kv hold

theorem writtenFields_title {e : Entity} (hid : e.externalId ≠ "") (links : List String) :
    TitleHolds (mappingFor e.kind) (writtenFields e links) e.externalId := by
  unfold writtenFields staffFields
  split
  · rename_i hk
    rw [hk]
    exact buildFields_title .department e hid
  · rename_i hk
    rw [hk]
    split
    · exact buildFields_title .staff e hid
    · exact (buildFields_title .staff e hid).insert _ departmentsField_ne.1

/-- What an upsert of `e` by `a` did beyond its own worksheet, from `b` to `b'`: nothing, but for
the department rows that a staff creation or update appends by repair. -/
def OthersKept (e : Entity) (a : Action) (b b' : Backends) : Prop :=
  ∀ w, w ≠ (mappingFor e.kind).worksheet →
    b'.store.rows w = b.store.rows w ∨ e.kind = .staff ∧ a ≠ .delete ∧ w = .department ∧
      Repaired (b.directory.entities e.tenantId .department) e.departmentIds (b.store.rows w)
        (b'.store.rows w)

/-- Department links `links` of the ids `ds` read against the department rows `rows`: the rows of
the ids in order, and among them every id the directory's `deps` know under a nonempty id. -/
structure LinksResolved (deps : List Entity) (ds : List String) (rows : List Row)
    (links : List String) : Prop where
  links : links = ds.filterMap (linkOf rows)
  known : ∀ d ∈ ds, d ≠ "" → (departmentOf deps d).isSome → (linkOf rows d).isSome

/-- What a staff upsert of `e` by `a` from `b` did, answering `r` and ending in `b'`: its own rows
as `RowEffect` says, with the links `links` in the written fields; no worksheet but the department
one changed, and that one only by repair in a creation or update; the directory's departments of
the tenant kept;
a failure as `FailedAs` allows. With no failure waiting none waits after, an entity with an
external id goes through, and a creation or update resolved every link it could. -/
structure StaffEffect (e : Entity) (a : Action) (links : List String) (b : Backends)
    (r : Except SyncError Outcome) (b' : Backends) : Prop where
  rows : RowEffect .staff a e.externalId (staffFields e links) (b.store.rows .staff)
    (b'.store.rows .staff) r
  others : ∀ w, w ≠ .staff → w ≠ .department → b'.store.rows w = b.store.rows w
  departments : a = .delete ∧ b'.store.rows .department = b.store.rows .department ∨
    a ≠ .delete ∧ Repaired (b.directory.entities e.tenantId .department) e.departmentIds
      (b.store.rows .department) (b'.store.rows .department)
  entities : b'.directory.entities e.tenantId .department =
    b.directory.entities e.tenantId .department
  failed : ∀ err, r = .error err → FailedAs b b' err
  quiet : NoFailures b → NoFailures b' ∧ (e.externalId ≠ "" → (∃ o, r = .ok o) ∧
    (a ≠ .delete → LinksResolved (b.directory.entities e.tenantId .department) e.departmentIds
      (b'.store.rows .department) links))

theorem Repaired.refl (deps : List Entity) (ds : List String) (rows : List Row) :
    Repaired deps ds rows rows :=
  ⟨[], by simp, List.nodup_nil, fun _ h => (by cases h)⟩

section Staff

variable (e : Entity) (b : Backends)

theorem StaffEffect.refused {a : Action} {err : SyncError} (links : List String)
    (hdel : a = .delete ∨ a ≠ .delete) (hid : e.externalId = "")
    (hfail : FailedAs b b err) : StaffEffect e a links b (.error err) b := by
  refine ⟨rfl, fun _ _ _ => rfl, ?_, rfl, fun _ h => (by cases h; exact hfail),
    fun hq => ⟨hq, fun hne => absurd hid hne⟩⟩
  rcases hdel with ha | ha
  · exact .inl ⟨ha, rfl⟩
  · exact .inr ⟨ha, Repaired.refl _ _ _⟩

theorem StaffEffect.lookup_failed {a : Action} {s₁ : MemoryStore} (links : List String)
    (hdel : a = .delete ∨ a ≠ .delete) (hsame : SameRows b.store s₁) (se : StoreError)
    (hloud : ¬ NoFailures b) :
    StaffEffect e a links b (.error (.recordStore se)) { b with store := s₁ } := by
  refine ⟨congrFun hsame.rows _, fun w _ _ => congrFun hsame.rows w, ?_, rfl,
    fun _ h => (by cases h; trivial), fun hq => absurd hq hloud⟩
  rcases hdel with ha | ha
  · exact .inl ⟨ha, congrFun hsame.rows _⟩
  · exact .inr ⟨ha, (congrFun hsame.rows _) ▸ Repaired.refl _ _ _⟩

/-- A staff deletion, among staff rows of distinct ids, marks the first row holding the external
id departed, or skips when there is none, or fails changing no row. -/
theorem upsertStaff_delete_effect (hids : ((b.store.rows .staff).map (·.rowId)).Nodup) :
    StaffEffect e .delete (resolvedLinks e b) b ((upsertStaff e .delete).run.run b).1
      ((upsertStaff e .delete).run.run b).2 := by
  by_cases hid : e.externalId = ""
  · have hrun : (upsertStaff e .delete).run.run b = (.error (.missingExternalId e.kind), b) := by
      simp only [upsertStaff]
      rw [run_error_bind (lookupForDelete_no_id _ hid b)]
    rw [hrun]
    exact StaffEffect.refused e b _ (.inl rfl) hid rfl
  obtain ⟨r₁, s₁, hlook, hsame, hans, hq₁⟩ := lookup_spec staffMapping e.externalId b
  have hlook' : (lookupForDelete staffMapping e).run.run b = (r₁, { b with store := s₁ }) := by
    rw [lookupForDelete_of_id _ hid]
    exact hlook
  rcases hans with ⟨se, rfl⟩ | rfl
  · have hrun : (upsertStaff e .delete).run.run b =
        (.error (.recordStore se), { b with store := s₁ }) := by
      simp only [upsertStaff]
      rw [run_error_bind hlook']
    rw [hrun]
    exact StaffEffect.lookup_failed e b _ (.inl rfl) hsame se fun hq => absurd (hq₁ hq.store hq.waiting).1 (by simp)
  have hids₁ : ((s₁.rows .staff).map (·.rowId)).Nodup := by rwa [hsame.rows]
  cases hfound : rowOf b.store staffMapping e.externalId with
  | none =>
    rw [hfound] at hlook'
    have hrun : (upsertStaff e .delete).run.run b = (.ok .skipped, { b with store := s₁ }) := by
      simp only [upsertStaff]
      rw [run_ok_bind hlook']
      rfl
    rw [hrun]
    exact ⟨⟨rfl, rowOf_eq_none_iff.mp hfound, congrFun hsame.rows _⟩,
      fun w _ _ => congrFun hsame.rows w, .inl ⟨rfl, congrFun hsame.rows _⟩, rfl,
      fun _ h => (by cases h), fun hq => ⟨⟨(hq₁ hq.store hq.waiting).2, hq.waiting, hq.directory⟩,
        fun _ => ⟨⟨_, rfl⟩, fun h => absurd rfl h⟩⟩⟩
  | some row =>
    rw [hfound] at hlook'
    obtain ⟨front, back, hfirst⟩ := rowOf_eq_some_iff.mp hfound
    obtain ⟨u, s', hupd, -, hothers, hres, hquiet⟩ := updateRow_call staffMapping departedFields
      { b with store := s₁ } (by rw [hsame.rows]; exact hfirst.split) hids₁
    have hrun : (upsertStaff e .delete).run.run b =
        ((storeCall (updateRow staffMapping.worksheet row.rowId departedFields) >>=
          fun _ => pure (Outcome.departed row.rowId)) : SyncRun Outcome).run.run
          { b with store := s₁ } := by
      simp only [upsertStaff]
      rw [run_ok_bind hlook']
      rfl
    have hothers' : ∀ w, w ≠ .staff → s'.rows w = b.store.rows w :=
      fun w hw => (hothers w hw).trans (congrFun hsame.rows w)
    rcases hres with ⟨⟨se, rfl⟩, hrows⟩ | ⟨rfl, hrows⟩
    · rw [hrun, run_error_bind hupd]
      exact ⟨hrows.trans (congrFun hsame.rows _), fun w hw _ => hothers' w hw,
        .inl ⟨rfl, hothers' _ (by decide)⟩, rfl, fun _ h => (by cases h; trivial),
        fun hq => absurd (hquiet (hq₁ hq.store hq.waiting).2 hq.waiting).1 (by simp)⟩
    · rw [hrun, run_ok_bind hupd]
      exact ⟨⟨rfl, rfl, front, row, back, hfirst, rfl, hrows⟩, fun w hw _ => hothers' w hw,
        .inl ⟨rfl, hothers' _ (by decide)⟩, rfl, fun _ h => (by cases h),
        fun hq => ⟨⟨(hquiet (hq₁ hq.store hq.waiting).2 hq.waiting).2, hq.waiting, hq.directory⟩,
          fun _ => ⟨⟨_, rfl⟩, fun h => absurd rfl h⟩⟩⟩

/-- A staff creation or update of an entity with an external id, once its lookup answered,
resolves the links from there and writes with them. -/
theorem upsertStaff_write_run {a : Action} (ha : a ≠ .delete) (hid : e.externalId ≠ "")
    {b₁ : Backends} {existing : Option Row}
    (hlook : (lookup staffMapping e.externalId).run.run b = (.ok existing, b₁)) :
    (upsertStaff e a).run.run b =
      (writeRow staffMapping existing
        (staffFields e ((resolve e.tenantId e.departmentIds).run b₁).1)).run.run
        ((resolve e.tenantId e.departmentIds).run b₁).2 := by
  have hprep : prepareFields staffMapping e = .ok (staffMapping.buildFields e) :=
    prepareFields_of_id .staff hid
  have hsame : upsertStaff e a = upsertStaff e .update := by
    cases a <;> first | rfl | exact absurd rfl ha
  rw [hsame]
  simp only [upsertStaff]
  rw [run_ok_bind (by simp [hprep]; rfl), run_ok_bind hlook]
  rfl

/-- A staff creation or update, among staff rows of distinct ids, writes its built fields with
the links it resolved into the first row holding the external id, or appends a row when there is
none, or fails changing no staff row; on the way, only repair appends department rows. -/
theorem upsertStaff_write_effect {a : Action} (ha : a ≠ .delete)
    (hids : ((b.store.rows .staff).map (·.rowId)).Nodup) :
    StaffEffect e a (resolvedLinks e b) b ((upsertStaff e a).run.run b).1
      ((upsertStaff e a).run.run b).2 := by
  have hsame' : upsertStaff e a = upsertStaff e .update := by
    cases a <;> first | rfl | exact absurd rfl ha
  rcases prepareFields_cases .staff e with ⟨hid, -⟩ | ⟨hid, err, hprep, hfail⟩
  swap
  · have hrun : (upsertStaff e a).run.run b = (.error err, b) := by
      rw [hsame']
      show ((ExceptT.mk (pure (prepareFields (mappingFor .staff) e)) : SyncRun Fields) >>=
        _).run.run b = _
      rw [hprep]
      rfl
    rw [hrun]
    exact StaffEffect.refused e b _ (.inr ha) hid (hfail b)
  obtain ⟨r₁, s₁, hlook, hsame, hans, hq₁⟩ := lookup_spec staffMapping e.externalId b
  rcases hans with ⟨se, rfl⟩ | rfl
  · have hrun : (upsertStaff e a).run.run b =
        (.error (.recordStore se), { b with store := s₁ }) := by
      have hprep : prepareFields staffMapping e = .ok (staffMapping.buildFields e) :=
        prepareFields_of_id .staff hid
      rw [hsame']
      simp only [upsertStaff]
      rw [run_ok_bind (by simp [hprep]; rfl), run_error_bind hlook]
    rw [hrun]
    exact StaffEffect.lookup_failed e b _ (.inr ha) hsame se fun hq => absurd (hq₁ hq.store hq.waiting).1 (by simp)
  let b₁ : Backends := { b with store := s₁ }
  have hlinks : resolvedLinks e b = ((resolve e.tenantId e.departmentIds).run b₁).1 := by
    simp only [resolvedLinks, hlook]
    rfl
  obtain ⟨hent, hrepaired, hothers₂, -, hquiet₂⟩ := resolve_spec e.tenantId e.departmentIds b₁
  let b₂ := ((resolve e.tenantId e.departmentIds).run b₁).2
  have hstaff₂ : b₂.store.rows .staff = b.store.rows .staff :=
    (hothers₂ .staff (by decide)).trans (congrFun hsame.rows _)
  have hids₂ : ((b₂.store.rows (mappingFor .staff).worksheet).map (·.rowId)).Nodup := by
    show ((b₂.store.rows .staff).map (·.rowId)).Nodup
    rwa [hstaff₂]
  obtain ⟨r, s₃, hwrite, heffect, hothers₃, herr, hquiet₃⟩ := @writeRow_effect .staff
    e.externalId (staffFields e (resolvedLinks e b)) b₂ hids₂
  have hexisting : rowOf b₂.store (mappingFor .staff) e.externalId =
      rowOf b.store staffMapping e.externalId := rowOf_of_rows hstaff₂ _
  rw [hexisting] at hwrite
  have hrun : (upsertStaff e a).run.run b = (r, { b₂ with store := s₃ }) := by
    rw [upsertStaff_write_run e b ha hid hlook, ← hlinks]
    exact hwrite
  rw [hrun]
  have hdep₃ : s₃.rows .department = b₂.store.rows .department := hothers₃ _ (by decide)
  refine ⟨?_, fun w hw hw' => ?_, .inr ⟨ha, ?_⟩, hent, fun err h => ?_, fun hq => ?_⟩
  · rw [← hstaff₂]
    exact heffect a ha
  · rw [hothers₃ w hw, hothers₂ w hw']
    exact congrFun hsame.rows w
  · rw [hdep₃, ← congrFun hsame.rows .department]
    exact hrepaired
  · obtain ⟨se, rfl⟩ := herr err h
    trivial
  · obtain ⟨hq₂, hlinked, hfound⟩ := hquiet₂ ⟨(hq₁ hq.store hq.waiting).2, hq.waiting, hq.directory⟩
    obtain ⟨hok, hq₃⟩ := hquiet₃ hq₂.store hq₂.waiting
    refine ⟨⟨hq₃, hq₂.waiting, hq₂.directory⟩, fun _ => ⟨hok, fun _ => ⟨?_, fun d hd hne hknown => ?_⟩⟩⟩
    · rw [hdep₃, hlinks]
      exact hlinked
    · rw [hdep₃, hfound d hd]
      exact .inr ⟨hne, hknown⟩

theorem upsertStaff_effect (a : Action) (hids : ((b.store.rows .staff).map (·.rowId)).Nodup) :
    StaffEffect e a (resolvedLinks e b) b ((upsertStaff e a).run.run b).1
      ((upsertStaff e a).run.run b).2 := by
  by_cases ha : a = .delete
  · subst ha
    exact upsertStaff_delete_effect e b hids
  · exact upsertStaff_write_effect e b ha hids

end Staff

/-- One upsert, among rows of distinct ids in every worksheet, whatever fails: on its entity's
worksheet it does exactly what `RowEffect` says with the fields it writes (a failure changes no
row there; an update merges them into the first row holding the external id; a creation appends
them with the new row id when no row held it; a deletion removes that row, marks it departed, or
skips when there is none); elsewhere it changes nothing but the department rows a staff creation
or update repairs; and a refusal makes no call at all. -/
theorem upsert_changes_rows_exactly (e : Entity) (a : Action) (b : Backends)
    (hids : ∀ w, ((b.store.rows w).map (·.rowId)).Nodup) :
    let r := (upsert e a).run.run b
    RowEffect e.kind a e.externalId (writtenFields e (resolvedLinks e b))
        (b.store.rows (mappingFor e.kind).worksheet)
        (r.2.store.rows (mappingFor e.kind).worksheet) r.1 ∧
      OthersKept e a b r.2 ∧ (∀ err, r.1 = .error err → FailedAs b r.2 err) := by
  intro r
  unfold OthersKept
  cases hk : e.kind with
  | department =>
    obtain ⟨r', s', hrun, heffect, hothers, hfailed, -⟩ := upsertDepartment_effect e a b (hids _)
    have hr : r = (r', { b with store := s' }) := by
      simp only [r, upsert, hk]
      exact hrun
    rw [hr, writtenFields_of_department hk]
    exact ⟨heffect, fun w hw => .inl (hothers w hw), hfailed⟩
  | staff =>
    have h := upsertStaff_effect e b a (hids _)
    have hr : r = (upsertStaff e a).run.run b := by simp only [r, upsert, hk]
    rw [hr, writtenFields_of_staff hk]
    refine ⟨h.rows, fun w hw => ?_, h.failed⟩
    by_cases hw' : w = .department
    · -- the department rows move only by repair, in a creation or update
      subst hw'
      rcases h.departments with ⟨-, hrows⟩ | ⟨ha, hrepaired⟩
      · exact .inl hrows
      · exact .inr ⟨rfl, ha, rfl, hrepaired⟩
    · exact .inl (h.others w hw hw')

/-- A staff member with one department, created in an empty store. -/
def memberOfD1 : Entity := { Entity.new .staff "corp" "s1" 0 with departmentIds := ["d1"] }

theorem create_member_in_empty_store :
    (∀ w, ((({} : Backends).store.rows w).map (·.rowId)).Nodup) ∧
      OthersKept memberOfD1 .create {} ((upsert memberOfD1 .create).run.run {}).2 :=
  ⟨fun _ => List.nodup_nil, (upsert_changes_rows_exactly memberOfD1 .create {} fun _ => List.nodup_nil).2.1⟩

end RosterSync.Sync

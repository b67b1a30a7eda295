import RosterSync.Proofs.Backends
import RosterSync.Proofs.QuietUpserts

/-!
A full sync writes every entity of the directory over its row.

From a sound record store and a well-formed directory, with no failure waiting anywhere, a full
sync of both kinds succeeds. After it, every entity the directory lists for the tenant with an
external id is held by exactly one row of its worksheet, and that row holds, field by field, what
the sync writes for the entity (`syncedFields`) over what the row held before the sync
(`priorFields`). So a field the entity no longer maps to keeps its old value, and a staff member
whose links all fail to resolve keeps the links the row had: updates merge.

The proof follows the passes. One pass over the entities of a kind keeps `PassInv`: the rows of
the external ids already written hold their fields over what they held when the pass started,
the rows of the others are as they were then, and the other worksheets are untouched. The
department pass goes first, so when the staff pass repairs links every department the directory
lists already has its row, and repairing only reads.
-/

namespace RosterSync.Sync

open RosterSync.Json RosterSync.Record RosterSync.Directory RosterSync.Mapping
open RosterSync.Record.MemoryStore

/-- What a pass over the worksheet of `m` keeps after the entities `done`, from the store `s₀` it
started with: the directory is `d`, no failure waits, the store stays sound, the other worksheets
and the rows of the external ids not yet written are as in `s₀`, and the row of each written
entity with an external id holds its fields over what it held in `s₀`. -/
structure PassInv (d : MemoryDirectory) (m : WorksheetMapping) (s₀ : MemoryStore)
    (done : List Entity) (b : Backends) : Prop where
  directory : b.directory = d
  quiet : Quiet b.store
  waiting : b.waiting = []
  sound : StoreSound b.store
  others : ∀ w, w ≠ m.worksheet → b.store.rows w = s₀.rows w
  unwritten : ∀ id, (∀ e ∈ done, e.externalId ≠ id) → rowOf b.store m id = rowOf s₀ m id
  written : ∀ e ∈ done, e.externalId ≠ "" →
    Mirrors m (syncedFields s₀ e) s₀ b.store e.externalId

section Pass

variable {d : MemoryDirectory} {m : WorksheetMapping} {s₀ : MemoryStore} {done : List Entity}
  {b : Backends}

theorem PassInv.start (hdir : b.directory = d) (hq : Quiet b.store) (hw : b.waiting = [])
    (hsound : StoreSound b.store) : PassInv d m b.store [] b where
  directory := hdir
  quiet := hq
  waiting := hw
  sound := hsound
  others _ _ := rfl
  unwritten _ _ := rfl
  written _ he := nomatch he

theorem PassInv.of_store {b' : Backends} (h : PassInv d m s₀ done b)
    (hdir : b'.directory = b.directory) (hwait : b'.waiting = b.waiting)
    (hstore : b'.store = b.store) : PassInv d m s₀ done b' where
  directory := hdir.trans h.directory
  quiet := hstore ▸ h.quiet
  waiting := hwait.trans h.waiting
  sound := hstore ▸ h.sound
  others w hw := hstore ▸ h.others w hw
  unwritten id hid := hstore ▸ h.unwritten id hid
  written e he hid := hstore ▸ h.written e he hid

theorem priorFields_congr {s s' : MemoryStore} {id : String} (h : rowOf s' m id = rowOf s m id)
    (rowId : String) : priorFields s' m id rowId = priorFields s m id rowId := by
  simp only [priorFields, h]

/-- Writing an entity whose external id no earlier entity of the pass had: its row now holds its
fields over what it held when the pass started, and every earlier entity's row is untouched. -/
theorem PassInv.step (h : PassInv d m s₀ done b) (hd : d.failure = none) (policy : RetryPolicy)
    {e : Entity} (hfresh : ∀ e' ∈ done, e'.externalId ≠ e.externalId) (hm : mappingFor e.kind = m)
    (hF : syncedFields b.store e = syncedFields s₀ e)
    (hcover : e.kind = .staff → DepartmentsInRows b.directory b.store e.tenantId) :
    PassInv d m s₀ (done ++ [e]) ((upsertWithRetry policy e .update).run b).2 := by
  obtain ⟨o, s', hrun, hq', hnone, hwrote⟩ := upsertWithRetry_quiet policy
    ⟨h.quiet, h.waiting, h.directory ▸ hd⟩ h.sound e hcover
  have hsound' : StoreSound s' := by
    have hkept := (upsertWithRetry_triple policy e .update b h.sound).1
    rwa [hrun] at hkept
  rw [hrun]
  have hearlier : ∀ id, (∀ e' ∈ done ++ [e], e'.externalId ≠ id) →
      ∀ e' ∈ done, e'.externalId ≠ id :=
    fun id hid e' he' => hid e' (List.mem_append_left _ he')
  by_cases hid : e.externalId = ""
  · -- nothing is written for an entity without an external id
    obtain rfl := hnone hid
    refine ⟨h.directory, hq', h.waiting, hsound', h.others, fun id hid' => h.unwritten id (hearlier id hid'),
      fun e' he' hne => ?_⟩
    rcases List.mem_append.mp he' with hold | hnew
    · exact h.written e' hold hne
    · rw [List.mem_singleton.mp hnew] at hne
      exact absurd hid hne
  · have hw := hwrote hid
    rw [hm] at hw
    refine ⟨h.directory, hq', h.waiting, hsound',
      fun w hw' => (hw.others w hw').trans (h.others w hw'), fun id hid' => ?_,
      fun e' he' hne => ?_⟩
    · have hne : id ≠ e.externalId := fun heq => hid' e (by simp) heq.symm
      rw [hw.untouched id hne]
      exact h.unwritten id (hearlier id hid')
    · rcases List.mem_append.mp he' with hold | hnew
      · -- an earlier entity: the write left its row alone
        obtain ⟨r, hr, hfields⟩ := h.written e' hold hne
        exact ⟨r, (hw.untouched _ (hfresh e' hold)).trans hr, hfields⟩
      · -- this entity: written over the row it had, which is the row it had at the start
        rw [List.mem_singleton.mp hnew]
        obtain ⟨r, hr, hfields⟩ := hw.written
        refine ⟨r, hr, fun f => ?_⟩
        rw [hfields f, hF, priorFields_congr (h.unwritten _ hfresh)]

/-- A pass keeps what each of its writes keeps: sleeping between entities keeps it, and so does
the write of each entity from the state the earlier ones left. -/
theorem syncEntities_triple (cfg : SyncConfig) (I : List Entity → Backends → Prop)
    (entities : List Entity) (first : Bool)
    (hsleep : ∀ done ms, Triple (I done) (Backends.sleep ms) fun _ => I done)
    (hstep : ∀ done e rest, done ++ e :: rest = entities →
      Triple (I done) (upsertWithRetry cfg.retry e .update) fun _ => I (done ++ [e])) :
    Triple (I []) (syncEntities cfg entities first) fun _ => I entities := by
  unfold syncEntities
  -- the entities still to write, after `done`, from any accumulator
  suffices h : ∀ rest done (acc : KindReport × Bool), done ++ rest = entities →
      Triple (I done) (rest.foldlM _ acc) fun _ => I entities from h entities [] _ rfl
  intro rest
  induction rest with
  | nil =>
    intro done acc hdone
    rw [List.append_nil] at hdone
    subst hdone
    exact Triple.pure fun _ hb => hb
  | cons e rest ih =>
    intro done acc hdone
    rw [List.foldlM_cons]
    refine Triple.bind ?_ fun acc' => ih (done ++ [e]) acc' (by simpa using hdone)
    dsimp only
    split
    · exact Triple.bind (hsleep done _) fun _ => Triple.bind (hstep done e rest hdone) fun r => by
        cases r <;> exact Triple.pure fun _ hb => hb
    · exact Triple.bind (hstep done e rest hdone) fun r => by
        cases r <;> exact Triple.pure fun _ hb => hb

/-- The fields a pass writes for an entity of its kind are those read against the store the pass
started from: a department's fields read no row, and the staff pass leaves the department rows
alone. -/
theorem PassInv.syncedFields_eq {k : Kind} (h : PassInv d (mappingFor k) s₀ done b) {e : Entity}
    (hk : e.kind = k) : syncedFields b.store e = syncedFields s₀ e := by
  cases k with
  | department => simp only [syncedFields, hk]
  | staff => exact syncedFields_of_rows (h.others .department (by decide)) e

/-- The next entity of the directory's list keeps a pass of its kind going: its external id is
none of the earlier ones', it belongs to the pass's tenant and kind, and for the staff pass every
listed department still has the row it had when the pass started. -/
theorem PassInv.next {k : Kind} {tenant : String} (h : PassInv d (mappingFor k) s₀ done b)
    (hd : d.failure = none) (hdir : d.WellFormed)
    (hcover : k = .staff → DepartmentsInRows d s₀ tenant) (policy : RetryPolicy) {e : Entity}
    {rest : List Entity} (hsplit : done ++ e :: rest = d.entities tenant k) :
    PassInv d (mappingFor k) s₀ (done ++ [e]) ((upsertWithRetry policy e .update).run b).2 := by
  have he : e ∈ d.entities tenant k := by simp [← hsplit]
  obtain ⟨htenant, hk⟩ := hdir.placed tenant k e he
  have hfresh : ∀ e' ∈ done, e'.externalId ≠ e.externalId := by
    have hnodup := hdir.nodup tenant k
    rw [← hsplit, List.map_append, List.map_cons, List.nodup_append] at hnodup
    exact fun e' he' => hnodup.2.2 _ (List.mem_map_of_mem he') _ List.mem_cons_self
  refine h.step hd policy hfresh (by rw [hk]) (h.syncedFields_eq hk) fun hstaff => ?_
  rw [htenant, h.directory]
  exact (hcover (hk ▸ hstaff)).of_rows (h.others .department (by rw [← hk, hstaff]; decide))

/-- With sync enabled and no failure pending, a full sync of one kind lists the directory's
entities of that kind and writes each of them: the pass ends with all of them written. -/
theorem fullSyncKind_pass (cfg : SyncConfig) (hon : cfg.staffSyncEnabled = true) (tenant : String)
    (k : Kind) (first : Bool) (hd : d.failure = none) (hdir : d.WellFormed)
    (hcover : k = .staff → DepartmentsInRows d s₀ tenant) (h : PassInv d (mappingFor k) s₀ [] b) :
    ∃ r b', (fullSyncKind cfg tenant k first).run.run b = (.ok r, b') ∧
      PassInv d (mappingFor k) s₀ (d.entities tenant k) b' := by
  have hpass := syncEntities_triple cfg (fun done b' => PassInv d (mappingFor k) s₀ done b')
    (d.entities tenant k) first (fun _ _ _ hb => hb.of_store rfl rfl rfl)
    (fun _ _ _ hsplit _ hb => hb.next hd hdir hcover cfg.retry hsplit) b h
  refine ⟨((syncEntities cfg (d.entities tenant k) first).run b).1, _, ?_, hpass⟩
  have hlist := list_quiet (h.directory ▸ hd) tenant k
  rw [h.directory] at hlist
  simp only [fullSyncKind, hon, Bool.not_true, Bool.false_eq_true, if_false]
  rw [run_ok_bind hlist]
  rfl

end Pass

section Sync

/-- A full sync of both kinds, with sync enabled and no failure waiting: the department pass
writes every department from the store the sync starts with, then the staff pass writes every
staff member from the store the department pass left. -/
theorem fullSyncAll_passes (cfg : SyncConfig) (hon : cfg.staffSyncEnabled = true) (tenant : String)
    {b : Backends} (hq : NoFailures b) (hsound : StoreSound b.store)
    (hdir : b.directory.WellFormed) :
    ∃ report b₁ b', (fullSyncAll cfg tenant).run.run b = (.ok report, b') ∧
      PassInv b.directory (mappingFor .department) b.store
        (b.directory.entities tenant .department) b₁ ∧
      PassInv b.directory (mappingFor .staff) b₁.store (b.directory.entities tenant .staff) b' := by
  obtain ⟨⟨departments, first⟩, b₁, hrun₁, hpass₁⟩ := fullSyncKind_pass cfg hon tenant .department
    true hq.directory hdir (fun h => nomatch h) (PassInv.start rfl hq.store hq.waiting hsound)
  have hcover : DepartmentsInRows b.directory b₁.store tenant := fun e he hid => by
    obtain ⟨r, hr, -⟩ := hpass₁.written e he hid
    have hrow : rowOf b₁.store departmentMapping e.externalId = some r := hr
    rw [hrow]
    rfl
  obtain ⟨⟨staff, last⟩, b', hrun₂, hpass₂⟩ := fullSyncKind_pass cfg hon tenant .staff first
    hq.directory hdir (fun _ => hcover) (PassInv.start hpass₁.directory hpass₁.quiet hpass₁.waiting hpass₁.sound)
  refine ⟨{ departments, staff }, b₁, b', ?_, hpass₁, hpass₂⟩
  simp only [fullSyncAll]
  rw [run_ok_bind hrun₁]
  dsimp only
  rw [run_ok_bind hrun₂]
  rfl

/-- A full sync with sync enabled, from a sound record store and a well-formed directory with no
failure waiting anywhere, succeeds and keeps the store sound. Every entity the directory lists for
the tenant with an external id is then held by exactly one row of its worksheet, and that row
holds each field the sync writes for the entity with the written value and every other field as
the row held it before the sync (a row the sync created holds only its row id besides). -/
theorem full_sync_writes_each_entity_over_its_row (cfg : SyncConfig) (tenant : String)
    (b : Backends) (hon : cfg.staffSyncEnabled = true) (hq : NoFailures b)
    (hsound : StoreSound b.store) (hdir : b.directory.WellFormed) :
    ∃ report b', (fullSyncAll cfg tenant).run.run b = (.ok report, b') ∧ StoreSound b'.store ∧
      ∀ k, ∀ e ∈ b.directory.entities tenant k, e.externalId ≠ "" →
        holding k e.externalId b'.store = 1 ∧
        ∃ r, rowOf b'.store (mappingFor k) e.externalId = some r ∧
          ∀ f, r.fields.get? f = ((syncedFields b'.store e).get? f).or
            ((priorFields b.store (mappingFor k) e.externalId r.rowId).get? f) := by
  obtain ⟨report, b₁, b', hrun, hpass₁, hpass₂⟩ :=
    fullSyncAll_passes cfg hon tenant hq hsound hdir
  refine ⟨report, b', hrun, hpass₂.sound, fun k e he hid => ?_⟩
  obtain ⟨-, hk⟩ := hdir.placed tenant k e he
  have hmirror :
      Mirrors (mappingFor k) (syncedFields b'.store e) b.store b'.store e.externalId := by
    cases k with
    | department =>
      -- written by the department pass; the staff pass left the department rows alone
      have hfields : syncedFields b'.store e = syncedFields b.store e := by
        simp only [syncedFields, hk]
      rw [hfields]
      exact (hpass₁.written e he hid).of_rows rfl (hpass₂.others .department (by decide))
    | staff =>
      -- written by the staff pass, over the staff rows the department pass left alone
      rw [hpass₂.syncedFields_eq hk]
      exact (hpass₂.written e he hid).of_rows (hpass₁.others .staff (by decide)).symm rfl
  obtain ⟨r, hr, hfields⟩ := hmirror
  exact ⟨holding_of_rowOf (hpass₂.sound k) hr hid, r, hr, hfields⟩

theorem full_sync_of_one_department :
    let b : Backends :=
      { directory := ({} : MemoryDirectory).put (.new .department "corp" "d1" 0) }
    ({} : SyncConfig).staffSyncEnabled = true ∧ NoFailures b ∧ StoreSound b.store ∧
      b.directory.WellFormed ∧
      ∃ report b', (fullSyncAll {} "corp").run.run b = (.ok report, b') ∧ StoreSound b'.store ∧
        ∀ k, ∀ e ∈ b.directory.entities "corp" k, e.externalId ≠ "" →
          holding k e.externalId b'.store = 1 ∧
          ∃ r, rowOf b'.store (mappingFor k) e.externalId = some r ∧
            ∀ f, r.fields.get? f = ((syncedFields b'.store e).get? f).or
              ((priorFields b.store (mappingFor k) e.externalId r.rowId).get? f) := by
  intro b
  have hq : NoFailures b := ⟨⟨fun _ => rfl⟩, rfl, rfl⟩
  have hdir : b.directory.WellFormed := MemoryDirectory.wellFormed_empty.put _
  exact ⟨rfl, hq, storeSound_empty, hdir,
    full_sync_writes_each_entity_over_its_row {} "corp" b rfl hq storeSound_empty hdir⟩

/-- A full sync does not make the rows mirror the directory. Updates merge, so a department row
that held a name keeps it after the department lost its name; and with two department rows under
one row id, one external id each, syncing the department of the second writes its external id
into the first as well. -/
theorem full_sync_keeps_stale_fields :
    let stale : Backends :=
      { store := { rows := fun w => if w = .department then
          [⟨"r1", .department, [("69660ddb84223902b9ec7a72", .str "d1"),
            ("69660ddb84223902b9ec7a73", .str "Old"), ("rowid", .str "r1")]⟩] else [] },
        directory := ({} : MemoryDirectory).put (.new .department "corp" "d1" 0) }
    let twins : Backends :=
      { store := { rows := fun w => if w = .department then
          [⟨"r1", .department, [("69660ddb84223902b9ec7a72", .str "a"), ("rowid", .str "r1")]⟩,
           ⟨"r1", .department, [("69660ddb84223902b9ec7a72", .str "b"), ("rowid", .str "r1")]⟩]
          else [] },
        directory := ({} : MemoryDirectory).put (.new .department "corp" "b" 0) }
    (Keyed departmentMapping.externalIdField (stale.store.rows .department) ∧
      (departmentMapping.buildFields (.new .department "corp" "d1" 0)).map (·.1) =
        [departmentMapping.externalIdField] ∧
      ((rowOf ((fullSyncAll {} "corp").run.run stale).2.store departmentMapping "d1").map
        fun r => fieldText r.fields "69660ddb84223902b9ec7a73") = some "Old") ∧
    (Keyed departmentMapping.externalIdField (twins.store.rows .department) ∧
      holding .department "b" ((fullSyncAll {} "corp").run.run twins).2.store = 2) := by
  intro stale twins
  constructor
  · decide +kernel
  · decide +kernel

end Sync

end RosterSync.Sync

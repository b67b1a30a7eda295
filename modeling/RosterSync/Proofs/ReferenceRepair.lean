import RosterSync.Proofs.RowWrites

/-!
Reference repair links a staff member to the right department rows.

Resolving a list of department ids looks each id up among the department rows; an id with no row
is read from the directory and, when the directory knows it, the department is created and looked
up again. Resolving never fails: an id that fails at any step is dropped.

Whatever fails, resolving only appends department rows (`Repaired`): each appended row is the
directory's department of an id of the list that no row held, written under a created row id,
and no two appended rows hold the same id. So a store with one department row per external id
keeps that property. Every row id it answers is, in order, the department row of the id it
stands for. With no failure waiting, it answers the rows of exactly the ids that had a row or
that the directory knows, in the order of the list and with repeats (`linkedRows`).

The proof is a loop invariant over the ids resolved so far (`filterMapM_triple`), carried by one
lemma about a single id (`resolveOne_step`).
-/

namespace RosterSync.Sync

open RosterSync.Json RosterSync.Record RosterSync.Directory RosterSync.Mapping
open RosterSync.Record.MemoryStore

/-- The external id a department row holds in its title field. -/
def deptTitle (r : Row) : String := fieldText r.fields departmentMapping.externalIdField

/-- The department of an id among a tenant's departments, as a read of the directory answers. -/
def departmentOf (deps : List Entity) (id : String) : Option Entity :=
  deps.find? (·.externalId == id)

/-- The row id of the department row of `id` among `rows`: the first row holding it, which every
lookup of `id` answers. -/
def linkOf (rows : List Row) (id : String) : Option String :=
  (rows.find? fun r => (Filter.eq departmentMapping.externalIdField id).matches r.fields).map
    (·.rowId)

/-- A department row that reference repair created: the directory's department of a nonempty id,
written under a created row id. -/
def RepairRow (deps : List Entity) (r : Row) : Prop :=
  ∃ dep n, departmentOf deps dep.externalId = some dep ∧ dep.externalId ≠ "" ∧
    r = departmentRow dep (createdRowId n)

/-- The department rows after resolving the ids `ds`: the rows before, then rows that repair
created, each for its own id of `ds` that no row held before. -/
def Repaired (deps : List Entity) (ds : List String) (old new : List Row) : Prop :=
  ∃ added, new = old ++ added ∧ (added.map deptTitle).Nodup ∧
    ∀ r ∈ added, RepairRow deps r ∧ deptTitle r ∈ ds ∧ ∀ x ∈ old, deptTitle x ≠ deptTitle r

/-- What resolving the one id `d` did to the department rows, from `rows` to `rows'`, answering
`o`: it appended nothing, or the row repair created for `d` when no row held it; and a row id it
answered is the department row of `d` after it. -/
structure ResolvedOne (deps : List Entity) (d : String) (rows rows' : List Row) (o : Option String) :
    Prop where
  rows : rows' = rows ∨
    ∃ r, rows' = rows ++ [r] ∧ RepairRow deps r ∧ deptTitle r = d ∧ ∀ x ∈ rows, deptTitle x ≠ d
  answer : ∀ id, o = some id → linkOf rows' d = some id

section Links

variable {rows : List Row} {d : String}

theorem linkOf_rows (s : MemoryStore) (id : String) :
    linkOf (s.rows .department) id = (rowOf s departmentMapping id).map (·.rowId) := rfl

theorem linkOf_eq_none_iff : linkOf rows d = none ↔ ∀ x ∈ rows, deptTitle x ≠ d := by
  simp [linkOf, matches_eq, deptTitle]

theorem linkOf_append_of_isSome (h : (linkOf rows d).isSome) (added : List Row) :
    linkOf (rows ++ added) d = linkOf rows d := by
  simp only [linkOf, List.find?_append] at h ⊢
  cases hfind : rows.find? fun r => (Filter.eq departmentMapping.externalIdField d).matches r.fields
  · simp [hfind] at h
  · rfl

theorem linkOf_append_of_not_holding {added : List Row} (h : ∀ r ∈ added, deptTitle r ≠ d) :
    linkOf (rows ++ added) d = linkOf rows d := by
  have hnone : linkOf added d = none := linkOf_eq_none_iff.mpr h
  simp only [linkOf, List.find?_append, Option.map_or] at hnone ⊢
  rw [hnone, Option.or_none]

theorem linkOf_append_new {r : Row} (hnone : ∀ x ∈ rows, deptTitle x ≠ d) (hr : deptTitle r = d) :
    linkOf (rows ++ [r]) d = some r.rowId := by
  have hfree : linkOf rows d = none := linkOf_eq_none_iff.mpr hnone
  simp only [linkOf, List.find?_append, Option.map_or] at hfree ⊢
  rw [hfree, Option.none_or]
  simp [matches_eq, ← hr, deptTitle]

theorem departmentRow_title (dep : Entity) (rowId : String) (hid : dep.externalId ≠ "") :
    deptTitle (departmentRow dep rowId) = dep.externalId := by
  have htitle := (buildFields_title .department dep hid).text
  have hne : departmentMapping.externalIdField ≠ "rowid" := mappingFor_title_ne_rowid .department
  simp only [deptTitle, departmentRow]
  rw [fieldText_insert_ne _ _ hne]
  exact htitle

theorem departmentOf_externalId {deps : List Entity} {id : String} {dep : Entity}
    (h : departmentOf deps id = some dep) : dep.externalId = id := by
  simpa using List.find?_some h

end Links

section Calls

/-- A read of the directory takes its pending failure and keeps the entities: it fails, or
answers the entity of the key. -/
theorem get?_spec (tenant : String) (kind : Kind) (id : String) (b : Backends) :
    ∃ r dir, (directoryCall (MemoryDirectory.get? tenant kind id)).run.run b =
        (r, { b with directory := dir }) ∧ dir.entities = b.directory.entities ∧
      dir.failure = none ∧
      ((∃ e, r = .error e) ∨ r = .ok ((b.directory.entities tenant kind).find? (·.externalId == id))) ∧
      (b.directory.failure = none →
        r = .ok ((b.directory.entities tenant kind).find? (·.externalId == id))) := by
  obtain ⟨store, ⟨entities, _ | failure⟩, contacts, kv, clock, now⟩ := b
  · exact ⟨_, _, rfl, rfl, rfl, .inr rfl, fun _ => rfl⟩
  · exact ⟨_, _, rfl, rfl, rfl, .inl ⟨_, rfl⟩, fun h => by cases h⟩

end Calls

section Step

/-- Resolving one id, whatever fails, keeps the directory's entities and the other worksheets, and
changes the department rows as `ResolvedOne` says. With no failure waiting, it answers the row of
the id after it, which exists exactly when the id had a row or the directory knows it under a
nonempty id. -/
theorem resolveOne_step (tenant d : String) (b : Backends) :
    ∃ o s' dir, (resolveOne tenant d).run b = (o, { b with store := s', directory := dir }) ∧
      dir.entities = b.directory.entities ∧
      (∀ w, w ≠ .department → s'.rows w = b.store.rows w) ∧
      ResolvedOne (b.directory.entities tenant .department) d (b.store.rows .department)
        (s'.rows .department) o ∧
      (NoFailures b → Quiet s' ∧ dir.failure = none ∧ o = linkOf (s'.rows .department) d ∧
        (o.isSome ↔ (linkOf (b.store.rows .department) d).isSome ∨
          d ≠ "" ∧ (departmentOf (b.directory.entities tenant .department) d).isSome)) := by
  obtain ⟨r₁, s₁, hlook, hsame, hans, hq₁⟩ := lookup_spec departmentMapping d b
  have hrows₁ : s₁.rows = b.store.rows := hsame.rows
  unfold resolveOne
  rw [run_bind_eq hlook]
  rcases hans with ⟨se, rfl⟩ | rfl
  · -- the lookup failed: the id is dropped
    exact ⟨none, s₁, b.directory, rfl, rfl, fun w _ => congrFun hrows₁ w,
      ⟨.inl (congrFun hrows₁ _), fun _ h => (by cases h)⟩,
      fun hq => absurd (hq₁ hq.store hq.waiting).1 (by simp)⟩
  cases hfound : rowOf b.store departmentMapping d with
  | some row =>
    have hlink : linkOf (s₁.rows .department) d = some row.rowId := by
      rw [linkOf_rows, rowOf_of_rows (congrFun hrows₁ _), hfound]
      rfl
    refine ⟨some row.rowId, s₁, b.directory, rfl, rfl, fun w _ => congrFun hrows₁ w,
      ⟨.inl (congrFun hrows₁ _), fun id h => by cases h; exact hlink⟩,
      fun hq => ⟨(hq₁ hq.store hq.waiting).2, hq.directory, hlink.symm, ?_⟩⟩
    rw [← congrFun hrows₁, hlink]
    simp
  | none =>
    have hnone : ∀ x ∈ b.store.rows .department, deptTitle x ≠ d := rowOf_eq_none_iff.mp hfound
    have hfree : linkOf (s₁.rows .department) d = none := by
      rw [congrFun hrows₁]
      exact linkOf_eq_none_iff.mpr hnone
    obtain ⟨r₂, dir₂, hget, hent, hfail, hans₂, hq₂⟩ :=
      get?_spec tenant .department d { b with store := s₁ }
    dsimp only
    rw [run_bind_eq hget]
    rcases hans₂ with ⟨e, rfl⟩ | rfl
    · -- the directory read failed: the id is dropped
      exact ⟨none, s₁, dir₂, rfl, hent, fun w _ => congrFun hrows₁ w,
        ⟨.inl (congrFun hrows₁ _), fun _ h => (by cases h)⟩,
        fun hq => absurd (hq₂ hq.directory) (by simp)⟩
    cases hdep : departmentOf (b.directory.entities tenant .department) d with
    | none =>
      have hread : (b.directory.entities tenant .department).find? (·.externalId == d) = none := hdep
      rw [hread]
      refine ⟨none, s₁, dir₂, rfl, hent, fun w _ => congrFun hrows₁ w,
        ⟨.inl (congrFun hrows₁ _), fun _ h => (by cases h)⟩,
        fun hq => ⟨(hq₁ hq.store hq.waiting).2, hfail, hfree.symm, ?_⟩⟩
      rw [← congrFun hrows₁, hfree]
      simp
    | some dep =>
      have hread : (b.directory.entities tenant .department).find? (·.externalId == d) = some dep :=
        hdep
      have hdid : dep.externalId = d := departmentOf_externalId hdep
      rw [hread]
      dsimp only
      have hnone₁ : rowOf s₁ departmentMapping dep.externalId = none := by
        rw [hdid, rowOf_of_rows (congrFun hrows₁ _)]
        exact hfound
      obtain ⟨r₃, s₃, hup, hothers₃, hres₃, hq₃⟩ :=
        upsertDepartment_create_absent dep { b with store := s₁, directory := dir₂ } hnone₁
      rw [run_bind_eq hup]
      rcases hres₃ with ⟨⟨err, rfl⟩, hrows₃⟩ | ⟨hid, ⟨o₃, rfl⟩, hrows₃⟩
      · -- the creation failed: the id is dropped
        refine ⟨none, s₃, dir₂, rfl, hent, fun w hw => (hothers₃ w hw).trans (congrFun hrows₁ w),
          ⟨.inl (hrows₃.trans (congrFun hrows₁ _)), fun _ h => (by cases h)⟩, fun hq => ?_⟩
        -- with no failure waiting, only a department without an external id is refused
        have hd : d = "" := by
          by_contra hne
          exact absurd ((hq₃ (hq₁ hq.store hq.waiting).2 hq.waiting).2 (hdid ▸ hne)) (by simp)
        have hlink : linkOf (s₃.rows .department) d = none := by
          rw [hrows₃]
          exact hfree
        refine ⟨(hq₃ (hq₁ hq.store hq.waiting).2 hq.waiting).1, hfail, hlink.symm, ?_⟩
        rw [← congrFun hrows₁, hfree]
        simp [hd]
      · -- the department was created: the next lookup finds its row
        let new := departmentRow dep (createdRowId (s₁.created + 1))
        have hrows₃' : s₃.rows .department = b.store.rows .department ++ [new] := by
          rw [hrows₃, congrFun hrows₁]
        have htitle : deptTitle new = d := (departmentRow_title dep _ hid).trans hdid
        have hrepair : RepairRow (b.directory.entities tenant .department) new :=
          ⟨dep, s₁.created + 1, hdid ▸ hdep, hid, rfl⟩
        obtain ⟨r₄, s₄, hlook₄, hsame₄, hans₄, hq₄⟩ :=
          lookup_spec departmentMapping d { b with store := s₃, directory := dir₂ }
        have hgrown : s₄.rows .department = b.store.rows .department ++ [new] := by
          rw [hsame₄.rows]
          exact hrows₃'
        have hothers₄ : ∀ w, w ≠ .department → s₄.rows w = b.store.rows w := fun w hw => by
          rw [hsame₄.rows]
          exact (hothers₃ w hw).trans (congrFun hrows₁ w)
        have hnew : linkOf (s₄.rows .department) d = some new.rowId := by
          rw [hgrown]
          exact linkOf_append_new hnone htitle
        dsimp only
        rw [run_bind_eq hlook₄]
        rcases hans₄ with ⟨se, rfl⟩ | rfl
        · exact ⟨none, s₄, dir₂, rfl, hent, hothers₄,
            ⟨.inr ⟨new, hgrown, hrepair, htitle, hnone⟩, fun _ h => (by cases h)⟩,
            fun hq => absurd (hq₄ (hq₃ (hq₁ hq.store hq.waiting).2 hq.waiting).1 hq.waiting).1 (by simp)⟩
        · have hlink : linkOf (s₄.rows .department) d = (rowOf s₃ departmentMapping d).map (·.rowId) := by
            rw [hsame₄.rows]
            rfl
          cases hfound₄ : rowOf s₃ departmentMapping d with
          | none =>
            rw [hfound₄] at hlink
            exact absurd (hlink.symm.trans hnew) (by simp)
          | some row =>
            rw [hfound₄] at hlink
            refine ⟨some row.rowId, s₄, dir₂, rfl, hent, hothers₄,
              ⟨.inr ⟨new, hgrown, hrepair, htitle, hnone⟩, fun id h => by cases h; exact hlink⟩,
              fun hq => ⟨(hq₄ (hq₃ (hq₁ hq.store hq.waiting).2 hq.waiting).1 hq.waiting).2, hfail, hlink.symm, ?_⟩⟩
            simp [hid, ← hdid]

end Step

section Loop

/-- A loop over ids keeps what each of its steps keeps: `I done links` holds after the ids `done`,
whose steps answered `links`. -/
theorem filterMapM_triple {f : String → Run (Option String)}
    (I : List String → List String → Backends → Prop)
    (hstep : ∀ done d links, Triple (I done links) (f d) fun o => I (done ++ [d]) (links ++ o.toList))
    (rest done links : List String) :
    Triple (I done links) (rest.filterMapM f) fun ls => I (done ++ rest) (links ++ ls) := by
  induction rest generalizing done links with
  | nil => exact Triple.pure fun b hb => by simpa using hb
  | cons d rest ih =>
    rw [List.filterMapM_cons]
    refine Triple.bind (hstep done d links) fun o => ?_
    cases o with
    | none =>
      exact (ih (done ++ [d]) (links ++ [])).mono (fun _ h => h) fun _ _ h => by simpa using h
    | some id =>
      exact Triple.bind (ih (done ++ [d]) (links ++ [id])) fun _ =>
        Triple.pure fun _ h => by simpa using h

/-- What resolving the ids `done`, answering `links`, kept of a state whose rows were `rows₀` and
whose departments of the tenant are `deps`: the directory, the other worksheets, department rows
only appended by repair, and every answered row id the row of its id, in order. -/
structure ResolveInv (tenant : String) (deps : List Entity) (rows₀ : Worksheet → List Row)
    (done links : List String) (b : Backends) : Prop where
  entities : b.directory.entities tenant .department = deps
  others : ∀ w, w ≠ .department → b.store.rows w = rows₀ w
  repaired : Repaired deps done (rows₀ .department) (b.store.rows .department)
  linked : ∃ kept, kept.Sublist done ∧
    List.Forall₂ (fun d id => linkOf (b.store.rows .department) d = some id) kept links

/-- What resolving the ids `done` with no failure waiting also kept: no failure waits, the answers
are the rows of the ids, and an id has a row exactly when it had one or the directory knows it. -/
structure ResolveQuiet (deps : List Entity) (rows₀ : List Row) (done links : List String)
    (b : Backends) : Prop where
  quiet : NoFailures b
  links : links = done.filterMap (linkOf (b.store.rows .department))
  found : ∀ d ∈ done, (linkOf (b.store.rows .department) d).isSome ↔
    (linkOf rows₀ d).isSome ∨ d ≠ "" ∧ (departmentOf deps d).isSome

section Invariant

variable {tenant : String} {deps : List Entity} {rows₀ : Worksheet → List Row}
  {done links : List String} {b : Backends}

theorem ResolveInv.start (b : Backends) :
    ResolveInv tenant (b.directory.entities tenant .department) b.store.rows [] [] b :=
  ⟨rfl, fun _ _ => rfl, ⟨[], by simp, List.nodup_nil, fun _ h => (by cases h)⟩,
    ⟨[], List.Sublist.slnil, List.Forall₂.nil⟩⟩

theorem RepairRow.resolvable {r : Row} (h : RepairRow deps r) :
    deptTitle r ≠ "" ∧ (departmentOf deps (deptTitle r)).isSome := by
  obtain ⟨dep, n, hdep, hid, rfl⟩ := h
  rw [departmentRow_title dep _ hid]
  exact ⟨hid, by simp [hdep]⟩

/-- Among rows that repair appended to `old`, an id has a row exactly when it had one in `old` or
repair could create it. -/
theorem Repaired.isSome_iff {ds : List String} {old new : List Row} (h : Repaired deps ds old new)
    (d : String) :
    ((linkOf new d).isSome ∨ d ≠ "" ∧ (departmentOf deps d).isSome) ↔
      ((linkOf old d).isSome ∨ d ≠ "" ∧ (departmentOf deps d).isSome) := by
  obtain ⟨added, rfl, -, hadded⟩ := h
  by_cases hres : d ≠ "" ∧ (departmentOf deps d).isSome
  · simp [hres]
  · -- an id repair cannot create is held by no appended row
    have hnot : ∀ r ∈ added, deptTitle r ≠ d := fun r hr heq =>
      hres (heq ▸ ((hadded r hr).1.resolvable))
    rw [linkOf_append_of_not_holding hnot]

theorem ResolveInv.step (h : ResolveInv tenant deps rows₀ done links b) (d : String) :
    ResolveInv tenant deps rows₀ (done ++ [d]) (links ++ ((resolveOne tenant d).run b).1.toList)
      ((resolveOne tenant d).run b).2 := by
  obtain ⟨o, s', dir, hrun, hent, hothers, hone, -⟩ := resolveOne_step tenant d b
  rw [hrun]
  rw [h.entities] at hone
  obtain ⟨added, hrows, hnodup, hadded⟩ := h.repaired
  obtain ⟨kept, hsub, hall⟩ := h.linked
  -- the rows before the step only grow, so every earlier answer still names its row
  have hkeep : ∀ d' id, linkOf (b.store.rows .department) d' = some id →
      linkOf (s'.rows .department) d' = some id := fun d' id hlink => by
    rcases hone.rows with hsame | ⟨r, hgrow, -⟩
    · rw [hsame]
      exact hlink
    · rw [hgrow, linkOf_append_of_isSome (by simp [hlink])]
      exact hlink
  refine ⟨by rw [hent]; exact h.entities, fun w hw => (hothers w hw).trans (h.others w hw), ?_, ?_⟩
  · rcases hone.rows with hsame | ⟨r, hgrow, hrepair, htitle, hnone⟩
    · refine ⟨added, hsame.trans hrows, hnodup, fun r hr => ?_⟩
      obtain ⟨hrep, hin, hold⟩ := hadded r hr
      exact ⟨hrep, List.mem_append_left _ hin, hold⟩
    · refine ⟨added ++ [r], by rw [hgrow, hrows, List.append_assoc], ?_, fun x hx => ?_⟩
      · rw [List.map_append, List.nodup_append]
        refine ⟨hnodup, by simp, fun t ht t' ht' heq => ?_⟩
        obtain ⟨x, hx, rfl⟩ := List.mem_map.mp ht
        rw [List.map_singleton, List.mem_singleton] at ht'
        exact hnone x (by rw [hrows]; exact List.mem_append_right _ hx) (heq.trans (ht'.trans htitle))
      · rcases List.mem_append.mp hx with hx | hx
        · obtain ⟨hrep, hin, hold⟩ := hadded x hx
          exact ⟨hrep, List.mem_append_left _ hin, hold⟩
        · rw [List.mem_singleton] at hx
          subst hx
          refine ⟨hrepair, by simp [htitle], fun y hy => ?_⟩
          rw [htitle]
          exact hnone y (by rw [hrows]; exact List.mem_append_left _ hy)
  · cases o with
    | none =>
      refine ⟨kept, hsub.trans (List.sublist_append_left _ _), ?_⟩
      simpa using hall.imp fun {d' id} hlink => hkeep d' id hlink
    | some id =>
      refine ⟨kept ++ [d], hsub.append (List.Sublist.refl _), ?_⟩
      exact List.rel_append (hall.imp fun {d' id} hlink => hkeep d' id hlink)
        (List.Forall₂.cons (hone.answer id rfl) List.Forall₂.nil)

/-- With no failure waiting, a step keeps the answers the rows of their ids: an id resolved
earlier had a row already, or could not get one, so the step leaves its row as it was. -/
theorem ResolveQuiet.step (h : ResolveInv tenant deps rows₀ done links b)
    (hq : ResolveQuiet deps (rows₀ .department) done links b) (d : String) :
    ResolveQuiet deps (rows₀ .department) (done ++ [d])
      (links ++ ((resolveOne tenant d).run b).1.toList) ((resolveOne tenant d).run b).2 := by
  obtain ⟨o, s', dir, hrun, -, -, hone, hquiet⟩ := resolveOne_step tenant d b
  rw [hrun]
  rw [h.entities] at hone hquiet
  obtain ⟨hq', hfail, ho, hiff⟩ := hquiet hq.quiet
  have hsame : ∀ d' ∈ done, linkOf (s'.rows .department) d' = linkOf (b.store.rows .department) d' := by
    intro d' hd'
    rcases hone.rows with hsame | ⟨r, hgrow, hrepair, htitle, hnone⟩
    · rw [hsame]
    · rw [hgrow]
      by_cases hd : d' = d
      · -- `d` came before without a row, so repair could not create it then, nor now
        subst hd
        have hfree : linkOf (b.store.rows .department) d' = none := linkOf_eq_none_iff.mpr hnone
        have hnot := (hq.found d' hd').not.mp (by simp [hfree])
        exact absurd (Or.inr (htitle ▸ hrepair.resolvable)) hnot
      · exact linkOf_append_of_not_holding fun x hx => by
          rw [List.mem_singleton.mp hx, htitle]
          exact Ne.symm hd
  refine ⟨⟨hq', hq.quiet.waiting, hfail⟩, ?_, fun d' hd' => ?_⟩
  · show links ++ o.toList = (done ++ [d]).filterMap (linkOf (s'.rows .department))
    rw [List.filterMap_append, List.filterMap_congr hsame, ← hq.links, ho]
    simp only [List.filterMap_cons, List.filterMap_nil]
    cases linkOf (s'.rows .department) d <;> rfl
  · rcases List.mem_append.mp hd' with hd' | hd'
    · rw [hsame d' hd']
      exact hq.found d' hd'
    · rw [List.mem_singleton.mp hd', ← ho, hiff]
      exact h.repaired.isSome_iff d

end Invariant

/-- Resolving a list of ids, whatever fails: the directory's entities and the other worksheets
stay, department rows are only appended by repair, and the row ids answered are, in order, the
rows of a sublist of the ids. With no failure waiting, none waits after, the answers are the rows
of all ids in order, and an id has a row after exactly when it had one or the directory knows it
under a nonempty id. -/
theorem resolve_spec (tenant : String) (ds : List String) (b : Backends) :
    let deps := b.directory.entities tenant .department
    let r := (resolve tenant ds).run b
    r.2.directory.entities tenant .department = deps ∧
      Repaired deps ds (b.store.rows .department) (r.2.store.rows .department) ∧
      (∀ w, w ≠ .department → r.2.store.rows w = b.store.rows w) ∧
      (∃ kept, kept.Sublist ds ∧
        List.Forall₂ (fun d id => linkOf (r.2.store.rows .department) d = some id) kept r.1) ∧
      (NoFailures b → NoFailures r.2 ∧ r.1 = ds.filterMap (linkOf (r.2.store.rows .department)) ∧
        ∀ d ∈ ds, (linkOf (r.2.store.rows .department) d).isSome ↔
          (linkOf (b.store.rows .department) d).isSome ∨ d ≠ "" ∧ (departmentOf deps d).isSome) := by
  intro deps r
  let I : List String → List String → Backends → Prop := fun done links b' =>
    ResolveInv tenant deps b.store.rows done links b' ∧
      (NoFailures b → ResolveQuiet deps (b.store.rows .department) done links b')
  have hloop := filterMapM_triple I (fun done d links b' hb' => ⟨hb'.1.step d,
    fun hq => (hb'.2 hq).step hb'.1 d⟩) ds [] [] b
    ⟨ResolveInv.start b, fun hq => ⟨hq, rfl, fun _ h => (by cases h)⟩⟩
  obtain ⟨hinv, hquiet⟩ := hloop
  refine ⟨hinv.entities, hinv.repaired, hinv.others, hinv.linked, fun hq => ?_⟩
  obtain ⟨hq', hlinks, hfound⟩ := hquiet hq
  exact ⟨hq', hlinks, hfound⟩

end Loop

theorem Repaired.keyed {deps : List Entity} {ds : List String} {old new : List Row}
    (h : Repaired deps ds old new) (hkeyed : Keyed departmentMapping.externalIdField old) :
    Keyed departmentMapping.externalIdField new := by
  obtain ⟨added, rfl, hnodup, hadded⟩ := h
  have hpairs : added.Pairwise fun r r' => deptTitle r ≠ deptTitle r' := List.pairwise_map.mp hnodup
  exact List.pairwise_append.mpr ⟨hkeyed, hpairs.imp fun hne hclash => hne hclash.2,
    fun x hx r hr hclash => (hadded r hr).2.2 x hx hclash.2⟩

/-- Resolving department ids against keyed department rows never fails, and whatever fails inside
it the rows stay keyed, only repair appends rows (at most one per id, only for an id the directory
knows and no row held), the other worksheets stay, and the ids answered are, in order, the rows of
a sublist of the ids. With no failure waiting, the answers are the rows of all ids in order,
duplicates kept, and an id has a row exactly when it had one or the directory knows it. -/
theorem resolve_links_department_rows (tenant : String) (ds : List String) (b : Backends)
    (hkeyed : Keyed departmentMapping.externalIdField (b.store.rows .department)) :
    let deps := b.directory.entities tenant .department
    let r := (resolve tenant ds).run b
    Keyed departmentMapping.externalIdField (r.2.store.rows .department) ∧
      Repaired deps ds (b.store.rows .department) (r.2.store.rows .department) ∧
      (∀ w, w ≠ .department → r.2.store.rows w = b.store.rows w) ∧
      (∃ kept, kept.Sublist ds ∧
        List.Forall₂ (fun d id => linkOf (r.2.store.rows .department) d = some id) kept r.1) ∧
      (NoFailures b → r.1 = ds.filterMap (linkOf (r.2.store.rows .department)) ∧
        ∀ d ∈ ds, (linkOf (r.2.store.rows .department) d).isSome ↔
          (linkOf (b.store.rows .department) d).isSome ∨ d ≠ "" ∧ (departmentOf deps d).isSome) := by
  obtain ⟨-, hrepaired, hothers, hlinked, hquiet⟩ := resolve_spec tenant ds b
  exact ⟨hrepaired.keyed hkeyed, hrepaired, hothers, hlinked, fun hq => (hquiet hq).2⟩

/-- A directory of the tenant that knows department d1. -/
def knowsD1 : Backends :=
  { directory := { entities := fun t k => if t = "corp" ∧ k = .department then
      [.new .department "corp" "d1" 0] else [] } }

theorem resolve_d1_twice_stays_keyed :
    Keyed departmentMapping.externalIdField (knowsD1.store.rows .department) ∧
      Keyed departmentMapping.externalIdField
        (((resolve "corp" ["d1", "d1"]).run knowsD1).2.store.rows .department) :=
  ⟨by decide, (resolve_links_department_rows "corp" ["d1", "d1"] knowsD1 (by decide)).1⟩

end RosterSync.Sync

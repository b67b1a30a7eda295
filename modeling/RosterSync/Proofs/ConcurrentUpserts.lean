import Mathlib.Logic.Relation
import RosterSync.Proofs.Tasks

/-!
Concurrent upserts add rows only for external ids no row held.

`Interleaving` runs the tasks of a `Config` in any order, one call at a time, with failures
queued on the record store and any change of what the store does not hold (the failures waiting
for its calls, the directory, the clock, the cursors and locks) in between. Tasks whose writes rest on their own lookups (`Good`),
started on a store whose row ids are distinct and none of them an id the store creates later,
keep that (`Kept`): no row changes its id or external id, no row goes away, and the rows added
hold external ids that no row held at the start (`StoreGrows`). A task's facts stand as the store
grows: the row a lookup found keeps its id and external id, and an external id a lookup found on
no row was on no row at the start, since rows are never removed.

So an external id that a row held at the start keeps exactly its rows
(`concurrent_upserts_add_only_absent_ids`). One no row held can end on two rows when two upserts
both look it up before either creates it (`racing_creates_duplicate_row`): the lookup and the
creation are separate calls and nothing orders them.
-/

namespace RosterSync.Sync

open RosterSync.Json RosterSync.Record RosterSync.Directory RosterSync.Mapping
open RosterSync.Record.MemoryStore

section Interleavings

/-- The id and the external id of each row of the worksheet of a kind, in order. -/
def sheetView (k : Kind) (s : MemoryStore) : List (String × String) :=
  (s.rows (mappingFor k).worksheet).map (keyView (mappingFor k))

theorem holding_eq_count (k : Kind) (id : String) (s : MemoryStore) :
    holding k id s = ((sheetView k s).map Prod.snd).count id := by
  simp [holding, carrying, sheetView, keyView, List.count, List.countP_map, Function.comp_def]

theorem run_map_task {α : Type} (next : α → Task) (x : Run α) (b : Backends) :
    (next <$> x).run b = (next (x.run b).1, (x.run b).2) := rfl

/-- A fact still stands in store `s`, for tasks that started on store `s₀`: the row found still
shows its id and the external id, and an external id found on no row was on no row of `s₀`. -/
def Fact.Holds (s₀ s : MemoryStore) (f : Fact) : Prop :=
  match f.found with
  | some row => (row.rowId, f.id) ∈ sheetView f.kind s
  | none => holding f.kind f.id s₀ = 0

/-- How the store may change while tasks that started on `s₀` run: every row keeps its id and
external id, rows are added only for external ids that no row of `s₀` held, and the count of
created rows never drops. -/
structure StoreGrows (s₀ s s' : MemoryStore) : Prop where
  views : ∀ k, ∃ news, sheetView k s' = sheetView k s ++ news ∧
    ∀ p ∈ news, holding k p.2 s₀ = 0
  created : s.created ≤ s'.created

variable {s₀ s s' s'' : MemoryStore}

theorem StoreGrows.refl (s₀ s : MemoryStore) : StoreGrows s₀ s s :=
  ⟨fun _ => ⟨[], by simp, by simp⟩, Nat.le_refl _⟩

theorem StoreGrows.trans (h : StoreGrows s₀ s s') (h' : StoreGrows s₀ s' s'') :
    StoreGrows s₀ s s'' where
  views k := by
    obtain ⟨news, hview, hnews⟩ := h.views k
    obtain ⟨news', hview', hnews'⟩ := h'.views k
    refine ⟨news ++ news', by rw [hview', hview, List.append_assoc], fun p hp => ?_⟩
    rcases List.mem_append.mp hp with hp | hp
    · exact hnews p hp
    · exact hnews' p hp
  created := Nat.le_trans h.created h'.created

theorem StoreGrows.of_sameRows (h : SameRows s s') : StoreGrows s₀ s s' :=
  ⟨fun k => ⟨[], by simp [sheetView, h.rows], by simp⟩, Nat.le_of_eq h.created.symm⟩

theorem Fact.Holds.grows {f : Fact} (hf : f.Holds s₀ s) (hg : StoreGrows s₀ s s') :
    f.Holds s₀ s' := by
  unfold Fact.Holds at hf ⊢
  cases hfound : f.found with
  | none => simpa [hfound] using hf
  | some row =>
    rw [hfound] at hf
    obtain ⟨news, hview, -⟩ := hg.views f.kind
    rw [hview]
    exact List.mem_append_left _ hf

theorem Fact.holds_of_answer {k : Kind} {id : String} {found : Option Row}
    (hg : StoreGrows s₀ s₀ s)
    (hans : LookupAnswer (mappingFor k) id (s.rows (mappingFor k).worksheet) found) :
    Fact.Holds s₀ s ⟨k, id, found⟩ := by
  cases found with
  | some row => exact List.mem_map.mpr ⟨row, hans.1, by simp [keyView, hans.2]⟩
  | none =>
    show holding k id s₀ = 0
    obtain ⟨news, hview, -⟩ := hg.views k
    rw [holding_eq_count, List.count_eq_zero]
    intro hmem
    obtain ⟨p, hp, hid⟩ := List.mem_map.mp hmem
    have hp' : p ∈ sheetView k s := by rw [hview]; exact List.mem_append_left _ hp
    obtain ⟨row, hrow, rfl⟩ := List.mem_map.mp hp'
    exact hans row hrow hid

/-- A write confined to the worksheet of kind `k`, whose view of that worksheet grows, grows the
store. -/
theorem StoreGrows.of_sheet (k : Kind)
    (hview : ∃ news, sheetView k s' = sheetView k s ++ news ∧ ∀ p ∈ news, holding k p.2 s₀ = 0)
    (hother : ∀ w, w ≠ (mappingFor k).worksheet → s'.rows w = s.rows w)
    (hcreated : s.created ≤ s'.created) : StoreGrows s₀ s s' where
  views k' := by
    by_cases hkk : k' = k
    · subst hkk
      exact hview
    · refine ⟨[], ?_, by simp⟩
      rw [List.append_nil, sheetView, sheetView,
        hother _ fun heq => hkk (mappingFor_worksheet_inj heq)]
  created := hcreated

theorem idsSound_of_sheet (k : Kind) (hids : ∀ k', IdsSound s (mappingFor k'))
    (hk : IdsSound s' (mappingFor k))
    (hother : ∀ w, w ≠ (mappingFor k).worksheet → s'.rows w = s.rows w)
    (hcreated : s.created ≤ s'.created) : ∀ k', IdsSound s' (mappingFor k') := by
  intro k'
  by_cases hkk : k' = k
  · subst hkk
    exact hk
  · exact (hids k').of_rows (hother _ fun heq => hkk (mappingFor_worksheet_inj heq)) hcreated

/-- An update of the row a standing fact found, with fields that keep its external id, shows the
same rows. -/
theorem update_grows (k : Kind) (row : Row) {fields : Fields} {id : String}
    (hids : ∀ k', IdsSound s (mappingFor k')) (hfact : Fact.Holds s₀ s ⟨k, id, some row⟩)
    (htitle : TitleHolds (mappingFor k) fields id) :
    (∀ k', IdsSound ((updateRow (mappingFor k).worksheet row.rowId fields).run s).2
      (mappingFor k')) ∧
      StoreGrows s₀ s ((updateRow (mappingFor k).worksheet row.rowId fields).run s).2 := by
  rcases updateRow_spec (mappingFor k).worksheet row.rowId fields s with
    ⟨e, -, hsame⟩ | ⟨i, hi, -, hcreated, hrows⟩
  · exact ⟨fun k' => (hids k').of_rows (congrFun hsame.rows _) (Nat.le_of_eq hsame.created.symm),
      .of_sameRows hsame⟩
  · -- the fact names a row of that id which holds `id`, and the update writes `id` there again
    obtain ⟨r, hr, hview⟩ := List.mem_map.mp (show (row.rowId, id) ∈ sheetView k s from hfact)
    have hrid : r.rowId = row.rowId := congrArg Prod.fst hview
    have hrtext : fieldText r.fields (mappingFor k).externalIdField = id := congrArg Prod.snd hview
    have hi' : (s.rows (mappingFor k).worksheet).findIdx? (·.rowId == r.rowId) = some i :=
      hrid ▸ hi
    have hkeep : ∀ kv ∈ fields, kv.1 = (mappingFor k).externalIdField →
        (valueText? kv.2).getD "" = fieldText r.fields (mappingFor k).externalIdField :=
      fun kv hkv h => (htitle.only kv hkv h).trans hrtext.symm
    have hsheet : sheetView k ((updateRow (mappingFor k).worksheet row.rowId fields).run s).2 =
        sheetView k s := by
      rw [sheetView, sheetView, hrows]
      simpa using keyView_modify (hids k).nodup hi' hr hkeep
    have hother : ∀ w, w ≠ (mappingFor k).worksheet →
        ((updateRow (mappingFor k).worksheet row.rowId fields).run s).2.rows w = s.rows w :=
      fun w hw => by rw [hrows]; simp [hw]
    exact ⟨idsSound_of_sheet k hids ((hids k).of_view hsheet (Nat.le_of_eq hcreated.symm))
        hother (Nat.le_of_eq hcreated.symm),
      .of_sheet k ⟨[], by rw [hsheet, List.append_nil], by simp⟩ hother
        (Nat.le_of_eq hcreated.symm)⟩

/-- A creation after a lookup that found no row adds one row, under a fresh id, for an external
id that no row of the start held. -/
theorem create_grows (k : Kind) {fields : Fields} {id : String}
    (hids : ∀ k', IdsSound s (mappingFor k')) (hfact : Fact.Holds s₀ s ⟨k, id, none⟩)
    (htitle : TitleHolds (mappingFor k) fields id) :
    (∀ k', IdsSound ((createRow (mappingFor k).worksheet fields).run s).2 (mappingFor k')) ∧
      StoreGrows s₀ s ((createRow (mappingFor k).worksheet fields).run s).2 := by
  rcases createRow_spec (mappingFor k).worksheet fields s with
    ⟨e, -, hsame⟩ | ⟨-, hcreated, hrows⟩
  · exact ⟨fun k' => (hids k').of_rows (congrFun hsame.rows _) (Nat.le_of_eq hsame.created.symm),
      .of_sameRows hsame⟩
  · have hsheet : sheetView k ((createRow (mappingFor k).worksheet fields).run s).2 =
        sheetView k s ++ [(createdRowId (s.created + 1), id)] := by
      rw [sheetView, sheetView, rows_of_insert hrows, List.map_append]
      simp [keyView, fieldText_insert_ne _ _ (mappingFor_title_ne_rowid k), htitle.text]
    have hother : ∀ w, w ≠ (mappingFor k).worksheet →
        ((createRow (mappingFor k).worksheet fields).run s).2.rows w = s.rows w :=
      fun w hw => by rw [hrows]; simp [MemoryStore.insertRow, hw]
    have hgrown : s.created ≤ ((createRow (mappingFor k).worksheet fields).run s).2.created := by
      rw [hcreated]
      omega
    exact ⟨idsSound_of_sheet k hids ((hids k).create hrows hcreated) hother hgrown,
      .of_sheet k ⟨_, hsheet, fun p hp => by rw [List.mem_singleton] at hp; subst hp; exact hfact⟩
        hother hgrown⟩

theorem sameRows_rowsOnly (s : MemoryStore) : RowsOnly fun b => SameRows s b.store :=
  fun _ _ hrows hcreated h => ⟨hrows.trans h.rows, hcreated.trans h.created⟩

/-- A write that follows a lookup whose fact still stands keeps row ids sound and grows the
store, from any store with the rows of `s`. -/
theorem writeRow_grows (k : Kind) (existing : Option Row) {fields : Fields} {id : String}
    (hids : ∀ k', IdsSound s (mappingFor k')) (hfact : Fact.Holds s₀ s ⟨k, id, existing⟩)
    (htitle : TitleHolds (mappingFor k) fields id) :
    Triple (fun b => SameRows s b.store) (writeRow (mappingFor k) existing fields).run
      fun _ b => (∀ k', IdsSound b.store (mappingFor k')) ∧ StoreGrows s₀ s b.store := by
  have hfrom : ∀ {s'}, SameRows s s' →
      (∀ k', IdsSound s' (mappingFor k')) ∧ StoreGrows s₀ s s' ∧ Fact.Holds s₀ s' ⟨k, id, existing⟩ :=
    fun hs => ⟨fun k' => (hids k').of_rows (congrFun hs.rows _) (Nat.le_of_eq hs.created.symm),
      .of_sameRows hs, hfact.grows (.of_sameRows hs)⟩
  cases existing with
  | some row =>
    refine Triple.exceptBind (R := fun _ b => (∀ k', IdsSound b.store (mappingFor k')) ∧
      StoreGrows s₀ s b.store) ?_ (fun _ => Triple.pure fun _ h => h) fun _ _ h => h
    refine Triple.storeCall (sameRows_rowsOnly s) fun b hb => ?_
    obtain ⟨hids', hgrown, hfact'⟩ := hfrom hb
    obtain ⟨hids'', hg⟩ := update_grows k row hids' hfact' htitle
    exact ⟨hids'', hgrown.trans hg⟩
  | none =>
    refine Triple.exceptBind (R := fun _ b => (∀ k', IdsSound b.store (mappingFor k')) ∧
      StoreGrows s₀ s b.store) ?_ (fun _ => Triple.pure fun _ h => h) fun _ _ h => h
    refine Triple.storeCall (sameRows_rowsOnly s) fun b hb => ?_
    obtain ⟨hids', hgrown, hfact'⟩ := hfrom hb
    obtain ⟨hids'', hg⟩ := create_grows k hids' hfact' htitle
    exact ⟨hids'', hgrown.trans hg⟩

/-- One call of a good task whose facts stand keeps the row ids sound, grows the store, and
leaves a good task whose facts stand. -/
theorem Task.call_kept {Γ : List Fact} {t : Task} {x : Run Task} {b : Backends}
    (hgood : Good Γ t) (hfacts : ∀ f ∈ Γ, f.Holds s₀ b.store)
    (hids : ∀ k, IdsSound b.store (mappingFor k)) (hgrown : StoreGrows s₀ s₀ b.store)
    (hcall : t.call = some x) :
    (∀ k, IdsSound (x.run b).2.store (mappingFor k)) ∧ StoreGrows s₀ b.store (x.run b).2.store ∧
      ∃ Γ', Good Γ' (x.run b).1 ∧ ∀ f ∈ Γ', f.Holds s₀ (x.run b).2.store := by
  have hsame : ∀ {b' : Backends}, SameRows b.store b'.store →
      (∀ k, IdsSound b'.store (mappingFor k)) ∧ StoreGrows s₀ b.store b'.store :=
    fun hs => ⟨fun k => (hids k).of_rows (congrFun hs.rows _) (Nat.le_of_eq hs.created.symm),
      .of_sameRows hs⟩
  cases hgood with
  | done => cases hcall
  | find _ k id next herr hok =>
    cases hcall
    rw [run_map_task]
    obtain ⟨hrows, hans⟩ := lookup_triple (sameRows_rowsOnly b.store) (mappingFor k) id b
      (SameRows.refl _)
    obtain ⟨hids', hg⟩ := hsame hrows
    refine ⟨hids', hg, ?_⟩
    cases hr : ((lookup (mappingFor k) id).run.run b).1 with
    | error e => exact ⟨Γ, herr e, fun f hf => (hfacts f hf).grows hg⟩
    | ok found =>
      refine ⟨⟨k, id, found⟩ :: Γ, hok found, fun f hf => ?_⟩
      rcases List.mem_cons.mp hf with rfl | hold
      · exact Fact.holds_of_answer (hgrown.trans hg) (hans found hr)
      · exact (hfacts f hold).grows hg
  | put _ k existing fields next id hfact htitle hnext =>
    cases hcall
    rw [run_map_task]
    obtain ⟨hids', hg⟩ := writeRow_grows k existing hids (hfacts _ hfact) htitle b (SameRows.refl _)
    exact ⟨hids', hg, Γ, hnext _, fun f hf => (hfacts f hf).grows hg⟩
  | readDepartment _ tenant id next hnext =>
    cases hcall
    rw [run_map_task]
    obtain ⟨hids', hg⟩ := hsame (Triple.directoryCall (sameRows_rowsOnly b.store)
      (MemoryDirectory.get? tenant .department id) b (SameRows.refl _))
    exact ⟨hids', hg, Γ, hnext _, fun f hf => (hfacts f hf).grows hg⟩
  | sleep _ ms next hnext =>
    cases hcall
    rw [run_map_task]
    obtain ⟨hids', hg⟩ := hsame (sleep_triple (sameRows_rowsOnly b.store) ms b (SameRows.refl _))
    exact ⟨hids', hg, Γ, hnext, fun f hf => (hfacts f hf).grows hg⟩

structure Config where
  tasks : List Task
  backends : Backends

/-- One move of tasks running at once: a task makes its next call, failures are queued on the
record store, or something the record store does not hold changes (the failures waiting for its
calls, the directory and the failures it will report, the clock, the cursors and locks). -/
inductive Interleaving : Config → Config → Prop
  | call (pre post : List Task) (t : Task) (x : Run Task) (b : Backends) :
      t.call = some x →
      Interleaving ⟨pre ++ t :: post, b⟩ ⟨pre ++ (x.run b).1 :: post, (x.run b).2⟩
  | failStore (tasks : List Task) (b : Backends) (op : Operation) (err : StoreError) (times : Nat) :
      Interleaving ⟨tasks, b⟩ ⟨tasks, { b with store := b.store.failNext op err times }⟩
  | world (tasks : List Task) (b b' : Backends) :
      b'.store = b.store → Interleaving ⟨tasks, b⟩ ⟨tasks, b'⟩

theorem Interleaving.next (pre post : List Task) (t : Task) (b : Backends)
    (h : t.call.isSome) :
    Interleaving ⟨pre ++ t :: post, b⟩
      ⟨pre ++ ((t.call.get h).run b).1 :: post, ((t.call.get h).run b).2⟩ :=
  .call pre post t _ b (Option.some_get h).symm

/-- What every interleaving keeps of tasks that started on the store `s₀`: row ids stay sound,
the rows of the start stay with their ids and external ids, and each task's facts stand. -/
structure Kept (s₀ : MemoryStore) (c : Config) : Prop where
  ids : ∀ k, IdsSound c.backends.store (mappingFor k)
  grows : StoreGrows s₀ s₀ c.backends.store
  tasks : ∀ t ∈ c.tasks, ∃ Γ, Good Γ t ∧ ∀ f ∈ Γ, f.Holds s₀ c.backends.store

theorem Kept.of_sameRows {tasks : List Task} {b b' : Backends} (hk : Kept s₀ ⟨tasks, b⟩)
    (hs : SameRows b.store b'.store) : Kept s₀ ⟨tasks, b'⟩ where
  ids k := (hk.ids k).of_rows (congrFun hs.rows _) (Nat.le_of_eq hs.created.symm)
  grows := hk.grows.trans (.of_sameRows hs)
  tasks t ht := by
    obtain ⟨Γ, hgood, hfacts⟩ := hk.tasks t ht
    exact ⟨Γ, hgood, fun f hf => (hfacts f hf).grows (.of_sameRows hs)⟩

theorem Kept.step {c c' : Config} (hk : Kept s₀ c) (h : Interleaving c c') : Kept s₀ c' := by
  cases h with
  | call pre post t x b hcall =>
    obtain ⟨Γ, hgood, hfacts⟩ := hk.tasks t (by simp)
    obtain ⟨hids, hg, Γ', hgood', hfacts'⟩ := Task.call_kept hgood hfacts hk.ids hk.grows hcall
    refine ⟨hids, hk.grows.trans hg, fun t' ht' => ?_⟩
    -- the task that moved has its new facts; the others keep theirs as the store grows
    rcases List.mem_append.mp ht' with hpre | hrest
    · obtain ⟨Γ'', hgood'', hfacts''⟩ := hk.tasks t' (by simp [hpre])
      exact ⟨Γ'', hgood'', fun f hf => (hfacts'' f hf).grows hg⟩
    · rcases List.mem_cons.mp hrest with rfl | hpost
      · exact ⟨Γ', hgood', hfacts'⟩
      · obtain ⟨Γ'', hgood'', hfacts''⟩ := hk.tasks t' (by simp [hpost])
        exact ⟨Γ'', hgood'', fun f hf => (hfacts'' f hf).grows hg⟩
  | failStore tasks b op err times => exact hk.of_sameRows (failNext_sameRows b.store op err times)
  | world tasks b b' hstore => exact hk.of_sameRows ⟨by rw [hstore], by rw [hstore]⟩

theorem Kept.reachable {c₀ c : Config} (hk : Kept s₀ c₀)
    (hrun : Relation.ReflTransGen Interleaving c₀ c) : Kept s₀ c := by
  induction hrun with
  | refl => exact hk
  | tail _ hstep ih => exact ih.step hstep

end Interleavings

end RosterSync.Sync

import Mathlib.Data.List.Nodup
import Mathlib.Data.String.Basic
import RosterSync.Proofs.Frame

/-!
Facts about the in-memory backends that the sync proofs read.

The directory: an entity found after putting `e` is `e` or was there before; removing and
setting a failure add nothing; a change list is the tenant's entities of the kind changed strictly
after the given time. Putting and removing keep the directory well formed (`WellFormed`): each
list holds entities of its own tenant and kind, in strictly increasing order of external id.

The cursor and lock store: taking and releasing locks leaves every cursor where it was, and
advancing a stored cursor moves it to the later of itself and the new time floored to a second.
Flooring to a second never moves a time forward and keeps the order of times.
-/

namespace RosterSync.Storage

theorem floorToSecond_eq (t : Int) : floorToSecond t = t / 1000 * 1000 := by
  rw [floorToSecond, Int.fdiv_eq_ediv_of_nonneg t (by decide)]

theorem floorToSecond_le (t : Int) : floorToSecond t ≤ t := by
  rw [floorToSecond_eq]
  omega

theorem floorToSecond_mono {a b : Int} (h : a ≤ b) : floorToSecond a ≤ floorToSecond b := by
  rw [floorToSecond_eq, floorToSecond_eq]
  omega

namespace MemoryKv

theorem load_tryAcquire (kv : MemoryKv) (name : String) (lease clock : Nat) (t : String) :
    (kv.tryAcquire name lease clock).1.load t = kv.load t := by
  unfold tryAcquire
  split <;> rfl

theorem load_release (kv : MemoryKv) (token : LockToken) (t : String) :
    (kv.release token).1.load t = kv.load t := by
  unfold release
  split
  · split <;> rfl
  · rfl

private theorem find?_map_set (cs : List (String × Int)) (t : String) (v : Int)
    (h : (cs.find? (·.1 == t)).isSome) :
    ((cs.map fun c => if c.1 == t then (t, v) else c).find? (·.1 == t)).map (·.2) = some v := by
  induction cs with
  | nil => simp at h
  | cons c cs ih =>
    by_cases hc : c.1 = t
    · simp [hc]
    · have hrest : (cs.find? (·.1 == t)).isSome := by simpa [hc] using h
      have hskip : (c.1 == t) = false := by simpa using hc
      simp only [List.map_cons, hskip, Bool.false_eq_true, ↓reduceIte, List.find?_cons]
      exact ih hrest

theorem load_advance (kv : MemoryKv) (t : String) (time c : Int) (h : kv.load t = some c) :
    (kv.advance t time).1.load t = some (max c (floorToSecond time)) := by
  unfold advance
  rw [h]
  by_cases hlt : c < floorToSecond time
  · have hpresent : (kv.cursors.find? (·.1 == t)).isSome := by
      unfold load at h
      cases hf : kv.cursors.find? (·.1 == t) with
      | none => simp [hf] at h
      | some _ => rfl
    simp only [hlt, ↓reduceIte]
    rw [show max c (floorToSecond time) = floorToSecond time by omega]
    exact find?_map_set kv.cursors t _ hpresent
  · simp only [hlt, ↓reduceIte]
    rw [show max c (floorToSecond time) = c by omega]
    exact h

end MemoryKv

end RosterSync.Storage

namespace RosterSync.Directory

namespace MemoryDirectory

theorem mem_insertByExternalId {e e' : Entity} {l : List Entity}
    (h : e' ∈ insertByExternalId e l) : e' = e ∨ e' ∈ l := by
  induction l with
  | nil => simpa [insertByExternalId] using h
  | cons x rest ih =>
    unfold insertByExternalId at h
    split at h
    · rcases List.mem_cons.mp h with rfl | hrest
      · exact .inl rfl
      · exact .inr (List.mem_cons_of_mem x hrest)
    · split at h
      · rcases List.mem_cons.mp h with rfl | hrest
        · exact .inl rfl
        · exact .inr hrest
      · rcases List.mem_cons.mp h with rfl | hrest
        · exact .inr List.mem_cons_self
        · exact (ih hrest).imp_right (List.mem_cons_of_mem x)

theorem mem_put {d : MemoryDirectory} {e e' : Entity} {t : String} {k : Kind}
    (h : e' ∈ (d.put e).entities t k) : e' = e ∨ e' ∈ d.entities t k := by
  simp only [put] at h
  split at h
  · exact mem_insertByExternalId h
  · exact .inr h

theorem mem_remove {d : MemoryDirectory} {tenant t externalId : String} {kind k : Kind}
    {e' : Entity} (h : e' ∈ (d.remove tenant kind externalId).entities t k) :
    e' ∈ d.entities t k := by
  simp only [remove] at h
  split at h
  · exact (List.mem_filter.mp h).1
  · exact h

/-- What the directory keeps of its lists: each holds entities of its own tenant and kind, in
strictly increasing order of external id, so no external id twice. -/
structure WellFormed (d : MemoryDirectory) : Prop where
  placed : ∀ t k, ∀ e ∈ d.entities t k, e.tenantId = t ∧ e.kind = k
  sorted : ∀ t k, ((d.entities t k).map (·.externalId)).Pairwise (· < ·)

theorem WellFormed.nodup {d : MemoryDirectory} (h : d.WellFormed) (t : String) (k : Kind) :
    ((d.entities t k).map (·.externalId)).Nodup :=
  List.Pairwise.nodup (h.sorted t k)

theorem wellFormed_empty : WellFormed {} :=
  ⟨fun _ _ _ h => (nomatch h), fun _ _ => List.Pairwise.nil⟩

theorem sorted_insertByExternalId {l : List Entity} (h : (l.map (·.externalId)).Pairwise (· < ·))
    (e : Entity) : ((insertByExternalId e l).map (·.externalId)).Pairwise (· < ·) := by
  induction l with
  | nil => simp [insertByExternalId]
  | cons x rest ih =>
    obtain ⟨hhead, hrest⟩ := List.pairwise_cons.mp h
    simp only [List.mem_map] at hhead
    unfold insertByExternalId
    split
    · rename_i heq
      simpa [heq] using h
    · split
      · -- `e` goes first, below `x` and so below every later entity
        rename_i hlt
        refine List.pairwise_cons.mpr ⟨?_, h⟩
        simp only [List.map_cons, List.mem_cons, List.mem_map]
        rintro y (rfl | ⟨z, hz, rfl⟩)
        · exact hlt
        · exact lt_trans hlt (hhead _ ⟨z, hz, rfl⟩)
      · rename_i hne hnlt
        have hgt : x.externalId < e.externalId := (lt_or_gt_of_ne hne).resolve_left hnlt
        refine List.pairwise_cons.mpr ⟨?_, ih hrest⟩
        simp only [List.mem_map]
        rintro y ⟨z, hz, rfl⟩
        rcases mem_insertByExternalId hz with rfl | hold
        · exact hgt
        · exact hhead _ ⟨z, hold, rfl⟩

theorem WellFormed.put {d : MemoryDirectory} (h : d.WellFormed) (e : Entity) :
    (d.put e).WellFormed where
  placed t k e' he' := by
    rcases mem_put he' with rfl | hold
    · simp only [MemoryDirectory.put] at he'
      split at he'
      · rename_i hkey
        exact ⟨hkey.1.symm, hkey.2.symm⟩
      · -- the lists of other keys hold only their own entities
        exact h.placed t k _ he'
    · exact h.placed t k e' hold
  sorted t k := by
    simp only [MemoryDirectory.put]
    split
    · exact sorted_insertByExternalId (h.sorted t k) e
    · exact h.sorted t k

theorem WellFormed.remove {d : MemoryDirectory} (h : d.WellFormed) (tenant : String) (kind : Kind)
    (externalId : String) : (d.remove tenant kind externalId).WellFormed where
  placed t k e' he' := h.placed t k e' (mem_remove he')
  sorted t k := by
    simp only [MemoryDirectory.remove]
    split
    · exact (h.sorted t k).sublist (List.filter_sublist.map _)
    · exact h.sorted t k

end MemoryDirectory

end RosterSync.Directory

namespace RosterSync.Sync

open RosterSync.Directory RosterSync.Storage

theorem listChangedSince_unmoved {b b' : Backends} {t : String} {k : Kind} {since : Int}
    {r : Except SyncError (List Entity)}
    (h : (directoryCall (MemoryDirectory.listChangedSince t k since)).run.run b = (r, b')) :
    Backends.Unmoved b b' := by
  have := directoryCall_unmoved (MemoryDirectory.listChangedSince_entities t k since) b
  rwa [h] at this

/-- A change list that comes back is the tenant's entities of the kind changed strictly after the
time. -/
theorem listChangedSince_ok {b b' : Backends} {t : String} {k : Kind} {since : Int}
    {changed : List Entity}
    (h : (directoryCall (MemoryDirectory.listChangedSince t k since)).run.run b =
      (.ok changed, b')) :
    changed = (b.directory.entities t k).filter (fun e => decide (e.updatedAt > since)) := by
  rcases b with ⟨store, ⟨entities, _ | failure⟩, contacts, kv, clock, now⟩
  · simp only [directoryCall, Backends.inDirectory, MemoryDirectory.listChangedSince,
      MemoryDirectory.checkFailure] at h
    cases h
    rfl
  · simp only [directoryCall, Backends.inDirectory, MemoryDirectory.listChangedSince,
      MemoryDirectory.checkFailure] at h
    cases h

@[simp] theorem tryAcquire_run (name : String) (lease : Nat) (b : Backends) :
    (tryAcquire name lease).run b = ((b.kv.tryAcquire name lease b.clock).2,
      { b with kv := (b.kv.tryAcquire name lease b.clock).1 }) := rfl

@[simp] theorem releaseLock_run (t : LockToken) (b : Backends) :
    (releaseLock t).run b = ((b.kv.release t).2, { b with kv := (b.kv.release t).1 }) := rfl

@[simp] theorem persistCursor_run (c : Cursor) (b : Backends) :
    (persistCursor c).run b = ((b.kv.advance c.tenantId c.lastSyncedAt).2,
      { b with kv := (b.kv.advance c.tenantId c.lastSyncedAt).1 }) := rfl

theorem loadSyncCursor_of_load {b : Backends} {tenant : String} {c : Int} (w : Nat)
    (h : b.kv.load tenant = some c) :
    (loadSyncCursor tenant w).run b = (some ⟨tenant, c⟩, b) := by
  unfold loadSyncCursor loadCursor
  simp [h]
  rfl

theorem Cursor.initial?_tenantId {tenant : String} {w : Nat} {now : Int} {c : Cursor}
    (h : Cursor.initial? tenant w now = some c) : c.tenantId = tenant := by
  unfold Cursor.initial? at h
  dsimp only at h
  split at h
  · cases h
    rfl
  · cases h

end RosterSync.Sync

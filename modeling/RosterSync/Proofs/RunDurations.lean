import Mathlib
import RosterSync.Proofs.ScheduledCalls

/-!
The durations a scheduled run works with.

Validation accepts a scheduler with a positive interval and a positive lock lease
(`SchedulerConfig.validate_eq_ok_iff`). A scheduled run asks for the lock for the lease in
milliseconds, and in memory a lock taken at monotonic time `clock` is held from `clock` until
exactly `clock` plus the lease, and free from then on. A run that finds no cursor stored starts its
pass one window before the wall clock. The window is the interval in milliseconds while that fits
the signed 64-bit milliseconds of a time difference, and ten minutes past that bound
(`Cursor.windowMs`): it is never longer than the interval, and shorter exactly past the bound.

The program stops instead of answering where a free lock's lease would end past the monotonic
clock's range, or where no date lies one window back. `ScheduledCalls` says where those stops
fall; this module neither promises nor excludes them.
-/

namespace RosterSync

open RosterSync.Sync RosterSync.Storage

/-! ### What validation accepts -/

theorem SchedulerConfig.validate_eq_ok_iff (c : SchedulerConfig) :
    c.validate = .ok () ↔ 0 < c.intervalSecs ∧ 0 < c.lockLeaseSecs := by
  unfold SchedulerConfig.validate
  split_ifs with hi hl <;> simp [Nat.pos_iff_ne_zero, *]

/-- Validation accepts the settings exactly when each check passes, in order: a tenant, the
record store's settings, the scheduler's and a retry with at least one attempt. -/
theorem SyncConfig.validate_eq_ok_iff (c : SyncConfig) :
    c.validate = .ok () ↔ c.tenantId ≠ "" ∧ c.recordStore.validate = .ok () ∧
      c.scheduler.validate = .ok () ∧ 0 < c.retry.maxAttempts := by
  unfold SyncConfig.validate
  by_cases ht : c.tenantId = ""
  · simp [ht, bind, Except.bind, throw, throwThe, MonadExceptOf.throw]
  cases hr : c.recordStore.validate with
  | error e => simp [ht, bind, Except.bind]
  | ok u =>
    cases hs : c.scheduler.validate with
    | error e => simp [ht, bind, Except.bind]
    | ok v =>
      by_cases hm : c.retry.maxAttempts = 0 <;>
        simp [ht, hm, Nat.pos_iff_ne_zero, bind, Except.bind, throw, throwThe,
          MonadExceptOf.throw, pure, Except.pure]

/-! ### The window -/

namespace Sync.Cursor

theorem windowMs_le (s : Nat) : windowMs s ≤ s * 1000 := by
  unfold windowMs
  split_ifs with h
  · have : 600 * 1000 < maxWindowMs := by decide
    omega
  · exact le_rfl

theorem windowMs_eq_iff (s : Nat) : windowMs s = s * 1000 ↔ s * 1000 ≤ maxWindowMs := by
  unfold windowMs
  split_ifs with h
  · have : 600 * 1000 < maxWindowMs := by decide
    omega
  · omega

theorem windowMs_of_gt {s : Nat} (h : maxWindowMs < s * 1000) : windowMs s = 600 * 1000 :=
  if_pos h

theorem windowMs_pos {s : Nat} (h : 0 < s) : 0 < windowMs s := by
  unfold windowMs
  split_ifs <;> omega

theorem initial?_eq_some {tenant : String} {s : Nat} {now : Int} {c : Cursor}
    (h : initial? tenant s now = some c) : c = ⟨tenant, now - windowMs s⟩ := by
  unfold initial? at h
  dsimp only at h
  split_ifs at h
  exact (Option.some.inj h).symm

end Sync.Cursor

/-! ### The lease -/

theorem Storage.MemoryKv.lock?_of_tryAcquire {kv kv' : MemoryKv} {name : String}
    {lease clock : Nat} {t : LockToken} (h : kv.tryAcquire name lease clock = (kv', some t)) :
    kv'.lock? name = some (t.holder, clock + lease) := by
  have htoken := tryAcquire_token kv name lease clock
  have hentry := lock?_tryAcquire kv name name lease clock
  rw [h] at htoken hentry
  by_cases hlocked : kv.isLocked name clock = true
  · rw [if_pos hlocked] at htoken
    cases htoken
  · rw [if_neg hlocked] at htoken
    rw [hentry, if_pos ⟨by simpa using hlocked, rfl⟩]
    cases htoken
    rfl

namespace Sync

variable {cfg : SyncConfig}

/-- A lock the memory lock store hands out is held from the clock it was taken at until exactly
the lease in milliseconds later, and free from then on; the clock does not move. -/
theorem memory_taken_isLocked {b s₁ : Backends} {lock : LockToken}
    (h : (memoryStores cfg).taken cfg b = (some (.ok (some lock)), s₁)) :
    s₁.clock = b.clock ∧ ∀ t, s₁.kv.isLocked cfg.scheduler.taskName t =
      decide (t < b.clock + cfg.scheduler.lockLeaseSecs * 1000) := by
  simp only [RunStores.taken, memoryStores] at h
  split_ifs at h
  · cases h
  obtain ⟨hanswer, rfl⟩ := Prod.mk.inj h
  have htake : b.kv.tryAcquire cfg.scheduler.taskName (cfg.scheduler.lockLeaseSecs * 1000) b.clock =
      ((b.kv.tryAcquire cfg.scheduler.taskName (cfg.scheduler.lockLeaseSecs * 1000) b.clock).1,
        some lock) := by
    simp only [tryAcquire_run, Option.some.injEq, Except.ok.injEq] at hanswer
    rw [← hanswer]
  exact ⟨rfl, MemoryKv.isLocked_of_lock? (MemoryKv.lock?_of_tryAcquire htake)⟩

theorem memory_pass_of_unstored {tenant : String} {b : Backends} {cursor : Cursor}
    (hnone : b.kv.load tenant = none)
    (h : .pass cursor ∈ ((memoryStores cfg).scheduledRun cfg tenant b).calls) :
    cursor = ⟨tenant, b.now - Cursor.windowMs cfg.scheduler.intervalSecs⟩ := by
  obtain ⟨lock, s₁, loaded, s₂, -, htaken, hload, hfrom, -⟩ :=
    ((memoryStores cfg).scheduledRun_path cfg tenant b).pass h
  obtain ⟨rfl, rfl⟩ := Prod.mk.inj ((memory_load tenant s₁).symm.trans hload)
  have hs₁ : ((memoryStores cfg).taken cfg b).2 = s₁ := by rw [htaken]
  have hload₁ : s₁.kv.load = b.kv.load := hs₁ ▸ (memory_acquire_keeps _ _ b).1
  have hnow₁ : s₁.now = b.now := hs₁ ▸ (memory_acquire_keeps _ _ b).2.1
  rw [hload₁, hnone, memory_cursorFrom_now hnow₁] at hfrom
  exact Cursor.initial?_eq_some hfrom

/-- Under settings that validation accepts, a scheduled run in memory asks for the lock for the
lease in milliseconds, and a lock handed out is held from the clock it was taken at until exactly
that lease later. A pass of a run that finds no cursor stored starts one window before the wall
clock; the window is positive, never longer than the interval, equal to it exactly while the
interval fits the bound of a time difference, and ten minutes past it. -/
theorem scheduled_run_lease_and_window (cfg : SyncConfig) (hvalid : cfg.validate = .ok ())
    (tenant : String) (b : Backends) :
    let R := (memoryStores cfg).scheduledRun cfg tenant b
    let w := Cursor.windowMs cfg.scheduler.intervalSecs
    (cfg.staffSyncEnabled = true →
      R.calls.head? = some (.acquire cfg.scheduler.taskName (cfg.scheduler.lockLeaseSecs * 1000))) ∧
      (∀ lock s₁, (memoryStores cfg).taken cfg b = (some (.ok (some lock)), s₁) →
        s₁.kv.isLocked cfg.scheduler.taskName b.clock = true ∧
          ∀ t, s₁.kv.isLocked cfg.scheduler.taskName t =
            decide (t < b.clock + cfg.scheduler.lockLeaseSecs * 1000)) ∧
      (∀ cursor, .pass cursor ∈ R.calls → b.kv.load tenant = none →
        cursor = ⟨tenant, b.now - w⟩) ∧
      0 < w ∧ w ≤ cfg.scheduler.intervalSecs * 1000 ∧
      (w = cfg.scheduler.intervalSecs * 1000 ↔
        cfg.scheduler.intervalSecs * 1000 ≤ Cursor.maxWindowMs) ∧
      (Cursor.maxWindowMs < cfg.scheduler.intervalSecs * 1000 → w = 600 * 1000) := by
  intro R w
  obtain ⟨-, -, hsched, -⟩ := (SyncConfig.validate_eq_ok_iff cfg).mp hvalid
  obtain ⟨hinterval, hlease⟩ := (SchedulerConfig.validate_eq_ok_iff _).mp hsched
  refine ⟨fun hon => ?_, fun lock s₁ htaken => ?_,
    fun cursor hpass hnone => memory_pass_of_unstored hnone hpass, Cursor.windowMs_pos hinterval,
    Cursor.windowMs_le _, Cursor.windowMs_eq_iff _, Cursor.windowMs_of_gt⟩
  · -- the request for the lock is the run's first call
    show (((memoryStores cfg).scheduledRun cfg tenant b).calls).head? = _
    rw [(memoryStores cfg).scheduledRun_enabled hon]
    rfl
  · -- a positive lease holds the lock at the clock it was taken at
    obtain ⟨-, hheld⟩ := memory_taken_isLocked htaken
    refine ⟨?_, hheld⟩
    rw [hheld, decide_eq_true_eq]
    omega

def validConfig : SyncConfig :=
  { tenantId := "corp",
    recordStore := { apiBase := "https://api.example.com", appKey := "key", sign := "sign" } }

/-- A first run under the tested settings, from stores with nothing in them, passes from ten
minutes, its interval, before the wall clock. -/
theorem first_pass_one_interval_back :
    validConfig.validate = .ok () ∧
      ∀ cursor, .pass cursor ∈ ((memoryStores validConfig).scheduledRun validConfig "corp" {}).calls →
        cursor = ⟨"corp", -600000⟩ := by
  have hvalid : validConfig.validate = .ok () := by
    simp [validConfig, SyncConfig.validate, RecordStoreConfig.validate, SchedulerConfig.validate,
      bind, Except.bind, pure, Except.pure]
  have hwindow : Cursor.windowMs validConfig.scheduler.intervalSecs = 600000 :=
    (Cursor.windowMs_eq_iff _).mpr (by decide)
  refine ⟨hvalid, fun cursor h => ?_⟩
  rw [(scheduled_run_lease_and_window validConfig hvalid "corp" {}).2.2.1 cursor h rfl, hwindow]
  rfl

/-- The tested settings with an interval of 9.3 · 10^15 seconds, more milliseconds than a time
difference holds. -/
def longIntervalConfig : SyncConfig :=
  { validConfig with scheduler := { intervalSecs := 9300000000000000 } }

/-- Validation accepts an interval past the bound of a time difference, and the first run then
passes from ten minutes before the wall clock, not from one interval back: the window is
shortened. -/
theorem long_interval_shortened_to_ten_minutes :
    longIntervalConfig.validate = .ok () ∧
      .pass ⟨"corp", -600000⟩ ∈
        ((memoryStores longIntervalConfig).scheduledRun longIntervalConfig "corp" {}).calls ∧
      (-600000 : Int) ≠ ({} : Backends).now - longIntervalConfig.scheduler.intervalSecs * 1000 :=
  ⟨by simp [longIntervalConfig, validConfig, SyncConfig.validate, RecordStoreConfig.validate,
      SchedulerConfig.validate, bind, Except.bind, pure, Except.pure], by decide, by decide⟩

end Sync

end RosterSync

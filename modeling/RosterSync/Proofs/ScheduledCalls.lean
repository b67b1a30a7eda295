import Mathlib
import RosterSync.Proofs.QuietUpserts
import RosterSync.Proofs.CursorStores

/-!
The calls of a scheduled run, over any lock and cursor store.

A scheduled run calls the lock store, the cursor store and the incremental pass, which makes
every directory and record-store call of the run (`RunCall`). `RunStores` is what those calls
may answer, anything a store may answer, failures included: taking the lock may fail, find the
lock held, hand out a token, or stop the program; loading the cursor may fail or find none, and
then the run starts one window back, unless no date lies there and the program stops; the pass
may fail; storing the cursor and releasing the lock may fail, and their failures are only
logged. `RunStores.scheduledRun` is the run over such stores: its answer (none when the program
stopped), the state it leaves and the calls it made, in order.

Every run takes one of six paths (`Path`, `scheduledRun_path`): disabled; stopped, failed or
refused by the lock store; stopped holding the lock when no cursor is stored or loadable and no
date lies one window back; or the locked pass, between loading the cursor and releasing the lock.
So, whatever the stores answer, a disabled run makes no call; a run that could not take the lock
makes no call but that one; a run that took the lock and did not stop calls release once, last,
on its own token, whether the pass completed or failed; and the cursor is stored only after a
pass that completed, as the cursor that pass answered. A run that stops for want of a cursor
releases nothing, and its lock stays held until the lease ends.

The stores in memory make the library's `runScheduled` (`runScheduled_eq`). There the pass fails
only when a listing of the directory fails and moves no cursor, so a run that completed stores its
tenant's cursor as the later of the stored one and the second the pass moved to, and any other run
leaves every cursor as it was.

Several schedulers may share one lock store. A `Fleet` is any number of runs over shared backends,
each before the lock, holding it, or past it; a step (`FleetStep`) is a run asking the lock store in
memory for the lock, releasing it or stopping while it holds it, or any work that leaves the lock
entries, which covers a run's load, pass and store of its cursor and everything else that runs
beside it. A run alone is such a run (`scheduledRun_fleet`). In every interleaving, two runs that
hold a lock of the same name at once took it at least a lease apart: locked passes never overlap
unless one of them outlives its lease (`locked_passes_overlap_only_past_lease`).
-/

namespace RosterSync.Sync

open RosterSync.Record RosterSync.Directory RosterSync.Storage

/-- A call a scheduled run makes: to the lock store, to the cursor store, or the incremental
pass, which makes every directory and record-store call of the run. -/
inductive RunCall where
  | acquire (name : String) (leaseMs : Nat)
  | load (tenant : String)
  | pass (cursor : Cursor)
  | persist (tenant : String) (time : Int)
  | release (token : LockToken)
deriving DecidableEq

/-- What the calls of a scheduled run answer, over a state `σ`. -/
structure RunStores (σ : Type) where
  /-- Takes the lock for a lease; none when the store stops the program. -/
  acquire : String → Nat → σ → Option (Except StorageError (Option LockToken)) × σ
  load : String → σ → Except StorageError (Option Int) × σ
  /-- The cursor one window of seconds back from the wall clock; none when no date lies there
  and the program stops. -/
  fallback : String → Nat → σ → Option Cursor
  /-- The incremental pass from a cursor: the moved cursor and the counts. -/
  pass : Cursor → σ → Except SyncError (Cursor × PassReport) × σ
  advance : String → Int → σ → Except StorageError Bool × σ
  release : LockToken → σ → Except StorageError Bool × σ

/-- How a run of calls ended: its answer, the state it left and the calls it made, in order. -/
structure Ended (α σ : Type) where
  answer : α
  state : σ
  calls : List RunCall

/-- The request for the scheduler's lock under `cfg`, for its lease in milliseconds. -/
def lockRequest (cfg : SyncConfig) : RunCall :=
  .acquire cfg.scheduler.taskName (cfg.scheduler.lockLeaseSecs * 1000)

namespace RunStores

variable {σ : Type} (S : RunStores σ)

/-- The lock store's answer when a run under `cfg` asks for the scheduler's lock, and the state it
leaves. -/
def taken (cfg : SyncConfig) (s : σ) : Option (Except StorageError (Option LockToken)) × σ :=
  S.acquire cfg.scheduler.taskName (cfg.scheduler.lockLeaseSecs * 1000) s

/-- The cursor a pass starts from: the stored one, or one window back when none is stored or the
load failed. -/
def cursorFrom (tenant : String) (windowSecs : Nat) (loaded : Except StorageError (Option Int))
    (s : σ) : Option Cursor :=
  match loaded with
  | .ok (some time) => some ⟨tenant, time⟩
  | _ => S.fallback tenant windowSecs s

/-- The work done while holding the lock: the pass, and the moved cursor stored when the pass
completes. A failure to store it is only logged. -/
def lockedPass (cursor : Cursor) (s : σ) : Ended (Except SyncError ScheduledRun) σ :=
  match (S.pass cursor s).1 with
  | .error e => ⟨.error e, (S.pass cursor s).2, [.pass cursor]⟩
  | .ok (next, report) =>
    ⟨.ok (.completed next report), (S.advance next.tenantId next.lastSyncedAt (S.pass cursor s).2).2,
      [.pass cursor, .persist next.tenantId next.lastSyncedAt]⟩

/-- The run once the lock is taken: load the cursor, run the locked pass, release the lock
whatever the pass did. A failure to release is only logged. -/
def holding (cfg : SyncConfig) (tenant : String) (lock : LockToken) (s : σ) :
    Ended (Option (Except SyncError ScheduledRun)) σ :=
  match S.cursorFrom tenant cfg.scheduler.intervalSecs (S.load tenant s).1 (S.load tenant s).2 with
  | none => ⟨none, (S.load tenant s).2, [.load tenant]⟩
  | some cursor =>
    ⟨some (S.lockedPass cursor (S.load tenant s).2).answer,
      (S.release lock (S.lockedPass cursor (S.load tenant s).2).state).2,
      .load tenant :: (S.lockedPass cursor (S.load tenant s).2).calls ++ [.release lock]⟩

/-- The run after asking for the lock, from the store's answer. -/
def afterAcquire (cfg : SyncConfig) (tenant : String) :
    Option (Except StorageError (Option LockToken)) → σ → Ended (Option (Except SyncError ScheduledRun)) σ
  | none, s => ⟨none, s, []⟩
  | some (.error e), s => ⟨some (.error (.ofStorage e)), s, []⟩
  | some (.ok none), s => ⟨some (.ok .lockHeld), s, []⟩
  | some (.ok (some lock)), s => S.holding cfg tenant lock s

/-- A scheduled run of a tenant: nothing when staff sync is disabled, else take the scheduler's
lock for its lease and go on from the answer. -/
def scheduledRun (cfg : SyncConfig) (tenant : String) (s : σ) :
    Ended (Option (Except SyncError ScheduledRun)) σ :=
  if cfg.staffSyncEnabled = false then ⟨some (.ok .disabled), s, []⟩
  else
    let rest := S.afterAcquire cfg tenant (S.taken cfg s).1 (S.taken cfg s).2
    ⟨rest.answer, rest.state, lockRequest cfg :: rest.calls⟩

/-! ### The paths of a run -/

theorem lockedPass_of_error {cursor : Cursor} {s : σ} {e : SyncError}
    (h : (S.pass cursor s).1 = .error e) :
    S.lockedPass cursor s = ⟨.error e, (S.pass cursor s).2, [.pass cursor]⟩ := by
  unfold lockedPass
  rw [h]

theorem lockedPass_of_ok {cursor next : Cursor} {s : σ} {report : PassReport}
    (h : (S.pass cursor s).1 = .ok (next, report)) :
    S.lockedPass cursor s =
      ⟨.ok (.completed next report), (S.advance next.tenantId next.lastSyncedAt (S.pass cursor s).2).2,
        [.pass cursor, .persist next.tenantId next.lastSyncedAt]⟩ := by
  unfold lockedPass
  rw [h]

theorem lockedPass_no_release (cursor : Cursor) (s : σ) (t : LockToken) :
    .release t ∉ (S.lockedPass cursor s).calls := by
  rcases hpass : (S.pass cursor s).1 with e | ⟨next, report⟩
  · simp [S.lockedPass_of_error hpass]
  · simp [S.lockedPass_of_ok hpass]

theorem lockedPass_persist {cursor : Cursor} {s : σ} {t : String} {time : Int}
    (h : .persist t time ∈ (S.lockedPass cursor s).calls) :
    ∃ report, (S.lockedPass cursor s).answer = .ok (.completed ⟨t, time⟩ report) := by
  rcases hpass : (S.pass cursor s).1 with e | ⟨next, report⟩
  · simp [S.lockedPass_of_error hpass] at h
  · rw [S.lockedPass_of_ok hpass] at h ⊢
    simp only [List.mem_cons, RunCall.persist.injEq, reduceCtorEq, List.not_mem_nil, or_false,
      false_or] at h
    obtain ⟨rfl, rfl⟩ := h
    exact ⟨report, rfl⟩

theorem lockedPass_answer (cursor : Cursor) (s : σ) :
    (S.lockedPass cursor s).answer = (S.pass cursor s).1.map fun p => .completed p.1 p.2 := by
  rcases hpass : (S.pass cursor s).1 with e | ⟨next, report⟩
  · rw [S.lockedPass_of_error hpass]
    rfl
  · rw [S.lockedPass_of_ok hpass]
    rfl

theorem lockedPass_pass {cursor c : Cursor} {s : σ} (h : .pass c ∈ (S.lockedPass cursor s).calls) :
    c = cursor := by
  rcases hpass : (S.pass cursor s).1 with e | ⟨next, report⟩
  · simpa [S.lockedPass_of_error hpass] using h
  · simpa [S.lockedPass_of_ok hpass] using h

/-- The paths of a run, each with how it ends: disabled; stopped, failed or refused by the lock
store; stopped holding the lock when there is no cursor to start from; or the locked pass, run on
the state loading the cursor left and followed by the release of the lock. -/
inductive Path (cfg : SyncConfig) (tenant : String) (s : σ) :
    Ended (Option (Except SyncError ScheduledRun)) σ → Prop
  | disabled : cfg.staffSyncEnabled = false → Path cfg tenant s ⟨some (.ok .disabled), s, []⟩
  | stopped {s₁ : σ} : cfg.staffSyncEnabled = true → S.taken cfg s = (none, s₁) →
      Path cfg tenant s ⟨none, s₁, [lockRequest cfg]⟩
  | failed {e : StorageError} {s₁ : σ} : cfg.staffSyncEnabled = true →
      S.taken cfg s = (some (.error e), s₁) →
      Path cfg tenant s ⟨some (.error (.ofStorage e)), s₁, [lockRequest cfg]⟩
  | held {s₁ : σ} : cfg.staffSyncEnabled = true → S.taken cfg s = (some (.ok none), s₁) →
      Path cfg tenant s ⟨some (.ok .lockHeld), s₁, [lockRequest cfg]⟩
  | noCursor {lock : LockToken} {s₁ s₂ : σ} {loaded : Except StorageError (Option Int)} :
      cfg.staffSyncEnabled = true → S.taken cfg s = (some (.ok (some lock)), s₁) →
      S.load tenant s₁ = (loaded, s₂) → S.cursorFrom tenant cfg.scheduler.intervalSecs loaded s₂ = none →
      Path cfg tenant s ⟨none, s₂, [lockRequest cfg, .load tenant]⟩
  | locked {lock : LockToken} {s₁ s₂ : σ} {loaded : Except StorageError (Option Int)} {cursor : Cursor} :
      cfg.staffSyncEnabled = true → S.taken cfg s = (some (.ok (some lock)), s₁) →
      S.load tenant s₁ = (loaded, s₂) →
      S.cursorFrom tenant cfg.scheduler.intervalSecs loaded s₂ = some cursor →
      Path cfg tenant s ⟨some (S.lockedPass cursor s₂).answer, (S.release lock (S.lockedPass cursor s₂).state).2,
        lockRequest cfg :: .load tenant :: (S.lockedPass cursor s₂).calls ++ [.release lock]⟩

theorem holding_of_load {cfg : SyncConfig} {tenant : String} {lock : LockToken} {s₁ s₂ : σ}
    {loaded : Except StorageError (Option Int)} (hload : S.load tenant s₁ = (loaded, s₂)) :
    S.holding cfg tenant lock s₁ =
      match S.cursorFrom tenant cfg.scheduler.intervalSecs loaded s₂ with
      | none => ⟨none, s₂, [.load tenant]⟩
      | some cursor =>
        ⟨some (S.lockedPass cursor s₂).answer, (S.release lock (S.lockedPass cursor s₂).state).2,
          .load tenant :: (S.lockedPass cursor s₂).calls ++ [.release lock]⟩ := by
  unfold holding
  rw [hload]

theorem scheduledRun_path (cfg : SyncConfig) (tenant : String) (s : σ) :
    S.Path cfg tenant s (S.scheduledRun cfg tenant s) := by
  unfold scheduledRun
  cases hon : cfg.staffSyncEnabled
  · exact .disabled hon
  · rcases htaken : S.taken cfg s with ⟨_ | e | _ | lock, s₁⟩
    · exact .stopped hon htaken
    · exact .failed hon htaken
    · exact .held hon htaken
    · rcases hload : S.load tenant s₁ with ⟨loaded, s₂⟩
      simp only [Bool.true_eq_false, if_false, afterAcquire, S.holding_of_load hload]
      rcases hfrom : S.cursorFrom tenant cfg.scheduler.intervalSecs loaded s₂ with _ | cursor
      · exact .noCursor hon htaken hload hfrom
      · exact .locked hon htaken hload hfrom

theorem scheduledRun_disabled {cfg : SyncConfig} (h : cfg.staffSyncEnabled = false)
    (tenant : String) (s : σ) : S.scheduledRun cfg tenant s = ⟨some (.ok .disabled), s, []⟩ := by
  simp [scheduledRun, h]

theorem scheduledRun_enabled {cfg : SyncConfig} (h : cfg.staffSyncEnabled = true)
    (tenant : String) (s : σ) :
    S.scheduledRun cfg tenant s =
      ⟨(S.afterAcquire cfg tenant (S.taken cfg s).1 (S.taken cfg s).2).answer,
        (S.afterAcquire cfg tenant (S.taken cfg s).1 (S.taken cfg s).2).state,
        lockRequest cfg :: (S.afterAcquire cfg tenant (S.taken cfg s).1 (S.taken cfg s).2).calls⟩ := by
  simp [scheduledRun, h]

section Path

variable {S} {cfg : SyncConfig} {tenant : String} {s : σ} {R : Ended (Option (Except SyncError ScheduledRun)) σ}

/-- A run that asked for the lock, got it and did not stop releases it once, last, and releases no
other token, whether the pass completed or failed. -/
theorem Path.releases (hp : S.Path cfg tenant s R) (hon : cfg.staffSyncEnabled = true)
    {lock : LockToken} (hlock : (S.taken cfg s).1 = some (.ok (some lock))) (hgoes : R.answer ≠ none) :
    R.calls.count (.release lock) = 1 ∧ R.calls.getLast? = some (.release lock) ∧
      ∀ t, .release t ∈ R.calls → t = lock := by
  cases hp with
  | disabled hoff => rw [hon] at hoff; cases hoff
  | stopped => exact (hgoes rfl).elim
  | failed _ htaken => rw [htaken] at hlock; cases hlock
  | held _ htaken => rw [htaken] at hlock; cases hlock
  | noCursor => exact (hgoes rfl).elim
  | @locked lock' s₁ s₂ loaded cursor _ htaken _ _ =>
    rw [htaken] at hlock
    cases hlock
    have hpass := S.lockedPass_no_release cursor s₂
    refine ⟨?_, List.getLast?_concat, fun t ht => ?_⟩
    · simp [lockRequest, List.count_eq_zero_of_not_mem (hpass lock)]
    · simp only [lockRequest, List.cons_append, List.mem_cons, reduceCtorEq, List.mem_append,
        RunCall.release.injEq, List.not_mem_nil, or_false, false_or] at ht
      exact ht.resolve_left (hpass t)

theorem Path.persist (hp : S.Path cfg tenant s R) {t : String} {time : Int}
    (h : .persist t time ∈ R.calls) :
    ∃ report, R.answer = some (.ok (.completed ⟨t, time⟩ report)) := by
  cases hp with
  | locked _ _ _ _ =>
    simp only [lockRequest, List.cons_append, List.mem_cons, reduceCtorEq, List.mem_append,
      List.not_mem_nil, or_false, false_or] at h
    obtain ⟨report, hreport⟩ := S.lockedPass_persist h
    exact ⟨report, by rw [hreport]⟩
  | _ => simp [lockRequest] at h

/-- A run that called the pass took the lock and found the cursor; it answers what the pass
answered on the state loading the cursor left, its failure included, and ends releasing the lock
from the state the locked pass left. -/
theorem Path.pass (hp : S.Path cfg tenant s R) {cursor : Cursor} (h : .pass cursor ∈ R.calls) :
    ∃ lock s₁ loaded s₂, cfg.staffSyncEnabled = true ∧ S.taken cfg s = (some (.ok (some lock)), s₁) ∧
      S.load tenant s₁ = (loaded, s₂) ∧
      S.cursorFrom tenant cfg.scheduler.intervalSecs loaded s₂ = some cursor ∧
      R.answer = some ((S.pass cursor s₂).1.map fun p => .completed p.1 p.2) ∧
      R.calls.head? = some (lockRequest cfg) ∧ R.calls.getLast? = some (.release lock) := by
  cases hp with
  | @locked lock s₁ s₂ loaded c hon htaken hload hfrom =>
    simp only [lockRequest, List.cons_append, List.mem_cons, reduceCtorEq, List.mem_append,
      List.not_mem_nil, or_false, false_or] at h
    obtain rfl := S.lockedPass_pass h
    exact ⟨lock, s₁, loaded, s₂, hon, htaken, hload, hfrom, by rw [lockedPass_answer], rfl,
      List.getLast?_concat⟩
  | _ => simp [lockRequest] at h

/-- A run stops the program only where the lock store stops it, before any other call, or, holding
the lock, after loading the cursor, when there is none to start from; it then releases nothing. -/
theorem Path.stops (hp : S.Path cfg tenant s R) (h : R.answer = none) :
    ((S.taken cfg s).1 = none ∧ R.calls = [lockRequest cfg]) ∨
      ∃ lock, (S.taken cfg s).1 = some (.ok (some lock)) ∧ R.calls = [lockRequest cfg, .load tenant] := by
  cases hp with
  | stopped _ htaken => exact .inl ⟨by rw [htaken], rfl⟩
  | @noCursor lock _ _ _ _ htaken _ _ => exact .inr ⟨lock, by rw [htaken], rfl⟩
  | locked => cases h
  | _ => cases h

/-- A run that completed took the lock and found a cursor, ran a pass that completed, stored the
cursor that pass answered and released the lock. -/
theorem Path.completed (hp : S.Path cfg tenant s R) {next : Cursor} {report : PassReport}
    (h : R.answer = some (.ok (.completed next report))) :
    ∃ lock s₁ loaded s₂ cursor, cfg.staffSyncEnabled = true ∧
      S.taken cfg s = (some (.ok (some lock)), s₁) ∧ S.load tenant s₁ = (loaded, s₂) ∧
      S.cursorFrom tenant cfg.scheduler.intervalSecs loaded s₂ = some cursor ∧
      (S.pass cursor s₂).1 = .ok (next, report) ∧
      R.state = (S.release lock (S.advance next.tenantId next.lastSyncedAt (S.pass cursor s₂).2).2).2 := by
  cases hp with
  | @locked lock s₁ s₂ loaded cursor hon htaken hload hfrom =>
    rcases hpass : (S.pass cursor s₂).1 with e | ⟨next', report'⟩
    · rw [S.lockedPass_of_error hpass] at h
      cases h
    · rw [S.lockedPass_of_ok hpass] at h ⊢
      cases h
      exact ⟨lock, s₁, loaded, s₂, cursor, hon, htaken, hload, hfrom, hpass, rfl⟩
  | _ => cases h

/-- What only storing a cursor moves stays as it was after a run that did not complete: taking
and releasing the lock, loading the cursor and the pass keep it. -/
theorem Path.view_of_not_completed {β : Type} (v : σ → β) (hp : S.Path cfg tenant s R)
    (hacquire : ∀ name lease s, v (S.acquire name lease s).2 = v s)
    (hload : ∀ t s, v (S.load t s).2 = v s) (hpass : ∀ c s, v (S.pass c s).2 = v s)
    (hrelease : ∀ lock s, v (S.release lock s).2 = v s)
    (h : ∀ next report, R.answer ≠ some (.ok (.completed next report))) : v R.state = v s := by
  have htaken : ∀ {a s₁}, S.taken cfg s = (a, s₁) → v s₁ = v s := fun ht => by
    have hkeep : v (S.taken cfg s).2 = v s := hacquire _ _ s
    rwa [ht] at hkeep
  have hloaded : ∀ {t s₁ loaded s₂}, S.load t s₁ = (loaded, s₂) → v s₂ = v s₁ := fun {t s₁ _ _} hl => by
    have hkeep := hload t s₁
    rwa [hl] at hkeep
  cases hp with
  | disabled => rfl
  | stopped _ ht => exact htaken ht
  | failed _ ht => exact htaken ht
  | held _ ht => exact htaken ht
  | noCursor _ ht hl _ => exact (hloaded hl).trans (htaken ht)
  | @locked lock s₁ s₂ loaded cursor _ ht hl _ =>
    rcases hres : (S.pass cursor s₂).1 with e | ⟨next, report⟩
    · rw [S.lockedPass_of_error hres]
      exact (hrelease _ _).trans ((hpass _ _).trans ((hloaded hl).trans (htaken ht)))
    · rw [S.lockedPass_of_ok hres] at h
      exact absurd rfl (h next report)

end Path

end RunStores

/-! ### The stores in memory -/

/-- What a run ended in, as the library's runs answer: a program that stopped answers none. -/
def Ended.toRun {σ : Type} (r : Ended (Option (Except SyncError ScheduledRun)) σ) :
    Except SyncError (Option ScheduledRun) × σ :=
  (r.answer.elim (.ok none) (Except.map some), r.state)

/-- The lock store, cursor store and pass in memory, under a configuration. Taking a free lock
whose lease would end past the monotonic clock stops the program; nothing else fails but the
pass. -/
def memoryStores (cfg : SyncConfig) : RunStores Backends where
  acquire name lease b :=
    if b.kv.leaseOverflows name lease b.clock then (none, b)
    else (some (.ok ((tryAcquire name lease).run b).1), ((tryAcquire name lease).run b).2)
  load tenant b := (.ok ((loadCursor tenant).run b).1, b)
  fallback tenant windowSecs b := Cursor.initial? tenant windowSecs b.now
  pass cursor b := (incrementalPass cfg cursor).run.run b
  advance tenant time b := (.ok ((advanceCursor tenant time).run b).1, ((advanceCursor tenant time).run b).2)
  release lock b := (.ok ((releaseLock lock).run b).1, ((releaseLock lock).run b).2)

theorem lockedPass_run (cfg : SyncConfig) (cursor : Cursor) (b : Backends) :
    (Sync.lockedPass cfg cursor).run.run b =
      (((memoryStores cfg).lockedPass cursor b).answer, ((memoryStores cfg).lockedPass cursor b).state) := by
  rcases hpass : (incrementalPass cfg cursor).run.run b with ⟨_ | ⟨next, report⟩, b'⟩
  · have hmem : ((memoryStores cfg).pass cursor b).1 = .error _ := congrArg Prod.fst hpass
    rw [(memoryStores cfg).lockedPass_of_error hmem]
    simp [Sync.lockedPass, ExceptT.run_bind, hpass, memoryStores]
    rfl
  · have hmem : ((memoryStores cfg).pass cursor b).1 = .ok (next, report) := congrArg Prod.fst hpass
    rw [(memoryStores cfg).lockedPass_of_ok hmem]
    simp [Sync.lockedPass, ExceptT.run_bind, hpass, memoryStores]
    rfl

theorem loadSyncCursor_run (cfg : SyncConfig) (tenant : String) (windowSecs : Nat) (b : Backends) :
    (loadSyncCursor tenant windowSecs).run b =
      ((memoryStores cfg).cursorFrom tenant windowSecs ((memoryStores cfg).load tenant b).1 b, b) := by
  cases hload : b.kv.load tenant with
  | none =>
    simp [loadSyncCursor, loadCursor, Backends.wallClock, RunStores.cursorFrom, memoryStores, hload]
    rfl
  | some c =>
    rw [loadSyncCursor_of_load windowSecs hload]
    simp [RunStores.cursorFrom, memoryStores, loadCursor, hload]
    rfl

private theorem id_bind {α β : Type} (x : α) (f : α → Id β) : (x >>= f : Id β) = f x := rfl

theorem runScheduled_eq (cfg : SyncConfig) (tenant : String) (b : Backends) :
    (runScheduled cfg tenant).run.run b = ((memoryStores cfg).scheduledRun cfg tenant b).toRun := by
  cases hon : cfg.staffSyncEnabled
  · simp [runScheduled, hon, RunStores.scheduledRun, Ended.toRun]
    rfl
  · simp only [runScheduled, hon, RunStores.scheduledRun, ExceptT.run_mk, Bool.not_true,
      Bool.true_eq_false, Bool.false_eq_true, if_false, StateT.run_bind, leaseOverflows,
      StateT.run_get, pure_bind, StateT.run_pure]
    -- the memory lock store stops the program on a lease past the monotonic clock, and otherwise
    -- answers what taking the lock answers
    by_cases hov : b.kv.leaseOverflows cfg.scheduler.taskName (cfg.scheduler.lockLeaseSecs * 1000) b.clock
    · simp [hov, memoryStores, RunStores.taken, RunStores.afterAcquire, Ended.toRun]
      rfl
    rcases htake : b.kv.tryAcquire cfg.scheduler.taskName (cfg.scheduler.lockLeaseSecs * 1000) b.clock with
      ⟨kv, _ | lock⟩
    · simp [hov, htake, memoryStores, RunStores.taken, RunStores.afterAcquire, Ended.toRun]
      rfl
    have hacq : (memoryStores cfg).taken cfg b = (some (.ok (some lock)), { b with kv }) := by
      simp [RunStores.taken, memoryStores, hov, htake]
    rw [hacq]
    simp only [hov, Bool.false_eq_true, if_false, StateT.run_bind, tryAcquire_run, htake, id_bind,
      loadSyncCursor_run cfg, RunStores.afterAcquire, RunStores.holding]
    generalize ({ b with kv } : Backends) = b'
    have hkeep : ((memoryStores cfg).load tenant b').2 = b' := rfl
    rw [hkeep]
    rcases (memoryStores cfg).cursorFrom tenant cfg.scheduler.intervalSecs
      ((memoryStores cfg).load tenant b').1 b' with _ | cursor
    · rfl
    · simp only [StateT.run_bind, lockedPass_run, id_bind, releaseLock_run, StateT.run_pure]
      rfl

/-! ### The pass in memory -/

theorem passKind_unmoved (cfg : SyncConfig) (cursor : Cursor) (kind : Kind) (acc : PassReport × Bool) :
    Stable Backends.Unmoved (passKind cfg cursor kind acc).run := by
  unfold passKind
  refine Stable.exceptBind (directoryCall_unmoved (MemoryDirectory.listChangedSince_entities _ _ _))
    fun changed => ?_
  split
  · exact Stable.pure _
  · -- the writes of a lifted run move nothing the frame keeps, and then only the counts are set
    refine Stable.exceptBind (fun b => syncEntities_unmoved cfg changed acc.2 b) fun p => ?_
    cases kind <;> exact Stable.pure _

theorem incrementalPass_unmoved (cfg : SyncConfig) (cursor : Cursor) :
    Stable Backends.Unmoved (incrementalPass cfg cursor).run := by
  unfold incrementalPass
  refine Stable.exceptBind (fun b => Std.Refl.refl b) fun passStart => ?_
  split
  · exact Stable.pure _
  · exact Stable.exceptBind (passKind_unmoved _ _ _ _) fun _ =>
      Stable.exceptBind (passKind_unmoved _ _ _ _) fun _ => Stable.pure _

/-- A run's failure, if it has one, is a failure of the directory. -/
def FailsInDirectory {α : Type} (r : Except SyncError α) : Prop :=
  ∀ e, r = .error e → ∃ d, e = .directory d

/-- What an enabled pass that started at wall-clock time `n` answers: a failure of the directory,
or the cursor moved to `n`. -/
def PassAnswer (cursor : Cursor) (n : Int) (r : Except SyncError (Cursor × PassReport)) : Prop :=
  FailsInDirectory r ∧ ∀ p, r = .ok p → p.1 = cursor.advancedTo n

theorem directoryCall_run {α : Type} (act : StateM MemoryDirectory (Except DirectoryError α))
    (b : Backends) :
    (directoryCall act).run.run b =
      ((act.run b.directory).1.mapError .directory, { b with directory := (act.run b.directory).2 }) :=
  rfl

theorem directoryCall_fails {α : Type} (act : StateM MemoryDirectory (Except DirectoryError α)) :
    Triple (fun _ => True) (directoryCall act).run fun r _ => FailsInDirectory r := by
  intro b _ e he
  change ((directoryCall act).run.run b).1 = _ at he
  rw [directoryCall_run] at he
  rcases hact : (act.run b.directory).1 with d | a
  · rw [hact] at he
    exact ⟨d, (Except.error.inj he).symm⟩
  · rw [hact] at he
    cases he

theorem FailsInDirectory.error {α β : Type} {e : SyncError}
    (h : FailsInDirectory (.error e : Except SyncError α)) :
    FailsInDirectory (.error e : Except SyncError β) := fun _ he => by
  cases he
  exact h e rfl

theorem failsInDirectory_ok {α : Type} (a : α) : FailsInDirectory (.ok a : Except SyncError α) :=
  fun _ h => by cases h

theorem lift_fails {α : Type} {P : Backends → Prop} (x : Run α) :
    Triple P (liftM x : SyncRun α).run fun r _ => FailsInDirectory r := fun b _ =>
  failsInDirectory_ok (x.run b).1

theorem passKind_fails (cfg : SyncConfig) (cursor : Cursor) (kind : Kind) (acc : PassReport × Bool) :
    Triple (fun _ => True) (passKind cfg cursor kind acc).run fun r _ => FailsInDirectory r := by
  unfold passKind
  refine Triple.exceptBind (directoryCall_fails _) (fun changed => ?_) fun _ _ h => h.error
  split
  · exact Triple.pure fun _ _ => failsInDirectory_ok _
  · refine Triple.exceptBind (lift_fails _) (fun p => ?_) fun _ _ h => h.error
    cases kind <;> exact Triple.pure fun _ _ => failsInDirectory_ok _

/-- An enabled pass answers a failure of the directory, or the cursor moved to the wall-clock time
the pass started at. -/
theorem incrementalPass_answer {cfg : SyncConfig} (hon : cfg.staffSyncEnabled = true) (cursor : Cursor)
    (b : Backends) : PassAnswer cursor b.now ((incrementalPass cfg cursor).run.run b).1 := by
  have hclock : (liftM Backends.wallClock : SyncRun Int).run.run b = (.ok b.now, b) := rfl
  rw [incrementalPass, run_ok_bind hclock]
  simp only [hon, Bool.not_true, Bool.false_eq_true, if_false]
  have herr : ∀ e (_ : Backends), FailsInDirectory (.error e : Except SyncError (PassReport × Bool)) →
      PassAnswer cursor b.now (.error e) := fun _ _ h => ⟨h.error, fun _ hp => by cases hp⟩
  refine Triple.exceptBind (Q := fun r _ => PassAnswer cursor b.now r) (passKind_fails _ _ _ _)
    (fun acc => ?_) herr b trivial
  refine Triple.exceptBind ((passKind_fails _ _ _ _).mono (fun _ _ => trivial) fun _ _ h => h)
    (fun acc => ?_) herr
  exact Triple.pure fun _ _ => ⟨failsInDirectory_ok _, fun p hp => by cases hp; rfl⟩

/-! ### Runs in memory -/

section Memory

variable {cfg : SyncConfig}

theorem memory_acquire_keeps (name : String) (lease : Nat) (b : Backends) :
    ((memoryStores cfg).acquire name lease b).2.kv.load = b.kv.load ∧
      ((memoryStores cfg).acquire name lease b).2.now = b.now ∧
      ((memoryStores cfg).acquire name lease b).2.directory = b.directory := by
  unfold memoryStores
  dsimp only
  split
  · exact ⟨rfl, rfl, rfl⟩
  · exact ⟨funext (MemoryKv.load_tryAcquire _ _ _ _), rfl, rfl⟩

theorem memory_acquire_ne_error (name : String) (lease : Nat) (b : Backends) (e : StorageError) :
    ((memoryStores cfg).acquire name lease b).1 ≠ some (.error e) := by
  unfold memoryStores
  dsimp only
  split <;> simp

theorem memory_load (tenant : String) (b : Backends) :
    (memoryStores cfg).load tenant b = (.ok (b.kv.load tenant), b) := rfl

theorem memory_pass_unmoved (cursor : Cursor) (b : Backends) :
    Backends.Unmoved b ((memoryStores cfg).pass cursor b).2 :=
  incrementalPass_unmoved cfg cursor b

theorem memory_release_load (lock : LockToken) (b : Backends) :
    ((memoryStores cfg).release lock b).2.kv.load = b.kv.load :=
  funext (MemoryKv.load_release _ _)

/-- The cursor a pass in memory starts from is the tenant's, and depends on the state only through
the wall clock. -/
theorem memory_cursorFrom_tenant {tenant : String} {windowSecs : Nat}
    {loaded : Except StorageError (Option Int)} {b : Backends} {c : Cursor}
    (h : (memoryStores cfg).cursorFrom tenant windowSecs loaded b = some c) : c.tenantId = tenant := by
  unfold RunStores.cursorFrom at h
  split at h
  · cases h
    rfl
  · simp only [memoryStores, Cursor.initial?] at h
    split at h
    · cases h
      rfl
    · cases h

theorem memory_cursorFrom_now {tenant : String} {windowSecs : Nat}
    {loaded : Except StorageError (Option Int)} {b b' : Backends} (h : b'.now = b.now) :
    (memoryStores cfg).cursorFrom tenant windowSecs loaded b' =
      (memoryStores cfg).cursorFrom tenant windowSecs loaded b := by
  unfold RunStores.cursorFrom
  split
  · rfl
  · simp only [memoryStores, h]

theorem runScheduled_ended {tenant : String} {b b' : Backends} {r : Except SyncError (Option ScheduledRun)}
    (h : (runScheduled cfg tenant).run.run b = (r, b')) :
    r = ((memoryStores cfg).scheduledRun cfg tenant b).answer.elim (.ok none) (Except.map some) ∧
      b' = ((memoryStores cfg).scheduledRun cfg tenant b).state := by
  rw [runScheduled_eq] at h
  exact ⟨(Prod.mk.inj h).1.symm, (Prod.mk.inj h).2.symm⟩

theorem elim_map_some_ok {a : Option (Except SyncError ScheduledRun)} {v : ScheduledRun}
    (h : a.elim (.ok none) (Except.map some) = .ok (some v)) : a = some (.ok v) := by
  rcases a with _ | e | v'
  · cases h
  · cases h
  · cases h
    rfl

theorem elim_map_some_error {a : Option (Except SyncError ScheduledRun)} {e : SyncError}
    (h : a.elim (.ok none) (Except.map some) = .error e) : a = some (.error e) := by
  rcases a with _ | e' | v
  · cases h
  · cases h
    rfl
  · cases h

theorem runScheduled_keeps_cursors {tenant : String} {b b' : Backends}
    {r : Except SyncError (Option ScheduledRun)} (h : (runScheduled cfg tenant).run.run b = (r, b'))
    (hnot : ∀ next report, r ≠ .ok (some (.completed next report))) : b'.kv.load = b.kv.load := by
  obtain ⟨rfl, rfl⟩ := runScheduled_ended h
  refine ((memoryStores cfg).scheduledRun_path cfg tenant b).view_of_not_completed (·.kv.load)
    (fun _ _ b => (memory_acquire_keeps _ _ b).1) (fun _ _ => rfl)
    (fun c b => by rw [(memory_pass_unmoved c b).kv]) (fun _ _ => memory_release_load _ _)
    fun next report hc => hnot next report ?_
  rw [hc]
  rfl

/-- A run in memory fails only in the directory: the lock and cursor stores in memory never fail,
and the pass fails only when a listing does. -/
theorem runScheduled_fails_in_directory {tenant : String} {b b' : Backends} {e : SyncError}
    (h : (runScheduled cfg tenant).run.run b = (.error e, b')) : ∃ d, e = .directory d := by
  have hanswer := elim_map_some_error (runScheduled_ended h).1.symm
  have hp := (memoryStores cfg).scheduledRun_path cfg tenant b
  generalize (memoryStores cfg).scheduledRun cfg tenant b = R at hp hanswer
  cases hp with
  | disabled => cases hanswer
  | stopped => cases hanswer
  | @failed e' s₁ _ htaken =>
    have hfirst : ((memoryStores cfg).taken cfg b).1 = some (.error e') := by rw [htaken]
    exact absurd hfirst (memory_acquire_ne_error _ _ b e')
  | held => cases hanswer
  | noCursor => cases hanswer
  | @locked lock s₁ s₂ loaded cursor hon _ _ _ =>
    simp only [Option.some.injEq, RunStores.lockedPass_answer] at hanswer
    rcases hpass : ((memoryStores cfg).pass cursor s₂).1 with e' | p
    · rw [hpass] at hanswer
      cases hanswer
      exact (incrementalPass_answer hon cursor s₂).1 _ hpass
    · rw [hpass] at hanswer
      cases hanswer

/-- A run in memory that completed started from the tenant's stored cursor, or from one window
back when none is stored, and moved it to the later of it and the wall clock; it stored the later
of the stored cursor and that time floored to a second, and moved no other tenant's cursor. -/
theorem runScheduled_stores_cursor {tenant : String} {b b' : Backends} {next : Cursor}
    {report : PassReport}
    (h : (runScheduled cfg tenant).run.run b = (.ok (some (.completed next report)), b')) :
    ∃ cursor, (loadSyncCursor tenant cfg.scheduler.intervalSecs).run b = (some cursor, b) ∧
      next = cursor.advancedTo b.now ∧
      b'.kv.load tenant = some ((b.kv.load tenant).elim (floorToSecond next.lastSyncedAt)
        (max · (floorToSecond next.lastSyncedAt))) ∧
      ∀ t, t ≠ tenant → b'.kv.load t = b.kv.load t := by
  obtain ⟨hr, rfl⟩ := runScheduled_ended h
  obtain ⟨lock, s₁, loaded, s₂, cursor, hon, htaken, hload, hfrom, hpass, hstate⟩ :=
    ((memoryStores cfg).scheduledRun_path cfg tenant b).completed (elim_map_some_ok hr.symm)
  obtain ⟨rfl, rfl⟩ := Prod.mk.inj ((memory_load tenant s₁).symm.trans hload)
  have hs₁ : ((memoryStores cfg).taken cfg b).2 = s₁ := by rw [htaken]
  have hload₁ : s₁.kv.load = b.kv.load := hs₁ ▸ (memory_acquire_keeps _ _ b).1
  have hnow₁ : s₁.now = b.now := hs₁ ▸ (memory_acquire_keeps _ _ b).2.1
  rw [hload₁, memory_cursorFrom_now hnow₁] at hfrom
  have hnext : next = cursor.advancedTo b.now := hnow₁ ▸ (incrementalPass_answer hon cursor s₁).2 _ hpass
  have htenant : next.tenantId = tenant := by
    rw [hnext]
    show cursor.tenantId = tenant
    exact memory_cursorFrom_tenant hfrom
  have hfinal : ((memoryStores cfg).release lock ((memoryStores cfg).advance next.tenantId
      next.lastSyncedAt ((memoryStores cfg).pass cursor s₁).2).2).2.kv.load =
        (s₁.kv.advance tenant next.lastSyncedAt).1.load := by
    rw [memory_release_load]
    show (((memoryStores cfg).pass cursor s₁).2.kv.advance _ _).1.load = _
    rw [(memory_pass_unmoved cursor s₁).kv, htenant]
  refine ⟨cursor, ?_, hnext, ?_, fun t ht => ?_⟩
  · rw [loadSyncCursor_run cfg, memory_load]
    exact congrArg (·, b) hfrom
  · rw [hstate, hfinal, MemoryKv.load_advance_self, hload₁]
  · rw [hstate, hfinal, MemoryKv.load_advance_ne _ _ ht, hload₁]

end Memory

/-! ### The lock and the cursor on every path -/

/-- Whatever the lock store, the cursor store and the pass answer, a disabled run makes no call; a
run whose request for the lock failed, or found it held, answers so after that one call; a run that
took the lock and did not stop releases it once, last, on its own token, whether the pass
completed or failed; the program stops only where the lock store stops it or, holding the lock,
for want of a cursor; the cursor is stored only after a pass that completed, as the cursor it
answered; and a pass runs between the request for the lock and its release, the run answering what
the pass answered. In memory, a run that did not complete moves no cursor and fails only in the
directory, and a run that completed moves only its tenant's cursor, to the later of the stored one
and the second of the later of the cursor it started from and the pass start. -/
theorem scheduled_runs_release_lock_and_store_cursor {σ : Type} (S : RunStores σ) (cfg : SyncConfig)
    (tenant : String) (s : σ) :
    ((cfg.staffSyncEnabled = false → S.scheduledRun cfg tenant s = ⟨some (.ok .disabled), s, []⟩) ∧
      (∀ e, cfg.staffSyncEnabled = true → (S.taken cfg s).1 = some (.error e) →
        (S.scheduledRun cfg tenant s).answer = some (.error (.ofStorage e)) ∧
          (S.scheduledRun cfg tenant s).calls = [lockRequest cfg]) ∧
      (cfg.staffSyncEnabled = true → (S.taken cfg s).1 = some (.ok none) →
        (S.scheduledRun cfg tenant s).answer = some (.ok .lockHeld) ∧
          (S.scheduledRun cfg tenant s).calls = [lockRequest cfg]) ∧
      (∀ lock, cfg.staffSyncEnabled = true → (S.taken cfg s).1 = some (.ok (some lock)) →
        (S.scheduledRun cfg tenant s).answer ≠ none →
        (S.scheduledRun cfg tenant s).calls.count (.release lock) = 1 ∧
          (S.scheduledRun cfg tenant s).calls.getLast? = some (.release lock) ∧
          ∀ t, .release t ∈ (S.scheduledRun cfg tenant s).calls → t = lock) ∧
      ((S.scheduledRun cfg tenant s).answer = none →
        ((S.taken cfg s).1 = none ∧ (S.scheduledRun cfg tenant s).calls = [lockRequest cfg]) ∨
          ∃ lock, (S.taken cfg s).1 = some (.ok (some lock)) ∧
            (S.scheduledRun cfg tenant s).calls = [lockRequest cfg, .load tenant]) ∧
      (∀ t time, .persist t time ∈ (S.scheduledRun cfg tenant s).calls →
        ∃ report, (S.scheduledRun cfg tenant s).answer = some (.ok (.completed ⟨t, time⟩ report))) ∧
      (∀ cursor, .pass cursor ∈ (S.scheduledRun cfg tenant s).calls →
        ∃ lock s₁ loaded s₂, S.taken cfg s = (some (.ok (some lock)), s₁) ∧
          S.load tenant s₁ = (loaded, s₂) ∧
          (S.scheduledRun cfg tenant s).answer =
            some ((S.pass cursor s₂).1.map fun p => .completed p.1 p.2) ∧
          (S.scheduledRun cfg tenant s).calls.head? = some (lockRequest cfg) ∧
          (S.scheduledRun cfg tenant s).calls.getLast? = some (.release lock))) ∧
    (∀ (b b' : Backends) (r : Except SyncError (Option ScheduledRun)),
      (runScheduled cfg tenant).run.run b = (r, b') →
      ((∀ next report, r ≠ .ok (some (.completed next report))) → b'.kv.load = b.kv.load) ∧
      (∀ e, r = .error e → ∃ d, e = .directory d) ∧
      (∀ next report, r = .ok (some (.completed next report)) →
        ∃ cursor, (loadSyncCursor tenant cfg.scheduler.intervalSecs).run b = (some cursor, b) ∧
          next = cursor.advancedTo b.now ∧
          b'.kv.load tenant = some ((b.kv.load tenant).elim (floorToSecond next.lastSyncedAt)
            (max · (floorToSecond next.lastSyncedAt))) ∧
          ∀ t, t ≠ tenant → b'.kv.load t = b.kv.load t)) := by
  have hp := S.scheduledRun_path cfg tenant s
  refine ⟨⟨fun hoff => S.scheduledRun_disabled hoff tenant s, fun e hon hfail => ?_, fun hon hheld => ?_,
    fun lock hon hlock hgoes => hp.releases hon hlock hgoes, hp.stops, fun t time h => hp.persist h,
    fun cursor h => ?_⟩, fun b b' r hrun => ?_⟩
  · rw [S.scheduledRun_enabled hon, hfail]
    exact ⟨rfl, rfl⟩
  · rw [S.scheduledRun_enabled hon, hheld]
    exact ⟨rfl, rfl⟩
  · obtain ⟨lock, s₁, loaded, s₂, -, htaken, hload, -, hanswer, hfirst, hlast⟩ := hp.pass h
    exact ⟨lock, s₁, loaded, s₂, htaken, hload, hanswer, hfirst, hlast⟩
  · refine ⟨runScheduled_keeps_cursors hrun, fun e he => ?_, fun next report hc => ?_⟩
    · subst he
      exact runScheduled_fails_in_directory hrun
    · subst hc
      exact runScheduled_stores_cursor hrun

/-- A first run with the default settings, from stores with nothing in them, completes and stores
the tenant's cursor at the wall clock's second. -/
theorem first_scheduled_run_stores_cursor :
    ((runScheduled {} "corp").run.run {}).1 = .ok (some (.completed ⟨"corp", 0⟩ {})) ∧
      ((runScheduled {} "corp").run.run {}).2.kv.load "corp" = some 0 := by
  have hanswer : ((runScheduled {} "corp").run.run {}).1 = .ok (some (.completed ⟨"corp", 0⟩ {})) := by
    decide
  obtain ⟨cursor, -, -, hstored, -⟩ :=
    ((scheduled_runs_release_lock_and_store_cursor (memoryStores {}) {} "corp" {}).2 {} _ _
      (Prod.ext hanswer rfl)).2.2 _ _ rfl
  exact ⟨hanswer, hstored.trans rfl⟩

/-- With an interval longer than the calendar reaches back, a first run takes the lock, finds no
cursor stored and no date one interval back, and stops the program without releasing the lock,
which stays held. -/
theorem stopped_run_keeps_lock :
    let cfg : SyncConfig := { scheduler := { intervalSecs := 10000000000000 } }
    ((memoryStores cfg).scheduledRun cfg "corp" {}).calls = [lockRequest cfg, .load "corp"] ∧
      ((runScheduled cfg "corp").run.run {}).1 = .ok none ∧
      ((runScheduled cfg "corp").run.run {}).2.kv.isLocked cfg.scheduler.taskName 0 = true :=
  ⟨rfl, by decide, by decide⟩

/-! ### Several schedulers sharing the lock store -/

/-- Where a run stands towards the scheduler's lock: not yet at it, holding the token it was handed
at a monotonic time, or past it. -/
inductive LockStage where
  | before
  | holding (lock : LockToken) (since : Nat)
  | after

/-- The stage a run reaches from the lock store's answer to its request at monotonic time `t`. -/
def LockStage.ofAnswer (t : Nat) : Option (Except StorageError (Option LockToken)) → LockStage
  | some (.ok (some lock)) => .holding lock t
  | _ => .after

/-- Runs indexed by `ι` sharing the backends, each at its stage towards the lock. -/
structure Fleet (ι : Type) where
  stages : ι → LockStage
  backends : Backends

/-- The lease, in milliseconds, a run under `cfg` asks the lock for. -/
def leaseMs (cfg : SyncConfig) : Nat := cfg.scheduler.lockLeaseSecs * 1000

/-- From `b` to `b'` the lock entries and the count of tokens handed out stayed, and the monotonic
clock did not go back. -/
structure LocksKept (b b' : Backends) : Prop where
  locks : b'.kv.locks = b.kv.locks
  issued : b'.kv.issued = b.kv.issued
  clock : b.clock ≤ b'.clock

/-- One step of runs sharing the backends and the lock store in memory: a run not yet at the lock
asks for it under its configuration, or is disabled and passes it; a run holding the lock releases
it, or stops the program and leaves it held; and any other work leaves the lock entries, which
covers a run loading and storing its cursor and its pass, the upserts of other tasks, and time
passing. -/
inductive FleetStep {ι : Type} [DecidableEq ι] (cfgs : ι → SyncConfig) : Fleet ι → Fleet ι → Prop
  | request (f : Fleet ι) (i : ι) : f.stages i = .before →
      FleetStep cfgs f ⟨Function.update f.stages i
          (.ofAnswer f.backends.clock ((memoryStores (cfgs i)).taken (cfgs i) f.backends).1),
        ((memoryStores (cfgs i)).taken (cfgs i) f.backends).2⟩
  | skip (f : Fleet ι) (i : ι) : f.stages i = .before →
      FleetStep cfgs f ⟨Function.update f.stages i .after, f.backends⟩
  | release (f : Fleet ι) (i : ι) {lock : LockToken} {since : Nat} :
      f.stages i = .holding lock since →
      FleetStep cfgs f ⟨Function.update f.stages i .after,
        ((memoryStores (cfgs i)).release lock f.backends).2⟩
  | abandon (f : Fleet ι) (i : ι) {lock : LockToken} {since : Nat} :
      f.stages i = .holding lock since →
      FleetStep cfgs f ⟨Function.update f.stages i .after, f.backends⟩
  | work (f : Fleet ι) (b : Backends) : LocksKept f.backends b → FleetStep cfgs f ⟨f.stages, b⟩

theorem LocksKept.of_unmoved {b b' : Backends} (h : Backends.Unmoved b b') : LocksKept b b' :=
  ⟨by rw [h.kv], by rw [h.kv], h.clock⟩

theorem LocksKept.trans {b₁ b₂ b₃ : Backends} (h₁ : LocksKept b₁ b₂) (h₂ : LocksKept b₂ b₃) :
    LocksKept b₁ b₃ :=
  ⟨h₂.locks.trans h₁.locks, h₂.issued.trans h₁.issued, Nat.le_trans h₁.clock h₂.clock⟩

theorem memory_lockedPass_keeps (cfg : SyncConfig) (cursor : Cursor) (b : Backends) :
    LocksKept b ((memoryStores cfg).lockedPass cursor b).state := by
  have hpass := LocksKept.of_unmoved (@memory_pass_unmoved cfg cursor b)
  rcases hres : ((memoryStores cfg).pass cursor b).1 with e | ⟨next, report⟩
  · rw [(memoryStores cfg).lockedPass_of_error hres]
    exact hpass
  · rw [(memoryStores cfg).lockedPass_of_ok hres]
    obtain ⟨hlocks, hissued⟩ := MemoryKv.advance_keeps_locks
      ((memoryStores cfg).pass cursor b).2.kv next.tenantId next.lastSyncedAt
    exact hpass.trans ⟨hlocks, hissued, Nat.le_refl _⟩

/-- The lock store in memory either hands out nothing and leaves the backends, or finds the
scheduler's lock free and hands out its next token, taking the lock for the lease. -/
theorem memory_taken_cases (cfg : SyncConfig) (b : Backends) :
    (∃ a, (memoryStores cfg).taken cfg b = (a, b) ∧ LockStage.ofAnswer b.clock a = .after) ∨
      b.kv.isLocked cfg.scheduler.taskName b.clock = false ∧
        (memoryStores cfg).taken cfg b =
          (some (.ok (some ⟨cfg.scheduler.taskName, .issued (b.kv.issued + 1)⟩)),
            { b with kv := (b.kv.tryAcquire cfg.scheduler.taskName (leaseMs cfg) b.clock).1 }) := by
  by_cases hover : b.kv.leaseOverflows cfg.scheduler.taskName (leaseMs cfg) b.clock = true
  · refine .inl ⟨none, ?_, rfl⟩
    simp only [leaseMs] at hover
    simp [RunStores.taken, memoryStores, hover]
  · simp only [leaseMs, Bool.not_eq_true] at hover
    by_cases hlocked : b.kv.isLocked cfg.scheduler.taskName b.clock = true
    · refine .inl ⟨some (.ok none), ?_, rfl⟩
      simp [RunStores.taken, memoryStores, hover, MemoryKv.tryAcquire, hlocked]
    · refine .inr ⟨by simpa using hlocked, ?_⟩
      simp [RunStores.taken, memoryStores, hover, MemoryKv.tryAcquire_token, hlocked, leaseMs]

section Fleet

/-- What the lock store keeps for a run holding `lock` since `since` under `cfg`: the token names
the scheduler's lock, was the store's own, and holds the lock's entry unless its lease has run
out. -/
structure HeldSince (cfg : SyncConfig) (b : Backends) (lock : LockToken) (since : Nat) : Prop where
  name : lock.name = cfg.scheduler.taskName
  since_le : since ≤ b.clock
  entry : b.kv.lock? lock.name = some (lock.holder, since + leaseMs cfg) ∨
    since + leaseMs cfg ≤ b.clock
  issued : ∃ n, lock.holder = .issued n ∧ n ≤ b.kv.issued

variable {cfg : SyncConfig} {b : Backends} {lock : LockToken} {since : Nat}

theorem HeldSince.of_kept (h : HeldSince cfg b lock since) {b' : Backends} (hk : LocksKept b b') :
    HeldSince cfg b' lock since where
  name := h.name
  since_le := Nat.le_trans h.since_le hk.clock
  entry := by
    have hlock : b'.kv.lock? lock.name = b.kv.lock? lock.name := by
      simp only [MemoryKv.lock?, hk.locks]
    rw [hlock]
    exact h.entry.imp id fun hle => Nat.le_trans hle hk.clock
  issued := hk.issued ▸ h.issued

theorem HeldSince.lease_over (h : HeldSince cfg b lock since)
    (hfree : b.kv.isLocked lock.name b.clock = false) : since + leaseMs cfg ≤ b.clock := by
  rcases h.entry with hentry | hover
  · rw [MemoryKv.isLocked_of_lock? hentry] at hfree
    simpa using hfree
  · exact hover

theorem HeldSince.ne_next (h : HeldSince cfg b lock since) :
    lock.holder ≠ .issued (b.kv.issued + 1) := by
  obtain ⟨n, hn, hle⟩ := h.issued
  rw [hn]
  simp only [ne_eq, Holder.issued.injEq]
  omega

theorem HeldSince.acquire (h : HeldSince cfg b lock since) {name : String} {lease : Nat}
    (hfree : b.kv.isLocked name b.clock = false) :
    HeldSince cfg { b with kv := (b.kv.tryAcquire name lease b.clock).1 } lock since where
  name := h.name
  since_le := h.since_le
  entry := by
    by_cases hn : lock.name = name
    · exact .inr (h.lease_over (by rw [hn]; exact hfree))
    · refine h.entry.imp (fun hentry => ?_) id
      show (b.kv.tryAcquire name lease b.clock).1.lock? lock.name = _
      rw [MemoryKv.lock?_tryAcquire, if_neg fun hc => hn hc.2.symm]
      exact hentry
  issued := by
    obtain ⟨n, hn, hle⟩ := h.issued
    refine ⟨n, hn, ?_⟩
    show n ≤ (b.kv.tryAcquire name lease b.clock).1.issued
    rw [MemoryKv.tryAcquire_issued]
    split <;> omega

theorem HeldSince.taken (hfree : b.kv.isLocked cfg.scheduler.taskName b.clock = false) :
    HeldSince cfg { b with kv := (b.kv.tryAcquire cfg.scheduler.taskName (leaseMs cfg) b.clock).1 }
      ⟨cfg.scheduler.taskName, .issued (b.kv.issued + 1)⟩ b.clock where
  name := rfl
  since_le := Nat.le_refl _
  entry := .inl (by
    show (b.kv.tryAcquire _ _ _).1.lock? _ = _
    rw [MemoryKv.lock?_tryAcquire]
    simp [hfree])
  issued := ⟨b.kv.issued + 1, rfl, by
    show _ ≤ (b.kv.tryAcquire _ _ _).1.issued
    rw [MemoryKv.tryAcquire_issued]
    simp [hfree]⟩

theorem HeldSince.release (h : HeldSince cfg b lock since) {t : LockToken}
    (ht : t.holder ≠ lock.holder) :
    HeldSince cfg { b with kv := (b.kv.release t).1 } lock since where
  name := h.name
  since_le := h.since_le
  entry := by
    refine h.entry.imp (fun hentry => ?_) id
    show (b.kv.release t).1.lock? lock.name = _
    rw [MemoryKv.lock?_release, if_neg]
    · exact hentry
    · -- only the holder's own token frees the entry
      rintro ⟨hheld, hname⟩
      rw [hname, hentry] at hheld
      exact ht (Option.some.inj hheld).symm
  issued := MemoryKv.issued_release b.kv t ▸ h.issued

end Fleet

namespace Fleet

variable {ι : Type} [DecidableEq ι] {cfgs : ι → SyncConfig}

/-- What the lock store in memory keeps for runs sharing it: each run holding the lock holds it as
`HeldSince` says, two such runs hold different tokens, and two runs holding a lock of the same name
took it at least a lease apart. -/
structure Exclusive (cfgs : ι → SyncConfig) (f : Fleet ι) : Prop where
  held : ∀ i lock since, f.stages i = .holding lock since → HeldSince (cfgs i) f.backends lock since
  apart : ∀ i j, i ≠ j → ∀ li si lj sj, f.stages i = .holding li si → f.stages j = .holding lj sj →
    li.holder ≠ lj.holder ∧
      (li.name = lj.name → si + leaseMs (cfgs i) ≤ sj ∨ sj + leaseMs (cfgs j) ≤ si)

theorem holding_of_update_after {st : ι → LockStage} {i k : ι} {l : LockToken} {s : Nat}
    (h : Function.update st i .after k = .holding l s) : k ≠ i ∧ st k = .holding l s := by
  by_cases hki : k = i
  · subst hki
    simp at h
  · rw [Function.update_of_ne hki] at h
    exact ⟨hki, h⟩

theorem holding_of_update_holding {st : ι → LockStage} {i k : ι} {l l' : LockToken} {s s' : Nat}
    (h : Function.update st i (.holding l' s') k = .holding l s) :
    k = i ∧ l = l' ∧ s = s' ∨ k ≠ i ∧ st k = .holding l s := by
  by_cases hki : k = i
  · subst hki
    simp only [Function.update_self, LockStage.holding.injEq] at h
    exact .inl ⟨rfl, h.1.symm, h.2.symm⟩
  · rw [Function.update_of_ne hki] at h
    exact .inr ⟨hki, h⟩

omit [DecidableEq ι] in
theorem exclusive_before (b : Backends) : Exclusive cfgs ⟨fun _ => .before, b⟩ :=
  ⟨fun _ _ _ h => LockStage.noConfusion h, fun _ _ _ _ _ _ _ h => LockStage.noConfusion h⟩

variable {f : Fleet ι}

/-- A run leaving the lock keeps the invariant, over backends that keep what the store keeps for
every other run holding it. -/
theorem Exclusive.retire (h : f.Exclusive cfgs) (i : ι) {b' : Backends}
    (hkeep : ∀ k lock since, k ≠ i → f.stages k = .holding lock since →
      HeldSince (cfgs k) b' lock since) :
    Exclusive cfgs ⟨Function.update f.stages i .after, b'⟩ where
  held k lock since hk :=
    have ⟨hki, hk⟩ := holding_of_update_after hk
    hkeep k lock since hki hk
  apart k k' hne lk sk lk' sk' hk hk' :=
    h.apart k k' hne lk sk lk' sk' (holding_of_update_after hk).2 (holding_of_update_after hk').2

theorem Exclusive.retire_here (h : f.Exclusive cfgs) (i : ι) :
    Exclusive cfgs ⟨Function.update f.stages i .after, f.backends⟩ :=
  h.retire i fun k _ _ _ hk => h.held k _ _ hk

/-- A run taking the free lock keeps the invariant: every other run holding a lock of its name has
outlived its lease, and holds an older token. -/
theorem Exclusive.take (h : f.Exclusive cfgs) (i : ι)
    (hfree : f.backends.kv.isLocked (cfgs i).scheduler.taskName f.backends.clock = false) :
    Exclusive cfgs ⟨Function.update f.stages i
        (.holding ⟨(cfgs i).scheduler.taskName, .issued (f.backends.kv.issued + 1)⟩ f.backends.clock),
      { f.backends with
        kv := (f.backends.kv.tryAcquire (cfgs i).scheduler.taskName (leaseMs (cfgs i))
          f.backends.clock).1 }⟩ := by
  have hold : ∀ k lk sk, f.stages k = .holding lk sk →
      lk.holder ≠ .issued (f.backends.kv.issued + 1) ∧
        (lk.name = (cfgs i).scheduler.taskName → sk + leaseMs (cfgs k) ≤ f.backends.clock) :=
    fun k lk sk hk => ⟨(h.held k lk sk hk).ne_next,
      fun hn => (h.held k lk sk hk).lease_over (by rw [hn]; exact hfree)⟩
  refine ⟨fun k lock since hk => ?_, fun k k' hne lk sk lk' sk' hk hk' => ?_⟩
  · rcases holding_of_update_holding hk with ⟨rfl, rfl, rfl⟩ | ⟨-, hk⟩
    · exact HeldSince.taken hfree
    · exact (h.held k lock since hk).acquire hfree
  · rcases holding_of_update_holding hk with ⟨rfl, rfl, rfl⟩ | ⟨-, hold₁⟩ <;>
      rcases holding_of_update_holding hk' with ⟨rfl, rfl, rfl⟩ | ⟨-, hold₂⟩
    · exact absurd rfl hne
    · exact ⟨fun heq => (hold k' lk' sk' hold₂).1 heq.symm,
        fun hn => .inr ((hold k' lk' sk' hold₂).2 hn.symm)⟩
    · exact ⟨(hold k lk sk hold₁).1, fun hn => .inl ((hold k lk sk hold₁).2 hn)⟩
    · exact h.apart k k' hne lk sk lk' sk' hold₁ hold₂

theorem Exclusive.step (h : f.Exclusive cfgs) {f' : Fleet ι} (hs : FleetStep cfgs f f') :
    f'.Exclusive cfgs := by
  cases hs with
  | request i _ =>
    rcases memory_taken_cases (cfgs i) f.backends with ⟨a, htaken, hafter⟩ | ⟨hfree, htaken⟩
    · simp only [htaken, hafter]
      exact h.retire_here i
    · simp only [htaken]
      exact h.take i hfree
  | skip i _ | abandon i _ => exact h.retire_here i
  | @release i lock since hi =>
    -- the other holders' tokens differ from the one released, so their entries stay
    exact h.retire i fun k lk sk hki hk =>
      (h.held k lk sk hk).release (h.apart i k (Ne.symm hki) lock since lk sk hi hk).1
  | work b hk => exact ⟨fun k lock since hs => (h.held k lock since hs).of_kept hk, h.apart⟩

theorem Exclusive.reachable (h : f.Exclusive cfgs) {f' : Fleet ι}
    (hrun : Relation.ReflTransGen (FleetStep cfgs) f f') : f'.Exclusive cfgs := by
  induction hrun with
  | refl => exact h
  | tail _ hs ih => exact ih.step hs

end Fleet

/-- A scheduled run in memory, with no other run in between, is a run of the fleet: it asks for the
lock, and holding it loads the cursor, runs the locked pass and releases the lock, or stops. -/
theorem scheduledRun_fleet {ι : Type} [DecidableEq ι] (cfgs : ι → SyncConfig) {f : Fleet ι} {i : ι}
    (hi : f.stages i = .before) (tenant : String) :
    Relation.ReflTransGen (FleetStep cfgs) f
      ⟨Function.update f.stages i .after,
        ((memoryStores (cfgs i)).scheduledRun (cfgs i) tenant f.backends).state⟩ := by
  have hp := (memoryStores (cfgs i)).scheduledRun_path (cfgs i) tenant f.backends
  have hrequest := @FleetStep.request ι _ cfgs f i hi
  generalize (memoryStores (cfgs i)).scheduledRun (cfgs i) tenant f.backends = R at hp ⊢
  cases hp with
  | disabled => exact .single (.skip f i hi)
  | stopped _ htaken | failed _ htaken | held _ htaken =>
    rw [htaken] at hrequest
    exact .single hrequest
  | @noCursor lock s₁ s₂ _ _ htaken hload _ =>
    rw [htaken] at hrequest
    obtain ⟨-, rfl⟩ := Prod.mk.inj ((memory_load tenant s₁).symm.trans hload)
    have habandon := @FleetStep.abandon ι _ cfgs
      ⟨Function.update f.stages i (.holding lock f.backends.clock), s₁⟩ i _ _ (Function.update_self ..)
    rw [Function.update_idem] at habandon
    exact .tail (.single hrequest) habandon
  | @locked lock s₁ s₂ _ cursor _ htaken hload _ =>
    rw [htaken] at hrequest
    obtain ⟨-, rfl⟩ := Prod.mk.inj ((memory_load tenant s₁).symm.trans hload)
    have hwork := @FleetStep.work ι _ cfgs
      ⟨Function.update f.stages i (.holding lock f.backends.clock), s₁⟩ _
      (memory_lockedPass_keeps (cfgs i) cursor s₁)
    have hrelease := @FleetStep.release ι _ cfgs
      ⟨Function.update f.stages i (.holding lock f.backends.clock),
        ((memoryStores (cfgs i)).lockedPass cursor s₁).state⟩ i _ _ (Function.update_self ..)
    rw [Function.update_idem] at hrelease
    exact .tail (.tail (.single hrequest) hwork) hrelease

/-- Runs sharing the lock store in memory, under any configurations and beside any other work: two
runs holding a lock of the same name at once took it at least a lease apart, so by now the one
that took it first has outlived its lease. Locked passes never overlap unless one of them outlives
its lease. -/
theorem locked_passes_overlap_only_past_lease {ι : Type} [DecidableEq ι] (cfgs : ι → SyncConfig)
    (b : Backends) {f : Fleet ι}
    (hrun : Relation.ReflTransGen (FleetStep cfgs) ⟨fun _ => .before, b⟩ f) {i j : ι} (hij : i ≠ j)
    {li lj : LockToken} {si sj : Nat} (hi : f.stages i = .holding li si)
    (hj : f.stages j = .holding lj sj)
    (hname : (cfgs i).scheduler.taskName = (cfgs j).scheduler.taskName) :
    (si + leaseMs (cfgs i) ≤ sj ∨ sj + leaseMs (cfgs j) ≤ si) ∧
      (si + leaseMs (cfgs i) ≤ f.backends.clock ∨ sj + leaseMs (cfgs j) ≤ f.backends.clock) := by
  have hinv := (Fleet.exclusive_before b).reachable hrun
  have heldi := hinv.held i li si hi
  have heldj := hinv.held j lj sj hj
  have hsame : li.name = lj.name := heldi.name.trans (hname.trans heldj.name.symm)
  have happart := (hinv.apart i j hij li si lj sj hi hj).2 hsame
  exact ⟨happart, happart.imp (fun h => Nat.le_trans h heldj.since_le)
    fun h => Nat.le_trans h heldi.since_le⟩

end RosterSync.Sync

import RosterSync.Proofs.Frame

/-!
Scheduled runs cut at their awaits, in a world that keeps moving.

A scheduled run takes the scheduler's lock, loads the tenant's cursor, reads the wall clock as the
pass start, lists the departments changed after the cursor and writes them one at a time, does the
same for staff, stores the cursor moved to the pass start, and releases the lock. Every one of these
calls waits on a backend, and while it waits the world goes on: changes land in the directory, the
wall clock moves forward, and any backend may fail. `Step` is that system. It has one event per call
of the run, each computed by the library's own functions, and one event per thing the world does.
One run is under way at a time, as the scheduler's loop awaits each run before the next.

Besides the backends a state keeps two ghost lists of versions (kind, external id, time of change):
`listed` holds what listings of passes that completed returned, `pending` what the listings of the
pass under way returned so far. Nothing in a run reads them. A pass that fails drops its pending
versions; a pass that completes, whether or not its cursor is stored, adds them to `listed`.

Stopping the program is no event: where a run stops the program (a lease past the monotonic clock,
no date one window back), the system has no next state.
-/

namespace RosterSync.Sync

open RosterSync.Record RosterSync.Directory RosterSync.Storage

/-- A version of a directory entity: its kind, its external id and the time of its last change. -/
structure Version where
  kind : Kind
  externalId : String
  updatedAt : Int
deriving DecidableEq, Repr

def Version.of (kind : Kind) (e : Entity) : Version := ⟨kind, e.externalId, e.updatedAt⟩

/-- Where a scheduled run stands between two of its calls. -/
inductive Stage where
  /-- No run is under way. -/
  | idle
  /-- The lock is held; the cursor is loaded next. -/
  | locked (lock : LockToken)
  /-- The cursor is loaded; the pass reads the clock next. -/
  | loaded (lock : LockToken) (cursor : Cursor)
  /-- The pass that started at `passStart` lists the entities of `kind` next. -/
  | listing (lock : LockToken) (cursor : Cursor) (passStart : Int) (kind : Kind) (first : Bool)
  /-- The pass writes the listed entities of `kind` still in `rest`, never empty. -/
  | syncing (lock : LockToken) (cursor : Cursor) (passStart : Int) (kind : Kind)
      (rest : List Entity) (first : Bool)
  /-- Both kinds are done; the cursor is stored next. -/
  | persisting (lock : LockToken) (cursor : Cursor) (passStart : Int)
  /-- The pass is over; the lock is released next. -/
  | releasing (lock : LockToken)

/-- The stage after the entities of `kind` are done: staff after departments, then storing the
cursor. The throttle state carries over. -/
def Stage.afterKind (lock : LockToken) (cursor : Cursor) (passStart : Int) (first : Bool) :
    Kind → Stage
  | .department => .listing lock cursor passStart .staff first
  | .staff => .persisting lock cursor passStart

/-- The backends, the run's stage, and the versions listings returned. -/
structure Sched where
  backends : Backends
  stage : Stage
  /-- Versions that listings of completed passes returned. -/
  listed : List Version
  /-- Versions that the listings of the pass under way returned so far. -/
  pending : List Version

/-- A state with no run under way, in which `listed` were listed by earlier passes. -/
def Sched.start (b : Backends) (listed : List Version) : Sched :=
  { backends := b, stage := .idle, listed, pending := [] }

/-- What happens next: a call of the scheduled run, or an event of the world around it. -/
inductive Event where
  /-- A change lands in the directory. -/
  | commit (e : Entity)
  /-- An entity leaves the directory. -/
  | remove (tenant : String) (kind : Kind) (externalId : String)
  /-- The wall clock moves forward. -/
  | tick (ms : Nat)
  /-- Time passes on the monotonic clock. -/
  | wait (ms : Nat)
  /-- The directory's next read will fail. -/
  | failDirectory (err : DirectoryError)
  /-- The next calls of a record-store operation will fail. -/
  | failStore (op : Operation) (err : StoreError) (times : Nat)
  /-- A record-store failure waits for a later call. -/
  | waitStore (f : ScheduledFailure)
  /-- The run takes the lock, finds it held, or finds sync disabled. -/
  | acquire
  /-- The lock store fails to take the lock. -/
  | acquireFailed
  /-- The run loads the cursor. -/
  | load
  /-- The cursor store fails to load the cursor. -/
  | loadFailed
  /-- The pass reads the clock. -/
  | start
  /-- The pass lists the changed entities of a kind. -/
  | list
  /-- The pass writes one listed entity. -/
  | write
  /-- The pass stores the moved cursor. -/
  | persist
  /-- The cursor store fails to store the cursor. -/
  | persistFailed
  /-- The run releases the lock. -/
  | release
  /-- The lock store fails to release the lock. -/
  | releaseFailed

section Step

variable (cfg : SyncConfig) (tenant : String)

/-- One event of the scheduled runs of `tenant` under `cfg`, or of the world around them. -/
inductive Step : Sched → Event → Sched → Prop
  | commit (s : Sched) (e : Entity) (stamped : s.backends.now ≤ e.updatedAt) :
      Step s (.commit e)
        { s with backends := { s.backends with directory := s.backends.directory.put e } }
  | remove (s : Sched) (t : String) (k : Kind) (externalId : String) :
      Step s (.remove t k externalId)
        { s with backends :=
            { s.backends with directory := s.backends.directory.remove t k externalId } }
  | tick (s : Sched) (ms : Nat) :
      Step s (.tick ms) { s with backends := { s.backends with now := s.backends.now + ms } }
  | wait (s : Sched) (ms : Nat) :
      Step s (.wait ms) { s with backends := ((Backends.sleep ms).run s.backends).2 }
  | failDirectory (s : Sched) (err : DirectoryError) :
      Step s (.failDirectory err)
        { s with backends :=
            { s.backends with directory := s.backends.directory.failNext err } }
  | failStore (s : Sched) (op : Operation) (err : StoreError) (times : Nat) :
      Step s (.failStore op err times)
        { s with backends :=
            { s.backends with store := s.backends.store.failNext op err times } }
  | waitStore (s : Sched) (f : ScheduledFailure) :
      Step s (.waitStore f)
        { s with backends := { s.backends with waiting := s.backends.waiting ++ [f] } }
  | disabled (s : Sched) (hidle : s.stage = .idle) (hoff : cfg.staffSyncEnabled = false) :
      Step s .acquire s
  | lockHeld (s : Sched) (hidle : s.stage = .idle) (hon : cfg.staffSyncEnabled = true)
      (hfits : (leaseOverflows cfg.scheduler.taskName (cfg.scheduler.lockLeaseSecs * 1000)).run
        s.backends = (false, s.backends))
      (b' : Backends)
      (htake : (tryAcquire cfg.scheduler.taskName (cfg.scheduler.lockLeaseSecs * 1000)).run
        s.backends = (none, b')) :
      Step s .acquire { s with backends := b' }
  | acquire (s : Sched) (hidle : s.stage = .idle) (hon : cfg.staffSyncEnabled = true)
      (hfits : (leaseOverflows cfg.scheduler.taskName (cfg.scheduler.lockLeaseSecs * 1000)).run
        s.backends = (false, s.backends))
      (lock : LockToken) (b' : Backends)
      (htake : (tryAcquire cfg.scheduler.taskName (cfg.scheduler.lockLeaseSecs * 1000)).run
        s.backends = (some lock, b')) :
      Step s .acquire { s with backends := b', stage := .locked lock }
  | acquireFailed (s : Sched) (hidle : s.stage = .idle) (hon : cfg.staffSyncEnabled = true) :
      Step s .acquireFailed s
  | load (s : Sched) (lock : LockToken) (hstage : s.stage = .locked lock) (cursor : Cursor)
      (hload : (loadSyncCursor tenant cfg.scheduler.intervalSecs).run s.backends =
        (some cursor, s.backends)) :
      Step s .load { s with stage := .loaded lock cursor }
  | loadFailed (s : Sched) (lock : LockToken) (hstage : s.stage = .locked lock) (cursor : Cursor)
      (hfallback : Cursor.initial? tenant cfg.scheduler.intervalSecs s.backends.now = some cursor) :
      Step s .loadFailed { s with stage := .loaded lock cursor }
  | start (s : Sched) (lock : LockToken) (cursor : Cursor) (hstage : s.stage = .loaded lock cursor) :
      Step s .start { s with stage := .listing lock cursor s.backends.now .department true }
  | list (s : Sched) (lock : LockToken) (cursor : Cursor) (passStart : Int) (k : Kind)
      (first : Bool) (hstage : s.stage = .listing lock cursor passStart k first)
      (changed : List Entity) (b' : Backends)
      (hlist : (directoryCall (MemoryDirectory.listChangedSince cursor.tenantId k
        cursor.lastSyncedAt)).run.run s.backends = (.ok changed, b')) :
      Step s .list
        { s with
          backends := b'
          stage := match changed with
            | [] => Stage.afterKind lock cursor passStart first k
            | _ :: _ => .syncing lock cursor passStart k changed first
          pending := s.pending ++ changed.map (Version.of k) }
  | listFailed (s : Sched) (lock : LockToken) (cursor : Cursor) (passStart : Int) (k : Kind)
      (first : Bool) (hstage : s.stage = .listing lock cursor passStart k first)
      (err : SyncError) (b' : Backends)
      (hlist : (directoryCall (MemoryDirectory.listChangedSince cursor.tenantId k
        cursor.lastSyncedAt)).run.run s.backends = (.error err, b')) :
      Step s .list { s with backends := b', stage := .releasing lock, pending := [] }
  | write (s : Sched) (lock : LockToken) (cursor : Cursor) (passStart : Int) (k : Kind)
      (e : Entity) (rest : List Entity) (first : Bool)
      (hstage : s.stage = .syncing lock cursor passStart k (e :: rest) first) :
      Step s .write
        { s with
          backends := ((syncEntities cfg [e] first).run s.backends).2
          stage := match rest with
            | [] => Stage.afterKind lock cursor passStart false k
            | _ :: _ => .syncing lock cursor passStart k rest false }
  | persist (s : Sched) (lock : LockToken) (cursor : Cursor) (passStart : Int)
      (hstage : s.stage = .persisting lock cursor passStart) :
      Step s .persist
        { backends := ((persistCursor (cursor.advancedTo passStart)).run s.backends).2
          stage := .releasing lock
          listed := s.listed ++ s.pending
          pending := [] }
  | persistFailed (s : Sched) (lock : LockToken) (cursor : Cursor) (passStart : Int)
      (hstage : s.stage = .persisting lock cursor passStart) :
      Step s .persistFailed
        { s with stage := .releasing lock, listed := s.listed ++ s.pending, pending := [] }
  | release (s : Sched) (lock : LockToken) (hstage : s.stage = .releasing lock) :
      Step s .release
        { s with backends := ((releaseLock lock).run s.backends).2, stage := .idle }
  | releaseFailed (s : Sched) (lock : LockToken) (hstage : s.stage = .releasing lock) :
      Step s .releaseFailed { s with stage := .idle }

/-- `s'` follows `s` by one event that `ok` admits where it happens. -/
def Next (ok : Sched → Event → Prop) (s s' : Sched) : Prop :=
  ∃ ev, ok s ev ∧ Step cfg tenant s ev s'

end Step

end RosterSync.Sync

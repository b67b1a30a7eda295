import RosterSync.Sync.Upsert

/-!
Passes over the directory.

A pass writes each listed entity as an update under the retry policy, one after another, and
counts the entities that succeed and fail. Between two entities of a pass it waits the throttle
delay, also across kinds; nothing waits before the first. A full sync lists all entities of a
kind; a full sync of both kinds does departments before staff. An incremental pass lists the
departments, then the staff, changed after the cursor, skips a kind with no changes, and moves
the cursor to the pass's start. A failed listing fails the pass. With staff sync disabled a pass
does nothing.

A scheduled run takes the scheduler's lock, loads the cursor (one interval back when there is
none), runs an incremental pass, stores the new cursor (a failure to store is only logged),
releases the lock whatever the pass did, and answers with the pass. It stops the program when
the lock's lease or the first cursor is a time no clock holds.

A change event is written in the background under the retry policy, unless staff sync is
disabled.
-/

namespace RosterSync.Sync

open RosterSync.Json RosterSync.Record RosterSync.Directory RosterSync.Mapping RosterSync.Storage

/-- Writes entities in order, waiting the throttle delay before each unless `first`; returns the
counts and whether the next entity is still the first. -/
def syncEntities (cfg : SyncConfig) (entities : List Entity) (first : Bool) :
    Run (KindReport × Bool) :=
  entities.foldlM (fun (acc : KindReport × Bool) e => do
    if !acc.2 then Backends.sleep cfg.scheduler.throttleMs
    match ← upsertWithRetry cfg.retry e .update with
    | some _ => pure ({ acc.1 with succeeded := acc.1.succeeded + 1 }, false)
    | none => pure ({ acc.1 with failed := acc.1.failed + 1 }, false)) ({}, first)

/-- A full sync of one kind, with the throttle state carried in and out. -/
def fullSyncKind (cfg : SyncConfig) (tenant : String) (kind : Kind) (first : Bool) :
    SyncRun (KindReport × Bool) := do
  if !cfg.staffSyncEnabled then return ({}, first)
  let entities ← directoryCall (MemoryDirectory.list tenant kind)
  syncEntities cfg entities first

def fullSync (cfg : SyncConfig) (tenant : String) (kind : Kind) : SyncRun KindReport := do
  pure (← fullSyncKind cfg tenant kind true).1

def fullSyncAll (cfg : SyncConfig) (tenant : String) : SyncRun PassReport := do
  let (departments, first) ← fullSyncKind cfg tenant .department true
  let (staff, _) ← fullSyncKind cfg tenant .staff first
  pure { departments, staff }

/-- The entities of one kind changed after the cursor, synced; the report slot of that kind. -/
def passKind (cfg : SyncConfig) (cursor : Cursor) (kind : Kind) (acc : PassReport × Bool) :
    SyncRun (PassReport × Bool) := do
  let changed ← directoryCall (MemoryDirectory.listChangedSince cursor.tenantId kind
    cursor.lastSyncedAt)
  if changed.isEmpty then return acc
  let (report, first) ← syncEntities cfg changed acc.2
  match kind with
  | .department => pure ({ acc.1 with departments := report }, first)
  | .staff => pure ({ acc.1 with staff := report }, first)

/-- An incremental pass from a cursor: the moved cursor and the counts. -/
def incrementalPass (cfg : SyncConfig) (cursor : Cursor) : SyncRun (Cursor × PassReport) := do
  let passStart ← (Backends.wallClock : Run Int)
  if !cfg.staffSyncEnabled then return (cursor, {})
  let acc ← passKind cfg cursor .department ({}, true)
  let acc ← passKind cfg cursor .staff acc
  pure (cursor.advancedTo passStart, acc.1)

/-- The stored cursor of a tenant, or one window before now; none when there is no date one
window back. -/
def loadSyncCursor (tenant : String) (windowSecs : Nat) : Run (Option Cursor) := do
  match ← loadCursor tenant with
  | some time => pure (some ⟨tenant, time⟩)
  | none => pure (Cursor.initial? tenant windowSecs (← Backends.wallClock))

def persistCursor (c : Cursor) : Run Bool := advanceCursor c.tenantId c.lastSyncedAt

/-- The work done while holding the lock, from the loaded cursor. -/
def lockedPass (cfg : SyncConfig) (cursor : Cursor) : SyncRun ScheduledRun := do
  let (next, report) ← incrementalPass cfg cursor
  let _ ← (persistCursor next : Run Bool)
  pure (.completed next report)

/-- A scheduled run of a tenant; none when the program stops in it, because the free lock's
lease would end past the monotonic clock's range or because no cursor is stored and there is no
date one interval back. -/
def runScheduled (cfg : SyncConfig) (tenant : String) : SyncRun (Option ScheduledRun) :=
  ExceptT.mk do
    if !cfg.staffSyncEnabled then return .ok (some .disabled)
    let leaseMs := cfg.scheduler.lockLeaseSecs * 1000
    if ← leaseOverflows cfg.scheduler.taskName leaseMs then return .ok none
    match ← tryAcquire cfg.scheduler.taskName leaseMs with
    | none => pure (.ok (some .lockHeld))
    | some lock =>
      match ← loadSyncCursor tenant cfg.scheduler.intervalSecs with
      | none => pure (.ok none)
      | some cursor =>
        let result ← (lockedPass cfg cursor).run
        let _ ← releaseLock lock
        pure (result.map some)

/-- Handles a change event: writes it in the background unless staff sync is disabled; whether a
task was started. The task is awaited here, so its effects are done on return. -/
def dispatch (cfg : SyncConfig) (ev : Event) : Run Bool := do
  if !cfg.staffSyncEnabled then return false
  let _ ← upsertWithRetry cfg.retry ev.entity ev.action
  pure true

end RosterSync.Sync

import RosterSync.Record.Memory
import RosterSync.Directory.Memory
import RosterSync.Storage.Memory
import RosterSync.Sync.Error
import RosterSync.Timer

/-!
The backends a sync runs against, kept in memory, and the clocks it reads.

Two clocks are read: the wall clock, which stands still during a run and stamps passes and
cursors, and a monotonic clock in milliseconds, which only sleeping moves and which measures
leases. A sleep lasts as long as the runtime's timer lets it. Every backend call is a step of one
state; failures come back as values.

The program queues no failures on the record store; a test console does, at once or for a later
call of an operation. Failures that wait for a call are kept beside the store, which only has its
queues: just before a record store call, the waiting failures due for it are queued, in the order
given. Which call a step of the store makes is the call it logs first.
-/

namespace RosterSync.Sync

open RosterSync.Json RosterSync.Record RosterSync.Directory RosterSync.Storage

/-- Failures waiting for a call of an operation: just before the call of `op` made when the log
holds `due` calls of `op`, `times` copies of `error` are queued. -/
structure ScheduledFailure where
  op : Operation
  error : StoreError
  times : Nat
  due : Nat

/-- The record store, directory, contact API, cursor and lock store, and the clocks. -/
structure Backends where
  store : MemoryStore := {}
  directory : MemoryDirectory := {}
  contacts : MemoryContacts := {}
  kv : MemoryKv := {}
  /-- Monotonic milliseconds since the start. -/
  clock : Nat := 0
  /-- The wall clock, Unix milliseconds. -/
  now : Int := 0
  timer : Timer := .runtime
  /-- Record store failures waiting for a later call of their operation. -/
  waiting : List ScheduledFailure := []

/-- How many calls of `op` the store's log holds. -/
def callsOf (s : MemoryStore) (op : Operation) : Nat :=
  (s.calls.filter (·.op == op)).length

/-- The store just before a call of `op`, if any: the waiting failures due for it queued, in the
order given. -/
def queueDue (waiting : List ScheduledFailure) (op? : Option Operation) (s : MemoryStore) :
    MemoryStore :=
  match op? with
  | none => s
  | some op =>
    (waiting.filter fun f => f.op == op && f.due == callsOf s op).foldl
      (fun s f => s.failNext f.op f.error f.times) s

/-- The operation of the first call a record store step logs. -/
def firstOp {α : Type} (act : StateM MemoryStore α) (s : MemoryStore) : Option Operation :=
  ((act.run s).2.calls.drop s.calls.length).head?.map (·.op)

abbrev Run := StateM Backends

/-- A computation over the backends that may fail with a sync failure. -/
abbrev SyncRun := ExceptT SyncError Run

namespace Backends

/-- The record store just before a record store step makes its call. -/
def storeBefore {α : Type} (act : StateM MemoryStore α) (b : Backends) : MemoryStore :=
  queueDue b.waiting (firstOp act b.store) b.store

def inStore {α : Type} (act : StateM MemoryStore α) : Run α :=
  modifyGet fun b =>
    ((act.run (b.storeBefore act)).1, { b with store := (act.run (b.storeBefore act)).2 })

def inDirectory {α : Type} (act : StateM MemoryDirectory α) : Run α :=
  modifyGet fun b => let (a, d) := act.run b.directory; (a, { b with directory := d })

def inContacts {α : Type} (act : StateM MemoryContacts α) : Run α :=
  modifyGet fun b => let (a, c) := act.run b.contacts; (a, { b with contacts := c })

/-- Waits `ms` milliseconds on the monotonic clock, as long as the timer lets the wait last. -/
def sleep (ms : Nat) : Run Unit :=
  modify fun b => { b with clock := b.clock + b.timer.waited ms }

def wallClock : Run Int := do pure (← get).now

end Backends

/-- A record store call whose failure is a sync failure. -/
def storeCall {α : Type} (act : StateM MemoryStore (Except StoreError α)) : SyncRun α :=
  ExceptT.mk do pure ((← Backends.inStore act).mapError .recordStore)

/-- A directory call whose failure is a sync failure. -/
def directoryCall {α : Type} (act : StateM MemoryDirectory (Except DirectoryError α)) : SyncRun α :=
  ExceptT.mk do pure ((← Backends.inDirectory act).mapError .directory)

def loadCursor (tenant : String) : Run (Option Int) := do
  pure ((← get).kv.load tenant)

def advanceCursor (tenant : String) (time : Int) : Run Bool :=
  modifyGet fun b => let (kv, moved) := b.kv.advance tenant time; (moved, { b with kv })

/-- Takes a lock for `leaseMs` at the current monotonic time. -/
def tryAcquire (name : String) (leaseMs : Nat) : Run (Option LockToken) :=
  modifyGet fun b => let (kv, t) := b.kv.tryAcquire name leaseMs b.clock; (t, { b with kv })

/-- Whether taking a lock for `leaseMs` now needs a lease end the monotonic clock cannot hold. -/
def leaseOverflows (name : String) (leaseMs : Nat) : Run Bool := do
  let b ← get
  pure (b.kv.leaseOverflows name leaseMs b.clock)

def releaseLock (t : LockToken) : Run Bool :=
  modifyGet fun b => let (kv, ok) := b.kv.release t; (ok, { b with kv })

def isLocked (name : String) : Run Bool := do
  let b ← get
  pure (b.kv.isLocked name b.clock)

end RosterSync.Sync

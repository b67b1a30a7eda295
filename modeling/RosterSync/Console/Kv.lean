import RosterSync.Console.Setup
import RosterSync.Sync.Scheduler

/-!
Sessions against the in-memory cursor and lock store.

A session holds the store, a monotonic clock that only sleeping moves, and the lock tokens it
handed out: the `N`-th of them is written `lock-N`, and `lock-N` in a request names it again (a
token that names none is taken literally). A step that cannot be read is answered with the
reason and changes nothing; the session goes on with the next step. A step that stops the
program (a lease end or a first cursor no clock holds) makes the whole answer the stop.
-/

namespace RosterSync.Console

open RosterSync.Json RosterSync.Storage RosterSync.Sync

/-- The lock name used when a request names none. -/
def defaultLockName : String := "directory_sync"

def defaultLeaseMs : Nat := 300000

def handedIndex? (s : String) : Option Nat :=
  if s.startsWith "lock-" then countText? (s.drop 5).toString else none

/-- The token that a text names among the handed-out ones. -/
def handedToken? (handed : List LockToken) (s : String) : Option LockToken :=
  (handedIndex? s).bind fun n => if n = 0 then none else handed[n - 1]?

/-- How the last of the handed-out tokens is written. -/
def lastHandedName (handed : List LockToken) : Value :=
  txt ("lock-" ++ natText handed.length)

/-- The token a step releases: a handed-out one under its own name unless the step names
another, or a given token under the step's name or the default one. -/
def releasedToken (handed : List LockToken) (req : Value) : Decode LockToken := do
  let s ← textReq req "token"
  let name? ← textOpt req "name"
  match handedToken? handed s with
  | some t => pure { t with name := name?.getD t.name }
  | none => pure { name := name?.getD defaultLockName, holder := .given s }

structure KvSession where
  kv : MemoryKv := {}
  clock : Nat := 0
  handed : List LockToken := []
  /-- Whether the program stopped in a step. -/
  stopped : Bool := false

def KvSession.step (now : Int) (s : KvSession) (req : Value) : Decode (Value × KvSession) := do
  match member? req "do" with
  | some (.str "load") =>
    let tenant ← textOr req "tenant" defaultTenant
    pure (obj [("at", timeOrNull now (s.kv.load tenant))], s)
  | some (.str "advance") | some (.str "cursor_persist") =>
    let tenant ← textOr req "tenant" defaultTenant
    let at_ ← timeOr req "at_ms" 0
    let (kv, moved) := s.kv.advance tenant at_
    pure (obj [("moved", flag moved)], { s with kv })
  | some (.str "acquire") =>
    let name ← textOr req "name" defaultLockName
    let lease ← u64Or req "lease_ms" defaultLeaseMs
    if s.kv.leaseOverflows name lease s.clock then return (.null, { s with stopped := true })
    match s.kv.tryAcquire name lease s.clock with
    | (kv, some t) =>
      let handed := s.handed ++ [t]
      pure (obj [("token", lastHandedName handed)], { s with kv, handed })
    | (kv, none) => pure (obj [("token", .null)], { s with kv })
  | some (.str "release") =>
    let t ← releasedToken s.handed req
    let (kv, released) := s.kv.release t
    pure (obj [("released", flag released)], { s with kv })
  | some (.str "is_locked") =>
    let name ← textOr req "name" defaultLockName
    pure (obj [("locked", flag (s.kv.isLocked name s.clock))], s)
  | some (.str "sleep") =>
    let ms ← u64Or req "ms" 0
    pure (obj [], { s with clock := s.clock + Timer.runtime.waited ms })
  | some (.str "clear") => pure (obj [], { s with kv := s.kv.clear })
  | some (.str "cursor_load") =>
    let tenant ← textOr req "tenant" defaultTenant
    let window ← u64Or req "window_secs" 600
    let cursor? : Option Cursor := match s.kv.load tenant with
      | some t => some ⟨tenant, t⟩
      | none => Cursor.initial? tenant window now
    match cursor? with
    | some c => pure (obj [("tenant_id", txt c.tenantId), ("at", timeJson now c.lastSyncedAt)], s)
    | none => pure (.null, { s with stopped := true })
  | _ => throw (.field "do")

/-- Runs the steps of a session; each answer is the step's or the reason it was refused, and
none when the program stopped in a step. -/
def KvSession.run (now : Int) : KvSession → List Value → Option (List Value)
  | _, [] => some []
  | s, req :: rest =>
    match s.step now req with
    | .ok (answer, s') =>
      if s'.stopped then none else (answer :: ·) <$> KvSession.run now s' rest
    | .error e => (e.toJson :: ·) <$> KvSession.run now s rest

/-- A session against the in-memory cursor and lock store. -/
def kvReply (now : Int) (req : Value) : Decode Value := do
  match KvSession.run now {} (← stepsAt req) with
  | some answers => pure (obj [("steps", .arr answers)])
  | none => pure stoppedAnswer

end RosterSync.Console

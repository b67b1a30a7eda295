import RosterSync.Json.Write

/-!
Sync cursors and lease locks kept in memory.

A cursor is the time, in whole seconds, up to which a tenant's changes were synced. Advancing
it first floors the time to a whole second and then moves only forward: it reports whether the
stored time changed.

A lock is taken by name for a lease. Taking succeeds when the name is free or its lease has run
out, and hands out a fresh token; releasing frees the name only for the token that holds it. A
name is locked while its lease has not run out. Leases are measured on the monotonic clock, in
milliseconds. The clock's instants are whole seconds in a signed 64-bit count from an origin one
second before the clock starts, so a lease cannot end past the last of them: taking a free name
with such a lease stops the program.
-/

-- natural powers take the core instance even where the monoid power is in scope
attribute [local instance (2000)] instPowNat

namespace RosterSync.Storage

open RosterSync.Json

def cursorKey (tenant : String) : String := "directory_sync:last_time:" ++ tenant

def lockKey (task : String) : String := "directory_sync:lock:" ++ task

inductive StorageError where
  | backend (message : String)
  | corrupt (key value : String)
deriving DecidableEq, Repr

def StorageError.message : StorageError → String
  | .backend m => "Storage backend error: " ++ m
  | .corrupt k v => "Corrupt value at '" ++ k ++ "': " ++ v

/-- The proof of holding a lock: the `n`-th token the store issued, or a token given from
outside. Issued tokens are fresh, so a given token never equals one of them. -/
inductive Holder where
  | issued (n : Nat)
  | given (text : String)
deriving DecidableEq, Repr

/-- A lock's name and the token that claims it. -/
structure LockToken where
  name : String
  holder : Holder
deriving DecidableEq, Repr

def floorToSecond (t : Int) : Int := Int.fdiv t 1000 * 1000

/-- The state of the in-memory cursor and lock store. -/
structure MemoryKv where
  cursors : List (String × Int) := []
  /-- Each lock's holder and the monotonic time its lease ends. -/
  locks : List (String × (Holder × Nat)) := []
  /-- How many tokens were handed out. -/
  issued : Nat := 0

namespace MemoryKv

def load (kv : MemoryKv) (tenant : String) : Option Int :=
  (kv.cursors.find? (·.1 == tenant)).map (·.2)

/-- Moves a tenant's cursor forward to `time` floored to a second; whether it moved. -/
def advance (kv : MemoryKv) (tenant : String) (time : Int) : MemoryKv × Bool :=
  let t := floorToSecond time
  match kv.load tenant with
  | some stored =>
    if stored < t then
      ({ kv with cursors := kv.cursors.map fun c => if c.1 == tenant then (tenant, t) else c }, true)
    else (kv, false)
  | none => ({ kv with cursors := kv.cursors ++ [(tenant, t)] }, true)

def lock? (kv : MemoryKv) (name : String) : Option (Holder × Nat) :=
  (kv.locks.find? (·.1 == name)).map (·.2)

/-- Whether a lock's lease runs past the monotonic time `clock`. -/
def isLocked (kv : MemoryKv) (name : String) (clock : Nat) : Bool :=
  match kv.lock? name with
  | some (_, leaseEnd) => leaseEnd > clock
  | none => false

/-- Whether a lease from monotonic time `clock` ends at an instant the clock holds. -/
def leaseEndFits (clock lease : Nat) : Bool := 1 + (clock + lease) / 1000 < 2 ^ (63 : Nat)

/-- Whether taking a lock at monotonic time `clock` needs a lease end the clock cannot hold: only
a free name is given a lease. -/
def leaseOverflows (kv : MemoryKv) (name : String) (lease clock : Nat) : Bool :=
  !kv.isLocked name clock && !leaseEndFits clock lease

/-- Takes a lock at monotonic time `clock` for `lease` milliseconds. -/
def tryAcquire (kv : MemoryKv) (name : String) (lease clock : Nat) : MemoryKv × Option LockToken :=
  if kv.isLocked name clock then (kv, none)
  else
    let holder := Holder.issued (kv.issued + 1)
    let locks := (kv.locks.filter (·.1 != name)) ++ [(name, (holder, clock + lease))]
    ({ kv with locks, issued := kv.issued + 1 }, some { name, holder })

/-- Frees a lock held by the token; whether it was held by it. -/
def release (kv : MemoryKv) (t : LockToken) : MemoryKv × Bool :=
  match kv.lock? t.name with
  | some (holder, _) =>
    if holder == t.holder then ({ kv with locks := kv.locks.filter (·.1 != t.name) }, true)
    else (kv, false)
  | none => (kv, false)

def clear (kv : MemoryKv) : MemoryKv := { kv with cursors := [], locks := [] }

end MemoryKv

end RosterSync.Storage

import RosterSync.Storage.Memory
import RosterSync.Text.Blank
import RosterSync.Calendar

/-!
The Redis store of cursors and locks, as its client drives the server.

A tenant's cursor is kept under `cursorKey tenant` as the decimal text of its Unix seconds, and a
lock under `lockKey name` as the text of its token, the lease being the key's expiry. Advancing a
cursor runs a script that reads the stored text and stores the new one unless the stored text
reads as a number at least the new one; loading reads the text back, trims it, reads it as a
signed 64-bit count of seconds and fails on a text that is no such count or names no date. Taking
a lock generates a fresh token and sends `SET key token NX PX ms`, with the lease in whole
milliseconds cut to its low 64 bits; releasing runs a script that deletes the key when it still
holds the token's text. A script runs on the server at once, with nothing in between.

The server is not part of this library: `RedisServer` is what the client asks of it. Reading and
deleting a key and setting one with an expiry happen at the server's time in milliseconds, and a
script compares numbers through Lua's `tonumber`, whose numbers are kept as their exact values.
The tokens are the texts of fresh v4 UUIDs, the `n`-th one handed out being `uuid n`; a token
given from outside is its own text.
-/

-- natural powers take the core instance even where the monoid power is in scope
attribute [local instance (2000)] instPowNat

namespace RosterSync.Storage

open RosterSync.Json

/-- The commands a Redis server answers for the store, over the server's state `σ`. -/
structure RedisServer (σ : Type) where
  /-- `GET key` at a time: the key's value, if it is there and not expired. -/
  get : String → Nat → σ → Option String
  /-- `SET key value`, with no expiry. -/
  set : String → String → σ → σ
  /-- `SET key value NX PX ms` at a time: whether the key was set, or the error reply. -/
  setNxPx : String → String → Nat → Nat → σ → Except String Bool × σ
  /-- `DEL key` at a time: how many keys were deleted. -/
  del : String → Nat → σ → Nat × σ
  /-- Lua's `tonumber` of a text. -/
  toNumber : String → Option Rat

/-- The Redis store: a server, and the texts of the tokens the client generates. -/
structure RedisStore (σ : Type) where
  server : RedisServer σ
  /-- The text of the `n`-th token the client generates. -/
  uuid : Nat → String

/-- The state a Redis store works on: the server's, and how many tokens the client generated. -/
structure RedisState (σ : Type) where
  server : σ
  generated : Nat := 0

namespace RedisStore

variable {σ : Type} (r : RedisStore σ)

def tokenText : Holder → String
  | .issued n => r.uuid n
  | .given text => text

/-- The cursor script on a key and the new number's text: 0 when the stored text reads as a
number at least the new one, else the new text is stored and 1. Comparing a stored number with
a new text that is no number is a script error. -/
def advanceScript (key arg : String) (now : Nat) (s : σ) : Except String Nat × σ :=
  match r.server.get key now s with
  | none => (.ok 1, r.server.set key arg s)
  | some current =>
    match r.server.toNumber current with
    | none => (.ok 1, r.server.set key arg s)
    | some stored =>
      match r.server.toNumber arg with
      | none => (.error "user_script:3: attempt to compare nil with number", s)
      | some given => if given ≤ stored then (.ok 0, s) else (.ok 1, r.server.set key arg s)

/-- The lock script on a key and a token's text: deletes the key when it holds the text, and
answers how many keys it deleted. -/
def releaseScript (key token : String) (now : Nat) (s : σ) : Nat × σ :=
  if r.server.get key now s = some token then r.server.del key now s else (0, s)

/-- A tenant's cursor, in milliseconds: the stored seconds, trimmed and read as a signed 64-bit
count that names a date. -/
def load (tenant : String) (now : Nat) (st : RedisState σ) : Except StorageError (Option Int) :=
  match r.server.get (cursorKey tenant) now st.server with
  | none => .ok none
  | some raw =>
    match Text.parseI64? (Text.trim raw) with
    | some secs =>
      if Calendar.holds (secs * 1000) then .ok (some (secs * 1000))
      else .error (.corrupt (cursorKey tenant) raw)
    | none => .error (.corrupt (cursorKey tenant) raw)

/-- Advances a tenant's cursor to `time`'s whole seconds; whether the stored value changed. -/
def advance (tenant : String) (time : Int) (now : Nat) (st : RedisState σ) :
    Except StorageError Bool × RedisState σ :=
  let run := r.advanceScript (cursorKey tenant) (intText (time.fdiv 1000)) now st.server
  (((run.1.map (· == 1)).mapError .backend), { st with server := run.2 })

/-- What the reply to `SET NX PX` means for a lock: the token when the key was set, none when the
key was there, and the server's error otherwise. -/
def acquireReply (token : LockToken) : Except String Bool → Except StorageError (Option LockToken)
  | .ok true => .ok (some token)
  | .ok false => .ok none
  | .error e => .error (.backend e)

/-- Takes a lock at time `now` for `leaseMs` milliseconds, sent cut to 64 bits. -/
def tryAcquire (name : String) (leaseMs now : Nat) (st : RedisState σ) :
    Except StorageError (Option LockToken) × RedisState σ :=
  let token : LockToken := { name, holder := .issued (st.generated + 1) }
  let sent :=
    r.server.setNxPx (lockKey name) (r.tokenText token.holder) (leaseMs % 2 ^ (64 : Nat)) now st.server
  (acquireReply token sent.1, { server := sent.2, generated := st.generated + 1 })

/-- Releases a lock at time `now`; whether its key held the token. -/
def release (t : LockToken) (now : Nat) (st : RedisState σ) : Bool × RedisState σ :=
  let run := r.releaseScript (lockKey t.name) (r.tokenText t.holder) now st.server
  (run.1 == 1, { st with server := run.2 })

end RedisStore

end RosterSync.Storage

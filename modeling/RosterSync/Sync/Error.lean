import RosterSync.Record.Error
import RosterSync.Directory.Entity
import RosterSync.Storage.Memory
import RosterSync.Calendar

/-!
Failures and outcomes of syncing.

A sync fails in the record store, in the directory, in the cursor and lock store, or before any
call: when an entity yields no fields to write, or has no external id. The first three are
retryable as their cause is; the last two never are.

An upsert creates, updates, marks departed or deletes one row, or skips when there is nothing to
delete. A pass reports, per kind, how many entities were synced and how many failed.
-/

-- natural powers take the core instance even where the monoid power is in scope
attribute [local instance (2000)] instPowNat

namespace RosterSync.Sync

open RosterSync.Record RosterSync.Directory RosterSync.Storage

inductive SyncError where
  | recordStore (e : StoreError)
  | directory (e : DirectoryError)
  | storage (message : String)
  | emptyFieldSet (kind : Kind) (externalId : String)
  | missingExternalId (kind : Kind)
deriving DecidableEq, Repr

namespace SyncError

def message : SyncError → String
  | .recordStore e => "record store: " ++ e.message
  | .directory e => "directory: " ++ e.message
  | .storage m => "kv store: " ++ m
  | .emptyFieldSet k id => "no platform fields to write for " ++ k.name ++ " '" ++ id ++ "'"
  | .missingExternalId k => k.name ++ " entity has no external ID"

def isRetryable : SyncError → Bool
  | .recordStore e => e.isRetryable
  | .directory e => e.isRetryable
  | .storage _ => true
  | .emptyFieldSet _ _ => false
  | .missingExternalId _ => false

def variant : SyncError → String
  | .recordStore _ => "RecordStore"
  | .directory _ => "Directory"
  | .storage _ => "Storage"
  | .emptyFieldSet _ _ => "EmptyFieldSet"
  | .missingExternalId _ => "MissingExternalId"

def ofStorage (e : StorageError) : SyncError := .storage e.message

end SyncError

inductive Outcome where
  | created (rowId : String)
  | updated (rowId : String)
  | departed (rowId : String)
  | deleted (rowId : String)
  | skipped
deriving DecidableEq, Repr

namespace Outcome

def rowId? : Outcome → Option String
  | .created r => some r
  | .updated r => some r
  | .departed r => some r
  | .deleted r => some r
  | .skipped => none

def name : Outcome → String
  | .created _ => "created"
  | .updated _ => "updated"
  | .departed _ => "departed"
  | .deleted _ => "deleted"
  | .skipped => "skipped"

end Outcome

structure KindReport where
  succeeded : Nat := 0
  failed : Nat := 0
deriving DecidableEq, Repr

def KindReport.total (r : KindReport) : Nat := r.succeeded + r.failed

structure PassReport where
  departments : KindReport := {}
  staff : KindReport := {}
deriving DecidableEq, Repr

def PassReport.failed (r : PassReport) : Nat := r.departments.failed + r.staff.failed

structure Cursor where
  tenantId : String
  /-- Unix milliseconds. -/
  lastSyncedAt : Int
deriving DecidableEq, Repr

namespace Cursor

/-- The longest window, in milliseconds, that is taken as given; a longer one is ten minutes. -/
def maxWindowMs : Nat := 2 ^ (63 : Nat) - 1

/-- The window of `windowSecs` seconds in milliseconds, or ten minutes when it is too long. -/
def windowMs (windowSecs : Nat) : Nat :=
  if windowSecs * 1000 > maxWindowMs then 600 * 1000 else windowSecs * 1000

/-- The cursor one window before `now`, or none when that lies before the calendar's start: no
date is one window back, and the program stops. -/
def initial? (tenantId : String) (windowSecs : Nat) (now : Int) : Option Cursor :=
  let t := now - windowMs windowSecs
  if Calendar.holds t then some ⟨tenantId, t⟩ else none

def advancedTo (c : Cursor) (time : Int) : Cursor := ⟨c.tenantId, max c.lastSyncedAt time⟩

/-- Whole seconds from the cursor to `now`, never negative. -/
def lagSecs (c : Cursor) (now : Int) : Int := max 0 (Int.tdiv (now - c.lastSyncedAt) 1000)

end Cursor

inductive ScheduledRun where
  | completed (cursor : Cursor) (report : PassReport)
  | lockHeld
  | disabled
deriving DecidableEq, Repr

end RosterSync.Sync

import RosterSync.Remote
import RosterSync.Engine

/-!
Starting the engine from its settings.

Startup checks the settings, builds the record store client, opens the directory database,
builds the contact API client and, when a Redis URL is set, connects the Redis store; the
first step that fails ends startup with its failure. Only an in-memory directory database can
be opened. An engine that starts is created idle.
-/

namespace RosterSync

open RosterSync.Record RosterSync.Directory RosterSync.Storage RosterSync.Remote

inductive StartupError where
  | config (e : ConfigError)
  | recordStore (e : StoreError)
  | directory (e : DirectoryError)
  | storage (e : StorageError)

/-- The message of a startup failure: that of the failure inside. -/
def StartupError.message : StartupError → String
  | .config e => e.message
  | .recordStore e => e.message
  | .directory e => e.message
  | .storage e => e.message

def StartupError.variant : StartupError → String
  | .config _ => "Config"
  | .recordStore _ => "RecordStore"
  | .directory _ => "Directory"
  | .storage _ => "Storage"

def memoryDirectoryUrl : String := "sqlite::memory:"

def connectDirectory (url : String) : Except DirectoryError Unit :=
  if url == memoryDirectoryUrl then .ok () else .error (.database ("cannot open " ++ url))

/-- Starts an engine from its settings, with the Redis URL to connect, if any. -/
def Engine.connect (c : SyncConfig) (redisUrl : Option String) : Except StartupError Engine := do
  c.validate.mapError .config
  let _ ← (connectStore c.recordStore).mapError .recordStore
  let some url := c.directoryUrl | throw (.config (.missing "directory_url"))
  (connectDirectory url).mapError .directory
  (connectContacts c.contactApi).mapError .directory
  if let some r := redisUrl then (connectRedis r).mapError .storage
  pure {}

end RosterSync

import RosterSync.Config
import RosterSync.Record.Error
import RosterSync.Directory.Entity
import RosterSync.Storage.Memory

/-!
Clients of remote services.

The record store's HTTP clients, the contact API client and the Redis store of cursors and locks
talk to their services over the network. This library runs in a sealed environment in which no
connection is accepted, so what a client does is decided before the network: building a client
checks its settings, and every request of a built client then fails in transport before anything
is sent. Connecting to Redis fails in the storage backend.

Building a record store client validates its settings and answers with the protocol it speaks;
building a contact API client needs a corporation id and a secret.
-/

namespace RosterSync.Remote

open RosterSync.Record RosterSync.Directory RosterSync.Storage

/-- Builds a record store client: the protocol it speaks, or the misconfiguration. -/
def connectStore (c : RecordStoreConfig) : Except StoreError Protocol :=
  match c.validate with
  | .ok () => .ok c.protocol
  | .error e => .error (.configuration e.message)

/-- The failure of every request of a record store client. -/
def storeUnreachable : StoreError := .transport false "connection refused"

/-- Builds a contact API client, which needs a corporation id and a secret. -/
def connectContacts (c : ContactApiConfig) : Except DirectoryError Unit :=
  if c.corpId.isEmpty || c.secret.isEmpty then
    .error (.api (-1) "contact API corp_id and secret are required")
  else .ok ()

/-- The failure of every request of a contact API client. -/
def contactsUnreachable : DirectoryError := .transport "connection refused"

def connectRedis (_url : String) : Except StorageError Unit :=
  .error (.backend "connection refused")

end RosterSync.Remote

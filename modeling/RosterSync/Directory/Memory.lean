import RosterSync.Directory.Entity

/-!
A directory and a contact API kept in memory.

The directory holds at most one entity per tenant, kind and external id; putting an entity
replaces the one of the same key. Lists are sorted by external id; a change list keeps the
entities changed strictly after the given time. One failure can be set to answer the next read.

The contact API holds contacts by external user id and logs the contact-way requests it takes;
the `n`-th request gets the configuration id `cfg-n`. Reading an unknown contact is the API
error 84061. It too answers its next call with a failure once one is set.
-/

namespace RosterSync.Directory

open RosterSync.Json

/-- Inserts an entity into a list sorted by external id, replacing one of the same id. -/
def insertByExternalId (e : Entity) : List Entity → List Entity
  | [] => [e]
  | x :: rest =>
    if e.externalId = x.externalId then e :: rest
    else if e.externalId < x.externalId then e :: x :: rest
    else x :: insertByExternalId e rest

structure MemoryDirectory where
  /-- Entities of each tenant and kind, sorted by external id. -/
  entities : String → Kind → List Entity := fun _ _ => []
  failure : Option DirectoryError := none

namespace MemoryDirectory

def put (d : MemoryDirectory) (e : Entity) : MemoryDirectory :=
  { d with entities := fun t k =>
      if t = e.tenantId ∧ k = e.kind then insertByExternalId e (d.entities t k) else d.entities t k }

def remove (d : MemoryDirectory) (tenant : String) (kind : Kind) (externalId : String) :
    MemoryDirectory :=
  { d with entities := fun t k =>
      if t = tenant ∧ k = kind then (d.entities t k).filter (·.externalId != externalId)
      else d.entities t k }

def failNext (d : MemoryDirectory) (e : DirectoryError) : MemoryDirectory :=
  { d with failure := some e }

def checkFailure : StateM MemoryDirectory (Option DirectoryError) := do
  let d ← get
  set { d with failure := none }
  pure d.failure

def get? (tenant : String) (kind : Kind) (externalId : String) :
    StateM MemoryDirectory (Except DirectoryError (Option Entity)) := do
  match ← checkFailure with
  | some e => pure (.error e)
  | none => pure (.ok (((← MonadState.get).entities tenant kind).find? (·.externalId == externalId)))

/-- The entities of a tenant and kind, by external id. -/
def list (tenant : String) (kind : Kind) :
    StateM MemoryDirectory (Except DirectoryError (List Entity)) := do
  match ← checkFailure with
  | some e => pure (.error e)
  | none => pure (.ok ((← MonadState.get).entities tenant kind))

/-- The entities of a tenant and kind changed strictly after `since`, by external id. -/
def listChangedSince (tenant : String) (kind : Kind) (since : Int) :
    StateM MemoryDirectory (Except DirectoryError (List Entity)) := do
  match ← checkFailure with
  | some e => pure (.error e)
  | none => pure (.ok (((← MonadState.get).entities tenant kind).filter (·.updatedAt > since)))

end MemoryDirectory

structure MemoryContacts where
  contacts : List (String × Contact) := []
  /-- Contact-way requests taken, oldest first. -/
  requests : List ContactWayRequest := []
  failure : Option DirectoryError := none

namespace MemoryContacts

def put (c : MemoryContacts) (contact : Contact) : MemoryContacts :=
  { c with contacts :=
      (c.contacts.filter (·.1 != contact.externalUserId)) ++ [(contact.externalUserId, contact)] }

def failNext (c : MemoryContacts) (e : DirectoryError) : MemoryContacts :=
  { c with failure := some e }

def checkFailure : StateM MemoryContacts (Option DirectoryError) := do
  let c ← get
  set { c with failure := none }
  pure c.failure

def addContactWay (request : ContactWayRequest) :
    StateM MemoryContacts (Except DirectoryError ContactWay) := do
  match ← checkFailure with
  | some e => pure (.error e)
  | none =>
    let c ← get
    let requests := c.requests ++ [request]
    set { c with requests }
    let configId := "cfg-" ++ natText requests.length
    pure (.ok { configId, qrCode := "https://qr.example.com/" ++ configId })

def getExternalContact (externalUserId : String) :
    StateM MemoryContacts (Except DirectoryError Contact) := do
  match ← checkFailure with
  | some e => pure (.error e)
  | none =>
    match ((← get).contacts.find? (·.1 == externalUserId)) with
    | some (_, contact) => pure (.ok contact)
    | none => pure (.error (.api 84061 ("external contact " ++ externalUserId ++ " not found")))

end MemoryContacts

end RosterSync.Directory

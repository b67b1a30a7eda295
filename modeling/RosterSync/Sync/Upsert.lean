import RosterSync.Sync.Backends
import RosterSync.Mapping
import RosterSync.Config

/-!
Writing one directory entity into its worksheet.

An entity's row is found by its external id in the worksheet's title field. Creating or updating
first builds the fields (failing when there are none, then when the external id is empty), then
looks the row up, and updates it when found or creates one otherwise. A staff member's
department links are resolved after the lookup and written as a relation when any resolve.
Deleting needs an external id and a row: a department's row is deleted, a staff member's row is
marked departed; without a row the deletion is skipped.

Resolving a department link takes the department's row; when there is none, the department is
read from the directory and created, and looked up again. A link that fails at any step is
dropped; resolving never fails.
-/

namespace RosterSync.Sync

open RosterSync.Json RosterSync.Record RosterSync.Directory RosterSync.Mapping

/-- The row of an external id in a worksheet, if any. -/
def lookup (m : WorksheetMapping) (externalId : String) : SyncRun (Option Row) :=
  storeCall (MemoryStore.findOne m.worksheet (Filter.eq m.externalIdField externalId))

/-- The fields to write for an entity: never empty, and only for an entity with an id. -/
def prepareFields (m : WorksheetMapping) (e : Entity) : Except SyncError Fields :=
  let fields := m.buildFields e
  if fields.isEmpty then .error (.emptyFieldSet e.kind e.externalId)
  else if e.externalId.isEmpty then .error (.missingExternalId e.kind)
  else .ok fields

def writeRow (m : WorksheetMapping) (existing : Option Row) (fields : Fields) : SyncRun Outcome :=
  match existing with
  | some row => do
    storeCall (MemoryStore.updateRow m.worksheet row.rowId fields)
    pure (.updated row.rowId)
  | none => do
    let rowId ← storeCall (MemoryStore.createRow m.worksheet fields)
    pure (.created rowId)

/-- The row a deletion acts on; an entity without an external id cannot be deleted. -/
def lookupForDelete (m : WorksheetMapping) (e : Entity) : SyncRun (Option Row) := do
  if e.externalId.isEmpty then throw (.missingExternalId e.kind)
  lookup m e.externalId

def upsertDepartment (e : Entity) (a : Action) : SyncRun Outcome :=
  let m := departmentMapping
  match a with
  | .create | .update => do
    let fields ← liftExcept (prepareFields m e)
    let existing ← lookup m e.externalId
    writeRow m existing fields
  | .delete => do
    match ← lookupForDelete m e with
    | none => pure .skipped
    | some row =>
      storeCall (MemoryStore.deleteRow m.worksheet row.rowId)
      pure (.deleted row.rowId)
where
  liftExcept {α : Type} (x : Except SyncError α) : SyncRun α := ExceptT.mk (pure x)

/-- The row of one department link, creating the department's row when missing. -/
def resolveOne (tenant externalId : String) : Run (Option String) := do
  match ← (lookup departmentMapping externalId).run with
  | .ok (some row) => pure (some row.rowId)
  | .error _ => pure none
  | .ok none =>
    match ← (directoryCall (MemoryDirectory.get? tenant .department externalId)).run with
    | .ok (some department) =>
      match ← (upsertDepartment department .create).run with
      | .error _ => pure none
      | .ok _ =>
        match ← (lookup departmentMapping externalId).run with
        | .ok (some row) => pure (some row.rowId)
        | _ => pure none
    | _ => pure none

/-- The rows of department links, in order, dropping the links that do not resolve. -/
def resolve (tenant : String) (ids : List String) : Run (List String) :=
  ids.filterMapM (resolveOne tenant)

def upsertStaff (e : Entity) (a : Action) : SyncRun Outcome :=
  let m := staffMapping
  match a with
  | .create | .update => do
    let fields ← ExceptT.mk (pure (prepareFields m e))
    let existing ← lookup m e.externalId
    let rows ← (resolve e.tenantId e.departmentIds : Run (List String))
    let fields := if rows.isEmpty then fields else fields.insert departmentsField (relationValue rows)
    writeRow m existing fields
  | .delete => do
    match ← lookupForDelete m e with
    | none => pure .skipped
    | some row =>
      storeCall (MemoryStore.updateRow m.worksheet row.rowId [(statusField, dropdownValue departedKey)])
      pure (.departed row.rowId)

def upsert (e : Entity) (a : Action) : SyncRun Outcome :=
  match e.kind with
  | .department => upsertDepartment e a
  | .staff => upsertStaff e a

/-- Writes a change under the retry policy; a failure that stays is logged and gives `none`. -/
def upsertWithRetry (policy : RetryPolicy) (e : Entity) (a : Action) : Run (Option Outcome) := do
  match ← retry policy SyncError.isRetryable Backends.sleep (upsert e a).run with
  | .ok outcome => pure (some outcome)
  | .error _ => pure none

end RosterSync.Sync

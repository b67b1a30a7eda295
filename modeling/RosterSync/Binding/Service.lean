import RosterSync.Binding.Customer
import RosterSync.Token

/-!
Binding customers to external contacts.

A customer row is bound when its external-user field has a value. Binding needs a row id and a
contact id, an existing and unbound row, and the contact's profile, which is then written onto
the row with the staff member's id. Changing a binding to another row needs that row unbound,
clears the old row's binding fields, then writes the new row; the two writes are separate, so a
failure of the second leaves the contact bound to neither. A QR contact way carries the
correlation token of a row; when a customer scans it, the callback's state leads back to the row
and its profile is written in the background.
-/

namespace RosterSync.Binding

open RosterSync.Json RosterSync.Record RosterSync.Directory RosterSync.Sync

/-- The gender code written for a contact: `1`, `2`, or `0` for anything else. -/
def genderCode (gender : Nat) : String :=
  if gender = 1 then "1" else if gender = 2 then "2" else "0"

/-- Customer fields from a contact's profile; empty values are left out. -/
def profileFields (c : Contact) (staffId : Option String) : Fields :=
  let put (acc : Fields) (key value : String) : Fields :=
    if value.isEmpty then acc else acc.insert key (.str value)
  let acc : Fields := []
  let acc := put acc CustomerField.externalUserId c.externalUserId
  let acc := put acc CustomerField.wechatName c.name
  let acc := put acc CustomerField.wechatGender (genderCode c.gender)
  let acc := put acc CustomerField.wechatAvatar c.avatar
  let acc := put acc CustomerField.wechatUnionId c.unionId
  let acc := match c.externalProfile with
    | some p => put acc CustomerField.externalProfile p.render
    | none => acc
  match staffId with
  | some s => put acc CustomerField.staffId s
  | none => acc

def clearedFields : Fields :=
  CustomerField.binding.foldl (fun acc k => acc.insert k (.str "")) []

/-- A contact API call whose failure is a binding failure. -/
def contactCall {α : Type} (act : StateM MemoryContacts (Except DirectoryError α)) :
    ExceptT BindError Run α :=
  ExceptT.mk do pure ((← Backends.inContacts act).mapError BindError.ofDirectory)

/-- Reads the contact and writes its profile onto the row. -/
def writeProfile (rowId externalUserId staffId : String) : ExceptT BindError Run Unit := do
  let contact ← contactCall (MemoryContacts.getExternalContact externalUserId)
  let values := profileFields contact (some staffId)
  let values := if (values.get? CustomerField.externalUserId).isSome then values
    else values.insert CustomerField.externalUserId (.str externalUserId)
  customerCall (MemoryStore.updateRow .customer rowId values)

def ensureUnbound (rowId : String) : ExceptT BindError Run Unit := do
  match ← customerCall (MemoryStore.getRow .customer rowId) with
  | none => throw (.notFound ("customer " ++ rowId))
  | some row =>
    if row.hasValue CustomerField.externalUserId then
      throw (.conflict ("customer " ++ rowId ++ " is already bound"))

/-- Fails unless both the row id and the contact id are given. -/
def require (rowId externalUserId : String) : Except BindError Unit :=
  if rowId.isEmpty then .error (.badRequest "row_id is required")
  else if externalUserId.isEmpty then .error (.badRequest "external_user_id is required")
  else .ok ()

def bind (rowId externalUserId staffId : String) : ExceptT BindError Run Unit := do
  ExceptT.mk (pure (require rowId externalUserId))
  ensureUnbound rowId
  writeProfile rowId externalUserId staffId

/-- Moves a binding from one row to another; with equal ids the row is refreshed. -/
def changeBinding (oldRowId newRowId externalUserId staffId : String) :
    ExceptT BindError Run Unit := do
  if oldRowId.isEmpty then throw (.badRequest "old_row_id is required")
  ExceptT.mk (pure (require newRowId externalUserId))
  if oldRowId != newRowId then
    ensureUnbound newRowId
    customerCall (MemoryStore.updateRow .customer oldRowId clearedFields)
  writeProfile newRowId externalUserId staffId

/-- Issues a QR contact way whose callback carries the row's correlation token. -/
def contactWayQr (L : Token.Codecs) (staffId correlationId : String) :
    ExceptT BindError Run ContactWay := do
  if staffId.isEmpty then throw (.badRequest "staff_id is required")
  let state := Token.encode L correlationId
  if state.utf8ByteSize > Token.maxStateLen then
    throw (.badRequest ("state is " ++ natText state.utf8ByteSize ++ " characters, limit is " ++
      natText Token.maxStateLen))
  contactCall (MemoryContacts.addContactWay { staffId, state, skipVerify := true })

inductive ContactAdded where
  /-- The state was not issued here. -/
  | notOurs
  /-- The state was issued here but names no row, or no contact came with it. -/
  | dropped
  /-- The profile was written in the background. -/
  | spawned
deriving DecidableEq, Repr

/-- Handles a contact-added callback; the background write is awaited and its failure stays in
the background. -/
def acceptContactAdded (L : Token.Codecs) (staffId externalUserId state : String) :
    Run ContactAdded := do
  if !Token.isCorrelationState state then return .notOurs
  let rowId := Token.decode L state
  if rowId.isEmpty || externalUserId.isEmpty then return .dropped
  let _ ← (writeProfile rowId externalUserId staffId).run
  pure .spawned

end RosterSync.Binding

import RosterSync.Binding.Error
import RosterSync.Sync.Backends
import RosterSync.Text.Blank

/-!
The customer worksheet as a chat sidebar sees it.

Seven fields record a binding to an external contact, and eight field ids (those seven by id,
and the embedded QR code) are never shown: rows leave the service without them. Twenty fields
are shown, some of them editable. Matching finds the customer bound to a contact; searching
finds customers whose phone or customer number contains a keyword (trimmed, and required);
updating writes only editable fields and refuses when none are left; the form lists the
worksheet's fields without hidden ones, each id once, marked editable or not.
-/

namespace RosterSync.Binding

open RosterSync.Json RosterSync.Record RosterSync.Directory RosterSync.Sync

/-! Customer fields a binding writes, by alias, and the two searched by keyword. -/

namespace CustomerField

def staffId : String := "wecomStaffID"
def wechatName : String := "wechatName"
def wechatGender : String := "wechatGender"
def externalUserId : String := "wecomExternalUserid"
def wechatAvatar : String := "wechatAvatar"
def wechatUnionId : String := "wechatUnionId"
def externalProfile : String := "wecomExternalProfile"
def phone : String := "692f976f7001b729cd1c01c1"
def customerNo : String := "693660e95326c71216b1b87a"

/-- Every field a binding writes and a rebinding clears. -/
def binding : List String :=
  [staffId, wechatName, wechatGender, externalUserId, wechatAvatar, wechatUnionId, externalProfile]

end CustomerField

/-- Field ids never shown: the binding fields by id and the embedded QR code. -/
def hiddenFieldIds : List String :=
  ["696610f93d7d0e60bca91d26", "6966103cc62174e0bab32b9c", "6966103cc62174e0bab32b9d",
   "6966103cc62174e0bab32b9e", "6966103cc62174e0bab32b9f", "6966103cc62174e0bab32ba0",
   "6966103cc62174e0bab32ba1", "696613717a7a413b01fc2036"]

/-- The sidebar's fields: id, label, type, and whether it may be edited. -/
def displayFields : List (String × String × String × Bool) :=
  [("693660e95326c71216b1b87a", "Customer No.", "AutoNumber", false),
   ("692f976f7001b729cd1c01c1", "Phone", "Text", false),
   ("693660e95326c71216b1b87b", "Track group", "Text", true),
   ("693660e95326c71216b1b87c", "After-sales group", "Text", true),
   ("692f976f7001b729cd1c01bf", "Lead account", "Text", true),
   ("692f976f7001b729cd1c01be", "Douyin name", "Text", true),
   ("694a39afa87445aaca8c3ec3", "Douyin ID", "Text", true),
   ("692f976f7001b729cd1c01c0", "Host", "Dropdown", true),
   ("692feedb2328de1fe0c8f600", "Date", "Date", true),
   ("692f976f7001b729cd1c01c5", "Order No.", "Text", false),
   ("694e20662a4f51165dfa2264", "Shipping address", "Text", true),
   ("694b6d090d5691f00accd141", "Intent", "Dropdown", true),
   ("694b70a80d5691f00acce09f", "Progress", "Dropdown", true),
   ("692f976f7001b729cd1c01c2", "Needs", "MultipleSelect", true),
   ("694bc08a0d5691f00ace2e61", "Renovation stage", "Dropdown", true),
   ("694bc08a0d5691f00ace2e62", "Layout", "Dropdown", true),
   ("695a258487071723ff4e1dd1", "Total received", "Rollup", false),
   ("695a258487071723ff4e1dd2", "Total refunded", "Rollup", false),
   ("692f976f7001b729cd1c01c3", "Designer", "Collaborator", false),
   ("694b6c7a0d5691f00acccf70", "Track", "Collaborator", false)]

def isEditable (fieldId : String) : Bool :=
  displayFields.any fun f => f.1 == fieldId && f.2.2.2

def isHidden (fieldId : String) : Bool :=
  hiddenFieldIds.contains fieldId || CustomerField.binding.contains fieldId

def stripHidden (row : Row) : Row :=
  { row with fields := row.fields.filter fun kv => !isHidden kv.1 }

structure FieldConfig where
  id : String
  name : String
  fieldType : String
  editable : Bool
  options : List SchemaOption

/-- A record store call whose failure is a binding failure. -/
def customerCall {α : Type} (act : StateM MemoryStore (Except StoreError α)) :
    ExceptT BindError Run α :=
  ExceptT.mk do pure ((← Backends.inStore act).mapError BindError.ofStore)

/-- The customer bound to an external contact, without hidden fields. -/
def matchByExternalUser (externalUserId : String) : ExceptT BindError Run (Option Row) := do
  if externalUserId.isEmpty then throw (.badRequest "external_user_id is required")
  let row ← customerCall (MemoryStore.findOne .customer
    (Filter.eq CustomerField.externalUserId externalUserId))
  pure (row.map stripHidden)

/-- Customers whose phone or customer number contains the trimmed keyword. -/
def search (keyword : String) (page : Page) : ExceptT BindError Run RowPage := do
  let keyword := Text.trim keyword
  if keyword.isEmpty then throw (.badRequest "search keyword is required")
  let filter := (Filter.contains CustomerField.phone keyword).or
    (Filter.contains CustomerField.customerNo keyword)
  let found ← customerCall (MemoryStore.filterRows .customer filter page)
  pure { found with rows := found.rows.map stripHidden }

def getCustomer (rowId : String) : ExceptT BindError Run Row := do
  if rowId.isEmpty then throw (.badRequest "row_id is required")
  match ← customerCall (MemoryStore.getRow .customer rowId) with
  | some row => pure (stripHidden row)
  | none => throw (.notFound ("customer " ++ rowId))

/-- Writes the editable fields of `updates`; how many were written. -/
def updateFields (rowId : String) (updates : Fields) : ExceptT BindError Run Nat := do
  if rowId.isEmpty then throw (.badRequest "row_id is required")
  let editable := updates.filter fun kv => isEditable kv.1
  if editable.isEmpty then throw (.badRequest "no editable fields to update")
  customerCall (MemoryStore.updateRow .customer rowId editable)
  pure editable.length

def firstOfEachId : List SchemaField → List String → List SchemaField
  | [], _ => []
  | f :: rest, seen =>
    if seen.contains f.id then firstOfEachId rest seen else f :: firstOfEachId rest (f.id :: seen)

/-- The sidebar form: the schema without hidden fields, each id once. -/
def fieldConfigs : ExceptT BindError Run (List FieldConfig) := do
  let schema ← customerCall (MemoryStore.worksheetSchema .customer)
  let shown := schema.filter fun f =>
    !isHidden f.id && !(match f.fieldAlias with | some a => isHidden a | none => false)
  pure ((firstOfEachId shown []).map fun f =>
    { id := f.id, name := f.name, fieldType := f.fieldType, editable := isEditable f.id,
      options := f.options })

end RosterSync.Binding

import RosterSync.Directory.Entity
import RosterSync.Record.Row
import RosterSync.Text.Blank

/-!
How directory attributes become worksheet fields.

Each kind of entity has a worksheet, a title field that holds the external id, and a table from
attribute purposes to fields. A value is encoded by the kind of its field:

* text: a nonempty string as it is, a number as its JSON text, a Boolean as `true`/`false`;
* dropdown: an integer code (a JSON integer in the signed 64-bit range, or a string that reads
  as one once trimmed) looked up in the field's option table, written `[key]`;
* attachment: a nonempty URL, written `[{"name", "url"}]` with the file name of the URL;
* relation: a nonempty array, as it is.

Any other value is left out. The fields of an entity are its external id (when nonempty) and its
mapped attributes, in the order of their purposes.
-/

namespace RosterSync.Mapping

open RosterSync.Json RosterSync.Record RosterSync.Directory

def departedKey : String := "7115d2e2-7d18-4881-b394-9181c395d691"

def genderOptions : List (Int × String) :=
  [(1, "27a67e42-741f-43a1-ac68-fa1a752f7373"), (2, "2bbc0fe0-7cce-4764-9e62-806625a36283")]

/-- Staff status codes and their option keys; disabled and gone both mean departed. -/
def statusOptions : List (Int × String) :=
  [(1, "03084068-0aa5-4c4a-9c6b-37a0d960a877"), (2, departedKey),
   (4, "8acd41cf-2233-4f07-9af4-5f45e4d1cb8e"), (5, departedKey)]

def departmentsField : String := "wecom_dep_id"

def statusField : String := "staff_status"

/-- The file name used when a URL names none. -/
def defaultAttachmentName : String := "avatar.jpg"

inductive FieldKind where
  | text
  | dropdown (options : List (Int × String))
  | attachment
  | relation
deriving Repr

def FieldKind.name : FieldKind → String
  | .text => "text"
  | .dropdown _ => "dropdown"
  | .attachment => "attachment"
  | .relation => "relation"

structure FieldMapping where
  purpose : String
  fieldId : String
  kind : FieldKind

/-- The mapping of one kind of entity onto its worksheet. -/
structure WorksheetMapping where
  worksheet : Worksheet
  externalIdField : String
  fields : List FieldMapping

def departmentMapping : WorksheetMapping :=
  { worksheet := .department, externalIdField := "69660ddb84223902b9ec7a72",
    fields := [⟨"name", "69660ddb84223902b9ec7a73", .text⟩] }

def staffMapping : WorksheetMapping :=
  { worksheet := .staff, externalIdField := "wecom_staff_id",
    fields := [⟨"name", "wecom_username", .text⟩, ⟨"avatar", "wecom_avatar", .attachment⟩,
      ⟨"gender", "gender", .dropdown genderOptions⟩, ⟨"mobile", "phone", .text⟩,
      ⟨"email", "email", .text⟩, ⟨"position", "position", .text⟩,
      ⟨"status", statusField, .dropdown statusOptions⟩] }

def mappingFor : Kind → WorksheetMapping
  | .department => departmentMapping
  | .staff => staffMapping

def WorksheetMapping.field? (m : WorksheetMapping) (purpose : String) : Option FieldMapping :=
  m.fields.find? (·.purpose == purpose)

/-- A dropdown value: the option key in a one-item list. -/
def dropdownValue (key : String) : Value := .arr [.str key]

/-- A relation value: the row ids as a list. -/
def relationValue (rowIds : List String) : Value := .arr (rowIds.map Value.str)

def lastSegment (url : String) : List Char :=
  (url.toList.reverse.takeWhile (· ≠ '/')).reverse

/-- The file name of a URL: its last path segment, cut at a `?` that is not its first character;
the default name when that has no dot. -/
def attachmentFileName (url : String) : String :=
  let last := lastSegment url
  let cut := match last.findIdx? (· = '?') with
    | some i => if i > 0 then last.take i else last
    | none => last
  if !cut.isEmpty && cut.contains '.' then String.ofList cut else defaultAttachmentName

/-- An attachment value: one file named after the URL. -/
def attachmentValue (url : String) : Value :=
  .arr [Value.objOf [("name", .str (attachmentFileName url)), ("url", .str url)]]

/-- The integer code a dropdown reads from a value. -/
def dropdownCode? : Value → Option Int
  | .num n => n.toI64?
  | .str s => Text.parseI64? (Text.trim s)
  | _ => none

/-- The encoded value for a field of `kind`, or none when the value is left out. -/
def encodeValue : FieldKind → Value → Option Value
  | .text, .str s => if s.isEmpty then none else some (.str s)
  | .text, .num n => some (.str n.text)
  | .text, .bool b => some (.str (if b then "true" else "false"))
  | .text, _ => none
  | .dropdown options, v =>
    (dropdownCode? v).bind fun code =>
      (options.find? (·.1 == code)).map fun o => dropdownValue o.2
  | .attachment, .str url => if url.isEmpty then none else some (attachmentValue url)
  | .attachment, _ => none
  | .relation, .arr ids => if ids.isEmpty then none else some (.arr ids)
  | .relation, _ => none

/-- The fields written for an entity: its external id and its mapped attributes. -/
def WorksheetMapping.buildFields (m : WorksheetMapping) (e : Entity) : Fields :=
  let start : Fields := if e.externalId.isEmpty then [] else [(m.externalIdField, .str e.externalId)]
  e.attributes.foldl (fun acc kv =>
    match m.field? kv.1 with
    | none => acc
    | some f =>
      match encodeValue f.kind kv.2 with
      | some v => acc.insert f.fieldId v
      | none => acc) start

end RosterSync.Mapping

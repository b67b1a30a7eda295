import Mathlib.Data.List.Forall2
import RosterSync.Record.Http

/-!
How the record store's answers are classified and decoded.

Whatever the envelope decoder, an answer falls in exactly one class: a failure status carries the
envelope's own message or the body's excerpt, a success status with a body that is no envelope is
a decode failure, an envelope without success is the provider's error, and a successful envelope
hands on its `data`.

Pages are specified by two predicates stated without the reader. `PageShaped` is the shape of the
pages that are accepted: an object whose `rows` member is missing, null, or an array of objects
each holding a string under an id key. `ReadsAs` is the page read from such data: every row is the
whole object (`RowOf`), with its id under the first id key that holds a string (`IdUnder`). The
reader accepts exactly the shaped data and reads it as `ReadsAs` says; all else is a decode
failure. A lookup of one row finds no row exactly on a null answer and on the row-not-found code,
and, in the header-signed generation only, on the status 404.
-/

namespace RosterSync.Record

open RosterSync.Json

/-! ### Traversals that can fail -/

section MapM

variable {ε α β : Type} (f : α → Except ε β)

theorem mapM_eq_ok_iff (xs : List α) (ys : List β) :
    xs.mapM f = .ok ys ↔ List.Forall₂ (fun x y => f x = .ok y) xs ys := by
  induction xs generalizing ys with
  | nil => cases ys <;> simp [pure, Except.pure]
  | cons x xs ih =>
    rw [List.mapM_cons]
    cases hx : f x with
    | error e => cases ys <;> simp [bind, Except.bind, hx]
    | ok y =>
      cases hrest : xs.mapM f with
      | error e => cases ys <;> simp [bind, Except.bind, ← ih, hrest, hx]
      | ok rest => cases ys <;> simp [bind, Except.bind, pure, Except.pure, ← ih, hrest, hx]

theorem exists_mapM_eq_ok_iff (xs : List α) :
    (∃ ys, xs.mapM f = .ok ys) ↔ ∀ x ∈ xs, ∃ y, f x = .ok y := by
  induction xs with
  | nil => exact ⟨fun _ => by simp, fun _ => ⟨[], rfl⟩⟩
  | cons x xs ih =>
    simp only [mapM_eq_ok_iff] at ih ⊢
    constructor
    · rintro ⟨_, hy⟩
      cases hy with
      | cons hx hrest =>
        intro z hz
        rcases List.mem_cons.1 hz with rfl | hz
        · exact ⟨_, hx⟩
        · exact ih.1 ⟨_, hrest⟩ z hz
    · intro h
      obtain ⟨y, hx⟩ := h x List.mem_cons_self
      obtain ⟨ys, hrest⟩ := ih.2 fun z hz => h z (List.mem_cons_of_mem x hz)
      exact ⟨y :: ys, .cons hx hrest⟩

theorem mapM_eq_error {xs : List α} {e : ε} (h : xs.mapM f = .error e) :
    ∃ x ∈ xs, f x = .error e := by
  induction xs with
  | nil => cases h
  | cons x xs ih =>
    rw [List.mapM_cons] at h
    cases hx : f x with
    | error e' =>
      rw [hx] at h
      cases h
      exact ⟨x, List.mem_cons_self, hx⟩
    | ok y =>
      cases hrest : xs.mapM f with
      | error e' =>
        simp only [hx, hrest, bind, Except.bind] at h
        cases h
        obtain ⟨z, hz, hfz⟩ := ih hrest
        exact ⟨z, List.mem_cons_of_mem x hz, hfz⟩
      | ok rest => simp [hx, hrest, bind, Except.bind, pure, Except.pure] at h

end MapM

namespace Http

/-! ### Status, envelope and excerpt -/

theorem toList_excerpt (body : String) : (excerpt body).toList = body.toList.take 256 := by
  simp [excerpt, excerptChars]

/-- The excerpt is the body's first 256 characters: a prefix of the body, as long as the body
or 256 characters, whichever is shorter. -/
theorem excerpt_prefix (body : String) :
    (excerpt body).toList <+: body.toList ∧ (excerpt body).length = min body.length 256 := by
  refine ⟨?_, ?_⟩
  · rw [toList_excerpt]
    exact List.take_prefix _ _
  · rw [← String.length_toList, toList_excerpt, List.length_take, String.length_toList,
      Nat.min_comm]

theorem isSuccess_iff {s : Nat} : isSuccess s = true ↔ 200 ≤ s ∧ s ≤ 299 := by
  simp [isSuccess]

section Execute

variable (read : EnvelopeReader) {s : Nat} {body : String}

theorem execute_ok (r : Response) :
    execute read (.ok r) = if isSuccess r.status then parseEnvelope read r.body
      else .error (.status r.status (statusMessage read r.body)) := rfl

theorem execute_failure_status (h : s < 200 ∨ 299 < s) :
    execute read (.ok ⟨s, body⟩) = .error (.status s (statusMessage read body)) := by
  have hs : ¬isSuccess s = true := by
    rw [isSuccess_iff]
    omega
  rw [execute_ok, if_neg hs]

theorem execute_success_status (h₁ : 200 ≤ s) (h₂ : s ≤ 299) :
    execute read (.ok ⟨s, body⟩) = parseEnvelope read body := by
  rw [execute_ok, if_pos (isSuccess_iff.2 ⟨h₁, h₂⟩)]

theorem statusMessage_of_errorMsg {env : Envelope} (h : read body = .ok env)
    (hm : env.errorMsg ≠ "") : statusMessage read body = env.errorMsg := by
  simp [statusMessage, h, Except.toOption, Option.filter_some, String.isEmpty_eq_false_iff.2 hm]

theorem statusMessage_of_no_errorMsg (h : ∀ env, read body = .ok env → env.errorMsg = "") :
    statusMessage read body = excerpt body := by
  cases hr : read body with
  | error e => simp [statusMessage, hr, Except.toOption]
  | ok env =>
    have hempty : env.errorMsg.isEmpty = true := String.isEmpty_iff.2 (h env hr)
    simp [statusMessage, hr, Except.toOption, Option.filter_some, hempty]

theorem parseEnvelope_of_error {e : String} (h : read body = .error e) :
    parseEnvelope read body = .error (.decode (e ++ ": " ++ excerpt body)) := by
  simp [parseEnvelope, h]

theorem parseEnvelope_of_unsuccessful {env : Envelope} (h : read body = .ok env)
    (hs : env.success = false) :
    parseEnvelope read body = .error (.provider env.errorCode env.errorMsg) := by
  simp [parseEnvelope, h, hs]

theorem parseEnvelope_of_successful {env : Envelope} (h : read body = .ok env)
    (hs : env.success = true) : parseEnvelope read body = .ok env.data := by
  simp [parseEnvelope, h, hs]

end Execute

/-! ### Rows -/

def HoldsString (fields : Fields) (key : String) : Prop :=
  ∃ s, fields.get? key = some (.str s)

/-- The id of a row object: the string under the first of `rowid`, `rowId` and `id` that holds
one. -/
inductive IdUnder (fields : Fields) : String → Prop
  | underRowid {rowId : String} : fields.get? "rowid" = some (.str rowId) → IdUnder fields rowId
  | underRowId {rowId : String} : ¬HoldsString fields "rowid" →
      fields.get? "rowId" = some (.str rowId) → IdUnder fields rowId
  | underId {rowId : String} : ¬HoldsString fields "rowid" → ¬HoldsString fields "rowId" →
      fields.get? "id" = some (.str rowId) → IdUnder fields rowId

/-- A row object read as a row of `w`: the whole object is its fields, its id the first string
under an id key. -/
structure RowOf (w : Worksheet) (raw : Value) (row : Row) : Prop where
  whole : raw = .obj row.fields
  worksheet : row.worksheet = w
  id : IdUnder row.fields row.rowId

/-- An object that holds a string under one of the id keys. -/
def HoldsId (raw : Value) : Prop :=
  ∃ fields, raw = .obj fields ∧
    (HoldsString fields "rowid" ∨ HoldsString fields "rowId" ∨ HoldsString fields "id")

theorem bind_asStr?_eq_some {v : Option Value} {s : String} :
    v.bind Value.asStr? = some s ↔ v = some (.str s) := by
  cases v with
  | none => simp
  | some v => cases v <;> simp [Value.asStr?]

theorem bind_asStr?_eq_none {fields : Fields} {key : String} :
    (fields.get? key).bind Value.asStr? = none ↔ ¬HoldsString fields key := by
  simp only [HoldsString, ← bind_asStr?_eq_some, not_exists]
  exact Option.eq_none_iff_forall_ne_some

theorem idUnder_iff {fields : Fields} {rowId : String} :
    IdUnder fields rowId ↔ ((fields.get? "rowid").bind Value.asStr? <|>
      (fields.get? "rowId").bind Value.asStr? <|> (fields.get? "id").bind Value.asStr?) =
        some rowId := by
  simp only [Option.orElse_eq_orElse, Option.orElse_eq_or, Option.or_eq_some_iff,
    bind_asStr?_eq_some, bind_asStr?_eq_none]
  constructor
  · rintro (h | ⟨hno, h⟩ | ⟨hno, hno', h⟩)
    · exact .inl h
    · exact .inr ⟨hno, .inl h⟩
    · exact .inr ⟨hno, .inr ⟨hno', h⟩⟩
  · rintro (h | ⟨hno, h | ⟨hno', h⟩⟩)
    · exact .underRowid h
    · exact .underRowId hno h
    · exact .underId hno hno' h

theorem IdUnder.unique {fields : Fields} {a b : String} (ha : IdUnder fields a)
    (hb : IdUnder fields b) : a = b :=
  Option.some.inj ((idUnder_iff.1 ha).symm.trans (idUnder_iff.1 hb))

theorem exists_idUnder_iff {fields : Fields} :
    (∃ rowId, IdUnder fields rowId) ↔
      HoldsString fields "rowid" ∨ HoldsString fields "rowId" ∨ HoldsString fields "id" := by
  constructor
  · rintro ⟨rowId, h | ⟨-, h⟩ | ⟨-, -, h⟩⟩
    · exact .inl ⟨rowId, h⟩
    · exact .inr (.inl ⟨rowId, h⟩)
    · exact .inr (.inr ⟨rowId, h⟩)
  · intro h
    by_cases h₁ : HoldsString fields "rowid"
    · obtain ⟨s, hs⟩ := h₁
      exact ⟨s, .underRowid hs⟩
    by_cases h₂ : HoldsString fields "rowId"
    · obtain ⟨s, hs⟩ := h₂
      exact ⟨s, .underRowId h₁ hs⟩
    obtain ⟨s, hs⟩ := (h.resolve_left h₁).resolve_left h₂
    exact ⟨s, .underId h₁ h₂ hs⟩

theorem ofRaw?_eq_some_iff {w : Worksheet} {fields : Fields} {row : Row} :
    Row.ofRaw? w fields = some row ↔
      row.worksheet = w ∧ row.fields = fields ∧ IdUnder fields row.rowId := by
  simp only [Row.ofRaw?]
  split
  next rowId hid =>
    rw [← idUnder_iff] at hid
    constructor
    · rintro ⟨⟩
      exact ⟨rfl, rfl, hid⟩
    · rintro ⟨hw, hf, hrow⟩
      have hsame : row.rowId = rowId := hrow.unique hid
      cases row
      simp_all
  next hnone =>
    simp only [reduceCtorEq, false_iff]
    rintro ⟨-, -, hrow⟩
    rw [idUnder_iff, hnone] at hrow
    cases hrow

variable {w : Worksheet}

theorem parseRow_obj {fields : Fields} {row : Row} :
    parseRow w (.obj fields) = .ok row ↔ Row.ofRaw? w fields = some row := by
  simp only [parseRow]
  split <;> simp_all

theorem parseRow_eq_ok_iff {raw : Value} {row : Row} :
    parseRow w raw = .ok row ↔ RowOf w raw row := by
  cases raw
  case obj fields =>
    rw [parseRow_obj, ofRaw?_eq_some_iff]
    constructor
    · rintro ⟨hw, rfl, hid⟩
      exact ⟨rfl, hw, hid⟩
    · rintro ⟨hraw, hw, hid⟩
      cases hraw
      exact ⟨hw, rfl, hid⟩
  all_goals exact ⟨fun h => (by cases h), fun h => (by cases h.whole)⟩

theorem exists_parseRow_iff {raw : Value} : (∃ row, parseRow w raw = .ok row) ↔ HoldsId raw := by
  simp only [parseRow_eq_ok_iff]
  constructor
  · rintro ⟨row, hraw, -, hid⟩
    exact ⟨row.fields, hraw, exists_idUnder_iff.1 ⟨_, hid⟩⟩
  · rintro ⟨fields, rfl, hholds⟩
    obtain ⟨rowId, hid⟩ := exists_idUnder_iff.2 hholds
    exact ⟨⟨rowId, w, fields⟩, rfl, rfl, hid⟩

theorem parseRow_error {raw : Value} {e : StoreError} (h : parseRow w raw = .error e) :
    e = .decode "row is not an object" ∨ e = .decode "row without id" := by
  cases raw
  case obj fields =>
    simp only [parseRow] at h
    split at h
    · cases h
    · cases h
      exact .inr rfl
  all_goals
    cases h
    exact .inl rfl

/-! ### Pages -/

/-- How a page's `rows` member reads: missing or null as no rows, an array row by row. -/
inductive RowsRead (w : Worksheet) : Option Value → List Row → Prop
  | missing : RowsRead w none []
  | null : RowsRead w (some .null) []
  | array {raws : List Value} {rows : List Row} :
      List.Forall₂ (RowOf w) raws rows → RowsRead w (some (.arr raws)) rows

/-- The `rows` members that are accepted: missing, null, or an array of objects holding ids. -/
inductive RowsShaped : Option Value → Prop
  | missing : RowsShaped none
  | null : RowsShaped (some .null)
  | array {raws : List Value} : (∀ raw ∈ raws, HoldsId raw) → RowsShaped (some (.arr raws))

/-- The page read from `data`: `data` is an object, `total` is its unsigned 64-bit `total` or 0,
and the rows are its `rows` member read. -/
structure ReadsAs (w : Worksheet) (data : Value) (page : RowPage) : Prop where
  object : ∃ members, data = .obj members
  total : page.total = ((data.get? "total").bind Value.asU64?).getD 0
  rows : RowsRead w (data.get? "rows") page.rows

/-- The data accepted as a page: an object with an accepted `rows` member. -/
def PageShaped (data : Value) : Prop :=
  (∃ members, data = .obj members) ∧ RowsShaped (data.get? "rows")

theorem pageRows_eq_ok_iff {member : Option Value} {rows : List Row} :
    pageRows w member = .ok rows ↔ RowsRead w member rows := by
  rcases member with _ | ⟨_ | _ | _ | _ | raws | _⟩
  case none | some.null =>
    constructor
    · intro h
      cases h
      first | exact .missing | exact .null
    · rintro ⟨⟩
      rfl
  case some.arr =>
    simp only [pageRows, mapM_eq_ok_iff, parseRow_eq_ok_iff]
    exact ⟨.array, fun h => (by cases h with | array h => exact h)⟩
  all_goals exact ⟨fun h => (by cases h), fun h => (by cases h)⟩

theorem exists_pageRows_iff {member : Option Value} :
    (∃ rows, pageRows w member = .ok rows) ↔ RowsShaped member := by
  rcases member with _ | ⟨_ | _ | _ | _ | raws | _⟩
  case none => exact ⟨fun _ => .missing, fun _ => ⟨[], rfl⟩⟩
  case some.null => exact ⟨fun _ => .null, fun _ => ⟨[], rfl⟩⟩
  case some.arr =>
    simp only [pageRows, exists_mapM_eq_ok_iff, exists_parseRow_iff]
    exact ⟨.array, fun h => (by cases h with | array h => exact h)⟩
  all_goals exact ⟨fun h => (by obtain ⟨_, h⟩ := h; cases h), fun h => (by cases h)⟩

theorem pageRows_error {member : Option Value} {e : StoreError}
    (h : pageRows w member = .error e) :
    e = .decode "rows is not an array" ∨ e = .decode "row is not an object" ∨
      e = .decode "row without id" := by
  rcases member with _ | ⟨_ | _ | _ | _ | raws | _⟩
  case some.arr =>
    obtain ⟨raw, -, hraw⟩ := mapM_eq_error _ h
    exact .inr (parseRow_error hraw)
  case none | some.null => cases h
  all_goals
    cases h
    exact .inl rfl

theorem parseRowPage_obj (members : List (String × Value)) :
    parseRowPage w (.obj members) = (pageRows w ((Value.obj members).get? "rows")).map
      fun rows => { rows, total := (((Value.obj members).get? "total").bind Value.asU64?).getD 0 } := by
  simp only [parseRowPage]
  cases pageRows w _ <;> rfl

/-- On an object the reader succeeds exactly when its `rows` member reads, and the page holds
those rows with the object's total. -/
theorem parseRowPage_obj_eq_ok {members : List (String × Value)} {page : RowPage} :
    parseRowPage w (.obj members) = .ok page ↔
      ∃ rows, pageRows w ((Value.obj members).get? "rows") = .ok rows ∧
        page = { rows, total := (((Value.obj members).get? "total").bind Value.asU64?).getD 0 } := by
  rw [parseRowPage_obj]
  cases pageRows w _ with
  | error e => exact ⟨fun h => (by cases h), fun ⟨_, h, _⟩ => (by cases h)⟩
  | ok rows => simp [Except.map, eq_comm]

theorem parseRowPage_obj_eq_error {members : List (String × Value)} {e : StoreError} :
    parseRowPage w (.obj members) = .error e ↔
      pageRows w ((Value.obj members).get? "rows") = .error e := by
  rw [parseRowPage_obj]
  cases pageRows w _ <;> simp [Except.map]

theorem parseRowPage_eq_ok_iff {data : Value} {page : RowPage} :
    parseRowPage w data = .ok page ↔ ReadsAs w data page := by
  cases data
  case obj members =>
    rw [parseRowPage_obj_eq_ok]
    constructor
    · rintro ⟨rows, hrows, rfl⟩
      exact ⟨⟨members, rfl⟩, rfl, pageRows_eq_ok_iff.1 hrows⟩
    · rintro ⟨-, htotal, hrows⟩
      exact ⟨page.rows, pageRows_eq_ok_iff.2 hrows, by rw [← htotal]⟩
  all_goals exact ⟨fun h => (by cases h), fun h => (by obtain ⟨_, h⟩ := h.object; cases h)⟩

theorem exists_parseRowPage_iff {data : Value} :
    (∃ page, parseRowPage w data = .ok page) ↔ PageShaped data := by
  cases data
  case obj members =>
    simp only [parseRowPage_obj_eq_ok]
    rw [PageShaped, ← exists_pageRows_iff]
    constructor
    · rintro ⟨-, rows, hrows, -⟩
      exact ⟨⟨members, rfl⟩, rows, hrows⟩
    · rintro ⟨-, rows, hrows⟩
      exact ⟨_, rows, hrows, rfl⟩
  all_goals exact ⟨fun h => (by obtain ⟨_, h⟩ := h; cases h),
    fun h => (by obtain ⟨⟨_, h⟩, _⟩ := h; cases h)⟩

theorem parseRowPage_error {data : Value} {e : StoreError} (h : parseRowPage w data = .error e) :
    e = .decode "row page is not an object" ∨ e = .decode "rows is not an array" ∨
      e = .decode "row is not an object" ∨ e = .decode "row without id" := by
  cases data
  case obj members => exact .inr (pageRows_error (parseRowPage_obj_eq_error.1 h))
  all_goals
    cases h
    exact .inl rfl

end Http

/-! ### Looking up one row -/

namespace V2

variable {w : Worksheet}

theorem readRow_data {v : Value} (h : v ≠ .null) :
    readRow w (.ok v) = (Http.parseRow w v).map some := by
  simp [readRow]

/-- The body-signed generation finds no row exactly on a null answer and on the row-not-found
code. -/
theorem readRow_eq_none_iff {x : Except StoreError Value} :
    readRow w x = .ok none ↔
      x = .ok .null ∨ ∃ m, x = .error (.provider StoreError.rowNotFoundCode m) := by
  rcases x with e | v
  · cases e
    case provider c m =>
      by_cases hc : c = StoreError.rowNotFoundCode
      · subst hc
        simp [readRow]
      · simp [readRow, hc]
    all_goals simp [readRow]
  · by_cases hv : v = .null
    · subst hv
      simp [readRow]
    · rw [readRow_data hv]
      cases Http.parseRow w v <;> simp [Except.map, hv]

theorem getRow_not_found_status (read : EnvelopeReader) (body : String) :
    getRow read w (.ok ⟨404, body⟩) = .error (.status 404 (Http.statusMessage read body)) := by
  rw [getRow, Http.execute_failure_status read (by omega)]
  rfl

end V2

namespace V3

variable {w : Worksheet}

theorem readRow_eq_v2 {x : Except StoreError Value} (h : ∀ m, x ≠ .error (.status 404 m)) :
    readRow w x = V2.readRow w x := by
  rcases x with e | v
  · cases e
    case status s m =>
      have hs : s ≠ 404 := by
        rintro rfl
        exact h m rfl
      simp [readRow, V2.readRow, hs]
    all_goals rfl
  · cases v <;> rfl

/-- The header-signed generation finds no row exactly on a null answer, on the row-not-found code
and on the status 404. -/
theorem readRow_eq_none_iff {x : Except StoreError Value} :
    readRow w x = .ok none ↔
      x = .ok .null ∨ (∃ m, x = .error (.provider StoreError.rowNotFoundCode m)) ∨
        ∃ m, x = .error (.status 404 m) := by
  by_cases h404 : ∃ m, x = .error (.status 404 m)
  · obtain ⟨m, rfl⟩ := h404
    simp [readRow]
  · have hnot : ∀ m, x ≠ .error (.status 404 m) := fun m hm => h404 ⟨m, hm⟩
    rw [readRow_eq_v2 hnot, V2.readRow_eq_none_iff, ← or_assoc]
    exact (or_iff_left h404).symm

theorem getRow_not_found_status (read : EnvelopeReader) (body : String) :
    getRow read w (.ok ⟨404, body⟩) = .ok none := by
  rw [getRow, Http.execute_failure_status read (by omega)]
  rfl

end V3

/-- How the record store's answers are classified and decoded, for every envelope decoder, every
status and every body: a failure status carries the envelope's own message or the body's first
256 characters; a success status gives a decode failure, the provider's error or the `data`, as
the envelope decides; a page is read exactly when it is shaped as one, as `ReadsAs` says, and
otherwise fails to decode; and a row lookup finds no row on a null answer and on the
row-not-found code, and in the header-signed generation only on the status 404 as well. -/
theorem answers_classified_and_decoded (read : EnvelopeReader) (w : Worksheet) :
    (∀ s body, (s < 200 ∨ 299 < s) →
      Http.execute read (.ok ⟨s, body⟩) = .error (.status s (Http.statusMessage read body))) ∧
    (∀ body env, read body = .ok env → env.errorMsg ≠ "" →
      Http.statusMessage read body = env.errorMsg) ∧
    (∀ body, (∀ env, read body = .ok env → env.errorMsg = "") →
      Http.statusMessage read body = Http.excerpt body) ∧
    (∀ body, (Http.excerpt body).toList <+: body.toList ∧
      (Http.excerpt body).length = min body.length 256) ∧
    (∀ s body e, 200 ≤ s → s ≤ 299 → read body = .error e →
      Http.execute read (.ok ⟨s, body⟩) = .error (.decode (e ++ ": " ++ Http.excerpt body))) ∧
    (∀ s body env, 200 ≤ s → s ≤ 299 → read body = .ok env → env.success = false →
      Http.execute read (.ok ⟨s, body⟩) = .error (.provider env.errorCode env.errorMsg)) ∧
    (∀ s body env, 200 ≤ s → s ≤ 299 → read body = .ok env → env.success = true →
      Http.execute read (.ok ⟨s, body⟩) = .ok env.data) ∧
    (∀ data page, Http.parseRowPage w data = .ok page ↔ Http.ReadsAs w data page) ∧
    (∀ data, (∃ page, Http.parseRowPage w data = .ok page) ↔ Http.PageShaped data) ∧
    (∀ data e, Http.parseRowPage w data = .error e →
      e = .decode "row page is not an object" ∨ e = .decode "rows is not an array" ∨
        e = .decode "row is not an object" ∨ e = .decode "row without id") ∧
    (∀ x, V2.readRow w x = .ok none ↔ x = .ok .null ∨ ∃ m, x = .error (.provider 10007 m)) ∧
    (∀ x, V3.readRow w x = .ok none ↔
      x = .ok .null ∨ (∃ m, x = .error (.provider 10007 m)) ∨ ∃ m, x = .error (.status 404 m)) ∧
    (∀ x, (∀ m, x ≠ .error (.status 404 m)) → V3.readRow w x = V2.readRow w x) ∧
    (∀ body, V3.getRow read w (.ok ⟨404, body⟩) = .ok none ∧
      V2.getRow read w (.ok ⟨404, body⟩) =
        .error (.status 404 (Http.statusMessage read body))) := by
  refine ⟨fun s body h => Http.execute_failure_status read h,
    fun body env h hm => Http.statusMessage_of_errorMsg read h hm,
    fun body h => Http.statusMessage_of_no_errorMsg read h,
    Http.excerpt_prefix, ?_, ?_, ?_, fun data page => Http.parseRowPage_eq_ok_iff,
    fun data => Http.exists_parseRowPage_iff, fun data e => Http.parseRowPage_error,
    fun x => V2.readRow_eq_none_iff, fun x => V3.readRow_eq_none_iff,
    fun x => V3.readRow_eq_v2,
    fun body => ⟨V3.getRow_not_found_status read body, V2.getRow_not_found_status read body⟩⟩
  · intro s body e h₁ h₂ h
    rw [Http.execute_success_status read h₁ h₂, Http.parseEnvelope_of_error read h]
  · intro s body env h₁ h₂ h hs
    rw [Http.execute_success_status read h₁ h₂, Http.parseEnvelope_of_unsuccessful read h hs]
  · intro s body env h₁ h₂ h hs
    rw [Http.execute_success_status read h₁ h₂, Http.parseEnvelope_of_successful read h hs]

end RosterSync.Record

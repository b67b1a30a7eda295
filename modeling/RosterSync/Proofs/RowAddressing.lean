import RosterSync.Record.V3
import RosterSync.Proofs.UrlSegments
import RosterSync.Proofs.ContactBinding

/-!
Which row a request of the header-signed client addresses.

A request for one row pastes the row id into its path as it is given. The URL Standard's parser
then reads the URL: it drops tabs and newlines, trims C0 controls and spaces at the end, ends a
segment at `/` or `\`, starts a query at `?` and a fragment at `#`, reads `.` and `..` segments as
moves, and leaves `%` escapes for the server to decode. So the path carries exactly the row id
only for the ids this module calls plain (`PlainSegment`): then, for every parser that reads plain
paths as the URL Standard does (`Parser.ReadsPlainPaths`), the request's path is the worksheet's
rows path and one more segment, which percent-decodes to the row id's bytes, and there is no query
or fragment (`plain_row_requests_address_the_row`). Under the standard parser any other id can
change what the URL names; an id with `?` puts its tail in the query, and `../..` reaches past the
worksheet.

The customer service hands the row id of a read or a write to the store as the caller gave it: the
store's call log ends with a call of that id, which the client sends as such a request.

The base of the client is an origin (`Origin`): a special scheme, `://`, and an authority with no
character that ends an authority or that the parser drops.
-/

namespace RosterSync.Record.V3

open RosterSync.Url

theorem rowPath_eq_segments (w : Worksheet) (rowId : String) :
    rowPath w rowId =
      String.ofList (segmentsText ["v3", "app", "worksheets", w.platformAlias, "rows", rowId]) := by
  rw [← String.ofList_toList (s := rowPath w rowId), rowPath, String.toList_append]
  cases w <;> rfl

theorem rowsSegments_plain (w : Worksheet) :
    ∀ r ∈ ["v3", "app", "worksheets", w.platformAlias, "rows"], PlainSegment r := by
  intro r hr
  simp only [List.mem_cons, List.not_mem_nil, or_false] at hr
  rcases hr with rfl | rfl | rfl | rfl | rfl <;>
    exact (plainSegment_iff _).mpr (by cases w <;> rfl)

/-- The URL at an origin of one segment under a worksheet's rows, with no query or fragment. -/
def rowUrl (o : Origin) (w : Worksheet) (seg : String) : Parsed :=
  { scheme := o.scheme, authority := o.authority,
    path := ["v3", "app", "worksheets", w.platformAlias, "rows", seg],
    query := none, fragment := none }

/-- A row's URL names the row: the worksheet's rows path and one segment, the row id encoded,
with no query and no fragment. -/
theorem parse_rowPath {P : Parser} (hP : P.ReadsPlainPaths) (o : Origin) {rowId : String}
    (hr : PlainSegment rowId) (w : Worksheet) :
    P.parse (o.text ++ rowPath w rowId) =
      some (rowUrl o w (String.ofList (encode pathSet rowId.toList))) := by
  have hplain : ∀ r ∈ ["v3", "app", "worksheets", w.platformAlias, "rows"] ++ [rowId],
      PlainSegment r := by
    intro r hr'
    rcases List.mem_append.mp hr' with h | h
    · exact rowsSegments_plain w r h
    · rw [List.mem_singleton.mp h]
      exact hr
  rw [rowPath_eq_segments,
    hP.plain_path o ["v3", "app", "worksheets", w.platformAlias, "rows", rowId]
      (List.cons_ne_nil _ _) hplain]
  cases w <;> rfl

end RosterSync.Record.V3

namespace RosterSync.Record.MemoryStore

theorem enter_calls (op : Operation) (w : Worksheet) (rowId : Option String)
    (fields : Option Fields) (s : MemoryStore) :
    ((enter op w rowId fields).run s).2.calls = s.calls ++ [⟨op, w, rowId, fields⟩] := by
  simp only [enter, StateT.run_bind, StateT.run_get, pure_bind]
  split <;> rfl

theorem getRow_calls (w : Worksheet) (rowId : String) (s : MemoryStore) :
    ((getRow w rowId).run s).2.calls = s.calls ++ [⟨.get, w, some rowId, none⟩] := by
  have h := enter_calls .get w (some rowId) none s
  rcases hp : (enter .get w (some rowId) none).run s with ⟨_ | e, s₁⟩ <;> rw [hp] at h <;>
    unfold getRow <;> rw [run_bind_eq hp] <;> exact h

theorem updateRow_calls (w : Worksheet) (rowId : String) (fields : Fields) (s : MemoryStore) :
    ((updateRow w rowId fields).run s).2.calls = s.calls ++ [⟨.update, w, some rowId, some fields⟩] := by
  have h := enter_calls .update w (some rowId) (some fields) s
  rcases hp : (enter .update w (some rowId) (some fields)).run s with ⟨_ | e, s₁⟩ <;>
    rw [hp] at h <;> unfold updateRow <;> rw [run_bind_eq hp]
  · dsimp only
    rw [run_get_bind]
    split
    · exact h
    · exact h
  · exact h

end RosterSync.Record.MemoryStore

namespace RosterSync.Binding

open RosterSync.Record RosterSync.Sync

theorem customerCall_calls {α : Type} {act : StateM MemoryStore (Except StoreError α)} {c : Call}
    (h : ∀ s, (act.run s).2.calls = s.calls ++ [c]) (b : Backends) :
    ((customerCall act).run.run b).2.store.calls = b.store.calls ++ [c] := by
  rw [customerCall_run]
  show (act.run (b.storeBefore act)).2.calls = _
  rw [h, Backends.calls_storeBefore]

theorem getCustomer_calls {rowId : String} (h : rowId ≠ "") (b : Backends) :
    ((getCustomer rowId).run.run b).2.store.calls =
      b.store.calls ++ [⟨.get, .customer, some rowId, none⟩] := by
  have hne : rowId.isEmpty = false := by simpa using h
  have hcalls := customerCall_calls (MemoryStore.getRow_calls .customer rowId) b
  simp only [getCustomer, hne, Bool.false_eq_true, if_false]
  rcases hget : (customerCall (MemoryStore.getRow .customer rowId)).run.run b with
    ⟨_ | x, b₁⟩ <;> rw [hget] at hcalls
  · rw [run_bind_error hget]
    exact hcalls
  · rw [run_bind_ok hget]
    cases x <;> exact hcalls

theorem updateFields_calls {rowId : String} {updates : Fields} (h : rowId ≠ "")
    (he : updates.filter (fun kv => isEditable kv.1) ≠ []) (b : Backends) :
    ((updateFields rowId updates).run.run b).2.store.calls =
      b.store.calls ++
        [⟨.update, .customer, some rowId, some (updates.filter fun kv => isEditable kv.1)⟩] := by
  have hne : rowId.isEmpty = false := by simpa using h
  have hne' : (updates.filter fun kv => isEditable kv.1).isEmpty = false := by simpa using he
  have hcalls := customerCall_calls
    (MemoryStore.updateRow_calls .customer rowId (updates.filter fun kv => isEditable kv.1)) b
  simp only [updateFields, hne, hne', Bool.false_eq_true, if_false]
  rcases hup : (customerCall (MemoryStore.updateRow .customer rowId
      (updates.filter fun kv => isEditable kv.1))).run.run b with
    ⟨_ | x, b₁⟩ <;> rw [hup] at hcalls
  · rw [run_bind_error hup]
    exact hcalls
  · rw [run_bind_ok hup]
    exact hcalls

end RosterSync.Binding

namespace RosterSync.Record.V3

open RosterSync.Url RosterSync.Sync

/-- Every request for one row, from a client whose base is an origin, names that row when its
id is plain, for every URL parser that reads plain paths as the URL Standard does: the
worksheet's rows path and one segment that percent-decodes to the id, with no query and no
fragment. The customer service hands the ids of its reads and writes to the store
as given, so the client sends such a request for them. -/
theorem plain_row_requests_address_the_row (P : Parser) (hP : P.ReadsPlainPaths) (c : Client)
    (o : Origin) (hbase : c.base = o.text) :
    (∀ (w : Worksheet) (rowId : String) (fields : Fields), PlainSegment rowId →
      ∀ req ∈ [c.getRow w rowId, c.updateRow w rowId fields, c.deleteRow w rowId],
        ∃ seg, P.parse req.url = some (rowUrl o w seg) ∧
          (percentDecode seg.toList).toByteArray = rowId.toByteArray) ∧
    (∀ (rowId : String) (b : Backends), rowId ≠ "" →
      ((Binding.getCustomer rowId).run.run b).2.store.calls.getLast?.bind c.requestOf =
        some (c.getRow .customer rowId)) ∧
    (∀ (rowId : String) (updates : Fields) (b : Backends), rowId ≠ "" →
      updates.filter (fun kv => Binding.isEditable kv.1) ≠ [] →
      ((Binding.updateFields rowId updates).run.run b).2.store.calls.getLast?.bind c.requestOf =
        some (c.updateRow .customer rowId (updates.filter fun kv => Binding.isEditable kv.1))) := by
  refine ⟨fun w rowId fields hr req hreq => ?_, fun rowId b h => ?_, fun rowId updates b h he => ?_⟩
  · -- all three requests carry the row's path after the base
    have hurl : req.url = o.text ++ rowPath w rowId := by
      simp only [List.mem_cons, List.not_mem_nil, or_false] at hreq
      rcases hreq with rfl | rfl | rfl <;>
        simp [Client.getRow, Client.updateRow, Client.deleteRow, Client.request, hbase]
    refine ⟨_, by rw [hurl]; exact parse_rowPath hP o hr w, ?_⟩
    rw [String.toList_ofList, hr.percentDecode_encode]
    exact String.utf8Encode_toList
  · rw [Binding.getCustomer_calls h, List.getLast?_concat]
    rfl
  · rw [Binding.updateFields_calls h he, List.getLast?_concat]
    rfl

/-- A client of an API base with a trailing slash. -/
def exampleClient : Client :=
  Client.ofConfig { apiBase := "https://api.example.com/", appKey := "key-1", sign := "sign-1" }

def exampleOrigin : Origin :=
  { scheme := "https", authority := "api.example.com", special := by decide,
    nonempty := by decide,
    plain := by simp [endsAuthority, isSlash, isTabOrNewline] }

theorem customer_row_request_names_row :
    standard.ReadsPlainPaths ∧ exampleClient.base = exampleOrigin.text ∧ PlainSegment "r-1" ∧
      ∀ req ∈ [exampleClient.getRow .customer "r-1", exampleClient.updateRow .customer "r-1" [],
          exampleClient.deleteRow .customer "r-1"],
        ∃ seg, standard.parse req.url = some (rowUrl exampleOrigin .customer seg) ∧
          (percentDecode seg.toList).toByteArray = "r-1".toByteArray :=
  ⟨standard_readsPlainPaths, rfl, (plainSegment_iff _).mpr rfl,
    (plain_row_requests_address_the_row standard standard_readsPlainPaths exampleClient
      exampleOrigin rfl).1 .customer "r-1" [] ((plainSegment_iff _).mpr rfl)⟩

/-- Under the URL Standard, a row id with `?` puts its tail in the query, and `../..` reaches
past the worksheet: the first request names row `r-1` with the query `x=1`, the second the
endpoint `worksheets/x`. -/
theorem row_id_escapes_its_segment :
    standard.parse (exampleClient.getRow .customer "r-1?x=1").url =
      some { scheme := "https", authority := "api.example.com",
             path := ["v3", "app", "worksheets", "starclientinfo", "rows", "r-1"],
             query := some "x=1", fragment := none } ∧
    standard.parse (exampleClient.deleteRow .customer "../../x").url =
      some { scheme := "https", authority := "api.example.com",
             path := ["v3", "app", "worksheets", "x"], query := none, fragment := none } := by
  decide

end RosterSync.Record.V3

import Mathlib.Data.List.Forall2
import RosterSync.Binding.Service
import RosterSync.Proofs.CorrelationTokens
import RosterSync.Proofs.RecordStore

/-!
Binding customers: where a QR callback writes, and which bindings a request may touch.

QR contact ways: a contact way is issued only for a named staff member and a state that fits,
and the request it sends carries the correlation token of the identifier (`contactWayQr_ok`).
The callback on that state is dropped for the empty identifier; for any other it writes the
contact's profile onto the row the token decodes to, which is the identifier itself exactly when
the identifier is canonical (`qr_callback_binds_canonical_row`).

Bindings: a customer row's binding is the value of its external-user field. A bind writes only
onto the first row of its id, after finding it unbound, and a move between two different rows
writes only onto the new row, found unbound, and clears only the old one (`Guarded`). So over any
sequence of such requests every row bound at the start stays bound to the same contact, unless
it was the old row of a move (`KeepsBinding`, `serveAll_keeps`); and a bind of a bound row
answers a conflict without writing. The callback's write and a move onto the row it leaves check
nothing, and overwrite a binding (`unchecked_writes_overwrite_bindings`).
-/

namespace RosterSync.Record.MemoryStore

theorem getRow_spec (w : Worksheet) (rowId : String) (s : MemoryStore) :
    SameRows s ((getRow w rowId).run s).2 ∧
      ∀ x, ((getRow w rowId).run s).1 = .ok x → x = s.row? w rowId := by
  have hsame := enter_sameRows .get w (some rowId) none s
  rcases hp : (enter .get w (some rowId) none).run s with ⟨_ | e, s₁⟩ <;> rw [hp] at hsame <;>
    dsimp only at hsame <;> unfold getRow <;> rw [run_bind_eq hp]
  · refine ⟨hsame, fun x hx => ?_⟩
    cases hx
    simp only [row?, hsame.rows]
  · exact ⟨hsame, fun x hx => nomatch hx⟩

theorem getRow_quiet {s : MemoryStore} (h : Quiet s) (w : Worksheet) (rowId : String) :
    (getRow w rowId).run s =
      (.ok (s.row? w rowId), { s with calls := s.calls ++ [⟨.get, w, some rowId, none⟩] }) := by
  unfold getRow
  rw [run_bind_eq (enter_quiet h _ _ _ _)]
  rfl

end RosterSync.Record.MemoryStore

namespace RosterSync.Binding

open RosterSync.Json RosterSync.Record RosterSync.Directory RosterSync.Sync

section Calls

variable {α β : Type}

theorem contactCall_run (act : StateM MemoryContacts (Except DirectoryError α)) (b : Backends) :
    (contactCall act).run.run b =
      ((act.run b.contacts).1.mapError BindError.ofDirectory,
        { b with contacts := (act.run b.contacts).2 }) := rfl

theorem customerCall_run (act : StateM MemoryStore (Except StoreError α)) (b : Backends) :
    (customerCall act).run.run b =
      ((act.run (b.storeBefore act)).1.mapError BindError.ofStore,
        { b with store := (act.run (b.storeBefore act)).2 }) := rfl

theorem run_bind_ok {x : ExceptT BindError Run α} {f : α → ExceptT BindError Run β}
    {b b₁ : Backends} {a : α} (h : x.run.run b = (.ok a, b₁)) :
    (x >>= f).run.run b = (f a).run.run b₁ := by
  rw [ExceptT.run_bind, MemoryStore.run_bind_eq h]

theorem run_bind_error {x : ExceptT BindError Run α} {f : α → ExceptT BindError Run β}
    {b b₁ : Backends} {e : BindError} (h : x.run.run b = (.error e, b₁)) :
    (x >>= f).run.run b = (.error e, b₁) := by
  rw [ExceptT.run_bind, MemoryStore.run_bind_eq h]
  rfl

theorem mk_pure_run {α : Type} (r : Except BindError α) (b : Backends) :
    (ExceptT.mk (pure r) : ExceptT BindError Run α).run.run b = (r, b) := rfl

theorem throw_run {α : Type} (e : BindError) (b : Backends) :
    (throw e : ExceptT BindError Run α).run.run b = (.error e, b) := rfl

end Calls


theorem addContactWay_requests {c : MemoryContacts} {req : ContactWayRequest} {way : ContactWay}
    (h : ((MemoryContacts.addContactWay req).run c).1 = .ok way) :
    ((MemoryContacts.addContactWay req).run c).2.requests = c.requests ++ [req] := by
  cases hf : c.failure with
  | some e => simp [MemoryContacts.addContactWay, MemoryContacts.checkFailure, hf] at h
  | none => simp [MemoryContacts.addContactWay, MemoryContacts.checkFailure, hf]; rfl

/-- A contact way is issued only for a named staff member and a state that fits, and the request
it sends carries the correlation token of the identifier. -/
theorem contactWayQr_ok {L : Token.Codecs} {staffId c : String} {b : Backends} {way : ContactWay}
    (h : ((contactWayQr L staffId c).run.run b).1 = .ok way) :
    staffId ≠ "" ∧ (Token.encode L c).utf8ByteSize ≤ Token.maxStateLen ∧
      ((contactWayQr L staffId c).run.run b).2.contacts.requests =
        b.contacts.requests ++ [{ staffId, state := Token.encode L c, skipVerify := true }] := by
  by_cases hs : staffId.isEmpty = true
  · simp [contactWayQr, hs] at h
  by_cases hfit : (Token.encode L c).utf8ByteSize > Token.maxStateLen
  · simp [contactWayQr, hs, hfit] at h
  have hrun : (contactWayQr L staffId c).run.run b =
      (contactCall (MemoryContacts.addContactWay
        { staffId, state := Token.encode L c, skipVerify := true })).run.run b := by
    simp [contactWayQr, hs, hfit]
  rw [hrun, contactCall_run] at h ⊢
  refine ⟨by simpa using hs, by omega, ?_⟩
  cases hway : ((MemoryContacts.addContactWay
      { staffId, state := Token.encode L c, skipVerify := true }).run b.contacts).1 with
  | error e => rw [hway] at h; cases h
  | ok w => exact addContactWay_requests hway

theorem acceptContactAdded_of_row {L : Token.Codecs} {staff ext state : String} (b : Backends)
    (h : Token.isCorrelationState state = true) (hrow : Token.decode L state ≠ "") (hext : ext ≠ "") :
    (acceptContactAdded L staff ext state).run b =
      (.spawned, ((writeProfile (Token.decode L state) ext staff).run.run b).2) := by
  have h₁ : (Token.decode L state).isEmpty = false := by simpa using hrow
  have h₂ : ext.isEmpty = false := by simpa using hext
  simp [acceptContactAdded, h, h₁, h₂]
  rfl

theorem acceptContactAdded_of_empty {L : Token.Codecs} {staff ext state : String} (b : Backends)
    (h : Token.isCorrelationState state = true) (hrow : Token.decode L state = "") :
    (acceptContactAdded L staff ext state).run b = (.dropped, b) := by
  simp [acceptContactAdded, h, hrow]
  rfl

theorem decode_encode_empty {L : Token.Codecs} (hL : L.Lawful) :
    Token.decode L (Token.encode L "") = "" :=
  (Token.decode_encode_eq_self_iff hL "").mpr
    ⟨fun h => absurd h (by decide), fun bytes hp => by simpa using hp.length hL⟩

theorem qr_callback_binds_canonical_row {L : Token.Codecs} (hL : L.Lawful) {staffId c : String}
    {b : Backends} {way : ContactWay} (hqr : ((contactWayQr L staffId c).run.run b).1 = .ok way)
    (staff ext : String) (hext : ext ≠ "")
    (b' : Backends) :
    ((contactWayQr L staffId c).run.run b).2.contacts.requests.getLast? =
      some { staffId, state := Token.encode L c, skipVerify := true } ∧
    (acceptContactAdded L staff ext (Token.encode L c)).run b' =
      (if c = "" then (.dropped, b')
       else (.spawned, ((writeProfile (Token.decode L (Token.encode L c)) ext staff).run.run b').2)) ∧
    (Token.decode L (Token.encode L c) = c ↔ Token.Canonical L c) := by
  obtain ⟨-, -, hreq⟩ := contactWayQr_ok hqr
  refine ⟨by rw [hreq, List.getLast?_concat], ?_, Token.decode_encode_eq_self_iff hL c⟩
  split
  · subst_vars
    exact acceptContactAdded_of_empty b' (Token.isCorrelationState_encode L "")
      (decode_encode_empty hL)
  · rename_i hc
    exact acceptContactAdded_of_row b' (Token.isCorrelationState_encode L c)
      (Token.decode_encode_ne_empty hL hc) hext

theorem qr_callback_for_lowercase_uuid :
    Token.Codecs.standard.Lawful ∧
    ((contactWayQr .standard "zhangsan" "abcdef12-3456-7890-abcd-ef1234567890").run.run {}).2.contacts.requests.getLast? =
      some { staffId := "zhangsan", state := Token.encode .standard "abcdef12-3456-7890-abcd-ef1234567890",
             skipVerify := true } ∧
    (acceptContactAdded .standard "zhangsan" "wm-1" (Token.encode .standard "abcdef12-3456-7890-abcd-ef1234567890")).run {} =
      (if "abcdef12-3456-7890-abcd-ef1234567890" = "" then (.dropped, {})
       else (.spawned, ((writeProfile (Token.decode .standard (Token.encode .standard "abcdef12-3456-7890-abcd-ef1234567890"))
         "wm-1" "zhangsan").run.run {}).2)) ∧
    (Token.decode .standard (Token.encode .standard "abcdef12-3456-7890-abcd-ef1234567890") =
        "abcdef12-3456-7890-abcd-ef1234567890" ↔
      Token.Canonical .standard "abcdef12-3456-7890-abcd-ef1234567890") :=
  ⟨Token.standard_lawful, qr_callback_binds_canonical_row Token.standard_lawful
    (rfl : ((contactWayQr .standard "zhangsan" "abcdef12-3456-7890-abcd-ef1234567890").run.run {}).1 =
      .ok ⟨"cfg-1", "https://qr.example.com/cfg-1"⟩)
    "zhangsan" "wm-1" (by decide) {}⟩

/-- The empty identifier gets a contact way whose callback is dropped, and an uppercase UUID comes
back in lowercase. -/
theorem qr_callback_misses_noncanonical_rows :
    ((contactWayQr .standard "zhangsan" "").run.run {}).1 = .ok ⟨"cfg-1", "https://qr.example.com/cfg-1"⟩ ∧
    (acceptContactAdded .standard "zhangsan" "wm-1" (Token.encode .standard "")).run {} = (.dropped, {}) ∧
    ((contactWayQr .standard "zhangsan" "ABCDEF12-3456-7890-ABCD-EF1234567890").run.run {}).1 =
      .ok ⟨"cfg-1", "https://qr.example.com/cfg-1"⟩ ∧
    Token.decode .standard (Token.encode .standard "ABCDEF12-3456-7890-ABCD-EF1234567890") =
      "abcdef12-3456-7890-abcd-ef1234567890" := by
  have huuid : Token.IsUuid "ABCDEF12-3456-7890-ABCD-EF1234567890" := by decide
  obtain ⟨bytes, -, -, -, -, -, -, hdec⟩ := Token.round_trip_uuid Token.standard_lawful huuid
  refine ⟨rfl, acceptContactAdded_of_empty {} (Token.isCorrelationState_encode .standard "")
    (decode_encode_empty Token.standard_lawful), rfl, ?_⟩
  rw [hdec]
  decide

/-- `rows'` are `rows`, or `rows` with `g` applied to the first row of an id. -/
def Touched (rowId : String) (g : Row → Row) (rows rows' : List Row) : Prop :=
  rows' = rows ∨ ∃ i, rows.findIdx? (·.rowId == rowId) = some i ∧ rows' = rows.modify i g

def mergeRow (F : Fields) (r : Row) : Row := { r with fields := r.fields.merge F }

theorem updateRow_touched (w : Worksheet) (rowId : String) (F : Fields) (s : MemoryStore) :
    Touched rowId (mergeRow F) (s.rows w) (((MemoryStore.updateRow w rowId F).run s).2.rows w) := by
  rcases MemoryStore.updateRow_spec w rowId F s with ⟨e, -, hsame⟩ | ⟨i, hi, -, -, hrows⟩
  · exact .inl (congrFun hsame.rows w)
  · refine .inr ⟨i, hi, ?_⟩
    rw [hrows]
    simp only [MemoryStore.setRows_rows, if_true]
    rfl

abbrev boundField : String := CustomerField.externalUserId

theorem ensureUnbound_spec (rowId : String) (b : Backends) :
    ∃ res s₁, (ensureUnbound rowId).run.run b = (res, { b with store := s₁ }) ∧
      MemoryStore.SameRows b.store s₁ ∧
      (res = .ok () → ∃ row, b.store.row? .customer rowId = some row ∧ row.hasValue boundField = false) := by
  have hbefore := b.storeBefore_sameRows (MemoryStore.getRow .customer rowId)
  obtain ⟨hsame, hanswer⟩ :=
    MemoryStore.getRow_spec .customer rowId (b.storeBefore (MemoryStore.getRow .customer rowId))
  have hsame := hbefore.trans hsame
  unfold ensureUnbound
  cases hget : ((MemoryStore.getRow .customer rowId).run
      (b.storeBefore (MemoryStore.getRow .customer rowId))).1 with
  | error e =>
    refine ⟨.error (BindError.ofStore e), _, ?_, hsame, fun h => nomatch h⟩
    rw [run_bind_error (by rw [customerCall_run, hget]; rfl)]
  | ok x =>
    rw [run_bind_ok (by rw [customerCall_run, hget]; rfl)]
    have hx : x = b.store.row? .customer rowId := by
      rw [hanswer x hget, MemoryStore.row?, MemoryStore.row?, hbefore.rows]
    cases x with
    | none => exact ⟨.error (.notFound ("customer " ++ rowId)), _, rfl, hsame, fun h => nomatch h⟩
    | some row =>
      by_cases hv : row.hasValue boundField = true
      · refine ⟨.error (.conflict ("customer " ++ rowId ++ " is already bound")), _, ?_, hsame,
          fun h => nomatch h⟩
        simp only [hv, if_true]
        rfl
      · refine ⟨.ok (), _, ?_, hsame, fun _ => ⟨row, hx.symm, by simpa using hv⟩⟩
        simp only [hv]
        rfl

theorem customerCall_updateRow_touched (rowId : String) (F : Fields) (b : Backends) :
    Touched rowId (mergeRow F) (b.store.rows .customer)
      (((customerCall (MemoryStore.updateRow .customer rowId F)).run.run b).2.store.rows
        .customer) := by
  rw [customerCall_run, ← (b.storeBefore_sameRows _).rows]
  exact updateRow_touched .customer rowId F _

theorem writeProfile_touched (rowId u staff : String) (b : Backends) :
    ∃ F, Touched rowId (mergeRow F) (b.store.rows .customer)
      (((writeProfile rowId u staff).run.run b).2.store.rows .customer) := by
  unfold writeProfile
  cases hc : ((MemoryContacts.getExternalContact u).run b.contacts).1 with
  | error e =>
    refine ⟨[], .inl ?_⟩
    rw [run_bind_error (by rw [contactCall_run, hc]; rfl)]
  | ok contact =>
    rw [run_bind_ok (by rw [contactCall_run, hc]; rfl)]
    exact ⟨_, customerCall_updateRow_touched rowId _ _⟩

/-- How a binding operation may change one customer row: the row keeps its id, and a row that was
bound is still bound to the same contact unless `cleared` holds of its id. -/
structure KeepsBinding (cleared : String → Prop) (r r' : Row) : Prop where
  rowId : r'.rowId = r.rowId
  kept : r.hasValue boundField = true →
    (r'.hasValue boundField = true ∧ r'.text boundField = r.text boundField) ∨ cleared r.rowId

/-- Related lists stay related when one place of the right one is changed into something related
to the left one there. -/
theorem forall₂_modify {α β : Type} {R : α → β → Prop} {l : List α} {l' : List β}
    (h : List.Forall₂ R l l') (k : Nat) (f : β → β)
    (hk : ∀ (hl : k < l.length) (hl' : k < l'.length), R l[k] (f l'[k])) :
    List.Forall₂ R l (l'.modify k f) := by
  induction h generalizing k with
  | nil => simp
  | cons hab h ih =>
    cases k with
    | zero => exact List.Forall₂.cons (hk (by simp) (by simp)) h
    | succ k =>
      rw [List.modify_succ_cons]
      exact List.Forall₂.cons hab (ih k fun hl hl' => hk (by simpa using hl) (by simpa using hl'))

theorem forall₂_trans {α β γ : Type} {R : α → β → Prop} {S : β → γ → Prop} {T : α → γ → Prop}
    (hRST : ∀ a b c, R a b → S b c → T a c) {l₁ : List α} {l₂ : List β} {l₃ : List γ}
    (h : List.Forall₂ R l₁ l₂) (h' : List.Forall₂ S l₂ l₃) : List.Forall₂ T l₁ l₃ := by
  induction h generalizing l₃ with
  | nil =>
    cases h'
    exact .nil
  | cons hab _ ih =>
    cases h' with
    | cons hbc h' => exact .cons (hRST _ _ _ hab hbc) (ih h')

section Keeps

variable {cleared : String → Prop}

theorem KeepsBinding.refl (r : Row) : KeepsBinding cleared r r :=
  ⟨rfl, fun h => .inl ⟨h, rfl⟩⟩

theorem KeepsBinding.trans {cleared' : String → Prop} {r r' r'' : Row}
    (h : KeepsBinding cleared r r') (h' : KeepsBinding cleared' r' r'') :
    KeepsBinding (fun rowId => cleared rowId ∨ cleared' rowId) r r'' := by
  refine ⟨h'.rowId.trans h.rowId, fun hb => ?_⟩
  rcases h.kept hb with ⟨hb', htext⟩ | hc
  · rcases h'.kept hb' with ⟨hb'', htext'⟩ | hc'
    · exact .inl ⟨hb'', htext'.trans htext⟩
    · exact .inr (.inr (h.rowId ▸ hc'))
  · exact .inr (.inl hc)

theorem KeepsBinding.mono {cleared cleared' : String → Prop} {r r' : Row}
    (h : KeepsBinding cleared r r') (hc : ∀ rowId, cleared rowId → cleared' rowId) :
    KeepsBinding cleared' r r' :=
  ⟨h.rowId, fun hb => (h.kept hb).imp_right (hc _)⟩

theorem KeepsBinding.of_unbound {r r' : Row} (h : r.hasValue boundField = false)
    (hid : r'.rowId = r.rowId) : KeepsBinding cleared r r' :=
  ⟨hid, fun h' => absurd h' (by simp [h])⟩

theorem KeepsBinding.of_cleared {r r' : Row} (h : cleared r.rowId) (hid : r'.rowId = r.rowId) :
    KeepsBinding cleared r r' :=
  ⟨hid, fun _ => .inr h⟩

theorem map_rowId_of_keeps {rows rows' : List Row} (h : List.Forall₂ (KeepsBinding cleared) rows rows') :
    rows'.map (·.rowId) = rows.map (·.rowId) := by
  induction h with
  | nil => rfl
  | cons hr _ ih => simp only [List.map_cons, hr.rowId, ih]

theorem rowId_getElem_of_keeps {rows rows' : List Row}
    (h : List.Forall₂ (KeepsBinding cleared) rows rows') {i : Nat} (hl : i < rows.length)
    (hl' : i < rows'.length) : rows'[i].rowId = rows[i].rowId := by
  have := congrArg (·[i]?) (map_rowId_of_keeps h)
  simpa [List.getElem?_map, hl, hl'] using this

theorem find?_of_findIdx? {rows : List Row} {p : Row → Bool} {i : Nat}
    (h : rows.findIdx? p = some i) : ∃ hi : i < rows.length, rows.find? p = some rows[i] := by
  obtain ⟨hi, hp, hbefore⟩ := List.findIdx?_eq_some_iff_getElem.mp h
  refine ⟨hi, List.find?_eq_some_iff_getElem.mpr ⟨hp, i, hi, rfl, fun j hj => ?_⟩⟩
  simpa using hbefore j hj

theorem findIdx?_rowId_of_keeps {rows mid : List Row}
    (h : List.Forall₂ (KeepsBinding cleared) rows mid) (rowId : String) :
    mid.findIdx? (·.rowId == rowId) = rows.findIdx? (·.rowId == rowId) := by
  have hmap := map_rowId_of_keeps h
  have hmid : mid.findIdx? (·.rowId == rowId) = (mid.map (·.rowId)).findIdx? (· == rowId) := by
    rw [List.findIdx?_map]
    rfl
  have hrows : rows.findIdx? (·.rowId == rowId) = (rows.map (·.rowId)).findIdx? (· == rowId) := by
    rw [List.findIdx?_map]
    rfl
  rw [hmid, hrows, hmap]

theorem keeps_write {rows mid final : List Row} (h : List.Forall₂ (KeepsBinding cleared) rows mid)
    {rowId : String} {g : Row → Row} (hg : ∀ r, (g r).rowId = r.rowId)
    (hunbound : ∀ row, rows.find? (·.rowId == rowId) = some row → row.hasValue boundField = false)
    (ht : Touched rowId g mid final) : List.Forall₂ (KeepsBinding cleared) rows final := by
  rcases ht with rfl | ⟨i, hi, rfl⟩
  · exact h
  · -- the ids are those of `rows`, so the row written is the one `rows` finds
    rw [findIdx?_rowId_of_keeps h] at hi
    obtain ⟨_, hfind⟩ := find?_of_findIdx? hi
    refine forall₂_modify h i g fun hl hl' => KeepsBinding.of_unbound (hunbound _ hfind) ?_
    rw [hg, rowId_getElem_of_keeps h hl hl']

/-- Any change to the first row of an id keeps every binding, when that id may lose its
binding. -/
theorem keeps_clear {rows mid final : List Row} (h : List.Forall₂ (KeepsBinding cleared) rows mid)
    {rowId : String} (hc : cleared rowId) {g : Row → Row} (hg : ∀ r, (g r).rowId = r.rowId)
    (ht : Touched rowId g mid final) : List.Forall₂ (KeepsBinding cleared) rows final := by
  rcases ht with rfl | ⟨i, hi, rfl⟩
  · exact h
  · obtain ⟨_, hid, -⟩ := List.findIdx?_eq_some_iff_getElem.mp hi
    refine forall₂_modify h i g fun hl hl' => ?_
    have hrow : rows[i].rowId = rowId := by
      rw [← rowId_getElem_of_keeps h hl hl']
      simpa using hid
    exact KeepsBinding.of_cleared (hrow ▸ hc) (by rw [hg, rowId_getElem_of_keeps h hl hl'])

end Keeps

/-- What a checked binding operation did to the customer rows, from `b` to `b'`: every row keeps
its binding in the sense of `KeepsBinding cleared`, and if any row changed, the row of `target`
was there and unbound when the operation began. -/
def Guarded (cleared : String → Prop) (target : String) (b b' : Backends) : Prop :=
  List.Forall₂ (KeepsBinding cleared) (b.store.rows .customer) (b'.store.rows .customer) ∧
    (b'.store.rows .customer ≠ b.store.rows .customer →
      ∃ row, b.store.row? .customer target = some row ∧ row.hasValue boundField = false)

theorem Guarded.of_rows {cleared : String → Prop} {target : String} {b b' : Backends}
    (h : b'.store.rows .customer = b.store.rows .customer) : Guarded cleared target b b' := by
  refine ⟨?_, fun hne => absurd h hne⟩
  rw [h]
  exact List.forall₂_same.mpr fun r _ => KeepsBinding.refl r

theorem keeps_of_eq {cleared : String → Prop} {rows rows' : List Row} (h : rows' = rows) :
    List.Forall₂ (KeepsBinding cleared) rows rows' := by
  rw [h]
  exact List.forall₂_same.mpr fun r _ => KeepsBinding.refl r

/-- A write onto a row that a check found unbound, after changes that kept every binding, keeps
every binding. -/
theorem guarded_of_unbound {cleared : String → Prop} {rowId : String} {b b' : Backends}
    {mid : List Row} (hmid : List.Forall₂ (KeepsBinding cleared) (b.store.rows .customer) mid)
    (hunbound : ∃ row, b.store.row? .customer rowId = some row ∧ row.hasValue boundField = false)
    {F : Fields} (ht : Touched rowId (mergeRow F) mid (b'.store.rows .customer)) :
    Guarded cleared rowId b b' := by
  obtain ⟨row, hrow, hrow_unbound⟩ := hunbound
  refine ⟨keeps_write hmid (fun r => (rfl : (mergeRow F r).rowId = r.rowId)) (fun r hr => ?_) ht,
    fun _ => ⟨row, hrow, hrow_unbound⟩⟩
  rw [← MemoryStore.row?, hrow] at hr
  cases hr
  exact hrow_unbound

/-- What follows the two checks of a request, on a row found unbound with the rows unchanged,
keeps every binding in the request's sense: then so does the whole request, which changes
nothing when a check fails. -/
theorem guarded_of_checked {cleared : String → Prop} {rowId u : String}
    {rest : ExceptT BindError Run Unit} (b : Backends)
    (hrest : ∀ s₁, MemoryStore.SameRows b.store s₁ →
      (∃ row, b.store.row? .customer rowId = some row ∧ row.hasValue boundField = false) →
      Guarded cleared rowId b (rest.run.run { b with store := s₁ }).2) :
    Guarded cleared rowId b
      ((ExceptT.mk (pure (require rowId u)) >>= fun _ => ensureUnbound rowId >>= fun _ => rest).run.run
        b).2 := by
  cases hreq : require rowId u with
  | error e =>
    rw [run_bind_error (mk_pure_run (.error e) b)]
    exact Guarded.of_rows rfl
  | ok _ =>
    rw [run_bind_ok (mk_pure_run (.ok ()) b)]
    obtain ⟨res, s₁, hrun, hsame, hok⟩ := ensureUnbound_spec rowId b
    cases res with
    | error e =>
      rw [run_bind_error hrun]
      exact Guarded.of_rows (congrFun hsame.rows .customer)
    | ok _ =>
      rw [run_bind_ok hrun]
      exact hrest s₁ hsame (hok rfl)

theorem bind_guarded (rowId u staff : String) (b : Backends) :
    Guarded (fun _ => False) rowId b ((bind rowId u staff).run.run b).2 := by
  unfold bind
  refine guarded_of_checked b fun s₁ hsame hunbound => ?_
  obtain ⟨F, ht⟩ := writeProfile_touched rowId u staff { b with store := s₁ }
  exact guarded_of_unbound (keeps_of_eq (congrFun hsame.rows .customer)) hunbound ht

/-- Moving a binding to another row writes only onto the new row, found unbound, and clears only
the old row. -/
theorem changeBinding_guarded {o n : String} (u staff : String) (hne : o ≠ n) (b : Backends) :
    Guarded (· = o) n b ((changeBinding o n u staff).run.run b).2 := by
  unfold changeBinding
  by_cases ho : o.isEmpty = true
  · simp only [ho, if_true]
    rw [run_bind_error (throw_run _ b)]
    exact Guarded.of_rows rfl
  simp only [ho, Bool.false_eq_true, if_false, bne_iff_ne, ne_eq, hne, not_false_eq_true, if_true]
  refine guarded_of_checked b fun s₁ hsame hunbound => ?_
  have hclear : List.Forall₂ (KeepsBinding (· = o)) (b.store.rows .customer)
      (((customerCall (MemoryStore.updateRow .customer o clearedFields)).run.run
        { b with store := s₁ }).2.store.rows .customer) :=
    keeps_clear (keeps_of_eq (congrFun hsame.rows .customer)) rfl
      (fun r => (rfl : (mergeRow clearedFields r).rowId = r.rowId))
      (customerCall_updateRow_touched o clearedFields { b with store := s₁ })
  rcases hup : (customerCall (MemoryStore.updateRow .customer o clearedFields)).run.run
      { b with store := s₁ } with ⟨_ | _, b₂⟩ <;> rw [hup] at hclear
  · rw [run_bind_error hup]
    exact guarded_of_unbound hclear hunbound (.inl rfl : Touched n (mergeRow []) _ _)
  · rw [run_bind_ok hup]
    obtain ⟨F, ht⟩ := writeProfile_touched n u staff b₂
    exact guarded_of_unbound hclear hunbound ht

/-- A request to a binding entry point that checks the row it binds. A move names two different
rows: with one row, `changeBinding` rewrites that row without any check. -/
inductive BindRequest where
  | bind (rowId externalUserId staffId : String)
  | move (oldRowId newRowId externalUserId staffId : String) (distinct : oldRowId ≠ newRowId)

namespace BindRequest

def serve : BindRequest → ExceptT BindError Run Unit
  | .bind rowId u staff => Binding.bind rowId u staff
  | .move o n u staff _ => changeBinding o n u staff

def target : BindRequest → String
  | .bind rowId _ _ => rowId
  | .move _ n _ _ _ => n

/-- The rows whose binding a request may clear: none for a bind, the old row for a move. -/
def releases : BindRequest → String → Prop
  | .bind _ _ _ => fun _ => False
  | .move o _ _ _ _ => (· = o)

theorem serve_guarded (req : BindRequest) (b : Backends) :
    Guarded req.releases req.target b (req.serve.run.run b).2 := by
  cases req with
  | bind rowId u staff => exact bind_guarded rowId u staff b
  | move o n u staff hne => exact changeBinding_guarded u staff hne b

end BindRequest

/-- Serves requests one at a time, each from the state the one before left, whatever it
answered. -/
def serveAll : List BindRequest → Backends → Backends
  | [], b => b
  | req :: reqs, b => serveAll reqs (req.serve.run.run b).2

/-- Over any sequence of checked requests, every row bound at the start is bound to the same
contact at the end, unless it was the old row of a move. -/
theorem serveAll_keeps (reqs : List BindRequest) (b : Backends) :
    List.Forall₂ (KeepsBinding fun rowId => ∃ req ∈ reqs, req.releases rowId)
      (b.store.rows .customer) ((serveAll reqs b).store.rows .customer) := by
  induction reqs generalizing b with
  | nil => exact keeps_of_eq rfl
  | cons req reqs ih =>
    refine forall₂_trans (fun _ _ _ h h' => (h.trans h').mono fun rowId hc => ?_)
      (req.serve_guarded b).1 (ih _)
    rcases hc with hc | ⟨req', hmem, hc⟩
    · exact ⟨req, List.mem_cons_self, hc⟩
    · exact ⟨req', List.mem_cons_of_mem _ hmem, hc⟩

/-- The backends after a logged read of a customer row. -/
def afterRead (b : Backends) (rowId : String) : Backends :=
  { b with store := { b.store with calls := b.store.calls ++ [⟨.get, .customer, some rowId, none⟩] } }

theorem ensureUnbound_bound {rowId : String} {b : Backends} (hq : MemoryStore.Quiet b.store)
    (hw : b.waiting = []) {row : Row} (hfound : b.store.row? .customer rowId = some row)
    (hbound : row.hasValue boundField = true) :
    (ensureUnbound rowId).run.run b =
      (.error (.conflict ("customer " ++ rowId ++ " is already bound")), afterRead b rowId) := by
  unfold ensureUnbound
  rw [run_bind_ok (by
    rw [customerCall_run, Backends.storeBefore_of_waiting_nil hw, MemoryStore.getRow_quiet hq,
      hfound]; rfl)]
  simp only [hbound, if_true]
  rfl

theorem bind_conflict {rowId u staff : String} {b : Backends} (hq : MemoryStore.Quiet b.store)
    (hw : b.waiting = []) (hrow : rowId ≠ "") (hu : u ≠ "") {row : Row} (hfound : b.store.row? .customer rowId = some row)
    (hbound : row.hasValue boundField = true) :
    (bind rowId u staff).run.run b =
      (.error (.conflict ("customer " ++ rowId ++ " is already bound")), afterRead b rowId) := by
  have hreq : require rowId u = .ok () := by simp [require, hrow, hu]
  unfold bind
  rw [hreq, run_bind_ok (mk_pure_run _ b), run_bind_error (ensureUnbound_bound hq hw hfound hbound)]

/-- Checked binding requests keep every other binding: each writes only onto its own row, found
unbound, and clears at most a move's old row; so does any sequence of them; and a bind of a bound
row answers a conflict. -/
theorem checked_bindings_keep_other_bindings :
    (∀ (req : BindRequest) (b : Backends),
      Guarded req.releases req.target b (req.serve.run.run b).2) ∧
    (∀ (reqs : List BindRequest) (b : Backends),
      List.Forall₂ (KeepsBinding fun rowId => ∃ req ∈ reqs, req.releases rowId)
        (b.store.rows .customer) ((serveAll reqs b).store.rows .customer)) ∧
    (∀ (rowId u staff : String) (b : Backends) (row : Row), MemoryStore.Quiet b.store →
      b.waiting = [] → rowId ≠ "" → u ≠ "" → b.store.row? .customer rowId = some row →
      row.hasValue boundField = true →
      (bind rowId u staff).run.run b =
        (.error (.conflict ("customer " ++ rowId ++ " is already bound")), afterRead b rowId)) :=
  ⟨BindRequest.serve_guarded, serveAll_keeps,
    fun _ _ _ _ _ hq hw hrow hu hfound hbound => bind_conflict hq hw hrow hu hfound hbound⟩

/-- A customer row bound to one contact, an unbound one, and a second contact the API knows. -/
def boundCustomers : Backends :=
  { store := (({} : MemoryStore).insertRow .customer "c-1" [(boundField, .str "wm-9")]).insertRow
      .customer "c-2" []
    contacts := ({} : MemoryContacts).put ⟨"wm-1", "Li", "", 1, "", none⟩ }

theorem bind_of_bound_customer :
    (bind "c-1" "wm-1" "zhangsan").run.run boundCustomers =
      (.error (.conflict "customer c-1 is already bound"), afterRead boundCustomers "c-1") :=
  checked_bindings_keep_other_bindings.2.2 "c-1" "wm-1" "zhangsan" boundCustomers _
    ⟨fun _ => rfl⟩ rfl (by decide) (by decide) rfl rfl

/-- A move onto the row it leaves and the callback's write overwrite another contact's binding,
and a move clears its old row whoever it is bound to. -/
theorem unchecked_writes_overwrite_bindings :
    (boundCustomers.store.row? .customer "c-1").map (·.text boundField) = some "wm-9" ∧
    ((((changeBinding "c-1" "c-1" "wm-1" "zhangsan").run.run boundCustomers).2.store.row?
      .customer "c-1").map (·.text boundField)) = some "wm-1" ∧
    ((((acceptContactAdded .standard "zhangsan" "wm-1" (Token.encode .standard "c-1")).run boundCustomers).2.store.row?
      .customer "c-1").map (·.text boundField)) = some "wm-1" ∧
    ((((changeBinding "c-1" "c-2" "wm-1" "zhangsan").run.run boundCustomers).2.store.row?
      .customer "c-1").map (·.hasValue boundField)) = some false := by
  have hdec : Token.decode .standard (Token.encode .standard "c-1") = "c-1" :=
    (Token.decode_encode_eq_self_iff Token.standard_lawful "c-1").mpr
      ⟨fun h => absurd h (by decide), fun bytes hp => by simpa using hp.length Token.standard_lawful⟩
  refine ⟨rfl, rfl, ?_, rfl⟩
  rw [acceptContactAdded_of_row boundCustomers (Token.isCorrelationState_encode .standard "c-1")
    (by rw [hdec]; decide) (by decide), hdec]
  rfl

end RosterSync.Binding

import RosterSync.Proofs.ContactBinding

/-!
Binding in stages: what a bind and a move leave in the customer rows, for every state of the
store and of the contact API and every failure they are set to inject.

A bind checks its arguments, reads the row to find it unbound, reads the contact, and writes the
contact's profile (`boundProfile`) into the first row of the id. Every call before the write
changes no row and the write is one store call, so a bind ends as `BindEnd` says: the profile is
merged into the row, or no row changed (`bind_ends`). A move between two different rows makes one
more write before the last, which clears the old row's binding fields; it ends as `MoveEnd` says:
failed with no row changed, failed with only the old row cleared, or both rows written
(`changeBinding_ends`). A move onto the row it leaves is the profile write alone
(`changeBinding_self`).
-/

namespace RosterSync.Binding

open RosterSync.Json RosterSync.Record RosterSync.Directory RosterSync.Sync

/-- The fields a bind writes for a contact: its profile with the staff member, and the contact id
the request named when the profile carries none. -/
def boundProfile (c : Contact) (u staff : String) : Fields :=
  if c.externalUserId = "" then
    (profileFields c (some staff)).insert CustomerField.externalUserId (.str u)
  else profileFields c (some staff)

/-- `s'` holds the rows of `s` with `F` merged into the first customer row of `rowId`, which
exists. -/
def MergedInto (rowId : String) (F : Fields) (s s' : MemoryStore) : Prop :=
  ∃ i, (s.rows .customer).findIdx? (·.rowId == rowId) = some i ∧
    s'.rows = (s.setRows .customer ((s.rows .customer).modify i (mergeRow F))).rows

/-- How a bind of `rowId` to contact `u` from backends `b` can end, with answer `res` and store
`s'`. -/
inductive BindEnd (rowId u staff : String) (b : Backends) (res : Except BindError Unit)
    (s' : MemoryStore) : Prop
  /-- The contact API answered a contact, whose profile is merged into the row. -/
  | bound (c : Contact) (hres : res = .ok ())
      (hc : ((MemoryContacts.getExternalContact u).run b.contacts).1 = .ok c)
      (hwrite : MergedInto rowId (boundProfile c u staff) b.store s')
  /-- A failure, with every row as it was. -/
  | failed (e : BindError) (hres : res = .error e) (hrows : s'.rows = b.store.rows)

/-- How a move of contact `u` from row `o` to row `n` can end. -/
inductive MoveEnd (o n u staff : String) (b : Backends) (res : Except BindError Unit)
    (s' : MemoryStore) : Prop
  /-- The old row cleared, then the new one written as a bind writes it. -/
  | moved (c : Contact) (s₁ : MemoryStore) (hres : res = .ok ())
      (hc : ((MemoryContacts.getExternalContact u).run b.contacts).1 = .ok c)
      (hclear : MergedInto o clearedFields b.store s₁)
      (hwrite : MergedInto n (boundProfile c u staff) s₁ s')
  /-- A failure of the checks or of the clear, with every row as it was. -/
  | failedBeforeClear (e : BindError) (hres : res = .error e) (hrows : s'.rows = b.store.rows)
  /-- A failure of the contact read or of the last write, with the old row cleared. -/
  | failedAfterClear (e : BindError) (hres : res = .error e)
      (hclear : MergedInto o clearedFields b.store s')

theorem get?_put_ne (acc : Fields) {k key : String} (v : String) (h : key ≠ k) :
    (if v.isEmpty = true then acc else acc.insert k (.str v)).get? key = acc.get? key := by
  split
  · rfl
  · exact Fields.get?_insert_ne acc _ h

theorem get?_profileFields_externalUserId (c : Contact) (staff : Option String) :
    (profileFields c staff).get? CustomerField.externalUserId =
      if c.externalUserId = "" then none else some (.str c.externalUserId) := by
  have hne : ∀ k ∈ [CustomerField.wechatName, CustomerField.wechatGender,
      CustomerField.wechatAvatar, CustomerField.wechatUnionId, CustomerField.externalProfile,
      CustomerField.staffId], CustomerField.externalUserId ≠ k := by decide
  simp only [List.mem_cons, List.not_mem_nil, or_false, forall_eq_or_imp, forall_eq] at hne
  obtain ⟨h₁, h₂, h₃, h₄, h₅, h₆⟩ := hne
  -- the id is put first; every later put is under another key
  unfold profileFields
  cases staff <;> cases hp : c.externalProfile <;>
    simp only [get?_put_ne _ _ h₆, get?_put_ne _ _ h₅, get?_put_ne _ _ h₄,
      get?_put_ne _ _ h₃, get?_put_ne _ _ h₂, get?_put_ne _ _ h₁]
  all_goals
    by_cases hid : c.externalUserId = ""
    · simp [hid, Fields.get?]
    · simp [hid, Fields.get?_insert_self]

theorem writeProfile_eq (rowId u staff : String) :
    writeProfile rowId u staff =
      contactCall (MemoryContacts.getExternalContact u) >>= fun c =>
        customerCall (MemoryStore.updateRow .customer rowId (boundProfile c u staff)) := by
  unfold writeProfile
  congr
  funext c
  simp only [get?_profileFields_externalUserId]
  unfold boundProfile
  by_cases hid : c.externalUserId = "" <;> simp [hid]

section Lists

variable {α : Type} {p : α → Bool} {g : α → α}

/-- Changing the first member a search finds, in a way the search cannot see, changes the member
it finds. -/
theorem find?_modify_of_findIdx? (hg : ∀ x, p (g x) = p x) :
    ∀ {l : List α} {i : Nat}, l.findIdx? p = some i → (l.modify i g).find? p = (l.find? p).map g
  | [], _, h => by simp at h
  | a :: l, i, h => by
    by_cases ha : p a = true
    · -- the search stops at the head, which is the member changed
      have hi : i = 0 := by simpa [List.findIdx?_cons, ha] using h.symm
      subst hi
      simp [ha, hg]
    · obtain ⟨j, hj, rfl⟩ : ∃ j, l.findIdx? p = some j ∧ i = j + 1 := by
        simpa [List.findIdx?_cons, ha, eq_comm] using h
      simp only [List.modify_succ_cons, List.find?_cons, ha]
      exact find?_modify_of_findIdx? hg hj

/-- Changing a member the search skips, in a way the search cannot see, changes nothing it
finds. -/
theorem find?_modify_of_not (hg : ∀ x, p (g x) = p x) :
    ∀ (l : List α) (i : Nat), (∀ h : i < l.length, p l[i] = false) →
      (l.modify i g).find? p = l.find? p
  | [], _, _ => by simp
  | a :: l, 0, h => by
    have ha : p a = false := h (by simp)
    simp [ha, hg]
  | a :: l, i + 1, h => by
    simp only [List.modify_succ_cons, List.find?_cons]
    rw [find?_modify_of_not hg l i fun hi => h (by simpa using hi)]

end Lists

namespace MergedInto

variable {rowId : String} {F : Fields} {s s' : MemoryStore}

theorem of_rows {s₁ s'' : MemoryStore} (h : MergedInto rowId F s s') (hs : s₁.rows = s.rows)
    (hs' : s''.rows = s'.rows) : MergedInto rowId F s₁ s'' := by
  obtain ⟨i, hi, hrows⟩ := h
  refine ⟨i, hs ▸ hi, ?_⟩
  rw [hs', hrows]
  funext w
  simp only [MemoryStore.setRows_rows, hs]

theorem row?_self (h : MergedInto rowId F s s') :
    ∃ row, s.row? .customer rowId = some row ∧
      s'.row? .customer rowId = some (mergeRow F row) := by
  obtain ⟨i, hi, hrows⟩ := h
  obtain ⟨hlt, hfind⟩ := find?_of_findIdx? hi
  refine ⟨_, hfind, ?_⟩
  simp only [MemoryStore.row?, hrows, MemoryStore.setRows_rows, if_true]
  rw [find?_modify_of_findIdx? (g := mergeRow F) (fun _ => rfl) hi, hfind]
  rfl

theorem row?_ne (h : MergedInto rowId F s s') {key : String} (hkey : key ≠ rowId) :
    s'.row? .customer key = s.row? .customer key := by
  obtain ⟨i, hi, hrows⟩ := h
  obtain ⟨hlt, hid, -⟩ := List.findIdx?_eq_some_iff_getElem.mp hi
  simp only [MemoryStore.row?, hrows, MemoryStore.setRows_rows, if_true]
  refine find?_modify_of_not (g := mergeRow F) (fun _ => rfl) _ i fun hlt' => ?_
  have : (s.rows .customer)[i].rowId = rowId := by simpa using hid
  simpa [this] using Ne.symm hkey

end MergedInto

theorem get?_insertAll (keys : List String) (v : Value) (acc : Fields) (key : String) :
    (keys.foldl (fun acc k => acc.insert k v) acc).get? key =
      if key ∈ keys then some v else acc.get? key := by
  induction keys generalizing acc with
  | nil => simp
  | cons k ks ih =>
    rw [List.foldl_cons, ih]
    by_cases hk : key = k
    · subst hk
      simp [Fields.get?_insert_self]
    · simp [Fields.get?_insert_ne _ _ hk, hk]

theorem sorted_insertAll (keys : List String) (v : Value) {acc : Fields} (h : acc.Sorted) :
    (keys.foldl (fun acc k => acc.insert k v) acc).Sorted := by
  induction keys generalizing acc with
  | nil => exact h
  | cons k ks ih => exact ih (h.insert k v)

theorem mergeRow_clearedFields (row : Row) :
    ∀ f ∈ CustomerField.binding, (mergeRow clearedFields row).fields.get? f = some (.str "") := by
  intro f hf
  have hsorted : clearedFields.Sorted := sorted_insertAll _ _ (by simp [Fields.Sorted])
  rw [mergeRow, Fields.get?_merge _ hsorted.nodup, clearedFields, get?_insertAll]
  simp [hf]

theorem updateRow_ends (rowId : String) (F : Fields) (s : MemoryStore) :
    (∃ e, ((MemoryStore.updateRow .customer rowId F).run s).1 = .error e ∧
      ((MemoryStore.updateRow .customer rowId F).run s).2.rows = s.rows) ∨
    (((MemoryStore.updateRow .customer rowId F).run s).1 = .ok () ∧
      MergedInto rowId F s ((MemoryStore.updateRow .customer rowId F).run s).2) := by
  rcases MemoryStore.updateRow_spec .customer rowId F s with ⟨e, he, hsame⟩ | ⟨i, hi, hok, -, hrows⟩
  · exact .inl ⟨e, he, hsame.rows⟩
  · exact .inr ⟨hok, i, hi, hrows⟩

theorem customerCall_updateRow_ends (rowId : String) (F : Fields) (b : Backends) :
    (∃ e, ((customerCall (MemoryStore.updateRow .customer rowId F)).run.run b).1 = .error e ∧
      ((customerCall (MemoryStore.updateRow .customer rowId F)).run.run b).2.store.rows =
        b.store.rows) ∨
    (((customerCall (MemoryStore.updateRow .customer rowId F)).run.run b).1 = .ok () ∧
      MergedInto rowId F b.store
        ((customerCall (MemoryStore.updateRow .customer rowId F)).run.run b).2.store) := by
  have hbefore := (b.storeBefore_sameRows (MemoryStore.updateRow .customer rowId F)).rows
  rw [customerCall_run]
  rcases updateRow_ends rowId F (b.storeBefore (MemoryStore.updateRow .customer rowId F)) with
    ⟨e, he, hrows⟩ | ⟨hok, hwrite⟩
  · exact .inl ⟨_, by rw [he]; rfl, hrows.trans hbefore⟩
  · exact .inr ⟨by rw [hok]; rfl, hwrite.of_rows hbefore.symm rfl⟩

theorem BindEnd.of_rows {rowId u staff : String} {b b₁ : Backends} {res : Except BindError Unit}
    {s' : MemoryStore} (h : BindEnd rowId u staff b₁ res s') (hc : b₁.contacts = b.contacts)
    (hs : b₁.store.rows = b.store.rows) : BindEnd rowId u staff b res s' := by
  cases h with
  | bound c hres hcon hwrite => exact .bound c hres (hc ▸ hcon) (hwrite.of_rows hs.symm rfl)
  | failed e hres hrows => exact .failed e hres (hrows.trans hs)

theorem writeProfile_ends (rowId u staff : String) (b : Backends) :
    BindEnd rowId u staff b ((writeProfile rowId u staff).run.run b).1
      ((writeProfile rowId u staff).run.run b).2.store := by
  rw [writeProfile_eq]
  cases hc : ((MemoryContacts.getExternalContact u).run b.contacts).1 with
  | error e =>
    rw [run_bind_error (by rw [contactCall_run, hc]; rfl)]
    exact .failed _ rfl rfl
  | ok c =>
    rw [run_bind_ok (by rw [contactCall_run, hc]; rfl)]
    rcases customerCall_updateRow_ends rowId (boundProfile c u staff)
        { b with contacts := ((MemoryContacts.getExternalContact u).run b.contacts).2 } with
      ⟨e, he, hrows⟩ | ⟨hok, hwrite⟩
    · exact .failed _ he hrows
    · exact .bound c hok hc hwrite

theorem bind_ends (rowId u staff : String) (b : Backends) :
    BindEnd rowId u staff b ((bind rowId u staff).run.run b).1
      ((bind rowId u staff).run.run b).2.store := by
  unfold bind
  cases hreq : require rowId u with
  | error e =>
    rw [run_bind_error (mk_pure_run _ b)]
    exact .failed e rfl rfl
  | ok _ =>
    rw [run_bind_ok (mk_pure_run _ b)]
    obtain ⟨res, s₁, hrun, hsame, -⟩ := ensureUnbound_spec rowId b
    cases res with
    | error e =>
      rw [run_bind_error hrun]
      exact .failed e rfl hsame.rows
    | ok _ =>
      rw [run_bind_ok hrun]
      exact (writeProfile_ends rowId u staff _).of_rows rfl hsame.rows

/-- A move between two different rows fails with no row changed, fails with only the old row
cleared, or clears the old row and writes the new one. -/
theorem changeBinding_ends {o n : String} (u staff : String) (hne : o ≠ n) (b : Backends) :
    MoveEnd o n u staff b ((changeBinding o n u staff).run.run b).1
      ((changeBinding o n u staff).run.run b).2.store := by
  unfold changeBinding
  by_cases ho : o.isEmpty = true
  · simp only [ho, if_true]
    rw [run_bind_error (throw_run _ b)]
    exact .failedBeforeClear _ rfl rfl
  simp only [ho, Bool.false_eq_true, if_false, bne_iff_ne, ne_eq, hne, not_false_eq_true, if_true]
  cases hreq : require n u with
  | error e =>
    rw [run_bind_error (mk_pure_run _ b)]
    exact .failedBeforeClear e rfl rfl
  | ok _ =>
    rw [run_bind_ok (mk_pure_run _ b)]
    obtain ⟨res, s₁, hrun, hsame, -⟩ := ensureUnbound_spec n b
    cases res with
    | error e =>
      rw [run_bind_error hrun]
      exact .failedBeforeClear e rfl hsame.rows
    | ok _ =>
      rw [run_bind_ok hrun]
      rcases customerCall_updateRow_ends o clearedFields { b with store := s₁ } with
        ⟨e, he, hrows⟩ | ⟨hok, hclear⟩
      · rw [run_bind_error (Prod.ext he rfl)]
        exact .failedBeforeClear _ rfl (hrows.trans hsame.rows)
      · rw [run_bind_ok (Prod.ext hok rfl)]
        have hclear' := hclear.of_rows hsame.rows.symm rfl
        cases writeProfile_ends n u staff ((customerCall (MemoryStore.updateRow .customer o
            clearedFields)).run.run { b with store := s₁ }).2 with
        | bound c hres hc hwrite => exact .moved c _ hres hc hclear' hwrite
        | failed e hres hrows => exact .failedAfterClear e hres (hclear'.of_rows rfl hrows)

theorem MoveEnd.old_cleared {o n u staff : String} {b : Backends} {s' : MemoryStore}
    (h : MoveEnd o n u staff b (.ok ()) s') (hne : o ≠ n) :
    ∃ row, s'.row? .customer o = some row ∧
      ∀ f ∈ CustomerField.binding, row.fields.get? f = some (.str "") := by
  cases h with
  | moved c s₁ _ _ hclear hwrite =>
    obtain ⟨row, -, hrow⟩ := hclear.row?_self
    exact ⟨_, (hwrite.row?_ne hne).trans hrow, mergeRow_clearedFields row⟩
  | failedBeforeClear e hres => cases hres
  | failedAfterClear e hres => cases hres

theorem MoveEnd.new_kept {o n u staff : String} {b : Backends} {e : BindError} {s' : MemoryStore}
    (h : MoveEnd o n u staff b (.error e) s') (hne : o ≠ n) :
    s'.row? .customer n = b.store.row? .customer n := by
  cases h with
  | moved c s₁ hres => cases hres
  | failedBeforeClear e hres hrows => simp only [MemoryStore.row?, hrows]
  | failedAfterClear e hres hclear => exact hclear.row?_ne (Ne.symm hne)

/-- A move onto the row it leaves checks its arguments and writes the profile, and nothing else:
no row is read and none cleared. -/
theorem changeBinding_self (rowId u staff : String) (b : Backends) :
    (changeBinding rowId rowId u staff).run.run b =
      if rowId = "" then (.error (.badRequest "old_row_id is required"), b)
      else if u = "" then (.error (.badRequest "external_user_id is required"), b)
      else (writeProfile rowId u staff).run.run b := by
  unfold changeBinding
  by_cases hr : rowId = ""
  · subst hr
    rfl
  · by_cases hu : u = ""
    · subst hu
      simp [hr, require]
      rfl
    · simp [hr, hu, require]

/-- A bind merges the contact's profile into the row or changes no row; a move between two
different rows fails before the clear with no row changed, fails after it with only the old row
cleared, or clears the old row and writes the new one; and a move onto the row it leaves is the
profile write alone. -/
theorem bindings_fail_in_stages :
    (∀ (rowId u staff : String) (b : Backends),
      BindEnd rowId u staff b ((bind rowId u staff).run.run b).1
        ((bind rowId u staff).run.run b).2.store) ∧
    (∀ (o n u staff : String) (b : Backends), o ≠ n →
      MoveEnd o n u staff b ((changeBinding o n u staff).run.run b).1
        ((changeBinding o n u staff).run.run b).2.store ∧
      (((changeBinding o n u staff).run.run b).1 = .ok () →
        ∃ row, ((changeBinding o n u staff).run.run b).2.store.row? .customer o = some row ∧
          ∀ f ∈ CustomerField.binding, row.fields.get? f = some (.str "")) ∧
      (∀ e, ((changeBinding o n u staff).run.run b).1 = .error e →
        ((changeBinding o n u staff).run.run b).2.store.row? .customer n =
          b.store.row? .customer n)) ∧
    (∀ (rowId u staff : String) (b : Backends),
      (changeBinding rowId rowId u staff).run.run b =
        if rowId = "" then (.error (.badRequest "old_row_id is required"), b)
        else if u = "" then (.error (.badRequest "external_user_id is required"), b)
        else (writeProfile rowId u staff).run.run b) := by
  refine ⟨bind_ends, fun o n u staff b hne => ⟨changeBinding_ends u staff hne b, ?_, ?_⟩,
    changeBinding_self⟩
  · intro hok
    have h := changeBinding_ends u staff hne b
    rw [hok] at h
    exact h.old_cleared hne
  · intro e herr
    have h := changeBinding_ends u staff hne b
    rw [herr] at h
    exact h.new_kept hne

/-- A move from the bound customer row to the unbound one. -/
theorem move_from_bound_customer :
    "c-1" ≠ "c-2" ∧
    (MoveEnd "c-1" "c-2" "wm-1" "zhangsan" boundCustomers
        ((changeBinding "c-1" "c-2" "wm-1" "zhangsan").run.run boundCustomers).1
        ((changeBinding "c-1" "c-2" "wm-1" "zhangsan").run.run boundCustomers).2.store ∧
      (((changeBinding "c-1" "c-2" "wm-1" "zhangsan").run.run boundCustomers).1 = .ok () →
        ∃ row, ((changeBinding "c-1" "c-2" "wm-1" "zhangsan").run.run
            boundCustomers).2.store.row? .customer "c-1" = some row ∧
          ∀ f ∈ CustomerField.binding, row.fields.get? f = some (.str "")) ∧
      (∀ e, ((changeBinding "c-1" "c-2" "wm-1" "zhangsan").run.run boundCustomers).1 = .error e →
        ((changeBinding "c-1" "c-2" "wm-1" "zhangsan").run.run boundCustomers).2.store.row?
            .customer "c-2" = boundCustomers.store.row? .customer "c-2")) :=
  ⟨by decide, bindings_fail_in_stages.2.1 "c-1" "c-2" "wm-1" "zhangsan" boundCustomers (by decide)⟩

end RosterSync.Binding

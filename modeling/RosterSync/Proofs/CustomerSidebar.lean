import RosterSync.Proofs.StoreRefinement

/-!
What the customer service shows and what it writes.

A row leaves the service as the stored row it was read from, less its hidden members: no member
keyed by a hidden field id or a binding field is shown, and every other member is, with its value
and in its place (`ShownAs`). This holds on the three read paths: matching a contact, reading a row
by id and searching.

A search trims its keyword; a blank keyword is refused before the store is asked. Otherwise the
service makes one filter call, for the rows whose phone or customer number contains the keyword.
Writing keeps the editable members of the update: with none left, or with no row id, it is
refused before the store is asked; otherwise it makes one update call with exactly those members
and answers how many it wrote. The form lists the schema's fields in order, less those whose id or
alias is hidden and less every later field of an id already listed (`FirstOfEach`), each marked
editable as the sidebar allows.
-/

namespace RosterSync.Binding

open RosterSync.Json RosterSync.Record RosterSync.Sync

theorem isHidden_eq_false_iff (k : String) :
    isHidden k = false ↔ k ∉ hiddenFieldIds ∧ k ∉ CustomerField.binding := by
  simp [isHidden]

/-- A stored row as the sidebar shows it: the same row, with no member keyed by a hidden field id
or a binding field, and every other member of the stored row, in its order. -/
structure ShownAs (r₀ r : Row) : Prop where
  rowId : r.rowId = r₀.rowId
  worksheet : r.worksheet = r₀.worksheet
  hides : ∀ kv ∈ r.fields, kv.1 ∉ hiddenFieldIds ∧ kv.1 ∉ CustomerField.binding
  keeps : ∀ kv ∈ r₀.fields, kv.1 ∉ hiddenFieldIds → kv.1 ∉ CustomerField.binding → kv ∈ r.fields
  sublist : r.fields.Sublist r₀.fields

theorem shownAs_stripHidden (r : Row) : ShownAs r (stripHidden r) where
  rowId := rfl
  worksheet := rfl
  hides := by
    intro kv hkv
    have hshown : isHidden kv.1 = false := by simpa [stripHidden] using (List.mem_filter.mp hkv).2
    exact (isHidden_eq_false_iff kv.1).mp hshown
  keeps := by
    intro kv hkv hid hbind
    refine List.mem_filter.mpr ⟨hkv, ?_⟩
    have hshown : isHidden kv.1 = false := (isHidden_eq_false_iff kv.1).mpr ⟨hid, hbind⟩
    simp [hshown]
  sublist := List.filter_sublist

/-- `kept` is `fields` less the fields whose id is in `seen` or belongs to an earlier field: each
remaining id once, at its first field, in order. -/
structure FirstOfEach (seen : List String) (fields kept : List SchemaField) : Prop where
  sublist : kept.Sublist fields
  nodup : (kept.map (·.id)).Nodup
  unseen : ∀ g ∈ kept, g.id ∉ seen
  first : ∀ g ∈ kept, fields.find? (·.id == g.id) = some g
  covers : ∀ f ∈ fields, f.id ∉ seen → ∃ g ∈ kept, g.id = f.id

theorem find?_id_cons_of_ne {f g : SchemaField} {rest : List SchemaField} (h : g.id ≠ f.id) :
    (f :: rest).find? (·.id == g.id) = rest.find? (·.id == g.id) := by
  have hne : (f.id == g.id) = false := beq_eq_false_iff_ne.2 (Ne.symm h)
  simp [hne]

theorem firstOfEachId_spec (fields : List SchemaField) (seen : List String) :
    FirstOfEach seen fields (firstOfEachId fields seen) := by
  induction fields generalizing seen with
  | nil => exact ⟨.slnil, .nil, nofun, nofun, nofun⟩
  | cons f rest ih =>
    by_cases hseen : f.id ∈ seen
    · -- a field of an id seen before is left out
      have hcontains : seen.contains f.id = true := by simpa using hseen
      obtain ⟨hsub, hnodup, hunseen, hfirst, hcovers⟩ := ih seen
      simp only [firstOfEachId, hcontains, if_true]
      refine ⟨hsub.cons f, hnodup, hunseen, fun g hg => ?_, fun f' hf' hnot => ?_⟩
      · have hne : g.id ≠ f.id := fun h => hunseen g hg (h ▸ hseen)
        rw [find?_id_cons_of_ne hne, hfirst g hg]
      · rcases List.mem_cons.mp hf' with rfl | hrest
        · exact absurd hseen hnot
        · exact hcovers f' hrest hnot
    · -- a field of a new id is kept, and its id counts as seen for the rest
      have hcontains : seen.contains f.id = false := by simpa using hseen
      obtain ⟨hsub, hnodup, hunseen, hfirst, hcovers⟩ := ih (f.id :: seen)
      simp only [firstOfEachId, hcontains, Bool.false_eq_true, if_false]
      have hfresh : ∀ g ∈ firstOfEachId rest (f.id :: seen), g.id ≠ f.id :=
        fun g hg h => hunseen g hg (h ▸ List.mem_cons_self)
      refine ⟨hsub.cons_cons f, ?_, ?_, ?_, ?_⟩
      · refine List.nodup_cons.mpr ⟨fun hmem => ?_, hnodup⟩
        obtain ⟨g, hg, hid⟩ := List.mem_map.mp hmem
        exact hfresh g hg hid
      · intro g hg
        rcases List.mem_cons.mp hg with rfl | hg
        · exact hseen
        · exact fun h => hunseen g hg (List.mem_cons_of_mem _ h)
      · intro g hg
        rcases List.mem_cons.mp hg with rfl | hg
        · simp
        · rw [find?_id_cons_of_ne (hfresh g hg), hfirst g hg]
      · intro f' hf' hnot
        rcases List.mem_cons.mp hf' with rfl | hrest
        · exact ⟨f', List.mem_cons_self, rfl⟩
        · by_cases hid : f'.id = f.id
          · exact ⟨f, List.mem_cons_self, hid.symm⟩
          · obtain ⟨g, hg, hgid⟩ := hcovers f' hrest (by simp [hid, hnot])
            exact ⟨g, List.mem_cons_of_mem _ hg, hgid⟩

/-- An answer of a service call that maps a store answer and its failure came from a store
answer. -/
theorem eq_ok_of_map_mapError {ε ε' α β : Type} {x : Except ε α} {g : α → β} {h : ε → ε'} {y : β}
    (hy : (x.map g).mapError h = .ok y) : ∃ a, x = .ok a ∧ y = g a := by
  cases x with
  | error e => cases hy
  | ok a =>
    cases hy
    exact ⟨a, rfl, rfl⟩

theorem Filter.matches_eq (name value : String) (fields : Fields) :
    (Filter.eq name value).matches fields = (fieldText fields name == value) := rfl

theorem Filter.matches_or_contains (a c keyword : String) (fields : Fields) :
    ((Filter.contains a keyword).or (Filter.contains c keyword)).matches fields =
      (occursIn keyword.toList (fieldText fields a).toList ||
        occursIn keyword.toList (fieldText fields c).toList) := by
  simp [Filter.or, Filter.contains, Filter.matches, Filter.matchesAny, Operator.holds]

theorem forall₂_shownAs_map (rows : List Row) : List.Forall₂ ShownAs rows (rows.map stripHidden) := by
  rw [List.forall₂_map_right_iff, List.forall₂_same]
  exact fun r _ => shownAs_stripHidden r

/-- The rows whose phone or customer number contains a keyword. -/
def holdingKeyword (rows : List Row) (keyword : String) : List Row :=
  rows.filter fun r => occursIn keyword.toList (fieldText r.fields CustomerField.phone).toList ||
    occursIn keyword.toList (fieldText r.fields CustomerField.customerNo).toList

section Runs

variable (b : Backends)

/-- Matching a contact is one lookup of the first customer row holding the contact's id, shown
without its hidden members. -/
theorem matchByExternalUser_run {x : String} (hx : x ≠ "") :
    (matchByExternalUser x).run.run b =
      ((((MemoryStore.findOne .customer (Filter.eq CustomerField.externalUserId x)).run
            (b.storeBefore (MemoryStore.findOne .customer
              (Filter.eq CustomerField.externalUserId x)))).1.map
          (Option.map stripHidden)).mapError BindError.ofStore,
        { b with store :=
          ((MemoryStore.findOne .customer (Filter.eq CustomerField.externalUserId x)).run
            (b.storeBefore (MemoryStore.findOne .customer
              (Filter.eq CustomerField.externalUserId x)))).2 }) := by
  have hne : x.isEmpty = false := by simpa using hx
  simp only [matchByExternalUser, hne, Bool.false_eq_true, if_false]
  cases hfind : ((MemoryStore.findOne .customer (Filter.eq CustomerField.externalUserId x)).run
      (b.storeBefore (MemoryStore.findOne .customer
        (Filter.eq CustomerField.externalUserId x)))).1 with
  | error e =>
    rw [run_bind_error (by rw [customerCall_run, hfind]; rfl)]
    rfl
  | ok row =>
    rw [run_bind_ok (by rw [customerCall_run, hfind]; rfl)]
    rfl

/-- Reading a customer is one lookup of the first row of the id, shown without its hidden members,
and refused as not found when no row has the id. -/
theorem getCustomer_ok {rowId : String} {r : Row} (h : ((getCustomer rowId).run.run b).1 = .ok r) :
    ∃ r₀, ((MemoryStore.getRow .customer rowId).run
        (b.storeBefore (MemoryStore.getRow .customer rowId))).1 = .ok (some r₀) ∧
      r = stripHidden r₀ := by
  by_cases hempty : rowId.isEmpty = true
  · simp [getCustomer, hempty] at h
  · simp only [getCustomer, hempty, Bool.false_eq_true, if_false] at h
    cases hget : ((MemoryStore.getRow .customer rowId).run
        (b.storeBefore (MemoryStore.getRow .customer rowId))).1 with
    | error e =>
      rw [run_bind_error (by rw [customerCall_run, hget]; rfl)] at h
      cases h
    | ok row =>
      rw [run_bind_ok (by rw [customerCall_run, hget]; rfl)] at h
      cases row with
      | none => cases h
      | some r₀ =>
        cases h
        exact ⟨r₀, rfl, rfl⟩

theorem search_blank {k : String} (hk : Text.trim k = "") (p : Page) :
    (search k p).run.run b = (.error (.badRequest "search keyword is required"), b) := by
  have hempty : (Text.trim k).isEmpty = true := by simp [hk]
  simp only [search, hempty, if_true]
  rfl

/-- Any other keyword is trimmed and searched as one filter call, for the rows whose phone or
customer number contains it; the rows come back without their hidden members. -/
theorem search_run {k : String} (hk : Text.trim k ≠ "") (p : Page) :
    (search k p).run.run b =
      ((((MemoryStore.filterRows .customer
            ((Filter.contains CustomerField.phone (Text.trim k)).or
              (Filter.contains CustomerField.customerNo (Text.trim k))) p).run
            (b.storeBefore (MemoryStore.filterRows .customer
              ((Filter.contains CustomerField.phone (Text.trim k)).or
                (Filter.contains CustomerField.customerNo (Text.trim k))) p))).1.map
          fun found => { found with rows := found.rows.map stripHidden }).mapError BindError.ofStore,
        { b with store := ((MemoryStore.filterRows .customer
            ((Filter.contains CustomerField.phone (Text.trim k)).or
              (Filter.contains CustomerField.customerNo (Text.trim k))) p).run
            (b.storeBefore (MemoryStore.filterRows .customer
              ((Filter.contains CustomerField.phone (Text.trim k)).or
                (Filter.contains CustomerField.customerNo (Text.trim k))) p))).2 }) := by
  have hempty : (Text.trim k).isEmpty = false := by simpa using hk
  simp only [search, hempty, Bool.false_eq_true, if_false]
  cases hfilter : ((MemoryStore.filterRows .customer
      ((Filter.contains CustomerField.phone (Text.trim k)).or
        (Filter.contains CustomerField.customerNo (Text.trim k))) p).run
      (b.storeBefore (MemoryStore.filterRows .customer
        ((Filter.contains CustomerField.phone (Text.trim k)).or
          (Filter.contains CustomerField.customerNo (Text.trim k))) p))).1 with
  | error e =>
    rw [run_bind_error (by rw [customerCall_run, hfilter]; rfl)]
    rfl
  | ok found =>
    rw [run_bind_ok (by rw [customerCall_run, hfilter]; rfl)]
    rfl

theorem updateFields_no_row (updates : Fields) :
    (updateFields "" updates).run.run b = (.error (.badRequest "row_id is required"), b) := by
  have hempty : ("" : String).isEmpty = true := rfl
  simp only [updateFields, hempty, if_true]
  rfl

theorem updateFields_nothing_editable (rowId : String) {updates : Fields}
    (hnone : updates.filter (fun kv => isEditable kv.1) = []) :
    ∃ m, (updateFields rowId updates).run.run b = (.error (.badRequest m), b) := by
  by_cases hempty : rowId.isEmpty = true
  · refine ⟨"row_id is required", ?_⟩
    simp only [updateFields, hempty, if_true]
    rfl
  · refine ⟨"no editable fields to update", ?_⟩
    simp only [updateFields, hempty, Bool.false_eq_true, if_false, hnone, List.isEmpty_nil, if_true]
    rfl

/-- Otherwise writing is one update call with exactly the editable members, and answers how many
it wrote when the store took them. -/
theorem updateFields_run {rowId : String} {updates : Fields} (hrow : rowId ≠ "")
    (hsome : updates.filter (fun kv => isEditable kv.1) ≠ []) :
    (updateFields rowId updates).run.run b =
      ((((MemoryStore.updateRow .customer rowId (updates.filter fun kv => isEditable kv.1)).run
            (b.storeBefore (MemoryStore.updateRow .customer rowId
              (updates.filter fun kv => isEditable kv.1)))).1.map
            fun _ => (updates.filter fun kv => isEditable kv.1).length).mapError BindError.ofStore,
        { b with store := ((MemoryStore.updateRow .customer rowId
            (updates.filter fun kv => isEditable kv.1)).run
            (b.storeBefore (MemoryStore.updateRow .customer rowId
              (updates.filter fun kv => isEditable kv.1)))).2 }) := by
  have hne : rowId.isEmpty = false := by simpa using hrow
  have hne' : (updates.filter fun kv => isEditable kv.1).isEmpty = false := by simpa using hsome
  simp only [updateFields, hne, hne', Bool.false_eq_true, if_false]
  cases hup : ((MemoryStore.updateRow .customer rowId
      (updates.filter fun kv => isEditable kv.1)).run
      (b.storeBefore (MemoryStore.updateRow .customer rowId
        (updates.filter fun kv => isEditable kv.1)))).1 with
  | error e =>
    rw [run_bind_error (by rw [customerCall_run, hup]; rfl)]
    rfl
  | ok u =>
    rw [run_bind_ok (by rw [customerCall_run, hup]; rfl)]
    rfl

/-- The form reads the schema once, and lists the first field of each id among the fields whose id
and alias are shown, each marked editable as the sidebar allows. -/
theorem fieldConfigs_ok {configs : List FieldConfig} (h : (fieldConfigs.run.run b).1 = .ok configs) :
    ∃ schema, ((MemoryStore.worksheetSchema .customer).run
        (b.storeBefore (MemoryStore.worksheetSchema .customer))).1 = .ok schema ∧
      configs = (firstOfEachId (schema.filter fun f =>
          !isHidden f.id && f.fieldAlias.all fun a => !isHidden a) []).map
        fun f => ⟨f.id, f.name, f.fieldType, isEditable f.id, f.options⟩ := by
  unfold fieldConfigs at h
  cases hschema : ((MemoryStore.worksheetSchema .customer).run
      (b.storeBefore (MemoryStore.worksheetSchema .customer))).1 with
  | error e =>
    rw [run_bind_error (by rw [customerCall_run, hschema]; rfl)] at h
    cases h
  | ok schema =>
    rw [run_bind_ok (by rw [customerCall_run, hschema]; rfl)] at h
    cases h
    refine ⟨schema, rfl, ?_⟩
    congr 2
    apply List.filter_congr
    intro f _
    obtain ⟨id, name, fieldType, fieldAlias, required, options⟩ := f
    cases fieldAlias <;> rfl

end Runs

section Reads

variable (b : Backends)

theorem matchByExternalUser_shows {x : String} {r : Row}
    (h : ((matchByExternalUser x).run.run b).1 = .ok (some r)) :
    ∃ r₀, (b.store.rows .customer).find?
        (fun r => fieldText r.fields CustomerField.externalUserId == x) = some r₀ ∧ ShownAs r₀ r := by
  by_cases hx : x = ""
  · subst hx
    simp [matchByExternalUser] at h
  · rw [matchByExternalUser_run b hx] at h
    obtain ⟨found, hfind, hr⟩ := eq_ok_of_map_mapError h
    have hspec := ((MemoryStore.findOne_answers _ .customer _).spec_of_ok hfind).1
    rw [hfind, Except.ok.injEq, (b.storeBefore_sameRows _).rows] at hspec
    simp only [Filter.matches_eq] at hspec
    rw [hspec] at hr
    cases hfirst : (b.store.rows .customer).find?
        (fun r => fieldText r.fields CustomerField.externalUserId == x) with
    | none =>
      rw [hfirst] at hr
      cases hr
    | some r₀ =>
      rw [hfirst, Option.map_some, Option.some.injEq] at hr
      subst hr
      exact ⟨r₀, rfl, shownAs_stripHidden r₀⟩

theorem getCustomer_shows {rowId : String} {r : Row} (h : ((getCustomer rowId).run.run b).1 = .ok r) :
    ∃ r₀, (b.store.rows .customer).find? (·.rowId == rowId) = some r₀ ∧ ShownAs r₀ r := by
  obtain ⟨r₀, hget, rfl⟩ := getCustomer_ok b h
  have hspec := ((MemoryStore.getRow_answers _ .customer rowId).spec_of_ok hget).1
  rw [hget, Except.ok.injEq, (b.storeBefore_sameRows _).rows] at hspec
  exact ⟨r₀, hspec.symm, shownAs_stripHidden r₀⟩

/-- The rows a search answers are the page of the rows holding the trimmed keyword, shown, and
its total is how many hold it. -/
theorem search_shows {k : String} {p : Page} {found : RowPage}
    (h : ((search k p).run.run b).1 = .ok found) :
    found.total = (holdingKeyword (b.store.rows .customer) (Text.trim k)).length ∧
      List.Forall₂ ShownAs (Sheets.page (holdingKeyword (b.store.rows .customer) (Text.trim k)) p)
        found.rows := by
  by_cases hk : Text.trim k = ""
  · rw [search_blank b hk] at h
    cases h
  · rw [search_run b hk] at h
    obtain ⟨page, hfilter, rfl⟩ := eq_ok_of_map_mapError h
    have hspec := ((MemoryStore.filterRows_answers _ .customer _ p).spec_of_ok hfilter).1
    rw [hfilter, Except.ok.injEq, (b.storeBefore_sameRows _).rows] at hspec
    have hmatch : Sheets.matching b.store.rows .customer
        ((Filter.contains CustomerField.phone (Text.trim k)).or
          (Filter.contains CustomerField.customerNo (Text.trim k))) =
        holdingKeyword (b.store.rows .customer) (Text.trim k) := by
      simp only [Sheets.matching, holdingKeyword, Filter.matches_or_contains]
    rw [hmatch] at hspec
    subst hspec
    exact ⟨rfl, forall₂_shownAs_map _⟩

end Reads

open MemoryStore in
/-- The customer service shows stored rows without their hidden members and writes only editable
fields. A row that matching, reading by id or searching answers is a stored row shown without its
hidden members: for matching, the first customer row holding the contact's id; for reading, the
first row of the id; for searching, each row of the page of rows whose phone or customer number
contains the trimmed keyword, whose number is the total. A blank keyword is refused and asks
nothing of the store; any other is one filter call for those rows. Writing with no row id or with
no editable member is refused and asks nothing of the store; otherwise it is one update call with
exactly the editable members, answering their number when the store takes them. The form lists,
in schema order, the first field of each id among the fields whose id and alias are shown, each
marked editable as the sidebar allows. -/
theorem customer_service_shows_and_writes (b : Backends) :
    (∀ x r, ((matchByExternalUser x).run.run b).1 = .ok (some r) →
      ∃ r₀, (b.store.rows .customer).find?
          (fun r => fieldText r.fields CustomerField.externalUserId == x) = some r₀ ∧
        ShownAs r₀ r) ∧
    (∀ rowId r, ((getCustomer rowId).run.run b).1 = .ok r →
      ∃ r₀, (b.store.rows .customer).find? (·.rowId == rowId) = some r₀ ∧ ShownAs r₀ r) ∧
    (∀ k p found, ((search k p).run.run b).1 = .ok found →
      found.total = (holdingKeyword (b.store.rows .customer) (Text.trim k)).length ∧
        List.Forall₂ ShownAs (Sheets.page (holdingKeyword (b.store.rows .customer) (Text.trim k)) p)
          found.rows) ∧
    (∀ k p, Text.trim k = "" →
      (search k p).run.run b = (.error (.badRequest "search keyword is required"), b)) ∧
    (∀ k p, Text.trim k ≠ "" →
      (search k p).run.run b =
        ((((filterRows .customer ((Filter.contains CustomerField.phone (Text.trim k)).or
              (Filter.contains CustomerField.customerNo (Text.trim k))) p).run
              (b.storeBefore (filterRows .customer ((Filter.contains CustomerField.phone
                (Text.trim k)).or (Filter.contains CustomerField.customerNo (Text.trim k))) p))).1.map
            fun found => { found with rows := found.rows.map stripHidden }).mapError BindError.ofStore,
          { b with store := ((filterRows .customer
              ((Filter.contains CustomerField.phone (Text.trim k)).or
                (Filter.contains CustomerField.customerNo (Text.trim k))) p).run
              (b.storeBefore (filterRows .customer ((Filter.contains CustomerField.phone
                (Text.trim k)).or (Filter.contains CustomerField.customerNo (Text.trim k))) p))).2 })) ∧
    (∀ updates, (updateFields "" updates).run.run b = (.error (.badRequest "row_id is required"), b)) ∧
    (∀ rowId updates, updates.filter (fun kv => isEditable kv.1) = [] →
      ∃ m, (updateFields rowId updates).run.run b = (.error (.badRequest m), b)) ∧
    (∀ rowId updates, rowId ≠ "" → updates.filter (fun kv => isEditable kv.1) ≠ [] →
      (updateFields rowId updates).run.run b =
        ((((updateRow .customer rowId (updates.filter fun kv => isEditable kv.1)).run
              (b.storeBefore (updateRow .customer rowId
                (updates.filter fun kv => isEditable kv.1)))).1.map
              fun _ => (updates.filter fun kv => isEditable kv.1).length).mapError BindError.ofStore,
          { b with store := ((updateRow .customer rowId
              (updates.filter fun kv => isEditable kv.1)).run
              (b.storeBefore (updateRow .customer rowId
                (updates.filter fun kv => isEditable kv.1)))).2 })) ∧
    (∀ configs, (fieldConfigs.run.run b).1 = .ok configs →
      ∃ kept, FirstOfEach [] ((b.store.schemas .customer).filter fun f =>
          !isHidden f.id && f.fieldAlias.all fun a => !isHidden a) kept ∧
        configs = kept.map fun f => ⟨f.id, f.name, f.fieldType, isEditable f.id, f.options⟩) := by
  refine ⟨fun x r h => matchByExternalUser_shows b h, fun rowId r h => getCustomer_shows b h,
    fun k p found h => search_shows b h, fun k p hk => search_blank b hk p,
    fun k p hk => search_run b hk p, updateFields_no_row b,
    fun rowId updates hnone => updateFields_nothing_editable b rowId hnone,
    fun rowId updates hrow hsome => updateFields_run b hrow hsome, fun configs h => ?_⟩
  obtain ⟨schema, hschema, rfl⟩ := fieldConfigs_ok b h
  have hspec := ((worksheetSchema_answers _ .customer).spec_of_ok hschema).1
  rw [hschema, Except.ok.injEq, Backends.schemas_storeBefore] at hspec
  subst hspec
  exact ⟨_, firstOfEachId_spec _ [], rfl⟩

/-- Backends whose customer worksheet holds one row, under the empty id. -/
def emptyIdCustomer : Backends :=
  { store := ({} : MemoryStore).insertRow .customer "" [] }

/-- Writing an editable field of the row under the empty id is refused before the store is asked:
the update's editable part is not empty, yet nothing is written and no count is answered. -/
theorem empty_row_id_write_refused :
    ([("694e20662a4f51165dfa2264", Value.str "Road 1")].filter fun kv => isEditable kv.1) ≠ [] ∧
      (updateFields "" [("694e20662a4f51165dfa2264", .str "Road 1")]).run.run emptyIdCustomer =
        (.error (.badRequest "row_id is required"), emptyIdCustomer) :=
  ⟨by simp [isEditable, displayFields], updateFields_no_row _ _⟩

end RosterSync.Binding

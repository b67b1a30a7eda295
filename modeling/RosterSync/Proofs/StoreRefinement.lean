import RosterSync.Proofs.RowAddressing

/-!
The in-memory record store refines a map from worksheets to lists of rows.

The abstract store (`Sheets`) keeps each worksheet's rows in insertion order. Creating appends a
row under a new id; updating merges fields into the first row of an id and deleting drops every
row of it, both refused when no row has the id; filtering answers one page of the matching rows,
the `index`-th run of `size` of them with index zero read as one, and how many match in all.
Concatenating the pages `1 .. ⌈total / size⌉` gives every matching row once, in order.

Every call of the store is logged before anything else. The oldest failure queued for its
operation (`pending`), if any, answers the call and is taken off the queue, and the rows stay as
they were.
With none pending, the call acts on the rows as the abstract operation does (`Answers`). A
created id differs from every id the store created before, and from every stored row's id as long
as no row was given an id the store has yet to create (`CreatesFresh`), which every call keeps.
-/

namespace RosterSync.Record

open RosterSync.Json

/-- The abstract record store: each worksheet's rows, in insertion order. -/
abbrev Sheets := Worksheet → List Row

namespace Sheets

def put (t : Sheets) (w : Worksheet) (rows : List Row) : Sheets :=
  fun w' => if w' = w then rows else t w'

/-- The rows of a worksheet that a filter matches, in insertion order. -/
def matching (t : Sheets) (w : Worksheet) (f : Filter) : List Row :=
  (t w).filter fun r => f.matches r.fields

/-- The `index`-th page of `size` rows, counting pages from one; index zero reads the first. -/
def page (rows : List Row) (p : Page) : List Row :=
  (rows.drop ((max p.index 1 - 1) * p.size)).take p.size

/-- A row created under an id: the fields given, with the id in `rowid`. -/
def newRow (w : Worksheet) (rowId : String) (fields : Fields) : Row :=
  { rowId, worksheet := w, fields := fields.insert "rowid" (.str rowId) }

/-- Fields merged into the first row of an id; none when no row of the worksheet has it. -/
def update (t : Sheets) (w : Worksheet) (rowId : String) (fields : Fields) : Option Sheets :=
  ((t w).findIdx? (·.rowId == rowId)).map fun i =>
    t.put w ((t w).modify i fun r => { r with fields := r.fields.merge fields })

/-- Every row of an id dropped; none when no row of the worksheet has it. -/
def delete (t : Sheets) (w : Worksheet) (rowId : String) : Option Sheets :=
  if (t w).any (·.rowId == rowId) then some (t.put w ((t w).filter (·.rowId != rowId))) else none

theorem flatMap_pages (rows : List Row) (size n : Nat) :
    ((List.range n).flatMap fun i => page rows ⟨size, i + 1⟩) = rows.take (n * size) := by
  induction n with
  | zero => simp
  | succ n ih =>
    rw [List.range_succ, List.flatMap_append, ih, Nat.succ_mul, List.take_add]
    simp [page]

theorem flatMap_pages_all (rows : List Row) {size : Nat} (hsize : 0 < size) :
    ((List.range ((rows.length + size - 1) / size)).flatMap fun i => page rows ⟨size, i + 1⟩) =
      rows := by
  rw [flatMap_pages]
  apply List.take_of_length_le
  -- the last page ends at or past the end: `⌈len / size⌉ * size ≥ len`
  have hlt := Nat.lt_div_mul_add (a := rows.length + size - 1) hsize
  omega

end Sheets

namespace MemoryStore

/-- The failures a call of an operation finds queued, oldest first. -/
def pending (s : MemoryStore) (op : Operation) : List StoreError :=
  s.failures op

/-- No stored row holds an id the store has yet to create. -/
def CreatesFresh (s : MemoryStore) : Prop :=
  ∀ w, ∀ r ∈ s.rows w, ∀ n, r.rowId = createdRowId n → n ≤ s.created

def arrive (s : MemoryStore) (call : Call) : MemoryStore :=
  { s with calls := s.calls ++ [call] }

@[simp] theorem arrive_rows (s : MemoryStore) (call : Call) : (s.arrive call).rows = s.rows := rfl

@[simp] theorem arrive_schemas (s : MemoryStore) (call : Call) :
    (s.arrive call).schemas = s.schemas := rfl

@[simp] theorem arrive_created (s : MemoryStore) (call : Call) :
    (s.arrive call).created = s.created := rfl

@[simp] theorem arrive_calls (s : MemoryStore) (call : Call) :
    (s.arrive call).calls = s.calls ++ [call] := rfl

section Enter

variable {op : Operation} {w : Worksheet} {rowId : Option String} {fields : Option Fields}
  {s : MemoryStore}

theorem enter_clear (h : s.pending op = []) :
    (enter op w rowId fields).run s = (none, s.arrive ⟨op, w, rowId, fields⟩) := by
  have h' : s.failures op = [] := h
  simp only [enter, StateT.run_bind, StateT.run_get, pure_bind, h']
  rfl

variable (w rowId fields) in
theorem enter_pending {e : StoreError} {rest : List StoreError} (h : s.pending op = e :: rest) :
    ∃ s₁, (enter op w rowId fields).run s = (some e, s₁) ∧
      s₁.calls = s.calls ++ [⟨op, w, rowId, fields⟩] ∧ s₁.rows = s.rows ∧ s₁.failures op = rest := by
  have h' : s.failures op = e :: rest := h
  have hrun : (enter op w rowId fields).run s = (some e,
      { s.arrive ⟨op, w, rowId, fields⟩ with
        failures := fun o => if o = op then rest else s.failures o }) := by
    simp only [enter, StateT.run_bind, StateT.run_get, pure_bind, h']
    rfl
  exact ⟨_, hrun, rfl, rfl, by simp⟩

end Enter

/-- What a call does: it is logged first; a failure pending for it answers it, leaves the queue
and leaves the rows as they were; with none pending, its answer and the rows after it are as
`spec` says. -/
structure Answers {α : Type} (s : MemoryStore) (call : Call) (spec : Except StoreError α → Sheets → Prop)
    (r : Except StoreError α × MemoryStore) : Prop where
  logged : r.2.calls = s.calls ++ [call]
  failed : ∀ e rest, s.pending call.op = e :: rest →
    r.1 = .error e ∧ r.2.rows = s.rows ∧ r.2.failures call.op = rest
  served : s.pending call.op = [] → spec r.1 r.2.rows

/-- A call that fails as `enter` does when a failure is pending, and is logged once and meets
`spec` otherwise, answers as `spec` says. -/
theorem Answers.intro {α : Type} {s : MemoryStore} {call : Call}
    {spec : Except StoreError α → Sheets → Prop} {x : StateM MemoryStore (Except StoreError α)}
    (hfail : ∀ e rest, s.pending call.op = e :: rest → ∃ s₁, x.run s = (.error e, s₁) ∧
      s₁.calls = s.calls ++ [call] ∧ s₁.rows = s.rows ∧ s₁.failures call.op = rest)
    (hserve : s.pending call.op = [] →
      (x.run s).2.calls = s.calls ++ [call] ∧ spec (x.run s).1 (x.run s).2.rows) :
    Answers s call spec (x.run s) := by
  cases hp : s.pending call.op with
  | nil =>
    obtain ⟨hlog, hspec⟩ := hserve hp
    refine ⟨hlog, ?_, fun _ => hspec⟩
    intro e rest h
    rw [hp] at h
    cases h
  | cons e rest =>
    obtain ⟨s₁, hrun, hlog, hrows, hq⟩ := hfail e rest hp
    refine ⟨by rw [hrun]; exact hlog, ?_, ?_⟩
    · intro e' rest' h'
      rw [hp] at h'
      obtain ⟨rfl, rfl⟩ := List.cons.inj h'
      rw [hrun]
      exact ⟨rfl, hrows, hq⟩
    · intro h
      rw [hp] at h
      cases h

theorem Answers.spec_of_ok {α : Type} {s : MemoryStore} {call : Call}
    {spec : Except StoreError α → Sheets → Prop} {r : Except StoreError α × MemoryStore}
    (h : Answers s call spec r) {x : α} (hok : r.1 = .ok x) : spec r.1 r.2.rows := by
  cases hp : s.pending call.op with
  | nil => exact h.served hp
  | cons e rest =>
    have hfail := (h.failed e rest hp).1
    rw [hok] at hfail
    cases hfail

section Calls

variable (s : MemoryStore) (w : Worksheet)

theorem createRow_answers (fields : Fields) :
    Answers s ⟨.create, w, none, some fields⟩
      (fun a t => a = .ok (createdRowId (s.created + 1)) ∧
        t = Sheets.put s.rows w (s.rows w ++ [Sheets.newRow w (createdRowId (s.created + 1)) fields]))
      ((createRow w fields).run s) := by
  apply Answers.intro
  · intro e rest hp
    obtain ⟨s₁, hrun, hlog⟩ := enter_pending w none (some fields) hp
    exact ⟨s₁, by unfold createRow; rw [run_bind_eq hrun]; rfl, hlog⟩
  · intro hp
    have hrun : (createRow w fields).run s = (.ok (createdRowId (s.created + 1)),
        { s.arrive ⟨.create, w, none, some fields⟩ with created := s.created + 1 }.insertRow w
          (createdRowId (s.created + 1)) fields) := by
      unfold createRow
      rw [run_bind_eq (enter_clear hp), run_get_bind, arrive_created]
      rfl
    rw [hrun]
    refine ⟨by simp [insertRow, setRows], rfl, ?_⟩
    funext w'
    simp [insertRow, setRows, Sheets.put, Sheets.newRow]

theorem getRow_answers (rowId : String) :
    Answers s ⟨.get, w, some rowId, none⟩
      (fun a t => a = .ok ((s.rows w).find? (·.rowId == rowId)) ∧ t = s.rows)
      ((getRow w rowId).run s) := by
  apply Answers.intro
  · intro e rest hp
    obtain ⟨s₁, hrun, hlog⟩ := enter_pending w (some rowId) none hp
    exact ⟨s₁, by unfold getRow; rw [run_bind_eq hrun]; rfl, hlog⟩
  · intro hp
    have hrun : (getRow w rowId).run s =
        (.ok ((s.arrive ⟨.get, w, some rowId, none⟩).row? w rowId), s.arrive ⟨.get, w, some rowId, none⟩) := by
      unfold getRow
      rw [run_bind_eq (enter_clear hp)]
      rfl
    rw [hrun]
    exact ⟨arrive_calls s _, by simp [row?], arrive_rows s _⟩

theorem filterRows_answers (f : Filter) (p : Page) :
    Answers s ⟨.filter, w, none, none⟩
      (fun a t => a = .ok ⟨Sheets.page (Sheets.matching s.rows w f) p,
        (Sheets.matching s.rows w f).length⟩ ∧ t = s.rows)
      ((filterRows w f p).run s) := by
  apply Answers.intro
  · intro e rest hp
    obtain ⟨s₁, hrun, hlog⟩ := enter_pending w none none hp
    exact ⟨s₁, by unfold filterRows; rw [run_bind_eq hrun]; rfl, hlog⟩
  · intro hp
    have hrun : (filterRows w f p).run s =
        (.ok ⟨((((s.arrive ⟨.filter, w, none, none⟩).rows w).filter fun r => f.matches r.fields).drop
            ((p.index - 1) * p.size)).take p.size,
          (((s.arrive ⟨.filter, w, none, none⟩).rows w).filter fun r => f.matches r.fields).length⟩,
          s.arrive ⟨.filter, w, none, none⟩) := by
      unfold filterRows
      rw [run_bind_eq (enter_clear hp)]
      rfl
    -- the store skips `(index - 1) * size` rows, and `index - 1 = max index 1 - 1`
    have hskip : (p.index - 1) * p.size = (max p.index 1 - 1) * p.size := by
      congr 1
      omega
    rw [hrun]
    exact ⟨arrive_calls s _, by simp [Sheets.page, Sheets.matching, hskip], arrive_rows s _⟩

/-- An update merges the fields into the first row of the id, or is refused with the provider's
not-found error when no row has it. -/
theorem updateRow_answers (rowId : String) (fields : Fields) :
    Answers s ⟨.update, w, some rowId, some fields⟩
      (fun a t => (∀ t', Sheets.update s.rows w rowId fields = some t' → a = .ok () ∧ t = t') ∧
        (Sheets.update s.rows w rowId fields = none →
          a = .error (.provider 10007 ("row " ++ rowId ++ " not found")) ∧ t = s.rows))
      ((updateRow w rowId fields).run s) := by
  apply Answers.intro
  · intro e rest hp
    obtain ⟨s₁, hrun, hlog⟩ := enter_pending w (some rowId) (some fields) hp
    exact ⟨s₁, by unfold updateRow; rw [run_bind_eq hrun]; rfl, hlog⟩
  · intro hp
    cases hi : (s.rows w).findIdx? (·.rowId == rowId) with
    | none =>
      have hrun : (updateRow w rowId fields).run s =
          (.error (.rowNotFound rowId), s.arrive ⟨.update, w, some rowId, some fields⟩) := by
        unfold updateRow
        rw [run_bind_eq (enter_clear hp), run_get_bind]
        simp only [arrive_rows, hi]
        rfl
      rw [hrun]
      refine ⟨arrive_calls s _, fun t' ht' => ?_, fun _ => ⟨rfl, arrive_rows s _⟩⟩
      simp [Sheets.update, hi] at ht'
    | some i =>
      have hrun : (updateRow w rowId fields).run s =
          (.ok (), (s.arrive ⟨.update, w, some rowId, some fields⟩).setRows w
            ((s.rows w).modify i fun r => { r with fields := r.fields.merge fields })) := by
        unfold updateRow
        rw [run_bind_eq (enter_clear hp), run_get_bind]
        simp only [arrive_rows, hi]
        rfl
      rw [hrun]
      refine ⟨by simp [setRows], fun t' ht' => ?_, fun hnone => ?_⟩
      · simp only [Sheets.update, hi, Option.map_some, Option.some.injEq] at ht'
        subst ht'
        exact ⟨rfl, by funext w'; simp [setRows, Sheets.put]⟩
      · simp [Sheets.update, hi] at hnone

/-- A deletion drops every row of the id, or is refused with the provider's not-found error when
no row has it. -/
theorem deleteRow_answers (rowId : String) :
    Answers s ⟨.delete, w, some rowId, none⟩
      (fun a t => (∀ t', Sheets.delete s.rows w rowId = some t' → a = .ok () ∧ t = t') ∧
        (Sheets.delete s.rows w rowId = none →
          a = .error (.provider 10007 ("row " ++ rowId ++ " not found")) ∧ t = s.rows))
      ((deleteRow w rowId).run s) := by
  apply Answers.intro
  · intro e rest hp
    obtain ⟨s₁, hrun, hlog⟩ := enter_pending w (some rowId) none hp
    exact ⟨s₁, by unfold deleteRow; rw [run_bind_eq hrun]; rfl, hlog⟩
  · intro hp
    -- the store compares counts: fewer rows are kept exactly when some row has the id
    have hkept : ((s.rows w).filter (·.rowId != rowId)).length = (s.rows w).length ↔
        (s.rows w).any (·.rowId == rowId) = false := by
      rw [List.length_filter_eq_length_iff, List.any_eq_false]
      simp
    by_cases hany : (s.rows w).any (·.rowId == rowId) = true
    · have hfewer : ¬ ((s.rows w).filter (·.rowId != rowId)).length = (s.rows w).length := by
        rw [hkept, hany]
        decide
      have hrun : (deleteRow w rowId).run s =
          (.ok (), (s.arrive ⟨.delete, w, some rowId, none⟩).setRows w
            ((s.rows w).filter (·.rowId != rowId))) := by
        unfold deleteRow
        rw [run_bind_eq (enter_clear hp), run_get_bind]
        simp only [arrive_rows, hfewer, if_false]
        rfl
      rw [hrun]
      refine ⟨by simp [setRows], fun t' ht' => ?_, fun hnone => ?_⟩
      · simp only [Sheets.delete, hany, if_true, Option.some.injEq] at ht'
        subst ht'
        exact ⟨rfl, by funext w'; simp [setRows, Sheets.put]⟩
      · simp [Sheets.delete, hany] at hnone
    · have hsame : ((s.rows w).filter (·.rowId != rowId)).length = (s.rows w).length := by
        rw [hkept]
        simpa using hany
      have hrun : (deleteRow w rowId).run s =
          (.error (.rowNotFound rowId), s.arrive ⟨.delete, w, some rowId, none⟩) := by
        unfold deleteRow
        rw [run_bind_eq (enter_clear hp), run_get_bind]
        simp only [arrive_rows, hsame, if_true]
        rfl
      rw [hrun]
      refine ⟨arrive_calls s _, fun t' ht' => ?_, fun _ => ⟨rfl, arrive_rows s _⟩⟩
      simp [Sheets.delete, hany] at ht'

theorem worksheetSchema_answers :
    Answers s ⟨.schema, w, none, none⟩ (fun a t => a = .ok (s.schemas w) ∧ t = s.rows)
      ((worksheetSchema w).run s) := by
  apply Answers.intro
  · intro e rest hp
    obtain ⟨s₁, hrun, hlog⟩ := enter_pending w none none hp
    exact ⟨s₁, by unfold worksheetSchema; rw [run_bind_eq hrun]; rfl, hlog⟩
  · intro hp
    have hrun : (worksheetSchema w).run s =
        (.ok ((s.arrive ⟨.schema, w, none, none⟩).schemas w), s.arrive ⟨.schema, w, none, none⟩) := by
      unfold worksheetSchema
      rw [run_bind_eq (enter_clear hp)]
      rfl
    rw [hrun]
    exact ⟨arrive_calls s _, by simp, arrive_rows s _⟩

/-- Finding one row is a filter call for the first page of one row: it answers the first row that
matches. -/
theorem findOne_answers (f : Filter) :
    Answers s ⟨.filter, w, none, none⟩
      (fun a t => a = .ok ((s.rows w).find? fun r => f.matches r.fields) ∧ t = s.rows)
      ((findOne w f).run s) := by
  obtain ⟨hlog, hfail, hserve⟩ := filterRows_answers s w f Page.first
  rcases hp : (filterRows w f Page.first).run s with ⟨a, s₁⟩
  rw [hp] at hlog hfail hserve
  unfold findOne
  rw [run_bind_eq hp]
  cases a with
  | error e =>
    refine ⟨hlog, fun e' rest h => ?_, fun h => ?_⟩
    · obtain ⟨he, hrows, hq⟩ := hfail e' rest h
      cases he
      exact ⟨rfl, hrows, hq⟩
    · obtain ⟨he, _⟩ := hserve h
      cases he
  | ok page =>
    refine ⟨hlog, fun e' rest h => ?_, fun h => ?_⟩
    · obtain ⟨he, _⟩ := hfail e' rest h
      cases he
    · obtain ⟨he, hrows⟩ := hserve h
      cases he
      refine ⟨congrArg Except.ok ?_, hrows⟩
      simp [Sheets.page, Sheets.matching, Page.first, Page.clamped, List.head?_take,
        List.head?_filter]

/-- The id the store creates next differs from every id it created before, and from every stored
row's id while no row holds an id the store has yet to create. -/
theorem next_id_fresh (s : MemoryStore) :
    (∀ n ≤ s.created, createdRowId (s.created + 1) ≠ createdRowId n) ∧
      (s.CreatesFresh → ∀ w, ∀ r ∈ s.rows w, r.rowId ≠ createdRowId (s.created + 1)) := by
  refine ⟨fun n hn heq => ?_, fun hfresh w r hr heq => ?_⟩
  · have := createdRowId_injective heq
    omega
  · have := hfresh w r hr _ heq
    omega

/-- A state whose every row holds an id of a row before it or an id the store has created keeps no
row of an id the store has yet to create. -/
theorem CreatesFresh.of_ids {s s' : MemoryStore} (h : s.CreatesFresh)
    (hcreated : s.created ≤ s'.created)
    (hids : ∀ w, ∀ r ∈ s'.rows w, (∃ r₀ ∈ s.rows w, r₀.rowId = r.rowId) ∨
      ∃ n ≤ s'.created, r.rowId = createdRowId n) :
    s'.CreatesFresh := by
  intro w r hr n hn
  rcases hids w r hr with ⟨r₀, hr₀, hid⟩ | ⟨m, hm, hid⟩
  · have := h w r₀ hr₀ n (hid.trans hn)
    omega
  · have := createdRowId_injective (hid.symm.trans hn)
    omega

theorem exists_rowId_of_mem_modify {rows : List Row} {i : Nat} {g : Row → Row}
    (hg : ∀ r, (g r).rowId = r.rowId) {r : Row} (hr : r ∈ rows.modify i g) :
    ∃ r₀ ∈ rows, r₀.rowId = r.rowId := by
  have hids : (rows.modify i g).map (·.rowId) = rows.map (·.rowId) := by
    refine List.ext_getElem (by simp) fun j hj₁ hj₂ => ?_
    simp only [List.getElem_map, List.getElem_modify]
    split
    · exact hg _
    · rfl
  have hmem : r.rowId ∈ rows.map (·.rowId) := hids ▸ List.mem_map_of_mem hr
  simpa using hmem

/-- Every call keeps the store from holding an id it has yet to create: a creation adds the id it
just created, an update keeps the ids, a deletion drops rows, and the other calls and every failed
call leave the rows. -/
theorem CreatesFresh.createRow {s : MemoryStore} (h : s.CreatesFresh) (w : Worksheet)
    (fields : Fields) : ((createRow w fields).run s).2.CreatesFresh := by
  rcases createRow_spec w fields s with ⟨e, -, hsame⟩ | ⟨-, hcreated, hrows⟩
  · exact h.of_ids hsame.created.ge fun w r hr => .inl ⟨r, hsame.rows ▸ hr, rfl⟩
  · refine h.of_ids (by omega) fun w' r hr => ?_
    rw [hrows] at hr
    simp only [insertRow, setRows] at hr
    split at hr
    · rename_i hw
      subst hw
      rcases List.mem_append.mp hr with hold | hnew
      · exact .inl ⟨r, hold, rfl⟩
      · rw [List.mem_singleton] at hnew
        exact .inr ⟨s.created + 1, by omega, by rw [hnew]⟩
    · exact .inl ⟨r, hr, rfl⟩

theorem CreatesFresh.updateRow {s : MemoryStore} (h : s.CreatesFresh) (w : Worksheet)
    (rowId : String) (fields : Fields) : ((updateRow w rowId fields).run s).2.CreatesFresh := by
  rcases updateRow_spec w rowId fields s with ⟨e, -, hsame⟩ | ⟨i, -, -, hcreated, hrows⟩
  · exact h.of_ids hsame.created.ge fun w r hr => .inl ⟨r, hsame.rows ▸ hr, rfl⟩
  · refine h.of_ids hcreated.ge fun w' r hr => .inl ?_
    rw [hrows] at hr
    simp only [setRows] at hr
    split at hr
    · rename_i hw
      subst hw
      exact exists_rowId_of_mem_modify (g := fun r => { r with fields := r.fields.merge fields })
        (fun _ => rfl) hr
    · exact ⟨r, hr, rfl⟩

theorem CreatesFresh.deleteRow {s : MemoryStore} (h : s.CreatesFresh) (w : Worksheet)
    (rowId : String) : ((deleteRow w rowId).run s).2.CreatesFresh := by
  rcases deleteRow_spec w rowId s with ⟨e, -, hsame⟩ | ⟨-, hcreated, hrows⟩
  · exact h.of_ids hsame.created.ge fun w r hr => .inl ⟨r, hsame.rows ▸ hr, rfl⟩
  · refine h.of_ids hcreated.ge fun w' r hr => .inl ?_
    rw [hrows] at hr
    simp only [setRows] at hr
    split at hr
    · rename_i hw
      subst hw
      exact ⟨r, List.mem_of_mem_filter hr, rfl⟩
    · exact ⟨r, hr, rfl⟩

/-- The rows a page answer holds; none for a failure. -/
def answeredRows : Except StoreError RowPage → List Row
  | .ok page => page.rows
  | .error _ => []

/-- Asked of one state with no filter failure pending, the pages `1 .. ⌈total / size⌉` of a
filter together give back every matching row once, in order. -/
theorem filterRows_pages (s : MemoryStore) (w : Worksheet) (f : Filter) {size : Nat}
    (hsize : 0 < size) (hclear : s.pending .filter = []) :
    ((List.range (((Sheets.matching s.rows w f).length + size - 1) / size)).flatMap fun i =>
      answeredRows ((filterRows w f ⟨size, i + 1⟩).run s).1) = Sheets.matching s.rows w f := by
  have hpage : ∀ i, answeredRows ((filterRows w f ⟨size, i + 1⟩).run s).1 =
      Sheets.page (Sheets.matching s.rows w f) ⟨size, i + 1⟩ := by
    intro i
    rw [((filterRows_answers s w f ⟨size, i + 1⟩).served hclear).1]
    rfl
  simp only [hpage]
  exact Sheets.flatMap_pages_all _ hsize

end Calls

end MemoryStore

open MemoryStore in
/-- The in-memory record store refines the abstract map from worksheets to rows. Every call is
logged first; a failure pending for it answers it, leaves the queue and leaves the rows. With none
pending, a creation appends a row under a fresh id; a lookup, a filter, a schema read and finding
one row leave the rows and answer the first row of the id, the page of the matching rows with
their count, the schema and the first matching row; an update merges the fields into the first row
of the id and a deletion drops every row of it, each refused with provider error 10007, the rows
unchanged, when no row has the id. The pages `1 .. ⌈total / size⌉` of a filter, asked of one state
with no failure pending, give back every matching row once, in order. -/
theorem memory_store_refines_sheets (s : MemoryStore) (w : Worksheet) :
    (∀ fields, Answers s ⟨.create, w, none, some fields⟩
      (fun a t => ∃ rowId, a = .ok rowId ∧
        t = Sheets.put s.rows w (s.rows w ++ [Sheets.newRow w rowId fields]) ∧
        (∀ n ≤ s.created, rowId ≠ createdRowId n) ∧
        (s.CreatesFresh → ∀ w', ∀ r ∈ s.rows w', r.rowId ≠ rowId))
      ((createRow w fields).run s)) ∧
    (∀ rowId, Answers s ⟨.get, w, some rowId, none⟩
      (fun a t => a = .ok ((s.rows w).find? (·.rowId == rowId)) ∧ t = s.rows)
      ((getRow w rowId).run s)) ∧
    (∀ f p, Answers s ⟨.filter, w, none, none⟩
      (fun a t => a = .ok ⟨Sheets.page (Sheets.matching s.rows w f) p,
        (Sheets.matching s.rows w f).length⟩ ∧ t = s.rows)
      ((filterRows w f p).run s)) ∧
    (∀ f size, 0 < size → s.pending .filter = [] →
      ((List.range (((Sheets.matching s.rows w f).length + size - 1) / size)).flatMap fun i =>
        answeredRows ((filterRows w f ⟨size, i + 1⟩).run s).1) = Sheets.matching s.rows w f) ∧
    (∀ rowId fields, Answers s ⟨.update, w, some rowId, some fields⟩
      (fun a t => (∀ t', Sheets.update s.rows w rowId fields = some t' → a = .ok () ∧ t = t') ∧
        (Sheets.update s.rows w rowId fields = none →
          a = .error (.provider 10007 ("row " ++ rowId ++ " not found")) ∧ t = s.rows))
      ((updateRow w rowId fields).run s)) ∧
    (∀ rowId, Answers s ⟨.delete, w, some rowId, none⟩
      (fun a t => (∀ t', Sheets.delete s.rows w rowId = some t' → a = .ok () ∧ t = t') ∧
        (Sheets.delete s.rows w rowId = none →
          a = .error (.provider 10007 ("row " ++ rowId ++ " not found")) ∧ t = s.rows))
      ((deleteRow w rowId).run s)) ∧
    Answers s ⟨.schema, w, none, none⟩ (fun a t => a = .ok (s.schemas w) ∧ t = s.rows)
      ((worksheetSchema w).run s) ∧
    (∀ f, Answers s ⟨.filter, w, none, none⟩
      (fun a t => a = .ok ((s.rows w).find? fun r => f.matches r.fields) ∧ t = s.rows)
      ((findOne w f).run s)) := by
  refine ⟨fun fields => ?_, getRow_answers s w, filterRows_answers s w,
    fun f _ hsize hclear => filterRows_pages s w f hsize hclear, updateRow_answers s w,
    deleteRow_answers s w, worksheetSchema_answers s w, findOne_answers s w⟩
  obtain ⟨hlog, hfail, hserve⟩ := createRow_answers s w fields
  obtain ⟨hbefore, hrows⟩ := next_id_fresh s
  refine ⟨hlog, hfail, fun hclear => ?_⟩
  obtain ⟨ha, ht⟩ := hserve hclear
  exact ⟨_, ha, ht, hbefore, hrows⟩

end RosterSync.Record

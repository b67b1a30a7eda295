import Mathlib.Data.List.Nodup
import Mathlib.Data.List.Pairwise
import Mathlib.Data.String.Basic
import RosterSync.Proofs.Frame

/-!
What the in-memory record store does to rows, as the upserts use it.

Fields: setting a key makes it read the new value and leaves every other key as it was, whether
or not the fields are sorted; setting keys keeps sorted fields sorted; merging updates with
distinct keys makes each of their keys read its update and keeps the others, and keeps the text
of a field when every update of that field writes the same text.

Row ids: the store names the rows it creates `createdRowId 1`, `createdRowId 2`, ..., and no two
of these names are equal.

Calls: every call logs itself and may take a queued failure, and neither touches the rows nor the
count of created rows. A lookup answers the first row whose field has the text; a creation
appends a row under the next created id; an update merges into the first row of the id; a
deletion drops every row of the id. A failed call changes no row.

`SheetSound` is what the upserts keep of a worksheet: distinct row ids, none of them an id the
store creates later, and no two rows holding the same nonempty external id.
-/

namespace RosterSync.Record

open RosterSync.Json

namespace Fields

theorem get?_insert_self (fs : Fields) (k : String) (v : Value) :
    (fs.insert k v).get? k = some v := by
  induction fs with
  | nil => simp [Fields.insert, Value.insertSorted, Fields.get?]
  | cons kv rest ih =>
    obtain ⟨k', v'⟩ := kv
    simp only [Fields.insert, Fields.get?] at ih ⊢
    by_cases hk : k = k'
    · simp [Value.insertSorted, hk]
    · by_cases hlt : k < k'
      · simp [Value.insertSorted, hk, hlt]
      · have hskip : (k' == k) = false := by simpa using Ne.symm hk
        simp only [Value.insertSorted, hk, hlt, if_false, List.find?_cons, hskip]
        exact ih

theorem get?_insert_ne (fs : Fields) {k k' : String} (v : Value) (h : k' ≠ k) :
    (fs.insert k v).get? k' = fs.get? k' := by
  induction fs with
  | nil => simp [Fields.insert, Value.insertSorted, Fields.get?, Ne.symm h]
  | cons kv rest ih =>
    obtain ⟨k'', v''⟩ := kv
    simp only [Fields.insert, Fields.get?] at ih ⊢
    have hne : (k == k') = false := by simpa using Ne.symm h
    by_cases hk : k = k''
    · subst hk
      simp [Value.insertSorted, hne]
    · by_cases hlt : k < k''
      · simp [Value.insertSorted, hk, hlt, hne]
      · simp only [Value.insertSorted, hk, hlt, if_false, List.find?_cons]
        split
        · rfl
        · exact ih

theorem mem_insert {fs : Fields} {k : String} {v : Value} {kv : String × Value}
    (h : kv ∈ fs.insert k v) : kv = (k, v) ∨ kv ∈ fs := by
  induction fs with
  | nil => simpa [Fields.insert, Value.insertSorted] using h
  | cons kv' rest ih =>
    obtain ⟨k', v'⟩ := kv'
    simp only [Fields.insert, Value.insertSorted] at h ih
    split at h
    · rcases List.mem_cons.mp h with rfl | hrest
      · exact .inl rfl
      · exact .inr (List.mem_cons_of_mem _ hrest)
    · split at h
      · rcases List.mem_cons.mp h with rfl | hrest
        · exact .inl rfl
        · exact .inr hrest
      · rcases List.mem_cons.mp h with rfl | hrest
        · exact .inr List.mem_cons_self
        · exact (ih hrest).imp_right (List.mem_cons_of_mem _)

theorem get?_eq_none {fs : Fields} {k : String} (h : ∀ kv ∈ fs, kv.1 ≠ k) : fs.get? k = none := by
  simp only [Fields.get?, Option.map_eq_none_iff, List.find?_eq_none, beq_iff_eq]
  exact h

theorem get?_insert_fresh {fs : Fields} {k : String} (h : ∀ kv ∈ fs, kv.1 ≠ k) (v : Value)
    (key : String) : (fs.insert k v).get? key = (fs.get? key).or (Fields.get? [(k, v)] key) := by
  by_cases hk : key = k
  · subst hk
    rw [get?_insert_self, get?_eq_none h]
    simp [Fields.get?]
  · rw [get?_insert_ne _ _ hk]
    simp [Fields.get?, Ne.symm hk]

/-- Keys in strictly increasing order, as the store keeps them. -/
def Sorted (fs : Fields) : Prop := (fs.map (·.1)).Pairwise (· < ·)

theorem Sorted.nodup {fs : Fields} (h : fs.Sorted) : (fs.map (·.1)).Nodup :=
  List.Pairwise.nodup h

theorem Sorted.insert {fs : Fields} (h : fs.Sorted) (k : String) (v : Value) :
    (fs.insert k v).Sorted := by
  induction fs with
  | nil => simp [Sorted, Fields.insert, Value.insertSorted]
  | cons kv rest ih =>
    obtain ⟨k', v'⟩ := kv
    obtain ⟨hhead, hrest⟩ := List.pairwise_cons.mp h
    simp only [List.mem_map] at hhead
    simp only [Sorted, Fields.insert, Value.insertSorted] at ih ⊢
    split
    · rename_i heq
      subst heq
      exact h
    · split
      · -- the new key goes first, below `k'` and so below every later key
        rename_i hlt
        refine List.pairwise_cons.mpr ⟨?_, h⟩
        simp only [List.map_cons, List.mem_cons, List.mem_map]
        rintro x (rfl | ⟨kv, hkv, rfl⟩)
        · exact hlt
        · exact lt_trans hlt (hhead _ ⟨kv, hkv, rfl⟩)
      · rename_i hne hnlt
        have hgt : k' < k := (lt_or_gt_of_ne hne).resolve_left hnlt
        refine List.pairwise_cons.mpr ⟨?_, ih hrest⟩
        simp only [List.mem_map]
        rintro x ⟨kv, hkv, rfl⟩
        rcases mem_insert hkv with rfl | hold
        · exact hgt
        · exact hhead _ ⟨kv, hold, rfl⟩

/-- Merging updates with distinct keys: each key of the updates reads its update, every other
key what it read before. -/
theorem get?_merge (fs : Fields) {us : Fields} (hus : (us.map (·.1)).Nodup) (key : String) :
    (fs.merge us).get? key = (us.get? key).or (fs.get? key) := by
  induction us generalizing fs with
  | nil => rfl
  | cons kv us ih =>
    obtain ⟨hfresh, hnodup⟩ := List.nodup_cons.mp hus
    show ((fs.insert kv.1 kv.2).merge us).get? key = _
    rw [ih _ hnodup]
    by_cases hk : key = kv.1
    · -- a key set once: no later update touches it
      subst hk
      have hnone : Fields.get? us kv.1 = none :=
        get?_eq_none fun kv' hkv' heq => hfresh (List.mem_map.mpr ⟨kv', hkv', heq⟩)
      rw [hnone, get?_insert_self]
      simp [Fields.get?]
    · rw [get?_insert_ne _ _ hk]
      simp [Fields.get?, Ne.symm hk]

end Fields

theorem fieldText_insert_self (fs : Fields) (k : String) (v : Value) :
    fieldText (fs.insert k v) k = (valueText? v).getD "" := by
  simp [fieldText, Fields.get?_insert_self]

theorem fieldText_insert_ne (fs : Fields) {k name : String} (v : Value) (h : name ≠ k) :
    fieldText (fs.insert k v) name = fieldText fs name := by
  simp only [fieldText, Fields.get?_insert_ne fs v h]

theorem fieldText_merge {fs us : Fields} {name : String}
    (h : ∀ kv ∈ us, kv.1 = name → (valueText? kv.2).getD "" = fieldText fs name) :
    fieldText (fs.merge us) name = fieldText fs name := by
  induction us generalizing fs with
  | nil => rfl
  | cons kv us ih =>
    have hhead : fieldText (fs.insert kv.1 kv.2) name = fieldText fs name := by
      by_cases hk : kv.1 = name
      · rw [← hk, fieldText_insert_self, hk]
        exact h kv List.mem_cons_self hk
      · exact fieldText_insert_ne fs kv.2 (Ne.symm hk)
    show fieldText ((fs.insert kv.1 kv.2).merge us) name = _
    rw [ih fun kv' hkv' hk' => (h kv' (List.mem_cons_of_mem _ hkv') hk').trans hhead.symm, hhead]

section CreatedIds

private def hexDigitValue (c : Char) : Nat :=
  if c.toNat ≤ '9'.toNat then c.toNat - '0'.toNat else c.toNat - 'a'.toNat + 10

/-- The value of hexadecimal digits, the most significant first. -/
private def hexValue (cs : List Char) : Nat := cs.foldl (fun n c => 16 * n + hexDigitValue c) 0

private theorem hexDigitValue_digitChar : ∀ d < 16, hexDigitValue (Nat.digitChar d) = d := by
  decide

private theorem hexValue_toDigits (n : Nat) : hexValue (Nat.toDigits 16 n) = n := by
  induction n using Nat.strongRecOn with
  | _ n ih =>
    rw [Nat.toDigits_eq_if (by decide)]
    split
    · simp [hexValue, hexDigitValue_digitChar n ‹_›]
    · have hhigh := ih (n / 16) (by omega)
      have hlow := hexDigitValue_digitChar (n % 16) (Nat.mod_lt _ (by decide))
      simp only [hexValue, List.foldl_append, List.foldl_cons, List.foldl_nil] at hhigh ⊢
      rw [hhigh, hlow]
      omega

private theorem hexValue_zeros (k : Nat) (cs : List Char) :
    hexValue (List.replicate k '0' ++ cs) = hexValue cs := by
  have hzero : hexDigitValue '0' = 0 := by decide
  have hzeros : (List.replicate k '0').foldl (fun n c => 16 * n + hexDigitValue c) 0 = 0 := by
    induction k with
    | zero => rfl
    | succ k ih => simpa [List.replicate_succ, hzero] using ih
  simp only [hexValue, List.foldl_append, hzeros]

theorem createdRowId_injective : Function.Injective createdRowId := by
  intro n m h
  have hlist := congrArg String.toList h
  simp only [createdRowId, String.toList_append, String.toList_ofList] at hlist
  have hdigits := congrArg hexValue (List.append_cancel_left hlist)
  rwa [hexValue_zeros, hexValue_zeros, hexValue_toDigits, hexValue_toDigits] at hdigits

end CreatedIds

namespace MemoryStore

/-- Two states of the store with the same rows and the same count of created rows. -/
structure SameRows (s s' : MemoryStore) : Prop where
  rows : s'.rows = s.rows
  created : s'.created = s.created

@[simp] theorem setRows_rows (s : MemoryStore) (w w' : Worksheet) (rows : List Row) :
    (s.setRows w rows).rows w' = if w' = w then rows else s.rows w' := rfl

theorem SameRows.refl (s : MemoryStore) : SameRows s s := ⟨rfl, rfl⟩

theorem SameRows.trans {s₁ s₂ s₃ : MemoryStore} (h₁ : SameRows s₁ s₂) (h₂ : SameRows s₂ s₃) :
    SameRows s₁ s₃ :=
  ⟨h₂.rows.trans h₁.rows, h₂.created.trans h₁.created⟩

theorem SameRows.setRows {s s₁ : MemoryStore} (h : SameRows s s₁) (w : Worksheet)
    (rows : List Row) : (s₁.setRows w rows).rows = (s.setRows w rows).rows := by
  simp only [MemoryStore.setRows, h.rows]

theorem failNext_sameRows (s : MemoryStore) (op : Operation) (e : StoreError) (n : Nat) :
    SameRows s (s.failNext op e n) := ⟨rfl, rfl⟩

theorem enter_sameRows (op : Operation) (w : Worksheet) (rowId : Option String)
    (fields : Option Fields) (s : MemoryStore) :
    SameRows s ((enter op w rowId fields).run s).2 := by
  simp only [enter, StateT.run_bind, StateT.run_get, pure_bind]
  split
  · exact ⟨rfl, rfl⟩
  · exact ⟨rfl, rfl⟩

theorem run_bind_eq {σ α β : Type} {x : StateM σ α} {f : α → StateM σ β} {s s₁ : σ} {a : α}
    (h : x.run s = (a, s₁)) : (x >>= f).run s = (f a).run s₁ := by
  rw [StateT.run_bind, h]
  rfl

theorem run_get_bind {σ β : Type} (f : σ → StateM σ β) (s : σ) :
    (get >>= f).run s = (f s).run s := rfl

theorem filterRows_spec (w : Worksheet) (f : Filter) (page : Page) (s : MemoryStore) :
    (∃ e s', (filterRows w f page).run s = (.error e, s') ∧ SameRows s s') ∨
    (∃ s', (filterRows w f page).run s =
      (.ok { rows := (((s.rows w).filter fun r => f.matches r.fields).drop
               ((page.index - 1) * page.size)).take page.size,
             total := ((s.rows w).filter fun r => f.matches r.fields).length }, s') ∧
      SameRows s s') := by
  have hsame := enter_sameRows .filter w none none s
  rcases hp : (enter .filter w none none).run s with ⟨_ | e, s₁⟩ <;> rw [hp] at hsame <;>
    dsimp only at hsame <;> unfold filterRows <;> rw [run_bind_eq hp]
  · dsimp only
    rw [run_get_bind, ← hsame.rows]
    exact .inr ⟨s₁, rfl, hsame⟩
  · exact .inl ⟨e, s₁, rfl, hsame⟩

theorem findOne_spec (w : Worksheet) (f : Filter) (s : MemoryStore) :
    SameRows s ((findOne w f).run s).2 ∧
      ∀ x, ((findOne w f).run s).1 = .ok x → x = (s.rows w).find? fun r => f.matches r.fields := by
  unfold findOne
  rcases filterRows_spec w f Page.first s with ⟨e, s', hrun, hsame⟩ | ⟨s', hrun, hsame⟩ <;>
    rw [run_bind_eq hrun]
  · exact ⟨hsame, fun x hx => nomatch hx⟩
  · refine ⟨hsame, fun x hx => ?_⟩
    cases hx
    simp [Page.first, Page.clamped, List.head?_take, List.head?_filter]

theorem createRow_spec (w : Worksheet) (fields : Fields) (s : MemoryStore) :
    (∃ e, ((createRow w fields).run s).1 = .error e ∧ SameRows s ((createRow w fields).run s).2) ∨
    (((createRow w fields).run s).1 = .ok (createdRowId (s.created + 1)) ∧
      ((createRow w fields).run s).2.created = s.created + 1 ∧
      ((createRow w fields).run s).2.rows =
        (s.insertRow w (createdRowId (s.created + 1)) fields).rows) := by
  have hsame := enter_sameRows .create w none (some fields) s
  rcases hp : (enter .create w none (some fields)).run s with ⟨_ | e, s₁⟩ <;> rw [hp] at hsame <;>
    dsimp only at hsame
  · unfold createRow
    rw [run_bind_eq hp]
    dsimp only
    rw [run_get_bind, ← hsame.created]
    refine .inr ⟨rfl, rfl, ?_⟩
    show ({ s₁ with created := s₁.created + 1 }.insertRow w _ fields).rows = _
    simp only [insertRow, setRows, hsame.rows]
  · unfold createRow
    rw [run_bind_eq hp]
    exact .inl ⟨e, rfl, hsame⟩

theorem updateRow_spec (w : Worksheet) (rowId : String) (fields : Fields) (s : MemoryStore) :
    (∃ e, ((updateRow w rowId fields).run s).1 = .error e ∧
      SameRows s ((updateRow w rowId fields).run s).2) ∨
    (∃ i, (s.rows w).findIdx? (·.rowId == rowId) = some i ∧
      ((updateRow w rowId fields).run s).1 = .ok () ∧
      ((updateRow w rowId fields).run s).2.created = s.created ∧
      ((updateRow w rowId fields).run s).2.rows =
        (s.setRows w ((s.rows w).modify i fun r => { r with fields := r.fields.merge fields })).rows) := by
  have hsame := enter_sameRows .update w (some rowId) (some fields) s
  rcases hp : (enter .update w (some rowId) (some fields)).run s with ⟨_ | e, s₁⟩ <;>
    rw [hp] at hsame <;> dsimp only at hsame
  · unfold updateRow
    rw [run_bind_eq hp]
    dsimp only
    rw [run_get_bind, ← hsame.rows]
    split
    · exact .inl ⟨_, rfl, hsame⟩
    · rename_i i hi
      exact .inr ⟨i, hi, rfl, hsame.created, hsame.setRows w _⟩
  · unfold updateRow
    rw [run_bind_eq hp]
    exact .inl ⟨e, rfl, hsame⟩

theorem deleteRow_spec (w : Worksheet) (rowId : String) (s : MemoryStore) :
    (∃ e, ((deleteRow w rowId).run s).1 = .error e ∧ SameRows s ((deleteRow w rowId).run s).2) ∨
    (((deleteRow w rowId).run s).1 = .ok () ∧
      ((deleteRow w rowId).run s).2.created = s.created ∧
      ((deleteRow w rowId).run s).2.rows = (s.setRows w ((s.rows w).filter (·.rowId != rowId))).rows) := by
  have hsame := enter_sameRows .delete w (some rowId) none s
  rcases hp : (enter .delete w (some rowId) none).run s with ⟨_ | e, s₁⟩ <;> rw [hp] at hsame <;>
    dsimp only at hsame
  · unfold deleteRow
    rw [run_bind_eq hp]
    dsimp only
    rw [run_get_bind, ← hsame.rows]
    split
    · exact .inl ⟨_, rfl, hsame⟩
    · exact .inr ⟨rfl, hsame.created, hsame.setRows w _⟩
  · unfold deleteRow
    rw [run_bind_eq hp]
    exact .inl ⟨e, rfl, hsame⟩

/-- A store with no failure queued: every call goes through. -/
structure Quiet (s : MemoryStore) : Prop where
  failures : ∀ op, s.failures op = []

theorem enter_quiet {s : MemoryStore} (h : Quiet s) (op : Operation) (w : Worksheet)
    (rowId : Option String) (fields : Option Fields) :
    (enter op w rowId fields).run s =
      (none, { s with calls := s.calls ++ [⟨op, w, rowId, fields⟩] }) := by
  simp only [enter, StateT.run_bind, StateT.run_get, pure_bind, h.failures op]
  rfl

theorem findOne_quiet {s : MemoryStore} (h : Quiet s) (w : Worksheet) (f : Filter) :
    (∃ x, ((findOne w f).run s).1 = .ok x) ∧ Quiet ((findOne w f).run s).2 := by
  simp only [findOne, filterRows, bind_assoc]
  rw [run_bind_eq (enter_quiet h .filter w none none)]
  exact ⟨⟨_, rfl⟩, ⟨h.failures⟩⟩

theorem createRow_quiet {s : MemoryStore} (h : Quiet s) (w : Worksheet) (fields : Fields) :
    (∃ x, ((createRow w fields).run s).1 = .ok x) ∧ Quiet ((createRow w fields).run s).2 := by
  unfold createRow
  rw [run_bind_eq (enter_quiet h .create w none (some fields))]
  exact ⟨⟨_, rfl⟩, ⟨h.failures⟩⟩

theorem updateRow_quiet {s : MemoryStore} (h : Quiet s) (w : Worksheet) {rowId : String}
    (hrow : ∃ r ∈ s.rows w, r.rowId = rowId) (fields : Fields) :
    ((updateRow w rowId fields).run s).1 = .ok () ∧ Quiet ((updateRow w rowId fields).run s).2 := by
  obtain ⟨r, hr, hid⟩ := hrow
  have hfound : ((s.rows w).findIdx? (·.rowId == rowId)).isSome := by
    rw [List.findIdx?_isSome]
    exact List.any_eq_true.mpr ⟨r, hr, by simp [hid]⟩
  obtain ⟨i, hi⟩ := Option.isSome_iff_exists.mp hfound
  unfold updateRow
  rw [run_bind_eq (enter_quiet h .update w (some rowId) (some fields))]
  simp only [run_get_bind]
  rw [hi]
  exact ⟨rfl, ⟨h.failures⟩⟩

end MemoryStore

section Keys

variable (field : String)

/-- Two rows clash on a field when both hold the same nonempty text in it. -/
def Clash (r r' : Row) : Prop :=
  fieldText r.fields field ≠ "" ∧ fieldText r.fields field = fieldText r'.fields field

instance : DecidableRel (Clash field) := fun _ _ => inferInstanceAs (Decidable (_ ∧ _))

/-- No two rows of a list clash on a field. -/
def Keyed (rows : List Row) : Prop := rows.Pairwise fun r r' => ¬ Clash field r r'

instance (rows : List Row) : Decidable (Keyed field rows) :=
  inferInstanceAs (Decidable (List.Pairwise _ _))

/-- How many rows hold a text in a field. -/
def carrying (rows : List Row) (text : String) : Nat :=
  rows.countP fun r => fieldText r.fields field == text

end Keys

section KeyLemmas

variable {field : String} {rows rows' : List Row}

instance : Std.Symm fun r r' => ¬ Clash field r r' :=
  ⟨fun _ _ h hc => h ⟨hc.2 ▸ hc.1, hc.2.symm⟩⟩

theorem keyed_iff_texts : Keyed field rows ↔
    (rows.map fun r => fieldText r.fields field).Pairwise fun t t' => ¬ (t ≠ "" ∧ t = t') := by
  rw [List.pairwise_map]
  rfl

theorem Keyed.of_texts (h : Keyed field rows)
    (htexts : (rows'.map fun r => fieldText r.fields field) =
      rows.map fun r => fieldText r.fields field) : Keyed field rows' := by
  rw [keyed_iff_texts, htexts]
  exact keyed_iff_texts.mp h

theorem Keyed.sublist (h : Keyed field rows) (hsub : rows'.Sublist rows) : Keyed field rows' :=
  List.Pairwise.sublist hsub h

theorem Keyed.append (h : Keyed field rows) {new : Row}
    (hnone : ∀ r ∈ rows, fieldText r.fields field ≠ fieldText new.fields field) :
    Keyed field (rows ++ [new]) := by
  refine List.pairwise_append.mpr ⟨h, List.pairwise_singleton _ _, fun r hr r' hr' hclash => ?_⟩
  rw [List.mem_singleton] at hr'
  exact hnone r hr (hr' ▸ hclash.2)

theorem Keyed.eq_of_clash (h : Keyed field rows) {r r' : Row} (hr : r ∈ rows) (hr' : r' ∈ rows)
    (hclash : Clash field r r') : r = r' :=
  Classical.byContradiction fun hne => List.Pairwise.forall h hr hr' hne hclash

theorem Keyed.carrying_le_one (h : Keyed field rows) {text : String} (htext : text ≠ "") :
    carrying field rows text ≤ 1 := by
  induction rows with
  | nil => simp [carrying]
  | cons r rest ih =>
    obtain ⟨hhead, hrest⟩ := List.pairwise_cons.mp h
    by_cases hr : fieldText r.fields field = text
    · -- the head holds the text, so no later row does
      have hnone : carrying field rest text = 0 := by
        refine List.countP_eq_zero.mpr fun r' hr' heq => hhead r' hr' ⟨hr ▸ htext, ?_⟩
        rw [hr]
        exact (beq_iff_eq.mp heq).symm
      simp [carrying, hr] at hnone ⊢
      omega
    · have := ih hrest
      simpa [carrying, List.countP_cons, hr] using this

theorem Keyed.carrying_eq_one (h : Keyed field rows) {r : Row} (hr : r ∈ rows)
    (htext : fieldText r.fields field ≠ "") : carrying field rows (fieldText r.fields field) = 1 := by
  have hpos : 0 < carrying field rows (fieldText r.fields field) :=
    List.countP_pos_iff.mpr ⟨r, hr, beq_self_eq_true _⟩
  have := h.carrying_le_one htext
  omega

end KeyLemmas

section Sound

open RosterSync.Mapping

/-- The row ids of the worksheet of a mapping are distinct, and none is an id the store creates
later. -/
structure IdsSound (s : MemoryStore) (m : WorksheetMapping) : Prop where
  nodup : ((s.rows m.worksheet).map (·.rowId)).Nodup
  fresh : ∀ r ∈ s.rows m.worksheet, ∀ n, r.rowId = createdRowId n → n ≤ s.created

/-- What the upserts keep of the worksheet of a mapping: its row ids are distinct, none of them is
an id the store creates later, and no two rows hold the same nonempty external id. -/
structure SheetSound (s : MemoryStore) (m : WorksheetMapping) : Prop where
  ids_nodup : ((s.rows m.worksheet).map (·.rowId)).Nodup
  ids_fresh : ∀ r ∈ s.rows m.worksheet, ∀ n, r.rowId = createdRowId n → n ≤ s.created
  keyed : Keyed m.externalIdField (s.rows m.worksheet)

variable {s s' : MemoryStore} {m : WorksheetMapping}

theorem SheetSound.ids (h : SheetSound s m) : IdsSound s m := ⟨h.ids_nodup, h.ids_fresh⟩

/-- What a row shows of itself to the invariant: its id and its external id. -/
def keyView (m : WorksheetMapping) (r : Row) : String × String :=
  (r.rowId, fieldText r.fields m.externalIdField)

theorem texts_of_keyView {rows rows' : List Row}
    (h : rows'.map (keyView m) = rows.map (keyView m)) :
    (rows'.map fun r => fieldText r.fields m.externalIdField) =
      rows.map fun r => fieldText r.fields m.externalIdField := by
  have htexts := congrArg (List.map Prod.snd) h
  simp only [List.map_map] at htexts
  exact htexts

theorem IdsSound.of_view (h : IdsSound s m)
    (hview : (s'.rows m.worksheet).map (keyView m) = (s.rows m.worksheet).map (keyView m))
    (hcreated : s.created ≤ s'.created) : IdsSound s' m where
  nodup := by
    have hids := congrArg (List.map Prod.fst) hview
    simp only [List.map_map] at hids
    exact hids ▸ h.nodup
  fresh := by
    intro r hr n hn
    have hmem : keyView m r ∈ (s.rows m.worksheet).map (keyView m) :=
      hview ▸ List.mem_map_of_mem hr
    obtain ⟨r₀, hr₀, hsame⟩ := List.mem_map.mp hmem
    have hid : r₀.rowId = r.rowId := congrArg Prod.fst hsame
    exact Nat.le_trans (h.fresh r₀ hr₀ n (hid.trans hn)) hcreated

theorem IdsSound.of_rows (h : IdsSound s m)
    (hrows : s'.rows m.worksheet = s.rows m.worksheet) (hcreated : s.created ≤ s'.created) :
    IdsSound s' m :=
  h.of_view (by rw [hrows]) hcreated

theorem rows_of_insert {fields : Fields}
    (hrows : s'.rows = (s.insertRow m.worksheet (createdRowId (s.created + 1)) fields).rows) :
    s'.rows m.worksheet = s.rows m.worksheet ++
      [{ rowId := createdRowId (s.created + 1), worksheet := m.worksheet,
         fields := fields.insert "rowid" (.str (createdRowId (s.created + 1))) }] := by
  simp [hrows, MemoryStore.insertRow]

theorem IdsSound.create (h : IdsSound s m) {fields : Fields}
    (hrows : s'.rows = (s.insertRow m.worksheet (createdRowId (s.created + 1)) fields).rows)
    (hcreated : s'.created = s.created + 1) : IdsSound s' m := by
  have hsheet := rows_of_insert hrows
  have hfresh : ∀ r ∈ s.rows m.worksheet, r.rowId ≠ createdRowId (s.created + 1) :=
    fun r hr hid => by have := h.fresh r hr _ hid; omega
  refine ⟨?_, ?_⟩
  · rw [hsheet, List.map_append, List.nodup_append]
    refine ⟨h.nodup, by simp, ?_⟩
    intro a ha b hb hab
    obtain ⟨r, hr, rfl⟩ := List.mem_map.mp ha
    rw [List.map_singleton, List.mem_singleton] at hb
    exact hfresh r hr (hab.trans hb)
  · intro r hr n hn
    rw [hsheet, List.mem_append, List.mem_singleton] at hr
    rcases hr with hold | rfl
    · have := h.fresh r hold n hn
      omega
    · have hnew := createdRowId_injective hn
      omega

theorem SheetSound.of_view (h : SheetSound s m)
    (hview : (s'.rows m.worksheet).map (keyView m) = (s.rows m.worksheet).map (keyView m))
    (hcreated : s.created ≤ s'.created) : SheetSound s' m :=
  have hids := h.ids.of_view hview hcreated
  ⟨hids.nodup, hids.fresh, h.keyed.of_texts (texts_of_keyView hview)⟩

theorem SheetSound.of_rows (h : SheetSound s m)
    (hrows : s'.rows m.worksheet = s.rows m.worksheet) (hcreated : s.created ≤ s'.created) :
    SheetSound s' m :=
  h.of_view (by rw [hrows]) hcreated

theorem SheetSound.of_sublist (h : SheetSound s m)
    (hsub : (s'.rows m.worksheet).Sublist (s.rows m.worksheet)) (hcreated : s.created ≤ s'.created) :
    SheetSound s' m where
  ids_nodup := h.ids_nodup.sublist (hsub.map _)
  ids_fresh := fun r hr n hn => Nat.le_trans (h.ids_fresh r (hsub.subset hr) n hn) hcreated
  keyed := h.keyed.sublist hsub

/-- Creating a row whose external id no row holds keeps the invariant: the new id is fresh, and
the new row holds the external id of the fields written. -/
theorem SheetSound.create (h : SheetSound s m) {fields : Fields}
    (hnone : ∀ r ∈ s.rows m.worksheet,
      fieldText r.fields m.externalIdField ≠ fieldText fields m.externalIdField)
    (hext : m.externalIdField ≠ "rowid")
    (hrows : s'.rows = (s.insertRow m.worksheet (createdRowId (s.created + 1)) fields).rows)
    (hcreated : s'.created = s.created + 1) : SheetSound s' m := by
  have hids := h.ids.create hrows hcreated
  refine ⟨hids.nodup, hids.fresh, ?_⟩
  rw [rows_of_insert hrows]
  refine h.keyed.append fun r hr => ?_
  rw [fieldText_insert_ne _ _ hext]
  exact hnone r hr

theorem getElem_findIdx?_rowId {rows : List Row} (hnodup : (rows.map (·.rowId)).Nodup) {i : Nat}
    {r : Row} (hi : rows.findIdx? (·.rowId == r.rowId) = some i) (hr : r ∈ rows) :
    ∃ hlt : i < rows.length, rows[i] = r := by
  obtain ⟨hlt, hid, -⟩ := List.findIdx?_eq_some_iff_getElem.mp hi
  obtain ⟨j, hj, rfl⟩ := List.getElem_of_mem hr
  have hij : i = j := by
    have hi' : i < (rows.map (·.rowId)).length := by simpa using hlt
    have hj' : j < (rows.map (·.rowId)).length := by simpa using hj
    have hsame : (rows.map (·.rowId))[i] = (rows.map (·.rowId))[j] := by
      simpa using hid
    exact (List.Nodup.getElem_inj_iff hnodup).mp hsame
  subst hij
  exact ⟨hlt, rfl⟩

/-- Merging into the row of an id, with updates that write the external id the row holds, shows
the invariant the same rows. -/
theorem keyView_modify {rows : List Row} (hnodup : (rows.map (·.rowId)).Nodup) {i : Nat} {r : Row}
    (hi : rows.findIdx? (·.rowId == r.rowId) = some i) (hr : r ∈ rows) {us : Fields}
    (hkeep : ∀ kv ∈ us, kv.1 = m.externalIdField →
      (valueText? kv.2).getD "" = fieldText r.fields m.externalIdField) :
    (rows.modify i fun r' => { r' with fields := r'.fields.merge us }).map (keyView m) =
      rows.map (keyView m) := by
  obtain ⟨hlt, hrow⟩ := getElem_findIdx?_rowId hnodup hi hr
  refine List.ext_getElem (by simp) fun j hj₁ hj₂ => ?_
  simp only [List.getElem_map, List.getElem_modify]
  split
  · rename_i hij
    subst hij
    rw [hrow]
    simp only [keyView]
    rw [fieldText_merge hkeep]
  · rfl

theorem SheetSound.update (h : SheetSound s m) {i : Nat} {r : Row} {us : Fields}
    (hi : (s.rows m.worksheet).findIdx? (·.rowId == r.rowId) = some i)
    (hr : r ∈ s.rows m.worksheet)
    (hkeep : ∀ kv ∈ us, kv.1 = m.externalIdField →
      (valueText? kv.2).getD "" = fieldText r.fields m.externalIdField)
    (hrows : s'.rows m.worksheet =
      (s.rows m.worksheet).modify i fun r' => { r' with fields := r'.fields.merge us })
    (hcreated : s'.created = s.created) : SheetSound s' m :=
  h.of_view (by rw [hrows, keyView_modify h.ids_nodup hi hr hkeep]) (Nat.le_of_eq hcreated.symm)

theorem carrying_of_texts {field : String} {rows rows' : List Row} {text : String}
    (htexts : (rows'.map fun r => fieldText r.fields field) =
      rows.map fun r => fieldText r.fields field) :
    carrying field rows' text = carrying field rows text := by
  have hcount := congrArg (List.countP (· == text)) htexts
  simpa only [List.countP_map, carrying, Function.comp_def] using hcount

theorem carrying_append_new {field : String} {rows : List Row} {new : Row}
    (hnone : ∀ r ∈ rows, fieldText r.fields field ≠ fieldText new.fields field) :
    carrying field (rows ++ [new]) (fieldText new.fields field) = 1 := by
  have hzero : carrying field rows (fieldText new.fields field) = 0 :=
    List.countP_eq_zero.mpr fun r hr heq => hnone r hr (beq_iff_eq.mp heq)
  simp only [carrying] at hzero ⊢
  simp [List.countP_append, hzero]

theorem Keyed.carrying_filter_rowId {field : String} {rows : List Row} (h : Keyed field rows)
    {r : Row} (hr : r ∈ rows) (htext : fieldText r.fields field ≠ "") :
    carrying field (rows.filter (·.rowId != r.rowId)) (fieldText r.fields field) = 0 := by
  refine List.countP_eq_zero.mpr fun r' hr' heq => ?_
  obtain ⟨hold, hother⟩ := List.mem_filter.mp hr'
  have hsame : r = r' := h.eq_of_clash hr hold ⟨htext, (beq_iff_eq.mp heq).symm⟩
  subst hsame
  simp at hother

end Sound

end RosterSync.Record

namespace RosterSync.Sync

open RosterSync.Record

theorem foldl_failNext_eq (fs : List ScheduledFailure) (s : MemoryStore) :
    ∃ q, fs.foldl (fun s f => s.failNext f.op f.error f.times) s = { s with failures := q } := by
  induction fs generalizing s with
  | nil => exact ⟨s.failures, rfl⟩
  | cons f fs ih => exact ih (s.failNext f.op f.error f.times)

theorem queueDue_eq (waiting : List ScheduledFailure) (op? : Option Operation) (s : MemoryStore) :
    ∃ q, queueDue waiting op? s = { s with failures := q } := by
  cases op? with
  | none => exact ⟨s.failures, rfl⟩
  | some op => exact foldl_failNext_eq _ s

namespace Backends

variable {α : Type}

theorem storeBefore_eq (act : StateM MemoryStore α) (b : Backends) :
    ∃ q, b.storeBefore act = { b.store with failures := q } :=
  queueDue_eq _ _ _

theorem storeBefore_sameRows (act : StateM MemoryStore α) (b : Backends) :
    MemoryStore.SameRows b.store (b.storeBefore act) := by
  obtain ⟨q, hq⟩ := storeBefore_eq act b
  rw [hq]
  exact ⟨rfl, rfl⟩

theorem calls_storeBefore (act : StateM MemoryStore α) (b : Backends) :
    (b.storeBefore act).calls = b.store.calls := by
  obtain ⟨q, hq⟩ := storeBefore_eq act b
  rw [hq]

theorem schemas_storeBefore (act : StateM MemoryStore α) (b : Backends) :
    (b.storeBefore act).schemas = b.store.schemas := by
  obtain ⟨q, hq⟩ := storeBefore_eq act b
  rw [hq]

theorem storeBefore_of_waiting_nil {b : Backends} (h : b.waiting = [])
    (act : StateM MemoryStore α) : b.storeBefore act = b.store := by
  unfold storeBefore queueDue
  rw [h]
  cases firstOp act b.store <;> rfl

theorem inStore_run (act : StateM MemoryStore α) (b : Backends) :
    (inStore act).run b =
      ((act.run (b.storeBefore act)).1, { b with store := (act.run (b.storeBefore act)).2 }) :=
  rfl

end Backends

end RosterSync.Sync

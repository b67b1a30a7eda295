import Mathlib.Order.Defs.Unbundled
import RosterSync.Sync.Scheduler

/-!
What a computation over the backends may move.

A frame is a preorder on backend states. A computation is stable under a frame when every run of
it ends in a state the frame relates to the one it started from. Stability passes through `pure`
and `bind`, through the failure handling of `SyncRun`, and through the retry loop, so a property of
a whole upsert or of a sync of many entities is read off the calls it makes.

The frame of this module is `Backends.Unmoved`: the directory's entities, the cursor and lock store
and the wall clock stay as they were, and the monotonic clock does not go back. Record-store calls
keep it, directory reads keep it (they only take the pending failure), and sleeping keeps it (it
only moves the monotonic clock forward). Hence every
upsert, with or without retries, and every sync of a list of entities keeps it: writing rows never
changes what the directory holds, where a cursor stands, or what time a pass reads.
-/

namespace RosterSync.Sync

open RosterSync.Record RosterSync.Directory RosterSync.Storage RosterSync.Mapping

/-- A computation ends, from every state, in a state that `R` relates to the one it began in. -/
def Stable (R : Backends → Backends → Prop) {α : Type} (x : Run α) : Prop :=
  ∀ b, R b (x.run b).2

section Stable

variable {R : Backends → Backends → Prop} {α β : Type}

theorem Stable.pure [Std.Refl R] (a : α) : Stable R (pure a) := fun b => Std.Refl.refl b

theorem Stable.bind [IsTrans Backends R] {x : Run α} {f : α → Run β} (hx : Stable R x)
    (hf : ∀ a, Stable R (f a)) : Stable R (x >>= f) := fun b =>
  trans_of R (hx b) (hf (x.run b).1 (x.run b).2)

theorem Stable.exceptBind [Std.Refl R] [IsTrans Backends R] {x : SyncRun α} {f : α → SyncRun β}
    (hx : Stable R x.run) (hf : ∀ a, Stable R (f a).run) : Stable R (x >>= f).run := by
  rw [ExceptT.run_bind]
  refine Stable.bind hx fun r => ?_
  cases r with
  | error e => exact Stable.pure _
  | ok a => exact hf a

theorem Stable.retryFrom [Std.Refl R] [IsTrans Backends R] {ε : Type} (p : RetryPolicy)
    (retryable : ε → Bool) {sleep : Nat → Run Unit} {op : Run (Except ε α)}
    (hsleep : ∀ ms, Stable R (sleep ms)) (hop : Stable R op) (attempt left : Nat) :
    Stable R (retryFrom p retryable sleep op attempt left) := by
  induction left generalizing attempt with
  | zero =>
    rw [RosterSync.retryFrom]
    refine Stable.bind hop fun r => ?_
    cases r with
    | ok v => exact Stable.pure _
    | error e =>
      dsimp only
      split <;> exact Stable.pure _
  | succ left ih =>
    rw [RosterSync.retryFrom]
    refine Stable.bind hop fun r => ?_
    cases r with
    | ok v => exact Stable.pure _
    | error e =>
      dsimp only
      split
      · exact Stable.pure _
      · exact Stable.bind (hsleep _) fun _ => ih (attempt + 1)

end Stable

/-- Two backend states agree on everything a pass reads but the record store and the monotonic
clock: the directory's entities, the cursor and lock store, and the wall clock; and the monotonic
clock has not gone back. -/
structure Backends.Unmoved (b b' : Backends) : Prop where
  entities : b'.directory.entities = b.directory.entities
  kv : b'.kv = b.kv
  now : b'.now = b.now
  clock : b.clock ≤ b'.clock

instance : Std.Refl Backends.Unmoved := ⟨fun _ => ⟨rfl, rfl, rfl, Nat.le_refl _⟩⟩

instance : IsTrans Backends Backends.Unmoved :=
  ⟨fun _ _ _ h₁ h₂ => ⟨h₂.entities.trans h₁.entities, h₂.kv.trans h₁.kv, h₂.now.trans h₁.now,
    Nat.le_trans h₁.clock h₂.clock⟩⟩

theorem MemoryDirectory.get?_entities (tenant : String) (kind : Kind) (externalId : String)
    (d : MemoryDirectory) : ((MemoryDirectory.get? tenant kind externalId).run d).2.entities =
      d.entities := by
  rcases d with ⟨entities, _ | failure⟩ <;> rfl

theorem MemoryDirectory.listChangedSince_entities (tenant : String) (kind : Kind) (since : Int)
    (d : MemoryDirectory) :
    ((MemoryDirectory.listChangedSince tenant kind since).run d).2.entities = d.entities := by
  rcases d with ⟨entities, _ | failure⟩ <;> rfl

section Unmoved

variable {α : Type}

theorem inStore_unmoved (act : StateM MemoryStore α) :
    Stable Backends.Unmoved (Backends.inStore act) :=
  fun _ => ⟨rfl, rfl, rfl, Nat.le_refl _⟩

theorem storeCall_unmoved (act : StateM MemoryStore (Except StoreError α)) :
    Stable Backends.Unmoved (storeCall act).run :=
  Stable.bind (inStore_unmoved act) fun _ => Stable.pure _

theorem directoryCall_unmoved {act : StateM MemoryDirectory (Except DirectoryError α)}
    (hact : ∀ d, ((act.run d).2).entities = d.entities) :
    Stable Backends.Unmoved (directoryCall act).run :=
  Stable.bind (fun b => ⟨hact b.directory, rfl, rfl, Nat.le_refl _⟩) fun _ => Stable.pure _

theorem sleep_unmoved (ms : Nat) : Stable Backends.Unmoved (Backends.sleep ms) :=
  fun _ => ⟨rfl, rfl, rfl, Nat.le_add_right _ _⟩

theorem lookup_unmoved (m : WorksheetMapping) (externalId : String) :
    Stable Backends.Unmoved (lookup m externalId).run :=
  storeCall_unmoved _

theorem writeRow_unmoved (m : WorksheetMapping) (existing : Option Row) (fields : Fields) :
    Stable Backends.Unmoved (writeRow m existing fields).run := by
  cases existing with
  | some row => exact Stable.exceptBind (storeCall_unmoved _) fun _ => Stable.pure _
  | none => exact Stable.exceptBind (storeCall_unmoved _) fun _ => Stable.pure _

theorem upsertDepartment_unmoved (e : Entity) (a : Action) :
    Stable Backends.Unmoved (upsertDepartment e a).run := by
  cases a with
  | create | update =>
    exact Stable.exceptBind (fun _ => Std.Refl.refl _) fun _ =>
      Stable.exceptBind (lookup_unmoved _ _) fun _ => writeRow_unmoved _ _ _
  | delete =>
    refine Stable.exceptBind ?_ fun row? => ?_
    · simp only [lookupForDelete]
      split
      · exact Stable.pure _
      · exact lookup_unmoved _ _
    · cases row? with
      | none => exact Stable.pure _
      | some row => exact Stable.exceptBind (storeCall_unmoved _) fun _ => Stable.pure _

theorem resolveOne_unmoved (tenant externalId : String) :
    Stable Backends.Unmoved (resolveOne tenant externalId) := by
  refine Stable.bind (lookup_unmoved _ _) fun found => ?_
  rcases found with _ | _ | _
  · exact Stable.pure _
  · refine Stable.bind (directoryCall_unmoved (MemoryDirectory.get?_entities _ _ _)) fun read => ?_
    rcases read with _ | _ | department
    · exact Stable.pure _
    · exact Stable.pure _
    · refine Stable.bind (upsertDepartment_unmoved _ _) fun created => ?_
      rcases created with _ | _
      · exact Stable.pure _
      · refine Stable.bind (lookup_unmoved _ _) fun again => ?_
        rcases again with _ | _ | _ <;> exact Stable.pure _
  · exact Stable.pure _

theorem resolve_unmoved (tenant : String) (ids : List String) :
    Stable Backends.Unmoved (resolve tenant ids) := by
  induction ids with
  | nil => exact Stable.pure _
  | cons id ids ih =>
    simp only [Sync.resolve, List.filterMapM_cons]
    refine Stable.bind (resolveOne_unmoved _ _) fun row? => ?_
    cases row? with
    | none => exact ih
    | some row => exact Stable.bind ih fun _ => Stable.pure _

theorem upsertStaff_unmoved (e : Entity) (a : Action) :
    Stable Backends.Unmoved (upsertStaff e a).run := by
  cases a with
  | create | update =>
    refine Stable.exceptBind (fun _ => Std.Refl.refl _) fun _ =>
      Stable.exceptBind (lookup_unmoved _ _) fun _ => ?_
    exact Stable.exceptBind (Stable.bind (resolve_unmoved _ _) fun _ => Stable.pure _) fun _ =>
      writeRow_unmoved _ _ _
  | delete =>
    refine Stable.exceptBind ?_ fun row? => ?_
    · simp only [lookupForDelete]
      split
      · exact Stable.pure _
      · exact lookup_unmoved _ _
    · cases row? with
      | none => exact Stable.pure _
      | some row => exact Stable.exceptBind (storeCall_unmoved _) fun _ => Stable.pure _

theorem upsert_unmoved (e : Entity) (a : Action) : Stable Backends.Unmoved (upsert e a).run := by
  cases h : e.kind with
  | department => simpa only [Sync.upsert, h] using upsertDepartment_unmoved e a
  | staff => simpa only [Sync.upsert, h] using upsertStaff_unmoved e a

/-- Writing an entity under the retry policy moves neither the directory, the cursors and locks,
nor the wall clock. -/
theorem upsertWithRetry_unmoved (policy : RetryPolicy) (e : Entity) (a : Action) :
    Stable Backends.Unmoved (upsertWithRetry policy e a) :=
  Stable.bind (Stable.retryFrom _ _ sleep_unmoved (upsert_unmoved e a) _ _) fun r => by
    cases r <;> exact Stable.pure _

/-- A sync of a list of entities moves neither the directory, the cursors and locks, nor the wall
clock, whatever its throttle state. -/
theorem syncEntities_unmoved (cfg : SyncConfig) (entities : List Entity) (first : Bool) :
    Stable Backends.Unmoved (syncEntities cfg entities first) := by
  simp only [Sync.syncEntities]
  generalize (({} : KindReport), first) = acc
  induction entities generalizing acc with
  | nil => exact Stable.pure _
  | cons e rest ih =>
    rw [List.foldlM_cons]
    refine Stable.bind ?_ fun acc' => ih acc'
    split
    · refine Stable.bind (sleep_unmoved _) fun _ => ?_
      exact Stable.bind (upsertWithRetry_unmoved _ _ _) fun r => by cases r <;> exact Stable.pure _
    · exact Stable.bind (upsertWithRetry_unmoved _ _ _) fun r => by cases r <;> exact Stable.pure _

end Unmoved

/-- From every state that satisfies `P`, `x` returns a value and ends in a state that together
satisfy `Q`. -/
def Triple (P : Backends → Prop) {α : Type} (x : Run α) (Q : α → Backends → Prop) : Prop :=
  ∀ b, P b → Q (x.run b).1 (x.run b).2

section Triple

variable {P P' : Backends → Prop} {α β : Type}

theorem Triple.pure {a : α} {Q : α → Backends → Prop} (h : ∀ b, P b → Q a b) :
    Triple P (pure a) Q := h

theorem Triple.bind {x : Run α} {f : α → Run β} {R : α → Backends → Prop}
    {Q : β → Backends → Prop} (hx : Triple P x R) (hf : ∀ a, Triple (R a) (f a) Q) :
    Triple P (x >>= f) Q :=
  fun b hb => hf _ _ (hx b hb)

theorem Triple.mono {x : Run α} {Q Q' : α → Backends → Prop} (h : Triple P x Q)
    (hP : ∀ b, P' b → P b) (hQ : ∀ a b, Q a b → Q' a b) : Triple P' x Q' :=
  fun b hb => hQ _ _ (h b (hP b hb))

theorem Triple.of_fact {x : Run α} {Q : α → Backends → Prop} {F : Prop}
    (h : F → Triple P x Q) : Triple (fun b => P b ∧ F) x Q :=
  fun b ⟨hb, hf⟩ => h hf b hb

theorem Triple.of_fact_and {x : Run α} {Q : α → Backends → Prop} {F : Prop}
    {G : Backends → Prop} (h : F → Triple (fun b => P b ∧ G b) x Q) :
    Triple (fun b => P b ∧ F ∧ G b) x Q :=
  fun b ⟨hb, hf, hg⟩ => h hf b ⟨hb, hg⟩

theorem Triple.exceptBind {x : SyncRun α} {f : α → SyncRun β}
    {R : Except SyncError α → Backends → Prop} {Q : Except SyncError β → Backends → Prop}
    (hx : Triple P x.run R) (hok : ∀ a, Triple (R (.ok a)) (f a).run Q)
    (herr : ∀ e b, R (.error e) b → Q (.error e) b) : Triple P (x >>= f).run Q := by
  rw [ExceptT.run_bind]
  refine Triple.bind hx fun r => ?_
  cases r with
  | error e => exact Triple.pure (herr e)
  | ok a => exact hok a

/-- The retry loop keeps what each attempt keeps, when a failed attempt leaves a state the next
may start from and sleeping keeps the precondition. -/
theorem Triple.retryFrom {ε : Type} (p : RetryPolicy) (retryable : ε → Bool)
    {sleep : Nat → Run Unit} {op : Run (Except ε α)} {Q : Except ε α → Backends → Prop}
    (hop : Triple P op Q) (hagain : ∀ e b, Q (.error e) b → P b)
    (hsleep : ∀ ms, Triple P (sleep ms) fun _ => P) (attempt left : Nat) :
    Triple P (retryFrom p retryable sleep op attempt left) Q := by
  induction left generalizing attempt with
  | zero =>
    rw [RosterSync.retryFrom]
    refine Triple.bind hop fun r => ?_
    cases r with
    | ok v => exact Triple.pure fun _ hb => hb
    | error e =>
      dsimp only
      split <;> exact Triple.pure fun _ hb => hb
  | succ left ih =>
    rw [RosterSync.retryFrom]
    refine Triple.bind hop fun r => ?_
    cases r with
    | ok v => exact Triple.pure fun _ hb => hb
    | error e =>
      dsimp only
      split
      · exact Triple.pure fun _ hb => hb
      · exact Triple.bind ((hsleep _).mono (hagain e) fun _ _ hb => hb) fun _ => ih (attempt + 1)

end Triple

end RosterSync.Sync

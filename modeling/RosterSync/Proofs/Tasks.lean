import RosterSync.Proofs.UpsertRows

/-!
Upserts as tasks that others interleave with.

The dispatcher runs each webhook upsert as a background task, scheduled passes run beside them,
and a staff upsert repairs department links between its lookup and its write. Each waits at
every call to the record store or the directory, and other tasks run in between. A `Task` is a
program cut at those calls: `Task.call` gives its next call and `Task.runAlone` runs it with no
other task in between.

The upserts as tasks are `departmentTask`, `staffTask` and `upsertTask`, the retry loop is
`retryTask`, a webhook's task is `dispatchTask` and a pass's writes are `syncTask`. Run alone,
each does what the sequential code does (`dispatchTask_runAlone`, `syncTask_runAlone`).

`Good` says what every write of such a task rests on: its own earlier lookup of the external id it
writes, whose answer picks the row to update or says that none exists. Every task above is good.
-/

namespace RosterSync.Sync

open RosterSync.Json RosterSync.Record RosterSync.Directory RosterSync.Mapping

/-- A background task cut at its calls to the backends: between two calls, other tasks run. -/
inductive Task where
  | done
  /-- Looks up the row of an external id in the worksheet of a kind. -/
  | find (k : Kind) (id : String) (next : Except SyncError (Option Row) → Task)
  /-- Updates the row a lookup found, or creates one, in the worksheet of a kind. -/
  | put (k : Kind) (existing : Option Row) (fields : Fields)
      (next : Except SyncError Outcome → Task)
  /-- Reads a department from the directory. -/
  | readDepartment (tenant id : String) (next : Except SyncError (Option Entity) → Task)
  | sleep (ms : Nat) (next : Task)

namespace Task

/-- The next call of a task, as a computation on the backends that gives the rest of the task;
none once the task has finished. -/
def call : Task → Option (Run Task)
  | done => none
  | find k id next => some (next <$> (lookup (mappingFor k) id).run)
  | put k existing fields next => some (next <$> (writeRow (mappingFor k) existing fields).run)
  | readDepartment tenant id next =>
    some (next <$> (directoryCall (MemoryDirectory.get? tenant .department id)).run)
  | sleep ms next => some ((fun _ => next) <$> Backends.sleep ms)

/-- A task run to its end with no other task in between. -/
def runAlone : Task → Run Unit
  | done => pure ()
  | find k id next => (lookup (mappingFor k) id).run >>= fun r => (next r).runAlone
  | put k existing fields next =>
    (writeRow (mappingFor k) existing fields).run >>= fun r => (next r).runAlone
  | readDepartment tenant id next =>
    (directoryCall (MemoryDirectory.get? tenant .department id)).run >>= fun r =>
      (next r).runAlone
  | sleep ms next => Backends.sleep ms >>= fun _ => next.runAlone

end Task

/-- A department's create or update as a task that goes on with `next` once written. -/
def departmentTask (e : Entity) (next : Except SyncError Outcome → Task) : Task :=
  match prepareFields departmentMapping e with
  | .error err => next (.error err)
  | .ok fields => .find .department e.externalId fun
    | .error err => next (.error err)
    | .ok existing => .put .department existing fields next

/-- The repair of one department link as a task that goes on with the row found or created. -/
def resolveOneTask (tenant id : String) (next : Option String → Task) : Task :=
  .find .department id fun
    | .ok (some row) => next (some row.rowId)
    | .error _ => next none
    | .ok none => .readDepartment tenant id fun
      | .ok (some department) => departmentTask department fun
        | .error _ => next none
        | .ok _ => .find .department id fun
          | .ok (some row) => next (some row.rowId)
          | _ => next none
      | _ => next none

/-- The repair of department links, in order, as a task that goes on with the rows resolved. -/
def resolveTask (tenant : String) : List String → (List String → Task) → Task
  | [], next => next []
  | id :: ids, next => resolveOneTask tenant id fun
    | none => resolveTask tenant ids next
    | some row => resolveTask tenant ids fun rows => next (row :: rows)

/-- A staff member's create or update as a task: the department links are repaired between the
lookup and the write. -/
def staffTask (e : Entity) (next : Except SyncError Outcome → Task) : Task :=
  match prepareFields staffMapping e with
  | .error err => next (.error err)
  | .ok fields => .find .staff e.externalId fun
    | .error err => next (.error err)
    | .ok existing => resolveTask e.tenantId e.departmentIds fun rows =>
      .put .staff existing
        (if rows.isEmpty then fields else fields.insert departmentsField (relationValue rows)) next

/-- The create or update of any entity as a task. -/
def upsertTask (e : Entity) : (Except SyncError Outcome → Task) → Task :=
  match e.kind with
  | .department => departmentTask e
  | .staff => staffTask e

/-- The retry loop around a task body, as a task. -/
def retryTask (p : RetryPolicy) (body : (Except SyncError Outcome → Task) → Task)
    (next : Except SyncError Outcome → Task) : Nat → Nat → Task
  | attempt, left => body fun
    | .ok v => next (.ok v)
    | .error e =>
      if !e.isRetryable then next (.error e)
      else match left with
        | 0 => next (.error e)
        | left' + 1 =>
          .sleep (p.delayBefore (attempt + 1)) (retryTask p body next (attempt + 1) left')

/-- A webhook event's upsert as the dispatcher spawns it: a create or update under the retry
policy, whose end is only logged. -/
def dispatchTask (p : RetryPolicy) (e : Entity) : Task :=
  retryTask p (upsertTask e) (fun _ => .done) 1 (p.attemptBudget - 1)

/-- A sync of listed entities as a task: each entity's update under the retry policy, one after
another, with the throttle's wait before each but the first of the run. -/
def syncTask (cfg : SyncConfig) (next : Task) : List Entity → Bool → Task
  | [], _ => next
  | e :: rest, first =>
    let write := retryTask cfg.retry (upsertTask e) (fun _ => syncTask cfg next rest false) 1
      (cfg.retry.attemptBudget - 1)
    match first with
    | true => write
    | false => .sleep cfg.scheduler.throttleMs write

section Alone

theorem departmentTask_runAlone (e : Entity) (next : Except SyncError Outcome → Task) :
    (departmentTask e next).runAlone =
      (upsertDepartment e .create).run >>= fun r => (next r).runAlone := by
  unfold departmentTask
  cases hprep : prepareFields departmentMapping e with
  | error err =>
    simp [upsertDepartment, upsertDepartment.liftExcept, hprep, ExceptT.run_bind]
  | ok fields =>
    simp [Task.runAlone, upsertDepartment, upsertDepartment.liftExcept, hprep, ExceptT.run_bind]
    congr 1
    funext r
    cases r with
    | error err => simp
    | ok existing => rfl

theorem resolveOneTask_runAlone (tenant id : String) (next : Option String → Task) :
    (resolveOneTask tenant id next).runAlone =
      resolveOne tenant id >>= fun r => (next r).runAlone := by
  simp only [resolveOneTask, resolveOne, Task.runAlone, bind_assoc]
  congr 1
  funext found
  rcases found with _ | _ | row
  · simp
  · simp only [Task.runAlone, bind_assoc]
    congr 1
    funext read
    rcases read with _ | _ | department
    · simp
    · simp
    · simp only [departmentTask_runAlone, bind_assoc]
      congr 1
      funext created
      rcases created with _ | _
      · simp
      · simp only [Task.runAlone, bind_assoc]
        congr 1
        funext again
        rcases again with _ | _ | _ <;> simp
  · simp

theorem resolveTask_runAlone (tenant : String) (ids : List String)
    (next : List String → Task) :
    (resolveTask tenant ids next).runAlone = resolve tenant ids >>= fun rows => (next rows).runAlone := by
  induction ids generalizing next with
  | nil => simp [resolveTask, resolve]
  | cons id ids ih =>
    simp only [resolveTask, resolve, List.filterMapM_cons, resolveOneTask_runAlone, bind_assoc]
    congr 1
    funext row?
    cases row? with
    | none => exact ih next
    | some row => simp [ih, resolve]

theorem staffTask_runAlone (e : Entity) (next : Except SyncError Outcome → Task) :
    (staffTask e next).runAlone = (upsertStaff e .create).run >>= fun r => (next r).runAlone := by
  unfold staffTask
  cases hprep : prepareFields staffMapping e with
  | error err => simp [upsertStaff, hprep, ExceptT.run_bind]
  | ok fields =>
    simp [Task.runAlone, upsertStaff, hprep, ExceptT.run_bind]
    congr 1
    funext r
    cases r with
    | error err => simp
    | ok existing =>
      simp only [resolveTask_runAlone]
      rfl

theorem upsertTask_runAlone (e : Entity) (next : Except SyncError Outcome → Task) :
    (upsertTask e next).runAlone = (upsert e .create).run >>= fun r => (next r).runAlone := by
  cases hkind : e.kind with
  | department => simp only [upsertTask, upsert, hkind, departmentTask_runAlone]
  | staff => simp only [upsertTask, upsert, hkind, staffTask_runAlone]

theorem retryTask_runAlone (p : RetryPolicy) {body : (Except SyncError Outcome → Task) → Task}
    {op : Run (Except SyncError Outcome)}
    (hbody : ∀ next, (body next).runAlone = op >>= fun r => (next r).runAlone)
    (next : Except SyncError Outcome → Task) (attempt left : Nat) :
    (retryTask p body next attempt left).runAlone =
      retryFrom p SyncError.isRetryable Backends.sleep op attempt left >>= fun r =>
        (next r).runAlone := by
  induction left generalizing attempt with
  | zero =>
    rw [retryTask, hbody, retryFrom, bind_assoc]
    congr 1
    funext r
    rcases r with e | v
    · by_cases hretry : e.isRetryable <;> simp [hretry]
    · simp
  | succ left ih =>
    rw [retryTask, hbody, retryFrom, bind_assoc]
    congr 1
    funext r
    rcases r with e | v
    · by_cases hretry : e.isRetryable
      · simp [hretry, Task.runAlone, ih]
      · simp [hretry]
    · simp

theorem upsert_of_ne_delete (e : Entity) {a : Action} (ha : a ≠ .delete) :
    upsert e a = upsert e .create := by
  cases a with
  | create => rfl
  | update => unfold upsert; split <;> rfl
  | delete => exact absurd rfl ha

theorem retriedUpsert_runAlone (p : RetryPolicy) (e : Entity) {a : Action} (ha : a ≠ .delete)
    (next : Task) :
    (retryTask p (upsertTask e) (fun _ => next) 1 (p.attemptBudget - 1)).runAlone =
      upsertWithRetry p e a >>= fun _ => next.runAlone := by
  rw [retryTask_runAlone p (upsertTask_runAlone e), upsertWithRetry, upsert_of_ne_delete e ha]
  simp only [retry, bind_assoc]
  congr 1
  funext r
  cases r <;> simp

theorem dispatchTask_runAlone (p : RetryPolicy) (e : Entity) {a : Action} (ha : a ≠ .delete) :
    (dispatchTask p e).runAlone = upsertWithRetry p e a >>= fun _ => pure () :=
  retriedUpsert_runAlone p e ha .done

theorem syncTask_runAlone (cfg : SyncConfig) (next : Task) (entities : List Entity)
    (first : Bool) :
    (syncTask cfg next entities first).runAlone =
      syncEntities cfg entities first >>= fun _ => next.runAlone := by
  simp only [Sync.syncEntities]
  generalize ({} : KindReport) = report
  induction entities generalizing report first with
  | nil => simp [syncTask]
  | cons e rest ih =>
    have hwrite := retriedUpsert_runAlone cfg.retry e (show Action.update ≠ .delete by decide)
      (syncTask cfg next rest false)
    rw [List.foldlM_cons]
    cases first with
    | true =>
      simp only [syncTask, hwrite, Bool.not_true, Bool.false_eq_true, if_false, bind_assoc]
      congr 1
      funext r
      cases r <;> simp only [pure_bind] <;> exact ih _ _
    | false =>
      simp only [syncTask, Task.runAlone, hwrite, Bool.not_false, if_true, bind_assoc]
      congr 1
      funext u
      congr 1
      funext r
      cases r <;> simp only [pure_bind] <;> exact ih _ _

end Alone

section Good

/-- What a task learnt from one of its lookups: the kind searched, the external id, and the row
found. -/
structure Fact where
  kind : Kind
  id : String
  found : Option Row

/-- Every write of a task follows its own lookup of the external id it writes: an update targets
the row that lookup found, a creation comes where it found none. `Γ` holds what the task's
earlier lookups answered. -/
inductive Good : List Fact → Task → Prop
  | done (Γ : List Fact) : Good Γ .done
  | find (Γ : List Fact) (k : Kind) (id : String) (next : Except SyncError (Option Row) → Task) :
      (∀ e, Good Γ (next (.error e))) →
      (∀ found, Good (⟨k, id, found⟩ :: Γ) (next (.ok found))) → Good Γ (.find k id next)
  | put (Γ : List Fact) (k : Kind) (existing : Option Row) (fields : Fields)
      (next : Except SyncError Outcome → Task) (id : String) :
      ⟨k, id, existing⟩ ∈ Γ → TitleHolds (mappingFor k) fields id → (∀ r, Good Γ (next r)) →
      Good Γ (.put k existing fields next)
  | readDepartment (Γ : List Fact) (tenant id : String)
      (next : Except SyncError (Option Entity) → Task) :
      (∀ r, Good Γ (next r)) → Good Γ (.readDepartment tenant id next)
  | sleep (Γ : List Fact) (ms : Nat) (next : Task) : Good Γ next → Good Γ (.sleep ms next)

theorem Good.weaken {Γ Γ' : List Fact} {t : Task} (h : Good Γ t) (hsub : Γ ⊆ Γ') :
    Good Γ' t := by
  induction h generalizing Γ' with
  | done => exact .done _
  | find Γ k id next _ _ iherr ihok =>
    exact .find _ _ _ _ (fun e => iherr e hsub) fun found =>
      ihok found (List.cons_subset_cons _ hsub)
  | put Γ k existing fields next id hfact htitle _ ih =>
    exact .put _ _ _ _ _ id (hsub hfact) htitle fun r => ih r hsub
  | readDepartment Γ tenant id next _ ih => exact .readDepartment _ _ _ _ fun r => ih r hsub
  | sleep Γ ms next _ ih => exact .sleep _ _ _ (ih hsub)

variable {Γ : List Fact}

theorem Good.cons {t : Task} (h : Good Γ t) (f : Fact) : Good (f :: Γ) t :=
  h.weaken fun _ hmem => List.mem_cons_of_mem _ hmem

end Good

end RosterSync.Sync

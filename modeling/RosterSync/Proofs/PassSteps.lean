import RosterSync.Proofs.ScheduledCalls

/-!
What a pass does, step by step.

Once a pass has listed a kind, it writes the listed entities one after another, each as an update
under the retry policy, and waits the throttle delay between two consecutive writes of the pass,
the last department and the first staff member included (`throttledWrites`). Running such steps
(`runSteps`) gives the answer of each write, and a kind's counts are the successes and failures
among its answers (`KindReport.ofAnswers`).

A pass over both kinds (`twoKindPass`) lists the departments, writes them, lists the staff and
writes them, and a listing failure ends it. The library's incremental pass and full sync are
exactly this, over the changes after the cursor and over all entities (`incrementalPass_run`,
`fullSyncAll_run`): departments are written before the staff are listed, each listed entity is
written once and in order, the throttle is waited once fewer than there are writes, and the counts
add up to the entities listed. With staff sync disabled neither lists or writes anything.
-/

namespace RosterSync.Sync

open RosterSync.Json RosterSync.Record RosterSync.Directory

/-- What a pass does once it has listed a kind: wait the throttle delay, or write one entity as an
update under the retry policy. -/
inductive PassStep where
  | throttle
  | write (e : Entity)

namespace PassStep

def isThrottle : PassStep → Bool
  | .throttle => true
  | .write _ => false

/-- The entity a step writes, if it writes one. -/
def written? : PassStep → Option Entity
  | .throttle => none
  | .write e => some e

end PassStep

/-- The steps that write entities in order, with the throttle before every write but the pass's
first; `first` says that no write of the pass came before. -/
def throttledWrites : Bool → List Entity → List PassStep
  | _, [] => []
  | first, e :: rest =>
    (if first then [] else [.throttle]) ++ .write e :: throttledWrites false rest

/-- Runs steps in order: the answer of each write. -/
def runSteps (cfg : SyncConfig) : List PassStep → Run (List (Option Outcome))
  | [] => pure []
  | .throttle :: rest => do
    Backends.sleep cfg.scheduler.throttleMs
    runSteps cfg rest
  | .write e :: rest => do
    let answer ← upsertWithRetry cfg.retry e .update
    let answers ← runSteps cfg rest
    pure (answer :: answers)

/-- The counts of the answers of a kind's writes: the successes and the failures. -/
def KindReport.ofAnswers (answers : List (Option Outcome)) : KindReport :=
  { succeeded := answers.countP (·.isSome), failed := answers.countP (·.isNone) }

/-- The counts of a pass from the answers of its department and staff writes. -/
def PassReport.ofAnswers (answers : List (Option Outcome) × List (Option Outcome)) : PassReport :=
  { departments := KindReport.ofAnswers answers.1, staff := KindReport.ofAnswers answers.2 }

/-- Lists one kind and writes what it listed: the answers, and whether the pass has still written
nothing. -/
def listAndWrite (cfg : SyncConfig) (list : Kind → SyncRun (List Entity)) (kind : Kind)
    (first : Bool) : SyncRun (List (Option Outcome) × Bool) := do
  let listed ← list kind
  let answers ← (runSteps cfg (throttledWrites first listed) : Run _)
  pure (answers, first && listed.isEmpty)

/-- A pass over both kinds: the departments are listed and written, then the staff; a listing
failure ends the pass. -/
def twoKindPass (cfg : SyncConfig) (list : Kind → SyncRun (List Entity)) :
    SyncRun (List (Option Outcome) × List (Option Outcome)) := do
  let departments ← listAndWrite cfg list .department true
  let staff ← listAndWrite cfg list .staff departments.2
  pure (departments.1, staff.1)

/-! ### The steps of a pass -/

section Steps

theorem throttledWrites_append (first : Bool) (xs ys : List Entity) :
    throttledWrites first (xs ++ ys) =
      throttledWrites first xs ++ throttledWrites (first && xs.isEmpty) ys := by
  induction xs generalizing first with
  | nil => simp [throttledWrites]
  | cons x xs ih => simp [throttledWrites, ih]

theorem throttledWrites_written (first : Bool) (es : List Entity) :
    (throttledWrites first es).filterMap PassStep.written? = es := by
  induction es generalizing first with
  | nil => rfl
  | cons e es ih =>
    cases first <;> simp [throttledWrites, PassStep.written?, List.filterMap_cons, ih]

theorem throttledWrites_throttles (first : Bool) (es : List Entity) :
    (throttledWrites first es).countP PassStep.isThrottle =
      if first then es.length - 1 else es.length := by
  induction es generalizing first with
  | nil => cases first <;> rfl
  | cons e es ih =>
    cases first <;> simp [throttledWrites, PassStep.isThrottle, List.countP_cons, ih]

theorem runSteps_length (cfg : SyncConfig) (steps : List PassStep) (b : Backends) :
    ((runSteps cfg steps).run b).1.length = (steps.filterMap PassStep.written?).length := by
  induction steps generalizing b with
  | nil => rfl
  | cons step steps ih =>
    cases step with
    | throttle => exact ih _
    | write e =>
      simp only [runSteps, StateT.run_bind, PassStep.written?]
      exact congrArg (· + 1) (ih _)

end Steps

/-! ### Counting the answers -/

section Counts

def KindReport.plus (r s : KindReport) : KindReport :=
  { succeeded := r.succeeded + s.succeeded, failed := r.failed + s.failed }

theorem KindReport.plus_assoc (r s t : KindReport) : (r.plus s).plus t = r.plus (s.plus t) := by
  simp only [KindReport.plus, Nat.add_assoc]

@[simp] theorem KindReport.empty_plus (r : KindReport) : ({} : KindReport).plus r = r := by
  simp [KindReport.plus]

@[simp] theorem KindReport.ofAnswers_nil : KindReport.ofAnswers [] = {} := rfl

theorem KindReport.ofAnswers_append (xs ys : List (Option Outcome)) :
    KindReport.ofAnswers (xs ++ ys) = (KindReport.ofAnswers xs).plus (KindReport.ofAnswers ys) := by
  simp [KindReport.ofAnswers, KindReport.plus, List.countP_append]

theorem KindReport.ofAnswers_total (answers : List (Option Outcome)) :
    (KindReport.ofAnswers answers).total = answers.length := by
  simp only [KindReport.total, KindReport.ofAnswers]
  induction answers with
  | nil => rfl
  | cons a answers ih => cases a <;> simp <;> omega

end Counts

/-! ### Syncing a list of entities -/

section Sync

theorem runSteps_throttle (cfg : SyncConfig) (steps : List PassStep) :
    runSteps cfg (.throttle :: steps) =
      Backends.sleep cfg.scheduler.throttleMs >>= fun _ => runSteps cfg steps := rfl

theorem map_runSteps_write {β : Type} (cfg : SyncConfig) (e : Entity) (steps : List PassStep)
    (g : List (Option Outcome) → β) :
    g <$> runSteps cfg (.write e :: steps) =
      upsertWithRetry cfg.retry e .update >>= fun answer =>
        (fun answers => g (answer :: answers)) <$> runSteps cfg steps := by
  simp only [runSteps, map_bind, bind_pure_comp, Functor.map_map]

/-- One step of a sync of entities: the throttle unless no write came before, the write, and its
answer counted. -/
def countWrite (cfg : SyncConfig) (acc : KindReport × Bool) (e : Entity) :
    Run (KindReport × Bool) := do
  if !acc.2 then Backends.sleep cfg.scheduler.throttleMs
  let answer ← upsertWithRetry cfg.retry e .update
  pure (acc.1.plus (KindReport.ofAnswers [answer]), false)

theorem syncEntities_eq_foldlM (cfg : SyncConfig) (entities : List Entity) (first : Bool) :
    syncEntities cfg entities first = entities.foldlM (countWrite cfg) ({}, first) := by
  unfold syncEntities
  congr 1
  funext acc e
  simp only [countWrite]
  split
  · refine bind_congr fun _ => bind_congr fun answer => ?_
    cases answer <;> rfl
  · refine bind_congr fun answer => ?_
    cases answer <;> rfl

theorem foldlM_countWrite (cfg : SyncConfig) (entities : List Entity) (r : KindReport)
    (first : Bool) :
    entities.foldlM (countWrite cfg) (r, first) =
      (fun answers => (r.plus (KindReport.ofAnswers answers), first && entities.isEmpty)) <$>
        runSteps cfg (throttledWrites first entities) := by
  induction entities generalizing r first with
  | nil => simp [throttledWrites, runSteps, KindReport.plus, KindReport.ofAnswers]
  | cons e rest ih =>
    rw [List.foldlM_cons]
    have hcount : ∀ answer, (fun answers => ((r.plus (KindReport.ofAnswers [answer])).plus
        (KindReport.ofAnswers answers), false && rest.isEmpty)) =
        fun answers =>
          (r.plus (KindReport.ofAnswers (answer :: answers)), first && (e :: rest).isEmpty) := by
      intro answer
      funext answers
      rw [KindReport.plus_assoc, ← KindReport.ofAnswers_append]
      simp
    cases first
    · simp only [countWrite, Bool.not_false, if_true, bind_assoc, pure_bind, ih, hcount,
        throttledWrites, Bool.false_eq_true, if_false, List.singleton_append, runSteps_throttle,
        map_bind, map_runSteps_write]
    · simp only [countWrite, Bool.not_true, Bool.false_eq_true, if_false, bind_assoc, pure_bind, ih,
        hcount, throttledWrites, if_true, List.nil_append, map_runSteps_write]

/-- Syncing entities runs their throttled writes and counts the answers; the pass has still
written nothing only when it had not and the list is empty. -/
theorem syncEntities_eq (cfg : SyncConfig) (entities : List Entity) (first : Bool) :
    syncEntities cfg entities first =
      (fun answers => (KindReport.ofAnswers answers, first && entities.isEmpty)) <$>
        runSteps cfg (throttledWrites first entities) := by
  rw [syncEntities_eq_foldlM, foldlM_countWrite]
  simp

end Sync

/-! ### The passes -/

section Passes

variable (cfg : SyncConfig)

/-- The listing of an incremental pass: the entities of a kind changed after the cursor. -/
def changedSince (cursor : Cursor) (kind : Kind) : SyncRun (List Entity) :=
  directoryCall (MemoryDirectory.listChangedSince cursor.tenantId kind cursor.lastSyncedAt)

/-- The listing of a full sync: all entities of a kind. -/
def listedAll (tenant : String) (kind : Kind) : SyncRun (List Entity) :=
  directoryCall (MemoryDirectory.list tenant kind)

theorem passKind_department (cursor : Cursor) :
    passKind cfg cursor .department ({}, true) =
      (fun p => ({ departments := KindReport.ofAnswers p.1 }, p.2)) <$>
        listAndWrite cfg (changedSince cursor) .department true := by
  simp only [passKind, listAndWrite, changedSince, map_bind]
  refine bind_congr fun changed => ?_
  split
  · -- nothing changed: no write, and the counts stay empty
    rename_i hempty
    simp [List.isEmpty_iff.mp hempty, throttledWrites, runSteps]
  · simp [syncEntities_eq]

theorem passKind_staff (cursor : Cursor) (report : PassReport) (first : Bool)
    (hstaff : report.staff = {}) :
    passKind cfg cursor .staff (report, first) =
      (fun p => ({ report with staff := KindReport.ofAnswers p.1 }, p.2)) <$>
        listAndWrite cfg (changedSince cursor) .staff first := by
  simp only [passKind, listAndWrite, changedSince, map_bind]
  refine bind_congr fun changed => ?_
  split
  · rename_i hempty
    simp [List.isEmpty_iff.mp hempty, throttledWrites, runSteps, ← hstaff]
  · simp [syncEntities_eq]

/-- An incremental pass reads the wall clock, and, with staff sync enabled, is the pass over both
kinds of the changes after the cursor, answering the cursor moved to that time. -/
theorem incrementalPass_eq (cursor : Cursor) :
    incrementalPass cfg cursor = (do
      let passStart ← (Backends.wallClock : Run Int)
      if cfg.staffSyncEnabled then
        (fun answers => (cursor.advancedTo passStart, PassReport.ofAnswers answers)) <$>
          twoKindPass cfg (changedSince cursor)
      else pure (cursor, {})) := by
  simp only [incrementalPass]
  refine bind_congr fun passStart => ?_
  cases cfg.staffSyncEnabled
  · rfl
  · simp [passKind_department, passKind_staff, twoKindPass, PassReport.ofAnswers]

theorem fullSyncKind_eq (hon : cfg.staffSyncEnabled = true) (tenant : String) (kind : Kind)
    (first : Bool) :
    fullSyncKind cfg tenant kind first =
      (fun p => (KindReport.ofAnswers p.1, p.2)) <$> listAndWrite cfg (listedAll tenant) kind first := by
  simp [fullSyncKind, hon, listAndWrite, listedAll, syncEntities_eq]

theorem fullSyncAll_eq (tenant : String) :
    fullSyncAll cfg tenant =
      if cfg.staffSyncEnabled then PassReport.ofAnswers <$> twoKindPass cfg (listedAll tenant)
      else pure {} := by
  cases hon : cfg.staffSyncEnabled
  · simp [fullSyncAll, fullSyncKind, hon]
  · simp [fullSyncAll, fullSyncKind_eq cfg hon, twoKindPass, PassReport.ofAnswers]

/-- An incremental pass from a state: with staff sync enabled, the pass over both kinds of the
changes after the cursor, answering the cursor moved to the wall clock of that state. -/
theorem incrementalPass_run (cursor : Cursor) (b : Backends) :
    (incrementalPass cfg cursor).run.run b =
      if cfg.staffSyncEnabled then
        ((fun answers => (cursor.advancedTo b.now, PassReport.ofAnswers answers)) <$>
          twoKindPass cfg (changedSince cursor)).run.run b
      else (.ok (cursor, {}), b) := by
  have hclock : (liftM Backends.wallClock : SyncRun Int).run.run b = (.ok b.now, b) := rfl
  rw [incrementalPass_eq, run_ok_bind hclock]
  split <;> rfl

end Passes

/-! ### The law of a pass -/

/-- A pass writes the departments before the staff, counts its answers and throttles exactly.
With staff sync enabled, an incremental pass started at wall-clock time `b.now` is the pass over
both kinds of the changes after the cursor: it lists the departments changed after the cursor,
writes each once, in order, as an update under the retry policy, then lists and writes the staff;
a listing failure ends it with that failure before any later write; and it answers the cursor
moved to the pass start, with the counts of each kind's answers. A full sync is the same pass over
all entities. The writes of such a pass are the listed entities, departments first, with the
throttle between consecutive writes, once fewer than there are writes; every write answers once,
and a kind's counts add up to its answers. The moved cursor keeps its tenant and is never earlier.
With staff sync disabled, neither pass lists or writes anything. -/
theorem passes_write_departments_first (cfg : SyncConfig) :
    (∀ (cursor : Cursor) (b : Backends), (incrementalPass cfg cursor).run.run b =
      if cfg.staffSyncEnabled then
        ((fun answers => (cursor.advancedTo b.now, PassReport.ofAnswers answers)) <$>
          twoKindPass cfg (changedSince cursor)).run.run b
      else (.ok (cursor, {}), b)) ∧
    (∀ (tenant : String) (b : Backends), (fullSyncAll cfg tenant).run.run b =
      if cfg.staffSyncEnabled then
        (PassReport.ofAnswers <$> twoKindPass cfg (listedAll tenant)).run.run b
      else (.ok {}, b)) ∧
    (∀ departments staff : List Entity,
      (throttledWrites true departments ++ throttledWrites departments.isEmpty staff).filterMap
          PassStep.written? = departments ++ staff ∧
        (throttledWrites true departments ++ throttledWrites departments.isEmpty staff).countP
          PassStep.isThrottle = departments.length + staff.length - 1) ∧
    (∀ (steps : List PassStep) (b : Backends),
      ((runSteps cfg steps).run b).1.length = (steps.filterMap PassStep.written?).length) ∧
    (∀ answers, (KindReport.ofAnswers answers).total = answers.length) ∧
    (∀ (cursor : Cursor) (t : Int), (cursor.advancedTo t).tenantId = cursor.tenantId ∧
      cursor.lastSyncedAt ≤ (cursor.advancedTo t).lastSyncedAt) := by
  refine ⟨incrementalPass_run cfg, fun tenant b => ?_, fun departments staff => ?_,
    runSteps_length cfg, KindReport.ofAnswers_total, fun cursor t => ⟨rfl, le_max_left _ _⟩⟩
  · rw [fullSyncAll_eq]
    split <;> rfl
  · -- the staff follow the departments in one run of throttled writes
    have hsteps : throttledWrites true departments ++ throttledWrites departments.isEmpty staff =
        throttledWrites true (departments ++ staff) := by
      rw [throttledWrites_append, Bool.true_and]
    rw [hsteps, throttledWrites_written, throttledWrites_throttles, if_pos rfl, List.length_append]
    exact ⟨rfl, rfl⟩

/-- With staff sync disabled, a pass lists and writes nothing and answers the cursor as it was,
not moved to the pass start. -/
theorem disabled_pass_keeps_cursor :
    ((incrementalPass { staffSyncEnabled := false } ⟨"corp", 1700000000000⟩).run.run
        { now := 1767225600000 }).1 = .ok (⟨"corp", 1700000000000⟩, {}) ∧
      (⟨"corp", 1700000000000⟩ : Cursor).advancedTo 1767225600000 ≠ ⟨"corp", 1700000000000⟩ := by
  decide

end RosterSync.Sync

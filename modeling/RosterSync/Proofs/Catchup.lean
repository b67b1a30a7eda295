import Mathlib.Logic.Relation
import RosterSync.Proofs.ScheduledRuns
import RosterSync.Proofs.Backends

/-!
Incremental sync skips no change of the directory, and where that needs help from the world.

`Caught` says that every version of the tenant's entities that no completed pass listed lies
strictly after the persisted cursor, so the next pass that completes lists it. It does not hold
after every event of the scheduled runs' world as that world is usually described (a change is
stamped no earlier than the millisecond it lands in). Three things break it:

* a persisted cursor ahead of the clock: a change stamped now lies at or before it;
* a change stamped exactly on the whole second a pass started in, landing after that pass listed
  its kind: the cursor is floored to that second, and listing compares strictly;
* a failed cursor load whose fallback, one interval before now, lies after the persisted cursor:
  the pass lists nothing between the two and then stores a cursor past both.

`Admissible` leaves out the last two, and `changes_caught_by_later_passes` proves `Caught` after
every event of every run that starts with the cursor not ahead of the clock. The invariant behind
it, `Sound`, adds what a pass under way knows: its cursor is the persisted one or earlier, it
started no later than now, and every kind it has listed holds no unlisted version stamped at or
before the second it started in.
-/

namespace RosterSync.Sync

open RosterSync.Record RosterSync.Directory RosterSync.Storage

section Caught

variable (tenant : String)

/-- Every version of the tenant's entities that no completed pass listed lies strictly after the
persisted cursor. -/
def Caught (s : Sched) : Prop :=
  ∃ c, s.backends.kv.load tenant = some c ∧
    ∀ k e, e ∈ s.backends.directory.entities tenant k → Version.of k e ∉ s.listed →
      c < e.updatedAt

/-- Events under which no change is skipped: a change is stamped after the whole second it lands
in, and a failed cursor load falls back no later than the persisted cursor. -/
def Admissible (cfg : SyncConfig) (s : Sched) : Event → Prop
  | .commit e => floorToSecond s.backends.now < e.updatedAt
  | .loadFailed => ∀ c cursor, s.backends.kv.load tenant = some c →
      Cursor.initial? tenant cfg.scheduler.intervalSecs s.backends.now = some cursor →
      cursor.lastSyncedAt ≤ c
  | _ => True

/-- Every version of kind `k` that neither a completed pass nor the pass under way listed was
stamped after the second the pass started in. -/
def Covered (s : Sched) (passStart : Int) (k : Kind) : Prop :=
  ∀ e ∈ s.backends.directory.entities tenant k, Version.of k e ∉ s.listed →
    Version.of k e ∉ s.pending → floorToSecond passStart < e.updatedAt

/-- What holds of a pass under way from `cursor`, started at `passStart`, that has listed the
kinds `done`, while `c` is the persisted cursor. -/
structure PassSound (s : Sched) (c : Int) (cursor : Cursor) (passStart : Int)
    (done : Kind → Prop) : Prop where
  ofTenant : cursor.tenantId = tenant
  from_stored : cursor.lastSyncedAt ≤ c
  started : passStart ≤ s.backends.now
  covered : ∀ k, done k → Covered tenant s passStart k

/-- What a stage of the run knows, with `c` the persisted cursor. -/
def StageSound (s : Sched) (c : Int) : Stage → Prop
  | .idle | .locked _ | .releasing _ => True
  | .loaded _ cursor => cursor.tenantId = tenant ∧ cursor.lastSyncedAt ≤ c
  | .listing _ cursor passStart k _ =>
    PassSound tenant s c cursor passStart fun k' => k = .staff ∧ k' = .department
  | .syncing _ cursor passStart k _ _ =>
    PassSound tenant s c cursor passStart fun k' => k' = .department ∨ k = .staff
  | .persisting _ cursor passStart => PassSound tenant s c cursor passStart fun _ => True

/-- The invariant of the scheduled runs, for the persisted cursor `c`. -/
structure Sound (s : Sched) (c : Int) : Prop where
  stored : s.backends.kv.load tenant = some c
  behind : c ≤ floorToSecond s.backends.now
  caught : ∀ k e, e ∈ s.backends.directory.entities tenant k → Version.of k e ∉ s.listed →
    c < e.updatedAt
  stage : StageSound tenant s c s.stage

end Caught

/-- How the world may move a state without losing what completed passes listed: `listed` only
grows, the clock only moves forward, and an entity that was not there is stamped after the current
second. -/
structure Sched.Moves (tenant : String) (s s' : Sched) : Prop where
  listed : ∀ v ∈ s.listed, v ∈ s'.listed
  now : s.backends.now ≤ s'.backends.now
  entities : ∀ k e, e ∈ s'.backends.directory.entities tenant k →
    e ∈ s.backends.directory.entities tenant k ∨ floorToSecond s.backends.now < e.updatedAt

/-- A move that also keeps what the listings of the pass under way returned. -/
structure Sched.Grows (tenant : String) (s s' : Sched) : Prop extends Sched.Moves tenant s s' where
  pending : ∀ v ∈ s.pending, v ∈ s'.pending

section Transport

variable {tenant : String} {s s' : Sched}

theorem Sched.Moves.of_same
    (hent : s'.backends.directory.entities = s.backends.directory.entities)
    (hnow : s'.backends.now = s.backends.now) (hlisted : ∀ v ∈ s.listed, v ∈ s'.listed) :
    s.Moves tenant s' where
  listed := hlisted
  now := Int.le_of_eq hnow.symm
  entities := fun _ _ he => .inl (hent ▸ he)

theorem Sched.Grows.of_same
    (hent : s'.backends.directory.entities = s.backends.directory.entities)
    (hnow : s'.backends.now = s.backends.now) (hlisted : ∀ v ∈ s.listed, v ∈ s'.listed)
    (hpending : ∀ v ∈ s.pending, v ∈ s'.pending) : s.Grows tenant s' :=
  { Sched.Moves.of_same hent hnow hlisted with pending := hpending }

theorem Sched.Grows.unmoved {b' : Backends} (hb : Backends.Unmoved s.backends b') (st : Stage) :
    s.Grows tenant { s with backends := b', stage := st } :=
  .of_same hb.entities hb.now (fun _ hv => hv) fun _ hv => hv

theorem Covered.grows {p : Int} {k : Kind} (h : Covered tenant s p k) (hg : s.Grows tenant s')
    (hp : p ≤ s.backends.now) : Covered tenant s' p k := by
  intro e he hl hq
  rcases hg.entities k e he with hold | hfresh
  · exact h e hold (fun hv => hl (hg.listed _ hv)) (fun hv => hq (hg.pending _ hv))
  · exact Int.lt_of_le_of_lt (floorToSecond_mono hp) hfresh

theorem PassSound.grows {c p : Int} {cursor : Cursor} {done : Kind → Prop}
    (h : PassSound tenant s c cursor p done) (hg : s.Grows tenant s') :
    PassSound tenant s' c cursor p done where
  ofTenant := h.ofTenant
  from_stored := h.from_stored
  started := Int.le_trans h.started hg.now
  covered := fun k hk => (h.covered k hk).grows hg h.started

theorem PassSound.mono {c p : Int} {cursor : Cursor} {done done' : Kind → Prop}
    (h : PassSound tenant s c cursor p done) (hsub : ∀ k, done' k → done k) :
    PassSound tenant s c cursor p done' :=
  { h with covered := fun k hk => h.covered k (hsub k hk) }

theorem StageSound.grows {c : Int} {st : Stage} (h : StageSound tenant s c st)
    (hg : s.Grows tenant s') : StageSound tenant s' c st := by
  cases st with
  | idle | locked | releasing => trivial
  | loaded => exact h
  | listing => exact PassSound.grows h hg
  | syncing => exact PassSound.grows h hg
  | persisting => exact PassSound.grows h hg

theorem Sound.of_moves {c : Int} (h : Sound tenant s c) (hm : s.Moves tenant s')
    (hkv : s'.backends.kv.load tenant = s.backends.kv.load tenant)
    (hstage : StageSound tenant s' c s'.stage) : Sound tenant s' c where
  stored := hkv.trans h.stored
  behind := Int.le_trans h.behind (floorToSecond_mono hm.now)
  caught := by
    intro k e he hl
    rcases hm.entities k e he with hold | hfresh
    · exact h.caught k e hold fun hv => hl (hm.listed _ hv)
    · exact Int.lt_of_le_of_lt h.behind hfresh
  stage := hstage

theorem Sound.grows {c : Int} (h : Sound tenant s c) (hg : s.Grows tenant s')
    (hkv : s'.backends.kv.load tenant = s.backends.kv.load tenant)
    (hstage : s'.stage = s.stage) : Sound tenant s' c :=
  h.of_moves hg.toMoves hkv (hstage ▸ h.stage.grows hg)

theorem Sound.stage_of {c : Int} {st : Stage} (h : Sound tenant s c) (hst : s.stage = st) :
    StageSound tenant s c st :=
  hst ▸ h.stage

theorem Sound.caught_now {c : Int} (h : Sound tenant s c) : Caught tenant s :=
  ⟨c, h.stored, h.caught⟩

theorem StageSound.afterKind {c p : Int} {cursor : Cursor} {lock : LockToken} {first : Bool}
    {k : Kind} (h : PassSound tenant s c cursor p fun k' => k' = .department ∨ k = .staff) :
    StageSound tenant s c (Stage.afterKind lock cursor p first k) := by
  cases k with
  | department => exact h.mono fun k' hk => .inl hk.2
  | staff => exact h.mono fun k' _ => .inr rfl

end Transport

section Steps

variable {cfg : SyncConfig} {tenant : String} {s s' : Sched} {c : Int}

/-- Listing kind `k` after the pass's cursor leaves no version of `k` uncovered: the listing
returns what lies after the cursor, and what lies at or before it a completed pass listed. -/
theorem PassSound.listing {cursor : Cursor} {p : Int} {k : Kind} (h : Sound tenant s c)
    (hpass : PassSound tenant s c cursor p fun k' => k = .staff ∧ k' = .department)
    (hb : Backends.Unmoved s.backends s'.backends) (hlisted : s'.listed = s.listed)
    (hpending : s'.pending = s.pending ++ ((s.backends.directory.entities tenant k).filter
      fun e => decide (e.updatedAt > cursor.lastSyncedAt)).map (Version.of k)) :
    PassSound tenant s' c cursor p fun k' => k' = .department ∨ k = .staff := by
  have hg : s.Grows tenant s' := .of_same hb.entities hb.now (fun _ hv => hlisted ▸ hv)
    fun _ hv => hpending ▸ List.mem_append_left _ hv
  have hnew : Covered tenant s' p k := by
    intro e he hl hq
    rw [hb.entities] at he
    by_cases hafter : e.updatedAt > cursor.lastSyncedAt
    · have hret : e ∈ (s.backends.directory.entities tenant k).filter
          fun e => decide (e.updatedAt > cursor.lastSyncedAt) :=
        List.mem_filter.mpr ⟨he, decide_eq_true hafter⟩
      exact absurd (hpending ▸ List.mem_append_right _ (List.mem_map_of_mem hret)) hq
    · have hcaught := h.caught k e he (hlisted ▸ hl)
      have hfrom := hpass.from_stored
      omega
  refine { hpass.grows hg with covered := fun k' hk' => ?_ }
  by_cases hkk : k' = k
  · exact hkk ▸ hnew
  · have hdone : k = .staff ∧ k' = .department := by
      cases k <;> cases k' <;> simp_all
    exact (hpass.covered k' hdone).grows hg hpass.started

/-- Storing the cursor of a pass that listed both kinds: every version neither listed nor pending
lies after the second the pass started in, and every other one is listed now. -/
theorem Sound.persist {cursor : Cursor} {p : Int} {lock : LockToken} (h : Sound tenant s c)
    (hpass : PassSound tenant s c cursor p fun _ => True) :
    Sound tenant
      { backends := ((persistCursor (cursor.advancedTo p)).run s.backends).2,
        stage := .releasing lock, listed := s.listed ++ s.pending, pending := [] }
      (max c (floorToSecond (max cursor.lastSyncedAt p))) where
  stored := by
    simp only [persistCursor_run, Cursor.advancedTo]
    rw [hpass.ofTenant]
    exact MemoryKv.load_advance _ _ _ _ h.stored
  behind := by
    have hnow := floorToSecond_le s.backends.now
    have hmax : max cursor.lastSyncedAt p ≤ s.backends.now := by
      have := h.behind
      have := hpass.from_stored
      have := hpass.started
      omega
    have := floorToSecond_mono hmax
    have := h.behind
    show max c _ ≤ floorToSecond s.backends.now
    omega
  caught := by
    intro k e he hl
    have hc : c < e.updatedAt := h.caught k e he fun hv => hl (List.mem_append_left _ hv)
    have hp : floorToSecond p < e.updatedAt := hpass.covered k trivial e he
      (fun hv => hl (List.mem_append_left _ hv)) fun hv => hl (List.mem_append_right _ hv)
    rcases Int.le_total cursor.lastSyncedAt p with hle | hle
    · rw [Int.max_eq_right hle]
      omega
    · rw [Int.max_eq_left hle]
      have := floorToSecond_le cursor.lastSyncedAt
      have := hpass.from_stored
      omega
  stage := trivial

theorem Sound.step {ev : Event} (h : Sound tenant s c) (hok : Admissible tenant cfg s ev)
    (hstep : Step cfg tenant s ev s') : ∃ c', Sound tenant s' c' := by
  cases hstep with
  | commit e stamped =>
    -- the only entity that may be new is the one committed, stamped after the current second
    refine ⟨c, h.grows ⟨⟨fun _ hv => hv, Int.le_refl _, fun k e' he' => ?_⟩, fun _ hv => hv⟩
      rfl rfl⟩
    rcases MemoryDirectory.mem_put he' with rfl | hold
    · exact .inr hok
    · exact .inl hold
  | remove t k x =>
    exact ⟨c, h.grows ⟨⟨fun _ hv => hv, Int.le_refl _,
      fun _ _ he => .inl (MemoryDirectory.mem_remove he)⟩, fun _ hv => hv⟩ rfl rfl⟩
  | tick ms =>
    exact ⟨c, h.grows ⟨⟨fun _ hv => hv, Int.le_add_of_nonneg_right (Int.natCast_nonneg ms),
      fun _ _ he => .inl he⟩, fun _ hv => hv⟩ rfl rfl⟩
  | wait ms => exact ⟨c, h.grows (.unmoved (sleep_unmoved ms s.backends) s.stage) rfl rfl⟩
  | failDirectory err => exact ⟨c, h.grows (.of_same rfl rfl (fun _ hv => hv) fun _ hv => hv) rfl rfl⟩
  | failStore op err times =>
    exact ⟨c, h.grows (.of_same rfl rfl (fun _ hv => hv) fun _ hv => hv) rfl rfl⟩
  | waitStore f => exact ⟨c, h.grows (.of_same rfl rfl (fun _ hv => hv) fun _ hv => hv) rfl rfl⟩
  | disabled => exact ⟨c, h⟩
  | acquireFailed => exact ⟨c, h⟩
  | lockHeld hidle hon hfits b' htake =>
    obtain ⟨-, rfl⟩ := Prod.mk.inj htake
    exact ⟨c, h.grows (.of_same rfl rfl (fun _ hv => hv) fun _ hv => hv)
      (MemoryKv.load_tryAcquire _ _ _ _ _) rfl⟩
  | acquire hidle hon hfits lock b' htake =>
    obtain ⟨-, rfl⟩ := Prod.mk.inj htake
    exact ⟨c, h.of_moves (.of_same rfl rfl fun _ hv => hv) (MemoryKv.load_tryAcquire _ _ _ _ _)
      trivial⟩
  | load lock hstage cursor hload =>
    rw [loadSyncCursor_of_load _ h.stored] at hload
    cases hload
    exact ⟨c, h.of_moves (.of_same rfl rfl fun _ hv => hv) rfl ⟨rfl, Int.le_refl c⟩⟩
  | loadFailed lock hstage cursor hfallback =>
    exact ⟨c, h.of_moves (.of_same rfl rfl fun _ hv => hv) rfl
      ⟨Cursor.initial?_tenantId hfallback, hok c cursor h.stored hfallback⟩⟩
  | start lock cursor hstage =>
    have hloaded := h.stage_of hstage
    exact ⟨c, h.of_moves (.of_same rfl rfl fun _ hv => hv) rfl
      ⟨hloaded.1, hloaded.2, Int.le_refl _, fun _ hk => nomatch hk.1⟩⟩
  | list lock cursor p k first hstage changed b' hlist =>
    have hpass : PassSound tenant s c cursor p fun k' => k = .staff ∧ k' = .department :=
      h.stage_of hstage
    have hb := listChangedSince_unmoved hlist
    have hchanged := listChangedSince_ok hlist
    rw [hpass.ofTenant] at hchanged
    refine ⟨c, h.of_moves (.of_same hb.entities hb.now fun _ hv => hv)
      (congrArg (MemoryKv.load · tenant) hb.kv) ?_⟩
    cases changed with
    | nil => exact StageSound.afterKind (hpass.listing h hb rfl (by rw [← hchanged]))
    | cons => exact hpass.listing h hb rfl (by rw [← hchanged])
  | listFailed lock cursor p k first hstage err b' hlist =>
    have hb := listChangedSince_unmoved hlist
    exact ⟨c, h.of_moves (.of_same hb.entities hb.now fun _ hv => hv)
      (congrArg (MemoryKv.load · tenant) hb.kv) trivial⟩
  | write lock cursor p k e rest first hstage =>
    have hpass : PassSound tenant s c cursor p fun k' => k' = .department ∨ k = .staff :=
      h.stage_of hstage
    have hb := syncEntities_unmoved cfg [e] first s.backends
    refine ⟨c, h.of_moves (Sched.Grows.unmoved hb _).toMoves
      (congrArg (MemoryKv.load · tenant) hb.kv) ?_⟩
    cases rest with
    | nil => exact StageSound.afterKind (hpass.grows (.unmoved hb _))
    | cons => exact hpass.grows (.unmoved hb _)
  | persist lock cursor p hstage => exact ⟨_, h.persist (h.stage_of hstage)⟩
  | persistFailed lock cursor p hstage =>
    exact ⟨c, h.of_moves (.of_same rfl rfl fun _ hv => List.mem_append_left _ hv) rfl trivial⟩
  | release lock hstage =>
    exact ⟨c, h.of_moves (.of_same rfl rfl fun _ hv => hv) (MemoryKv.load_release _ _ _) trivial⟩
  | releaseFailed lock hstage =>
    exact ⟨c, h.of_moves (.of_same rfl rfl fun _ hv => hv) rfl trivial⟩

theorem Sound.reachable (h : Sound tenant s c)
    (hrun : Relation.ReflTransGen (Next cfg tenant (Admissible tenant cfg)) s s') :
    ∃ c', Sound tenant s' c' := by
  induction hrun with
  | refl => exact ⟨c, h⟩
  | tail _ hnext ih =>
    obtain ⟨c', hc'⟩ := ih
    obtain ⟨ev, hok, hstep⟩ := hnext
    exact hc'.step hok hstep

end Steps

/-- No change is skipped by the scheduled runs. Start where every version at or before the
persisted cursor was listed and the cursor is not ahead of the clock's second; let changes land
after the second they are committed in, and a failed cursor load fall back no later than the
stored cursor. Then after every event, every version that no completed pass listed lies after
the persisted cursor, and the next pass that completes lists it. -/
theorem changes_caught_by_later_passes (cfg : SyncConfig) (tenant : String) (b : Backends)
    (listed : List Version) (s : Sched) (hcaught : Caught tenant (Sched.start b listed))
    (hbehind : ∀ c, b.kv.load tenant = some c → c ≤ floorToSecond b.now)
    (hrun : Relation.ReflTransGen (Next cfg tenant (Admissible tenant cfg))
      (Sched.start b listed) s) :
    Caught tenant s := by
  obtain ⟨c, hstored, hcaught⟩ := hcaught
  have hstart : Sound tenant (Sched.start b listed) c :=
    ⟨hstored, hbehind c hstored, hcaught, trivial⟩
  obtain ⟨c', hs⟩ := hstart.reachable hrun
  exact hs.caught_now

theorem change_after_cursor_caught :
    Caught "corp"
      ⟨{ kv := { cursors := [("corp", 1767225000000)] }, now := 1767225600000,
         directory := ({} : MemoryDirectory).put (.new .department "corp" "d1" 1767225600001) },
        .idle, [], []⟩ :=
  changes_caught_by_later_passes {} "corp"
    { kv := { cursors := [("corp", 1767225000000)] }, now := 1767225600000 } [] _
    ⟨1767225000000, rfl, fun _ _ he => nomatch he⟩
    (fun c hc => by cases hc; decide)
    (.single ⟨.commit (.new .department "corp" "d1" 1767225600001),
      show floorToSecond 1767225600000 < 1767225600001 by decide, .commit _ _ (by decide)⟩)

/-- Without each restriction a change is skipped. From a cursor ahead of the clock, an admissible
change is at or before the cursor at once. From a cursor on the clock's whole second, a change
stamped on that second is too. And a failed load that falls back past the stored cursor lets a
pass complete, listing nothing, and store a cursor past a change no pass listed. -/
theorem skipped_change_without_restrictions :
    (∃ b e s, Caught "corp" (Sched.start b []) ∧
      Admissible "corp" {} (Sched.start b []) (.commit e) ∧
      Step {} "corp" (Sched.start b []) (.commit e) s ∧ ¬ Caught "corp" s) ∧
    (∃ b e s, Caught "corp" (Sched.start b []) ∧
      (∀ c, b.kv.load "corp" = some c → c ≤ floorToSecond b.now) ∧
      Step {} "corp" (Sched.start b []) (.commit e) s ∧ ¬ Caught "corp" s) ∧
    (∃ b s, Caught "corp" (Sched.start b []) ∧
      (∀ c, b.kv.load "corp" = some c → c ≤ floorToSecond b.now) ∧
      Relation.ReflTransGen
        (Next {} "corp" fun s ev => ev = .loadFailed ∨ Admissible "corp" {} s ev)
        (Sched.start b []) s ∧ ¬ Caught "corp" s) := by
  refine ⟨?ahead, ?onSecond, ?fallback⟩
  case ahead =>
    refine ⟨{ kv := { cursors := [("corp", 4102444800000)] }, now := 1767225600000 },
      .new .department "corp" "d1" 4070908800000, _,
      ⟨4102444800000, rfl, fun _ _ he => nomatch he⟩,
      show floorToSecond 1767225600000 < 4070908800000 by decide, .commit _ _ (by decide), ?_⟩
    rintro ⟨c, hc, hcaught⟩
    cases hc
    exact absurd (hcaught .department _ (List.Mem.head _) List.not_mem_nil) (by decide)
  case onSecond =>
    refine ⟨{ kv := { cursors := [("corp", 1767225600000)] }, now := 1767225600000 },
      .new .department "corp" "d1" 1767225600000, _,
      ⟨1767225600000, rfl, fun _ _ he => nomatch he⟩,
      fun c hc => by cases hc; decide, .commit _ _ (by decide), ?_⟩
    rintro ⟨c, hc, hcaught⟩
    cases hc
    exact absurd (hcaught .department _ (List.Mem.head _) List.not_mem_nil) (by decide)
  case fallback =>
    refine ⟨{ kv := { cursors := [("corp", 1767224000000)] }, now := 1767225600000,
               directory := ({} : MemoryDirectory).put (.new .department "corp" "d1" 1767224500000) },
      ?_, ⟨1767224000000, rfl, fun k e he _ => ?_⟩, fun c hc => by cases hc; decide, ?_, ?_⟩
    rotate_left
    · rcases MemoryDirectory.mem_put he with rfl | hnone
      · decide
      · nomatch hnone
    -- the load falls back to ten minutes before now, after the change; neither listing returns it
    · refine .head ⟨.acquire, .inr trivial, .acquire ⟨_, .idle, [], []⟩ rfl rfl rfl _ _ rfl⟩ ?_
      refine .head ⟨.loadFailed, .inl rfl, .loadFailed _ _ rfl ⟨"corp", 1767225000000⟩ rfl⟩ ?_
      refine .head ⟨.start, .inr trivial, .start _ _ _ rfl⟩ ?_
      refine .head ⟨.list, .inr trivial, .list _ _ _ _ _ _ rfl [] _ rfl⟩ ?_
      refine .head ⟨.list, .inr trivial, .list _ _ _ _ _ _ rfl [] _ rfl⟩ ?_
      refine .head ⟨.persist, .inr trivial, .persist _ _ _ _ rfl⟩ ?_
      exact .refl
    · rintro ⟨c, hc, hcaught⟩
      cases hc
      exact absurd (hcaught .department _ (List.Mem.head _) List.not_mem_nil) (by decide)

end RosterSync.Sync

import Mathlib.Algebra.BigOperators.Intervals
import RosterSync.Console.Stateless
import RosterSync.Proofs.RecordStore

/-!
The retry loop: how many attempts it makes, what it answers, and when each attempt starts.

A policy allows a budget of attempts, never less than one. The loop stops at the first attempt
that settles it, a success or a failure not worth retrying, or at the last attempt the budget
allows, and answers with that attempt's outcome. Before every attempt but the first it waits the
backoff delay of that attempt; nothing follows the last.

Over any state, for any operation and any way of waiting, a run of the loop is the run of its
first `k` attempts with the waits between them (`retry_run_eq`), `k` being the attempt that
`FirstSettled` describes. On a scripted operation whose clock only waiting moves, attempt `n`
starts at the sum of the waits before attempts `2, …, n` (`startsAt`), each wait lasting as long as
the timer lets the backoff delay last (`script_attemptStart`); under the runtime's documented timer
that is the delay cut to the thirty-year horizon (`startsAt_of_capped`). Writing an entity under the
policy is the same loop over upserts, so it makes exactly its first `k` upserts and answers with
the last one's outcome when that succeeded (`upsertWithRetry_run`).
-/

namespace RosterSync

open RosterSync.Json RosterSync.Record RosterSync.Directory RosterSync.Sync RosterSync.Console

namespace RetryPolicy

/-- The backoff delay is the base delay times the square of the attempts before, the square
saturating at `2^32 - 1` and the product at the largest duration. -/
theorem delayBefore_eq_min (p : RetryPolicy) (attempt : Nat) :
    p.delayBefore attempt = min maxDurationMs
      (p.baseDelayMs * min ((attempt - 1) * (attempt - 1)) (2 ^ 32 - 1)) := by
  unfold delayBefore maxDurationMs
  dsimp only
  generalize p.baseDelayMs * min ((attempt - 1) * (attempt - 1)) (2 ^ 32 - 1) = total
  split_ifs <;> omega

theorem one_le_attemptBudget (p : RetryPolicy) : 1 ≤ p.attemptBudget :=
  Nat.le_max_right _ _

/-- When attempt `n` starts, on a clock that only waiting moves: the waits before attempts
`2, …, n`, each the backoff delay cut to the timer's horizon. -/
def startsAt (p : RetryPolicy) (t : Timer) (n : Nat) : Nat :=
  ∑ j ∈ Finset.Icc 2 n, t.waited (p.delayBefore j)

@[simp] theorem startsAt_one (p : RetryPolicy) (t : Timer) : p.startsAt t 1 = 0 := rfl

theorem startsAt_succ (p : RetryPolicy) (t : Timer) (n : Nat) :
    p.startsAt t (n + 2) = p.startsAt t (n + 1) + t.waited (p.delayBefore (n + 2)) :=
  Finset.sum_Icc_succ_top (by omega) _

theorem startsAt_of_capped (p : RetryPolicy) {t : Timer} (ht : t.Capped) (n : Nat) :
    p.startsAt t n = ∑ j ∈ Finset.Icc 2 n, min (p.delayBefore j) Timer.horizonMs :=
  Finset.sum_congr rfl fun _ _ => ht.waited_eq _

end RetryPolicy

/-- Whether an outcome ends the loop: a success, or a failure not worth retrying. -/
def settles {ε α : Type} (retryable : ε → Bool) : Except ε α → Bool
  | .ok _ => true
  | .error e => !retryable e

/-- Attempt `k` is where the loop stops, given which attempts (counted from one) would settle it:
the first that does, or the last the budget allows when none before it does. -/
structure FirstSettled (p : RetryPolicy) (settled : Nat → Bool) (k : Nat) : Prop where
  pos : 1 ≤ k
  le_budget : k ≤ p.attemptBudget
  before : ∀ j, 1 ≤ j → j < k → settled j = false
  stops : settled k = true ∨ k = p.attemptBudget

/-- The attempt the loop stops at, from attempt `n` with `left` more attempts allowed after it. -/
def stopAt (settled : Nat → Bool) (n : Nat) : Nat → Nat
  | 0 => n
  | left + 1 => if settled n then n else stopAt settled (n + 1) left

section StopAt

variable (settled : Nat → Bool)

theorem le_stopAt (n left : Nat) : n ≤ stopAt settled n left := by
  induction left generalizing n with
  | zero => exact Nat.le_refl n
  | succ left ih =>
    unfold stopAt
    split
    · exact Nat.le_refl n
    · exact Nat.le_of_succ_le (ih (n + 1))

theorem stopAt_le (n left : Nat) : stopAt settled n left ≤ n + left := by
  induction left generalizing n with
  | zero => exact Nat.le_refl n
  | succ left ih =>
    unfold stopAt
    split
    · omega
    · have := ih (n + 1)
      omega

theorem stopAt_before (n left : Nat) :
    ∀ j, n ≤ j → j < stopAt settled n left → settled j = false := by
  induction left generalizing n with
  | zero => intro j hn hj; exact absurd hj (by simp [stopAt]; omega)
  | succ left ih =>
    intro j hn hj
    unfold stopAt at hj
    split at hj
    · omega
    · -- the attempt at `n` did not settle; the later ones are the recursion's
      rename_i hsettled
      rcases Nat.eq_or_lt_of_le hn with rfl | hlt
      · simpa using hsettled
      · exact ih (n + 1) j hlt hj

theorem stopAt_stops (n left : Nat) :
    settled (stopAt settled n left) = true ∨ stopAt settled n left = n + left := by
  induction left generalizing n with
  | zero => exact .inr rfl
  | succ left ih =>
    unfold stopAt
    split
    · exact .inl ‹_›
    · rcases ih (n + 1) with h | h
      · exact .inl h
      · exact .inr (by omega)

theorem firstSettled_stopAt (p : RetryPolicy) :
    FirstSettled p settled (stopAt settled 1 (p.attemptBudget - 1)) := by
  have hbudget := p.one_le_attemptBudget
  refine ⟨le_stopAt settled 1 _, ?_, fun j hj hk => stopAt_before settled 1 _ j hj hk, ?_⟩
  · have := stopAt_le settled 1 (p.attemptBudget - 1)
    omega
  · rcases stopAt_stops settled 1 (p.attemptBudget - 1) with h | h
    · exact .inl h
    · exact .inr (by omega)

end StopAt

section Attempts

variable {σ ε α : Type} (p : RetryPolicy) (sleep : Nat → StateM σ Unit)
  (op : StateM σ (Except ε α))

/-- The state attempt `n + 1` starts in, when every attempt before it failed and was followed by
the wait before the next. -/
def attemptStart (s : σ) : Nat → σ
  | 0 => s
  | n + 1 => ((sleep (p.delayBefore (n + 2))).run (op.run (attemptStart s n)).2).2

/-- Attempt `n` (counted from one) run from the state it starts in: its outcome and the state it
leaves. -/
def attempt (s : σ) (n : Nat) : Except ε α × σ :=
  op.run (attemptStart p sleep op s (n - 1))

/-- The loop from attempt `n + 1`, started in that attempt's state, ends as the attempt it stops
at: no attempt runs after it and no wait follows it. -/
theorem retryFrom_run (retryable : ε → Bool) (s : σ) (n left : Nat) :
    (retryFrom p retryable sleep op (n + 1) left).run (attemptStart p sleep op s n) =
      attempt p sleep op s
        (stopAt (fun j => settles retryable (attempt p sleep op s j).1) (n + 1) left) := by
  have hfirst : attempt p sleep op s (n + 1) = op.run (attemptStart p sleep op s n) := rfl
  induction left generalizing n with
  | zero =>
    rw [retryFrom, stopAt, hfirst]
    rcases hop : op.run (attemptStart p sleep op s n) with ⟨_ | _, s'⟩
    · rw [MemoryStore.run_bind_eq hop]
      dsimp only
      split <;> rfl
    · rw [MemoryStore.run_bind_eq hop]
      rfl
  | succ left ih =>
    rw [retryFrom]
    rcases hop : op.run (attemptStart p sleep op s n) with ⟨_ | v, s'⟩
    · rename_i e
      rw [MemoryStore.run_bind_eq hop]
      by_cases hr : retryable e = true
      · have hnext : attemptStart p sleep op s (n + 1) =
            ((sleep (p.delayBefore (n + 2))).run s').2 := by
          simp only [attemptStart, hop]
        have hgo : settles retryable (attempt p sleep op s (n + 1)).1 = false := by
          simp [hfirst, hop, settles, hr]
        simp only [hr, Bool.not_true, Bool.false_eq_true, if_false]
        rw [stopAt, if_neg (by simpa using hgo), ← ih (n + 1) rfl, hnext, StateT.run_bind]
        rfl
      · have hstop : settles retryable (attempt p sleep op s (n + 1)).1 = true := by
          simp [hfirst, hop, settles, hr]
        simp only [hr, Bool.not_false, if_true]
        rw [stopAt, if_pos hstop, hfirst, hop]
        rfl
    · have hstop : settles retryable (attempt p sleep op s (n + 1)).1 = true := by
        simp [hfirst, hop, settles]
      rw [MemoryStore.run_bind_eq hop, stopAt, if_pos hstop, hfirst, hop]
      rfl

/-- A run of the loop is the run of its first `k` attempts with the waits between them, `k`
being the attempt `FirstSettled` describes. -/
theorem retry_run_eq (retryable : ε → Bool) (s : σ) :
    ∃ k, FirstSettled p (fun j => settles retryable (attempt p sleep op s j).1) k ∧
      (retry p retryable sleep op).run s = attempt p sleep op s k :=
  ⟨_, firstSettled_stopAt _ p, retryFrom_run p sleep op retryable s 0 _⟩

end Attempts

/-! ### A scripted operation on a virtual clock -/

/-- Attempt `n + 1` of a script starts with the clock at the waits before it, after the attempts
before it were stamped with their start times. -/
theorem script_attemptStart (p : RetryPolicy) (t : Timer)
    (outcomes : List (Except StoreError Value)) (n : Nat) :
    attemptStart p (Script.sleep t) Script.attempt { outcomes } n =
      { outcomes, clock := p.startsAt t (n + 1),
        attemptsAt := (List.range n).map fun i => p.startsAt t (i + 1) } := by
  induction n with
  | zero => rfl
  | succ n ih =>
    rw [attemptStart, ih, p.startsAt_succ t, List.range_succ, List.map_append]
    rfl

/-- Attempt `n` of a script takes the `n`-th outcome (the script's end answers with success) and
stamps its start time. -/
theorem script_attempt (p : RetryPolicy) (t : Timer) (outcomes : List (Except StoreError Value))
    {n : Nat} (hn : 1 ≤ n) :
    attempt p (Script.sleep t) Script.attempt { outcomes } n =
      (outcomes[n - 1]?.getD (.ok scriptExhausted),
        { outcomes, clock := p.startsAt t n,
          attemptsAt := (List.range n).map fun i => p.startsAt t (i + 1) }) := by
  obtain ⟨m, rfl⟩ : ∃ m, n = m + 1 := ⟨n - 1, by omega⟩
  rw [attempt, Nat.add_sub_cancel, script_attemptStart, Script.attempt, StateT.run_modifyGet]
  simp only [List.length_map, List.length_range, List.range_succ, List.map_append, List.map_cons,
    List.map_nil]
  rfl

/-! ### Writing an entity under the policy -/

/-- Writing an entity under the policy makes exactly the upserts of the loop, and answers with
the last one's outcome when it succeeded. -/
theorem upsertWithRetry_run (p : RetryPolicy) (e : Entity) (a : Action) (b : Backends) :
    (upsertWithRetry p e a).run b =
      (((retry p SyncError.isRetryable Backends.sleep (upsert e a).run).run b).1.toOption,
        ((retry p SyncError.isRetryable Backends.sleep (upsert e a).run).run b).2) := by
  rw [upsertWithRetry, StateT.run_bind]
  rcases (retry p SyncError.isRetryable Backends.sleep (upsert e a).run).run b with ⟨_ | _, b'⟩ <;>
    rfl

/-! ### The loop's law -/

theorem FirstSettled.congr {p : RetryPolicy} {settled settled' : Nat → Bool} {k : Nat}
    (h : FirstSettled p settled k) (hsame : ∀ j, 1 ≤ j → settled j = settled' j) :
    FirstSettled p settled' k where
  pos := h.pos
  le_budget := h.le_budget
  before j hj hjk := (hsame j hj).symm.trans (h.before j hj hjk)
  stops := (hsame k h.pos) ▸ h.stops

/-- The retry loop follows its budget and its backoff schedule. The delay before an attempt is
the base delay times the square of the attempts before it, saturating twice. Over any state, the
loop runs exactly its first `k` attempts, `k` being the first attempt that succeeds or fails for
good or else the last the budget allows, and answers with attempt `k`'s outcome, with no wait
after it. On a scripted operation, attempt `n` starts at the sum of the waits before attempts
`2, …, n`, each as long as the timer lets the delay last, and under the runtime's documented
timer that is the delay cut to the thirty-year horizon. Writing an entity under the policy makes
exactly its first `k` upserts and answers with the last outcome exactly when that succeeded. -/
theorem retry_follows_budget_and_backoff (p : RetryPolicy) :
    (∀ j, p.delayBefore j = min RetryPolicy.maxDurationMs
        (p.baseDelayMs * min ((j - 1) * (j - 1)) (2 ^ 32 - 1))) ∧
    (∀ {σ ε α : Type} (retryable : ε → Bool) (sleep : Nat → StateM σ Unit)
        (op : StateM σ (Except ε α)) (s : σ),
      ∃ k, FirstSettled p (fun j => settles retryable (attempt p sleep op s j).1) k ∧
        (retry p retryable sleep op).run s = attempt p sleep op s k) ∧
    (∀ (t : Timer) (outcomes : List (Except StoreError Value)),
      ∃ k, FirstSettled p (fun j => settles StoreError.isRetryable
          (outcomes[j - 1]?.getD (.ok scriptExhausted))) k ∧
        (retry p StoreError.isRetryable (Script.sleep t) Script.attempt).run { outcomes } =
          (outcomes[k - 1]?.getD (.ok scriptExhausted),
            { outcomes, clock := p.startsAt t k,
              attemptsAt := (List.range k).map fun i => p.startsAt t (i + 1) })) ∧
    (∀ t : Timer, t.Capped → ∀ n,
      p.startsAt t n = ∑ j ∈ Finset.Icc 2 n, min (p.delayBefore j) Timer.horizonMs) ∧
    (∀ (e : Entity) (a : Action) (b : Backends),
      ∃ k, FirstSettled p (fun j => settles SyncError.isRetryable
          (attempt p Backends.sleep (upsert e a).run b j).1) k ∧
        (upsertWithRetry p e a).run b =
          ((attempt p Backends.sleep (upsert e a).run b k).1.toOption,
            (attempt p Backends.sleep (upsert e a).run b k).2)) := by
  refine ⟨p.delayBefore_eq_min, fun retryable sleep op s => retry_run_eq p sleep op retryable s,
    fun t outcomes => ?_, fun t ht n => p.startsAt_of_capped ht n, fun e a b => ?_⟩
  · obtain ⟨k, hk, hrun⟩ :=
      retry_run_eq p (Script.sleep t) Script.attempt StoreError.isRetryable ({ outcomes } : Script)
    refine ⟨k, hk.congr fun j hj => by rw [script_attempt p t outcomes hj], ?_⟩
    rw [hrun, script_attempt p t outcomes hk.pos]
  · obtain ⟨k, hk, hrun⟩ :=
      retry_run_eq p Backends.sleep (upsert e a).run SyncError.isRetryable b
    exact ⟨k, hk, by rw [upsertWithRetry_run, hrun]⟩

/-- A backoff delay beyond the timer's horizon is waited for thirty years only: with a base delay
of `10^12` ms, the second attempt is due after `10^12` ms but starts at `946080000000` ms. -/
theorem long_backoff_waits_thirty_years :
    ({ maxAttempts := 2, baseDelayMs := 1000000000000 } : RetryPolicy).delayBefore 2 =
        1000000000000 ∧
      ((retry { maxAttempts := 2, baseDelayMs := 1000000000000 } StoreError.isRetryable
        (Script.sleep .runtime) Script.attempt).run
          { outcomes := [.error (.transport false "refused"), .ok (.str "done")] }).2.attemptsAt =
        [0, 946080000000] := by
  decide +kernel

end RosterSync

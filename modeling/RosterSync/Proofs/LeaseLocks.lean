import Mathlib
import RosterSync.Storage.Redis
import RosterSync.Proofs.Backends

/-!
Lease locks.

A lock store is driven by calls: taking a named lock for a lease, releasing a token, and time
passing on the store's clock (`LockCall`). `runLocks` runs calls one after another from a state
and a time, and records each call with the time it ran at and its answer. The laws a lock store
keeps are stated on such runs, from any state (`LockLaws`):

* exclusion: once an acquire hands out a token for a lease, no acquire of the name hands out a
  token before the lease ends, unless the token is released in between;
* expiry: once the lease has run out, an acquire of the name with a lease the store accepts
  hands out a token, unless another acquire of the name handed one out in between;
* guarded release: a token of the name that is neither the holder's nor handed out since answers
  false and changes nothing, and within the lease the holder's token frees the name;
* fresh tokens: the tokens a run hands out are pairwise distinct.

Tokens are compared as the store compares them: in memory as tokens, in Redis by the name and
the token's text.

The store in memory keeps every law for every lease and accepts a lease whose end its clock
holds (`memory_lock_laws`). The Redis store keeps them, on a server with Redis's semantics
(`LockCommands`) and with fresh token texts, for every lease below 2^64 milliseconds, and
accepts a lease whose low 64 bits Redis accepts as an expiry (`redis_lock_laws`). A longer lease
is sent cut to its low 64 bits: with a lease of 2^64 + 1384 milliseconds the key expires after
1.384 seconds and a second acquire hands out a token (`wrapped_lease_lets_second_holder_in`).
-/

-- natural powers take the core instance even where the monoid power is in scope
attribute [local instance (2000)] instPowNat

namespace RosterSync.Storage

/-- A call to a lock store, or time passing on its clock. -/
inductive LockCall where
  | acquire (name : String) (leaseMs : Nat)
  | release (token : LockToken)
  | wait (ms : Nat)
deriving DecidableEq

/-- What a call answered; `stopped` is a call that stops the program. -/
inductive LockAnswer where
  | acquired (token : Option LockToken)
  | released (ok : Bool)
  | failed (e : StorageError)
  | stopped
  | waited
deriving DecidableEq

/-- The clock after a call: only waiting moves it. -/
def LockCall.after : LockCall → Nat → Nat
  | .wait ms, clock => clock + ms
  | _, clock => clock

def LockCall.takes : LockCall → String → Bool
  | .acquire n _, name => n == name
  | _, _ => false

def LockAnswer.token? : LockAnswer → Option LockToken
  | .acquired t => t
  | _ => none

def LockAnswer.handsOut (a : LockAnswer) : Bool := a.token?.isSome

/-- A call as it ran: the time, the call and its answer. -/
abbrev LockEvent := Nat × LockCall × LockAnswer

section Runs

variable {σ : Type} (call : σ → Nat → LockCall → LockAnswer × σ)

/-- Runs calls one after another from a state and a time: each call as it ran, and the state
and the time at the end. -/
def runLocks : List LockCall → σ → Nat → List LockEvent × σ × Nat
  | [], s, clock => ([], s, clock)
  | c :: cs, s, clock =>
    ((clock, c, (call s clock c).1) :: (runLocks cs (call s clock c).2 (c.after clock)).1,
      (runLocks cs (call s clock c).2 (c.after clock)).2)

theorem LockCall.le_after (c : LockCall) (clock : Nat) : clock ≤ c.after clock := by
  cases c <;> simp [LockCall.after]

/-- What each call keeps, together with the time it runs at, holds at the end of a run whose
calls all pass `ok`. -/
theorem runLocks_inv (P : σ → Nat → Prop) (ok : LockEvent → Prop)
    (step : ∀ s clock c, P s clock → ok (clock, c, (call s clock c).1) →
      P (call s clock c).2 (c.after clock)) :
    ∀ (cs : List LockCall) (s : σ) (clock : Nat), P s clock →
      (∀ e ∈ (runLocks call cs s clock).1, ok e) →
      P (runLocks call cs s clock).2.1 (runLocks call cs s clock).2.2
  | [], _, _, h, _ => h
  | c :: cs, s, clock, h, hok => by
    have hhead : ok (clock, c, (call s clock c).1) := hok _ List.mem_cons_self
    exact runLocks_inv P ok step cs _ _ (step s clock c h hhead)
      fun e he => hok e (List.mem_cons_of_mem _ he)

def handedOut (evs : List LockEvent) : List LockToken := evs.filterMap (·.2.2.token?)

theorem handedOut_cons (ev : LockEvent) (evs : List LockEvent) :
    handedOut (ev :: evs) = ev.2.2.token?.toList ++ handedOut evs := by
  unfold handedOut
  rw [List.filterMap_cons]
  cases ev.2.2.token? <;> rfl

/-- What each call keeps of the state, the time and the tokens handed out so far holds at the
end. -/
theorem runLocks_handed (P : σ → Nat → List LockToken → Prop)
    (step : ∀ s clock c hs, P s clock hs →
      P (call s clock c).2 (c.after clock) (hs ++ (call s clock c).1.token?.toList)) :
    ∀ (cs : List LockCall) (s : σ) (clock : Nat) (hs : List LockToken), P s clock hs →
      P (runLocks call cs s clock).2.1 (runLocks call cs s clock).2.2
        (hs ++ handedOut (runLocks call cs s clock).1)
  | [], _, _, hs, h => by simpa [runLocks, handedOut] using h
  | c :: cs, s, clock, hs, h => by
    have hnext := runLocks_handed P step cs _ (c.after clock) _ (step s clock c hs h)
    rw [List.append_assoc, ← handedOut_cons (clock, c, (call s clock c).1)] at hnext
    exact hnext

variable {α : Type} (key : LockToken → α)

/-- Whether a run released, successfully, a token of the given key. -/
def Released (evs : List LockEvent) (k : α) : Prop :=
  ∃ e ∈ evs, ∃ T, e.2.1 = .release T ∧ key T = k ∧ e.2.2 = .released true

/-- Exclusion: after an acquire hands out a token for a covered lease, no acquire of the name
hands out a token before the lease ends, unless the token was released in between. -/
def Excludes (Covered : Nat → Prop) : Prop :=
  ∀ s clock name lease T, Covered lease →
    (call s clock (.acquire name lease)).1 = .acquired (some T) →
    ∀ mid : List LockCall,
      let r := runLocks call mid (call s clock (.acquire name lease)).2 clock
      ¬ Released key r.1 (key T) → r.2.2 < clock + lease →
      ∀ lease', (call r.2.1 r.2.2 (.acquire name lease')).1.handsOut = false

/-- Expiry: once a covered lease has run out, an acquire of the name with a lease the store
accepts hands out a token, unless another acquire of the name handed one out in between. -/
def Expires (Covered : Nat → Prop) (Accepts : Nat → Nat → Prop) : Prop :=
  ∀ s clock name lease T, Covered lease →
    (call s clock (.acquire name lease)).1 = .acquired (some T) →
    ∀ mid : List LockCall,
      let r := runLocks call mid (call s clock (.acquire name lease)).2 clock
      (∀ e ∈ r.1, e.2.1.takes name = true → e.2.2.handsOut = false) → clock + lease ≤ r.2.2 →
      ∀ lease', Accepts r.2.2 lease' → (call r.2.1 r.2.2 (.acquire name lease')).1.handsOut = true

/-- Guarded release: once an acquire handed out a token, releasing a token of the name that is
neither that one nor one handed out since answers false and changes nothing. -/
def GuardsRelease : Prop :=
  ∀ s clock name lease T, (call s clock (.acquire name lease)).1 = .acquired (some T) →
    ∀ (mid : List LockCall) (T' : LockToken),
      let r := runLocks call mid (call s clock (.acquire name lease)).2 clock
      T'.name = name → key T' ≠ key T → key T' ∉ (handedOut r.1).map key →
      call r.2.1 r.2.2 (.release T') = (.released false, r.2.1)

/-- Within a covered lease that was not released, releasing the holder's token answers true and
frees the name for an acquire with a lease the store accepts. -/
def ReleaseFrees (Covered : Nat → Prop) (Accepts : Nat → Nat → Prop) : Prop :=
  ∀ s clock name lease T, Covered lease →
    (call s clock (.acquire name lease)).1 = .acquired (some T) →
    ∀ mid : List LockCall,
      let r := runLocks call mid (call s clock (.acquire name lease)).2 clock
      ¬ Released key r.1 (key T) → r.2.2 < clock + lease →
      (call r.2.1 r.2.2 (.release T)).1 = .released true ∧
        ∀ lease', Accepts r.2.2 lease' →
          (call (call r.2.1 r.2.2 (.release T)).2 r.2.2 (.acquire name lease')).1.handsOut = true

/-- The tokens every run hands out are pairwise distinct. -/
def FreshTokens : Prop :=
  ∀ cs s clock, ((handedOut (runLocks call cs s clock).1).map key).Nodup

/-- The laws of a lock store, for the leases it covers and the new leases it accepts. -/
def LockLaws (Covered : Nat → Prop) (Accepts : Nat → Nat → Prop) : Prop :=
  Excludes call key Covered ∧ Expires call Covered Accepts ∧ GuardsRelease call key ∧
    ReleaseFrees call key Covered Accepts ∧ FreshTokens call key

end Runs

namespace MemoryKv

/-- One call to the lock store in memory at monotonic time `clock`: taking a free name with a
lease whose end the clock cannot hold stops the program. -/
def lockCall (kv : MemoryKv) (clock : Nat) : LockCall → LockAnswer × MemoryKv
  | .acquire name lease =>
    if kv.leaseOverflows name lease clock then (.stopped, kv)
    else (.acquired (kv.tryAcquire name lease clock).2, (kv.tryAcquire name lease clock).1)
  | .release t => (.released (kv.release t).2, (kv.release t).1)
  | .wait _ => (.waited, kv)

theorem find?_filter_ne {β : Type} (l : List (String × β)) {a b : String} (h : a ≠ b) :
    (l.filter (·.1 != b)).find? (·.1 == a) = l.find? (·.1 == a) := by
  induction l with
  | nil => rfl
  | cons x l ih =>
    by_cases hxb : x.1 = b
    · have hxa : x.1 ≠ a := fun hxa => h (hxa ▸ hxb)
      rw [List.filter_cons_of_neg (by simpa using hxb), ih,
        List.find?_cons_of_neg (by simpa using hxa)]
    · rw [List.filter_cons_of_pos (by simpa using hxb), List.find?_cons, List.find?_cons, ih]

theorem find?_filter_self {β : Type} (l : List (String × β)) (b : String) :
    (l.filter (·.1 != b)).find? (·.1 == b) = none := by
  rw [List.find?_eq_none]
  intro x hx
  simp only [List.mem_filter, bne_iff_ne, ne_eq] at hx
  simpa using hx.2

theorem isLocked_of_lock? {kv : MemoryKv} {n : String} {h : Holder} {e : Nat}
    (hl : kv.lock? n = some (h, e)) (clock : Nat) : kv.isLocked n clock = decide (clock < e) := by
  simp [isLocked, hl]

theorem isLocked_of_lock?_none {kv : MemoryKv} {n : String} (hl : kv.lock? n = none)
    (clock : Nat) : kv.isLocked n clock = false := by
  simp [isLocked, hl]

theorem lock?_tryAcquire (kv : MemoryKv) (name n : String) (lease clock : Nat) :
    (kv.tryAcquire name lease clock).1.lock? n =
      if kv.isLocked name clock = false ∧ name = n then some (.issued (kv.issued + 1), clock + lease)
      else kv.lock? n := by
  unfold tryAcquire
  by_cases hlocked : kv.isLocked name clock = true
  · simp [hlocked]
  · simp only [hlocked, Bool.false_eq_true, ↓reduceIte, lock?, List.find?_append]
    by_cases hn : name = n
    · subst hn
      rw [find?_filter_self]
      simp
    · rw [find?_filter_ne _ (Ne.symm hn)]
      cases kv.locks.find? (·.1 == n) <;> simp [hn]

theorem tryAcquire_token (kv : MemoryKv) (name : String) (lease clock : Nat) :
    (kv.tryAcquire name lease clock).2 =
      if kv.isLocked name clock then none else some { name, holder := .issued (kv.issued + 1) } := by
  unfold tryAcquire
  split <;> rfl

theorem tryAcquire_issued (kv : MemoryKv) (name : String) (lease clock : Nat) :
    (kv.tryAcquire name lease clock).1.issued =
      if kv.isLocked name clock then kv.issued else kv.issued + 1 := by
  unfold tryAcquire
  split <;> rfl

/-- Releasing answers whether the token holds the name's entry; only then the entry goes, and
nothing else changes. -/
theorem release_eq (kv : MemoryKv) (t : LockToken) :
    kv.release t = if (kv.lock? t.name).map (·.1) = some t.holder
      then ({ kv with locks := kv.locks.filter (·.1 != t.name) }, true) else (kv, false) := by
  unfold release
  rcases hl : kv.lock? t.name with _ | ⟨h, e⟩
  · simp
  · by_cases hh : h = t.holder <;> simp [hh]

theorem issued_release (kv : MemoryKv) (t : LockToken) : (kv.release t).1.issued = kv.issued := by
  rw [release_eq]
  split <;> rfl

theorem lock?_release (kv : MemoryKv) (t : LockToken) (n : String) :
    (kv.release t).1.lock? n =
      if (kv.lock? t.name).map (·.1) = some t.holder ∧ t.name = n then none else kv.lock? n := by
  rw [release_eq]
  by_cases hheld : (kv.lock? t.name).map (·.1) = some t.holder
  · simp only [hheld, ↓reduceIte, true_and]
    by_cases hn : t.name = n
    · subst hn
      simp only [lock?, find?_filter_self, Option.map_none, ite_true]
    · simp [lock?, find?_filter_ne _ (Ne.symm hn), hn]
  · simp [hheld]

theorem lockCall_acquire_held {kv : MemoryKv} {name : String} {clock : Nat}
    (h : kv.isLocked name clock = true) (lease : Nat) :
    kv.lockCall clock (.acquire name lease) = (.acquired none, kv) := by
  simp [lockCall, leaseOverflows, h, tryAcquire]

theorem lockCall_acquire_free {kv : MemoryKv} {name : String} {lease clock : Nat}
    (h : kv.isLocked name clock = false) (hfits : leaseEndFits clock lease = true) :
    kv.lockCall clock (.acquire name lease) =
      (.acquired (some { name, holder := .issued (kv.issued + 1) }),
        (kv.tryAcquire name lease clock).1) := by
  simp [lockCall, leaseOverflows, h, hfits, tryAcquire_token]

theorem lockCall_acquire_some {kv : MemoryKv} {name : String} {lease clock : Nat} {T : LockToken}
    (h : (kv.lockCall clock (.acquire name lease)).1 = .acquired (some T)) :
    kv.isLocked name clock = false ∧ T = { name, holder := .issued (kv.issued + 1) } ∧
      (kv.lockCall clock (.acquire name lease)).2 = (kv.tryAcquire name lease clock).1 := by
  by_cases hover : kv.leaseOverflows name lease clock = true
  · simp [lockCall, hover] at h
  · have hstate : (kv.lockCall clock (.acquire name lease)).2 = (kv.tryAcquire name lease clock).1 := by
      simp [lockCall, hover]
    simp only [lockCall, hover, Bool.false_eq_true, ↓reduceIte, LockAnswer.acquired.injEq,
      tryAcquire_token] at h
    by_cases hlocked : kv.isLocked name clock = true
    · simp [hlocked] at h
    · simp only [hlocked, Bool.false_eq_true, ↓reduceIte, Option.some.injEq] at h
      exact ⟨by simpa using hlocked, h.symm, hstate⟩

theorem lockCall_keeps_entry {kv : MemoryKv} {name : String} {h : Holder} {e clock : Nat}
    (hl : kv.lock? name = some (h, e)) (hc : clock < e) (c : LockCall)
    (hok : ¬ (c = .release ⟨name, h⟩ ∧ (kv.lockCall clock c).1 = .released true)) :
    (kv.lockCall clock c).2.lock? name = some (h, e) := by
  have hheld : kv.isLocked name clock = true := by simp [isLocked_of_lock? hl, hc]
  cases c with
  | acquire m lease =>
    by_cases hover : kv.leaseOverflows m lease clock = true
    · simpa [lockCall, hover] using hl
    · simp only [lockCall, hover, Bool.false_eq_true, ↓reduceIte, lock?_tryAcquire]
      by_cases hm : m = name
      · subst hm
        simp [hheld, hl]
      · simp [hm, hl]
  | release t =>
    simp only [lockCall, lock?_release]
    by_cases hfree : (kv.lock? t.name).map (·.1) = some t.holder ∧ t.name = name
    · -- only the holder's own token frees the entry, and the run keeps that release out
      obtain ⟨hheld', hname⟩ := hfree
      have ht : t = ⟨name, h⟩ := by
        rw [hname, hl] at hheld'
        cases t
        simp_all
      have hanswer : (kv.release t).2 = true := by
        rw [release_eq]
        simp [hheld']
      exact absurd ⟨by rw [ht], by simp [lockCall, hanswer]⟩ hok
    · rw [if_neg hfree]
      exact hl
  | wait ms => simpa [lockCall] using hl

/-- A call other than an acquire of the name that hands out a token leaves the name's entry to
its holder or frees it. -/
theorem lockCall_entry_or_free {kv : MemoryKv} {name : String} {h : Holder} {e clock : Nat}
    (hl : kv.lock? name = some (h, e) ∨ kv.lock? name = none) (c : LockCall)
    (hok : c.takes name = true → (kv.lockCall clock c).1.handsOut = false) :
    (kv.lockCall clock c).2.lock? name = some (h, e) ∨ (kv.lockCall clock c).2.lock? name = none := by
  cases c with
  | acquire m lease =>
    by_cases hover : kv.leaseOverflows m lease clock = true
    · simpa [lockCall, hover] using hl
    · simp only [lockCall, hover, Bool.false_eq_true, ↓reduceIte, lock?_tryAcquire]
      by_cases hm : m = name
      · subst hm
        have hheld : kv.isLocked m clock = true := by
          have := hok (by simp [LockCall.takes])
          simpa [lockCall, hover, LockAnswer.handsOut, LockAnswer.token?, tryAcquire_token] using this
        simpa [hheld] using hl
      · simpa [hm] using hl
  | release t =>
    simp only [lockCall, lock?_release]
    split
    · exact .inr rfl
    · exact hl
  | wait ms => simpa [lockCall] using hl

theorem lockCall_entry_handed {kv : MemoryKv} {name : String} {hs : List LockToken}
    (hP : ∀ h e, kv.lock? name = some (h, e) → ⟨name, h⟩ ∈ hs) (clock : Nat) (c : LockCall) :
    ∀ h e, (kv.lockCall clock c).2.lock? name = some (h, e) →
      ⟨name, h⟩ ∈ hs ++ (kv.lockCall clock c).1.token?.toList := by
  intro h e hl
  cases c with
  | acquire m lease =>
    by_cases hover : kv.leaseOverflows m lease clock = true
    · simp only [lockCall, hover, ↓reduceIte] at hl ⊢
      exact List.mem_append_left _ (hP h e hl)
    · simp only [lockCall, hover, Bool.false_eq_true, ↓reduceIte, lock?_tryAcquire] at hl ⊢
      by_cases hnew : kv.isLocked m clock = false ∧ m = name
      · -- the entry is the one just set, for the token handed out
        obtain ⟨hfree, rfl⟩ := hnew
        simp only [hfree, and_self, ↓reduceIte, Option.some.injEq, Prod.mk.injEq] at hl
        obtain ⟨rfl, rfl⟩ := hl
        simp [tryAcquire_token, hfree, LockAnswer.token?]
      · rw [if_neg hnew] at hl
        exact List.mem_append_left _ (hP h e hl)
  | release t =>
    simp only [lockCall, lock?_release] at hl ⊢
    split at hl
    · simp at hl
    · exact List.mem_append_left _ (hP h e hl)
  | wait ms =>
    simp only [lockCall] at hl ⊢
    exact List.mem_append_left _ (hP h e hl)

theorem lockCall_fresh {kv : MemoryKv} {hs : List LockToken}
    (hP : hs.Nodup ∧ ∀ t ∈ hs, ∃ j, t.holder = .issued j ∧ j ≤ kv.issued) (clock : Nat)
    (c : LockCall) :
    (hs ++ (kv.lockCall clock c).1.token?.toList).Nodup ∧
      ∀ t ∈ hs ++ (kv.lockCall clock c).1.token?.toList,
        ∃ j, t.holder = .issued j ∧ j ≤ (kv.lockCall clock c).2.issued := by
  obtain ⟨hnodup, hbound⟩ := hP
  cases c with
  | acquire m lease =>
    by_cases hover : kv.leaseOverflows m lease clock = true
    · simpa [lockCall, hover, LockAnswer.token?] using ⟨hnodup, hbound⟩
    · simp only [lockCall, hover, Bool.false_eq_true, ↓reduceIte, LockAnswer.token?,
        tryAcquire_token, tryAcquire_issued]
      by_cases hlocked : kv.isLocked m clock = true
      · simpa [hlocked] using ⟨hnodup, hbound⟩
      · -- the new token is numbered past every token handed out before it
        have hfresh : (⟨m, .issued (kv.issued + 1)⟩ : LockToken) ∉ hs := by
          intro hin
          obtain ⟨j, hj, hle⟩ := hbound _ hin
          simp only [Holder.issued.injEq] at hj
          omega
        simp only [hlocked, Bool.false_eq_true, ↓reduceIte, Option.toList_some]
        refine ⟨List.nodup_append.mpr ⟨hnodup, List.nodup_singleton _, ?_⟩, ?_⟩
        · intro a ha b hb
          simp only [List.mem_singleton] at hb
          exact fun hab => hfresh (hb ▸ hab ▸ ha)
        · intro t ht
          rcases List.mem_append.mp ht with ht | ht
          · obtain ⟨j, hj, hle⟩ := hbound t ht
            exact ⟨j, hj, by omega⟩
          · simp only [List.mem_singleton] at ht
            exact ⟨kv.issued + 1, by rw [ht], le_refl _⟩
  | release t =>
    simpa [lockCall, LockAnswer.token?, issued_release] using ⟨hnodup, hbound⟩
  | wait ms => simpa [lockCall, LockAnswer.token?] using ⟨hnodup, hbound⟩

end MemoryKv

section Memory

open MemoryKv

/-- The store in memory accepts a lease whose end its clock holds. -/
def memoryAccepts (clock lease : Nat) : Prop := leaseEndFits clock lease = true

theorem memory_holder_entry {kv : MemoryKv} {clock lease : Nat} {name : String} {T : LockToken}
    (hacq : (kv.lockCall clock (.acquire name lease)).1 = .acquired (some T)) (mid : List LockCall)
    (hkeep : ¬ Released id (runLocks lockCall mid (kv.lockCall clock (.acquire name lease)).2 clock).1 T)
    (hearly : (runLocks lockCall mid (kv.lockCall clock (.acquire name lease)).2 clock).2.2 <
      clock + lease) :
    (runLocks lockCall mid (kv.lockCall clock (.acquire name lease)).2 clock).2.1.lock? name =
      some (T.holder, clock + lease) := by
  obtain ⟨hfree, rfl, hstate⟩ := lockCall_acquire_some hacq
  refine runLocks_inv lockCall
    (fun kv' c => c < clock + lease → kv'.lock? name = some (.issued (kv.issued + 1), clock + lease))
    (fun e => ¬ (e.2.1 = .release ⟨name, .issued (kv.issued + 1)⟩ ∧ e.2.2 = .released true))
    (fun kv' c call hP hok hlt =>
      have hc : c < clock + lease := lt_of_le_of_lt (call.le_after c) hlt
      lockCall_keeps_entry (hP hc) hc call hok)
    mid _ clock (fun _ => ?_) (fun e he hrel => hkeep ⟨e, he, _, hrel.1, rfl, hrel.2⟩) hearly
  rw [hstate, lock?_tryAcquire]
  simp [hfree]

theorem memory_excludes : Excludes lockCall id (fun _ => True) := by
  intro kv clock name lease T _ hacq mid r hkeep hearly lease'
  have hentry : r.2.1.lock? name = some (T.holder, clock + lease) :=
    memory_holder_entry hacq mid hkeep hearly
  have hheld : r.2.1.isLocked name r.2.2 = true := by
    rw [isLocked_of_lock? hentry]
    simpa using hearly
  rw [lockCall_acquire_held hheld]
  rfl

theorem memory_expires : Expires lockCall (fun _ => True) memoryAccepts := by
  intro kv clock name lease T _ hacq mid r hquiet hlate lease' hfits
  obtain ⟨hfree, rfl, hstate⟩ := lockCall_acquire_some hacq
  have hentry := runLocks_inv lockCall
    (fun kv' _ => kv'.lock? name = some (.issued (kv.issued + 1), clock + lease) ∨
      kv'.lock? name = none)
    (fun e => e.2.1.takes name = true → e.2.2.handsOut = false)
    (fun _ _ call hP hok => lockCall_entry_or_free hP call hok)
    mid _ clock (.inl (by rw [hstate, lock?_tryAcquire]; simp [hfree])) hquiet
  have hfree' : r.2.1.isLocked name r.2.2 = false := by
    rcases hentry with h | h
    · rw [isLocked_of_lock? h]
      simpa using hlate
    · exact isLocked_of_lock?_none h _
  rw [lockCall_acquire_free hfree' hfits]
  rfl

theorem memory_guards_release : GuardsRelease lockCall id := by
  intro kv clock name lease T hacq mid T' r hname hne hfresh
  obtain ⟨hfree, rfl, hstate⟩ := lockCall_acquire_some hacq
  have hentry := runLocks_handed lockCall
    (fun kv' _ hs => ∀ h e, kv'.lock? name = some (h, e) → ⟨name, h⟩ ∈ hs)
    (fun kv' c call hs hP => lockCall_entry_handed hP c call)
    mid (kv.lockCall clock (.acquire name lease)).2 clock [⟨name, .issued (kv.issued + 1)⟩]
    (fun h e hl => by
      rw [hstate, lock?_tryAcquire] at hl
      simp only [hfree, and_self, ↓reduceIte, Option.some.injEq, Prod.mk.injEq] at hl
      simp [hl.1])
  have hnot : (r.2.1.lock? T'.name).map (·.1) ≠ some T'.holder := by
    intro hheld
    obtain ⟨⟨h, e⟩, hl, hh⟩ := Option.map_eq_some_iff.mp hheld
    rw [hname] at hl
    have hmem := hentry h e hl
    have hT' : T' = ⟨name, h⟩ := by
      cases T'
      simp_all
    rw [← hT'] at hmem
    rcases List.mem_append.mp hmem with hmem | hmem
    · exact hne (by simpa using hmem)
    · exact hfresh (by simpa using hmem)
  have hrel : r.2.1.release T' = (r.2.1, false) := by
    rw [release_eq, if_neg hnot]
  simp only [lockCall, hrel]

theorem memory_release_frees : ReleaseFrees lockCall id (fun _ => True) memoryAccepts := by
  intro kv clock name lease T _ hacq mid r hkeep hearly
  have hentry : r.2.1.lock? name = some (T.holder, clock + lease) :=
    memory_holder_entry hacq mid hkeep hearly
  obtain ⟨_, rfl, _⟩ := lockCall_acquire_some hacq
  have hheld : (r.2.1.lock? name).map (·.1) = some (Holder.issued (kv.issued + 1)) := by
    simp [hentry]
  refine ⟨by simp [lockCall, release_eq, hheld], fun lease' hfits => ?_⟩
  have hnone : (r.2.1.lockCall r.2.2 (.release ⟨name, .issued (kv.issued + 1)⟩)).2.lock? name =
      none := by
    simp [lockCall, lock?_release, hheld]
  rw [lockCall_acquire_free (isLocked_of_lock?_none hnone _) hfits]
  rfl

theorem memory_fresh_tokens : FreshTokens lockCall id := by
  intro cs kv clock
  have h := runLocks_handed lockCall
    (fun kv' _ hs => hs.Nodup ∧ ∀ t ∈ hs, ∃ j, t.holder = .issued j ∧ j ≤ kv'.issued)
    (fun kv' c call hs hP => lockCall_fresh hP c call)
    cs kv clock [] ⟨List.nodup_nil, by simp⟩
  simpa using h.1

theorem memory_lock_laws : LockLaws lockCall id (fun _ => True) memoryAccepts :=
  ⟨memory_excludes, memory_expires, memory_guards_release, memory_release_frees,
    memory_fresh_tokens⟩

end Memory


/-! ### The store in Redis -/

namespace RedisServer

variable {σ : Type} (S : RedisServer σ)

/-- From `now` on, the keyspace `s'` reads key `k` as `value` says and every other key as `s`
does: what a command that only touches `k` leaves behind. -/
def Sets (k : String) (value : Nat → Option String) (now : Nat) (s s' : σ) : Prop :=
  ∀ k' t, now ≤ t → S.get k' t s' = if k' = k then value t else S.get k' t s

end RedisServer

/-- What the lock store needs of a Redis server, read at the server's time `now` in milliseconds.
`SET NX PX` refuses an expiry that is not positive or that ends past the server's signed 64-bit
clock, leaves a key that is there, and sets an absent key until its expiry ends; `DEL` removes a
key that is there. Neither touches another key. -/
structure LockCommands {σ : Type} (S : RedisServer σ) : Prop where
  setNxPx_refused : ∀ k v px now s, (px = 0 ∨ 2 ^ 63 ≤ now + px) →
    ∃ e, S.setNxPx k v px now s = (.error e, s)
  setNxPx_held : ∀ k v px now s, 0 < px → now + px < 2 ^ 63 → S.get k now s ≠ none →
    S.setNxPx k v px now s = (.ok false, s)
  setNxPx_absent : ∀ k v px now s, 0 < px → now + px < 2 ^ 63 → S.get k now s = none →
    (S.setNxPx k v px now s).1 = .ok true ∧
      S.Sets k (fun t => if t < now + px then some v else none) now s (S.setNxPx k v px now s).2
  del_present : ∀ k now s, S.get k now s ≠ none →
    (S.del k now s).1 = 1 ∧ S.Sets k (fun _ => none) now s (S.del k now s).2

theorem LockCommands.setNxPx_kept {σ : Type} {S : RedisServer σ} (hS : LockCommands S)
    {k v : String} {px now : Nat} {s : σ} (h : S.get k now s ≠ none ∨ ¬ (0 < px ∧ now + px < 2 ^ 63)) :
    ∃ reply, reply ≠ .ok true ∧ S.setNxPx k v px now s = (reply, s) := by
  by_cases hacc : 0 < px ∧ now + px < 2 ^ 63
  · have hheld : S.get k now s ≠ none := h.resolve_right (not_not.mpr hacc)
    exact ⟨.ok false, by simp, hS.setNxPx_held k v px now s hacc.1 hacc.2 hheld⟩
  · obtain ⟨e, he⟩ := hS.setNxPx_refused k v px now s (by omega)
    exact ⟨.error e, by simp, he⟩

/-- Redis takes a lease whose low 64 bits are a positive expiry that ends within its clock. -/
def RedisStore.Accepts (now lease : Nat) : Prop :=
  0 < lease % 2 ^ 64 ∧ now + lease % 2 ^ 64 < 2 ^ 63

theorem lockKey_injective {a b : String} (h : lockKey a = lockKey b) : a = b :=
  (String.append_right_inj _).mp h

namespace RedisStore

variable {σ : Type} (r : RedisStore σ)

/-- The answer of an acquire, from the store's reply. -/
def acquireAnswer : Except StorageError (Option LockToken) → LockAnswer
  | .ok t => .acquired t
  | .error e => .failed e

/-- One call to the lock store in Redis at the server's time `now`. -/
def lockCall (st : RedisState σ) (now : Nat) : LockCall → LockAnswer × RedisState σ
  | .acquire name lease =>
    (acquireAnswer (r.tryAcquire name lease now st).1, (r.tryAcquire name lease now st).2)
  | .release t => (.released (r.release t now st).1, (r.release t now st).2)
  | .wait _ => (.waited, st)

/-- A token as the server tells tokens apart: the lock's name and the token's text. -/
def tokenKey (t : LockToken) : String × String := (t.name, r.tokenText t.holder)

variable {r}

theorem lockCall_acquire_free (hS : LockCommands r.server) {st : RedisState σ}
    {name : String} {lease now : Nat} (hfree : r.server.get (lockKey name) now st.server = none)
    (hacc : Accepts now lease) :
    (r.lockCall st now (.acquire name lease)).1 =
      .acquired (some { name, holder := .issued (st.generated + 1) }) := by
  have hset := (hS.setNxPx_absent (lockKey name) (r.tokenText (.issued (st.generated + 1)))
    (lease % 2 ^ 64) now st.server hacc.1 hacc.2 hfree).1
  simp only [lockCall, tryAcquire]
  rw [hset]
  rfl

/-- An acquire that finds its key there, or sends a lease Redis refuses, hands out nothing and
leaves the keyspace as it is. -/
theorem lockCall_acquire_kept (hS : LockCommands r.server) {st : RedisState σ} {name : String}
    {lease now : Nat}
    (h : r.server.get (lockKey name) now st.server ≠ none ∨ ¬ Accepts now lease) :
    (r.lockCall st now (.acquire name lease)).1.handsOut = false ∧
      (r.lockCall st now (.acquire name lease)).1 ≠ .released true ∧
      (r.lockCall st now (.acquire name lease)).2.server = st.server := by
  obtain ⟨reply, hne, hreply⟩ := hS.setNxPx_kept (v := r.tokenText (.issued (st.generated + 1))) h
  simp only [lockCall, tryAcquire]
  rw [hreply]
  rcases reply with e | _ | _
  · simp [acquireReply, acquireAnswer, LockAnswer.handsOut, LockAnswer.token?]
  · simp [acquireReply, acquireAnswer, LockAnswer.handsOut, LockAnswer.token?]
  · exact absurd rfl hne

theorem lockCall_acquire_held (hS : LockCommands r.server) {st : RedisState σ} {name : String}
    {now : Nat} (hheld : r.server.get (lockKey name) now st.server ≠ none) (lease : Nat) :
    (r.lockCall st now (.acquire name lease)).1.handsOut = false :=
  (lockCall_acquire_kept hS (.inl hheld)).1

theorem lockCall_release_held (hS : LockCommands r.server) {st : RedisState σ} {now : Nat}
    {T : LockToken} (hheld : r.server.get (lockKey T.name) now st.server = some (r.tokenText T.holder)) :
    (r.lockCall st now (.release T)).1 = .released true ∧
      r.server.Sets (lockKey T.name) (fun _ => none) now st.server
        (r.lockCall st now (.release T)).2.server := by
  obtain ⟨hone, hsets⟩ := hS.del_present (lockKey T.name) now st.server (by simp [hheld])
  have hscript : r.releaseScript (lockKey T.name) (r.tokenText T.holder) now st.server =
      r.server.del (lockKey T.name) now st.server := by
    simp [releaseScript, hheld]
  simp only [lockCall, release, hscript, hone]
  exact ⟨rfl, hsets⟩

theorem lockCall_release_other {st : RedisState σ} {now : Nat} {T : LockToken}
    (hother : r.server.get (lockKey T.name) now st.server ≠ some (r.tokenText T.holder)) :
    r.lockCall st now (.release T) = (.released false, st) := by
  have hscript : r.releaseScript (lockKey T.name) (r.tokenText T.holder) now st.server =
      (0, st.server) := by
    simp [releaseScript, hother]
  simp only [lockCall, release, hscript]
  rfl

/-- What one call does to the keyspace: an acquire that hands out a token found its key absent
and set it for the lease sent, a release that answers true found its key holding the token and
removed it, and every other call leaves the keyspace as it is. -/
theorem lockCall_cases (hS : LockCommands r.server) (st : RedisState σ) (now : Nat) (c : LockCall) :
    (∃ name lease, c = .acquire name lease ∧ r.server.get (lockKey name) now st.server = none ∧
      (r.lockCall st now c).1 = .acquired (some { name, holder := .issued (st.generated + 1) }) ∧
      (r.lockCall st now c).2.generated = st.generated + 1 ∧
      r.server.Sets (lockKey name)
        (fun t => if t < now + lease % 2 ^ 64 then some (r.uuid (st.generated + 1)) else none)
        now st.server (r.lockCall st now c).2.server) ∨
    (∃ T, c = .release T ∧
      r.server.get (lockKey T.name) now st.server = some (r.tokenText T.holder) ∧
      (r.lockCall st now c).1 = .released true ∧
      r.server.Sets (lockKey T.name) (fun _ => none) now st.server (r.lockCall st now c).2.server) ∨
    ((r.lockCall st now c).1.handsOut = false ∧ (r.lockCall st now c).1 ≠ .released true ∧
      (r.lockCall st now c).2.server = st.server) := by
  cases c with
  | acquire name lease =>
    by_cases hnew : r.server.get (lockKey name) now st.server = none ∧ Accepts now lease
    · obtain ⟨hfree, hacc⟩ := hnew
      have hsets := (hS.setNxPx_absent (lockKey name) (r.tokenText (.issued (st.generated + 1)))
        (lease % 2 ^ 64) now st.server hacc.1 hacc.2 hfree).2
      exact .inl ⟨name, lease, rfl, hfree, lockCall_acquire_free hS hfree hacc, rfl, hsets⟩
    · exact .inr (.inr (lockCall_acquire_kept hS (by tauto)))
  | release T =>
    by_cases hheld : r.server.get (lockKey T.name) now st.server = some (r.tokenText T.holder)
    · obtain ⟨hans, hsets⟩ := lockCall_release_held hS hheld
      exact .inr (.inl ⟨T, rfl, hheld, hans, hsets⟩)
    · rw [lockCall_release_other hheld]
      exact .inr (.inr ⟨rfl, by simp, rfl⟩)
  | wait ms => exact .inr (.inr ⟨rfl, by simp [lockCall], rfl⟩)

theorem lockCall_generated_le (st : RedisState σ) (now : Nat) (c : LockCall) :
    st.generated ≤ (r.lockCall st now c).2.generated := by
  cases c <;> simp [lockCall, tryAcquire, release]

/-- An acquire that hands out a token found its key absent, hands out the next token and sets
the key to its text for the lease sent. -/
theorem lockCall_acquire_some (hS : LockCommands r.server) {st : RedisState σ} {name : String}
    {lease now : Nat} {T : LockToken}
    (h : (r.lockCall st now (.acquire name lease)).1 = .acquired (some T)) :
    T = { name, holder := .issued (st.generated + 1) } ∧
      r.server.Sets (lockKey name)
        (fun t => if t < now + lease % 2 ^ 64 then some (r.uuid (st.generated + 1)) else none)
        now st.server (r.lockCall st now (.acquire name lease)).2.server := by
  rcases lockCall_cases hS st now (.acquire name lease) with
    ⟨m, l, hc, -, hans, -, hsets⟩ | ⟨T', hc, -⟩ | ⟨hout, -⟩
  · obtain ⟨rfl, rfl⟩ : name = m ∧ lease = l := by simpa using hc
    rw [hans] at h
    exact ⟨(by simpa using h.symm), hsets⟩
  · exact absurd hc (by simp)
  · simp [h, LockAnswer.handsOut, LockAnswer.token?] at hout

theorem lockCall_token_none {st : RedisState σ} {now : Nat} {c : LockCall}
    (h : (r.lockCall st now c).1.handsOut = false ∨ (r.lockCall st now c).1 = .released true) :
    (r.lockCall st now c).1.token? = none := by
  rcases h with h | h
  · simpa [LockAnswer.handsOut] using h
  · rw [h]
    rfl

/-- A call keeps a key's value until `e`, unless it is a release of that value that answers
true. -/
theorem lockCall_keeps_value (hS : LockCommands r.server) {st : RedisState σ} {now e : Nat}
    {c : LockCall} {name v : String}
    (hP : ∀ t, now ≤ t → t < e → r.server.get (lockKey name) t st.server = some v)
    (hok : ¬ ∃ T, c = .release T ∧ r.tokenKey T = (name, v) ∧
      (r.lockCall st now c).1 = .released true) :
    ∀ t, c.after now ≤ t → t < e →
      r.server.get (lockKey name) t (r.lockCall st now c).2.server = some v := by
  intro t ht hte
  rcases lockCall_cases hS st now c with
    ⟨m, lease, rfl, hfree, -, -, hsets⟩ | ⟨T, rfl, hheld, hans, hsets⟩ | ⟨-, -, hsame⟩
  · -- the acquire found its key absent, so while the value holds it set another key
    have hk : lockKey name ≠ lockKey m := by
      intro hk
      have hv := hP now le_rfl (lt_of_le_of_lt ht hte)
      rw [hk, hfree] at hv
      exact absurd hv (by simp)
    rw [hsets _ t ht, if_neg hk]
    exact hP t ht hte
  · -- a release that answers true while the value holds released that value
    have hk : lockKey name ≠ lockKey T.name := by
      intro hk
      have hv := hP now le_rfl (lt_of_le_of_lt ht hte)
      rw [hk, hheld, Option.some.injEq] at hv
      exact hok ⟨T, rfl, by simp [tokenKey, lockKey_injective hk, hv], hans⟩
    rw [hsets _ t ht, if_neg hk]
    exact hP t ht hte
  · rw [hsame]
    exact hP t (le_trans (c.le_after now) ht) hte

/-- A call keeps a key absent from `e` on, unless it is an acquire of the name that hands out a
token. -/
theorem lockCall_keeps_absent (hS : LockCommands r.server) {st : RedisState σ} {now e : Nat}
    {c : LockCall} {name : String}
    (hP : ∀ t, now ≤ t → e ≤ t → r.server.get (lockKey name) t st.server = none)
    (hok : c.takes name = true → (r.lockCall st now c).1.handsOut = false) :
    ∀ t, c.after now ≤ t → e ≤ t → r.server.get (lockKey name) t (r.lockCall st now c).2.server = none := by
  intro t ht het
  rcases lockCall_cases hS st now c with
    ⟨m, lease, rfl, -, hans, -, hsets⟩ | ⟨T, rfl, -, -, hsets⟩ | ⟨-, -, hsame⟩
  · have hk : lockKey name ≠ lockKey m := by
      intro hk
      have hout := hok (by simp [LockCall.takes, lockKey_injective hk])
      simp [hans, LockAnswer.handsOut, LockAnswer.token?] at hout
    rw [hsets _ t ht, if_neg hk]
    exact hP t ht het
  · rw [hsets _ t ht]
    split
    · rfl
    · exact hP t ht het
  · rw [hsame]
    exact hP t (le_trans (c.le_after now) ht) het

theorem lockCall_value_handed (hS : LockCommands r.server) {st : RedisState σ} {now : Nat}
    {c : LockCall} {name : String} {hs : List LockToken}
    (hP : ∀ t v, now ≤ t → r.server.get (lockKey name) t st.server = some v →
      (name, v) ∈ hs.map r.tokenKey) :
    ∀ t v, c.after now ≤ t → r.server.get (lockKey name) t (r.lockCall st now c).2.server = some v →
      (name, v) ∈ (hs ++ (r.lockCall st now c).1.token?.toList).map r.tokenKey := by
  intro t v ht hv
  rcases lockCall_cases hS st now c with
    ⟨m, lease, rfl, -, hans, -, hsets⟩ | ⟨T, rfl, -, hans, hsets⟩ | ⟨hout, -, hsame⟩
  · rw [hsets _ t ht] at hv
    by_cases hk : lockKey name = lockKey m
    · -- the key holds the text of the token this acquire hands out
      rw [if_pos hk] at hv
      have hm := lockKey_injective hk
      subst hm
      have hval : r.uuid (st.generated + 1) = v := by
        dsimp only at hv
        split at hv
        · simpa using hv
        · simp at hv
      simp [hans, LockAnswer.token?, tokenKey, tokenText, hval]
    · rw [if_neg hk] at hv
      rw [List.map_append]
      exact List.mem_append_left _ (hP t v ht hv)
  · rw [hsets _ t ht] at hv
    split at hv
    · simp at hv
    · rw [lockCall_token_none (.inr hans), Option.toList_none, List.append_nil]
      exact hP t v ht hv
  · rw [hsame] at hv
    rw [lockCall_token_none (.inl hout), Option.toList_none, List.append_nil]
    exact hP t v (le_trans (c.le_after now) ht) hv

/-- With fresh token texts, a call keeps the texts of the tokens handed out so far distinct and
numbered at most the count of tokens generated. -/
theorem lockCall_fresh (hS : LockCommands r.server) (hinj : Function.Injective r.uuid)
    {st : RedisState σ} {hs : List LockToken}
    (hP : (hs.map r.tokenKey).Nodup ∧ ∀ T ∈ hs, ∃ j, T.holder = .issued j ∧ j ≤ st.generated)
    (now : Nat) (c : LockCall) :
    ((hs ++ (r.lockCall st now c).1.token?.toList).map r.tokenKey).Nodup ∧
      ∀ T ∈ hs ++ (r.lockCall st now c).1.token?.toList,
        ∃ j, T.holder = .issued j ∧ j ≤ (r.lockCall st now c).2.generated := by
  obtain ⟨hnodup, hbound⟩ := hP
  have hquiet : (r.lockCall st now c).1.token? = none →
      ((hs ++ (r.lockCall st now c).1.token?.toList).map r.tokenKey).Nodup ∧
        ∀ T ∈ hs ++ (r.lockCall st now c).1.token?.toList,
          ∃ j, T.holder = .issued j ∧ j ≤ (r.lockCall st now c).2.generated := by
    intro hnone
    rw [hnone, Option.toList_none, List.append_nil]
    exact ⟨hnodup, fun T hT => (hbound T hT).imp fun j hj =>
      ⟨hj.1, le_trans hj.2 (lockCall_generated_le st now c)⟩⟩
  rcases lockCall_cases hS st now c with
    ⟨m, lease, -, -, hans, hgen, -⟩ | ⟨T, -, -, hans, -⟩ | ⟨hout, -, -⟩
  · rw [hans, hgen]
    -- the new token's text is generated past every text handed out before it
    have hfresh : r.tokenKey { name := m, holder := .issued (st.generated + 1) } ∉ hs.map r.tokenKey := by
      intro hin
      obtain ⟨T, hT, hkey⟩ := List.mem_map.mp hin
      obtain ⟨j, hj, hle⟩ := hbound T hT
      have huuid : r.uuid j = r.uuid (st.generated + 1) := by
        simpa [tokenKey, tokenText, hj] using congrArg Prod.snd hkey
      have := hinj huuid
      omega
    simp only [LockAnswer.token?, Option.toList_some, List.map_append, List.map_cons, List.map_nil]
    refine ⟨List.nodup_append.mpr ⟨hnodup, List.nodup_singleton _, ?_⟩, ?_⟩
    · intro a ha b hb
      simp only [List.mem_singleton] at hb
      exact fun hab => hfresh (hb ▸ hab ▸ ha)
    · intro T hT
      rcases List.mem_append.mp hT with hT | hT
      · obtain ⟨j, hj, hle⟩ := hbound T hT
        exact ⟨j, hj, by omega⟩
      · simp only [List.mem_singleton] at hT
        exact ⟨st.generated + 1, by rw [hT], le_refl _⟩
  · exact hquiet (lockCall_token_none (.inr hans))
  · exact hquiet (lockCall_token_none (.inl hout))

end RedisStore

section Redis

open RedisStore

variable {σ : Type} {r : RedisStore σ}

/-- Until a covered lease ends, a token that was not released keeps its text under the name's
key. -/
theorem redis_holder_value (hS : LockCommands r.server) {st : RedisState σ} {clock lease : Nat}
    {name : String} {T : LockToken} (hcov : lease < 2 ^ 64)
    (hacq : (r.lockCall st clock (.acquire name lease)).1 = .acquired (some T)) (mid : List LockCall)
    (hkeep : ¬ Released r.tokenKey
      (runLocks r.lockCall mid (r.lockCall st clock (.acquire name lease)).2 clock).1 (r.tokenKey T)) :
    ∀ t, (runLocks r.lockCall mid (r.lockCall st clock (.acquire name lease)).2 clock).2.2 ≤ t →
      t < clock + lease →
      r.server.get (lockKey name) t
        (runLocks r.lockCall mid (r.lockCall st clock (.acquire name lease)).2 clock).2.1.server =
        some (r.tokenText T.holder) := by
  obtain ⟨rfl, hsets⟩ := lockCall_acquire_some hS hacq
  have hlease : lease % 2 ^ 64 = lease := Nat.mod_eq_of_lt hcov
  refine runLocks_inv r.lockCall
    (fun st' now => ∀ t, now ≤ t → t < clock + lease →
      r.server.get (lockKey name) t st'.server = some (r.uuid (st.generated + 1)))
    (fun e => ¬ ∃ T', e.2.1 = .release T' ∧ r.tokenKey T' = (name, r.uuid (st.generated + 1)) ∧
      e.2.2 = .released true)
    (fun _ _ _ hP hok => lockCall_keeps_value hS hP hok)
    mid _ clock (fun t h1 h2 => ?_) (fun e he h => hkeep ⟨e, he, h⟩)
  rw [hsets _ t h1, if_pos rfl, hlease]
  exact if_pos h2

theorem redis_excludes (hS : LockCommands r.server) :
    Excludes r.lockCall r.tokenKey (· < 2 ^ 64) := by
  intro st clock name lease T hcov hacq mid run hkeep hearly lease'
  have hval : r.server.get (lockKey name) run.2.2 run.2.1.server = some (r.tokenText T.holder) :=
    redis_holder_value hS hcov hacq mid hkeep run.2.2 le_rfl hearly
  exact lockCall_acquire_held hS (by simp [hval]) lease'

theorem redis_expires (hS : LockCommands r.server) :
    Expires r.lockCall (· < 2 ^ 64) Accepts := by
  intro st clock name lease T hcov hacq mid run hquiet hlate lease' hacc
  obtain ⟨rfl, hsets⟩ := lockCall_acquire_some hS hacq
  have hlease : lease % 2 ^ 64 = lease := Nat.mod_eq_of_lt hcov
  have habsent := runLocks_inv r.lockCall
    (fun st' now => ∀ t, now ≤ t → clock + lease ≤ t → r.server.get (lockKey name) t st'.server = none)
    (fun e => e.2.1.takes name = true → e.2.2.handsOut = false)
    (fun _ _ _ hP hok => lockCall_keeps_absent hS hP hok)
    mid _ clock (fun t h1 h2 => by
      rw [hsets _ t h1, if_pos rfl, hlease]
      exact if_neg (by omega)) hquiet
  rw [lockCall_acquire_free hS (habsent run.2.2 le_rfl hlate) hacc]
  rfl

theorem redis_guards_release (hS : LockCommands r.server) : GuardsRelease r.lockCall r.tokenKey := by
  intro st clock name lease T hacq mid T' run hname hne hfresh
  obtain ⟨rfl, hsets⟩ := lockCall_acquire_some hS hacq
  have hvalues := runLocks_handed r.lockCall
    (fun st' now hs => ∀ t v, now ≤ t → r.server.get (lockKey name) t st'.server = some v →
      (name, v) ∈ hs.map r.tokenKey)
    (fun _ _ _ _ hP => lockCall_value_handed hS hP)
    mid (r.lockCall st clock (.acquire name lease)).2 clock [⟨name, .issued (st.generated + 1)⟩]
    (fun t v h1 hv => by
      rw [hsets _ t h1, if_pos rfl] at hv
      dsimp only at hv
      split at hv
      · simp only [Option.some.injEq] at hv
        simp [tokenKey, tokenText, hv]
      · simp at hv)
  have hother : r.server.get (lockKey T'.name) run.2.2 run.2.1.server ≠ some (r.tokenText T'.holder) := by
    intro hheld
    rw [hname] at hheld
    have hmem := hvalues run.2.2 _ le_rfl hheld
    have hkey : r.tokenKey T' = (name, r.tokenText T'.holder) := by simp [tokenKey, hname]
    rw [← hkey, List.map_append] at hmem
    rcases List.mem_append.mp hmem with h | h
    · exact hne (by simpa using h)
    · exact hfresh h
  exact lockCall_release_other hother

theorem redis_release_frees (hS : LockCommands r.server) :
    ReleaseFrees r.lockCall r.tokenKey (· < 2 ^ 64) Accepts := by
  intro st clock name lease T hcov hacq mid run hkeep hearly
  have hval : r.server.get (lockKey name) run.2.2 run.2.1.server = some (r.tokenText T.holder) :=
    redis_holder_value hS hcov hacq mid hkeep run.2.2 le_rfl hearly
  obtain ⟨rfl, -⟩ := lockCall_acquire_some hS hacq
  obtain ⟨hans, hsets⟩ := lockCall_release_held (T := ⟨name, .issued (st.generated + 1)⟩) hS hval
  refine ⟨hans, fun lease' hacc => ?_⟩
  have hfree : r.server.get (lockKey name) run.2.2
      (r.lockCall run.2.1 run.2.2 (.release ⟨name, .issued (st.generated + 1)⟩)).2.server = none := by
    rw [hsets _ _ le_rfl, if_pos rfl]
  rw [lockCall_acquire_free hS hfree hacc]
  rfl

theorem redis_fresh_tokens (hS : LockCommands r.server) (hinj : Function.Injective r.uuid) :
    FreshTokens r.lockCall r.tokenKey := by
  intro cs st clock
  have h := runLocks_handed r.lockCall
    (fun st' _ hs => (hs.map r.tokenKey).Nodup ∧
      ∀ T ∈ hs, ∃ j, T.holder = .issued j ∧ j ≤ st'.generated)
    (fun _ now c _ hP => lockCall_fresh hS hinj hP now c)
    cs st clock [] ⟨List.nodup_nil, by simp⟩
  simpa using h.1

/-- On a server with Redis's semantics and with fresh token texts, the store in Redis keeps every
law for every lease below 2^64 milliseconds. -/
theorem redis_lock_laws (hS : LockCommands r.server) (hinj : Function.Injective r.uuid) :
    LockLaws r.lockCall r.tokenKey (· < 2 ^ 64) Accepts :=
  ⟨redis_excludes hS, redis_expires hS, redis_guards_release hS, redis_release_frees hS,
    redis_fresh_tokens hS hinj⟩

end Redis

/-! ### A keyspace that answers as Redis does -/

/-- A Redis keyspace: each key's value, with the time its expiry falls at when it has one. -/
def Keyspace := String → Option (String × Option Nat)

namespace Keyspace

/-- An entry's value at time `now`: gone once its expiry has come. -/
def valueAt : Option (String × Option Nat) → Nat → Option String
  | some (v, some e), now => if now < e then some v else none
  | some (v, none), _ => some v
  | none, _ => none

def read (s : Keyspace) (k : String) (now : Nat) : Option String := valueAt (s k) now

def write (s : Keyspace) (k : String) (entry : Option (String × Option Nat)) : Keyspace :=
  fun k' => if k' = k then entry else s k'

theorem read_write (s : Keyspace) (k k' : String) (entry : Option (String × Option Nat)) (t : Nat) :
    (s.write k entry).read k' t = if k' = k then valueAt entry t else s.read k' t := by
  by_cases hk : k' = k <;> simp [read, write, hk]

/-- The commands over a keyspace, answered as Redis answers them; numbers are read as signed
64-bit decimals. -/
def server : RedisServer Keyspace where
  get k now s := s.read k now
  set k v s := s.write k (some (v, none))
  setNxPx k v px now s :=
    if px = 0 ∨ 2 ^ 63 ≤ now + px then (.error "ERR invalid expire time", s)
    else if (s.read k now).isSome then (.ok false, s)
    else (.ok true, s.write k (some (v, some (now + px))))
  del k now s := if (s.read k now).isSome then (1, s.write k none) else (0, s)
  toNumber t := (Text.parseI64? (Text.trim t)).map Int.cast

theorem lock_commands : LockCommands server where
  setNxPx_refused k v px now s h := ⟨_, if_pos h⟩
  setNxPx_held k v px now s hpos hend hheld := by
    have hpx : ¬ (px = 0 ∨ 2 ^ 63 ≤ now + px) := by omega
    have hsome : (s.read k now).isSome = true := Option.isSome_iff_ne_none.mpr hheld
    show (if px = 0 ∨ 2 ^ 63 ≤ now + px then _ else _) = _
    rw [if_neg hpx, if_pos hsome]
  setNxPx_absent k v px now s hpos hend hfree := by
    have hpx : ¬ (px = 0 ∨ 2 ^ 63 ≤ now + px) := by omega
    have hread : s.read k now = none := hfree
    have hset : server.setNxPx k v px now s = (.ok true, s.write k (some (v, some (now + px)))) := by
      show (if px = 0 ∨ 2 ^ 63 ≤ now + px then _ else _) = _
      rw [if_neg hpx, hread]
      rfl
    refine ⟨by rw [hset], fun k' t _ => ?_⟩
    rw [hset]
    show (s.write k _).read k' t = _
    rw [read_write]
    rfl
  del_present k now s hheld := by
    have hsome : (s.read k now).isSome = true := Option.isSome_iff_ne_none.mpr hheld
    have hdel : server.del k now s = (1, s.write k none) := by
      show (if (s.read k now).isSome then _ else _) = _
      rw [if_pos hsome]
    refine ⟨by rw [hdel], fun k' t _ => ?_⟩
    rw [hdel]
    show (s.write k none).read k' t = _
    rw [read_write]
    rfl

end Keyspace

theorem natText_injective : Function.Injective Json.natText := by
  intro a b h
  have hdigits : Nat.toDigits 10 a = Nat.toDigits 10 b := String.ofList_injective h
  calc a = Nat.ofDigitChars 10 (Nat.toDigits 10 a) 0 := Nat.ofDigitChars_ten_toDigits.symm
    _ = Nat.ofDigitChars 10 (Nat.toDigits 10 b) 0 := by rw [hdigits]
    _ = b := Nat.ofDigitChars_ten_toDigits

/-- The store over a keyspace, its `n`-th token being `token-n`. -/
def keyspaceStore : RedisStore Keyspace where
  server := Keyspace.server
  uuid n := "token-" ++ Json.natText n

theorem keyspaceStore_uuid_injective : Function.Injective keyspaceStore.uuid :=
  fun _ _ h => natText_injective ((String.append_right_inj _).mp h)

/-- The store in memory keeps the lock laws for every lease. On a server with Redis's semantics and
with fresh token texts, the store in Redis keeps them for every lease below 2^64 milliseconds:
the leases it sends whole. -/
theorem lock_stores_keep_lease_laws {σ : Type} (r : RedisStore σ) (hS : LockCommands r.server)
    (hinj : Function.Injective r.uuid) :
    LockLaws MemoryKv.lockCall id (fun _ => True) memoryAccepts ∧
      LockLaws r.lockCall r.tokenKey (· < 2 ^ 64) RedisStore.Accepts :=
  ⟨memory_lock_laws, redis_lock_laws hS hinj⟩

theorem lease_laws_on_keyspace :
    LockCommands keyspaceStore.server ∧ Function.Injective keyspaceStore.uuid ∧
      LockLaws MemoryKv.lockCall id (fun _ => True) memoryAccepts ∧
      LockLaws keyspaceStore.lockCall keyspaceStore.tokenKey (· < 2 ^ 64) RedisStore.Accepts :=
  ⟨Keyspace.lock_commands, keyspaceStore_uuid_injective,
    lock_stores_keep_lease_laws keyspaceStore Keyspace.lock_commands keyspaceStore_uuid_injective⟩

/-- A lease of 2^64 + 1384 milliseconds is sent as `PX 1384`, so on a keyspace that answers as
Redis does a second acquire 1384 milliseconds later hands out a token: the store in Redis does
not exclude for every lease. -/
theorem wrapped_lease_lets_second_holder_in :
    ¬ Excludes keyspaceStore.lockCall keyspaceStore.tokenKey (fun _ => True) := by
  intro hexcl
  have hsecond := hexcl ⟨fun _ => none, 0⟩ 0 "directory_sync" (2 ^ 64 + 1384)
    ⟨"directory_sync", .issued 1⟩ trivial (by decide) [.wait 1384]
    (by simp [Released, runLocks, RedisStore.lockCall]) (by decide) 1000
  exact absurd hsecond (by decide)

end RosterSync.Storage

import Mathlib
import RosterSync.Proofs.LeaseLocks

/-!
Cursor stores.

A cursor store keeps one cursor per tenant and is driven by two calls: advancing a tenant's
cursor to a time, and loading it (`CursorCall`). The law of a cursor store (`lawAnswers`) gives
each call its answer from the calls before it: a tenant's cursor is the latest whole second its
advances named, none before its first advance, and an advance answers whether it moved the
cursor, that is whether no cursor was stored or the new second is later than the stored one.
Other tenants' calls play no part in it.

The store in memory answers every sequence of calls by the law (`memory_cursors_follow_law`).
The store in Redis keeps each cursor as the decimal text of its Unix seconds and compares texts
through Lua numbers; on a server that stores texts and reads integer texts below 2^53 exactly
(`CursorCommands`), starting with no cursor stored, it answers as the store in memory does
(`redis_mirrors_memory`) for every sequence of calls whose times name dates. Such times have
fewer than 2^53 seconds, and the text a cursor is stored as reads back as the same second.
-/

-- natural powers take the core instance even where the monoid power is in scope
attribute [local instance (2000)] instPowNat

/-! ### Decimal texts -/

namespace RosterSync.Text

open RosterSync.Json

theorem digitsValue?_toDigits (n : Nat) : digitsValue? (Nat.toDigits 10 n) = some n := by
  have hdigits : ∀ c ∈ Nat.toDigits 10 n, ('0' ≤ c && c ≤ '9') = true := fun c hc =>
    Nat.isDigit_of_mem_toDigits (by decide) (by decide) hc
  have hfold : (Nat.toDigits 10 n).foldl (fun acc c => acc * 10 + (c.toNat - 48)) 0 =
      Nat.ofDigitChars 10 (Nat.toDigits 10 n) 0 := by
    rw [Nat.ofDigitChars_eq_foldl]
    congr 1
    funext acc c
    rw [Nat.mul_comm]
    rfl
  have hnonempty : (Nat.toDigits 10 n).isEmpty = false :=
    List.isEmpty_eq_false_iff.mpr Nat.toDigits_ne_nil
  have hall : (Nat.toDigits 10 n).any (fun c => !('0' ≤ c && c ≤ '9')) = false := by
    simpa using hdigits
  simp only [digitsValue?, hnonempty, hall, Bool.or_false, Bool.false_eq_true, ↓reduceIte, hfold,
    Nat.ofDigitChars_ten_toDigits]

theorem isBlank_of_digit {c : Char} (h : ('0' ≤ c && c ≤ '9') = true) : isBlank c = false := by
  simp only [Bool.and_eq_true, decide_eq_true_eq] at h
  have hlo : 48 ≤ c.toNat := h.1
  have hhi : c.toNat ≤ 57 := h.2
  simp only [isBlank, Bool.or_eq_false_iff, Bool.and_eq_false_iff, beq_eq_false_iff_ne, ne_eq,
    decide_eq_false_iff_not]
  omega

theorem dropBlanks_of_forall {cs : List Char} (h : ∀ c ∈ cs, isBlank c = false) :
    dropBlanks cs = cs := by
  cases cs with
  | nil => rfl
  | cons c rest => simp [dropBlanks, h c List.mem_cons_self]

theorem trim_of_forall {s : String} (h : ∀ c ∈ s.toList, isBlank c = false) : trim s = s := by
  have hrev : ∀ c ∈ s.toList.reverse, isBlank c = false := fun c hc => h c (List.mem_reverse.mp hc)
  rw [trim, dropBlanks_of_forall h, dropBlanks_of_forall hrev, List.reverse_reverse,
    String.ofList_toList]

theorem toList_intText (i : Int) :
    (intText i).toList =
      if i < 0 then '-' :: Nat.toDigits 10 i.natAbs else Nat.toDigits 10 i.toNat := by
  unfold intText natText
  split <;> simp

theorem trim_intText (i : Int) : trim (intText i) = intText i := by
  apply trim_of_forall
  have hdigit : ∀ n, ∀ c ∈ Nat.toDigits 10 n, isBlank c = false := fun n c hc =>
    isBlank_of_digit (Nat.isDigit_of_mem_toDigits (by decide) (by decide) hc)
  rw [toList_intText]
  split
  · intro c hc
    rcases List.mem_cons.mp hc with rfl | hc
    · decide
    · exact hdigit _ c hc
  · exact hdigit _

theorem parseI64?_intText {i : Int} (hlo : -(2 ^ 63 : Int) ≤ i) (hhi : i < 2 ^ 63) :
    parseI64? (intText i) = some i := by
  unfold parseI64?
  rw [toList_intText]
  by_cases hneg : i < 0
  · have hv : -((i.natAbs : Nat) : Int) = i := by omega
    simp only [hneg, ↓reduceIte, digitsValue?_toDigits, hv]
    rw [if_pos (by omega)]
  · simp only [hneg, ↓reduceIte]
    -- the first digit is neither sign, so the whole text is read as digits
    obtain ⟨c, rest, hcs⟩ : ∃ c rest, Nat.toDigits 10 i.toNat = c :: rest :=
      List.exists_cons_of_ne_nil Nat.toDigits_ne_nil
    have hc : ('0' ≤ c && c ≤ '9') = true :=
      Nat.isDigit_of_mem_toDigits (by decide) (by decide) (hcs ▸ List.mem_cons_self)
    have hminus : c ≠ '-' := fun h => by subst h; exact absurd hc (by decide)
    have hplus : c ≠ '+' := fun h => by subst h; exact absurd hc (by decide)
    have hv : ((i.toNat : Nat) : Int) = i := by omega
    rw [hcs]
    simp [hminus, hplus]
    rw [← hcs, digitsValue?_toDigits]
    simp only [hv]
    rw [if_pos (by omega)]

end RosterSync.Text

namespace RosterSync.Storage

open RosterSync.Json

/-! ### The law of a cursor store -/

inductive CursorCall where
  | advance (tenant : String) (time : Int)
  | load (tenant : String)
deriving DecidableEq

inductive CursorAnswer where
  | moved (changed : Bool)
  | loaded (cursor : Option Int)
  | failed (e : StorageError)
deriving DecidableEq

/-- The whole second a call advances a tenant's cursor to. -/
def CursorCall.advancedTo : CursorCall → String → Option Int
  | .advance t time, tenant => if t = tenant then some (floorToSecond time) else none
  | .load _, _ => none

/-- Whether a call's time names a date: a store is only ever given such times. -/
def CursorCall.dated : CursorCall → Bool
  | .advance _ time => Calendar.holds time
  | .load _ => true

/-- A tenant's cursor after a history of calls: the latest whole second its advances named, none
before its first advance. -/
def cursorAfter (history : List CursorCall) (tenant : String) : Option Int :=
  (history.filterMap (·.advancedTo tenant)).max?

/-- The answer the law gives a call after a history: an advance moves the cursor when none is
stored or its second is later than the stored one. -/
def lawAnswer (history : List CursorCall) : CursorCall → CursorAnswer
  | .advance tenant time => .moved ((cursorAfter history tenant).all (· < floorToSecond time))
  | .load tenant => .loaded (cursorAfter history tenant)

/-- The answers the law gives calls made one after another after a history. -/
def lawAnswers (history : List CursorCall) : List CursorCall → List CursorAnswer
  | [] => []
  | c :: cs => lawAnswer history c :: lawAnswers (history ++ [c]) cs

theorem max?_concat (l : List Int) (v : Int) :
    (l ++ [v]).max? = some (l.max?.elim v (max · v)) := by
  cases l with
  | nil => rfl
  | cons x xs =>
    rw [List.cons_append, List.max?_cons', List.max?_cons', List.foldl_append]
    rfl

theorem cursorAfter_concat (history : List CursorCall) (c : CursorCall) (tenant : String) :
    cursorAfter (history ++ [c]) tenant =
      (c.advancedTo tenant).elim (cursorAfter history tenant)
        fun v => some ((cursorAfter history tenant).elim v (max · v)) := by
  unfold cursorAfter
  cases h : c.advancedTo tenant with
  | none => simp [List.filterMap_append, h]
  | some v => simpa [List.filterMap_append, h] using max?_concat _ v

section Runs

variable {σ τ : Type}

/-- Runs calls one after another from a state, each at its server time: their answers. -/
def runCursors (call : σ → Nat → CursorCall → CursorAnswer × σ) :
    List (Nat × CursorCall) → σ → List CursorAnswer
  | [], _ => []
  | x :: xs, s => (call s x.1 x.2).1 :: runCursors call xs (call s x.1 x.2).2

/-- Two stores related so that each call answers the same in both and keeps them related give
the same answers to every run of such calls. -/
theorem runCursors_eq_of_step (call : σ → Nat → CursorCall → CursorAnswer × σ)
    (call' : τ → Nat → CursorCall → CursorAnswer × τ) (R : σ → τ → Prop) (ok : CursorCall → Prop)
    (step : ∀ s s' now c, R s s' → ok c →
      (call s now c).1 = (call' s' now c).1 ∧ R (call s now c).2 (call' s' now c).2) :
    ∀ (xs : List (Nat × CursorCall)) (s : σ) (s' : τ), R s s' → (∀ x ∈ xs, ok x.2) →
      runCursors call xs s = runCursors call' xs s'
  | [], _, _, _, _ => rfl
  | x :: xs, s, s', h, hok => by
    obtain ⟨hanswer, hnext⟩ := step s s' x.1 x.2 h (hok x List.mem_cons_self)
    simp only [runCursors, hanswer,
      runCursors_eq_of_step call call' R ok step xs _ _ hnext fun y hy => hok y (List.mem_cons_of_mem _ hy)]

/-- The law as a store whose state is the history of calls. -/
def lawCall (history : List CursorCall) (_ : Nat) (c : CursorCall) :
    CursorAnswer × List CursorCall :=
  (lawAnswer history c, history ++ [c])

theorem runCursors_lawCall (xs : List (Nat × CursorCall)) (history : List CursorCall) :
    runCursors lawCall xs history = lawAnswers history (xs.map (·.2)) := by
  induction xs generalizing history with
  | nil => rfl
  | cons x xs ih => simp [runCursors, lawCall, lawAnswers, ih]

end Runs

/-! ### The store in memory -/

namespace MemoryKv

/-- One call to the cursor store in memory; it keeps no clock. -/
def cursorCall (kv : MemoryKv) (_ : Nat) : CursorCall → CursorAnswer × MemoryKv
  | .advance t time => (.moved (kv.advance t time).2, (kv.advance t time).1)
  | .load t => (.loaded (kv.load t), kv)

theorem advance_moved (kv : MemoryKv) (t : String) (time : Int) :
    (kv.advance t time).2 = (kv.load t).all (· < floorToSecond time) := by
  unfold advance
  cases kv.load t with
  | none => rfl
  | some c => by_cases h : c < floorToSecond time <;> simp [h]

theorem find?_map_set_ne (cs : List (String × Int)) {t t' : String} (v : Int) (hne : t' ≠ t) :
    ((cs.map fun c => if c.1 == t then (t, v) else c).find? (·.1 == t')).map (·.2) =
      (cs.find? (·.1 == t')).map (·.2) := by
  induction cs with
  | nil => rfl
  | cons c cs ih =>
    by_cases hc : c.1 = t
    · -- the entry is set, and a lookup of the other key passes over it before and after
      have hset : (if c.1 == t then (t, v) else c) = (t, v) := by simp [hc]
      have hnew : (t == t') = false := by simpa using Ne.symm hne
      have hold : (c.1 == t') = false := by simpa [hc] using Ne.symm hne
      simp only [List.map_cons, hset, List.find?_cons, hnew, hold]
      exact ih
    · have hkeep : (if c.1 == t then (t, v) else c) = c := by simp [hc]
      simp only [List.map_cons, hkeep, List.find?_cons]
      cases c.1 == t' with
      | true => rfl
      | false => exact ih

theorem load_advance_ne (kv : MemoryKv) {t t' : String} (time : Int) (hne : t' ≠ t) :
    (kv.advance t time).1.load t' = kv.load t' := by
  unfold advance
  cases kv.load t with
  | none =>
    simp only [load, List.find?_append]
    cases kv.cursors.find? (·.1 == t') with
    | some _ => rfl
    | none => simp [Ne.symm hne]
  | some c =>
    by_cases hlt : c < floorToSecond time
    · simp only [hlt, ↓reduceIte, load]
      exact find?_map_set_ne kv.cursors _ hne
    · simp [hlt]

theorem advance_keeps_locks (kv : MemoryKv) (t : String) (time : Int) :
    (kv.advance t time).1.locks = kv.locks ∧ (kv.advance t time).1.issued = kv.issued := by
  unfold advance
  split
  · dsimp only
    split <;> exact ⟨rfl, rfl⟩
  · exact ⟨rfl, rfl⟩

theorem load_advance_self (kv : MemoryKv) (t : String) (time : Int) :
    (kv.advance t time).1.load t =
      some ((kv.load t).elim (floorToSecond time) (max · (floorToSecond time))) := by
  cases hk : kv.load t with
  | some c => simpa using load_advance kv t time c hk
  | none =>
    unfold advance
    rw [hk]
    have hmiss : kv.cursors.find? (·.1 == t) = none := by
      unfold load at hk
      simpa using hk
    simp [load, List.find?_append, hmiss]

/-- With each tenant's cursor the one the law gives after a history, a call answers as the law
does and keeps that so after the history with the call. -/
theorem cursorCall_follows_law {kv : MemoryKv} {history : List CursorCall}
    (h : ∀ tenant, kv.load tenant = cursorAfter history tenant) (now : Nat) (c : CursorCall) :
    (kv.cursorCall now c).1 = (lawCall history now c).1 ∧
      ∀ tenant, (kv.cursorCall now c).2.load tenant = cursorAfter (lawCall history now c).2 tenant := by
  cases c with
  | advance t time =>
    refine ⟨by simp [cursorCall, lawCall, lawAnswer, advance_moved, h], fun tenant => ?_⟩
    simp only [cursorCall, lawCall, cursorAfter_concat, CursorCall.advancedTo]
    by_cases ht : t = tenant
    · subst ht
      simp [load_advance_self, h]
    · simp [ht, load_advance_ne _ _ (Ne.symm ht), h]
  | load t =>
    refine ⟨by simp [cursorCall, lawCall, lawAnswer, h], fun tenant => ?_⟩
    simp [cursorCall, lawCall, cursorAfter_concat, CursorCall.advancedTo, h]

end MemoryKv

theorem memory_cursors_follow_law (xs : List (Nat × CursorCall)) :
    runCursors MemoryKv.cursorCall xs {} = lawAnswers [] (xs.map (·.2)) := by
  rw [← runCursors_lawCall]
  exact runCursors_eq_of_step _ _
    (fun (kv : MemoryKv) history => ∀ tenant, kv.load tenant = cursorAfter history tenant)
    (fun _ => True)
    (fun _ _ now c hR _ => MemoryKv.cursorCall_follows_law hR now c) xs {} [] (fun _ => rfl)
    (fun _ _ => trivial)

example :
    lawAnswers [] [.advance "corp" 1700000000500, .load "corp", .advance "corp" 1699999999000,
      .advance "other" (-1500), .load "other", .load "corp"] =
      [.moved true, .loaded (some 1700000000000), .moved false, .moved true,
        .loaded (some (-2000)), .loaded (some 1700000000000)] := by
  decide

/-! ### The store in Redis -/

/-- What the cursor store needs of a Redis server: `SET` stores a text with no expiry and touches
no other key, and Lua's `tonumber` reads the decimal text of an integer below 2^53 as that
integer. -/
structure CursorCommands {σ : Type} (S : RedisServer σ) : Prop where
  get_set : ∀ k v s k' t, S.get k' t (S.set k v s) = if k' = k then some v else S.get k' t s
  toNumber_intText : ∀ n : Int, -(2 ^ 53) < n → n < 2 ^ 53 → S.toNumber (intText n) = some (Int.cast n)

theorem cursorKey_injective {a b : String} (h : cursorKey a = cursorKey b) : a = b :=
  (String.append_right_inj _).mp h

theorem holds_iff {t : Int} : Calendar.holds t = true ↔
    -8334601228800000 ≤ t ∧ t ≤ 8210266876799999 := by
  unfold Calendar.holds Calendar.earliest Calendar.latest
  simp

theorem seconds_bounds {t : Int} (h : Calendar.holds t = true) :
    -(2 ^ 53) < t / 1000 ∧ t / 1000 < 2 ^ 53 := by
  rw [holds_iff] at h
  omega

theorem holds_floorToSecond {t : Int} (h : Calendar.holds t = true) :
    Calendar.holds (floorToSecond t) = true := by
  rw [holds_iff] at h ⊢
  rw [floorToSecond_eq]
  omega

/-- The answer to an advance, from the store's reply. -/
def CursorAnswer.ofMoved : Except StorageError Bool → CursorAnswer
  | .ok b => .moved b
  | .error e => .failed e

/-- The answer to a load, from the store's reply. -/
def CursorAnswer.ofLoaded : Except StorageError (Option Int) → CursorAnswer
  | .ok c => .loaded c
  | .error e => .failed e

namespace RedisStore

variable {σ : Type} (r : RedisStore σ)

/-- One call to the cursor store in Redis at the server's time `now`. -/
def cursorCall (st : RedisState σ) (now : Nat) : CursorCall → CursorAnswer × RedisState σ
  | .advance t time => (.ofMoved (r.advance t time now st).1, (r.advance t time now st).2)
  | .load t => (.ofLoaded (r.load t now st), st)

/-- The keyspace keeps, under each tenant's key, the seconds of the tenant's cursor in memory,
and every such cursor is a whole second that names a date. -/
structure Mirrors (kv : MemoryKv) (st : RedisState σ) : Prop where
  stored : ∀ tenant now,
    r.server.get (cursorKey tenant) now st.server = (kv.load tenant).map (fun c => intText (c / 1000))
  whole : ∀ tenant c, kv.load tenant = some c → c % 1000 = 0 ∧ Calendar.holds c = true

variable {r}

theorem mirrors_empty {st : RedisState σ}
    (hfresh : ∀ tenant now, r.server.get (cursorKey tenant) now st.server = none) :
    r.Mirrors {} st where
  stored tenant now := hfresh tenant now
  whole _ _ h := by cases h

theorem load_of_mirrors {kv : MemoryKv} {st : RedisState σ} (hm : r.Mirrors kv st)
    (tenant : String) (now : Nat) : r.load tenant now st = .ok (kv.load tenant) := by
  unfold load
  rw [hm.stored tenant now]
  cases hk : kv.load tenant with
  | none => rfl
  | some c =>
    obtain ⟨hwhole, hholds⟩ := hm.whole tenant c hk
    have hb := seconds_bounds hholds
    have hsecs : c / 1000 * 1000 = c := by omega
    simp [Text.trim_intText, Text.parseI64?_intText (i := c / 1000) (by omega) (by omega), hsecs,
      hholds]

/-- Storing a whole second that names a date under a tenant's key mirrors a memory whose cursor
for the tenant is that second and whose other cursors stay. -/
theorem Mirrors.set (hS : CursorCommands r.server) {kv kv' : MemoryKv} {st : RedisState σ}
    (hm : r.Mirrors kv st) {tenant : String} {time : Int} (htime : Calendar.holds time = true)
    (hself : kv'.load tenant = some (floorToSecond time))
    (hother : ∀ t', t' ≠ tenant → kv'.load t' = kv.load t') :
    r.Mirrors kv'
      { st with server := r.server.set (cursorKey tenant) (intText (time / 1000)) st.server } where
  stored t' now := by
    rw [hS.get_set]
    by_cases ht : t' = tenant
    · subst ht
      simp [hself, floorToSecond_eq]
    · have hkey : cursorKey t' ≠ cursorKey tenant := fun h => ht (cursorKey_injective h)
      rw [if_neg hkey, hother t' ht, hm.stored]
  whole t' c hc := by
    by_cases ht : t' = tenant
    · subst ht
      rw [hself, Option.some.injEq] at hc
      subst hc
      exact ⟨by rw [floorToSecond_eq]; omega, holds_floorToSecond htime⟩
    · exact hm.whole t' c (by rw [← hother t' ht]; exact hc)

theorem advanceScript_absent {key arg : String} {now : Nat} {s : σ}
    (h : r.server.get key now s = none) :
    r.advanceScript key arg now s = (.ok 1, r.server.set key arg s) := by
  simp [advanceScript, h]

theorem advanceScript_numbers {key arg current : String} {now : Nat} {s : σ} {stored given : Rat}
    (h : r.server.get key now s = some current) (hstored : r.server.toNumber current = some stored)
    (hgiven : r.server.toNumber arg = some given) :
    r.advanceScript key arg now s =
      if given ≤ stored then (.ok 0, s) else (.ok 1, r.server.set key arg s) := by
  simp [advanceScript, h, hstored, hgiven]

/-- On mirrored states an advance to a time that names a date answers as the store in memory
does, and the states stay mirrored. -/
theorem advance_of_mirrors (hS : CursorCommands r.server) {kv : MemoryKv} {st : RedisState σ}
    (hm : r.Mirrors kv st) (tenant : String) {time : Int} (htime : Calendar.holds time = true)
    (now : Nat) :
    (r.advance tenant time now st).1 = .ok (kv.advance tenant time).2 ∧
      r.Mirrors (kv.advance tenant time).1 (r.advance tenant time now st).2 := by
  have hsecs : time.fdiv 1000 = time / 1000 := Int.fdiv_eq_ediv_of_nonneg time (by decide)
  have hb := seconds_bounds htime
  have hmoved : (kv.advance tenant time).2 = true →
      r.advanceScript (cursorKey tenant) (intText (time / 1000)) now st.server =
        (.ok 1, r.server.set (cursorKey tenant) (intText (time / 1000)) st.server) →
      (r.advance tenant time now st).1 = .ok (kv.advance tenant time).2 ∧
        r.Mirrors (kv.advance tenant time).1 (r.advance tenant time now st).2 := by
    intro hkv hscript
    have hself : (kv.advance tenant time).1.load tenant = some (floorToSecond time) := by
      rw [MemoryKv.load_advance_self]
      rw [MemoryKv.advance_moved] at hkv
      cases hk : kv.load tenant with
      | none => rfl
      | some c =>
        rw [hk] at hkv
        simp only [Option.all_some, decide_eq_true_eq] at hkv
        simp [max_eq_right hkv.le]
    refine ⟨by simp [advance, hsecs, hscript, hkv, Except.map, Except.mapError], ?_⟩
    simpa [advance, hsecs, hscript] using hm.set hS htime hself
      (fun t' ht => MemoryKv.load_advance_ne kv time ht)
  cases hk : kv.load tenant with
  | none =>
    have hstored := hm.stored tenant now
    rw [hk] at hstored
    exact hmoved (by simp [MemoryKv.advance_moved, hk]) (advanceScript_absent hstored)
  | some c =>
    obtain ⟨hwhole, hholds⟩ := hm.whole tenant c hk
    have hcb := seconds_bounds hholds
    have hstored := hm.stored tenant now
    rw [hk, Option.map_some] at hstored
    have hscript := advanceScript_numbers hstored
      (hS.toNumber_intText _ hcb.1 hcb.2) (hS.toNumber_intText (time / 1000) hb.1 hb.2)
    -- the whole seconds compare as the cursors in milliseconds do
    have hcmp : (((time / 1000 : Int) : Rat) ≤ ((c / 1000 : Int) : Rat)) ↔ ¬ c < floorToSecond time := by
      rw [Int.cast_le, floorToSecond_eq]
      omega
    by_cases hlt : c < floorToSecond time
    · rw [if_neg (by rwa [hcmp, not_not])] at hscript
      exact hmoved (by simp [MemoryKv.advance_moved, hk, hlt]) hscript
    · rw [if_pos (hcmp.mpr hlt)] at hscript
      have hkv : kv.advance tenant time = (kv, false) := by
        simp [MemoryKv.advance, hk, hlt]
      rw [hkv]
      refine ⟨by simp [advance, hsecs, hscript, Except.map, Except.mapError], ?_⟩
      simpa [advance, hsecs, hscript] using hm

/-- On mirrored states a call whose time names a date answers as the store in memory does, and
the states stay mirrored. -/
theorem cursorCall_mirrors (hS : CursorCommands r.server) {kv : MemoryKv} {st : RedisState σ}
    (hm : r.Mirrors kv st) (now : Nat) (c : CursorCall) (hc : c.dated = true) :
    (r.cursorCall st now c).1 = (kv.cursorCall now c).1 ∧
      r.Mirrors (kv.cursorCall now c).2 (r.cursorCall st now c).2 := by
  cases c with
  | advance t time =>
    obtain ⟨hanswer, hnext⟩ := advance_of_mirrors hS hm t hc now
    exact ⟨by simp [cursorCall, MemoryKv.cursorCall, hanswer, CursorAnswer.ofMoved], hnext⟩
  | load t =>
    exact ⟨by simp [cursorCall, MemoryKv.cursorCall, load_of_mirrors hm, CursorAnswer.ofLoaded], hm⟩

end RedisStore

/-- On a server with the commands the cursor store needs, the store in Redis answers every
sequence of calls whose times name dates as the store in memory does, from mirrored states. -/
theorem redis_mirrors_memory {σ : Type} {r : RedisStore σ} (hS : CursorCommands r.server)
    (xs : List (Nat × CursorCall)) {kv : MemoryKv} {st : RedisState σ} (hm : r.Mirrors kv st)
    (hdated : ∀ x ∈ xs, x.2.dated = true) :
    runCursors r.cursorCall xs st = runCursors MemoryKv.cursorCall xs kv :=
  runCursors_eq_of_step _ _ (fun st kv => r.Mirrors kv st) (fun c => c.dated = true)
    (fun _ _ now c hm hc => RedisStore.cursorCall_mirrors hS hm now c hc) xs st kv hm hdated

theorem Keyspace.cursor_commands : CursorCommands Keyspace.server where
  get_set k v s k' t := by
    show (s.write k _).read k' t = _
    rw [Keyspace.read_write]
    rfl
  toNumber_intText n hlo hhi := by
    have hparse := Text.parseI64?_intText (i := n) (by omega) (by omega)
    simp only [Keyspace.server, Text.trim_intText, hparse, Option.map_some]

/-- The store in memory answers every sequence of calls by the cursor law, from no cursor stored.
On a server that stores texts and reads integer texts below 2^53 exactly, the store in Redis does
too, from a keyspace with no cursor stored, for every sequence of calls whose times name dates. -/
theorem cursor_stores_follow_cursor_law {σ : Type} (r : RedisStore σ) (hS : CursorCommands r.server)
    (st : RedisState σ) (hfresh : ∀ tenant now, r.server.get (cursorKey tenant) now st.server = none)
    (xs : List (Nat × CursorCall)) :
    runCursors MemoryKv.cursorCall xs {} = lawAnswers [] (xs.map (·.2)) ∧
      ((∀ x ∈ xs, x.2.dated = true) →
        runCursors r.cursorCall xs st = lawAnswers [] (xs.map (·.2))) :=
  ⟨memory_cursors_follow_law xs, fun hdated =>
    (redis_mirrors_memory hS xs (RedisStore.mirrors_empty hfresh) hdated).trans
      (memory_cursors_follow_law xs)⟩

theorem cursor_law_on_keyspace :
    CursorCommands keyspaceStore.server ∧
      (∀ tenant now, keyspaceStore.server.get (cursorKey tenant) now
        (⟨fun _ => none, 0⟩ : RedisState Keyspace).server = none) ∧
      (runCursors MemoryKv.cursorCall
          [(0, .advance "corp" 1700000000500), (1, .load "corp"), (2, .advance "corp" 1699999999000),
            (3, .advance "other" (-1500)), (4, .load "other")] {} =
        lawAnswers [] [.advance "corp" 1700000000500, .load "corp", .advance "corp" 1699999999000,
          .advance "other" (-1500), .load "other"] ∧
      ((∀ x ∈ [(0, CursorCall.advance "corp" 1700000000500), (1, .load "corp"),
          (2, .advance "corp" 1699999999000), (3, .advance "other" (-1500)), (4, .load "other")],
          x.2.dated = true) →
        runCursors keyspaceStore.cursorCall
          [(0, .advance "corp" 1700000000500), (1, .load "corp"), (2, .advance "corp" 1699999999000),
            (3, .advance "other" (-1500)), (4, .load "other")] ⟨fun _ => none, 0⟩ =
        lawAnswers [] [.advance "corp" 1700000000500, .load "corp", .advance "corp" 1699999999000,
          .advance "other" (-1500), .load "other"])) :=
  ⟨Keyspace.cursor_commands, fun _ _ => rfl,
    cursor_stores_follow_cursor_law keyspaceStore Keyspace.cursor_commands _ (fun _ _ => rfl) _⟩

end RosterSync.Storage

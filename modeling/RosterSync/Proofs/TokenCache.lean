import RosterSync.Directory.ContactApi

/-!
The contact API client's token cache.

A token is fetched only when the cache is empty or its token has expired at the clock's reading;
while its token has not expired, the cache is used with no request. A call makes at most two
attempts, each sending at most one token request and one API request. The second attempt follows
only an answer whose errcode says that the token is invalid or expired: the cache is emptied, so
it fetches. When the fetch grants a token, the request is sent once more with it and that answer
is the call's last; when the fetch fails, its failure is the call's answer and nothing more is
sent. The program stops in a call exactly where a granted token's expiry lies past the clock's
last instant.

The cache's invariant `CacheSound` says that a cached token is the token granted by the answer to
one of the token requests sent, expiring at a reading of the clock plus the answer's lifetime less
the margin. Each step of the client keeps it, so every run of calls from a fresh client does.
-/

namespace RosterSync.Directory.ContactApi

/-! ### Token answers -/

/-- The token endpoint's answer at position `n` grants the token of `r`: errcode 0 and a
non-empty token. -/
def Granted (net : Net) (n : Nat) (r : TokenReply) : Prop :=
  net.tokenAnswer n = .ok r ∧ r.errcode = 0 ∧ r.accessToken ≠ ""

/-- The token endpoint's answer at position `n` grants no token, and `e` is the failure the
client reports: the exchange's own failure, or the API's for a non-zero errcode or an empty
token. -/
def Refused (net : Net) (n : Nat) (e : DirectoryError) : Prop :=
  net.tokenAnswer n = .error e ∨
    ∃ r, net.tokenAnswer n = .ok r ∧ (r.errcode ≠ 0 ∨ r.accessToken = "") ∧
      e = .api r.errcode r.errmsg

/-- The token kept from the answer `r` that arrived at the clock's `m`-th reading. -/
def keptToken (net : Net) (m : Nat) (r : TokenReply) : CachedToken :=
  ⟨r.accessToken, net.clock m + (r.expiresIn - expiryMarginSecs) * nanosPerSecond⟩

/-- Whether a granted token kept at the clock's `m`-th reading expires at an instant the clock
holds. -/
def KeptFits (net : Net) (m : Nat) (r : TokenReply) : Bool :=
  expiryFits (net.clock m) (r.expiresIn - expiryMarginSecs)

/-- The cache is empty, or its token has expired at the clock's next reading. -/
def Stale (net : Net) (s : Session) : Prop :=
  ∀ tok, s.cache = some tok → tok.expiresAt ≤ net.clock s.readings

theorem granted_or_refused (net : Net) (n : Nat) :
    (∃ r, Granted net n r) ∨ ∃ e, Refused net n e := by
  cases h : net.tokenAnswer n with
  | error e => exact .inr ⟨e, .inl h⟩
  | ok r =>
    by_cases hcode : r.errcode = 0
    · by_cases htoken : r.accessToken = ""
      · exact .inr ⟨_, .inr ⟨r, h, .inr htoken, rfl⟩⟩
      · exact .inl ⟨r, h, hcode, htoken⟩
    · exact .inr ⟨_, .inr ⟨r, h, .inl hcode, rfl⟩⟩

theorem Granted.passes {net : Net} {n : Nat} {r : TokenReply} (h : Granted net n r) :
    (r.errcode != 0 || r.accessToken.isEmpty) = false := by
  simp [h.2.1, String.isEmpty_eq_false_iff.2 h.2.2]

theorem stale_forget (net : Net) (s : Session) : Stale net s.forget := by
  intro tok h
  cases h

section Steps

variable {net : Net} {s : Session}

/-! ### One fetch -/

theorem fetchToken_refused {e : DirectoryError} (h : Refused net s.sent.length e) :
    fetchToken net s = some (.error e, s.send .token) := by
  rcases h with h | ⟨r, h, hbad, rfl⟩
  · simp [fetchToken, h]
  · have hrefuse : (r.errcode != 0 || r.accessToken.isEmpty) = true := by
      rcases hbad with hbad | hbad <;> simp [hbad]
    simp [fetchToken, h, hrefuse]

theorem fetchToken_granted {r : TokenReply} (h : Granted net s.sent.length r)
    (hfit : KeptFits net s.readings r = true) :
    fetchToken net s =
      some (.ok r.accessToken, (s.send .token).tick.keep (keptToken net s.readings r)) := by
  simp only [KeptFits] at hfit
  simp [fetchToken, h.1, h.passes, hfit, keptToken]

theorem fetchToken_stops {r : TokenReply} (h : Granted net s.sent.length r)
    (hfit : KeptFits net s.readings r = false) : fetchToken net s = none := by
  simp only [KeptFits] at hfit
  simp [fetchToken, h.1, h.passes, hfit]

/-! ### One token -/

theorem accessToken_reuse {tok : CachedToken} (h : s.cache = some tok)
    (hnow : net.clock s.readings < tok.expiresAt) :
    accessToken net s = some (.ok tok.value, s.tick) := by
  simp [accessToken, h, hnow]

theorem accessToken_stale (h : Stale net s) : accessToken net s = fetchToken net s.tick := by
  cases hc : s.cache with
  | none => simp [accessToken, hc]
  | some tok =>
    have hexpired := h tok hc
    simp [accessToken, hc, Nat.not_lt.2 hexpired]

/-! ### One attempt -/

variable {R : Type} {req : String → Request} {ans : Nat → Except DirectoryError R}

theorem attempt_reuse {tok : CachedToken} (h : s.cache = some tok)
    (hnow : net.clock s.readings < tok.expiresAt) :
    attempt net req ans s = some (ans s.sent.length, s.tick.send (req tok.value)) := by
  simp [attempt, accessToken_reuse h hnow]

theorem attempt_refused (h : Stale net s) {e : DirectoryError}
    (he : Refused net s.sent.length e) :
    attempt net req ans s = some (.error e, s.tick.send .token) := by
  have hfetch : fetchToken net s.tick = some (.error e, s.tick.send .token) :=
    fetchToken_refused (by simpa using he)
  simp [attempt, accessToken_stale h, hfetch]

/-- The session after an attempt that fetched and kept the token of `r`. -/
def keptAfter (net : Net) (s : Session) (req : String → Request) (r : TokenReply) : Session :=
  ((s.tick.send .token).tick.keep (keptToken net (s.readings + 1) r)).send (req r.accessToken)

theorem attempt_granted (h : Stale net s) {r : TokenReply} (hr : Granted net s.sent.length r)
    (hfit : KeptFits net (s.readings + 1) r = true) :
    attempt net req ans s = some (ans (s.sent.length + 1), keptAfter net s req r) := by
  have hfetch : fetchToken net s.tick =
      some (.ok r.accessToken, (s.tick.send .token).tick.keep (keptToken net (s.readings + 1) r)) :=
    fetchToken_granted (by simpa using hr) (by simpa using hfit)
  simp [attempt, accessToken_stale h, hfetch, keptAfter]

theorem attempt_stops (h : Stale net s) {r : TokenReply} (hr : Granted net s.sent.length r)
    (hfit : KeptFits net (s.readings + 1) r = false) : attempt net req ans s = none := by
  have hfetch : fetchToken net s.tick = none :=
    fetchToken_stops (by simpa using hr) (by simpa using hfit)
  simp [attempt, accessToken_stale h, hfetch]

/-- What an attempt can do: use the cached token, or, with the cache stale, fetch a token that
is refused, kept, or whose expiry stops the program. -/
theorem attempt_cases (net : Net) (req : String → Request) (ans : Nat → Except DirectoryError R)
    (s : Session) :
    (∃ tok, s.cache = some tok ∧ net.clock s.readings < tok.expiresAt ∧
      attempt net req ans s = some (ans s.sent.length, s.tick.send (req tok.value))) ∨
    (Stale net s ∧ ∃ e, Refused net s.sent.length e ∧
      attempt net req ans s = some (.error e, s.tick.send .token)) ∨
    (Stale net s ∧ ∃ r, Granted net s.sent.length r ∧ KeptFits net (s.readings + 1) r = true ∧
      attempt net req ans s = some (ans (s.sent.length + 1), keptAfter net s req r)) ∨
    (Stale net s ∧ ∃ r, Granted net s.sent.length r ∧ KeptFits net (s.readings + 1) r = false ∧
      attempt net req ans s = none) := by
  by_cases hfresh : ∃ tok, s.cache = some tok ∧ net.clock s.readings < tok.expiresAt
  · obtain ⟨tok, h, hnow⟩ := hfresh
    exact .inl ⟨tok, h, hnow, attempt_reuse h hnow⟩
  have hstale : Stale net s := fun tok h => Nat.not_lt.1 fun hnow => hfresh ⟨tok, h, hnow⟩
  rcases granted_or_refused net s.sent.length with ⟨r, hr⟩ | ⟨e, he⟩
  · cases hfit : KeptFits net (s.readings + 1) r
    · exact .inr (.inr (.inr ⟨hstale, r, hr, hfit, attempt_stops hstale hr hfit⟩))
    · exact .inr (.inr (.inl ⟨hstale, r, hr, hfit, attempt_granted hstale hr hfit⟩))
  · exact .inr (.inl ⟨hstale, e, he, attempt_refused hstale he⟩)

/-! ### One call -/

variable {α : Type} {ans : Nat → Except DirectoryError (ApiReply α)}

theorem exchange_settled
    (h : ∀ reply s₁, attempt net req ans s = some (.ok reply, s₁) →
      reply.errcode ∉ tokenErrcodes) :
    exchange net req ans s = attempt net req ans s := by
  unfold exchange
  split
  next reply s₁ hattempt => simp [h reply s₁ hattempt, hattempt]
  next => rfl

theorem exchange_retry {reply : ApiReply α} {s₁ : Session}
    (h : attempt net req ans s = some (.ok reply, s₁)) (ht : reply.errcode ∈ tokenErrcodes) :
    exchange net req ans s = attempt net req ans s₁.forget := by
  simp [exchange, h, ht]

/-- A call is one attempt, or an attempt answered with a token errcode and a second attempt
without the cached token. -/
theorem exchange_cases (net : Net) (req : String → Request)
    (ans : Nat → Except DirectoryError (ApiReply α)) (s : Session) :
    exchange net req ans s = attempt net req ans s ∨
      ∃ reply s₁, attempt net req ans s = some (.ok reply, s₁) ∧
        reply.errcode ∈ tokenErrcodes ∧ exchange net req ans s = attempt net req ans s₁.forget := by
  by_cases hretry : ∃ reply s₁, attempt net req ans s = some (.ok reply, s₁) ∧
      reply.errcode ∈ tokenErrcodes
  · obtain ⟨reply, s₁, h, ht⟩ := hretry
    exact .inr ⟨reply, s₁, h, ht, exchange_retry h ht⟩
  · refine .inl (exchange_settled fun reply s₁ h ht => hretry ⟨reply, s₁, h, ht⟩)

/-! ### What a call sends -/

@[simp] theorem keptAfter_sent (net : Net) (s : Session) (req : String → Request)
    (r : TokenReply) : (keptAfter net s req r).sent = s.sent ++ [.token, req r.accessToken] := by
  simp [keptAfter]

@[simp] theorem keptAfter_readings (net : Net) (s : Session) (req : String → Request)
    (r : TokenReply) : (keptAfter net s req r).readings = s.readings + 2 := by
  simp [keptAfter]

@[simp] theorem keptAfter_cache (net : Net) (s : Session) (req : String → Request)
    (r : TokenReply) : (keptAfter net s req r).cache = some (keptToken net (s.readings + 1) r) := by
  simp [keptAfter]

variable {R : Type} {ans : Nat → Except DirectoryError R} {x : Except DirectoryError R}
  {s' : Session}

/-- An attempt sends its request with a token, after a token request when the cache is stale;
a refused token leaves the token request alone. -/
theorem attempt_sent (h : attempt net req ans s = some (x, s')) :
    ∃ t, s'.sent = s.sent ++ [req t] ∨ s'.sent = s.sent ++ [.token, req t] ∨
      s'.sent = s.sent ++ [.token] := by
  rcases attempt_cases net req ans s with ⟨tok, -, -, h'⟩ | ⟨-, e, -, h'⟩ | ⟨-, r, -, -, h'⟩ |
    ⟨-, r, -, -, h'⟩ <;> rw [h'] at h <;> cases h
  · exact ⟨tok.value, .inl (by simp)⟩
  · exact ⟨"", .inr (.inr (by simp))⟩
  · exact ⟨r.accessToken, .inr (.inl (by simp))⟩

theorem attempt_readings (h : attempt net req ans s = some (x, s')) : s.readings < s'.readings := by
  rcases attempt_cases net req ans s with ⟨tok, -, -, h'⟩ | ⟨-, e, -, h'⟩ | ⟨-, r, -, -, h'⟩ |
    ⟨-, r, -, -, h'⟩ <;> rw [h'] at h <;> cases h <;> simp

theorem attempt_stale_sent (hstale : Stale net s) (h : attempt net req ans s = some (x, s')) :
    ∃ rest, s'.sent = s.sent ++ .token :: rest := by
  rcases attempt_cases net req ans s with ⟨tok, hc, hnow, -⟩ | ⟨-, e, -, h'⟩ |
    ⟨-, r, -, -, h'⟩ | ⟨-, r, -, -, h'⟩
  · exact absurd (hstale tok hc) (Nat.not_le.2 hnow)
  all_goals
    rw [h'] at h
    cases h
  · exact ⟨[], by simp⟩
  · exact ⟨[req r.accessToken], by simp⟩

theorem attempt_none (h : attempt net req ans s = none) :
    ∃ r, Granted net s.sent.length r ∧ KeptFits net (s.readings + 1) r = false := by
  rcases attempt_cases net req ans s with ⟨tok, -, -, h'⟩ | ⟨-, e, -, h'⟩ | ⟨-, r, -, -, h'⟩ |
    ⟨-, r, hr, hfit, -⟩
  any_goals
    rw [h'] at h
    cases h
  exact ⟨r, hr, hfit⟩

theorem countP_attempt_sent (hreq : ∀ t, (req t).isToken = false)
    (h : attempt net req ans s = some (x, s')) :
    ∃ new, s'.sent = s.sent ++ new ∧ new.countP Request.isToken ≤ 1 ∧
      new.countP (fun q => !q.isToken) ≤ 1 := by
  obtain ⟨t, hs | hs | hs⟩ := attempt_sent h
  · exact ⟨[req t], hs, by simp [hreq], by simp [hreq]⟩
  · exact ⟨[.token, req t], hs, by simp [List.countP_cons, hreq], by simp [hreq]⟩
  · exact ⟨[.token], hs, by simp, by simp⟩

variable {α : Type} {ans : Nat → Except DirectoryError (ApiReply α)}
  {x : Except DirectoryError (ApiReply α)}

theorem countP_exchange_sent (hreq : ∀ t, (req t).isToken = false)
    (h : exchange net req ans s = some (x, s')) :
    ∃ new, s'.sent = s.sent ++ new ∧ new.countP Request.isToken ≤ 2 ∧
      new.countP (fun q => !q.isToken) ≤ 2 := by
  rcases exchange_cases net req ans s with hfirst | ⟨reply, s₁, h₁, -, hsecond⟩
  · obtain ⟨new, hs, ht, ha⟩ := countP_attempt_sent hreq (hfirst ▸ h)
    exact ⟨new, hs, by omega, by omega⟩
  · -- the first attempt's requests, then the second's
    obtain ⟨new₁, hs₁, ht₁, ha₁⟩ := countP_attempt_sent hreq h₁
    obtain ⟨new₂, hs₂, ht₂, ha₂⟩ := countP_attempt_sent hreq (hsecond ▸ h)
    refine ⟨new₁ ++ new₂, by simp [hs₂, hs₁], ?_, ?_⟩
    · rw [List.countP_append]
      omega
    · rw [List.countP_append]
      omega

/-- After an answer with a token errcode, the call forgets its token and fetches once more: a
refused fetch is the call's answer, and a granted one is used for one more request, whose answer
is the call's. -/
theorem exchange_refetch {reply : ApiReply α} {s₁ : Session}
    (h : attempt net req ans s = some (.ok reply, s₁)) (ht : reply.errcode ∈ tokenErrcodes) :
    (∀ e, Refused net s₁.sent.length e →
      exchange net req ans s = some (.error e, s₁.forget.tick.send .token)) ∧
    (∀ r, Granted net s₁.sent.length r → KeptFits net (s₁.readings + 1) r = true →
      ∃ s₂, exchange net req ans s = some (ans (s₁.sent.length + 1), s₂) ∧
        s₂.sent = s₁.sent ++ [.token, req r.accessToken] ∧
        s₂.cache = some (keptToken net (s₁.readings + 1) r)) := by
  rw [exchange_retry h ht]
  refine ⟨fun e he => attempt_refused (stale_forget net s₁) (by simpa using he), ?_⟩
  intro r hr hfit
  refine ⟨_, attempt_granted (stale_forget net s₁) (by simpa using hr) (by simpa using hfit),
    by simp, by simp⟩

/-- The program stops in a call only where a token granted in it expires past the clock's last
instant. -/
theorem exchange_none (h : exchange net req ans s = none) :
    ∃ n m r, s.sent.length ≤ n ∧ s.readings ≤ m ∧ Granted net n r ∧ KeptFits net m r = false := by
  rcases exchange_cases net req ans s with hfirst | ⟨reply, s₁, h₁, -, hsecond⟩
  · obtain ⟨r, hr, hfit⟩ := attempt_none (hfirst ▸ h)
    exact ⟨_, _, r, Nat.le_refl _, Nat.le_succ _, hr, hfit⟩
  · -- the second attempt starts where the first ended
    obtain ⟨r, hr, hfit⟩ := attempt_none (hsecond ▸ h)
    have hsent : s.sent.length ≤ s₁.sent.length := by
      obtain ⟨t, hs | hs | hs⟩ := attempt_sent h₁ <;> simp [hs]
    have hread := attempt_readings h₁
    exact ⟨s₁.sent.length, s₁.readings + 1, r, hsent, by omega, by simpa using hr,
      by simpa using hfit⟩

end Steps

/-! ### Calls and runs of calls -/

section Runs

variable {net : Net} {s s' : Session}

/-- A call that answers is an exchange of a request that asks for no token, ending where the
call ends. -/
theorem Call.run_eq_some {c : Call} {a : Answer} (h : c.run net s = some (a, s')) :
    ∃ (α : Type) (req : String → Request) (ans : Nat → Except DirectoryError (ApiReply α))
      (x : Except DirectoryError (ApiReply α)),
      (∀ t, (req t).isToken = false) ∧ exchange net req ans s = some (x, s') := by
  cases c <;> simp only [Call.run, ContactApi.addContactWay, ContactApi.getExternalContact,
    Option.map_map, Option.map_eq_some_iff] at h <;> obtain ⟨⟨x, s''⟩, hx, heq⟩ := h <;> cases heq
  · exact ⟨_, _, _, x, fun t => rfl, hx⟩
  · exact ⟨_, _, _, x, fun t => rfl, hx⟩

theorem Call.run_eq_none {c : Call} (h : c.run net s = none) :
    ∃ (α : Type) (req : String → Request) (ans : Nat → Except DirectoryError (ApiReply α)),
      exchange net req ans s = none := by
  cases c <;> simp only [Call.run, ContactApi.addContactWay, ContactApi.getExternalContact,
    Option.map_eq_none_iff] at h <;> exact ⟨_, _, _, h⟩

/-- A run of calls that answers is its first call answering and the rest of the run answering
from where the call ended. -/
theorem runCalls_cons_eq_some {c : Call} {rest : List Call} {answers : List Answer}
    (h : runCalls net (c :: rest) s = some (answers, s')) :
    ∃ a s₁ answers', c.run net s = some (a, s₁) ∧ runCalls net rest s₁ = some (answers', s') ∧
      answers = a :: answers' := by
  simp only [runCalls] at h
  cases hc : c.run net s with
  | none => simp [hc] at h
  | some p =>
    obtain ⟨a, s₁⟩ := p
    cases hrest : runCalls net rest s₁ with
    | none => simp [hc, hrest] at h
    | some q =>
      obtain ⟨answers', s₂⟩ := q
      simp only [hc, hrest, Option.some.injEq, Prod.mk.injEq] at h
      obtain ⟨rfl, rfl⟩ := h
      exact ⟨a, s₁, answers', rfl, hrest, rfl⟩

end Runs

/-! ### The cache's invariant -/

/-- Every token the cache holds was granted by the answer to one of the token requests sent, and
expires at a reading of the clock taken so far plus that answer's lifetime less the margin. -/
def CacheSound (net : Net) (s : Session) : Prop :=
  ∀ tok, s.cache = some tok → ∃ n m r, s.sent[n]? = some .token ∧ Granted net n r ∧
    m < s.readings ∧ tok = keptToken net m r

namespace CacheSound

variable {net : Net} {s s' : Session}

theorem empty (net : Net) : CacheSound net {} := by
  intro tok h
  cases h

theorem tick (h : CacheSound net s) : CacheSound net s.tick := by
  intro tok hc
  obtain ⟨n, m, r, hn, hr, hm, rfl⟩ := h tok hc
  exact ⟨n, m, r, hn, hr, by simp; omega, rfl⟩

theorem send (h : CacheSound net s) (q : Request) : CacheSound net (s.send q) := by
  intro tok hc
  obtain ⟨n, m, r, hn, hr, hm, rfl⟩ := h tok hc
  have hlt : n < s.sent.length := (List.getElem?_eq_some_iff.1 hn).1
  exact ⟨n, m, r, by rw [Session.send_sent, List.getElem?_append_left hlt, hn], hr, hm, rfl⟩

theorem forget (net : Net) (s : Session) : CacheSound net s.forget := by
  intro tok h
  cases h

theorem kept {r : TokenReply} (hr : Granted net s.sent.length r) :
    CacheSound net ((s.send .token).tick.keep (keptToken net s.readings r)) := by
  intro tok hc
  have htok : keptToken net s.readings r = tok := by simpa using hc
  exact ⟨s.sent.length, s.readings, r, by simp, hr, by simp, htok.symm⟩

variable {req : String → Request}

theorem attempt {R : Type} {ans : Nat → Except DirectoryError R} {x : Except DirectoryError R}
    (hs : CacheSound net s) (h : ContactApi.attempt net req ans s = some (x, s')) :
    CacheSound net s' := by
  rcases attempt_cases net req ans s with ⟨tok, -, -, h'⟩ | ⟨-, e, -, h'⟩ | ⟨-, r, hr, -, h'⟩ |
    ⟨-, r, -, -, h'⟩ <;> rw [h'] at h <;> cases h
  · exact hs.tick.send _
  · exact hs.tick.send _
  · exact (kept (s := s.tick) (by simpa using hr)).send _

theorem exchange {α : Type} {ans : Nat → Except DirectoryError (ApiReply α)}
    {x : Except DirectoryError (ApiReply α)} (hs : CacheSound net s)
    (h : ContactApi.exchange net req ans s = some (x, s')) : CacheSound net s' := by
  rcases exchange_cases net req ans s with hfirst | ⟨reply, s₁, h₁, -, hsecond⟩
  · exact hs.attempt (hfirst ▸ h)
  · -- the first attempt keeps the invariant, forgetting the token too, and so does the second
    have hs₁ : CacheSound net s₁ := hs.attempt h₁
    exact (forget net s₁).attempt (hsecond ▸ h)

theorem call {c : Call} {a : Answer} (hs : CacheSound net s) (h : c.run net s = some (a, s')) :
    CacheSound net s' := by
  obtain ⟨_, _, _, _, -, hx⟩ := Call.run_eq_some h
  exact hs.exchange hx

theorem runCalls {calls : List Call} {answers : List Answer} (hs : CacheSound net s)
    (h : ContactApi.runCalls net calls s = some (answers, s')) : CacheSound net s' := by
  induction calls generalizing s answers with
  | nil =>
    simp only [ContactApi.runCalls, Option.some.injEq, Prod.mk.injEq] at h
    obtain ⟨-, rfl⟩ := h
    exact hs
  | cons c rest ih =>
    obtain ⟨a, s₁, answers', hc, hrest, -⟩ := runCalls_cons_eq_some h
    exact ih (hs.call hc) hrest

end CacheSound

/-! ### Calls -/

section Calls

variable {net : Net} {s s' : Session}

theorem addContactWay_api {request : ContactWayRequest} {reply : ApiReply ContactWay}
    (h : exchange net (.contactWay · request) net.wayAnswer s = some (.ok reply, s'))
    (hcode : reply.errcode ≠ 0) :
    addContactWay net request s = some (.error (.api reply.errcode reply.errmsg), s') := by
  simp [addContactWay, h, ApiReply.result, hcode]

theorem getExternalContact_api {externalUserId : String} {reply : ApiReply (Option RawContact)}
    (h : exchange net (.contact · externalUserId) net.contactAnswer s = some (.ok reply, s'))
    (hcode : reply.errcode ≠ 0) :
    getExternalContact net externalUserId s =
      some (.error (.api reply.errcode reply.errmsg), s') := by
  simp [getExternalContact, h, ApiReply.result, hcode, Except.bind]

theorem getExternalContact_absent {externalUserId : String}
    {reply : ApiReply (Option RawContact)}
    (h : exchange net (.contact · externalUserId) net.contactAnswer s = some (.ok reply, s'))
    (hcode : reply.errcode = 0) (hnone : reply.payload = none) :
    getExternalContact net externalUserId s =
      some (.error (.decode "response without external_contact"), s') := by
  simp [getExternalContact, h, ApiReply.result, hcode, hnone, Except.bind]

theorem Call.countP_sent {c : Call} {a : Answer} (h : c.run net s = some (a, s')) :
    ∃ new, s'.sent = s.sent ++ new ∧ new.countP Request.isToken ≤ 2 ∧
      new.countP (fun q => !q.isToken) ≤ 2 := by
  obtain ⟨_, _, _, _, hreq, hx⟩ := Call.run_eq_some h
  exact countP_exchange_sent hreq hx

theorem Call.run_none {c : Call} (h : c.run net s = none) :
    ∃ n m r, s.sent.length ≤ n ∧ s.readings ≤ m ∧ Granted net n r ∧ KeptFits net m r = false := by
  obtain ⟨_, _, _, hx⟩ := Call.run_eq_none h
  exact exchange_none hx

theorem Call.run_stops {c : Call} {r : TokenReply} (hstale : Stale net s)
    (hr : Granted net s.sent.length r) (hfit : KeptFits net (s.readings + 1) r = false) :
    c.run net s = none := by
  have hstop : ∀ {α : Type} (req : String → Request)
      (ans : Nat → Except DirectoryError (ApiReply α)), exchange net req ans s = none := by
    intro α req ans
    simp [exchange, attempt_stops hstale hr hfit]
  cases c <;> simp [Call.run, ContactApi.addContactWay, ContactApi.getExternalContact, hstop]

end Calls

/-- The contact API client's token handling, for every network and every session. A token that
has not expired at the call's first reading is used with no fetch, and a stale cache makes the
call ask for a token first. After an answer with a token errcode the call forgets its token and
fetches once more: a refused fetch is the call's answer, and a granted token is used for exactly
one more request, whose answer is the call's. A call sends at most two token requests and two
API requests, and answers the API's failure for a non-zero last errcode and a decode failure
for a contact answer without a contact. The program stops in a call only where a token granted
in it expires past the clock's last instant, and does stop there. Along every run of calls from a
fresh client, the cache holds only granted tokens, kept from a reading of the clock for the
granted lifetime less the margin. -/
theorem contact_calls_refresh_token_once (net : Net) :
    (∀ {α : Type} (req : String → Request) (ans : Nat → Except DirectoryError (ApiReply α))
      (s : Session) (tok : CachedToken), s.cache = some tok →
        net.clock s.readings < tok.expiresAt →
        attempt net req ans s = some (ans s.sent.length, s.tick.send (req tok.value))) ∧
    (∀ {α : Type} (req : String → Request) (ans : Nat → Except DirectoryError (ApiReply α))
      (s : Session) x s', Stale net s → attempt net req ans s = some (x, s') →
        ∃ rest, s'.sent = s.sent ++ .token :: rest) ∧
    (∀ {α : Type} (req : String → Request) (ans : Nat → Except DirectoryError (ApiReply α))
      (s : Session) (reply : ApiReply α) (s₁ : Session),
      attempt net req ans s = some (.ok reply, s₁) → reply.errcode ∈ tokenErrcodes →
        (∀ e, Refused net s₁.sent.length e →
          exchange net req ans s = some (.error e, s₁.forget.tick.send .token)) ∧
        (∀ r, Granted net s₁.sent.length r → KeptFits net (s₁.readings + 1) r = true →
          ∃ s₂, exchange net req ans s = some (ans (s₁.sent.length + 1), s₂) ∧
            s₂.sent = s₁.sent ++ [.token, req r.accessToken] ∧
            s₂.cache = some (keptToken net (s₁.readings + 1) r))) ∧
    (∀ (c : Call) (s : Session) a s', c.run net s = some (a, s') →
      ∃ new, s'.sent = s.sent ++ new ∧ new.countP Request.isToken ≤ 2 ∧
        new.countP (fun q => !q.isToken) ≤ 2) ∧
    (∀ request (s : Session) (reply : ApiReply ContactWay) s',
      exchange net (.contactWay · request) net.wayAnswer s = some (.ok reply, s') →
        reply.errcode ≠ 0 →
        addContactWay net request s = some (.error (.api reply.errcode reply.errmsg), s')) ∧
    (∀ externalUserId (s : Session) (reply : ApiReply (Option RawContact)) s',
      exchange net (.contact · externalUserId) net.contactAnswer s = some (.ok reply, s') →
        (reply.errcode ≠ 0 →
          getExternalContact net externalUserId s =
            some (.error (.api reply.errcode reply.errmsg), s')) ∧
        (reply.errcode = 0 → reply.payload = none →
          getExternalContact net externalUserId s =
            some (.error (.decode "response without external_contact"), s'))) ∧
    (∀ (c : Call) (s : Session), c.run net s = none →
      ∃ n m r, s.sent.length ≤ n ∧ s.readings ≤ m ∧ Granted net n r ∧
        KeptFits net m r = false) ∧
    (∀ (c : Call) (s : Session) r, Stale net s → Granted net s.sent.length r →
      KeptFits net (s.readings + 1) r = false → c.run net s = none) ∧
    CacheSound net {} ∧
    (∀ calls (s : Session) answers s', CacheSound net s →
      runCalls net calls s = some (answers, s') → CacheSound net s') := by
  refine ⟨fun req ans s tok h hnow => attempt_reuse h hnow,
    fun req ans s x s' hstale h => attempt_stale_sent hstale h,
    fun req ans s reply s₁ h ht => exchange_refetch h ht,
    fun c s a s' h => Call.countP_sent h,
    fun request s reply s' h hcode => addContactWay_api h hcode,
    fun externalUserId s reply s' h =>
      ⟨getExternalContact_api h, getExternalContact_absent h⟩,
    fun c s h => Call.run_none h,
    fun c s r hstale hr hfit => Call.run_stops hstale hr hfit,
    CacheSound.empty net,
    fun calls s answers s' hs h => hs.runCalls h⟩

/-- A token answer whose lifetime is the largest unsigned 64-bit count of seconds stops the
program in the first call, one second after the clock started: the call neither answers nor keeps
the token, and its request for a contact way is never sent. -/
theorem largest_token_lifetime_stops_call :
    let net : Net :=
      { tokenAnswer := fun _ => .ok { accessToken := "tok-1", expiresIn := 18446744073709551615 },
        wayAnswer := fun _ => .ok { payload := ⟨"cfg-9", "https://qr.example.com/cfg-9"⟩ },
        contactAnswer := fun _ => .error (.transport "connection refused"),
        clock := fun _ => 1000000000 }
    (Call.addContactWay ⟨"zhangsan", "mdy:q83vEjRWeJCrze8SNFZ4kA", true⟩).run net {} = none := by
  intro net
  have hgranted :
      Granted net 0 { accessToken := "tok-1", expiresIn := 18446744073709551615 } :=
    ⟨rfl, rfl, by decide⟩
  -- the lifetime alone lies past the clock's last instant
  have hpast :
      KeptFits net 1 { accessToken := "tok-1", expiresIn := 18446744073709551615 } = false := by
    simp only [KeptFits, expiryFits, nanosPerSecond, expiryMarginSecs,
      Nat.add_mul_div_right _ _ (by decide : 0 < 1000000000)]
    decide
  exact Call.run_stops (fun tok h => by cases h) hgranted hpast

end RosterSync.Directory.ContactApi

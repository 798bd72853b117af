import Deliivo.Store.Counter

/-!
# How requests are counted for rate limits

Every limiter counts the requests of a client in Redis, under its own prefix and the client's key. The
request that begins a count lets it expire after the window of the limiter. Where Redis cannot be asked,
the request is answered as if it had not been counted, and passes.

## Main definitions

* `increment`: `RedisStore.increment`
* `rateLimitPool`: requests next to each other, while time passes

## Main results

* `rate_limit_window`: in any stretch of one window at most twice the limit is counted within it, and
  nothing else is answered as counted
-/

open Program (Concurrent Logged Move Pool Protocol)

namespace Deliivo.RateLimit

/-- The limiters, by their prefix. -/
inductive Limiter
  | api
  | otpIdentifier
  | otpIp
  | otpSubnet
  | search
  | booking
  deriving DecidableEq

def Limiter.keyPrefix : Limiter → String
  | .api => "rl:api"
  | .otpIdentifier => "rl:otp:id"
  | .otpIp => "rl:otp:ip"
  | .otpSubnet => "rl:otp:net"
  | .search => "rl:search"
  | .booking => "rl:booking"

/-- How long the window of a limiter is; that of codes is configured. -/
def Limiter.windowMs (otpWindowMs : ℕ) : Limiter → ℕ
  | .otpIdentifier | .otpIp | .otpSubnet => otpWindowMs
  | .api | .search | .booking => 60 * 1000

/-- Where the requests of a client are counted. -/
abbrev LimitKey := Limiter × String

structure IncrementResponse where
  totalHits : ℕ
  resetTime : ℕ
  deriving DecidableEq

/-- A request has been answered as the `totalHits`-th one; zero where Redis could not be asked. -/
structure Answered where
  key : LimitKey
  totalHits : ℕ
  deriving DecidableEq

inductive RedisFailure
  | unavailable

abbrev LimitService := Program (CounterCall LimitKey Answered RedisFailure) RedisFailure

/-- What `PTTL` answers: -1 for a key that does not expire and -2 for none. -/
def pttl : Option (Option ℕ) → ℤ
  | none => -2
  | some none => -1
  | some (some ms) => ms

/-- Count a request, and say when the count ends. -/
def countHit (windowMs : ℕ) (key : LimitKey) : LimitService IncrementResponse := do
  let totalHits ← Program.perform (.store (.incr key))
  if totalHits = 1 then
    Program.perform (.store (.expire key windowMs))
  let remaining ← Program.perform (.store (.remaining key))
  let now ← Program.command .clock
  return ⟨totalHits, now + if pttl remaining > 0 then (pttl remaining).toNat else windowMs⟩

/-- `RedisStore.increment`: where Redis cannot be asked, the request passes. -/
def increment (windowMs : ℕ) (key : LimitKey) : LimitService IncrementResponse :=
  (countHit windowMs key).tryCatch fun _ => do
    let now ← Program.command .clock
    return ⟨0, now + windowMs⟩

/-- A request that a limiter counts. -/
def countRequest (otpWindowMs : ℕ) (key : LimitKey) : LimitService Unit := do
  let response ← increment (key.1.windowMs otpWindowMs) key
  Program.command (.note ⟨key, response.totalHits⟩)

/-- Requests next to each other, while time passes. -/
def rateLimitPool (otpWindowMs : ℕ) :
    Concurrent (CounterCall LimitKey Answered RedisFailure) RedisFailure CounterReply
      (CounterEvent LimitKey Answered) (ExpiringStore LimitKey ℕ) ℕ LimitKey :=
  counterPool .unavailable (countRequest otpWindowMs)

/-! ## The protocol -/

abbrev LoggedLimit := Logged (CounterEvent LimitKey Answered) (ExpiringStore LimitKey ℕ)

/-- What a request is answered, it has been counted as. -/
def AnswersCounted (own : List (CounterEvent LimitKey Answered)) : Prop :=
  ∀ key totalHits, .own ⟨key, totalHits⟩ ∈ own → totalHits ≠ 0 → ∃ t, .hit key ⟨totalHits, t⟩ ∈ own

theorem AnswersCounted.hit {own : List (CounterEvent LimitKey Answered)} (h : AnswersCounted own)
    (key : LimitKey) (hit : Hit) : AnswersCounted (own ++ [.hit key hit]) := by
  intro key' totalHits hmem hne
  obtain ⟨t, ht⟩ := h key' totalHits ((List.mem_append.mp hmem).resolve_right fun hmem => by
    cases List.mem_singleton.mp hmem) hne
  exact ⟨t, List.mem_append_left _ ht⟩

theorem AnswersCounted.answer {own : List (CounterEvent LimitKey Answered)} (h : AnswersCounted own)
    {key : LimitKey} {totalHits : ℕ} (hhit : totalHits ≠ 0 → ∃ t, .hit key ⟨totalHits, t⟩ ∈ own) :
    AnswersCounted (own ++ [.own ⟨key, totalHits⟩]) := by
  intro key' totalHits' hmem hne
  rcases List.mem_append.mp hmem with hmem | hmem
  · obtain ⟨t, ht⟩ := h key' totalHits' hmem hne
    exact ⟨t, List.mem_append_left _ ht⟩
  · obtain ⟨rfl, rfl⟩ := Answered.mk.inj (CounterEvent.own.inj (List.mem_singleton.mp hmem))
    obtain ⟨t, ht⟩ := hhit hne
    exact ⟨t, List.mem_append_left _ ht⟩

/-- How long the counts of a key live. -/
def keyWindow (otpWindowMs : ℕ) (key : LimitKey) : ℕ := key.1.windowMs otpWindowMs

abbrev limitProtocol (otpWindowMs : ℕ) :
    Protocol (counterPool RedisFailure.unavailable (countRequest otpWindowMs)) (fun _ _ _ _ _ => True)
      fun _ _ => True :=
  counting .unavailable (countRequest otpWindowMs) (keyWindow otpWindowMs) AnswersCounted _

section Requests

variable {otpWindowMs : ℕ} {op : LimitKey} {tid : ℕ} {x : LoggedLimit} {key : LimitKey}

/-- The request has been counted as the `totalHits`-th one, or not at all. -/
def CountedAs (tid : ℕ) (key : LimitKey) (totalHits : ℕ) (x : LoggedLimit) : Prop :=
  AnswersCounted (x.own tid) ∧ (totalHits ≠ 0 → ∃ t, .hit key ⟨totalHits, t⟩ ∈ x.own tid)

theorem stable_countedAs (totalHits : ℕ) :
    (limitProtocol otpWindowMs).Stable tid (CountedAs tid key totalHits) := by
  intro x y hx hy _
  rw [CountedAs, hy.1]
  exact hx

/-- A request whose count is not known. -/
theorem CountedAs.zero {totalHits : ℕ} (h : CountedAs tid key totalHits x) : CountedAs tid key 0 x :=
  ⟨h.1, fun hne => absurd rfl hne⟩

/-- A command that counts nothing changes nothing of it. -/
theorem CountedAs.next_nil {totalHits : ℕ} (h : CountedAs tid key totalHits x)
    (s : ExpiringStore LimitKey ℕ) : CountedAs tid key totalHits (x.next tid [] s) := by
  rw [CountedAs, Logged.own_next_self, List.append_nil]
  exact h

/-- What a count owes: a request that has not been counted is answered with zero. -/
def IncrementAs (tid : ℕ) (key : LimitKey) : Except RedisFailure IncrementResponse → LoggedLimit → Prop
  | .ok response, x => CountedAs tid key response.totalHits x
  | .error _, x => CountedAs tid key 0 x

theorem safe_reset {totalHits : ℕ} (reset : ℕ → ℕ) (hx : CountedAs tid key totalHits x) :
    (limitProtocol otpWindowMs).Safe op tid (IncrementAs tid key)
      ((Program.command .clock).bind fun now => Program.ret ⟨totalHits, reset now⟩) x :=
  Protocol.Safe.bind (counting_clock (stable_countedAs _) hx fun _ hy => hy)

/-- What is left of a request that has been counted only reads. -/
theorem safe_reading {totalHits : ℕ} (reset : Option (Option ℕ) → ℕ → ℕ)
    (hx : CountedAs tid key totalHits x) :
    (limitProtocol otpWindowMs).Safe op tid (IncrementAs tid key)
      ((Program.perform (.store (.remaining key))).bind fun remaining =>
        (Program.command .clock).bind fun now => Program.ret ⟨totalHits, reset remaining now⟩) x := by
  refine Protocol.Safe.bind (counting_perform (stable_countedAs _) hx trivial (fun y _ hy _ => ?_)
    fun _ hy => hy.zero)
  have hnext := hy.next_nil y.state
  refine ⟨(List.append_nil (y.own tid)).symm ▸ hy.1, ?_, hnext.zero⟩
  exact safe_reset (reset (y.state.remaining key)) hnext

theorem safe_countHit (hx : CountedAs tid key 0 x) :
    (limitProtocol otpWindowMs).Safe op tid (IncrementAs tid key)
      (countHit (keyWindow otpWindowMs key) key) x := by
  refine Protocol.Safe.bind (counting_perform (c := .incr key) (stable_countedAs 0) hx trivial
    (fun y i hy _ => ?_) fun _ hy => hy)
  rw [CounterCommand.exec_incr, counted_singleton]
  generalize ((CounterCommand.incr key).exec y.state).1 = totalHits
  have hhit := hy.1.hit key ⟨totalHits, y.state.now⟩
  have hcounted : CountedAs tid key totalHits (y.next tid [.hit key ⟨totalHits, y.state.now⟩]
      ((CounterCommand.incr key).exec y.state).2.2) := by
    rw [CountedAs, Logged.own_next_self]
    exact ⟨hhit, fun _ => ⟨_, List.mem_append_right _ List.mem_cons_self⟩⟩
  refine ⟨hhit, ?_, hcounted.zero⟩
  let reset (remaining : Option (Option ℕ)) (now : ℕ) :=
    now + if pttl remaining > 0 then (pttl remaining).toNat else keyWindow otpWindowMs key
  dsimp only
  by_cases hone : totalHits = 1
  · -- the count is given its time to live
    rw [if_pos hone]
    refine Protocol.Safe.bind (counting_perform (stable_countedAs _) hcounted le_rfl
      (fun z _ hz _ => ?_) fun _ hz => hz.zero)
    rw [CounterCommand.exec_expire, counted_nil, List.append_nil]
    exact ⟨hz.1, safe_reading reset (hz.next_nil _), (hz.next_nil _).zero⟩
  · rw [if_neg hone]
    exact safe_reading reset hcounted

theorem safe_increment (hx : x.own tid = []) :
    (limitProtocol otpWindowMs).Safe op tid (IncrementAs tid key)
      (increment (keyWindow otpWindowMs key) key) x := by
  have hstart : CountedAs tid key 0 x := by
    rw [CountedAs, hx]
    exact ⟨fun _ _ hmem => absurd hmem List.not_mem_nil, fun hne => absurd rfl hne⟩
  refine Protocol.Safe.tryCatch ((safe_countHit hstart).mono ?_)
  rintro (e | response) y hy
  · exact safe_reset (fun now => now + keyWindow otpWindowMs key) hy
  · exact hy

theorem safeOperations_limit : (limitProtocol otpWindowMs).SafeOperations := by
  intro key tid x _ hfresh
  refine Protocol.Safe.bind ((safe_increment (Logged.own_eq_nil hfresh)).mono ?_)
  rintro (e | response) y hy
  · trivial
  · exact counting_note (stable_countedAs _) hy fun z hz => ⟨hz.1.answer hz.2, trivial⟩

end Requests

/-! ## Runs -/

/-- A store in which nothing has been counted. -/
def limitStart : Pool (CounterCall LimitKey Answered RedisFailure) RedisFailure
    (CounterEvent LimitKey Answered) (ExpiringStore LimitKey ℕ) LimitKey where
  now := { state := {} }

/-- What is counted for a client is counted in windows, and no other count is answered. -/
structure LimitHolds (otpWindowMs : ℕ) (log : List (ℕ × CounterEvent LimitKey Answered)) : Prop where
  /-- In any stretch of one window, the first `limit` of a count come twice at most. -/
  window : ∀ key limit moment,
    countWithin limit (keyWindow otpWindowMs key) moment (hits key log) ≤ 2 * limit
  answers : ∀ tid key totalHits, (tid, .own ⟨key, totalHits⟩) ∈ log → totalHits ≠ 0 →
    ∃ t, (tid, .hit key ⟨totalHits, t⟩) ∈ log

/-- **A limit holds** in every stretch of time as long as its window, but for a factor of two. -/
theorem rate_limit_window (otpWindowMs : ℕ) (moves : List (Move LimitKey CounterReply ℕ)) :
    History.Always (Pool.step (rateLimitPool otpWindowMs))
      (fun p => LimitHolds otpWindowMs p.now.log) limitStart moves := by
  have hstart : (limitProtocol otpWindowMs).Holds limitStart := by
    refine Protocol.holds_of_inv ⟨fun key => ⟨.nil, ?_, ?_, ?_⟩, fun t => ?_⟩ rfl rfl
    · exact fun _ hmem => absurd hmem List.not_mem_nil
    · exact fun v e hlive => by cases hlive
    · exact fun _ g hg => absurd hg (Option.not_mem_none g)
    · exact fun _ _ hmem => absurd hmem List.not_mem_nil
  have hmeets : History.Each (Pool.step (rateLimitPool otpWindowMs))
      (Pool.Meets (rateLimitPool otpWindowMs) (fun _ _ _ _ _ => True) fun _ _ => True)
      limitStart moves :=
    (History.each_true limitStart moves).imp (I := fun _ => True) (fun _ _ _ => trivial)
      (fun p move _ _ => Pool.meets_of_forall (fun _ _ _ _ _ => trivial) (fun _ _ => trivial) p move)
      trivial
  refine ((limitProtocol otpWindowMs).sound safeOperations_limit hstart hmeets).imp fun p hp => ?_
  obtain ⟨hcounted, hok⟩ := hp.inv
  refine ⟨fun key limit moment => (hcounted key).windowed.count_window_le, ?_⟩
  intro tid key totalHits hmem hne
  obtain ⟨t, hhit⟩ := hok tid key totalHits (Logged.mem_own.mpr hmem) hne
  exact ⟨t, Logged.mem_own.mp hhit⟩

end Deliivo.RateLimit

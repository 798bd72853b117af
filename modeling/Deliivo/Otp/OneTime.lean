import Deliivo.Otp.Service

/-!
# A code is used once

What a verification writes is decided from the record it has read, and nothing ties the write to that
record. Where every write finds the record as it was read, and no wrong guess is compared while another
one has not been counted, a code is accepted once at most, within its time, and a bounded number of wrong
guesses is compared with it.

## Main definitions

* `otpPool`: calls about one code next to each other, while time passes
* `since`: what has been reported since a code was created
* `OtpStep`: the condition on the steps
* `UsedOnce`: the code has been guessed, and accepted, as it should

## Main results

* `otp_used_once`: if every step meets the condition, so it has at all times
-/

open Program (Concurrent Logged Move Pool Protocol)

namespace Deliivo

variable {identifier method : String} {purpose : OtpPurpose}

/-- Calls about the code of one identifier next to each other, while time passes. -/
def otpPool (identifier : String) (purpose : OtpPurpose) (method : String) :
    Concurrent (StoreCall String OtpRecord OtpEvent) Err Unit OtpEvent OtpStore ℕ OtpOp :=
  storePool (OtpOp.program identifier purpose method)

abbrev LoggedOtp := Logged OtpEvent OtpStore

/-! ## What is said of a code -/

/-- When a code was created, and what has been reported since. -/
def since : List (ℕ × OtpEvent) → Option (ℕ × List OtpEvent)
  | [] => none
  | (_, .created moment) :: log => some (moment, log.map Prod.snd)
  | _ :: log => since log

/-- The guess was wrong. -/
def OtpEvent.isMiss : OtpEvent → Bool
  | .compared right => !right
  | _ => false

def OtpEvent.isAccepted : OtpEvent → Bool
  | .accepted _ _ => true
  | _ => false

/-- The code is good for this long. -/
def otpLifetime : ℕ := otpExpiryMinutes * 60 * 1000

/-- What happens to a code is as it should be: it is accepted once at most and while it is good, and a
bounded number of wrong guesses is compared with it. -/
structure CodeUsedOnce (createdAt : ℕ) (events : List OtpEvent) : Prop where
  once : events.countP OtpEvent.isAccepted ≤ 1
  guesses : events.countP OtpEvent.isMiss ≤ otpMaxAttempts
  early : ∀ read moment, .accepted read moment ∈ events → moment < createdAt + otpLifetime

/-- The code that has been created, if one has, is used as it should. -/
def UsedOnce (x : LoggedOtp) : Prop :=
  ∀ createdAt events, since x.log = some (createdAt, events) → CodeUsedOnce createdAt events

/-- A wrong guess of this thread has been compared and not been counted yet. -/
def Uncounted (x : LoggedOtp) (tid : ℕ) : Prop := x.own tid = [.compared false]

/-- What a step of the calls has to meet. -/
structure OtpStep (identifier : String) (purpose : OtpPurpose) (method : String) (_ : OtpOp) (tid : ℕ)
    (x : LoggedOtp) (_ : Unit) (es : List OtpEvent) : Prop where
  /-- One code is created. -/
  one : ∀ moment, .created moment ∈ es → since x.log = none
  /-- No wrong guess is compared with it while another one has not been counted. -/
  counted : since x.log ≠ none → .compared false ∈ es → ∀ t, ¬ Uncounted x t
  /-- A wrong guess is counted in the record that has been read. -/
  recorded : ∀ read, since x.log ≠ none → .missRecorded read ∈ es →
    x.state.get? (otpKey identifier purpose method) = some read
  /-- A guess is accepted while the record that has been read is there. -/
  accepted : ∀ read moment, since x.log ≠ none → .accepted read moment ∈ es →
    x.state.get? (otpKey identifier purpose method) = some read

section Since

variable {log : List (ℕ × OtpEvent)} {tid : ℕ} {e : OtpEvent}

theorem since_append_of_some {createdAt : ℕ} {events : List OtpEvent}
    (h : since log = some (createdAt, events)) (log' : List (ℕ × OtpEvent)) :
    since (log ++ log') = some (createdAt, events ++ log'.map Prod.snd) := by
  induction log with
  | nil => cases h
  | cons entry log ih =>
    obtain ⟨i, e⟩ := entry
    cases e with
    | created moment =>
      obtain ⟨rfl, rfl⟩ := Prod.mk.injEq .. ▸ Option.some.inj h
      rw [List.cons_append, since, List.map_append]
    | compared right => exact ih h
    | missRecorded read => exact ih h
    | accepted read moment => exact ih h

theorem since_append_of_none (h : since log = none) (log' : List (ℕ × OtpEvent)) :
    since (log ++ log') = since log' := by
  induction log with
  | nil => rfl
  | cons entry log ih =>
    obtain ⟨i, e⟩ := entry
    cases e with
    | created moment => cases h
    | compared right => exact ih h
    | missRecorded read => exact ih h
    | accepted read moment => exact ih h

end Since

/-! ## The protocol -/

/-- The record of a code that has been created, while it is there: it has not been accepted, it expires
in time, and it counts the wrong guesses, the one apart that has not been counted yet. -/
structure RecordSound (createdAt : ℕ) (events : List OtpEvent) (x : LoggedOtp) (read : OtpRecord)
    (expiresAt : Option ℕ) : Prop where
  expires : expiresAt = some (createdAt + otpLifetime)
  unused : events.countP OtpEvent.isAccepted = 0
  counts : events.countP OtpEvent.isMiss ≤ read.attempts ∨
    events.countP OtpEvent.isMiss ≤ read.attempts + 1 ∧ ∃ t, Uncounted x t

/-- A code that has been created is used as it should, and its record is sound while it is there. -/
structure OtpInv (key : String) (x : LoggedOtp) : Prop where
  used : UsedOnce x
  sound : ∀ createdAt events, since x.log = some (createdAt, events) → ∀ read expiresAt,
    x.state.live key = some (read, expiresAt) → RecordSound createdAt events x read expiresAt

theorem OtpInv.wait {key : String} {x : LoggedOtp} (h : OtpInv key x) (d : ℕ) :
    OtpInv key { x with state := x.state.wait d } where
  used := h.used
  sound createdAt events hsince read expiresAt hlive :=
    let hsound := h.sound createdAt events hsince read expiresAt (ExpiringStore.live_wait hlive)
    ⟨hsound.expires, hsound.unused, hsound.counts⟩

/-- The protocol of the calls; what a thread has reported, only it adds to. -/
def otpProtocol (identifier : String) (purpose : OtpPurpose) (method : String) :
    Protocol (otpPool identifier purpose method) (OtpStep identifier purpose method)
      fun _ _ => True where
  Inv := OtpInv (otpKey identifier purpose method)
  Rely tid x y := y.own tid = x.own tid
  Guar tid x y := ∀ t, t ≠ tid → y.own t = x.own t
  Post _ _ _ := True
  rely_refl _ _ := rfl
  rely_trans h h' := h'.trans h
  guar_rely hne _ h := h _ hne
  env_inv h _ := h.wait _
  env_rely _ _ _ := rfl
  post_stable _ _ _ := trivial

/-! ## The steps -/

section Steps

variable {key : String} {x : LoggedOtp} {tid : ℕ}

/-- **A code is created**, and nothing has been reported of it. -/
theorem inv_created (h : since x.log = none) (moment : ℕ) (code : String) :
    OtpInv key (x.next tid [.created moment]
      (x.state.put key ⟨code, 0⟩ (some (moment + otpLifetime)))) := by
  have hsince : since (x.next tid [.created moment]
      (x.state.put key ⟨code, 0⟩ (some (moment + otpLifetime)))).log = some (moment, []) :=
    since_append_of_none h _
  constructor
  · intro createdAt events hthere
    obtain ⟨rfl, rfl⟩ := Prod.mk.injEq .. ▸ Option.some.inj (hsince.symm.trans hthere)
    exact ⟨Nat.zero_le _, Nat.zero_le _, fun _ _ hmem => absurd hmem List.not_mem_nil⟩
  · intro createdAt events hthere read expiresAt hlive
    obtain ⟨rfl, rfl⟩ := Prod.mk.injEq .. ▸ Option.some.inj (hsince.symm.trans hthere)
    obtain ⟨rfl, rfl⟩ := ExpiringStore.eq_of_live_put hlive
    exact ⟨rfl, rfl, Or.inl (Nat.zero_le _)⟩

/-- What any other step has to keep, once a code has been created. -/
theorem inv_next {es : List OtpEvent} {s : OtpStore} (hes : ∀ moment, .created moment ∉ es)
    (h : ∀ createdAt events, since x.log = some (createdAt, events) →
      CodeUsedOnce createdAt (events ++ es) ∧ ∀ read expiresAt, s.live key = some (read, expiresAt) →
        RecordSound createdAt (events ++ es) (x.next tid es s) read expiresAt) :
    OtpInv key (x.next tid es s) := by
  have hsame : (es.map (Prod.mk tid)).map Prod.snd = es := by
    rw [List.map_map]
    exact List.map_id es
  cases hbefore : since x.log with
  | none =>
    -- nothing has been created, and nothing is now
    have hnone : since (x.next tid es s).log = none := by
      refine (since_append_of_none hbefore _).trans ?_
      clear h hsame
      induction es with
      | nil => rfl
      | cons e es ih =>
        have hrest := ih fun moment hmem => hes moment (List.mem_cons_of_mem _ hmem)
        cases e with
        | created moment => exact absurd List.mem_cons_self (hes moment)
        | compared right => exact hrest
        | missRecorded read => exact hrest
        | accepted read moment => exact hrest
    refine ⟨fun createdAt events hthere => ?_, fun createdAt events hthere => ?_⟩
    · cases hnone.symm.trans hthere
    · cases hnone.symm.trans hthere
  | some created =>
    obtain ⟨createdAt, events⟩ := created
    obtain ⟨hused, hsound⟩ := h createdAt events hbefore
    have hsince : since (x.next tid es s).log = some (createdAt, events ++ es) := by
      rw [Logged.next, since_append_of_some hbefore, hsame]
    constructor
    · intro createdAt' events' hthere
      obtain ⟨rfl, rfl⟩ := Prod.mk.injEq .. ▸ Option.some.inj (hsince.symm.trans hthere)
      exact hused
    · intro createdAt' events' hthere
      obtain ⟨rfl, rfl⟩ := Prod.mk.injEq .. ▸ Option.some.inj (hsince.symm.trans hthere)
      exact hsound

variable {read : OtpRecord} {expiresAt : Option ℕ}

/-- A wrong guess of another thread is still to be counted. -/
theorem uncounted_next {t : ℕ} {es : List OtpEvent} {s : OtpStore} (h : Uncounted x t) (hne : t ≠ tid) :
    Uncounted (x.next tid es s) t := (Logged.own_next_ne hne).trans h

/-- What is not an acceptance leaves the acceptances as they are. -/
theorem CodeUsedOnce.append {createdAt : ℕ} {events : List OtpEvent} {e : OtpEvent}
    (h : CodeUsedOnce createdAt events) (he : e.isAccepted = false)
    (hguesses : (events ++ [e]).countP OtpEvent.isMiss ≤ otpMaxAttempts) :
    CodeUsedOnce createdAt (events ++ [e]) where
  once := by simpa [List.countP_append, List.countP_singleton, he] using h.once
  guesses := hguesses
  early read moment hmem := by
    rcases List.mem_append.mp hmem with hold | hnew
    · exact h.early read moment hold
    · rw [← List.mem_singleton.mp hnew] at he
      cases he

/-- **A right guess is compared.** -/
theorem inv_right (h : OtpInv key x) (hfresh : x.own tid = []) :
    OtpInv key (x.next tid [.compared true] x.state) := by
  refine inv_next (by simp) fun createdAt events hsince => ?_
  have hmiss : (events ++ [OtpEvent.compared true]).countP OtpEvent.isMiss =
      events.countP OtpEvent.isMiss := by
    simp [List.countP_append, OtpEvent.isMiss]
  refine ⟨(h.used createdAt events hsince).append rfl ?_, fun read expiresAt hlive => ?_⟩
  · rw [hmiss]
    exact (h.used createdAt events hsince).guesses
  · have hsound := h.sound createdAt events hsince read expiresAt hlive
    refine ⟨hsound.expires, ?_, ?_⟩
    · simpa [List.countP_append, OtpEvent.isAccepted] using hsound.unused
    · rw [hmiss]
      rcases hsound.counts with hcounts | ⟨hcounts, t, ht⟩
      · exact Or.inl hcounts
      · refine Or.inr ⟨hcounts, t, uncounted_next ht ?_⟩
        rintro rfl
        cases hfresh.symm.trans ht

/-- **A wrong guess is compared** with a record that has attempts left and counts the ones before. -/
theorem inv_wrong (h : OtpInv key x) {read : OtpRecord} (hread : x.state.get? key = some read)
    (hleft : read.attempts < otpMaxAttempts) (hfresh : x.own tid = [])
    (hcounted : since x.log ≠ none → ∀ t, ¬ Uncounted x t) :
    OtpInv key (x.next tid [.compared false] x.state) := by
  refine inv_next (by simp) fun createdAt events hsince => ?_
  have hmiss : (events ++ [OtpEvent.compared false]).countP OtpEvent.isMiss =
      events.countP OtpEvent.isMiss + 1 := by
    simp [List.countP_append, OtpEvent.isMiss]
  obtain ⟨expiresAt, hlive⟩ := ExpiringStore.get?_eq_some.mp hread
  have hsound := h.sound createdAt events hsince read expiresAt hlive
  have hcounts : events.countP OtpEvent.isMiss ≤ read.attempts := by
    rcases hsound.counts with hcounts | ⟨-, t, ht⟩
    · exact hcounts
    · exact absurd ht (hcounted (by rw [hsince]; exact Option.some_ne_none _) t)
  refine ⟨(h.used createdAt events hsince).append rfl ?_, fun read' expiresAt' hlive' => ?_⟩
  · rw [hmiss]
    exact Nat.lt_of_le_of_lt hcounts hleft
  · obtain ⟨rfl, rfl⟩ := Prod.mk.injEq .. ▸ Option.some.inj (hlive.symm.trans hlive')
    refine ⟨hsound.expires, ?_, Or.inr ⟨?_, tid, ?_⟩⟩
    · simpa [List.countP_append, OtpEvent.isAccepted] using hsound.unused
    · rw [hmiss]
      exact Nat.succ_le_succ hcounts
    · rw [Uncounted, Logged.own_next_self, hfresh]
      rfl

/-- **A wrong guess is counted** in the record that has been read. -/
theorem inv_missRecorded (h : OtpInv key x) {read : OtpRecord}
    (hread : since x.log ≠ none → x.state.get? key = some read) :
    OtpInv key (x.next tid [.missRecorded read]
      (x.state.put key { read with attempts := read.attempts + 1 }
        ((x.state.live key).bind Prod.snd))) := by
  refine inv_next (by simp) fun createdAt events hsince => ?_
  have hmiss : (events ++ [OtpEvent.missRecorded read]).countP OtpEvent.isMiss =
      events.countP OtpEvent.isMiss := by
    simp [List.countP_append, OtpEvent.isMiss]
  obtain ⟨expiresAt, hlive⟩ := ExpiringStore.get?_eq_some.mp
    (hread (by rw [hsince]; exact Option.some_ne_none _))
  have hsound := h.sound createdAt events hsince read expiresAt hlive
  refine ⟨(h.used createdAt events hsince).append rfl ?_, fun read' expiresAt' hlive' => ?_⟩
  · rw [hmiss]
    exact (h.used createdAt events hsince).guesses
  · obtain ⟨rfl, rfl⟩ := ExpiringStore.eq_of_live_put hlive'
    refine ⟨?_, ?_, Or.inl ?_⟩
    · rw [hlive]
      exact hsound.expires
    · simpa [List.countP_append, OtpEvent.isAccepted] using hsound.unused
    · -- one attempt more covers the guess that had not been counted
      rw [hmiss]
      rcases hsound.counts with hcounts | ⟨hcounts, -⟩
      · exact Nat.le_succ_of_le hcounts
      · exact hcounts

/-- **A right guess is accepted** while the record is there. -/
theorem inv_accepted (h : OtpInv key x) {read : OtpRecord}
    (hread : since x.log ≠ none → x.state.get? key = some read) :
    OtpInv key (x.next tid [.accepted read x.state.now] (x.state.delete key)) := by
  refine inv_next (by simp) fun createdAt events hsince => ?_
  obtain ⟨expiresAt, hlive⟩ := ExpiringStore.get?_eq_some.mp
    (hread (by rw [hsince]; exact Option.some_ne_none _))
  have hsound := h.sound createdAt events hsince read expiresAt hlive
  have hused := h.used createdAt events hsince
  have hnow : x.state.now < createdAt + otpLifetime :=
    (ExpiringStore.live_eq_some.mp hlive).2 _ hsound.expires
  refine ⟨⟨?_, ?_, ?_⟩, fun read' expiresAt' hlive' => ?_⟩
  · simp [List.countP_append, hsound.unused, OtpEvent.isAccepted]
  · simpa [List.countP_append, OtpEvent.isMiss] using hused.guesses
  · intro read' moment hmem
    rcases List.mem_append.mp hmem with hold | hnew
    · exact hused.early read' moment hold
    · obtain ⟨-, rfl⟩ := OtpEvent.accepted.injEq .. ▸ List.mem_singleton.mp hnew
      exact hnow
  · cases ExpiringStore.live_delete_self.symm.trans hlive'

/-- A record that is out of attempts is deleted. -/
theorem inv_deleted (h : OtpInv key x) : OtpInv key (x.next tid [] (x.state.delete key)) := by
  refine inv_next (by simp) fun createdAt events hsince => ?_
  rw [List.append_nil]
  refine ⟨h.used createdAt events hsince, fun read' expiresAt' hlive' => ?_⟩
  cases ExpiringStore.live_delete_self.symm.trans hlive'

end Steps

/-! ## The calls are safe -/

section Safe

variable {op : OtpOp} {tid : ℕ} {x : LoggedOtp}

/-- The thread has reported nothing yet. -/
def Silent (tid : ℕ) (x : LoggedOtp) : Prop := x.own tid = []

theorem stable_silent : (otpProtocol identifier purpose method).Stable tid (Silent tid) :=
  fun _ _ hx h _ => Eq.trans h hx

theorem otp_stable_true : (otpProtocol identifier purpose method).Stable tid fun _ => True :=
  fun _ _ _ _ _ => trivial

/-- A step of a thread, after which it owes nothing. -/
theorem keeps_of_inv {β : Type} {c : StoreCall String OtpRecord OtpEvent β} {y : LoggedOtp}
    (h : OtpStep identifier purpose method op tid y () (c.report y.state.now (c.command.exec y.state).1) →
      OtpInv (otpKey identifier purpose method)
        (y.next tid (c.report y.state.now (c.command.exec y.state).1) (c.command.exec y.state).2)) :
    (otpProtocol identifier purpose method).Keeps op tid c y fun _ _ => True :=
  keeps_call fun hcond => ⟨fun _ ht => Logged.own_next_ne ht, h hcond, trivial⟩

theorem safe_createOtp (code : String) :
    (otpProtocol identifier purpose method).Safe op tid (fun _ _ => True)
      (createOtp identifier purpose method code) x := by
  refine Protocol.Safe.bind (Protocol.Safe.command otp_stable_true trivial fun y _ hinv => ?_)
  intro i remaining es s hexec hcond
  obtain ⟨hguar, hinv', -⟩ := keeps_storeRead rfl (fun _ _ => rfl) hinv i remaining es s hexec hcond
  refine ⟨hguar, hinv', ?_⟩
  dsimp only
  by_cases hrecent : ttlSeconds remaining > otpExpiryMinutes * 60 - otpResendCooldownSec
  · rw [if_pos hrecent]
    trivial
  · rw [if_neg hrecent]
    refine Protocol.Safe.bind (Protocol.Safe.command otp_stable_true trivial fun z _ hz => ?_)
    exact keeps_of_inv fun hcond' => inv_created (hcond'.one _ (List.mem_singleton_self _)) _ _

theorem safe_verifyOtp (guess : String) (hx : Silent tid x) :
    (otpProtocol identifier purpose method).Safe op tid (fun _ _ => True)
      (verifyOtp identifier purpose guess method) x := by
  refine Protocol.Safe.bind (Protocol.Safe.command stable_silent hx fun y hy hinv => ?_)
  refine keeps_call fun hcond => ?_
  have hguar : ∀ es s t, t ≠ tid → (y.next tid es s).own t = y.own t :=
    fun _ _ _ ht => Logged.own_next_ne ht
  have hnext : y.next tid [] y.state = y :=
    congrArg (Logged.mk y.state) (List.append_nil y.log)
  dsimp only [StoreCommand.exec] at hcond ⊢
  cases hdata : y.state.get? (otpKey identifier purpose method) with
  | none => exact ⟨hguar _ _, hnext.symm ▸ hinv, trivial⟩
  | some read =>
    rw [hdata] at hcond
    by_cases hspent : read.attempts ≥ otpMaxAttempts
    · -- out of attempts
      have hcompared : comparison guess (some read) = [] := if_neg (not_lt.mpr hspent)
      rw [hcompared, hnext]
      refine ⟨fun _ _ => rfl, hinv, ?_⟩
      dsimp only
      rw [if_pos hspent]
      refine Protocol.Safe.bind (Protocol.Safe.command otp_stable_true trivial fun z _ hz => ?_)
      exact keeps_of_inv fun _ => inv_deleted hz
    · have hleft : read.attempts < otpMaxAttempts := not_le.mp hspent
      have hcompared : comparison guess (some read) = [.compared (read.code == guess)] := if_pos hleft
      rw [hcompared] at hcond ⊢
      dsimp only
      rw [if_neg hspent]
      by_cases hwrong : read.code ≠ guess
      · rw [if_pos hwrong]
        rw [beq_false_of_ne hwrong] at hcond ⊢
        refine ⟨hguar _ _, inv_wrong hinv hdata hleft hy fun hcreated =>
          hcond.counted hcreated (List.mem_singleton_self _), ?_⟩
        refine Protocol.Safe.bind (Protocol.Safe.command otp_stable_true trivial fun z _ hz => ?_)
        exact keeps_of_inv fun hcond' => inv_missRecorded hz fun hcreated =>
          hcond'.recorded read hcreated (List.mem_singleton_self _)
      · rw [if_neg hwrong]
        rw [not_not.mp hwrong, beq_self_eq_true] at hcond ⊢
        refine ⟨hguar _ _, inv_right hinv hy, ?_⟩
        refine Protocol.Safe.bind (Protocol.Safe.command otp_stable_true trivial fun z _ hz => ?_)
        exact keeps_of_inv fun hcond' => inv_accepted hz fun hcreated =>
          hcond'.accepted read z.state.now hcreated (List.mem_singleton_self _)

theorem safeOperations_otp : (otpProtocol identifier purpose method).SafeOperations := by
  intro op tid x _ hfresh
  cases op with
  | createOtp code =>
    refine Protocol.Safe.bind ((safe_createOtp code).mono ?_)
    rintro (e | r) y _
    · trivial
    · trivial
  | verifyOtp guess =>
    refine Protocol.Safe.bind ((safe_verifyOtp guess (Logged.own_eq_nil hfresh)).mono ?_)
    rintro (e | r) y _
    · trivial
    · trivial

end Safe

/-! ## Runs -/

/-- The records of a store, before anyone makes a call. -/
def otpStart (store : OtpStore) :
    Pool (StoreCall String OtpRecord OtpEvent) Err OtpEvent OtpStore OtpOp where
  now := { state := store }

/-- **A code is used once** in an interleaving in which every write finds the record that the call has
read and no wrong guess is compared while another one has not been counted. -/
theorem otp_used_once (identifier : String) (purpose : OtpPurpose) (method : String) (store : OtpStore)
    (moves : List (Move OtpOp Unit ℕ))
    (h : History.Each (Pool.step (otpPool identifier purpose method))
      (Pool.Meets (otpPool identifier purpose method) (OtpStep identifier purpose method)
        fun _ _ => True) (otpStart store) moves) :
    History.Always (Pool.step (otpPool identifier purpose method)) (fun p => UsedOnce p.now)
      (otpStart store) moves := by
  have hstart : (otpProtocol identifier purpose method).Holds (otpStart store) := by
    refine Protocol.holds_of_inv ⟨?_, ?_⟩ rfl rfl
    · rintro createdAt events hsince
      cases hsince
    · rintro createdAt events hsince
      cases hsince
  exact (Protocol.sound safeOperations_otp hstart h).imp fun _ hp => hp.inv.used

section Runs

/-- The pool of the login code that is sent to one phone. -/
private def loginPool :
    Concurrent (StoreCall String OtpRecord OtpEvent) Err Unit OtpEvent OtpStore ℕ OtpOp :=
  otpPool "+3725550100" .login "phone"

/-- A code is created, guessed wrongly once and then entered. -/
private def wrongThenRight : List (Move OtpOp Unit ℕ) :=
  [.start (.createOtp "4711"), .start (.verifyOtp "4712"), .start (.verifyOtp "4711"),
    .step 0 (), .step 0 (), .step 1 (), .step 1 (), .step 2 (), .step 2 ()]

theorem otp_used_once_wrongThenRight :
    History.Each (Pool.step loginPool)
      (Pool.Meets loginPool (OtpStep "+3725550100" .login "phone") fun _ _ => True) (otpStart {})
      wrongThenRight ∧
    History.Always (Pool.step loginPool) (fun p => UsedOnce p.now) (otpStart {}) wrongThenRight := by
  have hmeets : History.Each (Pool.step loginPool)
      (Pool.Meets loginPool (OtpStep "+3725550100" .login "phone") fun _ _ => True) (otpStart {})
      wrongThenRight := by
    refine ⟨trivial, trivial, trivial, ?_, ?_, ?_, ?_, ?_, ?_, trivial⟩
    all_goals rintro op rest ⟨⟩ b es s ⟨⟩
    · exact ⟨by simp, by simp, by simp, by simp⟩
    · exact ⟨fun _ _ => rfl, by simp, by simp, by simp⟩
    · change OtpStep _ _ _ _ 1 _ () [.compared false]
      refine ⟨by simp, fun _ _ t ht => ?_, by simp, by simp⟩
      -- the log has the creation only
      cases List.mem_singleton.mp (Logged.mem_own.mp (ht ▸ List.mem_singleton_self _))
    · refine ⟨by simp, by simp, fun read _ hread => ?_, by simp⟩
      obtain rfl := OtpEvent.missRecorded.injEq .. ▸ List.mem_singleton.mp hread
      rfl
    · change OtpStep _ _ _ _ 2 _ () [.compared true]
      exact ⟨by simp, by simp, by simp, by simp⟩
    · refine ⟨by simp, by simp, by simp, fun read moment _ hread => ?_⟩
      obtain ⟨rfl, -⟩ := OtpEvent.accepted.injEq .. ▸ List.mem_singleton.mp hread
      rfl
  exact ⟨hmeets, otp_used_once _ _ _ _ _ hmeets⟩

/-- The code is entered twice at a time. -/
private def enteredTwice : List (Move OtpOp Unit ℕ) :=
  [.start (.createOtp "4711"), .start (.verifyOtp "4711"), .start (.verifyOtp "4711"),
    .step 0 (), .step 0 (), .step 1 (), .step 2 (), .step 1 (), .step 2 ()]

/-- A wrong guess is counted when the code has expired, and then the code is entered. -/
private def countedTooLate : List (Move OtpOp Unit ℕ) :=
  [.start (.createOtp "4711"), .start (.verifyOtp "4712"), .start (.verifyOtp "4711"),
    .step 0 (), .step 0 (), .step 1 (), .disturb 300000, .step 1 (), .step 2 (), .step 2 ()]

/-- **A code is accepted twice**, and a code that has expired is accepted. -/
theorem otp_used_twice :
    ¬ UsedOnce (History.after (Pool.step loginPool) (otpStart {}) enteredTwice).now ∧
    ¬ UsedOnce (History.after (Pool.step loginPool) (otpStart {}) countedTooLate).now := by
  constructor
  · intro h
    have hused := h 0 [.compared true, .compared true, .accepted ⟨"4711", 0⟩ 0,
      .accepted ⟨"4711", 0⟩ 0] rfl
    exact absurd hused.once (by decide)
  · intro h
    have hused := h 0 [.compared false, .missRecorded ⟨"4711", 0⟩, .compared true,
      .accepted ⟨"4711", 1⟩ 300000] rfl
    have hearly := hused.early ⟨"4711", 1⟩ 300000 (by simp)
    exact absurd hearly (by decide)

end Runs

end Deliivo

import Deliivo.Payment.Spec
import Deliivo.Payout.Service

/-!
# What the eligibility check does

`checkAndMarkEligible` first lets the outbox worker run and then makes eligible every held payment
whose booking was completed long enough ago and has no open dispute. No step failing, it returns,
and a payment that it should make eligible is so afterwards: the outbox worker either leaves it
held or has made it eligible itself.

## Main definitions

* `StillAmong`: what the outbox worker leaves of the world, as far as one payment goes

## Main results

* `processOutboxEvents_eval`: the worker returns and leaves the payment held or eligible
* `checkAndMarkEligible_marks`
-/

namespace Deliivo

/-- Held by the platform, or already found eligible. -/
def PaymentStatus.Held (s : PaymentStatus) : Prop := s = .heldInEscrow ∨ s = .payoutEligible

/-- The world is still as it was as far as one payment goes: bookings, disputes and the clock are the
same, no outbox event is gone, and the status of the payment is one of `S`. -/
structure StillAmong (S : PaymentStatus → Prop) (w₀ : World) (paymentId bookingId : ℕ) (w : World) :
    Prop where
  bookings : w.db.bookings = w₀.db.bookings
  disputes : w.db.disputes = w₀.db.disputes
  now : w.now = w₀.now
  outbox : ∀ id, (w.db.outbox.get? id).isSome = (w₀.db.outbox.get? id).isSome
  payment : ∃ p, w.db.payments.get? paymentId = some p ∧ p.bookingId = bookingId ∧
    S p.status

section Outbox

variable {S : PaymentStatus → Prop} (hS : ∀ s, s.Held → S s) {w₀ w : World}
  {paymentId bookingId : ℕ}

include hS in
/-- A helper that only makes payments held or eligible. -/
theorem StillAmong.markStatus (h : StillAmong S w₀ paymentId bookingId w) {target : PaymentStatus}
    (htarget : target.Held) {f : Ctx → Payment → Payment}
    (hf : ∀ ctx p, (f ctx p).bookingId = p.bookingId) (id : ℕ) :
    StillAmong S w₀ paymentId bookingId ((Deliivo.markStatus target f id).eval w).2 := by
  cases hid : w.db.payments.get? id with
  | none =>
    have heval : (Deliivo.markStatus target f id).eval w = (.error .notFound, w) :=
      Service.eval_bind_error (findUniqueOrThrow_payment_eval_none hid)
    rw [heval]
    exact h
  | some row =>
    rw [markStatus_eval hid]
    split_ifs with hmem
    · refine ⟨h.bookings, h.disputes, h.now, h.outbox, ?_⟩
      obtain ⟨p, hp, hbooking, hstatus⟩ := h.payment
      rw [withPayment_payments, Table.get?_modify]
      split_ifs with heq
      · rw [hp]
        exact ⟨_, rfl, (hf _ _).trans hbooking, hS _ htarget⟩
      · exact ⟨p, hp, hbooking, hstatus⟩
    · exact h

include hS in
/-- A handler of the worker only makes payments held or eligible, whether or not it throws. -/
theorem StillAmong.handler (h : StillAmong S w₀ paymentId bookingId w) {event : OutboxEvent}
    {handler : Service Unit} (hh : outboxHandler event = some handler) :
    StillAmong S w₀ paymentId bookingId (handler.eval w).2 := by
  unfold outboxHandler at hh
  split at hh
  · obtain rfl := Option.some.inj hh
    split
    · show StillAmong S w₀ paymentId bookingId (Service.eval (Program.bind _ fun _ => .ret ()) w).2
      rw [Service.eval_bind_ret_snd]
      exact h.markStatus hS (Or.inl rfl) (fun _ _ => rfl) _
    · exact h
  · obtain rfl := Option.some.inj hh
    split
    · show StillAmong S w₀ paymentId bookingId (Service.eval (Program.bind _ fun _ => .ret ()) w).2
      rw [Service.eval_bind_ret_snd]
      exact h.markStatus hS (Or.inr rfl)
        (f := fun ctx p => { p with payoutEligibleAt := some ctx.now }) (fun _ _ => rfl) _
    · exact h
  · cases hh

theorem writeOutboxStatus_eval {id : ℕ} (hid : (w.db.outbox.get? id).isSome = true)
    (f : Ctx → OutboxEvent → OutboxEvent) :
    (writeOutboxStatus id f).eval w = (.ok (), { w with db := { w.db with
      outbox := w.db.outbox.modify id (f ⟨w.now, w.db.freshId⟩) } }) := by
  obtain ⟨event, hevent⟩ := Option.isSome_iff_exists.mp hid
  simp [Service.eval, writeOutboxStatus, Program.perform, world, Call.exec, Tx.atomic,
    update, outbox, hevent]

/-- Recording how a handler ends changes nothing. -/
theorem runHandler_eval (id : ℕ) (handler : Service Unit) (w : World) :
    (runHandler id handler).eval w = handler.eval w := by
  cases hr : handler.eval w with
  | mk r w' =>
    cases r with
    | ok a => exact Program.eval_bind_ok (Program.eval_tryCatch_ok hr)
    | error e => exact Program.eval_bind_error (Program.eval_tryCatch_error hr)

/-- Writing the status of an event that is there. -/
theorem StillAmong.writeOutboxStatus (h : StillAmong S w₀ paymentId bookingId w) {id : ℕ}
    (hid : (w₀.db.outbox.get? id).isSome = true) (f : Ctx → OutboxEvent → OutboxEvent) :
    ∃ w', (Deliivo.writeOutboxStatus id f).eval w = (.ok (), w') ∧
      StillAmong S w₀ paymentId bookingId w' := by
  refine ⟨_, writeOutboxStatus_eval ((h.outbox id).trans hid) f, ?_⟩
  refine ⟨h.bookings, h.disputes, h.now, fun j => ?_, h.payment⟩
  rw [← h.outbox j, Table.get?_modify]
  split_ifs with hj
  · exact Option.isSome_map
  · rfl

theorem StillAmong.mono {T : PaymentStatus → Prop} (h : StillAmong S w₀ paymentId bookingId w)
    (hST : ∀ s, S s → T s) : StillAmong T w₀ paymentId bookingId w where
  bookings := h.bookings
  disputes := h.disputes
  now := h.now
  outbox := h.outbox
  payment := by
    obtain ⟨p, hp, hbooking, hstatus⟩ := h.payment
    exact ⟨p, hp, hbooking, hST _ hstatus⟩

/-- One event: the worker deals with it without throwing, and the payment is where the handler has
led it. -/
theorem processOutboxEvent_leads {T : PaymentStatus → Prop} (h : StillAmong S w₀ paymentId bookingId w)
    {id : ℕ} (hid : (w₀.db.outbox.get? id).isSome = true) {event : OutboxEvent}
    (hnone : outboxHandler event = none → ∀ s, S s → T s)
    (hhandler : ∀ handler w, outboxHandler event = some handler →
      StillAmong S w₀ paymentId bookingId w →
      StillAmong T w₀ paymentId bookingId (handler.eval w).2) :
    ∃ w', (processOutboxEvent id event).eval w = (.ok (), w') ∧
      StillAmong T w₀ paymentId bookingId w' := by
  unfold processOutboxEvent
  obtain ⟨w₁, heval, h₁⟩ := h.writeOutboxStatus hid fun _ e => { e with status := .processing }
  simp only [Program.bind_eq]
  rw [Service.eval_bind_ok heval]
  cases hh : outboxHandler event with
  | none => exact (h₁.mono (hnone hh)).writeOutboxStatus hid _
  | some handler =>
    dsimp only
    have hleft := hhandler handler w₁ hh h₁
    cases hr : handler.eval w₁ with
    | mk r w₂ =>
      have hrun : (runHandler id handler).eval w₁ = (r, w₂) := (runHandler_eval _ _ _).trans hr
      rw [hr] at hleft
      cases r with
      | ok a =>
        obtain ⟨w₃, heval₃, h₃⟩ := hleft.writeOutboxStatus hid
          fun _ e => { e with status := .processed }
        refine ⟨w₃, Program.eval_tryCatch_ok ?_, h₃⟩
        exact (Service.eval_bind_ok hrun).trans heval₃
      | error e =>
        have hthrow : Service.eval ((runHandler id handler).bind fun _ => writeOutboxStatus id
            fun _ e => { e with status := .processed }) w₁ = (.error e, w₂) :=
          Service.eval_bind_error hrun
        unfold Service.eval
        rw [Program.eval_tryCatch_error hthrow]
        split_ifs with hretries
        · exact hleft.writeOutboxStatus hid _
        · exact hleft.writeOutboxStatus hid _

include hS in
theorem processOutboxEvent_eval (h : StillAmong S w₀ paymentId bookingId w) {id : ℕ}
    (hid : (w₀.db.outbox.get? id).isSome = true) (event : OutboxEvent) :
    ∃ w', (processOutboxEvent id event).eval w = (.ok (), w') ∧
      StillAmong S w₀ paymentId bookingId w' :=
  processOutboxEvent_leads h hid (fun _ _ hs => hs) fun _ _ hh hw => hw.handler hS hh

include hS in
/-- The loop over events that are there. -/
theorem outboxLoop_eval {events : List (ℕ × OutboxEvent)}
    (hids : ∀ e ∈ events, (w₀.db.outbox.get? e.1).isSome = true)
    (h : StillAmong S w₀ paymentId bookingId w) :
    ∃ w', Service.eval (Program.forEach events fun e => processOutboxEvent e.1 e.2) w =
      (.ok (), w') ∧ StillAmong S w₀ paymentId bookingId w' := by
  induction events generalizing w with
  | nil => exact ⟨w, rfl, h⟩
  | cons e events ih =>
    obtain ⟨w₁, heval, hw₁⟩ := processOutboxEvent_eval hS h (hids e List.mem_cons_self) e.2
    obtain ⟨w₂, heval₂, hw₂⟩ := ih (fun e' he' => hids e' (List.mem_cons_of_mem _ he')) hw₁
    exact ⟨w₂, (Service.eval_bind_ok heval).trans heval₂, hw₂⟩

/-- The events that a run selects are there. -/
theorem StillAmong.selected (h : StillAmong S w₀ paymentId bookingId w) (batchSize : ℕ) :
    ∀ e ∈ (w.db.outbox.filter fun _ e =>
        e.status == .pending && e.nextRetryAt.all (· ≤ w.now)).take batchSize,
      (w₀.db.outbox.get? e.1).isSome = true := by
  intro e he
  obtain ⟨hget, -⟩ := Table.mem_filter_iff.mp (List.mem_of_mem_take he)
  rw [← h.outbox e.1, hget]
  rfl

include hS in
/-- **The outbox worker returns**, and leaves a held payment held or eligible. -/
theorem processOutboxEvents_eval (h : StillAmong S w₀ paymentId bookingId w) (batchSize : ℕ) :
    ∃ w', (processOutboxEvents batchSize).eval w = (.ok (), w') ∧
      StillAmong S w₀ paymentId bookingId w' :=
  outboxLoop_eval hS (h.selected batchSize) h

end Outbox

section Eligible

variable {w : World} {paymentId : ℕ}

/-- The loop of the check over payments that are there. -/
theorem markEligible_eval (eligible : List (ℕ × Payment))
    (hids : ∀ e ∈ eligible, (w.db.payments.get? e.1).isSome = true)
    (hmark : (w.db.payments.get? paymentId).map Payment.status = some .payoutEligible ∨
      (w.db.payments.get? paymentId).isSome = true ∧ paymentId ∈ eligible.map Prod.fst) :
    ∃ w', Service.eval (Program.forEach eligible fun payment =>
        (writePayment payment.1 payment.2.status fun ctx p =>
          { p with status := .payoutEligible, payoutEligibleAt := some ctx.now }).bind
            fun _ => .ret ()) w = (.ok (), w') ∧
      (w'.db.payments.get? paymentId).map Payment.status = some .payoutEligible := by
  induction eligible generalizing w with
  | nil =>
    refine ⟨w, rfl, hmark.resolve_right ?_⟩
    rintro ⟨-, hmem⟩
    cases hmem
  | cons e eligible ih =>
    obtain ⟨row, hrow⟩ := Option.isSome_iff_exists.mp (hids e List.mem_cons_self)
    have hwrite := writePayment_eval hrow e.2.status fun ctx p =>
      { p with status := .payoutEligible, payoutEligibleAt := some ctx.now }
    have hstep : Service.eval ((writePayment e.1 e.2.status fun ctx p =>
        { p with status := .payoutEligible, payoutEligibleAt := some ctx.now }).bind
          fun _ => .ret ()) w = (.ok (), _) := Service.eval_bind_ok hwrite
    -- a write takes no row away
    have hkept : ∀ id, ((w.withPayment e.1 fun p => { p with
        status := .payoutEligible
        payoutEligibleAt := some w.now }).db.payments.get? id).isSome =
        (w.db.payments.get? id).isSome := by
      intro id
      rw [withPayment_payments, Table.get?_modify]
      split_ifs with hid
      · exact Option.isSome_map
      · rfl
    obtain ⟨w', heval, hw'⟩ := ih
      (w := w.withPayment e.1 fun p => { p with
        status := .payoutEligible
        payoutEligibleAt := some w.now })
      (fun e' he' => (hkept e'.1).trans (hids e' (List.mem_cons_of_mem _ he'))) (by
        by_cases hid : paymentId = e.1
        · left
          rw [withPayment_payments, hid, Table.get?_modify_self, hrow]
          rfl
        · rw [hkept, withPayment_payments, Table.get?_modify_ne _ _ hid]
          refine hmark.imp_right fun ⟨hsome, hmem⟩ => ⟨hsome, ?_⟩
          rw [List.map_cons, List.mem_cons] at hmem
          exact hmem.resolve_left hid)
    exact ⟨w', (Service.eval_bind_ok hstep).trans heval, hw'⟩

/-- **The check makes a held payment eligible** whose booking was completed longer ago than the
delay and has no open dispute. -/
theorem checkAndMarkEligible_marks {payment : Payment} {booking : Booking}
    {completedAt delayMs : ℕ} (hpayment : w.db.payments.get? paymentId = some payment)
    (hheld : payment.status = .heldInEscrow)
    (hbooking : w.db.bookings.get? payment.bookingId = some booking)
    (hcompleted : booking.status = .completed)
    (hdispute : hasOpenDispute w.db payment.bookingId = false)
    (hdated : booking.completedAt = some completedAt) (hlate : completedAt + delayMs < w.now) :
    ∃ w', (checkAndMarkEligible delayMs).eval w = (.ok (), w') ∧
      (w'.db.payments.get? paymentId).map Payment.status = some .payoutEligible := by
  have h : StillAmong PaymentStatus.Held w paymentId payment.bookingId w :=
    ⟨rfl, rfl, rfl, fun _ => rfl, payment, hpayment, rfl, Or.inl hheld⟩
  -- the outbox runs first; it may itself have moved this payment on
  obtain ⟨w₁, heval₁, h₁⟩ := processOutboxEvents_eval (fun _ hs => hs) h 50
  obtain ⟨p, hp, hpb, hstatus⟩ := h₁.payment
  have hselected : ∀ e ∈ heldPastDelay w₁.db delayMs w₁.now,
      (w₁.db.payments.get? e.1).isSome = true := by
    intro e he
    rw [(Table.mem_filter_iff.mp he).1]
    rfl
  obtain ⟨w', heval', hw'⟩ := markEligible_eval (heldPastDelay w₁.db delayMs w₁.now) hselected (by
    rcases hstatus with hs | hs
    · -- still held: the query selects it
      right
      refine ⟨by rw [hp]; rfl, List.mem_map.mpr ⟨(paymentId, p), ?_, rfl⟩⟩
      refine Table.mem_filter_iff.mpr ⟨hp, ?_⟩
      have hno : hasOpenDispute w₁.db payment.bookingId = false := by
        rw [hasOpenDispute, h₁.disputes]
        exact hdispute
      rw [hpb, h₁.bookings, hbooking, h₁.now]
      simp [hs, hcompleted, hdated, hlate, hno]
    · left
      rw [hp, Option.map_some, hs])
  refine ⟨w', ?_, hw'⟩
  unfold checkAndMarkEligible
  simp only [Program.bind_eq]
  rw [Service.eval_bind_ok heval₁]
  exact heval'

end Eligible

end Deliivo

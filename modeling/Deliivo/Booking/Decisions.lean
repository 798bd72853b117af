import Deliivo.Booking.Confirmation
import Deliivo.Booking.Frame
import Deliivo.Domain.Pool
import Deliivo.Domain.Preserves
import Deliivo.Program.Traced
import Deliivo.Store.RowView

/-!
# A driver's decision and its refund

A driver who rejects a booking, or cancels it after accepting it, has the payment refunded at Stripe on
the strength of the booking as it was read; the transaction that writes the decision asks for the status
once more. Whatever fails after the refund has moved the money all the same, and the timer of an
unanswered booking writes over a decision without looking.

**If nothing fails between the refund and the return, a booking that is written has been paid, and the
timer finds no decision, then a decision that throws has moved no money and one that returns has refunded
the payment once, and the booking stays cancelled by the driver** (`decisions_refund_once`).

## Main definitions

* `DecisionRow`, `RefundedOnce`: what a decision comes to
* `DecisionOp`, `decisionPool`: the calls next to each other; what they refund is logged
* `DecisionStep`: the condition on their steps

## Main results

* `endDecidedBooking_commits`, `endDecidedBooking_rows`: the transaction
* `safe_decide`: the decision
* `decisions_refund_once`
-/

namespace Deliivo

open Program (Logged Pool Move Protocol)

/-! ## What a decision comes to -/

/-- What a decision is about: the status of a booking, who has cancelled it, and its payment. -/
structure DecisionRow where
  status : BookingStatus
  cancelledByRole : Option CancelledByRole
  paymentCapturedAt : Option ℕ
  stripePaymentIntentId : Option ℕ
  paymentAmount : Option ℤ
  deriving DecidableEq, Repr

def Booking.decisionRow (booking : Booking) : DecisionRow where
  status := booking.status
  cancelledByRole := booking.cancelledByRole
  paymentCapturedAt := booking.paymentCapturedAt
  stripePaymentIntentId := booking.stripePaymentIntentId
  paymentAmount := booking.paymentAmount

def decisionRows (d : Db) : ℕ → Option DecisionRow := d.bookings.viewed Booking.decisionRow

/-- The driver has cancelled the booking. -/
def DecisionRow.ByDriver (row : DecisionRow) : Prop :=
  row.status = .cancelled ∧ row.cancelledByRole = some .driver

/-- The same payment. -/
def DecisionRow.SamePayment (row row' : DecisionRow) : Prop :=
  row'.paymentCapturedAt = row.paymentCapturedAt ∧
    row'.stripePaymentIntentId = row.stripePaymentIntentId ∧ row'.paymentAmount = row.paymentAmount

/-- What becomes of a booking: its payment stays, and what the driver has cancelled. -/
structure DecisionRow.Kept (row row' : DecisionRow) : Prop where
  payment : row.SamePayment row'
  byDriver : row.ByDriver → row'.ByDriver

theorem DecisionRow.Kept.refl (row : DecisionRow) : row.Kept row := ⟨⟨rfl, rfl, rfl⟩, id⟩

theorem DecisionRow.Kept.trans {row row' row'' : DecisionRow} (h : row.Kept row')
    (h' : row'.Kept row'') : row.Kept row'' := by
  obtain ⟨⟨hcaptured, hintent, hamount⟩, hby⟩ := h
  obtain ⟨⟨hcaptured', hintent', hamount'⟩, hby'⟩ := h'
  exact ⟨⟨hcaptured'.trans hcaptured, hintent'.trans hintent, hamount'.trans hamount⟩, hby' ∘ hby⟩

/-! ## The calls -/

/-- The calls that decide on a booking, in Stripe mode. -/
inductive DecisionOp
  | rejectBooking (settings : Settings) (hstripe : settings.bypassPayment = false)
    (driverId bookingId : ℕ)
  | cancelAfterAccept (settings : Settings) (hstripe : settings.bypassPayment = false)
    (driverId bookingId : ℕ)
  | acceptBooking (driverId bookingId : ℕ)
  | cancelBooking (passengerId bookingId : ℕ)
  | withdrawBooking (settings : Settings) (hstripe : settings.bypassPayment = false)
    (passengerId bookingId : ℕ)
  | handleExtendedDeadline (settings : Settings) (hstripe : settings.bypassPayment = false)
    (bookingId : ℕ)

def DecisionOp.program : DecisionOp → Service Unit
  | .rejectBooking settings _ driverId bookingId =>
    Deliivo.rejectBooking settings driverId bookingId
  | .cancelAfterAccept settings _ driverId bookingId =>
    Deliivo.cancelAfterAccept settings driverId bookingId
  | .acceptBooking driverId bookingId => Deliivo.acceptBooking driverId bookingId
  | .cancelBooking passengerId bookingId => Deliivo.cancelBooking passengerId bookingId
  | .withdrawBooking settings _ passengerId bookingId =>
    Deliivo.withdrawBooking settings passengerId bookingId
  | .handleExtendedDeadline settings _ bookingId =>
    Deliivo.handleExtendedDeadline settings bookingId

/-- The booking that the driver takes back, and the status that it has to be in. -/
def DecisionOp.takesBack : DecisionOp → Option (ℕ × BookingStatus)
  | .rejectBooking _ _ _ bookingId => some (bookingId, .driverPending)
  | .cancelAfterAccept _ _ _ bookingId => some (bookingId, .confirmed)
  | _ => none

/-- The booking whose timer has run out. -/
def DecisionOp.timesOut : DecisionOp → Option ℕ
  | .handleExtendedDeadline _ _ bookingId => some bookingId
  | _ => none

/-- What can be seen of a step: a refund that Stripe makes, and whether it is a notification. -/
inductive Seen
  | refund (made : StripeRefund)
  | notification (holds : Prop)

/-- The step that `notify` takes. -/
def notification : Call (Except Err Unit) :=
  .transact (fun _ => Program.command { answer := fun _ => () }) fun _ => []

/-- The step is a notification. -/
def IsNotification {β : Type} (c : Call β) : Prop :=
  (⟨β, c⟩ : (β : Type) × Call β) = ⟨Except Err Unit, notification⟩

def seenOf {β : Type} (c : Call β) (i : Reply) (w : World) : List Seen :=
  (w.stripe.refundsSince (c.exec i w).2.2.stripe).map .refund ++ [.notification (IsNotification c)]

/-- The calls, next to each other; what they refund is logged. -/
abbrev decisionPool := (servicePool DecisionOp.program besidesBookings).traced seenOf

abbrev SeenWorld := Logged (Event ⊕ Seen) World

def Seen.refund? : Seen → Option StripeRefund
  | .refund made => some made
  | .notification _ => none

/-- The refunds that a call has had Stripe make. -/
def refundsOf (x : SeenWorld) (tid : ℕ) : List StripeRefund := (x.seen tid).filterMap Seen.refund?

/-- The call has not written its decision yet. -/
def Undecided (x : SeenWorld) (tid : ℕ) : Prop :=
  ∀ id saw, (tid, .inl (.bookingEnded id saw)) ∉ x.log

/-- The driver has cancelled the booking, and the call has refunded its payment, once. -/
def RefundedOnce (bookingId tid : ℕ) (x : SeenWorld) : Prop :=
  ∃ row paymentIntent amount, decisionRows x.state.db bookingId = some row ∧ row.ByDriver ∧
    row.stripePaymentIntentId = some paymentIntent ∧ row.paymentAmount = some amount ∧
    refundsOf x tid = [{ paymentIntent, amount := toMinorCurrencyUnits amount }]

/-- What a decision of the driver has come to: one that has thrown has moved no money. -/
def DecisionOp.KeptBy (op : DecisionOp) (tid : ℕ) (outcome : Except Err Unit) (x : SeenWorld) : Prop :=
  ∀ bookingId status, op.takesBack = some (bookingId, status) →
    match outcome with
    | .error _ => refundsOf x tid = []
    | .ok _ => RefundedOnce bookingId tid x

/-- The condition on the steps of the calls. A decision of the driver is written of a booking that has
been paid. Once it has refunded the booking nothing of it fails: the answer of Stripe arrives, the
transaction finds the booking as it has to be, the notifications are sent. The timer does not find a
booking that the driver has cancelled. -/
structure DecisionStep (op : DecisionOp) (tid : ℕ) (x : SeenWorld) (reply : Reply)
    (seen : List (Event ⊕ Seen)) : Prop where
  paid : ∀ bookingId status saw, op.takesBack = some (bookingId, status) →
    .inl (.bookingEnded bookingId saw) ∈ seen → ∀ row, decisionRows x.state.db bookingId = some row →
      row.paymentCapturedAt ≠ none ∧ row.stripePaymentIntentId ≠ none ∧ row.paymentAmount ≠ none
  answered : ∀ refund, op.takesBack ≠ none → .inr (.refund refund) ∈ seen → reply = .ok
  decided : ∀ bookingId status, op.takesBack = some (bookingId, status) → refundsOf x tid ≠ [] →
    Undecided x tid → reply = .ok ∧ ∃ booking ride,
      (findBookingWithRide bookingId).answer x.state.db = some (booking, ride) ∧
        booking.status = status
  notified : ∀ holds : Prop, op.takesBack ≠ none → refundsOf x tid ≠ [] →
    .inr (.notification holds) ∈ seen → holds → reply = .ok
  unanswered : ∀ bookingId saw, op.timesOut = some bookingId →
    .inl (.bookingEnded bookingId saw) ∈ seen → ∀ row, decisionRows x.state.db bookingId = some row →
      ¬ row.ByDriver

/-! ## What is seen of a step -/

section Seen

variable {x : SeenWorld} {tid : ℕ} {β : Type} {c : Call β} {i : Reply}

/-- The logged world after a step. -/
def seenStep (x : SeenWorld) (tid : ℕ) (c : Call β) (i : Reply) : SeenWorld :=
  x.next tid (Program.seenEvents (c.exec i x.state).2.1 (seenOf c i x.state)) (c.exec i x.state).2.2

theorem refundsOf_seenStep : refundsOf (seenStep x tid c i) tid = refundsOf x tid ++
    x.state.stripe.refundsSince (c.exec i x.state).2.2.stripe := by
  have hsome : (Seen.refund? ∘ Seen.refund) = some := rfl
  rw [refundsOf, seenStep, Logged.seen_next_self, List.filterMap_append, ← refundsOf, seenOf,
    List.filterMap_append, List.filterMap_map, hsome, List.filterMap_some]
  simp [Seen.refund?]

theorem undecided_seenStep (hx : Undecided x tid)
    (hevents : ∀ e ∈ (c.exec i x.state).2.1, ∀ id saw, e ≠ .bookingEnded id saw) :
    Undecided (seenStep x tid c i) tid := by
  intro id saw hmem
  rcases Logged.mem_next_log.mp hmem with hold | ⟨-, hnew⟩
  · exact hx id saw hold
  · exact hevents _ (Program.inl_mem_seenEvents.mp hnew) id saw rfl

end Seen

/-! ## The transactions -/

section Transactions

variable {d d' : Db} {bookingId : ℕ} {f : Booking → Booking}

theorem decisionRows_seatHold : SeatHoldApart decisionRows := by
  intro d P
  exact @Table.viewed_modifyWhere_of_same _ _ _ Booking.decisionRow
    (fun b => { b with seatsReservedAt := none }) (fun _ => rfl) _

theorem decisionRows_refundDate : RefundDateApart decisionRows := by
  intro d id date
  exact @Table.viewed_modify_of_same _ _ _ Booking.decisionRow
    (fun b => { b with refundedAt := date }) (fun _ => rfl) _

theorem decisionRows_release (hold : SeatHold) :
    (releaseBookingSeats bookingId hold).Leaves decisionRows :=
  leaves_giveSeatsBack (fun _ _ => rfl) (fun _ _ _ => rfl) decisionRows_seatHold _ _

/-- A booking that is written by its id, and gives its seats back. -/
theorem endBooking_rows {hold : SeatHold} {u : Unit}
    (hrun : (endBooking bookingId hold f).atomic d = .ok (u, d')) :
    decisionRows d' = decisionRows { d with bookings := d.bookings.modify bookingId f } := by
  obtain ⟨_, d₁, hwrite, hrest⟩ := Tx.atomic_bind.mp hrun
  obtain ⟨-, -, -, rfl⟩ := Service.atomic_update hwrite
  refine Tx.Leaves.atomic ?_ hrest
  exact (decisionRows_release hold).bind fun _ => trivial

/-- A decision is written of a booking that has the status. -/
theorem endDecidedBooking_rows {status : BookingStatus} {refused : String} {u : Unit}
    (hrun : (endDecidedBooking bookingId status refused f).atomic d = .ok (u, d')) :
    ∃ booking, d.bookings.get? bookingId = some booking ∧ booking.status = status ∧
      decisionRows d' = decisionRows { d with bookings := d.bookings.modify bookingId f } := by
  obtain ⟨current, d₁, hread, hrest⟩ := Tx.atomic_bind.mp hrun
  obtain ⟨rfl, rfl⟩ := Prod.mk.injEq .. ▸ Except.ok.inj hread
  split at hrest
  · cases hrest
  next booking ride hcurrent =>
    split_ifs at hrest with hstatus
    · cases hrest
    exact ⟨booking, (findBookingWithRide_eq_some.mp hcurrent).1, not_not.mp hstatus,
      endBooking_rows hrest⟩

/-- Seats can be given back on a ride that is there. -/
theorem releaseBookingSeats_commits {hold : SeatHold} {ride : Ride}
    (hride : d.rides.get? hold.rideId = some ride) :
    ∃ released d', (releaseBookingSeats bookingId hold).atomic d = .ok (released, d') := by
  by_cases hnone : (claimSeatRelease bookingId).answer d = []
  · refine ⟨false, (claimSeatRelease bookingId).write d d, Tx.atomic_bind.mpr ⟨_, _, rfl, ?_⟩⟩
    rw [if_pos hnone]
    rfl
  -- the edges are counted down, and then the ride, which is still there
  obtain ⟨edges, hedges⟩ : ∃ d₁, (updateBookedRange hold
      (fun s => decide (hold.seatsBooked ≤ s.occupiedSeats))
      fun s => { s with occupiedSeats := s.occupiedSeats - hold.seatsBooked }).atomic
        ((claimSeatRelease bookingId).write d d) = .ok ((), d₁) := by
    unfold updateBookedRange
    split
    · exact ⟨_, rfl⟩
    · exact ⟨_, rfl⟩
  have hkept : edges.rides = ((claimSeatRelease bookingId).write d d).rides := by
    have hleaves := @leaves_updateBookedRange _ Db.rides (fun _ _ => rfl) hold
      (fun s => decide (hold.seatsBooked ≤ s.occupiedSeats))
      fun s => { s with occupiedSeats := s.occupiedSeats - hold.seatsBooked }
    exact hleaves.atomic hedges
  have hthere : (rides.get edges).get? hold.rideId = some ride := by
    rw [← hride]
    exact congrArg (Table.get? · hold.rideId) hkept
  obtain ⟨d', hrecount⟩ : ∃ d',
      (recomputeAvailableSeats hold.rideId hold.totalSeats).atomic edges = .ok ((), d') :=
    ⟨_, Tx.atomic_bind.mpr ⟨_, edges, rfl, Tx.atomic_bind.mpr
      ⟨_, _, Service.atomic_update_of_some hthere _, rfl⟩⟩⟩
  refine ⟨true, d', Tx.atomic_bind.mpr ⟨_, (claimSeatRelease bookingId).write d d, rfl, ?_⟩⟩
  rw [if_neg hnone]
  refine Tx.atomic_bind.mpr ⟨(), d', ?_, rfl⟩
  refine Tx.atomic_bind.mpr ⟨(), (claimSeatRelease bookingId).write d d, rfl, ?_⟩
  exact Tx.atomic_bind.mpr ⟨(), edges, hedges, hrecount⟩

/-- **A decision commits** that finds its booking in the status, and with its ride. -/
theorem endDecidedBooking_commits {status : BookingStatus} {refused : String} {booking : Booking}
    {ride : Ride} (hfound : (findBookingWithRide bookingId).answer d = some (booking, ride))
    (hstatus : booking.status = status) :
    ∃ d', (endDecidedBooking bookingId status refused f).atomic d = .ok ((), d') := by
  obtain ⟨hbooking, hride⟩ := findBookingWithRide_eq_some.mp hfound
  obtain ⟨released, d', hrelease⟩ := @releaseBookingSeats_commits
    { d with bookings := d.bookings.modify bookingId f } bookingId (booking.hold ride.totalSeats) _
    hride
  refine ⟨d', Tx.atomic_bind.mpr ⟨_, d, rfl, ?_⟩⟩
  rw [hfound]
  dsimp only
  rw [if_neg (not_not.mpr hstatus)]
  refine Tx.atomic_bind.mpr ⟨f booking, _, Service.atomic_update_of_some hbooking f, ?_⟩
  exact Tx.atomic_bind.mpr ⟨released, d', hrelease, rfl⟩

/-- A booking is written that the driver has not cancelled, or that stays so. -/
theorem rowsKept_modify
    (hf : ∀ b, d.bookings.get? bookingId = some b → b.decisionRow.Kept (f b).decisionRow) :
    RowsKeep DecisionRow.Kept (decisionRows d)
      (decisionRows { d with bookings := d.bookings.modify bookingId f }) :=
  Table.rowsKeep_modify .refl hf

theorem rowsKept_modifyWhere {P : ℕ → Booking → Bool}
    (hf : ∀ id b, d.bookings.get? id = some b → P id b = true → b.decisionRow.Kept (f b).decisionRow) :
    RowsKeep DecisionRow.Kept (decisionRows d)
      (decisionRows ((updateMany bookings P f).write d d)) := by
  refine Table.rowsKeep_modifyWhere .refl fun id b hb hholds => hf id b hb ?_
  rwa [Table.holds, show (bookings.get d).get? id = some b from hb] at hholds

theorem kept_of_live {b b' : Booking} (hlive : b.status ≠ .cancelled)
    (hpayment : b.decisionRow.SamePayment b'.decisionRow) : b.decisionRow.Kept b'.decisionRow :=
  ⟨hpayment, fun hby => absurd hby.1 hlive⟩

/-- A booking that is still as it has to be is written, and gives its seats back. -/
theorem endBookingWhere_rows {hold : SeatHold} {statuses : BookingStatus → Bool} {ended : Bool}
    (hf : ∀ b : Booking, statuses b.status = true → b.decisionRow.Kept (f b).decisionRow)
    (hrun : (endBookingWhere bookingId hold statuses f).atomic d = .ok (ended, d')) :
    RowsKeep DecisionRow.Kept (decisionRows d) (decisionRows d') := by
  obtain ⟨written, d₁, hwrite, hrest⟩ := Tx.atomic_bind.mp hrun
  obtain ⟨rfl, hd₁⟩ := Prod.mk.injEq .. ▸ Except.ok.inj hwrite
  have hkept : RowsKeep DecisionRow.Kept (decisionRows d) (decisionRows d₁) := by
    rw [← hd₁]
    exact rowsKept_modifyWhere fun id b _ hguard => hf b (Bool.and_eq_true _ _ ▸ hguard).2
  split_ifs at hrest with hnone
  · obtain ⟨-, rfl⟩ := Prod.mk.injEq .. ▸ Except.ok.inj hrest
    exact hkept
  · have hleaves : Tx.Leaves decisionRows (do
        let _ ← releaseBookingSeats bookingId hold
        return true) := (decisionRows_release hold).bind fun _ => trivial
    rw [hleaves.atomic hrest]
    exact hkept

end Transactions

/-! ## What the calls owe each other -/

/-- What the calls keep for each other: the payments, what the driver has cancelled, and what the others
have done. -/
structure DecisionRely (tid : ℕ) (x y : SeenWorld) : Prop where
  own : y.own tid = x.own tid
  rows : RowsKeep DecisionRow.Kept (decisionRows x.state.db) (decisionRows y.state.db)

theorem DecisionRely.refundsOf {tid : ℕ} {x y : SeenWorld} (h : DecisionRely tid x y) :
    Deliivo.refundsOf y tid = Deliivo.refundsOf x tid := by
  rw [Deliivo.refundsOf, Logged.seen, h.own, Deliivo.refundsOf, Logged.seen]

theorem DecisionRely.undecided {tid : ℕ} {x y : SeenWorld} (h : DecisionRely tid x y)
    (hx : Undecided x tid) : Undecided y tid := by
  intro id saw hmem
  rw [← Logged.mem_own, h.own, Logged.mem_own] at hmem
  exact hx id saw hmem

def decisionProtocol : Protocol decisionPool DecisionStep fun _ _ => True where
  Inv _ := True
  Rely := DecisionRely
  Guar tid x y := ∀ t, t ≠ tid → DecisionRely t x y
  Post _ _ _ := True
  rely_refl _ _ := ⟨rfl, RowsKeep.refl .refl _⟩
  rely_trans h h' := ⟨h'.own.trans h.own, h.rows.trans (fun _ _ _ => .trans) h'.rows⟩
  guar_rely hne _ h := h _ hne
  env_inv _ _ := trivial
  env_rely _ _ _ := ⟨rfl, RowsKeep.refl .refl _⟩
  post_stable _ _ _ := trivial

section Safe

variable {op : DecisionOp} {tid : ℕ} {α β : Type} {x y : SeenWorld}

/-- A step that keeps the rows where it meets the condition. -/
theorem keeps_decision {c : Call β} {Q : β → SeenWorld → Prop}
    (h : ∀ i, DecisionStep op tid y i
      (Program.seenEvents (c.exec i y.state).2.1 (seenOf c i y.state)) →
      RowsKeep DecisionRow.Kept (decisionRows y.state.db) (decisionRows (c.exec i y.state).2.2.db) ∧
        Q (c.exec i y.state).1 (seenStep y tid c i)) :
    decisionProtocol.Keeps op tid c y Q := by
  refine Program.Protocol.keeps_traced fun i b es s hexec hcond => ?_
  obtain ⟨rfl, rfl, rfl⟩ := exec_eq hexec
  obtain ⟨hrows, hQ⟩ := h i hcond
  exact ⟨fun t ht => ⟨Logged.own_next_ne ht, hrows⟩, trivial, hQ⟩

/-- A step keeps the rows whatever it reports. -/
def RowsCall (c : Call β) : Prop :=
  ∀ i w, RowsKeep DecisionRow.Kept (decisionRows w.db) (decisionRows (c.exec i w).2.2.db)

theorem safe_rows {p : Service α} (h : p.Issues fun {_} c => RowsCall c) :
    decisionProtocol.Safe op tid (fun _ _ => True) p x :=
  Protocol.Safe.issues (fun _ _ _ _ _ => trivial)
    (h.mono fun _ hc _ _ _ => keeps_decision fun i _ => ⟨hc i _, trivial⟩) trivial

/-- What a step may do that leaves the rows alone, and the refunds. -/
def decisionFrame : Frame where
  db := decisionRows
  stripe s := s.refunds
  events e := ∀ id saw, e ≠ .bookingEnded id saw

/-- The same where refunds may be made. -/
def rowsFrame : Frame where
  db := decisionRows
  stripe _ := ()
  events _ := True

theorem rows_of_leaves {p : Service α} (h : p.Leaves rowsFrame) :
    p.Issues fun {_} c => RowsCall c := by
  refine h.mono fun _ hc i w => ?_
  have hsame : decisionRows (Call.exec _ i w).2.2.db = decisionRows w.db := (hc.exec i w).1
  rw [hsame]
  exact RowsKeep.refl .refl _

theorem rowsCall_transact {body : Ctx → Tx β} {report : β → List Event}
    (h : ∀ ctx d b d', (body ctx).atomic d = .ok (b, d') →
      RowsKeep DecisionRow.Kept (decisionRows d) (decisionRows d')) :
    RowsCall (.transact body report) := by
  intro i w
  obtain ⟨b, d, hbody, hexec⟩ | ⟨e, hexec⟩ := exec_transact body report i w
  · rw [hexec]
    exact h _ _ _ _ hbody
  · rw [hexec]
    exact RowsKeep.refl .refl _

/-! ### The other calls -/

theorem decisionRows_paymentWrites : PaymentWritesApart decisionRows := fun _ _ _ _ => rfl

theorem rows_syncRefund (bookingId driverId : ℕ) (refundAmount : ℤ) :
    (syncRefund bookingId driverId refundAmount).Leaves rowsFrame :=
  leaves_syncRefund decisionRows_paymentWrites (fun _ _ => rfl) (fun _ _ _ => trivial) _ _ _

theorem rows_acceptBooking (driverId bookingId : ℕ) :
    (acceptBooking driverId bookingId).Issues fun {_} c => RowsCall c := by
  refine (rows_of_leaves (leaves_requireDriverBooking _ _)).bind fun found => ?_
  refine (rows_of_leaves (leaves_sql (leaves_findUnique _))).bind fun driver => ?_
  split_ifs with hverified hstatus
  · trivial
  · trivial
  refine (rows_of_leaves (leaves_assertDecisionWindowOpen _)).bind fun _ => ?_
  refine ((Program.issues_perform _).mpr (rowsCall_transact fun ctx d b d' hbody => ?_)).bind
    fun confirmed => ?_
  · obtain ⟨-, rfl⟩ := Prod.mk.injEq .. ▸ Except.ok.inj hbody
    refine rowsKept_modifyWhere fun id b _ hguard => kept_of_live ?_ ⟨rfl, rfl, rfl⟩
    -- the write asks for the status
    have hpending : b.status = .driverPending := by
      simp only [Bool.and_eq_true, beq_iff_eq] at hguard
      exact hguard.1.2
    rw [hpending]
    exact nofun
  · split_ifs
    · trivial
    · exact rows_of_leaves (leaves_notify.bind fun _ => leaves_notify)

theorem rows_cancelBooking (passengerId bookingId : ℕ) :
    (cancelBooking passengerId bookingId).Issues fun {_} c => RowsCall c := by
  refine (rows_of_leaves (leaves_sql fun _ _ => rfl)).bind fun checkout => ?_
  split_ifs with hcheckout
  · trivial
  refine (rows_of_leaves (leaves_sql fun _ _ => rfl)).bind fun found => ?_
  cases found with
  | none => trivial
  | some found =>
    refine ((Program.issues_command _).mpr fun _ _ => RowsKeep.refl .refl _).bind fun now => ?_
    dsimp only
    split_ifs with hclosed
    · trivial
    refine ((Program.issues_perform _).mpr (rowsCall_transact fun ctx d b d' hbody => ?_)).bind
      fun _ => ?_
    · -- the status is read once more
      obtain ⟨current, d₁, hread, hrest⟩ := Tx.atomic_bind.mp hbody
      obtain ⟨rfl, rfl⟩ := Prod.mk.injEq .. ▸ Except.ok.inj hread
      split at hrest
      · cases hrest
      next booking ride hcurrent =>
        obtain ⟨hfound, hstatus⟩ := Option.filter_eq_some_iff.mp hcurrent
        rw [endBooking_rows hrest]
        refine rowsKept_modify fun b hb => kept_of_live ?_ ⟨rfl, rfl, rfl⟩
        obtain rfl := Option.some.inj (hb.symm.trans (findBookingWithRide_eq_some.mp hfound).1)
        have hcancellable := (Bool.and_eq_true _ _ ▸ hstatus).2
        intro hcancelled
        rw [hcancelled] at hcancellable
        cases hcancellable
    · refine rows_of_leaves ((leaves_settleCancelledBooking (fun _ _ => rfl)
        decisionRows_refundDate (fun _ _ => rfl) _ _ _).bind fun refunded => ?_)
      split_ifs
      · exact (rows_syncRefund _ _ _).bind fun _ => leaves_notify
      · exact leaves_notify

theorem rows_withdrawBooking (settings : Settings) (passengerId bookingId : ℕ) :
    (withdrawBooking settings passengerId bookingId).Issues fun {_} c => RowsCall c := by
  refine (rows_of_leaves (leaves_sql fun _ _ => rfl)).bind fun found => ?_
  cases found with
  | none => trivial
  | some found =>
    refine ((Program.issues_perform _).mpr (rowsCall_transact fun ctx d b d' hbody => ?_)).bind
      fun cancelled => ?_
    · refine endBookingWhere_rows ?_ hbody
      intro b hwithdrawable
      refine kept_of_live (fun hcancelled => ?_) ⟨rfl, rfl, rfl⟩
      rw [hcancelled] at hwithdrawable
      cases hwithdrawable
    · split_ifs with hcancelled
      · refine rows_of_leaves ((leaves_settleWithdrawnBooking (fun _ _ => rfl)
          decisionRows_refundDate (fun _ _ => rfl) _ _ _).bind fun refunded => ?_)
        split_ifs
        · exact (rows_syncRefund _ _ _).bind fun _ => leaves_notify
        · exact leaves_notify
      · trivial

/-- **The timer** writes over the booking whatever has become of it: the driver must not have cancelled
it. -/
theorem safe_handleExtendedDeadline {settings : Settings} {hstripe : settings.bypassPayment = false}
    {bookingId : ℕ} :
    decisionProtocol.Safe (.handleExtendedDeadline settings hstripe bookingId) tid (fun _ _ => True)
      (handleExtendedDeadline settings bookingId) x := by
  refine Protocol.Safe.sequence
    (safe_rows (rows_of_leaves (leaves_sql (leaves_findBookingWithRide _)))) fun found y _ => ?_
  cases found with
  | none => trivial
  | some found =>
    obtain ⟨booking, ride⟩ := found
    dsimp only
    split_ifs with hstatus
    · trivial
    refine Protocol.Safe.sequence (Protocol.Safe.perform (fun _ _ _ _ _ => trivial) trivial
      fun z _ _ => keeps_decision fun i hcond => ⟨?_, trivial⟩)
      fun _ z _ => safe_rows (rows_of_leaves leaves_notify)
    obtain ⟨u, d, s, hbody, hexec⟩ | ⟨e, s, hexec⟩ := exec_transactWithStripe
      (cancelUnansweredBooking settings bookingId booking ride)
      (fun _ => [.bookingEnded bookingId booking.isPaymentCaptured]) i z.state
    · rw [hexec] at hcond ⊢
      obtain ⟨u₁, d₁, s₁, hend, hrest⟩ := StripeTx.atomic_bind.mp hbody
      rw [Tx.atomic_lift] at hend
      -- the refund is the same payment's: only the end of the booking changes a row
      have hsame : decisionRows d = decisionRows d₁ := by
        refine (StripeTx.Leaves.atomic (F := rowsFrame) ?_ hrest).1 _ _ rfl
        refine Program.Issues.bind ?_ fun refund => ?_
        · unfold refundUnansweredBooking
          split_ifs
          · trivial
          · split
            · exact ((Program.issues_perform _).mpr fun _ _ _ _ => rfl).bind fun _ => trivial
            · trivial
        · split_ifs
          · refine ((Program.issues_perform _).mpr fun _ d => ?_).bind fun _ => trivial
            exact Table.viewed_modify_of_same (by intros; rfl) _
          · trivial
      rw [hsame, endBooking_rows (Prod.mk.inj hend).1]
      -- the condition: the driver has not decided on the booking that the job ends
      refine rowsKept_modify fun b hb => ⟨⟨rfl, rfl, rfl⟩, fun hby => absurd hby ?_⟩
      exact hcond.unanswered bookingId booking.isPaymentCaptured rfl
        (Program.inl_mem_seenEvents.mpr (List.mem_singleton_self _)) _ (Table.viewed_of_get? hb)
    · rw [hexec]
      exact RowsKeep.refl .refl _

end Safe

/-! ## The decision -/

section Decide

variable {op : DecisionOp} {tid bookingId : ℕ} {α β : Type} {x y : SeenWorld} {booking : Booking}

/-- What a call knows that nothing but its own refund and its own decision makes untrue. -/
def Steady (tid : ℕ) (A : SeenWorld → Prop) : Prop :=
  ∀ x y, A x → refundsOf y tid = refundsOf x tid → (Undecided x tid → Undecided y tid) →
    RowsKeep DecisionRow.Kept (decisionRows x.state.db) (decisionRows y.state.db) → A y

theorem Steady.stable {A : SeenWorld → Prop} (hA : Steady tid A) : decisionProtocol.Stable tid A :=
  fun x y hx hrely _ => hA x y hx hrely.refundsOf hrely.undecided hrely.rows

theorem keeps_steady {A : SeenWorld → Prop} {c : Call β} (hA : Steady tid A)
    (hc : c.Leaves decisionFrame) (hy : A y) : decisionProtocol.Keeps op tid c y fun _ => A := by
  refine keeps_decision fun i _ => ?_
  obtain ⟨hrows, hrefunds, hevents⟩ := hc.exec i y.state
  have hsame : decisionRows (c.exec i y.state).2.2.db = decisionRows y.state.db := hrows
  have hkept : RowsKeep DecisionRow.Kept (decisionRows y.state.db)
      (decisionRows (c.exec i y.state).2.2.db) := by
    rw [hsame]
    exact RowsKeep.refl .refl _
  refine ⟨hkept, hA y _ hy ?_ (fun hund => undecided_seenStep hund hevents) hkept⟩
  rw [refundsOf_seenStep, refundsSince_same hrefunds, List.append_nil]

theorem safe_steady {A : SeenWorld → Prop} {p : Service α} (hA : Steady tid A)
    (hp : p.Leaves decisionFrame) (hx : A x) : decisionProtocol.Safe op tid (fun _ => A) p x :=
  Protocol.Safe.issues hA.stable (hp.mono fun _ hc _ hy _ => keeps_steady hA hc hy) hx

/-- The call has refunded nothing and decided nothing. -/
def Fresh (tid : ℕ) (x : SeenWorld) : Prop := refundsOf x tid = [] ∧ Undecided x tid

theorem steady_fresh : Steady tid (Fresh tid) :=
  fun _ _ ⟨hnone, hund⟩ hrefunds hkeeps _ => ⟨hrefunds.trans hnone, hkeeps hund⟩

/-- The payment of the booking is the one that was read. -/
def PaidAs (bookingId : ℕ) (booking : Booking) (x : SeenWorld) : Prop :=
  ∃ row, decisionRows x.state.db bookingId = some row ∧ booking.decisionRow.SamePayment row

theorem PaidAs.kept {x y : SeenWorld} (h : PaidAs bookingId booking x)
    (hrows : RowsKeep DecisionRow.Kept (decisionRows x.state.db) (decisionRows y.state.db)) :
    PaidAs bookingId booking y := by
  obtain ⟨row, hrow, hcaptured, hintent, hamount⟩ := h
  obtain ⟨row', hrow', ⟨hcaptured', hintent', hamount'⟩, -⟩ := hrows bookingId row hrow
  exact ⟨row', hrow', hcaptured'.trans hcaptured, hintent'.trans hintent, hamount'.trans hamount⟩

theorem steady_paidAs : Steady tid (PaidAs bookingId booking) := fun _ _ h _ _ hrows => h.kept hrows

theorem Steady.and {A B : SeenWorld → Prop} (hA : Steady tid A) (hB : Steady tid B) :
    Steady tid fun x => A x ∧ B x :=
  fun x y ⟨hx, hx'⟩ h h' h'' => ⟨hA x y hx h h' h'', hB x y hx' h h' h''⟩

/-- The call has made this refund, and decided nothing. -/
def RefundMade (tid : ℕ) (refund : StripeRefund) (x : SeenWorld) : Prop :=
  refundsOf x tid = [refund] ∧ Undecided x tid

theorem steady_refundMade (refund : StripeRefund) : Steady tid (RefundMade tid refund) :=
  fun _ _ ⟨hmade, hund⟩ hrefunds hkeeps _ => ⟨hrefunds.trans hmade, hkeeps hund⟩

theorem steady_refundedOnce : Steady tid (RefundedOnce bookingId tid) := by
  rintro x y ⟨row, paymentIntent, amount, hrow, hby, hintent, hamount, hmade⟩ hrefunds - hrows
  obtain ⟨row', hrow', ⟨-, hintent', hamount'⟩, hby'⟩ := hrows bookingId row hrow
  exact ⟨row', paymentIntent, amount, hrow', hby' hby, hintent'.trans hintent,
    hamount'.trans hamount, hrefunds.trans hmade⟩

/-! ### Up to the refund -/

/-- A read changes nothing, and answers what is there. -/
theorem exec_read {s : Stmt β} (hs : ∀ d, s.write d d = d) (i : Reply) (w : World) :
    ((Call.transact (fun _ => Program.command s) fun _ => []).exec i w).2 = ([], w) ∧
      ∀ b, ((Call.transact (fun _ => Program.command s) fun _ => []).exec i w).1 = .ok b →
        s.answer w.db = b := by
  cases i with
  | ok =>
    refine ⟨?_, fun b hb => Except.ok.inj hb⟩
    show ([], { w with db := s.write w.db w.db }) = (([], w) : List Event × World)
    rw [hs]
  | refused | lost => exact ⟨rfl, fun b hb => by cases hb⟩

theorem keeps_reading {A : SeenWorld → Prop} (hA : Steady tid A) {s : Stmt β}
    (hs : ∀ d, s.write d d = d) (hy : A y) :
    decisionProtocol.Keeps op tid (.transact (fun _ => Program.command s) fun _ => []) y
      fun r z => A z ∧ ∀ b, r = .ok b → s.answer z.state.db = b := by
  refine keeps_decision fun i _ => ?_
  obtain ⟨hexec, hanswer⟩ := exec_read hs i y.state
  have hrows : RowsKeep DecisionRow.Kept (decisionRows y.state.db)
      (decisionRows ((Call.transact (fun _ => Program.command s) fun _ => []).exec i
        y.state).2.2.db) := by
    rw [hexec]
    exact RowsKeep.refl .refl _
  refine ⟨hrows, hA y _ hy ?_ (fun hund => undecided_seenStep hund ?_) hrows, fun b hb => ?_⟩
  · rw [refundsOf_seenStep, hexec, refundsSince_same rfl, List.append_nil]
  · rw [hexec]
    exact fun e he => absurd he List.not_mem_nil
  · rw [seenStep, Logged.next_state, hexec]
    exact hanswer b hb

theorem safe_requireDriverBooking {driverId : ℕ} (hx : Fresh tid x) :
    decisionProtocol.Safe op tid
      (fun r x => Fresh tid x ∧ ∀ found, r = .ok found → PaidAs bookingId found.1 x)
      (requireDriverBooking driverId bookingId) x := by
  refine Protocol.Safe.bind (Protocol.Safe.mono (Protocol.Safe.perform steady_fresh.stable hx
    fun y hy _ => keeps_reading steady_fresh (fun _ => rfl) hy) ?_)
  rintro (e | found) y ⟨hfresh, hread⟩
  · exact ⟨hfresh, fun _ h => by cases h⟩
  cases found with
  | none => exact ⟨hfresh, fun _ h => by cases h⟩
  | some found =>
    obtain ⟨booking, ride⟩ := found
    dsimp only
    split_ifs
    · exact ⟨hfresh, fun _ h => by cases h⟩
    · refine ⟨hfresh, ?_⟩
      rintro _ ⟨⟩
      obtain ⟨hbooking, -⟩ := findBookingWithRide_eq_some.mp (hread _ rfl)
      exact ⟨booking.decisionRow, Table.viewed_of_get? hbooking, rfl, rfl, rfl⟩

/-- What the refund of a decision comes to. -/
def RefundOutcome (bookingId tid : ℕ) (booking : Booking) (r : Except Err (Option ℕ × Bool))
    (x : SeenWorld) : Prop :=
  match r with
  | .error _ => refundsOf x tid = []
  | .ok refund => PaidAs bookingId booking x ∧
      ((booking.paymentCapturedAt = none ∨ booking.stripePaymentIntentId = none) ∧ Fresh tid x ∨
        refund.2 = true ∧ ∃ paymentIntent, booking.stripePaymentIntentId = some paymentIntent ∧
          RefundMade tid
            { paymentIntent, amount := toMinorCurrencyUnits booking.fullRefundAmount } x)

/-- What can become of a refund: it is made, it is made and the answer is lost, or it is not made. -/
theorem exec_createRefund (paymentIntent : ℕ) (amount : ℤ) (i : Reply) (w : World) :
    (∃ refundId, i = .ok ∧
      (Call.stripe (Stripe.createRefund paymentIntent amount) fun _ => []).exec i w =
        (.ok refundId, [], { w with stripe := w.stripe.withRefund paymentIntent amount })) ∨
    (i = .lost ∧ (Call.stripe (Stripe.createRefund paymentIntent amount) fun _ => []).exec i w =
        (.error .unavailable, [],
          { w with stripe := w.stripe.withRefund paymentIntent amount })) ∨
    ∃ e, (Call.stripe (Stripe.createRefund paymentIntent amount) fun _ => []).exec i w =
      (.error e, [], w) := by
  cases haccepts : w.stripe.acceptsRefund paymentIntent amount with
  | true =>
    have hmade : Stripe.createRefund paymentIntent amount w.stripe =
        .ok (w.stripe.refunds.nextKey, w.stripe.withRefund paymentIntent amount) := by
      rw [Stripe.createRefund, if_pos haccepts]
    cases i with
    | ok =>
      refine Or.inl ⟨w.stripe.refunds.nextKey, rfl, ?_⟩
      simp only [Call.exec, hmade]
    | refused => exact Or.inr (Or.inr ⟨_, rfl⟩)
    | lost =>
      refine Or.inr (Or.inl ⟨rfl, ?_⟩)
      simp only [Call.exec, hmade]
  | false =>
    have hrefused : Stripe.createRefund paymentIntent amount w.stripe = .error .stripe := by
      rw [Stripe.createRefund, if_neg (by rw [haccepts]; exact Bool.false_ne_true)]
    right
    right
    cases i with
    | ok | lost =>
      refine ⟨.stripe, ?_⟩
      simp only [Call.exec, hrefused]
    | refused => exact ⟨_, rfl⟩

/-- **The refund** is made, or fails and moves nothing: its answer is not lost. -/
theorem keeps_refundPaymentIntent {paymentIntent : ℕ} {amount : ℤ} (hop : op.takesBack ≠ none)
    (hfresh : Fresh tid y) (hpaid : PaidAs bookingId booking y) :
    decisionProtocol.Keeps op tid
      (.stripe (Stripe.createRefund paymentIntent amount) fun _ => []) y fun r z =>
        match r with
        | .error _ => refundsOf z tid = []
        | .ok _ => PaidAs bookingId booking z ∧ RefundMade tid { paymentIntent, amount } z := by
  refine keeps_decision fun i hcond => ?_
  obtain ⟨hnone, hund⟩ := hfresh
  have hmade := @refundsOf_seenStep y tid _
    (.stripe (Stripe.createRefund paymentIntent amount) fun _ => []) i
  rw [hnone, List.nil_append] at hmade
  obtain ⟨refundId, rfl, hexec⟩ | ⟨rfl, hexec⟩ | ⟨e, hexec⟩ :=
    exec_createRefund paymentIntent amount i y.state
  · rw [hexec] at hmade ⊢
    rw [refundsSince_withRefund] at hmade
    refine ⟨RowsKeep.refl .refl _, hpaid.kept ?_, hmade, undecided_seenStep hund ?_⟩
    · rw [seenStep, hexec]
      exact RowsKeep.refl .refl _
    · rw [hexec]
      exact fun e he => absurd he List.not_mem_nil
  · -- the answer of a refund that was made is not lost
    have hseen : (.inr (.refund { paymentIntent, amount }) : Event ⊕ Seen) ∈
        Program.seenEvents ((Call.stripe (Stripe.createRefund paymentIntent amount)
          fun _ => []).exec .lost y.state).2.1 (seenOf (.stripe
            (Stripe.createRefund paymentIntent amount) fun _ => []) .lost y.state) := by
      rw [Program.inr_mem_seenEvents, seenOf, hexec, refundsSince_withRefund]
      exact List.mem_append_left _ (List.mem_singleton_self _)
    cases hcond.answered _ hop hseen
  · rw [hexec] at hmade ⊢
    rw [refundsSince_same rfl] at hmade
    exact ⟨RowsKeep.refl .refl _, hmade⟩

theorem safe_refundDecidedBooking {settings : Settings} (hstripe : settings.bypassPayment = false)
    (hop : op.takesBack ≠ none) (hfresh : Fresh tid x) (hpaid : PaidAs bookingId booking x) :
    decisionProtocol.Safe op tid (RefundOutcome bookingId tid booking)
      (refundDecidedBooking settings booking) x := by
  unfold refundDecidedBooking
  rw [if_neg (by rw [hstripe]; exact Bool.false_ne_true)]
  cases hcaptured : booking.paymentCapturedAt with
  | none =>
    exact ⟨hpaid, Or.inl ⟨Or.inl hcaptured, hfresh⟩⟩
  | some capturedAt =>
    cases hintent : booking.stripePaymentIntentId with
    | none => exact ⟨hpaid, Or.inl ⟨Or.inr hintent, hfresh⟩⟩
    | some paymentIntent =>
      refine Protocol.Safe.bind (Protocol.Safe.mono (Protocol.Safe.perform
        (steady_fresh.and steady_paidAs).stable ⟨hfresh, hpaid⟩
        fun y hy _ => keeps_refundPaymentIntent hop hy.1 hy.2) ?_)
      rintro (e | refundId) y hy
      · exact hy
      · exact ⟨hy.1, Or.inr ⟨rfl, paymentIntent, hintent, hy.2⟩⟩

/-! ### From the refund on -/

variable {status : BookingStatus} {refused : String} {f : ℕ → Booking → Booking} {saw : Bool}

/-- The transaction that writes a decision. -/
abbrev decisionTx (bookingId : ℕ) (status : BookingStatus) (refused : String)
    (f : ℕ → Booking → Booking) (saw : Bool) : Call (Except Err Unit) :=
  .transact (fun ctx => endDecidedBooking bookingId status refused (f ctx.now))
    fun _ => [.bookingEnded bookingId saw]

/-- A decision cancels the booking for the driver, and leaves its payment. -/
def CancelsByDriver (f : ℕ → Booking → Booking) : Prop :=
  ∀ now b, (f now b).decisionRow.ByDriver ∧ b.decisionRow.SamePayment (f now b).decisionRow

/-- **The transaction** makes no refund; where it commits, the driver has cancelled the booking, which
has been paid. -/
theorem keeps_decisionTx (hf : CancelsByDriver f) (hop : op.takesBack = some (bookingId, status))
    {Q : Except Err Unit → SeenWorld → Prop}
    (hok : ∀ z row paymentIntent amount, refundsOf z tid = refundsOf y tid →
      decisionRows y.state.db bookingId = some row → row.paymentCapturedAt ≠ none →
      row.stripePaymentIntentId = some paymentIntent → row.paymentAmount = some amount →
      (∃ row', decisionRows z.state.db bookingId = some row' ∧ row'.ByDriver ∧
        row.SamePayment row') → Q (.ok ()) z)
    (herr : ∀ z e, refundsOf z tid = refundsOf y tid →
      (refundsOf y tid ≠ [] → Undecided y tid → False) → Q (.error e) z) :
    decisionProtocol.Keeps op tid (decisionTx bookingId status refused f saw) y Q := by
  refine keeps_decision fun i hcond => ?_
  have hmade := @refundsOf_seenStep y tid _ (decisionTx bookingId status refused f saw) i
  obtain ⟨u, d, hbody, hexec⟩ | ⟨e, hexec⟩ := exec_transact
    (fun ctx => endDecidedBooking bookingId status refused (f ctx.now))
    (fun _ => [.bookingEnded bookingId saw]) i y.state
  · -- the decision is written: the booking was paid, and is the driver's from now on
    obtain ⟨booking, hbooking, hstatus, hrows⟩ := endDecidedBooking_rows hbody
    have hkept : RowsKeep DecisionRow.Kept (decisionRows y.state.db) (decisionRows d) := by
      rw [hrows]
      exact rowsKept_modify fun b _ => ⟨(hf _ b).2, fun _ => (hf _ b).1⟩
    have hseen : (.inl (.bookingEnded bookingId saw) : Event ⊕ Seen) ∈ Program.seenEvents
        ((decisionTx bookingId status refused f saw).exec i y.state).2.1
        (seenOf (decisionTx bookingId status refused f saw) i y.state) := by
      rw [Program.inl_mem_seenEvents, hexec]
      exact List.mem_singleton_self _
    have hrow : decisionRows y.state.db bookingId = some booking.decisionRow :=
      Table.viewed_of_get? hbooking
    obtain ⟨hcaptured, hintent, hamount⟩ := hcond.paid bookingId status saw hop hseen _ hrow
    obtain ⟨paymentIntent, hintent⟩ := Option.ne_none_iff_exists'.mp hintent
    obtain ⟨amount, hamount⟩ := Option.ne_none_iff_exists'.mp hamount
    rw [hexec] at hmade ⊢
    rw [refundsSince_same rfl, List.append_nil] at hmade
    refine ⟨hkept, hok _ _ paymentIntent amount hmade hrow hcaptured hintent hamount ?_⟩
    refine ⟨(f y.state.now booking).decisionRow, ?_, (hf _ _).1, (hf _ _).2⟩
    rw [seenStep, hexec, Logged.next_state, hrows]
    refine Table.viewed_of_get? ?_
    show (y.state.db.bookings.modify bookingId _).get? bookingId = _
    rw [Table.get?_modify_self, hbooking, Option.map_some]
  · -- it is refused: not after a refund, since nobody else has written the booking meanwhile
    have hrefused : refundsOf y tid ≠ [] → Undecided y tid → False := by
      intro hrefunded hund
      obtain ⟨rfl, booking, ride, hfound, hstatus⟩ := hcond.decided bookingId status hop hrefunded hund
      obtain ⟨d', hcommits⟩ := @endDecidedBooking_commits _ _ (f y.state.now) _ refused _ _
        hfound hstatus
      simp only [Call.exec, hcommits] at hexec
      cases hexec
    rw [hexec] at hmade ⊢
    rw [refundsSince_same rfl, List.append_nil] at hmade
    exact ⟨RowsKeep.refl .refl _, herr _ e hmade hrefused⟩

/-- Once a decision has been written that was refunded, its notifications are sent. -/
theorem safe_notified (hop : op.takesBack ≠ none) (hx : RefundedOnce bookingId tid x) :
    decisionProtocol.Safe op tid (fun r z => (∀ e, r ≠ .error e) ∧ RefundedOnce bookingId tid z)
      notify x := by
  refine Protocol.Safe.perform steady_refundedOnce.stable hx fun y hy _ => keeps_decision fun i hcond => ?_
  have hrefunded : refundsOf y tid ≠ [] := by
    obtain ⟨row, paymentIntent, amount, -, -, -, -, hmade⟩ := hy
    rw [hmade]
    exact List.cons_ne_nil _ _
  obtain rfl : i = .ok := by
    refine hcond.notified (IsNotification notification) hop hrefunded
      (Program.inr_mem_seenEvents.mpr ?_) rfl
    exact List.mem_append_right _ (List.mem_singleton_self _)
  have hrows : RowsKeep DecisionRow.Kept (decisionRows y.state.db) (decisionRows y.state.db) :=
    RowsKeep.refl .refl _
  refine ⟨hrows, nofun, steady_refundedOnce y _ hy ?_ (fun hund => undecided_seenStep hund ?_) hrows⟩
  · refine refundsOf_seenStep.trans ((congrArg _ ?_).trans (List.append_nil _))
    exact refundsSince_same rfl
  · exact fun e he => absurd he List.not_mem_nil

/-- **What follows a decision** that was refunded: the payment is marked, as far as that goes, and the
rider is told. -/
theorem safe_completeRefusal {driverId : ℕ} (hop : op.takesBack ≠ none)
    (hx : RefundedOnce bookingId tid x) :
    decisionProtocol.Safe op tid (fun r z => (∀ e, r ≠ .error e) ∧ RefundedOnce bookingId tid z)
      (completeRefusal driverId bookingId booking true) x := by
  have htwice : ∀ {x}, RefundedOnce bookingId tid x →
      decisionProtocol.Safe op tid (fun r z => (∀ e, r ≠ .error e) ∧ RefundedOnce bookingId tid z)
        (notify.bind fun _ => notify) x := by
    intro x hx
    refine Protocol.Safe.bind ((safe_notified hop hx).mono ?_)
    rintro (e | u) y ⟨hreturned, hy⟩
    · exact absurd rfl (hreturned e)
    · exact safe_notified hop hy
  unfold completeRefusal
  split_ifs with hamount
  · refine Protocol.Safe.bind (Protocol.Safe.mono (Protocol.Safe.tryCatch
      (Q := fun r z => (∀ e, r ≠ .error e) ∧ RefundedOnce bookingId tid z) ?_) ?_)
    · -- a failure to mark the payment is only logged
      refine (safe_steady steady_refundedOnce ?_ hx).mono ?_
      · exact (leaves_markBookingPaymentRefunded decisionRows_paymentWrites
          (fun _ _ _ _ _ h => (by cases h)) (fun _ _ => rfl) _ _ _).bind fun _ => trivial
      · rintro (e | u) y hy
        · exact ⟨fun _ h => (by cases h), hy⟩
        · exact ⟨fun _ h => (by cases h), hy⟩
    · rintro (e | u) y ⟨hreturned, hy⟩
      · exact absurd rfl (hreturned e)
      · exact htwice hy
  · exact htwice hx

/-- **A decision**: whatever comes of it, the money has moved exactly if it returns. -/
theorem safe_decide {settings : Settings} {driverId : ℕ} {f : Option ℕ × Bool → ℕ → Booking → Booking}
    (hstripe : settings.bypassPayment = false) (hf : ∀ refund, CancelsByDriver (f refund))
    (hop : op.takesBack = some (bookingId, status)) (hfresh : Fresh tid x)
    (hpaid : PaidAs bookingId booking x) :
    decisionProtocol.Safe op tid (op.KeptBy tid)
      ((refundDecidedBooking settings booking).bind fun refund =>
        (Program.perform (decisionTx bookingId status refused (f refund) saw)).bind fun _ =>
          completeRefusal driverId bookingId booking refund.2) x := by
  have hdecides : op.takesBack ≠ none := by
    rw [hop]
    exact Option.some_ne_none _
  -- both outcomes, for the booking that the call is about
  have hthrown : ∀ e z, refundsOf z tid = [] → op.KeptBy tid (.error e) z :=
    fun e z hnone _ _ _ => hnone
  have hreturned : ∀ z, RefundedOnce bookingId tid z → op.KeptBy tid (.ok ()) z := by
    intro z honce bookingId' status' hop'
    obtain ⟨rfl, rfl⟩ := Prod.mk.injEq .. ▸ Option.some.inj (hop.symm.trans hop')
    exact honce
  refine Protocol.Safe.bind ((safe_refundDecidedBooking hstripe hdecides hfresh hpaid).mono ?_)
  rintro (e | refund) y hrefund
  · exact hthrown e y hrefund
  obtain ⟨hpaid, ⟨hunpaid, hfresh⟩ | ⟨hmade, paymentIntent, hintent, hrefunded⟩⟩ := hrefund
  · -- nothing was refunded: such a booking is not written
    refine Protocol.Safe.bind (Protocol.Safe.perform (steady_fresh.and steady_paidAs).stable
      ⟨hfresh, hpaid⟩ fun z hz _ => keeps_decisionTx (hf refund) hop ?_ ?_)
    · intro z' row paymentIntent amount _ hrow hcaptured hintent _ _
      obtain ⟨row', hrow', hsame⟩ := hz.2
      obtain rfl := Option.some.inj (hrow.symm.trans hrow')
      rcases hunpaid with hnone | hnone
      · exact absurd (hsame.1.trans hnone) hcaptured
      · rw [hsame.2.1.trans hnone] at hintent
        cases hintent
    · intro z' e hsame _
      exact hthrown e z' (hsame.trans hz.1.1)
  · refine Protocol.Safe.bind (Protocol.Safe.perform
      ((steady_refundMade _).and steady_paidAs).stable ⟨hrefunded, hpaid⟩
      fun z hz _ => keeps_decisionTx (hf refund) hop ?_ ?_)
    · intro z' row paymentIntent' amount hsame hrow _ hintent' hamount hafter
      obtain ⟨row', hrow', hpayment⟩ := hz.2
      obtain rfl := Option.some.inj (hrow.symm.trans hrow')
      obtain ⟨after, hrow'', hby, hpayment'⟩ := hafter
      have honce : RefundedOnce bookingId tid z' := by
        refine ⟨after, paymentIntent, amount, hrow'', hby, ?_, hpayment'.2.2.trans hamount, ?_⟩
        · exact (hpayment'.2.1.trans hpayment.2.1).trans hintent
        · rw [hsame, hz.1.1, Booking.fullRefundAmount,
            show booking.paymentAmount = some amount from hpayment.2.2.symm.trans hamount]
          rfl
      rw [hmade]
      refine (safe_completeRefusal hdecides honce).mono ?_
      rintro (e | u) z'' ⟨hends, honce⟩
      · exact absurd rfl (hends e)
      · exact hreturned z'' honce
    · intro z' e _ hfails
      refine absurd (hfails ?_ hz.1.2) not_false
      rw [hz.1.1]
      exact List.cons_ne_nil _ _

/-! ### The calls -/

theorem safe_rejectBooking {settings : Settings} {hstripe : settings.bypassPayment = false}
    {driverId : ℕ} (hop : op = .rejectBooking settings hstripe driverId bookingId)
    (hx : Fresh tid x) :
    decisionProtocol.Safe op tid (op.KeptBy tid) (rejectBooking settings driverId bookingId) x := by
  refine Protocol.Safe.bind ((safe_requireDriverBooking hx).mono ?_)
  rintro (e | ⟨booking, ride⟩) y ⟨hfresh, hpaid⟩
  · exact fun _ _ _ => hfresh.1
  dsimp only
  split_ifs with hstatus
  · exact fun _ _ _ => hfresh.1
  have hpaid := hpaid _ rfl
  refine Protocol.Safe.bind ((safe_steady (steady_fresh.and steady_paidAs)
    (leaves_assertDecisionWindowOpen _) ⟨hfresh, hpaid⟩).mono ?_)
  rintro (e | u) z ⟨hfresh, hpaid⟩
  · exact fun _ _ _ => hfresh.1
  refine safe_decide hstripe (f := fun refund now b => { b.refused booking.fullRefundAmount refund now
    with driverDecisionAt := some now }) ?_ (by rw [hop]; rfl) hfresh hpaid
  exact fun refund now b => ⟨⟨rfl, rfl⟩, rfl, rfl, rfl⟩

theorem safe_cancelAfterAccept {settings : Settings} {hstripe : settings.bypassPayment = false}
    {driverId : ℕ} (hop : op = .cancelAfterAccept settings hstripe driverId bookingId)
    (hx : Fresh tid x) :
    decisionProtocol.Safe op tid (op.KeptBy tid)
      (cancelAfterAccept settings driverId bookingId) x := by
  refine Protocol.Safe.bind ((safe_requireDriverBooking hx).mono ?_)
  rintro (e | ⟨booking, ride⟩) y ⟨hfresh, hpaid⟩
  · exact fun _ _ _ => hfresh.1
  dsimp only
  split_ifs with hstatus
  · exact fun _ _ _ => hfresh.1
  refine safe_decide hstripe (f := fun refund now b =>
    b.refused booking.fullRefundAmount refund now) ?_ (by rw [hop]; rfl) hfresh (hpaid _ rfl)
  exact fun refund now b => ⟨⟨rfl, rfl⟩, rfl, rfl, rfl⟩

/-- Every call keeps what it owes. -/
theorem safeOperations_decision : decisionProtocol.SafeOperationsTo fun op tid => op.KeptBy tid := by
  intro op tid x _ hlog
  have hfresh : Fresh tid x := by
    refine ⟨?_, fun id saw hmem => hlog _ hmem rfl⟩
    rw [refundsOf, Logged.seen_eq_nil hlog]
    rfl
  -- a call that takes nothing back owes nothing
  have howes : op.takesBack = none → ∀ r z, op.KeptBy tid r z := by
    intro hnone r z bookingId status hop
    rw [hnone] at hop
    cases hop
  cases op with
  | rejectBooking settings hstripe driverId bookingId => exact safe_rejectBooking rfl hfresh
  | cancelAfterAccept settings hstripe driverId bookingId => exact safe_cancelAfterAccept rfl hfresh
  | acceptBooking driverId bookingId =>
    exact (safe_rows (rows_acceptBooking _ _)).mono fun r z _ => howes rfl r z
  | cancelBooking passengerId bookingId =>
    exact (safe_rows (rows_cancelBooking _ _)).mono fun r z _ => howes rfl r z
  | withdrawBooking settings hstripe passengerId bookingId =>
    exact (safe_rows (rows_withdrawBooking _ _ _)).mono fun r z _ => howes rfl r z
  | handleExtendedDeadline settings hstripe bookingId =>
    exact safe_handleExtendedDeadline.mono fun r z _ => howes rfl r z

theorem stable_keptBy (op : DecisionOp) (tid : ℕ) (r : Except Err Unit) :
    decisionProtocol.Stable tid (op.KeptBy tid r) := by
  intro x y hx hrely _ bookingId status hop
  have hkept := hx bookingId status hop
  cases r with
  | error e => exact hrely.refundsOf.trans hkept
  | ok u => exact steady_refundedOnce.stable x y hkept hrely trivial

end Decide

/-! ## Whole runs -/

/-- The pool before any call has been started. -/
def decisionStart (w : World) : Pool Call Err (Event ⊕ Seen) World DecisionOp := { now := { state := w } }

/-- What every decision that has ended has come to. -/
def DecisionsKept (p : Pool Call Err (Event ⊕ Seen) World DecisionOp) : Prop :=
  ∀ (tid : ℕ) (op : DecisionOp) (rest : Service Unit) outcome,
    p.threads[tid]? = some (op, rest) → rest.result? = some outcome → op.KeptBy tid outcome p.now

/-- **A decision that throws has moved no money; one that returns has refunded the payment once, and the
booking stays cancelled by the driver**, in any interleaving whose steps meet the condition. -/
theorem decisions_refund_once (w : World) (moves : List (Move DecisionOp Reply World))
    (hmeets : History.Each (Pool.step decisionPool)
      (Pool.Meets decisionPool DecisionStep fun _ _ => True) (decisionStart w) moves) :
    History.Always (Pool.step decisionPool) DecisionsKept (decisionStart w) moves := by
  have hstart : decisionProtocol.HoldsTo (fun (op : DecisionOp) tid => op.KeptBy tid)
      (decisionStart w) := Protocol.holdsTo_of_inv trivial rfl rfl
  refine (Protocol.soundTo stable_keptBy safeOperations_decision hstart hmeets).imp fun p h => ?_
  intro tid op rest outcome ht hdone
  exact h.post ht hdone

/-! ## Runs -/

section Runs

/-- A paid booking that waits for its driver, and its payment at Stripe. -/
private def awaitingDriver : World where
  db := {
    rides := ⟨[(1, {
      driverId := 9, totalSeats := 3, availableSeats := 2, status := .published,
      departureAt := 100 })], by simp⟩
    bookings := ⟨[(7, {
      rideId := 1, passengerId := 2, seatsBooked := 1, totalPrice := 1020,
      status := .driverPending, seatsReservedAt := some 0, stripePaymentIntentId := some 5,
      paymentCapturedAt := some 0, paymentAmount := some 1020 })], by simp⟩ }
  stripe := {
    intents := ⟨[(5, {
      bookingId := some 7, amount := 1020, currency := "EUR", status := .succeeded })], by simp⟩ }

/-- The driver rejects the booking: it is read, refunded and cancelled, there is no payment to mark, and
the rider is told. -/
private def rejected : List (Move DecisionOp Reply World) :=
  [.start (.rejectBooking {} rfl 9 7), .step 0 .ok, .step 0 .ok, .step 0 .ok, .step 0 .ok, .step 0 .ok,
    .step 0 .ok, .step 0 .ok]

/-- The rider withdraws the booking when it has been refunded and not cancelled yet. -/
private def rejectedAndWithdrawn : List (Move DecisionOp Reply World) :=
  [.start (.rejectBooking {} rfl 9 7), .step 0 .ok, .step 0 .ok, .step 0 .ok,
    .start (.withdrawBooking {} rfl 2 7), .step 1 .ok, .step 1 .ok, .step 0 .ok]

/-- A step that is answered and writes no decision, before the refund or after the decision. -/
private theorem decisionStep_answered {op : DecisionOp} {tid : ℕ} {x : SeenWorld}
    {seen : List (Event ⊕ Seen)} (hop : op.timesOut = none)
    (hended : ∀ id saw, (.inl (.bookingEnded id saw) : Event ⊕ Seen) ∉ seen)
    (hdecided : refundsOf x tid = [] ∨ ¬ Undecided x tid) : DecisionStep op tid x .ok seen where
  paid _ _ _ _ h := absurd h (hended _ _)
  answered _ _ _ := rfl
  decided _ _ _ hrefunded hund := by
    rcases hdecided with hnone | hdecided
    · exact absurd hnone hrefunded
    · exact absurd hund hdecided
  notified _ _ _ _ _ := rfl
  unanswered _ _ h := by
    rw [hop] at h
    cases h

/-- A rejection that is refunded once. -/
theorem rejected_refunds_once :
    History.Always (Pool.step decisionPool) DecisionsKept (decisionStart awaitingDriver) rejected := by
  refine decisions_refund_once _ _ ⟨trivial, ?_, ?_, ?_, ?_, ?_, ?_, ?_, trivial⟩
  all_goals rintro op rest ⟨⟩ b es s ⟨⟩
  · refine decisionStep_answered rfl (fun id saw h => ?_) (Or.inl rfl)
    cases List.mem_singleton.mp h
  · refine decisionStep_answered rfl (fun id saw h => ?_) (Or.inl rfl)
    cases List.mem_singleton.mp h
  · refine decisionStep_answered rfl (fun id saw h => ?_) (Or.inl rfl)
    rcases List.mem_pair.mp h with h | h <;> cases h
  · -- the decision
    refine ⟨?_, fun _ _ _ => rfl, ?_, fun _ _ _ _ _ => rfl, fun _ _ h => by cases h⟩
    · rintro bookingId status saw ⟨⟩ - row ⟨⟩
      exact ⟨Option.some_ne_none _, Option.some_ne_none _, Option.some_ne_none _⟩
    · rintro bookingId status ⟨⟩ - -
      exact ⟨rfl, _, _, rfl, rfl⟩
  all_goals
    refine decisionStep_answered rfl (fun id saw h => ?_) (Or.inr fun hund => ?_)
    · cases List.mem_singleton.mp h
    · exact hund 7 true (List.mem_of_getElem? (i := 4) rfl)

/-- A rejection that throws after it has moved the money. -/
theorem rejected_moves_money :
    ¬ History.Always (Pool.step decisionPool) DecisionsKept (decisionStart awaitingDriver)
      rejectedAndWithdrawn := by
  intro h
  exact absurd (h.last 0 _ _ _ rfl rfl 7 .driverPending rfl) (List.cons_ne_nil _ _)

end Runs

end Deliivo

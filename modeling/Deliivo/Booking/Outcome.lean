import Deliivo.Booking.Ending
import Deliivo.Booking.Frame
import Deliivo.Domain.Pool
import Deliivo.Domain.Preserves
import Deliivo.Store.RowView

/-!
# What becomes of a booking

The record of a booking is what says how it ended: its status, who cancelled it and what was to be
refunded. The rider's and the driver's calls end a booking in a transaction that reads its status once
more; the timer of an unanswered booking does not.

## Main definitions

* `BookingRecord`, `bookingRecords`: what says how a booking ended
* `recordsFrame`: steps that leave the records alone
* `EndingCall guard`: a step that cancels bookings whose status has `guard`, if anything

## Main results

* `records_releaseBookingSeats`: giving seats back changes no record
* `ending_cancelBooking`, `ending_rejectBooking`, `ending_cancelAfterAccept`,
  `ending_handleExtendedDeadline`
-/

namespace Deliivo

/-- What says how a booking ended. -/
structure BookingRecord where
  rideId : ℕ
  status : BookingStatus
  cancelledByRole : Option CancelledByRole
  refundPercent : Option ℤ
  refundAmount : Option ℤ
  deriving DecidableEq, Repr

def Booking.record (booking : Booking) : BookingRecord where
  rideId := booking.rideId
  status := booking.status
  cancelledByRole := booking.cancelledByRole
  refundPercent := booking.refundPercent
  refundAmount := booking.refundAmount

/-- The records of the bookings. -/
def bookingRecords (d : Db) : ℕ → Option BookingRecord := d.bookings.viewed Booking.record

/-- The statuses in which a booking has ended. -/
def BookingStatus.ended : BookingStatus → Bool
  | .cancelled | .paymentFailed | .rideFullRefunded | .noShow | .completed => true
  | _ => false

/-- What a step may do that leaves the records alone, and the events that it may report. -/
def recordsFrame (E : Event → Prop) : Frame where
  db := bookingRecords
  stripe _ := ()
  events := E

/-- What a call that ends bookings may make of one. -/
def BookingRecord.Ends (guard : BookingStatus → Bool) (before after : BookingRecord) : Prop :=
  after = before ∨
    guard before.status = true ∧ after.status = .cancelled ∧ after.rideId = before.rideId

/-- A step leaves every record alone, or cancels a booking whose status has `guard`. -/
def EndingCall (guard : BookingStatus → Bool) (E : Event → Prop) {β : Type} (c : Call β) : Prop :=
  ∀ i w, RowsBecome (fun _ => BookingRecord.Ends guard) (bookingRecords w.db)
    (bookingRecords (c.exec i w).2.2.db) ∧ ∀ e ∈ (c.exec i w).2.1, E e

variable {guard : BookingStatus → Bool} {E : Event → Prop} {bookingId : ℕ} {d d' : Db}

theorem BookingRecord.Ends.refl (record : BookingRecord) : record.Ends guard record := Or.inl rfl

/-! ## Steps that leave the records alone -/

section Records

theorem records_modify {f : Booking → Booking} (hf : ∀ b, (f b).record = b.record) (d : Db)
    (id : ℕ) : bookingRecords { d with bookings := d.bookings.modify id f } = bookingRecords d :=
  Table.viewed_modify_of_same hf id

theorem records_updateBooking {f : Booking → Booking} (hf : ∀ b, (f b).record = b.record) (id : ℕ) :
    (update bookings id f).Leaves bookingRecords := fun _ d => records_modify hf d id

theorem records_seatHold : SeatHoldApart bookingRecords := by
  intro d P
  exact @Table.viewed_modifyWhere_of_same _ _ _ Booking.record
    (fun b => { b with seatsReservedAt := none }) (fun _ => rfl) _

theorem records_refundDate : RefundDateApart bookingRecords := by
  intro d id date
  exact records_modify (f := fun b => { b with refundedAt := date }) (fun _ => rfl) d id

theorem records_releaseBookingSeats (hold : SeatHold) :
    (releaseBookingSeats bookingId hold).Leaves bookingRecords :=
  leaves_giveSeatsBack (fun _ _ => rfl) (fun _ _ _ => rfl) records_seatHold _ _

theorem records_paymentWrites : PaymentWritesApart bookingRecords := fun _ _ _ _ => rfl

variable (hw : ∀ paymentId read written, E (.paymentWritten paymentId read written))

include hw in
theorem records_syncRefund (driverId : ℕ) (refundAmount : ℤ) :
    (syncRefund bookingId driverId refundAmount).Leaves (recordsFrame E) :=
  leaves_syncRefund records_paymentWrites (fun _ _ => rfl) hw _ _ _

theorem records_settleCancelledBooking (booking : Booking) (refundAmount : ℤ) :
    (settleCancelledBooking bookingId booking refundAmount).Leaves (recordsFrame E) :=
  leaves_settleCancelledBooking (fun _ _ => rfl) records_refundDate (fun _ _ => rfl) _ _ _

theorem records_refundDecidedBooking (settings : Settings) (booking : Booking) :
    (refundDecidedBooking settings booking).Leaves (recordsFrame E) :=
  leaves_refundDecidedBooking (fun _ _ => rfl) _ _

include hw in
theorem records_completeRefusal (driverId : ℕ) (booking : Booking) (refunded : Bool) :
    (completeRefusal driverId bookingId booking refunded).Leaves (recordsFrame E) :=
  leaves_completeRefusal records_paymentWrites (fun _ _ => rfl) hw _ _ _ _

end Records

/-! ## Steps that end bookings -/

section Ending

theorem endingCall_of_leaves {β : Type} {c : Call β} (h : c.Leaves (recordsFrame E)) :
    EndingCall guard E c := by
  intro i w
  obtain ⟨hdb, -, hevents⟩ := h.exec i w
  refine ⟨?_, hevents⟩
  rw [show bookingRecords (c.exec i w).2.2.db = bookingRecords w.db from hdb]
  exact .refl (fun _ => .refl) _

theorem ending_of_leaves {α : Type} {p : Service α} (h : p.Leaves (recordsFrame E)) :
    p.Issues fun {_} c => EndingCall guard E c :=
  h.mono fun _ hc => endingCall_of_leaves hc

theorem endingCall_transact {β : Type} {body : Ctx → Tx β} {report : β → List Event}
    (h : ∀ (w : World) b d, (body ⟨w.now, w.db.freshId⟩).atomic w.db = .ok (b, d) →
      RowsBecome (fun _ => BookingRecord.Ends guard) (bookingRecords w.db) (bookingRecords d))
    (hE : ∀ b, ∀ e ∈ report b, E e) : EndingCall guard E (.transact body report) := by
  intro i w
  obtain ⟨b, d, hbody, hexec⟩ | ⟨e, hexec⟩ := exec_transact body report i w
  · rw [hexec]
    exact ⟨h w b d hbody, hE b⟩
  · rw [hexec]
    exact ⟨.refl (fun _ => .refl) _, fun e he => absurd he List.not_mem_nil⟩

theorem endingCall_transactWithStripe {β : Type} {body : Ctx → StripeTx β}
    {report : β → List Event}
    (h : ∀ (w : World) b d s,
      (body ⟨w.now, w.db.freshId⟩).atomic w.db w.stripe = (.ok (b, d), s) →
      RowsBecome (fun _ => BookingRecord.Ends guard) (bookingRecords w.db) (bookingRecords d))
    (hE : ∀ b, ∀ e ∈ report b, E e) : EndingCall guard E (.transactWithStripe body report) := by
  intro i w
  obtain ⟨b, d, s, hbody, hexec⟩ | ⟨e, s, hexec⟩ := exec_transactWithStripe body report i w
  · rw [hexec]
    exact ⟨h w b d s hbody, hE b⟩
  · rw [hexec]
    exact ⟨.refl (fun _ => .refl) _, fun e he => absurd he List.not_mem_nil⟩

/-- A booking that is written by its id, and gives its seats back. -/
theorem records_endBooking {hold : SeatHold} {f : Booking → Booking} {u : Unit}
    (hrun : (endBooking bookingId hold f).atomic d = .ok (u, d')) :
    bookingRecords d' =
      bookingRecords { d with bookings := d.bookings.modify bookingId f } := by
  obtain ⟨_, d₁, hwrite, hrest⟩ := Tx.atomic_bind.mp hrun
  obtain ⟨-, -, -, rfl⟩ := Service.atomic_update hwrite
  refine Tx.Leaves.atomic ?_ hrest
  exact (records_releaseBookingSeats hold).bind fun _ => trivial

/-- If that cancels it, the booking has to have had the status. -/
theorem ends_endBooking {hold : SeatHold} {f : Booking → Booking} {u : Unit}
    (hrun : (endBooking bookingId hold f).atomic d = .ok (u, d'))
    (hf : ∀ b, (f b).status = .cancelled ∧ (f b).rideId = b.rideId)
    (hguard : ∀ b, d.bookings.get? bookingId = some b → guard b.status = true) :
    RowsBecome (fun _ => BookingRecord.Ends guard) (bookingRecords d) (bookingRecords d') := by
  rw [records_endBooking hrun]
  exact Table.rowsBecome_modify (fun _ => .refl) fun b hb => Or.inr ⟨hguard b hb, hf b⟩

theorem ending_cancelBooking (passengerId : ℕ)
    (hw : ∀ paymentId read written, E (.paymentWritten paymentId read written))
    (hended : ∀ saw, E (.bookingEnded bookingId saw)) :
    (cancelBooking passengerId bookingId).Issues
      fun {_} c => EndingCall BookingStatus.cancellable E c := by
  refine (ending_of_leaves (leaves_sql fun _ _ => rfl)).bind fun checkout => ?_
  split_ifs with hcheckout
  · trivial
  refine (ending_of_leaves (leaves_sql fun _ _ => rfl)).bind fun found => ?_
  cases found with
  | none => trivial
  | some found =>
    refine ((Program.issues_command _).mpr (endingCall_of_leaves (c := .clock) trivial)).bind
      fun now => ?_
    dsimp only
    split_ifs with hclosed
    · trivial
    refine ((Program.issues_perform _).mpr (endingCall_transact (fun w u d hbody => ?_) ?_)).bind
      fun _ => ?_
    · -- the status is read once more
      obtain ⟨current, d₁, hread, hrest⟩ := Tx.atomic_bind.mp hbody
      obtain ⟨rfl, rfl⟩ := Prod.mk.injEq .. ▸ Except.ok.inj hread
      split at hrest
      · cases hrest
      next booking ride hcurrent =>
        obtain ⟨hfound, hstatus⟩ := Option.filter_eq_some_iff.mp hcurrent
        refine ends_endBooking hrest (fun b => ⟨rfl, rfl⟩) fun b hb => ?_
        obtain rfl := Option.some.inj (hb.symm.trans (findBookingWithRide_eq_some.mp hfound).1)
        exact (Bool.and_eq_true _ _ ▸ hstatus).2
    · intro _ e he
      rw [List.mem_singleton.mp he]
      exact hended _
    · refine ending_of_leaves ((records_settleCancelledBooking _ _).bind fun refunded => ?_)
      split_ifs
      · exact (records_syncRefund hw _ _).bind fun _ => leaves_notify
      · exact leaves_notify

/-- A decision of the driver reads the status once more. -/
theorem ends_endDecidedBooking {status : BookingStatus} {refused : String} {f : Booking → Booking}
    {u : Unit} (hrun : (endDecidedBooking bookingId status refused f).atomic d = .ok (u, d'))
    (hf : ∀ b, (f b).status = .cancelled ∧ (f b).rideId = b.rideId) :
    RowsBecome (fun _ => BookingRecord.Ends (· == status)) (bookingRecords d) (bookingRecords d') := by
  obtain ⟨current, d₁, hread, hrest⟩ := Tx.atomic_bind.mp hrun
  obtain ⟨rfl, rfl⟩ := Prod.mk.injEq .. ▸ Except.ok.inj hread
  split at hrest
  · cases hrest
  next booking ride hcurrent =>
    split_ifs at hrest with hstatus
    · cases hrest
    refine ends_endBooking hrest hf fun b hb => ?_
    obtain rfl := Option.some.inj (hb.symm.trans (findBookingWithRide_eq_some.mp hcurrent).1)
    exact beq_iff_eq.mpr (not_not.mp hstatus)

theorem ending_rejectBooking (settings : Settings) (driverId : ℕ)
    (hw : ∀ paymentId read written, E (.paymentWritten paymentId read written))
    (hended : ∀ saw, E (.bookingEnded bookingId saw)) :
    (rejectBooking settings driverId bookingId).Issues
      fun {_} c => EndingCall (· == .driverPending) E c := by
  refine (ending_of_leaves (leaves_requireDriverBooking _ _)).bind fun found => ?_
  dsimp only
  split_ifs with hstatus
  · trivial
  refine (ending_of_leaves (leaves_assertDecisionWindowOpen _)).bind fun _ => ?_
  refine (ending_of_leaves (records_refundDecidedBooking _ _)).bind fun refund => ?_
  refine ((Program.issues_perform _).mpr (endingCall_transact (fun w u d hbody =>
    ends_endDecidedBooking hbody ?_) ?_)).bind fun _ => ?_
  · exact fun b => ⟨rfl, rfl⟩
  · intro _ e he
    rw [List.mem_singleton.mp he]
    exact hended _
  · exact ending_of_leaves (records_completeRefusal hw _ _ _)

theorem ending_cancelAfterAccept (settings : Settings) (driverId : ℕ)
    (hw : ∀ paymentId read written, E (.paymentWritten paymentId read written))
    (hended : ∀ saw, E (.bookingEnded bookingId saw)) :
    (cancelAfterAccept settings driverId bookingId).Issues
      fun {_} c => EndingCall (· == .confirmed) E c := by
  refine (ending_of_leaves (leaves_requireDriverBooking _ _)).bind fun found => ?_
  dsimp only
  split_ifs with hstatus
  · trivial
  refine (ending_of_leaves (records_refundDecidedBooking _ _)).bind fun refund => ?_
  refine ((Program.issues_perform _).mpr (endingCall_transact (fun w u d hbody =>
    ends_endDecidedBooking hbody ?_) ?_)).bind fun _ => ?_
  · exact fun b => ⟨rfl, rfl⟩
  · intro _ e he
    rw [List.mem_singleton.mp he]
    exact hended _
  · exact ending_of_leaves (records_completeRefusal hw _ _ _)

/-- The timer cancels the booking whatever has become of it since it was read. -/
theorem ending_handleExtendedDeadline (settings : Settings)
    (hended : ∀ saw, E (.bookingEnded bookingId saw)) :
    (handleExtendedDeadline settings bookingId).Issues fun {_} c => EndingCall (fun _ => true) E c := by
  refine (ending_of_leaves (leaves_sql (leaves_findBookingWithRide _))).bind fun found => ?_
  cases found with
  | none => trivial
  | some found =>
    dsimp only
    split_ifs with hstatus
    · trivial
    refine ((Program.issues_perform _).mpr (endingCall_transactWithStripe (fun w u d s hbody => ?_)
      ?_)).bind fun _ => ending_of_leaves leaves_notify
    · obtain ⟨u₁, d₁, s₁, hend, hrest⟩ := StripeTx.atomic_bind.mp hbody
      rw [Tx.atomic_lift] at hend
      -- the refund after the ending changes no record but the ids Stripe gave
      have hkept : bookingRecords d = bookingRecords d₁ := by
        refine (StripeTx.Leaves.atomic (F := recordsFrame E) ?_ hrest).1 _ _ rfl
        refine Program.Issues.bind ?_ fun refund => ?_
        · unfold refundUnansweredBooking
          split_ifs
          · trivial
          · split
            · exact ((Program.issues_perform _).mpr fun _ _ _ _ => rfl).bind fun _ => trivial
            · trivial
        · split_ifs
          · refine ((Program.issues_perform _).mpr ?_).bind fun _ => trivial
            apply records_updateBooking
            exact fun _ => rfl
          · trivial
      rw [hkept]
      refine ends_endBooking (Prod.mk.inj hend).1 ?_ fun _ _ => rfl
      exact fun b => ⟨rfl, rfl⟩
    · intro _ e he
      rw [List.mem_singleton.mp he]
      exact hended _

end Ending

end Deliivo

import Deliivo.Account.Deletion
import Deliivo.Booking.Confirmation
import Deliivo.Booking.SeatTaking
import Deliivo.Dispute.Settlement
import Deliivo.Ride.Frame
import Deliivo.Webhook.Handler

/-!
# The books of a ride are balanced

The calls that take and give back seats run next to each other, statement by statement: a transaction
sees what is committed when each of its statements runs. Every one of them locks what it writes before it
counts, so that whatever is committed has balanced books.

**At any time no ride has more seats taken than it has, what is left is what is not taken, and every edge
counts the seats that are held on it** (`seats_balanced`), whichever transactions commit, are given up or
hang in between.

## Main definitions

* `CapacityOp`, `capacityPool`: the calls, next to each other on a server
* `Service.KeepsSeats`: a service every transaction of which may be committed

## Main results

* `body_endBooking`, `body_endBookingWhere`: ending a booking
* `keepsSeats_program`: every call keeps the books
* `seats_balanced`
-/

namespace Deliivo

open Program (Guarded Underway Logged Move Pool)

variable {α β : Type} {t : Underway Db Row} {d : Db}

/-! ## Ending a booking -/

/-- A body that may be committed wherever it returns. -/
abbrev ReadyBody (body : Tx α) (t : Underway Db Row) (d : Db) : Prop :=
  seatGuard.Body Stmt.statement (Service.Returns seatGuard fun _ _ => True) body t d

/-- What has been found of a booking, and stays so for good. -/
def Found (bookingId : ℕ) (found : Option (Booking × Ride)) (d : Db) : Prop :=
  ∀ booking ride, found = some (booking, ride) → d.Knows bookingId (booking.hold ride.totalSeats)

theorem lasting_found (bookingId : ℕ) (found : Option (Booking × Ride)) :
    seatGuard.Lasting (Found bookingId found) :=
  fun d d' h hstep booking ride hfound => lasting_knows _ _ d d' (h booking ride hfound) hstep

theorem found_findBookingWithRide (bookingId : ℕ) (d : Db) :
    Found bookingId ((findBookingWithRide bookingId).answer d) d := fun _ _ h => knows_of_found h

theorem found_findRidersBooking (passengerId bookingId : ℕ) (statuses : BookingStatus → Bool) (d : Db) :
    Found bookingId ((findRidersBooking passengerId bookingId statuses).answer d) d :=
  fun _ _ h => knows_of_found (Option.filter_eq_some_iff.mp h).1

section Ending

variable {bookingId : ℕ} {hold : SeatHold} {f : Booking → Booking}

/-- A write that nobody can tell from none, before the seats are given back. -/
theorem body_updateBooking (hf : ∀ b, SeatsAlike b (f b)) (h : seatGuard.Ready t d)
    (hknows : d.Knows bookingId hold) :
    seatGuard.Body Stmt.statement (Service.Returns seatGuard fun _ d => d.Knows bookingId hold)
      (Program.perform (update bookings bookingId f)) t d :=
  Guarded.Body.perform (quiet_update hf).quiet h
    (fun _ _ hd _ => lasting_knows _ _ _ _ hknows hd.step) fun _ _ _ _ => trivial

/-- **Ending a booking** by its id. -/
theorem body_endBooking (hf : ∀ b, SeatsAlike b (f b)) (h : seatGuard.Ready t d)
    (hknows : d.Knows bookingId hold) : ReadyBody (endBooking bookingId hold f) t d := by
  refine Guarded.Body.sequence (body_updateBooking hf h hknows) fun _ t d h hknows => ?_
  exact Guarded.Body.sequence (body_releaseBookingSeats h hknows) fun _ _ _ h _ => ⟨h, trivial⟩

/-- **Ending a booking** that is still as it has to be. -/
theorem body_endBookingWhere {statuses : BookingStatus → Bool} (hf : ∀ b, SeatsAlike b (f b))
    (h : seatGuard.Ready t d) (hknows : d.Knows bookingId hold) :
    ReadyBody (endBookingWhere bookingId hold statuses f) t d := by
  refine Guarded.Body.sequence (A := fun _ d => d.Knows bookingId hold) ?_ fun ended t d h hknows => ?_
  · exact Guarded.Body.command (quiet_updateMany hf).quiet h
      fun d' hd => lasting_knows _ _ _ _ hknows hd.step
  split_ifs with hnone
  · exact ⟨h, trivial⟩
  · exact Guarded.Body.sequence (body_releaseBookingSeats h hknows) fun _ _ _ h _ => ⟨h, trivial⟩

/-- A transaction that begins by reading. -/
theorem body_read {c : Stmt β} {A : β → Db → Prop} {k : β → Tx α} (hwrite : c.write = fun _ d => d)
    (hA : ∀ d, A (c.answer d) d)
    (hk : ∀ b t d, seatGuard.Ready t d → A b d → ReadyBody (k b) t d) :
    ReadyBody ((Program.command c).bind k) {} d :=
  Guarded.Body.sequence (Guarded.Body.command (Guarded.quiet_read hwrite) (Guarded.ready_open d)
    fun d' _ => hA d') fun b t d h hb => hk b t d h hb

theorem body_failUnpaidBooking : ReadyBody (failUnpaidBooking bookingId) {} d := by
  refine body_read rfl (found_findBookingWithRide bookingId) fun found t d h hfound => ?_
  cases found with
  | none => exact ⟨h, trivial⟩
  | some found =>
    exact body_endBookingWhere (fun _ => seatsAlike_of_status rfl (by rintro ⟨⟩)) h (hfound _ _ rfl)

theorem body_failPendingBooking : ReadyBody (failPendingBooking bookingId) {} d := by
  refine body_read rfl (found_findBookingWithRide bookingId) fun found t d h hfound => ?_
  cases found with
  | none => exact ⟨h, trivial⟩
  | some found =>
    dsimp only
    split_ifs with hpending
    · refine Guarded.Body.sequence (body_updateBooking (fun _ => seatsAlike_of_status rfl
        (by rintro ⟨⟩)) h (hfound _ _ rfl)) fun _ t d h hknows => ?_
      exact Guarded.Body.sequence (body_releaseBookingSeats h hknows) fun _ _ _ h _ => ⟨h, trivial⟩
    · exact ⟨h, trivial⟩

theorem body_cancelBookingTx {passengerId : ℕ} {refundPercent refundAmount : ℤ} {ctx : Ctx} :
    ReadyBody (cancelBookingTx passengerId bookingId refundPercent refundAmount ctx) {} d := by
  refine body_read rfl (found_findRidersBooking passengerId bookingId (·.cancellable))
    fun found t d h hfound => ?_
  cases found with
  | none => trivial
  | some found =>
    exact body_endBooking (fun _ => seatsAlike_of_status rfl (by rintro ⟨⟩)) h (hfound _ _ rfl)

theorem body_endDecidedBooking {status : BookingStatus} {refused : String}
    (hf : ∀ b, SeatsAlike b (f b)) : ReadyBody (endDecidedBooking bookingId status refused f) {} d := by
  refine body_read rfl (found_findBookingWithRide bookingId) fun found t d h hfound => ?_
  cases found with
  | none => trivial
  | some found =>
    dsimp only
    split_ifs with hstatus
    · trivial
    · exact body_endBooking hf h (hfound _ _ rfl)

end Ending

/-! ### Rides that are closed -/

section Rides

/-- What has been found of bookings that are listed with their ride. -/
def Listed (listed : List (ℕ × Booking)) (totalSeats : ℤ) (d : Db) : Prop :=
  ∀ b ∈ listed, d.Knows b.1 (b.2.hold totalSeats)

theorem lasting_listed (listed : List (ℕ × Booking)) (totalSeats : ℤ) :
    seatGuard.Lasting (Listed listed totalSeats) :=
  Guarded.lasting_forall (fun b : ℕ × Booking => lasting_knows b.1 (b.2.hold totalSeats)) listed

/-- Bookings that are listed as those of a ride are known. -/
theorem listed_of_rows {rideId : ℕ} {ride : Ride} {P : ℕ → Booking → Bool}
    (hride : d.rides.get? rideId = some ride)
    (hP : ∀ id b, P id b = true → b.rideId = rideId) :
    Listed (d.bookings.filter P) ride.totalSeats d := by
  intro row hrow
  obtain ⟨hb, hPb⟩ := Table.mem_filter_iff.mp hrow
  refine knows_of_found (findBookingWithRide_eq_some.mpr ⟨hb, ?_⟩)
  rw [hP _ _ hPb]
  exact hride

theorem Listed.mono {listed listed' : List (ℕ × Booking)} {totalSeats : ℤ}
    (h : Listed listed totalSeats d) (hsub : ∀ b ∈ listed', b ∈ listed) :
    Listed listed' totalSeats d := fun b hb => h b (hsub b hb)

/-- **Closing an overdue ride** ends the bookings that were listed with it. -/
theorem body_closeOverdueRideTx {rideId now : ℕ} {ride : Ride}
    {activeBookings : List (ℕ × Booking)} (hlisted : Listed activeBookings ride.totalSeats d) :
    ReadyBody (closeOverdueRideTx rideId ride activeBookings now) {} d := by
  refine Guarded.Body.sequence (A := fun _ => Listed activeBookings ride.totalSeats)
    (Guarded.Body.command (quiet_updateRides ?_).quiet (Guarded.ready_open d)
      fun d' hd => lasting_listed _ _ _ _ hlisted hd.step) fun closed t d h hlisted => ?_
  · exact fun _ => ⟨rfl, rfl⟩
  split_ifs with hnone hempty
  · exact ⟨h, trivial⟩
  · exact ⟨h, trivial⟩
  refine Guarded.Body.sequence (A := fun _ _ => True) ?_ fun _ t d h _ => ⟨h, trivial⟩
  refine Guarded.Body.sequence (A := fun _ => Listed activeBookings ride.totalSeats)
    (Guarded.Body.command (quiet_updateMany fun b => ?_).quiet h
      fun d' hd => lasting_listed _ _ _ _ hlisted hd.step) fun _ t d h hlisted => ?_
  · exact seatsAlike_of_status rfl (by rintro ⟨⟩)
  refine Guarded.Body.forEach (lasting_listed _ _) h hlisted fun booking hmem t d h hlisted => ?_
  exact body_endBooking (fun b => ⟨rfl, id⟩) h (hlisted booking hmem)

section Account

variable {o : Outside} {n : ℕ} {ctx : Ctx}

/-- A quiet write of a booking in a transaction that calls Stripe. -/
theorem quiet_txWriteBooking {bookingId : ℕ} {f : Booking → Booking} (hf : ∀ b, SeatsAlike b (f b)) :
    (txWriteBooking bookingId f).Issues (Service.TxQuiet seatGuard) :=
  ((Program.issues_perform _).mpr (quiet_update hf).quiet).bind fun _ => trivial

theorem body_of_txQuiet {p : StripeTx α} (hp : p.Issues (Service.TxQuiet seatGuard))
    (h : seatGuard.Ready t d) :
    seatGuard.Body Stmt.statement (Service.Returns seatGuard fun _ _ => True) (p.statements o n) t d :=
  Guarded.Body.quiet (Service.lasting_true _) (Service.quiet_statements hp) h trivial

theorem body_closeBooking {listed : ℕ × Booking} {totalSeats : ℤ} (h : seatGuard.Ready t d)
    (hknows : d.Knows listed.1 (listed.2.hold totalSeats)) :
    ReadyBody ((closeBooking ctx listed totalSeats).statements o n) t d := by
  refine Service.body_statements (A := fun _ _ => True) ?_ fun _ n t d h _ => body_of_txQuiet ?_ h
  · rw [Service.statements_lift]
    exact body_endBooking (fun _ => seatsAlike_of_status rfl (by rintro ⟨⟩)) h hknows
  · unfold refundClosed
    split
    · trivial
    · refine Program.Issues.bind ((Program.issues_perform _).mpr trivial) fun _ => ?_
      exact quiet_txWriteBooking fun _ => ⟨rfl, id⟩

theorem body_closeRide {closed : ClosedRide}
    (hlisted : Listed closed.bookings closed.ride.totalSeats d) :
    ReadyBody ((closeRide closed ctx).statements o n) {} d := by
  refine Service.body_statements (A := fun _ => Listed closed.bookings closed.ride.totalSeats) ?_
    fun _ n t d h hlisted => ?_
  · rw [txSqlOrThrow, Service.statements_perform]
    refine Guarded.Body.perform (quiet_updateRide ?_).quiet (Guarded.ready_open d)
      (fun _ _ hd _ => lasting_listed _ _ _ _ hlisted hd.step) fun _ _ _ _ => trivial
    exact fun _ => ⟨rfl, rfl⟩
  · exact Service.body_statements_forEach (lasting_listed _ _) h hlisted
      fun booking hmem n t d h hlisted => body_closeBooking h (hlisted booking hmem)

/-- A booking that nobody has answered is ended before it is refunded. -/
theorem body_cancelUnansweredBooking {settings : Settings} {bookingId : ℕ} {booking : Booking}
    {ride : Ride} (hknows : d.Knows bookingId (booking.hold ride.totalSeats)) :
    ReadyBody ((cancelUnansweredBooking settings bookingId booking ride ctx).statements o n) {} d := by
  refine Service.body_statements (A := fun _ _ => True) ?_ fun _ n t d h _ => body_of_txQuiet ?_ h
  · rw [Service.statements_lift]
    exact body_endBooking (fun _ => seatsAlike_of_status rfl (by rintro ⟨⟩)) (Guarded.ready_open d)
      hknows
  · refine Program.Issues.bind ?_ fun refund => ?_
    · unfold refundUnansweredBooking
      split_ifs with hbypass
      · trivial
      · split
        · exact Program.Issues.bind ((Program.issues_perform _).mpr trivial) fun _ => trivial
        · trivial
    · split_ifs
      · exact quiet_txWriteBooking fun _ => ⟨rfl, id⟩
      · trivial

end Account

end Rides

/-! ## Services -/

/-- Every transaction of the service may be committed, wherever the others take the books. -/
def Service.KeepsSeats (p : Service α) : Prop := ∀ d, p.Kept seatGuard (fun _ _ => True) d

section Rules

variable {p : Service α} {f : α → Service β} {report : α → List Event}

theorem Service.KeepsSeats.bind (hp : p.KeepsSeats) (hf : ∀ a, (f a).KeepsSeats) :
    Service.KeepsSeats (p.bind f) := fun d => (hp d).bind fun a d _ => hf a d

theorem Service.KeepsSeats.tryCatch {handler : Err → Service α} (hp : p.KeepsSeats)
    (hh : ∀ e, (handler e).KeepsSeats) : Service.KeepsSeats (p.tryCatch handler) :=
  fun d => (hp d).tryCatch (Service.lasting_true _) trivial fun e d _ => hh e d

theorem keepsSeats_ret (a : α) : Service.KeepsSeats (Program.ret a) := fun _ => trivial

theorem keepsSeats_throw (e : Err) : Service.KeepsSeats (Program.throw e : Service α) := fun _ => trivial

/-- Services that nobody can tell from none. -/
theorem keepsSeats_of_quiet (h : p.Issues (Service.CallQuiet seatGuard)) : p.KeepsSeats :=
  fun _ => Service.kept_quiet (Service.lasting_true _) trivial h

theorem keepsSeats_of_seatRows (h : p.Leaves seatFrame) : p.KeepsSeats :=
  fun _ => kept_of_seatRows (Service.lasting_true _) trivial h

/-- A transaction that may be committed where it ends. -/
theorem keepsSeats_transact {body : Ctx → Tx α}
    (h : ∀ ctx d, seatGuard.Inv d → seatGuard.Body Stmt.statement
      (seatGuard.Ends (Service.Outcome fun _ _ => True)) (body ctx) {} d) :
    Service.KeepsSeats (Program.perform (.transact body report)) :=
  fun _ => Service.kept_transact_ends fun ctx d' hd => h ctx d' hd.inv

/-- A transaction that relies on what is known by now. -/
theorem kept_ready {body : Ctx → Tx α} (h : ∀ ctx d', seatGuard.Elapse [] d d' →
      ReadyBody (body ctx) {} d') :
    Service.Kept seatGuard (fun _ _ => True) (Program.perform (.transact body report)) d :=
  Service.kept_transact (fun _ => Service.lasting_true _) h

theorem keepsSeats_ready {body : Ctx → Tx α} (h : ∀ ctx d, ReadyBody (body ctx) {} d) :
    Service.KeepsSeats (Program.perform (.transact body report)) :=
  fun _ => kept_ready fun ctx d' _ => h ctx d'

/-- A service that begins by reading, and relies on what it has read. -/
theorem keepsSeats_read {c : Stmt α} {A : α → Db → Prop} (hwrite : c.write = fun _ d => d)
    (hlast : ∀ a, seatGuard.Lasting (A a)) (hA : ∀ d, A (c.answer d) d)
    (hf : ∀ a d, A a d → (f a).Kept seatGuard (fun _ _ => True) d) :
    Service.KeepsSeats ((sql c).bind f) :=
  fun _ => (Service.kept_read hwrite hlast fun d' _ => hA d').bind hf

end Rules

/-! ### Payments -/

section Payments

variable {settings : Settings} {bookingId paymentIntent : ℕ} {intent : Intent}

theorem seatRows_paymentWrites : PaymentWritesApart seatRows := fun _ _ _ _ => rfl

theorem seatRows_deadline : DeadlineApart seatRows :=
  fun d id deadline => seatRows_modify
    (f := fun b => { b with driverDecisionDeadlineAt := deadline }) (fun _ => ⟨rfl, rfl⟩) d id

theorem seatRows_refundDate : RefundDateApart seatRows :=
  fun d id date => seatRows_modify (f := fun b => { b with refundedAt := date })
    (fun _ => ⟨rfl, rfl⟩) d id

/-- A ride that is full: the booking stops waiting, and the money goes back. -/
theorem keepsSeats_refundRideFullPayment :
    (refundRideFullPayment bookingId paymentIntent).KeepsSeats := by
  refine keepsSeats_of_quiet (Program.Issues.bind ?_ fun claimed => ?_)
  · refine (Program.issues_perform _).mpr fun ctx => (Program.issues_command _).mpr ?_
    refine (quiet_updateMany fun b => ?_).quiet
    exact seatsAlike_of_status rfl (by rintro ⟨⟩)
  split_ifs with hnone
  · trivial
  refine Service.quiet_of_leaves (F := seatFrame)
    (fun _ _ heq => (seatsUnseen_of_seatRows heq).unseen) ?_
  refine (leaves_sql (leaves_findBookingWithRide _)).bind fun found => ?_
  cases found with
  | none => trivial
  | some found =>
    refine Program.Issues.bind ?_ fun _ => Program.Issues.bind ?_ fun _ =>
      leaves_bestEffort leaves_notify
    · refine ((leaves_refundPaymentIntent (fun _ _ => rfl) _ _).bind fun _ => ?_).tryCatch fun _ =>
        leaves_bestEffort (leaves_createIssue (fun _ _ => rfl) _)
      refine (leaves_transaction fun ctx => (Program.issues_perform _).mpr fun _ d => ?_).bind
        fun _ => trivial
      exact seatRows_modify (by intros; exact ⟨rfl, rfl⟩) d _
    · refine leaves_bestEffort ((leaves_markBookingPaymentPaid seatRows_paymentWrites
        (fun _ _ _ => trivial) (fun _ _ => rfl) (fun _ _ => rfl) _ _).bind fun _ => ?_)
      exact (leaves_markBookingPaymentRefunded seatRows_paymentWrites (fun _ _ _ => trivial)
        (fun _ _ => rfl) _ _ _).bind fun _ => trivial

theorem keepsSeats_applyStripePaymentSucceededToBooking :
    (applyStripePaymentSucceededToBooking settings paymentIntent intent).KeepsSeats := by
  unfold applyStripePaymentSucceededToBooking
  split
  · exact keepsSeats_ret _
  refine Service.KeepsSeats.bind (p := Program.command .clock) (fun _ _ => trivial) fun now => ?_
  refine Service.KeepsSeats.bind (Service.KeepsSeats.tryCatch ?_ fun e => ?_) fun outcome => ?_
  · exact keepsSeats_transact fun _ _ _ => body_claimCapturedBooking
  · split_ifs
    · exact keepsSeats_ret _
    · exact keepsSeats_throw _
  cases outcome with
  | alreadyApplied =>
    exact keepsSeats_of_seatRows ((leaves_syncAcceptedOffer seatRows_paymentWrites (fun _ _ => rfl)
      (fun _ _ => rfl) (fun _ _ _ => trivial) _).bind fun _ => trivial)
  | rideFull => exact keepsSeats_refundRideFullPayment.bind fun _ => keepsSeats_ret _
  | claimed =>
    exact keepsSeats_of_seatRows ((leaves_completeClaim seatRows_paymentWrites (fun _ _ => rfl)
      (fun _ _ => rfl) (fun _ _ => rfl) (fun _ _ _ => trivial) seatRows_deadline _ _ _).bind
      fun _ => trivial)

theorem keepsSeats_failBookingAndReleaseSeats : (failBookingAndReleaseSeats bookingId).KeepsSeats :=
  (keepsSeats_ready fun _ _ => body_failUnpaidBooking).bind fun _ => keepsSeats_ret _

theorem keepsSeats_applyPaymentIntentFailed : (applyPaymentIntentFailed intent).KeepsSeats := by
  unfold applyPaymentIntentFailed
  split
  · exact keepsSeats_ret _
  refine (keepsSeats_of_seatRows (leaves_sql (leaves_findFirst _))).bind fun selected => ?_
  split_ifs with hselected
  · exact keepsSeats_ret _
  refine (keepsSeats_ready fun _ _ => body_failPendingBooking).bind fun failed => ?_
  cases failed with
  | none => exact keepsSeats_ret _
  | some failed => exact keepsSeats_of_seatRows leaves_notify

end Payments

/-! ### Bookings that end -/

section Endings

variable {settings : Settings} {bookingId passengerId driverId userId : ℕ}

/-- A transaction that ends a booking as it was found before it. -/
theorem kept_endFound {found : Booking × Ride} {statuses : BookingStatus → Bool}
    {f : Ctx → Booking → Booking} {report : Bool → List Event} (hf : ∀ ctx b, SeatsAlike b (f ctx b))
    (hfound : Found bookingId (some found) d) :
    Service.Kept seatGuard (fun _ _ => True) (Program.perform (.transact (fun ctx =>
      endBookingWhere bookingId (found.1.hold found.2.totalSeats) statuses (f ctx)) report)) d :=
  kept_ready fun ctx d' hd => body_endBookingWhere (hf ctx) (Guarded.ready_open d')
    (lasting_knows _ _ _ _ (hfound _ _ rfl) hd.step)

theorem keepsSeats_expireUnpaidBooking : (expireUnpaidBooking bookingId).KeepsSeats := by
  refine keepsSeats_read rfl (lasting_found bookingId) (found_findBookingWithRide bookingId)
    fun found d hfound => ?_
  cases found with
  | none => trivial
  | some found =>
    dsimp only
    split_ifs with hstatus
    · trivial
    refine Service.Kept.bind (kept_endFound ?_ hfound) fun expired d _ => ?_
    · exact fun _ _ => seatsAlike_of_status rfl (by rintro ⟨⟩)
    split_ifs with hexpired
    · refine keepsSeats_of_seatRows ?_ d
      refine Program.Issues.bind ?_ fun _ => Program.Issues.bind ?_ fun _ => trivial
      · unfold cancelExpiredIntent
        split
        · trivial
        · exact leaves_bestEffort (leaves_cancelPaymentIntent (fun _ _ => rfl) _)
      · exact leaves_bestEffort leaves_notify
    · trivial

theorem keepsSeats_cancelBooking : (cancelBooking passengerId bookingId).KeepsSeats := by
  refine (keepsSeats_of_seatRows (leaves_sql fun _ _ => rfl)).bind fun checkout => ?_
  split_ifs with hcheckout
  · exact keepsSeats_throw _
  refine (keepsSeats_of_seatRows (leaves_sql fun _ _ => rfl)).bind fun found => ?_
  cases found with
  | none => exact keepsSeats_throw _
  | some found =>
    refine Service.KeepsSeats.bind (p := Program.command .clock) (fun _ _ => trivial) fun now => ?_
    dsimp only
    split_ifs with hclosed
    · exact keepsSeats_throw _
    refine (keepsSeats_ready fun ctx d => body_cancelBookingTx).bind fun _ => keepsSeats_of_seatRows ?_
    refine (leaves_settleCancelledBooking (fun _ _ => rfl) seatRows_refundDate (fun _ _ => rfl)
      _ _ _).bind fun refunded => ?_
    split_ifs with hrefunded
    · exact (leaves_syncRefund seatRows_paymentWrites (fun _ _ => rfl) (fun _ _ _ => trivial)
        _ _ _).bind fun _ => leaves_notify
    · exact leaves_notify

theorem keepsSeats_withdrawBooking : (withdrawBooking settings passengerId bookingId).KeepsSeats := by
  refine keepsSeats_read rfl (lasting_found bookingId)
    (found_findRidersBooking passengerId bookingId _) fun found d hfound => ?_
  cases found with
  | none => trivial
  | some found =>
    refine Service.Kept.bind (kept_endFound ?_ hfound) fun cancelled d _ => ?_
    · exact fun _ _ => seatsAlike_of_status rfl (by rintro ⟨⟩)
    split_ifs with hcancelled
    · refine keepsSeats_of_seatRows ((leaves_settleWithdrawnBooking (fun _ _ => rfl)
        seatRows_refundDate (fun _ _ => rfl) _ _ _).bind fun refunded => ?_) d
      split_ifs with hrefunded
      · exact (leaves_syncRefund seatRows_paymentWrites (fun _ _ => rfl) (fun _ _ _ => trivial)
          _ _ _).bind fun _ => leaves_notify
      · exact leaves_notify
    · trivial

/-! ### Decisions of the driver -/

theorem keepsSeats_refuse {status : BookingStatus} {refused : String} {f : Ctx → Booking → Booking}
    {booking : Booking} {refunded : Bool} {report : Unit → List Event}
    (hf : ∀ ctx b, SeatsAlike b (f ctx b)) :
    Service.KeepsSeats ((Program.perform (.transact (fun ctx =>
      endDecidedBooking bookingId status refused (f ctx)) report)).bind fun _ =>
        completeRefusal driverId bookingId booking refunded) :=
  (keepsSeats_ready fun ctx _ => body_endDecidedBooking (hf ctx)).bind fun _ =>
    keepsSeats_of_seatRows (leaves_completeRefusal seatRows_paymentWrites (fun _ _ => rfl)
      (fun _ _ _ => trivial) _ _ _ _)

theorem keepsSeats_rejectBooking : (rejectBooking settings driverId bookingId).KeepsSeats := by
  refine (keepsSeats_of_seatRows (leaves_requireDriverBooking _ _)).bind fun found => ?_
  dsimp only
  split_ifs with hstatus
  · exact keepsSeats_throw _
  refine (keepsSeats_of_seatRows (leaves_assertDecisionWindowOpen _)).bind fun _ => ?_
  refine (keepsSeats_of_seatRows (leaves_refundDecidedBooking (fun _ _ => rfl) _ _)).bind
    fun refund => ?_
  exact keepsSeats_refuse fun _ _ => seatsAlike_of_status rfl (by rintro ⟨⟩)

theorem keepsSeats_cancelAfterAccept :
    (cancelAfterAccept settings driverId bookingId).KeepsSeats := by
  refine (keepsSeats_of_seatRows (leaves_requireDriverBooking _ _)).bind fun found => ?_
  dsimp only
  split_ifs with hstatus
  · exact keepsSeats_throw _
  refine (keepsSeats_of_seatRows (leaves_refundDecidedBooking (fun _ _ => rfl) _ _)).bind
    fun refund => ?_
  exact keepsSeats_refuse fun _ _ => seatsAlike_of_status rfl (by rintro ⟨⟩)

theorem keepsSeats_acceptBooking : (acceptBooking driverId bookingId).KeepsSeats := by
  refine (keepsSeats_of_seatRows (leaves_requireDriverBooking _ _)).bind fun found => ?_
  refine (keepsSeats_of_seatRows (leaves_sql (leaves_findUnique _))).bind fun driver => ?_
  split_ifs with hverified hstatus
  · exact keepsSeats_throw _
  · exact keepsSeats_throw _
  refine (keepsSeats_of_seatRows (leaves_assertDecisionWindowOpen _)).bind fun _ => ?_
  refine Service.KeepsSeats.bind (keepsSeats_of_quiet ?_) fun confirmed => ?_
  · refine (Program.issues_perform _).mpr fun ctx => (Program.issues_command _).mpr ?_
    refine (quiet_updateMany fun b => ?_).quiet
    exact seatsAlike_of_status rfl (by rintro ⟨⟩)
  split_ifs with hnone
  · exact keepsSeats_throw _
  · exact keepsSeats_of_seatRows (leaves_notify.bind fun _ => leaves_notify)

/-! ### Deadlines, rides, accounts -/

theorem keepsSeats_handleExtendedDeadline : (handleExtendedDeadline settings bookingId).KeepsSeats := by
  refine keepsSeats_read rfl (lasting_found bookingId) (found_findBookingWithRide bookingId)
    fun found d hfound => ?_
  cases found with
  | none => trivial
  | some found =>
    dsimp only
    split_ifs with hstatus
    · trivial
    refine Service.Kept.bind (Service.kept_transactWithStripe (fun _ => Service.lasting_true _)
      fun ctx o d' hd => body_cancelUnansweredBooking ?_) fun _ d _ =>
        keepsSeats_of_seatRows leaves_notify d
    exact lasting_knows _ _ _ _ (hfound _ _ rfl) hd.step

theorem kept_closeOverdueUnstartedRide {rideId : ℕ} {ride : Ride}
    {rideBookings : List (ℕ × Booking)} (hlisted : Listed rideBookings ride.totalSeats d) :
    (closeOverdueUnstartedRide rideId ride rideBookings).Kept seatGuard (fun _ _ => True) d := by
  intro now
  dsimp only [Program.ret_bind]
  refine Service.Kept.bind (kept_ready fun ctx d' hd => body_closeOverdueRideTx ?_) fun closed d _ => ?_
  · exact (lasting_listed _ _ _ _ hlisted hd.step).mono fun b hb => List.mem_of_mem_filter hb
  exact keepsSeats_of_seatRows (leaves_closed (fun _ _ => rfl) _ _ _) d

theorem keepsSeats_promoteOverdueRide (listed : SweptRide) (departureAt now : ℕ) :
    (promoteOverdueRide listed departureAt now).KeepsSeats := by
  unfold promoteOverdueRide
  split_ifs with hdue
  · refine Service.KeepsSeats.bind (keepsSeats_of_quiet ?_) fun _ => keepsSeats_of_seatRows ?_
    · refine (Program.issues_perform _).mpr fun ctx => (Program.issues_command _).mpr ?_
      refine (quiet_updateRides fun r => ?_).quiet
      exact ⟨rfl, rfl⟩
    · exact leaves_promoted (fun _ _ => rfl) _
  · exact keepsSeats_ret _

theorem kept_checkOverdueRide {departureAt : Option ℕ} {now : ℕ} {listed : SweptRide}
    (hlisted : Listed listed.bookings listed.ride.totalSeats d) :
    (checkOverdueRide departureAt now listed).Kept seatGuard (fun _ _ => True) d := by
  unfold checkOverdueRide
  split
  · trivial
  refine ((keepsSeats_promoteOverdueRide _ _ _ d).lasting (lasting_listed _ _) hlisted).bind
    fun _ d hd => ?_
  split_ifs with hclose
  · exact kept_closeOverdueUnstartedRide hd.2
  · exact keepsSeats_of_seatRows (leaves_alertOverdueCompletion (fun _ _ => rfl) _ _ _) d

theorem keepsSeats_runRideOverdueCheck (departures : Departures) :
    (runRideOverdueCheck departures).KeepsSeats := by
  refine Service.KeepsSeats.bind (p := Program.command .clock) (fun _ _ => trivial) fun now => ?_
  have hlast := Guarded.lasting_forall fun swept : SweptRide =>
    lasting_listed swept.bookings swept.ride.totalSeats
  refine keepsSeats_read rfl hlast ?_ fun swept d hswept => ?_
  · intro d swept hmem
    obtain ⟨⟨rideId, ride⟩, hrow, rfl⟩ := List.mem_map.mp hmem
    exact listed_of_rows (Table.mem_filter_iff.mp hrow).1 fun _ _ hP => beq_iff_eq.mp hP
  · exact Service.kept_forEach (hlast swept) hswept fun ride hmem d h =>
      kept_checkOverdueRide (h ride hmem)

theorem keepsSeats_deleteUserAccount : (deleteUserAccount userId).KeepsSeats := by
  refine (keepsSeats_of_seatRows (leaves_sql fun _ _ => rfl)).bind fun inProgress => ?_
  split_ifs with hcheckout
  · exact keepsSeats_throw _
  refine (keepsSeats_of_seatRows (leaves_sql fun _ _ => rfl)).bind fun _ => ?_
  refine (keepsSeats_of_seatRows (leaves_sql fun _ _ => rfl)).bind fun _ => ?_
  have hrides := Guarded.lasting_forall fun closed : ClosedRide =>
    lasting_listed closed.bookings closed.ride.totalSeats
  have hown := Guarded.lasting_forall fun b : (ℕ × Booking) × ℤ =>
    lasting_knows b.1.1 (b.1.2.hold b.2)
  refine keepsSeats_read rfl hrides ?_ fun activeRides d hlisted => ?_
  · intro d closed hmem
    obtain ⟨⟨rideId, ride⟩, hrow, rfl⟩ := List.mem_map.mp hmem
    have hknown : Listed (d.bookings.filter fun _ b => b.rideId == rideId &&
        b.status.closesWithAccount) ride.totalSeats d :=
      listed_of_rows (Table.mem_filter_iff.mp hrow).1 fun _ _ hP =>
        beq_iff_eq.mp (Bool.and_eq_true_iff.mp hP).1
    exact hknown
  refine Service.Kept.bind (Service.kept_forEach (hrides activeRides) hlisted
    fun closed hmem d h => ?_) fun _ d _ => ?_
  · exact Service.kept_transactWithStripe (fun _ => Service.lasting_true _) fun ctx o d' hd =>
      body_closeRide (lasting_listed _ _ _ _ (h closed hmem) hd.step)
  -- the bookings of the user's own
  refine keepsSeats_read rfl hown ?_ (fun activeBookings d hknown => ?_) d
  · intro d b hb
    obtain ⟨⟨id, booking⟩, hrow, hmap⟩ := List.mem_filterMap.mp hb
    obtain ⟨ride, hride, rfl⟩ := Option.map_eq_some_iff.mp hmap
    exact knows_of_found (findBookingWithRide_eq_some.mpr ⟨(Table.mem_filter_iff.mp hrow).1, hride⟩)
  refine Service.Kept.bind (Service.kept_forEach (hown activeBookings) hknown
    fun b hb d h => ?_) fun _ d _ => ?_
  · exact Service.kept_transactWithStripe (fun _ => Service.lasting_true _) fun ctx o d' hd =>
      body_closeBooking (Guarded.ready_open d') (lasting_knows _ _ _ _ (h b hb) hd.step)
  · refine keepsSeats_of_seatRows ((leaves_sql fun _ _ => rfl).bind fun _ => ?_) d
    exact (leaves_sqlOrThrow fun _ _ => rfl).bind fun _ => leaves_notify.bind fun _ => leaves_notify

end Endings

/-! ### Bookings that begin -/

section Creation

variable {settings : Settings} {rules : BookingRules} {overlaps : ℕ → ℕ → Db → Bool}
  {passengerId bookingId : ℕ} {input : CreateBookingInput} {requestOfferId : Option ℕ} {now : ℕ}

theorem keepsSeats_createBookingPaid :
    (createBookingPaid settings rules overlaps passengerId input requestOfferId now
      bookingId).KeepsSeats := by
  refine Service.KeepsSeats.bind (Service.KeepsSeats.tryCatch ?_ fun _ => keepsSeats_throw _)
    fun created => keepsSeats_of_seatRows (Program.Issues.bind ?_ fun _ => ?_)
  · exact keepsSeats_transact fun _ _ => body_createPaidBooking
  · refine leaves_bestEffort (Program.Issues.bind ?_ fun _ => trivial)
    exact leaves_markPaymentPaid seatRows_paymentWrites (fun _ _ _ => trivial) (fun _ _ => rfl)
      (fun _ _ => rfl) _ _
  · split_ifs with hoffer
    · trivial
    · exact leaves_bestEffort (leaves_notify.bind fun _ => leaves_notify.bind fun _ =>
        leaves_notify.bind fun _ => leaves_notify)

theorem keepsSeats_createBookingUnpaid :
    (createBookingUnpaid settings rules overlaps passengerId input requestOfferId now
      bookingId).KeepsSeats := by
  refine Service.KeepsSeats.bind (keepsSeats_of_seatRows ?_) fun plan => ?_
  · exact (leaves_resolveBookingPlan _).translate fun _ hs => leaves_sql hs
  refine Service.KeepsSeats.bind (keepsSeats_of_seatRows ?_) fun paymentIntent => ?_
  · refine Program.Issues.tryCatch ?_ fun _ => trivial
    unfold createBookingPaymentIntent
    split_ifs with hamount
    · trivial
    · exact (Program.issues_perform _).mpr ⟨fun _ _ _ _ => rfl, fun _ _ he => absurd he
        List.not_mem_nil⟩
  refine Service.KeepsSeats.bind (Service.KeepsSeats.tryCatch ?_ fun e => ?_) fun _ => ?_
  · exact keepsSeats_transact fun _ _ => body_createUnpaidBooking
  · exact keepsSeats_of_seatRows ((leaves_bestEffort
      (leaves_cancelPaymentIntent (fun _ _ => rfl) _)).bind fun _ => trivial)
  · exact keepsSeats_of_seatRows ((leaves_bestEffort leaves_notify).bind fun _ =>
      leaves_bestEffort leaves_notify)

theorem keepsSeats_replacePendingBooking : (replacePendingBooking bookingId).KeepsSeats :=
  keepsSeats_failBookingAndReleaseSeats.bind fun _ => keepsSeats_ret _

theorem keepsSeats_retrieveIfPresent (paymentIntent : ℕ) :
    (retrieveIfPresent paymentIntent).KeepsSeats := by
  refine Service.KeepsSeats.tryCatch (keepsSeats_of_seatRows ?_) fun e => ?_
  · exact (leaves_retrievePaymentIntent _).bind fun _ => trivial
  · split_ifs
    · exact keepsSeats_ret _
    · exact keepsSeats_throw _

theorem keepsSeats_resolvePendingBookingReentry (rideId : ℕ) :
    (resolvePendingBookingReentry settings passengerId rideId).KeepsSeats := by
  refine (keepsSeats_of_seatRows (leaves_sql fun _ _ => rfl)).bind fun pending => ?_
  cases pending with
  | none => exact keepsSeats_ret _
  | some pending =>
    dsimp only
    split_ifs with hpublished
    · exact keepsSeats_replacePendingBooking
    split
    · exact keepsSeats_replacePendingBooking
    refine (keepsSeats_retrieveIfPresent _).bind fun found => ?_
    cases found with
    | none => exact keepsSeats_replacePendingBooking
    | some intent =>
      dsimp only
      split_ifs with hsucceeded hresumable
      · exact keepsSeats_applyStripePaymentSucceededToBooking.bind fun _ => keepsSeats_ret _
      · exact keepsSeats_ret _
      · exact keepsSeats_replacePendingBooking

theorem leaves_getBookingById {F : Frame} : (getBookingById passengerId bookingId).Leaves F :=
  (leaves_sql (leaves_findFirst _)).bind fun _ => trivial

theorem keepsSeats_createBooking :
    (createBooking settings rules overlaps passengerId input requestOfferId).KeepsSeats := by
  refine Service.KeepsSeats.bind (keepsSeats_of_seatRows (Program.issues_ofExcept _)) fun _ => ?_
  refine Service.KeepsSeats.bind (p := Program.command .clock) (fun _ _ => trivial) fun now => ?_
  refine Service.KeepsSeats.bind (p := Program.command .randomUUID) (fun _ _ => trivial)
    fun bookingId => ?_
  split_ifs with hbypass
  · exact keepsSeats_createBookingPaid
  refine Service.KeepsSeats.bind ?_ fun reentry => Service.KeepsSeats.bind
    (keepsSeats_of_seatRows ?_) fun resumed => ?_
  · unfold pendingBookingReentry
    split_ifs with hoffer
    · exact keepsSeats_ret _
    · exact keepsSeats_resolvePendingBookingReentry _
  · cases reentry with
    | none => trivial
    | replace => trivial
    | applied id => exact leaves_getBookingById
    | resume id paymentIntent =>
      refine leaves_getBookingById.bind fun existing => ?_
      cases existing with
      | false => trivial
      | true => exact (leaves_bestEffort leaves_notify).bind fun _ => trivial
  · cases resumed with
    | false => exact keepsSeats_createBookingUnpaid
    | true => exact keepsSeats_ret _

/-! ### Payments that the rider waits for -/

theorem leaves_payableIntent {F : Frame} :
    (payableIntent settings passengerId bookingId).Leaves F := by
  refine (leaves_sql (leaves_findFirst _)).bind fun found => ?_
  cases found with
  | none => trivial
  | some found =>
    dsimp only
    split_ifs
    · trivial
    · trivial
    · trivial
    · split <;> trivial

theorem keepsSeats_verifyPaymentIntent (paymentIntent : ℕ) :
    (verifyPaymentIntent paymentIntent).KeepsSeats :=
  keepsSeats_of_seatRows ((leaves_retrievePaymentIntent _).tryCatch fun _ => trivial)

theorem keepsSeats_confirmBookingPayment :
    (confirmBookingPayment settings passengerId bookingId).KeepsSeats := by
  refine (keepsSeats_of_seatRows leaves_payableIntent).bind fun payable => ?_
  cases payable with
  | none => exact keepsSeats_ret _
  | some paymentIntent =>
    refine (keepsSeats_verifyPaymentIntent _).bind fun intent => ?_
    split_ifs with hsucceeded hcanceled
    · exact keepsSeats_applyStripePaymentSucceededToBooking.bind fun _ =>
        keepsSeats_of_seatRows (leaves_getBookingById.bind fun _ => trivial)
    · exact keepsSeats_failBookingAndReleaseSeats.bind fun _ => keepsSeats_throw _
    · exact keepsSeats_throw _

theorem keepsSeats_resumeBookingPayment :
    (resumeBookingPayment settings passengerId bookingId).KeepsSeats := by
  refine (keepsSeats_of_seatRows leaves_payableIntent).bind fun payable => ?_
  cases payable with
  | none => exact keepsSeats_ret _
  | some paymentIntent =>
    refine (keepsSeats_verifyPaymentIntent _).bind fun intent => ?_
    split_ifs with hsucceeded hresumable
    · exact keepsSeats_applyStripePaymentSucceededToBooking.bind fun _ =>
        keepsSeats_of_seatRows (leaves_getBookingById.bind fun _ => trivial)
    · refine (keepsSeats_of_seatRows leaves_getBookingById).bind fun resumable => ?_
      split_ifs
      · exact keepsSeats_of_seatRows (leaves_bestEffort leaves_notify)
      · exact keepsSeats_ret _
    · exact keepsSeats_failBookingAndReleaseSeats.bind fun _ => keepsSeats_throw _

end Creation

/-! ### Disputes -/

section Disputes

theorem keepsSeats_writeBooking {bookingId : ℕ} {f : Booking → Booking}
    (hf : ∀ b, SeatsAlike b (f b)) : (writeBooking bookingId f).KeepsSeats := by
  refine keepsSeats_of_quiet (Program.Issues.bind ?_ fun _ => trivial)
  exact (Program.issues_perform _).mpr fun _ => (Program.issues_perform _).mpr (quiet_update hf).quiet

theorem leaves_writeSettledPayment (payment : Option (ℕ × Payment)) (f : Payment → Payment) :
    (writeSettledPayment payment f).Leaves seatFrame := by
  cases payment with
  | none => trivial
  | some payment =>
    refine Program.Issues.bind ?_ fun _ => trivial
    exact (Program.issues_perform _).mpr ⟨fun ctx => (Program.issues_perform _).mpr fun _ _ => rfl,
      fun _ _ _ => trivial⟩

theorem leaves_closeDispute (disputeId now : ℕ) (status : DisputeStatus) :
    (closeDispute disputeId now status).Leaves seatFrame :=
  (leaves_sqlOrThrow fun _ _ => rfl).bind fun _ =>
    leaves_notify.bind fun _ => leaves_notify.bind fun _ => leaves_notify

theorem keepsSeats_makeRefund (view : DisputeView) (now : ℕ) (resolution : Resolution)
    (refunding : Refunding) : (makeRefund view now resolution refunding).KeepsSeats := by
  refine Service.KeepsSeats.bind ?_ fun _ => Service.KeepsSeats.bind (keepsSeats_of_seatRows ?_)
    fun refundId => ?_
  · refine Service.KeepsSeats.bind (keepsSeats_writeBooking fun b => ?_) fun _ =>
      keepsSeats_of_seatRows (leaves_writeSettledPayment _ _)
    refine seatsAlike_of_status rfl ?_
    unfold Refunding.writeOn
    split_ifs <;> rintro ⟨⟩
  · unfold refundAtStripe
    split
    · exact (leaves_refundPaymentIntent (fun _ _ => rfl) _ _).bind fun _ => trivial
    · trivial
  · refine Service.KeepsSeats.bind (keepsSeats_writeBooking fun b => ?_) fun _ => ?_
    · exact ⟨rfl, id⟩
    split
    · exact keepsSeats_of_seatRows ((LedgerApart.recordGroup (fun _ _ => rfl) _).bind fun _ =>
        leaves_writeSettledPayment _ _)
    · exact keepsSeats_ret _

theorem keepsSeats_settleRefund (view : DisputeView) (now : ℕ) (resolution : Resolution)
    (refunding : Refunding) : (settleRefund view now resolution refunding).KeepsSeats := by
  unfold settleRefund
  split_ifs with hmakes
  · exact (keepsSeats_makeRefund _ _ _ _).bind fun _ =>
      keepsSeats_of_seatRows (leaves_writeSettledPayment _ _)
  · exact keepsSeats_of_seatRows (leaves_writeSettledPayment _ _)

/-- A settlement that is not a payout, which writes the status as it has read it. -/
theorem keepsSeats_settleDispute {input : SettlementInput} (h : input.resolution ≠ .payout) :
    (settleDispute input).KeepsSeats := by
  refine Service.KeepsSeats.bind (keepsSeats_of_seatRows (leaves_transaction fun ctx => ?_))
    fun found => ?_
  · exact ((Program.issues_command _).mpr fun _ _ => rfl).bind fun _ => trivial
  obtain ⟨found, now⟩ := found
  cases found with
  | none => exact keepsSeats_throw _
  | some view =>
    dsimp only
    split_ifs with hsettleable
    · unfold settleViewed
      split
      · exact keepsSeats_of_seatRows (leaves_closeDispute _ _ _)
      · exact absurd ‹_› h
      · exact (keepsSeats_settleRefund _ _ _ _).bind fun _ =>
          keepsSeats_of_seatRows (leaves_closeDispute _ _ _)
      · exact (keepsSeats_settleRefund _ _ _ _).bind fun _ =>
          keepsSeats_of_seatRows (leaves_closeDispute _ _ _)
    · exact keepsSeats_throw _

end Disputes

/-! ## The calls -/

/-- The calls that take or give back seats, or move the status of a booking. -/
inductive CapacityOp
  | createBooking (settings : Settings) (rules : BookingRules) (overlaps : ℕ → ℕ → Db → Bool)
    (passengerId : ℕ) (input : CreateBookingInput) (requestOfferId : Option ℕ)
  | paymentSucceeded (settings : Settings) (paymentIntent : ℕ) (intent : Intent)
  | paymentFailed (intent : Intent)
  | confirmPayment (settings : Settings) (passengerId bookingId : ℕ)
  | resumePayment (settings : Settings) (passengerId bookingId : ℕ)
  | failBooking (bookingId : ℕ)
  | acceptBooking (driverId bookingId : ℕ)
  | rejectBooking (settings : Settings) (driverId bookingId : ℕ)
  | cancelAfterAccept (settings : Settings) (driverId bookingId : ℕ)
  | cancelBooking (passengerId bookingId : ℕ)
  | withdrawBooking (settings : Settings) (passengerId bookingId : ℕ)
  | expireUnpaidBooking (bookingId : ℕ)
  | handleExtendedDeadline (settings : Settings) (bookingId : ℕ)
  | runRideOverdueCheck (departures : Departures)
  | deleteUserAccount (userId : ℕ)
  | settleDispute (input : SettlementInput) (hresolution : input.resolution ≠ .payout)

def CapacityOp.program : CapacityOp → Service Unit
  | .createBooking settings rules overlaps passengerId input requestOfferId =>
    Deliivo.createBooking settings rules overlaps passengerId input requestOfferId
  | .paymentSucceeded settings paymentIntent intent => do
    let _ ← applyStripePaymentSucceededToBooking settings paymentIntent intent
  | .paymentFailed intent => applyPaymentIntentFailed intent
  | .confirmPayment settings passengerId bookingId =>
    confirmBookingPayment settings passengerId bookingId
  | .resumePayment settings passengerId bookingId =>
    resumeBookingPayment settings passengerId bookingId
  | .failBooking bookingId => failBookingAndReleaseSeats bookingId
  | .acceptBooking driverId bookingId => Deliivo.acceptBooking driverId bookingId
  | .rejectBooking settings driverId bookingId => Deliivo.rejectBooking settings driverId bookingId
  | .cancelAfterAccept settings driverId bookingId =>
    Deliivo.cancelAfterAccept settings driverId bookingId
  | .cancelBooking passengerId bookingId => Deliivo.cancelBooking passengerId bookingId
  | .withdrawBooking settings passengerId bookingId =>
    Deliivo.withdrawBooking settings passengerId bookingId
  | .expireUnpaidBooking bookingId => do
    let _ ← Deliivo.expireUnpaidBooking bookingId
  | .handleExtendedDeadline settings bookingId =>
    Deliivo.handleExtendedDeadline settings bookingId
  | .runRideOverdueCheck departures => Deliivo.runRideOverdueCheck departures
  | .deleteUserAccount userId => Deliivo.deleteUserAccount userId
  | .settleDispute input _ => Deliivo.settleDispute input

/-- The calls, next to each other on one server. -/
abbrev capacityPool := sessionPool CapacityOp.program

/-- **Every call keeps the books**, wherever it is stopped and whatever the others commit. -/
theorem keepsSeats_program (op : CapacityOp) : op.program.KeepsSeats := by
  cases op with
  | createBooking settings rules overlaps passengerId input requestOfferId =>
    exact keepsSeats_createBooking
  | paymentSucceeded settings paymentIntent intent =>
    exact keepsSeats_applyStripePaymentSucceededToBooking.bind fun _ => keepsSeats_ret _
  | paymentFailed intent => exact keepsSeats_applyPaymentIntentFailed
  | confirmPayment settings passengerId bookingId => exact keepsSeats_confirmBookingPayment
  | resumePayment settings passengerId bookingId => exact keepsSeats_resumeBookingPayment
  | failBooking bookingId => exact keepsSeats_failBookingAndReleaseSeats
  | acceptBooking driverId bookingId => exact keepsSeats_acceptBooking
  | rejectBooking settings driverId bookingId => exact keepsSeats_rejectBooking
  | cancelAfterAccept settings driverId bookingId => exact keepsSeats_cancelAfterAccept
  | cancelBooking passengerId bookingId => exact keepsSeats_cancelBooking
  | withdrawBooking settings passengerId bookingId => exact keepsSeats_withdrawBooking
  | expireUnpaidBooking bookingId => exact keepsSeats_expireUnpaidBooking.bind fun _ => keepsSeats_ret _
  | handleExtendedDeadline settings bookingId => exact keepsSeats_handleExtendedDeadline
  | runRideOverdueCheck departures => exact keepsSeats_runRideOverdueCheck departures
  | deleteUserAccount userId => exact keepsSeats_deleteUserAccount
  | settleDispute input hresolution => exact keepsSeats_settleDispute hresolution

/-! ## Whole runs -/

/-- Where nobody holds seats yet, and all of them are left, the books are balanced. -/
theorem seatsKept_of_unheld (hbookings : d.bookings.Every fun _ b =>
      b.seatsReservedAt = none ∧ 0 ≤ b.seatsBooked)
    (hrides : d.rides.Every fun _ r => 0 ≤ r.totalSeats ∧ r.availableSeats = r.totalSeats)
    (hedges : d.segments.Every fun _ s => s.occupiedSeats = 0) : d.SeatsKept := by
  have hnone : ∀ rideId, (d.rideSeats rideId).holders = [] := by
    intro rideId
    refine List.eq_nil_iff_forall_not_mem.mpr fun ⟨id, held⟩ hmem => ?_
    obtain ⟨b, hb, -, hheld, -⟩ := mem_holders.mp hmem
    rw [(hbookings id b hb).1] at hheld
    cases hheld
  refine ⟨fun rideId => ⟨?_, ?_, ?_⟩, fun id c hc => ?_, fun id c hc _ => ?_⟩
  · rw [hnone]
    exact fun _ hmem => absurd hmem List.not_mem_nil
  · intro total available hcapacity
    obtain ⟨ride, hride, heq⟩ := Option.map_eq_some_iff.mp hcapacity
    obtain ⟨rfl, rfl⟩ := Prod.mk.injEq .. ▸ heq
    obtain ⟨htotal, hleft⟩ := hrides rideId ride hride
    rw [RideSeats.taken, hnone, List.tally_nil, sub_zero]
    exact ⟨htotal, hleft⟩
  · intro e he
    obtain ⟨s, hs, hof⟩ := Table.mem_select.mp he
    obtain rfl : s = e.2 := by
      unfold Segment.ofRide at hof
      split_ifs at hof
      exact Option.some.inj hof
    rw [RideSeats.takenOn, hnone, List.tally_nil]
    exact hedges _ _ hs
  · obtain ⟨b, hb, rfl⟩ := Table.viewed_eq_some.mp hc
    exact (hbookings id b hb).2
  · obtain ⟨b, hb, rfl⟩ := Table.viewed_eq_some.mp hc
    exact Option.isSome_eq_false_iff.mpr (Option.isNone_iff_eq_none.mpr (hbookings id b hb).1)

/-- **The books of every ride are balanced** whenever something is committed: the transactions run
statement by statement next to each other, some are given up or hang, and whatever else becomes of the
database leaves the seats alone. -/
theorem seats_balanced {d : Db} (hd : d.SeatsKept)
    {moves : List (Move (CapacityOp × (ℕ → Outside)) Bool (Db → Db))}
    (hmoves : ∀ f, .disturb f ∈ moves → ∀ d, seatGuard.Unseen d (f d)) :
    History.Always (Pool.step capacityPool)
      (fun p => ∀ rideId, (p.now.state.committed.rideSeats rideId).Balanced) (serverStart d) moves :=
  (kept_always (fun op d _ => keepsSeats_program op d) hd hmoves).imp fun _ h => h.balanced

section LastSeat

/-- Two riders who are about to pay for the last seat. -/
private def lastSeat : Db where
  rides := .single 1 {
    driverId := 9, totalSeats := 1, availableSeats := 1, status := .published, departureAt := 100 }
  segments := .single 4 { rideId := 1, fromPosition := 0, toPosition := 1, occupiedSeats := 0 }
  bookings := (Table.single 7 {
      rideId := 1, passengerId := 2, seatsBooked := 1, totalPrice := 1020, status := .paymentPending,
      pickupPosition := some 0, dropoffPosition := some 1 }).insert 8 {
    rideId := 1, passengerId := 3, seatsBooked := 1, totalPrice := 1020, status := .paymentPending,
    pickupPosition := some 0, dropoffPosition := some 1 }

/-- Both payments are applied, one statement of each at a time. -/
private def bothPay : List (Move (CapacityOp × (ℕ → Outside)) Bool (Db → Db)) :=
  .start (.paymentSucceeded {} 70 { bookingId := some 7, amount := 1020 }, fun _ => {}) ::
    .start (.paymentSucceeded {} 80 { bookingId := some 8, amount := 1020 }, fun _ => {}) ::
    (List.replicate 12 [.step 0 true, .step 1 true]).flatten

/-- The last seat is taken once. -/
theorem last_seat_taken_once : History.Always (Pool.step capacityPool)
    (fun p => ∀ rideId, (p.now.state.committed.rideSeats rideId).Balanced) (serverStart lastSeat)
    bothPay := by
  refine seats_balanced (seatsKept_of_unheld (Table.Every.insert ?_ ⟨rfl, by decide⟩) ?_ ?_)
    fun f hf => ?_
  · intro id b hb
    obtain ⟨-, rfl⟩ := Prod.mk.injEq .. ▸ List.mem_singleton.mp (Table.mem_rows_iff.mpr hb)
    exact ⟨rfl, by decide⟩
  · intro id r hr
    obtain ⟨-, rfl⟩ := Prod.mk.injEq .. ▸ List.mem_singleton.mp (Table.mem_rows_iff.mpr hr)
    exact ⟨by decide, rfl⟩
  · intro id s hs
    obtain ⟨-, rfl⟩ := Prod.mk.injEq .. ▸ List.mem_singleton.mp (Table.mem_rows_iff.mpr hs)
    rfl
  · simp [bothPay] at hf

end LastSeat

end Deliivo

import Deliivo.Account.Deletion
import Deliivo.Booking.Frame
import Deliivo.Domain.Pool
import Deliivo.Domain.Preserves
import Deliivo.Store.RowView

/-!
# What is left of a deleted account

What the deletion does is the list of what it closes: of every ride and of every booking on the list
it writes the status, and for every booking that can be refunded there is one refund at Stripe. The
list is read off the rows that the call finds, by the statuses it looks for. Nothing live is left of
the account if and only if every live row that it has is in one of these statuses, and every captured
booking that is closed says how it is refunded.

## Main definitions

* `Closure`, `Closing`: what is closed, and what closing it makes of the rows and of Stripe
* `AccountClosed`: nothing live is left, and what was captured has been refunded once
* `DeletionCovers`: the rows that the call finds are all that is live

## Main results

* `closing_deleteUserAccount`: the list of what the call has closed
* `account_deletion_covers`: nothing live is left exactly if the statuses cover the rows
* `account_deletion_leaves_ride`: a ride that is ready to start stays
-/

namespace Deliivo

/-! ## What is live -/

/-- The statuses of a ride that is offered or under way. -/
def RideStatus.isLive : RideStatus → Bool
  | .published | .scheduled | .readyToStart | .inProgress | .completionPending => true
  | _ => false

/-- The statuses of a booking that is waiting for its trip or on it. -/
def BookingStatus.isLive : BookingStatus → Bool
  | .driverPending | .confirmed | .waitingForPickup | .driverArrived | .otpPending | .inProgress
  | .onboard | .dropPending => true
  | _ => false

/-- Of the intent of a booking one refund was requested, of all that was paid. -/
def Booking.RefundedOnce (booking : Booking) (s s' : Stripe) : Prop :=
  ∃ paymentIntent amount, booking.stripePaymentIntentId = some paymentIntent ∧
    booking.paymentAmount = some amount ∧
    (s.refundsSince s').filter (·.paymentIntent == paymentIntent) =
      [⟨paymentIntent, amount, false⟩]

/-- Nothing live is left of the account of a user whose deletion has led from `w` to `w'`. -/
structure AccountClosed (userId : ℕ) (w w' : World) : Prop where
  rides : ∀ id r, w'.db.rides.get? id = some r → r.driverId = userId → r.status.isLive = false
  ownBookings : ∀ id b, w'.db.bookings.get? id = some b → b.passengerId = userId →
    b.status.isLive = false
  bookingsOnRides : ∀ rideId r r', w.db.rides.get? rideId = some r → r.status ≠ .cancelled →
    w'.db.rides.get? rideId = some r' → r'.status = .cancelled →
    ∀ id b, w'.db.bookings.get? id = some b → b.rideId = rideId → b.status.isLive = false
  refunds : ∀ id b b', w.db.bookings.get? id = some b → b.status ≠ .cancelled →
    w'.db.bookings.get? id = some b' → b'.status = .cancelled → b.paymentCapturedAt.isSome = true →
    b.RefundedOnce w.stripe w'.stripe

/-! ## What the call finds -/

/-- A ride that the call finds. -/
def Ride.ClosesWith (userId : ℕ) (ride : Ride) : Prop :=
  ride.driverId = userId ∧ ride.status.closesWithAccount = true

/-- A booking that is the user's own, or on a ride that the call finds. -/
def Booking.BelongsTo (userId : ℕ) (d : Db) (booking : Booking) : Prop :=
  booking.passengerId = userId ∨
    ∃ ride, d.rides.get? booking.rideId = some ride ∧ ride.ClosesWith userId

/-- The statuses that the call looks for are those of all that is live of the account, and every
captured booking in one of them says how it is refunded. -/
structure DeletionCovers (userId : ℕ) (d : Db) : Prop where
  rides : ∀ id r, d.rides.get? id = some r → r.driverId = userId → r.status.isLive = true →
    r.status.closesWithAccount = true
  bookings : ∀ id b, d.bookings.get? id = some b → b.BelongsTo userId d → b.status.isLive = true →
    b.status.closesWithAccount = true
  refundable : ∀ id b, d.bookings.get? id = some b → b.BelongsTo userId d →
    b.status.closesWithAccount = true → b.paymentCapturedAt.isSome = true →
    b.refundable.isSome = true

/-! ## What closing does -/

/-- What the call closes: a ride, or a booking as it was listed. -/
inductive Closure
  | ride (id : ℕ)
  | booking (listed : ℕ × Booking)

def Closure.ride? : Closure → Option ℕ
  | ride id => some id
  | booking _ => none

def Closure.booking? : Closure → Option ℕ
  | ride _ => none
  | booking listed => some listed.1

/-- The refund that goes with it. -/
def Closure.refund? : Closure → Option StripeRefund
  | ride _ => none
  | booking listed => listed.2.refundable.map fun r => ⟨r.1, r.2, false⟩

/-- What the deletion has to do with of a ride. -/
def Ride.driven (ride : Ride) : ℕ × RideStatus := (ride.driverId, ride.status)

/-- What the deletion has to do with of a booking. -/
structure HeldBooking where
  rideId : ℕ
  passengerId : ℕ
  status : BookingStatus
  stripePaymentIntentId : Option ℕ
  paymentAmount : Option ℤ
  paymentCapturedAt : Option ℕ

def Booking.asHeld (booking : Booking) : HeldBooking where
  rideId := booking.rideId
  passengerId := booking.passengerId
  status := booking.status
  stripePaymentIntentId := booking.stripePaymentIntentId
  paymentAmount := booking.paymentAmount
  paymentCapturedAt := booking.paymentCapturedAt

/-- What closing the members of a list makes of the rows and of Stripe. -/
structure Closing (d : Db) (s : Stripe) (d' : Db) (s' : Stripe) (closed : List Closure) : Prop where
  rides : ∀ id, d'.rides.viewed Ride.driven id = (d.rides.viewed Ride.driven id).map fun v =>
    if id ∈ closed.filterMap Closure.ride? then (v.1, .cancelled) else v
  bookings : ∀ id, d'.bookings.viewed Booking.asHeld id =
    (d.bookings.viewed Booking.asHeld id).map fun v =>
      if id ∈ closed.filterMap Closure.booking? then { v with status := .cancelled } else v
  refunds : s'.refunds.rows.map Prod.snd =
    s.refunds.rows.map Prod.snd ++ closed.filterMap Closure.refund?

section Closing

variable {d d' d'' : Db} {s s' s'' : Stripe} {l l' : List Closure}

/-- What leaves these columns and Stripe alone closes nothing. -/
theorem Closing.of_same (hrides : d'.rides.viewed Ride.driven = d.rides.viewed Ride.driven)
    (hbookings : d'.bookings.viewed Booking.asHeld = d.bookings.viewed Booking.asHeld) :
    Closing d s d' s [] where
  rides id := by simp [hrides]
  bookings id := by simp [hbookings]
  refunds := by simp

theorem Closing.refl (d : Db) (s : Stripe) : Closing d s d s [] := .of_same rfl rfl

/-- One list after the other. -/
theorem Closing.append (h : Closing d s d' s' l) (h' : Closing d' s' d'' s'' l') :
    Closing d s d'' s'' (l ++ l') where
  rides := by
    intro id
    rw [h'.rides id, h.rides id, Option.map_map]
    refine Option.map_congr fun v _ => ?_
    simp only [Function.comp_apply, List.filterMap_append, List.mem_append]
    by_cases hl : id ∈ l.filterMap Closure.ride? <;>
      by_cases hl' : id ∈ l'.filterMap Closure.ride? <;> simp [hl, hl']
  bookings := by
    intro id
    rw [h'.bookings id, h.bookings id, Option.map_map]
    refine Option.map_congr fun v _ => ?_
    simp only [Function.comp_apply, List.filterMap_append, List.mem_append]
    by_cases hl : id ∈ l.filterMap Closure.booking? <;>
      by_cases hl' : id ∈ l'.filterMap Closure.booking? <;> simp [hl, hl']
  refunds := by
    rw [h'.refunds, h.refunds, List.filterMap_append, List.append_assoc]

/-- The refunds of what is closed are those that Stripe was asked for. -/
theorem Closing.refundsSince (h : Closing d s d' s' l) :
    s.refundsSince s' = l.filterMap Closure.refund? := by
  have hlength : s.refunds.rows.length = (s.refunds.rows.map Prod.snd).length :=
    (List.length_map _).symm
  rw [Stripe.refundsSince, List.map_drop, h.refunds, hlength, List.drop_left]

/-- The members of a loop of a transaction, one after the other. -/
theorem closing_forEach {γ : Type} {f : γ → StripeTx Unit} {g : γ → List Closure} {xs : List γ}
    (hf : ∀ x d s d' s' u, (f x).atomic d s = (.ok (u, d'), s') → Closing d s d' s' (g x)) {u : Unit}
    (hrun : StripeTx.atomic (Program.forEach xs f) d s = (.ok (u, d'), s')) :
    Closing d s d' s' (xs.flatMap g) := by
  induction xs generalizing d s with
  | nil =>
    obtain ⟨hok, rfl⟩ := Prod.mk.injEq .. ▸ hrun
    obtain ⟨-, rfl⟩ := Prod.mk.injEq .. ▸ Except.ok.inj hok
    exact Closing.refl _ _
  | cons x xs ih =>
    obtain ⟨u₁, d₁, s₁, hx, hrest⟩ := StripeTx.atomic_bind.mp hrun
    exact (hf x _ _ _ _ _ hx).append (ih hrest)

end Closing

/-! ## The transactions -/

section Transactions

variable {d d' : Db} {s s' : Stripe} {u : Unit}

/-- What the deletion has to do with of the database. -/
def Db.onAccount (d : Db) : (ℕ → Option (ℕ × RideStatus)) × (ℕ → Option HeldBooking) :=
  (d.rides.viewed Ride.driven, d.bookings.viewed Booking.asHeld)

/-- Giving seats back writes none of the columns. -/
theorem leaves_releaseBookingSeats_onAccount (bookingId : ℕ) (hold : SeatHold) :
    (releaseBookingSeats bookingId hold).Leaves Db.onAccount := by
  refine ((Program.issues_command _).mpr fun seen d => ?_).bind fun claimed => ?_
  · refine congrArg (Prod.mk _) (Table.viewed_modifyWhere_of_same ?_ _)
    exact fun _ => rfl
  · split_ifs
    · trivial
    · refine (leaves_releaseSegmentSeats (fun _ _ => rfl) (fun d id seats => ?_) _).bind
        fun _ => trivial
      refine congrArg (Prod.mk · _) (Table.viewed_modify_of_same ?_ _)
      exact fun _ => rfl

/-- Ending a booking writes its status. -/
theorem closing_endBooking {listed : ℕ × Booking} {hold : SeatHold} {now : ℕ}
    (hrun : (endBooking listed.1 hold (listed.2.closed now)).atomic d = .ok (u, d')) :
    d'.rides.viewed Ride.driven = d.rides.viewed Ride.driven ∧
      ∀ id, d'.bookings.viewed Booking.asHeld id = (d.bookings.viewed Booking.asHeld id).map fun v =>
        if id = listed.1 then { v with status := .cancelled } else v := by
  obtain ⟨b, d₁, hupdate, hrest⟩ := Tx.atomic_bind.mp hrun
  obtain ⟨released, d₂, hrelease, hret⟩ := Tx.atomic_bind.mp hrest
  obtain ⟨-, rfl⟩ := Prod.mk.injEq .. ▸ Except.ok.inj hret
  obtain ⟨row, -, -, rfl⟩ := Service.atomic_update hupdate
  have hsame := (leaves_releaseBookingSeats_onAccount listed.1 hold).atomic hrelease
  obtain ⟨hrides, hbookings⟩ := Prod.mk.injEq .. ▸ hsame
  refine ⟨hrides, fun id => ?_⟩
  rw [hbookings]
  refine (Table.viewed_modify _ _).trans ?_
  split_ifs with hid
  · subst hid
    simp only [Table.viewed, bookings, Option.map_map]
    rfl
  · exact Option.map_id'.symm

/-- A refund that Stripe accepts is of a positive amount. -/
theorem of_txRefund {paymentIntent : ℕ} {amount : ℤ} {refundId : ℕ}
    (hrun : (txRefund paymentIntent (toMinorCurrencyUnits amount)).atomic d s =
      (.ok (refundId, d'), s')) :
    d' = d ∧ s'.refunds.rows.map Prod.snd =
      s.refunds.rows.map Prod.snd ++ [⟨paymentIntent, amount, false⟩] := by
  simp only [txRefund, Program.perform, StripeTx.atomic, Stripe.createRefund] at hrun
  by_cases haccepts : s.acceptsRefund paymentIntent (toMinorCurrencyUnits amount) = true
  · rw [if_pos haccepts] at hrun
    obtain ⟨hok, rfl⟩ := Prod.mk.injEq .. ▸ hrun
    obtain ⟨-, rfl⟩ := Prod.mk.injEq .. ▸ Except.ok.inj hok
    have hpos := acceptsRefund_pos haccepts
    have hamount : toMinorCurrencyUnits amount = amount := by
      unfold toMinorCurrencyUnits at hpos ⊢
      omega
    refine ⟨rfl, ?_⟩
    rw [hamount]
    simp [Stripe.withRefund]
  · rw [if_neg haccepts] at hrun
    simp [StripeTx.atomic] at hrun

/-- Refunding a booking writes none of the columns, and adds its refund. -/
theorem closing_refundClosed {ctx : Ctx} {listed : ℕ × Booking}
    (hrun : (refundClosed ctx listed).atomic d s = (.ok (u, d'), s')) :
    d'.rides = d.rides ∧ d'.bookings.viewed Booking.asHeld = d.bookings.viewed Booking.asHeld ∧
      s'.refunds.rows.map Prod.snd =
        s.refunds.rows.map Prod.snd ++ [Closure.booking listed].filterMap Closure.refund? := by
  unfold refundClosed at hrun
  cases hrefundable : listed.2.refundable with
  | none =>
    rw [hrefundable] at hrun
    obtain ⟨hok, rfl⟩ := Prod.mk.injEq .. ▸ hrun
    obtain ⟨-, rfl⟩ := Prod.mk.injEq .. ▸ Except.ok.inj hok
    exact ⟨rfl, rfl, by simp [Closure.refund?, hrefundable]⟩
  | some r =>
    obtain ⟨paymentIntent, amount⟩ := r
    rw [hrefundable] at hrun
    obtain ⟨refundId, d₁, s₁, hrefund, hwrite⟩ := StripeTx.atomic_bind.mp hrun
    obtain ⟨rfl, hrefunds⟩ := of_txRefund hrefund
    obtain ⟨-, rfl, rfl⟩ := txWriteBooking_ok hwrite
    refine ⟨rfl, ?_, ?_⟩
    · refine Table.viewed_modify_of_same ?_ _
      exact fun _ => rfl
    · simpa [Closure.refund?, hrefundable] using hrefunds

theorem closing_closeBooking {ctx : Ctx} {listed : ℕ × Booking} {totalSeats : ℤ}
    (hrun : (closeBooking ctx listed totalSeats).atomic d s = (.ok (u, d'), s')) :
    Closing d s d' s' [.booking listed] := by
  obtain ⟨u₁, d₁, s₁, hend, hrefund⟩ := StripeTx.atomic_bind.mp hrun
  rw [Tx.atomic_lift] at hend
  obtain ⟨hended, rfl⟩ := Prod.mk.injEq .. ▸ hend
  obtain ⟨hrides, hbookings⟩ := closing_endBooking hended
  obtain ⟨hrides', hbookings', hrefunds⟩ := closing_refundClosed hrefund
  constructor
  · intro id
    rw [hrides', hrides]
    simp [Closure.ride?]
  · intro id
    rw [hbookings', hbookings id]
    simp [Closure.booking?]
  · exact hrefunds

theorem closing_cancelRide {rideId : ℕ} {r : Ride}
    (hrun : (txSqlOrThrow (update rides rideId fun r => { r with status := .cancelled })).atomic d s =
      (.ok (r, d'), s')) : Closing d s d' s' [.ride rideId] := by
  simp only [txSqlOrThrow, Program.perform, StripeTx.atomic, update] at hrun
  cases hrow : (Deliivo.rides.get d).get? rideId with
  | none => simp [hrow, StripeTx.atomic] at hrun
  | some ride =>
    simp only [hrow, Option.elim_some, Program.ofExcept_ok, StripeTx.atomic] at hrun
    obtain ⟨hok, rfl⟩ := Prod.mk.injEq .. ▸ hrun
    obtain ⟨-, rfl⟩ := Prod.mk.injEq .. ▸ Except.ok.inj hok
    constructor
    · intro id
      refine (Table.viewed_modify _ _).trans ?_
      by_cases hid : id = rideId
      · subst hid
        rw [if_pos rfl]
        simp [Table.viewed, Closure.ride?, rides, Function.comp_def, Ride.driven]
      · rw [if_neg hid]
        simp [Closure.ride?, hid, rides]
    · intro id
      simp [Closure.booking?, rides]
    · simp [Closure.refund?]

/-- What the transaction of a ride closes. -/
def ClosedRide.closures (closed : ClosedRide) : List Closure :=
  .ride closed.rideId :: closed.bookings.map .booking

theorem closing_closeRide {ctx : Ctx} {closed : ClosedRide}
    (hrun : (closeRide closed ctx).atomic d s = (.ok (u, d'), s')) :
    Closing d s d' s' closed.closures := by
  obtain ⟨r, d₁, s₁, hupdate, hrest⟩ := StripeTx.atomic_bind.mp hrun
  have hride : Closing d s d₁ s₁ [.ride closed.rideId] := closing_cancelRide hupdate
  have hbookings := closing_forEach (g := fun listed => [.booking listed])
    (fun x d s d' s' u h => closing_closeBooking h) hrest
  rw [← List.map_eq_flatMap] at hbookings
  exact hride.append hbookings

end Transactions

/-! ## The call -/

/-- Between two worlds the members of a list were closed. -/
def ClosesTo (w w' : World) (closed : List Closure) : Prop :=
  Closing w.db w.stripe w'.db w'.stripe closed

theorem ClosesTo.append {w w' w'' : World} {l l' : List Closure} (h : ClosesTo w w' l)
    (h' : ClosesTo w' w'' l') : ClosesTo w w'' (l ++ l') := Closing.append h h'

/-- A transaction that closes the members of a list, if it returns. -/
theorem wp_closing {body : Ctx → StripeTx Unit} {report : Unit → List Event} {l : List Closure}
    (h : ∀ ctx d s d' s' u, (body ctx).atomic d s = (.ok (u, d'), s') → Closing d s d' s' l)
    (w : World) :
    (Program.perform (.transactWithStripe body report) : Service Unit).Wp world
      (fun r w' => r = .ok () → ClosesTo w w' l) w := by
  intro i
  rcases exec_transactWithStripe body report i w with ⟨b, d, s, hbody, hexec⟩ | ⟨e, s, hexec⟩
  · simp only [world, hexec]
    exact fun _ => h _ _ _ _ _ b hbody
  · simp only [world, hexec]
    intro hok
    cases hok

/-- A step that leaves the columns and Stripe alone. -/
theorem wp_sql_onAccount {β : Type} {s : Stmt β} (h : ∀ d, (s.write d d).onAccount = d.onAccount)
    {Q : Except Err β → World → Prop} {w : World}
    (hok : ∀ d, d.onAccount = w.db.onAccount → Q (.ok (s.answer w.db)) { w with db := d })
    (herr : ∀ e, Q (.error e) w) : (sql s).Wp world Q w := by
  refine Service.wp_transact (fun b d hbody => ?_) herr
  obtain ⟨rfl, rfl⟩ := Prod.mk.injEq .. ▸ Except.ok.inj hbody
  exact hok _ (h _)

/-- Nothing is closed between two worlds that differ elsewhere. -/
theorem closesTo_nil {w : World} {d : Db} (h : d.onAccount = w.db.onAccount) :
    ClosesTo w { w with db := d } [] := by
  obtain ⟨hrides, hbookings⟩ := Prod.mk.injEq .. ▸ h
  exact Closing.of_same hrides hbookings

/-- The loop over the rides. -/
theorem wp_closeRides (activeRides : List ClosedRide) (w : World) :
    (Program.forEach activeRides fun closed => Program.perform
        (.transactWithStripe (closeRide closed) fun _ => reportClosed closed.bookings) :
      Service Unit).Wp world
      (fun r w' => r = .ok () → ClosesTo w w' (activeRides.flatMap ClosedRide.closures)) w := by
  refine Program.wp_forEach_flatMap (fun w => Closing.refl w.db w.stripe) ClosesTo.append ?_ w
  intro closed _ w
  exact wp_closing (fun _ _ _ _ _ _ h => closing_closeRide h) w

/-- The loop over the bookings of the user's own. -/
theorem wp_closeBookings (activeBookings : List ((ℕ × Booking) × ℤ)) (w : World) :
    (Program.forEach activeBookings fun booking => Program.perform
        (.transactWithStripe (fun ctx => closeBooking ctx booking.1 booking.2)
          fun _ => reportClosed [booking.1]) : Service Unit).Wp world
      (fun r w' => r = .ok () →
        ClosesTo w w' (activeBookings.flatMap fun booking => [.booking booking.1])) w := by
  refine Program.wp_forEach_flatMap (fun w => Closing.refl w.db w.stripe) ClosesTo.append ?_ w
  intro booking _ w
  exact wp_closing (fun _ _ _ _ _ _ h => closing_closeBooking h) w

/-- What follows once the bookings are closed closes nothing more. -/
theorem wp_anonymise (userId : ℕ) (w : World) :
    Program.Wp world (fun r w' => r = .ok () → ClosesTo w w' [])
      (do
        revokeRefreshTokens userId
        let _ ← sqlOrThrow (update users userId fun u => { u with stripeAccountId := none })
        clearCaches) w := by
  refine Program.Wp.bind (wp_sql_onAccount (fun _ => rfl) (fun d hd => ?_) fun e => nofun)
  refine Program.Wp.bind (Service.wp_transact (fun user d' hbody => ?_) fun e => nofun)
  obtain ⟨-, -, -, rfl⟩ := Service.atomic_update hbody
  refine Program.Wp.bind (wp_sql_onAccount (fun _ => rfl) (fun d₂ hd₂ => ?_) fun e => nofun)
  refine wp_sql_onAccount (fun _ => rfl) (fun d₃ hd₃ => ?_) fun e => nofun
  intro _
  exact closesTo_nil (hd₃.trans (hd₂.trans hd))

/-- What the call closes: the rides that it finds with the bookings on them, and the bookings of the
user's own that it finds then. -/
theorem closing_deleteUserAccount (userId : ℕ) (w : World) :
    (deleteUserAccount userId).Wp world (fun r w' => r = .ok () →
      ∃ d₁ w₂, d₁.onAccount = w.db.onAccount ∧
        ClosesTo w w₂ (((findActiveRides userId).answer d₁).flatMap ClosedRide.closures) ∧
        ClosesTo w₂ w' (((findActiveBookings userId).answer w₂.db).flatMap fun booking =>
          [.booking booking.1])) w := by
  refine Program.Wp.bind (wp_sql_onAccount (fun _ => rfl) (fun d hd => ?_) fun e => nofun)
  dsimp only
  split_ifs with hbusy
  · exact nofun
  refine Program.Wp.bind (wp_sql_onAccount (fun _ => rfl) (fun d₀ hd₀ => ?_) fun e => nofun)
  refine Program.Wp.bind (wp_sql_onAccount (fun _ => rfl) (fun d₁ hd₁ => ?_) fun e => nofun)
  refine Program.Wp.bind (wp_sql_onAccount (fun _ => rfl) (fun d₂ hd₂ => ?_) fun e => nofun)
  have hsame : d₂.onAccount = w.db.onAccount := hd₂.trans (hd₁.trans (hd₀.trans hd))
  refine Program.Wp.bind ((wp_closeRides _ _).mono ?_)
  rintro (e | u) w₂ hrides
  · exact nofun
  refine Program.Wp.bind (wp_sql_onAccount (fun _ => rfl) (fun d₃ hd₃ => ?_) fun e => nofun)
  refine Program.Wp.bind ((wp_closeBookings _ _).mono ?_)
  rintro (e | u) w₃ hbookings
  · exact nofun
  refine (wp_anonymise userId w₃).mono fun r w' hrest hok => ?_
  refine ⟨d₁, w₂, hd₁.trans (hd₀.trans hd), (closesTo_nil hsame).append (hrides rfl), ?_⟩
  have h := ((closesTo_nil hd₃).append (hbookings rfl)).append (hrest hok)
  rwa [List.nil_append, List.append_nil] at h

/-! ## What the call finds, as it is listed -/

/-- The call finds the ride. -/
def RideFound (userId : ℕ) (d : Db) (id : ℕ) : Prop :=
  ∃ v, d.rides.viewed Ride.driven id = some v ∧ v.1 = userId ∧ v.2.closesWithAccount = true

/-- The call finds the booking. -/
def BookingFound (userId : ℕ) (d : Db) (id : ℕ) : Prop :=
  ∃ v, d.bookings.viewed Booking.asHeld id = some v ∧ v.status.closesWithAccount = true ∧
    (v.passengerId = userId ∨ RideFound userId d v.rideId)

section Found

variable {userId : ℕ} {d : Db}

theorem rideFound_iff {id : ℕ} {r : Ride} (hrow : d.rides.get? id = some r) :
    RideFound userId d id ↔ r.ClosesWith userId := by
  rw [RideFound, Table.viewed_of_get? hrow]
  simp [Ride.driven, Ride.ClosesWith]

theorem rideFound_congr {d' : Db} (h : d'.onAccount = d.onAccount) (id : ℕ) :
    RideFound userId d' id ↔ RideFound userId d id := by
  obtain ⟨hrides, -⟩ := Prod.mk.injEq .. ▸ h
  rw [RideFound, RideFound, hrides]

/-- The rides on the list. -/
theorem mem_ridesClosed {id : ℕ} :
    id ∈ (((findActiveRides userId).answer d).flatMap ClosedRide.closures).filterMap Closure.ride? ↔
      RideFound userId d id := by
  constructor
  · intro h
    obtain ⟨x, hx, hid⟩ := List.mem_filterMap.mp h
    obtain ⟨closed, hclosed, hmem⟩ := List.mem_flatMap.mp hx
    obtain ⟨⟨rideId, ride⟩, hride, rfl⟩ := List.mem_map.mp hclosed
    obtain ⟨hrow, hP⟩ := Table.mem_filter_iff.mp hride
    rcases List.mem_cons.mp hmem with rfl | hmem
    · obtain rfl := Option.some.inj hid
      refine (rideFound_iff hrow).mpr ?_
      simpa [Ride.ClosesWith] using hP
    · obtain ⟨listed, -, rfl⟩ := List.mem_map.mp hmem
      cases hid
  · rintro ⟨v, hv, huser, hstatus⟩
    obtain ⟨ride, hrow, rfl⟩ := Table.viewed_eq_some.mp hv
    refine List.mem_filterMap.mpr ⟨.ride id, List.mem_flatMap.mpr ⟨_, List.mem_map.mpr
      ⟨(id, ride), Table.mem_filter_iff.mpr ⟨hrow, ?_⟩, rfl⟩, List.mem_cons_self⟩, rfl⟩
    simp only [Ride.driven] at huser hstatus
    simp [huser, hstatus]

/-- The bookings that are listed with a ride. -/
theorem mem_bookingsOfRides {listed : ℕ × Booking} :
    Closure.booking listed ∈ ((findActiveRides userId).answer d).flatMap ClosedRide.closures ↔
      d.bookings.get? listed.1 = some listed.2 ∧ listed.2.status.closesWithAccount = true ∧
        RideFound userId d listed.2.rideId := by
  obtain ⟨id, b⟩ := listed
  constructor
  · intro h
    obtain ⟨closed, hclosed, hmem⟩ := List.mem_flatMap.mp h
    obtain ⟨⟨rideId, ride⟩, hride, rfl⟩ := List.mem_map.mp hclosed
    obtain ⟨hride, hP⟩ := Table.mem_filter_iff.mp hride
    rcases List.mem_cons.mp hmem with heq | hmem
    · cases heq
    · obtain ⟨listed, hlisted, heq⟩ := List.mem_map.mp hmem
      obtain rfl := Closure.booking.inj heq
      dsimp only at hlisted
      obtain ⟨hrow, hb⟩ := Table.mem_filter_iff.mp hlisted
      obtain ⟨hrideId, hstatus⟩ := Bool.and_eq_true_iff.mp hb
      refine ⟨hrow, hstatus, ?_⟩
      rw [beq_iff_eq.mp hrideId]
      refine (rideFound_iff hride).mpr ?_
      simpa [Ride.ClosesWith] using hP
  · rintro ⟨hrow, hstatus, v, hv, huser, hride⟩
    obtain ⟨ride, hriderow, rfl⟩ := Table.viewed_eq_some.mp hv
    simp only [Ride.driven] at huser hride
    have hlisted : (id, b) ∈ d.bookings.filter fun _ b' =>
        b'.rideId == b.rideId && b'.status.closesWithAccount := by
      refine Table.mem_filter_iff.mpr ⟨hrow, ?_⟩
      simp [show b.status.closesWithAccount = true from hstatus]
    refine List.mem_flatMap.mpr ⟨_, List.mem_map.mpr ⟨(b.rideId, ride),
      Table.mem_filter_iff.mpr ⟨hriderow, by simp [huser, hride]⟩, rfl⟩, ?_⟩
    exact List.mem_cons_of_mem _ (List.mem_map.mpr ⟨(id, b), hlisted, rfl⟩)

/-- The bookings that are listed as the user's own. -/
theorem mem_ownBookings {x : Closure} :
    x ∈ ((findActiveBookings userId).answer d).flatMap (fun booking => [.booking booking.1]) ↔
      ∃ id b, x = .booking (id, b) ∧ d.bookings.get? id = some b ∧ b.passengerId = userId ∧
        b.status.closesWithAccount = true ∧ (d.rides.get? b.rideId).isSome = true := by
  constructor
  · intro h
    obtain ⟨booking, hbooking, hx⟩ := List.mem_flatMap.mp h
    obtain ⟨⟨id, b⟩, hmem, hride⟩ := List.mem_filterMap.mp hbooking
    obtain ⟨hrow, hP⟩ := Table.mem_filter_iff.mp hmem
    obtain ⟨huser, hstatus⟩ := Bool.and_eq_true_iff.mp hP
    obtain ⟨ride, hriderow, rfl⟩ := Option.map_eq_some_iff.mp hride
    exact ⟨id, b, List.mem_singleton.mp hx, hrow, beq_iff_eq.mp huser, hstatus, by simp [hriderow]⟩
  · rintro ⟨id, b, rfl, hrow, huser, hstatus, hride⟩
    obtain ⟨ride, hride⟩ := Option.isSome_iff_exists.mp hride
    refine List.mem_flatMap.mpr ⟨((id, b), ride.totalSeats), List.mem_filterMap.mpr
      ⟨(id, b), Table.mem_filter_iff.mpr ⟨hrow, ?_⟩, ?_⟩, List.mem_singleton_self _⟩
    · simp [huser, show b.status.closesWithAccount = true from hstatus]
    · simp [hride]

theorem mem_bookingIds {l : List Closure} {id : ℕ} :
    id ∈ l.filterMap Closure.booking? ↔ ∃ b, Closure.booking (id, b) ∈ l := by
  rw [List.mem_filterMap]
  constructor
  · rintro ⟨_ | ⟨id', b⟩, hx, hid⟩
    · cases hid
    · obtain rfl := Option.some.inj hid
      exact ⟨b, hx⟩
  · rintro ⟨b, hb⟩
    exact ⟨_, hb, rfl⟩

/-- No booking is listed twice with the rides. -/
theorem nodup_bookingsOfRides :
    ((((findActiveRides userId).answer d).flatMap ClosedRide.closures).filterMap
      Closure.booking?).Nodup := by
  have hids : ∀ bookings : List (ℕ × Booking),
      (bookings.map Closure.booking).filterMap Closure.booking? = bookings.map Prod.fst := by
    intro bookings
    rw [List.filterMap_map]
    exact congrFun List.filterMap_eq_map bookings
  simp only [findActiveRides, List.flatMap_map, List.filterMap_flatMap, ClosedRide.closures]
  rw [List.nodup_flatMap]
  constructor
  · intro r _
    exact (congrArg List.Nodup (hids _)).mpr (Table.nodup_filter _ _)
  · have hkeys := Table.nodup_filter d.rides fun _ r =>
      r.driverId == userId && r.status.closesWithAccount
    refine (List.pairwise_map.mp hkeys).imp fun {r₁ r₂} hne id h₁ h₂ => hne ?_
    -- A booking on both lists would be on both rides.
    have hrow : ∀ r : ℕ × Ride, id ∈ ((d.bookings.filter fun _ b =>
        b.rideId == r.1 && b.status.closesWithAccount).map Closure.booking).filterMap
          Closure.booking? → ∃ b, d.bookings.get? id = some b ∧ b.rideId = r.1 := by
      intro r h
      rw [hids] at h
      obtain ⟨⟨id, b⟩, hmem, rfl⟩ := List.mem_map.mp h
      obtain ⟨hrow, hP⟩ := Table.mem_filter_iff.mp hmem
      exact ⟨b, hrow, beq_iff_eq.mp (Bool.and_eq_true_iff.mp hP).1⟩
    obtain ⟨b, hb, hride⟩ := hrow r₁ h₁
    obtain ⟨b', hb', hride'⟩ := hrow r₂ h₂
    obtain rfl := Option.some.inj (hb.symm.trans hb')
    exact hride.symm.trans hride'

/-- Nor among the user's own. -/
theorem nodup_ownBookings :
    ((((findActiveBookings userId).answer d).flatMap fun booking =>
      [Closure.booking booking.1]).filterMap Closure.booking?).Nodup := by
  have hids : (((findActiveBookings userId).answer d).flatMap fun booking =>
      [Closure.booking booking.1]).filterMap Closure.booking? =
        ((findActiveBookings userId).answer d).map fun booking => booking.1.1 := by
    rw [List.filterMap_flatMap]
    exact (List.map_eq_flatMap ..).symm
  rw [hids]
  refine List.Nodup.sublist ?_ (Table.nodup_filter d.bookings fun _ b =>
    b.passengerId == userId && b.status.closesWithAccount)
  simp only [findActiveBookings]
  generalize d.bookings.filter _ = l
  induction l with
  | nil => exact List.Sublist.refl _
  | cons x l ih =>
    cases hride : d.rides.get? x.2.rideId with
    | none =>
      rw [List.filterMap_cons_none (by simp [hride])]
      exact ih.cons _
    | some ride =>
      rw [List.filterMap_cons_some (b := (x, ride.totalSeats)) (by simp [hride])]
      exact ih.cons_cons _

end Found

/-! ## The whole deletion -/

/-- What a deletion that returns has closed, in one list. -/
structure Deletion (userId : ℕ) (w w' : World) (closed : List Closure) : Prop where
  closes : ClosesTo w w' closed
  rides : ∀ id, id ∈ closed.filterMap Closure.ride? ↔ RideFound userId w.db id
  bookings : ∀ id, id ∈ closed.filterMap Closure.booking? ↔ BookingFound userId w.db id
  nodup : (closed.filterMap Closure.booking?).Nodup
  /-- A booking is listed as it was when the call started. -/
  listed : ∀ id b, Closure.booking (id, b) ∈ closed →
    w.db.bookings.viewed Booking.asHeld id = some b.asHeld

section Deletion

variable {userId : ℕ} {w w' : World} {closed : List Closure}

theorem deletion_of_closes (hrides : ∀ id b, w.db.bookings.get? id = some b →
    (w.db.rides.get? b.rideId).isSome = true) {d₁ : Db} {w₂ : World}
    (hsame : d₁.onAccount = w.db.onAccount)
    (h₁ : ClosesTo w w₂ (((findActiveRides userId).answer d₁).flatMap ClosedRide.closures))
    (h₂ : ClosesTo w₂ w' (((findActiveBookings userId).answer w₂.db).flatMap fun booking =>
      [.booking booking.1])) : ∃ closed, Deletion userId w w' closed := by
  set l₁ := ((findActiveRides userId).answer d₁).flatMap ClosedRide.closures with hl₁
  set l₂ := ((findActiveBookings userId).answer w₂.db).flatMap fun booking =>
    [Closure.booking booking.1] with hl₂
  obtain ⟨-, hviewed⟩ := Prod.mk.injEq .. ▸ hsame
  -- A booking of the first list is as it was at the start.
  have hlisted₁ : ∀ id b, Closure.booking (id, b) ∈ l₁ →
      w.db.bookings.viewed Booking.asHeld id = some b.asHeld ∧
        b.status.closesWithAccount = true ∧ RideFound userId w.db b.rideId := by
    intro id b hmem
    obtain ⟨hrow, hstatus, hride⟩ := mem_bookingsOfRides.mp hmem
    exact ⟨hviewed ▸ Table.viewed_of_get? hrow, hstatus, (rideFound_congr hsame _).mp hride⟩
  -- One of the second list was not on the first one.
  have hlisted₂ : ∀ id b, Closure.booking (id, b) ∈ l₂ →
      w.db.bookings.viewed Booking.asHeld id = some b.asHeld ∧ b.passengerId = userId ∧
        b.status.closesWithAccount = true ∧ id ∉ l₁.filterMap Closure.booking? := by
    intro id b hmem
    obtain ⟨id', b', heq, hrow, huser, hstatus, -⟩ := mem_ownBookings.mp hmem
    obtain ⟨rfl, rfl⟩ := Prod.mk.injEq .. ▸ Closure.booking.inj heq
    have hview := h₁.bookings id
    rw [Table.viewed_of_get? hrow] at hview
    obtain ⟨v, hv, hbecomes⟩ := Option.map_eq_some_iff.mp hview.symm
    by_cases hid : id ∈ l₁.filterMap Closure.booking?
    · rw [if_pos hid] at hbecomes
      have hcancelled : b.status = .cancelled := (congrArg HeldBooking.status hbecomes).symm
      rw [hcancelled] at hstatus
      cases hstatus
    · rw [if_neg hid] at hbecomes
      exact ⟨hbecomes ▸ hv, huser, hstatus, hid⟩
  refine ⟨l₁ ++ l₂, h₁.append h₂, fun id => ?_, fun id => ?_, ?_, fun id b hmem => ?_⟩
  · rw [List.filterMap_append, List.mem_append, mem_ridesClosed, rideFound_congr hsame]
    refine or_iff_left fun hmem => ?_
    obtain ⟨x, hx, hid⟩ := List.mem_filterMap.mp hmem
    obtain ⟨_, _, rfl, -⟩ := mem_ownBookings.mp hx
    cases hid
  · rw [List.filterMap_append, List.mem_append]
    constructor
    · rintro (hmem | hmem)
      · obtain ⟨b, hb⟩ := mem_bookingIds.mp hmem
        obtain ⟨hview, hstatus, hride⟩ := hlisted₁ id b hb
        exact ⟨_, hview, hstatus, Or.inr hride⟩
      · obtain ⟨b, hb⟩ := mem_bookingIds.mp hmem
        obtain ⟨hview, huser, hstatus, -⟩ := hlisted₂ id b hb
        exact ⟨_, hview, hstatus, Or.inl huser⟩
    · rintro ⟨v, hv, hstatus, hbelongs⟩
      by_cases hid : id ∈ l₁.filterMap Closure.booking?
      · exact Or.inl hid
      · -- A booking that is not on a ride that the call finds is one of the user's own.
        rcases hbelongs with huser | hride
        · refine Or.inr (mem_bookingIds.mpr ?_)
          have hview := h₁.bookings id
          rw [hv, Option.map_some, if_neg hid] at hview
          obtain ⟨b, hrow, rfl⟩ := Table.viewed_eq_some.mp hview
          refine ⟨b, mem_ownBookings.mpr ⟨id, b, rfl, hrow, huser, hstatus, ?_⟩⟩
          obtain ⟨b₀, hrow₀, hb₀⟩ := Table.viewed_eq_some.mp hv
          have hrideId : b₀.rideId = b.rideId := congrArg HeldBooking.rideId hb₀
          obtain ⟨ride, hride⟩ := Option.isSome_iff_exists.mp (hrides id b₀ hrow₀)
          have hviewRide := h₁.rides b.rideId
          rw [← hrideId, Table.viewed_of_get? hride, Option.map_some] at hviewRide
          obtain ⟨ride', hride', -⟩ := Table.viewed_eq_some.mp hviewRide
          rw [← hrideId, hride']
          rfl
        · refine absurd (mem_bookingIds.mpr ?_) hid
          obtain ⟨b, hrow, rfl⟩ := Table.viewed_eq_some.mp (hviewed ▸ hv)
          exact ⟨b, mem_bookingsOfRides.mpr ⟨hrow, hstatus, (rideFound_congr hsame _).mpr hride⟩⟩
  · rw [List.filterMap_append, List.nodup_append]
    refine ⟨nodup_bookingsOfRides, nodup_ownBookings, fun i hi j hj hij => ?_⟩
    obtain ⟨b, hb⟩ := mem_bookingIds.mp hj
    exact (hlisted₂ j b hb).2.2.2 (hij ▸ hi)
  · rcases List.mem_append.mp hmem with hmem | hmem
    · exact (hlisted₁ id b hmem).1
    · exact (hlisted₂ id b hmem).1

/-- What a ride is afterwards. -/
theorem Deletion.ride {id : ℕ} {v : ℕ × RideStatus} (h : Deletion userId w w' closed)
    (hv : w.db.rides.viewed Ride.driven id = some v) :
    (RideFound userId w.db id ∧ w'.db.rides.viewed Ride.driven id = some (v.1, .cancelled)) ∨
      ¬ RideFound userId w.db id ∧ w'.db.rides.viewed Ride.driven id = some v := by
  have hview := h.closes.rides id
  rw [hv, Option.map_some] at hview
  by_cases hid : id ∈ closed.filterMap Closure.ride?
  · rw [if_pos hid] at hview
    exact Or.inl ⟨(h.rides id).mp hid, hview⟩
  · rw [if_neg hid] at hview
    exact Or.inr ⟨fun hfound => hid ((h.rides id).mpr hfound), hview⟩

/-- What a booking is afterwards. -/
theorem Deletion.booking {id : ℕ} {v : HeldBooking} (h : Deletion userId w w' closed)
    (hv : w.db.bookings.viewed Booking.asHeld id = some v) :
    (BookingFound userId w.db id ∧
        w'.db.bookings.viewed Booking.asHeld id = some { v with status := .cancelled }) ∨
      ¬ BookingFound userId w.db id ∧ w'.db.bookings.viewed Booking.asHeld id = some v := by
  have hview := h.closes.bookings id
  rw [hv, Option.map_some] at hview
  by_cases hid : id ∈ closed.filterMap Closure.booking?
  · rw [if_pos hid] at hview
    exact Or.inl ⟨(h.bookings id).mp hid, hview⟩
  · rw [if_neg hid] at hview
    exact Or.inr ⟨fun hfound => hid ((h.bookings id).mpr hfound), hview⟩

/-- A row afterwards was there before. -/
theorem Deletion.of_ride {id : ℕ} {r : Ride} (h : Deletion userId w w' closed)
    (hr : w'.db.rides.get? id = some r) : ∃ r₀, w.db.rides.get? id = some r₀ := by
  have hview := h.closes.rides id
  rw [Table.viewed_of_get? hr] at hview
  obtain ⟨v, hv, -⟩ := Option.map_eq_some_iff.mp hview.symm
  obtain ⟨r₀, hr₀, -⟩ := Table.viewed_eq_some.mp hv
  exact ⟨r₀, hr₀⟩

theorem Deletion.of_booking {id : ℕ} {b : Booking} (h : Deletion userId w w' closed)
    (hb : w'.db.bookings.get? id = some b) : ∃ b₀, w.db.bookings.get? id = some b₀ := by
  have hview := h.closes.bookings id
  rw [Table.viewed_of_get? hb] at hview
  obtain ⟨v, hv, -⟩ := Option.map_eq_some_iff.mp hview.symm
  obtain ⟨b₀, hb₀, -⟩ := Table.viewed_eq_some.mp hv
  exact ⟨b₀, hb₀⟩

/-- The same amount of the same intent is refunded of a booking that these columns do not tell
apart. -/
theorem refundable_congr {b b' : Booking} (h : b.asHeld = b'.asHeld) :
    b.refundable = b'.refundable := by
  have hintent : b.stripePaymentIntentId = b'.stripePaymentIntentId :=
    congrArg HeldBooking.stripePaymentIntentId h
  have hamount : b.paymentAmount = b'.paymentAmount := congrArg HeldBooking.paymentAmount h
  rw [Booking.refundable, Booking.refundable, hintent, hamount]

theorem refundable_eq_some {b : Booking} {paymentIntent : ℕ} {amount : ℤ} :
    b.refundable = some (paymentIntent, amount) ↔
      b.stripePaymentIntentId = some paymentIntent ∧ b.paymentAmount = some amount ∧ amount ≠ 0 := by
  unfold Booking.refundable
  rcases b.stripePaymentIntentId with _ | i <;> rcases b.paymentAmount with _ | a
  · simp
  · simp
  · simp
  · by_cases ha : a = 0
    · simp only [if_pos ha, reduceCtorEq, false_iff, not_and, not_not]
      rintro - h
      exact (Option.some.inj h).symm.trans ha
    · simp only [if_neg ha, Option.some.injEq, Prod.mk.injEq]
      constructor
      · rintro ⟨rfl, rfl⟩
        exact ⟨rfl, rfl, ha⟩
      · rintro ⟨rfl, rfl, -⟩
        exact ⟨rfl, rfl⟩

/-- The booking that a refund was for. -/
theorem Deletion.of_refund {x : Closure} {refund : StripeRefund} (h : Deletion userId w w' closed)
    (hx : x ∈ closed) (hrefund : x.refund? = some refund) :
    ∃ id b, x = .booking (id, b) ∧ ∃ b₀, w.db.bookings.get? id = some b₀ ∧
      b₀.refundable = some (refund.paymentIntent, refund.amount) := by
  cases x with
  | ride id => cases hrefund
  | booking listed =>
    obtain ⟨id, b⟩ := listed
    obtain ⟨b₀, hrow, hheld⟩ := Table.viewed_eq_some.mp (h.listed id b hx)
    obtain ⟨⟨paymentIntent, amount⟩, hrefundable, rfl⟩ := Option.map_eq_some_iff.mp hrefund
    exact ⟨id, b, rfl, b₀, hrow, (refundable_congr hheld).trans hrefundable⟩

/-- **One refund each.** A booking that is found and says how it is refunded is refunded once. -/
theorem Deletion.refundedOnce (hintents : ∀ id₁ id₂ b₁ b₂ paymentIntent,
      w.db.bookings.get? id₁ = some b₁ → w.db.bookings.get? id₂ = some b₂ →
      b₁.stripePaymentIntentId = some paymentIntent →
      b₂.stripePaymentIntentId = some paymentIntent → id₁ = id₂)
    (h : Deletion userId w w' closed) {id : ℕ} {b : Booking} (hrow : w.db.bookings.get? id = some b)
    (hfound : BookingFound userId w.db id) (hrefundable : b.refundable.isSome = true) :
    b.RefundedOnce w.stripe w'.stripe := by
  obtain ⟨⟨paymentIntent, amount⟩, hrefund⟩ := Option.isSome_iff_exists.mp hrefundable
  obtain ⟨hintent, hamount, -⟩ := refundable_eq_some.mp hrefund
  refine ⟨paymentIntent, amount, hintent, hamount, ?_⟩
  obtain ⟨b₁, hmem⟩ := mem_bookingIds.mp ((h.bookings id).mpr hfound)
  have hheld : b₁.refundable = some (paymentIntent, amount) := by
    have hview := h.listed id b₁ hmem
    rw [Table.viewed_of_get? hrow] at hview
    exact (refundable_congr (Option.some.inj hview)).symm.trans hrefund
  rw [h.closes.refundsSince]
  obtain ⟨before, after, rfl⟩ := List.append_of_mem hmem
  -- Whatever else is on the list is another booking, and refunds another intent.
  have hothers : ∀ x ∈ before ++ after, ∀ refund, x.refund? = some refund →
      refund.paymentIntent ≠ paymentIntent := by
    intro x hx refund hrefund' heq
    have hx' : x ∈ before ++ Closure.booking (id, b₁) :: after :=
      (List.mem_append.mp hx).elim (List.mem_append_left _) fun hafter =>
        List.mem_append_right _ (List.mem_cons_of_mem _ hafter)
    obtain ⟨id', b', rfl, b₀, hrow', hrefundable'⟩ := h.of_refund hx' hrefund'
    obtain ⟨hintent', -, -⟩ := refundable_eq_some.mp hrefundable'
    obtain rfl := hintents id id' b b₀ paymentIntent hrow hrow' hintent (heq ▸ hintent')
    have hnodup := h.nodup
    have hid : Closure.booking? (.booking (id, b₁)) = some id := rfl
    rw [List.filterMap_append, List.filterMap_cons_some hid, List.nodup_middle,
      ← List.filterMap_append, List.nodup_cons] at hnodup
    exact hnodup.1 (mem_bookingIds.mpr ⟨b', hx⟩)
  have hnone : ∀ l : List Closure, (∀ x ∈ l, ∀ refund, x.refund? = some refund →
      refund.paymentIntent ≠ paymentIntent) →
      (l.filterMap Closure.refund?).filter (·.paymentIntent == paymentIntent) = [] := by
    intro l hl
    rw [List.filter_eq_nil_iff]
    intro refund hmem heq
    obtain ⟨x, hx, hrefund'⟩ := List.mem_filterMap.mp hmem
    exact hl x hx refund hrefund' (beq_iff_eq.mp heq)
  rw [List.filterMap_append, List.filterMap_cons_some (b := ⟨paymentIntent, amount, false⟩)
    (by simp [Closure.refund?, hheld]), List.filter_append, List.filter_cons_of_pos (by simp),
    hnone before fun x hx => hothers x (List.mem_append_left _ hx),
    hnone after fun x hx => hothers x (List.mem_append_right _ hx), List.nil_append]

/-! ## The law -/

theorem bookingFound_iff {id : ℕ} {b : Booking} (hrow : w.db.bookings.get? id = some b) :
    BookingFound userId w.db id ↔
      b.status.closesWithAccount = true ∧ b.BelongsTo userId w.db := by
  rw [BookingFound, Table.viewed_of_get? hrow]
  constructor
  · rintro ⟨v, hv, hstatus, hbelongs⟩
    obtain rfl := Option.some.inj hv
    refine ⟨hstatus, hbelongs.imp_right ?_⟩
    rintro ⟨v, hv, hride⟩
    obtain ⟨ride, hriderow, rfl⟩ := Table.viewed_eq_some.mp hv
    exact ⟨ride, hriderow, hride⟩
  · rintro ⟨hstatus, hbelongs⟩
    refine ⟨_, rfl, hstatus, hbelongs.imp_right ?_⟩
    rintro ⟨ride, hriderow, hride⟩
    exact (rideFound_iff hriderow).mpr hride

/-- A deletion that covers the account leaves nothing live. -/
theorem Deletion.accountClosed (hintents : ∀ id₁ id₂ b₁ b₂ paymentIntent,
      w.db.bookings.get? id₁ = some b₁ → w.db.bookings.get? id₂ = some b₂ →
      b₁.stripePaymentIntentId = some paymentIntent →
      b₂.stripePaymentIntentId = some paymentIntent → id₁ = id₂)
    (h : Deletion userId w w' closed) (hcovers : DeletionCovers userId w.db) :
    AccountClosed userId w w' where
  rides := by
    intro id r hr huser
    obtain ⟨r₀, hr₀⟩ := h.of_ride hr
    rcases h.ride (Table.viewed_of_get? hr₀) with ⟨-, hview⟩ | ⟨hnot, hview⟩
    · rw [Table.viewed_of_get? hr] at hview
      rw [show r.status = .cancelled from congrArg Prod.snd (Option.some.inj hview)]
      rfl
    · rw [Table.viewed_of_get? hr] at hview
      have hdriver : r.driverId = r₀.driverId := congrArg Prod.fst (Option.some.inj hview)
      have hstatus : r.status = r₀.status := congrArg Prod.snd (Option.some.inj hview)
      rw [hstatus, Bool.eq_false_iff]
      intro hlive
      -- a live ride of the user would have been found
      refine hnot ((rideFound_iff hr₀).mpr ⟨hdriver.symm.trans huser, ?_⟩)
      exact hcovers.rides id r₀ hr₀ (hdriver.symm.trans huser) hlive
  ownBookings := by
    intro id b hb huser
    obtain ⟨b₀, hb₀⟩ := h.of_booking hb
    rcases h.booking (Table.viewed_of_get? hb₀) with ⟨-, hview⟩ | ⟨hnot, hview⟩
    · rw [Table.viewed_of_get? hb] at hview
      rw [show b.status = .cancelled from congrArg HeldBooking.status (Option.some.inj hview)]
      rfl
    · rw [Table.viewed_of_get? hb] at hview
      have hpassenger : b.passengerId = b₀.passengerId :=
        congrArg HeldBooking.passengerId (Option.some.inj hview)
      have hstatus : b.status = b₀.status := congrArg HeldBooking.status (Option.some.inj hview)
      have hbelongs : b₀.BelongsTo userId w.db := Or.inl (hpassenger.symm.trans huser)
      rw [hstatus, Bool.eq_false_iff]
      intro hlive
      exact hnot ((bookingFound_iff hb₀).mpr ⟨hcovers.bookings id b₀ hb₀ hbelongs hlive, hbelongs⟩)
  bookingsOnRides := by
    intro rideId r r' hr hopen hr' hcancelled id b hb hride
    -- the ride was not cancelled before, so that the call has found it
    have hfound : RideFound userId w.db rideId := by
      rcases h.ride (Table.viewed_of_get? hr) with ⟨hfound, -⟩ | ⟨-, hview⟩
      · exact hfound
      · rw [Table.viewed_of_get? hr'] at hview
        exact absurd ((congrArg Prod.snd (Option.some.inj hview)).symm.trans hcancelled) hopen
    obtain ⟨b₀, hb₀⟩ := h.of_booking hb
    rcases h.booking (Table.viewed_of_get? hb₀) with ⟨-, hview⟩ | ⟨hnot, hview⟩
    · rw [Table.viewed_of_get? hb] at hview
      rw [show b.status = .cancelled from congrArg HeldBooking.status (Option.some.inj hview)]
      rfl
    · rw [Table.viewed_of_get? hb] at hview
      have hrideId : b.rideId = b₀.rideId := congrArg HeldBooking.rideId (Option.some.inj hview)
      have hstatus : b.status = b₀.status := congrArg HeldBooking.status (Option.some.inj hview)
      have hbelongs : b₀.BelongsTo userId w.db :=
        Or.inr ⟨r, by rw [← hrideId, hride]; exact hr, (rideFound_iff hr).mp hfound⟩
      rw [hstatus, Bool.eq_false_iff]
      intro hlive
      exact hnot ((bookingFound_iff hb₀).mpr ⟨hcovers.bookings id b₀ hb₀ hbelongs hlive, hbelongs⟩)
  refunds := by
    intro id b b' hb hopen hb' hcancelled hcaptured
    rcases h.booking (Table.viewed_of_get? hb) with ⟨hfound, -⟩ | ⟨-, hview⟩
    · -- only what was found has been cancelled, and that was refunded
      obtain ⟨hstatus, hbelongs⟩ := (bookingFound_iff hb).mp hfound
      exact h.refundedOnce hintents hb hfound
        (hcovers.refundable id b hb hbelongs hstatus hcaptured)
    · rw [Table.viewed_of_get? hb'] at hview
      exact absurd ((congrArg HeldBooking.status (Option.some.inj hview)).symm.trans hcancelled) hopen

/-- Whatever the call does not find stays as it is, so a deletion that leaves nothing live covers the
account. -/
theorem Deletion.covers (h : Deletion userId w w' closed) (hclosed : AccountClosed userId w w') :
    DeletionCovers userId w.db where
  rides := by
    intro id r hr huser hlive
    rcases h.ride (Table.viewed_of_get? hr) with ⟨hfound, -⟩ | ⟨-, hview⟩
    · exact ((rideFound_iff hr).mp hfound).2
    · obtain ⟨r', hr', heq⟩ := Table.viewed_eq_some.mp hview
      have hdriver : r'.driverId = r.driverId := congrArg Prod.fst heq
      have hdead := hclosed.rides id r' hr' (hdriver.trans huser)
      rw [show r'.status = r.status from congrArg Prod.snd heq, hlive] at hdead
      cases hdead
  bookings := by
    intro id b hb hbelongs hlive
    rcases h.booking (Table.viewed_of_get? hb) with ⟨hfound, -⟩ | ⟨-, hview⟩
    · exact ((bookingFound_iff hb).mp hfound).1
    · obtain ⟨b', hb', heq⟩ := Table.viewed_eq_some.mp hview
      have hstatus : b'.status = b.status := congrArg HeldBooking.status heq
      have hdead : b'.status.isLive = false := by
        rcases hbelongs with huser | ⟨ride, hride, hcloses⟩
        · exact hclosed.ownBookings id b' hb'
            ((congrArg HeldBooking.passengerId heq : b'.passengerId = b.passengerId).trans huser)
        · rcases h.ride (Table.viewed_of_get? hride) with ⟨-, hview'⟩ | ⟨hnot, -⟩
          · obtain ⟨ride', hride', heq'⟩ := Table.viewed_eq_some.mp hview'
            refine hclosed.bookingsOnRides b.rideId ride ride' hride ?_ hride'
              (congrArg Prod.snd heq') id b' hb' (congrArg HeldBooking.rideId heq)
            intro hcancelled
            have hstatus := hcloses.2
            rw [hcancelled] at hstatus
            cases hstatus
          · exact absurd ((rideFound_iff hride).mpr hcloses) hnot
      rw [hstatus, hlive] at hdead
      cases hdead
  refundable := by
    intro id b hb hbelongs hstatus hcaptured
    have hfound := (bookingFound_iff hb).mpr ⟨hstatus, hbelongs⟩
    rcases h.booking (Table.viewed_of_get? hb) with ⟨-, hview⟩ | ⟨hnot, -⟩
    · obtain ⟨b', hb', heq⟩ := Table.viewed_eq_some.mp hview
      have hopen : b.status ≠ .cancelled := by
        intro hcancelled
        rw [hcancelled] at hstatus
        cases hstatus
      obtain ⟨paymentIntent, amount, hintent, hamount, hrefunds⟩ := hclosed.refunds id b b' hb hopen
        hb' (congrArg HeldBooking.status heq) hcaptured
      -- The refund was for a booking that says how it is refunded, so its amount is not zero.
      rw [h.closes.refundsSince] at hrefunds
      have hmem : (⟨paymentIntent, amount, false⟩ : StripeRefund) ∈ closed.filterMap Closure.refund? :=
        List.mem_of_mem_filter (hrefunds ▸ List.mem_singleton_self _)
      obtain ⟨x, hx, hrefund⟩ := List.mem_filterMap.mp hmem
      obtain ⟨_, _, -, b₀, -, hrefundable⟩ := h.of_refund hx hrefund
      have hpos := (refundable_eq_some.mp hrefundable).2.2
      rw [refundable_eq_some.mpr ⟨hintent, hamount, hpos⟩]
      rfl
    · exact absurd hfound hnot

end Deletion

/-- **Account deletion.** A deletion that returns leaves nothing live of the account, and has every
captured booking refunded once, exactly if the statuses that it looks for are those of all that is
live and every captured booking among them says how it is refunded. -/
theorem account_deletion_covers (userId : ℕ) (w w' : World) (replies : ℕ → Reply) (n : ℕ)
    (hrides : ∀ id b, w.db.bookings.get? id = some b → (w.db.rides.get? b.rideId).isSome = true)
    (hintents : ∀ id₁ id₂ b₁ b₂ paymentIntent, w.db.bookings.get? id₁ = some b₁ →
      w.db.bookings.get? id₂ = some b₂ → b₁.stripePaymentIntentId = some paymentIntent →
      b₂.stripePaymentIntentId = some paymentIntent → id₁ = id₂)
    (hrun : Program.run world replies (deleteUserAccount userId) 0 w = (.ok (), n, w')) :
    AccountClosed userId w w' ↔ DeletionCovers userId w.db := by
  have hwp := Program.wp_run (closing_deleteUserAccount userId w) replies 0
  rw [hrun] at hwp
  obtain ⟨d₁, w₂, hsame, h₁, h₂⟩ := hwp rfl
  obtain ⟨closed, hdeletion⟩ := deletion_of_closes hrides hsame h₁ h₂
  exact ⟨hdeletion.covers, hdeletion.accountClosed hintents⟩

/-- A driver of one ride in this status, with one paid booking of somebody else on it. -/
private def drivingWorld (status : RideStatus) : World where
  db := {
    rides := ⟨[(0, { driverId := 1, totalSeats := 3, availableSeats := 2, status, departureAt := 10 })],
      List.nodup_singleton _⟩
    bookings := ⟨[(0, {
      rideId := 0, passengerId := 2, seatsBooked := 1, totalPrice := 900, status := .confirmed
      seatsReservedAt := some 1, stripePaymentIntentId := some 0, paymentAmount := some 900
      paymentCapturedAt := some 1 })], List.nodup_singleton _⟩
    users := ⟨[(1, {}), (2, {})], by decide⟩ }
  stripe := {
    intents := ⟨[(0, { bookingId := some 0, amount := 900, status := .succeeded })],
      List.nodup_singleton _⟩ }

/-- The world that the deletion of the driver leaves, every step of it taking place. -/
private def withoutDriver (status : RideStatus) : ℕ × World :=
  (Program.run world (fun _ => .ok) (deleteUserAccount 1) 0 (drivingWorld status)).2

private theorem drivingWorld_rides (status : RideStatus) (id : ℕ) (b : Booking)
    (h : (drivingWorld status).db.bookings.get? id = some b) :
    ((drivingWorld status).db.rides.get? b.rideId).isSome = true := by
  rw [drivingWorld, Table.get?_singleton] at h
  split_ifs at h
  obtain rfl := Option.some.inj h
  rfl

private theorem drivingWorld_intents (status : RideStatus) (id₁ id₂ : ℕ) (b₁ b₂ : Booking)
    (paymentIntent : ℕ) (h₁ : (drivingWorld status).db.bookings.get? id₁ = some b₁)
    (h₂ : (drivingWorld status).db.bookings.get? id₂ = some b₂)
    (_ : b₁.stripePaymentIntentId = some paymentIntent)
    (_ : b₂.stripePaymentIntentId = some paymentIntent) : id₁ = id₂ := by
  rw [drivingWorld, Table.get?_singleton] at h₁ h₂
  split_ifs at h₁ h₂ with hid₁ hid₂
  exact hid₁.trans hid₂.symm

theorem account_deletion_covers_published :
    AccountClosed 1 (drivingWorld .published) (withoutDriver .published).2 := by
  refine (account_deletion_covers 1 (drivingWorld .published) (withoutDriver .published).2
    (fun _ => .ok) (withoutDriver .published).1 (drivingWorld_rides _) (drivingWorld_intents _)
    (Prod.ext rfl rfl)).mpr ⟨?_, ?_, ?_⟩
  · intro id r h _ _
    rw [drivingWorld, Table.get?_singleton] at h
    split_ifs at h
    obtain rfl := Option.some.inj h
    rfl
  · intro id b h _ _
    rw [drivingWorld, Table.get?_singleton] at h
    split_ifs at h
    obtain rfl := Option.some.inj h
    rfl
  · intro id b h _ _ _
    rw [drivingWorld, Table.get?_singleton] at h
    split_ifs at h
    obtain rfl := Option.some.inj h
    rfl

/-- A ride that is ready to start is not among those that the call looks for: it stays, with the booking on
it. -/
theorem account_deletion_leaves_ride :
    ¬ ∀ (userId : ℕ) (w w' : World) (replies : ℕ → Reply) (n : ℕ),
      (∀ id b, w.db.bookings.get? id = some b → (w.db.rides.get? b.rideId).isSome = true) →
      (∀ id₁ id₂ b₁ b₂ paymentIntent, w.db.bookings.get? id₁ = some b₁ →
        w.db.bookings.get? id₂ = some b₂ → b₁.stripePaymentIntentId = some paymentIntent →
        b₂.stripePaymentIntentId = some paymentIntent → id₁ = id₂) →
      Program.run world replies (deleteUserAccount userId) 0 w = (.ok (), n, w') →
        AccountClosed userId w w' := by
  intro h
  have hclosed := h 1 (drivingWorld .readyToStart) (withoutDriver .readyToStart).2 (fun _ => .ok)
    (withoutDriver .readyToStart).1 (drivingWorld_rides _) (drivingWorld_intents _) (Prod.ext rfl rfl)
  have hdead := hclosed.rides 0 _ rfl rfl
  cases hdead

end Deliivo

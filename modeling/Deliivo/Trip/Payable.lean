import Deliivo.Domain.Pool
import Deliivo.Domain.Preserves
import Deliivo.Payout.Eligibility
import Deliivo.Program.Confined
import Deliivo.Ride.Frame
import Deliivo.Trip.Completion

/-!
# A completed trip can be paid out

The payout worker only looks at completed bookings whose `completedAt` is old enough, so that a
booking completed without the column is never paid out. Two of the four calls that complete
bookings do not write it.

**Every completed booking is dated, and so can be paid out, in every state of a run exactly if no
drop-off OTP and no completed ride completes a booking that has no `completedAt` yet**
(`completed_payable_iff`).

## Main definitions

* `CompletedDated`, `CompletedPayable`: the two halves of the property
* `TripOp`, `tripPool`: the calls, next to each other
* `TripStep`: the condition on their steps

## Main results

* `tripCall_of_leaves`, `opsConfined_trip`: what every step of the calls does to the property
* `completedPayable`: the eligibility check finds every dated booking
* `completed_payable_iff`
-/

namespace Deliivo

open Program (Logged Pool Move)

/-! ## The property -/

/-- Every completed booking has `completedAt` set. -/
def CompletedDated (d : Db) : Prop :=
  ∀ id b, d.bookings.get? id = some b → b.status = .completed → b.completedAt.isSome

/-- The eligibility check, run alone at a time more than its delay after a booking was completed,
makes the held payment of the booking eligible, if no dispute is open. -/
def CompletedPayable (w : World) : Prop :=
  ∀ paymentId payment booking completedAt delayMs later,
    w.db.payments.get? paymentId = some payment → payment.status = .heldInEscrow →
    w.db.bookings.get? payment.bookingId = some booking → booking.status = .completed →
    hasOpenDispute w.db payment.bookingId = false → booking.completedAt = some completedAt →
    completedAt + delayMs < later →
    ∃ w', (checkAndMarkEligible delayMs).eval { w with now := later } = (.ok (), w') ∧
      (w'.db.payments.get? paymentId).map Payment.status = some .payoutEligible

/-! ## The calls -/

/-- The calls that run next to each other. -/
inductive TripOp
  | verifyDropOtp (driverId bookingId : ℕ) (otpHash : Option String) (forced : Bool)
  | riderConfirmDropoff (passengerId bookingId : ℕ) (forced : Bool)
  | completeRide (driverId rideId : ℕ)
  | adminForceComplete (bookingId : ℕ)
  deriving DecidableEq, Repr

def TripOp.program : TripOp → Service Unit
  | .verifyDropOtp driverId bookingId otpHash forced =>
    Deliivo.verifyDropOtp driverId bookingId otpHash forced
  | .riderConfirmDropoff passengerId bookingId forced =>
    Deliivo.riderConfirmDropoff passengerId bookingId forced
  | .completeRide driverId rideId => Deliivo.completeRide driverId rideId
  | .adminForceComplete bookingId => adminForceCompleteBooking bookingId

/-- Whether the call writes `completedAt` with the status. -/
def TripOp.dates : TripOp → Bool
  | .verifyDropOtp .. | .completeRide .. => false
  | .riderConfirmDropoff .. | .adminForceComplete .. => true

/-- The calls, next to each other and to anything else that goes on. -/
abbrev tripPool := servicePool TripOp.program fun (w' : World) _ => w'

/-- What a step is to meet: a call that does not date completes only bookings that are dated. -/
def Completes (op : TripOp) (d : Db) (events : List Event) : Prop :=
  ∀ b, .tripCompleted b ∈ events → op.dates = false →
    (d.bookings.get? b).any (fun b => b.completedAt.isSome) = true

/-- The condition on the steps of the calls. -/
def TripStep (op : TripOp) (_tid : ℕ) (x : LoggedWorld) (_reply : Reply) (events : List Event) :
    Prop := Completes op x.state.db events

/-! ## Single steps -/

section Steps

/-- What a booking shows of its completion. -/
def datesView (d : Db) (id : ℕ) : Option (BookingStatus × Option ℕ) :=
  (d.bookings.get? id).map fun b => (b.status, b.completedAt)

/-- What a step may do that completes nothing. -/
def tripFrame : Frame where
  db := datesView
  stripe _ := ()
  events e := ∀ b, e ≠ .tripCompleted b

/-- A step of a call keeps completed bookings dated exactly if it meets the condition. -/
def TripCall (op : TripOp) {β : Type} (c : Call β) : Prop :=
  ∀ i w, CompletedDated w.db →
    (CompletedDated (c.exec i w).2.2.db ↔ Completes op w.db (c.exec i w).2.1)

theorem completedDated_iff (d : Db) :
    CompletedDated d ↔ ∀ id s t, datesView d id = some (s, t) → s = .completed → t.isSome := by
  constructor
  · intro h id s t hid hs
    obtain ⟨b, hb, heq⟩ := Option.map_eq_some_iff.mp hid
    obtain ⟨rfl, rfl⟩ := Prod.mk.injEq .. ▸ heq
    exact h id b hb hs
  · intro h id b hb hs
    exact h id b.status b.completedAt (by rw [datesView, hb]; rfl) hs

variable {op : TripOp}

theorem completes_nil (d : Db) : Completes op d [] := fun _ h => absurd h List.not_mem_nil

/-- A step that completes nothing. -/
theorem tripCall_of_leaves {β : Type} {c : Call β} (h : c.Leaves tripFrame) : TripCall op c := by
  intro i w hw
  obtain ⟨hdb, -, hevents⟩ := h.exec i w
  refine iff_of_true ?_ fun b hb => absurd rfl (hevents _ hb b)
  rw [completedDated_iff] at hw ⊢
  intro id s t hid
  have hview : datesView (c.exec i w).2.2.db = datesView w.db := hdb
  rw [hview] at hid
  exact hw id s t hid

theorem issues_of_leaves {α : Type} {p : Service α} (h : p.Leaves tripFrame) :
    p.Issues fun {_} c => TripCall op c :=
  h.mono fun _ hc => tripCall_of_leaves hc

/-- A transaction: what its commit does is all there is to show. -/
theorem tripCall_transact {β : Type} {body : Ctx → Tx β} {report : β → List Event}
    (h : ∀ (w : World) b d, CompletedDated w.db → (body ⟨w.now, w.db.freshId⟩).atomic w.db = .ok (b, d) →
      (CompletedDated d ↔ Completes op w.db (report b))) :
    TripCall op (.transact body report) := by
  intro i w hw
  cases i with
  | refused | lost => exact iff_of_true hw (completes_nil _)
  | ok =>
    simp only [Call.exec]
    cases hb : (body ⟨w.now, w.db.freshId⟩).atomic w.db with
    | error e => exact iff_of_true hw (completes_nil _)
    | ok r => exact h w r.1 r.2 hw hb

/-- Completing some bookings, each with what `f` makes of it. -/
theorem completedDated_complete {d d' : Db} {q : ℕ → Prop} [DecidablePred q]
    {f : Booking → Booking} (hd : CompletedDated d)
    (hd' : ∀ id, d'.bookings.get? id =
      (d.bookings.get? id).map fun b => if q id then { f b with status := .completed } else b) :
    CompletedDated d' ↔ ∀ id b, d.bookings.get? id = some b → q id →
      (f b).completedAt.isSome := by
  constructor
  · intro h id b hb hc
    refine h id { f b with status := .completed } ?_ rfl
    rw [hd', hb, Option.map_some, if_pos hc]
  · intro h id b' hb' hs
    rw [hd', Option.map_eq_some_iff] at hb'
    obtain ⟨b, hb, rfl⟩ := hb'
    by_cases hc : q id
    · rw [if_pos hc] at hs ⊢
      exact h id b hb hc
    · rw [if_neg hc] at hs ⊢
      exact hd id b hb hs

/-- Completing one booking. -/
theorem tripCall_completeBooking {bookingId : ℕ} {f : Ctx → Booking → Booking}
    (hf : ∀ ctx b, (f ctx b).completedAt.isSome = (op.dates || b.completedAt.isSome)) :
    (completeBooking bookingId f).Issues fun {_} c => TripCall op c := by
  refine ((Program.issues_perform _).mpr ?_).bind fun _ => trivial
  refine tripCall_transact fun w b d hw hbody => ?_
  obtain ⟨row, hrow, -, rfl⟩ := Service.atomic_update hbody
  rw [completedDated_complete (q := (· = bookingId))
    (f := f ⟨w.now, w.db.freshId⟩) hw fun id => ?_]
  · constructor
    · intro h b' hb' hdates
      obtain rfl : b' = bookingId := by simpa using hb'
      have hsome := h b' row hrow rfl
      rw [hf, hdates, Bool.false_or] at hsome
      rw [show w.db.bookings.get? b' = some row from hrow]
      exact hsome
    · rintro h id b' hb' rfl
      obtain rfl := Option.some.inj (hrow.symm.trans hb')
      rw [hf]
      cases hdates : op.dates with
      | true => rfl
      | false =>
        have hany := h id List.mem_cons_self hdates
        rw [hb'] at hany
        exact hany
  · show (w.db.bookings.modify bookingId _).get? id = _
    rw [Table.get?_modify]
    split_ifs with hid
    · rfl
    · simp

/-! ## The calls, command by command -/

/-- A write of a booking that does not bear on its completion. -/
theorem datesView_modify {d : Db} {id : ℕ} {f : Booking → Booking}
    (hf : ∀ b, ((f b).status, (f b).completedAt) = (b.status, b.completedAt)) :
    datesView { d with bookings := d.bookings.modify id f } = datesView d := by
  funext j
  simp only [datesView, Table.get?_modify]
  split_ifs with hj
  · rw [Option.map_map]
    exact Option.map_congr fun b _ => hf b
  · rfl

theorem confined_verifyDropOtp (driverId bookingId : ℕ) (otpHash : Option String)
    (forced : Bool) : (verifyDropOtp driverId bookingId otpHash forced).Issues
      fun {_} c => TripCall (.verifyDropOtp driverId bookingId otpHash forced) c := by
  refine (issues_of_leaves (leaves_sql fun _ _ => rfl)).bind fun found => ?_
  cases found with
  | none => trivial
  | some found =>
    obtain ⟨booking, ride⟩ := found
    dsimp only
    by_cases hdriver : ride.driverId ≠ driverId
    · rw [if_pos hdriver]
      trivial
    · rw [if_neg hdriver]
      refine (issues_of_leaves (leaves_assertForceAllowedOnRide _ _)).bind fun _ => ?_
      refine (issues_of_leaves (leaves_assertOrForce _ _ _)).bind fun _ => ?_
      refine (issues_of_leaves (leaves_assertOrForce _ _ _)).bind fun _ => ?_
      refine ((Program.issues_command _).mpr (tripCall_of_leaves (c := .clock) trivial)).bind fun now => ?_
      refine (issues_of_leaves (leaves_assertOrForce _ _ _)).bind fun _ => ?_
      refine (issues_of_leaves (leaves_assertOrForce _ _ _)).bind fun _ => ?_
      split_ifs with hvalid
      · refine (issues_of_leaves (leaves_sqlOrThrow ?_)).bind fun _ => trivial
        exact fun _ _ => datesView_modify fun _ => rfl
      · refine (tripCall_completeBooking fun ctx b => rfl).bind fun _ => ?_
        exact issues_of_leaves leaves_notify

theorem confined_riderConfirmDropoff (passengerId bookingId : ℕ) (forced : Bool) :
    (riderConfirmDropoff passengerId bookingId forced).Issues
      fun {_} c => TripCall (.riderConfirmDropoff passengerId bookingId forced) c := by
  refine (issues_of_leaves (leaves_sql fun _ _ => rfl)).bind fun found => ?_
  cases found with
  | none => trivial
  | some found =>
    obtain ⟨booking, ride⟩ := found
    dsimp only
    split_ifs with hpassenger
    · trivial
    · refine (issues_of_leaves (leaves_assertForceAllowedOnRide _ _)).bind fun _ => ?_
      refine (issues_of_leaves (leaves_assertOrForce _ _ _)).bind fun _ => ?_
      refine ((Program.issues_command _).mpr (tripCall_of_leaves (c := .clock) trivial)).bind fun now => ?_
      refine (tripCall_completeBooking fun ctx b => rfl).bind fun _ => ?_
      exact issues_of_leaves leaves_notify

/-- Completing the bookings of a ride that are in progress. -/
theorem tripCall_completeRide (driverId rideId : ℕ) :
    TripCall (.completeRide driverId rideId) (.transact (fun _ => do
      let _ ← Program.perform (update rides rideId fun r => { r with status := .completed })
      Program.command <|
        updateMany bookings (fun _ b => b.rideId == rideId && b.status == .inProgress)
          fun b => { b with status := .completed })
      fun completed => .rideMoved rideId .completed :: completed.map .tripCompleted) := by
  refine tripCall_transact fun w ids d hw hbody => ?_
  obtain ⟨ride, d₁, hride, hmany⟩ := Tx.atomic_bind.mp hbody
  obtain ⟨-, -, -, rfl⟩ := Service.atomic_update hride
  obtain ⟨rfl, rfl⟩ := Prod.mk.injEq .. ▸ Except.ok.inj hmany
  set P : ℕ → Booking → Bool := fun _ b => b.rideId == rideId && b.status == .inProgress with hP
  rw [completedDated_complete (q := fun id => w.db.bookings.holds P id = true) (f := id) hw
    fun id => ?_]
  · constructor
    · -- an announced trip is one of the rows completed, and these are dated
      intro h id hid _
      rcases List.mem_cons.mp hid with hmoved | hid
      · cases hmoved
      obtain ⟨id', hmem, heq⟩ := List.mem_map.mp hid
      obtain rfl := Event.tripCompleted.inj heq
      obtain ⟨row, hrow, rfl⟩ := List.mem_map.mp hmem
      obtain ⟨hget, hPr⟩ : w.db.bookings.get? row.1 = some row.2 ∧ P row.1 row.2 = true :=
        Table.mem_filter_iff.mp hrow
      have hsome := h row.1 row.2 hget (by rw [Table.holds, hget]; exact hPr)
      show (w.db.bookings.get? row.1).any _ = true
      rw [hget]
      exact hsome
    · intro h id b hb hholds
      rw [Table.holds, hb] at hholds
      have hany := h id (List.mem_cons_of_mem _ (List.mem_map_of_mem (List.mem_map.mpr
        ⟨(id, b), Table.mem_filter_iff.mpr ⟨hb, hholds⟩, rfl⟩))) rfl
      rw [hb] at hany
      exact hany
  · exact Table.get?_modifyWhere _ _ _ _

theorem confined_completeRide (driverId rideId : ℕ) :
    (completeRide driverId rideId).Issues
      fun {_} c => TripCall (.completeRide driverId rideId) c := by
  refine (issues_of_leaves (leaves_sql (leaves_findFirst _))).bind fun found => ?_
  cases found with
  | none => trivial
  | some found =>
    refine ((Program.issues_perform _).mpr (tripCall_completeRide driverId rideId)).bind
      fun _ => ?_
    exact issues_of_leaves leaves_notify

theorem leaves_completeRideIfLast (rideId bookingId : ℕ) :
    (completeRideIfLast rideId bookingId).Leaves Db.bookings := by
  refine ((Program.issues_command _).mpr fun _ _ => rfl).bind fun remaining => ?_
  split_ifs with hlast
  · exact ((Program.issues_perform _).mpr fun _ _ => rfl).bind fun _ => trivial
  · trivial

theorem leaves_makeEligible (now : ℕ) (payment : Option ℕ) :
    (makeEligible now payment).Leaves Db.bookings := by
  cases payment with
  | none => trivial
  | some paymentId => exact ((Program.issues_perform _).mpr fun _ _ => rfl).bind fun _ => trivial

theorem tripCall_forceComplete (bookingId now : ℕ) (view : ForceView) :
    TripCall (.adminForceComplete bookingId) (.transact (fun _ => forceComplete bookingId now view)
      fun _ => view.events bookingId) := by
  refine tripCall_transact fun w b d hw hbody => ?_
  obtain ⟨written, d₁, hbooking, hrest⟩ := Tx.atomic_bind.mp hbody
  obtain ⟨row, hrow, -, rfl⟩ := Service.atomic_update hbooking
  have hkeeps : Tx.Leaves Db.bookings ((completeRideIfLast view.booking.rideId bookingId).bind
      fun _ => makeEligible now view.heldPayment) :=
    (leaves_completeRideIfLast _ _).bind fun _ => leaves_makeEligible _ _
  have hsame := Tx.Leaves.atomic hkeeps hrest
  rw [completedDated_complete (q := (· = bookingId))
    (f := fun b => { b with
      completedAt := some now
      riderDropoffConfirmedAt := view.booking.riderDropoffConfirmedAt <|> some now }) hw
    fun id => ?_]
  · exact iff_of_true (fun _ _ _ _ => rfl) fun _ _ hdates => by cases hdates
  · show d.bookings.get? id = _
    rw [hsame]
    show (w.db.bookings.modify bookingId _).get? id = _
    rw [Table.get?_modify]
    split_ifs with hid
    · rfl
    · simp

theorem confined_adminForceComplete (bookingId : ℕ) :
    (adminForceCompleteBooking bookingId).Issues
      fun {_} c => TripCall (.adminForceComplete bookingId) c := by
  refine (issues_of_leaves (leaves_sql fun _ _ => rfl)).bind fun found => ?_
  cases found with
  | none => trivial
  | some view =>
    dsimp only
    split_ifs with hactive hride hdispute
    · trivial
    · trivial
    · trivial
    · refine ((Program.issues_command _).mpr (tripCall_of_leaves (c := .clock) trivial)).bind fun now => ?_
      refine ((Program.issues_perform _).mpr (tripCall_forceComplete bookingId now view)).bind
        fun _ => ?_
      exact issues_of_leaves leaves_notify

/-- Every step of the calls does to the property what the condition says. -/
theorem opsConfined_trip : Pool.OpsConfined tripPool fun op {_} c => TripCall op c := by
  intro op
  cases op with
  | verifyDropOtp driverId bookingId otpHash forced =>
    exact (confined_verifyDropOtp driverId bookingId otpHash forced).emits
  | riderConfirmDropoff passengerId bookingId forced =>
    exact (confined_riderConfirmDropoff passengerId bookingId forced).emits
  | completeRide driverId rideId => exact (confined_completeRide driverId rideId).emits
  | adminForceComplete bookingId => exact (confined_adminForceComplete bookingId).emits

end Steps

/-! ## Whole runs -/

/-- The eligibility check finds every booking that is dated. -/
theorem completedPayable (w : World) : CompletedPayable w := by
  intro paymentId payment booking completedAt delayMs later hpayment hheld hbooking hcompleted
    hdispute hdated hlate
  exact checkAndMarkEligible_marks hpayment hheld hbooking hcompleted hdispute hdated hlate

/-- The pool before any call has been started. -/
def tripStart (w : World) : Pool Call Err Event World TripOp := { now := { state := w } }

/-- **Completed bookings are dated, and so can be paid out, in every state of a run exactly if no
drop-off OTP and no completed ride completes a booking without `completedAt`.** -/
theorem completed_payable_iff (w : World) (hstart : CompletedDated w.db)
    (moves : List (Move TripOp Reply World)) :
    History.Always (Pool.step tripPool)
        (fun p => CompletedDated p.now.state.db ∧ CompletedPayable p.now.state) (tripStart w) moves ↔
      History.Each (Pool.step tripPool)
        (Pool.Meets tripPool TripStep fun w' _ => CompletedDated w'.db) (tripStart w) moves := by
  refine Pool.always_iff_each_of_confined (S := tripPool)
    (Q := fun x => CompletedDated x.state.db ∧ CompletedPayable x.state)
    opsConfined_trip (fun op tid β c i x b es s hc hexec hx => ?_) (fun d x _ => ?_)
    (fun t ht => absurd ht List.not_mem_nil) ⟨hstart, completedPayable w⟩ moves
  · obtain ⟨rfl, rfl, rfl⟩ : (c.exec i x.state).1 = b ∧ (c.exec i x.state).2.1 = es ∧
        (c.exec i x.state).2.2 = s := by
      have heq := Option.some.inj hexec
      rw [heq]
      exact ⟨rfl, rfl, rfl⟩
    exact (and_iff_left (completedPayable _)).trans (hc i x.state hx.1)
  · exact and_iff_left (completedPayable _)

/-! ## Runs -/

section Runs

private def ridden (status : BookingStatus) : Booking where
  rideId := 1
  passengerId := 2
  seatsBooked := 1
  totalPrice := 1020
  status
  dropOtpHash := some "1234"
  dropOtpExpiresAt := some 900

private def heldPayment : Payment where
  toPaymentSplit := samplePayment.toPaymentSplit
  bookingId := 7
  rideId := 1
  riderId := 2
  status := .heldInEscrow

/-- A ride in progress of driver 9, with one booking whose payment is held. -/
private def ridingWorld (status : BookingStatus) : World where
  db := {
    rides := ⟨[(1, {
      driverId := 9, totalSeats := 3, availableSeats := 2, status := .inProgress,
      departureAt := 100 })], by simp⟩
    bookings := ⟨[(7, ridden status)], by simp⟩
    payments := ⟨[(3, heldPayment)], by simp⟩ }
  now := 500

private theorem ridingWorld_dated {status : BookingStatus} (h : status ≠ .completed) :
    CompletedDated (ridingWorld status).db := by
  intro id b hb hs
  have hrow : (⟨[(7, ridden status)], by simp⟩ : Table Booking).get? id = some b := hb
  rw [Table.get?_singleton] at hrow
  split_ifs at hrow with hid
  obtain rfl := Option.some.inj hrow
  exact absurd hs h

/-- The rider confirms the drop-off, every step succeeding. -/
theorem confirmed_dropoff_payable :
    History.Always (Pool.step tripPool)
      (fun p => CompletedDated p.now.state.db ∧ CompletedPayable p.now.state)
      (tripStart (ridingWorld .dropPending))
      [.start (.riderConfirmDropoff 2 7 false), .step 0 .ok, .step 0 .ok, .step 0 .ok] := by
  refine (completed_payable_iff _ (ridingWorld_dated (by decide)) _).mpr ⟨trivial, ?_, ?_, ?_,
    trivial⟩
  · rintro op rest ⟨⟩ b es s ⟨⟩
    exact completes_nil _
  · rintro op rest ⟨⟩ b es s ⟨⟩
    exact completes_nil _
  · rintro op rest ⟨⟩ b es s ⟨⟩
    exact fun _ _ hdates => by cases hdates

/-- The driver completes the ride with a booking still in progress, or enters the rider's OTP: the
booking is completed without `completedAt`, and the eligibility check selects nothing at any later
time. -/
theorem completed_trips_not_payable :
    let completed := History.after (Pool.step tripPool) (tripStart (ridingWorld .inProgress))
      [.start (.completeRide 9 1), .step 0 .ok, .step 0 .ok]
    let dropped := History.after (Pool.step tripPool) (tripStart (ridingWorld .inProgress))
      [.start (.verifyDropOtp 9 7 (some "1234") false), .step 0 .ok, .step 0 .ok, .step 0 .ok]
    CompletedDated (ridingWorld .inProgress).db ∧
      (¬ CompletedDated completed.now.state.db ∧
        ∀ delayMs later, heldPastDelay completed.now.state.db delayMs later = []) ∧
      ¬ CompletedDated dropped.now.state.db ∧
        ∀ delayMs later, heldPastDelay dropped.now.state.db delayMs later = [] := by
  refine ⟨ridingWorld_dated (by decide), ⟨fun h => ?_, fun _ _ => rfl⟩, fun h => ?_, fun _ _ => rfl⟩
  · exact absurd (h 7 { ridden .inProgress with status := .completed } rfl rfl) (by decide)
  · have hrow := h 7 { ridden .inProgress with
      status := .completed, dropOtpVerifiedAt := some 500 } rfl rfl
    exact absurd hrow (by decide)

end Runs

end Deliivo

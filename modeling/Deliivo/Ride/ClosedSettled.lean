import Deliivo.Booking.Confirmation
import Deliivo.Booking.Outcome
import Deliivo.Ride.Frame

/-!
# Closing an overdue ride settles its live bookings

Both sweeps close a ride on the strength of bookings that they have listed before. A payment that is
claimed after that is of a booking that the closed ride has left; a booking that is cancelled after that
is cancelled a second time, with the whole price to refund.

**If a ride is closed with a list that has every live booking of it and none that has ended, and no
payment is claimed for a ride that has been closed, then no booking of a closed ride is live and an
ended booking keeps what it ended with** (`closed_rides_settled`).

## Main definitions

* `ClosedSettled`, `BookingRecord.Kept`: the two halves of the property
* `ClosingOp`, `closingPool`: the calls, next to each other
* `ClosingStep`: the condition on their steps

## Main results

* `SettlingCall`: what a step of the calls can make of a booking
* `keeps_settling`: so it keeps both halves, if it meets the condition
* `closed_rides_settled`
-/

namespace Deliivo

open Program (Logged Pool Move Protocol)

/-! ## The property -/

/-- The ride has been closed by one of the sweeps. -/
def RideClosed (x : LoggedWorld) (rideId : ℕ) : Prop :=
  ∃ tid listed, (tid, .rideClosed rideId listed) ∈ x.log

/-- No booking of a closed ride is `DRIVER_PENDING` or `CONFIRMED`. -/
def ClosedSettled (x : LoggedWorld) : Prop :=
  ∀ id r, bookingRecords x.state.db id = some r → RideClosed x r.rideId →
    r.status.goesWithRide = false

/-- What an ended booking keeps: all of its record, but that the payment of a full ride writes last
what it has refunded. -/
def BookingRecord.Kept (before after : BookingRecord) : Prop :=
  before.status.ended = true → after = before ∨
    before.status = .rideFullRefunded ∧ after = { before with refundAmount := after.refundAmount }

/-! ## The calls -/

inductive ClosingOp
  | runRideOverdueCheck (departures : Departures)
  | reconcileDriverRideListStatuses (departures : Departures) (driverId : ℕ)
  | paymentSucceeded (settings : Settings) (paymentIntent : ℕ) (intent : Intent)
  | acceptBooking (driverId bookingId : ℕ)
  | rejectBooking (settings : Settings) (driverId bookingId : ℕ)
  | cancelBooking (passengerId bookingId : ℕ)

def ClosingOp.program : ClosingOp → Service Unit
  | .runRideOverdueCheck departures => Deliivo.runRideOverdueCheck departures
  | .reconcileDriverRideListStatuses departures driverId =>
    Deliivo.reconcileDriverRideListStatuses departures driverId
  | .paymentSucceeded settings paymentIntent intent => do
    let _ ← applyStripePaymentSucceededToBooking settings paymentIntent intent
  | .acceptBooking driverId bookingId => Deliivo.acceptBooking driverId bookingId
  | .rejectBooking settings driverId bookingId => Deliivo.rejectBooking settings driverId bookingId
  | .cancelBooking passengerId bookingId => Deliivo.cancelBooking passengerId bookingId

/-- Whether the call applies a payment, which alone writes a booking twice. -/
def ClosingOp.appliesPayment : ClosingOp → Bool
  | .paymentSucceeded .. => true
  | _ => false

/-- The calls, next to each other. -/
abbrev closingPool := servicePool ClosingOp.program besidesBookings

/-- The condition on the steps of the calls: a ride is closed with a list that has every live booking of
it, and none that has ended; no payment is claimed for a closed ride. -/
structure ClosingStep (_op : ClosingOp) (_tid : ℕ) (x : LoggedWorld) (_reply : Reply)
    (events : List Event) : Prop where
  listsLive : ∀ rideId listed, .rideClosed rideId listed ∈ events →
    ∀ id r, bookingRecords x.state.db id = some r → r.rideId = rideId →
      r.status.goesWithRide = true → id ∈ listed
  listsNoneEnded : ∀ rideId listed, .rideClosed rideId listed ∈ events →
    ∀ id ∈ listed, ∀ r, bookingRecords x.state.db id = some r → r.status.ended = false
  claimsOpen : ∀ id r, .bookingClaimed id ∈ events → bookingRecords x.state.db id = some r →
    ¬ RideClosed x r.rideId

/-! ## What a step makes of a booking -/

/-- What a step can make of a booking, but for the refund of a full ride. -/
inductive BookingRecord.Becomes (events : List Event) (id : ℕ) (before : BookingRecord) :
    BookingRecord → Prop
  | same : Becomes events id before before
  | ended {after : BookingRecord} (hlive : before.status.ended = false)
      (hafter : after.status.goesWithRide = false) (hride : after.rideId = before.rideId) :
      Becomes events id before after
  | accepted {after : BookingRecord} (hpending : before.status = .driverPending)
      (hride : after.rideId = before.rideId) : Becomes events id before after
  | claimed {after : BookingRecord} (hclaimed : .bookingClaimed id ∈ events)
      (hpending : before.status = .paymentPending) (hride : after.rideId = before.rideId)
      (hopen : ∀ rideId listed, .rideClosed rideId listed ∉ events) :
      Becomes events id before after
  | closed {after : BookingRecord} (rideId : ℕ) (listed : List ℕ)
      (hclosed : .rideClosed rideId listed ∈ events) (hlisted : id ∈ listed)
      (hafter : after.status = .cancelled) (hride : after.rideId = before.rideId) :
      Becomes events id before after

/-- What a step does to the bookings: those that a ride is closed with are cancelled. -/
structure SettlingOutcome (d : Db) (events : List Event) (d' : Db) : Prop where
  rows : RowsBecome (BookingRecord.Becomes events) (bookingRecords d) (bookingRecords d')
  closed : ∀ rideId listed, .rideClosed rideId listed ∈ events → ∀ id ∈ listed, ∀ r,
    bookingRecords d' id = some r → r.status = .cancelled

/-- A step of a call has such an outcome. -/
def SettlingCall {β : Type} (c : Call β) : Prop :=
  ∀ i w, SettlingOutcome w.db (c.exec i w).2.1 (c.exec i w).2.2.db

section Outcome

variable {x y : LoggedWorld} {d d' : Db} {events : List Event} {op : ClosingOp} {tid : ℕ}
  {reply : Reply}

theorem BookingRecord.Kept.refl (r : BookingRecord) : r.Kept r := fun _ => Or.inl rfl

theorem BookingRecord.Kept.trans {r s t : BookingRecord} (h : r.Kept s) (h' : s.Kept t) :
    r.Kept t := by
  intro hended
  rcases h hended with rfl | ⟨hfull, hs⟩
  · exact h' hended
  · have hstatus : s.status = .rideFullRefunded := by rw [hs, hfull]
    rcases h' (by rw [hstatus]; rfl) with rfl | ⟨-, ht⟩
    · exact Or.inr ⟨hfull, hs⟩
    · refine Or.inr ⟨hfull, ?_⟩
      rw [ht, hs]

/-- **A step changes no booking that has ended**, if it meets the condition. -/
theorem SettlingOutcome.unchanged (h : SettlingOutcome x.state.db events d')
    (hcond : ClosingStep op tid x reply events) :
    RowsKeep (fun before after : BookingRecord => before.status.ended = true → after = before)
      (bookingRecords x.state.db) (bookingRecords d') := by
  intro id r hr
  obtain ⟨r', hr', hbecomes⟩ := h.rows.some_of hr
  refine ⟨r', hr', fun hended => ?_⟩
  cases hbecomes with
  | same => rfl
  | ended hlive => rw [hlive] at hended; cases hended
  | accepted hpending | claimed _ hpending => rw [hpending] at hended; cases hended
  | closed rideId listed hclosed hlisted =>
    rw [hcond.listsNoneEnded rideId listed hclosed id hlisted r hr] at hended
    cases hended

/-- The closed rides after a step. -/
theorem rideClosed_next {rideId : ℕ} {s : World} :
    RideClosed (x.next tid events s) rideId ↔
      RideClosed x rideId ∨ ∃ listed, .rideClosed rideId listed ∈ events := by
  constructor
  · rintro ⟨t, listed, hmem⟩
    rcases Logged.mem_next_log.mp hmem with hold | ⟨-, hnew⟩
    · exact Or.inl ⟨t, listed, hold⟩
    · exact Or.inr ⟨listed, hnew⟩
  · rintro (⟨t, listed, hmem⟩ | ⟨listed, hnew⟩)
    · exact ⟨t, listed, Logged.mem_next_log.mpr (Or.inl hmem)⟩
    · exact ⟨tid, listed, Logged.mem_next_log.mpr (Or.inr ⟨rfl, hnew⟩)⟩

/-- **A step leaves the closed rides settled**, if it meets the condition. -/
theorem SettlingOutcome.settled {s : World} (h : SettlingOutcome x.state.db events s.db)
    (hcond : ClosingStep op tid x reply events) (hx : ClosedSettled x) :
    ClosedSettled (x.next tid events s) := by
  intro id r' hr' hclosed
  obtain ⟨r, hr, hbecomes⟩ := h.rows.of_some hr'
  have hride : r'.rideId = r.rideId := by
    cases hbecomes with
    | same => rfl
    | ended _ _ hride | accepted _ hride | claimed _ _ hride | closed _ _ _ _ _ hride => exact hride
  rw [hride] at hclosed
  rcases rideClosed_next.mp hclosed with hold | ⟨listed, hnew⟩
  · -- the ride was closed before: what is left of its bookings is not taken up again
    have hsettled := hx id r hr hold
    cases hbecomes with
    | same => exact hsettled
    | ended _ hafter => exact hafter
    | accepted hpending => rw [hpending] at hsettled; cases hsettled
    | claimed hclaimed => exact absurd hold (hcond.claimsOpen id r hclaimed hr)
    | closed rideId listed _ _ hafter => rw [hafter]; rfl
  · -- the ride is closed by this step: a live booking is on the list
    cases hlive : r.status.goesWithRide with
    | true =>
      have hlisted := hcond.listsLive r.rideId listed hnew id r hr rfl hlive
      rw [h.closed r.rideId listed hnew id hlisted r' hr']
      rfl
    | false =>
      cases hbecomes with
      | same => exact hlive
      | ended _ hafter => exact hafter
      | accepted hpending => rw [hpending] at hlive; cases hlive
      | claimed _ _ _ hopen => exact absurd hnew (hopen _ _)
      | closed rideId listed _ _ hafter => rw [hafter]; rfl

end Outcome

/-! ## The calls, step by step -/

section Calls

variable {d d' : Db} {events : List Event}

/-- The events that close no ride. -/
def ClosesNoRide (e : Event) : Prop := ∀ rideId listed, e ≠ .rideClosed rideId listed

theorem settlingOutcome_of_rows
    (hrows : RowsBecome (BookingRecord.Becomes events) (bookingRecords d) (bookingRecords d'))
    (hevents : ∀ e ∈ events, ClosesNoRide e) : SettlingOutcome d events d' where
  rows := hrows
  closed rideId listed h := absurd rfl (hevents _ h rideId listed)

theorem settlingOutcome_same (hsame : bookingRecords d' = bookingRecords d)
    (hevents : ∀ e ∈ events, ClosesNoRide e) : SettlingOutcome d events d' := by
  refine settlingOutcome_of_rows ?_ hevents
  rw [hsame]
  exact .refl (fun _ _ => .same) _

/-- A ride that is closed without a booking. -/
theorem settlingOutcome_expired (hsame : bookingRecords d' = bookingRecords d)
    (hevents : ∀ e ∈ events, ∃ rideId, e = .rideClosed rideId []) : SettlingOutcome d events d' where
  rows := by
    rw [hsame]
    exact .refl (fun _ _ => .same) _
  closed rideId listed h id hid := by
    obtain ⟨_, heq⟩ := hevents _ h
    obtain ⟨-, rfl⟩ := Event.rideClosed.injEq .. ▸ heq
    cases hid

theorem settlingOutcome_nil (d : Db) : SettlingOutcome d [] d :=
  settlingOutcome_same rfl fun _ he => absurd he List.not_mem_nil

theorem settlingCall_of_leaves {β : Type} {c : Call β} (h : c.Leaves (recordsFrame ClosesNoRide)) :
    SettlingCall c := by
  intro i w
  obtain ⟨hdb, -, hevents⟩ := h.exec i w
  exact settlingOutcome_same hdb hevents

theorem settling_of_leaves {α : Type} {p : Service α} (h : p.Leaves (recordsFrame ClosesNoRide)) :
    p.Issues fun {_} c => SettlingCall c :=
  h.mono fun _ hc => settlingCall_of_leaves hc

theorem settlingCall_transact {β : Type} {body : Ctx → Tx β} {report : β → List Event}
    (h : ∀ (w : World) b d, (body ⟨w.now, w.db.freshId⟩).atomic w.db = .ok (b, d) →
      SettlingOutcome w.db (report b) d) : SettlingCall (.transact body report) := by
  intro i w
  obtain ⟨b, d, hbody, hexec⟩ | ⟨e, hexec⟩ := exec_transact body report i w
  · rw [hexec]
    exact h w b d hbody
  · rw [hexec]
    exact settlingOutcome_nil _

/-- A call that ends bookings that have not ended. -/
theorem settlingCall_of_ending {guard : BookingStatus → Bool} {β : Type} {c : Call β}
    (hguard : ∀ status, guard status = true → status.ended = false)
    (h : EndingCall guard ClosesNoRide c) : SettlingCall c := by
  intro i w
  obtain ⟨hrows, hevents⟩ := h i w
  refine settlingOutcome_of_rows (hrows.mono ?_) hevents
  rintro id before after (rfl | ⟨hlive, hcancelled, hride⟩)
  · exact .same
  · exact .ended (hguard _ hlive) (by rw [hcancelled]; rfl) hride

theorem closesNoRide_paymentWritten (paymentId : ℕ) (read written : PaymentStatus) :
    ClosesNoRide (.paymentWritten paymentId read written) := fun _ _ => nofun

theorem closesNoRide_ended (bookingId : ℕ) (saw : Bool) :
    ClosesNoRide (.bookingEnded bookingId saw) := fun _ _ => nofun

/-! ### The rider and the driver -/

theorem settling_cancelBooking (passengerId bookingId : ℕ) :
    (cancelBooking passengerId bookingId).Issues fun {_} c => SettlingCall c := by
  refine (ending_cancelBooking passengerId closesNoRide_paymentWritten
    (closesNoRide_ended bookingId)).mono fun _ hc => settlingCall_of_ending ?_ hc
  intro status h
  cases status <;> trivial

theorem settling_rejectBooking (settings : Settings) (driverId bookingId : ℕ) :
    (rejectBooking settings driverId bookingId).Issues fun {_} c => SettlingCall c := by
  refine (ending_rejectBooking settings driverId closesNoRide_paymentWritten
    (closesNoRide_ended bookingId)).mono fun _ hc => settlingCall_of_ending ?_ hc
  intro status h
  rw [beq_iff_eq.mp h]
  rfl

theorem settling_acceptBooking (driverId bookingId : ℕ) :
    (acceptBooking driverId bookingId).Issues fun {_} c => SettlingCall c := by
  refine (settling_of_leaves (leaves_requireDriverBooking _ _)).bind fun found => ?_
  refine (settling_of_leaves (leaves_sql (leaves_findUnique _))).bind fun driver => ?_
  split_ifs with hverified hstatus
  · trivial
  · trivial
  refine (settling_of_leaves (leaves_assertDecisionWindowOpen _)).bind fun _ => ?_
  refine ((Program.issues_perform _).mpr (settlingCall_transact fun w b d hbody => ?_)).bind
    fun confirmed => ?_
  · obtain ⟨-, rfl⟩ := Prod.mk.injEq .. ▸ Except.ok.inj hbody
    refine settlingOutcome_of_rows ?_ fun e he => absurd he List.not_mem_nil
    -- the write asks for the status once more
    refine Table.rowsBecome_modifyWhere (fun _ _ => .same) fun id r hr hholds => ?_
    rw [Table.holds, show (bookings.get w.db).get? id = some r from hr] at hholds
    have hguard : (id == bookingId && r.status == .driverPending && r.seatsReservedAt.isSome)
        = true := hholds
    simp only [Bool.and_eq_true, beq_iff_eq] at hguard
    exact .accepted hguard.1.2 rfl
  · split_ifs
    · trivial
    · exact settling_of_leaves (leaves_notify.bind fun _ => leaves_notify)

/-! ### The sweeps -/

/-- What the cancelling of the listed bookings can make of a booking. -/
def BookingRecord.CancelledWith (listed : List ℕ) (id : ℕ) (before after : BookingRecord) : Prop :=
  after = before ∨ id ∈ listed ∧ after.status = .cancelled ∧ after.rideId = before.rideId

theorem BookingRecord.CancelledWith.trans {listed : List ℕ} {id : ℕ} {r s t : BookingRecord}
    (h : CancelledWith listed id r s) (h' : CancelledWith listed id s t) :
    CancelledWith listed id r t := by
  rcases h with rfl | ⟨hid, hs, hride⟩
  · exact h'
  · rcases h' with rfl | ⟨-, ht, hride'⟩
    · exact Or.inr ⟨hid, hs, hride⟩
    · exact Or.inr ⟨hid, ht, hride'.trans hride⟩

/-- All of the listed bookings are cancelled. -/
def ListedCancelled (listed : List ℕ) (d : Db) : Prop :=
  ∀ id ∈ listed, ∀ r, bookingRecords d id = some r → r.status = .cancelled

/-- They stay so while the amounts are written. -/
theorem listedCancelled_modify {listed : List ℕ} {f : Booking → Booking}
    (hf : ∀ b, (f b).status = b.status) (h : ListedCancelled listed d) (j : ℕ) :
    ListedCancelled listed { d with bookings := d.bookings.modify j f } := by
  intro id hid r hr
  have hview : (d.bookings.modify j f).viewed Booking.status = d.bookings.viewed Booking.status :=
    Table.viewed_modify_of_same hf j
  obtain ⟨b, hb, rfl⟩ := Table.viewed_eq_some.mp hr
  have hstatus : d.bookings.viewed Booking.status id = some b.status := by
    rw [← hview]
    exact Table.viewed_of_get? hb
  obtain ⟨b₀, hb₀, heq⟩ := Table.viewed_eq_some.mp hstatus
  exact heq.symm.trans (h id hid b₀.record (Table.viewed_of_get? hb₀))

theorem listedCancelled_of_records {listed : List ℕ} (hsame : bookingRecords d' = bookingRecords d)
    (h : ListedCancelled listed d) : ListedCancelled listed d' := by
  intro id hid r hr
  rw [hsame] at hr
  exact h id hid r hr

/-- The bookings that a ride is closed with are cancelled, and no other. -/
theorem cancelOverdueBookings_records {ride : Ride} {activeBookings : List (ℕ × Booking)} {now : ℕ}
    {u : Unit} (hrun : (cancelOverdueBookings ride activeBookings now).atomic d = .ok (u, d')) :
    RowsBecome (BookingRecord.CancelledWith (activeBookings.map Prod.fst))
      (bookingRecords d) (bookingRecords d') ∧
    ListedCancelled (activeBookings.map Prod.fst) d' := by
  have hrefl : ∀ id r, BookingRecord.CancelledWith (activeBookings.map Prod.fst) id r r :=
    fun _ _ => Or.inl rfl
  have htrans : ∀ id r s t, BookingRecord.CancelledWith (activeBookings.map Prod.fst) id r s →
      BookingRecord.CancelledWith (activeBookings.map Prod.fst) id s t →
      BookingRecord.CancelledWith (activeBookings.map Prod.fst) id r t :=
    fun _ _ _ _ h h' => h.trans h'
  obtain ⟨cancelled, d₁, hmany, hrest⟩ := Tx.atomic_bind.mp hrun
  obtain ⟨-, rfl⟩ := Prod.mk.injEq .. ▸ Except.ok.inj hmany
  -- all of them are cancelled in one statement, and stay so while the amounts are written
  refine Tx.atomic_keeps (I := fun d₂ =>
    RowsBecome (BookingRecord.CancelledWith (activeBookings.map Prod.fst))
      (bookingRecords d) (bookingRecords d₂) ∧
    ListedCancelled (activeBookings.map Prod.fst) d₂) ?_ ⟨?_, ?_⟩ hrest
  · refine Program.Issues.forEach_mem fun booking hbooking => ?_
    have hlisted : booking.1 ∈ activeBookings.map Prod.fst := List.mem_map_of_mem hbooking
    refine Program.Issues.bind ((Program.issues_perform _).mpr fun d₂ hd₂ => ?_) fun _ =>
      Program.Issues.bind ?_ fun _ => trivial
    · constructor
      · refine hd₂.1.trans htrans
          (Table.rowsBecome_modify hrefl fun r hr => Or.inr ⟨hlisted, ?_, rfl⟩)
        exact hd₂.2 booking.1 hlisted r.record (Table.viewed_of_get? hr)
      · refine listedCancelled_modify ?_ hd₂.2 booking.1
        exact fun _ => rfl
    · refine (records_releaseBookingSeats _).mono fun c hc d₂ hd₂ => ?_
      refine ⟨?_, listedCancelled_of_records (hc d₂ d₂) hd₂.2⟩
      rw [hc d₂ d₂]
      exact hd₂.1
  · refine Table.rowsBecome_modifyWhere hrefl fun id r hr hholds => Or.inr ⟨?_, rfl, rfl⟩
    rw [Table.holds, show (bookings.get d).get? id = some r from hr] at hholds
    obtain ⟨booking, hmem, hid⟩ := List.any_eq_true.mp hholds
    exact List.mem_map.mpr ⟨booking, hmem, beq_iff_eq.mp hid⟩
  · intro id hid r hr
    obtain ⟨booking, hmem, rfl⟩ := List.mem_map.mp hid
    obtain ⟨b, hb, rfl⟩ := Table.viewed_eq_some.mp hr
    have hrow : (d.bookings.modifyWhere
        (fun id _ => d.bookings.holds (fun id _ => activeBookings.any fun b => b.1 == id) id)
        (Booking.cancelledOverdue now)).get? booking.1 = some b := hb
    rw [Table.get?_modifyWhere] at hrow
    obtain ⟨b₀, hb₀, rfl⟩ := Option.map_eq_some_iff.mp hrow
    have hholds : d.bookings.holds (fun id _ => activeBookings.any fun b => b.1 == id)
        booking.1 = true := by
      rw [Table.holds, hb₀]
      exact List.any_eq_true.mpr ⟨booking, hmem, beq_self_eq_true _⟩
    rw [if_pos hholds]
    rfl

/-- **The closing transaction** cancels the bookings on its list, and no other. -/
theorem settlingCall_closeOverdueRideTx (rideId : ℕ) (ride : Ride)
    (activeBookings : List (ℕ × Booking)) (now : ℕ) :
    SettlingCall (.transact (fun _ => closeOverdueRideTx rideId ride activeBookings now)
      (reportRideClosed rideId activeBookings)) := by
  refine settlingCall_transact fun w closed d hbody => ?_
  obtain ⟨rows, d₁, hrows, hrest⟩ := Tx.atomic_bind.mp hbody
  obtain ⟨-, rfl⟩ := Prod.mk.injEq .. ▸ Except.ok.inj hrows
  by_cases hnone : rows = []
  · -- the ride was not to be closed any more
    rw [if_pos hnone] at hrest
    obtain ⟨rfl, rfl⟩ := Prod.mk.injEq .. ▸ Except.ok.inj hrest
    exact settlingOutcome_same rfl fun _ he => absurd he List.not_mem_nil
  rw [if_neg hnone] at hrest
  by_cases hempty : activeBookings = []
  · rw [if_pos hempty] at hrest
    obtain ⟨rfl, rfl⟩ := Prod.mk.injEq .. ▸ Except.ok.inj hrest
    rw [hempty]
    exact settlingOutcome_expired rfl fun e he => ⟨rideId, List.mem_singleton.mp he⟩
  · rw [if_neg hempty] at hrest
    obtain ⟨u, d₂, hcancel, heq⟩ := Tx.atomic_bind.mp hrest
    obtain ⟨rfl, rfl⟩ := Prod.mk.injEq .. ▸ Except.ok.inj heq
    obtain ⟨hrows, hlisted⟩ := cancelOverdueBookings_records hcancel
    constructor
    · refine RowsBecome.mono ?_ hrows
      rintro id before after (rfl | ⟨hid, hafter, hride⟩)
      · exact .same
      · exact .closed rideId _ (List.mem_singleton_self _) hid hafter hride
    · intro rideId' listed h
      obtain ⟨rfl, rfl⟩ := Event.rideClosed.injEq .. ▸ List.mem_singleton.mp h
      exact hlisted

theorem settling_sql {β : Type} {s : Stmt β} (h : s.Leaves bookingRecords) :
    (sql s).Issues fun {_} c => SettlingCall c := settling_of_leaves (leaves_sql h)

theorem settling_checkOverdueRide (departureAt : Option ℕ) (now : ℕ) (listed : SweptRide) :
    (checkOverdueRide departureAt now listed).Issues fun {_} c => SettlingCall c := by
  cases departureAt with
  | none => trivial
  | some departureAt =>
    refine Program.Issues.bind ?_ fun _ => ?_
    · unfold promoteOverdueRide
      split_ifs
      · exact (settling_sql fun _ _ => rfl).bind fun _ =>
          settling_of_leaves (leaves_promoted (fun _ _ => rfl) _)
      · trivial
    · split_ifs
      · refine (settling_of_leaves leaves_clock).bind fun now => ?_
        refine ((Program.issues_perform _).mpr (settlingCall_closeOverdueRideTx _ _ _ _)).bind
          fun closed => ?_
        exact settling_of_leaves (leaves_closed (fun _ _ => rfl) _ _ _)
      · exact settling_of_leaves (leaves_alertOverdueCompletion (fun _ _ => rfl) _ _ _)

theorem settling_runRideOverdueCheck (departures : Departures) :
    (runRideOverdueCheck departures).Issues fun {_} c => SettlingCall c := by
  refine (settling_of_leaves leaves_clock).bind fun now => ?_
  refine (settling_sql fun _ _ => rfl).bind fun listed => ?_
  exact Program.Issues.forEach fun ride => settling_checkOverdueRide _ _ _

theorem settling_reconcileListedRide (driverId now : ℕ) (departureAt : Option ℕ)
    (listed : SweptRide) :
    (reconcileListedRide driverId now departureAt listed).Issues fun {_} c => SettlingCall c := by
  cases departureAt with
  | none => trivial
  | some departureAt =>
    dsimp only [reconcileListedRide]
    split_ifs
    · trivial
    · refine ((Program.issues_perform _).mpr (settlingCall_transact fun w expired d hbody => ?_)).bind
        fun _ => trivial
      obtain ⟨-, rfl⟩ := Prod.mk.injEq .. ▸ Except.ok.inj hbody
      refine settlingOutcome_expired rfl fun e he => ?_
      obtain ⟨id, -, rfl⟩ := List.mem_map.mp he
      exact ⟨id, rfl⟩
    · exact (settling_sql fun _ _ => rfl).bind fun _ => trivial
    · trivial

theorem settling_reconcileDriverRideListStatuses (departures : Departures) (driverId : ℕ) :
    (reconcileDriverRideListStatuses departures driverId).Issues fun {_} c => SettlingCall c := by
  refine (settling_of_leaves leaves_clock).bind fun now => ?_
  refine (settling_sql fun _ _ => rfl).bind fun candidates => ?_
  exact Program.Issues.forEach fun listed => settling_reconcileListedRide _ _ _ _

/-! ### The payment -/

/-- What stays as it is while a booking that has been claimed is matched and takes its seats: the other
bookings, and whose rides they all are of. -/
def besidesClaimed (bookingId : ℕ) (d : Db) : (ℕ → Option BookingRecord) × (ℕ → Option ℕ) :=
  (fun id => if id = bookingId then none else bookingRecords d id,
    d.bookings.viewed Booking.rideId)

theorem besidesClaimed_modify (bookingId : ℕ) (d : Db) (f : Booking → Booking)
    (hf : ∀ b, (f b).rideId = b.rideId) :
    besidesClaimed bookingId { d with bookings := d.bookings.modify bookingId f } =
      besidesClaimed bookingId d := by
  refine Prod.ext (funext fun id => ?_) (Table.viewed_modify_of_same hf bookingId)
  simp only [besidesClaimed]
  split_ifs with hid
  · rfl
  · exact (Table.viewed_modify _ _).trans (if_neg hid)

theorem leaves_besidesClaimed (bookingId : ℕ) (platformFeePercent : Option ℚ) (ctx : Ctx) :
    Tx.Leaves (besidesClaimed bookingId) (do
      let (booking, ride) ← Program.perform (findBookingWithRideOrThrow bookingId)
      confirmRequestBooking platformFeePercent ctx bookingId
      reserveSeatsForBooking (booking.hold ride.totalSeats) (some bookingId) false
      return Applied.claimed : Tx Applied) := by
  refine ((Program.issues_perform _).mpr fun _ _ => rfl).bind fun found => ?_
  refine (leaves_confirmRequestBooking (fun d f hf => besidesClaimed_modify bookingId d f hf)
    (fun _ _ => rfl) (fun _ _ => rfl) (fun _ _ => rfl) (fun _ _ _ => ?_) _ _).bind fun _ => ?_
  · exact leaves_ensureRequestPayment (fun _ _ => rfl) _ _ _ _
  · exact (leaves_reserveSeatsForBooking (fun _ _ => rfl) (fun _ _ _ => rfl) _ _ _).bind
      fun _ => trivial

/-- A write of the bookings that wait for their payment, and that none does. -/
theorem records_of_none {bookingId : ℕ} {f : Booking → Booking}
    (h : (updateMany bookings (isPendingBooking bookingId) f).answer d = []) :
    bookingRecords ((updateMany bookings (isPendingBooking bookingId) f).write d d) =
      bookingRecords d := by
  funext id
  refine (Table.viewed_modifyWhere _ _).trans (Option.map_congr fun b hb => ?_)
  rw [if_neg]
  intro hholds
  rw [Table.holds, show (bookings.get d).get? id = some b from hb] at hholds
  have hmem : id ∈ (updateMany bookings (isPendingBooking bookingId) f).answer d :=
    List.mem_map.mpr ⟨(id, b), Table.mem_filter_iff.mpr ⟨hb, hholds⟩, rfl⟩
  rw [h] at hmem
  cases hmem

/-- **The claim** takes up a booking that waits for its payment, and no other. -/
theorem settlingCall_claimCapturedBooking (settings : Settings) (bookingId paymentIntent : ℕ)
    (intent : Intent) (now : ℕ) :
    SettlingCall (.transact (claimCapturedBooking settings bookingId paymentIntent intent now)
      (Applied.events bookingId)) := by
  refine settlingCall_transact fun w applied d hbody => ?_
  obtain ⟨claimed, d₁, hclaim, hrest⟩ := Tx.atomic_bind.mp hbody
  obtain ⟨rfl, rfl⟩ := Prod.mk.injEq .. ▸ Except.ok.inj hclaim
  by_cases hnone : (updateMany bookings (isPendingBooking bookingId)
      (Booking.withCapture paymentIntent intent now)).answer w.db = []
  · have hsame := records_of_none hnone
    rw [if_pos hnone] at hrest
    obtain ⟨rfl, rfl⟩ := Prod.mk.injEq .. ▸ Except.ok.inj hrest
    exact settlingOutcome_same hsame fun _ he => absurd he List.not_mem_nil
  · obtain ⟨b, hb, hpending⟩ := pending_of_claimed hnone
    rw [if_neg hnone] at hrest
    have hreturns : applied = .claimed := by
      obtain ⟨found, d₂, -, hrest⟩ := Tx.atomic_bind.mp hrest
      obtain ⟨u, d₃, -, hrest⟩ := Tx.atomic_bind.mp hrest
      obtain ⟨u, d₄, -, hrest⟩ := Tx.atomic_bind.mp hrest
      exact (Prod.mk.injEq .. ▸ Except.ok.inj hrest).1.symm
    subst hreturns
    have hview := (leaves_besidesClaimed bookingId settings.platformFeePercent _).atomic hrest
    -- the first write takes up the booking, and what follows touches no other
    have hfirst : ∀ id, bookingRecords ((updateMany bookings (isPendingBooking bookingId)
        (Booking.withCapture paymentIntent intent now)).write w.db w.db) id =
        if id = bookingId then some (b.withCapture paymentIntent intent now).record
        else bookingRecords w.db id := by
      intro id
      split_ifs with hid
      · rw [hid]
        exact Table.viewed_of_get? (get?_claimed hb hpending)
      · exact congrArg (Option.map Booking.record) (get?_claimed_ne hid)
    have hrides : d.bookings.viewed Booking.rideId = w.db.bookings.viewed Booking.rideId := by
      refine (congrArg Prod.snd hview).trans ?_
      exact Table.viewed_modifyWhere_of_same
        (f := Booking.withCapture paymentIntent intent now) (fun _ => rfl) _
    refine settlingOutcome_of_rows (fun id => ?_) fun e he => ?_
    · by_cases hid : id = bookingId
      · subst hid
        have hride : d.bookings.viewed Booking.rideId id = some b.rideId := by
          rw [hrides]
          exact Table.viewed_of_get? hb
        obtain ⟨b', hb', hride⟩ := Table.viewed_eq_some.mp hride
        rw [show bookingRecords d id = some b'.record from Table.viewed_of_get? hb',
          show bookingRecords w.db id = some b.record from Table.viewed_of_get? hb]
        exact .some (.claimed (List.mem_singleton_self _) hpending hride fun _ _ h => by
          cases List.mem_singleton.mp h)
      · have hothers := congrFun (congrArg Prod.fst hview) id
        simp only [besidesClaimed, if_neg hid, hfirst] at hothers
        rw [hothers]
        exact RowsBecome.refl (fun _ _ => .same) _ id
    · rw [List.mem_singleton.mp he]
      exact fun _ _ => nofun

theorem settling_claimPayment (settings : Settings) (bookingId paymentIntent : ℕ) (intent : Intent)
    (now : ℕ) : (claimPayment settings bookingId paymentIntent intent now).Issues
      fun {_} c => SettlingCall c := by
  refine Program.Issues.tryCatch ((Program.issues_perform _).mpr
    (settlingCall_claimCapturedBooking _ _ _ _ _)) fun e => ?_
  split_ifs <;> trivial

/-- A booking of a full ride is ended for its refund. -/
theorem settlingCall_claimRideFull (bookingId paymentIntent : ℕ) :
    SettlingCall (.transact (fun ctx => Program.command (claimRideFull bookingId paymentIntent ctx))
      fun _ => []) := by
  refine settlingCall_transact fun w claimed d hbody => ?_
  obtain ⟨-, rfl⟩ := Prod.mk.injEq .. ▸ Except.ok.inj hbody
  refine settlingOutcome_of_rows ?_ fun _ he => absurd he List.not_mem_nil
  refine Table.rowsBecome_modifyWhere (fun _ _ => .same) fun id r hr hholds => ?_
  rw [Table.holds, show (bookings.get w.db).get? id = some r from hr] at hholds
  have hpending := (isPendingBooking_iff.mp hholds).2
  refine .ended ?_ rfl rfl
  rw [show r.record.status = .paymentPending from hpending]
  rfl

end Calls

/-! ## The calls, next to each other -/

/-- What the calls may do to a booking that another has ended. -/
def SettledRely (x y : LoggedWorld) : Prop :=
  RowsKeep BookingRecord.Kept (bookingRecords x.state.db) (bookingRecords y.state.db)

theorem SettledRely.refl (x : LoggedWorld) : SettledRely x x := RowsKeep.refl .refl _

/-- The calls keep the closed rides settled and the ended bookings as they ended. -/
def settledProtocol : Protocol closingPool ClosingStep fun _ _ => True where
  Inv := ClosedSettled
  Rely _ := SettledRely
  Guar _ := SettledRely
  Post _ _ _ := True
  rely_refl _ := SettledRely.refl
  rely_trans h h' := h.trans (fun _ _ _ => .trans) h'
  guar_rely _ _ h := h
  env_inv h _ := h
  env_rely _ _ _ := SettledRely.refl _
  post_stable _ _ _ := trivial

section Safe

variable {op : ClosingOp} {tid : ℕ} {A : LoggedWorld → Prop}

/-- **A step of the calls keeps the protocol**, and what the others keep. -/
theorem keeps_settling {β : Type} {c : Call β} (hA : settledProtocol.Stable tid A)
    (h : SettlingCall c) {y : LoggedWorld} (hy : A y) (hinv : settledProtocol.Inv y) :
    settledProtocol.Keeps op tid c y fun _ => A := by
  intro i b es s hexec hcond
  obtain ⟨rfl, rfl, rfl⟩ := exec_eq hexec
  have hkept : SettledRely y (y.next tid (c.exec i y.state).2.1 (c.exec i y.state).2.2) :=
    ((h i y.state).unchanged hcond).mono fun _ _ hsame hended => Or.inl (hsame hended)
  have hsettled := (h i y.state).settled hcond hinv
  exact ⟨hkept, hsettled, hA _ _ hy hkept hsettled⟩

theorem safe_settling {α : Type} {p : Service α} (hA : settledProtocol.Stable tid A)
    (h : p.Issues fun {_} c => SettlingCall c) {x : LoggedWorld} (hx : A x) :
    settledProtocol.Safe op tid (fun _ => A) p x :=
  Protocol.Safe.issues hA (h.mono fun _ hc _ hy hinv => keeps_settling hA hc hy hinv) hx

theorem stable_true : settledProtocol.Stable tid fun _ => True := fun _ _ _ _ _ => trivial

/-- The booking has been ended for the refund of a full ride. -/
def FullRefunded (bookingId : ℕ) (x : LoggedWorld) : Prop :=
  ∃ r, bookingRecords x.state.db bookingId = some r ∧ r.status = .rideFullRefunded

theorem SettledRely.fullRefunded {bookingId : ℕ} {x y : LoggedWorld} (h : SettledRely x y)
    (hx : FullRefunded bookingId x) : FullRefunded bookingId y := by
  obtain ⟨r, hr, hstatus⟩ := hx
  obtain ⟨r', hr', hkept⟩ := h bookingId r hr
  refine ⟨r', hr', ?_⟩
  rcases hkept (by rw [hstatus]; rfl) with rfl | ⟨-, hsame⟩
  · exact hstatus
  · rw [hsame, hstatus]

theorem stable_fullRefunded (bookingId : ℕ) :
    settledProtocol.Stable tid (FullRefunded bookingId) := fun _ _ hx h _ => h.fullRefunded hx

variable {bookingId paymentIntent : ℕ}

theorem keeps_claimRideFull {y : LoggedWorld} (hinv : settledProtocol.Inv y) :
    settledProtocol.Keeps op tid
      (.transact (fun ctx => Program.command (claimRideFull bookingId paymentIntent ctx)) fun _ => [])
      y fun r z => ∀ claimed, r = .ok claimed → claimed ≠ [] → FullRefunded bookingId z := by
  intro i r es s hexec hcond
  obtain ⟨hguar, hinv', -⟩ := keeps_settling stable_true
    (settlingCall_claimRideFull bookingId paymentIntent) trivial hinv i r es s hexec hcond
  refine ⟨hguar, hinv', ?_⟩
  obtain ⟨rfl, rfl, rfl⟩ := exec_eq hexec
  obtain ⟨b, d, hbody, heq⟩ | ⟨e, heq⟩ := exec_transact
    (fun ctx => Program.command (claimRideFull bookingId paymentIntent ctx)) (fun _ => []) i y.state
  · rw [heq]
    rintro claimed ⟨⟩ hclaimed
    obtain ⟨rfl, rfl⟩ := Prod.mk.injEq .. ▸ Except.ok.inj hbody
    obtain ⟨b, hb, hpending⟩ := pending_of_claimed hclaimed
    exact ⟨_, Table.viewed_of_get? (get?_claimed hb hpending), rfl⟩
  · rw [heq]
    rintro claimed ⟨⟩

/-- What the refund of a full ride makes of a booking. -/
def BookingRecord.RefundWritten (refundAmount : ℤ) (before after : BookingRecord) : Prop :=
  after = before ∨
    before.status = .rideFullRefunded ∧ after = { before with refundAmount := some refundAmount }

theorem BookingRecord.RefundWritten.kept {refundAmount : ℤ} {before after : BookingRecord}
    (h : before.RefundWritten refundAmount after) : before.Kept after := by
  intro hended
  rcases h with rfl | ⟨hfull, rfl⟩
  · exact Or.inl rfl
  · exact Or.inr ⟨hfull, rfl⟩

theorem refundWritten_modify {refundAmount : ℤ} {f : Booking → Booking} {d : Db}
    (hf : ∀ b, (f b).record = { b.record with refundAmount := some refundAmount })
    (hfull : ∀ b, d.bookings.get? bookingId = some b → b.status = .rideFullRefunded) :
    RowsBecome (fun _ => BookingRecord.RefundWritten refundAmount) (bookingRecords d)
      (bookingRecords { d with bookings := d.bookings.modify bookingId f }) := by
  apply Table.rowsBecome_modify
  · exact fun _ _ => Or.inl rfl
  · exact fun b hb => Or.inr ⟨hfull b hb, hf b⟩

/-- **The refund of a full ride** writes the amount on a booking that has ended for it. -/
theorem keeps_writeRefund {refundAmount : ℤ} {f : Ctx → Booking → Booking}
    (hf : ∀ ctx b, (f ctx b).record = { b.record with refundAmount := some refundAmount })
    {y : LoggedWorld} (hy : FullRefunded bookingId y) (hinv : settledProtocol.Inv y) :
    settledProtocol.Keeps op tid
      (.transact (fun ctx => Program.perform (update bookings bookingId (f ctx))) fun _ => [])
      y fun _ => FullRefunded bookingId := by
  refine keeps_transact (fun b d hbody hcond => ?_) fun _ _ _ _ => ⟨.refl _, hinv, hy⟩
  obtain ⟨-, -, -, rfl⟩ := Service.atomic_update hbody
  obtain ⟨r, hr, hstatus⟩ := hy
  have hrows := @refundWritten_modify bookingId _ _ y.state.db
    (hf ⟨y.state.now, y.state.db.freshId⟩) fun b hb => by
      obtain rfl := Option.some.inj ((Table.viewed_of_get? hb).symm.trans hr)
      exact hstatus
  have hkept : SettledRely y (y.next tid [] { y.state with db := { y.state.db with
      bookings := y.state.db.bookings.modify bookingId (f ⟨y.state.now, y.state.db.freshId⟩) } }) :=
    hrows.keep fun _ _ _ h => h.kept
  refine ⟨hkept, ?_, hkept.fullRefunded ⟨r, hr, hstatus⟩⟩
  intro id after hafter hclosed
  obtain ⟨before, hbefore, hbecomes⟩ := hrows.of_some hafter
  rcases rideClosed_next.mp hclosed with hold | ⟨_, hnew⟩
  · rcases hbecomes with rfl | ⟨-, rfl⟩
    · exact hinv id _ hbefore hold
    · exact hinv id before hbefore hold
  · cases hnew

theorem settled_issueRideFullRefund {x : LoggedWorld} (refundAmount : ℤ) (hx : FullRefunded bookingId x) :
    settledProtocol.Safe op tid (fun _ => FullRefunded bookingId)
      (issueRideFullRefund bookingId paymentIntent refundAmount) x := by
  have hstable := @stable_fullRefunded tid bookingId
  refine Protocol.Safe.guarded (Protocol.Safe.sequence ?_ fun _ y hy => ?_) fun _ y hy => ?_
  · exact safe_settling hstable
      (settling_of_leaves (leaves_refundPaymentIntent (fun _ _ => rfl) _ _)) hx
  · refine Protocol.Safe.sequence (Protocol.Safe.perform hstable hy fun z hz hinv => ?_)
      fun _ _ hz => hz
    exact @keeps_writeRefund _ _ _ refundAmount _ (fun _ _ => rfl) _ hz hinv
  · exact safe_settling hstable (settling_of_leaves
      (leaves_bestEffort (leaves_createIssue (fun _ _ => rfl) _))) hy

/-- **The payment of a full ride**: what is written last is of a booking that this call has ended. -/
theorem settled_refundRideFullPayment (x : LoggedWorld) :
    settledProtocol.Safe op tid (fun _ _ => True) (refundRideFullPayment bookingId paymentIntent)
      x := by
  refine Protocol.Safe.bind ((Protocol.Safe.perform stable_true trivial
    fun y _ hinv => keeps_claimRideFull hinv).mono ?_)
  rintro (e | claimed) y hy
  · trivial
  have hclaimed := hy claimed rfl
  dsimp only
  split_ifs with hnone
  · trivial
  have hfull := hclaimed hnone
  have hstable := @stable_fullRefunded tid bookingId
  refine Protocol.Safe.mono (Q := fun _ => FullRefunded bookingId) ?_ fun _ _ _ => trivial
  refine Protocol.Safe.sequence (safe_settling hstable
    (settling_sql (leaves_findBookingWithRide _)) hfull) fun found z hz => ?_
  cases found with
  | none => exact hz
  | some found =>
    refine Protocol.Safe.sequence (settled_issueRideFullRefund _ hz) fun _ z hz => ?_
    refine safe_settling hstable (settling_of_leaves ?_) hz
    refine (leaves_bestEffort ?_).bind fun _ => leaves_bestEffort leaves_notify
    refine (leaves_markBookingPaymentPaid records_paymentWrites closesNoRide_paymentWritten
      (fun _ _ => rfl) (fun _ _ => rfl) _ _).bind fun _ => ?_
    exact (leaves_markBookingPaymentRefunded records_paymentWrites closesNoRide_paymentWritten
      (fun _ _ => rfl) _ _ _).bind fun _ => trivial

theorem settled_applyStripePaymentSucceededToBooking (settings : Settings) (intent : Intent)
    (x : LoggedWorld) :
    settledProtocol.Safe op tid (fun _ _ => True)
      (applyStripePaymentSucceededToBooking settings paymentIntent intent) x := by
  unfold applyStripePaymentSucceededToBooking
  split
  · trivial
  refine Protocol.Safe.sequence (safe_settling stable_true (settling_of_leaves leaves_clock) trivial)
    fun now y _ => ?_
  refine Protocol.Safe.sequence (safe_settling stable_true (settling_claimPayment _ _ _ _ _) trivial)
    fun outcome y _ => ?_
  cases outcome with
  | rideFull => exact Protocol.Safe.sequence (settled_refundRideFullPayment y) fun _ _ _ => trivial
  | alreadyApplied =>
    refine Protocol.Safe.sequence (safe_settling stable_true (settling_of_leaves ?_) trivial)
      fun _ _ _ => trivial
    exact leaves_syncAcceptedOffer records_paymentWrites (fun _ _ => rfl) (fun _ _ => rfl)
      closesNoRide_paymentWritten _
  | claimed =>
    refine Protocol.Safe.sequence (safe_settling stable_true (settling_of_leaves ?_) trivial)
      fun _ _ _ => trivial
    refine leaves_completeClaim records_paymentWrites (fun _ _ => rfl) (fun _ _ => rfl)
      (fun _ _ => rfl) closesNoRide_paymentWritten (fun d id deadline => ?_) _ _ _
    exact records_modify (f := fun b => { b with driverDecisionDeadlineAt := deadline })
      (fun _ => rfl) d id

end Safe

/-- What a call other than the payment does, its steps do one by one. -/
theorem settling_program {op : ClosingOp} (hop : op.appliesPayment = false) :
    op.program.Issues fun {_} c => SettlingCall c := by
  cases op with
  | runRideOverdueCheck departures => exact settling_runRideOverdueCheck departures
  | reconcileDriverRideListStatuses departures driverId =>
    exact settling_reconcileDriverRideListStatuses departures driverId
  | acceptBooking driverId bookingId => exact settling_acceptBooking driverId bookingId
  | rejectBooking settings driverId bookingId =>
    exact settling_rejectBooking settings driverId bookingId
  | cancelBooking passengerId bookingId => exact settling_cancelBooking passengerId bookingId
  | paymentSucceeded => cases hop

/-- Every call is safe. -/
theorem safeOperations_closing : settledProtocol.SafeOperations := by
  intro op tid x _ _
  cases hop : op.appliesPayment with
  | false => exact safe_settling stable_true (settling_program hop) trivial
  | true =>
    cases op with
    | paymentSucceeded settings paymentIntent intent =>
      exact Protocol.Safe.sequence (settled_applyStripePaymentSucceededToBooking settings intent x)
        fun _ _ _ => trivial
    | _ => cases hop

/-- A call other than the payment issues such steps only. -/
theorem opsConfined_closing : Pool.OpsConfined closingPool
    fun op {_} c => op.appliesPayment = false → SettlingCall c := by
  intro op
  cases hop : op.appliesPayment with
  | false => exact ((settling_program hop).mono fun _ hc _ => hc).emits
  | true =>
    refine Program.Issues.emits (Program.issues_of_all _ fun {β} c h => ?_)
    cases hop.symm.trans h

/-! ## Whole runs -/

/-- The pool before any call has been started. -/
def closingStart (w : World) : Pool Call Err Event World ClosingOp := { now := { state := w } }

/-- A step of a call other than the payment changes no booking that has ended. -/
def LeavesEnded (op : ClosingOp) (x y : LoggedWorld) : Prop :=
  op.appliesPayment = false →
    RowsKeep (fun before after : BookingRecord => before.status.ended = true → after = before)
      (bookingRecords x.state.db) (bookingRecords y.state.db)

/-- **Closing an overdue ride settles its live bookings, and no other**, in every run whose closing
steps have every live booking of the ride on their list, and none that has ended, and in which no
payment is claimed for a closed ride: no booking of a closed ride is live, no step but of the payment
itself changes a booking that has ended, and between any two points such a booking keeps its
record. -/
theorem closed_rides_settled (w : World) (moves : List (Move ClosingOp Reply World))
    (h : History.Each (Pool.step closingPool) (Pool.Meets closingPool ClosingStep fun _ _ => True)
      (closingStart w) moves) :
    History.Always (Pool.step closingPool) (fun p => ClosedSettled p.now) (closingStart w) moves ∧
      History.Each (Pool.step closingPool) (Pool.Relates closingPool LeavesEnded) (closingStart w)
        moves ∧
      ∀ earlier between rest, moves = earlier ++ between ++ rest →
        SettledRely (History.after (Pool.step closingPool) (closingStart w) earlier).now
          (History.after (Pool.step closingPool) (closingStart w) (earlier ++ between)).now := by
  have hstart : settledProtocol.Holds (closingStart w) := by
    refine Protocol.holds_of_inv ?_ rfl rfl
    rintro id r - ⟨tid, listed, hmem⟩
    cases hmem
  refine ⟨?_, ?_, ?_⟩
  · exact (Protocol.sound safeOperations_closing hstart h).imp fun _ hp => hp.inv
  · refine Pool.relates_of_confined opsConfined_closing
      (fun _ x _ => RowsKeep.refl (fun _ _ => rfl) _) ?_ (fun t ht => absurd ht List.not_mem_nil) h
    intro op tid β c i x b es s hcall hexec hcond hop
    obtain ⟨rfl, rfl, rfl⟩ := exec_eq hexec
    exact (hcall hop i x.state).unchanged hcond
  · refine History.Each.between (R := fun p q : Pool Call Err Event World ClosingOp =>
      SettledRely p.now q.now) (fun p => .refl _) (fun p q r h h' => h.trans (fun _ _ _ => .trans) h')
      ?_
    exact Protocol.each_guar (R := SettledRely) safeOperations_closing hstart SettledRely.refl
      (fun _ _ _ h => h) (fun _ x _ => .refl x) h

/-! ## Runs -/

section Runs

/-- A ride that should have departed long ago, with one booking of `status`. -/
private def overdueWorld (ride : RideStatus) (status : BookingStatus) : World where
  db := {
    rides := ⟨[(1, {
      driverId := 9
      totalSeats := 3
      availableSeats := 3
      status := ride
      departureAt := 100 })], by simp⟩
    bookings := ⟨[(7, {
      rideId := 1
      passengerId := 2
      seatsBooked := 1
      totalPrice := 1020
      status })], by simp⟩ }
  now := 10000000

private theorem overdueWorld_records {ride : RideStatus} {status : BookingStatus} {id : ℕ}
    {r : BookingRecord} (h : bookingRecords (overdueWorld ride status).db id = some r) :
    id = 7 ∧ r.status = status := by
  obtain ⟨b, hb, rfl⟩ := Table.viewed_eq_some.mp h
  obtain ⟨rfl, rfl⟩ := Prod.mk.injEq .. ▸ List.mem_singleton.mp (Table.mem_rows_iff.mpr hb)
  exact ⟨rfl, rfl⟩

private def departed : Departures where
  inUtc ride := some ride.departureAt
  inTimezone ride := some ride.departureAt
  day _ := 0

/-- A sweep, alone. -/
private def oneSweep : List (Move ClosingOp Reply World) :=
  [.start (.runRideOverdueCheck departed), .step 0 .ok, .step 0 .ok, .step 0 .ok, .step 0 .ok]

/-- A ride that is closed with its one booking. -/
theorem closed_ride_settled :
    History.Each (Pool.step closingPool) (Pool.Meets closingPool ClosingStep fun _ _ => True)
        (closingStart (overdueWorld .readyToStart .confirmed)) oneSweep ∧
      History.Always (Pool.step closingPool) (fun p => ClosedSettled p.now)
        (closingStart (overdueWorld .readyToStart .confirmed)) oneSweep := by
  have hmeets : History.Each (Pool.step closingPool)
      (Pool.Meets closingPool ClosingStep fun _ _ => True)
      (closingStart (overdueWorld .readyToStart .confirmed)) oneSweep := by
    refine ⟨trivial, ?_, ?_, ?_, ?_, trivial⟩
    all_goals rintro op rest ⟨⟩ b es s ⟨⟩
    · exact ⟨by simp, by simp, by simp⟩
    · exact ⟨by simp, by simp, by simp⟩
    · exact ⟨by simp, by simp, by simp⟩
    · constructor
      · intro rideId listed hmem id r hr _ _
        obtain ⟨rfl, rfl⟩ := Event.rideClosed.injEq .. ▸ List.mem_singleton.mp hmem
        obtain ⟨rfl, -⟩ := @overdueWorld_records .readyToStart .confirmed _ _ hr
        exact List.mem_singleton_self 7
      · intro rideId listed _ id _ r hr
        rw [(@overdueWorld_records .readyToStart .confirmed _ _ hr).2]
        rfl
      · intro id r hmem
        cases List.mem_singleton.mp hmem
  exact ⟨hmeets, (closed_rides_settled _ _ hmeets).1⟩

/-- The ride expires after a payment has been claimed that the sweep has not seen. -/
private def claimedBetween : List (Move ClosingOp Reply World) :=
  [.start (.reconcileDriverRideListStatuses departed 9),
    .start (.paymentSucceeded {} 5 { bookingId := some 7, amount := 1020 }),
    .step 0 .ok, .step 0 .ok, .step 1 .ok, .step 1 .ok, .step 0 .ok] ++ .replicate 10 (.step 1 .ok)

/-- The rider cancels a booking that the sweep has listed. -/
private def cancelledBeforeSweep : List (Move ClosingOp Reply World) :=
  [.start (.runRideOverdueCheck departed), .start (.cancelBooking 2 7), .step 0 .ok, .step 0 .ok,
    .step 1 .ok, .step 1 .ok, .step 1 .ok, .step 1 .ok]

/-- **A booking waits for its driver on a ride that has expired**, as it was paid after the sweep had
listed it; and a booking that its rider had cancelled is cancelled by the system again, with the whole
price to refund. -/
theorem overdue_ride_not_settled :
    (Pool.Idle (History.after (Pool.step closingPool)
        (closingStart (overdueWorld .published .paymentPending)) claimedBetween) ∧
      ¬ ClosedSettled (History.after (Pool.step closingPool)
        (closingStart (overdueWorld .published .paymentPending)) claimedBetween).now) ∧
    ¬ SettledRely
      (History.after (Pool.step closingPool)
        (closingStart (overdueWorld .readyToStart .driverPending)) cancelledBeforeSweep).now
      (History.after (Pool.step closingPool)
        (closingStart (overdueWorld .readyToStart .driverPending))
        (cancelledBeforeSweep ++ [.step 0 .ok, .step 0 .ok])).now := by
  refine ⟨⟨?_, fun h => ?_⟩, fun h => ?_⟩
  · intro t ht
    rcases List.mem_pair.mp ht with rfl | rfl
    · trivial
    · trivial
  · have hlive : bookingRecords (History.after (Pool.step closingPool)
        (closingStart (overdueWorld .published .paymentPending)) claimedBetween).now.state.db 7 =
        some ⟨1, .driverPending, none, none, none⟩ := rfl
    cases h 7 _ hlive ⟨0, [], by decide⟩
  · have hcancelled : bookingRecords (History.after (Pool.step closingPool)
        (closingStart (overdueWorld .readyToStart .driverPending))
        cancelledBeforeSweep).now.state.db 7 =
        some ⟨1, .cancelled, some .passenger, some 0, some 0⟩ := rfl
    have hagain : bookingRecords (History.after (Pool.step closingPool)
        (closingStart (overdueWorld .readyToStart .driverPending))
        (cancelledBeforeSweep ++ [.step 0 .ok, .step 0 .ok])).now.state.db 7 =
        some ⟨1, .cancelled, some .system, some 100, some 1020⟩ := rfl
    obtain ⟨after, hafter, hkept⟩ := h 7 _ hcancelled
    obtain rfl := Option.some.inj (hagain.symm.trans hafter)
    rcases hkept rfl with heq | ⟨heq, -⟩
    · exact absurd heq (by decide)
    · cases heq

end Runs

end Deliivo

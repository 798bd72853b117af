import Deliivo.Booking.Frame
import Deliivo.Domain.Preserves
import Deliivo.Domain.Undisturbed
import Deliivo.Domain.Unrecorded
import Deliivo.Ride.Frame
import Deliivo.Store.RowView
import Deliivo.Trip.Operations

/-!
# Guessing the code of a booking

The driver has a limited number of guesses at the code that the rider has been given. A call compares the
guess with the code of the booking as it has read it, where the counter of that reading is below the
limit, and counts a wrong guess afterwards. The two codes of a booking share the counter; two of the three
calls that succeed set it back.

**If the counter, together with the wrong guesses that it has still to count, is below the limit whenever
a wrong guess is compared, and a pickup that sets it back finds the booking confirmed, then no code is
guessed wrong more often than the limit before it is guessed right** (`guesses_within_limit`).

## Main definitions

* `verifyPickupOtpRecorded`, `verifyPickupAndBoardRecorded`, `verifyDropOtpRecorded`: the calls, with the
  comparison as a step of its own
* `Guesses`, `guessesAt`: what has been guessed at a code, read off the log
* `GuessOp`, `guessPool`, `GuessStep`: the calls next to each other, and the condition on their steps
* `NotGuessedAt`, `GuessAlone`: a call while nobody else guesses at a booking

## Main results

* `verifyPickupOtp_unrecorded` and so on: the recorded calls are the calls
* `guess_compares_below`: a call meets the condition by its own check of the limit
* `guesses_within_limit`
-/

namespace Deliivo

open Program (Logged Pool Move Protocol)

/-! ## The calls -/

/-- A wrong guess is counted. -/
def Booking.withWrongGuess (booking : Booking) : Booking :=
  { booking with otpAttemptCount := booking.otpAttemptCount + 1 }

/-- A guess is compared, and counted if it is wrong. -/
def compareOtp (bookingId : ℕ) (code : OtpCode) (isValid : Bool) (refused : String) :
    Service Unit := do
  Program.command (.note [.otpCompared bookingId code isValid])
  if isValid then return ()
  else
    let _ ← Program.perform <| .transact
      (fun _ => Program.perform (update bookings bookingId Booking.withWrongGuess))
      fun _ => [.otpCounted bookingId code]
    throw (.text refused)

/-- `verifyPickupOtp` without force, with the guess on record. -/
def verifyPickupOtpRecorded (driverId bookingId : ℕ) (otpHash : Option String) : Service Unit := do
  let (booking, ride) ← requireDriverBooking driverId bookingId
  assertForceAllowedOnRide false ride.status
  assertOrForce false (booking.status != .confirmed) "INVALID_BOOKING_STATUS"
  assertOrForce false (booking.pickupOtpHash.isNone || booking.pickupOtpExpiresAt.isNone)
    "PICKUP_OTP_NOT_AVAILABLE"
  let now ← Program.command .clock
  assertOrForce false (booking.pickupOtpExpiresAt.any (· < now)) "PICKUP_OTP_EXPIRED"
  assertOrForce false (maxOtpAttempts ≤ booking.otpAttemptCount) "OTP_ATTEMPT_LIMIT_EXCEEDED"
  compareOtp bookingId .pickup (booking.pickupOtpHash.isSome && otpHash == booking.pickupOtpHash)
    "INVALID_PICKUP_OTP"
  let verifiedAt ← Program.command .clock
  moveBooking bookingId .inProgress fun b =>
    { b with pickupOtpVerifiedAt := some verifiedAt, otpAttemptCount := 0 }
  notify
  auditForcedOtp booking.rideId bookingId driverId "PICKUP_OTP_VERIFIED" false

/-- `verifyPickupAndBoard` without force, with the guess on record. -/
def verifyPickupAndBoardRecorded (driverId bookingId : ℕ) (otpHash : Option String) (actionId : ℕ) :
    Service Unit := do
  let (booking, ride) ← requireDriverBooking driverId bookingId
  assertForceAllowedOnRide false ride.status
  assertOrForce false (booking.status != .driverArrived && booking.status != .waitingForPickup)
    "BOOKING_NOT_READY_FOR_OTP"
  assertOrForce false booking.pickupOtpHash.isNone "PICKUP_OTP_NOT_AVAILABLE"
  let now ← Program.command .clock
  assertOrForce false (booking.pickupOtpExpiresAt.any (· < now)) "PICKUP_OTP_EXPIRED"
  assertOrForce false (maxOtpAttempts ≤ booking.otpAttemptCount) "OTP_ATTEMPT_LIMIT_EXCEEDED"
  compareOtp bookingId .pickup (booking.pickupOtpHash.isSome && otpHash == booking.pickupOtpHash)
    "INVALID_PICKUP_OTP"
  moveBooking bookingId .onboard fun b =>
    { b with pickupOtpVerifiedAt := some now, onboardedAt := some now }
  recordOperation booking.rideId bookingId driverId "PICKUP_OTP_VERIFIED" { actionId }

/-- `verifyDropOtp` without force, with the guess on record. -/
def verifyDropOtpRecorded (driverId bookingId : ℕ) (otpHash : Option String) : Service Unit := do
  let (booking, ride) ← requireDriverBooking driverId bookingId
  assertForceAllowedOnRide false ride.status
  assertOrForce false (booking.status != .inProgress) "INVALID_BOOKING_STATUS"
  assertOrForce false (booking.dropOtpHash.isNone || booking.dropOtpExpiresAt.isNone)
    "DROP_OTP_NOT_AVAILABLE"
  let now ← Program.command .clock
  assertOrForce false (booking.dropOtpExpiresAt.any (· < now)) "DROP_OTP_EXPIRED"
  assertOrForce false (maxOtpAttempts ≤ booking.otpAttemptCount) "OTP_ATTEMPT_LIMIT_EXCEEDED"
  compareOtp bookingId .drop (booking.dropOtpHash.isSome && otpHash == booking.dropOtpHash)
    "INVALID_DROP_OTP"
  completeBooking bookingId fun ctx b =>
    { b with dropOtpVerifiedAt := some ctx.now, otpAttemptCount := 0 }
  notify

section Unrecorded

variable {driverId bookingId : ℕ} {otpHash : Option String}

/-- Comparing the guess is what the pickup calls do. -/
theorem compareOtp_unrecorded (isValid : Bool) :
    (compareOtp bookingId .pickup isValid "INVALID_PICKUP_OTP").unrecorded =
      (assertOtpValid bookingId isValid false).unrecorded := by
  cases isValid <;> rfl

/-- So is what the drop-off call does, before it goes on. -/
theorem compareOtp_bind_unrecorded (isValid : Bool) (p : Service Unit) :
    ((compareOtp bookingId .drop isValid "INVALID_DROP_OTP").unrecorded.bind fun _ => p.unrecorded) =
      Service.unrecorded (if !isValid && !false then
        (sqlOrThrow (update bookings bookingId Booking.withWrongGuess)).bind fun _ =>
          throw (.text "INVALID_DROP_OTP")
      else p) := by
  cases isValid with
  | true => rfl
  | false =>
    have hwrite : (sqlOrThrow (update bookings bookingId Booking.withWrongGuess)).unrecorded =
        sqlOrThrow (update bookings bookingId Booking.withWrongGuess) :=
      Service.unrecorded_transaction _
    have hcompare : (compareOtp bookingId .drop false "INVALID_DROP_OTP").unrecorded =
        (sqlOrThrow (update bookings bookingId Booking.withWrongGuess)).bind fun _ =>
          .throw (.text "INVALID_DROP_OTP") := by
      refine (Service.unrecorded_note_bind _ _).trans ?_
      exact (Service.unrecorded_bind _ _).trans (congrArg (Program.bind · _)
        (Service.unrecorded_perform_transact _ _))
    rw [hcompare, Program.bind_assoc, if_pos (by decide), Service.unrecorded_bind, hwrite]
    rfl

/-- **The recorded calls** are the calls. -/
theorem verifyPickupOtp_unrecorded :
    (verifyPickupOtpRecorded driverId bookingId otpHash).unrecorded =
      (verifyPickupOtp driverId bookingId otpHash false).unrecorded := by
  simp only [verifyPickupOtpRecorded, verifyPickupOtp, Program.bind_eq, Service.unrecorded_bind,
    compareOtp_unrecorded]

theorem verifyPickupAndBoard_unrecorded {actionId : ℕ} :
    (verifyPickupAndBoardRecorded driverId bookingId otpHash actionId).unrecorded =
      (verifyPickupAndBoard driverId bookingId otpHash { actionId }).unrecorded := by
  simp only [verifyPickupAndBoardRecorded, verifyPickupAndBoard, Program.bind_eq,
    Service.unrecorded_bind, compareOtp_unrecorded]

theorem verifyDropOtp_unrecorded :
    (verifyDropOtpRecorded driverId bookingId otpHash).unrecorded =
      (verifyDropOtp driverId bookingId otpHash false).unrecorded := by
  simp only [verifyDropOtpRecorded, verifyDropOtp, requireDriverBooking, Program.bind_eq,
    Service.unrecorded_bind, Program.bind_assoc]
  refine congrArg _ (funext fun found => ?_)
  rcases found with _ | ⟨booking, ride⟩
  · rfl
  dsimp only
  by_cases hdriver : ride.driverId ≠ driverId
  · rw [if_pos hdriver, if_pos hdriver]
    rfl
  rw [if_neg hdriver, if_neg hdriver]
  simp only [Program.pure_eq, Service.unrecorded_ret, Program.ret_bind, Service.unrecorded_bind]
  -- up to the comparison they are the same
  refine congrArg _ (funext fun _ => congrArg _ (funext fun _ => congrArg _ (funext fun _ =>
    congrArg _ (funext fun now => congrArg _ (funext fun _ => congrArg _ (funext fun _ => ?_))))))
  rw [← Service.unrecorded_bind]
  exact compareOtp_bind_unrecorded _ _

end Unrecorded

/-! ## What has been guessed -/

/-- What has been guessed at a code of a booking: the wrong guesses before it was guessed right, those of
them that have been counted, and whether it was. -/
structure Guesses where
  wrong : ℕ := 0
  counted : ℕ := 0
  opened : Bool := false
  deriving DecidableEq, Repr

/-- The code whose right guess has moved the booking on. -/
def Event.opens : Event → Option (ℕ × OtpCode)
  | .bookingMoved bookingId .inProgress | .bookingMoved bookingId .onboard =>
    some (bookingId, .pickup)
  | .tripCompleted bookingId => some (bookingId, .drop)
  | _ => none

/-- What becomes of the guesses at a code. -/
def Guesses.next (bookingId : ℕ) (code : OtpCode) (guesses : Guesses) (e : Event) : Guesses :=
  if guesses.opened then guesses
  else if e = .otpCompared bookingId code false then { guesses with wrong := guesses.wrong + 1 }
  else if e = .otpCounted bookingId code then { guesses with counted := guesses.counted + 1 }
  else if e.opens = some (bookingId, code) then { guesses with opened := true }
  else guesses

/-- What has been guessed so far. -/
def guessesAt (x : LoggedWorld) (bookingId : ℕ) (code : OtpCode) : Guesses :=
  (x.log.map Prod.snd).foldl (Guesses.next bookingId code) {}

/-- No code has been guessed wrong more often than the limit, before it was guessed right. -/
def GuessesWithinLimit (x : LoggedWorld) : Prop :=
  ∀ bookingId code, (guessesAt x bookingId code).wrong ≤ maxOtpAttempts

section Guesses

variable {x : LoggedWorld} {tid bookingId : ℕ} {code : OtpCode} {guesses : Guesses} {e : Event}
  {w : World}

@[simp] theorem guessesAt_next_nil : guessesAt (x.next tid [] w) bookingId code =
    guessesAt x bookingId code := by
  simp [guessesAt, Logged.next]

@[simp] theorem guessesAt_next : guessesAt (x.next tid [e] w) bookingId code =
    (guessesAt x bookingId code).next bookingId code e := by
  simp [guessesAt, Logged.next]

/-- A code that has been guessed right stays so. -/
theorem Guesses.next_opened (h : guesses.opened = true) : guesses.next bookingId code e = guesses := by
  rw [Guesses.next, if_pos h]

theorem Guesses.opened_next (h : guesses.opened = true) :
    (guesses.next bookingId code e).opened = true := by
  rwa [Guesses.next_opened h]

/-- What is about another code, or about none. -/
theorem Guesses.next_of_other (hcompared : e ≠ .otpCompared bookingId code false)
    (hcounted : e ≠ .otpCounted bookingId code) (h : e.opens ≠ some (bookingId, code)) :
    guesses.next bookingId code e = guesses := by
  unfold Guesses.next
  split_ifs
  · rfl
  · rfl

/-- A comparison with a code of a booking. -/
theorem Guesses.next_compared {code' : OtpCode} {isValid : Bool} :
    guesses.next bookingId code' (.otpCompared bookingId code isValid) =
      if guesses.opened = false ∧ code' = code ∧ isValid = false then
        { guesses with wrong := guesses.wrong + 1 }
      else guesses := by
  cases hopened : guesses.opened with
  | true => simp [Guesses.next, hopened]
  | false =>
    cases code <;> cases code' <;> cases isValid <;> simp [Guesses.next, hopened, Event.opens]

/-- A wrong guess at a code of a booking that is counted. -/
theorem Guesses.next_counted {code' : OtpCode} :
    guesses.next bookingId code' (.otpCounted bookingId code) =
      if guesses.opened = false ∧ code' = code then { guesses with counted := guesses.counted + 1 }
      else guesses := by
  cases hopened : guesses.opened with
  | true => simp [Guesses.next, hopened]
  | false => cases code <;> cases code' <;> simp [Guesses.next, hopened, Event.opens]

/-- A right guess at a code of a booking. -/
theorem Guesses.next_opens {code' : OtpCode} (hopens : e.opens = some (bookingId, code)) :
    guesses.next bookingId code' e =
      if code' = code then { guesses with opened := true } else guesses := by
  have hcompared : ∀ isValid, e ≠ .otpCompared bookingId code' isValid := by
    rintro isValid rfl
    cases hopens
  have hcounted : e ≠ .otpCounted bookingId code' := by
    rintro rfl
    cases hopens
  -- a call that opens a booking compares and counts nothing in the same step
  unfold Guesses.next
  by_cases hcode : code' = code
  · subst hcode
    cases hopened : guesses.opened with
    | true =>
      obtain ⟨wrong, counted, opened⟩ := guesses
      cases hopened
      simp
    | false => simp [hcompared, hcounted, hopens]
  · have hother : e.opens ≠ some (bookingId, code') := by
      rw [hopens]
      simpa using Ne.symm hcode
    simp [hcompared, hcounted, hother, hcode]

end Guesses

/-! ## The calls, next to each other -/

/-- The calls that compare a guess. -/
inductive GuessOp
  | verifyPickupOtp (driverId bookingId : ℕ) (otpHash : Option String)
  | verifyPickupAndBoard (driverId bookingId : ℕ) (otpHash : Option String) (actionId : ℕ)
  | verifyDropOtp (driverId bookingId : ℕ) (otpHash : Option String)

def GuessOp.program : GuessOp → Service Unit
  | .verifyPickupOtp driverId bookingId otpHash => verifyPickupOtpRecorded driverId bookingId otpHash
  | .verifyPickupAndBoard driverId bookingId otpHash actionId =>
    verifyPickupAndBoardRecorded driverId bookingId otpHash actionId
  | .verifyDropOtp driverId bookingId otpHash => verifyDropOtpRecorded driverId bookingId otpHash

abbrev guessPool := servicePool GuessOp.program besidesBookings

/-- The condition on the steps of the calls. Where a wrong guess is compared, the counter is below the
limit, and stays so with the wrong guesses at the code that have not been counted. A pickup that sets the
counter back finds the booking confirmed. -/
structure GuessStep (_op : GuessOp) (_tid : ℕ) (x : LoggedWorld) (_reply : Reply) (es : List Event) :
    Prop where
  compared : ∀ id code b, .otpCompared id code false ∈ es → x.state.db.bookings.get? id = some b →
    (guessesAt x id code).opened = false →
      b.otpAttemptCount + ((guessesAt x id code).wrong - (guessesAt x id code).counted) <
        maxOtpAttempts
  started : ∀ id b, .bookingMoved id .inProgress ∈ es → x.state.db.bookings.get? id = some b →
    b.status = .confirmed

/-! ## What the calls keep -/

/-- On the way from the arrival at the pickup. -/
def BookingStatus.boarding : BookingStatus → Bool
  | .driverArrived | .waitingForPickup | .onboard => true
  | _ => false

/-- Past the pickup, by the driver's older call. -/
def BookingStatus.started : BookingStatus → Bool
  | .inProgress | .completed => true
  | _ => false

/-- What becomes of a status: a confirmed booking is started by a right guess. -/
structure StatusKept (opened : Prop) (before after : BookingStatus) : Prop where
  boarding : before.boarding = true → after.boarding = true
  started : before.started = true → after.started = true
  confirmed : before = .confirmed → after = .confirmed ∨ after.started = true ∧ opened

theorem StatusKept.refl (opened : Prop) (status : BookingStatus) : StatusKept opened status status :=
  ⟨id, id, Or.inl⟩

theorem StatusKept.trans {opened opened' : Prop} {a b c : BookingStatus} (h : StatusKept opened a b)
    (h' : StatusKept opened' b c) (himp : opened → opened') : StatusKept opened' a c where
  boarding := h'.boarding ∘ h.boarding
  started := h'.started ∘ h.started
  confirmed ha := by
    rcases h.confirmed ha with hb | ⟨hb, hopened⟩
    · exact h'.confirmed hb
    · exact Or.inr ⟨h'.started hb, himp hopened⟩

/-- What has been counted of the guesses at the codes of a booking is in its counter, as long as the code
has not been guessed right: a counter that is set back has not counted any of the other code. -/
structure GuessesCounted (guesses : OtpCode → Guesses) (b : Booking) : Prop where
  counted : ∀ code, (guesses code).opened = false → (guesses code).counted ≤ b.otpAttemptCount
  drop : b.status = .confirmed → (guesses .drop).counted = 0
  pickup : b.status.started = true → (guesses .pickup).opened = false → (guesses .pickup).counted = 0

/-- What holds at all times. -/
structure GuessInv (x : LoggedWorld) : Prop where
  limit : GuessesWithinLimit x
  counted : x.state.db.bookings.Every fun id b => GuessesCounted (guessesAt x id) b

/-- What the calls keep for each other. -/
structure GuessRely (x y : LoggedWorld) : Prop where
  rows : ∀ id b, x.state.db.bookings.get? id = some b → ∃ b', y.state.db.bookings.get? id = some b' ∧
    StatusKept ((guessesAt y id .pickup).opened = true) b.status b'.status
  opened : ∀ id code, (guessesAt x id code).opened = true → (guessesAt y id code).opened = true

theorem GuessRely.of_same {x y : LoggedWorld} (hrows : y.state.db.bookings = x.state.db.bookings)
    (hguesses : guessesAt y = guessesAt x) : GuessRely x y where
  rows id b hb := ⟨b, hrows ▸ hb, .refl _ _⟩
  opened id code h := by rwa [hguesses]

theorem GuessInv.of_same {x y : LoggedWorld} (hrows : y.state.db.bookings = x.state.db.bookings)
    (hguesses : guessesAt y = guessesAt x) (h : GuessInv x) : GuessInv y where
  limit id code := by
    rw [hguesses]
    exact h.limit id code
  counted id b hb := by
    rw [hguesses]
    exact h.counted id b (hrows ▸ hb)

theorem GuessRely.trans {x y z : LoggedWorld} (h : GuessRely x y) (h' : GuessRely y z) :
    GuessRely x z where
  rows id b hb := by
    obtain ⟨b', hb', hkept⟩ := h.rows id b hb
    obtain ⟨b'', hb'', hkept'⟩ := h'.rows id b' hb'
    exact ⟨b'', hb'', hkept.trans hkept' (h'.opened id .pickup)⟩
  opened id code hopened := h'.opened id code (h.opened id code hopened)

/-- No code is guessed wrong too often. -/
def guessProtocol : Protocol guessPool GuessStep fun _ _ => True where
  Inv := GuessInv
  Rely _ := GuessRely
  Guar _ := GuessRely
  Post _ _ _ := True
  rely_refl _ _ := .of_same rfl rfl
  rely_trans := .trans
  guar_rely _ _ h := h
  env_inv h _ := ⟨h.limit, h.counted⟩
  env_rely _ _ _ := .of_same rfl rfl
  post_stable _ _ _ := trivial

section Safe

variable {op : GuessOp} {tid bookingId : ℕ} {α β : Type} {x y : LoggedWorld} {e : Event}
  {A : LoggedWorld → Prop}

/-- **A step** that reports one event of a booking, and writes at most that booking. -/
theorem guessInv_next {w' : World} {f : Booking → Booking} (hinv : GuessInv y)
    (hrows : ∀ j, w'.db.bookings.get? j = if j = bookingId then
      (y.state.db.bookings.get? j).map f else y.state.db.bookings.get? j)
    (hother : ∀ j code, j ≠ bookingId → ∀ g : Guesses, g.next j code e = g)
    (hlimit : ∀ code, ((guessesAt y bookingId code).next bookingId code e).wrong ≤ maxOtpAttempts)
    (hkept : ∀ b, y.state.db.bookings.get? bookingId = some b →
      StatusKept (((guessesAt y bookingId .pickup).next bookingId .pickup e).opened = true)
        b.status (f b).status ∧
      GuessesCounted (fun code => (guessesAt y bookingId code).next bookingId code e) (f b)) :
    GuessRely y (y.next tid [e] w') ∧ GuessInv (y.next tid [e] w') := by
  -- statuses, what has been opened, the limit, and what is counted, each for the booking and for any other
  refine ⟨⟨fun id b hb => ?_, fun id code hopened => ?_⟩, ⟨fun id code => ?_, fun id b' hb' => ?_⟩⟩
  · rw [Logged.next_state, hrows]
    by_cases hid : id = bookingId
    · subst hid
      rw [if_pos rfl, hb]
      refine ⟨f b, rfl, ?_⟩
      rw [guessesAt_next]
      exact (hkept b hb).1
    · rw [if_neg hid]
      exact ⟨b, hb, .refl _ _⟩
  · rw [guessesAt_next]
    exact Guesses.opened_next hopened
  · rw [guessesAt_next]
    by_cases hid : id = bookingId
    · subst hid
      exact hlimit code
    · rw [hother id code hid]
      exact hinv.limit id code
  · rw [Logged.next_state, hrows] at hb'
    have hguesses : guessesAt (y.next tid [e] w') id = fun code =>
        (guessesAt y id code).next id code e := funext fun code => guessesAt_next
    rw [hguesses]
    by_cases hid : id = bookingId
    · subst hid
      rw [if_pos rfl] at hb'
      obtain ⟨b, hb, rfl⟩ := Option.map_eq_some_iff.mp hb'
      exact (hkept b hb).2
    · rw [if_neg hid] at hb'
      have hsame : (fun code => (guessesAt y id code).next id code e) = guessesAt y id :=
        funext fun code => hother id code hid _
      rw [hsame]
      exact hinv.counted id b' hb'

/-- What a thread knows that others keep, its own steps keep. -/
theorem keeps_guess {c : Call β} {Q : β → LoggedWorld → Prop}
    (h : ∀ i, GuessStep op tid y i (c.exec i y.state).2.1 →
      let z := y.next tid (c.exec i y.state).2.1 (c.exec i y.state).2.2
      GuessRely y z ∧ GuessInv z ∧ Q (c.exec i y.state).1 z) :
    guessProtocol.Keeps op tid c y Q := by
  intro i b es s hexec hcond
  obtain ⟨rfl, rfl, rfl⟩ := exec_eq hexec
  exact h i hcond

/-- What a call does besides. -/
def guessFrame : Frame where
  db := Db.bookings
  stripe _ := ()
  events _ := False

theorem safe_besides {p : Service α} (h : p.Leaves guessFrame)
    (hA : guessProtocol.Stable tid A) (hx : A x) :
    guessProtocol.Safe op tid (fun _ => A) p x := by
  refine Protocol.Safe.issues hA (h.mono fun c hc y hy hinv => keeps_guess fun i _ => ?_) hx
  obtain ⟨hrows, -, hevents⟩ := hc.exec i y.state
  have hnone : (c.exec i y.state).2.1 = [] := List.eq_nil_iff_forall_not_mem.mpr hevents
  have hguesses : guessesAt (y.next tid [] (c.exec i y.state).2.2) = guessesAt y :=
    funext fun id => funext fun code => guessesAt_next_nil
  rw [hnone]
  have hrely : GuessRely y (y.next tid [] (c.exec i y.state).2.2) := .of_same hrows hguesses
  have hinv' := hinv.of_same (y := y.next tid [] (c.exec i y.state).2.2) hrows hguesses
  exact ⟨hrely, hinv', hA y _ hy hrely hinv'⟩

/-- A write of a booking that reports what it means for the guesses. -/
theorem safe_writeBooking {f : Ctx → Booking → Booking} (hA : guessProtocol.Stable tid A) (hx : A x)
    (hother : ∀ j code, j ≠ bookingId → ∀ g : Guesses, g.next j code e = g)
    (hwrong : ∀ code (g : Guesses), (g.next bookingId code e).wrong = g.wrong)
    (hwrite : ∀ y ctx b, A y → GuessInv y → GuessStep op tid y .ok [e] →
      y.state.db.bookings.get? bookingId = some b →
        StatusKept (((guessesAt y bookingId .pickup).next bookingId .pickup e).opened = true)
          b.status (f ctx b).status ∧
        GuessesCounted (fun code => (guessesAt y bookingId code).next bookingId code e) (f ctx b)) :
    guessProtocol.Safe op tid (fun _ => A) (Program.perform (.transact
      (fun ctx => Program.perform (update bookings bookingId (f ctx))) fun _ => [e])) x := by
  refine Protocol.Safe.perform hA hx fun y hy hinv => keeps_transact ?_ ?_
  · intro b d hbody hcond
    obtain ⟨-, -, -, rfl⟩ := Service.atomic_update hbody
    set written := f ⟨y.state.now, y.state.db.freshId⟩
    obtain ⟨hrely, hinv'⟩ := @guessInv_next tid bookingId y e { y.state with
      db := bookings.set y.state.db ((bookings.get y.state.db).modify bookingId written) } written
      hinv (fun j => Table.get?_modify _ _ _ j) hother
      (fun code => (hwrong code _).trans_le (hinv.limit bookingId code))
      fun b hb => hwrite y _ b hy hinv hcond hb
    exact ⟨hrely, hinv', hA y _ hy hrely hinv'⟩
  · exact fun _ _ _ _ => ⟨.of_same rfl rfl, hinv, hy⟩

/-- A guess at the code may be compared: the drop-off code not of a booking that is only confirmed, and
the code of a booking that has been started not any more, but for one that has been guessed right. -/
def MayGuess (x : LoggedWorld) (bookingId : ℕ) (status : BookingStatus) : OtpCode → Prop
  | .pickup => status.started = true → (guessesAt x bookingId .pickup).opened = true
  | .drop => status ≠ .confirmed

/-- **A guess** is compared while the counter is below the limit, and counted if it is wrong. -/
theorem safe_compareOtp {code : OtpCode} {isValid : Bool} {refused : String}
    (hA : guessProtocol.Stable tid A) (hx : A x)
    (hmay : ∀ y, A y → ∃ b, y.state.db.bookings.get? bookingId = some b ∧
      MayGuess y bookingId b.status code) :
    guessProtocol.Safe op tid (fun _ => A) (compareOtp bookingId code isValid refused) x := by
  refine Protocol.Safe.sequence (Protocol.Safe.command hA hx fun y hy hinv =>
    keeps_guess fun i hcond => ?_) fun _ y hy => ?_
  · -- the comparison
    obtain ⟨b, hb, -⟩ := hmay y hy
    have hrows : ∀ j, y.state.db.bookings.get? j = if j = bookingId then
        (y.state.db.bookings.get? j).map id else y.state.db.bookings.get? j := by
      intro j
      rw [Option.map_id, id, ite_self]
    suffices hnext : GuessRely y (y.next tid [.otpCompared bookingId code isValid] y.state) ∧
        GuessInv (y.next tid [.otpCompared bookingId code isValid] y.state) from
      ⟨hnext.1, hnext.2, hA y _ hy hnext.1 hnext.2⟩
    refine guessInv_next (f := id) hinv hrows ?_ ?_ ?_
    · intro j code' hj g
      exact Guesses.next_of_other (by simp [Ne.symm hj]) (by simp) (by simp [Event.opens])
    · intro code'
      rw [Guesses.next_compared]
      split_ifs with hguess
      · -- what has been counted is in the counter, and what has not been is below the limit with it
        obtain ⟨hopened, rfl, rfl⟩ := hguess
        have hbelow := hcond.compared bookingId code' b (List.mem_singleton_self _) hb hopened
        have hcounted := (hinv.counted bookingId b hb).counted code' hopened
        dsimp only
        omega
      · exact hinv.limit bookingId code'
    · intro b hb
      have hkept := hinv.counted bookingId b hb
      have hcounted : ∀ code', ((guessesAt y bookingId code').next bookingId code'
          (.otpCompared bookingId code isValid)).counted = (guessesAt y bookingId code').counted := by
        intro code'
        rw [Guesses.next_compared]
        split_ifs <;> rfl
      have hopened : ∀ code', ((guessesAt y bookingId code').next bookingId code'
          (.otpCompared bookingId code isValid)).opened = (guessesAt y bookingId code').opened := by
        intro code'
        rw [Guesses.next_compared]
        split_ifs <;> rfl
      refine ⟨.refl _ _, fun code' h => ?_, fun h => ?_, fun h h' => ?_⟩
      · rw [hcounted]
        exact hkept.counted code' (hopened code' ▸ h)
      · rw [hcounted]
        exact hkept.drop h
      · rw [hcounted]
        exact hkept.pickup h (hopened .pickup ▸ h')
  · -- a wrong one is counted
    cases isValid with
    | true => exact hy
    | false =>
      refine Protocol.Safe.sequence (safe_writeBooking hA hy ?_ ?_ ?_) fun _ z hz => hz
      · intro j code' hj g
        exact Guesses.next_of_other (by simp) (by simp [Ne.symm hj]) (by simp [Event.opens])
      · intro code' g
        rw [Guesses.next_counted]
        split_ifs <;> rfl
      · intro z ctx b hz hinv _ hb
        obtain ⟨b', hb', hguess⟩ := hmay z hz
        obtain rfl := Option.some.inj (hb.symm.trans hb')
        have hkept := hinv.counted bookingId b hb
        refine ⟨.refl _ _, fun code' h => ?_, fun h => ?_, fun h h' => ?_⟩
        · rw [Guesses.next_counted] at h ⊢
          split_ifs at h ⊢ with hcode
          · exact Nat.succ_le_succ (hkept.counted code' hcode.1)
          · exact (hkept.counted code' h).trans (Nat.le_succ _)
        · rw [Guesses.next_counted, if_neg ?_]
          · exact hkept.drop h
          · rintro ⟨-, rfl⟩
            exact hguess h
        · rw [Guesses.next_counted] at h' ⊢
          split_ifs at h' ⊢ with hcode
          · obtain ⟨hopened, rfl⟩ := hcode
            rw [hguess h] at hopened
            cases hopened
          · exact hkept.pickup h h'

/-! ### The calls -/

/-- The booking as the call has read it. -/
theorem safe_readForGuess {driverId : ℕ} :
    guessProtocol.Safe op tid (fun r x => ∀ booking ride, r = .ok (booking, ride) →
      x.state.db.bookings.get? bookingId = some booking) (requireDriverBooking driverId bookingId) x := by
  refine Protocol.Safe.bind (Protocol.Safe.mono (Q := fun r x => ∀ booking ride,
    r = .ok (some (booking, ride)) → x.state.db.bookings.get? bookingId = some booking) ?_ ?_)
  · refine Protocol.Safe.perform (A := fun _ => True) (fun _ _ _ _ _ => trivial) trivial
      fun y _ hinv => keeps_transact ?_ ?_
    · intro found d hbody _
      obtain ⟨rfl, rfl⟩ := Prod.mk.injEq .. ▸ Except.ok.inj hbody
      have hsame : y.next tid [] { y.state with
          db := (findBookingWithRide bookingId).write y.state.db y.state.db } = y := next_nil y tid
      rw [hsame]
      refine ⟨.of_same rfl rfl, hinv, ?_⟩
      intro booking ride hfound
      exact (findBookingWithRide_eq_some.mp (Except.ok.inj hfound)).1
    · exact fun _ _ _ _ => ⟨.of_same rfl rfl, hinv, fun _ _ h => by cases h⟩
  · rintro (e | found) y hy
    · exact fun _ _ h => by cases h
    cases found with
    | none => exact fun _ _ h => by cases h
    | some found =>
      obtain ⟨booking, ride⟩ := found
      dsimp only
      split_ifs with hdriver
      · exact fun _ _ h => by cases h
      · rintro booking' ride' hread
        obtain ⟨rfl, rfl⟩ := Prod.mk.injEq .. ▸ Except.ok.inj hread
        exact hy booking ride rfl

/-- A check that a call makes which is not forced. -/
theorem safe_assertOrForce {Q : Except Err α → LoggedWorld → Prop} {violated : Bool} {code : String}
    {f : Unit → Service α} (hthrow : ∀ e, Q (.error e) x)
    (h : violated = false → guessProtocol.Safe op tid Q (f ()) x) :
    guessProtocol.Safe op tid Q ((assertOrForce false violated code).bind f) x := by
  cases violated with
  | true => exact hthrow _
  | false => exact h rfl

/-- The booking is confirmed, or has been started by a right guess. -/
def ConfirmedOrOpened (bookingId : ℕ) (x : LoggedWorld) : Prop :=
  ∃ b, x.state.db.bookings.get? bookingId = some b ∧ (b.status = .confirmed ∨
    b.status.started = true ∧ (guessesAt x bookingId .pickup).opened = true)

/-- The booking is in one of these statuses. -/
def HasStatus (bookingId : ℕ) (statuses : BookingStatus → Bool) (x : LoggedWorld) : Prop :=
  ∃ b, x.state.db.bookings.get? bookingId = some b ∧ statuses b.status = true

theorem stable_confirmedOrOpened : guessProtocol.Stable tid (ConfirmedOrOpened bookingId) := by
  rintro x y ⟨b, hb, hstatus⟩ hrely _
  obtain ⟨b', hb', hkept⟩ := hrely.rows bookingId b hb
  refine ⟨b', hb', ?_⟩
  rcases hstatus with hconfirmed | ⟨hstarted, hopened⟩
  · exact hkept.confirmed hconfirmed
  · exact Or.inr ⟨hkept.started hstarted, hrely.opened _ _ hopened⟩

theorem stable_boarding :
    guessProtocol.Stable tid (HasStatus bookingId BookingStatus.boarding) := by
  rintro x y ⟨b, hb, hboarding⟩ hrely _
  obtain ⟨b', hb', hkept⟩ := hrely.rows bookingId b hb
  exact ⟨b', hb', hkept.boarding hboarding⟩

theorem stable_started : guessProtocol.Stable tid (HasStatus bookingId BookingStatus.started) := by
  rintro x y ⟨b, hb, hstarted⟩ hrely _
  obtain ⟨b', hb', hkept⟩ := hrely.rows bookingId b hb
  exact ⟨b', hb', hkept.started hstarted⟩

theorem BookingStatus.not_started_of_boarding {status : BookingStatus}
    (h : status.boarding = true) : status.started = false := by
  cases status <;> first | rfl | cases h

theorem BookingStatus.ne_confirmed_of_boarding {status : BookingStatus}
    (h : status.boarding = true) : status ≠ .confirmed := by
  rintro rfl
  cases h

theorem BookingStatus.ne_confirmed_of_started {status : BookingStatus}
    (h : status.started = true) : status ≠ .confirmed := by
  rintro rfl
  cases h

section Opens

variable {code : OtpCode} (hopens : e.opens = some (bookingId, code))

include hopens

/-- A right guess at a code of a booking says nothing of any other booking. -/
theorem next_of_opens_other {j : ℕ} {code' : OtpCode} (hj : j ≠ bookingId) (g : Guesses) :
    g.next j code' e = g := by
  refine Guesses.next_of_other ?_ ?_ ?_
  · rintro rfl
    cases hopens
  · rintro rfl
    cases hopens
  · rw [hopens]
    simp [Ne.symm hj]

theorem wrong_of_opens (code' : OtpCode) (g : Guesses) :
    (g.next bookingId code' e).wrong = g.wrong := by
  rw [Guesses.next_opens hopens]
  split_ifs <;> rfl

end Opens

/-- **The driver's older call** sets the counter back for a booking that is confirmed, of which the other
code has not been guessed at. -/
theorem safe_verifyPickupOtp {driverId : ℕ} {otpHash : Option String} :
    guessProtocol.Safe op tid (fun _ _ => True) (verifyPickupOtpRecorded driverId bookingId otpHash)
      x := by
  refine Protocol.Safe.bind (safe_readForGuess.mono ?_)
  rintro (e | ⟨booking, ride⟩) x hx
  · trivial
  refine safe_assertOrForce (fun _ => trivial) fun hstatus => ?_
  have hA : ConfirmedOrOpened bookingId x :=
    ⟨booking, hx booking ride rfl, Or.inl (bne_eq_false_iff_eq.mp hstatus)⟩
  refine safe_assertOrForce (fun _ => trivial) fun _ => ?_
  -- from here on the booking is confirmed, or a right guess has started it meanwhile
  suffices hsafe : ∀ x, ConfirmedOrOpened bookingId x → guessProtocol.Safe op tid
      (fun _ => ConfirmedOrOpened bookingId) _ x from (hsafe x hA).mono fun _ _ _ => trivial
  intro x hx
  refine Protocol.Safe.sequence (safe_besides leaves_clock stable_confirmedOrOpened hx)
    fun now y hy => ?_
  refine safe_assertOrForce (fun _ => hy) fun _ => safe_assertOrForce (fun _ => hy) fun _ => ?_
  refine Protocol.Safe.sequence (safe_compareOtp stable_confirmedOrOpened hy ?_) fun _ z hz => ?_
  · rintro y ⟨b, hb, hconfirmed | ⟨-, hopened⟩⟩
    · refine ⟨b, hb, fun hstarted => ?_⟩
      exact absurd hconfirmed (BookingStatus.ne_confirmed_of_started hstarted)
    · exact ⟨b, hb, fun _ => hopened⟩
  refine Protocol.Safe.sequence (safe_besides leaves_clock stable_confirmedOrOpened hz)
    fun verifiedAt z hz => ?_
  refine Protocol.Safe.sequence (Protocol.Safe.sequence (safe_writeBooking stable_confirmedOrOpened hz
    (fun j code hj g => @next_of_opens_other bookingId _ _ rfl j code hj g)
    (fun code g => @wrong_of_opens bookingId _ _ rfl code g) ?_) fun _ y hy => hy)
    fun _ y hy => ?_
  · intro y ctx b hy hinv hcond hb
    -- the counter is set back: of a booking that is confirmed still, whose drop-off code is not guessed at
    have hconfirmed := hcond.started bookingId b (List.mem_singleton_self _) hb
    refine ⟨⟨fun hboarding => ?_, fun _ => rfl, fun _ => Or.inr ⟨rfl, ?_⟩⟩, fun code hopened => ?_,
      fun h => (by cases h), fun _ hopened => ?_⟩
    · exact absurd hconfirmed (BookingStatus.ne_confirmed_of_boarding hboarding)
    · rw [Guesses.next_opens rfl, if_pos rfl]
    · cases code with
      | pickup =>
        rw [Guesses.next_opens rfl, if_pos rfl] at hopened
        cases hopened
      | drop =>
        rw [Guesses.next_opens rfl, if_neg (by simp)]
        exact ((hinv.counted bookingId b hb).drop hconfirmed).le
    · rw [Guesses.next_opens rfl, if_pos rfl] at hopened
      cases hopened
  · exact safe_besides (leaves_notify.bind fun _ => trivial) stable_confirmedOrOpened hy

/-- **Boarding** leaves the counter as it is. -/
theorem safe_verifyPickupAndBoard {driverId actionId : ℕ} {otpHash : Option String} :
    guessProtocol.Safe op tid (fun _ _ => True)
      (verifyPickupAndBoardRecorded driverId bookingId otpHash actionId) x := by
  refine Protocol.Safe.bind (safe_readForGuess.mono ?_)
  rintro (e | ⟨booking, ride⟩) x hx
  · trivial
  refine safe_assertOrForce (fun _ => trivial) fun hstatus => ?_
  have hA : HasStatus bookingId BookingStatus.boarding x := by
    refine ⟨booking, hx booking ride rfl, ?_⟩
    revert hstatus
    cases booking.status <;> decide
  refine safe_assertOrForce (fun _ => trivial) fun _ => ?_
  -- a booking on the way to boarding stays on it until it is boarded
  suffices hsafe : ∀ x, HasStatus bookingId BookingStatus.boarding x → guessProtocol.Safe op tid
      (fun _ => HasStatus bookingId BookingStatus.boarding) _ x from
    (hsafe x hA).mono fun _ _ _ => trivial
  intro x hx
  refine Protocol.Safe.sequence (safe_besides leaves_clock stable_boarding hx) fun now y hy => ?_
  refine safe_assertOrForce (fun _ => hy) fun _ => safe_assertOrForce (fun _ => hy) fun _ => ?_
  refine Protocol.Safe.sequence (safe_compareOtp stable_boarding hy ?_) fun _ z hz => ?_
  · rintro y ⟨b, hb, hboarding⟩
    refine ⟨b, hb, fun hstarted => ?_⟩
    rw [BookingStatus.not_started_of_boarding hboarding] at hstarted
    cases hstarted
  refine Protocol.Safe.sequence (Protocol.Safe.sequence (safe_writeBooking stable_boarding hz
    (fun j code hj g => @next_of_opens_other bookingId _ _ rfl j code hj g)
    (fun code g => @wrong_of_opens bookingId _ _ rfl code g) ?_) fun _ y hy => hy)
    fun _ y hy => ?_
  · intro y ctx b hy hinv _ hb
    -- the right guess boards the booking; the counter stays, with the guesses at the other code
    obtain ⟨b', hb', hboarding⟩ := hy
    obtain rfl := Option.some.inj (hb.symm.trans hb')
    refine ⟨⟨fun _ => rfl, fun hstarted => ?_, fun hconfirmed => ?_⟩, fun code hopened => ?_,
      fun h => (by cases h), fun h => (by cases h)⟩
    · rw [BookingStatus.not_started_of_boarding hboarding] at hstarted
      cases hstarted
    · exact absurd hconfirmed (BookingStatus.ne_confirmed_of_boarding hboarding)
    · cases code with
      | pickup =>
        rw [Guesses.next_opens rfl, if_pos rfl] at hopened
        cases hopened
      | drop =>
        rw [Guesses.next_opens rfl, if_neg (by simp)] at hopened ⊢
        exact (hinv.counted bookingId b hb).counted .drop hopened
  · refine safe_besides ((leaves_recordEvent (fun _ _ => rfl) _).bind fun _ => ?_) stable_boarding hy
    exact (leaves_handleForcedAction _).bind fun _ => leaves_notify

/-- **The drop-off** sets the counter back for a booking that has been started, of which the pickup code
has been guessed right, or not been guessed at. -/
theorem safe_verifyDropOtp {driverId : ℕ} {otpHash : Option String} :
    guessProtocol.Safe op tid (fun _ _ => True) (verifyDropOtpRecorded driverId bookingId otpHash)
      x := by
  refine Protocol.Safe.bind (safe_readForGuess.mono ?_)
  rintro (e | ⟨booking, ride⟩) x hx
  · trivial
  refine safe_assertOrForce (fun _ => trivial) fun hstatus => ?_
  have hA : HasStatus bookingId BookingStatus.started x := by
    refine ⟨booking, hx booking ride rfl, ?_⟩
    rw [bne_eq_false_iff_eq.mp hstatus]
    rfl
  refine safe_assertOrForce (fun _ => trivial) fun _ => ?_
  -- a booking that is started stays so until it is completed
  suffices hsafe : ∀ x, HasStatus bookingId BookingStatus.started x → guessProtocol.Safe op tid
      (fun _ => HasStatus bookingId BookingStatus.started) _ x from
    (hsafe x hA).mono fun _ _ _ => trivial
  intro x hx
  refine Protocol.Safe.sequence (safe_besides leaves_clock stable_started hx) fun now y hy => ?_
  refine safe_assertOrForce (fun _ => hy) fun _ => safe_assertOrForce (fun _ => hy) fun _ => ?_
  refine Protocol.Safe.sequence (safe_compareOtp stable_started hy ?_) fun _ z hz => ?_
  · rintro y ⟨b, hb, hstarted⟩
    exact ⟨b, hb, BookingStatus.ne_confirmed_of_started hstarted⟩
  refine Protocol.Safe.sequence (Protocol.Safe.sequence (safe_writeBooking stable_started hz
    (fun j code hj g => @next_of_opens_other bookingId _ _ rfl j code hj g)
    (fun code g => @wrong_of_opens bookingId _ _ rfl code g) ?_) fun _ y hy => hy)
    fun _ y hy => safe_besides leaves_notify stable_started hy
  intro y ctx b hy hinv _ hb
  -- the right guess completes the booking; what has been guessed at the pickup code was counted
  obtain ⟨b', hb', hstarted⟩ := hy
  obtain rfl := Option.some.inj (hb.symm.trans hb')
  have hkept := hinv.counted bookingId b hb
  refine ⟨⟨fun hboarding => ?_, fun _ => rfl, fun hconfirmed => ?_⟩, fun code hopened => ?_,
    fun h => (by cases h), fun _ hopened => ?_⟩
  · rw [BookingStatus.not_started_of_boarding hboarding] at hstarted
    cases hstarted
  · exact absurd hconfirmed (BookingStatus.ne_confirmed_of_started hstarted)
  · cases code with
    | pickup =>
      rw [Guesses.next_opens rfl, if_neg (by simp)] at hopened ⊢
      exact (hkept.pickup hstarted hopened).le
    | drop =>
      rw [Guesses.next_opens rfl, if_pos rfl] at hopened
      cases hopened
  · rw [Guesses.next_opens rfl, if_neg (by simp)] at hopened ⊢
    exact hkept.pickup hstarted hopened

/-- Every call is safe. -/
theorem safeOperations_guess : guessProtocol.SafeOperations := by
  intro op tid x _ _
  cases op with
  | verifyPickupOtp driverId bookingId otpHash => exact safe_verifyPickupOtp
  | verifyPickupAndBoard driverId bookingId otpHash actionId => exact safe_verifyPickupAndBoard
  | verifyDropOtp driverId bookingId otpHash => exact safe_verifyDropOtp

end Safe

/-! ## A call by itself -/

/-- The counter of a booking is not raised, and no wrong guess at its codes is compared. -/
structure NotGuessedAt (id : ℕ) (x y : LoggedWorld) : Prop where
  counter : ∀ b', y.state.db.bookings.get? id = some b' →
    ∃ b, x.state.db.bookings.get? id = some b ∧ b'.otpAttemptCount ≤ b.otpAttemptCount
  pending : ∀ code, (guessesAt y id code).opened = false → (guessesAt x id code).opened = false ∧
    (guessesAt y id code).wrong - (guessesAt y id code).counted ≤
      (guessesAt x id code).wrong - (guessesAt x id code).counted

theorem NotGuessedAt.refl {id : ℕ} (x : LoggedWorld) : NotGuessedAt id x x where
  counter b hb := ⟨b, hb, le_rfl⟩
  pending _ h := ⟨h, le_rfl⟩

theorem NotGuessedAt.trans {id : ℕ} {x y z : LoggedWorld} (h : NotGuessedAt id x y)
    (h' : NotGuessedAt id y z) : NotGuessedAt id x z where
  counter b'' hb'' := by
    obtain ⟨b', hb', hle'⟩ := h'.counter b'' hb''
    obtain ⟨b, hb, hle⟩ := h.counter b' hb'
    exact ⟨b, hb, hle'.trans hle⟩
  pending code hopened := by
    obtain ⟨hopened', hle'⟩ := h'.pending code hopened
    obtain ⟨hopened'', hle⟩ := h.pending code hopened'
    exact ⟨hopened'', hle'.trans hle⟩

/-- The condition on the comparisons, as far as it is about one booking. -/
def ComparesBelow (id : ℕ) (x : LoggedWorld) (es : List Event) : Prop :=
  ∀ code b, .otpCompared id code false ∈ es → x.state.db.bookings.get? id = some b →
    (guessesAt x id code).opened = false →
      b.otpAttemptCount + ((guessesAt x id code).wrong - (guessesAt x id code).counted) <
        maxOtpAttempts

/-- All wrong guesses at the codes of a booking have been counted. -/
def AllCounted (id : ℕ) (x : LoggedWorld) : Prop :=
  ∀ code, (guessesAt x id code).opened = false →
    (guessesAt x id code).wrong ≤ (guessesAt x id code).counted

/-- All have been counted, and a call about the booking has not read less than is in the counter. -/
structure CounterAtMost (id bookingId n : ℕ) (x : LoggedWorld) : Prop where
  all : AllCounted id x
  counter : bookingId = id → ∀ b, x.state.db.bookings.get? id = some b → b.otpAttemptCount ≤ n

section Alone

variable {id bookingId tid n : ℕ} {x : LoggedWorld} {α β : Type}

/-- Each step of what is left of a call meets the condition about a booking that is not guessed at
between its steps. -/
abbrev GuessAlone (id tid : ℕ) (Q : Except Err α → LoggedWorld → Prop) :
    Service α → LoggedWorld → Prop :=
  Program.Undisturbed guessPool (NotGuessedAt id) (ComparesBelow id) tid Q

theorem AllCounted.of_notGuessedAt {y : LoggedWorld} (h : AllCounted id x)
    (hxy : NotGuessedAt id x y) : AllCounted id y := by
  intro code hopened
  obtain ⟨hopened', hle⟩ := hxy.pending code hopened
  have hall := h code hopened'
  omega

theorem CounterAtMost.of_notGuessedAt {y : LoggedWorld} (h : CounterAtMost id bookingId n x)
    (hxy : NotGuessedAt id x y) : CounterAtMost id bookingId n y where
  all := h.all.of_notGuessedAt hxy
  counter hid b' hb' := by
    obtain ⟨b, hb, hle⟩ := hxy.counter b' hb'
    exact hle.trans (h.counter hid b hb)

/-- What is no comparison with a wrong guess. -/
def uncomparedFrame : Frame where
  db _ := ()
  stripe _ := ()
  events e := ∀ id code, e ≠ .otpCompared id code false

/-- The rest of a call, once it has compared its guess. -/
theorem guessAlone_rest {p : Service α} (h : p.Leaves uncomparedFrame) :
    GuessAlone id tid (fun _ _ => True) p x := by
  refine undisturbed_leaves (A := fun _ => True) h (fun y es hevents code b hcompared => ?_)
    (fun _ _ _ _ _ _ => trivial) (fun _ _ _ _ => trivial) trivial
  exact absurd rfl (hevents _ hcompared id code)

/-- A write of a booking that reports no comparison. -/
theorem leaves_writeBooking_uncompared {f : Ctx → Booking → Booking} {e : Event}
    (he : ∀ id code, e ≠ .otpCompared id code false) :
    Service.Leaves uncomparedFrame (Program.perform (.transact
      (fun ctx => Program.perform (update bookings bookingId (f ctx))) fun _ => [e])) := by
  refine (Program.issues_perform _).mpr ⟨fun ctx => ?_, fun _ e' he' => ?_⟩
  · exact (Program.issues_perform _).mpr fun _ _ => rfl
  · rw [List.mem_singleton.mp he']
    exact he

theorem leaves_moveBooking_uncompared {status : BookingStatus} {f : Booking → Booking} :
    (moveBooking bookingId status f).Leaves uncomparedFrame :=
  (leaves_writeBooking_uncompared fun _ _ h => by cases h).bind fun _ => trivial

theorem leaves_completeBooking_uncompared {f : Ctx → Booking → Booking} :
    (completeBooking bookingId f).Leaves uncomparedFrame :=
  (leaves_writeBooking_uncompared fun _ _ h => by cases h).bind fun _ => trivial

/-- A part between the read and the comparison. -/
theorem guessAlone_between {p : Service β} {f : β → Service α} (h : p.Leaves guessFrame)
    (hx : CounterAtMost id bookingId n x)
    (hf : ∀ b y, CounterAtMost id bookingId n y → GuessAlone id tid (fun _ _ => True) (f b) y) :
    GuessAlone id tid (fun _ _ => True) (p.bind f) x := by
  refine .sequence (undisturbed_leaves (A := CounterAtMost id bookingId n) h ?_ ?_
    (fun y z hy hyz => hy.of_notGuessedAt hyz) hx) (fun _ _ _ => trivial) hf
  · exact fun y es hevents code b hcompared => (hevents _ hcompared).elim
  · intro y es s hevents hrows hy
    obtain rfl : es = [] := List.eq_nil_iff_forall_not_mem.mpr hevents
    have hsame : s.db.bookings = y.state.db.bookings := hrows
    refine ⟨fun code => ?_, fun hid b hb => hy.counter hid b (hsame ▸ hb)⟩
    rw [guessesAt_next_nil]
    exact hy.all code

/-- A check that a call makes which is not forced. -/
theorem guessAlone_assertOrForce {violated : Bool} {code : String} {f : Unit → Service α}
    (h : violated = false → GuessAlone id tid (fun _ _ => True) (f ()) x) :
    GuessAlone id tid (fun _ _ => True) ((assertOrForce false violated code).bind f) x := by
  cases violated with
  | true => trivial
  | false => exact h rfl

/-- **The comparison** of a call that has read a counter below the limit, and the rest of the call. -/
theorem guessAlone_compareOtp {code : OtpCode} {isValid : Bool} {refused : String}
    {f : Unit → Service α} (hx : CounterAtMost id bookingId n x) (hn : n < maxOtpAttempts)
    (hf : ∀ u, (f u).Leaves uncomparedFrame) :
    GuessAlone id tid (fun _ _ => True) ((compareOtp bookingId code isValid refused).bind f) x := by
  intro y hy i b es s hexec
  obtain ⟨rfl, rfl, rfl⟩ := exec_eq hexec
  have hy := hx.of_notGuessedAt hy
  refine ⟨fun code' b hcompared hb hopened => ?_, guessAlone_rest ?_⟩
  · obtain ⟨rfl, rfl, rfl⟩ := Event.otpCompared.injEq .. ▸ List.mem_singleton.mp hcompared
    -- nothing is left to be counted, and the counter is what the call has read, or less
    have hcounter := hy.counter rfl b hb
    have hall := hy.all code' hopened
    omega
  · -- what follows compares nothing
    cases isValid with
    | true => exact hf ()
    | false =>
      refine Program.Issues.bind ?_ hf
      rw [if_neg Bool.false_ne_true]
      exact (leaves_writeBooking_uncompared fun _ _ h => by cases h).bind fun _ => trivial

/-- The read of a call: it knows what is in the counter. -/
theorem guessAlone_read {driverId : ℕ} {f : Booking × Ride → Service α} (hx : AllCounted id x)
    (hf : ∀ booking ride y, CounterAtMost id bookingId booking.otpAttemptCount y →
      GuessAlone id tid (fun _ _ => True) (f (booking, ride)) y) :
    GuessAlone id tid (fun _ _ => True) ((requireDriverBooking driverId bookingId).bind f) x := by
  refine .bind (.bind (undisturbed_sql (fun _ => rfl) (fun y code b hcompared => ?_)
    (fun y hy => ?_) fun _ _ => trivial))
  · cases hcompared
  cases hfound : (findBookingWithRide bookingId).answer y.state.db with
  | none => trivial
  | some found =>
    obtain ⟨booking, ride⟩ := found
    dsimp only
    split_ifs with hdriver
    · trivial
    refine hf booking ride y ⟨hx.of_notGuessedAt hy, ?_⟩
    rintro rfl b hb
    rw [(findBookingWithRide_eq_some.mp hfound).1] at hb
    exact (Option.some.inj hb ▸ le_rfl)

/-- The check of the limit, the comparison, and the rest of the call. -/
theorem guessAlone_limit {code : OtpCode} {isValid : Bool} {refused : String}
    {f : Unit → Service α} (hx : CounterAtMost id bookingId n x)
    (hf : ∀ u, (f u).Leaves uncomparedFrame) :
    GuessAlone id tid (fun _ _ => True)
      ((assertOrForce false (maxOtpAttempts ≤ n) "OTP_ATTEMPT_LIMIT_EXCEEDED").bind fun _ =>
        (compareOtp bookingId code isValid refused).bind f) x := by
  refine guessAlone_assertOrForce fun hlimit => guessAlone_compareOtp hx ?_ hf
  exact not_le.mp (of_decide_eq_false hlimit)

/-- **A call meets the condition by its own check of the limit**, about a booking that nobody else
guesses at between its steps, if all wrong guesses at it have been counted before. -/
theorem guess_compares_below (op : GuessOp) (hx : AllCounted id x) :
    GuessAlone id tid (fun _ _ => True) op.program x := by
  cases op with
  | verifyPickupOtp driverId bookingId otpHash =>
    refine guessAlone_read hx fun booking ride y hy => ?_
    refine guessAlone_assertOrForce fun _ => guessAlone_assertOrForce fun _ => ?_
    refine guessAlone_between leaves_clock hy fun now y hy => guessAlone_assertOrForce fun _ => ?_
    refine guessAlone_limit hy fun _ => ?_
    refine leaves_clock.bind fun verifiedAt => leaves_moveBooking_uncompared.bind fun _ => ?_
    exact leaves_notify.bind fun _ => trivial
  | verifyPickupAndBoard driverId bookingId otpHash actionId =>
    refine guessAlone_read hx fun booking ride y hy => ?_
    refine guessAlone_assertOrForce fun _ => guessAlone_assertOrForce fun _ => ?_
    refine guessAlone_between leaves_clock hy fun now y hy => guessAlone_assertOrForce fun _ => ?_
    refine guessAlone_limit hy fun _ => leaves_moveBooking_uncompared.bind fun _ => ?_
    refine (leaves_recordEvent (fun _ _ => rfl) _).bind fun _ => ?_
    exact (leaves_handleForcedAction _).bind fun _ => leaves_notify
  | verifyDropOtp driverId bookingId otpHash =>
    refine guessAlone_read hx fun booking ride y hy => ?_
    refine guessAlone_assertOrForce fun _ => guessAlone_assertOrForce fun _ => ?_
    refine guessAlone_between leaves_clock hy fun now y hy => guessAlone_assertOrForce fun _ => ?_
    exact guessAlone_limit hy fun _ => leaves_completeBooking_uncompared.bind fun _ => leaves_notify

end Alone

/-- So does the call in a history in which no other move guesses at the booking. -/
theorem undisturbed_call_compares_below {p : Pool Call Err Event World GuessOp} {id tid : ℕ}
    {op : GuessOp} (hcounted : AllCounted id p.now) (hthread : p.threads[tid]? = some (op, op.program))
    {moves : List (Move GuessOp Reply World)}
    (hothers : History.Each (Pool.step guessPool) (fun p move => (∀ i, move ≠ .step tid i) →
      NotGuessedAt id p.now (p.step guessPool move).now) p moves) :
    History.Each (Pool.step guessPool)
      (Pool.Meets guessPool (fun _ t x _ es => t = tid → ComparesBelow id x es) fun _ _ => True)
      p moves := by
  have halone : GuessAlone id tid (fun _ _ => True) op.program p.now :=
    guess_compares_below op hcounted
  exact Program.Undisturbed.meets (R := NotGuessedAt id) .refl (fun _ _ _ => .trans) hthread halone
    hothers

/-! ## Whole runs -/

/-- The pool before any call has been started. -/
def guessStart (w : World) : Pool Call Err Event World GuessOp := { now := { state := w } }

/-- **No code is guessed wrong more often than the limit before it is guessed right**, in any interleaving
whose steps meet the condition. -/
theorem guesses_within_limit (w : World) (moves : List (Move GuessOp Reply World))
    (hmeets : History.Each (Pool.step guessPool)
      (Pool.Meets guessPool GuessStep fun _ _ => True) (guessStart w) moves) :
    History.Always (Pool.step guessPool) (fun p => GuessesWithinLimit p.now) (guessStart w) moves := by
  have hstart : guessProtocol.Holds (guessStart w) := by
    refine Protocol.holds_of_inv ⟨fun id code => Nat.zero_le _, fun id b hb => ?_⟩ rfl rfl
    exact ⟨fun code _ => Nat.zero_le _, fun _ => rfl, fun _ _ => rfl⟩
  exact (Protocol.sound safeOperations_guess hstart hmeets).imp fun _ h => h.inv.limit

/-! ## Runs -/

section Runs

/-- A booking whose code nobody has guessed at. -/
private def unguessed : World where
  db := {
    rides := ⟨[(1, {
      driverId := 9, totalSeats := 3, availableSeats := 2, status := .inProgress,
      departureAt := 0 })], by simp⟩
    bookings := ⟨[(7, {
      rideId := 1, passengerId := 2, seatsBooked := 1, totalPrice := 1020, status := .confirmed,
      pickupOtpHash := some "1234", pickupOtpExpiresAt := some 100 })], by simp⟩ }

/-- A wrong guess. -/
private def wrongGuess : Move GuessOp Reply World := .start (.verifyPickupOtp 9 7 (some "0000"))

/-- A wrong guess that is counted before the next one is made, which is right. -/
private def oneAfterTheOther : List (Move GuessOp Reply World) :=
  [wrongGuess, .step 0 .ok, .step 0 .ok, .step 0 .ok, .step 0 .ok,
    .start (.verifyPickupOtp 9 7 (some "1234")), .step 1 .ok, .step 1 .ok, .step 1 .ok, .step 1 .ok,
    .step 1 .ok]

/-- Six calls read the booking; then each compares its guess. -/
private def sixAtOnce : List (Move GuessOp Reply World) :=
  List.replicate 6 wrongGuess ++
    (List.range 6).map (Move.step · .ok) ++ (List.range 6).flatMap fun tid => [.step tid .ok, .step tid .ok]

/-- A wrong guess and a right one. -/
theorem one_after_the_other_within_limit :
    History.Always (Pool.step guessPool) (fun p => GuessesWithinLimit p.now) (guessStart unguessed)
      oneAfterTheOther := by
  refine guesses_within_limit _ _ ⟨trivial, ?_, ?_, ?_, ?_, trivial, ?_, ?_, ?_, ?_, ?_, trivial⟩
  all_goals rintro op rest ⟨⟩ b es s ⟨⟩
  case refine_3 =>
    -- the first guess is wrong
    refine ⟨fun id code b h hb _ => ?_, fun id b h => (by cases List.mem_singleton.mp h)⟩
    obtain ⟨rfl, rfl, -⟩ := Event.otpCompared.injEq .. ▸ List.mem_singleton.mp h
    obtain rfl := Option.some.inj hb
    decide
  case refine_9 =>
    -- the second one is right, and the booking still confirmed
    refine ⟨fun id code b h => (by cases List.mem_singleton.mp h), fun id b h hb => ?_⟩
    obtain ⟨rfl, -⟩ := Event.bookingMoved.injEq .. ▸ List.mem_singleton.mp h
    obtain rfl := Option.some.inj hb
    rfl
  case refine_4 | refine_7 =>
    exact ⟨fun id code b h => (by cases List.mem_singleton.mp h),
      fun id b h => (by cases List.mem_singleton.mp h)⟩
  all_goals exact ⟨fun id code b h => absurd h List.not_mem_nil, fun id b h => absurd h List.not_mem_nil⟩

/-- Six guesses that are made at once. -/
theorem six_at_once_beyond_limit :
    ¬ ∀ (w : World) (moves : List (Move GuessOp Reply World)),
      History.Always (Pool.step guessPool) (fun p => GuessesWithinLimit p.now) (guessStart w) moves := by
  intro h
  have hlimit := (h unguessed sixAtOnce).last 7 .pickup
  exact absurd hlimit (by decide +kernel)

end Runs

end Deliivo

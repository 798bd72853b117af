import Deliivo.Booking.PaymentSucceeded

/-!
# A longer wait for the driver

Once the driver has let the deadline of a booking pass, the rider may give another hour, once.

## Main definitions

* `checkExtendable`: what is asked of the booking
* `extendWaitForDriver`
-/

namespace Deliivo

/-- `EXTENDED_DEADLINE_MS`. -/
def extendedDeadlineMs : ℕ := 60 * 60 * 1000

/-- The checks on the booking as it was read. -/
def checkExtendable (booking : Booking) (now : ℕ) : Except Err Unit :=
  if booking.status ≠ .driverPending then .error (.text "BOOKING_NOT_DRIVER_PENDING")
  else if booking.driverDecisionDeadlineAt.all (now < ·) then .error (.text "DEADLINE_NOT_EXPIRED")
  else if booking.deadlineExtendedAt.isSome then .error (.text "ALREADY_EXTENDED")
  else .ok ()

/-- Write the new deadline, by the id of the booking alone. -/
def writeExtendedDeadline (bookingId newDeadline : ℕ) (ctx : Ctx) : Stmt (Except Err Booking) :=
  update bookings bookingId fun b => { b with
    driverDecisionDeadlineAt := some newDeadline
    deadlineExtendedAt := some ctx.now }

def extendWaitForDriver (passengerId bookingId : ℕ) : Service Unit := do
  let found ← sql <| findFirst bookings fun id b =>
    id == bookingId && b.passengerId == passengerId && b.status == .driverPending
  match found with
  | none => throw (.text "BOOKING_NOT_FOUND")
  | some (_, booking) => do
    let now ← Program.command .clock
    Program.ofExcept (checkExtendable booking now)
    -- the new deadline is counted from the clock, not from the departure
    let now ← Program.command .clock
    let _ ← Program.perform <| .transact
      (fun ctx => Program.perform (writeExtendedDeadline bookingId (now + extendedDeadlineMs) ctx))
      fun _ => [.deadlineExtended bookingId]
    notify

end Deliivo

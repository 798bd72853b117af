import Deliivo.Booking.Creation
import Deliivo.Booking.Frame
import Deliivo.Domain.Pool
import Deliivo.Domain.Preserves
import Deliivo.Money.Receipt
import Deliivo.Payment.Spec
import Deliivo.Program.Traced

/-!
# Repairing the payment of a request

A checkout that was interrupted may have left a booking without its payment row. `ensureRequestPayment`
creates the row where it is missing, from the fee that was stored with the booking, and links a row
without an intent to the booking's. It runs within the transaction that matches the request, or on the
database itself, each statement next to whatever else goes on.

**A row that is created has the amounts of the checkout, a row that is there keeps its amounts and its
status, and one row is left** (`request_payment_repaired`).

## Main definitions

* `Exact.ensuredSplit`: the amounts of the repair, on rational numbers as in the source
* `RepairCall.created`: the row that a call creates
* `RepairStep`: what one step of a call may do to the payment rows
* `repairPool`: the calls next to each other and to the rest of the code, with what every step was
  answered
* `Repaired`: what is to hold at every moment

## Main results

* `Exact.ensuredSplit_checkout`: the repair and the checkout arrive at the same cents
* `ensuredSplit_cents`: in whole cents these are the amounts of the calls
* `RepairCall.Checkout.created`, `checkout_of_createUnpaidBooking`
* `request_payment_repaired`
-/

universe u

open Program (Concurrent Move Pool)

namespace Deliivo

/-! ## The amounts -/

namespace Exact

/-- `platformFeeAmount`: the stored fee or, for a booking without one, a percentage of its price. -/
def ensuredFee (feePercent : Option ℚ) (booking : BookingColumns) : Option ℚ :=
  match booking.serviceFeeAmount, feePercent with
  | some fee, _ => some fee
  | none, some percent =>
    if 0 ≤ percent ∧ percent ≤ 100 then some ((booking.totalPrice * percent).roundHalfUp / 100) else none
  | none, none => none

/-- The amounts of the row that `ensureRequestPayment` creates. -/
def ensuredSplit (feePercent : Option ℚ) (booking : BookingColumns) (currency : String) :
    Option PaymentSplit :=
  match ensuredFee feePercent booking with
  | none => none
  | some platformFeeAmount =>
    if 0 ≤ platformFeeAmount ∧ platformFeeAmount ≤ booking.totalPrice then
      some {
        amountTotal := booking.totalPrice
        fareAmount := (booking.totalPrice - platformFeeAmount).toHundredth
        platformFeeAmount
        currency }
    else none

/-- **The repair and the checkout** arrive at the same amounts, whatever `PLATFORM_FEE_PERCENT` is: a
booking that could be made has a fee, and a fare that is not negative. -/
theorem ensuredSplit_checkout {input : CalculateBookingPriceInput} {split : PaymentSplit}
    (hpercent : 0 ≤ input.serviceFeePercent) (hflat : 0 ≤ input.serviceFeeFlat)
    (hsplit : resolvePaymentSplit (calculateBookingPrice input) = .ok split)
    (feePercent : Option ℚ) (segmentFare : ℚ) (paymentCurrency rideCurrency : Option String)
    (currency : String) :
    ensuredSplit feePercent (bookingColumns (calculateBookingPrice input) segmentFare paymentCurrency
      rideCurrency) currency = some { split with currency } := by
  simp only [resolvePaymentSplit, serviceFee_hundredths, totalPrice_hundredths,
    add_sub_cancel_right] at hsplit
  -- the checkout would have thrown if the fare were negative
  by_cases hneg : input.subtotalCents < 0
  · rw [if_pos hneg] at hsplit
    cases hsplit
  rw [if_neg hneg, if_neg (not_not.mpr rfl)] at hsplit
  obtain rfl := Except.ok.inj hsplit
  have hsubtotal : 0 ≤ input.subtotalCents := not_lt.mp hneg
  have hfee : 0 ≤ input.serviceFeeCents := by
    refine add_nonneg (Rat.roundHalfUp_nonneg ?_) (Rat.hundredths_nonneg hflat)
    have hcast : (0 : ℚ) ≤ input.subtotalCents := by exact_mod_cast hsubtotal
    positivity
  have htotal : (calculateBookingPrice input).totalPrice =
      ((input.subtotalCents + input.serviceFeeCents : ℤ) : ℚ) / 100 := by
    show ((input.subtotalCents + 0 + input.serviceFeeCents : ℤ) : ℚ) / 100 = _
    rw [add_zero]
  have hserviceFee : (calculateBookingPrice input).serviceFee = (input.serviceFeeCents : ℚ) / 100 := rfl
  have hfare : (calculateBookingPrice input).totalPrice - (calculateBookingPrice input).serviceFee =
      (input.subtotalCents : ℚ) / 100 := by
    rw [htotal, hserviceFee]
    push_cast
    ring
  have hrange : 0 ≤ (calculateBookingPrice input).serviceFee ∧
      (calculateBookingPrice input).serviceFee ≤ (calculateBookingPrice input).totalPrice := by
    constructor
    · rw [hserviceFee]
      have hcast : (0 : ℚ) ≤ input.serviceFeeCents := by exact_mod_cast hfee
      positivity
    · have hcast : (0 : ℚ) ≤ (input.subtotalCents : ℚ) / 100 := by
        have : (0 : ℚ) ≤ input.subtotalCents := by exact_mod_cast hsubtotal
        positivity
      linarith
  have hcolumns : ensuredFee feePercent (bookingColumns (calculateBookingPrice input) segmentFare
      paymentCurrency rideCurrency) = some (calculateBookingPrice input).serviceFee := rfl
  rw [ensuredSplit, hcolumns]
  refine (if_pos hrange).trans ?_
  show some (PaymentSplit.mk (calculateBookingPrice input).totalPrice
    ((calculateBookingPrice input).totalPrice - (calculateBookingPrice input).serviceFee).toHundredth
    (calculateBookingPrice input).serviceFee currency) = _
  rw [hfare, Rat.toHundredth_of_isHundredths ⟨_, rfl⟩, htotal, hserviceFee]

end Exact

/-- The columns of a booking in the currency's unit. -/
def Booking.exactColumns (booking : Booking) : Exact.BookingColumns where
  seatsBooked := booking.seatsBooked
  totalPrice := booking.totalPrice / 100
  segmentFare := booking.segmentFare.map fun cents : ℤ => (cents : ℚ) / 100
  serviceFeeAmount := booking.serviceFeeAmount.map fun cents : ℤ => (cents : ℚ) / 100
  serviceFeePercent := none
  paymentCurrency := booking.paymentCurrency
  rideCurrency := none

/-- A split in the currency's unit. -/
def PaymentSplit.exact (split : PaymentSplit) : Exact.PaymentSplit where
  amountTotal := split.amountTotal / 100
  fareAmount := split.fareAmount / 100
  platformFeeAmount := split.platformFeeAmount / 100
  currency := split.currency

/-- **In whole cents** the amounts of the repair are those that it works with below. -/
theorem ensuredSplit_cents (feePercent : Option ℚ) (booking : Booking) (currency : String) :
    Exact.ensuredSplit feePercent booking.exactColumns currency =
      (requestPaymentSplit feePercent booking currency).map PaymentSplit.exact := by
  have hfee : Exact.ensuredFee feePercent booking.exactColumns =
      (requestPlatformFee feePercent booking).map fun cents : ℤ => (cents : ℚ) / 100 := by
    simp only [Exact.ensuredFee, requestPlatformFee, Booking.exactColumns]
    cases booking.serviceFeeAmount with
    | some fee => rfl
    | none =>
      cases feePercent with
      | none => rfl
      | some percent =>
        by_cases hpercent : 0 ≤ percent ∧ percent ≤ 100
        · simp only [Option.map_none, if_pos hpercent, Option.map_some, Rat.roundHalfUp]
          rw [div_mul_eq_mul_div]
        · simp only [Option.map_none, if_neg hpercent]
  simp only [Exact.ensuredSplit, requestPaymentSplit, hfee]
  -- the same range check, and the same difference
  cases requestPlatformFee feePercent booking with
  | none => rfl
  | some fee =>
    have hrange : (0 ≤ (fee : ℚ) / 100 ∧ (fee : ℚ) / 100 ≤ booking.exactColumns.totalPrice) ↔
        (0 ≤ fee ∧ fee ≤ booking.totalPrice) := by
      show (0 ≤ (fee : ℚ) / 100 ∧ (fee : ℚ) / 100 ≤ (booking.totalPrice : ℚ) / 100) ↔ _
      rw [div_le_div_iff_of_pos_right (by norm_num), le_div_iff₀ (by norm_num), zero_mul, Int.cast_le,
        ← Int.cast_nonneg_iff (R := ℚ)]
    have hfare : (booking.exactColumns.totalPrice - (fee : ℚ) / 100).toHundredth =
        ((booking.totalPrice - fee : ℤ) : ℚ) / 100 := by
      have hdiff : booking.exactColumns.totalPrice - (fee : ℚ) / 100 =
          ((booking.totalPrice - fee : ℤ) : ℚ) / 100 := by
        show (booking.totalPrice : ℚ) / 100 - (fee : ℚ) / 100 = _
        push_cast
        ring
      rw [hdiff, Rat.toHundredth_of_isHundredths ⟨_, rfl⟩]
    simp only [Option.map_some]
    by_cases hin : 0 ≤ fee ∧ fee ≤ booking.totalPrice
    · rw [if_pos (hrange.mpr hin), dif_pos hin, hfare]
      rfl
    · rw [if_neg (fun h => hin (hrange.mp h)), dif_neg hin]
      rfl

/-- The split is one of the price, in the currency. -/
theorem requestPaymentSplit_some {feePercent : Option ℚ} {booking : Booking} {currency : String}
    {split : PaymentSplit} (h : requestPaymentSplit feePercent booking currency = some split) :
    split.amountTotal = booking.totalPrice ∧ split.currency = currency := by
  unfold requestPaymentSplit at h
  cases hfee : requestPlatformFee feePercent booking with
  | none =>
    rw [hfee] at h
    cases h
  | some fee =>
    rw [hfee] at h
    by_cases hrange : 0 ≤ fee ∧ fee ≤ booking.totalPrice
    · simp only [dif_pos hrange, Option.some.injEq] at h
      rw [← h]
      exact ⟨rfl, rfl⟩
    · simp only [dif_neg hrange] at h
      cases h

/-! ## The calls -/

section Body

variable {F : Type → Type u} (upsert : Payment → Program F Err (ℕ × Payment))
  (link : ℕ → ℕ → Program F Err Unit)

/-- `ensureRequestPayment` over a client of the database: its upsert, and its update of a row without an
intent. -/
def ensureRequestPaymentWith (feePercent : Option ℚ) (bookingId : ℕ) (booking : Booking) :
    Program F Err Unit :=
  match booking.stripePaymentIntentId, booking.paymentCurrency with
  | none, _ => throw (.text "REQUEST_PAYMENT_NOT_INITIALIZED")
  | some _, none => throw (.text "REQUEST_PAYMENT_CURRENCY_MISSING")
  | some intent, some paymentCurrency =>
    match requestPaymentSplit feePercent booking (toUpperCase paymentCurrency) with
    | none => throw (.text "INVALID_PLATFORM_FEE")
    | some split => do
      let (paymentId, payment) ← upsert
        { split with
          bookingId
          rideId := booking.rideId
          riderId := booking.passengerId
          stripePaymentIntentId := some intent
          status := .paymentPending }
      if payment.matchesBooking booking intent (toUpperCase paymentCurrency) then
        if payment.stripePaymentIntentId.isNone then link paymentId intent
        else return ()
      else throw (.text "REQUEST_PAYMENT_RECORD_MISMATCH")

/-- Within a transaction its client is the transaction. -/
theorem ensureRequestPayment_eq (feePercent : Option ℚ) (uuid bookingId : ℕ) (booking : Booking) :
    ensureRequestPayment feePercent uuid bookingId booking =
      ensureRequestPaymentWith (fun row => Program.command (upsertPayment uuid bookingId row))
        linkRequestPayment feePercent bookingId booking := rfl

end Body

/-- A call: the configured percentage, and the booking as it was read. -/
structure RepairCall where
  feePercent : Option ℚ
  bookingId : ℕ
  booking : Booking

namespace RepairCall

variable (c : RepairCall)

/-- The intent of the booking and the row that a call creates where there is none, or what it throws
before it looks for one. -/
def created : Except Err (ℕ × Payment) :=
  match c.booking.stripePaymentIntentId, c.booking.paymentCurrency with
  | none, _ => .error (.text "REQUEST_PAYMENT_NOT_INITIALIZED")
  | some _, none => .error (.text "REQUEST_PAYMENT_CURRENCY_MISSING")
  | some intent, some paymentCurrency =>
    match requestPaymentSplit c.feePercent c.booking (toUpperCase paymentCurrency) with
    | none => .error (.text "INVALID_PLATFORM_FEE")
    | some split => .ok (intent,
        { split with
          bookingId := c.bookingId
          rideId := c.booking.rideId
          riderId := c.booking.passengerId
          stripePaymentIntentId := some intent
          status := .paymentPending })

/-- A row is the one of the booking: its ride, its rider, its price and its currency. -/
structure Charges (row : Payment) : Prop where
  bookingId : row.bookingId = c.bookingId
  rideId : row.rideId = c.booking.rideId
  riderId : row.riderId = c.booking.passengerId
  amountTotal : row.amountTotal = c.booking.totalPrice
  currency : c.booking.paymentCurrency.map toUpperCase = some (toUpperCase row.currency)

/-- What the call does with the row that it has found or created. -/
def settle {F : Type → Type u} (link : ℕ → ℕ → Program F Err Unit) (intent : ℕ) (row : Payment)
    (found : ℕ × Payment) : Program F Err Unit :=
  if found.2.matchesBooking c.booking intent row.currency then
    if found.2.stripePaymentIntentId.isNone then link found.1 intent else .ret ()
  else .throw (.text "REQUEST_PAYMENT_RECORD_MISMATCH")

theorem ensureRequestPaymentWith_eq {F : Type → Type u}
    (upsert : Payment → Program F Err (ℕ × Payment)) (link : ℕ → ℕ → Program F Err Unit) :
    ensureRequestPaymentWith upsert link c.feePercent c.bookingId c.booking =
      (Program.ofExcept c.created).bind fun r => (upsert r.2).bind (c.settle link r.1 r.2) := by
  unfold ensureRequestPaymentWith created
  cases c.booking.stripePaymentIntentId with
  | none => rfl
  | some intent =>
    cases c.booking.paymentCurrency with
    | none => rfl
    | some paymentCurrency =>
      cases hsplit : requestPaymentSplit c.feePercent c.booking (toUpperCase paymentCurrency) with
      | none =>
        simp only [hsplit]
        rfl
      | some split =>
        have hcurrency : split.currency = toUpperCase paymentCurrency :=
          (requestPaymentSplit_some hsplit).2
        simp only [hsplit, Program.ofExcept_ok, Program.ret_bind]
        unfold settle
        rw [hcurrency]
        rfl

/-- The row that a call creates is the one of its booking, linked and waiting for its payment. -/
theorem created_ok {c : RepairCall} {intent : ℕ} {row : Payment} (h : c.created = .ok (intent, row)) :
    c.Charges row ∧ row.matchesBooking c.booking intent row.currency ∧
      c.booking.stripePaymentIntentId = some intent ∧ row.stripePaymentIntentId = some intent ∧
      c.booking.paymentCurrency.map toUpperCase = some row.currency := by
  unfold created at h
  cases hintent : c.booking.stripePaymentIntentId with
  | none =>
    simp only [hintent] at h
    cases h
  | some intent' =>
    cases hcurrency : c.booking.paymentCurrency with
    | none =>
      simp only [hintent, hcurrency] at h
      cases h
    | some paymentCurrency =>
      simp only [hintent, hcurrency] at h
      cases hsplit : requestPaymentSplit c.feePercent c.booking (toUpperCase paymentCurrency) with
      | none =>
        simp only [hsplit] at h
        cases h
      | some split =>
        simp only [hsplit, Except.ok.injEq, Prod.mk.injEq] at h
        obtain ⟨rfl, rfl⟩ := h
        obtain ⟨htotal, hupper⟩ := requestPaymentSplit_some hsplit
        -- a text in capitals stays as it is, so the row passes the check that follows
        have hstays : toUpperCase split.currency = split.currency := by
          rw [hupper, toUpperCase_toUpperCase]
        have hcharged : c.booking.paymentCurrency.map toUpperCase = some split.currency := by
          rw [hcurrency, hupper]
          rfl
        exact ⟨⟨rfl, rfl, rfl, htotal, hcharged.trans (congrArg some hstays.symm)⟩,
          ⟨rfl, rfl, htotal, hstays, Or.inr rfl⟩, rfl, rfl, by rw [hupper]; rfl⟩

/-- A row that passes the check is the one of the booking. -/
theorem charges_of_matchesBooking {c : RepairCall} {intent : ℕ} {row payment : Payment}
    (h : c.created = .ok (intent, row)) (hbooking : payment.bookingId = c.bookingId)
    (hmatches : payment.matchesBooking c.booking intent row.currency) : c.Charges payment := by
  obtain ⟨-, -, -, -, hcurrency⟩ := created_ok h
  obtain ⟨hride, hrider, htotal, hpayment, -⟩ := hmatches
  exact ⟨hbooking, hride, hrider, htotal, hcurrency.trans (congrArg some hpayment.symm)⟩

/-- A row is refused, left alone or linked. -/
theorem settle_cases {F : Type → Type u} (link : ℕ → ℕ → Program F Err Unit) (c : RepairCall)
    (intent : ℕ) (row : Payment) (found : ℕ × Payment) :
    c.settle link intent row found = .throw (.text "REQUEST_PAYMENT_RECORD_MISMATCH") ∧
        ¬found.2.matchesBooking c.booking intent row.currency ∨
      c.settle link intent row found = .ret () ∨
      c.settle link intent row found = link found.1 intent ∧
        found.2.matchesBooking c.booking intent row.currency ∧
        found.2.stripePaymentIntentId = none := by
  unfold settle
  by_cases hmatches : found.2.matchesBooking c.booking intent row.currency
  · rw [if_pos hmatches]
    by_cases hnone : found.2.stripePaymentIntentId.isNone
    · rw [if_pos hnone]
      exact Or.inr (Or.inr ⟨rfl, hmatches, Option.isNone_iff_eq_none.mp hnone⟩)
    · rw [if_neg hnone]
      exact Or.inr (Or.inl rfl)
  · rw [if_neg hmatches]
    exact Or.inl ⟨rfl, hmatches⟩

/-- The row that the call has created itself is left alone. -/
theorem settle_created {F : Type → Type u} (link : ℕ → ℕ → Program F Err Unit) {c : RepairCall}
    {intent : ℕ} {row : Payment} (h : c.created = .ok (intent, row)) (id : ℕ) :
    c.settle link intent row (id, row) = .ret () := by
  obtain ⟨-, hmatches, -, hlinked, -⟩ := created_ok h
  unfold settle
  rw [if_pos hmatches, hlinked]
  rfl

end RepairCall

/-! ## The two statements -/

section Statements

variable {d d' : Db} {bookingId id intent : ℕ} {row : Payment}

/-- The upsert finds the row of the booking and leaves it alone, or there is none and it creates one. -/
theorem upsertPayment_cases (id bookingId : ℕ) (row : Payment) (d : Db) :
    (∃ paymentId payment, (upsertPayment id bookingId row).answer d = (paymentId, payment) ∧
        (upsertPayment id bookingId row).write d d = d ∧
        d.payments.get? paymentId = some payment ∧ payment.bookingId = bookingId) ∨
      (upsertPayment id bookingId row).answer d = (id, row) ∧
        (upsertPayment id bookingId row).write d d =
          { d with payments := d.payments.insert id row } ∧
        ∀ j q, d.payments.get? j = some q → q.bookingId ≠ bookingId := by
  cases hfirst : (findPaymentOfBooking bookingId).answer d with
  | none =>
    refine Or.inr ⟨by simp only [upsertPayment, hfirst]; rfl, by simp only [upsertPayment, hfirst], ?_⟩
    intro j q hq hbooking
    exact Table.not_of_filter_nil (List.head?_eq_none_iff.mp hfirst) hq (beq_iff_eq.mpr hbooking)
  | some found =>
    have hmem : found ∈ d.payments.filter fun _ p => p.bookingId == bookingId :=
      List.mem_of_mem_head? hfirst
    obtain ⟨hget, hbooking⟩ := Table.mem_filter_iff.mp hmem
    exact Or.inl ⟨found.1, found.2, by simp only [upsertPayment, hfirst]; rfl,
      by simp only [upsertPayment, hfirst], hget, beq_iff_eq.mp hbooking⟩

/-- A row that is linked had no intent, and nothing else of the table changes. -/
theorem atomic_linkRequestPayment {u : Unit}
    (hrun : (linkRequestPayment id intent).atomic d = .ok (u, d')) :
    ∃ row, d.payments.get? id = some row ∧ row.stripePaymentIntentId = none ∧
      ∀ j, d'.payments.get? j =
        if j = id then some { row with stripePaymentIntentId := some intent } else d.payments.get? j := by
  set P : ℕ → Payment → Bool := fun j p => j == id && p.stripePaymentIntentId.isNone with hP
  set link : Payment → Payment := fun p => { p with stripePaymentIntentId := some intent } with hlink
  -- an update of no row throws, so that one was found
  have hrows : (d.payments.filter P).map Prod.fst ≠ [] ∧
      d' = { d with payments := d.payments.modifyWhere (fun j _ => d.payments.holds P j) link } := by
    have hatomic : (linkRequestPayment id intent).atomic d =
        Tx.atomic (if (d.payments.filter P).map Prod.fst = [] then
            .throw (.text "REQUEST_PAYMENT_LINK_CHANGED") else .ret ())
          ((updateMany payments P link).write d d) := rfl
    rw [hatomic] at hrun
    by_cases hnil : (d.payments.filter P).map Prod.fst = []
    · rw [if_pos hnil] at hrun
      cases hrun
    · rw [if_neg hnil] at hrun
      exact ⟨hnil, (Prod.mk.injEq .. ▸ Except.ok.inj hrun).2.symm⟩
  obtain ⟨hnil, rfl⟩ := hrows
  -- the row that was found is the one with the id, and had no intent
  obtain ⟨found, hfound⟩ := List.exists_mem_of_ne_nil _ fun h => hnil (congrArg _ h)
  obtain ⟨hget, hholds⟩ := Table.mem_filter_iff.mp (show (found.1, found.2) ∈ _ from hfound)
  obtain ⟨hid, hnone⟩ := Bool.and_eq_true_iff.mp hholds
  obtain rfl : found.1 = id := beq_iff_eq.mp hid
  refine ⟨found.2, hget, Option.isNone_iff_eq_none.mp hnone, fun j => ?_⟩
  rw [Table.get?_modifyWhere]
  by_cases hj : j = found.1
  · rw [if_pos hj, hj, hget, Option.map_some, if_pos]
    rw [Table.holds, hget]
    exact hholds
  · rw [if_neg hj]
    have hfalse : d.payments.holds P j = false := by
      unfold Table.holds
      cases d.payments.get? j with
      | none => rfl
      | some q => exact Bool.and_eq_false_imp.mpr fun h => absurd (beq_iff_eq.mp h) hj
    simp only [hfalse, Bool.false_eq_true, if_false, Option.map_id']

end Statements

/-! ## One step -/

/-- No booking has two payment rows. -/
def OnePerBooking (t : Table Payment) : Prop :=
  ∀ i j p q, t.get? i = some p → t.get? j = some q → p.bookingId = q.bookingId → i = j

/-- The columns of a payment that stay as they were written. -/
structure SameCharge (p q : Payment) : Prop where
  split : q.toPaymentSplit = p.toPaymentSplit
  bookingId : q.bookingId = p.bookingId
  rideId : q.rideId = p.rideId
  riderId : q.riderId = p.riderId

theorem SameCharge.refl (p : Payment) : SameCharge p p := ⟨rfl, rfl, rfl, rfl⟩

theorem SameCharge.trans {p q r : Payment} (h : SameCharge p q) (h' : SameCharge q r) :
    SameCharge p r :=
  ⟨h'.split.trans h.split, h'.bookingId.trans h.bookingId, h'.rideId.trans h.rideId,
    h'.riderId.trans h.riderId⟩

theorem RepairCall.Charges.of_same {c : RepairCall} {p q : Payment} (h : c.Charges p)
    (hsame : SameCharge p q) : c.Charges q := by
  obtain ⟨hsplit, hbooking, hride, hrider⟩ := hsame
  refine ⟨hbooking.trans h.bookingId, hride.trans h.rideId, hrider.trans h.riderId, ?_, ?_⟩
  · rw [hsplit]
    exact h.amountTotal
  · rw [hsplit]
    exact h.currency

/-- Every row is still there, for the same charge. -/
def PaymentsKept (t t' : Table Payment) : Prop :=
  ∀ id p, t.get? id = some p → ∃ q, t'.get? id = some q ∧ SameCharge p q

theorem PaymentsKept.refl (t : Table Payment) : PaymentsKept t t := fun _ p h => ⟨p, h, .refl p⟩

theorem PaymentsKept.trans {t t' t'' : Table Payment} (h : PaymentsKept t t')
    (h' : PaymentsKept t' t'') : PaymentsKept t t'' := by
  intro id p hp
  obtain ⟨q, hq, hpq⟩ := h id p hp
  obtain ⟨r, hr, hqr⟩ := h' id q hq
  exact ⟨r, hr, hpq.trans hqr⟩

/-- What a step of a call may do to the rows: link the row of its booking, or create one where there is
none. -/
structure RepairStep (c : RepairCall) (t t' : Table Payment) : Prop where
  kept : ∀ id row, t.get? id = some row → t'.get? id = some row ∨
    c.Charges row ∧ row.stripePaymentIntentId = none ∧
      t'.get? id = some { row with stripePaymentIntentId := c.booking.stripePaymentIntentId }
  created : ∀ id row, t.get? id = none → t'.get? id = some row →
    (∃ intent, c.created = .ok (intent, row)) ∧
      ∀ j q, t'.get? j = some q → q.bookingId = c.bookingId → j = id

namespace RepairStep

variable {c : RepairCall} {t t' : Table Payment}

theorem refl (c : RepairCall) (t : Table Payment) : RepairStep c t t where
  kept _ _ h := Or.inl h
  created _ _ hnone hsome := by
    rw [hnone] at hsome
    cases hsome

theorem paymentsKept (h : RepairStep c t t') : PaymentsKept t t' := by
  intro id p hp
  rcases h.kept id p hp with hsame | ⟨-, -, hlinked⟩
  · exact ⟨p, hsame, .refl p⟩
  · exact ⟨_, hlinked, rfl, rfl, rfl, rfl⟩

/-- A created row is the only one of its booking. -/
theorem onePerBooking (h : RepairStep c t t') (hone : OnePerBooking t) : OnePerBooking t' := by
  have hold : ∀ i p p', t.get? i = some p → t'.get? i = some p' → p'.bookingId = p.bookingId := by
    intro i p p' hp hp'
    obtain ⟨q, hq, hsame⟩ := h.paymentsKept i p hp
    obtain rfl : q = p' := Option.some.inj (hq.symm.trans hp')
    exact hsame.bookingId
  have hnew : ∀ i j p q, t.get? i = none → t'.get? i = some p → t'.get? j = some q →
      p.bookingId = q.bookingId → j = i := by
    intro i j p q hnone hp hq hbooking
    obtain ⟨⟨intent, hcreated⟩, halone⟩ := h.created i p hnone hp
    obtain ⟨hcharges, -⟩ := RepairCall.created_ok hcreated
    exact halone j q hq (hbooking.symm.trans hcharges.bookingId)
  intro i j p q hp hq hbooking
  cases hi : t.get? i with
  | none => exact (hnew i j p q hi hp hq hbooking).symm
  | some p₀ =>
    cases hj : t.get? j with
    | none => exact hnew j i q p hj hq hp hbooking.symm
    | some q₀ =>
      exact hone i j p₀ q₀ hi hj ((hold i p₀ p hi hp).symm.trans (hbooking.trans (hold j q₀ q hj hq)))

/-- Linking the row of the booking. -/
theorem of_linked {id intent : ℕ} {row : Payment} (hrow : t.get? id = some row)
    (hcharges : c.Charges row) (hintent : c.booking.stripePaymentIntentId = some intent)
    (hnone : row.stripePaymentIntentId = none)
    (hget : ∀ j, t'.get? j =
      if j = id then some { row with stripePaymentIntentId := some intent } else t.get? j) :
    RepairStep c t t' where
  kept j p hp := by
    rw [hget]
    by_cases hj : j = id
    · rw [if_pos hj, hintent]
      obtain rfl : row = p := Option.some.inj (hrow.symm.trans (hj ▸ hp))
      exact Or.inr ⟨hcharges, hnone, rfl⟩
    · rw [if_neg hj]
      exact Or.inl hp
  created j p hfree hp := by
    rw [hget] at hp
    by_cases hj : j = id
    · rw [hj, hrow] at hfree
      cases hfree
    · rw [if_neg hj, hfree] at hp
      cases hp

/-- Creating a row for a booking that has none. -/
theorem of_inserted {id intent : ℕ} {row : Payment} (hcreated : c.created = .ok (intent, row))
    (hfree : t.get? id = none) (hnone : ∀ j q, t.get? j = some q → q.bookingId ≠ c.bookingId) :
    RepairStep c t (t.insert id row) where
  kept j p hp := by
    rw [Table.get?_insert hfree]
    -- the id was free, so no row is replaced
    have hj : j ≠ id := by
      rintro rfl
      rw [hfree] at hp
      cases hp
    rw [if_neg hj]
    exact Or.inl hp
  created j p hj hp := by
    rw [Table.get?_insert hfree] at hp
    by_cases hjid : j = id
    · rw [if_pos hjid] at hp
      obtain rfl := Option.some.inj hp
      refine ⟨⟨intent, hcreated⟩, fun k q hq hbooking => ?_⟩
      rw [Table.get?_insert hfree] at hq
      by_cases hk : k = id
      · rw [hk, hjid]
      · rw [if_neg hk] at hq
        exact absurd hbooking (hnone k q hq)
    · rw [if_neg hjid, hj] at hp
      cases hp

end RepairStep

/-- Within one transaction: its commit is such a step, and leaves a row; where it throws there is a row,
or it has thrown before it looked for one. -/
theorem atomic_ensureRequestPayment {c : RepairCall} {uuid : ℕ} {d : Db}
    (hfresh : d.payments.get? uuid = none) :
    (∀ u d', (ensureRequestPayment c.feePercent uuid c.bookingId c.booking).atomic d = .ok (u, d') →
      RepairStep c d.payments d'.payments ∧
        ∃ id row, d'.payments.get? id = some row ∧ row.bookingId = c.bookingId) ∧
    ∀ e, (ensureRequestPayment c.feePercent uuid c.bookingId c.booking).atomic d = .error e →
      c.created = .error e ∨ ∃ id row, d.payments.get? id = some row ∧ row.bookingId = c.bookingId := by
  rw [ensureRequestPayment_eq, c.ensureRequestPaymentWith_eq]
  cases hcreated : c.created with
  -- the amounts or the intent are missing: nothing has been looked for
  | error e =>
    constructor
    · intro u d' hrun
      cases hrun
    · intro e' hrun
      exact Or.inl (congrArg _ (Except.error.inj hrun))
  | ok r =>
    obtain ⟨intent, row⟩ := r
    obtain ⟨hcharges, -, hintent, -, -⟩ := RepairCall.created_ok hcreated
    simp only [Program.ofExcept_ok, Program.ret_bind, Program.command_bind, Tx.atomic]
    rcases upsertPayment_cases uuid c.bookingId row d with
      ⟨paymentId, payment, hanswer, hwrite, hget, hbooking⟩ | ⟨hanswer, hwrite, hnone⟩
    · -- the booking has a row: it is another booking's, linked already, or linked now
      rw [hanswer, hwrite]
      refine ⟨fun u d' hrun => ?_, fun _ _ => Or.inr ⟨paymentId, payment, hget, hbooking⟩⟩
      rcases RepairCall.settle_cases linkRequestPayment c intent row (paymentId, payment) with
        ⟨hthrow, -⟩ | hret | ⟨hlink, hmatches, -⟩
      · rw [hthrow] at hrun
        cases hrun
      · rw [hret] at hrun
        obtain ⟨-, rfl⟩ := Prod.mk.injEq .. ▸ Except.ok.inj hrun
        exact ⟨.refl c _, paymentId, payment, hget, hbooking⟩
      · rw [hlink] at hrun
        obtain ⟨row', hrow', hnull, hafter⟩ := atomic_linkRequestPayment hrun
        obtain rfl : payment = row' := Option.some.inj (hget.symm.trans hrow')
        refine ⟨.of_linked hget (RepairCall.charges_of_matchesBooking hcreated hbooking hmatches) hintent
          hnull hafter, paymentId, _, (hafter paymentId).trans (if_pos rfl), hbooking⟩
    · -- it has none: the row is created as it is to be
      rw [hanswer, hwrite, RepairCall.settle_created linkRequestPayment hcreated]
      constructor
      · intro u d' hrun
        obtain ⟨-, rfl⟩ := Prod.mk.injEq .. ▸ Except.ok.inj hrun
        refine ⟨.of_inserted hcreated hfresh hnone, uuid, row, ?_, hcharges.bookingId⟩
        show (d.payments.insert uuid row).get? uuid = some row
        rw [Table.get?_insert hfresh, if_pos rfl]
      · intro e hrun
        cases hrun

/-! ## Repairs next to each other -/

/-- `ensureRequestPayment` on the database itself: each statement on its own. -/
def repairRequestPayment (c : RepairCall) : Service Unit :=
  ensureRequestPaymentWith
    (fun row => transaction fun ctx => Program.command (upsertPayment ctx.uuid c.bookingId row))
    (fun paymentId intent => transaction fun _ => linkRequestPayment paymentId intent)
    c.feePercent c.bookingId c.booking

/-- The calls of the repair. -/
inductive RepairOp
  /-- On the database, for a checkout that is resumed. -/
  | alone (c : RepairCall)
  /-- Within a transaction. -/
  | within (c : RepairCall)
  /-- Within the transaction that matches the request, for the booking that it reads. -/
  | confirm (feePercent : Option ℚ) (bookingId : ℕ)

/-- The service behind a call. -/
def RepairOp.program : RepairOp → Service Unit
  | .alone c => repairRequestPayment c
  | .within c => transaction fun ctx =>
    ensureRequestPayment c.feePercent ctx.uuid c.bookingId c.booking
  | .confirm feePercent bookingId => transaction fun ctx =>
    confirmRequestBooking feePercent ctx bookingId

/-- The call that an operation makes for sure. -/
def RepairOp.call? : RepairOp → Option RepairCall
  | .alone c | .within c => some c
  | .confirm _ _ => none

/-- The calls that an operation can come to make, on a database. -/
def RepairOp.Calls (d : Db) : RepairOp → RepairCall → Prop
  | .alone c, c' | .within c, c' => c' = c
  | .confirm feePercent bookingId, c' =>
    ∃ booking, d.bookings.get? bookingId = some booking ∧ c' = ⟨feePercent, bookingId, booking⟩

/-- What goes on besides. -/
inductive RepairDisturbance
  /-- The payment moves on, by its id: any column but those of the charge. -/
  | progress (id : ℕ) (f : Payment → Payment)
  /-- A checkout writes its row, unless the booking has one. -/
  | create (row : Payment)
  /-- Anything but the payments. -/
  | beside (w : World)

/-- Any columns of a payment but those of the charge. -/
def Payment.progress (f : Payment → Payment) (p : Payment) : Payment :=
  { f p with
    toPaymentSplit := p.toPaymentSplit
    bookingId := p.bookingId
    rideId := p.rideId
    riderId := p.riderId }

def RepairDisturbance.apply : RepairDisturbance → World → World
  | .progress id f, w =>
    { w with db := { w.db with payments := w.db.payments.modify id (Payment.progress f) } }
  | .create row, w =>
    if (w.db.payments.filter fun _ p => p.bookingId == row.bookingId) = [] then
      { w with db := { w.db with payments := w.db.payments.insert w.db.freshId row } }
    else w
  | .beside w', w => { w' with db := { w'.db with payments := w.db.payments } }

/-- What is seen of a step: how it was answered. -/
def repliesOf {β : Type} (_ : Call β) (reply : Reply) (_ : World) : List Reply := [reply]

/-- Repairs next to each other and to what goes on besides. -/
abbrev repairPool := (servicePool RepairOp.program RepairDisturbance.apply).traced repliesOf

/-- Repairs and their steps at a moment. -/
abbrev RepairPool := Pool Call Err (Event ⊕ Reply) World RepairOp

/-- Every step of a thread took place and was answered. -/
def RepairPool.Answered (p : RepairPool) (tid : ℕ) : Prop := ∀ reply ∈ p.now.seen tid, reply = .ok

/-! ## What the calls do -/

/-- Matching a request leaves the payments alone, but for those of a call for the booking that it has
read. -/
theorem step_confirmRequestBooking {feePercent : Option ℚ} {ctx : Ctx} {bookingId : ℕ} {d d' : Db}
    {u : Unit} (hfresh : d.payments.get? ctx.uuid = none)
    (hrun : (confirmRequestBooking feePercent ctx bookingId).atomic d = .ok (u, d')) :
    d'.payments = d.payments ∨ ∃ booking, d.bookings.get? bookingId = some booking ∧
      RepairStep ⟨feePercent, bookingId, booking⟩ d.payments d'.payments := by
  have hmatch : ∀ {view : OfferView} {d₁ d₂ : Db} {u : Unit},
      (matchRequest ctx bookingId view).atomic d₁ = .ok (u, d₂) → d₂.payments = d₁.payments :=
    fun hrest => (@leaves_matchRequest _ Db.payments bookingId (fun _ _ _ => rfl) (fun _ _ => rfl)
      (fun _ _ => rfl) (fun _ _ => rfl) ctx _).atomic hrest
  obtain ⟨found, d₁, hfound, hrest⟩ := Tx.atomic_bind.mp hrun
  obtain ⟨rfl, rfl⟩ := Prod.mk.injEq .. ▸ Except.ok.inj hfound
  cases hview : (viewOfferOfBooking bookingId).answer d with
  | none =>
    rw [hview] at hrest
    obtain ⟨-, rfl⟩ := Prod.mk.injEq .. ▸ Except.ok.inj hrest
    exact Or.inl rfl
  | some view =>
    -- the offer is read with the booking that is there
    have hread : view.booking = d.bookings.get? bookingId := by
      simp only [viewOfferOfBooking, Option.bind_eq_bind, Option.bind_eq_some_iff] at hview
      obtain ⟨offer, -, request, -, ride, -, hview⟩ := hview
      rw [← Option.some.inj hview]
    rw [hview] at hrest
    dsimp only at hrest
    split_ifs at hrest with hstatus hdeparted
    · cases hrest
    · cases hrest
    · cases hbooking : view.booking with
      | none =>
        rw [hbooking] at hrest
        cases hrest
      | some booking =>
        rw [hbooking] at hrest
        dsimp only at hrest
        split_ifs at hrest with hintent
        · obtain ⟨u, d₂, hpayment, hrest⟩ := Tx.atomic_bind.mp hrest
          obtain ⟨hcommit, -⟩ :=
            @atomic_ensureRequestPayment ⟨feePercent, bookingId, booking⟩ ctx.uuid d hfresh
          rw [hmatch hrest]
          exact Or.inr ⟨booking, hread.symm.trans hbooking, (hcommit u d₂ hpayment).1⟩
        · exact Or.inl (hmatch hrest)

namespace RepairOp

variable {op : RepairOp} {t t' : Table Payment} {d d' : Db}

/-- What a step of an operation does: nothing to the payments, or a step of a call that it makes. -/
def Step (op : RepairOp) (d d' : Db) : Prop :=
  d'.payments = d.payments ∨ ∃ c, op.Calls d c ∧ RepairStep c d.payments d'.payments

/-- What an operation leaves: a row of its booking, unless it threw before it looked for one. -/
def Settled (op : RepairOp) (t : Table Payment) : Prop :=
  ∀ c, op.call? = some c → (∃ e, c.created = .error e) ∨
    ∃ id row, t.get? id = some row ∧ row.bookingId = c.bookingId

/-- What is left of an operation takes such steps, wherever the others have got in between, and leaves
a row where all its steps are answered, those before among them. -/
def Safe (op : RepairOp) : Service Unit → Prop → Table Payment → Prop
  | .ret _, answered, t | .throw _, answered, t => answered → op.Settled t
  | .step call k, answered, t => ∀ i w, PaymentsKept t w.db.payments →
      op.Step w.db (call.exec i w).2.2.db ∧
        op.Safe (k (call.exec i w).1) (answered ∧ i = .ok) (call.exec i w).2.2.db.payments

theorem Step.refl (op : RepairOp) (d : Db) : op.Step d d := Or.inl rfl

theorem Step.paymentsKept (h : op.Step d d') : PaymentsKept d.payments d'.payments := by
  rcases h with hsame | ⟨c, -, hstep⟩
  · rw [hsame]
    exact .refl _
  · exact hstep.paymentsKept

theorem Step.onePerBooking (h : op.Step d d') (hone : OnePerBooking d.payments) :
    OnePerBooking d'.payments := by
  rcases h with hsame | ⟨c, -, hstep⟩
  · rwa [hsame]
  · exact hstep.onePerBooking hone

/-- A row that has been left stays. -/
theorem Settled.mono (h : op.Settled t) (hkept : PaymentsKept t t') : op.Settled t' := by
  intro c hc
  rcases h c hc with hrefused | ⟨id, row, hrow, hbooking⟩
  · exact Or.inl hrefused
  · obtain ⟨row', hrow', hsame⟩ := hkept id row hrow
    exact Or.inr ⟨id, row', hrow', hsame.bookingId.trans hbooking⟩

theorem Safe.mono {rest : Service Unit} {answered : Prop} (h : op.Safe rest answered t)
    (hkept : PaymentsKept t t') : op.Safe rest answered t' := by
  cases rest with
  | ret u => exact fun hanswered => Settled.mono (h hanswered) hkept
  | throw e => exact fun hanswered => Settled.mono (h hanswered) hkept
  | step call k => exact fun i w hw => h i w (hkept.trans hw)

/-- Less is left to do where a step was not answered. -/
theorem Safe.anti {rest : Service Unit} {answered answered' : Prop} (h : op.Safe rest answered t)
    (himp : answered' → answered) : op.Safe rest answered' t := by
  induction rest generalizing answered answered' t with
  | ret u => exact fun hanswered => h (himp hanswered)
  | throw e => exact fun hanswered => h (himp hanswered)
  | step call k ih =>
    intro i w hw
    obtain ⟨hstep, hrest⟩ := h i w hw
    exact ⟨hstep, ih _ hrest (And.imp_left himp)⟩

/-- A transaction and what comes after it. -/
theorem safe_transaction {β : Type} {body : Ctx → Tx β} {f : β → Service Unit} {answered : Prop}
    (hok : ∀ (w : World) b d, PaymentsKept t w.db.payments →
      (body ⟨w.now, w.db.freshId⟩).atomic w.db = .ok (b, d) →
      op.Step w.db d ∧ op.Safe (f b) answered d.payments)
    (herr : ∀ (w : World) e, PaymentsKept t w.db.payments →
      (body ⟨w.now, w.db.freshId⟩).atomic w.db = .error e → op.Settled w.db.payments) :
    op.Safe ((transaction body).bind f) answered t := by
  intro i w hw
  cases i with
  | refused => exact ⟨.refl op w.db, fun h => nomatch h.2⟩
  | lost => exact ⟨.refl op w.db, fun h => nomatch h.2⟩
  | ok =>
    simp only [Call.exec]
    cases hb : (body ⟨w.now, w.db.freshId⟩).atomic w.db with
    | ok r =>
      obtain ⟨hstep, hrest⟩ := hok w r.1 r.2 hw hb
      exact ⟨hstep, hrest.anti And.left⟩
    | error e => exact ⟨.refl op w.db, fun _ => herr w e hw hb⟩

/-- An id that is drawn is no payment's. -/
theorem get?_payments_freshId (d : Db) : d.payments.get? d.freshId = none :=
  Table.get?_of_nextKey_le (Db.le_freshId (by simp [Db.idBounds]))

/-- On the database itself the row may be linked by others before the call comes to link it. -/
theorem safe_alone (c : RepairCall) (t : Table Payment) :
    (RepairOp.alone c).Safe (repairRequestPayment c) True t := by
  unfold repairRequestPayment
  rw [c.ensureRequestPaymentWith_eq]
  cases hcreated : c.created with
  | error e =>
    rintro - c' ⟨⟩
    exact Or.inl ⟨e, hcreated⟩
  | ok r =>
    obtain ⟨intent, row⟩ := r
    obtain ⟨hcharges, -, hintent, -, -⟩ := RepairCall.created_ok hcreated
    have hsettled : ∀ {t : Table Payment} {id : ℕ} {row : Payment},
        t.get? id = some row → row.bookingId = c.bookingId → (RepairOp.alone c).Settled t := by
      rintro t id row hrow hbooking c' ⟨⟩
      exact Or.inr ⟨id, row, hrow, hbooking⟩
    -- the first statement: find the row or create it
    refine safe_transaction (fun w b d hw hrun => ?_) fun w e hw hrun => by cases hrun
    obtain ⟨rfl, rfl⟩ := Prod.mk.injEq .. ▸ Except.ok.inj hrun
    rcases upsertPayment_cases w.db.freshId c.bookingId row w.db with
      ⟨paymentId, payment, hanswer, hwrite, hget, hbooking⟩ | ⟨hanswer, hwrite, hnone⟩
    · rw [hanswer, hwrite]
      refine ⟨.refl _ _, ?_⟩
      rcases RepairCall.settle_cases
          (fun paymentId intent => transaction fun _ => linkRequestPayment paymentId intent)
          c intent row (paymentId, payment) with ⟨hthrow, -⟩ | hret | ⟨hlink, hmatches, -⟩
      · rw [hthrow]
        exact fun _ => hsettled hget hbooking
      · rw [hret]
        exact fun _ => hsettled hget hbooking
      · rw [hlink, ← Program.bind_ret (transaction fun _ => linkRequestPayment paymentId intent)]
        have hcharged := RepairCall.charges_of_matchesBooking hcreated hbooking hmatches
        -- the second: by now others may have linked the row, which is for the same charge still
        refine safe_transaction (fun w' u d hw' hrun => ?_) fun w' e hw' hrun => ?_
        · obtain ⟨row', hrow', hnull, hafter⟩ := atomic_linkRequestPayment hrun
          obtain ⟨q, hq, hsame⟩ := hw' paymentId payment hget
          obtain rfl : q = row' := Option.some.inj (hq.symm.trans hrow')
          refine ⟨Or.inr ⟨c, rfl, .of_linked hrow' (hcharged.of_same hsame) hintent hnull hafter⟩, ?_⟩
          exact fun _ => hsettled ((hafter paymentId).trans (if_pos rfl)) (hsame.bookingId.trans hbooking)
        · obtain ⟨q, hq, hsame⟩ := hw' paymentId payment hget
          exact hsettled hq (hsame.bookingId.trans hbooking)
    · rw [hanswer, hwrite, RepairCall.settle_created _ hcreated]
      have hfresh := get?_payments_freshId w.db
      refine ⟨Or.inr ⟨c, rfl, .of_inserted hcreated hfresh hnone⟩,
        fun _ => @hsettled _ w.db.freshId row ?_ hcharges.bookingId⟩
      show (w.db.payments.insert w.db.freshId row).get? w.db.freshId = some row
      rw [Table.get?_insert hfresh, if_pos rfl]

theorem safe_within (c : RepairCall) (t : Table Payment) :
    (RepairOp.within c).Safe (RepairOp.within c).program True t := by
  rw [← Program.bind_ret (RepairOp.within c).program]
  refine safe_transaction (fun w u d hw hrun => ?_) fun w e hw hrun => ?_
  · obtain ⟨hcommit, -⟩ := @atomic_ensureRequestPayment c _ _ (get?_payments_freshId w.db)
    obtain ⟨hstep, hleft⟩ := hcommit u d hrun
    refine ⟨Or.inr ⟨c, rfl, hstep⟩, ?_⟩
    rintro - c' ⟨⟩
    exact Or.inr hleft
  · obtain ⟨-, hthrow⟩ := @atomic_ensureRequestPayment c _ _ (get?_payments_freshId w.db)
    rintro c' ⟨⟩
    rcases hthrow e hrun with hrefused | hleft
    · exact Or.inl ⟨e, hrefused⟩
    · exact Or.inr hleft

theorem safe_confirm (feePercent : Option ℚ) (bookingId : ℕ) (t : Table Payment) :
    (RepairOp.confirm feePercent bookingId).Safe (RepairOp.confirm feePercent bookingId).program True
      t := by
  rw [← Program.bind_ret (RepairOp.confirm feePercent bookingId).program]
  refine safe_transaction (fun w u d hw hrun => ⟨?_, by rintro - c ⟨⟩⟩)
    fun w e hw hrun => by rintro c ⟨⟩
  rcases step_confirmRequestBooking (get?_payments_freshId w.db) hrun with
    hsame | ⟨booking, hbooking, hstep⟩
  · exact Or.inl hsame
  · exact Or.inr ⟨_, ⟨booking, hbooking, rfl⟩, hstep⟩

/-- Every operation is safe from the start. -/
theorem safe_program (op : RepairOp) (t : Table Payment) : op.Safe op.program True t := by
  cases op with
  | alone c => exact safe_alone c t
  | within c => exact safe_within c t
  | confirm feePercent bookingId => exact safe_confirm feePercent bookingId t

end RepairOp

/-! ## Runs -/

section Runs

/-- The invariant of a run. -/
structure RepairInv (p : RepairPool) : Prop where
  onePerBooking : OnePerBooking p.now.state.db.payments
  safe : ∀ tid (op : RepairOp) rest, p.threads[tid]? = some (op, rest) →
    op.Safe rest (p.Answered tid) p.now.state.db.payments

/-- What a move of a thread does is a step of its operation. -/
def RepairMove (p : RepairPool) (move : Move RepairOp Reply RepairDisturbance) : Prop :=
  match move with
  | .start _ | .disturb _ => True
  | .step tid reply => ∀ op rest, p.threads[tid]? = some (op, rest) →
      op.Step p.now.state.db (p.step repairPool (.step tid reply)).now.state.db

theorem keeps_modify {t : Table Payment} (hone : OnePerBooking t) (id : ℕ) (f : Payment → Payment) :
    PaymentsKept t (t.modify id (Payment.progress f)) ∧
      OnePerBooking (t.modify id (Payment.progress f)) := by
  -- a row that is there was there, for the same charge
  have hback : ∀ j q, (t.modify id (Payment.progress f)).get? j = some q →
      ∃ p, t.get? j = some p ∧ SameCharge p q := by
    intro j q hq
    rw [Table.get?_modify] at hq
    by_cases hj : j = id
    · rw [if_pos hj] at hq
      obtain ⟨p, hp, rfl⟩ := Option.map_eq_some_iff.mp hq
      exact ⟨p, hp, rfl, rfl, rfl, rfl⟩
    · rw [if_neg hj] at hq
      exact ⟨q, hq, .refl q⟩
  constructor
  · intro j p hp
    rw [Table.get?_modify, hp]
    by_cases hj : j = id
    · rw [if_pos hj]
      exact ⟨_, rfl, rfl, rfl, rfl, rfl⟩
    · rw [if_neg hj]
      exact ⟨p, rfl, .refl p⟩
  · intro i j p q hp hq hbooking
    obtain ⟨p₀, hp₀, hsameP⟩ := hback i p hp
    obtain ⟨q₀, hq₀, hsameQ⟩ := hback j q hq
    exact hone i j p₀ q₀ hp₀ hq₀ (hsameP.bookingId.symm.trans (hbooking.trans hsameQ.bookingId))

theorem keeps_insert {t : Table Payment} (hone : OnePerBooking t) {id : ℕ} {row : Payment}
    (hfresh : t.get? id = none) (hnew : ∀ j q, t.get? j = some q → q.bookingId ≠ row.bookingId) :
    PaymentsKept t (t.insert id row) ∧ OnePerBooking (t.insert id row) := by
  constructor
  · intro j p hp
    refine ⟨p, ?_, .refl p⟩
    rw [Table.get?_insert hfresh, if_neg, hp]
    rintro rfl
    rw [hfresh] at hp
    cases hp
  · intro i j p q hp hq hbooking
    rw [Table.get?_insert hfresh] at hp hq
    -- of two rows of one booking neither can be the new one alone
    by_cases hi : i = id <;> by_cases hj : j = id
    · rw [hi, hj]
    · rw [if_pos hi] at hp
      rw [if_neg hj] at hq
      obtain rfl := Option.some.inj hp
      exact absurd hbooking.symm (hnew j q hq)
    · rw [if_neg hi] at hp
      rw [if_pos hj] at hq
      obtain rfl := Option.some.inj hq
      exact absurd hbooking (hnew i p hp)
    · rw [if_neg hi] at hp
      rw [if_neg hj] at hq
      exact hone i j p q hp hq hbooking

/-- What goes on besides keeps every row, and writes none for a booking that has one. -/
theorem disturbance_keeps (x : RepairDisturbance) (w : World) (hone : OnePerBooking w.db.payments) :
    PaymentsKept w.db.payments (x.apply w).db.payments ∧ OnePerBooking (x.apply w).db.payments := by
  cases x with
  | progress id f => exact keeps_modify hone id f
  | create row =>
    have happly : (RepairDisturbance.create row).apply w =
        if (w.db.payments.filter fun _ p => p.bookingId == row.bookingId) = [] then
          { w with db := { w.db with payments := w.db.payments.insert w.db.freshId row } }
        else w := rfl
    rw [happly]
    by_cases hnil : (w.db.payments.filter fun _ p => p.bookingId == row.bookingId) = []
    · rw [if_pos hnil]
      refine keeps_insert hone (RepairOp.get?_payments_freshId w.db) fun j q hq hbooking => ?_
      exact Table.not_of_filter_nil hnil hq (beq_iff_eq.mpr hbooking)
    · rw [if_neg hnil]
      exact ⟨.refl _, hone⟩
  | beside w' => exact ⟨.refl _, hone⟩

variable {p : RepairPool}

/-- **One move** keeps the invariant, and is a step of the operation whose thread it moves. -/
theorem RepairInv.move (h : RepairInv p) (move : Move RepairOp Reply RepairDisturbance) :
    RepairMove p move ∧ RepairInv (p.step repairPool move) := by
  cases move with
  | start op =>
    refine ⟨trivial, h.onePerBooking, fun tid op' rest ht => ?_⟩
    have ht' : (p.threads ++ [(op, op.program)])[tid]? = some (op', rest) := ht
    rcases lt_or_ge tid p.threads.length with hold | hnew
    · rw [List.getElem?_append_left hold] at ht'
      exact h.safe _ _ _ ht'
    · rw [List.getElem?_append_right hnew] at ht'
      obtain ⟨hop, hrest⟩ := Prod.mk.injEq .. ▸ List.mem_singleton.mp (List.mem_of_getElem? ht')
      rw [hop, hrest]
      exact (RepairOp.safe_program op _).anti fun _ => trivial
  | disturb x =>
    obtain ⟨hkept, hone⟩ := disturbance_keeps x p.now.state h.onePerBooking
    exact ⟨trivial, hone, fun tid op rest ht => (h.safe tid op rest ht).mono hkept⟩
  | step tid reply =>
    cases ht : p.threads[tid]? with
    | none =>
      rw [Program.Pool.step_no_thread ht]
      refine ⟨?_, h⟩
      rintro op rest ht'
      rw [ht] at ht'
      cases ht'
    | some t =>
      obtain ⟨op, rest⟩ := t
      have hsafe := h.safe _ _ _ ht
      have hown : ∀ op' rest', p.threads[tid]? = some (op', rest') → op' = op := by
        intro op' rest' ht'
        rw [ht] at ht'
        exact (Prod.mk.injEq .. ▸ Option.some.inj ht'.symm).1
      have hmove : p.step repairPool (.step tid reply) = p.stepThread repairPool tid reply op rest :=
        Program.Pool.step_thread ht
      cases rest with
      | ret u | throw e =>
        refine ⟨fun op' rest' ht' => ?_, ?_⟩
        · rw [hmove]
          exact .refl _ _
        · rw [hmove]
          exact h
      | step c k =>
        obtain ⟨hstep, hrest⟩ := hsafe reply p.now.state (.refl _)
        refine ⟨fun op' rest' ht' => ?_, ?_⟩
        · rw [hmove, hown op' rest' ht']
          exact hstep
        · rw [hmove]
          refine ⟨hstep.onePerBooking h.onePerBooking, fun tid' op' rest' ht' => ?_⟩
          have ht'' : (p.threads.set tid (op, k (c.exec reply p.now.state).1))[tid']? =
              some (op', rest') := ht'
          by_cases htid : tid' = tid
          · subst htid
            rw [List.getElem?_set_self (List.getElem?_eq_some_iff.mp ht).1] at ht''
            obtain ⟨rfl, rfl⟩ := Prod.mk.injEq .. ▸ Option.some.inj ht''
            refine hrest.anti fun hanswered => ?_
            -- what is seen of the thread by now, this step among it
            have hseen : (p.stepThread repairPool tid' reply op (.step c k)).now.seen tid' =
                p.now.seen tid' ++ [reply] := Program.Logged.seen_next_self _ _ _ _
            refine ⟨fun r hr => hanswered r ?_, hanswered reply ?_⟩
            · rw [hseen]
              exact List.mem_append_left _ hr
            · rw [hseen]
              exact List.mem_append_right _ (List.mem_singleton_self _)
          · rw [List.getElem?_set_ne (Ne.symm htid)] at ht''
            refine ((h.safe _ _ _ ht'').mono hstep.paymentsKept).anti fun hanswered => ?_
            have hseen : (p.stepThread repairPool tid reply op (.step c k)).now.seen tid' =
                p.now.seen tid' := Program.Logged.seen_next_ne htid
            intro r hr
            exact hanswered r (hseen ▸ hr)

end Runs

/-! ## Bookings of a checkout -/

/-- The booking of a call was made by a checkout: its price and its fee are those of a breakdown that
splits, and it has an intent and a currency. -/
structure RepairCall.Checkout (c : RepairCall) (breakdown : PriceBreakdown) (split : PaymentSplit) :
    Prop where
  totalPrice : c.booking.totalPrice = breakdown.totalPrice
  serviceFee : c.booking.serviceFeeAmount = some breakdown.serviceFee
  split : resolvePaymentSplit breakdown = .ok split
  intent : c.booking.stripePaymentIntentId.isSome
  currency : c.booking.paymentCurrency.isSome

/-- What is created for the booking of a checkout has the amounts that the checkout has split its price
into. -/
theorem RepairCall.Checkout.created {c : RepairCall} {breakdown : PriceBreakdown}
    {split : PaymentSplit} (h : c.Checkout breakdown split) :
    ∃ intent row, c.created = .ok (intent, row) ∧
      row.toPaymentSplit = { split with currency := row.currency } ∧ row.status = .paymentPending := by
  obtain ⟨intent, hintent⟩ := Option.isSome_iff_exists.mp h.intent
  obtain ⟨paymentCurrency, hcurrency⟩ := Option.isSome_iff_exists.mp h.currency
  have hsplit := h.split
  unfold resolvePaymentSplit at hsplit
  by_cases hneg : breakdown.totalPrice - breakdown.serviceFee < 0
  · rw [dif_pos hneg] at hsplit
    cases hsplit
  rw [dif_neg hneg] at hsplit
  obtain rfl := Except.ok.inj hsplit
  -- the fee is the snapshot, whatever percentage is configured
  have hfee : requestPlatformFee c.feePercent c.booking = some breakdown.serviceFee := by
    simp only [requestPlatformFee, h.serviceFee]
  have hrange : 0 ≤ breakdown.serviceFee ∧ breakdown.serviceFee ≤ c.booking.totalPrice := by
    have hnonneg := breakdown.serviceFee_nonneg
    rw [h.totalPrice]
    omega
  unfold RepairCall.created requestPaymentSplit
  simp only [hintent, hcurrency, hfee, dif_pos hrange]
  refine ⟨intent, _, rfl, ?_, rfl⟩
  simp only [h.totalPrice]

/-- **A checkout** that commits leaves such a booking. -/
theorem checkout_of_createUnpaidBooking {settings : Settings} {rules : BookingRules}
    {overlaps : ℕ → ℕ → Db → Bool} {passengerId : ℕ} {input : CreateBookingInput}
    {requestOfferId : Option ℕ} {now bookingId : ℕ} {price : ℤ} {paymentIntent : ℕ}
    {currency : String} {ctx : Ctx} {d d' : Db} {u : Unit}
    (hrun : (createUnpaidBooking settings rules overlaps passengerId input requestOfferId now
      bookingId price paymentIntent currency ctx).atomic d = .ok (u, d')) :
    ∃ booking breakdown split, d'.bookings.get? bookingId = some booking ∧
      ∀ feePercent, (RepairCall.mk feePercent bookingId booking).Checkout breakdown split := by
  obtain ⟨u₁, d₁, hoffer, hrest⟩ := Tx.atomic_bind.mp hrun
  obtain ⟨plan, d₂, hplan, hrest⟩ := Tx.atomic_bind.mp hrest
  split_ifs at hrest with hprice
  · cases hrest
  · obtain ⟨u₂, d₃, hcreate, hrest⟩ := Tx.atomic_bind.mp hrest
    obtain ⟨habsent, rfl⟩ := atomic_createBookingRow hcreate
    obtain ⟨paymentId, d₄, hpayment, hrest⟩ := Tx.atomic_bind.mp hrest
    -- the checkout creates its own payment, so its price splits
    cases hsplit : resolvePaymentSplit plan.route.priceBreakdown with
    | error e =>
      unfold createPayment at hpayment
      rw [hsplit] at hpayment
      cases hpayment
    | ok split =>
      have hbookings : d'.bookings = d₂.bookings.insert bookingId
          (plan.unpaidBooking passengerId input paymentIntent currency) :=
        ((leaves_linkOffer fun _ _ => rfl).atomic hrest).trans
          ((leaves_createPayment fun _ _ => rfl).atomic hpayment)
      refine ⟨plan.unpaidBooking passengerId input paymentIntent currency, plan.route.priceBreakdown,
        split, ?_, fun feePercent => ⟨rfl, rfl, hsplit, rfl, rfl⟩⟩
      rw [hbookings, Table.get?_insert habsent, if_pos rfl]

/-! ## The repair -/

/-- No booking has two rows, and the booking of a checkout has one once a call for it has ended, all of
whose steps took place and were answered. -/
structure Repaired (p : RepairPool) : Prop where
  onePerBooking : OnePerBooking p.now.state.db.payments
  left : ∀ tid (op : RepairOp) rest c breakdown split, p.threads[tid]? = some (op, rest) →
    op.call? = some c → c.Checkout breakdown split → rest.Done → p.Answered tid →
    ∃! id, ∃ row, p.now.state.db.payments.get? id = some row ∧ row.bookingId = c.bookingId

theorem RepairInv.repaired {p : RepairPool} (h : RepairInv p) : Repaired p where
  onePerBooking := h.onePerBooking
  left := by
    intro tid op rest c breakdown split ht hc hcheckout hdone hanswered
    have hsettled : op.Settled p.now.state.db.payments := by
      have hsafe := h.safe tid op rest ht
      cases rest with
      | ret u => exact hsafe hanswered
      | throw e => exact hsafe hanswered
      | step call k => cases hdone
    -- a call for the booking of a checkout does not throw before it looks
    rcases hsettled c hc with ⟨e, hrefused⟩ | ⟨id, row, hrow, hbooking⟩
    · obtain ⟨intent, row, hcreated, -⟩ := hcheckout.created
      rw [hcreated] at hrefused
      cases hrefused
    · refine ⟨id, ⟨row, hrow, hbooking⟩, ?_⟩
      rintro j ⟨q, hq, hbooking'⟩
      exact h.onePerBooking j id q row hq hrow (hbooking'.trans hbooking.symm)

/-- **The repair agrees with the checkout, and can be repeated.** In exact cents it arrives at the
amounts of the checkout whatever percentage is configured, and so does the row that a call creates. In
every run of calls, each step of which may be refused, next to all that goes on besides: one row is
left by a call all of whose steps were answered, and a step of a call creates its row where the booking
has none, links the row of its booking if that has no intent, or does nothing to the payments. -/
theorem request_payment_repaired (w : World) (hone : OnePerBooking w.db.payments)
    (moves : List (Move RepairOp Reply RepairDisturbance)) :
    (∀ (input : Exact.CalculateBookingPriceInput) (split : Exact.PaymentSplit)
      (feePercent : Option ℚ) (segmentFare : ℚ) (paymentCurrency rideCurrency : Option String)
      (currency : String), 0 ≤ input.serviceFeePercent → 0 ≤ input.serviceFeeFlat →
      Exact.resolvePaymentSplit (Exact.calculateBookingPrice input) = .ok split →
      Exact.ensuredSplit feePercent (Exact.bookingColumns (Exact.calculateBookingPrice input) segmentFare
        paymentCurrency rideCurrency) currency = some { split with currency }) ∧
    (∀ (c : RepairCall) (breakdown : PriceBreakdown) (split : PaymentSplit),
      c.Checkout breakdown split → ∃ intent row, c.created = .ok (intent, row) ∧
        row.toPaymentSplit = { split with currency := row.currency } ∧
        row.status = .paymentPending) ∧
    History.Always (Program.Pool.step repairPool) Repaired ⟨⟨w, []⟩, []⟩ moves ∧
    History.Each (Program.Pool.step repairPool) RepairMove ⟨⟨w, []⟩, []⟩ moves := by
  have hstart : RepairInv (⟨⟨w, []⟩, []⟩ : RepairPool) := ⟨hone, fun tid op rest ht => by cases ht⟩
  refine ⟨?_, fun c breakdown split h => h.created, ?_, ?_⟩
  · intro input split feePercent segmentFare paymentCurrency rideCurrency currency hpercent hflat hsplit
    exact Exact.ensuredSplit_checkout hpercent hflat hsplit feePercent segmentFare paymentCurrency
      rideCurrency currency
  · exact History.Always.imp (fun p h => h.repaired) <|
      History.always_of_each (fun p move h _ => (h.move move).2) hstart (History.each_true _ moves)
  · exact History.Each.imp (fun p move h => (h.move move).2) (fun p move h _ => (h.move move).1) hstart
      (History.each_true _ moves)

/-- A call for booking 4, which has a price of 10.20 and no payment. -/
private def unpaidCall (feePercent : Option ℚ) : RepairCall where
  feePercent
  bookingId := 4
  booking := { sampleBooking with
    serviceFeeAmount := some 20
    paymentCurrency := some "eur" }

/-- Two calls for it, next to the payment of another booking: the one on the database creates the row, the
one within a transaction finds it. -/
private def twoRepairs : RepairPool :=
  History.after (Program.Pool.step repairPool)
    ⟨⟨{ db := { payments := .single 0 samplePayment } }, []⟩, []⟩
    [.start (.alone (unpaidCall none)), .start (.within (unpaidCall (some 10))), .step 0 .ok, .step 1 .ok]

/-- Two calls for a booking without a payment leave one row. -/
theorem two_repairs_of_one_booking :
    ∃! id, ∃ row, twoRepairs.now.state.db.payments.get? id = some row ∧ row.bookingId = 4 := by
  have hone : OnePerBooking (.single 0 samplePayment) := by
    intro i j p q hp hq _
    rw [Table.get?_singleton] at hp hq
    by_cases hi : i = 0 <;> by_cases hj : j = 0
    · rw [hi, hj]
    · rw [if_neg hj] at hq
      cases hq
    · rw [if_neg hi] at hp
      cases hp
    · rw [if_neg hi] at hp
      cases hp
  have hrepaired : Repaired twoRepairs :=
    (request_payment_repaired { db := { payments := .single 0 samplePayment } } hone _).2.2.1.last
  have hcheckout : (unpaidCall none).Checkout ⟨1020, 20, "EUR", by decide⟩
      ⟨1020, 1000, 20, "EUR", by decide, by decide, by decide⟩ := ⟨rfl, rfl, rfl, rfl, rfl⟩
  have hanswered : twoRepairs.Answered 0 := by
    have hseen : twoRepairs.now.seen 0 = [.ok] := rfl
    intro reply hreply
    rw [hseen] at hreply
    exact List.mem_singleton.mp hreply
  exact hrepaired.left 0 (.alone (unpaidCall none)) (.ret ()) _ _ _ rfl rfl hcheckout trivial hanswered

end Deliivo

import Deliivo.Arith.Hundredths
import Deliivo.Search.SegmentView

/-!
# The receipt of a booking

Here amounts are rational numbers of the currency's unit, as in the source, and every function counts
them in cents for itself. The price of a booking is worked out when it is made; of the breakdown only
some columns are stored, and a rider who comes back sees a breakdown that is rebuilt from them.

**What is rebuilt is what was charged, and it splits into the fare and the fee**
(`receipt_reconstructed`).

## Main definitions

* `Exact.calculateBookingPrice`, `Exact.resolvePaymentSplit`
* `Exact.bookingColumns`, `Exact.reconstructPriceBreakdown`: what is stored, and what is rebuilt

## Main results

* `Exact.calculateBookingPrice_cents`: in whole cents the price is that of `calculateBookingPrice`
* `receipt_reconstructed`
-/

namespace Deliivo

namespace Exact

/-! ## Prices -/

/-- `CalculateBookingPriceInput`, without the luggage, which costs nothing. -/
structure CalculateBookingPriceInput where
  basePricePerSeat : ℚ
  seatsBooked : ℤ
  currency : String := "EUR"
  serviceFeePercent : ℚ
  serviceFeeFlat : ℚ
  deriving DecidableEq, Repr

structure PriceBreakdown where
  basePricePerSeat : ℚ
  seatsBooked : ℤ
  subtotal : ℚ
  luggageFee : ℚ
  serviceFee : ℚ
  totalPrice : ℚ
  currency : String
  serviceFeePercent : ℚ
  serviceFeeFlat : ℚ
  deriving DecidableEq, Repr

/-- The fee on a subtotal in cents. -/
def percentFeeCents (subtotalCents : ℤ) (serviceFeePercent : ℚ) : ℤ :=
  Rat.roundHalfUp (subtotalCents * serviceFeePercent / 100)

def calculateBookingPrice (input : CalculateBookingPriceInput) : PriceBreakdown :=
  let subtotalCents := input.basePricePerSeat.hundredths * input.seatsBooked
  let luggageFeeCents : ℤ := 0
  let flatFeeCents := input.serviceFeeFlat.hundredths
  let serviceFeeCents := percentFeeCents subtotalCents input.serviceFeePercent + flatFeeCents
  let totalCents := subtotalCents + luggageFeeCents + serviceFeeCents
  { basePricePerSeat := input.basePricePerSeat
    seatsBooked := input.seatsBooked
    subtotal := subtotalCents / 100
    luggageFee := luggageFeeCents / 100
    serviceFee := serviceFeeCents / 100
    totalPrice := totalCents / 100
    currency := input.currency
    serviceFeePercent := input.serviceFeePercent
    serviceFeeFlat := input.serviceFeeFlat }

/-! ## What is stored, and what is rebuilt -/

/-- The columns of a booking that its price is rebuilt from, with the currency of its ride. -/
structure BookingColumns where
  seatsBooked : ℤ
  totalPrice : ℚ
  segmentFare : Option ℚ
  serviceFeeAmount : Option ℚ
  serviceFeePercent : Option ℚ
  paymentCurrency : Option String
  rideCurrency : Option String

/-- What `buildBookingData` stores of a plan whose price breakdown is `breakdown`. -/
def bookingColumns (breakdown : PriceBreakdown) (segmentFare : ℚ)
    (paymentCurrency rideCurrency : Option String) : BookingColumns where
  seatsBooked := breakdown.seatsBooked
  totalPrice := breakdown.totalPrice
  segmentFare := some segmentFare
  serviceFeeAmount := some breakdown.serviceFee
  serviceFeePercent := some breakdown.serviceFeePercent
  paymentCurrency := paymentCurrency
  rideCurrency := rideCurrency

def reconstructPriceBreakdown (booking : BookingColumns) : Option PriceBreakdown :=
  match booking.serviceFeeAmount with
  | none => none
  | some serviceFeeAmount =>
    let subtotalCents := booking.totalPrice.hundredths - serviceFeeAmount.hundredths
    let seats := if 0 < booking.seatsBooked then booking.seatsBooked else 1
    let serviceFeePercent := booking.serviceFeePercent.getD 0
    -- only the percentage is stored: the flat part is what the fee exceeds it by
    let flatFeeCents :=
      max 0 (serviceFeeAmount.hundredths - percentFeeCents subtotalCents serviceFeePercent)
    some {
      basePricePerSeat := booking.segmentFare.getD (subtotalCents / 100 / seats)
      seatsBooked := booking.seatsBooked
      subtotal := subtotalCents / 100
      luggageFee := 0
      serviceFee := serviceFeeAmount
      totalPrice := booking.totalPrice
      currency := (booking.paymentCurrency.or booking.rideCurrency).getD "EUR"
      serviceFeePercent
      serviceFeeFlat := flatFeeCents / 100 }

/-! ## The split -/

structure PaymentSplit where
  amountTotal : ℚ
  fareAmount : ℚ
  platformFeeAmount : ℚ
  currency : String

def resolvePaymentSplit (breakdown : PriceBreakdown) : Except Err PaymentSplit :=
  let totalCents := breakdown.totalPrice.hundredths
  let feeCents := breakdown.serviceFee.hundredths
  let fareCents := totalCents - feeCents
  if fareCents < 0 then .error (.text "PAYMENT_SPLIT_NEGATIVE_FARE")
  else if fareCents + feeCents ≠ totalCents then .error (.text "PAYMENT_SPLIT_IMBALANCE")
  else .ok {
    amountTotal := totalCents / 100
    fareAmount := fareCents / 100
    platformFeeAmount := feeCents / 100
    currency := breakdown.currency }

/-! ## In whole cents -/

/-- A price in whole cents. -/
def CalculateBookingPriceInput.ofCents (input : Deliivo.CalculateBookingPriceInput) :
    CalculateBookingPriceInput where
  basePricePerSeat := input.basePricePerSeat / 100
  seatsBooked := input.seatsBooked
  currency := input.currency
  serviceFeePercent := input.terms.serviceFeePercent
  serviceFeeFlat := input.terms.serviceFeeFlat / 100

/-- **In whole cents** the price of a booking is the one that bookings are made with. -/
theorem calculateBookingPrice_cents (input : Deliivo.CalculateBookingPriceInput) :
    (calculateBookingPrice (.ofCents input)).totalPrice =
        (Deliivo.calculateBookingPrice input).totalPrice / 100 ∧
      (calculateBookingPrice (.ofCents input)).serviceFee =
        (Deliivo.calculateBookingPrice input).serviceFee / 100 := by
  have hfare : (CalculateBookingPriceInput.ofCents input).basePricePerSeat.hundredths =
      input.basePricePerSeat := Rat.hundredths_div _
  have hflat : (CalculateBookingPriceInput.ofCents input).serviceFeeFlat.hundredths =
      input.terms.serviceFeeFlat := Rat.hundredths_div _
  unfold calculateBookingPrice
  simp only [hfare, hflat, add_zero]
  exact ⟨rfl, rfl⟩

/-! ## Reading the columns back -/

section Reading

variable (input : CalculateBookingPriceInput)

/-- The subtotal of a price, in cents. -/
def CalculateBookingPriceInput.subtotalCents : ℤ :=
  input.basePricePerSeat.hundredths * input.seatsBooked

/-- The fee of a price, in cents. -/
def CalculateBookingPriceInput.serviceFeeCents : ℤ :=
  percentFeeCents input.subtotalCents input.serviceFeePercent + input.serviceFeeFlat.hundredths

theorem serviceFee_hundredths :
    (calculateBookingPrice input).serviceFee.hundredths = input.serviceFeeCents :=
  Rat.hundredths_div _

theorem totalPrice_hundredths :
    (calculateBookingPrice input).totalPrice.hundredths =
      input.subtotalCents + input.serviceFeeCents := by
  refine (Rat.hundredths_div _).trans ?_
  rw [add_zero]
  rfl

variable {input}

theorem subtotalCents_nonneg (hbase : 0 ≤ input.basePricePerSeat) (hseats : 1 ≤ input.seatsBooked) :
    0 ≤ input.subtotalCents :=
  mul_nonneg (Rat.hundredths_nonneg hbase) (by omega)

/-- Rebuilding the breakdown of a price whose flat fee has two decimals. -/
theorem reconstruct_bookingColumns (hflat : 0 ≤ input.serviceFeeFlat)
    (hdecimals : input.serviceFeeFlat.IsHundredths) (segmentFare : ℚ)
    (paymentCurrency rideCurrency : Option String) :
    reconstructPriceBreakdown (bookingColumns (calculateBookingPrice input) segmentFare
        paymentCurrency rideCurrency) =
      some { calculateBookingPrice input with
        basePricePerSeat := segmentFare
        currency := (paymentCurrency.or rideCurrency).getD "EUR" } := by
  have hsubtotal : (calculateBookingPrice input).totalPrice.hundredths -
      (calculateBookingPrice input).serviceFee.hundredths = input.subtotalCents := by
    rw [serviceFee_hundredths, totalPrice_hundredths]
    ring
  -- what the fee exceeds the percentage by is the flat fee, which is not negative
  have hrest : max 0 ((calculateBookingPrice input).serviceFee.hundredths -
      percentFeeCents input.subtotalCents input.serviceFeePercent) =
        input.serviceFeeFlat.hundredths := by
    rw [serviceFee_hundredths, CalculateBookingPriceInput.serviceFeeCents, add_sub_cancel_left]
    exact max_eq_right (Rat.hundredths_nonneg hflat)
  have hexact : (input.serviceFeeFlat.hundredths : ℚ) / 100 = input.serviceFeeFlat :=
    Rat.toHundredth_of_isHundredths hdecimals
  have hpercent : (calculateBookingPrice input).serviceFeePercent = input.serviceFeePercent := rfl
  simp only [reconstructPriceBreakdown, bookingColumns, Option.getD_some, hsubtotal, hpercent, hrest,
    hexact]
  congr 2
  exact (by simp : (0 : ℚ) = ((0 : ℤ) : ℚ) / 100)

/-- A breakdown with the total and the fee of a price splits into its subtotal and its fee. -/
theorem resolvePaymentSplit_eq {breakdown : PriceBreakdown} (hbase : 0 ≤ input.basePricePerSeat)
    (hseats : 1 ≤ input.seatsBooked)
    (htotal : breakdown.totalPrice = (calculateBookingPrice input).totalPrice)
    (hfee : breakdown.serviceFee = (calculateBookingPrice input).serviceFee) :
    resolvePaymentSplit breakdown = .ok {
      amountTotal := (calculateBookingPrice input).totalPrice
      fareAmount := (calculateBookingPrice input).subtotal
      platformFeeAmount := (calculateBookingPrice input).serviceFee
      currency := breakdown.currency } := by
  have hsubtotal := subtotalCents_nonneg hbase hseats
  unfold resolvePaymentSplit
  simp only [htotal, hfee, serviceFee_hundredths, totalPrice_hundredths, add_sub_cancel_right]
  rw [if_neg (not_lt.mpr hsubtotal), if_neg (not_not.mpr rfl)]
  congr 2
  show _ = ((input.subtotalCents + 0 + input.serviceFeeCents : ℤ) : ℚ) / 100
  rw [add_zero]

end Reading

end Exact

/-- **The receipt of a booking**: the breakdown that is rebuilt from the stored columns has the
subtotal, the fee, the total, the percentage and the flat fee that the booking was made with, and
splits into them. -/
theorem receipt_reconstructed (input : Exact.CalculateBookingPriceInput)
    (hbase : 0 ≤ input.basePricePerSeat) (hseats : 1 ≤ input.seatsBooked)
    (hflat : 0 ≤ input.serviceFeeFlat) (hdecimals : input.serviceFeeFlat.IsHundredths)
    (segmentFare : ℚ)
    (paymentCurrency rideCurrency : Option String) :
    ∃ rebuilt split, Exact.reconstructPriceBreakdown (Exact.bookingColumns
          (Exact.calculateBookingPrice input) segmentFare paymentCurrency rideCurrency) =
        some rebuilt ∧
      rebuilt.subtotal = (Exact.calculateBookingPrice input).subtotal ∧
      rebuilt.serviceFee = (Exact.calculateBookingPrice input).serviceFee ∧
      rebuilt.totalPrice = (Exact.calculateBookingPrice input).totalPrice ∧
      rebuilt.serviceFeePercent = input.serviceFeePercent ∧
      rebuilt.serviceFeeFlat = input.serviceFeeFlat ∧
      Exact.resolvePaymentSplit rebuilt = .ok split ∧
      split.fareAmount = rebuilt.subtotal ∧
      split.platformFeeAmount = rebuilt.serviceFee ∧
      split.fareAmount + split.platformFeeAmount = split.amountTotal := by
  have hrebuilt := Exact.reconstruct_bookingColumns hflat hdecimals segmentFare paymentCurrency
    rideCurrency
  refine ⟨_, _, hrebuilt, rfl, rfl, rfl, rfl, rfl,
    Exact.resolvePaymentSplit_eq hbase hseats rfl rfl, rfl, rfl, ?_⟩
  show (input.subtotalCents : ℚ) / 100 + (input.serviceFeeCents : ℚ) / 100 =
    ((input.subtotalCents + 0 + input.serviceFeeCents : ℤ) : ℚ) / 100
  push_cast
  ring

/-- Three seats at 3.30 with a fee of fifteen percent and ten cents. -/
theorem receipt_of_three_seats :
    ∃ rebuilt split, Exact.reconstructPriceBreakdown (Exact.bookingColumns
          (Exact.calculateBookingPrice {
            basePricePerSeat := 33 / 10
            seatsBooked := 3
            serviceFeePercent := 15
            serviceFeeFlat := 1 / 10 }) (33 / 10) none (some "EUR")) = some rebuilt ∧
      rebuilt.subtotal = (Exact.calculateBookingPrice {
        basePricePerSeat := 33 / 10
        seatsBooked := 3
        serviceFeePercent := 15
        serviceFeeFlat := 1 / 10 }).subtotal ∧
      Exact.resolvePaymentSplit rebuilt = .ok split := by
  obtain ⟨rebuilt, split, hrebuilt, hsubtotal, -, -, -, -, hsplit, -⟩ :=
    receipt_reconstructed {
      basePricePerSeat := 33 / 10
      seatsBooked := 3
      serviceFeePercent := 15
      serviceFeeFlat := 1 / 10 } (by norm_num) (by norm_num) (by norm_num) ⟨10, by norm_num⟩ (33 / 10)
      none (some "EUR")
  exact ⟨rebuilt, split, hrebuilt, hsubtotal, hsplit⟩

end Deliivo

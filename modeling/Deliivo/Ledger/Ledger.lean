import Deliivo.Domain.World
import Deliivo.Store.Tally

/-!
# The ledger

The entries that each recording function writes, and the balances read off them. Entries are only
ever appended, each call's under one group id.

## Main definitions

* `paymentReceivedEntries`, `refundEntries`, `transferEntries`, `payoutFailureReversalEntries`,
  `providerFeeExpenseEntries`: the entries of one group
* `recordPaymentReceived`, …: the services that write them
* `getDriverBalance`: credits less debits on a driver's account
* `ledgerImbalance`: a payment's debits less its credits

## Main results

* `ledgerImbalance_paymentReceived`, `ledgerImbalance_refund`, `ledgerImbalance_providerFeeExpense`:
  these groups balance
* `ledgerImbalance_transfer`: a transfer's group is short of a credit by its amount
* `getDriverBalance_append`: what new entries do to a driver's balance
-/

namespace Deliivo

/-! ## Entries -/

/-- The payment that a ledger group is about and the parties it is booked on. -/
structure LedgerSubject where
  paymentId : ℕ
  bookingId : ℕ
  riderId : ℕ
  driverId : ℕ
  currency : String

section Entries

variable (group : ℕ) (subject : LedgerSubject)

/-- The entries of `recordPaymentReceived`: money in, and what of it is owed to the driver and
earned by the platform. -/
def paymentReceivedEntries (totalAmount fareAmount platformFee : ℤ) : List LedgerEntry :=
  [{ entryGroupId := group
     paymentId := subject.paymentId
     bookingId := subject.bookingId
     userId := some subject.riderId
     accountType := .rider
     entryType := .riderPaymentReceived
     direction := .debit
     amount := totalAmount
     currency := subject.currency },
   { entryGroupId := group
     paymentId := subject.paymentId
     bookingId := subject.bookingId
     userId := some subject.driverId
     accountType := .driver
     entryType := .driverEarningLiability
     direction := .credit
     amount := fareAmount
     currency := subject.currency }] ++
  if 0 < platformFee then
    [{ entryGroupId := group
       paymentId := subject.paymentId
       bookingId := subject.bookingId
       userId := none
       accountType := .platform
       entryType := .platformFeeRevenue
       direction := .credit
       amount := platformFee
       currency := subject.currency }]
  else []

/-- The entries of `recordRefund`: the rider is credited, the driver and the platform fund it. -/
def refundEntries (refundAmount : ℤ) (split : RefundSplit) : List LedgerEntry :=
  [{ entryGroupId := group
     paymentId := subject.paymentId
     bookingId := subject.bookingId
     userId := some subject.riderId
     accountType := .rider
     entryType := .refundToRider
     direction := .credit
     amount := refundAmount
     currency := subject.currency },
   { entryGroupId := group
     paymentId := subject.paymentId
     bookingId := subject.bookingId
     userId := some subject.driverId
     accountType := .driver
     entryType := .driverEarningLiability
     direction := .debit
     amount := split.fareRefundAmount
     currency := subject.currency }] ++
  if 0 < split.feeRefundAmount then
    [{ entryGroupId := group
       paymentId := subject.paymentId
       bookingId := subject.bookingId
       userId := none
       accountType := .platform
       entryType := .platformFeeReversal
       direction := .debit
       amount := split.feeRefundAmount
       currency := subject.currency }]
  else []

/-- The entry of `recordTransfer`: the driver's liability is discharged. Nothing is credited. -/
def transferEntries (transferAmount : ℤ) : List LedgerEntry :=
  [{ entryGroupId := group
     paymentId := subject.paymentId
     bookingId := subject.bookingId
     userId := some subject.driverId
     accountType := .driver
     entryType := .driverTransferCreated
     direction := .debit
     amount := transferAmount
     currency := subject.currency }]

/-- The entry of `recordPayoutFailureReversal`: the driver's liability is reopened. -/
def payoutFailureReversalEntries (reversedAmount : ℤ) : List LedgerEntry :=
  [{ entryGroupId := group
     paymentId := subject.paymentId
     bookingId := subject.bookingId
     userId := some subject.driverId
     accountType := .driver
     entryType := .payoutFailureReversal
     direction := .credit
     amount := reversedAmount
     currency := subject.currency }]

/-- The entries of `recordProviderFeeExpense`: the provider is credited what it earned and the
platform debited for paying it; a fee of zero is not recorded. -/
def providerFeeExpenseEntries (feeAmount : ℤ) (currency : String) : List LedgerEntry :=
  if 0 < feeAmount then
    [{ entryGroupId := group
       paymentId := subject.paymentId
       bookingId := subject.bookingId
       userId := none
       accountType := .provider
       entryType := .stripeFeeExpense
       direction := .credit
       amount := feeAmount
       currency },
     { entryGroupId := group
       paymentId := subject.paymentId
       bookingId := subject.bookingId
       userId := none
       accountType := .platform
       entryType := .stripeFeeExpense
       direction := .debit
       amount := feeAmount
       currency }]
  else []

end Entries

/-! ## The recording services -/

/-- `ledgerEntry.createMany`. -/
def createEntries (entries : List LedgerEntry) : Stmt Unit where
  locks _ := [.other]
  answer _ := ()
  write _ d := { d with ledger := d.ledger ++ entries }

/-- Write the entries of one group under a new group id. -/
def recordGroup (entries : ℕ → List LedgerEntry) : Service Unit :=
  transaction fun ctx => Program.command (createEntries (entries ctx.uuid))

def recordPaymentReceived (subject : LedgerSubject) (totalAmount fareAmount platformFee : ℤ) :
    Service Unit :=
  recordGroup fun group => paymentReceivedEntries group subject totalAmount fareAmount platformFee

def recordRefund (subject : LedgerSubject) (refundAmount : ℤ) (split : RefundSplit) :
    Service Unit :=
  recordGroup fun group => refundEntries group subject refundAmount split

def recordTransfer (subject : LedgerSubject) (transferAmount : ℤ) : Service Unit :=
  recordGroup fun group => transferEntries group subject transferAmount

def recordPayoutFailureReversal (subject : LedgerSubject) (reversedAmount : ℤ) : Service Unit :=
  recordGroup fun group => payoutFailureReversalEntries group subject reversedAmount

def recordProviderFeeExpense (subject : LedgerSubject) (feeAmount : ℤ) (currency : String) :
    Service Unit :=
  if 0 < feeAmount then
    recordGroup fun group => providerFeeExpenseEntries group subject feeAmount currency
  else
    return ()

/-! ## Balances -/

/-- An entry's amount, credits positive. -/
def LedgerEntry.credited (e : LedgerEntry) : ℤ :=
  match e.direction with
  | .credit => e.amount
  | .debit => -e.amount

/-- Whether an entry is on a driver's account. -/
def LedgerEntry.onDriver (driverId : ℕ) (e : LedgerEntry) : Bool :=
  e.userId == some driverId && e.accountType == .driver

/-- `getDriverBalance`, over all currencies: the loop of the source over a driver's entries. -/
def getDriverBalance (ledger : List LedgerEntry) (driverId : ℕ) : ℤ :=
  (ledger.filter (·.onDriver driverId)).foldl
    (fun balance e => match e.direction with
      | .credit => balance + e.amount
      | .debit => balance - e.amount) 0

/-- Whether an entry is about a payment and in a direction. -/
def LedgerEntry.isOf (paymentId : ℕ) (direction : Direction) (e : LedgerEntry) : Bool :=
  e.paymentId == paymentId && e.direction == direction

/-- The amounts of a payment's entries of one direction, summed. -/
def ledgerTotal (ledger : List LedgerEntry) (paymentId : ℕ) (direction : Direction) : ℤ :=
  ledger.tally (·.isOf paymentId direction) LedgerEntry.amount

/-- A payment's debits less its credits. -/
def ledgerImbalance (ledger : List LedgerEntry) (paymentId : ℕ) : ℤ :=
  ledgerTotal ledger paymentId .debit - ledgerTotal ledger paymentId .credit

/-- The amounts of a payment's entries of one type, summed. -/
def ledgerTotalOf (ledger : List LedgerEntry) (paymentId : ℕ) (type : EntryType) : ℤ :=
  ledger.tally (fun e => e.paymentId == paymentId && e.entryType == type) LedgerEntry.amount

/-! ## What the groups add -/

section Balances

variable (ledger es : List LedgerEntry) (p driver group : ℕ) (subject : LedgerSubject)

@[simp] theorem ledgerTotal_append (dir : Direction) :
    ledgerTotal (ledger ++ es) p dir = ledgerTotal ledger p dir + ledgerTotal es p dir :=
  List.tally_append _ _ _ _

@[simp] theorem ledgerTotalOf_append (type : EntryType) :
    ledgerTotalOf (ledger ++ es) p type = ledgerTotalOf ledger p type + ledgerTotalOf es p type :=
  List.tally_append _ _ _ _

@[simp] theorem ledgerImbalance_append :
    ledgerImbalance (ledger ++ es) p = ledgerImbalance ledger p + ledgerImbalance es p := by
  simp only [ledgerImbalance, ledgerTotal_append]
  ring

/-- The balance is the sum of what the driver's entries credit. -/
theorem getDriverBalance_eq_tally :
    getDriverBalance ledger driver =
      ledger.tally (·.onDriver driver) LedgerEntry.credited := by
  have hfold : ∀ (l : List LedgerEntry) (b : ℤ),
      l.foldl (fun balance e => match e.direction with
        | .credit => balance + e.amount
        | .debit => balance - e.amount) b = b + (l.map LedgerEntry.credited).sum := by
    intro l
    induction l with
    | nil => simp
    | cons e l ih =>
      intro b
      rw [List.foldl_cons, ih, List.map_cons, List.sum_cons]
      unfold LedgerEntry.credited
      cases e.direction <;> simp only <;> ring
  rw [getDriverBalance, hfold, zero_add]
  rfl

theorem getDriverBalance_append :
    getDriverBalance (ledger ++ es) driver =
      getDriverBalance ledger driver + getDriverBalance es driver := by
  simp only [getDriverBalance_eq_tally, List.tally_append]

/-- The group of a received payment balances if its fare and fee make up the total. -/
theorem ledgerImbalance_paymentReceived {total fare fee : ℤ} (h : fare + fee = total)
    (hfee : 0 ≤ fee) :
    ledgerImbalance (paymentReceivedEntries group subject total fare fee) p = 0 := by
  unfold ledgerImbalance ledgerTotal paymentReceivedEntries
  by_cases hp : subject.paymentId = p <;> split_ifs <;> simp [LedgerEntry.isOf, hp] <;> omega

/-- A refund group balances if its parts sum to the refund. -/
theorem ledgerImbalance_refund {refund : ℤ} {split : RefundSplit} (h : split.total = refund)
    (hfee : 0 ≤ split.feeRefundAmount) :
    ledgerImbalance (refundEntries group subject refund split) p = 0 := by
  unfold RefundSplit.total at h
  unfold ledgerImbalance ledgerTotal refundEntries
  by_cases hp : subject.paymentId = p <;> split_ifs <;> simp [LedgerEntry.isOf, hp] <;> omega

/-- A refund group has one `REFUND_TO_RIDER` entry, of the whole refund. -/
theorem ledgerTotalOf_refund (refund : ℤ) (split : RefundSplit) :
    ledgerTotalOf (refundEntries group subject refund split) subject.paymentId .refundToRider =
      refund := by
  unfold ledgerTotalOf refundEntries
  split_ifs <;> simp

theorem ledgerImbalance_providerFeeExpense (fee : ℤ) (currency : String) :
    ledgerImbalance (providerFeeExpenseEntries group subject fee currency) p = 0 := by
  unfold ledgerImbalance ledgerTotal providerFeeExpenseEntries
  by_cases hp : subject.paymentId = p <;> split_ifs <;> simp [LedgerEntry.isOf, hp]

/-- A transfer's group has a debit and no credit. -/
theorem ledgerImbalance_transfer (amount : ℤ) :
    ledgerImbalance (transferEntries group subject amount) p =
      if subject.paymentId = p then amount else 0 := by
  by_cases hp : subject.paymentId = p <;>
    simp [ledgerImbalance, ledgerTotal, transferEntries, LedgerEntry.isOf, hp]

theorem getDriverBalance_transfer (amount : ℤ) :
    getDriverBalance (transferEntries group subject amount) driver =
      if subject.driverId = driver then -amount else 0 := by
  by_cases hd : subject.driverId = driver <;>
    simp [getDriverBalance, transferEntries, LedgerEntry.onDriver, hd]

theorem getDriverBalance_payoutFailureReversal (amount : ℤ) :
    getDriverBalance (payoutFailureReversalEntries group subject amount) driver =
      if subject.driverId = driver then amount else 0 := by
  by_cases hd : subject.driverId = driver <;>
    simp [getDriverBalance, payoutFailureReversalEntries, LedgerEntry.onDriver, hd]

end Balances

end Deliivo

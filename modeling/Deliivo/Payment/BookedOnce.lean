import Deliivo.Booking.Frame
import Deliivo.Domain.Pool
import Deliivo.Domain.Preserves
import Deliivo.Payment.Spec
import Deliivo.Reconciliation.Hourly

/-!
# A paid payment is booked once

A payment that reaches `PAID` should have one `RIDER_PAYMENT_RECEIVED` group in the ledger and one
`payment.paid` event in the outbox. Status, ledger and outbox are three writes, reached from several
callers that read the row first and claim nothing.

**Along every interleaving in which no repair writes the status alone, no call writes on the
strength of an unpaid row that has been paid meanwhile, and no call fails between the status and
the event, a paid payment is booked once** (`paid_is_booked_once`). The proof follows the call that
has marked the payment paid: the others leave alone what it has begun to book.

## Main definitions

* `PaidOp`, `paidPool`: the calls, next to each other
* `PaidStep`: the condition on their steps
* `bookingProtocol`: what the calls owe each other about one payment

## Main results

* `safe_markPaymentPaid`, `safe_markRefunded`: the calls on the payment keep the protocol
* `safe_applyStripePaymentSucceededToBooking`, `safe_reconcilePayments`
* `paid_is_booked_once`
-/

namespace Deliivo

open Program (Logged Protocol Pool Move)

/-! ## What is booked for a payment -/

/-- Whether a payment in this status has not been paid. -/
def PaymentStatus.beforePaid : PaymentStatus → Bool
  | .created | .paymentPending | .paymentFailed => true
  | _ => false

section Booked

variable (P : ℕ)

/-- Whether the payment is there and in `PAID` or later. -/
def Db.paidOrLater (d : Db) : Bool := (d.payments.get? P).any fun p => !p.status.beforePaid

/-- The `RIDER_PAYMENT_RECEIVED` groups of the payment: each has one entry of that type. -/
def Db.receivedGroups (d : Db) : ℕ :=
  d.ledger.countP fun e => e.paymentId == P && e.entryType == .riderPaymentReceived

/-- The `payment.paid` events of the payment. -/
def Db.paidEvents (d : Db) : ℕ :=
  d.outbox.rows.countP fun r => r.2.eventType == .paymentPaid && r.2.paymentId == some P

/-- The payment is booked exactly once. -/
def Db.BookedOnce (d : Db) : Prop := d.receivedGroups P = 1 ∧ d.paidEvents P = 1

/-- A payment that has not been paid is not booked, and one that has been is booked once. -/
def Db.BookedAsPaid (d : Db) : Prop :=
  if d.paidOrLater P then d.BookedOnce P else d.receivedGroups P = 0 ∧ d.paidEvents P = 0

/-- What a step would have to change of the database to matter here. -/
def bookingView (d : Db) : Bool × ℕ × ℕ := (d.paidOrLater P, d.receivedGroups P, d.paidEvents P)

end Booked

/-! ## The operations -/

/-- The calls that run next to each other. -/
inductive PaidOp
  | succeeded (settings : Settings) (paymentIntent : ℕ) (intent : Intent)
  | markPaid (bookingId driverId : ℕ)
  | refundRideFull (bookingId paymentIntent : ℕ)
  | reconcile (recent : ℕ → Bool)

/-- Run a service for what it does. -/
def Service.void {α : Type} (p : Service α) : Service Unit := p.bind fun _ => return ()

def PaidOp.program : PaidOp → Service Unit
  | succeeded settings paymentIntent intent =>
    (applyStripePaymentSucceededToBooking settings paymentIntent intent).void
  | markPaid bookingId driverId => (markBookingPaymentPaid bookingId driverId).void
  | refundRideFull bookingId paymentIntent => refundRideFullPayment bookingId paymentIntent
  | reconcile recent => (runHourlyReconciliation recent).void

/-- Anything else that goes on: all of the world but the payments, the ledger and the outbox. -/
def elsewhere (w' w : World) : World :=
  { w' with db := { w'.db with
      payments := w.db.payments
      ledger := w.db.ledger
      outbox := w.db.outbox } }

/-- The calls, next to each other. -/
abbrev paidPool := servicePool PaidOp.program elsewhere

/-- A call has written `PAID` to the payment. -/
def MarkedPaid (P tid : ℕ) (x : LoggedWorld) : Prop :=
  ∃ read, (tid, Event.paymentWritten P read .paid) ∈ x.log

/-- The condition on the steps: reconciliation does not repair the payment; a write of it that was
decided before it was paid finds it so still; and no step fails in a call that has marked it paid
before the payment is booked. -/
structure PaidStep (P : ℕ) (op : PaidOp) (tid : ℕ) (x : LoggedWorld) (reply : Reply)
    (events : List Event) : Prop where
  noRepair : ∀ read written, .paymentWritten P read written ∈ events →
    ∀ recent, op ≠ .reconcile recent
  notStale : ∀ read written, .paymentWritten P read written ∈ events → read.beforePaid = true →
    x.state.db.paidOrLater P = false
  noFault : reply ≠ .ok → MarkedPaid P tid x → x.state.db.BookedOnce P

/-! ## Steps that do not matter -/

section View

variable {P : ℕ}

theorem bookingView_apart_bookings : bookings.Apart (bookingView P) := fun _ _ => rfl

theorem bookingView_apart_rides : rides.Apart (bookingView P) := fun _ _ => rfl

theorem bookingView_apart_segments : segments.Apart (bookingView P) := fun _ _ => rfl

theorem bookingView_apart_offers : offers.Apart (bookingView P) := fun _ _ => rfl

theorem bookingView_apart_requests : requests.Apart (bookingView P) := fun _ _ => rfl

/-- A write of the payments that keeps, row by row, whether it has been paid. -/
theorem bookingView_payments {d : Db} {t : Table Payment}
    (h : (t.get? P).any (fun p => !p.status.beforePaid) = d.paidOrLater P) :
    bookingView P { d with payments := t } = bookingView P d := by
  simp only [bookingView, Db.paidOrLater, Db.receivedGroups, Db.paidEvents] at h ⊢
  rw [h]

/-- Seeing to the payment of a request creates it pending or links it. -/
theorem bookingView_requestPayment : RequestPaymentApart (bookingView P) := by
  intro feePercent uuid bookingId booking
  unfold ensureRequestPayment
  split
  · trivial
  · trivial
  · split
    · trivial
    · refine ((Program.issues_command _).mpr ?_).bind fun found => ?_
      · intro seen d
        simp only [upsertPayment]
        split
        · rfl
        · refine bookingView_payments ?_
          cases hid : d.payments.get? uuid with
          | some p => rw [Table.insert_of_some hid, Db.paidOrLater]
          | none =>
            rw [Table.get?_insert hid, Db.paidOrLater]
            by_cases hP : P = uuid
            · rw [if_pos hP, hP, hid]
              rfl
            · rw [if_neg hP]
      · dsimp only
        split_ifs with hmatch hlinked
        · refine ((Program.issues_command _).mpr fun seen d => ?_).bind fun linked => ?_
          · refine bookingView_payments ?_
            rw [Table.any_get?_modifyWhere]
            · rfl
            · exact fun _ => rfl
          · split_ifs <;> trivial
        · trivial
        · trivial

/-- Entries that are not of the payment, or not of the type. -/
theorem bookingView_ledger {d : Db} {entries : List LedgerEntry}
    (h : ∀ e ∈ entries, (e.paymentId == P && e.entryType == .riderPaymentReceived) = false) :
    bookingView P { d with ledger := d.ledger ++ entries } = bookingView P d := by
  have hzero : (entries.countP fun e =>
      e.paymentId == P && e.entryType == .riderPaymentReceived) = 0 :=
    List.countP_eq_zero.mpr fun e he => by simp [h e he]
  simp only [bookingView, Db.paidOrLater, Db.receivedGroups, Db.paidEvents, List.countP_append,
    hzero, Nat.add_zero]

end View

/-! ## The protocol -/

/-- The call `tid` owes nothing: if it has marked the payment paid, the payment is booked. -/
def Settled (P tid : ℕ) (x : LoggedWorld) : Prop := MarkedPaid P tid x → x.state.db.BookedOnce P

/-- What holds of the payment at all times: before it is paid nothing is booked and no call has
marked it paid, after that it was booked from the start or a single call has marked it. -/
structure BookingInv (P : ℕ) (x : LoggedWorld) : Prop where
  before : x.state.db.paidOrLater P = false →
    (∀ tid, ¬ MarkedPaid P tid x) ∧ x.state.db.receivedGroups P = 0 ∧ x.state.db.paidEvents P = 0
  after : x.state.db.paidOrLater P = true →
    (∃ tid, MarkedPaid P tid x) ∨ x.state.db.BookedOnce P
  unique : ∀ tid tid', MarkedPaid P tid x → MarkedPaid P tid' x → tid = tid'

/-- What a call relies on: the others do not mark for it, leave what it has begun to book alone, and
never undo that the payment is paid. -/
structure BookingRely (P tid : ℕ) (x y : LoggedWorld) : Prop where
  marked : MarkedPaid P tid y ↔ MarkedPaid P tid x
  counts : MarkedPaid P tid x → y.state.db.receivedGroups P = x.state.db.receivedGroups P ∧
    y.state.db.paidEvents P = x.state.db.paidEvents P
  paid : x.state.db.paidOrLater P = true → y.state.db.paidOrLater P = true

/-- What a call guarantees: it marks for itself only, and books only once it has marked. -/
structure BookingGuar (P tid : ℕ) (x y : LoggedWorld) : Prop where
  marked : ∀ t, t ≠ tid → (MarkedPaid P t y ↔ MarkedPaid P t x)
  counts : ¬ MarkedPaid P tid x → y.state.db.receivedGroups P = x.state.db.receivedGroups P ∧
    y.state.db.paidEvents P = x.state.db.paidEvents P
  paid : x.state.db.paidOrLater P = true → y.state.db.paidOrLater P = true

/-- The same view and the same marks. -/
structure SameBooking (P : ℕ) (x y : LoggedWorld) : Prop where
  view : bookingView P y.state.db = bookingView P x.state.db
  marked : ∀ t, MarkedPaid P t y ↔ MarkedPaid P t x

section Same

variable {P tid : ℕ} {x y : LoggedWorld}

theorem SameBooking.paid (h : SameBooking P x y) :
    y.state.db.paidOrLater P = x.state.db.paidOrLater P := congrArg Prod.fst h.view

theorem SameBooking.counts (h : SameBooking P x y) :
    y.state.db.receivedGroups P = x.state.db.receivedGroups P ∧
      y.state.db.paidEvents P = x.state.db.paidEvents P :=
  Prod.mk.injEq .. ▸ congrArg Prod.snd h.view

theorem SameBooking.bookedOnce (h : SameBooking P x y) :
    y.state.db.BookedOnce P ↔ x.state.db.BookedOnce P := by
  rw [Db.BookedOnce, Db.BookedOnce, h.counts.1, h.counts.2]

theorem SameBooking.inv (h : SameBooking P x y) (hI : BookingInv P x) : BookingInv P y where
  before hb := by
    rw [h.paid] at hb
    rw [h.counts.1, h.counts.2]
    exact ⟨fun tid hm => (hI.before hb).1 tid ((h.marked tid).mp hm), (hI.before hb).2⟩
  after ha := by
    rw [h.paid] at ha
    rw [h.bookedOnce]
    exact (hI.after ha).imp_left fun ⟨tid, hm⟩ => ⟨tid, (h.marked tid).mpr hm⟩
  unique t t' hm hm' := hI.unique t t' ((h.marked t).mp hm) ((h.marked t').mp hm')

theorem SameBooking.guar (h : SameBooking P x y) : BookingGuar P tid x y where
  marked t _ := h.marked t
  counts _ := h.counts
  paid hp := h.paid ▸ hp

theorem SameBooking.rely (h : SameBooking P x y) : BookingRely P tid x y where
  marked := h.marked tid
  counts _ := h.counts
  paid hp := h.paid ▸ hp

theorem SameBooking.settled (h : SameBooking P x y) (hx : Settled P tid x) : Settled P tid y :=
  fun hm => h.bookedOnce.mpr (hx ((h.marked tid).mp hm))

/-- What others do settles nothing and unsettles nothing. -/
theorem BookingRely.settled (h : BookingRely P tid x y) (hx : Settled P tid x) :
    Settled P tid y := by
  intro hm
  have hmx := h.marked.mp hm
  rw [Db.BookedOnce, (h.counts hmx).1, (h.counts hmx).2]
  exact hx hmx

/-- The log after a step: the marks that it adds. -/
theorem markedPaid_next {es : List Event} {s : World} {t : ℕ} :
    MarkedPaid P t (x.next tid es s) ↔
      MarkedPaid P t x ∨ t = tid ∧ ∃ read, Event.paymentWritten P read .paid ∈ es := by
  simp only [MarkedPaid, Logged.mem_next_log]
  constructor
  · rintro ⟨read, h | ⟨rfl, h⟩⟩
    · exact Or.inl ⟨read, h⟩
    · exact Or.inr ⟨rfl, read, h⟩
  · rintro (⟨read, h⟩ | ⟨rfl, read, h⟩)
    · exact ⟨read, Or.inl h⟩
    · exact ⟨read, Or.inr ⟨rfl, h⟩⟩

/-- An event that does not mark the payment paid. -/
def NoMark (P : ℕ) (e : Event) : Prop := ∀ read, e ≠ .paymentWritten P read .paid

/-- What a step may do that does not matter for the payment. -/
def bookingFrame (P : ℕ) : Frame where
  db := bookingView P
  stripe _ := ()
  events := NoMark P

theorem sameBooking_next {es : List Event} {s : World}
    (hview : bookingView P s.db = bookingView P x.state.db) (hes : ∀ e ∈ es, NoMark P e) :
    SameBooking P x (x.next tid es s) where
  view := hview
  marked t := by
    rw [markedPaid_next, or_iff_left_iff_imp]
    rintro ⟨-, read, hmem⟩
    exact absurd rfl (hes _ hmem read)

end Same

theorem sameBooking_elsewhere (P : ℕ) (w : World) (x : LoggedWorld) :
    SameBooking P x { x with state := elsewhere w x.state } := ⟨rfl, fun _ => Iff.rfl⟩

/-- What the calls owe each other about one payment. -/
def bookingProtocol (P : ℕ) : Protocol paidPool (PaidStep P) (fun _ _ => True) where
  Inv := BookingInv P
  Rely := BookingRely P
  Guar := BookingGuar P
  Post _ tid x := Settled P tid x
  rely_refl tid x := ⟨Iff.rfl, fun _ => ⟨rfl, rfl⟩, id⟩
  rely_trans {tid x y z} h h' := by
    refine ⟨h'.marked.trans h.marked, fun hm => ?_, h'.paid ∘ h.paid⟩
    have h1 := h.counts hm
    have h2 := h'.counts (h.marked.mpr hm)
    exact ⟨h2.1.trans h1.1, h2.2.trans h1.2⟩
  guar_rely {tid tid' x y} hne hI h := by
    refine ⟨h.marked tid hne, fun hm => h.counts fun hm' => ?_, h.paid⟩
    exact hne (hI.unique tid tid' hm hm')
  env_inv {d x} hI _ := (sameBooking_elsewhere P d x).inv hI
  env_rely {d x} _ _ _ := (sameBooking_elsewhere P d x).rely
  post_stable hx h _ := h.settled hx

/-! ## The steps of the calls -/

/-- The call owes nothing and, if `known`, the payment is paid or later. -/
def SettledIf (P tid : ℕ) (known : Prop) (x : LoggedWorld) : Prop :=
  Settled P tid x ∧ (known → x.state.db.paidOrLater P = true)

section Safe

variable {P tid : ℕ} {op : PaidOp} {known : Prop} {x : LoggedWorld} {α : Type}

theorem stable_settledIf : (bookingProtocol P).Stable tid (SettledIf P tid known) :=
  fun _ _ hx h _ => ⟨h.settled hx.1, h.paid ∘ hx.2⟩

theorem SameBooking.settledIf {y : LoggedWorld} (h : SameBooking P x y)
    (hx : SettledIf P tid known x) : SettledIf P tid known y :=
  ⟨h.settled hx.1, fun hk => h.paid.trans (hx.2 hk)⟩

/-- A service that changes nothing of interest and marks nothing. -/
theorem safe_leaves {p : Service α} (hp : p.Leaves (bookingFrame P))
    (hx : SettledIf P tid known x) :
    (bookingProtocol P).Safe op tid (fun _ => SettledIf P tid known) p x := by
  refine Protocol.Safe.issues stable_settledIf (hp.mono fun c hc y hy hI => ?_) hx
  refine keeps_leaves hc fun i b es s hview _ hes _ => ?_
  have hsame : SameBooking P y (y.next tid es s) := sameBooking_next hview hes
  exact ⟨hsame.guar, hsame.inv hI, hsame.settledIf hy⟩

/-- What a transaction that throws leaves to be shown. -/
theorem keeps_error {A : LoggedWorld → Prop} {y : LoggedWorld} (hI : BookingInv P y) (hA : A y) :
    (bookingProtocol P).Guar tid y y ∧ (bookingProtocol P).Inv y ∧ A y :=
  ⟨(SameBooking.mk rfl fun _ => Iff.rfl : SameBooking P y y).guar, hI, hA⟩

/-- A write of a payment that does not mark ours paid: another payment, or one that stays on the
same side of being paid as where the call has read it. -/
theorem safe_writePayment {paymentId : ℕ} {read : PaymentStatus} {f : Ctx → Payment → Payment}
    (hf : paymentId = P → (∀ ctx p, (f ctx p).status ≠ .paid ∧
      (f ctx p).status.beforePaid = read.beforePaid) ∧ (read.beforePaid = false → known))
    (hx : SettledIf P tid known x) :
    (bookingProtocol P).Safe op tid (fun _ => SettledIf P tid known)
      (writePayment paymentId read f) x := by
  refine Protocol.Safe.perform stable_settledIf hx fun y hy hI => ?_
  refine keeps_transact (fun b d hb hcond => ?_) fun i e _ _ => keeps_error hI hy
  obtain ⟨row, hrow, rfl, rfl⟩ := Service.atomic_update hb
  intro z
  have hsame : SameBooking P y z := by
    refine sameBooking_next (bookingView_payments ?_) fun e he => ?_
    · by_cases hP : paymentId = P
      · obtain ⟨hside, hknown⟩ := hf hP
        subst hP
        change Option.any _ ((y.state.db.payments.modify _ _).get? _) = _
        change y.state.db.payments.get? _ = some row at hrow
        rw [Table.get?_modify_self, hrow, Option.map_some, Option.any_some, (hside _ _).2]
        -- the row is on the side on which the call has read it
        cases hread : read.beforePaid with
        | true => exact (hcond.notStale _ _ List.mem_cons_self hread).symm
        | false => exact (hy.2 (hknown hread)).symm
      · change Option.any _ ((y.state.db.payments.modify _ _).get? _) = _
        rw [Table.get?_modify_ne _ _ (Ne.symm hP)]
        rfl
    · intro read' heq
      rw [List.mem_singleton.mp he] at heq
      injection heq with hP _ hpaid
      exact ((hf hP).1 _ _).1 hpaid
  exact ⟨hsame.guar, hsame.inv hI, hsame.settledIf hy⟩

/-- The shape of the transition helpers that do not mark a payment paid. -/
theorem safe_assertTransition {Q : Except Err Unit → LoggedWorld → Prop}
    {current target : PaymentStatus} (hthrow : ∀ e, Q (.error e) x)
    (hok : target ∈ current.transitions → Q (.ok ()) x) :
    (bookingProtocol P).Safe op tid Q (assertTransition current target) x := by
  unfold assertTransition
  split_ifs with h
  · exact hok h
  · exact hthrow _

/-- A reading step, or any other that does not matter, in front of the rest. -/
theorem safe_leaves_bind {β : Type} {p : Service α} {f : α → Service β}
    (hp : p.Leaves (bookingFrame P))
    (hf : ∀ a y, SettledIf P tid known y →
      (bookingProtocol P).Safe op tid (fun _ => SettledIf P tid known) (f a) y)
    (hx : SettledIf P tid known x) :
    (bookingProtocol P).Safe op tid (fun _ => SettledIf P tid known) (p.bind f) x :=
  (safe_leaves hp hx).sequence hf

theorem mem_transitions_paid {s : PaymentStatus} (h : .paid ∈ s.transitions) :
    s = .paymentPending := by
  cases s <;> simp_all [PaymentStatus.transitions]

/-! ### Marking the payment paid -/

/-- The call has marked the payment paid and booked so much. -/
def BookedSoFar (P tid groups events : ℕ) (x : LoggedWorld) : Prop :=
  MarkedPaid P tid x ∧ x.state.db.receivedGroups P = groups ∧ x.state.db.paidEvents P = events

theorem stable_bookedSoFar {groups events : ℕ} :
    (bookingProtocol P).Stable tid (BookedSoFar P tid groups events) :=
  fun _ _ hx h _ =>
    ⟨h.marked.mpr hx.1, (h.counts hx.1).1.trans hx.2.1, (h.counts hx.1).2.trans hx.2.2⟩

/-- Once it has marked the payment, a call books it in steps that do not fail. -/
theorem BookedSoFar.keeps {β : Type} {groups events groups' events' : ℕ} {y : LoggedWorld}
    {body : Ctx → Tx β} {write : Db} {b : β}
    (hy : BookedSoFar P tid groups events y) (hI : BookingInv P y)
    (hunbooked : ¬ (groups = 1 ∧ events = 1))
    (hbody : (body ⟨y.state.now, y.state.db.freshId⟩).atomic y.state.db = .ok (b, write))
    (hpaid : write.paidOrLater P = y.state.db.paidOrLater P)
    (hgroups : write.receivedGroups P = groups') (hevents : write.paidEvents P = events') :
    (bookingProtocol P).Keeps op tid (.transact body fun _ => []) y
      fun r z => r = .ok b ∧ BookedSoFar P tid groups' events' z := by
  refine keeps_transact (fun b' d hb _ => ?_) fun i e hcond hi => ?_
  · obtain ⟨rfl, rfl⟩ := Prod.mk.injEq .. ▸ Except.ok.inj (hbody.symm.trans hb)
    intro z
    have hmarked : ∀ t, MarkedPaid P t z ↔ MarkedPaid P t y := fun t => by
      rw [markedPaid_next, or_iff_left_iff_imp]
      rintro ⟨-, read, hmem⟩
      exact absurd hmem List.not_mem_nil
    refine ⟨⟨fun t _ => hmarked t, fun h => absurd hy.1 h, fun h => hpaid.trans h⟩, ?_, rfl,
      (hmarked tid).mpr hy.1, hgroups, hevents⟩
    refine ⟨fun hb => ?_, fun _ => Or.inl ⟨tid, (hmarked tid).mpr hy.1⟩, fun t t' h h' =>
      hI.unique t t' ((hmarked t).mp h) ((hmarked t').mp h')⟩
    exact absurd hy.1 ((hI.before (hpaid.symm.trans hb)).1 tid)
  · -- the condition allows no failure here
    cases i with
    | ok => exact absurd (hi rfl) (by rw [hbody]; simp)
    | refused | lost =>
      have hbooked := hcond.noFault (by simp) hy.1
      exact absurd ⟨hy.2.1.symm.trans hbooked.1, hy.2.2.symm.trans hbooked.2⟩ hunbooked

/-- The write that marks the payment paid: the row has not been paid, so that nothing has been booked
and no call has marked it. -/
theorem safe_writePaid (hx : SettledIf P tid known x) :
    (bookingProtocol P).Safe op tid
      (fun r z => match r with
        | .ok _ => BookedSoFar P tid 0 0 z
        | .error _ => Settled P tid z)
      (writePayment P .paymentPending fun _ p => { p with status := .paid }) x := by
  refine Protocol.Safe.perform stable_settledIf hx fun y hy hI => ?_
  refine keeps_transact (fun b d hb hcond => ?_) fun i e _ _ => keeps_error hI hy.1
  obtain ⟨row, hrow, rfl, rfl⟩ := Service.atomic_update hb
  intro z
  -- the write found the payment pending, so nobody has marked it before
  obtain ⟨hnone, hgroups, hevents⟩ := hI.before (hcond.notStale _ _ List.mem_cons_self rfl)
  have hmarked : ∀ t, MarkedPaid P t z ↔ t = tid := fun t => by
    rw [markedPaid_next]
    constructor
    · rintro (h | ⟨h, -⟩)
      · exact absurd h (hnone t)
      · exact h
    · rintro rfl
      exact Or.inr ⟨rfl, .paymentPending, List.mem_cons_self⟩
  have hpaid : z.state.db.paidOrLater P = true := by
    change y.state.db.payments.get? P = some row at hrow
    change Option.any _ ((y.state.db.payments.modify _ _).get? _) = _
    rw [Table.get?_modify_self, hrow]
    rfl
  refine ⟨⟨fun t ht => ?_, fun _ => ⟨rfl, rfl⟩, fun _ => hpaid⟩, ?_, (hmarked tid).mpr rfl,
    hgroups, hevents⟩
  · exact iff_of_false (fun h => ht ((hmarked t).mp h)) (hnone t)
  · refine ⟨fun h => ?_, fun _ => Or.inl ⟨tid, (hmarked tid).mpr rfl⟩, fun t t' h h' => ?_⟩
    · rw [hpaid] at h
      cases h
    · rw [(hmarked t).mp h, (hmarked t').mp h']

theorem safe_recordPaymentReceived {subject : LedgerSubject} (hsubject : subject.paymentId = P)
    (total fare fee : ℤ) (hx : BookedSoFar P tid 0 0 x) :
    (bookingProtocol P).Safe op tid (fun r z => r = .ok () ∧ BookedSoFar P tid 1 0 z)
      (recordPaymentReceived subject total fare fee) x := by
  refine Protocol.Safe.perform stable_bookedSoFar hx fun y hy hI => ?_
  refine hy.keeps hI (by decide) rfl rfl ?_ hy.2.2
  have hnone : (y.state.db.ledger.countP fun e =>
      e.paymentId == P && e.entryType == .riderPaymentReceived) = 0 := hy.2.1
  change List.countP _ (_ ++ _) = 1
  rw [List.countP_append, hnone]
  by_cases hfee : 0 < fee <;> simp [paymentReceivedEntries, hfee, hsubject]

theorem safe_writePaidEvent (hx : BookedSoFar P tid 1 0 x) :
    (bookingProtocol P).Safe op tid (fun r z => r = .ok () ∧ BookedSoFar P tid 1 1 z)
      (writeOutboxEvent .paymentPaid (some P)) x := by
  refine Protocol.Safe.perform stable_bookedSoFar hx fun y hy hI => ?_
  refine hy.keeps hI (by decide) rfl rfl hy.2.1 ?_
  have hnone : (y.state.db.outbox.rows.countP fun r =>
      r.2.eventType == .paymentPaid && r.2.paymentId == some P) = 0 := hy.2.2
  have hfresh : y.state.db.outbox.get? y.state.db.freshId = none :=
    Table.get?_of_nextKey_le (Db.le_freshId (by simp [Db.idBounds]))
  change List.countP _ (y.state.db.outbox.insert _ _).rows = 1
  rw [Table.insert_rows hfresh, List.countP_append, hnone]
  simp

theorem leaves_writePayment_ne {paymentId : ℕ} (hP : paymentId ≠ P) (read : PaymentStatus)
    (f : Ctx → Payment → Payment) :
    (writePayment paymentId read f).Leaves (bookingFrame P) := by
  refine (Program.issues_perform _).mpr ⟨fun ctx => (Program.issues_perform _).mpr ?_, ?_⟩
  · intro seen d
    refine bookingView_payments ?_
    change Option.any _ ((d.payments.modify _ _).get? _) = _
    rw [Table.get?_modify_ne _ _ (Ne.symm hP), Db.paidOrLater]
  · intro payment e he read' heq
    rw [List.mem_singleton.mp he] at heq
    injection heq with hid
    exact hP hid

theorem leaves_recordPaymentReceived_ne {subject : LedgerSubject} (hP : subject.paymentId ≠ P)
    (total fare fee : ℤ) :
    (recordPaymentReceived subject total fare fee).Leaves (bookingFrame P) := by
  refine leaves_transaction fun ctx => (Program.issues_command _).mpr fun seen d => ?_
  refine bookingView_ledger fun e he => ?_
  have hid : e.paymentId = subject.paymentId := by
    by_cases hfee : 0 < fee <;> simp [paymentReceivedEntries, hfee] at he <;> grind
  simp [hid, hP]

theorem leaves_writeOutboxEvent_ne {paymentId : ℕ} (hP : paymentId ≠ P)
    (eventType : OutboxEventType) :
    (writeOutboxEvent eventType (some paymentId)).Leaves (bookingFrame P) := by
  refine leaves_transaction fun ctx => (Program.issues_command _).mpr fun seen d => ?_
  have hevents : (d.outbox.insert ctx.uuid { eventType, paymentId := some paymentId }).rows.countP
      (fun r => r.2.eventType == .paymentPaid && r.2.paymentId == some P) = d.paidEvents P := by
    rw [Db.paidEvents]
    cases hid : d.outbox.get? ctx.uuid with
    | some row => rw [Table.insert_of_some hid]
    | none => simp [Table.insert_rows hid, List.countP_append, hP]
  exact Prod.ext rfl (Prod.ext rfl hevents)

/-- Marking another payment paid. -/
theorem leaves_markPaymentPaid_ne {paymentId : ℕ} (hP : paymentId ≠ P) (driverId : ℕ) :
    (markPaymentPaid paymentId driverId).Leaves (bookingFrame P) := by
  refine (leaves_sqlOrThrow (leaves_findUniqueOrThrow _)).bind fun payment => ?_
  refine (leaves_assertTransition _ _).bind fun _ => ?_
  refine (leaves_writePayment_ne hP _ _).bind fun updated => ?_
  refine (leaves_recordPaymentReceived_ne (by exact hP) _ _ _).bind fun _ => ?_
  exact (leaves_writeOutboxEvent_ne hP _).bind fun _ => trivial

theorem safe_markPaymentPaid (paymentId driverId : ℕ) (hx : SettledIf P tid known x) :
    (bookingProtocol P).Safe op tid (fun _ => Settled P tid) (markPaymentPaid paymentId driverId)
      x := by
  by_cases hP : paymentId = P
  · subst hP
    refine Protocol.Safe.bind ?_
    refine (safe_leaves (leaves_sqlOrThrow (leaves_findUniqueOrThrow _)) hx).mono fun r y hy => ?_
    cases r with
    | error e => exact hy.1
    | ok payment =>
      refine Protocol.Safe.bind (safe_assertTransition (fun _ => hy.1) fun ht => ?_)
      refine Protocol.Safe.bind ?_
      rw [mem_transitions_paid ht]
      refine (safe_writePaid hy).mono fun r z hz => ?_
      cases r with
      | error e => exact hz
      | ok updated =>
        have hsubject : (payment.subject paymentId driverId).paymentId = paymentId := rfl
        refine Protocol.Safe.bind ((safe_recordPaymentReceived hsubject _ _ _ hz).mono ?_)
        rintro r z ⟨rfl, hz⟩
        refine Protocol.Safe.bind ((safe_writePaidEvent hz).mono ?_)
        rintro r z ⟨rfl, hz⟩
        exact fun _ => hz.2
  · exact (safe_leaves (leaves_markPaymentPaid_ne hP driverId) hx).mono fun r y hy => hy.1

theorem safe_markPaymentPending (paymentId : ℕ) (hx : SettledIf P tid False x) :
    (bookingProtocol P).Safe op tid (fun _ => SettledIf P tid False)
      (markPaymentPending paymentId) x := by
  refine safe_leaves_bind (leaves_sqlOrThrow (leaves_findUniqueOrThrow _)) (fun payment y hy => ?_)
    hx
  refine Protocol.Safe.bind (safe_assertTransition (fun _ => hy) fun ht => ?_)
  refine safe_writePayment (fun _ => ?_) hy
  -- only a payment that was read as created may become pending
  have hread : payment.status.beforePaid = true := by
    cases hs : payment.status <;> simp_all [PaymentStatus.transitions, PaymentStatus.beforePaid]
  exact ⟨fun _ _ => ⟨by simp, hread.symm⟩, fun h => absurd (hread.symm.trans h) (by simp)⟩

theorem safe_markBookingPaymentPaid (bookingId driverId : ℕ) (hx : SettledIf P tid False x) :
    (bookingProtocol P).Safe op tid (fun _ => SettledIf P tid False)
      (markBookingPaymentPaid bookingId driverId) x := by
  refine safe_leaves_bind (leaves_sql (leaves_findFirst _)) (fun found y hy => ?_) hx
  cases found with
  | none => exact hy
  | some found =>
    obtain ⟨paymentId, payment⟩ := found
    have hpaid : ∀ z, SettledIf P tid False z → (bookingProtocol P).Safe op tid
        (fun _ => SettledIf P tid False)
        ((markPaymentPaid paymentId driverId).bind fun updated => .ret (some updated)) z := by
      intro z hz
      refine Protocol.Safe.sequence ?_ fun updated z' hz' => hz'
      exact (safe_markPaymentPaid paymentId driverId hz).mono fun r z' hz' => ⟨hz', False.elim⟩
    dsimp only
    split
    · exact (safe_markPaymentPending paymentId hy).sequence fun _ z hz => hpaid z hz
    · exact hpaid y hy
    · exact hy

/-! ### Refunds -/

theorem mem_transitions_refundPending {s : PaymentStatus} (h : .refundPending ∈ s.transitions) :
    s.beforePaid = false := by
  cases s <;> simp_all [PaymentStatus.transitions, PaymentStatus.beforePaid]

theorem leaves_recordRefund (subject : LedgerSubject) (amount : ℤ) (split : RefundSplit) :
    (recordRefund subject amount split).Leaves (bookingFrame P) := by
  refine leaves_transaction fun ctx => (Program.issues_command _).mpr fun seen d => ?_
  refine bookingView_ledger fun e he => ?_
  have htype : e.entryType ≠ .riderPaymentReceived := by
    by_cases hfee : 0 < split.feeRefundAmount <;> simp [refundEntries, hfee] at he <;> grind
  simp [htype]

theorem safe_recordRefunded {paymentId : ℕ} (driverId : ℕ) (payment : Payment) (amount : ℤ)
    (hx : SettledIf P tid (paymentId = P) x) :
    (bookingProtocol P).Safe op tid (fun _ => SettledIf P tid (paymentId = P))
      (recordRefunded paymentId driverId payment amount) x := by
  refine Protocol.Safe.bind (safe_assertTransition (fun _ => hx) fun ht => ?_)
  refine (safe_writePayment (fun hP => ⟨fun _ _ => ?_, fun _ => hP⟩) hx).sequence fun _ y hy => ?_
  · change payment.statusAfterRefund _ ≠ _ ∧ (payment.statusAfterRefund _).beforePaid = _
    unfold Payment.statusAfterRefund
    dsimp only
    split_ifs <;> simp [PaymentStatus.beforePaid]
  · exact safe_leaves_bind (leaves_recordRefund _ _ _) (fun _ _ hz => hz) hy

theorem safe_markRefunded (paymentId driverId : ℕ) (amount : Option ℤ)
    (hx : SettledIf P tid False x) :
    (bookingProtocol P).Safe op tid (fun _ => SettledIf P tid False)
      (markRefunded paymentId driverId amount) x := by
  refine Protocol.Safe.bind ?_
  -- the row that is read says whether the payment has been paid
  have hread : (bookingProtocol P).Safe op tid
      (fun r y => SettledIf P tid False y ∧ ∀ payment, r = .ok payment →
        payment.status.beforePaid = false → paymentId = P → y.state.db.paidOrLater P = true)
      (sqlOrThrow (findUniqueOrThrow payments paymentId)) x := by
    refine Protocol.Safe.perform stable_settledIf hx fun y hy hI => ?_
    refine keeps_transact (fun b d hb _ => ?_) fun i e _ _ => ?_
    · obtain ⟨hrow, rfl⟩ := Service.atomic_findUniqueOrThrow hb
      have hsame : SameBooking P y (y.next tid [] y.state) := by
        rw [next_nil]
        exact ⟨rfl, fun _ => Iff.rfl⟩
      refine ⟨hsame.guar, hsame.inv hI, hsame.settledIf hy, ?_⟩
      rintro _ ⟨rfl⟩ hpaid rfl
      change y.state.db.payments.get? paymentId = some b at hrow
      rw [hsame.paid, Db.paidOrLater, hrow, Option.any_some, hpaid]
      rfl
    · have hsame : SameBooking P y y := ⟨rfl, fun _ => Iff.rfl⟩
      exact ⟨hsame.guar, hI, hy, fun _ h => by cases h⟩
  refine hread.mono ?_
  rintro (e | payment) y ⟨hy, hpaid⟩
  · exact hy
  · have hknown : payment.status.beforePaid = false → SettledIf P tid (paymentId = P) y :=
      fun h => ⟨hy.1, hpaid payment rfl h⟩
    dsimp only
    split_ifs with hrefunded hpending
    · exact hy
    · refine (safe_recordRefunded driverId payment _ (hknown ?_)).mono fun r z hz =>
        ⟨hz.1, False.elim⟩
      rw [hpending]
      rfl
    · refine Protocol.Safe.bind (safe_assertTransition (fun _ => hy) fun ht => ?_)
      have hbefore := mem_transitions_refundPending ht
      have hwrite : (bookingProtocol P).Safe op tid (fun _ => SettledIf P tid (paymentId = P))
          (writePayment paymentId payment.status fun _ p => { p with status := .refundPending })
          y :=
        safe_writePayment (fun hP => ⟨fun _ _ => ⟨by simp, hbefore.symm⟩, fun _ => hP⟩)
          (hknown hbefore)
      have hrefund := hwrite.sequence fun _ z hz =>
        safe_recordRefunded driverId payment (amount.getD payment.amountTotal) hz
      exact hrefund.mono fun r z hz => ⟨hz.1, False.elim⟩

theorem safe_markBookingPaymentRefunded (bookingId driverId : ℕ) (amount : Option ℤ)
    (hx : SettledIf P tid False x) :
    (bookingProtocol P).Safe op tid (fun _ => SettledIf P tid False)
      (markBookingPaymentRefunded bookingId driverId amount) x := by
  refine safe_leaves_bind (leaves_sql (leaves_findFirst _)) (fun found y hy => ?_) hx
  cases found with
  | none => exact hy
  | some found =>
    exact (safe_markRefunded _ driverId amount hy).sequence fun _ z hz => hz

/-! ### Applying a payment -/

theorem safe_bestEffort {p : Service Unit}
    (hp : (bookingProtocol P).Safe op tid (fun _ => SettledIf P tid known) p x) :
    (bookingProtocol P).Safe op tid (fun _ => SettledIf P tid known) (bestEffort p) x :=
  hp.guarded fun _ _ hy => hy

theorem bookingView_ledgerApart_providerFee (subject : LedgerSubject) (fee : ℤ)
    (currency : String) :
    (recordProviderFeeExpense subject fee currency).Leaves (bookingFrame P) := by
  unfold recordProviderFeeExpense
  split_ifs with hfee
  · refine leaves_transaction fun ctx => (Program.issues_command _).mpr fun seen d => ?_
    refine bookingView_ledger fun e he => ?_
    simp only [providerFeeExpenseEntries, if_pos hfee, List.mem_cons, List.not_mem_nil,
      or_false] at he
    rcases he with rfl | rfl <;> simp
  · trivial

theorem leaves_recordProviderFee (paymentIntent bookingId : ℕ) :
    (recordProviderFeeForIntent paymentIntent bookingId).Leaves (bookingFrame P) := by
  refine leaves_bestEffort ((leaves_sql (leaves_findFirst _)).bind fun found => ?_)
  cases found with
  | none => trivial
  | some found =>
    refine (leaves_retrievePaymentIntent _).bind fun charged => ?_
    split
    · trivial
    · exact bookingView_ledgerApart_providerFee _ _ _

theorem leaves_issue (issue : ReconciliationIssue) :
    (createIssue issue).Leaves (bookingFrame P) := leaves_createIssue (fun _ _ => rfl) _

theorem safe_refundRideFullPayment (bookingId paymentIntent : ℕ) (hx : SettledIf P tid False x) :
    (bookingProtocol P).Safe op tid (fun _ => SettledIf P tid False)
      (refundRideFullPayment bookingId paymentIntent) x := by
  refine safe_leaves_bind (leaves_transaction fun ctx => (Program.issues_command _).mpr
    (bookingView_apart_bookings.updateMany _ _)) (fun claimed y hy => ?_) hx
  split_ifs with hnone
  · exact hy
  · refine safe_leaves_bind (leaves_sql (leaves_findBookingWithRide _)) (fun found y hy => ?_) hy
    cases found with
    | none => exact hy
    | some found =>
      obtain ⟨booking, ride⟩ := found
      refine safe_leaves_bind ?_ (fun _ y hy => ?_) hy
      · refine Program.Issues.tryCatch ?_ fun _ => leaves_bestEffort (leaves_issue _)
        refine (leaves_refundPaymentIntent (fun _ _ => rfl) _ _).bind fun _ => ?_
        refine (leaves_transaction fun ctx => ?_).bind fun _ => trivial
        exact (Program.issues_perform _).mpr (bookingView_apart_bookings.update _ _)
      · refine Protocol.Safe.sequence (safe_bestEffort ?_) fun _ z hz =>
          safe_leaves (leaves_bestEffort leaves_notify) hz
        refine (safe_markBookingPaymentPaid bookingId ride.driverId hy).sequence fun _ z hz => ?_
        exact (safe_markBookingPaymentRefunded bookingId ride.driverId _ hz).sequence
          fun _ z' hz' => hz'

theorem safe_syncAcceptedOffer (bookingId : ℕ) (hx : SettledIf P tid False x) :
    (bookingProtocol P).Safe op tid (fun _ => SettledIf P tid False)
      (syncAcceptedOffer bookingId) x := by
  refine safe_leaves_bind (leaves_sql (leaves_findFirst _)) (fun accepted y hy => ?_) hx
  cases accepted with
  | none => exact hy
  | some found =>
    dsimp only
    split_ifs with haccepted
    · exact (safe_markBookingPaymentPaid _ _ hy).sequence fun _ z hz => hz
    · exact hy

theorem safe_syncClaimedPayment (bookingId driverId : ℕ) (hx : SettledIf P tid False x) :
    (bookingProtocol P).Safe op tid (fun _ => SettledIf P tid False)
      (syncClaimedPayment bookingId driverId) x := by
  refine Protocol.Safe.guarded ?_ fun _ y hy => safe_leaves (leaves_bestEffort (leaves_issue _)) hy
  exact (safe_markBookingPaymentPaid bookingId driverId hx).sequence fun _ y hy => hy

theorem safe_completeClaim (bookingId paymentIntent now : ℕ) (hx : SettledIf P tid False x) :
    (bookingProtocol P).Safe op tid (fun _ => SettledIf P tid False)
      (completeClaim bookingId paymentIntent now) x := by
  refine safe_leaves_bind (leaves_sql (leaves_findBookingWithRide _)) (fun found y hy => ?_) hx
  cases found with
  | none => exact hy
  | some found =>
    obtain ⟨booking, ride⟩ := found
    dsimp only
    split_ifs with hconfirmed
    · refine (safe_markBookingPaymentPaid bookingId ride.driverId hy).sequence fun _ z hz => ?_
      exact safe_leaves ((leaves_bestEffort leaves_notify).bind fun _ =>
        leaves_bestEffort leaves_notify) hz
    · refine safe_leaves_bind (leaves_sqlOrThrow (bookingView_apart_bookings.update _ _))
        (fun _ y hy => ?_) hy
      refine safe_leaves_bind (leaves_recordProviderFee _ _) (fun _ y hy => ?_) hy
      refine (safe_syncClaimedPayment bookingId ride.driverId hy).sequence fun _ z hz => ?_
      exact safe_leaves (leaves_bestEffort (leaves_notify.bind fun _ => leaves_notify)) hz

theorem safe_applyStripePaymentSucceededToBooking (settings : Settings) (paymentIntent : ℕ)
    (intent : Intent) (hx : SettledIf P tid False x) :
    (bookingProtocol P).Safe op tid (fun _ => SettledIf P tid False)
      (applyStripePaymentSucceededToBooking settings paymentIntent intent) x := by
  unfold applyStripePaymentSucceededToBooking
  split
  · exact hx
  · refine safe_leaves_bind ((Program.issues_command _).mpr trivial) (fun now y hy => ?_) hx
    have hclaim : ∀ bookingId, (claimPayment settings bookingId paymentIntent intent now).Leaves
        (bookingFrame P) := by
      intro bookingId
      refine leaves_claimPayment (fun ctx => ?_) ?_
      · exact leaves_claimCapturedBooking bookingView_apart_bookings bookingView_apart_rides
          bookingView_apart_offers bookingView_apart_requests bookingView_requestPayment
          bookingView_apart_segments _ _ _ _ _ _
      · intro read heq
        cases heq
    refine safe_leaves_bind (hclaim _) (fun outcome y hy => ?_) hy
    cases outcome with
    | alreadyApplied => exact (safe_syncAcceptedOffer _ hy).sequence fun _ z hz => hz
    | rideFull => exact (safe_refundRideFullPayment _ _ hy).sequence fun _ z hz => hz
    | claimed => exact (safe_completeClaim _ _ _ hy).sequence fun _ z hz => hz

/-! ### Reconciliation -/

/-- Under the condition, a repair is one of another payment. -/
theorem safe_repair {recent : ℕ → Bool} {paymentId : ℕ} {read : PaymentStatus}
    {f : Ctx → Payment → Payment} (hx : SettledIf P tid False x) :
    (bookingProtocol P).Safe (.reconcile recent) tid (fun _ => SettledIf P tid False)
      (writePayment paymentId read f) x := by
  by_cases hP : paymentId = P
  · subst hP
    refine Protocol.Safe.perform stable_settledIf hx fun y hy hI => ?_
    refine keeps_transact (fun b d _ hcond => ?_) fun i e _ _ => keeps_error hI hy
    exact absurd rfl (hcond.noRepair _ _ List.mem_cons_self recent)
  · exact safe_leaves (leaves_writePayment_ne hP read f) hx

theorem safe_reconcilePayment {recent : ℕ → Bool} (paymentId : ℕ) (payment : Payment)
    (hx : SettledIf P tid False x) :
    (bookingProtocol P).Safe (.reconcile recent) tid (fun _ => SettledIf P tid False)
      (reconcilePayment paymentId payment) x := by
  unfold reconcilePayment
  split
  · exact hx
  · refine safe_leaves_bind (leaves_retrievePaymentIntent _) (fun intent y hy => ?_) hx
    split_ifs with hexpected
    · exact hy
    · split
      · refine (safe_repair hy).sequence fun _ z hz => ?_
        exact safe_leaves_bind (leaves_issue _) (fun _ _ hz' => hz') hz
      · exact safe_leaves_bind (leaves_issue _) (fun _ _ hz' => hz') hy

theorem safe_reconcilePayments {recent : ℕ → Bool} (selected : List (ℕ × Payment))
    (hx : SettledIf P tid False x) :
    (bookingProtocol P).Safe (.reconcile recent) tid (fun _ => SettledIf P tid False)
      (reconcilePayments selected) x := by
  induction selected generalizing x with
  | nil => exact hx
  | cons payment rest ih =>
    refine Protocol.Safe.sequence ?_ fun result y hy => ?_
    · exact (safe_reconcilePayment payment.1 payment.2 hx).guarded fun _ _ hy => hy
    · exact (ih hy).sequence fun _ z hz => hz

end Safe

/-! ## Whole runs -/

theorem safeOperations (P : ℕ) : (bookingProtocol P).SafeOperations := by
  intro op tid x _ hnew
  have hx : SettledIf P tid False x := by
    refine ⟨?_, False.elim⟩
    rintro ⟨read, hmem⟩
    exact absurd rfl (hnew _ hmem)
  have hpost : ∀ (r : Except Err Unit) y, SettledIf P tid False y → Settled P tid y :=
    fun r y hy => hy.1
  cases op with
  | succeeded settings paymentIntent intent =>
    refine Protocol.Safe.mono (Protocol.Safe.sequence ?_ fun _ y hy => hy) hpost
    exact safe_applyStripePaymentSucceededToBooking settings paymentIntent intent hx
  | markPaid bookingId driverId =>
    refine Protocol.Safe.mono (Protocol.Safe.sequence ?_ fun _ y hy => hy) hpost
    exact safe_markBookingPaymentPaid bookingId driverId hx
  | refundRideFull bookingId paymentIntent =>
    exact (safe_refundRideFullPayment bookingId paymentIntent hx).mono hpost
  | reconcile recent =>
    refine Protocol.Safe.mono (Protocol.Safe.sequence ?_ fun _ y hy => hy) hpost
    refine safe_leaves_bind (leaves_sql (leaves_findMany _)) (fun selected y hy => ?_) hx
    exact safe_reconcilePayments selected hy

/-- The pool before any call has been started. -/
def paidStart (w : World) : Pool Call Err Event World PaidOp := { now := { state := w } }

/-- Where no call is in progress, a paid payment is booked once. -/
def PaidIsBooked (P : ℕ) (p : Pool Call Err Event World PaidOp) : Prop :=
  p.Idle → p.now.state.db.paidOrLater P = true → p.now.state.db.BookedOnce P

theorem holds_start {P : ℕ} {w : World} (hstart : w.db.BookedAsPaid P) :
    (bookingProtocol P).Holds (paidStart w) := by
  have hnone : ∀ tid, ¬ MarkedPaid P tid (paidStart w).now := by
    rintro tid ⟨read, hmem⟩
    exact absurd hmem List.not_mem_nil
  refine Protocol.holds_of_inv ⟨fun hb => ?_, fun ha => ?_, fun tid _ h => ?_⟩ rfl rfl
  · change w.db.paidOrLater P = false at hb
    rw [Db.BookedAsPaid, hb, if_neg (by simp)] at hstart
    exact ⟨hnone, hstart⟩
  · change w.db.paidOrLater P = true at ha
    rw [Db.BookedAsPaid, ha, if_pos rfl] at hstart
    exact Or.inr hstart
  · exact absurd h (hnone tid)

theorem holds_paidIsBooked {P : ℕ} {p : Pool Call Err Event World PaidOp}
    (h : (bookingProtocol P).Holds p) : PaidIsBooked P p := by
  intro hidle hpaid
  rcases h.inv.after hpaid with ⟨tid, read, hmem⟩ | hbooked
  · -- the call that marked it has ended, and has ended owing nothing
    have hlt : tid < p.threads.length := h.logLt _ hmem
    have ht : p.threads[tid]? = some p.threads[tid] := List.getElem?_eq_getElem hlt
    exact h.post ht (hidle _ (List.getElem_mem hlt)) ⟨read, hmem⟩
  · exact hbooked

/-- **Every payment that reaches `PAID` is booked exactly once** along every interleaving in which
reconciliation repairs no status, no call writes the payment on the strength of an unpaid row that
another has paid meanwhile, and no call fails between marking it paid and booking it. -/
theorem paid_is_booked_once (P : ℕ) (w : World) (hstart : w.db.BookedAsPaid P)
    (moves : List (Move PaidOp Reply World))
    (hmoves : History.Each (Pool.step paidPool) (Pool.Meets paidPool (PaidStep P) fun _ _ => True)
      (paidStart w) moves) :
    History.Always (Pool.step paidPool) (PaidIsBooked P) (paidStart w) moves :=
  (Protocol.sound (safeOperations P) (holds_start hstart) hmoves).imp
    fun _ h => holds_paidIsBooked h

/-! ## Runs -/

section Runs

private def pendingPayment : Payment where
  toPaymentSplit := samplePayment.toPaymentSplit
  bookingId := 7
  rideId := 1
  riderId := 2
  stripePaymentIntentId := some 5
  status := .paymentPending

/-- A payment that Stripe says has succeeded. -/
private def capturedBooking : World where
  db := { payments := .single 3 pendingPayment }
  stripe := { intents := .single 5 { bookingId := some 7, amount := 1020, status := .succeeded } }

private theorem pendingWorld_bookedAsPaid : capturedBooking.db.BookedAsPaid 3 := ⟨rfl, rfl⟩

/-- One call, every step of which succeeds. -/
private def oneCall : List (Move PaidOp Reply World) :=
  .start (.markPaid 7 9) :: .replicate 5 (.step 0 .ok)

theorem one_call_books_once :
    History.Always (Pool.step paidPool) (PaidIsBooked 3) (paidStart capturedBooking) oneCall ∧
      (History.after (Pool.step paidPool) (paidStart capturedBooking) oneCall).now.state.db.BookedOnce
        3 := by
  refine ⟨paid_is_booked_once 3 capturedBooking pendingWorld_bookedAsPaid oneCall ?_, rfl, rfl⟩
  refine ⟨trivial, ?_, ?_, ?_, ?_, ?_, trivial⟩
  · rintro op rest ⟨⟩ b es s ⟨⟩
    exact ⟨by simp, by simp, by simp⟩
  · rintro op rest ⟨⟩ b es s ⟨⟩
    exact ⟨by simp, by simp, by simp⟩
  · rintro op rest ⟨⟩ b es s ⟨⟩
    exact ⟨by simp, fun _ _ _ _ => rfl, by simp⟩
  · rintro op rest ⟨⟩ b es s ⟨⟩
    exact ⟨by simp, by simp, by simp⟩
  · rintro op rest ⟨⟩ b es s ⟨⟩
    exact ⟨by simp, by simp, by simp⟩

/-- The hourly reconciliation, alone. -/
private def repairRun : List (Move PaidOp Reply World) :=
  .start (.reconcile fun _ => true) :: .replicate 4 (.step 0 .ok)

/-- Two calls that have both read the payment before either has written it. -/
private def twoCalls : List (Move PaidOp Reply World) :=
  [.start (.markPaid 7 9), .start (.markPaid 7 9), .step 0 .ok, .step 0 .ok, .step 1 .ok,
    .step 1 .ok, .step 0 .ok, .step 1 .ok, .step 0 .ok, .step 0 .ok, .step 1 .ok, .step 1 .ok]

set_option maxRecDepth 1000 in
/-- A repair leaves a paid payment without a group and without an event, and two calls past the same
read leave it with two of each. -/
theorem paid_payments_not_booked_once :
    let repaired := History.after (Pool.step paidPool) (paidStart capturedBooking) repairRun
    let doubled := History.after (Pool.step paidPool) (paidStart capturedBooking) twoCalls
    capturedBooking.db.BookedAsPaid 3 ∧
      (¬ PaidIsBooked 3 repaired ∧
        bookingView 3 repaired.now.state.db = (true, 0, 0)) ∧
      ¬ PaidIsBooked 3 doubled ∧ bookingView 3 doubled.now.state.db = (true, 2, 2) := by
  refine ⟨pendingWorld_bookedAsPaid, ⟨fun h => ?_, rfl⟩, fun h => ?_, rfl⟩
  · have hidle : Pool.Idle (History.after (Pool.step paidPool) (paidStart capturedBooking)
        repairRun) := by
      intro t ht
      obtain rfl := List.mem_singleton.mp ht
      trivial
    exact absurd (h hidle rfl).1 (by decide)
  · have hidle : Pool.Idle (History.after (Pool.step paidPool) (paidStart capturedBooking)
        twoCalls) := by
      intro t ht
      rcases List.mem_pair.mp ht with rfl | rfl
      · trivial
      · trivial
    exact absurd (h hidle rfl).1 (by decide)

end Runs

end Deliivo

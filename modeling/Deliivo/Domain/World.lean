import Deliivo.Domain.Records
import Deliivo.Program.Sequential
import Deliivo.Store.Table

/-!
# The world the services run in

The world is the database, the accounts kept by Stripe and the clock. A service is a program whose
commands are database transactions and calls to Stripe. A transaction is itself a program, over
single SQL statements, so that the same text can be run as one atomic step (here) or statement by
statement next to other sessions.

A statement answers from the state it sees and leaves a write behind: a function that is applied to
the state it saw when the transaction runs alone, and to the committed state when it commits next
to others. `locks` lists the rows it writes or selects for update.

## Main definitions

* `Stmt`, `Tx`, `Tx.atomic`: statements, transactions, and a transaction as one step
* `Call`, `Service`: what a service does in one step, and services
* `world`: the machine that runs services, with one `Reply` of the environment for every step
-/

namespace Deliivo

/-! ## The state -/

structure Db where
  rides : Table Ride := .empty
  segments : Table Segment := .empty
  bookings : Table Booking := .empty
  requests : Table RideRequest := .empty
  offers : Table RideRequestOffer := .empty
  payments : Table Payment := .empty
  ledger : List LedgerEntry := []
  outbox : Table OutboxEvent := .empty
  payoutBatches : Table PayoutBatch := .empty
  users : Table User := .empty
  disputes : Table Dispute := .empty
  webhookEvents : List WebhookEvent := []
  issues : List ReconciliationIssue := []
  rideEvents : List RideEvent := []
  dlVerifications : Table DlVerification := .empty
  vehicles : Table Vehicle := .empty
  vehicleDocuments : Table VehicleDocument := .empty
  refreshTokens : Table RefreshToken := .empty
  paymentMethods : Table PaymentMethod := .empty
  pricingConfigs : Table PricingConfig := .empty

/-- `Stripe.PaymentIntent.Status`. -/
inductive IntentStatus
  | requiresPaymentMethod
  | requiresConfirmation
  | requiresAction
  | processing
  | requiresCapture
  | succeeded
  | canceled
  deriving DecidableEq, Repr

/-- A PaymentIntent at Stripe, with the booking its metadata names and what Stripe charged for
processing it, where its charge has a balance transaction by now. -/
structure Intent where
  bookingId : Option ℕ
  amount : ℤ
  amountReceived : ℤ := 0
  currency : String := "EUR"
  status : IntentStatus := .requiresPaymentMethod
  providerFee : Option (ℤ × String) := none
  deriving DecidableEq, Repr

/-- A refund at Stripe; one that Stripe has accepted may fail later, and then the money stays. -/
structure StripeRefund where
  paymentIntent : ℕ
  amount : ℤ
  failed : Bool := false
  deriving DecidableEq, Repr

/-- A transfer to a connected account; its metadata names the payout batch. -/
structure Transfer where
  amount : ℤ
  destination : ℕ
  payoutBatchId : ℕ
  driverId : ℕ
  deriving DecidableEq, Repr

structure Stripe where
  intents : Table Intent := .empty
  refunds : Table StripeRefund := .empty
  transfers : Table Transfer := .empty

structure World where
  db : Db := {}
  stripe : Stripe := {}
  now : ℕ := 0
  /-- A bound above the ids that services have drawn ahead of writing their rows. -/
  drawn : ℕ := 0

/-- Bounds above the ids in use. -/
def Db.idBounds (d : Db) : List ℕ :=
  [d.rides.nextKey, d.segments.nextKey, d.bookings.nextKey, d.requests.nextKey, d.offers.nextKey,
    d.payments.nextKey, d.outbox.nextKey, d.payoutBatches.nextKey, d.users.nextKey,
    d.disputes.nextKey, d.dlVerifications.nextKey, d.vehicles.nextKey, d.vehicleDocuments.nextKey,
    d.refreshTokens.nextKey, d.paymentMethods.nextKey, d.pricingConfigs.nextKey,
    (d.ledger.map fun e => e.entryGroupId + 1).foldr max 0]

/-- An id that no row has: what the generator of UUIDs comes up with. -/
def Db.freshId (d : Db) : ℕ := d.idBounds.foldr max 0

theorem Db.le_freshId {d : Db} {k : ℕ} (h : k ∈ d.idBounds) : k ≤ d.freshId := by
  unfold freshId
  generalize d.idBounds = ks at h ⊢
  induction ks with
  | nil => simp at h
  | cons k' ks ih =>
    rw [List.foldr_cons, le_max_iff]
    rcases List.mem_cons.mp h with rfl | h
    · exact Or.inl le_rfl
    · exact Or.inr (ih h)

/-! ## Statements and transactions -/

/-- The rows that a statement can lock. -/
inductive Row
  | ride (id : ℕ)
  | segment (id : ℕ)
  | booking (id : ℕ)
  | request (id : ℕ)
  | offer (id : ℕ)
  | payment (id : ℕ)
  | user (id : ℕ)
  | other
  deriving DecidableEq, Repr

/-- One SQL statement. -/
structure Stmt (β : Type) where
  locks : Db → List Row := fun _ => []
  answer : Db → β
  write : Db → Db → Db := fun _ d => d

/-- The body of a transaction. -/
abbrev Tx := Program Stmt Err

/-- A transaction as one step: all of its writes if it returns, none if it throws. -/
def Tx.atomic {α : Type} : Tx α → Db → Except Err (α × Db)
  | .ret a, d => .ok (a, d)
  | .throw e, _ => .error e
  | .step c k, d => Tx.atomic (k (c.answer d)) (c.write d d)

/-- Where the database keeps the rows of one table, and how its rows are locked. -/
structure TableRef (ρ : Type) where
  get : Db → Table ρ
  set : Db → Table ρ → Db
  row : ℕ → Row

section Statements

variable {ρ β : Type} (T : TableRef ρ)

/-- `findUnique`, by primary key. -/
def findUnique (id : ℕ) : Stmt (Option ρ) where
  answer d := (T.get d).get? id

/-- `findUniqueOrThrow`. -/
def findUniqueOrThrow (id : ℕ) : Stmt (Except Err ρ) where
  answer d := ((T.get d).get? id).elim (.error .notFound) .ok

/-- `findMany`. -/
def findMany (P : ℕ → ρ → Bool) : Stmt (List (ℕ × ρ)) where
  answer d := (T.get d).filter P

/-- `findFirst`. -/
def findFirst (P : ℕ → ρ → Bool) : Stmt (Option (ℕ × ρ)) where
  answer d := ((T.get d).filter P).head?

/-- `update`: change one row, or throw if it is not there. -/
def update (id : ℕ) (f : ρ → ρ) : Stmt (Except Err ρ) where
  locks _ := [T.row id]
  answer d := ((T.get d).get? id).elim (.error .notFound) fun r => .ok (f r)
  write _ d := T.set d ((T.get d).modify id f)

/-- `updateMany`: change the rows that satisfy `P`. The answer names them; what the source uses of
it is their number. -/
def updateMany (P : ℕ → ρ → Bool) (f : ρ → ρ) : Stmt (List ℕ) where
  locks d := ((T.get d).filter P).map fun r => T.row r.1
  answer d := ((T.get d).filter P).map Prod.fst
  write seen d := T.set d ((T.get d).modifyWhere (fun id _ => (T.get seen).holds P id) f)

/-- `deleteMany`: remove the rows that satisfy `P`. -/
def deleteMany (P : ℕ → ρ → Bool) : Stmt Unit where
  locks d := ((T.get d).filter P).map fun r => T.row r.1
  answer _ := ()
  write seen d := T.set d ((T.get d).deleteWhere fun id _ => (T.get seen).holds P id)

/-- `delete`: remove one row and return it, or throw if it is not there. -/
def deleteUnique (id : ℕ) : Stmt (Except Err ρ) where
  locks _ := [T.row id]
  answer d := ((T.get d).get? id).elim (.error .notFound) .ok
  write _ d := T.set d ((T.get d).deleteWhere fun id' _ => id' == id)

/-- `create`, under the id drawn for the row. -/
def create (id : ℕ) (r : ρ) : Stmt Unit where
  locks _ := [T.row id]
  answer _ := ()
  write _ d := T.set d ((T.get d).insert id r)

end Statements

/-! ### The tables -/

section Tables

def rides : TableRef Ride := ⟨Db.rides, fun d t => { d with rides := t }, .ride⟩

def segments : TableRef Segment := ⟨Db.segments, fun d t => { d with segments := t }, .segment⟩

def bookings : TableRef Booking := ⟨Db.bookings, fun d t => { d with bookings := t }, .booking⟩

def requests : TableRef RideRequest := ⟨Db.requests, fun d t => { d with requests := t }, .request⟩

def offers : TableRef RideRequestOffer := ⟨Db.offers, fun d t => { d with offers := t }, .offer⟩

def payments : TableRef Payment := ⟨Db.payments, fun d t => { d with payments := t }, .payment⟩

def outbox : TableRef OutboxEvent := ⟨Db.outbox, fun d t => { d with outbox := t }, fun _ => .other⟩

def payoutBatches : TableRef PayoutBatch :=
  ⟨Db.payoutBatches, fun d t => { d with payoutBatches := t }, fun _ => .other⟩

def users : TableRef User := ⟨Db.users, fun d t => { d with users := t }, .user⟩

def disputes : TableRef Dispute :=
  ⟨Db.disputes, fun d t => { d with disputes := t }, fun _ => .other⟩

def dlVerifications : TableRef DlVerification :=
  ⟨Db.dlVerifications, fun d t => { d with dlVerifications := t }, fun _ => .other⟩

def vehicles : TableRef Vehicle :=
  ⟨Db.vehicles, fun d t => { d with vehicles := t }, fun _ => .other⟩

def vehicleDocuments : TableRef VehicleDocument :=
  ⟨Db.vehicleDocuments, fun d t => { d with vehicleDocuments := t }, fun _ => .other⟩

def refreshTokens : TableRef RefreshToken :=
  ⟨Db.refreshTokens, fun d t => { d with refreshTokens := t }, fun _ => .other⟩

def paymentMethods : TableRef PaymentMethod :=
  ⟨Db.paymentMethods, fun d t => { d with paymentMethods := t }, fun _ => .other⟩

def pricingConfigs : TableRef PricingConfig :=
  ⟨Db.pricingConfigs, fun d t => { d with pricingConfigs := t }, fun _ => .other⟩

end Tables

/-! ## Services -/

/-- What the environment makes of one step: it takes place and its answer arrives; it is refused
or never arrives, and has no effect; or, at Stripe, it takes place and its answer is lost. -/
inductive Reply
  | ok
  | refused
  | lost
  deriving DecidableEq, Repr, Inhabited

/-- What is recorded of a run besides its states: decisions that a call took on what it had read. -/
inductive Event
  /-- A booking was claimed by the call that had its payment captured. -/
  | bookingClaimed (booking : ℕ)
  /-- A booking was moved to this status by a call that acts on it under way. -/
  | bookingMoved (booking : ℕ) (status : BookingStatus)
  /-- A ride was moved to this status by its id alone. -/
  | rideMoved (ride : ℕ) (status : RideStatus)
  /-- A ride that nobody had started was closed, with these bookings. -/
  | rideClosed (ride : ℕ) (bookings : List ℕ)
  /-- A booking was ended by a call that had, or had not, read it as captured. -/
  | bookingEnded (booking : ℕ) (sawCaptured : Bool)
  /-- A booking row was written by a settlement, in this status. -/
  | bookingWritten (booking : ℕ) (status : BookingStatus)
  /-- A payment row was written by a call that had last read it in status `read`. -/
  | paymentWritten (payment : ℕ) (read written : PaymentStatus)
  /-- A payout selected these payments. -/
  | paymentsSelected (payments : List ℕ)
  /-- Stripe created the transfer of a payout batch. -/
  | transferCreated (payoutBatch : ℕ)
  /-- A booking was moved to `COMPLETED`. -/
  | tripCompleted (booking : ℕ)
  /-- A call that has refunded a booking at Stripe comes to mark its payment. -/
  | refundDue (booking : ℕ)
  /-- A run of the outbox worker selected these events. -/
  | outboxSelected (events : List ℕ)
  /-- A run of the outbox worker wrote this row for an event. -/
  | outboxWritten (event : ℕ) (row : OutboxEvent)
  /-- The handler of an outbox event returned, or threw. -/
  | handlerEnded (event : ℕ) (returned : Bool)
  /-- A run of the outbox worker came to its end, or the process that it was in. -/
  | outboxRunEnded
  /-- An edit of a vehicle was written, and has, or has not, reset its review. -/
  | vehicleEdited (vehicle : ℕ) (change : VehicleChangeKind) (reset : Bool)
  /-- A vehicle was approved. -/
  | vehicleVerified (vehicle : ℕ)
  /-- A webhook wrote a row for a session of a user that had none. -/
  | sessionRegistered (session : SessionId) (user : ℕ)
  /-- A webhook wrote its decision on the session of a user. -/
  | decisionWritten (session : SessionId) (user : ℕ) (status : DlVerificationStatus)
  /-- A webhook marked a user as verified. -/
  | licenceFlagged (user : ℕ)
  /-- The manual review of a user was written in this status. -/
  | reviewWritten (user : ℕ) (status : DlVerificationStatus)
  /-- A user was marked as not verified, and the manual review left as it was. -/
  | licenceCleared (user : ℕ)
  /-- The rider has extended the time that the driver has to decide on a booking. -/
  | deadlineExtended (booking : ℕ)
  /-- An exchange has revoked the token that was presented. -/
  | tokenSpent (token : ℕ)
  /-- An exchange of `token` has issued another one. -/
  | tokenIssued (token child : ℕ)
  /-- A logout with this token was called. -/
  | logoutCalled (token : ℕ)
  /-- A logout has revoked the token. -/
  | tokenLoggedOut (token : ℕ)
  /-- A payment method of a user was saved, as the default one or not. -/
  | methodSaved (user : ℕ) (isFirst : Bool)
  /-- A call that makes `method` the default one has cleared the default of the user. -/
  | defaultCleared (user method : ℕ)
  /-- It has set it. -/
  | defaultSet (user method : ℕ)
  /-- A payment method of a user was removed, by a call that had, or had not, read it as the default. -/
  | methodRemoved (user method : ℕ) (wasDefault : Bool)
  /-- A job that gives a booking up for lack of an answer was queued, to run at this time. -/
  | extendedJobAdded (booking dueAt : ℕ)
  /-- The queue has given such a job out. -/
  | extendedJobTaken (booking : ℕ)
  /-- The job has read the booking, and found it unanswered. -/
  | extendedJobRead (booking : ℕ)
  /-- A guess was compared with a code of a booking. -/
  | otpCompared (booking : ℕ) (code : OtpCode) (isValid : Bool)
  /-- A wrong guess was counted. -/
  | otpCounted (booking : ℕ) (code : OtpCode)
  deriving DecidableEq, Repr

/-- What a transaction is given besides the database: `new Date()`, and an id for a new row. -/
structure Ctx where
  now : ℕ
  uuid : ℕ

/-- One command of a transaction that calls Stripe before it commits. -/
inductive TxCall : Type → Type 1
  | stmt {β : Type} (s : Stmt β) : TxCall β
  | stripe {β : Type} (request : Stripe → Except Err (β × Stripe)) : TxCall (Except Err β)

/-- The body of a transaction that calls Stripe. -/
abbrev StripeTx := Program TxCall Err

/-- Such a transaction as one step: its writes are rolled back if it throws, what it has made Stripe
do is not. -/
def StripeTx.atomic {α : Type} : StripeTx α → Db → Stripe → Except Err (α × Db) × Stripe
  | .ret a, d, s => (.ok (a, d), s)
  | .throw e, _, s => (.error e, s)
  | .step (.stmt c) k, d, s => StripeTx.atomic (k (c.answer d)) (c.write d d) s
  | .step (.stripe request) k, d, s =>
    match request s with
    | .ok (b, s') => StripeTx.atomic (k (.ok b)) d s'
    | .error e => StripeTx.atomic (k (.error e)) d s

/-- A transaction as part of one that calls Stripe. -/
def Tx.lift {α : Type} (body : Tx α) : StripeTx α :=
  body.translate fun s => Program.command (.stmt s)

/-- One step of a service. -/
inductive Call : Type → Type 1
  /-- Run a transaction; `report` says what its commit means. -/
  | transact {β : Type} (body : Ctx → Tx β) (report : β → List Event) : Call (Except Err β)
  /-- Run a transaction that calls Stripe; `report` says what its commit means. -/
  | transactWithStripe {β : Type} (body : Ctx → StripeTx β) (report : β → List Event) :
      Call (Except Err β)
  /-- Call Stripe; `report` says what a request that took place means. -/
  | stripe {β : Type} (request : Stripe → Except Err (β × Stripe)) (report : β → List Event) :
      Call (Except Err β)
  /-- Read the clock. -/
  | clock : Call ℕ
  /-- `randomUUID()`: an id that no row has and that no other call has drawn. -/
  | randomUUID : Call ℕ
  /-- Nothing but to record how far the service has come. -/
  | note (events : List Event) : Call Unit

/-- The services: programs of transactions and Stripe calls. -/
abbrev Service := Program Call Err

/-- The machine on which services run alone: every transaction is one step. -/
def Call.exec {β : Type} : Call β → Reply → World → β × List Event × World
  | .transact body report, .ok, w =>
    match (body ⟨w.now, w.db.freshId⟩).atomic w.db with
    | .ok (b, d) => (.ok b, report b, { w with db := d })
    | .error e => (.error e, [], w)
  | .transact _ _, _, w => (.error .unavailable, [], w)
  | .transactWithStripe body report, .ok, w =>
    match (body ⟨w.now, w.db.freshId⟩).atomic w.db w.stripe with
    | (.ok (b, d), s) => (.ok b, report b, { w with db := d, stripe := s })
    -- the database is rolled back, what Stripe has done stays done
    | (.error e, s) => (.error e, [], { w with stripe := s })
  | .transactWithStripe _ _, _, w => (.error .unavailable, [], w)
  | .stripe _ _, .refused, w => (.error .unavailable, [], w)
  | .stripe request report, .ok, w =>
    match request w.stripe with
    | .ok (b, s) => (.ok b, report b, { w with stripe := s })
    | .error e => (.error e, [], w)
  -- Stripe has carried the request out and the answer does not arrive
  | .stripe request report, .lost, w =>
    match request w.stripe with
    | .ok (b, s) => (.error .unavailable, report b, { w with stripe := s })
    | .error e => (.error e, [], w)
  | .clock, _, w => (w.now, [], w)
  | .randomUUID, _, w =>
    (max w.drawn w.db.freshId, [], { w with drawn := max w.drawn w.db.freshId + 1 })
  | .note events, _, w => ((), events, w)

/-- The machine on which services run, every transaction one step. -/
def world : Machine Call Reply Event World := ⟨Call.exec⟩

section Service

variable {β : Type}

/-- Run a transaction. -/
def transaction (body : Ctx → Tx β) : Service β := Program.perform (.transact body fun _ => [])

/-- Run one statement on its own. -/
def sql (s : Stmt β) : Service β := transaction fun _ => Program.command s

/-- Run one statement on its own, throwing what it throws. -/
def sqlOrThrow (s : Stmt (Except Err β)) : Service β := transaction fun _ => Program.perform s

/-- Run a service alone, every step of it taking place: its outcome and the world it leaves. -/
def Service.eval {α : Type} (p : Service α) (w : World) : Except Err α × World :=
  Program.eval world .ok p w

/-- `createNotification` and the socket events: a step that can fail and changes none of the rows
modelled here. -/
def notify : Service Unit := sql { answer := fun _ => () }

end Service

/-! ## Running services alone -/

namespace Service

variable {α β : Type} {w w' : World}

theorem eval_bind_ok {p : Service α} {f : α → Service β} {a : α} (h : p.eval w = (.ok a, w')) :
    Service.eval (p.bind f) w = (f a).eval w' :=
  Program.eval_bind_ok h

theorem eval_bind_error {p : Service α} {f : α → Service β} {e : Err}
    (h : p.eval w = (.error e, w')) : Service.eval (p.bind f) w = (.error e, w') :=
  Program.eval_bind_error h

/-- A last step that only returns leaves the world alone. -/
@[simp] theorem eval_bind_ret_snd (p : Service α) (f : α → β) (w : World) :
    (Service.eval (p.bind fun a => .ret (f a)) w).2 = (p.eval w).2 := by
  cases h : p.eval w with
  | mk r w' =>
    cases r with
    | ok a => rw [eval_bind_ok h]; rfl
    | error e => rw [eval_bind_error h]

/-- A service that ends by returning a fixed value returns that value or throws. -/
theorem eval_bind_ret_fst {p : Service α} {b c : β} (h : (Service.eval (p.bind fun _ => .ret b) w).1 =
    .ok c) : c = b := by
  cases hp : p.eval w with
  | mk r w' =>
    cases r with
    | ok a =>
      rw [eval_bind_ok hp] at h
      exact (Except.ok.inj h).symm
    | error e => simp [eval_bind_error hp] at h

@[simp] theorem eval_ret (a : α) (w : World) : Service.eval (.ret a) w = (.ok a, w) := rfl

@[simp] theorem eval_throw (e : Err) (w : World) :
    Service.eval (.throw e : Service α) w = (.error e, w) := rfl

@[simp] theorem eval_sql (s : Stmt β) (w : World) :
    (sql s).eval w = (.ok (s.answer w.db), { w with db := s.write w.db w.db }) := rfl

theorem eval_sqlOrThrow_ok {s : Stmt (Except Err β)} {b : β} (h : s.answer w.db = .ok b) :
    (sqlOrThrow s).eval w = (.ok b, { w with db := s.write w.db w.db }) := by
  simp only [Service.eval, sqlOrThrow, transaction, Program.perform, Program.eval_step, world,
    Call.exec, Tx.atomic, h, Program.ofExcept_ok, Program.eval_ret]

theorem eval_sqlOrThrow_error {s : Stmt (Except Err β)} {e : Err} (h : s.answer w.db = .error e) :
    (sqlOrThrow s).eval w = (.error e, w) := by
  simp only [Service.eval, sqlOrThrow, transaction, Program.perform, Program.eval_step, world,
    Call.exec, Tx.atomic, h, Program.ofExcept_error, Program.eval_throw]

end Service

end Deliivo

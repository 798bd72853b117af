import Deliivo.Booking.Confirmation
import Deliivo.Booking.Extension
import Deliivo.Booking.Frame
import Deliivo.Domain.Pool
import Deliivo.Domain.Preserves
import Deliivo.Domain.Unrecorded
import Deliivo.Program.Traced
import Deliivo.Store.RowView

/-!
# Giving a booking up

Once the deadline of a booking has passed, the rider is told and a job is queued that gives the booking
up an hour later. How long the job waits is settled when it is queued: a rider who extends the wait
afterwards moves the deadline, and not the job. The job writes the booking by its id, after it has read
it; a driver who accepts in between loses the booking.

**If a deadline is never later than the jobs that are queued for its booking, and no driver confirms a
booking between the reading and the write of a job, then a booking is never given up before its deadline,
nor once it has been confirmed** (`cancelled_in_time`).

## Main definitions

* `handleInitialDeadline`, `runExtendedJob`: the two jobs
* `Booking.autoCancelAt`: the time that the rider is shown
* `CancelledInTime`: what a step may give up
* `AutoCancelOp`, `autoCancelPool`, `AutoCancelStep`: the calls next to each other, and the condition on
  their steps

## Main results

* `runExtendedJob_unrecorded`: the job is `handleExtendedDeadline`
* `cancelled_in_time`
-/

namespace Deliivo

open Program (Logged Pool Move Protocol)

/-! ## The jobs -/

/-- The initial deadline has passed: the rider is told, once, and the job is queued that gives the booking
up. -/
def handleInitialDeadline (bookingId : ℕ) : Service Unit := do
  let found ← sql (findBookingWithRide bookingId)
  match found with
  | none => return ()
  | some (booking, _) =>
    if booking.status ≠ .driverPending ∨ booking.deadlineExpiredNotifiedAt.isSome = true then return ()
    else
      let now ← Program.command .clock
      let _ ← sqlOrThrow <| update bookings bookingId fun b =>
        { b with deadlineExpiredNotifiedAt := some now }
      notify
      -- the delay is counted from the time at which the job is queued
      let now ← Program.command .clock
      Program.command (.note [.extendedJobAdded bookingId (now + extendedDeadlineMs)])

/-- A booking that has been found without an answer. -/
def reportUnanswered (bookingId : ℕ) : Option (Booking × Ride) → List Event
  | none => []
  | some (booking, _) =>
    if booking.status ≠ .driverPending ∨ booking.autoCancelledAt.isSome = true then []
    else [.extendedJobRead bookingId]

/-- The job as the queue runs it, with what it has come to on record. -/
def runExtendedJob (settings : Settings) (bookingId : ℕ) : Service Unit := do
  Program.command (.note [.extendedJobTaken bookingId])
  let found ← Program.perform <| .transact (fun _ => Program.command (findBookingWithRide bookingId))
    (reportUnanswered bookingId)
  match found with
  | none => return ()
  | some (booking, ride) =>
    if booking.status ≠ .driverPending ∨ booking.autoCancelledAt.isSome = true then return ()
    else
      let _ ← Program.perform <| .transactWithStripe
        (cancelUnansweredBooking settings bookingId booking ride)
        fun _ => [.bookingEnded bookingId booking.isPaymentCaptured]
      notify

/-- **The job** is `handleExtendedDeadline`. -/
theorem runExtendedJob_unrecorded (settings : Settings) (bookingId : ℕ) :
    (runExtendedJob settings bookingId).unrecorded =
      (handleExtendedDeadline settings bookingId).unrecorded := by
  simp only [runExtendedJob, handleExtendedDeadline, Program.bind_eq, Service.unrecorded_bind,
    Service.unrecorded_perform_transact, Service.unrecorded_sql]
  rfl

/-- `autoCancelAt` of `mapBookingResponse`: when the rider is told that the booking will be given up. -/
def Booking.autoCancelAt (booking : Booking) : Option ℕ :=
  if booking.status = .driverPending ∧ booking.deadlineExtendedAt.isSome = true then
    booking.driverDecisionDeadlineAt
  else none

/-! ## What may be given up -/

/-- What a step cancels had not been confirmed, and its deadline was not in the future. -/
def CancelledInTime (w w' : World) : Prop :=
  ∀ id b b', w.db.bookings.get? id = some b → w'.db.bookings.get? id = some b' →
    b.status ≠ .cancelled → b'.status = .cancelled →
      b.status ≠ .confirmed ∧ ∀ deadline, b.driverDecisionDeadlineAt = some deadline →
        deadline ≤ w.now

/-- So it is not given up before the time that the rider was shown. -/
theorem CancelledInTime.autoCancelAt_le {w w' : World} (h : CancelledInTime w w') {id : ℕ}
    {b b' : Booking} (hb : w.db.bookings.get? id = some b) (hb' : w'.db.bookings.get? id = some b')
    (hlive : b.status ≠ .cancelled) (hcancelled : b'.status = .cancelled) {shown : ℕ}
    (hshown : b.autoCancelAt = some shown) : shown ≤ w.now := by
  unfold Booking.autoCancelAt at hshown
  split_ifs at hshown
  exact (h id b b' hb hb' hlive hcancelled).2 shown hshown

/-- What the calls decide about: the status of a booking and its deadline. -/
structure AnswerRow where
  status : BookingStatus
  deadline : Option ℕ

def Booking.answerRow (booking : Booking) : AnswerRow := ⟨booking.status, booking.driverDecisionDeadlineAt⟩

def answerRows (d : Db) : ℕ → Option AnswerRow := d.bookings.viewed Booking.answerRow

/-! ## The calls -/

/-- The rider, the driver and the two jobs. -/
inductive AutoCancelOp
  | handleInitialDeadline (bookingId : ℕ)
  | extendWaitForDriver (passengerId bookingId : ℕ)
  | acceptBooking (driverId bookingId : ℕ)
  | runExtendedJob (settings : Settings) (bookingId : ℕ)

def AutoCancelOp.program : AutoCancelOp → Service Unit
  | .handleInitialDeadline bookingId => Deliivo.handleInitialDeadline bookingId
  | .extendWaitForDriver passengerId bookingId => Deliivo.extendWaitForDriver passengerId bookingId
  | .acceptBooking driverId bookingId => Deliivo.acceptBooking driverId bookingId
  | .runExtendedJob settings bookingId => Deliivo.runExtendedJob settings bookingId

/-- What can be seen of a step: a time that it reads, a transaction that calls Stripe, and a booking that
it confirms. -/
inductive Sight
  | read (now : ℕ)
  | attempted
  | confirmed (booking : ℕ)
  deriving DecidableEq, Repr

/-- The bookings that have been confirmed. -/
def newlyConfirmed (d d' : Db) : List ℕ :=
  (d'.bookings.filter fun id b => b.status == .confirmed &&
    (d.bookings.get? id).any fun b₀ => b₀.status != .confirmed).map Prod.fst

def sightOf {β : Type} : Call β → World → List Sight
  | .clock, w => [.read w.now]
  | .transactWithStripe _ _, _ => [.attempted]
  | _, _ => []

def sights {β : Type} (c : Call β) (i : Reply) (w : World) : List Sight :=
  sightOf c w ++ (newlyConfirmed w.db (c.exec i w).2.2.db).map .confirmed

/-- The calls, next to each other. -/
abbrev autoCancelPool := (servicePool AutoCancelOp.program besidesBookings).traced sights

abbrev SightWorld := Logged (Event ⊕ Sight) World

/-- A job has found the booking without an answer, and has not tried to give it up. -/
def UnderWay (tid bookingId : ℕ) (x : SightWorld) : Prop :=
  .inl (.extendedJobRead bookingId) ∈ x.own tid ∧ .inr .attempted ∉ x.own tid

/-- A job of this booking is queued, to run at this time. -/
def Queued (x : SightWorld) (bookingId dueAt : ℕ) : Prop :=
  ∃ tid, (tid, .inl (.extendedJobAdded bookingId dueAt)) ∈ x.log

/-- The queue does not give a job out before it is due. -/
def GivenOutWhenDue (x : SightWorld) (seen : List (Event ⊕ Sight)) : Prop :=
  ∀ id, .inl (.extendedJobTaken id) ∈ seen → ∃ dueAt, Queued x id dueAt ∧ dueAt ≤ x.state.now

/-- The condition on the steps of the calls. A job is not given out before it is due. It is queued to run
after the deadline of its booking, and a rider who extends the wait does not move the deadline beyond it.
No driver confirms a booking that a job is about to give up. -/
structure AutoCancelStep (_op : AutoCancelOp) (tid : ℕ) (x : SightWorld) (_reply : Reply)
    (seen : List (Event ⊕ Sight)) : Prop where
  taken : GivenOutWhenDue x seen
  added : ∀ id dueAt, .inl (.extendedJobAdded id dueAt) ∈ seen → ∀ row,
    answerRows x.state.db id = some row → row.status = .driverPending →
      ∀ deadline, row.deadline = some deadline → deadline ≤ dueAt
  extended : ∀ id now row, .inl (.deadlineExtended id) ∈ seen →
    answerRows x.state.db id = some row → row.status = .driverPending →
      (x.seen tid).getLast? = some (.read now) → ∀ dueAt, Queued x id dueAt →
        now + extendedDeadlineMs ≤ dueAt
  confirmed : ∀ id, .inr (.confirmed id) ∈ seen → ∀ t, ¬ UnderWay t id x

/-- What else goes on does not turn the clock back. -/
def ClockRuns (w : World) (x : SightWorld) : Prop := x.state.now ≤ w.now

/-! ## What a step does to a booking -/

/-- What becomes of a booking in a step: the driver confirms it, the rider moves its deadline, but not
beyond a job that is queued, or it is given up, which it may be. -/
inductive AnswerRow.Becomes (x : SightWorld) (bookingId : ℕ) : AnswerRow → AnswerRow → Prop
  | same (row : AnswerRow) : Becomes x bookingId row row
  | confirm (row : AnswerRow) (hpending : row.status = .driverPending) :
    Becomes x bookingId row { row with status := .confirmed }
  | extend (row : AnswerRow) (deadline : ℕ)
    (hdue : row.status = .driverPending → ∀ dueAt, Queued x bookingId dueAt → deadline ≤ dueAt) :
    Becomes x bookingId row { row with deadline := some deadline }
  | cancel (row : AnswerRow) (hlive : row.status = .driverPending ∨ row.status = .cancelled)
    (hdue : row.status = .driverPending → ∀ deadline, row.deadline = some deadline →
      deadline ≤ x.state.now) :
    Becomes x bookingId row { row with status := .cancelled }

/-- What becomes of the bookings in a step. -/
def AnswersBecome (x : SightWorld) (d : Db) : Prop :=
  RowsBecome (AnswerRow.Becomes x) (answerRows x.state.db) (answerRows d)

theorem answersBecome_of_eq {x : SightWorld} {d : Db} (h : answerRows d = answerRows x.state.db) :
    AnswersBecome x d := by
  rw [AnswersBecome, h]
  exact .refl (fun _ row => .same row) _

/-- What is cancelled in a step may be. -/
theorem cancelledInTime_of_become {x : SightWorld} {w' : World} (h : AnswersBecome x w'.db) :
    CancelledInTime x.state w' := by
  intro id b b' hb hb' hlive hcancelled
  obtain ⟨row', hrow', hbecomes⟩ := h.some_of (Table.viewed_of_get? hb)
  obtain rfl := Option.some.inj (hrow'.symm.trans (Table.viewed_of_get? hb'))
  change b.answerRow.status ≠ .cancelled at hlive
  change b'.answerRow.status = .cancelled at hcancelled
  change b.answerRow.status ≠ .confirmed ∧ ∀ deadline, b.answerRow.deadline = some deadline → _
  generalize b.answerRow = row at hlive hbecomes ⊢
  generalize b'.answerRow = row' at hcancelled hbecomes
  cases hbecomes with
  | same => exact absurd hcancelled hlive
  | confirm => cases hcancelled
  | extend => exact absurd hcancelled hlive
  | cancel hunanswered hdue =>
    have hpending := hunanswered.resolve_right hlive
    refine ⟨?_, hdue hpending⟩
    rw [hpending]
    exact fun h => by cases h

/-! ## The protocol -/

/-- No deadline is later than the jobs that are queued for its booking. -/
def QueuedInTime (x : SightWorld) : Prop :=
  ∀ id dueAt row, Queued x id dueAt → answerRows x.state.db id = some row →
    row.status = .driverPending → ∀ deadline, row.deadline = some deadline → deadline ≤ dueAt

/-- Nobody has confirmed the booking. -/
def Unanswered (bookingId : ℕ) (x : SightWorld) : Prop :=
  ∀ row, answerRows x.state.db bookingId = some row →
    row.status = .driverPending ∨ row.status = .cancelled

/-- What the calls keep for each other: what the others have done, the jobs that are queued, the clock,
and the bookings that are about to be given up. -/
structure AutoCancelRely (tid : ℕ) (x y : SightWorld) : Prop where
  own : y.own tid = x.own tid
  queued : ∀ id dueAt, Queued x id dueAt → Queued y id dueAt
  clock : x.state.now ≤ y.state.now
  unanswered : ∀ id, UnderWay tid id x → Unanswered id x → Unanswered id y

/-- The bookings are given up in time. -/
def autoCancelProtocol : Protocol autoCancelPool AutoCancelStep ClockRuns where
  Inv := QueuedInTime
  Rely := AutoCancelRely
  Guar tid x y := (∀ t, t ≠ tid → AutoCancelRely t x y) ∧ CancelledInTime x.state y.state
  Post _ _ _ := True
  rely_refl _ _ := ⟨rfl, fun _ _ h => h, le_rfl, fun _ _ h => h⟩
  rely_trans h h' := by
    refine ⟨h'.own.trans h.own, fun id dueAt hq => h'.queued id dueAt (h.queued id dueAt hq),
      h.clock.trans h'.clock, fun id hunder hx => h'.unanswered id ?_ (h.unanswered id hunder hx)⟩
    rwa [UnderWay, h.own]
  guar_rely hne _ h := h.1 _ hne
  env_inv hx _ := hx
  env_rely _ _ hw := ⟨rfl, fun _ _ h => h, hw, fun _ _ h => h⟩
  post_stable _ _ _ := trivial

section Safe

variable {op : AutoCancelOp} {tid bookingId : ℕ} {α β : Type} {x y : SightWorld}

/-- The logged world after a step. -/
def afterSight (y : SightWorld) (tid : ℕ) (c : Call β) (i : Reply) : SightWorld :=
  y.next tid (Program.seenEvents (c.exec i y.state).2.1 (sights c i y.state)) (c.exec i y.state).2.2

/-- No step moves the clock. -/
theorem exec_now (c : Call β) (i : Reply) (w : World) : (c.exec i w).2.2.now = w.now := by
  cases c with
  | transact body report =>
    obtain ⟨b, d, -, hexec⟩ | ⟨e, hexec⟩ := exec_transact body report i w
    all_goals rw [hexec]
  | transactWithStripe body report =>
    obtain ⟨b, d, s, -, hexec⟩ | ⟨e, s, hexec⟩ := exec_transactWithStripe body report i w
    all_goals rw [hexec]
  | stripe request report =>
    cases i with
    | refused => rfl
    | ok | lost =>
      simp only [Call.exec]
      cases request w.stripe <;> rfl
  | clock | randomUUID | note => rfl

/-- A booking that is confirmed in a step is seen to be. -/
theorem confirmed_mem_sights {c : Call β} {i : Reply} {w : World} {row row' : AnswerRow}
    (hrow : answerRows w.db bookingId = some row)
    (hrow' : answerRows (c.exec i w).2.2.db bookingId = some row')
    (hbefore : row.status ≠ .confirmed) (hafter : row'.status = .confirmed) :
    .confirmed bookingId ∈ sights c i w := by
  obtain ⟨b, hb, rfl⟩ := Table.viewed_eq_some.mp hrow
  obtain ⟨b', hb', rfl⟩ := Table.viewed_eq_some.mp hrow'
  refine List.mem_append_right _ (List.mem_map_of_mem ?_)
  refine List.mem_map.mpr ⟨(bookingId, b'), Table.mem_filter_iff.mpr ⟨hb', ?_⟩, rfl⟩
  rw [hb]
  simp only [Bool.and_eq_true, beq_iff_eq, Option.any_some, bne_iff_ne]
  exact ⟨hafter, hbefore⟩

theorem queued_afterSight {c : Call β} {i : Reply} {id dueAt : ℕ} :
    Queued (afterSight y tid c i) id dueAt ↔
      Queued y id dueAt ∨ .extendedJobAdded id dueAt ∈ (c.exec i y.state).2.1 := by
  simp only [Queued, afterSight, Logged.mem_next_log, Program.inl_mem_seenEvents]
  constructor
  · rintro ⟨t, hold | ⟨-, hnew⟩⟩
    · exact Or.inl ⟨t, hold⟩
    · exact Or.inr hnew
  · rintro (⟨t, hold⟩ | hnew)
    · exact ⟨t, Or.inl hold⟩
    · exact ⟨tid, Or.inr ⟨rfl, hnew⟩⟩

/-- **A step keeps the protocol** that does to the bookings what may become of them, where it queues no
job while it writes one. -/
theorem keeps_answers {c : Call β} {Q : β → SightWorld → Prop} (hinv : autoCancelProtocol.Inv y)
    (h : ∀ i, AutoCancelStep op tid y i
        (Program.seenEvents (c.exec i y.state).2.1 (sights c i y.state)) →
      AnswersBecome y (c.exec i y.state).2.2.db ∧
        (∀ id dueAt, .extendedJobAdded id dueAt ∈ (c.exec i y.state).2.1 →
          answerRows (c.exec i y.state).2.2.db = answerRows y.state.db) ∧
        Q (c.exec i y.state).1 (afterSight y tid c i)) :
    autoCancelProtocol.Keeps op tid c y Q := by
  refine Program.Protocol.keeps_traced fun i b es s hexec hcond => ?_
  obtain ⟨rfl, rfl, rfl⟩ := exec_eq hexec
  obtain ⟨hbecome, hadded, hQ⟩ := h i hcond
  refine ⟨⟨fun t ht => ?_, cancelledInTime_of_become hbecome⟩, ?_, hQ⟩
  · refine ⟨Logged.own_next_ne ht, fun id dueAt hq => queued_afterSight.mpr (Or.inl hq),
      (exec_now c i y.state).ge, fun id hunder hx row' hrow' => ?_⟩
    obtain ⟨row, hrow, hrows⟩ := hbecome.of_some hrow'
    have hunanswered := hx row hrow
    cases hrows with
    | same => exact hunanswered
    | extend => exact hunanswered
    | cancel => exact Or.inr rfl
    | confirm hpending =>
      -- no driver confirms a booking that is about to be given up
      refine absurd hunder (hcond.confirmed id (Program.inr_mem_seenEvents.mpr ?_) t)
      refine confirmed_mem_sights hrow hrow' ?_ rfl
      rw [hpending]
      exact fun h => by cases h
  · intro id dueAt row' hqueued hrow' hpending' deadline hdeadline
    rcases queued_afterSight.mp hqueued with hold | hnew
    · obtain ⟨row, hrow, hrows⟩ := hbecome.of_some hrow'
      cases hrows with
      | same => exact hinv id dueAt _ hold hrow hpending' deadline hdeadline
      | confirm => cases hpending'
      | extend _ hdue =>
        obtain rfl := Option.some.inj hdeadline
        exact hdue hpending' dueAt hold
      | cancel => cases hpending'
    · refine hcond.added id dueAt (Program.inl_mem_seenEvents.mpr hnew) row' ?_ hpending' deadline
        hdeadline
      exact hadded id dueAt hnew ▸ hrow'

theorem stable_anyAnswer : autoCancelProtocol.Stable tid fun _ => True := fun _ _ _ _ _ => trivial

/-- A step that leaves the bookings as they are. -/
theorem keeps_sameAnswers {c : Call β} {Q : β → SightWorld → Prop} (hinv : autoCancelProtocol.Inv y)
    (h : ∀ i, AutoCancelStep op tid y i
        (Program.seenEvents (c.exec i y.state).2.1 (sights c i y.state)) →
      answerRows (c.exec i y.state).2.2.db = answerRows y.state.db ∧
        Q (c.exec i y.state).1 (afterSight y tid c i)) :
    autoCancelProtocol.Keeps op tid c y Q := by
  refine keeps_answers hinv fun i hcond => ?_
  obtain ⟨hsame, hQ⟩ := h i hcond
  exact ⟨answersBecome_of_eq hsame, fun _ _ _ => hsame, hQ⟩

/-- What a call may do that does not see to the bookings. -/
def answerFrame : Frame := .ofDb answerRows

theorem safe_answerLeaves {p : Service α} (h : p.Leaves answerFrame) :
    autoCancelProtocol.Safe op tid (fun _ _ => True) p x := by
  refine Protocol.Safe.issues stable_anyAnswer (h.mono fun c hc y _ hinv => ?_) trivial
  exact keeps_sameAnswers hinv fun i _ => ⟨(hc.exec i y.state).1, trivial⟩

/-! ### The initial deadline -/

theorem safe_handleInitialDeadline :
    autoCancelProtocol.Safe op tid (fun _ _ => True) (handleInitialDeadline bookingId) x := by
  refine safe_answerLeaves ((leaves_sql (leaves_findBookingWithRide _)).bind fun found => ?_)
  cases found with
  | none => trivial
  | some found =>
    dsimp only
    split_ifs
    · trivial
    refine ((Program.issues_command _).mpr trivial).bind fun now => ?_
    refine (leaves_sqlOrThrow fun _ d => ?_).bind fun _ => ?_
    · exact Table.viewed_modify_of_same (by intros; rfl) _
    refine leaves_notify.bind fun _ => ((Program.issues_command _).mpr trivial).bind fun now => ?_
    exact (Program.issues_command _).mpr fun _ _ => trivial

/-! ### The driver -/

theorem safe_acceptBooking {driverId : ℕ} :
    autoCancelProtocol.Safe op tid (fun _ _ => True) (acceptBooking driverId bookingId) x := by
  refine Protocol.Safe.sequence (safe_answerLeaves (leaves_requireDriverBooking _ _)) ?_
  rintro ⟨booking, ride⟩ y -
  refine Protocol.Safe.sequence (safe_answerLeaves (leaves_sql (leaves_findUnique _)))
    fun driver y _ => ?_
  split_ifs with hverified hstatus
  · trivial
  · trivial
  refine Protocol.Safe.sequence (safe_answerLeaves (leaves_assertDecisionWindowOpen _))
    fun _ y _ => ?_
  refine Protocol.Safe.sequence (Protocol.Safe.perform stable_anyAnswer trivial fun z _ hinv => ?_)
    fun confirmed z _ => ?_
  · refine keeps_answers hinv fun i _ => ?_
    obtain ⟨confirmed, d, hbody, hexec⟩ | ⟨e, hexec⟩ := exec_transact
      (fun ctx => Program.command (confirmDecided bookingId ride ctx)) (fun _ => []) i z.state
    · rw [hexec]
      obtain ⟨-, rfl⟩ := Prod.mk.injEq .. ▸ Except.ok.inj hbody
      refine ⟨?_, fun _ _ h => absurd h List.not_mem_nil, trivial⟩
      refine Table.rowsBecome_modifyWhere (fun _ => .same) fun id b hb hguard => ?_
      -- the write asks for the status
      rw [Table.holds, show (bookings.get z.state.db).get? id = some b from hb] at hguard
      simp only [Option.elim_some, Bool.and_eq_true, beq_iff_eq] at hguard
      exact .confirm b.answerRow hguard.1.2
    · rw [hexec]
      exact ⟨answersBecome_of_eq rfl, fun _ _ _ => rfl, trivial⟩
  · split_ifs
    · trivial
    · exact safe_answerLeaves (leaves_notify.bind fun _ => leaves_notify)

/-! ### The rider -/

/-- The call has read this time last. -/
def HasSeen (tid now : ℕ) (x : SightWorld) : Prop := (x.seen tid).getLast? = some (.read now)

theorem stable_hasSeen (now : ℕ) : autoCancelProtocol.Stable tid (HasSeen tid now) := by
  intro x y hx hrely _
  rw [HasSeen, Logged.seen, hrely.own]
  exact hx

/-- Where nothing is written nothing is confirmed. -/
theorem newlyConfirmed_self (d : Db) : newlyConfirmed d d = [] := by
  refine List.map_eq_nil_iff.mpr (List.filter_eq_nil_iff.mpr ?_)
  rintro ⟨id, b⟩ hb
  have hget : d.bookings.get? id = some b := Table.mem_rows_iff.mp hb
  simp [hget]

theorem safe_readClock :
    autoCancelProtocol.Safe op tid (fun r x => ∀ now, r = .ok now → HasSeen tid now x)
      (Program.command .clock) x := by
  refine Protocol.Safe.command stable_anyAnswer trivial fun y _ hinv => ?_
  refine keeps_sameAnswers hinv fun i _ => ⟨rfl, ?_⟩
  rintro now ⟨⟩
  rw [HasSeen, afterSight, Logged.seen_next_self, List.getLast?_append, sights]
  simp only [Call.exec, newlyConfirmed_self]
  rfl

/-- **The extension** moves the deadline, and not beyond a job that is queued. -/
theorem safe_extendWait {passengerId : ℕ} :
    autoCancelProtocol.Safe op tid (fun _ _ => True) (extendWaitForDriver passengerId bookingId)
      x := by
  refine Protocol.Safe.sequence (safe_answerLeaves (leaves_sql (leaves_findFirst _)))
    fun found y _ => ?_
  cases found with
  | none => trivial
  | some found =>
    refine Protocol.Safe.sequence (safe_answerLeaves ((Program.issues_command _).mpr trivial))
      fun _ y _ => ?_
    refine Protocol.Safe.sequence (safe_answerLeaves (Program.issues_ofExcept _)) fun _ y _ => ?_
    refine Protocol.Safe.bind (safe_readClock.mono ?_)
    rintro (e | now) y hread
    · trivial
    refine Protocol.Safe.sequence (Protocol.Safe.perform (stable_hasSeen now) (hread now rfl)
      fun z hread hinv => ?_) fun _ z _ => safe_answerLeaves leaves_notify
    refine keeps_answers hinv fun i hcond => ?_
    obtain ⟨row, d, hbody, hexec⟩ | ⟨e, hexec⟩ := exec_transact
      (fun ctx => Program.perform (writeExtendedDeadline bookingId (now + extendedDeadlineMs) ctx))
      (fun _ => [.deadlineExtended bookingId]) i z.state
    · rw [hexec] at hcond ⊢
      obtain ⟨-, -, -, rfl⟩ := Service.atomic_update hbody
      refine ⟨?_, fun id dueAt h => (by cases List.mem_singleton.mp h), trivial⟩
      refine Table.rowsBecome_modify (fun _ => .same) fun b hb => ?_
      refine .extend b.answerRow (now + extendedDeadlineMs) fun hpending => ?_
      exact hcond.extended bookingId now _ (Program.inl_mem_seenEvents.mpr
        (List.mem_singleton_self _)) (Table.viewed_of_get? hb) hpending hread
    · rw [hexec]
      exact ⟨answersBecome_of_eq rfl, fun _ _ _ => rfl, trivial⟩

/-! ### The job -/

/-- A job of the booking has come due. -/
def HasComeDue (bookingId : ℕ) (x : SightWorld) : Prop :=
  ∃ dueAt, Queued x bookingId dueAt ∧ dueAt ≤ x.state.now

/-- The call has not tried to give a booking up. -/
def NotAttempted (tid : ℕ) (x : SightWorld) : Prop := .inr .attempted ∉ x.own tid

theorem stable_hasComeDue : autoCancelProtocol.Stable tid (HasComeDue bookingId) := by
  rintro x y ⟨dueAt, hqueued, hle⟩ hrely _
  exact ⟨dueAt, hrely.queued _ _ hqueued, hle.trans hrely.clock⟩

theorem stable_notAttempted : autoCancelProtocol.Stable tid (NotAttempted tid) := by
  intro x y hx hrely _
  rw [NotAttempted, hrely.own]
  exact hx

theorem stable_underWay : autoCancelProtocol.Stable tid fun x =>
    UnderWay tid bookingId x ∧ Unanswered bookingId x := by
  rintro x y ⟨hunder, hx⟩ hrely _
  refine ⟨?_, hrely.unanswered _ hunder hx⟩
  rwa [UnderWay, hrely.own]

/-- A step that calls no Stripe is no attempt. -/
theorem notAttempted_afterSight {c : Call β} {i : Reply} (hy : NotAttempted tid y)
    (hc : .attempted ∉ sightOf c y.state) : NotAttempted tid (afterSight y tid c i) := by
  rw [NotAttempted, afterSight, Logged.own_next_self, List.mem_append, not_or]
  refine ⟨hy, fun hnew => ?_⟩
  rcases List.mem_append.mp (Program.inr_mem_seenEvents.mp hnew) with hsight | hconfirmed
  · exact hc hsight
  · obtain ⟨id, -, hid⟩ := List.mem_map.mp hconfirmed
    cases hid

theorem hasComeDue_afterSight {c : Call β} {i : Reply} (hy : HasComeDue bookingId y) :
    HasComeDue bookingId (afterSight y tid c i) := by
  obtain ⟨dueAt, hqueued, hle⟩ := hy
  exact ⟨dueAt, queued_afterSight.mpr (Or.inl hqueued), hle.trans (exec_now c i y.state).ge⟩

/-- The queue gives the job out once it is due. -/
theorem safe_takeJob (hx : NotAttempted tid x) :
    autoCancelProtocol.Safe op tid
      (fun r x => r = .ok () → HasComeDue bookingId x ∧ NotAttempted tid x)
      (Program.command (.note [.extendedJobTaken bookingId])) x := by
  refine Protocol.Safe.command stable_notAttempted hx fun y hy hinv => ?_
  refine keeps_sameAnswers hinv fun i hcond => ⟨rfl, fun _ => ⟨?_, ?_⟩⟩
  · exact hasComeDue_afterSight (hcond.taken bookingId (Program.inl_mem_seenEvents.mpr
      (List.mem_singleton_self _)))
  · exact notAttempted_afterSight hy List.not_mem_nil

/-- The job reads its booking. -/
theorem safe_readUnanswered (hdue : HasComeDue bookingId x) (hx : NotAttempted tid x) :
    autoCancelProtocol.Safe op tid
      (fun r x => HasComeDue bookingId x ∧ ∀ booking ride, r = .ok (some (booking, ride)) →
        ¬ (booking.status ≠ .driverPending ∨ booking.autoCancelledAt.isSome = true) →
          UnderWay tid bookingId x ∧ Unanswered bookingId x)
      (Program.perform (.transact (fun _ => Program.command (findBookingWithRide bookingId))
        (reportUnanswered bookingId))) x := by
  have hstable : autoCancelProtocol.Stable tid fun x => HasComeDue bookingId x ∧ NotAttempted tid x :=
    fun x y hx hrely hinv => ⟨stable_hasComeDue x y hx.1 hrely hinv,
      stable_notAttempted x y hx.2 hrely hinv⟩
  refine Protocol.Safe.perform hstable ⟨hdue, hx⟩ ?_
  rintro y ⟨hdue, hy⟩ hinv
  -- a read: no booking changes, and nothing is given up
  have hnone : Sight.attempted ∉ sightOf (.transact
      (fun _ => Program.command (findBookingWithRide bookingId)) (reportUnanswered bookingId))
      y.state := List.not_mem_nil
  refine keeps_sameAnswers hinv fun i _ => ⟨?_, hasComeDue_afterSight hdue, ?_⟩
  · obtain ⟨found, d, hbody, hexec⟩ | ⟨e, hexec⟩ := exec_transact
      (fun _ => Program.command (findBookingWithRide bookingId)) (reportUnanswered bookingId) i y.state
    · rw [hexec]
      obtain ⟨-, rfl⟩ := Prod.mk.injEq .. ▸ Except.ok.inj hbody
      rfl
    · rw [hexec]
  · intro booking ride hfound hunanswered
    have hattempted := notAttempted_afterSight (i := i) hy hnone
    obtain ⟨found, d, hbody, hexec⟩ | ⟨e, hexec⟩ := exec_transact
      (fun _ => Program.command (findBookingWithRide bookingId)) (reportUnanswered bookingId) i y.state
    · rw [hexec] at hfound
      obtain rfl := Except.ok.inj hfound
      obtain ⟨hread, rfl⟩ := Prod.mk.injEq .. ▸ Except.ok.inj hbody
      obtain ⟨hbooking, -⟩ := findBookingWithRide_eq_some.mp hread
      refine ⟨⟨?_, hattempted⟩, fun row hrow => ?_⟩
      · -- it reports what it has found, and that is what is there
        rw [afterSight, Logged.own_next_self, hexec]
        refine List.mem_append_right _ (Program.inl_mem_seenEvents.mpr ?_)
        rw [reportUnanswered, if_neg hunanswered]
        exact List.mem_singleton_self _
      · rw [afterSight, hexec] at hrow
        obtain rfl := Option.some.inj ((Table.viewed_of_get? hbooking).symm.trans hrow)
        exact Or.inl (not_not.mp fun h => hunanswered (Or.inl h))
    · rw [hexec] at hfound
      cases hfound

/-- The booking that is given up, and nothing else of the bookings. -/
theorem cancelUnanswered_rows {settings : Settings} {booking : Booking} {ride : Ride} {ctx : Ctx}
    {d d' : Db} {s s' : Stripe} {u : Unit}
    (hrun : (cancelUnansweredBooking settings bookingId booking ride ctx).atomic d s =
      (.ok (u, d'), s')) :
    ∃ f : Booking → Booking, (∀ b, (f b).answerRow = { b.answerRow with status := .cancelled }) ∧
      answerRows d' = answerRows { d with bookings := d.bookings.modify bookingId f } := by
  obtain ⟨u₁, d₁, s₁, hend, hrest⟩ := StripeTx.atomic_bind.mp hrun
  rw [Tx.atomic_lift] at hend
  have hsame : answerRows d' = answerRows d₁ := by
    refine (StripeTx.Leaves.atomic (F := answerFrame) ?_ hrest).1 _ _ rfl
    refine Program.Issues.bind ?_ fun refund => ?_
    · unfold refundUnansweredBooking
      split_ifs
      · trivial
      · split
        · exact ((Program.issues_perform _).mpr fun _ _ _ _ => rfl).bind fun _ => trivial
        · trivial
    · split_ifs
      · refine ((Program.issues_perform _).mpr fun _ d => ?_).bind fun _ => trivial
        exact Table.viewed_modify_of_same (by intros; rfl) _
      · trivial
  obtain ⟨_, d₂, hwrite, hrelease⟩ := Tx.atomic_bind.mp (Prod.mk.inj hend).1
  obtain ⟨-, -, -, rfl⟩ := Service.atomic_update hwrite
  have hhold : SeatHoldApart answerRows := by
    intro d P
    exact Table.viewed_modifyWhere_of_same (f := fun b : Booking => { b with seatsReservedAt := none })
      (fun _ => rfl) _
  have hleaves : ∀ hold : SeatHold, Tx.Leaves answerRows
      ((releaseBookingSeats bookingId hold).bind fun _ => .ret ()) := fun hold =>
    (leaves_giveSeatsBack (fun _ _ => rfl) (fun _ _ _ => rfl) hhold _ _).bind fun _ => trivial
  exact ⟨_, fun b => rfl, hsame.trans ((hleaves _).atomic hrelease)⟩

/-- **The job** gives up a booking that is due and that nobody has answered. -/
theorem safe_runExtendedJob {settings : Settings} (hx : NotAttempted tid x) :
    autoCancelProtocol.Safe op tid (fun _ _ => True) (runExtendedJob settings bookingId) x := by
  refine Protocol.Safe.bind ((safe_takeJob hx).mono ?_)
  rintro (e | u) y hy
  · trivial
  obtain ⟨hdue, hattempted⟩ := hy rfl
  refine Protocol.Safe.bind ((safe_readUnanswered hdue hattempted).mono ?_)
  rintro (e | found) z ⟨hdue, hread⟩
  · trivial
  cases found with
  | none => trivial
  | some found =>
    obtain ⟨booking, ride⟩ := found
    dsimp only
    split_ifs with hanswered
    · trivial
    -- a job once due stays due, and a booking it found unanswered stays so while it is under way
    have hstable : autoCancelProtocol.Stable tid fun x => HasComeDue bookingId x ∧
        UnderWay tid bookingId x ∧ Unanswered bookingId x :=
      fun x y hx hrely hinv => ⟨stable_hasComeDue x y hx.1 hrely hinv,
        stable_underWay x y hx.2 hrely hinv⟩
    refine Protocol.Safe.sequence (Protocol.Safe.perform hstable
      ⟨hdue, hread booking ride rfl hanswered⟩ ?_) fun _ v _ => safe_answerLeaves leaves_notify
    rintro v ⟨⟨dueAt, hqueued, hle⟩, -, hunanswered⟩ hinv
    refine keeps_answers hinv fun i _ => ?_
    obtain ⟨u, d, s, hbody, hexec⟩ | ⟨e, s, hexec⟩ := exec_transactWithStripe
      (cancelUnansweredBooking settings bookingId booking ride)
      (fun _ => [.bookingEnded bookingId booking.isPaymentCaptured]) i v.state
    · rw [hexec]
      refine ⟨?_, fun id dueAt h => (by cases List.mem_singleton.mp h), trivial⟩
      obtain ⟨f, hf, hrows⟩ := cancelUnanswered_rows hbody
      rw [AnswersBecome, hrows]
      refine Table.rowsBecome_modify (fun _ => .same) fun b hb => ?_
      have hrow : answerRows v.state.db bookingId = some b.answerRow := Table.viewed_of_get? hb
      rw [hf]
      refine .cancel b.answerRow (hunanswered _ hrow) fun hpending deadline hdeadline => ?_
      -- the row's deadline is no later than the job queued for it, and the job has come due
      exact (hinv bookingId dueAt _ hqueued hrow hpending deadline hdeadline).trans hle
    · rw [hexec]
      exact ⟨answersBecome_of_eq rfl, fun _ _ _ => rfl, trivial⟩

/-- Every call is safe. -/
theorem safeOperations_autoCancel : autoCancelProtocol.SafeOperations := by
  intro op tid x _ hlog
  cases op with
  | handleInitialDeadline bookingId => exact safe_handleInitialDeadline
  | extendWaitForDriver passengerId bookingId => exact safe_extendWait
  | acceptBooking driverId bookingId => exact safe_acceptBooking
  | runExtendedJob settings bookingId =>
    refine safe_runExtendedJob ?_
    rw [NotAttempted, Logged.own_eq_nil hlog]
    exact List.not_mem_nil

end Safe

/-! ## Whole runs -/

/-- The pool before any call has been started. -/
def autoCancelStart (w : World) : Pool Call Err (Event ⊕ Sight) World AutoCancelOp :=
  { now := { state := w } }

/-- **A booking is never given up before its deadline, nor once the driver has confirmed it**, in any
interleaving whose steps meet the condition. -/
theorem cancelled_in_time (w : World) (moves : List (Move AutoCancelOp Reply World))
    (hmeets : History.Each (Pool.step autoCancelPool)
      (Pool.Meets autoCancelPool AutoCancelStep ClockRuns) (autoCancelStart w) moves) :
    History.Each (Pool.step autoCancelPool)
      (fun p move => CancelledInTime p.now.state (p.step autoCancelPool move).now.state)
      (autoCancelStart w) moves := by
  have hstart : autoCancelProtocol.Holds (autoCancelStart w) := by
    refine Protocol.holds_of_inv ?_ rfl rfl
    rintro id dueAt row ⟨tid, hmem⟩
    exact absurd hmem List.not_mem_nil
  have hsame : ∀ (w w' : World), w'.db.bookings = w.db.bookings → CancelledInTime w w' := by
    intro w w' hsame id b b' hb hb' hlive hcancelled
    rw [hsame, hb] at hb'
    obtain rfl := Option.some.inj hb'
    exact absurd hcancelled hlive
  refine Protocol.each_guar (R := fun x y => CancelledInTime x.state y.state)
    safeOperations_autoCancel hstart (fun x => hsame _ _ rfl) (fun _ _ _ h => h.2) ?_ hmeets
  exact fun d x _ => hsame _ _ rfl

/-! ## Runs -/

section Runs

/-- A booking that has not been answered by its deadline. -/
private def unansweredBooking : World where
  db := {
    rides := ⟨[(1, {
      driverId := 9, totalSeats := 3, availableSeats := 2, status := .published,
      departureAt := 10 * hourMs })], by simp⟩
    bookings := ⟨[(7, {
      rideId := 1, passengerId := 2, seatsBooked := 1, totalPrice := 1020,
      status := .driverPending, driverDecisionDeadlineAt := some 0 })], by simp⟩ }

/-- The rider is told, and the job is queued that gives the booking up in an hour. -/
private def jobQueued : List (Move AutoCancelOp Reply World) :=
  [.start (.handleInitialDeadline 7), .step 0 .ok, .step 0 .ok, .step 0 .ok, .step 0 .ok, .step 0 .ok,
    .step 0 .ok]

/-- The job runs when it is due, in thread `tid`. -/
private def jobRun (tid : ℕ) : List (Move AutoCancelOp Reply World) :=
  [.disturb { unansweredBooking with now := extendedDeadlineMs },
    .start (.runExtendedJob { bypassPayment := true } 7), .step tid .ok, .step tid .ok, .step tid .ok]

/-- The rider has extended the wait in between, a minute after the deadline. -/
private def extendedMeanwhile : List (Move AutoCancelOp Reply World) :=
  [.disturb { unansweredBooking with now := 60000 }, .start (.extendWaitForDriver 2 7),
    .step 1 .ok, .step 1 .ok, .step 1 .ok, .step 1 .ok]

/-- A step that reads at most. -/
private theorem autoCancelStep_reads {op : AutoCancelOp} {tid : ℕ} {x : SightWorld} {reply : Reply}
    {seen : List (Event ⊕ Sight)} (h : ∀ e ∈ seen, ∃ now, e = .inr (.read now)) :
    AutoCancelStep op tid x reply seen where
  taken id hmem := by
    obtain ⟨now, hread⟩ := h _ hmem
    cases hread
  added id dueAt hmem := by
    obtain ⟨now, hread⟩ := h _ hmem
    cases hread
  extended id now row hmem := by
    obtain ⟨now, hread⟩ := h _ hmem
    cases hread
  confirmed id hmem := by
    obtain ⟨now, hread⟩ := h _ hmem
    cases hread

/-- Nobody answers: the booking is given up when it is due. -/
theorem given_up_when_due :
    History.Each (Pool.step autoCancelPool)
      (fun p move => CancelledInTime p.now.state (p.step autoCancelPool move).now.state)
      (autoCancelStart unansweredBooking) (jobQueued ++ jobRun 1) := by
  refine cancelled_in_time _ _ ⟨trivial, ?_, ?_, ?_, ?_, ?_, ?_, ?_, trivial, ?_, ?_, ?_, trivial⟩
  case refine_7 => exact Nat.zero_le _
  all_goals rintro op rest ⟨⟩ b es s ⟨⟩
  · exact autoCancelStep_reads fun e he => absurd he List.not_mem_nil
  · exact autoCancelStep_reads fun e he => ⟨0, List.mem_singleton.mp he⟩
  · exact autoCancelStep_reads fun e he => absurd he List.not_mem_nil
  · exact autoCancelStep_reads fun e he => absurd he List.not_mem_nil
  · exact autoCancelStep_reads fun e he => ⟨0, List.mem_singleton.mp he⟩
  · -- the job is queued
    refine ⟨fun id h => (by cases List.mem_singleton.mp h), fun id dueAt h row hrow _ deadline hdue => ?_,
      fun id now row h => (by cases List.mem_singleton.mp h),
      fun id h => (by cases List.mem_singleton.mp h)⟩
    obtain ⟨rfl, rfl⟩ := Event.extendedJobAdded.injEq .. ▸ Sum.inl.inj (List.mem_singleton.mp h)
    obtain rfl := Option.some.inj hrow
    obtain rfl := Option.some.inj hdue
    exact Nat.zero_le _
  · -- it is given out an hour later
    refine ⟨fun id h => ⟨extendedDeadlineMs, ⟨0, ?_⟩, le_rfl⟩,
      fun id dueAt h => (by cases List.mem_singleton.mp h),
      fun id now row h => (by cases List.mem_singleton.mp h),
      fun id h => (by cases List.mem_singleton.mp h)⟩
    obtain rfl := Event.extendedJobTaken.injEq .. ▸ Sum.inl.inj (List.mem_singleton.mp h)
    exact List.mem_of_getElem? (i := 2) rfl
  · exact ⟨fun id h => (by cases List.mem_singleton.mp h),
      fun id dueAt h => (by cases List.mem_singleton.mp h),
      fun id now row h => (by cases List.mem_singleton.mp h),
      fun id h => (by cases List.mem_singleton.mp h)⟩
  · have hseen : ∀ e ∈ ([.inl (.bookingEnded 7 false), .inr .attempted] : List (Event ⊕ Sight)),
        e = .inl (.bookingEnded 7 false) ∨ e = .inr .attempted := by simp
    refine ⟨fun id h => ?_, fun id dueAt h => ?_, fun id now row h => ?_, fun id h => ?_⟩
    all_goals rcases hseen _ h with h | h <;> cases h

/-- **The rider's hour is not waited for**: the job runs an hour after the deadline has passed, and gives
up a booking that the rider has extended. -/
theorem given_up_before_deadline :
    ¬ ∀ (w : World) (moves : List (Move AutoCancelOp Reply World)),
      History.Each (Pool.step autoCancelPool)
        (Pool.Meets autoCancelPool (fun _ _ x _ seen => GivenOutWhenDue x seen) ClockRuns)
        (autoCancelStart w) moves →
      History.Each (Pool.step autoCancelPool)
        (fun p move => CancelledInTime p.now.state (p.step autoCancelPool move).now.state)
        (autoCancelStart w) moves := by
  intro h
  have hcancel := h unansweredBooking (jobQueued ++ (extendedMeanwhile ++ jobRun 2)) ?_
  · -- the last step
    rw [← List.append_assoc] at hcancel
    have hlast := (History.each_append.mp hcancel).2.2.2.2.2.1
    obtain ⟨-, hdue⟩ := hlast 7 _ _ rfl rfl (fun h => by cases h) rfl
    exact absurd (hdue _ rfl) (by decide)
  · refine ⟨trivial, ?_, ?_, ?_, ?_, ?_, ?_, ?_, trivial, ?_, ?_, ?_, ?_, ?_, trivial, ?_, ?_, ?_, trivial⟩
    case refine_7 => exact Nat.zero_le _
    case refine_12 => exact (by decide : 60000 ≤ extendedDeadlineMs)
    all_goals rintro op rest ⟨⟩ b es s ⟨⟩ id h
    case refine_13 =>
      obtain rfl := Event.extendedJobTaken.injEq .. ▸ Sum.inl.inj (List.mem_singleton.mp h)
      exact ⟨extendedDeadlineMs, ⟨0, List.mem_of_getElem? (i := 2) rfl⟩, le_rfl⟩
    case refine_15 =>
      have hseen : ∀ e ∈ ([.inl (.bookingEnded 7 false), .inr .attempted] : List (Event ⊕ Sight)),
          e = .inl (.bookingEnded 7 false) ∨ e = .inr .attempted := by simp
      rcases hseen _ h with h | h <;> cases h
    all_goals first
      | exact absurd h List.not_mem_nil
      | cases List.mem_singleton.mp h

end Runs

end Deliivo

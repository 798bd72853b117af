import Deliivo.Domain.Leaves

/-!
# Transactions that fail on the way

A transaction that calls Stripe is no step: any statement in it can fail, any call to Stripe, and
the commit. What it has written until then is rolled back; what Stripe has done by then is not. An
answer can also be lost on the way back, after Stripe has done what it was asked, or after the commit.

## Main definitions

* `StripeTx.attempt`: a transaction, one reply for each step of it
* `Attempted`: the world with the log of a call
* `attemptWorld`: the machine on which services run

## Main results

* `StripeTx.attempt_committed`: a transaction that commits has taken place as one step
* `StripeTx.attempt_untouched`: one in which Stripe has done nothing leaves Stripe alone
-/

namespace Deliivo

/-! ## Transactions -/

/-- What comes of a transaction: the answer to the call, what has been committed, Stripe's books, and
whether Stripe has done anything in it. -/
structure TxOutcome (α : Type) where
  answer : Except Err α
  committed : Option (α × Db)
  stripe : Stripe
  took : Bool

/-- A transaction whose steps meet the replies one after the other, the commit last. A step that fails
ends it; none of the transactions catches. -/
def StripeTx.attempt {α : Type} : StripeTx α → List Reply → Db → Stripe → Bool → TxOutcome α
  | .ret a, .ok :: _, d, s, took => ⟨.ok a, some (a, d), s, took⟩
  | .ret a, .lost :: _, d, s, took => ⟨.error .unavailable, some (a, d), s, took⟩
  | .ret _, _, _, s, took => ⟨.error .unavailable, none, s, took⟩
  | .throw e, _, _, s, took => ⟨.error e, none, s, took⟩
  | .step (.stmt c) k, .ok :: replies, d, s, took =>
    StripeTx.attempt (k (c.answer d)) replies (c.write d d) s took
  | .step (.stmt _) _, _, _, s, took => ⟨.error .unavailable, none, s, took⟩
  | .step (.stripe request) k, .ok :: replies, d, s, took =>
    match request s with
    | .ok (b, s') => StripeTx.attempt (k (.ok b)) replies d s' true
    | .error e => StripeTx.attempt (k (.error e)) replies d s took
  | .step (.stripe request) _, .lost :: _, _, s, took =>
    match request s with
    | .ok (_, s') => ⟨.error .unavailable, none, s', true⟩
    | .error _ => ⟨.error .unavailable, none, s, took⟩
  | .step (.stripe _) _, _, _, s, took => ⟨.error .unavailable, none, s, took⟩

section Attempt

variable {α : Type} {body : StripeTx α} {replies : List Reply} {d d' : Db} {s : Stripe}
  {took : Bool}

/-- **A transaction that commits** has done what it does as one step. -/
theorem StripeTx.attempt_committed {a : α}
    (h : (body.attempt replies d s took).committed = some (a, d')) :
    body.atomic d s = (.ok (a, d'), (body.attempt replies d s took).stripe) := by
  induction body generalizing replies d s took with
  | ret b =>
    cases replies with
    | nil => cases h
    | cons i l =>
      cases i with
      | refused => cases h
      | ok | lost =>
        obtain ⟨rfl, rfl⟩ := Prod.mk.injEq .. ▸ Option.some.inj h
        rfl
  | throw e => cases h
  | step c k ih =>
    cases replies with
    | nil => cases c <;> cases h
    | cons i l =>
      cases c with
      | stmt c =>
        cases i with
        | refused | lost => cases h
        | ok => exact ih _ h
      | stripe request =>
        cases i with
        | refused => cases h
        | lost =>
          simp only [StripeTx.attempt] at h
          cases hr : request s <;> rw [hr] at h <;> cases h
        | ok =>
          simp only [StripeTx.attempt, StripeTx.atomic] at h ⊢
          cases hr : request s with
          | ok r =>
            simp only [hr] at h ⊢
            exact ih _ h
          | error e =>
            simp only [hr] at h ⊢
            exact ih _ h

/-- A transaction that has been answered as committed has been. -/
theorem StripeTx.attempt_ok {a : α} (h : (body.attempt replies d s took).answer = .ok a) :
    ∃ d', (body.attempt replies d s took).committed = some (a, d') := by
  induction body generalizing replies d s took with
  | ret b =>
    cases replies with
    | nil => cases h
    | cons i l =>
      cases i with
      | refused | lost => cases h
      | ok =>
        obtain rfl := Except.ok.inj h
        exact ⟨d, rfl⟩
  | throw e => cases h
  | step c k ih =>
    cases replies with
    | nil => cases c <;> cases h
    | cons i l =>
      cases c with
      | stmt c =>
        cases i with
        | refused | lost => cases h
        | ok => exact ih _ h
      | stripe request =>
        cases i with
        | refused => cases h
        | lost =>
          simp only [StripeTx.attempt] at h
          cases hr : request s <;> rw [hr] at h <;> cases h
        | ok =>
          simp only [StripeTx.attempt] at h ⊢
          cases hr : request s with
          | ok r =>
            simp only [hr] at h ⊢
            exact ih _ h
          | error e =>
            simp only [hr] at h ⊢
            exact ih _ h

/-- **Where Stripe has done nothing** its books are as they were. -/
theorem StripeTx.attempt_untouched (h : (body.attempt replies d s took).took = false) :
    took = false ∧ (body.attempt replies d s took).stripe = s := by
  induction body generalizing replies d s took with
  | ret b =>
    cases replies with
    | nil => exact ⟨h, rfl⟩
    | cons i l => cases i <;> exact ⟨h, rfl⟩
  | throw e => exact ⟨h, rfl⟩
  | step c k ih =>
    cases replies with
    | nil => cases c <;> exact ⟨h, rfl⟩
    | cons i l =>
      cases c with
      | stmt c =>
        cases i with
        | refused | lost => exact ⟨h, rfl⟩
        | ok => exact ih _ h
      | stripe request =>
        cases i with
        | refused => exact ⟨h, rfl⟩
        | lost =>
          simp only [StripeTx.attempt] at h ⊢
          cases hr : request s with
          | ok r =>
            simp only [hr] at h
            cases h
          | error e =>
            simp only [hr] at h ⊢
            exact ⟨h, trivial⟩
        | ok =>
          simp only [StripeTx.attempt] at h ⊢
          cases hr : request s with
          | ok r =>
            simp only [hr] at h
            cases (ih _ h).1
          | error e =>
            simp only [hr] at h ⊢
            exact ih _ h

end Attempt

/-! ## Calls -/

/-- The world, what a call has reported so far, and whether a transaction of it has been rolled back
in which Stripe had done something. -/
structure Attempted where
  world : World
  log : List Event := []
  undone : Bool := false

/-- One step of a service; the steps of a transaction that calls Stripe meet the replies one after the
other, and any other step meets the first. -/
def Call.attempt {β : Type} : Call β → List Reply → Attempted → β × List Event × Attempted
  | .transactWithStripe body report, replies, x =>
    let o := (body ⟨x.world.now, x.world.db.freshId⟩).attempt replies x.world.db x.world.stripe false
    let es := o.committed.elim [] fun r => report r.1
    (o.answer, es, {
      world := { x.world with db := o.committed.elim x.world.db Prod.snd, stripe := o.stripe }
      log := x.log ++ es
      undone := x.undone || (o.committed.isNone && o.took) })
  | c, replies, x =>
    let r := c.exec (replies.head?.getD .refused) x.world
    (r.1, r.2.1, { x with world := r.2.2, log := x.log ++ r.2.1 })

/-- The machine on which services run, every step of a transaction that calls Stripe a step. -/
def attemptWorld : Machine Call (List Reply) Event Attempted := ⟨Call.attempt⟩

section Steps

variable {α β : Type} {x : Attempted}

/-- A step that is no transaction with calls to Stripe. -/
def Call.Plain : Call α → Prop
  | .transactWithStripe _ _ => False
  | _ => True

theorem Call.attempt_plain {c : Call α} (h : c.Plain) (replies : List Reply) (x : Attempted) :
    c.attempt replies x = ((c.exec (replies.head?.getD .refused) x.world).1,
      (c.exec (replies.head?.getD .refused) x.world).2.1,
      { x with
        world := (c.exec (replies.head?.getD .refused) x.world).2.2
        log := x.log ++ (c.exec (replies.head?.getD .refused) x.world).2.1 }) := by
  cases c with
  | transactWithStripe body report => exact h.elim
  | transact | stripe | clock | randomUUID | note => rfl

end Steps

end Deliivo

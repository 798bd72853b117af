import Deliivo.Domain.Leaves
import Deliivo.Program.Confined
import Deliivo.Program.RelyGuarantee

/-!
# Services next to each other

The services of a pool share one world, and every step of a service, a transaction or a call to
Stripe, is one step of the pool.

## Main definitions

* `servicePool`: the pool of a family of operations

## Main results

* `exec_transact`, `exec_transactWithStripe`: what can become of a transaction
* `keeps_transact`: a transaction that commits, or throws and changes nothing
* `keeps_leaves`: a step that leaves a frame alone
-/

namespace Deliivo

open Program (Concurrent Logged Protocol)

variable {Op κ : Type}

/-- Services next to each other, over one world. -/
def servicePool (program : Op → Service Unit) (disturb : κ → World → World) :
    Concurrent Call Err Reply Event World κ Op where
  exec _ c i w := some (c.exec i w)
  disturb := disturb
  program := program

/-- Anything else that goes on: all of the world but the bookings. -/
def besidesBookings (w' w : World) : World :=
  { w' with db := { w'.db with bookings := w.db.bookings } }

/-- A logged world. -/
abbrev LoggedWorld := Logged Event World

@[simp] theorem next_nil (x : LoggedWorld) (tid : ℕ) : x.next tid [] x.state = x := by
  simp [Logged.next]

section Outcomes

variable {β : Type}

/-- A transaction commits what its body does, or changes nothing. -/
theorem exec_transact (body : Ctx → Tx β) (report : β → List Event) (i : Reply) (w : World) :
    (∃ b d, (body ⟨w.now, w.db.freshId⟩).atomic w.db = .ok (b, d) ∧
        (Call.transact body report).exec i w = (.ok b, report b, { w with db := d })) ∨
      ∃ e, (Call.transact body report).exec i w = (.error e, [], w) := by
  cases i with
  | refused | lost => exact Or.inr ⟨_, rfl⟩
  | ok =>
    simp only [Call.exec]
    cases hb : (body ⟨w.now, w.db.freshId⟩).atomic w.db with
    | error e => exact Or.inr ⟨e, rfl⟩
    | ok r => exact Or.inl ⟨r.1, r.2, rfl, rfl⟩

/-- One that calls Stripe may have changed Stripe even so. -/
theorem exec_transactWithStripe (body : Ctx → StripeTx β) (report : β → List Event) (i : Reply)
    (w : World) :
    (∃ b d s, (body ⟨w.now, w.db.freshId⟩).atomic w.db w.stripe = (.ok (b, d), s) ∧
        (Call.transactWithStripe body report).exec i w =
          (.ok b, report b, { w with db := d, stripe := s })) ∨
      ∃ e s, (Call.transactWithStripe body report).exec i w = (.error e, [], { w with stripe := s }) := by
  cases i with
  | refused | lost => exact Or.inr ⟨_, w.stripe, rfl⟩
  | ok =>
    simp only [Call.exec]
    rcases hb : (body ⟨w.now, w.db.freshId⟩).atomic w.db w.stripe with ⟨e | r, s⟩
    · exact Or.inr ⟨e, s, rfl⟩
    · exact Or.inl ⟨r.1, r.2, s, rfl, rfl⟩

end Outcomes

/-- What a step of the pool is. -/
theorem exec_eq {program : Op → Service Unit} {disturb : κ → World → World} {β : Type} {tid : ℕ}
    {c : Call β} {i : Reply} {w w' : World} {b : β} {es : List Event}
    (h : (servicePool program disturb).exec tid c i w = some (b, es, w')) :
    (c.exec i w).1 = b ∧ (c.exec i w).2.1 = es ∧ (c.exec i w).2.2 = w' := by
  have heq := Option.some.inj h
  rw [heq]
  exact ⟨rfl, rfl, rfl⟩

section Answers

variable {program : Op → Service Unit} {disturb : κ → World → World} {β : Type}

/-- What a transaction that returns has been answered. -/
theorem answers_transact {body : Ctx → Tx β} {report : β → List Event} {b : β}
    (h : Program.Pool.Answers (servicePool program disturb) (.transact body report) (.ok b)) :
    ∃ (w : World) (d : Db), (body ⟨w.now, w.db.freshId⟩).atomic w.db = .ok (b, d) := by
  obtain ⟨tid, i, w, es, w', hexec⟩ := h
  cases i with
  | refused | lost => simp [servicePool, Call.exec] at hexec
  | ok =>
    refine ⟨w, ?_⟩
    simp only [servicePool, Call.exec, Option.some.injEq] at hexec
    cases hb : (body ⟨w.now, w.db.freshId⟩).atomic w.db with
    | error e => simp [hb] at hexec
    | ok r =>
      rw [hb] at hexec
      obtain rfl : r.1 = b := by simpa using congrArg Prod.fst hexec
      exact ⟨r.2, rfl⟩

end Answers

section Keeps

variable {program : Op → Service Unit} {disturb : κ → World → World}
  {cond : Op → ℕ → LoggedWorld → Reply → List Event → Prop}
  {disturbance : κ → LoggedWorld → Prop}
  {P : Protocol (servicePool program disturb) cond disturbance}
  {op : Op} {tid : ℕ} {y : LoggedWorld} {β : Type}

/-- A transaction commits what its body does, or throws and leaves the world alone. -/
theorem keeps_transact {body : Ctx → Tx β} {report : β → List Event}
    {Q : Except Err β → LoggedWorld → Prop}
    (hok : ∀ b d, (body ⟨y.state.now, y.state.db.freshId⟩).atomic y.state.db = .ok (b, d) →
      cond op tid y .ok (report b) →
      let z := y.next tid (report b) { y.state with db := d }
      P.Guar tid y z ∧ P.Inv z ∧ Q (.ok b) z)
    (herr : ∀ i e, cond op tid y i [] →
      (i = .ok → (body ⟨y.state.now, y.state.db.freshId⟩).atomic y.state.db = .error e) →
      P.Guar tid y y ∧ P.Inv y ∧ Q (.error e) y) :
    P.Keeps op tid (.transact body report) y Q := by
  intro i b es s hexec hcond
  have hfail : ∀ e, (i = .ok →
      (body ⟨y.state.now, y.state.db.freshId⟩).atomic y.state.db = .error e) →
      (.error e, [], y.state) = (b, es, s) →
      P.Guar tid y (y.next tid es s) ∧ P.Inv (y.next tid es s) ∧ Q b (y.next tid es s) := by
    rintro e hi ⟨⟩
    rw [next_nil]
    exact herr i e hcond hi
  cases i with
  | refused | lost => exact hfail .unavailable (fun h => by cases h) (Option.some.inj hexec)
  | ok =>
    simp only [servicePool, Call.exec, Option.some.injEq] at hexec
    cases hb : (body ⟨y.state.now, y.state.db.freshId⟩).atomic y.state.db with
    | error e =>
      rw [hb] at hexec
      exact hfail e (fun _ => hb) hexec
    | ok r =>
      rw [hb] at hexec
      obtain ⟨rfl, rfl, rfl⟩ := (Prod.mk.injEq .. ▸ hexec : _ ∧ _).imp id (Prod.mk.injEq .. ▸ ·)
      exact hok r.1 r.2 hb hcond

/-- A step that leaves a frame alone and reports only its events. -/
theorem keeps_leaves {F : Frame} {c : Call β} {Q : β → LoggedWorld → Prop} (h : c.Leaves F)
    (hQ : ∀ i b es s, F.db s.db = F.db y.state.db → F.stripe s.stripe = F.stripe y.state.stripe →
      (∀ e ∈ es, F.events e) → cond op tid y i es →
      P.Guar tid y (y.next tid es s) ∧ P.Inv (y.next tid es s) ∧ Q b (y.next tid es s)) :
    P.Keeps op tid c y Q := by
  intro i b es s hexec hcond
  obtain ⟨rfl, rfl, rfl⟩ : (c.exec i y.state).1 = b ∧ (c.exec i y.state).2.1 = es ∧
      (c.exec i y.state).2.2 = s := by
    have := Option.some.inj hexec
    rw [this]
    exact ⟨rfl, rfl, rfl⟩
  obtain ⟨hdb, hstripe, hevents⟩ := h.exec i y.state
  exact hQ _ _ _ _ hdb hstripe hevents hcond

end Keeps

end Deliivo

import Deliivo.Domain.World

/-!
# Services without their records

What a service reports, and what it notes of how far it has come, changes nothing that it does. Two
services that are the same program once their records are left out do the same, and one of them may be
read in place of the other where more of its steps are to be seen.

## Main definitions

* `Call.unrecorded`, `Service.unrecorded`: a step and a service without their records

## Main results

* `unrecorded_bind`, `unrecorded_note_bind` and so on: the rules of programs
* `eval_unrecorded`: the same outcome, in the same world
-/

namespace Deliivo

variable {α β : Type}

/-- A step that reports nothing; a note is no step at all. -/
def Call.unrecorded {β : Type} : Call β → Service β
  | .transact body _ => Program.command (.transact body fun _ => [])
  | .transactWithStripe body _ => Program.command (.transactWithStripe body fun _ => [])
  | .stripe request _ => Program.command (.stripe request fun _ => [])
  | .clock => Program.command .clock
  | .randomUUID => Program.command .randomUUID
  | .note _ => return ()

/-- A service without what it reports and notes. -/
def Service.unrecorded (p : Service α) : Service α := p.translate Call.unrecorded

namespace Service

@[simp] theorem unrecorded_ret (a : α) : Service.unrecorded (.ret a) = .ret a := rfl

@[simp] theorem unrecorded_throw (e : Err) :
    Service.unrecorded (.throw e : Service α) = .throw e := rfl

@[simp] theorem unrecorded_bind (p : Service α) (f : α → Service β) :
    Service.unrecorded (p.bind f) = p.unrecorded.bind fun a => (f a).unrecorded := by
  induction p with
  | ret a => rfl
  | throw e => rfl
  | step c k ih =>
    simp only [unrecorded, Program.step_bind, Program.translate] at ih ⊢
    rw [Program.bind_assoc]
    exact congrArg _ (funext ih)

/-- What is noted on the way is left out. -/
@[simp] theorem unrecorded_note_bind (events : List Event) (f : Unit → Service β) :
    Service.unrecorded ((Program.command (.note events)).bind f) = (f ()).unrecorded := rfl

@[simp] theorem unrecorded_ofExcept (r : Except Err α) :
    Service.unrecorded (Program.ofExcept r) = Program.ofExcept r := by
  cases r <;> rfl

/-- A transaction without its report. -/
@[simp] theorem unrecorded_perform_transact (body : Ctx → Tx β) (report : β → List Event) :
    Service.unrecorded (Program.perform (.transact body report)) = transaction body :=
  congrArg (Program.step _) (funext unrecorded_ofExcept)

@[simp] theorem unrecorded_transaction (body : Ctx → Tx β) :
    (transaction body).unrecorded = transaction body := unrecorded_perform_transact body _

@[simp] theorem unrecorded_sql (s : Stmt β) : (sql s).unrecorded = sql s :=
  unrecorded_transaction _

/-- **Nothing else is left out**: a service that runs alone does what it does without its records. -/
theorem eval_unrecorded (p : Service α) (w : World) : p.unrecorded.eval w = p.eval w := by
  induction p generalizing w with
  | ret a => rfl
  | throw e => rfl
  | step c k ih =>
    have hstep : ∀ {γ : Type} (c : Call γ) (k : γ → Service α),
        Service.eval (.step c k) w = (k (c.exec .ok w).1).eval (c.exec .ok w).2.2 := fun _ _ => rfl
    cases c with
    | transact body report =>
      refine (hstep _ _).trans ((ih _ _).trans ?_)
      rw [hstep]
      simp only [Call.exec]
      cases (body ⟨w.now, w.db.freshId⟩).atomic w.db <;> rfl
    | transactWithStripe body report =>
      refine (hstep _ _).trans ((ih _ _).trans ?_)
      rw [hstep]
      simp only [Call.exec]
      rcases (body ⟨w.now, w.db.freshId⟩).atomic w.db w.stripe with ⟨e | r, s⟩ <;> rfl
    | stripe request report =>
      refine (hstep _ _).trans ((ih _ _).trans ?_)
      rw [hstep]
      simp only [Call.exec]
      cases request w.stripe <;> rfl
    | clock | randomUUID => exact (hstep _ _).trans (ih _ _)
    | note events => exact ih _ _

end Service

end Deliivo

import Deliivo.Domain.World

/-!
# What services preserve

The rules for properties of the world that a service keeps whatever the environment makes of its
steps: a transaction keeps what its commit keeps.

## Main results

* `Tx.atomic_bind`: a transaction in two parts
* `Service.wp_transact`: a transaction that commits, or throws and changes nothing
* `Service.preserves_transact`, `Service.preserves_sql`, `Service.preserves_update`
-/

namespace Deliivo

/-- A transaction in two parts commits what the second part makes of what the first has written. -/
theorem Tx.atomic_bind {α β : Type} {p : Tx α} {f : α → Tx β} {d d' : Db} {b : β} :
    Tx.atomic (p.bind f) d = .ok (b, d') ↔
      ∃ a d₁, p.atomic d = .ok (a, d₁) ∧ (f a).atomic d₁ = .ok (b, d') := by
  induction p generalizing d with
  | ret a =>
    constructor
    · intro h
      exact ⟨a, d, rfl, h⟩
    · rintro ⟨a', d₁, h, hf⟩
      obtain ⟨rfl, rfl⟩ := Prod.mk.injEq .. ▸ Except.ok.inj h
      exact hf
  | throw e => simp [Tx.atomic]
  | step c k ih => exact ih _

/-- One statement that can throw. -/
theorem Tx.atomic_perform {α : Type} {c : Stmt (Except Err α)} {d d' : Db} {a : α} :
    Tx.atomic (Program.perform c) d = .ok (a, d') ↔ c.answer d = .ok a ∧ d' = c.write d d := by
  simp only [Program.perform, Tx.atomic]
  cases h : c.answer d with
  | error e => simp [Tx.atomic]
  | ok b =>
    simp only [Program.ofExcept_ok, Tx.atomic, Except.ok.injEq, Prod.mk.injEq]
    exact and_congr_right fun _ => eq_comm

/-- The same of a transaction that calls Stripe. -/
theorem StripeTx.atomic_bind {α β : Type} {p : StripeTx α} {f : α → StripeTx β} {d d' : Db}
    {s s' : Stripe} {b : β} :
    StripeTx.atomic (p.bind f) d s = (.ok (b, d'), s') ↔
      ∃ a d₁ s₁, p.atomic d s = (.ok (a, d₁), s₁) ∧ (f a).atomic d₁ s₁ = (.ok (b, d'), s') := by
  induction p generalizing d s with
  | ret a =>
    constructor
    · intro h
      exact ⟨a, d, s, rfl, h⟩
    · rintro ⟨a', d₁, s₁, h, hf⟩
      obtain ⟨heq, rfl⟩ := Prod.mk.injEq .. ▸ h
      obtain ⟨rfl, rfl⟩ := Prod.mk.injEq .. ▸ Except.ok.inj heq
      exact hf
  | throw e => simp [StripeTx.atomic]
  | step c k ih =>
    cases c with
    | stmt c => exact ih _
    | stripe request =>
      simp only [Program.step_bind, StripeTx.atomic]
      cases request s with
      | ok r => exact ih _
      | error e => exact ih _

/-- What every call to Stripe keeps, a transaction keeps of Stripe whether or not it commits. -/
theorem StripeTx.atomic_keeps {α : Type} {I : Stripe → Prop} {p : StripeTx α}
    (h : p.Issues fun {_} c => match c with
      | .stmt _ => True
      | .stripe request => ∀ s b s', I s → request s = .ok (b, s') → I s')
    {d : Db} {s : Stripe} (hs : I s) : I (p.atomic d s).2 := by
  induction p generalizing d s with
  | ret a => exact hs
  | throw e => exact hs
  | step c k ih =>
    cases c with
    | stmt c => exact ih _ (h.2 _) hs
    | stripe request =>
      simp only [StripeTx.atomic]
      cases hr : request s with
      | ok r => exact ih _ (h.2 _) (h.1 s r.1 r.2 hs hr)
      | error e => exact ih _ (h.2 _) hs

/-- What every statement keeps of the database, a transaction keeps. -/
theorem Tx.atomic_keeps {α : Type} {I : Db → Prop} {p : Tx α}
    (h : p.Issues fun {_} c => ∀ d, I d → I (c.write d d)) {d d' : Db} {a : α} (hd : I d)
    (hrun : p.atomic d = .ok (a, d')) : I d' := by
  induction p generalizing d with
  | ret a =>
    obtain ⟨-, rfl⟩ := Prod.mk.injEq .. ▸ Except.ok.inj hrun
    exact hd
  | throw e => cases hrun
  | step c k ih => exact ih _ (h.2 _) (h.1 d hd) hrun

/-- The same of a transaction that calls Stripe and commits. -/
theorem StripeTx.atomic_keeps_db {α : Type} {I : Db → Prop} {p : StripeTx α}
    (h : p.Issues fun {_} c => match c with
      | .stmt s => ∀ d, I d → I (s.write d d)
      | .stripe _ => True)
    {d d' : Db} {s s' : Stripe} {a : α} (hd : I d)
    (hrun : p.atomic d s = (.ok (a, d'), s')) : I d' := by
  induction p generalizing d s with
  | ret a =>
    obtain ⟨heq, -⟩ := Prod.mk.injEq .. ▸ hrun
    obtain ⟨-, rfl⟩ := Prod.mk.injEq .. ▸ Except.ok.inj heq
    exact hd
  | throw e => cases hrun
  | step c k ih =>
    cases c with
    | stmt c => exact ih _ (h.2 _) (h.1 d hd) hrun
    | stripe request =>
      simp only [StripeTx.atomic] at hrun
      cases hr : request s with
      | ok r =>
        rw [hr] at hrun
        exact ih _ (h.2 _) hd hrun
      | error e =>
        rw [hr] at hrun
        exact ih _ (h.2 _) hd hrun

/-- A transaction as part of one that calls Stripe. -/
theorem Tx.atomic_lift {α : Type} (p : Tx α) (d : Db) (s : Stripe) :
    (Tx.lift p).atomic d s = (p.atomic d, s) := by
  induction p generalizing d with
  | ret a => rfl
  | throw e => rfl
  | step c k ih => exact ih _ _

namespace Service

variable {β : Type} {w : World} {body : Ctx → Tx β} {report : β → List Event}

/-- A transaction commits what its body does, or throws and leaves the world alone. -/
theorem wp_transact {Q : Except Err β → World → Prop}
    (hok : ∀ b d, (body ⟨w.now, w.db.freshId⟩).atomic w.db = .ok (b, d) →
      Q (.ok b) { w with db := d })
    (herr : ∀ e, Q (.error e) w) :
    (Program.perform (.transact body report)).Wp world Q w := by
  intro i
  cases i with
  | refused | lost => exact herr .unavailable
  | ok =>
    simp only [world, Call.exec]
    cases h : (body ⟨w.now, w.db.freshId⟩).atomic w.db with
    | error e => exact herr e
    | ok r => exact hok r.1 r.2 h

variable {I : World → Prop}

theorem preserves_transact
    (h : ∀ w b d, I w → (body ⟨w.now, w.db.freshId⟩).atomic w.db = .ok (b, d) →
      I { w with db := d }) :
    (Program.perform (.transact body report)).Preserves world I := by
  intro w hw
  exact wp_transact (fun b d hbody => h w b d hw hbody) fun _ => hw

theorem preserves_sql {s : Stmt β} (h : ∀ w, I w → I { w with db := s.write w.db w.db }) :
    (sql s).Preserves world I := by
  refine preserves_transact fun w b d hw hbody => ?_
  obtain ⟨-, rfl⟩ := Prod.mk.injEq .. ▸ Except.ok.inj hbody
  exact h w hw

/-- A write of one row finds the row and answers with it as written. -/
theorem atomic_update {ρ : Type} {T : TableRef ρ} {id : ℕ} {f : ρ → ρ} {d d' : Db} {r' : ρ}
    (h : Tx.atomic (Program.perform (update T id f)) d = .ok (r', d')) :
    ∃ r, (T.get d).get? id = some r ∧ r' = f r ∧ d' = T.set d ((T.get d).modify id f) := by
  simp only [Program.perform, Tx.atomic, update] at h
  cases hr : (T.get d).get? id with
  | none => simp [hr, Tx.atomic] at h
  | some row =>
    simp only [hr, Option.elim_some, Program.ofExcept_ok, Tx.atomic, Except.ok.injEq,
      Prod.mk.injEq] at h
    exact ⟨row, rfl, h.1.symm, h.2.symm⟩

/-- A write of a row that is there. -/
theorem atomic_update_of_some {ρ : Type} {T : TableRef ρ} {id : ℕ} {d : Db} {r : ρ}
    (h : (T.get d).get? id = some r) (f : ρ → ρ) :
    Tx.atomic (Program.perform (update T id f)) d = .ok (f r, T.set d ((T.get d).modify id f)) := by
  simp only [Program.perform, Tx.atomic, update, h, Option.elim_some, Program.ofExcept_ok]

/-- A deletion that takes place: the row that was there is gone. -/
theorem atomic_deleteUnique {ρ : Type} {T : TableRef ρ} {id : ℕ} {d d' : Db} {r : ρ}
    (h : Tx.atomic (Program.perform (deleteUnique T id)) d = .ok (r, d')) :
    (T.get d).get? id = some r ∧ d' = T.set d ((T.get d).deleteWhere fun id' _ => id' == id) := by
  simp only [Program.perform, Tx.atomic, deleteUnique] at h
  cases hr : (T.get d).get? id with
  | none => simp [hr, Tx.atomic] at h
  | some row =>
    simp only [hr, Option.elim_some, Program.ofExcept_ok, Tx.atomic, Except.ok.injEq,
      Prod.mk.injEq] at h
    exact ⟨congrArg some h.1, h.2.symm⟩

/-- A read that throws where there is no row. -/
theorem atomic_findUniqueOrThrow {ρ : Type} {T : TableRef ρ} {id : ℕ} {d d' : Db} {r : ρ}
    (h : Tx.atomic (Program.perform (findUniqueOrThrow T id)) d = .ok (r, d')) :
    (T.get d).get? id = some r ∧ d' = d := by
  simp only [Program.perform, Tx.atomic, findUniqueOrThrow] at h
  cases hr : (T.get d).get? id with
  | none => simp [hr, Tx.atomic] at h
  | some row =>
    simp only [hr, Option.elim_some, Program.ofExcept_ok, Tx.atomic, Except.ok.injEq,
      Prod.mk.injEq] at h
    exact ⟨congrArg some h.1, h.2.symm⟩

theorem preserves_update {ρ : Type} {T : TableRef ρ} {id : ℕ} {f : ρ → ρ}
    (h : ∀ w, I w → I { w with db := T.set w.db ((T.get w.db).modify id f) }) :
    (sqlOrThrow (update T id f)).Preserves world I := by
  refine preserves_transact fun w b d hw hbody => ?_
  obtain ⟨-, -, -, rfl⟩ := atomic_update hbody
  exact h w hw

theorem preserves_notify : notify.Preserves world I := preserves_sql fun _ hw => hw

end Service

end Deliivo

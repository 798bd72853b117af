import Deliivo.Domain.World
import Deliivo.Program.Straight

/-!
# Straight runs of services

A service runs straight if its steps succeed one after the other; a step that the environment
refuses throws `Err.unavailable` and has no effect. Database steps are of this kind; a call to
Stripe is not, since its answer may be lost after it has taken place.
-/

namespace Deliivo

/-- `p` runs straight from `w` to `w'`, issuing its steps in the worlds `l` and returning `a`. -/
abbrev Service.Straight {α : Type} (p : Service α) (w : World) (l : List World) (a : α)
    (w' : World) : Prop :=
  Program.Straight world .ok .unavailable p w l a w'

namespace Service

variable {α β : Type} {w w' : World}

theorem straight_transact {body : Ctx → Tx β} {report : β → List Event} {b : β} {d : Db}
    (h : (body ⟨w.now, w.db.freshId⟩).atomic w.db = .ok (b, d)) :
    Service.Straight (Program.perform (.transact body report)) w [w] b { w with db := d } := by
  have hexec : world.exec (.transact body report) .ok w =
      (.ok b, report b, { w with db := d }) := by
    simp only [world, Call.exec, h]
  refine .step hexec ?_ (.ret _ _)
  intro i hi
  refine ⟨.error .unavailable, [], ?_, rfl⟩
  cases i with
  | ok => exact absurd rfl hi
  | refused | lost => rfl

theorem straight_sql (s : Stmt β) (w : World) :
    (sql s).Straight w [w] (s.answer w.db) { w with db := s.write w.db w.db } :=
  straight_transact rfl

theorem straight_findUnique {ρ : Type} (T : TableRef ρ) (id : ℕ) (w : World) :
    (sql (findUnique T id)).Straight w [w] ((T.get w.db).get? id) w :=
  straight_sql _ w

theorem straight_sqlOrThrow {s : Stmt (Except Err β)} {b : β} (h : s.answer w.db = .ok b) :
    (sqlOrThrow s).Straight w [w] b { w with db := s.write w.db w.db } :=
  straight_transact (by simp only [Program.perform, Tx.atomic, h, Program.ofExcept_ok])

theorem straight_update {ρ : Type} {T : TableRef ρ} {id : ℕ} {r : ρ}
    (h : (T.get w.db).get? id = some r) (f : ρ → ρ) :
    (sqlOrThrow (update T id f)).Straight w [w] (f r)
      { w with db := T.set w.db ((T.get w.db).modify id f) } :=
  straight_sqlOrThrow (by simp [update, h])

theorem eval_update_none {ρ : Type} {T : TableRef ρ} {id : ℕ} (h : (T.get w.db).get? id = none)
    (f : ρ → ρ) : (sqlOrThrow (update T id f)).eval w = (.error .notFound, w) :=
  eval_sqlOrThrow_error (by simp [update, h])

end Service

end Deliivo

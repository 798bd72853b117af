import Deliivo.Domain.Pool
import Deliivo.Program.Undisturbed

/-!
# A service by itself

The rules for what one service does by itself, if the other moves change the world in some ways only.

## Main results

* `undisturbed_leaves`: a part that leaves a frame alone
* `undisturbed_sql`: a statement that only reads
-/

namespace Deliivo

open Program (Undisturbed)

variable {Op κ α β : Type} {program : Op → Service Unit} {disturb : κ → World → World}
  {R : LoggedWorld → LoggedWorld → Prop} {C : LoggedWorld → List Event → Prop} {tid : ℕ}
  {x : LoggedWorld}

/-- A part that leaves a frame alone keeps an assertion about the frame. -/
theorem undisturbed_leaves {F : Frame} {A : LoggedWorld → Prop} {p : Service α} (h : p.Leaves F)
    (hC : ∀ y es, (∀ e ∈ es, F.events e) → C y es)
    (hA : ∀ y es s, (∀ e ∈ es, F.events e) → F.db s.db = F.db y.state.db → A y →
      A (y.next tid es s))
    (hR : ∀ y z, A y → R y z → A z) (hx : A x) :
    Undisturbed (servicePool program disturb) R C tid (fun _ => A) p x := by
  refine .issues hR (h.mono fun c hc y hy i b es s hexec => ?_) hx
  obtain ⟨rfl, rfl, rfl⟩ := exec_eq hexec
  obtain ⟨hdb, -, hevents⟩ := hc.exec i y.state
  exact ⟨hC y _ hevents, hA y _ _ hevents hdb hy⟩

/-- A statement that only reads is answered from the state that the others have left, or fails. -/
theorem undisturbed_sql {s : Stmt β} {Q : Except Err β → LoggedWorld → Prop}
    (hwrite : ∀ d, s.write d d = d) (hC : ∀ y, C y [])
    (hok : ∀ y, R x y → Q (.ok (s.answer y.state.db)) y) (herr : ∀ e y, Q (.error e) y) :
    Undisturbed (servicePool program disturb) R C tid Q (sql s) x := by
  refine .perform fun y hy i r es w hexec => ?_
  obtain ⟨rfl, rfl, rfl⟩ := exec_eq hexec
  obtain ⟨b, d, hbody, heq⟩ | ⟨e, heq⟩ := exec_transact (fun _ => Program.command s) (fun _ => []) i
    y.state
  · obtain ⟨rfl, rfl⟩ := Prod.mk.injEq .. ▸ Except.ok.inj hbody
    rw [heq, hwrite, next_nil]
    exact ⟨hC y, hok y hy⟩
  · rw [heq, next_nil]
    exact ⟨hC y, herr e y⟩

end Deliivo

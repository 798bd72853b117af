import Deliivo.Domain.World

/-!
# What services leave alone

A frame is a part of the database, a part of Stripe and a set of events. `Leaves F` says that no
step of a service, whatever it is answered, changes the two parts, and that the service reports
only those events. It is read off the text of the service, so it holds of its runs alone and next
to others.

## Main definitions

* `Frame`: a part of the database, a part of Stripe and a set of events
* `Stmt.Leaves`, `Tx.Leaves`, `Service.Leaves`
* `TableRef.Apart`: writing the table leaves the part alone

## Main results

* `Call.Leaves.exec`: what one step does
* `Service.Leaves.preserves`: what only depends on the part is preserved by a service that leaves
  it alone
-/

namespace Deliivo

/-- What a service is to leave alone, and the events that it may report. -/
structure Frame where
  {φ ψ : Type}
  db : Db → φ
  stripe : Stripe → ψ
  events : Event → Prop := fun _ => True

/-- The frame of a part of the database alone. -/
def Frame.ofDb {φ : Type} (get : Db → φ) : Frame where
  db := get
  stripe _ := ()

variable {α β φ ρ : Type} {get : Db → φ} {F : Frame}

/-! ## Statements -/

/-- The statement does not change the part `get` of the database. -/
def Stmt.Leaves (get : Db → φ) (s : Stmt β) : Prop := ∀ seen d, get (s.write seen d) = get d

/-- Writing the table does not change the part `get` of the database. -/
def TableRef.Apart (T : TableRef ρ) (get : Db → φ) : Prop := ∀ d t, get (T.set d t) = get d

section Statements

variable {T : TableRef ρ}

theorem leaves_read {s : Stmt β} (h : s.write = fun _ d => d) : s.Leaves get := by
  intro seen d
  rw [h]

@[simp] theorem leaves_findUnique (id : ℕ) : (findUnique T id).Leaves get := fun _ _ => rfl

@[simp] theorem leaves_findUniqueOrThrow (id : ℕ) : (findUniqueOrThrow T id).Leaves get :=
  fun _ _ => rfl

@[simp] theorem leaves_findMany (P : ℕ → ρ → Bool) : (findMany T P).Leaves get := fun _ _ => rfl

@[simp] theorem leaves_findFirst (P : ℕ → ρ → Bool) : (findFirst T P).Leaves get := fun _ _ => rfl

theorem TableRef.Apart.update (h : T.Apart get) (id : ℕ) (f : ρ → ρ) :
    (Deliivo.update T id f).Leaves get := fun _ _ => h _ _

theorem TableRef.Apart.updateMany (h : T.Apart get) (P : ℕ → ρ → Bool) (f : ρ → ρ) :
    (Deliivo.updateMany T P f).Leaves get := fun _ _ => h _ _

theorem TableRef.Apart.create (h : T.Apart get) (id : ℕ) (r : ρ) :
    (Deliivo.create T id r).Leaves get := fun _ _ => h _ _

end Statements

/-! ## Transactions and services -/

/-- No statement of the transaction changes the part. -/
abbrev Tx.Leaves (get : Db → φ) (body : Tx α) : Prop := body.Issues (Stmt.Leaves get)

/-- A request leaves a part of Stripe alone where it takes place. -/
def RequestLeaves {ψ : Type} (keep : Stripe → ψ) (request : Stripe → Except Err (β × Stripe)) :
    Prop := ∀ s b s', request s = .ok (b, s') → keep s' = keep s

/-- A command of a transaction that calls Stripe leaves the frame alone. -/
def TxCall.Leaves (F : Frame) : TxCall β → Prop
  | .stmt s => s.Leaves F.db
  | .stripe request => RequestLeaves F.stripe request

/-- A step of a service leaves the frame alone, and reports only its events. -/
def Call.Leaves (F : Frame) : Call β → Prop
  | .transact body report => (∀ ctx, (body ctx).Leaves F.db) ∧ ∀ b, ∀ e ∈ report b, F.events e
  | .transactWithStripe body report =>
    (∀ ctx, (body ctx).Issues (TxCall.Leaves F)) ∧ ∀ b, ∀ e ∈ report b, F.events e
  | .stripe request report => RequestLeaves F.stripe request ∧ ∀ b, ∀ e ∈ report b, F.events e
  | .clock | .randomUUID => True
  | .note events => ∀ e ∈ events, F.events e

/-- Every step of the service leaves the frame alone and reports only its events. -/
abbrev Service.Leaves (F : Frame) (p : Service α) : Prop := p.Issues (Call.Leaves F)

theorem Tx.Leaves.atomic {body : Tx α} (h : body.Leaves get) {d d' : Db} {a : α}
    (hrun : body.atomic d = .ok (a, d')) : get d' = get d := by
  induction body generalizing d with
  | ret a =>
    obtain ⟨-, rfl⟩ := Prod.mk.injEq .. ▸ Except.ok.inj hrun
    rfl
  | throw e => simp [Tx.atomic] at hrun
  | step c k ih => exact (ih _ (h.2 _) hrun).trans (h.1 _ _)

theorem StripeTx.Leaves.atomic {body : StripeTx α} (h : body.Issues (TxCall.Leaves F))
    {d : Db} {s s' : Stripe} {r : Except Err (α × Db)} (hrun : body.atomic d s = (r, s')) :
    (∀ a d', r = .ok (a, d') → F.db d' = F.db d) ∧ F.stripe s' = F.stripe s := by
  induction body generalizing d s with
  | ret a =>
    obtain ⟨rfl, rfl⟩ := Prod.mk.injEq .. ▸ hrun
    refine ⟨fun a' d' h => ?_, rfl⟩
    obtain ⟨-, rfl⟩ := Prod.mk.injEq .. ▸ Except.ok.inj h
    rfl
  | throw e =>
    obtain ⟨rfl, rfl⟩ := Prod.mk.injEq .. ▸ hrun
    exact ⟨fun _ _ h => (by cases h), rfl⟩
  | step c k ih =>
    cases c with
    | stmt c =>
      obtain ⟨hdb, hstripe⟩ := ih _ (h.2 _) hrun
      exact ⟨fun a d' hr => (hdb a d' hr).trans (h.1 _ _), hstripe⟩
    | stripe request =>
      simp only [StripeTx.atomic] at hrun
      cases hr : request s with
      | ok r =>
        simp only [hr] at hrun
        obtain ⟨hdb, hstripe⟩ := ih _ (h.2 _) hrun
        exact ⟨hdb, hstripe.trans (h.1 _ _ _ hr)⟩
      | error e =>
        simp only [hr] at hrun
        exact ih _ (h.2 _) hrun

/-- One step of a service, whatever the environment makes of it. -/
theorem Call.Leaves.exec {c : Call β} (h : c.Leaves F) (i : Reply) (w : World) :
    F.db (c.exec i w).2.2.db = F.db w.db ∧ F.stripe (c.exec i w).2.2.stripe = F.stripe w.stripe ∧
      ∀ e ∈ (c.exec i w).2.1, F.events e := by
  have hnone : ∀ e ∈ ([] : List Event), F.events e := fun e he => absurd he List.not_mem_nil
  cases c with
  | transact body report =>
    cases i with
    | refused | lost => exact ⟨rfl, rfl, hnone⟩
    | ok =>
      simp only [Call.exec]
      cases hb : (body ⟨w.now, w.db.freshId⟩).atomic w.db with
      | error e => exact ⟨rfl, rfl, hnone⟩
      | ok r => exact ⟨(h.1 _).atomic hb, rfl, h.2 r.1⟩
  | transactWithStripe body report =>
    cases i with
    | refused | lost => exact ⟨rfl, rfl, hnone⟩
    | ok =>
      simp only [Call.exec]
      rcases hb : (body ⟨w.now, w.db.freshId⟩).atomic w.db w.stripe with ⟨r | r, s⟩
      · exact ⟨rfl, (StripeTx.Leaves.atomic (h.1 _) hb).2, hnone⟩
      · obtain ⟨hdb, hstripe⟩ := StripeTx.Leaves.atomic (h.1 _) hb
        exact ⟨hdb _ _ rfl, hstripe, h.2 r.1⟩
  | stripe request report =>
    cases i with
    | refused => exact ⟨rfl, rfl, hnone⟩
    | ok | lost =>
      simp only [Call.exec]
      cases hr : request w.stripe with
      | error e => exact ⟨rfl, rfl, hnone⟩
      | ok r => exact ⟨rfl, h.1 _ _ _ hr, h.2 r.1⟩
  | clock | randomUUID => exact ⟨rfl, rfl, hnone⟩
  | note events => exact ⟨rfl, rfl, h⟩

/-- What only depends on a part of the database that a service leaves alone is preserved by it. -/
theorem Service.Leaves.preserves {p : Service α} (h : p.Leaves F) (I : F.φ → Prop) :
    p.Preserves world fun w => I (F.db w.db) := by
  induction p with
  | ret a => exact Program.preserves_ret a
  | throw e => exact Program.preserves_throw e
  | step c k ih =>
    intro w hw i
    have hsame : F.db (world.exec c i w).2.2.db = F.db w.db := (h.1.exec i w).1
    refine ih _ (h.2 _) _ ?_
    show I _
    rw [hsame]
    exact hw

section Service

theorem leaves_transaction {body : Ctx → Tx β} (h : ∀ ctx, (body ctx).Leaves F.db) :
    (transaction body).Leaves F :=
  (Program.issues_perform _).mpr ⟨h, fun _ _ he => absurd he List.not_mem_nil⟩

theorem leaves_sql {s : Stmt β} (h : s.Leaves F.db) : (sql s).Leaves F :=
  leaves_transaction fun _ => (Program.issues_command _).mpr h

theorem leaves_sqlOrThrow {s : Stmt (Except Err β)} (h : s.Leaves F.db) :
    (sqlOrThrow s).Leaves F :=
  leaves_transaction fun _ => (Program.issues_perform _).mpr h

@[simp] theorem leaves_notify : notify.Leaves F := leaves_sql fun _ _ => rfl

theorem leaves_stripe {request : Stripe → Except Err (β × Stripe)}
    (h : RequestLeaves F.stripe request) :
    Service.Leaves F (Program.perform (.stripe request fun _ => [])) :=
  (Program.issues_perform _).mpr ⟨h, fun _ _ he => absurd he List.not_mem_nil⟩

end Service

end Deliivo

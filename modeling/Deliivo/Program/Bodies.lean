import Deliivo.Program.Promises

/-!
# Bodies of transactions

What a transaction under way amounts to is the rows that it has locked and what it has written, a
function that is applied to whatever is committed when it commits. The body is judged from there,
statement by statement: before each of them the others may have changed the committed database, but for
what the locked rows protect.

A transaction is *ready* if it may be committed as it stands. Statements that nobody can tell from doing
nothing keep it ready; between two states in which it is ready, it is for the model to say what is
written.

## Main definitions

* `handle`: run a program and hand on how it has ended
* `Guarded`: what every commit keeps, with what it takes to compose it
* `Guarded.Elapse`: what the others may do while some rows are locked
* `Underway`: the rows that are locked and what is written
* `Guarded.Body`: the judgement of bodies
* `Guarded.Relates`: what is written relates what is committed to what the transaction sees
* `Guarded.Ready`: a transaction that may be committed

## Main results

* `bind_eq_handle`, `tryCatch_eq_handle`: sequences and handlers hand on
* `Body.command_bind`, `Body.perform_bind`, `Body.bind`, `Body.sequence`, `Body.frame`, `Body.relates`,
  `Body.quiet`: the rules of bodies
* `Body.safe`: what is judged so is safe on a server
* `safe_transaction_of_body`: the rule of a transaction
-/

universe u

namespace Program

/-! ## What a program hands on -/

section Handle

variable {F : Type → Type u} {ε ε' ι η σ κ Op α β : Type}

/-- Run `p` and hand on what it returns or throws. -/
def handle : Program F ε α → (Except ε α → Program F ε' β) → Program F ε' β
  | ret a, k => k (.ok a)
  | throw e, k => k (.error e)
  | step c k', k => step c fun b => (k' b).handle k

theorem bind_eq_handle (p : Program F ε α) (f : α → Program F ε β) :
    p.bind f = p.handle fun r => match r with
      | .ok a => f a
      | .error e => throw e := by
  induction p with
  | ret a | throw e => rfl
  | step c k ih => simp only [step_bind, handle, ih]

theorem tryCatch_eq_handle (p : Program F ε α) (h : ε → Program F ε α) :
    p.tryCatch h = p.handle fun r => match r with
      | .ok a => ret a
      | .error e => h e := by
  induction p with
  | ret a | throw e => rfl
  | step c k ih => simp only [tryCatch_step, handle, ih]

theorem handle_ofExcept (p : Program F ε α) : p.handle ofExcept = p := by
  induction p with
  | ret a | throw e => rfl
  | step c k ih => simp only [handle, ih]

theorem Protocol.Safe.handle {S : Concurrent F ε ι η σ κ Op}
    {cond : Op → ℕ → Logged η σ → ι → List η → Prop} {disturbance : κ → Logged η σ → Prop}
    {P : Protocol S cond disturbance} {op : Op} {tid : ℕ} {Q : Except ε β → Logged η σ → Prop}
    {p : Program F ε α} {k : Except ε α → Program F ε β} {x : Logged η σ}
    (h : P.Safe op tid (fun r x => P.Safe op tid Q (k r) x) p x) :
    P.Safe op tid Q (p.handle k) x := by
  induction p generalizing x with
  | ret a => exact h
  | throw e => exact h
  | step c k' ih =>
    intro y hy hI i b es s hexec hc
    obtain ⟨hG, hI', hk⟩ := h y hy hI i b es s hexec hc
    exact ⟨hG, hI', ih b hk⟩

end Handle

/-! ## What is kept -/

/-- What every commit keeps of a database and leaves of it for good, and what the rows protect. -/
structure Guarded (δ ρ : Type) extends Commits δ ρ where
  symm : ∀ {r d d'}, same r d d' → same r d' d
  step_trans : ∀ {d d' d''}, Step d d' → Step d' d'' → Step d d''

/-- The same as promises, which do not bear on the log. -/
def Guarded.promises (η : Type) {δ ρ : Type} (G : Guarded δ ρ) : Promises η δ ρ where
  toProtection := G.toProtection
  Inv _ d := G.Inv d
  Step := G.Step
  step_refl := G.step_refl
  step_trans := G.step_trans

namespace Guarded

variable {δ ρ : Type} (G : Guarded δ ρ)

/-- What the others may have made of a committed database while the rows `rows` are locked. -/
structure Elapse (rows : List ρ) (d d' : δ) : Prop where
  inv : G.Inv d'
  step : G.Step d d'
  same : ∀ r ∈ rows, G.same r d d'

variable {G} {rows rows' : List ρ} {d d' d'' : δ}

theorem Elapse.refl (h : G.Inv d) : G.Elapse rows d d :=
  ⟨h, G.step_refl d, fun r _ => G.refl r d⟩

theorem Elapse.trans (h : G.Elapse rows d d') (h' : G.Elapse rows d' d'') : G.Elapse rows d d'' :=
  ⟨h'.inv, G.step_trans h.step h'.step, fun r hr => G.trans (h.same r hr) (h'.same r hr)⟩

/-- The more rows are locked, the less can happen. -/
theorem Elapse.mono (h : G.Elapse rows' d d') (hsub : ∀ r ∈ rows, r ∈ rows') :
    G.Elapse rows d d' :=
  ⟨h.inv, h.step, fun r hr => h.same r (hsub r hr)⟩

end Guarded

/-- A transaction under way: the rows that it has locked, and what it has written. -/
structure Underway (δ ρ : Type) where
  rows : List ρ := []
  pending : δ → δ := id

/-- A transaction runs a statement, with `d` committed. -/
def Underway.run {δ ρ η β : Type} (t : Underway δ ρ) (c : Statement δ ρ η β) (d : δ) :
    Underway δ ρ where
  rows := t.rows ++ c.locks (t.pending d)
  pending d' := c.write (t.pending d) (t.pending d')

/-- What is locked stays locked. -/
theorem Underway.mem_run {δ ρ η β : Type} {t : Underway δ ρ} {c : Statement δ ρ η β} {d : δ} {r : ρ}
    (h : r ∈ t.rows) : r ∈ (t.run c d).rows := List.mem_append_left _ h

/-- The transaction of a thread of a server. -/
def Server.underway {δ ρ : Type} (s : Server δ ρ) (tid : ℕ) : Underway δ ρ where
  rows := s.ownLocks tid
  pending := s.pending tid

theorem Server.underway_run {δ ρ η β : Type} (s : Server δ ρ) (tid : ℕ) (c : Statement δ ρ η β) :
    (s.run tid c).underway tid = (s.underway tid).run c s.committed := by
  rw [underway, Underway.run, Underway.mk.injEq]
  exact ⟨Server.ownLocks_run_self, funext fun d => Server.pending_run d⟩

/-! ## The judgement -/

section Body

variable {F : Type → Type u} {δ ρ η ε α β : Type} (G : Guarded δ ρ)
  (st : {β : Type} → F β → Statement δ ρ η β)

/-- What is left of the body of a transaction leads to `Q`, wherever the others take the committed
database in between. -/
def Guarded.Body (Q : Except ε α → Underway δ ρ → δ → Prop) :
    Program F ε α → Underway δ ρ → δ → Prop
  | ret a, t, d => Q (.ok a) t d
  | throw e, t, d => Q (.error e) t d
  | step c k, t, d => ∀ d', G.Elapse t.rows d d' →
      Guarded.Body Q (k ((st c).answer (t.pending d'))) (t.run (st c) d') d'

variable {G} {st} {Q Q' : Except ε α → Underway δ ρ → δ → Prop}
  {R : Except ε β → Underway δ ρ → δ → Prop} {p : Program F ε α} {f : α → Program F ε β}
  {t : Underway δ ρ} {d : δ}

namespace Guarded

theorem Body.mono (h : G.Body st Q p t d) (hQ : ∀ r t d, Q r t d → Q' r t d) :
    G.Body st Q' p t d := by
  induction p generalizing t d with
  | ret a => exact hQ _ _ _ h
  | throw e => exact hQ _ _ _ h
  | step c k ih =>
    intro d' hd
    exact ih _ (h d' hd)

/-- A body in two parts: the first ends where the second may start, or throws where that is allowed. -/
theorem Body.bind
    (h : G.Body st (fun r t d => match r with
      | .ok a => G.Body st R (f a) t d
      | .error e => R (.error e) t d) p t d) :
    G.Body st R (p.bind f) t d := by
  induction p generalizing t d with
  | ret a => exact h
  | throw e => exact h
  | step c k ih =>
    intro d' hd
    exact ih _ (h d' hd)

/-- A body that begins with one statement. -/
theorem Body.command_bind {c : F β} {f : β → Program F ε α}
    (h : ∀ d', G.Elapse t.rows d d' →
      G.Body st Q (f ((st c).answer (t.pending d'))) (t.run (st c) d') d') :
    G.Body st Q ((Program.command c).bind f) t d := h

/-- The same where the answer may be an exception. -/
theorem Body.perform_bind {c : F (Except ε β)} {f : β → Program F ε α}
    (hok : ∀ d' b, G.Elapse t.rows d d' → (st c).answer (t.pending d') = .ok b →
      G.Body st Q (f b) (t.run (st c) d') d')
    (herr : ∀ d' e, G.Elapse t.rows d d' → (st c).answer (t.pending d') = .error e →
      Q (.error e) (t.run (st c) d') d') :
    G.Body st Q ((Program.perform c).bind f) t d := by
  intro d' hd
  cases hanswer : (st c).answer (t.pending d') with
  | ok b => exact hok d' b hd hanswer
  | error e => exact herr d' e hd hanswer

/-- What stays for good, however the others go on. -/
def Lasting (G : Guarded δ ρ) (A : δ → Prop) : Prop := ∀ d d', A d → G.Step d d' → A d'

theorem lasting_forall {γ : Type} {C : γ → δ → Prop} (h : ∀ x, G.Lasting (C x)) (xs : List γ) :
    G.Lasting fun d => ∀ x ∈ xs, C x d :=
  fun d d' hd hstep x hx => h x d d' (hd x hx) hstep

/-- What is locked stays locked, and protects what it did, while a body runs. -/
theorem Body.frame (hinv : G.Inv d) (h : G.Body st Q p t d) :
    G.Body st (fun r t' d' => Q r t' d' ∧ (∀ row ∈ t.rows, row ∈ t'.rows) ∧ G.Elapse t.rows d d')
      p t d := by
  induction p generalizing t d with
  | ret a => exact ⟨h, fun _ hrow => hrow, .refl hinv⟩
  | throw e => exact ⟨h, fun _ hrow => hrow, .refl hinv⟩
  | step c k ih =>
    intro d' hd
    refine (ih _ hd.inv (h d' hd)).mono fun r t' d'' ⟨hQ, hrows, hd'⟩ => ⟨hQ, ?_, ?_⟩
    · exact fun row hrow => hrows row (Underway.mem_run hrow)
    · exact hd.trans (hd'.mono fun row hrow => Underway.mem_run hrow)

theorem Body.lasting {C : δ → Prop} (hC : G.Lasting C) (hd : C d) (h : G.Body st Q p t d) :
    G.Body st (fun r t d => Q r t d ∧ C d) p t d := by
  induction p generalizing t d with
  | ret a => exact ⟨h, hd⟩
  | throw e => exact ⟨h, hd⟩
  | step c k ih =>
    intro d' hd'
    exact ih _ (hC d d' hd hd'.step) (h d' hd')

/-- What is written by a transaction relates what is committed to what it sees. -/
def Relates (G : Guarded δ ρ) (R : δ → δ → Prop) (t : Underway δ ρ) (d : δ) : Prop :=
  ∀ d', G.Elapse t.rows d d' → R d' (t.pending d')

theorem Relates.elapse {R : δ → δ → Prop} {d' : δ} (h : G.Relates R t d)
    (hd : G.Elapse t.rows d d') : G.Relates R t d' := fun d'' hd' => h d'' (hd.trans hd')

/-- One more statement. -/
theorem Relates.run {R S : δ → δ → Prop} {c : Statement δ ρ η β} (h : G.Relates R t d)
    (hc : ∀ x, G.Elapse (t.run c d).rows d x → R x (t.pending x) →
      S x (c.write (t.pending d) (t.pending x))) : G.Relates S (t.run c d) d :=
  fun d' hd => hc d' hd (h d' (hd.mono fun _ hrow => Underway.mem_run hrow))

/-- A body, no statement of which bears on the relation. -/
theorem Body.relates {R : δ → δ → Prop}
    (hp : p.Issues fun {_} c => ∀ seen x v, R x v → R x ((st c).write seen v))
    (h : G.Relates R t d) : G.Body st (fun _ t d => G.Relates R t d) p t d := by
  induction p generalizing t d with
  | ret a => exact h
  | throw e => exact h
  | step c k ih =>
    intro d' hd
    exact ih _ (hp.2 _) ((h.elapse hd).run fun x _ hx => hp.1 _ x _ hx)

end Guarded

end Body

/-! ## Transactions that may be committed -/

section Ready

variable {F : Type → Type u} {δ ρ η ε α β : Type} (G : Guarded δ ρ)

/-- A transaction that may be committed as it stands: what it has written keeps what is to be kept under
the rows that are locked, and alike where these protect the same. -/
structure Guarded.Ready (t : Underway δ ρ) (d : δ) : Prop where
  keeps : ∀ d', G.Elapse t.rows d d' → G.Keeps t.rows d' (t.pending d')
  alike : ∀ d' d'', G.Elapse t.rows d d' → G.Elapse t.rows d d'' → ∀ r, G.same r d' d'' →
    G.same r (t.pending d') (t.pending d'')

/-- A write that nobody can tell from none. -/
structure Guarded.Unseen (d d' : δ) : Prop where
  inv : G.Inv d → G.Inv d'
  step : G.Step d d'
  same : ∀ r, G.same r d d'

/-- A statement that nobody can tell from none. -/
def Guarded.Quiet (c : Statement δ ρ η β) : Prop := ∀ seen d, G.Unseen d (c.write seen d)

variable {G} {t : Underway δ ρ} {d d' : δ}

namespace Guarded

theorem Unseen.refl (d : δ) : G.Unseen d d := ⟨id, G.step_refl d, fun r => G.refl r d⟩

/-- A statement that only reads. -/
theorem quiet_read {c : Statement δ ρ η β} (h : c.write = fun _ d => d) : G.Quiet c := by
  intro seen d
  rw [h]
  exact .refl d

theorem ready_open (d : δ) : G.Ready {} d where
  keeps d' hd := ⟨hd.inv, G.step_refl d', fun r _ => G.refl r d'⟩
  alike _ _ _ _ _ hsame := hsame

theorem Ready.elapse (h : G.Ready t d) (hd : G.Elapse t.rows d d') : G.Ready t d' where
  keeps d'' hd' := h.keeps d'' (hd.trans hd')
  alike d₁ d₂ h₁ h₂ r hsame := h.alike d₁ d₂ (hd.trans h₁) (hd.trans h₂) r hsame

/-- What a statement writes that nobody can tell from none. -/
theorem Ready.quiet {c : Statement δ ρ η β} (h : G.Ready t d) (hc : G.Quiet c) :
    G.Ready (t.run c d) d where
  keeps d' hd := by
    have hd := hd.mono fun r hr => Underway.mem_run hr
    have hkeeps := h.keeps d' hd
    have hunseen := hc (t.pending d) (t.pending d')
    refine ⟨hunseen.inv hkeeps.inv, G.step_trans hkeeps.step hunseen.step, fun r hr => ?_⟩
    exact G.trans (hkeeps.same r fun hmem => hr (Underway.mem_run hmem)) (hunseen.same r)
  alike d₁ d₂ h₁ h₂ r hsame := by
    have h₁ := h₁.mono fun r hr => Underway.mem_run hr
    have h₂ := h₂.mono fun r hr => Underway.mem_run hr
    refine G.trans (G.symm ((hc (t.pending d) (t.pending d₁)).same r)) ?_
    exact G.trans (h.alike d₁ d₂ h₁ h₂ r hsame) ((hc (t.pending d) (t.pending d₂)).same r)

/-- Where a body ends: `A` holds for good, and a body that returns may be committed. -/
def Stays (G : Guarded δ ρ) (A : α → δ → Prop) (E : ε → δ → Prop) :
    Except ε α → Underway δ ρ → δ → Prop
  | .ok a, t, d => G.Ready t d ∧ A a d
  | .error e, _, d => E e d

variable {st : {β : Type} → F β → Statement δ ρ η β} {A : α → δ → Prop} {B : β → δ → Prop}
  {E : ε → δ → Prop} {p : Program F ε α} {f : α → Program F ε β}

/-- A body in two parts, both of which leave it ready. -/
theorem Body.sequence (hp : G.Body st (G.Stays A E) p t d)
    (hf : ∀ a t d, G.Ready t d → A a d → G.Body st (G.Stays B E) (f a) t d) :
    G.Body st (G.Stays B E) (p.bind f) t d := by
  refine Body.bind (hp.mono ?_)
  rintro (e | a) t d h
  · exact h
  · exact hf a t d h.1 h.2

/-- A body for each member of a list, every one of which leaves it ready. -/
theorem Body.forEach {γ : Type} {C : δ → Prop} (hC : G.Lasting C) {xs : List γ}
    {f : γ → Program F ε Unit} (h : G.Ready t d) (hd : C d)
    (hf : ∀ x ∈ xs, ∀ t d, G.Ready t d → C d →
      G.Body st (G.Stays (fun _ _ => True) fun _ _ => True) (f x) t d) :
    G.Body st (G.Stays (fun _ _ => True) fun _ _ => True) (Program.forEach xs f) t d := by
  induction xs generalizing t d with
  | nil => exact ⟨h, trivial⟩
  | cons x xs ih =>
    refine Body.bind (((hf x List.mem_cons_self t d h hd).lasting hC hd).mono ?_)
    rintro (e | u) t d ⟨hstays, hd⟩
    · trivial
    · exact ih hstays.1 hd fun y hy => hf y (List.mem_cons_of_mem _ hy)

/-- One quiet statement, and what it answers. -/
theorem Body.command {c : F α} (hc : G.Quiet (st c)) (h : G.Ready t d)
    (hA : ∀ d', G.Elapse t.rows d d' → A ((st c).answer (t.pending d')) d') :
    G.Body st (G.Stays A E) (Program.command c) t d :=
  fun d' hd => ⟨(h.elapse hd).quiet hc, hA d' hd⟩

/-- The same where the answer may be an exception. -/
theorem Body.perform {c : F (Except ε α)} (hc : G.Quiet (st c)) (h : G.Ready t d)
    (hA : ∀ d' a, G.Elapse t.rows d d' → (st c).answer (t.pending d') = .ok a → A a d')
    (hE : ∀ d' e, G.Elapse t.rows d d' → (st c).answer (t.pending d') = .error e → E e d') :
    G.Body st (G.Stays A E) (Program.perform c) t d := by
  intro d' hd
  cases hanswer : (st c).answer (t.pending d') with
  | ok a => exact ⟨(h.elapse hd).quiet hc, hA d' a hd hanswer⟩
  | error e => exact hE d' e hd hanswer

/-- **Quiet bodies** keep a transaction ready, and what stays for good. -/
theorem Body.quiet {C : δ → Prop} (hC : G.Lasting C) (hp : p.Issues fun {_} c => G.Quiet (st c))
    (h : G.Ready t d) (hd : C d) :
    G.Body st (G.Stays (fun _ => C) fun _ => C) p t d := by
  induction p generalizing t d with
  | ret a => exact ⟨h, hd⟩
  | throw e => exact hd
  | step c k ih =>
    intro d' hd'
    exact ih _ (hp.2 _) ((h.elapse hd').quiet hp.1) (hC d d' hd hd'.step)

end Guarded

end Ready

/-! ## On a server -/

section Server

variable {F : Type → Type u} {δ ρ η ε κ Op α β : Type} [DecidableEq ρ] {unavailable : ε}
  {disturb : κ → δ → δ} {program : Op → Program (ServerCall δ ρ η ε) ε Unit} {G : Guarded δ ρ}
  {cond : Op → ℕ → Logged η (Server δ ρ) → Bool → List η → Prop}
  {disturbance : κ → Logged η (Server δ ρ) → Prop}
  {hdisturb : ∀ d x, disturbance d x →
    (G.promises η).Keeps [] x.log x.log x.state.committed (disturb d x.state.committed)}
  {st : {β : Type} → F β → Statement δ ρ η β}

/-- A body, statement by statement. -/
def session (st : {β : Type} → F β → Statement δ ρ η β) (body : Program F ε α) :
    Program (ServerCall δ ρ η ε) ε α :=
  body.translate fun c => perform (.run (st c))

omit [DecidableEq ρ] in
/-- What a thread may rely on leaves its transaction as it is. -/
theorem underway_elapse {tid : ℕ} {x y : Logged η (Server δ ρ)} (hy : (G.promises η).Rely tid x y)
    (hinv : G.Inv y.state.committed) :
    y.state.underway tid = x.state.underway tid ∧
      G.Elapse (x.state.underway tid).rows x.state.committed y.state.committed := by
  constructor
  · rw [Server.underway, Server.underway, Underway.mk.injEq]
    exact ⟨hy.undisturbed.locks, funext hy.undisturbed.pending⟩
  · exact ⟨hinv, hy.step, hy.undisturbed.same⟩

/-- **What is judged so is safe**: wherever a statement is not answered, the body throws. -/
theorem Guarded.Body.safe (hreport : ∀ {β : Type} (c : F β) b, (st c).report b = [])
    {op : Op} {tid : ℕ} {Q : Except ε α → Underway δ ρ → δ → Prop}
    {R : Except ε α → Logged η (Server δ ρ) → Prop} {body : Program F ε α}
    {x : Logged η (Server δ ρ)}
    (h : G.Body st Q body (x.state.underway tid) x.state.committed)
    (hfail : ∀ y : Logged η (Server δ ρ), G.Step x.state.committed y.state.committed →
      R (.error unavailable) y)
    (hQ : ∀ r (y : Logged η (Server δ ρ)), G.Step x.state.committed y.state.committed →
      Q r (y.state.underway tid) y.state.committed → R r y) :
    (promised unavailable disturb program (G.promises η) cond disturbance hdisturb).Safe op tid R
      (session st body) x := by
  induction body generalizing x with
  | ret a => exact hQ _ x (G.step_refl _) h
  | throw e => exact hQ _ x (G.step_refl _) h
  | step c k ih =>
    intro y hy hinv
    obtain ⟨hrows, helapse⟩ := underway_elapse hy hinv.2
    refine promised_run (c := st c) hinv hinv.2 (fun _ => ?_) (hfail y hy.step)
    rw [hreport]
    change (promised unavailable disturb program (G.promises η) cond disturbance hdisturb).Safe op
      tid R (session st (k ((st c).answer (y.state.view tid)))) _
    refine ih _ ?_ (fun z hz => hfail z (G.step_trans hy.step hz)) fun r z hz =>
      hQ r z (G.step_trans hy.step hz)
    have hbody := h y.state.committed helapse
    rw [← hrows] at hbody
    rw [Logged.next_state, Server.underway_run]
    exact hbody

/-- Where a transaction ends, committed or given up. -/
def Guarded.Ends (G : Guarded δ ρ) (B : Except ε α → δ → Prop) :
    Except ε α → Underway δ ρ → δ → Prop
  | .ok a, t, d => ∀ d', G.Elapse t.rows d d' →
      G.Keeps t.rows d' (t.pending d') ∧ B (.ok a) (t.pending d')
  | .error e, t, d => ∀ d', G.Elapse t.rows d d' → B (.error e) d'

omit [DecidableEq ρ] in
theorem Guarded.Ends.mono {B B' : Except ε α → δ → Prop} {r : Except ε α} {t : Underway δ ρ} {d : δ}
    (h : G.Ends B r t d) (hB : ∀ r d, B r d → B' r d) : G.Ends B' r t d := by
  cases r with
  | ok a => exact fun d' hd => ⟨(h d' hd).1, hB _ _ (h d' hd).2⟩
  | error e => exact fun d' hd => hB _ _ (h d' hd)

omit [DecidableEq ρ] in
theorem Guarded.Ends.lasting {B : Except ε α → δ → Prop} {C : δ → Prop} {r : Except ε α}
    {t : Underway δ ρ} {d : δ} (hC : G.Lasting C) (hd : C d) (h : G.Ends B r t d) :
    G.Ends (fun r d => B r d ∧ C d) r t d := by
  cases r with
  | ok a =>
    intro d' hd'
    obtain ⟨hkeeps, hB⟩ := h d' hd'
    exact ⟨hkeeps, hB, hC d' _ (hC d d' hd hd'.step) hkeeps.step⟩
  | error e => exact fun d' hd' => ⟨h d' hd', hC d d' hd hd'.step⟩

omit [DecidableEq ρ] in
/-- A body that ends ready may be committed, with what stays for good. -/
theorem Guarded.Stays.ends {A : α → δ → Prop} {E : ε → δ → Prop} {B : Except ε α → δ → Prop}
    (hA : ∀ a d d', A a d → G.Step d d' → B (.ok a) d')
    (hE : ∀ e d d', E e d → G.Step d d' → B (.error e) d') {r : Except ε α}
    {t : Underway δ ρ} {d : δ} (h : G.Stays A E r t d) : G.Ends B r t d := by
  cases r with
  | ok a =>
    intro d' hd
    have hkeeps := h.1.keeps d' hd
    exact ⟨hkeeps, hA a d _ h.2 (G.step_trans hd.step hkeeps.step)⟩
  | error e =>
    intro d' hd
    exact hE e d d' h hd.step

/-- **A transaction** is safe if its body is, from nothing locked and nothing written. -/
theorem safe_transaction_of_body (hreport : ∀ {β : Type} (c : F β) b, (st c).report b = [])
    {op : Op} {tid : ℕ} {B : Except ε α → δ → Prop} {body : Program F ε α} {report : α → List η}
    {y : Logged η (Server δ ρ)}
    (hfail : ∀ d, G.Inv d → G.Step y.state.committed d → B (.error unavailable) d)
    (hbody : ∀ d, G.Inv d → G.Step y.state.committed d → G.Body st (G.Ends B) body {} d) :
    (promised unavailable disturb program (G.promises η) cond disturbance hdisturb).Safe op tid
      (fun r x => B r x.state.committed) (transaction (session st body) report) y := by
  refine promised_transaction (fun z hz _ hinv => hfail _ hinv hz.step) ?_
  intro x hwrites hlocks hstep _ hinv
  have hopen : x.state.underway tid = {} := by
    rw [Server.underway, Underway.mk.injEq]
    exact ⟨hlocks, funext fun d => Server.pending_of_nil hwrites d⟩
  have hbodyx := hbody x.state.committed hinv hstep
  rw [← hopen] at hbodyx
  refine Guarded.Body.safe hreport hbodyx ?_ ?_
  · -- a statement was not answered
    intro z hz w hw hinvw
    exact hfail _ hinvw.2 (G.step_trans hstep (G.step_trans hz hw.step))
  · intro r z hz hend
    cases r with
    | error e =>
      intro w hw hinvw
      exact hend _ (underway_elapse hw hinvw.2).2
    | ok a =>
      intro w hw hinvw
      obtain ⟨hrows, helapse⟩ := underway_elapse hw hinvw.2
      obtain ⟨hkeeps, hB⟩ := hend _ helapse
      have hview : w.state.view tid = (z.state.underway tid).pending w.state.committed :=
        congrFun (congrArg Underway.pending hrows) _
      have hlocks : w.state.ownLocks tid = (z.state.underway tid).rows := congrArg Underway.rows hrows
      refine ⟨fun _ => ⟨?_, ?_⟩, ?_⟩
      · rw [hview, hlocks]
        exact ⟨fun _ => hkeeps.inv, hkeeps.step, hkeeps.same⟩
      · show B (.ok a) (w.state.view tid)
        rw [hview]
        exact hB
      · exact hfail _ hinvw.2 (G.step_trans hstep (G.step_trans hz hw.step))

end Server

end Program

import Deliivo.Domain.Leaves
import Deliivo.Program.Bodies

/-!
# Services on a database server

Here a service runs statement by statement: a transaction is opened, its statements run one after the
other next to those of everybody else, each on what is committed by then under the transaction's own
writes, and it is committed or given up. What a call meets outside of the database (the clock, the ids
that it draws, what Stripe answers) is anything at all.

## Main definitions

* `Outside`: what a call meets outside of the database
* `Service.onServer`: a service as a thread of a server
* `sessionPool`: such threads next to each other
* `Service.Kept`: the judgement of services

## Main results

* `Kept.bind`, `Kept.tryCatch`, `kept_transact`, `kept_quiet`: its rules
* `Kept.safe`: what is judged so is safe on a server
* `kept_always`: what every call keeps, every state that is committed has
-/

namespace Deliivo

open Program (Guarded Logged Move Pool Server ServerCall Statement Underway)

variable {α β : Type}

/-! ## Threads -/

/-- A statement, as the server runs it. -/
def Stmt.statement (c : Stmt β) : Statement Db Row Event β where
  locks := c.locks
  answer := c.answer
  write := c.write

/-- What a call meets outside of the database at one of its steps: the clock, the id that it draws, and
for each request Stripe as it is by then and whether it is answered. -/
structure Outside where
  ctx : Ctx := ⟨0, 0⟩
  stripe : ℕ → Stripe := fun _ => {}
  answered : ℕ → Bool := fun _ => true

/-- What the `n`-th request to Stripe is answered. -/
def Outside.answer (o : Outside) (n : ℕ) (request : Stripe → Except Err (β × Stripe)) :
    Except Err β :=
  if o.answered n then (request (o.stripe n)).map Prod.fst else .error .unavailable

/-- The statements of a transaction that calls Stripe, from its `n`-th request on. -/
def StripeTx.statements (o : Outside) : ℕ → StripeTx α → Tx α
  | _, .ret a => .ret a
  | _, .throw e => .throw e
  | n, .step (.stmt c) k => .step c fun b => StripeTx.statements o n (k b)
  | n, .step (.stripe request) k => StripeTx.statements o (n + 1) (k (o.answer n request))

/-- A transaction on a server. -/
def Tx.onServer (body : Tx α) (report : α → List Event) :
    Program (ServerCall Db Row Event Err) Err α :=
  Program.transaction (Program.session Stmt.statement body) report

/-- A service on a server, from its `n`-th step on. -/
def Service.onServer (o : ℕ → Outside) :
    ℕ → Service α → Program (ServerCall Db Row Event Err) Err α
  | _, .ret a => .ret a
  | _, .throw e => .throw e
  | n, .step (.transact body report) k =>
    ((body (o n).ctx).onServer report).handle fun r => Service.onServer o (n + 1) (k r)
  | n, .step (.transactWithStripe body report) k =>
    (((body (o n).ctx).statements (o n) 0).onServer report).handle fun r =>
      Service.onServer o (n + 1) (k r)
  | n, .step (.stripe request _) k => Service.onServer o (n + 1) (k ((o n).answer 0 request))
  | n, .step .clock k => Service.onServer o (n + 1) (k (o n).ctx.now)
  | n, .step .randomUUID k => Service.onServer o (n + 1) (k (o n).ctx.uuid)
  | n, .step (.note _) k => Service.onServer o (n + 1) (k ())

/-- Services as threads of one server, each with what it meets outside of the database, next to
anything else that becomes of what is committed. -/
abbrev sessionPool {Op : Type} (program : Op → Service Unit) :=
  Program.serverPool Err.unavailable (fun (f : Db → Db) d => f d)
    fun op : Op × (ℕ → Outside) => (program op.1).onServer op.2 0

/-! ## The judgement -/

section Kept

variable (G : Guarded Db Row)

/-- What is left of a service comes to return with `A`, wherever the others take the committed database
in between; nothing is said of where it throws. -/
def Service.Kept (A : α → Db → Prop) : Service α → Db → Prop
  | .ret a, d => A a d
  | .throw _, _ => True
  | .step (.transact body _) k, d => ∀ d', G.Elapse [] d d' →
      Service.Kept A (k (.error .unavailable)) d' ∧
        ∀ ctx, G.Body Stmt.statement (G.Ends fun r d => Service.Kept A (k r) d) (body ctx) {} d'
  | .step (.transactWithStripe body _) k, d => ∀ d', G.Elapse [] d d' →
      Service.Kept A (k (.error .unavailable)) d' ∧
        ∀ ctx o, G.Body Stmt.statement (G.Ends fun r d => Service.Kept A (k r) d)
          ((body ctx).statements o 0) {} d'
  | .step (.stripe _ _) k, d => ∀ r, Service.Kept A (k r) d
  | .step .clock k, d => ∀ now, Service.Kept A (k now) d
  | .step .randomUUID k, d => ∀ id, Service.Kept A (k id) d
  | .step (.note _) k, d => Service.Kept A (k ()) d

namespace Service

/-- A command of a transaction that calls Stripe, the database of which nobody can tell from none. -/
def TxQuiet : TxCall β → Prop
  | .stmt s => G.Quiet s.statement
  | .stripe _ => True

/-- A step of a service of the same kind. -/
def CallQuiet : Call β → Prop
  | .transact body _ => ∀ ctx, (body ctx).Issues fun {_} s => G.Quiet s.statement
  | .transactWithStripe body _ => ∀ ctx, (body ctx).Issues (TxQuiet G)
  | .stripe _ _ | .clock | .randomUUID | .note _ => True

end Service

variable {G} {A A' : α → Db → Prop} {B : β → Db → Prop} {C : Db → Prop} {d : Db}

namespace Service

/-- A body that throws is not asked for anything. -/
abbrev Returns (G : Guarded Db Row) (A : α → Db → Prop) :=
  G.Stays (ε := Err) A fun _ _ => True

/-- **What a service hands on**, whether it returns or throws, the rest has to make do with. -/
theorem Kept.handle {p : Service α} {k : Except Err α → Service β} (hC : G.Lasting C) (hd : C d)
    (h : p.Kept G A d) (hok : ∀ a d, A a d → C d → (k (.ok a)).Kept G B d)
    (herr : ∀ e d, C d → (k (.error e)).Kept G B d) : Service.Kept G B (p.handle k) d := by
  induction p generalizing d with
  | ret a => exact hok a d h hd
  | throw e => exact herr e d hd
  | step c k' ih =>
    cases c with
    | transact body report =>
      intro d' hd'
      obtain ⟨hfail, hbody⟩ := h d' hd'
      have hd := hC d d' hd hd'.step
      exact ⟨ih _ hd hfail, fun ctx => ((hbody ctx).lasting hC hd).mono fun r t d hr =>
        (hr.1.lasting hC hr.2).mono fun r d hr => ih r hr.2 hr.1⟩
    | transactWithStripe body report =>
      intro d' hd'
      obtain ⟨hfail, hbody⟩ := h d' hd'
      have hd := hC d d' hd hd'.step
      exact ⟨ih _ hd hfail, fun ctx o => ((hbody ctx o).lasting hC hd).mono fun r t d hr =>
        (hr.1.lasting hC hr.2).mono fun r d hr => ih r hr.2 hr.1⟩
    | stripe request report => exact fun r => ih r hd (h r)
    | clock => exact fun now => ih now hd (h now)
    | randomUUID => exact fun id => ih id hd (h id)
    | note events => exact ih () hd h

theorem lasting_true (G : Guarded Db Row) : G.Lasting fun _ => True := fun _ _ _ _ => trivial

theorem Kept.bind {p : Service α} {f : α → Service β} (h : p.Kept G A d)
    (hf : ∀ a d, A a d → (f a).Kept G B d) : Service.Kept G B (p.bind f) d := by
  rw [Program.bind_eq_handle]
  exact h.handle (lasting_true G) trivial (fun a d ha _ => hf a d ha) fun _ _ _ => trivial

/-- A handler starts with what stays for good. -/
theorem Kept.tryCatch {p : Service α} {handler : Err → Service α} (hC : G.Lasting C) (hd : C d)
    (h : p.Kept G A d) (hh : ∀ e d, C d → (handler e).Kept G A d) :
    Service.Kept G A (p.tryCatch handler) d := by
  rw [Program.tryCatch_eq_handle]
  exact h.handle hC hd (fun _ _ ha _ => ha) hh

theorem Kept.lasting {p : Service α} (hC : G.Lasting C) (hd : C d) (h : p.Kept G A d) :
    p.Kept G (fun a d => A a d ∧ C d) d := by
  rw [← Program.handle_ofExcept p]
  exact h.handle hC hd (fun _ _ ha hc => ⟨ha, hc⟩) fun _ _ _ => trivial

/-- A service for each member of a list. -/
theorem kept_forEach {γ : Type} (hC : G.Lasting C) {xs : List γ} {f : γ → Service Unit} (hd : C d)
    (h : ∀ x ∈ xs, ∀ d, C d → (f x).Kept G (fun _ _ => True) d) :
    Service.Kept G (fun _ _ => True) (Program.forEach xs f) d := by
  induction xs generalizing d with
  | nil => trivial
  | cons x xs ih =>
    refine ((h x List.mem_cons_self d hd).lasting hC hd).bind fun _ d hd => ?_
    exact ih hd.2 fun y hy => h y (List.mem_cons_of_mem _ hy)

/-- How a service has ended, for what is said of where it returns. -/
def Outcome (A : α → Db → Prop) : Except Err α → Db → Prop
  | .ok a, d => A a d
  | .error _, _ => True

/-- A transaction whose body may be committed where it ends. -/
theorem kept_transact_ends {body : Ctx → Tx α} {report : α → List Event}
    (h : ∀ ctx d', G.Elapse [] d d' →
      G.Body Stmt.statement (G.Ends (Outcome A)) (body ctx) {} d') :
    Service.Kept G A (Program.perform (.transact body report)) d := by
  refine fun d' hd => ⟨trivial, fun ctx => (h ctx d' hd).mono fun r t d hr => hr.mono ?_⟩
  rintro (e | a) d hd
  · trivial
  · exact hd

theorem Returns.ends (hA : ∀ a, G.Lasting (A a)) {r : Except Err α} {t : Underway Db Row}
    (h : Returns G A r t d) : G.Ends (Outcome A) r t d :=
  Guarded.Stays.ends (fun a d d' ha hstep => hA a d d' ha hstep) (fun _ _ _ _ _ => trivial) h

/-- A transaction whose body ends ready. -/
theorem kept_transact {body : Ctx → Tx α} {report : α → List Event}
    (hA : ∀ a, G.Lasting (A a))
    (h : ∀ ctx d', G.Elapse [] d d' → G.Body Stmt.statement (Returns G A) (body ctx) {} d') :
    Service.Kept G A (Program.perform (.transact body report)) d :=
  kept_transact_ends fun ctx d' hd => (h ctx d' hd).mono fun _ _ _ hr => Returns.ends hA hr

/-- The same of a transaction that calls Stripe, whatever that answers. -/
theorem kept_transactWithStripe {body : Ctx → StripeTx α} {report : α → List Event}
    (hA : ∀ a, G.Lasting (A a))
    (h : ∀ ctx o d', G.Elapse [] d d' →
      G.Body Stmt.statement (Returns G A) ((body ctx).statements o 0) {} d') :
    Service.Kept G A (Program.perform (.transactWithStripe body report)) d := by
  refine fun d' hd => ⟨trivial, fun ctx o => (h ctx o d' hd).mono fun r t d hr => ?_⟩
  refine (Returns.ends hA hr).mono ?_
  rintro (e | a) d hd
  · trivial
  · exact hd

/-- One statement that reads. -/
theorem kept_read {c : Stmt α} (hwrite : c.write = fun _ d => d) (hA : ∀ a, G.Lasting (A a))
    (h : ∀ d', G.Elapse [] d d' → A (c.answer d') d') : (sql c).Kept G A d := by
  refine kept_transact hA fun ctx d' hd => ?_
  refine Guarded.Body.command (Guarded.quiet_read hwrite) (Guarded.ready_open d') fun d'' hd' => ?_
  exact h d'' (hd.trans hd')

/-! ### Transactions that call Stripe -/

section Statements

variable {o : Outside} {n : ℕ} {t : Underway Db Row} {E : Err → Db → Prop}

theorem statements_lift (p : Tx α) : (Tx.lift p).statements o n = p := by
  induction p with
  | ret a | throw e => rfl
  | step c k ih => exact congrArg (Program.step c) (funext ih)

theorem statements_perform (s : Stmt (Except Err α)) :
    StripeTx.statements o n (Program.perform (.stmt s)) = Program.perform s := by
  refine congrArg (Program.step s) (funext fun r => ?_)
  cases r <;> rfl

/-- A body in two parts, both of which leave it ready, whatever Stripe answers in the first. -/
theorem body_statements {p : StripeTx α} {f : α → StripeTx β}
    (hp : G.Body Stmt.statement (G.Stays A E) (p.statements o n) t d)
    (hf : ∀ a n t d, G.Ready t d → A a d →
      G.Body Stmt.statement (G.Stays B E) ((f a).statements o n) t d) :
    G.Body Stmt.statement (G.Stays B E) (StripeTx.statements o n (p.bind f)) t d := by
  induction p generalizing n t d with
  | ret a => exact hf a n t d hp.1 hp.2
  | throw e => exact hp
  | step c k ih =>
    cases c with
    | stmt s =>
      intro d' hd
      exact ih _ (hp d' hd)
    | stripe request => exact ih _ hp

/-- A body for each member of a list, every one of which leaves it ready. -/
theorem body_statements_forEach {γ : Type} (hC : G.Lasting C) {xs : List γ}
    {f : γ → StripeTx Unit} (h : G.Ready t d) (hd : C d)
    (hf : ∀ x ∈ xs, ∀ n t d, G.Ready t d → C d →
      G.Body Stmt.statement (Returns G fun _ _ => True) ((f x).statements o n) t d) :
    G.Body Stmt.statement (Returns G fun _ _ => True)
      (StripeTx.statements o n (Program.forEach xs f)) t d := by
  induction xs generalizing n t d with
  | nil => exact ⟨h, trivial⟩
  | cons x xs ih =>
    refine body_statements (A := fun _ => C) ?_ fun _ n t d h hd =>
      ih h hd fun y hy => hf y (List.mem_cons_of_mem _ hy)
    refine ((hf x List.mem_cons_self n t d h hd).lasting hC hd).mono ?_
    rintro (e | u) t d ⟨hstays, hd⟩
    · trivial
    · exact ⟨hstays.1, hd⟩

end Statements

/-! ### Services that nobody can tell from none -/

theorem quiet_statements {o : Outside} {n : ℕ} {body : StripeTx α} (h : body.Issues (TxQuiet G)) :
    (body.statements o n).Issues fun {_} s => G.Quiet s.statement := by
  induction body generalizing n with
  | ret a => trivial
  | throw e => trivial
  | step c k ih =>
    cases c with
    | stmt s => exact ⟨h.1, fun b => ih b (h.2 b)⟩
    | stripe request => exact ih _ (h.2 _)

/-- **Quiet services** keep what stays for good. -/
theorem kept_quiet {p : Service α} (hC : G.Lasting C) (hd : C d) (hp : p.Issues (CallQuiet G)) :
    p.Kept G (fun _ => C) d := by
  induction p generalizing d with
  | ret a => exact hd
  | throw e => trivial
  | step c k ih =>
    obtain ⟨hc, hk⟩ := hp
    -- a transaction ends with what stays for good, committed or not
    have hends : ∀ {γ : Type} (r : Except Err γ) (t : Underway Db Row) (d : Db)
        (rest : Except Err γ → Service α), (∀ r d, C d → (rest r).Kept G (fun _ => C) d) →
        G.Stays (fun _ => C) (fun _ => C) r t d →
          G.Ends (fun r d => (rest r).Kept G (fun _ => C) d) r t d := by
      intro γ r t d rest hrest hr
      exact (hr.ends (B := fun _ => C) (fun _ _ _ h hstep => hC _ _ h hstep)
        fun _ _ _ h hstep => hC _ _ h hstep).mono fun r d hcd => hrest r d hcd
    cases c with
    | transact body report =>
      intro d' hd'
      have hd := hC d d' hd hd'.step
      refine ⟨ih _ hd (hk _), fun ctx => ?_⟩
      refine (Guarded.Body.quiet hC (hc ctx) (Guarded.ready_open d') hd).mono fun r t d hr => ?_
      exact hends r t d k (fun r d hcd => ih r hcd (hk r)) hr
    | transactWithStripe body report =>
      intro d' hd'
      have hd := hC d d' hd hd'.step
      refine ⟨ih _ hd (hk _), fun ctx o => ?_⟩
      refine (Guarded.Body.quiet hC (quiet_statements (hc ctx)) (Guarded.ready_open d') hd).mono
        fun r t d hr => ?_
      exact hends r t d k (fun r d hcd => ih r hcd (hk r)) hr
    | stripe request report => exact fun r => ih r hd (hk r)
    | clock => exact fun now => ih now hd (hk now)
    | randomUUID => exact fun id => ih id hd (hk id)
    | note events => exact ih () hd (hk ())

/-- What leaves the part of the database alone that the others look at is quiet. -/
theorem quiet_of_leaves {F : Frame} (hF : ∀ d d', F.db d' = F.db d → G.Unseen d d') {p : Service α}
    (hp : p.Leaves F) : p.Issues (CallQuiet G) := by
  refine hp.mono fun {β} c hc => ?_
  cases c with
  | transact body report => exact fun ctx => (hc.1 ctx).mono fun s hs seen d => hF d _ (hs seen d)
  | transactWithStripe body report =>
    refine fun ctx => (hc.1 ctx).mono fun s hs => ?_
    cases s with
    | stmt s => exact fun seen d => hF d _ (hs seen d)
    | stripe request => trivial
  | stripe request report => trivial
  | clock => trivial
  | randomUUID => trivial
  | note events => trivial

end Service

end Kept

/-! ## On the server -/

section Pool

variable {Op : Type} {program : Op → Service Unit} {G : Guarded Db Row}

/-- Nothing is asked of the calls. -/
abbrev AnyStep (_op : Op × (ℕ → Outside)) (_tid : ℕ) (_x : Logged Event (Server Db Row))
    (_reply : Bool) (_events : List Event) : Prop := True

/-- What else becomes of the database nobody can tell from nothing. -/
abbrev UnseenBy (G : Guarded Db Row) (f : Db → Db) (_x : Logged Event (Server Db Row)) : Prop :=
  ∀ d, G.Unseen d (f d)

theorem keeps_unseen (f : Db → Db) (x : Logged Event (Server Db Row)) (hf : UnseenBy G f x) :
    (G.promises Event).Keeps [] x.log x.log x.state.committed (f x.state.committed) where
  inv := (hf _).inv
  step := (hf _).step
  same r _ := (hf _).same r

/-- The protocol of services on a server. -/
abbrev sessionProtocol (program : Op → Service Unit) (G : Guarded Db Row) :=
  Program.promised Err.unavailable (fun (f : Db → Db) d => f d)
    (fun op : Op × (ℕ → Outside) => (program op.1).onServer op.2 0) (G.promises Event) AnyStep
    (UnseenBy G) keeps_unseen

/-- **What is judged so is safe**, whatever it meets outside of the database. -/
theorem Service.Kept.safe {op : Op × (ℕ → Outside)} {tid : ℕ} {α : Type} {A : α → Db → Prop}
    {p : Service α} {o : ℕ → Outside} {n : ℕ} {x : Logged Event (Server Db Row)}
    (h : p.Kept G A x.state.committed) :
    (sessionProtocol program G).Safe op tid (fun _ _ => True) (p.onServer o n) x := by
  induction p generalizing n x with
  | ret a => trivial
  | throw e => trivial
  | step c k ih =>
    cases c with
    | transact body report =>
      refine Program.Protocol.Safe.handle <| Program.Protocol.Safe.mono
        (Program.safe_transaction_of_body (B := fun r d => Service.Kept G A (k r) d) (fun _ _ => rfl) ?_ ?_)
        fun r y hy => ih r hy
      · exact fun d hinv hstep => (h d ⟨hinv, hstep, fun _ hr => absurd hr List.not_mem_nil⟩).1
      · exact fun d hinv hstep => (h d ⟨hinv, hstep, fun _ hr => absurd hr List.not_mem_nil⟩).2 _
    | transactWithStripe body report =>
      refine Program.Protocol.Safe.handle <| Program.Protocol.Safe.mono
        (Program.safe_transaction_of_body (B := fun r d => Service.Kept G A (k r) d) (fun _ _ => rfl) ?_ ?_)
        fun r y hy => ih r hy
      · exact fun d hinv hstep => (h d ⟨hinv, hstep, fun _ hr => absurd hr List.not_mem_nil⟩).1
      · exact fun d hinv hstep => (h d ⟨hinv, hstep, fun _ hr => absurd hr List.not_mem_nil⟩).2 _ _
    | stripe request report => exact ih _ (h _)
    | clock => exact ih _ (h _)
    | randomUUID => exact ih _ (h _)
    | note events => exact ih () h

/-- A server on which nothing is under way. -/
def serverStart (d : Db) :
    Pool (ServerCall Db Row Event Err) Err Event (Server Db Row) (Op × (ℕ → Outside)) :=
  { now := { state := { committed := d } } }

/-- Nothing is asked of the calls, and what else goes on nobody can tell from nothing. -/
theorem each_unseen {moves : List (Move (Op × (ℕ → Outside)) Bool (Db → Db))}
    (h : ∀ f, .disturb f ∈ moves → ∀ d, G.Unseen d (f d))
    (p : Pool (ServerCall Db Row Event Err) Err Event (Server Db Row) (Op × (ℕ → Outside))) :
    History.Each (Pool.step (sessionPool program))
      (Pool.Meets (sessionPool program) AnyStep (UnseenBy G)) p moves := by
  induction moves generalizing p with
  | nil => trivial
  | cons move moves ih =>
    refine ⟨?_, ih (fun f hf => h f (List.mem_cons_of_mem _ hf)) _⟩
    cases move with
    | start op => trivial
    | disturb f => exact h f List.mem_cons_self
    | step tid reply =>
      intro op rest _
      cases rest with
      | ret a | throw e => trivial
      | step c k => exact fun _ _ _ _ => trivial

/-- **What every call keeps holds of every state that is committed**, however the statements of the
calls come between each other. -/
theorem kept_always (hops : ∀ op d, G.Inv d → (program op).Kept G (fun _ _ => True) d) {d : Db}
    (hd : G.Inv d) {moves : List (Move (Op × (ℕ → Outside)) Bool (Db → Db))}
    (hmoves : ∀ f, .disturb f ∈ moves → ∀ d, G.Unseen d (f d)) :
    History.Always (Pool.step (sessionPool program)) (fun p => G.Inv p.now.state.committed)
      (serverStart d) moves := by
  have hsafe : (sessionProtocol program G).SafeOperations :=
    fun op tid x hinv _ => (hops op.1 _ hinv.2).safe
  have hholds : (sessionProtocol program G).Holds (serverStart d) :=
    Program.Protocol.holds_of_inv ⟨fun l hl => absurd hl List.not_mem_nil, hd⟩ rfl rfl
  exact (Program.Protocol.sound hsafe hholds (each_unseen hmoves _)).imp fun p hp => hp.inv.2

end Pool

end Deliivo

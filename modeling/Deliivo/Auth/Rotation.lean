import Deliivo.Auth.Tokens
import Deliivo.Domain.Pool
import Deliivo.Domain.Preserves

/-!
# Refresh tokens rotate

The tokens that descend from a login form a chain as long as every token is exchanged once at most: all
of them but the last have been revoked. An exchange reads whether its token is revoked and revokes it
later, and issues the next token later still. Where the revocation still finds the token unrevoked, and
a logout its token unspent, the chain never forks and ends with a logout.

## Main definitions

* `Descends`: the tokens that descend from a login
* `RotatingStep`: the condition on the steps
* `RotatesLinearly`: no token is exchanged twice, one descendant at most is unrevoked, and none after a
  logout
* `TokenInv`: the chain

## Main results

* `tokens_rotate`: if every step meets the condition, tokens rotate linearly at all times
-/

open Program (Concurrent Logged Move Pool Protocol)

namespace Deliivo

/-- The calls with refresh tokens, with what the signature of the token says. -/
inductive TokenOp
  | refresh (decoded : Except Err ℕ) (refreshToken : ℕ)
  | logout (refreshToken : ℕ)

def TokenOp.program : TokenOp → Service Unit
  | .refresh decoded refreshToken => do
    let _ ← refreshTokenService decoded refreshToken
  | .logout refreshToken => do
    let _ ← logoutService refreshToken

/-- Anything else that goes on: all of the world but the refresh tokens. -/
def besidesTokens (w' w : World) : World :=
  { w' with db := { w'.db with refreshTokens := w.db.refreshTokens } }

/-- Exchanges and logouts next to each other. -/
def tokenPool : Concurrent Call Err Reply Event World World TokenOp :=
  servicePool TokenOp.program besidesTokens

/-! ## What is said of tokens -/

/-- The tokens that descend from a login. -/
inductive Descends (login : ℕ) (log : List (ℕ × Event)) : ℕ → Prop
  | login : Descends login log login
  | issued {tid token child : ℕ} (h : Descends login log token)
      (hmem : (tid, .tokenIssued token child) ∈ log) : Descends login log child

/-- The event issues a token in exchange for this one. -/
def Event.issues (token : ℕ) : Event → Bool
  | .tokenIssued parent _ => parent == token
  | _ => false

def Revoked (token : ℕ) (x : LoggedWorld) : Prop :=
  ∃ row, x.state.db.refreshTokens.get? token = some row ∧ row.revoked = true

def Unrevoked (token : ℕ) (x : LoggedWorld) : Prop :=
  ∃ row, x.state.db.refreshTokens.get? token = some row ∧ row.revoked = false

/-- The token was the current one when the thread was called to log out with it: it had not been
exchanged. -/
def CalledWhileCurrent (tid token : ℕ) (log : List (ℕ × Event)) : Prop :=
  ∃ before later, log = before ++ (tid, .logoutCalled token) :: later ∧
    ∀ t child, (t, .tokenIssued token child) ∉ before

/-- What a step of an exchange or a logout has to meet. -/
structure RotatingStep (_ : TokenOp) (tid : ℕ) (x : LoggedWorld) (_ : Reply) (es : List Event) :
    Prop where
  /-- An exchange finds its token unrevoked when it revokes it. -/
  spent : ∀ token, .tokenSpent token ∈ es → Unrevoked token x
  /-- A logout with the current token finds that no exchange has revoked it. -/
  loggedOut : ∀ token, .tokenLoggedOut token ∈ es → CalledWhileCurrent tid token x.log →
    ∀ t, (t, .tokenSpent token) ∉ x.log

/-- The tokens of a login rotate. -/
structure RotatesLinearly (login : ℕ) (x : LoggedWorld) : Prop where
  /-- A token is exchanged once at most. -/
  once : ∀ token, x.log.countP (fun entry => entry.2.issues token) ≤ 1
  /-- One descendant at most is unrevoked. -/
  one : ∀ a b, Descends login x.log a → Descends login x.log b → Unrevoked a x → Unrevoked b x → a = b
  /-- After a logout with the current token none is. -/
  loggedOut : ∀ tid token, (tid, .tokenLoggedOut token) ∈ x.log → Descends login x.log token →
    CalledWhileCurrent tid token x.log → ∀ a, Descends login x.log a → ¬ Unrevoked a x

/-! ## The chain -/

/-- A descendant that has not been exchanged. -/
def Last (login : ℕ) (log : List (ℕ × Event)) (token : ℕ) : Prop :=
  Descends login log token ∧ ∀ tid child, (tid, .tokenIssued token child) ∉ log

/-- **The chain of a login**: its tokens are revoked before they are exchanged, one after the other. -/
structure TokenInv (login : ℕ) (x : LoggedWorld) : Prop where
  spentOnce : ∀ tid tid' token, (tid, .tokenSpent token) ∈ x.log → (tid', .tokenSpent token) ∈ x.log →
    tid = tid'
  revoked : ∀ tid token, (tid, .tokenSpent token) ∈ x.log → Revoked token x
  issuer : ∀ tid token child, (tid, .tokenIssued token child) ∈ x.log →
    x.own tid = [.tokenSpent token, .tokenIssued token child]
  once : ∀ token, x.log.countP (fun entry => entry.2.issues token) ≤ 1
  rows : ∀ token, Descends login x.log token → x.state.db.refreshTokens.get? token ≠ none
  last : ∀ a b, Last login x.log a → Last login x.log b → a = b
  loggedOut : ∀ tid token, (tid, .tokenLoggedOut token) ∈ x.log → CalledWhileCurrent tid token x.log →
    Revoked token x ∧ ∀ t, (t, .tokenSpent token) ∉ x.log

section Chain

variable {login token child tid : ℕ} {log : List (ℕ × Event)} {e : Event} {x : LoggedWorld}

theorem not_unrevoked_of_revoked (h : Revoked token x) : ¬ Unrevoked token x := by
  rintro ⟨row, hrow, hunrevoked⟩
  obtain ⟨row', hrow', hrevoked⟩ := h
  obtain rfl := Option.some.inj (hrow.symm.trans hrow')
  exact Bool.false_ne_true (hunrevoked.symm.trans hrevoked)

/-- A token that is unrevoked has not been exchanged. -/
theorem TokenInv.not_issued (h : TokenInv login x) (hunrevoked : Unrevoked token x) (t child : ℕ) :
    (t, .tokenIssued token child) ∉ x.log := by
  intro hmem
  have hspent : (t, .tokenSpent token) ∈ x.log := by
    rw [← Logged.mem_own, h.issuer t token child hmem]
    exact List.mem_cons_self
  exact not_unrevoked_of_revoked (h.revoked t token hspent) hunrevoked

/-- The chain rotates. -/
theorem TokenInv.rotates (h : TokenInv login x) : RotatesLinearly login x where
  once := h.once
  one a b ha hb ha' hb' := h.last a b ⟨ha, h.not_issued ha'⟩ ⟨hb, h.not_issued hb'⟩
  loggedOut tid token hmem hdesc hcurrent a ha ha' := by
    obtain ⟨hrevoked, hunspent⟩ := h.loggedOut tid token hmem hcurrent
    -- what has not been spent has not been exchanged, so the token is the last one
    have hlast : Last login x.log token := by
      refine ⟨hdesc, fun t child hissued => hunspent t ?_⟩
      rw [← Logged.mem_own, h.issuer t token child hissued]
      exact List.mem_cons_self
    obtain rfl := h.last a token ⟨ha, h.not_issued ha'⟩ hlast
    exact not_unrevoked_of_revoked hrevoked ha'

theorem CalledWhileCurrent.of_append {entry : ℕ × Event}
    (h : CalledWhileCurrent tid token (log ++ [entry])) :
    CalledWhileCurrent tid token log ∨ entry = (tid, .logoutCalled token) := by
  obtain ⟨before, later, heq, hbefore⟩ := h
  rcases List.eq_nil_or_concat later with rfl | ⟨later, entry', rfl⟩
  · exact Or.inr (List.append_inj_right' heq rfl |> List.singleton_inj.mp)
  · left
    refine ⟨before, later, ?_, hbefore⟩
    have heq' : log ++ [entry] = (before ++ (tid, .logoutCalled token) :: later) ++ [entry'] := by
      rw [heq, List.append_assoc, List.cons_append, List.concat_eq_append]
    exact List.append_inj_left' heq' rfl

/-- Events that issue nothing add no descendants. -/
theorem descends_append {entry : ℕ × Event} (he : ∀ a b, entry.2 ≠ .tokenIssued a b)
    (h : Descends login (log ++ [entry]) token) : Descends login log token := by
  induction h with
  | login => exact .login
  | issued _ hmem ih =>
    rcases List.mem_append.mp hmem with hold | hnew
    · exact .issued ih hold
    · exact absurd (congrArg Prod.snd (List.mem_singleton.mp hnew)).symm (he _ _)

/-- A token that is issued adds itself, where nothing has been exchanged for it. -/
theorem descends_issued {parent : ℕ} (hfresh : ∀ t c, (t, .tokenIssued child c) ∉ log)
    (h : Descends login (log ++ [(tid, .tokenIssued parent child)]) token) :
    Descends login log token ∨ token = child ∧ Descends login log parent := by
  induction h with
  | login => exact Or.inl .login
  | issued hbefore hmem ih =>
    rcases List.mem_append.mp hmem with hold | hnew
    · rcases ih with hdesc | ⟨rfl, -⟩
      · exact Or.inl (.issued hdesc hold)
      · exact absurd hold (hfresh _ _)
    · obtain ⟨-, hevent⟩ := Prod.mk.injEq .. ▸ List.mem_singleton.mp hnew
      obtain ⟨rfl, rfl⟩ := Event.tokenIssued.injEq .. ▸ hevent
      rcases ih with hdesc | ⟨-, hdesc⟩
      · exact Or.inr ⟨rfl, hdesc⟩
      · exact Or.inr ⟨rfl, hdesc⟩

end Chain

/-! ## The steps -/

/-- The tokens are there still, and those that were revoked still are. -/
def TokensKept (d d' : Db) : Prop :=
  ∀ token row, d.refreshTokens.get? token = some row →
    ∃ row', d'.refreshTokens.get? token = some row' ∧ (row.revoked = true → row'.revoked = true)

section Steps

variable {login token child tid : ℕ} {e : Event} {s : World} {x y : LoggedWorld}

theorem Revoked.kept (h : Revoked token x) (hkept : TokensKept x.state.db y.state.db) :
    Revoked token y := by
  obtain ⟨row, hrow, hrevoked⟩ := h
  obtain ⟨row', hrow', hstill⟩ := hkept token row hrow
  exact ⟨row', hrow', hstill hrevoked⟩

theorem TokensKept.rows (hkept : TokensKept x.state.db y.state.db)
    (h : x.state.db.refreshTokens.get? token ≠ none) : y.state.db.refreshTokens.get? token ≠ none := by
  obtain ⟨row, hrow⟩ := Option.ne_none_iff_exists'.mp h
  obtain ⟨row', hrow', -⟩ := hkept token row hrow
  exact hrow' ▸ Option.some_ne_none _

/-- Steps that report nothing and leave the tokens keep the chain. -/
theorem TokenInv.same (h : TokenInv login x) (hlog : y.log = x.log)
    (hkept : TokensKept x.state.db y.state.db) : TokenInv login y := by
  have hown : ∀ t, y.own t = x.own t := fun t => by rw [Logged.own, Logged.own, hlog]
  constructor
  · rw [hlog]
    exact h.spentOnce
  · rw [hlog]
    exact fun t token hmem => (h.revoked t token hmem).kept hkept
  · rw [hlog]
    exact fun t token child hmem => (hown t).trans (h.issuer t token child hmem)
  · rw [hlog]
    exact h.once
  · rw [hlog]
    exact fun token hdesc => hkept.rows (h.rows token hdesc)
  · rw [hlog]
    exact h.last
  · rw [hlog]
    intro t token hmem hcurrent
    obtain ⟨hrevoked, hunspent⟩ := h.loggedOut t token hmem hcurrent
    exact ⟨hrevoked.kept hkept, hunspent⟩

/-- **A step that issues no token** keeps the chain, if it spends an unrevoked token at most. -/
theorem TokenInv.next (h : TokenInv login x) (hkept : TokensKept x.state.db s.db)
    (hissues : ∀ a b, e ≠ .tokenIssued a b)
    (howner : ∀ a b, x.own tid ≠ [.tokenSpent a, .tokenIssued a b])
    (hspent : ∀ a, e = .tokenSpent a → Unrevoked a x ∧ Revoked a (x.next tid [e] s))
    (hloggedOut : ∀ t a, (t, .tokenLoggedOut a) ∈ (x.next tid [e] s).log →
      CalledWhileCurrent t a (x.next tid [e] s).log →
      Revoked a (x.next tid [e] s) ∧ ∀ t', (t', .tokenSpent a) ∉ (x.next tid [e] s).log) :
    TokenInv login (x.next tid [e] s) := by
  -- an entry of the log is an old one or the one of this step
  have hmem : ∀ {entry : ℕ × Event}, entry ∈ (x.next tid [e] s).log →
      entry ∈ x.log ∨ entry = (tid, e) := by
    intro entry hentry
    rcases List.mem_append.mp hentry with hold | hnew
    · exact Or.inl hold
    · exact Or.inr (List.mem_singleton.mp hnew)
  have hissued : ∀ {t a b}, (t, Event.tokenIssued a b) ∈ (x.next tid [e] s).log →
      (t, Event.tokenIssued a b) ∈ x.log := by
    intro t a b hentry
    rcases hmem hentry with hold | heq
    · exact hold
    · exact absurd (Prod.mk.injEq .. ▸ heq).2.symm (hissues a b)
  have hdescends : ∀ {a}, Descends login (x.next tid [e] s).log a → Descends login x.log a :=
    fun hdesc => descends_append hissues hdesc
  constructor
  · intro t t' a ha ha'
    rcases hmem ha with hold | heq
    · rcases hmem ha' with hold' | heq'
      · exact h.spentOnce t t' a hold hold'
      · -- what is spent now was not revoked, so it had not been spent before
        have hnew := hspent a (Prod.mk.injEq .. ▸ heq').2.symm
        exact absurd hnew.1 (not_unrevoked_of_revoked (h.revoked t a hold))
    · have hnew := hspent a (Prod.mk.injEq .. ▸ heq).2.symm
      rcases hmem ha' with hold' | heq'
      · exact absurd hnew.1 (not_unrevoked_of_revoked (h.revoked t' a hold'))
      · exact (Prod.mk.injEq .. ▸ heq).1.trans (Prod.mk.injEq .. ▸ heq').1.symm
  · intro t a ha
    rcases hmem ha with hold | heq
    · exact (h.revoked t a hold).kept hkept
    · exact (hspent a (Prod.mk.injEq .. ▸ heq).2.symm).2
  · intro t a b hentry
    -- the issuer of a token has ended, and this thread has not
    have hown := h.issuer t a b (hissued hentry)
    have hne : t ≠ tid := by
      rintro rfl
      exact howner a b hown
    rw [Logged.own_next_ne hne, hown]
  · intro a
    have hnone : e.issues a = false := by
      cases e with
      | tokenIssued a' b => exact absurd rfl (hissues a' b)
      | _ => rfl
    have hcount : (x.next tid [e] s).log.countP (fun entry => entry.2.issues a) =
        x.log.countP fun entry => entry.2.issues a := by
      simp [Logged.next, List.countP_append, hnone]
    rw [hcount]
    exact h.once a
  · exact fun a hdesc => hkept.rows (h.rows a (hdescends hdesc))
  · rintro a b ⟨ha, hnota⟩ ⟨hb, hnotb⟩
    refine h.last a b ⟨hdescends ha, fun t c hmem => ?_⟩ ⟨hdescends hb, fun t c hmem => ?_⟩
    · exact hnota t c (List.mem_append_left _ hmem)
    · exact hnotb t c (List.mem_append_left _ hmem)
  · exact hloggedOut

theorem mem_next_singleton {entry : ℕ × Event} (h : entry ∈ (x.next tid [e] s).log) :
    entry ∈ x.log ∨ entry = (tid, e) := by
  rcases List.mem_append.mp h with hold | hnew
  · exact Or.inl hold
  · exact Or.inr (List.mem_singleton.mp hnew)

/-- What the chain says of logouts, after an event that concerns none. -/
theorem TokenInv.loggedOut_next (h : TokenInv login x) (hkept : TokensKept x.state.db s.db)
    (hlogout : ∀ a, e ≠ .tokenLoggedOut a) (hcalled : ∀ a, e ≠ .logoutCalled a)
    (hspent : ∀ a, e = .tokenSpent a → Unrevoked a x) {t a : ℕ}
    (hmem : (t, .tokenLoggedOut a) ∈ (x.next tid [e] s).log)
    (hcurrent : CalledWhileCurrent t a (x.next tid [e] s).log) :
    Revoked a (x.next tid [e] s) ∧ ∀ t', (t', .tokenSpent a) ∉ (x.next tid [e] s).log := by
  have hold : (t, .tokenLoggedOut a) ∈ x.log := by
    rcases mem_next_singleton hmem with hold | heq
    · exact hold
    · exact absurd (Prod.mk.injEq .. ▸ heq).2.symm (hlogout a)
  have hcurrent' : CalledWhileCurrent t a x.log := by
    rcases hcurrent.of_append with hold | heq
    · exact hold
    · exact absurd (Prod.mk.injEq .. ▸ heq).2 (hcalled a)
  obtain ⟨hrevoked, hunspent⟩ := h.loggedOut t a hold hcurrent'
  refine ⟨hrevoked.kept hkept, fun t' hspends => ?_⟩
  rcases mem_next_singleton hspends with hbefore | heq
  · exact hunspent t' hbefore
  · exact not_unrevoked_of_revoked hrevoked (hspent a (Prod.mk.injEq .. ▸ heq).2.symm)

/-- **An exchange revokes its token**, which is unrevoked. -/
theorem TokenInv.spent (h : TokenInv login x) (hkept : TokensKept x.state.db s.db)
    (hfresh : x.own tid = []) (hunrevoked : Unrevoked token x)
    (hrevoked : Revoked token (x.next tid [.tokenSpent token] s)) :
    TokenInv login (x.next tid [.tokenSpent token] s) := by
  have hspent : ∀ a, Event.tokenSpent token = .tokenSpent a → a = token := by
    rintro a ⟨⟩
    rfl
  refine h.next hkept (by simp) (by simp [hfresh]) ?_ ?_
  · intro a ha
    rw [hspent a ha]
    exact ⟨hunrevoked, hrevoked⟩
  · intro t a hmem hcurrent
    refine h.loggedOut_next hkept (by simp) (by simp) ?_ hmem hcurrent
    intro a ha
    rw [hspent a ha]
    exact hunrevoked

/-- **A logout is called.** -/
theorem TokenInv.called (h : TokenInv login x) (hkept : TokensKept x.state.db s.db)
    (hfresh : x.own tid = []) : TokenInv login (x.next tid [.logoutCalled token] s) := by
  refine h.next hkept (by simp) (by simp [hfresh]) (by simp) fun t a hmem hcurrent => ?_
  have hold : (t, .tokenLoggedOut a) ∈ x.log := by
    rcases mem_next_singleton hmem with hold | heq
    · exact hold
    · cases (Prod.mk.injEq .. ▸ heq).2
  have hcurrent' : CalledWhileCurrent t a x.log := by
    rcases hcurrent.of_append with hbefore | heq
    · exact hbefore
    · -- the thread that is called has not logged out before
      obtain ⟨rfl, -⟩ := Prod.mk.injEq .. ▸ heq
      exact absurd (Logged.mem_own.mpr hold) (hfresh ▸ List.not_mem_nil)
  obtain ⟨hrevoked, hunspent⟩ := h.loggedOut t a hold hcurrent'
  refine ⟨hrevoked.kept hkept, fun t' hspends => ?_⟩
  rcases mem_next_singleton hspends with hbefore | heq
  · exact hunspent t' hbefore
  · cases (Prod.mk.injEq .. ▸ heq).2

/-- **A logout revokes its token**, which no exchange has revoked if it was the current one. -/
theorem TokenInv.logged (h : TokenInv login x) (hkept : TokensKept x.state.db s.db)
    (hcalled : x.own tid = [.logoutCalled token])
    (hcond : CalledWhileCurrent tid token x.log → ∀ t, (t, .tokenSpent token) ∉ x.log)
    (hrevoked : Revoked token (x.next tid [.tokenLoggedOut token] s)) :
    TokenInv login (x.next tid [.tokenLoggedOut token] s) := by
  refine h.next hkept (by simp) (by simp [hcalled]) (by simp) fun t a hmem hcurrent => ?_
  have hcurrent' : CalledWhileCurrent t a x.log := by
    rcases hcurrent.of_append with hbefore | heq
    · exact hbefore
    · cases (Prod.mk.injEq .. ▸ heq).2
  have hunspent : (∀ t', (t', .tokenSpent a) ∉ x.log) →
      ∀ t', (t', .tokenSpent a) ∉ (x.next tid [.tokenLoggedOut token] s).log := by
    intro hbefore t' hspends
    rcases mem_next_singleton hspends with hold | heq
    · exact hbefore t' hold
    · cases (Prod.mk.injEq .. ▸ heq).2
  rcases mem_next_singleton hmem with hold | heq
  · obtain ⟨hrevoked', hbefore⟩ := h.loggedOut t a hold hcurrent'
    exact ⟨hrevoked'.kept hkept, hunspent hbefore⟩
  · obtain ⟨rfl, hevent⟩ := Prod.mk.injEq .. ▸ heq
    obtain rfl := Event.tokenLoggedOut.injEq .. ▸ hevent
    exact ⟨hrevoked, hunspent (hcond hcurrent')⟩

/-- **An exchange issues the next token**, which nobody has. -/
theorem TokenInv.issued (h : TokenInv login x) (hkept : TokensKept x.state.db s.db)
    (hspent : x.own tid = [.tokenSpent token])
    (hfresh : x.state.db.refreshTokens.get? child = none)
    (hthere : s.db.refreshTokens.get? child ≠ none) :
    TokenInv login (x.next tid [.tokenIssued token child] s) := by
  have hmem : ∀ {entry : ℕ × Event}, entry ∈ (x.next tid [.tokenIssued token child] s).log →
      entry ∈ x.log ∨ entry = (tid, .tokenIssued token child) := mem_next_singleton
  have hspentHere : (tid, .tokenSpent token) ∈ x.log := by
    rw [← Logged.mem_own, hspent]
    exact List.mem_singleton_self _
  -- nobody else has exchanged the token
  have hunissued : ∀ t c, (t, .tokenIssued token c) ∉ x.log := by
    intro t c hentry
    have hown := h.issuer t token c hentry
    have hspends : (t, .tokenSpent token) ∈ x.log := by
      rw [← Logged.mem_own, hown]
      exact List.mem_cons_self
    obtain rfl := h.spentOnce t tid token hspends hspentHere
    rw [hspent] at hown
    cases hown
  have hnochild : ∀ t c, (t, .tokenIssued child c) ∉ x.log := by
    intro t c hentry
    have hspends : (t, .tokenSpent child) ∈ x.log := by
      rw [← Logged.mem_own, h.issuer t child c hentry]
      exact List.mem_cons_self
    obtain ⟨row, hrow, -⟩ := h.revoked t child hspends
    cases hfresh.symm.trans hrow
  have hdescends : ∀ {a}, Descends login (x.next tid [.tokenIssued token child] s).log a →
      Descends login x.log a ∨ a = child ∧ Descends login x.log token :=
    fun hdesc => descends_issued hnochild hdesc
  have hspends : ∀ {t a}, (t, .tokenSpent a) ∈ (x.next tid [.tokenIssued token child] s).log →
      (t, .tokenSpent a) ∈ x.log := by
    intro t a hentry
    rcases hmem hentry with hold | heq
    · exact hold
    · cases (Prod.mk.injEq .. ▸ heq).2
  constructor
  · exact fun t t' a ha ha' => h.spentOnce t t' a (hspends ha) (hspends ha')
  · exact fun t a ha => (h.revoked t a (hspends ha)).kept hkept
  · intro t a b hentry
    rcases hmem hentry with hold | heq
    · have hown := h.issuer t a b hold
      have hne : t ≠ tid := by
        rintro rfl
        rw [hspent] at hown
        cases hown
      rw [Logged.own_next_ne hne, hown]
    · obtain ⟨rfl, hevent⟩ := Prod.mk.injEq .. ▸ heq
      obtain ⟨rfl, rfl⟩ := Event.tokenIssued.injEq .. ▸ hevent
      rw [Logged.own_next_self, hspent]
      rfl
  · intro a
    have hcount : (x.next tid [.tokenIssued token child] s).log.countP
        (fun entry => entry.2.issues a) =
        x.log.countP (fun entry => entry.2.issues a) + if token == a then 1 else 0 := by
      simp [Logged.next, List.countP_append, Event.issues]
    rw [hcount]
    by_cases ha : token = a
    · -- the first exchange of the token
      have hzero : x.log.countP (fun entry => entry.2.issues a) = 0 := by
        rw [List.countP_eq_zero]
        rintro ⟨t, e⟩ hentry hissues
        cases e with
        | tokenIssued parent c =>
          obtain rfl := (eq_of_beq hissues).trans ha.symm
          exact hunissued t c hentry
        | _ => cases hissues
      rw [hzero, beq_iff_eq.mpr ha]
      rfl
    · rw [beq_false_of_ne ha]
      exact h.once a
  · intro a hdesc
    rcases hdescends hdesc with hbefore | ⟨rfl, -⟩
    · exact hkept.rows (h.rows a hbefore)
    · exact hthere
  · -- the token that was the last one is not any longer, and its child is
    have hlast : ∀ {a}, Last login (x.next tid [.tokenIssued token child] s).log a →
        (Last login x.log a ∧ a ≠ token) ∨ a = child ∧ Last login x.log token := by
      rintro a ⟨hdesc, hnot⟩
      rcases hdescends hdesc with hbefore | ⟨rfl, htoken⟩
      · refine Or.inl ⟨⟨hbefore, fun t c hentry => hnot t c (List.mem_append_left _ hentry)⟩, ?_⟩
        rintro rfl
        exact hnot tid child (List.mem_append_right _ (List.mem_singleton_self _))
      · exact Or.inr ⟨rfl, htoken, hunissued⟩
    intro a b ha hb
    rcases hlast ha with ⟨ha', hne⟩ | ⟨rfl, htoken⟩
    · rcases hlast hb with ⟨hb', -⟩ | ⟨rfl, htoken⟩
      · exact h.last a b ha' hb'
      · exact absurd (h.last a token ha' htoken) hne
    · rcases hlast hb with ⟨hb', hne⟩ | ⟨rfl, -⟩
      · exact absurd (h.last b token hb' htoken) hne
      · rfl
  · intro t a hentry hcurrent
    exact h.loggedOut_next hkept (by simp) (by simp) (by simp) hentry hcurrent

end Steps

/-! ## The protocol -/

/-- The protocol of exchanges and logouts; what a thread has reported, only it adds to. -/
def tokenProtocol (login : ℕ) : Protocol tokenPool RotatingStep fun _ _ => True where
  Inv := TokenInv login
  Rely tid x y := y.own tid = x.own tid
  Guar tid x y := ∀ t, t ≠ tid → y.own t = x.own t
  Post _ _ _ := True
  rely_refl _ _ := rfl
  rely_trans h h' := h'.trans h
  guar_rely hne _ h := h _ hne
  env_inv h _ := h.same rfl fun _ row hrow => ⟨row, hrow, id⟩
  env_rely _ _ _ := rfl
  post_stable _ _ _ := trivial

/-- A thread has reported these events. -/
def Reported (tid : ℕ) (events : List Event) (x : LoggedWorld) : Prop := x.own tid = events

/-- The refresh tokens. -/
def tokenFrame : Frame where
  db := Db.refreshTokens
  stripe _ := ()
  events _ := False

section Safe

variable {login tid : ℕ} {op : TokenOp} {β : Type} {events : List Event} {y : LoggedWorld}

theorem stable_reported (events : List Event) :
    (tokenProtocol login).Stable tid (Reported tid events) := fun _ _ hx h _ => Eq.trans h hx

/-- A step that leaves the tokens alone and reports nothing. -/
theorem keeps_apart {c : Call β} (hc : c.Leaves tokenFrame) (hy : Reported tid events y)
    (hinv : TokenInv login y) :
    (tokenProtocol login).Keeps op tid c y fun _ z => Reported tid events z := by
  refine keeps_leaves hc fun i b es s hdb _ hes _ => ?_
  obtain rfl : es = [] := List.eq_nil_iff_forall_not_mem.mpr hes
  refine ⟨fun t ht => Logged.own_next_ne ht, ?_, ?_⟩
  · refine hinv.same (List.append_nil _) fun token row hrow => ⟨row, ?_, id⟩
    exact (congrArg (Table.get? · token) hdb).trans hrow
  · rw [Reported, Logged.own_next_self, List.append_nil]
    exact hy

theorem safe_tokenRead {x : LoggedWorld} {s : Stmt β} (h : s.write = fun _ d => d)
    (hx : Reported tid events x) :
    (tokenProtocol login).Safe op tid (fun _ z => Reported tid events z) (sql s) x :=
  Protocol.Safe.perform (stable_reported events) hx fun _ hy hinv =>
    keeps_apart ⟨fun _ => by simpa using leaves_read h, fun _ _ he => absurd he List.not_mem_nil⟩ hy hinv

/-- The revocation of an exchange. -/
theorem keeps_spend {token : ℕ} (hy : Reported tid [] y) (hinv : TokenInv login y) :
    (tokenProtocol login).Keeps op tid
      (.transact (fun _ => Program.perform <| update refreshTokens token fun row =>
        { row with revoked := true }) fun _ => [.tokenSpent token]) y
      fun r z => match r with
        | .ok _ => Reported tid [.tokenSpent token] z
        | .error _ => True := by
  refine keeps_transact (fun row' d hbody hcond => ?_) fun _ _ _ _ => ⟨fun _ _ => rfl, hinv, trivial⟩
  obtain ⟨row, hrow, -, rfl⟩ := Service.atomic_update hbody
  have hrow' : y.state.db.refreshTokens.get? token = some row := hrow
  have htable : ∀ t, (y.state.db.refreshTokens.modify token fun row =>
      { row with revoked := true }).get? t =
        (y.state.db.refreshTokens.get? t).map fun row =>
          if t = token then { row with revoked := true } else row := by
    intro t
    rw [Table.get?_modify]
    split_ifs with ht
    · rfl
    · exact Option.map_id'.symm
  refine ⟨fun t ht => Logged.own_next_ne ht, hinv.spent ?_ hy (hcond.spent token ?_) ?_, ?_⟩
  · intro t row hrow
    refine ⟨_, (htable t).trans (congrArg _ hrow), ?_⟩
    split_ifs
    · exact fun _ => rfl
    · exact id
  · exact List.mem_singleton_self _
  · exact ⟨_, (htable token).trans (congrArg _ hrow'), congrArg RefreshToken.revoked (if_pos rfl)⟩
  · rw [Reported, Logged.own_next_self, hy]
    rfl

/-- The next token of an exchange. -/
theorem keeps_generate {token userId : ℕ} (hy : Reported tid [.tokenSpent token] y)
    (hinv : TokenInv login y) :
    (tokenProtocol login).Keeps op tid
      (.transact (fun ctx => do
        Program.command <| create refreshTokens ctx.uuid { userId := userId }
        return ctx.uuid) fun child => [.tokenIssued token child]) y fun _ _ => True := by
  refine keeps_transact (fun child d hbody _ => ?_) fun _ _ _ _ => ⟨fun _ _ => rfl, hinv, trivial⟩
  obtain ⟨rfl, rfl⟩ := Prod.mk.injEq .. ▸ Except.ok.inj hbody
  have hfresh : y.state.db.refreshTokens.get? y.state.db.freshId = none :=
    Table.get?_of_nextKey_le (Db.le_freshId (by simp [Db.idBounds]))
  have htable := Table.get?_insert hfresh { userId := userId, revoked := false }
  refine ⟨fun t ht => Logged.own_next_ne ht, hinv.issued ?_ hy hfresh ?_, trivial⟩
  · intro t row hrow
    refine ⟨row, (htable t).trans ?_, id⟩
    rw [if_neg, hrow]
    rintro rfl
    cases hfresh.symm.trans hrow
  · intro hnone
    have hsome := (htable y.state.db.freshId).symm.trans hnone
    rw [if_pos rfl] at hsome
    cases hsome

/-- The revocation of a logout. -/
theorem keeps_logout {token : ℕ} (hy : Reported tid [.logoutCalled token] y)
    (hinv : TokenInv login y) :
    (tokenProtocol login).Keeps op tid
      (.transact (fun _ => Program.command <| updateMany refreshTokens (fun t _ => t == token)
        fun row => { row with revoked := true })
        fun updated => if updated.isEmpty then [] else [.tokenLoggedOut token]) y fun _ _ => True := by
  refine keeps_transact (fun updated d hbody hcond => ?_)
    fun _ _ _ _ => ⟨fun _ _ => rfl, hinv, trivial⟩
  obtain ⟨rfl, rfl⟩ := Prod.mk.injEq .. ▸ Except.ok.inj hbody
  have htable : ∀ t, (y.state.db.refreshTokens.modifyWhere
      (fun id _ => y.state.db.refreshTokens.holds (fun t _ => t == token) id)
        fun row => { row with revoked := true }).get? t =
        (y.state.db.refreshTokens.get? t).map fun row =>
          if t = token then { row with revoked := true } else row := by
    intro t
    rw [Table.get?_modifyWhere]
    cases hrow : y.state.db.refreshTokens.get? t with
    | none => rfl
    | some row => simp [Table.holds, hrow]
  have hkept : TokensKept y.state.db
      ((updateMany refreshTokens (fun t _ => t == token) fun row =>
        { row with revoked := true }).write y.state.db y.state.db) := by
    intro t row hrow
    refine ⟨_, (htable t).trans (congrArg _ hrow), ?_⟩
    split_ifs
    · exact fun _ => rfl
    · exact id
  refine ⟨fun t ht => Logged.own_next_ne ht, ?_, trivial⟩
  -- a token that is not there is not logged out
  cases hupdated : ((updateMany refreshTokens (fun t _ => t == token) fun row =>
      { row with revoked := true }).answer y.state.db) with
  | nil => exact hinv.same (List.append_nil _) hkept
  | cons t updated =>
    have hmem : t ∈ (y.state.db.refreshTokens.filter fun t _ => t == token).map Prod.fst := by
      rw [show (y.state.db.refreshTokens.filter fun t _ => t == token).map Prod.fst = t :: updated
        from hupdated]
      exact List.mem_cons_self
    obtain ⟨⟨t', row⟩, hrow, rfl⟩ := List.mem_map.mp hmem
    obtain ⟨hrow', ht⟩ := Table.mem_filter_iff.mp hrow
    obtain rfl : t' = token := eq_of_beq ht
    rw [hupdated] at hcond
    refine hinv.logged hkept hy (hcond.loggedOut t' (List.mem_singleton_self _)) ?_
    exact ⟨_, (htable t').trans (congrArg _ hrow'), congrArg RefreshToken.revoked (if_pos rfl)⟩

theorem safe_refreshTokenService {x : LoggedWorld} (decoded : Except Err ℕ) (refreshToken : ℕ)
    (hx : Reported tid [] x) :
    (tokenProtocol login).Safe op tid (fun _ _ => True) (refreshTokenService decoded refreshToken) x := by
  refine Protocol.Safe.guarded ?_ fun _ _ _ => trivial
  cases decoded with
  | error e => trivial
  | ok userId =>
    -- verifying the signature is no step
    refine Protocol.Safe.bind (Protocol.Safe.bind ((safe_tokenRead rfl hx).mono ?_))
    rintro (e | tokenDoc) y hy
    · trivial
    cases tokenDoc with
    | none => trivial
    | some found =>
      obtain ⟨token, row⟩ := found
      refine Protocol.Safe.bind (Protocol.Safe.perform (stable_reported []) hy fun z hz hinv => ?_)
      intro i r es s hexec hcond
      obtain ⟨hguar, hinv', hspent⟩ := keeps_spend hz hinv i r es s hexec hcond
      refine ⟨hguar, hinv', ?_⟩
      cases r with
      | error e => trivial
      | ok row' =>
        refine Protocol.Safe.bind ((safe_tokenRead rfl hspent).mono ?_)
        rintro (e | user) v hv
        · trivial
        cases user with
        | none => trivial
        | some found =>
          refine Protocol.Safe.bind (Protocol.Safe.perform (stable_reported _) hv fun u hu hinv => ?_)
          intro i' r' es' s' hexec' hcond'
          obtain ⟨hguar', hinv'', -⟩ := keeps_generate hu hinv i' r' es' s' hexec' hcond'
          refine ⟨hguar', hinv'', ?_⟩
          cases r' with
          | error e => trivial
          | ok child => trivial

theorem safe_logoutService {x : LoggedWorld} (refreshToken : ℕ) (hx : Reported tid [] x) :
    (tokenProtocol login).Safe op tid (fun _ _ => True) (logoutService refreshToken) x := by
  refine Protocol.Safe.guarded ?_ fun _ _ _ => trivial
  refine Protocol.Safe.bind (Protocol.Safe.command (stable_reported []) hx fun y hy hinv => ?_)
  intro i b es s hexec _
  obtain ⟨rfl, rfl, rfl⟩ := exec_eq hexec
  refine ⟨fun t ht => Logged.own_next_ne ht, hinv.called (fun _ row hrow => ⟨row, hrow, id⟩) hy, ?_⟩
  have hcalled : Reported tid [.logoutCalled refreshToken]
      (y.next tid [.logoutCalled refreshToken] y.state) := by
    rw [Reported, Logged.own_next_self, hy]
    rfl
  refine Protocol.Safe.bind (Protocol.Safe.perform (stable_reported _) hcalled fun z hz hinv => ?_)
  intro i' r es' s' hexec' hcond'
  obtain ⟨hguar, hinv', -⟩ := keeps_logout hz hinv i' r es' s' hexec' hcond'
  refine ⟨hguar, hinv', ?_⟩
  cases r with
  | error e => trivial
  | ok updated =>
    dsimp only
    split_ifs
    · trivial
    · trivial

theorem safeOperations_token : (tokenProtocol login).SafeOperations := by
  intro op tid x _ hfresh
  have hx : Reported tid [] x := Logged.own_eq_nil hfresh
  cases op with
  | refresh decoded refreshToken =>
    refine Protocol.Safe.bind ((safe_refreshTokenService decoded refreshToken hx).mono ?_)
    rintro (e | r) y _
    · trivial
    · trivial
  | logout refreshToken =>
    refine Protocol.Safe.bind ((safe_logoutService refreshToken hx).mono ?_)
    rintro (e | r) y _
    · trivial
    · trivial

end Safe

/-! ## Runs -/

/-- A world in which nobody has presented a token yet. -/
def tokenStart (w : World) : Pool Call Err Event World TokenOp where
  now := { state := w }

/-- **Tokens rotate** in an interleaving in which every exchange finds its token unrevoked when it revokes
it, and every logout with the current token finds that no exchange has revoked it. -/
theorem tokens_rotate (w : World) (login : ℕ) (hlogin : w.db.refreshTokens.get? login ≠ none)
    (moves : List (Move TokenOp Reply World))
    (h : History.Each (Pool.step tokenPool) (Pool.Meets tokenPool RotatingStep fun _ _ => True)
      (tokenStart w) moves) :
    History.Always (Pool.step tokenPool) (fun p => RotatesLinearly login p.now) (tokenStart w)
      moves := by
  have hstart : (tokenProtocol login).Holds (tokenStart w) := by
    refine Protocol.holds_of_inv ?_ rfl rfl
    have hdescends : ∀ a, Descends login (tokenStart w).now.log a → a = login := by
      rintro a (_ | ⟨-, hmem⟩)
      · rfl
      · cases hmem
    refine ⟨by simp [tokenStart], by simp [tokenStart], by simp [tokenStart], by simp [tokenStart], ?_,
      ?_, by simp [tokenStart]⟩
    · intro a ha
      rw [hdescends a ha]
      exact hlogin
    · rintro a b ⟨ha, -⟩ ⟨hb, -⟩
      rw [hdescends a ha, hdescends b hb]
  exact (Protocol.sound safeOperations_token hstart h).imp fun _ hp => hp.inv.rotates

section Runs

/-- A user who has logged in. -/
private def loggedInWorld : World where
  db := {
    users := ⟨[(3, {})], by simp⟩
    refreshTokens := ⟨[(1, { userId := 3 })], by simp⟩ }

/-- An exchange, and a logout with what it has issued. -/
private def exchangedOnce : List (Move TokenOp Reply World) :=
  [.start (.refresh (.ok 3) 1), .step 0 .ok, .step 0 .ok, .step 0 .ok, .step 0 .ok,
    .start (.logout 4), .step 1 .ok, .step 1 .ok]

theorem exchanged_once_rotates :
    History.Each (Pool.step tokenPool) (Pool.Meets tokenPool RotatingStep fun _ _ => True)
      (tokenStart loggedInWorld) exchangedOnce ∧
    History.Always (Pool.step tokenPool) (fun p => RotatesLinearly 1 p.now)
      (tokenStart loggedInWorld) exchangedOnce := by
  have hmeets : History.Each (Pool.step tokenPool)
      (Pool.Meets tokenPool RotatingStep fun _ _ => True) (tokenStart loggedInWorld)
      exchangedOnce := by
    refine ⟨trivial, ?_, ?_, ?_, ?_, trivial, ?_, ?_, trivial⟩
    all_goals rintro op rest ⟨⟩ b es s ⟨⟩
    · exact ⟨by simp, by simp⟩
    · refine ⟨fun token htoken => ?_, by simp⟩
      obtain rfl := Event.tokenSpent.injEq .. ▸ List.mem_singleton.mp htoken
      exact ⟨_, rfl, rfl⟩
    · exact ⟨by simp, by simp⟩
    · exact ⟨by simp, by simp⟩
    · exact ⟨by simp, by simp⟩
    · refine ⟨fun token htoken => ?_, fun token htoken _ t hspent => ?_⟩
      · cases List.mem_singleton.mp htoken
      · obtain rfl := Event.tokenLoggedOut.injEq .. ▸ List.mem_singleton.mp htoken
        have hmem : (t, .tokenSpent 4) ∈
            [(0, Event.tokenSpent 1), (0, .tokenIssued 1 4), (1, .logoutCalled 4)] := hspent
        simp at hmem
  exact ⟨hmeets, tokens_rotate _ _ (by simp [loggedInWorld]) _ hmeets⟩

/-- Two exchanges that have both read the token before either revokes it. -/
private def exchangedTwice : List (Move TokenOp Reply World) :=
  [.start (.refresh (.ok 3) 1), .start (.refresh (.ok 3) 1), .step 0 .ok, .step 1 .ok,
    .step 0 .ok, .step 1 .ok, .step 0 .ok, .step 1 .ok, .step 0 .ok, .step 1 .ok]

/-- A logout while the token is being exchanged. -/
private def loggedOutBetween : List (Move TokenOp Reply World) :=
  [.start (.refresh (.ok 3) 1), .start (.logout 1), .step 0 .ok, .step 0 .ok, .step 1 .ok,
    .step 1 .ok, .step 0 .ok, .step 0 .ok]

/-- **A token is exchanged twice**, and a session outlives the logout with its current token. -/
theorem tokens_fork :
    (Pool.Idle (History.after (Pool.step tokenPool) (tokenStart loggedInWorld) exchangedTwice) ∧
      ¬ RotatesLinearly 1
        (History.after (Pool.step tokenPool) (tokenStart loggedInWorld) exchangedTwice).now) ∧
    Pool.Idle (History.after (Pool.step tokenPool) (tokenStart loggedInWorld) loggedOutBetween) ∧
      ¬ RotatesLinearly 1
        (History.after (Pool.step tokenPool) (tokenStart loggedInWorld) loggedOutBetween).now := by
  refine ⟨⟨?_, fun h => ?_⟩, ?_, fun h => ?_⟩
  · intro t ht
    rcases List.mem_pair.mp ht with rfl | rfl
    · trivial
    · trivial
  · exact absurd (h.once 1) (by decide)
  · intro t ht
    rcases List.mem_pair.mp ht with rfl | rfl
    · trivial
    · trivial
  · have hissued : Descends 1 (History.after (Pool.step tokenPool) (tokenStart loggedInWorld)
        loggedOutBetween).now.log 4 :=
      .issued .login (show (0, .tokenIssued 1 4) ∈ [(0, Event.tokenSpent 1), (1, .logoutCalled 1),
        (1, .tokenLoggedOut 1), (0, .tokenIssued 1 4)] by simp)
    refine h.loggedOut 1 1 ?_ .login ⟨[(0, .tokenSpent 1)], _, rfl, by simp⟩ 4 hissued ⟨_, rfl, rfl⟩
    exact List.mem_cons_of_mem _ (List.mem_cons_of_mem _ List.mem_cons_self)

end Runs

end Deliivo

import Deliivo.Domain.Pool
import Deliivo.Licence.Writes

/-!
# The licence flag in step with its records

Webhooks and admins write the records of a user and the flag, in steps of their own, and decide from
what they have read before. Where a decision does not come in the way of an approval, and nothing comes
between an approval and the flag, a user is marked as verified exactly where there is an approved record
of the user, whenever no call is in progress, and that is what is reported then.

## Main definitions

* `LicenceOp`: the calls
* `LicenceStep`: the condition on the steps
* `LicenceInv`: what holds at all times

## Main results

* `flag_in_step`: if every step meets the condition, the flag of every user is in step with the records
  whenever no call is in progress
-/

open Program (Concurrent Logged Move Pool Protocol)

namespace Deliivo

/-- The calls that write of licences, and the one that reports. -/
inductive LicenceOp
  | handleWebhookDecision (verification : Option VeriffVerification)
  | submitDlDocument (userId : ℕ) (documentImageKey : String)
  | approveDlDocument (userId : ℕ)
  | declineDlDocument (userId : ℕ) (reason : String)
  | requestDlResubmission (userId : ℕ) (reason : String)
  | requireVeriffForUser (userId : ℕ)
  | getVerificationStatus (decided : List VeriffVerification) (userId : ℕ)

def LicenceOp.program : LicenceOp → Service Unit
  | .handleWebhookDecision verification => do
    let _ ← Deliivo.handleWebhookDecision verification
  | .submitDlDocument userId documentImageKey => Deliivo.submitDlDocument userId documentImageKey
  | .approveDlDocument userId => Deliivo.approveDlDocument userId
  | .declineDlDocument userId reason => Deliivo.declineDlDocument userId reason
  | .requestDlResubmission userId reason => Deliivo.requestDlResubmission userId reason
  | .requireVeriffForUser userId => Deliivo.requireVeriffForUser userId
  | .getVerificationStatus decided userId => do
    let _ ← Deliivo.getVerificationStatus decided userId

/-- Anything else that goes on: all of the world but the users and the records of licences. -/
def besidesLicences (w' w : World) : World :=
  { w' with db := { w'.db with users := w.db.users, dlVerifications := w.db.dlVerifications } }

/-- Calls about licences next to each other. -/
def licencePool : Concurrent Call Err Reply Event World World LicenceOp :=
  servicePool LicenceOp.program besidesLicences

/-! ## The condition -/

/-- Whether the event is an approval for the user. -/
def Event.approves (userId : ℕ) : Event → Bool
  | .decisionWritten _ u .approved => u == userId
  | _ => false

theorem Event.approves_iff {userId : ℕ} {e : Event} :
    e.approves userId = true ↔ ∃ s, e = .decisionWritten s userId .approved := by
  constructor
  · intro h
    unfold Event.approves at h
    split at h
    · exact ⟨_, by rw [beq_iff_eq.mp h]⟩
    · cases h
  · rintro ⟨s, rfl⟩
    exact beq_self_eq_true userId

/-- The thread that has written the last approval for the user. -/
def lastApproval (x : LoggedWorld) (userId : ℕ) : Option ℕ :=
  (x.log.reverse.find? fun entry => entry.2.approves userId).map Prod.fst

/-- A review is not submitted again for a user who has an approval, and not refused where there is one
besides it. -/
def ReviewRight (userId : ℕ) (status : DlVerificationStatus) (d : Db) : Prop :=
  status ≠ .approved → ∀ a ∈ d.licences, a.userId = userId → a.status = .approved →
    status ≠ .pending ∧ a.veriffSessionId = .manual userId

/-- What a step of a call has to meet. -/
structure LicenceStep (_ : LicenceOp) (tid : ℕ) (x : LoggedWorld) (reply : Reply) (es : List Event) :
    Prop where
  /-- A call that has registered a session gives up only where the session is behind. -/
  registered : ∀ s u, (tid, .sessionRegistered s u) ∈ x.log →
    reply = .ok ∨ SessionBehind x.state.db.licences s
  /-- One that has written the last approval of a user gives up only where the user is marked. -/
  approved : ∀ u, lastApproval x u = some tid → reply = .ok ∨ Agrees x.state.db u
  /-- A user who has an approval gets no other decision, and no user needs a record that is taken. -/
  decided : ∀ s u status, .decisionWritten s u status ∈ es →
    (status ≠ .approved → ¬ Approved x.state.db.licences u) ∧ DoWithout x.state.db s u
  /-- Who is marked still has an approval. -/
  marked : ∀ u, .licenceFlagged u ∈ es → Approved x.state.db.licences u
  reviewed : ∀ u status, .reviewWritten u status ∈ es → ReviewRight u status x.state.db
  cleared : ∀ u, .licenceCleared u ∈ es → ¬ Approved x.state.db.licences u

/-! ## The invariant -/

/-- **At all times** who is marked has an approval; who has an approval is marked, or somebody has
approved; and an open record is behind, or somebody has registered it. -/
structure LicenceInv (x : LoggedWorld) : Prop where
  flagged : ∀ u, Flagged x.state.db u → Approved x.state.db.licences u
  agrees : ∀ u, Agrees x.state.db u ∨ ∃ tid, lastApproval x u = some tid
  behind : ∀ r ∈ x.state.db.licences, r.IsOpen → Behind x.state.db.licences r ∨
    ∃ tid u, (tid, .sessionRegistered r.veriffSessionId u) ∈ x.log
  own : ManualOwn x.state.db.licences

/-- How others may have changed what a thread goes by. -/
structure LicenceRely (tid : ℕ) (x y : LoggedWorld) : Prop where
  own : y.own tid = x.own tid
  recorded : ∀ s, Recorded x.state.db.licences s → Recorded y.state.db.licences s
  settled : ∀ s, Recorded x.state.db.licences s → SessionBehind x.state.db.licences s →
    SessionBehind y.state.db.licences s
  agrees : ∀ u, lastApproval y u = some tid →
    lastApproval x u = some tid ∧ (Agrees x.state.db u → Agrees y.state.db u)

section Steps

variable {x : LoggedWorld} {s : World} {tid userId : ℕ} {es : List Event}

theorem lastApproval_next_of_mem {e : Event} (he : e ∈ es) (happroves : e.approves userId = true) :
    lastApproval (x.next tid es s) userId = some tid := by
  rw [lastApproval, Logged.next, List.reverse_append, List.find?_append]
  cases hfind : (es.map (Prod.mk tid)).reverse.find? fun entry => entry.2.approves userId with
  | none =>
    have hnone := List.find?_eq_none.mp hfind (tid, e)
      (List.mem_reverse.mpr (List.mem_map.mpr ⟨e, he, rfl⟩))
    exact absurd happroves hnone
  | some entry =>
    obtain ⟨e', -, rfl⟩ := List.mem_map.mp (List.mem_reverse.mp (List.mem_of_find?_eq_some hfind))
    rfl

theorem lastApproval_next_of_not (h : ∀ e ∈ es, e.approves userId = false) :
    lastApproval (x.next tid es s) userId = lastApproval x userId := by
  rw [lastApproval, Logged.next, List.reverse_append, List.find?_append]
  have hnone : (es.map (Prod.mk tid)).reverse.find? (fun entry => entry.2.approves userId) = none := by
    refine List.find?_eq_none.mpr fun entry hentry => ?_
    obtain ⟨e, he, rfl⟩ := List.mem_map.mp (List.mem_reverse.mp hentry)
    exact Bool.eq_false_iff.mp (h e he)
  rw [hnone, Option.none_or, lastApproval]

/-- The last approval is one of the step, or the one before it. -/
theorem lastApproval_next (x : LoggedWorld) (tid : ℕ) (es : List Event) (s : World) (u : ℕ) :
    (∃ session, .decisionWritten session u .approved ∈ es) ∧
        lastApproval (x.next tid es s) u = some tid ∨
      (∀ session, .decisionWritten session u .approved ∉ es) ∧
        lastApproval (x.next tid es s) u = lastApproval x u := by
  by_cases h : ∃ session, Event.decisionWritten session u .approved ∈ es
  · obtain ⟨session, hmem⟩ := h
    exact Or.inl ⟨⟨session, hmem⟩,
      lastApproval_next_of_mem hmem (Event.approves_iff.mpr ⟨session, rfl⟩)⟩
  · refine Or.inr ⟨not_exists.mp h, lastApproval_next_of_not fun e he => ?_⟩
    refine Bool.eq_false_iff.mpr fun happroves => h ?_
    obtain ⟨session, rfl⟩ := Event.approves_iff.mp happroves
    exact ⟨session, he⟩

/-- **One step** keeps the invariant, if its write keeps what writes keep. -/
theorem LicenceInv.next (h : LicenceInv x) (hw : LicenceWrite x.state.db s.db es) :
    LicenceInv (x.next tid es s) where
  flagged := hw.flagged h.flagged
  agrees u := by
    rcases lastApproval_next x tid es s u with ⟨-, hlast⟩ | ⟨hnot, hlast⟩
    · exact Or.inr ⟨tid, hlast⟩
    · rw [hlast]
      refine (h.agrees u).imp_left fun hagrees => ?_
      exact (hw.agrees u hagrees).resolve_right (not_exists.mpr hnot)
  behind r hr hopen := by
    rcases hw.behind r hr hopen with hbehind | ⟨hold, hkeeps⟩ | ⟨-, u, hregistered⟩
    · exact Or.inl hbehind
    · rcases h.behind r hold hopen with hbehind | ⟨t, u, hmem⟩
      · exact Or.inl (hkeeps hbehind)
      · exact Or.inr ⟨t, u, Logged.mem_next_log.mpr (Or.inl hmem)⟩
    · exact Or.inr ⟨tid, u, Logged.mem_next_log.mpr (Or.inr ⟨rfl, hregistered⟩)⟩
  own := hw.own h.own

theorem LicenceWrite.settled {d d' : Db} (hw : LicenceWrite d d' es) {session : SessionId}
    (hrecorded : Recorded d.licences session) (h : SessionBehind d.licences session) :
    SessionBehind d'.licences session := by
  rintro r hr rfl hopen
  rcases hw.behind r hr hopen with hbehind | ⟨hold, hkeeps⟩ | ⟨hnew, -⟩
  · exact hbehind
  · exact hkeeps (h r hold rfl hopen)
  · exact absurd hrecorded hnew

/-- What another thread may rely on. -/
theorem LicenceWrite.rely (hw : LicenceWrite x.state.db s.db es) {t : ℕ} (ht : t ≠ tid) :
    LicenceRely t x (x.next tid es s) where
  own := Logged.own_next_ne ht
  recorded := hw.recorded
  settled _ := hw.settled
  agrees u hlast := by
    rcases lastApproval_next x tid es s u with ⟨-, hnow⟩ | ⟨hnot, hsame⟩
    · exact absurd (Option.some.inj (hlast.symm.trans hnow)) ht
    · exact ⟨hsame.symm.trans hlast,
        fun hagrees => (hw.agrees u hagrees).resolve_right (not_exists.mpr hnot)⟩

theorem LicenceRely.refl (tid : ℕ) (x : LoggedWorld) : LicenceRely tid x x :=
  ⟨rfl, fun _ => id, fun _ _ => id, fun _ h => ⟨h, id⟩⟩

end Steps

/-! ## The protocol -/

/-- What a call has yet to do: all that it has registered is behind, but for `session`, and all whose last
approval it has written are marked, but for `userId`; the sessions in `K` have records. -/
structure LicenceDue (tid : ℕ) (session : Option SessionId) (userId : Option ℕ) (K : SessionId → Prop)
    (x : LoggedWorld) : Prop where
  registered : ∀ s u, (tid, .sessionRegistered s u) ∈ x.log →
    Recorded x.state.db.licences s ∧ (session ≠ some s → SessionBehind x.state.db.licences s)
  approved : ∀ u, lastApproval x u = some tid → userId ≠ some u → Agrees x.state.db u
  recorded : ∀ s, K s → Recorded x.state.db.licences s

/-- Nothing is due. -/
abbrev LicenceClear (tid : ℕ) : LoggedWorld → Prop := LicenceDue tid none none fun _ => False

theorem LicenceDue.rely {tid : ℕ} {session : Option SessionId} {userId : Option ℕ}
    {K : SessionId → Prop} {x y : LoggedWorld} (h : LicenceDue tid session userId K x)
    (hr : LicenceRely tid x y) : LicenceDue tid session userId K y where
  registered s u hmem := by
    rw [← Logged.mem_own, hr.own, Logged.mem_own] at hmem
    obtain ⟨hrecorded, hsettled⟩ := h.registered s u hmem
    exact ⟨hr.recorded s hrecorded, fun hne => hr.settled s hrecorded (hsettled hne)⟩
  approved u hlast hne := by
    obtain ⟨hbefore, hagrees⟩ := hr.agrees u hlast
    exact hagrees (h.approved u hbefore hne)
  recorded s hs := hr.recorded s (h.recorded s hs)

/-- The protocol of the calls: a call that has ended has nothing left to do. -/
def licenceProtocol : Protocol licencePool LicenceStep fun _ _ => True where
  Inv := LicenceInv
  Rely := LicenceRely
  Guar tid x y := ∀ t, t ≠ tid → LicenceRely t x y
  Post _ tid := LicenceClear tid
  rely_refl := LicenceRely.refl
  rely_trans h h' := by
    refine ⟨h'.own.trans h.own, fun s hs => h'.recorded s (h.recorded s hs), fun s hs hsettled => ?_,
      fun u hlast => ?_⟩
    · exact h'.settled s (h.recorded s hs) (h.settled s hs hsettled)
    · obtain ⟨hlast', hagrees'⟩ := h'.agrees u hlast
      obtain ⟨hlast'', hagrees⟩ := h.agrees u hlast'
      exact ⟨hlast'', fun hx => hagrees' (hagrees hx)⟩
  guar_rely hne _ h := h _ hne
  env_inv h _ := ⟨h.flagged, h.agrees, h.behind, h.own⟩
  env_rely tid _ _ := ⟨rfl, fun _ => id, fun _ _ => id, fun _ h => ⟨h, id⟩⟩
  post_stable h hr _ := h.rely hr

/-! ### Steps of a call -/

section Due

variable {op : LicenceOp} {tid : ℕ} {session : Option SessionId} {userId : Option ℕ}
  {K : SessionId → Prop} {x y : LoggedWorld}

theorem stable_licenceDue : licenceProtocol.Stable tid (LicenceDue tid session userId K) :=
  fun _ _ hx h _ => hx.rely h

theorem LicenceDue.mono {session' : Option SessionId} {userId' : Option ℕ} {K' : SessionId → Prop}
    (h : LicenceDue tid session userId K x) (hsession : ∀ s, session = some s → session' = some s)
    (huser : ∀ u, userId = some u → userId' = some u) (hK : ∀ s, K' s → K s) :
    LicenceDue tid session' userId' K' x where
  registered s u hmem :=
    ⟨(h.registered s u hmem).1, fun hne => (h.registered s u hmem).2 fun hs => hne (hsession s hs)⟩
  approved u hlast hne := h.approved u hlast fun hu => hne (huser u hu)
  recorded s hs := h.recorded s (hK s hs)

/-- A call that gives up where it may has nothing left to do. -/
theorem LicenceDue.failed {i : Reply} {es : List Event} (h : LicenceDue tid session userId K y)
    (hcond : LicenceStep op tid y i es) (hi : i ≠ .ok) : LicenceClear tid y where
  registered s u hmem :=
    ⟨(h.registered s u hmem).1, fun _ => (hcond.registered s u hmem).resolve_left hi⟩
  approved u hlast _ := (hcond.approved u hlast).resolve_left hi
  recorded _ hs := hs.elim

/-- What is due after a write of the thread's own. -/
theorem LicenceDue.next {session' : Option SessionId} {userId' : Option ℕ} {s : World}
    {es : List Event} (h : LicenceDue tid session userId K y) (hw : LicenceWrite y.state.db s.db es)
    (hregistered : ∀ s' u, .sessionRegistered s' u ∈ es →
      Recorded s.db.licences s' ∧ session' = some s')
    (happroved : ∀ s' u, .decisionWritten s' u .approved ∈ es → userId' = some u)
    (hsession : ∀ s', session = some s' → session' = some s' ∨ SessionBehind s.db.licences s')
    (huser : ∀ u, userId = some u → userId' = some u ∨ Agrees s.db u) :
    LicenceDue tid session' userId' K (y.next tid es s) where
  registered s' u hmem := by
    rcases Logged.mem_next_log.mp hmem with hold | ⟨-, hnew⟩
    · obtain ⟨hrecorded, hsettled⟩ := h.registered s' u hold
      refine ⟨hw.recorded s' hrecorded, fun hne => ?_⟩
      by_cases hs' : session = some s'
      · exact (hsession s' hs').resolve_left hne
      · exact hw.settled hrecorded (hsettled hs')
    · obtain ⟨hrecorded, hs'⟩ := hregistered s' u hnew
      exact ⟨hrecorded, fun hne => absurd hs' hne⟩
  approved u hlast hne := by
    rcases lastApproval_next y tid es s u with ⟨⟨s', hmem⟩, -⟩ | ⟨hnot, hsame⟩
    · exact absurd (happroved s' u hmem) hne
    · by_cases hu : userId = some u
      · exact (huser u hu).resolve_left hne
      · have hagrees := h.approved u (hsame.symm.trans hlast) hu
        exact (hw.agrees u hagrees).resolve_right (not_exists.mpr hnot)
  recorded s' hs' := hw.recorded s' (h.recorded s' hs')

variable {β : Type}

/-- A step that writes. -/
theorem keeps_licenceWrite {body : Ctx → Tx β} {report : β → List Event}
    {Q : Except Err β → LoggedWorld → Prop} (hinv : LicenceInv y)
    (hok : ∀ b d, (body ⟨y.state.now, y.state.db.freshId⟩).atomic y.state.db = .ok (b, d) →
      LicenceStep op tid y .ok (report b) →
      LicenceWrite y.state.db d (report b) ∧ Q (.ok b) (y.next tid (report b) { y.state with db := d }))
    (herr : ∀ i e, LicenceStep op tid y i [] →
      (i = .ok → (body ⟨y.state.now, y.state.db.freshId⟩).atomic y.state.db = .error e) →
      Q (.error e) y) :
    licenceProtocol.Keeps op tid (.transact body report) y Q := by
  refine keeps_transact (fun b d hbody hcond => ?_) fun i e hcond hfail => ?_
  · obtain ⟨hw, hQ⟩ := hok b d hbody hcond
    exact ⟨fun t ht => hw.rely ht, hinv.next hw, hQ⟩
  · exact ⟨fun t _ => .refl t y, hinv, herr i e hcond hfail⟩

/-- A read that is answered leaves what is due, one that is not leaves nothing. -/
theorem safe_readLicence {s : Stmt β} (hs : ∀ d, s.write d d = d) {L : β → SessionId → Prop}
    (hL : ∀ d s', L (s.answer d) s' → Recorded d.licences s' ∨ K s')
    (hx : LicenceDue tid session userId K x) :
    licenceProtocol.Safe op tid (fun r z => match r with
      | .ok b => LicenceDue tid session userId (L b) z
      | .error _ => LicenceClear tid z) (sql s) x := by
  refine Protocol.Safe.perform stable_licenceDue hx fun y hy hinv => ?_
  refine keeps_licenceWrite hinv (fun b d hbody _ => ?_) fun i e hcond hfail => ?_
  · obtain ⟨rfl, rfl⟩ := Prod.mk.injEq .. ▸ Except.ok.inj hbody
    rw [hs]
    refine ⟨.refl, ?_⟩
    have hsame : y.next tid [] y.state = y := next_nil y tid
    show LicenceDue tid session userId _ (y.next tid [] y.state)
    rw [hsame]
    refine ⟨hy.registered, hy.approved, fun s' hs' => ?_⟩
    exact (hL y.state.db s' hs').elim id (hy.recorded s')
  · refine hy.failed hcond fun hi => ?_
    cases hfail hi

/-- The same where nothing is learnt. -/
theorem safe_lookLicence {s : Stmt β} (hs : ∀ d, s.write d d = d)
    (hx : LicenceDue tid session userId K x) :
    licenceProtocol.Safe op tid (fun r z => match r with
      | .ok _ => LicenceDue tid session userId K z
      | .error _ => LicenceClear tid z) (sql s) x :=
  safe_readLicence hs (L := fun _ => K) (fun _ _ => Or.inr) hx

theorem safe_notifyLicence (hx : LicenceClear tid x) :
    licenceProtocol.Safe op tid (fun _ => LicenceClear tid) notify x := by
  refine (safe_lookLicence (fun _ => rfl) hx).mono ?_
  rintro (e | u) y hy
  · exact hy
  · exact hy

end Due

/-! ### The webhook -/

section Webhook

variable {op : LicenceOp} {tid session userId : ℕ} {x y : LoggedWorld} {s : SessionId}
  {status : DlVerificationStatus}

theorem safe_registerSession {registered : Bool} (hs : ∀ u, s ≠ .manual u)
    (hx : LicenceDue tid none none (fun s' => registered = true ∧ s' = s) x) :
    licenceProtocol.Safe op tid (fun r z => match r with
      | .ok _ => LicenceDue tid (some s) none (· = s) z
      | .error _ => LicenceClear tid z) (registerSession registered s userId) x := by
  cases registered with
  | true =>
    refine hx.mono (fun _ h => ?_) (fun _ => id) fun s' hs' => ⟨rfl, hs'⟩
    cases h
  | false =>
    refine Protocol.Safe.perform stable_licenceDue hx fun y hy hinv => ?_
    refine keeps_licenceWrite hinv (fun u d hbody _ => ?_) fun _ _ _ _ => ?_
    · obtain ⟨hw, hrecorded⟩ :=
        licenceWrite_register (dlVerifications_freshId _) (fun u hu => absurd hu (hs u)) hbody
      refine ⟨hw, ?_⟩
      have hdue : LicenceDue tid (some s) none (fun s' => false = true ∧ s' = s)
          (y.next tid [.sessionRegistered s userId] { y.state with db := d }) := by
        refine hy.next hw (fun s' u hmem => ?_) (fun s' u hmem => ?_) (fun s' h => ?_) fun u h => ?_
        · obtain ⟨rfl, -⟩ := Event.sessionRegistered.injEq .. ▸ List.mem_singleton.mp hmem
          exact ⟨hrecorded, rfl⟩
        · cases List.mem_singleton.mp hmem
        · cases h
        · cases h
      exact ⟨hdue.registered, hdue.approved, fun s' hs' => hs' ▸ hrecorded⟩
    · exact hy.mono (fun _ => id) (fun _ => id) fun _ h => h.elim

theorem safe_writeDecision (hs : ∀ u, s ≠ .manual u) (hx : LicenceDue tid (some s) none (· = s) x) :
    licenceProtocol.Safe op tid (fun r z => match r with
      | .ok _ => LicenceDue tid none (if status = .approved then some userId else none)
          (fun _ => False) z
      | .error _ => LicenceClear tid z) (writeDecision s userId status) x := by
  refine Protocol.Safe.perform stable_licenceDue hx fun y hy hinv => ?_
  refine keeps_licenceWrite hinv (fun u d hbody hcond => ?_) fun i e hcond hfail => ?_
  · obtain ⟨hnone, hothers⟩ := hcond.decided s userId status (List.mem_singleton_self _)
    obtain ⟨hw, hsettled⟩ := licenceWrite_decision hs hnone hothers hbody
    refine ⟨hw, ?_⟩
    have hdue : LicenceDue tid none (if status = .approved then some userId else none) (· = s)
        (y.next tid [.decisionWritten s userId status] { y.state with db := d }) := by
      refine hy.next hw (fun s' u hmem => ?_) (fun s' u hmem => ?_) (fun s' h => ?_) fun u h => ?_
      · cases List.mem_singleton.mp hmem
      · obtain ⟨-, rfl, rfl⟩ := Event.decisionWritten.injEq .. ▸ List.mem_singleton.mp hmem
        exact if_pos rfl
      · obtain rfl := Option.some.inj h
        exact Or.inr hsettled
      · cases h
    exact hdue.mono (fun _ => id) (fun _ => id) fun _ h => h.elim
  · -- the record is there, so the update is not answered
    refine hy.failed hcond fun hi => ?_
    have hanswer := updateVerification_answer (f := fun r => { r with userId, status }) |>.mpr
      (hy.recorded s rfl)
    have hrun := Tx.atomic_perform.mpr ⟨hanswer, rfl⟩
    cases hrun.symm.trans (hfail hi)

theorem safe_flagLicence (hx : LicenceDue tid none (some userId) (fun _ => False) x) :
    licenceProtocol.Safe op tid (fun _ => LicenceClear tid) (flagLicence s userId) x := by
  refine Protocol.Safe.perform stable_licenceDue hx fun y hy hinv => ?_
  refine keeps_licenceWrite hinv (fun u d hbody hcond => ?_) fun i e hcond hfail => ?_
  · obtain ⟨hw, hagrees⟩ :=
      licenceWrite_flag (hcond.marked userId (List.mem_singleton_self _)) hbody
    refine ⟨hw, hy.next hw (fun s' u hmem => ?_) (fun s' u hmem => ?_) (fun _ h => ?_) fun u hu => ?_⟩
    · cases List.mem_singleton.mp hmem
    · cases List.mem_singleton.mp hmem
    · cases h
    · obtain rfl := Option.some.inj hu
      exact Or.inr hagrees
  · by_cases hi : i = .ok
    · -- only a user who is not there cannot be marked
      refine ⟨hy.registered, fun u hlast _ => ?_, fun _ h => h.elim⟩
      by_cases hu : u = userId
      · obtain rfl := hu
        intro user huser _
        have hflag := Service.atomic_update_of_some (T := users) (d := y.state.db) huser
          (fun v => { v with dlVerified := true })
        cases (hfail hi).symm.trans (Tx.atomic_bind.mpr ⟨_, _, hflag, rfl⟩)
      · exact hy.approved u hlast fun h => hu (Option.some.inj h).symm
    · exact hy.failed hcond hi

theorem safe_decideSession {registered : Bool} (hs : ∀ u, s ≠ .manual u)
    (hx : LicenceDue tid none none (fun s' => registered = true ∧ s' = s) x) :
    licenceProtocol.Safe op tid (fun _ => LicenceClear tid)
      (decideSession registered s userId status) x := by
  refine Protocol.Safe.bind ((safe_registerSession hs hx).mono ?_)
  rintro (e | u) y hy
  · exact hy
  refine Protocol.Safe.bind ((safe_lookLicence (fun _ => rfl) hy).mono ?_)
  rintro (e | user) z hz
  · exact hz
  refine Protocol.Safe.bind ((safe_writeDecision hs hz).mono ?_)
  rintro (e | u) v hv
  · exact hv
  by_cases hstatus : status = .approved
  · rw [if_pos hstatus] at hv ⊢
    refine Protocol.Safe.bind ((safe_flagLicence hv).mono ?_)
    rintro (e | u) w hw
    · exact hw
    · exact hw
  · rw [if_neg hstatus] at hv ⊢
    exact hv

theorem safe_findVendorUser {vendorData : Option ℕ} {K : SessionId → Prop}
    (hx : LicenceDue tid none none K x) :
    licenceProtocol.Safe op tid (fun r z => match r with
      | .ok _ => LicenceDue tid none none K z
      | .error _ => LicenceClear tid z) (findVendorUser vendorData) x := by
  cases vendorData with
  | none => exact hx
  | some u =>
    refine Protocol.Safe.bind ((safe_lookLicence (fun _ => rfl) hx).mono ?_)
    rintro (e | user) y hy
    · exact hy
    · exact hy

theorem safe_handleWebhookDecision (verification : Option VeriffVerification)
    (hx : LicenceClear tid x) :
    licenceProtocol.Safe op tid (fun _ => LicenceClear tid) (handleWebhookDecision verification) x := by
  cases verification with
  | none => exact hx
  | some verification =>
    rw [handleWebhookDecision]
    cases verification.id with
    | none => exact hx
    | some session =>
      refine Protocol.Safe.bind ((safe_readLicence (s := findVerification (.veriff session))
        (L := fun record s' => record.isSome = true ∧ s' = .veriff session) (fun _ => rfl)
        (fun _ _ h => Or.inl (h.2 ▸ findVerification_isSome.mp h.1)) hx).mono ?_)
      rintro (e | record) y hy
      · exact hy
      refine Protocol.Safe.bind ((safe_findVendorUser hy).mono ?_)
      rintro (e | vendorUser) z hz
      · exact hz
      dsimp only
      cases vendorUser.or (record.map (·.2.userId)) with
      | none =>
        have hclear : LicenceClear tid z := ⟨hz.registered, hz.approved, fun _ h => h.elim⟩
        exact hclear
      | some userId => exact safe_decideSession (fun u h => by cases h) hz

end Webhook

/-! ### The manual review -/

section Manual

variable {op : LicenceOp} {tid userId : ℕ} {x y : LoggedWorld} {K : SessionId → Prop}

theorem LicenceDue.clear (h : LicenceDue tid none none K x) : LicenceClear tid x :=
  ⟨h.registered, h.approved, fun _ h => h.elim⟩

/-- A write of a manual review, or of the flag alone. -/
theorem keeps_reviewWrite {β : Type} {body : Ctx → Tx β} {report : β → List Event}
    (hy : LicenceDue tid none none K y) (hinv : LicenceInv y)
    (hreport : ∀ b, ∀ e ∈ report b, (∀ s u, e ≠ .sessionRegistered s u) ∧ ∀ u, e.approves u = false)
    (hw : ∀ b d, (body ⟨y.state.now, y.state.db.freshId⟩).atomic y.state.db = .ok (b, d) →
      LicenceStep op tid y .ok (report b) → LicenceWrite y.state.db d (report b)) :
    licenceProtocol.Keeps op tid (.transact body report) y fun _ => LicenceClear tid := by
  refine keeps_licenceWrite hinv (fun b d hbody hcond => ?_) fun _ _ _ _ => hy.clear
  have hwrite := hw b d hbody hcond
  refine ⟨hwrite, (hy.next hwrite ?_ ?_ (fun _ => Or.inl) fun _ => Or.inl).clear⟩
  · exact fun s u hmem => absurd rfl ((hreport b _ hmem).1 s u)
  · intro s u hmem
    have hnot := (hreport b _ hmem).2 u
    rw [Event.approves_iff.mpr ⟨s, rfl⟩] at hnot
    cases hnot

theorem safe_submitDlDocument (documentImageKey : String) (hx : LicenceClear tid x) :
    licenceProtocol.Safe op tid (fun _ => LicenceClear tid) (submitDlDocument userId documentImageKey)
      x := by
  refine Protocol.Safe.bind ((safe_lookLicence (fun _ => rfl) hx).mono ?_)
  rintro (e | _ | user) y hy
  · exact hy
  · exact hy
  dsimp only
  split_ifs
  · exact hy
  refine Protocol.Safe.bind ((safe_lookLicence (fun _ => rfl) hy).mono ?_)
  rintro (e | elsewhere) z hz
  · exact hz
  dsimp only
  split_ifs
  · exact hz
  refine Protocol.Safe.perform stable_licenceDue hz fun v hv hinv => ?_
  refine keeps_reviewWrite hv hinv (fun u e he => ?_) fun u d hbody hcond => ?_
  · rw [List.mem_singleton.mp he]
    exact ⟨fun s u h => (by cases h), fun _ => rfl⟩
  · obtain ⟨-, rfl⟩ := Prod.mk.injEq .. ▸ Except.ok.inj hbody
    refine licenceWrite_submit (dlVerifications_freshId _) hinv.own ?_ fun r =>
      ⟨rfl, rfl, by simp⟩
    rintro ⟨a, ha, hau, hstatus⟩
    exact (hcond.reviewed userId .pending (List.mem_singleton_self _) (by simp) a ha hau hstatus).1 rfl

theorem safe_loadPendingRow (hx : LicenceClear tid x) :
    licenceProtocol.Safe op tid (fun r z => match r with
      | .ok _ => LicenceDue tid none none (· = .manual userId) z
      | .error _ => LicenceClear tid z) (loadPendingRow userId) x := by
  refine Protocol.Safe.bind ((safe_readLicence (s := findVerification (.manual userId))
    (L := fun row s' => row.isSome = true ∧ s' = .manual userId) (fun _ => rfl)
    (fun _ _ h => Or.inl (h.2 ▸ findVerification_isSome.mp h.1)) hx).mono ?_)
  rintro (e | _ | ⟨key, row⟩) y hy
  · exact hy
  · exact hy.clear
  dsimp only
  split_ifs
  · exact hy.clear
  · exact hy.clear
  have hfound : LicenceDue tid none none (· = .manual userId) y :=
    hy.mono (fun _ => id) (fun _ => id) fun s' hs' => ⟨rfl, hs'⟩
  refine Protocol.Safe.bind ((safe_lookLicence (fun _ => rfl) hfound).mono ?_)
  rintro (e | elsewhere) z hz
  · exact hz
  dsimp only
  split_ifs
  · exact hz.clear
  · exact hz

theorem safe_requireUser (hx : LicenceDue tid none none K x) :
    licenceProtocol.Safe op tid (fun r z => match r with
      | .ok _ => LicenceDue tid none none K z
      | .error _ => LicenceClear tid z) (requireUser userId) x := by
  refine Protocol.Safe.bind ((safe_lookLicence (fun _ => rfl) hx).mono ?_)
  rintro (e | _ | user) y hy
  · exact hy
  · exact hy.clear
  · exact hy

theorem safe_approveDlDocument (hx : LicenceClear tid x) :
    licenceProtocol.Safe op tid (fun _ => LicenceClear tid) (approveDlDocument userId) x := by
  refine Protocol.Safe.bind ((safe_loadPendingRow hx).mono ?_)
  rintro (e | u) y hy
  · exact hy
  refine Protocol.Safe.bind ((safe_requireUser hy).mono ?_)
  rintro (e | u) z hz
  · exact hz
  refine Protocol.Safe.bind ((Protocol.Safe.perform (Q := fun _ => LicenceClear tid)
    stable_licenceDue hz fun v hv hinv => ?_).mono ?_)
  · refine keeps_reviewWrite hv hinv (fun b e he => ?_) fun b d hbody _ =>
      licenceWrite_approve hinv.own (hv.recorded _ rfl) hbody
    rw [List.mem_singleton.mp he]
    exact ⟨fun s u h => (by cases h), fun _ => rfl⟩
  rintro (e | transitioned) v hv
  · exact hv
  refine Protocol.Safe.bind ((safe_lookLicence (fun _ => rfl) hv).mono ?_)
  rintro (e | record) w hw
  · exact hw
  dsimp only
  split_ifs
  · exact hw
  · exact Protocol.Safe.guarded (safe_notifyLicence hw) fun _ _ h => h
  · exact hw

theorem safe_refuseDlDocument {status : DlVerificationStatus} (reason : String)
    (hstatus : status ≠ .approved) (hx : LicenceClear tid x) :
    licenceProtocol.Safe op tid (fun _ => LicenceClear tid) (refuseDlDocument status userId reason)
      x := by
  refine Protocol.Safe.bind ((safe_loadPendingRow hx).mono ?_)
  rintro (e | u) y hy
  · exact hy
  refine Protocol.Safe.bind ((safe_requireUser hy).mono ?_)
  rintro (e | u) z hz
  · exact hz
  refine Protocol.Safe.bind ((Protocol.Safe.perform (Q := fun _ => LicenceClear tid)
    stable_licenceDue hz fun v hv hinv => ?_).mono ?_)
  · refine keeps_reviewWrite hv hinv (fun b e he => ?_) fun b d hbody hcond => ?_
    · rw [List.mem_singleton.mp he]
      exact ⟨fun s u h => (by cases h), fun _ => rfl⟩
    · refine licenceWrite_refuse
        (f := fun r => { r with status, declineReason := some reason }) hinv.own
        (fun a ha hau happroved => ?_) (fun r => ⟨rfl, rfl, hstatus⟩) hbody
      exact (hcond.reviewed userId status (List.mem_singleton_self _) hstatus a ha hau happroved).2
  rintro (e | u) v hv
  · exact hv
  · exact Protocol.Safe.guarded (safe_notifyLicence hv) fun _ _ h => h

theorem safe_requireVeriffForUser (hx : LicenceClear tid x) :
    licenceProtocol.Safe op tid (fun _ => LicenceClear tid) (requireVeriffForUser userId) x := by
  refine Protocol.Safe.bind ((safe_requireUser hx).mono ?_)
  rintro (e | u) y hy
  · exact hy
  refine Protocol.Safe.bind ((safe_lookLicence (fun _ => rfl) hy).mono ?_)
  rintro (e | manualApprovedRow) z hz
  · exact hz
  refine Protocol.Safe.bind ((safe_lookLicence (fun _ => rfl) hz).mono ?_)
  rintro (e | existingVeriffApproval) v hv
  · exact hv
  cases existingVeriffApproval with
  | some approval => exact hv
  | none =>
    dsimp only [Option.isSome_none]
    rw [if_neg Bool.false_ne_true]
    -- with a manual approval the row is superseded, without one the flag alone is cleared
    generalize (manualApprovedRow.any fun r => r.2.status == .approved) = approved
    refine Protocol.Safe.bind ((Protocol.Safe.perform (Q := fun _ => LicenceClear tid)
      stable_licenceDue hv fun w hw hinv => ?_).mono ?_)
    · refine keeps_reviewWrite hw hinv (fun b e he => ?_) fun b d hbody hcond => ?_
      · cases approved with
        | true | false =>
          rw [List.mem_singleton.mp he]
          exact ⟨fun s u h => (by cases h), fun _ => rfl⟩
      · cases approved with
        | true =>
          refine licenceWrite_refuse (f := fun r => { r with status := .superseded }) hinv.own
            (fun a ha hau hstatus => ?_) (fun r => ⟨rfl, rfl, by simp⟩) hbody
          exact (hcond.reviewed userId .superseded (List.mem_singleton_self _) (by simp) a ha hau
            hstatus).2
        | false =>
          exact licenceWrite_clear (hcond.cleared userId (List.mem_singleton_self _)) hbody
    rintro (e | u) w hw
    · exact hw
    · exact safe_notifyLicence hw

end Manual

/-! ## Runs -/

section Runs

variable {op : LicenceOp} {tid userId : ℕ} {x : LoggedWorld}

/-- A status is reported once what Veriff has decided is handled, of which each may fail. -/
theorem safe_getVerificationStatus (decided : List VeriffVerification) (hx : LicenceClear tid x) :
    licenceProtocol.Safe op tid (fun _ => LicenceClear tid) (getVerificationStatus decided userId) x := by
  have hhandle : ∀ verification y, LicenceClear tid y → licenceProtocol.Safe op tid
      (fun _ => LicenceClear tid)
      (bestEffort do let _ ← handleWebhookDecision (some verification)) y := by
    intro verification y hy
    refine Protocol.Safe.guarded ?_ fun _ _ h => h
    exact Protocol.Safe.sequence (safe_handleWebhookDecision _ hy) fun _ _ h => h
  refine Protocol.Safe.sequence ?_ fun _ y hy => ?_
  · induction decided generalizing x with
    | nil => exact hx
    | cons verification decided ih =>
      exact Protocol.Safe.sequence (hhandle verification x hx) fun _ y hy => ih hy
  · refine Protocol.Safe.bind ((safe_lookLicence (fun _ => rfl) hy).mono ?_)
    rintro (e | latest) z hz
    · exact hz
    · exact hz

theorem safeOperations_licence : licenceProtocol.SafeOperations := by
  intro op tid x _ hfresh
  have hx : LicenceClear tid x := by
    refine ⟨fun s u hmem => absurd rfl (hfresh _ hmem), fun u hlast => ?_, fun _ h => h.elim⟩
    obtain ⟨entry, hentry, htid⟩ := Option.map_eq_some_iff.mp hlast
    exact absurd htid (hfresh entry (List.mem_reverse.mp (List.mem_of_find?_eq_some hentry)))
  cases op with
  | handleWebhookDecision verification =>
    exact Protocol.Safe.sequence (safe_handleWebhookDecision verification hx) fun _ _ h => h
  | submitDlDocument userId documentImageKey => exact safe_submitDlDocument documentImageKey hx
  | approveDlDocument userId => exact safe_approveDlDocument hx
  | declineDlDocument userId reason => exact safe_refuseDlDocument reason (by simp) hx
  | requestDlResubmission userId reason => exact safe_refuseDlDocument reason (by simp) hx
  | requireVeriffForUser userId => exact safe_requireVeriffForUser hx
  | getVerificationStatus decided userId =>
    exact Protocol.Safe.sequence (safe_getVerificationStatus decided hx) fun _ _ h => h

/-- Where the calls start: flags and records agree, in what is reported too. -/
structure StartsInStep (d : Db) : Prop where
  flag : ∀ u user, d.users.get? u = some user → (user.dlVerified = true ↔ Approved d.licences u)
  behind : ∀ r ∈ d.licences, r.IsOpen → Behind d.licences r
  own : ManualOwn d.licences

/-- The flag of every user is in step with the records, and a user who is marked is reported as
approved, where Veriff has decided nothing else in the meantime. -/
structure FlagInStep (w : World) : Prop where
  flag : ∀ u user, w.db.users.get? u = some user → (user.dlVerified = true ↔ Approved w.db.licences u)
  reported : ∀ u user, w.db.users.get? u = some user → user.dlVerified = true →
    ((getVerificationStatus [] u).eval w).1 = .ok (some .approved)

/-- A world in which no call has been made yet. -/
def licenceStart (w : World) : Pool Call Err Event World LicenceOp where
  now := { state := w }

/-- **The flag in step with its records**: in an interleaving in which no decision comes in the way of
an approval, none takes a record that another user needs, and no call gives up between an approval and
the flag, a user is marked exactly where there is an approved record of the user, whenever no call is in
progress, and is reported as approved then. -/
theorem flag_in_step (w : World) (hw : StartsInStep w.db) (moves : List (Move LicenceOp Reply World))
    (h : History.Each (Pool.step licencePool) (Pool.Meets licencePool LicenceStep fun _ _ => True)
      (licenceStart w) moves) :
    History.Always (Pool.step licencePool) (fun p => p.Idle → FlagInStep p.now.state)
      (licenceStart w) moves := by
  have hstart : licenceProtocol.Holds (licenceStart w) := by
    refine Protocol.holds_of_inv ⟨?_, fun u => Or.inl ?_, fun r hr hopen => Or.inl ?_, hw.own⟩ rfl rfl
    · rintro u ⟨user, huser, hverified⟩
      exact (hw.flag u user huser).mp hverified
    · exact fun user huser happroved => (hw.flag u user huser).mpr happroved
    · exact hw.behind r hr hopen
  refine (Protocol.sound safeOperations_licence hstart h).imp fun p hp hidle => ?_
  -- a call that the log names has been started, and has ended
  have hended : ∀ tid e, (tid, e) ∈ p.now.log → LicenceClear tid p.now := by
    intro tid e hmem
    have hlt := hp.logLt (tid, e) hmem
    exact hp.post (List.getElem?_eq_getElem hlt) (hidle _ (List.getElem_mem hlt))
  have hagrees : ∀ u, Agrees p.now.state.db u := by
    intro u
    rcases hp.inv.agrees u with hagrees | ⟨tid, hlast⟩
    · exact hagrees
    · obtain ⟨entry, hentry, rfl⟩ := Option.map_eq_some_iff.mp hlast
      have hmem := List.mem_reverse.mp (List.mem_of_find?_eq_some hentry)
      exact (hended entry.1 entry.2 hmem).approved u hlast fun hnone => by cases hnone
  have hbehind : ∀ r ∈ p.now.state.db.licences, r.IsOpen → Behind p.now.state.db.licences r := by
    intro r hr hopen
    rcases hp.inv.behind r hr hopen with hbehind | ⟨tid, u, hmem⟩
    · exact hbehind
    · exact ((hended tid _ hmem).registered _ u hmem).2 (fun hnone => by cases hnone) r hr rfl hopen
  have hflag : ∀ u user, p.now.state.db.users.get? u = some user →
      (user.dlVerified = true ↔ Approved p.now.state.db.licences u) := fun u user huser =>
    ⟨fun hverified => hp.inv.flagged u ⟨user, huser, hverified⟩, hagrees u user huser⟩
  refine ⟨hflag, fun u user huser hverified => ?_⟩
  have hlatest := latest_approved hbehind ((hflag u user huser).mp hverified)
  exact congrArg Except.ok hlatest

/-- A user without records. -/
private def newcomer : World := { db := { users := .single 1 {} } }

/-- Veriff approves a session of the user, and the user looks at the status. -/
private def approvedSession : List (Move LicenceOp Reply World) :=
  [.start (.handleWebhookDecision (some { id := some 5, status := "approved", vendorData := some 1 })),
    .step 0 .ok, .step 0 .ok, .step 0 .ok, .step 0 .ok, .step 0 .ok, .step 0 .ok,
    .start (.getVerificationStatus [] 1), .step 1 .ok]

private theorem startsInStep_newcomer : StartsInStep newcomer.db where
  flag u user huser := by
    obtain ⟨-, rfl⟩ := Prod.mk.injEq .. ▸ List.mem_singleton.mp (Table.mem_rows_iff.mpr huser)
    refine iff_of_false (fun h => by cases h) ?_
    rintro ⟨a, ha, -⟩
    cases ha
  behind r hr := by cases hr
  own r hr := by cases hr

theorem approved_session_in_step :
    (History.Each (Pool.step licencePool) (Pool.Meets licencePool LicenceStep fun _ _ => True)
      (licenceStart newcomer) approvedSession) ∧
    History.Always (Pool.step licencePool) (fun p => p.Idle → FlagInStep p.now.state)
      (licenceStart newcomer) approvedSession := by
  have hmeets : History.Each (Pool.step licencePool)
      (Pool.Meets licencePool LicenceStep fun _ _ => True) (licenceStart newcomer) approvedSession := by
    refine ⟨trivial, ?_, ?_, ?_, ?_, ?_, ?_, trivial, ?_, trivial⟩
    all_goals rintro op rest ⟨⟩ b es s ⟨⟩
    · exact ⟨fun _ _ _ => Or.inl rfl, fun _ _ => Or.inl rfl, by simp, by simp, by simp, by simp⟩
    · exact ⟨fun _ _ _ => Or.inl rfl, fun _ _ => Or.inl rfl, by simp, by simp, by simp, by simp⟩
    · exact ⟨fun _ _ _ => Or.inl rfl, fun _ _ => Or.inl rfl, by simp, by simp, by simp, by simp⟩
    · exact ⟨fun _ _ _ => Or.inl rfl, fun _ _ => Or.inl rfl, by simp, by simp, by simp, by simp⟩
    · refine ⟨fun _ _ _ => Or.inl rfl, fun _ _ => Or.inl rfl, fun s u status hmem => ?_, by simp,
        by simp, by simp⟩
      obtain ⟨rfl, rfl, rfl⟩ := Event.decisionWritten.injEq .. ▸ List.mem_singleton.mp hmem
      refine ⟨fun h => absurd rfl h, fun u hu => ⟨?_, ?_⟩⟩
      · rintro ⟨user, huser, -⟩
        exact absurd (Prod.mk.injEq .. ▸ List.mem_singleton.mp (Table.mem_rows_iff.mpr huser)).1 hu
      · intro r hr
        cases hr
    · refine ⟨fun _ _ _ => Or.inl rfl, fun _ _ => Or.inl rfl, by simp, fun u hmem => ?_, by simp, by simp⟩
      obtain rfl := Event.licenceFlagged.inj (List.mem_singleton.mp hmem)
      exact ⟨_, List.mem_singleton_self _, rfl, rfl⟩
    · exact ⟨fun _ _ _ => Or.inl rfl, fun _ _ => Or.inl rfl, by simp, by simp, by simp, by simp⟩
  exact ⟨hmeets, flag_in_step newcomer startsInStep_newcomer _ hmeets⟩

/-- Veriff approves a session of the user, and a decision on it to decline comes late. -/
private def declinedLate : List (Move LicenceOp Reply World) :=
  [.start (.handleWebhookDecision (some { id := some 5, status := "approved", vendorData := some 1 })),
    .step 0 .ok, .step 0 .ok, .step 0 .ok, .step 0 .ok, .step 0 .ok, .step 0 .ok,
    .start (.handleWebhookDecision (some { id := some 5, status := "declined", vendorData := some 1 })),
    .step 1 .ok, .step 1 .ok, .step 1 .ok, .step 1 .ok]

/-- **The user stays marked** without an approved record, and is reported as declined. -/
theorem declined_late_stays_marked :
    let p := History.after (Pool.step licencePool) (licenceStart newcomer) declinedLate
    StartsInStep newcomer.db ∧ p.Idle ∧ ¬ FlagInStep p.now.state ∧
      p.now.state.db.users.get? 1 = some { dlVerified := true } ∧
      ((getVerificationStatus [] 1).eval p.now.state).1 = .ok (some .declined) := by
  refine ⟨startsInStep_newcomer, ?_, fun h => ?_, rfl, rfl⟩
  · intro t ht
    rcases List.mem_pair.mp ht with rfl | rfl
    · trivial
    · trivial
  · obtain ⟨a, ha, -, hstatus⟩ := (h.flag 1 { dlVerified := true } rfl).mp rfl
    rw [List.mem_singleton.mp ha] at hstatus
    cases hstatus

end Runs

end Deliivo

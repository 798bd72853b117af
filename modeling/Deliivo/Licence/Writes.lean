import Deliivo.Licence.Standing
import Deliivo.Domain.Preserves

/-!
# What is written of licences

A write of records puts them last. What each of the writers keeps follows from which records it
writes, and from what it has to find: a refusal no approval that stands beside it, a decision no user
that needs the record which it takes.

## Main definitions

* `DoWithout`: the other users do without a session

## Main results

* `licenceWrite_register`, `licenceWrite_decision`, `licenceWrite_flag`: the writes of the webhook
* `licenceWrite_submit`, `licenceWrite_approve`, `licenceWrite_refuse`, `licenceWrite_clear`: those of
  the manual review
-/

namespace Deliivo

/-! ## Statements -/

section Statements

variable {d d' : Db} {r : DlVerification} {P : DlVerification → Bool}
  {f : DlVerification → DlVerification} {id userId : ℕ} {session : SessionId}

/-- The next write is later than all there have been. -/
theorem lt_nextDlWrite (h : r ∈ d.licences) : r.updatedAt < d.nextDlWrite := by
  obtain ⟨q, hq, rfl⟩ := List.mem_map.mp h
  refine Nat.lt_succ_of_le ?_
  have hmem : q.2.updatedAt ∈ d.dlVerifications.rows.map (·.2.updatedAt) := List.mem_map.mpr ⟨q, hq, rfl⟩
  generalize d.dlVerifications.rows.map (·.2.updatedAt) = ns at hmem
  induction ns with
  | nil => cases hmem
  | cons n ns ih =>
    rw [List.foldr_cons]
    rcases List.mem_cons.mp hmem with heq | hmem
    · rw [heq]
      exact le_max_left _ _
    · exact (ih hmem).trans (le_max_right _ _)

/-- A record of those that are written, or one that is left as it is. -/
theorem mem_updateVerifications :
    r ∈ ((updateVerifications P f).write d d).licences ↔
      (∃ q ∈ d.licences, P q = true ∧ r = { f q with updatedAt := d.nextDlWrite }) ∨
        r ∈ d.licences ∧ P r = false := by
  have hholds : ∀ q ∈ d.dlVerifications.rows,
      d.dlVerifications.holds (fun _ r => P r) q.1 = P q.2 := by
    intro q hq
    rw [Table.holds, Table.mem_rows_iff.mp (show (q.1, q.2) ∈ d.dlVerifications.rows from hq)]
    rfl
  simp only [Db.licences, updateVerifications, Table.modifyWhere, List.map_map, List.mem_map,
    Function.comp_apply]
  constructor
  · rintro ⟨q, hq, rfl⟩
    rw [hholds q hq]
    cases hP : P q.2 with
    | true => exact Or.inl ⟨q.2, ⟨q, hq, rfl⟩, hP, rfl⟩
    | false => exact Or.inr ⟨⟨q, hq, rfl⟩, hP⟩
  · rintro (⟨_, ⟨q, hq, rfl⟩, hP, rfl⟩ | ⟨⟨q, hq, rfl⟩, hP⟩)
    · exact ⟨q, hq, by rw [hholds q hq, hP]; rfl⟩
    · exact ⟨q, hq, by rw [hholds q hq, hP]; rfl⟩

/-- Records keep their sessions. -/
theorem recorded_updateVerifications (hf : ∀ r, (f r).veriffSessionId = r.veriffSessionId)
    {s : SessionId} (h : Recorded d.licences s) :
    Recorded ((updateVerifications P f).write d d).licences s := by
  obtain ⟨r, hr, rfl⟩ := h
  cases hP : P r with
  | true => exact ⟨_, mem_updateVerifications.mpr (Or.inl ⟨r, hr, hP, rfl⟩), hf r⟩
  | false => exact ⟨r, mem_updateVerifications.mpr (Or.inr ⟨hr, hP⟩), rfl⟩

/-- A record of a session is found if there is one. -/
theorem findVerification_isSome :
    ((findVerification session).answer d).isSome = true ↔ Recorded d.licences session := by
  simp only [findVerification, findFirst, dlVerifications, Recorded, Db.licences, Table.filter]
  rw [List.isSome_head?]
  simp only [List.mem_map, ne_eq, List.filter_eq_nil_iff, beq_iff_eq, not_forall, not_not]
  constructor
  · rintro ⟨q, hq, hs⟩
    exact ⟨q.2, ⟨q, hq, rfl⟩, hs⟩
  · rintro ⟨_, ⟨q, hq, rfl⟩, hs⟩
    exact ⟨q, hq, hs⟩

/-- The update of a session finds its record if there is one. -/
theorem updateVerification_answer :
    (updateVerification session f).answer d = .ok () ↔ Recorded d.licences session := by
  have hanswer : (updateVerifications (·.veriffSessionId == session) f).answer d = [] ↔
      ¬ Recorded d.licences session := by
    simp only [updateVerifications, Table.filter, List.map_eq_nil_iff, List.filter_eq_nil_iff, beq_iff_eq,
      Recorded, Db.licences, List.mem_map, not_exists, not_and]
    constructor
    · rintro h _ ⟨q, hq, rfl⟩
      exact h q hq
    · exact fun h q hq => h q.2 ⟨q, hq, rfl⟩
  rw [updateVerification]
  by_cases hrecorded : Recorded d.licences session
  · simp [hanswer, hrecorded]
  · simp [hanswer, hrecorded]

/-- What a new record adds. -/
theorem mem_createVerification (hid : d.dlVerifications.get? id = none) :
    r ∈ ((createVerification id userId session f).write d d).licences ↔ r ∈ d.licences ∨
      r = { f { userId, veriffSessionId := session, updatedAt := 0 } with updatedAt := d.nextDlWrite } := by
  simp only [createVerification, Db.licences, Table.insert_rows hid, List.map_append, List.mem_append,
    List.map_singleton, List.mem_singleton]

theorem dlVerifications_freshId (d : Db) : d.dlVerifications.get? d.freshId = none :=
  Table.get?_of_nextKey_le (Db.le_freshId (by simp [Db.idBounds]))

end Statements

/-! ## The webhook -/

/-- The records but for those of a session. -/
abbrev withoutSession (rs : List DlVerification) (session : SessionId) : List DlVerification :=
  rs.filter (·.veriffSessionId != session)

/-- The users other than `userId` do without the records of the session: who of them is marked has
another approved record, and what is behind stays behind. -/
def DoWithout (d : Db) (session : SessionId) (userId : ℕ) : Prop :=
  ∀ u, u ≠ userId → (Flagged d u → Approved (withoutSession d.licences session) u) ∧
    ∀ r ∈ withoutSession d.licences session, r.userId = u → r.IsOpen → Behind d.licences r →
      Behind (withoutSession d.licences session) r

section Webhook

variable {d d' : Db} {session userId : ℕ} {s : SessionId} {status : DlVerificationStatus}

/-- **A session is registered**: its record is open, and that of a session that had none. -/
theorem licenceWrite_register {key : ℕ} (hkey : d.dlVerifications.get? key = none)
    (hs : ∀ u, s = .manual u → userId = u)
    (h : Tx.atomic (Program.perform (createVerification key userId s id)) d = .ok ((), d')) :
    LicenceWrite d d' [.sessionRegistered s userId] ∧ Recorded d'.licences s := by
  obtain ⟨hanswer, rfl⟩ := Tx.atomic_perform.mp h
  have hnew : ¬ Recorded d.licences s := by
    intro hrecorded
    simp [createVerification, findVerification_isSome.mpr hrecorded] at hanswer
  set d' := (createVerification key userId s id).write d d with hd'
  set new : DlVerification := { userId, veriffSessionId := s, updatedAt := d.nextDlWrite } with hnewRow
  have hmem : ∀ r, r ∈ d'.licences ↔ r ∈ d.licences ∨ r = new := fun _ => mem_createVerification hkey
  -- nobody's approvals change
  have happroved : ∀ u, Approved d'.licences u ↔ Approved d.licences u := by
    intro u
    refine exists_congr fun a => ⟨?_, fun ha => ⟨(hmem a).mpr (Or.inl ha.1), ha.2⟩⟩
    rintro ⟨ha, hu, hstatus⟩
    rcases (hmem a).mp ha with hold | rfl
    · exact ⟨hold, hu, hstatus⟩
    · cases hstatus
  refine ⟨⟨?_, ?_, ?_, ?_, ?_⟩, new, (hmem new).mpr (Or.inr rfl), rfl⟩
  · exact fun hflagged u hu => (happroved u).mpr (hflagged u hu)
  · exact fun u hu => Or.inl fun user huser ha => hu user huser ((happroved u).mp ha)
  · intro r hr _
    right
    rcases (hmem r).mp hr with hold | rfl
    · exact Or.inl ⟨hold, fun hbehind =>
        hbehind.mono (fun a ha _ _ => (hmem a).mpr (Or.inl ha)) (happroved r.userId).mp⟩
    · exact Or.inr ⟨hnew, userId, List.mem_singleton_self _⟩
  · intro hown r hr u hsession
    rcases (hmem r).mp hr with hold | rfl
    · exact hown r hold u hsession
    · exact hs u hsession
  · rintro s' ⟨r, hr, hs'⟩
    exact ⟨r, (hmem r).mpr (Or.inl hr), hs'⟩

/-- **A decision is written** on a session that the other users do without, and no decision but an
approval for a user who has one. -/
theorem licenceWrite_decision (hs : ∀ u, s ≠ .manual u)
    (hnone : status ≠ .approved → ¬ Approved d.licences userId) (hothers : DoWithout d s userId)
    (h : Tx.atomic (Program.perform (updateVerification s fun r => { r with userId, status })) d =
      .ok ((), d')) :
    LicenceWrite d d' [.decisionWritten s userId status] ∧ SessionBehind d'.licences s := by
  obtain ⟨hanswer, rfl⟩ := Tx.atomic_perform.mp h
  obtain ⟨row, hrow, hrowSession⟩ := updateVerification_answer.mp hanswer
  set d' := (updateVerification s fun r => { r with userId, status }).write d d with hd'
  set rest := withoutSession d.licences s with hrest
  have hmemRest : ∀ r, r ∈ rest ↔ r ∈ d.licences ∧ r.veriffSessionId ≠ s := by
    intro r
    rw [hrest, List.mem_filter, bne_iff_ne]
  have hmem : ∀ r, r ∈ d'.licences ↔ (∃ q ∈ d.licences, q.veriffSessionId = s ∧
      r = { q with userId, status, updatedAt := d.nextDlWrite }) ∨ r ∈ rest := by
    intro r
    rw [hmemRest]
    refine mem_updateVerifications.trans ?_
    simp only [beq_iff_eq, beq_eq_false_iff_ne]
  -- the approvals of others are those that they do without the session
  have happroved : ∀ u, u ≠ userId → (Approved d'.licences u ↔ Approved rest u) := by
    intro u hu
    refine exists_congr fun a => ⟨?_, fun ha => ⟨(hmem a).mpr (Or.inr ha.1), ha.2⟩⟩
    rintro ⟨ha, hau, hstatus⟩
    rcases (hmem a).mp ha with ⟨q, -, -, rfl⟩ | hold
    · exact absurd hau.symm hu
    · exact ⟨hold, hau, hstatus⟩
  have hsub : ∀ u, Approved rest u → Approved d.licences u := by
    rintro u ⟨a, ha, hau⟩
    exact ⟨a, ((hmemRest a).mp ha).1, hau⟩
  have hunapproved : status ≠ .approved → ¬ Approved d'.licences userId := by
    rintro hstatus ⟨a, ha, hau, happroved⟩
    rcases (hmem a).mp ha with ⟨q, -, -, rfl⟩ | hold
    · exact hstatus happroved
    · exact hnone hstatus ⟨a, ((hmemRest a).mp hold).1, hau, happroved⟩
  have hnew := (hmem { row with userId, status, updatedAt := d.nextDlWrite }).mpr
    (Or.inl ⟨row, hrow, hrowSession, rfl⟩)
  -- what is open of the user is behind the decision, or the user has no approval
  have hbehind : ∀ r ∈ d'.licences, r.userId = userId → r.IsOpen → Behind d'.licences r := by
    intro r hr hru hopen happrovedUser
    by_cases hstatus : status = .approved
    · rcases (hmem r).mp hr with ⟨q, -, -, rfl⟩ | hold
      · exact absurd hstatus hopen.1
      · exact ⟨_, hnew, hru.symm, hstatus, lt_nextDlWrite ((hmemRest r).mp hold).1⟩
    · exact absurd (hru ▸ happrovedUser) (hunapproved hstatus)
  refine ⟨⟨?_, ?_, ?_, ?_, ?_⟩, ?_⟩
  · intro hflagged u hu
    by_cases hself : u = userId
    · by_cases hstatus : status = .approved
      · exact hself ▸ ⟨_, hnew, rfl, hstatus⟩
      · exact absurd (hself ▸ hflagged u hu) (hnone hstatus)
    · exact (happroved u hself).mpr ((hothers u hself).1 hu)
  · intro u hu
    by_cases hself : u = userId
    · by_cases hstatus : status = .approved
      · exact Or.inr ⟨s, by rw [hself, hstatus]; exact List.mem_singleton_self _⟩
      · exact Or.inl (agrees_of_unapproved (hself ▸ hunapproved hstatus))
    · exact Or.inl fun user huser ha => hu user huser (hsub u ((happroved u hself).mp ha))
  · intro r hr hopen
    by_cases hself : r.userId = userId
    · exact Or.inl (hbehind r hr hself hopen)
    · rcases (hmem r).mp hr with ⟨q, -, -, rfl⟩ | hold
      · exact absurd rfl hself
      · refine Or.inr (Or.inl ⟨((hmemRest r).mp hold).1, fun hr' => ?_⟩)
        exact ((hothers r.userId hself).2 r hold rfl hopen hr').mono
          (fun a ha _ _ => (hmem a).mpr (Or.inr ha)) (happroved r.userId hself).mp
  · intro hown r hr u hsession
    rcases (hmem r).mp hr with ⟨q, -, hqs, rfl⟩ | hold
    · exact absurd (hqs.symm.trans hsession) (hs u)
    · exact hown r ((hmemRest r).mp hold).1 u hsession
  · intro s' hs'
    exact @recorded_updateVerifications d (·.veriffSessionId == s)
      (fun r => { r with userId, status }) (fun _ => rfl) s' hs'
  · intro r hr hrs hopen
    rcases (hmem r).mp hr with ⟨q, -, -, rfl⟩ | hold
    · exact hbehind _ hr rfl hopen
    · exact absurd hrs ((hmemRest r).mp hold).2

/-- What marking a user writes. -/
theorem atomic_flagUser {dlVerified : Bool} {user : User}
    (h : Tx.atomic (Program.perform (flagUser userId dlVerified)) d = .ok (user, d')) :
    d' = { d with users := d.users.modify userId fun u => { u with dlVerified } } := by
  obtain ⟨-, -, -, rfl⟩ := Service.atomic_update h
  rfl

/-- A user who has been marked agrees with any records. -/
theorem agrees_of_flagged
    (h : d'.users = d.users.modify userId fun user => { user with dlVerified := true }) :
    Agrees d' userId := by
  intro user huser _
  rw [h, Table.get?_modify_self] at huser
  obtain ⟨user₀, -, rfl⟩ := Option.map_eq_some_iff.mp huser
  rfl

/-- **A user is marked** who has an approved record, and pending sessions of the user are closed. -/
theorem licenceWrite_flag (happroved : Approved d.licences userId)
    (h : Tx.atomic (do
      let _ ← Program.perform (flagUser userId true)
      let _ ← Program.command <| updateVerifications
        (fun r => r.userId == userId && r.status == .pending && r.veriffSessionId != s)
        fun r => { r with status := .superseded }) d = .ok ((), d')) :
    LicenceWrite d d' [.licenceFlagged userId] ∧ Agrees d' userId := by
  obtain ⟨user, d₁, hflag, hrest⟩ := Tx.atomic_bind.mp h
  obtain rfl := atomic_flagUser hflag
  obtain ⟨-, rfl⟩ := Prod.mk.injEq .. ▸ Except.ok.inj hrest
  set d₁ : Db := { d with users := d.users.modify userId fun u => { u with dlVerified := true } } with hd₁
  set P : DlVerification → Bool :=
    fun r => r.userId == userId && r.status == .pending && r.veriffSessionId != s with hP
  set d' := (updateVerifications P fun r => { r with status := .superseded }).write d₁ d₁ with hd'
  have hmem : ∀ r, r ∈ d'.licences ↔ (∃ q ∈ d.licences, P q = true ∧
      r = { q with status := .superseded, updatedAt := d.nextDlWrite }) ∨ r ∈ d.licences ∧ P r = false :=
    fun _ => mem_updateVerifications
  have hpending : ∀ r, P r = true → r.userId = userId ∧ r.status = .pending := by
    intro r hr
    simp only [hP, Bool.and_eq_true, beq_iff_eq] at hr
    exact hr.1
  -- approvals are not pending
  have hstay : ∀ a ∈ d.licences, a.status = .approved → a ∈ d'.licences := by
    intro a ha hstatus
    refine (hmem a).mpr (Or.inr ⟨ha, Bool.eq_false_iff.mpr fun hPa => ?_⟩)
    cases hstatus.symm.trans (hpending a hPa).2
  have hagrees : Agrees d' userId := agrees_of_flagged (d := d) rfl
  refine ⟨licenceWrite_of_approved ?_ ?_ ?_ ?_ ?_ hagrees ?_, hagrees⟩
  · intro r hr
    rw [hmem]
    constructor
    · rintro (⟨q, -, hq, rfl⟩ | hold)
      · exact absurd (hpending q hq).1 hr
      · exact hold.1
    · exact fun hold => Or.inr ⟨hold, Bool.eq_false_iff.mpr fun hPr => hr (hpending r hPr).1⟩
  · exact fun u hu => Table.get?_modify_ne _ _ hu
  · intro hown r hr u hsession
    rcases (hmem r).mp hr with ⟨q, hq, -, rfl⟩ | hold
    · exact hown q hq u hsession
    · exact hown r hold.1 u hsession
  · intro s' hs'
    exact @recorded_updateVerifications d₁ P (fun r => { r with status := .superseded })
      (fun _ => rfl) s' hs'
  · obtain ⟨a, ha, hau⟩ := happroved
    exact ⟨a, hstay a ha hau.2, hau⟩
  · intro r hr _ hopen
    rcases (hmem r).mp hr with ⟨q, -, -, rfl⟩ | hold
    · exact absurd rfl hopen.2
    · refine Or.inr ⟨hold.1, fun hbehind => hbehind.mono (fun a ha _ => hstay a ha) ?_⟩
      rintro ⟨a, ha, hau, hstatus⟩
      rcases (hmem a).mp ha with ⟨q, -, -, rfl⟩ | haold
      · cases hstatus
      · exact ⟨a, haold.1, hau, hstatus⟩

end Webhook

/-! ## The manual review -/

section Manual

variable {d d' : Db} {userId : ℕ} {P : DlVerification → Bool} {f : DlVerification → DlVerification}
  {es : List Event}

/-- A write of the manual review of a user is one of the records of the user. -/
theorem others_updateVerifications (hown : ManualOwn d.licences)
    (hP : ∀ r, P r = true → r.veriffSessionId = .manual userId)
    (hf : ∀ r, (f r).userId = r.userId ∧ (f r).veriffSessionId = r.veriffSessionId) :
    (∀ r, r.userId ≠ userId →
      (r ∈ ((updateVerifications P f).write d d).licences ↔ r ∈ d.licences)) ∧
      ManualOwn ((updateVerifications P f).write d d).licences := by
  refine ⟨fun r hr => ⟨fun hmem => ?_, fun hmem => ?_⟩, fun r hmem u hsession => ?_⟩
  · rcases mem_updateVerifications.mp hmem with ⟨q, hq, hPq, rfl⟩ | hold
    · exact absurd ((hf q).1.trans (hown q hq userId (hP q hPq))) hr
    · exact hold.1
  · refine mem_updateVerifications.mpr (Or.inr ⟨hmem, Bool.eq_false_iff.mpr fun hPr => hr ?_⟩)
    exact hown r hmem userId (hP r hPr)
  · rcases mem_updateVerifications.mp hmem with ⟨q, hq, -, rfl⟩ | hold
    · exact (hf q).1.trans (hown q hq u ((hf q).2.symm.trans hsession))
    · exact hown r hold.1 u hsession

/-- **A document is submitted** by a user without an approval. -/
theorem licenceWrite_submit {key : ℕ} (hkey : d.dlVerifications.get? key = none)
    (hown : ManualOwn d.licences) (hnone : ¬ Approved d.licences userId)
    (hf : ∀ r, (f r).userId = r.userId ∧ (f r).veriffSessionId = r.veriffSessionId ∧
      (f r).status ≠ .approved) :
    LicenceWrite d ((upsertVerification key userId (.manual userId) f).write d d) es := by
  have hkeeps := fun r => And.intro (hf r).1 (hf r).2.1
  by_cases hfound : ((findVerification (.manual userId)).answer d).isSome
  · -- the document is replaced
    have hwrite : (upsertVerification key userId (.manual userId) f).write d d =
        (updateVerifications (·.veriffSessionId == .manual userId) f).write d d := if_pos hfound
    rw [hwrite]
    obtain ⟨hothers, hown'⟩ := others_updateVerifications (P := (·.veriffSessionId == .manual userId))
      hown (fun r hr => beq_iff_eq.mp hr) hkeeps
    refine licenceWrite_of_unapproved hothers (fun _ _ => rfl) (fun _ => hown')
      (fun s hs => recorded_updateVerifications (fun r => (hf r).2.1) hs) ?_ fun hflag => ⟨hflag, hnone⟩
    rintro ⟨a, ha, hau, hstatus⟩
    rcases mem_updateVerifications.mp ha with ⟨q, -, -, rfl⟩ | hold
    · exact (hf q).2.2 hstatus
    · exact hnone ⟨a, hold.1, hau, hstatus⟩
  · have hwrite : (upsertVerification key userId (.manual userId) f).write d d =
        (createVerification key userId (.manual userId) f).write d d := if_neg hfound
    rw [hwrite]
    set new : DlVerification := { userId, veriffSessionId := .manual userId, updatedAt := 0 } with hnew
    refine licenceWrite_of_unapproved (fun r hr => ?_) (fun _ _ => rfl) (fun hown r hr u hsession => ?_)
      ?_ ?_ fun hflag => ⟨hflag, hnone⟩
    · refine (mem_createVerification hkey).trans (or_iff_left ?_)
      rintro rfl
      exact hr (hf new).1
    · rcases (mem_createVerification hkey).mp hr with hold | rfl
      · exact hown r hold u hsession
      · exact (hf new).1.trans (SessionId.manual.inj ((hf new).2.1.symm.trans hsession))
    · rintro s ⟨r, hr, hs⟩
      exact ⟨r, (mem_createVerification hkey).mpr (Or.inl hr), hs⟩
    · rintro ⟨a, ha, hau, hstatus⟩
      rcases (mem_createVerification hkey).mp ha with hold | rfl
      · exact hnone ⟨a, hold, hau, hstatus⟩
      · exact (hf new).2.2 hstatus

/-- **A review is approved**, whose user is marked with it. -/
theorem licenceWrite_approve {transitioned : Bool} (hown : ManualOwn d.licences)
    (hrecorded : Recorded d.licences (.manual userId))
    (h : Tx.atomic (approveReview userId) d = .ok (transitioned, d')) : LicenceWrite d d' es := by
  obtain ⟨updated, d₁, hupdate, hrest⟩ := Tx.atomic_bind.mp h
  obtain ⟨-, rfl⟩ := Prod.mk.injEq .. ▸ Except.ok.inj hupdate
  obtain ⟨user, d₂, hflag, hend⟩ := Tx.atomic_bind.mp hrest
  obtain ⟨-, rfl⟩ := Prod.mk.injEq .. ▸ Except.ok.inj hend
  obtain rfl := atomic_flagUser hflag
  set P : DlVerification → Bool :=
    fun r => r.veriffSessionId == .manual userId && r.status != .approved with hP
  set f : DlVerification → DlVerification :=
    fun r => { r with status := .approved, declineReason := none } with hf
  set d₁ := (updateVerifications P f).write d d with hd₁
  have hmem : ∀ r, r ∈ d₁.licences ↔ (∃ q ∈ d.licences, P q = true ∧
      r = { f q with updatedAt := d.nextDlWrite }) ∨ r ∈ d.licences ∧ P r = false :=
    fun _ => mem_updateVerifications
  have hmanual : ∀ r, P r = true → r.veriffSessionId = .manual userId ∧ r.status ≠ .approved := by
    intro r hr
    simpa [hP] using hr
  have hstay : ∀ a ∈ d.licences, a.status = .approved → a ∈ d₁.licences := by
    intro a ha hstatus
    exact (hmem a).mpr (Or.inr ⟨ha, Bool.eq_false_iff.mpr fun hPa => (hmanual a hPa).2 hstatus⟩)
  obtain ⟨hothers, hown'⟩ := others_updateVerifications (P := P) (f := f) hown
    (fun r hr => (hmanual r hr).1) fun _ => ⟨rfl, rfl⟩
  refine licenceWrite_of_approved hothers (fun u hu => Table.get?_modify_ne _ _ hu) (fun _ => hown')
    (fun s hs => @recorded_updateVerifications d P f (fun _ => rfl) s hs) ?_
    (agrees_of_flagged (d := d) rfl) ?_
  · obtain ⟨row, hrow, hsession⟩ := hrecorded
    have hru := hown row hrow userId hsession
    by_cases hstatus : row.status = .approved
    · exact ⟨row, hstay row hrow hstatus, hru, hstatus⟩
    · refine ⟨_, (hmem _).mpr (Or.inl ⟨row, hrow, ?_, rfl⟩), hru, rfl⟩
      simp [hP, hsession, hstatus]
  · intro r hr hru hopen
    rcases (hmem r).mp hr with ⟨q, -, -, rfl⟩ | ⟨hold, -⟩
    · exact absurd rfl hopen.1
    by_cases hnew : ∃ q ∈ d.licences, P q = true
    · -- the review has been written last
      obtain ⟨q, hq, hPq⟩ := hnew
      refine Or.inl fun _ => ⟨_, (hmem _).mpr (Or.inl ⟨q, hq, hPq, rfl⟩), ?_, rfl, lt_nextDlWrite hold⟩
      exact (hown q hq userId (hmanual q hPq).1).trans hru.symm
    · refine Or.inr ⟨hold, fun hbehind => hbehind.mono (fun a ha _ => hstay a ha) ?_⟩
      rintro ⟨a, ha, hau, hstatus⟩
      rcases (hmem a).mp ha with ⟨q, hq, hPq, -⟩ | haold
      · exact absurd ⟨q, hq, hPq⟩ hnew
      · exact ⟨a, haold.1, hau, hstatus⟩

/-- **A review is refused**, whose user has no approval besides it and is not marked any more. -/
theorem licenceWrite_refuse (hown : ManualOwn d.licences)
    (halone : ∀ a ∈ d.licences, a.userId = userId → a.status = .approved →
      a.veriffSessionId = .manual userId)
    (hf : ∀ r, (f r).userId = r.userId ∧ (f r).veriffSessionId = r.veriffSessionId ∧
      (f r).status ≠ .approved)
    (h : Tx.atomic (do
      Program.perform (updateVerification (.manual userId) f)
      let _ ← Program.perform (flagUser userId false)) d = .ok ((), d')) : LicenceWrite d d' es := by
  obtain ⟨u, d₁, hupdate, hrest⟩ := Tx.atomic_bind.mp h
  obtain ⟨-, rfl⟩ := Tx.atomic_perform.mp hupdate
  obtain ⟨user, d₂, hflag, hend⟩ := Tx.atomic_bind.mp hrest
  obtain ⟨-, rfl⟩ := Prod.mk.injEq .. ▸ Except.ok.inj hend
  obtain rfl := atomic_flagUser hflag
  obtain ⟨hothers, hown'⟩ := others_updateVerifications (P := (·.veriffSessionId == .manual userId))
    (f := f) hown (fun r hr => beq_iff_eq.mp hr) fun r => And.intro (hf r).1 (hf r).2.1
  refine licenceWrite_of_unapproved hothers (fun u hu => Table.get?_modify_ne _ _ hu) (fun _ => hown')
    (fun s hs => recorded_updateVerifications (fun r => (hf r).2.1) hs) ?_ fun hflagged => ?_
  · rintro ⟨a, ha, hau, hstatus⟩
    rcases mem_updateVerifications.mp ha with ⟨q, -, -, rfl⟩ | ⟨hold, hother⟩
    · exact (hf q).2.2 hstatus
    · exact beq_eq_false_iff_ne.mp hother (halone a hold hau hstatus)
  · cases flagged_modify_self (d := (updateVerification (.manual userId) f).write d d) rfl hflagged

/-- **A user without an approval** is not marked any more. -/
theorem licenceWrite_clear (hnone : ¬ Approved d.licences userId)
    (h : Tx.atomic (do let _ ← Program.perform (flagUser userId false)) d = .ok ((), d')) :
    LicenceWrite d d' es := by
  obtain ⟨user, d₂, hflag, hend⟩ := Tx.atomic_bind.mp h
  obtain ⟨-, rfl⟩ := Prod.mk.injEq .. ▸ Except.ok.inj hend
  obtain rfl := atomic_flagUser hflag
  refine licenceWrite_of_unapproved (fun _ _ => Iff.rfl) (fun u hu => Table.get?_modify_ne _ _ hu) id
    (fun _ => id) hnone fun hflagged => ?_
  cases flagged_modify_self (d := d) rfl hflagged

end Manual

end Deliivo

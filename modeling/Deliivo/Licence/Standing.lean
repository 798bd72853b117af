import Deliivo.Licence.Verification

/-!
# The records of licences

Of the records of a user that are not closed the one that was written last is what is reported. Where
every record that is neither approved nor closed is behind an approval, that one is an approval.

## Main definitions

* `Approved`: a user has an approved record
* `Behind`: an approval of the same user has been written after a record, if there is one at all
* `SessionBehind`: all that is open of a session is behind
* `LicenceWrite`: what a write of the records keeps

## Main results

* `latest_approved`: where every open record is behind, an approval is what is reported
* `licenceWrite_of_unapproved`, `licenceWrite_of_approved`: writes of the records of one user
-/

namespace Deliivo

/-! ## What is said of records -/

/-- Neither approved nor closed. -/
def DlVerification.IsOpen (r : DlVerification) : Prop := r.status ≠ .approved ∧ r.status ≠ .superseded

section Records

variable (rs : List DlVerification)

/-- The user has an approved record. -/
def Approved (userId : ℕ) : Prop := ∃ a ∈ rs, a.userId = userId ∧ a.status = .approved

/-- If the user of the record has an approval, one has been written after it. -/
def Behind (r : DlVerification) : Prop :=
  Approved rs r.userId →
    ∃ a ∈ rs, a.userId = r.userId ∧ a.status = .approved ∧ r.updatedAt < a.updatedAt

/-- There is a record of the session. -/
def Recorded (session : SessionId) : Prop := ∃ r ∈ rs, r.veriffSessionId = session

/-- All that is open of the session is behind. -/
def SessionBehind (session : SessionId) : Prop :=
  ∀ r ∈ rs, r.veriffSessionId = session → r.IsOpen → Behind rs r

/-- A manual review is one of its own user. -/
def ManualOwn : Prop := ∀ r ∈ rs, ∀ u, r.veriffSessionId = .manual u → r.userId = u

end Records

/-- The records, without their keys. -/
def Db.licences (d : Db) : List DlVerification := d.dlVerifications.rows.map Prod.snd

section Transfer

variable {rs rs' : List DlVerification} {r : DlVerification}

/-- Where the approvals of a user stay, and no first one comes, what is behind stays behind. -/
theorem Behind.mono (h : Behind rs r)
    (hstay : ∀ a ∈ rs, a.userId = r.userId → a.status = .approved → a ∈ rs')
    (hnone : Approved rs' r.userId → Approved rs r.userId) : Behind rs' r := by
  intro happroved
  obtain ⟨a, ha, hu, hstatus, hlt⟩ := h (hnone happroved)
  exact ⟨a, hstay a ha hu hstatus, hu, hstatus, hlt⟩

/-- Where every open record is behind, what is reported of a user who has an approval is one. -/
theorem latest_approved {d : Db} {userId : ℕ} (hbehind : ∀ r ∈ d.licences, r.IsOpen → Behind d.licences r)
    (happroved : Approved d.licences userId) :
    ((latestVerification userId).answer d).map (·.status) = some .approved := by
  have hmem : ∀ {r}, r ∈ ((d.dlVerifications.filter fun _ r =>
      r.userId == userId && r.status != .superseded).map Prod.snd) ↔
        r ∈ d.licences ∧ r.userId = userId ∧ r.status ≠ .superseded := by
    intro r
    rw [Db.licences]
    simp only [Table.filter, List.mem_map, List.mem_filter, Bool.and_eq_true, beq_iff_eq, bne_iff_ne]
    constructor
    · rintro ⟨q, ⟨hq, hP⟩, rfl⟩
      exact ⟨⟨q, hq, rfl⟩, hP⟩
    · rintro ⟨⟨q, hq, rfl⟩, hP⟩
      exact ⟨q, ⟨hq, hP⟩, rfl⟩
  obtain ⟨a, ha, hu, hstatus⟩ := happroved
  have hclosed : a.status ≠ .superseded := by
    rw [hstatus]
    decide
  cases hlatest : (latestVerification userId).answer d with
  | none =>
    rw [List.argmax_eq_none.mp hlatest] at hmem
    exact absurd (hmem.mpr ⟨ha, hu, hclosed⟩) List.not_mem_nil
  | some r =>
    obtain ⟨hr, hru, hrclosed⟩ := hmem.mp (List.argmax_mem hlatest)
    refine congrArg some ?_
    show r.status = _
    -- an open record would be behind an approval, which is one of the candidates
    by_contra hopen
    obtain ⟨a', ha', hu', hstatus', hlt⟩ := hbehind r hr ⟨hopen, hrclosed⟩ (hru ▸ ⟨a, ha, hu, hstatus⟩)
    have hclosed' : a'.status ≠ .superseded := by
      rw [hstatus']
      decide
    exact not_lt.mpr (List.le_of_mem_argmax (hmem.mpr ⟨ha', hu'.trans hru, hclosed'⟩) hlatest) hlt

end Transfer

/-! ## Flags -/

/-- The user is there and marked as verified. -/
def Flagged (d : Db) (userId : ℕ) : Prop := ∃ user, d.users.get? userId = some user ∧ user.dlVerified = true

/-- A user who has an approved record is marked as verified. -/
def Agrees (d : Db) (userId : ℕ) : Prop :=
  ∀ user, d.users.get? userId = some user → Approved d.licences userId → user.dlVerified = true

section Flags

variable {d d' : Db} {userId : ℕ} {dlVerified : Bool}

theorem agrees_of_unapproved (h : ¬ Approved d.licences userId) : Agrees d userId :=
  fun _ _ happroved => absurd happroved h

theorem flagged_modify_self
    (h : d'.users = d.users.modify userId fun user => { user with dlVerified }) :
    Flagged d' userId → dlVerified = true := by
  rintro ⟨user, huser, hflag⟩
  rw [h, Table.get?_modify_self] at huser
  obtain ⟨user₀, -, rfl⟩ := Option.map_eq_some_iff.mp huser
  exact hflag

end Flags

/-! ## What writes keep -/

/-- **What a write keeps**: who is marked has an approved record; who has one is marked, but for a user
whose session the write approves; and an open record is one that was there, and no less behind than it
was, or it is behind, or it is that of a session that the write registers. -/
structure LicenceWrite (d d' : Db) (es : List Event) : Prop where
  flagged : (∀ u, Flagged d u → Approved d.licences u) → ∀ u, Flagged d' u → Approved d'.licences u
  agrees : ∀ u, Agrees d u → Agrees d' u ∨ ∃ s, .decisionWritten s u .approved ∈ es
  behind : ∀ r ∈ d'.licences, r.IsOpen → Behind d'.licences r ∨
    (r ∈ d.licences ∧ (Behind d.licences r → Behind d'.licences r)) ∨
      ¬ Recorded d.licences r.veriffSessionId ∧ ∃ u, .sessionRegistered r.veriffSessionId u ∈ es
  own : ManualOwn d.licences → ManualOwn d'.licences
  recorded : ∀ s, Recorded d.licences s → Recorded d'.licences s

section Writes

variable {d d' : Db} {es : List Event} {userId : ℕ}

theorem LicenceWrite.refl : LicenceWrite d d es where
  flagged h := h
  agrees _ h := Or.inl h
  behind _ hr _ := Or.inr (Or.inl ⟨hr, id⟩)
  own h := h
  recorded _ h := h

section OneUser

variable (hothers : ∀ r, r.userId ≠ userId → (r ∈ d'.licences ↔ r ∈ d.licences))
  (husers : ∀ u, u ≠ userId → d'.users.get? u = d.users.get? u)
  (hown : ManualOwn d.licences → ManualOwn d'.licences)
  (hrecorded : ∀ s, Recorded d.licences s → Recorded d'.licences s)

include hothers

/-- The approvals of another user are what they were. -/
theorem approved_of_others {u : ℕ} (hu : u ≠ userId) : Approved d'.licences u ↔ Approved d.licences u := by
  refine exists_congr fun a => ⟨?_, ?_⟩
  · rintro ⟨ha, rfl, hstatus⟩
    exact ⟨(hothers a hu).mp ha, rfl, hstatus⟩
  · rintro ⟨ha, rfl, hstatus⟩
    exact ⟨(hothers a hu).mpr ha, rfl, hstatus⟩

/-- So is what their records are behind. -/
theorem behind_of_others {r : DlVerification} (hr : r.userId ≠ userId) (h : Behind d.licences r) :
    Behind d'.licences r :=
  h.mono (fun a ha hu _ => (hothers a (hu ▸ hr)).mpr ha) (approved_of_others hothers hr).mp

include husers hown hrecorded

/-- A write of the records of one user, who has no approval and no mark after it. -/
theorem licenceWrite_of_unapproved (hnone : ¬ Approved d'.licences userId)
    (hflag : Flagged d' userId → Flagged d userId ∧ ¬ Approved d.licences userId) :
    LicenceWrite d d' es where
  flagged h u hu := by
    by_cases hself : u = userId
    · obtain ⟨hbefore, hnot⟩ := hflag (hself ▸ hu)
      exact absurd (h userId hbefore) hnot
    · refine (approved_of_others hothers hself).mpr (h u ?_)
      obtain ⟨user, huser, hverified⟩ := hu
      exact ⟨user, (husers u hself).symm.trans huser, hverified⟩
  agrees u h := by
    left
    by_cases hself : u = userId
    · exact agrees_of_unapproved (hself ▸ hnone)
    · intro user huser happroved
      exact h user ((husers u hself).symm.trans huser) ((approved_of_others hothers hself).mp happroved)
  behind r hr _ := by
    by_cases hself : r.userId = userId
    · exact Or.inl fun happroved => absurd (hself ▸ happroved) hnone
    · exact Or.inr (Or.inl ⟨(hothers r hself).mp hr, behind_of_others hothers hself⟩)
  own := hown
  recorded := hrecorded

/-- A write of the records of one user, who is marked and has an approval after it. -/
theorem licenceWrite_of_approved (happroved : Approved d'.licences userId)
    (hagrees : Agrees d' userId)
    (hbehind : ∀ r ∈ d'.licences, r.userId = userId → r.IsOpen → Behind d'.licences r ∨
      (r ∈ d.licences ∧ (Behind d.licences r → Behind d'.licences r))) :
    LicenceWrite d d' es where
  flagged h u hu := by
    by_cases hself : u = userId
    · exact hself ▸ happroved
    · refine (approved_of_others hothers hself).mpr (h u ?_)
      obtain ⟨user, huser, hverified⟩ := hu
      exact ⟨user, (husers u hself).symm.trans huser, hverified⟩
  agrees u h := by
    left
    by_cases hself : u = userId
    · exact hself ▸ hagrees
    · intro user huser happroved'
      exact h user ((husers u hself).symm.trans huser) ((approved_of_others hothers hself).mp happroved')
  behind r hr hopen := by
    by_cases hself : r.userId = userId
    · exact (hbehind r hr hself hopen).imp_right Or.inl
    · exact Or.inr (Or.inl ⟨(hothers r hself).mp hr, behind_of_others hothers hself⟩)
  own := hown
  recorded := hrecorded

end OneUser

end Writes

end Deliivo

import Deliivo.Booking.PaymentSucceeded

/-!
# Verifying a driving licence

A licence is verified by a session at Veriff, whose decision arrives as a webhook, or by an admin who
reads an uploaded document. Both write the records of the user, one for each session and one for the
manual review, and a flag on the user that the rest of the service goes by.

## Main definitions

* `handleWebhookDecision`: the decision on a session
* `submitDlDocument`, `approveDlDocument`, `declineDlDocument`, `requestDlResubmission`,
  `requireVeriffForUser`: the manual review
* `getVerificationStatus`: what is reported to the user
-/

namespace Deliivo

/-! ## The records -/

/-- Whether the session is the manual review of some user. -/
def SessionId.isManual : SessionId → Bool
  | .manual _ => true
  | .veriff _ => false

/-- The number of the next write of the table. -/
def Db.nextDlWrite (d : Db) : ℕ := (d.dlVerifications.rows.map (·.2.updatedAt)).foldr max 0 + 1

/-- A record of this session. -/
def findVerification (veriffSessionId : SessionId) : Stmt (Option (ℕ × DlVerification)) :=
  findFirst dlVerifications fun _ r => r.veriffSessionId == veriffSessionId

/-- `dlVerification.updateMany`; each row that it writes has been written last. -/
def updateVerifications (P : DlVerification → Bool) (f : DlVerification → DlVerification) :
    Stmt (List ℕ) where
  answer d := (d.dlVerifications.filter fun _ r => P r).map Prod.fst
  write seen d := { d with
    dlVerifications := d.dlVerifications.modifyWhere
      (fun id _ => seen.dlVerifications.holds (fun _ r => P r) id)
      fun r => { f r with updatedAt := d.nextDlWrite } }

/-- `dlVerification.update`, by the session. -/
def updateVerification (veriffSessionId : SessionId) (f : DlVerification → DlVerification) :
    Stmt (Except Err Unit) where
  answer d :=
    if (updateVerifications (·.veriffSessionId == veriffSessionId) f).answer d = [] then
      .error .notFound
    else .ok ()
  write := (updateVerifications (·.veriffSessionId == veriffSessionId) f).write

/-- `dlVerification.create`; a session has one record. -/
def createVerification (id userId : ℕ) (veriffSessionId : SessionId)
    (f : DlVerification → DlVerification) : Stmt (Except Err Unit) where
  answer d :=
    if ((findVerification veriffSessionId).answer d).isSome then .error .uniqueViolation else .ok ()
  write _ d := { d with
    dlVerifications := d.dlVerifications.insert id
      { f { userId, veriffSessionId, updatedAt := 0 } with updatedAt := d.nextDlWrite } }

/-- `dlVerification.upsert`. -/
def upsertVerification (id userId : ℕ) (veriffSessionId : SessionId)
    (f : DlVerification → DlVerification) : Stmt Unit where
  answer _ := ()
  write seen d :=
    if ((findVerification veriffSessionId).answer seen).isSome then
      (updateVerification veriffSessionId f).write seen d
    else (createVerification id userId veriffSessionId f).write seen d

/-- Mark a user as verified, or as not. -/
def flagUser (userId : ℕ) (dlVerified : Bool) : Stmt (Except Err User) :=
  update users userId fun u => { u with dlVerified }

/-! ## The decisions of Veriff -/

/-- What the webhook reads of its payload but for the verified person, whose match with the profile is
only recorded. -/
structure VeriffVerification where
  /-- None where it is no text, or empty. -/
  id : Option ℕ
  status : String := ""
  /-- The user that the session was made for, where it is a text that is not blank. -/
  vendorData : Option ℕ := none
  deriving DecidableEq, Repr

/-- `statusMap`. -/
def mappedStatus (status : String) : DlVerificationStatus :=
  match status with
  | "approved" => .approved
  | "declined" => .declined
  | "resubmission_requested" => .resubmissionRequested
  | "expired" => .expired
  | _ => .declined

/-- What the webhook is answered. -/
inductive WebhookResult
  | failed (reason : String)
  | decided (status : DlVerificationStatus)
  deriving DecidableEq, Repr

/-- The user that the payload names, if there is one. -/
def findVendorUser (vendorData : Option ℕ) : Service (Option ℕ) :=
  match vendorData with
  | none => return none
  | some userId => do
    let user ← sql (findUnique users userId)
    return user.map fun _ => userId

/-- A session that was never registered has its record created. -/
def registerSession (registered : Bool) (veriffSessionId : SessionId) (userId : ℕ) : Service Unit :=
  if registered then return ()
  else
    Program.perform <| .transact
      (fun ctx => Program.perform <| createVerification ctx.uuid userId veriffSessionId id)
      fun _ => [.sessionRegistered veriffSessionId userId]

/-- Write the decision, and whose session it is, whatever the record says. -/
def writeDecision (veriffSessionId : SessionId) (userId : ℕ) (status : DlVerificationStatus) :
    Service Unit :=
  Program.perform <| .transact
    (fun _ => Program.perform <| updateVerification veriffSessionId fun r => { r with userId, status })
    fun _ => [.decisionWritten veriffSessionId userId status]

/-- An approval marks the user as verified and closes the sessions that are still open. -/
def flagLicence (veriffSessionId : SessionId) (userId : ℕ) : Service Unit :=
  Program.perform <| .transact
    (fun _ => do
      let _ ← Program.perform (flagUser userId true)
      let _ ← Program.command <| updateVerifications
        (fun r => r.userId == userId && r.status == .pending && r.veriffSessionId != veriffSessionId)
        fun r => { r with status := .superseded })
    fun _ => [.licenceFlagged userId]

/-- The part of `handleWebhookDecision` that writes. -/
def decideSession (registered : Bool) (veriffSessionId : SessionId) (userId : ℕ)
    (status : DlVerificationStatus) : Service WebhookResult := do
  registerSession registered veriffSessionId userId
  let _ ← sql (findUnique users userId)
  writeDecision veriffSessionId userId status
  if status = .approved then
    flagLicence veriffSessionId userId
    return .decided status
  else return .decided status

def handleWebhookDecision (verification : Option VeriffVerification) : Service WebhookResult :=
  match verification with
  | none => return .failed "INVALID_PAYLOAD"
  | some verification =>
    match verification.id with
    | none => return .failed "INVALID_PAYLOAD"
    | some session => do
      let record ← sql (findVerification (.veriff session))
      let vendorUser ← findVendorUser verification.vendorData
      match vendorUser.or (record.map (·.2.userId)) with
      | none => return .failed "SESSION_NOT_FOUND"
      | some userId =>
        decideSession record.isSome (.veriff session) userId (mappedStatus verification.status)

/-! ## The manual review -/

/-- `isVerifiedElsewhere`: an approved record besides the manual one. -/
def isVerifiedElsewhere (userId : ℕ) : Stmt (Option (ℕ × DlVerification)) :=
  findFirst dlVerifications fun _ r =>
    r.userId == userId && r.status == .approved && r.veriffSessionId != .manual userId

def submitDlDocument (userId : ℕ) (documentImageKey : String) : Service Unit := do
  let user ← sql (findUnique users userId)
  match user with
  | none => throw (.text "USER_NOT_FOUND")
  | some user =>
    if user.dlVerified then throw (.text "ALREADY_VERIFIED")
    else
      -- verified by the other provider
      let elsewhere ← sql (isVerifiedElsewhere userId)
      if elsewhere.isSome then throw (.text "ALREADY_VERIFIED")
      else
        Program.perform <| .transact
          (fun ctx => Program.command <| upsertVerification ctx.uuid userId (.manual userId) fun r =>
            { r with
              status := .pending
              documentImageKey := some documentImageKey
              declineReason := none })
          fun _ => [.reviewWritten userId .pending]

/-- `loadPendingRow`: the manual record that a decision applies to. -/
def loadPendingRow (userId : ℕ) : Service Unit := do
  let row ← sql (findVerification (.manual userId))
  match row with
  | none => throw (.text "DL_SUBMISSION_NOT_FOUND")
  | some (_, row) =>
    if row.documentImageKey.all (· == "") then throw (.text "DL_DOCUMENT_MISSING")
    else if row.status = .superseded then throw (.text "DL_SUBMISSION_SUPERSEDED")
    else
      let elsewhere ← sql (isVerifiedElsewhere userId)
      if elsewhere.isSome then throw (.text "DL_VERIFIED_ELSEWHERE") else return ()

/-- A user that there has to be. -/
def requireUser (userId : ℕ) : Service Unit := do
  let user ← sql (findUnique users userId)
  match user with
  | none => throw (.text "USER_NOT_FOUND")
  | some _ => return ()

/-- The transaction of `approveDlDocument`; whether it was the one that approved. -/
def approveReview (userId : ℕ) : Tx Bool := do
  let updated ← Program.command <| updateVerifications
    (fun r => r.veriffSessionId == .manual userId && r.status != .approved)
    fun r => { r with status := .approved, declineReason := none }
  let _ ← Program.perform (flagUser userId true)
  return updated != []

def approveDlDocument (userId : ℕ) : Service Unit := do
  loadPendingRow userId
  requireUser userId
  let transitioned ← Program.perform <| .transact (fun _ => approveReview userId)
    fun _ => [.reviewWritten userId .approved]
  let record ← sql (findVerification (.manual userId))
  if record.isNone then throw .notFound
  else if transitioned then bestEffort notify
  else return ()

/-- The transaction in which an admin refuses a document. -/
def refuseReview (userId : ℕ) (status : DlVerificationStatus) (reason : String) : Tx Unit := do
  Program.perform <| updateVerification (.manual userId) fun r =>
    { r with status, declineReason := some reason }
  let _ ← Program.perform (flagUser userId false)

/-- An admin's refusal. -/
def refuseDlDocument (status : DlVerificationStatus) (userId : ℕ) (reason : String) :
    Service Unit := do
  loadPendingRow userId
  requireUser userId
  Program.perform <| .transact (fun _ => refuseReview userId status reason)
    fun _ => [.reviewWritten userId status]
  bestEffort notify

def declineDlDocument (userId : ℕ) (reason : String) : Service Unit :=
  refuseDlDocument .declined userId reason

def requestDlResubmission (userId : ℕ) (reason : String) : Service Unit :=
  refuseDlDocument .resubmissionRequested userId reason

/-- An approval by Veriff, as `requireVeriffForUser` looks for one. -/
def findVeriffApproval (userId : ℕ) : Stmt (Option (ℕ × DlVerification)) :=
  findFirst dlVerifications fun _ r =>
    r.userId == userId && r.status == .approved && r.documentImageKey.isNone &&
      !r.veriffSessionId.isManual

/-- The transaction of `requireVeriffForUser`. -/
def withdrawReview (userId : ℕ) (approved : Bool) : Tx Unit := do
  if approved then
    Program.perform <| updateVerification (.manual userId) fun r => { r with status := .superseded }
    let _ ← Program.perform (flagUser userId false)
  else
    let _ ← Program.perform (flagUser userId false)

def requireVeriffForUser (userId : ℕ) : Service Unit := do
  requireUser userId
  let manualApprovedRow ← sql (findVerification (.manual userId))
  let existingVeriffApproval ← sql (findVeriffApproval userId)
  if existingVeriffApproval.isSome then throw (.text "ALREADY_VERIFF_VERIFIED")
  else
    let approved := manualApprovedRow.any fun r => r.2.status == .approved
    Program.perform <| .transact (fun _ => withdrawReview userId approved) fun _ =>
      if approved then [.reviewWritten userId .superseded] else [.licenceCleared userId]
    notify

/-! ## What is reported -/

/-- The record that was written last, but for superseded ones. -/
def latestVerification (userId : ℕ) : Stmt (Option DlVerification) where
  answer d := ((d.dlVerifications.filter fun _ r =>
    r.userId == userId && r.status != .superseded).map Prod.snd).argmax DlVerification.updatedAt

/-- `getVerificationStatus`: the status of that record, or none where nothing has been started. What
Veriff has `decided` on sessions that are still pending is handled first. -/
def getVerificationStatus (decided : List VeriffVerification) (userId : ℕ) :
    Service (Option DlVerificationStatus) := do
  Program.forEach decided fun verification =>
    bestEffort do let _ ← handleWebhookDecision (some verification)
  let latest ← sql (latestVerification userId)
  return latest.map (·.status)

end Deliivo

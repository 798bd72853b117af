import Deliivo.Booking.PaymentSucceeded

/-!
# Edits and reviews of vehicles

A driver edits the plate, the details and the documents of a vehicle, and an admin approves or
rejects it. Whether an edit returns the vehicle to the admins is decided from the status that the edit
has read; the edit and the reset are written later, together.

## Main definitions

* `buildReviewReset`: whether an edit invalidates the decision of the admins
* `updateCreateVehicle`, `updateVehicleDetailService`, `addVehicleDocument`, `deleteVehicleDocument`:
  the edits
* `verifyVehicle`, `rejectVehicle`: the decisions
-/

namespace Deliivo

/-! ## The reset of a review -/

/-- `changeKindForDocumentType`. -/
def DocumentType.changeKind : DocumentType → VehicleChangeKind
  | .vehicleImage | .vehicleImageFront | .vehicleImageBack => .primaryPhoto
  | .vehicleDocument | .drivingLicense | .insuranceDocument => .kycDocument

/-- `REVIEW_RESET`. -/
def Vehicle.reviewReset (vehicle : Vehicle) : Vehicle :=
  { vehicle with
    isVerified := false
    verificationStatus := .pending
    rejectionReason := none
    reviewedAt := none
    reviewedById := none }

/-- `REQUEUE_APPROVED_ON_PHOTO_CHANGE`. -/
def requeueApprovedOnPhotoChange : Bool := false

/-- What a driver's edit writes besides: nothing on a vehicle that is queued already. -/
def buildReviewReset (current : VehicleVerificationStatus) (change : VehicleChangeKind) :
    Option (Vehicle → Vehicle) :=
  match current with
  | .rejected => some Vehicle.reviewReset
  | .pending => none
  | .approved =>
    if change == .primaryPhoto && !requeueApprovedOnPhotoChange then none
    else some Vehicle.reviewReset

/-! ## Edits of the vehicle -/

/-- A vehicle of this user that has not been deleted. -/
def findOwnedVehicle (userId vehicleId : ℕ) : Stmt (Option (ℕ × Vehicle)) :=
  findFirst vehicles fun id v => id == vehicleId && v.userId == userId && v.deletedAt.isNone

/-- Write an edit of a vehicle, and the reset with it. -/
def writeVehicle (vehicleId : ℕ) (change : VehicleChangeKind) (reset : Option (Vehicle → Vehicle))
    (f : Vehicle → Vehicle) : Service Unit := do
  let _ ← Program.perform <| .transact
    (fun _ => Program.perform <| update vehicles vehicleId fun v => reset.getD id (f v))
    fun _ => [.vehicleEdited vehicleId change reset.isSome]

/-- An edit of the columns of a vehicle. -/
def editVehicle (userId vehicleId : ℕ) (change : VehicleChangeKind) (f : Vehicle → Vehicle) :
    Service Unit := do
  let found ← sql (findOwnedVehicle userId vehicleId)
  match found with
  | none => throw (.text "VEHICLE_NOT_FOUND")
  | some (_, vehicle) =>
    writeVehicle vehicleId change (buildReviewReset vehicle.verificationStatus change) f

def updateCreateVehicle (userId vehicleId : ℕ) (licenseCountry licenseNumber : String) :
    Service Unit :=
  editVehicle userId vehicleId .licensePlate fun v => { v with licenseCountry, licenseNumber }

def updateVehicleDetailService (userId vehicleId : ℕ) (details : VehicleDetails) : Service Unit :=
  editVehicle userId vehicleId .vehicleDetails fun v => { v with details }

/-! ## Edits of the documents -/

/-- The reset in a transaction that writes documents. -/
def requeueVehicle (vehicleId : ℕ) (reset : Option (Vehicle → Vehicle)) : Tx Unit :=
  match reset with
  | none => return ()
  | some f => do
    let _ ← Program.perform <| update vehicles vehicleId f

structure VehicleDocumentInput where
  imageKey : String
  imageUrl : Option String := none
  documentType : DocumentType
  deriving DecidableEq, Repr

/-- The transaction of `addVehicleDocument`: the current document of the type is replaced. -/
def replaceDocument (vehicleId : ℕ) (input : VehicleDocumentInput)
    (reset : Option (Vehicle → Vehicle)) (ctx : Ctx) : Tx Unit := do
  Program.command <| deleteMany vehicleDocuments fun _ doc =>
    doc.vehicleId == vehicleId && doc.documentType == input.documentType
  Program.command <| create vehicleDocuments ctx.uuid {
    vehicleId
    image := input.imageUrl
    imageKey := some input.imageKey
    documentType := input.documentType }
  requeueVehicle vehicleId reset

def addVehicleDocument (userId vehicleId : ℕ) (input : VehicleDocumentInput) : Service Unit := do
  let found ← sql (findOwnedVehicle userId vehicleId)
  match found with
  | none => throw (.text "VEHICLE_NOT_FOUND")
  | some (_, vehicle) => do
    -- a confirm that the client retried
    let existing ← sql <| findFirst vehicleDocuments fun _ doc =>
      doc.vehicleId == vehicleId && doc.imageKey == some input.imageKey
    if existing.isSome then return ()
    else
      let change := input.documentType.changeKind
      let reset := buildReviewReset vehicle.verificationStatus change
      Program.perform <| .transact (replaceDocument vehicleId input reset)
        fun _ => [.vehicleEdited vehicleId change reset.isSome]

/-- `findVehicleDocumentByKey`. -/
def findVehicleDocumentByKey (userId vehicleId : ℕ) (imageKey : String) :
    Stmt (Option (ℕ × VehicleDocument)) where
  answer d := (d.vehicleDocuments.filter fun _ doc =>
    doc.imageKey == some imageKey && doc.vehicleId == vehicleId &&
      (d.vehicles.get? vehicleId).any fun v => v.userId == userId && v.deletedAt.isNone).head?

/-- The transaction of `deleteVehicleDocument`: the row that it deleted. -/
def removeDocument (vehicleId docId : ℕ) (reset : Option (Vehicle → Vehicle)) :
    Tx VehicleDocument := do
  let deleted ← Program.perform (deleteUnique vehicleDocuments docId)
  requeueVehicle vehicleId reset
  return deleted

/-- What the commit of a deletion means: the row is what it was when it was deleted. -/
def reportRemoved (vehicleId : ℕ) (reset : Bool) (deleted : VehicleDocument) : List Event :=
  [.vehicleEdited deleted.vehicleId deleted.documentType.changeKind
    (reset && deleted.vehicleId == vehicleId)]

def deleteVehicleDocument (userId vehicleId : ℕ) (imageKey : String) : Service Unit := do
  let doc ← sql (findVehicleDocumentByKey userId vehicleId imageKey)
  match doc with
  | none => return ()
  | some (docId, doc) => do
    let vehicle ← sql (findOwnedVehicle userId vehicleId)
    let reset := vehicle.bind fun v =>
      buildReviewReset v.2.verificationStatus doc.documentType.changeKind
    let _ ← Program.perform <| .transact (fun _ => removeDocument vehicleId docId reset)
      (reportRemoved vehicleId reset.isSome)

/-! ## Decisions -/

/-- What `verifyVehicle` writes. -/
def Vehicle.approved (now : ℕ) (reviewedById : Option ℕ) (vehicle : Vehicle) : Vehicle :=
  { vehicle with
    isVerified := true
    verificationStatus := .approved
    rejectionReason := none
    reviewedAt := some now
    reviewedById }

/-- What `rejectVehicle` writes. -/
def Vehicle.rejected (now : ℕ) (reason : String) (reviewedById : Option ℕ) (vehicle : Vehicle) :
    Vehicle :=
  { vehicle with
    isVerified := false
    verificationStatus := .rejected
    rejectionReason := some reason
    reviewedAt := some now
    reviewedById }

/-- A decision of an admin. -/
def decideVehicle (vehicleId : ℕ) (f : Ctx → Vehicle → Vehicle) (events : List Event) :
    Service Unit := do
  let found ← sql (findUnique vehicles vehicleId)
  match found with
  | none => throw (.text "VEHICLE_NOT_FOUND")
  | some _ => do
    let _ ← Program.perform <| .transact
      (fun ctx => Program.perform <| update vehicles vehicleId (f ctx)) fun _ => events
    notify

def verifyVehicle (vehicleId : ℕ) (reviewedById : Option ℕ) : Service Unit :=
  decideVehicle vehicleId (fun ctx => Vehicle.approved ctx.now reviewedById)
    [.vehicleVerified vehicleId]

def rejectVehicle (vehicleId : ℕ) (reason : String) (reviewedById : Option ℕ) : Service Unit :=
  decideVehicle vehicleId (fun ctx => Vehicle.rejected ctx.now reason reviewedById) []

end Deliivo

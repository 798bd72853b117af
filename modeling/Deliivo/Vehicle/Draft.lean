import Deliivo.Domain.Records
import Deliivo.Store.Expiring

/-!
# The draft of a vehicle

A driver enters a vehicle in steps, and what has been entered so far is one value in Redis. Every step
reads the whole draft, changes its part and writes the whole draft back, which also renews its time to
live. The details and the documents, one for every type, are the parts.

## Main definitions

* `DraftVehicle`: the draft
* `getDraft`, `saveDraft`: reading it and writing it back
* `updateVehicleDetails`, `addDocument`: the steps
* `DraftEdit.Sees`: a step has read everything that is there and that it does not write itself
-/

namespace Deliivo

structure DraftDocument where
  documentType : DocumentType
  imageUrl : Option String := none
  imageKey : Option String := none
  deriving DecidableEq, Repr

/-- The draft; its details are the fields `brand`, `model_num`, `model_name`, `type`, `color` and
`year`. -/
structure DraftVehicle where
  userId : ℕ
  step : ℕ
  createdAt : ℕ
  updatedAt : ℕ
  licenseCountry : Option String := none
  licenseNumber : Option String := none
  details : VehicleDetails := {}
  documents : Option (List DraftDocument) := none
  deriving DecidableEq, Repr

/-- The `source` of `addDocument`. -/
structure DraftSource where
  imageUrl : Option String := none
  imageKey : Option String := none
  deriving DecidableEq, Repr

/-- The calls that edit a draft. -/
inductive DraftEdit
  | details (input : VehicleDetails)
  | document (documentType : DocumentType) (source : DraftSource)
  deriving DecidableEq, Repr

/-- The call that has read the draft `read` writes its edit of it. -/
structure DraftSaved where
  edit : DraftEdit
  read : DraftVehicle

abbrev DraftStore := ExpiringStore String DraftVehicle

abbrev DraftService := Program (StoreCall String DraftVehicle DraftSaved) Err

/-- `DRAFT_TTL`. -/
def draftTtl : ℕ := 30 * 60 * 1000

def draftKey (userId : ℕ) : String := "vehicleDraft:" ++ toString userId

/-! ## The calls -/

def getDraft (userId : ℕ) : DraftService DraftVehicle := do
  let data ← (StoreCommand.get (draftKey userId)).issue
  match data with
  | none => throw (.text "DRAFT_NOT_FOUND")
  | some draft => return draft

/-- Write a draft back; `saved` says for whom. -/
def saveDraft (draft : DraftVehicle) (saved : DraftSaved) : DraftService DraftVehicle := do
  let now ← StoreCommand.time.issue
  let draft := { draft with updatedAt := now }
  let _ ← Program.command
    { command := .setEx (draftKey draft.userId) draft draftTtl, report := fun _ _ => [saved] }
  return draft

/-- Replace the first document of this type, or add the document. -/
def putDocument (doc : DraftDocument) (documents : List DraftDocument) : List DraftDocument :=
  match documents.findIdx? fun d => d.documentType == doc.documentType with
  | some existingIdx => documents.set existingIdx doc
  | none => documents ++ [doc]

/-- What a call makes of the draft that it has read. -/
def DraftEdit.apply : DraftEdit → DraftVehicle → DraftVehicle
  | .details input, draft =>
    { draft with
      details := input
      step := max draft.step 2 }
  | .document documentType source, draft =>
    { draft with
      documents := some <|
        putDocument ⟨documentType, source.imageUrl, source.imageKey⟩ (draft.documents.getD [])
      step := max draft.step 3 }

def updateVehicleDetails (userId : ℕ) (input : VehicleDetails) : DraftService DraftVehicle := do
  let draft ← getDraft userId
  let edit := DraftEdit.details input
  saveDraft (edit.apply draft) ⟨edit, draft⟩

def addDocument (userId : ℕ) (documentType : DocumentType) (source : DraftSource) :
    DraftService DraftVehicle := do
  let draft ← getDraft userId
  let edit := DraftEdit.document documentType source
  saveDraft (edit.apply draft) ⟨edit, draft⟩

def DraftEdit.program (userId : ℕ) : DraftEdit → DraftService Unit
  | .details input => do
    let _ ← updateVehicleDetails userId input
  | .document documentType source => do
    let _ ← addDocument userId documentType source

/-! ## The parts of a draft -/

/-- The document of this type is in the draft, or the details are. -/
def DraftVehicle.Contains (draft : DraftVehicle) : DraftEdit → Prop
  | .details input => draft.details = input
  | .document documentType source =>
    ⟨documentType, source.imageUrl, source.imageKey⟩ ∈ draft.documents.getD []

instance (draft : DraftVehicle) : DecidablePred draft.Contains
  | .details input => inferInstanceAs (Decidable (draft.details = input))
  | .document _ _ =>
    inferInstanceAs (Decidable (_ ∈ draft.documents.getD []))

/-- The part that a call writes: the document of a type, or the details. -/
def DraftEdit.part : DraftEdit → Option DocumentType
  | .details _ => none
  | .document documentType _ => some documentType

/-- What is in the draft `stored` besides the part of the call is in the draft `read` as well. -/
def DraftEdit.Sees (edit : DraftEdit) (read stored : DraftVehicle) : Prop :=
  ∀ other : DraftEdit, other.part ≠ edit.part → stored.Contains other → read.Contains other

variable {doc d : DraftDocument} {documents : List DraftDocument}

theorem mem_putDocument_self : doc ∈ putDocument doc documents := by
  unfold putDocument
  cases hidx : documents.findIdx? fun d => d.documentType == doc.documentType with
  | none => exact List.mem_append_right _ (List.mem_singleton_self _)
  | some i =>
    obtain ⟨hi, -⟩ := List.findIdx?_eq_some_iff_getElem.mp hidx
    exact List.mem_set hi doc

/-- The documents of other types stay. -/
theorem mem_putDocument_of_ne (h : d ∈ documents) (hne : d.documentType ≠ doc.documentType) :
    d ∈ putDocument doc documents := by
  unfold putDocument
  cases hidx : documents.findIdx? fun d => d.documentType == doc.documentType with
  | none => exact List.mem_append_left _ h
  | some i =>
    obtain ⟨hi, htype, -⟩ := List.findIdx?_eq_some_iff_getElem.mp hidx
    obtain ⟨j, hj⟩ := List.mem_iff_getElem?.mp h
    refine List.mem_iff_getElem?.mpr ⟨j, ?_⟩
    rw [List.getElem?_set_ne, hj]
    rintro rfl
    -- the document that is replaced is of the type of the new one
    rw [List.getElem?_eq_getElem hi] at hj
    rw [Option.some.inj hj] at htype
    exact hne (eq_of_beq htype)

variable {edit other : DraftEdit} {read stored : DraftVehicle}

theorem DraftEdit.contains_apply : (edit.apply read).Contains edit := by
  cases edit with
  | details input => rfl
  | document documentType source => exact mem_putDocument_self

/-- An edit leaves the other parts of the draft it is made in. -/
theorem DraftEdit.contains_apply_of_ne (hpart : other.part ≠ edit.part) (h : read.Contains other) :
    (edit.apply read).Contains other := by
  cases edit with
  | details input =>
    cases other with
    | details input' => exact absurd rfl hpart
    | document documentType source => exact h
  | document documentType source =>
    cases other with
    | details input => exact h
    | document documentType' source' =>
      exact mem_putDocument_of_ne h fun heq => hpart (congrArg some heq)

theorem DraftEdit.userId_apply : (edit.apply read).userId = read.userId := by
  cases edit <;> rfl

end Deliivo

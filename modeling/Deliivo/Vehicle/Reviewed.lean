import Deliivo.Domain.Pool
import Deliivo.Domain.Preserves
import Deliivo.Program.Observed
import Deliivo.Vehicle.Edit

/-!
# An approved vehicle is the one that was reviewed

An edit that reads an approved vehicle returns it to the admins, so that what is approved should
always be what an admin has seen. An edit that has read the vehicle while it waited for its review
resets nothing, and nothing stops it from being written after the approval.

**An approved vehicle is what it was when it was last approved, in every state of an interleaving,
exactly if no edit without a reset changes a vehicle that is approved by the time that it is written**
(`approved_vehicle_reviewed_iff`).

## Main definitions

* `vehicleContent`: the plate, the details and the documents
* `AsReviewed`: the property, over what every vehicle was when it was last approved
* `VehicleOp`, `vehiclePool`: the edits and the decisions, next to each other
* `EditMeets`: the condition on their steps

## Main results

* `asReviewed_iff`: what the commit of an edit does to the property
* `opsConfined_vehicle`: what every step does to it
* `approved_vehicle_reviewed_iff`
-/

namespace Deliivo

open Program (Logged Pool Move)

/-! ## What is reviewed -/

/-- What an admin reviews of a vehicle. -/
structure VehicleContent where
  licenseCountry : String
  licenseNumber : String
  details : VehicleDetails
  documents : ℕ → Option VehicleDocument

/-- The documents of a vehicle that are material to its review, by their ids. -/
def kycDocuments (d : Db) (vehicleId : ℕ) : ℕ → Option VehicleDocument := fun id =>
  (d.vehicleDocuments.get? id).filter fun doc =>
    doc.vehicleId == vehicleId && doc.documentType.changeKind == .kycDocument

/-- A vehicle with these documents. -/
def Vehicle.contentWith (vehicle : Vehicle) (documents : ℕ → Option VehicleDocument) :
    VehicleContent where
  licenseCountry := vehicle.licenseCountry
  licenseNumber := vehicle.licenseNumber
  details := vehicle.details
  documents

def vehicleContent (d : Db) (vehicleId : ℕ) : Option VehicleContent :=
  (d.vehicles.get? vehicleId).map fun v => v.contentWith (kycDocuments d vehicleId)

def vehicleApproved (d : Db) (vehicleId : ℕ) : Bool :=
  (d.vehicles.get? vehicleId).any fun v => v.verificationStatus == .approved

/-- What every vehicle was when it was last approved. -/
abbrev Reviews := ℕ → Option VehicleContent

/-- Every approved vehicle is what it was then. -/
def AsReviewed (d : Db) (reviews : Reviews) : Prop :=
  ∀ id, vehicleApproved d id = true → reviews id = vehicleContent d id

/-- A step that approves a vehicle has it reviewed as it leaves it. -/
def observeReview (events : List Event) (w : World) (reviews : Reviews) : Reviews := fun id =>
  if .vehicleVerified id ∈ events then vehicleContent w.db id else reviews id

/-! ## The calls -/

inductive VehicleOp
  | updateCreateVehicle (userId vehicleId : ℕ) (licenseCountry licenseNumber : String)
  | updateVehicleDetail (userId vehicleId : ℕ) (details : VehicleDetails)
  | addVehicleDocument (userId vehicleId : ℕ) (input : VehicleDocumentInput)
  | deleteVehicleDocument (userId vehicleId : ℕ) (imageKey : String)
  | verifyVehicle (vehicleId : ℕ) (reviewedById : Option ℕ)
  | rejectVehicle (vehicleId : ℕ) (reason : String) (reviewedById : Option ℕ)
  deriving DecidableEq, Repr

def VehicleOp.program : VehicleOp → Service Unit
  | .updateCreateVehicle userId vehicleId licenseCountry licenseNumber =>
    Deliivo.updateCreateVehicle userId vehicleId licenseCountry licenseNumber
  | .updateVehicleDetail userId vehicleId details =>
    updateVehicleDetailService userId vehicleId details
  | .addVehicleDocument userId vehicleId input => Deliivo.addVehicleDocument userId vehicleId input
  | .deleteVehicleDocument userId vehicleId imageKey =>
    Deliivo.deleteVehicleDocument userId vehicleId imageKey
  | .verifyVehicle vehicleId reviewedById => Deliivo.verifyVehicle vehicleId reviewedById
  | .rejectVehicle vehicleId reason reviewedById =>
    Deliivo.rejectVehicle vehicleId reason reviewedById

/-- Anything else that goes on: all of the world but the vehicles and their documents. -/
def besidesVehicles (w' w : World) : World :=
  { w' with db := { w'.db with vehicles := w.db.vehicles, vehicleDocuments := w.db.vehicleDocuments } }

/-- The calls, next to each other. -/
abbrev vehicleCalls := servicePool VehicleOp.program besidesVehicles

/-- The calls, and what every vehicle was when it was last approved. -/
abbrev vehiclePool := vehicleCalls.observed observeReview

/-- Whether an edit writes what is there already. -/
def VehicleOp.rewrites (op : VehicleOp) (d : Db) (id : ℕ) : Bool :=
  (d.vehicles.get? id).any fun v =>
    match op with
    | .updateCreateVehicle _ _ licenseCountry licenseNumber =>
      v.licenseCountry == licenseCountry && v.licenseNumber == licenseNumber
    | .updateVehicleDetail _ _ details => v.details == details
    | _ => false

/-- What an edit is to meet when it is written: one that resets nothing, and is not of a photo,
changes no vehicle that is approved by then. -/
def EditMeets (op : VehicleOp) (d : Db) (events : List Event) : Prop :=
  ∀ id change, .vehicleEdited id change false ∈ events → change ≠ .primaryPhoto →
    vehicleApproved d id = true → op.rewrites d id = true

/-- The condition on the steps of the calls. -/
def VehicleStep (op : VehicleOp) (_tid : ℕ) (x : Logged Event (World × Reviews)) (_reply : Reply)
    (events : List Event) : Prop := EditMeets op x.state.1.db events

/-! ## Commits -/

section Commits

variable {op : VehicleOp} {d d' : Db} {reviews : Reviews}

theorem AsReviewed.of_tables (hvehicles : d'.vehicles = d.vehicles)
    (hdocuments : d'.vehicleDocuments = d.vehicleDocuments) :
    AsReviewed d' reviews ↔ AsReviewed d reviews := by
  have hkyc : kycDocuments d' = kycDocuments d := by
    funext id k
    simp only [kycDocuments, hdocuments]
  simp only [AsReviewed, vehicleApproved, vehicleContent, hkyc, hvehicles]

theorem editMeets_nil (op : VehicleOp) (d : Db) : EditMeets op d [] :=
  fun _ _ h => absurd h List.not_mem_nil

/-- **The commit of an edit.** What it does not change, or resets, stays in order; on a vehicle that
it changes and does not reset everything depends on whether the vehicle is approved. -/
theorem asReviewed_iff {v : ℕ} {change : VehicleChangeKind} {reset : Bool}
    (hd : AsReviewed d reviews)
    (hothers : ∀ id, (id = v → reset = true ∨ change = .primaryPhoto) →
      vehicleApproved d' id = true →
        vehicleApproved d id = true ∧ vehicleContent d' id = vehicleContent d id)
    (hthis : reset = false → change ≠ .primaryPhoto →
      (vehicleApproved d v = true → vehicleApproved d' v = true) ∧
        (vehicleApproved d' v = true → vehicleApproved d v = true) ∧
          (vehicleApproved d v = true →
            (vehicleContent d' v = vehicleContent d v ↔ op.rewrites d v = true))) :
    AsReviewed d' reviews ↔ EditMeets op d [.vehicleEdited v change reset] := by
  constructor
  · intro hd' id change' hmem hchange hid
    obtain ⟨rfl, rfl, rfl⟩ := Event.vehicleEdited.injEq .. ▸ List.mem_singleton.mp hmem
    obtain ⟨hstays, -, hcontent⟩ := hthis rfl hchange
    exact (hcontent hid).mp ((hd' id (hstays hid)).symm.trans (hd id hid))
  · intro hmeets id hid
    by_cases hedited : id = v → reset = true ∨ change = .primaryPhoto
    · obtain ⟨happroved, hcontent⟩ := hothers id hedited hid
      rw [hcontent]
      exact hd id happroved
    · obtain ⟨rfl, hneither⟩ := Classical.not_imp.mp hedited
      obtain ⟨hreset, hchange⟩ := not_or.mp hneither
      have hreset' : reset = false := by simpa using hreset
      subst hreset'
      obtain ⟨-, hwas, hcontent⟩ := hthis rfl hchange
      have happroved := hwas hid
      rw [(hcontent happroved).mpr (hmeets id change List.mem_cons_self hchange happroved)]
      exact hd id happroved

/-! ### Vehicles -/

theorem buildReviewReset_eq {current : VehicleVerificationStatus} {change : VehicleChangeKind}
    {f : Vehicle → Vehicle} (h : buildReviewReset current change = some f) :
    f = Vehicle.reviewReset := by
  cases current with
  | rejected => exact (Option.some.inj h).symm
  | pending => cases h
  | approved =>
    simp only [buildReviewReset] at h
    split_ifs at h
    exact (Option.some.inj h).symm

theorem get?_modify_vehicles (t : Table Vehicle) (vehicleId id : ℕ) (f : Vehicle → Vehicle) :
    (t.modify vehicleId f).get? id = (t.get? id).map fun v => if id = vehicleId then f v else v := by
  rw [Table.get?_modify]
  split_ifs with hid
  · rfl
  · rw [Option.map_id']

/-- A vehicle that an edit has reset is not approved. -/
theorem vehicleApproved_reset {vehicleId : ℕ} {f : Vehicle → Vehicle}
    (h : d'.vehicles.get? vehicleId = (d.vehicles.get? vehicleId).map fun v => (f v).reviewReset) :
    vehicleApproved d' vehicleId = false := by
  rw [vehicleApproved, h]
  cases d.vehicles.get? vehicleId <;> rfl

/-- A vehicle that an edit leaves as it is. -/
theorem vehicle_unchanged {id : ℕ} (hvehicle : d'.vehicles.get? id = d.vehicles.get? id)
    (hdocuments : kycDocuments d' id = kycDocuments d id) (h : vehicleApproved d' id = true) :
    vehicleApproved d id = true ∧ vehicleContent d' id = vehicleContent d id := by
  rw [vehicleApproved, hvehicle] at h
  exact ⟨h, by rw [vehicleContent, vehicleContent, hvehicle, hdocuments]⟩

/-- An edit of columns: it writes `f`, and the reset with it. -/
theorem editVehicle_reviewed {vehicleId : ℕ} {change : VehicleChangeKind}
    {current : VehicleVerificationStatus} {f : Vehicle → Vehicle} (hd : AsReviewed d reviews)
    (hchange : change ≠ .primaryPhoto)
    (hstatus : ∀ v, (f v).verificationStatus = v.verificationStatus)
    (hrewrites : ∀ v documents, d.vehicles.get? vehicleId = some v →
      ((f v).contentWith documents = v.contentWith documents ↔ op.rewrites d vehicleId = true))
    {row : Vehicle} (hrow : d.vehicles.get? vehicleId = some row) :
    AsReviewed { d with vehicles := d.vehicles.modify vehicleId fun v =>
        (buildReviewReset current change).getD id (f v) } reviews ↔
      EditMeets op d [.vehicleEdited vehicleId change (buildReviewReset current change).isSome] := by
  set d' : Db := { d with vehicles := d.vehicles.modify vehicleId fun v =>
    (buildReviewReset current change).getD id (f v) } with hd'
  have hvehicles : ∀ j, d'.vehicles.get? j = (d.vehicles.get? j).map fun v =>
      if j = vehicleId then (buildReviewReset current change).getD id (f v) else v :=
    fun j => get?_modify_vehicles _ _ _ _
  have hdocuments : ∀ j, kycDocuments d' j = kycDocuments d j := fun _ => rfl
  refine asReviewed_iff hd (fun j hj happroved => ?_) fun hreset _ => ?_
  · by_cases hthis : j = vehicleId
    · -- the edit has reset the vehicle
      subst hthis
      have hsome := (hj rfl).resolve_right hchange
      obtain ⟨g, hg⟩ := Option.isSome_iff_exists.mp hsome
      obtain rfl := buildReviewReset_eq hg
      have hfalse : vehicleApproved d' j = false := by
        refine vehicleApproved_reset (d := d) (f := f) ?_
        rw [hvehicles, hg]
        simp only [if_true, Option.getD_some]
      rw [hfalse] at happroved
      cases happroved
    · refine vehicle_unchanged ?_ (hdocuments j) happroved
      rw [hvehicles]
      simp only [if_neg hthis, Option.map_id']
  · have hnone : buildReviewReset current change = none := Option.isSome_eq_false_iff.mp hreset |>
      Option.isNone_iff_eq_none.mp
    have hrow' : d'.vehicles.get? vehicleId = some (f row) := by
      rw [hvehicles, hrow, hnone]
      simp
    have hsame : vehicleApproved d' vehicleId = vehicleApproved d vehicleId := by
      simp only [vehicleApproved, hrow', hrow, Option.any_some, hstatus]
    refine ⟨fun h => hsame.trans h, fun h => hsame.symm.trans h, fun _ => ?_⟩
    rw [vehicleContent, vehicleContent, hrow', hrow, hdocuments, Option.map_some, Option.map_some,
      Option.some_inj]
    exact hrewrites row _ hrow

/-! ### Documents -/

/-- What a transaction that resets a vehicle, or does not, leaves of the vehicles. -/
theorem requeueVehicle_ok {vehicleId : ℕ} {reset : Option (Vehicle → Vehicle)}
    (hreset : ∀ f, reset = some f → f = Vehicle.reviewReset) {u : Unit}
    (h : (requeueVehicle vehicleId reset).atomic d = .ok (u, d')) :
    d'.vehicleDocuments = d.vehicleDocuments ∧ ∀ id, d'.vehicles.get? id =
      (d.vehicles.get? id).map fun v =>
        if id = vehicleId ∧ reset.isSome = true then v.reviewReset else v := by
  cases reset with
  | none =>
    obtain ⟨-, rfl⟩ := Prod.mk.injEq .. ▸ Except.ok.inj h
    refine ⟨rfl, fun id => ?_⟩
    simp
  | some f =>
    obtain rfl := hreset f rfl
    obtain ⟨written, d₁, hwrite, hend⟩ := Tx.atomic_bind.mp h
    obtain ⟨row, -, -, rfl⟩ := Service.atomic_update hwrite
    obtain ⟨-, rfl⟩ := Prod.mk.injEq .. ▸ Except.ok.inj hend
    refine ⟨rfl, fun id => ?_⟩
    refine (get?_modify_vehicles _ _ _ _).trans ?_
    simp only [Option.isSome_some, and_true]
    rfl

/-- A vehicle whose row a transaction has reset, or left alone. -/
theorem vehicleApproved_of_requeued {vehicleId id : ℕ} {reset : Bool}
    (h : d'.vehicles.get? id = (d.vehicles.get? id).map fun v =>
      if id = vehicleId ∧ reset = true then v.reviewReset else v) :
    vehicleApproved d' id = true ↔
      ¬(id = vehicleId ∧ reset = true) ∧ vehicleApproved d id = true := by
  by_cases hthis : id = vehicleId ∧ reset = true
  · refine iff_of_false (fun happroved => ?_) fun hnot => hnot.1 hthis
    simp only [vehicleApproved, h, if_pos hthis] at happroved
    cases hrow : d.vehicles.get? id with
    | none => simp [hrow] at happroved
    | some v => simp [hrow, Vehicle.reviewReset] at happroved
  · rw [and_iff_right hthis, vehicleApproved, h, vehicleApproved]
    simp only [if_neg hthis, Option.map_id']

/-- A transaction that writes documents of one vehicle, and resets it or does not. -/
theorem documents_reviewed {vehicleId v : ℕ} {change : VehicleChangeKind} {reset : Bool}
    (hd : AsReviewed d reviews)
    (hvehicles : ∀ id, d'.vehicles.get? id = (d.vehicles.get? id).map fun row =>
      if id = vehicleId ∧ reset = true then row.reviewReset else row)
    (hothers : ∀ id, (id = v → change = .primaryPhoto) → kycDocuments d' id = kycDocuments d id)
    (hthis : change ≠ .primaryPhoto → kycDocuments d' v ≠ kycDocuments d v)
    (hop : op.rewrites d v = false) :
    AsReviewed d' reviews ↔
      EditMeets op d [.vehicleEdited v change (reset && v == vehicleId)] := by
  have hsame : ∀ id, ¬(id = vehicleId ∧ reset = true) →
      d'.vehicles.get? id = d.vehicles.get? id := by
    intro id hid
    rw [hvehicles]
    simp only [if_neg hid, Option.map_id']
  refine asReviewed_iff hd (fun id hid happroved => ?_) fun hreset hchange => ?_
  · obtain ⟨hnot, -⟩ := (vehicleApproved_of_requeued (hvehicles id)).mp happroved
    refine vehicle_unchanged (hsame id hnot) (hothers id fun hv => ?_) happroved
    refine (hid hv).resolve_left fun hreset => ?_
    rw [Bool.and_eq_true, beq_iff_eq] at hreset
    exact hnot ⟨hv.trans hreset.2, hreset.1⟩
  · have hnot : ¬(v = vehicleId ∧ reset = true) := by
      rintro ⟨rfl, rfl⟩
      simp at hreset
    have happroved : vehicleApproved d' v = vehicleApproved d v := by
      rw [vehicleApproved, hsame v hnot, vehicleApproved]
    refine ⟨fun h => happroved.trans h, fun h => happroved.symm.trans h, fun hv => ?_⟩
    rw [hop]
    refine iff_of_false (fun heq => ?_) Bool.false_ne_true
    obtain ⟨row, hrow, -⟩ := (Option.any_eq_true _ _).mp hv
    rw [vehicleContent, vehicleContent, hsame v hnot, hrow] at heq
    exact hthis hchange (congrArg VehicleContent.documents (Option.some.inj heq))

/-- The transaction of `addVehicleDocument`. -/
theorem replaceDocument_reviewed {userId vehicleId : ℕ} {input : VehicleDocumentInput}
    {reset : Option (Vehicle → Vehicle)} (hd : AsReviewed d reviews)
    (hreset : ∀ f, reset = some f → f = Vehicle.reviewReset) {now : ℕ} {u : Unit}
    (h : (replaceDocument vehicleId input reset ⟨now, d.freshId⟩).atomic d = .ok (u, d')) :
    AsReviewed d' reviews ↔ EditMeets (.addVehicleDocument userId vehicleId input) d
      [.vehicleEdited vehicleId input.documentType.changeKind reset.isSome] := by
  obtain ⟨u₁, d₁, hdelete, hrest⟩ := Tx.atomic_bind.mp h
  obtain ⟨-, rfl⟩ := Prod.mk.injEq .. ▸ Except.ok.inj hdelete
  obtain ⟨u₂, d₂, hcreate, hrequeue⟩ := Tx.atomic_bind.mp hrest
  obtain ⟨-, rfl⟩ := Prod.mk.injEq .. ▸ Except.ok.inj hcreate
  obtain ⟨hdocuments, hvehicles⟩ := requeueVehicle_ok hreset hrequeue
  -- the row is created under an id that no row has
  have hfresh : d.vehicleDocuments.get? d.freshId = none :=
    Table.get?_of_nextKey_le (Db.le_freshId (by simp [Db.idBounds]))
  set P : ℕ → VehicleDocument → Bool := fun _ doc =>
    doc.vehicleId == vehicleId && doc.documentType == input.documentType with hP
  set doc : VehicleDocument := {
    vehicleId
    image := input.imageUrl
    imageKey := some input.imageKey
    documentType := input.documentType } with hdoc
  have hrows : ∀ k, d'.vehicleDocuments.get? k = if k = d.freshId then some doc
      else (d.vehicleDocuments.get? k).filter fun r => !P k r := by
    intro k
    rw [hdocuments]
    have hdeleted := Table.get?_deleteWhere_holds d.vehicleDocuments P
    refine (Table.get?_insert ?_ _ _).trans ?_
    · refine (hdeleted _).trans ?_
      rw [hfresh]
      rfl
    · split_ifs with hk
      · rfl
      · exact hdeleted k
  have hreported := @documents_reviewed (.addVehicleDocument userId vehicleId input) _ _ _
    vehicleId vehicleId input.documentType.changeKind reset.isSome hd hvehicles ?_ ?_ ?_
  · rwa [beq_self_eq_true, Bool.and_true] at hreported
  · -- a photo is none of the documents, and a document of this vehicle is none of another's
    intro id hid
    funext k
    rw [kycDocuments, hrows, kycDocuments]
    have hnone : ∀ r : VehicleDocument, r.vehicleId = vehicleId →
        r.documentType = input.documentType →
          (r.vehicleId == id && r.documentType.changeKind == .kycDocument) = false := by
      intro r hvehicle htype
      rw [hvehicle, htype]
      by_cases hthis : id = vehicleId
      · rw [hid hthis]
        exact Bool.and_false _
      · simp [Ne.symm hthis]
    split_ifs with hk
    · rw [hk, hfresh]
      simp [Option.filter, hnone doc rfl rfl]
    · cases hrow : d.vehicleDocuments.get? k with
      | none => rfl
      | some r =>
        by_cases hr : P k r = true
        · have hboth : r.vehicleId = vehicleId ∧ r.documentType = input.documentType := by
            simpa [hP] using hr
          have hnot := hnone r hboth.1 hboth.2
          simp only [Option.filter_some, hr, hnot, Bool.not_true, Bool.false_eq_true, if_false,
            Option.filter_none]
        · simp [Option.filter, hr]
  · intro hchange heq
    have hkind : input.documentType.changeKind = .kycDocument := by
      cases htype : input.documentType <;> simp_all [DocumentType.changeKind]
    have hnew := congrFun heq d.freshId
    rw [kycDocuments, hrows, if_pos rfl, kycDocuments, hfresh] at hnew
    simp [Option.filter, hdoc, hkind] at hnew
  · rw [VehicleOp.rewrites]
    cases d.vehicles.get? vehicleId <;> rfl

/-- The transaction of `deleteVehicleDocument`. -/
theorem removeDocument_reviewed {userId vehicleId docId : ℕ} {imageKey : String}
    {reset : Option (Vehicle → Vehicle)} (hd : AsReviewed d reviews)
    (hreset : ∀ f, reset = some f → f = Vehicle.reviewReset) {deleted : VehicleDocument}
    (h : (removeDocument vehicleId docId reset).atomic d = .ok (deleted, d')) :
    AsReviewed d' reviews ↔ EditMeets (.deleteVehicleDocument userId vehicleId imageKey) d
      (reportRemoved vehicleId reset.isSome deleted) := by
  obtain ⟨row, d₁, hdelete, hrest⟩ := Tx.atomic_bind.mp h
  obtain ⟨hrow, rfl⟩ := Service.atomic_deleteUnique hdelete
  obtain ⟨u, d₂, hrequeue, hend⟩ := Tx.atomic_bind.mp hrest
  obtain ⟨rfl, rfl⟩ := Prod.mk.injEq .. ▸ Except.ok.inj hend
  obtain ⟨hdocuments, hvehicles⟩ := requeueVehicle_ok hreset hrequeue
  have hrow' : d.vehicleDocuments.get? docId = some row := hrow
  have hrows : ∀ k, d₂.vehicleDocuments.get? k =
      (d.vehicleDocuments.get? k).filter fun _ => !(k == docId) := by
    intro k
    rw [hdocuments]
    exact Table.get?_deleteWhere d.vehicleDocuments (fun id' _ => id' == docId) k
  refine documents_reviewed hd hvehicles (fun id hid => ?_) (fun hchange heq => ?_) ?_
  · funext k
    rw [kycDocuments, hrows, kycDocuments]
    by_cases hk : k = docId
    · rw [hk, hrow']
      -- the document deleted counts only for its own vehicle, and only if it is reviewed
      by_cases hthis : id = row.vehicleId
      · simp [Option.filter, hid hthis]
      · simp [Option.filter, Ne.symm hthis]
    · cases d.vehicleDocuments.get? k <;> simp [Option.filter, hk]
  · -- a reviewed document is missing afterwards
    have hkind : row.documentType.changeKind = .kycDocument := by
      cases htype : row.documentType <;> simp_all [DocumentType.changeKind]
    have hgone := congrFun heq docId
    rw [kycDocuments, hrows, kycDocuments, hrow'] at hgone
    simp [Option.filter, hkind] at hgone
  · rw [VehicleOp.rewrites]
    cases d.vehicles.get? row.vehicleId <;> rfl

/-! ### Decisions -/

/-- A decision: where it approves the vehicle, the vehicle is reviewed as it is then. -/
theorem decision_reviewed {vehicleId : ℕ} {f : Vehicle → Vehicle} {events : List Event} {w : World}
    (hd : AsReviewed d reviews) (hw : w.db = { d with vehicles := d.vehicles.modify vehicleId f })
    (hdecides : events = [.vehicleVerified vehicleId] ∨
      events = [] ∧ ∀ v, (f v).verificationStatus ≠ .approved) :
    AsReviewed w.db (observeReview events w reviews) := by
  intro id hid
  have hvehicle : w.db.vehicles.get? id =
      (d.vehicles.get? id).map fun v => if id = vehicleId then f v else v := by
    rw [hw]
    exact get?_modify_vehicles _ _ _ _
  by_cases hreviewed : .vehicleVerified id ∈ events
  · rw [observeReview, if_pos hreviewed]
  · rw [observeReview, if_neg hreviewed]
    have hother : id ≠ vehicleId := by
      rintro rfl
      rcases hdecides with rfl | ⟨rfl, hrejects⟩
      · exact hreviewed List.mem_cons_self
      · rw [vehicleApproved, hvehicle] at hid
        cases hrow : d.vehicles.get? id with
        | none => simp [hrow] at hid
        | some v => exact hrejects v (by simpa [hrow] using hid)
    have hsame : w.db.vehicles.get? id = d.vehicles.get? id := by
      rw [hvehicle]
      simp only [if_neg hother, Option.map_id']
    obtain ⟨happroved, hcontent⟩ := vehicle_unchanged (d := d) hsame (by rw [hw]; rfl) hid
    rw [hcontent]
    exact hd id happroved

end Commits

/-! ## Single steps -/

section Steps

variable {op : VehicleOp} {β : Type}

/-- A step keeps the property exactly if it meets the condition. -/
def VehicleCall (op : VehicleOp) (c : Call β) : Prop :=
  ∀ i w reviews, AsReviewed w.db reviews →
    (AsReviewed (c.exec i w).2.2.db (observeReview (c.exec i w).2.1 (c.exec i w).2.2 reviews) ↔
      EditMeets op w.db (c.exec i w).2.1)

/-- What a step may do that is no edit and no decision. -/
def vehicleFrame : Frame where
  db d := (d.vehicles, d.vehicleDocuments)
  stripe _ := ()
  events e := (∀ v, e ≠ .vehicleVerified v) ∧ ∀ v change reset, e ≠ .vehicleEdited v change reset

theorem observeReview_none {events : List Event} (h : ∀ e ∈ events, ∀ v, e ≠ .vehicleVerified v)
    (w : World) (reviews : Reviews) : observeReview events w reviews = reviews := by
  funext id
  rw [observeReview, if_neg fun hmem => h _ hmem id rfl]

theorem vehicleCall_of_leaves {c : Call β} (h : c.Leaves vehicleFrame) : VehicleCall op c := by
  intro i w reviews hw
  obtain ⟨hdb, -, hevents⟩ := h.exec i w
  obtain ⟨hvehicles, hdocuments⟩ := Prod.mk.injEq .. ▸ hdb
  rw [observeReview_none fun e he => (hevents e he).1]
  refine iff_of_true ((AsReviewed.of_tables hvehicles hdocuments).mpr hw) ?_
  intro id change hmem
  exact absurd rfl ((hevents _ hmem).2 id change false)

theorem vehicle_of_leaves {α : Type} {p : Service α} (h : p.Leaves vehicleFrame) :
    p.Issues fun {_} c => VehicleCall op c := h.mono fun _ hc => vehicleCall_of_leaves hc

/-- A transaction: what its commit does is all there is to show. -/
theorem vehicleCall_transact {body : Ctx → Tx β} {report : β → List Event}
    (h : ∀ (w : World) b d reviews, AsReviewed w.db reviews →
      (body ⟨w.now, w.db.freshId⟩).atomic w.db = .ok (b, d) →
        (AsReviewed d (observeReview (report b) { w with db := d } reviews) ↔
          EditMeets op w.db (report b))) : VehicleCall op (.transact body report) := by
  intro i w reviews hw
  have hnothing : AsReviewed w.db (observeReview [] w reviews) ↔ EditMeets op w.db [] := by
    rw [observeReview_none fun e he => absurd he List.not_mem_nil]
    exact iff_of_true hw (editMeets_nil op w.db)
  cases i with
  | refused | lost => exact hnothing
  | ok =>
    simp only [Call.exec]
    cases hb : (body ⟨w.now, w.db.freshId⟩).atomic w.db with
    | error e => exact hnothing
    | ok r => exact h w r.1 r.2 reviews hw hb

/-- The same for an edit, which approves nothing. -/
theorem vehicleCall_edit {body : Ctx → Tx β} {report : β → List Event}
    (hreport : ∀ b, ∀ e ∈ report b, ∀ v, e ≠ .vehicleVerified v)
    (h : ∀ (w : World) b d reviews, AsReviewed w.db reviews →
      (body ⟨w.now, w.db.freshId⟩).atomic w.db = .ok (b, d) →
        (AsReviewed d reviews ↔ EditMeets op w.db (report b))) :
    VehicleCall op (.transact body report) := by
  refine vehicleCall_transact fun w b d reviews hw hb => ?_
  rw [observeReview_none (hreport b)]
  exact h w b d reviews hw hb

theorem edited_not_verified (v : ℕ) (change : VehicleChangeKind) (reset : Bool) :
    ∀ e ∈ [Event.vehicleEdited v change reset], ∀ v', e ≠ .vehicleVerified v' := by
  intro e he v' heq
  obtain rfl := List.mem_singleton.mp he
  cases heq

/-! ### The calls, command by command -/

theorem vehicle_editVehicle {userId vehicleId : ℕ} {change : VehicleChangeKind}
    {f : Vehicle → Vehicle} (hchange : change ≠ .primaryPhoto)
    (hstatus : ∀ v, (f v).verificationStatus = v.verificationStatus)
    (hrewrites : ∀ (d : Db) v documents, d.vehicles.get? vehicleId = some v →
      ((f v).contentWith documents = v.contentWith documents ↔ op.rewrites d vehicleId = true)) :
    (editVehicle userId vehicleId change f).Issues fun {_} c => VehicleCall op c := by
  refine (vehicle_of_leaves (leaves_sql (leaves_findFirst _))).bind fun found => ?_
  cases found with
  | none => trivial
  | some found =>
    refine ((Program.issues_perform _).mpr ?_).bind fun _ => trivial
    refine vehicleCall_edit (fun _ => edited_not_verified _ _ _) fun w b d reviews hw hb => ?_
    obtain ⟨row, hrow, -, rfl⟩ := Service.atomic_update hb
    exact editVehicle_reviewed hw hchange hstatus (hrewrites w.db) hrow

theorem vehicle_addVehicleDocument (userId vehicleId : ℕ) (input : VehicleDocumentInput) :
    (addVehicleDocument userId vehicleId input).Issues
      fun {_} c => VehicleCall (.addVehicleDocument userId vehicleId input) c := by
  refine (vehicle_of_leaves (leaves_sql (leaves_findFirst _))).bind fun found => ?_
  cases found with
  | none => trivial
  | some found =>
    refine (vehicle_of_leaves (leaves_sql (leaves_findFirst _))).bind fun existing => ?_
    split_ifs with hretried
    · trivial
    · refine (Program.issues_perform _).mpr (vehicleCall_edit (fun _ => edited_not_verified _ _ _) ?_)
      intro w b d reviews hw hb
      exact replaceDocument_reviewed hw (fun f hf => buildReviewReset_eq hf) hb

theorem vehicle_deleteVehicleDocument (userId vehicleId : ℕ) (imageKey : String) :
    (deleteVehicleDocument userId vehicleId imageKey).Issues
      fun {_} c => VehicleCall (.deleteVehicleDocument userId vehicleId imageKey) c := by
  refine (vehicle_of_leaves (leaves_sql fun _ _ => rfl)).bind fun doc => ?_
  cases doc with
  | none => trivial
  | some doc =>
    refine (vehicle_of_leaves (leaves_sql (leaves_findFirst _))).bind fun vehicle => ?_
    refine ((Program.issues_perform _).mpr (vehicleCall_edit (fun _ => edited_not_verified _ _ _)
      fun w b d reviews hw hb => removeDocument_reviewed hw ?_ hb)).bind fun _ => trivial
    intro f hf
    obtain ⟨v, -, hv⟩ := Option.bind_eq_some_iff.mp hf
    exact buildReviewReset_eq hv

theorem vehicle_decideVehicle {vehicleId : ℕ} {f : Ctx → Vehicle → Vehicle} {events : List Event}
    (hdecides : events = [.vehicleVerified vehicleId] ∨
      events = [] ∧ ∀ ctx v, (f ctx v).verificationStatus ≠ .approved) :
    (decideVehicle vehicleId f events).Issues fun {_} c => VehicleCall op c := by
  refine (vehicle_of_leaves (leaves_sql (leaves_findUnique _))).bind fun found => ?_
  cases found with
  | none => trivial
  | some found =>
    refine ((Program.issues_perform _).mpr (vehicleCall_transact fun w b d reviews hw hb => ?_)).bind
      fun _ => vehicle_of_leaves leaves_notify
    obtain ⟨row, -, -, rfl⟩ := Service.atomic_update hb
    have hreviewed := decision_reviewed (w := { w with
      db := vehicles.set w.db ((vehicles.get w.db).modify vehicleId (f ⟨w.now, w.db.freshId⟩)) })
      hw rfl (hdecides.imp_right fun h => ⟨h.1, h.2 _⟩)
    refine iff_of_true hreviewed ?_
    intro id change hmem
    rcases hdecides with rfl | ⟨rfl, -⟩
    · cases List.mem_singleton.mp hmem
    · exact absurd hmem List.not_mem_nil

/-- Every step of the calls does to the property what the condition says. -/
theorem opsConfined_vehicle :
    Pool.OpsConfined vehicleCalls fun op {_} c => VehicleCall op c := by
  intro op
  cases op with
  | updateCreateVehicle userId vehicleId licenseCountry licenseNumber =>
    have hplate : VehicleChangeKind.licensePlate ≠ .primaryPhoto := by decide
    refine Program.Issues.emits (vehicle_editVehicle hplate ?_ ?_)
    · exact fun _ => rfl
    · intro d v documents hv
      simp only [VehicleOp.rewrites, hv, Option.any_some, Vehicle.contentWith,
        VehicleContent.mk.injEq, Bool.and_eq_true, beq_iff_eq, and_true]
      exact and_congr eq_comm eq_comm
  | updateVehicleDetail userId vehicleId details =>
    have hdetails : VehicleChangeKind.vehicleDetails ≠ .primaryPhoto := by decide
    refine Program.Issues.emits (vehicle_editVehicle hdetails ?_ ?_)
    · exact fun _ => rfl
    · intro d v documents hv
      simp only [VehicleOp.rewrites, hv, Option.any_some, Vehicle.contentWith,
        VehicleContent.mk.injEq, beq_iff_eq, and_true, true_and]
      exact eq_comm
  | addVehicleDocument userId vehicleId input =>
    exact (vehicle_addVehicleDocument userId vehicleId input).emits
  | deleteVehicleDocument userId vehicleId imageKey =>
    exact (vehicle_deleteVehicleDocument userId vehicleId imageKey).emits
  | verifyVehicle vehicleId reviewedById => exact (vehicle_decideVehicle (Or.inl rfl)).emits
  | rejectVehicle vehicleId reason reviewedById =>
    exact (vehicle_decideVehicle (Or.inr ⟨rfl, fun _ _ => by simp [Vehicle.rejected]⟩)).emits

end Steps

/-! ## Whole runs -/

/-- The pool before any call has been started. -/
def vehicleStart (w : World) (reviews : Reviews) : Pool Call Err Event (World × Reviews) VehicleOp :=
  { now := { state := (w, reviews) } }

/-- The worlds that are reached are those of the calls alone. -/
theorem vehicle_worlds (w : World) (reviews : Reviews) (moves : List (Move VehicleOp Reply World)) :
    (History.after (Pool.step vehiclePool) (vehicleStart w reviews) moves).now.state.1 =
      (History.after (Pool.step vehicleCalls) { now := { state := w } } moves).now.state :=
  congrArg (fun p => p.now.state) (Pool.erase_after (vehicleStart w reviews) moves)

/-- **An approved vehicle is the vehicle that was reviewed**, in every state of an interleaving,
exactly if no edit without a reset changes a vehicle that is approved when it is written. -/
theorem approved_vehicle_reviewed_iff (w : World) (reviews : Reviews)
    (hstart : AsReviewed w.db reviews) (moves : List (Move VehicleOp Reply World)) :
    History.Always (Pool.step vehiclePool)
        (fun p => AsReviewed p.now.state.1.db p.now.state.2) (vehicleStart w reviews) moves ↔
      History.Each (Pool.step vehiclePool) (Pool.Meets vehiclePool VehicleStep fun _ _ => True)
        (vehicleStart w reviews) moves := by
  have hconfined : Pool.Confined vehiclePool (fun op {_} c => VehicleCall op c)
      (vehicleStart w reviews) := fun t ht => absurd ht List.not_mem_nil
  refine Pool.always_iff_each_of_confined (Q := fun x => AsReviewed x.state.1.db x.state.2)
    opsConfined_vehicle.observed ?_ ?_ hconfined hstart moves
  · intro op tid β c i x b es s hcall hexec hx
    obtain ⟨rfl, rfl, rfl⟩ : (c.exec i x.state.1).1 = b ∧ (c.exec i x.state.1).2.1 = es ∧
        ((c.exec i x.state.1).2.2, observeReview (c.exec i x.state.1).2.1
          (c.exec i x.state.1).2.2 x.state.2) = s := by
      rw [← Prod.mk.injEq, ← Prod.mk.injEq]
      exact Option.some.inj hexec
    exact hcall i x.state.1 x.state.2 hx
  · -- whatever else goes on leaves the vehicles alone
    intro w' x hx
    exact iff_of_true hx trivial

/-! ## Runs -/

section Runs

/-- A vehicle that waits for its review. -/
private def queuedVehicle : World where
  db := {
    vehicles := ⟨[(1, { userId := 9, licenseCountry := "EE", licenseNumber := "123 ABC" })], by simp⟩ }

/-- The driver reads the vehicle while it waits, and the admin approves it. -/
private def approvedMeanwhile : List (Move VehicleOp Reply World) :=
  [.start (.updateCreateVehicle 9 1 "EE" "999 XYZ"), .step 0 .ok,
    .start (.verifyVehicle 1 none), .step 1 .ok, .step 1 .ok]

private theorem queuedVehicle_asReviewed (reviews : Reviews) :
    AsReviewed queuedVehicle.db reviews := by
  intro id hid
  obtain ⟨v, hv, happroved⟩ := (Option.any_eq_true _ _).mp hid
  obtain ⟨-, rfl⟩ := Prod.mk.injEq .. ▸ List.mem_singleton.mp (Table.mem_rows_iff.mpr hv)
  cases happroved

/-- An edit of a vehicle that has been approved by the time that it is read. -/
theorem edited_vehicle_requeued :
    History.Always (Pool.step vehiclePool) (fun p => AsReviewed p.now.state.1.db p.now.state.2)
      (vehicleStart queuedVehicle fun _ => none)
      [.start (.verifyVehicle 1 none), .step 0 .ok, .step 0 .ok,
        .start (.updateCreateVehicle 9 1 "EE" "999 XYZ"), .step 1 .ok, .step 1 .ok] := by
  refine (approved_vehicle_reviewed_iff _ _ (queuedVehicle_asReviewed _) _).mpr
    ⟨trivial, ?_, ?_, trivial, ?_, ?_, trivial⟩
  · rintro op rest ⟨⟩ b es s ⟨⟩
    exact editMeets_nil _ _
  · rintro op rest ⟨⟩ b es s ⟨⟩ id change hmem
    cases List.mem_singleton.mp hmem
  · rintro op rest ⟨⟩ b es s ⟨⟩
    exact editMeets_nil _ _
  · rintro op rest ⟨⟩ b es s ⟨⟩ id change hmem
    cases List.mem_singleton.mp hmem

/-- The plate that is approved is not the one that was reviewed. -/
theorem approved_plate_not_reviewed :
    ¬ History.Always (Pool.step vehiclePool)
      (fun p => AsReviewed p.now.state.1.db p.now.state.2)
      (vehicleStart queuedVehicle fun _ => none) (approvedMeanwhile ++ [.step 0 .ok]) := by
  intro h
  have hplate := congrArg (Option.map VehicleContent.licenseNumber) (h.last 1 rfl)
  exact absurd hplate (by decide)

end Runs

end Deliivo

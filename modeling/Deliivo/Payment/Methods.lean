import Deliivo.Domain.World

/-!
# Payment methods

The cards that a user has saved, one of which is the default one. The first card that is saved is it; a
call makes another one the default, and removing the default one hands it on to the newest of the
others.

## Main definitions

* `savePaymentMethod`, `setDefaultPaymentMethod`, `removePaymentMethod`: the calls
* `replacementFor`: the card that the default is handed on to
-/

namespace Deliivo

/-- `stripe.paymentMethods.retrieve`, which answers with the method that it is asked for. -/
def retrievePaymentMethod (stripePaymentMethodId : ℕ) : Service ℕ :=
  Program.perform <| .stripe (fun s => .ok (stripePaymentMethodId, s)) fun _ => []

/-- `stripe.paymentMethods.detach`. -/
def detachPaymentMethod : Service Unit := Program.perform <| .stripe (fun s => .ok ((), s)) fun _ => []

/-- The row of a method of Stripe, unless there is one. -/
def createPaymentMethod (id : ℕ) (row : PaymentMethod) : Tx Unit := do
  let existing ← Program.command <| findFirst paymentMethods fun _ r =>
    r.stripePaymentMethodId == row.stripePaymentMethodId
  if existing.isSome then throw .uniqueViolation
  Program.command <| create paymentMethods id row

def savePaymentMethod (userId stripePaymentMethodId stripeCustomerId : ℕ) : Service Unit := do
  let pm ← retrievePaymentMethod stripePaymentMethodId
  let active ← sql <| findMany paymentMethods fun _ row => row.userId == userId && row.status == .active
  let isFirst := active.length == 0
  Program.perform <| .transact
    (fun ctx => createPaymentMethod ctx.uuid {
      userId
      stripeCustomerId
      stripePaymentMethodId := pm
      isDefault := isFirst
      createdAt := ctx.now })
    fun _ => [.methodSaved userId isFirst]

/-- A card of the user that has not been removed. -/
def findActiveMethod (userId paymentMethodId : ℕ) : Stmt (Option (ℕ × PaymentMethod)) :=
  findFirst paymentMethods fun id row =>
    id == paymentMethodId && row.userId == userId && row.status == .active

def setDefaultPaymentMethod (userId paymentMethodId : ℕ) : Service PaymentMethod := do
  let paymentMethod ← sql <| findActiveMethod userId paymentMethodId
  if paymentMethod.isNone then throw (.text "PAYMENT_METHOD_NOT_FOUND")
  let _ ← Program.perform <| .transact
    (fun _ => Program.command <| updateMany paymentMethods
      (fun _ row => row.userId == userId && row.isDefault) fun row => { row with isDefault := false })
    fun _ => [.defaultCleared userId paymentMethodId]
  Program.perform <| .transact
    (fun _ => Program.perform <| update paymentMethods paymentMethodId fun row =>
      { row with isDefault := true })
    fun _ => [.defaultSet userId paymentMethodId]

/-- The newest of the other cards. -/
def replacementFor (userId paymentMethodId : ℕ) : Stmt (Option (ℕ × PaymentMethod)) where
  answer d := (d.paymentMethods.filter fun id row =>
    row.userId == userId && row.status == .active && id != paymentMethodId).argmax fun r => r.2.createdAt

/-- The transaction of `removePaymentMethod`; `wasDefault` is what the call has read. -/
def removeMethod (userId paymentMethodId : ℕ) (wasDefault : Bool) : Tx PaymentMethod := do
  let removed ← Program.perform <| update paymentMethods paymentMethodId fun row =>
    { row with status := .removed, isDefault := false }
  if wasDefault then
    let replacement ← Program.command <| replacementFor userId paymentMethodId
    match replacement with
    | none => pure ()
    | some (id, _) =>
      let _ ← Program.perform <| update paymentMethods id fun row => { row with isDefault := true }
  return removed

/-- `removePaymentMethod`; in mock mode no method is detached at Stripe. -/
def removePaymentMethod (mockMode : Bool) (userId paymentMethodId : ℕ) : Service PaymentMethod := do
  let pm ← sql <| findActiveMethod userId paymentMethodId
  match pm with
  | none => throw (.text "PAYMENT_METHOD_NOT_FOUND")
  | some (_, row) =>
    if !mockMode then detachPaymentMethod
    Program.perform <| .transact (fun _ => removeMethod userId paymentMethodId row.isDefault)
      fun _ => [.methodRemoved userId paymentMethodId row.isDefault]

/-- The calls about the cards of users. -/
inductive MethodOp
  | save (userId stripePaymentMethodId stripeCustomerId : ℕ)
  | setDefault (userId paymentMethodId : ℕ)
  | remove (mockMode : Bool) (userId paymentMethodId : ℕ)

def MethodOp.program : MethodOp → Service Unit
  | .save userId stripePaymentMethodId stripeCustomerId =>
    savePaymentMethod userId stripePaymentMethodId stripeCustomerId
  | .setDefault userId paymentMethodId => do
    let _ ← setDefaultPaymentMethod userId paymentMethodId
  | .remove mockMode userId paymentMethodId => do
    let _ ← removePaymentMethod mockMode userId paymentMethodId

end Deliivo

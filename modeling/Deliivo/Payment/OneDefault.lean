import Deliivo.Domain.Pool
import Deliivo.Domain.Preserves
import Deliivo.Payment.Methods

/-!
# One default card

A user who has a card has one default card, and a card that has been removed is not it. A save decides
from a count whether its card is the first one, a removal from what it has read whether its card is the
default one, and making a card the default takes two writes. Where what they have read is still right
when they write, and nothing comes in the way of the second write, every user who has a card has one
default card whenever no call is in progress.

## Main definitions

* `DefaultRight`: the cards of a user are as they should be
* `MethodStep`: the condition on the steps
* `MethodInv`: what holds at all times

## Main results

* `one_default_card`: if every step meets the condition, the cards of every user are as they should be
  whenever no call is in progress
-/

open Program (Concurrent Logged Move Pool Protocol)

namespace Deliivo

/-- Anything else that goes on: all of the world but the payment methods. -/
def besidesMethods (w' w : World) : World :=
  { w' with db := { w'.db with paymentMethods := w.db.paymentMethods } }

/-- Calls about the cards of users next to each other. -/
def methodPool : Concurrent Call Err Reply Event World World MethodOp :=
  servicePool MethodOp.program besidesMethods

/-! ## What is said of cards -/

/-- The user has this card. -/
def ActiveMethod (d : Db) (userId id : ℕ) : Prop :=
  ∃ row, d.paymentMethods.get? id = some row ∧ row.userId = userId ∧ row.status = .active

/-- It is the default one. -/
def DefaultMethod (d : Db) (userId id : ℕ) : Prop :=
  ∃ row, d.paymentMethods.get? id = some row ∧ row.userId = userId ∧ row.isDefault = true

/-- The cards of a user are as they should be. -/
structure DefaultRight (userId : ℕ) (d : Db) : Prop where
  /-- What has been removed is not the default. -/
  active : ∀ id, DefaultMethod d userId id → ActiveMethod d userId id
  /-- A user who has a card has one default card. -/
  one : (∃ id, ActiveMethod d userId id) → ∃! id, ActiveMethod d userId id ∧ DefaultMethod d userId id

/-- What a save of the user's card has counted is still so: there is no default card if it has counted
none, and there is a card if it has counted one. -/
def CountRight (userId : ℕ) (isFirst : Bool) (d : Db) : Prop :=
  if isFirst then ∀ id, ¬ DefaultMethod d userId id else ∃ id, ActiveMethod d userId id

/-- What a removal has read of its card is still so, as far as it matters: the card that it hands the
default on to is the only other default one, and a card whose default it does not hand on is not the
default one, unless it is the last one. -/
def RemovalRight (userId method : ℕ) (wasDefault : Bool) (d : Db) : Prop :=
  if wasDefault then ∀ id, DefaultMethod d userId id → id = method ∨
    ((replacementFor userId method).answer d).map Prod.fst = some id
  else DefaultMethod d userId method → ∀ id, ActiveMethod d userId id → id = method

/-- What a step of a call has to meet. -/
structure MethodStep (_ : MethodOp) (tid : ℕ) (x : LoggedWorld) (reply : Reply) (es : List Event) :
    Prop where
  saved : ∀ u isFirst, .methodSaved u isFirst ∈ es → CountRight u isFirst x.state.db
  /-- A call that has cleared the default gets its next statement answered. -/
  completed : ∀ u m, x.own tid = [.defaultCleared u m] → reply = .ok
  /-- A card that is made the default one is there, and no other one is the default. -/
  set : ∀ u m, .defaultSet u m ∈ es → ActiveMethod x.state.db u m ∧
    ∀ id, DefaultMethod x.state.db u id → id = m
  removed : ∀ u m wasDefault, .methodRemoved u m wasDefault ∈ es →
    RemovalRight u m wasDefault x.state.db

/-! ## The invariant -/

/-- The thread has cleared the default of the user and has not set it yet. -/
def Owes (x : LoggedWorld) (tid userId : ℕ) : Prop := ∃ m, x.own tid = [.defaultCleared userId m]

/-- **At all times** a user has one default card at most, it has not been removed, and where there is
none a call is about to set it. -/
structure MethodInv (x : LoggedWorld) : Prop where
  active : ∀ u id, DefaultMethod x.state.db u id → ActiveMethod x.state.db u id
  unique : ∀ u id id', DefaultMethod x.state.db u id → DefaultMethod x.state.db u id' → id = id'
  owed : ∀ u id, ActiveMethod x.state.db u id →
    (∃ id', DefaultMethod x.state.db u id') ∨ ∃ tid, Owes x tid u

/-- Where nobody owes a default, the cards are as they should be. -/
theorem MethodInv.right {x : LoggedWorld} (h : MethodInv x) (u : ℕ) (howed : ∀ tid, ¬ Owes x tid u) :
    DefaultRight u x.state.db where
  active := h.active u
  one := by
    rintro ⟨id, hid⟩
    rcases h.owed u id hid with ⟨id', hdefault⟩ | ⟨tid, htid⟩
    · refine ⟨id', ⟨h.active u id' hdefault, hdefault⟩, ?_⟩
      rintro other ⟨-, hother⟩
      exact h.unique u other id' hother hdefault
    · exact absurd htid (howed tid)

section Steps

variable {x : LoggedWorld} {s : World} {tid userId method : ℕ} {es : List Event}

/-- Other threads still owe what they owed. -/
theorem Owes.next {t u : ℕ} (h : Owes x t u) (htid : ¬ Owes x tid u) : Owes (x.next tid es s) t u := by
  obtain ⟨m, hm⟩ := h
  refine ⟨m, (Logged.own_next_ne ?_).trans hm⟩
  rintro rfl
  exact htid ⟨m, hm⟩

/-- Steps that report nothing and leave the cards keep the invariant. -/
theorem MethodInv.same {y : LoggedWorld} (h : MethodInv x) (hown : ∀ t, y.own t = x.own t)
    (hsame : y.state.db.paymentMethods = x.state.db.paymentMethods) : MethodInv y := by
  have hactive : ∀ u id, ActiveMethod y.state.db u id ↔ ActiveMethod x.state.db u id := by
    intro u id
    rw [ActiveMethod, ActiveMethod, hsame]
  have hdefault : ∀ u id, DefaultMethod y.state.db u id ↔ DefaultMethod x.state.db u id := by
    intro u id
    rw [DefaultMethod, DefaultMethod, hsame]
  constructor
  · exact fun u id hid => (hactive u id).mpr (h.active u id ((hdefault u id).mp hid))
  · exact fun u id id' hid hid' => h.unique u id id' ((hdefault u id).mp hid) ((hdefault u id').mp hid')
  · intro u id hid
    rcases h.owed u id ((hactive u id).mp hid) with ⟨id', hid'⟩ | ⟨t, m, ht⟩
    · exact Or.inl ⟨id', (hdefault u id').mpr hid'⟩
    · exact Or.inr ⟨t, m, (hown t).trans ht⟩

/-! ### What a write of the cards does -/

/-- The cards are there still, with their users. -/
def MethodsStay (d d' : Db) : Prop :=
  ∀ id row, d.paymentMethods.get? id = some row →
    ∃ row', d'.paymentMethods.get? id = some row' ∧ row'.userId = row.userId

theorem MethodsStay.refl (d : Db) : MethodsStay d d := fun _ row hrow => ⟨row, hrow, rfl⟩

section Writes

variable {d d' : Db} {g : ℕ → PaymentMethod → PaymentMethod}

theorem activeMethod_map (hrows : ∀ id, d'.paymentMethods.get? id = (d.paymentMethods.get? id).map (g id))
    (huser : ∀ id row, (g id row).userId = row.userId) {u id : ℕ} :
    ActiveMethod d' u id ↔ ∃ row, d.paymentMethods.get? id = some row ∧ row.userId = u ∧
      (g id row).status = .active := by
  rw [ActiveMethod, hrows]
  constructor
  · rintro ⟨row', hrow', hu, hactive⟩
    obtain ⟨row, hrow, rfl⟩ := Option.map_eq_some_iff.mp hrow'
    exact ⟨row, hrow, (huser id row).symm.trans hu, hactive⟩
  · rintro ⟨row, hrow, hu, hactive⟩
    exact ⟨g id row, by rw [hrow, Option.map_some], (huser id row).trans hu, hactive⟩

theorem defaultMethod_map
    (hrows : ∀ id, d'.paymentMethods.get? id = (d.paymentMethods.get? id).map (g id))
    (huser : ∀ id row, (g id row).userId = row.userId) {u id : ℕ} :
    DefaultMethod d' u id ↔ ∃ row, d.paymentMethods.get? id = some row ∧ row.userId = u ∧
      (g id row).isDefault = true := by
  rw [DefaultMethod, hrows]
  constructor
  · rintro ⟨row', hrow', hu, hdefault⟩
    obtain ⟨row, hrow, rfl⟩ := Option.map_eq_some_iff.mp hrow'
    exact ⟨row, hrow, (huser id row).symm.trans hu, hdefault⟩
  · rintro ⟨row, hrow, hu, hdefault⟩
    exact ⟨g id row, by rw [hrow, Option.map_some], (huser id row).trans hu, hdefault⟩

/-- Cards whose users are left alone stay. -/
theorem MethodsStay.of_map
    (hrows : ∀ id, d'.paymentMethods.get? id = (d.paymentMethods.get? id).map (g id))
    (huser : ∀ id row, (g id row).userId = row.userId) : MethodsStay d d' := by
  intro id row hrow
  exact ⟨g id row, by rw [hrows, hrow, Option.map_some], huser id row⟩

section Insert

variable {new : ℕ} {row : PaymentMethod} (hfresh : d.paymentMethods.get? new = none)
  (hrows : ∀ id, d'.paymentMethods.get? id = if id = new then some row else d.paymentMethods.get? id)

include hfresh hrows

theorem MethodsStay.of_insert : MethodsStay d d' := by
  intro id row' hrow'
  refine ⟨row', (hrows id).trans ?_, rfl⟩
  rw [if_neg, hrow']
  rintro rfl
  cases hfresh.symm.trans hrow'

theorem activeMethod_insert (hactive : row.status = .active) {u id : ℕ} :
    ActiveMethod d' u id ↔ ActiveMethod d u id ∨ u = row.userId ∧ id = new := by
  rw [ActiveMethod, hrows]
  split_ifs with hid
  · constructor
    · rintro ⟨row', hrow', rfl, -⟩
      obtain rfl := Option.some.inj hrow'
      exact Or.inr ⟨rfl, hid⟩
    · rintro (⟨row', hrow', -⟩ | ⟨rfl, -⟩)
      · rw [hid, hfresh] at hrow'
        cases hrow'
      · exact ⟨row, rfl, rfl, hactive⟩
  · exact (or_iff_left fun hnew => hid hnew.2).symm

theorem defaultMethod_insert {u id : ℕ} :
    DefaultMethod d' u id ↔
      DefaultMethod d u id ∨ (u = row.userId ∧ id = new) ∧ row.isDefault = true := by
  rw [DefaultMethod, hrows]
  split_ifs with hid
  · constructor
    · rintro ⟨row', hrow', rfl, hdefault⟩
      obtain rfl := Option.some.inj hrow'
      exact Or.inr ⟨⟨rfl, hid⟩, hdefault⟩
    · rintro (⟨row', hrow', -⟩ | ⟨⟨rfl, -⟩, hdefault⟩)
      · rw [hid, hfresh] at hrow'
        cases hrow'
      · exact ⟨row, rfl, rfl, hdefault⟩
  · exact (or_iff_left fun hnew => hid hnew.1.2).symm

end Insert

end Writes

/-- **A card is saved**, as the default one where there is none. -/
theorem MethodInv.saved {isFirst : Bool} (h : MethodInv x) (htid : ∀ u, ¬ Owes x tid u)
    (hcount : CountRight userId isFirst x.state.db)
    (hactive : ∀ u id, ActiveMethod s.db u id ↔ ActiveMethod x.state.db u id ∨ u = userId ∧ id = method)
    (hdefault : ∀ u id, DefaultMethod s.db u id ↔
      DefaultMethod x.state.db u id ∨ (u = userId ∧ id = method) ∧ isFirst = true) :
    MethodInv (x.next tid es s) := by
  constructor
  · intro u id hid
    refine (hactive u id).mpr ?_
    -- a default card is an active one
    rcases (hdefault u id).mp hid with hold | ⟨hnew, -⟩
    · exact Or.inl (h.active u id hold)
    · exact Or.inr hnew
  · intro u id id' hid hid'
    -- a card saved as default found no other default
    rcases (hdefault u id).mp hid with hold | ⟨⟨rfl, rfl⟩, hfirst⟩
    · rcases (hdefault u id').mp hid' with hold' | ⟨⟨rfl, rfl⟩, hfirst⟩
      · exact h.unique u id id' hold hold'
      · rw [CountRight, if_pos hfirst] at hcount
        exact absurd hold (hcount id)
    · rcases (hdefault u id').mp hid' with hold' | ⟨⟨-, rfl⟩, -⟩
      · rw [CountRight, if_pos hfirst] at hcount
        exact absurd hold' (hcount id')
      · rfl
  · intro u id hid
    -- whoever has a card has a default or is owed one, the debts of other calls standing
    have hbefore : ∀ id, ActiveMethod x.state.db u id →
        (∃ id', DefaultMethod s.db u id') ∨ ∃ t, Owes (x.next tid es s) t u := by
      intro id hold
      rcases h.owed u id hold with ⟨id', hid'⟩ | ⟨t, ht⟩
      · exact Or.inl ⟨id', (hdefault u id').mpr (Or.inl hid')⟩
      · exact Or.inr ⟨t, ht.next (htid u)⟩
    rcases (hactive u id).mp hid with hold | ⟨rfl, rfl⟩
    · exact hbefore id hold
    · cases isFirst with
      | true => exact Or.inl ⟨id, (hdefault u id).mpr (Or.inr ⟨⟨rfl, rfl⟩, rfl⟩)⟩
      | false =>
        rw [CountRight, if_neg Bool.false_ne_true] at hcount
        obtain ⟨id', hid'⟩ := hcount
        exact hbefore id' hid'

/-- **The default of a user is cleared**, by a thread that owes it from then on. -/
theorem MethodInv.cleared (h : MethodInv x) (hfresh : x.own tid = [])
    (hactive : ∀ u id, ActiveMethod s.db u id ↔ ActiveMethod x.state.db u id)
    (hdefault : ∀ u id, DefaultMethod s.db u id ↔ DefaultMethod x.state.db u id ∧ u ≠ userId) :
    MethodInv (x.next tid [.defaultCleared userId method] s) := by
  have htid : ∀ u, ¬ Owes x tid u := by
    rintro u ⟨m, hm⟩
    cases hfresh.symm.trans hm
  constructor
  · exact fun u id hid => (hactive u id).mpr (h.active u id ((hdefault u id).mp hid).1)
  · exact fun u id id' hid hid' =>
      h.unique u id id' ((hdefault u id).mp hid).1 ((hdefault u id').mp hid').1
  · intro u id hid
    by_cases hu : u = userId
    · refine Or.inr ⟨tid, method, ?_⟩
      rw [Logged.own_next_self, hfresh, hu]
      rfl
    · rcases h.owed u id ((hactive u id).mp hid) with ⟨id', hid'⟩ | ⟨t, ht⟩
      · exact Or.inl ⟨id', (hdefault u id').mpr ⟨hid', hu⟩⟩
      · exact Or.inr ⟨t, ht.next (htid u)⟩

/-- **A card is made the default one**, where no other one is. -/
theorem MethodInv.set (h : MethodInv x) (htid : ∀ u, Owes x tid u → u = userId)
    (hthere : ActiveMethod x.state.db userId method)
    (hnone : ∀ id, DefaultMethod x.state.db userId id → id = method)
    (hactive : ∀ u id, ActiveMethod s.db u id ↔ ActiveMethod x.state.db u id)
    (hdefault : ∀ u id, DefaultMethod s.db u id ↔
      DefaultMethod x.state.db u id ∨ u = userId ∧ id = method) :
    MethodInv (x.next tid es s) := by
  constructor
  · intro u id hid
    refine (hactive u id).mpr ?_
    rcases (hdefault u id).mp hid with hold | ⟨rfl, rfl⟩
    · exact h.active u id hold
    · exact hthere
  · intro u id id' hid hid'
    rcases (hdefault u id).mp hid with hold | ⟨rfl, rfl⟩
    · rcases (hdefault u id').mp hid' with hold' | ⟨rfl, rfl⟩
      · exact h.unique u id id' hold hold'
      · exact hnone id hold
    · rcases (hdefault u id').mp hid' with hold' | ⟨-, rfl⟩
      · exact (hnone id' hold').symm
      · rfl
  · intro u id hid
    by_cases hu : u = userId
    · exact Or.inl ⟨method, (hdefault u method).mpr (Or.inr ⟨hu, rfl⟩)⟩
    · rcases h.owed u id ((hactive u id).mp hid) with ⟨id', hid'⟩ | ⟨t, ht⟩
      · exact Or.inl ⟨id', (hdefault u id').mpr (Or.inl hid')⟩
      · exact Or.inr ⟨t, ht.next fun howes => hu (htid u howes)⟩

/-- The replacement is another card of the user. -/
theorem replacementFor_some {d : Db} {id : ℕ}
    (h : ((replacementFor userId method).answer d).map Prod.fst = some id) :
    ActiveMethod d userId id ∧ id ≠ method := by
  obtain ⟨⟨id', row⟩, hr, rfl⟩ := Option.map_eq_some_iff.mp h
  obtain ⟨hrow, hP⟩ := Table.mem_filter_iff.mp (List.argmax_mem hr)
  simp only [Bool.and_eq_true, beq_iff_eq, bne_iff_ne] at hP
  exact ⟨⟨row, hrow, hP.1.1, hP.1.2⟩, hP.2⟩

/-- There is one if the user has another card. -/
theorem replacementFor_isSome {d : Db} {id : ℕ} (h : ActiveMethod d userId id) (hne : id ≠ method) :
    ∃ id', ((replacementFor userId method).answer d).map Prod.fst = some id' := by
  obtain ⟨row, hrow, huser, hactive⟩ := h
  have hmem : (id, row) ∈ d.paymentMethods.filter fun id row =>
      row.userId == userId && row.status == .active && id != method := by
    refine Table.mem_filter_iff.mpr ⟨hrow, ?_⟩
    simp [huser, hactive, hne]
  cases hanswer : (replacementFor userId method).answer d with
  | none =>
    rw [List.argmax_eq_none.mp hanswer] at hmem
    cases hmem
  | some r => exact ⟨r.1, rfl⟩

/-- **A card is removed**, and the default handed on where it was. -/
theorem MethodInv.removed {wasDefault : Bool} (h : MethodInv x) (htid : ∀ u, ¬ Owes x tid u)
    (hright : RemovalRight userId method wasDefault x.state.db)
    (howner : ∀ u, DefaultMethod x.state.db u method → u = userId)
    (hactive : ∀ u id, ActiveMethod s.db u id ↔ ActiveMethod x.state.db u id ∧ id ≠ method)
    (hdefault : ∀ u id, DefaultMethod s.db u id ↔ DefaultMethod x.state.db u id ∧ id ≠ method ∨
      u = userId ∧ wasDefault = true ∧
        ((replacementFor userId method).answer x.state.db).map Prod.fst = some id) :
    MethodInv (x.next tid es s) := by
  constructor
  · intro u id hid
    refine (hactive u id).mpr ?_
    rcases (hdefault u id).mp hid with ⟨hold, hne⟩ | ⟨rfl, -, hreplacement⟩
    · exact ⟨h.active u id hold, hne⟩
    · exact replacementFor_some hreplacement
  · -- the other default card, if there is one, is the replacement
    have hreplaced : ∀ u id, DefaultMethod s.db u id → u = userId → wasDefault = true →
        ((replacementFor userId method).answer x.state.db).map Prod.fst = some id := by
      rintro u id hid rfl hwas
      rcases (hdefault u id).mp hid with ⟨hold, hne⟩ | ⟨-, -, hreplacement⟩
      · rw [RemovalRight, if_pos hwas] at hright
        exact (hright id hold).resolve_left hne
      · exact hreplacement
    intro u id id' hid hid'
    rcases (hdefault u id).mp hid with ⟨hold, -⟩ | ⟨hu, hwas, hreplacement⟩
    · rcases (hdefault u id').mp hid' with ⟨hold', -⟩ | ⟨hu, hwas, hreplacement⟩
      · exact h.unique u id id' hold hold'
      · exact Option.some.inj ((hreplaced u id hid hu hwas).symm.trans hreplacement)
    · exact Option.some.inj (hreplacement.symm.trans (hreplaced u id' hid' hu hwas))
  · intro u id hid
    obtain ⟨hold, hne⟩ := (hactive u id).mp hid
    rcases h.owed u id hold with ⟨id', hid'⟩ | ⟨t, ht⟩
    · left
      by_cases hmethod : id' = method
      · -- the default card is removed, and another one is left
        obtain rfl := hmethod
        obtain rfl := howner u hid'
        cases wasDefault with
        | true =>
          obtain ⟨r, hr⟩ := replacementFor_isSome hold hne
          exact ⟨r, (hdefault u r).mpr (Or.inr ⟨rfl, rfl, hr⟩)⟩
        | false =>
          rw [RemovalRight, if_neg Bool.false_ne_true] at hright
          exact absurd (hright hid' id hold) hne
      · exact ⟨id', (hdefault u id').mpr (Or.inl ⟨hid', hmethod⟩)⟩
    · exact Or.inr ⟨t, ht.next (htid u)⟩

end Steps

/-! ## The protocol -/

/-- The protocol of the calls: what a thread has reported, only it adds to, and cards stay. -/
def methodProtocol : Protocol methodPool MethodStep fun _ _ => True where
  Inv := MethodInv
  Rely tid x y := y.own tid = x.own tid ∧ MethodsStay x.state.db y.state.db
  Guar tid x y := (∀ t, t ≠ tid → y.own t = x.own t) ∧ MethodsStay x.state.db y.state.db
  Post _ tid x := ∀ u, ¬ Owes x tid u
  rely_refl _ x := ⟨rfl, .refl _⟩
  rely_trans h h' := by
    refine ⟨h'.1.trans h.1, fun id row hrow => ?_⟩
    obtain ⟨row', hrow', huser⟩ := h.2 id row hrow
    obtain ⟨row'', hrow'', huser'⟩ := h'.2 id row' hrow'
    exact ⟨row'', hrow'', huser'.trans huser⟩
  guar_rely hne _ h := ⟨h.1 _ hne, h.2⟩
  env_inv h _ := h.same (fun _ => rfl) rfl
  env_rely _ _ _ := ⟨rfl, .refl _⟩
  post_stable h hr _ := by
    rintro u ⟨m, hm⟩
    exact h u ⟨m, hr.1.symm.trans hm⟩

/-- The thread has reported these events, and the card is a card of the user. -/
structure OwnCard (tid : ℕ) (events : List Event) (userId method : ℕ) (x : LoggedWorld) : Prop where
  own : x.own tid = events
  there : ∃ row, x.state.db.paymentMethods.get? method = some row ∧ row.userId = userId

section Safe

variable {op : MethodOp} {tid userId method : ℕ} {β : Type} {events : List Event} {y : LoggedWorld}

theorem stable_ownCard :
    methodProtocol.Stable tid (OwnCard tid events userId method) := by
  rintro x y ⟨hown, row, hrow, huser⟩ h _
  obtain ⟨row', hrow', huser'⟩ := h.2 method row hrow
  exact ⟨h.1.trans hown, row', hrow', huser'.trans huser⟩

/-- A thread that has reported nothing yet. -/
def SilentMethod (tid : ℕ) (x : LoggedWorld) : Prop := x.own tid = []

theorem stable_silentMethod : methodProtocol.Stable tid (SilentMethod tid) :=
  fun _ _ hx h _ => h.1.trans hx

/-- The cards. -/
def methodFrame : Frame where
  db := Db.paymentMethods
  stripe _ := ()
  events _ := False

/-- A step that leaves the cards alone and reports nothing. -/
theorem keeps_besideMethods {c : Call β} (hc : c.Leaves methodFrame) {A : LoggedWorld → Prop}
    (hA : methodProtocol.Stable tid A) (hy : A y) (hinv : MethodInv y) :
    methodProtocol.Keeps op tid c y fun _ => A := by
  refine keeps_leaves hc fun i b es s hdb _ hes _ => ?_
  obtain rfl : es = [] := List.eq_nil_iff_forall_not_mem.mpr hes
  have hown : ∀ t, (y.next tid [] s).own t = y.own t := by
    intro t
    rw [Logged.own, Logged.next, List.map_nil, List.append_nil, Logged.own]
  have hstay : MethodsStay y.state.db s.db := by
    intro id row hrow
    exact ⟨row, (congrArg (Table.get? · id) hdb).trans hrow, rfl⟩
  have hinv' : MethodInv (y.next tid [] s) := hinv.same hown hdb
  exact ⟨⟨fun t _ => hown t, hstay⟩, hinv', hA _ _ hy ⟨hown tid, hstay⟩ hinv'⟩

/-- The row of a card that is saved. -/
theorem keeps_createMethod {pm customer : ℕ} {isFirst : Bool} (hy : SilentMethod tid y)
    (hinv : MethodInv y) :
    methodProtocol.Keeps op tid
      (.transact (fun ctx => createPaymentMethod ctx.uuid {
        userId
        stripeCustomerId := customer
        stripePaymentMethodId := pm
        isDefault := isFirst
        createdAt := ctx.now })
        fun _ => [.methodSaved userId isFirst]) y fun _ z => ∀ u, ¬ Owes z tid u := by
  -- the call owes nobody a card: it has cleared none
  have hfree : ∀ u, ¬ Owes y tid u := by
    rintro u ⟨m, hm⟩
    cases hy.symm.trans hm
  refine keeps_transact (fun u d hbody hcond => ?_)
    fun _ _ _ _ => ⟨⟨fun _ _ => rfl, .refl _⟩, hinv, hfree⟩
  obtain ⟨existing, d₁, hfind, hcreate⟩ := Tx.atomic_bind.mp hbody
  obtain ⟨rfl, rfl⟩ := Prod.mk.injEq .. ▸ Except.ok.inj hfind
  split_ifs at hcreate with hexisting
  · cases hcreate
  obtain ⟨-, rfl⟩ := Prod.mk.injEq .. ▸ Except.ok.inj hcreate
  have hfresh : y.state.db.paymentMethods.get? y.state.db.freshId = none :=
    Table.get?_of_nextKey_le (Db.le_freshId (by simp [Db.idBounds]))
  set row : PaymentMethod := {
    userId
    stripeCustomerId := customer
    stripePaymentMethodId := pm
    isDefault := isFirst
    createdAt := y.state.now } with hrow
  set d' : Db := { y.state.db with
    paymentMethods := y.state.db.paymentMethods.insert y.state.db.freshId row } with hd'
  -- one row more, under an id that was free
  have htable : ∀ id, d'.paymentMethods.get? id =
      if id = y.state.db.freshId then some row else y.state.db.paymentMethods.get? id :=
    Table.get?_insert hfresh row
  refine ⟨⟨fun t ht => Logged.own_next_ne ht, .of_insert hfresh htable⟩, ?_, ?_⟩
  · have hactive : ∀ u id, ActiveMethod d' u id ↔
        ActiveMethod y.state.db u id ∨ u = userId ∧ id = y.state.db.freshId :=
      fun _ _ => activeMethod_insert hfresh htable rfl
    have hdefault : ∀ u id, DefaultMethod d' u id ↔
        DefaultMethod y.state.db u id ∨ (u = userId ∧ id = y.state.db.freshId) ∧ isFirst = true :=
      fun _ _ => defaultMethod_insert hfresh htable
    exact hinv.saved hfree (hcond.saved userId isFirst (List.mem_singleton_self _)) hactive hdefault
  · rintro u ⟨m, hm⟩
    rw [Logged.own_next_self, hy] at hm
    cases hm

/-- The first write of `setDefaultPaymentMethod`. -/
theorem keeps_clearDefault (hy : OwnCard tid [] userId method y) (hinv : MethodInv y) :
    methodProtocol.Keeps op tid
      (.transact (fun _ => Program.command <| updateMany paymentMethods
        (fun _ row => row.userId == userId && row.isDefault) fun row => { row with isDefault := false })
        fun _ => [.defaultCleared userId method]) y
      fun r z => match r with
        | .ok _ => OwnCard tid [.defaultCleared userId method] userId method z
        | .error _ => ∀ u, ¬ Owes z tid u := by
  have hfree : ∀ u, ¬ Owes y tid u := by
    rintro u ⟨m, hm⟩
    cases hy.own.symm.trans hm
  refine keeps_transact (fun updated d hbody _ => ?_)
    fun _ _ _ _ => ⟨⟨fun _ _ => rfl, .refl _⟩, hinv, hfree⟩
  obtain ⟨-, rfl⟩ := Prod.mk.injEq .. ▸ Except.ok.inj hbody
  -- the update, row by row
  set g : ℕ → PaymentMethod → PaymentMethod := fun _ row =>
    if row.userId = userId ∧ row.isDefault = true then { row with isDefault := false } else row with hg
  set d' : Db := { y.state.db with
    paymentMethods := y.state.db.paymentMethods.modifyWhere
      (fun id _ => y.state.db.paymentMethods.holds (fun _ row => row.userId == userId && row.isDefault) id)
      fun row => { row with isDefault := false } } with hd'
  have hrows : ∀ id, d'.paymentMethods.get? id = (y.state.db.paymentMethods.get? id).map (g id) := by
    intro id
    rw [hd', Table.get?_modifyWhere]
    cases hrow : y.state.db.paymentMethods.get? id with
    | none => rfl
    | some row => simp [Table.holds, hrow, hg]
  have huser : ∀ id row, (g id row).userId = row.userId := by
    intro id row
    simp only [hg]
    split_ifs <;> rfl
  have hstay := MethodsStay.of_map hrows huser
  refine ⟨⟨fun t ht => Logged.own_next_ne ht, hstay⟩, hinv.cleared hy.own ?_ ?_, ?_, ?_⟩
  · intro u id
    refine (activeMethod_map hrows huser).trans ?_
    refine exists_congr fun row => and_congr_right fun _ => and_congr_right fun _ => ?_
    simp only [hg]
    split_ifs <;> rfl
  · intro u id
    -- a card is the default still if it is of another user
    refine (defaultMethod_map hrows huser).trans ?_
    constructor
    · rintro ⟨row, hrow, hu, hdefault⟩
      simp only [hg] at hdefault
      split_ifs at hdefault with hcleared
      refine ⟨⟨row, hrow, hu, hdefault⟩, ?_⟩
      rintro rfl
      exact hcleared ⟨hu, hdefault⟩
    · rintro ⟨⟨row, hrow, hu, hdefault⟩, hne⟩
      refine ⟨row, hrow, hu, ?_⟩
      simp only [hg]
      rw [if_neg fun hcleared => hne (hu.symm.trans hcleared.1)]
      exact hdefault
  · rw [Logged.own_next_self, hy.own]
    rfl
  · obtain ⟨row, hrow, hu⟩ := hy.there
    obtain ⟨row', hrow', hu'⟩ := hstay method row hrow
    exact ⟨row', hrow', hu'.trans hu⟩

/-- The second write of `setDefaultPaymentMethod`. -/
theorem keeps_setDefault (hy : OwnCard tid [.defaultCleared userId method] userId method y)
    (hinv : MethodInv y) :
    methodProtocol.Keeps op tid
      (.transact (fun _ => Program.perform <| update paymentMethods method fun row =>
        { row with isDefault := true }) fun _ => [.defaultSet userId method]) y
      fun _ z => ∀ u, ¬ Owes z tid u := by
  obtain ⟨row₀, hrow₀, huser₀⟩ := hy.there
  refine keeps_transact (fun row' d hbody hcond => ?_) fun i e hcond hfail => ?_
  · obtain ⟨-, -, -, rfl⟩ := Service.atomic_update hbody
    obtain ⟨hthere, hnone⟩ := hcond.set userId method (List.mem_singleton_self _)
    set g : ℕ → PaymentMethod → PaymentMethod := fun id row =>
      if id = method then { row with isDefault := true } else row with hg
    set d' : Db := { y.state.db with
      paymentMethods := y.state.db.paymentMethods.modify method fun row =>
        { row with isDefault := true } } with hd'
    have hrows : ∀ id, d'.paymentMethods.get? id = (y.state.db.paymentMethods.get? id).map (g id) := by
      intro id
      rw [hd', Table.get?_modify]
      by_cases hid : id = method
      · simp [hg, hid]
      · simp [hg, hid]
    have huser : ∀ id row, (g id row).userId = row.userId := by
      intro id row
      simp only [hg]
      split_ifs <;> rfl
    refine ⟨⟨fun t ht => Logged.own_next_ne ht, .of_map hrows huser⟩, ?_, ?_⟩
    · refine hinv.set ?_ hthere hnone ?_ ?_
      · rintro u ⟨m, hm⟩
        obtain ⟨rfl, -⟩ := Event.defaultCleared.injEq .. ▸ (List.cons.inj (hy.own.symm.trans hm)).1
        rfl
      · intro u id
        refine (activeMethod_map hrows huser).trans ?_
        refine exists_congr fun row => and_congr_right fun _ => and_congr_right fun _ => ?_
        simp only [hg]
        split_ifs <;> rfl
      · intro u id
        refine (defaultMethod_map hrows huser).trans ?_
        simp only [hg]
        by_cases hid : id = method
        · rw [hid]
          simp only [if_true]
          constructor
          · rintro ⟨row, hrow, hu, -⟩
            obtain rfl := Option.some.inj (hrow₀.symm.trans hrow)
            exact Or.inr ⟨hu.symm.trans huser₀, trivial⟩
          · rintro (⟨row, hrow, hu, -⟩ | ⟨hu, -⟩)
            · exact ⟨row, hrow, hu, trivial⟩
            · exact ⟨row₀, hrow₀, huser₀.trans hu.symm, trivial⟩
        · simp only [if_neg hid]
          exact (or_iff_left fun hnew => hid hnew.2).symm
    · rintro u ⟨m, hm⟩
      rw [Logged.own_next_self, hy.own] at hm
      cases hm
  · -- the statement is answered, and the card is there
    have hi := hcond.completed userId method hy.own
    rw [Service.atomic_update_of_some hrow₀] at hfail
    cases hfail hi

end Safe

/-! ### The transaction of `removePaymentMethod` -/

section Removal

variable {userId method : ℕ} {wasDefault : Bool} {d d' : Db} {removed : PaymentMethod}

/-- The card that a removal hands the default on to, if it has read its card as the default one. -/
def handedOn (userId method : ℕ) (wasDefault : Bool) (d : Db) : Option ℕ :=
  if wasDefault then ((replacementFor userId method).answer d).map Prod.fst else none

/-- What a removal makes of a card. -/
def afterRemoval (method : ℕ) (replacement : Option ℕ) (id : ℕ) (row : PaymentMethod) : PaymentMethod :=
  let row := if id = method then { row with status := .removed, isDefault := false } else row
  if replacement = some id then { row with isDefault := true } else row

theorem userId_afterRemoval (replacement : Option ℕ) (id : ℕ) (row : PaymentMethod) :
    (afterRemoval method replacement id row).userId = row.userId := by
  simp only [afterRemoval]
  split_ifs <;> rfl

theorem get?_removeMethod (h : (removeMethod userId method wasDefault).atomic d = .ok (removed, d'))
    (id : ℕ) : d'.paymentMethods.get? id = (d.paymentMethods.get? id).map
      (afterRemoval method (handedOn userId method wasDefault d) id) := by
  obtain ⟨row, d₁, hupdate, hrest⟩ := Tx.atomic_bind.mp h
  obtain ⟨row₀, hrow₀, -, rfl⟩ := Service.atomic_update hupdate
  have hremoved : ∀ id, ((d.paymentMethods.modify method fun row =>
      { row with status := .removed, isDefault := false }).get? id) =
      (d.paymentMethods.get? id).map fun row =>
        if id = method then { row with status := .removed, isDefault := false } else row := by
    intro id
    rw [Table.get?_modify]
    split_ifs
    · rfl
    · exact Option.map_id'.symm
  cases wasDefault with
  | false =>
    obtain ⟨-, rfl⟩ := Prod.mk.injEq .. ▸ Except.ok.inj hrest
    exact hremoved id
  | true =>
    obtain ⟨replacement, d₂, hfind, hset⟩ := Tx.atomic_bind.mp hrest
    obtain ⟨rfl, rfl⟩ := Prod.mk.injEq .. ▸ Except.ok.inj hfind
    -- the card that has been removed is not looked at
    have hsame : (replacementFor userId method).answer (paymentMethods.set d
        ((paymentMethods.get d).modify method fun row =>
          { row with status := .removed, isDefault := false })) =
        (replacementFor userId method).answer d := by
      have hrows := @Table.filter_modify_of_not _ d.paymentMethods method
        (fun row => { row with status := .removed, isDefault := false })
        (fun id row => row.userId == userId && row.status == .active && id != method)
        fun r => by simp
      exact congrArg (List.argmax _) hrows
    rw [hsame] at hset
    cases hanswer : (replacementFor userId method).answer d with
    | none =>
      rw [hanswer] at hset
      obtain ⟨-, rfl⟩ := Prod.mk.injEq .. ▸ Except.ok.inj hset
      have hhanded : handedOn userId method true d = none := congrArg (Option.map Prod.fst) hanswer
      refine (hremoved id).trans (congrArg (Option.map · _) ?_)
      funext row
      rw [hhanded, afterRemoval, if_neg (Option.some_ne_none id).symm]
    | some r =>
      obtain ⟨new, row'⟩ := r
      rw [hanswer] at hset
      obtain ⟨row₂, d₃, hdefault, hend⟩ := Tx.atomic_bind.mp hset
      obtain ⟨-, rfl⟩ := Prod.mk.injEq .. ▸ Except.ok.inj hend
      obtain ⟨-, -, -, rfl⟩ := Service.atomic_update hdefault
      have hhanded : handedOn userId method true d = some new := congrArg (Option.map Prod.fst) hanswer
      refine (Table.get?_modify _ _ _ _).trans ?_
      have hbefore := hremoved id
      by_cases hid : id = new
      · rw [if_pos hid]
        refine (congrArg (Option.map _) hbefore).trans ?_
        rw [Option.map_map]
        refine congrArg (Option.map · _) (funext fun row => ?_)
        rw [hhanded, afterRemoval, if_pos (congrArg some hid.symm)]
        rfl
      · rw [if_neg hid]
        refine hbefore.trans (congrArg (Option.map · _) (funext fun row => ?_))
        rw [hhanded, afterRemoval, if_neg fun heq => hid (Option.some.inj heq).symm]

theorem activeMethod_removeMethod
    (h : (removeMethod userId method wasDefault).atomic d = .ok (removed, d')) (u id : ℕ) :
    ActiveMethod d' u id ↔ ActiveMethod d u id ∧ id ≠ method := by
  refine (activeMethod_map (get?_removeMethod h) fun _ _ => userId_afterRemoval _ _ _).trans ?_
  have hstatus : ∀ row, (afterRemoval method (handedOn userId method wasDefault d) id row).status =
      if id = method then .removed else row.status := by
    intro row
    simp only [afterRemoval]
    split_ifs <;> rfl
  constructor
  · rintro ⟨row, hrow, hu, hactive⟩
    rw [hstatus] at hactive
    split_ifs at hactive with hid
    exact ⟨⟨row, hrow, hu, hactive⟩, hid⟩
  · rintro ⟨⟨row, hrow, hu, hactive⟩, hid⟩
    exact ⟨row, hrow, hu, by rw [hstatus, if_neg hid, hactive]⟩

theorem defaultMethod_removeMethod
    (h : (removeMethod userId method wasDefault).atomic d = .ok (removed, d')) (u id : ℕ) :
    DefaultMethod d' u id ↔ DefaultMethod d u id ∧ id ≠ method ∨
      u = userId ∧ wasDefault = true ∧
        ((replacementFor userId method).answer d).map Prod.fst = some id := by
  refine (defaultMethod_map (get?_removeMethod h) fun _ _ => userId_afterRemoval _ _ _).trans ?_
  have hdefault : ∀ row,
      (afterRemoval method (handedOn userId method wasDefault d) id row).isDefault =
        if handedOn userId method wasDefault d = some id then true
        else if id = method then false else row.isDefault := by
    intro row
    simp only [afterRemoval]
    split_ifs <;> rfl
  have hhanded : handedOn userId method wasDefault d = some id ↔ wasDefault = true ∧
      ((replacementFor userId method).answer d).map Prod.fst = some id := by
    cases wasDefault with
    | true => exact (and_iff_right rfl).symm
    | false => exact iff_of_false (fun hnone => by cases hnone) fun hboth => by cases hboth.1
  constructor
  · rintro ⟨row, hrow, hu, hset⟩
    rw [hdefault] at hset
    split_ifs at hset with hnew hid
    · -- the default has been handed on to this card, which is one of the user
      obtain ⟨hwas, hreplacement⟩ := hhanded.mp hnew
      obtain ⟨⟨row', hrow', hu', -⟩, -⟩ := replacementFor_some hreplacement
      obtain rfl := Option.some.inj (hrow.symm.trans hrow')
      exact Or.inr ⟨hu.symm.trans hu', hwas, hreplacement⟩
    · exact Or.inl ⟨⟨row, hrow, hu, hset⟩, hid⟩
  · rintro (⟨⟨row, hrow, hu, hset⟩, hid⟩ | ⟨rfl, hwas, hreplacement⟩)
    · refine ⟨row, hrow, hu, ?_⟩
      rw [hdefault, if_neg hid, hset, ite_self]
    · obtain ⟨⟨row, hrow, hu, -⟩, -⟩ := replacementFor_some hreplacement
      refine ⟨row, hrow, hu, ?_⟩
      rw [hdefault, if_pos (hhanded.mpr ⟨hwas, hreplacement⟩)]

end Removal

/-! ### The calls -/

section Calls

variable {op : MethodOp} {tid userId method : ℕ} {y x : LoggedWorld}

theorem keeps_removeMethod {wasDefault : Bool} (hy : OwnCard tid [] userId method y)
    (hinv : MethodInv y) :
    methodProtocol.Keeps op tid
      (.transact (fun _ => removeMethod userId method wasDefault)
        fun _ => [.methodRemoved userId method wasDefault]) y fun _ z => ∀ u, ¬ Owes z tid u := by
  have hfree : ∀ u, ¬ Owes y tid u := by
    rintro u ⟨m, hm⟩
    cases hy.own.symm.trans hm
  refine keeps_transact (fun removed d hbody hcond => ?_)
    fun _ _ _ _ => ⟨⟨fun _ _ => rfl, .refl _⟩, hinv, hfree⟩
  have hstay := MethodsStay.of_map (get?_removeMethod hbody) fun _ _ => userId_afterRemoval _ _ _
  refine ⟨⟨fun t ht => Logged.own_next_ne ht, hstay⟩, ?_, ?_⟩
  · refine hinv.removed hfree (hcond.removed userId method wasDefault (List.mem_singleton_self _)) ?_
      (activeMethod_removeMethod hbody) (defaultMethod_removeMethod hbody)
    rintro u ⟨row, hrow, hu, -⟩
    obtain ⟨row', hrow', hu'⟩ := hy.there
    obtain rfl := Option.some.inj (hrow.symm.trans hrow')
    exact hu.symm.trans hu'
  · rintro u ⟨m, hm⟩
    rw [Logged.own_next_self, hy.own] at hm
    cases hm

/-- Steps that leave the cards alone and report nothing. -/
theorem safe_besideMethods {α : Type} {p : Service α} {A : LoggedWorld → Prop}
    (hp : p.Leaves methodFrame) (hA : methodProtocol.Stable tid A) (hx : A x) :
    methodProtocol.Safe op tid (fun _ => A) p x :=
  Protocol.Safe.issues hA (hp.mono fun _ hc _ hy hinv => keeps_besideMethods hc hA hy hinv) hx

theorem leaves_stripeOnly {β : Type} {b : β} :
    Service.Leaves methodFrame
      (Program.perform (.stripe (fun s => .ok (b, s)) fun _ => []) : Service β) :=
  leaves_stripe fun _ _ _ _ => rfl

/-- What a call finds under the id of a card is a card of the user. -/
theorem safe_findActiveMethod (hx : SilentMethod tid x) :
    methodProtocol.Safe op tid
      (fun r z => match r with
        | .ok (some _) => OwnCard tid [] userId method z
        | _ => SilentMethod tid z)
      (sql (findActiveMethod userId method)) x := by
  refine Protocol.Safe.perform stable_silentMethod hx fun y hy hinv => ?_
  refine keeps_transact (fun found d hbody _ => ?_)
    fun _ _ _ _ => ⟨⟨fun _ _ => rfl, .refl _⟩, hinv, hy⟩
  obtain ⟨rfl, rfl⟩ := Prod.mk.injEq .. ▸ Except.ok.inj hbody
  have hsame : y.next tid [] y.state = y := next_nil y tid
  have hy' : SilentMethod tid (y.next tid [] y.state) := hsame.symm ▸ hy
  have hinv' : MethodInv (y.next tid [] y.state) := hsame.symm ▸ hinv
  refine ⟨⟨fun t ht => Logged.own_next_ne ht, .refl _⟩, hinv', ?_⟩
  cases hfound : (findActiveMethod userId method).answer y.state.db with
  | none => exact hy'
  | some r =>
    obtain ⟨id, row⟩ := r
    obtain ⟨hrow, hP⟩ := Table.mem_filter_iff.mp (List.mem_of_head? hfound)
    simp only [Bool.and_eq_true, beq_iff_eq] at hP
    obtain ⟨⟨rfl, huser⟩, -⟩ := hP
    exact ⟨hy', row, hrow, huser⟩

theorem not_owes_of_silent (h : SilentMethod tid x) (u : ℕ) : ¬ Owes x tid u := by
  rintro ⟨m, hm⟩
  cases h.symm.trans hm

theorem safe_savePaymentMethod {pm customer : ℕ} (hx : SilentMethod tid x) :
    methodProtocol.Safe op tid (fun _ z => ∀ u, ¬ Owes z tid u)
      (savePaymentMethod userId pm customer) x := by
  refine Protocol.Safe.bind ((safe_besideMethods leaves_stripeOnly stable_silentMethod hx).mono ?_)
  rintro (e | pm) y hy
  · exact not_owes_of_silent hy
  refine Protocol.Safe.bind <|
    (safe_besideMethods (leaves_sql fun _ _ => rfl) stable_silentMethod hy).mono ?_
  rintro (e | active) z hz
  · exact not_owes_of_silent hz
  exact Protocol.Safe.perform stable_silentMethod hz fun v hv hinv => keeps_createMethod hv hinv

theorem safe_setDefaultPaymentMethod (hx : SilentMethod tid x) :
    methodProtocol.Safe op tid (fun _ z => ∀ u, ¬ Owes z tid u)
      (setDefaultPaymentMethod userId method) x := by
  refine Protocol.Safe.bind ((safe_findActiveMethod hx).mono ?_)
  rintro (e | _ | found) y hy
  · exact not_owes_of_silent hy
  · exact not_owes_of_silent hy
  refine Protocol.Safe.bind (Protocol.Safe.perform stable_ownCard hy fun z hz hinv => ?_)
  intro i r es s hexec hcond
  obtain ⟨hguar, hinv', hcleared⟩ := keeps_clearDefault hz hinv i r es s hexec hcond
  refine ⟨hguar, hinv', ?_⟩
  cases r with
  | error e => exact hcleared
  | ok updated =>
    exact Protocol.Safe.perform stable_ownCard hcleared fun v hv hinv => keeps_setDefault hv hinv

theorem safe_removePaymentMethod {mockMode : Bool} (hx : SilentMethod tid x) :
    methodProtocol.Safe op tid (fun _ z => ∀ u, ¬ Owes z tid u)
      (removePaymentMethod mockMode userId method) x := by
  refine Protocol.Safe.bind ((safe_findActiveMethod hx).mono ?_)
  rintro (e | _ | ⟨id, row⟩) y hy
  · exact not_owes_of_silent hy
  · exact not_owes_of_silent hy
  have hremove : ∀ z, OwnCard tid [] userId method z →
      methodProtocol.Safe op tid (fun _ z => ∀ u, ¬ Owes z tid u)
        (Program.perform (.transact (fun _ => removeMethod userId method row.isDefault)
          fun _ => [.methodRemoved userId method row.isDefault])) z :=
    fun z hz => Protocol.Safe.perform stable_ownCard hz fun v hv hinv => keeps_removeMethod hv hinv
  cases mockMode with
  | true => exact hremove y hy
  | false =>
    refine Protocol.Safe.bind ((safe_besideMethods leaves_stripeOnly stable_ownCard hy).mono ?_)
    rintro (e | u) z hz
    · exact not_owes_of_silent hz.own
    · exact hremove z hz

theorem safeOperations_method : methodProtocol.SafeOperations := by
  intro op tid x _ hfresh
  have hx : SilentMethod tid x := Logged.own_eq_nil hfresh
  cases op with
  | save userId pm customer => exact safe_savePaymentMethod hx
  | setDefault userId method =>
    refine Protocol.Safe.bind ((safe_setDefaultPaymentMethod hx).mono ?_)
    rintro (e | row) y hy
    · exact hy
    · exact hy
  | remove mockMode userId method =>
    refine Protocol.Safe.bind ((safe_removePaymentMethod hx).mono ?_)
    rintro (e | row) y hy
    · exact hy
    · exact hy

end Calls

/-! ## Runs -/

/-- A world in which no call has been made yet. -/
def methodStart (w : World) : Pool Call Err Event World MethodOp where
  now := { state := w }

/-- **One default card**: in an interleaving in which what the calls have read is still right when they
write, and a call that has cleared the default sets it, the cards of every user are as they should be
whenever no call is in progress. -/
theorem one_default_card (w : World) (hw : ∀ u, DefaultRight u w.db)
    (moves : List (Move MethodOp Reply World))
    (h : History.Each (Pool.step methodPool) (Pool.Meets methodPool MethodStep fun _ _ => True)
      (methodStart w) moves) :
    History.Always (Pool.step methodPool)
      (fun p => p.Idle → ∀ u, DefaultRight u p.now.state.db) (methodStart w) moves := by
  have hstart : methodProtocol.Holds (methodStart w) := by
    refine Protocol.holds_of_inv ⟨fun u => (hw u).active, ?_, ?_⟩ rfl rfl
    · intro u id id' hid hid'
      obtain ⟨_, -, hunique⟩ := (hw u).one ⟨id, (hw u).active id hid⟩
      rw [hunique id ⟨(hw u).active id hid, hid⟩, hunique id' ⟨(hw u).active id' hid', hid'⟩]
    · intro u id hid
      obtain ⟨id', ⟨-, hid'⟩, -⟩ := (hw u).one ⟨id, hid⟩
      exact Or.inl ⟨id', hid'⟩
  refine (Protocol.sound safeOperations_method hstart h).imp fun p hp hidle u => ?_
  refine hp.inv.right u fun tid howes => ?_
  obtain ⟨m, hm⟩ := howes
  -- a thread that owes a default has been started, and it has ended
  have hlt := hp.logLt (tid, .defaultCleared u m)
    (Logged.mem_own.mp (hm ▸ List.mem_singleton_self _))
  have hthread := List.getElem?_eq_getElem hlt
  exact hp.post hthread (hidle _ (List.getElem_mem hlt)) u ⟨m, hm⟩

section Runs

/-- Two cards are saved, and the second one is made the default. -/
private def secondDefault : List (Move MethodOp Reply World) :=
  [.start (.save 3 10 20), .step 0 .ok, .step 0 .ok, .step 0 .ok,
    .start (.save 3 11 20), .step 1 .ok, .step 1 .ok, .step 1 .ok,
    .start (.setDefault 3 1), .step 2 .ok, .step 2 .ok, .step 2 .ok]

private theorem defaultRight_empty (u : ℕ) : DefaultRight u {} where
  active := by
    rintro id ⟨row, hrow, -⟩
    cases hrow
  one := by
    rintro ⟨id, row, hrow, -⟩
    cases hrow

theorem second_card_default :
    (History.Each (Pool.step methodPool) (Pool.Meets methodPool MethodStep fun _ _ => True)
      (methodStart {}) secondDefault) ∧
    History.Always (Pool.step methodPool)
      (fun p => p.Idle → ∀ u, DefaultRight u p.now.state.db) (methodStart {}) secondDefault := by
  have hmeets : History.Each (Pool.step methodPool)
      (Pool.Meets methodPool MethodStep fun _ _ => True) (methodStart {}) secondDefault := by
    refine ⟨trivial, ?_, ?_, ?_, trivial, ?_, ?_, ?_, trivial, ?_, ?_, ?_, trivial⟩
    all_goals rintro op rest ⟨⟩ b es s ⟨⟩
    · exact ⟨by simp, fun _ _ _ => rfl, by simp, by simp⟩
    · exact ⟨by simp, fun _ _ _ => rfl, by simp, by simp⟩
    · refine ⟨fun u isFirst hsaved => ?_, fun _ _ _ => rfl, by simp, by simp⟩
      obtain ⟨rfl, rfl⟩ := Event.methodSaved.injEq .. ▸ List.mem_singleton.mp hsaved
      rintro id ⟨row, hrow, -⟩
      cases hrow
    · exact ⟨by simp, fun _ _ _ => rfl, by simp, by simp⟩
    · exact ⟨by simp, fun _ _ _ => rfl, by simp, by simp⟩
    · refine ⟨fun u isFirst hsaved => ?_, fun _ _ _ => rfl, by simp, by simp⟩
      obtain ⟨rfl, rfl⟩ := Event.methodSaved.injEq .. ▸ List.mem_singleton.mp hsaved
      exact ⟨0, _, rfl, rfl, rfl⟩
    · exact ⟨by simp, fun _ _ _ => rfl, by simp, by simp⟩
    · exact ⟨by simp, fun _ _ _ => rfl, by simp, by simp⟩
    · refine ⟨by simp, fun _ _ _ => rfl, fun u m hset => ?_, by simp⟩
      obtain ⟨rfl, rfl⟩ := Event.defaultSet.injEq .. ▸ List.mem_singleton.mp hset
      refine ⟨⟨_, rfl, rfl, rfl⟩, ?_⟩
      rintro id ⟨row, hrow, -, hdefault⟩
      rcases List.mem_pair.mp (Table.mem_rows_iff.mpr hrow) with heq | heq
      · obtain ⟨-, rfl⟩ := Prod.mk.injEq .. ▸ heq
        cases hdefault
      · exact (Prod.mk.injEq .. ▸ heq).1
  exact ⟨hmeets, one_default_card {} defaultRight_empty _ hmeets⟩

/-- Two cards are saved at a time. -/
private def savedTwice : List (Move MethodOp Reply World) :=
  [.start (.save 3 10 20), .start (.save 3 11 20), .step 0 .ok, .step 1 .ok, .step 0 .ok, .step 1 .ok,
    .step 0 .ok, .step 1 .ok]

/-- A card is made the default one, and the second write of it is refused. -/
private def clearedOnly : List (Move MethodOp Reply World) :=
  [.start (.save 3 10 20), .step 0 .ok, .step 0 .ok, .step 0 .ok, .start (.setDefault 3 0),
    .step 1 .ok, .step 1 .ok, .step 1 .refused]

/-- **Two default cards**, and a card without a default one. -/
theorem not_one_default_card :
    let both := History.after (Pool.step methodPool) (methodStart {}) savedTwice
    let none := History.after (Pool.step methodPool) (methodStart {}) clearedOnly
    (∀ u, DefaultRight u (methodStart {}).now.state.db) ∧
      (both.Idle ∧ ¬ DefaultRight 3 both.now.state.db) ∧
      none.Idle ∧ ¬ DefaultRight 3 none.now.state.db := by
  refine ⟨defaultRight_empty, ⟨?_, fun h => ?_⟩, ?_, fun h => ?_⟩
  · intro t ht
    rcases List.mem_pair.mp ht with rfl | rfl
    · trivial
    · trivial
  · obtain ⟨id, -, hunique⟩ := h.one ⟨0, _, rfl, rfl, rfl⟩
    have hzero : 0 = id := hunique 0 ⟨⟨_, rfl, rfl, rfl⟩, _, rfl, rfl, rfl⟩
    have hone : 1 = id := hunique 1 ⟨⟨_, rfl, rfl, rfl⟩, _, rfl, rfl, rfl⟩
    exact absurd (hzero.trans hone.symm) (by decide)
  · intro t ht
    rcases List.mem_pair.mp ht with rfl | rfl
    · trivial
    · trivial
  · obtain ⟨id, ⟨-, row, hrow, -, hdefault⟩, -⟩ := h.one ⟨0, _, rfl, rfl, rfl⟩
    obtain ⟨-, rfl⟩ := Prod.mk.injEq .. ▸ List.mem_singleton.mp (Table.mem_rows_iff.mpr hrow)
    cases hdefault

end Runs

end Deliivo

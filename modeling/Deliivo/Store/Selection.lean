import Deliivo.Store.Table
import Deliivo.Store.Tally

/-!
# What is selected of a table

A selection lists what a function makes of the rows that it is defined on, each under the key of its
row and in the order of the table. Writing a table changes a selection of it in a few ways only: not at
all, member by member, or by one member that comes or goes.

## Main definitions

* `Table.select g t`: what `g` makes of the rows of `t`

## Main results

* `List.perm_cons_filter_ne`: a member of a list whose keys differ, and the others
* `select_modify_of_same`, `select_modifyWhere_map`: writes that keep the members
* `select_modify_none`: a row that is no longer selected
* `select_modify_some`, `select_insert_some`: a row that is selected from now on
-/

/-- A member of a list, no two of which have one key, and the members of other keys. -/
theorem List.perm_cons_filter_ne {σ : Type} {l : List (ℕ × σ)} {id : ℕ} {a : σ}
    (h : (id, a) ∈ l) (hnodup : (l.map Prod.fst).Nodup) :
    l.Perm ((id, a) :: l.filter fun e => e.1 ≠ id) := by
  induction l with
  | nil => cases h
  | cons e l ih =>
    rw [map_cons, nodup_cons] at hnodup
    rcases mem_cons.mp h with rfl | h
    · have hkeep : l.filter (fun e => e.1 ≠ id) = l :=
        filter_eq_self.mpr fun e he => decide_eq_true fun heq =>
          hnodup.1 (mem_map.mpr ⟨e, he, heq⟩)
      rw [filter_cons_of_neg (by simp), hkeep]
    · have hne : e.1 ≠ id := fun heq => hnodup.1 (mem_map.mpr ⟨(id, a), h, heq.symm⟩)
      rw [filter_cons_of_pos (by simpa using hne)]
      exact ((ih h hnodup.2).cons e).trans (Perm.swap ..)

namespace Table

variable {ρ σ : Type}

/-- What `g` makes of the rows that it is defined on, each under the key of its row. -/
def select (g : ρ → Option σ) (t : Table ρ) : List (ℕ × σ) :=
  t.rows.filterMap fun row => (g row.2).map (Prod.mk row.1)

variable {t : Table ρ} {g : ρ → Option σ} {f : ρ → ρ} {id : ℕ} {r : ρ} {a : σ}

theorem mem_select : (id, a) ∈ t.select g ↔ ∃ r, t.get? id = some r ∧ g r = some a := by
  rw [select, List.mem_filterMap]
  constructor
  · rintro ⟨⟨j, r⟩, hmem, hr⟩
    obtain ⟨b, hb, heq⟩ := Option.map_eq_some_iff.mp hr
    obtain ⟨rfl, rfl⟩ := Prod.mk.injEq .. ▸ heq
    exact ⟨r, mem_rows_iff.mp hmem, hb⟩
  · rintro ⟨r, hr, ha⟩
    exact ⟨(id, r), mem_rows_iff.mpr hr, by simp [ha]⟩

theorem nodup_select (t : Table ρ) (g : ρ → Option σ) : ((t.select g).map Prod.fst).Nodup := by
  refine t.nodup.sublist ?_
  unfold select
  induction t.rows with
  | nil => exact List.Sublist.refl _
  | cons row rows ih =>
    cases h : g row.2 with
    | none =>
      rw [List.filterMap_cons_none (by simp [h])]
      exact ih.cons _
    | some a =>
      rw [List.filterMap_cons_some (b := (row.1, a)) (by simp [h])]
      exact ih.cons_cons _

/-! ## Writes that keep the members -/

/-- Each member becomes what `h` makes of it. -/
theorem select_modifyWhere_map {P : ℕ → ρ → Bool} {h : ℕ → σ → σ}
    (hg : ∀ id r, t.get? id = some r → g (if P id r then f r else r) = (g r).map (h id)) :
    (t.modifyWhere P f).select g = (t.select g).map fun e => (e.1, h e.1 e.2) := by
  rw [select, select, modifyWhere, List.filterMap_map, List.map_filterMap]
  refine List.filterMap_congr fun row hrow => ?_
  have hpair : (if P row.1 row.2 then (row.1, f row.2) else row) =
      (row.1, if P row.1 row.2 then f row.2 else row.2) := by
    split_ifs <;> rfl
  simp only [Function.comp_apply]
  rw [hpair, hg row.1 row.2 (mem_rows_iff.mp hrow)]
  cases g row.2 <;> rfl

theorem select_modifyWhere_of_same {P : ℕ → ρ → Bool}
    (hg : ∀ id r, t.get? id = some r → P id r = true → g (f r) = g r) :
    (t.modifyWhere P f).select g = t.select g := by
  rw [select_modifyWhere_map (h := fun _ a => a)]
  · exact List.map_id' _
  · intro id r hr
    rw [Option.map_id']
    split_ifs with hP
    · exact hg id r hr hP
    · rfl

theorem modify_eq_modifyWhere (t : Table ρ) (id : ℕ) (f : ρ → ρ) :
    t.modify id f = t.modifyWhere (fun j _ => decide (j = id)) f := by
  rw [modify, modifyWhere, mk.injEq]
  refine List.map_congr_left fun row _ => ?_
  by_cases h : row.1 = id <;> simp [h]

theorem select_modify_of_same (hg : ∀ r, t.get? id = some r → g (f r) = g r) :
    (t.modify id f).select g = t.select g := by
  rw [modify_eq_modifyWhere]
  exact select_modifyWhere_of_same fun j r hr hj => hg r (of_decide_eq_true hj ▸ hr)

/-- A condition that the row under one key meets, and no other. -/
theorem modifyWhere_eq_modify {P : ℕ → ρ → Bool}
    (hP : ∀ j r, t.get? j = some r → (P j r = true ↔ j = id)) :
    t.modifyWhere P f = t.modify id f := by
  rw [modify, modifyWhere, mk.injEq]
  refine List.map_congr_left fun row hrow => ?_
  have hiff := hP row.1 row.2 (mem_rows_iff.mp hrow)
  by_cases h : row.1 = id
  · rw [if_pos h, if_pos (hiff.mpr h)]
  · rw [if_neg h, if_neg (mt hiff.mp h)]

/-! ## Members that come or go -/

/-- Where a row stands among the rows of its table. -/
theorem rows_eq_append (h : t.get? id = some r) :
    ∃ l l', t.rows = l ++ (id, r) :: l' ∧ (∀ row ∈ l, row.1 ≠ id) ∧ ∀ row ∈ l', row.1 ≠ id := by
  obtain ⟨l, l', hrows⟩ := List.append_of_mem (mem_rows_iff.mpr h)
  have hnodup := t.nodup
  rw [hrows, List.map_append, List.map_cons, List.nodup_append, List.nodup_cons] at hnodup
  obtain ⟨-, ⟨hl', -⟩, hl⟩ := hnodup
  refine ⟨l, l', hrows, fun row hrow heq => ?_, fun row hrow heq => ?_⟩
  · exact hl row.1 (List.mem_map_of_mem hrow) id List.mem_cons_self heq
  · exact hl' (List.mem_map.mpr ⟨row, hrow, heq⟩)

theorem modify_rows {l l' : List (ℕ × ρ)} (hrows : t.rows = l ++ (id, r) :: l')
    (hl : ∀ row ∈ l, row.1 ≠ id) (hl' : ∀ row ∈ l', row.1 ≠ id) :
    (t.modify id f).rows = l ++ (id, f r) :: l' := by
  have hkeep : ∀ k : List (ℕ × ρ), (∀ row ∈ k, row.1 ≠ id) →
      k.map (fun row => if row.1 = id then (row.1, f row.2) else row) = k := by
    intro k hk
    refine (List.map_congr_left fun row hrow => ?_).trans (List.map_id' k)
    exact if_neg (hk row hrow)
  show t.rows.map _ = _
  rw [hrows, List.map_append, List.map_cons, hkeep l hl, hkeep l' hl', if_pos rfl]

/-- The row under a key is no longer selected. -/
theorem select_modify_none (hg : ∀ r, t.get? id = some r → g (f r) = none) :
    (t.modify id f).select g = (t.select g).filter fun e => e.1 ≠ id := by
  have hother : ∀ k : List (ℕ × ρ), (∀ row ∈ k, row.1 ≠ id) →
      (k.filterMap fun row => (g row.2).map (Prod.mk row.1)).filter (fun e => e.1 ≠ id) =
        k.filterMap fun row => (g row.2).map (Prod.mk row.1) := by
    intro k hk
    refine List.filter_eq_self.mpr fun e he => ?_
    obtain ⟨row, hrow, hmap⟩ := List.mem_filterMap.mp he
    obtain ⟨b, -, rfl⟩ := Option.map_eq_some_iff.mp hmap
    exact decide_eq_true (hk row hrow)
  cases h : t.get? id with
  | none =>
    have hrows : ∀ row ∈ t.rows, row.1 ≠ id := fun row hrow heq =>
      get?_eq_none_iff.mp h (heq ▸ List.mem_map_of_mem hrow)
    rw [select_modify_of_same fun r hr => by rw [h] at hr; cases hr]
    exact (hother t.rows hrows).symm
  | some r =>
    obtain ⟨l, l', hrows, hl, hl'⟩ := rows_eq_append h
    rw [select, select, modify_rows hrows hl hl', hrows, List.filterMap_append,
      List.filterMap_append, List.filter_append, hother l hl,
      List.filterMap_cons_none (by simp [hg r h])]
    congr 1
    cases hr : g r with
    | none => rw [List.filterMap_cons_none (by simp [hr]), hother l' hl']
    | some a =>
      rw [List.filterMap_cons_some (b := (id, a)) (by simp [hr]),
        List.filter_cons_of_neg (by simp), hother l' hl']

/-- A row that was not selected is from now on. -/
theorem select_modify_some (h : t.get? id = some r) (hg : g r = none) (hf : g (f r) = some a) :
    ((t.modify id f).select g).Perm ((id, a) :: t.select g) := by
  obtain ⟨l, l', hrows, hl, hl'⟩ := rows_eq_append h
  rw [select, select, modify_rows hrows hl hl', hrows, List.filterMap_append, List.filterMap_append,
    List.filterMap_cons_some (b := (id, a)) (by simp [hf]),
    List.filterMap_cons_none (by simp [hg])]
  exact List.perm_middle

theorem select_insert_none (hg : g r = none) : (t.insert id r).select g = t.select g := by
  cases h : t.get? id with
  | some r' => rw [insert_of_some h]
  | none =>
    rw [select, insert_rows h, List.filterMap_append,
      List.filterMap_cons_none (a := (id, r)) (by simp [hg]), List.filterMap_nil, List.append_nil]
    rfl

theorem select_insert_some (h : t.get? id = none) (hg : g r = some a) :
    (t.insert id r).select g = t.select g ++ [(id, a)] := by
  rw [select, insert_rows h, List.filterMap_append,
    List.filterMap_cons_some (a := (id, r)) (b := (id, a)) (by simp [hg]), List.filterMap_nil]
  rfl

end Table

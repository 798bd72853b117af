import Deliivo.Store.Table

/-!
# Unique indexes

A unique index of a table gives some of its rows a key, and no two rows the same one. A statement that
looks for the key of a new row before it adds it keeps the index unique, and so does one that leaves the
keys alone.

## Main definitions

* `Table.HasKey`: a row has a key
* `Table.UniqueBy`: no two rows have one

## Main results

* `uniqueBy_insert`, `uniqueBy_modify`, `uniqueBy_modifyWhere`: what statements keep
* `hasKey_insert`, `hasKey_modify`, `hasKey_modifyWhere`: which keys there are after them
-/

namespace Table

variable {ρ κ : Type} (key : ρ → Option κ) (t : Table ρ)

/-- A row with this key is there. -/
def HasKey (k : κ) : Prop := ∃ id r, t.get? id = some r ∧ key r = some k

/-- No two rows have a key. -/
def UniqueBy : Prop :=
  ∀ id id' r r' k, t.get? id = some r → t.get? id' = some r' → key r = some k → key r' = some k → id = id'

variable {key t} {id : ℕ} {r : ρ} {f : ρ → ρ} {k : κ}

theorem filter_ne_nil_iff {P : ℕ → ρ → Bool} :
    t.filter P ≠ [] ↔ ∃ id r, t.get? id = some r ∧ P id r = true := by
  constructor
  · intro h
    obtain ⟨⟨id, r⟩, hmem⟩ := List.exists_mem_of_ne_nil _ h
    exact ⟨id, r, mem_filter_iff.mp hmem⟩
  · rintro ⟨id, r, hrow⟩
    exact List.ne_nil_of_mem (mem_filter_iff.mpr hrow)

theorem of_head?_filter {P : ℕ → ρ → Bool} (h : (t.filter P).head? = some (id, r)) :
    t.get? id = some r ∧ P id r = true :=
  mem_filter_iff.mp (List.mem_of_mem_head? h)

/-! ## Adding a row -/

section Insert

variable (hfresh : t.get? id = none)

include hfresh

theorem uniqueBy_insert (h : t.UniqueBy key) (hkey : ∀ k, key r = some k → ¬ t.HasKey key k) :
    (t.insert id r).UniqueBy key := by
  intro i j s s' k hi hj hk hk'
  rw [get?_insert hfresh] at hi hj
  split_ifs at hi hj with hieq hjeq hjeq
  · exact hieq.trans hjeq.symm
  · obtain rfl := Option.some.inj hi
    exact absurd ⟨j, s', hj, hk'⟩ (hkey k hk)
  · obtain rfl := Option.some.inj hj
    exact absurd ⟨i, s, hi, hk⟩ (hkey k hk')
  · exact h i j s s' k hi hj hk hk'

theorem hasKey_insert : (t.insert id r).HasKey key k ↔ t.HasKey key k ∨ key r = some k := by
  constructor
  · rintro ⟨j, s, hj, hk⟩
    rw [get?_insert hfresh] at hj
    split_ifs at hj with heq
    · obtain rfl := Option.some.inj hj
      exact Or.inr hk
    · exact Or.inl ⟨j, s, hj, hk⟩
  · rintro (⟨j, s, hj, hk⟩ | hk)
    · have hne : j ≠ id := by
        rintro rfl
        rw [hfresh] at hj
        cases hj
      exact ⟨j, s, by rw [get?_insert hfresh, if_neg hne, hj], hk⟩
    · exact ⟨id, r, by rw [get?_insert hfresh, if_pos rfl], hk⟩

end Insert

/-! ## Changing rows -/

section Modify

/-- A row changed by its id is one of those that a condition selects. -/
theorem get?_modify_eq (id j : ℕ) :
    (t.modify id f).get? j = (t.modifyWhere (fun i _ => i == id) f).get? j := by
  rw [get?_modify, get?_modifyWhere]
  by_cases h : j = id
  · simp [h]
  · simp [h]

variable (hf : ∀ r, key (f r) = key r)

include hf

theorem uniqueBy_modifyWhere (h : t.UniqueBy key) (P : ℕ → ρ → Bool) :
    (t.modifyWhere P f).UniqueBy key := by
  have hsame : ∀ j s, (t.modifyWhere P f).get? j = some s →
      ∃ s₀, t.get? j = some s₀ ∧ key s₀ = key s := by
    intro j s hj
    rw [get?_modifyWhere] at hj
    obtain ⟨s₀, hs₀, rfl⟩ := Option.map_eq_some_iff.mp hj
    refine ⟨s₀, hs₀, ?_⟩
    split_ifs
    · exact (hf s₀).symm
    · rfl
  intro i j s s' k hi hj hk hk'
  obtain ⟨s₀, hs₀, hkey⟩ := hsame i s hi
  obtain ⟨s₁, hs₁, hkey'⟩ := hsame j s' hj
  exact h i j s₀ s₁ k hs₀ hs₁ (hkey.trans hk) (hkey'.trans hk')

theorem hasKey_modifyWhere (P : ℕ → ρ → Bool) :
    (t.modifyWhere P f).HasKey key k ↔ t.HasKey key k := by
  constructor
  · rintro ⟨j, s, hj, hk⟩
    rw [get?_modifyWhere] at hj
    obtain ⟨s₀, hs₀, rfl⟩ := Option.map_eq_some_iff.mp hj
    refine ⟨j, s₀, hs₀, ?_⟩
    split_ifs at hk
    · exact (hf s₀).symm.trans hk
    · exact hk
  · rintro ⟨j, s, hj, hk⟩
    refine ⟨j, if P j s then f s else s, by rw [get?_modifyWhere, hj]; rfl, ?_⟩
    split_ifs
    · exact (hf s).trans hk
    · exact hk

theorem uniqueBy_modify (h : t.UniqueBy key) (id : ℕ) : (t.modify id f).UniqueBy key := by
  intro i j s s' k hi hj
  rw [get?_modify_eq] at hi hj
  exact uniqueBy_modifyWhere hf h _ i j s s' k hi hj

theorem hasKey_modify (id : ℕ) : (t.modify id f).HasKey key k ↔ t.HasKey key k := by
  refine Iff.trans ?_ (hasKey_modifyWhere hf fun i _ => i == id)
  exact exists_congr fun j => exists_congr fun s => by rw [get?_modify_eq]

end Modify

end Table

import Mathlib.Data.List.Count
import Mathlib.Data.List.TakeDrop
import Mathlib.Order.Basic
import Mathlib.Tactic.Ring

/-!
# Pages of rows under a key

Rows are listed by a key, the greatest first, and handed out in pages of a fixed size. The page after a
page starts below the key of its last row, so that a row with that same key is on no page. Nothing is
lost exactly if no page ends between two rows of one key.

## Main definitions

* `TieFree`: no page ends between two rows of one key

## Main results

* `tieFree_of_length_le`: what fits on one page
* `tieFree_iff_page`: the first page, and the rows below it
-/

namespace Deliivo

variable {α τ : Type*} [LinearOrder τ] {key : α → τ} {rows : List α} {size : ℕ}

/-- The rows are listed by their keys, the greatest first. -/
def Descending (key : α → τ) (rows : List α) : Prop := rows.Pairwise fun a b => key b ≤ key a

/-- **No page ends between two rows of one key**: with the rows listed by their keys, no number of full
pages holds some but not all of the rows of a key. -/
def TieFree (key : α → τ) (size : ℕ) (rows : List α) : Prop :=
  ∀ (pages : ℕ) (t : τ), ¬ (rows.countP (fun a => decide (t < key a)) < pages * size ∧
    pages * size < rows.countP fun a => decide (t ≤ key a))

theorem TieFree.perm {other : List α} (h : TieFree key size rows) (hperm : rows.Perm other) :
    TieFree key size other := by
  intro pages t
  rw [← hperm.countP_eq, ← hperm.countP_eq]
  exact h pages t

/-- What fits on one page. -/
theorem tieFree_of_length_le (h : rows.length ≤ size) : TieFree key size rows := by
  rintro pages t ⟨hlow, hhigh⟩
  have hle := (rows.countP_le_length (p := fun a => decide (t ≤ key a)))
  cases pages with
  | zero => omega
  | succ pages =>
    have : size ≤ (pages + 1) * size := Nat.le_mul_of_pos_left size (Nat.succ_pos pages)
    omega

section Page

variable {page rest : List α} {last : α}

/-- A page in front of the rest of the rows: its last row has the least key of the page, and the rest
has no greater one. -/
structure IsPage (key : α → τ) (page : List α) (last : α) (rest : List α) : Prop where
  mem : last ∈ page
  least : ∀ a ∈ page, key last ≤ key a
  rest : ∀ a ∈ rest, key a ≤ key last

/-- The first rows are a page. -/
theorem isPage_take (hrows : Descending key rows) {row : α} (hrow : (rows.take size).getLast? = some row) :
    IsPage key (rows.take size) row (rows.drop size) := by
  obtain ⟨front, hfront⟩ := List.getLast?_eq_some_iff.mp hrow
  have hsplit : rows = front ++ [row] ++ rows.drop size := by
    rw [← hfront, List.take_append_drop]
  have hpairs : (front ++ [row] ++ rows.drop size).Pairwise fun a b => key b ≤ key a := by
    rw [← hsplit]
    exact hrows
  obtain ⟨hpage, -, hbelow⟩ := List.pairwise_append.mp hpairs
  obtain ⟨-, -, habove⟩ := List.pairwise_append.mp hpage
  constructor
  · rw [hfront]
    exact List.mem_append_right _ (List.mem_singleton_self row)
  · intro a ha
    rw [hfront] at ha
    rcases List.mem_append.mp ha with ha | ha
    · exact habove a ha row (List.mem_singleton_self row)
    · rw [List.mem_singleton.mp ha]
  · intro a ha
    exact hbelow row (List.mem_append_right _ (List.mem_singleton_self row)) a ha

/-- The rows below a page are among the rest. -/
theorem IsPage.filter_below (h : IsPage key page last rest) :
    (page ++ rest).filter (fun a => decide (key a < key last)) =
      rest.filter fun a => decide (key a < key last) := by
  rw [List.filter_append, List.filter_eq_nil_iff.mpr, List.nil_append]
  intro a ha
  simpa using h.least a ha

/-- **The first page**: no page ends between two rows of one key exactly if the rest is below this one,
and none of its pages does. -/
theorem tieFree_iff_page (h : IsPage key page last rest) (hpage : page.length = size) :
    TieFree key size (page ++ rest) ↔ (∀ a ∈ rest, key a < key last) ∧ TieFree key size rest := by
  have hcount : ∀ {t}, t < key last → page.countP (fun a => decide (t < key a)) = size ∧
      page.countP (fun a => decide (t ≤ key a)) = size := by
    intro t ht
    rw [← hpage]
    refine ⟨List.countP_eq_length.mpr fun a ha => ?_, List.countP_eq_length.mpr fun a ha => ?_⟩
    · exact decide_eq_true (ht.trans_le (h.least a ha))
    · exact decide_eq_true (ht.le.trans (h.least a ha))
  constructor
  · intro hfree
    have hbelow : ∀ a ∈ rest, key a < key last := by
      intro a ha
      refine lt_of_le_of_ne (h.rest a ha) fun heq => hfree 1 (key last) ?_
      rw [List.countP_append, List.countP_append, Nat.one_mul]
      constructor
      · have hrest : rest.countP (fun a => decide (key last < key a)) = 0 :=
          List.countP_eq_zero.mpr fun b hb => by simpa using h.rest b hb
        have hlast : page.countP (fun a => decide (key last < key a)) < page.length := by
          refine lt_of_le_of_ne List.countP_le_length fun hall => ?_
          have := List.countP_eq_length.mp hall last h.mem
          simp at this
        omega
      · have hall : page.countP (fun a => decide (key last ≤ key a)) = page.length :=
          List.countP_eq_length.mpr fun b hb => by simpa using h.least b hb
        have hone : 0 < rest.countP fun a => decide (key last ≤ key a) :=
          List.countP_pos_iff.mpr ⟨a, ha, by simp [heq]⟩
        omega
    refine ⟨hbelow, fun pages t hcut => hfree (pages + 1) t ?_⟩
    -- a key of the rest is below the page, which counts in full
    obtain ⟨a, ha, hta⟩ := List.countP_pos_iff.mp (Nat.zero_lt_of_lt hcut.2)
    have ht : t < key last := (of_decide_eq_true hta).trans_lt (hbelow a ha)
    rw [List.countP_append, List.countP_append, (hcount ht).1, (hcount ht).2, Nat.add_mul]
    omega
  · rintro ⟨hbelow, hfree⟩ pages t hcut
    rw [List.countP_append, List.countP_append] at hcut
    rcases lt_or_ge t (key last) with ht | ht
    · rw [(hcount ht).1, (hcount ht).2] at hcut
      cases pages with
      | zero => omega
      | succ pages =>
        refine hfree pages t ?_
        rw [Nat.add_mul] at hcut
        omega
    · -- nothing of the rest counts
      have hrest : rest.countP (fun a => decide (t ≤ key a)) = 0 :=
        List.countP_eq_zero.mpr fun a ha => by simpa using (hbelow a ha).trans_le ht
      have hle := (page.countP_le_length (p := fun a => decide (t ≤ key a)))
      cases pages with
      | zero => omega
      | succ pages =>
        have : size ≤ (pages + 1) * size := Nat.le_mul_of_pos_left size (Nat.succ_pos pages)
        omega

end Page

end Deliivo

import Mathlib.Tactic

/-!
# Chains of hashes

A list of entries, each of which names the hash of the entry before it. The first entry of a chain
names what the chain starts from, nothing for a new one.

## Main definitions

* `HashChain.Linked`: every entry names the hash of the one before it
* `HashChain.lastHash`: what the next entry has to name

## Main results

* `HashChain.linked_concat`: a chain grows by an entry that names its last hash
* `HashChain.forall_prev_eq_none_iff`: a new chain whose entries name nothing has one entry at most
-/

namespace HashChain

variable {ε H : Type*} (prev : ε → Option H) (hash : ε → H)

/-- Every entry names the hash of the one before it, the first one `p`. -/
def Linked : Option H → List ε → Prop
  | _, [] => True
  | p, e :: es => prev e = p ∧ Linked (some (hash e)) es

/-- The hash of the last entry, or what the chain starts from. -/
def lastHash (p : Option H) (es : List ε) : Option H := es.foldl (fun _ e => some (hash e)) p

@[simp] theorem lastHash_nil (p : Option H) : lastHash hash p [] = p := rfl

@[simp] theorem lastHash_cons (p : Option H) (e : ε) (es : List ε) :
    lastHash hash p (e :: es) = lastHash hash (some (hash e)) es := rfl

@[simp] theorem lastHash_concat (p : Option H) (es : List ε) (e : ε) :
    lastHash hash p (es ++ [e]) = some (hash e) := by
  simp [lastHash]

variable {prev hash} {p : Option H} {e : ε} {es : List ε}

theorem linked_concat :
    Linked prev hash p (es ++ [e]) ↔ Linked prev hash p es ∧ prev e = lastHash hash p es := by
  induction es generalizing p with
  | nil => simp [Linked]
  | cons e' es ih => simp only [List.cons_append, Linked, lastHash_cons, ih, and_assoc]

/-- What an entry names is what the chain starts from or the hash of another entry. -/
theorem Linked.prev_eq (hl : Linked prev hash p es) :
    ∀ e ∈ es, prev e = p ∨ ∃ e' ∈ es, prev e = some (hash e') := by
  induction es generalizing p with
  | nil => simp
  | cons e' es ih =>
    intro e he
    rcases List.mem_cons.mp he with rfl | he
    · exact Or.inl hl.1
    · refine Or.inr ?_
      rcases ih hl.2 e he with heq | ⟨e'', hmem, heq⟩
      · exact ⟨e', List.mem_cons_self, heq⟩
      · exact ⟨e'', List.mem_cons_of_mem _ hmem, heq⟩

/-- In a chain that continues something every entry names something. -/
theorem Linked.prev_ne_none {h : H} (hl : Linked prev hash (some h) es) :
    ∀ e ∈ es, prev e ≠ none := by
  induction es generalizing h with
  | nil => simp
  | cons e' es ih =>
    intro e he
    rcases List.mem_cons.mp he with rfl | he
    · rw [hl.1]
      exact Option.some_ne_none h
    · exact ih hl.2 e he

/-- A new chain names nothing in all of its entries only if it has at most one. -/
theorem forall_prev_eq_none_iff (hl : Linked prev hash none es) :
    (∀ e ∈ es, prev e = none) ↔ es.length ≤ 1 := by
  cases es with
  | nil => simp
  | cons e es =>
    cases es with
    | nil => simpa [Linked] using hl
    | cons e' es =>
      constructor
      · intro hnone
        refine absurd (hnone e' (by simp)) ?_
        exact hl.2.prev_ne_none e' List.mem_cons_self
      · intro hlen
        simp at hlen

end HashChain

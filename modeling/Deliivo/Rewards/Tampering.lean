import Deliivo.Rewards.Chain

/-!
# What the verifier makes of a tampered copy

A copy of the wallets is tampered with if the data of an entry is not what it was, its hashes left
as they are stored, or if an entry that is not the last of its wallet is missing. The verifier
recomputes a hash only for an entry that names a previous one, and then always from nothing, so
what it says of a copy depends on which entries are left in it and not on what they say.

**A tampered copy is refused exactly when it still holds an entry of the user that was not the
first of its wallet** (`tampering_refused_iff`).

## Main definitions

* `CopyOf`: the entries are entries of the other table, with the hashes stored there
* `Tampered`: an entry of the user has other data, or is missing and was not the last
* `Later`: an entry that was not the first of its wallet

## Main results

* `named_grantAll`: what grants one after another write names nothing exactly in the first entries
* `tampering_refused_iff`
-/

namespace Deliivo

/-! ## Copies -/

/-- The entries of `t'` are entries of `t`, in whatever state their data is, with the hashes that
are stored in `t`. -/
def CopyOf (t t' : Table RewardWalletEntry) : Prop :=
  ∀ id e', t'.get? id = some e' → ∃ e, t.get? id = some e ∧
    e'.previousHash = e.previousHash ∧ e'.entryHash = e.entryHash

/-- An entry of the user has other data than it had in `t`, or is missing without having been the
last of its wallet. -/
def Tampered (userId : ℕ) (t t' : Table RewardWalletEntry) : Prop :=
  ∃ id e, t.get? id = some e ∧ e.userId = userId ∧
    ((∃ e', t'.get? id = some e' ∧ e'.toRewardEntryData ≠ e.toRewardEntryData) ∨
      t'.get? id = none ∧ (walletEntries e.userId e.walletType t).getLast? ≠ some (id, e))

/-- The entry under `id` is there and is not the first of its wallet. -/
def Later (t : Table RewardWalletEntry) (id : ℕ) : Prop :=
  ∃ e, t.get? id = some e ∧ (walletEntries e.userId e.walletType t).head? ≠ some (id, e)

/-! ## What grants write -/

/-- Every entry carries a digest; the first entry of a wallet names nothing, and every other one a
digest. -/
structure Named (t : Table RewardWalletEntry) : Prop where
  hashed : ∀ id e, t.get? id = some e → ∃ d : Digest, e.entryHash = some d.hex
  first : ∀ id e, t.get? id = some e →
    (walletEntries e.userId e.walletType t).head? = some (id, e) → e.previousHash = none
  later : ∀ id e, t.get? id = some e →
    (walletEntries e.userId e.walletType t).head? ≠ some (id, e) →
    ∃ d : Digest, e.previousHash = some d.hex

section Tampering

variable {localeLe : String → String → Bool} {sha256 : String → Digest} {userId : ℕ}
  {walletType : WalletType} {t t' : Table RewardWalletEntry}

theorem mem_walletEntries {id : ℕ} {e : RewardWalletEntry} :
    (id, e) ∈ walletEntries userId walletType t ↔
      t.get? id = some e ∧ e.userId = userId ∧ e.walletType = walletType := by
  rw [walletEntries, Table.mem_filter_iff, Bool.and_eq_true, beq_iff_eq, beq_iff_eq]

/-- A grant either finds its key in use or adds its entry at the end. -/
theorem grantWalletEntry_cases (localeLe : String → String → Bool) (sha256 : String → Digest)
    (now : ℕ) (input : GrantInput) (t : Table RewardWalletEntry) :
    (∃ r ∈ t.rows, r.2.idempotencyKey = input.idempotencyKey) ∧
        grantWalletEntry localeLe sha256 now input t = (t, false) ∨
      KeyFree input.idempotencyKey t ∧ grantWalletEntry localeLe sha256 now input t =
        (t.insert t.nextKey (input.entry localeLe sha256 now t), true) := by
  by_cases h : (t.filter fun _ e => e.idempotencyKey == input.idempotencyKey) = []
  · refine Or.inr ⟨?_, by rw [grantWalletEntry, if_neg (not_not.mpr h)]⟩
    intro r hr
    simpa using List.filter_eq_nil_iff.mp h r hr
  · refine Or.inl ⟨?_, by rw [grantWalletEntry, if_pos h]⟩
    obtain ⟨r, hr⟩ := List.exists_mem_of_ne_nil _ h
    obtain ⟨hmem, hkey⟩ := List.mem_filter.mp hr
    exact ⟨r, hmem, beq_iff_eq.mp hkey⟩

/-- The entries of a wallet after a new entry. -/
theorem walletEntries_insert (e : RewardWalletEntry) :
    walletEntries userId walletType (t.insert t.nextKey e) =
      walletEntries userId walletType t ++
        if e.userId = userId ∧ e.walletType = walletType then [(t.nextKey, e)] else [] := by
  rw [walletEntries, Table.filter, Table.insert_nextKey_rows, List.filter_append]
  refine congrArg _ ?_
  by_cases h : e.userId = userId ∧ e.walletType = walletType
  · rw [if_pos h, List.filter_cons_of_pos (by simpa using h)]
    rfl
  · rw [if_neg h, List.filter_cons_of_neg (by simpa using h)]
    rfl

/-- An entry that is there keeps its place in its wallet. -/
theorem head?_walletEntries_insert {id : ℕ} {e : RewardWalletEntry} (h : t.get? id = some e)
    (new : RewardWalletEntry) :
    (walletEntries e.userId e.walletType (t.insert t.nextKey new)).head? =
      (walletEntries e.userId e.walletType t).head? := by
  have hmem : (id, e) ∈ walletEntries e.userId e.walletType t :=
    mem_walletEntries.mpr ⟨h, rfl, rfl⟩
  rw [walletEntries_insert]
  exact List.head?_append_of_ne_nil _ (List.ne_nil_of_mem hmem)

/-- What the entry of a grant names: nothing in an empty wallet, and otherwise a digest. -/
theorem entry_names (localeLe : String → String → Bool) (sha256 : String → Digest) (now : ℕ)
    (input : GrantInput) (h : Named t) :
    let old := walletEntries input.userId (normalizeWalletType input.walletType) t
    let e := input.entry localeLe sha256 now t
    (old = [] → e.previousHash = none) ∧
      (old ≠ [] → ∃ d : Digest, e.previousHash = some d.hex) := by
  intro old e
  have hprev : e.previousHash = (old.mergeSort newestFirst).head?.bind fun r => r.2.entryHash := rfl
  constructor
  · intro hnil
    rw [hprev, hnil]
    simp
  · intro hne
    cases hs : old.mergeSort newestFirst with
    | nil =>
      have hlen : (old.mergeSort newestFirst).length = old.length := List.length_mergeSort old
      rw [hs] at hlen
      exact absurd (List.length_eq_zero_iff.mp hlen.symm) hne
    | cons latest rest =>
      have hmem : latest ∈ old := List.mem_mergeSort.mp (hs ▸ List.mem_cons_self)
      obtain ⟨hget, -⟩ := mem_walletEntries.mp (show (latest.1, latest.2) ∈ old from hmem)
      obtain ⟨d, hd⟩ := h.hashed _ _ hget
      refine ⟨d, ?_⟩
      rw [hprev, hs]
      exact hd

/-- A grant keeps what the entries of all wallets name. -/
theorem named_grant (localeLe : String → String → Bool) (sha256 : String → Digest) (g : Grant)
    (h : Named t) : Named (grantWalletEntry localeLe sha256 g.now g.input t).1 := by
  rcases grantWalletEntry_cases localeLe sha256 g.now g.input t with ⟨-, heq⟩ | ⟨-, heq⟩
  · rwa [heq]
  rw [heq]
  dsimp only
  have hfresh : t.get? t.nextKey = none := Table.get?_of_nextKey_le le_rfl
  obtain ⟨hempty, hfull⟩ := entry_names localeLe sha256 g.now g.input h
  generalize hnew : g.input.entry localeLe sha256 g.now t = new at *
  have huser : new.userId = g.input.userId ∧
      new.walletType = normalizeWalletType g.input.walletType := by
    rw [← hnew]
    exact ⟨rfl, rfl⟩
  rw [← huser.1, ← huser.2] at hempty hfull
  -- an entry of the new table is the new one, or an old one at its old place
  have hcases : ∀ id e, (t.insert t.nextKey new).get? id = some e →
      id = t.nextKey ∧ e = new ∨ t.get? id = some e := by
    intro id e he
    rw [Table.get?_insert hfresh] at he
    split_ifs at he with hid
    · exact Or.inl ⟨hid, (Option.some.inj he).symm⟩
    · exact Or.inr he
  -- the new entry is the first of its wallet if that was empty
  have hhead : (walletEntries new.userId new.walletType (t.insert t.nextKey new)).head? =
      some (t.nextKey, new) ↔ walletEntries new.userId new.walletType t = [] := by
    rw [walletEntries_insert, if_pos ⟨rfl, rfl⟩]
    cases hw : walletEntries new.userId new.walletType t with
    | nil => simp
    | cons r rest =>
      refine iff_of_false ?_ (List.cons_ne_nil _ _)
      intro hr
      have hmem : (t.nextKey, new) ∈ walletEntries new.userId new.walletType t := by
        rw [hw, ← Option.some.inj hr]
        exact List.mem_cons_self
      rw [(mem_walletEntries.mp hmem).1] at hfresh
      cases hfresh
  constructor
  · intro id e he
    rcases hcases id e he with ⟨-, rfl⟩ | hold
    · rw [← hnew]
      exact ⟨_, rfl⟩
    · exact h.hashed id e hold
  · intro id e he hfirst
    rcases hcases id e he with ⟨rfl, rfl⟩ | hold
    · exact hempty (hhead.mp hfirst)
    · rw [head?_walletEntries_insert hold] at hfirst
      exact h.first id e hold hfirst
  · intro id e he hlater
    rcases hcases id e he with ⟨rfl, rfl⟩ | hold
    · exact hfull fun hnil => hlater (hhead.mpr hnil)
    · rw [head?_walletEntries_insert hold] at hlater
      exact h.later id e hold hlater

/-- What grants one after another write, whatever their keys and their times. -/
theorem named_grantAll (localeLe : String → String → Bool) (sha256 : String → Digest)
    (grants : List Grant) : Named (grantAll localeLe sha256 .empty grants) := by
  refine History.invariant_after (fun t g h => named_grant localeLe sha256 g h) ?_ grants
  constructor <;> intro id e he <;> cases he

/-! ## The verdict on a copy -/

/-- The verifier refuses the entries of a user exactly when one of them names a previous one. -/
theorem verifyRewardLedgerChain_refused_iff :
    (verifyRewardLedgerChain localeLe sha256 userId t).ok = false ↔
      ∃ id e, t.get? id = some e ∧ e.userId = userId ∧
        isFalsy e.entryHash = false ∧ isFalsy e.previousHash = false := by
  rw [← Bool.not_eq_true, verifyRewardLedgerChain, verifyEntries_ok_iff]
  push Not
  constructor
  · rintro ⟨⟨id, e⟩, hmem, hhash, hprev⟩
    obtain ⟨hget, huser⟩ := Table.mem_filter_iff.mp (List.mem_mergeSort.mp hmem)
    exact ⟨id, e, hget, beq_iff_eq.mp huser, by simpa using hhash, by simpa using hprev⟩
  · rintro ⟨id, e, hget, huser, hhash, hprev⟩
    refine ⟨(id, e), List.mem_mergeSort.mpr ?_, by simpa using hhash, by simpa using hprev⟩
    exact Table.mem_filter_iff.mpr ⟨hget, beq_iff_eq.mpr huser⟩

theorem isFalsy_hex (d : Digest) : isFalsy (some d.hex) = false := by
  simpa [isFalsy] using d.hex_ne_empty

/-- **A copy of what grants have written is refused exactly when an entry is left in it under the
user that was not the first of its wallet**, whatever has become of the data of the entries. -/
theorem tampering_refused_iff (localeLe : String → String → Bool) (sha256 : String → Digest)
    (userId : ℕ) (grants : List Grant) (t' : Table RewardWalletEntry)
    (hcopy : CopyOf (grantAll localeLe sha256 .empty grants) t') :
    (verifyRewardLedgerChain localeLe sha256 userId t').ok = false ↔
      ∃ id e, t'.get? id = some e ∧ e.userId = userId ∧
        Later (grantAll localeLe sha256 .empty grants) id := by
  have hnamed := named_grantAll localeLe sha256 grants
  generalize grantAll localeLe sha256 .empty grants = t at hcopy hnamed ⊢
  rw [verifyRewardLedgerChain_refused_iff]
  constructor
  · rintro ⟨id, e', hget', huser, -, hprev⟩
    obtain ⟨e, hget, hsame, -⟩ := hcopy id e' hget'
    refine ⟨id, e', hget', huser, e, hget, fun hfirst => ?_⟩
    rw [hsame, hnamed.first id e hget hfirst] at hprev
    cases hprev
  · rintro ⟨id, e', hget', huser, e, hget, hlater⟩
    obtain ⟨e₀, hget₀, hprev, hhash⟩ := hcopy id e' hget'
    obtain rfl : e = e₀ := Option.some.inj (hget.symm.trans hget₀)
    obtain ⟨d, hd⟩ := hnamed.hashed id e hget
    obtain ⟨d', hd'⟩ := hnamed.later id e hget hlater
    refine ⟨id, e', hget', huser, ?_, ?_⟩
    · rw [hhash, hd]
      exact isFalsy_hex d
    · rw [hprev, hd']
      exact isFalsy_hex d'

end Tampering

/-! ## Runs -/

section Runs

/-- Whatever the hash function is, an injective one for example, the change of the copy tampers
with the entries of the user and is accepted. -/
def Unnoticed (userId : ℕ) (grants : List Grant)
    (change : Table RewardWalletEntry → Table RewardWalletEntry) : Prop :=
  ∀ (localeLe : String → String → Bool) (sha256 : String → Digest),
    let t := grantAll localeLe sha256 .empty grants
    CopyOf t (change t) ∧ Tampered userId t (change t) ∧
      (verifyRewardLedgerChain localeLe sha256 userId (change t)).ok = true

/-- A credit that an administrator has granted. -/
private def credit (now : ℕ) (key : String) : Grant where
  now
  input := {
    userId := 7
    walletType := "RIDER"
    entryType := "MANUAL_CREDIT"
    amount := 5
    sourceType := "MANUAL"
    sourceId := "support"
    idempotencyKey := key }

/-- Another amount in the entry under `id`. -/
private def setAmount (id : ℕ) (amount : ℚ) (t : Table RewardWalletEntry) :
    Table RewardWalletEntry :=
  t.modify id fun e => { e with amount }

private theorem copyOf_setAmount (id : ℕ) (amount : ℚ) (t : Table RewardWalletEntry) :
    CopyOf t (setAmount id amount t) := by
  intro j e' he'
  rw [setAmount, Table.get?_modify] at he'
  split_ifs at he' with hj
  · obtain ⟨e, he, rfl⟩ := Option.map_eq_some_iff.mp he'
    exact ⟨e, he, rfl, rfl⟩
  · exact ⟨e', he', rfl, rfl⟩

/-- The only entry of a wallet says 500 in place of 5, and the verifier does not look at it. -/
theorem first_entry_unnoticed : Unnoticed 7 [credit 1 "a"] (setAmount 0 500) := by
  intro localeLe sha256 t
  refine ⟨copyOf_setAmount 0 500 t, ⟨0, _, rfl, rfl, Or.inl ⟨_, rfl, ?_⟩⟩, ?_⟩
  · intro h
    have hamount : (500 : ℚ) = |5| := congrArg RewardEntryData.amount h
    norm_num at hamount
  · rw [← Bool.not_eq_false]
    intro hrefused
    obtain ⟨id, e, hget, -, -, hprev⟩ := verifyRewardLedgerChain_refused_iff.mp hrefused
    have honly := List.mem_singleton.mp (Table.mem_rows_iff.mpr hget)
    obtain ⟨-, rfl⟩ := Prod.mk.injEq .. ▸ honly
    have hnone := (entry_names localeLe sha256 1 (credit 1 "a").input
      (named_grantAll localeLe sha256 [])).1 rfl
    cases hprev.symm.trans (congrArg isFalsy hnone)

private def dictionaryOrder (l r : String) : Bool := decide (l ≤ r)

private def sixtyFourZeros : String → Digest := fun _ => Digest.zeros

theorem second_entry_refused :
    (verifyRewardLedgerChain dictionaryOrder sixtyFourZeros 7 (setAmount 1 500
      (grantAll dictionaryOrder sixtyFourZeros .empty [credit 1 "a", credit 2 "b"]))).ok = false :=
  (tampering_refused_iff dictionaryOrder sixtyFourZeros 7 [credit 1 "a", credit 2 "b"] _
    (copyOf_setAmount 1 500 _)).mpr
    ⟨1, _, rfl, rfl, _, rfl, by
      intro h
      have hid : some 0 = some 1 := congrArg (Option.map Prod.fst) h
      cases hid⟩

end Runs

end Deliivo

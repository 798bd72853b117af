import Deliivo.Rewards.Service
import Deliivo.Store.History
import Deliivo.Store.HashChain

/-!
# What the verifier makes of the reward chain

Grants one after another leave every wallet a linked chain of hashes: the first entry names nothing
and every other one the hash of the entry before it. The verifier skips an entry that names nothing
without taking its hash into account, so the entry after it is compared with nothing.

**The verifier accepts what the grants wrote exactly when no wallet of the user has got two
entries** (`chain_verified_iff`).

## Main definitions

* `Grant`, `grantAll`: grants one after another
* `WalletChain`: the entries of a wallet are a linked chain of digests

## Main results

* `walletChain_grant`: a grant keeps the chain
* `verifyEntries_ok_iff`: what the verifier accepts
* `chain_verified_iff`
-/

namespace Deliivo

/-! ## Grants -/

/-- A call of `grantWalletEntry` and the time of it. -/
structure Grant where
  now : ℕ
  input : GrantInput

section Chain

variable (localeLe : String → String → Bool) (sha256 : String → Digest)

/-- The wallets after grants one after another. -/
def grantAll (t : Table RewardWalletEntry) (grants : List Grant) : Table RewardWalletEntry :=
  History.after (fun t g => (grantWalletEntry localeLe sha256 g.now g.input t).1) t grants

/-- Whether a grant is one to this wallet. -/
def Grant.isTo (g : Grant) (userId : ℕ) (walletType : WalletType) : Bool :=
  g.input.userId == userId && normalizeWalletType g.input.walletType == walletType

/-- The entries of a wallet in the order they were written. -/
def wallet (userId : ℕ) (walletType : WalletType) (t : Table RewardWalletEntry) :
    List RewardWalletEntry :=
  (walletEntries userId walletType t).map Prod.snd

def RewardWalletEntry.hash (e : RewardWalletEntry) : String := e.entryHash.getD ""

/-- The entries of a wallet are a linked chain of digests, the oldest first. -/
structure WalletChain (userId : ℕ) (walletType : WalletType) (t : Table RewardWalletEntry) :
    Prop where
  linked : HashChain.Linked RewardWalletEntry.previousHash RewardWalletEntry.hash none
    (wallet userId walletType t)
  hashed : ∀ e ∈ wallet userId walletType t, ∃ d : Digest, e.entryHash = some d.hex
  oldestFirst : (wallet userId walletType t).Pairwise fun e e' => e.createdAt < e'.createdAt

variable {localeLe sha256} {userId : ℕ} {walletType : WalletType} {t : Table RewardWalletEntry}

theorem Digest.hex_ne_empty (d : Digest) : d.hex ≠ "" := by
  intro h
  have hlen := d.length_eq
  rw [h] at hlen
  simp at hlen

/-! ## The latest entry -/

theorem newestFirst_trans (a b c : ℕ × RewardWalletEntry) (hab : newestFirst a b = true)
    (hbc : newestFirst b c = true) : newestFirst a c = true := by
  simp only [newestFirst, Bool.or_eq_true, decide_eq_true_eq, Bool.and_eq_true, beq_iff_eq]
    at hab hbc ⊢
  omega

theorem newestFirst_total (a b : ℕ × RewardWalletEntry) :
    (newestFirst a b || newestFirst b a) = true := by
  simp only [newestFirst, Bool.or_eq_true, decide_eq_true_eq, Bool.and_eq_true, beq_iff_eq]
  omega

/-- In a wallet whose entries are in order of time the latest entry is the last one. -/
theorem loadLatestRewardEntry_eq
    (h : (wallet userId walletType t).Pairwise fun e e' => e.createdAt < e'.createdAt) :
    (loadLatestRewardEntry userId walletType t).map Prod.snd =
      (wallet userId walletType t).getLast? := by
  unfold wallet at h ⊢
  unfold loadLatestRewardEntry
  generalize walletEntries userId walletType t = rows at h ⊢
  have hsorted := List.pairwise_mergeSort newestFirst_trans newestFirst_total rows
  have hmem : ∀ r, r ∈ rows.mergeSort newestFirst ↔ r ∈ rows := fun r => List.mem_mergeSort
  rcases List.eq_nil_or_concat' rows with rfl | ⟨older, last, rfl⟩
  · simp
  · rw [List.map_append, List.pairwise_append] at h
    cases hs : (older ++ [last]).mergeSort newestFirst with
    | nil =>
      have : last ∈ ([] : List (ℕ × RewardWalletEntry)) := hs ▸ (hmem last).mpr (by simp)
      simp at this
    | cons head rest =>
      rw [hs, List.pairwise_cons] at hsorted
      have hhead : head ∈ older ++ [last] := (hmem head).mp (hs ▸ List.mem_cons_self)
      rcases List.mem_append.mp hhead with hold | hlast
      · -- an older entry would be strictly older than the last one
        have hlt : head.2.createdAt < last.2.createdAt :=
          h.2.2 head.2 (List.mem_map_of_mem hold) last.2 (by simp)
        have hlast : last ∈ head :: rest := hs ▸ (hmem last).mpr (by simp)
        rcases List.mem_cons.mp hlast with rfl | hrest
        · exact absurd hlt (lt_irrefl _)
        · have hle := hsorted.1 last hrest
          simp only [newestFirst, Bool.or_eq_true, decide_eq_true_eq, Bool.and_eq_true,
            beq_iff_eq] at hle
          omega
      · obtain rfl := List.mem_singleton.mp hlast
        simp

/-! ## One grant -/

/-- No entry has the idempotency key. -/
def KeyFree (key : String) (t : Table RewardWalletEntry) : Prop :=
  ∀ r ∈ t.rows, r.2.idempotencyKey ≠ key

theorem grantWalletEntry_of_keyFree {now : ℕ} {input : GrantInput}
    (h : KeyFree input.idempotencyKey t) :
    (grantWalletEntry localeLe sha256 now input t).1 =
      t.insert t.nextKey (input.entry localeLe sha256 now t) := by
  have hnone : (t.filter fun _ e => e.idempotencyKey == input.idempotencyKey) = [] := by
    refine List.filter_eq_nil_iff.mpr fun r hr => ?_
    simpa using h r hr
  rw [grantWalletEntry, if_neg (not_not.mpr hnone)]

theorem wallet_grant {g : Grant} (h : KeyFree g.input.idempotencyKey t) :
    wallet userId walletType (grantWalletEntry localeLe sha256 g.now g.input t).1 =
      wallet userId walletType t ++
        if g.isTo userId walletType then [g.input.entry localeLe sha256 g.now t] else [] := by
  rw [grantWalletEntry_of_keyFree h, wallet, walletEntries, Table.filter, Table.insert_nextKey_rows,
    List.filter_append, List.map_append]
  refine congrArg _ ?_
  have hto : (g.input.entry localeLe sha256 g.now t).userId = g.input.userId ∧
      (g.input.entry localeLe sha256 g.now t).walletType =
        normalizeWalletType g.input.walletType := ⟨rfl, rfl⟩
  by_cases hg : g.isTo userId walletType = true
  · rw [if_pos hg, List.filter_cons_of_pos (by rw [hto.1, hto.2]; exact hg)]
    rfl
  · rw [if_neg hg, List.filter_cons_of_neg (by rw [hto.1, hto.2]; exact hg)]
    rfl

theorem keyFree_grant {g : Grant} {key : String} (h : KeyFree key t)
    (hg : KeyFree g.input.idempotencyKey t) (hne : g.input.idempotencyKey ≠ key) :
    KeyFree key (grantWalletEntry localeLe sha256 g.now g.input t).1 := by
  intro r hr
  rw [grantWalletEntry_of_keyFree hg, Table.insert_nextKey_rows] at hr
  rcases List.mem_append.mp hr with hr | hr
  · exact h r hr
  · obtain rfl := List.mem_singleton.mp hr
    exact hne

/-- What the new entry of a chain names. -/
theorem entry_previousHash {g : Grant} (hg : g.isTo userId walletType = true)
    (h : WalletChain userId walletType t) :
    (g.input.entry localeLe sha256 g.now t).previousHash =
      HashChain.lastHash RewardWalletEntry.hash none (wallet userId walletType t) := by
  simp only [Grant.isTo, Bool.and_eq_true, beq_iff_eq] at hg
  obtain ⟨rfl, rfl⟩ := hg
  have hlatest := loadLatestRewardEntry_eq h.oldestFirst
  show ((loadLatestRewardEntry _ _ t).bind fun r => r.2.entryHash) = _
  rcases List.eq_nil_or_concat' (wallet g.input.userId
    (normalizeWalletType g.input.walletType) t) with hw | ⟨older, last, hw⟩
  · rw [hw] at hlatest ⊢
    rw [Option.map_eq_none_iff.mp hlatest]
    rfl
  · obtain ⟨d, hd⟩ := h.hashed last (by rw [hw]; simp)
    rw [hw] at hlatest ⊢
    rw [List.getLast?_concat, Option.map_eq_some_iff] at hlatest
    obtain ⟨r, hr, rfl⟩ := hlatest
    rw [hr, HashChain.lastHash_concat, RewardWalletEntry.hash, hd]
    exact hd

variable (localeLe sha256) in
/-- **A grant keeps the chain** of every wallet that has no entry as late as it. -/
theorem walletChain_grant {g : Grant} (hkey : KeyFree g.input.idempotencyKey t)
    (h : WalletChain userId walletType t)
    (htime : ∀ e ∈ wallet userId walletType t, e.createdAt < g.now) :
    WalletChain userId walletType (grantWalletEntry localeLe sha256 g.now g.input t).1 := by
  by_cases hg : g.isTo userId walletType = true
  · have hw : wallet userId walletType (grantWalletEntry localeLe sha256 g.now g.input t).1 =
        wallet userId walletType t ++ [g.input.entry localeLe sha256 g.now t] := by
      rw [wallet_grant hkey, if_pos hg]
    constructor
    · rw [hw, HashChain.linked_concat]
      exact ⟨h.linked, entry_previousHash hg h⟩
    · intro e he
      rw [hw] at he
      rcases List.mem_append.mp he with he | he
      · exact h.hashed e he
      · obtain rfl := List.mem_singleton.mp he
        exact ⟨_, rfl⟩
    · rw [hw, List.pairwise_append]
      refine ⟨h.oldestFirst, List.pairwise_singleton _ _, fun e he e' he' => ?_⟩
      obtain rfl := List.mem_singleton.mp he'
      exact htime e he
  · have hw : wallet userId walletType (grantWalletEntry localeLe sha256 g.now g.input t).1 =
        wallet userId walletType t := by
      rw [wallet_grant hkey, if_neg hg, List.append_nil]
    exact ⟨hw ▸ h.linked, hw ▸ h.hashed, hw ▸ h.oldestFirst⟩

/-! ## A sequence of grants -/

variable (localeLe sha256) in
/-- What grants one after another leave in a wallet that had no entries as late as the first. -/
theorem walletChain_grantAll {grants : List Grant} (h : WalletChain userId walletType t)
    (hfree : ∀ g ∈ grants, KeyFree g.input.idempotencyKey t)
    (hkeys : (grants.map fun g => g.input.idempotencyKey).Nodup)
    (htimes : (grants.map Grant.now).Pairwise (· < ·))
    (hlate : ∀ g ∈ grants, ∀ e ∈ wallet userId walletType t, e.createdAt < g.now) :
    WalletChain userId walletType (grantAll localeLe sha256 t grants) ∧
      (wallet userId walletType (grantAll localeLe sha256 t grants)).length =
        (wallet userId walletType t).length +
          grants.countP fun g => g.isTo userId walletType := by
  induction grants generalizing t with
  | nil => exact ⟨h, rfl⟩
  | cons g grants ih =>
    have hg := hfree g List.mem_cons_self
    rw [List.map_cons, List.nodup_cons] at hkeys
    rw [List.map_cons, List.pairwise_cons] at htimes
    -- one grant lengthens the chain of its own wallet; later grants find keys and times still free
    have hchain := walletChain_grant localeLe sha256 hg h
      (hlate g List.mem_cons_self)
    obtain ⟨hrest, hlen⟩ := ih hchain
      (fun g' hg' => keyFree_grant (hfree g' (List.mem_cons_of_mem _ hg')) hg
        fun heq => hkeys.1 (heq ▸ List.mem_map_of_mem hg'))
      hkeys.2 htimes.2 fun g' hg' e he => by
        rw [wallet_grant hg] at he
        rcases List.mem_append.mp he with he | he
        · exact hlate g' (List.mem_cons_of_mem _ hg') e he
        · split_ifs at he with hto
          · obtain rfl := List.mem_singleton.mp he
            exact htimes.1 _ (List.mem_map_of_mem hg')
          · cases he
    refine ⟨hrest, hlen.trans ?_⟩
    rw [wallet_grant hg, List.length_append, List.countP_cons, add_assoc]
    refine congrArg _ ?_
    split_ifs <;> simp [Nat.add_comm]

/-! ## The verifier -/

/-- The verifier accepts exactly the entries none of which names something: the first that does is
compared with nothing. -/
theorem verifyEntries_ok_iff (entries : List (ℕ × RewardWalletEntry)) :
    (verifyEntries localeLe sha256 entries fun _ => none).ok = true ↔
      ∀ r ∈ entries, isFalsy r.2.entryHash = true ∨ isFalsy r.2.previousHash = true := by
  induction entries with
  | nil => simp [verifyEntries]
  | cons r entries ih =>
    obtain ⟨id, entry⟩ := r
    rw [List.forall_mem_cons, verifyEntries]
    by_cases hskip : (isFalsy entry.entryHash || isFalsy entry.previousHash) = true
    · rw [if_pos hskip, ih]
      exact (and_iff_right (Bool.or_eq_true _ _ ▸ hskip)).symm
    · rw [if_neg hskip]
      have hnamed : entry.previousHash ≠ none := by
        intro hnone
        rw [hnone] at hskip
        exact hskip (Bool.or_true _)
      rw [if_pos (Or.inl hnamed)]
      refine iff_of_false (by simp) ?_
      rintro ⟨hhead, -⟩
      exact hskip (Bool.or_eq_true _ _ ▸ hhead)

/-- In a chain the entries that the verifier skips are those that name nothing. -/
theorem WalletChain.skipped_iff (h : WalletChain userId walletType t) :
    (∀ e ∈ wallet userId walletType t,
      isFalsy e.entryHash = true ∨ isFalsy e.previousHash = true) ↔
      (wallet userId walletType t).length ≤ 1 := by
  rw [← HashChain.forall_prev_eq_none_iff h.linked]
  refine forall₂_congr fun e he => ?_
  obtain ⟨d, hd⟩ := h.hashed e he
  have hhash : isFalsy e.entryHash ≠ true := by
    rw [hd]
    simpa [isFalsy] using d.hex_ne_empty
  rw [or_iff_right hhash]
  rcases h.linked.prev_eq e he with hnone | ⟨e', he', hsome⟩
  · exact iff_of_true (by rw [hnone]; rfl) hnone
  · obtain ⟨d', hd'⟩ := h.hashed e' he'
    rw [hsome, RewardWalletEntry.hash, hd']
    refine iff_of_false ?_ (by simp)
    simpa [isFalsy] using d'.hex_ne_empty

/-- The verifier looks at the entries of all wallets of the user. -/
theorem verifyRewardLedgerChain_ok_iff :
    (verifyRewardLedgerChain localeLe sha256 userId t).ok = true ↔
      ∀ walletType, ∀ e ∈ wallet userId walletType t,
        isFalsy e.entryHash = true ∨ isFalsy e.previousHash = true := by
  rw [verifyRewardLedgerChain, verifyEntries_ok_iff]
  simp only [List.mem_mergeSort, wallet, walletEntries, Table.filter, List.mem_map, List.mem_filter,
    Bool.and_eq_true, beq_iff_eq]
  constructor
  · rintro h walletType e ⟨r, ⟨hr, huser, -⟩, rfl⟩
    exact h r ⟨hr, huser⟩
  · rintro h r ⟨hr, huser⟩
    exact h r.2.walletType r.2 ⟨r, ⟨hr, huser, rfl⟩, rfl⟩

theorem walletChain_of_nil (h : wallet userId walletType t = []) :
    WalletChain userId walletType t := by
  constructor <;> simp [h, HashChain.Linked]

/-- **The verifier accepts what grants have written to empty wallets exactly when no wallet of the
user has got two entries.** -/
theorem chain_verified_iff (localeLe : String → String → Bool) (sha256 : String → Digest)
    (userId : ℕ) (t : Table RewardWalletEntry) (grants : List Grant)
    (hempty : ∀ walletType, wallet userId walletType t = [])
    (hfree : ∀ g ∈ grants, KeyFree g.input.idempotencyKey t)
    (hkeys : (grants.map fun g => g.input.idempotencyKey).Nodup)
    (htimes : (grants.map Grant.now).Pairwise (· < ·)) :
    (verifyRewardLedgerChain localeLe sha256 userId (grantAll localeLe sha256 t grants)).ok = true ↔
      ∀ walletType, (grants.countP fun g => g.isTo userId walletType) ≤ 1 := by
  rw [verifyRewardLedgerChain_ok_iff]
  refine forall_congr' fun walletType => ?_
  obtain ⟨hchain, hlen⟩ := walletChain_grantAll localeLe sha256
    (walletChain_of_nil (hempty walletType)) hfree hkeys htimes
    fun g _ e he => by simp [hempty walletType] at he
  rw [hchain.skipped_iff, hlen, hempty walletType]
  simp

end Chain

/-! ## Runs -/

section Runs

private def keyOrder (l r : String) : Bool := decide (l ≤ r)

private def zeros : String → Digest := fun _ => Digest.zeros

private def referral (now : ℕ) (key : String) : Grant where
  now
  input := {
    userId := 7
    walletType := "RIDER"
    entryType := "MANUAL_CREDIT"
    amount := 5
    sourceType := "MANUAL"
    sourceId := "support"
    idempotencyKey := key }

theorem one_grant_verified :
    (verifyRewardLedgerChain keyOrder zeros 7
      (grantAll keyOrder zeros .empty [referral 1 "a"])).ok = true :=
  (chain_verified_iff keyOrder zeros 7 .empty [referral 1 "a"] (fun _ => rfl)
    (fun _ _ _ hr => absurd hr List.not_mem_nil) (List.nodup_singleton _)
    (List.pairwise_singleton _ _)).mpr fun _ => List.countP_le_length

/-- Two grants to one wallet, one after the other: the second entry names the first, and the
verifier compares it with nothing. -/
theorem two_grants_not_verified :
    let grants := [referral 1 "a", referral 2 "b"]
    (grants.map fun g => g.input.idempotencyKey).Nodup ∧
      (grants.map Grant.now).Pairwise (· < ·) ∧
      (verifyRewardLedgerChain keyOrder zeros 7 (grantAll keyOrder zeros .empty grants)).ok =
        false := by
  intro grants
  have hkeys : (grants.map fun g => g.input.idempotencyKey).Nodup := by decide
  have htimes : (grants.map Grant.now).Pairwise (· < ·) := by decide
  refine ⟨hkeys, htimes, ?_⟩
  obtain ⟨hchain, hlen⟩ := walletChain_grantAll keyOrder zeros
    (walletChain_of_nil (rfl : wallet 7 .rider .empty = []))
    (fun _ _ _ hr => absurd hr List.not_mem_nil) hkeys htimes
    fun _ _ _ he => absurd he List.not_mem_nil
  have htwo : (grants.countP fun g => g.isTo 7 .rider) = 2 := by decide
  rw [htwo] at hlen
  refine Bool.eq_false_iff.mpr fun hok => ?_
  have hle := hchain.skipped_iff.mp (verifyRewardLedgerChain_ok_iff.mp hok .rider)
  rw [hlen] at hle
  exact absurd hle (by decide)

end Runs

end Deliivo

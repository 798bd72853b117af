import Deliivo.Rewards.Manual

/-!
# The balance of a wallet under manual rewards and reversals

The balances that are shown are sums over the entries, a debit with its amount taken off. A manual
reward is written with the absolute value of its amount and so always as a credit; a reversal is
written with the direction and the amount that undo the entry it names, and under a key that only
one reversal of the entry can have.

**The balances follow the amounts that were entered exactly when no reward was created with a
negative amount** (`balance_law_iff`).

## Main definitions

* `RewardCall.step`, `RewardCall.created`: one call, and whether it has created an entry
* `entitled`: what a sequence of calls should have added to a balance
* `BalanceLaw`: the balances are what the calls should have made them, and no entry has two reversals

## Main results

* `balance_eq_sum`: the totals are sums over the entries
* `callOutcome`: a call changes nothing, or it adds one entry
* `balance_law_iff`
-/

namespace Deliivo

/-! ## Maps -/

section Maps

variable {α : Type} {key : String} {value : α} {entries : List (String × α)}

theorem mem_iff_lookup (h : (entries.map Prod.fst).Nodup) :
    (key, value) ∈ entries ↔ entries.lookup key = some value := by
  induction entries with
  | nil => simp
  | cons entry entries ih =>
    obtain ⟨k, v⟩ := entry
    rw [List.map_cons, List.nodup_cons] at h
    rw [List.mem_cons, List.lookup_cons]
    by_cases hk : key = k
    · subst hk
      have hnot : (key, value) ∉ entries := fun hmem => h.1 (List.mem_map.mpr ⟨_, hmem, rfl⟩)
      simp [hnot, eq_comm]
    · have hbeq : (key == k) = false := by simpa using hk
      simp [hk, hbeq, ih h.2]

theorem lookup_setKey (j : String) :
    (setKey key value entries).lookup j = if j = key then some value else entries.lookup j := by
  unfold setKey
  split_ifs with hany hj hj
  · -- the key is there and is the one asked for
    subst hj
    induction entries with
    | nil => simp at hany
    | cons entry entries ih =>
      obtain ⟨k, v⟩ := entry
      by_cases hk : k = j
      · simp [hk]
      · have hbeq : (j == k) = false := by simpa using Ne.symm hk
        have hrest : (entries.any fun entry => entry.1 == j) = true := by simpa [hk] using hany
        simp only [List.map_cons, if_neg hk, List.lookup_cons, hbeq]
        exact ih hrest
  · -- the key is there, another one is asked for
    clear hany
    induction entries with
    | nil => rfl
    | cons entry entries ih =>
      obtain ⟨k, v⟩ := entry
      by_cases hk : k = key
      · subst hk
        have hbeq : (j == k) = false := by simpa using hj
        simp only [List.map_cons, if_true, List.lookup_cons, hbeq]
        exact ih
      · simp only [List.map_cons, if_neg hk, List.lookup_cons, ih]
  · subst hj
    have hnone : entries.lookup j = none := by
      rw [List.lookup_eq_none_iff]
      intro entry hentry
      have hne : entry.1 ≠ j := by
        intro heq
        exact hany (List.any_eq_true.mpr ⟨entry, hentry, beq_iff_eq.mpr heq⟩)
      simpa using Ne.symm hne
    simp [List.lookup_append, hnone]
  · have hbeq : (j == key) = false := by simpa using hj
    simp [List.lookup_append, List.lookup_cons, hbeq]

theorem nodup_setKey (h : (entries.map Prod.fst).Nodup) :
    ((setKey key value entries).map Prod.fst).Nodup := by
  unfold setKey
  split_ifs with hany
  · have hkeys : (entries.map fun entry => if entry.1 = key then (key, value) else entry).map
        Prod.fst = entries.map Prod.fst := by
      rw [List.map_map]
      refine List.map_congr_left fun entry _ => ?_
      by_cases hk : entry.1 = key <;> simp [hk]
    rwa [hkeys]
  · rw [List.map_append, List.map_singleton, List.nodup_append]
    refine ⟨h, List.nodup_singleton _, fun j hj k hk hjk => hany ?_⟩
    obtain ⟨entry, hentry, rfl⟩ := List.mem_map.mp hj
    rw [List.mem_singleton.mp hk] at hjk
    exact List.any_eq_true.mpr ⟨entry, hentry, beq_iff_eq.mpr hjk⟩

theorem mem_setKey {entry : String × α} (h : entry ∈ setKey key value entries) :
    entry = (key, value) ∨ entry ∈ entries := by
  unfold setKey at h
  split_ifs at h
  · obtain ⟨old, hold, rfl⟩ := List.mem_map.mp h
    by_cases hk : old.1 = key
    · exact Or.inl (by simp [hk])
    · exact Or.inr (by simpa [hk] using hold)
  · rcases List.mem_append.mp h with h | h
    · exact Or.inr h
    · exact Or.inl (List.mem_singleton.mp h)

end Maps

/-! ## Totals are sums -/

/-- What an entry adds to the balance of its wallet. -/
def RewardWalletEntry.signed (e : RewardWalletEntry) : ℚ :=
  if e.direction = .debit then -e.amount else e.amount

/-- What an entry adds to one balance of one user. -/
def RewardWalletEntry.share (userId : ℕ) (walletType : WalletType) (currency : String)
    (e : RewardWalletEntry) : ℚ :=
  if e.userId = userId ∧ e.walletType = walletType ∧ e.currency = currency then e.signed else 0

theorem totalKey_inj {w w' : WalletType} {c c' : String} (h : totalKey w c = totalKey w' c') :
    w = w' ∧ c = c' := by
  have hlist := congrArg String.toList h
  cases w <;> cases w' <;> simp [totalKey, WalletType.text] at hlist ⊢ <;>
    exact String.toList_inj.mp hlist

/-- A map of totals: every total is under its own key. -/
structure KeyedTotals (totals : List (String × WalletTotal)) : Prop where
  nodup : (totals.map Prod.fst).Nodup
  keyed : ∀ total ∈ totals, total.1 = totalKey total.2.walletType total.2.currency

/-- The balance in a map of totals. -/
def balanceAt (totals : List (String × WalletTotal)) (key : String) : ℚ :=
  (totals.lookup key).elim 0 WalletTotal.balance

section Totals

variable {totals : List (String × WalletTotal)} {e : RewardWalletEntry}

/-- The total that an entry is added to belongs to its wallet and currency. -/
theorem KeyedTotals.current (h : KeyedTotals totals) :
    let current := (totals.lookup (totalKey e.walletType e.currency)).getD
      { walletType := e.walletType, currency := e.currency }
    current.walletType = e.walletType ∧ current.currency = e.currency := by
  intro current
  cases hl : totals.lookup (totalKey e.walletType e.currency) with
  | none => simp [current, hl]
  | some total =>
    have hkey := h.keyed _ ((mem_iff_lookup h.nodup).mpr hl)
    obtain ⟨hw, hc⟩ := totalKey_inj hkey
    simp only [current, hl, Option.getD_some]
    exact ⟨hw.symm, hc.symm⟩

theorem keyedTotals_add (h : KeyedTotals totals) : KeyedTotals (addToTotals totals e) := by
  refine ⟨nodup_setKey h.nodup, fun total htotal => ?_⟩
  rcases mem_setKey htotal with rfl | hold
  · obtain ⟨hw, hc⟩ := h.current (e := e)
    dsimp only
    split_ifs <;> simp only [hw, hc]
  · exact h.keyed total hold

theorem balanceAt_add (key : String) :
    balanceAt (addToTotals totals e) key =
      balanceAt totals key + if totalKey e.walletType e.currency = key then e.signed else 0 := by
  unfold balanceAt addToTotals
  dsimp only
  rw [lookup_setKey]
  by_cases hkey : totalKey e.walletType e.currency = key
  · subst hkey
    rw [if_pos rfl, if_pos rfl, RewardWalletEntry.signed]
    cases totals.lookup (totalKey e.walletType e.currency) <;> split_ifs <;> simp [sub_eq_add_neg]
  · rw [if_neg (Ne.symm hkey), if_neg hkey, add_zero]

theorem balanceAt_foldl (entries : List RewardWalletEntry) (key : String)
    (h : KeyedTotals totals) :
    KeyedTotals (entries.foldl addToTotals totals) ∧
      balanceAt (entries.foldl addToTotals totals) key = balanceAt totals key +
        (entries.map fun e => if totalKey e.walletType e.currency = key then e.signed else 0).sum := by
  induction entries generalizing totals with
  | nil => exact ⟨h, by simp⟩
  | cons e entries ih =>
    obtain ⟨hkeyed, hsum⟩ := ih (keyedTotals_add h (e := e))
    refine ⟨hkeyed, hsum.trans ?_⟩
    rw [balanceAt_add, List.map_cons, List.sum_cons, add_assoc]

/-- The total of a wallet and a currency, in whatever order the totals are listed. -/
theorem KeyedTotals.find?_eq (h : KeyedTotals totals) {l : List WalletTotal}
    (hl : ∀ total, total ∈ l ↔ total ∈ totals.map Prod.snd) (w : WalletType) (c : String) :
    l.find? (fun total => total.walletType == w && total.currency == c) =
      totals.lookup (totalKey w c) := by
  have hmatch : ∀ total : WalletTotal, total ∈ l → total.walletType = w → total.currency = c →
      totals.lookup (totalKey w c) = some total := by
    rintro total hmem rfl rfl
    obtain ⟨⟨key, _⟩, hmem', rfl⟩ := List.mem_map.mp ((hl total).mp hmem)
    rw [← mem_iff_lookup h.nodup]
    have hkey := h.keyed _ hmem'
    dsimp only at hkey ⊢
    rwa [← hkey]
  cases hfind : l.find? (fun total => total.walletType == w && total.currency == c) with
  | some total =>
    have hp := List.find?_some hfind
    rw [Bool.and_eq_true, beq_iff_eq, beq_iff_eq] at hp
    exact (hmatch total (List.mem_of_find?_eq_some hfind) hp.1 hp.2).symm
  | none =>
    symm
    rw [Option.eq_none_iff_forall_ne_some]
    intro total hlookup
    have hmem := (mem_iff_lookup h.nodup).mpr hlookup
    obtain ⟨hw, hc⟩ := totalKey_inj (h.keyed _ hmem)
    have hno := List.find?_eq_none.mp hfind total ((hl total).mpr (List.mem_map.mpr ⟨_, hmem, rfl⟩))
    rw [Bool.and_eq_true, beq_iff_eq, beq_iff_eq] at hno
    exact hno ⟨hw.symm, hc.symm⟩

end Totals

section Balance

variable (localeLe : String → String → Bool) (userId : ℕ) (walletType : WalletType)
  (currency : String) (t : Table RewardWalletEntry)

/-- **A balance is the sum of what the entries add to it.** -/
theorem balance_eq_sum : balance localeLe userId walletType currency t =
    (t.rows.map fun r => r.2.share userId walletType currency).sum := by
  have hnil : KeyedTotals [] := ⟨List.nodup_nil, fun _ h => absurd h List.not_mem_nil⟩
  obtain ⟨hkeyed, hsum⟩ := balanceAt_foldl (loadWalletEntries userId t)
    (totalKey walletType currency) hnil
  have hfind := hkeyed.find?_eq (l := walletTotals localeLe (loadWalletEntries userId t))
    (fun total => List.mem_mergeSort) walletType currency
  rw [balance, hfind]
  refine hsum.trans ?_
  -- the order of the entries does not change their sum
  have hperm : (loadWalletEntries userId t).Perm
      ((t.filter fun _ e => e.userId == userId).map Prod.snd) := List.mergeSort_perm _ _
  rw [(hperm.map _).sum_eq]
  show 0 + _ = _
  rw [zero_add, Table.filter]
  -- row by row: an entry of another user or another wallet adds nothing
  induction t.rows with
  | nil => rfl
  | cons r rows ih =>
    have hshare : r.2.share userId walletType currency =
        if r.2.userId = userId then
          if totalKey r.2.walletType r.2.currency = totalKey walletType currency then r.2.signed
          else 0
        else 0 := by
      have hiff : totalKey r.2.walletType r.2.currency = totalKey walletType currency ↔
          r.2.walletType = walletType ∧ r.2.currency = currency :=
        ⟨totalKey_inj, by rintro ⟨hw, hc⟩; rw [hw, hc]⟩
      rw [RewardWalletEntry.share]
      simp only [hiff, ite_and]
    rw [List.map_cons, List.sum_cons, ← ih, hshare]
    by_cases huser : r.2.userId = userId
    · rw [List.filter_cons_of_pos (by simpa using huser), if_pos huser]
      rfl
    · rw [List.filter_cons_of_neg (by simpa using huser), if_neg huser, zero_add]

/-- What a new entry adds to the balances. -/
theorem balance_insert (e : RewardWalletEntry) :
    balance localeLe userId walletType currency (t.insert t.nextKey e) =
      balance localeLe userId walletType currency t + e.share userId walletType currency := by
  rw [balance_eq_sum, balance_eq_sum, Table.insert_nextKey_rows, List.map_append, List.sum_append]
  simp

end Balance

/-! ## Calls -/

inductive RewardCall
  | grantManualReward (ctx : RewardContext) (input : ManualRewardInput) (adminId : Option ℕ)
  | reverseRewardEntry (ctx : RewardContext) (input : ReversalInput) (adminId : Option ℕ)

/-- A manual reward that is not meant to take anything away. -/
def RewardCall.Credits : RewardCall → Prop
  | .grantManualReward _ input _ => 0 ≤ input.amount
  | .reverseRewardEntry _ _ _ => True

/-- What a call should add to one balance of one user where it creates an entry: the amount that
was entered, or what undoes the entry it names. -/
def RewardCall.entitled (userId : ℕ) (walletType : WalletType) (currency : String)
    (t : Table RewardWalletEntry) : RewardCall → ℚ
  | .grantManualReward _ input _ =>
    if input.userId = userId ∧ normalizeWalletType (input.walletType.getD "") = walletType ∧
        normalizeCurrency input.currency = currency then input.amount else 0
  | .reverseRewardEntry _ input _ =>
    (t.get? input.entryId).elim 0 fun original => -original.share userId walletType currency

section Calls

variable (localeLe : String → String → Bool) (sha256 : String → Digest) (numberText : ℚ → String)

def RewardCall.run (t : Table RewardWalletEntry) :
    RewardCall → Except Err (Table RewardWalletEntry × Bool)
  | .grantManualReward ctx input adminId =>
    Deliivo.grantManualReward localeLe sha256 numberText ctx input adminId t
  | .reverseRewardEntry ctx input adminId =>
    Deliivo.reverseRewardEntry localeLe sha256 ctx input adminId t

/-- The wallets after a call; one that throws leaves them alone. -/
def RewardCall.step (t : Table RewardWalletEntry) (call : RewardCall) : Table RewardWalletEntry :=
  match call.run localeLe sha256 numberText t with
  | .ok (t', _) => t'
  | .error _ => t

/-- Whether a call creates an entry. -/
def RewardCall.created (t : Table RewardWalletEntry) (call : RewardCall) : Bool :=
  match call.run localeLe sha256 numberText t with
  | .ok (_, created) => created
  | .error _ => false

/-- What a sequence of calls should add to one balance of one user. -/
def entitled (userId : ℕ) (walletType : WalletType) (currency : String) :
    Table RewardWalletEntry → List RewardCall → ℚ
  | _, [] => 0
  | t, call :: calls =>
    (if call.created localeLe sha256 numberText t
      then call.entitled userId walletType currency t else 0) +
      entitled userId walletType currency (call.step localeLe sha256 numberText t) calls

/-- Every balance is what the calls should have made of it, and no entry has two reversals. -/
structure BalanceLaw (t : Table RewardWalletEntry) (calls : List RewardCall) : Prop where
  balances : ∀ userId walletType currency,
    balance localeLe userId walletType currency
        (History.after (RewardCall.step localeLe sha256 numberText) t calls) =
      balance localeLe userId walletType currency t +
        entitled localeLe sha256 numberText userId walletType currency t calls
  reversedOnce : ∀ id j e j' e',
    let t' := History.after (RewardCall.step localeLe sha256 numberText) t calls
    t'.get? j = some e → t'.get? j' = some e' →
      e.reversalOfEntryId = some id → e'.reversalOfEntryId = some id → j = j'

end Calls

/-! ## What a call adds -/

/-- What `grantWalletEntry` keeps of the wallets: normalized currencies, keys that are not used
twice, and reversals under the key of the entry they reverse. -/
structure WellKept (t : Table RewardWalletEntry) : Prop where
  currency : ∀ id e, t.get? id = some e → normalizeCurrency (some e.currency) = e.currency
  keys : ∀ j e j' e', t.get? j = some e → t.get? j' = some e' →
    e.idempotencyKey = e'.idempotencyKey → j = j'
  reversals : ∀ id e original, t.get? id = some e → e.reversalOfEntryId = some original →
    e.idempotencyKey = reversalKey original

/-- What a manual reward adds beyond what was entered. -/
def RewardCall.excess (userId : ℕ) (walletType : WalletType) (currency : String) : RewardCall → ℚ
  | .grantManualReward _ input _ =>
    if input.userId = userId ∧ normalizeWalletType (input.walletType.getD "") = walletType ∧
        normalizeCurrency input.currency = currency then |input.amount| - input.amount else 0
  | .reverseRewardEntry _ _ _ => 0

section Adding

variable {localeLe : String → String → Bool} {sha256 : String → Digest} {numberText : ℚ → String}
  {t : Table RewardWalletEntry} {call : RewardCall} {userId : ℕ} {walletType : WalletType}
  {currency : String}

theorem entry_data (now : ℕ) (input : GrantInput) :
    (input.entry localeLe sha256 now t).toRewardEntryData = input.data := rfl

theorem data_currency (input : GrantInput) :
    input.data.currency = normalizeCurrency input.currency := by
  simp only [GrantInput.data]

/-- The entry of a grant adds the amount that was asked for. -/
theorem signed_entry (now : ℕ) (input : GrantInput) :
    (input.entry localeLe sha256 now t).signed = input.amount := by
  have hdirection : (input.entry localeLe sha256 now t).direction = walletDirection input.amount :=
    rfl
  have hamount : (input.entry localeLe sha256 now t).amount = |input.amount| := rfl
  rw [RewardWalletEntry.signed, hdirection, hamount, walletDirection]
  by_cases h : 0 ≤ input.amount
  · rw [if_pos h, if_neg (by decide), abs_of_nonneg h]
  · rw [if_neg h, if_pos rfl, abs_of_neg (not_le.mp h), neg_neg]

theorem share_entry (now : ℕ) (input : GrantInput) :
    (input.entry localeLe sha256 now t).share userId walletType currency =
      if input.userId = userId ∧ normalizeWalletType input.walletType = walletType ∧
        normalizeCurrency input.currency = currency then input.amount else 0 := by
  have huser : (input.entry localeLe sha256 now t).userId = input.userId := rfl
  have hwallet : (input.entry localeLe sha256 now t).walletType =
    normalizeWalletType input.walletType := rfl
  have hcurrency : (input.entry localeLe sha256 now t).currency =
      normalizeCurrency input.currency := by
    rw [entry_data, data_currency]
  rw [RewardWalletEntry.share, signed_entry, huser, hwallet, hcurrency]

variable (localeLe sha256 numberText t call) in
/-- What a call makes of the wallets: nothing, or one entry more, under a key of its own and with
the amount that it should add and the excess. -/
inductive CallOutcome : Prop
  | nothing (created : call.created localeLe sha256 numberText t = false)
      (step : call.step localeLe sha256 numberText t = t)
  | entry (e : RewardWalletEntry) (created : call.created localeLe sha256 numberText t = true)
      (step : call.step localeLe sha256 numberText t = t.insert t.nextKey e)
      (free : KeyFree e.idempotencyKey t)
      (currency : normalizeCurrency (some e.currency) = e.currency)
      (reversal : ∀ original, e.reversalOfEntryId = some original →
        e.idempotencyKey = reversalKey original)
      (share : ∀ userId walletType currency, e.share userId walletType currency =
        call.entitled userId walletType currency t + call.excess userId walletType currency)

theorem callOutcome_error (err : Err) (h : call.run localeLe sha256 numberText t = .error err) :
    CallOutcome localeLe sha256 numberText t call :=
  .nothing (by simp only [RewardCall.created, h]) (by simp only [RewardCall.step, h])

theorem callOutcome_grant (now : ℕ) (input : GrantInput)
    (h : call.run localeLe sha256 numberText t =
      .ok (grantWalletEntry localeLe sha256 now input t))
    (hreversal : ∀ original, input.reversalOfEntryId = some original →
      input.idempotencyKey = reversalKey original)
    (hshare : ∀ userId walletType currency,
      (input.entry localeLe sha256 now t).share userId walletType currency =
        call.entitled userId walletType currency t + call.excess userId walletType currency) :
    CallOutcome localeLe sha256 numberText t call := by
  rcases grantWalletEntry_cases localeLe sha256 now input t with ⟨-, heq⟩ | ⟨hfree, heq⟩
  · rw [heq] at h
    exact .nothing (by simp only [RewardCall.created, h]) (by simp only [RewardCall.step, h])
  · rw [heq] at h
    refine .entry (input.entry localeLe sha256 now t) (by simp only [RewardCall.created, h])
      (by simp only [RewardCall.step, h]) ?_ ?_ ?_ hshare
    · rwa [entry_data]
    · rw [entry_data, data_currency]
      exact normalizeCurrency_idem input.currency
    · rw [entry_data]
      exact hreversal

variable (localeLe sha256 numberText) in
/-- **A call changes nothing, or it adds one entry.** -/
theorem callOutcome (h : WellKept t) (call : RewardCall) :
    CallOutcome localeLe sha256 numberText t call := by
  cases call with
  | grantManualReward ctx input adminId =>
    by_cases henabled : ctx.rewardsEnabled = false
    · exact callOutcome_error (.text "REWARDS_DISABLED") (by
        rw [RewardCall.run, grantManualReward, if_pos henabled])
    by_cases huser : ctx.isUser input.userId = false
    · exact callOutcome_error (.text "USER_NOT_FOUND") (by
        rw [RewardCall.run, grantManualReward, if_neg henabled, if_pos huser])
    refine callOutcome_grant ctx.now (input.grant numberText adminId ctx.randomUUID) ?_ ?_ ?_
    · rw [RewardCall.run, grantManualReward, if_neg henabled, if_neg huser]
    · intro original horiginal
      cases horiginal
    · intro userId walletType currency
      rw [share_entry]
      simp only [ManualRewardInput.grant, normalizeWalletType_text, RewardCall.entitled,
        RewardCall.excess]
      split_ifs <;> ring
  | reverseRewardEntry ctx input adminId =>
    by_cases henabled : ctx.rewardsEnabled = false
    · exact callOutcome_error (.text "REWARDS_DISABLED") (by
        rw [RewardCall.run, reverseRewardEntry, if_pos henabled])
    cases horiginal : t.get? input.entryId with
    | none =>
      exact callOutcome_error (.text "ENTRY_NOT_FOUND") (by
        rw [RewardCall.run, reverseRewardEntry, if_neg henabled, horiginal])
    | some original =>
      refine callOutcome_grant ctx.now (input.grant adminId original) ?_ ?_ ?_
      · rw [RewardCall.run, reverseRewardEntry, if_neg henabled, horiginal]
      · rintro _ ⟨⟩
        rfl
      · intro userId walletType currency
        rw [share_entry]
        simp only [ReversalInput.grant, normalizeWalletType_text, RewardCall.entitled,
          RewardCall.excess, horiginal, Option.elim_some, h.currency _ _ horiginal,
          RewardWalletEntry.share, RewardWalletEntry.signed]
        split_ifs <;> ring

/-- A call keeps the wallets well kept. -/
theorem wellKept_step (h : WellKept t) (call : RewardCall) :
    WellKept (call.step localeLe sha256 numberText t) := by
  rcases callOutcome localeLe sha256 numberText h call with
    ⟨-, heq⟩ | ⟨new, -, heq, hfree, hcurrency, hreversal, -⟩
  · rwa [heq]
  rw [heq]
  have hfresh : t.get? t.nextKey = none := Table.get?_of_nextKey_le le_rfl
  have hcases : ∀ id e, (t.insert t.nextKey new).get? id = some e →
      id = t.nextKey ∧ e = new ∨ t.get? id = some e := by
    intro id e he
    rw [Table.get?_insert hfresh] at he
    split_ifs at he with hid
    · exact Or.inl ⟨hid, (Option.some.inj he).symm⟩
    · exact Or.inr he
  constructor
  · intro id e he
    rcases hcases id e he with ⟨-, rfl⟩ | hold
    · exact hcurrency
    · exact h.currency id e hold
  · intro j e j' e' he he' hkey
    -- two rows of one key: the new row's key was free, so neither is new without the other
    rcases hcases j e he with ⟨rfl, rfl⟩ | hold <;>
      rcases hcases j' e' he' with ⟨rfl, rfl⟩ | hold'
    · rfl
    · exact absurd hkey.symm (hfree _ (Table.mem_rows_iff.mpr hold'))
    · exact absurd hkey (hfree _ (Table.mem_rows_iff.mpr hold))
    · exact h.keys j e j' e' hold hold' hkey
  · intro id e original he horiginal
    rcases hcases id e he with ⟨-, rfl⟩ | hold
    · exact hreversal original horiginal
    · exact h.reversals id e original hold horiginal

theorem excess_nonneg (call : RewardCall) : 0 ≤ call.excess userId walletType currency := by
  cases call with
  | grantManualReward ctx input adminId =>
    rw [RewardCall.excess]
    split_ifs
    · exact sub_nonneg.mpr (le_abs_self _)
    · rfl
  | reverseRewardEntry ctx input adminId => rfl

/-- Nothing is added in excess exactly where the reward is not negative. -/
theorem excess_eq_zero_iff (call : RewardCall) :
    (∀ userId walletType currency, call.excess userId walletType currency = 0) ↔ call.Credits := by
  cases call with
  | grantManualReward ctx input adminId =>
    constructor
    · intro h
      have hown := h input.userId (normalizeWalletType (input.walletType.getD ""))
        (normalizeCurrency input.currency)
      rw [RewardCall.excess, if_pos ⟨rfl, rfl, rfl⟩, sub_eq_zero] at hown
      exact abs_eq_self.mp hown
    · intro h userId walletType currency
      have habs : |input.amount| - input.amount = 0 := sub_eq_zero.mpr (abs_of_nonneg h)
      rw [RewardCall.excess, habs, ite_self]
  | reverseRewardEntry ctx input adminId => exact iff_of_true (fun _ _ _ => rfl) trivial

/-! ## Sequences of calls -/

variable (localeLe sha256 numberText) in
/-- What a sequence of calls adds beyond what it should. -/
def excess (userId : ℕ) (walletType : WalletType) (currency : String) :
    Table RewardWalletEntry → List RewardCall → ℚ
  | _, [] => 0
  | t, call :: calls =>
    (if call.created localeLe sha256 numberText t
      then call.excess userId walletType currency else 0) +
      excess userId walletType currency (call.step localeLe sha256 numberText t) calls

theorem balance_after (h : WellKept t) (calls : List RewardCall) :
    balance localeLe userId walletType currency
        (History.after (RewardCall.step localeLe sha256 numberText) t calls) =
      balance localeLe userId walletType currency t +
        entitled localeLe sha256 numberText userId walletType currency t calls +
        excess localeLe sha256 numberText userId walletType currency t calls := by
  induction calls generalizing t with
  | nil => simp [entitled, excess]
  | cons call calls ih =>
    rw [History.after_cons, ih (wellKept_step h call), entitled, excess]
    rcases callOutcome localeLe sha256 numberText h call with
      ⟨hno, heq⟩ | ⟨e, hyes, heq, -, -, -, hshare⟩
    · simp only [hno, heq, Bool.false_eq_true, if_false, zero_add]
    · simp only [hyes, heq, if_true, balance_insert, hshare]
      ring

theorem excess_seq_nonneg (calls : List RewardCall) :
    0 ≤ excess localeLe sha256 numberText userId walletType currency t calls := by
  induction calls generalizing t with
  | nil => rfl
  | cons call calls ih =>
    refine add_nonneg ?_ ih
    split_ifs
    · exact excess_nonneg call
    · rfl

theorem excess_seq_eq_zero_iff (calls : List RewardCall) :
    (∀ userId walletType currency,
        excess localeLe sha256 numberText userId walletType currency t calls = 0) ↔
      History.Each (RewardCall.step localeLe sha256 numberText)
        (fun t call => call.created localeLe sha256 numberText t = true → call.Credits) t calls := by
  induction calls generalizing t with
  | nil => exact iff_of_true (fun _ _ _ => rfl) trivial
  | cons call calls ih =>
    rw [History.Each, ← ih]
    have hsplit : ∀ userId walletType currency,
        excess localeLe sha256 numberText userId walletType currency t (call :: calls) = 0 ↔
          (if call.created localeLe sha256 numberText t
            then call.excess userId walletType currency else 0) = 0 ∧
          excess localeLe sha256 numberText userId walletType currency
            (call.step localeLe sha256 numberText t) calls = 0 := by
      intro userId walletType currency
      refine add_eq_zero_iff_of_nonneg ?_ (excess_seq_nonneg calls)
      split_ifs
      · exact excess_nonneg call
      · rfl
    simp only [hsplit, forall_and]
    refine and_congr_left' ?_
    cases hcreated : call.created localeLe sha256 numberText t with
    | false => simp
    | true => simpa using excess_eq_zero_iff call

end Adding

/-- **Calls one after another keep the balances at what was entered exactly when none of them
creates a reward with a negative amount.** -/
theorem balance_law_iff (localeLe : String → String → Bool) (sha256 : String → Digest)
    (numberText : ℚ → String) (t : Table RewardWalletEntry) (h : WellKept t)
    (calls : List RewardCall) :
    BalanceLaw localeLe sha256 numberText t calls ↔
      History.Each (RewardCall.step localeLe sha256 numberText)
        (fun t call => call.created localeLe sha256 numberText t = true → call.Credits) t calls := by
  rw [← excess_seq_eq_zero_iff]
  have hafter : WellKept (History.after (RewardCall.step localeLe sha256 numberText) t calls) :=
    History.invariant_after (fun t call (ht : WellKept t) => wellKept_step ht call) h calls
  constructor
  · intro hlaw userId walletType currency
    have heq := hlaw.balances userId walletType currency
    rw [balance_after h] at heq
    linarith
  · intro hzero
    constructor
    · intro userId walletType currency
      rw [balance_after h, hzero, add_zero]
    · intro id j e j' e' t' he he' hreversal hreversal'
      refine hafter.keys j e j' e' he he' ?_
      rw [hafter.reversals j e id he hreversal, hafter.reversals j' e' id he' hreversal']

/-! ## Runs -/

section Runs

private def textLe (l r : String) : Bool := decide (l ≤ r)

private def oneDigest : String → Digest := fun _ => Digest.zeros

private def wholeText (amount : ℚ) : String := toString amount.num

private def supportContext (now : ℕ) : RewardContext where
  isUser userId := userId == 7
  now
  randomUUID := "support"

/-- An administrator enters this amount for a user. -/
private def entered (amount : ℚ) : RewardCall :=
  .grantManualReward (supportContext 1) { userId := 7, amount, reason := "correction" } none

private def undone (entryId : ℕ) : RewardCall :=
  .reverseRewardEntry (supportContext 2) { entryId, reason := "correction" } none

private theorem wellKept_empty : WellKept .empty := by
  constructor
  · intro id e he
    cases he
  · intro j e j' e' he
    cases he
  · intro id e original he
    cases he

theorem credit_then_reversed :
    BalanceLaw textLe oneDigest wholeText .empty [entered 5, undone 0] :=
  (balance_law_iff textLe oneDigest wholeText .empty wellKept_empty [entered 5, undone 0]).mpr
    ⟨fun _ => by norm_num [entered, RewardCall.Credits], fun _ => trivial, trivial⟩

/-- Minus five is entered, and five are added. -/
theorem negative_reward_credited :
    ¬BalanceLaw textLe oneDigest wholeText .empty [entered (-5)] := by
  intro hlaw
  have hbalance := hlaw.balances 7 .rider "EUR"
  rw [balance_after wellKept_empty, add_eq_left, excess, excess] at hbalance
  have hcreated : (entered (-5)).created textLe oneDigest wholeText .empty = true := rfl
  have hcurrency : normalizeCurrency none = "EUR" := by decide
  rw [hcreated, if_pos rfl, entered, RewardCall.excess, if_pos ⟨rfl, by decide, hcurrency⟩]
    at hbalance
  norm_num at hbalance

end Runs

end Deliivo

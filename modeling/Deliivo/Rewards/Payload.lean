import Deliivo.Arith.Binary64
import Deliivo.Rewards.Service
import Deliivo.Text.Joined
import Std.Data.String.ToNat

/-!
# What the hash of a reward covers

The hash of an entry is that of a text in which its columns stand one after the other, with bars
between them. A column may hold bars of its own, two columns may be printed alike, and so the text
does not tell the entries apart.

**Two entries have the same text exactly if their columns, as they are printed, come from one another by
moving what stands behind a bar into the next column, and back** (`payload_tells_apart`).

## Main definitions

* `numberToFixed2`: an amount as it is printed
* `RewardHashInput.payload`: the text that is hashed
* `RewardHashInput.Agrees`: two entries agree in every hashed field
* `RewardHashInput.Plain`: an entry whose columns are printed as they are

## Main results

* `computeRewardEntryHash_eq`: the hash of an entry is that of its text
* `payload_eq_iff`: when two entries have the same text
* `payload_eq_iff_shift`: the same, by moving texts over bars
* `agrees_of_plain`: plain entries are told apart
* `exists_twin`: an entry of a common amount has another one with the same text
* `payload_tells_apart`
-/

namespace Deliivo

/-! ## The text that is hashed -/

/-- The argument of `computeRewardEntryHash`. -/
structure RewardHashInput where
  previousHash : Option String
  userId : String
  walletType : String
  entryType : String
  direction : String
  amount : Binary64
  currency : String
  sourceType : String
  sourceId : String
  campaignId : Option String
  referralId : Option String
  description : Option String
  metadataJson : Option Json
  reversalOfEntryId : Option String
  createdById : Option String
  idempotencyKey : String

/-- The argument for an entry, whose amount is given as the number that it is. -/
def RewardEntryData.hashInput (entry : RewardEntryData) (amount : Binary64)
    (previousHash : Option String) : RewardHashInput where
  previousHash
  userId := toString entry.userId
  walletType := entry.walletType.text
  entryType := entry.entryType
  direction := entry.direction.text
  amount
  currency := entry.currency
  sourceType := entry.sourceType
  sourceId := entry.sourceId
  campaignId := entry.campaignId.map toString
  referralId := entry.referralId.map toString
  description := entry.description
  metadataJson := entry.metadataJson
  reversalOfEntryId := entry.reversalOfEntryId.map toString
  createdById := entry.createdById.map toString
  idempotencyKey := entry.idempotencyKey

/-- `toFixed(2)` of a number: where it is too large for digits alone, the number is printed as
`numberText` prints every number. -/
def numberToFixed2 (numberText : Binary64 → String) (x : Binary64) : String :=
  if |x.value| < 10 ^ 21 then toFixed2 x.value else numberText x

namespace RewardHashInput

/-- The columns before the metadata. -/
def columnsBefore (numberText : Binary64 → String) (input : RewardHashInput) : List String :=
  [orEmpty input.previousHash, input.userId, input.walletType, input.entryType, input.direction,
    numberToFixed2 numberText input.amount, input.currency, input.sourceType, input.sourceId,
    orEmpty input.campaignId, orEmpty input.referralId, orEmpty input.description]

/-- The columns behind it. -/
def columnsAfter (input : RewardHashInput) : List String :=
  [orEmpty input.reversalOfEntryId, orEmpty input.createdById, input.idempotencyKey]

section Payload

variable (localeLe : String → String → Bool) (numberText : Binary64 → String)

/-- The metadata as they are printed. -/
def metadataText (input : RewardHashInput) : String :=
  input.metadataJson.elim "" (stringifyForHash localeLe)

/-- The columns of an entry as they are printed. -/
def columns (input : RewardHashInput) : List String :=
  input.columnsBefore numberText ++ ([input.metadataText localeLe] ++ input.columnsAfter)

/-- `payload`. -/
def payload (input : RewardHashInput) : String :=
  "|".intercalate (input.columns localeLe numberText)

/-- The parts into which the bars cut the columns. -/
def parts (input : RewardHashInput) : List (List Char) :=
  cuts '|' ((input.columns localeLe numberText).map String.toList)

/-- The columns of one entry come from those of another one: again and again, what stands behind a bar of
a column moves to the front of the next column and takes the bar with it, or moves back. -/
def Shifted (input input' : RewardHashInput) : Prop :=
  Relation.EqvGen (Shift '|') ((input.columns localeLe numberText).map String.toList)
    ((input'.columns localeLe numberText).map String.toList)

end Payload

end RewardHashInput

section Text

variable (localeLe : String → String → Bool) (numberText : Binary64 → String)

/-- **The hash of an entry** is that of its text, where its amount is a number that is printed in digits. -/
theorem computeRewardEntryHash_eq (sha256 : String → Digest) (previousHash : Option String)
    (entry : RewardEntryData) {amount : Binary64} (hamount : amount.value = entry.amount)
    (hdigits : |entry.amount| < 10 ^ 21) :
    computeRewardEntryHash localeLe sha256 previousHash entry =
      sha256 ((entry.hashInput amount previousHash).payload localeLe numberText) := by
  have hprinted : ∀ column : Option ℕ, orEmpty (column.map toString) = orEmpty column := by
    intro column
    cases column with
    | none => rfl
    | some id => rfl
  have hfixed : numberToFixed2 numberText amount = toFixed2 entry.amount := by
    rw [numberToFixed2, hamount, if_pos hdigits]
  simp only [RewardHashInput.payload, RewardHashInput.columns, RewardHashInput.columnsBefore,
    RewardHashInput.columnsAfter, RewardHashInput.metadataText, RewardEntryData.hashInput, hprinted,
    hfixed]
  rfl

variable (input input' : RewardHashInput)

theorem payload_toList : (input.payload localeLe numberText).toList =
    ['|'].intercalate ((input.columns localeLe numberText).map String.toList) :=
  String.toList_intercalate ..

/-- **Two entries have the same text** exactly if the bars cut their columns into the same parts. -/
theorem payload_eq_iff : input.payload localeLe numberText = input'.payload localeLe numberText ↔
    input.parts localeLe numberText = input'.parts localeLe numberText := by
  have hne : ∀ e : RewardHashInput, (e.columns localeLe numberText).map String.toList ≠ [] := by
    intro e
    simp [RewardHashInput.columns]
  rw [← String.toList_inj, payload_toList, payload_toList]
  exact intercalate_eq_iff (hne input) (hne input')

/-- **Two entries have the same text** exactly if moving texts over bars leads from the columns of the one
to those of the other. -/
theorem payload_eq_iff_shift :
    input.payload localeLe numberText = input'.payload localeLe numberText ↔
      input.Shifted localeLe numberText input' := by
  rw [← String.toList_inj, payload_toList, payload_toList]
  -- every entry has as many columns
  have hlength : ((input.columns localeLe numberText).map String.toList).length =
      ((input'.columns localeLe numberText).map String.toList).length := rfl
  exact (eqvGen_shift_iff hlength).symm

end Text

/-! ## When entries agree -/

section Order

variable (localeLe : String → String → Bool)

mutual
/-- A JSON value with the members of its objects in the order of their keys. -/
def Json.inOrder : Json → Json
  | .arr values => .arr (inOrderValues values)
  | .obj fields => .obj ((inOrderFields fields).mergeSort fun l r => localeLe l.1 r.1)
  | .null => .null
  | .bool b => .bool b
  | .num text => .num text
  | .str s => .str s

def inOrderValues : List Json → List Json
  | [] => []
  | v :: vs => Json.inOrder v :: inOrderValues vs

def inOrderFields : List (String × Json) → List (String × Json)
  | [] => []
  | f :: fs => (f.1, Json.inOrder f.2) :: inOrderFields fs
end

/-- Two entries agree in every hashed field; in which order the members of an object stand does not
matter. -/
def RewardHashInput.Agrees (input input' : RewardHashInput) : Prop :=
  { input with metadataJson := input.metadataJson.map (Json.inOrder localeLe) } =
    { input' with metadataJson := input'.metadataJson.map (Json.inOrder localeLe) }

end Order

/-! ## Amounts -/

section Amounts

/-- A number is printed in digits. -/
theorem notMem_toString {n : ℕ} {c : Char} (hc : c.isDigit = false) :
    c ∉ (toString n : String).toList := by
  intro h
  have hdigits : c ∈ Nat.toDigits 10 n := by
    rw [← Nat.toList_repr]
    exact h
  rw [Nat.isDigit_of_mem_toDigits (by norm_num) (by norm_num) hdigits] at hc
  cases hc

theorem length_toString_digit {d : ℕ} (h : d < 10) : (toString d : String).toList.length = 1 := by
  have hone : (Nat.repr d).toList = [d.digitChar] := by
    rw [Nat.toList_repr, Nat.toDigits_of_lt_base h]
  exact congrArg List.length hone

theorem eq_of_toString_toList {m n : ℕ}
    (h : (toString m : String).toList = (toString n : String).toList) : m = n :=
  Nat.repr_injective (String.toList_inj.mp h)

/-- The cents that `toFixed(2)` prints. -/
def printedCents (amount : ℚ) : ℕ := ⌊|amount| * 100 + 1 / 2⌋.toNat

/-- What is printed before the point and behind it. -/
theorem toFixed2_toList (amount : ℚ) :
    (toFixed2 amount).toList =
      ((if amount < 0 then ['-'] else []) ++ (toString (printedCents amount / 100)).toList) ++
        '.' :: ((toString (printedCents amount % 100 / 10)).toList ++
          (toString (printedCents amount % 10)).toList) := by
  have hpoint : ".".toList = ['.'] := rfl
  have hminus : "-".toList = ['-'] := rfl
  have hnone : "".toList = [] := rfl
  simp only [toFixed2, String.toList_append, apply_ite String.toList, hpoint, hminus, hnone,
    List.append_assoc, List.singleton_append]
  rfl

/-- The sign and the cents are known from what is printed. -/
theorem toFixed2_inj {amount amount' : ℚ} (h : toFixed2 amount = toFixed2 amount') :
    (amount < 0 ↔ amount' < 0) ∧ printedCents amount = printedCents amount' := by
  have hchars := congrArg String.toList h
  rw [toFixed2_toList, toFixed2_toList] at hchars
  have hnoPoint : ∀ (a : ℚ) (n : ℕ),
      '.' ∉ (if a < 0 then ['-'] else []) ++ (toString n : String).toList := by
    intro a n hmem
    rcases List.mem_append.mp hmem with hsign | hdigits
    · split_ifs at hsign
      · cases List.mem_singleton.mp hsign
      · cases hsign
    · exact notMem_toString rfl hdigits
  have hnoPoint' : ∀ m n : ℕ, '.' ∉ (toString m : String).toList ++ (toString n : String).toList := by
    intro m n hmem
    rcases List.mem_append.mp hmem with hdigits | hdigits
    · exact notMem_toString rfl hdigits
    · exact notMem_toString rfl hdigits
  obtain ⟨hwhole, -, hdecimals⟩ :=
    (List.append_cons_inj_of_notMem (hnoPoint _ _) (hnoPoint' _ _)).mp hchars
  obtain ⟨htens, hones⟩ := List.append_inj hdecimals (by
    rw [length_toString_digit (by omega), length_toString_digit (by omega)])
  have hten := eq_of_toString_toList htens
  have hone := eq_of_toString_toList hones
  -- a sign is no digit
  have hsigned : ∀ m n : ℕ, ['-'] ++ (toString m : String).toList ≠ (toString n : String).toList := by
    intro m n heq
    refine @notMem_toString n '-' rfl ?_
    rw [← heq]
    exact List.mem_cons_self
  by_cases hneg : amount < 0
  · by_cases hneg' : amount' < 0
    · rw [if_pos hneg, if_pos hneg'] at hwhole
      have hunits := eq_of_toString_toList (List.append_cancel_left hwhole)
      exact ⟨iff_of_true hneg hneg', by omega⟩
    · rw [if_pos hneg, if_neg hneg', List.nil_append] at hwhole
      exact absurd hwhole (hsigned _ _)
  · by_cases hneg' : amount' < 0
    · rw [if_neg hneg, if_pos hneg', List.nil_append] at hwhole
      exact absurd hwhole.symm (hsigned _ _)
    · rw [if_neg hneg, if_neg hneg'] at hwhole
      have hunits := eq_of_toString_toList (List.append_cancel_left hwhole)
      exact ⟨iff_of_false hneg hneg', by omega⟩

/-- The amount that is read in what is printed. -/
def printedAmount (amount : ℚ) : ℚ := (if amount < 0 then -1 else 1) * printedCents amount / 100

/-- Other characters are not printed. -/
theorem notMem_toFixed2 {c : Char} (hc : c.isDigit = false) (hpoint : c ≠ '.') (hminus : c ≠ '-')
    (amount : ℚ) : c ∉ (toFixed2 amount).toList := by
  have hdigits : ∀ n : ℕ, c ∉ (toString n : String).toList := fun _ => notMem_toString hc
  have hsign : c ∉ (if amount < 0 then ['-'] else []) := by
    split_ifs
    · exact List.mem_singleton.not.mpr hminus
    · exact List.not_mem_nil
  rw [toFixed2_toList]
  simp only [List.mem_append, List.mem_cons, not_or]
  exact ⟨⟨hsign, hdigits _⟩, hpoint, hdigits _, hdigits _⟩

/-- What is said of the printing of numbers that are not printed in digits alone: an exponent, no bar, and
two numbers are printed differently. -/
structure PrintsHuge (numberText : Binary64 → String) : Prop where
  exponent : ∀ x : Binary64, 10 ^ 21 ≤ |x.value| → 'e' ∈ (numberText x).toList
  noBar : ∀ x : Binary64, 10 ^ 21 ≤ |x.value| → '|' ∉ (numberText x).toList
  inj : ∀ x y : Binary64, 10 ^ 21 ≤ |x.value| → 10 ^ 21 ≤ |y.value| → numberText x = numberText y → x = y

/-- An amount is read back from its two decimals. -/
def ReadBack (amount : Binary64) : Prop :=
  |amount.value| < 10 ^ 21 → Binary64.ofRat (printedAmount amount.value) = amount

section Printed

variable {numberText : Binary64 → String} (hnumbers : PrintsHuge numberText) {amount amount' : Binary64}

include hnumbers in
/-- **An amount that is read back** is known from what is printed. -/
theorem eq_of_numberToFixed2 (hback : ReadBack amount) (hback' : ReadBack amount')
    (h : numberToFixed2 numberText amount = numberToFixed2 numberText amount') : amount = amount' := by
  unfold numberToFixed2 at h
  by_cases hfixed : |amount.value| < 10 ^ 21
  · by_cases hfixed' : |amount'.value| < 10 ^ 21
    · rw [if_pos hfixed, if_pos hfixed'] at h
      obtain ⟨hsign, hcents⟩ := toFixed2_inj h
      rw [← hback hfixed, ← hback' hfixed', printedAmount, printedAmount, hcents, if_congr hsign rfl rfl]
    · rw [if_pos hfixed, if_neg hfixed'] at h
      refine absurd (hnumbers.exponent amount' (not_lt.mp hfixed')) ?_
      rw [← h]
      exact notMem_toFixed2 (by decide) (by decide) (by decide) _
  · by_cases hfixed' : |amount'.value| < 10 ^ 21
    · rw [if_neg hfixed, if_pos hfixed'] at h
      refine absurd (hnumbers.exponent amount (not_lt.mp hfixed)) ?_
      rw [h]
      exact notMem_toFixed2 (by decide) (by decide) (by decide) _
    · rw [if_neg hfixed, if_neg hfixed'] at h
      exact hnumbers.inj _ _ (not_lt.mp hfixed) (not_lt.mp hfixed') h

include hnumbers in
theorem bar_notMem_numberToFixed2 (amount : Binary64) :
    '|' ∉ (numberToFixed2 numberText amount).toList := by
  unfold numberToFixed2
  split_ifs with hfixed
  · exact notMem_toFixed2 (by decide) (by decide) (by decide) _
  · exact hnumbers.noBar _ (not_lt.mp hfixed)

end Printed

/-- Among the numbers that are printed as `cents` cents are two multiples of the 512th part of a unit. -/
theorem exists_pair_of_cents (cents : ℕ) :
    ∃ k : ℕ, 0 < k ∧ (cents : ℚ) ≤ k / 512 * 100 + 1 / 2 ∧
      ((k + 1 : ℕ) : ℚ) / 512 * 100 + 1 / 2 < cents + 1 ∧ k < 6 * cents + 2 := by
  refine ⟨(512 * cents - 256) / 100 + 1, Nat.succ_pos _, ?_, ?_, by omega⟩
  · have hdiv : 512 * cents - 256 < 100 * ((512 * cents - 256) / 100 + 1) := by omega
    have hle : 512 * cents ≤ 100 * ((512 * cents - 256) / 100 + 1) + 256 := by omega
    have hcast : (512 * cents : ℚ) ≤ 100 * (((512 * cents - 256) / 100 + 1 : ℕ) : ℚ) + 256 := by
      exact_mod_cast hle
    linarith
  · have hlt : 100 * ((512 * cents - 256) / 100 + 1 + 1) + 256 < 512 * (cents + 1) := by omega
    have hcast : 100 * (((512 * cents - 256) / 100 + 1 + 1 : ℕ) : ℚ) + 256 < 512 * ((cents : ℚ) + 1) := by
      exact_mod_cast hlt
    linarith

/-- **No common amount is told apart** from all others: its decimals are more than two. -/
theorem exists_same_toFixed2 (numberText : Binary64 → String) {amount : Binary64}
    (hsmall : |amount.value| < 2 ^ 43) :
    ∃ other, other ≠ amount ∧ numberToFixed2 numberText other = numberToFixed2 numberText amount := by
  obtain ⟨k, hk, hlow, hhigh, hbound⟩ := exists_pair_of_cents (printedCents amount.value)
  set cents := printedCents amount.value with hcents
  have hcentsLe : (cents : ℚ) ≤ |amount.value| * 100 + 1 / 2 := by
    have hfloor : (cents : ℤ) = ⌊|amount.value| * 100 + 1 / 2⌋ :=
      Int.toNat_of_nonneg (Int.floor_nonneg.mpr (by positivity))
    have hle := Int.floor_le (|amount.value| * 100 + 1 / 2)
    rw [← hfloor] at hle
    exact_mod_cast hle
  have hsize : 6 * cents + 3 < 2 ^ 53 := by
    have hlt : (6 * cents + 3 : ℚ) < 2 ^ 53 := by
      norm_num at hsmall ⊢
      linarith
    exact_mod_cast hlt
  -- one of the two is another number
  obtain ⟨n, hn, hnpos, hnlow, hnhigh, hne⟩ : ∃ n : ℕ, n < 2 ^ 53 ∧ 0 < n ∧
      (cents : ℚ) ≤ n / 512 * 100 + 1 / 2 ∧ (n : ℚ) / 512 * 100 + 1 / 2 < cents + 1 ∧
      (n : ℚ) / 512 ≠ |amount.value| := by
    by_cases hsame : (k : ℚ) / 512 = |amount.value|
    · refine ⟨k + 1, by omega, Nat.succ_pos _, ?_, hhigh, ?_⟩
      · push_cast
        linarith
      · rw [← hsame]
        push_cast
        intro heq
        linarith
    · refine ⟨k, by omega, hk, hlow, ?_, hsame⟩
      push_cast at hhigh
      linarith
  have hfloat : ∀ s : ℤ, |s| = 1 → binary64.IsFloat (s * (n / 512 : ℚ)) := by
    intro s hs
    refine ⟨s * n, -9, ?_, by decide, ?_⟩
    · rw [abs_mul, hs, one_mul, Nat.abs_cast]
      exact_mod_cast hn
    · push_cast
      norm_num
      ring
  have hpos : (0 : ℚ) < n / 512 := by positivity
  have hprinted : ∀ other : Binary64, |other.value| = n / 512 →
      (other.value < 0 ↔ amount.value < 0) →
      numberToFixed2 numberText other = numberToFixed2 numberText amount := by
    intro other habs hsign
    have hsame : printedCents other.value = cents := by
      have hfloor : ⌊|other.value| * 100 + 1 / 2⌋ = (cents : ℤ) := by
        rw [habs, Int.floor_eq_iff]
        exact ⟨by exact_mod_cast hnlow, by exact_mod_cast hnhigh⟩
      rw [printedCents, hfloor, Int.toNat_natCast]
    have hother : |other.value| < 10 ^ 21 := by
      have hcast : (n : ℚ) < 2 ^ 53 := by exact_mod_cast hn
      rw [habs]
      norm_num at hcast ⊢
      linarith
    have hamount : |amount.value| < 10 ^ 21 := hsmall.trans (by norm_num)
    rw [numberToFixed2, if_pos hother, numberToFixed2, if_pos hamount]
    apply String.toList_inj.mp
    rw [toFixed2_toList, toFixed2_toList, hsame, if_congr hsign rfl rfl]
  by_cases hneg : amount.value < 0
  · refine ⟨⟨_, hfloat (-1) (by norm_num)⟩, ?_, hprinted _ ?_ (iff_of_true ?_ hneg)⟩
    · rintro rfl
      refine hne ?_
      push_cast
      rw [neg_one_mul, abs_neg, abs_of_pos hpos]
    · push_cast
      rw [neg_one_mul, abs_neg, abs_of_pos hpos]
    · push_cast
      linarith
  · refine ⟨⟨_, hfloat 1 (by norm_num)⟩, ?_, hprinted _ ?_ (iff_of_false ?_ hneg)⟩
    · rintro rfl
      refine hne ?_
      push_cast
      rw [one_mul, abs_of_pos hpos]
    · push_cast
      rw [one_mul, abs_of_pos hpos]
    · push_cast
      linarith

end Amounts

/-! ## Plain metadata -/

/-- An object of texts: no key holds a colon or a bar, and no text a bar. -/
def Json.Plain (m : Json) : Prop :=
  ∃ members : List (String × String), m = .obj (members.map fun f => (f.1, .str f.2)) ∧
    ∀ f ∈ members, ':' ∉ f.1.toList ∧ '|' ∉ f.1.toList ∧ '|' ∉ f.2.toList

section Metadata

variable {members members' : List (String × String)}

/-- A member of an object as it is printed. -/
def memberChars (f : String × String) : List Char := f.1.toList ++ ':' :: f.2.toList

variable (localeLe : String → String → Bool)

/-- The members of an object in the order of their keys. -/
def membersInOrder (members : List (String × String)) : List (String × String) :=
  members.mergeSort fun l r => localeLe l.1 r.1

/-- Members are known from what is printed of them: a key ends at the first colon. -/
theorem eq_of_memberChars (h : ∀ f ∈ members, ':' ∉ f.1.toList)
    (h' : ∀ f ∈ members', ':' ∉ f.1.toList)
    (hprinted : members.map memberChars = members'.map memberChars) : members = members' := by
  induction members generalizing members' with
  | nil => exact (List.map_eq_nil_iff.mp hprinted.symm).symm
  | cons f members ih =>
    cases members' with
    | nil => cases hprinted
    | cons f' members' =>
      obtain ⟨hkey, hkeys⟩ := List.forall_mem_cons.mp h
      obtain ⟨hkey', hkeys'⟩ := List.forall_mem_cons.mp h'
      obtain ⟨hfirst, hrest⟩ := List.cons.inj hprinted
      obtain ⟨hname, hvalue⟩ := eq_of_append_separator hkey hkey' hfirst
      rw [ih hkeys hkeys' hrest, Prod.ext (String.toList_inj.mp hname) (String.toList_inj.mp hvalue)]

theorem stringifyForHash_members (members : List (String × String)) :
    (stringifyForHash localeLe (.obj (members.map fun f => (f.1, .str f.2)))).toList =
      '\x7b' :: (['|'].intercalate ((membersInOrder localeLe members).map memberChars) ++
        ['\x7d']) := by
  have hfields : stringifyFields localeLe (members.map fun f => (f.1, Json.str f.2)) = members := by
    induction members with
    | nil => rfl
    | cons f members ih =>
      rw [List.map_cons, stringifyFields, ih]
      rfl
  have hchars : ((membersInOrder localeLe members).map fun f => f.1 ++ ":" ++ f.2).map
      String.toList = (membersInOrder localeLe members).map memberChars := by
    rw [List.map_map]
    refine List.map_congr_left fun f _ => ?_
    simp only [Function.comp_apply, String.toList_append, memberChars, List.append_assoc]
    rfl
  rw [stringifyForHash, hfields, joinFields, String.toList_append, String.toList_append,
    String.toList_intercalate, ← hchars]
  rfl

theorem inOrder_members (members : List (String × String)) :
    Json.inOrder localeLe (.obj (members.map fun f => (f.1, .str f.2))) =
      .obj ((membersInOrder localeLe members).map fun f => (f.1, .str f.2)) := by
  have hfields : inOrderFields localeLe (members.map fun f => (f.1, Json.str f.2)) =
      members.map fun f => (f.1, Json.str f.2) := by
    induction members with
    | nil => rfl
    | cons f members ih =>
      rw [List.map_cons, inOrderFields, ih]
      rfl
  have hsort := @List.map_mergeSort _ _ (fun l r : String × String => localeLe l.1 r.1)
    (fun l r : String × Json => localeLe l.1 r.1) (fun f => (f.1, Json.str f.2)) members
    fun _ _ _ _ => rfl
  rw [Json.inOrder, hfields]
  exact congrArg Json.obj hsort.symm

/-- **Plain metadata** are known from what is printed, up to the order of the members. -/
theorem inOrder_of_plain {m m' : Json} (h : m.Plain) (h' : m'.Plain)
    (hprinted : stringifyForHash localeLe m = stringifyForHash localeLe m') :
    m.inOrder localeLe = m'.inOrder localeLe := by
  obtain ⟨members, rfl, hplain⟩ := h
  obtain ⟨members', rfl, hplain'⟩ := h'
  have hchars := congrArg String.toList hprinted
  rw [stringifyForHash_members, stringifyForHash_members] at hchars
  have hjoined := List.append_cancel_right (List.cons.inj hchars).2
  -- a member that is printed holds no bar, and a colon at least
  have htexts : ∀ {l : List (String × String)}, (∀ f ∈ l, ':' ∉ f.1.toList ∧ '|' ∉ f.1.toList ∧
      '|' ∉ f.2.toList) → ∀ text ∈ (membersInOrder localeLe l).map memberChars,
        '|' ∉ text ∧ text ≠ [] := by
    intro l hl text htext
    obtain ⟨f, hf, rfl⟩ := List.mem_map.mp htext
    obtain ⟨-, hkey, hvalue⟩ := hl f (List.mem_mergeSort.mp hf)
    refine ⟨?_, List.append_ne_nil_of_right_ne_nil _ (List.cons_ne_nil _ _)⟩
    simp only [memberChars, List.mem_append, List.mem_cons, not_or]
    exact ⟨hkey, by decide, hvalue⟩
  have hsame := eq_of_intercalate_eq (htexts hplain) (htexts hplain') hjoined
  have hkeys : ∀ {l : List (String × String)}, (∀ f ∈ l, ':' ∉ f.1.toList ∧ '|' ∉ f.1.toList ∧
      '|' ∉ f.2.toList) → ∀ f ∈ membersInOrder localeLe l, ':' ∉ f.1.toList :=
    fun hl f hf => (hl f (List.mem_mergeSort.mp hf)).1
  have hinj := eq_of_memberChars (hkeys hplain) (hkeys hplain') hsame
  rw [inOrder_members, inOrder_members, hinj]

end Metadata

/-! ## Plain entries -/

/-- A column that holds no bar, and is not empty unless it is null. -/
def PlainColumn (column : Option String) : Prop :=
  ∀ text, column = some text → text ≠ "" ∧ '|' ∉ text.toList

namespace RewardHashInput

/-- The columns that are texts. -/
def texts (input : RewardHashInput) : List String :=
  [input.userId, input.walletType, input.entryType, input.direction, input.currency, input.sourceType,
    input.sourceId, input.idempotencyKey]

/-- The columns that may be null. -/
def nullable (input : RewardHashInput) : List (Option String) :=
  [input.previousHash, input.campaignId, input.referralId, input.description,
    input.reversalOfEntryId, input.createdById]

/-- An entry whose columns are printed as they are: no bars, nothing empty beside null, an amount that is
read back from its two decimals, and metadata that are a flat object of texts. -/
structure Plain (input : RewardHashInput) : Prop where
  texts : ∀ text ∈ input.texts, '|' ∉ text.toList
  nullable : ∀ column ∈ input.nullable, PlainColumn column
  amount : ReadBack input.amount
  metadata : ∀ m, input.metadataJson = some m → m.Plain

end RewardHashInput

section Plain

variable (localeLe : String → String → Bool) {numberText : Binary64 → String}
  (hnumbers : PrintsHuge numberText) {input input' : RewardHashInput}

theorem PlainColumn.notMem {column : Option String} (h : PlainColumn column) :
    '|' ∉ (orEmpty column).toList := by
  cases column with
  | none => exact List.not_mem_nil
  | some text => exact (h text rfl).2

/-- A plain column is known from what is printed. -/
theorem PlainColumn.eq {column column' : Option String} (h : PlainColumn column)
    (h' : PlainColumn column') (hprinted : orEmpty column = orEmpty column') : column = column' := by
  cases column with
  | none =>
    cases column' with
    | none => rfl
    | some text' => exact absurd hprinted.symm (h' text' rfl).1
  | some text =>
    cases column' with
    | none => exact absurd hprinted (h text rfl).1
    | some text' => exact congrArg some hprinted

include hnumbers in
/-- The columns of a plain entry around its metadata hold no bars. -/
theorem RewardHashInput.Plain.columns_notMem (h : input.Plain) :
    (∀ text ∈ (input.columnsBefore numberText).map String.toList, '|' ∉ text) ∧
      ∀ text ∈ input.columnsAfter.map String.toList, '|' ∉ text := by
  obtain ⟨htexts, hnullable, -, -⟩ := h
  simp only [RewardHashInput.texts, RewardHashInput.nullable, List.forall_mem_cons] at htexts hnullable
  obtain ⟨huser, hwallet, hentry, hdirection, hcurrency, htype, hid, hkey, -⟩ := htexts
  obtain ⟨hprevious, hcampaign, hreferral, hdescription, hreversal, hcreator, -⟩ := hnullable
  simp only [RewardHashInput.columnsBefore, RewardHashInput.columnsAfter, List.map_cons, List.map_nil,
    List.forall_mem_cons]
  exact ⟨⟨hprevious.notMem, huser, hwallet, hentry, hdirection,
    bar_notMem_numberToFixed2 hnumbers _, hcurrency, htype,
    hid, hcampaign.notMem, hreferral.notMem, hdescription.notMem, List.forall_mem_nil _⟩,
    hreversal.notMem, hcreator.notMem, hkey, List.forall_mem_nil _⟩

/-- Plain metadata are known from what is printed, null among them. -/
theorem metadata_of_plain (h : input.Plain) (h' : input'.Plain)
    (hprinted : input.metadataText localeLe = input'.metadataText localeLe) :
    input.metadataJson.map (Json.inOrder localeLe) =
      input'.metadataJson.map (Json.inOrder localeLe) := by
  -- what is printed of an object is not empty, unlike what is printed of null
  have hbrace : ∀ {m : Json}, m.Plain → stringifyForHash localeLe m ≠ "" := by
    rintro m ⟨members, rfl, -⟩ hempty
    have hchars := congrArg String.toList hempty
    rw [stringifyForHash_members] at hchars
    cases hchars
  have hplain := h.metadata
  have hplain' := h'.metadata
  unfold RewardHashInput.metadataText at hprinted
  cases hm : input.metadataJson with
  | none =>
    cases hm' : input'.metadataJson with
    | none => rfl
    | some m' =>
      rw [hm, hm'] at hprinted
      exact absurd hprinted.symm (hbrace (hplain' m' hm'))
  | some m =>
    cases hm' : input'.metadataJson with
    | none =>
      rw [hm, hm'] at hprinted
      exact absurd hprinted (hbrace (hplain m hm))
    | some m' =>
      rw [hm, hm'] at hprinted
      exact congrArg some (inOrder_of_plain localeLe (hplain m hm) (hplain' m' hm') hprinted)

include hnumbers in
/-- **Plain entries** with the same text agree. -/
theorem agrees_of_plain (h : input.Plain) (h' : input'.Plain)
    (hpayload : input.payload localeLe numberText = input'.payload localeLe numberText) :
    input.Agrees localeLe input' := by
  have hparts := (payload_eq_iff localeLe numberText input input').mp hpayload
  simp only [RewardHashInput.parts, RewardHashInput.columns, List.map_append, List.map_singleton]
    at hparts
  obtain ⟨hbarsBefore, hbarsAfter⟩ := h.columns_notMem hnumbers
  obtain ⟨hbarsBefore', hbarsAfter'⟩ := h'.columns_notMem hnumbers
  -- the columns on either side of the metadata hold no bars, so that their parts are told apart
  obtain ⟨hbefore, hmetadata, hafter⟩ := eq_of_cuts_around hbarsBefore hbarsBefore' hbarsAfter
    hbarsAfter' rfl rfl hparts
  have hjson := metadata_of_plain localeLe h h' (String.toList_inj.mp hmetadata)
  simp only [RewardHashInput.columnsBefore, RewardHashInput.columnsAfter, List.map_cons, List.map_nil,
    List.cons.injEq, String.toList_inj] at hbefore hafter
  obtain ⟨hprevious, huser, hwallet, hentry, hdirection, hamount, hcurrency, htype, hid, hcampaign,
    hreferral, hdescription, -⟩ := hbefore
  obtain ⟨hreversal, hcreator, hkey, -⟩ := hafter
  -- a column that may be null is known from what is printed, as no text is empty
  have hcolumns := h.nullable
  have hcolumns' := h'.nullable
  simp only [RewardHashInput.nullable, List.forall_mem_cons] at hcolumns hcolumns'
  obtain ⟨cprevious, ccampaign, creferral, cdescription, creversal, ccreator, -⟩ := hcolumns
  obtain ⟨cprevious', ccampaign', creferral', cdescription', creversal', ccreator', -⟩ := hcolumns'
  simp only [RewardHashInput.Agrees, RewardHashInput.mk.injEq]
  exact ⟨cprevious.eq cprevious' hprevious, huser, hwallet, hentry, hdirection,
    eq_of_numberToFixed2 hnumbers h.amount h'.amount hamount, hcurrency, htype, hid,
    ccampaign.eq ccampaign' hcampaign,
    creferral.eq creferral' hreferral, cdescription.eq cdescription' hdescription, hjson,
    creversal.eq creversal' hreversal, ccreator.eq ccreator' hcreator, hkey⟩

/-- **A twin**: another entry, with another amount, that has the same text. -/
theorem exists_twin (numberText : Binary64 → String) (hsmall : |input.amount.value| < 2 ^ 43) :
    ∃ twin, ¬ input.Agrees localeLe twin ∧
      input.payload localeLe numberText = twin.payload localeLe numberText := by
  obtain ⟨other, hne, hprinted⟩ := exists_same_toFixed2 numberText hsmall
  refine ⟨{ input with amount := other }, ?_, ?_⟩
  · intro hagrees
    exact hne (congrArg RewardHashInput.amount hagrees).symm
  · rw [RewardHashInput.payload, RewardHashInput.payload, RewardHashInput.columns,
      RewardHashInput.columns, RewardHashInput.columnsBefore, RewardHashInput.columnsBefore, hprinted]
    rfl

end Plain

/-- **What the text tells of an entry.** Two entries that have the same text agree exactly if they do so
anyway or moving texts over bars does not lead from the columns of the one to those of the other; plain
entries do; and no entry of a common amount is told apart from all others. -/
theorem payload_tells_apart (localeLe : String → String → Bool) (numberText : Binary64 → String)
    (hnumbers : PrintsHuge numberText) (input input' : RewardHashInput) :
    ((input.payload localeLe numberText = input'.payload localeLe numberText →
        input.Agrees localeLe input') ↔
      input.Agrees localeLe input' ∨ ¬ input.Shifted localeLe numberText input') ∧
    (input.Plain → input'.Plain →
      input.payload localeLe numberText = input'.payload localeLe numberText →
        input.Agrees localeLe input') ∧
    (|input.amount.value| < 2 ^ 43 → ∃ twin, ¬ input.Agrees localeLe twin ∧
      input.payload localeLe numberText = twin.payload localeLe numberText) := by
  refine ⟨?_, fun h h' => agrees_of_plain localeLe hnumbers h h', exists_twin localeLe numberText⟩
  rw [payload_eq_iff_shift]
  constructor
  · intro h
    by_cases hshifted : input.Shifted localeLe numberText input'
    · exact .inl (h hshifted)
    · exact .inr hshifted
  · rintro (hagrees | hnot) hshifted
    · exact hagrees
    · exact absurd hshifted hnot

/-! ## Two grants -/

section Grants

private def codeOrder (l r : String) : Bool := decide (l ≤ r)

/-- Some printing of numbers with an exponent. -/
private def exponentText (x : Binary64) : String := "e" ++ toString (Encodable.encode x.value)

private theorem printsHuge_exponentText : PrintsHuge exponentText where
  exponent x _ := by
    rw [exponentText, String.toList_append]
    exact List.mem_append_left _ (by decide)
  noBar x _ := by
    rw [exponentText, String.toList_append, List.mem_append, not_or]
    exact ⟨by decide, notMem_toString rfl⟩
  inj x y _ _ h := by
    have hchars := congrArg String.toList h
    rw [exponentText, exponentText, String.toList_append, String.toList_append] at hchars
    have hcode := eq_of_toString_toList (List.append_cancel_left hchars)
    exact Binary64.ext (Encodable.encode_injective hcode)

/-- A credit of five euros, made by an administrator. -/
private def fiveEuros (sourceType sourceId reason : String) (metadataJson : Option Json) :
    RewardHashInput where
  previousHash := none
  userId := "u-1"
  walletType := "RIDER"
  entryType := "MANUAL_CREDIT"
  direction := "CREDIT"
  amount := .ofRat 5
  currency := "EUR"
  sourceType
  sourceId
  campaignId := none
  referralId := none
  description := some reason
  metadataJson
  reversalOfEntryId := none
  createdById := some "a-1"
  idempotencyKey := "manual:u-1"

private theorem plain_fiveEuros {reason : String} (h : reason ≠ "" ∧ '|' ∉ reason.toList) :
    (fiveEuros "MANUAL" "s-1" reason none).Plain where
  texts := by simp [RewardHashInput.texts, fiveEuros]
  nullable := by
    simp only [RewardHashInput.nullable, fiveEuros, List.forall_mem_cons, PlainColumn]
    simpa using h
  amount _ := show Binary64.ofRat (printedAmount (Binary64.ofRat 5).value) = .ofRat 5 by decide +kernel
  metadata m hm := by cases hm

private theorem parts_fiveEuros (sourceType sourceId reason : String) :
    (fiveEuros sourceType sourceId reason none).parts codeOrder exponentText =
      cuts '|' (["", "u-1", "RIDER", "MANUAL_CREDIT", "CREDIT", "5.00", "EUR"].map String.toList) ++
        (cuts '|' [sourceType.toList, sourceId.toList] ++
          cuts '|' (["", "", reason, "", "", "a-1", "manual:u-1"].map String.toList)) := by
  have hamount : numberToFixed2 exponentText (.ofRat 5) = "5.00" := by decide +kernel
  rw [← cuts_append, ← cuts_append, RewardHashInput.parts, RewardHashInput.columns,
    RewardHashInput.columnsBefore, fiveEuros, hamount]
  rfl

/-- Two grants for different reasons are told apart. -/
theorem reasons_told_apart :
    (fiveEuros "MANUAL" "s-1" "Late pickup" none).payload codeOrder exponentText ≠
      (fiveEuros "MANUAL" "s-1" "Lost bag" none).payload codeOrder exponentText := by
  intro hpayload
  have hagrees := (payload_tells_apart codeOrder exponentText printsHuge_exponentText _ _).2.1
    (plain_fiveEuros (by decide)) (plain_fiveEuros (by decide)) hpayload
  have hreason := congrArg RewardHashInput.description hagrees
  simp [fiveEuros] at hreason

/-- A member may be moved into the text before it, and a part of the source's type into its id. -/
theorem members_and_columns_run_together :
    (let one := fiveEuros "MANUAL" "s-1" "Late pickup" (some (.obj [("note", .str "late|paid:yes")]))
     let two := fiveEuros "MANUAL" "s-1" "Late pickup"
      (some (.obj [("note", .str "late"), ("paid", .str "yes")]))
     one.payload codeOrder exponentText = two.payload codeOrder exponentText ∧
       ¬ one.Agrees codeOrder two) ∧
    let one := fiveEuros "MANUAL|TRIP" "s-1" "Late pickup" none
    let two := fiveEuros "MANUAL" "TRIP|s-1" "Late pickup" none
    one.payload codeOrder exponentText = two.payload codeOrder exponentText ∧
      ¬ one.Agrees codeOrder two := by
  refine ⟨⟨?_, ?_⟩, ?_, ?_⟩
  · have hsorted : ([("note", "late"), ("paid", "yes")] : List (String × String)).mergeSort
        (fun l r => codeOrder l.1 r.1) = [("note", "late"), ("paid", "yes")] :=
      List.mergeSort_of_pairwise (by simp [codeOrder])
    have hprinted : stringifyForHash codeOrder (.obj [("note", .str "late|paid:yes")]) =
        stringifyForHash codeOrder (.obj [("note", .str "late"), ("paid", .str "yes")]) := by
      simp only [stringifyForHash, joinFields, stringifyFields, hsorted, List.mergeSort_singleton]
      decide
    simp only [RewardHashInput.payload, RewardHashInput.columns, RewardHashInput.columnsBefore,
      RewardHashInput.columnsAfter, RewardHashInput.metadataText, fiveEuros, Option.elim, hprinted]
  · intro hagrees
    have hmetadata := congrArg RewardHashInput.metadataJson hagrees
    simp only [fiveEuros, Json.inOrder, inOrderFields, Option.map_some, Option.some.injEq,
      Json.obj.injEq] at hmetadata
    -- one member on the left, two on the right
    have hlength := congrArg List.length hmetadata
    simp at hlength
  · have hpair : cuts '|' ["MANUAL|TRIP".toList, "s-1".toList] =
        cuts '|' ["MANUAL".toList, "TRIP|s-1".toList] := by decide
    rw [payload_eq_iff, parts_fiveEuros, parts_fiveEuros, hpair]
  · intro hagrees
    have htype := congrArg RewardHashInput.sourceType hagrees
    simp [fiveEuros] at htype

end Grants

end Deliivo

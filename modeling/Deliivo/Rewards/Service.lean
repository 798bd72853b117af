import Deliivo.Booking.Request

/-!
# The reward wallets

Every entry of a wallet carries the hash of its own data and the hash of the entry that was the
latest of the wallet when it was written. The function `sha256` is a parameter, and so is the order
`localeLe` in which the keys of a JSON object are hashed. Rewards are any numbers an administrator
enters, so their amounts are rationals and not whole cents.

## Main definitions

* `computeRewardEntryHash`: the hash of an entry
* `grantWalletEntry`: append an entry to a wallet
* `verifyRewardLedgerChain`: check the entries of a user
-/

namespace Deliivo

/-! ## Entries -/

inductive WalletType
  | driver
  | rider
  deriving DecidableEq, Repr

/-- A JSON value, its numbers as `String` prints them. -/
inductive Json
  | null
  | bool (b : Bool)
  | num (text : String)
  | str (s : String)
  | arr (values : List Json)
  | obj (fields : List (String × Json))

/-- What `createHash('sha256').digest('hex')` returns. -/
structure Digest where
  hex : String
  length_eq : hex.length = 64

/-- The digest of nothing but zeros. -/
def Digest.zeros : Digest :=
  ⟨"0000000000000000000000000000000000000000000000000000000000000000", rfl⟩

/-- The columns of an entry that its hash covers. -/
structure RewardEntryData where
  userId : ℕ
  walletType : WalletType
  entryType : String
  direction : Direction
  amount : ℚ
  currency : String
  sourceType : String
  sourceId : String
  campaignId : Option ℕ
  referralId : Option ℕ
  description : Option String
  metadataJson : Option Json
  reversalOfEntryId : Option ℕ
  createdById : Option ℕ
  idempotencyKey : String

structure RewardWalletEntry extends RewardEntryData where
  previousHash : Option String
  entryHash : Option String
  createdAt : ℕ

/-! ## Hashes -/

def WalletType.text : WalletType → String
  | driver => "DRIVER"
  | rider => "RIDER"

def Direction.text : Direction → String
  | debit => "DEBIT"
  | credit => "CREDIT"

/-- `toFixed(2)`. -/
def toFixed2 (amount : ℚ) : String :=
  let cents := ⌊|amount| * 100 + 1 / 2⌋.toNat
  (if amount < 0 then "-" else "") ++ toString (cents / 100) ++ "." ++
    toString (cents % 100 / 10) ++ toString (cents % 10)

section Hash

variable (localeLe : String → String → Bool) (sha256 : String → Digest)

/-- The fields of an object in the order of their keys, once their values are printed. -/
def joinFields (fields : List (String × String)) : String :=
  "|".intercalate <| (fields.mergeSort fun l r => localeLe l.1 r.1).map fun f => f.1 ++ ":" ++ f.2

mutual
def stringifyForHash : Json → String
  | .null => ""
  | .bool b => if b then "true" else "false"
  | .num text => text
  | .str s => s
  | .arr values => "[" ++ ",".intercalate (stringifyValues values) ++ "]"
  | .obj fields => "\x7b" ++ joinFields localeLe (stringifyFields fields) ++ "\x7d"

def stringifyValues : List Json → List String
  | [] => []
  | v :: vs => stringifyForHash v :: stringifyValues vs

def stringifyFields : List (String × Json) → List (String × String)
  | [] => []
  | f :: fs => (f.1, stringifyForHash f.2) :: stringifyFields fs
end

/-- A column that may be null, as the payload prints it. -/
def orEmpty {α : Type} [ToString α] (column : Option α) : String := column.elim "" toString

def computeRewardEntryHash (previousHash : Option String) (entry : RewardEntryData) : Digest :=
  sha256 <| "|".intercalate
    [orEmpty previousHash, toString entry.userId, entry.walletType.text, entry.entryType,
      entry.direction.text, toFixed2 entry.amount, entry.currency, entry.sourceType,
      entry.sourceId, orEmpty entry.campaignId, orEmpty entry.referralId,
      orEmpty entry.description, entry.metadataJson.elim "" (stringifyForHash localeLe),
      orEmpty entry.reversalOfEntryId, orEmpty entry.createdById, entry.idempotencyKey]

/-! ## Granting -/

structure GrantInput where
  userId : ℕ
  walletType : String
  entryType : String
  amount : ℚ
  currency : Option String := none
  sourceType : String
  sourceId : String
  campaignId : Option ℕ := none
  referralId : Option ℕ := none
  description : Option String := none
  metadataJson : Option Json := none
  createdById : Option ℕ := none
  reversalOfEntryId : Option ℕ := none
  idempotencyKey : String

def normalizeWalletType (value : String) : WalletType :=
  if toUpperCase value = "DRIVER" then .driver else .rider

/-- `normalizeCurrency`: a text of three letters, `EUR` for anything else. -/
def normalizeCurrency (currency : Option String) : String :=
  let value := toUpperCase (trim (currency.getD "EUR"))
  if value.length = 3 then value else "EUR"

def walletDirection (amount : ℚ) : Direction := if 0 ≤ amount then .credit else .debit

/-- What a grant writes and hashes. -/
def GrantInput.data (input : GrantInput) : RewardEntryData :=
  { input with
    walletType := normalizeWalletType input.walletType
    direction := walletDirection input.amount
    amount := |input.amount|
    currency := normalizeCurrency input.currency }

/-- The entries of one wallet. -/
def walletEntries (userId : ℕ) (walletType : WalletType) (t : Table RewardWalletEntry) :
    List (ℕ × RewardWalletEntry) :=
  t.filter fun _ e => e.userId == userId && e.walletType == walletType

/-- Newest first, by `createdAt` and then by id. -/
def newestFirst (l r : ℕ × RewardWalletEntry) : Bool :=
  r.2.createdAt < l.2.createdAt || (r.2.createdAt == l.2.createdAt && r.1 ≤ l.1)

def loadLatestRewardEntry (userId : ℕ) (walletType : WalletType) (t : Table RewardWalletEntry) :
    Option (ℕ × RewardWalletEntry) :=
  ((walletEntries userId walletType t).mergeSort newestFirst).head?

/-- The entry that a grant appends at the time `now`. -/
def GrantInput.entry (input : GrantInput) (now : ℕ) (t : Table RewardWalletEntry) :
    RewardWalletEntry :=
  let latest := loadLatestRewardEntry input.userId (normalizeWalletType input.walletType) t
  let previousHash := latest.bind fun r => r.2.entryHash
  { input.data with
    previousHash
    entryHash := some (computeRewardEntryHash localeLe sha256 previousHash input.data).hex
    createdAt := now }

/-- `grantWalletEntry` at the time `now`: the wallets after it, and whether it created an entry. -/
def grantWalletEntry (now : ℕ) (input : GrantInput) (t : Table RewardWalletEntry) :
    Table RewardWalletEntry × Bool :=
  if (t.filter fun _ e => e.idempotencyKey == input.idempotencyKey) ≠ [] then (t, false)
  else (t.insert t.nextKey (input.entry localeLe sha256 now t), true)

/-! ## Verifying -/

/-- What JavaScript takes for false: `null` and the empty text. -/
def isFalsy (column : Option String) : Bool := column.all (· == "")

structure ChainVerdict where
  ok : Bool
  brokenEntryId : Option ℕ
  deriving DecidableEq, Repr

/-- By wallet, oldest first. -/
def walletThenOldest (l r : ℕ × RewardWalletEntry) : Bool :=
  match l.2.walletType, r.2.walletType with
  | .driver, .rider => true
  | .rider, .driver => false
  | _, _ =>
    l.2.createdAt < r.2.createdAt || (l.2.createdAt == r.2.createdAt && l.1 ≤ r.1)

/-- The loop of `verifyRewardLedgerChain`; the map holds the last hash that was checked of every
wallet. -/
def verifyEntries : List (ℕ × RewardWalletEntry) → (ℕ × WalletType → Option String) → ChainVerdict
  | [], _ => { ok := true, brokenEntryId := none }
  | (id, entry) :: entries, chainByWallet =>
    -- a row without hashes is skipped, and so is the first of a wallet, which has no predecessor
    if isFalsy entry.entryHash || isFalsy entry.previousHash then
      verifyEntries entries chainByWallet
    else
      let expectedPrevious := chainByWallet (entry.userId, entry.walletType)
      let expectedHash :=
        (computeRewardEntryHash localeLe sha256 expectedPrevious entry.toRewardEntryData).hex
      if entry.previousHash ≠ expectedPrevious ∨ entry.entryHash ≠ some expectedHash then
        { ok := false, brokenEntryId := some id }
      else
        verifyEntries entries
          (Function.update chainByWallet (entry.userId, entry.walletType) entry.entryHash)

def verifyRewardLedgerChain (userId : ℕ) (t : Table RewardWalletEntry) : ChainVerdict :=
  let entries := (t.filter fun _ e => e.userId == userId).mergeSort walletThenOldest
  verifyEntries localeLe sha256 entries fun _ => none

end Hash

end Deliivo

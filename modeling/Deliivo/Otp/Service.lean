import Deliivo.Domain.Error
import Deliivo.Store.Expiring

/-!
# One-time codes

A code that is sent to a rider or driver is kept in Redis with the number of wrong guesses at it, under
a key that expires. A verification reads the record, compares the guess, and then writes the record with
one attempt more or deletes it.

## Main definitions

* `createOtp`: store a code, unless the one before it is recent
* `verifyOtp`: compare a guess with the code
-/

namespace Deliivo

/-- `OTP_EXPIRY_MINUTES`. -/
def otpExpiryMinutes : ℕ := 5

/-- `OTP_MAX_ATTEMPTS`. -/
def otpMaxAttempts : ℕ := 5

/-- `OTP_RESEND_COOLDOWN_SEC`. -/
def otpResendCooldownSec : ℕ := 60

inductive OtpPurpose
  | signup
  | login
  | resetPassword
  | contactChange
  deriving DecidableEq, Repr

def OtpPurpose.text : OtpPurpose → String
  | .signup => "signup"
  | .login => "login"
  | .resetPassword => "reset_password"
  | .contactChange => "contact_change"

/-- `otpKey`. -/
def otpKey (identifier : String) (purpose : OtpPurpose) (method : String) : String :=
  "otp:" ++ purpose.text ++ ":" ++ identifier ++ ":" ++ method

/-- What is stored of a code. -/
structure OtpRecord where
  code : String
  attempts : ℕ
  deriving DecidableEq, Repr

/-- What the commands of the calls come down to. -/
inductive OtpEvent
  /-- A code is stored. -/
  | created (moment : ℕ)
  /-- A guess is compared with the code. -/
  | compared (right : Bool)
  /-- A wrong guess at the record that has been read is counted. -/
  | missRecorded (read : OtpRecord)
  /-- A right guess at it is accepted. -/
  | accepted (read : OtpRecord) (moment : ℕ)
  deriving DecidableEq, Repr

abbrev OtpStore := ExpiringStore String OtpRecord

abbrev OtpService := Program (StoreCall String OtpRecord OtpEvent) Err

/-- What `TTL` answers: whole seconds, -1 for a key that does not expire and -2 for none. -/
def ttlSeconds : Option (Option ℕ) → ℤ
  | none => -2
  | some none => -1
  | some (some ms) => ((ms + 500) / 1000 : ℕ)

structure CreateOtpResult where
  success : Bool
  reason : Option String
  code : Option String

structure VerifyOtpResult where
  success : Bool
  reason : Option String := none

/-- Store the code that has been drawn, unless the one before it is recent. -/
def createOtp (identifier : String) (purpose : OtpPurpose) (method : String) (code : String) :
    OtpService CreateOtpResult := do
  let key := otpKey identifier purpose method
  let remaining ← (StoreCommand.remaining key).issue
  if ttlSeconds remaining > otpExpiryMinutes * 60 - otpResendCooldownSec then
    return ⟨false, some "cooldown", none⟩
  let _ ← Program.command
    { command := .setEx key ⟨code, 0⟩ (otpExpiryMinutes * 60 * 1000)
      report := fun now _ => [.created now] }
  return ⟨true, none, some code⟩

/-- What reading the record of a code means for a guess at it. -/
def comparison (guess : String) : Option OtpRecord → List OtpEvent
  | some ⟨code, attempts⟩ => if attempts < otpMaxAttempts then [.compared (code == guess)] else []
  | none => []

def verifyOtp (identifier : String) (purpose : OtpPurpose) (guess : String) (method : String) :
    OtpService VerifyOtpResult := do
  let key := otpKey identifier purpose method
  let data ← Program.command { command := .get key, report := fun _ => comparison guess }
  match data with
  | none => return ⟨false, some "expired"⟩
  | some read =>
    -- asked of the copy that was read; the key may have changed since
    if read.attempts ≥ otpMaxAttempts then
      (StoreCommand.del key).issue
      return ⟨false, some "too_many_attempts"⟩
    else if read.code ≠ guess then
      Program.command
        -- the whole value is written back, with the attempts that were read and one more
        { command := .setKeepTtl key { read with attempts := read.attempts + 1 }
          report := fun _ _ => [.missRecorded read] }
      return ⟨false, some "invalid_otp"⟩
    else
      Program.command { command := .del key, report := fun now _ => [.accepted read now] }
      return ⟨true, none⟩

/-- The calls about one code. -/
inductive OtpOp
  | createOtp (code : String)
  | verifyOtp (guess : String)

def OtpOp.program (identifier : String) (purpose : OtpPurpose) (method : String) :
    OtpOp → OtpService Unit
  | .createOtp code => do
    let _ ← Deliivo.createOtp identifier purpose method code
  | .verifyOtp guess => do
    let _ ← Deliivo.verifyOtp identifier purpose guess method

end Deliivo

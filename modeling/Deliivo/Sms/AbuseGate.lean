import Deliivo.Arith.Calendar
import Deliivo.Store.Counter

/-!
# What may be sent by SMS

A one-time code costs money to send. Before one goes out, its country is looked up in an allowlist, and
the attempt is counted under three keys: the number on this day, all numbers on this day, and all
numbers in this month. Each count is held against its cap, in this order, and stays counted where the
attempt is turned away. A spend cap that is exceeded raises one alert in its window.

## Main definitions

* `bumpCounter`: count a key up, and let a new count expire
* `alertSpendCapOnce`: one alert in a window
* `assertSmsAllowed`: the gate
* `smsPool`: attempts next to each other, while time passes
-/

open Calendar (Date dateFromDay msPerDay)
open Program (Concurrent Logged)

namespace Deliivo.Sms

/-- `PER_PHONE_TTL_SEC`. -/
def perPhoneTtlSec : ℕ := 60 * 60 * 48

/-- `DAILY_TTL_SEC`. -/
def dailyTtlSec : ℕ := 60 * 60 * 48

/-- `MONTHLY_TTL_SEC`. -/
def monthlyTtlSec : ℕ := 60 * 60 * 24 * 40

/-- The date that a moment falls on. -/
def dayId (now : ℕ) : Date := dateFromDay (now / msPerDay)

/-- The year and the month that it falls into. -/
def monthId (now : ℕ) : ℕ × ℕ := ((dayId now).year, (dayId now).month)

/-- A day, or a month, for which spending is capped. -/
inductive SmsWindow
  | daily (day : Date)
  | monthly (month : ℕ × ℕ)
  deriving DecidableEq

inductive SmsKey
  | phone (day : Date) (phone : String)
  | spend (window : SmsWindow)
  | spendAlerted (window : SmsWindow)
  deriving DecidableEq

structure SmsAbuseConfig where
  /-- Empty where all countries are allowed. -/
  allowedCountryCodes : List String
  perPhoneDailyMax : ℕ
  dailySpendCap : Option ℕ
  monthlySpendCap : Option ℕ
  adminAlertEmail : Option String

inductive SmsAllowResult
  | ok
  | refused (error : String)
  deriving DecidableEq

/-- What the attempts are seen to do. -/
inductive SmsEvent
  | began (now : ℕ)
  | allowed (phone : String) (now : ℕ)
  /-- The number has had its messages for the day. -/
  | capExceeded (phone : String) (now : ℕ)
  /-- A spend cap is reported as exceeded. -/
  | capBreached (window : SmsWindow) (count cap : ℕ)
  | alertMailed (email : String) (window : SmsWindow) (count cap : ℕ)
  deriving DecidableEq

inductive SmsFailure
  | redisUnavailable

abbrev SmsService := Program (CounterCall SmsKey SmsEvent SmsFailure) SmsFailure

def note (e : SmsEvent) : SmsService Unit := Program.command (.note e)

/-- Count a key up, and set its time to live on the first write. -/
def bumpCounter (key : SmsKey) (ttlSec : ℕ) : SmsService ℕ := do
  let value ← Program.perform (.store (.incr key))
  if value = 1 then
    Program.perform (.store (.expire key (ttlSec * 1000)))
  return value

def alertSpendCapOnce (window : SmsWindow) (count cap ttlSec : ℕ) (adminAlertEmail : Option String) :
    SmsService Unit := do
  let acquired ← Program.perform (.store (.setNx (.spendAlerted window) (ttlSec * 1000)))
  if acquired then
    note (.capBreached window count cap)
    match adminAlertEmail with
    | none => return ()
    | some email => note (.alertMailed email window count cap)

def spendRefusal : SmsAllowResult := .refused "SMS temporarily unavailable. Please try again later."

/-- Count an attempt in a window whose spending is capped; whether it is within the cap. -/
def withinSpendCap (window : SmsWindow) (spendCap : Option ℕ) (ttlSec : ℕ)
    (adminAlertEmail : Option String) : SmsService Bool :=
  match spendCap with
  | none => return true
  | some cap => do
    let count ← bumpCounter (.spend window) ttlSec
    if count > cap then
      alertSpendCapOnce window count cap ttlSec adminAlertEmail
      return false
    return true

/-- The country of the number is one of those that are allowed. -/
def countryAllowed (countryCallingCode : String → Option String) (config : SmsAbuseConfig)
    (phone : String) : Bool :=
  config.allowedCountryCodes.isEmpty ||
    (countryCallingCode phone).any fun code => code != "" && config.allowedCountryCodes.contains code

/-- The gate, checked once for every message that is to go out. -/
def assertSmsAllowed (countryCallingCode : String → Option String) (config : SmsAbuseConfig)
    (phone : String) : SmsService SmsAllowResult := do
  if !countryAllowed countryCallingCode config phone then
    return .refused "SMS to this country is not supported"
  else
    let now ← Program.command .clock
    note (.began now)
    -- counted before it is compared, so a refused request counts too
    let perPhoneCount ← bumpCounter (.phone (dayId now) phone) perPhoneTtlSec
    if perPhoneCount > config.perPhoneDailyMax then
      note (.capExceeded phone now)
      return .refused "Too many OTP requests for this number today. Try again later."
    else
      let daily ← withinSpendCap (.daily (dayId now)) config.dailySpendCap dailyTtlSec
        config.adminAlertEmail
      if !daily then
        return spendRefusal
      else
        let monthly ← withinSpendCap (.monthly (monthId now)) config.monthlySpendCap monthlyTtlSec
          config.adminAlertEmail
        if !monthly then
          return spendRefusal
        else
          note (.allowed phone now)
          return .ok

/-- One attempt to send, named by its number. -/
def smsProgram (countryCallingCode : String → Option String) (config : SmsAbuseConfig)
    (phone : String) : SmsService Unit := do
  let _ ← assertSmsAllowed countryCallingCode config phone

/-- Attempts to send next to each other, while time passes. -/
def smsPool (countryCallingCode : String → Option String) (config : SmsAbuseConfig) :
    Concurrent (CounterCall SmsKey SmsEvent SmsFailure) SmsFailure CounterReply
      (CounterEvent SmsKey SmsEvent) (ExpiringStore SmsKey ℕ) ℕ String :=
  counterPool .redisUnavailable (smsProgram countryCallingCode config)

abbrev LoggedSms := Logged (CounterEvent SmsKey SmsEvent) (ExpiringStore SmsKey ℕ)

end Deliivo.Sms

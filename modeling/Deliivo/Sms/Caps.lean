import Deliivo.Sms.AbuseGate

/-!
# The caps hold

Counts expire, and an attempt counts under the day on which it has looked at the clock, whenever its
commands come to the store. While they come within a day of that look, no count expires under an attempt
that still belongs to it, so what is let through stays within its cap: by number and day, by day, and by
month.

## Main definitions

* `Prompt`: the commands of an attempt come within a day
* `allowedCalls`: the attempts that have been let through

## Main results

* `sms_within_caps`: no cap is exceeded by what is let through
* `sms_alerted_once`: a window has one alert at most
* `sms_turned_away_late`: a number is turned away once it has had its messages for the day
-/

open Calendar (msPerDay monthStart dayOfDate)
open Program (Logged Move Pool Protocol)

namespace Deliivo.Sms

/-! ## Days and months -/

def SmsWindow.start : SmsWindow → ℕ
  | .daily day => msPerDay * dayOfDate day
  | .monthly month => msPerDay * monthStart month.1 month.2

def SmsWindow.length : SmsWindow → ℕ
  | .daily _ => dailyTtlSec * 1000
  | .monthly _ => monthlyTtlSec * 1000

/-- When the earliest attempt that counts under a key may have looked at the clock. -/
def SmsKey.start : SmsKey → ℕ
  | .phone day _ => msPerDay * dayOfDate day
  | .spend window | .spendAlerted window => window.start

/-- How long a count lives. -/
def SmsKey.length : SmsKey → ℕ
  | .phone _ _ => perPhoneTtlSec * 1000
  | .spend window | .spendAlerted window => window.length

/-- The commands of an attempt with this look at the clock find the count as it is. -/
def SmsKey.Covers (k : SmsKey) (now : ℕ) : Prop :=
  k.start ≤ now ∧ now + msPerDay ≤ k.start + k.length

variable {now : ℕ}

theorem covers_phone (phone : String) : (SmsKey.phone (dayId now) phone).Covers now := by
  have hdiv := Nat.div_add_mod now msPerDay
  have hmod := Nat.mod_lt now (by decide : 0 < msPerDay)
  simp only [SmsKey.Covers, SmsKey.start, SmsKey.length, dayId, Calendar.dayOfDate_dateFromDay,
    perPhoneTtlSec]
  simp only [msPerDay] at hdiv hmod ⊢
  omega

theorem covers_daily : (SmsKey.spend (.daily (dayId now))).Covers now := covers_phone ""

theorem covers_monthly : (SmsKey.spend (.monthly (monthId now))).Covers now := by
  have hdiv := Nat.div_add_mod now msPerDay
  have hmod := Nat.mod_lt now (by decide : 0 < msPerDay)
  have hstart := Calendar.monthStart_le (now / msPerDay)
  have hend := Calendar.lt_monthStart_add (now / msPerDay)
  simp only [SmsKey.Covers, SmsKey.start, SmsWindow.start, SmsKey.length, SmsWindow.length, monthId, dayId,
    monthlyTtlSec]
  simp only [msPerDay] at hdiv hmod hstart hend ⊢
  omega

/-! ## What is said of the log -/

/-- The commands of an attempt come to the store within a day of its look at the clock. -/
def Prompt (_ : String) (tid : ℕ) (x : LoggedSms) (_ : CounterReply)
    (es : List (CounterEvent SmsKey SmsEvent)) : Prop :=
  ∀ k h now, .hit k h ∈ es → .own (.began now) ∈ x.own tid → h.moment < now + msPerDay

/-- An attempt is let through, for a number and at a moment with `P`. -/
def allowedFor (P : String → ℕ → Bool) : CounterEvent SmsKey SmsEvent → Bool
  | .own (.allowed phone now) => P phone now
  | _ => false

/-- How many attempts have been let through. -/
def allowedCalls (P : String → ℕ → Bool) (log : List (ℕ × CounterEvent SmsKey SmsEvent)) : ℕ :=
  (log.map Prod.snd).countP (allowedFor P)

/-- What has been let through is within its caps: for a number on a day, for a day, and for a month. -/
structure WithinCaps (config : SmsAbuseConfig) (log : List (ℕ × CounterEvent SmsKey SmsEvent)) :
    Prop where
  phone : ∀ phone day, allowedCalls (fun phone' now => phone' == phone && dayId now == day) log ≤
    config.perPhoneDailyMax
  daily : ∀ cap ∈ config.dailySpendCap, ∀ day, allowedCalls (fun _ now => dayId now == day) log ≤ cap
  monthly : ∀ cap ∈ config.monthlySpendCap, ∀ month,
    allowedCalls (fun _ now => monthId now == month) log ≤ cap

/-- A spend cap is reported as exceeded. -/
def isBreach (window : SmsWindow) : CounterEvent SmsKey SmsEvent → Bool
  | .own (.capBreached window' _ _) => window' == window
  | _ => false

def isHitWithin (k : SmsKey) (n : ℕ) (e : CounterEvent SmsKey SmsEvent) : Bool :=
  (e.hitOf k).any fun h => decide (h.value ≤ n)

/-- Which attempts count under a key. -/
def SmsKey.concerns : SmsKey → String → ℕ → Bool
  | .phone day number, other, now => other == number && dayId now == day
  | .spend (.daily day), _, now => dayId now == day
  | .spend (.monthly month), _, now => monthId now == month
  | .spendAlerted _, _, _ => false

def SmsAbuseConfig.capOf (config : SmsAbuseConfig) : SmsKey → Option ℕ
  | .phone _ _ => some config.perPhoneDailyMax
  | .spend (.daily _) => config.dailySpendCap
  | .spend (.monthly _) => config.monthlySpendCap
  | .spendAlerted _ => none

/-- What an attempt has counted in time. -/
def Timely (own : List (CounterEvent SmsKey SmsEvent)) : Prop :=
  ∀ k h, .hit k h ∈ own → k.start ≤ h.moment ∧ h.moment < k.start + k.length

/-- What holds of the log of an attempt. -/
structure SmsOk (config : SmsAbuseConfig) (own : List (CounterEvent SmsKey SmsEvent)) : Prop where
  timely : Timely own
  within : ∀ k n, config.capOf k = some n →
    own.countP (allowedFor k.concerns) ≤ own.countP (isHitWithin k n)
  alerted : ∀ window,
    own.countP (isBreach window) ≤ own.countP (isHitWithin (.spendAlerted window) 1)
  exceeded : ∀ phone now, .own (.capExceeded phone now) ∈ own →
    ∃ h, .hit (.phone (dayId now) phone) h ∈ own ∧ config.perPhoneDailyMax < h.value

/-- An attempt is under way: it has passed the caps of some keys, and nothing is decided. -/
structure Underway (config : SmsAbuseConfig) (now : ℕ) (passed : List SmsKey)
    (own : List (CounterEvent SmsKey SmsEvent)) : Prop where
  began : .own (.began now) ∈ own
  timely : Timely own
  undecided : ∀ e, .own e ∈ own → e = .began now
  passed : ∀ k ∈ passed, ∀ n, config.capOf k = some n → ∃ h, .hit k h ∈ own ∧ h.value ≤ n

section Logs

variable {config : SmsAbuseConfig} {passed : List SmsKey} {own : List (CounterEvent SmsKey SmsEvent)}
  {k : SmsKey} {h : Hit}

theorem one_le_countP_isHitWithin {n : ℕ} (hmem : .hit k h ∈ own) (hle : h.value ≤ n) :
    1 ≤ own.countP (isHitWithin k n) :=
  List.countP_pos_iff.mpr ⟨_, hmem, by simp [isHitWithin, CounterEvent.hitOf, hle]⟩

theorem Timely.concat (ht : Timely own) (hk : k.Covers now) (hlow : now ≤ h.moment)
    (hhigh : h.moment < now + msPerDay) : Timely (own ++ [.hit k h]) := by
  intro k' h' hmem
  rcases List.mem_append.mp hmem with hmem | hmem
  · exact ht k' h' hmem
  · obtain ⟨rfl, rfl⟩ := CounterEvent.hit.inj (List.mem_singleton.mp hmem)
    obtain ⟨hstart, hend⟩ := hk
    omega

theorem Timely.concat_own (ht : Timely own) (e : SmsEvent) : Timely (own ++ [.own e]) := by
  intro k h hmem
  refine ht k h ((List.mem_append.mp hmem).resolve_right fun hmem => ?_)
  cases List.mem_singleton.mp hmem

theorem Underway.countP_allowed (hu : Underway config now passed own) (P : String → ℕ → Bool) :
    own.countP (allowedFor P) = 0 := by
  refine List.countP_eq_zero.mpr fun e he => ?_
  cases e with
  | hit k h => exact Bool.false_ne_true
  | own e =>
    rw [hu.undecided e he]
    exact Bool.false_ne_true

theorem Underway.countP_breach (hu : Underway config now passed own) (window : SmsWindow) :
    own.countP (isBreach window) = 0 := by
  refine List.countP_eq_zero.mpr fun e he => ?_
  cases e with
  | hit k h => exact Bool.false_ne_true
  | own e =>
    rw [hu.undecided e he]
    exact Bool.false_ne_true

theorem Underway.not_exceeded (hu : Underway config now passed own) {phone : String} {now' : ℕ} :
    .own (.capExceeded phone now') ∉ own := fun hmem => by cases hu.undecided _ hmem

theorem Underway.ok (hu : Underway config now passed own) : SmsOk config own where
  timely := hu.timely
  within _ _ _ := (hu.countP_allowed _).trans_le (Nat.zero_le _)
  alerted _ := (hu.countP_breach _).trans_le (Nat.zero_le _)
  exceeded _ _ hmem := absurd hmem hu.not_exceeded

theorem Underway.hit (hu : Underway config now passed own) (hk : k.Covers now) (hlow : now ≤ h.moment)
    (hhigh : h.moment < now + msPerDay) : Underway config now passed (own ++ [.hit k h]) where
  began := List.mem_append_left _ hu.began
  timely := hu.timely.concat hk hlow hhigh
  undecided e he := hu.undecided e <| (List.mem_append.mp he).resolve_right fun hmem => by
    cases List.mem_singleton.mp hmem
  passed k' hk' n hcap :=
    let ⟨h', hmem, hle⟩ := hu.passed k' hk' n hcap
    ⟨h', List.mem_append_left _ hmem, hle⟩

theorem Underway.pass (hu : Underway config now passed own)
    (hle : ∀ n, config.capOf k = some n → ∃ h, .hit k h ∈ own ∧ h.value ≤ n) :
    Underway config now (k :: passed) own :=
  { hu with passed := List.forall_mem_cons.mpr ⟨hle, hu.passed⟩ }

/-- An attempt may be let through once it has passed the caps that concern it. -/
theorem Underway.allow (hu : Underway config now passed own) {phone : String}
    (hpassed : ∀ k n, config.capOf k = some n → k.concerns phone now = true → k ∈ passed) :
    SmsOk config (own ++ [.own (.allowed phone now)]) where
  timely := hu.timely.concat_own _
  within k n hcap := by
    rw [List.countP_append, List.countP_append, hu.countP_allowed, Nat.zero_add]
    by_cases hconcerns : k.concerns phone now = true
    · obtain ⟨h, hmem, hle⟩ := hu.passed k (hpassed k n hcap hconcerns) n hcap
      have hone := one_le_countP_isHitWithin hmem hle
      exact List.countP_le_length.trans (hone.trans (Nat.le_add_right _ _))
    · rw [List.countP_singleton]
      change (if k.concerns phone now = true then 1 else 0) ≤ _
      rw [if_neg hconcerns]
      exact Nat.zero_le _
  alerted window := by
    rw [List.countP_append, hu.countP_breach]
    exact Nat.zero_le _
  exceeded phone' now' hmem := by
    rcases List.mem_append.mp hmem with hmem | hmem
    · exact absurd hmem hu.not_exceeded
    · cases List.mem_singleton.mp hmem

/-- A number may be turned away once it has been counted beyond its cap. -/
theorem Underway.exceed (hu : Underway config now passed own) {phone : String}
    (hmem : .hit (.phone (dayId now) phone) h ∈ own) (hlt : config.perPhoneDailyMax < h.value) :
    SmsOk config (own ++ [.own (.capExceeded phone now)]) where
  timely := hu.timely.concat_own _
  within k n _ := by
    rw [List.countP_append, hu.countP_allowed]
    exact Nat.zero_le _
  alerted window := by
    rw [List.countP_append, hu.countP_breach]
    exact Nat.zero_le _
  exceeded phone' now' hmem' := by
    rcases List.mem_append.mp hmem' with hmem' | hmem'
    · exact absurd hmem' hu.not_exceeded
    · obtain ⟨rfl, rfl⟩ := SmsEvent.capExceeded.inj (CounterEvent.own.inj (List.mem_singleton.mp hmem'))
      exact ⟨h, List.mem_append_left _ hmem, hlt⟩

/-- An alert may be raised by who has set its flag. -/
theorem Underway.breach (hu : Underway config now passed own) {window : SmsWindow} {t : ℕ}
    (hmem : .hit (.spendAlerted window) ⟨1, t⟩ ∈ own) (count cap : ℕ) :
    SmsOk config (own ++ [.own (.capBreached window count cap)]) where
  timely := hu.timely.concat_own _
  within k n _ := by
    rw [List.countP_append, hu.countP_allowed]
    exact Nat.zero_le _
  alerted window' := by
    rw [List.countP_append, List.countP_append, hu.countP_breach, Nat.zero_add]
    rcases eq_or_ne window window' with rfl | hne
    · have hone := one_le_countP_isHitWithin (n := 1) hmem le_rfl
      exact List.countP_le_length.trans (hone.trans (Nat.le_add_right _ _))
    · rw [List.countP_singleton]
      change (if (window == window') = true then 1 else 0) ≤ _
      rw [if_neg (by simpa using hne)]
      exact Nat.zero_le _
  exceeded phone' now' hmem' := by
    rcases List.mem_append.mp hmem' with hmem' | hmem'
    · exact absurd hmem' hu.not_exceeded
    · cases List.mem_singleton.mp hmem'

theorem SmsOk.mailed (hok : SmsOk config own) {email : String} {window : SmsWindow} {count cap : ℕ} :
    SmsOk config (own ++ [.own (.alertMailed email window count cap)]) where
  timely := hok.timely.concat_own _
  within k n hcap := by
    rw [List.countP_append, List.countP_append]
    exact Nat.add_le_add (hok.within k n hcap) (Nat.zero_le _)
  alerted window' := by
    rw [List.countP_append, List.countP_append]
    exact Nat.add_le_add (hok.alerted window') (Nat.zero_le _)
  exceeded phone now hmem := by
    rcases List.mem_append.mp hmem with hmem | hmem
    · obtain ⟨h, hmem, hlt⟩ := hok.exceeded phone now hmem
      exact ⟨h, List.mem_append_left _ hmem, hlt⟩
    · cases List.mem_singleton.mp hmem

end Logs

/-! ## The attempts -/

/-- The attempts keep to the caps while their commands come in time. -/
abbrev smsProtocol (countryCallingCode : String → Option String) (config : SmsAbuseConfig) :
    Protocol (counterPool .redisUnavailable (smsProgram countryCallingCode config)) Prompt
      fun _ _ => True :=
  counting SmsFailure.redisUnavailable (smsProgram countryCallingCode config) SmsKey.length
    (SmsOk config) Prompt

section Attempts

variable {countryCallingCode : String → Option String} {config : SmsAbuseConfig} {op : String} {tid : ℕ}
  {x : LoggedSms} {passed : List SmsKey} {k : SmsKey} {ttlSec : ℕ}

/-- An attempt that is under way, as its thread has logged it. -/
def At (config : SmsAbuseConfig) (now : ℕ) (passed : List SmsKey) (tid : ℕ) (x : LoggedSms) : Prop :=
  Underway config now passed (x.own tid) ∧ now ≤ x.state.now

theorem stable_at : (smsProtocol countryCallingCode config).Stable tid (At config now passed tid) :=
  fun _ _ hx hy _ => ⟨hy.1.symm ▸ hx.1, hx.2.trans hy.2⟩

theorem stable_counted (h : Hit) : (smsProtocol countryCallingCode config).Stable tid fun x =>
    At config now passed tid x ∧ .hit k h ∈ x.own tid :=
  fun _ _ hx hy hinv => ⟨stable_at _ _ hx.1 hy hinv, hy.1.symm ▸ hx.2⟩

/-- A count that is reported is one that the attempt has made. -/
def CountedAs (config : SmsAbuseConfig) (now : ℕ) (passed : List SmsKey) (tid : ℕ) (k : SmsKey) :
    Except SmsFailure ℕ → LoggedSms → Prop
  | .ok v, x => ∃ t, At config now passed tid x ∧ .hit k ⟨v, t⟩ ∈ x.own tid
  | .error _, _ => True

theorem safe_bumpCounter (hk : k.Covers now) (httl : k.length = ttlSec * 1000)
    (hx : At config now passed tid x) :
    (smsProtocol countryCallingCode config).Safe op tid (CountedAs config now passed tid k)
      (bumpCounter k ttlSec) x := by
  refine Protocol.Safe.bind (counting_perform stable_at hx trivial (fun y i hy hcond => ?_)
    fun _ _ => trivial)
  rw [CounterCommand.exec_incr] at hcond ⊢
  simp only [counted, List.map_cons, List.map_nil] at hcond ⊢
  have hhit := hy.1.hit (h := ⟨((CounterCommand.incr k).exec y.state).1, y.state.now⟩) hk hy.2
    (hcond k _ now List.mem_cons_self hy.1.began)
  refine ⟨hhit.ok, ?_, trivial⟩
  generalize hv : ((CounterCommand.incr k).exec y.state).1 = v at hhit ⊢
  have hat : At config now passed tid (y.next tid [.hit k ⟨v, y.state.now⟩]
      ((CounterCommand.incr k).exec y.state).2.2) ∧ .hit k ⟨v, y.state.now⟩ ∈ (y.next tid
        [.hit k ⟨v, y.state.now⟩] ((CounterCommand.incr k).exec y.state).2.2).own tid := by
    rw [At, Logged.own_next_self, Logged.next_state, CounterCommand.exec_now]
    exact ⟨⟨hhit, hy.2⟩, List.mem_append_right _ List.mem_cons_self⟩
  by_cases hone : v = 1
  · -- the first value gives the count its time to live
    rw [if_pos hone]
    refine Protocol.Safe.bind (counting_perform (stable_counted _) hat httl.le (fun z i hz _ => ?_)
      fun _ _ => trivial)
    rw [CounterCommand.exec_expire, counted_nil, List.append_nil]
    refine ⟨hz.1.1.ok, ⟨y.state.now, ?_⟩, trivial⟩
    rw [At, Logged.own_next_self, Logged.next_state, CounterCommand.exec_now, List.append_nil]
    exact hz
  · rw [if_neg hone]
    exact ⟨y.state.now, hat⟩

theorem safe_alertSpendCapOnce {window : SmsWindow} {count cap : ℕ} {email : Option String}
    (hk : (SmsKey.spend window).Covers now) (httl : window.length = ttlSec * 1000)
    (hx : At config now passed tid x) :
    (smsProtocol countryCallingCode config).Safe op tid (fun _ _ => True)
      (alertSpendCapOnce window count cap ttlSec email) x := by
  refine Protocol.Safe.bind (counting_perform stable_at hx httl.le (fun y i hy hcond => ?_)
    fun _ _ => trivial)
  rw [CounterCommand.exec_setNx] at hcond ⊢
  generalize hacquired : ((CounterCommand.setNx (.spendAlerted window) (ttlSec * 1000)).exec
    y.state).1 = acquired at hcond ⊢
  cases acquired with
  | false => exact ⟨by simpa using hy.1.ok, trivial, trivial⟩
  | true =>
    simp only [if_true, counted_singleton] at hcond ⊢
    have hhit := hy.1.hit (k := .spendAlerted window) (h := ⟨1, y.state.now⟩) hk hy.2
      (hcond _ _ now List.mem_cons_self hy.1.began)
    refine ⟨hhit.ok, ?_, trivial⟩
    have hat : At config now passed tid (y.next tid [.hit (.spendAlerted window) ⟨1, y.state.now⟩]
        ((CounterCommand.setNx (.spendAlerted window) (ttlSec * 1000)).exec y.state).2.2) ∧
        .hit (.spendAlerted window) ⟨1, y.state.now⟩ ∈ (y.next tid
          [.hit (.spendAlerted window) ⟨1, y.state.now⟩]
          ((CounterCommand.setNx (.spendAlerted window) (ttlSec * 1000)).exec y.state).2.2).own tid := by
      rw [At, Logged.own_next_self, Logged.next_state, CounterCommand.exec_now]
      exact ⟨⟨hhit, hy.2⟩, List.mem_append_right _ List.mem_cons_self⟩
    refine Protocol.Safe.bind (counting_note (stable_counted _) hat fun z hz => ?_)
    have hok := hz.1.1.breach hz.2 count cap
    refine ⟨hok, ?_⟩
    cases email with
    | none => trivial
    | some email =>
      refine counting_note (A := fun x => SmsOk config (x.own tid))
        (fun _ _ hx hy _ => (congrArg (SmsOk config) hy.1).mpr hx) ?_
        fun z hz => ⟨hz.mailed, trivial⟩
      rwa [Logged.own_next_self]

/-- Spending in a window that is within its cap has passed it. -/
def WithinAs (config : SmsAbuseConfig) (now : ℕ) (passed : List SmsKey) (tid : ℕ) (window : SmsWindow) :
    Except SmsFailure Bool → LoggedSms → Prop
  | .ok true, x => At config now (.spend window :: passed) tid x
  | .ok false, _ | .error _, _ => True

theorem safe_withinSpendCap {window : SmsWindow} {spendCap : Option ℕ} {email : Option String}
    (hk : (SmsKey.spend window).Covers now) (httl : window.length = ttlSec * 1000)
    (hcap : config.capOf (.spend window) = spendCap) (hx : At config now passed tid x) :
    (smsProtocol countryCallingCode config).Safe op tid (WithinAs config now passed tid window)
      (withinSpendCap window spendCap ttlSec email) x := by
  cases spendCap with
  | none =>
    refine ⟨hx.1.pass fun n hn => ?_, hx.2⟩
    rw [hcap] at hn
    cases hn
  | some cap =>
    refine Protocol.Safe.bind ((safe_bumpCounter hk httl hx).mono ?_)
    rintro (e | count) y hy
    · trivial
    · obtain ⟨t, hat, hmem⟩ := hy
      change (smsProtocol countryCallingCode config).Safe op tid _ (if count > cap then _ else _) y
      split_ifs with hover
      · refine Protocol.Safe.bind ((safe_alertSpendCapOnce hk httl hat).mono ?_)
        rintro (e | -) z - <;> trivial
      · refine ⟨hat.1.pass fun n hn => ⟨_, hmem, ?_⟩, hat.2⟩
        rw [hcap] at hn
        exact Option.some.inj hn ▸ not_lt.mp hover

/-- Which keys an attempt counts under. -/
theorem mem_of_concerns {k : SmsKey} {phone : String} (h : k.concerns phone now = true) :
    k ∈ [.spend (.monthly (monthId now)), .spend (.daily (dayId now)), .phone (dayId now) phone] := by
  cases k with
  | phone day number =>
    simp only [SmsKey.concerns, Bool.and_eq_true, beq_iff_eq] at h
    obtain ⟨rfl, rfl⟩ := h
    simp
  | spend window =>
    cases window with
    | daily day => simp [beq_iff_eq.mp h]
    | monthly month => simp [beq_iff_eq.mp h]
  | spendAlerted window => cases h

theorem safe_assertSmsAllowed (phone : String) (hx : x.own tid = []) :
    (smsProtocol countryCallingCode config).Safe op tid (fun _ _ => True)
      (assertSmsAllowed countryCallingCode config phone) x := by
  rw [assertSmsAllowed]
  split_ifs
  · trivial
  refine Protocol.Safe.bind (counting_clock (stable_own [] 0) ⟨hx, Nat.zero_le _⟩ fun y hy => ?_)
  refine Protocol.Safe.bind (counting_note (stable_own [] y.state.now) ⟨hy.1, le_rfl⟩ fun z hz => ?_)
  -- the call has begun at this moment and has counted nothing yet
  have hbegan : Underway config y.state.now [] [.own (.began y.state.now)] := {
    began := List.mem_cons_self
    timely := fun k h hmem => by cases List.mem_singleton.mp hmem
    undecided := fun e he => CounterEvent.own.inj (List.mem_singleton.mp he)
    passed := fun _ hk => absurd hk List.not_mem_nil }
  rw [hz.1, List.nil_append]
  refine ⟨hbegan.ok, ?_⟩
  have hat : At config y.state.now [] tid (z.next tid [.own (.began y.state.now)] z.state) := by
    rw [At, Logged.own_next_self, hz.1]
    exact ⟨hbegan, hz.2⟩
  refine Protocol.Safe.bind ((safe_bumpCounter (covers_phone phone) rfl hat).mono ?_)
  rintro (e | count) u hu
  · trivial
  obtain ⟨t, hu, hmem⟩ := hu
  change (smsProtocol countryCallingCode config).Safe op tid _
    (if count > config.perPhoneDailyMax then _ else _) u
  split_ifs with hover
  · refine Protocol.Safe.bind (counting_note (stable_counted _) ⟨hu, hmem⟩ fun v hv => ?_)
    exact ⟨hv.1.1.exceed hv.2 hover, trivial⟩
  · -- the phone's own cap is passed; the two spend caps follow in turn
    have hphone : At config y.state.now [.phone (dayId y.state.now) phone] tid u :=
      ⟨hu.1.pass fun n hn => ⟨_, hmem, Option.some.inj hn ▸ not_lt.mp hover⟩, hu.2⟩
    refine Protocol.Safe.bind ((safe_withinSpendCap covers_daily rfl rfl hphone).mono ?_)
    rintro (e | _ | _) v hv
    · trivial
    · trivial
    refine Protocol.Safe.bind ((safe_withinSpendCap covers_monthly rfl rfl hv).mono ?_)
    rintro (e | _ | _) v' hv'
    · trivial
    · trivial
    refine Protocol.Safe.bind (counting_note stable_at hv' fun z' hz' => ?_)
    exact ⟨hz'.1.allow fun k n _ hconcerns => mem_of_concerns hconcerns, trivial⟩

theorem safeOperations_sms : (smsProtocol countryCallingCode config).SafeOperations := by
  intro phone tid x _ hfresh
  exact Protocol.Safe.sequence (safe_assertSmsAllowed phone (Logged.own_eq_nil hfresh))
    fun _ _ _ => trivial

end Attempts

/-! ## Runs -/

/-- A store in which nothing has been counted. -/
def smsStart : Pool (CounterCall SmsKey SmsEvent SmsFailure) SmsFailure (CounterEvent SmsKey SmsEvent)
    (ExpiringStore SmsKey ℕ) String where
  now := { state := {} }

section Runs

variable (countryCallingCode : String → Option String) (config : SmsAbuseConfig)

/-- Every step of a run is prompt. -/
def PromptRun (moves : List (Move String CounterReply ℕ)) : Prop :=
  History.Each (Pool.step (smsPool countryCallingCode config))
    (Pool.Meets (smsPool countryCallingCode config) Prompt fun _ _ => True) smsStart moves

theorem holds_smsStart : (smsProtocol countryCallingCode config).Holds smsStart := by
  refine Protocol.holds_of_inv ⟨fun k => ⟨.nil, ?_, ?_, ?_⟩, fun t => ⟨?_, ?_, ?_, ?_⟩⟩ rfl rfl
  · exact fun _ hmem => absurd hmem List.not_mem_nil
  · exact fun v e hlive => by cases hlive
  · exact fun _ g hg => absurd hg (Option.not_mem_none g)
  · exact fun _ _ hmem => absurd hmem List.not_mem_nil
  · exact fun _ _ _ => le_rfl
  · exact fun _ => le_rfl
  · exact fun _ _ hmem => absurd hmem List.not_mem_nil

variable {countryCallingCode config} {moves : List (Move String CounterReply ℕ)}

theorem sms_protocol (hprompt : PromptRun countryCallingCode config moves) :
    History.Always (Pool.step (smsPool countryCallingCode config))
      (fun p => CountedAll SmsKey.length p.now ∧ ∀ t, SmsOk config (p.now.own t)) smsStart moves :=
  ((smsProtocol countryCallingCode config).sound safeOperations_sms
    (holds_smsStart countryCallingCode config) hprompt).imp fun _ h => h.inv

theorem countP_isHitWithin (k : SmsKey) (n : ℕ) (log : List (ℕ × CounterEvent SmsKey SmsEvent)) :
    (log.map Prod.snd).countP (isHitWithin k n) =
      (hits k log).countP fun h => decide (h.value ≤ n) := by
  rw [hits, List.countP_reverse, List.countP_filterMap, List.countP_map]
  refine List.countP_congr fun entry _ => ?_
  simp only [Function.comp_apply, isHitWithin]
  cases entry.2.hitOf k <;> rfl

section Log

variable {x : LoggedSms} (hcounted : CountedAll SmsKey.length x) (hok : ∀ t, SmsOk config (x.own t))

include hok

/-- What has been counted under a key has been counted in one window. -/
theorem hits_in_window (k : SmsKey) :
    ∀ h ∈ hits k x.log, k.start ≤ h.moment ∧ h.moment < k.start + k.length := by
  intro h hmem
  obtain ⟨t, hmem⟩ := mem_hits.mp hmem
  exact (hok t).timely k h (Logged.mem_own.mpr hmem)

include hcounted

theorem countP_hits (k : SmsKey) (n : ℕ) :
    (hits k x.log).countP (fun h => decide (h.value ≤ n)) = min n (lastValue (hits k x.log)) :=
  (hcounted k).windowed.count_eq (hits_in_window hok k) n

theorem allowedCalls_le (k : SmsKey) {n : ℕ} (hcap : config.capOf k = some n) :
    allowedCalls k.concerns x.log ≤ n := by
  refine (countP_log_le x fun t => (hok t).within k n hcap).trans ?_
  rw [countP_isHitWithin, countP_hits hcounted hok]
  exact Nat.min_le_left _ _

theorem countP_breach_le (window : SmsWindow) :
    (x.log.map Prod.snd).countP (isBreach window) ≤ 1 := by
  refine (countP_log_le x fun t => (hok t).alerted window).trans ?_
  rw [countP_isHitWithin, countP_hits hcounted hok]
  exact Nat.min_le_left _ _

/-- Whoever has been counted beyond a number comes after as many. -/
theorem countP_hits_of_lt {k : SmsKey} {n : ℕ} {h : Hit} (hmem : h ∈ hits k x.log) (hlt : n < h.value) :
    (hits k x.log).countP (fun h => decide (h.value ≤ n)) = n := by
  rw [countP_hits hcounted hok, Nat.min_eq_left]
  have hwindowed := (hcounted k).windowed
  rw [← hwindowed.currentHits_eq (hits_in_window hok k)] at hmem
  exact (hlt.trans_le (hwindowed.value_le_last h hmem)).le

end Log

/-- **No cap is exceeded** by what is let through. -/
theorem sms_within_caps (hprompt : PromptRun countryCallingCode config moves) :
    History.Always (Pool.step (smsPool countryCallingCode config))
      (fun p => WithinCaps config p.now.log) smsStart moves := by
  refine (sms_protocol hprompt).imp fun p ⟨hcounted, hok⟩ => ⟨?_, ?_, ?_⟩
  · exact fun phone day => allowedCalls_le hcounted hok (.phone day phone) rfl
  · exact fun cap hcap day => allowedCalls_le hcounted hok (.spend (.daily day)) hcap
  · exact fun cap hcap month => allowedCalls_le hcounted hok (.spend (.monthly month)) hcap

/-- **A spend cap is reported once** in its window. -/
theorem sms_alerted_once (hprompt : PromptRun countryCallingCode config moves) :
    History.Always (Pool.step (smsPool countryCallingCode config)) (fun p => ∀ window,
      (p.now.log.map Prod.snd).countP (isBreach window) ≤ 1) smsStart moves :=
  (sms_protocol hprompt).imp fun _ ⟨hcounted, hok⟩ => countP_breach_le hcounted hok

/-- **A number is turned away** only where it has been counted as often as it may be, on the same day. -/
theorem sms_turned_away_late (hprompt : PromptRun countryCallingCode config moves) :
    History.Always (Pool.step (smsPool countryCallingCode config)) (fun p => ∀ tid phone now,
      (tid, .own (.capExceeded phone now)) ∈ p.now.log →
      (hits (.phone (dayId now) phone) p.now.log).countP
        (fun h => decide (h.value ≤ config.perPhoneDailyMax)) = config.perPhoneDailyMax)
      smsStart moves := by
  refine (sms_protocol hprompt).imp fun p ⟨hcounted, hok⟩ tid phone now hmem => ?_
  obtain ⟨h, hhit, hlt⟩ := (hok tid).exceeded phone now (Logged.mem_own.mpr hmem)
  exact countP_hits_of_lt hcounted hok (mem_hits.mpr ⟨tid, Logged.mem_own.mp hhit⟩) hlt

/-! Three attempts, two of them for one number, where one message a day may be sent. -/

/-- A step on the first day of all comes in time. -/
theorem meets_prompt {p : Pool (CounterCall SmsKey SmsEvent SmsFailure) SmsFailure
    (CounterEvent SmsKey SmsEvent) (ExpiringStore SmsKey ℕ) String} (tid : ℕ) (i : CounterReply)
    (hearly : p.now.state.now < msPerDay) :
    p.Meets (smsPool countryCallingCode config) Prompt (fun _ _ => True) (.step tid i) := by
  intro op rest _
  cases rest with
  | ret a | throw e => trivial
  | step c k =>
    intro b es s hexec k h now hmem _
    obtain rfl := congrArg (fun r => r.2.1) (Option.some.inj hexec)
    rw [CounterCall.moment_eq hmem]
    omega

def oneADay : SmsAbuseConfig where
  allowedCountryCodes := []
  perPhoneDailyMax := 1
  dailySpendCap := some 1
  monthlySpendCap := none
  adminAlertEmail := none

def threeAttempts : List (Move String CounterReply ℕ) :=
  [.start "+37251000001", .step 0 .answered, .step 0 .answered, .start "+37251000001",
    .step 1 .answered, .step 1 .answered, .step 1 .answered, .step 0 .answered, .step 0 .answered,
    .step 1 .answered, .step 1 .answered, .step 1 .answered, .step 1 .answered,
    .start "+37251000002", .step 2 .answered, .step 2 .answered, .step 2 .answered, .step 2 .answered,
    .step 2 .answered, .step 2 .answered, .step 2 .answered]

theorem prompt_threeAttempts : PromptRun (fun _ => none) oneADay threeAttempts := by
  refine ⟨trivial, ?_, ?_, trivial, ?_, ?_, ?_, ?_, ?_, ?_, ?_, ?_, ?_, trivial, ?_, ?_, ?_, ?_, ?_, ?_,
    ?_, trivial⟩
  all_goals exact meets_prompt _ _ (by decide +kernel)

theorem sms_within_caps_threeAttempts :
    (1, .own (.allowed "+37251000001" 0)) ∈ (History.after
      (Pool.step (smsPool (fun _ => none) oneADay)) smsStart threeAttempts).now.log ∧
    History.Always (Pool.step (smsPool (fun _ => none) oneADay))
      (fun p => WithinCaps oneADay p.now.log) smsStart threeAttempts :=
  ⟨by decide +kernel, sms_within_caps prompt_threeAttempts⟩

theorem sms_alerted_once_threeAttempts :
    (2, .own (.capBreached (.daily ⟨1970, 1, 1⟩) 2 1)) ∈ (History.after
      (Pool.step (smsPool (fun _ => none) oneADay)) smsStart threeAttempts).now.log ∧
    History.Always (Pool.step (smsPool (fun _ => none) oneADay)) (fun p => ∀ window,
      (p.now.log.map Prod.snd).countP (isBreach window) ≤ 1) smsStart threeAttempts :=
  ⟨by decide +kernel, sms_alerted_once prompt_threeAttempts⟩

theorem sms_turned_away_late_threeAttempts :
    (0, .own (.capExceeded "+37251000001" 0)) ∈ (History.after
      (Pool.step (smsPool (fun _ => none) oneADay)) smsStart threeAttempts).now.log ∧
    History.Always (Pool.step (smsPool (fun _ => none) oneADay)) (fun p => ∀ tid phone now,
      (tid, .own (.capExceeded phone now)) ∈ p.now.log →
      (hits (.phone (dayId now) phone) p.now.log).countP
        (fun h => decide (h.value ≤ oneADay.perPhoneDailyMax)) = oneADay.perPhoneDailyMax)
      smsStart threeAttempts :=
  ⟨by decide +kernel, sms_turned_away_late prompt_threeAttempts⟩

end Runs

end Deliivo.Sms

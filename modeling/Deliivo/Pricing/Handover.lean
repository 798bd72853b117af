import Deliivo.Domain.Preserves
import Deliivo.Pricing.Service

/-!
# The handover from one pricing configuration to the next

A call that activates a configuration switches off the one it follows at once, while the new one
prices its region only from its own beginning. A history in which what is activated has begun, and no
configuration is taken out of the region that it prices, leaves no region that was priced without a
price, and nobody is charged by a configuration that is yet to begin. One that is to begin later
leaves the region without a price until then, and the default region is charged by it meanwhile.

## Main definitions

* `PricingCall`, `PricingStep`: the calls, and one of them at its instant
* `PricingCall.InTime`: what a call activates has begun
* `WellPriced`: one active row a region, and no charge by a row that is yet to begin

## Main results

* `pricing_handed_over`: the law of a history whose calls are in time
* `pricing_gap`: a configuration that begins later
-/

namespace Deliivo

/-! ## Histories -/

inductive PricingCall
  | create (input : PricingConfigInput)
  | update (id : ℕ) (input : PricingConfigChange)
  | resolve (regionCode : Option String)

/-- The call, which is answered by whatever it returns. -/
def PricingCall.service : PricingCall → Service Unit
  | create input => (fun _ => ()) <$> createPricingConfig input
  | update id input => (fun _ => ()) <$> updatePricingConfig id input
  | resolve regionCode => (fun _ => ()) <$> resolveActiveFeeTerms regionCode

/-- A call that writes a configuration makes it the active one. -/
def PricingCall.Activates : PricingCall → Prop
  | create input => input.active.getD true = true
  | update _ input => input.active = some true
  | resolve _ => True

/-- A call at its instant, with the replies that its steps meet. -/
structure PricingStep where
  time : ℕ
  call : PricingCall
  replies : ℕ → Reply

/-- The world that a call starts from. -/
def World.atTime (w : World) (time : ℕ) : World := { w with now := time }

/-- The world that a call leaves. -/
def PricingStep.after (s : PricingStep) (w : World) : World :=
  (Program.run world s.replies s.call.service 0 (w.atTime s.time)).2.2

/-- The world that a history leaves. -/
def afterPricing (w : World) (steps : List PricingStep) : World :=
  steps.foldl (fun w s => s.after w) w

/-! ## What is promised -/

/-- The terms are those of a configuration that has begun, or the ones that the code has of its
own. -/
def ResolvedFeeTerms.Begun (terms : ResolvedFeeTerms) (w : World) : Prop :=
  (∃ id config, w.db.pricingConfigs.get? id = some config ∧ config.validFrom ≤ w.now ∧
      terms = config.feeTerms terms.source) ∨
    terms = (defaultBalticPricingConfig 0).feeTerms .default

/-- From `now` on a region has at most one active row, and who asks for its fee terms is not given
those of a row that is yet to begin. -/
structure WellPriced (w : World) (now : ℕ) : Prop where
  oneActive : ∀ id₁ id₂ c₁ c₂, w.db.pricingConfigs.get? id₁ = some c₁ →
    w.db.pricingConfigs.get? id₂ = some c₂ → c₁.active = true → c₂.active = true →
    c₁.regionCode = c₂.regionCode → id₁ = id₂
  termsBegun : ∀ time, now ≤ time → ∀ replies regionCode terms n w',
    Program.run world replies (resolveActiveFeeTerms regionCode) 0 (w.atTime time) =
      (.ok terms, n, w') → terms.Begun w'

/-- A region that was priced when the call came stays priced from then on. -/
def StaysPriced (w : World) (s : PricingStep) : Prop :=
  ∀ regionCode, (activePricingConfig w.db s.time regionCode).isSome = true →
    ∀ time, s.time ≤ time → (activePricingConfig (s.after w).db time regionCode).isSome = true

/-! ## The condition on a call -/

/-- What begins at `validFrom` may take over the region: it has begun, or is awaited by nobody. -/
def MayTakeOver (d : Db) (now : ℕ) (regionCode : String) (validFrom : ℕ) : Prop :=
  regionCode = defaultRegion ∨ (activePricingConfig d now regionCode).isSome = true →
    validFrom ≤ now

/-- A configuration that changes its region does not price the one it leaves. -/
def MayMove (now : ℕ) (config : PricingConfig) (regionCode : String) : Prop :=
  regionCode ≠ config.regionCode → config.active = true → now < config.validFrom

/-- What the call activates has begun where the region is priced or is the default one, and is not
taken out of a region that it prices. -/
def PricingCall.InTime (d : Db) (now : ℕ) : PricingCall → Prop
  | create input => MayTakeOver d now input.regionCode (input.validFrom.getD now)
  | update id input => ∀ existing, d.pricingConfigs.get? id = some existing →
      MayTakeOver d now (input.regionCode.getD existing.regionCode)
        (input.validFrom.getD existing.validFrom) ∧
      MayMove now existing (input.regionCode.getD existing.regionCode)
  | resolve _ => True

/-- Every call of a history from `w` is in time. -/
def PricingInTime : World → List PricingStep → Prop
  | _, [] => True
  | w, s :: steps => s.call.InTime w.db s.time ∧ PricingInTime (s.after w) steps

/-! ## Lookups -/

section Lookups

variable {d : Db} {now : ℕ} {regionCode : String}

theorem PricingConfig.prices_iff {config : PricingConfig} :
    config.prices now regionCode = true ↔ config.regionCode = regionCode ∧ config.active = true ∧
      config.validFrom ≤ now ∧ ∀ validTo, config.validTo = some validTo → now < validTo := by
  cases h : config.validTo <;> simp [PricingConfig.prices, h, and_assoc]

theorem activePricingConfig_isSome :
    (activePricingConfig d now regionCode).isSome = true ↔
      ∃ id config, d.pricingConfigs.get? id = some config ∧ config.prices now regionCode = true := by
  rw [← not_iff_not, Bool.not_eq_true, Option.isSome_eq_false_iff, Option.isNone_iff_eq_none,
    activePricingConfig, List.argmax_eq_none]
  constructor
  · rintro h ⟨id, config, hrow, hprices⟩
    have hmem : (id, config) ∈ d.pricingConfigs.filter fun _ c => c.prices now regionCode :=
      Table.mem_filter_iff.mpr ⟨hrow, hprices⟩
    rw [h] at hmem
    exact List.not_mem_nil hmem
  · intro h
    apply List.eq_nil_iff_forall_not_mem.mpr
    rintro ⟨id, config⟩ hmem
    exact h ⟨id, config, Table.mem_filter_iff.mp hmem⟩

theorem of_activePricingConfig {id : ℕ} {config : PricingConfig}
    (h : activePricingConfig d now regionCode = some (id, config)) :
    d.pricingConfigs.get? id = some config ∧ config.prices now regionCode = true :=
  Table.mem_filter_iff.mp (List.argmax_mem h)

theorem of_firstOfDefaultRegion {id : ℕ} {config : PricingConfig}
    (h : firstOfDefaultRegion d = some (id, config)) :
    d.pricingConfigs.get? id = some config ∧ config.regionCode = defaultRegion := by
  obtain ⟨hrow, hregion⟩ := Table.mem_filter_iff.mp (List.argmax_mem h)
  exact ⟨hrow, beq_iff_eq.mp hregion⟩

theorem of_firstOfDefaultRegion_none (h : firstOfDefaultRegion d = none) (id : ℕ)
    (config : PricingConfig) (hrow : d.pricingConfigs.get? id = some config) :
    config.regionCode ≠ defaultRegion := by
  intro hregion
  have hmem : (id, config) ∈ d.pricingConfigs.filter fun _ c => c.regionCode == defaultRegion :=
    Table.mem_filter_iff.mpr ⟨hrow, beq_iff_eq.mpr hregion⟩
  rw [List.argmax_eq_none.mp h] at hmem
  exact List.not_mem_nil hmem

end Lookups

/-! ## The table as it is kept -/

/-- The rows after a history whose calls were in time. -/
structure PricingKept (t : Table PricingConfig) (now : ℕ) : Prop where
  oneActive : ∀ id₁ id₂ c₁ c₂, t.get? id₁ = some c₁ → t.get? id₂ = some c₂ → c₁.active = true →
    c₂.active = true → c₁.regionCode = c₂.regionCode → id₁ = id₂
  openEnded : ∀ id c, t.get? id = some c → c.active = true → c.validTo = none
  begun : ∀ id c, t.get? id = some c → c.regionCode = defaultRegion → c.validFrom ≤ now

theorem pricingKept_empty (now : ℕ) : PricingKept .empty now where
  oneActive := by simp
  openEnded := by simp
  begun := by simp

/-- What is kept at an instant is kept at every later one. -/
theorem PricingKept.mono {t : Table PricingConfig} {now time : ℕ} (h : PricingKept t now)
    (hle : now ≤ time) : PricingKept t time :=
  ⟨h.oneActive, h.openEnded, fun id c hrow hregion => (h.begun id c hrow hregion).trans hle⟩

/-- A row becomes the active one of its region under `id`, and the others of it are switched off. -/
structure TakesOver (t t' : Table PricingConfig) (id : ℕ) (row : PricingConfig) : Prop where
  active : row.active = true
  openEnded : row.validTo = none
  placed : t'.get? id = some row
  others : ∀ j, j ≠ id → t'.get? j = (t.get? j).map fun c =>
    if c.regionCode = row.regionCode ∧ c.active = true then
      { c with active := false, validTo := some row.validFrom } else c

/-- What a call in time makes of the table. -/
def HandedOver (d : Db) (now : ℕ) (t' : Table PricingConfig) : Prop :=
  t' = d.pricingConfigs ∨ ∃ id row, TakesOver d.pricingConfigs t' id row ∧
    MayTakeOver d now row.regionCode row.validFrom ∧
    ∀ existing, d.pricingConfigs.get? id = some existing → MayMove now existing row.regionCode

section TakesOver

variable {t t' : Table PricingConfig} {id j : ℕ} {row c : PricingConfig}

/-- What another row is afterwards. -/
theorem TakesOver.of_ne (h : TakesOver t t' id row) (hj : j ≠ id) (hc : t'.get? j = some c) :
    ∃ old, t.get? j = some old ∧ c.regionCode = old.regionCode ∧ c.validFrom = old.validFrom ∧
      (c.active = true → c = old ∧ old.regionCode ≠ row.regionCode) := by
  rw [h.others j hj] at hc
  cases hold : t.get? j with
  | none => simp [hold] at hc
  | some old =>
    rw [hold, Option.map_some, Option.some.injEq] at hc
    refine ⟨old, rfl, ?_⟩
    by_cases hoff : old.regionCode = row.regionCode ∧ old.active = true
    · rw [if_pos hoff] at hc
      subst hc
      exact ⟨rfl, rfl, fun hactive => absurd hactive (by simp)⟩
    · rw [if_neg hoff] at hc
      subst hc
      exact ⟨rfl, rfl, fun hactive => ⟨rfl, fun hregion => hoff ⟨hregion, hactive⟩⟩⟩

/-- A row of another region is left as it was. -/
theorem TakesOver.get?_of_ne (h : TakesOver t t' id row) (hj : j ≠ id) (hc : t.get? j = some c)
    (hregion : c.regionCode ≠ row.regionCode) : t'.get? j = some c := by
  rw [h.others j hj, hc, Option.map_some, if_neg fun hoff => hregion hoff.1]

theorem PricingKept.takesOver {now : ℕ} (hkept : PricingKept t now) (h : TakesOver t t' id row)
    (hbegun : row.regionCode = defaultRegion → row.validFrom ≤ now) : PricingKept t' now where
  oneActive := by
    intro i j c₁ c₂ h₁ h₂ ha₁ ha₂ hregion
    -- a row that is active beside the one that took over was so before, and is of another region
    by_cases hi : i = id
    · by_cases hj : j = id
      · rw [hi, hj]
      · subst hi
        obtain ⟨old, -, -, -, hold⟩ := h.of_ne hj h₂
        obtain ⟨rfl, hne⟩ := hold ha₂
        rw [h.placed] at h₁
        obtain rfl := Option.some.inj h₁
        exact absurd hregion.symm hne
    · obtain ⟨old₁, hrow₁, -, -, hold₁⟩ := h.of_ne hi h₁
      obtain ⟨rfl, hne⟩ := hold₁ ha₁
      by_cases hj : j = id
      · subst hj
        rw [h.placed] at h₂
        obtain rfl := Option.some.inj h₂
        exact absurd hregion hne
      · obtain ⟨old₂, hrow₂, -, -, hold₂⟩ := h.of_ne hj h₂
        obtain ⟨rfl, -⟩ := hold₂ ha₂
        exact hkept.oneActive i j _ _ hrow₁ hrow₂ ha₁ ha₂ hregion
  openEnded := by
    intro j c hc hactive
    by_cases hj : j = id
    · subst hj
      rw [h.placed] at hc
      obtain rfl := Option.some.inj hc
      exact h.openEnded
    · obtain ⟨old, hrow, -, -, hold⟩ := h.of_ne hj hc
      obtain ⟨rfl, -⟩ := hold hactive
      exact hkept.openEnded j _ hrow hactive
  begun := by
    intro j c hc hregion
    by_cases hj : j = id
    · subst hj
      rw [h.placed] at hc
      obtain rfl := Option.some.inj hc
      exact hbegun hregion
    · obtain ⟨old, hrow, hregionOld, hfrom, -⟩ := h.of_ne hj hc
      rw [hfrom]
      exact hkept.begun j old hrow (hregionOld ▸ hregion)

end TakesOver

/-- **A handover in time keeps the table and leaves no region without a price.** -/
theorem PricingKept.handedOver {d d' : Db} {now : ℕ} (hkept : PricingKept d.pricingConfigs now)
    (h : HandedOver d now d'.pricingConfigs) :
    PricingKept d'.pricingConfigs now ∧ ∀ regionCode,
      (activePricingConfig d now regionCode).isSome = true → ∀ time, now ≤ time →
        (activePricingConfig d' time regionCode).isSome = true := by
  rcases h with hsame | ⟨id, row, htakes, hmay, hmove⟩
  · refine ⟨hsame ▸ hkept, fun regionCode hpriced time htime => ?_⟩
    obtain ⟨id, config, hrow, hprices⟩ := activePricingConfig_isSome.mp hpriced
    obtain ⟨hregion, hactive, hfrom, -⟩ := PricingConfig.prices_iff.mp hprices
    refine activePricingConfig_isSome.mpr ⟨id, config, hsame ▸ hrow, PricingConfig.prices_iff.mpr
      ⟨hregion, hactive, hfrom.trans htime, fun validTo hto => ?_⟩⟩
    rw [hkept.openEnded id config hrow hactive] at hto
    cases hto
  · refine ⟨hkept.takesOver htakes fun hregion => hmay (Or.inl hregion), ?_⟩
    intro regionCode hpriced time htime
    rw [activePricingConfig_isSome]
    by_cases hregion : row.regionCode = regionCode
    · -- The region that is taken over: the new row has begun.
      refine ⟨id, row, htakes.placed, PricingConfig.prices_iff.mpr ⟨hregion, htakes.active, ?_, ?_⟩⟩
      · exact (hmay (Or.inr (hregion ▸ hpriced))).trans htime
      · intro validTo hto
        rw [htakes.openEnded] at hto
        cases hto
    · -- Another region keeps the row that prices it, which is not the one that moves.
      obtain ⟨j, config, hrow, hprices⟩ := activePricingConfig_isSome.mp hpriced
      obtain ⟨hconfig, hactive, hfrom, -⟩ := PricingConfig.prices_iff.mp hprices
      have hj : j ≠ id := by
        rintro rfl
        exact absurd hfrom (not_le.mpr (hmove config hrow (hconfig ▸ hregion) hactive))
      refine ⟨j, config, htakes.get?_of_ne hj hrow fun heq => hregion (heq.symm.trans hconfig),
        PricingConfig.prices_iff.mpr ⟨hconfig, hactive, hfrom.trans htime, fun validTo hto => ?_⟩⟩
      rw [hkept.openEnded j config hrow hactive] at hto
      cases hto

/-! ## The calls -/

section Calls

variable {w : World}

/-- A row created under an id that is free. -/
theorem atomic_createPricingConfigRow {id : ℕ} {row r : PricingConfig} {d d' : Db}
    (h : (createPricingConfigRow id row).atomic d = .ok (r, d')) :
    d.pricingConfigs.get? id = none ∧ r = row ∧
      d'.pricingConfigs = d.pricingConfigs.insert id row := by
  simp only [createPricingConfigRow, Program.bind_eq, Program.command_bind, Tx.atomic,
    findUnique] at h
  cases hrow : d.pricingConfigs.get? id with
  | some other => simp [pricingConfigs, hrow, Tx.atomic] at h
  | none =>
    simp only [pricingConfigs, hrow, Option.isSome_none, Bool.false_eq_true, if_false] at h
    obtain ⟨rfl, rfl⟩ := Prod.mk.injEq .. ▸ Except.ok.inj h
    exact ⟨rfl, rfl, rfl⟩

/-- What is switched off: the active rows of the region but for one. -/
theorem get?_switchOff (regionCode : String) (other : Option ℕ) (validTo : ℕ) (d : Db) (j : ℕ) :
    ((switchOff regionCode other validTo).write d d).pricingConfigs.get? j =
      (d.pricingConfigs.get? j).map fun c =>
        if c.regionCode = regionCode ∧ c.active = true ∧ other ≠ some j then
          { c with active := false, validTo := some validTo } else c := by
  simp only [switchOff, updateMany, pricingConfigs]
  rw [Table.get?_modifyWhere]
  cases hrow : d.pricingConfigs.get? j with
  | none => rfl
  | some c =>
    cases other with
    | none => simp [Table.holds, hrow]
    | some id =>
      simp only [Table.holds, hrow, Option.elim_some, Option.map_some, Option.all_some,
        Bool.and_eq_true, beq_iff_eq, bne_iff_ne, ne_eq, Option.some.injEq, and_assoc]
      simp only [@eq_comm _ id j]

/-- A row written into a table in which the others of its region are switched off. -/
theorem takesOver_of_switchOff {d d' : Db} {id : ℕ} {other : Option ℕ} {row : PricingConfig}
    (hactive : row.active = true) (hopen : row.validTo = none) (hother : ∀ j, j ≠ id → other ≠ some j)
    (hplaced : d'.pricingConfigs.get? id = some row)
    (hrest : ∀ j, j ≠ id → d'.pricingConfigs.get? j =
      ((switchOff row.regionCode other row.validFrom).write d d).pricingConfigs.get? j) :
    TakesOver d.pricingConfigs d'.pricingConfigs id row where
  active := hactive
  openEnded := hopen
  placed := hplaced
  others := by
    intro j hj
    rw [hrest j hj, get?_switchOff]
    simp only [ne_eq, hother j hj, not_false_eq_true, and_true]

theorem wp_assertPricingBounds {minRate recommendedRate maxRate : ℚ}
    {Q : Except Err Unit → World → Prop} (hok : Q (.ok ()) w) (herr : ∀ e, Q (.error e) w) :
    (assertPricingBounds minRate recommendedRate maxRate).Wp world Q w := by
  unfold assertPricingBounds
  by_cases h₁ : recommendedRate < minRate
  · rw [if_pos h₁]
    exact herr _
  · rw [if_neg h₁]
    by_cases h₂ : maxRate < recommendedRate
    · rw [if_pos h₂]
      exact herr _
    · rw [if_neg h₂]
      exact hok

/-- What a call that is over has made of the world it started from. -/
def HandsOver (w w' : World) : Prop :=
  w'.now = w.now ∧ HandedOver w.db w.now w'.db.pricingConfigs

theorem handsOver_refl (w : World) : HandsOver w w := ⟨rfl, Or.inl rfl⟩

theorem wp_createPricingConfig {input : PricingConfigInput} (hactive : input.active.getD true = true)
    (hmay : MayTakeOver w.db w.now input.regionCode (input.validFrom.getD w.now)) :
    (createPricingConfig input).Wp world (fun _ w' => HandsOver w w') w := by
  intro i
  change Program.Wp world _ (Program.bind (assertPricingBounds _ _ _) _) w
  refine Program.Wp.bind (wp_assertPricingBounds ?_ fun e => handsOver_refl w)
  refine Service.wp_transact ?_ fun e => handsOver_refl w
  intro row d hbody
  rw [if_pos hactive] at hbody
  obtain ⟨hfree, -, hinsert⟩ := atomic_createPricingConfigRow hbody
  set id := w.db.freshId + 1
  refine ⟨rfl, Or.inr ⟨id, input.row true (input.validFrom.getD w.now) w.now, ?_, hmay, ?_⟩⟩
  · refine @takesOver_of_switchOff _ _ _ none _ rfl rfl (fun _ _ => nofun) ?_ fun j hj => ?_
    · rw [hinsert, Table.get?_insert hfree, if_pos rfl, hactive]
      rfl
    · rw [hinsert, Table.get?_insert hfree, if_neg hj]
      rfl
  · intro existing hrow
    rw [Table.get?_of_nextKey_le ((Db.le_freshId (by simp [Db.idBounds])).trans (Nat.le_succ _))]
      at hrow
    cases hrow

theorem wp_updatePricingConfig {id : ℕ} {input : PricingConfigChange}
    (hactive : input.active = some true) (hin : (PricingCall.update id input).InTime w.db w.now) :
    (updatePricingConfig id input).Wp world (fun _ w' => HandsOver w w') w := by
  refine Program.Wp.bind (Service.wp_transact ?_ fun e => handsOver_refl w)
  intro existing d hread
  obtain ⟨rfl, rfl⟩ := Prod.mk.injEq .. ▸ Except.ok.inj hread
  dsimp only
  cases hrow : (findUnique pricingConfigs id).answer w.db with
  | none => exact handsOver_refl w
  | some existing =>
    refine Program.Wp.bind (wp_assertPricingBounds ?_ fun e => handsOver_refl w)
    refine Service.wp_transact ?_ fun e => handsOver_refl w
    intro row d hbody
    rw [if_pos (by rw [hactive]; rfl)] at hbody
    obtain ⟨hmay, hmove⟩ := hin existing hrow
    obtain ⟨old, hold, -, rfl⟩ := Service.atomic_update hbody
    -- switching the others off leaves the config that takes over as it was
    have hid : ((switchOff (input.regionCode.getD existing.regionCode) (some id)
        (input.validFrom.getD existing.validFrom)).write w.db w.db).pricingConfigs.get? id =
          some existing := by
      rw [get?_switchOff]
      simp [show w.db.pricingConfigs.get? id = some existing from hrow]
    refine ⟨rfl, Or.inr ⟨id, input.apply existing, ?_, hmay, ?_⟩⟩
    · -- the config changed is the one in force, all others of the region being off
      refine @takesOver_of_switchOff _ _ _ (some id) _ ?_ ?_ ?_ ?_ fun j hj => ?_
      · simp [PricingConfigChange.apply, hactive]
      · simp [PricingConfigChange.apply, hactive]
      · intro j hj heq
        exact hj (Option.some.inj heq).symm
      · exact (Table.get?_modify_self _ _ _).trans (congrArg (Option.map input.apply) hid)
      · exact Table.get?_modify_ne _ _ hj
    · intro existing' hrow'
      obtain rfl := Option.some.inj (hrow.symm.trans hrow')
      exact hmove

theorem wp_ensureDefaultPricingConfig (hkept : PricingKept w.db.pricingConfigs w.now) :
    ensureDefaultPricingConfig.Wp world (fun r w' => HandsOver w w' ∧ ∀ config, r = .ok config →
      ∃ id, w'.db.pricingConfigs.get? id = some config ∧ config.validFrom ≤ w'.now) w := by
  refine Program.Wp.bind (Service.wp_transact ?_ fun e => ⟨handsOver_refl w, fun _ => nofun⟩)
  intro existing d hread
  obtain ⟨rfl, rfl⟩ := Prod.mk.injEq .. ▸ Except.ok.inj hread
  dsimp only
  cases hfirst : firstOfDefaultRegion w.db with
  | some r =>
    obtain ⟨id, config⟩ := r
    obtain ⟨hrow, hregion⟩ := of_firstOfDefaultRegion hfirst
    refine ⟨handsOver_refl w, fun config' hok => ?_⟩
    obtain rfl := Except.ok.inj hok
    exact ⟨id, hrow, hkept.begun id _ hrow hregion⟩
  | none =>
    refine Service.wp_transact ?_ fun e => ⟨handsOver_refl w, fun _ => nofun⟩
    intro row d hbody
    obtain ⟨hfree, rfl, hinsert⟩ := atomic_createPricingConfigRow hbody
    have hplaced : d.pricingConfigs.get? defaultPricingConfigId =
        some (defaultBalticPricingConfig w.now) := by
      rw [hinsert, Table.get?_insert hfree, if_pos rfl]
    constructor
    · refine ⟨rfl, Or.inr ⟨_, _, ⟨rfl, rfl, hplaced, fun j hj => ?_⟩, fun _ => le_rfl, ?_⟩⟩
      · -- The default region has no row that could be switched off.
        rw [hinsert, Table.get?_insert hfree, if_neg hj]
        cases hrow : w.db.pricingConfigs.get? j with
        | none => rfl
        | some c =>
          rw [Option.map_some, if_neg fun hoff =>
            of_firstOfDefaultRegion_none hfirst j c hrow hoff.1]
      · intro existing hrow
        rw [hfree] at hrow
        cases hrow
    · intro config hok
      obtain rfl := Except.ok.inj hok
      exact ⟨_, hplaced, le_rfl⟩

theorem wp_resolveActiveFeeTerms (hkept : PricingKept w.db.pricingConfigs w.now)
    (regionCode : Option String) :
    (resolveActiveFeeTerms regionCode).Wp world
      (fun r w' => HandsOver w w' ∧ ∀ terms, r = .ok terms → terms.Begun w') w := by
  refine Program.Wp.bind (Service.wp_transact ?_ fun e => ⟨handsOver_refl w, fun _ => nofun⟩)
  intro config d hread
  obtain ⟨rfl, rfl⟩ := Prod.mk.injEq .. ▸ Except.ok.inj hread
  dsimp only
  cases hconfig : activePricingConfig w.db w.now (regionOrDefault regionCode) with
  | some r =>
    obtain ⟨id, config⟩ := r
    obtain ⟨hrow, hprices⟩ := of_activePricingConfig hconfig
    refine ⟨handsOver_refl w, fun terms hok => ?_⟩
    obtain rfl := Except.ok.inj hok
    exact Or.inl ⟨id, config, hrow, (PricingConfig.prices_iff.mp hprices).2.2.1, rfl⟩
  | none =>
    refine Program.Wp.bind (Program.Wp.tryCatch (Program.Wp.bind ?_))
    refine (wp_ensureDefaultPricingConfig hkept).mono ?_
    rintro (e | config) w' ⟨hover, hbegun⟩
    · refine ⟨hover, fun terms hok => ?_⟩
      obtain rfl := Except.ok.inj hok
      exact Or.inr rfl
    · refine ⟨hover, fun terms hok => ?_⟩
      obtain rfl := Except.ok.inj hok
      obtain ⟨id, hrow, hfrom⟩ := hbegun config rfl
      exact Or.inl ⟨id, config, hrow, hfrom, rfl⟩

end Calls

/-! ## Histories in time -/

/-- One call in time. -/
theorem PricingStep.handsOver {s : PricingStep} {w : World}
    (hkept : PricingKept w.db.pricingConfigs s.time) (hactivates : s.call.Activates)
    (hin : s.call.InTime w.db s.time) : HandsOver (w.atTime s.time) (s.after w) := by
  have hwp : s.call.service.Wp world (fun _ w' => HandsOver (w.atTime s.time) w') (w.atTime s.time) := by
    cases hcall : s.call with
    | create input =>
      rw [hcall] at hactivates hin
      refine Program.Wp.bind ((wp_createPricingConfig (w := w.atTime s.time) hactivates hin).mono ?_)
      rintro (e | config) w' hover <;> exact hover
    | update id input =>
      rw [hcall] at hactivates hin
      refine Program.Wp.bind ((wp_updatePricingConfig (w := w.atTime s.time) hactivates hin).mono ?_)
      rintro (e | config) w' hover <;> exact hover
    | resolve regionCode =>
      refine Program.Wp.bind ((wp_resolveActiveFeeTerms (w := w.atTime s.time) hkept regionCode).mono ?_)
      rintro (e | config) w' ⟨hover, -⟩ <;> exact hover
  exact Program.wp_run hwp s.replies 0

/-- The rows that are kept price the regions well. -/
theorem PricingKept.wellPriced {w : World} {now : ℕ} (hkept : PricingKept w.db.pricingConfigs now) :
    WellPriced w now where
  oneActive := hkept.oneActive
  termsBegun := by
    intro time htime replies regionCode terms n w' hrun
    have h := Program.wp_run
      (wp_resolveActiveFeeTerms (w := w.atTime time) (hkept.mono htime) regionCode) replies 0
    rw [hrun] at h
    exact h.2 terms rfl

/-- One call in time keeps the rows, and the price of every region that had one. -/
theorem PricingStep.keeps {s : PricingStep} {w : World}
    (hkept : PricingKept w.db.pricingConfigs s.time) (hactivates : s.call.Activates)
    (hin : s.call.InTime w.db s.time) :
    PricingKept (s.after w).db.pricingConfigs s.time ∧ StaysPriced w s :=
  hkept.handedOver (s.handsOver hkept hactivates hin).2

/-- The rows are kept, and the regions priced, by every call of a history in time. -/
theorem pricing_history {steps : List PricingStep} {w : World} {now : ℕ}
    (hkept : PricingKept w.db.pricingConfigs now) (hsorted : steps.Pairwise (·.time ≤ ·.time))
    (hnow : ∀ s ∈ steps, now ≤ s.time) (hactivates : ∀ s ∈ steps, s.call.Activates)
    (hin : PricingInTime w steps) (pre : List PricingStep) (s : PricingStep)
    (post : List PricingStep) (hsteps : steps = pre ++ s :: post) :
    StaysPriced (afterPricing w pre) s ∧
      PricingKept (afterPricing w (pre ++ [s])).db.pricingConfigs s.time := by
  induction pre generalizing steps w now with
  | nil =>
    subst hsteps
    obtain ⟨hs, -⟩ := hin
    obtain ⟨hkept', hstays⟩ := PricingStep.keeps (hkept.mono (hnow s List.mem_cons_self))
      (hactivates s List.mem_cons_self) hs
    exact ⟨hstays, hkept'⟩
  | cons s₀ pre ih =>
    subst hsteps
    obtain ⟨hs, hrest⟩ := hin
    obtain ⟨hfirst, hsorted'⟩ := List.pairwise_cons.mp hsorted
    obtain ⟨hkept', -⟩ := PricingStep.keeps (hkept.mono (hnow s₀ List.mem_cons_self))
      (hactivates s₀ List.mem_cons_self) hs
    exact ih hkept' hsorted' hfirst (fun s hs => hactivates s (List.mem_cons_of_mem _ hs)) hrest rfl

/-- **Pricing handover.** In a history whose calls are in time a region that was priced before a call
is priced at every instant after it, no region ever has two active rows, and nobody is charged by a
row that is yet to begin. -/
theorem pricing_handed_over (w : World) (hempty : w.db.pricingConfigs = .empty)
    (steps : List PricingStep) (hsorted : steps.Pairwise (·.time ≤ ·.time))
    (hactivates : ∀ s ∈ steps, s.call.Activates) (hin : PricingInTime w steps) :
    WellPriced w 0 ∧ ∀ pre s post, steps = pre ++ s :: post →
      StaysPriced (afterPricing w pre) s ∧ WellPriced (afterPricing w (pre ++ [s])) s.time := by
  have hkept : PricingKept w.db.pricingConfigs 0 := hempty ▸ pricingKept_empty 0
  refine ⟨hkept.wellPriced, fun pre s post hsteps => ?_⟩
  obtain ⟨hstays, hkept'⟩ := pricing_history hkept hsorted (fun s _ => Nat.zero_le _) hactivates hin
    pre s post hsteps
  exact ⟨hstays, hkept'.wellPriced⟩

/-- A rate for the default region. -/
private def rates (validFrom : Option ℕ) : PricingConfigInput where
  regionCode := defaultRegion
  minRatePerKm := 1 / 20
  recommendedRatePerKm := 1 / 10
  maxRatePerKm := 1 / 5
  serviceFeePercent := 30
  serviceFeeFlat := 0
  validFrom := validFrom

/-- A configuration, one that follows it, and the first one in its place again. -/
private def backAndForth : List PricingStep :=
  [⟨1, .create (rates none), fun _ => .ok⟩, ⟨5, .create (rates (some 4)), fun _ => .ok⟩,
    ⟨8, .update 1 { active := some true, validFrom := some 8 }, fun _ => .ok⟩]

theorem pricing_handed_over_backAndForth :
    WellPriced ({} : World) 0 ∧ ∀ pre s post, backAndForth = pre ++ s :: post →
      StaysPriced (afterPricing {} pre) s ∧ WellPriced (afterPricing {} (pre ++ [s])) s.time := by
  refine pricing_handed_over {} rfl backAndForth (by decide) ?_ ?_
  · intro s hs
    rcases List.mem_cons.mp hs with rfl | hs
    · rfl
    · rcases List.mem_pair.mp hs with rfl | rfl <;> rfl
  · refine ⟨fun _ => le_rfl, fun _ => by decide, fun existing _ => ⟨fun _ => ?_, ?_⟩, trivial⟩
    · exact le_rfl
    · intro hmoves
      exact absurd rfl hmoves

/-- A configuration that follows another one, and begins five moments later. -/
private def announced : List PricingStep :=
  [⟨1, .create (rates none), fun _ => .ok⟩, ⟨5, .create (rates (some 10)), fun _ => .ok⟩]

/-- A configuration that is to begin later switches off the one it follows at once. -/
theorem pricing_gap :
    ¬ ∀ (w : World) (steps : List PricingStep), w.db.pricingConfigs = .empty →
      steps.Pairwise (·.time ≤ ·.time) → (∀ s ∈ steps, s.call.Activates) →
      ∀ pre s post, steps = pre ++ s :: post →
        StaysPriced (afterPricing w pre) s ∧ WellPriced (afterPricing w (pre ++ [s])) s.time := by
  intro h
  have hactivates : ∀ s ∈ announced, s.call.Activates := by
    intro s hs
    rcases List.mem_pair.mp hs with rfl | rfl <;> rfl
  obtain ⟨hstays, -⟩ := h {} announced rfl (by decide) hactivates
    [⟨1, .create (rates none), fun _ => .ok⟩] ⟨5, .create (rates (some 10)), fun _ => .ok⟩ [] rfl
  have hpriced := hstays defaultRegion (by decide +kernel) 7 (by decide)
  revert hpriced
  decide +kernel

end Deliivo

import Deliivo.Domain.World

/-!
# Pricing configurations

A region is priced by the configuration that is active in it and has begun. The admin calls put a
configuration in place and switch off the one it follows; who asks for the fee terms of a region
without a price gets those of the default region, which is priced anew if it has no row at all.

## Main definitions

* `activePricingConfig`: the configuration that prices a region at an instant
* `createPricingConfig`, `updatePricingConfig`: the calls of an admin
* `resolveActiveFeeTerms`, `ensureDefaultPricingConfig`: what riders are charged
-/

namespace Deliivo

def defaultRegion : String := "BALTIC"

/-- `default-baltic-distance-pricing`; the ids drawn for rows are above it. -/
def defaultPricingConfigId : ℕ := 0

/-- `DEFAULT_BALTIC_PRICING_CONFIG`, as it is created at `now`. -/
def defaultBalticPricingConfig (now : ℕ) : PricingConfig where
  regionCode := defaultRegion
  minRatePerKm := 6 / 100
  recommendedRatePerKm := 8 / 100
  maxRatePerKm := 12 / 100
  serviceFeePercent := 20
  serviceFeeFlat := 0
  validFrom := now
  createdAt := now

/-! ## What prices a region -/

/-- The configurations of a region that are active and in their time. -/
def PricingConfig.prices (config : PricingConfig) (now : ℕ) (regionCode : String) : Bool :=
  config.regionCode == regionCode && config.active && config.validFrom ≤ now &&
    config.validTo.all fun validTo => now < validTo

/-- The one of them that has begun last. -/
def activePricingConfig (d : Db) (now : ℕ) (regionCode : String) : Option (ℕ × PricingConfig) :=
  (d.pricingConfigs.filter fun _ config => config.prices now regionCode).argmax fun r => r.2.validFrom

def getActivePricingConfig (regionCode : String) : Service (Option (ℕ × PricingConfig)) :=
  transaction fun ctx => Program.command { answer := fun d => activePricingConfig d ctx.now regionCode }

/-! ## The fee terms -/

inductive FeeTermsSource
  | snapshot
  | activeConfig
  | default
  deriving DecidableEq, Repr

/-- What `resolveActiveFeeTerms` answers with: `ServiceFeeTerms`, as they are read. -/
structure ResolvedFeeTerms where
  serviceFeePercent : ℚ
  serviceFeeFlat : ℚ
  source : FeeTermsSource
  deriving DecidableEq

/-- The terms of a configuration. -/
def PricingConfig.feeTerms (config : PricingConfig) (source : FeeTermsSource) : ResolvedFeeTerms where
  serviceFeePercent := config.serviceFeePercent
  serviceFeeFlat := config.serviceFeeFlat
  source := source

/-- The first row of the default region: an active one if there is any, the latest to begin, the
latest to be created. -/
def firstOfDefaultRegion (d : Db) : Option (ℕ × PricingConfig) :=
  (d.pricingConfigs.filter fun _ config => config.regionCode == defaultRegion).argmax fun r =>
    toLex (r.2.active, toLex (r.2.validFrom, r.2.createdAt))

/-- `create`, under an id that the row may share with another one. -/
def createPricingConfigRow (id : ℕ) (row : PricingConfig) : Tx PricingConfig := do
  let existing ← Program.command <| findUnique pricingConfigs id
  if existing.isSome then throw .uniqueViolation
  Program.command <| create pricingConfigs id row
  return row

def ensureDefaultPricingConfig : Service PricingConfig := do
  let existing ← sql { answer := firstOfDefaultRegion }
  match existing with
  | some (_, existing) => return existing
  | none => transaction fun ctx =>
      createPricingConfigRow defaultPricingConfigId (defaultBalticPricingConfig ctx.now)

/-- `regionCode || DEFAULT_REGION`. -/
def regionOrDefault (regionCode : Option String) : String :=
  match regionCode with
  | none | some "" => defaultRegion
  | some regionCode => regionCode

def resolveActiveFeeTerms (regionCode : Option String) : Service ResolvedFeeTerms := do
  let config ← getActivePricingConfig (regionOrDefault regionCode)
  match config with
  | some (_, config) => return config.feeTerms .activeConfig
  | none =>
    let ensured ← tryCatch (some <$> ensureDefaultPricingConfig) fun _ => pure none
    match ensured with
    | some ensured => return ensured.feeTerms .default
    | none => return (defaultBalticPricingConfig 0).feeTerms .default

/-! ## The calls of an admin -/

structure PricingConfigInput where
  regionCode : String
  minRatePerKm : ℚ
  recommendedRatePerKm : ℚ
  maxRatePerKm : ℚ
  serviceFeePercent : ℚ
  serviceFeeFlat : ℚ
  active : Option Bool := none
  validFrom : Option ℕ := none
  validTo : Option ℕ := none
  deriving DecidableEq

/-- `Partial<PricingConfigInput>`; `validTo` may be left out, or be given as none. -/
structure PricingConfigChange where
  regionCode : Option String := none
  minRatePerKm : Option ℚ := none
  recommendedRatePerKm : Option ℚ := none
  maxRatePerKm : Option ℚ := none
  serviceFeePercent : Option ℚ := none
  serviceFeeFlat : Option ℚ := none
  active : Option Bool := none
  validFrom : Option ℕ := none
  validTo : Option (Option ℕ) := none
  deriving DecidableEq

def assertPricingBounds (minRatePerKm recommendedRatePerKm maxRatePerKm : ℚ) : Service Unit := do
  if recommendedRatePerKm < minRatePerKm then throw (.text "INVALID_PRICING_CONFIG")
  if maxRatePerKm < recommendedRatePerKm then throw (.text "INVALID_PRICING_CONFIG")

/-- `updateMany`: the rows that are active in a region, but for one, end at `validTo`. -/
def switchOff (regionCode : String) (except : Option ℕ) (validTo : ℕ) : Stmt (List ℕ) :=
  updateMany pricingConfigs
    (fun id config => config.regionCode == regionCode && config.active && except.all (id != ·))
    fun config => { config with active := false, validTo := some validTo }

/-- The row that `createPricingConfig` writes. -/
def PricingConfigInput.row (input : PricingConfigInput) (shouldActivate : Bool) (validFrom now : ℕ) :
    PricingConfig where
  regionCode := input.regionCode
  minRatePerKm := input.minRatePerKm
  recommendedRatePerKm := input.recommendedRatePerKm
  maxRatePerKm := input.maxRatePerKm
  serviceFeePercent := input.serviceFeePercent
  serviceFeeFlat := input.serviceFeeFlat
  active := shouldActivate
  validFrom := validFrom
  validTo := if shouldActivate then none else input.validTo
  createdAt := now

def createPricingConfig (input : PricingConfigInput) : Service PricingConfig := do
  let now ← Program.command .clock
  let validFrom := input.validFrom.getD now
  let shouldActivate := input.active.getD true
  assertPricingBounds input.minRatePerKm input.recommendedRatePerKm input.maxRatePerKm
  transaction fun ctx => do
    if shouldActivate then
      let _ ← Program.command <| switchOff input.regionCode none validFrom
    createPricingConfigRow (ctx.uuid + 1) (input.row shouldActivate validFrom ctx.now)

/-- What `updatePricingConfig` makes of the row: an activation takes the end away, whatever the
input says of it. -/
def PricingConfigChange.apply (input : PricingConfigChange) (config : PricingConfig) :
    PricingConfig :=
  { config with
    regionCode := input.regionCode.getD config.regionCode
    minRatePerKm := input.minRatePerKm.getD config.minRatePerKm
    recommendedRatePerKm := input.recommendedRatePerKm.getD config.recommendedRatePerKm
    maxRatePerKm := input.maxRatePerKm.getD config.maxRatePerKm
    serviceFeePercent := input.serviceFeePercent.getD config.serviceFeePercent
    serviceFeeFlat := input.serviceFeeFlat.getD config.serviceFeeFlat
    active := input.active.getD config.active
    validFrom := input.validFrom.getD config.validFrom
    validTo := if input.active = some true then none else input.validTo.getD config.validTo }

def updatePricingConfig (id : ℕ) (input : PricingConfigChange) : Service PricingConfig := do
  let existing ← sql <| findUnique pricingConfigs id
  match existing with
  | none => throw (.text "PRICING_CONFIG_NOT_FOUND")
  | some existing =>
    let nextRegionCode := input.regionCode.getD existing.regionCode
    let nextValidFrom := input.validFrom.getD existing.validFrom
    let nextActive := input.active.getD existing.active
    -- the bounds are checked on what the row will be
    assertPricingBounds (input.minRatePerKm.getD existing.minRatePerKm)
      (input.recommendedRatePerKm.getD existing.recommendedRatePerKm)
      (input.maxRatePerKm.getD existing.maxRatePerKm)
    transaction fun _ => do
      if nextActive then
        let _ ← Program.command <| switchOff nextRegionCode (some id) nextValidFrom
      Program.perform <| update pricingConfigs id input.apply

end Deliivo

import Valdrics.JsonValues

/-! The commitment strategies: what `analyze` returns or raises for a stored
configuration and the usage of a tenant. Floats are a parameter with the operations
the strategies use. -/
namespace Valdrics.Strategies

open Enforcement (Json Uuid)
open JsonValue (truthy)
open PythonText

inductive CommitmentTerm where
  | oneYear | threeYear
  deriving DecidableEq

inductive PaymentOption where
  | noUpfront | partialUpfront | allUpfront
  deriving DecidableEq

/-- The arguments of `_create_recommendation`. -/
structure Quote (F : Type) where
  resourceType : String
  region : String
  term : CommitmentTerm
  paymentOption : PaymentOption
  monthlySavings : F
  monthlySavingsLow : F
  monthlySavingsHigh : F
  roi : F
  upfrontCost : F
  monthlyCost : F
  breakEvenMonths : Option F
  confidenceScore : F

/-- A row of `strategy_recommendations`, but for its id and its times. -/
structure StrategyRecommendation (F : Type) where
  tenantId : Uuid
  strategyId : Uuid
  quote : Quote F
  status : String

/-- `lt` and `le` are the comparisons of floats, for which a NaN is not below anything. -/
structure Runtime (F : Type) where
  ofDecimal : Decimal → F
  finite : F → Bool
  truth : F → Bool
  lt : F → F → Bool
  le : F → F → Bool
  add : F → F → F
  sub : F → F → F
  mul : F → F → F
  div : F → F → F
  abs : F → F
  round3 : F → F
  truncate : F → Nat
  ofNat : Nat → F
  fmean : List F → F
  text : Lowercase
  str : Json → String
  /-- The columns of the table hold the row. -/
  storable : StrategyRecommendation F → Bool

inductive Failure where
  | valueError (message : String)
  | attributeError
  | dataError
  deriving DecidableEq

/-- What `_aggregate_usage` returns, as far as the strategies read it. -/
structure Usage (F : Type) where
  baselineHourlySpend : F
  confidenceScore : F
  coverageRatio : F
  topRegion : String
  hourlyCostSeries : List F

/-- A row of `optimization_strategies`. -/
structure OptimizationStrategy where
  id : Uuid
  name : String
  type : String
  provider : String
  config : Json
  isActive : Bool

variable {F : Type} (rt : Runtime F)

namespace Runtime

/-- The float of a literal: `c · 10^e`. -/
def lit (c e : Int) : F := rt.ofDecimal ⟨c,e⟩

/-- `max(a, b)`, which keeps the first of two that do not compare. -/
def max (a b : F) : F := if rt.lt a b then b else a

def min (a b : F) : F := if rt.lt b a then b else a

def zero : F := rt.lit 0 0

/-- `_coerce_finite_float` of a float. -/
def finiteFloat (fieldName : String) (value : F) : Except Failure F :=
  if rt.finite value then .ok value else .error (.valueError (fieldName ++ " must be finite"))

/-- `_coerce_finite_float` of a value of the configuration. -/
def coerceFiniteFloat (fieldName : String) : Json → Except Failure F
  | .int n => .ok (rt.ofDecimal ⟨n,0⟩)
  | .float d => .ok (rt.ofDecimal d)
  | .str s =>
    match Decimal.parse s with
    | some (.finite d) => .ok (rt.ofDecimal d)
    | some _ => .error (.valueError (fieldName ++ " must be finite"))
    | none => .error (.valueError (fieldName ++ " must be numeric"))
  | _ => .error (.valueError (fieldName ++ " must be numeric"))

end Runtime

/-- `self.config.get(key)`; only an object has a `get`. -/
def configGet (config : Json) (key : String) : Except Failure (Option Json) :=
  match config with
  | .obj members => .ok (members.lookup key)
  | _ => .error .attributeError

def numberOr (fieldName : String) (default : F) : Option Json → Except Failure F
  | some value => rt.coerceFiniteFloat fieldName value
  | none => rt.finiteFloat fieldName default

def setting (config : Json) (key : String) (default : F) : Except Failure F := do
  numberOr rt key default (← configGet config key)

/-- `value or fallback`. -/
def orElse (value : Option Json) (fallback : Json) : Json :=
  match value with
  | some value => if truthy value then value else fallback
  | none => fallback

def boundedConfidence (usageConfidence coverageRatio : F) : F :=
  let coverage := rt.max rt.zero (rt.min coverageRatio (rt.lit 1 0))
  let usage := rt.max rt.zero (rt.min usageConfidence (rt.lit 1 0))
  let blended := rt.add (rt.mul usage (rt.lit 8 (-1))) (rt.mul coverage (rt.lit 2 (-1)))
  rt.round3 (rt.max rt.zero (rt.min blended (rt.lit 1 0)))

def percentile (values : List F) (percentile : F) : Except Failure F := do
  if values.isEmpty then return rt.zero
  let ordered := (← values.mapM (rt.finiteFloat "percentile_values")).mergeSort rt.le
  if ordered.length = 1 then return ordered.headD rt.zero
  let rank := rt.mul (rt.max rt.zero (rt.min percentile (rt.lit 1 0)))
    (rt.ofNat (ordered.length - 1))
  let lower := rt.truncate rank
  let upper := Nat.min (lower + 1) (ordered.length - 1)
  let frac := rt.sub rank (rt.ofNat lower)
  let low := ordered.getD lower rt.zero
  return rt.add low (rt.mul (rt.sub (ordered.getD upper rt.zero) low) frac)

/-- `within_tolerance` of `backtest_hourly_series`. -/
def backtestHourlySeries (hourlyCosts : List F) (tolerance : F) : Except Failure Bool := do
  if hourlyCosts.length < 48 then return false
  let costs ← hourlyCosts.mapM fun cost => do
    return rt.max (← rt.finiteFloat "hourly_cost_series" cost) rt.zero
  let nonZeroTrain := (costs.take (costs.length - 24)).filter (rt.lt rt.zero ·)
  if nonZeroTrain.isEmpty then return true
  let predictedBaseline ← percentile rt nonZeroTrain (rt.lit 25 (-2))
  let apeValues := (costs.drop (costs.length - 24)).map fun observed =>
    rt.div (rt.abs (rt.sub observed predictedBaseline)) (rt.max observed (rt.lit 1 (-9)))
  return rt.le (rt.fmean apeValues) tolerance

def calculateRoi (onDemandCost commitmentCost : F) : F :=
  if rt.le onDemandCost rt.zero then rt.zero
  else rt.mul (rt.div (rt.sub onDemandCost commitmentCost) onDemandCost) (rt.lit 100 0)

def confidence (config : Json) (usage : Usage F) : Except Failure F := do
  let usageConfidence ← rt.finiteFloat "confidence_score" usage.confidenceScore
  let coverageRatio ← rt.finiteFloat "coverage_ratio" usage.coverageRatio
  let confidence := boundedConfidence rt usageConfidence coverageRatio
  if usage.hourlyCostSeries.isEmpty then return confidence
  let tolerance ← setting rt config "backtest_tolerance" (rt.lit 30 (-2))
  if ← backtestHourlySeries rt usage.hourlyCostSeries tolerance then return confidence
  return rt.round3 (rt.max rt.zero (rt.mul confidence (rt.lit 7 (-1))))

/-- `baseline_hourly_spend or 0.0`. -/
def baselineSpend (usage : Usage F) : Except Failure F :=
  rt.finiteFloat "baseline_hourly_spend"
    (if rt.truth usage.baselineHourlySpend then usage.baselineHourlySpend else rt.zero)

/-- `ComputeSavingsStrategy.analyze`. -/
def computeSavings (config : Json) (usage : Usage F) : Except Failure (List (Quote F)) := do
  let baseline ← baselineSpend rt usage
  let minHourlyThreshold ← setting rt config "min_hourly_threshold" (rt.lit 5 (-2))
  if rt.le baseline minHourlyThreshold then return []
  let savingsMid ← setting rt config "savings_rate" (rt.lit 25 (-2))
  let savingsLow ← setting rt config "savings_rate_low"
    (rt.max (rt.sub savingsMid (rt.lit 5 (-2))) rt.zero)
  let savingsHigh ← setting rt config "savings_rate_high"
    (rt.min (rt.add savingsMid (rt.lit 5 (-2))) (rt.lit 95 (-2)))
  let hoursPerMonth ← setting rt config "hours_per_month" (rt.lit 730 0)
  let onDemandMonthly := rt.mul baseline hoursPerMonth
  let monthlySavings := rt.mul onDemandMonthly savingsMid
  let monthlyCommitmentCost := rt.sub onDemandMonthly monthlySavings
  let upfrontCost ← setting rt config "upfront_cost" rt.zero
  let confidenceScore ← confidence rt config usage
  return [{
    resourceType := "Compute Savings Plan"
    region := "Global"
    term := .oneYear
    paymentOption := .noUpfront
    monthlySavings
    monthlySavingsLow := rt.mul onDemandMonthly savingsLow
    monthlySavingsHigh := rt.mul onDemandMonthly savingsHigh
    roi := calculateRoi rt onDemandMonthly (rt.add monthlyCommitmentCost upfrontCost)
    upfrontCost
    monthlyCost := monthlyCommitmentCost
    breakEvenMonths := some (if rt.lt rt.zero upfrontCost && rt.lt rt.zero monthlySavings then
      rt.div upfrontCost monthlySavings else rt.zero)
    confidenceScore }]

structure Offer (F : Type) where
  term : CommitmentTerm
  paymentOption : PaymentOption
  savingsRate : F
  savingsRateLow : F
  savingsRateHigh : F
  upfrontCost : F

def offerField (idx : Nat) (field : String) : String :=
  "offers[" ++ toString idx ++ "]" ++ field

/-- The lower-cased text of an offer's field, empty for a value that is false. -/
def offerText (item : List (String × Json)) (key : String) : String :=
  rt.text.lower (strip (rt.str (orElse (item.lookup key) (.str ""))))

def offerTerm (idx : Nat) (item : List (String × Json)) : Except Failure CommitmentTerm :=
  let term := offerText rt item "term"
  if term ∈ ["1_year","one_year","1y"] then .ok .oneYear
  else if term ∈ ["3_year","three_year","3y"] then .ok .threeYear
  else .error (.valueError (offerField idx ".term is invalid"))

def offerPayment (idx : Nat) (item : List (String × Json)) : Except Failure PaymentOption :=
  let payment := offerText rt item "payment_option"
  if payment ∈ ["no_upfront","none"] then .ok .noUpfront
  else if payment ∈ ["partial_upfront","partial"] then .ok .partialUpfront
  else if payment ∈ ["all_upfront","all"] then .ok .allUpfront
  else .error (.valueError (offerField idx ".payment_option is invalid"))

def readOffer (idx : Nat) : Json → Except Failure (Offer F)
  | .obj item => do
    let term ← offerTerm rt idx item
    let paymentOption ← offerPayment rt idx item
    let savingsRate ← rt.coerceFiniteFloat (offerField idx ".savings_rate")
      (orElse (item.lookup "savings_rate") (.float ⟨0,0⟩))
    let savingsRateLow ← numberOr rt (offerField idx ".savings_rate_low") savingsRate
      (item.lookup "savings_rate_low")
    let savingsRateHigh ← numberOr rt (offerField idx ".savings_rate_high") savingsRate
      (item.lookup "savings_rate_high")
    let upfrontCost ← rt.coerceFiniteFloat (offerField idx ".upfront_cost")
      (orElse (item.lookup "upfront_cost") (.float ⟨0,0⟩))
    return ⟨term,paymentOption,savingsRate,savingsRateLow,savingsRateHigh,upfrontCost⟩
  | _ => .error (.valueError (offerField idx " must be an object"))

def offersFromConfig (config : Json) : Except Failure (List (Offer F)) := do
  match ← configGet config "offers" with
  | some (.arr raw) => raw.zipIdx.mapM fun entry => readOffer rt entry.2 entry.1
  | _ => return []

def defaultOffer (config : Json) : Except Failure (Offer F) := do
  let savingsRate ← setting rt config "savings_rate" (rt.lit 20 (-2))
  let savingsRateLow ← setting rt config "savings_rate_low" (rt.lit 15 (-2))
  let savingsRateHigh ← setting rt config "savings_rate_high" (rt.lit 25 (-2))
  let upfrontCost ← setting rt config "upfront_cost" rt.zero
  return ⟨.oneYear,.noUpfront,savingsRate,savingsRateLow,savingsRateHigh,upfrontCost⟩

def quoteOffer (label region : String) (onDemandMonthly confidenceScore : F) (offer : Offer F) :
    Except Failure (Quote F) := do
  let savingsMid ← rt.finiteFloat "savings_rate" offer.savingsRate
  let savingsLow ← rt.finiteFloat "savings_rate_low" offer.savingsRateLow
  let savingsHigh ← rt.finiteFloat "savings_rate_high" offer.savingsRateHigh
  let upfrontCost ← rt.finiteFloat "upfront_cost" offer.upfrontCost
  let monthlySavings := rt.mul onDemandMonthly savingsMid
  let monthlyCommitmentCost := rt.sub onDemandMonthly monthlySavings
  return {
    resourceType := label
    region
    term := offer.term
    paymentOption := offer.paymentOption
    monthlySavings
    monthlySavingsLow := rt.mul onDemandMonthly savingsLow
    monthlySavingsHigh := rt.mul onDemandMonthly savingsHigh
    roi := calculateRoi rt onDemandMonthly (rt.add monthlyCommitmentCost upfrontCost)
    upfrontCost
    monthlyCost := monthlyCommitmentCost
    breakEvenMonths := if rt.lt rt.zero upfrontCost && rt.lt rt.zero monthlySavings then
      some (rt.div upfrontCost monthlySavings) else none
    confidenceScore }

/-- `BaselineCommitmentStrategy.analyze`. -/
def baselineCommitment (config : Json) (usage : Usage F) : Except Failure (List (Quote F)) := do
  let baseline ← baselineSpend rt usage
  let minHourlyThreshold ← setting rt config "min_hourly_threshold" (rt.lit 5 (-2))
  if rt.le baseline minHourlyThreshold then return []
  let hoursPerMonth ← setting rt config "hours_per_month" (rt.lit 730 0)
  let label := rt.str (orElse (← configGet config "commitment_label") (.str "Compute Commitment"))
  let regionScope := rt.text.lower
    (strip (rt.str (orElse (← configGet config "region_scope") (.str "global"))))
  let region := if regionScope = "top_region" then orDefault usage.topRegion "Unknown" else "Global"
  let confidenceScore ← confidence rt config usage
  let listed ← offersFromConfig rt config
  let offers ←
    if listed.isEmpty then (defaultOffer rt config).map fun offer => [offer] else pure listed
  offers.mapM (quoteOffer rt label region (rt.mul baseline hoursPerMonth) confidenceScore)

inductive Strategy where
  | computeSavings | baselineCommitment
  deriving DecidableEq

def OptimizationStrategy.strategyType (strategy : OptimizationStrategy) : String :=
  rt.text.lower (strip strategy.type)

/-- `_get_strategy_impl`; a row of another type has no strategy. -/
def getStrategyImpl (strategy : OptimizationStrategy) : Option Strategy :=
  if strategy.strategyType rt = "savings_plan" then some .computeSavings
  else if strategy.strategyType rt ∈
      ["reserved_instance","azure_reservation","committed_use_discount"] then
    some .baselineCommitment
  else none

def createRecommendation (tenantId : Uuid) (strategy : OptimizationStrategy) (quote : Quote F) :
    StrategyRecommendation F :=
  { tenantId, strategyId := strategy.id, quote, status := "open" }

def Strategy.quotes (config : Json) (usage : Usage F) : Strategy → Except Failure (List (Quote F))
  | .computeSavings => Strategies.computeSavings rt config usage
  | .baselineCommitment => Strategies.baselineCommitment rt config usage

/-- `strategy_impl.analyze`. -/
def Strategy.analyze (impl : Strategy) (tenantId : Uuid) (strategy : OptimizationStrategy)
    (usage : Usage F) : Except Failure (List (StrategyRecommendation F)) :=
  (impl.quotes rt strategy.config usage).map (List.map (createRecommendation tenantId strategy))

theorem analyze_mem {impl : Strategy} {tenantId : Uuid} {strategy : OptimizationStrategy}
    {usage : Usage F} {recs : List (StrategyRecommendation F)}
    (returns : impl.analyze rt tenantId strategy usage = .ok recs) :
    ∀ rec_ ∈ recs, rec_.tenantId = tenantId ∧ rec_.strategyId = strategy.id ∧
      rec_.status = "open" := by
  unfold Strategy.analyze at returns
  cases quoted : impl.quotes rt strategy.config usage with
  | error failure => simp [quoted,Except.map] at returns
  | ok quotes =>
    simp only [quoted,Except.map,Except.ok.injEq] at returns
    cases returns
    intro rec_ listed
    obtain ⟨quote,_,rfl⟩ := List.mem_map.mp listed
    exact ⟨rfl,rfl,rfl⟩

end Valdrics.Strategies

import Mathlib.Algebra.Order.Ring.Rat
import Valdrics.CarbonFactors
import Valdrics.ZombieScans

/-! The carbon footprint of a list of usage rows and of a list of cost records, with the amounts and
factors as exact numbers. -/
namespace Valdrics.Carbon

open Enforcement (Json)
open JsonValue (truthy)
open PythonText
open ZombieScan (Item)
open ZombieScan.Item (entry)

namespace Calculator

/-- What reading a row raises; an `IndexError` is no `KeyError`, and a text that `Decimal` does not
take raises an `InvalidOperation`, which is an `ArithmeticError`. -/
inductive Raised where
  | key | type | value | attribute | index | arithmetic
  deriving DecidableEq

/-- `except (KeyError, TypeError, ValueError)`. -/
def Raised.caught : Raised → Bool
  | .key | .type | .value => true
  | .attribute | .index | .arithmetic => false

def rat (d : Decimal) : Rat := d.coefficient * (10 : Rat) ^ d.exponent

/-- `Decimal(value)`; a list is taken for no number. -/
def decimal : Json → Except Raised DecimalValue
  | .null | .obj _ => .error .type
  | .bool value => .ok (.finite ⟨if value then 1 else 0,0⟩)
  | .int value => .ok (.finite ⟨value,0⟩)
  | .float value => .ok (.finite value)
  | .arr _ => .error .value
  | .str value =>
    match Decimal.parse value with
    | some number => .ok number
    | none => .error .arithmetic

/-- `dict.get(key, default)`. -/
def get (value : Json) (key : String) (default : Json) : Except Raised Json :=
  match value with
  | .obj members => .ok ((members.lookup key).getD default)
  | _ => .error .attribute

/-- `keys[0]`. -/
def first : Json → Except Raised Json
  | .arr (item :: _) => .ok item
  | .arr [] => .error .index
  | .str value =>
    match value.toList with
    | c :: _ => .ok (.str (String.singleton c))
    | [] => .error .index
  | .obj _ => .error .key
  | _ => .error .type

def awsServiceEnergyFactors : List (String × Decimal) :=
  [("Amazon Elastic Compute Cloud - Compute",⟨5,-2⟩),("EC2 - Other",⟨4,-2⟩),
    ("Amazon Simple Storage Service",⟨1,-2⟩),("Amazon Relational Database Service",⟨4,-2⟩),
    ("Amazon CloudFront",⟨2,-2⟩),("AWS Lambda",⟨3,-2⟩),("Amazon DynamoDB",⟨2,-2⟩),
    ("Amazon Virtual Private Cloud",⟨2,-2⟩),("default",⟨3,-2⟩)]

/-- The default of `GENERIC_SERVICE_ENERGY_FACTORS`. -/
def genericDefault : Json := .float ⟨3,-2⟩

end Calculator

open Calculator

structure CarbonCalculator where
  regionIntensity : List (String × Json)
  energyFactors : List (String × Json)
  cloudPue : Rat
  embodiedEmissionsFactor : Rat

abbrev Counted := Rat × Rat

/-- A charge as a cost record has it, without a raw amount. -/
structure CostEntry where
  provider : String
  service : String
  costUsd : Rat

section Calculation

variable (rt : ZombieScan.Runtime)

/-- `Decimal(str(value))` of a factor, which is to be a finite number. -/
def factor (value : Json) : Except Raised Rat :=
  match Decimal.parse (rt.str value) with
  | some (.finite number) => .ok (rat number)
  | _ => .error .arithmetic

def factorTable (payload : List (String × Json)) (key : String) : List (String × Json) :=
  match payload.lookup key with
  | some (.obj (entry :: rest)) => entry :: rest
  | _ =>
    match buildCarbonFactorPayload.lookup key with
    | some (.obj entries) => entries
    | _ => []

/-- `payload.get(key) or DEFAULT`. -/
def factorValue (payload : List (String × Json)) (key : String) : Json :=
  ZombieScan.orElse ((payload.lookup key).getD .null)
    ((buildCarbonFactorPayload.lookup key).getD .null)

/-- `__init__`. -/
def CarbonCalculator.ofPayload (payload : List (String × Json)) :
    Except Raised CarbonCalculator := do
  let cloudPue ← factor rt (factorValue payload "cloud_pue")
  let embodiedEmissionsFactor ← factor rt (factorValue payload "embodied_emissions_factor")
  return ⟨factorTable payload "region_carbon_intensity",
    factorTable payload "service_energy_factors_by_provider",cloudPue,embodiedEmissionsFactor⟩

namespace CarbonCalculator

variable (calculator : CarbonCalculator)

def normalizeProvider (provider : String) : String :=
  let providerKey := rt.text.lower (strip (orDefault provider "generic"))
  if (calculator.energyFactors.lookup providerKey).isSome then providerKey else "generic"

def crossProvider (service : String) (otherwise : Except Raised Rat) : Except Raised Rat :=
  match awsServiceEnergyFactors.lookup service with
  | some value => .ok (rat value)
  | none => otherwise

/-- `_resolve_energy_factor`. -/
def resolveEnergyFactor (provider : String) (service : Json) : Except Raised Rat :=
  let serviceKey := rt.str (ZombieScan.orElse service (.str "default"))
  match calculator.energyFactors.lookup (calculator.normalizeProvider rt provider) with
  | none => .error .key
  | some (.obj factors) =>
    match factors.lookup serviceKey with
    | some value => factor rt value
    | none => crossProvider serviceKey (factor rt ((factors.lookup "default").getD genericDefault))
  -- A list or a text contains the service or it does not, but has no factor for it.
  | some (.arr items) =>
    if items.any (fun item => item matches .str _ && rt.str item = serviceKey) then .error .type
    else crossProvider serviceKey (.error .attribute)
  | some (.str text) =>
    if serviceKey.toList <:+: text.toList then .error .type
    else crossProvider serviceKey (.error .attribute)
  | some _ => .error .type

/-- An amount added to the totals: its cost first, then its energy. A `NaN` fails when it is
compared, and an infinite amount in what is made of the totals. -/
def spend (provider : String) (service : Json) : DecimalValue → Counted × Option Raised
  | .nan _ | .infinite false => (0,some .arithmetic)
  | .infinite true => (0,none)
  | .finite number =>
    if 0 < rat number then
      match calculator.resolveEnergyFactor rt provider service with
      | .ok energyFactor => ((rat number,rat number * energyFactor),none)
      | .error failure => ((rat number,0),some failure)
    else (0,none)

def readGroup (group : Json) : Except Raised (Json × DecimalValue) := do
  let keys ← get group "Keys" (.arr [.str "default"])
  let service ← first keys
  let metrics ← get group "Metrics" (.obj [])
  let unblendedCost ← get metrics "UnblendedCost" (.obj [])
  let amount ← get unblendedCost "Amount" (.str "0")
  return (service,← decimal amount)

def readTotal (row : Json) : Except Raised DecimalValue := do
  let total ← get row "Total" (.obj [])
  let unblendedCost ← get total "UnblendedCost" (.obj [])
  let amount ← get unblendedCost "Amount" (.str "0")
  decimal amount

def readGroups (provider : String) : List Json → Counted × Option Raised
  | [] => (0,none)
  | group :: rest =>
    match readGroup group with
    | .error failure => (0,some failure)
    | .ok (service,amount) =>
      match calculator.spend rt provider service amount with
      | (counted,some failure) => (counted,some failure)
      | (counted,none) =>
        (counted + (readGroups provider rest).1,(readGroups provider rest).2)

/-- `str(record.get(key) or default)`. -/
def textOr (record : Item) (key default : String) : String :=
  rt.str (ZombieScan.orElse (entry record key) (.str default))

def readCost (record : Item) : Except Raised DecimalValue :=
  decimal (.str (rt.str (entry record "cost_usd")))

def readRow (provider : String) : Json → Counted × Option Raised
  | .obj record =>
    if truthy (entry record "Groups") then
      match entry record "Groups" with
      | .arr groups => calculator.readGroups rt provider groups
      -- The keys of an object and the letters of a text have no `get`.
      | .obj _ | .str _ => (0,some .attribute)
      | _ => (0,some .type)
    else if (record.lookup "cost_usd").isSome then
      match readCost rt record with
      | .error failure => (0,some failure)
      | .ok amount =>
        calculator.spend rt (textOr rt record "provider" provider)
          (.str (textOr rt record "service" "default")) amount
    else
      match readTotal (.obj record) with
      | .error failure => (0,some failure)
      | .ok amount => calculator.spend rt provider .null amount
  | _ => (0,some .attribute)

def readRows (provider : String) : List Json → Except Raised Counted
  | [] => .ok 0
  | row :: rest =>
    let (counted,failure) := calculator.readRow rt provider row
    match failure.filter fun failure => !failure.caught with
    | none => (readRows provider rest).map (counted + ·)
    | some failure => .error failure

/-- The loop of `calculate_from_records`, over records without a raw amount. -/
def readRecords (provider : String) : List CostEntry → Except Raised Counted
  | [] => .ok 0
  | record :: rest => do
    let energyFactor ← calculator.resolveEnergyFactor rt (orDefault record.provider provider)
      (.str record.service)
    let counted ← readRecords provider rest
    return (record.costUsd,record.costUsd * energyFactor) + counted

end CarbonCalculator

structure Footprint where
  totalCostUsd : Rat
  estimatedEnergyKwh : Rat
  scope2Co2Kg : Rat
  scope3Co2Kg : Rat
  totalCo2Kg : Rat
  carbonEfficiencyScore : Rat
  provider : String
  region : String
  carbonIntensity : Int
  greenRegions : List (String × Rat)

def Footprint.totals (footprint : Footprint) : Rat × Rat × Rat :=
  (footprint.totalCostUsd,footprint.estimatedEnergyKwh,footprint.totalCo2Kg)

/-- `int(value)`. -/
def intensity : Json → Except Raised Int
  | .bool value => .ok (if value then 1 else 0)
  | .int value => .ok value
  | .float d => .ok (if 0 ≤ d.exponent then d.coefficient * 10 ^ d.exponent.toNat
      else d.coefficient.tdiv (10 ^ (-d.exponent).toNat))
  | .str value =>
    match parseInt value with
    | some n => .ok n
    | none => .error .value
  | _ => .error .type

namespace CarbonCalculator

variable (calculator : CarbonCalculator)

def carbonIntensity (region : String) : Except Raised Int :=
  intensity ((calculator.regionIntensity.lookup region).getD
    ((calculator.regionIntensity.lookup "default").getD (.int 400)))

/-- The intensities as numbers; the order compares each of two or more with another, and each but
the default's with a whole number. -/
def comparable : Except Raised (List (String × Rat)) :=
  match calculator.regionIntensity with
  | [_] => .ok []
  | entries => entries.mapM fun entry =>
    match JsonValue.number entry.2 with
    | some value => .ok (entry.1,rat value)
    | none => .error .type

/-- `get_green_region_recommendations`, by intensity. -/
def greenRegions (region : String) : Except Raised (List (String × Rat)) := do
  let current ← calculator.carbonIntensity region
  let entries ← calculator.comparable
  let sorted := entries.mergeSort fun a b => a.2 ≤ b.2
  return (sorted.filter fun entry =>
    entry.1 ≠ "default" && entry.2 < (current : Rat) && 0 < current).take 5

/-- `_finalize_calculation`. -/
def finalizeCalculation (total : Counted) (region provider : String) :
    Except Raised Footprint := do
  let energyWithPue := total.2 * calculator.cloudPue
  let carbonIntensity ← calculator.carbonIntensity region
  let scope2 := energyWithPue * carbonIntensity / 1000
  let scope3 := energyWithPue * calculator.embodiedEmissionsFactor
  let green ← calculator.greenRegions region
  return {
    totalCostUsd := total.1
    estimatedEnergyKwh := energyWithPue
    scope2Co2Kg := scope2
    scope3Co2Kg := scope3
    totalCo2Kg := scope2 + scope3
    carbonEfficiencyScore := if 0 < total.1 then (scope2 + scope3) * 1000 / total.1
      else if 0 < scope2 + scope3 then 99999 / 10 else 0
    provider := calculator.normalizeProvider rt provider
    region
    carbonIntensity
    greenRegions := green }

def calculateFromCosts (costData : List Json) (region provider : String) :
    Except Raised Footprint := do
  let total ← calculator.readRows rt provider costData
  calculator.finalizeCalculation rt total region provider

def calculateFromRecords (records : List CostEntry) (region provider : String) :
    Except Raised Footprint := do
  let total ← calculator.readRecords rt provider records
  calculator.finalizeCalculation rt total region provider

end CarbonCalculator

end Calculation

end Valdrics.Carbon

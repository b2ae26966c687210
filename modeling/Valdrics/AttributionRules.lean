import Valdrics.DecimalContext
import Valdrics.JsonValues

/-! Attribution rules: what a rule is accepted with, which rule a cost record falls under,
and the allocations that it makes of the record's cost. -/
namespace Valdrics.Reporting

open Enforcement (Json Uuid)
open PythonText

abbrev Entry := List (String × Json)

/-- Unicode upper-casing, as far as the rule types need it. -/
structure Uppercase where
  upper : String → String
  ascii : ∀ s, (∀ c ∈ s.toList, 65 ≤ c.toNat ∧ c.toNat ≤ 90) → upper s = s

theorem Uppercase.upper_capitals (text : Uppercase) {s : String}
    (capitals : (s.toList.all fun c => 65 ≤ c.toNat ∧ c.toNat ≤ 90) = true) : text.upper s = s :=
  text.ascii s (by simpa using capitals)

structure AttributionRule where
  id : Uuid
  ruleType : String
  conditions : Entry
  allocation : Json

/-- A row of the cost records; its amount is a column of 18 digits, 8 of them after the point. -/
structure CostRecord where
  id : Uuid
  recordedAt : Nat
  service : String
  region : Option String
  accountId : Uuid
  tags : Option Json
  ingestionMetadata : Option Json
  costUsd : Int
  fits : costUsd.natAbs < 10 ^ 18

namespace CostRecord

def cost (record : CostRecord) : Decimal := .ofUnits record.costUsd 8

def costTags (record : CostRecord) : Entry :=
  match record.tags with
  | some (.obj tags) => tags
  | _ =>
    match record.ingestionMetadata with
    | some (.obj metadata) =>
      match metadata.lookup "tags" with
      | some (.obj tags) => tags
      | _ => []
    | _ => []

end CostRecord

def textEquals : Option String → Json → Bool
  | some s, .str t => s = t
  | none, .null => true
  | _, _ => false

def uuidEquals (_ : Uuid) (_ : Json) : Bool := false

def matchConditions (record : CostRecord) (conditions : Entry) : Bool :=
  (conditions.lookup "service").all (textEquals (some record.service)) &&
    (conditions.lookup "region").all (textEquals record.region) &&
    (conditions.lookup "account_id").all (uuidEquals record.accountId) &&
    match conditions.lookup "tags" with
    | some (.obj tags) => tags.all fun tag =>
      JsonValue.equals ((record.costTags.lookup tag.1).getD .null) tag.2
    | _ => true

/-- `allocation_entries`: the objects among the splits. -/
def allocationEntries : Json → List Entry
  | .arr items => items.filterMap fun item => match item with | .obj entry => some entry | _ => none
  | .obj entry => [entry]
  | _ => []

/-- `Decimal(str(value))`; `none` raises. -/
def decimalOf : Json → Option DecimalValue
  | .str s => Decimal.parse s
  | .int n => some (.finite ⟨n,0⟩)
  | .float number => some (.finite number)
  | _ => none

structure Planned where
  ruleId : Option Uuid
  allocatedTo : Json
  amount : DecimalValue
  percentage : Option DecimalValue

def unallocated : Json := .str "Unallocated"

def bucketOf (entry : Entry) : Json := (entry.lookup "bucket").getD unallocated

def hundred : Decimal := ⟨10000,-2⟩

def directBucket : Json → Json
  | .arr (.obj entry :: _) => bucketOf entry
  | .obj entry => bucketOf entry
  | _ => unallocated

def percentageAllocations (cost : Decimal) (ruleId : Uuid) :
    DecimalValue → List Entry → Option (List Planned)
  | _, [] => some []
  | total, split :: rest => do
    let percentage ← decimalOf ((split.lookup "percentage").getD (.int 0))
    let total ← total.add percentage
    let product ← percentage.scaleBy cost
    let later ← percentageAllocations cost ruleId total rest
    return ⟨some ruleId,bucketOf split,product.divHundred,some percentage⟩ :: later

def fixedAllocations (ruleId : Uuid) :
    DecimalValue → List Entry → Option (List Planned × DecimalValue)
  | total, [] => some ([],total)
  | total, split :: rest => do
    let amount ← decimalOf ((split.lookup "amount").getD (.int 0))
    let total ← total.add amount
    let (later,total) ← fixedAllocations ruleId total rest
    return (⟨some ruleId,bucketOf split,amount,none⟩ :: later,total)

def allocateFixed (cost : Decimal) (ruleId : Uuid) (splits : List Entry) :
    Option (List Planned) := do
  let fixed ← fixedAllocations ruleId (.finite ⟨0,0⟩) splits
  let remaining ← (DecimalValue.finite cost).sub fixed.2
  let positive ← remaining.isPositive
  return fixed.1 ++ if positive then [⟨some ruleId,unallocated,remaining,none⟩] else []

def allocationsOf (cost : Decimal) (rule : AttributionRule) : Option (List Planned) :=
  if rule.ruleType = "DIRECT" then
    some [⟨some rule.id,directBucket rule.allocation,.finite cost,some (.finite hundred)⟩]
  else if rule.ruleType = "PERCENTAGE" then
    percentageAllocations cost rule.id (.finite ⟨0,0⟩) (allocationEntries rule.allocation)
  else if rule.ruleType = "FIXED" then
    allocateFixed cost rule.id (allocationEntries rule.allocation)
  else some []

/-- The first rule that matches makes the allocations; `none` raises. -/
def applyRules (record : CostRecord) (rules : List AttributionRule) : Option (List Planned) := do
  let allocations ← ((rules.find? fun rule => matchConditions record rule.conditions).map
    (allocationsOf record.cost)).getD (some [])
  return if allocations = [] then
      [⟨none,unallocated,.finite record.cost,some (.finite hundred)⟩]
    else allocations

structure CostAllocation where
  costRecordId : Uuid
  recordedAt : Nat
  ruleId : Option Uuid
  allocatedTo : String
  amount : Int
  percentage : Option Int
  deriving DecidableEq

def bucketColumn : Json → Option String
  | .str bucket => some bucket
  | _ => none

def percentageColumn : Option DecimalValue → Option (Option Int)
  | none => some none
  | some percentage => (percentage.column 5 2).map some

/-- What the table takes of a planned allocation; `none` is a row it refuses. -/
def Planned.stored (record : CostRecord) (planned : Planned) : Option CostAllocation := do
  let allocatedTo ← bucketColumn planned.allocatedTo
  let amount ← planned.amount.column 18 8
  let percentage ← percentageColumn planned.percentage
  return ⟨record.id,record.recordedAt,planned.ruleId,allocatedTo,amount,percentage⟩

def storedAllocations (record : CostRecord) (rules : List AttributionRule) :
    Option (List CostAllocation) :=
  (applyRules record rules).bind fun planned => planned.mapM (·.stored record)

section Validation

def validRuleTypes : List String := ["DIRECT","FIXED","PERCENTAGE"]

def bucketErrors (text : String) (split : Entry) : List String :=
  if JsonValue.truthy ((split.lookup "bucket").getD .null) then [] else [text]

def percentageErrors : DecimalValue → List Entry → Option (List String × DecimalValue)
  | total, [] => some ([],total)
  | total, split :: rest => do
    let bucket := bucketErrors "Each PERCENTAGE split requires a non-empty 'bucket'." split
    match decimalOf ((split.lookup "percentage").getD .null) with
    | none =>
      let (later,total) ← percentageErrors total rest
      return (bucket ++ ["Each PERCENTAGE split requires numeric 'percentage'."] ++ later,total)
    | some percentage =>
      let negative ← percentage.isNegative
      let total ← total.add percentage
      let (later,total) ← percentageErrors total rest
      return (bucket ++
        (if negative then ["PERCENTAGE split cannot be negative."] else []) ++ later,total)

def fixedErrors : List Entry → Option (List String)
  | [] => some []
  | split :: rest => do
    let bucket := bucketErrors "Each FIXED split requires a non-empty 'bucket'." split
    match decimalOf ((split.lookup "amount").getD .null) with
    | none =>
      let later ← fixedErrors rest
      return bucket ++ ["Each FIXED split requires numeric 'amount'."] ++ later
    | some amount =>
      let negative ← amount.isNegative
      let later ← fixedErrors rest
      return bucket ++ (if negative then ["FIXED split amount cannot be negative."] else []) ++ later

/-- `total != Decimal("100")`. -/
def isHundred : DecimalValue → Bool
  | .finite number => JsonValue.sameNumber number hundred
  | _ => false

/-- The errors of a payload; `none` raises. -/
def validateRulePayload (text : Uppercase) (ruleType : String) (allocation : Json) :
    Option (List String) :=
  let normalizedType := text.upper (strip ruleType)
  if normalizedType ∉ validRuleTypes then
    some ["rule_type must be one of ['DIRECT', 'FIXED', 'PERCENTAGE']"]
  else
    match normalizedType,allocationEntries allocation with
    | "DIRECT",[entry] =>
      some (bucketErrors "DIRECT allocation requires a non-empty 'bucket'." entry)
    | "DIRECT",_ => some ["DIRECT allocation must define exactly one bucket."]
    | "PERCENTAGE",[] => some ["PERCENTAGE allocation requires at least one split entry."]
    | "PERCENTAGE",entries => do
      let (errors,total) ← percentageErrors (.finite ⟨0,0⟩) entries
      return errors ++ (if isHundred total then []
        else ["PERCENTAGE split percentages must sum to 100."])
    | "FIXED",[] => some ["FIXED allocation requires at least one split entry."]
    | "FIXED",entries => fixedErrors entries
    | _,_ => some []

end Validation

end Valdrics.Reporting

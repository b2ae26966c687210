import Valdrics.BatchedRemoval
import Valdrics.BillingModels
import Valdrics.DateOrder

/-! The deletion of cost records that are older than the plan of their tenant retains, tier by tier
and batch by batch, with a report of what was deleted. -/
namespace Valdrics.CostRetention

open Enforcement (PricingTier Uuid)
open Enforcement.ApprovalToken (uuidText)
open Billing (pricingTier tierValue)
open PythonText
open DateText (isoFormat yearOf)

/-- What the deletion reads of a record; its key are its identifier and its date. -/
structure CostRecord where
  id : Uuid
  tenantId : Uuid
  recordedAt : Nat
  dated : yearOf recordedAt ≤ 9999
  deriving DecidableEq

structure Estate where
  text : Lowercase
  plans : Table Uuid (Option String)
  records : List CostRecord
  recordKeys : (records.map fun record => (record.id,record.recordedAt)).Nodup
  tenantKeys : ∀ record ∈ records, (plans.find record.tenantId).isSome = true

def normalizeTier (text : Lowercase) : Option String → PricingTier
  | some tier => (pricingTier (text.lower (strip tier))).getD .free
  | none => .free

/-- The limit `retention_days` of `TIER_CONFIG`; `none` is unlimited. -/
def retentionLimit : PricingTier → Option Nat
  | .free => some 30
  | .starter => some 90
  | .growth => some 365
  | .pro => some 730
  | .enterprise => none

/-- `get_tier_limit(tier, "retention_days")`. -/
def getTierLimit (text : Lowercase) (tier : String) : Option Nat :=
  retentionLimit (normalizeTier text (some tier))

/-- `str` of a plan. -/
def planText : Option String → String
  | some plan => plan
  | none => "None"

def coercePositiveInt (value default minimum : Int) : Int :=
  if minimum ≤ value then value else default

structure Call where
  batchSize : Int
  maxBatches : Int
  asOfDate : Option Nat
  today : Nat

namespace Call

variable (call : Call)

def resolvedBatchSize : Nat := (coercePositiveInt call.batchSize 5000 100).toNat
def resolvedMaxBatches : Nat := (coercePositiveInt call.maxBatches 50 1).toNat
def targetDate : Nat := call.asOfDate.getD call.today

end Call

abbrev RetentionGroup := (PricingTier × Nat) × List String

def retentionGroups (text : Lowercase) (rawPlans : List (Option String)) :
    Table (PricingTier × Nat) (List String) :=
  rawPlans.foldl (fun groups rawPlan =>
    let tier := normalizeTier text rawPlan
    match getTierLimit text (tierValue tier) with
    | none => groups
    | some days =>
      if days < 1 then groups
      else groups.upsert (tier,days) [planText rawPlan] fun plans => plans ++ [planText rawPlan])
    Table.empty

/-- The order of `sorted` over the names of the tiers and their days. -/
def RetentionGroup.le (a b : RetentionGroup) : Bool :=
  if tierValue a.1.1 = tierValue b.1.1 then a.1.2 ≤ b.1.2
  else before (tierValue a.1.1).toList (tierValue b.1.1).toList

structure TenantReport where
  tenantId : String
  tenantTier : String
  retentionDays : Nat
  deletedCount : Nat
  oldestRecordedAt : Option String
  newestRecordedAt : Option String
  deriving DecidableEq

namespace TenantReport

/-- `setdefault`. -/
def fresh (tenantId : String) (group : PricingTier × Nat) : TenantReport :=
  ⟨tenantId,tierValue group.1,group.2,0,none,none⟩

def note (report : TenantReport) (recordedAt : String) : TenantReport :=
  { report with
    deletedCount := report.deletedCount + 1
    oldestRecordedAt :=
      if report.oldestRecordedAt.all (fun oldest => before recordedAt.toList oldest.toList) then
        some recordedAt
      else report.oldestRecordedAt
    newestRecordedAt :=
      if report.newestRecordedAt.all (fun newest => before newest.toList recordedAt.toList) then
        some recordedAt
      else report.newestRecordedAt }

def le (a b : TenantReport) : Bool :=
  if a.tenantTier = b.tenantTier then !before b.tenantId.toList a.tenantId.toList
  else before a.tenantTier.toList b.tenantTier.toList

end TenantReport

structure Purge where
  records : List CostRecord
  totalDeleted : Nat := 0
  totalBatches : Nat := 0
  tierDeletedCounts : Table String Nat := Table.empty
  tenantReports : Table String TenantReport := Table.empty

def CostRecord.le (a b : CostRecord) : Bool :=
  a.recordedAt < b.recordedAt || (a.recordedAt = b.recordedAt && a.id.toNat ≤ b.id.toNat)

/-- The condition of a group's statement; a missing plan is in no list. -/
def dueIn (plans : Table Uuid (Option String)) (planValues : List String) (cutoffDate : Nat)
    (record : CostRecord) : Bool :=
  match plans.find record.tenantId with
  | some (some plan) => plan ∈ planValues && record.recordedAt < cutoffDate
  | _ => false

def noteRow (group : PricingTier × Nat) (reports : Table String TenantReport)
    (record : CostRecord) : Table String TenantReport :=
  let recordedAt := isoFormat record.recordedAt
  reports.upsert (uuidText record.tenantId) ((TenantReport.fresh (uuidText record.tenantId) group).note recordedAt)
    fun report => report.note recordedAt

def purgeBatches (due : CostRecord → Bool) (group : PricingTier × Nat) (batchSize : Nat) :
    Nat → Purge → Nat → Purge × Nat
  | 0, purge, tierDeleted => (purge,tierDeleted)
  | batches + 1, purge, tierDeleted =>
    let batchRows := ((purge.records.filter due).mergeSort CostRecord.le).take batchSize
    if batchRows = [] then (purge,tierDeleted)
    else
      let recordIds := batchRows.map CostRecord.id
      purgeBatches due group batchSize batches
        { purge with
          records := purge.records.filter fun record => record.id ∉ recordIds
          totalDeleted := purge.totalDeleted + recordIds.length
          totalBatches := purge.totalBatches + 1
          tenantReports := batchRows.foldl (noteRow group) purge.tenantReports }
        (tierDeleted + recordIds.length)

def purgeGroup (plans : Table Uuid (Option String)) (call : Call) (purge : Purge)
    (group : RetentionGroup) : Option Purge :=
  if group.1.2 ≤ call.targetDate then
    let cutoffDate := call.targetDate - group.1.2
    let (purge,tierDeleted) := purgeBatches (dueIn plans group.2 cutoffDate) group.1
      call.resolvedBatchSize call.resolvedMaxBatches purge 0
    some (if tierDeleted = 0 then purge
      else { purge with
        tierDeletedCounts :=
          purge.tierDeletedCounts.upsert (tierValue group.1.1) tierDeleted fun _ => tierDeleted })
  else none

structure Summary where
  deletedCount : Nat
  tiers : Table String Nat
  tenantReports : List TenantReport
  batchSize : Nat
  maxBatches : Nat
  asOfDate : String

namespace Estate

variable (estate : Estate)

def rawPlans : List (Option String) := (estate.plans.rows.map Prod.snd).dedup

def sortedGroups : List RetentionGroup :=
  (retentionGroups estate.text estate.rawPlans).rows.mergeSort RetentionGroup.le

/-- `cleanup_expired_cost_records_by_plan`: the records that are left and what it returns. -/
def cleanupExpiredCostRecordsByPlan (call : Call) : Option (List CostRecord × Summary) := do
  let purge ← estate.sortedGroups.foldlM (purgeGroup estate.plans call) ⟨estate.records,0,0,.empty,.empty⟩
  return (purge.records,
    { deletedCount := purge.totalDeleted
      tiers := purge.tierDeletedCounts
      tenantReports := (purge.tenantReports.rows.map Prod.snd).mergeSort TenantReport.le
      batchSize := call.resolvedBatchSize
      maxBatches := call.resolvedMaxBatches
      asOfDate := isoFormat call.targetDate })

end Estate

end Valdrics.CostRetention

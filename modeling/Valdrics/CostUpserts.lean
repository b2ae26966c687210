import Valdrics.DecimalContext
import Valdrics.EnforcementModels
import Valdrics.UpsertRows

/-! `bulk_upsert` against its two back ends: one statement of PostgreSQL with a conflict clause, and a
loop that looks for the row of each value. -/
namespace Valdrics.CostUpsert

open Enforcement (Json Uuid)
open PythonText (orDefault)
open Upsert (Writer)

structure CostKey where
  accountId : Uuid
  timestamp : Option Nat
  service : String
  region : Option String
  usageType : Option String
  recordedAt : Nat
  resourceId : String
  deriving DecidableEq

/-- A key that the constraint holds two rows to: missing values are never the same. -/
def CostKey.complete (key : CostKey) : Bool :=
  key.timestamp.isSome && key.region.isSome && key.usageType.isSome

/-- A stored row without its identifier, its amounts in 1e-8. -/
structure CostRecord where
  tenantId : Uuid
  key : CostKey
  usageAmount : Option Int
  usageUnit : Option String
  costUsd : Int
  amountRaw : Option Int
  currency : String
  canonicalChargeCategory : String
  canonicalChargeSubcategory : Option String
  canonicalMappingVersion : String
  isPreliminary : Bool
  costStatus : String
  reconciliationRunId : Option Uuid
  ingestionMetadata : Option Json
  tags : Option Json

structure CanonicalMapping where
  category : String
  subcategory : Option String
  version : String

structure Ingestion where
  tenantId : Uuid
  accountId : Uuid
  isPreliminary : Bool
  reconciliationRunId : Option Uuid
  mapCanonicalChargeCategory : Option String → Option String → Option String → CanonicalMapping

/-- A row as it is built; of the dictionary of its lineage it is only known that there is one. -/
structure CostValues where
  tenantId : Uuid
  accountId : Uuid
  service : String
  region : String
  resourceId : String
  usageAmount : Option Decimal
  usageUnit : Option String
  costUsd : Option Decimal
  amountRaw : Option Decimal
  currency : Option String
  recordedAt : Nat
  timestamp : Nat
  usageType : Option String
  canonicalChargeCategory : String
  canonicalChargeSubcategory : Option String
  canonicalMappingVersion : String
  isPreliminary : Bool
  costStatus : String
  reconciliationRunId : Option Uuid
  ingestionMetadata : Json
  tags : Option Json

structure SummaryRecord where
  date : Nat
  amount : Decimal
  amountRaw : Option Decimal
  currency : String
  service : Option String
  region : Option String
  usageType : Option String
  tags : List (String × Json)
  lineage : Json
  resourceId : Option String := none
  usageAmount : Option Decimal := none
  usageUnit : Option String := none

/-- A record of a stream; the outer `none` is a missing usage type. -/
structure StreamRecord where
  timestamp : Nat
  provider : Option String
  service : Option String
  region : Option String
  usageType : Option (Option String)
  resourceId : Option String
  usageAmount : Option Decimal
  usageUnit : Option String
  costUsd : Option Decimal
  amountRaw : Option Decimal
  currency : Option String
  tags : List (String × Json)
  lineage : Json

def dictOrNone (tags : List (String × Json)) : Option Json := if tags = [] then none else some (.obj tags)

namespace Ingestion

variable (call : Ingestion)

def costStatus : String := if call.isPreliminary then "PRELIMINARY" else "FINAL"

/-- The row that `save_summary` builds of a record. -/
def summaryValues (provider : Option String) (record : SummaryRecord) : CostValues :=
  let mapping := call.mapCanonicalChargeCategory provider record.service record.usageType
  { tenantId := call.tenantId
    accountId := call.accountId
    service := orDefault (record.service.getD "") "Unknown"
    region := orDefault (record.region.getD "") "Global"
    resourceId := record.resourceId.getD ""
    usageAmount := record.usageAmount
    usageUnit := record.usageUnit
    costUsd := some record.amount
    amountRaw := record.amountRaw
    currency := some record.currency
    recordedAt := record.date / Calendar.microsPerDay
    timestamp := record.date
    usageType := record.usageType
    canonicalChargeCategory := mapping.category
    canonicalChargeSubcategory := mapping.subcategory
    canonicalMappingVersion := mapping.version
    isPreliminary := call.isPreliminary
    costStatus := call.costStatus
    reconciliationRunId := call.reconciliationRunId
    ingestionMetadata := record.lineage
    tags := dictOrNone record.tags }

/-- The row that `save_records_stream` builds of a record. -/
def streamValues (record : StreamRecord) : CostValues :=
  let mapping := call.mapCanonicalChargeCategory record.provider record.service
    (record.usageType.getD none)
  { tenantId := call.tenantId
    accountId := call.accountId
    service := orDefault (record.service.getD "") "Unknown"
    region := orDefault (record.region.getD "") "Global"
    resourceId := record.resourceId.getD ""
    usageAmount := record.usageAmount
    usageUnit := record.usageUnit.filter (· ≠ "")
    costUsd := record.costUsd
    amountRaw := record.amountRaw
    currency := record.currency
    recordedAt := record.timestamp / Calendar.microsPerDay
    timestamp := record.timestamp
    usageType := record.usageType.getD (some "Usage")
    canonicalChargeCategory := mapping.category
    canonicalChargeSubcategory := mapping.subcategory
    canonicalMappingVersion := mapping.version
    isPreliminary := call.isPreliminary
    costStatus := call.costStatus
    reconciliationRunId := call.reconciliationRunId
    ingestionMetadata := record.lineage
    tags := dictOrNone record.tags }

end Ingestion

inductive Batch where
  | summary (provider : Option String) (records : List SummaryRecord)
  | stream (records : List StreamRecord)

def Batch.values (call : Ingestion) : Batch → List CostValues
  | summary provider records => records.map (call.summaryValues provider)
  | stream records => records.map call.streamValues

structure Incoming where
  values : CostValues
  usageAmount : Option Int
  costUsd : Option Int
  amountRaw : Option Int

/-- A column of 18 digits, 8 of them after the point; the outer `none` is refused. -/
def amountColumn : Option Decimal → Option (Option Int)
  | none => some none
  | some amount => (DecimalValue.column 18 8 (.finite amount)).map some

def CostValues.columns (values : CostValues) : Option Incoming := do
  let usageAmount ← amountColumn values.usageAmount
  let costUsd ← amountColumn values.costUsd
  let amountRaw ← amountColumn values.amountRaw
  return ⟨values,usageAmount,costUsd,amountRaw⟩

namespace Incoming

variable (incoming : Incoming)

def key : CostKey where
  accountId := incoming.values.accountId
  timestamp := some incoming.values.timestamp
  service := incoming.values.service
  region := some incoming.values.region
  usageType := incoming.values.usageType
  recordedAt := incoming.values.recordedAt
  resourceId := incoming.values.resourceId

def complete : Bool := incoming.costUsd.isSome && incoming.values.currency.isSome

def newRow : CostRecord where
  tenantId := incoming.values.tenantId
  key := incoming.key
  usageAmount := incoming.usageAmount
  usageUnit := incoming.values.usageUnit
  costUsd := incoming.costUsd.getD 0
  amountRaw := incoming.amountRaw
  currency := incoming.values.currency.getD "USD"
  canonicalChargeCategory := incoming.values.canonicalChargeCategory
  canonicalChargeSubcategory := incoming.values.canonicalChargeSubcategory
  canonicalMappingVersion := incoming.values.canonicalMappingVersion
  isPreliminary := incoming.values.isPreliminary
  costStatus := incoming.values.costStatus
  reconciliationRunId := incoming.values.reconciliationRunId
  ingestionMetadata := some incoming.values.ingestionMetadata
  tags := incoming.values.tags

end Incoming

def overwrite (row : CostRecord) (incoming : Incoming) : CostRecord :=
  let values := incoming.values
  { row with
    key := { row.key with resourceId := values.resourceId, usageType := values.usageType }
    usageAmount := incoming.usageAmount
    usageUnit := values.usageUnit
    costUsd := incoming.costUsd.getD 0
    amountRaw := incoming.amountRaw
    currency := values.currency.getD "USD"
    canonicalChargeCategory := values.canonicalChargeCategory
    canonicalChargeSubcategory := values.canonicalChargeSubcategory
    canonicalMappingVersion := values.canonicalMappingVersion
    isPreliminary :=
      if values.costStatus = "FINAL" then false
      else if row.costStatus = "FINAL" then row.isPreliminary
      else values.isPreliminary
    costStatus :=
      if values.costStatus = "FINAL" then "FINAL"
      else if row.costStatus = "FINAL" then row.costStatus
      else values.costStatus
    reconciliationRunId := values.reconciliationRunId.or row.reconciliationRunId
    ingestionMetadata := some values.ingestionMetadata
    tags := values.tags }

/-- `str(val.get("cost_status") or existing.cost_status or "PRELIMINARY")`. -/
def incomingStatus (row : CostRecord) (values : CostValues) : String :=
  orDefault values.costStatus (orDefault row.costStatus "PRELIMINARY")

def merge (row : CostRecord) (incoming : Incoming) : CostRecord :=
  let values := incoming.values
  let status := incomingStatus row values
  { row with
    key := { row.key with
      resourceId := values.resourceId, usageType := values.usageType.or row.key.usageType }
    usageAmount := incoming.usageAmount.or row.usageAmount
    usageUnit := values.usageUnit.or row.usageUnit
    costUsd := incoming.costUsd.getD row.costUsd
    amountRaw := incoming.amountRaw.or row.amountRaw
    currency := values.currency.getD row.currency
    canonicalChargeCategory := values.canonicalChargeCategory
    canonicalChargeSubcategory := values.canonicalChargeSubcategory
    canonicalMappingVersion := values.canonicalMappingVersion
    costStatus :=
      if status = "FINAL" then "FINAL" else if row.costStatus = "FINAL" then "FINAL" else status
    isPreliminary :=
      if status = "FINAL" then false
      else if row.costStatus = "FINAL" then false
      else values.isPreliminary
    reconciliationRunId := values.reconciliationRunId.or row.reconciliationRunId
    ingestionMetadata := some values.ingestionMetadata
    tags := values.tags }

theorem overwrite_key (row : CostRecord) (incoming : Incoming) (own : row.key = incoming.key) :
    (overwrite row incoming).key = row.key := by
  simp [overwrite,own,Incoming.key]

theorem merge_key (row : CostRecord) (incoming : Incoming) (own : row.key = incoming.key) :
    (merge row incoming).key = row.key := by
  simp [merge,own,Incoming.key]

def postgres : Writer CostRecord Incoming CostKey where
  rowKey := CostRecord.key
  valueKey := Incoming.key
  finds incoming := incoming.values.usageType.isSome
  change := overwrite
  fresh := Incoming.newRow
  change_key := overwrite_key
  fresh_key _ := rfl

/-- The rows that the loop writes: it also finds rows without a usage type. -/
def fallback : Writer CostRecord Incoming CostKey where
  rowKey := CostRecord.key
  valueKey := Incoming.key
  finds _ := true
  change := merge
  fresh := Incoming.newRow
  change_key := merge_key
  fresh_key _ := rfl

def conflicts (a b : Incoming) : Prop := a.values.usageType.isSome = true ∧ a.key = b.key

instance (a b : Incoming) : Decidable (conflicts a b) := inferInstanceAs (Decidable (_ ∧ _))

/-- The PostgreSQL branch; `none` fails. -/
def postgresUpsert (values : List CostValues) (rows : List CostRecord) : Option (List CostRecord) := do
  let incoming ← values.mapM CostValues.columns
  if incoming.all Incoming.complete = true ∧ incoming.Pairwise fun a b => ¬conflicts a b then
    return incoming.foldl postgres.write rows
  else none

/-- A round of the loop; a new row without a cost fails. -/
def fallbackRow (rows : List CostRecord) (incoming : Incoming) : Option (List CostRecord) :=
  if fallback.shard rows incoming.key = [] ∧ incoming.costUsd = none then none
  else some (fallback.write rows incoming)

def fallbackUpsert (values : List CostValues) (rows : List CostRecord) : Option (List CostRecord) := do
  let incoming ← values.mapM CostValues.columns
  incoming.foldlM fallbackRow rows

/-- `bulk_upsert`. -/
def bulkUpsert (postgresql : Bool) (values : List CostValues) (rows : List CostRecord) :
    Option (List CostRecord) :=
  if values.isEmpty then some rows
  else if postgresql then postgresUpsert values rows
  else fallbackUpsert values rows

def UniqueRows (rows : List CostRecord) : Prop :=
  ((rows.map CostRecord.key).filter CostKey.complete).Nodup

def BackEndsAgree (values : List CostValues) (rows : List CostRecord) : Prop :=
  (bulkUpsert true values rows = none ∧ bulkUpsert false values rows = none) ∨
    ∃ left right, bulkUpsert true values rows = some left ∧ bulkUpsert false values rows = some right ∧
      left.Perm right

end Valdrics.CostUpsert

import Valdrics.DecimalContext
import Valdrics.EnforcementModels

/-! Persistence of cost records: a batch of values is compared with the final records for the
audit log, if it is a final batch, and then written over the records of the same key. -/
namespace Valdrics.Reporting

open Enforcement (Uuid)
open PythonText (orDefault)

inductive CostStatus where
  | preliminary
  | final
  deriving DecidableEq, Repr

/-- The unique constraint of the cost records; instants and days count from one origin. -/
structure CostKey where
  accountId : Uuid
  timestamp : Nat
  service : String
  region : String
  usageType : Option String
  recordedAt : Nat
  resourceId : String
  deriving DecidableEq

structure CostRow where
  id : Nat
  tenantId : Uuid
  key : CostKey
  costUsd : Int
  status : CostStatus
  isPreliminary : Bool
  deriving DecidableEq

structure CostAudit where
  costRecordId : Nat
  costRecordedAt : Nat
  oldCost : Int
  newCost : Int
  reason : String := "RESTATEMENT"
  ingestionBatchId : Option Uuid
  deriving DecidableEq

/-- What `save_summary` reads of a summary's record; the day is the timestamp's own. -/
structure SummaryRecord where
  timestamp : Nat
  date : Nat
  service : Option String
  region : Option String
  usageType : Option String
  resourceId : Option String := none
  amount : Decimal

/-- What `save_records_stream` reads of a record; the outer `none` is a missing usage type. -/
structure StreamRecord where
  timestamp : Nat
  date : Nat
  service : Option String
  region : Option String
  usageType : Option (Option String)
  resourceId : Option String
  costUsd : Decimal

structure CostValue where
  timestamp : Nat
  recordedAt : Nat
  service : String
  region : String
  usageType : Option String
  resourceId : String
  costUsd : Decimal

def SummaryRecord.value (record : SummaryRecord) : CostValue where
  timestamp := record.timestamp
  recordedAt := record.date
  service := orDefault (record.service.getD "") "Unknown"
  region := orDefault (record.region.getD "") "Global"
  usageType := record.usageType
  resourceId := record.resourceId.getD ""
  costUsd := record.amount

def StreamRecord.value (record : StreamRecord) : CostValue where
  timestamp := record.timestamp
  recordedAt := record.date
  service := orDefault (record.service.getD "") "Unknown"
  region := orDefault (record.region.getD "") "Global"
  usageType := record.usageType.getD (some "Usage")
  resourceId := record.resourceId.getD ""
  costUsd := record.costUsd

structure Ingestion where
  tenantId : Uuid
  accountId : Uuid
  isPreliminary : Bool
  reconciliationRunId : Option Uuid := none

def Ingestion.status (call : Ingestion) : CostStatus :=
  if call.isPreliminary then .preliminary else .final

/-- `viaFloat x` is `Decimal(str(float(x)))`: two amounts are the same float exactly if it
takes them to the same number. -/
structure Database where
  postgresql : Bool
  viaFloat : Decimal → Decimal

def costColumn (amount : Decimal) : Option Int := DecimalValue.column 18 8 (.finite amount)

def stored (units : Int) : Decimal := .ofUnits units 8

/-- The key of the audit, in which an absent text is an empty one and the day has no part. -/
structure AuditKey where
  timestamp : Nat
  service : String
  region : String
  usageType : String
  resourceId : String
  deriving DecidableEq

def CostRow.auditKey (row : CostRow) : AuditKey where
  timestamp := row.key.timestamp
  service := orDefault row.key.service "Unknown"
  region := orDefault row.key.region "Global"
  usageType := row.key.usageType.getD ""
  resourceId := row.key.resourceId

def CostValue.auditKey (value : CostValue) : AuditKey where
  timestamp := value.timestamp
  service := orDefault value.service "Unknown"
  region := orDefault value.region "Global"
  usageType := value.usageType.getD ""
  resourceId := value.resourceId

def CostValue.key (call : Ingestion) (value : CostValue) : CostKey where
  accountId := call.accountId
  timestamp := value.timestamp
  service := value.service
  region := value.region
  usageType := value.usageType
  recordedAt := value.recordedAt
  resourceId := value.resourceId

/-- Rows under identifiers below `nextId`. -/
structure Table where
  rows : List CostRow := []
  nextId : Nat := 0

namespace Database

variable (database : Database)

def auditCandidates (rows : List CostRow) (call : Ingestion) (values : List CostValue) :
    List CostRow :=
  rows.filter fun row =>
    row.tenantId = call.tenantId ∧ row.key.accountId = call.accountId ∧
      row.key.recordedAt ∈ values.map (·.recordedAt) ∧
      row.key.service ∈ values.map (fun value => orDefault value.service "Unknown") ∧
      row.status = .final

def compared (rows : List CostRow) (call : Ingestion) (values : List CostValue)
    (value : CostValue) : Option CostRow :=
  ((auditCandidates rows call values).filter fun row => row.auditKey = value.auditKey).getLast?

def sameFloat (units : Int) (amount : Decimal) : Prop :=
  database.viaFloat (stored units) = database.viaFloat amount

instance (units : Int) (amount : Decimal) : Decidable (database.sameFloat units amount) :=
  inferInstanceAs (Decidable (_ = _))

/-- The audit row of a value, if it restates a final record; the outer `none` raises. -/
def auditRow (rows : List CostRow) (call : Ingestion) (values : List CostValue)
    (value : CostValue) : Option (Option CostAudit) :=
  match compared rows call values value with
  | none => some none
  | some row =>
    if database.sameFloat row.costUsd value.costUsd then some none
    else do
      let oldCost ← costColumn (database.viaFloat (stored row.costUsd))
      let newCost ← costColumn (database.viaFloat value.costUsd)
      return some {
        costRecordId := row.id
        costRecordedAt := value.recordedAt
        oldCost := oldCost
        newCost := newCost
        ingestionBatchId := call.reconciliationRunId }

def checkForSignificantAdjustments (rows : List CostRow) (call : Ingestion)
    (values : List CostValue) : Option (List CostAudit) :=
  (values.mapM (database.auditRow rows call values)).map (·.filterMap fun audit => audit)

/-- The key of a row that a value is written over; the constraint of PostgreSQL holds no two
rows without a usage type for the same. -/
def sameKey (key other : CostKey) : Prop :=
  key = other ∧ (database.postgresql = true → key.usageType ≠ none)

instance (key other : CostKey) : Decidable (database.sameKey key other) :=
  inferInstanceAs (Decidable (_ ∧ _))

def rewritten (call : Ingestion) (row : CostRow) (units : Int) : CostRow :=
  { row with
    costUsd := units
    status := if call.status = .final then .final else if row.status = .final then .final
      else .preliminary
    isPreliminary := if call.status = .final then false
      else if row.status = .final then row.isPreliminary else call.isPreliminary }

def target (rows : List CostRow) (call : Ingestion) (value : CostValue) : Option CostRow :=
  rows.find? fun row => database.sameKey (value.key call) row.key

def upsertRow (call : Ingestion) (table : Table) (value : CostValue) : Option Table := do
  let units ← costColumn value.costUsd
  match database.target table.rows call value with
  | some row =>
    return { table with rows := table.rows.map fun other =>
      if other.id = row.id then rewritten call other units else other }
  | none =>
    return ⟨table.rows ++ [⟨table.nextId,call.tenantId,value.key call,units,call.status,
      call.isPreliminary⟩],table.nextId + 1⟩

def repeats (call : Ingestion) (values : List CostValue) : Prop :=
  database.postgresql = true ∧ ¬values.Pairwise fun one two =>
    ¬database.sameKey (one.key call) (two.key call)

instance (call : Ingestion) (values : List CostValue) : Decidable (database.repeats call values) :=
  inferInstanceAs (Decidable (_ ∧ ¬_))

def bulkUpsert (call : Ingestion) (table : Table) (values : List CostValue) : Option Table :=
  if database.repeats call values then none else values.foldlM (database.upsertRow call) table

end Database

def batchSize : Nat := 500

def batches (values : List CostValue) : List (List CostValue) := values.toChunks batchSize

end Valdrics.Reporting

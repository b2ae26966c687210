import Mathlib.Data.Prod.Lex
import Mathlib.Data.String.Basic
import Valdrics.ApprovalToken
import Valdrics.AttributionRules
import Valdrics.DateText
import Valdrics.PagedMerge

/-! The spend ledger: the cost records of a tenant with what is allocated of them, and its uses of
language models, listed page by page. A provider's ledger is a slice of one query; the whole ledger
sorts the first rows of both queries again, under the texts of its entries. -/
namespace Valdrics.SpendLedger

open Enforcement (Uuid)
open PythonText
open Reporting (CostAllocation)

/-- A row of the cost records, with the day and the instant in UTC, and its cost in 1e-8 dollars. -/
structure LedgerRecord where
  id : Uuid
  tenantId : Uuid
  accountId : Uuid
  recordedAt : Nat
  timestamp : Option Nat
  costStatus : String
  costUsd : Int
  deriving DecidableEq

structure CloudAccount where
  id : Uuid
  provider : String
  name : String
  deriving DecidableEq

structure LlmUsage where
  id : Uuid
  tenantId : Uuid
  provider : String
  createdAt : Nat
  costUsd : Int
  deriving DecidableEq

structure Books where
  records : List LedgerRecord
  accounts : Table Uuid CloudAccount
  usages : List LlmUsage
  allocations : List CostAllocation
  recordKeys : (records.map fun record => (record.id,record.recordedAt)).Nodup
  usageIds : (usages.map fun usage => usage.id).Nodup
  accountKeys : ∀ record ∈ records, (accounts.find record.accountId).isSome = true

/-- Where the database puts missing values, and how it marks the zone of an instant. -/
structure Backend where
  text : Lowercase
  nullsFirst : Bool
  zone : String

structure LedgerQuery where
  tenantId : Uuid
  startDate : Nat
  endDate : Nat
  provider : Option String
  includePreliminary : Bool

def aiLedgerProvider : String := "ai"

abbrev JoinedRow := LedgerRecord × CloudAccount

inductive LedgerRow where
  | origin (record : LedgerRecord) (account : CloudAccount)
  | usage (usage : LlmUsage)
  deriving DecidableEq

namespace LedgerQuery

variable (query : LedgerQuery)

def includeOriginSpend : Bool := query.provider ≠ some aiLedgerProvider

def includeAiSpend : Bool := query.provider = none || query.provider = some aiLedgerProvider

def selects (record : LedgerRecord) : Bool :=
  record.tenantId = query.tenantId && query.startDate ≤ record.recordedAt &&
    record.recordedAt ≤ query.endDate &&
    (query.includePreliminary || record.costStatus = "FINAL")

def selectsAccount (account : CloudAccount) : Bool :=
  query.provider.all fun provider => provider = "" || account.provider = provider

def selectsUsage (usage : LlmUsage) : Bool :=
  usage.tenantId = query.tenantId && query.startDate * Calendar.microsPerDay ≤ usage.createdAt &&
    usage.createdAt < (query.endDate + 1) * Calendar.microsPerDay

end LedgerQuery

namespace Books

variable (books : Books) (query : LedgerQuery)

def joinedRows : List JoinedRow :=
  ((books.records.filter query.selects).filterMap fun record =>
    (books.accounts.find record.accountId).map (record,·)).filter fun row =>
      query.selectsAccount row.2

def selectedUsages : List LlmUsage := books.usages.filter query.selectsUsage

end Books

/-- What the allocations of a record come to, without those of the unallocated bucket, and how many
there are. -/
structure Rollup where
  allocatedAmount : Int
  allocationCount : Nat

def isUnallocated (text : Lowercase) (bucket : String) : Bool := text.lower bucket = "unallocated"

/-- `cost_allocation_rollup_subquery` at a selected record; `none` is a record it has no row for. -/
def Books.rollup (books : Books) (text : Lowercase) (record : LedgerRecord) : Option Rollup :=
  let rows := books.allocations.filter fun allocation =>
    allocation.costRecordId = record.id && allocation.recordedAt = record.recordedAt
  if rows = [] then none
  else some ⟨(rows.map fun row => if isUnallocated text row.allocatedTo then 0 else row.amount).sum,
    rows.length⟩

def allocatedAmount (rollup : Option Rollup) : Int := (rollup.map (·.allocatedAmount)).getD 0

/-- `unallocated_amount_expr`. -/
def unallocatedAmount (originAmount : Int) (rollup : Option Rollup) : Int :=
  let remaining := originAmount - allocatedAmount rollup
  if (rollup.map (·.allocationCount)).getD 0 = 0 then originAmount
  else if remaining < 0 then 0
  else remaining

structure LedgerSummary where
  recordCount : Nat := 0
  totalCost : Int := 0
  totalAllocated : Int := 0
  totalUnallocated : Int := 0
  deriving DecidableEq

/-- `_origin_spend_summary`. -/
def Books.originSpendSummary (books : Books) (text : Lowercase) (query : LedgerQuery) :
    LedgerSummary :=
  let records := (books.joinedRows query).map Prod.fst
  { recordCount := records.length
    totalCost := (records.map fun record => record.costUsd).sum
    totalAllocated := (records.map fun record => allocatedAmount (books.rollup text record)).sum
    totalUnallocated :=
      (records.map fun record => unallocatedAmount record.costUsd (books.rollup text record)).sum }

/-- `ai_spend_summary`. -/
def Books.aiSpendSummary (books : Books) (query : LedgerQuery) : LedgerSummary :=
  let total := ((books.selectedUsages query).map fun usage => usage.costUsd).sum
  ⟨(books.selectedUsages query).length,total,0,total⟩

structure LedgerEntry where
  id : String
  recordedAt : String
  timestamp : Option String
  provider : String
  accountId : String
  accountName : String
  costUsd : Int
  allocationStatus : String
  allocatedAmountUsd : Int
  unallocatedAmountUsd : Int
  allocationCount : Nat
  deriving DecidableEq

/-- `isoformat` of an instant. -/
def Backend.isoFormat (backend : Backend) (instant : Nat) : String :=
  let second := instant / Calendar.microsPerSecond % 86400
  let micro := instant % Calendar.microsPerSecond
  DateText.isoFormat (instant / Calendar.microsPerDay) ++ "T" ++ DateText.padded 2 (second / 3600) ++
    ":" ++ DateText.padded 2 (second / 60 % 60) ++ ":" ++ DateText.padded 2 (second % 60) ++
    (if micro = 0 then "" else "." ++ DateText.padded 6 micro) ++ backend.zone

def allocationStatus (rollup : Option Rollup) (unallocated : Int) : String :=
  if (rollup.map (·.allocationCount)).getD 0 = 0 then "unallocated"
  else if 0 < unallocated && 0 < allocatedAmount rollup then "partially_allocated"
  else if 0 < unallocated then "unallocated"
  else "allocated"

/-- `_serialize_ledger_row` and `_serialize_llm_usage_row`. -/
def Books.serialize (books : Books) (backend : Backend) : LedgerRow → LedgerEntry
  | .origin record account =>
    let rollup := books.rollup backend.text record
    let unallocated := unallocatedAmount record.costUsd rollup
    { id := Enforcement.ApprovalToken.uuidText record.id
      recordedAt := DateText.isoFormat record.recordedAt
      timestamp := record.timestamp.map backend.isoFormat
      provider := account.provider
      accountId := Enforcement.ApprovalToken.uuidText account.id
      accountName := account.name
      costUsd := record.costUsd
      allocationStatus := allocationStatus rollup unallocated
      allocatedAmountUsd := allocatedAmount rollup
      unallocatedAmountUsd := unallocated
      allocationCount := (rollup.map (·.allocationCount)).getD 0 }
  | .usage usage =>
    let named := backend.text.lower (strip usage.provider)
    let provider := if named = "" then "unknown" else named
    { id := Enforcement.ApprovalToken.uuidText usage.id
      recordedAt := DateText.isoFormat (usage.createdAt / Calendar.microsPerDay)
      timestamp := some (backend.isoFormat usage.createdAt)
      provider := aiLedgerProvider
      accountId := "ai:" ++ provider
      accountName := "AI Spend (" ++ provider ++ ")"
      costUsd := usage.costUsd
      allocationStatus := "unallocated"
      allocatedAmountUsd := 0
      unallocatedAmountUsd := usage.costUsd
      allocationCount := 0 }

/-- `_ledger_entry_sort_key`. -/
def LedgerEntry.sortKey (entry : LedgerEntry) : String ×ₗ String ×ₗ String ×ₗ String :=
  toLex (entry.recordedAt,toLex (entry.timestamp.getD "",toLex (entry.provider,entry.id)))

/-- `ORDER BY recorded_at, timestamp, id`. -/
def Backend.originOrder (backend : Backend) (row : JoinedRow) : ℕ ×ₗ ℕ ×ₗ ℕ ×ₗ ℕ :=
  let missing : Nat := if backend.nullsFirst then 0 else 2
  toLex (row.1.recordedAt,toLex (row.1.timestamp.elim missing fun _ => 1,
    toLex (row.1.timestamp.getD 0,row.1.id.toNat)))

/-- `ORDER BY created_at, id`. -/
def usageOrder (usage : LlmUsage) : ℕ ×ₗ ℕ := toLex (usage.createdAt,usage.id.toNat)

namespace Books

variable (books : Books) (backend : Backend) (query : LedgerQuery)

def originQuery : List LedgerRow :=
  ((books.joinedRows query).mergeSort fun a b =>
    decide (backend.originOrder a ≤ backend.originOrder b)).map fun row => .origin row.1 row.2

def usageQuery : List LedgerRow :=
  ((books.selectedUsages query).mergeSort fun a b => decide (usageOrder a ≤ usageOrder b)).map .usage

def sortsBefore (a b : LedgerRow) : Bool :=
  decide ((books.serialize backend a).sortKey ≤ (books.serialize backend b).sortKey)

def page (offset limit : Nat) : List LedgerRow :=
  if query.includeOriginSpend && !query.includeAiSpend then
    Paging.slice (books.originQuery backend query) offset limit
  else if query.includeAiSpend && !query.includeOriginSpend then
    Paging.slice (books.usageQuery query) offset limit
  else
    Paging.mergedPage (books.sortsBefore backend) (books.originQuery backend { query with provider := none })
      (books.usageQuery query) offset limit

end Books

structure LedgerResponse where
  recordCount : Nat
  totalCostUsd : Int
  totalAllocatedUsd : Int
  totalUnallocatedUsd : Int
  entries : List LedgerEntry

/-- `list_spend_ledger_entries`. -/
def Books.listSpendLedgerEntries (books : Books) (backend : Backend) (query : LedgerQuery)
    (limit offset : Nat) : LedgerResponse :=
  let origin := if query.includeOriginSpend then books.originSpendSummary backend.text query else {}
  let ai := if query.includeAiSpend then books.aiSpendSummary query else {}
  { recordCount := origin.recordCount + ai.recordCount
    totalCostUsd := origin.totalCost + ai.totalCost
    totalAllocatedUsd := origin.totalAllocated + ai.totalAllocated
    totalUnallocatedUsd := origin.totalUnallocated + ai.totalUnallocated
    entries := (books.page backend query offset limit).map (books.serialize backend) }

end Valdrics.SpendLedger

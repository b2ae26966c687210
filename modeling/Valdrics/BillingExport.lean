import Mathlib.Data.List.Dedup
import Mathlib.Data.List.Sort
import Valdrics.CostRestatement

/-! A billing export in BigQuery and the cost query over it, the rows that the adapter makes of the
query's, and how an ingestion job writes them over the stored costs of the connection. -/
namespace Valdrics.Reporting

open Enforcement (Uuid)

structure ExportRow where
  usageStartTime : Nat
  service : String
  cost : Decimal
  credits : List Decimal := []
  currency : String := "USD"
  named : service ≠ "" := by decide

def dayMicros : Nat := 86400000000

/-- `TIMESTAMP_TRUNC(usage_start_time, DAY)`. -/
def truncDay (instant : Nat) : Nat := instant / dayMicros * dayMicros

abbrev CostGroup := String × Nat

def ExportRow.group (row : ExportRow) : CostGroup := (row.service,truncDay row.usageStartTime)

structure QueryRow where
  service : String
  costUsd : Decimal
  totalCredits : Option Decimal
  currency : String
  timestamp : Nat

/-- `SUM` over values that are there. -/
def sumOf (amounts : List Decimal) : Decimal := amounts.foldl Decimal.plus ⟨0,0⟩

/-- `SUM` over values that may all be missing. -/
def sumOrNull (amounts : List Decimal) : Option Decimal :=
  if amounts = [] then none else some (sumOf amounts)

/-- `MAX` over texts. -/
def maxText (texts : List String) : String :=
  texts.foldl (fun latest text => if latest < text then text else latest) ""

def aggregate (group : CostGroup) (members : List ExportRow) : QueryRow where
  service := group.1
  costUsd := sumOf (members.map (·.cost))
  totalCredits := sumOrNull (members.filterMap fun row => sumOrNull row.credits)
  currency := maxText (members.map (·.currency))
  timestamp := group.2

/-- The rows that the `WHERE` clause keeps. -/
def selected (exported : List ExportRow) (startDate endDate : Nat) : List ExportRow :=
  exported.filter fun row => startDate ≤ row.usageStartTime ∧ row.usageStartTime ≤ endDate

def members (rows : List ExportRow) (group : CostGroup) : List ExportRow :=
  rows.filter fun row => row.group = group

/-- `_build_cost_query` on an export. -/
def costQuery (exported : List ExportRow) (startDate endDate : Nat) : List QueryRow :=
  let rows := selected exported startDate endDate
  (((rows.map ExportRow.group).dedup).map fun group => aggregate group (members rows group)).insertionSort
    fun first second => second.timestamp ≤ first.timestamp

structure GcpCost where
  timestamp : Nat
  service : String
  costUsd : Decimal
  credits : Decimal
  amortizedCost : Decimal
  currency : String
  region : String := "global"
  usageType : String := "subscription"
  amountRaw : Decimal

def GcpCost.record (row : GcpCost) : StreamRecord where
  timestamp := row.timestamp
  date := row.timestamp / dayMicros
  service := some row.service
  region := some row.region
  usageType := some (some row.usageType)
  resourceId := none
  costUsd := row.costUsd

namespace Database

variable (database : Database)

/-- `_parse_row`. -/
def parseRow (row : QueryRow) : GcpCost where
  timestamp := row.timestamp
  service := row.service
  costUsd := database.viaFloat row.costUsd
  credits := database.viaFloat (row.totalCredits.getD ⟨0,0⟩)
  amortizedCost := database.viaFloat (row.costUsd.plus (row.totalCredits.getD ⟨0,0⟩))
  currency := row.currency
  amountRaw := database.viaFloat row.costUsd

/-- `get_cost_and_usage`. -/
def getCostAndUsage (exported : List ExportRow) (startDate endDate : Nat) : List GcpCost :=
  (costQuery exported startDate endDate).map database.parseRow

/-- `save_records_stream` on the rows of the window; `none` raises. -/
def saveStream (call : Ingestion) (table : Table) (records : List StreamRecord) : Option Table :=
  (batches (records.map StreamRecord.value)).foldlM (database.bulkUpsert call) table

end Database

theorem toChunks_go_flatten (n : Nat) (xs : List α) (first : Array α) (done : Array (List α)) :
    (List.toChunks.go n xs first done).flatten = done.toList.flatten ++ first.toList ++ xs := by
  induction xs generalizing first done with
  | nil => simp [List.toChunks.go]
  | cons x xs ih =>
    simp only [List.toChunks.go]
    split
    · rw [ih]
      simp
    · rw [ih]
      simp

theorem batches_flatten (values : List CostValue) : (batches values).flatten = values := by
  cases values with
  | nil => rfl
  | cons value rest =>
    show (List.toChunks.go 500 rest #[value] #[]).flatten = value :: rest
    rw [toChunks_go_flatten]
    simp

def costAt (table : Table) (key : CostKey) : Option Int :=
  (table.rows.find? fun row => row.key = key).map (·.costUsd)

section Upserts

open Database

variable {database : Database} {call : Ingestion} {table next : Table} {value : CostValue}

theorem target_eq (typed : value.usageType ≠ none) : database.target table.rows call value =
    table.rows.find? fun row => row.key = value.key call := by
  simp only [Database.target]
  congr 1
  funext row
  refine decide_eq_decide.mpr ⟨?_,?_⟩
  · rintro ⟨same,-⟩
    exact same.symm
  · intro same
    exact ⟨same.symm,fun _ => typed⟩

theorem upsertRow_stores (database : Database) (call : Ingestion) (keyed : Keyed table)
    (typed : value.usageType ≠ none) {units : Int} (fits : costColumn value.costUsd = some units) :
    ∃ next, database.upsertRow call table value = some next ∧ Keyed next ∧
      ∀ key, costAt next key = if key = value.key call then some units else costAt table key := by
  cases found : database.target table.rows call value with
  | none =>
    have wrote : database.upsertRow call table value = some ⟨table.rows ++ [⟨table.nextId,call.tenantId,
        value.key call,units,call.status,call.isPreliminary⟩],table.nextId + 1⟩ := by
      simp only [Database.upsertRow,fits,found]
      rfl
    refine ⟨_,wrote,(upsertRow_writes keyed wrote).keyed,fun key => ?_⟩
    rw [target_eq typed] at found
    simp only [costAt,List.find?_append]
    by_cases same : key = value.key call
    · subst same
      simp [found]
    · simp [same,Ne.symm same]
  | some row =>
    have wrote : database.upsertRow call table value = some ⟨table.rows.map fun other =>
        if other.id = row.id then rewritten call other units else other,table.nextId⟩ := by
      simp only [Database.upsertRow,fits,found]
      rfl
    refine ⟨_,wrote,(upsertRow_writes keyed wrote).keyed,fun key => ?_⟩
    rw [target_eq typed] at found
    have held : row.key = value.key call := by simpa using List.find?_some found
    have keys : ∀ other : CostRow,
        (if other.id = row.id then rewritten call other units else other).key = other.key := by
      intro other
      split <;> rfl
    simp only [costAt,List.find?_map,Function.comp_def,keys,Option.map_map]
    by_cases same : key = value.key call
    · subst same
      simp [found,rewritten]
    · rw [if_neg same]
      cases there : table.rows.find? fun other => decide (other.key = key) with
      | none => rfl
      | some other =>
        have named : other.key = key := by simpa using List.find?_some there
        have apart : other.id ≠ row.id := by
          intro ids
          have equal := keyed.unique (List.mem_of_find?_eq_some there)
            (List.mem_of_find?_eq_some found) ids
          exact same (named.symm.trans (equal ▸ held))
        simp [apart]

theorem saveStream_eq {records : List StreamRecord}
    (distinct : (records.map StreamRecord.value).Pairwise fun one two => one.key call ≠ two.key call) :
    database.saveStream call table records =
      (records.map StreamRecord.value).foldlM (database.upsertRow call) table := by
  have chunked : ∀ chunks : List (List CostValue), (∀ chunk ∈ chunks,
      chunk.Pairwise fun one two => one.key call ≠ two.key call) → ∀ table,
      chunks.foldlM (database.bulkUpsert call) table =
        chunks.flatten.foldlM (database.upsertRow call) table := by
    intro chunks
    induction chunks with
    | nil => intro _ table; rfl
    | cons chunk chunks ih =>
      intro apart table
      have single : ¬database.repeats call chunk := by
        rintro ⟨_,repeated⟩
        refine repeated ((apart chunk List.mem_cons_self).imp ?_)
        intro one two other same
        exact other same.1
      simp only [List.foldlM_cons,List.flatten_cons,List.foldlM_append,bulkUpsert,if_neg single]
      congr 1
      funext next
      exact ih (fun later listed => apart later (List.mem_cons_of_mem _ listed)) next
  rw [saveStream,chunked,batches_flatten]
  intro chunk listed
  refine distinct.sublist ?_
  rw [← batches_flatten (records.map StreamRecord.value)]
  exact List.sublist_flatten_of_mem listed

theorem upserts_store (database : Database) {values : List CostValue} (keyed : Keyed table)
    (typed : ∀ value ∈ values, value.usageType ≠ none)
    (distinct : values.Pairwise fun one two => one.key call ≠ two.key call)
    (fits : ∀ value ∈ values, costColumn value.costUsd ≠ none) :
    ∃ next, values.foldlM (database.upsertRow call) table = some next ∧ Keyed next ∧
      (∀ value ∈ values, costAt next (value.key call) = costColumn value.costUsd) ∧
      ∀ key, (∀ value ∈ values, value.key call ≠ key) → costAt next key = costAt table key := by
  induction values generalizing table with
  | nil => exact ⟨table,rfl,keyed,by simp,fun _ _ => rfl⟩
  | cons value values ih =>
    obtain ⟨units,held⟩ := Option.ne_none_iff_exists'.mp (fits value List.mem_cons_self)
    obtain ⟨middle,wrote,keyed',stores⟩ :=
      upsertRow_stores database call keyed (typed value List.mem_cons_self) held
    obtain ⟨apart,rest⟩ := List.pairwise_cons.mp distinct
    obtain ⟨next,written,keyed'',theirs,others⟩ := ih keyed'
      (fun later listed => typed later (List.mem_cons_of_mem _ listed)) rest
      (fun later listed => fits later (List.mem_cons_of_mem _ listed))
    refine ⟨next,?_,keyed'',fun later listed => ?_,fun key away => ?_⟩
    · rw [List.foldlM_cons,wrote]
      exact written
    · rcases List.mem_cons.mp listed with rfl | later'
      · rw [others _ fun other listed => (apart other listed).symm,stores,if_pos rfl,held]
      · exact theirs later later'
    · rw [others key fun other listed => away other (List.mem_cons_of_mem _ listed),stores,
        if_neg (away value List.mem_cons_self).symm]

theorem upserts_fail {values : List CostValue} (value : CostValue) (listed : value ∈ values)
    (unfit : costColumn value.costUsd = none) (table : Table) :
    values.foldlM (database.upsertRow call) table = none := by
  induction values generalizing table with
  | nil => simp at listed
  | cons first values ih =>
    rw [List.foldlM_cons]
    rcases List.mem_cons.mp listed with rfl | later
    · simp [upsertRow,unfit]
    · cases database.upsertRow call table first with
      | none => rfl
      | some next => exact ih later next

end Upserts

section Query

variable {exported : List ExportRow} {startDate endDate : Nat} {row : QueryRow}

theorem mem_costQuery : row ∈ costQuery exported startDate endDate ↔
    ∃ group ∈ (selected exported startDate endDate).map ExportRow.group,
      row = aggregate group (members (selected exported startDate endDate) group) := by
  simp only [costQuery,List.mem_insertionSort,List.mem_map,List.mem_dedup]
  constructor
  · rintro ⟨group,listed,rfl⟩
    exact ⟨group,listed,rfl⟩
  · rintro ⟨group,listed,rfl⟩
    exact ⟨group,listed,rfl⟩

theorem costQuery_distinct : (costQuery exported startDate endDate).Pairwise fun one two =>
    (one.service,one.timestamp) ≠ (two.service,two.timestamp) := by
  refine ((List.perm_insertionSort _ _).pairwise_iff fun apart => Ne.symm apart).mpr ?_
  rw [List.pairwise_map]
  refine (List.nodup_dedup _).imp ?_
  intro one two apart same
  exact apart same

end Query

end Valdrics.Reporting

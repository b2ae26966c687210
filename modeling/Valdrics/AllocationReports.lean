import Mathlib.Algebra.Order.Ring.Rat
import Valdrics.CostAttribution
import Valdrics.SpendLedger

/-! The coverage report beside the summary of the spend ledger, over one allocation table: the
ledger leaves the unallocated bucket out of what is allocated, the report counts it, and each of them
cuts off what is negative in a place of its own. -/
namespace Valdrics.SpendLedger

open Enforcement (Json Uuid)
open PythonText
open Reporting (CostAllocation Estate AttributionEvent AttributionState)

structure CoverageCosts where
  totalCost : Int
  allocatedCost : Int
  unallocatedCost : Int
  overAllocatedCost : Int
  deriving DecidableEq

namespace Books

variable (books : Books)

def windowRecords (tenantId : Uuid) (startDate endDate : Option Nat) : List LedgerRecord :=
  books.records.filter fun record => record.tenantId = tenantId &&
    startDate.all (· ≤ record.recordedAt) && endDate.all (record.recordedAt ≤ ·)

def allocationsOf (record : LedgerRecord) : List CostAllocation :=
  books.allocations.filter fun allocation =>
    allocation.costRecordId = record.id && allocation.recordedAt = record.recordedAt

/-- What `get_allocation_coverage` computes of the sums of its two queries. -/
def coverageCosts (totalCost rawAllocatedCost : Int) : CoverageCosts :=
  let allocatedCost := if 0 < totalCost then min rawAllocatedCost totalCost else 0
  { totalCost, allocatedCost
    unallocatedCost := max (totalCost - allocatedCost) 0
    overAllocatedCost := max (rawAllocatedCost - totalCost) 0 }

def windowCosts (tenantId : Uuid) (startDate endDate : Option Nat) : CoverageCosts :=
  let records := books.windowRecords tenantId startDate endDate
  coverageCosts (records.map fun record => record.costUsd).sum
    ((records.flatMap books.allocationsOf).map fun row => row.amount).sum

end Books

def windowQuery (tenantId : Uuid) (startDate endDate : Nat) : LedgerQuery :=
  ⟨tenantId,startDate,endDate,none,true⟩

structure ReportsAgree (books : Books) (text : Lowercase) (tenantId : Uuid)
    (startDate endDate : Nat) : Prop where
  perRecord : ∀ row ∈ books.joinedRows (windowQuery tenantId startDate endDate),
    allocatedAmount (books.rollup text row.1) +
      unallocatedAmount row.1.costUsd (books.rollup text row.1) = row.1.costUsd
  inTotal :
    let summary := books.originSpendSummary text (windowQuery tenantId startDate endDate)
    summary.totalAllocated + summary.totalUnallocated = summary.totalCost
  allocated : (books.windowCosts tenantId (some startDate) (some endDate)).allocatedCost =
    (books.originSpendSummary text (windowQuery tenantId startDate endDate)).totalAllocated
  unallocated : (books.windowCosts tenantId (some startDate) (some endDate)).unallocatedCost =
    (books.originSpendSummary text (windowQuery tenantId startDate endDate)).totalUnallocated

def namedAmount (text : Lowercase) (rows : List CostAllocation) : Int :=
  ((rows.filter fun row => !isUnallocated text row.allocatedTo).map fun row => row.amount).sum

def bucketAmount (text : Lowercase) (rows : List CostAllocation) : Int :=
  ((rows.filter fun row => isUnallocated text row.allocatedTo).map fun row => row.amount).sum

structure Divided (books : Books) (text : Lowercase) (tenantId : Uuid)
    (startDate endDate : Nat) : Prop where
  within : ∀ record ∈ books.windowRecords tenantId (some startDate) (some endDate),
    books.allocationsOf record ≠ [] →
      namedAmount text (books.allocationsOf record) ≤ record.costUsd
  covered :
    let records := books.windowRecords tenantId (some startDate) (some endDate)
    let total := (records.map fun record => record.costUsd).sum
    let named := namedAmount text (records.flatMap books.allocationsOf)
    let bucket := bucketAmount text (records.flatMap books.allocationsOf)
    if 0 < total then bucket = 0 ∧ named ≤ total ∨ named = total ∧ 0 ≤ bucket
    else total = 0 ∧ named = 0

theorem amounts_split (text : Lowercase) (rows : List CostAllocation) :
    (rows.map fun row => row.amount).sum = namedAmount text rows + bucketAmount text rows := by
  induction rows with
  | nil => rfl
  | cons row rest ih =>
    by_cases unnamed : isUnallocated text row.allocatedTo = true
    · simp only [namedAmount,bucketAmount,List.map_cons,List.sum_cons,List.filter_cons,unnamed,
        Bool.not_true,if_true,if_false,Bool.false_eq_true] at ih ⊢
      omega
    · simp only [namedAmount,bucketAmount,List.map_cons,List.sum_cons,List.filter_cons,unnamed,
        Bool.not_false,if_true,if_false,Bool.false_eq_true] at ih ⊢
      omega

theorem namedAmount_eq (text : Lowercase) (rows : List CostAllocation) :
    (rows.map fun row => if isUnallocated text row.allocatedTo then 0 else row.amount).sum =
      namedAmount text rows := by
  induction rows with
  | nil => rfl
  | cons row rest ih =>
    by_cases unnamed : isUnallocated text row.allocatedTo = true
    · simp [namedAmount,unnamed,ih]
    · simp [namedAmount,unnamed,ih]

theorem namedAmount_append (text : Lowercase) (front back : List CostAllocation) :
    namedAmount text (front ++ back) = namedAmount text front + namedAmount text back := by
  simp [namedAmount]

theorem namedAmount_flatMap (text : Lowercase) (records : List LedgerRecord)
    (rows : LedgerRecord → List CostAllocation) :
    namedAmount text (records.flatMap rows) =
      (records.map fun record => namedAmount text (rows record)).sum := by
  induction records with
  | nil => rfl
  | cons record rest ih =>
    rw [List.flatMap_cons,namedAmount_append,ih,List.map_cons,List.sum_cons]

namespace Books

variable (books : Books) (text : Lowercase)

theorem allocatedAmount_rollup (record : LedgerRecord) :
    allocatedAmount (books.rollup text record) = namedAmount text (books.allocationsOf record) := by
  rw [rollup,← allocationsOf]
  split
  next none =>
    rw [none]
    rfl
  next => exact namedAmount_eq text _

theorem unallocatedAmount_rollup (record : LedgerRecord) :
    unallocatedAmount record.costUsd (books.rollup text record) =
      if books.allocationsOf record = [] then record.costUsd
      else max (record.costUsd - namedAmount text (books.allocationsOf record)) 0 := by
  by_cases none : books.allocationsOf record = []
  · rw [if_pos none]
    have rolled : books.rollup text record = Option.none := by
      rw [rollup,← allocationsOf,none]
      rfl
    simp [unallocatedAmount,rolled]
  · have filled : (books.allocationsOf record).length ≠ 0 := by simpa using none
    have rolled : (books.rollup text record).map (·.allocationCount) =
        some (books.allocationsOf record).length := by
      rw [rollup,← allocationsOf,if_neg none,Option.map_some]
    rw [if_neg none,unallocatedAmount,rolled,allocatedAmount_rollup,Option.getD_some,if_neg filled]
    omega

theorem joinedRows_window (tenantId : Uuid) (startDate endDate : Nat) :
    (books.joinedRows (windowQuery tenantId startDate endDate)).map Prod.fst =
      books.windowRecords tenantId (some startDate) (some endDate) := by
  have joined : ∀ records : List LedgerRecord,
      (∀ record ∈ records, (books.accounts.find record.accountId).isSome = true) →
      (records.filterMap fun record =>
        (books.accounts.find record.accountId).map (record,·)).map Prod.fst = records := by
    intro records present
    induction records with
    | nil => rfl
    | cons record rest ih =>
      obtain ⟨account,found⟩ := Option.isSome_iff_exists.mp (present record List.mem_cons_self)
      simp [found,ih fun later listed => present later (List.mem_cons_of_mem _ listed)]
  have selected : books.records.filter (windowQuery tenantId startDate endDate).selects =
      books.windowRecords tenantId (some startDate) (some endDate) := by
    refine List.filter_congr fun record _ => ?_
    exact Bool.and_true _
  have every : ∀ account, (windowQuery tenantId startDate endDate).selectsAccount account = true :=
    fun _ => rfl
  have unfiltered : ∀ rows : List JoinedRow, rows.filter (fun row =>
      (windowQuery tenantId startDate endDate).selectsAccount row.2) = rows :=
    fun rows => List.filter_eq_self.mpr fun row _ => every row.2
  rw [joinedRows,unfiltered,selected]
  exact joined _ fun record listed => books.accountKeys record (List.mem_of_mem_filter listed)

theorem entry_adds_up (record : LedgerRecord) :
    allocatedAmount (books.rollup text record) +
        unallocatedAmount record.costUsd (books.rollup text record) = record.costUsd ↔
      (books.allocationsOf record ≠ [] →
        namedAmount text (books.allocationsOf record) ≤ record.costUsd) := by
  rw [allocatedAmount_rollup,unallocatedAmount_rollup]
  by_cases none : books.allocationsOf record = []
  · simp [none,namedAmount]
  · rw [if_neg none]
    constructor
    · intro adds _
      omega
    · intro within
      have le := within none
      omega

/-- The report's two costs against named and unnamed amounts of a ledger that adds up. -/
theorem coverageCosts_iff {total named bucket unallocated : Int}
    (adds : named + unallocated = total) :
    (coverageCosts total (named + bucket)).allocatedCost = named ∧
        (coverageCosts total (named + bucket)).unallocatedCost = unallocated ↔
      if 0 < total then bucket = 0 ∧ named ≤ total ∨ named = total ∧ 0 ≤ bucket
      else total = 0 ∧ named = 0 := by
  by_cases spent : 0 < total
  · simp only [coverageCosts,if_pos spent]
    omega
  · simp only [coverageCosts,if_neg spent]
    omega

theorem reportsAgree_iff (tenantId : Uuid) (startDate endDate : Nat) :
    ReportsAgree books text tenantId startDate endDate ↔
      Divided books text tenantId startDate endDate := by
  have window := books.joinedRows_window tenantId startDate endDate
  have perRecord : (∀ row ∈ books.joinedRows (windowQuery tenantId startDate endDate),
      allocatedAmount (books.rollup text row.1) +
        unallocatedAmount row.1.costUsd (books.rollup text row.1) = row.1.costUsd) ↔
      ∀ record ∈ books.windowRecords tenantId (some startDate) (some endDate),
        books.allocationsOf record ≠ [] →
          namedAmount text (books.allocationsOf record) ≤ record.costUsd := by
    rw [← window,List.forall_mem_map]
    exact forall_congr' fun row => forall_congr' fun _ => books.entry_adds_up text row.1
  have named : (books.originSpendSummary text
      (windowQuery tenantId startDate endDate)).totalAllocated = namedAmount text
        ((books.windowRecords tenantId (some startDate) (some endDate)).flatMap
          books.allocationsOf) := by
    rw [originSpendSummary,namedAmount_flatMap,← window]
    simp only [allocatedAmount_rollup]
  have total : (books.originSpendSummary text
      (windowQuery tenantId startDate endDate)).totalCost =
        ((books.windowRecords tenantId (some startDate) (some endDate)).map
          fun record => record.costUsd).sum := by
    rw [originSpendSummary,← window]
  have inTotal : (∀ row ∈ books.joinedRows (windowQuery tenantId startDate endDate),
      allocatedAmount (books.rollup text row.1) +
        unallocatedAmount row.1.costUsd (books.rollup text row.1) = row.1.costUsd) →
      (books.originSpendSummary text (windowQuery tenantId startDate endDate)).totalAllocated +
        (books.originSpendSummary text (windowQuery tenantId startDate endDate)).totalUnallocated =
        (books.originSpendSummary text (windowQuery tenantId startDate endDate)).totalCost := by
    intro each
    simp only [originSpendSummary,List.map_map]
    rw [← List.sum_map_add]
    exact congrArg List.sum (List.map_congr_left each)
  have costs : books.windowCosts tenantId (some startDate) (some endDate) = coverageCosts
      (books.originSpendSummary text (windowQuery tenantId startDate endDate)).totalCost
      ((books.originSpendSummary text (windowQuery tenantId startDate endDate)).totalAllocated +
        bucketAmount text ((books.windowRecords tenantId (some startDate) (some endDate)).flatMap
          books.allocationsOf)) := by
    rw [windowCosts,named,total,← amounts_split]
  constructor
  · intro agree
    refine ⟨perRecord.mp agree.perRecord,?_⟩
    have covered := (coverageCosts_iff agree.inTotal).mp
      ⟨by rw [← costs]; exact agree.allocated,by rw [← costs]; exact agree.unallocated⟩
    rwa [named,total] at covered
  · intro divided
    have each := perRecord.mpr divided.within
    have adds := inTotal each
    have covered := divided.covered
    dsimp only at covered
    rw [← named,← total] at covered
    obtain ⟨allocated,unallocated⟩ := (coverageCosts_iff adds).mpr covered
    exact ⟨each,adds,by rw [costs]; exact allocated,by rw [costs]; exact unallocated⟩

end Books

section Sample

/-- A charge of ten dollars and a credit of four that no rule is for. -/
def unmatched : Estate where
  text := ⟨fun s => s,fun _ _ => rfl⟩
  records := [⟨1,739585,"AmazonEC2",none,11,none,none,10 * 10 ^ 8,by decide⟩,
    ⟨2,739585,"AmazonEC2",none,11,none,none,-4 * 10 ^ 8,by decide⟩]
  rules := [⟨5,"DIRECT",[("service",.str "AmazonS3")],.obj [("bucket",.str "Storage")]⟩]
  distinct := by decide
  accepted := by
    intro rule listed
    obtain rfl := List.mem_singleton.mp listed
    decide

def unmatchedBooks : Books where
  records := unmatched.records.map fun record =>
    ⟨record.id,7,record.accountId,record.recordedAt,none,"FINAL",record.costUsd⟩
  accounts := ⟨[(11,⟨11,"aws","Web"⟩)],by decide⟩
  usages := []
  allocations := (unmatched.exec {} (.applyRules 739585 739615)).1.allocations
  recordKeys := by decide
  usageIds := List.nodup_nil
  accountKeys := by decide

/-- The ledger loses the credit, and the report counts the unallocated bucket as allocated. -/
theorem unmatched_disagree :
    ¬ReportsAgree unmatchedBooks Lowercase.asciiOnly 7 739585 739615 := by
  intro agree
  have allocated := agree.allocated
  revert allocated
  decide +kernel

end Sample

end Valdrics.SpendLedger

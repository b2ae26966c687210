import Valdrics.SpendLedger

/-! When the pages of the spend ledger partition it: always for one provider, and for the whole
ledger when no row stands later in its own query than in the order of the entries. -/
namespace Valdrics.SpendLedger

open Enforcement (Uuid)
open PythonText

def LedgerRow.recordKey : LedgerRow → Option (Uuid × Nat)
  | origin record _ => some (record.id,record.recordedAt)
  | usage _ => none

namespace Books

variable (books : Books) (backend : Backend) (query : LedgerQuery)

/-- The rows that `record_count` counts. -/
def countedRows : List LedgerRow :=
  (if query.includeOriginSpend then
    (books.joinedRows query).map fun row => .origin row.1 row.2 else []) ++
  if query.includeAiSpend then (books.selectedUsages query).map .usage else []

def PagesPartition : Prop :=
  ∃ order : List LedgerRow, order.Nodup ∧ order.Perm (books.countedRows query) ∧
    (∀ limit offset,
      order.length = (books.listSpendLedgerEntries backend query limit offset).recordCount) ∧
    Paging.Partitions (books.page backend query) order

/-- No row of the whole ledger stands later in its own query than in the order of the entries. -/
def EarlyRows : Prop :=
  Paging.Early (books.sortsBefore backend) (books.originQuery backend query) (books.usageQuery query)

theorem joinedRows_records : ((books.joinedRows query).map Prod.fst).Sublist books.records := by
  have joined : ∀ records : List LedgerRecord, ((records.filterMap fun record =>
      (books.accounts.find record.accountId).map (record,·)).map Prod.fst).Sublist records := by
    intro records
    induction records with
    | nil => exact .slnil
    | cons record rest ih =>
      cases found : books.accounts.find record.accountId with
      | none => simpa [found] using ih.cons record
      | some account => simpa [found] using ih.cons_cons record
  exact (List.filter_sublist.map Prod.fst).trans ((joined _).trans List.filter_sublist)

theorem originQuery_perm : (books.originQuery backend query).Perm
    ((books.joinedRows query).map fun row => .origin row.1 row.2) :=
  (List.mergeSort_perm _ _).map _

theorem usageQuery_perm : (books.usageQuery query).Perm
    ((books.selectedUsages query).map .usage) :=
  (List.mergeSort_perm _ _).map _

theorem originQuery_nodup : (books.originQuery backend query).Nodup := by
  refine (books.originQuery_perm backend query).nodup_iff.mpr ?_
  refine List.Nodup.of_map LedgerRow.recordKey ?_
  have keys := (books.recordKeys.sublist ((books.joinedRows_records query).map _)).map
    (Option.some_injective _)
  simpa [Function.comp_def,LedgerRow.recordKey] using keys

theorem usageQuery_nodup : (books.usageQuery query).Nodup := by
  refine (books.usageQuery_perm query).nodup_iff.mpr ?_
  refine List.Nodup.map (fun a b same => LedgerRow.usage.inj same) ?_
  exact (List.Nodup.of_map _ books.usageIds).filter _

theorem queries_nodup : (books.originQuery backend query ++ books.usageQuery query).Nodup := by
  refine (books.originQuery_nodup backend query).append (books.usageQuery_nodup query) ?_
  intro row left right
  have origin := (books.originQuery_perm backend query).mem_iff.mp left
  have usage := (books.usageQuery_perm query).mem_iff.mp right
  obtain ⟨joined,-,rfl⟩ := List.mem_map.mp origin
  obtain ⟨_,-,same⟩ := List.mem_map.mp usage
  cases same

theorem sortsBefore_trans (a b c : LedgerRow) (ab : books.sortsBefore backend a b = true)
    (bc : books.sortsBefore backend b c = true) : books.sortsBefore backend a c = true := by
  simp only [sortsBefore,decide_eq_true_eq] at *
  exact le_trans ab bc

theorem sortsBefore_total (a b : LedgerRow) :
    (books.sortsBefore backend a b || books.sortsBefore backend b a) = true := by
  simp only [sortsBefore,Bool.or_eq_true,decide_eq_true_eq]
  exact le_total _ _

/-- `record_count` counts the rows, whatever the page. -/
theorem recordCount_eq (limit offset : Nat) :
    (books.listSpendLedgerEntries backend query limit offset).recordCount =
      (books.countedRows query).length := by
  simp only [listSpendLedgerEntries,countedRows]
  cases query.includeOriginSpend <;> cases query.includeAiSpend <;>
    simp [originSpendSummary,aiSpendSummary]

theorem page_all (all : query.provider = none) (offset limit : Nat) :
    books.page backend query offset limit = Paging.mergedPage (books.sortsBefore backend)
      (books.originQuery backend query) (books.usageQuery query) offset limit := by
  obtain ⟨tenantId,startDate,endDate,provider,includePreliminary⟩ := query
  subst all
  rfl

theorem page_ai (ai : query.provider = some aiLedgerProvider) (offset limit : Nat) :
    books.page backend query offset limit = Paging.slice (books.usageQuery query) offset limit := by
  simp [page,LedgerQuery.includeOriginSpend,LedgerQuery.includeAiSpend,ai]

theorem page_cloud {provider : String} (filtered : query.provider = some provider)
    (cloud : provider ≠ aiLedgerProvider) (offset limit : Nat) :
    books.page backend query offset limit =
      Paging.slice (books.originQuery backend query) offset limit := by
  simp [page,LedgerQuery.includeOriginSpend,LedgerQuery.includeAiSpend,filtered,cloud]

theorem pagesPartition_of {order : List LedgerRow} (distinct : order.Nodup)
    (perm : order.Perm (books.countedRows query))
    (partitions : Paging.Partitions (books.page backend query) order) :
    books.PagesPartition backend query :=
  ⟨order,distinct,perm,fun limit offset => by rw [recordCount_eq,perm.length_eq],partitions⟩

theorem pagesPartition_iff : books.PagesPartition backend query ↔
    (query.provider = none → books.EarlyRows backend query) := by
  cases filtered : query.provider with
  | none =>
    have counted : (books.originQuery backend query ++ books.usageQuery query).Perm
        (books.countedRows query) := by
      simp only [countedRows,LedgerQuery.includeOriginSpend,LedgerQuery.includeAiSpend,filtered,ne_eq,
        reduceCtorEq,not_false_eq_true,decide_true,Bool.true_or,if_true]
      exact (books.originQuery_perm backend query).append (books.usageQuery_perm query)
    have pages : books.page backend query = Paging.mergedPage (books.sortsBefore backend)
        (books.originQuery backend query) (books.usageQuery query) := by
      funext offset limit
      exact books.page_all backend query filtered offset limit
    constructor
    · rintro ⟨order,-,-,-,partitions⟩ -
      rw [pages] at partitions
      exact Paging.early_of_partition (books.queries_nodup backend query) partitions
    · intro early
      have sorted := List.mergeSort_perm (books.originQuery backend query ++ books.usageQuery query)
        (books.sortsBefore backend)
      refine books.pagesPartition_of backend query
        (sorted.nodup_iff.mpr (books.queries_nodup backend query)) (sorted.trans counted) ?_
      rw [pages]
      exact Paging.merged_partition (books.sortsBefore_trans backend)
        (books.sortsBefore_total backend) (books.queries_nodup backend query) (early rfl)
  | some provider =>
    refine ⟨fun _ none => (by cases none),fun _ => ?_⟩
    by_cases ai : provider = aiLedgerProvider
    · have counted : (books.usageQuery query).Perm (books.countedRows query) := by
        simp only [countedRows,LedgerQuery.includeOriginSpend,LedgerQuery.includeAiSpend,filtered,ai]
        exact books.usageQuery_perm query
      refine books.pagesPartition_of backend query (books.usageQuery_nodup query) counted ?_
      refine Paging.partition_of_slices fun offset limit _ => ?_
      exact books.page_ai backend query (by rw [filtered,ai]) offset limit
    · have counted : (books.originQuery backend query).Perm (books.countedRows query) := by
        simpa [countedRows,LedgerQuery.includeOriginSpend,LedgerQuery.includeAiSpend,filtered,ai] using
          books.originQuery_perm backend query
      refine books.pagesPartition_of backend query (books.originQuery_nodup backend query) counted ?_
      refine Paging.partition_of_slices fun offset limit _ => ?_
      exact books.page_cloud backend query filtered ai offset limit

section Sample

/-- Two charges of one instant, in the accounts of two providers. -/
def gcpCharge : LedgerRecord := ⟨1,7,11,739585,some (739585 * Calendar.microsPerDay),"FINAL",500⟩

def awsCharge : LedgerRecord := ⟨2,7,12,739585,some (739585 * Calendar.microsPerDay),"FINAL",300⟩

def tiedBooks : Books where
  records := [gcpCharge,awsCharge]
  accounts := ⟨[(11,⟨11,"gcp","Data"⟩),(12,⟨12,"aws","Web"⟩)],by decide⟩
  usages := []
  allocations := []
  recordKeys := by decide
  usageIds := List.nodup_nil
  accountKeys := by decide

def postgres : Backend := ⟨Lowercase.asciiOnly,false,"+00:00"⟩

def december : LedgerQuery := ⟨7,739585,739615,none,true⟩

def gcpRow : LedgerRow := .origin gcpCharge ⟨11,"gcp","Data"⟩

def awsRow : LedgerRow := .origin awsCharge ⟨12,"aws","Web"⟩

theorem tied_query : tiedBooks.originQuery postgres december = [gcpRow,awsRow] := by
  have rows : tiedBooks.joinedRows december =
      [(gcpCharge,⟨11,"gcp","Data"⟩),(awsCharge,⟨12,"aws","Web"⟩)] := by decide +kernel
  rw [originQuery,rows,List.mergeSort_of_pairwise]
  · rfl
  · decide +kernel

theorem tied_order : [gcpRow,awsRow].mergeSort (tiedBooks.sortsBefore postgres) = [awsRow,gcpRow] := by
  have sorted := List.pairwise_mergeSort (tiedBooks.sortsBefore_trans postgres)
    (tiedBooks.sortsBefore_total postgres) [gcpRow,awsRow]
  have perm := (List.mergeSort_perm [gcpRow,awsRow] (tiedBooks.sortsBefore postgres)).trans
    (.swap awsRow gcpRow [])
  refine perm.eq_of_pairwise ?_ sorted (by decide +kernel)
  intro a b left right
  simp only [List.mem_mergeSort,List.mem_cons,List.not_mem_nil,or_false] at left right
  have apart : tiedBooks.sortsBefore postgres gcpRow awsRow = false := by decide +kernel
  rcases left with rfl | rfl <;> rcases right with rfl | rfl <;> simp [apart]

/-- With pages of one entry the first charge is listed twice and the second never. -/
theorem tied_charges_lost : ¬tiedBooks.PagesPartition postgres december := by
  rintro ⟨order,-,-,-,partitions⟩
  have pages : tiedBooks.page postgres december = Paging.mergedPage (tiedBooks.sortsBefore postgres)
      (tiedBooks.originQuery postgres december) (tiedBooks.usageQuery december) := by
    funext offset limit
    exact tiedBooks.page_all postgres december rfl offset limit
  rw [pages] at partitions
  have early := Paging.early_of_partition (tiedBooks.queries_nodup postgres december) partitions
  have usages : tiedBooks.usageQuery december = [] := by
    simp [usageQuery,selectedUsages,tiedBooks]
  have late := early.left awsRow (by simp [tied_query])
  rw [usages,List.append_nil,tied_query,tied_order] at late
  exact absurd late (by decide +kernel)

end Sample

end Books

end Valdrics.SpendLedger

import Valdrics.GeneratorPasses
import Valdrics.SpendLedger

/-! The FOCUS export: the charges of a tenant, split into their allocations, and its uses of
language models. Each part streams its query and executes it once more when the stream
breaks off. Costs are counted in 1e-8 dollars, which `format(cost, "f")` writes exactly; the
columns that repeat texts of the record are left out. -/
namespace Valdrics.FocusExport

open Enforcement (Uuid)
open PythonText
open Reporting (CostAllocation)
open SpendLedger

inductive Source where
  | record (id : Uuid) (recordedAt : Nat)
  | usage (id : Uuid)
  deriving DecidableEq

/-- A row of the export: `BilledCost`, and where it goes. -/
structure FocusRow where
  source : Source
  billedCost : Int
  billingAccountId : String
  allocatedMethodId : String
  allocatedResourceId : String
  deriving DecidableEq

/-- A `ValueError` or an `OverflowError` of a date. -/
inductive DateError where
  | value | overflow
  deriving DecidableEq

/-- `FOCUS_EXPORT_STREAM_RECOVERABLE_EXCEPTIONS` has the one and not the other. -/
def DateError.recoverable : DateError → Bool
  | .value => true
  | .overflow => false

def lastMonth : Nat := 3652029

def daysEnd : Nat := 3652060

/-- `CostAllocation` and `FocusSyntheticAllocation`, as far as a row reads them. -/
structure FocusAllocation where
  allocatedTo : String
  amount : Int

structure JoinedAllocation where
  record : LedgerRecord
  account : CloudAccount
  allocation : Option CostAllocation

structure Group where
  record : LedgerRecord
  account : CloudAccount
  allocations : List CostAllocation

/-- `_allocation_key_for_record`. -/
def recordKey (record : LedgerRecord) : Uuid × Nat := (record.id,record.recordedAt)

def recordSource (record : LedgerRecord) : Source := .record record.id record.recordedAt

def groupRows : Option Group → List JoinedAllocation → List Group × Option Group
  | current, [] => ([],current)
  | none, row :: rest => groupRows (some ⟨row.record,row.account,row.allocation.toList⟩) rest
  | some group, row :: rest =>
    if recordKey row.record = recordKey group.record then
      groupRows (some ⟨row.record,row.account,group.allocations ++ row.allocation.toList⟩) rest
    else
      let (closed,last) := groupRows (some ⟨row.record,row.account,row.allocation.toList⟩) rest
      (group :: closed,last)

/-- `_group_origin_rows`. -/
def groupOriginRows (rows : List JoinedAllocation) : List Group :=
  (groupRows none rows).1 ++ (groupRows none rows).2.toList

section

variable (text : Lowercase)

/-- The dates of `row_to_focus`. -/
def periods (record : LedgerRecord) (account : CloudAccount) : Except DateError Unit :=
  if lastMonth ≤ record.recordedAt then .error .value
  else if text.lower (strip account.provider) ∈ ["aws","azure","gcp"] then
    match record.timestamp with
    | some timestamp =>
      if daysEnd * Calendar.microsPerDay ≤ timestamp + 3600 * Calendar.microsPerSecond then
        .error .overflow
      else .ok ()
    | none => .ok ()
  else .ok ()

/-- The cost and the account of `row_to_focus`, without an allocation. -/
def originRow (record : LedgerRecord) (account : CloudAccount) : FocusRow where
  source := recordSource record
  billedCost := record.costUsd
  billingAccountId := Enforcement.ApprovalToken.uuidText account.id
  allocatedMethodId := ""
  allocatedResourceId := ""

def allocatedRow (record : LedgerRecord) (account : CloudAccount) (allocation : FocusAllocation) :
    FocusRow :=
  { originRow record account with
    billedCost := allocation.amount
    allocatedMethodId := "valdrics-rule-based-allocation-v1"
    allocatedResourceId :=
      if isUnallocated text (strip allocation.allocatedTo) then "" else strip allocation.allocatedTo }

/-- The one row of the attribution engine that splits nothing. -/
def unsplit : List CostAllocation → Bool
  | [allocation] => allocation.ruleId = none && isUnallocated text (strip allocation.allocatedTo)
  | _ => false

def allocatedCost (allocations : List CostAllocation) : Int :=
  (allocations.map fun allocation => allocation.amount).sum

def allocationsForExport (group : Group) : List FocusAllocation :=
  let unallocated := group.record.costUsd - allocatedCost group.allocations
  (group.allocations.map fun allocation => ⟨allocation.allocatedTo,allocation.amount⟩) ++
    if 0 < unallocated then [⟨"Unallocated",unallocated⟩] else []

def focusRows (group : Group) : List FocusRow :=
  if group.allocations = [] || unsplit text group.allocations then
    [originRow group.record group.account]
  else (allocationsForExport group).map (allocatedRow text group.record group.account)

/-- `_rows_for_cost_record`. -/
def rowsForCostRecord (group : Group) : Except DateError (List FocusRow) :=
  (periods text group.record group.account).map fun _ => focusRows text group

/-- `llm_usage_to_focus`. -/
def usageRow (usage : LlmUsage) : FocusRow where
  source := .usage usage.id
  billedCost := usage.costUsd
  billingAccountId :=
    "ai:" ++ text.lower (strip (orDefault usage.provider "unknown"))
  allocatedMethodId := ""
  allocatedResourceId := ""

def llmUsageToFocus (usage : LlmUsage) : Except DateError (List FocusRow) :=
  if daysEnd * Calendar.microsPerDay ≤ usage.createdAt + Calendar.microsPerSecond then
    .error .overflow
  else if lastMonth ≤ usage.createdAt / Calendar.microsPerDay then .error .value
  else .ok [usageRow text usage]

end

/-- The tables, the database and the two streams: `some n` is a stream that raises after `n`
rows. -/
structure Export where
  books : Books
  backend : Backend
  query : LedgerQuery
  originStream : Option Nat
  usageStream : Option Nat

namespace Export

variable (e : Export)

def allocationsOf (record : LedgerRecord) : List CostAllocation :=
  e.books.allocations.filter fun allocation =>
    allocation.costRecordId = record.id && allocation.recordedAt = record.recordedAt

def originRecords : List JoinedRow :=
  (e.books.joinedRows e.query).mergeSort fun a b =>
    decide (e.backend.originOrder a ≤ e.backend.originOrder b)

def joined (row : JoinedRow) : List JoinedAllocation :=
  if e.allocationsOf row.1 = [] then [⟨row.1,row.2,none⟩]
  else (e.allocationsOf row.1).map fun allocation => ⟨row.1,row.2,some allocation⟩

def originRows : List JoinedAllocation := e.originRecords.flatMap e.joined

def usageRows : List LlmUsage :=
  (e.books.selectedUsages e.query).mergeSort fun a b => decide (usageOrder a ≤ usageOrder b)

def streamedOrigins (n : Nat) : Pass DateError FocusRow :=
  Pass.each (rowsForCostRecord e.backend.text) (groupRows none (e.originRows.take n)).1

def executedOrigins : Pass DateError FocusRow :=
  Pass.each (rowsForCostRecord e.backend.text) (groupOriginRows e.originRows)

/-- `_export_origin_rows`. -/
def exportOriginRows : Pass DateError FocusRow :=
  Pass.withFallback DateError.recoverable .value e.originStream e.streamedOrigins
    e.executedOrigins

def streamedUsages (n : Nat) : Pass DateError FocusRow :=
  Pass.each (llmUsageToFocus e.backend.text) (e.usageRows.take n)

def executedUsages : Pass DateError FocusRow :=
  Pass.each (llmUsageToFocus e.backend.text) e.usageRows

/-- `_export_ai_rows`; the end of the window is computed before the stream is opened. -/
def exportAiRows : Pass DateError FocusRow :=
  if daysEnd ≤ e.query.endDate + 1 then ⟨[],some .overflow⟩
  else Pass.withFallback DateError.recoverable .value e.usageStream e.streamedUsages e.executedUsages

/-- `export_rows`. -/
def exportRows : Pass DateError FocusRow :=
  (if e.query.includeOriginSpend then e.exportOriginRows else ⟨[],none⟩).andThen
    (if e.query.includeAiSpend then e.exportAiRows else ⟨[],none⟩)

end Export

section

variable {text : Lowercase} {group : Group} {rows : List JoinedAllocation}

theorem focusRows_source : ∀ row ∈ focusRows text group, row.source = recordSource group.record := by
  intro row listed
  unfold focusRows at listed
  split at listed
  · rw [List.mem_singleton.mp listed]
    rfl
  · obtain ⟨allocation,_,rfl⟩ := List.mem_map.mp listed
    rfl

theorem focusRows_ne_nil : focusRows text group ≠ [] := by
  unfold focusRows
  split
  · simp
  next split_ =>
    simp only [Bool.or_eq_true,decide_eq_true_eq,not_or] at split_
    simp [allocationsForExport,split_.1]

theorem focusRows_sum : ((focusRows text group).map (·.billedCost)).sum =
    if group.allocations = [] ∨ unsplit text group.allocations = true then group.record.costUsd
    else max group.record.costUsd (allocatedCost group.allocations) := by
  unfold focusRows
  by_cases whole : group.allocations = [] ∨ unsplit text group.allocations = true
  · rw [if_pos (by simpa using whole),if_pos whole]
    simp [originRow]
  · rw [if_neg (by simpa using whole),if_neg whole]
    have amounts : ∀ allocations : List FocusAllocation,
        (allocations.map (allocatedRow text group.record group.account)).map (·.billedCost) =
          allocations.map (·.amount) := by
      intro allocations
      rw [List.map_map]
      rfl
    have parts : (group.allocations.map fun allocation =>
        (⟨allocation.allocatedTo,allocation.amount⟩ : FocusAllocation)).map (·.amount) =
          group.allocations.map fun allocation => allocation.amount := by
      rw [List.map_map]
      rfl
    rw [amounts,allocationsForExport,List.map_append,List.sum_append,parts]
    change allocatedCost group.allocations + _ = _
    split
    next rest =>
      simp only [List.map_cons,List.map_nil,List.sum_cons,List.sum_nil]
      omega
    next rest =>
      simp only [List.map_nil,List.sum_nil]
      omega

theorem focusRows_conserve :
    ((focusRows text group).map (·.billedCost)).sum = group.record.costUsd ↔
      group.allocations = [] ∨ unsplit text group.allocations = true ∨
        allocatedCost group.allocations ≤ group.record.costUsd := by
  rw [focusRows_sum,← or_assoc]
  by_cases whole : group.allocations = [] ∨ unsplit text group.allocations = true
  · rw [if_pos whole]
    exact ⟨fun _ => Or.inl whole,fun _ => rfl⟩
  · rw [if_neg whole,max_eq_left_iff,or_iff_right whole]

theorem groupRows_same (record : LedgerRecord) (account : CloudAccount)
    (seen allocations : List CostAllocation) (more : List JoinedAllocation) :
    groupRows (some ⟨record,account,seen⟩)
        (allocations.map (fun allocation => ⟨record,account,some allocation⟩) ++ more) =
      groupRows (some ⟨record,account,seen ++ allocations⟩) more := by
  induction allocations generalizing seen with
  | nil => simp
  | cons allocation rest ih =>
    rw [List.map_cons,List.cons_append,groupRows,if_pos rfl]
    simp only [Option.toList_some]
    rw [ih,List.append_assoc,List.singleton_append]

theorem closed_nil (rows : List JoinedAllocation) (group : Group) :
    (groupRows (some group) rows).1 = [] ↔
      ∀ row ∈ rows, recordKey row.record = recordKey group.record := by
  induction rows generalizing group with
  | nil => simp [groupRows]
  | cons row rest ih =>
    rw [groupRows,List.forall_mem_cons]
    split
    next same =>
      rw [ih]
      exact ⟨fun all => ⟨same,fun other listed => (all other listed).trans same⟩,
        fun all other listed => (all.2 other listed).trans same.symm⟩
    next different =>
      simp only [List.cons_ne_nil,different,false_and]

theorem closed_nil_iff (rows : List JoinedAllocation) : (groupRows none rows).1 = [] ↔
    ∀ a ∈ rows, ∀ b ∈ rows, recordKey a.record = recordKey b.record := by
  cases rows with
  | nil => simp [groupRows]
  | cons first rest =>
    rw [groupRows,closed_nil]
    constructor
    · intro all
      have own : ∀ row ∈ first :: rest, recordKey row.record = recordKey first.record :=
        List.forall_mem_cons.mpr ⟨rfl,all⟩
      exact fun a there b here => (own a there).trans (own b here).symm
    · exact fun all row listed => all row (List.mem_cons_of_mem _ listed) first List.mem_cons_self

theorem closed_mem {current : Option Group} {closed : Group}
    (listed : closed ∈ (groupRows current rows).1) :
    (closed.record,closed.account) ∈ current.toList.map (fun group => (group.record,group.account)) ++
      rows.map fun row => (row.record,row.account) := by
  induction rows generalizing current with
  | nil => cases current <;> cases listed
  | cons row rest ih =>
    cases current with
    | none =>
      have there := ih listed
      simpa using there
    | some group =>
      rw [groupRows] at listed
      split at listed
      · have there := ih listed
        simp only [Option.toList_some,List.map_cons,List.map_nil,List.singleton_append,
          List.mem_cons] at there ⊢
        exact Or.inr there
      · rcases List.mem_cons.mp listed with rfl | listed
        · simp
        · have there := ih listed
          simp only [Option.toList_some,List.map_cons,List.map_nil,List.singleton_append,
            List.mem_cons] at there ⊢
          exact Or.inr there

end

namespace Export

variable {e : Export}

def groupOf (e : Export) (row : JoinedRow) : Group := ⟨row.1,row.2,e.allocationsOf row.1⟩

def origins (e : Export) : List JoinedRow :=
  if e.query.includeOriginSpend then e.books.joinedRows e.query else []

def usages (e : Export) : List LlmUsage :=
  if e.query.includeAiSpend then e.books.selectedUsages e.query else []

theorem joinedRows_keys (books : Books) (query : LedgerQuery) :
    ((books.joinedRows query).map fun row => recordKey row.1).Nodup := by
  have firsts : ∀ records : List LedgerRecord, ((records.filterMap fun record =>
      (books.accounts.find record.accountId).map (record,·)).map fun row => recordKey row.1).Sublist
        (records.map recordKey) := by
    intro records
    induction records with
    | nil => exact List.Sublist.refl _
    | cons record rest ih =>
      rw [List.filterMap_cons]
      cases books.accounts.find record.accountId with
      | none => exact ih.cons _
      | some account => exact ih.cons_cons _
  have selected : ((books.records.filter query.selects).map recordKey).Nodup :=
    books.recordKeys.sublist (List.filter_sublist.map _)
  exact (selected.sublist (firsts _)).sublist (List.filter_sublist.map _)

theorem originRecords_keys : (e.originRecords.map fun row => recordKey row.1).Nodup :=
  ((List.mergeSort_perm _ _).map _).nodup_iff.mpr (joinedRows_keys _ _)

theorem mem_originRecords {row : JoinedRow} :
    row ∈ e.originRecords ↔ row ∈ e.books.joinedRows e.query :=
  (List.mergeSort_perm _ _).mem_iff

theorem mem_usageRows {usage : LlmUsage} :
    usage ∈ e.usageRows ↔ usage ∈ e.books.selectedUsages e.query :=
  (List.mergeSort_perm _ _).mem_iff

theorem usageRows_ids : (e.usageRows.map fun usage => usage.id).Nodup :=
  ((List.mergeSort_perm _ _).map _).nodup_iff.mpr
    (e.books.usageIds.sublist (List.filter_sublist.map _))

theorem joined_eq (row : JoinedRow) : ∃ first rest,
    e.joined row = ⟨row.1,row.2,first⟩ :: rest.map (fun allocation => ⟨row.1,row.2,some allocation⟩) ∧
      first.toList ++ rest = e.allocationsOf row.1 := by
  unfold joined
  split
  next nothing => exact ⟨none,[],rfl,nothing.symm⟩
  next some_ =>
    obtain ⟨first,rest,is⟩ := List.exists_cons_of_ne_nil some_
    exact ⟨some first,rest,by rw [is]; rfl,is.symm⟩

theorem groupRows_joined (records : List JoinedRow) (group : Group)
    (distinct : (recordKey group.record :: records.map fun row => recordKey row.1).Nodup) :
    (groupRows (some group) (records.flatMap e.joined)).1 ++
        (groupRows (some group) (records.flatMap e.joined)).2.toList =
      group :: records.map e.groupOf := by
  induction records generalizing group with
  | nil => rfl
  | cons row rest ih =>
    obtain ⟨first,others,is,all⟩ := @joined_eq e row
    rw [List.map_cons,List.nodup_cons,List.mem_cons,not_or] at distinct
    have different : recordKey row.1 ≠ recordKey group.record := fun same => distinct.1.1 same.symm
    rw [List.flatMap_cons,is,List.cons_append,groupRows,if_neg different]
    simp only
    rw [groupRows_same,all,List.cons_append]
    have later := ih (e.groupOf row) distinct.2
    rw [groupOf] at later
    rw [later]
    rfl

theorem groupOriginRows_eq : groupOriginRows e.originRows = e.originRecords.map e.groupOf := by
  have distinct := @originRecords_keys e
  unfold originRows groupOriginRows
  cases records : e.originRecords with
  | nil => rfl
  | cons row rest =>
    rw [records] at distinct
    obtain ⟨first,others,is,all⟩ := @joined_eq e row
    rw [List.flatMap_cons,is,List.cons_append,groupRows,groupRows_same,all]
    exact groupRows_joined rest (e.groupOf row) distinct

def originOutput (e : Export) : List FocusRow :=
  e.originRecords.flatMap fun row => focusRows e.backend.text (e.groupOf row)

def Dated (e : Export) (row : JoinedRow) : Prop := periods e.backend.text row.1 row.2 = .ok ()

theorem rowsForCostRecord_ok {row : JoinedRow} : (∃ rows,
    rowsForCostRecord e.backend.text (e.groupOf row) = .ok rows) ↔ e.Dated row := by
  unfold rowsForCostRecord Dated
  change (∃ rows, (periods e.backend.text row.1 row.2).map _ = _) ↔ _
  cases periods e.backend.text row.1 row.2 with
  | error failure => simp [Except.map]
  | ok _ => simp [Except.map]

theorem rowsForCostRecord_dated {group : Group}
    (dated : e.Dated (group.record,group.account)) :
    rowsForCostRecord e.backend.text group = .ok (focusRows e.backend.text group) := by
  unfold Dated at dated
  simp only [rowsForCostRecord,dated,Except.map]

theorem executedOrigins_ok (dated : ∀ row ∈ e.originRecords, e.Dated row) :
    e.executedOrigins = ⟨e.originOutput,none⟩ := by
  rw [executedOrigins,groupOriginRows_eq,originOutput]
  have all : ∀ group ∈ e.originRecords.map e.groupOf, rowsForCostRecord e.backend.text group =
      .ok (focusRows e.backend.text group) := by
    intro group listed
    obtain ⟨row,there,rfl⟩ := List.mem_map.mp listed
    exact rowsForCostRecord_dated (dated row there)
  rw [Pass.each_ok all,List.flatMap_map]

theorem executedOrigins_dated (ends : e.executedOrigins.raised = none) :
    ∀ row ∈ e.originRecords, e.Dated row := by
  rw [executedOrigins,groupOriginRows_eq] at ends
  intro row listed
  exact rowsForCostRecord_ok.mp (Pass.each_ends ends _ (List.mem_map_of_mem listed))

theorem closed_joined {n : Nat} {group : Group}
    (listed : group ∈ (groupRows none (e.originRows.take n)).1) :
    (group.record,group.account) ∈ e.originRecords := by
  have there := closed_mem listed
  simp only [Option.toList_none,List.map_nil,List.nil_append,List.mem_map] at there
  obtain ⟨row,delivered,is⟩ := there
  obtain ⟨joined,selected,among⟩ := List.mem_flatMap.mp (List.mem_of_mem_take delivered)
  have same : (row.record,row.account) = joined := by
    unfold Export.joined at among
    split at among
    · rw [List.mem_singleton.mp among]
    · obtain ⟨allocation,_,rfl⟩ := List.mem_map.mp among
      rfl
  rw [← is,same]
  exact selected

theorem streamedOrigins_eq (dated : ∀ row ∈ e.originRecords, e.Dated row) (n : Nat) :
    e.streamedOrigins n =
      ⟨(groupRows none (e.originRows.take n)).1.flatMap (focusRows e.backend.text),none⟩ :=
  Pass.each_ok fun _ listed => rowsForCostRecord_dated (dated _ (closed_joined listed))

def originPrefix (e : Export) : List FocusRow := Pass.handedOver e.originStream e.streamedOrigins

theorem exportOriginRows_eq (dated : ∀ row ∈ e.originRecords, e.Dated row) :
    e.exportOriginRows = ⟨e.originPrefix ++ e.originOutput,none⟩ := by
  have executed := executedOrigins_ok dated
  rw [exportOriginRows,Pass.withFallback_eq (by rw [executed]) rfl
    (fun n => by rw [streamedOrigins_eq dated]),executed]
  rfl

theorem originPrefix_mem (dated : ∀ row ∈ e.originRecords, e.Dated row) {row : FocusRow}
    (listed : row ∈ e.originPrefix) :
    ∃ joined ∈ e.originRecords, row.source = recordSource joined.1 := by
  unfold originPrefix Pass.handedOver at listed
  split at listed
  · cases listed
  · rw [streamedOrigins_eq dated] at listed
    obtain ⟨group,there,listed⟩ := List.mem_flatMap.mp listed
    exact ⟨_,closed_joined there,focusRows_source row listed⟩

theorem originPrefix_nil (dated : ∀ row ∈ e.originRecords, e.Dated row) : e.originPrefix = [] ↔
    ∀ n, e.originStream = some n → ∀ a ∈ e.originRows.take n, ∀ b ∈ e.originRows.take n,
      recordKey a.record = recordKey b.record := by
  unfold originPrefix Pass.handedOver
  cases stream : e.originStream with
  | none => simp
  | some n =>
    simp only [streamedOrigins_eq dated,Option.some.injEq,forall_eq']
    rw [← closed_nil_iff,List.flatMap_eq_nil_iff]
    constructor
    · intro none
      exact List.eq_nil_iff_forall_not_mem.mpr fun group listed =>
        focusRows_ne_nil (none group listed)
    · intro none
      simp [none]

def UsageDated (usage : LlmUsage) : Prop := usage.createdAt / Calendar.microsPerDay < lastMonth

theorem llmUsageToFocus_iff {usage : LlmUsage} : (∃ rows,
    llmUsageToFocus e.backend.text usage = .ok rows) ↔ UsageDated usage := by
  unfold llmUsageToFocus UsageDated lastMonth daysEnd Calendar.microsPerDay
    Calendar.microsPerSecond
  split
  · simp only [reduceCtorEq,exists_false,false_iff,not_lt]
    omega
  · split
    · simp only [reduceCtorEq,exists_false,false_iff,not_lt]
      omega
    · simp only [Except.ok.injEq,exists_eq',true_iff]
      omega

theorem llmUsageToFocus_ok {usage : LlmUsage} (dated : UsageDated usage) :
    llmUsageToFocus e.backend.text usage = .ok [usageRow e.backend.text usage] := by
  obtain ⟨rows,is⟩ := llmUsageToFocus_iff.mpr dated
  rw [is]
  unfold llmUsageToFocus at is
  split at is
  · cases is
  · split at is <;> cases is
    rfl

theorem each_usage {usages : List LlmUsage} (dated : ∀ usage ∈ usages, UsageDated usage) :
    Pass.each (llmUsageToFocus e.backend.text) usages =
      ⟨usages.flatMap fun usage => [usageRow e.backend.text usage],none⟩ :=
  Pass.each_ok fun usage listed => llmUsageToFocus_ok (dated usage listed)

def usageOutput (e : Export) : List FocusRow :=
  e.usageRows.flatMap fun usage => [usageRow e.backend.text usage]

def usagePrefix (e : Export) : List FocusRow := Pass.handedOver e.usageStream e.streamedUsages

theorem exportAiRows_eq (window : ¬daysEnd ≤ e.query.endDate + 1)
    (dated : ∀ usage ∈ e.usageRows, UsageDated usage) :
    e.exportAiRows = ⟨e.usagePrefix ++ e.usageOutput,none⟩ := by
  have executed : e.executedUsages = ⟨e.usageOutput,none⟩ := each_usage dated
  have streamed : ∀ n, (e.streamedUsages n).raised = none := fun n => by
    rw [streamedUsages,each_usage fun usage listed => dated usage (List.mem_of_mem_take listed)]
  rw [exportAiRows,if_neg window,Pass.withFallback_eq (by rw [executed]) rfl streamed,executed]
  rfl

theorem exportAiRows_dated (ends : e.exportAiRows.raised = none) :
    ¬daysEnd ≤ e.query.endDate + 1 ∧ ∀ usage ∈ e.usageRows, UsageDated usage := by
  unfold exportAiRows at ends
  split at ends
  · cases ends
  next window =>
    have executed := Pass.withFallback_ends ends
    exact ⟨window,fun usage listed => llmUsageToFocus_iff.mp (Pass.each_ends executed usage listed)⟩

theorem usagePrefix_mem (dated : ∀ usage ∈ e.usageRows, UsageDated usage) {row : FocusRow}
    (listed : row ∈ e.usagePrefix) : ∃ usage ∈ e.usageRows, row.source = .usage usage.id := by
  unfold usagePrefix Pass.handedOver at listed
  split at listed
  · cases listed
  · rw [streamedUsages,each_usage fun usage listed => dated usage (List.mem_of_mem_take listed)]
      at listed
    obtain ⟨usage,there,listed⟩ := List.mem_flatMap.mp listed
    refine ⟨usage,List.mem_of_mem_take there,?_⟩
    rw [List.mem_singleton.mp listed]
    rfl

theorem usagePrefix_nil (dated : ∀ usage ∈ e.usageRows, UsageDated usage) :
    e.usagePrefix = [] ↔ ∀ n, e.usageStream = some n → e.usageRows.take n = [] := by
  unfold usagePrefix Pass.handedOver
  cases stream : e.usageStream with
  | none => simp
  | some n =>
    simp only [Option.some.injEq,forall_eq']
    rw [streamedUsages,each_usage fun usage listed => dated usage (List.mem_of_mem_take listed)]
    constructor
    · intro none
      rw [List.flatMap_eq_nil_iff] at none
      exact List.eq_nil_iff_forall_not_mem.mpr fun usage listed => List.cons_ne_nil _ _ (none usage listed)
    · intro none
      simp [none]

/-- What the export is for: each selected record gives its rows once and they come to its
cost, each selected usage gives one row, and nothing else is exported. -/
structure Conserves (e : Export) : Prop where
  completes : e.exportRows.raised = none
  once : ∀ row ∈ e.origins, e.exportRows.rows.filter
    (fun focus => focus.source = recordSource row.1) = focusRows e.backend.text (e.groupOf row)
  conserved : ∀ row ∈ e.origins, ((e.exportRows.rows.filter
    (fun focus => focus.source = recordSource row.1)).map (·.billedCost)).sum = row.1.costUsd
  usageOnce : ∀ usage ∈ e.usages, e.exportRows.rows.filter
    (fun focus => focus.source = .usage usage.id) = [usageRow e.backend.text usage]
  only : ∀ focus ∈ e.exportRows.rows, (∃ row ∈ e.origins, focus.source = recordSource row.1) ∨
    ∃ usage ∈ e.usages, focus.source = .usage usage.id

/-- The dates can be written, no split record's allocations exceed its cost, and no stream
breaks off after it handed a row over. -/
structure Exportable (e : Export) : Prop where
  dated : ∀ row ∈ e.origins, e.Dated row
  covered : ∀ row ∈ e.origins, e.allocationsOf row.1 = [] ∨
    unsplit e.backend.text (e.allocationsOf row.1) = true ∨
      allocatedCost (e.allocationsOf row.1) ≤ row.1.costUsd
  originStream : e.query.includeOriginSpend = true → ∀ n, e.originStream = some n →
    ∀ a ∈ e.originRows.take n, ∀ b ∈ e.originRows.take n, recordKey a.record = recordKey b.record
  window : e.query.includeAiSpend = true → e.query.endDate + 1 < daysEnd
  usageDated : ∀ usage ∈ e.usages, UsageDated usage
  usageStream : e.query.includeAiSpend = true → ∀ n, e.usageStream = some n →
    e.usageRows.take n = []

theorem origins_of (included : e.query.includeOriginSpend = true) {row : JoinedRow} :
    row ∈ e.origins ↔ row ∈ e.originRecords := by
  rw [origins,if_pos included,mem_originRecords]

theorem usages_of (included : e.query.includeAiSpend = true) {usage : LlmUsage} :
    usage ∈ e.usages ↔ usage ∈ e.usageRows := by
  rw [usages,if_pos included,mem_usageRows]

theorem originOutput_source : ∀ focus ∈ e.originOutput,
    ∃ row ∈ e.originRecords, focus.source = recordSource row.1 := by
  intro focus listed
  obtain ⟨row,there,listed⟩ := List.mem_flatMap.mp listed
  exact ⟨row,there,focusRows_source focus listed⟩

theorem usageOutput_source : ∀ focus ∈ e.usageOutput,
    ∃ usage ∈ e.usageRows, focus.source = .usage usage.id := by
  intro focus listed
  obtain ⟨usage,there,listed⟩ := List.mem_flatMap.mp listed
  refine ⟨usage,there,?_⟩
  rw [List.mem_singleton.mp listed]
  rfl

theorem filter_originOutput {row : JoinedRow} (listed : row ∈ e.originRecords) :
    e.originOutput.filter (fun focus => focus.source = recordSource row.1) =
      focusRows e.backend.text (e.groupOf row) := by
  refine filter_flatMap_label (fun row : JoinedRow => recordSource row.1) ?_ ?_ listed
  · exact fun row _ focus there => focusRows_source focus there
  · have keys := @originRecords_keys e
    have sources : (e.originRecords.map fun row => recordSource row.1) =
        (e.originRecords.map fun row => recordKey row.1).map fun key => .record key.1 key.2 := by
      rw [List.map_map]
      rfl
    rw [sources]
    refine keys.map ?_
    rintro ⟨id,day⟩ ⟨id',day'⟩ same
    cases same
    rfl

theorem filter_usageOutput {usage : LlmUsage} (listed : usage ∈ e.usageRows) :
    e.usageOutput.filter (fun focus => focus.source = .usage usage.id) =
      [usageRow e.backend.text usage] := by
  refine filter_flatMap_label (fun usage : LlmUsage => Source.usage usage.id) ?_ ?_ listed
  · intro usage _ focus there
    rw [List.mem_singleton.mp there]
    rfl
  · have ids := @usageRows_ids e
    have sources : (e.usageRows.map fun usage => Source.usage usage.id) =
        (e.usageRows.map fun usage => usage.id).map .usage := by
      rw [List.map_map]
      rfl
    rw [sources]
    exact ids.map fun _ _ same => Source.usage.inj same

theorem filter_record_usages {row : LedgerRecord} {rows : List FocusRow}
    (all : ∀ focus ∈ rows, ∃ usage : LlmUsage, focus.source = .usage usage.id) :
    rows.filter (fun focus => focus.source = recordSource row) = [] := by
  rw [List.filter_eq_nil_iff]
  intro focus listed same
  obtain ⟨usage,is⟩ := all focus listed
  rw [decide_eq_true_eq,is] at same
  cases same

theorem filter_usage_records {id : Uuid} {rows : List FocusRow}
    (all : ∀ focus ∈ rows, ∃ row : JoinedRow, focus.source = recordSource row.1) :
    rows.filter (fun focus => focus.source = .usage id) = [] := by
  rw [List.filter_eq_nil_iff]
  intro focus listed same
  obtain ⟨row,is⟩ := all focus listed
  rw [decide_eq_true_eq,is] at same
  cases same

def part {α : Type} (included : Bool) (rows : List α) : List α := if included then rows else []

theorem mem_part {α : Type} {included : Bool} {rows : List α} {row : α} :
    row ∈ part included rows ↔ included = true ∧ row ∈ rows := by
  cases included <;> simp [part]

structure DatesWritten (e : Export) : Prop where
  origins : e.query.includeOriginSpend = true → ∀ row ∈ e.originRecords, e.Dated row
  window : e.query.includeAiSpend = true → ¬daysEnd ≤ e.query.endDate + 1
  usages : e.query.includeAiSpend = true → ∀ usage ∈ e.usageRows, UsageDated usage

theorem exportRows_dates (completes : e.exportRows.raised = none) : DatesWritten e := by
  obtain ⟨first,second⟩ := Pass.andThen_ends.mp completes
  refine ⟨fun included => ?_,fun included => ?_,fun included => ?_⟩
  · rw [if_pos included] at first
    exact executedOrigins_dated (Pass.withFallback_ends first)
  · rw [if_pos included] at second
    exact (exportAiRows_dated second).1
  · rw [if_pos included] at second
    exact (exportAiRows_dated second).2

theorem exportRows_eq (dates : DatesWritten e) : e.exportRows =
    ⟨part e.query.includeOriginSpend (e.originPrefix ++ e.originOutput) ++
      part e.query.includeAiSpend (e.usagePrefix ++ e.usageOutput),none⟩ := by
  have first : (if e.query.includeOriginSpend then e.exportOriginRows else ⟨[],none⟩) =
      ⟨part e.query.includeOriginSpend (e.originPrefix ++ e.originOutput),none⟩ := by
    unfold part
    split
    next included => exact exportOriginRows_eq (dates.origins included)
    · rfl
  have second : (if e.query.includeAiSpend then e.exportAiRows else ⟨[],none⟩) =
      ⟨part e.query.includeAiSpend (e.usagePrefix ++ e.usageOutput),none⟩ := by
    unfold part
    split
    next included => exact exportAiRows_eq (dates.window included) (dates.usages included)
    · rfl
  rw [exportRows,first,second]
  rfl

theorem filter_record (dates : DatesWritten e) {row : JoinedRow} (listed : row ∈ e.origins) :
    e.exportRows.rows.filter (fun focus => focus.source = recordSource row.1) =
      e.originPrefix.filter (fun focus => focus.source = recordSource row.1) ++
        focusRows e.backend.text (e.groupOf row) := by
  have included : e.query.includeOriginSpend = true := by
    by_contra excluded
    rw [origins,if_neg excluded] at listed
    cases listed
  rw [exportRows_eq dates]
  have none : (part e.query.includeAiSpend (e.usagePrefix ++ e.usageOutput)).filter
      (fun focus => focus.source = recordSource row.1) = [] := by
    apply filter_record_usages
    intro focus there
    obtain ⟨included,there⟩ := mem_part.mp there
    rcases List.mem_append.mp there with there | there
    · obtain ⟨usage,_,is⟩ := usagePrefix_mem (dates.usages included) there
      exact ⟨usage,is⟩
    · obtain ⟨usage,_,is⟩ := usageOutput_source focus there
      exact ⟨usage,is⟩
  rw [List.filter_append,none,List.append_nil,part,if_pos included,List.filter_append,
    filter_originOutput ((origins_of included).mp listed)]

theorem filter_usage (dates : DatesWritten e) {usage : LlmUsage} (listed : usage ∈ e.usages) :
    e.exportRows.rows.filter (fun focus => focus.source = .usage usage.id) =
      e.usagePrefix.filter (fun focus => focus.source = .usage usage.id) ++
        [usageRow e.backend.text usage] := by
  have included : e.query.includeAiSpend = true := by
    by_contra excluded
    rw [usages,if_neg excluded] at listed
    cases listed
  rw [exportRows_eq dates]
  have none : (part e.query.includeOriginSpend (e.originPrefix ++ e.originOutput)).filter
      (fun focus => focus.source = .usage usage.id) = [] := by
    apply filter_usage_records
    intro focus there
    obtain ⟨included,there⟩ := mem_part.mp there
    rcases List.mem_append.mp there with there | there
    · obtain ⟨row,_,is⟩ := originPrefix_mem (dates.origins included) there
      exact ⟨row,is⟩
    · obtain ⟨row,_,is⟩ := originOutput_source focus there
      exact ⟨row,is⟩
  rw [List.filter_append,none,List.nil_append,part,if_pos included,List.filter_append,
    filter_usageOutput ((usages_of included).mp listed)]

/-- An export conserves costs exactly when the dates can be written, the allocations of a
split record do not exceed its cost, the stream of records breaks off within the first of
them if at all, and the stream of usages before its first row. -/
theorem exported_conserves_iff (e : Export) : Conserves e ↔ Exportable e := by
  constructor
  · intro conserves
    have dates := exportRows_dates conserves.completes
    -- a row handed over early comes again with the rows of its record
    have early : e.query.includeOriginSpend = true → e.originPrefix = [] := by
      intro included
      refine List.eq_nil_iff_forall_not_mem.mpr fun focus listed => ?_
      obtain ⟨row,there,is⟩ := originPrefix_mem (dates.origins included) listed
      have selected := (origins_of included).mpr there
      have once := conserves.once row selected
      rw [filter_record dates selected,List.append_left_eq_self,List.filter_eq_nil_iff] at once
      exact once focus listed (decide_eq_true is)
    have early' : e.query.includeAiSpend = true → e.usagePrefix = [] := by
      intro included
      refine List.eq_nil_iff_forall_not_mem.mpr fun focus listed => ?_
      obtain ⟨usage,there,is⟩ := usagePrefix_mem (dates.usages included) listed
      have selected := (usages_of included).mpr there
      have once := conserves.usageOnce usage selected
      rw [filter_usage dates selected,List.append_left_eq_self,List.filter_eq_nil_iff] at once
      exact once focus listed (decide_eq_true is)
    refine ⟨?_,?_,?_,?_,?_,?_⟩
    · intro row listed
      have included : e.query.includeOriginSpend = true := by
        by_contra excluded
        rw [origins,if_neg excluded] at listed
        cases listed
      exact dates.origins included row ((origins_of included).mp listed)
    · intro row listed
      have sum := conserves.conserved row listed
      rw [conserves.once row listed] at sum
      exact focusRows_conserve.mp sum
    · exact fun included => (originPrefix_nil (dates.origins included)).mp (early included)
    · exact fun included => not_le.mp (dates.window included)
    · intro usage listed
      have included : e.query.includeAiSpend = true := by
        by_contra excluded
        rw [usages,if_neg excluded] at listed
        cases listed
      exact dates.usages included usage ((usages_of included).mp listed)
    · exact fun included => (usagePrefix_nil (dates.usages included)).mp (early' included)
  · intro exportable
    have dates : DatesWritten e := {
      origins := fun included row listed => exportable.dated row ((origins_of included).mpr listed)
      window := fun included => not_le.mpr (exportable.window included)
      usages := fun included usage listed =>
        exportable.usageDated usage ((usages_of included).mpr listed) }
    have once : ∀ row ∈ e.origins, e.exportRows.rows.filter
        (fun focus => focus.source = recordSource row.1) =
          focusRows e.backend.text (e.groupOf row) := by
      intro row listed
      have included : e.query.includeOriginSpend = true := by
        by_contra excluded
        rw [origins,if_neg excluded] at listed
        cases listed
      rw [filter_record dates listed,(originPrefix_nil (dates.origins included)).mpr
        (exportable.originStream included)]
      rfl
    refine ⟨by rw [exportRows_eq dates],once,?_,?_,?_⟩
    · intro row listed
      rw [once row listed]
      exact focusRows_conserve.mpr (exportable.covered row listed)
    · intro usage listed
      have included : e.query.includeAiSpend = true := by
        by_contra excluded
        rw [usages,if_neg excluded] at listed
        cases listed
      rw [filter_usage dates listed,(usagePrefix_nil (dates.usages included)).mpr
        (exportable.usageStream included)]
      rfl
    · intro focus listed
      rw [exportRows_eq dates] at listed
      rcases List.mem_append.mp listed with listed | listed
      · obtain ⟨included,listed⟩ := mem_part.mp listed
        have found : ∃ row ∈ e.originRecords, focus.source = recordSource row.1 := by
          rcases List.mem_append.mp listed with there | there
          · exact originPrefix_mem (dates.origins included) there
          · exact originOutput_source focus there
        obtain ⟨row,there,is⟩ := found
        exact Or.inl ⟨row,(origins_of included).mpr there,is⟩
      · obtain ⟨included,listed⟩ := mem_part.mp listed
        have found : ∃ usage ∈ e.usageRows, focus.source = .usage usage.id := by
          rcases List.mem_append.mp listed with there | there
          · exact usagePrefix_mem (dates.usages included) there
          · exact usageOutput_source focus there
        obtain ⟨usage,there,is⟩ := found
        exact Or.inr ⟨usage,(usages_of included).mpr there,is⟩

def credit : LedgerRecord := ⟨1,7,11,739585,none,"FINAL",-1000000000⟩

def creditAccount : CloudAccount := ⟨11,"aws","Data"⟩

def partlyAllocated : Export where
  books := {
    records := [credit]
    accounts := ⟨[(11,creditAccount)],by decide⟩
    usages := []
    allocations := [⟨1,739585,some 5,"team-a",-400000000,some 4000⟩]
    recordKeys := by decide
    usageIds := List.nodup_nil
    accountKeys := by decide }
  backend := ⟨Lowercase.asciiOnly,false,"+00:00"⟩
  query := ⟨7,739585,739615,none,true⟩
  originStream := none
  usageStream := none

/-- The export leaves six dollars of the credit out. -/
theorem credit_remainder_lost : ¬Conserves partlyAllocated := by
  intro conserves
  have listed : (credit,creditAccount) ∈ partlyAllocated.origins := by
    have row : partlyAllocated.origins = [(credit,creditAccount)] := by rfl
    rw [row]
    exact List.mem_cons_self
  have sum := conserves.conserved _ listed
  rw [conserves.once _ listed] at sum
  rcases focusRows_conserve.mp sum with none | whole | covered
  · revert none
    decide
  · revert whole
    decide
  · revert covered
    decide

end Export

end Valdrics.FocusExport

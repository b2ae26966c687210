import Mathlib.Data.List.Forall2
import Mathlib.Tactic.Linarith
import Mathlib.Tactic.Ring
import Valdrics.DollarCosts
import Valdrics.UsageReports

/-! Whether the costs of usage reports are conserved: the stored costs of each day are those of the
day's line items exactly if nothing is lost to a later item of the same key or to a cap. -/
namespace Valdrics.Reporting

open Enforcement (Uuid)
open ZombieScan (assign)
open PythonText (orDefault)

def exactSum (amounts : List Decimal) : ℚ := (amounts.map fun amount => amount.inUnits 8).sum

def ExactCost (amount : Decimal) : Prop :=
  ∃ units : Int, costColumn amount = some units ∧ amount.inUnits 8 = units

def superseded (call : Ingestion) : List CostValue → List CostValue
  | [] => []
  | value :: rest =>
    if ∃ later ∈ rest, later.key call = value.key call then value :: superseded call rest
    else superseded call rest

def valuesOn (day : Nat) (values : List CostValue) : ℚ :=
  exactSum ((values.filter fun value => value.recordedAt = day).map (·.costUsd))

def storedOn (table : Table) (day : Nat) : Int :=
  ((table.rows.filter fun row => row.key.recordedAt = day).map (·.costUsd)).sum

namespace FeedRuntime

variable (rt : FeedRuntime) (startDay endDay : Nat)

def itemCosts (file : ReportFile) : List (Nat × Decimal) :=
  if file.Read then file.items.filterMap fun item => item.row?.bind fun row =>
    (rt.curAmount file.columns row).map fun amount => (row.day,amount)
  else []

def dayCost (files : List ReportFile) (day : Nat) : ℚ :=
  exactSum (((files.flatMap rt.itemCosts).filter fun item => item.1 = day).map Prod.snd)

def rangeCost (files : List ReportFile) : ℚ :=
  exactSum (((files.flatMap rt.itemCosts).filter fun item =>
    startDay ≤ item.1 ∧ item.1 ≤ endDay).map Prod.snd)

def countedRows (file : ReportFile) : List FeedRow :=
  if file.Read then ((file.items.filterMap LineItem.row?).filter fun row =>
    startDay ≤ row.day ∧ row.day ≤ endDay).filterMap (rt.parseCurRow file.columns)
  else []

def keptValues (files : List ReportFile) : List CostValue :=
  files.flatMap fun file => ((rt.countedRows startDay endDay file).take summaryRecordCap).map
    fun row => row.record.value

def cappedValues (files : List ReportFile) : List CostValue :=
  files.flatMap fun file => ((rt.countedRows startDay endDay file).drop summaryRecordCap).map
    fun row => row.record.value

end FeedRuntime

def SameItems (files other : List ReportFile) : Prop :=
  List.Forall₂ (fun file cut => cut.columns = file.columns ∧ cut.items = file.items) files other

namespace FeedRuntime

variable (rt : FeedRuntime) (call : Ingestion) (startDay endDay : Nat) (files : List ReportFile)

/-- The stored costs of every day are those of its line items, the summary has their total over all
days, over the services and over the regions, and neither depends on how the files are cut. -/
def Conserves : Prop :=
  ∃ table summary, rt.saveReports startDay endDay call files = some table ∧
    rt.getDailyCosts startDay endDay files = some summary ∧
    (∀ day, startDay ≤ day → day ≤ endDay → (storedOn table day : ℚ) = rt.dayCost files day) ∧
    summary.totalCost.inUnits 8 = rt.rangeCost startDay endDay files ∧
    exactSum (summary.byService.map Prod.snd) = rt.rangeCost startDay endDay files ∧
    exactSum (summary.byRegion.map Prod.snd) = rt.rangeCost startDay endDay files ∧
    ∀ other, SameItems files other → rt.saveReports startDay endDay call other = some table ∧
      rt.getDailyCosts startDay endDay other = some summary

/-- Every item that is read has a date, no statement writes one key twice, and what is superseded or
beyond a cap costs nothing on any day. -/
structure Separate : Prop where
  dated : ∀ file ∈ files, file.Read → ∀ item ∈ file.items, item.row? ≠ none
  apart : ∀ batch ∈ batches (rt.keptValues startDay endDay files), ¬rt.database.repeats call batch
  lost : ∀ day, startDay ≤ day → day ≤ endDay → valuesOn day (superseded call
    (rt.keptValues startDay endDay files) ++ rt.cappedValues startDay endDay files) = 0

end FeedRuntime

section Sums

theorem exactSum_append (first second : List Decimal) :
    exactSum (first ++ second) = exactSum first + exactSum second := by
  simp [exactSum]

@[simp] theorem exactSum_nil : exactSum [] = 0 := rfl

@[simp] theorem exactSum_cons (amount : Decimal) (amounts : List Decimal) :
    exactSum (amount :: amounts) = amount.inUnits 8 + exactSum amounts := by
  simp [exactSum]

@[simp] theorem inUnits_zero (exponent : Int) (places : Nat) :
    (⟨0,exponent⟩ : Decimal).inUnits places = 0 := by
  simp [Decimal.inUnits]

theorem inUnits_plus (a b : Decimal) (places : Nat) :
    (a.plus b).inUnits places = a.inUnits places + b.inUnits places := by
  have aligned : ∀ (d : Decimal) (e : Int), e ≤ d.exponent →
      (d.coefficient : ℚ) * 10 ^ (d.exponent - e).toNat * 10 ^ (e + places) =
        d.coefficient * 10 ^ (d.exponent + places) := by
    intro d e below
    rw [mul_assoc,← zpow_natCast,← zpow_add₀ (by norm_num)]
    congr 2
    omega
  have left := aligned a _ (min_le_left a.exponent b.exponent)
  have right := aligned b _ (min_le_right a.exponent b.exponent)
  simp only [Decimal.plus,Decimal.inUnits]
  push_cast
  rw [add_mul,left,right]

theorem valuesOn_append (day : Nat) (first second : List CostValue) :
    valuesOn day (first ++ second) = valuesOn day first + valuesOn day second := by
  simp [valuesOn,exactSum_append]

theorem valuesOn_cons (day : Nat) (value : CostValue) (values : List CostValue) :
    valuesOn day (value :: values) =
      (if value.recordedAt = day then value.costUsd.inUnits 8 else 0) + valuesOn day values := by
  by_cases same : value.recordedAt = day <;> simp [valuesOn,same]

end Sums

section Summaries

variable {amounts : List (String × Decimal)} {key : String}

theorem assign_other {other : String} {old amount : Decimal} (apart : other ≠ key) :
    assign ((other,old) :: amounts) key amount = (other,old) :: assign amounts key amount := by
  simp only [assign,List.any_cons,decide_eq_false apart,Bool.false_or,List.map_cons,if_neg apart]
  split <;> rfl

theorem assign_first {old amount : Decimal} (fresh : key ∉ amounts.map Prod.fst) :
    assign ((key,old) :: amounts) key amount = (key,amount) :: amounts := by
  have rest : (amounts.map fun e => if e.1 = key then (key,amount) else e) = amounts := by
    refine (List.map_congr_left fun e listed => if_neg ?_).trans (List.map_id' amounts)
    rintro rfl
    exact fresh (List.mem_map_of_mem listed)
  simp [assign,rest]

theorem mem_assign {amount : Decimal} {other : String}
    (listed : other ∈ (assign amounts key amount).map Prod.fst) :
    other = key ∨ other ∈ amounts.map Prod.fst := by
  induction amounts with
  | nil => simpa [assign] using listed
  | cons entry rest ih =>
    obtain ⟨name,old⟩ := entry
    by_cases same : name = key
    · subst same
      simp only [assign,List.any_cons,decide_true,Bool.true_or,if_true,List.map_cons,List.mem_cons,
        List.map_map] at listed ⊢
      rcases listed with rfl | later
      · exact .inl rfl
      · obtain ⟨e,there,named⟩ := List.mem_map.mp later
        by_cases again : e.1 = name
        · simp [again] at named
          exact .inl named.symm
        · simp [again] at named
          exact .inr (.inr (List.mem_map.mpr ⟨e,there,named⟩))
    · rw [assign_other same] at listed
      rcases List.mem_cons.mp listed with rfl | later
      · exact .inr List.mem_cons_self
      · exact (ih later).imp_right (List.mem_cons_of_mem _)

theorem addAmount_sum (distinct : (amounts.map Prod.fst).Nodup) (key : String) (amount : Decimal) :
    exactSum ((addAmount amounts key amount).map Prod.snd) =
      exactSum (amounts.map Prod.snd) + amount.inUnits 8 ∧
    ((addAmount amounts key amount).map Prod.fst).Nodup := by
  simp only [addAmount]
  induction amounts with
  | nil => simp [assign,inUnits_plus]
  | cons entry rest ih =>
    obtain ⟨name,old⟩ := entry
    obtain ⟨fresh,distinct'⟩ := List.nodup_cons.mp distinct
    obtain ⟨sum,nodup⟩ := ih distinct'
    by_cases same : name = key
    · subst same
      rw [assign_first fresh]
      refine ⟨?_,List.nodup_cons.mpr ⟨fresh,distinct'⟩⟩
      simp only [List.lookup_cons,beq_self_eq_true,Option.getD_some,List.map_cons,exactSum_cons,
        inUnits_plus]
      ring
    · have looked : ((name,old) :: rest).lookup key = rest.lookup key := by
        rw [List.lookup_cons,beq_eq_false_iff_ne.mpr (Ne.symm same)]
      rw [looked,assign_other same]
      refine ⟨?_,List.nodup_cons.mpr ⟨fun again => ?_,nodup⟩⟩
      · simp only [List.map_cons,exactSum_cons,sum]
        ring
      · exact (mem_assign again).elim same fresh

def Totals (amounts : List (String × Decimal)) (sum : ℚ) : Prop :=
  exactSum (amounts.map Prod.snd) = sum ∧ (amounts.map Prod.fst).Nodup

theorem Totals.add {sum : ℚ} (totals : Totals amounts sum) (key : String) (amount : Decimal) :
    Totals (addAmount amounts key amount) (sum + amount.inUnits 8) := by
  obtain ⟨added,distinct⟩ := addAmount_sum totals.2 key amount
  exact ⟨by rw [added,totals.1],distinct⟩

theorem Totals.addAll {sum : ℚ} (totals : Totals amounts sum) (more : List (String × Decimal)) :
    Totals (more.foldl (fun amounts entry => addAmount amounts entry.1 entry.2) amounts)
      (sum + exactSum (more.map Prod.snd)) := by
  induction more generalizing amounts sum with
  | nil => simpa using totals
  | cons entry more ih =>
    have next := ih (totals.add entry.1 entry.2)
    rw [List.foldl_cons,List.map_cons,exactSum_cons,← add_assoc]
    exact next

structure UsageSummary.Counts (summary : UsageSummary) (sum : ℚ) : Prop where
  total : summary.totalCost.inUnits 8 = sum
  services : Totals summary.byService sum
  regions : Totals summary.byRegion sum

theorem counts_empty : UsageSummary.Counts {} 0 := by
  refine ⟨?_,⟨rfl,List.nodup_nil⟩,⟨rfl,List.nodup_nil⟩⟩
  simp

variable {summary : UsageSummary} {sum : ℚ}

theorem UsageSummary.Counts.fold (counts : summary.Counts sum) (rows : List FeedRow) :
    (rows.foldl UsageSummary.count summary).Counts (sum + exactSum (rows.map (·.costUsd))) := by
  induction rows generalizing summary sum with
  | nil => simpa using counts
  | cons row rows ih =>
    have next : (summary.count row).Counts (sum + row.costUsd.inUnits 8) := by
      refine ⟨?_,counts.services.add _ _,counts.regions.add _ _⟩
      simp only [UsageSummary.count,inUnits_plus,counts.total]
    simpa only [List.foldl_cons,List.map_cons,exactSum_cons,add_assoc] using ih next

theorem count_records (summary : UsageSummary) (rows : List FeedRow)
    (below : summary.records.length ≤ summaryRecordCap) :
    (rows.foldl UsageSummary.count summary).records =
      summary.records ++ rows.take (summaryRecordCap - summary.records.length) := by
  induction rows generalizing summary with
  | nil => simp
  | cons row rows ih =>
    rw [List.foldl_cons]
    by_cases room : summary.records.length < summaryRecordCap
    · have added : (summary.count row).records = summary.records ++ [row] := by
        simp [UsageSummary.count,room]
      have length : (summary.count row).records.length = summary.records.length + 1 := by
        simp [added]
      rw [ih _ (by omega),length,added]
      obtain ⟨left,more⟩ : ∃ left, summaryRecordCap - summary.records.length = left + 1 :=
        ⟨summaryRecordCap - summary.records.length - 1,by omega⟩
      have less : summaryRecordCap - (summary.records.length + 1) = left := by omega
      rw [more,less,List.take_succ_cons,List.append_assoc,List.singleton_append]
    · have full : (summary.count row).records = summary.records := by
        simp [UsageSummary.count,room]
      have none_ : summaryRecordCap - summary.records.length = 0 := by omega
      rw [ih _ (by rw [full]; exact below),full,none_]
      simp

theorem UsageSummary.Counts.merge {file : UsageSummary} {more : ℚ} (counts : summary.Counts sum)
    (theirs : file.Counts more) : (summary.merge file).Counts (sum + more) := by
  refine ⟨?_,?_,?_⟩
  · simp only [UsageSummary.merge,inUnits_plus,counts.total,theirs.total]
  · rw [← theirs.services.1]
    exact counts.services.addAll file.byService
  · rw [← theirs.regions.1]
    exact counts.regions.addAll file.byRegion

end Summaries

section Reading

variable {startDay endDay : Nat} {batch : List LineItem}

theorem day_le_foldl (rows : List CurRow) (most : Nat) :
    most ≤ rows.foldl (fun most row => max most row.day) most ∧
      ∀ row ∈ rows, row.day ≤ rows.foldl (fun most row => max most row.day) most := by
  induction rows generalizing most with
  | nil => simp
  | cons first rows ih =>
    obtain ⟨least,each⟩ := ih (max most first.day)
    rw [List.foldl_cons]
    refine ⟨by omega,fun row listed => ?_⟩
    rcases List.mem_cons.mp listed with rfl | later
    · omega
    · exact each row later

theorem foldl_le_day (rows : List CurRow) (least : Nat) :
    rows.foldl (fun least row => min least row.day) least ≤ least ∧
      ∀ row ∈ rows, rows.foldl (fun least row => min least row.day) least ≤ row.day := by
  induction rows generalizing least with
  | nil => simp
  | cons first rows ih =>
    obtain ⟨most,each⟩ := ih (min least first.day)
    rw [List.foldl_cons]
    refine ⟨by omega,fun row listed => ?_⟩
    rcases List.mem_cons.mp listed with rfl | later
    · omega
    · exact each row later

theorem rows_dated (dated : ∀ item ∈ batch, item.row? ≠ none) :
    batch.mapM LineItem.row? = some (batch.filterMap LineItem.row?) := by
  induction batch with
  | nil => rfl
  | cons item batch ih =>
    obtain ⟨row,read⟩ := Option.ne_none_iff_exists'.mp (dated item List.mem_cons_self)
    rw [List.mapM_cons,read,ih fun other listed => dated other (List.mem_cons_of_mem _ listed),
      List.filterMap_cons_some read]
    rfl

theorem row?_malformed {item : LineItem} (malformed : item.usageDate = .malformed) :
    item.row? = none := by
  simp [LineItem.row?,malformed]

theorem batchRows_dated (startDay endDay : Nat) (dated : ∀ item ∈ batch, item.row? ≠ none) :
    batchRows startDay endDay batch = some ((batch.filterMap LineItem.row?).filter fun row =>
      startDay ≤ row.day ∧ row.day ≤ endDay) := by
  simp only [batchRows]
  by_cases empty : batch = []
  · simp [empty]
  have readable : ¬∃ item ∈ batch, item.usageDate = .malformed := by
    rintro ⟨item,listed,malformed⟩
    exact dated item listed (row?_malformed malformed)
  rw [if_neg empty,if_neg readable]
  cases rows : batch.filterMap LineItem.row? with
  | nil =>
    obtain ⟨item,rest,rfl⟩ := List.exists_cons_of_ne_nil empty
    exact absurd (List.filterMap_eq_nil_iff.mp rows item List.mem_cons_self)
      (dated item List.mem_cons_self)
  | cons first rest =>
    dsimp only
    obtain ⟨most,below⟩ := day_le_foldl rest first.day
    obtain ⟨least,above⟩ := foldl_le_day rest first.day
    split
    · next outside =>
      rw [eq_comm,Option.some_inj,List.filter_eq_nil_iff]
      intro row listed
      have bounds : rest.foldl (fun least row => min least row.day) first.day ≤ row.day ∧
          row.day ≤ rest.foldl (fun most row => max most row.day) first.day := by
        rcases List.mem_cons.mp listed with rfl | later
        · exact ⟨least,most⟩
        · exact ⟨above row later,below row later⟩
      simp only [decide_eq_true_eq]
      omega
    · rw [rows_dated dated,rows]
      rfl

/-- Alone in its batch, an item without a date is an error. -/
theorem batchRows_single {item : LineItem} (read : batchRows startDay endDay [item] ≠ none) :
    item.row? ≠ none := by
  intro undated
  apply read
  simp [batchRows,undated]

theorem batches_dated (startDay endDay : Nat) {batches : List (List LineItem)}
    (dated : ∀ item ∈ batches.flatten, item.row? ≠ none) :
    ∃ rows, batches.mapM (batchRows startDay endDay) = some rows ∧
      rows.flatten = (batches.flatten.filterMap LineItem.row?).filter fun row =>
        startDay ≤ row.day ∧ row.day ≤ endDay := by
  induction batches with
  | nil => exact ⟨[],rfl,rfl⟩
  | cons batch batches ih =>
    obtain ⟨rows,read,same⟩ := ih fun item listed => dated item (List.mem_append_right _ listed)
    have first := batchRows_dated startDay endDay
      (fun item listed => dated item (List.mem_append_left _ listed))
    refine ⟨(batch.filterMap LineItem.row?).filter (fun row => startDay ≤ row.day ∧
      row.day ≤ endDay) :: rows,?_,?_⟩
    · rw [List.mapM_cons,first,read]
      rfl
    · rw [List.flatten_cons,List.flatten_cons,same,List.filterMap_append,List.filter_append]

theorem processReport_dated (rt : FeedRuntime) (startDay endDay : Nat) {file : ReportFile}
    (dated : file.Read → ∀ item ∈ file.items, item.row? ≠ none) :
    rt.processReport startDay endDay file =
      some ((rt.countedRows startDay endDay file).foldl UsageSummary.count {}) := by
  by_cases read : file.Read
  · obtain ⟨rows,all,same⟩ := batches_dated startDay endDay (dated read)
    simp only [FeedRuntime.processReport,FeedRuntime.countedRows,if_pos read,all,Option.map_some,
      same,ReportFile.items]
  · simp [FeedRuntime.processReport,FeedRuntime.countedRows,read]

end Reading

section Storing

open Database

variable {database : Database} {call : Ingestion} {table next : Table} {value : CostValue}

theorem storedOn_upsert (keyed : Keyed table) (typed : value.usageType ≠ none) {units : Int}
    (fits : costColumn value.costUsd = some units)
    (wrote : database.upsertRow call table value = some next) (day : Nat) :
    storedOn next day = storedOn table day +
      if value.recordedAt = day then units - (costAt table (value.key call)).getD 0 else 0 := by
  simp only [Database.upsertRow,fits,Option.bind_eq_bind,Option.bind_some] at wrote
  cases found : database.target table.rows call value with
  | none =>
    rw [found] at wrote
    obtain rfl := Option.some.inj wrote
    rw [target_eq typed] at found
    have fresh : costAt table (value.key call) = none := by simp [costAt,found]
    simp only [storedOn,List.filter_append,List.map_append,List.sum_append,fresh,Option.getD_none]
    by_cases same : value.recordedAt = day <;> simp [CostValue.key,same]
  | some row =>
    rw [found] at wrote
    obtain rfl := Option.some.inj wrote
    have there := target_mem found
    rw [target_eq typed] at found
    have held : row.key = value.key call := by simpa using List.find?_some found
    have before : costAt table (value.key call) = some row.costUsd := by simp [costAt,found]
    -- The other rows have identifiers of their own and stay.
    obtain ⟨front,back,split⟩ := List.append_of_mem there
    have distinct := keyed.distinct
    rw [split,List.map_append,List.map_cons] at distinct
    have others : ∀ part : List CostRow, (∀ other ∈ part, other.id ≠ row.id) →
        (part.map fun other => if other.id = row.id then rewritten call other units else other) =
          part := by
      intro part apart
      refine (List.map_congr_left fun other listed => if_neg (apart other listed)).trans ?_
      exact List.map_id' part
    have frontApart : ∀ other ∈ front, other.id ≠ row.id := by
      intro other listed same
      exact (List.nodup_append.mp distinct).2.2 _ (List.mem_map_of_mem listed) _
        List.mem_cons_self same
    have backApart : ∀ other ∈ back, other.id ≠ row.id := by
      intro other listed same
      have alone := (List.nodup_cons.mp (List.nodup_append.mp distinct).2.1).1
      exact alone (same ▸ List.mem_map_of_mem listed)
    have written : (table.rows.map fun other =>
        if other.id = row.id then rewritten call other units else other) =
          front ++ rewritten call row units :: back := by
      rw [split,List.map_append,List.map_cons,others front frontApart,others back backApart,
        if_pos rfl]
    have dayOf : row.key.recordedAt = value.recordedAt := by rw [held]; rfl
    have dayOf' : (rewritten call row units).key.recordedAt = value.recordedAt := dayOf
    simp only [storedOn,written,before,Option.getD_some]
    rw [split]
    simp only [List.filter_append,List.filter_cons,List.map_append,List.sum_append,dayOf,dayOf']
    by_cases same : value.recordedAt = day
    · simp only [same,decide_true,if_true,List.map_cons,List.sum_cons,rewritten]
      ring
    · simp only [same,decide_false,Bool.false_eq_true,if_false,add_zero]

def lastUnder (call : Ingestion) (key : CostKey) : List CostValue → Option CostValue
  | [] => none
  | value :: rest => (lastUnder call key rest).or (if value.key call = key then some value else none)

theorem lastUnder_none {key : CostKey} {values : List CostValue} :
    lastUnder call key values = none ↔ ¬∃ later ∈ values, later.key call = key := by
  induction values with
  | nil => simp [lastUnder]
  | cons value values ih =>
    by_cases same : value.key call = key <;> simp [lastUnder,same,ih]

theorem lastUnder_some {key : CostKey} {values : List CostValue} {value : CostValue}
    (last : lastUnder call key values = some value) : value ∈ values ∧ value.key call = key := by
  induction values with
  | nil => simp [lastUnder] at last
  | cons first values ih =>
    simp only [lastUnder,Option.or_eq_some_iff] at last
    rcases last with later | ⟨-,here⟩
    · exact ⟨List.mem_cons_of_mem _ (ih later).1,(ih later).2⟩
    · split at here
      · next same =>
        obtain rfl := Option.some.inj here
        exact ⟨List.mem_cons_self,same⟩
      · simp at here

theorem lastUnder_append (key : CostKey) (values : List CostValue) (value : CostValue) :
    lastUnder call key (values ++ [value]) =
      if value.key call = key then some value else lastUnder call key values := by
  induction values with
  | nil => simp [lastUnder]
  | cons first values ih =>
    simp only [List.cons_append,lastUnder,ih]
    by_cases same : value.key call = key <;> simp [same]

theorem superseded_append (values : List CostValue) (value : CostValue) (day : Nat) :
    valuesOn day (superseded call (values ++ [value])) = valuesOn day (superseded call values) +
      valuesOn day (lastUnder call (value.key call) values).toList := by
  induction values with
  | nil => simp [superseded,lastUnder,valuesOn]
  | cons first values ih =>
    simp only [List.cons_append,superseded,lastUnder]
    by_cases later : ∃ other ∈ values, other.key call = first.key call
    · have more : ∃ other ∈ values ++ [value], other.key call = first.key call := by
        obtain ⟨other,listed,same⟩ := later
        exact ⟨other,List.mem_append_left _ listed,same⟩
      rw [if_pos later,if_pos more,valuesOn_cons,valuesOn_cons,ih]
      cases last : lastUnder call (value.key call) values with
      | some other => simp only [Option.some_or]; ring
      | none =>
        have apart : first.key call ≠ value.key call := by
          intro same
          exact lastUnder_none.mp last (same ▸ later)
        simp only [if_neg apart,Option.or_self]
        ring
    · rw [if_neg later]
      by_cases same : first.key call = value.key call
      · have none_ : lastUnder call (value.key call) values = none := by
          rw [lastUnder_none,← same]
          exact later
        have more : ∃ other ∈ values ++ [value], other.key call = first.key call :=
          ⟨value,by simp,same.symm⟩
        rw [if_pos more,valuesOn_cons,ih,none_,if_pos same]
        simp only [Option.none_or,Option.toList_none,Option.toList_some,valuesOn_cons]
        simp [valuesOn]
        ring
      · have none_ : ¬∃ other ∈ values ++ [value], other.key call = first.key call := by
          rintro ⟨other,listed,again⟩
          rcases List.mem_append.mp listed with there | one
          · exact later ⟨other,there,again⟩
          · obtain rfl := List.mem_singleton.mp one
            exact same again.symm
        rw [if_neg none_,ih,if_neg same,Option.or_none]

theorem upserts_stored (database : Database) (call : Ingestion) {values : List CostValue}
    (typed : ∀ value ∈ values, value.usageType ≠ none)
    (exact_ : ∀ value ∈ values, ExactCost value.costUsd) :
    ∃ table, values.foldlM (database.upsertRow call) {} = some table ∧ Keyed table ∧
      (∀ key, costAt table key =
        (lastUnder call key values).bind fun value => costColumn value.costUsd) ∧
      ∀ day, (storedOn table day : ℚ) + valuesOn day (superseded call values) =
        valuesOn day values := by
  induction values using List.reverseRecOn with
  | nil =>
    refine ⟨{},rfl,⟨List.nodup_nil,fun row listed => absurd listed List.not_mem_nil⟩,fun _ => rfl,
      fun day => ?_⟩
    simp [storedOn,superseded,valuesOn]
  | append_singleton values value ih =>
    obtain ⟨table,done,keyed,costs,sums⟩ := ih
      (fun other listed => typed other (List.mem_append_left _ listed))
      (fun other listed => exact_ other (List.mem_append_left _ listed))
    have typed' := typed value (by simp)
    obtain ⟨units,fits,units_eq⟩ := exact_ value (by simp)
    obtain ⟨next,wrote,keyed',costs'⟩ := upsertRow_stores database call keyed typed' fits
    refine ⟨next,?_,keyed',fun key => ?_,fun day => ?_⟩
    · rw [List.foldlM_append,done]
      simpa using wrote
    · rw [costs',lastUnder_append]
      by_cases same : value.key call = key
      · simp [same,fits]
      · simp [same,Ne.symm same,costs]
    · have last : valuesOn day (lastUnder call (value.key call) values).toList =
          if value.recordedAt = day then (((costAt table (value.key call)).getD 0 : Int) : ℚ)
          else 0 := by
        rw [costs]
        cases under : lastUnder call (value.key call) values with
        | none => simp [valuesOn]
        | some other =>
          obtain ⟨listed,sameKey⟩ := lastUnder_some under
          obtain ⟨held,column,held_eq⟩ := exact_ other (List.mem_append_left _ listed)
          have sameDay : other.recordedAt = value.recordedAt := congrArg CostKey.recordedAt sameKey
          simp only [Option.toList_some,valuesOn_cons,sameDay,Option.bind_some,column,
            Option.getD_some,held_eq]
          simp [valuesOn]
      rw [superseded_append,valuesOn_append,← sums,storedOn_upsert keyed typed' fits wrote,last]
      by_cases same : value.recordedAt = day
      · simp only [same,if_true,valuesOn_cons,units_eq]
        push_cast
        simp [valuesOn]
        ring
      · simp only [same,if_false,valuesOn_cons]
        push_cast
        simp [valuesOn]

/-- Batches that write no key twice are written value by value. -/
theorem bulkUpserts_eq {chunks : List (List CostValue)}
    (apart : ∀ chunk ∈ chunks, ¬database.repeats call chunk) (table : Table) :
    chunks.foldlM (database.bulkUpsert call) table =
      chunks.flatten.foldlM (database.upsertRow call) table := by
  induction chunks generalizing table with
  | nil => rfl
  | cons chunk chunks ih =>
    simp only [List.foldlM_cons,List.flatten_cons,List.foldlM_append,Database.bulkUpsert,
      if_neg (apart chunk List.mem_cons_self)]
    congr 1
    funext next
    exact ih (fun later listed => apart later (List.mem_cons_of_mem _ listed)) next

theorem bulkUpserts_apart {chunks : List (List CostValue)} {table next : Table}
    (written : chunks.foldlM (database.bulkUpsert call) table = some next) :
    ∀ chunk ∈ chunks, ¬database.repeats call chunk := by
  induction chunks generalizing table with
  | nil => simp
  | cons chunk chunks ih =>
    simp only [List.foldlM_cons,Option.bind_eq_bind,Option.bind_eq_some_iff] at written
    obtain ⟨middle,first,rest⟩ := written
    intro other listed
    rcases List.mem_cons.mp listed with rfl | later
    · intro twice
      simp [Database.bulkUpsert,twice] at first
    · exact ih rest other later

end Storing

section Conservation

open FeedRuntime Database

variable {rt : FeedRuntime} {call : Ingestion} {startDay endDay : Nat} {files other : List ReportFile}

theorem countedRows_costs (rt : FeedRuntime) (startDay endDay : Nat) (file : ReportFile) :
    (rt.countedRows startDay endDay file).map (fun row => (row.timestamp / dayMicros,row.costUsd)) =
      (rt.itemCosts file).filter fun item => startDay ≤ item.1 ∧ item.1 ≤ endDay := by
  by_cases read : file.Read
  · simp only [countedRows,itemCosts,if_pos read]
    induction file.items with
    | nil => rfl
    | cons item items ih =>
      cases dated : item.row? with
      | none => simpa [dated] using ih
      | some row =>
        simp only [CurRow.day] at ih ⊢
        by_cases inside : startDay ≤ row.usageStart / dayMicros ∧ row.usageStart / dayMicros ≤ endDay
        · cases amount : rt.curAmount file.columns row with
          | none => simpa [dated,inside,parseCurRow,amount] using ih
          | some cost => simpa [dated,inside,parseCurRow,amount] using ih
        · cases amount : rt.curAmount file.columns row with
          | none => simpa [dated,inside,amount] using ih
          | some cost => simpa [dated,inside,amount] using ih
  · simp [countedRows,itemCosts,read]

theorem valuesOn_rows (day : Nat) (rows : List FeedRow) :
    valuesOn day (rows.map fun row => row.record.value) =
      exactSum (((rows.map fun row => (row.timestamp / dayMicros,row.costUsd)).filter
        fun item => item.1 = day).map Prod.snd) := by
  simp only [valuesOn,List.filter_map,List.map_map]
  rfl

theorem countedRows_day (rt : FeedRuntime) (file : ReportFile) {day : Nat} (first : startDay ≤ day)
    (last : day ≤ endDay) :
    valuesOn day ((rt.countedRows startDay endDay file).map fun row => row.record.value) =
      exactSum (((rt.itemCosts file).filter fun item => item.1 = day).map Prod.snd) := by
  rw [valuesOn_rows,countedRows_costs,List.filter_filter]
  congr 2
  apply List.filter_congr
  intro item _
  by_cases same : item.1 = day
  · simp [same,first,last]
  · simp [same]

theorem kept_and_capped (rt : FeedRuntime) (files : List ReportFile) {day : Nat}
    (first : startDay ≤ day) (last : day ≤ endDay) : valuesOn day (rt.keptValues startDay endDay files) +
      valuesOn day (rt.cappedValues startDay endDay files) = rt.dayCost files day := by
  induction files with
  | nil => simp [keptValues,cappedValues,dayCost,valuesOn]
  | cons file files ih =>
    have whole := countedRows_day rt file first last
    rw [← List.take_append_drop summaryRecordCap (rt.countedRows startDay endDay file),
      List.map_append,valuesOn_append] at whole
    simp only [keptValues,cappedValues,dayCost,List.flatMap_cons,valuesOn_append,List.filter_append,
      List.map_append,exactSum_append] at ih ⊢
    rw [← whole,← ih]
    ring

theorem countedRows_range (rt : FeedRuntime) (startDay endDay : Nat) (files : List ReportFile) :
    exactSum ((files.flatMap (rt.countedRows startDay endDay)).map (·.costUsd)) =
      rt.rangeCost startDay endDay files := by
  induction files with
  | nil => simp [rangeCost]
  | cons file files ih =>
    have costs := congrArg (List.map Prod.snd) (countedRows_costs rt startDay endDay file)
    rw [List.map_map] at costs
    have own : (rt.countedRows startDay endDay file).map (·.costUsd) =
        ((rt.itemCosts file).filter fun item => startDay ≤ item.1 ∧ item.1 ≤ endDay).map Prod.snd :=
      costs
    simp only [rangeCost,List.flatMap_cons,List.map_append,List.filter_append,exactSum_append] at ih ⊢
    rw [own,ih]

theorem countedRows_cost {file : ReportFile} {row : FeedRow}
    (counted : row ∈ rt.countedRows startDay endDay file) :
    ∃ item ∈ rt.itemCosts file, item.2 = row.costUsd := by
  have there : (row.timestamp / dayMicros,row.costUsd) ∈
      (rt.itemCosts file).filter fun item => startDay ≤ item.1 ∧ item.1 ≤ endDay := by
    rw [← countedRows_costs]
    exact List.mem_map_of_mem counted
  exact ⟨_,(List.mem_filter.mp there).1,rfl⟩

theorem mapM_each {α β : Type} {f : α → Option β} {g : α → β} {items : List α}
    (each : ∀ item ∈ items, f item = some (g item)) : items.mapM f = some (items.map g) := by
  induction items with
  | nil => rfl
  | cons item items ih =>
    rw [List.mapM_cons,each item List.mem_cons_self,
      ih fun other listed => each other (List.mem_cons_of_mem _ listed)]
    rfl

theorem mapM_read {α β : Type} {f : α → Option β} {items : List α} (read : items.mapM f ≠ none) :
    ∀ item ∈ items, f item ≠ none := by
  induction items with
  | nil => simp
  | cons item items ih =>
    intro other listed failed
    apply read
    rw [List.mapM_cons]
    rcases List.mem_cons.mp listed with rfl | later
    · rw [failed]
      rfl
    · have rest : items.mapM f = none := by
        by_contra done
        exact ih done other later failed
      rw [rest]
      cases f item <;> rfl

theorem counted_records (rows : List FeedRow) :
    (rows.foldl UsageSummary.count {}).records = rows.take summaryRecordCap := by
  simpa using count_records {} rows (Nat.zero_le _)

theorem reports_dated (rt : FeedRuntime) (call : Ingestion) (startDay endDay : Nat)
    (dated : ∀ file ∈ files, file.Read → ∀ item ∈ file.items, item.row? ≠ none) :
    rt.saveReports startDay endDay call files = (batches (rt.keptValues startDay endDay files)).foldlM
      (rt.database.bulkUpsert call) {} ∧
    rt.getDailyCosts startDay endDay files = some ((files.map (rt.countedRows startDay endDay)).foldl
      (fun summary rows => summary.merge (rows.foldl UsageSummary.count {})) {}) := by
  have each := mapM_each fun file listed =>
    processReport_dated rt startDay endDay (dated file listed)
  refine ⟨?_,?_⟩
  · simp only [saveReports,streamReports,each,Option.map_some,Option.bind_some,Database.saveStream,
      keptValues,List.flatMap_map,counted_records,List.map_flatMap,List.map_map]
    rfl
  · simp only [getDailyCosts,each,Option.map_some,List.foldl_map]

def ReportFile.chunks (file : ReportFile) : List CurChunk :=
  file.batches.map fun batch => ⟨file.columns,batch.filterMap LineItem.row?⟩

theorem mergeAll_counts (rows : List (List FeedRow)) {summary : UsageSummary} {sum : ℚ}
    (counts : summary.Counts sum) : (rows.foldl (fun summary rows =>
      summary.merge (rows.foldl UsageSummary.count {})) summary).Counts
        (sum + exactSum (rows.flatten.map (·.costUsd))) := by
  induction rows generalizing summary sum with
  | nil => simpa using counts
  | cons first rows ih =>
    have own := counts_empty.fold first
    rw [zero_add] at own
    have next := ih (counts.merge own)
    rw [List.foldl_cons,List.flatten_cons,List.map_append,exactSum_append,← add_assoc]
    exact next

theorem countedRows_same (same : SameItems files other) :
    other.map (rt.countedRows startDay endDay) = files.map (rt.countedRows startDay endDay) := by
  induction same with
  | nil => rfl
  | cons matched _ ih =>
    rw [List.map_cons,List.map_cons,ih]
    congr 1
    simp only [countedRows,ReportFile.Read,matched.1,matched.2]
    rfl

theorem keptValues_eq (rt : FeedRuntime) (startDay endDay : Nat) (files : List ReportFile) :
    rt.keptValues startDay endDay files = (files.map (rt.countedRows startDay endDay)).flatMap
      fun rows => (rows.take summaryRecordCap).map fun row => row.record.value := by
  rw [List.flatMap_map]
  rfl

theorem keptValues_mem {value : CostValue} (kept : value ∈ rt.keptValues startDay endDay files) :
    value.usageType ≠ none ∧ ∃ file ∈ files, ∃ item ∈ rt.itemCosts file, item.2 = value.costUsd := by
  obtain ⟨file,listed,inFile⟩ := List.mem_flatMap.mp kept
  obtain ⟨row,counted,rfl⟩ := List.mem_map.mp inFile
  obtain ⟨item,there,same⟩ := countedRows_cost (List.mem_of_mem_take counted)
  exact ⟨Option.some_ne_none _,file,listed,item,there,same⟩

theorem dated_same (same : SameItems files other)
    (dated : ∀ file ∈ files, file.Read → ∀ item ∈ file.items, item.row? ≠ none) :
    ∀ file ∈ other, file.Read → ∀ item ∈ file.items, item.row? ≠ none := by
  induction same with
  | nil => simp
  | cons matched _ ih =>
    intro file listed read item member
    rcases List.mem_cons.mp listed with rfl | later
    · rw [matched.2] at member
      refine dated _ List.mem_cons_self ?_ item member
      simpa only [ReportFile.Read,matched.1] using read
    · exact ih (fun earlier there => dated earlier (List.mem_cons_of_mem _ there)) file later read
        item member

def cutSingly (file : ReportFile) : ReportFile := ⟨file.columns,file.items.map fun item => [item]⟩

theorem cutSingly_same (files : List ReportFile) : SameItems files (files.map cutSingly) := by
  induction files with
  | nil => exact .nil
  | cons file files ih =>
    refine .cons ⟨rfl,?_⟩ ih
    simp only [cutSingly,ReportFile.items]
    induction file.batches.flatten with
    | nil => rfl
    | cons item items ih => simp [ih]

theorem dated_of_cuts (saved : rt.saveReports startDay endDay call (files.map cutSingly) ≠ none) :
    ∀ file ∈ files, file.Read → ∀ item ∈ file.items, item.row? ≠ none := by
  intro file listed read item member
  have all : (files.map cutSingly).mapM (rt.processReport startDay endDay) ≠ none := by
    intro failed
    exact saved (by simp [saveReports,streamReports,failed])
  have one := mapM_read all (cutSingly file) (List.mem_map_of_mem listed)
  have read' : (cutSingly file).Read := read
  have each : (cutSingly file).batches.mapM (batchRows startDay endDay) ≠ none := by
    intro failed
    exact one (by simp [processReport,read',failed])
  exact batchRows_single (mapM_read each [item] (List.mem_map_of_mem member))

/-- The costs of exact line items are conserved exactly if all items that are read have a date, no
statement writes one key twice, and what is superseded or beyond a cap costs nothing on any day. -/
theorem conserves_iff (rt : FeedRuntime) (call : Ingestion) (startDay endDay : Nat)
    (files : List ReportFile)
    (exact_ : ∀ file ∈ files, ∀ item ∈ rt.itemCosts file, ExactCost item.2) :
    rt.Conserves call startDay endDay files ↔ rt.Separate call startDay endDay files := by
  -- Whatever is kept is stored, less what is superseded.
  have typed : ∀ value ∈ rt.keptValues startDay endDay files, value.usageType ≠ none :=
    fun value kept => (keptValues_mem kept).1
  have exactKept : ∀ value ∈ rt.keptValues startDay endDay files, ExactCost value.costUsd := by
    intro value kept
    obtain ⟨file,listed,item,there,same⟩ := (keptValues_mem kept).2
    exact same ▸ exact_ file listed item there
  obtain ⟨stored,written,-,-,sums⟩ := upserts_stored rt.database call typed exactKept
  have lacking : ∀ day, startDay ≤ day → day ≤ endDay → ((storedOn stored day : ℚ) =
      rt.dayCost files day ↔ valuesOn day (superseded call (rt.keptValues startDay endDay files) ++
        rt.cappedValues startDay endDay files) = 0) := by
    intro day first last
    rw [← kept_and_capped rt files first last,← sums day,valuesOn_append]
    constructor
    · intro same
      linarith
    · intro none_
      linarith
  constructor
  · rintro ⟨table,summary,saved,-,days,-,-,-,cuts⟩
    have cut := (cuts _ (cutSingly_same files)).1
    have dated := dated_of_cuts (cut.trans_ne (Option.some_ne_none table))
    rw [(reports_dated rt call startDay endDay dated).1] at saved
    have apart := bulkUpserts_apart saved
    rw [bulkUpserts_eq apart,batches_flatten,written] at saved
    obtain rfl := Option.some.inj saved
    exact ⟨dated,apart,fun day first last => (lacking day first last).mp (days day first last)⟩
  · rintro ⟨dated,apart,lost⟩
    obtain ⟨saves,sums_up⟩ := reports_dated rt call startDay endDay dated
    rw [bulkUpserts_eq apart,batches_flatten,written] at saves
    have counts := mergeAll_counts (files.map (rt.countedRows startDay endDay)) counts_empty
    rw [zero_add,← List.flatMap_def,countedRows_range] at counts
    refine ⟨stored,_,saves,sums_up,fun day first last => (lacking day first last).mpr
      (lost day first last),counts.total,counts.services.1,counts.regions.1,fun other same => ?_⟩
    obtain ⟨saves',sums_up'⟩ := reports_dated rt call startDay endDay (dated_same same dated)
    have rows : other.map (rt.countedRows startDay endDay) =
        files.map (rt.countedRows startDay endDay) := countedRows_same same
    have kept : rt.keptValues startDay endDay other = rt.keptValues startDay endDay files := by
      rw [keptValues_eq,rows,← keptValues_eq]
    rw [saves',sums_up',kept,rows,bulkUpserts_eq apart,batches_flatten,written]
    exact ⟨rfl,rfl⟩

end Conservation

namespace Sample

def hourItem (cost : Int) (service : String) : LineItem :=
  ⟨.valid 0,[("lineItem/UnblendedCost",.int cost),("lineItem/ProductCode",.str service)]⟩

def hourFile (items : List LineItem) : ReportFile :=
  ⟨["lineItem/UsageStartDate","lineItem/UnblendedCost","lineItem/ProductCode"],[items]⟩

def connectionCall : Ingestion := ⟨1,2,true,none⟩

/-- Two volumes' items, which share hour, service, region and usage type. -/
def sharedHour : ReportFile := hourFile [hourItem 2 "AmazonEC2",hourItem 3 "AmazonEC2"]

def twoServices : ReportFile := hourFile [hourItem 2 "AmazonEC2",hourItem 3 "AmazonS3"]

def localRuntime : FeedRuntime := { feedRuntime with postgresql := false }

theorem sharedHour_costs : localRuntime.itemCosts sharedHour = [(0,⟨2,0⟩),(0,⟨3,0⟩)] := by
  decide +kernel

theorem twoServices_costs : feedRuntime.itemCosts twoServices = [(0,⟨2,0⟩),(0,⟨3,0⟩)] := by
  decide +kernel

theorem exact_dollars (dollars : Int) (fits : costColumn ⟨dollars,0⟩ = some (dollars * 100000000)) :
    ExactCost ⟨dollars,0⟩ := by
  refine ⟨_,fits,?_⟩
  norm_num [Decimal.inUnits]

end Sample

open Sample in
/-- The items of two services are conserved. -/
theorem conserves_services : feedRuntime.Conserves connectionCall 0 0 [twoServices] := by
  refine (conserves_iff feedRuntime connectionCall 0 0 [twoServices] ?_).mpr ⟨?_,?_,?_⟩
  · intro file listed item there
    obtain rfl := List.mem_singleton.mp listed
    rw [twoServices_costs] at there
    simp only [List.mem_cons,List.not_mem_nil,or_false] at there
    rcases there with rfl | rfl
    · exact exact_dollars 2 (by decide)
    · exact exact_dollars 3 (by decide)
  · decide +kernel
  · decide +kernel
  · intro day _ _
    have none_ : superseded connectionCall (feedRuntime.keptValues 0 0 [twoServices]) ++
        feedRuntime.cappedValues 0 0 [twoServices] = [] :=
      List.length_eq_zero_iff.mp (by decide +kernel)
    rw [none_]
    rfl

open Sample in
/-- Of two items that share an hour's key the second is written over the first, or PostgreSQL refuses
the statement. -/
theorem shared_hour_lost : ¬localRuntime.Conserves connectionCall 0 0 [sharedHour] ∧
    ¬feedRuntime.Conserves connectionCall 0 0 [sharedHour] := by
  refine ⟨?_,?_⟩
  · rintro ⟨table,summary,saved,-,days,-⟩
    have three : (localRuntime.saveReports 0 0 connectionCall [sharedHour]).map
        (fun table => storedOn table 0) = some 300000000 := by decide +kernel
    rw [saved] at three
    have stored : storedOn table 0 = 300000000 := Option.some.inj three
    have five := days 0 (Nat.le_refl 0) (Nat.le_refl 0)
    simp only [FeedRuntime.dayCost,List.flatMap_cons,List.flatMap_nil,sharedHour_costs] at five
    rw [stored] at five
    norm_num [exactSum,Decimal.inUnits] at five
  · rintro ⟨table,summary,saved,-⟩
    have refused : (feedRuntime.saveReports 0 0 connectionCall [sharedHour]).isNone = true := by
      decide +kernel
    rw [saved] at refused
    simp at refused

end Valdrics.Reporting

import Valdrics.CostFeeds

/-! Usage reports of AWS as they are delivered, file by file and batch by batch: what a file's
summary counts and what the stream of its records stores. -/
namespace Valdrics.Reporting

open ZombieScan (Item assign)
open PythonText (orDefault)

inductive UsageDate where
  | valid (instant : Nat)
  | missing
  | malformed
  deriving DecidableEq

structure LineItem where
  usageDate : UsageDate
  cells : Item

structure ReportFile where
  columns : List String
  batches : List (List LineItem)

def ReportFile.items (file : ReportFile) : List LineItem := file.batches.flatten

def ReportFile.Read (file : ReportFile) : Prop :=
  (columnOf file.columns "date").isSome ∧ (columnOf file.columns "cost").isSome

instance (file : ReportFile) : Decidable file.Read := inferInstanceAs (Decidable (_ ∧ _))

def LineItem.row? (item : LineItem) : Option CurRow :=
  match item.usageDate with
  | .valid instant => some ⟨instant,item.cells⟩
  | _ => none

def CurRow.day (row : CurRow) : Nat := row.usageStart / dayMicros

/-- A summary; its sums are exact, as those of numbers below 28 digits are. -/
structure UsageSummary where
  totalCost : Decimal := ⟨0,0⟩
  records : List FeedRow := []
  byService : List (String × Decimal) := []
  byRegion : List (String × Decimal) := []

/-- `amounts[key] = amounts.get(key, Decimal("0")) + amount`. -/
def addAmount (amounts : List (String × Decimal)) (key : String) (amount : Decimal) :
    List (String × Decimal) :=
  assign amounts key (((amounts.lookup key).getD ⟨0,0⟩).plus amount)

/-- A record in the loop of `process_parquet_streamingly`. -/
def UsageSummary.count (summary : UsageSummary) (record : FeedRow) : UsageSummary where
  totalCost := summary.totalCost.plus record.costUsd
  records := if summary.records.length < summaryRecordCap then summary.records ++ [record]
    else summary.records
  byService := addAmount summary.byService (orDefault record.service "Unknown") record.costUsd
  byRegion := addAmount summary.byRegion (orDefault record.region "Unknown") record.costUsd

def fileRecordCap : Nat := 10000

/-- A file in the loop of `process_files_in_range`. -/
def UsageSummary.merge (summary file : UsageSummary) : UsageSummary where
  totalCost := summary.totalCost.plus file.totalCost
  records := summary.records ++ file.records.take fileRecordCap
  byService := file.byService.foldl (fun amounts entry => addAmount amounts entry.1 entry.2)
    summary.byService
  byRegion := file.byRegion.foldl (fun amounts entry => addAmount amounts entry.1 entry.2)
    summary.byRegion

/-- The rows of a batch that are in the window; `none` raises. A batch with a malformed date cannot
be converted, one without any date has no first day, and one outside the window is skipped. -/
def batchRows (startDay endDay : Nat) (batch : List LineItem) : Option (List CurRow) :=
  if batch = [] then some []
  else if ∃ item ∈ batch, item.usageDate = .malformed then none
  else
    match batch.filterMap LineItem.row? with
    | [] => none
    | first :: rest =>
      let chunkMin := rest.foldl (fun least row => min least row.day) first.day
      let chunkMax := rest.foldl (fun most row => max most row.day) first.day
      if chunkMax < startDay ∨ endDay < chunkMin then some []
      else (batch.mapM LineItem.row?).map fun rows =>
        rows.filter fun row => startDay ≤ row.day ∧ row.day ≤ endDay

namespace FeedRuntime

variable (rt : FeedRuntime) (startDay endDay : Nat)

/-- `process_parquet_streamingly`; `none` raises. -/
def processReport (file : ReportFile) : Option UsageSummary :=
  if file.Read then
    (file.batches.mapM (batchRows startDay endDay)).map fun batches =>
      (batches.flatten.filterMap (rt.parseCurRow file.columns)).foldl UsageSummary.count {}
  else some {}

/-- `stream_cost_and_usage`; `none` raises. -/
def streamReports (files : List ReportFile) : Option (List FeedRow) :=
  (files.mapM (rt.processReport startDay endDay)).map fun summaries =>
    summaries.flatMap UsageSummary.records

/-- `get_daily_costs`; `none` raises. -/
def getDailyCosts (files : List ReportFile) : Option UsageSummary :=
  (files.mapM (rt.processReport startDay endDay)).map fun summaries =>
    summaries.foldl UsageSummary.merge {}

/-- The stream stored by `save_records_stream`; `none` raises. -/
def saveReports (call : Ingestion) (files : List ReportFile) : Option Table :=
  (rt.streamReports startDay endDay files).bind fun rows =>
    rt.database.saveStream call {} (rows.map FeedRow.record)

end FeedRuntime

end Valdrics.Reporting

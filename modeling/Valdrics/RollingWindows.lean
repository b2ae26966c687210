import Valdrics.BillingExport

/-! Ingestion jobs over a growing export. A window that cuts a day writes the part of the day that
is inside over the total of the whole day. -/
namespace Valdrics.Reporting

open Enforcement (Uuid)

inductive IngestionWindow where
  | rolling
  | backfill (startDay endDay : Nat)

namespace IngestionWindow

def startDate (now : Nat) : IngestionWindow → Nat
  | .rolling => now - 7 * dayMicros
  | .backfill startDay _ => startDay * dayMicros

def endDate (now : Nat) : IngestionWindow → Nat
  | .rolling => now
  | .backfill _ endDay => endDay * dayMicros + (dayMicros - 1)

end IngestionWindow

structure WindowRun where
  startDate : Nat
  endDate : Nat
  exported : List ExportRow

def ContainsDay (startDate endDate day : Nat) : Prop :=
  startDate ≤ day * dayMicros ∧ day * dayMicros + (dayMicros - 1) ≤ endDate

instance (startDate endDate day : Nat) : Decidable (ContainsDay startDate endDate day) :=
  inferInstanceAs (Decidable (_ ∧ _))

structure IngestionState where
  exported : List ExportRow
  table : Table := {}
  runs : List WindowRun := []

inductive IngestionEvent where
  | append (rows : List ExportRow)
  | ingest (jobId : Uuid) (now : Nat) (window : IngestionWindow)

structure CostConnection where
  tenantId : Uuid
  accountId : Uuid

namespace Database

variable (database : Database) (connection : CostConnection)

/-- The connection's part of `CostIngestionHandler.execute`; a job that raises changes nothing. -/
def ingest (s : IngestionState) (jobId : Uuid) (now : Nat) (window : IngestionWindow) :
    IngestionState × Bool :=
  let startDate := window.startDate now
  let endDate := window.endDate now
  if endDate < startDate then (s,false)
  else
    let rows := database.getCostAndUsage s.exported startDate endDate
    match database.saveStream ⟨connection.tenantId,connection.accountId,true,some jobId⟩ s.table
        (rows.map GcpCost.record) with
    | none => (s,false)
    | some table => ({ s with table,runs := s.runs ++ [⟨startDate,endDate,s.exported⟩] },true)

def execIngestion (s : IngestionState) : IngestionEvent → IngestionState × Bool
  | .append rows => ({ s with exported := s.exported ++ rows },true)
  | .ingest jobId now window => database.ingest connection s jobId now window

def held (rows : List ExportRow) : Option Int :=
  if rows = [] then none else costColumn (database.viaFloat (sumOf (rows.map (·.cost))))

end Database

def dayKey (connection : CostConnection) (service : String) (day : Nat) : CostKey where
  accountId := connection.accountId
  timestamp := day * dayMicros
  service := service
  region := "global"
  usageType := some "subscription"
  recordedAt := day
  resourceId := ""

def dayRows (rows : List ExportRow) (service : String) (day : Nat) : List ExportRow :=
  members rows (service,day * dayMicros)

def lastRun (s : IngestionState) (day : Nat) : Option WindowRun :=
  (s.runs.filter fun run => ContainsDay run.startDate run.endDate day).getLast?

def WholeDays (database : Database) (connection : CostConnection) (s : IngestionState) : Prop :=
  ∀ service day run, lastRun s day = some run →
    costAt s.table (dayKey connection service day) = database.held (dayRows run.exported service day)

def Fits (database : Database) (exported : List ExportRow) (startDate endDate : Nat) : Prop :=
  ∀ row ∈ costQuery exported startDate endDate, costColumn (database.viaFloat row.costUsd) ≠ none

/-- A window contains a day that an earlier one contained, or has no row of it, or the rows it has
make the same total. -/
def KeepsDays (database : Database) (s : IngestionState) : IngestionEvent → Prop
  | .append _ => True
  | .ingest _ now window =>
    window.startDate now ≤ window.endDate now →
    Fits database s.exported (window.startDate now) (window.endDate now) →
    ∀ service day run, lastRun s day = some run →
      ContainsDay (window.startDate now) (window.endDate now) day ∨
      dayRows (selected s.exported (window.startDate now) (window.endDate now)) service day = [] ∨
      database.held (dayRows (selected s.exported (window.startDate now) (window.endDate now))
        service day) = database.held (dayRows run.exported service day)

section Values

variable {database : Database} {connection : CostConnection} {exported : List ExportRow}
  {startDate endDate : Nat}

def queryValue (database : Database) (row : QueryRow) : CostValue := (database.parseRow row).record.value

theorem group_day (row : ExportRow) : row.group = (row.service,row.usageStartTime / dayMicros * dayMicros) :=
  rfl

theorem day_of_mul (day : Nat) : day * dayMicros / dayMicros = day :=
  Nat.mul_div_cancel day (by decide)

theorem queryValue_key (jobId : Uuid) {row : QueryRow} (named : row.service ≠ "") {day : Nat}
    (truncated : row.timestamp = day * dayMicros) :
    (queryValue database row).key ⟨connection.tenantId,connection.accountId,true,some jobId⟩ =
      dayKey connection row.service day := by
  simp only [queryValue,Database.parseRow,GcpCost.record,StreamRecord.value,CostValue.key,dayKey,
    truncated,day_of_mul,Option.getD_some,PythonText.orDefault,named,if_false]
  rfl

theorem costQuery_day {row : QueryRow} (listed : row ∈ costQuery exported startDate endDate) :
    ∃ service day, service ≠ "" ∧ row.service = service ∧ row.timestamp = day * dayMicros ∧
      dayRows (selected exported startDate endDate) service day ≠ [] ∧
      row.costUsd = sumOf ((dayRows (selected exported startDate endDate) service day).map (·.cost)) := by
  obtain ⟨group,grouped,rfl⟩ := mem_costQuery.mp listed
  obtain ⟨source,there,rfl⟩ := List.mem_map.mp grouped
  refine ⟨source.service,source.usageStartTime / dayMicros,source.named,rfl,rfl,?_,rfl⟩
  exact List.ne_nil_of_mem (List.mem_filter.mpr ⟨there,by simp [group_day]⟩)

theorem day_costQuery {service : String} {day : Nat}
    (some_rows : dayRows (selected exported startDate endDate) service day ≠ []) :
    ∃ row ∈ costQuery exported startDate endDate, row.service = service ∧
      row.timestamp = day * dayMicros ∧
      row.costUsd = sumOf ((dayRows (selected exported startDate endDate) service day).map (·.cost)) := by
  obtain ⟨source,listed⟩ := List.exists_mem_of_ne_nil _ some_rows
  obtain ⟨there,same⟩ := List.mem_filter.mp listed
  refine ⟨_,mem_costQuery.mpr ⟨_,List.mem_map.mpr ⟨source,there,of_decide_eq_true same⟩,rfl⟩,rfl,rfl,rfl⟩

theorem saved_values (database : Database) (rows : List QueryRow) :
    (((rows.map database.parseRow).map GcpCost.record).map StreamRecord.value) =
      rows.map (queryValue database) := by
  simp only [List.map_map]
  rfl

theorem values_distinct (database : Database) (connection : CostConnection)
    (exported : List ExportRow) (startDate endDate : Nat) (jobId : Uuid) :
    ((costQuery exported startDate endDate).map (queryValue database)).Pairwise fun one two =>
      one.key ⟨connection.tenantId,connection.accountId,true,some jobId⟩ ≠
        two.key ⟨connection.tenantId,connection.accountId,true,some jobId⟩ := by
  rw [List.pairwise_map]
  refine costQuery_distinct.imp_of_mem ?_
  intro one two first second apart same
  obtain ⟨service,day,named,rfl,time,_⟩ := costQuery_day first
  obtain ⟨service',day',named',rfl,time',_⟩ := costQuery_day second
  rw [queryValue_key jobId named time,queryValue_key jobId named' time'] at same
  have services : one.service = two.service := congrArg CostKey.service same
  have days : day = day' := congrArg CostKey.recordedAt same
  exact apart (by rw [services,time,time',days])

theorem saveStream_window (connection : CostConnection) {table : Table} (jobId : Uuid)
    (keyed : Database.Keyed table) (fits : Fits database exported startDate endDate) : ∃ next,
      database.saveStream ⟨connection.tenantId,connection.accountId,true,some jobId⟩ table
        ((database.getCostAndUsage exported startDate endDate).map GcpCost.record) = some next ∧
      Database.Keyed next ∧ ∀ service day, costAt next (dayKey connection service day) =
        if dayRows (selected exported startDate endDate) service day = [] then
          costAt table (dayKey connection service day)
        else database.held (dayRows (selected exported startDate endDate) service day) := by
  have distinct := values_distinct database connection exported startDate endDate jobId
  have saved := saved_values database (costQuery exported startDate endDate)
  have typed : ∀ value ∈ (costQuery exported startDate endDate).map (queryValue database),
      value.usageType ≠ none := by
    intro value listed
    obtain ⟨row,_,rfl⟩ := List.mem_map.mp listed
    simp [queryValue,Database.parseRow,GcpCost.record,StreamRecord.value]
  have fitting : ∀ value ∈ (costQuery exported startDate endDate).map (queryValue database),
      costColumn value.costUsd ≠ none := by
    intro value listed
    obtain ⟨row,there,rfl⟩ := List.mem_map.mp listed
    exact fits row there
  obtain ⟨next,wrote,keyed',theirs,others⟩ := upserts_store database keyed typed distinct fitting
  rw [← saved] at distinct
  refine ⟨next,?_,keyed',fun service day => ?_⟩
  · rw [Database.getCostAndUsage,saveStream_eq distinct,saved]
    exact wrote
  · by_cases none_there : dayRows (selected exported startDate endDate) service day = []
    · rw [if_pos none_there]
      refine others _ fun value listed same => ?_
      obtain ⟨row,there,rfl⟩ := List.mem_map.mp listed
      obtain ⟨service',day',named,rfl,time,some_rows,_⟩ := costQuery_day there
      rw [queryValue_key jobId named time] at same
      have services : row.service = service := congrArg CostKey.service same
      have days : day' = day := congrArg CostKey.recordedAt same
      rw [services,days] at some_rows
      exact some_rows none_there
    · obtain ⟨row,there,rfl,time,total⟩ := day_costQuery none_there
      obtain ⟨service,_,named,same,_⟩ := costQuery_day there
      have stored := theirs _ (List.mem_map_of_mem there)
      rw [queryValue_key jobId (same ▸ named) time] at stored
      rw [stored,if_neg none_there,Database.held,if_neg none_there,← total]
      rfl

/-- A total that the column cannot hold fails the job. -/
theorem saveStream_unfit (connection : CostConnection) (table : Table) (jobId : Uuid)
    (unfit : ¬Fits database exported startDate endDate) :
    database.saveStream ⟨connection.tenantId,connection.accountId,true,some jobId⟩ table
      ((database.getCostAndUsage exported startDate endDate).map GcpCost.record) = none := by
  have distinct := values_distinct database connection exported startDate endDate jobId
  have saved := saved_values database (costQuery exported startDate endDate)
  simp only [Fits,not_forall,not_not] at unfit
  obtain ⟨row,there,overflows⟩ := unfit
  rw [← saved] at distinct
  rw [Database.getCostAndUsage,saveStream_eq distinct,saved]
  exact upserts_fail (queryValue database row) (List.mem_map_of_mem there) overflows table

theorem mem_dayRows {rows : List ExportRow} {service : String} {day : Nat} {row : ExportRow}
    (listed : row ∈ dayRows rows service day) : row ∈ rows ∧ row.usageStartTime / dayMicros = day := by
  obtain ⟨there,same⟩ := List.mem_filter.mp listed
  have times : row.usageStartTime / dayMicros * dayMicros = day * dayMicros :=
    (Prod.mk.inj (of_decide_eq_true same)).2
  exact ⟨there,Nat.eq_of_mul_eq_mul_right (by decide) times⟩

theorem dayRows_contained {day : Nat} (contains : ContainsDay startDate endDate day) (service : String) :
    dayRows (selected exported startDate endDate) service day = dayRows exported service day := by
  simp only [dayRows,members,selected,List.filter_filter]
  refine List.filter_congr fun row listed => ?_
  by_cases same : row.group = (service,day * dayMicros)
  · have inDay := (mem_dayRows (List.mem_filter.mpr ⟨listed,decide_eq_true same⟩)).2
    obtain ⟨first,last⟩ := contains
    have inside : startDate ≤ row.usageStartTime ∧ row.usageStartTime ≤ endDate := by
      simp only [dayMicros] at first last inDay
      omega
    simp [same,inside]
  · simp [same]

theorem dayRows_selected_empty {service : String} {day : Nat}
    (empty : dayRows exported service day = []) :
    dayRows (selected exported startDate endDate) service day = [] := by
  rw [List.eq_nil_iff_forall_not_mem] at empty ⊢
  intro row listed
  obtain ⟨there,same⟩ := List.mem_filter.mp listed
  exact empty row (List.mem_filter.mpr ⟨(List.mem_filter.mp there).1,same⟩)

end Values

section Law

variable {database : Database} {connection : CostConnection} {s : IngestionState}

structure Ingested (database : Database) (connection : CostConnection) (s : IngestionState) : Prop where
  keyed : Database.Keyed s.table
  whole : WholeDays database connection s
  absent : ∀ service day, dayRows s.exported service day = [] →
    costAt s.table (dayKey connection service day) = none

theorem lastRun_append (s : IngestionState) (table : Table) (run : WindowRun) (day : Nat) :
    lastRun { s with table,runs := s.runs ++ [run] } day =
      if ContainsDay run.startDate run.endDate day then some run else lastRun s day := by
  simp only [lastRun,List.filter_append]
  by_cases contains : ContainsDay run.startDate run.endDate day
  · simp [contains]
  · simp [contains]

theorem ingest_cases (database : Database) (connection : CostConnection) (jobId : Uuid) (now : Nat)
    (window : IngestionWindow) (keyed : Database.Keyed s.table) :
    (¬(window.startDate now ≤ window.endDate now ∧
        Fits database s.exported (window.startDate now) (window.endDate now)) ∧
      database.ingest connection s jobId now window = (s,false)) ∨
    (window.startDate now ≤ window.endDate now ∧
      Fits database s.exported (window.startDate now) (window.endDate now) ∧ ∃ table,
        database.ingest connection s jobId now window = ({ s with
          table,runs := s.runs ++ [⟨window.startDate now,window.endDate now,s.exported⟩] },true) ∧
        Database.Keyed table ∧ ∀ service day, costAt table (dayKey connection service day) =
          if dayRows (selected s.exported (window.startDate now) (window.endDate now)) service day = []
            then costAt s.table (dayKey connection service day)
          else database.held
            (dayRows (selected s.exported (window.startDate now) (window.endDate now)) service day)) := by
  by_cases ordered : window.startDate now ≤ window.endDate now
  · by_cases fits : Fits database s.exported (window.startDate now) (window.endDate now)
    · obtain ⟨table,saved,keyed',stores⟩ := saveStream_window connection jobId keyed fits
      refine .inr ⟨ordered,fits,table,?_,keyed',stores⟩
      simp only [Database.ingest,if_neg (Nat.not_lt.mpr ordered),saved]
    · refine .inl ⟨fun both => fits both.2,?_⟩
      have failed := saveStream_unfit connection s.table jobId fits
      simp only [Database.ingest,if_neg (Nat.not_lt.mpr ordered),failed]
  · refine .inl ⟨fun both => ordered both.1,?_⟩
    simp only [Database.ingest,if_pos (Nat.lt_of_not_le ordered)]

theorem Ingested.keeps (ingested : Ingested database connection s) (event : IngestionEvent)
    (guarded : KeepsDays database s event) :
    Ingested database connection (database.execIngestion connection s event).1 := by
  cases event with
  | append rows =>
    refine ⟨ingested.keyed,ingested.whole,fun service day empty => ingested.absent service day ?_⟩
    have both : dayRows s.exported service day ++ dayRows rows service day = [] := by
      simpa [dayRows,members,Database.execIngestion] using empty
    exact (List.append_eq_nil_iff.mp both).1
  | ingest jobId now window =>
    rcases ingest_cases database connection jobId now window ingested.keyed with
      ⟨_,failed⟩ | ⟨ordered,fits,table,done,keyed,stores⟩
    · simp only [Database.execIngestion,failed]
      exact ingested
    · simp only [Database.execIngestion,done]
      refine ⟨keyed,fun service day run last => ?_,fun service day empty => ?_⟩
      · rw [lastRun_append] at last
        rw [stores]
        by_cases contains : ContainsDay (window.startDate now) (window.endDate now) day
        · rw [if_pos contains] at last
          obtain rfl := Option.some.inj last
          rw [dayRows_contained contains]
          split
          next empty => rw [ingested.absent service day empty,Database.held,if_pos empty]
          next some_rows => rfl
        · rw [if_neg contains] at last
          rcases guarded ordered fits service day run last with inside | none_there | same
          · exact absurd inside contains
          · rw [if_pos none_there]
            exact ingested.whole service day run last
          · split
            · exact ingested.whole service day run last
            · exact same
      · rw [stores,if_pos (dayRows_selected_empty empty)]
        exact ingested.absent service day empty

/-- A window that cuts a day to another total leaves that total. -/
theorem Ingested.breaks (ingested : Ingested database connection s) (event : IngestionEvent)
    (cuts : ¬KeepsDays database s event) :
    ¬WholeDays database connection (database.execIngestion connection s event).1 := by
  cases event with
  | append rows => exact absurd trivial cuts
  | ingest jobId now window =>
    simp only [KeepsDays,not_forall,not_or] at cuts
    obtain ⟨ordered,fits,service,day,run,last,outside,some_rows,differs⟩ := cuts
    rcases ingest_cases database connection jobId now window ingested.keyed with
      ⟨refused,_⟩ | ⟨_,_,table,done,keyed,stores⟩
    · exact absurd ⟨ordered,fits⟩ refused
    · simp only [Database.execIngestion,done]
      intro whole
      have still := whole service day run (by rw [lastRun_append,if_neg outside]; exact last)
      rw [stores,if_neg some_rows] at still
      exact differs still

/-- The stored costs are whole days' in every state of a run exactly if no job's window cuts a day
that an earlier window contained to another total. -/
theorem wholeDays_always_iff (database : Database) (connection : CostConnection)
    (exported : List ExportRow) (events : List IngestionEvent) :
    Always (database.execIngestion connection) (WholeDays database connection) { exported } events ↔
      EachStep (database.execIngestion connection) (KeepsDays database) { exported } events := by
  refine always_iff_eachStep _ _ _ (Ingested database connection) (fun s ingested => ingested.whole)
    (fun s event ingested guarded => ingested.keeps event guarded)
    (fun s event ingested cuts => ingested.breaks event cuts) _ _ ⟨?_,?_,?_⟩
  · exact ⟨List.nodup_nil,fun row listed => by simp at listed⟩
  · intro service day run last
    simp [lastRun] at last
  · intro service day _
    rfl

end Law

namespace Sample

def exactDatabase : Database := ⟨true,fun amount => amount⟩

def billingConnection : CostConnection := ⟨1,2⟩

def tenthDay : List ExportRow :=
  [{ usageStartTime := 10 * dayMicros + 3600000000,service := "Compute Engine",cost := ⟨5,0⟩ },
    { usageStartTime := 10 * dayMicros + 46800000000,service := "Compute Engine",cost := ⟨7,0⟩ }]

def noonJobs : List IngestionEvent :=
  [.append tenthDay,.ingest 1 (12 * dayMicros + 43200000000) .rolling,
    .ingest 2 (17 * dayMicros + 43200000000) .rolling]

end Sample

/-- The second job leaves the afternoon's cost as that of the day. -/
theorem noon_job_cuts_day : ¬Always (Sample.exactDatabase.execIngestion Sample.billingConnection)
    (WholeDays Sample.exactDatabase Sample.billingConnection) { exported := [] } Sample.noonJobs := by
  intro always
  have stored := always.2.2.2 "Compute Engine" 10 _ rfl
  exact absurd stored (by decide +kernel)

end Valdrics.Reporting

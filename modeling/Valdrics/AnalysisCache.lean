import Valdrics.DateText
import Valdrics.JsonValues

/-! The analyses that are kept for a day, and the delta mode, which answers from a kept analysis
unless it finds records of the last days. It looks for them in the analysis. -/
namespace Valdrics.AnalysisCache

open Enforcement (Json Uuid)

structure CostRecord where
  date : Nat
  amount : Decimal
  amountRaw : Option Decimal := none
  currency : String := "USD"
  service : Option String := none
  region : Option String := none
  usageType : Option String := none
  tags : List (String × String) := []
  deriving DecidableEq

/-- `record.date.date()`. -/
def CostRecord.day (record : CostRecord) : Nat := record.date / Calendar.microsPerDay

/-- What a call raises: an error that its callers handle, or another. -/
inductive Failure where
  | handled
  | other
  deriving DecidableEq

inductive LoadFailure where
  | decode
  | handled
  | other
  deriving DecidableEq

/-- The functions that `process_analysis_results` is given. -/
structure Analyzer where
  validateOutput : String → Except Failure Json
  alertAnomalies : Json → Except Failure Unit
  stripMarkdown : String → String
  loads : String → Except LoadFailure Json
  forecast : List CostRecord → Except Failure Json
  promptVersion : String
  schemaVersion : String
  responseNormalizerVersion : String

def contentError (error : String) (rawContent : Json) : Json :=
  .obj [("error",.str error),("raw_content",rawContent)]

def listOrEmpty : Option Json → Json
  | some (.arr items) => .arr items
  | _ => .arr []

def dictOrEmpty : Option Json → Json
  | some (.obj members) => .obj members
  | _ => .obj []

/-- `normalize_analysis_payload`. -/
def normalizeAnalysisPayload (llmResult : List (String × Json)) : List (String × Json) :=
  [("insights",listOrEmpty (llmResult.lookup "insights")),
    ("recommendations",listOrEmpty (llmResult.lookup "recommendations")),
    ("anomalies",listOrEmpty (llmResult.lookup "anomalies")),
    ("forecast",dictOrEmpty (llmResult.lookup "forecast"))]

structure Response where
  content : String
  provider : Option String
  model : Option String
  metadataKeys : List String

namespace Analyzer

variable (analyzer : Analyzer)

def parseContent (content : String) : Except Failure Json :=
  match analyzer.loads (analyzer.stripMarkdown content) with
  | .ok result => .ok result
  | .error .decode => .ok (contentError "AI analysis format invalid" (.str content))
  | .error .handled => .ok (contentError "AI analysis processing failed" (.str content))
  | .error .other => .error .other

def llmResult (content : String) : Except Failure Json :=
  match analyzer.validateOutput content with
  | .ok result =>
    match analyzer.alertAnomalies result with
    | .ok () => .ok result
    | .error .handled => analyzer.parseContent content
    | .error .other => .error .other
  | .error .handled => analyzer.parseContent content
  | .error .other => .error .other

def objectOf : Json → List (String × Json)
  | .obj members => members
  | raw => [("error",.str "AI analysis produced non-object payload"),("raw_content",raw)]

def orUnknown (name : Option String) : Json := .str ((name.filter (· ≠ "")).getD "unknown")

def analysisContract (response : Response) : Json :=
  .obj [("schema_version",.str analyzer.schemaVersion),
    ("prompt_version",.str analyzer.promptVersion),
    ("response_normalizer_version",.str analyzer.responseNormalizerVersion),
    ("provider",orUnknown response.provider),("model",orUnknown response.model),
    ("llm_response_metadata_keys",
      .arr ((response.metadataKeys.mergeSort (· ≤ ·)).map Json.str))]

/-- `process_analysis_results` up to the write of the cache. -/
def finalResult (records : List CostRecord) (response : Response) : Except Failure Json := do
  let result := objectOf (← analyzer.llmResult response.content)
  let symbolicForecast ← analyzer.forecast records
  return .obj (normalizeAnalysisPayload result ++ [("symbolic_forecast",symbolicForecast),
    ("llm_raw",.obj result),("analysis_contract",analyzer.analysisContract response)])

end Analyzer

abbrev Cache := Table Uuid (Json × Nat)

def analysisTtl : Nat := 24 * 3600 * Calendar.microsPerSecond

namespace Cache

/-- `CacheService.get_analysis`. -/
def getAnalysis (cache : Cache) (tenant : Uuid) (now : Nat) : Option Json :=
  ((cache.find tenant).filter fun kept => now < kept.2).map Prod.fst

/-- `CacheService.set_analysis`. -/
def setAnalysis (cache : Cache) (tenant : Uuid) (analysis : Json) (now : Nat) : Cache :=
  cache.upsert tenant (analysis,now + analysisTtl) fun _ => (analysis,now + analysisTtl)

end Cache

/-- `process_analysis_results`. -/
def Analyzer.processAnalysisResults (analyzer : Analyzer) (cache : Cache) (tenant : Option Uuid)
    (records : List CostRecord) (response : Response) (now : Nat) : Except Failure (Json × Cache) := do
  let result ← analyzer.finalResult records response
  return (result,tenant.elim cache fun tenant => cache.setAnalysis tenant result now)

structure Settings where
  enableDeltaAnalysis : Bool
  deltaAnalysisDays : Int

/-- What `check_cache_and_delta` returns, and the records that it leaves for the analysis. -/
structure Answer where
  analysis : Option Json
  isDelta : Bool
  recordsOverride : Option (List CostRecord)
  deriving Inhabited

/-- A record of the loop: a dictionary, an object of the summary, or a value without a date. -/
inductive RawRecord where
  | dict (members : List (String × Json))
  | record (record : CostRecord)
  | plain

def RawRecord.ofJson : Json → RawRecord
  | .obj members => .dict members
  | _ => .plain

/-- The records over which the loop goes; `none` raises. -/
def rawRecords (analysis : Json) (records : List CostRecord) : Option (List RawRecord) :=
  match analysis with
  | .obj members =>
    match members.lookup "records" with
    | none => some []
    | some (.arr items) => some (items.map .ofJson)
    | some (.obj entries) => some (entries.map fun _ => .plain)
    | some (.str text) => some (text.toList.map fun _ => .plain)
    | some _ => none
  | _ => some (records.map .record)

/-- The day of a record, if it has a date of a known form; `none` raises. -/
def recordDate : RawRecord → Option (Option Nat)
  | .dict members =>
    match members.lookup "date" with
    | some (.str text) => some (DateText.fromIsoFormat (String.ofList (text.toList.take 10)))
    | _ => some none
  | .record record => some (some record.day)
  | .plain => none

/-- `cost_record_cls(**record)` for a dictionary, a copy for an object. -/
def analysisRecord (costRecordCls : List (String × Json) → Option CostRecord) :
    RawRecord → Option CostRecord
  | .dict members => costRecordCls members
  | .record record => some record
  | .plain => none

def recordsToAnalyze (costRecordCls : List (String × Json) → Option CostRecord) (cutoff : Int) :
    List RawRecord → Option (List CostRecord)
  | [] => some []
  | raw :: rest => do
    let day ← recordDate raw
    if day.any fun day => cutoff ≤ (day : Int) then
      return (← analysisRecord costRecordCls raw) :: (← recordsToAnalyze costRecordCls cutoff rest)
    else recordsToAnalyze costRecordCls cutoff rest

/-- `date.today() - timedelta(days=...)`; `none` raises. -/
def deltaCutoff (settings : Settings) (now : Nat) : Option Int :=
  let cutoff := (now / Calendar.microsPerDay : Nat) - settings.deltaAnalysisDays
  if 0 ≤ cutoff ∧ cutoff < DateText.daysBeforeYear 10000 then some cutoff else none

/-- `check_cache_and_delta`; `none` raises. -/
def checkCacheAndDelta (costRecordCls : List (String × Json) → Option CostRecord)
    (settings : Settings) (cache : Cache) (tenant : Option Uuid) (forceRefresh : Bool)
    (records : List CostRecord) (now : Nat) : Option Answer :=
  match tenant with
  | none => some ⟨none,false,none⟩
  | some tenant =>
    match (if forceRefresh then none else cache.getAnalysis tenant now).filter JsonValue.truthy with
    | none => some ⟨if forceRefresh then none else cache.getAnalysis tenant now,false,none⟩
    | some analysis =>
      if settings.enableDeltaAnalysis then do
        let cutoff ← deltaCutoff settings now
        let selected ← recordsToAnalyze costRecordCls cutoff (← rawRecords analysis records)
        if selected = [] then return ⟨some analysis,false,none⟩
        return ⟨some analysis,true,some selected⟩
      else some ⟨some analysis,false,none⟩

def Reveals (answer : Option Answer) (cutoff : Int) (records : List CostRecord) : Prop :=
  (∃ record ∈ records, cutoff ≤ (record.day : Int)) →
    ∃ answered, answer = some answered ∧ answered.isDelta = true ∧
      answered.recordsOverride = some (records.filter fun record => cutoff ≤ (record.day : Int))

theorem getAnalysis_setAnalysis {cache : Cache} {tenant : Uuid} {analysis : Json} {stored now : Nat}
    (live : now < stored + analysisTtl) :
    (cache.setAnalysis tenant analysis stored).getAnalysis tenant now = some analysis := by
  rw [Cache.getAnalysis,Cache.setAnalysis,Table.find_upsert,if_pos rfl]
  cases cache.find tenant <;> simp [live,Option.filter]

section Stored

variable {analyzer : Analyzer} {earlier kept : Cache} {analysed : List CostRecord}
  {response : Response} {analysis : Json} {storedAt : Nat} {tenant : Uuid}

theorem stored_object
    (stored : analyzer.processAnalysisResults earlier (some tenant) analysed response storedAt =
      .ok (analysis,kept)) :
    ∃ members, analysis = .obj members ∧ members ≠ [] ∧ members.lookup "records" = none := by
  cases parsed : analyzer.llmResult response.content with
  | error failure => simp [Analyzer.processAnalysisResults,Analyzer.finalResult,parsed,bind,
      Except.bind] at stored
  | ok result =>
    cases forecast : analyzer.forecast analysed with
    | error failure => simp [Analyzer.processAnalysisResults,Analyzer.finalResult,parsed,forecast,
        bind,Except.bind] at stored
    | ok symbolicForecast =>
      simp only [Analyzer.processAnalysisResults,Analyzer.finalResult,parsed,forecast,bind,
        Except.bind,pure,Except.pure,Except.ok.injEq,Prod.mk.injEq] at stored
      refine ⟨_,stored.1.symm,?_,?_⟩
      · simp [normalizeAnalysisPayload]
      · simp [normalizeAnalysisPayload,List.lookup_cons]

variable {cache : Cache} {now : Nat} {settings : Settings}
  {costRecordCls : List (String × Json) → Option CostRecord}

/-- With a stored analysis at hand every call answers from the cache, whatever its summary. -/
theorem checkCacheAndDelta_stored (records : List CostRecord)
    (stored : analyzer.processAnalysisResults earlier (some tenant) analysed response storedAt =
      .ok (analysis,kept))
    (held : cache.getAnalysis tenant now = some analysis) :
    checkCacheAndDelta costRecordCls settings cache (some tenant) false records now =
      if settings.enableDeltaAnalysis then
        (deltaCutoff settings now).map fun _ => ⟨some analysis,false,none⟩
      else some ⟨some analysis,false,none⟩ := by
  obtain ⟨members,rfl,filled,absent⟩ := stored_object stored
  have truthy : JsonValue.truthy (.obj members) = true := by
    simpa [JsonValue.truthy] using filled
  have raw : rawRecords (.obj members) records = some [] := by
    simp only [rawRecords,absent]
  simp only [checkCacheAndDelta,held,Bool.false_eq_true,if_false,Option.filter_some,truthy,if_true,
    raw]
  cases deltaCutoff settings now <;> simp [recordsToAnalyze]

/-- Delta mode shows nothing new: only a summary without new records is answered as it should be. -/
theorem reveals_iff {records : List CostRecord} {cutoff : Int}
    (stored : analyzer.processAnalysisResults earlier (some tenant) analysed response storedAt =
      .ok (analysis,kept))
    (held : cache.getAnalysis tenant now = some analysis)
    (enabled : settings.enableDeltaAnalysis = true)
    (cuts : deltaCutoff settings now = some cutoff) :
    Reveals (checkCacheAndDelta costRecordCls settings cache (some tenant) false records now)
      cutoff records ↔ ∀ record ∈ records, (record.day : Int) < cutoff := by
  rw [checkCacheAndDelta_stored records stored held,if_pos enabled,cuts]
  constructor
  · intro reveals record listed
    by_contra late
    obtain ⟨answered,eq,delta,-⟩ := reveals ⟨record,listed,Int.not_lt.mp late⟩
    rw [Option.map_some,Option.some.injEq] at eq
    rw [← eq] at delta
    exact Bool.noConfusion delta
  · rintro old ⟨record,listed,late⟩
    exact absurd (old record listed) (Int.not_lt.mpr late)

end Stored

section Sample

def emptyAnalyzer : Analyzer where
  validateOutput := fun _ => .ok (.obj [("insights",.arr []),("recommendations",.arr []),
    ("anomalies",.arr []),("forecast",.obj [])])
  alertAnomalies := fun _ => .ok ()
  stripMarkdown := id
  loads := fun _ => .ok (.obj [])
  forecast := fun _ => .ok (.obj [("confidence",.str "low"),
    ("reason",.str "Need at least 7 days of data for reliable forecasting."),
    ("forecast",.arr []),("total_forecasted_cost",.str "0"),("model",.str "None"),
    ("accuracy_mape",.null)])
  promptVersion := "valdrics.finops.prompt.fallback.v1"
  schemaVersion := "valdrics.finops.analysis.v1"
  responseNormalizerVersion := "valdrics.finops.response-normalizer.v1"

def emptyResponse : Response := ⟨"{}",some "groq",some "llama-3.3-70b-versatile",[]⟩

def noon : Nat := 739585 * Calendar.microsPerDay + 12 * 3600 * Calendar.microsPerSecond

def todaysCost : CostRecord where
  date := 739585 * Calendar.microsPerDay
  amount := ⟨125,0⟩

def keptAnalysis : Json :=
  .obj [("insights",.arr []),("recommendations",.arr []),("anomalies",.arr []),
    ("forecast",.obj []),
    ("symbolic_forecast",.obj [("confidence",.str "low"),
      ("reason",.str "Need at least 7 days of data for reliable forecasting."),
      ("forecast",.arr []),("total_forecasted_cost",.str "0"),("model",.str "None"),
      ("accuracy_mape",.null)]),
    ("llm_raw",.obj [("insights",.arr []),("recommendations",.arr []),("anomalies",.arr []),
      ("forecast",.obj [])]),
    ("analysis_contract",emptyAnalyzer.analysisContract emptyResponse)]

def keptCache : Cache := Cache.setAnalysis Table.empty 1 keptAnalysis noon

theorem kept_stored :
    emptyAnalyzer.processAnalysisResults Table.empty (some 1) [] emptyResponse noon =
      .ok (keptAnalysis,keptCache) := rfl

theorem kept_held : keptCache.getAnalysis 1 (noon + Calendar.microsPerSecond) = some keptAnalysis :=
  getAnalysis_setAnalysis (by decide +kernel)

/-- A second later. -/
theorem later_hidden :
    Reveals (checkCacheAndDelta (fun _ => none) ⟨true,3⟩ keptCache (some 1) false [todaysCost]
      (noon + Calendar.microsPerSecond)) 739582 [todaysCost] ↔
        ∀ record ∈ [todaysCost], (record.day : Int) < 739582 :=
  reveals_iff kept_stored kept_held rfl (by decide +kernel)

/-- The costs of today stay hidden behind the analysis of a second ago. -/
theorem todaysCost_hidden :
    ¬Reveals (checkCacheAndDelta (fun _ => none) ⟨true,3⟩ keptCache (some 1) false [todaysCost]
      (noon + Calendar.microsPerSecond)) 739582 [todaysCost] := by
  rw [checkCacheAndDelta_stored [todaysCost] kept_stored kept_held]
  intro reveals
  obtain ⟨answered,eq,delta,-⟩ := reveals ⟨todaysCost,by simp,by decide +kernel⟩
  have cuts : deltaCutoff ⟨true,3⟩ (noon + Calendar.microsPerSecond) = some 739582 := by
    decide +kernel
  rw [if_pos rfl,cuts,Option.map_some,Option.some.injEq] at eq
  rw [← eq] at delta
  exact Bool.noConfusion delta

end Sample

end Valdrics.AnalysisCache

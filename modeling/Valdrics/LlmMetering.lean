import Valdrics.LlmQuota

/-! The analyses of one tenant, one after the other. Both analyzers reserve, call the model
and record what it used; the cost analyzer records only if the reserved amount is not zero. -/
namespace Valdrics.Llm

open Enforcement (PricingTier Json Uuid)

structure AnalysisConfig where
  pricing : LlmPricing
  tier : PricingTier
  limits : AnalysisLimits
  fairUse : FairUseSettings
  /-- `_resolve_output_token_ceiling` and `_resolve_positive_limit` of the tier. -/
  maxOutputTokens : Option Nat
  maxPromptTokens : Option Nat
  /-- `f"{float(x):.4f}"` of an amount. -/
  dollars : Int → String

inductive AnalysisKind where
  | finOps | zombie
  deriving DecidableEq, Repr

/-- What a successful call answers with; its metadata may lack the token counts. -/
structure LlmAnswer where
  provider : String
  model : String
  promptTokens : Option Nat
  completionTokens : Option Nat
  isByok : Bool := false

/-- A run that reaches its reservation. `workload` counts the records of a cost analysis and
the characters of a zombie analysis. -/
structure AnalysisRun where
  kind : AnalysisKind
  userId : Option Uuid
  operationId : String
  provider : String
  model : String
  workload : Nat
  now : Nat
  transactionStart : Nat
  /-- The refusal of the global abuse guard. -/
  abuse : Option BudgetExceeded := none
  /-- Whether the model answered. -/
  answer : Option LlmAnswer
  /-- Whether the caller commits what the run leaves in its transaction. -/
  callerCommits : Bool := false

structure LlmState where
  usages : List LlmUsage := []
  row : Option LlmBudget := none
  slots : Nat := 0

namespace AnalysisRun

variable (run : AnalysisRun) (config : AnalysisConfig)

def request : LlmRequest :=
  let capped (tokens : Nat) : Nat := config.maxPromptTokens.elim tokens (min tokens)
  match run.kind with
  | .finOps => ⟨"openai",run.model,capped (max 500 (run.workload * 20)),
      config.maxOutputTokens.getD 500⟩
  | .zombie => ⟨run.provider,run.model,capped (max 500 (run.workload / 4)),
      config.maxOutputTokens.getD 1200⟩

def actor : ActorType := if run.userId.isSome then .user else .system

/-- `token_usage.get(…)` has another default in each analyzer. -/
def defaultTokens : Nat :=
  match run.kind with
  | .finOps => 500
  | .zombie => 0

def requestType : String :=
  run.actor.value ++ ":" ++ match run.kind with
    | .finOps => "unknown"
    | .zombie => "zombie_analysis"

def usageCall (answer : LlmAnswer) : UsageCall where
  request := ⟨answer.provider,answer.model,answer.promptTokens.getD run.defaultTokens,
    answer.completionTokens.getD run.defaultTokens⟩
  isByok := answer.isByok

/-- The row that `record_usage` adds. -/
def usage (answer : LlmAnswer) : LlmUsage :=
  let call := run.usageCall answer
  { userId := run.userId
    provider := call.request.provider
    model := call.request.model
    inputTokens := call.request.promptTokens
    outputTokens := call.request.completionTokens
    totalTokens := call.request.promptTokens + call.request.completionTokens
    costUsd := call.actualCost config.pricing
    isByok := answer.isByok
    operationId := match run.kind with
      | .finOps => some run.operationId
      | .zombie => none
    requestType := run.requestType
    createdAt := run.transactionStart }

end AnalysisRun

def budgetExceeded (config : AnalysisConfig) (budget : LlmBudget) (request : LlmRequest) :
    BudgetExceeded :=
  let estimatedCost := config.pricing.estimate request
  let amount (value : Int) : Json := .float (.ofUnits value 8)
  { message := "LLM budget exceeded. Required: $" ++ config.dollars estimatedCost ++
      ", Available: $" ++ config.dollars budget.remaining
    details := [("monthly_limit",amount budget.monthlyLimitUsd),
      ("current_total_committed",
        amount (budget.monthlySpendUsd + budget.pendingReservationsUsd)),
      ("estimated_cost",amount estimatedCost),("remaining_budget",amount budget.remaining),
      ("model",.str request.model)] }

/-- What `check_and_reserve` returns, with the version of the row that it has written and
the slots in use. -/
inductive Authorization where
  | denied (error : BudgetExceeded) (working : Option LlmBudget) (slots : Nat)
  | reserved (amount : Int) (working : LlmBudget) (slots : Nat)

def authorize (config : AnalysisConfig) (s : LlmState) (run : AnalysisRun) : Authorization :=
  let request := run.request config
  match enforceDailyAnalysisLimit config.limits s.usages run.userId run.actor run.now with
  | .error error => .denied error none s.slots
  | .ok _ =>
    match run.abuse with
    | some error => .denied error none s.slots
    | none =>
      match enforceFairUseGuards config.fairUse config.tier s.usages s.slots run.now with
      | .error error => .denied error none s.slots
      | .ok (acquired,slots) =>
        match checkAndReserve config.pricing s.row
          ⟨request,config.tier,run.now,run.transactionStart⟩ with
        | (budget,some amount) => .reserved amount budget slots
        | (budget,none) =>
          .denied (budgetExceeded config budget request) (some budget)
            (if acquired then config.fairUse.releaseSlot slots else slots)

inductive AnalysisResult where
  | denied (error : BudgetExceeded)
  | failed
  | succeeded

/-- What the caller's end of the transaction makes of the row. -/
def AnalysisRun.closes (run : AnalysisRun) (working committed : Option LlmBudget) :
    Option LlmBudget :=
  if run.callerCommits then working.or committed else committed

/-- `FinOpsAnalyzer.analyze` or `ZombieAnalyzer.analyze`, from the reservation on. -/
def analyze (config : AnalysisConfig) (s : LlmState) (run : AnalysisRun) :
    AnalysisResult × LlmState :=
  match authorize config s run with
  | .denied error working slots =>
    (.denied error,{ s with row := run.closes working s.row, slots })
  | .reserved amount working slots =>
    match run.answer with
    | none => (.failed,{ s with row := run.closes (some working) s.row, slots })
    | some answer =>
      -- `if reserved_amount`: a decimal zero is false
      if run.kind = .finOps ∧ amount = 0 then
        (.succeeded,{ s with row := run.closes (some working) s.row, slots })
      else
        (.succeeded,
          { usages := s.usages ++ [run.usage config answer]
            row := some (working.settle config.pricing (run.usageCall answer))
            slots := config.fairUse.releaseSlot slots })

structure AnalysisReport where
  run : AnalysisRun
  before : LlmState
  result : AnalysisResult
  after : LlmState

def AnalysisReport.isSuccess (report : AnalysisReport) : Bool :=
  match report.result with
  | .succeeded => true
  | _ => false

def analysisReport (config : AnalysisConfig) (s : LlmState) (run : AnalysisRun) : AnalysisReport :=
  ⟨run,s,(analyze config s run).1,(analyze config s run).2⟩

def analyzeAll (config : AnalysisConfig) : LlmState → List AnalysisRun → List AnalysisReport
  | _, [] => []
  | s, run :: runs =>
    analysisReport config s run :: analyzeAll config (analyze config s run).2 runs

/-- Each successful run leaves one usage row and gives its slot back, and no more runs
succeed than the tenant's plan allows a day. -/
structure Metered (config : AnalysisConfig) (reports : List AnalysisReport) : Prop where
  row : ∀ report ∈ reports, report.isSuccess = true →
    ∃ usage, report.after.usages = report.before.usages ++ [usage]
  released : ∀ report ∈ reports, report.isSuccess = true →
    config.fairUse.takesSlot config.tier = true → report.after.slots = report.before.slots
  capped : ∀ limit, config.limits.llmAnalysesPerDay = some limit →
    (reports.countP AnalysisReport.isSuccess : Int) ≤ max 0 limit

def Priced (config : AnalysisConfig) (report : AnalysisReport) : Prop :=
  report.isSuccess = true → report.run.kind = .finOps →
    config.pricing.estimate (report.run.request config) ≠ 0

/-- The run and its transaction begin in the day of `day`. -/
structure AnalysisRun.OnDay (run : AnalysisRun) (day : Nat) : Prop where
  now : dayStart run.now = dayStart day
  recorded : dayStart day ≤ run.transactionStart ∧ run.transactionStart < dayEnd day

inductive SuccessfulRun (config : AnalysisConfig) (s : LlmState) (run : AnalysisRun) :
    LlmState → Prop where
  | unrecorded (costAnalysis : run.kind = .finOps)
      (free : config.pricing.estimate (run.request config) = 0) (same : t.usages = s.usages) :
      SuccessfulRun config s run t
  | recorded (priced : run.kind = .finOps → config.pricing.estimate (run.request config) ≠ 0)
      (row : t.usages = s.usages ++ [run.usage config answer])
      (slots : config.fairUse.takesSlot config.tier = true → t.slots = s.slots) :
      SuccessfulRun config s run t

section Analyze

variable {config : AnalysisConfig} {s : LlmState} {run : AnalysisRun}

theorem authorize_reserved {amount : Int} {working : LlmBudget} {slots : Nat}
    (reserved : authorize config s run = .reserved amount working slots) :
    (∀ limit, config.limits.llmAnalysesPerDay = some limit →
      requestsToday s.usages run.now < limit) ∧
      amount = config.pricing.estimate (run.request config) ∧
      slots = if config.fairUse.takesSlot config.tier then s.slots + 1 else s.slots := by
  simp only [authorize] at reserved
  split at reserved
  · contradiction
  next _ passed =>
  split at reserved
  · contradiction
  split at reserved
  · contradiction
  next _ acquired taken allowed =>
  split at reserved
  · next budget held checked =>
    obtain ⟨rfl,rfl,rfl⟩ := Authorization.reserved.inj reserved
    obtain ⟨took,left⟩ := enforceFairUseGuards_slots allowed
    exact ⟨fun limit limited => enforceDailyAnalysisLimit_under passed limited,
      (checkAndReserve_reserved checked).1,took ▸ left⟩
  · contradiction

theorem analyze_succeeded (succeeded : (analyze config s run).1 = .succeeded) :
    (∀ limit, config.limits.llmAnalysesPerDay = some limit →
      requestsToday s.usages run.now < limit) ∧
      SuccessfulRun config s run (analyze config s run).2 := by
  cases outcome : authorize config s run with
  | denied error working slots => simp [analyze,outcome] at succeeded
  | reserved amount working slots =>
    obtain ⟨under,rfl,taken⟩ := authorize_reserved outcome
    refine ⟨under,?_⟩
    cases answered : run.answer with
    | none => simp [analyze,outcome,answered] at succeeded
    | some answer =>
      by_cases free : run.kind = .finOps ∧ config.pricing.estimate (run.request config) = 0
      · have result : (analyze config s run).2.usages = s.usages := by
          simp [analyze,outcome,answered,free]
        exact .unrecorded free.1 free.2 result
      · have result : (analyze config s run).2 =
            { usages := s.usages ++ [run.usage config answer]
              row := some (working.settle config.pricing (run.usageCall answer))
              slots := config.fairUse.releaseSlot slots } := by
          simp only [analyze,outcome,answered,free,if_false]
        rw [result]
        refine .recorded (fun kind zero => free ⟨kind,zero⟩) rfl fun takes => ?_
        rw [taken, if_pos takes]
        exact releaseSlot_acquired takes

theorem analyze_unsuccessful (other : (analyze config s run).1 ≠ .succeeded) :
    (analyze config s run).2.usages = s.usages := by
  cases outcome : authorize config s run with
  | denied error working slots => simp [analyze,outcome]
  | reserved amount working slots =>
    cases answered : run.answer with
    | none => simp [analyze,outcome,answered]
    | some answer =>
      by_cases free : run.kind = .finOps ∧ amount = 0
      · simp [analyze,outcome,answered,free]
      · simp [analyze,outcome,answered,free] at other

end Analyze

theorem AnalysisReport.isSuccess_iff {report : AnalysisReport} :
    report.isSuccess = true ↔ report.result = .succeeded := by
  unfold AnalysisReport.isSuccess
  split
  · next same => simp [same]
  · next other => exact iff_of_false Bool.false_ne_true other

theorem requestsToday_day {usages : List LlmUsage} {now day : Nat}
    (same : dayStart now = dayStart day) : requestsToday usages now = requestsToday usages day := by
  simp [requestsToday,dayEnd,same]

theorem requestsToday_recorded {config : AnalysisConfig} {run : AnalysisRun} {day : Nat}
    (onDay : run.OnDay day) (usages : List LlmUsage) (answer : LlmAnswer) :
    requestsToday (usages ++ [run.usage config answer]) day = requestsToday usages day + 1 := by
  have created : (run.usage config answer).createdAt = run.transactionStart := rfl
  rw [requestsToday, countRequestsInWindow_append, created, if_pos onDay.recorded]
  rfl

theorem mem_analyzeAll {config : AnalysisConfig} {report : AnalysisReport}
    {runs : List AnalysisRun} {s : LlmState} (member : report ∈ analyzeAll config s runs) :
    report.run ∈ runs ∧ (report.result,report.after) = analyze config report.before report.run := by
  induction runs generalizing s with
  | nil => exact absurd member List.not_mem_nil
  | cons run runs ih =>
    rcases List.mem_cons.mp member with rfl | later
    · exact ⟨List.mem_cons_self,rfl⟩
    · obtain ⟨listed,same⟩ := ih later
      exact ⟨List.mem_cons_of_mem run listed,same⟩

theorem mem_analyzeAll_succeeded {config : AnalysisConfig} {report : AnalysisReport}
    {runs : List AnalysisRun} {s : LlmState} (member : report ∈ analyzeAll config s runs)
    (succeeded : report.isSuccess = true) :
    SuccessfulRun config report.before report.run report.after := by
  have same := (mem_analyzeAll member).2
  have result : (analyze config report.before report.run).1 = .succeeded := by
    rw [← same]
    exact AnalysisReport.isSuccess_iff.mp succeeded
  have done := (analyze_succeeded result).2
  rwa [← same] at done

theorem analyzeAll_capped {config : AnalysisConfig} {day : Nat} {limit : Int}
    (limited : config.limits.llmAnalysesPerDay = some limit) {runs : List AnalysisRun}
    {s : LlmState} (sameDay : ∀ run ∈ runs, run.OnDay day)
    (priced : ∀ report ∈ analyzeAll config s runs, Priced config report) :
    ((analyzeAll config s runs).countP AnalysisReport.isSuccess : Int) ≤
      max 0 (limit - requestsToday s.usages day) := by
  induction runs generalizing s with
  | nil =>
    simp only [analyzeAll,List.countP_nil]
    omega
  | cons run runs ih =>
    rw [analyzeAll] at priced ⊢
    have onDay := sameDay run List.mem_cons_self
    have rest := ih (fun other member => sameDay other (List.mem_cons_of_mem run member))
      fun report member => priced report (List.mem_cons_of_mem _ member)
    by_cases first : (analysisReport config s run).isSuccess = true
    · obtain ⟨under,done⟩ := analyze_succeeded (AnalysisReport.isSuccess_iff.mp first)
      have room := under limit limited
      rw [requestsToday_day onDay.now] at room
      have free := priced (analysisReport config s run) List.mem_cons_self first
      rw [List.countP_cons_of_pos first]
      cases done with
      | unrecorded kind zero => exact absurd zero (free kind)
      | recorded _ row =>
        rw [row, requestsToday_recorded onDay] at rest
        push_cast at rest ⊢
        omega
    · have other : (analyze config s run).1 ≠ .succeeded :=
        fun same => first (AnalysisReport.isSuccess_iff.mpr same)
      rw [analyze_unsuccessful other] at rest
      rw [List.countP_cons_of_neg first]
      exact rest

/-- Each successful analysis of a day is metered if and only if each successful cost
analysis has reserved an amount that is not zero. -/
theorem metered_iff (config : AnalysisConfig) (s : LlmState) (runs : List AnalysisRun) (day : Nat)
    (sameDay : ∀ run ∈ runs, run.OnDay day) : Metered config (analyzeAll config s runs) ↔
      ∀ report ∈ analyzeAll config s runs, Priced config report := by
  constructor
  · intro metered report member succeeded costAnalysis free
    obtain ⟨usage,row⟩ := metered.row report member succeeded
    cases mem_analyzeAll_succeeded member succeeded with
    | unrecorded _ _ same =>
      have lengths := congrArg List.length (row.symm.trans same)
      simp at lengths
    | recorded priced => exact priced costAnalysis free
  · intro priced
    refine ⟨fun report member succeeded => ?_,fun report member succeeded takes => ?_,
      fun limit limited => ?_⟩
    · cases mem_analyzeAll_succeeded member succeeded with
      | unrecorded kind free => exact absurd free (priced report member succeeded kind)
      | recorded _ row => exact ⟨_,row⟩
    · cases mem_analyzeAll_succeeded member succeeded with
      | unrecorded kind free => exact absurd free (priced report member succeeded kind)
      | recorded _ _ slots => exact slots takes
    · have capped := analyzeAll_capped limited sameDay priced
      omega

namespace MeteringSample

/-- A model that costs five millionths of a dollar a thousand tokens. -/
def cheap : ProviderCost := ⟨⟨5,-3⟩,⟨5,-3⟩,by decide,by decide⟩

def config : AnalysisConfig where
  pricing := ⟨.asciiOnly,fun _ _ => some cheap⟩
  tier := .pro
  limits := ⟨some 100,some 30,some 25⟩
  fairUse := { guardsEnabled := true }
  maxOutputTokens := some 2048
  maxPromptTokens := some 16384
  dollars _ := ""

def run (kind : AnalysisKind) : AnalysisRun where
  kind
  userId := none
  operationId := ""
  provider := "groq"
  model := "llama-3.3-70b-versatile"
  workload := 10
  now := 0
  transactionStart := 0
  answer := some ⟨"groq","llama-3.3-70b-versatile",some 480,some 900,false⟩

theorem onDay (kind : AnalysisKind) : (run kind).OnDay 0 := by
  have before : (0 : Nat) < dayEnd 0 := by decide
  exact ⟨rfl,Nat.le_refl 0,before⟩

end MeteringSample

/-- A zombie analysis at the same price is metered. -/
theorem metered_zombie : Metered MeteringSample.config
    (analyzeAll MeteringSample.config {} [MeteringSample.run .zombie]) := by
  refine (metered_iff MeteringSample.config {} [MeteringSample.run .zombie] 0 ?_).mpr ?_
  · intro run member
    obtain rfl := List.mem_singleton.mp member
    exact MeteringSample.onDay .zombie
  · intro report member _ costAnalysis
    have listed := (mem_analyzeAll member).1
    rw [List.mem_singleton.mp listed] at costAnalysis
    contradiction

/-- A cost analysis whose estimate rounds to zero leaves no usage row and keeps its slot. -/
theorem cheap_analysis_unmetered : ∃ (config : AnalysisConfig) (s : LlmState)
    (runs : List AnalysisRun), (∀ run ∈ runs, run.OnDay 0) ∧
      ¬Metered config (analyzeAll config s runs) := by
  refine ⟨MeteringSample.config,{},[MeteringSample.run .finOps],fun run member => ?_,
    fun metered => ?_⟩
  · obtain rfl := List.mem_singleton.mp member
    exact MeteringSample.onDay .finOps
  · have kept := metered.released _ List.mem_cons_self rfl rfl
    exact absurd kept (by decide)

end Valdrics.Llm

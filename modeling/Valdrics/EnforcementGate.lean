import Valdrics.EnforcementCredit
import Valdrics.EnforcementRouting
import Valdrics.EnforcementWaterfall

/-! The gate: a replay of the decision stored under the request's key, or a new
decision from one reading of the tenant's rows, persisted with its credit
allocations, its approval request and its ledger entry in one transaction. -/
namespace Valdrics.Enforcement

open PythonText

structure GateEvaluationContext where
  policy : Policy
  normalizedEnv : String
  mode : Mode
  modeScope : String
  ttlSeconds : Nat
  fingerprint : String
  idempotencyKey : String

structure GateEvaluationResult where
  decisionId : Uuid
  decision : Decision
  approval : Option (Uuid × ApprovalRequest)
  approvalToken : Option String := none
  ttlSeconds : Nat

/-- The failure a gate reports when it falls back to the mode's violation decision. -/
structure FailSafe where
  failureReasonCode : String
  failureMetadata : List (String × Json)

/-- One call of a gate. The ids are those a new row would get, the clock is read for the
evaluation and once more for the row's `created_at`, and the computed context is what
the tenant's cost records give. -/
structure GateCall where
  source : Source
  gateInput : GateInput
  actorId : Uuid
  now : Nat
  createdAt : Nat
  decisionId : Uuid
  approvalId : Uuid
  computedContext : DecisionComputedContext

def resolveIdempotencyKey (fingerprint : String) (idempotencyKey : Option String) : String :=
  let raw := strip (match idempotencyKey with
    | none => fingerprint
    | some key => orDefault key fingerprint)
  if raw = "" then fingerprint else slice raw 128

namespace Service

def buildGateEvaluationContext (service : Service) (policy : Policy) (source : Source)
    (input : GateInput) : Except Fault GateEvaluationContext := do
  let normalizedEnv := service.normalizeEnvironment input.environment
  let (mode,modeScope) := service.resolvePolicyMode policy source normalizedEnv
  let fingerprint ← service.stableFingerprint source input
  return {
    policy := policy
    normalizedEnv := normalizedEnv
    mode := mode
    modeScope := modeScope
    ttlSeconds := ttlSeconds policy
    fingerprint := fingerprint
    idempotencyKey := resolveIdempotencyKey fingerprint input.idempotencyKey }

end Service

namespace Store

def getDecisionByIdempotency (store : Store) (source : Source) (idempotencyKey : String) :
    Option (Uuid × Decision) :=
  store.decisions.lookup (source,idempotencyKey)

def getApprovalByDecision (store : Store) (decisionId : Uuid) : Option (Uuid × ApprovalRequest) :=
  store.approvals.lookup decisionId

def getExistingGateResult (store : Store) (source : Source) (idempotencyKey : String)
    (ttlSeconds : Nat) : Option GateEvaluationResult :=
  (store.getDecisionByIdempotency source idempotencyKey).map fun existing =>
    { decisionId := existing.1
      decision := existing.2
      approval := store.getApprovalByDecision existing.1
      ttlSeconds := ttlSeconds }

end Store

/-- `_month_bounds`: the first instant of the month, and of the next. -/
def monthBounds (now : Nat) : Nat × Nat :=
  (Calendar.monthStart (Calendar.monthOf now),Calendar.monthStart (Calendar.monthOf now + 1))

def Decision.countsIn (decision : Decision) (bounds : Nat × Nat) : Bool :=
  decision.reservationActive && bounds.1 ≤ decision.createdAt && decision.createdAt < bounds.2

namespace Store

def getReservedTotals (store : Store) (bounds : Nat × Nat) : Int × Int :=
  (store.decisions.total fun _ decision =>
      if decision.countsIn bounds then decision.reservedAllocationUsd else 0,
    store.decisions.total fun _ decision =>
      if decision.countsIn bounds then decision.reservedCreditUsd else 0)

def getEffectiveBudget (store : Store) (scope : String) : Option BudgetAllocation :=
  match (store.budgets.find scope).filter (·.active) with
  | some own => some own
  | none => (store.budgets.find "default").filter (·.active)

end Store

/-- What one evaluation reads of the tenant's rows after it holds the lock. -/
structure GateReads where
  reservedAllocTotal : Int
  reservedCreditTotal : Int
  tenantTier : PricingTier
  planCeiling : Option Int
  enterpriseCeiling : Option Int
  budget : Option BudgetAllocation
  reservedCreditHeadroom : Int
  emergencyCreditHeadroom : Int

namespace GateReads

def reservedTotalMonthly (reads : GateReads) : Int :=
  reads.reservedAllocTotal + reads.reservedCreditTotal

def headroom (reads : GateReads) (ceiling : Option Int) : Option Int :=
  ceiling.map fun ceiling => max 0 (ceiling - reads.reservedTotalMonthly)

def allocationHeadroom (reads : GateReads) : Option Int :=
  reads.budget.map fun budget => max 0 (budget.monthlyLimitUsd - reads.reservedAllocTotal)

def creditsAvailable (reads : GateReads) : Int :=
  reads.reservedCreditHeadroom + reads.emergencyCreditHeadroom

end GateReads

structure Assessment where
  decision : DecisionType
  reasons : List String
  reserveAllocation : Int := 0
  reserveReservedCredit : Int := 0
  reserveEmergencyCredit : Int := 0
  entitlementResult : Option Waterfall.EntitlementWaterfallResult := none

namespace Assessment

def reserveCredit (assessment : Assessment) : Int :=
  assessment.reserveReservedCredit + assessment.reserveEmergencyCredit

end Assessment

namespace Gate

open Waterfall

def reasonSubject : String → Option String
  | "budget_exceeded" => some "budget"
  | "plan_limit_exceeded" => some "plan_limit"
  | "enterprise_ceiling_exceeded" => some "enterprise_ceiling"
  | _ => none

def entitlementReasons (mode : Mode) (result : EntitlementWaterfallResult) : List String :=
  (match result.reasonCode with
    | none => []
    | some code =>
      code :: match reasonSubject code with
        | none => []
        | some subject =>
          if mode = .hard then [] else [modeViolationReasonSuffix mode subject]) ++
  (if 0 < result.reserveCreditUsd then
    "credit_waterfall_used" ::
      (if 0 < result.reserveReservedCreditUsd then ["reserved_credit_waterfall_used"] else []) ++
      (if 0 < result.reserveEmergencyCreditUsd then ["emergency_credit_waterfall_used"] else [])
  else [])

def assessFunding (policy : Policy) (computedContext : DecisionComputedContext)
    (input : Waterfall.Input) : Assessment :=
  if computedContext.dataSourceMode = "unavailable" ∧ 0 < input.monthlyDelta then
    { decision := modeViolationDecision input.mode
      reasons := ["computed_context_unavailable",
        modeViolationReasonSuffix input.mode "cost_context"] }
  else if policy.hardDenyAboveMonthlyUsd < input.monthlyDelta then
    { decision := modeViolationDecision input.mode
      reasons := "hard_deny_threshold_exceeded" ::
        match input.mode with
        | .soft => ["soft_mode_escalation"]
        | .shadow => ["shadow_mode_override"]
        | .hard => [] }
  else
    let result := evaluateEntitlementWaterfall input
    { decision := result.decision
      reasons := entitlementReasons input.mode result
      reserveAllocation := result.reserveAllocationUsd
      reserveReservedCredit := result.reserveReservedCreditUsd
      reserveEmergencyCredit := result.reserveEmergencyCreditUsd
      entitlementResult := some result }

def approvalRequired (policy : Policy) (isProd : Bool) (monthlyDelta : Int) : Bool :=
  (if isProd then policy.requireApprovalForProd else policy.requireApprovalForNonprod) &&
    !decide (monthlyDelta ≤ policy.autoApproveBelowMonthlyUsd)

def applyApproval (mode : Mode) (required : Bool) (assessment : Assessment) : Assessment :=
  if (assessment.decision = .allow ∨ assessment.decision = .allowWithCredits) ∧
      required = true then
    if mode = .shadow then
      { assessment with reasons := assessment.reasons ++ ["shadow_mode_approval_override"] }
    else
      { assessment with
        decision := .requireApproval
        reasons := assessment.reasons ++ ["approval_required"] }
  else assessment

def applyDryRun (dryRun : Bool) (assessment : Assessment) : Assessment :=
  if dryRun then
    { assessment with
      reasons := assessment.reasons ++ ["dry_run"]
      reserveAllocation := 0
      reserveReservedCredit := 0
      reserveEmergencyCredit := 0 }
  else assessment

def reservationActive (mode : Mode) (dryRun : Bool) (assessment : Assessment) : Bool :=
  !dryRun && assessment.decision ≠ .deny && mode ≠ .shadow &&
    0 < assessment.reserveAllocation + assessment.reserveCredit

def waterfallInput (mode : Mode) (reads : GateReads) (monthlyDelta : Int) : Waterfall.Input where
  mode := mode
  monthlyDelta := monthlyDelta
  planHeadroom := reads.headroom reads.planCeiling
  allocationHeadroom := reads.allocationHeadroom
  reservedCreditHeadroom := reads.reservedCreditHeadroom
  emergencyCreditHeadroom := reads.emergencyCreditHeadroom
  enterpriseHeadroom := reads.headroom reads.enterpriseCeiling

def assess (policy : Policy) (mode : Mode) (isProd dryRun : Bool) (reads : GateReads)
    (computedContext : DecisionComputedContext) (monthlyDelta : Int) : Assessment :=
  applyDryRun dryRun (applyApproval mode (approvalRequired policy isProd monthlyDelta)
    (assessFunding policy computedContext (waterfallInput mode reads monthlyDelta)))

def buildMetadataPayload (metadata : List (String × Json)) (riskClass : String)
    (riskScore : Int) : List (String × Json) :=
  let withLevel := if (metadata.lookup "risk_level").isSome then metadata
    else metadata ++ [("risk_level",.str riskClass)]
  (withLevel.filter fun entry =>
      entry.1 ≠ "computed_risk_class" ∧ entry.1 ≠ "computed_risk_score") ++
    [("computed_risk_class",.str riskClass),("computed_risk_score",.int riskScore)]

def sanitizeFailureMetadata (metadata : List (String × Json)) : Option (List (String × Json)) :=
  let kept := metadata.filter fun entry => strip entry.1 ≠ ""
  if kept.isEmpty then none else some kept

end Gate

namespace Service

def gateReads (service : Service) (policy : Policy) (reservedTotals : Int × Int)
    (tenantTier : PricingTier) (budget : Option BudgetAllocation) (headrooms : Int × Int) :
    GateReads where
  reservedAllocTotal := reservedTotals.1
  reservedCreditTotal := reservedTotals.2
  tenantTier := tenantTier
  planCeiling := service.resolvePlanMonthlyCeilingUsd policy tenantTier
  enterpriseCeiling := service.resolveEnterpriseMonthlyCeilingUsd policy tenantTier
  budget := budget
  reservedCreditHeadroom := headrooms.1
  emergencyCreditHeadroom := headrooms.2

def readGate (service : Service) (store : Store) (input : GateInput) (now : Nat) : GateReads :=
  service.gateReads store.policy (store.getReservedTotals (monthBounds now)) store.tenantTier
    (store.getEffectiveBudget (service.normalizeScope input.projectId))
    (store.getCreditHeadrooms (service.normalizeScope input.projectId) now)

end Service

structure GateDraft where
  decision : Decision
  reserveReservedCredit : Int := 0
  reserveEmergencyCredit : Int := 0

namespace Gate

def requestPayload (context : GateEvaluationContext) (call : GateCall) (monthlyDelta : Int)
    (hourlyDelta : Option Int) : RequestPayload where
  projectId := call.gateInput.projectId
  environment := context.normalizedEnv
  action := call.gateInput.action
  resourceReference := call.gateInput.resourceReference
  estimatedMonthlyDeltaUsd := monthlyDelta
  estimatedHourlyDeltaUsd := hourlyDelta
  metadata := buildMetadataPayload call.gateInput.metadata call.computedContext.riskClass
    call.computedContext.riskScore
  dryRun := call.gateInput.dryRun

def entitlementPayload (reads : GateReads) (assessment : Assessment) : EntitlementPayload where
  allocationHeadroomUsd := reads.allocationHeadroom
  creditsHeadroomUsd := reads.creditsAvailable
  reservedCreditsHeadroomUsd := reads.reservedCreditHeadroom
  emergencyCreditsHeadroomUsd := reads.emergencyCreditHeadroom
  planMonthlyCeilingUsd := reads.planCeiling
  planHeadroomUsd := reads.headroom reads.planCeiling
  enterpriseMonthlyCeilingUsd := reads.enterpriseCeiling
  enterpriseHeadroomUsd := reads.headroom reads.enterpriseCeiling
  tenantTier := reads.tenantTier
  entitlementReasonCode := assessment.entitlementResult.bind (·.reasonCode)
  entitlementWaterfall := assessment.entitlementResult.map (·.stageDetails)
  reservedCreditSplitReserved := assessment.reserveReservedCredit
  reservedCreditSplitEmergency := assessment.reserveEmergencyCredit

end Gate

namespace Service

variable (service : Service)

def decisionRow (context : GateEvaluationContext) (call : GateCall) (monthlyDelta : Int)
    (hourlyDelta : Option Int) (decision : DecisionType) (reasons : List String)
    (responsePayload : ResponsePayload) : Decision where
  source := call.source
  environment := context.normalizedEnv
  projectId := call.gateInput.projectId
  action := call.gateInput.action
  resourceReference := call.gateInput.resourceReference
  decision := decision
  reasonCodes := service.uniqueReasonCodes reasons
  policyVersion := context.policy.policyVersion
  policyDocumentSchemaVersion :=
    normalizePolicyDocumentSchemaVersion context.policy.policyDocumentSchemaVersion
  policyDocumentSha256 :=
    service.normalizePolicyDocumentSha256 context.policy.policyDocumentSha256
  requestFingerprint := context.fingerprint
  idempotencyKey := context.idempotencyKey
  requestPayload := Gate.requestPayload context call monthlyDelta hourlyDelta
  responsePayload := responsePayload
  estimatedMonthlyDeltaUsd := monthlyDelta
  estimatedHourlyDeltaUsd := hourlyDelta
  burnRateDailyUsd := call.computedContext.burnRateDailyUsd
  forecastEomUsd := call.computedContext.forecastEomUsd
  riskClass := call.computedContext.riskClass
  riskScore := call.computedContext.riskScore
  anomalySignal := call.computedContext.anomalySignal
  allocationAvailableUsd := none
  creditsAvailableUsd := none
  reservedAllocationUsd := 0
  reservedCreditUsd := 0
  reservationActive := false
  approvalRequired := decision = .requireApproval
  approvalTokenIssued := false
  tokenExpiresAt := none
  createdByUserId := call.actorId
  createdAt := call.createdAt

def noBudgetReason (reads : GateReads) : List String :=
  if reads.budget.isNone then ["no_budget_configured"] else []

def draftFrom (context : GateEvaluationContext) (call : GateCall) (reads : GateReads)
    (monthlyDelta : Int) (hourlyDelta : Option Int) : GateDraft :=
  let isProd := service.isProductionEnvironment context.normalizedEnv
  let assessment := Gate.assess context.policy context.mode isProd call.gateInput.dryRun reads
    call.computedContext monthlyDelta
  { decision :=
      { service.decisionRow context call monthlyDelta hourlyDelta assessment.decision
          (noBudgetReason reads ++ assessment.reasons)
          { mode := context.mode
            modeScope := context.modeScope
            isProduction := isProd
            computedContext := call.computedContext
            entitlement := some (Gate.entitlementPayload reads assessment) } with
        allocationAvailableUsd := reads.allocationHeadroom
        creditsAvailableUsd := some reads.creditsAvailable
        reservedAllocationUsd := assessment.reserveAllocation
        reservedCreditUsd := assessment.reserveCredit
        reservationActive :=
          Gate.reservationActive context.mode call.gateInput.dryRun assessment }
    reserveReservedCredit := assessment.reserveReservedCredit
    reserveEmergencyCredit := assessment.reserveEmergencyCredit }

def hourlyDelta (input : GateInput) : Except Fault (Option Int) :=
  require (input.estimatedHourlyDeltaUsd.quantize 6) .invalidOperation

def draftGateDecision (store : Store) (context : GateEvaluationContext) (call : GateCall) :
    Except Fault GateDraft := do
  let monthly ← comparableAmount call.gateInput.estimatedMonthlyDeltaUsd 4
  let hourly ← hourlyDelta call.gateInput
  return service.draftFrom context call (service.readGate store call.gateInput call.now) monthly
    hourly

def reserveCredits (store : Store) (call : GateCall) (draft : GateDraft) :
    Except Fault (Store × List CreditAllocationEntry) :=
  if draft.decision.reservationActive = true ∧ 0 < draft.decision.reservedCreditUsd then
    store.reserveCreditForDecision call.decisionId
      (service.normalizeScope call.gateInput.projectId) draft.reserveReservedCredit
      draft.reserveEmergencyCredit call.now
  else .ok (store,[])

abbrev ReserveCredits := Store → Except Fault (Store × List CreditAllocationEntry)

def needsApproval (mode : Mode) (call : GateCall) (decision : DecisionType) : Bool :=
  decision = .requireApproval && !call.gateInput.dryRun && mode ≠ .shadow

def recordAllocations (store : Store) (decisionId : Uuid) (entries : List CreditAllocationEntry) :
    Store :=
  if entries.isEmpty then store
  else store.updateDecision decisionId
    (fun row => { row with responsePayload :=
      { row.responsePayload with creditReservationAllocations := some entries } })
    (fun _ => rfl)

/-- The approval request goes in with the decision, for a time to live from `now`. -/
def createApproval (store : Store) (context : GateEvaluationContext) (call : GateCall)
    (decision : Decision) : Except Fault (Store × Option Uuid) :=
  if needsApproval context.mode call decision.decision then do
    let trace := service.resolveApprovalRoutingTrace context.policy decision
    let approvals ← require (store.approvals.insert call.approvalId
      { decisionId := call.decisionId
        requestedByUserId := some call.actorId
        routingRuleId := routingRuleId trace
        routingTrace := trace
        expiresAt := call.now + context.ttlSeconds * Calendar.microsPerSecond })
      .integrityError
    return ({ store with approvals },some call.approvalId)
  else .ok (store,none)

/-- The body of the transaction: decision, credit, approval, ledger. The credit is
reserved by the callback it is given. -/
def persistBody (store : Store) (context : GateEvaluationContext) (call : GateCall)
    (draft : GateDraft) (reserveCreditAllocations : ReserveCredits) :
    Except Fault (Store × Option Uuid) := do
  let decisions ← require (store.decisions.insert call.decisionId draft.decision)
    .integrityError
  let flushed := { store with decisions }
  let (reserved,entries) ← reserveCreditAllocations flushed
  let recorded := recordAllocations reserved call.decisionId entries
  let (approved,approvalId) ← service.createApproval recorded context call draft.decision
  return (service.appendDecisionLedgerEntry approved call.decisionId approvalId,approvalId)

/-- A unique constraint that another call filled first turns the call into a replay. -/
def persistDecisionWithOptionalApproval (store : Store) (context : GateEvaluationContext)
    (call : GateCall) (draft : GateDraft) : Committed GateEvaluationResult :=
  match service.persistBody store context call draft fun flushed =>
      service.reserveCredits flushed call draft with
  | .ok (next,approvalId) =>
    match next.decisions.find call.decisionId with
    | none => (store,.error .decisionNotFound)
    | some decision =>
      (next,.ok
        { decisionId := call.decisionId
          decision := decision
          approval := approvalId.bind fun id =>
            (next.approvals.find id).map fun approval => (id,approval)
          ttlSeconds := context.ttlSeconds })
  | .error .integrityError =>
    match store.getExistingGateResult call.source context.idempotencyKey context.ttlSeconds with
    | some existing => (store,.ok existing)
    | none => (store,.error .integrityError)
  | .error fault => (store,.error fault)

/-- The lookup before the lock and the one after it read the same rows when no other
call runs; the two are apart in the concurrent system. -/
def getExistingGateResultWithLock (store : Store) (source : Source) (idempotencyKey : String)
    (ttlSeconds : Nat) : Option GateEvaluationResult :=
  match store.getExistingGateResult source idempotencyKey ttlSeconds with
  | some existing => some existing
  | none => store.getExistingGateResult source idempotencyKey ttlSeconds

def evaluateGate (store : Store) (call : GateCall) : Committed GateEvaluationResult :=
  match service.buildGateEvaluationContext store.policy call.source call.gateInput with
  | .error fault => (store,.error fault)
  | .ok context =>
    match getExistingGateResultWithLock store call.source context.idempotencyKey
        context.ttlSeconds with
    | some existing => (store,.ok existing)
    | none =>
      match service.draftGateDecision store context call with
      | .error fault => (store,.error fault)
      | .ok draft => service.persistDecisionWithOptionalApproval store context call draft

def buildFailSafeReasons (mode : Mode) (failureReasonCode : String) (dryRun : Bool) :
    String × List String :=
  let normalized := orDefault (service.text.lower (strip failureReasonCode))
    "gate_evaluation_error"
  let modeReason := match mode with
    | .shadow => "shadow_mode_fail_open"
    | .soft => "soft_mode_fail_safe_escalation"
    | .hard => "hard_mode_fail_closed"
  (normalized,[normalized,modeReason] ++ if dryRun then ["dry_run"] else [])

def failSafeDraft (context : GateEvaluationContext) (call : GateCall) (failure : FailSafe)
    (monthlyDelta : Int) (hourlyDelta : Option Int) : GateDraft :=
  let (trigger,reasons) := service.buildFailSafeReasons context.mode failure.failureReasonCode
    call.gateInput.dryRun
  { decision := service.decisionRow context call monthlyDelta hourlyDelta
      (Waterfall.modeViolationDecision context.mode) reasons
      { mode := context.mode
        modeScope := context.modeScope
        isProduction := service.isProductionEnvironment context.normalizedEnv
        computedContext := call.computedContext
        failSafe := some ⟨trigger,Gate.sanitizeFailureMetadata failure.failureMetadata⟩ } }

def draftFailSafe (context : GateEvaluationContext) (call : GateCall) (failure : FailSafe) :
    Except Fault GateDraft := do
  let monthly ← comparableAmount call.gateInput.estimatedMonthlyDeltaUsd 4
  let hourly ← hourlyDelta call.gateInput
  return service.failSafeDraft context call failure monthly hourly

def resolveFailSafeGate (store : Store) (call : GateCall) (failure : FailSafe) :
    Committed GateEvaluationResult :=
  match service.buildGateEvaluationContext store.policy call.source call.gateInput with
  | .error fault => (store,.error fault)
  | .ok context =>
    match store.getExistingGateResult call.source context.idempotencyKey context.ttlSeconds with
    | some existing => (store,.ok existing)
    | none =>
      match service.draftFailSafe context call failure with
      | .error fault => (store,.error fault)
      | .ok draft => service.persistDecisionWithOptionalApproval store context call draft

end Service

end Valdrics.Enforcement

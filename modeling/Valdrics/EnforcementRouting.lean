import Valdrics.EnforcementService

/-! Approval routing: the trace a decision gets from the policy's rules, the trace an
approval keeps, and the authority a reviewer needs. -/
namespace Valdrics.Enforcement

open PythonText

namespace Service

variable (service : Service)

def defaultApprovalRoutingTrace (policy : Policy) (decision : Decision) : RoutingTrace :=
  let environment := service.normalizeEnvironment decision.environment
  { ruleId := "default-" ++ environment
    matchedRule := "default"
    requiredPermission := service.defaultRequiredPermissionForEnvironment environment
    allowedReviewerRoles := defaultAllowedReviewerRoles
    requireRequesterReviewerSeparation :=
      if service.isProductionEnvironment environment then
        policy.enforceProdRequesterReviewerSeparation
      else policy.enforceNonprodRequesterReviewerSeparation
    routingConditions := { environment := environment } }

/-- The first of the three metadata keys with a text left after `strip`. -/
def extractDecisionRiskLevel (decision : Decision) : Option String :=
  ["risk_level","risk","criticality"].findSome? fun key =>
    let normalized := match decision.requestPayload.metadata.lookup key with
      | none => ""
      | some value => service.text.lower (strip (service.strOrEmpty value))
    if normalized = "" then none else some normalized

def ruleMatches (rule : ApprovalRoutingRule) (environment action : String) (monthlyDelta : Int)
    (riskLevel : Option String) : Bool :=
  let environments := normalizeStringList service.normalizeEnvironment rule.environments
  let actionPrefixes := normalizeStringList service.text.lower rule.actionPrefixes
  let riskLevels := normalizeStringList service.text.lower rule.riskLevels
  rule.enabled &&
    (environments.isEmpty || environment ∈ environments) &&
    (actionPrefixes.isEmpty || actionPrefixes.any fun start =>
      start.toList.isPrefixOf action.toList) &&
    (rule.minMonthlyDeltaUsd.all fun least => least ≤ monthlyDelta) &&
    (rule.maxMonthlyDeltaUsd.all fun most => monthlyDelta ≤ most) &&
    (riskLevels.isEmpty || riskLevel.any fun level => level ∈ riskLevels)

def ruleTrace (rule : ApprovalRoutingRule) (index : Nat) (default : RoutingTrace)
    (riskLevel : Option String) : RoutingTrace where
  ruleId := slice (orDefault (strip rule.ruleId) ("rule-" ++ toString index)) 64
  matchedRule := "policy_rule"
  requiredPermission :=
    (service.normalizeApprovalPermission (rule.requiredPermission.getD "")).getD
      default.requiredPermission
  allowedReviewerRoles := service.normalizeAllowedReviewerRoles rule.allowedReviewerRoles
  requireRequesterReviewerSeparation :=
    rule.requireRequesterReviewerSeparation.getD default.requireRequesterReviewerSeparation
  routingConditions :=
    { environment := default.routingConditions.environment
      actionPrefixes := normalizeStringList service.text.lower rule.actionPrefixes
      minMonthlyDeltaUsd := rule.minMonthlyDeltaUsd
      maxMonthlyDeltaUsd := rule.maxMonthlyDeltaUsd
      riskLevels := normalizeStringList service.text.lower rule.riskLevels
      riskLevel := riskLevel }

/-- The first enabled rule whose conditions hold decides, else the default. -/
def resolveApprovalRoutingTrace (policy : Policy) (decision : Decision) : RoutingTrace :=
  let default := service.defaultApprovalRoutingTrace policy decision
  let environment := service.normalizeEnvironment decision.environment
  let action := service.text.lower (strip decision.action)
  let riskLevel := service.extractDecisionRiskLevel decision
  match policy.approvalRoutingRules.zipIdx.find? fun entry =>
      service.ruleMatches entry.1 environment action decision.estimatedMonthlyDeltaUsd
        riskLevel with
  | some (rule,position) => service.ruleTrace rule (position + 1) default riskLevel
  | none => default

def routingTraceOrDefault (policy : Policy) (decision : Decision) (approval : ApprovalRequest) :
    RoutingTrace :=
  let trace := approval.routingTrace
  match service.normalizeApprovalPermission trace.requiredPermission with
  | none => service.resolveApprovalRoutingTrace policy decision
  | some permission =>
    if strip trace.ruleId = "" then service.resolveApprovalRoutingTrace policy decision
    else
      { trace with
        requiredPermission := permission
        allowedReviewerRoles :=
          service.normalizeAllowedReviewerRoles trace.allowedReviewerRoles
        ruleId := slice (strip trace.ruleId) 64 }

def enforceReviewerAuthority (policy : Policy) (approval : ApprovalRequest)
    (decision : Decision) (reviewer : CurrentUser) (enforceRequesterSeparation : Bool) :
    Except Fault RoutingTrace := do
  let trace := service.routingTraceOrDefault policy decision approval
  let reviewerRole := service.normalizeRoleValue reviewer.role
  refuse (reviewerRole ∉ service.normalizeAllowedReviewerRoles trace.allowedReviewerRoles)
    (.reviewerRoleNotAllowed reviewerRole trace.ruleId)
  let permission ← require (service.normalizeApprovalPermission trace.requiredPermission)
    .routingPermissionMissing
  refuse (service.userHasApprovalPermission reviewer permission = false)
    (.insufficientApprovalPermission permission)
  refuse (enforceRequesterSeparation = true ∧ trace.requireRequesterReviewerSeparation = true ∧
    approval.requestedByUserId = some reviewer.id) .requesterReviewerSeparation
  return trace

/-- `routing_rule_id` of a row that takes the trace. -/
def routingRuleId (trace : RoutingTrace) : Option String :=
  if strip trace.ruleId = "" then none else some (strip trace.ruleId)

end Service

end Valdrics.Enforcement

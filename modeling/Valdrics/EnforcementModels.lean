import Valdrics.Calendar
import Valdrics.NumberText
import Valdrics.KeyedTable

/-! The rows of the enforcement tables and the value objects of the gate. Amounts
in US dollars are counted in ten-thousandths, the scale of their columns; hourly
amounts in millionths. Every query of the service filters by tenant, so a store
holds the rows of one. -/
namespace Valdrics.Enforcement

abbrev Uuid := BitVec 128

instance : LawfulBEq Uuid := inferInstance

inductive Source where
  | terraform | k8sAdmission | cloudEvent
  deriving DecidableEq, Repr

def Source.value : Source → String
  | .terraform => "terraform"
  | .k8sAdmission => "k8s_admission"
  | .cloudEvent => "cloud_event"

inductive Mode where
  | shadow | soft | hard
  deriving DecidableEq, Repr

inductive DecisionType where
  | allow | deny | requireApproval | allowWithCredits
  deriving DecidableEq, Repr

inductive CreditPoolType where
  | reserved | emergency
  deriving DecidableEq, Repr

def CreditPoolType.value : CreditPoolType → String
  | .reserved => "reserved"
  | .emergency => "emergency"

inductive ApprovalStatus where
  | pending | approved | denied | expired | cancelled
  deriving DecidableEq, Repr

def ApprovalStatus.value : ApprovalStatus → String
  | .pending => "pending"
  | .approved => "approved"
  | .denied => "denied"
  | .expired => "expired"
  | .cancelled => "cancelled"

inductive PricingTier where
  | free | starter | growth | pro | enterprise
  deriving DecidableEq, Repr

/-- A JSON value; a number with a point keeps its decimal text's value. -/
inductive Json where
  | null
  | bool (value : Bool)
  | int (value : Int)
  | float (value : Decimal)
  | str (value : String)
  | arr (items : List Json)
  | obj (members : List (String × Json))

/-- A rule as `normalize_policy_approval_routing_rules` leaves it. -/
structure ApprovalRoutingRule where
  ruleId : String
  enabled : Bool := true
  environments : List String := []
  actionPrefixes : List String := []
  minMonthlyDeltaUsd : Option Int := none
  maxMonthlyDeltaUsd : Option Int := none
  riskLevels : List String := []
  requiredPermission : Option String := none
  allowedReviewerRoles : List String
  requireRequesterReviewerSeparation : Option Bool := none
  deriving DecidableEq, Repr

structure Policy where
  terraformMode : Mode := .soft
  terraformModeProd : Mode := .soft
  terraformModeNonprod : Mode := .soft
  k8sAdmissionMode : Mode := .soft
  k8sAdmissionModeProd : Mode := .soft
  k8sAdmissionModeNonprod : Mode := .soft
  requireApprovalForProd : Bool := true
  requireApprovalForNonprod : Bool := false
  enforceProdRequesterReviewerSeparation : Bool := true
  enforceNonprodRequesterReviewerSeparation : Bool := false
  approvalRoutingRules : List ApprovalRoutingRule := []
  policyDocumentSchemaVersion : String
  policyDocumentSha256 : String
  planMonthlyCeilingUsd : Option Int := none
  enterpriseMonthlyCeilingUsd : Option Int := none
  autoApproveBelowMonthlyUsd : Int := 25_0000
  hardDenyAboveMonthlyUsd : Int := 5000_0000
  defaultTtlSeconds : Int := 900
  policyVersion : Int := 1

/-- The only writer, `upsert_budget`, refuses a negative limit. -/
structure BudgetAllocation where
  monthlyLimitUsd : Int
  active : Bool := true
  limitNonneg : 0 ≤ monthlyLimitUsd

structure CreditGrant where
  poolType : CreditPoolType := .reserved
  scopeKey : String := "default"
  totalAmountUsd : Int
  remainingAmountUsd : Int
  expiresAt : Option Nat := none
  reason : Option String := none
  active : Bool := true
  createdByUserId : Option Uuid := none
  createdAt : Nat
  deriving DecidableEq, Repr

/-- The four `CHECK` constraints of the table are the fields of every row. -/
structure CreditReservationAllocation where
  creditPoolType : CreditPoolType
  reservedAmountUsd : Int
  consumedAmountUsd : Int := 0
  releasedAmountUsd : Int := 0
  active : Bool := true
  settledAt : Option Nat := none
  reservedPositive : 0 < reservedAmountUsd
  consumedNonneg : 0 ≤ consumedAmountUsd
  releasedNonneg : 0 ≤ releasedAmountUsd
  settledWithinReserved : consumedAmountUsd + releasedAmountUsd ≤ reservedAmountUsd

structure CreditAllocationEntry where
  creditGrantId : Uuid
  creditPoolType : CreditPoolType
  scopeKey : String
  reservedAmountUsd : Int
  deriving DecidableEq, Repr

structure CreditSettlementEntry where
  creditGrantId : Uuid
  creditPoolType : CreditPoolType
  scopeKey : String
  reservedAmountUsd : Int
  consumedAmountUsd : Int
  releasedAmountUsd : Int
  grantRemainingAmountUsdAfter : Int
  deriving DecidableEq, Repr

structure StageDetail where
  stage : String
  status : String
  /-- `none` is printed as `unbounded`. -/
  availableUsd : Option Int
  consumedUsd : Int
  remainingAfterStageUsd : Int
  deriving DecidableEq, Repr

structure RoutingConditions where
  environment : String
  actionPrefixes : List String := []
  minMonthlyDeltaUsd : Option Int := none
  maxMonthlyDeltaUsd : Option Int := none
  riskLevels : List String := []
  riskLevel : Option String := none
  deriving DecidableEq, Repr

structure RoutingTrace where
  ruleId : String
  matchedRule : String
  requiredPermission : String
  allowedReviewerRoles : List String
  requireRequesterReviewerSeparation : Bool
  routingConditions : RoutingConditions
  deriving DecidableEq, Repr

/-- What the gate reads of the tenant's cost records; they are not part of this model. -/
structure DecisionComputedContext where
  dataSourceMode : String
  riskClass : String
  riskScore : Int
  anomalySignal : Bool
  burnRateDailyUsd : Int
  forecastEomUsd : Int
  deriving DecidableEq, Repr

structure GateInput where
  projectId : String
  environment : String
  action : String
  resourceReference : String
  estimatedMonthlyDeltaUsd : DecimalValue
  estimatedHourlyDeltaUsd : DecimalValue
  metadata : List (String × Json) := []
  idempotencyKey : Option String := none
  dryRun : Bool := false

structure RequestPayload where
  projectId : String
  environment : String
  action : String
  resourceReference : String
  estimatedMonthlyDeltaUsd : Int
  estimatedHourlyDeltaUsd : Option Int
  metadata : List (String × Json)
  dryRun : Bool

structure EntitlementPayload where
  allocationHeadroomUsd : Option Int
  creditsHeadroomUsd : Int
  reservedCreditsHeadroomUsd : Int
  emergencyCreditsHeadroomUsd : Int
  planMonthlyCeilingUsd : Option Int
  planHeadroomUsd : Option Int
  enterpriseMonthlyCeilingUsd : Option Int
  enterpriseHeadroomUsd : Option Int
  tenantTier : PricingTier
  entitlementReasonCode : Option String
  entitlementWaterfall : Option (List StageDetail)
  reservedCreditSplitReserved : Int
  reservedCreditSplitEmergency : Int
  deriving DecidableEq, Repr

structure FailSafePayload where
  failSafeTrigger : String
  failSafeDetails : Option (List (String × Json))

structure ReservationReconciliation where
  reconciledAt : Nat
  reconciledByUserId : Uuid
  expectedReservedUsd : Int
  actualMonthlyDeltaUsd : Int
  driftUsd : Int
  status : String
  notes : Option String
  idempotencyKey : Option String
  creditReservedUsd : Int
  creditConsumedUsd : Int
  creditReleasedUsd : Int
  creditSettlement : List CreditSettlementEntry
  deriving DecidableEq, Repr

structure AutoReconciliation where
  releasedAt : Nat
  releasedByUserId : Uuid
  releasedReservedUsd : Int
  olderThanSeconds : Int
  reason : String
  creditSettlement : List CreditSettlementEntry
  deriving DecidableEq, Repr

/-- The keys of `response_payload`; an absent key is `none`. -/
structure ResponsePayload where
  mode : Mode
  modeScope : String
  isProduction : Bool
  computedContext : DecisionComputedContext
  entitlement : Option EntitlementPayload := none
  failSafe : Option FailSafePayload := none
  creditReservationAllocations : Option (List CreditAllocationEntry) := none
  approvalExpiredAt : Option Nat := none
  creditSettlement : Option (List CreditSettlementEntry) := none
  approvalId : Option Uuid := none
  approvalRoutingRuleId : Option String := none
  approvalRoutingTrace : Option RoutingTrace := none
  approvedByUserId : Option Uuid := none
  approvedAt : Option Nat := none
  deniedByUserId : Option Uuid := none
  deniedAt : Option Nat := none
  reservationReconciliation : Option ReservationReconciliation := none
  autoReconciliation : Option AutoReconciliation := none
  approvalTokenConsumedAt : Option Nat := none
  approvalTokenConsumedByUserId : Option (Option Uuid) := none

structure Decision where
  source : Source
  environment : String
  projectId : String
  action : String
  resourceReference : String
  decision : DecisionType
  reasonCodes : List String
  policyVersion : Int
  policyDocumentSchemaVersion : String
  policyDocumentSha256 : String
  requestFingerprint : String
  idempotencyKey : String
  requestPayload : RequestPayload
  responsePayload : ResponsePayload
  estimatedMonthlyDeltaUsd : Int
  /-- `none` is a stored `NaN`. -/
  estimatedHourlyDeltaUsd : Option Int
  burnRateDailyUsd : Int
  forecastEomUsd : Int
  riskClass : String
  riskScore : Int
  anomalySignal : Bool
  allocationAvailableUsd : Option Int
  creditsAvailableUsd : Option Int
  reservedAllocationUsd : Int
  reservedCreditUsd : Int
  reservationActive : Bool
  approvalRequired : Bool
  approvalTokenIssued : Bool
  tokenExpiresAt : Option Nat
  createdByUserId : Uuid
  createdAt : Nat

/-- The columns of `uq_enforcement_decision_idempotency` besides the tenant. -/
def Decision.idempotency (decision : Decision) : Source × String :=
  (decision.source, decision.idempotencyKey)

structure ApprovalRequest where
  decisionId : Uuid
  status : ApprovalStatus := .pending
  requestedByUserId : Option Uuid
  reviewedByUserId : Option Uuid := none
  reviewNotes : Option String := none
  routingRuleId : Option String
  routingTrace : RoutingTrace
  approvalTokenHash : Option String := none
  approvalTokenExpiresAt : Option Nat := none
  approvalTokenConsumedAt : Option Nat := none
  expiresAt : Nat
  approvedAt : Option Nat := none
  deniedAt : Option Nat := none
  deriving DecidableEq, Repr

structure DecisionLedger where
  decisionId : Uuid
  source : Source
  environment : String
  projectId : String
  action : String
  resourceReference : String
  decision : DecisionType
  reasonCodes : List String
  policyVersion : Int
  policyDocumentSchemaVersion : String
  policyDocumentSha256 : String
  requestFingerprint : String
  idempotencyKey : String
  estimatedMonthlyDeltaUsd : Int
  estimatedHourlyDeltaUsd : Option Int
  burnRateDailyUsd : Int
  forecastEomUsd : Int
  riskClass : String
  riskScore : Int
  anomalySignal : Bool
  reservedTotalUsd : Int
  approvalRequired : Bool
  approvalRequestId : Option Uuid
  approvalStatus : Option ApprovalStatus
  requestPayloadSha256 : String
  responsePayloadSha256 : String
  createdByUserId : Uuid
  decisionCreatedAt : Nat
  deriving DecidableEq, Repr

structure CurrentUser where
  id : Uuid
  role : String
  deriving DecidableEq, Repr

/-- The rows of one tenant. Allocations are unique per decision and grant, decisions
per source and idempotency key, approvals per decision. -/
structure Store where
  tenantId : Uuid
  tenantTier : PricingTier
  policy : Policy
  budgets : Table String BudgetAllocation := .empty
  grants : Table Uuid CreditGrant := .empty
  allocations : Table (Uuid × Uuid) CreditReservationAllocation := .empty
  decisions : UniqueTable Uuid (Source × String) Decision Decision.idempotency := .empty
  approvals : UniqueTable Uuid Uuid ApprovalRequest ApprovalRequest.decisionId := .empty
  ledger : List DecisionLedger := []

namespace Store

def updateDecision (store : Store) (id : Uuid) (f : Decision → Decision)
    (keeps : ∀ row, (f row).idempotency = row.idempotency) : Store :=
  { store with decisions := store.decisions.update id f keeps }

def updateApproval (store : Store) (id : Uuid) (f : ApprovalRequest → ApprovalRequest)
    (keeps : ∀ row, (f row).decisionId = row.decisionId) : Store :=
  { store with approvals := store.approvals.update id f keeps }

end Store

/-- What a call can raise. The four kinds besides domain errors come from the
database driver and the decimal context. -/
inductive Fault where
  | decisionNotFound
  | approvalRequestNotFound
  | approvalDecisionNotFound
  | approvalNotRequired
  | approvalAlready (status : ApprovalStatus)
  | approvalExpired
  | reviewerRoleNotAllowed (role ruleId : String)
  | routingPermissionMissing
  | insufficientApprovalPermission (permission : String)
  | requesterReviewerSeparation
  | insufficientCreditHeadroom (pool : CreditPoolType) (missing : Int)
  | missingAllocationRows
  | missingCreditGrantRow
  | settlementDrift (remainingConsume remainingRelease : Int)
  | actualDeltaNegative
  | reservationNotActive
  | replayMismatch (field : String)
  | replayStatusInvalid
  | totalAmountNotPositive
  | expiresAtNotInFuture
  | monthlyLimitNegative
  | signingKeyNotConfigured
  | tokenRejected (event : String) (statusCode : Nat) (detail : String)
  | gateLockTimeout
  | gateLockContended
  | integrityError
  | invalidOperation
  | recoverable
  deriving DecidableEq, Repr

namespace Fault

/-- The status an `EnforcementDomainError` carries. -/
def statusCode : Fault → Option Nat
  | .decisionNotFound | .approvalRequestNotFound | .approvalDecisionNotFound => some 404
  | .approvalNotRequired | .approvalAlready _ | .approvalExpired | .routingPermissionMissing
  | .insufficientCreditHeadroom _ _ | .missingAllocationRows | .missingCreditGrantRow
  | .settlementDrift _ _ | .reservationNotActive | .replayMismatch _ | .replayStatusInvalid
  | .gateLockContended => some 409
  | .reviewerRoleNotAllowed _ _ | .insufficientApprovalPermission _
  | .requesterReviewerSeparation => some 403
  | .actualDeltaNegative | .totalAmountNotPositive | .expiresAtNotInFuture
  | .monthlyLimitNegative => some 422
  | .signingKeyNotConfigured | .gateLockTimeout => some 503
  | .tokenRejected _ statusCode _ => some statusCode
  | .integrityError | .invalidOperation | .recoverable => none

def detail : Fault → String
  | .decisionNotFound => "Decision not found"
  | .approvalRequestNotFound => "Approval request not found"
  | .approvalDecisionNotFound => "Approval decision not found"
  | .approvalNotRequired =>
    "Approval request can only be created for REQUIRE_APPROVAL decisions"
  | .approvalAlready status => "Approval request is already " ++ status.value
  | .approvalExpired => "Approval request has expired"
  | .reviewerRoleNotAllowed role ruleId =>
    "Reviewer role '" ++ role ++ "' is not allowed for routing rule '" ++ ruleId ++ "'"
  | .routingPermissionMissing => "Approval routing trace is missing required_permission"
  | .insufficientApprovalPermission permission =>
    "Insufficient approval permission: " ++ permission
  | .requesterReviewerSeparation =>
    "Requester/reviewer separation is enforced for this approval route"
  | .insufficientCreditHeadroom pool missing =>
    "Insufficient credit grant headroom during reservation allocation (pool=" ++ pool.value ++
      ", missing=" ++ (Decimal.ofUnits missing 4).text ++ ")"
  | .missingAllocationRows =>
    "Missing credit reservation allocation rows for decision settlement"
  | .missingCreditGrantRow => "Missing credit grant row for reservation allocation"
  | .settlementDrift remainingConsume remainingRelease =>
    "Credit reservation settlement drift detected (remaining_consume=" ++
      (Decimal.ofUnits remainingConsume 4).text ++ ", remaining_release=" ++
      (Decimal.ofUnits remainingRelease 4).text ++ ")"
  | .actualDeltaNegative => "actual_monthly_delta_usd must be >= 0"
  | .reservationNotActive => "Reservation is not active"
  | .replayMismatch field =>
    "Reservation reconciliation idempotency key replay payload mismatch (" ++ field ++ ")"
  | .replayStatusInvalid =>
    "Stored reservation reconciliation payload is invalid for idempotent replay (status)"
  | .totalAmountNotPositive => "total_amount_usd must be > 0"
  | .expiresAtNotInFuture => "expires_at must be in the future"
  | .monthlyLimitNegative => "monthly_limit_usd must be >= 0"
  | .signingKeyNotConfigured => "Approval token signing key is not configured"
  | .tokenRejected _ _ detail => detail
  | .gateLockTimeout => "Enforcement gate evaluation lock timeout"
  | .gateLockContended => "Unable to acquire enforcement gate evaluation lock"
  | .integrityError => "IntegrityError"
  | .invalidOperation => "InvalidOperation"
  | .recoverable => "SQLAlchemyError"

end Fault

abbrev Committed (α : Type) := Store × Except Fault α

def transaction (store : Store) (body : Except Fault (Store × α)) : Committed α :=
  match body with
  | .ok (next,value) => (next,.ok value)
  | .error fault => (store,.error fault)

end Valdrics.Enforcement

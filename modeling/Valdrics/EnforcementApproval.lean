import Valdrics.ApprovalToken
import Valdrics.EnforcementGate

/-! Approval requests: creation on demand, approval with a signed token, denial, the
expiry an approval attempt finds, and the single consumption of a token. -/
namespace Valdrics.Enforcement

open PythonText

structure ApprovalCall where
  decisionId : Uuid
  approvalId : Uuid
  actorId : Uuid
  notes : Option String
  now : Nat

structure ReviewCall where
  approvalId : Uuid
  reviewer : CurrentUser
  notes : Option String
  now : Nat
  tokenNow : Nat

structure IssuedToken where
  approvalId : Uuid
  decisionId : Uuid
  decision : Decision
  approvalToken : String
  tokenExpiresAt : Nat

/-- `str(notes).strip() if notes else None`. -/
def strippedNotes (notes : Option String) : Option String :=
  notes.bind fun notes => if notes = "" then none else some (strip notes)

namespace Decision

def releaseReservation (decision : Decision) : Decision :=
  { decision with
    reservationActive := false
    reservedAllocationUsd := 0
    reservedCreditUsd := 0 }

def releaseNoting (decision : Decision)
    (note : ResponsePayload → ResponsePayload) : Decision :=
  { decision.releaseReservation with responsePayload := note decision.responsePayload }

def issueToken (decision : Decision) (call : ReviewCall) (trace : RoutingTrace)
    (expiresAt : Nat) : Decision :=
  { decision with
    approvalTokenIssued := true
    tokenExpiresAt := some expiresAt
    responsePayload := { decision.responsePayload with
      approvalId := some call.approvalId
      approvalRoutingRuleId := some trace.ruleId
      approvalRoutingTrace := some trace
      approvedByUserId := some call.reviewer.id
      approvedAt := some call.now } }

def noteConsumption (decision : Decision) (actorId : Option Uuid) (now : Nat) : Decision :=
  { decision with responsePayload := { decision.responsePayload with
    approvalTokenConsumedAt := some now
    approvalTokenConsumedByUserId := some actorId } }

end Decision

namespace ApprovalRequest

def expire (approval : ApprovalRequest) : ApprovalRequest := { approval with status := .expired }

def takeTrace (approval : ApprovalRequest) (trace : RoutingTrace) : ApprovalRequest :=
  { approval with
    routingRuleId := if trace = approval.routingTrace then approval.routingRuleId
      else Service.routingRuleId trace
    routingTrace := trace }

def approve (approval : ApprovalRequest) (call : ReviewCall) (trace : RoutingTrace)
    (tokenHash : String) (expiresAt : Nat) : ApprovalRequest :=
  { approval.takeTrace trace with
    status := .approved
    reviewedByUserId := some call.reviewer.id
    reviewNotes := strippedNotes call.notes
    approvedAt := some call.now
    approvalTokenHash := some tokenHash
    approvalTokenExpiresAt := some expiresAt }

def deny (approval : ApprovalRequest) (call : ReviewCall) (trace : RoutingTrace) :
    ApprovalRequest :=
  { approval.takeTrace trace with
    status := .denied
    reviewedByUserId := some call.reviewer.id
    reviewNotes := strippedNotes call.notes
    deniedAt := some call.now }

def consume (approval : ApprovalRequest) (now : Nat) : ApprovalRequest :=
  { approval with approvalTokenConsumedAt := some now }

end ApprovalRequest

namespace Store

def loadApprovalWithDecision (store : Store) (approvalId : Uuid) :
    Except Fault (ApprovalRequest × Decision) := do
  let approval ← require (store.approvals.find approvalId) .approvalRequestNotFound
  let decision ← require (store.decisions.find approval.decisionId) .approvalDecisionNotFound
  return (approval,decision)

end Store

def assertPending (approval : ApprovalRequest) : Except Fault Unit :=
  refuse (approval.status ≠ .pending) (.approvalAlready approval.status)

namespace Service

variable (service : Service)

def createOrGetApprovalRequest (store : Store) (call : ApprovalCall) : Committed Uuid :=
  transaction store do
    let decision ← require (store.decisions.find call.decisionId) .decisionNotFound
    refuse (decision.decision ≠ .requireApproval) .approvalNotRequired
    match store.getApprovalByDecision call.decisionId with
    | some existing => return (store,existing.1)
    | none =>
      let trace := service.resolveApprovalRoutingTrace store.policy decision
      let approvals ← require (store.approvals.insert call.approvalId
        { decisionId := call.decisionId
          requestedByUserId := some call.actorId
          reviewNotes := strippedNotes call.notes
          routingRuleId := routingRuleId trace
          routingTrace := trace
          expiresAt := call.now + ttlSeconds store.policy * Calendar.microsPerSecond })
        .integrityError
      return (service.appendDecisionLedgerEntry { store with approvals } call.decisionId
        (some call.approvalId),call.approvalId)

/-- The settlement an expired or denied approval makes: nothing is consumed. -/
def releaseDecision (store : Store) (decisionId : Uuid) (decision : Decision) (now : Nat)
    (note : List CreditSettlementEntry → ResponsePayload → ResponsePayload) :
    Except Fault Store := do
  let (settled,entries) ←
    store.settleCreditReservationsForDecision decisionId decision.reservedCreditUsd 0 now
  return settled.updateDecision decisionId (·.releaseNoting (note entries)) fun _ => rfl

/-- A pending approval past its expiry is committed as expired before the call fails. -/
def expireApproval (store : Store) (approvalId : Uuid) (approval : ApprovalRequest)
    (decision : Decision) (now : Nat) : Except Fault Store := do
  let released ← releaseDecision (store.updateApproval approvalId (·.expire) fun _ => rfl)
    approval.decisionId decision now fun entries payload =>
      { payload with approvalExpiredAt := some now, creditSettlement := some entries }
  return service.appendDecisionLedgerEntry released approval.decisionId (some approvalId)

def grantApproval (store : Store) (call : ReviewCall) (approval : ApprovalRequest)
    (decision : Decision) : Except Fault (Store × IssuedToken) := do
  let trace ← service.enforceReviewerAuthority store.policy approval decision call.reviewer true
  let tokenExpiresAt := call.now + ttlSeconds store.policy * Calendar.microsPerSecond
  let approvalToken ← service.buildApprovalToken
    ⟨store.tenantId,approval.decisionId,decision,call.approvalId⟩ tokenExpiresAt call.tokenNow
  let approved := store.updateApproval call.approvalId
    (·.approve call trace (service.sha256 approvalToken) tokenExpiresAt) fun _ => rfl
  let issued := approved.updateDecision approval.decisionId
    (·.issueToken call trace tokenExpiresAt) fun _ => rfl
  return (service.appendDecisionLedgerEntry issued approval.decisionId (some call.approvalId),
    ⟨call.approvalId,approval.decisionId,decision.issueToken call trace tokenExpiresAt,
      approvalToken,tokenExpiresAt⟩)

def approveRequest (store : Store) (call : ReviewCall) : Committed IssuedToken :=
  match store.loadApprovalWithDecision call.approvalId with
  | .error fault => (store,.error fault)
  | .ok (approval,decision) =>
    match assertPending approval with
    | .error fault => (store,.error fault)
    | .ok _ =>
      if approval.expiresAt ≤ call.now then
        match service.expireApproval store call.approvalId approval decision call.now with
        | .ok next => (next,.error .approvalExpired)
        | .error fault => (store,.error fault)
      else transaction store (service.grantApproval store call approval decision)

def denyRequest (store : Store) (call : ReviewCall) : Committed Uuid :=
  transaction store do
    let (approval,decision) ← store.loadApprovalWithDecision call.approvalId
    let _ ← assertPending approval
    let trace ← service.enforceReviewerAuthority store.policy approval decision call.reviewer true
    let denied := store.updateApproval call.approvalId (·.deny call trace) fun _ => rfl
    let released ← releaseDecision denied approval.decisionId decision call.now
      fun entries payload =>
        { payload with
          approvalId := some call.approvalId
          approvalRoutingRuleId := some trace.ruleId
          approvalRoutingTrace := some trace
          deniedByUserId := some call.reviewer.id
          deniedAt := some call.now
          creditSettlement := some entries }
    return (service.appendDecisionLedgerEntry released approval.decisionId
      (some call.approvalId),call.approvalId)

end Service

structure ConsumeCall where
  approvalToken : String
  actorId : Option Uuid
  expectedSource : Option Source := none
  expectedProjectId : Option String := none
  expectedEnvironment : Option String := none
  expectedRequestFingerprint : Option String := none
  expectedResourceReference : Option String := none
  /-- The clock of the signing library, then of the service. -/
  decodedAt : Nat
  now : Nat

def tokenConflict (event detail : String) : Fault := .tokenRejected event 409 detail

/-- `==` of quantized amounts: a `NaN` equals nothing. -/
def sameAmount : Option Int → Option Int → Bool
  | some a, some b => a = b
  | _, _ => false

namespace Service

variable (service : Service)

def checkTokenActive (context : ApprovalTokenContext) (token : String)
    (approval : ApprovalRequest) (decision : Decision) (now : Nat) : Except Fault Unit := do
  refuse (approval.decisionId ≠ context.decisionId)
    (tokenConflict "decision_binding_mismatch" "Approval token decision binding mismatch")
  refuse (approval.status ≠ .approved) (tokenConflict "status_not_active"
    ("Approval token is not active (" ++ approval.status.value ++ ")"))
  refuse (approval.approvalTokenHash ≠ some (service.sha256 token))
    (tokenConflict "token_hash_mismatch" "Approval token mismatch")
  let expiry := (approval.approvalTokenExpiresAt.orElse fun _ => decision.tokenExpiresAt).getD
    context.expiresAt
  refuse (expiry ≤ now) (tokenConflict "token_expired" "Approval token has expired")

def checkTokenBindings (context : ApprovalTokenContext) (decision : Decision) :
    Except Fault Unit := do
  refuse (context.source ≠ decision.source)
    (tokenConflict "source_mismatch" "Approval token source mismatch")
  refuse (context.projectId ≠ decision.projectId)
    (tokenConflict "project_binding_mismatch" "Approval token project binding mismatch")
  refuse (service.normalizeEnvironment context.environment ≠
      service.normalizeEnvironment decision.environment)
    (tokenConflict "environment_mismatch" "Approval token environment mismatch")
  refuse (context.requestFingerprint ≠ decision.requestFingerprint)
    (tokenConflict "fingerprint_mismatch" "Approval token fingerprint mismatch")
  refuse (context.resourceReference ≠ decision.resourceReference)
    (tokenConflict "resource_binding_mismatch" "Approval token resource binding mismatch")
  refuse (sameAmount context.maxMonthlyDeltaUsd (some decision.estimatedMonthlyDeltaUsd) = false)
    (tokenConflict "cost_binding_mismatch" "Approval token cost binding mismatch")
  refuse (sameAmount context.maxHourlyDeltaUsd decision.estimatedHourlyDeltaUsd = false)
    (tokenConflict "cost_binding_mismatch" "Approval token cost binding mismatch")

def checkExpectedBindings (call : ConsumeCall) (decision : Decision) : Except Fault Unit := do
  refuse (∃ source ∈ call.expectedSource, source ≠ decision.source)
    (tokenConflict "expected_source_mismatch" "Expected source mismatch")
  refuse (∃ project ∈ call.expectedProjectId, strip project ≠ strip decision.projectId)
    (tokenConflict "expected_project_mismatch" "Expected project mismatch")
  refuse (∃ environment ∈ call.expectedEnvironment, service.normalizeEnvironment environment ≠
      service.normalizeEnvironment decision.environment)
    (tokenConflict "expected_environment_mismatch" "Expected environment mismatch")
  refuse (∃ fingerprint ∈ call.expectedRequestFingerprint,
      strip fingerprint ≠ decision.requestFingerprint)
    (tokenConflict "expected_fingerprint_mismatch" "Expected request fingerprint mismatch")
  refuse (∃ reference ∈ call.expectedResourceReference,
      strip reference ≠ decision.resourceReference)
    (tokenConflict "expected_resource_reference_mismatch"
      "Expected resource reference mismatch")

/-- The reading half of a consumption: everything before the conditional update. -/
def checkConsume (store : Store) (call : ConsumeCall) : Except Fault ApprovalTokenContext := do
  let token := strip call.approvalToken
  refuse (token = "") (.tokenRejected "token_missing" 422 "approval_token is required")
  let payload ← service.decodeApprovalToken token call.decodedAt
  let context ← service.extractTokenContext payload
  refuse (context.tenantId ≠ store.tenantId)
    (.tokenRejected "tenant_mismatch" 403 "Approval token tenant mismatch")
  let (approval,decision) ← store.loadApprovalWithDecision context.approvalId
  let _ ← service.checkTokenActive context token approval decision call.now
  let _ ← service.checkTokenBindings context decision
  let _ ← service.checkExpectedBindings call decision
  return context

/-- `UPDATE … WHERE approval_token_consumed_at IS NULL`, then the note on the decision. -/
def claimConsumption (store : Store) (context : ApprovalTokenContext) (call : ConsumeCall) :
    Except Fault (Store × Uuid) := do
  let approval ← require (store.approvals.find context.approvalId) .approvalRequestNotFound
  refuse (approval.approvalTokenConsumedAt ≠ none)
    (tokenConflict "replay_detected" "Approval token replay detected")
  let claimed := store.updateApproval context.approvalId (·.consume call.now) fun _ => rfl
  let next := claimed.updateDecision context.decisionId
    (·.noteConsumption call.actorId call.now) fun _ => rfl
  return (next,context.approvalId)

def consumeApprovalToken (store : Store) (call : ConsumeCall) : Committed Uuid :=
  transaction store do
    let context ← service.checkConsume store call
    claimConsumption store context call

end Service

end Valdrics.Enforcement

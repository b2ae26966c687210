import Valdrics.RemediationModels

/-! What the remediation calls compute: new requests, reviews, the hard-limit approval,
the checks before an execution and its result. Nothing here commits. -/
namespace Valdrics.Optimization

open Enforcement (Uuid Json JsonObject flushed)
open PythonText

def systemUserId : Uuid := 0

/-- `timedelta(hours=1)` in microseconds. -/
def microsPerHour : Int := 3600000000

namespace RemediationRequest

/-- The `UPDATE` of the changed columns, on the row as it is by then. -/
def flush (current loaded written : RemediationRequest) : RemediationRequest :=
  { current with
    status := flushed loaded.status written.status current.status
    backupResourceId :=
      flushed loaded.backupResourceId written.backupResourceId current.backupResourceId
    reviewedByUserId :=
      flushed loaded.reviewedByUserId written.reviewedByUserId current.reviewedByUserId
    reviewNotes := flushed loaded.reviewNotes written.reviewNotes current.reviewNotes
    executionError := flushed loaded.executionError written.executionError current.executionError
    scheduledExecutionAt :=
      flushed loaded.scheduledExecutionAt written.scheduledExecutionAt current.scheduledExecutionAt
    escalationRequired :=
      flushed loaded.escalationRequired written.escalationRequired current.escalationRequired
    escalationReason :=
      flushed loaded.escalationReason written.escalationReason current.escalationReason
    escalatedAt := flushed loaded.escalatedAt written.escalatedAt current.escalatedAt
    executedAt := flushed loaded.executedAt written.executedAt current.executedAt
    actionParameters :=
      flushed loaded.actionParameters written.actionParameters current.actionParameters }

def failWith (request : RemediationRequest) (text : String) : RemediationRequest :=
  { request with status := .failed, executionError := some (slice text 500) }

/-- The same on a session that rolled back: attributes set after a rollback are all
written, the ones the rollback took back are not. -/
def flushExpired (current : RemediationRequest) (text : String)
    (restored : Option (Option Int)) : RemediationRequest :=
  { current.failWith text with
    scheduledExecutionAt := restored.getD current.scheduledExecutionAt }

@[simp] theorem flush_target {current loaded written : RemediationRequest} :
    (current.flush loaded written).target = current.target := rfl

@[simp] theorem flushExpired_target {current : RemediationRequest} {text : String}
    {restored : Option (Option Int)} :
    (current.flushExpired text restored).target = current.target := rfl

def clashes (first second : RemediationRequest) : Prop :=
  first.status.isOpen = true ∧ second.status.isOpen = true ∧ first.target.findingId ≠ none ∧
    first.target.findingId = second.target.findingId ∧ first.target.action = second.target.action

instance : DecidableRel clashes := fun _ _ => inferInstanceAs (Decidable (_ ∧ _))

end RemediationRequest

/-- `uix_remediation_requests_open_finding_action`. -/
def RemediationStore.Indexed (store : RemediationStore) : Prop :=
  store.requests.rows.Pairwise fun a b => ¬a.2.clashes b.2

def systemPolicyContextKey : String := "_system_policy_context"

def sanitizeActionParameters (parameters : Option JsonObject) (context : JsonObject) :
    Option JsonObject :=
  let safe := (parameters.getD []).filter fun entry => entry.1 ≠ systemPolicyContextKey
  let marked := if context.isEmpty then safe else safe ++ [(systemPolicyContextKey,.obj context)]
  if marked.isEmpty then none else some marked

/-- What a creation is given; `connection` is the answer of the scoped connection lookup. -/
structure CreateCall where
  requestId : Uuid
  userId : Uuid
  resourceId : String
  resourceType : String
  action : RemediationAction
  estimatedSavings : Int
  provider : String
  createBackup : Bool := false
  backupRetentionDays : Int := 30
  confidenceScore : Option Int := none
  explainabilityNotes : Option String := none
  connectionId : Option Uuid := none
  parameters : Option JsonObject := none
  connection : Except RemediationFault Unit := .ok ()
  awsRegionHint : String := "us-east-1"
  systemContext : JsonObject := []

structure CreateFromFindingCall where
  requestId : Uuid
  userId : Uuid
  findingId : Uuid
  action : RemediationAction
  createBackup : Bool := false
  backupRetentionDays : Int := 30
  parameters : Option JsonObject := none
  connection : Except RemediationFault Unit := .ok ()
  systemContext : JsonObject := []

structure ReviewCall where
  reviewerId : Uuid
  notes : Option String := none
  reviewerRole : Option String := none
  /-- `policy_escalation_required_role` of the tenant's settings. -/
  escalationRole : Option String := none

inductive ReviewKind where
  | approve | reject
  deriving DecidableEq, Repr

inductive PolicyDecision where
  | allow | warn | block | escalate
  deriving DecidableEq, Repr

structure PolicyEvaluation where
  decision : PolicyDecision
  summary : String

/-- What the checks before an execution read outside the tables, and the clock readings. -/
structure ExecuteEnvironment where
  guards : Except RemediationFault Unit := .ok ()
  systemContext : JsonObject := []
  evaluation : PolicyEvaluation
  licenseReclaimGracePeriodDays : Option Int := none
  now : Int
  later : Int

inductive FirstWrite where
  | block
  | escalate
  | schedule
  | execute
  deriving DecidableEq, Repr

inductive CheckOutcome where
  | deferred
  | write (written : RemediationRequest) (kind : FirstWrite)

inductive ExecutionStatus where
  | success | failed | skipped
  deriving DecidableEq, Repr

structure ExecutionResult where
  status : ExecutionStatus
  errorMessage : Option String := none
  backupId : Option String := none

/-- `value or default` of an optional text. -/
def textOr (value : Option String) (default : String) : String := orDefault (value.getD "") default

def graceHours (action : RemediationAction) (days : Option Int) : Int :=
  if action = .reclaimLicenseSeat then
    (if days.getD 1 = 0 then 1 else days.getD 1) * 24
  else 24

namespace RemediationRequest

def hardLimitApproved (request : RemediationRequest) : RemediationRequest :=
  { request with
    status := .approved
    reviewedByUserId := some systemUserId
    reviewNotes := some "AUTO_APPROVED: Budget Hard Limit Exceeded" }

def block (request : RemediationRequest) (summary : String) : RemediationRequest :=
  { request with status := .failed, executionError := some ("POLICY_BLOCK: " ++ summary) }

def escalate (request : RemediationRequest) (summary : String) (now : Int) : RemediationRequest :=
  { request with
    status := .pendingApproval
    escalationRequired := true
    escalationReason := some summary
    escalatedAt := some now
    executionError := none }

def schedule (request : RemediationRequest) (at_ : Int) : RemediationRequest :=
  { request with status := .scheduled, scheduledExecutionAt := some at_ }

def execute (request : RemediationRequest) : RemediationRequest :=
  { request with status := .executing }

def applySystemPolicyContext (request : RemediationRequest) (context : JsonObject) :
    RemediationRequest :=
  { request with actionParameters := sanitizeActionParameters request.actionParameters context }

def inGracePeriod (request : RemediationRequest) (now : Int) : Bool :=
  request.status = .scheduled && request.scheduledExecutionAt.any fun at_ => now < at_

def applyExecutionResult (request : RemediationRequest) (result : ExecutionResult) (now : Int) :
    RemediationRequest :=
  match result.status with
  | .success => { request with
      status := .completed
      executedAt := some now
      backupResourceId := result.backupId
      executionError := none }
  | .skipped => { request with
      status := .failed
      executionError :=
        some (textOr result.errorMessage "Action skipped by validation or tier policy.") }
  | .failed => { request with
      status := .failed
      executionError := some (textOr result.errorMessage "Action failed.") }

def completedAt (written : RemediationRequest) : Option Int :=
  if written.status = .completed then written.executedAt else none

end RemediationRequest

/-- `bound_finding.status = RESOLVED` at the commit of a completed request. -/
def OptimizationFinding.resolve (finding : OptimizationFinding) (at_ : Int) :
    OptimizationFinding :=
  { finding with status := .resolved, resolvedAt := some at_ }

def toHundredths (thousandths : Int) : Int :=
  if 0 ≤ thousandths then (thousandths + 5) / 10 else -((5 - thousandths) / 10)

namespace RemediationRuntime

variable (runtime : RemediationRuntime)

/-- `create_remediation_request`. -/
def newRequest (call : CreateCall) : Except RemediationFault RemediationRequest := do
  let provider := runtime.normalizeProvider call.provider
  raiseIf (provider = "") (.raised
    "[invalid_provider] Invalid provider for remediation request creation. (Status: 400)")
  raiseIf (call.connectionId = none) (.raised ("[remediation_connection_required] An explicit " ++
    "active connection_id is required for remediation request creation. (Status: 400)"))
  call.connection
  return {
    target := {
      provider := provider
      connectionId := call.connectionId
      region := if provider = "aws" then call.awsRegionHint else "global"
      resourceId := call.resourceId
      resourceType := call.resourceType
      action := call.action }
    estimatedMonthlySavings := some call.estimatedSavings
    confidenceScore := call.confidenceScore
    explainabilityNotes := call.explainabilityNotes
    createBackup := call.createBackup
    backupRetentionDays := call.backupRetentionDays
    requestedByUserId := call.userId
    actionParameters := sanitizeActionParameters call.parameters call.systemContext }

/-- `create_remediation_request_from_finding`, up to its insert. -/
def newRequestFromFinding (store : RemediationStore) (call : CreateFromFindingCall) :
    Except RemediationFault RemediationRequest := do
  let finding ← getOpenFinding store.findings call.findingId
  let provider := runtime.normalizeProvider finding.provider
  raiseIf (provider = "") (.raised
    "[invalid_provider] Invalid provider for remediation request creation. (Status: 400)")
  call.connection
  raiseIf (∃ entry ∈ store.requests.rows, entry.2.target.findingId = some call.findingId ∧
    entry.2.target.action = call.action ∧ entry.2.status.isOpen = true) .duplicateOpenFinding
  return {
    target := {
      provider := provider
      connectionId := some finding.connectionId
      region := orDefault finding.region "global"
      resourceId := finding.resourceId
      resourceType := finding.resourceType
      action := call.action
      findingId := some call.findingId
      findingSnapshot := some (buildRequestFindingSnapshot finding) }
    estimatedMonthlySavings := some (finding.estimatedMonthlySavings.getD 0)
    confidenceScore := finding.confidenceScore.map toHundredths
    explainabilityNotes := finding.explainabilityNotes
    createBackup := call.createBackup
    backupRetentionDays := call.backupRetentionDays
    requestedByUserId := call.userId
    actionParameters := sanitizeActionParameters call.parameters call.systemContext }

/-- The role an escalated request needs: the owner's unless the settings name the admin's. -/
def requiredRole (escalationRole : Option String) : String :=
  let role := runtime.text.lower (strip (textOr escalationRole "owner"))
  if role ∈ ["owner","admin"] then role else "owner"

def escalationNotes (notes : Option String) : String :=
  match notes.filter (· ≠ "") with
  | none => "Owner escalation approval [gpu-approved]"
  | some notes =>
    if "gpu-approved".toList <:+: (runtime.text.lower notes).toList then notes
    else notes ++ "\n[gpu-approved]"

def checkPendingApproval (request : RemediationRequest) : Except RemediationFault Unit :=
  raiseIf (request.status ≠ .pending ∧ request.status ≠ .pendingApproval)
    (.notPendingApproval request.status)

def approveRequest (request : RemediationRequest) (call : ReviewCall) :
    Except RemediationFault RemediationRequest := do
  checkPendingApproval request
  let role := runtime.text.lower (strip (call.reviewerRole.getD ""))
  let required := runtime.requiredRole call.escalationRole
  raiseIf (request.escalationRequired = true ∧ role ≠ "owner" ∧ role ≠ required)
    (.escalationRole required)
  let notes := if request.escalationRequired then some (runtime.escalationNotes call.notes)
    else call.notes
  return { request with
    status := .approved
    reviewedByUserId := some call.reviewerId
    reviewNotes := notes
    escalationRequired := false
    escalationReason := none }

def rejectRequest (request : RemediationRequest) (call : ReviewCall) :
    Except RemediationFault RemediationRequest := do
  checkPendingApproval request
  return { request with
    status := .rejected
    reviewedByUserId := some call.reviewerId
    reviewNotes := call.notes
    escalationRequired := false
    escalationReason := none }

def review (kind : ReviewKind) (request : RemediationRequest) (call : ReviewCall) :
    Except RemediationFault RemediationRequest :=
  match kind with
  | .approve => runtime.approveRequest request call
  | .reject => rejectRequest request call

/-- `execute_remediation_request` from the row lock to its first commit. -/
def checkExecution (findings : Table Uuid OptimizationFinding) (bypassGracePeriod : Bool)
    (request : RemediationRequest) (env : ExecuteEnvironment) :
    Except RemediationFault CheckOutcome := do
  let _ ← runtime.validateRequestFindingBinding findings request.target
  env.guards
  raiseIf (request.status ≠ .approved ∧ request.status ≠ .scheduled) (.notApproved request.status)
  if request.inGracePeriod env.now = true ∧ bypassGracePeriod = false then
    return .deferred
  let request := request.applySystemPolicyContext env.systemContext
  match env.evaluation.decision with
  | .block => return .write (request.block env.evaluation.summary) .block
  | .escalate => return .write (request.escalate env.evaluation.summary env.later) .escalate
  | .allow | .warn =>
    if request.status = .approved ∧ bypassGracePeriod = false then
      let hours := graceHours request.target.action env.licenseReclaimGracePeriodDays
      return .write (request.schedule (env.later + hours * microsPerHour)) .schedule
    else return .write request.execute .execute

def unplaced (region : String) : Bool :=
  runtime.text.lower (strip region) = "" || runtime.text.lower (strip region) = "global"

/-- A request without a region of its own runs in its connection's. -/
def resolveExecutionRegion (target : RequestTarget)
    (serviceRegion credentialRegion awsRegionHint : String) : String :=
  let region := orDefault target.region serviceRegion
  let credential := strip credentialRegion
  let region := if runtime.unplaced region = true ∧ credential ≠ "" ∧
    runtime.text.lower credential ≠ "global" then credential else region
  if runtime.normalizeProvider target.provider = "aws" ∧ runtime.unplaced region = true
  then awsRegionHint else region

end RemediationRuntime

/-- `safe_actions` of the hard limit. -/
def hardLimitActions : List RemediationAction := [.stopInstance,.resizeInstance,.stopRdsInstance]

/-- Largest savings first; a missing amount sorts before every other. -/
def savingsBefore (a b : Option Int) : Bool :=
  match a, b with
  | none, _ => true
  | some _, none => false
  | some x, some y => y ≤ x

def hardLimitRequests (requests : Table Uuid RemediationRequest) :
    List (Uuid × RemediationRequest) :=
  (requests.rows.filter fun entry => entry.2.status = .pending &&
    (entry.2.confidenceScore.any fun confidence => 90 ≤ confidence) &&
      decide (entry.2.target.action ∈ hardLimitActions)).insertionSort fun a b =>
    savingsBefore a.2.estimatedMonthlySavings b.2.estimatedMonthlySavings

namespace BackgroundJob

/-- The `WHERE` clause of the fetch. -/
def due (job : BackgroundJob) (now : Int) : Bool :=
  job.status = .pending && job.scheduledFor ≤ now && job.attempts < job.maxAttempts

/-- `_fetch_and_lock_batch` on one job. -/
def fetch (job : BackgroundJob) (now : Int) : BackgroundJob :=
  { job with
    status := .running
    startedAt := some now
    attempts := job.attempts + 1
    completedAt := none
    errorMessage := none }

def complete (job : BackgroundJob) (now : Int) : BackgroundJob :=
  { job with status := .completed, completedAt := some now, errorMessage := none }

/-- `_apply_failure_transition` of an error that is not permanent. -/
def applyFailure (job : BackgroundJob) (text : String) (now : Int) : BackgroundJob :=
  if job.maxAttempts ≤ job.attempts then
    { job with status := .deadLetter, completedAt := some now, errorMessage := some text }
  else
    { job with
      status := .pending
      scheduledFor := now + 60000000 * 2 ^ (job.attempts - 1)
      startedAt := none
      completedAt := none
      errorMessage := some text }

/-- The `CancelledError` branch. -/
def cancel (job : BackgroundJob) (now : Int) : BackgroundJob :=
  { job with
    status := .pending
    scheduledFor := now + 60000000
    startedAt := none
    errorMessage := some "Job was cancelled" }

def stale (job : BackgroundJob) (now timeout : Int) : Bool :=
  job.status = .running && job.startedAt.any fun started => started ≤ now - timeout

end BackgroundJob

end Valdrics.Optimization

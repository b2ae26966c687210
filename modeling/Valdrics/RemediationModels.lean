import Valdrics.ActionExecution

/-! Rows of the remediation workflow: requests, the findings they are bound to, and the
jobs that pick up a scheduled request. The binding check compares a request with its
snapshot and the live finding. -/
namespace Valdrics.Optimization

open Enforcement (Uuid Json JsonObject flushed)
open PythonText

inductive RemediationStatus where
  | pending | pendingApproval | approved | executing | scheduled
  | completed | failed | rejected | cancelled
  deriving DecidableEq, Repr

namespace RemediationStatus

def value : RemediationStatus → String
  | .pending => "pending"
  | .pendingApproval => "pending_approval"
  | .approved => "approved"
  | .executing => "executing"
  | .scheduled => "scheduled"
  | .completed => "completed"
  | .failed => "failed"
  | .rejected => "rejected"
  | .cancelled => "cancelled"

/-- `_OPEN_FINDING_REQUEST_STATUSES`, and the statuses of the partial unique index. -/
def isOpen : RemediationStatus → Bool
  | .pending | .pendingApproval | .approved | .scheduled | .executing => true
  | .completed | .failed | .rejected | .cancelled => false

def terminal (status : RemediationStatus) : Bool := !status.isOpen

end RemediationStatus

inductive RemediationAction where
  | deleteVolume | deleteSnapshot | releaseElasticIp | stopInstance | terminateInstance
  | deleteS3Bucket | deleteEcrImage | deleteSagemakerEndpoint | deleteRedshiftCluster
  | deleteLoadBalancer | stopRdsInstance | deleteRdsInstance | deleteNatGateway | resizeInstance
  | deallocateAzureVm | resizeAzureVm | stopGcpInstance | resizeGcpInstance
  | revokeGithubSeat | reclaimLicenseSeat | manualReview
  deriving DecidableEq, Repr

inductive FindingSource where
  | zombieScan
  deriving DecidableEq, Repr

inductive FindingStatus where
  | «open» | resolved
  deriving DecidableEq, Repr

/-- Money in cents, a confidence in thousandths, instants in microseconds. -/
structure OptimizationFinding where
  source : FindingSource := .zombieScan
  status : FindingStatus := .open
  fingerprint : String
  provider : String
  connectionId : Uuid
  resourceId : String
  resourceType : String
  region : String := "global"
  estimatedMonthlySavings : Option Int := none
  confidenceScore : Option Int := none
  explainabilityNotes : Option String := none
  resolvedAt : Option Int := none
  deriving DecidableEq

structure FindingSnapshot where
  fingerprint : String
  provider : String
  connectionId : Uuid
  resourceId : String
  resourceType : String
  region : String
  deriving DecidableEq

structure RequestTarget where
  provider : String
  connectionId : Option Uuid
  region : String
  resourceId : String
  resourceType : String
  action : RemediationAction
  findingId : Option Uuid := none
  findingSnapshot : Option FindingSnapshot := none
  deriving DecidableEq

structure RemediationRequest where
  target : RequestTarget
  status : RemediationStatus := .pending
  estimatedMonthlySavings : Option Int
  confidenceScore : Option Int := none
  explainabilityNotes : Option String := none
  createBackup : Bool := false
  backupRetentionDays : Int := 30
  backupResourceId : Option String := none
  requestedByUserId : Uuid
  reviewedByUserId : Option Uuid := none
  reviewNotes : Option String := none
  executionError : Option String := none
  scheduledExecutionAt : Option Int := none
  escalationRequired : Bool := false
  escalationReason : Option String := none
  escalatedAt : Option Int := none
  executedAt : Option Int := none
  actionParameters : Option JsonObject := none

inductive JobStatus where
  | pending | running | completed | deadLetter
  deriving DecidableEq, Repr

structure BackgroundJob where
  requestId : Uuid
  status : JobStatus := .pending
  attempts : Nat := 0
  maxAttempts : Nat := 3
  scheduledFor : Int
  startedAt : Option Int := none
  completedAt : Option Int := none
  errorMessage : Option String := none

structure RemediationStore where
  requests : Table Uuid RemediationRequest := .empty
  findings : Table Uuid OptimizationFinding := .empty
  jobs : Table Uuid BackgroundJob := .empty

/-- `str(uuid)`: hexadecimal in groups of 8, 4, 4, 4 and 12. -/
def uuidText (id : Uuid) : String :=
  let digit (place : Nat) : Char := Nat.digitChar (id.toNat / 16 ^ (31 - place) % 16)
  let group (start size : Nat) : List Char := (List.range' start size).map digit
  String.ofList (List.intercalate ['-']
    [group 0 8,group 8 4,group 12 4,group 16 4,group 20 12])

inductive RemediationFault where
  | requestNotFound (id : Uuid)
  | invalidProvider
  | notPendingApproval (status : RemediationStatus)
  | escalationRole (required : String)
  | findingNotFound (id : Uuid)
  | findingInvalidSource
  | findingResolved
  | duplicateOpenFinding
  | snapshotMissing
  | contextMismatch (fields : List String)
  | findingDrifted
  | notApproved (status : RemediationStatus)
  /-- An exception of a guard, a lookup or a strategy, with its text. -/
  | raised (text : String)
  deriving DecidableEq, Repr

/-- `str(exc)`. -/
def RemediationFault.text : RemediationFault → String
  | .requestNotFound id => "[not_found] Request " ++ uuidText id ++ " not found (Status: 404)"
  | .invalidProvider => "Invalid or missing provider on remediation request"
  | .notPendingApproval status => "Request is " ++ status.value ++ ", not pending approval"
  | .escalationRole required =>
    "Escalated remediation requests require " ++ required ++ " approval."
  | .findingNotFound id => "[optimization_finding_not_found] Finding " ++ uuidText id ++
    " not found for this tenant. (Status: 404)"
  | .findingInvalidSource => "[optimization_finding_invalid_source] " ++
    "Finding source is not valid for this remediation flow. (Status: 400)"
  | .findingResolved => "[optimization_finding_resolved] " ++
    "Finding is no longer open for remediation. (Status: 409)"
  | .duplicateOpenFinding => "[remediation_request_duplicate_open_finding] " ++
    "An open remediation request already exists for this finding. (Status: 409)"
  | .snapshotMissing => "[remediation_finding_snapshot_missing] " ++
    "Remediation request is missing its immutable finding snapshot. (Status: 409)"
  | .contextMismatch _ => "[remediation_finding_context_mismatch] " ++
    "Remediation request no longer matches its bound finding context. (Status: 409)"
  | .findingDrifted => "[remediation_finding_drifted] " ++
    "Remediation finding has drifted from the approved snapshot. (Status: 409)"
  | .notApproved status =>
    "Request must be approved or scheduled (current: " ++ status.value ++ ")"
  | .raised text => text

/-- `raise fault` when the condition holds. -/
def raiseIf (bad : Prop) [Decidable bad] (fault : RemediationFault) :
    Except RemediationFault Unit :=
  if bad then .error fault else .ok ()

@[simp] theorem raiseIf_eq_ok {bad : Prop} [Decidable bad] {fault : RemediationFault} {u : Unit} :
    raiseIf bad fault = .ok u ↔ ¬bad := by
  by_cases holds : bad <;> simp [raiseIf, holds]

def supportedProviders : List String :=
  ["aws","azure","gcp","saas","license","platform","hybrid"]

structure RemediationRuntime where
  text : Lowercase

namespace RemediationRuntime

variable (runtime : RemediationRuntime)

def normalizeProvider (value : String) : String :=
  let normalized := runtime.text.lower (strip value)
  if normalized ∈ supportedProviders then normalized else ""

def normalizeRegion (value : String) : String :=
  orDefault (runtime.text.lower (strip value)) "global"

def mismatches (target : RequestTarget) (snapshot : FindingSnapshot) : List String :=
  (if runtime.normalizeProvider snapshot.provider ≠ runtime.normalizeProvider target.provider
    then ["provider"] else []) ++
  (if some snapshot.connectionId ≠ target.connectionId then ["connection_id"] else []) ++
  (if runtime.normalizeRegion snapshot.region ≠ runtime.normalizeRegion target.region
    then ["region"] else []) ++
  (if strip snapshot.resourceId ≠ strip target.resourceId then ["resource_id"] else []) ++
  (if strip snapshot.resourceType ≠ strip target.resourceType then ["resource_type"] else [])

def getOpenFinding (findings : Table Uuid OptimizationFinding) (id : Uuid) :
    Except RemediationFault OptimizationFinding :=
  match findings.find id with
  | none => .error (.findingNotFound id)
  | some finding => do
    raiseIf (finding.source ≠ .zombieScan) .findingInvalidSource
    raiseIf (finding.status ≠ .open) .findingResolved
    return finding

def validateLiveFinding (findings : Table Uuid OptimizationFinding) (snapshot : FindingSnapshot)
    (id : Uuid) : Except RemediationFault OptimizationFinding := do
  let finding ← getOpenFinding findings id
  raiseIf (strip snapshot.fingerprint ≠ "" ∧ strip snapshot.fingerprint ≠ finding.fingerprint)
    .findingDrifted
  return finding

def validateRequestFindingBinding (findings : Table Uuid OptimizationFinding)
    (target : RequestTarget) : Except RemediationFault (Option OptimizationFinding) :=
  match target.findingId, target.findingSnapshot with
  | none, none => .ok none
  | some _, none => .error .snapshotMissing
  | findingId, some snapshot => do
    raiseIf (runtime.mismatches target snapshot ≠ [])
      (.contextMismatch (runtime.mismatches target snapshot))
    match findingId with
    | none => return none
    | some id => return some (← validateLiveFinding findings snapshot id)

end RemediationRuntime

def buildRequestFindingSnapshot (finding : OptimizationFinding) : FindingSnapshot where
  fingerprint := finding.fingerprint
  provider := finding.provider
  connectionId := finding.connectionId
  resourceId := finding.resourceId
  resourceType := finding.resourceType
  region := orDefault finding.region "global"

end Valdrics.Optimization

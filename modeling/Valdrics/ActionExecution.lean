import Valdrics.ApprovalToken
import Valdrics.EnforcementGate

/-! Executions of actions: a request queues one, a worker leases it by a conditional
update, and completing, failing or cancelling it reads the row, checks it and writes the
columns it changed. -/
namespace Valdrics.Enforcement

open PythonText ApprovalToken

inductive ActionStatus where
  | queued | running | succeeded | failed | cancelled
  deriving DecidableEq, Repr

def ActionStatus.terminal : ActionStatus → Bool
  | .succeeded | .failed | .cancelled => true
  | .queued | .running => false

deriving instance BEq for Json

abbrev JsonObject := List (String × Json)

structure ActionExecution where
  decisionId : Uuid
  approvalRequestId : Option Uuid
  actionType : String
  targetReference : String
  idempotencyKey : String
  requestPayload : JsonObject
  requestPayloadSha256 : String
  status : ActionStatus := .queued
  attemptCount : Nat := 0
  maxAttempts : Nat
  retryBackoffSeconds : Nat
  leaseTtlSeconds : Nat
  nextRetryAt : Nat
  lockedByWorkerId : Option Uuid := none
  leaseExpiresAt : Option Nat := none
  lastErrorCode : Option String := none
  lastErrorMessage : Option String := none
  resultPayload : Option JsonObject := none
  resultPayloadSha256 : Option String := none
  createdByUserId : Uuid
  startedAt : Option Nat := none
  completedAt : Option Nat := none
  createdAt : Nat

/-- The columns of `uq_enforcement_action_idempotency` besides the tenant. -/
def ActionExecution.idempotency (action : ActionExecution) : Uuid × String × String :=
  (action.decisionId,action.actionType,action.idempotencyKey)

/-- `EnforcementActionError`, and the constraint violation that is re-raised. -/
inductive ActionFault where
  | decisionNotFound
  | actionNotFound
  | deniedDecision
  | approvalNotApproved
  | required (field : String)
  | tooLong (field : String) (bound : Nat)
  | outOfRange (field : String) (least most : Int)
  | notRunning (verb : String)
  | leasedByAnother
  | terminalAction
  | integrityError
  deriving DecidableEq, Repr

namespace ActionFault

def statusCode : ActionFault → Option Nat
  | .decisionNotFound | .actionNotFound => some 404
  | .deniedDecision | .approvalNotApproved | .notRunning _ | .leasedByAnother
  | .terminalAction => some 409
  | .required _ | .tooLong _ _ | .outOfRange _ _ _ => some 422
  | .integrityError => none

def detail : ActionFault → String
  | .decisionNotFound => "Decision not found"
  | .actionNotFound => "Action execution not found"
  | .deniedDecision => "Cannot enqueue action for denied decision"
  | .approvalNotApproved =>
    "Cannot enqueue action before approval is approved for approval-required decision"
  | .required field => field ++ " is required"
  | .tooLong field bound => field ++ " must be <= " ++ toString bound ++ " characters"
  | .outOfRange field least most =>
    field ++ " must be between " ++ toString least ++ " and " ++ toString most
  | .notRunning verb => "Only running actions can be " ++ verb
  | .leasedByAnother => "Action lease is owned by another worker"
  | .terminalAction => "Terminal action cannot be cancelled"
  | .integrityError => "IntegrityError"

end ActionFault

/-- `raise EnforcementActionError` when the condition holds. -/
def rejectIf (bad : Prop) [Decidable bad] (fault : ActionFault) : Except ActionFault Unit :=
  if bad then .error fault else .ok ()

@[simp] theorem rejectIf_eq_ok {bad : Prop} [Decidable bad] {fault : ActionFault} {u : Unit} :
    rejectIf bad fault = .ok u ↔ ¬bad := by
  unfold rejectIf
  split <;> simp_all

structure PolicyDocumentExecutionMatrix where
  defaultTtlSeconds : Int := 900
  actionMaxAttempts : Int := 3
  actionRetryBackoffSeconds : Int := 60
  actionLeaseTtlSeconds : Int := 300
  deriving DecidableEq, Repr

/-- The tables the orchestrator works on. `execution` is that section of the stored policy
document, absent when there is no policy or its document does not validate. -/
structure ActionStore where
  store : Store
  execution : Option PolicyDocumentExecutionMatrix := none
  actions : UniqueTable Uuid (Uuid × String × String) ActionExecution
    ActionExecution.idempotency := .empty

/-- What the orchestrator computes with: `_json_sha256` and SHA-256 of a text. -/
structure ActionOrchestrator where
  text : Lowercase
  jsonSha256 : JsonObject → String
  sha256 : String → String

structure ActionCreateCall where
  actionId : Uuid
  actorId : Uuid
  decisionId : Uuid
  actionType : String
  targetReference : String
  requestPayload : JsonObject := []
  idempotencyKey : Option String := none
  maxAttempts : Option Int := none
  retryBackoffSeconds : Option Int := none
  leaseTtlSeconds : Option Int := none
  now : Nat
  createdAt : Nat

structure ActionLeaseCall where
  workerId : Uuid
  actionType : Option String := none
  asOf : Nat

inductive FinishCall where
  | complete (workerId : Uuid) (resultPayload : JsonObject) (now : Nat)
  | fail (workerId : Uuid) (errorCode errorMessage : String) (retryable : Bool)
    (resultPayload : JsonObject) (now : Nat)
  | cancel (actorId : Uuid) (reason : Option String) (now : Nat)

def flushed [BEq α] (loaded value current : α) : α := if value == loaded then current else value

theorem flushed_or [BEq α] (loaded value current : α) :
    flushed loaded value current = current ∨ flushed loaded value current = value := by
  cases changed : value == loaded with
  | true => exact Or.inl (by simp [flushed,changed])
  | false => exact Or.inr (by simp [flushed,changed])

namespace ActionExecution

/-- The `UPDATE` of the changed columns, on the row as it is by then. -/
def flush (current loaded action : ActionExecution) : ActionExecution :=
  { current with
    status := flushed loaded.status action.status current.status
    nextRetryAt := flushed loaded.nextRetryAt action.nextRetryAt current.nextRetryAt
    lockedByWorkerId :=
      flushed loaded.lockedByWorkerId action.lockedByWorkerId current.lockedByWorkerId
    leaseExpiresAt := flushed loaded.leaseExpiresAt action.leaseExpiresAt current.leaseExpiresAt
    lastErrorCode := flushed loaded.lastErrorCode action.lastErrorCode current.lastErrorCode
    lastErrorMessage :=
      flushed loaded.lastErrorMessage action.lastErrorMessage current.lastErrorMessage
    resultPayload := flushed loaded.resultPayload action.resultPayload current.resultPayload
    resultPayloadSha256 :=
      flushed loaded.resultPayloadSha256 action.resultPayloadSha256 current.resultPayloadSha256
    completedAt := flushed loaded.completedAt action.completedAt current.completedAt }

/-- The `WHERE` clause of the lease query. -/
def leasable (action : ActionExecution) (asOf : Nat) (actionType : Option String) : Bool :=
  action.status = .queued && action.nextRetryAt ≤ asOf &&
    action.attemptCount < action.maxAttempts &&
    (action.leaseExpiresAt.all fun expiry => expiry ≤ asOf) &&
    (actionType.all fun wanted => action.actionType = wanted)

/-- The `WHERE` clause of the claim: the row is still as the candidate was. -/
def claimable (current candidate : ActionExecution) (asOf : Nat) : Bool :=
  current.status = .queued && current.attemptCount = candidate.attemptCount &&
    (current.leaseExpiresAt.all fun expiry => expiry ≤ asOf)

def lease (current candidate : ActionExecution) (call : ActionLeaseCall) : ActionExecution :=
  { current with
    status := .running
    attemptCount := candidate.attemptCount + 1
    lockedByWorkerId := some call.workerId
    leaseExpiresAt := some (call.asOf + candidate.leaseTtlSeconds * Calendar.microsPerSecond)
    startedAt := some (candidate.startedAt.getD call.asOf) }

end ActionExecution

namespace ActionOrchestrator

variable (orchestrator : ActionOrchestrator)

def normalizeActionType (value : String) : String := orchestrator.text.lower (strip value)

/-- `str(value or "").strip()[:128]`, and `None` when nothing is left. -/
def normalizedIdempotencyKey (value : Option String) : Option String :=
  let key := strip (value.getD "")
  if key = "" then none else some (slice key 128)

def resolvePolicyExecutionControls (execution : Option PolicyDocumentExecutionMatrix) :
    Int × Int × Int :=
  match execution with
  | none => (3,60,300)
  | some matrix =>
    (max 1 (min matrix.actionMaxAttempts 10),max 1 (min matrix.actionRetryBackoffSeconds 86400),
      max 30 (min matrix.actionLeaseTtlSeconds 3600))

def assertActionRequestAllowed (decision : Decision) (approval : Option (Uuid × ApprovalRequest)) :
    Except ActionFault (Option Uuid) :=
  let approved := approval.bind fun entry =>
    if entry.2.status = .approved then some entry.1 else none
  if decision.decision = .deny then .error .deniedDecision
  else if decision.approvalRequired then
    match approved with
    | some id => .ok (some id)
    | none => .error .approvalNotApproved
  else .ok approved

def defaultIdempotencyKey (decisionId : Uuid) (actionType targetReference payloadSha256 : String) :
    String :=
  slice (orchestrator.sha256 (uuidText decisionId ++ ":" ++ actionType ++ ":" ++
    targetReference ++ ":" ++ payloadSha256)) 40

/-- The row a call queues, once its fields are in order. -/
def newAction (s : ActionStore) (call : ActionCreateCall) : Except ActionFault ActionExecution := do
  let actionType := orchestrator.normalizeActionType call.actionType
  let _ ← rejectIf (actionType = "") (.required "action_type")
  let _ ← rejectIf (64 < actionType.toList.length) (.tooLong "action_type" 64)
  let targetReference := strip call.targetReference
  let _ ← rejectIf (targetReference = "") (.required "target_reference")
  let _ ← rejectIf (512 < targetReference.toList.length) (.tooLong "target_reference" 512)
  match s.store.decisions.find call.decisionId with
  | none => .error .decisionNotFound
  | some decision =>
    let approvalRequestId ← assertActionRequestAllowed decision
      (s.store.getApprovalByDecision call.decisionId)
    let controls := resolvePolicyExecutionControls s.execution
    let maxAttempts := call.maxAttempts.getD controls.1
    let retryBackoffSeconds := call.retryBackoffSeconds.getD controls.2.1
    let leaseTtlSeconds := call.leaseTtlSeconds.getD controls.2.2
    let _ ← rejectIf (maxAttempts < 1 ∨ 10 < maxAttempts) (.outOfRange "max_attempts" 1 10)
    let _ ← rejectIf (retryBackoffSeconds < 1 ∨ 86400 < retryBackoffSeconds)
      (.outOfRange "retry_backoff_seconds" 1 86400)
    let _ ← rejectIf (leaseTtlSeconds < 30 ∨ 3600 < leaseTtlSeconds)
      (.outOfRange "lease_ttl_seconds" 30 3600)
    let payloadSha256 := orchestrator.jsonSha256 call.requestPayload
    return {
      decisionId := call.decisionId
      approvalRequestId := approvalRequestId
      actionType := actionType
      targetReference := targetReference
      idempotencyKey := (normalizedIdempotencyKey call.idempotencyKey).getD
        (orchestrator.defaultIdempotencyKey call.decisionId actionType targetReference
          payloadSha256)
      requestPayload := call.requestPayload
      requestPayloadSha256 := payloadSha256
      maxAttempts := maxAttempts.toNat
      retryBackoffSeconds := retryBackoffSeconds.toNat
      leaseTtlSeconds := leaseTtlSeconds.toNat
      nextRetryAt := call.now
      createdByUserId := call.actorId
      createdAt := call.createdAt }

/-- A row that is already queued under the key is returned instead. -/
def createActionRequest (s : ActionStore) (call : ActionCreateCall) :
    ActionStore × Except ActionFault Uuid :=
  match orchestrator.newAction s call with
  | .error fault => (s,.error fault)
  | .ok action =>
    match s.actions.lookup action.idempotency with
    | some existing => (s,.ok existing.1)
    | none =>
      match s.actions.insert call.actionId action with
      | some actions => ({ s with actions },.ok call.actionId)
      | none => (s,.error .integrityError)

def leaseCandidate (s : ActionStore) (call : ActionLeaseCall) : Option (Uuid × ActionExecution) :=
  ((s.actions.rows.filter fun entry => entry.2.leasable call.asOf
      (call.actionType.map orchestrator.normalizeActionType)).insertionSort fun a b =>
    a.2.nextRetryAt < b.2.nextRetryAt ∨
      (a.2.nextRetryAt = b.2.nextRetryAt ∧ a.2.createdAt ≤ b.2.createdAt)).head?

/-- The conditional `UPDATE` of the candidate's row, which one of several leases wins. -/
def claimLease (s : ActionStore) (id : Uuid) (candidate : ActionExecution)
    (call : ActionLeaseCall) : Option ActionStore :=
  match s.actions.find id with
  | none => none
  | some current =>
    if current.claimable candidate call.asOf then
      some { s with actions := s.actions.update id (·.lease candidate call) fun _ => rfl }
    else none

/-- `for _ in range(5)`, without another caller in between. -/
def leaseLoop (call : ActionLeaseCall) : Nat → ActionStore → ActionStore × Option Uuid
  | 0, s => (s,none)
  | tries + 1, s =>
    match orchestrator.leaseCandidate s call with
    | none => (s,none)
    | some (id,candidate) =>
      match claimLease s id candidate call with
      | some next => (next,some id)
      | none => leaseLoop call tries s

def leaseNextAction (s : ActionStore) (call : ActionLeaseCall) : ActionStore × Option Uuid :=
  orchestrator.leaseLoop call 5 s

def checkLeased (verb : String) (action : ActionExecution) (workerId : Uuid) :
    Except ActionFault Unit := do
  let _ ← rejectIf (action.status ≠ .running) (.notRunning verb)
  rejectIf (action.lockedByWorkerId ≠ none ∧ action.lockedByWorkerId ≠ some workerId)
    .leasedByAnother

/-- `complete_action_impl` on the row it loaded. -/
def completeAction (action : ActionExecution) (workerId : Uuid) (resultPayload : JsonObject)
    (now : Nat) : Except ActionFault ActionExecution := do
  let _ ← checkLeased "completed" action workerId
  return { action with
    status := .succeeded
    resultPayload := some resultPayload
    resultPayloadSha256 := some (orchestrator.jsonSha256 resultPayload)
    lastErrorCode := none
    lastErrorMessage := none
    lockedByWorkerId := none
    leaseExpiresAt := none
    completedAt := some now
    nextRetryAt := now }

/-- `fail_action_impl`: queued again while attempts are left and the caller allows it. -/
def failAction (action : ActionExecution) (workerId : Uuid) (errorCode errorMessage : String)
    (retryable : Bool) (resultPayload : JsonObject) (now : Nat) :
    Except ActionFault ActionExecution := do
  let _ ← checkLeased "failed" action workerId
  let code := orchestrator.text.lower (strip errorCode)
  let _ ← rejectIf (code = "") (.required "error_code")
  let _ ← rejectIf (64 < code.toList.length) (.tooLong "error_code" 64)
  let message := strip errorMessage
  let _ ← rejectIf (message = "") (.required "error_message")
  let _ ← rejectIf (1000 < message.toList.length) (.tooLong "error_message" 1000)
  let payload := if resultPayload.isEmpty then
      [("error_code",.str code),("error_message",.str message),("retryable",.bool retryable)]
    else resultPayload
  let failed : ActionExecution :=
    { action with
      lastErrorCode := some code
      lastErrorMessage := some message
      resultPayload := some payload
      resultPayloadSha256 := some (orchestrator.jsonSha256 payload)
      lockedByWorkerId := none
      leaseExpiresAt := none }
  if retryable ∧ action.attemptCount < action.maxAttempts then
    return { failed with
      status := .queued
      nextRetryAt := now + action.retryBackoffSeconds * Calendar.microsPerSecond
      completedAt := none }
  else return { failed with status := .failed, nextRetryAt := now, completedAt := some now }

/-- `cancel_action_impl`; a reason is noted as the last error. -/
def cancelAction (action : ActionExecution) (actorId : Uuid) (reason : Option String)
    (now : Nat) : Except ActionFault ActionExecution := do
  let _ ← rejectIf (action.status.terminal = true) .terminalAction
  let cancelled : ActionExecution :=
    { action with
      status := .cancelled
      lockedByWorkerId := none
      leaseExpiresAt := none
      completedAt := some now
      nextRetryAt := now }
  match reason with
  | none => return cancelled
  | some reason =>
    let message := orDefault (slice (strip reason) 1000) "cancelled"
    let payload : JsonObject :=
      [("cancelled_by",.str (uuidText actorId)),("reason",.str message)]
    return { cancelled with
      lastErrorCode := some "cancelled"
      lastErrorMessage := some message
      resultPayload := some payload
      resultPayloadSha256 := some (orchestrator.jsonSha256 payload) }

def finish (call : FinishCall) (loaded : ActionExecution) : Except ActionFault ActionExecution :=
  match call with
  | .complete workerId resultPayload now =>
    orchestrator.completeAction loaded workerId resultPayload now
  | .fail workerId errorCode errorMessage retryable resultPayload now =>
    orchestrator.failAction loaded workerId errorCode errorMessage retryable resultPayload now
  | .cancel actorId reason now => orchestrator.cancelAction loaded actorId reason now

def finishAction (s : ActionStore) (id : Uuid) (call : FinishCall) :
    ActionStore × Except ActionFault Unit :=
  match s.actions.find id with
  | none => (s,.error .actionNotFound)
  | some loaded =>
    match orchestrator.finish call loaded with
    | .error fault => (s,.error fault)
    | .ok action =>
      ({ s with actions := s.actions.update id (·.flush loaded action) fun _ => rfl },.ok ())

end ActionOrchestrator

structure Finishes (call : FinishCall) (loaded action : ActionExecution) : Prop where
  live : loaded.status.terminal = false
  moved : action.status ≠ loaded.status
  status : action.status.terminal = true ∨
    (action.status = .queued ∧ loaded.attemptCount < loaded.maxAttempts)
  unlocked : action.lockedByWorkerId = none
  unleased : action.leaseExpiresAt = none
  attemptCount : action.attemptCount = loaded.attemptCount
  maxAttempts : action.maxAttempts = loaded.maxAttempts
  owner : (∃ actorId reason now, call = .cancel actorId reason now) ∨
    (loaded.status = .running ∧ ∃ workerId,
      (loaded.lockedByWorkerId = none ∨ loaded.lockedByWorkerId = some workerId) ∧
      ((∃ payload now, call = .complete workerId payload now) ∨
        ∃ code message retryable payload now,
          call = .fail workerId code message retryable payload now))

namespace ActionOrchestrator

variable {orchestrator : ActionOrchestrator} {loaded action : ActionExecution}

theorem checkLeased_eq_ok {verb : String} {workerId : Uuid} {u : Unit}
    (checked : checkLeased verb loaded workerId = .ok u) : loaded.status = .running ∧
      (loaded.lockedByWorkerId = none ∨ loaded.lockedByWorkerId = some workerId) := by
  obtain ⟨_,running,owned⟩ := bind_eq_ok.mp checked
  rw [rejectIf_eq_ok] at running owned
  refine ⟨by simpa using running,?_⟩
  by_contra other
  exact owned (not_or.mp other)

theorem finish_eq_ok {call : FinishCall} (finished : orchestrator.finish call loaded = .ok action) :
    Finishes call loaded action := by
  cases call with
  | complete workerId payload now =>
    obtain ⟨_,checked,result⟩ := bind_eq_ok.mp finished
    obtain ⟨running,owned⟩ := checkLeased_eq_ok checked
    obtain rfl := Except.ok.inj result
    exact ⟨by simp [running,ActionStatus.terminal],by simp [running],Or.inl rfl,rfl,rfl,rfl,rfl,
      Or.inr ⟨running,workerId,owned,Or.inl ⟨payload,now,rfl⟩⟩⟩
  | fail workerId code message retryable payload now =>
    obtain ⟨_,checked,afterCheck⟩ := bind_eq_ok.mp finished
    obtain ⟨running,owned⟩ := checkLeased_eq_ok checked
    obtain ⟨_,_,afterCode⟩ := bind_eq_ok.mp afterCheck
    obtain ⟨_,_,afterCode'⟩ := bind_eq_ok.mp afterCode
    obtain ⟨_,_,afterMessage⟩ := bind_eq_ok.mp afterCode'
    obtain ⟨_,_,result⟩ := bind_eq_ok.mp afterMessage
    have owner : (∃ actorId reason now', FinishCall.fail workerId code message retryable payload now =
        .cancel actorId reason now') ∨ (loaded.status = .running ∧ ∃ workerId',
          (loaded.lockedByWorkerId = none ∨ loaded.lockedByWorkerId = some workerId') ∧
          ((∃ payload' now', FinishCall.fail workerId code message retryable payload now =
            .complete workerId' payload' now') ∨ ∃ code' message' retryable' payload' now',
              FinishCall.fail workerId code message retryable payload now =
                .fail workerId' code' message' retryable' payload' now')) :=
      Or.inr ⟨running,workerId,owned,Or.inr ⟨code,message,retryable,payload,now,rfl⟩⟩
    dsimp only at result
    split at result
    · next again =>
      obtain rfl := Except.ok.inj result
      exact ⟨by simp [running,ActionStatus.terminal],by simp [running],Or.inr ⟨rfl,again.2⟩,rfl,rfl,
        rfl,rfl,owner⟩
    · obtain rfl := Except.ok.inj result
      exact ⟨by simp [running,ActionStatus.terminal],by simp [running],Or.inl rfl,rfl,rfl,rfl,rfl,
        owner⟩
  | cancel actorId reason now =>
    obtain ⟨_,checked,result⟩ := bind_eq_ok.mp finished
    rw [rejectIf_eq_ok, Bool.not_eq_true] at checked
    have moved : ActionStatus.cancelled ≠ loaded.status := by
      intro same
      simp [← same,ActionStatus.terminal] at checked
    cases reason with
    | none =>
      obtain rfl := Except.ok.inj result
      exact ⟨checked,moved,Or.inl rfl,rfl,rfl,rfl,rfl,Or.inl ⟨actorId,none,now,rfl⟩⟩
    | some reason =>
      obtain rfl := Except.ok.inj result
      exact ⟨checked,moved,Or.inl rfl,rfl,rfl,rfl,rfl,Or.inl ⟨actorId,some reason,now,rfl⟩⟩

end ActionOrchestrator

namespace ActionExecution

variable {current loaded action : ActionExecution}

@[simp] theorem flush_attemptCount :
    (current.flush loaded action).attemptCount = current.attemptCount := rfl

@[simp] theorem flush_maxAttempts :
    (current.flush loaded action).maxAttempts = current.maxAttempts := rfl

theorem flushed_same [BEq α] [LawfulBEq α] (loaded value : α) : flushed loaded value loaded = value := by
  unfold flushed
  split
  · next same => exact (eq_of_beq same).symm
  · rfl

theorem flushed_moved [BEq α] [LawfulBEq α] {loaded value : α} (moved : value ≠ loaded)
    (current : α) : flushed loaded value current = value := by
  unfold flushed
  rw [if_neg]
  simpa using moved

end ActionExecution

end Valdrics.Enforcement

import Valdrics.Interleaving
import Valdrics.RemediationWorkflow

/-! The remediation calls and the REMEDIATION jobs of one tenant as parties that take their
statements in any order. A session keeps the copy of a row that it read first: a later
`SELECT FOR UPDATE` takes the lock and answers with that copy. -/
namespace Valdrics.Optimization

open Enforcement (Uuid JsonObject)

structure Invocation where
  target : RequestTarget
  executionRegion : String
  finding : Option OptimizationFinding
  invokedAt : Int

inductive HistoryEntry where
  | approved (requestId : Uuid) (target : RequestTarget)
  | escalated (requestId : Uuid)
  | called (requestId : Uuid) (calledAt : Int)
  | scheduled (requestId jobId : Uuid) (hours : Int)
  | invoked (requestId : Uuid) (invocation : Invocation)

/-- The committed tables, the history, and the time that no worker's clock need agree with. -/
structure Remediation where
  store : RemediationStore
  history : List HistoryEntry := []
  clock : Int := 0

/-- Who made a call of `execute`: a service caller, a job's handler, or a hard-limit loop
with the requests it has still to visit. -/
inductive Caller where
  | service
  | job (jobId : Uuid)
  | sweep (bypassGracePeriod : Bool) (rest : List (Uuid × RemediationRequest))

structure Execution where
  caller : Caller
  requestId : Uuid
  bypassGracePeriod : Bool

/-- Where a session stands. `copy` is the request as the session has it in memory, `row`
the row its lock was taken on. -/
inductive RemediationPhase where
  | idle
  | loaded (requestId : Uuid) (copy : RemediationRequest)
  | reviewing (kind : ReviewKind) (requestId : Uuid) (copy row written : RemediationRequest)
  | fetched (jobId : Uuid)
  | handling (jobId requestId : Uuid) (copy : RemediationRequest)
  | opened (execution : Execution) (copy : RemediationRequest)
  | checking (execution : Execution) (copy row : RemediationRequest)
  | writing (execution : Execution) (copy row written : RemediationRequest) (write : FirstWrite)
      (hours : Int)
  | executing (execution : Execution) (copy : RemediationRequest)
  | invoked (execution : Execution) (copy : RemediationRequest)
  | finished (execution : Execution) (copy written : RemediationRequest)
  | failing (execution : Execution) (copy row written : RemediationRequest)
  | failingExpired (execution : Execution) (text : String) (restored : Option (Option Int))
  | failingLate (execution : Execution) (copy written : RemediationRequest)
      (resolvedAt : Option Int)
  | returning (execution : Execution)
  | reporting (jobId : Uuid) (failure : Option String)
  | sweeping (bypassGracePeriod : Bool) (rest : List (Uuid × RemediationRequest))
  | approving (bypassGracePeriod : Bool) (requestId : Uuid) (copy written : RemediationRequest)
      (rest : List (Uuid × RemediationRequest))

namespace RemediationPhase

def held : RemediationPhase → List Uuid
  | .reviewing _ requestId _ _ _ | .approving _ requestId _ _ _ => [requestId]
  | .checking execution _ _ | .writing execution _ _ _ _ _ | .failing execution _ _ _ =>
    [execution.requestId]
  | _ => []

def job : RemediationPhase → Option Uuid
  | .fetched jobId | .handling jobId _ _ | .reporting jobId _ => some jobId
  | .opened execution _ | .checking execution _ _ | .writing execution _ _ _ _ _
  | .executing execution _ | .invoked execution _ | .finished execution _ _
  | .failing execution _ _ _ | .failingExpired execution _ _ | .failingLate execution _ _ _
  | .returning execution =>
    match execution.caller with
    | .job jobId => some jobId
    | _ => none
  | _ => none

end RemediationPhase

namespace Caller

def returned (caller : Caller) (status : RemediationStatus) : RemediationPhase :=
  match caller with
  | .service => .idle
  | .job jobId => .reporting jobId (if status = .failed then some "Handler returned failed" else none)
  | .sweep bypass rest => .sweeping bypass rest

/-- The call raised: the job's processor and the hard-limit loop go on. -/
def raised (caller : Caller) (text : String) : RemediationPhase :=
  match caller with
  | .service => .idle
  | .job jobId => .reporting jobId (some text)
  | .sweep bypass rest => .sweeping bypass rest

/-- After a rollback the requests a loop has still to visit cannot be read any more. -/
def rolledBack : Caller → Caller
  | .sweep bypass _ => .sweep bypass []
  | caller => caller

end Caller

def Execution.rolledBack (execution : Execution) : Execution :=
  { execution with caller := execution.caller.rolledBack }

inductive RemediationEvent where
  | create (call : CreateCall)
  | createFromFinding (call : CreateFromFindingCall)
  | load (requestId : Uuid)
  | review (kind : ReviewKind) (call : ReviewCall)
  | execute (bypassGracePeriod : Bool)
  | lock
  | check (env : ExecuteEnvironment)
  /-- An exception the call recovers from, with its text. -/
  | raise (text : String)
  /-- A failed commit. -/
  | rollback (text : String)
  | commit
  | invoke (serviceRegion credentialRegion awsRegionHint : String)
  | finish (result : ExecutionResult) (now : Int)
  | refresh
  | fetch (jobId : Uuid) (now : Int)
  | handle
  | proceed (now : Int)
  | report (now : Int)
  /-- A timeout, or an exception the call does not recover from. -/
  | interrupt (text : String)
  | cancel (now : Int)
  | recover (jobId : Uuid) (now timeout : Int)
  | enforceHardLimit (bypassGracePeriod : Bool)
  | approve
  | scan (findings : Table Uuid OptimizationFinding)
  | tick (clock : Int)
  /-- The call returns without a write, raises to its caller, or its worker dies. -/
  | leave

namespace Remediation

def setRequests (s : Remediation) (requests : Table Uuid RemediationRequest) : Remediation :=
  { s with store := { s.store with requests } }

def setFindings (s : Remediation) (findings : Table Uuid OptimizationFinding) : Remediation :=
  { s with store := { s.store with findings } }

def setJobs (s : Remediation) (jobs : Table Uuid BackgroundJob) : Remediation :=
  { s with store := { s.store with jobs } }

def updateRequest (s : Remediation) (id : Uuid) (f : RemediationRequest → RemediationRequest) :
    Remediation :=
  s.setRequests (s.store.requests.update id f)

def updateJob (s : Remediation) (id : Uuid) (f : BackgroundJob → BackgroundJob) : Remediation :=
  s.setJobs (s.store.jobs.update id f)

def log (s : Remediation) (entries : List HistoryEntry) : Remediation :=
  { s with history := s.history ++ entries }

def resolveFinding (s : Remediation) (findingId : Option Uuid) (resolvedAt : Option Int) :
    Remediation :=
  match findingId, resolvedAt with
  | some id, some at_ => s.setFindings (s.store.findings.update id (·.resolve at_))
  | _, _ => s

end Remediation

def reviewEntries (kind : ReviewKind) (requestId : Uuid) (target : RequestTarget) :
    List HistoryEntry :=
  match kind with
  | .approve => [.approved requestId target]
  | .reject => []

def Fingerprinted (findings : Table Uuid OptimizationFinding) : Prop :=
  ∀ id finding, findings.find id = some finding → finding.fingerprint ≠ "" ∧
    PythonText.strip finding.fingerprint = finding.fingerprint

namespace RemediationRuntime

variable (runtime : RemediationRuntime)

inductive Step : Remediation → RemediationPhase → RemediationEvent →
    Remediation → RemediationPhase → Prop where
  | create (made : runtime.newRequest call = .ok row)
      (inserted : s.store.requests.insert call.requestId row = some requests) :
      Step s .idle (.create call) (s.setRequests requests) .idle
  | createFromFinding (made : runtime.newRequestFromFinding s.store call = .ok row)
      (inserted : s.store.requests.insert call.requestId row = some requests) :
      Step s .idle (.createFromFinding call) (s.setRequests requests) .idle
  | load (found : s.store.requests.find requestId = some row) :
      Step s .idle (.load requestId) s (.loaded requestId row)
  | review (found : s.store.requests.find requestId = some row)
      (reviewed : runtime.review kind copy call = .ok written) :
      Step s (.loaded requestId copy) (.review kind call) s
        (.reviewing kind requestId copy row written)
  | reviewed : Step s (.reviewing kind requestId copy row written) .commit
      ((s.updateRequest requestId (·.flush copy written)).log
        (reviewEntries kind requestId row.target)) .idle
  | execute : Step s (.loaded requestId copy) (.execute bypass) s
      (.opened ⟨.service,requestId,bypass⟩ copy)
  | lock (found : s.store.requests.find execution.requestId = some row)
      (provider : runtime.normalizeProvider copy.target.provider ≠ "") :
      Step s (.opened execution copy) .lock
        (s.log [.called execution.requestId s.clock]) (.checking execution copy row)
  | invalidProvider (found : s.store.requests.find execution.requestId = some row)
      (provider : runtime.normalizeProvider copy.target.provider = "") :
      Step s (.opened execution copy) .lock s
        (execution.caller.raised RemediationFault.invalidProvider.text)
  | deferred (checked : runtime.checkExecution s.store.findings execution.bypassGracePeriod copy
      env = .ok .deferred) :
      Step s (.checking execution copy row) (.check env) s (execution.caller.returned copy.status)
  | refused (checked : runtime.checkExecution s.store.findings execution.bypassGracePeriod copy
      env = .error fault) :
      Step s (.checking execution copy row) (.check env) s
        (.failing execution copy row (copy.failWith fault.text))
  | check (checked : runtime.checkExecution s.store.findings execution.bypassGracePeriod copy
      env = .ok (.write written write)) :
      Step s (.checking execution copy row) (.check env) s
        (.writing execution copy row written write
          (graceHours copy.target.action env.licenseReclaimGracePeriodDays))
  | raiseChecking : Step s (.checking execution copy row) (.raise message) s
      (.failing execution copy row (copy.failWith message))
  | raiseWriting (kept : write ≠ .schedule) :
      Step s (.writing execution copy row written write hours) (.raise message) s
        (.failing execution copy row (written.failWith message))
  | unscheduled : Step s (.writing execution copy row written .schedule hours) (.raise message) s
      (.failingExpired execution.rolledBack message (some copy.scheduledExecutionAt))
  | rollback : Step s (.writing execution copy row written write hours) (.rollback message) s
      (.failingExpired execution.rolledBack message none)
  | blocked : Step s (.writing execution copy row written .block hours) .commit
      (s.updateRequest execution.requestId (·.flush copy written)) (.returning execution)
  | escalated : Step s (.writing execution copy row written .escalate hours) .commit
      ((s.updateRequest execution.requestId (·.flush copy written)).log
        [.escalated execution.requestId]) (.returning execution)
  | scheduled (enqueued : s.store.jobs.insert jobId
      { requestId := execution.requestId, scheduledFor := written.scheduledExecutionAt.getD 0 } =
        some jobs) :
      Step s (.writing execution copy row written .schedule hours) .commit
        (((s.updateRequest execution.requestId (·.flush copy written)).setJobs jobs).log
          [.scheduled execution.requestId jobId hours])
        (execution.caller.returned written.status)
  | started : Step s (.writing execution copy row written .execute hours) .commit
      (s.updateRequest execution.requestId (·.flush copy written)) (.executing execution written)
  | failed : Step s (.failing execution copy row written) .commit
      (s.updateRequest execution.requestId (·.flush copy written)) (.returning execution)
  | failedExpired : Step s (.failingExpired execution message restored) .commit
      (s.updateRequest execution.requestId (·.flushExpired message restored)) (.returning execution)
  | raiseExecuting : Step s (.executing execution copy) (.raise message) s
      (.failingLate execution copy (copy.failWith message) none)
  | invoke : Step s (.executing execution copy) (.invoke serviceRegion credentialRegion hint)
      (s.log [.invoked execution.requestId {
        target := copy.target
        executionRegion :=
          runtime.resolveExecutionRegion copy.target serviceRegion credentialRegion hint
        finding := copy.target.findingId.bind s.store.findings.find
        invokedAt := s.clock }]) (.invoked execution copy)
  | raiseInvoked : Step s (.invoked execution copy) (.raise message) s
      (.failingLate execution copy (copy.failWith message) none)
  | finish : Step s (.invoked execution copy) (.finish result now) s
      (.finished execution copy (copy.applyExecutionResult result now))
  | raiseFinished : Step s (.finished execution copy written) (.raise message) s
      (.failingLate execution copy (written.failWith message) written.completedAt)
  | finished : Step s (.finished execution copy written) .commit
      ((s.updateRequest execution.requestId (·.flush copy written)).resolveFinding
        copy.target.findingId written.completedAt) (.returning execution)
  | failedLate : Step s (.failingLate execution copy written resolvedAt) .commit
      ((s.updateRequest execution.requestId (·.flush copy written)).resolveFinding
        copy.target.findingId resolvedAt) (.returning execution)
  | refresh (found : s.store.requests.find execution.requestId = some row) :
      Step s (.returning execution) .refresh s (execution.caller.returned row.status)
  | fetch (found : s.store.jobs.find jobId = some job) (due : job.due now = true) :
      Step s .idle (.fetch jobId now) (s.updateJob jobId (·.fetch now)) (.fetched jobId)
  | handle (found : s.store.jobs.find jobId = some job)
      (read : s.store.requests.find job.requestId = some row) :
      Step s (.fetched jobId) .handle s (.handling jobId job.requestId row)
  | handleMissing (found : s.store.jobs.find jobId = some job)
      (missing : s.store.requests.find job.requestId = none) :
      Step s (.fetched jobId) .handle s
        (.reporting jobId (some (RemediationFault.requestNotFound job.requestId).text))
  | skipped (early : copy.inGracePeriod now = true) :
      Step s (.handling jobId requestId copy) (.proceed now) s (.reporting jobId none)
  | proceed (due : copy.inGracePeriod now = false) :
      Step s (.handling jobId requestId copy) (.proceed now) s
        (.opened ⟨.job jobId,requestId,false⟩ copy)
  | reportCompleted : Step s (.reporting jobId none) (.report now)
      (s.updateJob jobId (·.complete now)) .idle
  | reportFailed : Step s (.reporting jobId (some message)) (.report now)
      (s.updateJob jobId (·.applyFailure message now)) .idle
  | interrupt (running : phase.job = some jobId) :
      Step s phase (.interrupt message) s (.reporting jobId (some message))
  | cancel (running : phase.job = some jobId) :
      Step s phase (.cancel now) (s.updateJob jobId (·.cancel now)) .idle
  | recover (found : s.store.jobs.find jobId = some job) (stale : job.stale now timeout = true) :
      Step s .idle (.recover jobId now timeout) (s.updateJob jobId fun job =>
        { job with startedAt := none }.applyFailure "Recovered stale RUNNING job" now) .idle
  | enforceHardLimit : Step s .idle (.enforceHardLimit bypass) s
      (.sweeping bypass (hardLimitRequests s.store.requests))
  | approve (found : s.store.requests.find requestId = some row) :
      Step s (.sweeping bypass ((requestId,copy) :: rest)) .approve s
        (.approving bypass requestId copy copy.hardLimitApproved rest)
  | approved (found : s.store.requests.find requestId = some row) :
      Step s (.approving bypass requestId copy written rest) .commit
        ((s.updateRequest requestId (·.flush copy written)).log
          [.approved requestId row.target]) (.opened ⟨.sweep bypass rest,requestId,bypass⟩ written)
  | raiseApproving : Step s (.approving bypass requestId copy written rest) (.raise message) s
      (.sweeping bypass [])
  | scan (fingerprinted : Fingerprinted findings) :
      Step s .idle (.scan findings) (s.setFindings findings) .idle
  | tick (later : s.clock ≤ clock) : Step s .idle (.tick clock) { s with clock } .idle
  | leave : Step s phase .leave s .idle

/-- A row that another session has locked is neither locked nor written, and a commit
that violates the index fails. -/
def remediationProtocol : Protocol Remediation RemediationPhase RemediationEvent where
  step s phase event t next := runtime.Step s phase event t next ∧ t.store.Indexed
  permits other s t next := ∀ id ∈ other.held,
    id ∉ next.held ∧ t.store.requests.find id = s.store.requests.find id

end RemediationRuntime

abbrev RemediationSystem (ι : Type) := Interleaving.System ι Remediation RemediationPhase

structure Opening (system : RemediationSystem ι) : Prop where
  requests : system.shared.store.requests = .empty
  jobs : system.shared.store.jobs = .empty
  history : system.shared.history = []
  fingerprinted : Fingerprinted system.shared.store.findings
  idle : ∀ party, system.phase party = .idle

def invocations (requestId : Uuid) (history : List HistoryEntry) : List Invocation :=
  history.filterMap fun
    | .invoked id invocation => if id = requestId then some invocation else none
    | _ => none

end Valdrics.Optimization

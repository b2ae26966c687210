import Valdrics.RemediationRaces

/-! What a review, a check and a step of the remediation calls can do, said once. The
requests change only at a commit, and then as the phase that commits says. -/
namespace Valdrics.Optimization

open Enforcement (Uuid JsonObject bind_eq_ok flushed)

namespace RemediationStatus

def unstarted : RemediationStatus → Bool
  | .pending | .pendingApproval | .approved | .scheduled => true
  | .executing | .completed | .failed | .rejected | .cancelled => false

def startable : RemediationStatus → Bool
  | .approved | .scheduled => true
  | _ => false

theorem unstarted_of_startable {status : RemediationStatus} (startable : status.startable = true) :
    status.unstarted = true := by
  cases status <;> simp_all [RemediationStatus.startable,unstarted]

theorem not_terminal_of_unstarted {status : RemediationStatus}
    (unstarted : status.unstarted = true) : status.terminal = false := by
  cases status <;> simp_all [RemediationStatus.unstarted,terminal,isOpen]

end RemediationStatus

namespace RemediationRequest

variable {current loaded written : RemediationRequest}

theorem flush_status (moved : written.status ≠ loaded.status) :
    (current.flush loaded written).status = written.status :=
  Enforcement.ActionExecution.flushed_moved moved _

theorem flush_status_same (same : written.status = loaded.status) :
    (current.flush loaded written).status = current.status := by
  simp [flush,flushed,same]

theorem flush_status_or (current loaded written : RemediationRequest) :
    (current.flush loaded written).status = written.status ∨
      (current.flush loaded written).status = current.status := by
  by_cases same : written.status = loaded.status
  · exact Or.inr (flush_status_same same)
  · exact Or.inl (flush_status same)

@[simp] theorem failWith_status {message : String} : (current.failWith message).status = .failed :=
  rfl

@[simp] theorem flushExpired_status {message : String} {restored : Option (Option Int)} :
    (current.flushExpired message restored).status = .failed := rfl

@[simp] theorem hardLimitApproved_status : current.hardLimitApproved.status = .approved := rfl

theorem applyExecutionResult_status {result : ExecutionResult} {now : Int} :
    (current.applyExecutionResult result now).status = .completed ∨
      (current.applyExecutionResult result now).status = .failed := by
  cases outcome : result.status with
  | success => simp [applyExecutionResult,outcome]
  | skipped => simp [applyExecutionResult,outcome]
  | failed => simp [applyExecutionResult,outcome]

end RemediationRequest

structure Reviewed (kind : ReviewKind) (copy written : RemediationRequest) : Prop where
  pending : copy.status = .pending ∨ copy.status = .pendingApproval
  target : written.target = copy.target
  status : written.status = match kind with
    | .approve => .approved
    | .reject => .rejected

def FirstWrite.status : FirstWrite → RemediationStatus
  | .block => .failed
  | .escalate => .pendingApproval
  | .schedule => .scheduled
  | .execute => .executing

structure Checked (runtime : RemediationRuntime) (findings : Table Uuid OptimizationFinding)
    (bypass : Bool) (env : ExecuteEnvironment) (copy written : RemediationRequest)
    (write : FirstWrite) : Prop where
  bound : ∃ finding, runtime.validateRequestFindingBinding findings copy.target = .ok finding
  startable : copy.status.startable = true
  due : bypass = false → copy.inGracePeriod env.now = false
  target : written.target = copy.target
  status : written.status = write.status
  scheduled : write = .schedule → copy.status = .approved ∧ written.scheduledExecutionAt = some
    (env.later + graceHours copy.target.action env.licenseReclaimGracePeriodDays * microsPerHour)
  executed : write = .execute → bypass = false → copy.status = .scheduled

namespace RemediationRuntime

variable {runtime : RemediationRuntime}

theorem review_eq_ok {kind : ReviewKind} {copy written : RemediationRequest} {call : ReviewCall}
    (reviewed : runtime.review kind copy call = .ok written) : Reviewed kind copy written := by
  have pendingOf {u : Unit} (checked : checkPendingApproval copy = .ok u) :
      copy.status = .pending ∨ copy.status = .pendingApproval := by
    have open_ := raiseIf_eq_ok.mp checked
    by_contra other
    exact open_ (not_or.mp other)
  cases kind with
  | approve =>
    obtain ⟨_,checked,afterCheck⟩ := bind_eq_ok.mp reviewed
    obtain ⟨_,_,result⟩ := bind_eq_ok.mp afterCheck
    obtain rfl := Except.ok.inj result
    exact ⟨pendingOf checked,rfl,rfl⟩
  | reject =>
    obtain ⟨_,checked,result⟩ := bind_eq_ok.mp reviewed
    obtain rfl := Except.ok.inj result
    exact ⟨pendingOf checked,rfl,rfl⟩

theorem checkExecution_eq_write {findings : Table Uuid OptimizationFinding} {bypass : Bool}
    {copy written : RemediationRequest} {env : ExecuteEnvironment} {write : FirstWrite}
    (checked : runtime.checkExecution findings bypass copy env = .ok (.write written write)) :
    Checked runtime findings bypass env copy written write := by
  obtain ⟨finding,bound,afterBinding⟩ := bind_eq_ok.mp checked
  obtain ⟨_,_,afterGuards⟩ := bind_eq_ok.mp afterBinding
  obtain ⟨_,statuses,result⟩ := bind_eq_ok.mp afterGuards
  have startable : copy.status.startable = true := by
    have ready := raiseIf_eq_ok.mp statuses
    cases status : copy.status <;> simp_all [RemediationStatus.startable]
  by_cases waits : copy.inGracePeriod env.now = true ∧ bypass = false
  · rw [if_pos waits] at result
    simp [pure,Except.pure] at result
  · rw [if_neg waits] at result
    have due : bypass = false → copy.inGracePeriod env.now = false := by
      intro honest
      simpa [honest] using waits
    have proceeds (allowed : (if copy.status = .approved ∧ bypass = false then
        (.ok (.write ((copy.applySystemPolicyContext env.systemContext).schedule
          (env.later + graceHours copy.target.action env.licenseReclaimGracePeriodDays *
            microsPerHour)) .schedule) : Except RemediationFault CheckOutcome)
        else .ok (.write (copy.applySystemPolicyContext env.systemContext).execute .execute)) =
          .ok (.write written write)) :
        Checked runtime findings bypass env copy written write := by
      by_cases approved : copy.status = .approved ∧ bypass = false
      · rw [if_pos approved] at allowed
        obtain ⟨rfl,rfl⟩ := CheckOutcome.write.inj (Except.ok.inj allowed)
        exact ⟨⟨finding,bound⟩,startable,due,rfl,rfl,fun _ => ⟨approved.1,rfl⟩,by simp⟩
      · rw [if_neg approved] at allowed
        obtain ⟨rfl,rfl⟩ := CheckOutcome.write.inj (Except.ok.inj allowed)
        refine ⟨⟨finding,bound⟩,startable,due,rfl,rfl,by simp,fun _ honest => ?_⟩
        cases status : copy.status <;> simp_all [RemediationStatus.startable]
    cases decision : env.evaluation.decision with
    | block =>
      simp only [decision] at result
      obtain ⟨rfl,rfl⟩ := CheckOutcome.write.inj (Except.ok.inj result)
      exact ⟨⟨finding,bound⟩,startable,due,rfl,rfl,by simp,by simp⟩
    | escalate =>
      simp only [decision] at result
      obtain ⟨rfl,rfl⟩ := CheckOutcome.write.inj (Except.ok.inj result)
      exact ⟨⟨finding,bound⟩,startable,due,rfl,rfl,by simp,by simp⟩
    | allow =>
      simp only [decision] at result
      exact proceeds result
    | warn =>
      simp only [decision] at result
      exact proceeds result

theorem checkExecution_allows {findings : Table Uuid OptimizationFinding}
    {copy : RemediationRequest} {env : ExecuteEnvironment} {finding : Option OptimizationFinding}
    (bound : runtime.validateRequestFindingBinding findings copy.target = .ok finding)
    (guarded : env.guards = .ok ()) (ready : copy.status.startable = true)
    (allowed : env.evaluation.decision = .allow) :
    runtime.checkExecution findings true copy env =
      .ok (.write (copy.applySystemPolicyContext env.systemContext).execute .execute) := by
  have good : ¬(copy.status ≠ .approved ∧ copy.status ≠ .scheduled) := by
    rintro ⟨one,two⟩
    cases status : copy.status <;> simp_all [RemediationStatus.startable]
  simp [checkExecution,bound,guarded,raiseIf,good,allowed,bind,Except.bind,pure,Except.pure]

theorem checkExecution_refuses {findings : Table Uuid OptimizationFinding} {bypass : Bool}
    {copy : RemediationRequest} {env : ExecuteEnvironment} {finding : Option OptimizationFinding}
    (bound : runtime.validateRequestFindingBinding findings copy.target = .ok finding)
    (guarded : env.guards = .ok ()) (refused : copy.status.startable = false) :
    runtime.checkExecution findings bypass copy env = .error (.notApproved copy.status) := by
  have bad : copy.status ≠ .approved ∧ copy.status ≠ .scheduled := by
    refine ⟨fun same => ?_,fun same => ?_⟩
    · simp [same,RemediationStatus.startable] at refused
    · simp [same,RemediationStatus.startable] at refused
  simp [checkExecution,bound,guarded,raiseIf,bad,bind,Except.bind]

end RemediationRuntime

namespace RemediationPhase

def writes : RemediationPhase → Option (Uuid × (RemediationRequest → RemediationRequest))
  | .reviewing _ requestId copy _ written | .approving _ requestId copy written _ =>
    some (requestId,(·.flush copy written))
  | .writing execution copy _ written _ _ | .failing execution copy _ written
  | .finished execution copy written | .failingLate execution copy written _ =>
    some (execution.requestId,(·.flush copy written))
  | .failingExpired execution message restored =>
    some (execution.requestId,(·.flushExpired message restored))
  | _ => none

theorem writes_target {phase : RemediationPhase} {id : Uuid}
    {f : RemediationRequest → RemediationRequest} (writes : phase.writes = some (id,f))
    (row : RemediationRequest) : (f row).target = row.target := by
  cases phase with
  | idle | loaded | fetched | handling | opened | checking | executing | invoked | returning
  | reporting | sweeping => simp [RemediationPhase.writes] at writes
  | _ =>
    obtain ⟨rfl,rfl⟩ := Prod.mk.inj (Option.some.inj writes)
    rfl

def lockedRow : RemediationPhase → Option (Uuid × RemediationRequest)
  | .reviewing _ requestId _ row _ => some (requestId,row)
  | .checking execution _ row | .writing execution _ row _ _ _ | .failing execution _ row _ =>
    some (execution.requestId,row)
  | _ => none

def runs : RemediationPhase → Option Uuid
  | .executing execution _ | .invoked execution _ | .finished execution _ _
  | .failingLate execution _ _ _ => some execution.requestId
  | _ => none

theorem lockedRow_held {phase : RemediationPhase} {id : Uuid} {row : RemediationRequest}
    (locked : phase.lockedRow = some (id,row)) : id ∈ phase.held := by
  cases phase <;> simp_all [lockedRow,held]

end RemediationPhase

namespace Remediation

variable {s : Remediation} {id other : Uuid}

@[simp] theorem log_store {entries : List HistoryEntry} : (s.log entries).store = s.store := rfl

@[simp] theorem log_history {entries : List HistoryEntry} :
    (s.log entries).history = s.history ++ entries := rfl

@[simp] theorem log_clock {entries : List HistoryEntry} : (s.log entries).clock = s.clock := rfl

@[simp] theorem setJobs_history {jobs : Table Uuid BackgroundJob} :
    (s.setJobs jobs).history = s.history := rfl

@[simp] theorem updateRequest_history {f : RemediationRequest → RemediationRequest} :
    (s.updateRequest id f).history = s.history := rfl

@[simp] theorem updateRequest_requests {f : RemediationRequest → RemediationRequest} :
    (s.updateRequest id f).store.requests = s.store.requests.update id f := rfl

@[simp] theorem updateRequest_findings {f : RemediationRequest → RemediationRequest} :
    (s.updateRequest id f).store.findings = s.store.findings := rfl

@[simp] theorem updateRequest_jobs {f : RemediationRequest → RemediationRequest} :
    (s.updateRequest id f).store.jobs = s.store.jobs := rfl

@[simp] theorem resolveFinding_requests {findingId : Option Uuid} {resolvedAt : Option Int} :
    (s.resolveFinding findingId resolvedAt).store.requests = s.store.requests := by
  cases findingId <;> cases resolvedAt <;> rfl

@[simp] theorem resolveFinding_jobs {findingId : Option Uuid} {resolvedAt : Option Int} :
    (s.resolveFinding findingId resolvedAt).store.jobs = s.store.jobs := by
  cases findingId <;> cases resolvedAt <;> rfl

@[simp] theorem resolveFinding_history {findingId : Option Uuid} {resolvedAt : Option Int} :
    (s.resolveFinding findingId resolvedAt).history = s.history := by
  cases findingId <;> cases resolvedAt <;> rfl

@[simp] theorem resolveFinding_clock {findingId : Option Uuid} {resolvedAt : Option Int} :
    (s.resolveFinding findingId resolvedAt).clock = s.clock := by
  cases findingId <;> cases resolvedAt <;> rfl

end Remediation

namespace Caller

variable {caller : Caller}

@[simp] theorem returned_lockedRow {status : RemediationStatus} :
    (caller.returned status).lockedRow = none := by
  cases caller <;> rfl

@[simp] theorem raised_lockedRow {message : String} : (caller.raised message).lockedRow = none := by
  cases caller <;> rfl

@[simp] theorem returned_runs {status : RemediationStatus} : (caller.returned status).runs = none := by
  cases caller <;> rfl

@[simp] theorem raised_runs {message : String} : (caller.raised message).runs = none := by
  cases caller <;> rfl

end Caller

namespace RemediationRuntime

variable {runtime : RemediationRuntime} {s t : Remediation} {phase next : RemediationPhase}
  {event : RemediationEvent}

inductive Created (runtime : RemediationRuntime) (store : RemediationStore) :
    RemediationRequest → Prop where
  | create (made : runtime.newRequest call = .ok row) : Created runtime store row
  | fromFinding (made : runtime.newRequestFromFinding store call = .ok row) :
      Created runtime store row

theorem newRequest_pending {call : CreateCall} {row : RemediationRequest}
    (made : runtime.newRequest call = .ok row) : row.status = .pending := by
  obtain ⟨_,_,afterProvider⟩ := bind_eq_ok.mp made
  obtain ⟨_,_,afterConnection⟩ := bind_eq_ok.mp afterProvider
  obtain ⟨_,_,result⟩ := bind_eq_ok.mp afterConnection
  obtain rfl := Except.ok.inj result
  rfl

theorem newRequestFromFinding_pending {store : RemediationStore} {call : CreateFromFindingCall}
    {row : RemediationRequest} (made : runtime.newRequestFromFinding store call = .ok row) :
    row.status = .pending := by
  obtain ⟨_,_,afterFinding⟩ := bind_eq_ok.mp made
  obtain ⟨_,_,afterProvider⟩ := bind_eq_ok.mp afterFinding
  obtain ⟨_,_,afterConnection⟩ := bind_eq_ok.mp afterProvider
  obtain ⟨_,_,result⟩ := bind_eq_ok.mp afterConnection
  obtain rfl := Except.ok.inj result
  rfl

theorem Created.pending {store : RemediationStore} {row : RemediationRequest}
    (created : Created runtime store row) : row.status = .pending := by
  cases created with
  | create made => exact newRequest_pending made
  | fromFinding made => exact newRequestFromFinding_pending made

inductive RequestStep (runtime : RemediationRuntime) (s : Remediation) (phase : RemediationPhase)
    (event : RemediationEvent) (requests : Table Uuid RemediationRequest) : Prop where
  | kept (same : requests = s.store.requests)
  | inserted (created : Created runtime s.store row)
      (inserted : s.store.requests.insert requestId row = some requests)
  | written (commits : event = .commit) (writes : phase.writes = some (requestId,f))
      (updated : requests = s.store.requests.update requestId f)

theorem Step.requests (taken : runtime.Step s phase event t next) :
    RequestStep runtime s phase event t.store.requests := by
  cases taken with
  | create made inserted => exact .inserted (.create made) inserted
  | createFromFinding made inserted => exact .inserted (.fromFinding made) inserted
  | reviewed => exact .written rfl rfl rfl
  | blocked => exact .written rfl rfl rfl
  | escalated => exact .written rfl rfl rfl
  | scheduled => exact .written rfl rfl rfl
  | started => exact .written rfl rfl rfl
  | failed => exact .written rfl rfl rfl
  | failedExpired => exact .written rfl rfl rfl
  | finished => exact .written rfl rfl (by simp)
  | failedLate => exact .written rfl rfl (by simp)
  | approved => exact .written rfl rfl rfl
  | _ => exact .kept rfl

theorem Step.find {id : Uuid} {row : RemediationRequest}
    (taken : runtime.Step s phase event t next) (found : s.store.requests.find id = some row) :
    t.store.requests.find id = some row ∨
      (event = .commit ∧ ∃ f, phase.writes = some (id,f) ∧
        t.store.requests.find id = some (f row)) := by
  cases taken.requests with
  | kept same =>
    rw [same]
    exact Or.inl found
  | @inserted row' id' created inserted =>
    refine Or.inl ?_
    rw [Table.find_insert inserted]
    have apart : id ≠ id' := by
      intro same
      subst same
      simp [(Table.insert_eq_some inserted).1] at found
    simpa [apart] using found
  | @written id' f commits writes updated =>
    rw [updated]
    by_cases same : id = id'
    · subst same
      exact Or.inr ⟨commits,f,writes,by simp [found]⟩
    · exact Or.inl (by simpa [Table.find_update_other f same] using found)

theorem Step.found {id : Uuid} {row : RemediationRequest}
    (taken : runtime.Step s phase event t next) (found : t.store.requests.find id = some row) :
    s.store.requests.find id = some row ∨
      (s.store.requests.find id = none ∧ Created runtime s.store row) ∨
      (event = .commit ∧ ∃ f before, phase.writes = some (id,f) ∧
        s.store.requests.find id = some before ∧ row = f before) := by
  cases present : s.store.requests.find id with
  | some before =>
    rcases taken.find present with same | ⟨commits,f,writes,written⟩
    · exact Or.inl (same.symm.trans found)
    · refine Or.inr (Or.inr ⟨commits,f,before,writes,rfl,?_⟩)
      exact Option.some.inj (found.symm.trans written)
  | none =>
    cases taken.requests with
    | kept same =>
      rw [same] at found
      simp [present] at found
    | @inserted row' id' created inserted =>
      rw [Table.find_insert inserted] at found
      by_cases same : id = id'
      · simp only [same,if_true,Option.some.injEq] at found
        subst found
        exact Or.inr (Or.inl ⟨rfl,created⟩)
      · simp [same,present] at found
    | @written id' f commits writes updated =>
      rw [updated] at found
      simp [Table.find_update,present] at found

end RemediationRuntime

end Valdrics.Optimization

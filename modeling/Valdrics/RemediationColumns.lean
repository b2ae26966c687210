import Valdrics.RemediationInvocations

/-! The columns of a request that no call rewrites, and what the checks before an execution
leave in memory. A session's copy agrees with the row in those columns however old it is. -/
namespace Valdrics.Optimization

open Enforcement (Uuid JsonObject bind_eq_ok flushed)

inductive FirstWritten (env : ExecuteEnvironment) (copy : RemediationRequest) :
    RemediationRequest → FirstWrite → Prop where
  | block (blocked : env.evaluation.decision = .block) :
      FirstWritten env copy
        ((copy.applySystemPolicyContext env.systemContext).block env.evaluation.summary) .block
  | escalate (escalated : env.evaluation.decision = .escalate) :
      FirstWritten env copy ((copy.applySystemPolicyContext env.systemContext).escalate
        env.evaluation.summary env.later) .escalate
  | schedule (at_ : Int) (passed : env.evaluation.decision = .allow ∨ env.evaluation.decision = .warn) :
      FirstWritten env copy ((copy.applySystemPolicyContext env.systemContext).schedule at_) .schedule
  | execute (passed : env.evaluation.decision = .allow ∨ env.evaluation.decision = .warn) :
      FirstWritten env copy (copy.applySystemPolicyContext env.systemContext).execute .execute

structure FixedColumns where
  target : RequestTarget
  estimatedMonthlySavings : Option Int
  confidenceScore : Option Int
  explainabilityNotes : Option String

namespace RemediationRequest

variable {current loaded written : RemediationRequest}

def fixed (request : RemediationRequest) : FixedColumns :=
  ⟨request.target,request.estimatedMonthlySavings,request.confidenceScore,
    request.explainabilityNotes⟩

@[simp] theorem flush_fixed : (current.flush loaded written).fixed = current.fixed := rfl

@[simp] theorem flushExpired_fixed {message : String} {restored : Option (Option Int)} :
    (current.flushExpired message restored).fixed = current.fixed := rfl

@[simp] theorem failWith_fixed {message : String} : (current.failWith message).fixed = current.fixed :=
  rfl

@[simp] theorem hardLimitApproved_fixed : current.hardLimitApproved.fixed = current.fixed := rfl

@[simp] theorem applyExecutionResult_fixed {result : ExecutionResult} {now : Int} :
    (current.applyExecutionResult result now).fixed = current.fixed := by
  cases outcome : result.status with
  | success => simp [applyExecutionResult,outcome,fixed]
  | skipped => simp [applyExecutionResult,outcome,fixed]
  | failed => simp [applyExecutionResult,outcome,fixed]

end RemediationRequest

theorem FirstWritten.fixed {env : ExecuteEnvironment} {copy written : RemediationRequest}
    {write : FirstWrite} (made : FirstWritten env copy written write) :
    written.fixed = copy.fixed := by
  cases made <;> rfl

theorem FirstWritten.executedAt {env : ExecuteEnvironment} {copy written : RemediationRequest}
    {write : FirstWrite} (made : FirstWritten env copy written write) :
    written.executedAt = copy.executedAt := by
  cases made <;> rfl

namespace RemediationRuntime

variable {runtime : RemediationRuntime} {s t : Remediation} {phase next : RemediationPhase}
  {event : RemediationEvent}

theorem review_keeps {kind : ReviewKind} {copy written : RemediationRequest} {call : ReviewCall}
    (reviewed : runtime.review kind copy call = .ok written) :
    written.fixed = copy.fixed ∧ written.executedAt = copy.executedAt := by
  cases kind with
  | approve =>
    obtain ⟨_,_,afterCheck⟩ := bind_eq_ok.mp reviewed
    obtain ⟨_,_,result⟩ := bind_eq_ok.mp afterCheck
    obtain rfl := Except.ok.inj result
    exact ⟨rfl,rfl⟩
  | reject =>
    obtain ⟨_,_,result⟩ := bind_eq_ok.mp reviewed
    obtain rfl := Except.ok.inj result
    exact ⟨rfl,rfl⟩

theorem checkExecution_writes {findings : Table Uuid OptimizationFinding} {bypass : Bool}
    {copy written : RemediationRequest} {env : ExecuteEnvironment} {write : FirstWrite}
    (checked : runtime.checkExecution findings bypass copy env = .ok (.write written write)) :
    env.guards = .ok () ∧ FirstWritten env copy written write := by
  obtain ⟨_,_,afterBinding⟩ := bind_eq_ok.mp checked
  obtain ⟨_,guarded,afterGuards⟩ := bind_eq_ok.mp afterBinding
  obtain ⟨_,_,result⟩ := bind_eq_ok.mp afterGuards
  refine ⟨guarded,?_⟩
  by_cases waits : copy.inGracePeriod env.now = true ∧ bypass = false
  · rw [if_pos waits] at result
    simp [pure,Except.pure] at result
  · rw [if_neg waits] at result
    have proceeds (passed : env.evaluation.decision = .allow ∨ env.evaluation.decision = .warn)
        (allowed : (if copy.status = .approved ∧ bypass = false then
        (.ok (.write ((copy.applySystemPolicyContext env.systemContext).schedule
          (env.later + graceHours copy.target.action env.licenseReclaimGracePeriodDays *
            microsPerHour)) .schedule) : Except RemediationFault CheckOutcome)
        else .ok (.write (copy.applySystemPolicyContext env.systemContext).execute .execute)) =
          .ok (.write written write)) : FirstWritten env copy written write := by
      by_cases approved : copy.status = .approved ∧ bypass = false
      · rw [if_pos approved] at allowed
        obtain ⟨rfl,rfl⟩ := CheckOutcome.write.inj (Except.ok.inj allowed)
        exact .schedule _ passed
      · rw [if_neg approved] at allowed
        obtain ⟨rfl,rfl⟩ := CheckOutcome.write.inj (Except.ok.inj allowed)
        exact .execute passed
    cases decision : env.evaluation.decision with
    | block =>
      simp only [decision] at result
      obtain ⟨rfl,rfl⟩ := CheckOutcome.write.inj (Except.ok.inj result)
      exact .block decision
    | escalate =>
      simp only [decision] at result
      obtain ⟨rfl,rfl⟩ := CheckOutcome.write.inj (Except.ok.inj result)
      exact .escalate decision
    | allow =>
      simp only [decision] at result
      exact proceeds (Or.inl decision) result
    | warn =>
      simp only [decision] at result
      exact proceeds (Or.inr decision) result

end RemediationRuntime

namespace RemediationPhase

def rewrites : RemediationPhase → Option (RemediationRequest × RemediationRequest)
  | .reviewing _ _ copy _ written | .approving _ _ copy written _ | .writing _ copy _ written _ _
  | .failing _ copy _ written | .finished _ copy written | .failingLate _ copy written _ =>
    some (copy,written)
  | _ => none

def KeepsFixed (phase : RemediationPhase) : Prop :=
  ∀ copy written, phase.rewrites = some (copy,written) → written.fixed = copy.fixed

theorem KeepsFixed.of_none {phase : RemediationPhase} (nothing : phase.rewrites = none) :
    phase.KeepsFixed := by
  intro copy written rewrites
  simp [nothing] at rewrites

theorem KeepsFixed.of_eq {phase : RemediationPhase} {copy written : RemediationRequest}
    (rewrites : phase.rewrites = some (copy,written)) (same : written.fixed = copy.fixed) :
    phase.KeepsFixed := by
  intro first second also
  obtain ⟨rfl,rfl⟩ := Prod.mk.inj (Option.some.inj (rewrites.symm.trans also))
  exact same

theorem writes_fixed {phase : RemediationPhase} {id : Uuid}
    {f : RemediationRequest → RemediationRequest} (writes : phase.writes = some (id,f))
    (row : RemediationRequest) : (f row).fixed = row.fixed := by
  cases phase with
  | idle | loaded | fetched | handling | opened | checking | executing | invoked | returning
  | reporting | sweeping => simp [RemediationPhase.writes] at writes
  | _ =>
    obtain ⟨rfl,rfl⟩ := Prod.mk.inj (Option.some.inj writes)
    rfl

end RemediationPhase

def Remediation.KnowsFixed (s : Remediation) (entry : Uuid × RemediationRequest) : Prop :=
  ∃ row, s.store.requests.find entry.1 = some row ∧ row.fixed = entry.2.fixed

@[simp] theorem returned_rewrites {caller : Caller} {status : RemediationStatus} :
    (caller.returned status).rewrites = none := by
  cases caller <;> rfl

@[simp] theorem raised_rewrites {caller : Caller} {message : String} :
    (caller.raised message).rewrites = none := by
  cases caller <;> rfl

namespace RemediationRuntime

open RemediationPhase (KeepsFixed)

variable {runtime : RemediationRuntime} {s t : Remediation} {phase next : RemediationPhase}
  {event : RemediationEvent}

theorem Step.keepsFixed (taken : runtime.Step s phase event t next) (keeps : phase.KeepsFixed) :
    next.KeepsFixed := by
  cases taken with
  | review found reviewed => exact .of_eq rfl (review_keeps reviewed).1
  | check checked => exact .of_eq rfl (checkExecution_writes checked).2.fixed
  | refused | raiseChecking | raiseExecuting | raiseInvoked | approve => exact .of_eq rfl rfl
  | raiseWriting | raiseFinished =>
    exact .of_eq rfl (RemediationRequest.failWith_fixed.trans (keeps _ _ rfl))
  | finish => exact .of_eq rfl RemediationRequest.applyExecutionResult_fixed
  | deferred | invalidProvider | scheduled | refresh => exact .of_none (by simp)
  | _ => exact .of_none rfl

theorem Step.knowsFixed {entry : Uuid × RemediationRequest}
    (taken : runtime.Step s phase event t next) (knows : s.KnowsFixed entry) :
    t.KnowsFixed entry := by
  obtain ⟨row,found,same⟩ := knows
  rcases taken.find found with kept | ⟨_,f,writes,written⟩
  · exact ⟨row,kept,same⟩
  · exact ⟨f row,written,(RemediationPhase.writes_fixed writes row).trans same⟩

theorem continues_rewrites {id : Uuid} {copy written : RemediationRequest}
    (continues : phase.continues = some (id,copy,written)) :
    phase.rewrites = some (copy,written) := by
  cases phase with
  | approving =>
    obtain ⟨rfl,rfl,rfl⟩ := by simpa [RemediationPhase.continues] using continues
    rfl
  | writing execution loaded row draft write hours =>
    cases write with
    | execute =>
      obtain ⟨rfl,rfl,rfl⟩ := by simpa [RemediationPhase.continues] using continues
      rfl
    | _ => simp [RemediationPhase.continues] at continues
  | _ => simp [RemediationPhase.continues] at continues

theorem Step.copiesFixed (taken : runtime.Step s phase event t next) (keeps : phase.KeepsFixed)
    (copies : ∀ entry ∈ phase.copies, s.KnowsFixed entry) :
    ∀ entry ∈ next.copies, s.KnowsFixed entry := by
  intro entry member
  rcases taken.copies_of member with before | found | ⟨copy,continues⟩
  · exact copies entry before
  · exact ⟨_,found,rfl⟩
  · obtain ⟨row,found,same⟩ := copies _ (RemediationPhase.continues_mem continues)
    exact ⟨row,found,same.trans (keeps _ _ (continues_rewrites continues)).symm⟩

end RemediationRuntime

end Valdrics.Optimization

import Valdrics.KillSwitchBound

/-! The remediation circuit breaker. It counts FAILED rows by `executed_at`, which only a
success writes, so it sees the failures of a day only where the rows that failed had been
executed on that day before. -/
namespace Valdrics.Optimization

open Enforcement (Uuid bind_eq_ok)

/-- A passed check that the strategy has not followed yet. -/
def RemediationPhase.cleared : RemediationPhase → Bool
  | .writing _ _ _ _ .execute _ | .executing _ _ => true
  | _ => false

def onDay (day : Int) (readings : GuardReadings) : Prop := utcDay readings.breakerNow = day

namespace RemediationRuntime

end RemediationRuntime

@[simp] theorem returned_cleared {caller : Caller} {status : RemediationStatus} :
    (caller.returned status).cleared = false := by
  cases caller <;> rfl

@[simp] theorem raised_cleared {caller : Caller} {message : String} :
    (caller.raised message).cleared = false := by
  cases caller <;> rfl

namespace RemediationRuntime

variable {runtime : RemediationRuntime} {settings : SafetySettings} {s t : Remediation}
  {phase following : RemediationPhase} {event : RemediationEvent} {estate after : Estate}
  {session next : SafetySession} {clocks : GuardReadings → Prop} {day : Int}

/-- A session is cleared by its check, and stays so by a commit that records no failure. -/
theorem Step.cleared (taken : runtime.Step s phase event t following)
    (cleared : following.cleared = true) :
    (phase.cleared = true ∧ (event = .commit → ∃ execution copy row written hours,
      phase = .writing execution copy row written .execute hours)) ∨
      ∃ env, event = .check env ∧ env.guards = .ok () := by
  cases taken with
  | @check copy env written write s execution row checked =>
    exact Or.inr ⟨env,rfl,(checkExecution_writes checked).1⟩
  | started => exact Or.inl ⟨rfl,fun _ => ⟨_,_,_,_,_,rfl⟩⟩
  | deferred | invalidProvider | scheduled | refresh => simp at cleared
  | _ => simp [RemediationPhase.cleared] at cleared

end RemediationRuntime

namespace RemediationRuntime

open Interleaving (Solo)

variable {runtime : RemediationRuntime} {settings : SafetySettings} {clocks : GuardReadings → Prop}
  {tenant id : Uuid} {s : Remediation} {row : RemediationRequest}

def refusal : ExecutionResult := ⟨.failed,some "Access denied",none⟩

end RemediationRuntime

namespace Sample

open Interleaving (pair Solo)

def cheap : RemediationRequest := { machineRequest with status := .approved }

end Sample

open Interleaving (pair Solo)

end Valdrics.Optimization

import Mathlib.Algebra.Order.Field.Rat
import Valdrics.RemediationColumns

/-! The safety guards before an execution: the daily kill switch of a tenant or of all, the
monthly hard cap, and the circuit breaker. The calls of several tenants run as parties of one
protocol, in which the guards of a check answer from the tables as they are then. -/
namespace Valdrics

def Decimal.value (d : Decimal) : ℚ := d.coefficient * (10 : ℚ) ^ d.exponent

namespace Optimization

open Enforcement (Uuid bind_eq_ok)
open PythonText

def microsPerDay : Int := 86400000000

def utcDay (at_ : Int) : Int := at_ / microsPerDay

def utcMidnight (at_ : Int) : Int := utcDay at_ * microsPerDay

inductive KillSwitchScope where
  | tenant | global
  deriving DecidableEq, Repr

def KillSwitchScope.covers (scope : KillSwitchScope) (tenant other : Uuid) : Bool :=
  match scope with
  | .global => true
  | .tenant => other = tenant

structure SafetySettings where
  remediationKillSwitchThreshold : Decimal := ⟨5000,-1⟩
  remediationKillSwitchScope : Option String := some "tenant"

namespace RemediationRequest

def executedOn (request : RemediationRequest) (day : Int) : Bool :=
  request.executedAt.map utcDay = some day

def savings (request : RemediationRequest) : Int := request.estimatedMonthlySavings.getD 0

end RemediationRequest

namespace Remediation

def completedImpact (s : Remediation) (day : Int) : Int :=
  s.store.requests.total fun _ row =>
    if row.status = .completed ∧ row.executedOn day = true then row.savings else 0

/-- The savings of every request with `executed_at` on the day. -/
def executedImpact (s : Remediation) (day : Int) : Int :=
  s.store.requests.total fun _ row => if row.executedOn day = true then row.savings else 0

def failureCount (s : Remediation) (now : Int) : Nat :=
  (s.store.requests.rows.filter fun entry => entry.2.status = .failed &&
    entry.2.executedAt.any fun executed => utcMidnight now ≤ executed).length

end Remediation

/-- The tables of the tenants, and the requests of each that ended FAILED because their
strategy raised or returned a failure, oldest first. -/
structure Estate where
  tenants : Table Uuid Remediation
  failures : List (Uuid × Uuid) := []

namespace Estate

def completedImpact (estate : Estate) (scope : KillSwitchScope) (tenant : Uuid) (day : Int) : Int :=
  estate.tenants.total fun other s => if scope.covers tenant other then s.completedImpact day else 0

def executedImpact (estate : Estate) (scope : KillSwitchScope) (tenant : Uuid) (day : Int) : Int :=
  estate.tenants.total fun other s => if scope.covers tenant other then s.executedImpact day else 0

end Estate

def killSwitchTriggered (message : String) : RemediationFault :=
  .raised ("[kill_switch_triggered] " ++ message ++ " (Status: 403)")

/-- What the guards read besides the tables: the clock for the kill switch and for the
breaker, and the monthly hard cap with its spend. -/
structure GuardReadings where
  now : Int
  breakerNow : Int
  monthlyHardCap : Except RemediationFault Unit := .ok ()

namespace RemediationRuntime

variable (runtime : RemediationRuntime) (settings : SafetySettings)

def killSwitchScope : KillSwitchScope :=
  let configured := runtime.text.lower
    (strip (textOr settings.remediationKillSwitchScope "tenant"))
  if configured = "global" then .global else .tenant

/-- `_check_global_kill_switch`. -/
def checkGlobalKillSwitch (estate : Estate) (tenant : Uuid) (estimatedImpact now : Int) :
    Except RemediationFault Unit :=
  let threshold := settings.remediationKillSwitchThreshold
  let totalImpact :=
    estate.completedImpact (runtime.killSwitchScope settings) tenant (utcDay now)
  raiseIf (threshold.value ≤ ((totalImpact + estimatedImpact : Int) : ℚ) / 100)
    (killSwitchTriggered ("Safety kill-switch triggered. Daily cost impact limit ($" ++
      threshold.text ++ ") reached."))

/-- `_check_circuit_breaker`. -/
def checkCircuitBreaker (s : Remediation) (now : Int) : Except RemediationFault Unit :=
  raiseIf (5 ≤ s.failureCount now)
    (killSwitchTriggered ("Remediation circuit breaker open due to " ++
      toString (s.failureCount now) ++ " recent failures. Reset required."))

/-- `check_all_guards`. -/
def checkAllGuards (estate : Estate) (tenant : Uuid) (s : Remediation) (estimatedImpact : Int)
    (readings : GuardReadings) : Except RemediationFault Unit := do
  runtime.checkGlobalKillSwitch settings estate tenant estimatedImpact readings.now
  readings.monthlyHardCap
  checkCircuitBreaker s readings.breakerNow

end RemediationRuntime

def anyClocks : GuardReadings → Prop := fun _ => True

structure SafetyReading where
  day : Int
  impact : Int
  deriving DecidableEq

/-- A session of a tenant, what its guards read last, and whether the strategy that it
called has raised or returned a failure. -/
structure SafetySession where
  tenant : Uuid
  phase : RemediationPhase := .idle
  reading : Option SafetyReading := none
  strategyFailed : Bool := false

def RemediationPhase.fails (phase : RemediationPhase) (event : RemediationEvent)
    (before : Bool) : Bool :=
  match phase, event with
  | .invoked _ _, .raise _ => true
  | .invoked _ _, .finish result _ => result.status = .failed
  | .finished _ _ _, .raise _ => before
  | _, _ => false

def SafetySession.failure (session : SafetySession) : RemediationEvent → List (Uuid × Uuid)
  | .commit =>
    match session.phase with
    | .finished execution _ _ | .failingLate execution _ _ _ =>
      if session.strategyFailed then [(session.tenant,execution.requestId)] else []
    | _ => []
  | _ => []

namespace RemediationRuntime

/-- The statements of the calls, with the guards computed where an execution checks them, in
the runs whose guards read the clocks so. -/
inductive SafetyStep (runtime : RemediationRuntime) (settings : SafetySettings)
    (clocks : GuardReadings → Prop) :
    Estate → SafetySession → RemediationEvent → Estate → SafetySession → Prop where
  | check {estate : Estate} {tenant : Uuid} {s t : Remediation} {execution : Execution}
      {copy row : RemediationRequest} {env : ExecuteEnvironment} {next : RemediationPhase}
      {reading : Option SafetyReading} {failed : Bool} (readings : GuardReadings)
      (there : estate.tenants.find tenant = some s)
      (taken : runtime.remediationProtocol.step s (.checking execution copy row) (.check env) t next)
      (guards : env.guards = runtime.checkAllGuards settings estate tenant s copy.savings readings)
      (clock : clocks readings) :
      SafetyStep runtime settings clocks estate ⟨tenant,.checking execution copy row,reading,failed⟩
        (.check env) { estate with tenants := estate.tenants.update tenant fun _ => t }
        ⟨tenant,next,some ⟨utcDay readings.now,estate.completedImpact
          (runtime.killSwitchScope settings) tenant (utcDay readings.now)⟩,false⟩
  | act {estate : Estate} {session : SafetySession} {s t : Remediation} {event : RemediationEvent}
      {next : RemediationPhase} (other : ∀ env, event ≠ .check env)
      (there : estate.tenants.find session.tenant = some s)
      (taken : runtime.remediationProtocol.step s session.phase event t next) :
      SafetyStep runtime settings clocks estate session event
        { tenants := estate.tenants.update session.tenant fun _ => t
          failures := estate.failures ++ session.failure event }
        { session with
          phase := next
          strategyFailed := session.phase.fails event session.strategyFailed }

def safetyProtocol (runtime : RemediationRuntime) (settings : SafetySettings)
    (clocks : GuardReadings → Prop) : Protocol Estate SafetySession RemediationEvent where
  step := runtime.SafetyStep settings clocks
  permits other estate after next := other.tenant = next.tenant →
    ∀ s t, estate.tenants.find other.tenant = some s → after.tenants.find other.tenant = some t →
      runtime.remediationProtocol.permits other.phase s t next.phase

end RemediationRuntime

abbrev SafetySystem (ι : Type) := Interleaving.System ι Estate SafetySession

end Optimization

end Valdrics

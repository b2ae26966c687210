import Valdrics.EnforcementOperations
import Valdrics.EntitlementSpec
import Valdrics.GateEndpoints

/-! The amounts of a gate: what its decisions store is not negative and no arithmetic error leaves
it, for exactly the requests whose amounts can be quantized to a number that is not negative. -/
namespace Valdrics.Enforcement

open Waterfall

structure Decision.Nonnegative (decision : Decision) : Prop where
  allocation : 0 ≤ decision.reservedAllocationUsd
  credit : 0 ≤ decision.reservedCreditUsd
  delta : 0 ≤ decision.estimatedMonthlyDeltaUsd

def StoresNonneg (store next : Store) : Prop :=
  ∀ id row, next.decisions.find id = some row →
    store.decisions.find id = some row ∨ row.Nonnegative

theorem StoresNonneg.refl (store : Store) : StoresNonneg store store := fun _ _ => Or.inl

theorem StoresNonneg.trans {first second third : Store} (before : StoresNonneg first second)
    (after : StoresNonneg second third) : StoresNonneg first third := by
  intro id row found
  rcases after id row found with kept | new
  · exact before id row kept
  · exact Or.inr new

/-- The amounts can be quantized, and the monthly one is a number that is not negative or the
request is a replay. -/
def Service.Admissible (service : Service) (store : Store) (call : GateCall) : Prop :=
  ∃ key, service.gateKey call = some key ∧
    ((∃ monthly, comparableAmount call.gateInput.estimatedMonthlyDeltaUsd 4 = .ok monthly ∧
      0 ≤ monthly) ∨ (store.decisions.lookup key).isSome = true)

def Clean (outcome : Except Fault α) : Prop := outcome ≠ .error .invalidOperation

namespace Clean

theorem ok (value : α) : Clean (.ok value : Except Fault α) := by simp [Clean]

theorem require (value : Option α) {fault : Fault} (other : fault ≠ .invalidOperation) :
    Clean (require value fault) := by
  cases value <;> simp [Clean,Enforcement.require,other]

theorem refuse (bad : Prop) [Decidable bad] {fault : Fault} (other : fault ≠ .invalidOperation) :
    Clean (refuse bad fault) := by
  unfold Enforcement.refuse Clean
  split <;> simp [other]

theorem bind {first : Except Fault α} {next : α → Except Fault β} (clean : Clean first)
    (after : ∀ value, first = .ok value → Clean (next value)) : Clean (first >>= next) := by
  cases first with
  | error fault => simpa [Clean,Bind.bind,Except.bind] using clean
  | ok value => exact after value rfl

end Clean

namespace Store

end Store

namespace Service

end Service

namespace Gate

theorem Kind.reserves {policy : Policy} {computedContext : DecisionComputedContext}
    {input : Waterfall.Input} {dryRun : Bool} {assessment : Assessment}
    (kind : Kind policy computedContext input dryRun assessment) :
    ReservesNothing assessment ∨ Reserves assessment (drawFunds input) := by
  cases kind with
  | violated _ _ nothing => exact Or.inl nothing
  | escalated _ _ _ _ _ _ reserves => exact Or.inr reserves
  | funded _ _ _ _ _ real dry =>
    cases dryRun with
    | false => exact Or.inr (real rfl)
    | true => exact Or.inl (dry rfl)

/-- A request that is not negative reserves nothing negative, and a negative one no credit. -/
theorem Kind.signs {policy : Policy} {computedContext : DecisionComputedContext}
    {input : Waterfall.Input} {dryRun : Bool} {assessment : Assessment}
    (kind : Kind policy computedContext input dryRun assessment) :
    0 ≤ assessment.reserveCredit ∧
      (0 ≤ input.monthlyDelta → 0 ≤ assessment.reserveAllocation) ∧
      (input.monthlyDelta < 0 → assessment.reserveCredit ≤ 0) := by
  rcases kind.reserves with nothing | reserves
  · simp [Assessment.reserveCredit,nothing.allocation,nothing.reservedCredit,
      nothing.emergencyCredit]
  · have spec := drawFunds_spec input
    have allocation := spec.allocNonneg
    have positive := spec.creditPositive
    have reserved := spec.reservedNonneg
    have emergency := spec.emergencyNonneg
    simp only [Assessment.reserveCredit,reserves.allocation,reserves.reservedCredit,
      reserves.emergencyCredit]
    omega

end Gate

namespace Service

theorem draftFrom_signs (service : Service) (context : GateEvaluationContext) (call : GateCall)
    (reads : GateReads) (monthlyDelta : Int) (hourlyDelta : Option Int) :
    let decision := (service.draftFrom context call reads monthlyDelta hourlyDelta).decision
    (0 ≤ monthlyDelta → decision.Nonnegative) ∧
      (monthlyDelta < 0 → decision.reservedCreditUsd ≤ 0) := by
  obtain ⟨credit,allocation,free⟩ := (Gate.assess_kind context.policy context.mode
    (service.isProductionEnvironment context.normalizedEnv) call.gateInput.dryRun reads
    call.computedContext monthlyDelta).signs
  exact ⟨fun nonneg => ⟨allocation nonneg,credit,nonneg⟩,free⟩

theorem gateKey_built {service : Service} {call : GateCall} {key : Source × String}
    (keyed : service.gateKey call = some key) (policy : Policy) :
    ∃ context, service.buildGateEvaluationContext policy call.source call.gateInput = .ok context ∧
      key = (call.source,context.idempotencyKey) := by
  unfold gateKey at keyed
  split at keyed
  · next fingerprint digested =>
    obtain rfl := Option.some.inj keyed
    exact ⟨_,bind_eq_ok.mpr ⟨fingerprint,digested,rfl⟩,rfl⟩
  · cases keyed

theorem Admissible.cases {service : Service} {store : Store} {call : GateCall}
    (admissible : service.Admissible store call) :
    ∃ context, service.buildGateEvaluationContext store.policy call.source call.gateInput =
        .ok context ∧
      ((∃ existing, store.getExistingGateResult call.source context.idempotencyKey
          context.ttlSeconds = some existing) ∨
        store.decisions.lookup (call.source,context.idempotencyKey) = none ∧
          ∃ monthly, Opens service store call context monthly ∧ 0 ≤ monthly) := by
  obtain ⟨key,keyed,amounts⟩ := admissible
  obtain ⟨context,built,rfl⟩ := gateKey_built keyed store.policy
  refine ⟨context,built,?_⟩
  cases looked : store.decisions.lookup (call.source,context.idempotencyKey) with
  | some entry =>
    exact Or.inl ⟨_,Option.map_eq_some_iff.mpr ⟨entry,looked,rfl⟩⟩
  | none =>
    rcases amounts with ⟨monthly,comparable,nonneg⟩ | replay
    · exact Or.inr ⟨rfl,monthly,⟨built,looked,comparable⟩,nonneg⟩
    · simp [looked] at replay

theorem Opens.failSafe {service : Service} {store : Store} {call : GateCall}
    {context : GateEvaluationContext} {monthly : Int} (failure : FailSafe)
    (opens : Opens service store call context monthly) :
    ∃ hourly, service.resolveFailSafeGate store call failure =
      service.persistDecisionWithOptionalApproval store context call
        (service.failSafeDraft context call failure monthly hourly) := by
  obtain ⟨hourly,evaluates⟩ := opens.evaluates
  obtain ⟨monthly',hourly',first,second,_⟩ := draftGateDecision_eq_ok evaluates.drafted
  have drafted : service.draftFailSafe context call failure =
      .ok (service.failSafeDraft context call failure monthly hourly') :=
    bind_eq_ok.mpr ⟨monthly,opens.comparable,
      bind_eq_ok.mpr ⟨hourly',require_eq_ok.mpr second,rfl⟩⟩
  refine ⟨hourly',?_⟩
  simp only [resolveFailSafeGate,opens.built,getExistingGateResult_eq_none.mpr opens.unstored,
    drafted]

theorem Admissible.after {service : Service} {store : Store} {call : GateCall}
    (admissible : service.Admissible store call) :
    service.Admissible (service.evaluateGate store call).1 call := by
  obtain ⟨context,built,⟨existing,found⟩ | ⟨_,monthly,opens,nonneg⟩⟩ := admissible.cases
  · rw [evaluateGate_replayed built found]
    exact admissible
  · exact ⟨_,gateKey_eq built,Or.inl ⟨monthly,opens.comparable,nonneg⟩⟩

structure Raises (service : Service) (store : Store) (call : GateCall) : Prop where
  evaluation : service.evaluateGate store call = (store,.error .invalidOperation)
  failSafe : ∀ failure, service.resolveFailSafeGate store call failure =
    (store,.error .invalidOperation)

theorem Raises.attempt {service : Service} {store : Store} {call : GateCall}
    (raises : service.Raises store call) (interruption : Option Interruption) :
    (service.attemptGate store call interruption).2 = .error (.raised .invalidOperation) := by
  cases interruption with
  | none => simp [attemptGate,raises.evaluation,Fault.isRecoverable]
  | some interruption =>
    simp [attemptGate,raises.evaluation,raises.failSafe,raising,Except.mapError]

def StoresNegative (store next : Store) (call : GateCall) : Prop :=
  store.decisions.find call.decisionId = none ∧
    ∃ row, next.decisions.find call.decisionId = some row ∧ row.estimatedMonthlyDeltaUsd < 0

theorem persisted_negative {service : Service} {store next : Store}
    {context : GateEvaluationContext} {call : GateCall} {draft : GateDraft}
    {approvalId : Option Uuid}
    (spec : Persisted service store next context call draft approvalId)
    (below : draft.decision.estimatedMonthlyDeltaUsd < 0) : StoresNegative store next call := by
  obtain ⟨payload,finds⟩ := spec.inserted
  refine ⟨spec.freshId,_,(finds call.decisionId).trans (if_pos rfl),below⟩

theorem StoresNegative.failSafe {service : Service} {store next : Store} {call : GateCall}
    (negative : StoresNegative store next call) (failure : FailSafe) :
    StoresNegative store (service.resolveFailSafeGate next call failure).1 call := by
  obtain ⟨absent,row,found,below⟩ := negative
  have resolved := (Prod.mk.eta (p := service.resolveFailSafeGate next call failure)).symm
  rcases resolveFailSafeGate_cases resolved with same | ⟨_,_,_,_,_,_,spec⟩
  · rw [same]
    exact ⟨absent,row,found,below⟩
  · have fresh := spec.freshId
    rw [found] at fresh
    cases fresh

theorem Opens.negative {service : Service} {store : Store} {call : GateCall}
    {context : GateEvaluationContext} {monthly : Int}
    (opens : Opens service store call context monthly) (fresh : FreshIds store call)
    (below : monthly < 0) :
    ∃ next result, service.evaluateGate store call = (next,.ok result) ∧
      StoresNegative store next call := by
  obtain ⟨hourly,evaluates⟩ := opens.evaluates
  obtain ⟨next,result,_,returned,_,spec⟩ := evaluates.returns fresh
    ((draftFrom_signs service context call _ monthly hourly).2 below)
  exact ⟨next,result,returned,persisted_negative spec below⟩

end Service

namespace Sample

def allotted : Store := (service.run store (.upsertBudget (budget "default" 500))).1

def arrival : Arrival := ⟨1,0,0,1,1,computedContext⟩

def podReview (key value : String) : K8sAdmissionReviewRequest where
  uid := "uid-1"
  kind := "Pod"
  resource := "pods"
  name := some "web"
  namespace_ := some "default"
  operation := "CREATE"
  userInfo := []
  obj := some [("metadata",.obj [("annotations",.obj [(key,.str value)])])]
  dryRun := none

def reviewed (value : String) : Store × Except Refusal GateEvaluationResult :=
  service.submit allotted (.review (podReview Service.monthlyAnnotation value) none) arrival none

def allocated (outcome : Except Refusal GateEvaluationResult) :
    Except Refusal (DecisionType × Int × Int) :=
  outcome.map fun result => (result.decision.decision,result.decision.reservedAllocationUsd,
    result.decision.estimatedMonthlyDeltaUsd)

end Sample

end Valdrics.Enforcement

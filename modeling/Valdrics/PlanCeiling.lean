import Valdrics.EnforcementOperations
import Valdrics.ReservedTotals

/-! The plan ceiling over a month of requests under hard modes. The ceiling is checked
against what the month has reserved, and an unbudgeted request reserves nothing. -/
namespace Valdrics.Enforcement

structure Policy.Hard (policy : Policy) : Prop where
  terraform : policy.terraformMode = .hard
  terraformProd : policy.terraformModeProd = .hard
  terraformNonprod : policy.terraformModeNonprod = .hard
  k8sAdmission : policy.k8sAdmissionMode = .hard
  k8sAdmissionProd : policy.k8sAdmissionModeProd = .hard
  k8sAdmissionNonprod : policy.k8sAdmissionModeNonprod = .hard

def GateInput.Nonnegative (input : GateInput) : Prop :=
  ∀ units, comparableAmount input.estimatedMonthlyDeltaUsd 4 = .ok units → 0 ≤ units

def Operation.SpendsIn (month : Nat) : Operation → Prop
  | .createCreditGrant _ | .upsertBudget _ => True
  | .evaluateGate call => call.gateInput.dryRun = false ∧ call.gateInput.Nonnegative ∧
      Calendar.monthOf call.now = month ∧ Calendar.monthOf call.createdAt = month
  | _ => False

def Store.admittedIn (store : Store) (month : Nat) : Int :=
  store.decisions.total fun _ decision =>
    if decision.decision ≠ .deny ∧ Calendar.monthOf decision.createdAt = month then
      decision.estimatedMonthlyDeltaUsd
    else 0

namespace Service

variable (service : Service)

def operationKey (policy : Policy) : Operation → Option (Source × String)
  | .evaluateGate call =>
    match service.buildGateEvaluationContext policy call.source call.gateInput with
    | .ok context => some (call.source,context.idempotencyKey)
    | .error _ => none
  | _ => none

/-- A positive request without an effective budget that nothing else stops. -/
def FundsUnbudgeted (store : Store) (call : GateCall) : Prop :=
  store.getEffectiveBudget (service.normalizeScope call.gateInput.projectId) = none ∧
  ∃ units, comparableAmount call.gateInput.estimatedMonthlyDeltaUsd 4 = .ok units ∧ 0 < units ∧
    Gate.reachesWaterfall store.policy call.computedContext units = true ∧
    Waterfall.planExceeded (Gate.waterfallInput .hard
      (service.readGate store call.gateInput call.now) units) = false ∧
    Waterfall.enterpriseFailed (Gate.waterfallInput .hard
      (service.readGate store call.gateInput call.now) units) = false

def Budgeted (store : Store) : Operation → Prop
  | .evaluateGate call => ¬ service.FundsUnbudgeted store call
  | _ => True

end Service

/-- A month under one ceiling: hard modes, no decision of the month yet, and requests
under distinct keys. -/
structure MonthlyRun (service : Service) (store : Store) (month : Nat) (ceiling : Int)
    (operations : List Operation) : Prop where
  hard : store.policy.Hard
  resolved : service.resolvePlanMonthlyCeilingUsd store.policy store.tenantTier = some ceiling
  opening : ∀ id decision, store.decisions.find id = some decision →
    Calendar.monthOf decision.createdAt ≠ month
  spending : ∀ operation ∈ operations, operation.SpendsIn month
  distinct : (operations.filterMap (service.operationKey store.policy)).Nodup

theorem resolvePolicyMode_hard (service : Service) {policy : Policy} (hard : policy.Hard)
    (source : Source) (environment : String) :
    (service.resolvePolicyMode policy source environment).1 = .hard := by
  obtain ⟨terraform,terraformProd,terraformNonprod,k8s,k8sProd,k8sNonprod⟩ := hard
  unfold Service.resolvePolicyMode
  cases source with
  | terraform =>
    dsimp only
    split
    · exact terraformProd
    · split
      · exact terraformNonprod
      · exact terraform
  | k8sAdmission =>
    dsimp only
    split
    · exact k8sProd
    · split
      · exact k8sNonprod
      · exact k8s
  | cloudEvent => exact k8s

theorem resolveCeiling_positive {service : Service} {configured : Option Int}
    {tenantTier : PricingTier} {limitName : String} {ceiling : Int}
    (resolved : service.resolveCeiling configured tenantTier limitName = some ceiling) :
    0 < ceiling := by
  unfold Service.resolveCeiling at resolved
  split at resolved
  · split at resolved
    · next positive =>
      obtain rfl := Option.some.inj resolved
      exact positive
    · contradiction
  · split at resolved
    · contradiction
    · split at resolved
      · contradiction
      · next positive =>
        obtain rfl := Option.some.inj resolved
        omega

namespace Gate

open Waterfall

/-- Under hard modes a request is denied, or it fits the plan and its whole delta is
reserved, unless it has no budget. -/
theorem assess_hard (policy : Policy) (isProd : Bool) (reads : GateReads)
    (computedContext : DecisionComputedContext) {delta ceiling : Int} (nonneg : 0 ≤ delta)
    (planCeiling : reads.planCeiling = some ceiling) :
    let assessment := assess policy .hard isProd false reads computedContext delta
    (assessment.decision = .deny ∧ assessment.reserveAllocation + assessment.reserveCredit = 0) ∨
    (assessment.decision ≠ .deny ∧ delta ≤ max 0 (ceiling - reads.reservedTotalMonthly) ∧
      ((reads.budget = none ∧ 0 < delta ∧ reachesWaterfall policy computedContext delta = true ∧
          planExceeded (waterfallInput .hard reads delta) = false ∧
          enterpriseFailed (waterfallInput .hard reads delta) = false) ∨
        assessment.reserveAllocation + assessment.reserveCredit = delta)) := by
  have kind := assess_kind policy .hard isProd false reads computedContext delta
  have spec := drawFunds_spec (waterfallInput .hard reads delta)
  generalize assess policy .hard isProd false reads computedContext delta = assessment at kind
  cases kind with
  | violated _ decision nothing =>
    refine Or.inl ⟨decision,?_⟩
    simp [Assessment.reserveCredit,nothing.allocation,nothing.reservedCredit,
      nothing.emergencyCredit]
  | escalated _ _ _ soft _ _ _ => simp [waterfallInput] at soft
  | funded reaches plan covered passed decision real _ =>
    have reserves := real rfl
    refine Or.inr ⟨?_,?_,?_⟩
    · rcases decision with allow | credits | ⟨asked,_⟩
      · simp [allow]
      · simp [credits]
      · simp [asked]
    · have within := plan
      simp only [planExceeded,waterfallInput,GateReads.headroom,planCeiling,Option.map_some,
        normalized,decide_eq_false_iff_not] at within
      omega
    · cases budget : reads.budget with
      | none =>
        by_cases positive : 0 < delta
        · exact Or.inl ⟨rfl,positive,reaches,plan,passed⟩
        · have unbounded : (waterfallInput .hard reads delta).allocationHeadroom = none := by
            simp [waterfallInput,GateReads.allocationHeadroom,budget]
          obtain ⟨alloc,reserved,emergency,_⟩ := spec.unbudgeted unbounded
          refine Or.inr ?_
          simp only [Assessment.reserveCredit,reserves.allocation,reserves.reservedCredit,
            reserves.emergencyCredit,alloc,reserved,emergency]
          omega
      | some row =>
        refine Or.inr ?_
        have headroom : (waterfallInput .hard reads delta).allocationHeadroom =
            some (max 0 (row.monthlyLimitUsd - reads.reservedAllocTotal)) := by
          simp [waterfallInput,GateReads.allocationHeadroom,budget]
        have sum := spec.funded _ headroom
        have target := fundingTarget_eq passed
        have remaining := spec.remainingNonneg
        have whole : (waterfallInput .hard reads delta).monthlyDelta = delta := rfl
        simp only [Assessment.reserveCredit,reserves.allocation,reserves.reservedCredit,
          reserves.emergencyCredit]
        omega

end Gate

structure WithinCeiling (service : Service) (month : Nat) (ceiling : Int) (store : Store) :
    Prop where
  hard : store.policy.Hard
  resolved : service.resolvePlanMonthlyCeilingUsd store.policy store.tenantTier = some ceiling
  counted : store.admittedIn month = store.reservedIn month
  within : store.admittedIn month ≤ ceiling

namespace WithinCeiling

variable {service : Service} {month : Nat} {ceiling : Int} {store : Store}

theorem draft_accounts (before : WithinCeiling service month ceiling store) {call : GateCall}
    {context : GateEvaluationContext} {draft : GateDraft}
    (spends : Operation.SpendsIn month (.evaluateGate call))
    (budgeted : ¬ service.FundsUnbudgeted store call)
    (built : service.buildGateEvaluationContext store.policy call.source call.gateInput =
      .ok context) (drafted : service.draftGateDecision store context call = .ok draft) :
    (if draft.decision.decision ≠ .deny ∧ Calendar.monthOf draft.decision.createdAt = month then
        draft.decision.estimatedMonthlyDeltaUsd else 0) =
      (if draft.decision.activeIn month then draft.decision.reservedTotal else 0) ∧
    (if draft.decision.decision ≠ .deny ∧ Calendar.monthOf draft.decision.createdAt = month then
        draft.decision.estimatedMonthlyDeltaUsd else 0) ≤
      max 0 (ceiling - store.reservedIn month) := by
  obtain ⟨real,nonnegative,reading,created⟩ := spends
  obtain ⟨fingerprint,_,rfl⟩ := Service.buildGateEvaluationContext_eq_ok built
  obtain ⟨delta,hourly,quantized,_,rfl⟩ := Service.draftGateDecision_eq_ok drafted
  have nonneg := nonnegative delta quantized
  have mode := resolvePolicyMode_hard service before.hard call.source
    (service.normalizeEnvironment call.gateInput.environment)
  have total := service.readGate_reservedTotalMonthly store call.gateInput call.now
  rw [reading] at total
  have cases_ := Gate.assess_hard store.policy
    (service.isProductionEnvironment (service.normalizeEnvironment call.gateInput.environment))
    (service.readGate store call.gateInput call.now) call.computedContext nonneg before.resolved
  rw [total] at cases_
  simp only [Service.draftFrom,Service.decisionRow,Decision.activeIn,Decision.reservedTotal,
    created,real,mode,Gate.reservationActive]
  generalize Gate.assess store.policy .hard
    (service.isProductionEnvironment (service.normalizeEnvironment call.gateInput.environment))
    false (service.readGate store call.gateInput call.now) call.computedContext delta = assessment
    at cases_ ⊢
  rcases cases_ with ⟨denied,nothing⟩ | ⟨admitted,fits,unbudgeted | reserved⟩
  · simp [denied]
  · obtain ⟨none_,positive,reaches,plan,passed⟩ := unbudgeted
    exact absurd ⟨none_,delta,quantized,positive,reaches,plan,passed⟩ budgeted
  · by_cases positive : 0 < delta
    · simp [admitted,reserved,positive]
      exact le_max_iff.mp fits
    · obtain rfl : delta = 0 := by omega
      simp [admitted,reserved]

theorem gate (before : WithinCeiling service month ceiling store) {next : Store}
    {call : GateCall} {outcome : Except Fault GateEvaluationResult}
    (spends : Operation.SpendsIn month (.evaluateGate call))
    (budgeted : ¬ service.FundsUnbudgeted store call)
    (evaluated : service.evaluateGate store call = (next,outcome)) :
    WithinCeiling service month ceiling next := by
  rcases Service.evaluateGate_cases evaluated with
    rfl | ⟨context,draft,_,evaluates,spec⟩
  · exact before
  · obtain ⟨counts,bounded⟩ :=
      before.draft_accounts spends budgeted evaluates.built evaluates.drafted
    have admitted : next.admittedIn month = store.admittedIn month + _ :=
      spec.total _ fun _ _ _ => rfl
    have reserved : next.reservedIn month = store.reservedIn month + _ :=
      spec.total _ fun _ _ _ => rfl
    have same := before.counted
    have positive := resolveCeiling_positive before.resolved
    have below := before.within
    refine ⟨?_,?_,?_,?_⟩
    · rw [spec.policy]
      exact before.hard
    · rw [spec.policy, spec.tenantTier]
      exact before.resolved
    · rw [admitted, reserved, counts, same]
    · rw [admitted]
      omega

theorem step (before : WithinCeiling service month ceiling store) {operation : Operation}
    (spends : operation.SpendsIn month) (budgeted : service.Budgeted store operation) :
    WithinCeiling service month ceiling (service.run store operation).1 := by
  cases operation with
  | createCreditGrant call =>
    change WithinCeiling service month ceiling (service.createCreditGrant store call).1
    have done := (Prod.mk.eta (p := service.createCreditGrant store call)).symm
    rcases Service.createCreditGrant_cases service done with same | ⟨_,_,_,_,_,same⟩
    all_goals
      rw [same]
      exact ⟨before.hard,before.resolved,before.counted,before.within⟩
  | upsertBudget call =>
    change WithinCeiling service month ceiling (service.upsertBudget store call).1
    have done := (Prod.mk.eta (p := service.upsertBudget store call)).symm
    obtain ⟨_,same⟩ := Service.upsertBudget_cases service done
    rw [same]
    exact ⟨before.hard,before.resolved,before.counted,before.within⟩
  | evaluateGate call => exact before.gate spends budgeted Prod.mk.eta.symm
  | _ => exact spends.elim

end WithinCeiling

/-- In a month none of whose steps funds an unbudgeted request, the amounts admitted
never add up to more than the plan ceiling. -/
theorem plan_ceiling_cumulative (service : Service) (store : Store) (month : Nat) (ceiling : Int)
    (operations : List Operation) (run : MonthlyRun service store month ceiling operations)
    (budgeted : EachStep service.run service.Budgeted store operations) :
    (finalState service.run store operations).admittedIn month ≤ ceiling := by
  have admitted : store.admittedIn month = 0 := by
    apply Table.total_eq_zero
    intro id decision member
    simp [run.opening id decision (Table.find_eq_some_iff.mpr member)]
  have reserved : store.reservedIn month = 0 := by
    apply Table.total_eq_zero
    intro id decision member
    simp [Decision.activeIn,run.opening id decision (Table.find_eq_some_iff.mpr member)]
  have positive := resolveCeiling_positive run.resolved
  have start : WithinCeiling service month ceiling store :=
    ⟨run.hard,run.resolved,by rw [admitted,reserved],by omega⟩
  have each := EachStep.and_all store operations budgeted run.spending
  exact (finalState_invariant service.run _ (WithinCeiling service month ceiling)
    (fun _ _ before guard => before.step guard.1 guard.2) store operations each start).within

namespace Sample

def capped : Store := { store with policy := { policy with planMonthlyCeilingUsd := some 100_0000 } }

theorem capped_run (operations : List Operation)
    (spending : ∀ operation ∈ operations, operation.SpendsIn 0)
    (distinct : (operations.filterMap (service.operationKey capped.policy)).Nodup) :
    MonthlyRun service capped 0 100_0000 operations :=
  ⟨⟨rfl,rfl,rfl,rfl,rfl,rfl⟩,rfl,fun _ _ found => by contradiction,spending,distinct⟩

theorem gate_spends (id : Uuid) (projectId key : String) :
    (Operation.evaluateGate (gate id projectId key 80 0)).SpendsIn 0 := by
  have firstMonth : Calendar.monthOf 0 = 0 := by decide
  refine ⟨rfl,?_,firstMonth,firstMonth⟩
  intro units quantized
  have exact_ : comparableAmount (gate id projectId key 80 0).gateInput.estimatedMonthlyDeltaUsd 4
      = .ok 80_0000 := by rfl
  obtain rfl := Except.ok.inj (exact_.symm.trans quantized)
  decide

/-- Two requests of 80, the second of which the ceiling stops once the first is counted. -/
def twice : List Operation :=
  [.evaluateGate (gate 1 "web" "first" 80 0),.evaluateGate (gate 2 "web" "second" 80 0)]

theorem twice_spends : ∀ operation ∈ twice, operation.SpendsIn 0 := by
  intro operation member
  simp only [twice,List.mem_cons,List.not_mem_nil,or_false] at member
  rcases member with rfl | rfl <;> exact gate_spends _ _ _

end Sample

theorem plan_ceiling_cumulative_budgeted :
    (finalState Sample.service.run Sample.capped
      (.upsertBudget (Sample.budget "default" 500) :: Sample.twice)).admittedIn 0 ≤ 100_0000 := by
  refine plan_ceiling_cumulative Sample.service Sample.capped 0 100_0000 _
    (Sample.capped_run _ ?_ (by decide)) ?_
  · intro operation member
    rcases List.mem_cons.mp member with rfl | later
    · trivial
    · exact Sample.twice_spends operation later
  · refine ⟨trivial,?_,?_,trivial⟩
    all_goals
      rintro ⟨unbudgeted,_⟩
      revert unbudgeted
      decide

/-- Without a budget both requests are admitted: 160 under a ceiling of 100. -/
theorem plan_ceiling_exceeded :
    MonthlyRun Sample.service Sample.capped 0 100_0000 Sample.twice ∧
      ¬ (finalState Sample.service.run Sample.capped Sample.twice).admittedIn 0 ≤ 100_0000 :=
  ⟨Sample.capped_run _ Sample.twice_spends (by decide),by decide⟩

end Valdrics.Enforcement

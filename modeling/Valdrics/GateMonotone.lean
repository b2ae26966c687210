import Valdrics.DecimalContext
import Valdrics.EnforcementOperations
import Valdrics.EntitlementSpec
import Valdrics.GatePersistence

/-! The gate is monotone: a larger delta, or less headroom, never gets a more permissive
decision. -/
namespace Valdrics.Enforcement

open Waterfall

def DecisionType.permission : DecisionType → Nat
  | .deny => 0
  | .requireApproval => 1
  | .allow => 2
  | .allowWithCredits => 2

/-- Every amount that the second headroom holds, the first one holds too. -/
def RoomFor (room less : Option Int) : Prop :=
  ∀ available, room = some available → ∃ lesser, less = some lesser ∧ lesser ≤ available

theorem RoomFor.refl (room : Option Int) : RoomFor room room :=
  fun available held => ⟨available,held,le_rfl⟩

namespace GateReads

structure Roomier (reads less : GateReads) : Prop where
  plan : RoomFor (reads.headroom reads.planCeiling) (less.headroom less.planCeiling)
  allocation : RoomFor reads.allocationHeadroom less.allocationHeadroom
  reserved : less.reservedCreditHeadroom ≤ reads.reservedCreditHeadroom
  emergency : less.emergencyCreditHeadroom ≤ reads.emergencyCreditHeadroom
  enterprise : RoomFor (reads.headroom reads.enterpriseCeiling) (less.headroom less.enterpriseCeiling)

theorem Roomier.refl (reads : GateReads) : reads.Roomier reads :=
  ⟨.refl _,.refl _,le_rfl,le_rfl,.refl _⟩

end GateReads

namespace Gate

structure Funds (policy : Policy) (computedContext : DecisionComputedContext)
    (input : Waterfall.Input) : Prop where
  reaches : reachesWaterfall policy computedContext input.monthlyDelta = true
  plan : Input.Within input.monthlyDelta input.planHeadroom
  enterprise : Input.Within input.monthlyDelta input.enterpriseHeadroom
  covered : input.Covered input.monthlyDelta

theorem not_funds {policy : Policy} {computedContext : DecisionComputedContext}
    {input : Waterfall.Input}
    (lost : reachesWaterfall policy computedContext input.monthlyDelta = false ∨
      planExceeded input = true ∨ 0 < (drawFunds input).remaining ∨
      enterpriseFailed input = true) : ¬Funds policy computedContext input := by
  intro funds
  rcases lost with missed | exceeded | missing | failed
  · rw [funds.reaches] at missed
    cases missed
  · exact (planExceeded_iff input).mp exceeded funds.plan
  · exact (remaining_iff input).mp missing (covered_target funds.covered)
  · exact (enterpriseFailed_iff input).mp failed funds.enterprise

theorem funds_of {policy : Policy} {computedContext : DecisionComputedContext}
    {input : Waterfall.Input}
    (reaches : reachesWaterfall policy computedContext input.monthlyDelta = true)
    (plan : planExceeded input = false) (funded : (drawFunds input).remaining ≤ 0)
    (passed : enterpriseFailed input = false) : Funds policy computedContext input := by
  have within := mt (planExceeded_iff input).mpr (Bool.eq_false_iff.mp plan)
  have allowed := mt (enterpriseFailed_iff input).mpr (Bool.eq_false_iff.mp passed)
  have covered := mt (remaining_iff input).mpr (not_lt.mpr funded)
  rw [fundingTarget_eq passed] at covered
  exact ⟨reaches,not_not.mp within,not_not.mp allowed,not_not.mp covered⟩

theorem assessFunding_decision (policy : Policy) (computedContext : DecisionComputedContext)
    (input : Waterfall.Input) :
    (Funds policy computedContext input ∧
      ((assessFunding policy computedContext input).decision = .allow ∨
        (assessFunding policy computedContext input).decision = .allowWithCredits)) ∨
    (¬Funds policy computedContext input ∧
      (assessFunding policy computedContext input).decision =
        modeViolationDecision input.mode) := by
  rcases assessFunding_cases policy computedContext input with
    ⟨reason,violated,_⟩ | ⟨_,_,soft,missing,decision,_⟩ | ⟨reaches,plan,funded,passed,decision,_⟩
  · refine Or.inr ⟨not_funds ?_,violated⟩
    rcases reason with missed | exceeded | ⟨missing,_⟩
    · exact Or.inl missed
    · exact Or.inr (Or.inl exceeded)
    · exact Or.inr (Or.inr missing)
  · refine Or.inr ⟨not_funds (Or.inr (Or.inr missing)),?_⟩
    rw [decision,soft,modeViolationDecision]
  · exact Or.inl ⟨funds_of reaches plan funded passed,decision⟩

def grade (mode : Mode) (required funded : Bool) : Nat :=
  if funded then if required ∧ mode ≠ .shadow then 1 else 2
  else (modeViolationDecision mode).permission

theorem grade_le {mode : Mode} {required required' funded funded' : Bool}
    (stricter : required = true → required' = true) (funds : funded' = true → funded = true) :
    grade mode required' funded' ≤ grade mode required funded := by
  cases mode <;> cases required <;> cases required' <;> cases funded <;> cases funded' <;>
    simp_all [grade,modeViolationDecision,DecisionType.permission]

theorem applyApproval_permission (mode : Mode) (required : Bool) {assessment : Assessment}
    (allowed : assessment.decision = .allow ∨ assessment.decision = .allowWithCredits) :
    (applyApproval mode required assessment).decision.permission = grade mode required true := by
  unfold applyApproval
  rcases allowed with allow | credits
  · cases required <;> cases mode <;> simp [allow,grade,DecisionType.permission]
  · cases required <;> cases mode <;> simp [credits,grade,DecisionType.permission]

open Classical in
theorem assess_permission (policy : Policy) (mode : Mode) (isProd dryRun : Bool)
    (reads : GateReads) (computedContext : DecisionComputedContext) (monthlyDelta : Int) :
    (assess policy mode isProd dryRun reads computedContext monthlyDelta).decision.permission =
      grade mode (approvalRequired policy isProd monthlyDelta)
        (decide (Funds policy computedContext (waterfallInput mode reads monthlyDelta))) := by
  unfold assess
  rw [applyDryRun_decision]
  rcases assessFunding_decision policy computedContext (waterfallInput mode reads monthlyDelta) with
    ⟨funds,allowed⟩ | ⟨unfunded,violated⟩
  · rw [applyApproval_permission mode _ allowed,decide_eq_true funds]
  · rw [applyApproval_violation mode _ _ violated,decide_eq_false unfunded]
    rfl

theorem Within_of_room {amount amount' : Int} {room less : Option Int} (le : amount ≤ amount')
    (roomier : RoomFor room less) (within : Input.Within amount' less) :
    Input.Within amount room := by
  intro available held
  obtain ⟨lesser,found,most⟩ := roomier available held
  have bound := within lesser found
  exact le.trans (bound.trans (max_le_max le_rfl most))

/-- What the smaller headrooms fund of the larger request, the larger ones fund of the smaller. -/
theorem Funds.mono {policy : Policy} {computedContext computedContext' : DecisionComputedContext}
    {mode : Mode} {reads less : GateReads} {monthlyDelta monthlyDelta' : Int}
    (available : computedContext'.dataSourceMode = computedContext.dataSourceMode)
    (roomier : reads.Roomier less) (le : monthlyDelta ≤ monthlyDelta')
    (funds : Funds policy computedContext' (waterfallInput mode less monthlyDelta')) :
    Funds policy computedContext (waterfallInput mode reads monthlyDelta) := by
  constructor
  · have reaches := funds.reaches
    simp only [reachesWaterfall,waterfallInput,available,Bool.and_eq_true,Bool.not_eq_true',
      Bool.and_eq_false_imp,decide_eq_true_eq] at reaches ⊢
    refine ⟨fun missing => ?_,decide_eq_true (le.trans (of_decide_eq_true reaches.2))⟩
    have none := of_decide_eq_false (reaches.1 missing)
    exact decide_eq_false fun positive => none (positive.trans_le le)
  · exact Within_of_room le roomier.plan funds.plan
  · exact Within_of_room le roomier.enterprise funds.enterprise
  · intro allocation budget
    obtain ⟨lesser,found,most⟩ := roomier.allocation allocation budget
    have held := funds.covered lesser found
    have first : normalized lesser ≤ normalized allocation := max_le_max le_rfl most
    have second : normalized less.reservedCreditHeadroom ≤
        normalized reads.reservedCreditHeadroom := max_le_max le_rfl roomier.reserved
    have third : normalized less.emergencyCreditHeadroom ≤
        normalized reads.emergencyCreditHeadroom := max_le_max le_rfl roomier.emergency
    simp only [Input.pools,waterfallInput,List.sum_cons,List.sum_nil,add_zero] at held ⊢
    omega

theorem approvalRequired_mono {policy : Policy} {isProd : Bool} {monthlyDelta monthlyDelta' : Int}
    (le : monthlyDelta ≤ monthlyDelta')
    (required : approvalRequired policy isProd monthlyDelta = true) :
    approvalRequired policy isProd monthlyDelta' = true := by
  simp only [approvalRequired,Bool.and_eq_true,Bool.not_eq_true',decide_eq_false_iff_not] at required ⊢
  exact ⟨required.1,fun small => required.2 (le.trans small)⟩

open Classical in
theorem assess_mono {policy : Policy} {mode : Mode} {isProd dryRun dryRun' : Bool}
    {reads less : GateReads} {computedContext computedContext' : DecisionComputedContext}
    {monthlyDelta monthlyDelta' : Int}
    (available : computedContext'.dataSourceMode = computedContext.dataSourceMode)
    (roomier : reads.Roomier less) (le : monthlyDelta ≤ monthlyDelta') :
    (assess policy mode isProd dryRun' less computedContext' monthlyDelta').decision.permission ≤
      (assess policy mode isProd dryRun reads computedContext monthlyDelta).decision.permission := by
  rw [assess_permission,assess_permission]
  apply grade_le
  · exact approvalRequired_mono le
  · intro funds
    exact decide_eq_true ((of_decide_eq_true funds).mono available roomier le)

end Gate

namespace Service

structure Decides (service : Service) (store : Store) (call : GateCall)
    (result : GateEvaluationResult) : Prop where
  evaluates : ∃ context draft, Evaluates service store call context draft
  returns : (service.evaluateGate store call).2 = .ok result

structure SameRequest (call call' : GateCall) : Prop where
  source : call'.source = call.source
  environment : call'.gateInput.environment = call.gateInput.environment
  available : call'.computedContext.dataSourceMode = call.computedContext.dataSourceMode

theorem Decides.draft {service : Service} {store : Store} {call : GateCall}
    {result : GateEvaluationResult} (decides : service.Decides store call result) :
    ∃ context monthly hourly,
      service.buildGateEvaluationContext store.policy call.source call.gateInput = .ok context ∧
      comparableAmount call.gateInput.estimatedMonthlyDeltaUsd 4 = .ok monthly ∧
      result.decision.decision = (service.draftFrom context call
        (service.readGate store call.gateInput call.now) monthly hourly).decision.decision := by
  obtain ⟨⟨context,draft,evaluates⟩,returned⟩ := decides
  obtain ⟨monthly,hourly,opens,drafted⟩ := evaluates.opens
  refine ⟨context,monthly,hourly,opens.built,opens.comparable,?_⟩
  rw [evaluates.persists] at returned
  have persisted := (Prod.mk.eta (p :=
    service.persistDecisionWithOptionalApproval store context call draft)).symm
  rcases persistDecision_cases persisted with ⟨_,replayed⟩ | ⟨_,decision,spec,found,outcome⟩
  · have stored := getExistingGateResult_eq_some (replayed result returned)
    rw [evaluates.unstored] at stored
    cases stored
  · obtain ⟨payload,finds⟩ := spec.inserted
    have row := finds call.decisionId
    rw [if_pos rfl,found] at row
    rw [outcome] at returned
    obtain rfl := Except.ok.inj returned
    obtain rfl := Option.some.inj row
    rw [drafted]
    rfl

/-- Less headroom and a larger delta never get a more permissive decision. -/
theorem gate_monotone (service : Service) {store store' : Store} {call call' : GateCall}
    {result result' : GateEvaluationResult} {delta delta' : Decimal}
    (decides : service.Decides store call result)
    (decides' : service.Decides store' call' result')
    (policy : store'.policy = store.policy) (same : SameRequest call call')
    (asked : call.gateInput.estimatedMonthlyDeltaUsd = .finite delta)
    (asked' : call'.gateInput.estimatedMonthlyDeltaUsd = .finite delta')
    (le : delta.inUnits 0 ≤ delta'.inUnits 0)
    (roomier : (service.readGate store call.gateInput call.now).Roomier
      (service.readGate store' call'.gateInput call'.now)) :
    result'.decision.decision.permission ≤ result.decision.decision.permission := by
  obtain ⟨context,monthly,hourly,built,comparable,decision⟩ := decides.draft
  obtain ⟨context',monthly',hourly',built',comparable',decision'⟩ := decides'.draft
  rw [asked] at comparable
  rw [asked'] at comparable'
  have units : monthly ≤ monthly' := by
    rw [quantized_eq_ok comparable,quantized_eq_ok comparable']
    exact Decimal.scaled_le le 4
  obtain ⟨_,_,rfl⟩ := buildGateEvaluationContext_eq_ok built
  obtain ⟨_,_,rfl⟩ := buildGateEvaluationContext_eq_ok built'
  rw [decision,decision']
  simp only [draftFrom,decisionRow,policy,same.source,same.environment]
  exact Gate.assess_mono same.available roomier units

/-- Sixty dollars get no less than nine thousand. -/
theorem gate_monotone_sample :
    ∃ result result',
      Sample.service.Decides Sample.store (Sample.gate 1 "web" "first" 60 0) result ∧
      Sample.service.Decides Sample.store (Sample.gate 2 "web" "second" 9000 0) result' ∧
      result'.decision.decision.permission ≤ result.decision.decision.permission := by
  have first : ∃ result,
      Sample.service.Decides Sample.store (Sample.gate 1 "web" "first" 60 0) result :=
    ⟨_,⟨_,_,⟨rfl,rfl,rfl⟩⟩,rfl⟩
  have second : ∃ result,
      Sample.service.Decides Sample.store (Sample.gate 2 "web" "second" 9000 0) result :=
    ⟨_,⟨_,_,⟨rfl,rfl,rfl⟩⟩,rfl⟩
  obtain ⟨result,decides⟩ := first
  obtain ⟨result',decides'⟩ := second
  refine ⟨result,result',decides,decides',gate_monotone Sample.service decides decides' rfl
    ⟨rfl,rfl,rfl⟩ rfl rfl ?_ (.refl _)⟩
  norm_num [Decimal.inUnits]

end Service

end Valdrics.Enforcement

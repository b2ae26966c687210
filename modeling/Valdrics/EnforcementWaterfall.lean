import Mathlib.Tactic.Linarith
import Valdrics.EnforcementModels

/-! The entitlement waterfall: plan limit, project allocation, reserved credits,
emergency credits, enterprise ceiling. A stage takes what it can of what remains. -/
namespace Valdrics.Enforcement

namespace Waterfall

def modeViolationDecision : Mode → DecisionType
  | .shadow => .allow
  | .soft => .requireApproval
  | .hard => .deny

def modeViolationReasonSuffix (mode : Mode) (subject : String) : String :=
  match mode with
  | .shadow => "shadow_mode_" ++ subject ++ "_override"
  | .soft => "soft_mode_" ++ subject ++ "_escalation"
  | .hard => "hard_mode_" ++ subject ++ "_closed"

structure Input where
  mode : Mode
  monthlyDelta : Int
  planHeadroom : Option Int
  allocationHeadroom : Option Int
  reservedCreditHeadroom : Int
  emergencyCreditHeadroom : Int
  enterpriseHeadroom : Option Int

structure EntitlementWaterfallResult where
  decision : DecisionType
  reserveAllocationUsd : Int
  reserveReservedCreditUsd : Int
  reserveEmergencyCreditUsd : Int
  reasonCode : Option String
  stageDetails : List StageDetail
  deriving DecidableEq, Repr

def EntitlementWaterfallResult.reserveCreditUsd (result : EntitlementWaterfallResult) : Int :=
  result.reserveReservedCreditUsd + result.reserveEmergencyCreditUsd

def normalized (headroom : Int) : Int := max 0 headroom

def planExceeded (input : Input) : Bool :=
  match input.planHeadroom with
  | none => false
  | some headroom => normalized headroom < input.monthlyDelta

def planStage (input : Input) : StageDetail where
  stage := "plan_limit"
  status :=
    if input.planHeadroom = none then "skipped"
    else if planExceeded input then "fail" else "pass"
  availableUsd := input.planHeadroom.map normalized
  consumedUsd := if planExceeded input then 0 else input.monthlyDelta
  remainingAfterStageUsd := input.monthlyDelta

def fundingTarget (input : Input) : Int :=
  match input.enterpriseHeadroom with
  | none => input.monthlyDelta
  | some headroom => min input.monthlyDelta (normalized headroom)

def enterpriseFailed (input : Input) : Bool :=
  match input.enterpriseHeadroom with
  | none => false
  | some headroom => normalized headroom < input.monthlyDelta

structure Draws where
  reservedAlloc : Int
  reservedCredit : Int
  emergencyCredit : Int
  remaining : Int

def drawFunds (input : Input) : Draws :=
  let funding := fundingTarget input
  let (reservedAlloc,afterAlloc) := match input.allocationHeadroom with
    | none => ((0 : Int),(0 : Int))
    | some headroom =>
      let taken := min funding (normalized headroom)
      (taken,funding - taken)
  let reservedCredit := min afterAlloc (normalized input.reservedCreditHeadroom)
  let afterReserved := afterAlloc - reservedCredit
  let emergencyCredit := min afterReserved (normalized input.emergencyCreditHeadroom)
  ⟨reservedAlloc,reservedCredit,emergencyCredit,afterReserved - emergencyCredit⟩

def drawStatus (remaining : Int) : String := if remaining = 0 then "pass" else "partial"

def creditStatus (available remaining : Int) : String :=
  if 0 < available then drawStatus remaining else "skipped"

def drawStages (input : Input) (draws : Draws) : List StageDetail :=
  let funding := fundingTarget input
  let afterReserved := draws.remaining + draws.emergencyCredit
  let afterAlloc := afterReserved + draws.reservedCredit
  let reservedAvailable := normalized input.reservedCreditHeadroom
  let emergencyAvailable := normalized input.emergencyCreditHeadroom
  [ match input.allocationHeadroom with
      | none => ⟨"project_allocation","skipped",none,funding,0⟩
      | some headroom => ⟨"project_allocation",drawStatus afterAlloc,some (normalized headroom),
          draws.reservedAlloc,afterAlloc⟩,
    ⟨"reserved_credits",creditStatus reservedAvailable afterReserved,some reservedAvailable,
      draws.reservedCredit,afterReserved⟩,
    ⟨"org_emergency_credits",creditStatus emergencyAvailable draws.remaining,
      some emergencyAvailable,draws.emergencyCredit,draws.remaining⟩ ]

def enterpriseStage (input : Input) (draws : Draws) : StageDetail where
  stage := "enterprise_ceiling"
  status :=
    if enterpriseFailed input = true ∧ draws.remaining = 0 then "fail"
    else if input.enterpriseHeadroom = none then "skipped" else "pass"
  availableUsd := input.enterpriseHeadroom.map normalized
  consumedUsd := fundingTarget input
  remainingAfterStageUsd := input.monthlyDelta - fundingTarget input

def violation (input : Input) (draws : Draws) (reason : String) (stages : List StageDetail) :
    EntitlementWaterfallResult :=
  let kept (amount : Int) : Int := if input.mode = .soft then amount else 0
  ⟨modeViolationDecision input.mode,kept draws.reservedAlloc,kept draws.reservedCredit,
    kept draws.emergencyCredit,some reason,stages⟩

def evaluateEntitlementWaterfall (input : Input) : EntitlementWaterfallResult :=
  if planExceeded input then
    ⟨modeViolationDecision input.mode,0,0,0,some "plan_limit_exceeded",[planStage input]⟩
  else
    let draws := drawFunds input
    let stages := planStage input :: drawStages input draws ++ [enterpriseStage input draws]
    if 0 < draws.remaining then violation input draws "budget_exceeded" stages
    else if enterpriseFailed input then
      violation input draws "enterprise_ceiling_exceeded" stages
    else
      ⟨if draws.reservedCredit + draws.emergencyCredit = 0 then .allow else .allowWithCredits,
        draws.reservedAlloc,draws.reservedCredit,draws.emergencyCredit,none,stages⟩

structure DrawSpec (input : Input) (draws : Draws) : Prop where
  allocNonneg : 0 ≤ input.monthlyDelta → 0 ≤ draws.reservedAlloc
  allocPositive : 0 < draws.reservedAlloc → 0 < input.monthlyDelta
  reservedNonneg : 0 ≤ draws.reservedCredit
  emergencyNonneg : 0 ≤ draws.emergencyCredit
  creditPositive : 0 < draws.reservedCredit + draws.emergencyCredit → 0 < input.monthlyDelta
  remainingNonneg : 0 ≤ draws.remaining
  allocAvailable : ∀ headroom, input.allocationHeadroom = some headroom →
    draws.reservedAlloc ≤ max 0 headroom
  reservedAvailable : draws.reservedCredit ≤ max 0 input.reservedCreditHeadroom
  emergencyAvailable : draws.emergencyCredit ≤ max 0 input.emergencyCreditHeadroom
  funded : ∀ headroom, input.allocationHeadroom = some headroom →
    draws.reservedAlloc + draws.reservedCredit + draws.emergencyCredit + draws.remaining =
      fundingTarget input
  unbudgeted : input.allocationHeadroom = none → draws.reservedAlloc = 0 ∧
    draws.reservedCredit = 0 ∧ draws.emergencyCredit = 0 ∧ draws.remaining = 0

theorem fundingTarget_bounds (input : Input) :
    fundingTarget input ≤ input.monthlyDelta ∧
      (0 ≤ input.monthlyDelta → 0 ≤ fundingTarget input) ∧
      (input.monthlyDelta ≤ 0 → fundingTarget input ≤ 0) := by
  unfold fundingTarget normalized
  split <;> omega

theorem drawFunds_spec (input : Input) : DrawSpec input (drawFunds input) := by
  obtain ⟨most,nonneg,nonpos⟩ := fundingTarget_bounds input
  cases budget : input.allocationHeadroom with
  | none =>
    constructor <;> simp [drawFunds,budget,normalized]
  | some headroom =>
    constructor <;> simp only [drawFunds,budget,normalized,Option.some.injEq,reduceCtorEq,
      forall_eq',false_implies] <;> omega

theorem fundingTarget_eq {input : Input} (within : enterpriseFailed input = false) :
    fundingTarget input = input.monthlyDelta := by
  unfold enterpriseFailed at within
  unfold fundingTarget
  split at within
  · rfl
  · have le := of_decide_eq_false within
    exact min_eq_left (by omega)

theorem evaluateEntitlementWaterfall_cases (input : Input) :
    (planExceeded input = true ∧
      (evaluateEntitlementWaterfall input).decision = modeViolationDecision input.mode ∧
      (evaluateEntitlementWaterfall input).reserveAllocationUsd = 0 ∧
      (evaluateEntitlementWaterfall input).reserveReservedCreditUsd = 0 ∧
      (evaluateEntitlementWaterfall input).reserveEmergencyCreditUsd = 0) ∨
    (planExceeded input = false ∧
      (0 < (drawFunds input).remaining ∨ enterpriseFailed input = true) ∧
      ∃ reason stages, evaluateEntitlementWaterfall input =
        violation input (drawFunds input) reason stages) ∨
    (planExceeded input = false ∧ (drawFunds input).remaining ≤ 0 ∧
      enterpriseFailed input = false ∧
      ((evaluateEntitlementWaterfall input).decision = .allow ∨
        (evaluateEntitlementWaterfall input).decision = .allowWithCredits) ∧
      (evaluateEntitlementWaterfall input).reserveAllocationUsd =
        (drawFunds input).reservedAlloc ∧
      (evaluateEntitlementWaterfall input).reserveReservedCreditUsd =
        (drawFunds input).reservedCredit ∧
      (evaluateEntitlementWaterfall input).reserveEmergencyCreditUsd =
        (drawFunds input).emergencyCredit) := by
  unfold evaluateEntitlementWaterfall
  by_cases plan : planExceeded input = true
  · simp [plan]
  · have within : planExceeded input = false := Bool.eq_false_iff.mpr plan
    refine Or.inr ?_
    by_cases missing : 0 < (drawFunds input).remaining
    · refine Or.inl ⟨within,Or.inl missing,"budget_exceeded",
        planStage input :: drawStages input (drawFunds input) ++
          [enterpriseStage input (drawFunds input)],?_⟩
      simp only [within,Bool.false_eq_true,if_false,missing,if_true]
    · by_cases failed : enterpriseFailed input = true
      · refine Or.inl ⟨within,Or.inr failed,"enterprise_ceiling_exceeded",
          planStage input :: drawStages input (drawFunds input) ++
            [enterpriseStage input (drawFunds input)],?_⟩
        simp only [within,Bool.false_eq_true,if_false,missing,failed,if_true]
      · have passed : enterpriseFailed input = false := Bool.eq_false_iff.mpr failed
        refine Or.inr ⟨within,by omega,passed,?_⟩
        simp only [within,Bool.false_eq_true,if_false,missing,passed,and_self,and_true]
        by_cases credits : (drawFunds input).reservedCredit + (drawFunds input).emergencyCredit = 0
        · simp [credits]
        · simp [credits]

example : (evaluateEntitlementWaterfall
    ⟨.hard,150_0000,some 1000_0000,some 100_0000,30_0000,20_0000,none⟩).decision =
    .allowWithCredits := by decide

end Waterfall

end Valdrics.Enforcement

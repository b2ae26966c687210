import Valdrics.EnforcementCredit
import Valdrics.EnforcementWaterfall
import Valdrics.OrderedDraw

/-! What the entitlement waterfall decides and reserves: the amounts it is called with are
quantized first, and what it reserves is drawn on the pools in their order. -/
namespace Valdrics.Enforcement.Waterfall

open OrderedDraw

structure Arguments where
  mode : Mode
  monthlyDelta : Decimal
  planHeadroom : Option Decimal
  allocationHeadroom : Option Decimal
  reservedCreditHeadroom : Decimal
  emergencyCreditHeadroom : Decimal
  enterpriseHeadroom : Option Decimal

def quantized (amount : Decimal) : Except Fault Int := comparableAmount (.finite amount) 4

def quantizedHeadroom : Option Decimal → Except Fault (Option Int)
  | none => .ok none
  | some headroom => (quantized headroom).map some

/-- `evaluate_entitlement_waterfall`: past an exceeded plan no other headroom is quantized. -/
def evaluateEntitlement (args : Arguments) : Except Fault EntitlementWaterfallResult := do
  let requested ← quantized args.monthlyDelta
  let plan ← quantizedHeadroom args.planHeadroom
  let planned : Input := ⟨args.mode,requested,plan,none,0,0,none⟩
  if planExceeded planned then return evaluateEntitlementWaterfall planned
  let enterprise ← quantizedHeadroom args.enterpriseHeadroom
  let allocation ← quantizedHeadroom args.allocationHeadroom
  let reserved ← quantized args.reservedCreditHeadroom
  let emergency ← quantized args.emergencyCreditHeadroom
  return evaluateEntitlementWaterfall
    ⟨args.mode,requested,plan,allocation,reserved,emergency,enterprise⟩

def budgetReasons (mode : Mode) (result : EntitlementWaterfallResult) : List String :=
  (if result.reasonCode = some "budget_exceeded" then
    "budget_exceeded" ::
      match mode with
      | .shadow => ["shadow_mode_budget_override"]
      | .soft => ["soft_mode_budget_escalation"]
      | .hard => []
  else []) ++
  (if 0 < result.reserveCreditUsd then ["credit_waterfall_used"] else [])

/-- `evaluate_budget_waterfall`, with the reasons it appends to those it is given. -/
def evaluateBudget (mode : Mode) (monthlyDelta : Decimal) (allocationHeadroom : Option Decimal)
    (creditsHeadroom : Decimal) (reasons : List String) :
    Except Fault (DecisionType × Int × Int × List String) := do
  let result ← evaluateEntitlement
    ⟨mode,monthlyDelta,none,allocationHeadroom,creditsHeadroom,⟨0,0⟩,none⟩
  return (result.decision,result.reserveAllocationUsd,result.reserveReservedCreditUsd,
    reasons ++ budgetReasons mode result)

structure Quantized (args : Arguments) (input : Input) : Prop where
  mode : input.mode = args.mode
  monthlyDelta : quantized args.monthlyDelta = .ok input.monthlyDelta
  planHeadroom : quantizedHeadroom args.planHeadroom = .ok input.planHeadroom
  allocationHeadroom : quantizedHeadroom args.allocationHeadroom = .ok input.allocationHeadroom
  reservedCreditHeadroom :
    quantized args.reservedCreditHeadroom = .ok input.reservedCreditHeadroom
  emergencyCreditHeadroom :
    quantized args.emergencyCreditHeadroom = .ok input.emergencyCreditHeadroom
  enterpriseHeadroom : quantizedHeadroom args.enterpriseHeadroom = .ok input.enterpriseHeadroom

namespace Input

def Within (amount : Int) (headroom : Option Int) : Prop :=
  ∀ available, headroom = some available → amount ≤ normalized available

def pools (input : Input) (allocation : Int) : List Int :=
  [normalized allocation,normalized input.reservedCreditHeadroom,
    normalized input.emergencyCreditHeadroom]

def Covered (input : Input) (amount : Int) : Prop :=
  ∀ allocation, input.allocationHeadroom = some allocation →
    amount ≤ (input.pools allocation).sum

end Input

def EntitlementWaterfallResult.reserves (result : EntitlementWaterfallResult) : List Int :=
  [result.reserveAllocationUsd,result.reserveReservedCreditUsd,result.reserveEmergencyCreditUsd]

/-- What a result reserves: within the headrooms, and from a later pool only past the ones
before it. -/
structure ReservesSpec (input : Input) (result : EntitlementWaterfallResult) : Prop where
  unbudgeted : input.allocationHeadroom = none → result.reserves = [0,0,0]
  nonneg : ∀ amount ∈ result.reserves, 0 ≤ amount
  bounded : ∀ allocation, input.allocationHeadroom = some allocation →
    List.Forall₂ (· ≤ ·) result.reserves (input.pools allocation)
  reservedAfter : 0 < result.reserveReservedCreditUsd →
    input.allocationHeadroom.map normalized = some result.reserveAllocationUsd
  emergencyAfter : 0 < result.reserveEmergencyCreditUsd →
    input.allocationHeadroom.map normalized = some result.reserveAllocationUsd ∧
      result.reserveReservedCreditUsd = normalized input.reservedCreditHeadroom

structure EntitlementSpec (input : Input) (result : EntitlementWaterfallResult) : Prop where
  passes : result.reasonCode = none ↔
    Input.Within input.monthlyDelta input.planHeadroom ∧
      Input.Within input.monthlyDelta input.enterpriseHeadroom ∧
      input.Covered input.monthlyDelta
  planReason : result.reasonCode = some "plan_limit_exceeded" ↔
    ¬Input.Within input.monthlyDelta input.planHeadroom
  budgetReason : result.reasonCode = some "budget_exceeded" ↔
    Input.Within input.monthlyDelta input.planHeadroom ∧ ¬input.Covered (fundingTarget input)
  enterpriseReason : result.reasonCode = some "enterprise_ceiling_exceeded" ↔
    Input.Within input.monthlyDelta input.planHeadroom ∧ input.Covered (fundingTarget input) ∧
      ¬Input.Within input.monthlyDelta input.enterpriseHeadroom
  passed : result.reasonCode = none →
    result.decision = if 0 < result.reserveCreditUsd then .allowWithCredits else .allow
  violated : result.reasonCode ≠ none → result.decision = modeViolationDecision input.mode
  funded : result.reasonCode = none → input.allocationHeadroom ≠ none →
    result.reserves.sum = input.monthlyDelta
  reserves : ReservesSpec input result
  kept : result.reasonCode ≠ none →
    input.mode ≠ .soft ∨ result.reasonCode = some "plan_limit_exceeded" →
    result.reserves = [0,0,0]
  softKept : result.reasonCode ≠ none → result.reasonCode ≠ some "plan_limit_exceeded" →
    input.mode = .soft → ∀ allocation, input.allocationHeadroom = some allocation →
      result.reserves = draws (fundingTarget input) (input.pools allocation)

theorem normalized_nonneg (headroom : Int) : 0 ≤ normalized headroom := le_max_left 0 headroom

theorem pools_nonneg (input : Input) (allocation : Int) :
    ∀ pool ∈ input.pools allocation, 0 ≤ pool := by
  intro pool member
  simp only [Input.pools,List.mem_cons,List.not_mem_nil,or_false] at member
  rcases member with rfl | rfl | rfl <;> exact normalized_nonneg _

theorem planExceeded_iff (input : Input) :
    planExceeded input = true ↔ ¬Input.Within input.monthlyDelta input.planHeadroom := by
  unfold planExceeded Input.Within
  cases input.planHeadroom with
  | none => simp
  | some headroom => simp

theorem enterpriseFailed_iff (input : Input) :
    enterpriseFailed input = true ↔
      ¬Input.Within input.monthlyDelta input.enterpriseHeadroom := by
  unfold enterpriseFailed Input.Within
  cases input.enterpriseHeadroom with
  | none => simp
  | some headroom => simp

theorem drawFunds_draws {input : Input} {allocation : Int}
    (budget : input.allocationHeadroom = some allocation) :
    [(drawFunds input).reservedAlloc,(drawFunds input).reservedCredit,
        (drawFunds input).emergencyCredit] = draws (fundingTarget input) (input.pools allocation) ∧
      (drawFunds input).remaining =
        fundingTarget input - (draws (fundingTarget input) (input.pools allocation)).sum := by
  simp only [drawFunds,budget,Input.pools,draws_cons,draws_nil,List.sum_cons,List.sum_nil,add_zero,
    true_and]
  omega

theorem remaining_iff (input : Input) :
    0 < (drawFunds input).remaining ↔ ¬input.Covered (fundingTarget input) := by
  cases budget : input.allocationHeadroom with
  | none =>
    rw [((drawFunds_spec input).unbudgeted budget).2.2.2]
    simp [Input.Covered,budget]
  | some allocation =>
    have first := normalized_nonneg allocation
    have second := normalized_nonneg input.reservedCreditHeadroom
    have third := normalized_nonneg input.emergencyCreditHeadroom
    simp only [drawFunds,budget,Input.Covered,Input.pools,Option.some.injEq,forall_eq',
      List.sum_cons,List.sum_nil,add_zero]
    omega

theorem reservesSpec_zero {input : Input} {result : EntitlementWaterfallResult}
    (zero : result.reserves = [0,0,0]) : ReservesSpec input result := by
  have fields := zero
  simp only [EntitlementWaterfallResult.reserves,List.cons.injEq,and_true] at fields
  refine ⟨fun _ => zero,?_,?_,?_,?_⟩
  · simp [zero]
  · intro allocation _
    rw [zero]
    exact .cons (normalized_nonneg _) (.cons (normalized_nonneg _)
      (.cons (normalized_nonneg _) .nil))
  · omega
  · omega

theorem reservesSpec_draws {input : Input} {result : EntitlementWaterfallResult}
    {allocation : Int} (nonneg : 0 ≤ input.monthlyDelta)
    (budget : input.allocationHeadroom = some allocation)
    (drawn : result.reserves = draws (fundingTarget input) (input.pools allocation)) :
    ReservesSpec input result := by
  have target := (fundingTarget_bounds input).2.1 nonneg
  have fields := drawn
  simp only [EntitlementWaterfallResult.reserves,Input.pools,draws_cons,draws_nil,
    List.cons.injEq,and_true] at fields
  obtain ⟨allocated,reserved,emergency⟩ := fields
  refine ⟨by simp [budget],?_,?_,?_,?_⟩
  · rw [drawn]
    exact draws_nonneg target (pools_nonneg input allocation)
  · intro other same
    obtain rfl : allocation = other := by simpa [budget] using same
    rw [drawn]
    exact draws_le _ _
  · intro positive
    simp only [budget,Option.map_some,Option.some.injEq]
    omega
  · intro positive
    have room := normalized_nonneg input.reservedCreditHeadroom
    simp only [budget,Option.map_some,Option.some.injEq]
    omega

def drawn (input : Input) : List Int :=
  [(drawFunds input).reservedAlloc,(drawFunds input).reservedCredit,
    (drawFunds input).emergencyCredit]

structure Violated (input : Input) (result : EntitlementWaterfallResult) (reason : String) :
    Prop where
  decision : result.decision = modeViolationDecision input.mode
  reasonCode : result.reasonCode = some reason
  reserves : result.reserves = if input.mode = .soft then drawn input else [0,0,0]

theorem violation_violated (input : Input) (reason : String) (stages : List StageDetail) :
    Violated input (violation input (drawFunds input) reason stages) reason := by
  refine ⟨rfl,rfl,?_⟩
  by_cases soft : input.mode = .soft
  · simp [violation,EntitlementWaterfallResult.reserves,drawn,soft]
  · simp [violation,EntitlementWaterfallResult.reserves,soft]

theorem evaluate_planExceeded {input : Input} (exceeded : planExceeded input = true) :
    evaluateEntitlementWaterfall input =
      ⟨modeViolationDecision input.mode,0,0,0,some "plan_limit_exceeded",[planStage input]⟩ := by
  simp only [evaluateEntitlementWaterfall,exceeded,if_true]

theorem evaluate_missing {input : Input} (within : ¬planExceeded input = true)
    (missing : 0 < (drawFunds input).remaining) :
    Violated input (evaluateEntitlementWaterfall input) "budget_exceeded" := by
  simp only [evaluateEntitlementWaterfall,within,missing,if_true]
  exact violation_violated input _ _

theorem evaluate_enterpriseFailed {input : Input} (within : ¬planExceeded input = true)
    (funded : ¬0 < (drawFunds input).remaining) (failed : enterpriseFailed input = true) :
    Violated input (evaluateEntitlementWaterfall input) "enterprise_ceiling_exceeded" := by
  simp only [evaluateEntitlementWaterfall,within,if_false,funded,failed,if_true]
  exact violation_violated input _ _

theorem evaluate_funded {input : Input} (within : ¬planExceeded input = true)
    (funded : ¬0 < (drawFunds input).remaining) (allowed : ¬enterpriseFailed input = true) :
    (evaluateEntitlementWaterfall input).reasonCode = none ∧
      (evaluateEntitlementWaterfall input).reserves = drawn input ∧
      (evaluateEntitlementWaterfall input).decision =
        if 0 < (evaluateEntitlementWaterfall input).reserveCreditUsd then .allowWithCredits
        else .allow := by
  have draws := drawFunds_spec input
  have reserved := draws.reservedNonneg
  have emergency := draws.emergencyNonneg
  simp only [evaluateEntitlementWaterfall,within,if_false,funded,allowed,
    EntitlementWaterfallResult.reserves,EntitlementWaterfallResult.reserveCreditUsd,drawn]
  by_cases credit : (drawFunds input).reservedCredit + (drawFunds input).emergencyCredit = 0
  · simp [credit]
  · have positive : 0 < (drawFunds input).reservedCredit + (drawFunds input).emergencyCredit := by
      omega
    simp [credit,positive]

theorem reservesSpec_drawn {input : Input} {result : EntitlementWaterfallResult}
    (nonneg : 0 ≤ input.monthlyDelta) (reserves : result.reserves = drawn input) :
    ReservesSpec input result := by
  cases budget : input.allocationHeadroom with
  | none =>
    have unbudgeted := (drawFunds_spec input).unbudgeted budget
    apply reservesSpec_zero
    rw [reserves,drawn,unbudgeted.1,unbudgeted.2.1,unbudgeted.2.2.1]
  | some allocation =>
    exact reservesSpec_draws nonneg budget (reserves.trans (drawFunds_draws budget).1)

theorem Violated.reservesSpec {input : Input} {result : EntitlementWaterfallResult}
    {reason : String} (violated : Violated input result reason)
    (nonneg : 0 ≤ input.monthlyDelta) : ReservesSpec input result := by
  have reserves := violated.reserves
  by_cases soft : input.mode = .soft
  · rw [if_pos soft] at reserves
    exact reservesSpec_drawn nonneg reserves
  · rw [if_neg soft] at reserves
    exact reservesSpec_zero reserves

theorem Violated.entitlementSpec {input : Input} {result : EntitlementWaterfallResult}
    {reason : String} (violated : Violated input result reason)
    (nonneg : 0 ≤ input.monthlyDelta)
    (within : Input.Within input.monthlyDelta input.planHeadroom)
    (later : reason ≠ "plan_limit_exceeded")
    (budget : reason = "budget_exceeded" ↔ ¬input.Covered (fundingTarget input))
    (enterprise : reason = "enterprise_ceiling_exceeded" ↔
      input.Covered (fundingTarget input) ∧
        ¬Input.Within input.monthlyDelta input.enterpriseHeadroom)
    (beyond : ¬(Input.Within input.monthlyDelta input.enterpriseHeadroom ∧
      input.Covered input.monthlyDelta)) : EntitlementSpec input result where
  passes := by simp [violated.reasonCode,within,beyond]
  planReason := by simp [violated.reasonCode,within,later]
  budgetReason := by simp [violated.reasonCode,within,budget]
  enterpriseReason := by simp [violated.reasonCode,within,enterprise]
  passed := by simp [violated.reasonCode]
  violated := fun _ => violated.decision
  funded := by simp [violated.reasonCode]
  reserves := violated.reservesSpec nonneg
  kept := by
    intro _ lost
    have other : input.mode ≠ .soft := by simpa [violated.reasonCode,later] using lost
    rw [violated.reserves,if_neg other]
  softKept := by
    intro _ _ soft allocation budgeted
    rw [violated.reserves,if_pos soft]
    exact (drawFunds_draws budgeted).1

theorem covered_target {input : Input} (covered : input.Covered input.monthlyDelta) :
    input.Covered (fundingTarget input) := by
  intro allocation budget
  exact (fundingTarget_bounds input).1.trans (covered allocation budget)

theorem entitlementSpec_planExceeded {input : Input} (exceeded : planExceeded input = true) :
    EntitlementSpec input (evaluateEntitlementWaterfall input) := by
  have beyond := (planExceeded_iff input).mp exceeded
  rw [evaluate_planExceeded exceeded]
  exact
    { passes := by simp [beyond]
      planReason := by simp [beyond]
      budgetReason := by simp [beyond]
      enterpriseReason := by simp [beyond]
      passed := by simp
      violated := fun _ => rfl
      funded := by simp
      reserves := reservesSpec_zero rfl
      kept := fun _ _ => rfl
      softKept := by simp }

theorem entitlementSpec_funded {input : Input} (within : ¬planExceeded input = true)
    (funded : ¬0 < (drawFunds input).remaining) (allowed : ¬enterpriseFailed input = true)
    (nonneg : 0 ≤ input.monthlyDelta) :
    EntitlementSpec input (evaluateEntitlementWaterfall input) := by
  obtain ⟨reason,reserves,decision⟩ := evaluate_funded within funded allowed
  have plan := not_not.mp (mt (planExceeded_iff input).mpr within)
  have enterprise := not_not.mp (mt (enterpriseFailed_iff input).mpr allowed)
  have whole := fundingTarget_eq (Bool.eq_false_iff.mpr allowed)
  have covered := not_not.mp (mt (remaining_iff input).mpr funded)
  rw [whole] at covered
  exact
    { passes := by simp [reason,plan,enterprise,covered]
      planReason := by simp [reason,plan]
      budgetReason := by simp [reason,covered,whole]
      enterpriseReason := by simp [reason,enterprise]
      passed := fun _ => decision
      violated := by simp [reason]
      funded := by
        intro _ budgeted
        obtain ⟨allocation,budget⟩ := Option.ne_none_iff_exists'.mp budgeted
        have spec := (drawFunds_spec input).funded allocation budget
        have left := (drawFunds_spec input).remainingNonneg
        rw [reserves]
        simp only [drawn,List.sum_cons,List.sum_nil,add_zero]
        omega
      reserves := reservesSpec_drawn nonneg reserves
      kept := by simp [reason]
      softKept := by simp [reason] }

theorem entitlementSpec (input : Input) (nonneg : 0 ≤ input.monthlyDelta) :
    EntitlementSpec input (evaluateEntitlementWaterfall input) := by
  by_cases plan : planExceeded input = true
  · exact entitlementSpec_planExceeded plan
  · have within := not_not.mp (mt (planExceeded_iff input).mpr plan)
    by_cases missing : 0 < (drawFunds input).remaining
    · have uncovered := (remaining_iff input).mp missing
      apply (evaluate_missing plan missing).entitlementSpec nonneg within
      · decide
      · simp [uncovered]
      · simp [uncovered]
      · exact fun held => uncovered (covered_target held.2)
    · have covered := not_not.mp (mt (remaining_iff input).mpr missing)
      by_cases failed : enterpriseFailed input = true
      · have beyond := (enterpriseFailed_iff input).mp failed
        apply (evaluate_enterpriseFailed plan missing failed).entitlementSpec nonneg within
        · decide
        · simp [covered]
        · simp [covered,beyond]
        · exact fun held => beyond held.1
      · exact entitlementSpec_funded plan missing failed nonneg

theorem quantized_eq_ok {amount : Decimal} {units : Int}
    (rounded : quantized amount = .ok units) : units = amount.scaled 4 := by
  simp only [quantized,comparableAmount,DecimalValue.quantize] at rounded
  by_cases held : (amount.scaled 4).natAbs < 10 ^ 28
  · rw [if_pos held] at rounded
    exact (Except.ok.inj rounded).symm
  · rw [if_neg held] at rounded
    cases rounded

theorem evaluateEntitlement_quantized {args : Arguments} {input : Input}
    (all : Quantized args input) :
    evaluateEntitlement args = .ok (evaluateEntitlementWaterfall input) := by
  have exceeded : planExceeded ⟨args.mode,input.monthlyDelta,input.planHeadroom,none,0,0,none⟩ =
      planExceeded input := rfl
  simp only [evaluateEntitlement,all.monthlyDelta,all.planHeadroom,bind,Except.bind,exceeded]
  by_cases plan : planExceeded input = true
  · have first := evaluate_planExceeded (exceeded.trans plan)
    rw [if_pos plan,first,evaluate_planExceeded plan,all.mode]
    rfl
  · rw [if_neg plan,all.enterpriseHeadroom,all.allocationHeadroom,all.reservedCreditHeadroom,
      all.emergencyCreditHeadroom,← all.mode]
    rfl

/-- The waterfall decides and reserves by the quantized amounts, and the budget waterfall is the
one whose only pool past the allocation is reserved credit. -/
theorem entitlement_waterfall (args : Arguments) (input : Input)
    (nonneg : 0 ≤ args.monthlyDelta.coefficient) (all : Quantized args input) :
    ∃ result, evaluateEntitlement args = .ok result ∧ EntitlementSpec input result ∧
      (args.planHeadroom = none → args.enterpriseHeadroom = none →
        args.emergencyCreditHeadroom = ⟨0,0⟩ → result.reserveEmergencyCreditUsd = 0 ∧
        ∀ reasons, evaluateBudget args.mode args.monthlyDelta args.allocationHeadroom
            args.reservedCreditHeadroom reasons =
          .ok (result.decision,result.reserveAllocationUsd,result.reserveReservedCreditUsd,
            reasons ++ budgetReasons args.mode result)) := by
  have requested : 0 ≤ input.monthlyDelta :=
    quantized_eq_ok all.monthlyDelta ▸ Decimal.scaled_nonneg nonneg 4
  have run := evaluateEntitlement_quantized all
  refine ⟨_,run,entitlementSpec input requested,?_⟩
  intro plan enterprise emergency
  constructor
  · have none : input.emergencyCreditHeadroom = 0 := by
      have rounded := all.emergencyCreditHeadroom
      rw [emergency] at rounded
      exact (Except.ok.inj rounded).symm
    have spec := (entitlementSpec input requested).reserves
    have least := spec.nonneg (evaluateEntitlementWaterfall input).reserveEmergencyCreditUsd
      (by simp [EntitlementWaterfallResult.reserves])
    cases budget : input.allocationHeadroom with
    | none =>
      have zero := spec.unbudgeted budget
      simp only [EntitlementWaterfallResult.reserves,List.cons.injEq,and_true] at zero
      exact zero.2.2
    | some allocation =>
      have bounded := spec.bounded allocation budget
      simp only [EntitlementWaterfallResult.reserves,Input.pools,List.forall₂_cons,none,
        normalized,max_self] at bounded
      omega
  · intro reasons
    have same : args = ⟨args.mode,args.monthlyDelta,Option.none,args.allocationHeadroom,
        args.reservedCreditHeadroom,⟨0,0⟩,Option.none⟩ := by
      cases args
      subst plan emergency enterprise
      rfl
    unfold evaluateBudget
    rw [← same,run]
    rfl

theorem entitlement_waterfall_credits :
    ∃ result, evaluateEntitlement ⟨.soft,⟨15,1⟩,none,some ⟨100,0⟩,⟨30,0⟩,⟨0,0⟩,none⟩ = .ok result ∧
      EntitlementSpec ⟨.soft,150_0000,none,some 100_0000,30_0000,0,none⟩ result ∧
      result.reserveEmergencyCreditUsd = 0 := by
  obtain ⟨result,run,spec,budget⟩ := entitlement_waterfall
    ⟨.soft,⟨15,1⟩,none,some ⟨100,0⟩,⟨30,0⟩,⟨0,0⟩,none⟩
    ⟨.soft,150_0000,none,some 100_0000,30_0000,0,none⟩ (by decide)
    ⟨rfl,rfl,rfl,rfl,rfl,rfl,rfl⟩
  exact ⟨result,run,spec,(budget rfl rfl rfl).1⟩

/-- Shadow mode allows what exceeds the plan; the ceiling is the reason where the pools hold
what it leaves of a request they do not hold; soft mode keeps nothing past the plan. -/
theorem entitlement_exceptions :
    (evaluateEntitlement ⟨.shadow,⟨10,0⟩,some ⟨5,0⟩,none,⟨0,0⟩,⟨0,0⟩,none⟩).map (·.decision) =
        .ok .allow ∧
      (evaluateEntitlement ⟨.hard,⟨10,0⟩,none,some ⟨5,0⟩,⟨0,0⟩,⟨0,0⟩,some ⟨3,0⟩⟩).map
        (·.reasonCode) = .ok (some "enterprise_ceiling_exceeded") ∧
      (evaluateEntitlement ⟨.soft,⟨10,0⟩,some ⟨5,0⟩,some ⟨10,0⟩,⟨0,0⟩,⟨0,0⟩,none⟩).map
        (·.reserves) = .ok [0,0,0] := by
  decide

end Valdrics.Enforcement.Waterfall

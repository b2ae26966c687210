import Valdrics.EnforcementGate

/-! What an assessment can be: a violation that reserves nothing, a soft escalation that
keeps what was drawn, or a funded request; and what a draft takes from it. -/
namespace Valdrics.Enforcement

open Waterfall

namespace Gate

structure Reserves (assessment : Assessment) (draws : Draws) : Prop where
  allocation : assessment.reserveAllocation = draws.reservedAlloc
  reservedCredit : assessment.reserveReservedCredit = draws.reservedCredit
  emergencyCredit : assessment.reserveEmergencyCredit = draws.emergencyCredit

structure ReservesNothing (assessment : Assessment) : Prop where
  allocation : assessment.reserveAllocation = 0
  reservedCredit : assessment.reserveReservedCredit = 0
  emergencyCredit : assessment.reserveEmergencyCredit = 0

/-- An evaluation with cost data, or without a cost to check, below the hard threshold. -/
def reachesWaterfall (policy : Policy) (computedContext : DecisionComputedContext)
    (monthlyDelta : Int) : Bool :=
  !(computedContext.dataSourceMode = "unavailable" && 0 < monthlyDelta) &&
    monthlyDelta ≤ policy.hardDenyAboveMonthlyUsd

theorem assessFunding_cases (policy : Policy) (computedContext : DecisionComputedContext)
    (input : Waterfall.Input) :
    ((reachesWaterfall policy computedContext input.monthlyDelta = false ∨
        planExceeded input = true ∨
        (0 < (drawFunds input).remaining ∨ enterpriseFailed input = true) ∧ input.mode ≠ .soft) ∧
      (assessFunding policy computedContext input).decision = modeViolationDecision input.mode ∧
      ReservesNothing (assessFunding policy computedContext input)) ∨
    (reachesWaterfall policy computedContext input.monthlyDelta = true ∧
      planExceeded input = false ∧ input.mode = .soft ∧
      (0 < (drawFunds input).remaining ∨ enterpriseFailed input = true) ∧
      (assessFunding policy computedContext input).decision = .requireApproval ∧
      Reserves (assessFunding policy computedContext input) (drawFunds input)) ∨
    (reachesWaterfall policy computedContext input.monthlyDelta = true ∧
      planExceeded input = false ∧ (drawFunds input).remaining ≤ 0 ∧
      enterpriseFailed input = false ∧
      ((assessFunding policy computedContext input).decision = .allow ∨
        (assessFunding policy computedContext input).decision = .allowWithCredits) ∧
      Reserves (assessFunding policy computedContext input) (drawFunds input)) := by
  unfold assessFunding
  split
  · next unavailable =>
    refine Or.inl ⟨Or.inl ?_,rfl,rfl,rfl,rfl⟩
    simp [reachesWaterfall,unavailable]
  · next available =>
    split
    · next above =>
      refine Or.inl ⟨Or.inl ?_,rfl,rfl,rfl,rfl⟩
      simp [reachesWaterfall,above]
    · next below =>
      have reaches : reachesWaterfall policy computedContext input.monthlyDelta = true := by
        unfold reachesWaterfall
        have priced : ¬computedContext.dataSourceMode = "unavailable" ∨ input.monthlyDelta ≤ 0 := by
          by_cases named : computedContext.dataSourceMode = "unavailable"
          · exact Or.inr (by simpa [named] using available)
          · exact Or.inl named
        simpa using ⟨priced,by omega⟩
      rcases evaluateEntitlementWaterfall_cases input with
        ⟨exceeded,decision,alloc,reserved,emergency⟩ | ⟨plan,missing,reason,stages,result⟩ |
        ⟨plan,covered,passed,decision,alloc,reserved,emergency⟩
      · exact Or.inl ⟨Or.inr (Or.inl exceeded),decision,alloc,reserved,emergency⟩
      · simp only [result]
        by_cases soft : input.mode = .soft
        · refine Or.inr (Or.inl ⟨reaches,plan,soft,missing,?_,?_⟩)
          · simp [violation,soft,modeViolationDecision]
          · constructor <;> simp [violation,soft]
        · refine Or.inl ⟨Or.inr (Or.inr ⟨missing,soft⟩),rfl,?_⟩
          constructor <;> simp [violation,soft]
      · exact Or.inr (Or.inr ⟨reaches,plan,covered,passed,decision,alloc,reserved,emergency⟩)

def Admitted (mode : Mode) (decision : DecisionType) : Prop :=
  decision = .allow ∨ decision = .allowWithCredits ∨
    (decision = .requireApproval ∧ mode ≠ .shadow)

theorem applyApproval_violation (mode : Mode) (required : Bool) (assessment : Assessment)
    (violated : assessment.decision = modeViolationDecision mode) :
    (applyApproval mode required assessment).decision = modeViolationDecision mode := by
  unfold applyApproval
  cases mode with
  | shadow => split <;> simp [violated]
  | soft => simp [violated,modeViolationDecision]
  | hard => simp [violated,modeViolationDecision]

theorem applyApproval_admitted (mode : Mode) (required : Bool) (assessment : Assessment)
    (funded : assessment.decision = .allow ∨ assessment.decision = .allowWithCredits) :
    Admitted mode (applyApproval mode required assessment).decision := by
  have plain : Admitted mode assessment.decision := by
    rcases funded with allow | credits
    · exact Or.inl allow
    · exact Or.inr (Or.inl credits)
  unfold applyApproval
  split
  · split
    · exact plain
    · next serious => exact Or.inr (Or.inr ⟨rfl,serious⟩)
  · exact plain

@[simp] theorem applyApproval_reserves (mode : Mode) (required : Bool) (assessment : Assessment) :
    (applyApproval mode required assessment).reserveAllocation = assessment.reserveAllocation ∧
    (applyApproval mode required assessment).reserveReservedCredit =
      assessment.reserveReservedCredit ∧
    (applyApproval mode required assessment).reserveEmergencyCredit =
      assessment.reserveEmergencyCredit := by
  unfold applyApproval
  split
  · split <;> exact ⟨rfl,rfl,rfl⟩
  · exact ⟨rfl,rfl,rfl⟩

@[simp] theorem applyDryRun_decision (dryRun : Bool) (assessment : Assessment) :
    (applyDryRun dryRun assessment).decision = assessment.decision := by
  unfold applyDryRun
  split <;> rfl

theorem applyDryRun_nothing (assessment : Assessment) :
    ReservesNothing (applyDryRun true assessment) := ⟨rfl,rfl,rfl⟩

inductive Kind (policy : Policy) (computedContext : DecisionComputedContext)
    (input : Waterfall.Input) (dryRun : Bool) (assessment : Assessment) : Prop where
  | violated (reason : reachesWaterfall policy computedContext input.monthlyDelta = false ∨
        planExceeded input = true ∨
        (0 < (drawFunds input).remaining ∨ enterpriseFailed input = true) ∧
          (input.mode = .soft → dryRun = true))
      (decision : assessment.decision = modeViolationDecision input.mode)
      (nothing : ReservesNothing assessment)
  | escalated (real : dryRun = false)
      (reaches : reachesWaterfall policy computedContext input.monthlyDelta = true)
      (plan : planExceeded input = false)
      (soft : input.mode = .soft)
      (missing : 0 < (drawFunds input).remaining ∨ enterpriseFailed input = true)
      (decision : assessment.decision = .requireApproval)
      (reserves : Reserves assessment (drawFunds input))
  | funded (reaches : reachesWaterfall policy computedContext input.monthlyDelta = true)
      (plan : planExceeded input = false)
      (covered : (drawFunds input).remaining ≤ 0)
      (passed : enterpriseFailed input = false)
      (decision : Admitted input.mode assessment.decision)
      (real : dryRun = false → Reserves assessment (drawFunds input))
      (dry : dryRun = true → ReservesNothing assessment)

theorem assess_kind (policy : Policy) (mode : Mode) (isProd dryRun : Bool) (reads : GateReads)
    (computedContext : DecisionComputedContext) (monthlyDelta : Int) :
    Kind policy computedContext (waterfallInput mode reads monthlyDelta) dryRun
      (assess policy mode isProd dryRun reads computedContext monthlyDelta) := by
  unfold assess
  generalize approvalRequired policy isProd monthlyDelta = required
  have reserves := applyApproval_reserves mode required
    (assessFunding policy computedContext (waterfallInput mode reads monthlyDelta))
  obtain ⟨alloc,reserved,emergency⟩ := reserves
  rcases assessFunding_cases policy computedContext (waterfallInput mode reads monthlyDelta) with
    ⟨reason,violated,nothing⟩ | ⟨reaches,plan,soft,missing,decision,drawn⟩ |
    ⟨reaches,plan,covered,passed,decision,drawn⟩
  · have kept := applyApproval_violation mode required _ violated
    have why : reachesWaterfall policy computedContext monthlyDelta = false ∨
        planExceeded (waterfallInput mode reads monthlyDelta) = true ∨
        (0 < (drawFunds (waterfallInput mode reads monthlyDelta)).remaining ∨
          enterpriseFailed (waterfallInput mode reads monthlyDelta) = true) ∧
          (mode = .soft → dryRun = true) := by
      rcases reason with missed | exceeded | ⟨missing,hardened⟩
      · exact Or.inl missed
      · exact Or.inr (Or.inl exceeded)
      · exact Or.inr (Or.inr ⟨missing,fun soft => absurd soft hardened⟩)
    cases dryRun with
    | true =>
      exact .violated why ((applyDryRun_decision _ _).trans kept) (applyDryRun_nothing _)
    | false =>
      exact .violated why kept
        ⟨alloc.trans nothing.allocation,reserved.trans nothing.reservedCredit,
          emergency.trans nothing.emergencyCredit⟩
  · have violated : (assessFunding policy computedContext
        (waterfallInput mode reads monthlyDelta)).decision = modeViolationDecision mode := by
      have isSoft : mode = .soft := soft
      rw [decision,isSoft,modeViolationDecision]
    have kept := applyApproval_violation mode required _ violated
    cases dryRun with
    | true =>
      exact .violated (Or.inr (Or.inr ⟨missing,fun _ => rfl⟩))
        ((applyDryRun_decision _ _).trans kept) (applyDryRun_nothing _)
    | false =>
      refine .escalated rfl reaches plan soft missing ?_ ⟨alloc.trans drawn.allocation,
        reserved.trans drawn.reservedCredit,emergency.trans drawn.emergencyCredit⟩
      have isSoft : mode = .soft := soft
      simpa [isSoft,modeViolationDecision] using kept
  · have admitted := applyApproval_admitted mode required _ decision
    refine .funded reaches plan covered passed ?_ ?_ ?_
    · rw [applyDryRun_decision]
      exact admitted
    · rintro rfl
      exact ⟨alloc.trans drawn.allocation,reserved.trans drawn.reservedCredit,
        emergency.trans drawn.emergencyCredit⟩
    · rintro rfl
      exact applyDryRun_nothing _

def reasonVocabulary : List String :=
  ["no_budget_configured","computed_context_unavailable","hard_deny_threshold_exceeded",
    "soft_mode_escalation","shadow_mode_override","plan_limit_exceeded","budget_exceeded",
    "enterprise_ceiling_exceeded","credit_waterfall_used","reserved_credit_waterfall_used",
    "emergency_credit_waterfall_used","shadow_mode_approval_override","approval_required"] ++
  ["cost_context","budget","plan_limit","enterprise_ceiling"].flatMap fun subject =>
    [Mode.shadow,.soft,.hard].map fun mode => modeViolationReasonSuffix mode subject

theorem evaluateEntitlementWaterfall_reason (input : Waterfall.Input) :
    (evaluateEntitlementWaterfall input).reasonCode ∈
      [none,some "plan_limit_exceeded",some "budget_exceeded",
        some "enterprise_ceiling_exceeded"] := by
  unfold evaluateEntitlementWaterfall
  split
  · simp
  · dsimp only
    split
    · simp [violation]
    · split <;> simp [violation]

theorem entitlementReasons_known (mode : Mode) {result : EntitlementWaterfallResult}
    (known : result.reasonCode ∈ [none,some "plan_limit_exceeded",some "budget_exceeded",
      some "enterprise_ceiling_exceeded"]) :
    ∀ reason ∈ entitlementReasons mode result, reason ∈ reasonVocabulary := by
  intro reason member
  unfold entitlementReasons at member
  rcases List.mem_append.mp member with code | credit
  · simp only [List.mem_cons,List.not_mem_nil,or_false] at known
    rcases known with none_ | plan | budget | enterprise
    · simp [none_] at code
    · cases mode <;> simp [plan,reasonSubject] at code <;> rcases code with rfl | rfl <;> decide
    · cases mode <;> simp [budget,reasonSubject] at code <;> rcases code with rfl | rfl <;> decide
    · cases mode <;> simp [enterprise,reasonSubject] at code <;> rcases code with rfl | rfl <;>
        decide
  · split at credit
    · rcases List.mem_append.mp credit with first | emergency
      · rcases List.mem_cons.mp first with rfl | reserved
        · decide
        · split at reserved <;> simp at reserved
          subst reserved
          decide
      · split at emergency <;> simp at emergency
        subst emergency
        decide
    · simp at credit

theorem assessFunding_reasons (policy : Policy) (computedContext : DecisionComputedContext)
    (input : Waterfall.Input) :
    ∀ reason ∈ (assessFunding policy computedContext input).reasons,
      reason ∈ reasonVocabulary := by
  intro reason member
  unfold assessFunding at member
  split at member
  · obtain ⟨mode,_,_,_,_,_,_⟩ := input
    cases mode <;> simp at member <;> rcases member with rfl | rfl <;> decide
  · split at member
    · obtain ⟨mode,_,_,_,_,_,_⟩ := input
      cases mode <;> simp at member
      · rcases member with rfl | rfl <;> decide
      · rcases member with rfl | rfl <;> decide
      · subst member
        decide
    · exact entitlementReasons_known _ (evaluateEntitlementWaterfall_reason input) reason member

theorem assess_reasons (policy : Policy) (mode : Mode) (isProd dryRun : Bool) (reads : GateReads)
    (computedContext : DecisionComputedContext) (monthlyDelta : Int) :
    ∀ reason ∈ (assess policy mode isProd dryRun reads computedContext monthlyDelta).reasons,
      reason ∈ reasonVocabulary ∨ (dryRun = true ∧ reason = "dry_run") := by
  have funding := assessFunding_reasons policy computedContext
    (waterfallInput mode reads monthlyDelta)
  have approved : ∀ reason ∈ (applyApproval mode (approvalRequired policy isProd monthlyDelta)
      (assessFunding policy computedContext (waterfallInput mode reads monthlyDelta))).reasons,
      reason ∈ reasonVocabulary := by
    intro reason member
    unfold applyApproval at member
    split at member
    · split at member
      · rcases List.mem_append.mp member with before | added
        · exact funding reason before
        · obtain rfl := List.mem_singleton.mp added
          decide
      · rcases List.mem_append.mp member with before | added
        · exact funding reason before
        · obtain rfl := List.mem_singleton.mp added
          decide
    · exact funding reason member
  intro reason member
  cases dryRun with
  | false => exact Or.inl (approved reason member)
  | true =>
    rcases List.mem_append.mp member with before | added
    · exact Or.inl (approved reason before)
    · exact Or.inr ⟨rfl,List.mem_singleton.mp added⟩

theorem assess_headroom {reads : GateReads} {budget : BudgetAllocation}
    (budgeted : reads.budget = some budget) (policy : Policy) (mode : Mode) (isProd dryRun : Bool)
    (computedContext : DecisionComputedContext) (monthlyDelta : Int) :
    (assess policy mode isProd dryRun reads computedContext monthlyDelta).reserveAllocation ≤
      max 0 (budget.monthlyLimitUsd - reads.reservedAllocTotal) := by
  have headroom : (waterfallInput mode reads monthlyDelta).allocationHeadroom =
      some (max 0 (budget.monthlyLimitUsd - reads.reservedAllocTotal)) := by
    simp [waterfallInput,GateReads.allocationHeadroom,budgeted]
  have drawn := (drawFunds_spec (waterfallInput mode reads monthlyDelta)).allocAvailable _ headroom
  have kind := assess_kind policy mode isProd dryRun reads computedContext monthlyDelta
  cases kind with
  | violated _ _ nothing => rw [nothing.allocation]; exact le_max_left 0 _
  | escalated _ _ _ _ _ _ reserves => rw [reserves.allocation]; omega
  | funded _ _ _ _ _ real dry =>
    cases dryRun with
    | true => rw [(dry rfl).allocation]; exact le_max_left 0 _
    | false => rw [(real rfl).allocation]; omega

end Gate

end Valdrics.Enforcement

import Valdrics.EnforcementOperations
import Valdrics.ReservedTotals

/-! Two projects with budgets of their own. The reserved total a budget is compared with
is the tenant's, so a reservation of one project uses up the other's headroom. -/
namespace Valdrics.Enforcement

structure Verdict where
  decision : DecisionType
  reservedAllocationUsd : Int
  allocationAvailableUsd : Option Int
  deriving DecidableEq, Repr

def Decision.verdict (decision : Decision) : Verdict :=
  ⟨decision.decision,decision.reservedAllocationUsd,decision.allocationAvailableUsd⟩

def GateEvaluationResult.verdict (result : GateEvaluationResult) : Verdict :=
  result.decision.verdict

namespace Gate

open Waterfall

structure BudgetOnly (reads : GateReads) (budget : BudgetAllocation) : Prop where
  plan : reads.planCeiling = none
  enterprise : reads.enterpriseCeiling = none
  budget : reads.budget = some budget
  reserved : reads.reservedCreditHeadroom = 0
  emergency : reads.emergencyCreditHeadroom = 0

def BudgetOnly.headroom (reads : GateReads) (budget : BudgetAllocation) : Int :=
  max 0 (budget.monthlyLimitUsd - reads.reservedAllocTotal)

theorem BudgetOnly.input {reads : GateReads} {budget : BudgetAllocation}
    (only : BudgetOnly reads budget) (mode : Mode) (delta : Int) :
    waterfallInput mode reads delta =
      ⟨mode,delta,none,some (BudgetOnly.headroom reads budget),0,0,none⟩ := by
  obtain ⟨plan,enterprise,row,reserved,emergency⟩ := only
  simp [waterfallInput,GateReads.headroom,GateReads.allocationHeadroom,BudgetOnly.headroom,plan,
    enterprise,row,reserved,emergency]

/-- A request reserves its project's allocation exactly when it is a positive one that
reaches the waterfall with headroom left, and fits it unless the mode is soft. -/
theorem assess_budgetOnly {reads : GateReads} {budget : BudgetAllocation}
    (only : BudgetOnly reads budget) (policy : Policy) (mode : Mode) (isProd dryRun : Bool)
    (computedContext : DecisionComputedContext) (delta : Int) :
    let assessment := assess policy mode isProd dryRun reads computedContext delta
    assessment.reserveCredit = 0 ∧
    (reservationActive mode dryRun assessment = true ↔
      dryRun = false ∧ mode ≠ .shadow ∧ 0 < delta ∧ reachesWaterfall policy computedContext delta = true ∧
        0 < BudgetOnly.headroom reads budget ∧
        (delta ≤ BudgetOnly.headroom reads budget ∨ mode = .soft)) := by
  cases dryRun with
  | true => exact ⟨rfl,by simp [reservationActive]⟩
  | false =>
    have kind := assess_kind policy mode isProd false reads computedContext delta
    have nonneg : 0 ≤ BudgetOnly.headroom reads budget := le_max_left 0 _
    rw [only.input mode delta] at kind
    -- With one bound only, the funds are the lesser of the request and the headroom.
    have funds : drawFunds ⟨mode,delta,none,some (BudgetOnly.headroom reads budget),0,0,none⟩ =
        ⟨min delta (BudgetOnly.headroom reads budget),0,0,
          delta - min delta (BudgetOnly.headroom reads budget)⟩ := by
      simp [drawFunds,fundingTarget,normalized,nonneg]
    generalize BudgetOnly.headroom reads budget = headroom at kind funds nonneg ⊢
    generalize assess policy mode isProd false reads computedContext delta = assessment at kind ⊢
    cases kind with
    | violated reason decision nothing =>
      have idle : assessment.reserveCredit = 0 := by
        simp [Assessment.reserveCredit,nothing.reservedCredit,nothing.emergencyCredit]
      refine ⟨idle,?_⟩
      simp only [reservationActive,idle,nothing.allocation]
      rcases reason with missed | exceeded | ⟨missing,hardened⟩
      · simp [missed]
      · simp [planExceeded] at exceeded
      · have soft : mode ≠ .soft := fun soft => by simpa using hardened soft
        simp only [funds,enterpriseFailed,Bool.false_eq_true,or_false] at missing
        simp [soft]
        intros
        omega
    | escalated _ reaches _ soft missing decision reserves =>
      rw [funds] at reserves
      have idle : assessment.reserveCredit = 0 := by
        simp [Assessment.reserveCredit,reserves.reservedCredit,reserves.emergencyCredit]
      refine ⟨idle,?_⟩
      obtain rfl : mode = .soft := soft
      simp only [funds,enterpriseFailed,Bool.false_eq_true,or_false] at missing
      simp [reservationActive,idle,reserves.allocation,decision,reaches]
    | funded reaches _ covered _ decision real _ =>
      have reserves := real rfl
      rw [funds] at reserves covered
      have idle : assessment.reserveCredit = 0 := by
        simp [Assessment.reserveCredit,reserves.reservedCredit,reserves.emergencyCredit]
      refine ⟨idle,?_⟩
      have kept : assessment.decision ≠ .deny := by
        rcases decision with allow | credits | ⟨asked,_⟩
        · simp [allow]
        · simp [credits]
        · simp [asked]
      simp only at covered
      simp [reservationActive,idle,reserves.allocation,kept,reaches]
      intros
      omega

end Gate

namespace Service

def scopeOf (service : Service) (call : GateCall) : String :=
  service.normalizeScope call.gateInput.projectId

/-- A real request that reserves some of its project's allocation in a tenant without
ceilings and credit. -/
def TakesAllocation (service : Service) (store : Store) (call : GateCall) : Prop :=
  ∃ context monthlyDelta budget, Opens service store call context monthlyDelta ∧
    store.getEffectiveBudget (service.scopeOf call) = some budget ∧
    call.gateInput.dryRun = false ∧ context.mode ≠ .shadow ∧ 0 < monthlyDelta ∧
    Gate.reachesWaterfall store.policy call.computedContext monthlyDelta = true ∧
    store.reservedAllocationIn (Calendar.monthOf call.now) < budget.monthlyLimitUsd ∧
    (store.reservedAllocationIn (Calendar.monthOf call.now) + monthlyDelta ≤
      budget.monthlyLimitUsd ∨ context.mode = .soft)

end Service

structure BudgetTenant (service : Service) (store : Store) (scope : String)
    (budget : BudgetAllocation) : Prop where
  own : store.budgets.find scope = some budget
  active : budget.active = true
  plan : service.resolvePlanMonthlyCeilingUsd store.policy store.tenantTier = none
  enterprise : service.resolveEnterpriseMonthlyCeilingUsd store.policy store.tenantTier = none
  ungranted : store.grants = .empty

namespace BudgetTenant

variable {service : Service} {store next : Store} {scope : String} {budget : BudgetAllocation}

theorem effective (tenant : BudgetTenant service store scope budget) :
    store.getEffectiveBudget scope = some budget := by
  have filtered : (some budget).filter (·.active) = some budget := by
    simp [Option.filter,tenant.active]
  simp only [Store.getEffectiveBudget,tenant.own,filtered]

theorem headrooms (tenant : BudgetTenant service store scope budget) (scope' : String)
    (now : Nat) : store.getCreditHeadrooms scope' now = (0,0) := by
  have unusable (pool : CreditPoolType) : store.usableRemaining pool scope' now = 0 := by
    unfold Store.usableRemaining
    rw [tenant.ungranted]
    rfl
  simp only [Store.getCreditHeadrooms,Store.creditHeadrooms,unusable]
  split <;> simp

theorem reads (tenant : BudgetTenant service store scope budget) {call : GateCall}
    (project : service.scopeOf call = scope) :
    Gate.BudgetOnly (service.readGate store call.gateInput call.now) budget := by
  have pools := tenant.headrooms (service.normalizeScope call.gateInput.projectId) call.now
  refine ⟨tenant.plan,tenant.enterprise,?_,congrArg Prod.fst pools,congrArg Prod.snd pools⟩
  change store.getEffectiveBudget (service.scopeOf call) = some budget
  rw [project]
  exact tenant.effective

theorem takes_iff (tenant : BudgetTenant service store scope budget) {call : GateCall}
    (project : service.scopeOf call = scope) {context : GateEvaluationContext}
    {draft : GateDraft} (evaluates : Service.Evaluates service store call context draft) :
    draft.decision.reservedCreditUsd = 0 ∧
      (draft.decision.reservationActive = true ↔ service.TakesAllocation store call) := by
  obtain ⟨monthly,hourly,opens,rfl⟩ := evaluates.opens
  have only := tenant.reads project
  have total := service.readGate_reservedAllocTotal store call.gateInput call.now
  obtain ⟨_,_,same⟩ := Service.buildGateEvaluationContext_eq_ok opens.built
  have policy : context.policy = store.policy := by rw [same]
  have assessed := Gate.assess_budgetOnly only context.policy context.mode
    (service.isProductionEnvironment context.normalizedEnv) call.gateInput.dryRun
    call.computedContext monthly
  refine ⟨assessed.1,?_⟩
  change Gate.reservationActive context.mode call.gateInput.dryRun _ = true ↔ _
  rw [assessed.2, policy, Gate.BudgetOnly.headroom, total]
  constructor
  · rintro ⟨real,serious,positive,reaches,room,fits⟩
    refine ⟨context,monthly,budget,opens,?_,real,serious,positive,reaches,by omega,?_⟩
    · rw [project]
      exact tenant.effective
    · rcases fits with within | soft
      · exact Or.inl (by omega)
      · exact Or.inr soft
  · rintro ⟨context',monthly',budget',opens',found,real,serious,positive,reaches,room,fits⟩
    obtain ⟨rfl,rfl⟩ := opens.unique opens'
    obtain rfl : budget = budget' := by
      rw [project, tenant.effective] at found
      exact Option.some.inj found
    refine ⟨real,serious,positive,reaches,by omega,?_⟩
    rcases fits with within | soft
    · exact Or.inl (by omega)
    · exact Or.inr soft

/-- One request of the project: what it takes of the month's allocation, and what it
leaves as it was. -/
structure Step (service : Service) (store next : Store) (call : GateCall) (month : Nat) : Prop where
  policy : next.policy = store.policy
  tenantTier : next.tenantTier = store.tenantTier
  budgets : next.budgets = store.budgets
  grants : next.grants = .empty
  takes : store.reservedAllocationIn month ≤ next.reservedAllocationIn month ∧
    (store.reservedAllocationIn month < next.reservedAllocationIn month ↔
      service.TakesAllocation store call)
  lookup : ∀ key, service.gateKey call ≠ some key →
    next.decisions.lookup key = store.decisions.lookup key

theorem step (tenant : BudgetTenant service store scope budget) {call : GateCall}
    (project : service.scopeOf call = scope) (fresh : FreshIds store call) {month : Nat}
    (created : Calendar.monthOf call.createdAt = month) :
    Step service store (service.evaluateGate store call).1 call month := by
  by_cases opened : ∃ context draft, Service.Evaluates service store call context draft
  · obtain ⟨context,draft,evaluates⟩ := opened
    obtain ⟨free,active⟩ := tenant.takes_iff project evaluates
    obtain ⟨next,result,approvalId,evaluated,_,spec⟩ := evaluates.returns fresh free.le
    rw [evaluated]
    have total : next.reservedAllocationIn month = store.reservedAllocationIn month + _ :=
      spec.total _ fun _ _ _ => rfl
    have sameMonth : Calendar.monthOf draft.decision.createdAt = month := by
      obtain ⟨_,_,_,rfl⟩ := evaluates.opens
      exact created
    have sound := Service.draftGateDecision_sound evaluates.drafted
    refine ⟨spec.policy,spec.tenantTier,spec.budgets,?_,?_,?_⟩
    · obtain ⟨decisions,reserved,entries,credit,toGrants,_⟩ := spec.credit
      unfold Service.reserveCredits at credit
      rw [if_neg (by omega)] at credit
      obtain ⟨rfl,_⟩ : _ = reserved ∧ _ := by simpa using credit
      exact toGrants.trans tenant.ungranted
    · rw [total, ← active]
      cases held : draft.decision.reservationActive with
      | false => simp [Decision.activeIn,held]
      | true =>
        have positive := sound.activePositive held
        simp only [Decision.activeIn,held,sameMonth,decide_true,Bool.and_self,if_true]
        exact ⟨by omega,iff_of_true (by omega) trivial⟩
    · intro key apart
      obtain ⟨payload,lookups⟩ := spec.lookup
      rw [lookups, if_neg]
      rintro rfl
      rw [evaluates.idempotency] at apart
      exact apart (Service.gateKey_eq evaluates.built)
  · have same : (service.evaluateGate store call).1 = store := by
      rcases Service.evaluateGate_cases (Prod.mk.eta (p := service.evaluateGate store call)).symm
        with same | ⟨context,draft,_,evaluates,_⟩
      · exact same
      · exact absurd ⟨context,draft,evaluates⟩ opened
    rw [same]
    refine ⟨rfl,rfl,rfl,tenant.ungranted,⟨le_rfl,?_⟩,fun _ _ => rfl⟩
    constructor
    · intro contrary
      omega
    · rintro ⟨context,_,_,opens,_⟩
      obtain ⟨_,evaluates⟩ := opens.evaluates
      exact absurd ⟨context,_,evaluates⟩ opened

end BudgetTenant

/-- A request of one project after a history of another's, in a month of a tenant that
has no ceilings and no credit. -/
structure TwoProjects (service : Service) (store : Store) (calls : List GateCall)
    (request : GateCall) (month : Nat) (scope : String)
    (budget requestBudget : BudgetAllocation) : Prop where
  project : ∀ call ∈ calls, service.scopeOf call = scope
  apart : service.scopeOf request ≠ scope
  tenant : BudgetTenant service store scope budget
  requestTenant : BudgetTenant service store (service.scopeOf request) requestBudget
  created : ∀ call ∈ calls, Calendar.monthOf call.createdAt = month
  read : Calendar.monthOf request.now = month
  fresh : Service.FreshRun store (request :: calls)

structure History (service : Service) (store final : Store) (calls : List GateCall)
    (request : GateCall) (month : Nat) : Prop where
  policy : final.policy = store.policy
  tenantTier : final.tenantTier = store.tenantTier
  budgets : final.budgets = store.budgets
  grants : final.grants = .empty
  takes : store.reservedAllocationIn month ≤ final.reservedAllocationIn month ∧
    (store.reservedAllocationIn month = final.reservedAllocationIn month ↔
      EachStep service.evaluateGate (fun s call => ¬ service.TakesAllocation s call) store calls)
  lookup : ∀ key, service.gateKey request = some key →
    final.decisions.lookup key = store.decisions.lookup key
  fresh : FreshIds final request

theorem BudgetTenant.next {service : Service} {store next : Store} {scope : String}
    {budget : BudgetAllocation} {call : GateCall} {month : Nat}
    (tenant : BudgetTenant service store scope budget)
    (step : BudgetTenant.Step service store next call month) :
    BudgetTenant service next scope budget := by
  obtain ⟨own,active,plan,enterprise,_⟩ := tenant
  refine ⟨?_,active,?_,?_,step.grants⟩
  · rw [step.budgets]
    exact own
  · rw [step.policy, step.tenantTier]
    exact plan
  · rw [step.policy, step.tenantTier]
    exact enterprise

/-- The run lemma: the total grows by what the history takes, and nothing else that
the request reads changes. -/
theorem TwoProjects.history {service : Service} {store : Store} {calls : List GateCall}
    {request : GateCall} {month : Nat} {scope : String} {budget requestBudget : BudgetAllocation}
    (two : TwoProjects service store calls request month scope budget requestBudget)
    (keys : ∀ call ∈ calls, ∀ key, service.gateKey request = some key →
      service.gateKey call ≠ some key) :
    History service store (finalState service.evaluateGate store calls) calls request month := by
  induction calls generalizing store with
  | nil =>
    exact ⟨rfl,rfl,rfl,two.tenant.ungranted,⟨le_rfl,by simp [finalState,EachStep]⟩,fun _ _ => rfl,
      two.fresh.fresh request List.mem_cons_self⟩
  | cons call rest ih =>
    have step := two.tenant.step (two.project call List.mem_cons_self)
      (two.fresh.fresh call (by simp)) (two.created call List.mem_cons_self)
    have swapped : Service.FreshRun store (call :: request :: rest) :=
      two.fresh.perm (List.Perm.swap _ _ _)
    have later := ih
      ⟨fun c member => two.project c (List.mem_cons_of_mem _ member),two.apart,
        two.tenant.next step,two.requestTenant.next step,
        fun c member => two.created c (List.mem_cons_of_mem _ member),two.read,swapped.step⟩
      fun c member => keys c (List.mem_cons_of_mem _ member)
    obtain ⟨grows,takes⟩ := step.takes
    obtain ⟨growsLater,takesLater⟩ := later.takes
    refine ⟨later.policy.trans step.policy,later.tenantTier.trans step.tenantTier,
      later.budgets.trans step.budgets,later.grants,⟨grows.trans growsLater,?_⟩,?_,later.fresh⟩
    · change _ ↔ ¬ service.TakesAllocation store call ∧ _
      rw [← takes, ← takesLater]
      change store.reservedAllocationIn month =
        (finalState service.evaluateGate (service.evaluateGate store call).1
          rest).reservedAllocationIn month ↔ _
      omega
    · intro key own
      exact (later.lookup key own).trans
        (step.lookup key (keys call List.mem_cons_self key own))

namespace Service

variable {service : Service} {store final : Store} {call : GateCall}

/-- The decision, the reserved allocation and the headroom that a call returns. -/
def verdictOf (service : Service) (store : Store) (call : GateCall) : Except Fault Verdict :=
  (service.evaluateGate store call).2.map GateEvaluationResult.verdict

def budgetVerdict (service : Service) (context : GateEvaluationContext) (call : GateCall)
    (monthlyDelta headroom : Int) : Verdict :=
  let assessment := Gate.applyDryRun call.gateInput.dryRun (Gate.applyApproval context.mode
    (Gate.approvalRequired context.policy
      (service.isProductionEnvironment context.normalizedEnv) monthlyDelta)
    (Gate.assessFunding context.policy call.computedContext
      ⟨context.mode,monthlyDelta,none,some headroom,0,0,none⟩))
  ⟨assessment.decision,assessment.reserveAllocation,some headroom⟩

theorem verdictOf_opens {scope : String} {budget : BudgetAllocation}
    {context : GateEvaluationContext} {monthlyDelta : Int}
    (tenant : BudgetTenant service store scope budget) (project : service.scopeOf call = scope)
    (fresh : FreshIds store call) (opens : Opens service store call context monthlyDelta) :
    service.verdictOf store call = .ok (service.budgetVerdict context call monthlyDelta
      (max 0 (budget.monthlyLimitUsd -
        store.reservedAllocationIn (Calendar.monthOf call.now)))) := by
  obtain ⟨hourly,evaluates⟩ := opens.evaluates
  obtain ⟨free,_⟩ := tenant.takes_iff project evaluates
  obtain ⟨next,result,_,evaluated,⟨payload,decided⟩,_⟩ := evaluates.returns fresh free.le
  have only := tenant.reads project
  have input := only.input context.mode monthlyDelta
  have available : (service.readGate store call.gateInput call.now).allocationHeadroom =
      some (Gate.BudgetOnly.headroom (service.readGate store call.gateInput call.now) budget) :=
    congrArg Waterfall.Input.allocationHeadroom input
  have total := readGate_reservedAllocTotal service store call.gateInput call.now
  simp only [verdictOf,evaluated,Except.map,GateEvaluationResult.verdict,decided]
  change Except.ok (Verdict.mk (Gate.assess _ _ _ _ _ _ _).decision
    (Gate.assess _ _ _ _ _ _ _).reserveAllocation (GateReads.allocationHeadroom _)) = _
  rw [available, Gate.assess, input, Gate.BudgetOnly.headroom, total]
  rfl

/-- A request that is refused before its evaluation or replayed sees none of the totals. -/
theorem verdictOf_closed (policy : final.policy = store.policy)
    (lookup : ∀ key, service.gateKey call = some key →
      final.decisions.lookup key = store.decisions.lookup key)
    (closed : ¬ ∃ context monthlyDelta, Opens service store call context monthlyDelta) :
    service.verdictOf final call = service.verdictOf store call := by
  unfold verdictOf evaluateGate
  rw [policy]
  cases built : service.buildGateEvaluationContext store.policy call.source call.gateInput with
  | error fault => rfl
  | ok context =>
    have same := lookup _ (gateKey_eq built)
    simp only [getExistingGateResultWithLock_eq,Store.getExistingGateResult,
      Store.getDecisionByIdempotency,same]
    cases unstored : store.decisions.lookup (call.source,context.idempotencyKey) with
    | some existing => rfl
    | none =>
      cases comparable : comparableAmount call.gateInput.estimatedMonthlyDeltaUsd 4 with
      | ok monthlyDelta => exact absurd ⟨context,monthlyDelta,built,unstored,comparable⟩ closed
      | error fault => simp [draftGateDecision,comparable,bind,Except.bind]

end Service

/-- A history of one project leaves the verdict on the other's request alone exactly
when it takes no allocation, unless the request's own headroom was gone before it or the
request is not evaluated at all. -/
theorem budget_isolation (service : Service) (store : Store) (calls : List GateCall)
    (request : GateCall) (month : Nat) (scope : String) (budget requestBudget : BudgetAllocation)
    (two : TwoProjects service store calls request month scope budget requestBudget)
    (keys : ∀ call ∈ calls, ∀ key, service.gateKey request = some key →
      service.gateKey call ≠ some key) :
    service.verdictOf (finalState service.evaluateGate store calls) request =
        service.verdictOf store request ↔
      EachStep service.evaluateGate (fun s call => ¬ service.TakesAllocation s call) store calls ∨
      requestBudget.monthlyLimitUsd ≤ store.reservedAllocationIn month ∨
      ¬ ∃ context monthlyDelta, Service.Opens service store request context monthlyDelta := by
  have history := two.history keys
  by_cases opened :
      ∃ context monthlyDelta, Service.Opens service store request context monthlyDelta
  · obtain ⟨context,monthlyDelta,opens⟩ := opened
    have lastTenant : BudgetTenant service (finalState service.evaluateGate store calls)
        (service.scopeOf request) requestBudget := by
      obtain ⟨own,active,plan,enterprise,_⟩ := two.requestTenant
      refine ⟨?_,active,?_,?_,history.grants⟩
      · rw [history.budgets]
        exact own
      · rw [history.policy, history.tenantTier]
        exact plan
      · rw [history.policy, history.tenantTier]
        exact enterprise
    have lastOpens : Service.Opens service (finalState service.evaluateGate store calls) request
        context monthlyDelta := by
      refine ⟨?_,?_,opens.comparable⟩
      · rw [history.policy]
        exact opens.built
      · rw [history.lookup _ (Service.gateKey_eq opens.built)]
        exact opens.unstored
    have now := Service.verdictOf_opens two.requestTenant rfl
      (two.fresh.fresh request List.mem_cons_self) opens
    have later := Service.verdictOf_opens lastTenant rfl history.fresh lastOpens
    rw [now, later, two.read]
    obtain ⟨grows,takes⟩ := history.takes
    rw [← takes]
    constructor
    · intro same
      have headrooms := congrArg Verdict.allocationAvailableUsd (Except.ok.inj same)
      have headrooms : max 0 (requestBudget.monthlyLimitUsd -
          (finalState service.evaluateGate store calls).reservedAllocationIn month) =
          max 0 (requestBudget.monthlyLimitUsd - store.reservedAllocationIn month) :=
        Option.some.inj headrooms
      omega
    · intro untouched
      have headrooms : max 0 (requestBudget.monthlyLimitUsd -
          (finalState service.evaluateGate store calls).reservedAllocationIn month) =
          max 0 (requestBudget.monthlyLimitUsd - store.reservedAllocationIn month) := by
        rcases untouched with same | exhausted | closed
        · rw [same]
        · omega
        · exact absurd ⟨context,monthlyDelta,opens⟩ closed
      rw [headrooms]
  · exact iff_of_true (Service.verdictOf_closed history.policy history.lookup opened)
      (Or.inr (Or.inr opened))

namespace Sample

def twoBudgets : Store :=
  finalState service.run store [.upsertBudget (budget "alpha" 100),.upsertBudget (budget "beta" 100)]

def limit : BudgetAllocation := ⟨100_0000,true,by decide⟩

/-- A request of `dollars` for the first project, and one of 50 for the second. -/
def alpha (dollars : Int) : GateCall := gate 1 "alpha" "first" dollars 0
def beta : GateCall := gate 2 "beta" "second" 50 0

theorem alpha_beta (dollars : Int) :
    TwoProjects service twoBudgets [alpha dollars] beta 0 "alpha" limit limit := by
  have firstMonth : Calendar.monthOf 0 = 0 := by decide
  have scope : service.scopeOf (alpha dollars) = "alpha" := by
    change service.normalizeScope "alpha" = "alpha"
    decide
  refine ⟨?_,by decide,⟨rfl,rfl,rfl,rfl,rfl⟩,⟨rfl,rfl,rfl,rfl,rfl⟩,?_,firstMonth,?_,?_,?_⟩
  · simpa using scope
  · simpa [alpha,gate] using firstMonth
  · intro call member
    simp only [List.mem_cons,List.not_mem_nil,or_false] at member
    rcases member with rfl | rfl <;> exact ⟨rfl,rfl,rfl⟩
  · simp [alpha,beta,gate]
  · simp [alpha,beta,gate]

end Sample

theorem budget_isolation_untouched :
    Sample.service.verdictOf (finalState Sample.service.evaluateGate Sample.twoBudgets
        [Sample.alpha 0]) Sample.beta =
      Sample.service.verdictOf Sample.twoBudgets Sample.beta := by
  refine (budget_isolation Sample.service Sample.twoBudgets [Sample.alpha 0] Sample.beta 0 "alpha"
    Sample.limit Sample.limit (Sample.alpha_beta 0) ?_).mpr (Or.inl ⟨?_,trivial⟩)
  · intro call member key own
    simp only [List.mem_cons,List.not_mem_nil,or_false] at member
    subst member
    rw [← own]
    decide
  · rintro ⟨_,delta,_,opens,_,_,_,positive,_⟩
    obtain rfl : 0 = delta := Except.ok.inj opens.comparable
    contradiction

/-- A reservation of 80 against the first budget leaves the second one 20 of its 100. -/
theorem budget_isolation_broken :
    TwoProjects Sample.service Sample.twoBudgets [Sample.alpha 80] Sample.beta 0 "alpha"
        Sample.limit Sample.limit ∧
      Sample.service.verdictOf Sample.twoBudgets Sample.beta =
        .ok ⟨.allow,50_0000,some 100_0000⟩ ∧
      Sample.service.verdictOf (finalState Sample.service.evaluateGate Sample.twoBudgets
          [Sample.alpha 80]) Sample.beta = .ok ⟨.deny,0,some 20_0000⟩ :=
  ⟨Sample.alpha_beta 80,by decide,by decide⟩

end Valdrics.Enforcement

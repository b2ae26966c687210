import Valdrics.LlmSessions

/-! Spend within the monthly limit, across any number of months. What pends must cover each
request that is still to be recorded; a reset forgets those in flight, and their records
then release what others have reserved. -/
namespace Valdrics.Llm

open Interleaving (Weighs pair)

structure UsageCall.Within (pricing : LlmPricing) (call : UsageCall) (reservation : Reservation) :
    Prop where
  provider : call.request.provider = reservation.request.provider
  model : call.request.model = reservation.request.model
  prompt : call.request.promptTokens ≤ reservation.request.promptTokens
  completion : call.request.completionTokens ≤ reservation.request.completionTokens
  cost : call.actualCost pricing ≤ reservation.amount

section Steps

variable (pricing : LlmPricing)

def reservedProtocol : Protocol BudgetTable BudgetSession BudgetEvent :=
  (budgetProtocol pricing).restrict (fun _ session event => ∀ call reservation,
    event = .record call → session.run = some reservation → call.Within pricing reservation)
    fun _ _ _ _ => True

def SpendSteps [DecidableEq ι] (system : BudgetSystem ι) (event : ι × BudgetEvent)
    (next : BudgetSystem ι) : Prop :=
  Interleaving.Step (reservedProtocol pricing) system event next

def Unreset (system : BudgetSystem ι) (event : BudgetEvent) : Prop :=
  ∀ call, event = .reserve call → system.shared.current.any (·.stale call.now) = true →
    ∀ party, (system.phase party).run = none

def CostEstimated (event : BudgetEvent) : Prop :=
  ∀ call, event = .record call → call.actualCost pricing ≤ pricing.estimate call.request

def CoveredSteps [DecidableEq ι] (system : BudgetSystem ι) (event : ι × BudgetEvent)
    (next : BudgetSystem ι) : Prop :=
  SpendSteps pricing system event next ∧ Unreset system event.2 ∧ CostEstimated pricing event.2

end Steps

structure LlmBudget.WithinLimit (budget : LlmBudget) : Prop where
  spend : 0 ≤ budget.monthlySpendUsd
  pending : 0 ≤ budget.pendingReservationsUsd
  limit : budget.monthlySpendUsd + budget.pendingReservationsUsd ≤ budget.monthlyLimitUsd

structure SpendOpening (system : BudgetSystem ι) : Prop where
  working : system.shared.working = none
  row : ∀ budget, system.shared.committed = some budget → budget.monthlySpendUsd = 0 ∧
    budget.pendingReservationsUsd = 0 ∧ 0 ≤ budget.monthlyLimitUsd
  idle : ∀ party, system.phase party = {}

def BudgetSession.Priced (pricing : LlmPricing) (session : BudgetSession) : Prop :=
  ∀ reservation, session.run = some reservation →
    reservation.amount = pricing.estimate reservation.request

structure Covered (pricing : LlmPricing) (system : BudgetSystem ι) : Prop where
  backed : Backed (· ≤ ·) system
  priced : ∀ party, (system.phase party).Priced pricing
  committed : ∀ budget, system.shared.committed = some budget → budget.WithinLimit
  working : ∀ budget, system.shared.working = some budget → budget.WithinLimit

namespace LlmBudget.WithinLimit

variable {budget : LlmBudget}

theorem resetMonth (within : budget.WithinLimit) (now : Nat) : (budget.resetMonth now).WithinLimit := by
  obtain ⟨spend,pending,limit⟩ := within
  unfold LlmBudget.resetMonth
  split
  · exact ⟨le_refl 0,le_refl 0,by simp only; omega⟩
  · exact ⟨spend,pending,limit⟩

theorem bootstrap (tier : Enforcement.PricingTier) (transactionStart : Nat) :
    (LlmBudget.bootstrap tier transactionStart).WithinLimit := by
  refine ⟨le_refl 0,le_refl 0,?_⟩
  cases tier <;> simp [LlmBudget.bootstrap,defaultLimit]

theorem opened {row : Option LlmBudget} (within : ∀ budget, row = some budget → budget.WithinLimit)
    (call : ReserveCall) : (openedBudget row call).WithinLimit := by
  unfold openedBudget
  cases row with
  | none => exact (bootstrap _ _).resetMonth _
  | some budget => exact (within budget rfl).resetMonth _

theorem reserved {pricing : LlmPricing} {row : Option LlmBudget} {call : ReserveCall}
    {outcome : Option Int} (within : ∀ budget, row = some budget → budget.WithinLimit)
    (checked : checkAndReserve pricing row call = (budget,outcome)) : budget.WithinLimit := by
  have before := opened within call
  cases outcome with
  | none =>
    rw [checkAndReserve_refused checked]
    exact before
  | some amount =>
    obtain ⟨priced,fits,rfl⟩ := checkAndReserve_reserved checked
    obtain ⟨spend,pending,limit⟩ := before
    have nonneg : 0 ≤ pricing.estimate call.request := LlmPricing.estimate_nonneg
    unfold LlmBudget.remaining at fits
    exact ⟨spend,by simp only; omega,by simp only; omega⟩

/-- A record whose reservation is covered and whose cost is at most its release. -/
theorem settle {pricing : LlmPricing} {call : UsageCall} (within : budget.WithinLimit)
    (covered : pricing.estimate call.request ≤ budget.pendingReservationsUsd)
    (nonneg : 0 ≤ call.actualCost pricing)
    (cost : call.actualCost pricing ≤ pricing.estimate call.request) :
    (budget.settle pricing call).WithinLimit := by
  obtain ⟨spend,pending,limit⟩ := within
  refine ⟨?_,le_max_left _ _,?_⟩
  · simp only [LlmBudget.settle]
    omega
  · simp only [LlmBudget.settle]
    omega

end LlmBudget.WithinLimit

theorem le_balance : Balance (· ≤ ·) where
  zero := le_refl 0
  add total pending amount _ covers := by omega

theorem UsageCall.actualCost_nonneg (call : UsageCall) (pricing : LlmPricing) :
    0 ≤ call.actualCost pricing := by
  unfold UsageCall.actualCost
  split
  · exact le_refl 0
  · split
    · omega
    · exact LlmPricing.estimate_nonneg

theorem UsageCall.Within.estimate_le {pricing : LlmPricing} {call : UsageCall}
    {reservation : Reservation} (within : call.Within pricing reservation) :
    pricing.estimate call.request ≤ pricing.estimate reservation.request := by
  unfold LlmPricing.estimate
  rw [within.provider, within.model]
  exact LlmPricing.estimateCost_mono within.prompt within.completion

namespace Covered

variable {pricing : LlmPricing} {system next : BudgetSystem ι}

theorem current (covered : Covered pricing system) {budget : LlmBudget}
    (there : system.shared.current = some budget) : budget.WithinLimit := by
  rcases Option.or_eq_some_iff.mp there with working | ⟨_,committed⟩
  · exact covered.working budget working
  · exact covered.committed budget committed

theorem opening (opens : SpendOpening system) : Covered pricing system := by
  have nothing : ∀ party, (system.phase party).amount = 0 := fun party => by
    simp [opens.idle party,BudgetSession.amount]
  have rows : 0 ≤ pendingOf system.shared.committed := by
    cases there : system.shared.committed with
    | none => exact le_refl 0
    | some budget => exact (opens.row budget there).2.1.ge
  refine ⟨⟨⟨fun party other held => ?_,fun party held => ?_,fun _ => opens.working⟩,
    fun party => (nothing party).ge,⟨0,.nothing nothing,?_⟩,⟨0,.nothing fun party => ?_,rows⟩⟩,
    fun party reservation running => ?_,fun budget there => ?_,fun budget there => ?_⟩
  · simp [opens.idle party] at held
  · simp [opens.idle party] at held
  · simpa [BudgetTable.current,opens.working] using rows
  · simp [BudgetSession.committedAmount,nothing party]
  · simp [opens.idle party] at running
  · obtain ⟨spend,pending,limit⟩ := opens.row budget there
    exact ⟨spend.ge,pending.ge,by omega⟩
  · simp [opens.working] at there

theorem pends (covered : Covered pricing system) {party : ι} {reservation : Reservation}
    {call : UsageCall} {budget : LlmBudget}
    (running : (system.phase party).run = some reservation)
    (within : call.Within pricing reservation)
    (there : system.shared.current = some budget) :
    pricing.estimate call.request ≤ budget.pendingReservationsUsd := by
  obtain ⟨total,weighs,covers⟩ := covered.backed.current
  have part := weighs.weight_le covered.backed.nonneg party
  have amount : (system.phase party).amount = reservation.amount := by
    simp [BudgetSession.amount,running]
  have release := within.estimate_le
  rw [← covered.priced party reservation running] at release
  simp only [pendingOf,there,Option.elim_some] at covers
  omega

variable [DecidableEq ι] {event : ι × BudgetEvent}

theorem balanced (covered : Covered pricing system)
    (step : CoveredSteps pricing system event next) : Balanced (· ≤ ·) pricing system event := by
  obtain ⟨step,unreset,_⟩ := step
  cases step with
  | @move party event shared phase taken permitted =>
    refine ⟨unreset,?_,?_⟩
    · rintro call reservation rfl running total reserved covers
      have within := (taken.2 call reservation rfl running).estimate_le
      rw [← covered.priced party reservation running] at within
      omega
    · rintro reservation rfl running total pending covers
      have nonneg := covered.backed.nonneg party
      simp only [BudgetSession.amount,running,Option.elim_some] at nonneg
      omega

theorem rows (covered : Covered pricing system) (step : CoveredSteps pricing system event next) :
    (∀ budget, next.shared.committed = some budget → budget.WithinLimit) ∧
      ∀ budget, next.shared.working = some budget → budget.WithinLimit := by
  obtain ⟨step,_,costs⟩ := step
  cases step with
  | @move party event shared phase taken permitted =>
    obtain ⟨taken,belongs⟩ := taken
    simp only [budgetProtocol] at taken
    generalize own : system.phase party = session at taken belongs
    have none_ : ∀ budget, (none : Option LlmBudget) = some budget → budget.WithinLimit :=
      fun budget there => by simp at there
    cases taken with
    | reserve checked | refuse checked =>
      refine ⟨covered.committed,?_⟩
      rintro budget ⟨⟩
      exact .reserved (fun _ => covered.current) checked
    | @record _ locked reservation call =>
      refine ⟨fun budget there => ?_,none_⟩
      obtain ⟨before,current,rfl⟩ := Option.map_eq_some_iff.mp there
      have running : (system.phase party).run = some reservation := by rw [own]
      have within := belongs call reservation rfl rfl
      exact (covered.current current).settle (covered.pends running within current)
        (call.actualCost_nonneg pricing) (costs call rfl)
    | fail | skip => exact ⟨covered.committed,covered.working⟩
    | abort | rollback => exact ⟨covered.committed,none_⟩
    | commit => exact ⟨covered.working,none_⟩

theorem priced_step (covered : Covered pricing system)
    (step : CoveredSteps pricing system event next) (other : ι) :
    (next.phase other).Priced pricing := by
  obtain ⟨step,_,_⟩ := step
  cases step with
  | @move party event shared phase taken permitted =>
    by_cases same : other = party
    · subst same
      have before := covered.priced other
      obtain ⟨taken,_⟩ := taken
      simp only [budgetProtocol] at taken
      simp only [Function.update_self]
      generalize system.phase other = session at taken before
      cases taken with
      | reserve checked =>
        rintro _ ⟨⟩
        exact (checkAndReserve_reserved checked).1
      | commit => exact before
      | refuse | record | fail | abort | skip | rollback =>
        intro reservation running
        simp at running
    · simp only [Function.update_of_ne same]
      exact covered.priced other

theorem step (covered : Covered pricing system) (step : CoveredSteps pricing system event next) :
    Covered pricing next := by
  obtain ⟨committed,working⟩ := covered.rows step
  exact ⟨covered.backed.step le_balance step.1.unrestricted (covered.balanced step),
    covered.priced_step step,committed,working⟩

end Covered

namespace SpendSample

/-- No price is known, so a million tokens cost ten dollars. -/
def pricing : LlmPricing := ⟨.asciiOnly,fun _ _ => none⟩

def base : LlmBudget := { monthlyLimitUsd := 10 ^ 8, budgetResetAt := 0 }

def half : LlmRequest := ⟨"openai","gpt-4o",50000,0⟩

def whole : LlmRequest := ⟨"openai","gpt-4o",100000,0⟩

def later : Nat := Calendar.monthStart 1

def opening : BudgetSystem Bool := pair ⟨some base,none⟩ {} {}

theorem opens : SpendOpening opening := by
  refine ⟨rfl,?_,fun party => Interleaving.pair_phase party⟩
  rintro budget ⟨⟩
  exact ⟨rfl,rfl,by decide⟩

theorem waits {other : BudgetSession} (free : other.locked = false) (s t : BudgetTable)
    (next : BudgetSession) : (reservedProtocol pricing).permits other s t next := by
  refine ⟨fun held => ?_,trivial⟩
  simp [free] at held

theorem unrecorded {session : BudgetSession} {event : BudgetEvent}
    (other : ∀ call, event ≠ .record call) : ∀ call reservation, event = .record call →
      session.run = some reservation → call.Within pricing reservation :=
  fun call _ records => absurd records (other call)

end SpendSample

end Valdrics.Llm

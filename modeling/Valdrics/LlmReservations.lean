import Valdrics.LlmSessions

/-! Conservation of the reservations of one month. The release is computed again from what
the request has used, at the price of whoever answered it, and a run that fails releases
nothing. -/
namespace Valdrics.Llm

open Interleaving (Weighs pair)

def InMonth (month : Nat) (event : BudgetEvent) : Prop :=
  ∀ call, event = .reserve call → Calendar.monthOf call.now = month

/-- The estimate of what was used is what was reserved, or covers it where nothing else
pends. -/
def ReleasesReserved (pricing : LlmPricing) (table : BudgetTable) (session : BudgetSession)
    (event : BudgetEvent) : Prop :=
  ∀ call reservation, event = .record call → session.run = some reservation →
    pricing.estimate call.request = reservation.amount ∨
      (reservation.amount ≤ pricing.estimate call.request ∧
        pendingOf table.current ≤ reservation.amount)

def FailsWhole (session : BudgetSession) (event : BudgetEvent) : Prop :=
  event = .fail → session.amount = 0

section Protocols

variable (pricing : LlmPricing) (month : Nat)

def monthlyProtocol : Protocol BudgetTable BudgetSession BudgetEvent :=
  (budgetProtocol pricing).restrict (fun _ _ => InMonth month) fun _ _ _ _ => True

def releasingProtocol : Protocol BudgetTable BudgetSession BudgetEvent :=
  (monthlyProtocol pricing month).restrict
    (fun s session event => ReleasesReserved pricing s session event ∧ FailsWhole session event)
    fun _ _ _ _ => True

def MonthlySteps [DecidableEq ι] (system : BudgetSystem ι) (event : ι × BudgetEvent)
    (next : BudgetSystem ι) : Prop :=
  Interleaving.Step (monthlyProtocol pricing month) system event next

def ReleasingSteps [DecidableEq ι] (system : BudgetSystem ι) (event : ι × BudgetEvent)
    (next : BudgetSystem ι) : Prop :=
  Interleaving.Step (releasingProtocol pricing month) system event next

end Protocols

structure BudgetOpening (system : BudgetSystem ι) : Prop where
  working : system.shared.working = none
  pending : pendingOf system.shared.committed = 0
  idle : ∀ party, system.phase party = {}

structure ReservationsConserved (system : BudgetSystem ι) : Prop where
  sum : Weighs BudgetSession.amount system.phase (pendingOf system.shared.current)
  idle : (∀ party, (system.phase party).run = none) → pendingOf system.shared.current = 0

def Dated (month : Nat) (row : Option LlmBudget) : Prop :=
  ∃ budget, row = some budget ∧ Calendar.monthOf budget.budgetResetAt = month

structure RunDated (month : Nat) (table : BudgetTable) (session : BudgetSession) : Prop where
  current : session.run ≠ none → Dated month table.current
  committed : session.run ≠ none → session.locked = false → Dated month table.committed

theorem openedBudget_dated {row : Option LlmBudget} {call : ReserveCall} {month : Nat}
    (inMonth : Calendar.monthOf call.now = month) :
    Calendar.monthOf (openedBudget row call).budgetResetAt = month :=
  LlmBudget.resetMonth_month.trans inMonth

theorem checkAndReserve_dated {pricing : LlmPricing} {row : Option LlmBudget} {call : ReserveCall}
    {budget : LlmBudget} {outcome : Option Int} {month : Nat}
    (checked : checkAndReserve pricing row call = (budget,outcome))
    (inMonth : Calendar.monthOf call.now = month) :
    Calendar.monthOf budget.budgetResetAt = month := by
  cases outcome with
  | none =>
    rw [checkAndReserve_refused checked]
    exact openedBudget_dated inMonth
  | some amount =>
    rw [(checkAndReserve_reserved checked).2.2]
    exact openedBudget_dated inMonth

theorem Dated.settle {month : Nat} {row : Option LlmBudget} (dated : Dated month row)
    (pricing : LlmPricing) (call : UsageCall) : Dated month (row.map (·.settle pricing call)) := by
  obtain ⟨budget,rfl,same⟩ := dated
  exact ⟨budget.settle pricing call,rfl,same⟩

section Steps

variable {pricing : LlmPricing} {month : Nat} {s t : BudgetTable} {session next other : BudgetSession}
  {event : BudgetEvent}

theorem BudgetStep.own_dated (taken : BudgetStep pricing s session event t next)
    (inMonth : InMonth month event) (written : session.locked = true → s.working ≠ none)
    (dated : RunDated month s session) : RunDated month t next := by
  cases taken with
  | reserve reserved =>
    exact ⟨fun _ => ⟨_,rfl,checkAndReserve_dated reserved (inMonth _ rfl)⟩,
      fun _ held => by contradiction⟩
  | commit =>
    obtain ⟨working,there⟩ := Option.ne_none_iff_exists'.mp (written rfl)
    have whole : s.current = s.working := by rw [BudgetTable.current, there, Option.some_or]
    refine ⟨fun running => ?_,fun running _ => ?_⟩
    · have kept := dated.current running
      rw [whole] at kept
      simpa [BudgetTable.current,there] using kept
    · exact whole ▸ dated.current running
  | refuse | record | fail | abort | skip | rollback =>
    exact ⟨fun running => absurd rfl running,fun running => absurd rfl running⟩

/-- Another session's run stays dated; whoever commits or rolls back held the row alone. -/
theorem BudgetStep.other_dated (taken : BudgetStep pricing s session event t next)
    (inMonth : InMonth month event) (written : session.locked = true → s.working ≠ none)
    (permitted : (budgetProtocol pricing).permits other s t next)
    (single : session.locked = true → other.locked = false)
    (dated : RunDated month s other) : RunDated month t other := by
  cases taken with
  | reserve reserved =>
    exact ⟨fun _ => ⟨_,rfl,checkAndReserve_dated reserved (inMonth _ rfl)⟩,dated.committed⟩
  | refuse refused =>
    exact ⟨fun _ => ⟨_,rfl,checkAndReserve_dated refused (inMonth _ rfl)⟩,dated.committed⟩
  | record =>
    exact ⟨fun running => (dated.current running).settle pricing _,
      fun running _ => (dated.current running).settle pricing _⟩
  | fail | skip => exact dated
  | abort | rollback =>
    have free := single rfl
    exact ⟨fun running => dated.committed running free,dated.committed⟩
  | commit =>
    obtain ⟨working,there⟩ := Option.ne_none_iff_exists'.mp (written rfl)
    have whole : s.current = s.working := by rw [BudgetTable.current, there, Option.some_or]
    have kept : other.run ≠ none → Dated month s.working :=
      fun running => whole ▸ dated.current running
    refine ⟨fun running => ?_,fun running _ => kept running⟩
    simpa [BudgetTable.current] using kept running

end Steps

structure Conserved (month : Nat) (system : BudgetSystem ι) : Prop where
  backed : Backed Eq system
  dated : ∀ party, RunDated month system.shared (system.phase party)

theorem eq_balance : Balance Eq where
  zero := rfl
  add total pending amount _ same := by rw [same]

namespace Conserved

variable {pricing : LlmPricing} {month : Nat} {system next : BudgetSystem ι}

theorem opening (opening : BudgetOpening system) : Conserved month system := by
  have nothing : ∀ party, (system.phase party).amount = 0 := fun party => by
    simp [opening.idle party,BudgetSession.amount]
  refine ⟨⟨⟨fun party other held => ?_,fun party held => ?_,fun _ => opening.working⟩,
    fun party => (nothing party).ge,⟨0,.nothing nothing,?_⟩,⟨0,.nothing fun party => ?_,?_⟩⟩,
    fun party => ⟨fun running => ?_,fun running => ?_⟩⟩
  · simp [opening.idle party] at held
  · simp [opening.idle party] at held
  · simpa [BudgetTable.current,opening.working] using opening.pending.symm
  · simp [BudgetSession.committedAmount,nothing party]
  · exact opening.pending.symm
  · simp [opening.idle party] at running
  · simp [opening.idle party] at running

theorem law (conserved : Conserved month system) : ReservationsConserved system := by
  obtain ⟨total,weighs,same⟩ := conserved.backed.current
  have sum : Weighs BudgetSession.amount system.phase (pendingOf system.shared.current) :=
    same ▸ weighs
  refine ⟨sum,fun idle => sum.unique (.nothing fun party => ?_)⟩
  simp [BudgetSession.amount,idle party]

variable [DecidableEq ι] {event : ι × BudgetEvent}

theorem balanced (conserved : Conserved month system)
    (step : Interleaving.Step (releasingProtocol pricing month) system event next) :
    Balanced Eq pricing system event := by
  cases step with
  | @move party event shared phase taken permitted =>
    obtain ⟨⟨_,inMonth⟩,releases,fails⟩ := taken
    refine ⟨?_,?_,?_⟩
    · rintro call rfl stale other
      by_contra running
      obtain ⟨budget,there,dated⟩ := (conserved.dated other).current running
      simp [there,LlmBudget.stale,dated,inMonth call rfl] at stale
    · rintro call reservation rfl running total covers same
      rcases releases call reservation rfl running with equal | ⟨more,alone⟩
      · omega
      · omega
    · rintro reservation rfl running total pending same
      have free : (system.phase party).amount = 0 := fails rfl
      simp only [BudgetSession.amount,running,Option.elim_some] at free
      omega

theorem step (conserved : Conserved month system)
    (step : Interleaving.Step (releasingProtocol pricing month) system event next) :
    Conserved month next := by
  have balanced := conserved.balanced step
  have plain := step.unrestricted.unrestricted
  refine ⟨conserved.backed.step eq_balance plain balanced,?_⟩
  cases step with
  | @move party event shared phase taken permitted =>
    obtain ⟨⟨taken,inMonth⟩,_⟩ := taken
    have written := conserved.backed.lock.written party
    intro other
    by_cases same : other = party
    · subst same
      simpa using BudgetStep.own_dated taken inMonth written (conserved.dated other)
    · simp only [Function.update_of_ne same]
      apply BudgetStep.other_dated taken inMonth written (permitted other same).1.1 _
        (conserved.dated other)
      intro held
      by_contra locked
      exact same (conserved.backed.lock.single party other held (by simpa using locked))

end Conserved

/-- What pends is what the runs in progress have reserved, when each run that is recorded
releases what it reserved and each that fails takes its transaction with it. -/
theorem reservations_conserved [DecidableEq ι] (pricing : LlmPricing) (month : Nat)
    {opening final : BudgetSystem ι} {events : List (ι × BudgetEvent)}
    (opens : BudgetOpening opening) (run : Trace (ReleasingSteps pricing month) opening events final) :
    ReservationsConserved final :=
  (run.keeps (Conserved month) (fun step conserved => conserved.step step)
    (Conserved.opening opens)).law

namespace BudgetSample

def groq : ProviderCost := ⟨⟨59,-2⟩,⟨79,-2⟩,by decide,by decide⟩

def openai : ProviderCost := ⟨⟨15,-2⟩,⟨60,-2⟩,by decide,by decide⟩

def pricing : LlmPricing where
  text := .asciiOnly
  table provider model :=
    if provider = "groq" ∧ model = "llama-3.3-70b-versatile" then some groq
    else if provider = "openai" ∧ model = "default" then some openai
    else none

/-- What a cost analysis reserves: its model at the default provider. -/
def estimated : LlmRequest := ⟨"openai","llama-3.3-70b-versatile",500,500⟩

def call : ReserveCall := ⟨estimated,.starter,0,0⟩

def reserved : LlmBudget where
  monthlyLimitUsd := 10 * 10 ^ 8
  pendingReservationsUsd := 40000
  budgetResetAt := 0

theorem reserves : checkAndReserve pricing none call = (reserved,some 40000) := by decide

def used : UsageCall := { request := ⟨"groq","llama-3.3-70b-versatile",100,10⟩ }

def leftover : LlmBudget where
  monthlyLimitUsd := 10 * 10 ^ 8
  monthlySpendUsd := 10000
  pendingReservationsUsd := 30000
  budgetResetAt := 0

theorem leaves : reserved.settle pricing used = leftover := by decide

def usedWhole : UsageCall := { request := estimated }

def spent : LlmBudget where
  monthlyLimitUsd := 10 * 10 ^ 8
  monthlySpendUsd := 40000
  budgetResetAt := 0

theorem settles : reserved.settle pricing usedWhole = spent := by decide

def opening : BudgetSystem Bool := pair ⟨none,none⟩ {} {}

theorem opens : BudgetOpening opening :=
  ⟨rfl,rfl,fun party => Interleaving.pair_phase party⟩

def running : BudgetSession := ⟨true,some ⟨40000,estimated⟩⟩

theorem taken : BudgetStep pricing ⟨none,none⟩ {} (.reserve call) ⟨none,some reserved⟩ running :=
  .reserve reserves

theorem recorded (usage : UsageCall) {budget : LlmBudget}
    (settled : reserved.settle pricing usage = budget) :
    BudgetStep pricing ⟨none,some reserved⟩ running (.record usage) ⟨some budget,none⟩ {} := by
  have step : BudgetStep pricing ⟨none,some reserved⟩ running (.record usage)
      ⟨some (reserved.settle pricing usage),none⟩ {} := .record
  rwa [settled] at step

theorem call_inMonth {event : BudgetEvent} (only : ∀ other, event = .reserve other → other = call) :
    InMonth (Calendar.monthOf 0) event := by
  rintro other rfl
  rw [only other rfl]
  rfl

theorem waits (other : BudgetTable × BudgetTable × BudgetSession) :
    (budgetProtocol pricing).permits {} other.1 other.2.1 other.2.2 := by
  intro held
  simp at held

end BudgetSample

/-- A run reserves and records what it reserved. -/
theorem reservations_conserved_whole : ∃ system : BudgetSystem Bool,
    system.shared.committed = some BudgetSample.spent ∧ ReservationsConserved system := by
  have first : ReleasingSteps BudgetSample.pricing (Calendar.monthOf 0) BudgetSample.opening
      (false,.reserve BudgetSample.call)
      (pair ⟨none,some BudgetSample.reserved⟩ BudgetSample.running {}) := by
    refine Interleaving.Step.first ⟨⟨BudgetSample.taken,BudgetSample.call_inMonth ?_⟩,?_,?_⟩
      ⟨⟨BudgetSample.waits (_,_,_),trivial⟩,trivial⟩
    · rintro _ ⟨⟩
      rfl
    · rintro _ _ ⟨⟩
    · rintro ⟨⟩
  have second : ReleasingSteps BudgetSample.pricing (Calendar.monthOf 0)
      (pair ⟨none,some BudgetSample.reserved⟩ BudgetSample.running {})
      (false,.record BudgetSample.usedWhole) (pair ⟨some BudgetSample.spent,none⟩ {} {}) := by
    refine Interleaving.Step.first
      ⟨⟨BudgetSample.recorded _ BudgetSample.settles,BudgetSample.call_inMonth ?_⟩,?_,?_⟩
      ⟨⟨BudgetSample.waits (_,_,_),trivial⟩,trivial⟩
    · rintro _ ⟨⟩
    · rintro _ _ ⟨⟩ ⟨⟩
      exact Or.inl (by decide)
    · rintro ⟨⟩
  exact ⟨_,rfl,reservations_conserved BudgetSample.pricing (Calendar.monthOf 0)
    BudgetSample.opens (.go first (.go second .stop))⟩

/-- A request that uses less than its estimate leaves the rest pending for good. -/
theorem unused_reservation_pends : ∃ (opening final : BudgetSystem Bool)
    (events : List (Bool × BudgetEvent)), BudgetOpening opening ∧
      Trace (MonthlySteps BudgetSample.pricing (Calendar.monthOf 0)) opening events final ∧
      ¬ReservationsConserved final := by
  have first : MonthlySteps BudgetSample.pricing (Calendar.monthOf 0) BudgetSample.opening
      (false,.reserve BudgetSample.call)
      (pair ⟨none,some BudgetSample.reserved⟩ BudgetSample.running {}) := by
    refine Interleaving.Step.first ⟨BudgetSample.taken,BudgetSample.call_inMonth ?_⟩
      ⟨BudgetSample.waits (_,_,_),trivial⟩
    rintro _ ⟨⟩
    rfl
  have second : MonthlySteps BudgetSample.pricing (Calendar.monthOf 0)
      (pair ⟨none,some BudgetSample.reserved⟩ BudgetSample.running {})
      (false,.record BudgetSample.used) (pair ⟨some BudgetSample.leftover,none⟩ {} {}) := by
    refine Interleaving.Step.first
      ⟨BudgetSample.recorded _ BudgetSample.leaves,BudgetSample.call_inMonth ?_⟩
      ⟨BudgetSample.waits (_,_,_),trivial⟩
    rintro _ ⟨⟩
  refine ⟨_,_,_,BudgetSample.opens,.go first (.go second .stop),fun law => ?_⟩
  have pending := law.idle fun party => by rw [Interleaving.pair_phase party]
  exact absurd pending (by decide)

end Valdrics.Llm

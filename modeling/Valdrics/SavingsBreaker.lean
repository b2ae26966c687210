import Mathlib.Algebra.Order.BigOperators.Group.List
import Mathlib.Algebra.Order.Ring.Rat
import Mathlib.Tactic.Linarith
import Valdrics.CallBreaker

/-! The circuit breaker of a tenant's remediations: failures open it, and the savings of a UTC day
are limited. Clocks are read in microseconds, amounts are exact. -/
namespace Valdrics.SavingsBreaker

open CallBreaker (CircuitState Clock)

structure Config where
  failureThreshold : Int := 3
  recoveryTimeoutSeconds : Int := 300
  maxDailySavingsUsd : ℚ := 1000

def utcDay (clock : Clock) : Int := clock.time / (86400 * 1000000)

structure Memory where
  state : CircuitState := .closed
  failureCount : Nat := 0
  lastFailureAt : Option Int := none
  lastFailureMonotonic : Option Int := none
  lastError : Option String := none
  dailySavingsUsd : ℚ := 0
  dailySavingsDate : Option Int := none
  deriving DecidableEq

structure Status where
  tenantId : String
  state : String
  failureCount : Nat
  dailySavingsUsd : ℚ
  canExecute : Bool
  lastError : Option String
  deriving DecidableEq

namespace Memory

variable (config : Config) (memory : Memory) (clock : Clock)

def resetDailyBudgetIfNeeded : Memory :=
  if memory.dailySavingsDate ≠ some (utcDay clock) then
    { memory with dailySavingsUsd := 0, dailySavingsDate := some (utcDay clock) }
  else memory

def passed (last : Option Int) (now : Int) : Bool :=
  last.any fun failed => failed ≠ 0 && 1000000 * config.recoveryTimeoutSeconds < now - failed

def recovered : Bool :=
  passed config memory.lastFailureMonotonic clock.monotonic ||
    passed config memory.lastFailureAt clock.time

def canExecute (estimatedSavings : ℚ) : Bool × Memory :=
  if memory.state = .open_ then
    if memory.recovered config clock then (true,{ memory with state := .halfOpen })
    else (false,memory)
  else
    let memory := memory.resetDailyBudgetIfNeeded clock
    (memory.dailySavingsUsd + estimatedSavings ≤ config.maxDailySavingsUsd,memory)

def reset : Memory :=
  { memory with
    state := .closed
    failureCount := 0
    lastFailureAt := none
    lastFailureMonotonic := none
    lastError := none }

def recordSuccess (savings : ℚ) : Memory :=
  let memory := if memory.state = .halfOpen then memory.reset else memory
  let memory := { memory with failureCount := 0 }.resetDailyBudgetIfNeeded clock
  { memory with dailySavingsUsd := memory.dailySavingsUsd + savings }

def recordFailure (error : String) : Memory :=
  let counted := { memory with
    failureCount := memory.failureCount + 1
    lastFailureAt := some clock.time
    lastFailureMonotonic := some clock.monotonic
    lastError := some error }
  if config.failureThreshold ≤ counted.failureCount then { counted with state := .open_ }
  else counted

def getStatus (tenantId : String) : Status × Memory :=
  let (answer,next) := memory.canExecute config clock 0
  (⟨tenantId,memory.state.value,memory.failureCount,memory.dailySavingsUsd,answer,next.lastError⟩,
    next)

def budget (day : Int) : ℚ := if memory.dailySavingsDate = some day then memory.dailySavingsUsd else 0

end Memory

inductive Event where
  | canExecute (clock : Clock) (estimatedSavings : ℚ)
  | recordSuccess (clock : Clock) (savings : ℚ)
  | recordFailure (clock : Clock) (error : String)
  | getStatus (clock : Clock) (tenantId : String)
  | reset (clock : Clock)

def Event.clock : Event → Clock
  | canExecute clock _ | recordSuccess clock _ | recordFailure clock _ | getStatus clock _
  | reset clock => clock

inductive Output where
  | answer (allowed : Bool)
  | status (status : Status)
  | done
  deriving DecidableEq

/-- A run of the breaker: when it last moved, what it has allowed, and the savings with their days. -/
structure Run where
  memory : Memory := {}
  now : Clock
  granted : Option ℚ := none
  ledger : List (Int × ℚ) := []

def exec (config : Config) (s : Run) : Event → Run × Output
  | .canExecute clock savings =>
    let (allowed,memory) := s.memory.canExecute config clock savings
    ({ s with memory, now := clock, granted := if allowed then some savings else none },
      .answer allowed)
  | .recordSuccess clock savings =>
    ({ memory := s.memory.recordSuccess clock savings
       now := clock
       granted := none
       ledger := s.ledger ++ [(utcDay clock,savings)] },.done)
  | .recordFailure clock error =>
    ({ s with memory := s.memory.recordFailure config clock error, now := clock },.done)
  | .getStatus clock tenantId =>
    let (status,memory) := s.memory.getStatus config clock tenantId
    ({ s with memory, now := clock },.status status)
  | .reset clock => ({ s with memory := s.memory.reset, now := clock },.done)

def Follows (s : Run) : Event → Prop
  | .recordSuccess _ savings => s.granted = some savings
  | _ => True

instance (s : Run) : (event : Event) → Decidable (Follows s event)
  | .recordSuccess .. => inferInstanceAs (Decidable (_ = _))
  | .canExecute .. => .isTrue trivial
  | .recordFailure .. => .isTrue trivial
  | .getStatus .. => .isTrue trivial
  | .reset .. => .isTrue trivial

def InOrder (s : Run) (event : Event) : Prop := s.now.time ≤ event.clock.time ∧ Follows s event

instance (s : Run) (event : Event) : Decidable (InOrder s event) :=
  inferInstanceAs (Decidable (_ ∧ _))

def Run.savedOn (s : Run) (day : Int) : ℚ :=
  ((s.ledger.filter fun entry => entry.1 = day).map Prod.snd).sum

def Within (config : Config) (s : Run) : Prop := s.savedOn (utcDay s.now) ≤ config.maxDailySavingsUsd

def Event.asks : Event → Bool
  | getStatus .. => false
  | _ => true

/-- Savings are not negative, and while the circuit is open past its recovery timeout they are asked
for within the limit and no status is. -/
def Careful (config : Config) (s : Run) : Event → Prop
  | .canExecute clock savings => 0 ≤ savings ∧
    (s.memory.state = .open_ → s.memory.recovered config clock = true →
      s.memory.budget (utcDay clock) + savings ≤ config.maxDailySavingsUsd)
  | .getStatus clock _ => s.memory.state = .open_ → s.memory.recovered config clock = false
  | _ => True

instance (config : Config) (s : Run) : (event : Event) → Decidable (Careful config s event)
  | .canExecute .. => inferInstanceAs (Decidable (_ ∧ (_ → _ → _)))
  | .getStatus .. => inferInstanceAs (Decidable (_ → _))
  | .recordSuccess .. => .isTrue trivial
  | .recordFailure .. => .isTrue trivial
  | .reset .. => .isTrue trivial

section Budgets

variable {config : Config} {memory : Memory} {clock : Clock} {day : Int}

theorem resetDaily_eq : memory.resetDailyBudgetIfNeeded clock =
    { memory with
      dailySavingsUsd := memory.budget (utcDay clock)
      dailySavingsDate := some (utcDay clock) } := by
  unfold Memory.resetDailyBudgetIfNeeded Memory.budget
  by_cases today : memory.dailySavingsDate = some (utcDay clock)
  · obtain ⟨state,count,failed,failed',error,daily,date⟩ := memory
    obtain rfl := today
    simp
  · simp [today]

def Dated (memory : Memory) (day : Int) : Prop :=
  ∀ date, memory.dailySavingsDate = some date → date ≤ day

structure SameBudget (day : Int) (memory other : Memory) : Prop where
  dated : Dated other day
  budget : ∀ later, day ≤ later → other.budget later = memory.budget later

theorem sameBudget_daily (dated : Dated memory day) {other : Memory}
    (amount : other.dailySavingsUsd = memory.dailySavingsUsd)
    (date : other.dailySavingsDate = memory.dailySavingsDate) : SameBudget day memory other := by
  refine ⟨fun later same => dated later (date ▸ same),fun later _ => ?_⟩
  simp only [Memory.budget,amount,date]

theorem sameBudget_reset (dated : Dated memory (utcDay clock)) :
    SameBudget (utcDay clock) memory (memory.resetDailyBudgetIfNeeded clock) := by
  rw [resetDaily_eq]
  refine ⟨fun date same => (Option.some.inj same).ge,fun later after => ?_⟩
  by_cases today : later = utcDay clock
  · subst today
    simp [Memory.budget]
  · have never : memory.dailySavingsDate ≠ some later := by
      intro same
      exact today (le_antisymm (dated later same) after)
    simp [Memory.budget,never,Ne.symm today]

theorem sameBudget_canExecute (config : Config) (dated : Dated memory (utcDay clock)) (savings : ℚ) :
    SameBudget (utcDay clock) memory (memory.canExecute config clock savings).2 := by
  simp only [Memory.canExecute]
  split
  · split
    · exact sameBudget_daily dated rfl rfl
    · exact sameBudget_daily dated rfl rfl
  · exact sameBudget_reset dated

theorem sameBudget_recordFailure (config : Config) (dated : Dated memory (utcDay clock))
    (error : String) :
    SameBudget (utcDay clock) memory (memory.recordFailure config clock error) := by
  simp only [Memory.recordFailure]
  split
  · exact sameBudget_daily dated rfl rfl
  · exact sameBudget_daily dated rfl rfl

theorem recordSuccess_budget (dated : Dated memory (utcDay clock)) (savings : ℚ) :
    Dated (memory.recordSuccess clock savings) (utcDay clock) ∧
    ∀ later, utcDay clock ≤ later → (memory.recordSuccess clock savings).budget later =
      memory.budget later + if later = utcDay clock then savings else 0 := by
  have closed : Memory.budget { (if memory.state = .halfOpen then memory.reset else memory) with
      failureCount := 0 } = memory.budget := by
    split <;> rfl
  have closed' : Dated { (if memory.state = .halfOpen then memory.reset else memory) with
      failureCount := 0 } (utcDay clock) := by
    split <;> exact dated
  have same := (sameBudget_reset closed').budget
  simp only [Memory.recordSuccess,closed] at same ⊢
  rw [resetDaily_eq] at same ⊢
  refine ⟨fun date today => (Option.some.inj today).ge,fun later after => ?_⟩
  rw [← same later after]
  by_cases today : later = utcDay clock
  · subst today
    simp [Memory.budget]
  · simp [Memory.budget,today,Ne.symm today]

end Budgets

section Limit

variable {config : Config} {s : Run} {clock : Clock}

structure Sound (config : Config) (s : Run) : Prop where
  dated : Dated s.memory (utcDay s.now)
  entries : ∀ entry ∈ s.ledger, entry.1 ≤ utcDay s.now ∧ 0 ≤ entry.2
  counted : ∀ day, utcDay s.now ≤ day → s.memory.budget day = s.savedOn day
  within : s.savedOn (utcDay s.now) ≤ config.maxDailySavingsUsd
  allowed : ∀ savings, s.granted = some savings → 0 ≤ savings ∧
    s.savedOn (utcDay s.now) + savings ≤ config.maxDailySavingsUsd

theorem utcDay_mono {earlier later : Clock} (after : earlier.time ≤ later.time) :
    utcDay earlier ≤ utcDay later := Int.ediv_le_ediv (by norm_num) after

theorem savedOn_nonneg (sound : Sound config s) (day : Int) : 0 ≤ s.savedOn day := by
  apply List.sum_nonneg
  intro amount listed
  obtain ⟨entry,member,rfl⟩ := List.mem_map.mp listed
  exact (sound.entries entry (List.mem_of_mem_filter member)).2

theorem savedOn_later (sound : Sound config s) {day : Int} (later : utcDay s.now < day) :
    s.savedOn day = 0 := by
  have none_ : s.ledger.filter (fun entry => entry.1 = day) = [] := by
    rw [List.filter_eq_nil_iff]
    intro entry member
    have before := (sound.entries entry member).1
    simp only [decide_eq_true_eq]
    omega
  simp [Run.savedOn,none_]

theorem Sound.advance (sound : Sound config s) (later : s.now.time ≤ clock.time) :
    Sound config { s with now := clock } := by
  have day := utcDay_mono later
  have fewer : s.savedOn (utcDay clock) ≤ s.savedOn (utcDay s.now) := by
    rcases day.eq_or_lt with same | after
    · rw [same]
    · rw [savedOn_later sound after]
      exact savedOn_nonneg sound _
  refine ⟨fun date same => (sound.dated date same).trans day,fun entry member => ?_,
    fun other after => sound.counted other (day.trans after),fewer.trans sound.within,
    fun savings granted => ?_⟩
  · obtain ⟨before,positive⟩ := sound.entries entry member
    exact ⟨before.trans day,positive⟩
  · obtain ⟨positive,within⟩ := sound.allowed savings granted
    exact ⟨positive,(add_le_add_left fewer savings).trans within⟩

/-- A change of the memory that keeps the budget, and of the permission to one within the limit. -/
theorem Sound.remember (sound : Sound config s) {memory : Memory}
    (same : SameBudget (utcDay s.now) s.memory memory) (granted : Option ℚ)
    (allowed : ∀ savings, granted = some savings → 0 ≤ savings ∧
      s.savedOn (utcDay s.now) + savings ≤ config.maxDailySavingsUsd) :
    Sound config { s with memory, granted } := by
  refine ⟨same.dated,sound.entries,fun day after => ?_,sound.within,allowed⟩
  exact (same.budget day after).trans (sound.counted day after)

theorem allowed_within (sound : Sound config s) {savings : ℚ} (today : clock = s.now)
    (careful : Careful config s (.canExecute clock savings))
    (allowed : (s.memory.canExecute config clock savings).1 = true) :
    s.savedOn (utcDay s.now) + savings ≤ config.maxDailySavingsUsd := by
  rw [← sound.counted _ le_rfl,← today]
  simp only [Memory.canExecute] at allowed
  split at allowed
  · next isOpen =>
    split at allowed
    · next recovered => exact careful.2 isOpen recovered
    · simp at allowed
  · rw [resetDaily_eq] at allowed
    exact of_decide_eq_true allowed

theorem exec_sound (config : Config) (s : Run) (event : Event) (sound : Sound config s)
    (orderly : InOrder s event ∧ Careful config s event) : Sound config (exec config s event).1 := by
  obtain ⟨⟨later,follows⟩,careful⟩ := orderly
  have now := sound.advance later
  cases event with
  | canExecute clock savings =>
    refine now.remember (sameBudget_canExecute config now.dated savings)
      (if (s.memory.canExecute config clock savings).1 then some savings else none) ?_
    cases allowed : (s.memory.canExecute config clock savings).1 with
    | false => simp
    | true =>
      rintro asked same
      obtain rfl := Option.some.inj same
      exact ⟨careful.1,allowed_within now rfl careful allowed⟩
  | recordSuccess clock savings =>
    obtain ⟨positive,within⟩ := now.allowed savings follows
    obtain ⟨dated,budget⟩ := recordSuccess_budget now.dated savings
    have saved : ∀ day, (exec config s (.recordSuccess clock savings)).1.savedOn day =
        s.savedOn day + if day = utcDay clock then savings else 0 := by
      intro day
      by_cases today : day = utcDay clock
      · simp [exec,Run.savedOn,today]
      · simp [exec,Run.savedOn,today,Ne.symm today]
    refine ⟨dated,fun entry member => ?_,fun day after => ?_,?_,by simp [exec]⟩
    · rcases List.mem_append.mp member with old | new
      · exact now.entries entry old
      · obtain rfl := List.mem_singleton.mp new
        exact ⟨le_rfl,positive⟩
    · rw [saved,← show s.memory.budget day = s.savedOn day from now.counted day after]
      exact budget day after
    · rw [saved]
      exact (congrArg (_ + ·) (if_pos rfl)).trans_le within
  | recordFailure clock error =>
    exact now.remember (sameBudget_recordFailure config now.dated error) _ now.allowed
  | getStatus clock tenantId =>
    exact now.remember (sameBudget_canExecute config now.dated 0) _ now.allowed
  | reset clock =>
    have same : SameBudget (utcDay clock) s.memory s.memory.reset :=
      sameBudget_daily now.dated rfl rfl
    exact now.remember same _ now.allowed

end Limit

section Statuses

variable {config : Config} {s t : Run}

structure Alike (day : Int) (memory other : Memory) : Prop where
  state : other.state = memory.state
  failureCount : other.failureCount = memory.failureCount
  lastFailureAt : other.lastFailureAt = memory.lastFailureAt
  lastFailureMonotonic : other.lastFailureMonotonic = memory.lastFailureMonotonic
  dated : Dated memory day
  same : SameBudget day memory other

/-- The run without the statuses lags behind, with a memory that answers alike. -/
def Related (s t : Run) : Prop := Alike (utcDay s.now) s.memory t.memory

theorem Alike.later {day later : Int} {memory other : Memory} (alike : Alike day memory other)
    (after : day ≤ later) : Alike later memory other where
  state := alike.state
  failureCount := alike.failureCount
  lastFailureAt := alike.lastFailureAt
  lastFailureMonotonic := alike.lastFailureMonotonic
  dated date same := (alike.dated date same).trans after
  same := ⟨fun date same => (alike.same.dated date same).trans after,
    fun day beyond => alike.same.budget day (after.trans beyond)⟩

/-- Where the daily budgets are kept on both sides they stay alike. -/
theorem Alike.keep {day : Int} {memory other memory' other' : Memory}
    (alike : Alike day memory other) (state : other'.state = memory'.state)
    (failureCount : other'.failureCount = memory'.failureCount)
    (lastFailureAt : other'.lastFailureAt = memory'.lastFailureAt)
    (lastFailureMonotonic : other'.lastFailureMonotonic = memory'.lastFailureMonotonic)
    (first : SameBudget day memory memory') (second : SameBudget day other other') :
    Alike day memory' other' := by
  refine ⟨state,failureCount,lastFailureAt,lastFailureMonotonic,first.dated,second.dated,?_⟩
  intro later after
  rw [second.budget later after,alike.same.budget later after,first.budget later after]

theorem Alike.recovered {day : Int} {memory other : Memory} (alike : Alike day memory other)
    (clock : Clock) : other.recovered config clock = memory.recovered config clock := by
  simp only [Memory.recovered,alike.lastFailureMonotonic,alike.lastFailureAt]

theorem canExecute_alike (config : Config) {clock : Clock} {memory other : Memory}
    (alike : Alike (utcDay clock) memory other) (savings : ℚ) :
    Alike (utcDay clock) (memory.canExecute config clock savings).2
      (other.canExecute config clock savings).2 ∧
    (other.canExecute config clock savings).1 = (memory.canExecute config clock savings).1 := by
  have first := sameBudget_canExecute config alike.dated savings
  have second := sameBudget_canExecute config alike.same.dated savings
  have today := alike.same.budget _ le_rfl
  simp only [Memory.canExecute,alike.state,alike.recovered] at first second ⊢
  by_cases isOpen : memory.state = .open_
  · cases recovered : memory.recovered config clock with
    | true =>
      simp only [isOpen,recovered,if_true] at first second ⊢
      exact ⟨alike.keep rfl alike.failureCount alike.lastFailureAt alike.lastFailureMonotonic first
        second,trivial⟩
    | false =>
      simp only [isOpen,if_true,Bool.false_eq_true,if_false]
      exact ⟨alike,trivial⟩
  · simp only [if_neg isOpen] at first second ⊢
    rw [resetDaily_eq] at first
    rw [resetDaily_eq,today] at second
    rw [resetDaily_eq,resetDaily_eq,today]
    exact ⟨alike.keep alike.state alike.failureCount alike.lastFailureAt alike.lastFailureMonotonic
      first second,rfl⟩

theorem recordSuccess_alike {clock : Clock} {memory other : Memory}
    (alike : Alike (utcDay clock) memory other) (savings : ℚ) :
    Alike (utcDay clock) (memory.recordSuccess clock savings) (other.recordSuccess clock savings) := by
  obtain ⟨dated,budget⟩ := recordSuccess_budget alike.dated savings
  obtain ⟨dated',budget'⟩ := recordSuccess_budget alike.same.dated savings
  have plain : (other.recordSuccess clock savings).state = (memory.recordSuccess clock savings).state ∧
      (other.recordSuccess clock savings).failureCount =
        (memory.recordSuccess clock savings).failureCount ∧
      (other.recordSuccess clock savings).lastFailureAt =
        (memory.recordSuccess clock savings).lastFailureAt ∧
      (other.recordSuccess clock savings).lastFailureMonotonic =
        (memory.recordSuccess clock savings).lastFailureMonotonic := by
    simp only [Memory.recordSuccess,resetDaily_eq,alike.state]
    split
    · exact ⟨rfl,trivial,rfl,rfl⟩
    · exact ⟨alike.state,trivial,alike.lastFailureAt,alike.lastFailureMonotonic⟩
  refine ⟨plain.1,plain.2.1,plain.2.2.1,plain.2.2.2,dated,dated',fun later after => ?_⟩
  rw [budget later after,budget' later after,alike.same.budget later after]

theorem recordFailure_alike {clock : Clock} {memory other : Memory}
    (alike : Alike (utcDay clock) memory other) (error : String) :
    Alike (utcDay clock) (memory.recordFailure config clock error)
      (other.recordFailure config clock error) := by
  have first := sameBudget_recordFailure config alike.dated error
  have second := sameBudget_recordFailure config alike.same.dated error
  simp only [Memory.recordFailure,alike.failureCount] at first second ⊢
  split at first
  · next opens =>
    simp only [if_pos opens] at second ⊢
    exact alike.keep rfl rfl rfl rfl first second
  · next stays =>
    simp only [if_neg stays] at second ⊢
    exact alike.keep alike.state rfl rfl rfl first second

theorem reset_alike {day : Int} {memory other : Memory} (alike : Alike day memory other) :
    Alike day memory.reset other.reset :=
  alike.keep rfl rfl rfl rfl (sameBudget_daily alike.dated rfl rfl)
    (sameBudget_daily alike.same.dated rfl rfl)

/-- Without a recovery that is due a status leaves the memory as it answers. -/
theorem getStatus_alike {clock : Clock} {memory other : Memory}
    (alike : Alike (utcDay clock) memory other) (tenantId : String)
    (waits : memory.state = .open_ → memory.recovered config clock = false) :
    Alike (utcDay clock) (memory.getStatus config clock tenantId).2 other := by
  have first := sameBudget_canExecute config alike.dated 0
  have second : SameBudget (utcDay clock) other other := sameBudget_daily alike.same.dated rfl rfl
  simp only [Memory.getStatus,Memory.canExecute] at first ⊢
  by_cases isOpen : memory.state = .open_
  · simp only [isOpen,waits isOpen,if_true,Bool.false_eq_true,if_false]
    exact alike
  · simp only [if_neg isOpen] at first ⊢
    rw [resetDaily_eq] at first ⊢
    exact alike.keep alike.state alike.failureCount alike.lastFailureAt alike.lastFailureMonotonic
      first second

end Statuses

/-- In an orderly run with no negative savings, where an open circuit past its recovery timeout is
asked within the limit and for no status, the savings of a day stay within the limit, and statuses
change no answer. -/
theorem savings_limited (config : Config) (limit : 0 ≤ config.maxDailySavingsUsd) (now : Clock)
    (events : List Event) (orderly : EachStep (exec config) InOrder { now } events)
    (careful : EachStep (exec config) (Careful config) { now } events) :
    Always (exec config) (Within config) { now } events ∧
    outputs (exec config) Event.asks { now } events =
      outputs (exec config) Event.asks { now } (events.filter Event.asks) := by
  have each := orderly.and careful
  have none_ : Dated {} (utcDay now) := fun date same => by simp at same
  refine ⟨each.always (Sound config) (fun s sound => sound.within) (exec_sound config) ?_,
    outputs_unwinding (exec config) Event.asks _ Related ?_ ?_ _ _ _ ?_ each⟩
  · refine ⟨none_,by simp,fun day _ => rfl,limit,by simp⟩
  · rintro s t event related asks ⟨⟨later,-⟩,-⟩
    have alike := related.later (utcDay_mono later)
    cases event with
    | canExecute clock savings =>
      obtain ⟨next,same⟩ := canExecute_alike config alike savings
      exact ⟨next,congrArg Output.answer same.symm⟩
    | recordSuccess clock savings => exact ⟨recordSuccess_alike alike savings,rfl⟩
    | recordFailure clock error => exact ⟨recordFailure_alike alike error,rfl⟩
    | reset clock => exact ⟨reset_alike alike,rfl⟩
    | getStatus clock tenantId => simp [Event.asks] at asks
  · rintro s t event related status ⟨⟨later,-⟩,waits⟩
    cases event with
    | getStatus clock tenantId =>
      exact getStatus_alike (related.later (utcDay_mono later)) tenantId waits
    | canExecute clock savings => simp [Event.asks] at status
    | recordSuccess clock savings => simp [Event.asks] at status
    | recordFailure clock error => simp [Event.asks] at status
    | reset clock => simp [Event.asks] at status
  · exact ⟨rfl,rfl,rfl,rfl,none_,sameBudget_daily none_ rfl rfl⟩

namespace Sample

def at_ (seconds : Int) : Clock := ⟨1000000 * seconds,1000000 * seconds⟩

def failures : List Event :=
  [.recordFailure (at_ 3) "boom",.recordFailure (at_ 4) "boom",.recordFailure (at_ 5) "boom"]

def recovery : List Event :=
  failures ++ [.canExecute (at_ 306) 800,.recordSuccess (at_ 307) 800,.getStatus (at_ 308) "t",
    .canExecute (at_ 309) 300]

def unchecked : List Event := failures ++ [.canExecute (at_ 306) 5000,.recordSuccess (at_ 307) 5000]

def watched : List Event :=
  [.canExecute (at_ 1) 900,.recordSuccess (at_ 2) 900] ++ failures ++
    [.getStatus (at_ 306) "t",.canExecute (at_ 307) 200]

end Sample

open Sample in
/-- A recovery within the limit. -/
theorem recovery_limited : (exec {} (finalState (exec {}) { now := at_ 0 } recovery)
      (.canExecute (at_ 310) 200)).2 = .answer true ∧
    Always (exec {}) (Within {}) { now := at_ 0 } recovery ∧
    outputs (exec {}) Event.asks { now := at_ 0 } recovery =
      outputs (exec {}) Event.asks { now := at_ 0 } (recovery.filter Event.asks) :=
  ⟨by decide +kernel,
    savings_limited {} (by decide +kernel) (at_ 0) recovery (by decide +kernel) (by decide +kernel)⟩

open Sample in
/-- A recovered circuit allows 5000 of 1000, and a status turns an answer. -/
theorem recovery_unchecked :
    (EachStep (exec {}) InOrder { now := at_ 0 } unchecked ∧
      ¬Always (exec {}) (Within {}) { now := at_ 0 } unchecked) ∧
    EachStep (exec {}) InOrder { now := at_ 0 } watched ∧
      outputs (exec {}) Event.asks { now := at_ 0 } watched ≠
        outputs (exec {}) Event.asks { now := at_ 0 } (watched.filter Event.asks) := by
  refine ⟨⟨by decide +kernel,fun always => ?_⟩,by decide +kernel,by decide +kernel⟩
  have within := always.final
  simp only [Within] at within
  exact absurd within (by decide +kernel)

end Valdrics.SavingsBreaker

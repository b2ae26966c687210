import Valdrics.Interleaving
import Valdrics.LlmBudget
import Valdrics.PartySums

/-! Sessions that reserve and record against one tenant's budget row. The locked read of a
reservation keeps the row until its transaction ends; `record_usage` commits, and the
callers of the two may commit or roll back on their own. -/
namespace Valdrics.Llm

open Interleaving (Weighs)

/-- The committed row, and the version that the holder of the row lock has written. -/
structure BudgetTable where
  committed : Option LlmBudget
  working : Option LlmBudget := none

def BudgetTable.current (table : BudgetTable) : Option LlmBudget :=
  table.working.or table.committed

def pendingOf (row : Option LlmBudget) : Int := row.elim 0 (·.pendingReservationsUsd)

structure Reservation where
  amount : Int
  request : LlmRequest

structure BudgetSession where
  locked : Bool := false
  run : Option Reservation := none

namespace BudgetSession

/-- What `check_and_reserve` returned for the run in progress. -/
def amount (session : BudgetSession) : Int := session.run.elim 0 (·.amount)

def committedAmount (session : BudgetSession) : Int := if session.locked then 0 else session.amount

end BudgetSession

inductive BudgetEvent where
  | reserve (call : ReserveCall)
  | record (call : UsageCall)
  /-- The run ends in an exception, and its session goes on. -/
  | fail
  /-- The run ends in an exception that ends its transaction too. -/
  | abort
  /-- A run that reserved nothing ends without `record_usage`. -/
  | skip
  | commit
  | rollback

section Protocol

variable (pricing : LlmPricing)

inductive BudgetStep : BudgetTable → BudgetSession → BudgetEvent → BudgetTable → BudgetSession →
    Prop where
  | reserve (reserved : checkAndReserve pricing s.current call = (budget,some amount)) :
      BudgetStep s ⟨locked,none⟩ (.reserve call) ⟨s.committed,some budget⟩
        ⟨true,some ⟨amount,call.request⟩⟩
  | refuse (refused : checkAndReserve pricing s.current call = (budget,none)) :
      BudgetStep s ⟨locked,none⟩ (.reserve call) ⟨s.committed,some budget⟩ ⟨true,none⟩
  | record : BudgetStep s ⟨locked,some reservation⟩ (.record call)
      ⟨s.current.map (·.settle pricing call),none⟩ ⟨false,none⟩
  | fail : BudgetStep s ⟨locked,some reservation⟩ .fail s ⟨locked,none⟩
  | abort : BudgetStep s ⟨true,some reservation⟩ .abort ⟨s.committed,none⟩ ⟨false,none⟩
  | skip (free : reservation.amount = 0) :
      BudgetStep s ⟨locked,some reservation⟩ .skip s ⟨locked,none⟩
  | commit : BudgetStep s ⟨true,run⟩ .commit ⟨s.working,none⟩ ⟨false,run⟩
  | rollback : BudgetStep s ⟨true,none⟩ .rollback ⟨s.committed,none⟩ ⟨false,none⟩

/-- Who needs the row waits while another session's transaction holds it. -/
def budgetProtocol : Protocol BudgetTable BudgetSession BudgetEvent where
  step := BudgetStep pricing
  permits other s t next := other.locked = true → t = s ∧ next.locked = false

end Protocol

abbrev BudgetSystem (ι : Type) := Interleaving.System ι BudgetTable BudgetSession

/-- One session at most holds the row, and exactly then there is an uncommitted version. -/
structure RowLock (system : BudgetSystem ι) : Prop where
  single : ∀ party other, (system.phase party).locked = true →
    (system.phase other).locked = true → other = party
  written : ∀ party, (system.phase party).locked = true → system.shared.working ≠ none
  free : (∀ party, (system.phase party).locked = false) → system.shared.working = none

namespace RowLock

variable {pricing : LlmPricing} {system : BudgetSystem ι} {shared : BudgetTable}
  {phase : BudgetSession} {party : ι}

/-- A step that needs the row finds it with its own session or with none. -/
theorem others (lock : RowLock system)
    (permitted : ∀ other, other ≠ party →
      (budgetProtocol pricing).permits (system.phase other) system.shared shared phase)
    (needs : (system.phase party).locked = true ∨ shared ≠ system.shared ∨ phase.locked = true) :
    ∀ other, other ≠ party → (system.phase other).locked = false := by
  intro other apart
  by_contra held
  have locked : (system.phase other).locked = true := by simpa using held
  obtain ⟨same,unlocked⟩ := permitted other apart locked
  rcases needs with mine | changed | taken
  · exact apart (lock.single party other mine locked)
  · exact changed same
  · simp [unlocked] at taken

variable [DecidableEq ι]

theorem taken (others : ∀ other, other ≠ party → (system.phase other).locked = false)
    (locked : phase.locked = true) (written : shared.working ≠ none) :
    RowLock (⟨shared,Function.update system.phase party phase⟩ : BudgetSystem ι) := by
  have holder : ∀ other, (Function.update system.phase party phase other).locked = true →
      other = party := by
    intro other held
    by_contra apart
    rw [Function.update_of_ne apart, others other apart] at held
    contradiction
  refine ⟨fun one two first second => ?_,fun _ _ => written,fun nobody => ?_⟩
  · rw [holder one first, holder two second]
  · have mine : phase.locked = false := by simpa using nobody party
    simp [locked] at mine

/-- A session that ends up without it leaves no uncommitted version. -/
theorem released (others : ∀ other, other ≠ party → (system.phase other).locked = false)
    (unlocked : phase.locked = false) (ended : shared.working = none) :
    (∀ other, (Function.update system.phase party phase other).locked = false) ∧
      RowLock (⟨shared,Function.update system.phase party phase⟩ : BudgetSystem ι) := by
  have free : ∀ other, (Function.update system.phase party phase other).locked = false := by
    intro other
    by_cases same : other = party
    · subst same
      simpa using unlocked
    · rw [Function.update_of_ne same]
      exact others other same
  refine ⟨free,fun one two held _ => ?_,fun one held => ?_,fun _ => ended⟩
  · exact absurd held (by simp [free one])
  · exact absurd held (by simp [free one])

theorem untouched (lock : RowLock system) (kept : phase.locked = (system.phase party).locked) :
    RowLock (⟨system.shared,Function.update system.phase party phase⟩ : BudgetSystem ι) := by
  have same : ∀ other, (Function.update system.phase party phase other).locked =
      (system.phase other).locked := by
    intro other
    by_cases own : other = party
    · subst own
      simpa using kept
    · rw [Function.update_of_ne own]
  refine ⟨fun one two first second => ?_,fun one held => ?_,fun nobody => ?_⟩
  · exact lock.single one two (same one ▸ first) (same two ▸ second)
  · exact lock.written one (same one ▸ held)
  · exact lock.free fun other => same other ▸ nobody other

end RowLock

theorem pendingOf_opened (row : Option LlmBudget) (call : ReserveCall) :
    (openedBudget row call).pendingReservationsUsd =
      if row.any (·.stale call.now) then 0 else pendingOf row := by
  unfold openedBudget
  rw [LlmBudget.resetMonth_pending]
  cases row with
  | none =>
    have empty : (LlmBudget.bootstrap call.tier call.transactionStart).pendingReservationsUsd =
        0 := rfl
    simp only [Option.getD_none,empty,ite_self,pendingOf,Option.any_none,Option.elim_none]
  | some row => simp [pendingOf]

/-- What a record makes of the pending amount, whether there is a row or not. -/
theorem pendingOf_settle (pricing : LlmPricing) (row : Option LlmBudget) (call : UsageCall) :
    pendingOf (row.map (·.settle pricing call)) =
      max 0 (pendingOf row - pricing.estimate call.request) := by
  cases row with
  | none =>
    have estimate : 0 ≤ pricing.estimate call.request := LlmPricing.estimate_nonneg
    simp only [pendingOf,Option.map_none,Option.elim_none]
    omega
  | some row => rfl

structure Balance (answers : Int → Int → Prop) : Prop where
  zero : answers 0 0
  add : ∀ total pending amount, 0 ≤ amount → answers total pending →
    answers (total + amount) (pending + amount)

structure Backed (answers : Int → Int → Prop) (system : BudgetSystem ι) : Prop where
  lock : RowLock system
  nonneg : ∀ party, 0 ≤ (system.phase party).amount
  current : ∃ total, Weighs BudgetSession.amount system.phase total ∧
    answers total (pendingOf system.shared.current)
  committed : ∃ total, Weighs BudgetSession.committedAmount system.phase total ∧
    answers total (pendingOf system.shared.committed)

/-- What keeps the balance: no reset while a run is in progress, a release that matches the
reservation, and no reservation left behind. -/
structure Balanced (answers : Int → Int → Prop) (pricing : LlmPricing) (system : BudgetSystem ι)
    (event : ι × BudgetEvent) : Prop where
  unreset : ∀ call, event.2 = .reserve call →
    system.shared.current.any (·.stale call.now) = true →
    ∀ party, (system.phase party).run = none
  releases : ∀ call reservation, event.2 = .record call →
    (system.phase event.1).run = some reservation →
    ∀ total, reservation.amount ≤ total → answers total (pendingOf system.shared.current) →
      answers (total - reservation.amount)
        (max 0 (pendingOf system.shared.current - pricing.estimate call.request))
  fails : ∀ reservation, event.2 = .fail → (system.phase event.1).run = some reservation →
    ∀ total pending, answers total pending → answers (total - reservation.amount) pending

namespace Backed

/-- Where nobody holds the row, the committed version counts every reservation. -/
theorem unlocked {phases : ι → BudgetSession} {total : Int}
    (free : ∀ party, (phases party).locked = false)
    (weighs : Weighs BudgetSession.amount phases total) :
    Weighs BudgetSession.committedAmount phases total := by
  apply weighs.congr
  intro party
  simp [BudgetSession.committedAmount,free party]

theorem locked {phases : ι → BudgetSession} {total : Int}
    (free : ∀ party, (phases party).locked = false)
    (weighs : Weighs BudgetSession.committedAmount phases total) :
    Weighs BudgetSession.amount phases total := by
  apply weighs.congr
  intro party
  simp [BudgetSession.committedAmount,free party]

variable [DecidableEq ι] {answers : Int → Int → Prop} {pricing : LlmPricing}
  {system : BudgetSystem ι} {event : BudgetEvent} {party : ι} {phase : BudgetSession}
  {shared : BudgetTable}

theorem nonneg_update (backed : Backed answers system) (own : 0 ≤ phase.amount) (other : ι) :
    0 ≤ (Function.update system.phase party phase other).amount := by
  by_cases same : other = party
  · subst same
    simpa using own
  · rw [Function.update_of_ne same]
    exact backed.nonneg other

theorem reserve (balance : Balance answers) (backed : Backed answers system) {locked : Bool}
    {call : ReserveCall} {run : Option Reservation} {budget : LlmBudget}
    (own : system.phase party = ⟨locked,none⟩)
    (others : ∀ other, other ≠ party → (system.phase other).locked = false)
    (unreset : system.shared.current.any (·.stale call.now) = true →
      ∀ party, (system.phase party).run = none)
    (nonneg : 0 ≤ BudgetSession.amount ⟨true,run⟩)
    (written : budget.pendingReservationsUsd =
      (openedBudget system.shared.current call).pendingReservationsUsd +
        BudgetSession.amount ⟨true,run⟩) :
    Backed answers (⟨⟨system.shared.committed,some budget⟩,
      Function.update system.phase party ⟨true,run⟩⟩ : BudgetSystem ι) := by
  have mine : (system.phase party).amount = 0 := by simp [own,BudgetSession.amount]
  have settled : (system.phase party).committedAmount = 0 := by
    simp [BudgetSession.committedAmount,mine]
  refine ⟨RowLock.taken others rfl (by simp),backed.nonneg_update nonneg,?_,?_⟩
  · obtain ⟨total,weighs,held⟩ := backed.current
    have moved := weighs.move party ⟨true,run⟩
    rw [mine, sub_zero] at moved
    refine ⟨_,moved,?_⟩
    have pending : pendingOf (BudgetTable.current ⟨system.shared.committed,some budget⟩) =
        budget.pendingReservationsUsd := rfl
    rw [pending, written, pendingOf_opened]
    split
    · next stale =>
      have empty : Weighs BudgetSession.amount system.phase 0 :=
        .nothing fun other => by simp [BudgetSession.amount,unreset stale other]
      rw [weighs.unique empty]
      exact balance.add _ _ _ nonneg balance.zero
    · exact balance.add _ _ _ nonneg held
  · obtain ⟨total,weighs,held⟩ := backed.committed
    have moved := weighs.move party ⟨true,run⟩
    have after : BudgetSession.committedAmount ⟨true,run⟩ = 0 := rfl
    rw [settled, sub_zero, after, add_zero] at moved
    exact ⟨total,moved,held⟩

/-- A step after which nobody holds the row, with one version that answers for all. -/
theorem free (backed : Backed answers system) {run : Option Reservation} {row : Option LlmBudget}
    (others : ∀ other, other ≠ party → (system.phase other).locked = false)
    (nonneg : 0 ≤ BudgetSession.amount ⟨false,run⟩)
    (answered : ∃ total, Weighs BudgetSession.amount
      (Function.update system.phase party ⟨false,run⟩) total ∧ answers total (pendingOf row)) :
    Backed answers (⟨⟨row,none⟩,Function.update system.phase party ⟨false,run⟩⟩ :
      BudgetSystem ι) := by
  obtain ⟨unheld,lock⟩ := RowLock.released others
    (rfl : (⟨false,run⟩ : BudgetSession).locked = false)
    (rfl : (⟨row,none⟩ : BudgetTable).working = none)
  obtain ⟨total,weighs,held⟩ := answered
  exact ⟨lock,backed.nonneg_update nonneg,⟨total,weighs,held⟩,⟨total,unlocked unheld weighs,held⟩⟩

/-- A run that ends and leaves the row alone. -/
theorem ends (backed : Backed answers system) {locked : Bool} {reservation : Reservation}
    (own : system.phase party = ⟨locked,some reservation⟩)
    (fails : ∀ total pending, answers total pending →
      answers (total - reservation.amount) pending) :
    Backed answers (⟨system.shared,Function.update system.phase party ⟨locked,none⟩⟩ :
      BudgetSystem ι) := by
  refine ⟨backed.lock.untouched (by rw [own]),backed.nonneg_update (le_refl 0),?_,?_⟩
  · obtain ⟨total,weighs,held⟩ := backed.current
    have moved := weighs.move party ⟨locked,none⟩
    have before : (system.phase party).amount = reservation.amount := by
      simp [own,BudgetSession.amount]
    have after : BudgetSession.amount ⟨locked,none⟩ = 0 := rfl
    rw [before, after, add_zero] at moved
    exact ⟨_,moved,fails _ _ held⟩
  · obtain ⟨total,weighs,held⟩ := backed.committed
    have moved := weighs.move party ⟨locked,none⟩
    have after : BudgetSession.committedAmount ⟨locked,none⟩ = 0 := by
      simp [BudgetSession.committedAmount,BudgetSession.amount]
    rw [after, add_zero] at moved
    cases locked with
    | true =>
      have before : (system.phase party).committedAmount = 0 := by
        simp [own,BudgetSession.committedAmount]
      rw [before, sub_zero] at moved
      exact ⟨_,moved,held⟩
    | false =>
      have before : (system.phase party).committedAmount = reservation.amount := by
        simp [own,BudgetSession.committedAmount,BudgetSession.amount]
      rw [before] at moved
      exact ⟨_,moved,fails _ _ held⟩

/-- The holder of the row ends its transaction by a rollback, with no run in progress then. -/
theorem rolledBack (backed : Backed answers system) {run : Option Reservation}
    (own : system.phase party = ⟨true,run⟩)
    (others : ∀ other, other ≠ party → (system.phase other).locked = false) :
    Backed answers (⟨⟨system.shared.committed,none⟩,
      Function.update system.phase party ⟨false,none⟩⟩ : BudgetSystem ι) := by
  obtain ⟨total,weighs,held⟩ := backed.committed
  have moved := weighs.move party ⟨false,none⟩
  have before : (system.phase party).committedAmount = 0 := by
    simp [own,BudgetSession.committedAmount]
  have after : BudgetSession.committedAmount ⟨false,none⟩ = 0 := rfl
  rw [before, after, sub_zero, add_zero] at moved
  obtain ⟨unheld,_⟩ := RowLock.released others
    (rfl : (⟨false,none⟩ : BudgetSession).locked = false)
    (rfl : (⟨system.shared.committed,none⟩ : BudgetTable).working = none)
  exact backed.free others (le_refl 0) ⟨total,locked unheld moved,held⟩

theorem step (balance : Balance answers) (backed : Backed answers system)
    {events : ι × BudgetEvent} {next : BudgetSystem ι}
    (step : Interleaving.Step (budgetProtocol pricing) system events next)
    (balanced : Balanced answers pricing system events) : Backed answers next := by
  cases step with
  | @move party event shared phase taken permitted =>
    obtain ⟨unreset,releases,fails⟩ := balanced
    simp only at unreset releases fails
    have others := backed.lock.others permitted
    simp only [budgetProtocol] at taken
    generalize own : system.phase party = session at taken
    cases taken with
    | @reserve call budget amount _ locked reserved =>
      obtain ⟨priced,_,written⟩ := checkAndReserve_reserved reserved
      refine backed.reserve balance own (others (Or.inr (Or.inr rfl))) (unreset call rfl) ?_ ?_
      · show 0 ≤ amount
        rw [priced]
        exact LlmPricing.estimate_nonneg
      · rw [written]
        rfl
    | @refuse call budget _ locked refused =>
      refine backed.reserve balance own (others (Or.inr (Or.inr rfl))) (unreset call rfl)
        (le_refl 0) ?_
      rw [checkAndReserve_refused refused]
      exact (add_zero _).symm
    | @record _ locked reservation call =>
      have alone : ∀ other, other ≠ party → (system.phase other).locked = false := by
        by_cases changed : (⟨system.shared.current.map (·.settle pricing call),none⟩ :
            BudgetTable) = system.shared
        · intro other _
          by_contra held
          apply backed.lock.written other (by simpa using held)
          rw [← changed]
        · exact others (Or.inr (Or.inl changed))
      obtain ⟨total,weighs,held⟩ := backed.current
      have mine : (system.phase party).amount = reservation.amount := by
        simp [own,BudgetSession.amount]
      have moved := weighs.move party ⟨false,none⟩
      have after : BudgetSession.amount ⟨false,none⟩ = 0 := rfl
      rw [mine, after, add_zero] at moved
      refine backed.free alone (le_refl 0) ⟨_,moved,?_⟩
      rw [pendingOf_settle]
      apply releases call reservation rfl (by rw [own]) total _ held
      rw [← mine]
      exact weighs.weight_le backed.nonneg party
    | @fail _ locked reservation => exact backed.ends own (fails reservation rfl (by rw [own]))
    | @abort _ reservation => exact backed.rolledBack own (others (Or.inl (by rw [own])))
    | @skip reservation _ locked free =>
      apply backed.ends own
      intro total pending held
      rw [free, sub_zero]
      exact held
    | @commit _ run =>
      obtain ⟨total,weighs,held⟩ := backed.current
      have mine : (system.phase party).amount = BudgetSession.amount ⟨false,run⟩ := by
        simp [own,BudgetSession.amount]
      have nonneg : 0 ≤ BudgetSession.amount ⟨false,run⟩ := mine ▸ backed.nonneg party
      have moved := weighs.move party ⟨false,run⟩
      rw [mine, sub_add_cancel] at moved
      obtain ⟨working,written⟩ :=
        Option.ne_none_iff_exists'.mp (backed.lock.written party (by rw [own]))
      have current : system.shared.current = system.shared.working := by
        rw [BudgetTable.current, written, Option.some_or]
      rw [current] at held
      exact backed.free (others (Or.inl (by rw [own]))) nonneg ⟨total,moved,held⟩
    | rollback => exact backed.rolledBack own (others (Or.inl (by rw [own])))

end Backed

end Valdrics.Llm

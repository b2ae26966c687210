import Valdrics.ActionQueue
import Valdrics.Interleaving

/-! One action under calls that run at the same time. A lease selects the row and claims
it by a conditional update; a finishing call reads the row, checks it, and writes it at
its commit whatever the row is by then. -/
namespace Valdrics.Enforcement

inductive ActionPhase (orchestrator : ActionOrchestrator) where
  | idle
  | selecting (call : ActionLeaseCall) (triesLeft : Nat)
  | claiming (call : ActionLeaseCall) (candidate : ActionExecution) (triesLeft : Nat)
  | finishing (call : FinishCall) (loaded action : ActionExecution)
      (finished : orchestrator.finish call loaded = .ok action)

inductive ActionEvent where
  | leaseNextAction (call : ActionLeaseCall)
  | select
  | claim (call : ActionLeaseCall)
  | claimMissed
  | load (call : FinishCall)
  | commit (call : FinishCall)
  /-- The call returns without a write, is refused, or its worker crashes. -/
  | leave

namespace ActionOrchestrator

variable (orchestrator : ActionOrchestrator)

inductive RowStep : ActionExecution → ActionPhase orchestrator → ActionEvent →
    ActionExecution → ActionPhase orchestrator → Prop where
  | leaseNextAction (call : ActionLeaseCall) :
      RowStep row .idle (.leaseNextAction call) row (.selecting call 5)
  | select (visible : row.leasable call.asOf
      (call.actionType.map orchestrator.normalizeActionType) = true) :
      RowStep row (.selecting call (triesLeft + 1)) .select row (.claiming call row triesLeft)
  | claim (hit : row.claimable candidate call.asOf = true) :
      RowStep row (.claiming call candidate triesLeft) (.claim call) (row.lease candidate call)
        .idle
  | claimMissed (missed : row.claimable candidate call.asOf = false) :
      RowStep row (.claiming call candidate triesLeft) .claimMissed row
        (.selecting call triesLeft)
  | load (finished : orchestrator.finish call row = .ok action) :
      RowStep row .idle (.load call) row (.finishing call row action finished)
  | commit : RowStep row (.finishing call loaded action finished) (.commit call)
      (row.flush loaded action) .idle
  | leave : RowStep row phase .leave row .idle

/-- No caller holds a lock that another waits for. -/
def actionProtocol : Protocol ActionExecution (ActionPhase orchestrator) ActionEvent where
  step := orchestrator.RowStep
  permits _ _ _ _ := True

abbrev ActionSystem (ι : Type) :=
  Interleaving.System ι ActionExecution (ActionPhase orchestrator)

structure Queued (system : orchestrator.ActionSystem ι) : Prop where
  created : ∃ s call, orchestrator.newAction s call = .ok system.shared
  idle : ∀ party, system.phase party = .idle

def StillPasses (row : ActionExecution) : ActionEvent → Prop
  | .commit call => ∃ action, orchestrator.finish call row = .ok action
  | _ => True

def ActionSteps [DecidableEq ι] (system : orchestrator.ActionSystem ι) (event : ι × ActionEvent)
    (next : orchestrator.ActionSystem ι) : Prop :=
  Interleaving.Step orchestrator.actionProtocol system event next

def CarefulSteps [DecidableEq ι] (system : orchestrator.ActionSystem ι) (event : ι × ActionEvent)
    (next : orchestrator.ActionSystem ι) : Prop :=
  orchestrator.ActionSteps system event next ∧ orchestrator.StillPasses system.shared event.2

end ActionOrchestrator

namespace ActionEvent

def claims : ActionEvent → Bool
  | .claim _ => true
  | _ => false

/-- The workers that hold a lease: a claim adds one, its own finishing call ends it, and
a cancellation ends all. -/
def holders (held : List Uuid) : ActionEvent → List Uuid
  | .claim call => call.workerId :: held
  | .commit (.complete workerId _ _) | .commit (.fail workerId _ _ _ _ _) => held.erase workerId
  | .commit (.cancel _ _ _) => []
  | _ => held

end ActionEvent

def leaseHolders (events : List (ι × ActionEvent)) : List Uuid :=
  events.foldl (fun held event => event.2.holders held) []

@[simp] theorem leaseHolders_append (past : List (ι × ActionEvent)) (event : ι × ActionEvent) :
    leaseHolders (past ++ [event]) = event.2.holders (leaseHolders past) := by
  simp [leaseHolders]

namespace ActionOrchestrator

variable {orchestrator : ActionOrchestrator}

/-- What a caller knows from its own reads. -/
def Informed (row : ActionExecution) : ActionPhase orchestrator → Prop
  | .claiming _ candidate _ =>
    candidate.attemptCount < candidate.maxAttempts ∧ candidate.maxAttempts = row.maxAttempts
  | _ => True

structure Counted (system : orchestrator.ActionSystem ι) : Prop where
  bounded : system.shared.attemptCount ≤ system.shared.maxAttempts
  informed : ∀ party, Informed system.shared (system.phase party)

structure HeldBy (row : ActionExecution) (held : List Uuid) : Prop where
  running : row.status = .running → ∃ workerId, row.lockedByWorkerId = some workerId ∧
    held = [workerId]
  free : row.status ≠ .running → held = []

theorem leasable_left {row : ActionExecution} {asOf : Nat} {actionType : Option String}
    (visible : row.leasable asOf actionType = true) : row.attemptCount < row.maxAttempts := by
  simp only [ActionExecution.leasable,Bool.and_eq_true,decide_eq_true_eq] at visible
  exact visible.1.1.2

theorem claimable_same {row candidate : ActionExecution} {asOf : Nat}
    (hit : row.claimable candidate asOf = true) :
    row.status = .queued ∧ row.attemptCount = candidate.attemptCount := by
  simp only [ActionExecution.claimable,Bool.and_eq_true,decide_eq_true_eq] at hit
  exact hit.1

theorem RowStep.attempts {row next : ActionExecution} {phase later : ActionPhase orchestrator}
    {event : ActionEvent} (taken : orchestrator.RowStep row phase event next later) :
    next.attemptCount = row.attemptCount + (if event.claims then 1 else 0) ∧
      next.maxAttempts = row.maxAttempts := by
  cases taken with
  | claim hit =>
    have same := (claimable_same hit).2
    simp [ActionExecution.lease,ActionEvent.claims,same]
  | leaseNextAction => simp [ActionEvent.claims]
  | select => simp [ActionEvent.claims]
  | claimMissed => simp [ActionEvent.claims]
  | load => simp [ActionEvent.claims]
  | commit => simp [ActionEvent.claims]
  | leave => simp [ActionEvent.claims]

theorem Informed.of_maxAttempts {row next : ActionExecution} {phase : ActionPhase orchestrator}
    (same : next.maxAttempts = row.maxAttempts) (informed : Informed row phase) :
    Informed next phase := by
  cases phase with
  | claiming call candidate triesLeft => exact ⟨informed.1,informed.2.trans same.symm⟩
  | idle => trivial
  | selecting => trivial
  | finishing => trivial

theorem RowStep.counted {row next : ActionExecution} {phase later : ActionPhase orchestrator}
    {event : ActionEvent} (taken : orchestrator.RowStep row phase event next later)
    (bounded : row.attemptCount ≤ row.maxAttempts) (informed : Informed row phase) :
    next.attemptCount ≤ next.maxAttempts ∧ Informed next later := by
  obtain ⟨attempts,bound⟩ := taken.attempts
  cases taken with
  | select visible => exact ⟨bounded,leasable_left visible,rfl⟩
  | claim hit =>
    have same := (claimable_same hit).2
    obtain ⟨left,max_⟩ := informed
    refine ⟨?_,trivial⟩
    rw [attempts, bound]
    simp [ActionEvent.claims]
    omega
  | leaseNextAction => exact ⟨bounded,trivial⟩
  | claimMissed => exact ⟨bounded,trivial⟩
  | load => exact ⟨bounded,trivial⟩
  | commit => exact ⟨bounded,trivial⟩
  | leave => exact ⟨bounded,trivial⟩

/-- A finishing call that commits with its checks still true moves a live row, and the
worker it acts for is the one that holds the lease. -/
theorem commit_heldBy {row loaded action written : ActionExecution} {call : FinishCall}
    {held : List Uuid} (finished : orchestrator.finish call loaded = .ok action)
    (passes : orchestrator.finish call row = .ok written) (heldBy : HeldBy row held) :
    row.status.terminal = false ∧
      HeldBy (row.flush loaded action) ((ActionEvent.commit call).holders held) := by
  have spec := finish_eq_ok finished
  have now := finish_eq_ok passes
  have status : (row.flush loaded action).status = action.status :=
    ActionExecution.flushed_moved spec.moved _
  have stopped : action.status ≠ .running := by
    intro running
    rcases spec.status with terminal | ⟨queued,_⟩
    · simp [running,ActionStatus.terminal] at terminal
    · simp [running] at queued
  refine ⟨now.live,fun running => absurd (status.symm.trans running) stopped,fun _ => ?_⟩
  rcases now.owner with ⟨actorId,reason,at_,rfl⟩ | ⟨running,workerId,owned,kind⟩
  · rfl
  · obtain ⟨holder,locked,rfl⟩ := heldBy.running running
    have same : holder = workerId := by
      rcases owned with none_ | some_
      · simp [none_] at locked
      · exact Option.some.inj (locked.symm.trans some_)
    subst same
    rcases kind with ⟨payload,at_,rfl⟩ | ⟨code,message,retryable,payload,at_,rfl⟩
    · simp [ActionEvent.holders]
    · simp [ActionEvent.holders]

theorem RowStep.heldBy {row next : ActionExecution} {phase later : ActionPhase orchestrator}
    {event : ActionEvent} {held : List Uuid}
    (taken : orchestrator.RowStep row phase event next later)
    (passes : orchestrator.StillPasses row event) (heldBy : HeldBy row held) :
    HeldBy next (event.holders held) := by
  cases taken with
  | @claim row call candidate triesLeft hit =>
    have free := heldBy.free (by simp [(claimable_same hit).1])
    refine ⟨fun _ => ⟨call.workerId,rfl,?_⟩,fun idle => absurd rfl idle⟩
    simp [ActionEvent.holders,free]
  | @commit row call loaded action finished =>
    obtain ⟨written,passes⟩ := passes
    exact (commit_heldBy finished passes heldBy).2
  | leaseNextAction => exact heldBy
  | select => exact heldBy
  | claimMissed => exact heldBy
  | load => exact heldBy
  | leave => exact heldBy

theorem RowStep.absorbing {row next : ActionExecution} {phase later : ActionPhase orchestrator}
    {event : ActionEvent} (taken : orchestrator.RowStep row phase event next later)
    (passes : orchestrator.StillPasses row event) (terminal : row.status.terminal = true) :
    next.status = row.status := by
  cases taken with
  | claim hit => simp [(claimable_same hit).1,ActionStatus.terminal] at terminal
  | commit =>
    obtain ⟨written,passes⟩ := passes
    simp [(finish_eq_ok passes).live] at terminal
  | leaseNextAction => rfl
  | select => rfl
  | claimMissed => rfl
  | load => rfl
  | leave => rfl

theorem Queued.starts {system : orchestrator.ActionSystem ι} (queued : orchestrator.Queued system) :
    Counted system ∧ HeldBy system.shared [] := by
  obtain ⟨⟨s,call,made⟩,idle⟩ := queued
  obtain ⟨status,attempts,positive,_⟩ := newAction_eq_ok made
  refine ⟨⟨by omega,fun party => ?_⟩,⟨fun running => ?_,fun _ => rfl⟩⟩
  · rw [idle party]
    trivial
  · simp [status] at running

variable [DecidableEq ι] {system next : orchestrator.ActionSystem ι} {event : ι × ActionEvent}

theorem Counted.step (taken : orchestrator.ActionSteps system event next)
    (counted : Counted system) : Counted next := by
  cases taken with
  | @move party event shared phase taken permitted =>
    obtain ⟨bounded,own⟩ := RowStep.counted taken counted.bounded (counted.informed party)
    refine ⟨bounded,fun other => ?_⟩
    by_cases same : other = party
    · subst same
      simpa using own
    · simpa [Function.update_of_ne same] using
        (counted.informed other).of_maxAttempts (RowStep.attempts taken).2

theorem heldBy_step {past : List (ι × ActionEvent)}
    (taken : orchestrator.CarefulSteps system event next)
    (heldBy : HeldBy system.shared (leaseHolders past)) :
    HeldBy next.shared (leaseHolders (past ++ [event])) := by
  obtain ⟨taken,passes⟩ := taken
  cases taken with
  | @move party event shared phase taken permitted =>
    simpa using RowStep.heldBy taken passes heldBy

theorem run_attempts {events : List (ι × ActionEvent)}
    (run : Trace orchestrator.ActionSteps system events next) :
    next.shared.attemptCount =
      system.shared.attemptCount + events.countP fun event => event.2.claims := by
  induction run with
  | stop => simp
  | @go system event middle events final taken _ ih =>
    cases taken with
    | @move party event shared phase taken permitted =>
      have one := (RowStep.attempts taken).1
      rw [ih, List.countP_cons]
      dsimp only
      rw [one]
      omega

theorem run_absorbing {events : List (ι × ActionEvent)}
    (run : Trace orchestrator.CarefulSteps system events next)
    (terminal : system.shared.status.terminal = true) :
    next.shared.status = system.shared.status := by
  induction run with
  | stop => rfl
  | @go system event middle events final taken _ ih =>
    obtain ⟨taken,passes⟩ := taken
    cases taken with
    | @move party event shared phase taken permitted =>
      have same := RowStep.absorbing taken passes terminal
      exact (ih (by simpa [same] using terminal)).trans same

theorem run_counted {events : List (ι × ActionEvent)}
    (run : Trace orchestrator.ActionSteps system events next) (counted : Counted system) :
    Counted next :=
  run.keeps Counted (fun taken counted => counted.step taken) counted

theorem run_heldBy {events : List (ι × ActionEvent)}
    (run : Trace orchestrator.CarefulSteps system events next)
    (heldBy : HeldBy system.shared []) : HeldBy next.shared (leaseHolders events) := by
  have later := run.records (fun past system => HeldBy system.shared (leaseHolders past))
    (fun taken heldBy => heldBy_step taken heldBy) [] heldBy
  simpa using later

theorem HeldBy.length_le {row : ActionExecution} {held : List Uuid} (heldBy : HeldBy row held) :
    held.length ≤ 1 := by
  by_cases running : row.status = .running
  · obtain ⟨workerId,_,rfl⟩ := heldBy.running running
    simp
  · simp [heldBy.free running]

end ActionOrchestrator

/-- What two committed states of an action owe each other, and the leases held by the
later one. -/
structure ActionLaw (past events : List (ι × ActionEvent)) (earlier later : ActionExecution) :
    Prop where
  absorbing : earlier.status.terminal = true → later.status = earlier.status
  single : (leaseHolders (past ++ events)).length ≤ 1
  attempts : later.attemptCount =
    earlier.attemptCount + events.countP fun event => event.2.claims
  bounded : later.attemptCount ≤ later.maxAttempts

/-- In every run whose finishing calls commit only on rows that still pass their checks,
any earlier and any later state keep the law. -/
theorem action_law (orchestrator : ActionOrchestrator) [DecidableEq ι]
    {start middle final : orchestrator.ActionSystem ι} {past events : List (ι × ActionEvent)}
    (queued : orchestrator.Queued start)
    (before : Trace orchestrator.CarefulSteps start past middle)
    (after : Trace orchestrator.CarefulSteps middle events final) :
    ActionLaw past events middle.shared final.shared := by
  obtain ⟨counted,heldBy⟩ := queued.starts
  have steps : Trace orchestrator.ActionSteps start (past ++ events) final :=
    (before.trans after).mono fun taken => taken.1
  refine ⟨fun terminal => orchestrator.run_absorbing after terminal,?_,?_,?_⟩
  · exact (orchestrator.run_heldBy (before.trans after) heldBy).length_le
  · exact orchestrator.run_attempts (after.mono fun taken => taken.1)
  · exact (orchestrator.run_counted steps counted).bounded

namespace Sample

theorem deploy_created : ∃ row, orchestrator.newAction decided deploy = .ok row ∧
    row.leasable 0 none = true := by
  have made : (orchestrator.newAction decided deploy).toOption.any
      (fun row => row.leasable 0 none) = true := by decide +kernel
  obtain ⟨row,same,visible⟩ := (Option.any_eq_true _ _).mp made
  cases outcome : orchestrator.newAction decided deploy with
  | error fault => simp [outcome,Except.toOption] at same
  | ok row' =>
    simp only [outcome,Except.toOption,Option.some.injEq] at same
    exact ⟨row',rfl,by rw [same]; exact visible⟩

def deployLease : ActionLeaseCall := ⟨8,none,0⟩
def deployDone : FinishCall := .complete 8 [] 1
def deployCancelled : FinishCall := .cancel 3 none 2

theorem complete_eq_ok (row : ActionExecution) (running : row.status = .running)
    (locked : row.lockedByWorkerId = some 8) :
    ∃ action, orchestrator.finish deployDone row = .ok action ∧ action.status = .succeeded := by
  simp [deployDone,ActionOrchestrator.finish,ActionOrchestrator.completeAction,
    ActionOrchestrator.checkLeased,rejectIf,running,locked,bind,Except.bind,pure,Except.pure]

theorem cancel_eq_ok (row : ActionExecution) (live : row.status.terminal = false) :
    ∃ action, orchestrator.finish deployCancelled row = .ok action ∧
      action.status = .cancelled := by
  simp [deployCancelled,ActionOrchestrator.finish,ActionOrchestrator.cancelAction,rejectIf,live,
    bind,Except.bind,pure,Except.pure]

abbrev two (row : ActionExecution) (first second : ActionPhase orchestrator) :
    orchestrator.ActionSystem Bool := Interleaving.pair row first second

theorem first_moves {row next : ActionExecution} {first second phase : ActionPhase orchestrator}
    {event : ActionEvent} (taken : orchestrator.RowStep row first event next phase) :
    orchestrator.ActionSteps (two row first second) (false,event) (two next phase second) :=
  Interleaving.Step.first taken trivial

theorem second_moves {row next : ActionExecution} {first second phase : ActionPhase orchestrator}
    {event : ActionEvent} (taken : orchestrator.RowStep row second event next phase) :
    orchestrator.ActionSteps (two row first second) (true,event) (two next first phase) :=
  Interleaving.Step.second taken trivial

theorem two_queued {row : ActionExecution} (made : orchestrator.newAction decided deploy = .ok row) :
    orchestrator.Queued (two row .idle .idle) :=
  ⟨⟨decided,deploy,made⟩,Interleaving.pair_phase⟩

theorem deploy_leased {row : ActionExecution} (visible : row.leasable 0 none = true) :
    Trace orchestrator.CarefulSteps (two row .idle .idle)
      [(false,.leaseNextAction deployLease),(false,.select),(false,.claim deployLease)]
      (two (row.lease row deployLease) .idle .idle) := by
  refine .go ⟨first_moves (.leaseNextAction _),trivial⟩ ?_
  refine .go ⟨first_moves (.select visible),trivial⟩ ?_
  refine .go ⟨first_moves (.claim ?_),trivial⟩ .stop
  exact ActionOrchestrator.claimable_self visible

end Sample

/-- A lease and its completion. -/
theorem action_law_completed : ∃ row final : ActionExecution,
    row.status = .running ∧ final.status = .succeeded ∧
      ActionLaw [(false,.leaseNextAction Sample.deployLease),(false,.select),
          (false,.claim Sample.deployLease)]
        [(true,.load Sample.deployDone),(true,.commit Sample.deployDone)] row final := by
  obtain ⟨row,made,visible⟩ := Sample.deploy_created
  obtain ⟨action,finished,status⟩ := Sample.complete_eq_ok (row.lease row Sample.deployLease) rfl rfl
  have finishing : Trace Sample.orchestrator.CarefulSteps
      (Sample.two (row.lease row Sample.deployLease) .idle .idle)
      [(true,.load Sample.deployDone),(true,.commit Sample.deployDone)]
      (Sample.two ((row.lease row Sample.deployLease).flush (row.lease row Sample.deployLease) action)
        .idle .idle) :=
    .go ⟨Sample.second_moves (.load finished),trivial⟩
      (.go ⟨Sample.second_moves .commit,⟨action,finished⟩⟩ .stop)
  have law := action_law Sample.orchestrator (Sample.two_queued made) (Sample.deploy_leased visible)
    finishing
  exact ⟨_,_,rfl,(ActionExecution.flushed_same _ _).trans status,law⟩

/-- A completion and a cancellation load the running row; the cancellation commits last. -/
theorem succeeded_then_cancelled : ∃ (start middle final : Sample.orchestrator.ActionSystem Bool)
    (past events : List (Bool × ActionEvent)), Sample.orchestrator.Queued start ∧
      Trace Sample.orchestrator.ActionSteps start past middle ∧
      Trace Sample.orchestrator.ActionSteps middle events final ∧
      middle.shared.status = .succeeded ∧ final.shared.status = .cancelled ∧
      ¬ActionLaw past events middle.shared final.shared := by
  obtain ⟨row,made,visible⟩ := Sample.deploy_created
  obtain ⟨completed,finished,succeeded⟩ :=
    Sample.complete_eq_ok (row.lease row Sample.deployLease) rfl rfl
  obtain ⟨cancelled,dropped,status⟩ := Sample.cancel_eq_ok (row.lease row Sample.deployLease) rfl
  have leased : Trace Sample.orchestrator.ActionSteps (Sample.two row .idle .idle) _
      (Sample.two (row.lease row Sample.deployLease) .idle .idle) :=
    (Sample.deploy_leased visible).mono fun taken => taken.1
  have loaded : Trace Sample.orchestrator.ActionSteps
      (Sample.two (row.lease row Sample.deployLease) .idle .idle) _
      (Sample.two ((row.lease row Sample.deployLease).flush (row.lease row Sample.deployLease) completed)
        .idle (.finishing Sample.deployCancelled _ cancelled dropped)) :=
    .go (Sample.first_moves (.load finished)) (.go (Sample.second_moves (.load dropped))
      (.go (Sample.first_moves .commit) .stop))
  have done : ((row.lease row Sample.deployLease).flush (row.lease row Sample.deployLease)
      completed).status = .succeeded := (ActionExecution.flushed_same _ _).trans succeeded
  have last : (((row.lease row Sample.deployLease).flush (row.lease row Sample.deployLease)
      completed).flush (row.lease row Sample.deployLease) cancelled).status = .cancelled :=
    (ActionExecution.flushed_moved (by simp [status,ActionExecution.lease]) _).trans status
  refine ⟨_,_,_,_,_,Sample.two_queued made,leased.trans loaded,
    .go (Sample.second_moves .commit) .stop,done,last,fun law => ?_⟩
  have same := law.absorbing (by simp [Interleaving.pair,done,ActionStatus.terminal])
  simp [Interleaving.pair,done,last] at same

end Valdrics.Enforcement

import Valdrics.Interleaving

/-! The circuit breaker of external services under calls that overlap: a call is admitted, it runs,
and its outcome is recorded, whatever the circuit has become meanwhile. Clocks are read in ticks. -/
namespace Valdrics.CallBreaker

inductive CircuitState where
  | closed
  | open_
  | halfOpen
  deriving DecidableEq

def CircuitState.value : CircuitState → String
  | closed => "closed"
  | open_ => "open"
  | halfOpen => "half_open"

structure Config where
  failureThreshold : Int := 5
  successThreshold : Int := 3
  timeout : Int := 60
  name : String := "default"

structure Metrics where
  totalRequests : Nat := 0
  totalFailures : Nat := 0
  totalSuccesses : Nat := 0
  consecutiveFailures : Nat := 0
  consecutiveSuccesses : Nat := 0
  lastFailureTime : Option Int := none
  lastSuccessTime : Option Int := none
  lastFailureMonotonic : Option Int := none
  lastSuccessMonotonic : Option Int := none
  stateChanges : Nat := 0
  deriving DecidableEq

structure Clock where
  time : Int
  monotonic : Int

/-- The breaker; its own lock is never held while a call waits. -/
structure Breaker where
  state : CircuitState := .closed
  metrics : Metrics := {}
  halfOpenLock : Bool := false
  deriving DecidableEq

structure ExternalApiError where
  message : String
  code : String
  circuitName : String
  state : String
  lastFailure : Option Int
  timeout : Option Int
  deriving DecidableEq

inductive Admission where
  | admitted (probe : Bool)
  | refused (error : ExternalApiError)
  deriving DecidableEq

/-- How the protected function ends; an exception may be one of those that count as failures. -/
inductive Outcome where
  | returned
  | raised (expected : Bool)
  deriving DecidableEq

namespace Breaker

variable (config : Config) (breaker : Breaker) (clock : Clock)

def shouldAttemptReset : Bool :=
  if breaker.state ≠ .open_ then false
  else
    match breaker.metrics.lastFailureMonotonic with
    | some failed => config.timeout ≤ clock.monotonic - failed
    | none =>
      match breaker.metrics.lastFailureTime with
      | none => true
      | some failed => config.timeout ≤ clock.time - failed

def changeState (state : CircuitState) : Breaker :=
  { breaker with
    state
    metrics := { breaker.metrics with stateChanges := breaker.metrics.stateChanges + 1 } }

def recordSuccess : Breaker :=
  let counted := { breaker with
    metrics := { breaker.metrics with
      totalRequests := breaker.metrics.totalRequests + 1
      totalSuccesses := breaker.metrics.totalSuccesses + 1
      consecutiveSuccesses := breaker.metrics.consecutiveSuccesses + 1
      consecutiveFailures := 0
      lastSuccessTime := some clock.time
      lastSuccessMonotonic := some clock.monotonic } }
  if counted.state = .halfOpen ∧
      config.successThreshold ≤ counted.metrics.consecutiveSuccesses then
    counted.changeState .closed
  else counted

def recordFailure : Breaker :=
  let counted := { breaker with
    metrics := { breaker.metrics with
      totalRequests := breaker.metrics.totalRequests + 1
      totalFailures := breaker.metrics.totalFailures + 1
      consecutiveFailures := breaker.metrics.consecutiveFailures + 1
      consecutiveSuccesses := 0
      lastFailureTime := some clock.time
      lastFailureMonotonic := some clock.monotonic } }
  if counted.state = .closed ∧ config.failureThreshold ≤ counted.metrics.consecutiveFailures then
    counted.changeState .open_
  else if counted.state = .halfOpen then counted.changeState .open_
  else counted

/-- The entry of `protect`, under the lock of the breaker. -/
def enter : Breaker × Admission :=
  let breaker := if breaker.state = .open_ ∧ breaker.shouldAttemptReset config clock then
    breaker.changeState .halfOpen else breaker
  if breaker.state = .open_ then
    (breaker,.refused ⟨"Circuit breaker is OPEN for " ++ config.name,"circuit_breaker_open",
      config.name,breaker.state.value,breaker.metrics.lastFailureTime,some config.timeout⟩)
  else if breaker.state = .halfOpen then
    if breaker.halfOpenLock then
      (breaker,.refused ⟨"Circuit breaker is HALF_OPEN for " ++ config.name,
        "circuit_breaker_half_open",config.name,breaker.state.value,
        breaker.metrics.lastFailureTime,none⟩)
    else ({ breaker with halfOpenLock := true },.admitted true)
  else (breaker,.admitted false)

/-- The rest of `protect` after the function has ended; a probe gives its lock back. -/
def finish (probe : Bool) (outcome : Outcome) : Breaker :=
  let recorded :=
    match outcome with
    | .returned => breaker.recordSuccess config clock
    | .raised true => breaker.recordFailure config clock
    | .raised false => breaker
  if probe && recorded.halfOpenLock then { recorded with halfOpenLock := false } else recorded

end Breaker

inductive Caller where
  | idle
  | running (probe : Bool)
  deriving DecidableEq

inductive Event where
  | call (clock : Clock)
  | finish (outcome : Outcome) (clock : Clock)

inductive Entry where
  | admitted (state : CircuitState) (probe : Bool) (now : Int)
  | succeeded (probe : Bool)
  | failed (now : Int)
  | turned (before after : CircuitState)
  deriving DecidableEq

def perform (config : Config) (breaker : Breaker) : Caller → Event → Option (Breaker × Caller)
  | .idle, .call clock =>
    match breaker.enter config clock with
    | (next,.admitted probe) => some (next,.running probe)
    | (next,.refused _) => some (next,.idle)
  | .running probe, .finish outcome clock =>
    some (breaker.finish config clock probe outcome,.idle)
  | _, _ => none

def turns (before after : Breaker) : List Entry :=
  if before.state = after.state then [] else [.turned before.state after.state]

def observe (config : Config) (breaker : Breaker) : Caller → Event → List Entry
  | .idle, .call clock =>
    let next := breaker.enter config clock
    turns breaker next.1 ++
      match next.2 with
      | .admitted probe => [.admitted breaker.state probe clock.monotonic]
      | .refused _ => []
  | .running probe, .finish outcome clock =>
    (match outcome with
      | .returned => [.succeeded probe]
      | .raised true => [.failed clock.monotonic]
      | .raised false => []) ++ turns breaker (breaker.finish config clock probe outcome)
  | _, _ => []

def calls (config : Config) : Protocol Breaker Caller Event where
  step breaker caller event next after := perform config breaker caller event = some (next,after)
  permits _ _ _ _ := True

def logged (config : Config) : Protocol (Breaker × List Entry) Caller Event :=
  (calls config).record (observe config)

def Entry.failedAt : Entry → Option Int
  | failed now => some now
  | _ => none

def lastFailure (log : List Entry) : Option Int := (log.filterMap Entry.failedAt).getLast?

def Entry.restarts : Entry → Bool
  | failed _ => true
  | turned _ .open_ => true
  | _ => false

/-- The successes of probes since the last failure and since the circuit last opened. -/
def probeSuccesses (log : List Entry) : Nat :=
  (log.reverse.takeWhile fun entry => !entry.restarts).countP (· = .succeeded true)

def Waited (config : Config) (past : List Entry) (entry : Entry) : Prop :=
  ∀ probe now, entry = .admitted .open_ probe now →
    ∃ failed, lastFailure past = some failed ∧ config.timeout ≤ now - failed

def Proven (config : Config) (past : List Entry) (entry : Entry) : Prop :=
  entry = .turned .halfOpen .closed → config.successThreshold ≤ probeSuccesses past

/-- A call that was admitted while the circuit was closed succeeds while it is closed. -/
def InTime (shared : Breaker × List Entry) (caller : Caller) (event : Event) : Prop :=
  caller = .running false → ∀ clock, event = .finish .returned clock → shared.1.state = .closed

section Logs

variable (log : List Entry) (entry : Entry)

@[simp] theorem lastFailure_snoc :
    lastFailure (log ++ [entry]) = entry.failedAt.or (lastFailure log) := by
  cases failed : entry.failedAt <;> simp [lastFailure,failed]

@[simp] theorem probeSuccesses_snoc : probeSuccesses (log ++ [entry]) =
    if entry.restarts then 0
    else probeSuccesses log + if entry = .succeeded true then 1 else 0 := by
  cases restarts : entry.restarts with
  | true => simp [probeSuccesses,restarts]
  | false => simp [probeSuccesses,restarts,List.countP_cons]

end Logs

section Admission

variable {config : Config} {breaker next : Breaker} {clock : Clock}

structure Admits (config : Config) (breaker : Breaker) (clock : Clock) (next : Breaker)
    (admission : Admission) : Prop where
  metrics : next.metrics.lastFailureMonotonic = breaker.metrics.lastFailureMonotonic ∧
    next.metrics.consecutiveSuccesses = breaker.metrics.consecutiveSuccesses
  state : next.state = breaker.state ∨ breaker.state = .open_ ∧ next.state = .halfOpen
  lock : (admission = .admitted true ∧ breaker.halfOpenLock = false ∧ next.halfOpenLock = true) ∨
    admission ≠ .admitted true ∧ next.halfOpenLock = breaker.halfOpenLock
  waited : ∀ probe, admission = .admitted probe → breaker.state = .open_ →
    breaker.shouldAttemptReset config clock = true

theorem enter_admits (config : Config) (breaker : Breaker) (clock : Clock) :
    Admits config breaker clock (breaker.enter config clock).1 (breaker.enter config clock).2 := by
  unfold Breaker.enter
  by_cases reset : breaker.state = .open_ ∧ breaker.shouldAttemptReset config clock = true
  · cases locked : breaker.halfOpenLock <;>
      simp only [if_pos reset,Breaker.changeState,locked,if_true,reduceCtorEq,if_false,
        Bool.false_eq_true]
    · exact ⟨⟨rfl,rfl⟩,.inr ⟨reset.1,rfl⟩,.inl ⟨rfl,locked,rfl⟩,fun _ _ _ => reset.2⟩
    · exact ⟨⟨rfl,rfl⟩,.inr ⟨reset.1,rfl⟩,.inr ⟨by simp,locked.symm⟩,fun _ _ _ => reset.2⟩
  · simp only [if_neg reset]
    cases state : breaker.state with
    | closed => exact ⟨⟨rfl,rfl⟩,.inl rfl,.inr ⟨by simp,rfl⟩,fun _ _ isOpen => by simp [state] at isOpen⟩
    | open_ => exact ⟨⟨rfl,rfl⟩,.inl rfl,.inr ⟨by simp,rfl⟩,fun _ refused => by simp at refused⟩
    | halfOpen =>
      cases locked : breaker.halfOpenLock with
      | true =>
        exact ⟨⟨rfl,rfl⟩,.inl rfl,.inr ⟨by simp,rfl⟩,fun _ refused => by simp at refused⟩
      | false =>
        exact ⟨⟨rfl,rfl⟩,.inl state.symm,.inl ⟨rfl,locked,rfl⟩,fun _ _ isOpen => by
          simp [state] at isOpen⟩

structure Finishes (config : Config) (breaker : Breaker) (clock : Clock) (probe : Bool)
    (outcome : Outcome) (next : Breaker) : Prop where
  lock : next.halfOpenLock = (!probe && breaker.halfOpenLock)
  returned : outcome = .returned →
    next.metrics.lastFailureMonotonic = breaker.metrics.lastFailureMonotonic ∧
    next.metrics.consecutiveSuccesses = breaker.metrics.consecutiveSuccesses + 1 ∧
    (next.state = breaker.state ∨ breaker.state = .halfOpen ∧ next.state = .closed ∧
      config.successThreshold ≤ next.metrics.consecutiveSuccesses)
  failed : outcome = .raised true →
    next.metrics.lastFailureMonotonic = some clock.monotonic ∧
    next.metrics.consecutiveSuccesses = 0 ∧ (next.state = breaker.state ∨ next.state = .open_)
  other : outcome = .raised false → next.metrics = breaker.metrics ∧ next.state = breaker.state

theorem release (probe : Bool) (recorded : Breaker) :
    (if probe && recorded.halfOpenLock then { recorded with halfOpenLock := false }
      else recorded) = { recorded with halfOpenLock := !probe && recorded.halfOpenLock } := by
  obtain ⟨state,metrics,lock⟩ := recorded
  cases probe <;> cases lock <;> rfl

theorem finish_finishes (config : Config) (breaker : Breaker) (clock : Clock) (probe : Bool)
    (outcome : Outcome) :
    Finishes config breaker clock probe outcome (breaker.finish config clock probe outcome) := by
  simp only [Breaker.finish,release]
  rcases outcome with _ | expected
  · refine ⟨?_,fun _ => ?_,by simp,by simp⟩
    · simp only [Breaker.recordSuccess]
      split <;> rfl
    · simp only [Breaker.recordSuccess]
      split
      · next closes => exact ⟨rfl,rfl,.inr ⟨closes.1,rfl,closes.2⟩⟩
      · exact ⟨rfl,rfl,.inl rfl⟩
  · cases expected with
    | false => exact ⟨rfl,by simp,by simp,fun _ => ⟨rfl,rfl⟩⟩
    | true =>
      refine ⟨?_,by simp,fun _ => ?_,by simp⟩
      · simp only [Breaker.recordFailure]
        split
        · rfl
        · split <;> rfl
      · simp only [Breaker.recordFailure]
        split
        · exact ⟨rfl,rfl,.inr rfl⟩
        · split
          · exact ⟨rfl,rfl,.inr rfl⟩
          · exact ⟨rfl,rfl,.inl rfl⟩

end Admission

section Steps

variable {config : Config} {s t : Breaker × List Entry} {caller after : Caller} {event : Event}

theorem step_cases (taken : (logged config).step s caller event t after) :
    (∃ clock, caller = .idle ∧ event = .call clock ∧ t.1 = (s.1.enter config clock).1 ∧
      (∀ probe, (s.1.enter config clock).2 = .admitted probe → after = .running probe ∧
        t.2 = s.2 ++ turns s.1 t.1 ++ [.admitted s.1.state probe clock.monotonic]) ∧
      ∀ error, (s.1.enter config clock).2 = .refused error →
        after = .idle ∧ t.2 = s.2 ++ turns s.1 t.1) ∨
    ∃ probe outcome clock, caller = .running probe ∧ event = .finish outcome clock ∧
      after = .idle ∧ t.1 = s.1.finish config clock probe outcome ∧
      t.2 = s.2 ++ (match outcome with
        | .returned => [.succeeded probe]
        | .raised true => [.failed clock.monotonic]
        | .raised false => []) ++ turns s.1 t.1 := by
  obtain ⟨breaker,log⟩ := s
  obtain ⟨next,log'⟩ := t
  obtain ⟨performed,written⟩ := taken
  rcases caller with _ | probe <;> rcases event with clock | ⟨outcome,clock⟩
  · refine .inl ⟨clock,rfl,rfl,?_⟩
    simp only [calls,perform] at performed
    simp only [observe] at written
    generalize breaker.enter config clock = entered at performed written
    obtain ⟨reached,admission⟩ := entered
    cases admission with
    | admitted probe =>
      obtain ⟨rfl,rfl⟩ := Prod.mk.inj (Option.some.inj performed)
      refine ⟨rfl,fun other same => ?_,by simp⟩
      obtain rfl := Admission.admitted.inj same
      exact ⟨rfl,by simpa using written⟩
    | refused error =>
      obtain ⟨rfl,rfl⟩ := Prod.mk.inj (Option.some.inj performed)
      exact ⟨rfl,by simp,fun _ _ => ⟨rfl,by simpa using written⟩⟩
  · simp [calls,perform] at performed
  · simp [calls,perform] at performed
  · refine .inr ⟨probe,outcome,clock,rfl,rfl,?_⟩
    simp only [calls,perform] at performed
    obtain ⟨rfl,rfl⟩ := Prod.mk.inj (Option.some.inj performed)
    exact ⟨rfl,rfl,by simpa [observe] using written⟩

@[simp] theorem lastFailure_turns (log : List Entry) (before next : Breaker) :
    lastFailure (log ++ turns before next) = lastFailure log := by
  unfold turns
  split
  · rw [List.append_nil]
  · rw [lastFailure_snoc]
    rfl

structure Tracked (config : Config) (s : Breaker × List Entry) : Prop where
  failure : s.1.metrics.lastFailureMonotonic = lastFailure s.2
  opened : s.1.state = .open_ → lastFailure s.2 ≠ none
  waited : EachEntry (Waited config) s.2

theorem waited_turns {before next : Breaker} {log : List Entry}
    (waited : EachEntry (Waited config) log) :
    EachEntry (Waited config) (log ++ turns before next) := by
  unfold turns
  split
  · rwa [List.append_nil]
  · exact waited.snoc fun probe now other => by simp at other

theorem tracked_step (tracked : Tracked config s)
    (taken : (logged config).step s caller event t after) : Tracked config t := by
  rcases step_cases taken with ⟨clock,-,-,reached,enters,refused⟩ |
    ⟨probe,outcome,clock,-,-,-,reached,written⟩
  · have admits := enter_admits config s.1 clock
    rw [← reached] at admits
    have isOpen : t.1.state = .open_ → s.1.state = .open_ := by
      intro now
      rcases admits.state with same | ⟨-,half⟩
      · rw [← same,now]
      · simp [half] at now
    cases entered : (s.1.enter config clock).2 with
    | refused error =>
      have written := (refused error entered).2
      refine ⟨?_,?_,?_⟩ <;> rw [written]
      · rw [lastFailure_turns,admits.metrics.1,tracked.failure]
      · rw [lastFailure_turns]
        exact fun now => tracked.opened (isOpen now)
      · exact waited_turns tracked.waited
    | admitted probe =>
      have written := (enters probe entered).2
      refine ⟨?_,?_,?_⟩ <;> rw [written]
      · rw [lastFailure_snoc,lastFailure_turns,admits.metrics.1,tracked.failure]
        rfl
      · rw [lastFailure_snoc,lastFailure_turns]
        exact fun now => tracked.opened (isOpen now)
      · refine (waited_turns tracked.waited).snoc fun other now same => ?_
        obtain ⟨state,rfl,rfl⟩ := Entry.admitted.inj same
        rw [lastFailure_turns]
        -- The circuit was open, so that it has waited since the failure that it remembers.
        obtain ⟨failed,last⟩ := Option.ne_none_iff_exists'.mp (tracked.opened state)
        have waited := admits.waited probe entered state
        simp only [Breaker.shouldAttemptReset,state,ne_eq,not_true,if_false,tracked.failure,
          last,decide_eq_true_eq] at waited
        exact ⟨failed,last,waited⟩
  · have finishes := finish_finishes config s.1 clock probe outcome
    rw [← reached] at finishes
    cases outcome with
    | returned =>
      obtain ⟨failure,-,state⟩ := finishes.returned rfl
      have last : lastFailure t.2 = lastFailure s.2 := by
        rw [written,lastFailure_turns,lastFailure_snoc]
        rfl
      refine ⟨by rw [failure,tracked.failure,last],fun now => ?_,?_⟩
      · rw [last]
        rcases state with same | ⟨-,closed,-⟩
        · exact tracked.opened (same ▸ now)
        · simp [closed] at now
      · rw [written]
        exact waited_turns (tracked.waited.snoc fun probe now other => by simp at other)
    | raised expected =>
      cases expected with
      | true =>
        have last : lastFailure t.2 = some clock.monotonic := by
          rw [written,lastFailure_turns,lastFailure_snoc]
          rfl
        refine ⟨by rw [(finishes.failed rfl).1,last],fun _ => by simp [last],?_⟩
        rw [written]
        exact waited_turns (tracked.waited.snoc fun probe now other => by simp at other)
      | false =>
        obtain ⟨metrics,state⟩ := finishes.other rfl
        have same : t.2 = s.2 := by simpa [turns,state] using written
        exact ⟨by rw [metrics,same,tracked.failure],by rw [state,same]; exact tracked.opened,
          by rw [same]; exact tracked.waited⟩

theorem probeSuccesses_turns {before next : Breaker} (log : List Entry)
    (stays : next.state = .open_ → before.state = .open_) :
    probeSuccesses (log ++ turns before next) = probeSuccesses log := by
  unfold turns
  split
  · rw [List.append_nil]
  · next changed =>
    rw [probeSuccesses_snoc]
    cases state : next.state with
    | open_ => exact absurd ((stays state).trans state.symm) changed
    | closed => simp [Entry.restarts]
    | halfOpen => simp [Entry.restarts]

theorem proven_turns {before next : Breaker} {log : List Entry}
    (proven : EachEntry (Proven config) log) (closing : before.state = .halfOpen →
      next.state = .closed → config.successThreshold ≤ probeSuccesses log) :
    EachEntry (Proven config) (log ++ turns before next) := by
  unfold turns
  split
  · rwa [List.append_nil]
  · refine proven.snoc fun same => ?_
    obtain ⟨half,closed⟩ := Entry.turned.inj same
    exact closing half closed

structure Counted (config : Config) (s : Breaker × List Entry) : Prop where
  counted : s.1.state ≠ .closed → s.1.metrics.consecutiveSuccesses ≤ probeSuccesses s.2
  proven : EachEntry (Proven config) s.2

theorem counted_step (counted : Counted config s)
    (taken : (logged config).step s caller event t after) (inTime : InTime s caller event) :
    Counted config t := by
  rcases step_cases taken with ⟨clock,-,-,reached,enters,refused⟩ |
    ⟨probe,outcome,clock,running,ends,-,reached,written⟩
  · have admits := enter_admits config s.1 clock
    rw [← reached] at admits
    have isOpen : t.1.state = .open_ → s.1.state = .open_ := by
      intro now
      rcases admits.state with same | ⟨-,half⟩
      · rw [← same,now]
      · simp [half] at now
    have isClosed : t.1.state = .closed → s.1.state = .closed := by
      intro now
      rcases admits.state with same | ⟨-,half⟩
      · rw [← same,now]
      · simp [half] at now
    have turned : EachEntry (Proven config) (s.2 ++ turns s.1 t.1) := by
      refine proven_turns counted.proven fun half closed => ?_
      simp [isClosed closed] at half
    have kept : t.1.state ≠ .closed →
        t.1.metrics.consecutiveSuccesses ≤ probeSuccesses (s.2 ++ turns s.1 t.1) := by
      intro away
      rw [probeSuccesses_turns s.2 isOpen,admits.metrics.2]
      refine counted.counted fun closed => away ?_
      rcases admits.state with same | ⟨was,-⟩
      · rw [same,closed]
      · simp [closed] at was
    cases entered : (s.1.enter config clock).2 with
    | refused error =>
      rw [← (refused error entered).2] at turned kept
      exact ⟨kept,turned⟩
    | admitted probe =>
      have written := (enters probe entered).2
      refine ⟨fun away => ?_,?_⟩ <;> rw [written]
      · rw [probeSuccesses_snoc]
        simpa [Entry.restarts] using kept away
      · exact turned.snoc fun same => by simp at same
  · have finishes := finish_finishes config s.1 clock probe outcome
    rw [← reached] at finishes
    cases outcome with
    | returned =>
      obtain ⟨-,successes,state⟩ := finishes.returned rfl
      have isOpen : t.1.state = .open_ → s.1.state = .open_ := by
        intro now
        rcases state with same | ⟨-,closed,-⟩
        · rw [← same,now]
        · simp [closed] at now
      -- A success outside the closed state is one of a probe, and both counts grow.
      have grown : s.1.state ≠ .closed → t.1.metrics.consecutiveSuccesses ≤
          probeSuccesses (s.2 ++ [.succeeded probe]) := by
        intro away
        have isProbe : probe = true := by
          by_contra other
          rw [Bool.not_eq_true] at other
          subst other
          exact away (inTime running clock ends)
        have before := counted.counted away
        rw [probeSuccesses_snoc,successes,isProbe]
        simpa [Entry.restarts] using before
      refine ⟨fun away => ?_,?_⟩ <;> rw [written]
      · rw [probeSuccesses_turns _ isOpen]
        refine grown fun closed => away ?_
        rcases state with same | ⟨was,-,-⟩
        · rw [same,closed]
        · simp [closed] at was
      · refine proven_turns (counted.proven.snoc fun same => by simp at same) fun half closed => ?_
        rcases state with same | ⟨-,-,enough⟩
        · simp [same,half] at closed
        · have more := grown (by simp [half])
          exact Int.le_trans enough (Int.ofNat_le.mpr more)
    | raised expected =>
      cases expected with
      | true =>
        obtain ⟨-,none_,state⟩ := finishes.failed rfl
        refine ⟨fun _ => by rw [none_]; exact Nat.zero_le _,?_⟩
        rw [written]
        refine proven_turns (counted.proven.snoc fun same => by simp at same) fun half closed => ?_
        rcases state with same | open_
        · simp [same,half] at closed
        · simp [open_] at closed
      | false =>
        obtain ⟨metrics,state⟩ := finishes.other rfl
        have same : t.2 = s.2 := by simpa [turns,state] using written
        exact ⟨by rw [metrics,state,same]; exact counted.counted,by rw [same]; exact counted.proven⟩

end Steps

section Runs

open Interleaving

variable {ι : Type}

def fresh (ι : Type) : System ι (Breaker × List Entry) Caller := ⟨({},[]),fun _ => .idle⟩

def Apart (first second : Caller) : Prop := ¬(first = .running true ∧ second = .running true)

theorem discipline (config : Config) : Discipline (logged config) (Tracked config)
    (fun s caller => caller = .running true → s.1.halfOpenLock = true) Apart where
  symmetric := fun first second apart both => apart both.symm
  own := by
    intro s caller event t after tracked held taken
    refine ⟨tracked_step tracked taken,fun probing => ?_⟩
    rcases step_cases taken with ⟨clock,-,-,reached,enters,refused⟩ | ⟨probe,outcome,clock,-,-,rfl,-⟩
    · have lock := (enter_admits config s.1 clock).lock
      rw [← reached] at lock
      rcases lock with ⟨-,-,locked⟩ | ⟨other,-⟩
      · exact locked
      · cases entered : (s.1.enter config clock).2 with
        | refused error => simp [(refused error entered).1] at probing
        | admitted probe =>
          obtain rfl := Caller.running.inj ((enters probe entered).1.symm.trans probing)
          exact absurd entered other
    · simp at probing
  exclusive := by
    rintro s caller event t after other - held theirs apart taken - ⟨probing,rfl⟩
    rcases step_cases taken with ⟨clock,-,-,reached,enters,refused⟩ | ⟨probe,outcome,clock,-,-,rfl,-⟩
    · cases entered : (s.1.enter config clock).2 with
      | refused error => simp [(refused error entered).1] at probing
      | admitted probe =>
        obtain rfl := Caller.running.inj ((enters probe entered).1.symm.trans probing)
        rcases (enter_admits config s.1 clock).lock with ⟨-,free,-⟩ | ⟨not_,-⟩
        · simp [theirs rfl] at free
        · exact not_ entered
    · simp at probing
  undisturbed := by
    rintro s caller event t after other - held theirs apart taken - rfl
    have locked := theirs rfl
    rcases step_cases taken with ⟨clock,-,-,reached,-,-⟩ | ⟨probe,outcome,clock,rfl,-,-,reached,-⟩
    · have lock := (enter_admits config s.1 clock).lock
      rw [← reached] at lock
      rcases lock with ⟨-,-,held⟩ | ⟨-,same⟩
      · exact held
      · rw [same,locked]
    · have lock := (finish_finishes config s.1 clock probe outcome).lock
      rw [← reached] at lock
      have ordinary : probe = false := by
        by_contra isProbe
        exact apart ⟨by simpa using isProbe,rfl⟩
      rw [lock,ordinary,locked]
      rfl

theorem fresh_good (config : Config) : Good (Tracked config)
    (fun s caller => caller = .running true → s.1.halfOpenLock = true) Apart (fresh ι) := by
  refine ⟨⟨rfl,by simp [fresh],EachEntry.nil⟩,?_,?_⟩
  · simp [fresh]
  · simp [fresh,Apart]

variable [DecidableEq ι]

/-- At most one probe runs, and no call is admitted while the circuit is open before the timeout has
passed; where moreover the calls that were admitted while the circuit was closed succeed while it is
closed, the circuit closes only after enough successes of probes. -/
theorem closes_on_probes (config : Config) {events : List (ι × Event)}
    {system : System ι (Breaker × List Entry) Caller}
    (run : Trace (Step (logged config)) (fresh ι) events system) :
    (∀ first second, first ≠ second → Apart (system.phase first) (system.phase second)) ∧
    EachEntry (Waited config) system.shared.2 ∧
    (Trace (Step ((logged config).restrict InTime fun _ _ _ _ => True)) (fresh ι) events system →
      EachEntry (Proven config) system.shared.2) := by
  have good := (discipline config).run run (fresh_good config)
  refine ⟨fun first second apart => good.compatible first second (Ne.symm apart),
    good.invariant.waited,fun timely => ?_⟩
  refine (timely.keeps (fun system => Counted config system.shared) ?_ ⟨by simp [fresh],?_⟩).proven
  · rintro system event next ⟨⟨taken,inTime⟩,-⟩ counted
    exact counted_step counted taken inTime
  · exact EachEntry.nil

end Runs

namespace Sample

open Interleaving

def cacheBreaker : Config where
  failureThreshold := 3
  successThreshold := 2
  timeout := 10
  name := "cache"

def at_ (now : Int) : Clock := ⟨now,now⟩

def failing (now : Int) : List (Bool × Event) :=
  [(true,.call (at_ now)),(true,.finish (.raised true) (at_ now))]

def passing (now : Int) : List (Bool × Event) :=
  [(true,.call (at_ now)),(true,.finish .returned (at_ now))]

/-- The breaker opens, and two probes close it. -/
def recovery : List (Bool × Event) :=
  failing 1 ++ failing 2 ++ failing 3 ++ passing 13 ++ passing 14

/-- The first caller's call outlasts the failures, and one probe is enough. -/
def lateSuccess : List (Bool × Event) :=
  [(false,.call (at_ 0))] ++ failing 1 ++ failing 2 ++ failing 3 ++
    [(false,.finish .returned (at_ 4))] ++ passing 13

def loggedStep (s : Breaker × List Entry) (caller : Caller) (event : Event) :
    Option ((Breaker × List Entry) × Caller) :=
  (perform cacheBreaker s.1 caller event).map fun next =>
    ((next.1,s.2 ++ observe cacheBreaker s.1 caller event),next.2)

def timelyStep (s : Breaker × List Entry) (caller : Caller) (event : Event) :
    Option ((Breaker × List Entry) × Caller) :=
  if caller = .running false ∧ s.1.state ≠ .closed then none else loggedStep s caller event

theorem loggedStep_step (s : Breaker × List Entry) (caller : Caller) (event : Event)
    (t : Breaker × List Entry) (after : Caller) (taken : loggedStep s caller event = some (t,after)) :
    (logged cacheBreaker).step s caller event t after := by
  obtain ⟨⟨next,later⟩,performed,same⟩ := Option.map_eq_some_iff.mp taken
  obtain ⟨rfl,rfl⟩ := Prod.mk.inj same
  exact ⟨performed,rfl⟩

theorem timelyStep_step (s : Breaker × List Entry) (caller : Caller) (event : Event)
    (t : Breaker × List Entry) (after : Caller) (taken : timelyStep s caller event = some (t,after)) :
    ((logged cacheBreaker).restrict InTime fun _ _ _ _ => True).step s caller event t after := by
  simp only [timelyStep] at taken
  split at taken
  · simp at taken
  · next timely =>
    refine ⟨loggedStep_step _ _ _ _ _ taken,fun running clock _ => ?_⟩
    by_contra late
    exact timely ⟨running,late⟩

theorem recovery_run : ∃ system : System Bool (Breaker × List Entry) Caller,
    Trace (Step ((logged cacheBreaker).restrict InTime fun _ _ _ _ => True)) (fresh Bool) recovery
      system ∧ .turned .halfOpen .closed ∈ system.shared.2 := by
  have closes : (play timelyStep (fresh Bool) recovery).any
      fun system => decide (Entry.turned .halfOpen .closed ∈ system.shared.2) := by decide
  obtain ⟨system,played,closed⟩ := (Option.any_eq_true _ _).mp closes
  exact ⟨system,play_run timelyStep_step (fun _ _ _ _ => ⟨trivial,trivial⟩) played,
    of_decide_eq_true closed⟩

end Sample

open Sample Interleaving in
/-- Two probes close the breaker of caches. -/
theorem recovery_closes : ∃ system : System Bool (Breaker × List Entry) Caller,
    .turned .halfOpen .closed ∈ system.shared.2 ∧ EachEntry (Waited cacheBreaker) system.shared.2 ∧
      EachEntry (Proven cacheBreaker) system.shared.2 := by
  obtain ⟨system,run,closed⟩ := recovery_run
  obtain ⟨-,waited,proven⟩ := closes_on_probes cacheBreaker (run.mono fun step => step.unrestricted)
  exact ⟨system,closed,waited,proven run⟩

open Sample Interleaving in
/-- A success of a call from before the failures and one probe close a breaker that needs two. -/
theorem late_success_closes : ¬∀ (events : List (Bool × Event))
    (system : System Bool (Breaker × List Entry) Caller),
    Trace (Step (logged cacheBreaker)) (fresh Bool) events system →
      EachEntry (Proven cacheBreaker) system.shared.2 := by
  intro always
  have closes : (play loggedStep (fresh Bool) lateSuccess).any fun system =>
      system.shared.2.getLast? = some (.turned .halfOpen .closed) ∧
        probeSuccesses system.shared.2 = 1 := by decide
  obtain ⟨system,played,closed⟩ := (Option.any_eq_true _ _).mp closes
  have run := play_run loggedStep_step (fun _ _ _ _ => trivial) played
  obtain ⟨last,one⟩ := of_decide_eq_true closed
  obtain ⟨past,log⟩ := List.getLast?_eq_some_iff.mp last
  have enough := always _ _ run past _ [] log rfl
  rw [log,probeSuccesses_snoc] at one
  simp only [Entry.restarts,Bool.false_eq_true,if_false,reduceCtorEq] at one
  rw [show probeSuccesses past = 1 from one] at enough
  exact absurd enough (by decide)

end Valdrics.CallBreaker

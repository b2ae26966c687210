import Valdrics.CallBreaker

/-! The circuit breaker of LLM providers: one circuit for each provider, blocks that take the slot
of a probe on entry and leave it to their callers to give it back. Every operation holds the lock,
so that a run of any callers is a list of operations; clocks are read in microseconds. -/
namespace Valdrics.LlmBreaker

open CallBreaker (CircuitState Clock)

structure ProviderCircuit where
  name : String
  state : CircuitState := .closed
  failureCount : Nat := 0
  successCount : Nat := 0
  lastFailureTime : Option Int := none
  lastSuccessTime : Option Int := none
  lastFailureMonotonic : Option Int := none
  lastSuccessMonotonic : Option Int := none
  probeInFlight : Bool := false
  failureThreshold : Int := 3
  successThreshold : Int := 2
  recoveryTimeout : Int := 60
  deriving DecidableEq

namespace ProviderCircuit

variable (circuit : ProviderCircuit) (clock : Clock)

def elapsed : Option Bool :=
  match circuit.lastFailureMonotonic with
  | some failed => some (1000000 * circuit.recoveryTimeout ≤ clock.monotonic - failed)
  | none => circuit.lastFailureTime.map fun failed =>
    1000000 * circuit.recoveryTimeout ≤ clock.time - failed

def isAvailable : Bool × ProviderCircuit :=
  match circuit.state with
  | .closed => (true,circuit)
  | .open_ =>
    if circuit.elapsed clock = some true then (true,{ circuit with state := .halfOpen })
    else (false,circuit)
  | .halfOpen => (true,circuit)

def tryAcquireProbe : Bool × ProviderCircuit :=
  match circuit.state with
  | .closed => (true,circuit)
  | .open_ =>
    if circuit.elapsed clock = some true then
      (true,{ circuit with state := .halfOpen, probeInFlight := true })
    else (false,circuit)
  | .halfOpen =>
    if circuit.probeInFlight then (false,circuit)
    else (true,{ circuit with probeInFlight := true })

def recordSuccess : ProviderCircuit :=
  let counted := { circuit with
    successCount := circuit.successCount + 1
    lastSuccessTime := some clock.time
    lastSuccessMonotonic := some clock.monotonic }
  match counted.state with
  | .halfOpen =>
    if counted.successThreshold ≤ counted.successCount then
      { counted with state := .closed, failureCount := 0, successCount := 0, probeInFlight := false }
    else { counted with probeInFlight := false }
  | .closed => { counted with failureCount := 0, probeInFlight := false }
  | .open_ => counted

def recordFailure : ProviderCircuit :=
  let counted := { circuit with
    failureCount := circuit.failureCount + 1
    lastFailureTime := some clock.time
    lastFailureMonotonic := some clock.monotonic
    successCount := 0
    probeInFlight := false }
  match counted.state with
  | .halfOpen => { counted with state := .open_ }
  | .closed =>
    if counted.failureThreshold ≤ counted.failureCount then { counted with state := .open_ }
    else counted
  | .open_ => counted

end ProviderCircuit

structure LlmCircuitBreaker where
  failureThreshold : Int := 3
  successThreshold : Int := 2
  recoveryTimeout : Int := 60
  circuits : String → Option ProviderCircuit := fun _ => none

namespace LlmCircuitBreaker

variable (breaker : LlmCircuitBreaker) (provider : String)

def newCircuit : ProviderCircuit where
  name := provider
  failureThreshold := breaker.failureThreshold
  successThreshold := breaker.successThreshold
  recoveryTimeout := breaker.recoveryTimeout

/-- `_get_circuit`. -/
def circuit : ProviderCircuit := (breaker.circuits provider).getD (breaker.newCircuit provider)

def put (circuit : ProviderCircuit) : LlmCircuitBreaker :=
  { breaker with circuits := Function.update breaker.circuits provider (some circuit) }

def reset : LlmCircuitBreaker :=
  if (breaker.circuits provider).isSome then breaker.put provider (breaker.newCircuit provider)
  else breaker

end LlmCircuitBreaker

/-- What a block finds raised as it ends: an `Exception`, a fatal exception or another one, such as
the cancellation of its task. -/
inductive Raised where
  | ordinary
  | cancelled
  | fatal
  deriving DecidableEq

inductive Event where
  | isAvailable (provider : String) (clock : Clock)
  | enter (provider : String) (clock : Clock)
  | exit (provider : String) (raised : Option Raised) (clock : Clock)
  | recordSuccess (provider : String) (clock : Clock)
  | recordFailure (provider : String) (clock : Clock)
  | reset (provider : String)

inductive Entry where
  | succeeded (state : CircuitState)
  | turned (before after : CircuitState)
  | reset
  deriving DecidableEq

/-- The breaker, how many blocks run for a provider, and what has been seen of its circuit. -/
structure System where
  breaker : LlmCircuitBreaker
  running : String → Nat := fun _ => 0
  history : String → List Entry := fun _ => []

def turns (before after : ProviderCircuit) : List Entry :=
  if before.state = after.state then [] else [.turned before.state after.state]

def System.write (s : System) (provider : String) (circuit : ProviderCircuit) (running : Nat)
    (entries : List Entry) : System where
  breaker := s.breaker.put provider circuit
  running := Function.update s.running provider running
  history := Function.update s.history provider
    (s.history provider ++ entries ++ turns (s.breaker.circuit provider) circuit)

def exec (s : System) : Event → System × Bool
  | .isAvailable provider clock =>
    let (available,circuit) := (s.breaker.circuit provider).isAvailable clock
    (s.write provider circuit (s.running provider) [],available)
  | .enter provider clock =>
    let (acquired,circuit) := (s.breaker.circuit provider).tryAcquireProbe clock
    (s.write provider circuit (s.running provider + if acquired then 1 else 0) [],acquired)
  | .exit provider raised clock =>
    if s.running provider = 0 then (s,false)
    else
      let circuit := s.breaker.circuit provider
      (s.write provider (if raised = some .ordinary then circuit.recordFailure clock else circuit)
        (s.running provider - 1) [],true)
  | .recordSuccess provider clock =>
    let circuit := s.breaker.circuit provider
    (s.write provider (circuit.recordSuccess clock) (s.running provider)
      [.succeeded circuit.state],true)
  | .recordFailure provider clock =>
    (s.write provider ((s.breaker.circuit provider).recordFailure clock) (s.running provider) [],
      true)
  | .reset provider =>
    ({ s with
      breaker := s.breaker.reset provider
      history := Function.update s.history provider (s.history provider ++ [.reset]) },true)

def Entry.restarts : Entry → Bool
  | turned _ .open_ => true
  | reset => true
  | _ => false

def halfOpenSuccesses (history : List Entry) : Nat :=
  (history.reverse.takeWhile fun entry => !entry.restarts).countP (· = .succeeded .halfOpen)

def Proven (successThreshold : Int) (past : List Entry) (entry : Entry) : Prop :=
  ∀ before, entry = .turned before .closed → successThreshold ≤ halfOpenSuccesses past

/-- Without a block that runs there is no probe in flight, so that a provider that is not within its
recovery timeout can be probed; and circuits close on proof. -/
structure Unwedged (s : System) : Prop where
  idle : ∀ provider, s.running provider = 0 → (s.breaker.circuit provider).probeInFlight = false
  probed : ∀ provider clock, s.running provider = 0 →
    ((s.breaker.circuit provider).state = .open_ →
      (s.breaker.circuit provider).elapsed clock = some true) →
    ((s.breaker.circuit provider).tryAcquireProbe clock).1 = true
  closes : ∀ provider, EachEntry (Proven s.breaker.successThreshold) (s.history provider)

/-- The last block of a provider ends with an ordinary exception or after its probe has been given
back, and no success is recorded while the circuit is open. -/
def Careful (s : System) : Event → Prop
  | .exit provider raised _ => raised ≠ some .ordinary → s.running provider = 1 →
    (s.breaker.circuit provider).probeInFlight = false
  | .recordSuccess provider _ => (s.breaker.circuit provider).state ≠ .open_
  | _ => True

instance (s : System) : (event : Event) → Decidable (Careful s event)
  | .exit .. => inferInstanceAs (Decidable (_ → _ → _))
  | .recordSuccess .. => inferInstanceAs (Decidable (_ ≠ _))
  | .isAvailable .. => .isTrue trivial
  | .enter .. => .isTrue trivial
  | .recordFailure .. => .isTrue trivial
  | .reset .. => .isTrue trivial

section Circuits

variable {threshold : Int} {circuit : ProviderCircuit} {running : Nat} {history : List Entry}
  {clock : Clock}

@[simp] theorem halfOpenSuccesses_snoc (entry : Entry) :
    halfOpenSuccesses (history ++ [entry]) = if entry.restarts then 0
      else halfOpenSuccesses history + if entry = .succeeded .halfOpen then 1 else 0 := by
  cases restarts : entry.restarts with
  | true => simp [halfOpenSuccesses,restarts]
  | false => simp [halfOpenSuccesses,restarts,List.countP_cons]

/-- What holds of one circuit, with the blocks that run and its history: outside the closed state
every counted success was recorded half-open. -/
structure Sound (threshold : Int) (circuit : ProviderCircuit) (running : Nat)
    (history : List Entry) : Prop where
  threshold_eq : circuit.successThreshold = threshold
  idle : running = 0 → circuit.probeInFlight = false
  counted : circuit.state ≠ .closed → circuit.successCount ≤ halfOpenSuccesses history
  proven : EachEntry (Proven threshold) history

theorem Sound.turn {before next : ProviderCircuit} {running' : Nat}
    (sound : Sound threshold circuit running history) (was : before.state = circuit.state)
    (same : next.successThreshold = circuit.successThreshold)
    (idle : running' = 0 → next.probeInFlight = false)
    (kept : next.state ≠ .closed → circuit.state ≠ .closed ∧
      next.successCount ≤ circuit.successCount ∨ next.successCount = 0)
    (opens : next.state = .open_ → circuit.state ≠ .open_ → next.successCount = 0)
    (closing : circuit.state ≠ .closed → next.state = .closed →
      threshold ≤ halfOpenSuccesses history) :
    Sound threshold next running' (history ++ turns before next) := by
  unfold turns
  rw [was]
  refine ⟨same.trans sound.threshold_eq,idle,fun away => ?_,?_⟩
  · rcases kept away with ⟨before,fewer⟩ | none_
    · split
      · rw [List.append_nil]
        exact Nat.le_trans fewer (sound.counted before)
      · next changed =>
        cases state : next.state with
        | open_ => rw [opens state fun was => changed (was.trans state.symm)]; exact Nat.zero_le _
        | closed => exact absurd state away
        | halfOpen =>
          rw [halfOpenSuccesses_snoc]
          exact Nat.le_trans fewer (sound.counted before)
    · rw [none_]
      exact Nat.zero_le _
  · split
    · rw [List.append_nil]
      exact sound.proven
    · next changed =>
      refine sound.proven.snoc fun before closed => ?_
      obtain ⟨-,closed⟩ := Entry.turned.inj closed
      exact closing (fun was => changed (was.trans closed.symm)) closed

theorem isAvailable_sound (sound : Sound threshold circuit running history) :
    Sound threshold (circuit.isAvailable clock).2 running
      (history ++ turns circuit (circuit.isAvailable clock).2) := by
  have idle := sound.idle
  cases state : circuit.state with
  | closed => refine sound.turn rfl ?_ ?_ ?_ ?_ ?_ <;> simp_all [ProviderCircuit.isAvailable]
  | halfOpen => refine sound.turn rfl ?_ ?_ ?_ ?_ ?_ <;> simp_all [ProviderCircuit.isAvailable]
  | open_ =>
    by_cases rested : circuit.elapsed clock = some true
    · refine sound.turn rfl ?_ ?_ ?_ ?_ ?_ <;> simp_all [ProviderCircuit.isAvailable]
    · refine sound.turn rfl ?_ ?_ ?_ ?_ ?_ <;> simp_all [ProviderCircuit.isAvailable]

theorem tryAcquireProbe_sound (sound : Sound threshold circuit running history) :
    Sound threshold (circuit.tryAcquireProbe clock).2
      (running + if (circuit.tryAcquireProbe clock).1 then 1 else 0)
      (history ++ turns circuit (circuit.tryAcquireProbe clock).2) := by
  have idle := sound.idle
  cases state : circuit.state with
  | closed => refine sound.turn rfl ?_ ?_ ?_ ?_ ?_ <;> simp_all [ProviderCircuit.tryAcquireProbe]
  | halfOpen =>
    cases probe : circuit.probeInFlight with
    | true => refine sound.turn rfl ?_ ?_ ?_ ?_ ?_ <;> simp_all [ProviderCircuit.tryAcquireProbe]
    | false => refine sound.turn rfl ?_ ?_ ?_ ?_ ?_ <;> simp_all [ProviderCircuit.tryAcquireProbe]
  | open_ =>
    by_cases rested : circuit.elapsed clock = some true
    · refine sound.turn rfl ?_ ?_ ?_ ?_ ?_ <;> simp_all [ProviderCircuit.tryAcquireProbe]
    · refine sound.turn rfl ?_ ?_ ?_ ?_ ?_ <;> simp_all [ProviderCircuit.tryAcquireProbe]

/-- A failure gives the probe back and takes the counter to zero. -/
theorem recordFailure_sound (sound : Sound threshold circuit running history) (running' : Nat) :
    Sound threshold (circuit.recordFailure clock) running'
      (history ++ turns circuit (circuit.recordFailure clock)) := by
  have none_ : (circuit.recordFailure clock).successCount = 0 ∧
      (circuit.recordFailure clock).probeInFlight = false ∧
      (circuit.recordFailure clock).successThreshold = circuit.successThreshold := by
    simp only [ProviderCircuit.recordFailure]
    cases circuit.state with
    | halfOpen => exact ⟨rfl,rfl,rfl⟩
    | open_ => exact ⟨rfl,rfl,rfl⟩
    | closed =>
      dsimp only
      split <;> exact ⟨rfl,rfl,rfl⟩
  refine sound.turn rfl none_.2.2 (fun _ => none_.2.1) (fun _ => .inr none_.1) (fun _ _ => none_.1)
    fun away closed => ?_
  simp only [ProviderCircuit.recordFailure] at closed
  cases state : circuit.state with
  | closed => exact absurd state away
  | halfOpen => simp [state] at closed
  | open_ => simp [state] at closed

theorem Sound.succeed (sound : Sound threshold circuit running history)
    (notOpen : circuit.state ≠ .open_) (counted : ProviderCircuit)
    (state : counted.state = circuit.state)
    (count : counted.successCount = circuit.successCount + 1)
    (same : counted.successThreshold = circuit.successThreshold)
    (probe : counted.probeInFlight = circuit.probeInFlight) :
    Sound threshold counted running (history ++ [.succeeded circuit.state]) := by
  refine ⟨same.trans sound.threshold_eq,fun none_ => probe.trans (sound.idle none_),fun away => ?_,
    sound.proven.snoc fun before other => by simp at other⟩
  rw [state] at away
  have half : circuit.state = .halfOpen := by
    cases was : circuit.state with
    | closed => exact absurd was away
    | open_ => exact absurd was notOpen
    | halfOpen => rfl
  have before := sound.counted away
  rw [halfOpenSuccesses_snoc,half,count]
  simpa [Entry.restarts] using before

theorem recordSuccess_sound (sound : Sound threshold circuit running history)
    (notOpen : circuit.state ≠ .open_) : Sound threshold (circuit.recordSuccess clock) running
      (history ++ [.succeeded circuit.state] ++ turns circuit (circuit.recordSuccess clock)) := by
  have counted := sound.succeed notOpen { circuit with
    successCount := circuit.successCount + 1
    lastSuccessTime := some clock.time
    lastSuccessMonotonic := some clock.monotonic } rfl rfl rfl rfl
  simp only [ProviderCircuit.recordSuccess]
  cases state : circuit.state with
  | open_ => exact absurd state notOpen
  | closed =>
    rw [state] at counted
    exact counted.turn state rfl (fun _ => rfl) (fun away => absurd rfl away)
      (fun opened => by simp at opened) fun away => absurd rfl away
  | halfOpen =>
    rw [state] at counted
    dsimp only
    split
    · next enough =>
      refine counted.turn state rfl (fun _ => rfl) (fun away => absurd rfl away)
        (fun opened => by simp at opened) fun away _ => ?_
      rw [sound.threshold_eq] at enough
      exact Int.le_trans enough (Int.ofNat_le.mpr (counted.counted away))
    · exact counted.turn state rfl (fun _ => rfl) (fun away => .inl ⟨away,Nat.le_refl _⟩)
        (fun opened => by simp at opened) fun away closed => by simp at closed

end Circuits

section Runs

variable {s : System}

def AllSound (s : System) : Prop :=
  ∀ provider, Sound s.breaker.successThreshold (s.breaker.circuit provider) (s.running provider)
    (s.history provider)

@[simp] theorem circuit_put (breaker : LlmCircuitBreaker) (provider other : String)
    (circuit : ProviderCircuit) : (breaker.put provider circuit).circuit other =
      if other = provider then circuit else breaker.circuit other := by
  by_cases same : other = provider
  · simp [LlmCircuitBreaker.put,LlmCircuitBreaker.circuit,same]
  · simp [LlmCircuitBreaker.put,LlmCircuitBreaker.circuit,LlmCircuitBreaker.newCircuit,same]

theorem write_sound (all : AllSound s) {provider : String} {circuit : ProviderCircuit}
    {running : Nat} {entries : List Entry}
    (own : Sound s.breaker.successThreshold circuit running
      (s.history provider ++ entries ++ turns (s.breaker.circuit provider) circuit)) :
    AllSound (s.write provider circuit running entries) := by
  intro other
  have threshold : (s.breaker.put provider circuit).successThreshold =
    s.breaker.successThreshold := rfl
  by_cases same : other = provider
  · subst same
    simpa [System.write,threshold] using own
  · simpa [System.write,threshold,same] using all other

theorem exec_sound (s : System) (event : Event) (all : AllSound s) (careful : Careful s event) :
    AllSound (exec s event).1 := by
  cases event with
  | isAvailable provider clock =>
    refine write_sound all ?_
    rw [List.append_nil]
    exact isAvailable_sound (all provider)
  | enter provider clock =>
    refine write_sound all ?_
    rw [List.append_nil]
    exact tryAcquireProbe_sound (all provider)
  | recordSuccess provider clock =>
    exact write_sound all (recordSuccess_sound (all provider) careful)
  | recordFailure provider clock =>
    refine write_sound all ?_
    rw [List.append_nil]
    exact recordFailure_sound (all provider) _
  | exit provider raised clock =>
    simp only [exec]
    split
    · exact all
    · next some_ =>
      refine write_sound all ?_
      rw [List.append_nil]
      split
      · exact recordFailure_sound (all provider) _
      · next other =>
        have sound := all provider
        have still : turns (s.breaker.circuit provider) (s.breaker.circuit provider) = [] :=
          if_pos rfl
        rw [still,List.append_nil]
        refine ⟨sound.threshold_eq,fun last => careful other ?_,sound.counted,sound.proven⟩
        omega
  | reset provider =>
    have same : (s.breaker.reset provider).successThreshold = s.breaker.successThreshold := by
      simp only [LlmCircuitBreaker.reset]
      split <;> rfl
    intro other
    have sound := all other
    by_cases own : other = provider
    · subst own
      have circuit : (s.breaker.reset other).circuit other = s.breaker.newCircuit other := by
        simp only [LlmCircuitBreaker.reset]
        split
        · simp
        · next none_ =>
          have absent : s.breaker.circuits other = none := by simpa using none_
          simp [LlmCircuitBreaker.circuit,absent]
      simp only [exec,circuit,same,Function.update_self]
      exact ⟨rfl,fun _ => rfl,fun away => absurd rfl away,
        sound.proven.snoc fun before closed => by simp at closed⟩
    · have circuit : (s.breaker.reset provider).circuit other = s.breaker.circuit other := by
        simp only [LlmCircuitBreaker.reset]
        split
        · simp [own]
        · rfl
      simpa [exec,circuit,same,own] using sound

theorem unwedged (s : System) (all : AllSound s) : Unwedged s := by
  refine ⟨fun provider => (all provider).idle,fun provider clock none_ rested => ?_,
    fun provider => (all provider).proven⟩
  have free := (all provider).idle none_
  simp only [ProviderCircuit.tryAcquireProbe]
  cases state : (s.breaker.circuit provider).state with
  | closed => rfl
  | open_ => simp [rested state]
  | halfOpen => simp [free]

def fresh (failureThreshold successThreshold recoveryTimeout : Int) : System where
  breaker := { failureThreshold, successThreshold, recoveryTimeout }

/-- In a run whose steps are careful no provider is ever wedged. -/
theorem careful_unwedged (failureThreshold successThreshold recoveryTimeout : Int)
    (events : List Event) (careful : EachStep exec Careful
      (fresh failureThreshold successThreshold recoveryTimeout) events) :
    Always exec Unwedged (fresh failureThreshold successThreshold recoveryTimeout) events := by
  refine careful.always AllSound unwedged exec_sound fun provider => ?_
  exact ⟨rfl,fun _ => rfl,fun away => absurd rfl away,EachEntry.nil⟩

end Runs

namespace Sample

def at_ (seconds : Int) : Clock := ⟨1000000 * seconds,1000000 * seconds⟩

def failing (seconds : Int) : List Event :=
  [.enter "groq" (at_ seconds),.exit "groq" (some .ordinary) (at_ seconds)]

def passing (seconds : Int) : List Event :=
  [.enter "groq" (at_ seconds),.recordSuccess "groq" (at_ seconds),.exit "groq" none (at_ seconds)]

/-- The circuit opens, and two probes close it. -/
def recovery : List Event := failing 1 ++ failing 2 ++ failing 3 ++ passing 63 ++ passing 64

def cancelledProbe : List Event := failing 1 ++ failing 2 ++ failing 3 ++
  [.enter "groq" (at_ 63),.exit "groq" (some .cancelled) (at_ 64)]

def lateSuccess : List Event := [.enter "groq" (at_ 0)] ++ failing 1 ++ failing 2 ++ failing 3 ++
  [.recordSuccess "groq" (at_ 4),.exit "groq" none (at_ 4)] ++ passing 63

end Sample

open Sample in
/-- Two probes close the circuit of a provider. -/
theorem recovery_unwedged : ((finalState exec (fresh 3 2 60) recovery).breaker.circuit "groq").state =
    .closed ∧ Always exec Unwedged (fresh 3 2 60) recovery :=
  ⟨by decide,careful_unwedged 3 2 60 recovery (by decide)⟩

open Sample in
/-- A cancelled probe stays in flight, and a success that was recorded in the open circuit closes it
with one probe. -/
theorem cancelled_or_late : ¬Always exec Unwedged (fresh 3 2 60) cancelledProbe ∧
    ¬Always exec Unwedged (fresh 3 2 60) lateSuccess := by
  refine ⟨fun always => ?_,fun always => ?_⟩
  · have free := always.final.idle "groq" (by decide)
    exact absurd free (by decide)
  · have log : (finalState exec (fresh 3 2 60) lateSuccess).history "groq" =
        [.turned .closed .open_,.succeeded .open_,.turned .open_ .halfOpen,.succeeded .halfOpen] ++
          .turned .halfOpen .closed :: [] := by decide
    have enough := always.final.closes "groq" _ _ _ log .halfOpen rfl
    exact absurd enough (by decide)

end Valdrics.LlmBreaker

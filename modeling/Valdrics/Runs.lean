/-! Finite runs of a step relation or of a step function, invariants over every
run, and the unwinding rule: what a run shows of the events it keeps is what the
run of those events alone shows. -/
namespace Valdrics

/-- A finite run; a prefix of a run is a run, and no step is implicit. -/
inductive Trace (step : σ → ε → σ → Prop) : σ → List ε → σ → Prop where
  | stop : Trace step s [] s
  | go : step s event t → Trace step t events u → Trace step s (event :: events) u

namespace Trace

variable {step : σ → ε → σ → Prop}

theorem trans {xs ys : List ε} (before : Trace step s xs t) (after : Trace step t ys u) :
    Trace step s (xs ++ ys) u := by
  induction before with
  | stop => exact after
  | go taken _ ih => exact .go taken (ih after)

/-- Induction over a run, with what each step starts from and what it reaches. -/
theorem keeps (holds : σ → Prop)
    (stable : ∀ {s event t}, step s event t → holds s → holds t)
    {events : List ε} (trace : Trace step s events u) : holds s → holds u := by
  induction trace with
  | stop => exact id
  | go taken _ ih => exact fun before => ih (stable taken before)

/-- Induction over a run that remembers the events so far. -/
theorem records (holds : List ε → σ → Prop)
    (stable : ∀ {past s event t}, step s event t → holds past s → holds (past ++ [event]) t)
    {events : List ε} (trace : Trace step s events u) (past : List ε) (before : holds past s) :
    holds (past ++ events) u := by
  induction trace generalizing past with
  | stop => simpa using before
  | go taken _ ih =>
    have later := ih _ (stable taken before)
    simpa using later

/-- A run of a relation all of whose steps are steps of another. -/
theorem mono {step' : σ → ε → σ → Prop} (weaker : ∀ {s event t}, step s event t → step' s event t)
    {events : List ε} (trace : Trace step s events u) : Trace step' s events u := by
  induction trace with
  | stop => exact .stop
  | go taken _ ih => exact .go (weaker taken) ih

end Trace

def Reachable (initial : σ → Prop) (step : σ → ε → σ → Prop) (s : σ) : Prop :=
  ∃ start events, initial start ∧ Trace step start events s

theorem Reachable.induct {initial : σ → Prop} {step : σ → ε → σ → Prop} (holds : σ → Prop)
    (starts : ∀ {s}, initial s → holds s)
    (stable : ∀ {s event t}, step s event t → holds s → holds t)
    (reachable : Reachable initial step s) : holds s := by
  obtain ⟨start,events,isInitial,trace⟩ := reachable
  exact trace.keeps holds stable (starts isInitial)

def finalState (exec : σ → ε → σ × ω) : σ → List ε → σ
  | s, [] => s
  | s, event :: rest => finalState exec (exec s event).1 rest

/-- What the run shows of the events that are kept. -/
def outputs (exec : σ → ε → σ × ω) (keep : ε → Bool) : σ → List ε → List ω
  | _, [] => []
  | s, event :: rest =>
    if keep event then (exec s event).2 :: outputs exec keep (exec s event).1 rest
    else outputs exec keep (exec s event).1 rest

/-- Every step of the run meets the guard in the state it is taken from. -/
def EachStep (exec : σ → ε → σ × ω) (guard : σ → ε → Prop) : σ → List ε → Prop
  | _, [] => True
  | s, event :: rest => guard s event ∧ EachStep exec guard (exec s event).1 rest

instance EachStep.decide {exec : σ → ε → σ × ω} {guard : σ → ε → Prop}
    [each : ∀ s event, Decidable (guard s event)] :
    ∀ (s : σ) (events : List ε), Decidable (EachStep exec guard s events)
  | _, [] => .isTrue trivial
  | s, event :: rest =>
    have : Decidable (EachStep exec guard (exec s event).1 rest) := EachStep.decide _ rest
    inferInstanceAs (Decidable (_ ∧ _))

/-- A step function whose every event is a step of a relation runs along it. -/
theorem trace_finalState {exec : σ → ε → σ × ω} {step : σ → ε → σ → Prop} (events : List ε) (s : σ)
    (steps : ∀ t, ∀ event ∈ events, step t event (exec t event).1) :
    Trace step s events (finalState exec s events) := by
  induction events generalizing s with
  | nil => exact .stop
  | cons event rest ih =>
    exact .go (steps s event List.mem_cons_self)
      (ih _ fun t next listed => steps t next (List.mem_cons_of_mem event listed))

theorem EachStep.and {exec : σ → ε → σ × ω} {guard guard' : σ → ε → Prop} {s : σ} {events : List ε}
    (first : EachStep exec guard s events) (second : EachStep exec guard' s events) :
    EachStep exec (fun s event => guard s event ∧ guard' s event) s events := by
  induction events generalizing s with
  | nil => trivial
  | cons event rest ih => exact ⟨⟨first.1,second.1⟩,ih first.2 second.2⟩

/-- A property of the events themselves joins the guard of every step. -/
theorem EachStep.and_all {exec : σ → ε → σ × ω} {guard : σ → ε → Prop} {property : ε → Prop}
    (s : σ) (events : List ε) (each : EachStep exec guard s events)
    (all : ∀ event ∈ events, property event) :
    EachStep exec (fun s event => property event ∧ guard s event) s events := by
  induction events generalizing s with
  | nil => trivial
  | cons event rest ih =>
    exact ⟨⟨all event List.mem_cons_self,each.1⟩,
      ih _ each.2 fun later member => all later (List.mem_cons_of_mem _ member)⟩

theorem finalState_invariant (exec : σ → ε → σ × ω) (guard : σ → ε → Prop)
    (property : σ → Prop)
    (preserved : ∀ s event, property s → guard s event → property (exec s event).1)
    (s : σ) (events : List ε) (each : EachStep exec guard s events) (initial : property s) :
    property (finalState exec s events) := by
  induction events generalizing s with
  | nil => exact initial
  | cons event rest ih => exact ih _ each.2 (preserved s event initial each.1)

/-- The property holds in every state that the run reaches, its first one included. -/
def Always (exec : σ → ε → σ × ω) (property : σ → Prop) : σ → List ε → Prop
  | s, [] => property s
  | s, event :: rest => property s ∧ Always exec property (exec s event).1 rest

theorem Always.final {exec : σ → ε → σ × ω} {property : σ → Prop} {s : σ} {events : List ε}
    (always : Always exec property s events) : property (finalState exec s events) := by
  induction events generalizing s with
  | nil => exact always
  | cons event rest ih => exact ih always.2

/-- A law that follows from an invariant holds in every state of a run whose steps are guarded. -/
theorem EachStep.always {exec : σ → ε → σ × ω} {guard : σ → ε → Prop} {property : σ → Prop}
    (invariant : σ → Prop) (holds : ∀ s, invariant s → property s)
    (keeps : ∀ s event, invariant s → guard s event → invariant (exec s event).1)
    {s : σ} {events : List ε} (each : EachStep exec guard s events) (initial : invariant s) :
    Always exec property s events := by
  induction events generalizing s with
  | nil => exact holds s initial
  | cons event rest ih =>
    exact ⟨holds s initial,ih each.2 (keeps s event initial each.1)⟩

/-- A run law with its exact condition, on the runs that a base condition admits: under the
invariant the property holds, a guarded step keeps the invariant, and a step without the guard
breaks the property at once. -/
theorem always_iff_eachStep_within (exec : σ → ε → σ × ω) (base guard : σ → ε → Prop)
    (property invariant : σ → Prop) (holds : ∀ s, invariant s → property s)
    (keeps : ∀ s event, invariant s → base s event → guard s event → invariant (exec s event).1)
    (breaks : ∀ s event, invariant s → base s event → ¬guard s event → ¬property (exec s event).1)
    (s : σ) (events : List ε) (initial : invariant s) (admitted : EachStep exec base s events) :
    Always exec property s events ↔ EachStep exec guard s events := by
  induction events generalizing s with
  | nil => exact ⟨fun _ => trivial,fun _ => holds s initial⟩
  | cons event rest ih =>
    constructor
    · intro always
      by_cases guarded : guard s event
      · exact ⟨guarded,(ih _ (keeps s event initial admitted.1 guarded) admitted.2).mp always.2⟩
      · have reached : property (exec s event).1 := by
          cases rest with
          | nil => exact always.2
          | cons next rest => exact always.2.1
        exact absurd reached (breaks s event initial admitted.1 guarded)
    · intro each
      exact ⟨holds s initial,(ih _ (keeps s event initial admitted.1 each.1) admitted.2).mpr each.2⟩

theorem EachStep.of_forall {exec : σ → ε → σ × ω} {guard : σ → ε → Prop}
    (always : ∀ s event, guard s event) (s : σ) (events : List ε) : EachStep exec guard s events := by
  induction events generalizing s with
  | nil => trivial
  | cons event rest ih => exact ⟨always s event,ih _⟩

theorem always_iff_eachStep (exec : σ → ε → σ × ω) (guard : σ → ε → Prop)
    (property invariant : σ → Prop) (holds : ∀ s, invariant s → property s)
    (keeps : ∀ s event, invariant s → guard s event → invariant (exec s event).1)
    (breaks : ∀ s event, invariant s → ¬guard s event → ¬property (exec s event).1)
    (s : σ) (events : List ε) (initial : invariant s) :
    Always exec property s events ↔ EachStep exec guard s events :=
  always_iff_eachStep_within exec (fun _ _ => True) guard property invariant holds
    (fun s event kept _ => keeps s event kept) (fun s event kept _ => breaks s event kept)
    s events initial (EachStep.of_forall (fun _ _ => trivial) s events)

/-- Two conditions on steps that agree under an invariant agree on every run from it. -/
theorem eachStep_iff_eachStep (exec : σ → ε → σ × ω) (property guard : σ → ε → Prop)
    (invariant : σ → Prop) (keeps : ∀ s event, invariant s → invariant (exec s event).1)
    (same : ∀ s event, invariant s → (property s event ↔ guard s event))
    (s : σ) (events : List ε) (initial : invariant s) :
    EachStep exec property s events ↔ EachStep exec guard s events := by
  induction events generalizing s with
  | nil => exact Iff.rfl
  | cons event rest ih => exact and_congr (same s event initial) (ih _ (keeps s event initial))

/-- A step function that keeps a history beside the state. -/
def withHistory (exec : σ → ε → σ × ω) (note : γ → σ → ε → σ × ω → γ) (s : σ × γ) (event : ε) :
    (σ × γ) × ω :=
  (((exec s.1 event).1,note s.2 s.1 event (exec s.1 event)),(exec s.1 event).2)

@[simp] theorem withHistory_state (exec : σ → ε → σ × ω) (note : γ → σ → ε → σ × ω → γ)
    (s : σ × γ) (event : ε) : (withHistory exec note s event).1.1 = (exec s.1 event).1 := rfl

@[simp] theorem withHistory_history (exec : σ → ε → σ × ω) (note : γ → σ → ε → σ × ω → γ)
    (s : σ × γ) (event : ε) :
    (withHistory exec note s event).1.2 = note s.2 s.1 event (exec s.1 event) := rfl

/-- The unwinding rule for runs whose steps are guarded. -/
theorem outputs_unwinding (exec : σ → ε → σ × ω) (keep : ε → Bool) (guard : σ → ε → Prop)
    (related : σ → σ → Prop)
    (kept : ∀ s t event, related s t → keep event = true → guard s event →
      related (exec s event).1 (exec t event).1 ∧ (exec s event).2 = (exec t event).2)
    (dropped : ∀ s t event, related s t → keep event = false → guard s event →
      related (exec s event).1 t)
    (s t : σ) (events : List ε) (initial : related s t) (each : EachStep exec guard s events) :
    outputs exec keep s events = outputs exec keep t (events.filter keep) := by
  induction events generalizing s t with
  | nil => rfl
  | cons event rest ih =>
    cases observed : keep event with
    | false =>
      simp only [List.filter_cons,observed,Bool.false_eq_true,if_false,outputs]
      exact ih _ _ (dropped s t event initial observed each.1) each.2
    | true =>
      obtain ⟨next,same⟩ := kept s t event initial observed each.1
      simp only [List.filter_cons,observed,if_true,outputs,same]
      rw [ih _ _ next each.2]

/-- Unwinding: a relation that kept events carry along on both sides, and that dropped
events keep by moving the left side alone. The kept outputs agree exactly when each step
meets the guard, if without it the two sides show different outputs. -/
theorem outputs_unwinding_iff (exec : σ → ε → σ × ω) (keep : ε → Bool) (base guard : σ → ε → Prop)
    (related : σ → σ → Prop)
    (kept : ∀ s t event, related s t → base s event → keep event = true → guard s event →
      related (exec s event).1 (exec t event).1 ∧ (exec s event).2 = (exec t event).2)
    (dropped : ∀ s t event, related s t → base s event → keep event = false →
      guard s event ∧ related (exec s event).1 t)
    (differs : ∀ s t event, related s t → base s event → keep event = true → ¬guard s event →
      (exec s event).2 ≠ (exec t event).2)
    (s t : σ) (events : List ε) (initial : related s t) (each : EachStep exec base s events) :
    outputs exec keep s events = outputs exec keep t (events.filter keep) ↔
      EachStep exec guard s events := by
  induction events generalizing s t with
  | nil => simp [outputs,EachStep]
  | cons event rest ih =>
    cases observed : keep event with
    | false =>
      obtain ⟨free,next⟩ := dropped s t event initial each.1 observed
      simp only [List.filter_cons,observed,Bool.false_eq_true,if_false,outputs,EachStep]
      rw [ih _ _ next each.2]
      exact (and_iff_right free).symm
    | true =>
      simp only [List.filter_cons,observed,if_true,outputs,EachStep,List.cons.injEq]
      by_cases guarded : guard s event
      · obtain ⟨next,same⟩ := kept s t event initial each.1 observed guarded
        rw [ih _ _ next each.2]
        simp [guarded,same]
      · have apart := differs s t event initial each.1 observed guarded
        simp [guarded,apart]

theorem mapM_mem {α β : Type} {f : α → Option β} {items : List α} {made : List β}
    (returned : items.mapM f = some made) {result : β} (listed : result ∈ made) :
    ∃ item ∈ items, f item = some result := by
  induction items generalizing made with
  | nil =>
    obtain rfl := Option.some.inj returned
    simp at listed
  | cons item items ih =>
    simp only [List.mapM_cons,Option.bind_eq_bind,Option.bind_eq_some_iff] at returned
    obtain ⟨first,own,rest,others,same⟩ := returned
    obtain rfl := Option.some.inj same
    rcases List.mem_cons.mp listed with rfl | listed
    · exact ⟨item,List.mem_cons_self,own⟩
    · obtain ⟨other,member,own⟩ := ih others listed
      exact ⟨other,List.mem_cons_of_mem _ member,own⟩

end Valdrics

import Mathlib.Logic.Function.Basic
import Valdrics.Runs

/-! Parties that share a state and take their steps in any order. A step is blocked while
another party's phase does not permit it, as a lock does. The rule for invariants asks
that a step keeps its own party's assertion and does not interfere with another's. -/
namespace Valdrics

/-- A step function of one party: what it does to the shared state and to its phase, and
what a phase permits the other parties to do. -/
structure Protocol (σ φ ε : Type) where
  step : σ → φ → ε → σ → φ → Prop
  permits : φ → σ → σ → φ → Prop

def Protocol.restrict (protocol : Protocol σ φ ε) (guard : σ → φ → ε → Prop)
    (yields : φ → σ → σ → φ → Prop) : Protocol σ φ ε where
  step s a event t b := protocol.step s a event t b ∧ guard s a event
  permits other s t b := protocol.permits other s t b ∧ yields other s t b

def Protocol.record (protocol : Protocol σ φ ε) (observe : σ → φ → ε → List ω) :
    Protocol (σ × List ω) φ ε where
  step s a event t b := protocol.step s.1 a event t.1 b ∧ t.2 = s.2 ++ observe s.1 a event
  permits other s t b := protocol.permits other s.1 t.1 b

def EachEntry (law : List ω → ω → Prop) (log : List ω) : Prop :=
  ∀ past entry later, log = past ++ entry :: later → law past entry

theorem EachEntry.nil {law : List ω → ω → Prop} : EachEntry law [] := by
  intro past entry later split
  simp at split

theorem EachEntry.append {law : List ω → ω → Prop} {log entries : List ω}
    (kept : EachEntry law log)
    (new : ∀ past entry later, entries = past ++ entry :: later → law (log ++ past) entry) :
    EachEntry law (log ++ entries) := by
  intro past entry later split
  rcases List.append_eq_append_iff.mp split with ⟨between,rfl,rest⟩ | ⟨between,whole,rest⟩
  · exact new between entry later rest
  · cases between with
    | nil =>
      rw [List.append_nil] at whole
      subst whole
      simpa using new [] entry later (by simpa using rest.symm)
    | cons first between =>
      obtain ⟨rfl,_⟩ := List.cons.inj rest
      exact kept past entry between whole

theorem EachEntry.snoc {law : List ω → ω → Prop} {log : List ω} {entry : ω}
    (kept : EachEntry law log) (new : law log entry) : EachEntry law (log ++ [entry]) := by
  apply kept.append
  intro past last later split
  cases past with
  | nil =>
    obtain ⟨rfl,_⟩ := List.cons.inj split
    simpa using new
  | cons first past => simp at split

namespace Interleaving

structure System (ι σ φ : Type) where
  shared : σ
  phase : ι → φ

variable {ι σ φ ε : Type} [DecidableEq ι]

/-- One party moves, unless another party's phase blocks it. -/
inductive Step (protocol : Protocol σ φ ε) :
    System ι σ φ → ι × ε → System ι σ φ → Prop where
  | move {system : System ι σ φ} {party : ι} {event : ε} {shared : σ} {phase : φ}
      (taken : protocol.step system.shared (system.phase party) event shared phase)
      (permitted : ∀ other, other ≠ party →
        protocol.permits (system.phase other) system.shared shared phase) :
      Step protocol system (party,event) ⟨shared,Function.update system.phase party phase⟩

/-- What a proof outline must show of one step: that the invariant and the party's own
assertion hold after it, that phases stay compatible, and that no other party's
assertion is disturbed. -/
structure Outline (protocol : Protocol σ φ ε) (invariant : σ → Prop) (holds : σ → φ → Prop)
    (compatible : φ → φ → Prop) : Prop where
  symmetric : ∀ a b, compatible a b → compatible b a
  own : ∀ s a event t b, invariant s → holds s a → protocol.step s a event t b →
    invariant t ∧ holds t b
  exclusive : ∀ s a event t b other, protocol.step s a event t b →
    protocol.permits other s t b → compatible b other
  undisturbed : ∀ s a event t b other, invariant s → holds s a → holds s other →
    compatible a other → protocol.step s a event t b → protocol.permits other s t b →
    holds t other

structure Discipline (protocol : Protocol σ φ ε) (invariant : σ → Prop) (holds : σ → φ → Prop)
    (compatible : φ → φ → Prop) : Prop where
  symmetric : ∀ a b, compatible a b → compatible b a
  own : ∀ s a event t b, invariant s → holds s a → protocol.step s a event t b →
    invariant t ∧ holds t b
  exclusive : ∀ s a event t b other, invariant s → holds s a → holds s other →
    compatible a other → protocol.step s a event t b → protocol.permits other s t b →
    compatible b other
  undisturbed : ∀ s a event t b other, invariant s → holds s a → holds s other →
    compatible a other → protocol.step s a event t b → protocol.permits other s t b →
    holds t other

theorem Outline.discipline {protocol : Protocol σ φ ε} {invariant : σ → Prop}
    {holds : σ → φ → Prop} {compatible : φ → φ → Prop}
    (outline : Outline protocol invariant holds compatible) :
    Discipline protocol invariant holds compatible where
  symmetric := outline.symmetric
  own := outline.own
  exclusive s a event t b other _ _ _ _ taken permitted :=
    outline.exclusive s a event t b other taken permitted
  undisturbed := outline.undisturbed

structure Good (invariant : σ → Prop) (holds : σ → φ → Prop) (compatible : φ → φ → Prop)
    (system : System ι σ φ) : Prop where
  invariant : invariant system.shared
  holds : ∀ party, holds system.shared (system.phase party)
  compatible : ∀ party other, other ≠ party →
    compatible (system.phase party) (system.phase other)

variable {protocol : Protocol σ φ ε} {invariant : σ → Prop} {holds : σ → φ → Prop}
  {compatible : φ → φ → Prop}

theorem Discipline.step (discipline : Discipline protocol invariant holds compatible)
    {system next : System ι σ φ} {event : ι × ε} (step : Step protocol system event next)
    (good : Good invariant holds compatible system) :
    Good invariant holds compatible next := by
  cases step with
  | @move party event shared phase taken permitted =>
    obtain ⟨kept,own⟩ := discipline.own _ _ _ _ _ good.invariant (good.holds party) taken
    refine ⟨kept,?_,?_⟩
    · intro other
      by_cases same : other = party
      · subst same
        simpa using own
      · simpa [Function.update_of_ne same] using
          discipline.undisturbed _ _ _ _ _ _ good.invariant (good.holds party) (good.holds other)
            (good.compatible party other same) taken (permitted other same)
    · intro first second apart
      have after (other : ι) (away : other ≠ party) : compatible phase (system.phase other) :=
        discipline.exclusive _ _ _ _ _ _ good.invariant (good.holds party) (good.holds other)
          (good.compatible party other away) taken (permitted other away)
      by_cases one : first = party
      · subst one
        simpa [Function.update_of_ne apart] using after second apart
      · by_cases two : second = party
        · subst two
          simpa [Function.update_of_ne one] using discipline.symmetric _ _ (after first one)
        · simpa [Function.update_of_ne one,Function.update_of_ne two] using
            good.compatible first second apart

theorem Outline.step (outline : Outline protocol invariant holds compatible)
    {system next : System ι σ φ} {event : ι × ε} (step : Step protocol system event next)
    (good : Good invariant holds compatible system) :
    Good invariant holds compatible next :=
  outline.discipline.step step good

theorem Discipline.run (discipline : Discipline protocol invariant holds compatible)
    {system next : System ι σ φ} {events : List (ι × ε)}
    (run : Trace (Step protocol) system events next)
    (good : Good invariant holds compatible system) :
    Good invariant holds compatible next :=
  run.keeps _ (fun taken good => discipline.step taken good) good

theorem Step.unrestricted {guard : σ → φ → ε → Prop} {yields : φ → σ → σ → φ → Prop}
    {system next : System ι σ φ} {event : ι × ε}
    (step : Step (protocol.restrict guard yields) system event next) :
    Step protocol system event next := by
  cases step with
  | move taken permitted =>
    exact .move taken.1 fun other apart => (permitted other apart).1

theorem Step.weaken {guard weaker : σ → φ → ε → Prop} {yields laxer : φ → σ → σ → φ → Prop}
    {system next : System ι σ φ} {event : ι × ε}
    (guards : ∀ s a e, guard s a e → weaker s a e)
    (yielding : ∀ other s t b, yields other s t b → laxer other s t b)
    (step : Step (protocol.restrict guard yields) system event next) :
    Step (protocol.restrict weaker laxer) system event next := by
  cases step with
  | move taken permitted =>
    refine .move ⟨taken.1,guards _ _ _ taken.2⟩ fun other apart => ?_
    exact ⟨(permitted other apart).1,yielding _ _ _ _ (permitted other apart).2⟩

theorem Outline.reachable (outline : Outline protocol invariant holds compatible)
    {initial : System ι σ φ → Prop}
    (starts : ∀ system, initial system → Good invariant holds compatible system)
    {system : System ι σ φ} (reachable : Reachable initial (Step protocol) system) :
    Good invariant holds compatible system :=
  reachable.induct _ (fun isInitial => starts _ isInitial) fun step good => outline.step step good

/-- A run of parties whose steps are functions, while they are possible. -/
def play (perform : σ → φ → ε → Option (σ × φ)) :
    System ι σ φ → List (ι × ε) → Option (System ι σ φ)
  | system, [] => some system
  | system, (party,event) :: rest =>
    (perform system.shared (system.phase party) event).bind fun next =>
      play perform ⟨next.1,Function.update system.phase party next.2⟩ rest

theorem play_run {perform : σ → φ → ε → Option (σ × φ)}
    (steps : ∀ s a event t b, perform s a event = some (t,b) → protocol.step s a event t b)
    (free : ∀ other s t b, protocol.permits other s t b) {system final : System ι σ φ}
    {events : List (ι × ε)} (played : play perform system events = some final) :
    Trace (Step protocol) system events final := by
  induction events generalizing system with
  | nil =>
    obtain rfl := Option.some.inj played
    exact .stop
  | cons event rest ih =>
    obtain ⟨next,performed,later⟩ := Option.bind_eq_some_iff.mp played
    exact .go (.move (steps _ _ _ _ _ performed) fun _ _ => free _ _ _ _) (ih later)

def Solo (protocol : Protocol σ φ ε) (before : σ × φ) (event : ε) (after : σ × φ) : Prop :=
  protocol.step before.1 before.2 event after.1 after.2

theorem Step.ofSolo {party : ι} {start final : σ × φ} {events : List ε} {phase : ι → φ}
    (run : Trace (Solo protocol) start events final)
    (permit : ∀ other, other ≠ party → ∀ before after next,
      protocol.permits (phase other) before after next) :
    Trace (Step protocol) ⟨start.1,Function.update phase party start.2⟩
      (events.map fun event => (party,event))
      ⟨final.1,Function.update phase party final.2⟩ := by
  induction run with
  | stop => exact .stop
  | @go start event middle events final taken _ ih =>
    have moved : Step protocol ⟨start.1,Function.update phase party start.2⟩ (party,event)
        ⟨middle.1,Function.update (Function.update phase party start.2) party middle.2⟩ := by
      apply Step.move
      · simpa [Solo] using taken
      · intro other apart
        simpa [Function.update_of_ne apart] using permit other apart _ _ _
    rw [Function.update_idem] at moved
    exact .go moved ih

def pair (shared : σ) (first second : φ) : System Bool σ φ :=
  ⟨shared,fun party => if party then second else first⟩

theorem Step.first {shared next : σ} {first second phase : φ} {event : ε}
    (taken : protocol.step shared first event next phase)
    (permitted : protocol.permits second shared next phase) :
    Step protocol (pair shared first second) (false,event) (pair next phase second) := by
  have moved : pair next phase second =
      ⟨next,Function.update (pair shared first second).phase false phase⟩ := by
    simp only [pair,System.mk.injEq,true_and]
    funext party
    cases party with
    | false => simp
    | true => simp
  rw [moved]
  refine .move taken fun other apart => ?_
  cases other with
  | false => exact absurd rfl apart
  | true => exact permitted

theorem Step.second {shared next : σ} {first second phase : φ} {event : ε}
    (taken : protocol.step shared second event next phase)
    (permitted : protocol.permits first shared next phase) :
    Step protocol (pair shared first second) (true,event) (pair next first phase) := by
  have moved : pair next first phase =
      ⟨next,Function.update (pair shared first second).phase true phase⟩ := by
    simp only [pair,System.mk.injEq,true_and]
    funext party
    cases party with
    | false => simp
    | true => simp
  rw [moved]
  refine .move taken fun other apart => ?_
  cases other with
  | false => exact permitted
  | true => exact absurd rfl apart

/-- What the first of two parties does alone it can do beside one that permits everything. -/
theorem first_run {second : φ} {start final : σ × φ} {events : List ε}
    (run : Trace (Solo protocol) start events final)
    (permit : ∀ before after next, protocol.permits second before after next) :
    Trace (Step protocol) (pair start.1 start.2 second) (events.map fun event => (false,event))
      (pair final.1 final.2 second) := by
  induction run with
  | stop => exact .stop
  | go taken _ ih => exact .go (Step.first taken (permit _ _ _)) ih

theorem second_run {first : φ} {start final : σ × φ} {events : List ε}
    (run : Trace (Solo protocol) start events final)
    (permit : ∀ before after next, protocol.permits first before after next) :
    Trace (Step protocol) (pair start.1 first start.2) (events.map fun event => (true,event))
      (pair final.1 first final.2) := by
  induction run with
  | stop => exact .stop
  | go taken _ ih => exact .go (Step.second taken (permit _ _ _)) ih

theorem pair_phase {shared : σ} {phase : φ} (party : Bool) :
    (pair shared phase phase).phase party = phase := by
  cases party with
  | false => rfl
  | true => rfl

end Interleaving

end Valdrics

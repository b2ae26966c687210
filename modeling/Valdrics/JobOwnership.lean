import Valdrics.JobWorkers

/-! One worker for a job. The lock timeout runs from the fetch of the batch, so a job is its
worker's own exactly as long as nobody recovers it while it waits or runs there. -/
namespace Valdrics.Jobs

open Enforcement (Uuid)
open Interleaving (Solo pair)

def JobStatus.terminal : JobStatus → Bool
  | .completed | .deadLetter => true
  | _ => false

namespace WorkerPhase

def InTime (processor : Processor) (other : WorkerPhase) (s _ : Table Uuid BackgroundJob)
    (next : WorkerPhase) : Prop :=
  ∀ now, next = .fetching now → ∀ id ∈ other.held, ∀ job, s.find id = some job →
    job.stale now processor.lockTimeoutMinutes = false

structure Holds (s : Table Uuid BackgroundJob) (phase : WorkerPhase) : Prop where
  distinct : phase.held.Nodup
  rows : ∀ entry ∈ phase.entries, s.find entry.1 = some entry.2 ∧ entry.2.status = .running

def Apart (a b : WorkerPhase) : Prop := ∀ id ∈ a.held, id ∉ b.held

end WorkerPhase

namespace Processor

variable (processor : Processor)

end Processor

namespace Processor

open WorkerPhase (Holds Apart InTime)

variable {processor : Processor} {s t : Table Uuid BackgroundJob} {phase next other : WorkerPhase}
  {event : WorkerEvent} {id : Uuid} {job : BackgroundJob}

theorem due_pending {now : Int} (due : job.due now = true) : job.status = .pending := by
  simp only [BackgroundJob.due,Bool.and_eq_true,decide_eq_true_eq] at due
  exact due.1.1.1

theorem stale_running {now : Int} {minutes : Nat} (stale : job.stale now minutes = true) :
    job.status = .running := by
  simp only [BackgroundJob.stale,Bool.and_eq_true,decide_eq_true_eq] at stale
  exact stale.1.1

theorem fetched_held {now : Int} {chosen : List Uuid} (selected : Selected s (·.due now) chosen) :
    (WorkerPhase.working (fetchedJobs s now chosen)).held = chosen :=
  fetchedJobs_keys selected

theorem Step.own (taken : processor.Step s phase event t next) (holds : Holds s phase) :
    Holds t next := by
  cases taken with
  | enqueue | recover | done | abandon =>
    exact ⟨List.nodup_nil,fun entry member => absurd member List.not_mem_nil⟩
  | start | finish => exact ⟨holds.distinct,holds.rows⟩
  | @fetch s now chosen selected =>
    refine ⟨?_,fun entry member => ?_⟩
    · rw [fetched_held selected]
      exact selected.distinct
    · obtain ⟨listed,job,found,same⟩ := mem_fetchedJobs.mp member
      rw [find_fetchJobs selected.distinct, if_pos listed, found, same]
      exact ⟨rfl,rfl⟩
  | @commit s id copy written rest =>
    obtain ⟨fresh,distinct⟩ := List.nodup_cons.mp holds.distinct
    refine ⟨distinct,fun entry member => ?_⟩
    have listed : entry.1 ∈ rest.map Prod.fst := List.mem_map_of_mem member
    have apart : entry.1 ≠ id := by
      intro same
      exact fresh (same ▸ listed)
    rw [Table.find_update_other _ apart]
    exact holds.rows entry (List.mem_cons_of_mem _ member)

theorem Step.apart (taken : processor.Step s phase event t next) (others : Holds s other)
    (apart : Apart phase other) : Apart next other := by
  intro id here there
  cases taken with
  | enqueue | recover | done | abandon => exact absurd here List.not_mem_nil
  | start | finish => exact apart id here there
  | commit => exact apart id (List.mem_cons_of_mem _ here) there
  | @fetch s now chosen selected =>
    rw [fetched_held selected] at here
    obtain ⟨job,found,due⟩ := selected.matching id here
    obtain ⟨entry,member,rfl⟩ := List.mem_map.mp there
    obtain ⟨same,running⟩ := others.rows entry member
    obtain rfl := Option.some.inj (found.symm.trans same)
    simp [due_pending due] at running

theorem Step.undisturbed (taken : processor.Step s phase event t next) (others : Holds s other)
    (apart : Apart phase other) (inTime : InTime processor other s t next) : Holds t other := by
  refine ⟨others.distinct,fun entry member => ?_⟩
  obtain ⟨found,running⟩ := others.rows entry member
  have held : entry.1 ∈ other.held := List.mem_map_of_mem member
  obtain ⟨later,there,step⟩ := taken.find found
  cases step with
  | kept => exact ⟨there,running⟩
  | recovered recovers stale =>
    simp [inTime _ recovers entry.1 held entry.2 found] at stale
  | fetched _ _ _ due => simp [due_pending due] at running
  | written writes =>
    subst writes
    exact absurd held (apart entry.1 List.mem_cons_self)

theorem Step.terminal (taken : processor.Step s phase event t next) (holds : Holds s phase)
    (found : s.find id = some job) (terminal : job.status.terminal = true) :
    t.find id = some job := by
  obtain ⟨later,there,step⟩ := taken.find found
  cases step with
  | kept => exact there
  | recovered _ stale => simp [stale_running stale,JobStatus.terminal] at terminal
  | fetched _ _ _ due => simp [due_pending due,JobStatus.terminal] at terminal
  | @written copy written rest writes =>
    subst writes
    obtain ⟨same,running⟩ := holds.rows (id,copy) List.mem_cons_self
    obtain rfl := Option.some.inj (found.symm.trans same)
    have status : job.status = .running := running
    simp [status,JobStatus.terminal] at terminal

end Processor

namespace Processor

variable {processor : Processor} {s : Table Uuid BackgroundJob}

theorem solo {t : Table Uuid BackgroundJob} {phase next : WorkerPhase} {event : WorkerEvent}
    (taken : processor.Step s phase event t next) :
    Solo processor.workerProtocol (s,phase) event (t,next) := taken

end Processor

namespace Sample

def processor : Processor := ⟨.asciiOnly,30⟩

def waiting : BackgroundJob := { jobType := "zombie_scan", scheduledFor := 0 }

def fetched : BackgroundJob := waiting.fetch 0

def requeued : BackgroundJob :=
  { fetched with
    errorMessage :=
      some ("Recovered stale RUNNING job after lock timeout (" ++ toString 30 ++ " minutes)")
    status := .pending
    scheduledFor := microseconds 1860
    startedAt := none }

end Sample

end Valdrics.Jobs

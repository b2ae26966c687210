import Valdrics.Interleaving
import Valdrics.JobQueue

/-! Workers that run the job processor side by side. A worker recovers stale jobs, fetches a
batch in a second transaction, and then works through its copies one by one; it may die
anywhere. Each query leaves out what another transaction has locked. -/
namespace Valdrics.Jobs

open Enforcement (Uuid)

structure Processor where
  text : Lowercase
  runningTimeoutMinutes : Nat := 30

def Processor.lockTimeoutMinutes (processor : Processor) : Nat :=
  max 1 processor.runningTimeoutMinutes

structure EnqueueCall where
  id : Uuid
  jobType : String
  tenantId : Option Uuid := none
  scheduledFor : Int
  maxAttempts : Nat := 3

/-- The row of `enqueue_job`. -/
def EnqueueCall.job (call : EnqueueCall) : BackgroundJob where
  jobType := call.jobType
  tenantId := call.tenantId
  scheduledFor := call.scheduledFor
  maxAttempts := call.maxAttempts

inductive WorkerPhase where
  | idle
  | fetching (now : Int)
  | working (jobs : List (Uuid × BackgroundJob))
  | running (id : Uuid) (copy : BackgroundJob) (rest : List (Uuid × BackgroundJob))
  | writing (id : Uuid) (copy written : BackgroundJob) (rest : List (Uuid × BackgroundJob))

namespace WorkerPhase

def entries : WorkerPhase → List (Uuid × BackgroundJob)
  | .working jobs => jobs
  | .running id copy rest | .writing id copy _ rest => (id,copy) :: rest
  | .idle | .fetching _ => []

def held (phase : WorkerPhase) : List Uuid := phase.entries.map Prod.fst

def handles : WorkerPhase → Option Uuid
  | .running id _ _ => some id
  | _ => none

end WorkerPhase

inductive WorkerEvent where
  | enqueue (call : EnqueueCall)
  | recover (now : Int) (chosen : List Uuid)
  | fetch (chosen : List Uuid)
  | start
  | finish (processing : Processing)
  | commit
  | done
  /-- The worker dies, an exception ends its batch, or a commit fails. -/
  | abandon

namespace Processor

variable (processor : Processor)

inductive Step : Table Uuid BackgroundJob → WorkerPhase → WorkerEvent →
    Table Uuid BackgroundJob → WorkerPhase → Prop where
  | enqueue (inserted : s.insert call.id call.job = some t) :
      Step s .idle (.enqueue call) t .idle
  | recover (selected : Selected s (·.stale now processor.lockTimeoutMinutes) chosen)
      (recovered : ∀ id ∈ chosen, ∀ job, s.find id = some job →
        ∃ written, job.recoverStale now processor.lockTimeoutMinutes = .ok written) :
      Step s .idle (.recover now chosen) (recoverJobs s now processor.lockTimeoutMinutes chosen)
        (.fetching now)
  | fetch (selected : Selected s (·.due now) chosen) :
      Step s (.fetching now) (.fetch chosen) (fetchJobs s now chosen)
        (.working (fetchedJobs s now chosen))
  | start : Step s (.working ((jobId,copy) :: rest)) .start s (.running jobId copy rest)
  | finish (processed : processSingleJob processor.text copy processing = .ok written) :
      Step s (.running jobId copy rest) (.finish processing) s (.writing jobId copy written rest)
  | commit : Step s (.writing jobId copy written rest) .commit
      (s.update jobId (·.flush copy written)) (.working rest)
  | done : Step s (.working []) .done s .idle
  | abandon : Step s phase .abandon s .idle

def workerProtocol : Protocol (Table Uuid BackgroundJob) WorkerPhase WorkerEvent where
  step := processor.Step
  permits _ _ _ _ := True

end Processor

section Recover

variable {jobs : Table Uuid BackgroundJob} {now : Int} {minutes : Nat} {chosen : List Uuid}
  {id : Uuid} {job written : BackgroundJob}

theorem find_recoverJobs (distinct : chosen.Nodup) (member : id ∈ chosen)
    (found : jobs.find id = some job) (recovered : job.recoverStale now minutes = .ok written) :
    (recoverJobs jobs now minutes chosen).find id = some written := by
  refine (Table.find_updateAll ?_ (List.mem_map.mpr ⟨id,member,rfl⟩)).trans ?_
  · simpa [List.map_map,Function.comp_def] using distinct
  · rw [found, Option.map_some, recovered]

theorem find_recoverJobs_other (away : id ∉ chosen) :
    (recoverJobs jobs now minutes chosen).find id = jobs.find id := by
  apply Table.find_updateAll_other
  simpa [List.map_map,Function.comp_def] using away

end Recover

inductive RowStep (processor : Processor) (s : Table Uuid BackgroundJob) (phase : WorkerPhase)
    (event : WorkerEvent) (next : WorkerPhase) (id : Uuid) (job : BackgroundJob) :
    BackgroundJob → Prop where
  | kept : RowStep processor s phase event next id job job
  | recovered (recovers : next = .fetching now)
      (stale : job.stale now processor.lockTimeoutMinutes = true)
      (failure : job.recoverStale now processor.lockTimeoutMinutes = .ok written) :
      RowStep processor s phase event next id job written
  | fetched (fetches : phase = .fetching now) (batch : next = .working (fetchedJobs s now chosen))
      (listed : id ∈ chosen) (due : job.due now = true) :
      RowStep processor s phase event next id job (job.fetch now)
  | written (writes : phase = .writing id copy written rest) (commits : event = .commit) :
      RowStep processor s phase event next id job (job.flush copy written)

namespace Processor

variable {processor : Processor} {s t : Table Uuid BackgroundJob} {phase next : WorkerPhase}
  {event : WorkerEvent} {id : Uuid} {job : BackgroundJob}

theorem Step.find (taken : processor.Step s phase event t next) (found : s.find id = some job) :
    ∃ later, t.find id = some later ∧ RowStep processor s phase event next id job later := by
  cases taken with
  | @enqueue s t call inserted =>
    have apart : id ≠ call.id := by
      rintro rfl
      simp [(Table.insert_eq_some inserted).1] at found
    exact ⟨job,by simp [Table.find_insert inserted,apart,found],.kept⟩
  | @recover s now chosen selected recovered =>
    by_cases listed : id ∈ chosen
    · obtain ⟨written,failure⟩ := recovered id listed job found
      obtain ⟨there,same,stale⟩ := selected.matching id listed
      obtain rfl := Option.some.inj (found.symm.trans same)
      exact ⟨written,find_recoverJobs selected.distinct listed found failure,
        .recovered rfl stale failure⟩
    · exact ⟨job,(find_recoverJobs_other listed).trans found,.kept⟩
  | @fetch s now chosen selected =>
    by_cases listed : id ∈ chosen
    · obtain ⟨there,same,due⟩ := selected.matching id listed
      obtain rfl := Option.some.inj (found.symm.trans same)
      refine ⟨job.fetch now,?_,.fetched rfl rfl listed due⟩
      rw [find_fetchJobs selected.distinct, if_pos listed, found]
      rfl
    · refine ⟨job,?_,.kept⟩
      rw [find_fetchJobs selected.distinct, if_neg listed, found]
  | @commit s other copy written rest =>
    by_cases same : id = other
    · subst same
      exact ⟨job.flush copy written,by simp [found],.written rfl rfl⟩
    · exact ⟨job,by rw [Table.find_update_other _ same, found],.kept⟩
  | start | finish | done | abandon => exact ⟨job,found,.kept⟩

theorem Step.found (taken : processor.Step s phase event t next) (found : t.find id = some job) :
    (∃ before, s.find id = some before ∧ RowStep processor s phase event next id before job) ∨
      (s.find id = none ∧ ∃ call : EnqueueCall, event = .enqueue call ∧ id = call.id ∧
        job = call.job) := by
  cases present : s.find id with
  | some before =>
    obtain ⟨later,there,step⟩ := taken.find present
    obtain rfl := Option.some.inj (found.symm.trans there)
    exact Or.inl ⟨before,rfl,step⟩
  | none =>
    cases taken with
    | @enqueue s t call inserted =>
      rw [Table.find_insert inserted] at found
      by_cases same : id = call.id
      · simp only [same,if_true,Option.some.injEq] at found
        exact Or.inr ⟨rfl,call,rfl,same,found.symm⟩
      · simp [same,present] at found
    | @recover s now chosen selected recovered =>
      have away : id ∉ chosen := by
        intro listed
        obtain ⟨there,same,_⟩ := selected.matching id listed
        simp [present] at same
      rw [find_recoverJobs_other away, present] at found
      contradiction
    | @fetch s now chosen selected =>
      have absent : (fetchJobs s now chosen).find id = none := by
        rw [find_fetchJobs selected.distinct, present]
        split <;> rfl
      rw [absent] at found
      contradiction
    | commit => simp [Table.find_update,present] at found
    | start | finish | done | abandon =>
      rw [present] at found
      contradiction

end Processor

end Valdrics.Jobs

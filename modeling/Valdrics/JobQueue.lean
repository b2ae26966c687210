import Valdrics.ActionExecution

/-! The job processor on one batch: what the fetch selects, what the processing of a job
makes of its copy, and the loop over the batch. The payload and the stored result of a job
are left out; of a result the processor reads its failure fields. -/
namespace Valdrics.Jobs

open Enforcement (Uuid flushed flushed_or bind_eq_ok)
open Enforcement.ActionExecution (flushed_same)
open PythonText

inductive JobStatus where
  | pending | running | completed | failed | deadLetter
  deriving DecidableEq, Repr

structure BackgroundJob where
  jobType : String
  tenantId : Option Uuid := none
  status : JobStatus := .pending
  attempts : Nat := 0
  maxAttempts : Nat := 3
  scheduledFor : Int
  startedAt : Option Int := none
  completedAt : Option Int := none
  errorMessage : Option String := none
  isDeleted : Bool := false
  deriving DecidableEq

/-- The classes that the `except` clauses name, and the application's own exceptions. -/
inductive ExceptionClass where
  | permanentJobError | jobExecutionError | runtimeError | timeoutError | osError
  | cancelledError | sqlAlchemyError | typeError | assertionError | attributeError
  | lookupError | unicodeError | arithmeticError | valueError | valdricsException | other
  deriving DecidableEq, Repr

namespace ExceptionClass

def mro : ExceptionClass → List ExceptionClass
  | .permanentJobError => [.permanentJobError,.jobExecutionError,.runtimeError]
  | .jobExecutionError => [.jobExecutionError,.runtimeError]
  | .timeoutError => [.timeoutError,.osError]
  | .unicodeError => [.unicodeError,.valueError]
  | cls => [cls]

def isInstance (cls : ExceptionClass) (errors : List ExceptionClass) : Bool :=
  cls.mro.any (· ∈ errors)

end ExceptionClass

def jobRuntimeRecoverableErrors : List ExceptionClass :=
  [.sqlAlchemyError,.jobExecutionError,.runtimeError,.osError,.timeoutError,.typeError]

def jobRuntimeUnexpectedErrors : List ExceptionClass :=
  [.assertionError,.attributeError,.lookupError,.unicodeError,.arithmeticError,.valueError]

/-- An exception: its nearest class of the list, `type(e).__name__` and `str(e)`. -/
structure Raised where
  cls : ExceptionClass
  typeName : String
  text : String

/-- What the processor reads of a handler's return value. -/
structure HandlerResult where
  isDict : Bool := true
  status : String := ""
  reason : Option String := none
  permanent : Bool := false
  serializable : Bool := true

/-- What comes out of a handler's savepoint, and the clock readings around it. -/
structure Processing where
  begunAt : Int
  outcome : Except Raised HandlerResult
  endedAt : Int

def maxJobsPerBatch : Nat := 10

def backoffBaseSeconds : Nat := 60

def jobTimeoutSeconds : Nat := 300

def microseconds (seconds : Nat) : Int := seconds * 1000000

/-- `datetime.max`. -/
def maxInstant : Int := 253402300799999999

/-- `now + timedelta(seconds=…)`. -/
def after (now : Int) (seconds : Nat) : Except Raised Int :=
  if now + microseconds seconds ≤ maxInstant then .ok (now + microseconds seconds)
  else .error ⟨.arithmeticError,"OverflowError","date value out of range"⟩

def raiseForFailedResult (text : Lowercase) (result : HandlerResult) : Except Raised Unit :=
  let status := text.lower (strip result.status)
  if result.isDict = true ∧ status ∈ ["error","failed","enqueue_failed"] then
    let message := "Handler returned " ++ status ++ ": " ++ result.reason.getD status
    if result.permanent then .error ⟨.permanentJobError,"PermanentJobError",message⟩
    else .error ⟨.jobExecutionError,"JobExecutionError",message⟩
  else .ok ()

def prepareResultForStorage (result : HandlerResult) : Except Raised Unit :=
  if result.serializable then .ok ()
  else .error ⟨.valueError,"ValueError","Job result must be JSON serializable"⟩

namespace BackgroundJob

/-- The `WHERE` clause of the fetch. -/
def due (job : BackgroundJob) (now : Int) : Bool :=
  job.status = .pending && job.scheduledFor ≤ now && job.attempts < job.maxAttempts &&
    !job.isDeleted

/-- The `WHERE` clause of the recovery. -/
def stale (job : BackgroundJob) (now : Int) (timeoutMinutes : Nat) : Bool :=
  job.status = .running && (job.startedAt.any fun started =>
    started ≤ now - microseconds (60 * timeoutMinutes)) && !job.isDeleted

/-- `_fetch_and_lock_batch` on one job. -/
def fetch (job : BackgroundJob) (now : Int) : BackgroundJob :=
  { job with
    status := .running
    startedAt := some now
    attempts := job.attempts + 1
    completedAt := none
    errorMessage := none }

def backoffSeconds (job : BackgroundJob) : Nat := backoffBaseSeconds * 2 ^ (job.attempts - 1)

def applyFailureTransition (job : BackgroundJob) (message : String) (now : Int)
    (permanent : Bool) : Except Raised BackgroundJob :=
  if permanent = true ∨ job.maxAttempts ≤ job.attempts then
    .ok { job with
      errorMessage := some message
      completedAt := some now
      status := .deadLetter }
  else do
    let scheduled ← after now job.backoffSeconds
    return { job with
      errorMessage := some message
      completedAt := none
      status := .pending
      scheduledFor := scheduled
      startedAt := none }

/-- `_recover_stale_running_jobs` on one job. -/
def recoverStale (job : BackgroundJob) (now : Int) (timeoutMinutes : Nat) :
    Except Raised BackgroundJob :=
  { job with startedAt := none }.applyFailureTransition
    ("Recovered stale RUNNING job after lock timeout (" ++ toString timeoutMinutes ++ " minutes)")
    now false

def begin (job : BackgroundJob) (now : Int) : BackgroundJob :=
  if job.status ≠ .running then
    { job with status := .running, startedAt := some now, attempts := job.attempts + 1 }
  else job

def complete (job : BackgroundJob) (now : Int) : BackgroundJob :=
  { job with status := .completed, completedAt := some now, errorMessage := none }

/-- The `CancelledError` branch. -/
def cancel (job : BackgroundJob) (now : Int) : Except Raised BackgroundJob := do
  let scheduled ← after now 60
  return { job with
    errorMessage := some "Job was cancelled"
    status := .pending
    scheduledFor := scheduled
    startedAt := none }

/-- The `except` clauses of `_process_single_job`, in order. -/
def recordFailure (job : BackgroundJob) (raised : Raised) (now : Int) :
    Except Raised BackgroundJob :=
  if raised.cls.isInstance [.permanentJobError] then
    job.applyFailureTransition raised.text now true
  else if raised.cls.isInstance [.timeoutError] then
    job.applyFailureTransition ("Job timed out after " ++ toString jobTimeoutSeconds ++ "s") now false
  else if raised.cls.isInstance [.cancelledError] then job.cancel now
  else if raised.cls.isInstance jobRuntimeRecoverableErrors then
    job.applyFailureTransition raised.text now false
  else if raised.cls.isInstance jobRuntimeUnexpectedErrors then
    job.applyFailureTransition (raised.typeName ++ ": " ++ raised.text) now false
  else .error raised

/-- The `UPDATE` of the changed columns, on the row as it is by then. -/
def flush (current loaded written : BackgroundJob) : BackgroundJob :=
  { current with
    status := flushed loaded.status written.status current.status
    attempts := flushed loaded.attempts written.attempts current.attempts
    scheduledFor := flushed loaded.scheduledFor written.scheduledFor current.scheduledFor
    startedAt := flushed loaded.startedAt written.startedAt current.startedAt
    completedAt := flushed loaded.completedAt written.completedAt current.completedAt
    errorMessage := flushed loaded.errorMessage written.errorMessage current.errorMessage }

end BackgroundJob

/-- The `try` block up to the completion of the job. -/
def Processing.result (processing : Processing) (text : Lowercase) : Except Raised Unit := do
  let result ← processing.outcome
  raiseForFailedResult text result
  prepareResultForStorage result

/-- `_process_single_job` up to its commit. -/
def processSingleJob (text : Lowercase) (job : BackgroundJob) (processing : Processing) :
    Except Raised BackgroundJob :=
  match processing.result text with
  | .ok _ => .ok ((job.begin processing.begunAt).complete processing.endedAt)
  | .error raised => (job.begin processing.begunAt).recordFailure raised processing.endedAt

structure BatchResults where
  processed : Nat := 0
  succeeded : Nat := 0
  failed : Nat := 0
  errors : List (Uuid × String) := []
  deriving DecidableEq

namespace BatchResults

def record (results : BatchResults) (id : Uuid) (job : BackgroundJob) : BatchResults :=
  if job.status = .completed then
    { results with processed := results.processed + 1, succeeded := results.succeeded + 1 }
  else
    { results with
      processed := results.processed + 1
      failed := results.failed + 1
      errors := results.errors ++
        ((job.errorMessage.filter (· ≠ "")).toList.map fun message => (id,message)) }

def survive (results : BatchResults) (id : Uuid) (raised : Raised) : BatchResults :=
  { results with
    processed := results.processed + 1
    failed := results.failed + 1
    errors := results.errors ++ [(id,raised.text)] }

end BatchResults

/-- The loop of `process_pending_jobs`; an exception that it does not survive ends it. -/
def processJobs (text : Lowercase) (processing : Uuid → Processing) :
    List (Uuid × BackgroundJob) → BatchResults → Table Uuid BackgroundJob →
      Except Raised BatchResults × Table Uuid BackgroundJob
  | [], results, jobs => (.ok results,jobs)
  | (id,copy) :: rest, results, jobs =>
    match processSingleJob text copy (processing id) with
    | .ok written =>
      processJobs text processing rest (results.record id written)
        (jobs.update id (·.flush copy written))
    | .error raised =>
      if raised.cls.isInstance jobRuntimeRecoverableErrors then
        processJobs text processing rest (results.survive id raised) jobs
      else (.error raised,jobs)

structure Selected (jobs : Table Uuid BackgroundJob) (matching : BackgroundJob → Bool)
    (chosen : List Uuid) : Prop where
  distinct : chosen.Nodup
  matching : ∀ id ∈ chosen, ∃ job, jobs.find id = some job ∧ matching job = true

def fetchJobs (jobs : Table Uuid BackgroundJob) (now : Int) (chosen : List Uuid) :
    Table Uuid BackgroundJob :=
  jobs.updateAll (chosen.map fun id => (id,(·.fetch now)))

def fetchedJobs (jobs : Table Uuid BackgroundJob) (now : Int) (chosen : List Uuid) :
    List (Uuid × BackgroundJob) :=
  chosen.filterMap fun id => (jobs.find id).map fun job => (id,job.fetch now)

def recoverJobs (jobs : Table Uuid BackgroundJob) (now : Int) (timeoutMinutes : Nat)
    (chosen : List Uuid) : Table Uuid BackgroundJob :=
  jobs.updateAll (chosen.map fun id => (id,fun job =>
    match job.recoverStale now timeoutMinutes with
    | .ok written => written
    | .error _ => job))

/-- What a failure makes of a job; `cancelled` is whether a cancellation may have ended it. -/
inductive FailureWritten (cancelled : Prop) (job : BackgroundJob) (now : Int) :
    BackgroundJob → Prop where
  | deadLetter (message : String) (startedAt : Option Int) : FailureWritten cancelled job now
      { job with
        errorMessage := some message, completedAt := some now, status := .deadLetter, startedAt }
  | retry (message : String) (left : job.attempts < job.maxAttempts) :
      FailureWritten cancelled job now { job with
        errorMessage := some message
        completedAt := none
        status := .pending
        scheduledFor := now + microseconds job.backoffSeconds
        startedAt := none }
  | cancel (byCancel : cancelled) : FailureWritten cancelled job now { job with
      errorMessage := some "Job was cancelled"
      status := .pending
      scheduledFor := now + microseconds 60
      startedAt := none }

theorem after_eq_ok {now scheduled : Int} {seconds : Nat} (fits : after now seconds = .ok scheduled) :
    scheduled = now + microseconds seconds := by
  unfold after at fits
  split at fits
  · exact (Except.ok.inj fits).symm
  · contradiction

namespace BackgroundJob

variable {job written current : BackgroundJob} {now : Int} {message : String} {permanent : Bool}
  {cancelled : Prop} {raised : Raised}

@[simp] theorem flush_self_status :
    (job.flush job written).status = written.status := flushed_same _ _

@[simp] theorem flush_self_scheduledFor :
    (job.flush job written).scheduledFor = written.scheduledFor := flushed_same _ _

@[simp] theorem flush_self_errorMessage :
    (job.flush job written).errorMessage = written.errorMessage := flushed_same _ _

@[simp] theorem flush_maxAttempts :
    (current.flush job written).maxAttempts = current.maxAttempts := rfl

theorem begin_running (running : job.status = .running) : job.begin now = job := by
  simp [begin,running]

theorem applyFailureTransition_written
    (transition : job.applyFailureTransition message now permanent = .ok written) :
    FailureWritten cancelled job now written := by
  unfold applyFailureTransition at transition
  split at transition
  · obtain rfl := Except.ok.inj transition
    exact .deadLetter message job.startedAt
  · next left =>
    obtain ⟨scheduled,fits,result⟩ := bind_eq_ok.mp transition
    obtain rfl := Except.ok.inj result
    rw [after_eq_ok fits]
    exact .retry message (by simpa using (not_or.mp left).2)

theorem cancel_written (byCancel : cancelled) (transition : job.cancel now = .ok written) :
    FailureWritten cancelled job now written := by
  obtain ⟨scheduled,fits,result⟩ := bind_eq_ok.mp transition
  obtain rfl := Except.ok.inj result
  rw [after_eq_ok fits]
  exact .cancel byCancel

theorem recordFailure_written (recorded : job.recordFailure raised now = .ok written) :
    FailureWritten (raised.cls.isInstance [.cancelledError] = true) job now written := by
  unfold recordFailure at recorded
  split at recorded
  · exact applyFailureTransition_written recorded
  split at recorded
  · exact applyFailureTransition_written recorded
  split at recorded
  · next cancelled => exact cancel_written cancelled recorded
  split at recorded
  · exact applyFailureTransition_written recorded
  split at recorded
  · exact applyFailureTransition_written recorded
  · contradiction

theorem recoverStale_written {timeoutMinutes : Nat}
    (recovered : job.recoverStale now timeoutMinutes = .ok written) :
    FailureWritten False job now written := by
  unfold recoverStale applyFailureTransition at recovered
  split at recovered
  · obtain rfl := Except.ok.inj recovered
    exact .deadLetter _ none
  · next left =>
    obtain ⟨scheduled,fits,result⟩ := bind_eq_ok.mp recovered
    obtain rfl := Except.ok.inj result
    rw [after_eq_ok fits]
    exact .retry _ (by simpa using (not_or.mp left).2)

end BackgroundJob

namespace FailureWritten

variable {cancelled : Prop} {job written : BackgroundJob} {now : Int}

theorem attempts (failure : FailureWritten cancelled job now written) :
    written.attempts = job.attempts ∧ written.maxAttempts = job.maxAttempts := by
  cases failure <;> exact ⟨rfl,rfl⟩

theorem recorded (failure : FailureWritten cancelled job now written) :
    written.errorMessage ≠ none := by
  cases failure <;> simp

/-- The job is done with, or waits at least a minute. -/
theorem leaves (failure : FailureWritten cancelled job now written) :
    written.status = .deadLetter ∨
      (written.status = .pending ∧ now + microseconds 60 ≤ written.scheduledFor) := by
  cases failure with
  | deadLetter => exact Or.inl rfl
  | cancel => exact Or.inr ⟨rfl,le_refl _⟩
  | retry =>
    refine Or.inr ⟨rfl,?_⟩
    have power : 1 ≤ 2 ^ (job.attempts - 1) := Nat.one_le_two_pow
    have backoff : 60 ≤ job.backoffSeconds := by
      unfold BackgroundJob.backoffSeconds backoffBaseSeconds
      omega
    simp only [microseconds]
    omega

theorem not_running (failure : FailureWritten cancelled job now written) :
    written.status ≠ .running := by
  rcases failure.leaves with dead | ⟨pending,_⟩
  · simp [dead]
  · simp [pending]

end FailureWritten

section Process

variable {text : Lowercase} {job written : BackgroundJob} {processing : Processing}
  {raised : Raised} (running : job.status = .running)
include running

theorem processSingleJob_completes {done : Unit} (succeeded : processing.result text = .ok done) :
    processSingleJob text job processing = .ok (job.complete processing.endedAt) := by
  simp [processSingleJob,succeeded,BackgroundJob.begin_running running]

theorem processSingleJob_fails (failed : processing.result text = .error raised)
    (processed : processSingleJob text job processing = .ok written) :
    FailureWritten (raised.cls.isInstance [.cancelledError] = true) job processing.endedAt
      written := by
  simp only [processSingleJob,failed,BackgroundJob.begin_running running] at processed
  exact BackgroundJob.recordFailure_written processed

theorem processSingleJob_leaves (processed : processSingleJob text job processing = .ok written) :
    written.status ≠ .running := by
  cases result : processing.result text with
  | ok =>
    obtain rfl := Except.ok.inj ((processSingleJob_completes running result).symm.trans processed)
    simp [BackgroundJob.complete]
  | error raised => exact (processSingleJob_fails running result processed).not_running

end Process

section Fetch

variable {jobs : Table Uuid BackgroundJob} {now : Int} {chosen : List Uuid} {id : Uuid}
  {job copy : BackgroundJob} {matching : BackgroundJob → Bool}

theorem find_fetchJobs (distinct : chosen.Nodup) : (fetchJobs jobs now chosen).find id =
    if id ∈ chosen then (jobs.find id).map (·.fetch now) else jobs.find id := by
  have keys : (chosen.map fun id => (id,fun job : BackgroundJob => job.fetch now)).map Prod.fst =
      chosen := by
    simp [List.map_map,Function.comp_def]
  by_cases member : id ∈ chosen
  · rw [if_pos member]
    apply Table.find_updateAll
    · rw [keys]
      exact distinct
    · exact List.mem_map.mpr ⟨id,member,rfl⟩
  · rw [if_neg member]
    apply Table.find_updateAll_other
    rw [keys]
    exact member

theorem mem_fetchedJobs : (id,copy) ∈ fetchedJobs jobs now chosen ↔
    id ∈ chosen ∧ ∃ job, jobs.find id = some job ∧ copy = job.fetch now := by
  constructor
  · intro member
    obtain ⟨other,listed,same⟩ := List.mem_filterMap.mp member
    obtain ⟨job,found,entry⟩ := Option.map_eq_some_iff.mp same
    obtain ⟨rfl,rfl⟩ := Prod.mk.inj entry
    exact ⟨listed,job,found,rfl⟩
  · rintro ⟨listed,job,found,rfl⟩
    exact List.mem_filterMap.mpr ⟨id,listed,by simp [found]⟩

theorem fetchedJobs_keys (selected : Selected jobs matching chosen) :
    (fetchedJobs jobs now chosen).map Prod.fst = chosen := by
  have there := selected.matching
  clear selected
  induction chosen with
  | nil => rfl
  | cons id chosen ih =>
    obtain ⟨job,found,_⟩ := there id List.mem_cons_self
    have rest := ih fun other member => there other (List.mem_cons_of_mem id member)
    simp only [fetchedJobs] at rest ⊢
    rw [List.filterMap_cons_some (b := (id,job.fetch now)) (by simp [found]), List.map_cons, rest]

end Fetch

end Valdrics.Jobs

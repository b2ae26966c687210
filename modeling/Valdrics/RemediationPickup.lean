import Valdrics.RemediationFinality

/-! A SCHEDULED request waits for the job of its last scheduling. A new SCHEDULED row comes
with a new job; a job that is done has taken its request out of SCHEDULED, unless it was
skipped early or has failed for the last time. -/
namespace Valdrics.Optimization

open Enforcement (Uuid bind_eq_ok)

def HistoryEntry.latestJob (requestId : Uuid) (before : Option Uuid) : HistoryEntry → Option Uuid
  | .scheduled id jobId _ => if id = requestId then some jobId else before
  | _ => before

def latestJob (requestId : Uuid) (history : List HistoryEntry) : Option Uuid :=
  history.foldl (HistoryEntry.latestJob requestId) none

@[simp] theorem latestJob_append {requestId : Uuid} {history entries : List HistoryEntry} :
    latestJob requestId (history ++ entries) =
      entries.foldl (HistoryEntry.latestJob requestId) (latestJob requestId history) := by
  simp [latestJob]

def BackgroundJob.Live (job : BackgroundJob) : Prop :=
  job.status = .running ∨ (job.status = .pending ∧ job.attempts < job.maxAttempts)

def PickedUp (s : Remediation) : Prop :=
  ∀ id row, s.store.requests.find id = some row → row.status = .scheduled →
    ∃ jobId job, s.store.jobs.find jobId = some job ∧ job.requestId = id ∧ job.Live

namespace Remediation

def Awaits (s : Remediation) (id jobId : Uuid) : Prop :=
  latestJob id s.history = some jobId ∧
    ∃ row, s.store.requests.find id = some row ∧ row.status = .scheduled

def Retries (s : Remediation) (jobId : Uuid) : Prop :=
  ∀ id job, s.Awaits id jobId → s.store.jobs.find jobId = some job → job.attempts < job.maxAttempts

def Due (s : Remediation) (jobId : Uuid) (copy : RemediationRequest) (now : Int) : Prop :=
  ∀ id, s.Awaits id jobId → copy.inGracePeriod now = false

@[simp] theorem updateJob_jobs {s : Remediation} {id : Uuid} {f : BackgroundJob → BackgroundJob} :
    (s.updateJob id f).store.jobs = s.store.jobs.update id f := rfl

structure Queued (s : Remediation) : Prop where
  waits : ∀ id row, s.store.requests.find id = some row → row.status = .scheduled →
    ∃ jobId, latestJob id s.history = some jobId
  job : ∀ id jobId, s.Awaits id jobId →
    ∃ job, s.store.jobs.find jobId = some job ∧ job.requestId = id ∧ job.Live

theorem Queued.pickedUp {s : Remediation} (queued : s.Queued) : PickedUp s := by
  intro id row found scheduled
  obtain ⟨jobId,latest⟩ := queued.waits id row found scheduled
  obtain ⟨job,there,same,live⟩ := queued.job id jobId ⟨latest,row,found,scheduled⟩
  exact ⟨jobId,job,there,same,live⟩

end Remediation

def Execution.job (execution : Execution) : Option Uuid :=
  match execution.caller with
  | .job jobId => some jobId
  | _ => none

theorem Execution.rolledBack_job {execution : Execution} : execution.rolledBack.job = execution.job := by
  cases caller : execution.caller <;> simp [Execution.rolledBack,Caller.rolledBack,job,caller]

namespace RemediationPhase

def serves : RemediationPhase → Option (Uuid × Uuid)
  | .handling jobId requestId _ => some (jobId,requestId)
  | .opened execution _ | .checking execution _ _ | .writing execution _ _ _ _ _
  | .failing execution _ _ _ | .failingExpired execution _ _ =>
    execution.job.map fun jobId => (jobId,execution.requestId)
  | _ => none

def decides : RemediationPhase → Option (Uuid × RemediationRequest)
  | .handling jobId _ copy => some (jobId,copy)
  | .opened execution copy | .checking execution copy _ | .writing execution copy _ _ _ _
  | .failing execution copy _ _ => execution.job.map fun jobId => (jobId,copy)
  | _ => none

def settles : RemediationPhase → Option Uuid
  | .executing execution _ | .invoked execution _ | .finished execution _ _
  | .failingLate execution _ _ _ | .returning execution => execution.job
  | .reporting jobId none => some jobId
  | _ => none

end RemediationPhase

namespace RemediationRuntime

/-- A worker's clock has reached the scheduled time when it looks at the request for the
job that the request waits for, and that job does not fail on its last attempt. -/
def KeepsJob (s : Remediation) (phase : RemediationPhase) (event : RemediationEvent) : Prop :=
  match event with
  | .proceed now => ∀ jobId requestId copy, phase = .handling jobId requestId copy →
    s.Due jobId copy now
  | .check env => ∀ execution copy row jobId, phase = .checking execution copy row →
    execution.job = some jobId → s.Due jobId copy env.now
  | .report _ => ∀ jobId message, phase = .reporting jobId (some message) → s.Retries jobId
  | .cancel _ => ∀ jobId, phase.job = some jobId → s.Retries jobId
  | .recover jobId _ _ => s.Retries jobId
  | _ => True

variable (runtime : RemediationRuntime)

/-- The runs whose jobs are neither early nor given up. -/
def pickupProtocol : Protocol Remediation RemediationPhase RemediationEvent :=
  runtime.remediationProtocol.restrict KeepsJob fun _ _ _ _ => True

def PickupSteps [DecidableEq ι] (system : RemediationSystem ι) (event : ι × RemediationEvent)
    (next : RemediationSystem ι) : Prop :=
  Interleaving.Step runtime.pickupProtocol system event next

end RemediationRuntime

namespace RemediationPhase

def Plans : RemediationPhase → Prop
  | .approving _ _ copy written _ => written = copy.hardLimitApproved
  | _ => True

structure Serving (s : Remediation) (phase : RemediationPhase) : Prop where
  remembers : phase.Remembers
  plans : phase.Plans
  known : ∀ jobId, phase.job = some jobId → ∃ job, s.store.jobs.find jobId = some job
  serves : ∀ jobId requestId, phase.serves = some (jobId,requestId) →
    ∃ job, s.store.jobs.find jobId = some job ∧ job.requestId = requestId
  decides : ∀ jobId copy id, phase.decides = some (jobId,copy) → s.Awaits id jobId →
    copy.status = .scheduled
  settles : ∀ jobId id, phase.settles = some jobId → ¬s.Awaits id jobId

theorem settles_job {phase : RemediationPhase} {jobId : Uuid}
    (settles : phase.settles = some jobId) : phase.job = some jobId := by
  cases phase with
  | reporting other failure => cases failure <;> simp_all [RemediationPhase.settles,job]
  | executing execution | invoked execution | finished execution | failingLate execution
  | returning execution =>
    cases caller : execution.caller <;> simp_all [RemediationPhase.settles,Execution.job,job]
  | _ => simp [RemediationPhase.settles] at settles

theorem decides_job {phase : RemediationPhase} {jobId : Uuid} {copy : RemediationRequest}
    (decides : phase.decides = some (jobId,copy)) : phase.job = some jobId := by
  cases phase with
  | handling => simp_all [RemediationPhase.decides,job]
  | opened execution | checking execution | writing execution | failing execution =>
    cases caller : execution.caller <;> simp_all [RemediationPhase.decides,Execution.job,job]
  | _ => simp [RemediationPhase.decides] at decides

end RemediationPhase

inductive JobStep (s : Remediation) (jobs : Table Uuid BackgroundJob) : Prop where
  | kept (same : jobs = s.store.jobs)
  | inserted (inserted : s.store.jobs.insert jobId job = some jobs)
  | updated (serves : ∀ job : BackgroundJob, (f job).requestId = job.requestId)
      (updated : jobs = s.store.jobs.update jobId f)

namespace RemediationRuntime

open RemediationPhase (Serving)

variable {runtime : RemediationRuntime} {s t : Remediation}
  {phase next other : RemediationPhase} {event : RemediationEvent} {id jobId : Uuid}
  {row copy : RemediationRequest} {job : BackgroundJob}

theorem written_scheduled {f : RemediationRequest → RemediationRequest}
    (remembers : phase.Remembers) (plans : phase.Plans) (writes : phase.writes = some (id,f))
    (scheduled : (f row).status = .scheduled) : row.status = .scheduled ∨
      ∃ execution copy before written hours,
        phase = .writing execution copy before written .schedule hours := by
  have kept {copy written : RemediationRequest} (other : written.status ≠ .scheduled)
      (after : (row.flush copy written).status = .scheduled) : row.status = .scheduled := by
    rcases RemediationRequest.flush_status_or row copy written with moved | same
    · exact absurd (moved.symm.trans after) other
    · exact same.symm.trans after
  cases phase with
  | reviewing kind requestId copy before written =>
    obtain ⟨rfl,rfl⟩ := Prod.mk.inj (Option.some.inj writes)
    have facts : Reviewed kind copy written := remembers
    refine Or.inl (kept ?_ scheduled)
    cases kind with
    | approve => simp [facts.status]
    | reject => simp [facts.status]
  | approving bypass requestId copy written rest =>
    obtain ⟨rfl,rfl⟩ := Prod.mk.inj (Option.some.inj writes)
    have approved : written = copy.hardLimitApproved := plans
    exact Or.inl (kept (by simp [approved]) scheduled)
  | writing execution copy before written write hours =>
    obtain ⟨rfl,rfl⟩ := Prod.mk.inj (Option.some.inj writes)
    have status : written.status = write.status := remembers.2.1
    cases write with
    | schedule => exact Or.inr ⟨_,_,_,_,_,rfl⟩
    | block => exact Or.inl (kept (by simp [status,FirstWrite.status]) scheduled)
    | escalate => exact Or.inl (kept (by simp [status,FirstWrite.status]) scheduled)
    | execute => exact Or.inl (kept (by simp [status,FirstWrite.status]) scheduled)
  | failing execution copy before written =>
    obtain ⟨rfl,rfl⟩ := Prod.mk.inj (Option.some.inj writes)
    have failed : written.status = .failed := remembers
    exact Or.inl (kept (by simp [failed]) scheduled)
  | failingLate execution copy written resolvedAt =>
    obtain ⟨rfl,rfl⟩ := Prod.mk.inj (Option.some.inj writes)
    have failed : written.status = .failed := remembers
    exact Or.inl (kept (by simp [failed]) scheduled)
  | finished execution copy written =>
    obtain ⟨rfl,rfl⟩ := Prod.mk.inj (Option.some.inj writes)
    have concluded : written.status = .completed ∨ written.status = .failed := remembers
    refine Or.inl (kept ?_ scheduled)
    rcases concluded with status | status
    · simp [status]
    · simp [status]
  | failingExpired execution message restored =>
    obtain ⟨rfl,rfl⟩ := Prod.mk.inj (Option.some.inj writes)
    simp at scheduled
  | idle | loaded | fetched | handling | opened | checking | executing | invoked | returning
  | reporting | sweeping => simp [RemediationPhase.writes] at writes

theorem Step.schedules (taken : runtime.Step s phase event t next) (remembers : phase.Remembers)
    (plans : phase.Plans) (id : Uuid) :
    (latestJob id t.history = latestJob id s.history ∧
      ∀ row, t.store.requests.find id = some row → row.status = .scheduled →
        ∃ before, s.store.requests.find id = some before ∧ before.status = .scheduled) ∨
    (∃ jobId at_, s.store.jobs.find jobId = none ∧ latestJob id t.history = some jobId ∧
      t.store.jobs.find jobId = some { requestId := id, scheduledFor := at_ }) := by
  have rows (other : ∀ execution copy before written hours,
      phase = .writing execution copy before written .schedule hours →
        event = .commit → id ≠ execution.requestId) (row : RemediationRequest)
      (found : t.store.requests.find id = some row) (scheduled : row.status = .scheduled) :
      ∃ before, s.store.requests.find id = some before ∧ before.status = .scheduled := by
    rcases taken.found found with kept | ⟨_,created⟩ | ⟨commits,f,before,writes,there,rfl⟩
    · exact ⟨row,kept,scheduled⟩
    · simp [created.pending] at scheduled
    · rcases written_scheduled remembers plans writes scheduled with
        already | ⟨execution,copy,locked,written,hours,rfl⟩
      · exact ⟨before,there,already⟩
      · exact absurd (Prod.mk.inj (Option.some.inj writes)).1.symm
          (other _ _ _ _ _ rfl commits)
  cases taken with
  | @scheduled jobs s execution copy before written hours fresh enqueued =>
    by_cases same : execution.requestId = id
    · subst same
      refine Or.inr ⟨fresh,written.scheduledExecutionAt.getD 0,
        (Table.insert_eq_some enqueued).1,?_,?_⟩
      · simp [HistoryEntry.latestJob]
      · show jobs.find fresh = _
        rw [Table.find_insert enqueued, if_pos rfl]
    · refine Or.inl ⟨by simp [HistoryEntry.latestJob,same],rows ?_⟩
      intro _ _ _ _ _ writing _ equal
      obtain ⟨rfl,_⟩ := RemediationPhase.writing.inj writing
      exact same equal.symm
  | @reviewed s kind =>
    refine Or.inl ⟨?_,rows fun _ _ _ _ _ writing => by simp at writing⟩
    cases kind <;> simp [reviewEntries,HistoryEntry.latestJob]
  | blocked | escalated | started =>
    refine Or.inl ⟨by simp [HistoryEntry.latestJob],rows fun _ _ _ _ _ writing => ?_⟩
    simp at writing
  | lock | invoke | finished | failedLate | approved =>
    refine Or.inl ⟨by simp [HistoryEntry.latestJob],rows fun _ _ _ _ _ writing => ?_⟩
    simp at writing
  | cancel | interrupt | leave | rollback | raiseWriting | unscheduled =>
    exact Or.inl ⟨rfl,rows fun _ _ _ _ _ _ commits => by simp at commits⟩
  | _ => exact Or.inl ⟨rfl,rows fun _ _ _ _ _ writing => by simp at writing⟩

theorem Step.awaits (taken : runtime.Step s phase event t next) (remembers : phase.Remembers)
    (plans : phase.Plans) (known : s.store.jobs.find jobId = some job) (awaits : t.Awaits id jobId) :
    s.Awaits id jobId := by
  obtain ⟨latest,row,found,scheduled⟩ := awaits
  rcases taken.schedules remembers plans id with ⟨same,rows⟩ | ⟨fresh,_,absent,after,_⟩
  · obtain ⟨before,there,already⟩ := rows row found scheduled
    exact ⟨same.symm.trans latest,before,there,already⟩
  · obtain rfl := Option.some.inj (after.symm.trans latest)
    simp [absent] at known

@[simp] theorem complete_requestId {now : Int} : (job.complete now).requestId = job.requestId := rfl

@[simp] theorem fetch_requestId {now : Int} : (job.fetch now).requestId = job.requestId := rfl

@[simp] theorem cancel_requestId {now : Int} : (job.cancel now).requestId = job.requestId := rfl

@[simp] theorem applyFailure_requestId {message : String} {now : Int} :
    (job.applyFailure message now).requestId = job.requestId := by
  by_cases last : job.maxAttempts ≤ job.attempts
  · simp [BackgroundJob.applyFailure,last]
  · simp [BackgroundJob.applyFailure,last]

theorem applyFailure_live {message : String} {now : Int} (retries : job.attempts < job.maxAttempts) :
    (job.applyFailure message now).Live := by
  have left : ¬job.maxAttempts ≤ job.attempts := by omega
  exact Or.inr (by simp [BackgroundJob.applyFailure,left,retries])

theorem Step.jobs (taken : runtime.Step s phase event t next) : JobStep s t.store.jobs := by
  cases taken with
  | scheduled enqueued => exact .inserted enqueued
  | fetch => exact .updated (fun _ => fetch_requestId) rfl
  | reportCompleted => exact .updated (fun _ => complete_requestId) rfl
  | reportFailed => exact .updated (fun _ => applyFailure_requestId) rfl
  | cancel => exact .updated (fun _ => cancel_requestId) rfl
  | recover =>
    refine .updated (fun job => ?_) Remediation.updateJob_jobs
    simp
  | finished | failedLate => exact .kept (by simp)
  | _ => exact .kept rfl

theorem Step.keepsJob (taken : runtime.Step s phase event t next)
    (found : s.store.jobs.find jobId = some job) :
    ∃ after, t.store.jobs.find jobId = some after ∧ after.requestId = job.requestId := by
  cases taken.jobs with
  | kept same => exact ⟨job,by rw [same, found],rfl⟩
  | @inserted fresh _ inserted =>
    have apart : jobId ≠ fresh := by
      intro same
      subst same
      simp [(Table.insert_eq_some inserted).1] at found
    exact ⟨job,by simp [Table.find_insert inserted,apart,found],rfl⟩
  | @updated f changed serves updated =>
    by_cases same : jobId = changed
    · subst same
      exact ⟨f job,by simp [updated,found],serves job⟩
    · exact ⟨job,by simp [updated,Table.find_update_other f same,found],rfl⟩

theorem Step.live (taken : runtime.Step s phase event t next) (serving : Serving s phase)
    (keeps : KeepsJob s phase event) (awaits : s.Awaits id jobId)
    (found : s.store.jobs.find jobId = some job) (live : job.Live) :
    ∃ after, t.store.jobs.find jobId = some after ∧ after.Live := by
  have updated {changed : Uuid} {f : BackgroundJob → BackgroundJob}
      (here : changed = jobId → (f job).Live) :
      ∃ after, (s.store.jobs.update changed f).find jobId = some after ∧ after.Live := by
    by_cases same : jobId = changed
    · subst same
      exact ⟨f job,by simp [found],here rfl⟩
    · exact ⟨job,by simp [Table.find_update_other f same,found],live⟩
  cases taken with
  | @scheduled jobs s execution copy before written hours fresh enqueued =>
    have apart : jobId ≠ fresh := by
      intro same
      subst same
      simp [(Table.insert_eq_some enqueued).1] at found
    refine ⟨job,?_,live⟩
    show jobs.find jobId = some job
    simp [Table.find_insert enqueued,apart,found]
  | fetch => exact updated fun _ => Or.inl rfl
  | reportCompleted =>
    refine updated fun same => ?_
    subst same
    exact absurd awaits (serving.settles _ id rfl)
  | reportFailed =>
    refine updated fun same => applyFailure_live ?_
    subst same
    exact keeps _ _ rfl id job awaits found
  | cancel running =>
    refine updated fun same => Or.inr ⟨rfl,?_⟩
    subst same
    exact keeps _ running id job awaits found
  | recover =>
    refine updated fun same => applyFailure_live ?_
    subst same
    exact keeps id job awaits found
  | finished | failedLate => exact ⟨job,by simpa using found,live⟩
  | _ => exact ⟨job,found,live⟩

theorem checkExecution_deferred {findings : Table Uuid OptimizationFinding} {bypass : Bool}
    {env : ExecuteEnvironment}
    (checked : runtime.checkExecution findings bypass copy env = .ok .deferred) :
    copy.inGracePeriod env.now = true := by
  obtain ⟨_,_,afterBinding⟩ := bind_eq_ok.mp checked
  obtain ⟨_,_,afterGuards⟩ := bind_eq_ok.mp afterBinding
  obtain ⟨_,_,result⟩ := bind_eq_ok.mp afterGuards
  by_cases waits : copy.inGracePeriod env.now = true ∧ bypass = false
  · exact waits.1
  · rw [if_neg waits] at result
    cases decision : env.evaluation.decision with
    | block | escalate => simp [decision,pure,Except.pure] at result
    | allow | warn =>
      simp only [decision] at result
      split at result
      · simp [pure,Except.pure] at result
      · simp [pure,Except.pure] at result

theorem returned_job {caller : Caller} {status : RemediationStatus}
    (serves : (caller.returned status).job = some jobId) : caller = .job jobId := by
  cases caller <;> simp_all [Caller.returned,RemediationPhase.job]

theorem raised_job {caller : Caller} {message : String}
    (serves : (caller.raised message).job = some jobId) : caller = .job jobId := by
  cases caller <;> simp_all [Caller.raised,RemediationPhase.job]

theorem Step.goesOn (taken : runtime.Step s phase event t next) (serves : next.job = some jobId) :
    phase.job = some jobId ∨ ∃ job, s.store.jobs.find jobId = some job := by
  cases taken with
  | fetch found =>
    obtain rfl := Option.some.inj serves
    exact Or.inr ⟨_,found⟩
  | interrupt running =>
    obtain rfl := Option.some.inj serves
    exact Or.inl running
  | deferred | scheduled | refresh =>
    exact Or.inl (by simp [RemediationPhase.job,returned_job serves])
  | invalidProvider => exact Or.inl (by simp [RemediationPhase.job,raised_job serves])
  | rollback | unscheduled => exact Or.inl (Execution.rolledBack_job.symm.trans serves)
  | _ => simp_all [RemediationPhase.job]

@[simp] theorem returned_serves {caller : Caller} {status : RemediationStatus} :
    (caller.returned status).serves = none := by
  cases caller <;> rfl

@[simp] theorem raised_serves {caller : Caller} {message : String} :
    (caller.raised message).serves = none := by
  cases caller <;> rfl

@[simp] theorem returned_decides {caller : Caller} {status : RemediationStatus} :
    (caller.returned status).decides = none := by
  cases caller <;> rfl

@[simp] theorem raised_decides {caller : Caller} {message : String} :
    (caller.raised message).decides = none := by
  cases caller <;> rfl

@[simp] theorem raised_settles {caller : Caller} {message : String} :
    (caller.raised message).settles = none := by
  cases caller <;> rfl

theorem returned_settles {caller : Caller} {status : RemediationStatus}
    (settles : (caller.returned status).settles = some jobId) : caller = .job jobId :=
  returned_job (RemediationPhase.settles_job settles)

theorem Step.serves {requestId : Uuid} (taken : runtime.Step s phase event t next)
    (serves : next.serves = some (jobId,requestId)) :
    phase.serves = some (jobId,requestId) ∨
      ∃ job, s.store.jobs.find jobId = some job ∧ job.requestId = requestId := by
  cases taken with
  | handle found read =>
    obtain ⟨rfl,rfl⟩ := Prod.mk.inj (Option.some.inj serves)
    exact Or.inr ⟨_,found,rfl⟩
  | proceed | lock | refused | check | raiseChecking | raiseWriting => exact Or.inl serves
  | rollback | unscheduled =>
    simp only [RemediationPhase.serves,Execution.rolledBack_job] at serves
    exact Or.inl serves
  | deferred | scheduled | refresh | invalidProvider => simp at serves
  | execute | approved => simp [RemediationPhase.serves,Execution.job] at serves
  | _ => simp [RemediationPhase.serves] at serves

theorem Step.decides (taken : runtime.Step s phase event t next)
    (decides : next.decides = some (jobId,copy)) :
    phase.decides = some (jobId,copy) ∨ (phase = .fetched jobId ∧ ∃ job,
      s.store.jobs.find jobId = some job ∧ s.store.requests.find job.requestId = some copy) := by
  cases taken with
  | handle found read =>
    obtain ⟨rfl,rfl⟩ := Prod.mk.inj (Option.some.inj decides)
    exact Or.inr ⟨rfl,_,found,read⟩
  | proceed | lock | refused | check | raiseChecking | raiseWriting => exact Or.inl decides
  | deferred | scheduled | refresh | invalidProvider => simp at decides
  | execute | approved => simp [RemediationPhase.decides,Execution.job] at decides
  | _ => simp [RemediationPhase.decides] at decides

theorem returned_plans {caller : Caller} {status : RemediationStatus} :
    (caller.returned status).Plans := by
  cases caller <;> trivial

theorem raised_plans {caller : Caller} {message : String} : (caller.raised message).Plans := by
  cases caller <;> trivial

theorem serving_leaves {written : RemediationRequest} (serving : Serving s phase)
    (decides : phase.decides = some (jobId,copy)) (other : written.status ≠ .scheduled)
    (awaits : s.Awaits id jobId) (row : RemediationRequest) :
    (row.flush copy written).status ≠ .scheduled := by
  have status := serving.decides _ _ _ decides awaits
  rw [RemediationRequest.flush_status (by simpa [status] using other)]
  exact other

theorem serving_committed {f : RemediationRequest → RemediationRequest} {requestId : Uuid}
    (serving : Serving s phase) (queued : s.Queued)
    (serves : phase.serves = some (jobId,requestId))
    (leaves : s.Awaits id jobId → ∀ row, (f row).status ≠ .scheduled)
    (updated : t.store.requests = s.store.requests.update requestId f)
    (before : t.Awaits id jobId → s.Awaits id jobId) : ¬t.Awaits id jobId := by
  intro after
  have awaits := before after
  obtain ⟨job,found,same⟩ := serving.serves _ _ serves
  obtain ⟨there,found',same',_⟩ := queued.job id jobId awaits
  obtain rfl := Option.some.inj (found.symm.trans found')
  obtain rfl := same.symm.trans same'
  obtain ⟨_,row,written,scheduled⟩ := after
  rw [updated, Table.find_update_same] at written
  obtain ⟨old,_,rfl⟩ := Option.map_eq_some_iff.mp written
  exact leaves awaits old scheduled

theorem Step.settles (taken : runtime.Step s phase event t next) (serving : Serving s phase)
    (queued : s.Queued) (keeps : KeepsJob s phase event) (settles : next.settles = some jobId) :
    ¬t.Awaits id jobId := by
  have awaits {job : Uuid} (known : phase.job = some job) (after : t.Awaits id job) :
      s.Awaits id job := by
    obtain ⟨_,found⟩ := serving.known job known
    exact taken.awaits serving.remembers serving.plans found after
  have goesOn (before : phase.settles = some jobId) : ¬t.Awaits id jobId := by
    intro after
    exact serving.settles _ _ before (awaits (RemediationPhase.settles_job before) after)
  cases taken with
  | skipped early =>
    obtain rfl := Option.some.inj settles
    intro after
    have due := keeps _ _ _ rfl id (awaits rfl after)
    simp [due] at early
  | deferred checked =>
    intro after
    have caller := returned_settles settles
    have due := keeps _ _ _ jobId rfl (by simp [Execution.job,caller]) id
      (awaits (by simp [RemediationPhase.job,caller]) after)
    simp [checkExecution_deferred checked] at due
  | @blocked s execution copy row written hours =>
    have job : execution.job = some jobId := settles
    have status : written.status = .failed := serving.remembers.2.1
    exact serving_committed serving queued (congrArg (Option.map _) job)
      (serving_leaves serving (congrArg (Option.map _) job) (by simp [status])) rfl (awaits job)
  | @escalated s execution copy row written hours =>
    have job : execution.job = some jobId := settles
    have status : written.status = .pendingApproval := serving.remembers.2.1
    exact serving_committed serving queued (congrArg (Option.map _) job)
      (serving_leaves serving (congrArg (Option.map _) job) (by simp [status])) rfl (awaits job)
  | @started s execution copy row written hours =>
    have job : execution.job = some jobId := settles
    have status : written.status = .executing := serving.remembers.2.1
    exact serving_committed serving queued (congrArg (Option.map _) job)
      (serving_leaves serving (congrArg (Option.map _) job) (by simp [status])) rfl (awaits job)
  | @failed s execution copy row written =>
    have job : execution.job = some jobId := settles
    have status : written.status = .failed := serving.remembers
    exact serving_committed serving queued (congrArg (Option.map _) job)
      (serving_leaves serving (congrArg (Option.map _) job) (by simp [status])) rfl (awaits job)
  | @failedExpired s execution message restored =>
    have job : execution.job = some jobId := settles
    exact serving_committed serving queued (congrArg (Option.map _) job)
      (fun _ row => by simp) Remediation.updateRequest_requests (awaits job)
  | @scheduled jobs s execution copy row written hours fresh enqueued =>
    intro after
    have caller := returned_settles settles
    have mine : execution.job = some jobId := by simp [Execution.job,caller]
    obtain ⟨job,found,same⟩ := serving.serves jobId execution.requestId
      (congrArg (Option.map _) mine)
    obtain ⟨there,found',same',_⟩ := queued.job id jobId (awaits mine after)
    obtain rfl := Option.some.inj (found.symm.trans found')
    have latest := after.1
    simp only [Remediation.log_history,latestJob_append,List.foldl_cons,List.foldl_nil,
      HistoryEntry.latestJob,same.symm.trans same',if_true,Option.some.injEq] at latest
    rw [← latest, (Table.insert_eq_some enqueued).1] at found
    exact absurd found (by simp)
  | raiseExecuting | invoke | raiseInvoked | finish | raiseFinished | finished | failedLate =>
    exact goesOn settles
  | refresh =>
    have caller := returned_settles settles
    exact goesOn (by simp [RemediationPhase.settles,Execution.job,caller])
  | invalidProvider => simp at settles
  | _ => simp [RemediationPhase.settles] at settles

theorem Step.plans (taken : runtime.Step s phase event t next) : next.Plans := by
  cases taken with
  | approve => rfl
  | deferred | scheduled | refresh => exact returned_plans
  | invalidProvider => exact raised_plans
  | _ => trivial

theorem Step.serving (taken : runtime.Step s phase event t next) (serving : Serving s phase)
    (queued : s.Queued) (keeps : KeepsJob s phase event) : Serving t next := by
  have awaits {id job : Uuid} (known : ∃ there, s.store.jobs.find job = some there)
      (after : t.Awaits id job) : s.Awaits id job := by
    obtain ⟨_,found⟩ := known
    exact taken.awaits serving.remembers serving.plans found after
  refine ⟨taken.remembers,taken.plans,fun jobId mine => ?_,fun jobId requestId serves => ?_,
    fun jobId copy id decides after => ?_,fun jobId id settles =>
      taken.settles serving queued keeps settles⟩
  · obtain ⟨job,found⟩ := (taken.goesOn mine).elim (serving.known jobId) fun known => known
    obtain ⟨after,there,_⟩ := taken.keepsJob found
    exact ⟨after,there⟩
  · obtain ⟨job,found,same⟩ := (taken.serves serves).elim (serving.serves jobId requestId)
      fun known => known
    obtain ⟨after,there,same'⟩ := taken.keepsJob found
    exact ⟨after,there,same'.trans same⟩
  · rcases taken.decides decides with before | ⟨_,job,found,read⟩
    · exact serving.decides jobId copy id before
        (awaits (serving.known jobId (RemediationPhase.decides_job before)) after)
    · have before := awaits ⟨job,found⟩ after
      obtain ⟨there,found',same,_⟩ := queued.job id jobId before
      obtain ⟨_,row,present,scheduled⟩ := before
      obtain rfl := Option.some.inj (found.symm.trans found')
      rw [same] at read
      obtain rfl := Option.some.inj (read.symm.trans present)
      exact scheduled

/-- What another session does changes nothing of it. -/
theorem Step.undisturbedJob (taken : runtime.Step s phase event t next)
    (serving : Serving s phase) (others : Serving s other) : Serving t other := by
  have awaits {id job : Uuid} (mine : other.job = some job) (after : t.Awaits id job) :
      s.Awaits id job := by
    obtain ⟨_,found⟩ := others.known job mine
    exact taken.awaits serving.remembers serving.plans found after
  refine ⟨others.remembers,others.plans,fun jobId mine => ?_,fun jobId requestId serves => ?_,
    fun jobId copy id decides after => ?_,fun jobId id settles after => ?_⟩
  · obtain ⟨job,found⟩ := others.known jobId mine
    obtain ⟨after,there,_⟩ := taken.keepsJob found
    exact ⟨after,there⟩
  · obtain ⟨job,found,same⟩ := others.serves jobId requestId serves
    obtain ⟨after,there,same'⟩ := taken.keepsJob found
    exact ⟨after,there,same'.trans same⟩
  · exact others.decides jobId copy id decides
      (awaits (RemediationPhase.decides_job decides) after)
  · exact others.settles jobId id settles (awaits (RemediationPhase.settles_job settles) after)

theorem Step.queued (taken : runtime.Step s phase event t next) (serving : Serving s phase)
    (queued : s.Queued) (keeps : KeepsJob s phase event) : t.Queued := by
  refine ⟨fun id row found scheduled => ?_,fun id jobId awaits => ?_⟩
  · rcases taken.schedules serving.remembers serving.plans id with
      ⟨same,rows⟩ | ⟨fresh,_,_,latest,_⟩
    · obtain ⟨before,there,already⟩ := rows row found scheduled
      rw [same]
      exact queued.waits id before there already
    · exact ⟨fresh,latest⟩
  · rcases taken.schedules serving.remembers serving.plans id with
      ⟨same,rows⟩ | ⟨fresh,at_,_,latest,queues⟩
    · obtain ⟨latest,row,found,scheduled⟩ := awaits
      obtain ⟨before,there,already⟩ := rows row found scheduled
      have waited : s.Awaits id jobId := ⟨same.symm.trans latest,before,there,already⟩
      obtain ⟨job,present,serves,live⟩ := queued.job id jobId waited
      obtain ⟨after,kept,serves'⟩ := taken.keepsJob present
      obtain ⟨after',kept',live'⟩ := taken.live serving keeps waited present live
      obtain rfl := Option.some.inj (kept.symm.trans kept')
      exact ⟨after,kept,serves'.trans serves,live'⟩
    · obtain rfl := Option.some.inj (latest.symm.trans awaits.1)
      exact ⟨_,queues,rfl,Or.inr ⟨rfl,by simp⟩⟩

theorem pickup_discipline (runtime : RemediationRuntime) :
    Interleaving.Discipline runtime.pickupProtocol Remediation.Queued Serving
      fun _ _ => True where
  symmetric _ _ _ := trivial
  own _ _ _ _ _ queued serving taken :=
    ⟨taken.1.1.queued serving queued taken.2,taken.1.1.serving serving queued taken.2⟩
  exclusive _ _ _ _ _ _ _ _ _ _ _ _ := trivial
  undisturbed _ _ _ _ _ _ _ serving others _ taken _ :=
    taken.1.1.undisturbedJob serving others

end RemediationRuntime

theorem Opening.queued {start : RemediationSystem ι} (opening : Opening start) :
    Interleaving.Good Remediation.Queued RemediationPhase.Serving (fun _ _ => True) start := by
  refine ⟨⟨fun id row found => ?_,fun id jobId awaits => ?_⟩,fun party => ?_,fun _ _ _ => trivial⟩
  · simp [opening.requests] at found
  · obtain ⟨_,row,found,_⟩ := awaits
    simp [opening.requests] at found
  · rw [opening.idle party]
    refine ⟨trivial,trivial,?_,?_,?_,?_⟩
    · simp [RemediationPhase.job]
    · simp [RemediationPhase.serves]
    · simp [RemediationPhase.decides]
    · simp [RemediationPhase.settles]

/-- In every run whose jobs are neither early nor given up, every SCHEDULED request can be
picked up. -/
theorem scheduled_pickedUp {runtime : RemediationRuntime} [DecidableEq ι]
    {start final : RemediationSystem ι} {events : List (ι × RemediationEvent)}
    (opening : Opening start) (run : Trace runtime.PickupSteps start events final) :
    PickedUp final.shared :=
  ((RemediationRuntime.pickup_discipline runtime).run run opening.queued).invariant.pickedUp

end Valdrics.Optimization

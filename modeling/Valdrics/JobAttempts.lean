import Valdrics.JobOwnership

/-! Bounded attempts. Every exit of the processing but one goes through the failure
transition; the branch for a cancelled handler requeues after a minute whatever the
attempts. -/
namespace Valdrics.Jobs

open Enforcement (Uuid)
open Interleaving (pair)

/-- What is recorded of a run: the handlers that start, with the attempt of the job that
they are, and the retries that are planned. -/
inductive JobEntry where
  | started (id : Uuid) (attempt : Nat)
  | retried (id : Uuid) (failedAt : Int) (attempts : Nat) (scheduledFor : Int)

def attemptsStarted (id : Uuid) (log : List JobEntry) : List Nat :=
  log.filterMap fun
    | .started other attempt => if other = id then some attempt else none
    | .retried .. => none

def retryEntry (id : Uuid) (failedAt : Int) (written : Except Raised BackgroundJob) :
    List JobEntry :=
  match written with
  | .ok job =>
    if job.status = .pending then [.retried id failedAt job.attempts job.scheduledFor] else []
  | .error _ => []

/-- A later fetch can select such a job or recover it, unless it is done with. -/
inductive Selectable (job : BackgroundJob) : Prop where
  | completed (status : job.status = .completed)
  | deadLetter (status : job.status = .deadLetter)
  | pending (status : job.status = .pending) (left : job.attempts < job.maxAttempts)
  | running (status : job.status = .running) (started : job.startedAt ≠ none)

def BacksOff (_ : List JobEntry) (entry : JobEntry) : Prop :=
  ∀ id failedAt attempts scheduledFor, entry = .retried id failedAt attempts scheduledFor →
    failedAt + microseconds (backoffBaseSeconds * 2 ^ (attempts - 1)) ≤ scheduledFor

structure AttemptsLaw (processor : Processor) (jobs : Table Uuid BackgroundJob)
    (log : List JobEntry) : Prop where
  bounded : ∀ id job, jobs.find id = some job → (attemptsStarted id log).length ≤ job.maxAttempts
  backoff : EachEntry BacksOff log
  selectable : ∀ id job, jobs.find id = some job → Selectable job
  /-- From some time on each fetch can select the job, or each recovery. -/
  selected : ∀ id job, jobs.find id = some job → job.isDeleted = false →
    job.status.terminal = false → ∃ time, ∀ now, time ≤ now →
      job.due now = true ∨ job.stale now processor.lockTimeoutMinutes = true

def Attempted (event : WorkerEvent) : Prop :=
  ∀ call, event = .enqueue call → 1 ≤ call.maxAttempts

namespace Processor

variable (processor : Processor)

def jobEntries (jobs : Table Uuid BackgroundJob) (phase : WorkerPhase) (event : WorkerEvent) :
    List JobEntry :=
  match phase, event with
  | .working ((id,copy) :: _), .start => [.started id copy.attempts]
  | .running id copy _, .finish processing =>
    retryEntry id processing.endedAt (processSingleJob processor.text copy processing)
  | .idle, .recover now chosen =>
    chosen.flatMap fun id => match jobs.find id with
      | some job => retryEntry id now (job.recoverStale now processor.lockTimeoutMinutes)
      | none => []
  | _, _ => []

/-- A handler is cancelled in its job's first attempt only, and then another one is left. -/
def CancelledEarly (phase : WorkerPhase) (event : WorkerEvent) : Prop :=
  ∀ id copy rest processing raised, phase = .running id copy rest → event = .finish processing →
    processing.result processor.text = .error raised →
    raised.cls.isInstance [.cancelledError] = true →
    copy.attempts ≤ 1 ∧ copy.attempts < copy.maxAttempts

def RequeuesOwn (jobs : Table Uuid BackgroundJob) (phase : WorkerPhase) (event : WorkerEvent) :
    Prop :=
  ∀ id copy written rest job, phase = .writing id copy written rest → event = .commit →
    written.status = .pending → jobs.find id = some job → job.attempts = copy.attempts

def recordedProtocol : Protocol (Table Uuid BackgroundJob × List JobEntry) WorkerPhase WorkerEvent :=
  (processor.workerProtocol.record processor.jobEntries).restrict
    (fun _ _ => Attempted) fun _ _ _ _ => True

def steadyProtocol : Protocol (Table Uuid BackgroundJob × List JobEntry) WorkerPhase WorkerEvent :=
  processor.recordedProtocol.restrict
    (fun s phase event => processor.CancelledEarly phase event ∧ RequeuesOwn s.1 phase event)
    fun _ _ _ _ => True

abbrev RecordedSystem (ι : Type) :=
  Interleaving.System ι (Table Uuid BackgroundJob × List JobEntry) WorkerPhase

def RecordedSteps [DecidableEq ι] (system : RecordedSystem ι) (event : ι × WorkerEvent)
    (next : RecordedSystem ι) : Prop :=
  Interleaving.Step processor.recordedProtocol system event next

def SteadySteps [DecidableEq ι] (system : RecordedSystem ι) (event : ι × WorkerEvent)
    (next : RecordedSystem ι) : Prop :=
  Interleaving.Step processor.steadyProtocol system event next

end Processor

structure QueueOpening (system : Processor.RecordedSystem ι) : Prop where
  jobs : system.shared.1 = .empty
  log : system.shared.2 = []
  idle : ∀ party, system.phase party = .idle

namespace WorkerPhase

def waiting : WorkerPhase → List (Uuid × BackgroundJob)
  | .working jobs => jobs
  | .running _ _ rest | .writing _ _ _ rest => rest
  | .idle | .fetching _ => []

def inHand (phase : WorkerPhase) : List (Uuid × Nat) :=
  phase.entries.map fun entry => (entry.1,entry.2.attempts)

def Parted (a b : WorkerPhase) : Prop := ∀ attempt ∈ a.inHand, attempt ∉ b.inHand

theorem waiting_entries {phase : WorkerPhase} {entry : Uuid × BackgroundJob}
    (member : entry ∈ phase.waiting) : entry ∈ phase.entries := by
  cases phase with
  | idle | fetching => exact absurd member List.not_mem_nil
  | working => exact member
  | running | writing => exact List.mem_cons_of_mem _ member

end WorkerPhase

structure CopyOf (jobs : Table Uuid BackgroundJob) (id : Uuid) (copy : BackgroundJob) : Prop where
  running : copy.status = .running
  begun : 1 ≤ copy.attempts
  row : ∃ job, jobs.find id = some job ∧ copy.attempts ≤ job.attempts ∧
    job.maxAttempts = copy.maxAttempts

structure WrittenFrom (copy written : BackgroundJob) : Prop where
  attempts : written.attempts = copy.attempts
  selectable : Selectable written
  bound : written.maxAttempts = copy.maxAttempts
  left : written.status ≠ .running

structure Recorded (s : Table Uuid BackgroundJob × List JobEntry) (phase : WorkerPhase) :
    Prop where
  distinct : phase.inHand.Nodup
  copies : ∀ entry ∈ phase.entries, CopyOf s.1 entry.1 entry.2
  unstarted : ∀ entry ∈ phase.waiting, entry.2.attempts ∉ attemptsStarted entry.1 s.2
  draft : ∀ id copy written rest, phase = .writing id copy written rest →
    WrittenFrom copy written

structure Counted (s : Table Uuid BackgroundJob × List JobEntry) : Prop where
  selectable : ∀ id job, s.1.find id = some job → Selectable job
  bounded : ∀ id job, s.1.find id = some job → job.attempts ≤ job.maxAttempts
  started : ∀ id, ∀ attempt ∈ attemptsStarted id s.2,
    1 ≤ attempt ∧ ∃ job, s.1.find id = some job ∧ attempt ≤ job.attempts
  once : ∀ id, (attemptsStarted id s.2).Nodup
  backoff : EachEntry BacksOff s.2

@[simp] theorem attemptsStarted_append {id : Uuid} {log entries : List JobEntry} :
    attemptsStarted id (log ++ entries) = attemptsStarted id log ++ attemptsStarted id entries := by
  simp [attemptsStarted]

@[simp] theorem attemptsStarted_nil {id : Uuid} : attemptsStarted id [] = [] := rfl

@[simp] theorem attemptsStarted_started {id other : Uuid} {attempt : Nat} :
    attemptsStarted id [.started other attempt] = if other = id then [attempt] else [] := by
  unfold attemptsStarted
  by_cases same : other = id <;> simp [same]

@[simp] theorem attemptsStarted_retryEntry {id other : Uuid} {failedAt : Int}
    {written : Except Raised BackgroundJob} :
    attemptsStarted id (retryEntry other failedAt written) = [] := by
  cases written with
  | error => rfl
  | ok job =>
    unfold retryEntry
    split <;> simp [attemptsStarted]

namespace Selectable

variable {job written : BackgroundJob} {now : Int} {cancelled : Prop}

theorem selected (selectable : Selectable job) (kept : job.isDeleted = false)
    (unfinished : job.status.terminal = false) (minutes : Nat) :
    ∃ time, ∀ now, time ≤ now → job.due now = true ∨ job.stale now minutes = true := by
  cases selectable with
  | completed status => simp [status,JobStatus.terminal] at unfinished
  | deadLetter status => simp [status,JobStatus.terminal] at unfinished
  | pending status left =>
    refine ⟨job.scheduledFor,fun now later => Or.inl ?_⟩
    simp [BackgroundJob.due,status,left,later,kept]
  | running status started =>
    obtain ⟨at_,startedAt⟩ := Option.ne_none_iff_exists'.mp started
    refine ⟨at_ + microseconds (60 * minutes),fun now later => Or.inr ?_⟩
    have reached : at_ ≤ now - microseconds (60 * minutes) := by omega
    simp [BackgroundJob.stale,status,startedAt,kept,reached]

theorem of_failure (failure : FailureWritten cancelled job now written)
    (early : cancelled → job.attempts < job.maxAttempts) : Selectable written := by
  cases failure with
  | deadLetter => exact .deadLetter rfl
  | retry message left => exact .pending rfl left
  | cancel byCancel => exact .pending rfl (early byCancel)

end Selectable

theorem FailureWritten.backsOff {cancelled : Prop} {job written : BackgroundJob} {now : Int}
    (failure : FailureWritten cancelled job now written) (early : cancelled → job.attempts ≤ 1)
    (pending : written.status = .pending) :
    now + microseconds (backoffBaseSeconds * 2 ^ (written.attempts - 1)) ≤ written.scheduledFor := by
  cases failure with
  | deadLetter => simp at pending
  | retry => exact le_refl _
  | cancel byCancel =>
    have first : job.attempts - 1 = 0 := by
      have one := early byCancel
      omega
    simp [first,backoffBaseSeconds]

theorem BackgroundJob.flush_attempts {loaded written current : BackgroundJob}
    (same : written.attempts = loaded.attempts) :
    (current.flush loaded written).attempts = current.attempts := by
  simp [BackgroundJob.flush,Enforcement.flushed,same]

/-- What a worker writes of an attempt is the row's status from then on. -/
theorem BackgroundJob.flush_status {loaded written current : BackgroundJob}
    (moved : written.status ≠ loaded.status) :
    (current.flush loaded written).status = written.status :=
  Enforcement.ActionExecution.flushed_moved moved current.status

theorem RowStep.grows {processor : Processor} {s : Table Uuid BackgroundJob}
    {phase next : WorkerPhase} {event : WorkerEvent} {id : Uuid} {job later : BackgroundJob}
    (step : RowStep processor s phase event next id job later)
    (draft : ∀ id copy written rest, phase = .writing id copy written rest →
      WrittenFrom copy written) :
    job.attempts ≤ later.attempts ∧ later.maxAttempts = job.maxAttempts := by
  cases step with
  | kept => exact ⟨le_refl _,rfl⟩
  | recovered _ _ failure =>
    obtain ⟨attempts,bound⟩ := (BackgroundJob.recoverStale_written failure).attempts
    exact ⟨attempts.ge,bound⟩
  | fetched => exact ⟨Nat.le_succ _,rfl⟩
  | written writes =>
    rw [BackgroundJob.flush_attempts (draft _ _ _ _ writes).attempts]
    exact ⟨le_refl _,rfl⟩

namespace Processor

open WorkerPhase (Parted)

variable {processor : Processor} {s t : Table Uuid BackgroundJob} {phase next other : WorkerPhase}
  {event : WorkerEvent} {id : Uuid} {job copy written : BackgroundJob} {log : List JobEntry}

theorem jobEntries_started (processor : Processor) (s : Table Uuid BackgroundJob)
    (phase : WorkerPhase) (event : WorkerEvent) (id : Uuid) :
    attemptsStarted id (processor.jobEntries s phase event) = [] ∨
      ∃ copy rest, phase = .working ((id,copy) :: rest) ∧ event = .start ∧
        attemptsStarted id (processor.jobEntries s phase event) = [copy.attempts] := by
  unfold jobEntries
  split
  · next other copy rest =>
    by_cases same : other = id
    · subst same
      exact Or.inr ⟨copy,rest,rfl,rfl,by simp⟩
    · exact Or.inl (by simp [same])
  · exact Or.inl attemptsStarted_retryEntry
  · next now chosen =>
    refine Or.inl ?_
    induction chosen with
    | nil => rfl
    | cons first chosen ih =>
      rw [List.flatMap_cons, attemptsStarted_append, ih, List.append_nil]
      split
      · exact attemptsStarted_retryEntry
      · rfl
  · exact Or.inl rfl

theorem copyOf_step (copies : CopyOf s id copy) (taken : processor.Step s phase event t next)
    (draft : ∀ id copy written rest, phase = .writing id copy written rest →
      WrittenFrom copy written) : CopyOf t id copy := by
  obtain ⟨job,found,behind,bound⟩ := copies.row
  obtain ⟨later,there,step⟩ := taken.find found
  obtain ⟨grown,kept⟩ := step.grows draft
  exact ⟨copies.running,copies.begun,later,there,behind.trans grown,kept.trans bound⟩

/-- What comes of an attempt whose handler has ended. -/
theorem written_of_processing {processing : Processing} {rest : List (Uuid × BackgroundJob)}
    (running : copy.status = .running)
    (processed : processSingleJob processor.text copy processing = .ok written)
    (early : processor.CancelledEarly (.running id copy rest) (.finish processing)) :
    WrittenFrom copy written := by
  cases result : processing.result processor.text with
  | ok done =>
    obtain rfl := Except.ok.inj
      ((processSingleJob_completes running result).symm.trans processed)
    exact ⟨rfl,.completed rfl,rfl,by simp [BackgroundJob.complete]⟩
  | error raised =>
    have failure := processSingleJob_fails running result processed
    obtain ⟨attempts,bound⟩ := failure.attempts
    refine ⟨attempts,.of_failure failure fun cancelled => ?_,bound,failure.not_running⟩
    exact (early _ _ _ _ _ rfl rfl result cancelled).2

theorem recorded_nil (entries : phase.entries = []) : Recorded (t,log) phase := by
  have waiting : ∀ entry, entry ∉ phase.waiting := by
    intro entry member
    cases phase <;> simp_all [WorkerPhase.entries,WorkerPhase.waiting]
  refine ⟨by simp [WorkerPhase.inHand,entries],fun entry member => ?_,
    fun entry member => absurd member (waiting entry),fun id copy written rest same => ?_⟩
  · rw [entries] at member
    exact absurd member List.not_mem_nil
  · subst same
    simp [WorkerPhase.entries] at entries

theorem fetchedJobs_inHand {now : Int} {chosen : List Uuid} (selected : Selected s (·.due now) chosen) :
    (WorkerPhase.working (fetchedJobs s now chosen)).inHand.Nodup := by
  apply List.Nodup.of_map Prod.fst
  have keys : (WorkerPhase.working (fetchedJobs s now chosen)).inHand.map Prod.fst = chosen := by
    have same : (fetchedJobs s now chosen).map Prod.fst = chosen := fetchedJobs_keys selected
    simpa [WorkerPhase.inHand,WorkerPhase.entries,List.map_map,Function.comp_def] using same
  rw [keys]
  exact selected.distinct

theorem Step.recorded (taken : processor.Step s phase event t next)
    (early : processor.CancelledEarly phase event) (counted : Counted (s,log))
    (recorded : Recorded (s,log) phase) :
    Recorded (t,log ++ processor.jobEntries s phase event) next := by
  cases taken with
  | enqueue | recover | done | abandon => exact recorded_nil rfl
  | @start s id copy rest =>
    obtain ⟨fresh,distinct⟩ := List.nodup_cons.mp recorded.distinct
    refine ⟨recorded.distinct,recorded.copies,fun entry member => ?_,fun _ _ _ _ same => by
      cases same⟩
    have before := recorded.unstarted entry (List.mem_cons_of_mem _ member)
    have apart : (entry.1,entry.2.attempts) ≠ (id,copy.attempts) := by
      intro same
      exact fresh (List.mem_map.mpr ⟨entry,member,same⟩)
    simp only [attemptsStarted_append,jobEntries,attemptsStarted_started,List.mem_append]
    rintro (earlier | now)
    · exact before earlier
    · split at now
      · next same => exact apart (by simp_all)
      · exact absurd now List.not_mem_nil
  | @finish s id copy processing written rest processed =>
    refine ⟨recorded.distinct,recorded.copies,fun entry member => ?_,?_⟩
    · simpa [jobEntries] using recorded.unstarted entry member
    · rintro _ _ _ _ ⟨⟩
      exact written_of_processing (recorded.copies _ List.mem_cons_self).running processed early
  | @fetch s now chosen selected =>
    refine ⟨fetchedJobs_inHand selected,fun entry member => ?_,fun entry member => ?_,
      fun _ _ _ _ same => by cases same⟩
    · obtain ⟨listed,job,found,same⟩ := mem_fetchedJobs.mp member
      rw [same]
      refine ⟨rfl,Nat.le_add_left 1 _,job.fetch now,?_,le_refl _,rfl⟩
      rw [find_fetchJobs selected.distinct, if_pos listed, found]
      rfl
    · obtain ⟨_,job,found,same⟩ := mem_fetchedJobs.mp member
      intro started
      simp only [jobEntries,List.append_nil] at started
      obtain ⟨_,row,there,behind⟩ := counted.started _ _ started
      obtain rfl := Option.some.inj (found.symm.trans there)
      simp only [same,BackgroundJob.fetch] at behind
      omega
  | @commit s id copy written rest =>
    obtain ⟨_,distinct⟩ := List.nodup_cons.mp recorded.distinct
    refine ⟨distinct,fun entry member => ?_,fun entry member => ?_,fun _ _ _ _ same => by
      cases same⟩
    · have commit : processor.Step s (.writing id copy written rest) .commit
          (s.update id (·.flush copy written)) (.working rest) := .commit
      exact copyOf_step (recorded.copies entry (List.mem_cons_of_mem _ member)) commit
        recorded.draft
    · simpa [jobEntries] using recorded.unstarted entry member

theorem Step.recorded_other (taken : processor.Step s phase event t next)
    (recorded : Recorded (s,log) phase) (others : Recorded (s,log) other)
    (apart : Parted phase other) :
    Recorded (t,log ++ processor.jobEntries s phase event) other := by
  refine ⟨others.distinct,fun entry member => copyOf_step (others.copies entry member) taken
    recorded.draft,fun entry member => ?_,others.draft⟩
  have before := others.unstarted entry member
  rw [attemptsStarted_append, List.mem_append]
  rintro (earlier | now)
  · exact before earlier
  · rcases jobEntries_started processor s phase event entry.1 with none | ⟨copy,rest,rfl,rfl,one⟩
    · simp [none] at now
    · obtain same := List.mem_singleton.mp (one ▸ now)
      apply apart (entry.1,copy.attempts) List.mem_cons_self
      rw [← same]
      exact List.mem_map.mpr ⟨entry,WorkerPhase.waiting_entries member,rfl⟩

theorem Step.parted (taken : processor.Step s phase event t next)
    (others : Recorded (s,log) other) (apart : Parted phase other) : Parted next other := by
  intro attempt here there
  cases taken with
  | enqueue | recover | done | abandon => exact absurd here List.not_mem_nil
  | start | finish => exact apart attempt here there
  | commit => exact apart attempt (List.mem_cons_of_mem _ here) there
  | @fetch s now chosen selected =>
    obtain ⟨mine,fetched,rfl⟩ := List.mem_map.mp here
    obtain ⟨theirs,member,same⟩ := List.mem_map.mp there
    obtain ⟨_,job,found,copy⟩ := mem_fetchedJobs.mp fetched
    obtain ⟨row,there,behind,_⟩ := (others.copies theirs member).row
    obtain ⟨key,attempts⟩ := Prod.mk.inj same
    rw [key, found] at there
    obtain rfl := Option.some.inj there
    simp only [copy,BackgroundJob.fetch] at attempts
    omega

end Processor

theorem mem_retryEntry {id : Uuid} {failedAt : Int} {written : Except Raised BackgroundJob}
    {entry : JobEntry} (member : entry ∈ retryEntry id failedAt written) :
    ∃ job, written = .ok job ∧ job.status = .pending ∧
      entry = .retried id failedAt job.attempts job.scheduledFor := by
  cases written with
  | error => exact absurd member List.not_mem_nil
  | ok job =>
    simp only [retryEntry] at member
    split at member
    · next pending => exact ⟨job,rfl,pending,List.mem_singleton.mp member⟩
    · exact absurd member List.not_mem_nil

namespace Processor

open WorkerPhase (Parted)

variable {processor : Processor} {s t : Table Uuid BackgroundJob} {phase next : WorkerPhase}
  {event : WorkerEvent} {id : Uuid} {job copy written : BackgroundJob} {log : List JobEntry}

theorem jobEntries_backOff (early : processor.CancelledEarly phase event)
    (recorded : Recorded (s,log) phase) {entry : JobEntry}
    (member : entry ∈ processor.jobEntries s phase event) (past : List JobEntry) :
    BacksOff past entry := by
  unfold jobEntries at member
  split at member
  · obtain rfl := List.mem_singleton.mp member
    rintro _ _ _ _ ⟨⟩
  · next id copy rest processing =>
    obtain ⟨job,processed,pending,rfl⟩ := mem_retryEntry member
    rintro _ _ _ _ ⟨⟩
    have running : copy.status = .running := (recorded.copies _ List.mem_cons_self).running
    cases result : processing.result processor.text with
    | ok done =>
      obtain rfl := Except.ok.inj
        ((processSingleJob_completes running result).symm.trans processed)
      simp [BackgroundJob.complete] at pending
    | error raised =>
      apply (processSingleJob_fails running result processed).backsOff _ pending
      intro cancelled
      exact (early _ _ _ _ _ rfl rfl result cancelled).1
  · next now chosen =>
    obtain ⟨id,_,inner⟩ := List.mem_flatMap.mp member
    split at inner
    · obtain ⟨job,recovered,pending,rfl⟩ := mem_retryEntry inner
      rintro _ _ _ _ ⟨⟩
      exact (BackgroundJob.recoverStale_written recovered).backsOff False.elim pending
    · exact absurd inner List.not_mem_nil
  · exact absurd member List.not_mem_nil

theorem flush_selectable (copies : CopyOf s id copy) (draft : WrittenFrom copy written)
    (found : s.find id = some job)
    (requeues : written.status = .pending → job.attempts = copy.attempts) :
    Selectable (job.flush copy written) := by
  obtain ⟨row,there,_,bound⟩ := copies.row
  obtain rfl := Option.some.inj (found.symm.trans there)
  have status : (job.flush copy written).status = written.status := by
    apply BackgroundJob.flush_status
    rw [copies.running]
    exact draft.left
  cases draft.selectable with
  | completed done => exact .completed (status.trans done)
  | deadLetter done => exact .deadLetter (status.trans done)
  | running runs => exact absurd runs draft.left
  | pending waits left =>
    refine .pending (status.trans waits) ?_
    rw [BackgroundJob.flush_attempts draft.attempts, BackgroundJob.flush_maxAttempts,
      requeues waits, bound, ← draft.bound, ← draft.attempts]
    exact left

theorem Step.selectable (taken : processor.Step s phase event t next)
    (attempted : Attempted event) (requeues : RequeuesOwn s phase event)
    (counted : Counted (s,log)) (recorded : Recorded (s,log) phase)
    (found : t.find id = some job) : Selectable job := by
  rcases taken.found found with ⟨before,there,step⟩ | ⟨_,call,rfl,rfl,rfl⟩
  · cases step with
    | kept => exact counted.selectable id job there
    | recovered _ _ failure =>
      exact .of_failure (BackgroundJob.recoverStale_written failure) False.elim
    | fetched => exact .running rfl (Option.some_ne_none _)
    | written writes commits =>
      subst writes
      apply flush_selectable (recorded.copies _ List.mem_cons_self) (recorded.draft _ _ _ _ rfl)
        there
      intro waits
      exact requeues _ _ _ _ _ rfl commits waits there
  · exact .pending rfl (attempted call rfl)

theorem Step.bounded (taken : processor.Step s phase event t next)
    (counted : Counted (s,log)) (recorded : Recorded (s,log) phase)
    (found : t.find id = some job) : job.attempts ≤ job.maxAttempts := by
  rcases taken.found found with ⟨before,there,step⟩ | ⟨_,call,rfl,rfl,rfl⟩
  · have bounded := counted.bounded id before there
    cases step with
    | kept => exact bounded
    | recovered _ _ failure =>
      obtain ⟨attempts,bound⟩ := (BackgroundJob.recoverStale_written failure).attempts
      omega
    | fetched _ _ _ due =>
      simp only [BackgroundJob.due,Bool.and_eq_true,decide_eq_true_eq] at due
      exact due.1.2
    | written writes =>
      rw [BackgroundJob.flush_attempts (recorded.draft _ _ _ _ writes).attempts]
      exact bounded
  · exact Nat.zero_le _

theorem Step.started (taken : processor.Step s phase event t next) (counted : Counted (s,log))
    (recorded : Recorded (s,log) phase) (id : Uuid) :
    (attemptsStarted id (log ++ processor.jobEntries s phase event)).Nodup ∧
      ∀ attempt ∈ attemptsStarted id (log ++ processor.jobEntries s phase event),
        1 ≤ attempt ∧ ∃ job, t.find id = some job ∧ attempt ≤ job.attempts := by
  have earlier : ∀ attempt ∈ attemptsStarted id log,
      1 ≤ attempt ∧ ∃ job, t.find id = some job ∧ attempt ≤ job.attempts := by
    intro attempt member
    obtain ⟨begun,job,found,behind⟩ := counted.started id attempt member
    obtain ⟨later,there,step⟩ := taken.find found
    exact ⟨begun,later,there,behind.trans (step.grows recorded.draft).1⟩
  rw [attemptsStarted_append]
  rcases jobEntries_started processor s phase event id with none | ⟨copy,rest,rfl,rfl,one⟩
  · rw [none, List.append_nil]
    exact ⟨counted.once id,earlier⟩
  · rw [one]
    refine ⟨?_,fun attempt member => ?_⟩
    · have fresh := recorded.unstarted (id,copy) List.mem_cons_self
      exact (counted.once id).append (List.nodup_singleton _) (by simpa using fresh)
    · rcases List.mem_append.mp member with old | new
      · exact earlier attempt old
      · obtain rfl := List.mem_singleton.mp new
        obtain ⟨job,found,behind,_⟩ :=
          (copyOf_step (recorded.copies _ List.mem_cons_self) taken recorded.draft).row
        exact ⟨(recorded.copies _ List.mem_cons_self).begun,job,found,behind⟩

theorem Step.counted (taken : processor.Step s phase event t next) (attempted : Attempted event)
    (early : processor.CancelledEarly phase event) (requeues : RequeuesOwn s phase event)
    (counted : Counted (s,log)) (recorded : Recorded (s,log) phase) :
    Counted (t,log ++ processor.jobEntries s phase event) where
  selectable _ _ found := taken.selectable attempted requeues counted recorded found
  bounded _ _ found := taken.bounded counted recorded found
  started id := (taken.started counted recorded id).2
  once id := (taken.started counted recorded id).1
  backoff := by
    apply counted.backoff.append
    intro past entry later split
    apply jobEntries_backOff early recorded
    simp [split]

theorem steady_discipline (processor : Processor) :
    Interleaving.Discipline processor.steadyProtocol Counted Recorded Parted where
  symmetric _ _ apart attempt there here := apart attempt here there
  own := by
    rintro ⟨s,log⟩ phase event ⟨t,later⟩ next counted recorded taken
    obtain ⟨⟨⟨step,logged⟩,attempted⟩,early,requeues⟩ := taken
    simp only at step logged requeues
    subst logged
    exact ⟨step.counted attempted early requeues counted recorded,
      step.recorded early counted recorded⟩
  exclusive := by
    rintro ⟨s,log⟩ phase event ⟨t,later⟩ next other _ _ others apart taken _
    exact Step.parted taken.1.1.1 others apart
  undisturbed := by
    rintro ⟨s,log⟩ phase event ⟨t,later⟩ next other _ recorded others apart taken _
    obtain ⟨⟨⟨step,logged⟩,_⟩,_⟩ := taken
    simp only at step logged
    subst logged
    exact step.recorded_other recorded others apart

theorem opening_good {system : RecordedSystem ι} (opening : QueueOpening system) :
    Interleaving.Good Counted Recorded Parted system := by
  have nothing : ∀ id, system.shared.1.find id = none := by
    intro id
    rw [opening.jobs]
    exact Table.find_empty
  refine ⟨⟨fun id job found => ?_,fun id job found => ?_,fun id attempt member => ?_,fun id => ?_,
    ?_⟩,fun party => ?_,fun party other _ attempt held => ?_⟩
  · simp [nothing id] at found
  · simp [nothing id] at found
  · simp [opening.log] at member
  · simp [opening.log]
  · rw [opening.log]
    exact .nil
  · rw [opening.idle party]
    exact recorded_nil rfl
  · rw [opening.idle party] at held
    exact absurd held List.not_mem_nil

end Processor

theorem Counted.starts {s : Table Uuid BackgroundJob × List JobEntry} (counted : Counted s)
    {id : Uuid} {job : BackgroundJob} (found : s.1.find id = some job) :
    (attemptsStarted id s.2).length ≤ job.attempts := by
  have inside : attemptsStarted id s.2 ⊆ List.range' 1 job.attempts := by
    intro attempt member
    obtain ⟨begun,row,there,behind⟩ := counted.started id attempt member
    obtain rfl := Option.some.inj (found.symm.trans there)
    rw [List.mem_range'_1]
    omega
  have length := ((counted.once id).subperm inside).length_le
  simpa using length

theorem Counted.law {s : Table Uuid BackgroundJob × List JobEntry} (counted : Counted s)
    (processor : Processor) : AttemptsLaw processor s.1 s.2 where
  bounded id job found := (counted.starts found).trans (counted.bounded id job found)
  backoff := counted.backoff
  selectable := counted.selectable
  selected id job found kept unfinished :=
    (counted.selectable id job found).selected kept unfinished processor.lockTimeoutMinutes

/-- A handler starts within its job's attempts, a retry waits for its backoff and no job is
lost, when handlers are cancelled early and workers requeue their own attempts. -/
theorem attempts_bounded [DecidableEq ι] (processor : Processor)
    {opening final : Processor.RecordedSystem ι} {events : List (ι × WorkerEvent)}
    (opens : QueueOpening opening) (run : Trace processor.SteadySteps opening events final) :
    AttemptsLaw processor final.shared.1 final.shared.2 :=
  ((Processor.steady_discipline processor).run run
    (Processor.opening_good opens)).invariant.law processor

namespace AttemptSample

def processor : Processor := ⟨.asciiOnly,30⟩

def call (maxAttempts : Nat) : EnqueueCall where
  id := 1
  jobType := "zombie_scan"
  scheduledFor := 0
  maxAttempts

def queue (maxAttempts : Nat) : Table Uuid BackgroundJob :=
  ⟨[(1,(call maxAttempts).job)],List.nodup_singleton _⟩

def copy (maxAttempts : Nat) : BackgroundJob := (call maxAttempts).job.fetch 0

def started (maxAttempts : Nat) : Table Uuid BackgroundJob := fetchJobs (queue maxAttempts) 0 [1]

theorem due {maxAttempts : Nat} (attempted : 1 ≤ maxAttempts) :
    Selected (queue maxAttempts) (·.due 0) [1] := by
  refine ⟨List.nodup_singleton _,fun id member => ?_⟩
  obtain rfl := List.mem_singleton.mp member
  refine ⟨(call maxAttempts).job,rfl,?_⟩
  simpa [BackgroundJob.due,EnqueueCall.job,call,Nat.pos_iff_ne_zero,Nat.one_le_iff_ne_zero]
    using attempted

theorem recorded {s t : Table Uuid BackgroundJob} {phase next : WorkerPhase} {event : WorkerEvent}
    (taken : processor.Step s phase event t next) (attempted : Attempted event)
    (log : List JobEntry) :
    Interleaving.Solo processor.recordedProtocol ((s,log),phase) event
      ((t,log ++ processor.jobEntries s phase event),next) := ⟨⟨taken,rfl⟩,attempted⟩

/-- A step that neither ends a handler nor commits meets the guards. -/
theorem steady {s t : Table Uuid BackgroundJob} {phase next : WorkerPhase} {event : WorkerEvent}
    (taken : processor.Step s phase event t next) (attempted : Attempted event)
    (runs : ∀ processing, event ≠ .finish processing) (writes : event ≠ .commit)
    (log : List JobEntry) :
    Interleaving.Solo processor.steadyProtocol ((s,log),phase) event
      ((t,log ++ processor.jobEntries s phase event),next) := by
  refine ⟨recorded taken attempted log,?_,?_⟩
  · intro id copy rest processing raised _ finishes
    exact absurd finishes (runs processing)
  · intro id copy written rest job _ commits
    exact absurd commits writes

theorem taken_up {maxAttempts : Nat} (attempted : 1 ≤ maxAttempts) : ∃ events log,
    Trace (Interleaving.Solo processor.steadyProtocol) ((.empty,[]),.idle) events
      ((started maxAttempts,log),.running 1 (copy maxAttempts) []) := by
  have enqueue : processor.Step .empty .idle (.enqueue (call maxAttempts)) (queue maxAttempts)
      .idle := .enqueue rfl
  have recover : processor.Step (queue maxAttempts) .idle (.recover 0 []) (queue maxAttempts)
      (.fetching 0) := .recover ⟨List.nodup_nil,by simp⟩ (by simp)
  have fetch : processor.Step (queue maxAttempts) (.fetching 0) (.fetch [1]) (started maxAttempts)
      (.working [(1,copy maxAttempts)]) := .fetch (due attempted)
  have start : processor.Step (started maxAttempts) (.working [(1,copy maxAttempts)]) .start
      (started maxAttempts) (.running 1 (copy maxAttempts) []) := .start
  refine ⟨_,_,.go (steady enqueue ?_ ?_ ?_ _) (.go (steady recover ?_ ?_ ?_ _)
    (.go (steady fetch ?_ ?_ ?_ _) (.go (steady start ?_ ?_ ?_ _) .stop)))⟩
  · rintro _ ⟨⟩
    exact attempted
  all_goals simp [Attempted]

theorem opens : QueueOpening (pair (Table.empty,([] : List JobEntry)) .idle .idle) :=
  ⟨rfl,rfl,fun party => Interleaving.pair_phase party⟩

def cancelled : Processing where
  begunAt := 0
  outcome := .error ⟨.cancelledError,"CancelledError",""⟩
  endedAt := 0

def requeued : BackgroundJob :=
  { copy 1 with
    errorMessage := some "Job was cancelled"
    status := .pending
    scheduledFor := microseconds 60
    startedAt := none }

end AttemptSample

/-- A worker takes up a job of three attempts. -/
theorem attempts_bounded_alone : ∃ jobs log,
    jobs.find 1 = some (AttemptSample.copy 3) ∧ AttemptsLaw AttemptSample.processor jobs log := by
  have three_attempts : 1 ≤ 3 := by decide
  obtain ⟨events,log,run⟩ := AttemptSample.taken_up three_attempts
  have among : Trace AttemptSample.processor.SteadySteps
      (pair (.empty,[]) .idle .idle) _ (pair (AttemptSample.started 3,log) _ .idle) :=
    Interleaving.first_run run fun _ _ _ => ⟨⟨trivial,trivial⟩,trivial⟩
  exact ⟨_,log,rfl,attempts_bounded AttemptSample.processor AttemptSample.opens among⟩

/-- A job whose only attempt is cancelled waits for a fetch that never selects it. -/
theorem cancelled_job_hidden : ∃ (opening final : Processor.RecordedSystem Bool)
    (events : List (Bool × WorkerEvent)), QueueOpening opening ∧
      Trace AttemptSample.processor.RecordedSteps opening events final ∧
      ¬AttemptsLaw AttemptSample.processor final.shared.1 final.shared.2 := by
  obtain ⟨events,log,run⟩ := AttemptSample.taken_up (le_refl 1)
  have finish : AttemptSample.processor.Step (AttemptSample.started 1)
      (.running 1 (AttemptSample.copy 1) []) (.finish AttemptSample.cancelled)
      (AttemptSample.started 1) (.writing 1 (AttemptSample.copy 1) AttemptSample.requeued []) :=
    .finish (by
      simp [processSingleJob,Processing.result,AttemptSample.cancelled,BackgroundJob.recordFailure,
        ExceptionClass.isInstance,ExceptionClass.mro,BackgroundJob.cancel,after,microseconds,
        maxInstant,BackgroundJob.begin,AttemptSample.copy,BackgroundJob.fetch,
        AttemptSample.requeued,bind,Except.bind,pure,Except.pure])
  have commit : AttemptSample.processor.Step (AttemptSample.started 1)
      (.writing 1 (AttemptSample.copy 1) AttemptSample.requeued []) .commit
      ((AttemptSample.started 1).update 1 (·.flush (AttemptSample.copy 1) AttemptSample.requeued))
      (.working []) := .commit
  have plain : Trace (Interleaving.Solo AttemptSample.processor.recordedProtocol) _ _ _ :=
    run.mono fun taken => taken.1
  have whole := plain.trans (.go (AttemptSample.recorded finish (by simp [Attempted]) _)
    (.go (AttemptSample.recorded commit (by simp [Attempted]) _) .stop))
  refine ⟨_,_,_,AttemptSample.opens,
    Interleaving.first_run whole fun _ _ _ => ⟨trivial,trivial⟩,fun law => ?_⟩
  have hidden : Selectable ((AttemptSample.copy 1).flush (AttemptSample.copy 1)
      AttemptSample.requeued) := law.selectable 1 _ rfl
  cases hidden with
  | completed status => simp [AttemptSample.requeued] at status
  | deadLetter status => simp [AttemptSample.requeued] at status
  | pending status left => exact absurd left (by decide)
  | running status => simp [AttemptSample.requeued] at status

end Valdrics.Jobs

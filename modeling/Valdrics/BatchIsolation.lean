import Valdrics.JobQueue

/-! Jobs of one batch and the failures of the others. The loop survives what its two levels
of `except` clauses name; an exception outside them ends the batch with its job RUNNING. -/
namespace Valdrics.Jobs

open Enforcement (Uuid)

def handledErrors : List ExceptionClass :=
  [.permanentJobError,.timeoutError,.cancelledError] ++ jobRuntimeRecoverableErrors ++
    jobRuntimeUnexpectedErrors

def retryDelay (job : BackgroundJob) (raised : Raised) : Option Nat :=
  if raised.cls.isInstance [.permanentJobError] then none
  else if raised.cls.isInstance [.cancelledError] then some 60
  else if job.maxAttempts ≤ job.attempts then none
  else some job.backoffSeconds

/-- A handler's end that the processor can record: an exception it names, and a date for
the retry that exists. -/
structure Contained (text : Lowercase) (job : BackgroundJob) (processing : Processing) :
    Prop where
  handled : ∀ raised, processing.result text = .error raised →
    raised.cls.isInstance handledErrors = true
  representable : ∀ raised delay, processing.result text = .error raised →
    retryDelay job raised = some delay → processing.endedAt + microseconds delay ≤ maxInstant

/-- A call of `process_pending_jobs` from its fetch on. -/
structure BatchRun where
  text : Lowercase
  jobs : Table Uuid BackgroundJob
  now : Int
  chosen : List Uuid
  selected : Selected jobs (·.due now) chosen
  processing : Uuid → Processing

namespace BatchRun

variable (run : BatchRun)

def fetched : List (Uuid × BackgroundJob) := fetchedJobs run.jobs run.now run.chosen

def outcome : Except Raised BatchResults × Table Uuid BackgroundJob :=
  processJobs run.text run.processing run.fetched {} (fetchJobs run.jobs run.now run.chosen)

def final : Table Uuid BackgroundJob := run.outcome.2

def Fails (id : Uuid) : Prop := ∃ raised, (run.processing id).result run.text = .error raised

def without (id : Uuid) : BatchRun :=
  { run with
    chosen := run.chosen.erase id
    selected := ⟨run.selected.distinct.erase id,
      fun other member => run.selected.matching other (List.mem_of_mem_erase member)⟩ }

/-- Each failing job leaves RUNNING with its error, and every other job of the batch is
processed and ends as it would have without it. -/
structure Isolated : Prop where
  others : ∀ id ∈ run.chosen, run.Fails id → ∀ other ∈ run.chosen, other ≠ id →
    ∃ job, run.final.find other = some job ∧ job.status ≠ .running ∧
      ∃ alone, (run.without id).final.find other = some alone ∧ alone.status = job.status ∧
        alone.attempts = job.attempts
  failing : ∀ id ∈ run.chosen, run.Fails id → ∃ job, run.final.find id = some job ∧
    job.errorMessage ≠ none ∧ (job.status = .deadLetter ∨ (job.status = .pending ∧
      (run.processing id).endedAt + microseconds 60 ≤ job.scheduledFor))

end BatchRun

section Process

variable {text : Lowercase} {job written : BackgroundJob} {processing : Processing}
  {raised : Raised} {now : Int} {message : String} {permanent : Bool}

theorem applyFailureTransition_ok_iff :
    (∃ written, job.applyFailureTransition message now permanent = .ok written) ↔
      permanent = true ∨ job.maxAttempts ≤ job.attempts ∨
        now + microseconds job.backoffSeconds ≤ maxInstant := by
  by_cases done : permanent = true ∨ job.maxAttempts ≤ job.attempts
  · simp only [BackgroundJob.applyFailureTransition,done,if_true]
    refine ⟨fun _ => ?_,fun _ => ⟨_,rfl⟩⟩
    rcases done with final | spent
    · exact Or.inl final
    · exact Or.inr (Or.inl spent)
  · rw [← or_assoc, or_iff_right done]
    by_cases fits : now + microseconds job.backoffSeconds ≤ maxInstant
    · simp [BackgroundJob.applyFailureTransition,done,after,fits,bind,Except.bind,pure,Except.pure]
    · simp [BackgroundJob.applyFailureTransition,done,after,fits,bind,Except.bind]

theorem cancel_ok_iff :
    (∃ written, job.cancel now = .ok written) ↔ now + microseconds 60 ≤ maxInstant := by
  by_cases fits : now + microseconds 60 ≤ maxInstant
  · simp [BackgroundJob.cancel,after,fits,bind,Except.bind,pure,Except.pure]
  · simp [BackgroundJob.cancel,after,fits,bind,Except.bind]

/-- What the `except` clauses record: the classes they name, when the retry has a date. -/
theorem recordFailure_ok_iff : (∃ written, job.recordFailure raised now = .ok written) ↔
    raised.cls.isInstance handledErrors = true ∧
      ∀ delay, retryDelay job raised = some delay → now + microseconds delay ≤ maxInstant := by
  obtain ⟨cls,typeName,described⟩ := raised
  have retried : (job.maxAttempts ≤ job.attempts ∨
      now + microseconds job.backoffSeconds ≤ maxInstant) ↔
      ∀ delay, (if job.maxAttempts ≤ job.attempts then none else some job.backoffSeconds) =
        some delay → now + microseconds delay ≤ maxInstant := by
    by_cases spent : job.maxAttempts ≤ job.attempts <;> simp [spent]
  cases cls with
  | permanentJobError =>
    simp [BackgroundJob.recordFailure,ExceptionClass.isInstance,ExceptionClass.mro,handledErrors,
      applyFailureTransition_ok_iff,retryDelay]
  | cancelledError =>
    simp [BackgroundJob.recordFailure,ExceptionClass.isInstance,ExceptionClass.mro,handledErrors,
      cancel_ok_iff,retryDelay]
  | valdricsException | other =>
    simp [BackgroundJob.recordFailure,ExceptionClass.isInstance,ExceptionClass.mro,handledErrors,
      jobRuntimeRecoverableErrors,jobRuntimeUnexpectedErrors]
  | _ =>
    simpa [BackgroundJob.recordFailure,ExceptionClass.isInstance,ExceptionClass.mro,handledErrors,
      jobRuntimeRecoverableErrors,jobRuntimeUnexpectedErrors,applyFailureTransition_ok_iff,
      retryDelay] using retried

/-- An exception that gets past the clauses gets past the loop. -/
theorem recordFailure_error {escaped : Raised} (failed : job.recordFailure raised now = .error escaped) :
    escaped.cls.isInstance jobRuntimeRecoverableErrors = false := by
  have late {seconds : Nat} (overflow : after now seconds = .error escaped) :
      escaped.cls.isInstance jobRuntimeRecoverableErrors = false := by
    unfold after at overflow
    split at overflow
    · contradiction
    · obtain rfl := Except.error.inj overflow
      rfl
  have transition {message : String} {permanent : Bool}
      (failed : job.applyFailureTransition message now permanent = .error escaped) :
      escaped.cls.isInstance jobRuntimeRecoverableErrors = false := by
    unfold BackgroundJob.applyFailureTransition at failed
    split at failed
    · contradiction
    · cases fits : after now job.backoffSeconds with
      | ok => simp [fits,bind,Except.bind,pure,Except.pure] at failed
      | error overflow =>
        simp only [fits,bind,Except.bind,Except.error.injEq] at failed
        subst failed
        exact late fits
  unfold BackgroundJob.recordFailure at failed
  split at failed
  · exact transition failed
  split at failed
  · exact transition failed
  split at failed
  · unfold BackgroundJob.cancel at failed
    cases fits : after now 60 with
    | ok => simp [fits,bind,Except.bind,pure,Except.pure] at failed
    | error overflow =>
      simp only [fits,bind,Except.bind,Except.error.injEq] at failed
      subst failed
      exact late fits
  split at failed
  · exact transition failed
  · next unrecovered =>
    split at failed
    · exact transition failed
    · obtain rfl := Except.error.inj failed
      simpa using unrecovered

theorem processSingleJob_error {escaped : Raised}
    (failed : processSingleJob text job processing = .error escaped) :
    escaped.cls.isInstance jobRuntimeRecoverableErrors = false ∧
      ∃ raised, processing.result text = .error raised := by
  unfold processSingleJob at failed
  split at failed
  · contradiction
  · next raised result => exact ⟨recordFailure_error failed,raised,result⟩

variable (running : job.status = .running)
include running

theorem contained_iff : Contained text job processing ↔
    ∃ written, processSingleJob text job processing = .ok written := by
  unfold processSingleJob
  cases result : processing.result text with
  | ok => exact ⟨fun _ => ⟨_,rfl⟩,fun _ => ⟨by simp [result],by simp [result]⟩⟩
  | error raised =>
    rw [BackgroundJob.begin_running running]
    refine Iff.trans ?_ recordFailure_ok_iff.symm
    constructor
    · intro contained
      exact ⟨contained.handled raised result,fun delay => contained.representable raised delay result⟩
    · rintro ⟨handled,representable⟩
      refine ⟨fun other same => ?_,fun other delay same => ?_⟩
      · obtain rfl := Except.error.inj (result.symm.trans same)
        exact handled
      · obtain rfl := Except.error.inj (result.symm.trans same)
        exact representable delay

end Process

section Loop

variable {text : Lowercase} {processing : Uuid → Processing}
  {entries : List (Uuid × BackgroundJob)} {results : BatchResults}
  {jobs : Table Uuid BackgroundJob}

/-- The loop writes the rows of its batch only. -/
theorem processJobs_other {id : Uuid} (away : id ∉ entries.map Prod.fst) :
    (processJobs text processing entries results jobs).2.find id = jobs.find id := by
  induction entries generalizing results jobs with
  | nil => rfl
  | cons entry entries ih =>
    rw [List.map_cons, List.mem_cons, not_or] at away
    unfold processJobs
    split
    · exact (ih away.2).trans (Table.find_update_other _ away.1)
    · split
      · exact ih away.2
      · rfl

variable (distinct : (entries.map Prod.fst).Nodup)
  (there : ∀ entry ∈ entries, jobs.find entry.1 = some entry.2)
include distinct there

/-- Where nothing escapes, every job ends as its own processing says. -/
theorem processJobs_all (contained : ∀ entry ∈ entries, ∃ written,
      processSingleJob text entry.2 (processing entry.1) = .ok written)
    {id : Uuid} {copy written : BackgroundJob} (member : (id,copy) ∈ entries)
    (processed : processSingleJob text copy (processing id) = .ok written) :
    (processJobs text processing entries results jobs).2.find id =
      some (copy.flush copy written) := by
  induction entries generalizing results jobs with
  | nil => simp at member
  | cons entry entries ih =>
    obtain ⟨first,done⟩ := contained entry List.mem_cons_self
    rw [List.map_cons, List.nodup_cons] at distinct
    have later : ∀ e ∈ entries, (jobs.update entry.1 (·.flush entry.2 first)).find e.1 = some e.2 := by
      intro e listed
      have apart : e.1 ≠ entry.1 := by
        intro same
        exact distinct.1 (same ▸ List.mem_map_of_mem listed)
      rw [Table.find_update_other _ apart]
      exact there e (List.mem_cons_of_mem entry listed)
    unfold processJobs
    rw [done]
    rcases List.mem_cons.mp member with rfl | rest
    · obtain rfl := Except.ok.inj (done.symm.trans processed)
      rw [processJobs_other distinct.1, Table.find_update_same,
        there _ List.mem_cons_self, Option.map_some]
    · exact ih distinct.2 later (fun e listed => contained e (List.mem_cons_of_mem entry listed)) rest

theorem processJobs_escape (running : ∀ entry ∈ entries, entry.2.status = .running)
    (escapes : ∃ entry ∈ entries, ∀ written,
      processSingleJob text entry.2 (processing entry.1) ≠ .ok written) :
    ∃ entry ∈ entries, (∃ raised, (processing entry.1).result text = .error raised) ∧
      (processJobs text processing entries results jobs).2.find entry.1 = some entry.2 := by
  induction entries generalizing results jobs with
  | nil => simp at escapes
  | cons entry entries ih =>
    rw [List.map_cons, List.nodup_cons] at distinct
    cases done : processSingleJob text entry.2 (processing entry.1) with
    | error escaped =>
      obtain ⟨unhandled,fails⟩ := processSingleJob_error done
      refine ⟨entry,List.mem_cons_self,fails,?_⟩
      simp [processJobs,done,unhandled,there entry List.mem_cons_self]
    | ok first =>
      have rest : ∃ e ∈ entries, ∀ written,
          processSingleJob text e.2 (processing e.1) ≠ .ok written := by
        obtain ⟨e,member,escape⟩ := escapes
        rcases List.mem_cons.mp member with rfl | listed
        · exact absurd done (escape first)
        · exact ⟨e,listed,escape⟩
      have later : ∀ e ∈ entries, (jobs.update entry.1 (·.flush entry.2 first)).find e.1 =
          some e.2 := by
        intro e listed
        have apart : e.1 ≠ entry.1 := by
          intro same
          exact distinct.1 (same ▸ List.mem_map_of_mem listed)
        rw [Table.find_update_other _ apart]
        exact there e (List.mem_cons_of_mem entry listed)
      obtain ⟨e,listed,fails,same⟩ := @ih (results.record entry.1 first) _ distinct.2 later
        (fun e listed => running e (List.mem_cons_of_mem entry listed)) rest
      refine ⟨e,List.mem_cons_of_mem entry listed,fails,?_⟩
      simpa [processJobs,done] using same

end Loop

namespace BatchRun

variable (run : BatchRun) {id other : Uuid} {job copy : BackgroundJob}

theorem fetched_distinct : (run.fetched.map Prod.fst).Nodup := by
  rw [fetched, fetchedJobs_keys run.selected]
  exact run.selected.distinct

theorem fetched_there : ∀ entry ∈ run.fetched,
    (fetchJobs run.jobs run.now run.chosen).find entry.1 = some entry.2 := by
  intro entry member
  obtain ⟨listed,job,found,same⟩ := mem_fetchedJobs.mp member
  rw [find_fetchJobs run.selected.distinct, if_pos listed, found, same]
  rfl

theorem fetched_running : ∀ entry ∈ run.fetched, entry.2.status = .running := by
  intro entry member
  obtain ⟨_,job,_,same⟩ := mem_fetchedJobs.mp member
  rw [same]
  rfl

theorem escapes (escape : ∃ entry ∈ run.fetched, ∀ written,
    processSingleJob run.text entry.2 (run.processing entry.1) ≠ .ok written) :
    ∃ entry ∈ run.fetched, run.Fails entry.1 ∧ run.final.find entry.1 = some entry.2 :=
  processJobs_escape run.fetched_distinct run.fetched_there run.fetched_running escape

def AllContained : Prop :=
  ∀ id ∈ run.chosen, ∀ job, run.jobs.find id = some job →
    Contained run.text (job.fetch run.now) (run.processing id)

theorem AllContained.processed {run : BatchRun} (contained : run.AllContained) :
    ∀ entry ∈ run.fetched, ∃ written,
      processSingleJob run.text entry.2 (run.processing entry.1) = .ok written := by
  intro entry member
  obtain ⟨listed,job,found,same⟩ := mem_fetchedJobs.mp member
  have ends := contained entry.1 listed job found
  rw [← same] at ends
  exact (contained_iff (run.fetched_running entry member)).mp ends

theorem AllContained.without {run : BatchRun} (contained : run.AllContained) (id : Uuid) :
    (run.without id).AllContained :=
  fun other member => contained other (List.mem_of_mem_erase member)

/-- Where every end is recorded, the row of a job is what its own processing makes of it. -/
theorem AllContained.final {run : BatchRun} (contained : run.AllContained)
    (listed : id ∈ run.chosen) (found : run.jobs.find id = some job) :
    ∃ written, processSingleJob run.text (job.fetch run.now) (run.processing id) = .ok written ∧
      run.final.find id = some ((job.fetch run.now).flush (job.fetch run.now) written) := by
  have member : (id,job.fetch run.now) ∈ run.fetched := mem_fetchedJobs.mpr ⟨listed,job,found,rfl⟩
  obtain ⟨written,processed⟩ := contained.processed _ member
  exact ⟨written,processed,processJobs_all run.fetched_distinct run.fetched_there
    contained.processed member processed⟩

end BatchRun

/-- A batch is isolated if and only if each of its handlers ends in a way that the
processor names, with a date for the retry. -/
theorem batch_isolated_iff (run : BatchRun) : run.Isolated ↔ run.AllContained := by
  constructor
  · intro isolated
    by_contra escapes
    have escape : ∃ entry ∈ run.fetched, ∀ written,
        processSingleJob run.text entry.2 (run.processing entry.1) ≠ .ok written := by
      by_contra all
      push Not at all
      apply escapes
      intro id listed job found
      have member : (id,job.fetch run.now) ∈ run.fetched :=
        mem_fetchedJobs.mpr ⟨listed,job,found,rfl⟩
      exact (contained_iff (run.fetched_running _ member)).mpr (all _ member)
    obtain ⟨entry,member,fails,same⟩ := run.escapes escape
    obtain ⟨job,found,_,left⟩ := isolated.failing entry.1 (mem_fetchedJobs.mp member).1 fails
    obtain rfl := Option.some.inj (same.symm.trans found)
    have running := run.fetched_running entry member
    rcases left with dead | ⟨pending,_⟩
    · simp [running] at dead
    · simp [running] at pending
  · intro contained
    refine ⟨fun id _ _ other listed apart => ?_,fun id listed fails => ?_⟩
    · obtain ⟨job,found,_⟩ := run.selected.matching other listed
      obtain ⟨written,processed,final⟩ := contained.final listed found
      have kept : other ∈ (run.without id).chosen := (List.mem_erase_of_ne apart).mpr listed
      obtain ⟨again,same,alone⟩ := (contained.without id).final kept found
      obtain rfl := Except.ok.inj (processed.symm.trans same)
      refine ⟨_,final,?_,_,alone,rfl,rfl⟩
      rw [BackgroundJob.flush_self_status]
      exact processSingleJob_leaves rfl processed
    · obtain ⟨job,found,_⟩ := run.selected.matching id listed
      obtain ⟨written,processed,final⟩ := contained.final listed found
      obtain ⟨raised,failed⟩ := fails
      have failure := processSingleJob_fails rfl failed processed
      refine ⟨_,final,?_,?_⟩
      · rw [BackgroundJob.flush_self_errorMessage]
        exact failure.recorded
      · rw [BackgroundJob.flush_self_status, BackgroundJob.flush_self_scheduledFor]
        exact failure.leaves

namespace Sample

def twoJobs : BatchRun where
  text := .asciiOnly
  jobs := ⟨[(1,⟨"remediation",some 5,.pending,0,3,0,none,none,none,false⟩),
    (2,⟨"zombie_scan",some 6,.pending,0,3,0,none,none,none,false⟩)],by decide⟩
  now := 0
  chosen := [1,2]
  selected := by
    refine ⟨by decide,fun id member => ?_⟩
    rcases List.mem_pair.mp member with rfl | rfl
    · exact ⟨_,rfl,rfl⟩
    · exact ⟨_,rfl,rfl⟩
  processing id :=
    if id = 1 then ⟨0,.error ⟨.valdricsException,"ResourceNotFoundError",
      "[remediation_request_not_found] Remediation request not found (Status: 404)"⟩,0⟩
    else ⟨0,.ok { status := "completed" },0⟩

end Sample

/-- An application exception of the first job leaves both jobs RUNNING. -/
theorem valdrics_exception_escapes : ¬Sample.twoJobs.Isolated := by
  intro isolated
  obtain ⟨job,found,processed,_⟩ := isolated.others 1 (by decide) ⟨_,rfl⟩ 2 (by decide) (by decide)
  obtain rfl := Option.some.inj found
  exact processed rfl

end Valdrics.Jobs

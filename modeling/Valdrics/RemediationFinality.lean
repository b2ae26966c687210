import Valdrics.RemediationRules

/-! Terminal requests. A commit that finds its row as its call expects keeps one session at
a time on an EXECUTING request, and none on a terminal one. An execution writes FAILED on
any other row, and a hard-limit loop APPROVED. -/
namespace Valdrics.Optimization

open Enforcement (Uuid)

namespace RemediationRuntime

/-- A commit of this phase finds its row as the call expects: approved or scheduled for the
first commit of an execution, not yet executed for the others. -/
def ExpectedRow (s : Remediation) : RemediationPhase → Prop
  | .writing _ _ row _ _ _ | .failing _ _ row _ => row.status.startable = true
  | .reviewing _ _ _ row _ => row.status.unstarted = true
  | .approving _ requestId _ _ _ =>
    ∀ row, s.store.requests.find requestId = some row → row.status.unstarted = true
  | .failingExpired execution _ _ =>
    ∀ row, s.store.requests.find execution.requestId = some row → row.status.unstarted = true
  | _ => True

def ExpectedCommit (s : Remediation) (phase : RemediationPhase) (event : RemediationEvent) : Prop :=
  event = .commit → ExpectedRow s phase

variable (runtime : RemediationRuntime)

def expectedProtocol : Protocol Remediation RemediationPhase RemediationEvent :=
  runtime.remediationProtocol.restrict ExpectedCommit fun _ _ _ _ => True

def RemediationSteps [DecidableEq ι] (system : RemediationSystem ι)
    (event : ι × RemediationEvent) (next : RemediationSystem ι) : Prop :=
  Interleaving.Step runtime.remediationProtocol system event next

def ExpectedSteps [DecidableEq ι] (system : RemediationSystem ι)
    (event : ι × RemediationEvent) (next : RemediationSystem ι) : Prop :=
  Interleaving.Step runtime.expectedProtocol system event next

end RemediationRuntime

namespace RemediationPhase

/-- What a session has in memory, whatever the tables hold. -/
def Remembers : RemediationPhase → Prop
  | .reviewing kind _ copy _ written => Reviewed kind copy written
  | .writing _ copy _ written write _ => copy.status.startable = true ∧
      written.status = write.status ∧ written.target = copy.target
  | .failing _ _ _ written | .failingLate _ _ written _ => written.status = .failed
  | .finished _ _ written => written.status = .completed ∨ written.status = .failed
  | .approving _ _ copy written _ => written.target = copy.target
  | _ => True

structure Holds (s : Remediation) (phase : RemediationPhase) : Prop where
  remembers : phase.Remembers
  locked : ∀ id row, phase.lockedRow = some (id,row) → s.store.requests.find id = some row
  running : ∀ id, phase.runs = some id → ∃ row, s.store.requests.find id = some row ∧
    row.status = .executing

/-- No row is locked twice, and no request runs twice. -/
structure Apart (a b : RemediationPhase) : Prop where
  held : ∀ id ∈ a.held, id ∉ b.held
  runs : ∀ id, a.runs = some id → b.runs ≠ some id

theorem Apart.symm {a b : RemediationPhase} (apart : Apart a b) : Apart b a :=
  ⟨fun id there here => apart.held id here there,fun id there here => apart.runs id here there⟩

theorem Holds.free {s : Remediation} {phase : RemediationPhase} (remembers : phase.Remembers)
    (unlocked : phase.lockedRow = none) (idle : phase.runs = none) : Holds s phase :=
  ⟨remembers,fun id row locked => by simp [unlocked] at locked,
    fun id runs => by simp [idle] at runs⟩

end RemediationPhase

namespace RemediationRuntime

open RemediationPhase (Holds Apart Remembers)

variable {runtime : RemediationRuntime} {s t : Remediation}
  {phase next other : RemediationPhase} {event : RemediationEvent} {id : Uuid}
  {row : RemediationRequest}

theorem written_row {f : RemediationRequest → RemediationRequest} (holds : Holds s phase)
    (expected : ExpectedRow s phase) (writes : phase.writes = some (id,f))
    (found : s.store.requests.find id = some row) :
    row.status.unstarted = true ∨ (row.status = .executing ∧ phase.runs = some id) := by
  have started (runs : phase.runs = some id) : row.status = .executing := by
    obtain ⟨before,there,status⟩ := holds.running id runs
    rw [found] at there
    rw [Option.some.inj there]
    exact status
  have locked {before : RemediationRequest} (lock : phase.lockedRow = some (id,before)) :
      row = before := by
    have there := holds.locked id before lock
    exact Option.some.inj (found.symm.trans there)
  cases phase with
  | reviewing kind requestId copy before written =>
    obtain ⟨rfl,-⟩ := Prod.mk.inj (Option.some.inj writes)
    left
    rw [locked rfl]
    exact expected
  | approving bypass requestId copy written rest =>
    obtain ⟨rfl,-⟩ := Prod.mk.inj (Option.some.inj writes)
    exact Or.inl (expected row found)
  | writing execution copy before written write hours =>
    obtain ⟨rfl,-⟩ := Prod.mk.inj (Option.some.inj writes)
    left
    rw [locked rfl]
    exact RemediationStatus.unstarted_of_startable expected
  | failing execution copy before written =>
    obtain ⟨rfl,-⟩ := Prod.mk.inj (Option.some.inj writes)
    left
    rw [locked rfl]
    exact RemediationStatus.unstarted_of_startable expected
  | failingExpired execution message restored =>
    obtain ⟨rfl,-⟩ := Prod.mk.inj (Option.some.inj writes)
    exact Or.inl (expected row found)
  | finished execution copy written =>
    obtain ⟨rfl,-⟩ := Prod.mk.inj (Option.some.inj writes)
    exact Or.inr ⟨started rfl,rfl⟩
  | failingLate execution copy written resolvedAt =>
    obtain ⟨rfl,-⟩ := Prod.mk.inj (Option.some.inj writes)
    exact Or.inr ⟨started rfl,rfl⟩
  | idle | loaded | fetched | handling | opened | checking | executing | invoked | returning
  | reporting | sweeping => simp [RemediationPhase.writes] at writes

theorem Step.terminal (taken : runtime.Step s phase event t next) (holds : Holds s phase)
    (expected : ExpectedCommit s phase event) (found : s.store.requests.find id = some row)
    (terminal : row.status.terminal = true) : t.store.requests.find id = some row := by
  rcases taken.find found with same | ⟨commits,f,writes,_⟩
  · exact same
  · rcases written_row holds (expected commits) writes found with unstarted | ⟨executing,_⟩
    · simp [RemediationStatus.not_terminal_of_unstarted unstarted] at terminal
    · simp [executing,RemediationStatus.terminal,RemediationStatus.isOpen] at terminal

theorem Step.executing (taken : runtime.Step s phase event t next) (holds : Holds s phase)
    (expected : ExpectedCommit s phase event) (found : s.store.requests.find id = some row)
    (executing : row.status = .executing) (elsewhere : phase.runs ≠ some id) :
    t.store.requests.find id = some row := by
  rcases taken.find found with same | ⟨commits,f,writes,_⟩
  · exact same
  · rcases written_row holds (expected commits) writes found with unstarted | ⟨_,runs⟩
    · simp [executing,RemediationStatus.unstarted] at unstarted
    · exact absurd runs elsewhere

theorem Step.runs (taken : runtime.Step s phase event t next) (runs : next.runs = some id) :
    (phase.runs = some id ∧ t.store.requests = s.store.requests) ∨
      (event = .commit ∧ ∃ execution copy row written hours,
        phase = .writing execution copy row written .execute hours ∧ id = execution.requestId ∧
        t.store.requests = s.store.requests.update id (·.flush copy written)) := by
  cases taken with
  | started =>
    obtain rfl := Option.some.inj runs
    exact Or.inr ⟨rfl,_,_,_,_,_,rfl,rfl,rfl⟩
  | raiseExecuting => exact Or.inl ⟨runs,rfl⟩
  | invoke => exact Or.inl ⟨runs,rfl⟩
  | raiseInvoked => exact Or.inl ⟨runs,rfl⟩
  | finish => exact Or.inl ⟨runs,rfl⟩
  | raiseFinished => exact Or.inl ⟨runs,rfl⟩
  | deferred | scheduled | refresh | invalidProvider => simp at runs
  | _ => simp [RemediationPhase.runs] at runs

theorem Step.lockedRow (taken : runtime.Step s phase event t next)
    (locked : next.lockedRow = some (id,row)) : t.store.requests = s.store.requests ∧
      (s.store.requests.find id = some row ∨ phase.lockedRow = some (id,row)) := by
  cases taken with
  | review found reviewed =>
    obtain ⟨rfl,rfl⟩ := Prod.mk.inj (Option.some.inj locked)
    exact ⟨rfl,Or.inl found⟩
  | lock found provider =>
    obtain ⟨rfl,rfl⟩ := Prod.mk.inj (Option.some.inj locked)
    exact ⟨rfl,Or.inl found⟩
  | refused => exact ⟨rfl,Or.inr locked⟩
  | check => exact ⟨rfl,Or.inr locked⟩
  | raiseChecking => exact ⟨rfl,Or.inr locked⟩
  | raiseWriting => exact ⟨rfl,Or.inr locked⟩
  | deferred | scheduled | refresh | invalidProvider => simp at locked
  | _ => simp [RemediationPhase.lockedRow] at locked

theorem returned_remembers {caller : Caller} {status : RemediationStatus} :
    (caller.returned status).Remembers := by
  cases caller <;> trivial

theorem raised_remembers {caller : Caller} {message : String} :
    (caller.raised message).Remembers := by
  cases caller <;> trivial

theorem Step.remembers (taken : runtime.Step s phase event t next) : next.Remembers := by
  cases taken with
  | review found reviewed => exact review_eq_ok reviewed
  | check checked =>
    have facts := checkExecution_eq_write checked
    exact ⟨facts.startable,facts.status,facts.target⟩
  | refused | raiseChecking | raiseWriting | raiseExecuting | raiseInvoked | raiseFinished => rfl
  | approve => rfl
  | finish => exact RemediationRequest.applyExecutionResult_status
  | deferred | scheduled | refresh => exact returned_remembers
  | invalidProvider => exact raised_remembers
  | _ => trivial

theorem Step.own (taken : runtime.Step s phase event t next) (holds : Holds s phase)
    (expected : ExpectedCommit s phase event) : Holds t next := by
  refine ⟨taken.remembers,fun id row locked => ?_,fun id runs => ?_⟩
  · obtain ⟨same,there⟩ := taken.lockedRow locked
    rw [same]
    exact there.elim (fun found => found) (holds.locked id row)
  · rcases taken.runs runs with ⟨before,same⟩ | ⟨commits,execution,copy,row,written,hours,rfl,rfl,updated⟩
    · rw [same]
      exact holds.running id before
    · have found := holds.locked _ row rfl
      obtain ⟨startable,status,_⟩ := holds.remembers
      have moved : written.status ≠ copy.status := by
        rw [status]
        intro same
        simp [← same,FirstWrite.status,RemediationStatus.startable] at startable
      refine ⟨row.flush copy written,by simp [updated,found],?_⟩
      rw [RemediationRequest.flush_status moved, status]
      rfl

/-- No step of another session disturbs what a session asserts. -/
theorem Step.undisturbed (taken : runtime.Step s phase event t next) (holds : Holds s phase)
    (expected : ExpectedCommit s phase event) (others : Holds s other) (apart : Apart phase other)
    (permitted : ∀ id ∈ other.held,
      id ∉ next.held ∧ t.store.requests.find id = s.store.requests.find id) : Holds t other := by
  refine ⟨others.remembers,fun id row locked => ?_,fun id runs => ?_⟩
  · rw [(permitted id (RemediationPhase.lockedRow_held locked)).2]
    exact others.locked id row locked
  · obtain ⟨row,found,executing⟩ := others.running id runs
    refine ⟨row,?_,executing⟩
    exact taken.executing holds expected found executing fun mine => apart.runs id mine runs

theorem Step.apart (taken : runtime.Step s phase event t next) (holds : Holds s phase)
    (expected : ExpectedCommit s phase event) (others : Holds s other) (apart : Apart phase other)
    (permitted : ∀ id ∈ other.held,
      id ∉ next.held ∧ t.store.requests.find id = s.store.requests.find id) : Apart next other := by
  refine ⟨fun id here there => (permitted id there).1 here,fun id runs others' => ?_⟩
  rcases taken.runs runs with ⟨before,_⟩ | ⟨commits,execution,copy,row,written,hours,rfl,rfl,_⟩
  · exact apart.runs id before others'
  · obtain ⟨there,found,executing⟩ := others.running _ others'
    have here := holds.locked _ row rfl
    have startable : row.status.startable = true := expected commits
    have same := Option.some.inj (here.symm.trans found)
    simp [same,executing,RemediationStatus.startable] at startable

theorem expected_discipline (runtime : RemediationRuntime) :
    Interleaving.Discipline runtime.expectedProtocol (fun _ => True) Holds Apart where
  symmetric _ _ apart := apart.symm
  own _ _ _ _ _ _ holds taken := ⟨trivial,taken.1.1.own holds taken.2⟩
  exclusive _ _ _ _ _ _ _ holds others apart taken permitted :=
    taken.1.1.apart holds taken.2 others apart permitted.1
  undisturbed _ _ _ _ _ _ _ holds others apart taken permitted :=
    taken.1.1.undisturbed holds taken.2 others apart permitted.1

theorem Step.calls (taken : runtime.Step s phase event t next) (id : Uuid) :
    invocations id t.history = invocations id s.history ∨
      (phase.runs = some id ∧ ∃ invocation,
        t.history = s.history ++ [.invoked id invocation]) := by
  cases taken with
  | @invoke s execution copy serviceRegion credentialRegion hint =>
    by_cases same : execution.requestId = id
    · subst same
      exact Or.inr ⟨rfl,_,rfl⟩
    · simp [invocations,same]
  | @reviewed s kind => cases kind <;> simp [invocations,reviewEntries]
  | _ => simp [invocations,Remediation.setRequests,Remediation.setFindings,Remediation.updateJob,
      Remediation.setJobs]

theorem Step.calls_terminal (taken : runtime.Step s phase event t next)
    (holds : Holds s phase) (found : s.store.requests.find id = some row)
    (terminal : row.status.terminal = true) :
    invocations id t.history = invocations id s.history := by
  rcases taken.calls id with same | ⟨runs,_⟩
  · exact same
  · obtain ⟨before,there,executing⟩ := holds.running id runs
    have same := Option.some.inj (found.symm.trans there)
    simp [same,executing,RemediationStatus.terminal,RemediationStatus.isOpen] at terminal

end RemediationRuntime

def RemediationPhase.executes : RemediationPhase → Option (Uuid × RemediationRequest)
  | .checking execution _ row | .writing execution _ row _ _ _ | .failing execution _ row _ =>
    some (execution.requestId,row)
  | _ => none

theorem RemediationPhase.executes_lockedRow {phase : RemediationPhase} {id : Uuid}
    {row : RemediationRequest} (executes : phase.executes = some (id,row)) :
    phase.lockedRow = some (id,row) := by
  cases phase <;> simp_all [RemediationPhase.executes,lockedRow]

/-- What a terminal request keeps, and what an execution does to a request that is neither
approved nor scheduled. -/
structure TerminalLaw (runtime : RemediationRuntime) [DecidableEq ι]
    (earlier later : RemediationSystem ι) : Prop where
  final : ∀ id row, earlier.shared.store.requests.find id = some row →
    row.status.terminal = true → later.shared.store.requests.find id = some row
  notInvoked : ∀ id row, earlier.shared.store.requests.find id = some row →
    row.status.terminal = true →
      invocations id later.shared.history = invocations id earlier.shared.history
  refused : ∀ party id row, (earlier.phase party).executes = some (id,row) →
    row.status.startable = false → ∀ event next, runtime.ExpectedSteps earlier (party,event) next →
      next.shared.store.requests.find id = some row

section Runs

open RemediationPhase (Holds Apart)

variable {runtime : RemediationRuntime} {start middle final : RemediationSystem ι}

theorem Opening.good (opening : Opening start) :
    Interleaving.Good (fun _ => True) Holds Apart start := by
  refine ⟨trivial,fun party => ?_,fun party other _ => ?_⟩
  · rw [opening.idle party]
    exact .free trivial rfl rfl
  · rw [opening.idle party, opening.idle other]
    exact ⟨fun id held => by simp [RemediationPhase.held] at held,
      fun id runs => by simp [RemediationPhase.runs] at runs⟩

variable [DecidableEq ι] {past events : List (ι × RemediationEvent)}

theorem run_terminal {id : Uuid} {row : RemediationRequest}
    (good : Interleaving.Good (fun _ => True) Holds Apart middle)
    (run : Trace runtime.ExpectedSteps middle events final)
    (found : middle.shared.store.requests.find id = some row)
    (terminal : row.status.terminal = true) :
    final.shared.store.requests.find id = some row ∧
      invocations id final.shared.history = invocations id middle.shared.history := by
  induction run with
  | stop => exact ⟨found,rfl⟩
  | @go system event next events final taken _ ih =>
    have later := (RemediationRuntime.expected_discipline runtime).step taken good
    cases taken with
    | @move party event shared phase taken permitted =>
      have kept := taken.1.1.terminal (good.holds party) taken.2 found terminal
      have same := taken.1.1.calls_terminal (good.holds party) found terminal
      obtain ⟨there,calls⟩ := ih later kept
      exact ⟨there,calls.trans same⟩

theorem step_refused {id : Uuid} {row : RemediationRequest} {party : ι} {event : RemediationEvent}
    (good : Interleaving.Good (fun _ => True) Holds Apart middle)
    (executes : (middle.phase party).executes = some (id,row))
    (refused : row.status.startable = false)
    (step : runtime.ExpectedSteps middle (party,event) final) :
    final.shared.store.requests.find id = some row := by
  have found := (good.holds party).locked id row
    (RemediationPhase.executes_lockedRow executes)
  cases step with
  | move taken permitted =>
    rcases taken.1.1.find found with same | ⟨commits,f,writes,_⟩
    · exact same
    · have expected := taken.2 commits
      cases phase : middle.phase party with
      | writing execution copy before written write hours =>
        simp only [phase,RemediationPhase.executes,Option.some.injEq,Prod.mk.injEq] at executes
        simp only [phase,RemediationRuntime.ExpectedRow,executes.2,refused] at expected
        exact absurd expected (by simp)
      | failing execution copy before written =>
        simp only [phase,RemediationPhase.executes,Option.some.injEq,Prod.mk.injEq] at executes
        simp only [phase,RemediationRuntime.ExpectedRow,executes.2,refused] at expected
        exact absurd expected (by simp)
      | checking => simp [phase,RemediationPhase.writes] at writes
      | _ => simp [phase,RemediationPhase.executes] at executes

end Runs

/-- In every run whose commits find their rows as the calls expect, a terminal request stays
as it is, its action is not run any more, and an execution of a request that is neither
approved nor scheduled leaves it. -/
theorem terminal_requests_final (runtime : RemediationRuntime) [DecidableEq ι]
    {start middle final : RemediationSystem ι} {past events : List (ι × RemediationEvent)}
    (opening : Opening start) (before : Trace runtime.ExpectedSteps start past middle)
    (run : Trace runtime.ExpectedSteps middle events final) :
    TerminalLaw runtime middle final := by
  have good := (RemediationRuntime.expected_discipline runtime).run before opening.good
  refine ⟨?_,?_,?_⟩
  · intro id row found terminal
    exact (run_terminal good run found terminal).1
  · intro id row found terminal
    exact (run_terminal good run found terminal).2
  · intro party id row executes refused event next step
    exact step_refused good executes refused step

namespace Sample

open Interleaving (pair)

def runtime : RemediationRuntime := ⟨.asciiOnly⟩

def volume : CreateCall where
  requestId := 1
  userId := 7
  resourceId := "vol-1"
  resourceType := "ebs_volume"
  action := .deleteVolume
  estimatedSavings := 1200
  provider := "aws"
  connectionId := some 5

def volumeTarget : RequestTarget where
  provider := "aws"
  connectionId := some 5
  region := "us-east-1"
  resourceId := "vol-1"
  resourceType := "ebs_volume"
  action := .deleteVolume

def request : RemediationRequest where
  target := volumeTarget
  estimatedMonthlySavings := some 1200
  requestedByUserId := 7

def table (row : RemediationRequest) : Table Uuid RemediationRequest := ⟨[(1,row)],by simp⟩

def holding (row : RemediationRequest) (jobs : Table Uuid BackgroundJob)
    (history : List HistoryEntry) (clock : Int) : Remediation :=
  ⟨⟨table row,.empty,jobs⟩,history,clock⟩

def opening : Remediation := ⟨{},[],0⟩

variable {row : RemediationRequest} {jobs : Table Uuid BackgroundJob}
  {history : List HistoryEntry} {clock : Int}

theorem holding_indexed : (holding row jobs history clock).store.Indexed := by
  simp [holding,table,RemediationStore.Indexed]

@[simp] theorem holding_find :
    (holding row jobs history clock).store.requests.find 1 = some row := rfl

@[simp] theorem holding_update {f : RemediationRequest → RemediationRequest} :
    (holding row jobs history clock).updateRequest 1 f = holding (f row) jobs history clock := rfl

theorem opening_starts : Opening (pair opening RemediationPhase.idle .idle) where
  requests := rfl
  jobs := rfl
  history := rfl
  fingerprinted := by
    intro id finding found
    simp [Interleaving.pair,opening] at found
  idle := Interleaving.pair_phase

theorem normalizeProvider_aws : runtime.normalizeProvider "aws" = "aws" := by decide +kernel

theorem volume_created : runtime.newRequest volume = .ok request := by
  simp [RemediationRuntime.newRequest,volume,normalizeProvider_aws,raiseIf,request,volumeTarget,
    sanitizeActionParameters,bind,Except.bind,pure,Except.pure]

theorem volume_bound (findings : Table Uuid OptimizationFinding) :
    runtime.validateRequestFindingBinding findings volumeTarget = .ok none := rfl

theorem step_expected {s t : Remediation} {first next : RemediationPhase} {event : RemediationEvent}
    (taken : runtime.Step s first event t next) (indexed : t.store.Indexed)
    (expected : RemediationRuntime.ExpectedCommit s first event) :
    runtime.ExpectedSteps (pair s first .idle) (false,event) (pair t next .idle) := by
  refine Interleaving.Step.first ⟨⟨taken,indexed⟩,expected⟩ ⟨?_,trivial⟩
  intro id held
  simp [RemediationPhase.held] at held

theorem expected_run {system final : RemediationSystem ι} [DecidableEq ι]
    {events : List (ι × RemediationEvent)} (run : Trace runtime.ExpectedSteps system events final) :
    Trace runtime.RemediationSteps system events final :=
  run.mono fun taken => taken.unrestricted

def rejected : RemediationRequest :=
  request.flush request { request with status := .rejected, reviewedByUserId := some 8 }

theorem rejected_status : rejected.status = .rejected :=
  RemediationRequest.flush_status (by simp [request])

def rejecting : List (Bool × RemediationEvent) :=
  [(false,.create volume),(false,.load 1),(false,.review .reject { reviewerId := 8 }),
    (false,.commit)]

theorem rejecting_run : Trace runtime.ExpectedSteps (pair opening .idle .idle) rejecting
    (pair (holding rejected .empty [] 0) .idle .idle) := by
  refine .go (step_expected (.create volume_created rfl) holding_indexed (by simp [
    RemediationRuntime.ExpectedCommit])) ?_
  refine .go (step_expected (.load rfl) holding_indexed (by simp [
    RemediationRuntime.ExpectedCommit])) ?_
  refine .go (step_expected (.review rfl rfl) holding_indexed (by simp [
    RemediationRuntime.ExpectedCommit])) ?_
  refine .go (step_expected .reviewed holding_indexed ?_) .stop
  exact fun _ => rfl

/-- An execution of the rejected request, up to the failure it is about to write. -/
def executing : List (Bool × RemediationEvent) :=
  [(false,.load 1),(false,.execute true),(false,.lock),
    (false,.check { evaluation := ⟨.allow,""⟩, now := 0, later := 0 })]

def failure : String := (RemediationFault.notApproved .rejected).text

theorem executing_run : Trace runtime.ExpectedSteps (pair (holding rejected .empty [] 0) .idle .idle)
    executing (pair (holding rejected .empty [.called 1 0] 0)
      (.failing ⟨.service,1,true⟩ rejected rejected (rejected.failWith failure)) .idle) := by
  refine .go (step_expected (.load rfl) holding_indexed (by simp [
    RemediationRuntime.ExpectedCommit])) ?_
  refine .go (step_expected .execute holding_indexed (by simp [
    RemediationRuntime.ExpectedCommit])) ?_
  refine .go (step_expected (.lock rfl ?_) holding_indexed (by simp [
    RemediationRuntime.ExpectedCommit])) ?_
  · have provider : rejected.target.provider = "aws" := rfl
    simp [provider,normalizeProvider_aws]
  · refine .go (step_expected (.refused ?_) holding_indexed (by simp [
      RemediationRuntime.ExpectedCommit])) .stop
    rw [RemediationRuntime.checkExecution_refuses (volume_bound _) rfl (by simp [
      rejected_status,RemediationStatus.startable]), rejected_status]

end Sample

/-- A rejection, and a refused execution that ends before it writes. -/
theorem terminal_requests_final_rejected : ∃ middle final : RemediationSystem Bool,
    middle.shared.store.requests.find 1 = some Sample.rejected ∧
      Sample.rejected.status.terminal = true ∧ final.shared.history = [.called 1 0] ∧
      TerminalLaw Sample.runtime middle final := by
  refine ⟨_,_,?_,?_,?_,terminal_requests_final Sample.runtime Sample.opening_starts
    Sample.rejecting_run (Sample.executing_run.trans
      (.go (Sample.step_expected .leave Sample.holding_indexed (by simp [
        RemediationRuntime.ExpectedCommit])) .stop))⟩
  · rfl
  · simp [Sample.rejected_status,RemediationStatus.terminal,RemediationStatus.isOpen]
  · rfl

/-- An execution of a rejected request writes FAILED over the rejection. -/
theorem rejected_then_failed : ∃ (start middle final : RemediationSystem Bool)
    (past events : List (Bool × RemediationEvent)) (before after : RemediationRequest),
    Opening start ∧ Trace Sample.runtime.RemediationSteps start past middle ∧
      Trace Sample.runtime.RemediationSteps middle events final ∧
      middle.shared.store.requests.find 1 = some before ∧ before.status = .rejected ∧
      final.shared.store.requests.find 1 = some after ∧ after.status = .failed ∧
      ¬TerminalLaw Sample.runtime middle final := by
  have failed : (Sample.rejected.flush Sample.rejected
      (Sample.rejected.failWith Sample.failure)).status = .failed :=
    RemediationRequest.flush_status (by simp [Sample.rejected_status])
  have last : Sample.runtime.RemediationSteps
      (Interleaving.pair (Sample.holding Sample.rejected .empty [.called 1 0] 0)
        (.failing ⟨.service,1,true⟩ Sample.rejected Sample.rejected
          (Sample.rejected.failWith Sample.failure)) .idle) (false,.commit)
      (Interleaving.pair (Sample.holding (Sample.rejected.flush Sample.rejected
        (Sample.rejected.failWith Sample.failure)) .empty [.called 1 0] 0)
        (.returning ⟨.service,1,true⟩) .idle) := by
    refine Interleaving.Step.first ⟨.failed,Sample.holding_indexed⟩ ?_
    intro id held
    simp [RemediationPhase.held] at held
  refine ⟨_,_,_,_,_,_,_,Sample.opening_starts,Sample.expected_run Sample.rejecting_run,
    (Sample.expected_run Sample.executing_run).trans (.go last .stop),rfl,Sample.rejected_status,
    rfl,failed,fun law => ?_⟩
  have same := law.final 1 Sample.rejected rfl (by simp [Sample.rejected_status,
    RemediationStatus.terminal,RemediationStatus.isOpen])
  have equal : Sample.rejected.flush Sample.rejected (Sample.rejected.failWith Sample.failure) =
      Sample.rejected := Option.some.inj same
  rw [equal, Sample.rejected_status] at failed
  exact absurd failed (by simp)

end Valdrics.Optimization

import Valdrics.RemediationInvocations
import Valdrics.RemediationPickup

/-! The grace period. A scheduling sets the time at least the grace period after the first
execution call since the latest approval; an execution that decides on the row as it is
starts the action only after that time. -/
namespace Valdrics.Optimization

open Enforcement (Uuid bind_eq_ok flushed)

def HistoryEntry.firstCall (requestId : Uuid) (before : Option Int) : HistoryEntry → Option Int
  | .approved id _ => if id = requestId then none else before
  | .called id at_ => if id = requestId then before.or (some at_) else before
  | _ => before

def firstCall (requestId : Uuid) (history : List HistoryEntry) : Option Int :=
  history.foldl (HistoryEntry.firstCall requestId) none

@[simp] theorem firstCall_append {requestId : Uuid} {history entries : List HistoryEntry} :
    firstCall requestId (history ++ entries) =
      entries.foldl (HistoryEntry.firstCall requestId) (firstCall requestId history) := by
  simp [firstCall]

def HistoryEntry.lastGrace (requestId : Uuid) (before : Option Int) : HistoryEntry → Option Int
  | .scheduled id _ hours => if id = requestId then some hours else before
  | _ => before

def lastGrace (requestId : Uuid) (history : List HistoryEntry) : Option Int :=
  history.foldl (HistoryEntry.lastGrace requestId) none

@[simp] theorem lastGrace_append {requestId : Uuid} {history entries : List HistoryEntry} :
    lastGrace requestId (history ++ entries) =
      entries.foldl (HistoryEntry.lastGrace requestId) (lastGrace requestId history) := by
  simp [lastGrace]

/-- The grace period of the last scheduling, counted from the first execution call that
followed the latest approval, is over at a time. -/
def GraceOver (history : List HistoryEntry) (id : Uuid) (action : RemediationAction) (at_ : Int) :
    Prop :=
  ∃ calledAt hours days, firstCall id history = some calledAt ∧
    lastGrace id history = some hours ∧ hours = graceHours action days ∧
      calledAt + hours * microsPerHour ≤ at_

def GraceLaw (history : List HistoryEntry) : Prop :=
  ∀ past id invocation later, history = past ++ .invoked id invocation :: later →
    GraceOver past id invocation.target.action invocation.invokedAt

def SameCalls (id : Uuid) (before after : List HistoryEntry) : Prop :=
  firstCall id after = firstCall id before ∧ lastGrace id after = lastGrace id before

section History

variable {history before after : List HistoryEntry} {id : Uuid} {action : RemediationAction}
  {at_ later : Int} {entry : HistoryEntry}

theorem GraceOver.kept (elapsed : GraceOver before id action at_) (same : SameCalls id before after) :
    GraceOver after id action at_ := by
  obtain ⟨calledAt,hours,days,called,grace,action,waited⟩ := elapsed
  exact ⟨calledAt,hours,days,same.1.trans called,same.2.trans grace,action,waited⟩

theorem GraceOver.mono (elapsed : GraceOver history id action at_) (passes : at_ ≤ later) :
    GraceOver history id action later := by
  obtain ⟨calledAt,hours,days,called,grace,action,waited⟩ := elapsed
  exact ⟨calledAt,hours,days,called,grace,action,waited.trans passes⟩

theorem GraceOver.called {calledAt : Int} {other : Uuid}
    (elapsed : GraceOver history id action at_) :
    GraceOver (history ++ [.called other calledAt]) id action at_ := by
  obtain ⟨first,hours,days,called,grace,action,waited⟩ := elapsed
  refine ⟨first,hours,days,?_,?_,action,waited⟩
  · by_cases same : other = id
    · simp [HistoryEntry.firstCall,same,called]
    · simp [HistoryEntry.firstCall,same,called]
  · simp [HistoryEntry.lastGrace,grace]

theorem GraceLaw.snoc (law : GraceLaw history)
    (invoked : ∀ id invocation, entry = .invoked id invocation →
      GraceOver history id invocation.target.action invocation.invokedAt) :
    GraceLaw (history ++ [entry]) := by
  intro past id invocation later split
  rcases List.eq_nil_or_concat later with rfl | ⟨front,last,rfl⟩
  · obtain ⟨rfl,same⟩ := List.append_inj' split rfl
    exact invoked id invocation (List.singleton_inj.mp same)
  · have whole : history ++ [entry] = (past ++ .invoked id invocation :: front) ++ [last] := by
      simpa using split
    exact law past id invocation front (List.append_inj' whole rfl).1

end History

namespace RemediationRuntime

/-- No call bypasses the grace period, and an execution decides on the row as its lock
found it, by a clock that is not ahead when it looks and not behind when it schedules. -/
def HonoursGrace (s : Remediation) (phase : RemediationPhase) (event : RemediationEvent) : Prop :=
  match event with
  | .execute bypass | .enforceHardLimit bypass => bypass = false
  | .check env => env.now ≤ s.clock ∧ s.clock ≤ env.later ∧
    ∀ execution copy row, phase = .checking execution copy row →
      copy.status = row.status ∧ copy.scheduledExecutionAt = row.scheduledExecutionAt
  | _ => True

end RemediationRuntime

/-- No session approves a request whose action another is about to run. -/
def RemediationPhase.KeepsApproval (other : RemediationPhase) (s t : Remediation)
    (_ : RemediationPhase) : Prop :=
  ∀ execution copy target, other = .executing execution copy →
    t.history ≠ s.history ++ [.approved execution.requestId target]

namespace RemediationRuntime

variable (runtime : RemediationRuntime)

/-- The runs in which no call bypasses the grace period or decides on an outdated row. -/
def graceProtocol : Protocol Remediation RemediationPhase RemediationEvent :=
  runtime.remediationProtocol.restrict HonoursGrace RemediationPhase.KeepsApproval

def GraceSteps [DecidableEq ι] (system : RemediationSystem ι) (event : ι × RemediationEvent)
    (next : RemediationSystem ι) : Prop :=
  Interleaving.Step runtime.graceProtocol system event next

end RemediationRuntime

def Caller.bypasses : Caller → Bool
  | .sweep bypass _ => bypass
  | _ => false

namespace RemediationPhase

def bypasses : RemediationPhase → Bool
  | .opened execution _ | .checking execution _ _ | .writing execution _ _ _ _ _
  | .executing execution _ | .invoked execution _ | .finished execution _ _
  | .failing execution _ _ _ | .failingExpired execution _ _ | .failingLate execution _ _ _
  | .returning execution => execution.bypassGracePeriod || execution.caller.bypasses
  | .sweeping bypass _ | .approving bypass _ _ _ _ => bypass
  | _ => false

def listed : RemediationPhase → List (Uuid × RemediationRequest)
  | .opened execution _ | .checking execution _ _ | .writing execution _ _ _ _ _
  | .executing execution _ | .invoked execution _ | .finished execution _ _
  | .failing execution _ _ _ | .failingExpired execution _ _ | .failingLate execution _ _ _
  | .returning execution => execution.caller.rest
  | .sweeping _ rest => rest
  | .approving _ requestId copy _ rest => (requestId,copy) :: rest
  | _ => []

def KeepsTime : RemediationPhase → Prop
  | .writing _ copy _ written write _ =>
    write ≠ .schedule → written.scheduledExecutionAt = copy.scheduledExecutionAt
  | .failing _ copy _ written | .failingLate _ copy written _ | .finished _ copy written =>
    written.scheduledExecutionAt = copy.scheduledExecutionAt
  | _ => True

def Timely (s : Remediation) : RemediationPhase → Prop
  | .checking execution _ _ => ∃ calledAt, firstCall execution.requestId s.history = some calledAt
  | .writing execution copy row written write hours =>
    match write with
    | .schedule => copy.status = row.status ∧
      copy.scheduledExecutionAt = row.scheduledExecutionAt ∧
      (∃ days, hours = graceHours copy.target.action days) ∧
      ∃ calledAt at_, firstCall execution.requestId s.history = some calledAt ∧
        written.scheduledExecutionAt = some at_ ∧ calledAt + hours * microsPerHour ≤ at_
    | .execute => GraceOver s.history execution.requestId copy.target.action s.clock
    | _ => True
  | .executing execution copy =>
    GraceOver s.history execution.requestId copy.target.action s.clock ∧
      ∀ row, s.store.requests.find execution.requestId = some row → row.status.startable = false
  | _ => True

structure Patient (s : Remediation) (phase : RemediationPhase) : Prop where
  remembers : phase.Remembers
  plans : phase.Plans
  honest : phase.bypasses = false
  listed : ∀ entry ∈ phase.listed, entry.2.status = .pending
  keepsTime : phase.KeepsTime
  locked : ∀ id row, phase.lockedRow = some (id,row) → s.store.requests.find id = some row
  copies : ∀ entry ∈ phase.copies, s.Knows entry
  timely : phase.Timely s

end RemediationPhase

def GraceWaits (s : Remediation) : Prop :=
  ∀ id row, s.store.requests.find id = some row → row.status = .scheduled →
    ∃ at_, row.scheduledExecutionAt = some at_ ∧ GraceOver s.history id row.target.action at_

structure Graced (s : Remediation) : Prop where
  called : ∀ id at_, firstCall id s.history = some at_ → at_ ≤ s.clock
  waits : GraceWaits s
  law : GraceLaw s.history

section Waits

variable {s t : Remediation} {row : RemediationRequest} {requestId : Uuid}
  {f : RemediationRequest → RemediationRequest}

theorem GraceWaits.kept (waits : GraceWaits s) (requests : t.store.requests = s.store.requests)
    (calls : ∀ id, SameCalls id s.history t.history) : GraceWaits t := by
  intro id row found scheduled
  rw [requests] at found
  obtain ⟨at_,time,elapsed⟩ := waits id row found scheduled
  exact ⟨at_,time,elapsed.kept (calls id)⟩

theorem GraceWaits.inserted (waits : GraceWaits s) (pending : row.status = .pending)
    (inserted : s.store.requests.insert requestId row = some t.store.requests)
    (history : t.history = s.history) : GraceWaits t := by
  intro id other found scheduled
  rw [Table.find_insert inserted] at found
  rw [history]
  by_cases same : id = requestId
  · simp only [same,if_true,Option.some.injEq] at found
    simp [← found,pending] at scheduled
  · simp only [same,if_false] at found
    exact waits id other found scheduled

theorem GraceWaits.written (waits : GraceWaits s)
    (updated : t.store.requests = s.store.requests.update requestId f)
    (elsewhere : ∀ id, id ≠ requestId → SameCalls id s.history t.history)
    (here : ∀ row, s.store.requests.find requestId = some row → (f row).status = .scheduled →
      ∃ at_, (f row).scheduledExecutionAt = some at_ ∧
        GraceOver t.history requestId (f row).target.action at_) : GraceWaits t := by
  intro id row found scheduled
  rw [updated] at found
  by_cases same : id = requestId
  · subst same
    rw [Table.find_update_same] at found
    obtain ⟨before,there,rfl⟩ := Option.map_eq_some_iff.mp found
    exact here before there scheduled
  · rw [Table.find_update_other f same] at found
    obtain ⟨at_,time,elapsed⟩ := waits id row found scheduled
    exact ⟨at_,time,elapsed.kept (elsewhere id same)⟩

theorem GraceWaits.rewritten {copy written : RemediationRequest} (waits : GraceWaits s)
    (updated : t.store.requests = s.store.requests.update requestId (·.flush copy written))
    (calls : ∀ id, SameCalls id s.history t.history) (other : written.status ≠ .scheduled)
    (time : written.scheduledExecutionAt = copy.scheduledExecutionAt) : GraceWaits t := by
  refine waits.written updated (fun id _ => calls id) fun row found scheduled => ?_
  rcases RemediationRequest.flush_status_or row copy written with moved | same
  · exact absurd (moved.symm.trans scheduled) other
  · rw [same] at scheduled
    obtain ⟨at_,before,elapsed⟩ := waits requestId row found scheduled
    exact ⟨at_,by simp [RemediationRequest.flush,flushed,time,before],elapsed.kept (calls requestId)⟩

end Waits

namespace RemediationRuntime

open RemediationPhase (Patient Apart)

variable {runtime : RemediationRuntime} {s t : Remediation}
  {phase next other : RemediationPhase} {event : RemediationEvent} {id : Uuid}
  {row : RemediationRequest}

theorem checkExecution_keepsTime {findings : Table Uuid OptimizationFinding} {bypass : Bool}
    {copy written : RemediationRequest} {env : ExecuteEnvironment} {write : FirstWrite}
    (checked : runtime.checkExecution findings bypass copy env = .ok (.write written write))
    (other : write ≠ .schedule) : written.scheduledExecutionAt = copy.scheduledExecutionAt := by
  obtain ⟨_,_,afterBinding⟩ := bind_eq_ok.mp checked
  obtain ⟨_,_,afterGuards⟩ := bind_eq_ok.mp afterBinding
  obtain ⟨_,_,result⟩ := bind_eq_ok.mp afterGuards
  split at result
  · simp [pure,Except.pure] at result
  · cases decision : env.evaluation.decision with
    | block | escalate =>
      simp only [decision] at result
      obtain ⟨rfl,rfl⟩ := CheckOutcome.write.inj (Except.ok.inj result)
      rfl
    | allow | warn =>
      simp only [decision] at result
      split at result
      · obtain ⟨_,rfl⟩ := CheckOutcome.write.inj (Except.ok.inj result)
        exact absurd rfl other
      · obtain ⟨rfl,rfl⟩ := CheckOutcome.write.inj (Except.ok.inj result)
        rfl

theorem applyExecutionResult_keepsTime {result : ExecutionResult} {now : Int} :
    (row.applyExecutionResult result now).scheduledExecutionAt = row.scheduledExecutionAt := by
  cases outcome : result.status with
  | success => simp [RemediationRequest.applyExecutionResult,outcome]
  | skipped => simp [RemediationRequest.applyExecutionResult,outcome]
  | failed => simp [RemediationRequest.applyExecutionResult,outcome]

theorem returned_keepsTime {caller : Caller} {status : RemediationStatus} :
    (caller.returned status).KeepsTime := by
  cases caller <;> trivial

theorem raised_keepsTime {caller : Caller} {message : String} :
    (caller.raised message).KeepsTime := by
  cases caller <;> trivial

theorem Step.keepsTime (taken : runtime.Step s phase event t next) (keeps : phase.KeepsTime) :
    next.KeepsTime := by
  cases taken with
  | check checked => exact fun other => checkExecution_keepsTime checked other
  | refused | raiseChecking | raiseExecuting | raiseInvoked => rfl
  | raiseWriting kept => exact keeps kept
  | raiseFinished => exact keeps
  | finish => exact applyExecutionResult_keepsTime
  | deferred | scheduled | refresh => exact returned_keepsTime
  | invalidProvider => exact raised_keepsTime
  | _ => trivial

@[simp] theorem returned_listed {caller : Caller} {status : RemediationStatus} :
    (caller.returned status).listed = caller.rest := by
  cases caller <;> rfl

@[simp] theorem raised_listed {caller : Caller} {message : String} :
    (caller.raised message).listed = caller.rest := by
  cases caller <;> rfl

theorem hardLimitRequests_pending {requests : Table Uuid RemediationRequest}
    {entry : Uuid × RemediationRequest} (listed : entry ∈ hardLimitRequests requests) :
    entry.2.status = .pending := by
  have kept := (List.perm_insertionSort _ _).mem_iff.mp listed
  have passes := (List.mem_filter.mp kept).2
  simp only [Bool.and_eq_true,decide_eq_true_eq] at passes
  exact passes.1.1

theorem Step.listed (taken : runtime.Step s phase event t next)
    (pending : ∀ entry ∈ phase.listed, entry.2.status = .pending) :
    ∀ entry ∈ next.listed, entry.2.status = .pending := by
  intro entry member
  cases taken with
  | enforceHardLimit => exact hardLimitRequests_pending member
  | approved => exact pending entry (List.mem_cons_of_mem _ member)
  | approve => exact pending entry member
  | deferred | scheduled | refresh =>
    rw [returned_listed] at member
    exact pending entry member
  | invalidProvider =>
    rw [raised_listed] at member
    exact pending entry member
  | unscheduled | rollback => simp [RemediationPhase.listed] at member
  | lock | refused | check | raiseChecking | raiseWriting | blocked | escalated | started | failed
  | failedExpired | raiseExecuting | invoke | raiseInvoked | finish | raiseFinished | finished
  | failedLate => exact pending entry member
  | _ => simp [RemediationPhase.listed,Caller.rest] at member

theorem returned_bypasses {caller : Caller} {status : RemediationStatus} :
    (caller.returned status).bypasses = caller.bypasses := by
  cases caller <;> rfl

theorem raised_bypasses {caller : Caller} {message : String} :
    (caller.raised message).bypasses = caller.bypasses := by
  cases caller <;> rfl

theorem rolledBack_bypasses {execution : Execution} :
    execution.rolledBack.caller.bypasses = execution.caller.bypasses := by
  cases caller : execution.caller <;>
    simp [Execution.rolledBack,Caller.rolledBack,Caller.bypasses,caller]

theorem Step.bypasses (taken : runtime.Step s phase event t next)
    (honours : HonoursGrace s phase event) (honest : phase.bypasses = false) :
    next.bypasses = false := by
  cases taken with
  | execute => exact Bool.or_eq_false_iff.mpr ⟨honours,rfl⟩
  | enforceHardLimit => exact honours
  | approved => exact Bool.or_eq_false_iff.mpr ⟨honest,honest⟩
  | deferred | scheduled | refresh =>
    rw [returned_bypasses]
    exact (Bool.or_eq_false_iff.mp honest).2
  | invalidProvider =>
    rw [raised_bypasses]
    exact (Bool.or_eq_false_iff.mp honest).2
  | rollback | unscheduled =>
    simp only [RemediationPhase.bypasses,rolledBack_bypasses]
    exact honest
  | approve | raiseApproving | lock | refused | check | raiseChecking | raiseWriting | blocked
  | escalated | started | failed | failedExpired | raiseExecuting | invoke | raiseInvoked | finish
  | raiseFinished | finished | failedLate => exact honest
  | _ => rfl

theorem Step.logs (taken : runtime.Step s phase event t next) (id : Uuid) :
    SameCalls id s.history t.history ∨
    (t.history = s.history ++ [.called id s.clock] ∧ id ∈ next.held) ∨
    (∃ target, t.history = s.history ++ [.approved id target] ∧ id ∈ phase.held) ∨
    (∃ execution copy row written hours jobId,
      phase = .writing execution copy row written .schedule hours ∧ id = execution.requestId ∧
        t.history = s.history ++ [.scheduled id jobId hours]) := by
  cases taken with
  | @lock row s execution copy found provider =>
    by_cases same : execution.requestId = id
    · subst same
      exact Or.inr (Or.inl ⟨rfl,List.mem_singleton_self _⟩)
    · exact Or.inl ⟨by simp [HistoryEntry.firstCall,same],by simp [HistoryEntry.lastGrace]⟩
  | @reviewed s kind requestId copy row written =>
    cases kind with
    | reject => exact Or.inl ⟨by simp [reviewEntries],by simp [reviewEntries]⟩
    | approve =>
      by_cases same : requestId = id
      · subst same
        exact Or.inr (Or.inr (Or.inl ⟨_,rfl,List.mem_singleton_self _⟩))
      · exact Or.inl ⟨by simp [reviewEntries,HistoryEntry.firstCall,same],
          by simp [reviewEntries,HistoryEntry.lastGrace]⟩
  | @approved row s bypass requestId copy written rest found =>
    by_cases same : requestId = id
    · subst same
      exact Or.inr (Or.inr (Or.inl ⟨_,rfl,List.mem_singleton_self _⟩))
    · exact Or.inl ⟨by simp [HistoryEntry.firstCall,same],by simp [HistoryEntry.lastGrace]⟩
  | @scheduled jobs s execution copy row written hours jobId enqueued =>
    by_cases same : execution.requestId = id
    · subst same
      exact Or.inr (Or.inr (Or.inr ⟨_,_,_,_,_,_,rfl,rfl,rfl⟩))
    · exact Or.inl ⟨by simp [HistoryEntry.firstCall],by simp [HistoryEntry.lastGrace,same]⟩
  | escalated | invoke =>
    exact Or.inl ⟨by simp [HistoryEntry.firstCall],by simp [HistoryEntry.lastGrace]⟩
  | finished | failedLate => exact Or.inl ⟨by simp,by simp⟩
  | _ => exact Or.inl ⟨rfl,rfl⟩

theorem Step.clock (taken : runtime.Step s phase event t next) : s.clock ≤ t.clock := by
  cases taken with
  | tick later => exact later
  | finished | failedLate =>
    rw [Remediation.resolveFinding_clock]
    exact le_refl _
  | _ => exact le_refl _

theorem Step.startable (taken : runtime.Step s phase event t next) (patient : Patient s phase)
    (found : t.store.requests.find id = some row) (startable : row.status.startable = true) :
    (∃ before, s.store.requests.find id = some before ∧ before.status.startable = true) ∨
      ∃ target, t.history = s.history ++ [.approved id target] := by
  rcases taken.found found with kept | ⟨_,created⟩ | ⟨commits,f,before,writes,there,rfl⟩
  · exact Or.inl ⟨row,kept,startable⟩
  · simp [created.pending,RemediationStatus.startable] at startable
  · by_cases already : before.status.startable = true
    · exact Or.inl ⟨before,there,already⟩
    · have moved {copy written : RemediationRequest} (same : f = (·.flush copy written)) :
          written.status.startable = true := by
        subst same
        rcases RemediationRequest.flush_status_or before copy written with gone | stays
        · rw [← gone]
          exact startable
        · rw [stays] at startable
          exact absurd startable already
      subst commits
      cases taken with
      | @reviewed s kind requestId copy row written =>
        obtain ⟨rfl,rfl⟩ := Prod.mk.inj (Option.some.inj writes)
        have facts : Reviewed kind copy written := patient.remembers
        have ready := moved rfl
        cases kind with
        | approve => exact Or.inr ⟨_,rfl⟩
        | reject => simp [facts.status,RemediationStatus.startable] at ready
      | approved =>
        obtain ⟨rfl,rfl⟩ := Prod.mk.inj (Option.some.inj writes)
        exact Or.inr ⟨_,rfl⟩
      | @scheduled jobs s execution copy row written hours jobId enqueued =>
        obtain ⟨rfl,rfl⟩ := Prod.mk.inj (Option.some.inj writes)
        have locked := patient.locked _ row rfl
        obtain rfl := Option.some.inj (there.symm.trans locked)
        have fresh : copy.status = before.status := patient.timely.1
        have ready : copy.status.startable = true := patient.remembers.1
        rw [fresh] at ready
        exact absurd ready already
      | blocked | escalated | started =>
        obtain ⟨rfl,rfl⟩ := Prod.mk.inj (Option.some.inj writes)
        have ready := moved rfl
        rw [patient.remembers.2.1] at ready
        simp [FirstWrite.status,RemediationStatus.startable] at ready
      | failed | failedLate =>
        obtain ⟨rfl,rfl⟩ := Prod.mk.inj (Option.some.inj writes)
        have ready := moved rfl
        rw [patient.remembers] at ready
        simp [RemediationStatus.startable] at ready
      | failedExpired =>
        obtain ⟨rfl,rfl⟩ := Prod.mk.inj (Option.some.inj writes)
        simp [RemediationStatus.startable] at startable
      | finished =>
        obtain ⟨rfl,rfl⟩ := Prod.mk.inj (Option.some.inj writes)
        have ready := moved rfl
        rcases patient.remembers with status | status
        · simp [status,RemediationStatus.startable] at ready
        · simp [status,RemediationStatus.startable] at ready

theorem scheduled_waits {execution : Execution} {copy written : RemediationRequest} {hours : Int}
    {jobId : Uuid} {history : List HistoryEntry}
    (patient : Patient s (.writing execution copy row written .schedule hours))
    (found : s.store.requests.find execution.requestId = some row)
    (logged : history = s.history ++ [.scheduled execution.requestId jobId hours]) :
    ∃ at_, (row.flush copy written).scheduledExecutionAt = some at_ ∧
      GraceOver history execution.requestId (row.flush copy written).target.action at_ := by
  obtain ⟨_,fresh,⟨days,grace⟩,calledAt,at_,called,time,waited⟩ := patient.timely
  obtain ⟨known,there,target⟩ := patient.copies _ List.mem_cons_self
  obtain rfl := Option.some.inj (found.symm.trans there)
  refine ⟨at_,?_,calledAt,hours,days,?_,?_,?_,waited⟩
  · by_cases moved : some at_ = copy.scheduledExecutionAt
    · simp [RemediationRequest.flush,flushed,time,← moved,← fresh]
    · simp [RemediationRequest.flush,flushed,time,moved]
  · simp [logged,HistoryEntry.firstCall,called]
  · simp [logged,HistoryEntry.lastGrace]
  · rw [RemediationRequest.flush_target, target]
    exact grace

theorem Step.graceWaits (taken : runtime.Step s phase event t next) (patient : Patient s phase)
    (waits : GraceWaits s) : GraceWaits t := by
  have status := patient.remembers
  have time := patient.keepsTime
  cases taken with
  | create made inserted => exact waits.inserted (newRequest_pending made) inserted rfl
  | createFromFinding made inserted =>
    exact waits.inserted (newRequestFromFinding_pending made) inserted rfl
  | @lock row s execution copy found provider =>
    intro id other there scheduled
    obtain ⟨at_,before,elapsed⟩ := waits id other there scheduled
    exact ⟨at_,before,elapsed.called⟩
  | @reviewed s kind requestId copy row written =>
    have facts : Reviewed kind copy written := status
    refine waits.written (f := (·.flush copy written)) rfl (fun id apart => ?_)
      fun row found scheduled => ?_
    · cases kind with
      | reject => exact ⟨by simp [reviewEntries],by simp [reviewEntries]⟩
      | approve => exact ⟨by simp [reviewEntries,HistoryEntry.firstCall,Ne.symm apart],
          by simp [reviewEntries,HistoryEntry.lastGrace]⟩
    · have moved : written.status ≠ copy.status := by
        cases kind with
        | reject => rcases facts.pending with old | old <;> simp [facts.status,old]
        | approve => rcases facts.pending with old | old <;> simp [facts.status,old]
      rw [RemediationRequest.flush_status moved, facts.status] at scheduled
      cases kind with
      | reject => simp at scheduled
      | approve => simp at scheduled
  | @approved row s bypass requestId copy written rest found =>
    have approved : written = copy.hardLimitApproved := patient.plans
    have pending : copy.status = .pending := patient.listed _ List.mem_cons_self
    refine waits.written (f := (·.flush copy written)) rfl (fun id apart => ?_)
      fun row found scheduled => ?_
    · exact ⟨by simp [HistoryEntry.firstCall,Ne.symm apart],by simp [HistoryEntry.lastGrace]⟩
    · rw [RemediationRequest.flush_status (by simp [approved,pending]), approved] at scheduled
      simp at scheduled
  | @scheduled jobs s execution copy row written hours jobId enqueued =>
    refine waits.written (f := (·.flush copy written)) rfl (fun id apart => ?_)
      fun before found scheduled => ?_
    · exact ⟨by simp [HistoryEntry.firstCall],by simp [HistoryEntry.lastGrace,Ne.symm apart]⟩
    · obtain rfl := Option.some.inj ((patient.locked _ row rfl).symm.trans found)
      exact scheduled_waits patient found rfl
  | blocked | started =>
    refine waits.rewritten rfl (fun _ => ⟨rfl,rfl⟩) ?_ (time (by simp))
    simp [status.2.1,FirstWrite.status]
  | escalated =>
    refine waits.rewritten rfl (fun _ => ?_) ?_ (time (by simp))
    · exact ⟨by simp [HistoryEntry.firstCall],by simp [HistoryEntry.lastGrace]⟩
    · simp [status.2.1,FirstWrite.status]
  | failed => exact waits.rewritten rfl (fun _ => ⟨rfl,rfl⟩) (by rw [status]; simp) time
  | failedLate =>
    exact waits.rewritten Remediation.resolveFinding_requests (fun _ => ⟨by simp,by simp⟩)
      (by rw [status]; simp) time
  | finished =>
    refine waits.rewritten Remediation.resolveFinding_requests (fun _ => ⟨by simp,by simp⟩) ?_ time
    rcases status with concluded | concluded
    · simp [concluded]
    · simp [concluded]
  | failedExpired =>
    refine waits.written Remediation.updateRequest_requests (fun _ _ => ⟨rfl,rfl⟩)
      fun row _ scheduled => ?_
    simp at scheduled
  | invoke =>
    refine waits.kept rfl fun _ => ?_
    exact ⟨by simp [HistoryEntry.firstCall],by simp [HistoryEntry.lastGrace]⟩
  | _ => exact waits.kept rfl fun _ => ⟨rfl,rfl⟩

/-- A call is counted from the lock on, and no call is counted before it was made. -/
theorem Step.firstCall_le (taken : runtime.Step s phase event t next)
    (called : ∀ id at_, firstCall id s.history = some at_ → at_ ≤ s.clock) {at_ : Int}
    (first : firstCall id t.history = some at_) : at_ ≤ t.clock := by
  have passes := taken.clock
  rcases taken.logs id with same | ⟨logged,_⟩ | ⟨target,logged,_⟩ | ⟨_,_,_,_,_,_,_,_,logged⟩
  · rw [same.1] at first
    exact (called id at_ first).trans passes
  · rw [logged] at first
    cases before : firstCall id s.history with
    | none =>
      simp only [firstCall_append,List.foldl_cons,List.foldl_nil,HistoryEntry.firstCall,before,
        if_true,Option.none_or,Option.some.injEq] at first
      omega
    | some old =>
      simp only [firstCall_append,List.foldl_cons,List.foldl_nil,HistoryEntry.firstCall,before,
        if_true,Option.some_or,Option.some.injEq] at first
      have := called id old before
      omega
  · simp [logged,HistoryEntry.firstCall] at first
  · simp only [logged,firstCall_append,List.foldl_cons,List.foldl_nil,
      HistoryEntry.firstCall] at first
    exact (called id at_ first).trans passes

theorem checked_timely {execution : Execution} {copy written : RemediationRequest}
    {env : ExecuteEnvironment} {write : FirstWrite}
    (patient : Patient s (.checking execution copy row)) (graced : Graced s)
    (honours : HonoursGrace s (.checking execution copy row) (.check env))
    (checked : runtime.checkExecution s.store.findings execution.bypassGracePeriod copy env =
      .ok (.write written write)) :
    (RemediationPhase.writing execution copy row written write
      (graceHours copy.target.action env.licenseReclaimGracePeriodDays)).Timely s := by
  have facts := checkExecution_eq_write checked
  have honest : execution.bypassGracePeriod = false :=
    (Bool.or_eq_false_iff.mp patient.honest).1
  obtain ⟨past,notBehind,fresh⟩ := honours
  obtain ⟨status,time⟩ := fresh _ _ _ rfl
  obtain ⟨calledAt,called⟩ := patient.timely
  cases write with
  | block => trivial
  | escalate => trivial
  | schedule =>
    refine ⟨status,time,⟨_,rfl⟩,calledAt,_,called,(facts.scheduled rfl).2,?_⟩
    have before := graced.called _ _ called
    omega
  | execute =>
    have waiting := facts.executed rfl honest
    have due := facts.due honest
    have found := patient.locked _ row rfl
    obtain ⟨known,there,target⟩ := patient.copies _ List.mem_cons_self
    obtain rfl := Option.some.inj (found.symm.trans there)
    obtain ⟨at_,scheduled,elapsed⟩ := graced.waits _ row found (status.symm.trans waiting)
    have target : row.target = copy.target := target
    rw [target] at elapsed
    refine elapsed.mono ?_
    have reached : ¬env.now < at_ := by
      simpa [RemediationRequest.inGracePeriod,waiting,time,scheduled] using due
    omega

theorem returned_timely {caller : Caller} {status : RemediationStatus} :
    (caller.returned status).Timely s := by
  cases caller <;> trivial

theorem raised_timely {caller : Caller} {message : String} : (caller.raised message).Timely s := by
  cases caller <;> trivial

theorem Step.timely (taken : runtime.Step s phase event t next) (patient : Patient s phase)
    (graced : Graced s) (honours : HonoursGrace s phase event) : next.Timely t := by
  cases taken with
  | @lock row s execution copy found provider =>
    cases before : firstCall execution.requestId s.history with
    | none => exact ⟨s.clock,by simp [HistoryEntry.firstCall,before]⟩
    | some old => exact ⟨old,by simp [HistoryEntry.firstCall,before]⟩
  | check checked => exact checked_timely patient graced honours checked
  | @started s execution copy row written hours =>
    have found := patient.locked _ row rfl
    obtain ⟨startable,status,target⟩ := patient.remembers
    have elapsed : GraceOver s.history execution.requestId copy.target.action s.clock :=
      patient.timely
    have moved : written.status ≠ copy.status := by
      rw [status]
      intro same
      simp [← same,FirstWrite.status,RemediationStatus.startable] at startable
    refine ⟨by rw [target]; exact elapsed,fun after there => ?_⟩
    have there : (s.store.requests.update execution.requestId (·.flush copy written)).find
        execution.requestId = some after := there
    rw [Table.find_update_same, found] at there
    obtain rfl := Option.some.inj there
    rw [RemediationRequest.flush_status moved, status]
    rfl
  | deferred | scheduled | refresh => exact returned_timely
  | invalidProvider => exact raised_timely
  | _ => trivial

theorem Step.patient (taken : runtime.Step s phase event t next) (patient : Patient s phase)
    (graced : Graced s) (honours : HonoursGrace s phase event) : Patient t next where
  remembers := taken.remembers
  plans := taken.plans
  honest := taken.bypasses honours patient.honest
  listed := taken.listed patient.listed
  keepsTime := taken.keepsTime patient.keepsTime
  locked id row locked := by
    obtain ⟨same,there⟩ := taken.lockedRow locked
    rw [same]
    exact there.elim (fun found => found) (patient.locked id row)
  copies entry member := taken.knows (taken.copies patient.remembers patient.copies entry member)
  timely := taken.timely patient graced honours

/-- Under a lock of another session nothing is logged about its request. -/
theorem Step.sameCalls (taken : runtime.Step s phase event t next) (away : id ∉ phase.held)
    (unlocked : id ∉ next.held) : SameCalls id s.history t.history := by
  rcases taken.logs id with same | ⟨_,held⟩ | ⟨_,_,held⟩ | ⟨_,_,_,_,_,_,rfl,rfl,_⟩
  · exact same
  · exact absurd held unlocked
  · exact absurd held away
  · exact absurd (List.mem_singleton_self _) away

theorem Step.undisturbedTimes (taken : runtime.Step s phase event t next)
    (patient : Patient s phase) (others : Patient s other)
    (apart : ∀ id ∈ phase.held, id ∉ other.held)
    (permitted : ∀ id ∈ other.held,
      id ∉ next.held ∧ t.store.requests.find id = s.store.requests.find id)
    (keeps : other.KeepsApproval s t next) : other.Timely t := by
  have passes := taken.clock
  have timely := others.timely
  have quiet {id : Uuid} (held : id ∈ other.held) : SameCalls id s.history t.history :=
    taken.sameCalls (fun mine => apart id mine held) (permitted id held).1
  cases other with
  | checking execution copy row =>
    obtain ⟨calledAt,called⟩ := timely
    exact ⟨calledAt,(quiet (List.mem_singleton_self _)).1.trans called⟩
  | writing execution copy row written write hours =>
    have same := quiet (List.mem_singleton_self execution.requestId)
    cases write with
    | block => trivial
    | escalate => trivial
    | schedule =>
      obtain ⟨status,time,grace,calledAt,at_,called,scheduled,waited⟩ := timely
      exact ⟨status,time,grace,calledAt,at_,same.1.trans called,scheduled,waited⟩
    | execute => exact (GraceOver.kept timely same).mono passes
  | executing execution copy =>
    obtain ⟨elapsed,running⟩ := timely
    have unapproved := keeps execution copy
    refine ⟨?_,fun row found => ?_⟩
    · rcases taken.logs execution.requestId with
        same | ⟨logged,_⟩ | ⟨target,logged,_⟩ | ⟨mine,before,row,written,hours,jobId,rfl,same,_⟩
      · exact (elapsed.kept same).mono passes
      · rw [logged]
        exact elapsed.called.mono passes
      · exact absurd logged (unapproved target rfl)
      · have found := patient.locked _ row rfl
        have fresh : before.status = row.status := patient.timely.1
        have startable : before.status.startable = true := patient.remembers.1
        rw [fresh, running row (by rw [same]; exact found)] at startable
        exact absurd startable (by simp)
    · by_contra startable
      rcases taken.startable patient found (by simpa using startable) with
        ⟨before,there,ready⟩ | ⟨target,logged⟩
      · rw [running before there] at ready
        exact absurd ready (by simp)
      · exact unapproved target rfl logged
  | _ => trivial

theorem Step.undisturbedGrace (taken : runtime.Step s phase event t next)
    (patient : Patient s phase) (others : Patient s other)
    (apart : ∀ id ∈ phase.held, id ∉ other.held)
    (permitted : ∀ id ∈ other.held,
      id ∉ next.held ∧ t.store.requests.find id = s.store.requests.find id)
    (keeps : other.KeepsApproval s t next) : Patient t other where
  remembers := others.remembers
  plans := others.plans
  honest := others.honest
  listed := others.listed
  keepsTime := others.keepsTime
  locked id row locked := by
    rw [(permitted id (RemediationPhase.lockedRow_held locked)).2]
    exact others.locked id row locked
  copies entry member := taken.knows (others.copies entry member)
  timely := taken.undisturbedTimes patient others apart permitted keeps

theorem Step.graced (taken : runtime.Step s phase event t next) (patient : Patient s phase)
    (graced : Graced s) : Graced t := by
  refine ⟨fun id at_ first => taken.firstCall_le graced.called first,
    taken.graceWaits patient graced.waits,?_⟩
  rcases taken.history with same | ⟨execution,copy,service,credential,hint,rfl,_,called⟩ |
    ⟨entry,added,other⟩
  · rw [same]
    exact graced.law
  · rw [called]
    refine graced.law.snoc fun id invocation same => ?_
    obtain ⟨rfl,rfl⟩ := HistoryEntry.invoked.inj same
    exact patient.timely.1
  · rw [added]
    exact graced.law.snoc fun id invocation same => absurd same (other id invocation)

theorem grace_discipline (runtime : RemediationRuntime) :
    Interleaving.Discipline runtime.graceProtocol Graced Patient
      fun a b => ∀ id ∈ a.held, id ∉ b.held where
  symmetric _ _ apart id there here := apart id here there
  own _ _ _ _ _ graced patient taken :=
    ⟨taken.1.1.graced patient graced,taken.1.1.patient patient graced taken.2⟩
  exclusive _ _ _ _ _ _ _ _ _ _ _ permitted id here there := (permitted.1 id there).1 here
  undisturbed _ _ _ _ _ _ _ patient others apart taken permitted :=
    taken.1.1.undisturbedGrace patient others apart permitted.1 permitted.2

end RemediationRuntime

theorem Opening.graced {start : RemediationSystem ι} (opening : Opening start) :
    Interleaving.Good Graced RemediationPhase.Patient (fun a b => ∀ id ∈ a.held, id ∉ b.held)
      start := by
  refine ⟨⟨fun id at_ first => ?_,fun id row found => ?_,fun past id invocation later split => ?_⟩,
    fun party => ?_,fun party other _ => ?_⟩
  · simp [opening.history,firstCall] at first
  · simp [opening.requests] at found
  · simp [opening.history] at split
  · rw [opening.idle party]
    refine ⟨trivial,trivial,rfl,?_,trivial,?_,?_,trivial⟩
    · simp [RemediationPhase.listed]
    · simp [RemediationPhase.lockedRow]
    · simp [RemediationPhase.copies]
  · simp [opening.idle party,RemediationPhase.held]

/-- Without a bypass and an outdated copy no action runs before its grace period is over,
and while no job of a SCHEDULED request is early or given up, each can be picked up. -/
theorem grace_period_honoured (runtime : RemediationRuntime) [DecidableEq ι]
    {start : RemediationSystem ι} (opening : Opening start) :
    (∀ events final, Trace runtime.GraceSteps start events final →
      GraceLaw final.shared.history) ∧
    (∀ events final, Trace runtime.PickupSteps start events final → PickedUp final.shared) :=
  ⟨fun _ _ run =>
    ((RemediationRuntime.grace_discipline runtime).run run opening.graced).invariant.law,
    fun _ _ run => scheduled_pickedUp opening run⟩

namespace Sample

open Interleaving (pair)

/-- The guards of both parts together. -/
def PatientSteps (system : RemediationSystem Bool) (event : Bool × RemediationEvent)
    (next : RemediationSystem Bool) : Prop :=
  Interleaving.Step (runtime.remediationProtocol.restrict
    (fun s phase event => RemediationRuntime.HonoursGrace s phase event ∧
      RemediationRuntime.KeepsJob s phase event) RemediationPhase.KeepsApproval) system event next

theorem PatientSteps.grace {system next : RemediationSystem Bool} {event : Bool × RemediationEvent}
    (step : PatientSteps system event next) : runtime.GraceSteps system event next :=
  step.weaken (fun _ _ _ guards => guards.1) fun _ _ _ _ keeps => keeps

theorem PatientSteps.pickup {system next : RemediationSystem Bool}
    {event : Bool × RemediationEvent} (step : PatientSteps system event next) :
    runtime.PickupSteps system event next :=
  step.weaken (fun _ _ _ guards => guards.2) fun _ _ _ _ _ => trivial

theorem step_alone {s t : Remediation} {first next : RemediationPhase} {event : RemediationEvent}
    (taken : runtime.Step s first event t next) (indexed : t.store.Indexed)
    (honours : RemediationRuntime.HonoursGrace s first event)
    (keeps : RemediationRuntime.KeepsJob s first event) :
    PatientSteps (pair s first .idle) (false,event) (pair t next .idle) := by
  refine Interleaving.Step.first ⟨⟨taken,indexed⟩,honours,keeps⟩ ⟨fun id held => ?_,?_⟩
  · simp [RemediationPhase.held] at held
  · intro _ _ _ executing
    simp at executing

def day : Int := 24 * microsPerHour

def approvedVolume : RemediationRequest :=
  request.flush request { request with status := .approved, reviewedByUserId := some 8 }

def waitingCopy : RemediationRequest :=
  (approvedVolume.applySystemPolicyContext []).schedule (0 + 24 * microsPerHour)

def waitingVolume : RemediationRequest := approvedVolume.flush approvedVolume waitingCopy

def waitingJob : BackgroundJob where
  requestId := 1
  scheduledFor := day

def queue (job : BackgroundJob) : Table Uuid BackgroundJob := ⟨[(9,job)],by simp⟩

theorem queue_find {row : RemediationRequest} {job : BackgroundJob} {history : List HistoryEntry}
    {clock : Int} : (holding row (queue job) history clock).store.jobs.find 9 = some job := rfl

def approval : List HistoryEntry := [.approved 1 volumeTarget]

def scheduling : List (Bool × RemediationEvent) :=
  [(false,.create volume),(false,.load 1),(false,.review .approve { reviewerId := 8 }),
    (false,.commit),(false,.load 1),(false,.execute false),(false,.lock),(false,.check allowing),
    (false,.commit)]

def scheduledHistory : List HistoryEntry := approval ++ [.called 1 0,.scheduled 1 9 24]

theorem volume_step : runtime.Step opening .idle (.create volume)
    (holding request .empty [] 0) .idle :=
  .create volume_created rfl

theorem approve_step : runtime.Step (holding request .empty [] 0)
    (.reviewing .approve 1 request request
      { request with status := .approved, reviewedByUserId := some 8 }) .commit
    (holding approvedVolume .empty approval 0) .idle :=
  .reviewed

theorem lockVolume_step : runtime.Step (holding approvedVolume .empty approval 0)
    (.opened ⟨.service,1,false⟩ approvedVolume) .lock
    (holding approvedVolume .empty (approval ++ [.called 1 0]) 0)
    (.checking ⟨.service,1,false⟩ approvedVolume approvedVolume) := by
  refine .lock rfl ?_
  have provider : approvedVolume.target.provider = "aws" := rfl
  simp [provider,normalizeProvider_aws]

theorem checkVolume_step : runtime.Step
    (holding approvedVolume .empty (approval ++ [.called 1 0]) 0)
    (.checking ⟨.service,1,false⟩ approvedVolume approvedVolume) (.check allowing)
    (holding approvedVolume .empty (approval ++ [.called 1 0]) 0)
    (.writing ⟨.service,1,false⟩ approvedVolume approvedVolume waitingCopy .schedule 24) :=
  .check rfl

theorem schedule_step : runtime.Step
    (holding approvedVolume .empty (approval ++ [.called 1 0]) 0)
    (.writing ⟨.service,1,false⟩ approvedVolume approvedVolume waitingCopy .schedule 24) .commit
    (holding waitingVolume (queue waitingJob) scheduledHistory 0) .idle :=
  .scheduled rfl

theorem scheduling_run : Trace PatientSteps (pair opening .idle .idle) scheduling
    (pair (holding waitingVolume (queue waitingJob) scheduledHistory 0) .idle .idle) := by
  refine .go (step_alone volume_step holding_indexed trivial trivial) ?_
  refine .go (step_alone (.load rfl) holding_indexed trivial trivial) ?_
  refine .go (step_alone (.review rfl rfl) holding_indexed trivial trivial) ?_
  refine .go (step_alone approve_step holding_indexed trivial trivial) ?_
  refine .go (step_alone (.load rfl) holding_indexed trivial trivial) ?_
  refine .go (step_alone .execute holding_indexed rfl trivial) ?_
  refine .go (step_alone lockVolume_step holding_indexed trivial trivial) ?_
  refine .go (step_alone checkVolume_step holding_indexed ?_ ?_) ?_
  · refine ⟨le_refl _,le_refl _,fun execution copy row same => ?_⟩
    obtain ⟨rfl,rfl,rfl⟩ := RemediationPhase.checking.inj same
    exact ⟨rfl,rfl⟩
  · intro execution copy row jobId same job
    obtain ⟨rfl,rfl,rfl⟩ := RemediationPhase.checking.inj same
    simp [Execution.job] at job
  · exact .go (step_alone schedule_step holding_indexed trivial trivial) .stop

def firing : List (Bool × RemediationEvent) :=
  [(false,.tick day),(false,.fetch 9 day),(false,.handle),(false,.proceed day),(false,.lock),
    (false,.check { evaluation := ⟨.allow,""⟩, now := day, later := day }),(false,.commit),
    (false,.invoke "" "" "")]

def firedJob : BackgroundJob := waitingJob.fetch day

def firedVolume : RemediationRequest :=
  waitingVolume.flush waitingVolume (waitingVolume.applySystemPolicyContext []).execute

def firedHistory : List HistoryEntry := scheduledHistory ++ [.called 1 day]

def deletion : Invocation where
  target := volumeTarget
  executionRegion := "us-east-1"
  finding := none
  invokedAt := day

theorem fetch_step : runtime.Step (holding waitingVolume (queue waitingJob) scheduledHistory day)
    .idle (.fetch 9 day) (holding waitingVolume (queue firedJob) scheduledHistory day)
    (.fetched 9) :=
  .fetch rfl rfl

theorem handle_step : runtime.Step (holding waitingVolume (queue firedJob) scheduledHistory day)
    (.fetched 9) .handle (holding waitingVolume (queue firedJob) scheduledHistory day)
    (.handling 9 1 waitingVolume) :=
  .handle queue_find rfl

theorem proceed_step : runtime.Step (holding waitingVolume (queue firedJob) scheduledHistory day)
    (.handling 9 1 waitingVolume) (.proceed day)
    (holding waitingVolume (queue firedJob) scheduledHistory day)
    (.opened ⟨.job 9,1,false⟩ waitingVolume) :=
  .proceed rfl

theorem lockFired_step : runtime.Step (holding waitingVolume (queue firedJob) scheduledHistory day)
    (.opened ⟨.job 9,1,false⟩ waitingVolume) .lock
    (holding waitingVolume (queue firedJob) firedHistory day)
    (.checking ⟨.job 9,1,false⟩ waitingVolume waitingVolume) := by
  refine .lock rfl ?_
  have provider : waitingVolume.target.provider = "aws" := rfl
  simp [provider,normalizeProvider_aws]

theorem checkFired_step : runtime.Step (holding waitingVolume (queue firedJob) firedHistory day)
    (.checking ⟨.job 9,1,false⟩ waitingVolume waitingVolume)
    (.check { evaluation := ⟨.allow,""⟩, now := day, later := day })
    (holding waitingVolume (queue firedJob) firedHistory day)
    (.writing ⟨.job 9,1,false⟩ waitingVolume waitingVolume
      (waitingVolume.applySystemPolicyContext []).execute .execute 24) :=
  .check rfl

theorem startFired_step : runtime.Step (holding waitingVolume (queue firedJob) firedHistory day)
    (.writing ⟨.job 9,1,false⟩ waitingVolume waitingVolume
      (waitingVolume.applySystemPolicyContext []).execute .execute 24) .commit
    (holding firedVolume (queue firedJob) firedHistory day)
    (.executing ⟨.job 9,1,false⟩ (waitingVolume.applySystemPolicyContext []).execute) :=
  .started

theorem invokeFired_step : runtime.Step (holding firedVolume (queue firedJob) firedHistory day)
    (.executing ⟨.job 9,1,false⟩ (waitingVolume.applySystemPolicyContext []).execute)
    (.invoke "" "" "")
    (holding firedVolume (queue firedJob) (firedHistory ++ [.invoked 1 deletion]) day)
    (.invoked ⟨.job 9,1,false⟩ (waitingVolume.applySystemPolicyContext []).execute) :=
  .invoke

theorem tick_step : runtime.Step (holding waitingVolume (queue waitingJob) scheduledHistory 0)
    .idle (.tick day) (holding waitingVolume (queue waitingJob) scheduledHistory day) .idle :=
  .tick (by decide)

theorem firing_run :
    Trace PatientSteps (pair (holding waitingVolume (queue waitingJob) scheduledHistory 0) .idle .idle)
      firing (pair (holding firedVolume (queue firedJob) (firedHistory ++ [.invoked 1 deletion]) day)
        (.invoked ⟨.job 9,1,false⟩ (waitingVolume.applySystemPolicyContext []).execute) .idle) := by
  have due : waitingVolume.inGracePeriod day = false := rfl
  refine .go (step_alone tick_step holding_indexed trivial trivial) ?_
  refine .go (step_alone fetch_step holding_indexed trivial trivial) ?_
  refine .go (step_alone handle_step holding_indexed trivial trivial) ?_
  refine .go (step_alone proceed_step holding_indexed trivial ?_) ?_
  · intro jobId requestId copy same id _
    obtain ⟨rfl,rfl,rfl⟩ := RemediationPhase.handling.inj same
    exact due
  refine .go (step_alone lockFired_step holding_indexed trivial trivial) ?_
  refine .go (step_alone checkFired_step holding_indexed ?_ ?_) ?_
  · refine ⟨le_refl _,le_refl _,fun execution copy row same => ?_⟩
    obtain ⟨rfl,rfl,rfl⟩ := RemediationPhase.checking.inj same
    exact ⟨rfl,rfl⟩
  · intro execution copy row jobId same job id _
    obtain ⟨rfl,rfl,rfl⟩ := RemediationPhase.checking.inj same
    exact due
  refine .go (step_alone startFired_step holding_indexed trivial trivial) ?_
  exact .go (step_alone invokeFired_step holding_indexed trivial trivial) .stop

/-- The worker's clock stands before the scheduled time again when the handler reads it. -/
def skipping : List (Bool × RemediationEvent) :=
  [(false,.tick day),(false,.fetch 9 day),(false,.handle),(false,.proceed (day - 1)),
    (false,.report day)]

theorem skip_step : runtime.Step (holding waitingVolume (queue firedJob) scheduledHistory day)
    (.handling 9 1 waitingVolume) (.proceed (day - 1))
    (holding waitingVolume (queue firedJob) scheduledHistory day) (.reporting 9 none) :=
  .skipped rfl

theorem report_step : runtime.Step (holding waitingVolume (queue firedJob) scheduledHistory day)
    (.reporting 9 none) (.report day)
    (holding waitingVolume (queue (firedJob.complete day)) scheduledHistory day) .idle :=
  .reportCompleted

theorem step_free {s t : Remediation} {first next : RemediationPhase} {event : RemediationEvent}
    (taken : runtime.Step s first event t next) (indexed : t.store.Indexed) :
    runtime.RemediationSteps (pair s first .idle) (false,event) (pair t next .idle) := by
  refine Interleaving.Step.first ⟨taken,indexed⟩ fun id held => ?_
  simp [RemediationPhase.held] at held

theorem skipping_run : Trace runtime.RemediationSteps
    (pair (holding waitingVolume (queue waitingJob) scheduledHistory 0) .idle .idle) skipping
    (pair (holding waitingVolume (queue (firedJob.complete day)) scheduledHistory day)
      .idle .idle) := by
  refine .go (step_free tick_step holding_indexed) ?_
  refine .go (step_free fetch_step holding_indexed) ?_
  refine .go (step_free handle_step holding_indexed) ?_
  refine .go (step_free skip_step holding_indexed) ?_
  exact .go (step_free report_step holding_indexed) .stop

end Sample

/-- A volume is deleted a day after its execution was asked for, and its request could be
picked up until then. -/
theorem grace_period_honoured_day : ∃ waiting final : RemediationSystem Bool,
    waiting.shared.store.requests.find 1 = some Sample.waitingVolume ∧
      Sample.waitingVolume.status = .scheduled ∧ PickedUp waiting.shared ∧
      invocations 1 final.shared.history = [Sample.deletion] ∧ GraceLaw final.shared.history := by
  obtain ⟨honoured,pickedUp⟩ := grace_period_honoured Sample.runtime Sample.opening_starts
  refine ⟨_,_,?_,?_,pickedUp _ _ (Sample.scheduling_run.mono fun step => step.pickup),?_,
    honoured _ _ ((Sample.scheduling_run.trans Sample.firing_run).mono fun step => step.grace)⟩
  · rfl
  · rfl
  · rfl

/-- A job that runs early is completed, and nothing is left to pick its request up. -/
theorem early_job_strands : ∃ (start final : RemediationSystem Bool)
    (events : List (Bool × RemediationEvent)),
    Opening start ∧ Trace Sample.runtime.RemediationSteps start events final ∧
      (∀ party bypass, (party,RemediationEvent.execute bypass) ∈ events → bypass = false) ∧
      ¬PickedUp final.shared := by
  refine ⟨_,_,Sample.scheduling ++ Sample.skipping,Sample.opening_starts,
    (Sample.scheduling_run.mono fun step => step.pickup.unrestricted).trans Sample.skipping_run,
    ?_,fun pickedUp => ?_⟩
  · intro party bypass member
    have only : party = false ∧ bypass = false := by
      simpa [Sample.scheduling,Sample.skipping] using member
    exact only.2
  · obtain ⟨jobId,job,found,_,live⟩ := pickedUp 1 Sample.waitingVolume rfl rfl
    have present := Table.find_eq_some_iff.mp found
    obtain ⟨rfl,rfl⟩ := Prod.mk.inj (List.mem_singleton.mp present)
    rcases live with running | ⟨pending,_⟩
    · simp [BackgroundJob.complete] at running
    · simp [BackgroundJob.complete] at pending

end Valdrics.Optimization

import Valdrics.RemediationFinality

/-! The action of a request is called at most once, for what was approved last. A request
is approved, scheduled or executing only under an approval that no escalation followed; a
session is alone on an EXECUTING request; and the finding it checked is still the one it
acts on when no other session writes it in between. -/
namespace Valdrics.Optimization

open Enforcement (Uuid bind_eq_ok)

def HistoryEntry.standing (requestId : Uuid) (before : Option RequestTarget) :
    HistoryEntry → Option RequestTarget
  | .approved id target => if id = requestId then some target else before
  | .escalated id => if id = requestId then none else before
  | _ => before

def standing (requestId : Uuid) (history : List HistoryEntry) : Option RequestTarget :=
  history.foldl (HistoryEntry.standing requestId) none

@[simp] theorem standing_append {requestId : Uuid} {history entries : List HistoryEntry} :
    standing requestId (history ++ entries) =
      entries.foldl (HistoryEntry.standing requestId) (standing requestId history) := by
  simp [standing]

@[simp] theorem invocations_append {requestId : Uuid} {history entries : List HistoryEntry} :
    invocations requestId (history ++ entries) =
      invocations requestId history ++ invocations requestId entries := by
  simp [invocations]

def RemediationStatus.underway : RemediationStatus → Bool
  | .approved | .scheduled | .executing => true
  | _ => false

/-- What a strategy was called with is what its request says, and its finding was open and
the one of the snapshot. -/
structure SoundInvocation (runtime : RemediationRuntime) (invocation : Invocation) : Prop where
  region : runtime.unplaced invocation.target.region = false →
    invocation.executionRegion = invocation.target.region
  finding : ∀ id, invocation.target.findingId = some id → ∃ finding snapshot,
    invocation.finding = some finding ∧ invocation.target.findingSnapshot = some snapshot ∧
      finding.status = .open ∧ finding.fingerprint = snapshot.fingerprint ∧
      runtime.mismatches invocation.target snapshot = []

structure InvocationLaw (runtime : RemediationRuntime) (history : List HistoryEntry) : Prop where
  once : ∀ id, (invocations id history).length ≤ 1
  approved : ∀ past id invocation later, history = past ++ .invoked id invocation :: later →
    standing id past = some invocation.target ∧ SoundInvocation runtime invocation

theorem InvocationLaw.snoc {runtime : RemediationRuntime} {history : List HistoryEntry}
    {entry : HistoryEntry}
    (law : InvocationLaw runtime history)
    (invoked : ∀ id invocation, entry = .invoked id invocation → invocations id history = [] ∧
      standing id history = some invocation.target ∧ SoundInvocation runtime invocation) :
    InvocationLaw runtime (history ++ [entry]) := by
  refine ⟨fun id => ?_,fun past id invocation later split => ?_⟩
  · rw [invocations_append]
    cases entry with
    | invoked other invocation =>
      by_cases same : other = id
      · subst same
        rw [(invoked other invocation rfl).1]
        simp [invocations]
      · simpa [invocations,same] using law.once id
    | _ => simpa [invocations] using law.once id
  · rcases List.eq_nil_or_concat later with rfl | ⟨front,last,rfl⟩
    · obtain ⟨rfl,same⟩ := List.append_inj' split rfl
      exact (invoked id invocation (List.singleton_inj.mp same)).2
    · have whole : history ++ [entry] =
          (past ++ .invoked id invocation :: front) ++ [last] := by
        simpa using split
      exact law.approved past id invocation front (List.append_inj' whole rfl).1

namespace RemediationPhase

/-- The target an execution has checked against its finding and has not acted on yet. -/
def binds : RemediationPhase → Option RequestTarget
  | .writing _ copy _ _ .execute _ | .executing _ copy => some copy.target
  | _ => none

/-- Another session writes no finding that an execution has checked. -/
def KeepsFinding (other : RemediationPhase) (s t : Remediation) (_ : RemediationPhase) : Prop :=
  ∀ target id, other.binds = some target → target.findingId = some id →
    t.store.findings.find id = s.store.findings.find id

end RemediationPhase

namespace RemediationRuntime

variable (runtime : RemediationRuntime)

def undriftedProtocol : Protocol Remediation RemediationPhase RemediationEvent :=
  runtime.remediationProtocol.restrict ExpectedCommit RemediationPhase.KeepsFinding

def UndriftedSteps [DecidableEq ι] (system : RemediationSystem ι)
    (event : ι × RemediationEvent) (next : RemediationSystem ι) : Prop :=
  Interleaving.Step runtime.undriftedProtocol system event next

end RemediationRuntime

def RequestTarget.Snapshotted (target : RequestTarget) : Prop :=
  ∀ id, target.findingId = some id → ∃ snapshot, target.findingSnapshot = some snapshot ∧
    snapshot.fingerprint ≠ "" ∧ PythonText.strip snapshot.fingerprint = snapshot.fingerprint

structure Lawful (runtime : RemediationRuntime) (s : Remediation) : Prop where
  fingerprinted : Fingerprinted s.store.findings
  snapshotted : ∀ id row, s.store.requests.find id = some row → row.target.Snapshotted
  standing : ∀ id row, s.store.requests.find id = some row → row.status.underway = true →
    standing id s.history = some row.target
  uncalled : ∀ id, (∀ row, s.store.requests.find id = some row → row.status.unstarted = true) →
    invocations id s.history = []
  law : InvocationLaw runtime s.history

/-- The requests a hard-limit loop has still to visit. -/
def Caller.rest : Caller → List (Uuid × RemediationRequest)
  | .sweep _ rest => rest
  | _ => []

namespace RemediationPhase

def copies : RemediationPhase → List (Uuid × RemediationRequest)
  | .loaded requestId copy | .handling _ requestId copy | .reviewing _ requestId copy _ _ =>
    [(requestId,copy)]
  | .opened execution copy | .checking execution copy _ | .writing execution copy _ _ _ _
  | .executing execution copy | .invoked execution copy | .finished execution copy _
  | .failing execution copy _ _ | .failingLate execution copy _ _ =>
    (execution.requestId,copy) :: execution.caller.rest
  | .failingExpired execution _ _ | .returning execution => execution.caller.rest
  | .sweeping _ rest => rest
  | .approving _ requestId copy _ rest => (requestId,copy) :: rest
  | .idle | .fetched _ | .reporting _ _ => []

/-- The request that a session goes on with after its commit: what it loaded, and what it
writes. -/
def continues : RemediationPhase → Option (Uuid × RemediationRequest × RemediationRequest)
  | .writing execution copy _ written .execute _ => some (execution.requestId,copy,written)
  | .approving _ requestId copy written _ => some (requestId,copy,written)
  | _ => none

theorem continues_mem {phase : RemediationPhase} {id : Uuid} {copy written : RemediationRequest}
    (continues : phase.continues = some (id,copy,written)) : (id,copy) ∈ phase.copies := by
  cases phase with
  | approving =>
    obtain ⟨rfl,rfl,rfl⟩ := by simpa [RemediationPhase.continues] using continues
    exact List.mem_cons_self
  | writing execution loaded row draft write hours =>
    cases write with
    | execute =>
      obtain ⟨rfl,rfl,rfl⟩ := by simpa [RemediationPhase.continues] using continues
      exact List.mem_cons_self
    | _ => simp [RemediationPhase.continues] at continues
  | _ => simp [RemediationPhase.continues] at continues

end RemediationPhase

def Remediation.Knows (s : Remediation) (entry : Uuid × RemediationRequest) : Prop :=
  ∃ row, s.store.requests.find entry.1 = some row ∧ row.target = entry.2.target

namespace RemediationPhase

structure HoldsOnce (runtime : RemediationRuntime) (s : Remediation) (phase : RemediationPhase) :
    Prop extends Holds s phase where
  copies : ∀ entry ∈ phase.copies, s.Knows entry
  bound : ∀ target, phase.binds = some target → ∃ finding,
    runtime.validateRequestFindingBinding s.store.findings target = .ok finding
  unused : ∀ execution copy, phase = .executing execution copy →
    invocations execution.requestId s.history = []

end RemediationPhase

namespace RemediationRuntime

open RemediationPhase (Holds HoldsOnce Apart)

variable {runtime : RemediationRuntime} {s t : Remediation}
  {phase next other : RemediationPhase} {event : RemediationEvent} {id : Uuid}
  {row : RemediationRequest}

theorem validate_congr {before after : Table Uuid OptimizationFinding} {target : RequestTarget}
    (same : ∀ id, target.findingId = some id → after.find id = before.find id) :
    runtime.validateRequestFindingBinding after target =
      runtime.validateRequestFindingBinding before target := by
  have live (id : Uuid) (bound : target.findingId = some id) (snapshot : FindingSnapshot) :
      validateLiveFinding after snapshot id = validateLiveFinding before snapshot id := by
    simp [validateLiveFinding,getOpenFinding,same id bound]
  cases bound : target.findingId with
  | none => cases snap : target.findingSnapshot <;> simp [validateRequestFindingBinding,bound,snap]
  | some id =>
    cases snap : target.findingSnapshot with
    | none => simp [validateRequestFindingBinding,bound,snap]
    | some snapshot => simp [validateRequestFindingBinding,bound,snap,live id bound]

theorem validate_eq_ok {findings : Table Uuid OptimizationFinding} {target : RequestTarget}
    {found : Option OptimizationFinding} (bound : target.findingId = some id)
    (valid : runtime.validateRequestFindingBinding findings target = .ok found) :
    ∃ finding snapshot, findings.find id = some finding ∧
      target.findingSnapshot = some snapshot ∧ runtime.mismatches target snapshot = [] ∧
      finding.status = .open ∧ (PythonText.strip snapshot.fingerprint = "" ∨
        PythonText.strip snapshot.fingerprint = finding.fingerprint) := by
  cases snap : target.findingSnapshot with
  | none => simp [validateRequestFindingBinding,bound,snap] at valid
  | some snapshot =>
    simp only [validateRequestFindingBinding,bound,snap] at valid
    obtain ⟨_,matching,afterMatch⟩ := bind_eq_ok.mp valid
    obtain ⟨finding,live,_⟩ := bind_eq_ok.mp afterMatch
    obtain ⟨finding,opened,afterOpen⟩ := bind_eq_ok.mp live
    obtain ⟨_,drifted,_⟩ := bind_eq_ok.mp afterOpen
    cases present : findings.find id with
    | none => simp [getOpenFinding,present] at opened
    | some there =>
      simp only [getOpenFinding,present] at opened
      obtain ⟨_,_,afterSource⟩ := bind_eq_ok.mp opened
      obtain ⟨_,status,result⟩ := bind_eq_ok.mp afterSource
      obtain rfl := Except.ok.inj result
      refine ⟨there,snapshot,rfl,rfl,by simpa using matching,by simpa using status,?_⟩
      have same := raiseIf_eq_ok.mp drifted
      by_contra other
      exact same (not_or.mp other)

theorem Step.knows {entry : Uuid × RemediationRequest}
    (taken : runtime.Step s phase event t next) (knows : s.Knows entry) : t.Knows entry := by
  obtain ⟨row,found,target⟩ := knows
  rcases taken.find found with same | ⟨_,f,writes,written⟩
  · exact ⟨row,same,target⟩
  · exact ⟨f row,written,(RemediationPhase.writes_target writes row).trans target⟩

theorem hardLimitRequests_mem {requests : Table Uuid RemediationRequest}
    {entry : Uuid × RemediationRequest} (listed : entry ∈ hardLimitRequests requests) :
    requests.find entry.1 = some entry.2 := by
  have kept := (List.perm_insertionSort _ _).mem_iff.mp listed
  exact Table.find_eq_some_iff.mpr (List.mem_filter.mp kept).1

@[simp] theorem returned_copies {caller : Caller} {status : RemediationStatus} :
    (caller.returned status).copies = caller.rest := by
  cases caller <;> rfl

@[simp] theorem raised_copies {caller : Caller} {message : String} :
    (caller.raised message).copies = caller.rest := by
  cases caller <;> rfl

@[simp] theorem returned_binds {caller : Caller} {status : RemediationStatus} :
    (caller.returned status).binds = none := by
  cases caller <;> rfl

@[simp] theorem raised_binds {caller : Caller} {message : String} :
    (caller.raised message).binds = none := by
  cases caller <;> rfl

@[simp] theorem rolledBack_rest {execution : Execution} :
    execution.rolledBack.caller.rest = [] := by
  cases caller : execution.caller <;>
    simp [Execution.rolledBack,Caller.rolledBack,Caller.rest,caller]

/-- A session's copies are the ones it had, rows it read, or what it has just written. -/
theorem Step.copies_of {entry : Uuid × RemediationRequest}
    (taken : runtime.Step s phase event t next) (member : entry ∈ next.copies) :
    entry ∈ phase.copies ∨ s.store.requests.find entry.1 = some entry.2 ∨
      ∃ copy, phase.continues = some (entry.1,copy,entry.2) := by
  cases taken with
  | load found =>
    obtain rfl := List.mem_singleton.mp member
    exact Or.inr (Or.inl found)
  | handle found read =>
    obtain rfl := List.mem_singleton.mp member
    exact Or.inr (Or.inl read)
  | enforceHardLimit => exact Or.inr (Or.inl (hardLimitRequests_mem member))
  | started | approved =>
    rcases List.mem_cons.mp member with rfl | rest
    · exact Or.inr (Or.inr ⟨_,rfl⟩)
    · exact Or.inl (List.mem_cons_of_mem _ rest)
  | deferred | invalidProvider | scheduled =>
    exact Or.inl (List.mem_cons_of_mem _ (by simpa using member))
  | refresh =>
    rw [returned_copies] at member
    exact Or.inl member
  | unscheduled | rollback => simp [RemediationPhase.copies] at member
  | blocked | escalated | failed | finished | failedLate =>
    exact Or.inl (List.mem_cons_of_mem _ member)
  | review | execute | lock | refused | check | raiseChecking | raiseWriting | failedExpired
  | raiseExecuting | invoke | raiseInvoked | finish | raiseFinished | proceed | approve =>
    exact Or.inl (by simpa [RemediationPhase.copies,Caller.rest] using member)
  | _ => simp [RemediationPhase.copies] at member

theorem continues_target {id : Uuid} {copy written : RemediationRequest}
    (remembers : phase.Remembers) (continues : phase.continues = some (id,copy,written)) :
    written.target = copy.target := by
  cases phase with
  | approving =>
    obtain ⟨rfl,rfl,rfl⟩ := by simpa [RemediationPhase.continues] using continues
    exact remembers
  | writing execution loaded row draft write hours =>
    cases write with
    | execute =>
      obtain ⟨rfl,rfl,rfl⟩ := by simpa [RemediationPhase.continues] using continues
      exact remembers.2.2
    | _ => simp [RemediationPhase.continues] at continues
  | _ => simp [RemediationPhase.continues] at continues

theorem Step.copies (taken : runtime.Step s phase event t next) (remembers : phase.Remembers)
    (copies : ∀ entry ∈ phase.copies, s.Knows entry) : ∀ entry ∈ next.copies, s.Knows entry := by
  intro entry member
  rcases taken.copies_of member with before | found | ⟨copy,continues⟩
  · exact copies entry before
  · exact ⟨_,found,rfl⟩
  · obtain ⟨row,found,target⟩ := copies _ (RemediationPhase.continues_mem continues)
    exact ⟨row,found,target.trans (continues_target remembers continues).symm⟩

/-- A strategy is called for a copy that is under way, in the history so far. -/
theorem Step.history (taken : runtime.Step s phase event t next) :
    (t.history = s.history) ∨
    (∃ execution copy serviceRegion credentialRegion hint, phase = .executing execution copy ∧
      t.store = s.store ∧ t.history = s.history ++ [.invoked execution.requestId {
        target := copy.target
        executionRegion :=
          runtime.resolveExecutionRegion copy.target serviceRegion credentialRegion hint
        finding := copy.target.findingId.bind s.store.findings.find
        invokedAt := s.clock }]) ∨
    (∃ entry, t.history = s.history ++ [entry] ∧ ∀ id invocation, entry ≠ .invoked id invocation) := by
  cases taken with
  | invoke => exact Or.inr (Or.inl ⟨_,_,_,_,_,rfl,rfl,rfl⟩)
  | @reviewed s kind =>
    cases kind with
    | approve => exact Or.inr (Or.inr ⟨_,rfl,by simp⟩)
    | reject => exact Or.inl (by simp [reviewEntries])
  | lock | escalated | scheduled | approved => exact Or.inr (Or.inr ⟨_,rfl,by simp⟩)
  | finished | failedLate => exact Or.inl (by simp)
  | _ => exact Or.inl rfl

theorem underway_of_startable {status : RemediationStatus} (startable : status.startable = true) :
    status.underway = true := by
  cases status <;> simp_all [RemediationStatus.underway,RemediationStatus.startable]

def ApprovalsStand (s : Remediation) : Prop :=
  ∀ id row, s.store.requests.find id = some row → row.status.underway = true →
    standing id s.history = some row.target

section Standing

variable {requestId : Uuid} {f : RemediationRequest → RemediationRequest}

theorem ApprovalsStand.kept (stand : ApprovalsStand s)
    (requests : t.store.requests = s.store.requests)
    (history : ∀ id, standing id t.history = standing id s.history) : ApprovalsStand t := by
  intro id row found underway
  rw [requests] at found
  rw [history]
  exact stand id row found underway

theorem ApprovalsStand.inserted (stand : ApprovalsStand s) (pending : row.status = .pending)
    (inserted : s.store.requests.insert requestId row = some t.store.requests)
    (history : t.history = s.history) : ApprovalsStand t := by
  intro id other found underway
  rw [Table.find_insert inserted] at found
  rw [history]
  by_cases same : id = requestId
  · simp only [same,if_true,Option.some.injEq] at found
    simp [← found,pending,RemediationStatus.underway] at underway
  · simp only [same,if_false] at found
    exact stand id other found underway

theorem ApprovalsStand.written (stand : ApprovalsStand s)
    (updated : t.store.requests = s.store.requests.update requestId f)
    (elsewhere : ∀ id, id ≠ requestId → standing id t.history = standing id s.history)
    (here : ∀ row, s.store.requests.find requestId = some row →
      (f row).status.underway = true → standing requestId t.history = some (f row).target) :
    ApprovalsStand t := by
  intro id other found underway
  rw [updated] at found
  by_cases same : id = requestId
  · subst same
    rw [Table.find_update_same] at found
    obtain ⟨row,there,rfl⟩ := Option.map_eq_some_iff.mp found
    exact here row there underway
  · rw [Table.find_update_other f same] at found
    rw [elsewhere id same]
    exact stand id other found underway

theorem ApprovalsStand.concluded (stand : ApprovalsStand s) (copy written : RemediationRequest)
    (updated : t.store.requests = s.store.requests.update requestId (·.flush copy written))
    (history : t.history = s.history) (concludes : written.status.underway = false) :
    ApprovalsStand t := by
  refine stand.written updated (fun id _ => by rw [history]) fun row found underway => ?_
  rw [history]
  rcases RemediationRequest.flush_status_or row copy written with moved | same
  · rw [moved, concludes] at underway
    exact absurd underway (by simp)
  · rw [same] at underway
    exact stand requestId row found underway

end Standing

theorem Step.standing (taken : runtime.Step s phase event t next) (holds : Holds s phase)
    (expected : ExpectedCommit s phase event) (stand : ApprovalsStand s) : ApprovalsStand t := by
  cases taken with
  | create made inserted => exact stand.inserted (newRequest_pending made) inserted rfl
  | createFromFinding made inserted =>
    exact stand.inserted (newRequestFromFinding_pending made) inserted rfl
  | @reviewed s kind requestId copy before written =>
    have found := holds.locked requestId before rfl
    have facts : Reviewed kind copy written := holds.remembers
    cases kind with
    | reject =>
      refine stand.concluded copy written rfl (by simp [reviewEntries]) ?_
      simp [facts.status,RemediationStatus.underway]
    | approve =>
      refine stand.written (f := (·.flush copy written)) rfl (fun id apart => ?_)
        fun row there _ => ?_
      · simp [reviewEntries,HistoryEntry.standing,Ne.symm apart]
      · obtain rfl := Option.some.inj (found.symm.trans there)
        simp [reviewEntries,HistoryEntry.standing]
  | @approved row s bypass requestId copy written rest found =>
    refine stand.written (f := (·.flush copy written)) rfl (fun id apart => ?_)
      fun before there _ => ?_
    · simp [HistoryEntry.standing,Ne.symm apart]
    · obtain rfl := Option.some.inj (found.symm.trans there)
      simp [HistoryEntry.standing]
  | @escalated s execution copy before written hours =>
    obtain ⟨startable,status,_⟩ := holds.remembers
    have moved : written.status ≠ copy.status := by
      rw [status]
      intro same
      simp [← same,FirstWrite.status,RemediationStatus.startable] at startable
    refine stand.written (f := (·.flush copy written)) rfl (fun id apart => ?_)
      fun row there underway => ?_
    · simp [HistoryEntry.standing,Ne.symm apart]
    · rw [RemediationRequest.flush_status moved, status] at underway
      simp [FirstWrite.status,RemediationStatus.underway] at underway
  | @scheduled jobs s execution copy before written hours jobId enqueued =>
    have found := holds.locked _ before rfl
    have startable : before.status.startable = true := expected rfl
    refine stand.written (f := (·.flush copy written)) rfl (fun id apart => ?_)
      fun row there _ => ?_
    · simp [HistoryEntry.standing]
    · obtain rfl := Option.some.inj (found.symm.trans there)
      simpa [HistoryEntry.standing] using
        stand _ before found (underway_of_startable startable)
  | @started s execution copy before written hours =>
    have found := holds.locked _ before rfl
    have startable : before.status.startable = true := expected rfl
    refine stand.written (f := (·.flush copy written)) rfl (fun id apart => rfl)
      fun row there _ => ?_
    obtain rfl := Option.some.inj (found.symm.trans there)
    exact stand _ before found (underway_of_startable startable)
  | blocked =>
    exact stand.concluded _ _ rfl rfl (by simp [holds.remembers.2.1,FirstWrite.status,
      RemediationStatus.underway])
  | @failed s execution copy before written =>
    have status : written.status = .failed := holds.remembers
    exact stand.concluded _ _ rfl rfl (by simp [status,RemediationStatus.underway])
  | @failedLate s execution copy written resolvedAt =>
    have status : written.status = .failed := holds.remembers
    exact stand.concluded copy written Remediation.resolveFinding_requests Remediation.resolveFinding_history
      (by simp [status,RemediationStatus.underway])
  | @finished s execution copy written =>
    have status : written.status = .completed ∨ written.status = .failed := holds.remembers
    refine stand.concluded copy written Remediation.resolveFinding_requests Remediation.resolveFinding_history ?_
    rcases status with completed | failed
    · simp [completed,RemediationStatus.underway]
    · simp [failed,RemediationStatus.underway]
  | @failedExpired s execution message restored =>
    refine stand.written (f := (·.flushExpired message restored)) rfl (fun id _ => rfl)
      fun row _ underway => ?_
    simp [RemediationStatus.underway] at underway
  | lock => exact stand.kept rfl fun id => by simp [HistoryEntry.standing]
  | invoke => exact stand.kept rfl fun id => by simp [HistoryEntry.standing]
  | _ => exact stand.kept rfl fun id => rfl

theorem Fingerprinted.updated {findings : Table Uuid OptimizationFinding} {findingId : Uuid}
    {at_ : Int} (fingerprinted : Fingerprinted findings) :
    Fingerprinted (findings.update findingId (·.resolve at_)) := by
  intro id finding found
  by_cases same : id = findingId
  · subst same
    rw [Table.find_update_same] at found
    obtain ⟨before,there,rfl⟩ := Option.map_eq_some_iff.mp found
    exact fingerprinted id before there
  · rw [Table.find_update_other _ same] at found
    exact fingerprinted id finding found

theorem Step.findings (taken : runtime.Step s phase event t next) :
    t.store.findings = s.store.findings ∨ Fingerprinted t.store.findings ∨
      ∃ findingId at_, t.store.findings = s.store.findings.update findingId (·.resolve at_) := by
  cases taken with
  | scan fingerprinted => exact Or.inr (Or.inl fingerprinted)
  | @finished s execution copy written =>
    cases bound : copy.target.findingId with
    | none => exact Or.inl rfl
    | some findingId =>
      cases resolved : written.completedAt with
      | none => exact Or.inl rfl
      | some at_ => exact Or.inr (Or.inr ⟨findingId,at_,rfl⟩)
  | @failedLate s execution copy written resolvedAt =>
    cases bound : copy.target.findingId with
    | none => exact Or.inl rfl
    | some findingId =>
      cases resolved : resolvedAt with
      | none => exact Or.inl rfl
      | some at_ => exact Or.inr (Or.inr ⟨findingId,at_,rfl⟩)
  | _ => exact Or.inl rfl

theorem Step.fingerprinted (taken : runtime.Step s phase event t next)
    (fingerprinted : Fingerprinted s.store.findings) : Fingerprinted t.store.findings := by
  rcases taken.findings with same | after | ⟨findingId,at_,updated⟩
  · rw [same]
    exact fingerprinted
  · exact after
  · rw [updated]
    exact Fingerprinted.updated fingerprinted

theorem newRequest_snapshotted {call : CreateCall} (made : runtime.newRequest call = .ok row) :
    row.target.Snapshotted := by
  obtain ⟨_,_,afterProvider⟩ := bind_eq_ok.mp made
  obtain ⟨_,_,afterConnection⟩ := bind_eq_ok.mp afterProvider
  obtain ⟨_,_,result⟩ := bind_eq_ok.mp afterConnection
  obtain rfl := Except.ok.inj result
  intro id bound
  simp at bound

theorem getOpenFinding_found {findings : Table Uuid OptimizationFinding}
    {finding : OptimizationFinding} (opened : getOpenFinding findings id = .ok finding) :
    findings.find id = some finding := by
  cases present : findings.find id with
  | none => simp [getOpenFinding,present] at opened
  | some there =>
    simp only [getOpenFinding,present] at opened
    obtain ⟨_,_,afterSource⟩ := bind_eq_ok.mp opened
    obtain ⟨_,_,result⟩ := bind_eq_ok.mp afterSource
    rw [Except.ok.inj result]

theorem newRequestFromFinding_snapshotted {store : RemediationStore} {call : CreateFromFindingCall}
    (fingerprinted : Fingerprinted store.findings)
    (made : runtime.newRequestFromFinding store call = .ok row) : row.target.Snapshotted := by
  obtain ⟨finding,opened,afterFinding⟩ := bind_eq_ok.mp made
  obtain ⟨_,_,afterProvider⟩ := bind_eq_ok.mp afterFinding
  obtain ⟨_,_,afterConnection⟩ := bind_eq_ok.mp afterProvider
  obtain ⟨_,_,result⟩ := bind_eq_ok.mp afterConnection
  obtain rfl := Except.ok.inj result
  intro id bound
  exact ⟨_,rfl,fingerprinted _ finding (getOpenFinding_found opened)⟩

theorem Created.snapshotted {store : RemediationStore} (fingerprinted : Fingerprinted store.findings)
    (created : Created runtime store row) : row.target.Snapshotted := by
  cases created with
  | create made => exact newRequest_snapshotted made
  | fromFinding made => exact newRequestFromFinding_snapshotted fingerprinted made

theorem Step.snapshotted (taken : runtime.Step s phase event t next)
    (fingerprinted : Fingerprinted s.store.findings)
    (snapshotted : ∀ id row, s.store.requests.find id = some row → row.target.Snapshotted) :
    ∀ id row, t.store.requests.find id = some row → row.target.Snapshotted := by
  intro id row found
  rcases taken.found found with kept | ⟨absent,created⟩ | ⟨_,f,before,writes,there,rfl⟩
  · exact snapshotted id row kept
  · exact created.snapshotted fingerprinted
  · intro findingId bound
    rw [RemediationPhase.writes_target writes] at bound ⊢
    exact snapshotted id before there findingId bound

theorem Step.concludes {f : RemediationRequest → RemediationRequest}
    (remembers : phase.Remembers) (runs : phase.runs = some id) (writes : phase.writes = some (id,f))
    (executing : row.status = .executing) : (f row).status.unstarted = false := by
  have either {copy written : RemediationRequest} (status : written.status = .completed ∨
      written.status = .failed) : (row.flush copy written).status.unstarted = false := by
    rcases RemediationRequest.flush_status_or row copy written with moved | same
    · rw [moved]
      rcases status with completed | failed
      · simp [completed,RemediationStatus.unstarted]
      · simp [failed,RemediationStatus.unstarted]
    · simp [same,executing,RemediationStatus.unstarted]
  cases phase with
  | finished execution copy written =>
    obtain ⟨rfl,rfl⟩ := Prod.mk.inj (Option.some.inj writes)
    exact either remembers
  | failingLate execution copy written resolvedAt =>
    obtain ⟨rfl,rfl⟩ := Prod.mk.inj (Option.some.inj writes)
    exact either (Or.inr remembers)
  | executing | invoked => simp [RemediationPhase.writes] at writes
  | _ => simp [RemediationPhase.runs] at runs

theorem Step.uncalled (taken : runtime.Step s phase event t next) (holds : Holds s phase)
    (expected : ExpectedCommit s phase event)
    (uncalled : ∀ id, (∀ row, s.store.requests.find id = some row → row.status.unstarted = true) →
      invocations id s.history = [])
    (unstarted : ∀ row, t.store.requests.find id = some row → row.status.unstarted = true) :
    invocations id t.history = [] := by
  have before : ∀ row, s.store.requests.find id = some row → row.status.unstarted = true := by
    intro row found
    rcases taken.find found with kept | ⟨commits,f,writes,written⟩
    · exact unstarted row kept
    · rcases written_row holds (expected commits) writes found with free | ⟨executing,runs⟩
      · exact free
      · have after := unstarted (f row) written
        rw [Step.concludes holds.remembers runs writes executing] at after
        exact absurd after (by simp)
  rcases taken.calls id with same | ⟨runs,_⟩
  · rw [same]
    exact uncalled id before
  · obtain ⟨row,found,executing⟩ := holds.running id runs
    have free := before row found
    simp [executing,RemediationStatus.unstarted] at free

theorem resolveExecutionRegion_placed {target : RequestTarget} {service credential hint : String}
    (placed : runtime.unplaced target.region = false) :
    runtime.resolveExecutionRegion target service credential hint = target.region := by
  have named : target.region ≠ "" := by
    intro empty
    have blank : PythonText.strip "" = "" := by decide
    simp [unplaced,empty,blank,Lowercase.lower_empty] at placed
  simp [resolveExecutionRegion,PythonText.orDefault,named,placed]

/-- What an execution that is about to call its strategy knows makes the call sound. -/
theorem sound_invocation {execution : Execution} {copy : RemediationRequest}
    {service credential hint : String}
    (holds : HoldsOnce runtime s (.executing execution copy)) (lawful : Lawful runtime s) :
    standing execution.requestId s.history = some copy.target ∧
      SoundInvocation runtime {
        target := copy.target
        executionRegion := runtime.resolveExecutionRegion copy.target service credential hint
        finding := copy.target.findingId.bind s.store.findings.find
        invokedAt := s.clock } := by
  obtain ⟨row,found,target⟩ := holds.copies _ List.mem_cons_self
  obtain ⟨before,there,executing⟩ := holds.running _ rfl
  obtain rfl := Option.some.inj (found.symm.trans there)
  refine ⟨?_,fun placed => resolveExecutionRegion_placed placed,fun id bound => ?_⟩
  · rw [← target]
    exact lawful.standing _ row found (by simp [executing,RemediationStatus.underway])
  · have bound : copy.target.findingId = some id := bound
    obtain ⟨_,valid⟩ := holds.bound copy.target rfl
    obtain ⟨finding,snapshot,there,snap,matching,status,print⟩ := validate_eq_ok bound valid
    have snapshotted : copy.target.Snapshotted := by
      rw [← target]
      exact lawful.snapshotted _ row found
    obtain ⟨other,snap',named,stripped⟩ := snapshotted id bound
    obtain rfl := Option.some.inj (snap.symm.trans snap')
    refine ⟨finding,snapshot,by simp [bound,there],snap,status,?_,matching⟩
    rcases print with blank | same
    · exact absurd (stripped.symm.trans blank) named
    · exact same.symm.trans stripped

theorem Step.lawful (taken : runtime.Step s phase event t next)
    (holds : HoldsOnce runtime s phase) (expected : ExpectedCommit s phase event)
    (lawful : Lawful runtime s) : Lawful runtime t := by
  refine ⟨taken.fingerprinted lawful.fingerprinted,
    taken.snapshotted lawful.fingerprinted lawful.snapshotted,
    taken.standing holds.toHolds expected lawful.standing,
    fun id unstarted => taken.uncalled holds.toHolds expected lawful.uncalled unstarted,?_⟩
  rcases taken.history with same | ⟨execution,copy,service,credential,hint,rfl,_,called⟩ |
    ⟨entry,added,other⟩
  · rw [same]
    exact lawful.law
  · rw [called]
    refine lawful.law.snoc fun id invocation same => ?_
    obtain ⟨rfl,rfl⟩ := HistoryEntry.invoked.inj same
    exact ⟨holds.unused execution copy rfl,sound_invocation holds lawful⟩
  · rw [added]
    exact lawful.law.snoc fun id invocation same => absurd same (other id invocation)

theorem Step.binds {target : RequestTarget} (taken : runtime.Step s phase event t next)
    (remembers : phase.Remembers) (binds : next.binds = some target) :
    t.store.findings = s.store.findings ∧ (phase.binds = some target ∨ ∃ finding,
      runtime.validateRequestFindingBinding s.store.findings target = .ok finding) := by
  cases taken with
  | @check copy env written write _ execution row checked =>
    have facts := checkExecution_eq_write checked
    cases write with
    | execute =>
      obtain rfl := Option.some.inj binds
      exact ⟨rfl,Or.inr facts.bound⟩
    | _ => simp [RemediationPhase.binds] at binds
  | started =>
    obtain rfl := Option.some.inj binds
    exact ⟨rfl,Or.inl (congrArg some remembers.2.2.symm)⟩
  | deferred | invalidProvider | scheduled | refresh => simp at binds
  | _ => simp [RemediationPhase.binds] at binds

theorem Step.executed {execution : Execution} {copy : RemediationRequest}
    (taken : runtime.Step s phase event t next) (executing : next = .executing execution copy) :
    event = .commit ∧ t.history = s.history ∧ ∃ before row written hours,
      phase = .writing execution before row written .execute hours := by
  cases taken with
  | started =>
    obtain ⟨rfl,rfl⟩ := RemediationPhase.executing.inj executing
    exact ⟨rfl,rfl,_,_,_,_,rfl⟩
  | deferred | scheduled | refresh =>
    have runs := congrArg RemediationPhase.runs executing
    rw [Caller.returned_runs] at runs
    simp [RemediationPhase.runs] at runs
  | invalidProvider =>
    have runs := congrArg RemediationPhase.runs executing
    rw [Caller.raised_runs] at runs
    simp [RemediationPhase.runs] at runs
  | _ => simp at executing

theorem Step.ownOnce (taken : runtime.Step s phase event t next)
    (holds : HoldsOnce runtime s phase) (expected : ExpectedCommit s phase event)
    (lawful : Lawful runtime s) : HoldsOnce runtime t next := by
  refine ⟨taken.own holds.toHolds expected,fun entry member => ?_,fun target binds => ?_,
    fun execution copy executing => ?_⟩
  · exact taken.knows (taken.copies holds.remembers holds.copies entry member)
  · obtain ⟨same,before | valid⟩ := taken.binds holds.remembers binds
    · rw [same]
      exact holds.bound target before
    · rw [same]
      exact valid
  · obtain ⟨commits,history,before,row,written,hours,rfl⟩ := taken.executed executing
    rw [history]
    have found := holds.locked _ row rfl
    refine lawful.uncalled _ fun other there => ?_
    obtain rfl := Option.some.inj (found.symm.trans there)
    exact RemediationStatus.unstarted_of_startable (expected commits)

theorem Step.undisturbedOnce (taken : runtime.Step s phase event t next)
    (holds : HoldsOnce runtime s phase) (expected : ExpectedCommit s phase event)
    (others : HoldsOnce runtime s other) (apart : Apart phase other)
    (permitted : ∀ id ∈ other.held,
      id ∉ next.held ∧ t.store.requests.find id = s.store.requests.find id)
    (keeps : other.KeepsFinding s t next) : HoldsOnce runtime t other := by
  refine ⟨taken.undisturbed holds.toHolds expected others.toHolds apart permitted,
    fun entry member => taken.knows (others.copies entry member),fun target binds => ?_,
    fun execution copy executing => ?_⟩
  · rw [validate_congr fun id bound => keeps target id binds bound]
    exact others.bound target binds
  · subst executing
    rcases taken.calls execution.requestId with same | ⟨runs,_⟩
    · rw [same]
      exact others.unused execution copy rfl
    · exact absurd rfl (apart.runs _ runs)

theorem undrifted_discipline (runtime : RemediationRuntime) :
    Interleaving.Discipline runtime.undriftedProtocol (Lawful runtime) (HoldsOnce runtime) Apart where
  symmetric _ _ apart := apart.symm
  own _ _ _ _ _ lawful holds taken :=
    ⟨taken.1.1.lawful holds taken.2 lawful,taken.1.1.ownOnce holds taken.2 lawful⟩
  exclusive _ _ _ _ _ _ _ holds others apart taken permitted :=
    taken.1.1.apart holds.toHolds taken.2 others.toHolds apart permitted.1
  undisturbed _ _ _ _ _ _ _ holds others apart taken permitted :=
    taken.1.1.undisturbedOnce holds taken.2 others apart permitted.1 permitted.2

end RemediationRuntime

section Runs

open RemediationPhase (HoldsOnce Apart)

variable {runtime : RemediationRuntime} {start final : RemediationSystem ι}

theorem Opening.lawful (opening : Opening start) :
    Interleaving.Good (Lawful runtime) (HoldsOnce runtime) Apart start := by
  have good := opening.good
  refine ⟨⟨opening.fingerprinted,?_,?_,?_,?_⟩,fun party => ?_,good.compatible⟩
  · intro id row found
    simp [opening.requests] at found
  · intro id row found
    simp [opening.requests] at found
  · intro id _
    simp [opening.history,invocations]
  · refine ⟨fun id => ?_,fun past id invocation later split => ?_⟩
    · simp [opening.history,invocations]
    · simp [opening.history] at split
  · refine ⟨good.holds party,fun entry member => ?_,fun target binds => ?_,
      fun execution copy executing => ?_⟩
    · simp [opening.idle party,RemediationPhase.copies] at member
    · simp [opening.idle party,RemediationPhase.binds] at binds
    · simp [opening.idle party] at executing

end Runs

/-- In every run whose commits find their rows as the calls expect and in which no other
session writes a finding between its check and its action, the action of a request is
called at most once, under an approval that no escalation followed, for the target that
was approved, with the finding open and unchanged. -/
theorem invoked_once_approved (runtime : RemediationRuntime) [DecidableEq ι]
    {start final : RemediationSystem ι} {events : List (ι × RemediationEvent)}
    (opening : Opening start) (run : Trace runtime.UndriftedSteps start events final) :
    InvocationLaw runtime final.shared.history :=
  ((RemediationRuntime.undrifted_discipline runtime).run run opening.lawful).invariant.law

namespace Sample

open Interleaving (pair)

def machine : CreateCall where
  requestId := 1
  userId := 7
  resourceId := "i-1"
  resourceType := "ec2_instance"
  action := .stopInstance
  estimatedSavings := 900
  provider := "aws"
  confidenceScore := some 95
  connectionId := some 5

def machineTarget : RequestTarget where
  provider := "aws"
  connectionId := some 5
  region := "us-east-1"
  resourceId := "i-1"
  resourceType := "ec2_instance"
  action := .stopInstance

def machineRequest : RemediationRequest where
  target := machineTarget
  estimatedMonthlySavings := some 900
  confidenceScore := some 95
  requestedByUserId := 7

theorem machine_created : runtime.newRequest machine = .ok machineRequest := by
  simp [RemediationRuntime.newRequest,machine,normalizeProvider_aws,raiseIf,machineRequest,
    machineTarget,sanitizeActionParameters,bind,Except.bind,pure,Except.pure]

theorem normalizeProvider_machine : runtime.normalizeProvider machineTarget.provider ≠ "" := by
  simp [machineTarget,normalizeProvider_aws]

variable {s t : Remediation} {first second next : RemediationPhase} {event : RemediationEvent}

theorem step_undrifted (taken : runtime.Step s first event t next) (indexed : t.store.Indexed)
    (expected : RemediationRuntime.ExpectedCommit s first event) (unlocked : second.held = [])
    (unbound : second.binds = none) :
    runtime.UndriftedSteps (pair s first second) (false,event) (pair t next second) := by
  refine Interleaving.Step.first ⟨⟨taken,indexed⟩,expected⟩ ⟨fun id held => ?_,?_⟩
  · simp [unlocked] at held
  · intro target id binds
    simp [unbound] at binds

theorem step_second (taken : runtime.Step s second event t next) (indexed : t.store.Indexed)
    (unlocked : first.held = []) :
    runtime.RemediationSteps (pair s first second) (true,event) (pair t first next) := by
  refine Interleaving.Step.second ⟨taken,indexed⟩ fun id held => ?_
  simp [unlocked] at held

def reviewed : RemediationRequest :=
  machineRequest.flush machineRequest
    { machineRequest with status := .approved, reviewedByUserId := some 8 }

def allowing : ExecuteEnvironment where
  evaluation := ⟨.allow,""⟩
  now := 0
  later := 0

def started : RemediationRequest :=
  reviewed.flush reviewed (reviewed.applySystemPolicyContext []).execute

def stop : Invocation where
  target := machineTarget
  executionRegion := "us-east-1"
  finding := none
  invokedAt := 0

def stopping : List (Bool × RemediationEvent) :=
  [(false,.load 1),(false,.review .approve { reviewerId := 8 }),(false,.commit),(false,.load 1),
    (false,.execute true),(false,.lock),(false,.check allowing),(false,.commit),
    (false,.invoke "" "" "")]

def stopped : List HistoryEntry := [.approved 1 machineTarget,.called 1 0,.invoked 1 stop]

theorem machine_bound (findings : Table Uuid OptimizationFinding) :
    runtime.validateRequestFindingBinding findings machineTarget = .ok none := rfl

def approvedTables : Remediation := holding reviewed .empty [.approved 1 machineTarget] 0

def calledTables : Remediation :=
  holding reviewed .empty [.approved 1 machineTarget,.called 1 0] 0

def startedCopy : RemediationRequest := (reviewed.applySystemPolicyContext []).execute

theorem review_step : runtime.Step (holding machineRequest .empty [] 0) (.loaded 1 machineRequest)
    (.review .approve { reviewerId := 8 }) (holding machineRequest .empty [] 0)
    (.reviewing .approve 1 machineRequest machineRequest
      { machineRequest with status := .approved, reviewedByUserId := some 8 }) :=
  .review rfl rfl

theorem reviewed_step : runtime.Step (holding machineRequest .empty [] 0)
    (.reviewing .approve 1 machineRequest machineRequest
      { machineRequest with status := .approved, reviewedByUserId := some 8 }) .commit
    approvedTables .idle :=
  .reviewed

theorem lock_step : runtime.Step approvedTables (.opened ⟨.service,1,true⟩ reviewed) .lock
    calledTables (.checking ⟨.service,1,true⟩ reviewed reviewed) :=
  .lock rfl normalizeProvider_machine

theorem check_step : runtime.Step calledTables (.checking ⟨.service,1,true⟩ reviewed reviewed)
    (.check allowing) calledTables
    (.writing ⟨.service,1,true⟩ reviewed reviewed startedCopy .execute 24) :=
  .check (RemediationRuntime.checkExecution_allows (machine_bound _) rfl rfl rfl)

theorem started_step : runtime.Step calledTables
    (.writing ⟨.service,1,true⟩ reviewed reviewed startedCopy .execute 24) .commit
    (holding started .empty [.approved 1 machineTarget,.called 1 0] 0)
    (.executing ⟨.service,1,true⟩ startedCopy) :=
  .started

theorem invoke_step : runtime.Step
    (holding started .empty [.approved 1 machineTarget,.called 1 0] 0)
    (.executing ⟨.service,1,true⟩ startedCopy) (.invoke "" "" "")
    (holding started .empty stopped 0) (.invoked ⟨.service,1,true⟩ startedCopy) :=
  .invoke

theorem stopping_run (unlocked : second.held = []) (unbound : second.binds = none) :
    Trace runtime.UndriftedSteps (pair (holding machineRequest .empty [] 0) .idle second) stopping
      (pair (holding started .empty stopped 0) (.invoked ⟨.service,1,true⟩ startedCopy) second) := by
  have calm {s : Remediation} {phase : RemediationPhase} {event : RemediationEvent}
      (other : event ≠ .commit) : RemediationRuntime.ExpectedCommit s phase event :=
    fun commits => absurd commits other
  refine .go (step_undrifted (.load rfl) holding_indexed (calm (by simp)) unlocked unbound) ?_
  refine .go (step_undrifted review_step holding_indexed (calm (by simp)) unlocked unbound) ?_
  refine .go (step_undrifted reviewed_step holding_indexed (fun _ => rfl) unlocked unbound) ?_
  refine .go (step_undrifted (.load rfl) holding_indexed (calm (by simp)) unlocked unbound) ?_
  refine .go (step_undrifted .execute holding_indexed (calm (by simp)) unlocked unbound) ?_
  refine .go (step_undrifted lock_step holding_indexed (calm (by simp)) unlocked unbound) ?_
  refine .go (step_undrifted check_step holding_indexed (calm (by simp)) unlocked unbound) ?_
  refine .go (step_undrifted started_step holding_indexed (fun _ => rfl) unlocked unbound) ?_
  exact .go (step_undrifted invoke_step holding_indexed (calm (by simp)) unlocked unbound) .stop

/-- The hard-limit loop listed the request while it was PENDING. -/
def listed : RemediationPhase := .sweeping true [(1,machineRequest)]

theorem listed_step : runtime.Step (holding machineRequest .empty [] 0) .idle
    (.enforceHardLimit true) (holding machineRequest .empty [] 0) listed := by
  have lists : hardLimitRequests (table machineRequest) = [(1,machineRequest)] := by
    simp [hardLimitRequests,table,machineRequest,machineTarget,hardLimitActions]
  rw [listed, ← lists]
  exact .enforceHardLimit

def approvedAgain : RemediationRequest :=
  started.flush machineRequest machineRequest.hardLimitApproved

def startedAgain : RemediationRequest :=
  (machineRequest.hardLimitApproved.applySystemPolicyContext []).execute

def again : Execution := ⟨.sweep true [],1,true⟩

def againTables (row : RemediationRequest) (calls : List HistoryEntry) : Remediation :=
  holding row .empty (stopped ++ calls) 0

theorem approve_again : runtime.Step (againTables started []) listed .approve
    (againTables started []) (.approving true 1 machineRequest machineRequest.hardLimitApproved []) :=
  .approve rfl

theorem approved_again : runtime.Step (againTables started [])
    (.approving true 1 machineRequest machineRequest.hardLimitApproved []) .commit
    (againTables approvedAgain [.approved 1 machineTarget])
    (.opened again machineRequest.hardLimitApproved) :=
  .approved holding_find

theorem lock_again : runtime.Step (againTables approvedAgain [.approved 1 machineTarget])
    (.opened again machineRequest.hardLimitApproved) .lock
    (againTables approvedAgain [.approved 1 machineTarget,.called 1 0])
    (.checking again machineRequest.hardLimitApproved approvedAgain) :=
  .lock rfl normalizeProvider_machine

theorem check_again : runtime.Step (againTables approvedAgain [.approved 1 machineTarget,.called 1 0])
    (.checking again machineRequest.hardLimitApproved approvedAgain) (.check allowing)
    (againTables approvedAgain [.approved 1 machineTarget,.called 1 0])
    (.writing again machineRequest.hardLimitApproved approvedAgain startedAgain .execute 24) :=
  .check (RemediationRuntime.checkExecution_allows (machine_bound _) rfl rfl rfl)

theorem started_again : runtime.Step
    (againTables approvedAgain [.approved 1 machineTarget,.called 1 0])
    (.writing again machineRequest.hardLimitApproved approvedAgain startedAgain .execute 24) .commit
    (againTables (approvedAgain.flush machineRequest.hardLimitApproved startedAgain)
      [.approved 1 machineTarget,.called 1 0])
    (.executing again startedAgain) :=
  .started

theorem invoke_again (row : RemediationRequest) : runtime.Step
    (againTables row [.approved 1 machineTarget,.called 1 0])
    (.executing again startedAgain) (.invoke "" "" "")
    (againTables row [.approved 1 machineTarget,.called 1 0,.invoked 1 stop])
    (.invoked again startedAgain) :=
  .invoke

def stoppingAgain : List (Bool × RemediationEvent) :=
  [(true,.approve),(true,.commit),(true,.lock),(true,.check allowing),(true,.commit),
    (true,.invoke "" "" "")]

theorem stoppingAgain_run {first : RemediationPhase} (unlocked : first.held = []) :
    Trace runtime.RemediationSteps (pair (againTables started []) first listed) stoppingAgain
      (pair (againTables (approvedAgain.flush machineRequest.hardLimitApproved startedAgain)
        [.approved 1 machineTarget,.called 1 0,.invoked 1 stop]) first
        (.invoked again startedAgain)) := by
  refine .go (step_second approve_again holding_indexed unlocked) ?_
  refine .go (step_second approved_again holding_indexed unlocked) ?_
  refine .go (step_second lock_again holding_indexed unlocked) ?_
  refine .go (step_second check_again holding_indexed unlocked) ?_
  refine .go (step_second started_again holding_indexed unlocked) ?_
  exact .go (step_second (invoke_again _) holding_indexed unlocked) .stop

theorem machine_step : runtime.Step Sample.opening .idle (.create machine)
    (holding machineRequest .empty [] 0) .idle :=
  .create machine_created rfl

end Sample

/-- An approved request whose action is called once. -/
theorem invoked_once_approved_stop : ∃ final : RemediationSystem Bool,
    invocations 1 final.shared.history = [Sample.stop] ∧
      InvocationLaw Sample.runtime final.shared.history := by
  refine ⟨_,?_,invoked_once_approved Sample.runtime Sample.opening_starts (.go
    (Sample.step_undrifted Sample.machine_step Sample.holding_indexed (by simp [
      RemediationRuntime.ExpectedCommit]) rfl rfl) (Sample.stopping_run rfl rfl))⟩
  rfl

/-- A hard-limit loop approves and executes a request that another call already executes. -/
theorem hard_limit_invokes_again : ∃ (start final : RemediationSystem Bool)
    (events : List (Bool × RemediationEvent)),
    Opening start ∧ Trace Sample.runtime.RemediationSteps start events final ∧
      invocations 1 final.shared.history = [Sample.stop,Sample.stop] ∧
      ¬InvocationLaw Sample.runtime final.shared.history := by
  have created : Sample.runtime.RemediationSteps (Interleaving.pair Sample.opening .idle .idle)
      (false,.create Sample.machine)
      (Interleaving.pair (Sample.holding Sample.machineRequest .empty [] 0) .idle .idle) :=
    (Sample.step_undrifted Sample.machine_step Sample.holding_indexed (by simp [
      RemediationRuntime.ExpectedCommit]) rfl rfl).unrestricted
  have listed : Sample.runtime.RemediationSteps
      (Interleaving.pair (Sample.holding Sample.machineRequest .empty [] 0) .idle .idle)
      (true,.enforceHardLimit true)
      (Interleaving.pair (Sample.holding Sample.machineRequest .empty [] 0) .idle Sample.listed) :=
    Sample.step_second Sample.listed_step Sample.holding_indexed rfl
  have first : Trace Sample.runtime.RemediationSteps
      (Interleaving.pair (Sample.holding Sample.machineRequest .empty [] 0) .idle Sample.listed)
      Sample.stopping _ :=
    (Sample.stopping_run rfl rfl).mono fun taken => taken.unrestricted
  refine ⟨_,_,_,Sample.opening_starts,
    .go created (.go listed (first.trans (Sample.stoppingAgain_run rfl))),rfl,fun law => ?_⟩
  have once := law.once 1
  simp [invocations,Interleaving.pair,Sample.againTables,Sample.holding,Sample.stopped] at once

end Valdrics.Optimization

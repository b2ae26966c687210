import Valdrics.RemediationPolicy

/-! The approval behind a GPU-sensitive execution. The override is a marker in the review
notes: an escalated approval writes it after its role check, and an ordinary review writes
whatever text its reviewer supplies. -/
namespace Valdrics.Optimization

open Enforcement (Uuid bind_eq_ok flushed_or)
open PythonText

inductive GpuEntry where
  | escalated (requestId : Uuid)
  | approving (requestId : Uuid) (call : ReviewCall)
  | acted (requestId : Uuid) (sensitive : Bool)

/-- The columns that an escalated approval and the policy communicate through. -/
def RemediationRequest.override (request : RemediationRequest) : Bool × Option String :=
  (request.escalationRequired,request.reviewNotes)

namespace RemediationRuntime

variable (runtime : RemediationRuntime) (engine : RemediationPolicyEngine)

def MayEscalate (call : ReviewCall) : Prop :=
  runtime.text.lower (strip (call.reviewerRole.getD "")) = "owner" ∨
    runtime.text.lower (strip (call.reviewerRole.getD "")) = runtime.requiredRole call.escalationRole

def Granted (requestId : Uuid) (log : List GpuEntry) : Prop :=
  ∃ call, runtime.MayEscalate call ∧ [.escalated requestId,.approving requestId call].Sublist log

def GpuLaw (log : List GpuEntry) : Prop :=
  EachEntry (fun past entry => ∀ id, entry = .acted id true → runtime.Granted id past) log

def gpuEntries (s : Remediation) (phase : RemediationPhase) (event : RemediationEvent) :
    List GpuEntry :=
  match phase, event with
  | .checking execution copy _, .check env =>
    match runtime.checkExecution s.store.findings execution.bypassGracePeriod copy env with
    | .ok (.write _ .escalate) => [.escalated execution.requestId]
    | _ => []
  | .loaded requestId _, .review .approve call => [.approving requestId call]
  | .executing execution copy, .invoke _ _ _ =>
    [.acted execution.requestId (engine.isGpuSensitive copy)]
  | _, _ => []

end RemediationRuntime

def PolicyAnswers (engine : RemediationPolicyEngine) (phase : RemediationPhase)
    (event : RemediationEvent) : Prop :=
  ∀ execution copy row env, phase = .checking execution copy row → event = .check env →
    ∃ config : PolicyConfig, config.enabled = true ∧ config.requireGpuOverride = true ∧
      env.evaluation = engine.evaluate (copy.applySystemPolicyContext env.systemContext) config

def UnmarkedReview (engine : RemediationPolicyEngine) (phase : RemediationPhase)
    (event : RemediationEvent) : Prop :=
  ∀ requestId copy kind call, phase = .loaded requestId copy → event = .review kind call →
    engine.isGpuSensitive copy = true → kind = .reject ∨ copy.escalationRequired = false →
    engine.hasGpuOverride call.notes = false

namespace RemediationRuntime

variable (runtime : RemediationRuntime) (engine : RemediationPolicyEngine)

def gpuProtocol : Protocol (Remediation × List GpuEntry) RemediationPhase RemediationEvent :=
  (runtime.remediationProtocol.record (runtime.gpuEntries engine)).restrict
    (fun _ => PolicyAnswers engine) fun _ _ _ _ => True

def unmarkedProtocol : Protocol (Remediation × List GpuEntry) RemediationPhase RemediationEvent :=
  (runtime.gpuProtocol engine).restrict (fun _ => UnmarkedReview engine) fun _ _ _ _ => True

abbrev GpuSystem (ι : Type) :=
  Interleaving.System ι (Remediation × List GpuEntry) RemediationPhase

def GpuSteps [DecidableEq ι] (system : GpuSystem ι) (event : ι × RemediationEvent)
    (next : GpuSystem ι) : Prop :=
  Interleaving.Step (runtime.gpuProtocol engine) system event next

def UnmarkedSteps [DecidableEq ι] (system : GpuSystem ι) (event : ι × RemediationEvent)
    (next : GpuSystem ι) : Prop :=
  Interleaving.Step (runtime.unmarkedProtocol engine) system event next

end RemediationRuntime

/-- No request yet, nobody at work, nothing recorded. -/
structure GpuOpening (system : RemediationRuntime.GpuSystem ι) : Prop where
  requests : system.shared.1.store.requests = .empty
  log : system.shared.2 = []
  idle : ∀ party, system.phase party = .idle

/-- What the audit says of a request: its escalation flag and its marker have a source. -/
structure Backed (runtime : RemediationRuntime) (engine : RemediationPolicyEngine)
    (log : List GpuEntry) (requestId : Uuid) (request : RemediationRequest) : Prop where
  escalated : request.escalationRequired = true → GpuEntry.escalated requestId ∈ log
  granted : engine.isGpuSensitive request = true →
    engine.hasGpuOverride request.reviewNotes = true → runtime.Granted requestId log

namespace RemediationRuntime

variable {runtime : RemediationRuntime} {engine : RemediationPolicyEngine} {id : Uuid}
  {log entries : List GpuEntry}

theorem Granted.mono (granted : runtime.Granted id log) : runtime.Granted id (log ++ entries) := by
  obtain ⟨call,may,sublist⟩ := granted
  exact ⟨call,may,sublist.trans (List.sublist_append_left log entries)⟩

theorem Granted.of_escalated {call : ReviewCall} (escalated : GpuEntry.escalated id ∈ log)
    (may : runtime.MayEscalate call) : runtime.Granted id (log ++ [.approving id call]) := by
  refine ⟨call,may,?_⟩
  have first : [GpuEntry.escalated id].Sublist log := List.singleton_sublist.mpr escalated
  exact first.append (List.Sublist.refl [GpuEntry.approving id call])

end RemediationRuntime

namespace Backed

variable {runtime : RemediationRuntime} {engine : RemediationPolicyEngine} {id : Uuid}
  {log entries : List GpuEntry} {request other : RemediationRequest}

theorem mono (backed : Backed runtime engine log id request) :
    Backed runtime engine (log ++ entries) id request where
  escalated required := List.mem_append_left entries (backed.escalated required)
  granted sensitive marked := (backed.granted sensitive marked).mono

theorem congr (backed : Backed runtime engine log id request) (fixed : other.fixed = request.fixed)
    (override : other.override = request.override) : Backed runtime engine log id other := by
  obtain ⟨required,notes⟩ := Prod.mk.inj override
  refine ⟨fun escalated => backed.escalated (required ▸ escalated),fun sensitive marked => ?_⟩
  rw [RemediationPolicyEngine.isGpuSensitive_congr fixed] at sensitive
  rw [notes] at marked
  exact backed.granted sensitive marked

theorem flush {row copy written : RemediationRequest} (row_ : Backed runtime engine log id row)
    (draft : Backed runtime engine log id written) (fixed : written.fixed = row.fixed) :
    Backed runtime engine log id (row.flush copy written) := by
  have sensitive : engine.isGpuSensitive (row.flush copy written) = engine.isGpuSensitive row :=
    RemediationPolicyEngine.isGpuSensitive_congr rfl
  constructor
  · intro required
    rcases flushed_or copy.escalationRequired written.escalationRequired row.escalationRequired
      with kept | moved
    · exact row_.escalated (kept.symm.trans required)
    · exact draft.escalated (moved.symm.trans required)
  · intro gpu marked
    rw [sensitive] at gpu
    rcases flushed_or copy.reviewNotes written.reviewNotes row.reviewNotes with kept | moved
    · exact row_.granted gpu (by simpa [RemediationRequest.flush,kept] using marked)
    · rw [← RemediationPolicyEngine.isGpuSensitive_congr fixed] at gpu
      exact draft.granted gpu (by simpa [RemediationRequest.flush,moved] using marked)

end Backed

namespace RemediationRequest

variable {request : RemediationRequest}

@[simp] theorem failWith_override {message : String} :
    (request.failWith message).override = request.override := rfl

@[simp] theorem flushExpired_override {message : String} {restored : Option (Option Int)} :
    (request.flushExpired message restored).override = request.override := rfl

@[simp] theorem applyExecutionResult_override {result : ExecutionResult} {now : Int} :
    (request.applyExecutionResult result now).override = request.override := by
  cases outcome : result.status with
  | success => simp [applyExecutionResult,outcome,override]
  | skipped => simp [applyExecutionResult,outcome,override]
  | failed => simp [applyExecutionResult,outcome,override]

end RemediationRequest

namespace RemediationPolicyEngine

variable (engine : RemediationPolicyEngine)

/-- A text of the program's own carries no marker when its letters say so. -/
theorem hasGpuOverride_ascii {notes : String} (ascii : IsAscii notes)
    (unmarked : gpuOverrideMarkers.any (fun marker => holds (lowerAscii notes) marker) = false) :
    engine.hasGpuOverride (some notes) = false := by
  simpa [hasGpuOverride,engine.text.ascii _ ascii] using unmarked

theorem hasGpuOverride_none : engine.hasGpuOverride none = false := by
  have ascii : IsAscii "" := by decide
  have unmarked : gpuOverrideMarkers.any (fun marker => holds (lowerAscii "") marker) = false := by
    decide
  simpa [hasGpuOverride] using engine.hasGpuOverride_ascii ascii unmarked

end RemediationPolicyEngine

namespace RemediationPhase

def draft : RemediationPhase → Option (Uuid × RemediationRequest)
  | .reviewing _ requestId _ _ written | .approving _ requestId _ written _ =>
    some (requestId,written)
  | .writing execution _ _ written _ _ | .failing execution _ _ written
  | .finished execution _ written | .failingLate execution _ written _ =>
    some (execution.requestId,written)
  | _ => none

def actsNext : RemediationPhase → Option RemediationRequest
  | .writing _ _ _ written .execute _ => some written
  | .executing _ copy => some copy
  | _ => none

theorem writes_draft {phase : RemediationPhase} {id : Uuid}
    {f : RemediationRequest → RemediationRequest} (writes : phase.writes = some (id,f)) :
    (∃ copy written, f = (·.flush copy written) ∧ phase.draft = some (id,written) ∧
      phase.rewrites = some (copy,written) ∧ (id,copy) ∈ phase.copies) ∨
    (∃ message restored, f = (·.flushExpired message restored)) := by
  cases phase with
  | idle | loaded | fetched | handling | opened | checking | executing | invoked | returning
  | reporting | sweeping => simp [RemediationPhase.writes] at writes
  | failingExpired =>
    obtain ⟨rfl,rfl⟩ := Prod.mk.inj (Option.some.inj writes)
    exact Or.inr ⟨_,_,rfl⟩
  | _ =>
    obtain ⟨rfl,rfl⟩ := Prod.mk.inj (Option.some.inj writes)
    exact Or.inl ⟨_,_,rfl,rfl,rfl,List.mem_cons_self⟩

theorem continues_draft {phase : RemediationPhase} {id : Uuid} {copy written : RemediationRequest}
    (continues : phase.continues = some (id,copy,written)) : phase.draft = some (id,written) := by
  cases phase with
  | approving =>
    obtain ⟨rfl,rfl,rfl⟩ := by simpa [RemediationPhase.continues] using continues
    rfl
  | writing execution loaded row made write hours =>
    cases write with
    | execute =>
      obtain ⟨rfl,rfl,rfl⟩ := by simpa [RemediationPhase.continues] using continues
      rfl
    | _ => simp [RemediationPhase.continues] at continues
  | _ => simp [RemediationPhase.continues] at continues

end RemediationPhase

structure Backs (runtime : RemediationRuntime) (engine : RemediationPolicyEngine)
    (s : Remediation × List GpuEntry) (phase : RemediationPhase) : Prop where
  keeps : phase.KeepsFixed
  known : ∀ entry ∈ phase.copies, s.1.KnowsFixed entry
  copies : ∀ entry ∈ phase.copies, Backed runtime engine s.2 entry.1 entry.2
  draft : ∀ entry, phase.draft = some entry → Backed runtime engine s.2 entry.1 entry.2
  marked : ∀ request, phase.actsNext = some request → engine.isGpuSensitive request = true →
    engine.hasGpuOverride request.reviewNotes = true

structure Audited (runtime : RemediationRuntime) (engine : RemediationPolicyEngine)
    (s : Remediation × List GpuEntry) : Prop where
  rows : ∀ id row, s.1.store.requests.find id = some row → Backed runtime engine s.2 id row
  law : runtime.GpuLaw s.2

namespace RemediationRuntime

variable {runtime : RemediationRuntime} {engine : RemediationPolicyEngine} {s t : Remediation}
  {phase next : RemediationPhase} {event : RemediationEvent} {log : List GpuEntry}

@[simp] theorem returned_draft {caller : Caller} {status : RemediationStatus} :
    (caller.returned status).draft = none := by
  cases caller <;> rfl

@[simp] theorem raised_draft {caller : Caller} {message : String} :
    (caller.raised message).draft = none := by
  cases caller <;> rfl

@[simp] theorem returned_actsNext {caller : Caller} {status : RemediationStatus} :
    (caller.returned status).actsNext = none := by
  cases caller <;> rfl

@[simp] theorem raised_actsNext {caller : Caller} {message : String} :
    (caller.raised message).actsNext = none := by
  cases caller <;> rfl

theorem Created.override {store : RemediationStore} {row : RemediationRequest}
    (created : Created runtime store row) : row.override = (false,none) := by
  cases created with
  | create made =>
    obtain ⟨_,_,afterProvider⟩ := bind_eq_ok.mp made
    obtain ⟨_,_,afterConnection⟩ := bind_eq_ok.mp afterProvider
    obtain ⟨_,_,result⟩ := bind_eq_ok.mp afterConnection
    obtain rfl := Except.ok.inj result
    rfl
  | fromFinding made =>
    obtain ⟨_,_,afterFinding⟩ := bind_eq_ok.mp made
    obtain ⟨_,_,afterProvider⟩ := bind_eq_ok.mp afterFinding
    obtain ⟨_,_,afterConnection⟩ := bind_eq_ok.mp afterProvider
    obtain ⟨_,_,result⟩ := bind_eq_ok.mp afterConnection
    obtain rfl := Except.ok.inj result
    rfl

theorem backed_unreviewed {id : Uuid} {row : RemediationRequest}
    (override : row.override = (false,none)) : Backed runtime engine log id row := by
  obtain ⟨required,notes⟩ := Prod.mk.inj override
  constructor
  · intro escalated
    simp [required] at escalated
  · intro _ marked
    rw [notes, engine.hasGpuOverride_none] at marked
    contradiction

theorem review_backed {kind : ReviewKind} {copy written : RemediationRequest} {call : ReviewCall}
    {id : Uuid} (reviewed : runtime.review kind copy call = .ok written)
    (copy_ : Backed runtime engine log id copy)
    (unmarked : engine.isGpuSensitive copy = true →
      kind = .reject ∨ copy.escalationRequired = false → engine.hasGpuOverride call.notes = false) :
    Backed runtime engine
      (log ++ runtime.gpuEntries engine s (.loaded id copy) (.review kind call)) id written := by
  have sensitive : engine.isGpuSensitive written = engine.isGpuSensitive copy :=
    RemediationPolicyEngine.isGpuSensitive_congr (review_keeps reviewed).1
  cases kind with
  | reject =>
    obtain ⟨_,_,result⟩ := bind_eq_ok.mp reviewed
    obtain rfl := Except.ok.inj result
    constructor
    · intro required
      simp at required
    · intro gpu marked
      rw [sensitive] at gpu
      rw [unmarked gpu (Or.inl rfl)] at marked
      contradiction
  | approve =>
    obtain ⟨_,_,afterCheck⟩ := bind_eq_ok.mp reviewed
    obtain ⟨_,role,result⟩ := bind_eq_ok.mp afterCheck
    obtain rfl := Except.ok.inj result
    constructor
    · intro required
      simp at required
    · intro gpu marked
      rw [sensitive] at gpu
      cases escalated : copy.escalationRequired with
      | true =>
        have may : runtime.MayEscalate call := by
          have refused := raiseIf_eq_ok.mp role
          by_contra other
          obtain ⟨owner,required⟩ := not_or.mp other
          exact refused ⟨escalated,owner,required⟩
        exact Granted.of_escalated (copy_.escalated escalated) may
      | false =>
        simp only [escalated,Bool.false_eq_true,if_false] at marked
        rw [unmarked gpu (Or.inr escalated)] at marked
        contradiction

theorem check_backed {execution : Execution} {copy row written : RemediationRequest}
    {env : ExecuteEnvironment} {write : FirstWrite}
    (checked : runtime.checkExecution s.store.findings execution.bypassGracePeriod copy env =
      .ok (.write written write))
    (copy_ : Backed runtime engine log execution.requestId copy) :
    Backed runtime engine
      (log ++ runtime.gpuEntries engine s (.checking execution copy row) (.check env))
      execution.requestId written := by
  have kept : Backed runtime engine
      (log ++ runtime.gpuEntries engine s (.checking execution copy row) (.check env))
      execution.requestId copy := copy_.mono
  cases (checkExecution_writes checked).2 with
  | block => exact kept.congr rfl rfl
  | schedule => exact kept.congr rfl rfl
  | execute => exact kept.congr rfl rfl
  | escalate =>
    refine ⟨fun _ => ?_,kept.granted⟩
    simp [gpuEntries,checked]

theorem hardLimitApproved_backed {id : Uuid} {copy : RemediationRequest}
    (copy_ : Backed runtime engine log id copy) :
    Backed runtime engine log id copy.hardLimitApproved := by
  refine ⟨copy_.escalated,fun _ marked => ?_⟩
  have unmarked : engine.hasGpuOverride copy.hardLimitApproved.reviewNotes = false :=
    engine.hasGpuOverride_ascii (by decide) (by decide)
  rw [unmarked] at marked
  contradiction

section Step

variable (taken : runtime.Step s phase event t next) (backs : Backs runtime engine (s,log) phase)
include taken backs

theorem Step.draft_backed (unmarked : UnmarkedReview engine phase event)
    {entry : Uuid × RemediationRequest} (drafted : next.draft = some entry) :
    Backed runtime engine (log ++ runtime.gpuEntries engine s phase event) entry.1 entry.2 := by
  have copied {id : Uuid} {copy written : RemediationRequest} (member : (id,copy) ∈ phase.copies)
      (fixed : written.fixed = copy.fixed) (override : written.override = copy.override) :
      Backed runtime engine (log ++ runtime.gpuEntries engine s phase event) id written :=
    ((backs.copies _ member).congr fixed override).mono
  have redrafted {id : Uuid} {before written : RemediationRequest}
      (was : phase.draft = some (id,before)) (fixed : written.fixed = before.fixed)
      (override : written.override = before.override) :
      Backed runtime engine (log ++ runtime.gpuEntries engine s phase event) id written :=
    ((backs.draft _ was).congr fixed override).mono
  cases taken with
  | review found reviewed =>
    obtain rfl := Option.some.inj drafted
    have unmarked' := unmarked _ _ _ _ rfl rfl
    exact review_backed reviewed (backs.copies _ List.mem_cons_self) unmarked'
  | check checked =>
    obtain rfl := Option.some.inj drafted
    exact check_backed checked (backs.copies _ List.mem_cons_self)
  | refused | raiseChecking | raiseExecuting | raiseInvoked =>
    obtain rfl := Option.some.inj drafted
    exact copied List.mem_cons_self rfl rfl
  | raiseWriting | raiseFinished =>
    obtain rfl := Option.some.inj drafted
    exact redrafted rfl rfl rfl
  | finish =>
    obtain rfl := Option.some.inj drafted
    exact copied List.mem_cons_self (by simp) (by simp)
  | approve =>
    obtain rfl := Option.some.inj drafted
    exact (hardLimitApproved_backed (backs.copies _ List.mem_cons_self)).mono
  | deferred | invalidProvider | scheduled | refresh => simp at drafted
  | _ => simp [RemediationPhase.draft] at drafted

theorem Step.marked (answers : PolicyAnswers engine phase event) {request : RemediationRequest}
    (acts : next.actsNext = some request) (sensitive : engine.isGpuSensitive request = true) :
    engine.hasGpuOverride request.reviewNotes = true := by
  cases taken with
  | @check copy env written write s execution row checked =>
    obtain ⟨config,enabled,required,evaluation⟩ := answers _ _ _ _ rfl rfl
    cases (checkExecution_writes checked).2 with
    | execute passed =>
      obtain rfl := Option.some.inj acts
      rw [evaluation] at passed
      exact RemediationPolicyEngine.evaluate_passed enabled required passed sensitive
    | _ => simp [RemediationPhase.actsNext] at acts
  | started =>
    obtain rfl := Option.some.inj acts
    exact backs.marked _ rfl sensitive
  | deferred | invalidProvider | scheduled | refresh => simp at acts
  | _ => simp [RemediationPhase.actsNext] at acts

theorem Step.rows_backed
    (rows : ∀ id row, s.store.requests.find id = some row → Backed runtime engine log id row)
    {id : Uuid} {row : RemediationRequest} (found : t.store.requests.find id = some row) :
    Backed runtime engine (log ++ runtime.gpuEntries engine s phase event) id row := by
  rcases taken.found found with same | ⟨_,created⟩ | ⟨_,f,before,writes,there,rfl⟩
  · exact (rows id row same).mono
  · exact backed_unreviewed created.override
  · rcases RemediationPhase.writes_draft writes with
      ⟨copy,written,rfl,draft,rewrites,member⟩ | ⟨message,restored,rfl⟩
    · obtain ⟨row,found,same⟩ := backs.known _ member
      obtain rfl := Option.some.inj (found.symm.trans there)
      have fixed : written.fixed = row.fixed := (backs.keeps _ _ rewrites).trans same.symm
      exact ((rows id row there).flush (backs.draft _ draft) fixed).mono
    · have failed : Backed runtime engine log id (before.flushExpired message restored) :=
        (rows id before there).congr rfl rfl
      exact failed.mono

omit taken in
theorem gpuLaw_step (law : runtime.GpuLaw log) :
    runtime.GpuLaw (log ++ runtime.gpuEntries engine s phase event) := by
  apply law.append
  intro past entry later split id acted
  subst acted
  unfold gpuEntries at split
  split at split
  · split at split
    · cases past <;> simp at split
    · simp at split
  · cases past <;> simp at split
  · next execution copy _ _ _ =>
    cases past with
    | cons => simp at split
    | nil =>
      obtain ⟨acted,_⟩ := List.cons.inj split
      obtain ⟨rfl,sensitive⟩ := GpuEntry.acted.inj acted
      have granted := (backs.copies _ List.mem_cons_self).granted sensitive
        (backs.marked _ rfl sensitive)
      simpa using granted
  · simp at split

end Step

theorem Backs.mono {entries : List GpuEntry} (backs : Backs runtime engine (s,log) phase)
    (known : ∀ entry ∈ phase.copies, t.KnowsFixed entry) :
    Backs runtime engine (t,log ++ entries) phase where
  keeps := backs.keeps
  known := known
  copies entry member := (backs.copies entry member).mono
  draft entry drafted := (backs.draft entry drafted).mono
  marked := backs.marked

theorem unmarked_discipline (runtime : RemediationRuntime) (engine : RemediationPolicyEngine) :
    Interleaving.Discipline (runtime.unmarkedProtocol engine) (Audited runtime engine)
      (Backs runtime engine) fun _ _ => True where
  symmetric _ _ _ := trivial
  own s phase event t next audited backs taken := by
    obtain ⟨⟨⟨⟨taken,_⟩,logged⟩,answers⟩,unmarked⟩ := taken
    obtain ⟨s,log⟩ := s
    obtain ⟨t,after⟩ := t
    obtain rfl : after = log ++ runtime.gpuEntries engine s phase event := logged
    have known := taken.copiesFixed backs.keeps backs.known
    refine ⟨⟨fun id row found => taken.rows_backed backs audited.rows found,
      gpuLaw_step backs audited.law⟩,?_⟩
    refine ⟨taken.keepsFixed backs.keeps,fun entry member => taken.knowsFixed (known entry member),
      fun entry member => ?_,fun entry drafted => taken.draft_backed backs unmarked drafted,
      fun request acts sensitive => taken.marked backs answers acts sensitive⟩
    rcases taken.copies_of member with before | found | ⟨copy,continues⟩
    · exact (backs.copies entry before).mono
    · exact (audited.rows _ _ found).mono
    · exact (backs.draft _ (RemediationPhase.continues_draft continues)).mono
  exclusive _ _ _ _ _ _ _ _ _ _ _ _ := trivial
  undisturbed s phase event t next other _ _ others _ taken _ := by
    obtain ⟨⟨⟨⟨taken,_⟩,logged⟩,_⟩,_⟩ := taken
    obtain ⟨s,log⟩ := s
    obtain ⟨t,after⟩ := t
    obtain rfl : after = log ++ runtime.gpuEntries engine s phase event := logged
    exact Backs.mono others fun entry member => taken.knowsFixed (others.known entry member)

end RemediationRuntime

/-- No strategy of a GPU-sensitive request runs without an escalation that the required
role approved, when no reviewer writes the marker out of turn. -/
theorem gpu_needs_escalation [DecidableEq ι] (runtime : RemediationRuntime)
    (engine : RemediationPolicyEngine) {start final : RemediationRuntime.GpuSystem ι}
    {events : List (ι × RemediationEvent)} (opening : GpuOpening start)
    (run : Trace (runtime.UnmarkedSteps engine) start events final) :
    runtime.GpuLaw final.shared.2 := by
  have good : Interleaving.Good (Audited runtime engine) (Backs runtime engine) (fun _ _ => True)
      start := by
    refine ⟨⟨fun id row found => ?_,?_⟩,fun party => ?_,fun _ _ _ => trivial⟩
    · rw [opening.requests] at found
      simp at found
    · rw [opening.log]
      exact .nil
    · rw [opening.idle party]
      exact ⟨.of_none rfl,by simp [RemediationPhase.copies],by simp [RemediationPhase.copies],
        by simp [RemediationPhase.draft],by simp [RemediationPhase.actsNext]⟩
  exact ((RemediationRuntime.unmarked_discipline runtime engine).run run good).invariant.law

namespace Sample

open Interleaving (pair Solo)

def gpuEngine : RemediationPolicyEngine where
  text := .asciiOnly
  isWord c := c.isAlphanum || c = '_'
  ascii _ _ := rfl

def gpuNode : CreateCall :=
  { machine with explainabilityNotes := some "gpu node", confidenceScore := none }

def gpuRequest : RemediationRequest :=
  { machineRequest with explainabilityNotes := some "gpu node", confidenceScore := none }

theorem gpu_created : runtime.newRequest gpuNode = .ok gpuRequest := by
  simp [RemediationRuntime.newRequest,gpuNode,machine,normalizeProvider_aws,raiseIf,gpuRequest,
    machineRequest,machineTarget,sanitizeActionParameters,bind,Except.bind,pure,Except.pure]

variable {s t : Remediation} {phase next : RemediationPhase} {event : RemediationEvent}
  {log : List GpuEntry} {guard : RemediationPhase → RemediationEvent → Prop}

theorem gpu_step (taken : runtime.Step s phase event t next) (indexed : t.store.Indexed)
    (answers : PolicyAnswers gpuEngine phase event) (guarded : guard phase event) :
    Solo ((runtime.gpuProtocol gpuEngine).restrict (fun _ => guard) fun _ _ _ _ => True)
      ((s,log),phase) event ((t,log ++ runtime.gpuEntries gpuEngine s phase event),next) :=
  ⟨⟨⟨⟨taken,indexed⟩,rfl⟩,answers⟩,guarded⟩

theorem unasked (other : ∀ env, event ≠ .check env) : PolicyAnswers gpuEngine phase event :=
  fun _ _ _ env _ asks => absurd asks (other env)

def ordinary (notes : Option String) : ReviewCall := { reviewerId := 8, notes }

def noted (notes : Option String) : RemediationRequest :=
  { gpuRequest with status := .approved, reviewedByUserId := some 8, reviewNotes := notes }

def notedTables (notes : Option String) : Remediation :=
  holding (gpuRequest.flush gpuRequest (noted notes)) .empty [.approved 1 machineTarget] 0

theorem noting_step (notes : Option String) : runtime.Step (holding gpuRequest .empty [] 0)
    (.loaded 1 gpuRequest) (.review .approve (ordinary notes)) (holding gpuRequest .empty [] 0)
    (.reviewing .approve 1 gpuRequest gpuRequest (noted notes)) :=
  .review rfl rfl

def notingEvents (notes : Option String) : List RemediationEvent :=
  [.create gpuNode,.load 1,.review .approve (ordinary notes),.commit]

theorem noting_run (notes : Option String)
    (calm : ∀ phase event, (∀ kind call, event ≠ .review kind call) → guard phase event)
    (reviews : guard (.loaded 1 gpuRequest) (.review .approve (ordinary notes))) :
    Trace (Solo ((runtime.gpuProtocol gpuEngine).restrict (fun _ => guard) fun _ _ _ _ => True))
      ((opening,[]),.idle) (notingEvents notes)
      ((notedTables notes,[.approving 1 (ordinary notes)]),.idle) := by
  have created : runtime.Step opening .idle (.create gpuNode) (holding gpuRequest .empty [] 0)
      .idle := .create gpu_created rfl
  refine .go (gpu_step created holding_indexed (unasked (by simp)) (calm _ _ (by simp))) ?_
  refine .go (gpu_step (.load rfl) holding_indexed (unasked (by simp)) (calm _ _ (by simp))) ?_
  refine .go (gpu_step (noting_step notes) holding_indexed (unasked (by simp)) reviews) ?_
  exact .go (gpu_step .reviewed holding_indexed (unasked (by simp)) (calm _ _ (by simp))) .stop

def marker : Option String := some "gpu-approved"

def markedRow : RemediationRequest := gpuRequest.flush gpuRequest (noted marker)

def gpuEnvironment : ExecuteEnvironment where
  evaluation := gpuEngine.evaluate (markedRow.applySystemPolicyContext []) {}
  now := 0
  later := 0

theorem marked_passes : gpuEnvironment.evaluation.decision = .allow := by
  have override : gpuEngine.hasGpuOverride (markedRow.applySystemPolicyContext []).reviewNotes =
      true := by decide
  have mild : RemediationPolicyEngine.isDestructive (markedRow.applySystemPolicyContext []) =
      false := by decide
  have unscored : (markedRow.applySystemPolicyContext []).confidenceScore = none := rfl
  simp [gpuEnvironment,RemediationPolicyEngine.evaluate,override,mild,unscored]

def serviceExecution : Execution := ⟨.service,1,true⟩

def actingEvents : List RemediationEvent :=
  [.load 1,.execute true,.lock,.check gpuEnvironment,.commit,.invoke "" "" ""]

theorem acting_run : ∃ t next, Trace
    (Solo ((runtime.gpuProtocol gpuEngine).restrict (fun _ _ _ => True) fun _ _ _ _ => True))
    ((notedTables marker,[.approving 1 (ordinary marker)]),.idle) actingEvents
    ((t,[.approving 1 (ordinary marker),.acted 1 true]),next) := by
  have lock : runtime.Step (notedTables marker) (.opened serviceExecution markedRow) .lock
      ((notedTables marker).log [.called 1 0]) (.checking serviceExecution markedRow markedRow) :=
    .lock rfl normalizeProvider_machine
  have check : runtime.Step ((notedTables marker).log [.called 1 0])
      (.checking serviceExecution markedRow markedRow) (.check gpuEnvironment)
      ((notedTables marker).log [.called 1 0]) (.writing serviceExecution markedRow markedRow
        (markedRow.applySystemPolicyContext []).execute .execute 24) :=
    .check (RemediationRuntime.checkExecution_allows (machine_bound _) rfl rfl marked_passes)
  have asked : PolicyAnswers gpuEngine (.checking serviceExecution markedRow markedRow)
      (.check gpuEnvironment) := by
    intro execution copy row env phase event
    obtain ⟨_,rfl,_⟩ := RemediationPhase.checking.inj phase
    obtain rfl := RemediationEvent.check.inj event
    exact ⟨{},rfl,rfl,rfl⟩
  apply Exists.intro
  apply Exists.intro
  refine .go (gpu_step (.load rfl) holding_indexed (unasked (by simp)) trivial) ?_
  refine .go (gpu_step .execute holding_indexed (unasked (by simp)) trivial) ?_
  refine .go (gpu_step lock holding_indexed (unasked (by simp)) trivial) ?_
  refine .go (gpu_step check holding_indexed asked trivial) ?_
  refine .go (gpu_step .started holding_indexed (unasked (by simp)) trivial) ?_
  exact .go (gpu_step .invoke holding_indexed (unasked (by simp)) trivial) .stop

end Sample

open Interleaving (pair)

/-- An ordinary approval without the marker. -/
theorem gpu_needs_escalation_ordinary : ∃ final : RemediationRuntime.GpuSystem Bool,
    final.shared.2 = [.approving 1 (Sample.ordinary none)] ∧
      Sample.runtime.GpuLaw final.shared.2 := by
  have calm (phase : RemediationPhase) (event : RemediationEvent)
      (other : ∀ kind call, event ≠ .review kind call) :
      UnmarkedReview Sample.gpuEngine phase event :=
    fun _ _ kind call _ reviews => absurd reviews (other kind call)
  have plain : UnmarkedReview Sample.gpuEngine (.loaded 1 Sample.gpuRequest)
      (.review .approve (Sample.ordinary none)) := by
    intro _ _ _ _ _ reviews _ _
    obtain ⟨_,rfl⟩ := RemediationEvent.review.inj reviews
    exact Sample.gpuEngine.hasGpuOverride_none
  have opening : GpuOpening (pair (Sample.opening,[]) .idle .idle : RemediationRuntime.GpuSystem Bool) :=
    ⟨rfl,rfl,fun party => Interleaving.pair_phase party⟩
  have run := Sample.noting_run none calm plain
  exact ⟨_,rfl,gpu_needs_escalation Sample.runtime Sample.gpuEngine opening
    (Interleaving.first_run run fun _ _ _ =>
      ⟨⟨fun id held => by simp [RemediationPhase.held] at held,trivial⟩,trivial⟩)⟩

/-- A GPU node is stopped on an ordinary approval whose notes hold the marker. -/
theorem marker_without_escalation : ∃ (start final : RemediationRuntime.GpuSystem Bool)
    (events : List (Bool × RemediationEvent)),
    GpuOpening start ∧ Trace (Sample.runtime.GpuSteps Sample.gpuEngine) start events final ∧
      ¬Sample.runtime.GpuLaw final.shared.2 := by
  have noting : Trace (Interleaving.Solo ((Sample.runtime.gpuProtocol Sample.gpuEngine).restrict
      (fun _ _ _ => True) fun _ _ _ _ => True)) ((Sample.opening,[]),.idle) _ _ :=
    Sample.noting_run Sample.marker (fun _ _ _ => trivial) trivial
  obtain ⟨t,next,acting⟩ := Sample.acting_run
  have run := (noting.trans acting).mono fun taken => taken.1
  have opening : GpuOpening (pair (Sample.opening,[]) .idle .idle : RemediationRuntime.GpuSystem Bool) :=
    ⟨rfl,rfl,fun party => Interleaving.pair_phase party⟩
  refine ⟨_,_,_,opening,Interleaving.first_run run fun _ _ _ =>
    ⟨fun id held => by simp [RemediationPhase.held] at held,trivial⟩,fun law => ?_⟩
  obtain ⟨call,_,granted⟩ := law [.approving 1 (Sample.ordinary Sample.marker)] _ [] rfl 1 rfl
  simpa using granted.length_le

end Valdrics.Optimization

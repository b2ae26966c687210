import Valdrics.RemediationFinality

/-! Autonomous sweeps beside the remediation calls of the tenant. A sweep looks for open requests
and creates its own in another transaction, one candidate after another. -/
namespace Valdrics.Optimization

open Enforcement (Uuid JsonObject bind_eq_ok)

structure Candidate where
  resourceId : String
  resourceType : String
  provider : String
  connectionId : Option Uuid
  action : RemediationAction
  savings : Int
  confidence : String
  reason : String

structure RequestKey where
  connectionId : Option Uuid
  provider : String
  resourceId : String
  action : RemediationAction
  deriving DecidableEq

def Candidate.key (candidate : Candidate) : RequestKey :=
  ⟨candidate.connectionId,candidate.provider,candidate.resourceId,candidate.action⟩

def RemediationRequest.key (request : RemediationRequest) : RequestKey :=
  ⟨request.target.connectionId,request.target.provider,request.target.resourceId,request.target.action⟩

/-- The request that `_process_candidate` asks for. -/
def Candidate.createCall (candidate : Candidate) (requestId : Uuid)
    (connection : Except RemediationFault Unit) (awsRegionHint : String) (systemContext : JsonObject) :
    CreateCall where
  requestId := requestId
  userId := systemUserId
  resourceId := candidate.resourceId
  resourceType := candidate.resourceType
  action := candidate.action
  estimatedSavings := candidate.savings
  provider := candidate.provider
  explainabilityNotes := some ("Autonomous candidate: " ++ candidate.reason ++ " (Confidence: " ++
    candidate.confidence ++ ")")
  connectionId := candidate.connectionId
  connection := connection
  awsRegionHint := awsRegionHint
  systemContext := systemContext

/-- The rows that the query of `_has_open_request` finds. -/
def openRequests (requests : Table Uuid RemediationRequest) (candidate : Candidate) :
    List (Uuid × RemediationRequest) :=
  requests.rows.filter fun entry => entry.2.target.resourceId = candidate.resourceId &&
    entry.2.target.provider = candidate.provider && entry.2.target.action = candidate.action &&
    entry.2.status.isOpen

/-- `_has_open_request`; `none` is the exception of `scalar_one_or_none` on several rows. -/
def hasOpenRequest (requests : Table Uuid RemediationRequest) (candidate : Candidate) : Option Bool :=
  match openRequests requests candidate with
  | [] => some false
  | [_] => some true
  | _ => none

/-- A party makes remediation calls, or it sweeps: `checked` is between the two transactions. -/
inductive SweepPhase where
  | call (phase : RemediationPhase)
  | sweeping (rest : List Candidate)
  | checked (candidate : Candidate) (rest : List Candidate)
  | aborted

namespace SweepPhase

def held : SweepPhase → List Uuid
  | .call phase => phase.held
  | _ => []

def candidates : SweepPhase → List Candidate
  | .sweeping rest => rest
  | .checked candidate rest => candidate :: rest
  | _ => []

end SweepPhase

inductive SweepEvent where
  | call (event : RemediationEvent)
  | start (candidates : List Candidate)
  | check
  | create (requestId : Uuid) (connection : Except RemediationFault Unit) (awsRegionHint : String)
      (systemContext : JsonObject)
  | finish
  | leave

/-- The calls of users; the system's own requests come from sweeps. -/
def ByUser : RemediationEvent → Prop
  | .create call => call.userId ≠ systemUserId
  | .createFromFinding call => call.userId ≠ systemUserId
  | _ => True

namespace RemediationRuntime

variable (runtime : RemediationRuntime)

def Normal (candidate : Candidate) : Prop :=
  candidate.provider ≠ "" ∧ runtime.normalizeProvider candidate.provider = candidate.provider

inductive SweepStep : Remediation → SweepPhase → SweepEvent → Remediation → SweepPhase → Prop where
  | call (user : ByUser event) (taken : runtime.Step s phase event t next) :
      SweepStep s (.call phase) (.call event) t (.call next)
  | start (normal : ∀ candidate ∈ candidates, runtime.Normal candidate) :
      SweepStep s (.call .idle) (.start candidates) s (.sweeping candidates)
  | clear (answer : hasOpenRequest s.store.requests candidate = some false) :
      SweepStep s (.sweeping (candidate :: rest)) .check s (.checked candidate rest)
  | duplicate (answer : hasOpenRequest s.store.requests candidate = some true) :
      SweepStep s (.sweeping (candidate :: rest)) .check s (.sweeping rest)
  | several (answer : hasOpenRequest s.store.requests candidate = none) :
      SweepStep s (.sweeping (candidate :: rest)) .check s .aborted
  | create (made : runtime.newRequest (candidate.createCall requestId connection hint context) = .ok row)
      (inserted : s.store.requests.insert requestId row = some requests) :
      SweepStep s (.checked candidate rest) (.create requestId connection hint context)
        (s.setRequests requests) (.sweeping rest)
  | refused
      (made : runtime.newRequest (candidate.createCall requestId connection hint context) = .error fault) :
      SweepStep s (.checked candidate rest) (.create requestId connection hint context) s .aborted
  | finish : SweepStep s (.sweeping []) .finish s (.call .idle)
  /-- The worker dies, or its job is cancelled. -/
  | leave : SweepStep s phase .leave s (.call .idle)

def sweepProtocol : Protocol Remediation SweepPhase SweepEvent where
  step s phase event t next := runtime.SweepStep s phase event t next ∧ t.store.Indexed
  permits other s t next := ∀ id ∈ other.held,
    id ∉ next.held ∧ t.store.requests.find id = s.store.requests.find id

end RemediationRuntime

abbrev SweepSystem (ι : Type) := Interleaving.System ι Remediation SweepPhase

def RemediationRequest.Drafted (request : RemediationRequest) : Prop :=
  request.requestedByUserId = systemUserId ∧ request.status.isOpen = true

def AtMostOne (requests : Table Uuid RemediationRequest) : Prop :=
  ∀ id other row row', requests.find id = some row → requests.find other = some row' →
    row.Drafted → row'.Drafted → row.key = row'.key → id = other

def HasOwn (requests : Table Uuid RemediationRequest) (candidate : Candidate) : Prop :=
  ∃ id row, requests.find id = some row ∧ row.status.isOpen = true ∧ row.key = candidate.key

/-- The rows that the query finds are at most one, of the candidate's own connection. -/
def Unambiguous (requests : Table Uuid RemediationRequest) (candidate : Candidate) : Prop :=
  (openRequests requests candidate).length ≤ 1 ∧
    ∀ entry ∈ openRequests requests candidate, entry.2.target.connectionId = candidate.connectionId

def Answers (requests : Table Uuid RemediationRequest) (candidate : Candidate) : Prop :=
  (HasOwn requests candidate ∧ hasOpenRequest requests candidate = some true) ∨
    (¬HasOwn requests candidate ∧ hasOpenRequest requests candidate = some false)

section Check

variable {requests : Table Uuid RemediationRequest} {candidate : Candidate}

theorem mem_openRequests {entry : Uuid × RemediationRequest} :
    entry ∈ openRequests requests candidate ↔ requests.find entry.1 = some entry.2 ∧
      entry.2.status.isOpen = true ∧
      entry.2.key = { candidate.key with connectionId := entry.2.target.connectionId } := by
  rw [openRequests,List.mem_filter,Table.find_eq_some_iff]
  simp only [Bool.and_eq_true,decide_eq_true_eq,RemediationRequest.key,Candidate.key,
    RequestKey.mk.injEq,true_and]
  tauto

theorem hasOwn_iff : HasOwn requests candidate ↔
    ∃ entry ∈ openRequests requests candidate, entry.2.target.connectionId = candidate.connectionId := by
  constructor
  · rintro ⟨id,row,found,opened,same⟩
    have connection : row.target.connectionId = candidate.connectionId := congrArg (·.connectionId) same
    exact ⟨(id,row),mem_openRequests.mpr ⟨found,opened,by rw [same,connection]; rfl⟩,connection⟩
  · rintro ⟨entry,listed,connection⟩
    obtain ⟨found,opened,same⟩ := mem_openRequests.mp listed
    exact ⟨entry.1,entry.2,found,opened,by rw [same,connection]; rfl⟩

/-- The check is right exactly when what it finds is unambiguous. -/
theorem answers_iff : Answers requests candidate ↔ Unambiguous requests candidate := by
  simp only [Answers,hasOwn_iff,Unambiguous,hasOpenRequest]
  rcases openRequests requests candidate with _ | ⟨entry,_ | ⟨second,rest⟩⟩
  · simp
  · simp
  · simp

end Check

end Valdrics.Optimization

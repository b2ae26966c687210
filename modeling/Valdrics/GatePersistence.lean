import Valdrics.GateAssessment

/-! What a gate leaves in the store: nothing new for a replay or a failure, else one
decision row, the allocations of its credit, its approval request and a ledger entry. -/
namespace Valdrics.Enforcement

/-- A draft fit to be stored: its credit is split over the pools, an approval is only
asked for what is held, and what is held is positive. -/
structure GateDraft.Sound (draft : GateDraft) : Prop where
  reservedNonneg : 0 ≤ draft.reserveReservedCredit
  emergencyNonneg : 0 ≤ draft.reserveEmergencyCredit
  credit : draft.decision.reservedCreditUsd =
    draft.reserveReservedCredit + draft.reserveEmergencyCredit
  approvalHeld : draft.decision.decision = .requireApproval →
    draft.decision.reservationActive = true ∨ draft.decision.reservedCreditUsd = 0
  activeAllocation : draft.decision.reservationActive = true →
    0 ≤ draft.decision.reservedAllocationUsd
  activePositive : draft.decision.reservationActive = true →
    0 < draft.decision.reservedAllocationUsd + draft.decision.reservedCreditUsd

namespace Gate

open Waterfall

theorem reserves_sound {assessment : Assessment} {input : Waterfall.Input}
    (reserves : Reserves assessment (drawFunds input)) :
    0 ≤ assessment.reserveReservedCredit ∧ 0 ≤ assessment.reserveEmergencyCredit ∧
      (0 < assessment.reserveAllocation + assessment.reserveCredit →
        0 ≤ assessment.reserveAllocation) ∧
      (0 < assessment.reserveCredit → 0 ≤ assessment.reserveAllocation) := by
  have spec := drawFunds_spec input
  have nonneg := spec.allocNonneg
  have positive := spec.allocPositive
  have credit := spec.creditPositive
  have reserved := spec.reservedNonneg
  have emergency := spec.emergencyNonneg
  simp only [Assessment.reserveCredit,reserves.allocation,reserves.reservedCredit,
    reserves.emergencyCredit]
  omega

theorem assessment_sound {policy : Policy} {computedContext : DecisionComputedContext}
    {input : Waterfall.Input} {dryRun : Bool} {assessment : Assessment}
    (kind : Kind policy computedContext input dryRun assessment) :
    0 ≤ assessment.reserveReservedCredit ∧ 0 ≤ assessment.reserveEmergencyCredit ∧
      (0 < assessment.reserveAllocation + assessment.reserveCredit →
        0 ≤ assessment.reserveAllocation) ∧
      (0 < assessment.reserveCredit → 0 ≤ assessment.reserveAllocation) := by
  have zero (nothing : ReservesNothing assessment) :
      0 ≤ assessment.reserveReservedCredit ∧ 0 ≤ assessment.reserveEmergencyCredit ∧
        (0 < assessment.reserveAllocation + assessment.reserveCredit →
          0 ≤ assessment.reserveAllocation) ∧
        (0 < assessment.reserveCredit → 0 ≤ assessment.reserveAllocation) := by
    simp [nothing.allocation,nothing.reservedCredit,nothing.emergencyCredit]
  cases kind with
  | violated _ _ nothing => exact zero nothing
  | escalated _ _ _ _ _ _ reserves => exact reserves_sound reserves
  | funded _ _ _ _ _ real dry =>
    cases dryRun with
    | false => exact reserves_sound (real rfl)
    | true => exact zero (dry rfl)

theorem assessment_held {policy : Policy} {computedContext : DecisionComputedContext}
    {input : Waterfall.Input} {dryRun : Bool} {assessment : Assessment}
    (kind : Kind policy computedContext input dryRun assessment)
    (pending : assessment.decision = .requireApproval) :
    reservationActive input.mode dryRun assessment = true ∨ assessment.reserveCredit = 0 := by
  obtain ⟨reserved,emergency,_,after⟩ := assessment_sound kind
  have open_ (notShadow : input.mode ≠ .shadow) (real : dryRun = false) :
      reservationActive input.mode dryRun assessment = true ∨ assessment.reserveCredit = 0 := by
    by_cases credit : assessment.reserveCredit = 0
    · exact Or.inr credit
    · have total : assessment.reserveCredit =
          assessment.reserveReservedCredit + assessment.reserveEmergencyCredit := rfl
      have alloc := after (by omega)
      refine Or.inl ?_
      simp only [reservationActive,real,pending,Bool.not_false,Bool.true_and]
      simpa [notShadow] using (by omega)
  have nothing_ (nothing : ReservesNothing assessment) : assessment.reserveCredit = 0 := by
    simp [Assessment.reserveCredit,nothing.reservedCredit,nothing.emergencyCredit]
  cases kind with
  | violated _ _ nothing => exact Or.inr (nothing_ nothing)
  | escalated real _ _ soft _ _ _ => exact open_ (by simp [soft]) real
  | funded _ _ _ _ decision _ dry =>
    cases dryRun with
    | true => exact Or.inr (nothing_ (dry rfl))
    | false =>
      rcases decision with allow | credits | ⟨_,notShadow⟩
      · simp [pending] at allow
      · simp [pending] at credits
      · exact open_ notShadow rfl

end Gate

namespace Service

variable {service : Service}

/-- The key a call is stored under and looked up by, whatever the policy says. -/
def gateKey (service : Service) (call : GateCall) : Option (Source × String) :=
  match service.stableFingerprint call.source call.gateInput with
  | .ok fingerprint =>
    some (call.source,resolveIdempotencyKey fingerprint call.gateInput.idempotencyKey)
  | .error _ => none

theorem buildGateEvaluationContext_eq_ok {policy : Policy} {source : Source} {input : GateInput}
    {context : GateEvaluationContext}
    (built : service.buildGateEvaluationContext policy source input = .ok context) :
    ∃ fingerprint, service.stableFingerprint source input = .ok fingerprint ∧
      context =
        { policy := policy
          normalizedEnv := service.normalizeEnvironment input.environment
          mode := (service.resolvePolicyMode policy source
            (service.normalizeEnvironment input.environment)).1
          modeScope := (service.resolvePolicyMode policy source
            (service.normalizeEnvironment input.environment)).2
          ttlSeconds := ttlSeconds policy
          fingerprint := fingerprint
          idempotencyKey := resolveIdempotencyKey fingerprint input.idempotencyKey } := by
  obtain ⟨fingerprint,digested,made⟩ := bind_eq_ok.mp built
  exact ⟨fingerprint,digested,(Except.ok.inj made).symm⟩

theorem gateKey_eq {policy : Policy} {call : GateCall} {context : GateEvaluationContext}
    (built : service.buildGateEvaluationContext policy call.source call.gateInput = .ok context) :
    service.gateKey call = some (call.source,context.idempotencyKey) := by
  obtain ⟨fingerprint,digested,rfl⟩ := buildGateEvaluationContext_eq_ok built
  simp [gateKey,digested]

theorem draftFrom_sound (context : GateEvaluationContext) (call : GateCall) (reads : GateReads)
    (monthlyDelta : Int) (hourlyDelta : Option Int) :
    (service.draftFrom context call reads monthlyDelta hourlyDelta).Sound := by
  have kind := Gate.assess_kind context.policy context.mode
    (service.isProductionEnvironment context.normalizedEnv) call.gateInput.dryRun reads
    call.computedContext monthlyDelta
  obtain ⟨reserved,emergency,alloc,_⟩ := Gate.assessment_sound kind
  have positive (active : Gate.reservationActive context.mode call.gateInput.dryRun
      (Gate.assess context.policy context.mode
        (service.isProductionEnvironment context.normalizedEnv) call.gateInput.dryRun reads
        call.computedContext monthlyDelta) = true) := by
    simp only [Gate.reservationActive,Bool.and_eq_true,decide_eq_true_eq] at active
    exact active.2
  exact ⟨reserved,emergency,rfl,Gate.assessment_held kind,fun active => alloc (positive active),
    positive⟩

theorem draftGateDecision_eq_ok {store : Store} {context : GateEvaluationContext}
    {call : GateCall} {draft : GateDraft}
    (drafted : service.draftGateDecision store context call = .ok draft) :
    ∃ monthly hourly,
      comparableAmount call.gateInput.estimatedMonthlyDeltaUsd 4 = .ok monthly ∧
      call.gateInput.estimatedHourlyDeltaUsd.quantize 6 = some hourly ∧
      draft = service.draftFrom context call (service.readGate store call.gateInput call.now)
        monthly hourly := by
  obtain ⟨monthly,first,after⟩ := bind_eq_ok.mp drafted
  obtain ⟨hourly,second,result⟩ := bind_eq_ok.mp after
  exact ⟨monthly,hourly,first,require_eq_ok.mp second,(Except.ok.inj result).symm⟩

theorem draftGateDecision_sound {store : Store} {context : GateEvaluationContext}
    {call : GateCall} {draft : GateDraft}
    (drafted : service.draftGateDecision store context call = .ok draft) : draft.Sound := by
  obtain ⟨monthly,hourly,_,_,rfl⟩ := draftGateDecision_eq_ok drafted
  exact draftFrom_sound context call _ monthly hourly

theorem draftFailSafe_eq_ok {context : GateEvaluationContext} {call : GateCall}
    {failure : FailSafe} {draft : GateDraft}
    (drafted : service.draftFailSafe context call failure = .ok draft) :
    ∃ monthly hourly,
      comparableAmount call.gateInput.estimatedMonthlyDeltaUsd 4 = .ok monthly ∧
      call.gateInput.estimatedHourlyDeltaUsd.quantize 6 = some hourly ∧
      draft = service.failSafeDraft context call failure monthly hourly := by
  obtain ⟨monthly,first,after⟩ := bind_eq_ok.mp drafted
  obtain ⟨hourly,second,result⟩ := bind_eq_ok.mp after
  exact ⟨monthly,hourly,first,require_eq_ok.mp second,(Except.ok.inj result).symm⟩

theorem draftFailSafe_sound {context : GateEvaluationContext} {call : GateCall}
    {failure : FailSafe} {draft : GateDraft}
    (drafted : service.draftFailSafe context call failure = .ok draft) : draft.Sound := by
  obtain ⟨monthly,hourly,_,_,rfl⟩ := draftFailSafe_eq_ok drafted
  constructor <;> simp [failSafeDraft,decisionRow]

end Service

/-- The row with another response payload: how later writes of a gate change it. -/
def Decision.withPayload (decision : Decision) (payload : ResponsePayload) : Decision :=
  { decision with responsePayload := payload }

structure PersistedBy (reserve : Service.ReserveCredits) (store next : Store)
    (context : GateEvaluationContext) (call : GateCall) (draft : GateDraft)
    (approvalId : Option Uuid) : Prop where
  tenantId : next.tenantId = store.tenantId
  tenantTier : next.tenantTier = store.tenantTier
  policy : next.policy = store.policy
  budgets : next.budgets = store.budgets
  freshId : store.decisions.find call.decisionId = none
  freshKey : store.decisions.lookup draft.decision.idempotency = none
  inserted : ∃ payload, ∀ id, next.decisions.find id =
    if id = call.decisionId then some (draft.decision.withPayload payload)
    else store.decisions.find id
  total : ∀ weight : Uuid → Decision → Int,
    (∀ id row payload, weight id (row.withPayload payload) = weight id row) →
    next.decisions.total weight = store.decisions.total weight +
      weight call.decisionId draft.decision
  credit : ∃ decisions reserved entries,
    reserve { store with decisions } = .ok (reserved,entries) ∧
    next.grants = reserved.grants ∧ next.allocations = reserved.allocations
  approval : (approvalId = none ∧ next.approvals = store.approvals ∧
      Service.needsApproval context.mode call draft.decision.decision = false) ∨
    (approvalId = some call.approvalId ∧ draft.decision.decision = .requireApproval ∧
      call.gateInput.dryRun = false ∧ context.mode ≠ .shadow ∧ ∃ row,
      row.decisionId = call.decisionId ∧ row.status = .pending ∧
      row.expiresAt = call.now + context.ttlSeconds * Calendar.microsPerSecond ∧
      row.approvalTokenHash = none ∧ row.approvalTokenConsumedAt = none ∧
      store.approvals.insert call.approvalId row = some next.approvals)

structure FreshIds (store : Store) (call : GateCall) : Prop where
  decision : store.decisions.find call.decisionId = none
  request : store.approvals.lookup call.decisionId = none
  approval : store.approvals.find call.approvalId = none

abbrev Persisted (service : Service) (store next : Store) (context : GateEvaluationContext)
    (call : GateCall) (draft : GateDraft) (approvalId : Option Uuid) : Prop :=
  PersistedBy (fun flushed => service.reserveCredits flushed call draft) store next context call
    draft approvalId

namespace PersistedBy

variable {reserve : Service.ReserveCredits} {store next : Store}
  {context : GateEvaluationContext} {call : GateCall} {draft : GateDraft} {approvalId : Option Uuid}

theorem lookup (spec : PersistedBy reserve store next context call draft approvalId) :
    ∃ payload, ∀ key, next.decisions.lookup key =
      if key = draft.decision.idempotency then
        some (call.decisionId,draft.decision.withPayload payload)
      else store.decisions.lookup key := by
  obtain ⟨payload,finds⟩ := spec.inserted
  exact ⟨payload,UniqueTable.lookup_of_find spec.freshId finds⟩

theorem fresh {other : GateCall}
    (spec : PersistedBy reserve store next context call draft approvalId)
    (fresh : FreshIds store other) (decisionApart : other.decisionId ≠ call.decisionId)
    (approvalApart : other.approvalId ≠ call.approvalId) : FreshIds next other := by
  obtain ⟨payload,finds⟩ := spec.inserted
  have decision : next.decisions.find other.decisionId = none := by
    rw [finds, if_neg decisionApart]
    exact fresh.decision
  rcases spec.approval with ⟨_,same,_⟩ | ⟨_,_,_,_,row,of_,_,_,_,_,inserted⟩
  · exact ⟨decision,by rw [same]; exact fresh.request,by rw [same]; exact fresh.approval⟩
  · refine ⟨decision,?_,?_⟩
    · rw [UniqueTable.lookup_insert inserted, of_, if_neg decisionApart]
      exact fresh.request
    · rw [UniqueTable.find_insert inserted, if_neg approvalApart]
      exact fresh.approval

end PersistedBy

namespace Service

variable {service : Service}

theorem reserveCredits_frame {store next : Store} {call : GateCall} {draft : GateDraft}
    {entries : List CreditAllocationEntry}
    (reserved : service.reserveCredits store call draft = .ok (next,entries)) :
    Store.SameButCredit store next := by
  unfold reserveCredits at reserved
  split at reserved
  · exact Store.reserveCreditForDecision_frame reserved
  · obtain ⟨rfl,_⟩ : store = next ∧ _ := by simpa using reserved
    exact .refl store

theorem recordAllocations_eq (store : Store) (decisionId : Uuid)
    (entries : List CreditAllocationEntry) :
    ∃ decisions, recordAllocations store decisionId entries = { store with decisions } ∧
      (decisions = store.decisions ∨ ∃ f keeps, decisions = store.decisions.update decisionId f keeps ∧
        ∀ row, ∃ payload, f row = row.withPayload payload) := by
  unfold recordAllocations
  split
  · exact ⟨store.decisions,rfl,Or.inl rfl⟩
  · exact ⟨_,rfl,Or.inr ⟨_,_,rfl,fun row => ⟨_,rfl⟩⟩⟩

theorem createApproval_eq_ok {store next : Store} {context : GateEvaluationContext}
    {call : GateCall} {decision : Decision} {approvalId : Option Uuid}
    (created : service.createApproval store context call decision = .ok (next,approvalId)) :
    ∃ approvals, next = { store with approvals } ∧
      ((approvalId = none ∧ approvals = store.approvals ∧
        needsApproval context.mode call decision.decision = false) ∨
      (approvalId = some call.approvalId ∧ decision.decision = .requireApproval ∧
        call.gateInput.dryRun = false ∧ context.mode ≠ .shadow ∧ ∃ row,
        row.decisionId = call.decisionId ∧ row.status = .pending ∧
        row.expiresAt = call.now + context.ttlSeconds * Calendar.microsPerSecond ∧
        row.approvalTokenHash = none ∧ row.approvalTokenConsumedAt = none ∧
        store.approvals.insert call.approvalId row = some approvals)) := by
  unfold createApproval at created
  split at created
  · next needed =>
    obtain ⟨approvals,inserted,result⟩ := bind_eq_ok.mp created
    obtain ⟨rfl,rfl⟩ : { store with approvals } = next ∧ some call.approvalId = approvalId := by
      simpa using Except.ok.inj result
    simp only [needsApproval,Bool.and_eq_true,decide_eq_true_eq,Bool.not_eq_true'] at needed
    exact ⟨approvals,rfl,Or.inr ⟨rfl,needed.1.1,needed.1.2,by simpa using needed.2,_,rfl,rfl,rfl,
      rfl,rfl,require_eq_ok.mp inserted⟩⟩
  · next unneeded =>
    obtain ⟨rfl,rfl⟩ : store = next ∧ none = approvalId := by simpa using created
    exact ⟨store.approvals,rfl,Or.inl ⟨rfl,rfl,by simpa using unneeded⟩⟩

theorem persistBody_eq_ok {store next : Store} {context : GateEvaluationContext}
    {call : GateCall} {draft : GateDraft} {approvalId : Option Uuid} {reserve : ReserveCredits}
    (frame : ∀ flushed next entries, reserve flushed = .ok (next,entries) →
      Store.SameButCredit flushed next)
    (done : service.persistBody store context call draft reserve = .ok (next,approvalId)) :
    PersistedBy reserve store next context call draft approvalId := by
  obtain ⟨decisions,first,afterDecision⟩ := bind_eq_ok.mp done
  obtain ⟨⟨reserved,entries⟩,credit,afterCredit⟩ := bind_eq_ok.mp afterDecision
  obtain ⟨⟨approved,approvalId'⟩,approval,result⟩ := bind_eq_ok.mp afterCredit
  obtain ⟨rfl,rfl⟩ : service.appendDecisionLedgerEntry approved call.decisionId approvalId' =
      next ∧ approvalId' = approvalId := by
    simpa using Except.ok.inj result
  have inserted := require_eq_ok.mp first
  have frame := frame _ _ _ credit
  obtain ⟨recorded,recordedEq,payloads⟩ := recordAllocations_eq reserved call.decisionId entries
  rw [recordedEq] at approval
  obtain ⟨approvals,rfl,requested⟩ := createApproval_eq_ok approval
  obtain ⟨ledger,appended⟩ := appendDecisionLedgerEntry_eq service
    { reserved with decisions := recorded, approvals } call.decisionId approvalId'
  rw [appended]
  have present : decisions.find call.decisionId = some draft.decision := by
    simp [UniqueTable.find_insert inserted]
  have fresh := (Table.insert_eq_some (UniqueTable.insert_eq_some inserted).1).1
  refine ⟨frame.tenantId,frame.tenantTier,frame.policy,frame.budgets,fresh,
    (UniqueTable.insert_eq_some inserted).2,?_,?_,⟨decisions,reserved,entries,credit,rfl,rfl⟩,?_⟩
  · rcases payloads with same | ⟨f,keeps,updated,payload⟩
    · refine ⟨draft.decision.responsePayload,fun id => ?_⟩
      rw [same, frame.decisions, UniqueTable.find_insert inserted]
      rfl
    · obtain ⟨noted,row⟩ := payload draft.decision
      refine ⟨noted,fun id => ?_⟩
      rw [updated, frame.decisions, UniqueTable.update_toTable, Table.find_update]
      by_cases same : id = call.decisionId
      · subst same
        simp [present,row]
      · simp [same,UniqueTable.find_insert inserted]
  · intro weight ignores
    have added : decisions.total weight = store.decisions.total weight +
        weight call.decisionId draft.decision :=
      Table.total_insert (UniqueTable.insert_eq_some inserted).1
    rcases payloads with same | ⟨f,keeps,updated,payload⟩
    · rw [same, frame.decisions]
      exact added
    · obtain ⟨noted,row⟩ := payload draft.decision
      have moved := Table.total_update weight f present
      rw [row, ignores] at moved
      rw [updated, frame.decisions, UniqueTable.update_toTable]
      exact (add_right_cancel moved).trans added
  · rcases requested with ⟨rfl,rfl,unneeded⟩ | ⟨rfl,asked,real,notShadow,row,of_,status,expires,
      hash,consumed,stored⟩
    · exact Or.inl ⟨rfl,frame.approvals,unneeded⟩
    · refine Or.inr ⟨rfl,asked,real,notShadow,row,of_,status,expires,hash,consumed,?_⟩
      have before : reserved.approvals = store.approvals := frame.approvals
      rw [← before]
      exact stored

theorem persistDecision_cases {store next : Store} {context : GateEvaluationContext}
    {call : GateCall} {draft : GateDraft} {outcome : Except Fault GateEvaluationResult}
    (persisted : service.persistDecisionWithOptionalApproval store context call draft =
      (next,outcome)) :
    (next = store ∧ ∀ result, outcome = .ok result →
      store.getExistingGateResult call.source context.idempotencyKey context.ttlSeconds =
        some result) ∨
    (∃ approvalId decision,
      Persisted service store next context call draft approvalId ∧
      next.decisions.find call.decisionId = some decision ∧
      outcome = .ok ⟨call.decisionId,decision,
        approvalId.bind fun id => (next.approvals.find id).map fun approval => (id,approval),
        none,context.ttlSeconds⟩) := by
  unfold persistDecisionWithOptionalApproval at persisted
  split at persisted
  · next after approvalId body =>
    have spec := persistBody_eq_ok (fun _ _ _ => reserveCredits_frame) body
    obtain ⟨payload,inserted⟩ := spec.inserted
    have found := inserted call.decisionId
    rw [if_pos rfl] at found
    rw [found] at persisted
    obtain ⟨rfl,rfl⟩ := Prod.mk.inj persisted
    exact Or.inr ⟨approvalId,_,spec,found,rfl⟩
  · split at persisted
    · next existing found =>
      obtain ⟨rfl,rfl⟩ := Prod.mk.inj persisted
      refine Or.inl ⟨rfl,fun result returned => ?_⟩
      rw [found, Except.ok.inj returned]
    · obtain ⟨rfl,rfl⟩ := Prod.mk.inj persisted
      exact Or.inl ⟨rfl,fun result returned => by simp at returned⟩
  · obtain ⟨rfl,rfl⟩ := Prod.mk.inj persisted
    exact Or.inl ⟨rfl,fun result returned => by simp at returned⟩

structure Evaluates (service : Service) (store : Store) (call : GateCall)
    (context : GateEvaluationContext) (draft : GateDraft) : Prop where
  built : service.buildGateEvaluationContext store.policy call.source call.gateInput = .ok context
  unstored : store.decisions.lookup (call.source,context.idempotencyKey) = none
  drafted : service.draftGateDecision store context call = .ok draft

theorem getExistingGateResult_eq_none {store : Store} {source : Source} {key : String}
    {ttlSeconds : Nat} : store.getExistingGateResult source key ttlSeconds = none ↔
      store.decisions.lookup (source,key) = none := by
  simp [Store.getExistingGateResult,Store.getDecisionByIdempotency]

theorem getExistingGateResultWithLock_eq (store : Store) (source : Source) (key : String)
    (ttlSeconds : Nat) : getExistingGateResultWithLock store source key ttlSeconds =
      store.getExistingGateResult source key ttlSeconds := by
  unfold getExistingGateResultWithLock
  cases store.getExistingGateResult source key ttlSeconds <;> rfl

theorem getExistingGateResult_eq_some {store : Store} {source : Source} {key : String}
    {ttlSeconds : Nat} {existing : GateEvaluationResult}
    (found : store.getExistingGateResult source key ttlSeconds = some existing) :
    store.decisions.lookup (source,key) = some (existing.decisionId,existing.decision) := by
  obtain ⟨row,stored,rfl⟩ := Option.map_eq_some_iff.mp found
  exact stored

section Branches

variable {store : Store} {call : GateCall} {context : GateEvaluationContext} {fault : Fault}

theorem evaluateGate_refused
    (failed : service.buildGateEvaluationContext store.policy call.source call.gateInput =
      .error fault) : service.evaluateGate store call = (store,.error fault) := by
  simp only [evaluateGate,failed]

theorem evaluateGate_replayed {existing : GateEvaluationResult}
    (built : service.buildGateEvaluationContext store.policy call.source call.gateInput =
      .ok context)
    (found : store.getExistingGateResult call.source context.idempotencyKey context.ttlSeconds =
      some existing) : service.evaluateGate store call = (store,.ok existing) := by
  simp only [evaluateGate,built,getExistingGateResultWithLock_eq,found]

theorem evaluateGate_undrafted
    (built : service.buildGateEvaluationContext store.policy call.source call.gateInput =
      .ok context)
    (unstored : store.decisions.lookup (call.source,context.idempotencyKey) = none)
    (failed : service.draftGateDecision store context call = .error fault) :
    service.evaluateGate store call = (store,.error fault) := by
  simp only [evaluateGate,built,getExistingGateResultWithLock_eq,
    getExistingGateResult_eq_none.mpr unstored,failed]

theorem Evaluates.persists {draft : GateDraft}
    (evaluates : Evaluates service store call context draft) :
    service.evaluateGate store call =
      service.persistDecisionWithOptionalApproval store context call draft := by
  simp only [evaluateGate,evaluates.built,getExistingGateResultWithLock_eq,
    getExistingGateResult_eq_none.mpr evaluates.unstored,evaluates.drafted]

end Branches

/-- A row stored under the key is what both gates return. -/
theorem answers_with_stored {store : Store} {call : GateCall} {fingerprint : String} {id : Uuid} {row : Decision}
    (digested : service.stableFingerprint call.source call.gateInput = .ok fingerprint)
    (stored : store.decisions.lookup (call.source,
      resolveIdempotencyKey fingerprint call.gateInput.idempotencyKey) = some (id,row)) :
    (∃ result, (service.evaluateGate store call).2 = .ok result ∧ result.decision = row) ∧
    ∀ failure, ∃ result, (service.resolveFailSafeGate store call failure).2 = .ok result ∧
      result.decision = row := by
  have built : ∃ context, service.buildGateEvaluationContext store.policy call.source
      call.gateInput = .ok context ∧ context.idempotencyKey =
        resolveIdempotencyKey fingerprint call.gateInput.idempotencyKey :=
    ⟨_,bind_eq_ok.mpr ⟨fingerprint,digested,rfl⟩,rfl⟩
  obtain ⟨context,opens,key⟩ := built
  have found : store.getExistingGateResult call.source context.idempotencyKey context.ttlSeconds =
      some ⟨id,row,store.getApprovalByDecision id,none,context.ttlSeconds⟩ := by
    rw [key]
    exact Option.map_eq_some_iff.mpr ⟨(id,row),stored,rfl⟩
  refine ⟨⟨⟨id,row,store.getApprovalByDecision id,none,context.ttlSeconds⟩,?_,rfl⟩,
    fun failure => ⟨⟨id,row,store.getApprovalByDecision id,none,context.ttlSeconds⟩,?_,rfl⟩⟩
  · rw [evaluateGate_replayed opens found]
  · simp only [resolveFailSafeGate,opens,found]

theorem evaluateGate_cases {store next : Store} {call : GateCall}
    {outcome : Except Fault GateEvaluationResult}
    (evaluated : service.evaluateGate store call = (next,outcome)) :
    next = store ∨
    ∃ context draft approvalId, Evaluates service store call context draft ∧
      Persisted service store next context call draft approvalId := by
  unfold evaluateGate at evaluated
  simp only [getExistingGateResultWithLock_eq] at evaluated
  split at evaluated
  · exact Or.inl (Prod.mk.inj evaluated).1.symm
  · next context built =>
    split at evaluated
    · exact Or.inl (Prod.mk.inj evaluated).1.symm
    · next absent =>
      split at evaluated
      · exact Or.inl (Prod.mk.inj evaluated).1.symm
      · next draft drafted =>
        rcases persistDecision_cases evaluated with ⟨rfl,_⟩ | ⟨approvalId,_,spec,_,_⟩
        · exact Or.inl rfl
        · exact Or.inr ⟨context,draft,approvalId,
            ⟨built,getExistingGateResult_eq_none.mp absent,drafted⟩,spec⟩

theorem resolveFailSafeGate_cases {store next : Store} {call : GateCall} {failure : FailSafe}
    {outcome : Except Fault GateEvaluationResult}
    (resolved : service.resolveFailSafeGate store call failure = (next,outcome)) :
    next = store ∨
    ∃ context draft approvalId,
      service.buildGateEvaluationContext store.policy call.source call.gateInput = .ok context ∧
      store.decisions.lookup (call.source,context.idempotencyKey) = none ∧
      service.draftFailSafe context call failure = .ok draft ∧
      Persisted service store next context call draft approvalId := by
  unfold resolveFailSafeGate at resolved
  split at resolved
  · exact Or.inl (Prod.mk.inj resolved).1.symm
  · next context built =>
    split at resolved
    · exact Or.inl (Prod.mk.inj resolved).1.symm
    · next absent =>
      split at resolved
      · exact Or.inl (Prod.mk.inj resolved).1.symm
      · next draft drafted =>
        rcases persistDecision_cases resolved with ⟨rfl,_⟩ | ⟨approvalId,_,spec,_,_⟩
        · exact Or.inl rfl
        · exact Or.inr ⟨context,draft,approvalId,built,
            getExistingGateResult_eq_none.mp absent,drafted,spec⟩

/-- The draft is stored under the request's own key. -/
theorem Evaluates.idempotency {store : Store} {call : GateCall} {context : GateEvaluationContext}
    {draft : GateDraft} (evaluates : Evaluates service store call context draft) :
    draft.decision.idempotency = (call.source,context.idempotencyKey) := by
  obtain ⟨_,_,_,_,rfl⟩ := draftGateDecision_eq_ok evaluates.drafted
  rfl

structure Opens (service : Service) (store : Store) (call : GateCall)
    (context : GateEvaluationContext) (monthlyDelta : Int) : Prop where
  built : service.buildGateEvaluationContext store.policy call.source call.gateInput = .ok context
  unstored : store.decisions.lookup (call.source,context.idempotencyKey) = none
  comparable : comparableAmount call.gateInput.estimatedMonthlyDeltaUsd 4 = .ok monthlyDelta

theorem Opens.evaluates {store : Store} {call : GateCall} {context : GateEvaluationContext}
    {monthlyDelta : Int} (opens : Opens service store call context monthlyDelta) :
    ∃ hourlyDelta, Evaluates service store call context (service.draftFrom context call
      (service.readGate store call.gateInput call.now) monthlyDelta hourlyDelta) := by
  obtain ⟨fingerprint,digested,_⟩ := buildGateEvaluationContext_eq_ok opens.built
  obtain ⟨_,_,afterMonthly⟩ := bind_eq_ok.mp digested
  obtain ⟨hourly,quantized,_⟩ := bind_eq_ok.mp afterMonthly
  refine ⟨hourly,opens.built,opens.unstored,?_⟩
  refine bind_eq_ok.mpr ⟨monthlyDelta,opens.comparable,?_⟩
  exact bind_eq_ok.mpr ⟨hourly,require_eq_ok.mpr (require_eq_ok.mp quantized),rfl⟩

theorem Evaluates.opens {store : Store} {call : GateCall} {context : GateEvaluationContext}
    {draft : GateDraft} (evaluates : Evaluates service store call context draft) :
    ∃ monthlyDelta hourlyDelta, Opens service store call context monthlyDelta ∧
      draft = service.draftFrom context call (service.readGate store call.gateInput call.now)
        monthlyDelta hourlyDelta := by
  obtain ⟨monthly,hourly,comparable,_,rfl⟩ := draftGateDecision_eq_ok evaluates.drafted
  exact ⟨monthly,hourly,⟨evaluates.built,evaluates.unstored,comparable⟩,rfl⟩

theorem Opens.unique {store : Store} {call : GateCall} {context context' : GateEvaluationContext}
    {monthlyDelta monthlyDelta' : Int} (opens : Opens service store call context monthlyDelta)
    (opens' : Opens service store call context' monthlyDelta') :
    context = context' ∧ monthlyDelta = monthlyDelta' :=
  ⟨Except.ok.inj (opens.built.symm.trans opens'.built),
    Except.ok.inj (opens.comparable.symm.trans opens'.comparable)⟩

structure FreshRun (store : Store) (calls : List GateCall) : Prop where
  fresh : ∀ call ∈ calls, FreshIds store call
  decisions : (calls.map (·.decisionId)).Nodup
  approvals : (calls.map (·.approvalId)).Nodup

theorem FreshRun.perm {store : Store} {calls calls' : List GateCall} (run : FreshRun store calls)
    (same : calls.Perm calls') : FreshRun store calls' :=
  ⟨fun call member => run.fresh call (same.mem_iff.mpr member),
    (same.map _).nodup_iff.mp run.decisions,(same.map _).nodup_iff.mp run.approvals⟩

theorem FreshRun.step {store : Store} {call : GateCall} {calls : List GateCall}
    (run : FreshRun store (call :: calls)) :
    FreshRun (service.evaluateGate store call).1 calls := by
  obtain ⟨fresh,decisions,approvals⟩ := run
  simp only [List.map_cons,List.nodup_cons] at decisions approvals
  refine ⟨?_,decisions.2,approvals.2⟩
  intro other member
  have before := fresh other (List.mem_cons_of_mem _ member)
  rcases evaluateGate_cases (Prod.mk.eta (p := service.evaluateGate store call)).symm with same | ⟨_,_,_,_,spec⟩
  · rw [same]
    exact before
  · refine spec.fresh before ?_ ?_
    · intro same
      exact decisions.1 (List.mem_map.mpr ⟨other,member,same⟩)
    · intro same
      exact approvals.1 (List.mem_map.mpr ⟨other,member,same⟩)

theorem createApproval_returns (service : Service) (store : Store) (context : GateEvaluationContext) {call : GateCall}
    (decision : Decision) (request : store.approvals.lookup call.decisionId = none)
    (approval : store.approvals.find call.approvalId = none) :
    ∃ result, service.createApproval store context call decision = .ok result := by
  unfold createApproval
  split
  · obtain ⟨approvals,inserted⟩ := UniqueTable.insert_exists
      { decisionId := call.decisionId
        requestedByUserId := some call.actorId
        routingRuleId := routingRuleId
          (service.resolveApprovalRoutingTrace context.policy decision)
        routingTrace := service.resolveApprovalRoutingTrace context.policy decision
        expiresAt := call.now + context.ttlSeconds * Calendar.microsPerSecond }
      approval request
    exact ⟨_,bind_eq_ok.mpr ⟨approvals,require_eq_ok.mpr inserted,rfl⟩⟩
  · exact ⟨_,rfl⟩

theorem persistDecision_returns {store next : Store} {context : GateEvaluationContext}
    {call : GateCall} {draft : GateDraft} {approvalId : Option Uuid}
    (body : service.persistBody store context call draft (fun flushed =>
      service.reserveCredits flushed call draft) = .ok (next,approvalId)) :
    ∃ result, service.persistDecisionWithOptionalApproval store context call draft =
      (next,.ok result) ∧ ∃ payload, result.decision = draft.decision.withPayload payload := by
  obtain ⟨payload,finds⟩ := (persistBody_eq_ok (fun _ _ _ => reserveCredits_frame) body).inserted
  have found := finds call.decisionId
  rw [if_pos rfl] at found
  unfold persistDecisionWithOptionalApproval
  rw [body]
  dsimp only
  rw [found]
  exact ⟨_,rfl,payload,rfl⟩

theorem persistDecision_stores (service : Service) {store : Store} (context : GateEvaluationContext)
    {call : GateCall} {draft : GateDraft} (fresh : FreshIds store call)
    (unstored : store.decisions.lookup draft.decision.idempotency = none)
    (free : draft.decision.reservedCreditUsd ≤ 0) :
    ∃ next result approvalId,
      service.persistDecisionWithOptionalApproval store context call draft = (next,.ok result) ∧
      (∃ payload, result.decision = draft.decision.withPayload payload) ∧
      Persisted service store next context call draft approvalId := by
  obtain ⟨decisions,inserted⟩ := UniqueTable.insert_exists draft.decision fresh.decision unstored
  have undrawn : service.reserveCredits { store with decisions } call draft =
      .ok ({ store with decisions },[]) := by
    unfold reserveCredits
    rw [if_neg (by omega)]
  obtain ⟨⟨approved,approvalId⟩,created⟩ := createApproval_returns service { store with decisions }
    context draft.decision fresh.request fresh.approval
  have body : service.persistBody store context call draft (fun flushed =>
      service.reserveCredits flushed call draft) =
      .ok (service.appendDecisionLedgerEntry approved call.decisionId approvalId,approvalId) := by
    refine bind_eq_ok.mpr ⟨decisions,require_eq_ok.mpr inserted,?_⟩
    refine bind_eq_ok.mpr ⟨({ store with decisions },[]),undrawn,?_⟩
    exact bind_eq_ok.mpr ⟨(approved,approvalId),created,rfl⟩
  obtain ⟨result,returned,payload,decided⟩ := persistDecision_returns body
  exact ⟨_,result,approvalId,returned,⟨payload,decided⟩,
    persistBody_eq_ok (fun _ _ _ => reserveCredits_frame) body⟩

theorem Evaluates.returns {store : Store} {call : GateCall} {context : GateEvaluationContext}
    {draft : GateDraft} (evaluates : Evaluates service store call context draft)
    (fresh : FreshIds store call) (free : draft.decision.reservedCreditUsd ≤ 0) :
    ∃ next result approvalId, service.evaluateGate store call = (next,.ok result) ∧
      (∃ payload, result.decision = draft.decision.withPayload payload) ∧
      Persisted service store next context call draft approvalId := by
  have unstored := evaluates.unstored
  rw [← evaluates.idempotency] at unstored
  rw [evaluates.persists]
  exact persistDecision_stores service context fresh unstored free

end Service

end Valdrics.Enforcement

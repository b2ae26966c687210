import Valdrics.CreditBalance
import Valdrics.GatePersistence
import Valdrics.EnforcementReconciliation
import Valdrics.Interleaving

/-! Gates as transactions over one committed store. A gate holds the policy row from its
lock to its commit, and the grant rows it locked; every query sees what is committed when
it runs. Reconciliations, sweeps and denials lock each row they read, so each takes
effect at its commit, and they do not touch the policy row. -/
namespace Valdrics.Enforcement

structure SharedState where
  committed : Store
  clock : Nat

/-- The rows that a candidate query returned `FOR UPDATE`. -/
structure LockedRows (pool : CreditPoolType) where
  rows : List (Uuid × CreditGrant)
  distinct : (rows.map Prod.fst).Nodup
  pooled : ∀ entry ∈ rows, entry.2.poolType = pool

/-- What the queries after the second lookup have returned so far, in their order. -/
structure Readings where
  reservedTotals : Int × Int
  tenantTier : Option PricingTier := none
  budget : Option (Option BudgetAllocation) := none
  headroomSums : List Int := []

inductive Phase where
  | idle
  | waiting (call : GateCall) (context : GateEvaluationContext)
  | locked (call : GateCall) (context : GateEvaluationContext)
  | timed (call : GateCall) (context : GateEvaluationContext)
  | reading (call : GateCall) (context : GateEvaluationContext) (readings : Readings)
  | inserted (call : GateCall) (context : GateEvaluationContext) (draft : GateDraft)
  | drawing (call : GateCall) (context : GateEvaluationContext) (draft : GateDraft)
      (reserved : LockedRows .reserved)
  | writing (call : GateCall) (context : GateEvaluationContext) (draft : GateDraft)
      (reserved : LockedRows .reserved) (emergency : LockedRows .emergency)

namespace Phase

/-- The `UPDATE` of the policy row is not yet committed or rolled back. -/
def holdsLock : Phase → Bool
  | .idle | .waiting _ _ => false
  | _ => true

def lockedGrants : Phase → List (Uuid × CreditGrant)
  | .drawing _ _ _ reserved => reserved.rows
  | .writing _ _ _ reserved emergency => reserved.rows ++ emergency.rows
  | _ => []

end Phase

inductive GateEvent where
  | tick
  | evaluate (call : GateCall)
  | acquireLock
  | reread
  | query
  | insert
  | lockGrants
  | commit
  | rollback
  | reconcileReservation (call : ReconcileCall)
  | reconcileOverdueReservations (call : OverdueCall)
  | denyRequest (call : ReviewCall)

def Store.lockCandidates (store : Store) (pool : CreditPoolType) (scope : String) (target : Int)
    (now : Nat) : LockedRows pool :=
  if target ≤ 0 then ⟨[],List.nodup_nil,by simp⟩
  else ⟨store.candidateGrants pool scope now,store.candidateGrants_distinct pool scope now,
    candidateGrants_pool⟩

def GateDraft.draws (draft : GateDraft) : Bool :=
  draft.decision.reservationActive && 0 < draft.decision.reservedCreditUsd

def GateDraft.drawLocked (draft : GateDraft) (decisionId : Uuid)
    (reservedRows : LockedRows .reserved) (emergencyRows : LockedRows .emergency)
    (store : Store) : Except Fault (Store × List CreditAllocationEntry) :=
  if draft.draws then do
    let (afterReserved,reserved) ← store.reserveFromRows decisionId .reserved reservedRows.rows
      draft.reserveReservedCredit
    let (afterEmergency,emergency) ← afterReserved.reserveFromRows decisionId .emergency
      emergencyRows.rows draft.reserveEmergencyCredit
    return (afterEmergency,reserved ++ emergency)
  else .ok (store,[])

namespace Service

def poolTarget (draft : GateDraft) (amount : Int) : Int := if draft.draws then amount else 0

/-- The steps of one party. The clock is read after the second lookup, and once more for
the row's `created_at`; a rollback can end any phase. -/
inductive GateStep (service : Service) :
    SharedState → Phase → GateEvent → SharedState → Phase → Prop where
  | tick {shared : SharedState} {phase : Phase} {clock : Nat} (later : shared.clock ≤ clock) :
      GateStep service shared phase .tick ⟨shared.committed,clock⟩ phase
  | refuse {shared : SharedState} {call : GateCall} {fault : Fault}
      (failed : service.buildGateEvaluationContext shared.committed.policy call.source
        call.gateInput = .error fault) :
      GateStep service shared .idle (.evaluate call) shared .idle
  | replay {shared : SharedState} {call : GateCall} {context : GateEvaluationContext}
      {existing : GateEvaluationResult}
      (built : service.buildGateEvaluationContext shared.committed.policy call.source
        call.gateInput = .ok context)
      (stored : shared.committed.getExistingGateResult call.source context.idempotencyKey
        context.ttlSeconds = some existing) :
      GateStep service shared .idle (.evaluate call) shared .idle
  | begin {shared : SharedState} {call : GateCall} {context : GateEvaluationContext}
      (built : service.buildGateEvaluationContext shared.committed.policy call.source
        call.gateInput = .ok context)
      (unstored : shared.committed.getExistingGateResult call.source context.idempotencyKey
        context.ttlSeconds = none) :
      GateStep service shared .idle (.evaluate call) shared (.waiting call context)
  | acquireLock {shared : SharedState} {call : GateCall} {context : GateEvaluationContext} :
      GateStep service shared (.waiting call context) .acquireLock shared (.locked call context)
  | replayLocked {shared : SharedState} {call : GateCall} {context : GateEvaluationContext}
      {existing : GateEvaluationResult}
      (stored : shared.committed.getExistingGateResult call.source context.idempotencyKey
        context.ttlSeconds = some existing) :
      GateStep service shared (.locked call context) .reread shared .idle
  | reread {shared : SharedState} {call : GateCall} {context : GateEvaluationContext}
      (unstored : shared.committed.getExistingGateResult call.source context.idempotencyKey
        context.ttlSeconds = none) :
      GateStep service shared (.locked call context) .reread shared
        (.timed { call with now := shared.clock } context)
  | readTotals {shared : SharedState} {call : GateCall} {context : GateEvaluationContext} :
      GateStep service shared (.timed call context) .query shared
        (.reading call context
          { reservedTotals := shared.committed.getReservedTotals (monthBounds call.now) })
  | readTier {shared : SharedState} {call : GateCall} {context : GateEvaluationContext}
      {readings : Readings} (unread : readings.tenantTier = none) :
      GateStep service shared (.reading call context readings) .query shared
        (.reading call context { readings with tenantTier := some shared.committed.tenantTier })
  | readBudget {shared : SharedState} {call : GateCall} {context : GateEvaluationContext}
      {readings : Readings} (tiered : readings.tenantTier ≠ none)
      (unread : readings.budget = none) :
      GateStep service shared (.reading call context readings) .query shared
        (.reading call context { readings with
          budget := some (shared.committed.getEffectiveBudget
            (service.normalizeScope call.gateInput.projectId)) })
  | readHeadroomSum {shared : SharedState} {call : GateCall} {context : GateEvaluationContext}
      {readings : Readings} {query : Store → Int} (budgeted : readings.budget ≠ none)
      (due : (Store.headroomQueries (service.normalizeScope call.gateInput.projectId)
        call.now)[readings.headroomSums.length]? = some query) :
      GateStep service shared (.reading call context readings) .query shared
        (.reading call context { readings with
          headroomSums := readings.headroomSums ++ [query shared.committed] })
  | insert {shared : SharedState} {call : GateCall} {context : GateEvaluationContext}
      {readings : Readings} {tenantTier : PricingTier} {budget : Option BudgetAllocation}
      {reserved emergency decisions mapped monthlyDelta : Int} {hourlyDelta : Option Int}
      (tier : readings.tenantTier = some tenantTier) (funds : readings.budget = some budget)
      (sums : readings.headroomSums = [reserved,emergency,decisions,mapped])
      (monthly : comparableAmount call.gateInput.estimatedMonthlyDeltaUsd 4 = .ok monthlyDelta)
      (hourly : Service.hourlyDelta call.gateInput = .ok hourlyDelta) :
      GateStep service shared (.reading call context readings) .insert shared
        (.inserted { call with createdAt := shared.clock } context
          (service.draftFrom context { call with createdAt := shared.clock }
            (service.gateReads context.policy readings.reservedTotals tenantTier budget
              (Store.creditHeadrooms reserved emergency decisions mapped))
            monthlyDelta hourlyDelta))
  | lockReserved {shared : SharedState} {call : GateCall} {context : GateEvaluationContext}
      {draft : GateDraft} :
      GateStep service shared (.inserted call context draft) .lockGrants shared
        (.drawing call context draft (shared.committed.lockCandidates .reserved
          (service.normalizeScope call.gateInput.projectId)
          (poolTarget draft draft.reserveReservedCredit) call.now))
  | lockEmergency {shared : SharedState} {call : GateCall} {context : GateEvaluationContext}
      {draft : GateDraft} {reserved : LockedRows .reserved} :
      GateStep service shared (.drawing call context draft reserved) .lockGrants shared
        (.writing call context draft reserved (shared.committed.lockCandidates .emergency
          (service.normalizeScope call.gateInput.projectId)
          (poolTarget draft draft.reserveEmergencyCredit) call.now))
  | commit {shared : SharedState} {call : GateCall} {context : GateEvaluationContext}
      {draft : GateDraft} {reserved : LockedRows .reserved} {emergency : LockedRows .emergency}
      {next : Store} {approvalId : Option Uuid}
      (written : service.persistBody shared.committed context call draft
        (draft.drawLocked call.decisionId reserved emergency) = .ok (next,approvalId)) :
      GateStep service shared (.writing call context draft reserved emergency) .commit
        ⟨next,shared.clock⟩ .idle
  /-- A unique key filled by another transaction: after the rollback the lookup by key
  answers, or the error is raised again. -/
  | fallBack {shared : SharedState} {call : GateCall} {context : GateEvaluationContext}
      {draft : GateDraft} {reserved : LockedRows .reserved} {emergency : LockedRows .emergency}
      (conflict : service.persistBody shared.committed context call draft
        (draft.drawLocked call.decisionId reserved emergency) = .error .integrityError) :
      GateStep service shared (.writing call context draft reserved emergency) .commit shared
        .idle
  | rollback {shared : SharedState} {phase : Phase} :
      GateStep service shared phase .rollback shared .idle
  | reconcileReservation {shared : SharedState} {call : ReconcileCall} :
      GateStep service shared .idle (.reconcileReservation call)
        ⟨(service.reconcileReservation shared.committed call).1,shared.clock⟩ .idle
  | reconcileOverdueReservations {shared : SharedState} {call : OverdueCall} :
      GateStep service shared .idle (.reconcileOverdueReservations call)
        ⟨(service.reconcileOverdueReservations shared.committed call).1,shared.clock⟩ .idle
  | denyRequest {shared : SharedState} {call : ReviewCall} :
      GateStep service shared .idle (.denyRequest call)
        ⟨(service.denyRequest shared.committed call).1,shared.clock⟩ .idle

/-- Row locks: one party at a time holds the policy row, and nobody changes a grant row
that another party locked. -/
def gateProtocol (service : Service) : Protocol SharedState Phase GateEvent where
  step := service.GateStep
  permits other before after next :=
    ¬(other.holdsLock = true ∧ next.holdsLock = true) ∧
      ∀ entry ∈ other.lockedGrants,
        after.committed.grants.find entry.1 = before.committed.grants.find entry.1

end Service

section Alone

variable {service : Service}

namespace Store

theorem reserveOn_candidates {store next : Store} {decisionId grantId : Uuid} {amount : Int}
    {positive : 0 < amount} {grant : CreditGrant} (scope : String) (now : Nat)
    (found : store.grants.find grantId = some grant) (pool : grant.poolType = .reserved)
    (drawn : store.reserveOn decisionId grantId .reserved amount positive = .ok next) :
    next.candidateGrants .emergency scope now = store.candidateGrants .emergency scope now := by
  obtain ⟨_,_,_,_,_,_,_,rfl⟩ := reserveOn_eq_ok drawn
  have same := Table.filter_rows_update (fun grant : CreditGrant => grant.draw amount)
    (fun entry => entry.2.usable .emergency scope now) found
    (by simp [CreditGrant.usable,pool]) (by simp [CreditGrant.usable,CreditGrant.draw,pool])
  simp only [candidateGrants,same]

theorem reserveLoop_candidates {decisionId : Uuid} {grants : List (Uuid × CreditGrant)}
    {remaining left : Int} {store last : Store} {entries : List CreditAllocationEntry}
    (scope : String) (now : Nat)
    (listed : ∀ entry ∈ grants, store.grants.find entry.1 = some entry.2)
    (distinct : (grants.map Prod.fst).Nodup)
    (pooled : ∀ entry ∈ grants, entry.2.poolType = .reserved)
    (looped : reserveLoop decisionId .reserved grants remaining store = .ok (last,entries,left)) :
    last.candidateGrants .emergency scope now = store.candidateGrants .emergency scope now := by
  induction grants generalizing remaining store entries with
  | nil =>
    obtain ⟨rfl,_⟩ : store = last ∧ _ := by simpa [reserveLoop] using looped
    rfl
  | cons entry rest ih =>
    have unique := List.nodup_cons.mp distinct
    have pooledRest : ∀ e ∈ rest, e.2.poolType = .reserved := fun e member =>
      pooled e (List.mem_cons_of_mem _ member)
    rcases reserveLoop_cons looped with ⟨_,rfl,_⟩ | ⟨_,_,skipped⟩ | ⟨_,_,_,next,_,drawn,continued,_⟩
    · rfl
    · exact ih (fun e member => listed e (List.mem_cons_of_mem _ member)) unique.2 pooledRest
        skipped
    · have stillListed : ∀ e ∈ rest, next.grants.find e.1 = some e.2 := by
        intro e member
        have apart : e.1 ≠ entry.1 := by
          intro same
          exact unique.1 (List.mem_map.mpr ⟨e,member,same⟩)
        rw [reserveOn_grants apart drawn]
        exact listed e (List.mem_cons_of_mem _ member)
      exact (ih stillListed unique.2 pooledRest continued).trans
        (reserveOn_candidates scope now (listed entry List.mem_cons_self)
          (pooled entry List.mem_cons_self) drawn)

theorem reserveFromRows_lockCandidates (store flushed : Store) (decisionId : Uuid)
    (pool : CreditPoolType) (scope : String) (target : Int) (now : Nat) :
    flushed.reserveFromRows decisionId pool (store.lockCandidates pool scope target now).rows
        target =
      flushed.reserveFromRows decisionId pool (store.candidateGrants pool scope now) target := by
  unfold reserveFromRows lockCandidates
  by_cases nothing : target ≤ 0 <;> simp [nothing]

end Store

theorem GateDraft.drawLocked_alone {store next : Store} {call : GateCall} {draft : GateDraft}
    {entries : List CreditAllocationEntry} (decisions)
    (drawn : service.reserveCredits { store with decisions } call draft = .ok (next,entries)) :
    draft.drawLocked call.decisionId
      (store.lockCandidates .reserved (service.normalizeScope call.gateInput.projectId)
        (Service.poolTarget draft draft.reserveReservedCredit) call.now)
      (store.lockCandidates .emergency (service.normalizeScope call.gateInput.projectId)
        (Service.poolTarget draft draft.reserveEmergencyCredit) call.now)
      { store with decisions } = .ok (next,entries) := by
  unfold Service.reserveCredits at drawn
  split at drawn
  · next draws =>
    have draws : draft.draws = true := by simpa [GateDraft.draws] using draws
    obtain ⟨middle,first,second,one,two,rfl⟩ := Store.reserveCreditForDecision_eq_ok drawn
    have kept : middle.candidateGrants .emergency
        (service.normalizeScope call.gateInput.projectId) call.now =
        ({ store with decisions } : Store).candidateGrants .emergency
          (service.normalizeScope call.gateInput.projectId) call.now := by
      rcases Store.reserveFromRows_eq_ok one with ⟨_,rfl,_⟩ | ⟨_,_,_,looped⟩
      · rfl
      · exact Store.reserveLoop_candidates _ _ Store.candidateGrants_listed
          (Store.candidateGrants_distinct _ _ _ _) Store.candidateGrants_pool looped
    unfold Store.reserveCreditFromGrants at one two
    rw [kept] at two
    change Store.reserveFromRows _ _ _ (store.candidateGrants _ _ _) _ = _ at one two
    simp only [drawLocked,draws,if_true,Service.poolTarget,Store.reserveFromRows_lockCandidates]
    exact bind_eq_ok.mpr ⟨(middle,first),one,bind_eq_ok.mpr ⟨(next,second),two,rfl⟩⟩
  · next idle =>
    have idle : draft.draws = false := by simpa [GateDraft.draws] using idle
    simpa [drawLocked,idle] using drawn

namespace Service

/-- The transaction body depends on its callback at the flushed rows only. -/
theorem persistBody_congr {store next : Store} {context : GateEvaluationContext}
    {call : GateCall} {draft : GateDraft} {approvalId : Option Uuid}
    {reserve reserve' : ReserveCredits}
    (same : ∀ decisions drawn entries, reserve { store with decisions } = .ok (drawn,entries) →
      reserve' { store with decisions } = .ok (drawn,entries))
    (written : service.persistBody store context call draft reserve = .ok (next,approvalId)) :
    service.persistBody store context call draft reserve' = .ok (next,approvalId) := by
  obtain ⟨decisions,inserted,afterInsert⟩ := bind_eq_ok.mp written
  obtain ⟨⟨drawn,entries⟩,credit,afterCredit⟩ := bind_eq_ok.mp afterInsert
  refine bind_eq_ok.mpr ⟨decisions,inserted,?_⟩
  exact bind_eq_ok.mpr ⟨(drawn,entries),same decisions drawn entries credit,afterCredit⟩

theorem persistDecision_written {store next : Store} {context : GateEvaluationContext}
    {call : GateCall} {draft : GateDraft} {result : GateEvaluationResult}
    (persisted : service.persistDecisionWithOptionalApproval store context call draft =
      (next,.ok result))
    (unstored : store.getExistingGateResult call.source context.idempotencyKey
      context.ttlSeconds = none) :
    ∃ approvalId, service.persistBody store context call draft (fun flushed =>
      service.reserveCredits flushed call draft) = .ok (next,approvalId) := by
  unfold persistDecisionWithOptionalApproval at persisted
  rw [unstored] at persisted
  split at persisted
  · next last approvalId written =>
    split at persisted
    · simp at persisted
    · obtain ⟨rfl,_⟩ := Prod.mk.inj persisted
      exact ⟨approvalId,written⟩
  · simp at persisted
  · simp at persisted

theorem GateStep.solo {before after : SharedState} {phase phase' : Phase} {event : GateEvent}
    (step : service.GateStep before phase event after phase') :
    Interleaving.Solo service.gateProtocol (before,phase) event (after,phase') := step

theorem evaluateGate_alone {store next : Store} {call : GateCall} {result : GateEvaluationResult}
    (clock : call.createdAt = call.now)
    (evaluated : service.evaluateGate store call = (next,.ok result)) :
    ∃ events, Trace (Interleaving.Solo service.gateProtocol) (⟨store,call.now⟩,.idle) events
      (⟨next,call.now⟩,.idle) := by
  unfold evaluateGate at evaluated
  simp only [getExistingGateResultWithLock_eq] at evaluated
  split at evaluated
  · simp at evaluated
  · next context built =>
    split at evaluated
    · next existing stored =>
      obtain ⟨rfl,_⟩ := Prod.mk.inj evaluated
      exact ⟨[.evaluate call],.go (GateStep.solo (.replay built stored)) .stop⟩
    · next unstored =>
      split at evaluated
      · simp at evaluated
      · next draft drafted =>
        obtain ⟨monthly,hourly,comparable,quantized,rfl⟩ := draftGateDecision_eq_ok drafted
        obtain ⟨approvalId,written⟩ := persistDecision_written evaluated unstored
        have locked := persistBody_congr (fun decisions _ _ drawn =>
          GateDraft.drawLocked_alone decisions drawn) written
        have policy : context.policy = store.policy := by
          obtain ⟨_,_,rfl⟩ := buildGateEvaluationContext_eq_ok built
          rfl
        -- With one clock for both of its times, the stamped call is the call.
        have stamped : ({ call with createdAt := call.now } : GateCall) = call := by
          cases call
          simp only at clock
          rw [clock]
        have reads : service.gateReads context.policy (store.getReservedTotals (monthBounds call.now))
            store.tenantTier (store.getEffectiveBudget
              (service.normalizeScope call.gateInput.projectId))
            (store.getCreditHeadrooms (service.normalizeScope call.gateInput.projectId) call.now) =
            service.readGate store call.gateInput call.now := by
          rw [policy]
          rfl
        rw [← reads, ← stamped] at locked
        refine ⟨[.evaluate call,.acquireLock,.reread,.query,.query,.query,.query,.query,.query,
          .query,.insert,.lockGrants,.lockGrants,.commit],?_⟩
        refine .go (GateStep.solo (.begin built unstored)) ?_
        refine .go (GateStep.solo .acquireLock) ?_
        refine .go (GateStep.solo (.reread unstored)) ?_
        refine .go (GateStep.solo .readTotals) ?_
        refine .go (GateStep.solo (.readTier rfl)) ?_
        refine .go (GateStep.solo (.readBudget (by simp) rfl)) ?_
        refine .go (GateStep.solo (.readHeadroomSum (by simp) rfl)) ?_
        refine .go (GateStep.solo (.readHeadroomSum (by simp) rfl)) ?_
        refine .go (GateStep.solo (.readHeadroomSum (by simp) rfl)) ?_
        refine .go (GateStep.solo (.readHeadroomSum (by simp) rfl)) ?_
        refine .go (GateStep.solo (.insert rfl rfl rfl comparable
          (require_eq_ok.mpr quantized))) ?_
        refine .go (GateStep.solo .lockReserved) ?_
        refine .go (GateStep.solo .lockEmergency) ?_
        exact .go (GateStep.solo (.commit locked)) .stop

end Service

end Alone

end Valdrics.Enforcement

import Valdrics.EnforcementOperations
import Valdrics.GatePersistence
import Valdrics.SettlementSteps

/-! The ledger mirrors the decisions: the newest snapshot of a decision is one of its
row as it is. An operation rewrites a decision and then appends; the consumption of a
token rewrites and does not. -/
namespace Valdrics.Enforcement

structure DecisionLedger.Mirrors (entry : DecisionLedger) (service : Service) (row : Decision) :
    Prop where
  reasonCodes : entry.reasonCodes = row.reasonCodes
  reservedTotalUsd : entry.reservedTotalUsd = row.reservedAllocationUsd + row.reservedCreditUsd
  responsePayloadSha256 : entry.responsePayloadSha256 = service.responseDigest row.responsePayload

namespace Store

def latestEntry (store : Store) (decisionId : Uuid) : Option DecisionLedger :=
  (store.ledger.filter fun entry => entry.decisionId = decisionId).getLast?

def MirrorsDecision (store : Store) (service : Service) (id : Uuid) : Prop :=
  ∀ row, store.decisions.find id = some row →
    ∃ entry, store.latestEntry id = some entry ∧ entry.Mirrors service row

def Mirrored (store : Store) (service : Service) : Prop := ∀ id, store.MirrorsDecision service id

def MirroredBut (store : Store) (service : Service) (decisionId : Uuid) : Prop :=
  ∀ id, id ≠ decisionId → store.MirrorsDecision service id

theorem latestEntry_congr {store next : Store} (ledger : next.ledger = store.ledger) (id : Uuid) :
    next.latestEntry id = store.latestEntry id := by
  simp [latestEntry,ledger]

theorem latestEntry_append (store : Store) (entry : DecisionLedger) (id : Uuid) :
    { store with ledger := store.ledger ++ [entry] }.latestEntry id =
      if entry.decisionId = id then some entry else store.latestEntry id := by
  by_cases same : entry.decisionId = id <;> simp [latestEntry,same]

end Store

section Rewriting

variable {service : Service} {store next : Store} {decisionId : Uuid}

theorem Store.MirrorsDecision.congr {id : Uuid} (mirrors : store.MirrorsDecision service id)
    (ledger : next.ledger = store.ledger)
    (decision : next.decisions.find id = store.decisions.find id) :
    next.MirrorsDecision service id := by
  intro row found
  rw [Store.latestEntry_congr ledger]
  apply mirrors row
  rw [← decision]
  exact found

theorem Store.Mirrored.congr (mirrored : store.Mirrored service)
    (ledger : next.ledger = store.ledger) (decisions : next.decisions = store.decisions) :
    next.Mirrored service := by
  intro id
  apply (mirrored id).congr ledger
  rw [decisions]

theorem Store.Mirrored.but (mirrored : store.Mirrored service) (decisionId : Uuid) :
    store.MirroredBut service decisionId := fun id _ => mirrored id

theorem Store.MirroredBut.congr (mirrored : store.MirroredBut service decisionId)
    (ledger : next.ledger = store.ledger) (decisions : next.decisions = store.decisions) :
    next.MirroredBut service decisionId := by
  intro id apart
  apply (mirrored id apart).congr ledger
  rw [decisions]

theorem Store.MirroredBut.updateDecision (mirrored : store.MirroredBut service decisionId)
    (f : Decision → Decision) (keeps : ∀ row, (f row).idempotency = row.idempotency) :
    (store.updateDecision decisionId f keeps).MirroredBut service decisionId := by
  intro id apart
  exact Store.MirrorsDecision.congr (mirrored id apart) rfl (Table.find_update_other f apart)

theorem Store.MirroredBut.credit (mirrored : store.MirroredBut service decisionId)
    (frame : Store.SameButCredit store next) : next.MirroredBut service decisionId :=
  mirrored.congr frame.ledger frame.decisions

theorem Store.MirroredBut.append (mirrored : store.MirroredBut service decisionId)
    (approvalId : Option Uuid) :
    (service.appendDecisionLedgerEntry store decisionId approvalId).Mirrored service := by
  intro id row found
  unfold Service.appendDecisionLedgerEntry at found ⊢
  cases stored : store.decisions.find decisionId with
  | none =>
    simp only [stored] at found ⊢
    apply mirrored id _ row found
    intro same
    subst same
    simp [stored] at found
  | some decision =>
    simp only [stored] at found ⊢
    rw [Store.latestEntry_append]
    by_cases same : decisionId = id
    · subst same
      obtain rfl := Option.some.inj (stored.symm.trans found)
      exact ⟨_,if_pos rfl,rfl,rfl,rfl⟩
    · obtain ⟨entry,latest,mirrors⟩ := mirrored id (Ne.symm same) row found
      exact ⟨entry,(if_neg same).trans latest,mirrors⟩

end Rewriting

namespace Service

variable {service : Service} {store next : Store}

theorem recordAllocations_mirrors {decisionId : Uuid} (entries : List CreditAllocationEntry)
    (mirrored : store.MirroredBut service decisionId) :
    (recordAllocations store decisionId entries).MirroredBut service decisionId := by
  unfold recordAllocations
  split
  · exact mirrored
  · exact mirrored.updateDecision _ _

theorem persistBody_mirrored {context : GateEvaluationContext} {call : GateCall}
    {draft : GateDraft} {approvalId : Option Uuid} (mirrored : store.Mirrored service)
    (done : service.persistBody store context call draft (fun flushed =>
      service.reserveCredits flushed call draft) = .ok (next,approvalId)) :
    next.Mirrored service := by
  obtain ⟨decisions,first,afterDecision⟩ := bind_eq_ok.mp done
  obtain ⟨⟨reserved,entries⟩,credit,afterCredit⟩ := bind_eq_ok.mp afterDecision
  obtain ⟨⟨approved,approvalId'⟩,approval,result⟩ := bind_eq_ok.mp afterCredit
  obtain ⟨rfl,_⟩ := Prod.mk.inj (Except.ok.inj result)
  have flushed : ({ store with decisions } : Store).MirroredBut service call.decisionId := by
    intro id apart
    exact Store.MirrorsDecision.congr (mirrored id) rfl
      ((UniqueTable.find_insert (require_eq_ok.mp first)).trans (if_neg apart))
  have recorded := recordAllocations_mirrors entries (flushed.credit (reserveCredits_frame credit))
  obtain ⟨approvals,rfl,_⟩ := createApproval_eq_ok approval
  apply Store.MirroredBut.append
  exact Store.MirroredBut.congr recorded rfl rfl

theorem persistDecision_body {context : GateEvaluationContext} {call : GateCall}
    {draft : GateDraft} {outcome : Except Fault GateEvaluationResult}
    (persisted : service.persistDecisionWithOptionalApproval store context call draft =
      (next,outcome)) :
    next = store ∨ ∃ approvalId, service.persistBody store context call draft (fun flushed =>
      service.reserveCredits flushed call draft) = .ok (next,approvalId) := by
  unfold persistDecisionWithOptionalApproval at persisted
  split at persisted
  · next after approvalId body =>
    split at persisted
    · exact Or.inl (Prod.mk.inj persisted).1.symm
    · obtain ⟨rfl,_⟩ := Prod.mk.inj persisted
      exact Or.inr ⟨approvalId,body⟩
  · split at persisted
    · exact Or.inl (Prod.mk.inj persisted).1.symm
    · exact Or.inl (Prod.mk.inj persisted).1.symm
  · exact Or.inl (Prod.mk.inj persisted).1.symm

def GateWrites (service : Service) (store : Store) (call : GateCall) (next : Store) : Prop :=
  ∃ context draft approvalId, draft.decision.createdByUserId = call.actorId ∧
    service.persistBody store context call draft (fun flushed =>
      service.reserveCredits flushed call draft) = .ok (next,approvalId)

theorem evaluateGate_writes {call : GateCall} {outcome : Except Fault GateEvaluationResult}
    (evaluated : service.evaluateGate store call = (next,outcome)) :
    next = store ∨ GateWrites service store call next := by
  unfold evaluateGate at evaluated
  split at evaluated
  · exact Or.inl (Prod.mk.inj evaluated).1.symm
  · next context _ =>
    split at evaluated
    · exact Or.inl (Prod.mk.inj evaluated).1.symm
    · split at evaluated
      · exact Or.inl (Prod.mk.inj evaluated).1.symm
      · next draft drafted =>
        rcases persistDecision_body evaluated with same | ⟨approvalId,body⟩
        · exact Or.inl same
        · obtain ⟨_,_,_,_,rfl⟩ := draftGateDecision_eq_ok drafted
          exact Or.inr ⟨context,_,approvalId,rfl,body⟩

theorem resolveFailSafeGate_writes {call : GateCall} {failure : FailSafe}
    {outcome : Except Fault GateEvaluationResult}
    (resolved : service.resolveFailSafeGate store call failure = (next,outcome)) :
    next = store ∨ GateWrites service store call next := by
  unfold resolveFailSafeGate at resolved
  split at resolved
  · exact Or.inl (Prod.mk.inj resolved).1.symm
  · next context _ =>
    split at resolved
    · exact Or.inl (Prod.mk.inj resolved).1.symm
    · split at resolved
      · exact Or.inl (Prod.mk.inj resolved).1.symm
      · next draft drafted =>
        rcases persistDecision_body resolved with same | ⟨approvalId,body⟩
        · exact Or.inl same
        · obtain ⟨_,_,_,_,rfl⟩ := draftFailSafe_eq_ok drafted
          exact Or.inr ⟨context,_,approvalId,rfl,body⟩

theorem GateWrites.mirrored {call : GateCall} (writes : GateWrites service store call next)
    (mirrored : store.Mirrored service) : next.Mirrored service := by
  obtain ⟨_,_,_,_,body⟩ := writes
  exact persistBody_mirrored mirrored body

theorem createOrGetApprovalRequest_mirrored {call : ApprovalCall} {outcome : Except Fault Uuid}
    (requested : service.createOrGetApprovalRequest store call = (next,outcome))
    (mirrored : store.Mirrored service) : next.Mirrored service := by
  rcases transaction_cases requested with ⟨rfl,_⟩ | ⟨value,body,_⟩
  · exact mirrored
  · obtain ⟨decision,_,afterFound⟩ := bind_eq_ok.mp body
    obtain ⟨_,_,afterAsked⟩ := bind_eq_ok.mp afterFound
    split at afterAsked
    · obtain ⟨rfl,_⟩ := Prod.mk.inj (Except.ok.inj afterAsked)
      exact mirrored
    · obtain ⟨approvals,_,result⟩ := bind_eq_ok.mp afterAsked
      obtain ⟨rfl,_⟩ := Prod.mk.inj (Except.ok.inj result)
      apply Store.MirroredBut.append
      exact (mirrored.congr rfl rfl).but call.decisionId

theorem releaseDecision_mirrors {decisionId : Uuid} {decision : Decision} {now : Nat}
    {note : List CreditSettlementEntry → ResponsePayload → ResponsePayload}
    (released : releaseDecision store decisionId decision now note = .ok next)
    (mirrored : store.MirroredBut service decisionId) :
    next.MirroredBut service decisionId := by
  obtain ⟨⟨settled,entries⟩,settlement,result⟩ := bind_eq_ok.mp released
  obtain rfl := Except.ok.inj result
  exact (mirrored.credit (Store.settleCreditReservationsForDecision_frame settlement)).updateDecision
    _ _

theorem approveRequest_mirrored {call : ReviewCall} {outcome : Except Fault IssuedToken}
    (reviewed : service.approveRequest store call = (next,outcome))
    (mirrored : store.Mirrored service) : next.Mirrored service := by
  unfold approveRequest at reviewed
  split at reviewed
  · obtain ⟨rfl,_⟩ := Prod.mk.inj reviewed
    exact mirrored
  · next approval decision _ =>
    split at reviewed
    · obtain ⟨rfl,_⟩ := Prod.mk.inj reviewed
      exact mirrored
    · split at reviewed
      · split at reviewed
        · next expired =>
          obtain ⟨rfl,_⟩ := Prod.mk.inj reviewed
          obtain ⟨released,settlement,result⟩ := bind_eq_ok.mp expired
          obtain rfl := Except.ok.inj result
          exact Store.MirroredBut.append (releaseDecision_mirrors settlement
            ((mirrored.congr rfl rfl).but approval.decisionId)) _
        · obtain ⟨rfl,_⟩ := Prod.mk.inj reviewed
          exact mirrored
      · rcases transaction_cases reviewed with ⟨rfl,_⟩ | ⟨issued,body,_⟩
        · exact mirrored
        · obtain ⟨trace,_,afterTrace⟩ := bind_eq_ok.mp body
          obtain ⟨token,_,result⟩ := bind_eq_ok.mp afterTrace
          obtain ⟨rfl,_⟩ := Prod.mk.inj (Except.ok.inj result)
          have marked : (store.updateApproval call.approvalId (·.approve call trace
              (service.sha256 token) (call.now + ttlSeconds store.policy *
                Calendar.microsPerSecond)) fun _ => rfl).MirroredBut service
              approval.decisionId := (mirrored.congr rfl rfl).but _
          exact Store.MirroredBut.append (marked.updateDecision _ _) _

theorem denyRequest_mirrored {call : ReviewCall} {outcome : Except Fault Uuid}
    (reviewed : service.denyRequest store call = (next,outcome))
    (mirrored : store.Mirrored service) : next.Mirrored service := by
  rcases transaction_cases reviewed with ⟨rfl,_⟩ | ⟨value,body,_⟩
  · exact mirrored
  · obtain ⟨⟨approval,decision⟩,_,afterLoad⟩ := bind_eq_ok.mp body
    obtain ⟨_,_,afterCheck⟩ := bind_eq_ok.mp afterLoad
    obtain ⟨trace,_,afterTrace⟩ := bind_eq_ok.mp afterCheck
    obtain ⟨released,settlement,result⟩ := bind_eq_ok.mp afterTrace
    obtain ⟨rfl,_⟩ := Prod.mk.inj (Except.ok.inj result)
    exact Store.MirroredBut.append (releaseDecision_mirrors settlement
      ((mirrored.congr rfl rfl).but approval.decisionId)) _

theorem claimed_mirrors {settled : Store} {decisionId : Uuid} {reserved consumed : Int} {now : Nat}
    {entries : List CreditSettlementEntry} (mirrored : store.Mirrored service)
    (settlement : (claimReservation store decisionId).settleCreditReservationsForDecision
      decisionId reserved consumed now = .ok (settled,entries)) :
    settled.MirroredBut service decisionId := by
  have claimed : (claimReservation store decisionId).MirroredBut service decisionId :=
    (mirrored.but decisionId).updateDecision _ _
  exact claimed.credit (Store.settleCreditReservationsForDecision_frame settlement)

theorem reconcileReservation_mirrored {call : ReconcileCall}
    {outcome : Except Fault ReservationReconciliationResult}
    (reconciled : service.reconcileReservation store call = (next,outcome))
    (mirrored : store.Mirrored service) : next.Mirrored service := by
  rcases transaction_cases reconciled with ⟨rfl,_⟩ | ⟨value,body,_⟩
  · exact mirrored
  · obtain ⟨decision,_,afterFound⟩ := bind_eq_ok.mp body
    obtain ⟨actual,_,afterActual⟩ := bind_eq_ok.mp afterFound
    obtain ⟨_,_,afterCheck⟩ := bind_eq_ok.mp afterActual
    split at afterCheck
    · obtain ⟨⟨settled,entries⟩,settlement,result⟩ := bind_eq_ok.mp afterCheck
      obtain ⟨rfl,_⟩ := Prod.mk.inj (Except.ok.inj result)
      exact Store.MirroredBut.append ((claimed_mirrors mirrored settlement).updateDecision _ _) _
    · obtain ⟨replay,_,afterReplay⟩ := bind_eq_ok.mp afterCheck
      obtain ⟨_,_,result⟩ := bind_eq_ok.mp afterReplay
      obtain ⟨rfl,_⟩ := Prod.mk.inj (Except.ok.inj result)
      exact mirrored

theorem overdueLoop_mirrored {call : OverdueCall} (rows : List (Uuid × Decision)) {last : Store}
    {ids : List Uuid} {total : Int}
    (looped : service.overdueLoop call rows store = .ok (last,ids,total))
    (mirrored : store.Mirrored service) : last.Mirrored service := by
  induction rows generalizing store ids total with
  | nil =>
    obtain ⟨rfl,_⟩ := Prod.mk.inj (Except.ok.inj looped)
    exact mirrored
  | cons entry rest ih =>
    obtain ⟨next,released,afterRelease⟩ := bind_eq_ok.mp looped
    obtain ⟨⟨middle,later,sum⟩,tail,result⟩ := bind_eq_ok.mp afterRelease
    obtain ⟨rfl,_⟩ := Prod.mk.inj (Except.ok.inj result)
    obtain ⟨⟨settled,entries⟩,settlement,swept⟩ := bind_eq_ok.mp released
    obtain rfl := Except.ok.inj swept
    exact ih tail
      (Store.MirroredBut.append ((claimed_mirrors mirrored settlement).updateDecision _ _) _)

theorem reconcileOverdueReservations_mirrored {call : OverdueCall}
    {outcome : Except Fault OverdueReservationReconciliationResult}
    (swept : service.reconcileOverdueReservations store call = (next,outcome))
    (mirrored : store.Mirrored service) : next.Mirrored service := by
  rcases transaction_cases swept with ⟨rfl,_⟩ | ⟨value,body,_⟩
  · exact mirrored
  · obtain ⟨⟨last,ids,total⟩,looped,result⟩ := bind_eq_ok.mp body
    obtain ⟨rfl,_⟩ := Prod.mk.inj (Except.ok.inj result)
    exact overdueLoop_mirrored _ looped mirrored

def Consumes (service : Service) (store : Store) (call : ConsumeCall) : Prop :=
  ∃ context approval, service.checkConsume store call = .ok context ∧
    store.approvals.find context.approvalId = some approval ∧
    approval.approvalTokenConsumedAt = none

theorem consumeApprovalToken_refused {call : ConsumeCall} {outcome : Except Fault Uuid}
    (unclaimed : ¬service.Consumes store call)
    (consumed : service.consumeApprovalToken store call = (next,outcome)) : next = store := by
  rcases consumeApprovalToken_cases consumed with ⟨same,_⟩ | ⟨context,approval,checked,spec⟩
  · exact same
  · exact absurd ⟨context,approval,checked,spec.approvals.was,spec.unconsumed⟩ unclaimed

theorem run_mirrored {operation : Operation} (mirrored : store.Mirrored service)
    (unclaimed : ∀ call, operation = .consumeApprovalToken call → ¬service.Consumes store call) :
    (service.run store operation).1.Mirrored service := by
  cases operation with
  | createCreditGrant call =>
    change (service.createCreditGrant store call).1.Mirrored service
    rcases createCreditGrant_cases service Prod.mk.eta.symm with same | ⟨_,grants,_,_,_,same⟩
    · rw [same]
      exact mirrored
    · rw [same]
      exact mirrored.congr rfl rfl
  | upsertBudget call =>
    change (service.upsertBudget store call).1.Mirrored service
    obtain ⟨budgets,same⟩ := upsertBudget_cases service Prod.mk.eta.symm
    rw [same]
    exact mirrored.congr rfl rfl
  | updatePolicy policy => exact mirrored.congr rfl rfl
  | evaluateGate call =>
    change (service.evaluateGate store call).1.Mirrored service
    rcases evaluateGate_writes Prod.mk.eta.symm with same | writes
    · rw [same]
      exact mirrored
    · exact writes.mirrored mirrored
  | resolveFailSafeGate call failure =>
    change (service.resolveFailSafeGate store call failure).1.Mirrored service
    rcases resolveFailSafeGate_writes Prod.mk.eta.symm with same | writes
    · rw [same]
      exact mirrored
    · exact writes.mirrored mirrored
  | createOrGetApprovalRequest call =>
    exact createOrGetApprovalRequest_mirrored Prod.mk.eta.symm mirrored
  | approveRequest call => exact approveRequest_mirrored Prod.mk.eta.symm mirrored
  | denyRequest call => exact denyRequest_mirrored Prod.mk.eta.symm mirrored
  | consumeApprovalToken call =>
    change (service.consumeApprovalToken store call).1.Mirrored service
    rw [consumeApprovalToken_refused (unclaimed call rfl) Prod.mk.eta.symm]
    exact mirrored
  | reconcileReservation call => exact reconcileReservation_mirrored Prod.mk.eta.symm mirrored
  | reconcileOverdueReservations call =>
    exact reconcileOverdueReservations_mirrored Prod.mk.eta.symm mirrored

def UnconsumedStep (service : Service) (store : Store) (operation : Operation) (next : Store) :
    Prop :=
  service.Step store operation next ∧
    ∀ call, operation = .consumeApprovalToken call → ¬service.Consumes store call

theorem UnconsumedStep.mirrored {operation : Operation}
    (step : service.UnconsumedStep store operation next) (mirrored : store.Mirrored service) :
    next.Mirrored service := by
  obtain ⟨taken,unclaimed⟩ := step
  cases taken with
  | commit => exact run_mirrored mirrored unclaimed
  | rollback => exact mirrored

end Service

/-- In a run that consumes no token the ledger mirrors the decisions in every state. -/
theorem ledger_mirrors (service : Service) (store : Store)
    (reachable : Reachable Store.Unused service.UnconsumedStep store) :
    store.Mirrored service := by
  apply reachable.induct (fun store => store.Mirrored service)
  · intro start unused id row found
    simp [unused.decisions,UniqueTable.empty] at found
  · intro before operation after step mirrored
    exact step.mirrored mirrored

namespace Sample

def auditing (claims : List (String × Json)) : Service :=
  { signing claims with
    responseDigest := fun payload =>
      if payload.approvalTokenConsumedAt.isSome then digest "consumed" else digest "unused" }

def approvedOnce : Store :=
  finalState (auditing []).run askingStore
    [.evaluateGate (gate 1 "alpha" "first" 60 0),.approveRequest (review 1 ⟨2,"owner"⟩ 5)]

def approvedClaims : List (String × Json) :=
  match approvedOnce.decisions.find 1 with
  | none => []
  | some decision => (auditing []).tokenClaims ⟨1,1,decision,1⟩ 900_000_005 5

def presented : ConsumeCall where
  approvalToken := "signed"
  actorId := some 1
  decodedAt := 7
  now := 7

def consumedOnce : Store :=
  finalState (auditing approvedClaims).run askingStore
    [.evaluateGate (gate 1 "alpha" "first" 60 0),.approveRequest (review 1 ⟨2,"owner"⟩ 5),
      .consumeApprovalToken presented]

end Sample

theorem ledger_mirrors_approved : Sample.approvedOnce.Mirrored (Sample.auditing []) := by
  apply ledger_mirrors
  refine ⟨Sample.askingStore,_,⟨rfl,rfl,rfl,rfl⟩,trace_finalState _ _ ?_⟩
  intro store operation listed
  refine ⟨.commit,?_⟩
  intro call same
  subst same
  simp at listed

/-- The consumption notes itself on the decision and leaves the ledger as it was. -/
theorem ledger_misses_consumption :
    Reachable Store.Unused (Sample.auditing Sample.approvedClaims).Step Sample.consumedOnce ∧
      ¬Sample.consumedOnce.Mirrored (Sample.auditing Sample.approvedClaims) := by
  refine ⟨⟨Sample.askingStore,_,⟨rfl,rfl,rfl,rfl⟩,trace_finalState _ _ fun _ _ _ => .commit⟩,?_⟩
  intro mirrored
  have apart : (Sample.consumedOnce.decisions.find 1).any (fun row =>
      (Sample.consumedOnce.latestEntry 1).all fun entry => entry.responsePayloadSha256 ≠
        (Sample.auditing Sample.approvedClaims).responseDigest row.responsePayload) = true := by
    decide +kernel
  obtain ⟨row,found,differs⟩ := (Option.any_eq_true _ _).mp apart
  obtain ⟨entry,latest,mirrors⟩ := mirrored 1 row found
  rw [latest] at differs
  simp [mirrors.responsePayloadSha256] at differs

end Valdrics.Enforcement

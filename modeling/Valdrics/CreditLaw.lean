import Valdrics.CreditConservation

/-! The credit law of a tenant's store, and its proof for every reachable one. A
conserved store settles every release an operation asks for. -/
namespace Valdrics.Enforcement

def Fault.ofSettlement : Fault → Bool
  | .missingAllocationRows | .missingCreditGrantRow | .settlementDrift _ _ => true
  | _ => false

def Ordinary (outcome : Except Fault α) : Prop :=
  ∀ fault, outcome = .error fault → fault.ofSettlement = false

namespace Ordinary

theorem returned {outcome : Except Fault α} (value : α) (same : outcome = .ok value) :
    Ordinary outcome := by
  intro fault failed
  rw [same] at failed
  contradiction

theorem raised {outcome : Except Fault α} {fault : Fault} (same : outcome = .error fault)
    (other : fault.ofSettlement = false) : Ordinary outcome := by
  intro fault' failed
  rw [same] at failed
  obtain rfl := Except.error.inj failed
  exact other

theorem bind {first : Except Fault α} {rest : α → Except Fault β} (before : Ordinary first)
    (after : ∀ a, first = .ok a → Ordinary (rest a)) : Ordinary (first >>= rest) := by
  intro fault failed
  cases outcome : first with
  | error raised =>
    rw [outcome] at failed
    obtain rfl := Except.error.inj failed
    exact before raised outcome
  | ok a =>
    rw [outcome] at failed
    exact after a outcome fault failed

theorem refuse {bad : Prop} [Decidable bad] {fault : Fault} (other : fault.ofSettlement = false) :
    Ordinary (Enforcement.refuse bad fault) := by
  unfold Enforcement.refuse
  split
  · exact raised rfl other
  · exact returned () rfl

theorem require {value : Option α} {fault : Fault} (other : fault.ofSettlement = false) :
    Ordinary (Enforcement.require value fault) := by
  cases value with
  | none => exact raised rfl other
  | some a => exact returned a rfl

theorem transaction {store : Store} {body : Except Fault (Store × α)} (inside : Ordinary body) :
    Ordinary (Enforcement.transaction store body).2 := by
  cases body with
  | ok result => exact returned result.2 rfl
  | error fault => exact raised rfl (inside fault rfl)

theorem comparable (value : DecimalValue) (places : Nat) :
    Ordinary (comparableAmount value places) := by
  unfold comparableAmount
  split
  · exact returned _ rfl
  · exact raised rfl rfl

end Ordinary

namespace Service

variable {service : Service} {store : Store}

theorem enforceReviewerAuthority_ordinary (policy : Policy) (approval : ApprovalRequest)
    (decision : Decision) (reviewer : CurrentUser) (separation : Bool) :
    Ordinary (service.enforceReviewerAuthority policy approval decision reviewer separation) := by
  refine .bind (.refuse rfl) fun _ _ => ?_
  refine .bind (.require rfl) fun _ _ => ?_
  refine .bind (.refuse rfl) fun _ _ => ?_
  exact .bind (.refuse rfl) fun _ _ => .returned _ rfl

theorem loadApprovalWithDecision_ordinary (store : Store) (approvalId : Uuid) :
    Ordinary (store.loadApprovalWithDecision approvalId) := by
  refine .bind (.require rfl) fun _ _ => ?_
  exact .bind (.require rfl) fun _ _ => .returned _ rfl

theorem grantApproval_ordinary (store : Store) (call : ReviewCall) (approval : ApprovalRequest)
    (decision : Decision) :
    Ordinary (service.grantApproval store call approval decision) := by
  refine .bind (enforceReviewerAuthority_ordinary _ _ _ _ _) fun _ _ => ?_
  refine .bind ?_ fun _ _ => .returned _ rfl
  unfold buildApprovalToken
  split
  · exact .returned _ rfl
  · exact .raised rfl rfl

theorem buildReservationReconciliationReplay_ordinary (decisionId : Uuid) (decision : Decision)
    (actual : Int) (notes idempotencyKey : Option String) :
    Ordinary (service.buildReservationReconciliationReplay decisionId decision actual notes
      idempotencyKey) := by
  unfold buildReservationReconciliationReplay
  split
  · split
    · exact .returned _ rfl
    · refine .bind (.refuse rfl) fun _ _ => ?_
      refine .bind (.refuse rfl) fun _ _ => ?_
      exact .bind (.refuse rfl) fun _ _ => .returned _ rfl
  · exact .returned _ rfl

/-- A release that an approval asks for is settled, whatever the approval became. -/
theorem releaseDecision_returns {decisionId : Uuid} (marked : Store) (decision : Decision)
    (now : Nat) (note : List CreditSettlementEntry → ResponsePayload → ResponsePayload)
    (conserved : store.CreditConserved) (grants : marked.grants = store.grants)
    (allocations : marked.allocations = store.allocations)
    (matched : store.activeReservedFor decisionId = decision.reservedCreditUsd) :
    ∃ next, releaseDecision marked decisionId decision now note = .ok next := by
  obtain ⟨settled,entries,settlement,_⟩ := Store.settle_returns 0 now
    (conserved.balanced.congr grants allocations)
    ((Store.activeReservedFor_congr allocations decisionId).trans matched)
  exact ⟨_,bind_eq_ok.mpr ⟨(settled,entries),settlement,rfl⟩⟩

theorem assertPending_ordinary (approval : ApprovalRequest) : Ordinary (assertPending approval) :=
  .refuse rfl

/-- The expired branch releases what the decision holds, and always commits. -/
theorem expireApproval_returns (service : Service) {approvalId : Uuid} {approval : ApprovalRequest}
    {decision : Decision} (conserved : store.CreditConserved) (now : Nat)
    (stored : store.approvals.find approvalId = some approval)
    (found : store.decisions.find approval.decisionId = some decision) :
    ∃ next, service.expireApproval store approvalId approval decision now = .ok next := by
  obtain ⟨next,released⟩ := releaseDecision_returns
    (store.updateApproval approvalId (·.expire) fun _ => rfl) decision now
    (fun entries payload =>
      { payload with approvalExpiredAt := some now, creditSettlement := some entries })
    conserved rfl rfl (conserved.matched_of_approval stored found)
  exact ⟨_,bind_eq_ok.mpr ⟨next,released,rfl⟩⟩

theorem approveRequest_ordinary (conserved : store.CreditConserved) (call : ReviewCall) :
    Ordinary (service.approveRequest store call).2 := by
  unfold approveRequest
  split
  · next fault failed =>
    exact .raised rfl (loadApprovalWithDecision_ordinary store call.approvalId fault failed)
  · next approval decision loaded =>
    obtain ⟨stored,found⟩ := Store.loadApprovalWithDecision_eq_ok loaded
    split
    · next fault failed =>
      exact .raised rfl (assertPending_ordinary approval fault failed)
    · split
      · obtain ⟨next,expired⟩ :=
          expireApproval_returns service conserved call.now stored found
        rw [expired]
        exact .raised rfl rfl
      · exact .transaction (grantApproval_ordinary store call approval decision)

theorem denyRequest_ordinary (conserved : store.CreditConserved) (call : ReviewCall) :
    Ordinary (service.denyRequest store call).2 := by
  apply Ordinary.transaction
  refine .bind (loadApprovalWithDecision_ordinary store call.approvalId) fun loaded same => ?_
  obtain ⟨approval,decision⟩ := loaded
  obtain ⟨stored,found⟩ := Store.loadApprovalWithDecision_eq_ok same
  refine .bind (.refuse rfl) fun _ _ => ?_
  refine .bind (enforceReviewerAuthority_ordinary _ _ _ _ _) fun trace _ => ?_
  refine .bind ?_ fun _ _ => .returned _ rfl
  obtain ⟨next,released⟩ := releaseDecision_returns
    (store.updateApproval call.approvalId (·.deny call trace) fun _ => rfl) decision call.now _
    conserved rfl rfl (conserved.matched_of_approval stored found)
  exact .returned next released

theorem reconcileReservation_ordinary (conserved : store.CreditConserved) (call : ReconcileCall) :
    Ordinary (service.reconcileReservation store call).2 := by
  apply Ordinary.transaction
  refine .bind (.require rfl) fun decision found => ?_
  refine .bind (.comparable _ _) fun actual _ => ?_
  refine .bind (.refuse rfl) fun _ _ => ?_
  split
  · next active =>
    obtain ⟨settled,entries,settlement⟩ := claimed_settles
      (min decision.reservedCreditUsd (max 0 (actual - decision.reservedAllocationUsd))) call.now
      conserved (conserved.reserved _ decision (require_eq_ok.mp found) active)
    exact .bind (.returned _ settlement) fun _ _ => .returned _ rfl
  · refine .bind (buildReservationReconciliationReplay_ordinary _ _ _ _ _) fun _ _ => ?_
    exact .bind (.require rfl) fun _ _ => .returned _ rfl

theorem reconcileOverdueReservations_ordinary (conserved : store.CreditConserved)
    (call : OverdueCall) : Ordinary (service.reconcileOverdueReservations store call).2 := by
  obtain ⟨next,result,swept,_⟩ := reconcileOverdue_returns service conserved call
  exact .returned result (by rw [swept])

end Service

namespace Store

def activeReservedOn (store : Store) (grantId : Uuid) : Int :=
  store.allocations.total fun key allocation =>
    if key.2 = grantId ∧ allocation.active = true then allocation.reservedAmountUsd else 0

def settledConsumedOn (store : Store) (grantId : Uuid) : Int :=
  store.allocations.total fun key allocation =>
    if key.2 = grantId ∧ allocation.active = false then allocation.consumedAmountUsd else 0

theorem heldOn_eq (store : Store) (grantId : Uuid) :
    store.heldOn grantId = store.activeReservedOn grantId + store.settledConsumedOn grantId := by
  unfold heldOn activeReservedOn settledConsumedOn
  rw [← Table.total_add]
  congr 1
  funext key allocation
  by_cases mine : key.2 = grantId <;> cases active : allocation.active <;>
    simp [mine,active,CreditReservationAllocation.held]

theorem inactive_of_unreserved {store : Store} {decisionId grantId : Uuid}
    {allocation : CreditReservationAllocation} (nothing : store.activeReservedFor decisionId = 0)
    (found : store.allocations.find (decisionId,grantId) = some allocation) :
    allocation.active = false := by
  cases active : allocation.active with
  | false => rfl
  | true =>
    have part := Table.le_total store.allocations
      (fun key row => if key.1 = decisionId ∧ row.active = true then row.reservedAmountUsd else 0)
      (fun key row _ => by
        have positive := row.reservedPositive
        split <;> omega) (Table.find_eq_some_iff.mp found)
    have positive := allocation.reservedPositive
    change _ ≤ store.activeReservedFor decisionId at part
    rw [if_pos ⟨rfl,active⟩] at part
    omega

end Store

structure CreditLaw (service : Service) (store : Store) : Prop where
  bounds : ∀ id grant, store.grants.find id = some grant →
    0 ≤ grant.remainingAmountUsd ∧ grant.remainingAmountUsd ≤ grant.totalAmountUsd
  balance : ∀ id grant, store.grants.find id = some grant →
    grant.totalAmountUsd =
      grant.remainingAmountUsd + store.activeReservedOn id + store.settledConsumedOn id
  active : ∀ id decision, store.decisions.find id = some decision →
    decision.reservationActive = true →
    store.activeReservedFor id = decision.reservedCreditUsd
  inactive : ∀ id decision, store.decisions.find id = some decision →
    decision.reservationActive = false → ∀ grantId allocation,
    store.allocations.find (id,grantId) = some allocation → allocation.active = false
  settled : ∀ key allocation, store.allocations.find key = some allocation →
    allocation.active = false →
    allocation.consumedAmountUsd + allocation.releasedAmountUsd = allocation.reservedAmountUsd
  approvals : ∀ call, Ordinary (service.approveRequest store call).2
  denials : ∀ call, Ordinary (service.denyRequest store call).2
  reconciliations : ∀ call, Ordinary (service.reconcileReservation store call).2
  sweeps : ∀ call, Ordinary (service.reconcileOverdueReservations store call).2

/-- Credit is conserved in every state that any run of the operations reaches. -/
theorem credit_conserved (service : Service) (store : Store)
    (reachable : Reachable Store.Unused service.Step store) : CreditLaw service store := by
  have conserved := Service.reachable_conserved reachable
  refine ⟨?_,?_,conserved.reserved,?_,conserved.balanced.settled,
    Service.approveRequest_ordinary conserved,Service.denyRequest_ordinary conserved,
    Service.reconcileReservation_ordinary conserved,
    Service.reconcileOverdueReservations_ordinary conserved⟩
  · intro id grant found
    exact ⟨conserved.balanced.remainingNonneg id grant found,
      conserved.balanced.remaining_le_total found⟩
  · intro id grant found
    rw [add_assoc, ← Store.heldOn_eq]
    exact conserved.balanced.balanced id grant found
  · intro id decision found inactive grantId allocation there
    exact Store.inactive_of_unreserved (conserved.released id decision found inactive) there

def Sample.drawn : Store :=
  finalState Sample.service.run Sample.store
    [.upsertBudget (Sample.budget "default" 50),.createCreditGrant (Sample.grant 7 100 0),
      .evaluateGate (Sample.gate 9 "web" "first" 80 0)]

theorem credit_conserved_drawn :
    (Sample.drawn.grants.find 7).map (·.remainingAmountUsd) = some 70_0000 ∧
      CreditLaw Sample.service Sample.drawn :=
  ⟨by decide,credit_conserved Sample.service Sample.drawn
    ⟨Sample.store,_,⟨rfl,rfl,rfl,rfl⟩,.go .commit (.go .commit (.go .commit .stop))⟩⟩

end Valdrics.Enforcement

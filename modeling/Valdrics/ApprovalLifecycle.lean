import Valdrics.LedgerMirror
import Valdrics.ReservationRelease

/-! What one operation can do to the approvals, and what it leaves of a decision that is
there: its creator, its verdict, and its reservation unless something released it. -/
namespace Valdrics.Enforcement

structure Decision.Carries (before after : Decision) : Prop where
  createdByUserId : after.createdByUserId = before.createdByUserId
  decision : after.decision = before.decision

structure Decision.SameReservation (before after : Decision) : Prop where
  reservationActive : after.reservationActive = before.reservationActive
  reservedAllocationUsd : after.reservedAllocationUsd = before.reservedAllocationUsd
  reservedCreditUsd : after.reservedCreditUsd = before.reservedCreditUsd

theorem Decision.Carries.trans {first second third : Decision} (before : first.Carries second)
    (after : second.Carries third) : first.Carries third :=
  ⟨after.createdByUserId.trans before.createdByUserId,after.decision.trans before.decision⟩

theorem Decision.ReleasedTo.carries {before after : Decision} (released : before.ReleasedTo after) :
    before.Carries after := by
  rw [released]
  exact ⟨rfl,rfl⟩

theorem Decision.TokenIssuedTo.carries {before after : Decision} {expiresAt : Nat}
    (issued : before.TokenIssuedTo after expiresAt) : before.Carries after := by
  rw [issued]
  exact ⟨rfl,rfl⟩

theorem Decision.TokenIssuedTo.sameReservation {before after : Decision} {expiresAt : Nat}
    (issued : before.TokenIssuedTo after expiresAt) : before.SameReservation after := by
  rw [issued]
  exact ⟨rfl,rfl,rfl⟩

structure ApprovalRequest.Asked (approval : ApprovalRequest) (actorId : Uuid) : Prop where
  pending : approval.status = .pending
  requestedByUserId : approval.requestedByUserId = some actorId

structure ApprovalRequest.SameRequest (before after : ApprovalRequest) : Prop where
  decisionId : after.decisionId = before.decisionId
  requestedByUserId : after.requestedByUserId = before.requestedByUserId

def Store.Persists (store next : Store) : Prop :=
  ∀ id row, store.decisions.find id = some row →
    ∃ row', next.decisions.find id = some row' ∧ row.Carries row'

namespace Store.Persists

variable {store next last : Store}

theorem refl (store : Store) : store.Persists store := fun _ row found => ⟨row,found,rfl,rfl⟩

theorem of_decisions (same : next.decisions = store.decisions) : store.Persists next := by
  intro id row found
  refine ⟨row,?_,rfl,rfl⟩
  rw [same]
  exact found

theorem trans (first : store.Persists next) (second : next.Persists last) :
    store.Persists last := by
  intro id row found
  obtain ⟨middle,there,carries⟩ := first id row found
  obtain ⟨final,still,carries'⟩ := second id middle there
  exact ⟨final,still,carries.trans carries'⟩

theorem of_rewrites {id : Uuid} {before after : Decision}
    (rewrites : store.decisions.Rewrites next.decisions.toTable id before after)
    (carries : before.Carries after) : store.Persists next := by
  intro other row found
  by_cases same : other = id
  · subst same
    obtain rfl := Option.some.inj (rewrites.was.symm.trans found)
    exact ⟨after,rewrites.found,carries⟩
  · exact ⟨row,(rewrites.other same).trans found,rfl,rfl⟩

end Store.Persists

inductive ApprovalStep (service : Service) (store : Store) (operation : Operation)
    (next : Store) : Prop where
  | same (approvals : next.approvals = store.approvals)
  | asked (id : Uuid) (row : ApprovalRequest) (actorId : Uuid) (decision : Decision)
      (inserted : store.approvals.insert id row = some next.approvals)
      (asked : row.Asked actorId)
      (there : next.decisions.find row.decisionId = some decision)
      (verdict : decision.decision = .requireApproval)
      (requester : decision.createdByUserId = actorId ∨ ∃ call : ApprovalCall,
        operation = .createOrGetApprovalRequest call ∧ call.approvalId = id ∧
        call.decisionId = row.decisionId ∧ call.actorId = actorId)
  | closed (id : Uuid) (before after : ApprovalRequest)
      (rewrites : store.approvals.Rewrites next.approvals.toTable id before after)
      (pending : before.status = .pending)
      (ended : after.status = .expired ∨ after.status = .denied)
      (request : before.SameRequest after)
  | approved (call : ReviewCall) (before : ApprovalRequest) (decision : Decision)
      (trace : RoutingTrace) (hash : String) (expiresAt : Nat)
      (by_ : operation = .approveRequest call)
      (rewrites : store.approvals.Rewrites next.approvals.toTable call.approvalId before
        (before.approve call trace hash expiresAt))
      (pending : before.status = .pending)
      (found : store.decisions.find before.decisionId = some decision)
      (authority : service.enforceReviewerAuthority store.policy before decision call.reviewer
        true = .ok trace)
  | consumed (id : Uuid) (before : ApprovalRequest) (now : Nat)
      (rewrites : store.approvals.Rewrites next.approvals.toTable id before (before.consume now))

def Store.ClosedFor (store : Store) (decisionId : Uuid) : Prop :=
  ∃ id approval, store.approvals.find id = some approval ∧ approval.decisionId = decisionId ∧
    approval.status ≠ .pending

def Service.Reconciles (store : Store) (operation : Operation) (decisionId : Uuid) : Prop :=
  (∃ call, operation = .reconcileReservation call ∧ call.decisionId = decisionId ∧
    ∃ row, store.decisions.find decisionId = some row ∧ row.reservationActive = true) ∨
  (∃ call, operation = .reconcileOverdueReservations call ∧
    decisionId ∈ (Service.overdueDecisions store call).map Prod.fst)

def ReservationStep (store : Store) (operation : Operation) (next : Store) : Prop :=
  ∀ id row row', store.decisions.find id = some row → next.decisions.find id = some row' →
    row.SameReservation row' ∨ Service.Reconciles store operation id ∨ next.ClosedFor id

theorem ReservationStep.of_decisions {store next : Store} {operation : Operation}
    (same : next.decisions = store.decisions) : ReservationStep store operation next := by
  intro id row row' found found'
  rw [same, found] at found'
  obtain rfl := Option.some.inj found'
  exact Or.inl ⟨rfl,rfl,rfl⟩

theorem ReservationStep.of_rewrites {store next : Store} {operation : Operation} {id : Uuid}
    {before after : Decision}
    (rewrites : store.decisions.Rewrites next.decisions.toTable id before after)
    (kept : before.SameReservation after ∨ Service.Reconciles store operation id ∨
      next.ClosedFor id) : ReservationStep store operation next := by
  intro other row row' found found'
  by_cases same : other = id
  · subst same
    obtain rfl := Option.some.inj (rewrites.was.symm.trans found)
    obtain rfl := Option.some.inj (rewrites.found.symm.trans found')
    exact kept
  · rw [rewrites.other same, found] at found'
    obtain rfl := Option.some.inj found'
    exact Or.inl ⟨rfl,rfl,rfl⟩

structure Lifecycle (service : Service) (store : Store) (operation : Operation) (next : Store) :
    Prop where
  persists : store.Persists next
  approvals : ApprovalStep service store operation next
  reservations : ReservationStep store operation next

namespace Service

variable {service : Service} {store next : Store}

theorem lifecycle_refl (operation : Operation) : Lifecycle service store operation store :=
  ⟨.refl store,.same rfl,.of_decisions rfl⟩

theorem lifecycle_of_tables {operation : Operation} (decisions : next.decisions = store.decisions)
    (approvals : next.approvals = store.approvals) : Lifecycle service store operation next :=
  ⟨.of_decisions decisions,.same approvals,.of_decisions decisions⟩

theorem GateWrites.lifecycle {call : GateCall} (operation : Operation)
    (writes : GateWrites service store call next) : Lifecycle service store operation next := by
  obtain ⟨context,draft,approvalId,creator,body⟩ := writes
  have spec := persistBody_eq_ok (fun _ _ _ => reserveCredits_frame) body
  obtain ⟨payload,finds⟩ := spec.inserted
  have others : ∀ id row, store.decisions.find id = some row →
      next.decisions.find id = some row := by
    intro id row found
    have apart : id ≠ call.decisionId := by
      intro same
      subst same
      simp [spec.freshId] at found
    rw [finds, if_neg apart]
    exact found
  refine ⟨fun id row found => ⟨row,others id row found,rfl,rfl⟩,?_,?_⟩
  · obtain ⟨decisions,_,afterDecision⟩ := bind_eq_ok.mp body
    obtain ⟨⟨reserved,entries⟩,credit,afterCredit⟩ := bind_eq_ok.mp afterDecision
    obtain ⟨⟨approved,approvalId'⟩,approval,result⟩ := bind_eq_ok.mp afterCredit
    obtain ⟨recorded,recordedEq,_⟩ := recordAllocations_eq reserved call.decisionId entries
    have before : (recordAllocations reserved call.decisionId entries).approvals =
        store.approvals := by
      rw [recordedEq]
      exact (reserveCredits_frame credit).approvals
    obtain ⟨ledger,appended⟩ :=
      appendDecisionLedgerEntry_eq service approved call.decisionId approvalId'
    obtain ⟨sameNext,_⟩ := Prod.mk.inj (Except.ok.inj result)
    have approvals : next.approvals = approved.approvals := by rw [← sameNext, appended]
    unfold createApproval at approval
    split at approval
    · next needed =>
      obtain ⟨added,inserted,returned⟩ := bind_eq_ok.mp approval
      obtain ⟨rfl,_⟩ := Prod.mk.inj (Except.ok.inj returned)
      have verdict : draft.decision.decision = .requireApproval := by
        simp only [needsApproval,Bool.and_eq_true,decide_eq_true_eq] at needed
        exact needed.1.1
      have added_ : next.approvals = added := approvals
      have stored := require_eq_ok.mp inserted
      rw [before, ← added_] at stored
      refine .asked call.approvalId _ call.actorId (draft.decision.withPayload payload) stored
        ⟨rfl,rfl⟩ ?_ verdict (Or.inl creator)
      rw [finds, if_pos rfl]
    · obtain ⟨rfl,_⟩ := Prod.mk.inj (Except.ok.inj approval)
      exact .same (approvals.trans before)
  · intro id row row' found found'
    rw [others id row found] at found'
    obtain rfl := Option.some.inj found'
    exact Or.inl ⟨rfl,rfl,rfl⟩

theorem createOrGetApprovalRequest_lifecycle {call : ApprovalCall} {outcome : Except Fault Uuid}
    (requested : service.createOrGetApprovalRequest store call = (next,outcome)) :
    Lifecycle service store (.createOrGetApprovalRequest call) next := by
  rcases transaction_cases requested with ⟨rfl,_⟩ | ⟨value,body,_⟩
  · exact lifecycle_refl _
  · obtain ⟨decision,found,afterFound⟩ := bind_eq_ok.mp body
    obtain ⟨_,asked,afterAsked⟩ := bind_eq_ok.mp afterFound
    split at afterAsked
    · obtain ⟨rfl,_⟩ := Prod.mk.inj (Except.ok.inj afterAsked)
      exact lifecycle_refl _
    · obtain ⟨approvals,inserted,result⟩ := bind_eq_ok.mp afterAsked
      obtain ⟨rfl,_⟩ := Prod.mk.inj (Except.ok.inj result)
      obtain ⟨ledger,appended⟩ := appendDecisionLedgerEntry_eq service
        { store with approvals } call.decisionId (some call.approvalId)
      rw [appended]
      refine ⟨.of_decisions rfl,?_,.of_decisions rfl⟩
      exact .asked call.approvalId _ call.actorId decision (require_eq_ok.mp inserted) ⟨rfl,rfl⟩
        (require_eq_ok.mp found) (by simpa using asked) (Or.inr ⟨call,rfl,rfl,rfl,rfl⟩)

theorem Release.lifecycle {operation : Operation} {id : Uuid} {before after : ApprovalRequest}
    {row row' : Decision} {consumed : Int} {now : Nat}
    (release : Release store next before.decisionId row row' consumed now)
    (rewrites : store.approvals.Rewrites next.approvals.toTable id before after)
    (pending : before.status = .pending) (ended : after.status = .expired ∨ after.status = .denied)
    (request : before.SameRequest after) : Lifecycle service store operation next := by
  refine ⟨.of_rewrites release.decisions release.released.carries,
    .closed id before after rewrites pending ended request,
    .of_rewrites release.decisions (Or.inr (Or.inr ⟨id,after,rewrites.found,request.decisionId,?_⟩))⟩
  intro stillPending
  rcases ended with expired | denied
  · simp [stillPending] at expired
  · simp [stillPending] at denied

theorem approveRequest_lifecycle {call : ReviewCall} {outcome : Except Fault IssuedToken}
    (reviewed : service.approveRequest store call = (next,outcome)) :
    Lifecycle service store (.approveRequest call) next := by
  have cases_ := approveRequest_cases reviewed
  rcases cases_ with ⟨rfl,_⟩ | ⟨approval,decision,after,_,pending,_,release,rewrites⟩ |
    ⟨approval,approval',before,after,issued,rfl,spec⟩
  · exact lifecycle_refl _
  · exact Release.lifecycle release rewrites pending (Or.inl rfl) ⟨rfl,rfl⟩
  · refine ⟨.of_rewrites spec.decisions spec.tokenIssued.carries,?_,
      .of_rewrites spec.decisions (Or.inl spec.tokenIssued.sameReservation)⟩
    unfold approveRequest at reviewed
    split at reviewed
    · simp at reviewed
    · next row decision loaded =>
      obtain ⟨stored,found⟩ := Store.loadApprovalWithDecision_eq_ok loaded
      obtain rfl := Option.some.inj (spec.stored.symm.trans stored)
      split at reviewed
      · simp at reviewed
      · split at reviewed
        · split at reviewed <;> simp at reviewed
        · rcases transaction_cases reviewed with ⟨_,_,_,failed⟩ | ⟨_,body,_⟩
          · simp at failed
          · obtain ⟨trace,authority,afterTrace⟩ := bind_eq_ok.mp body
            obtain ⟨token,_,result⟩ := bind_eq_ok.mp afterTrace
            obtain ⟨sameNext,_⟩ := Prod.mk.inj (Except.ok.inj result)
            refine .approved call approval decision trace (service.sha256 token)
              (call.now + ttlSeconds store.policy * Calendar.microsPerSecond) rfl ?_ spec.pending
              found authority
            have approvals : next.approvals = store.approvals.update call.approvalId
                (·.approve call trace (service.sha256 token)
                  (call.now + ttlSeconds store.policy * Calendar.microsPerSecond)) fun _ => rfl := by
              rw [← sameNext]
              obtain ⟨ledger,appended⟩ := appendDecisionLedgerEntry_eq service _ _ _
              rw [appended]
              rfl
            rw [approvals]
            exact Table.Rewrites.update (·.approve call trace (service.sha256 token)
              (call.now + ttlSeconds store.policy * Calendar.microsPerSecond)) stored

theorem denyRequest_lifecycle {operation : Operation} {call : ReviewCall}
    {outcome : Except Fault Uuid} (reviewed : service.denyRequest store call = (next,outcome)) :
    Lifecycle service store operation next := by
  rcases transaction_cases reviewed with ⟨rfl,_⟩ | ⟨value,body,_⟩
  · exact lifecycle_refl _
  · obtain ⟨⟨approval,decision⟩,loaded,afterLoad⟩ := bind_eq_ok.mp body
    obtain ⟨stored,found⟩ := Store.loadApprovalWithDecision_eq_ok loaded
    obtain ⟨_,checked,afterCheck⟩ := bind_eq_ok.mp afterLoad
    have pending : approval.status = .pending := by simpa [assertPending] using checked
    obtain ⟨trace,_,afterTrace⟩ := bind_eq_ok.mp afterCheck
    obtain ⟨released,settlement,result⟩ := bind_eq_ok.mp afterTrace
    obtain ⟨rfl,_⟩ := Prod.mk.inj (Except.ok.inj result)
    obtain ⟨after,release,approvals⟩ := releaseDecision_eq_ok settlement found
    obtain ⟨ledger,appended⟩ :=
      appendDecisionLedgerEntry_eq service released approval.decisionId (some call.approvalId)
    rw [appended]
    have rewrites : store.approvals.Rewrites
        { released with ledger }.approvals.toTable call.approvalId approval
        (approval.deny call trace) := by
      rw [approvals]
      exact Table.Rewrites.update (·.deny call trace) stored
    have logged : Release store { released with ledger } approval.decisionId decision after 0
        call.now :=
      Release.withApprovals release ⟨rfl,rfl,rfl,rfl⟩ rfl rfl rfl ⟨rfl,rfl,rfl,rfl⟩ rfl rfl rfl
    exact Release.lifecycle logged rewrites pending (Or.inr rfl) ⟨rfl,rfl⟩

theorem consumeApprovalToken_lifecycle {operation : Operation} {call : ConsumeCall}
    {outcome : Except Fault Uuid}
    (consumed : service.consumeApprovalToken store call = (next,outcome)) :
    Lifecycle service store operation next := by
  rcases consumeApprovalToken_cases consumed with ⟨rfl,_⟩ | ⟨context,approval,_,spec⟩
  · exact lifecycle_refl _
  · have rows : ∀ id row, store.decisions.find id = some row → ∃ row',
        next.decisions.find id = some row' ∧ row.Carries row' ∧ row.SameReservation row' := by
      intro id row found
      rw [spec.decisions]
      split
      · next same =>
        rw [← same, found]
        exact ⟨_,rfl,⟨rfl,rfl⟩,⟨rfl,rfl,rfl⟩⟩
      · exact ⟨row,found,⟨rfl,rfl⟩,⟨rfl,rfl,rfl⟩⟩
    refine ⟨?_,.consumed context.approvalId approval call.now spec.approvals,?_⟩
    · intro id row found
      obtain ⟨row',there,carries,_⟩ := rows id row found
      exact ⟨row',there,carries⟩
    · intro id row row' found found'
      obtain ⟨_,there,_,kept⟩ := rows id row found
      obtain rfl := Option.some.inj (there.symm.trans found')
      exact Or.inl kept

theorem reconcileReservation_lifecycle {call : ReconcileCall}
    {outcome : Except Fault ReservationReconciliationResult}
    (reconciled : service.reconcileReservation store call = (next,outcome)) :
    Lifecycle service store (.reconcileReservation call) next := by
  rcases reconcileReservation_cases reconciled with rfl | ⟨decision,after,_,active,release,approvals⟩
  · exact lifecycle_refl _
  · refine ⟨.of_rewrites release.decisions release.released.carries,.same approvals,
      .of_rewrites release.decisions (Or.inr (Or.inl (Or.inl ⟨call,rfl,rfl,decision,?_,active⟩)))⟩
    exact release.decisions.was

theorem overdueLoop_persists {call : OverdueCall} {rows : List (Uuid × Decision)} {last : Store}
    {result : List Uuid × Int}
    (listed : ∀ entry ∈ rows, store.decisions.find entry.1 = some entry.2)
    (distinct : (rows.map Prod.fst).Nodup)
    (looped : service.overdueLoop call rows store = .ok (last,result)) : store.Persists last := by
  induction rows generalizing store result with
  | nil =>
    obtain ⟨rfl,_⟩ := Prod.mk.inj (Except.ok.inj looped)
    exact .refl store
  | cons entry rest ih =>
    obtain ⟨id,decision⟩ := entry
    have unique := List.nodup_cons.mp distinct
    obtain ⟨middle,_,released,continued⟩ := overdueLoop_cons looped
    obtain ⟨after,release,_⟩ :=
      releaseOverdue_eq_ok (listed (id,decision) List.mem_cons_self) released
    apply (Store.Persists.of_rewrites release.decisions release.released.carries).trans
    apply ih _ unique.2 continued
    intro e member
    have apart : e.1 ≠ id := by
      intro same
      exact unique.1 (List.mem_map.mpr ⟨e,member,same⟩)
    rw [release.decisions.other apart]
    exact listed e (List.mem_cons_of_mem _ member)

theorem reconcileOverdueReservations_lifecycle {call : OverdueCall}
    {outcome : Except Fault OverdueReservationReconciliationResult}
    (swept : service.reconcileOverdueReservations store call = (next,outcome)) :
    Lifecycle service store (.reconcileOverdueReservations call) next := by
  obtain ⟨releases,approvals⟩ := reconcileOverdue_releases swept
  refine ⟨?_,.same approvals,?_⟩
  · rcases transaction_cases swept with ⟨rfl,_⟩ | ⟨value,body,_⟩
    · exact .refl _
    · obtain ⟨⟨last,ids,total⟩,looped,returned⟩ := bind_eq_ok.mp body
      obtain ⟨rfl,_⟩ := Prod.mk.inj (Except.ok.inj returned)
      exact overdueLoop_persists (fun entry member => (overdueDecisions_listed entry member).1)
        (overdueDecisions_distinct store call) looped
  · intro id row row' found found'
    by_cases among : id ∈ (overdueDecisions store call).map Prod.fst
    · exact Or.inr (Or.inl (Or.inr ⟨call,rfl,among⟩))
    · rw [releases.kept id among, found] at found'
      obtain rfl := Option.some.inj found'
      exact Or.inl ⟨rfl,rfl,rfl⟩

theorem run_lifecycle (service : Service) (store : Store) (operation : Operation) :
    Lifecycle service store operation (service.run store operation).1 := by
  cases operation with
  | createCreditGrant call =>
    change Lifecycle service store _ (service.createCreditGrant store call).1
    rcases createCreditGrant_cases service Prod.mk.eta.symm with same | ⟨_,grants,_,_,_,same⟩
    · rw [same]
      exact lifecycle_refl _
    · rw [same]
      exact lifecycle_of_tables rfl rfl
  | upsertBudget call =>
    change Lifecycle service store _ (service.upsertBudget store call).1
    obtain ⟨budgets,same⟩ := upsertBudget_cases service Prod.mk.eta.symm
    rw [same]
    exact lifecycle_of_tables rfl rfl
  | updatePolicy policy => exact lifecycle_of_tables rfl rfl
  | evaluateGate call =>
    change Lifecycle service store _ (service.evaluateGate store call).1
    rcases evaluateGate_writes Prod.mk.eta.symm with same | writes
    · rw [same]
      exact lifecycle_refl _
    · exact writes.lifecycle _
  | resolveFailSafeGate call failure =>
    change Lifecycle service store _ (service.resolveFailSafeGate store call failure).1
    rcases resolveFailSafeGate_writes Prod.mk.eta.symm with same | writes
    · rw [same]
      exact lifecycle_refl _
    · exact writes.lifecycle _
  | createOrGetApprovalRequest call => exact createOrGetApprovalRequest_lifecycle Prod.mk.eta.symm
  | approveRequest call => exact approveRequest_lifecycle Prod.mk.eta.symm
  | denyRequest call => exact denyRequest_lifecycle Prod.mk.eta.symm
  | consumeApprovalToken call => exact consumeApprovalToken_lifecycle Prod.mk.eta.symm
  | reconcileReservation call => exact reconcileReservation_lifecycle Prod.mk.eta.symm
  | reconcileOverdueReservations call =>
    exact reconcileOverdueReservations_lifecycle Prod.mk.eta.symm

theorem Step.lifecycle {operation : Operation} (step : service.Step store operation next) :
    Lifecycle service store operation next := by
  cases step with
  | commit => exact run_lifecycle service store operation
  | rollback => exact lifecycle_refl operation

end Service

end Valdrics.Enforcement

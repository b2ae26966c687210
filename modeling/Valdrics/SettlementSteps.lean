import Valdrics.EnforcementReconciliation

/-! What each operation on an existing decision does to the store: nothing, or one
decision rewritten, with its credit settled when the reservation is released. -/
namespace Valdrics.Enforcement

def Decision.ReleasedTo (before after : Decision) : Prop :=
  after = { before.releaseReservation with
    reasonCodes := after.reasonCodes
    responsePayload := after.responsePayload }

def Decision.TokenIssuedTo (before after : Decision) (expiresAt : Nat) : Prop :=
  after = { before with
    approvalTokenIssued := true
    tokenExpiresAt := some expiresAt
    responsePayload := after.responsePayload }

namespace Decision.ReleasedTo

variable {before after : Decision}

theorem reservationActive (released : before.ReleasedTo after) :
    after.reservationActive = false := by rw [released]; rfl

theorem reservedCreditUsd (released : before.ReleasedTo after) :
    after.reservedCreditUsd = 0 := by rw [released]; rfl

theorem decision (released : before.ReleasedTo after) : after.decision = before.decision := by
  rw [released]; rfl

end Decision.ReleasedTo

/-- The columns of a store that an operation on one decision never writes. -/
structure SameTenant (store next : Store) : Prop where
  tenantId : next.tenantId = store.tenantId
  tenantTier : next.tenantTier = store.tenantTier
  policy : next.policy = store.policy
  budgets : next.budgets = store.budgets

structure Release (store next : Store) (decisionId : Uuid) (before after : Decision)
    (consumed : Int) (now : Nat) : Prop where
  same : SameTenant store next
  decisions : store.decisions.Rewrites next.decisions.toTable decisionId before after
  released : before.ReleasedTo after
  credit : ∃ (start settled : Store) (entries : List CreditSettlementEntry), start.grants = store.grants ∧
    start.allocations = store.allocations ∧
    start.settleCreditReservationsForDecision decisionId before.reservedCreditUsd consumed now =
      .ok (settled,entries) ∧
    next.grants = settled.grants ∧ next.allocations = settled.allocations

namespace Store

theorem loadApprovalWithDecision_eq_ok {store : Store} {approvalId : Uuid}
    {approval : ApprovalRequest} {decision : Decision}
    (loaded : store.loadApprovalWithDecision approvalId = .ok (approval,decision)) :
    store.approvals.find approvalId = some approval ∧
      store.decisions.find approval.decisionId = some decision := by
  obtain ⟨row,first,after⟩ := bind_eq_ok.mp loaded
  obtain ⟨decision',second,result⟩ := bind_eq_ok.mp after
  obtain ⟨rfl,rfl⟩ : row = approval ∧ decision' = decision := by simpa using Except.ok.inj result
  exact ⟨require_eq_ok.mp first,require_eq_ok.mp second⟩

end Store

namespace Service

variable {service : Service}

structure Logged (store next : Store) (decisionId : Uuid) (before after : Decision) : Prop where
  same : SameTenant store next
  grants : next.grants = store.grants
  allocations : next.allocations = store.allocations
  approvals : next.approvals = store.approvals
  decisions : store.decisions.Rewrites next.decisions.toTable decisionId before after

theorem updateDecision_logged (service : Service) (store : Store) {decisionId : Uuid}
    {before : Decision} (approvalId : Option Uuid) (f : Decision → Decision)
    (keeps : ∀ row, (f row).idempotency = row.idempotency)
    (found : store.decisions.find decisionId = some before) :
    Logged store (service.appendDecisionLedgerEntry (store.updateDecision decisionId f keeps)
      decisionId approvalId) decisionId before (f before) := by
  obtain ⟨ledger,appended⟩ := appendDecisionLedgerEntry_eq service
    (store.updateDecision decisionId f keeps) decisionId approvalId
  rw [appended]
  exact ⟨⟨rfl,rfl,rfl,rfl⟩,rfl,rfl,rfl,Table.Rewrites.update f found⟩

theorem releaseDecision_eq_ok {store next : Store} {decisionId : Uuid} {decision : Decision}
    {now : Nat} {note : List CreditSettlementEntry → ResponsePayload → ResponsePayload}
    (released : releaseDecision store decisionId decision now note = .ok next)
    (found : store.decisions.find decisionId = some decision) :
    ∃ after, Release store next decisionId decision after 0 now ∧
      next.approvals = store.approvals := by
  obtain ⟨⟨settled,entries⟩,settlement,result⟩ := bind_eq_ok.mp released
  have frame := Store.settleCreditReservationsForDecision_frame settlement
  obtain rfl := Except.ok.inj result
  have there : settled.decisions.find decisionId = some decision := by
    rw [frame.decisions]
    exact found
  have rewrites := Table.Rewrites.update (·.releaseNoting (note entries)) there
  refine ⟨decision.releaseNoting (note entries),⟨⟨frame.tenantId,frame.tenantTier,frame.policy,
    frame.budgets⟩,?_,rfl,store,settled,entries,rfl,rfl,settlement,rfl,rfl⟩,frame.approvals⟩
  rw [← frame.decisions]
  exact rewrites

theorem Release.withApprovals {store marked next last : Store} {decisionId : Uuid}
    {before after : Decision} {consumed : Int} {now : Nat}
    (release : Release marked next decisionId before after consumed now)
    (same : SameTenant store marked) (grants : marked.grants = store.grants)
    (allocations : marked.allocations = store.allocations)
    (decisions : marked.decisions = store.decisions)
    (lastSame : SameTenant next last) (lastGrants : last.grants = next.grants)
    (lastAllocations : last.allocations = next.allocations)
    (lastDecisions : last.decisions = next.decisions) :
    Release store last decisionId before after consumed now := by
  obtain ⟨start,settled,entries,fromGrants,fromAllocations,settlement,toGrants,toAllocations⟩ :=
    release.credit
  refine ⟨⟨lastSame.tenantId.trans (release.same.tenantId.trans same.tenantId),
    lastSame.tenantTier.trans (release.same.tenantTier.trans same.tenantTier),
    lastSame.policy.trans (release.same.policy.trans same.policy),
    lastSame.budgets.trans (release.same.budgets.trans same.budgets)⟩,?_,release.released,
    start,settled,entries,fromGrants.trans grants,fromAllocations.trans allocations,settlement,
    lastGrants.trans toGrants,lastAllocations.trans toAllocations⟩
  rw [← decisions, lastDecisions]
  exact release.decisions

theorem expireApproval_eq_ok {store next : Store} {approvalId : Uuid}
    {approval : ApprovalRequest} {decision : Decision} {now : Nat}
    (stored : store.approvals.find approvalId = some approval)
    (found : store.decisions.find approval.decisionId = some decision)
    (expired : service.expireApproval store approvalId approval decision now = .ok next) :
    ∃ after, Release store next approval.decisionId decision after 0 now ∧
      store.approvals.Rewrites next.approvals.toTable approvalId approval
        approval.expire := by
  obtain ⟨released,settlement,result⟩ := bind_eq_ok.mp expired
  obtain rfl := Except.ok.inj result
  obtain ⟨after,release,approvals⟩ := releaseDecision_eq_ok settlement found
  obtain ⟨ledger,appended⟩ :=
    appendDecisionLedgerEntry_eq service released approval.decisionId (some approvalId)
  rw [appended]
  refine ⟨after,Release.withApprovals release ⟨rfl,rfl,rfl,rfl⟩ rfl rfl rfl ⟨rfl,rfl,rfl,rfl⟩ rfl rfl
    rfl,?_⟩
  rw [approvals]
  exact Table.Rewrites.update _ stored

structure Granted (service : Service) (store next : Store) (call : ReviewCall)
    (approval approval' : ApprovalRequest) (before after : Decision) (issued : IssuedToken) :
    Prop where
  stored : store.approvals.find call.approvalId = some approval
  pending : approval.status = .pending
  unexpired : call.now < approval.expiresAt
  same : SameTenant store next
  grants : next.grants = store.grants
  allocations : next.allocations = store.allocations
  decisions : store.decisions.Rewrites next.decisions.toTable approval.decisionId before after
  tokenIssued : before.TokenIssuedTo after issued.tokenExpiresAt
  approvals : store.approvals.Rewrites next.approvals.toTable call.approvalId approval approval'
  decisionId : approval'.decisionId = approval.decisionId
  status : approval'.status = .approved
  reviewer : approval'.reviewedByUserId = some call.reviewer.id
  hash : approval'.approvalTokenHash = some (service.sha256 issued.approvalToken)
  expiry : approval'.approvalTokenExpiresAt = some issued.tokenExpiresAt
  consumed : approval'.approvalTokenConsumedAt = approval.approvalTokenConsumedAt
  token : service.buildApprovalToken ⟨store.tenantId,approval.decisionId,before,call.approvalId⟩
    issued.tokenExpiresAt call.tokenNow = .ok issued.approvalToken
  lifetime : issued.tokenExpiresAt =
    call.now + ttlSeconds store.policy * Calendar.microsPerSecond
  issuedFor : issued.approvalId = call.approvalId ∧ issued.decisionId = approval.decisionId ∧
    issued.decision = after

theorem grantApproval_eq_ok {store next : Store} {call : ReviewCall}
    {approval : ApprovalRequest} {decision : Decision} {issued : IssuedToken}
    (stored : store.approvals.find call.approvalId = some approval)
    (found : store.decisions.find approval.decisionId = some decision)
    (pending : approval.status = .pending) (unexpired : call.now < approval.expiresAt)
    (granted : service.grantApproval store call approval decision = .ok (next,issued)) :
    ∃ approval' after, Granted service store next call approval approval' decision after issued := by
  obtain ⟨trace,_,afterTrace⟩ := bind_eq_ok.mp granted
  obtain ⟨token,built,result⟩ := bind_eq_ok.mp afterTrace
  obtain ⟨rfl,rfl⟩ := Prod.mk.inj (Except.ok.inj result)
  have logged := updateDecision_logged service
    (store.updateApproval call.approvalId (·.approve call trace (service.sha256 token)
      (call.now + ttlSeconds store.policy * Calendar.microsPerSecond)) fun _ => rfl)
    (some call.approvalId)
    (·.issueToken call trace (call.now + ttlSeconds store.policy * Calendar.microsPerSecond))
    (fun _ => rfl) found
  obtain ⟨same,grants,allocations,approvals,decisions⟩ := logged
  refine ⟨approval.approve call trace (service.sha256 token)
      (call.now + ttlSeconds store.policy * Calendar.microsPerSecond),_,stored,pending,unexpired,
    ⟨same.tenantId,same.tenantTier,same.policy,same.budgets⟩,grants,allocations,decisions,rfl,?_,
    rfl,rfl,rfl,rfl,rfl,rfl,built,rfl,rfl,rfl,rfl⟩
  rw [approvals]
  exact Table.Rewrites.update (·.approve call trace (service.sha256 token)
    (call.now + ttlSeconds store.policy * Calendar.microsPerSecond)) stored

theorem approveRequest_cases {store next : Store} {call : ReviewCall}
    {outcome : Except Fault IssuedToken}
    (reviewed : service.approveRequest store call = (next,outcome)) :
    (next = store ∧ ∃ fault, outcome = .error fault) ∨
    (∃ approval decision after, store.approvals.find call.approvalId = some approval ∧
      approval.status = .pending ∧ outcome = .error .approvalExpired ∧
      Release store next approval.decisionId decision after 0 call.now ∧
      store.approvals.Rewrites next.approvals.toTable call.approvalId approval
        approval.expire) ∨
    (∃ approval approval' before after issued, outcome = .ok issued ∧
      Granted service store next call approval approval' before after issued) := by
  unfold approveRequest at reviewed
  split at reviewed
  · obtain ⟨rfl,rfl⟩ := Prod.mk.inj reviewed
    exact Or.inl ⟨rfl,_,rfl⟩
  · next approval decision loaded =>
    obtain ⟨stored,found⟩ := Store.loadApprovalWithDecision_eq_ok loaded
    split at reviewed
    · obtain ⟨rfl,rfl⟩ := Prod.mk.inj reviewed
      exact Or.inl ⟨rfl,_,rfl⟩
    · next checked =>
      have pending : approval.status = .pending := by
        simpa [assertPending] using checked
      split at reviewed
      · split at reviewed
        · next expired =>
          obtain ⟨rfl,rfl⟩ := Prod.mk.inj reviewed
          obtain ⟨after,release,approvals⟩ := expireApproval_eq_ok stored found expired
          exact Or.inr (Or.inl ⟨approval,decision,after,stored,pending,rfl,release,approvals⟩)
        · obtain ⟨rfl,rfl⟩ := Prod.mk.inj reviewed
          exact Or.inl ⟨rfl,_,rfl⟩
      · next unexpired =>
        unfold transaction at reviewed
        split at reviewed
        · next last issued granted =>
          obtain ⟨rfl,rfl⟩ := Prod.mk.inj reviewed
          obtain ⟨approval',after,spec⟩ := grantApproval_eq_ok stored found pending (by omega)
            granted
          exact Or.inr (Or.inr ⟨approval,approval',decision,after,issued,rfl,spec⟩)
        · obtain ⟨rfl,rfl⟩ := Prod.mk.inj reviewed
          exact Or.inl ⟨rfl,_,rfl⟩

theorem denyRequest_cases {store next : Store} {call : ReviewCall}
    {outcome : Except Fault Uuid}
    (reviewed : service.denyRequest store call = (next,outcome)) :
    (next = store ∧ ∃ fault, outcome = .error fault) ∨
    (∃ approval approval' decision after, store.approvals.find call.approvalId = some approval ∧
      approval.status = .pending ∧ approval'.status = .denied ∧
      approval'.decisionId = approval.decisionId ∧
      Release store next approval.decisionId decision after 0 call.now ∧
      store.approvals.Rewrites next.approvals.toTable call.approvalId approval approval') := by
  rcases transaction_cases reviewed with ⟨rfl,fault,_,failed⟩ | ⟨value,body,_⟩
  · exact Or.inl ⟨rfl,fault,failed⟩
  · obtain ⟨⟨approval,decision⟩,loaded,afterLoad⟩ := bind_eq_ok.mp body
    obtain ⟨stored,found⟩ := Store.loadApprovalWithDecision_eq_ok loaded
    obtain ⟨_,checked,afterCheck⟩ := bind_eq_ok.mp afterLoad
    have pending : approval.status = .pending := by simpa [assertPending] using checked
    obtain ⟨trace,_,afterTrace⟩ := bind_eq_ok.mp afterCheck
    obtain ⟨released,settlement,result⟩ := bind_eq_ok.mp afterTrace
    obtain ⟨rfl,_⟩ := Prod.mk.inj (Except.ok.inj result)
    obtain ⟨after,release,approvals⟩ := releaseDecision_eq_ok settlement found
    obtain ⟨ledger,appended⟩ :=
      appendDecisionLedgerEntry_eq service released approval.decisionId (some call.approvalId)
    rw [appended]
    refine Or.inr ⟨approval,approval.deny call trace,decision,after,stored,pending,rfl,rfl,
      Release.withApprovals release ⟨rfl,rfl,rfl,rfl⟩ rfl rfl rfl ⟨rfl,rfl,rfl,rfl⟩ rfl rfl rfl,
      ?_⟩
    rw [approvals]
    exact Table.Rewrites.update (·.deny call trace) stored

theorem createOrGetApprovalRequest_cases {store next : Store} {call : ApprovalCall}
    {outcome : Except Fault Uuid}
    (requested : service.createOrGetApprovalRequest store call = (next,outcome)) :
    next = store ∨
    (∃ decision row ledger approvals, store.decisions.find call.decisionId = some decision ∧
      decision.decision = .requireApproval ∧ row.decisionId = call.decisionId ∧
      row.status = .pending ∧ row.approvalTokenHash = none ∧
      row.approvalTokenConsumedAt = none ∧
      store.approvals.insert call.approvalId row = some approvals ∧
      next = { store with approvals, ledger }) := by
  rcases transaction_cases requested with ⟨rfl,_⟩ | ⟨value,body,_⟩
  · exact Or.inl rfl
  · obtain ⟨decision,found,afterFound⟩ := bind_eq_ok.mp body
    obtain ⟨_,asked,afterAsked⟩ := bind_eq_ok.mp afterFound
    split at afterAsked
    · obtain ⟨rfl,_⟩ := Prod.mk.inj (Except.ok.inj afterAsked)
      exact Or.inl rfl
    · obtain ⟨approvals,inserted,result⟩ := bind_eq_ok.mp afterAsked
      obtain ⟨rfl,_⟩ := Prod.mk.inj (Except.ok.inj result)
      obtain ⟨ledger,appended⟩ := appendDecisionLedgerEntry_eq service
        { store with approvals } call.decisionId (some call.approvalId)
      rw [appended]
      exact Or.inr ⟨decision,_,ledger,approvals,require_eq_ok.mp found,
        by simpa using asked,rfl,rfl,rfl,rfl,require_eq_ok.mp inserted,rfl⟩

theorem claimReservation_rewrites {store : Store} {decisionId : Uuid} {decision : Decision}
    (found : store.decisions.find decisionId = some decision) :
    store.decisions.Rewrites (claimReservation store decisionId).decisions.toTable decisionId
      decision decision.claim :=
  Table.Rewrites.update _ found

theorem release_of_claim {store settled next : Store} {decisionId : Uuid}
    {before after : Decision} {consumed : Int} {now : Nat} {entries : List CreditSettlementEntry}
    (found : store.decisions.find decisionId = some before)
    (settlement : (claimReservation store decisionId).settleCreditReservationsForDecision
      decisionId before.reservedCreditUsd consumed now = .ok (settled,entries))
    (logged : Logged settled next decisionId before.claim after)
    (released : before.ReleasedTo after) :
    Release store next decisionId before after consumed now ∧
      next.approvals = store.approvals := by
  have frame := Store.settleCreditReservationsForDecision_frame settlement
  have rewrites := logged.decisions
  rw [frame.decisions] at rewrites
  refine ⟨⟨⟨logged.same.tenantId.trans frame.tenantId,
    logged.same.tenantTier.trans frame.tenantTier,logged.same.policy.trans frame.policy,
    logged.same.budgets.trans frame.budgets⟩,(claimReservation_rewrites found).trans rewrites,
    released,claimReservation store decisionId,settled,entries,rfl,rfl,settlement,logged.grants,
    logged.allocations⟩,logged.approvals.trans frame.approvals⟩

theorem claimed_found {store settled : Store} {decisionId : Uuid} {decision : Decision}
    {reserved consumed : Int} {now : Nat} {entries : List CreditSettlementEntry}
    (found : store.decisions.find decisionId = some decision)
    (settlement : (claimReservation store decisionId).settleCreditReservationsForDecision
      decisionId reserved consumed now = .ok (settled,entries)) :
    settled.decisions.find decisionId = some decision.claim := by
  rw [(Store.settleCreditReservationsForDecision_frame settlement).decisions]
  exact (claimReservation_rewrites found).found

theorem settleReservation_eq_ok {store next : Store} {call : ReconcileCall}
    {decision : Decision} {actual : Int} {result : ReservationReconciliationResult}
    (found : store.decisions.find call.decisionId = some decision)
    (settled : service.settleReservation (claimReservation store call.decisionId) call decision
      actual = .ok (next,result)) :
    ∃ after consumed, Release store next call.decisionId decision after consumed call.now ∧
      next.approvals = store.approvals := by
  obtain ⟨⟨middle,entries⟩,settlement,returned⟩ := bind_eq_ok.mp settled
  obtain ⟨rfl,_⟩ := Prod.mk.inj (Except.ok.inj returned)
  exact ⟨_,_,release_of_claim found settlement
    (updateDecision_logged _ _ _ _ _ (claimed_found found settlement)) rfl⟩

theorem reconcileReservation_cases {store next : Store} {call : ReconcileCall}
    {outcome : Except Fault ReservationReconciliationResult}
    (reconciled : service.reconcileReservation store call = (next,outcome)) :
    next = store ∨
    (∃ decision after consumed, decision.reservationActive = true ∧
      Release store next call.decisionId decision after consumed call.now ∧
      next.approvals = store.approvals) := by
  rcases transaction_cases reconciled with ⟨rfl,_⟩ | ⟨value,body,_⟩
  · exact Or.inl rfl
  · obtain ⟨decision,found,afterFound⟩ := bind_eq_ok.mp body
    obtain ⟨actual,_,afterActual⟩ := bind_eq_ok.mp afterFound
    obtain ⟨_,_,afterCheck⟩ := bind_eq_ok.mp afterActual
    split at afterCheck
    · next active =>
      obtain ⟨after,consumed,release,approvals⟩ :=
        settleReservation_eq_ok (require_eq_ok.mp found) afterCheck
      exact Or.inr ⟨decision,after,consumed,active,release,approvals⟩
    · obtain ⟨replay,_,afterReplay⟩ := bind_eq_ok.mp afterCheck
      obtain ⟨_,_,result⟩ := bind_eq_ok.mp afterReplay
      exact Or.inl (Prod.mk.inj (Except.ok.inj result)).1.symm

theorem releaseOverdue_eq_ok {store next : Store} {call : OverdueCall} {decisionId : Uuid}
    {decision : Decision} (found : store.decisions.find decisionId = some decision)
    (released : service.releaseOverdue store call decisionId decision = .ok next) :
    ∃ after, Release store next decisionId decision after 0 call.now ∧
      next.approvals = store.approvals := by
  obtain ⟨⟨middle,entries⟩,settlement,returned⟩ := bind_eq_ok.mp released
  obtain rfl := Except.ok.inj returned
  exact ⟨_,release_of_claim found settlement
    (updateDecision_logged _ _ _ _ _ (claimed_found found settlement)) rfl⟩

structure Consumed (store next : Store) (context : ApprovalTokenContext) (call : ConsumeCall)
    (approval : ApprovalRequest) : Prop where
  unconsumed : approval.approvalTokenConsumedAt = none
  same : SameTenant store next
  grants : next.grants = store.grants
  allocations : next.allocations = store.allocations
  approvals : store.approvals.Rewrites next.approvals.toTable context.approvalId approval
    (approval.consume call.now)
  decisions : ∀ id, next.decisions.find id =
    if id = context.decisionId then
      (store.decisions.find context.decisionId).map (·.noteConsumption call.actorId call.now)
    else store.decisions.find id

theorem claimConsumption_eq_ok {store next : Store} {context : ApprovalTokenContext}
    {call : ConsumeCall} {id : Uuid}
    (claimed : claimConsumption store context call = .ok (next,id)) :
    id = context.approvalId ∧ ∃ approval, Consumed store next context call approval := by
  obtain ⟨approval,found,afterFound⟩ := bind_eq_ok.mp claimed
  obtain ⟨_,unconsumed,result⟩ := bind_eq_ok.mp afterFound
  obtain ⟨rfl,rfl⟩ := Prod.mk.inj (Except.ok.inj result)
  refine ⟨rfl,approval,by simpa using unconsumed,⟨rfl,rfl,rfl,rfl⟩,rfl,rfl,
    Table.Rewrites.update (fun row : ApprovalRequest => row.consume call.now)
      (require_eq_ok.mp found),?_⟩
  intro id
  change (store.decisions.toTable.update context.decisionId _).find id = _
  rw [Table.find_update]
  split
  · next same => rw [same]
  · rfl

theorem consumeApprovalToken_cases {store next : Store} {call : ConsumeCall}
    {outcome : Except Fault Uuid}
    (consumed : service.consumeApprovalToken store call = (next,outcome)) :
    (next = store ∧ ∃ fault, outcome = .error fault) ∨
    (∃ context approval, service.checkConsume store call = .ok context ∧
      Consumed store next context call approval) := by
  rcases transaction_cases consumed with ⟨rfl,fault,_,failed⟩ | ⟨value,body,_⟩
  · exact Or.inl ⟨rfl,fault,failed⟩
  · obtain ⟨context,checked,claimed⟩ := bind_eq_ok.mp body
    obtain ⟨_,approval,spec⟩ := claimConsumption_eq_ok claimed
    exact Or.inr ⟨context,approval,checked,spec⟩

end Service

end Valdrics.Enforcement

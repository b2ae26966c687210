import Valdrics.RoutingAuthority

/-! Approval routes over a run. A route is resolved when the approval is created; reviews and
queue listings may write back what they read, and no policy change reaches it. -/
namespace Valdrics.Enforcement

open PythonText

/-- A review writes back the trace it read, or leaves the stored one. -/
structure ApprovalRequest.Rereads (service : Service) (before after : ApprovalRequest) : Prop where
  decisionId : after.decisionId = before.decisionId
  requestedByUserId : after.requestedByUserId = before.requestedByUserId
  routingTrace : after.routingTrace = before.routingTrace ∨ ∃ policy decision,
    after.routingTrace = service.routingTraceOrDefault policy decision before

/-- What a step does to the routes: stored ones are read again, and new ones are resolved
from the policy of the moment. -/
structure Reroutes (service : Service) (store next : Store) : Prop where
  kept : ∀ id before, store.approvals.find id = some before →
    ∃ after, next.approvals.find id = some after ∧ before.Rereads service after
  created : ∀ id row, store.approvals.find id = none → next.approvals.find id = some row →
    ∃ decision, next.decisions.find row.decisionId = some decision ∧
      row.routingTrace = service.resolveApprovalRoutingTrace store.policy decision

namespace Service

variable (service : Service)

/-- `enforce_reviewer_authority` stores the trace it reads with the approval. -/
def takeReviewTrace (store : Store) (approvalId : Uuid) : Store :=
  match store.loadApprovalWithDecision approvalId with
  | .error _ => store
  | .ok (approval,decision) =>
    store.updateApproval approvalId
      (·.takeTrace (service.routingTraceOrDefault store.policy decision approval)) fun _ => rfl

def pendingApprovals (store : Store) (limit : Int) (now : Nat) :
    List (Uuid × ApprovalRequest × Decision) :=
  ((store.approvals.rows.filterMap fun entry =>
    if entry.2.status = .pending ∧ now ≤ entry.2.expiresAt then
      (store.decisions.find entry.2.decisionId).map fun decision => (entry.1,entry.2,decision)
    else none)).take (max 1 (min limit 200)).toNat

/-- The queue of a reviewer: the requests whose route admits them, reviewed as they are read. -/
def listPendingApprovals (store : Store) (reviewer : Option CurrentUser) (limit : Int)
    (now : Nat) : Store × List (Uuid × ApprovalRequest × Decision) :=
  let pending := pendingApprovals store limit now
  match reviewer with
  | none => (store,pending)
  | some reviewer =>
    ((pending.map Prod.fst).foldl service.takeReviewTrace store,
      pending.filter fun entry =>
        match service.enforceReviewerAuthority store.policy entry.2.1 entry.2.2 reviewer false with
        | .ok _ => true
        | .error _ => false)

end Service

inductive ReviewEvent where
  | operation (operation : Operation)
  | listPending (reviewer : Option CurrentUser) (limit : Int) (now : Nat)
  | refusedReview (approvalId : Uuid)

namespace Service

variable (service : Service)

/-- A listing and a refused review commit the trace they read, or their session ends without
a commit. -/
inductive ReviewStep (store : Store) : ReviewEvent → Store → Prop where
  | operation (step : service.Step store operation next) :
      ReviewStep store (.operation operation) next
  | listed : ReviewStep store (.listPending reviewer limit now)
      (service.listPendingApprovals store reviewer limit now).1
  | refused : ReviewStep store (.refusedReview approvalId)
      (service.takeReviewTrace store approvalId)
  | dropped : ReviewStep store event store

end Service

namespace ApprovalRequest.Rereads

variable {service : Service} {before after : ApprovalRequest}

theorem refl (row : ApprovalRequest) : row.Rereads service row := ⟨rfl,rfl,Or.inl rfl⟩

theorem settled (reads : before.Rereads service after)
    (settled : before.routingTrace.Settled service) :
    after.routingTrace.Settled service ∧
      after.routingTrace.authority.Same before.routingTrace.authority := by
  rcases reads.routingTrace with same | ⟨policy,decision,read⟩
  · rw [same]
    exact ⟨settled,.refl _⟩
  · rw [read]
    exact Service.routingTraceOrDefault_settled policy decision settled

end ApprovalRequest.Rereads

namespace Reroutes

variable {service : Service} {store next : Store}

theorem of_approvals (same : next.approvals = store.approvals) : Reroutes service store next := by
  refine ⟨?_,?_⟩
  · intro id row found
    rw [same]
    exact ⟨row,found,.refl row⟩
  · intro id row absent found
    rw [same,absent] at found
    contradiction

theorem of_rewrites {id : Uuid} {before after : ApprovalRequest}
    (rewrites : store.approvals.Rewrites next.approvals.toTable id before after)
    (reads : before.Rereads service after) : Reroutes service store next := by
  refine ⟨?_,?_⟩
  · intro other row found
    by_cases same : other = id
    · subst same
      obtain rfl := Option.some.inj (rewrites.was.symm.trans found)
      exact ⟨after,rewrites.found,reads⟩
    · exact ⟨row,(rewrites.other same).trans found,.refl row⟩
  · intro other row absent found
    by_cases same : other = id
    · subst same
      have was := rewrites.was
      rw [absent] at was
      contradiction
    · rw [rewrites.other same,absent] at found
      contradiction

theorem of_insert {id : Uuid} {row : ApprovalRequest} {decision : Decision}
    (inserted : store.approvals.insert id row = some next.approvals)
    (found : next.decisions.find row.decisionId = some decision)
    (resolved : row.routingTrace = service.resolveApprovalRoutingTrace store.policy decision) :
    Reroutes service store next := by
  have finds : ∀ other, next.approvals.find other =
      if other = id then some row else store.approvals.find other :=
    fun _ => UniqueTable.find_insert inserted
  have fresh := (Table.insert_eq_some (UniqueTable.insert_eq_some inserted).1).1
  refine ⟨?_,?_⟩
  · intro other before there
    have apart : other ≠ id := by
      rintro rfl
      rw [fresh] at there
      contradiction
    exact ⟨before,by rw [finds,if_neg apart,there],.refl before⟩
  · intro other new absent there
    rw [finds] at there
    split at there
    · obtain rfl := Option.some.inj there
      exact ⟨decision,found,resolved⟩
    · rw [absent] at there
      contradiction

end Reroutes

namespace Service

variable {service : Service} {store next : Store}

theorem persistBody_reroutes {context : GateEvaluationContext} {call : GateCall}
    {draft : GateDraft} {approvalId : Option Uuid} (policy : context.policy = store.policy)
    (body : service.persistBody store context call draft (fun flushed =>
      service.reserveCredits flushed call draft) = .ok (next,approvalId)) :
    Reroutes service store next := by
  obtain ⟨payload,finds⟩ := (persistBody_eq_ok (fun _ _ _ => reserveCredits_frame) body).inserted
  obtain ⟨decisions,_,afterDecision⟩ := bind_eq_ok.mp body
  obtain ⟨⟨reserved,entries⟩,credit,afterCredit⟩ := bind_eq_ok.mp afterDecision
  obtain ⟨⟨approved,approvalId'⟩,approval,result⟩ := bind_eq_ok.mp afterCredit
  obtain ⟨recorded,recordedEq,_⟩ := recordAllocations_eq reserved call.decisionId entries
  have before : (recordAllocations reserved call.decisionId entries).approvals =
      store.approvals := by
    rw [recordedEq]
    exact (reserveCredits_frame credit).approvals
  obtain ⟨ledger,appended⟩ :=
    appendDecisionLedgerEntry_eq service approved call.decisionId approvalId'
  obtain ⟨sameNext,_⟩ := Prod.mk.inj (Except.ok.inj result)
  have approvals : next.approvals = approved.approvals := by rw [← sameNext,appended]
  unfold createApproval at approval
  split at approval
  · obtain ⟨added,inserted,returned⟩ := bind_eq_ok.mp approval
    obtain ⟨rfl,_⟩ := Prod.mk.inj (Except.ok.inj returned)
    have stored := require_eq_ok.mp inserted
    rw [before,← show next.approvals = added from approvals] at stored
    have found := finds call.decisionId
    rw [if_pos rfl] at found
    refine .of_insert stored found ?_
    rw [policy]
    rfl
  · obtain ⟨rfl,_⟩ := Prod.mk.inj (Except.ok.inj approval)
    exact .of_approvals (approvals.trans before)

theorem buildGateEvaluationContext_policy {policy : Policy} {call : GateCall}
    {context : GateEvaluationContext}
    (built : service.buildGateEvaluationContext policy call.source call.gateInput =
      .ok context) : context.policy = policy := by
  obtain ⟨_,_,result⟩ := bind_eq_ok.mp built
  exact (Except.ok.inj result) ▸ rfl

theorem evaluateGate_reroutes {call : GateCall} {outcome : Except Fault GateEvaluationResult}
    (evaluated : service.evaluateGate store call = (next,outcome)) :
    Reroutes service store next := by
  unfold evaluateGate at evaluated
  split at evaluated
  · exact .of_approvals (by rw [← (Prod.mk.inj evaluated).1])
  · next context built =>
    split at evaluated
    · exact .of_approvals (by rw [← (Prod.mk.inj evaluated).1])
    · split at evaluated
      · exact .of_approvals (by rw [← (Prod.mk.inj evaluated).1])
      · rcases persistDecision_body evaluated with rfl | ⟨approvalId,body⟩
        · exact .of_approvals rfl
        · exact persistBody_reroutes (buildGateEvaluationContext_policy built) body

theorem resolveFailSafeGate_reroutes {call : GateCall} {failure : FailSafe}
    {outcome : Except Fault GateEvaluationResult}
    (resolved : service.resolveFailSafeGate store call failure = (next,outcome)) :
    Reroutes service store next := by
  unfold resolveFailSafeGate at resolved
  split at resolved
  · exact .of_approvals (by rw [← (Prod.mk.inj resolved).1])
  · next context built =>
    split at resolved
    · exact .of_approvals (by rw [← (Prod.mk.inj resolved).1])
    · split at resolved
      · exact .of_approvals (by rw [← (Prod.mk.inj resolved).1])
      · rcases persistDecision_body resolved with rfl | ⟨approvalId,body⟩
        · exact .of_approvals rfl
        · exact persistBody_reroutes (buildGateEvaluationContext_policy built) body

theorem createOrGetApprovalRequest_reroutes {call : ApprovalCall} {outcome : Except Fault Uuid}
    (requested : service.createOrGetApprovalRequest store call = (next,outcome)) :
    Reroutes service store next := by
  rcases transaction_cases requested with ⟨rfl,_⟩ | ⟨value,body,_⟩
  · exact .of_approvals rfl
  · obtain ⟨decision,found,afterFound⟩ := bind_eq_ok.mp body
    obtain ⟨_,_,afterAsked⟩ := bind_eq_ok.mp afterFound
    split at afterAsked
    · obtain ⟨rfl,_⟩ := Prod.mk.inj (Except.ok.inj afterAsked)
      exact .of_approvals rfl
    · obtain ⟨approvals,inserted,result⟩ := bind_eq_ok.mp afterAsked
      obtain ⟨rfl,_⟩ := Prod.mk.inj (Except.ok.inj result)
      obtain ⟨ledger,appended⟩ := appendDecisionLedgerEntry_eq service
        { store with approvals } call.decisionId (some call.approvalId)
      rw [appended]
      exact .of_insert (require_eq_ok.mp inserted) (require_eq_ok.mp found) rfl

/-- A review that is let through returns the trace it read. -/
theorem enforceReviewerAuthority_trace {policy : Policy} {approval : ApprovalRequest}
    {decision : Decision} {reviewer : CurrentUser} {flag : Bool} {trace : RoutingTrace}
    (checked : service.enforceReviewerAuthority policy approval decision reviewer flag =
      .ok trace) : trace = service.routingTraceOrDefault policy decision approval := by
  obtain ⟨_,_,afterRole⟩ := bind_eq_ok.mp checked
  obtain ⟨_,_,afterPermission⟩ := bind_eq_ok.mp afterRole
  obtain ⟨_,_,afterUser⟩ := bind_eq_ok.mp afterPermission
  obtain ⟨_,_,result⟩ := bind_eq_ok.mp afterUser
  exact (Except.ok.inj result).symm

theorem grantApproval_reroutes {call : ReviewCall} {approval : ApprovalRequest}
    {decision : Decision} {issued : IssuedToken}
    (stored : store.approvals.find call.approvalId = some approval)
    (granted : service.grantApproval store call approval decision = .ok (next,issued)) :
    Reroutes service store next := by
  obtain ⟨trace,authority,afterTrace⟩ := bind_eq_ok.mp granted
  obtain ⟨token,_,result⟩ := bind_eq_ok.mp afterTrace
  obtain ⟨rfl,_⟩ := Prod.mk.inj (Except.ok.inj result)
  obtain ⟨ledger,appended⟩ := appendDecisionLedgerEntry_eq service
    ((store.updateApproval call.approvalId (·.approve call trace (service.sha256 token)
      (call.now + ttlSeconds store.policy * Calendar.microsPerSecond)) fun _ => rfl).updateDecision
      approval.decisionId (·.issueToken call trace
        (call.now + ttlSeconds store.policy * Calendar.microsPerSecond)) fun _ => rfl)
    approval.decisionId (some call.approvalId)
  rw [appended]
  have rewrites := Table.Rewrites.update (fun row : ApprovalRequest => row.approve call trace
    (service.sha256 token) (call.now + ttlSeconds store.policy * Calendar.microsPerSecond)) stored
  exact .of_rewrites rewrites
    ⟨rfl,rfl,Or.inr ⟨store.policy,decision,enforceReviewerAuthority_trace authority⟩⟩

theorem approveRequest_reroutes {call : ReviewCall} {outcome : Except Fault IssuedToken}
    (reviewed : service.approveRequest store call = (next,outcome)) :
    Reroutes service store next := by
  unfold approveRequest at reviewed
  split at reviewed
  · exact .of_approvals (by rw [← (Prod.mk.inj reviewed).1])
  · next approval decision loaded =>
    obtain ⟨stored,found⟩ := Store.loadApprovalWithDecision_eq_ok loaded
    split at reviewed
    · exact .of_approvals (by rw [← (Prod.mk.inj reviewed).1])
    · split at reviewed
      · split at reviewed
        · next last expired =>
          obtain ⟨rfl,_⟩ := Prod.mk.inj reviewed
          obtain ⟨_,_,approvals⟩ := expireApproval_eq_ok stored found expired
          exact .of_rewrites approvals ⟨rfl,rfl,Or.inl rfl⟩
        · exact .of_approvals (by rw [← (Prod.mk.inj reviewed).1])
      · rcases transaction_cases reviewed with ⟨rfl,_⟩ | ⟨_,granted,_⟩
        · exact .of_approvals rfl
        · exact grantApproval_reroutes stored granted

theorem denyRequest_reroutes {call : ReviewCall} {outcome : Except Fault Uuid}
    (reviewed : service.denyRequest store call = (next,outcome)) :
    Reroutes service store next := by
  rcases transaction_cases reviewed with ⟨rfl,_⟩ | ⟨value,body,_⟩
  · exact .of_approvals rfl
  · obtain ⟨⟨approval,decision⟩,loaded,afterLoad⟩ := bind_eq_ok.mp body
    obtain ⟨stored,found⟩ := Store.loadApprovalWithDecision_eq_ok loaded
    obtain ⟨_,_,afterCheck⟩ := bind_eq_ok.mp afterLoad
    obtain ⟨trace,authority,afterTrace⟩ := bind_eq_ok.mp afterCheck
    obtain ⟨released,settlement,result⟩ := bind_eq_ok.mp afterTrace
    obtain ⟨rfl,_⟩ := Prod.mk.inj (Except.ok.inj result)
    obtain ⟨_,_,approvals⟩ := releaseDecision_eq_ok settlement found
    obtain ⟨ledger,appended⟩ :=
      appendDecisionLedgerEntry_eq service released approval.decisionId (some call.approvalId)
    rw [appended]
    have rewrites : store.approvals.Rewrites
        { released with ledger }.approvals.toTable call.approvalId approval
        (approval.deny call trace) := by
      rw [approvals]
      exact Table.Rewrites.update (·.deny call trace) stored
    exact .of_rewrites rewrites
      ⟨rfl,rfl,Or.inr ⟨store.policy,decision,enforceReviewerAuthority_trace authority⟩⟩

theorem run_reroutes (service : Service) (store : Store) (operation : Operation) :
    Reroutes service store (service.run store operation).1 := by
  cases operation with
  | createCreditGrant call =>
    change Reroutes service store (service.createCreditGrant store call).1
    rcases createCreditGrant_cases service Prod.mk.eta.symm with same | ⟨_,grants,_,_,_,same⟩
    · exact .of_approvals (by rw [same])
    · exact .of_approvals (by rw [same])
  | upsertBudget call =>
    change Reroutes service store (service.upsertBudget store call).1
    obtain ⟨budgets,same⟩ := upsertBudget_cases service Prod.mk.eta.symm
    exact .of_approvals (by rw [same])
  | updatePolicy policy => exact .of_approvals rfl
  | evaluateGate call => exact evaluateGate_reroutes Prod.mk.eta.symm
  | resolveFailSafeGate call failure => exact resolveFailSafeGate_reroutes Prod.mk.eta.symm
  | createOrGetApprovalRequest call => exact createOrGetApprovalRequest_reroutes Prod.mk.eta.symm
  | approveRequest call => exact approveRequest_reroutes Prod.mk.eta.symm
  | denyRequest call => exact denyRequest_reroutes Prod.mk.eta.symm
  | consumeApprovalToken call =>
    change Reroutes service store (service.consumeApprovalToken store call).1
    rcases consumeApprovalToken_cases Prod.mk.eta.symm with ⟨same,_⟩ | ⟨context,approval,_,spec⟩
    · exact .of_approvals (by rw [same])
    · exact .of_rewrites spec.approvals ⟨rfl,rfl,Or.inl rfl⟩
  | reconcileReservation call =>
    change Reroutes service store (service.reconcileReservation store call).1
    rcases reconcileReservation_cases Prod.mk.eta.symm with same | ⟨_,_,_,_,_,approvals⟩
    · exact .of_approvals (by rw [same])
    · exact .of_approvals approvals
  | reconcileOverdueReservations call =>
    exact .of_approvals (reconcileOverdue_releases Prod.mk.eta.symm).2

theorem takeReviewTrace_cases (service : Service) (store : Store) (approvalId : Uuid) :
    service.takeReviewTrace store approvalId = store ∨
    ∃ before decision, store.approvals.Rewrites
      (service.takeReviewTrace store approvalId).approvals.toTable approvalId before
      (before.takeTrace (service.routingTraceOrDefault store.policy decision before)) := by
  unfold takeReviewTrace
  split
  · exact Or.inl rfl
  · next approval decision loaded =>
    have stored := (Store.loadApprovalWithDecision_eq_ok loaded).1
    have rewrites := Table.Rewrites.update (fun row : ApprovalRequest => row.takeTrace
      (service.routingTraceOrDefault store.policy decision approval)) stored
    exact Or.inr ⟨approval,decision,rewrites⟩

theorem takeReviewTrace_reroutes (service : Service) (store : Store) (approvalId : Uuid) :
    Reroutes service store (service.takeReviewTrace store approvalId) := by
  rcases service.takeReviewTrace_cases store approvalId with same | ⟨before,decision,rewrites⟩
  · exact .of_approvals (by rw [same])
  · exact .of_rewrites rewrites ⟨rfl,rfl,Or.inr ⟨store.policy,decision,rfl⟩⟩

theorem takeReviewTrace_absent {approvalId id : Uuid} (absent : store.approvals.find id = none) :
    (service.takeReviewTrace store approvalId).approvals.find id = none := by
  rcases service.takeReviewTrace_cases store approvalId with same | ⟨before,decision,rewrites⟩
  · rw [same,absent]
  · have apart : id ≠ approvalId := by
      rintro rfl
      have was := rewrites.was
      rw [absent] at was
      contradiction
    rw [rewrites.other apart,absent]

theorem takeReviewTraces_absent {ids : List Uuid} {id : Uuid}
    (absent : store.approvals.find id = none) :
    (ids.foldl service.takeReviewTrace store).approvals.find id = none := by
  induction ids generalizing store with
  | nil => exact absent
  | cons first ids ih => exact ih (takeReviewTrace_absent absent)

end Service

/-- The approval still demands what it demanded at first, of the same requester's reviewers. -/
def Store.Frozen (store : Store) (service : Service) (id : Uuid) (requester : Option Uuid)
    (authority : Authority) : Prop :=
  ∃ row, store.approvals.find id = some row ∧ row.requestedByUserId = requester ∧
    row.routingTrace.Settled service ∧ row.routingTrace.authority.Same authority

section Frozen

variable {service : Service} {store next : Store} {id : Uuid} {requester : Option Uuid}
  {authority : Authority}

theorem Reroutes.frozen (reroutes : Reroutes service store next)
    (frozen : store.Frozen service id requester authority) :
    next.Frozen service id requester authority := by
  obtain ⟨row,found,rfl,settled,same⟩ := frozen
  obtain ⟨after,there,reads⟩ := reroutes.kept id row found
  obtain ⟨still,equal⟩ := reads.settled settled
  exact ⟨after,there,reads.requestedByUserId,still,equal.trans same⟩

theorem Store.Frozen.listed {ids : List Uuid}
    (frozen : store.Frozen service id requester authority) :
    (ids.foldl service.takeReviewTrace store).Frozen service id requester authority := by
  induction ids generalizing store with
  | nil => exact frozen
  | cons first ids ih => exact ih ((service.takeReviewTrace_reroutes store first).frozen frozen)

theorem Service.ReviewStep.frozen {event : ReviewEvent} (step : service.ReviewStep store event next)
    (frozen : store.Frozen service id requester authority) :
    next.Frozen service id requester authority := by
  cases step with
  | operation taken =>
    cases taken with
    | commit => exact (Service.run_reroutes service store _).frozen frozen
    | rollback => exact frozen
  | @listed reviewer limit now =>
    cases reviewer with
    | none => exact frozen
    | some reviewer => exact frozen.listed
  | refused => exact (service.takeReviewTrace_reroutes store _).frozen frozen
  | dropped => exact frozen

theorem Service.ReviewStep.created {event : ReviewEvent} {row : ApprovalRequest}
    (step : service.ReviewStep store event next) (absent : store.approvals.find id = none)
    (there : next.approvals.find id = some row) :
    ∃ decision, next.decisions.find row.decisionId = some decision ∧
      row.routingTrace = service.resolveApprovalRoutingTrace store.policy decision := by
  cases step with
  | operation taken =>
    cases taken with
    | commit => exact (Service.run_reroutes service store _).created id row absent there
    | rollback =>
      rw [absent] at there
      contradiction
  | @listed reviewer limit now =>
    cases reviewer with
    | none =>
      rw [show (service.listPendingApprovals store none limit now).1 = store from rfl,absent]
        at there
      contradiction
    | some reviewer =>
      have still : (((Service.pendingApprovals store limit now).map Prod.fst).foldl
          service.takeReviewTrace store).approvals.find id = none :=
        Service.takeReviewTraces_absent absent
      exact absurd (still.symm.trans there) (by simp)
  | refused =>
    rw [Service.takeReviewTrace_absent absent] at there
    contradiction
  | dropped =>
    rw [absent] at there
    contradiction

end Frozen

/-- The review of an approval is held to the route of the policy it was created under, after
any run and whatever the policy says then. -/
theorem routing_frozen (service : Service) {store created last : Store} {event : ReviewEvent}
    {events : List ReviewEvent} {id : Uuid} {row : ApprovalRequest}
    (step : service.ReviewStep store event created)
    (absent : store.approvals.find id = none) (there : created.approvals.find id = some row)
    (run : Trace service.ReviewStep created events last) :
    ∃ decision authority, created.decisions.find row.decisionId = some decision ∧
      service.Routes store.policy decision authority ∧
      ∃ now, last.approvals.find id = some now ∧ ∀ policy decision' reviewer flag,
        (∃ trace, service.enforceReviewerAuthority policy now decision' reviewer flag =
          .ok trace) ↔ authority.Admits service row.requestedByUserId reviewer flag := by
  obtain ⟨decision,found,resolved⟩ := step.created absent there
  have settled := service.resolveApprovalRoutingTrace_settled store.policy decision
  rw [← resolved] at settled
  have frozen : created.Frozen service id row.requestedByUserId row.routingTrace.authority :=
    ⟨row,there,rfl,settled,.refl _⟩
  obtain ⟨now,present,requester,still,same⟩ := run.keeps
    (fun store => store.Frozen service id row.requestedByUserId row.routingTrace.authority)
    Service.ReviewStep.frozen frozen
  refine ⟨decision,_,found,service.resolveApprovalRoutingTrace_routes store.policy decision,now,
    present,?_⟩
  intro policy decision' reviewer flag
  rw [Service.enforceReviewerAuthority_iff policy decision' still,requester,← resolved]
  exact ⟨same.admits,same.symm.admits⟩

namespace Sample

/-- Members may review changes of the alpha project's applies; the other rules pass it by. -/
def routedPolicy : Policy :=
  { policy with
    requireApprovalForNonprod := true
    approvalRoutingRules :=
      [{ ruleId := "off", enabled := false, allowedReviewerRoles := ["owner"] },
        { ruleId := "prod", environments := ["live"], allowedReviewerRoles := ["owner"] },
        { ruleId := "applies", environments := [" Dev "], actionPrefixes := ["Terraform."]
          maxMonthlyDeltaUsd := some 1000000, allowedReviewerRoles := ["Member"] }] }

def strictPolicy : Policy :=
  { policy with
    approvalRoutingRules := [{ ruleId := "owners", allowedReviewerRoles := ["owner"] }] }

def routedStore : Store := { store with policy := routedPolicy }

def routed : Store := ((signing []).run routedStore (.evaluateGate (gate 1 "alpha" "first" 60 0))).1

def reviewedLater : Store :=
  (signing []).takeReviewTrace ((signing []).listPendingApprovals
    ((signing []).run routed (.updatePolicy strictPolicy)).1 (some ⟨7,"owner"⟩) 50 3).1 1

end Sample

theorem routing_frozen_routed :
    ∃ row decision authority now, Sample.routed.approvals.find 1 = some row ∧
      row.routingTrace.ruleId = "applies" ∧
      (Sample.signing []).Routes Sample.routedPolicy decision authority ∧
      Sample.reviewedLater.approvals.find 1 = some now ∧
      ∀ reviewer flag, (∃ trace, (Sample.signing []).enforceReviewerAuthority Sample.strictPolicy
        now decision reviewer flag = .ok trace) ↔
        authority.Admits (Sample.signing []) row.requestedByUserId reviewer flag := by
  have asked : (Sample.routed.approvals.find 1).any
      (fun row => row.routingTrace.ruleId = "applies") = true := by decide +kernel
  obtain ⟨row,there,named⟩ := (Option.any_eq_true _ _).mp asked
  obtain ⟨decision,authority,_,routes,now,present,admits⟩ := routing_frozen (Sample.signing [])
    (.operation (.commit : (Sample.signing []).Step Sample.routedStore _ Sample.routed)) rfl there
    (.go (.operation .commit) (.go .listed (.go .refused .stop)) :
      Trace (Sample.signing []).ReviewStep Sample.routed [.operation (.updatePolicy
        Sample.strictPolicy),.listPending (some ⟨7,"owner"⟩) 50 3,.refusedReview 1]
        Sample.reviewedLater)
  exact ⟨row,decision,authority,now,there,by simpa using named,routes,present,
    fun reviewer flag => admits Sample.strictPolicy decision reviewer flag⟩

end Valdrics.Enforcement

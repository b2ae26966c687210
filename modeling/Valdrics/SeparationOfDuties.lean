import Valdrics.ApprovalLifecycle

/-! Requester and reviewer. The authority check compares the reviewer with the requester
of the approval, who is the requester of the decision unless the approval was asked for
afterwards by someone else. -/
namespace Valdrics.Enforcement

open PythonText

namespace Service

variable {service : Service}

theorem normalizeRoleValue_supported {role : String} (supported : role ∈ supportedReviewerRoles) :
    service.normalizeRoleValue role = role := by
  have plain : IsAscii (strip role) ∧ lowerAscii (strip role) = role := by
    revert role
    decide
  exact (service.text.ascii _ plain.1).trans plain.2

theorem mem_normalizeAllowedReviewerRoles {roles : List String} {role : String}
    (supported : ∀ value ∈ roles, value ∈ supportedReviewerRoles) (some_ : roles ≠ []) :
    role ∈ service.normalizeAllowedReviewerRoles roles ↔ role ∈ roles := by
  have kept : ∀ value, value ∈ keepFirst ((roles.map service.normalizeRoleValue).filter
      (· ∈ supportedReviewerRoles)) ↔ value ∈ roles := by
    intro value
    rw [mem_keepFirst]
    simp only [List.mem_filter,List.mem_map,decide_eq_true_eq]
    constructor
    · rintro ⟨⟨⟨first,there,rfl⟩,_⟩,_⟩
      rw [normalizeRoleValue_supported (supported first there)]
      exact there
    · intro there
      have listed := supported value there
      refine ⟨⟨⟨value,there,normalizeRoleValue_supported listed⟩,listed⟩,?_⟩
      rintro rfl
      revert listed
      decide
  unfold normalizeAllowedReviewerRoles
  dsimp only
  split
  · next empty =>
    obtain ⟨first,there⟩ := List.exists_mem_of_ne_nil roles some_
    have still := (kept first).mpr there
    rw [empty] at still
    simp at still
  · exact kept role

theorem normalizeAllowedReviewerRoles_supported (roles : List String) :
    (∀ role ∈ service.normalizeAllowedReviewerRoles roles, role ∈ supportedReviewerRoles) ∧
      service.normalizeAllowedReviewerRoles roles ≠ [] := by
  unfold normalizeAllowedReviewerRoles
  dsimp only
  split
  · exact ⟨by decide,by decide⟩
  · next some_ =>
    refine ⟨fun role there => ?_,some_⟩
    have listed := ((mem_keepFirst _).mp there).1
    simpa using (List.mem_filter.mp listed).2

def NormalRoles (trace : RoutingTrace) : Prop :=
  (∀ role ∈ trace.allowedReviewerRoles, role ∈ supportedReviewerRoles) ∧
    trace.allowedReviewerRoles ≠ []

theorem resolveApprovalRoutingTrace_normal (policy : Policy) (decision : Decision) :
    NormalRoles (service.resolveApprovalRoutingTrace policy decision) := by
  unfold resolveApprovalRoutingTrace
  dsimp only
  split
  · exact normalizeAllowedReviewerRoles_supported _
  · change (∀ role ∈ defaultAllowedReviewerRoles, role ∈ supportedReviewerRoles) ∧
      defaultAllowedReviewerRoles ≠ []
    decide

theorem routingTraceOrDefault_normal (policy : Policy) (decision : Decision)
    (approval : ApprovalRequest) :
    NormalRoles (service.routingTraceOrDefault policy decision approval) := by
  unfold routingTraceOrDefault
  dsimp only
  split
  · exact resolveApprovalRoutingTrace_normal policy decision
  · split
    · exact resolveApprovalRoutingTrace_normal policy decision
    · exact normalizeAllowedReviewerRoles_supported _

structure Authorised (service : Service) (approval : ApprovalRequest) (reviewer : CurrentUser)
    (trace : RoutingTrace) : Prop where
  role : service.normalizeRoleValue reviewer.role ∈ trace.allowedReviewerRoles
  apart : trace.requireRequesterReviewerSeparation = true →
    approval.requestedByUserId ≠ some reviewer.id

theorem enforceReviewerAuthority_authorised {policy : Policy} {approval : ApprovalRequest}
    {decision : Decision} {reviewer : CurrentUser} {trace : RoutingTrace}
    (checked : service.enforceReviewerAuthority policy approval decision reviewer true =
      .ok trace) : Authorised service approval reviewer trace := by
  obtain ⟨_,role,afterRole⟩ := bind_eq_ok.mp checked
  obtain ⟨permission,_,afterPermission⟩ := bind_eq_ok.mp afterRole
  obtain ⟨_,_,afterUser⟩ := bind_eq_ok.mp afterPermission
  obtain ⟨_,separation,result⟩ := bind_eq_ok.mp afterUser
  obtain rfl := Except.ok.inj result
  have normal : NormalRoles (service.routingTraceOrDefault policy decision approval) :=
    routingTraceOrDefault_normal policy decision approval
  refine ⟨?_,?_⟩
  · rw [refuse_eq_ok, not_not] at role
    exact (mem_normalizeAllowedReviewerRoles normal.1 normal.2).mp role
  · intro required same
    rw [refuse_eq_ok] at separation
    exact separation ⟨rfl,required,same⟩

end Service

def Requested (past : List Operation) (id : Uuid) (row : ApprovalRequest) (decision : Decision) :
    Prop :=
  row.requestedByUserId = some decision.createdByUserId ∨
    ∃ ask : ApprovalCall, .createOrGetApprovalRequest ask ∈ past ∧ ask.approvalId = id ∧
      ask.decisionId = row.decisionId ∧ row.requestedByUserId = some ask.actorId

structure Reviewed (service : Service) (past : List Operation) (id : Uuid) (row : ApprovalRequest)
    (decision : Decision) (review : ReviewCall) : Prop where
  made : .approveRequest review ∈ past
  approvalId : review.approvalId = id
  reviewedByUserId : row.reviewedByUserId = some review.reviewer.id
  authorised : service.Authorised row review.reviewer row.routingTrace
  after : row.requestedByUserId = some decision.createdByUserId ∨ ∃ ask : ApprovalCall,
    [.createOrGetApprovalRequest ask,.approveRequest review].Sublist past ∧ ask.approvalId = id ∧
      ask.decisionId = row.decisionId ∧ row.requestedByUserId = some ask.actorId

structure Duties (service : Service) (past : List Operation) (store : Store) : Prop where
  requested : ∀ id row, store.approvals.find id = some row → ∃ decision,
    store.decisions.find row.decisionId = some decision ∧ decision.decision = .requireApproval ∧
      Requested past id row decision
  reviewed : ∀ id row decision, store.approvals.find id = some row → row.status = .approved →
    store.decisions.find row.decisionId = some decision →
    ∃ review, Reviewed service past id row decision review

section Past

variable {service : Service} {past : List Operation} {id : Uuid} {row : ApprovalRequest}
  {decision : Decision} {review : ReviewCall}

theorem Requested.later (requested : Requested past id row decision) (operation : Operation) :
    Requested (past ++ [operation]) id row decision := by
  rcases requested with same | ⟨ask,made,rest⟩
  · exact Or.inl same
  · exact Or.inr ⟨ask,List.mem_append_left _ made,rest⟩

theorem Requested.congr {row' : ApprovalRequest} {decision' : Decision}
    (requested : Requested past id row decision) (request : row.SameRequest row')
    (carries : decision.Carries decision') : Requested past id row' decision' := by
  unfold Requested
  rw [request.requestedByUserId, request.decisionId, carries.createdByUserId]
  exact requested

theorem Reviewed.later (reviewed : Reviewed service past id row decision review)
    (operation : Operation) : Reviewed service (past ++ [operation]) id row decision review := by
  refine ⟨List.mem_append_left _ reviewed.made,reviewed.approvalId,reviewed.reviewedByUserId,
    reviewed.authorised,?_⟩
  rcases reviewed.after with same | ⟨ask,before,rest⟩
  · exact Or.inl same
  · exact Or.inr ⟨ask,before.trans (List.sublist_append_left past [operation]),rest⟩

theorem Reviewed.carried {decision' : Decision}
    (reviewed : Reviewed service past id row decision review)
    (carries : decision.Carries decision') : Reviewed service past id row decision' review := by
  obtain ⟨made,approvalId,reviewer,authorised,after⟩ := reviewed
  refine ⟨made,approvalId,reviewer,authorised,?_⟩
  rw [carries.createdByUserId]
  exact after

end Past

namespace Duties

variable {service : Service} {past : List Operation} {store next : Store} {operation : Operation}

theorem unused (service : Service) {store : Store} (unused : store.Unused) :
    Duties service [] store := by
  constructor
  · intro id row found
    simp [unused.approvals,UniqueTable.empty] at found
  · intro id row decision found
    simp [unused.approvals,UniqueTable.empty] at found

theorem requested_step (duties : Duties service past store)
    (step : Lifecycle service store operation next) {id : Uuid} {row row' : ApprovalRequest}
    (found : store.approvals.find id = some row) (request : row.SameRequest row') :
    ∃ decision, next.decisions.find row'.decisionId = some decision ∧
      decision.decision = .requireApproval ∧ Requested (past ++ [operation]) id row' decision := by
  obtain ⟨decision,there,verdict,requested⟩ := duties.requested id row found
  obtain ⟨decision',still,carries⟩ := step.persists row.decisionId decision there
  refine ⟨decision',?_,carries.decision.trans verdict,(requested.congr request carries).later _⟩
  rw [request.decisionId]
  exact still

theorem reviewed_step (duties : Duties service past store)
    (step : Lifecycle service store operation next) {id : Uuid} {row : ApprovalRequest}
    {decision : Decision} (found : store.approvals.find id = some row)
    (approved : row.status = .approved)
    (there : next.decisions.find row.decisionId = some decision) :
    ∃ review, Reviewed service (past ++ [operation]) id row decision review := by
  obtain ⟨before,was,_,_⟩ := duties.requested id row found
  obtain ⟨after,still,carries⟩ := step.persists row.decisionId before was
  obtain rfl := Option.some.inj (still.symm.trans there)
  obtain ⟨review,reviewed⟩ := duties.reviewed id row before found approved was
  exact ⟨review,(reviewed.carried carries).later operation⟩

theorem step (duties : Duties service past store)
    (taken : Lifecycle service store operation next) :
    Duties service (past ++ [operation]) next := by
  cases taken.approvals with
  | same approvals =>
    constructor
    · intro id row found
      rw [approvals] at found
      exact duties.requested_step taken found ⟨rfl,rfl⟩
    · intro id row decision found approved there
      rw [approvals] at found
      exact duties.reviewed_step taken found approved there
  | asked id row actorId decision inserted asked there verdict requester =>
    constructor
    · intro other row' found
      rw [UniqueTable.find_insert inserted] at found
      split at found
      · next same =>
        subst same
        obtain rfl := Option.some.inj found
        refine ⟨decision,there,verdict,?_⟩
        rcases requester with creator | ⟨ask,rfl,ofApproval,ofDecision,actor⟩
        · exact Or.inl (by rw [asked.requestedByUserId, creator])
        · refine Or.inr ⟨ask,by simp,ofApproval,ofDecision,?_⟩
          rw [asked.requestedByUserId, actor]
      · exact duties.requested_step taken found ⟨rfl,rfl⟩
    · intro other row' decision' found approved there'
      rw [UniqueTable.find_insert inserted] at found
      split at found
      · obtain rfl := Option.some.inj found
        simp [asked.pending] at approved
      · exact duties.reviewed_step taken found approved there'
  | closed id before after rewrites pending ended request =>
    constructor
    · intro other row found
      rw [rewrites.find] at found
      split at found
      · next same =>
        subst same
        obtain rfl := Option.some.inj found
        exact duties.requested_step taken rewrites.was request
      · exact duties.requested_step taken found ⟨rfl,rfl⟩
    · intro other row decision found approved there
      rw [rewrites.find] at found
      split at found
      · obtain rfl := Option.some.inj found
        rcases ended with expired | denied
        · simp [expired] at approved
        · simp [denied] at approved
      · exact duties.reviewed_step taken found approved there
  | approved call before decision trace hash expiresAt by_ rewrites pending found authority =>
    have request : before.SameRequest (before.approve call trace hash expiresAt) := ⟨rfl,rfl⟩
    constructor
    · intro other row found'
      rw [rewrites.find] at found'
      split at found'
      · next same =>
        subst same
        obtain rfl := Option.some.inj found'
        exact duties.requested_step taken rewrites.was request
      · exact duties.requested_step taken found' ⟨rfl,rfl⟩
    · intro other row decision' found' approved there
      rw [rewrites.find] at found'
      split at found'
      · next same =>
        subst same
        obtain rfl := Option.some.inj found'
        subst by_
        obtain ⟨role,apart⟩ := Service.enforceReviewerAuthority_authorised authority
        refine ⟨call,by simp,rfl,rfl,⟨role,apart⟩,?_⟩
        obtain ⟨first,was,_,requested⟩ := duties.requested call.approvalId before rewrites.was
        obtain ⟨second,still,carries⟩ := taken.persists before.decisionId first was
        obtain rfl := Option.some.inj (still.symm.trans there)
        rcases requested.congr request carries with creator | ⟨ask,made,rest⟩
        · exact Or.inl creator
        · refine Or.inr ⟨ask,?_,rest⟩
          exact (List.singleton_sublist.mpr made).append (List.Sublist.refl _)
      · exact duties.reviewed_step taken found' approved there
  | consumed id before now rewrites =>
    constructor
    · intro other row found
      rw [rewrites.find] at found
      split at found
      · next same =>
        subst same
        obtain rfl := Option.some.inj found
        exact duties.requested_step taken rewrites.was ⟨rfl,rfl⟩
      · exact duties.requested_step taken found ⟨rfl,rfl⟩
    · intro other row decision found approved there
      rw [rewrites.find] at found
      split at found
      · next same =>
        subst same
        obtain rfl := Option.some.inj found
        obtain ⟨review,made,ofApproval,reviewer,⟨role,apart⟩,after⟩ :=
          duties.reviewed_step taken rewrites.was approved there
        exact ⟨review,made,ofApproval,reviewer,⟨role,apart⟩,after⟩
      · exact duties.reviewed_step taken found approved there

theorem run {start : Store} {events : List Operation} (initial : start.Unused)
    (trace : Trace service.Step start events store) : Duties service events store := by
  have recorded := trace.records (Duties service)
    (fun step duties => duties.step (Service.Step.lifecycle step)) [] (unused service initial)
  simpa using recorded

end Duties

namespace Sample

end Sample

end Valdrics.Enforcement

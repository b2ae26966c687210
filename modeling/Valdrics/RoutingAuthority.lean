import Mathlib.Data.List.TakeWhile
import Valdrics.SeparationOfDuties

/-! The authority an approval route demands of its reviewer: the one of the first rule that
applies to the decision, and what a stored trace demands whenever it is read again. -/
namespace Valdrics.Enforcement

open PythonText

theorem strip_ne_empty {s : String} {c : Char} (head : s.toList.head? = some c)
    (visible : isSpace c = false) : strip s ≠ "" := by
  intro white
  have left : stripLeft s.toList = s.toList := by
    apply stripLeft_of_head
    intro first same
    rw [head] at same
    exact Option.some.inj same ▸ visible
  have none_ : stripLeft s.toList.reverse = [] := by
    have list := congrArg String.toList white
    simpa [strip,stripList,left] using list
  have member : c ∈ s.toList.reverse := by
    rw [List.mem_reverse]
    exact List.mem_of_head? head
  have space := List.dropWhile_eq_nil_iff.mp none_ c member
  simp [visible] at space

theorem strip_head {s : String} (some_ : strip s ≠ "") :
    ∃ c, (strip s).toList.head? = some c ∧ isSpace c = false := by
  cases list : (strip s).toList with
  | nil => exact absurd (String.toList_inj.mp (by simpa using list)) some_
  | cons c rest =>
    have first := (strip_stripped s).1 c (by simp [list])
    exact ⟨c,rfl,first⟩

theorem strip_slice_ne_empty {s : String} {n : Nat} {c : Char} (head : s.toList.head? = some c)
    (visible : isSpace c = false) : strip (slice s (n + 1)) ≠ "" := by
  apply strip_ne_empty _ visible
  cases list : s.toList with
  | nil => simp [list] at head
  | cons first rest => simpa [slice,list] using head

structure Authority where
  allowedReviewerRoles : List String
  requiredPermission : String
  requireRequesterReviewerSeparation : Bool

def stated (values : List String) : List String := (values.map strip).filter (· ≠ "")

namespace Service

variable (service : Service)

structure RuleApplies (rule : ApprovalRoutingRule) (decision : Decision) : Prop where
  enabled : rule.enabled = true
  environment : stated rule.environments ≠ [] → ∃ value ∈ stated rule.environments,
    service.normalizeEnvironment value = service.normalizeEnvironment decision.environment
  action : stated rule.actionPrefixes ≠ [] → ∃ value ∈ stated rule.actionPrefixes,
    (service.text.lower value).toList <+: (service.text.lower (strip decision.action)).toList
  least : ∀ least, rule.minMonthlyDeltaUsd = some least → least ≤ decision.estimatedMonthlyDeltaUsd
  most : ∀ most, rule.maxMonthlyDeltaUsd = some most → decision.estimatedMonthlyDeltaUsd ≤ most
  risk : stated rule.riskLevels ≠ [] → ∃ value ∈ stated rule.riskLevels,
    service.extractDecisionRiskLevel decision = some (service.text.lower value)

def environmentAuthority (policy : Policy) (decision : Decision) : Authority :=
  if service.isProductionEnvironment decision.environment then
    ⟨defaultAllowedReviewerRoles,approvalPermissionProd,
      policy.enforceProdRequesterReviewerSeparation⟩
  else
    ⟨defaultAllowedReviewerRoles,approvalPermissionNonprod,
      policy.enforceNonprodRequesterReviewerSeparation⟩

def ruleAuthority (policy : Policy) (decision : Decision) (rule : ApprovalRoutingRule) :
    Authority where
  allowedReviewerRoles := service.normalizeAllowedReviewerRoles rule.allowedReviewerRoles
  requiredPermission :=
    (service.normalizeApprovalPermission (rule.requiredPermission.getD "")).getD
      (service.environmentAuthority policy decision).requiredPermission
  requireRequesterReviewerSeparation :=
    rule.requireRequesterReviewerSeparation.getD
      (service.environmentAuthority policy decision).requireRequesterReviewerSeparation

inductive Routes (policy : Policy) (decision : Decision) : Authority → Prop where
  | rule (first : List ApprovalRoutingRule) (rule : ApprovalRoutingRule)
      (later : List ApprovalRoutingRule)
      (split : policy.approvalRoutingRules = first ++ rule :: later)
      (passed : ∀ other ∈ first, ¬service.RuleApplies other decision)
      (applies : service.RuleApplies rule decision) :
      Routes policy decision (service.ruleAuthority policy decision rule)
  | environment (passed : ∀ rule ∈ policy.approvalRoutingRules,
      ¬service.RuleApplies rule decision) :
      Routes policy decision (service.environmentAuthority policy decision)

end Service

/-- A reviewer may review a request that `requester` made. -/
structure Authority.Admits (authority : Authority) (service : Service) (requester : Option Uuid)
    (reviewer : CurrentUser) (enforceRequesterSeparation : Bool) : Prop where
  role : service.normalizeRoleValue reviewer.role ∈ authority.allowedReviewerRoles
  permission : service.userHasApprovalPermission reviewer authority.requiredPermission = true
  separation : enforceRequesterSeparation = true →
    authority.requireRequesterReviewerSeparation = true → requester ≠ some reviewer.id

namespace Service

variable {service : Service}

theorem mem_normalizeStringList {normalizer : String → String} {values : List String}
    {key : String} : key ∈ normalizeStringList normalizer values ↔
      ∃ value ∈ stated values, normalizer value = key := by
  have loop (texts ordered : List String) :
      key ∈ texts.foldl (fun normalized value =>
          if normalizer value ∈ normalized then normalized
          else normalized ++ [normalizer value]) ordered ↔
        key ∈ ordered ∨ ∃ value ∈ texts, normalizer value = key := by
    induction texts generalizing ordered with
    | nil => simp
    | cons text texts ih =>
      rw [List.foldl_cons,ih]
      by_cases known : normalizer text ∈ ordered
      · rw [if_pos known]
        constructor
        · rintro (before | ⟨value,member,same⟩)
          · exact Or.inl before
          · exact Or.inr ⟨value,List.mem_cons_of_mem _ member,same⟩
        · rintro (before | ⟨value,member,same⟩)
          · exact Or.inl before
          · rcases List.mem_cons.mp member with rfl | later
            · exact Or.inl (same ▸ known)
            · exact Or.inr ⟨value,later,same⟩
      · rw [if_neg known]
        simp only [List.mem_append,List.mem_cons,List.not_mem_nil,or_false,exists_eq_or_imp]
        constructor
        · rintro ((before | rfl) | later)
          · exact Or.inl before
          · exact Or.inr (Or.inl rfl)
          · exact Or.inr (Or.inr later)
        · rintro (before | rfl | later)
          · exact Or.inl (Or.inl before)
          · exact Or.inl (Or.inr rfl)
          · exact Or.inr later
  simpa [normalizeStringList,stated] using loop (stated values) []

theorem normalizeStringList_isEmpty {normalizer : String → String} {values : List String} :
    (normalizeStringList normalizer values).isEmpty = true ↔ stated values = [] := by
  rw [List.isEmpty_iff]
  constructor
  · intro none_
    apply List.eq_nil_iff_forall_not_mem.mpr
    intro value member
    have listed : normalizer value ∈ normalizeStringList normalizer values :=
      mem_normalizeStringList.mpr ⟨value,member,rfl⟩
    rw [none_] at listed
    simp at listed
  · intro none_
    apply List.eq_nil_iff_forall_not_mem.mpr
    intro key member
    obtain ⟨value,listed,_⟩ := mem_normalizeStringList.mp member
    simp [none_] at listed

theorem ruleMatches_iff (rule : ApprovalRoutingRule) (decision : Decision) :
    service.ruleMatches rule (service.normalizeEnvironment decision.environment)
      (service.text.lower (strip decision.action)) decision.estimatedMonthlyDeltaUsd
      (service.extractDecisionRiskLevel decision) = true ↔ service.RuleApplies rule decision := by
  have listed (empty found : Prop) : (empty ∨ found) ↔ (¬empty → found) := by tauto
  simp only [ruleMatches,Bool.and_eq_true,Bool.or_eq_true,normalizeStringList_isEmpty,
    decide_eq_true_eq,listed,mem_normalizeStringList,List.any_eq_true,
    List.isPrefixOf_iff_prefix,Option.all_eq_true,Option.any_eq_true]
  constructor
  · rintro ⟨⟨⟨⟨⟨enabled,environment⟩,action⟩,least⟩,most⟩,risk⟩
    refine ⟨enabled,environment,?_,least,most,?_⟩
    · intro some_
      obtain ⟨_,⟨value,member,rfl⟩,starts⟩ := action some_
      exact ⟨value,member,starts⟩
    · intro some_
      obtain ⟨level,found,value,member,rfl⟩ := risk some_
      exact ⟨value,member,found⟩
  · intro applies
    refine ⟨⟨⟨⟨⟨applies.enabled,applies.environment⟩,?_⟩,applies.least⟩,applies.most⟩,?_⟩
    · intro some_
      obtain ⟨value,member,starts⟩ := applies.action some_
      exact ⟨_,⟨value,member,rfl⟩,starts⟩
    · intro some_
      obtain ⟨value,member,found⟩ := applies.risk some_
      exact ⟨_,found,value,member,rfl⟩

theorem normalizeApprovalPermission_eq_some {value permission : String}
    (normal : service.normalizeApprovalPermission value = some permission) :
    permission = approvalPermissionNonprod ∨ permission = approvalPermissionProd := by
  simp only [normalizeApprovalPermission] at normal
  split at normal
  · next known => exact Option.some.inj normal ▸ known
  · contradiction

theorem normalizeApprovalPermission_known (service : Service) {permission : String}
    (known : permission = approvalPermissionNonprod ∨ permission = approvalPermissionProd) :
    service.normalizeApprovalPermission permission = some permission := by
  have plain : IsAscii (strip permission) ∧ lowerAscii (strip permission) = permission := by
    rcases known with rfl | rfl <;> decide
  have lowered : service.text.lower (strip permission) = permission :=
    (service.text.ascii _ plain.1).trans plain.2
  simp only [normalizeApprovalPermission,lowered]
  exact if_pos known

theorem environmentAuthority_permission (service : Service) (policy : Policy)
    (decision : Decision) :
    (service.environmentAuthority policy decision).requiredPermission =
        approvalPermissionNonprod ∨
      (service.environmentAuthority policy decision).requiredPermission =
        approvalPermissionProd := by
  unfold environmentAuthority
  split
  · exact Or.inr rfl
  · exact Or.inl rfl

end Service

namespace RoutingTrace

def authority (trace : RoutingTrace) : Authority :=
  ⟨trace.allowedReviewerRoles,trace.requiredPermission,trace.requireRequesterReviewerSeparation⟩

/-- What a trace is when it was resolved: reading it again does not change what it demands. -/
structure Settled (trace : RoutingTrace) (service : Service) : Prop where
  roles : Service.NormalRoles trace
  permission : trace.requiredPermission = Service.approvalPermissionNonprod ∨
    trace.requiredPermission = Service.approvalPermissionProd
  ruleId : strip trace.ruleId ≠ ""

end RoutingTrace

structure Authority.Same (authority other : Authority) : Prop where
  roles : ∀ role, role ∈ authority.allowedReviewerRoles ↔ role ∈ other.allowedReviewerRoles
  permission : authority.requiredPermission = other.requiredPermission
  separation : authority.requireRequesterReviewerSeparation =
    other.requireRequesterReviewerSeparation

namespace Authority.Same

variable {first second third : Authority}

theorem refl (authority : Authority) : authority.Same authority := ⟨fun _ => Iff.rfl,rfl,rfl⟩

theorem trans (one : first.Same second) (two : second.Same third) : first.Same third :=
  ⟨fun role => (one.roles role).trans (two.roles role),one.permission.trans two.permission,
    one.separation.trans two.separation⟩

theorem admits (same : first.Same second) {service : Service} {requester : Option Uuid}
    {reviewer : CurrentUser} {flag : Bool} (admits : first.Admits service requester reviewer flag) :
    second.Admits service requester reviewer flag :=
  ⟨(same.roles _).mp admits.role,same.permission ▸ admits.permission,
    fun enforced required => admits.separation enforced (same.separation.trans required)⟩

theorem symm (same : first.Same second) : second.Same first :=
  ⟨fun role => (same.roles role).symm,same.permission.symm,same.separation.symm⟩

end Authority.Same

namespace Service

variable {service : Service}

theorem defaultApprovalRoutingTrace_authority (policy : Policy) (decision : Decision) :
    (service.defaultApprovalRoutingTrace policy decision).authority =
      service.environmentAuthority policy decision := by
  simp only [defaultApprovalRoutingTrace,RoutingTrace.authority,environmentAuthority,
    defaultRequiredPermissionForEnvironment,isProductionEnvironment,normalizeEnvironment_idem]
  by_cases production : service.normalizeEnvironment decision.environment = "prod"
  · simp [production]
  · simp [production]

theorem ruleTrace_authority (policy : Policy) (decision : Decision) (rule : ApprovalRoutingRule)
    (index : Nat) (riskLevel : Option String) :
    (service.ruleTrace rule index (service.defaultApprovalRoutingTrace policy decision)
      riskLevel).authority = service.ruleAuthority policy decision rule := by
  simp only [ruleTrace,RoutingTrace.authority,ruleAuthority,
    ← service.defaultApprovalRoutingTrace_authority policy decision]

theorem resolveApprovalRoutingTrace_routes (policy : Policy) (decision : Decision) :
    service.Routes policy decision
      (service.resolveApprovalRoutingTrace policy decision).authority := by
  unfold resolveApprovalRoutingTrace
  dsimp only
  split
  · next rule position found =>
    obtain ⟨matched,first,later,split,passed⟩ := List.find?_eq_some_iff_append.mp found
    rw [ruleTrace_authority]
    have rules := congrArg (List.map Prod.fst) split
    rw [List.zipIdx_map_fst,List.map_append,List.map_cons] at rules
    refine .rule (first.map Prod.fst) rule (later.map Prod.fst) rules ?_
      ((ruleMatches_iff rule decision).mp matched)
    intro other member applies
    obtain ⟨entry,there,rfl⟩ := List.mem_map.mp member
    have refused := passed entry there
    rw [(ruleMatches_iff entry.1 decision).mpr applies] at refused
    simp at refused
  · next none_ =>
    rw [defaultApprovalRoutingTrace_authority]
    refine .environment fun rule member applies => ?_
    obtain ⟨position,_,there⟩ := List.mem_iff_getElem.mp member
    have entry : (rule,position) ∈ policy.approvalRoutingRules.zipIdx :=
      List.mk_mem_zipIdx_iff_getElem?.mpr (List.getElem?_eq_some_iff.mpr ⟨_,there⟩)
    exact List.find?_eq_none.mp none_ _ entry ((ruleMatches_iff rule decision).mpr applies)

theorem resolveApprovalRoutingTrace_settled (policy : Policy) (decision : Decision) :
    (service.resolveApprovalRoutingTrace policy decision).Settled service := by
  refine ⟨resolveApprovalRoutingTrace_normal policy decision,?_,?_⟩
  · have environment := service.environmentAuthority_permission policy decision
    rw [← defaultApprovalRoutingTrace_authority] at environment
    unfold resolveApprovalRoutingTrace
    dsimp only
    split
    · next rule position _ =>
      simp only [ruleTrace]
      cases own : service.normalizeApprovalPermission (rule.requiredPermission.getD "") with
      | none => exact environment
      | some permission => exact normalizeApprovalPermission_eq_some own
    · exact environment
  · unfold resolveApprovalRoutingTrace
    dsimp only
    split
    · next rule position _ =>
      simp only [ruleTrace,orDefault]
      split
      · exact strip_slice_ne_empty (c := 'r') (by simp) (by decide)
      · next some_ =>
        obtain ⟨c,head,visible⟩ := strip_head some_
        exact strip_slice_ne_empty head visible
    · exact strip_ne_empty (c := 'd') (by simp [defaultApprovalRoutingTrace]) (by decide)

theorem routingTraceOrDefault_settled {approval : ApprovalRequest} (policy : Policy)
    (decision : Decision) (settled : approval.routingTrace.Settled service) :
    (service.routingTraceOrDefault policy decision approval).Settled service ∧
      (service.routingTraceOrDefault policy decision approval).authority.Same
        approval.routingTrace.authority := by
  have permission := service.normalizeApprovalPermission_known settled.permission
  obtain ⟨c,head,visible⟩ := strip_head settled.ruleId
  have read : service.routingTraceOrDefault policy decision approval =
      { approval.routingTrace with
        requiredPermission := approval.routingTrace.requiredPermission
        allowedReviewerRoles :=
          service.normalizeAllowedReviewerRoles approval.routingTrace.allowedReviewerRoles
        ruleId := slice (strip approval.routingTrace.ruleId) 64 } := by
    simp only [routingTraceOrDefault,permission]
    exact if_neg settled.ruleId
  refine ⟨⟨routingTraceOrDefault_normal policy decision approval,?_,?_⟩,?_⟩
  · rw [read]
    exact settled.permission
  · rw [read]
    exact strip_slice_ne_empty head visible
  · rw [read]
    simp only [RoutingTrace.authority]
    exact ⟨fun role => mem_normalizeAllowedReviewerRoles settled.roles.1 settled.roles.2,rfl,rfl⟩

theorem enforceReviewerAuthority_iff {approval : ApprovalRequest} (policy : Policy)
    (decision : Decision) (settled : approval.routingTrace.Settled service)
    (reviewer : CurrentUser) (flag : Bool) :
    (∃ trace, service.enforceReviewerAuthority policy approval decision reviewer flag =
        .ok trace) ↔
      approval.routingTrace.authority.Admits service approval.requestedByUserId reviewer flag := by
  obtain ⟨still,same⟩ := routingTraceOrDefault_settled policy decision settled
  have permission := service.normalizeApprovalPermission_known still.permission
  have role : service.normalizeRoleValue reviewer.role ∈ service.normalizeAllowedReviewerRoles
      (service.routingTraceOrDefault policy decision approval).allowedReviewerRoles ↔
      service.normalizeRoleValue reviewer.role ∈
        (service.routingTraceOrDefault policy decision approval).allowedReviewerRoles :=
    mem_normalizeAllowedReviewerRoles still.roles.1 still.roles.2
  have checked : (∃ trace, service.enforceReviewerAuthority policy approval decision reviewer
        flag = .ok trace) ↔
      (service.routingTraceOrDefault policy decision approval).authority.Admits service
        approval.requestedByUserId reviewer flag := by
    simp only [enforceReviewerAuthority,permission,bind_eq_ok,refuse_eq_ok,require_eq_ok,role,
      not_not,exists_const]
    constructor
    · rintro ⟨trace,listed,_,stated,held,apart,_⟩
      obtain rfl := Option.some.inj stated
      exact ⟨listed,by simpa [RoutingTrace.authority] using held,
        fun enforced required requester => apart ⟨enforced,required,requester⟩⟩
    · intro admits
      exact ⟨_,admits.role,_,rfl,by simpa [RoutingTrace.authority] using admits.permission,
        fun clash => admits.separation clash.1 clash.2.1 clash.2.2,rfl⟩
  exact checked.trans ⟨same.admits,same.symm.admits⟩

end Service

end Valdrics.Enforcement

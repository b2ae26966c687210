import Valdrics.CreditBalance
import Valdrics.EnforcementOperations
import Valdrics.GatePersistence
import Valdrics.SettlementSteps

/-! Credit conservation over every run of the service: no operation creates or loses
credit, an active reservation is exactly what its allocations hold, and no settlement
meets missing rows or an amount left over. -/
namespace Valdrics.Enforcement

def Decision.creditColumns (decision : Decision) : DecisionType × Bool × Int :=
  (decision.decision,decision.reservationActive,decision.reservedCreditUsd)

theorem Decision.creditColumns_inj {a b : Decision} (same : a.creditColumns = b.creditColumns) :
    a.decision = b.decision ∧ a.reservationActive = b.reservationActive ∧
      a.reservedCreditUsd = b.reservedCreditUsd := by
  simpa [creditColumns] using same

theorem Service.reserveCredits_reserved {service : Service} {store next : Store} {call : GateCall}
    {draft : GateDraft} {entries : List CreditAllocationEntry} (balance : store.CreditBalanced)
    (sound : draft.Sound)
    (reserved : service.reserveCredits store call draft = .ok (next,entries)) :
    Store.Reserved store next call.decisionId
      (if draft.decision.reservationActive then draft.decision.reservedCreditUsd else 0) := by
  obtain ⟨reservedNonneg,emergencyNonneg,credit,_,_,_⟩ := sound
  unfold reserveCredits at reserved
  split at reserved
  · next drawn =>
    rw [if_pos drawn.1, credit]
    exact Store.reserveCreditForDecision_reserved balance reservedNonneg emergencyNonneg reserved
  · next skipped =>
    obtain ⟨rfl,_⟩ : store = next ∧ _ := by simpa using reserved
    have nothing : (if draft.decision.reservationActive then draft.decision.reservedCreditUsd
        else 0) = 0 := by
      split
      · next active =>
        have := not_and.mp skipped active
        omega
      · rfl
    rw [nothing]
    exact .refl balance call.decisionId

namespace Store

structure CreditConserved (store : Store) : Prop where
  balanced : store.CreditBalanced
  reserved : ∀ id decision, store.decisions.find id = some decision →
    decision.reservationActive = true →
    store.activeReservedFor id = decision.reservedCreditUsd
  released : ∀ id decision, store.decisions.find id = some decision →
    decision.reservationActive = false → store.activeReservedFor id = 0
  decided : ∀ key row, store.allocations.find key = some row →
    ∃ decision, store.decisions.find key.1 = some decision
  held : ∀ id decision, store.decisions.find id = some decision →
    decision.decision = .requireApproval →
    decision.reservationActive = true ∨ decision.reservedCreditUsd = 0
  requested : ∀ id approval, store.approvals.find id = some approval →
    ∃ decision, store.decisions.find approval.decisionId = some decision ∧
      decision.decision = .requireApproval

theorem activeReservedFor_congr {store next : Store}
    (same : next.allocations = store.allocations) (id : Uuid) :
    next.activeReservedFor id = store.activeReservedFor id := by
  simp only [activeReservedFor,same]

theorem Unused.conserved {store : Store} (unused : store.Unused) : store.CreditConserved := by
  obtain ⟨grants,allocations,decisions,approvals⟩ := unused
  have noDecision (id : Uuid) : store.decisions.find id = none := by
    rw [decisions]
    rfl
  refine ⟨⟨?_,?_,?_,?_,?_⟩,?_,?_,?_,?_,?_⟩
  · simp [grants]
  · simp [grants]
  · simp [allocations]
  · simp [allocations]
  · simp [allocations]
  · simp [noDecision]
  · simp [noDecision]
  · simp [allocations]
  · simp [noDecision]
  · intro id approval found
    rw [approvals] at found
    contradiction

namespace CreditConserved

variable {store next : Store}

theorem matched (conserved : store.CreditConserved) {id : Uuid} {decision : Decision}
    (found : store.decisions.find id = some decision)
    (holds : decision.reservationActive = true ∨ decision.reservedCreditUsd = 0) :
    store.activeReservedFor id = decision.reservedCreditUsd := by
  cases active : decision.reservationActive with
  | true => exact conserved.reserved id decision found active
  | false =>
    rcases holds with contrary | zero
    · simp [active] at contrary
    · rw [zero]
      exact conserved.released id decision found active

theorem matched_of_approval (conserved : store.CreditConserved) {approvalId : Uuid}
    {approval : ApprovalRequest} {decision : Decision}
    (stored : store.approvals.find approvalId = some approval)
    (found : store.decisions.find approval.decisionId = some decision) :
    store.activeReservedFor approval.decisionId = decision.reservedCreditUsd := by
  obtain ⟨row,at_,asked⟩ := conserved.requested approvalId approval stored
  obtain rfl := Option.some.inj (at_.symm.trans found)
  exact conserved.matched found (conserved.held _ _ found asked)

theorem unknown (conserved : store.CreditConserved) {id : Uuid}
    (absent : store.decisions.find id = none) : store.activeReservedFor id = 0 := by
  apply Table.total_eq_zero
  intro key row member
  have apart : key.1 ≠ id := by
    rintro rfl
    obtain ⟨decision,found⟩ := conserved.decided key row (Table.find_eq_some_iff.mpr member)
    simp [absent] at found
  simp [apart]

theorem release (conserved : store.CreditConserved) {decisionId : Uuid} {before after : Decision}
    {consumed : Int} {now : Nat}
    (release : Release store next decisionId before after consumed now)
    (matched : store.activeReservedFor decisionId = before.reservedCreditUsd)
    (requested : ∀ id approval, next.approvals.find id = some approval →
      ∃ id' approval', store.approvals.find id' = some approval' ∧
        approval.decisionId = approval'.decisionId) : next.CreditConserved := by
  obtain ⟨start,settled,entries,fromGrants,fromAllocations,settlement,toGrants,toAllocations⟩ :=
    release.credit
  have startBalanced := conserved.balanced.congr fromGrants fromAllocations
  have startMatched : start.activeReservedFor decisionId = before.reservedCreditUsd :=
    (activeReservedFor_congr fromAllocations decisionId).trans matched
  obtain ⟨settled',entries',settlement',spec⟩ :=
    settle_returns consumed now startBalanced startMatched
  obtain ⟨rfl,_⟩ := Prod.mk.inj (Except.ok.inj (settlement'.symm.trans settlement))
  have finds := release.decisions.find
  have own : next.activeReservedFor decisionId = 0 :=
    (activeReservedFor_congr toAllocations decisionId).trans spec.own
  have others (id : Uuid) (other : id ≠ decisionId) :
      next.activeReservedFor id = store.activeReservedFor id := by
    rw [activeReservedFor_congr toAllocations, spec.others id other]
    exact activeReservedFor_congr fromAllocations id
  -- The released row keeps its kind; every other row is untouched.
  have kept (id : Uuid) (decision : Decision) (found : next.decisions.find id = some decision) :
      (id = decisionId ∧ decision = after) ∨
        (id ≠ decisionId ∧ store.decisions.find id = some decision) := by
    rw [finds] at found
    split at found
    · next same => exact Or.inl ⟨same,(Option.some.inj found).symm⟩
    · next other => exact Or.inr ⟨other,found⟩
  have present (id : Uuid) (decision : Decision)
      (found : store.decisions.find id = some decision) :
      ∃ decision', next.decisions.find id = some decision' ∧
        decision'.decision = decision.decision := by
    rw [finds]
    split
    · next same =>
      subst same
      obtain rfl := Option.some.inj (release.decisions.was.symm.trans found)
      exact ⟨after,rfl,release.released.decision⟩
    · exact ⟨decision,found,rfl⟩
  refine ⟨spec.balanced.congr toGrants toAllocations,?_,?_,?_,?_,?_⟩
  · intro id decision found active
    rcases kept id decision found with ⟨_,rfl⟩ | ⟨other,at_⟩
    · simp [release.released.reservationActive] at active
    · rw [others id other]
      exact conserved.reserved id decision at_ active
  · intro id decision found inactive
    rcases kept id decision found with ⟨rfl,_⟩ | ⟨other,at_⟩
    · exact own
    · rw [others id other]
      exact conserved.released id decision at_ inactive
  · intro key row found
    rw [toAllocations] at found
    obtain ⟨earlier,there⟩ := spec.keys key row found
    rw [fromAllocations] at there
    obtain ⟨decision,at_⟩ := conserved.decided key earlier there
    obtain ⟨decision',now_,_⟩ := present key.1 decision at_
    exact ⟨decision',now_⟩
  · intro id decision found asked
    rcases kept id decision found with ⟨_,rfl⟩ | ⟨_,at_⟩
    · exact Or.inr release.released.reservedCreditUsd
    · exact conserved.held id decision at_ asked
  · intro id approval found
    obtain ⟨id',approval',earlier,same⟩ := requested id approval found
    obtain ⟨decision,at_,asked⟩ := conserved.requested id' approval' earlier
    obtain ⟨decision',now_,kind⟩ := present approval'.decisionId decision at_
    exact ⟨decision',by rw [same]; exact now_,kind.trans asked⟩

theorem rewritten (conserved : store.CreditConserved) (grants : next.grants = store.grants)
    (allocations : next.allocations = store.allocations)
    (columns : ∀ id, (next.decisions.find id).map Decision.creditColumns =
      (store.decisions.find id).map Decision.creditColumns)
    (requested : ∀ id approval, next.approvals.find id = some approval →
      (∃ id' approval', store.approvals.find id' = some approval' ∧
        approval.decisionId = approval'.decisionId) ∨
      ∃ decision, store.decisions.find approval.decisionId = some decision ∧
        decision.decision = .requireApproval) : next.CreditConserved := by
  have earlier (id : Uuid) (decision : Decision) (found : next.decisions.find id = some decision) :
      ∃ before, store.decisions.find id = some before ∧
        before.creditColumns = decision.creditColumns := by
    have same := columns id
    rw [found] at same
    cases there : store.decisions.find id with
    | none => simp [there] at same
    | some before => exact ⟨before,rfl,by simpa [there] using same.symm⟩
  have later (id : Uuid) (decision : Decision) (found : store.decisions.find id = some decision) :
      ∃ after, next.decisions.find id = some after ∧
        after.creditColumns = decision.creditColumns := by
    have same := columns id
    rw [found] at same
    cases there : next.decisions.find id with
    | none => simp [there] at same
    | some after => exact ⟨after,rfl,by simpa [there] using same⟩
  refine ⟨conserved.balanced.congr grants allocations,?_,?_,?_,?_,?_⟩
  · intro id decision found active
    obtain ⟨before,there,same⟩ := earlier id decision found
    obtain ⟨_,sameActive,sameCredit⟩ := Decision.creditColumns_inj same
    rw [activeReservedFor_congr allocations, ← sameCredit]
    exact conserved.reserved id before there (sameActive.trans active)
  · intro id decision found inactive
    obtain ⟨before,there,same⟩ := earlier id decision found
    obtain ⟨_,sameActive,_⟩ := Decision.creditColumns_inj same
    rw [activeReservedFor_congr allocations]
    exact conserved.released id before there (sameActive.trans inactive)
  · intro key row found
    rw [allocations] at found
    obtain ⟨decision,there⟩ := conserved.decided key row found
    obtain ⟨after,now_,_⟩ := later key.1 decision there
    exact ⟨after,now_⟩
  · intro id decision found asked
    obtain ⟨before,there,same⟩ := earlier id decision found
    obtain ⟨sameKind,sameActive,sameCredit⟩ := Decision.creditColumns_inj same
    rw [← sameActive, ← sameCredit]
    exact conserved.held id before there (sameKind.trans asked)
  · intro id approval found
    have asked : ∃ decision, store.decisions.find approval.decisionId = some decision ∧
        decision.decision = .requireApproval := by
      rcases requested id approval found with ⟨id',approval',there,same⟩ | already
      · rw [same]
        exact conserved.requested id' approval' there
      · exact already
    obtain ⟨decision,there,kind⟩ := asked
    obtain ⟨after,now_,same⟩ := later approval.decisionId decision there
    exact ⟨after,now_,(Decision.creditColumns_inj same).1.trans kind⟩

theorem granting (conserved : store.CreditConserved) {id : Uuid} {grant : CreditGrant}
    {grants : Table Uuid CreditGrant} (whole : grant.remainingAmountUsd = grant.totalAmountUsd)
    (nonneg : 0 ≤ grant.totalAmountUsd) (inserted : store.grants.insert id grant = some grants) :
    CreditConserved { store with grants } := by
  obtain ⟨⟨remaining,balanced,untouched,settled,granted⟩,reserved,released,decided,held,requested⟩ :=
    conserved
  have absent := (Table.insert_eq_some inserted).1
  have finds (other : Uuid) : grants.find other =
      if other = id then some grant else store.grants.find other := Table.find_insert inserted
  have unheld : store.heldOn id = 0 := by
    apply Table.total_eq_zero
    intro key row member
    have apart : key.2 ≠ id := by
      rintro rfl
      obtain ⟨there,found⟩ := granted key row (Table.find_eq_some_iff.mpr member)
      simp [absent] at found
    simp [apart]
  refine ⟨⟨?_,?_,untouched,settled,?_⟩,reserved,released,decided,held,requested⟩
  · intro other row found
    simp only [finds] at found
    split at found
    · obtain rfl := Option.some.inj found
      omega
    · exact remaining other row found
  · intro other row found
    simp only [finds] at found
    change row.totalAmountUsd = row.remainingAmountUsd + store.heldOn other
    split at found
    · next same =>
      obtain rfl := Option.some.inj found
      rw [same,unheld]
      omega
    · exact balanced other row found
  · intro key row found
    simp only [finds]
    split
    · exact ⟨grant,rfl⟩
    · exact granted key row found

theorem persistedBy {reserve : Service.ReserveCredits} {context : GateEvaluationContext}
    {call : GateCall} {draft : GateDraft} {approvalId : Option Uuid}
    (conserved : store.CreditConserved) (sound : draft.Sound)
    (draws : ∀ decisions drawn entries, reserve { store with decisions } = .ok (drawn,entries) →
      Reserved { store with decisions } drawn call.decisionId
        (if draft.decision.reservationActive then draft.decision.reservedCreditUsd else 0))
    (spec : PersistedBy reserve store next context call draft approvalId) :
    next.CreditConserved := by
  obtain ⟨decisions,drawn,entries,credit,toGrants,toAllocations⟩ := spec.credit
  have reserved := draws decisions drawn entries credit
  obtain ⟨payload,finds⟩ := spec.inserted
  have own : next.activeReservedFor call.decisionId =
      if draft.decision.reservationActive then draft.decision.reservedCreditUsd else 0 := by
    rw [activeReservedFor_congr toAllocations, reserved.own]
    have before : ({ store with decisions } : Store).activeReservedFor call.decisionId = 0 :=
      conserved.unknown spec.freshId
    rw [before, zero_add]
  have others (id : Uuid) (other : id ≠ call.decisionId) :
      next.activeReservedFor id = store.activeReservedFor id := by
    rw [activeReservedFor_congr toAllocations, reserved.others id other]
    rfl
  have present (id : Uuid) (decision : Decision)
      (found : store.decisions.find id = some decision) :
      next.decisions.find id = some decision := by
    have apart : id ≠ call.decisionId := by
      rintro rfl
      simp [spec.freshId] at found
    rw [finds, if_neg apart]
    exact found
  refine ⟨reserved.balanced.congr toGrants toAllocations,?_,?_,?_,?_,?_⟩
  · intro id decision found active
    rw [finds] at found
    split at found
    · next same =>
      obtain rfl := Option.some.inj found
      rw [same,own]
      exact if_pos active
    · next other =>
      rw [others id other]
      exact conserved.reserved id decision found active
  · intro id decision found inactive
    rw [finds] at found
    split at found
    · next same =>
      obtain rfl := Option.some.inj found
      rw [same,own]
      change draft.decision.reservationActive = false at inactive
      simp [inactive]
    · next other =>
      rw [others id other]
      exact conserved.released id decision found inactive
  · intro key row found
    rw [toAllocations] at found
    rcases reserved.keys key row found with same | ⟨before,earlier⟩
    · exact ⟨draft.decision.withPayload payload,by rw [finds, if_pos same]⟩
    · obtain ⟨decision,there⟩ := conserved.decided key before earlier
      exact ⟨decision,present key.1 decision there⟩
  · intro id decision found asked
    rw [finds] at found
    split at found
    · obtain rfl := Option.some.inj found
      exact sound.approvalHeld asked
    · exact conserved.held id decision found asked
  · intro id approval found
    have kept (stored : store.approvals.find id = some approval) :
        ∃ decision, next.decisions.find approval.decisionId = some decision ∧
          decision.decision = .requireApproval := by
      obtain ⟨decision,there,asked⟩ := conserved.requested id approval stored
      exact ⟨decision,present _ decision there,asked⟩
    rcases spec.approval with ⟨_,same,_⟩ | ⟨_,asked,_,_,row,of_,_,_,_,_,inserted⟩
    · rw [same] at found
      exact kept found
    · rw [UniqueTable.find_insert inserted] at found
      split at found
      · obtain rfl := Option.some.inj found
        exact ⟨draft.decision.withPayload payload,by rw [of_,finds,if_pos rfl],asked⟩
      · exact kept found

theorem persisted {service : Service} {context : GateEvaluationContext} {call : GateCall}
    {draft : GateDraft} {approvalId : Option Uuid} (conserved : store.CreditConserved)
    (sound : draft.Sound)
    (spec : Persisted service store next context call draft approvalId) :
    next.CreditConserved :=
  conserved.persistedBy sound (fun _ _ _ credit =>
    Service.reserveCredits_reserved (conserved.balanced.congr rfl rfl) sound credit) spec

end CreditConserved

end Store

namespace Service

variable {service : Service} {store next : Store}

theorem claimed_settles {decisionId : Uuid} {reservedCredit : Int} (consumed : Int) (now : Nat)
    (conserved : store.CreditConserved)
    (matched : store.activeReservedFor decisionId = reservedCredit) :
    ∃ settled entries, (claimReservation store decisionId).settleCreditReservationsForDecision
      decisionId reservedCredit consumed now = .ok (settled,entries) := by
  have claimed : (claimReservation store decisionId).CreditBalanced :=
    conserved.balanced.congr rfl rfl
  obtain ⟨settled,entries,settlement,_⟩ := Store.settle_returns consumed now claimed matched
  exact ⟨settled,entries,settlement⟩

theorem releaseOverdue_returns (service : Service) (call : OverdueCall) {decisionId : Uuid} {decision : Decision}
    (conserved : store.CreditConserved)
    (matched : store.activeReservedFor decisionId = decision.reservedCreditUsd) :
    ∃ next, service.releaseOverdue store call decisionId decision = .ok next := by
  obtain ⟨settled,entries,settlement⟩ := claimed_settles 0 call.now conserved matched
  exact ⟨_,bind_eq_ok.mpr ⟨(settled,entries),settlement,rfl⟩⟩

theorem overdueLoop_returns (service : Service) (call : OverdueCall) {rows : List (Uuid × Decision)}
    (conserved : store.CreditConserved)
    (listed : ∀ entry ∈ rows, store.decisions.find entry.1 = some entry.2 ∧
      entry.2.reservationActive = true)
    (distinct : (rows.map Prod.fst).Nodup) :
    ∃ result, service.overdueLoop call rows store = .ok result ∧ result.1.CreditConserved := by
  induction rows generalizing store with
  | nil => exact ⟨(store,[],0),rfl,conserved⟩
  | cons entry rest ih =>
    obtain ⟨id,decision⟩ := entry
    obtain ⟨found,active⟩ : store.decisions.find id = some decision ∧
        decision.reservationActive = true := listed (id,decision) List.mem_cons_self
    have unique := List.nodup_cons.mp distinct
    have matched := conserved.reserved id decision found active
    obtain ⟨middle,released⟩ := releaseOverdue_returns service call conserved matched
    obtain ⟨after,release,approvals⟩ := releaseOverdue_eq_ok found released
    have step := conserved.release release matched (by
      intro id' approval there
      rw [approvals] at there
      exact ⟨id',approval,there,rfl⟩)
    obtain ⟨result,looped,last⟩ := ih step (by
        intro e member
        have apart : e.1 ≠ id := by
          intro same
          exact unique.1 (List.mem_map.mpr ⟨e,member,same⟩)
        rw [release.decisions.find, if_neg apart]
        exact listed e (List.mem_cons_of_mem _ member))
      unique.2
    refine ⟨(result.1,id :: result.2.1,
      decision.reservedAllocationUsd + decision.reservedCreditUsd + result.2.2),?_,last⟩
    simp only [overdueLoop,released,looped,bind,Except.bind]
    rfl

theorem overdueDecisions_listed {call : OverdueCall} :
    ∀ entry ∈ overdueDecisions store call, store.decisions.find entry.1 = some entry.2 ∧
      entry.2.reservationActive = true := by
  intro entry member
  have sorted := (List.perm_insertionSort _ _).mem_iff.mp (List.mem_of_mem_take member)
  obtain ⟨there,late⟩ := List.mem_filter.mp sorted
  simp only [overdue,Bool.and_eq_true] at late
  exact ⟨Table.find_eq_some_iff.mpr there,late.1⟩

theorem overdueDecisions_distinct (store : Store) (call : OverdueCall) :
    ((overdueDecisions store call).map Prod.fst).Nodup := by
  have sorted := (List.perm_insertionSort
    (fun a b : Uuid × Decision => a.2.createdAt ≤ b.2.createdAt)
    (store.decisions.rows.filter fun entry =>
      overdue entry.2 (boundedAge call.olderThanSeconds) call.now)).map Prod.fst
  refine List.Nodup.sublist ((List.take_sublist _ _).map Prod.fst) (sorted.nodup_iff.mpr ?_)
  exact store.decisions.distinct.sublist (List.filter_sublist.map Prod.fst)

theorem reconcileOverdue_returns (service : Service) (conserved : store.CreditConserved) (call : OverdueCall) :
    ∃ next result, service.reconcileOverdueReservations store call = (next,.ok result) ∧
      next.CreditConserved := by
  obtain ⟨⟨next,ids,total⟩,looped,kept⟩ := overdueLoop_returns service call
    conserved overdueDecisions_listed (overdueDecisions_distinct store call)
  refine ⟨next,⟨ids.length,total,ids,boundedAge call.olderThanSeconds⟩,?_,kept⟩
  simp only [reconcileOverdueReservations,looped,bind,Except.bind,transaction]
  rfl

/-- An approval's release keeps the invariant, whatever status the approval takes. -/
theorem reviewed_conserved {approvalId : Uuid} {approval approval' : ApprovalRequest}
    {decision after : Decision} {now : Nat} (conserved : store.CreditConserved)
    (stored : store.approvals.find approvalId = some approval)
    (release : Release store next approval.decisionId decision after 0 now)
    (approvals : store.approvals.Rewrites next.approvals.toTable approvalId approval approval')
    (kept : approval'.decisionId = approval.decisionId) :
    next.CreditConserved := by
  have matched := conserved.matched_of_approval stored release.decisions.was
  apply conserved.release release matched
  intro id row found
  rw [approvals.find] at found
  split at found
  · obtain rfl := Option.some.inj found
    exact ⟨approvalId,approval,stored,kept⟩
  · exact ⟨id,row,found,rfl⟩

theorem granted_conserved {call : ReviewCall} {approval approval' : ApprovalRequest}
    {before after : Decision} {issued : IssuedToken} (conserved : store.CreditConserved)
    (granted : Granted service store next call approval approval' before after issued) :
    next.CreditConserved := by
  apply conserved.rewritten granted.grants granted.allocations
  · intro id
    rw [granted.decisions.find]
    split
    · next same =>
      rw [same, granted.decisions.was, granted.tokenIssued]
      rfl
    · rfl
  · intro id row found
    rw [granted.approvals.find] at found
    split at found
    · obtain rfl := Option.some.inj found
      exact Or.inl ⟨call.approvalId,approval,granted.stored,granted.decisionId⟩
    · exact Or.inl ⟨id,row,found,rfl⟩

theorem approveRequest_conserved {call : ReviewCall} {outcome : Except Fault IssuedToken}
    (conserved : store.CreditConserved)
    (done : service.approveRequest store call = (next,outcome)) : next.CreditConserved := by
  rcases approveRequest_cases done with
    ⟨rfl,_⟩ | ⟨approval,decision,after,stored,_,_,release,approvals⟩ |
    ⟨_,_,_,_,_,_,granted⟩
  · exact conserved
  · exact reviewed_conserved conserved stored release approvals rfl
  · exact granted_conserved conserved granted

theorem denyRequest_conserved {call : ReviewCall} {outcome : Except Fault Uuid}
    (conserved : store.CreditConserved)
    (done : service.denyRequest store call = (next,outcome)) : next.CreditConserved := by
  rcases denyRequest_cases done with
    ⟨rfl,_⟩ | ⟨approval,approval',_,_,stored,_,_,kept,release,approvals⟩
  · exact conserved
  · exact reviewed_conserved conserved stored release approvals kept

theorem createOrGetApprovalRequest_conserved {call : ApprovalCall} {outcome : Except Fault Uuid}
    (conserved : store.CreditConserved)
    (done : service.createOrGetApprovalRequest store call = (next,outcome)) : next.CreditConserved := by
  rcases createOrGetApprovalRequest_cases done with
    rfl | ⟨decision,row,_,approvals,there,asked,of_,_,_,_,inserted,rfl⟩
  · exact conserved
  · refine conserved.rewritten rfl rfl (fun _ => rfl) ?_
    intro id approval found
    change approvals.find id = some approval at found
    rw [UniqueTable.find_insert inserted] at found
    split at found
    · obtain rfl := Option.some.inj found
      exact Or.inr ⟨decision,by rw [of_]; exact there,asked⟩
    · exact Or.inl ⟨id,approval,found,rfl⟩

theorem reconcileReservation_conserved {call : ReconcileCall} {outcome : Except Fault ReservationReconciliationResult}
    (conserved : store.CreditConserved)
    (done : service.reconcileReservation store call = (next,outcome)) : next.CreditConserved := by
  rcases reconcileReservation_cases done with
    rfl | ⟨decision,_,_,active,release,approvals⟩
  · exact conserved
  · refine conserved.release release (conserved.reserved _ _ release.decisions.was active) ?_
    intro id approval found
    rw [approvals] at found
    exact ⟨id,approval,found,rfl⟩

theorem createCreditGrant_conserved {call : CreditGrantCall} {outcome : Except Fault Uuid}
    (conserved : store.CreditConserved)
    (done : service.createCreditGrant store call = (next,outcome)) : next.CreditConserved := by
  rcases createCreditGrant_cases service done with rfl | ⟨grant,grants,whole,positive,inserted,rfl⟩
  · exact conserved
  · exact conserved.granting whole positive.le inserted

theorem evaluateGate_conserved {call : GateCall} {outcome : Except Fault GateEvaluationResult}
    (conserved : store.CreditConserved)
    (done : service.evaluateGate store call = (next,outcome)) : next.CreditConserved := by
  rcases evaluateGate_cases done with rfl | ⟨_,_,_,evaluates,spec⟩
  · exact conserved
  · exact conserved.persisted (draftGateDecision_sound evaluates.drafted) spec

theorem resolveFailSafeGate_conserved {call : GateCall} {failure : FailSafe}
    {outcome : Except Fault GateEvaluationResult} (conserved : store.CreditConserved)
    (done : service.resolveFailSafeGate store call failure = (next,outcome)) :
    next.CreditConserved := by
  rcases resolveFailSafeGate_cases done with rfl | ⟨_,_,_,_,_,drafted,spec⟩
  · exact conserved
  · exact conserved.persisted (draftFailSafe_sound drafted) spec

theorem upsertBudget_conserved {call : BudgetCall} {outcome : Except Fault Unit}
    (conserved : store.CreditConserved)
    (done : service.upsertBudget store call = (next,outcome)) : next.CreditConserved := by
  obtain ⟨budgets,rfl⟩ := upsertBudget_cases service done
  exact conserved.rewritten rfl rfl (fun _ => rfl) fun id approval found =>
    Or.inl ⟨id,approval,found,rfl⟩

theorem consumeApprovalToken_conserved {call : ConsumeCall} {outcome : Except Fault Uuid}
    (conserved : store.CreditConserved)
    (done : service.consumeApprovalToken store call = (next,outcome)) : next.CreditConserved := by
  rcases consumeApprovalToken_cases done with
    ⟨rfl,_⟩ | ⟨context,_,_,claimed⟩
  · exact conserved
  · apply conserved.rewritten claimed.grants claimed.allocations
    · intro id
      rw [claimed.decisions]
      split
      · next same =>
        rw [same]
        cases store.decisions.find context.decisionId <;> rfl
      · rfl
    · intro id row found
      rw [claimed.approvals.find] at found
      split at found
      · obtain rfl := Option.some.inj found
        exact Or.inl ⟨context.approvalId,_,claimed.approvals.was,rfl⟩
      · exact Or.inl ⟨id,row,found,rfl⟩

/-- The step lemma: every operation keeps the invariant. -/
theorem run_conserved (conserved : store.CreditConserved) (operation : Operation) :
    (service.run store operation).1.CreditConserved := by
  cases operation with
  | createCreditGrant call => exact createCreditGrant_conserved conserved Prod.mk.eta.symm
  | upsertBudget call => exact upsertBudget_conserved conserved Prod.mk.eta.symm
  | updatePolicy policy =>
    exact conserved.rewritten rfl rfl (fun _ => rfl) fun id approval found =>
      Or.inl ⟨id,approval,found,rfl⟩
  | evaluateGate call => exact evaluateGate_conserved conserved Prod.mk.eta.symm
  | resolveFailSafeGate call failure => exact resolveFailSafeGate_conserved conserved Prod.mk.eta.symm
  | createOrGetApprovalRequest call =>
    exact createOrGetApprovalRequest_conserved conserved Prod.mk.eta.symm
  | approveRequest call => exact approveRequest_conserved conserved Prod.mk.eta.symm
  | denyRequest call => exact denyRequest_conserved conserved Prod.mk.eta.symm
  | consumeApprovalToken call => exact consumeApprovalToken_conserved conserved Prod.mk.eta.symm
  | reconcileReservation call => exact reconcileReservation_conserved conserved Prod.mk.eta.symm
  | reconcileOverdueReservations call =>
    obtain ⟨next,result,swept,kept⟩ :=
      reconcileOverdue_returns service conserved call
    change (service.reconcileOverdueReservations store call).1.CreditConserved
    rw [swept]
    exact kept

theorem reachable_conserved (reachable : Reachable Store.Unused service.Step store) :
    store.CreditConserved := by
  refine reachable.induct Store.CreditConserved (fun unused => unused.conserved) ?_
  intro s operation t step before
  cases step with
  | commit => exact run_conserved before operation
  | rollback => exact before

end Service

end Valdrics.Enforcement

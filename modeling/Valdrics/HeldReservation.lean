import Valdrics.SeparationOfDuties

/-! What an approval finds of the reservation its decision was created with. Reviews
release it only by closing the approval; reconciliations do not look at the approval. -/
namespace Valdrics.Enforcement

namespace Store

def AwaitsApproval (store : Store) (decisionId : Uuid) : Prop :=
  ∃ row, store.decisions.find decisionId = some row ∧ row.decision = .requireApproval ∧
    ¬store.ClosedFor decisionId

theorem approval_unique {store : Store} {id id' : Uuid} {approval approval' : ApprovalRequest}
    (found : store.approvals.find id = some approval)
    (found' : store.approvals.find id' = some approval')
    (same : approval.decisionId = approval'.decisionId) : approval = approval' := by
  have first := UniqueTable.lookup_eq_some_iff.mpr ⟨found,rfl⟩
  have second := UniqueTable.lookup_eq_some_iff.mpr ⟨found',rfl⟩
  rw [same, second] at first
  exact (Prod.mk.inj (Option.some.inj first)).2.symm

end Store

namespace Service

variable {service : Service} {store next : Store} {operation : Operation}

def HeldStep (service : Service) (store : Store) (operation : Operation) (next : Store) : Prop :=
  service.Step store operation next ∧
    ∀ id, Reconciles store operation id → ¬store.AwaitsApproval id

theorem ApprovalStep.closedFor (step : ApprovalStep service store operation next) {decisionId : Uuid}
    (closed : store.ClosedFor decisionId) : next.ClosedFor decisionId := by
  obtain ⟨id,approval,found,of_,ended⟩ := closed
  cases step with
  | same approvals => exact ⟨id,approval,by rw [approvals]; exact found,of_,ended⟩
  | asked other row _ _ inserted =>
    refine ⟨id,approval,?_,of_,ended⟩
    rw [UniqueTable.find_insert inserted, if_neg ?_]
    · exact found
    · rintro rfl
      have fresh := (Table.insert_eq_some (UniqueTable.insert_eq_some inserted).1).1
      simp [fresh] at found
  | closed other before after rewrites pending _ request =>
    refine ⟨id,approval,?_,of_,ended⟩
    rw [rewrites.other ?_]
    · exact found
    · rintro rfl
      obtain rfl := Option.some.inj (rewrites.was.symm.trans found)
      exact ended pending
  | approved call before _ _ _ _ _ rewrites pending =>
    refine ⟨id,approval,?_,of_,ended⟩
    rw [rewrites.other ?_]
    · exact found
    · rintro rfl
      obtain rfl := Option.some.inj (rewrites.was.symm.trans found)
      exact ended pending
  | consumed other before now rewrites =>
    by_cases same : id = other
    · subst same
      obtain rfl := Option.some.inj (rewrites.was.symm.trans found)
      exact ⟨id,_,rewrites.found,of_,ended⟩
    · exact ⟨id,approval,(rewrites.other same).trans found,of_,ended⟩

def Held (decisionId : Uuid) (created : Decision) (store : Store) : Prop :=
  store.ClosedFor decisionId ∨ ∃ row, store.decisions.find decisionId = some row ∧
    (created.SameReservation row ∨ row.decision ≠ .requireApproval)

theorem HeldStep.held {decisionId : Uuid} {created : Decision}
    (step : service.HeldStep store operation next) (held : Held decisionId created store) :
    Held decisionId created next := by
  obtain ⟨taken,spared⟩ := step
  have lifecycle := Step.lifecycle taken
  rcases held with closed | ⟨row,found,kept⟩
  · exact Or.inl (ApprovalStep.closedFor lifecycle.approvals closed)
  · obtain ⟨row',found',carries⟩ := lifecycle.persists decisionId row found
    rcases kept with same | other
    · rcases lifecycle.reservations decisionId row row' found found' with kept | reconciled | closed
      · refine Or.inr ⟨row',found',Or.inl ?_⟩
        exact ⟨kept.reservationActive.trans same.reservationActive,
          kept.reservedAllocationUsd.trans same.reservedAllocationUsd,
          kept.reservedCreditUsd.trans same.reservedCreditUsd⟩
      · have decided := spared decisionId reconciled
        by_cases asked : row.decision = .requireApproval
        · have closed : store.ClosedFor decisionId := by
            by_contra open_
            exact decided ⟨row,found,asked,open_⟩
          exact Or.inl (ApprovalStep.closedFor lifecycle.approvals closed)
        · exact Or.inr ⟨row',found',Or.inr (by rw [carries.decision]; exact asked)⟩
      · exact Or.inl closed
    · exact Or.inr ⟨row',found',Or.inr (by rw [carries.decision]; exact other)⟩

theorem evaluateGate_stores {call : GateCall} {result : GateEvaluationResult}
    (evaluated : service.evaluateGate store call = (next,.ok result)) :
    next.decisions.find result.decisionId = some result.decision := by
  cases built : service.buildGateEvaluationContext store.policy call.source call.gateInput with
  | error fault =>
    rw [evaluateGate_refused built] at evaluated
    simp at evaluated
  | ok context =>
    cases found : store.getExistingGateResult call.source context.idempotencyKey
        context.ttlSeconds with
    | some existing =>
      rw [evaluateGate_replayed built found] at evaluated
      obtain ⟨rfl,answer⟩ := Prod.mk.inj evaluated
      obtain rfl := Except.ok.inj answer
      exact (UniqueTable.lookup_eq_some_iff.mp (getExistingGateResult_eq_some found)).1
    | none =>
      have unstored := getExistingGateResult_eq_none.mp found
      cases drafted : service.draftGateDecision store context call with
      | error fault =>
        rw [evaluateGate_undrafted built unstored drafted] at evaluated
        simp at evaluated
      | ok draft =>
        rw [(Evaluates.mk built unstored drafted).persists] at evaluated
        rcases persistDecision_cases evaluated with ⟨_,replay⟩ | ⟨_,decision,_,stored,answer⟩
        · simp [found] at replay
        · obtain rfl := Except.ok.inj answer
          exact stored

end Service

/-- When a token is issued, the reservation its decision was created with is still held, in
every run that reconciles no reservation whose approval is open. -/
theorem approval_implies_held (service : Service) {start before created store next : Store}
    {earlier later : List Operation} {call : GateCall} {result : GateEvaluationResult}
    {review : ReviewCall} {issued : IssuedToken}
    (initial : start.Unused) (first : Trace service.HeldStep start earlier before)
    (evaluated : service.evaluateGate before call = (created,.ok result))
    (then_ : Trace service.HeldStep created later store)
    (reviewed : service.approveRequest store review = (next,.ok issued))
    (same : issued.decisionId = result.decisionId) :
    result.decision.SameReservation issued.decision ∧
      next.decisions.find issued.decisionId = some issued.decision := by
  have run : Trace service.Step start (earlier ++ (.evaluateGate call :: later)) store := by
    have evaluation : created = (service.run before (.evaluateGate call)).1 := by
      simp [Service.run,Service.run.finish,evaluated]
    refine (first.mono fun step => step.1).trans (.go ?_ (then_.mono fun step => step.1))
    rw [evaluation]
    exact .commit
  have held : Service.Held result.decisionId result.decision store := by
    apply then_.keeps (Service.Held result.decisionId result.decision)
    · intro s operation t step
      exact step.held
    · exact Or.inr ⟨result.decision,Service.evaluateGate_stores evaluated,Or.inl ⟨rfl,rfl,rfl⟩⟩
  rcases Service.approveRequest_cases reviewed with ⟨_,fault,failed⟩ | ⟨_,_,_,_,_,failed,_⟩ |
    ⟨approval,approval',row,after,issued',answer,granted⟩
  · simp at failed
  · simp at failed
  · obtain rfl := Except.ok.inj answer
    obtain ⟨_,ofDecision,row'⟩ := granted.issuedFor
    have there := granted.decisions.was
    rw [← ofDecision, same] at there
    rw [row', ofDecision]
    refine ⟨?_,granted.decisions.found⟩
    have kept := granted.tokenIssued.sameReservation
    rcases held with ⟨id,closed,found,of_,ended⟩ | ⟨stored,found,reservation | other⟩
    · have one := Store.approval_unique found granted.stored
        (of_.trans (same.symm.trans ofDecision))
      exact absurd (by rw [one]; exact granted.pending) ended
    · obtain rfl := Option.some.inj (there.symm.trans found)
      exact ⟨kept.reservationActive.trans reservation.reservationActive,
        kept.reservedAllocationUsd.trans reservation.reservedAllocationUsd,
        kept.reservedCreditUsd.trans reservation.reservedCreditUsd⟩
    · obtain rfl := Option.some.inj (there.symm.trans found)
      obtain ⟨decision,found',verdict,_⟩ :=
        (Duties.run initial run).requested review.approvalId approval granted.stored
      rw [← ofDecision, same, found] at found'
      obtain rfl := Option.some.inj found'
      exact absurd verdict other

namespace Sample

def sixtyForAlpha : GateCall := gate 1 "alpha" "first" 60 0

def alphaBudgeted : Store := (service.run askingStore (.upsertBudget (budget "alpha" 100))).1

def alphaCreated : Store := ((signing []).run alphaBudgeted (.evaluateGate sixtyForAlpha)).1

/-- A sweep of reservations older than a minute, a second after that minute. -/
def earlySweep : OverdueCall := ⟨3,60,10,61_000_000⟩

def alphaSwept : Store :=
  ((signing []).run alphaCreated (.reconcileOverdueReservations earlySweep)).1

def reservation (id : Uuid) (decision : Decision) : Uuid × Bool × Int × Int :=
  (id,decision.reservationActive,decision.reservedAllocationUsd,decision.reservedCreditUsd)

def gateReservation (outcome : Except Fault GateEvaluationResult) :
    Except Fault (Uuid × Bool × Int × Int) :=
  outcome.map fun result => reservation result.decisionId result.decision

def issuedReservation (outcome : Except Fault IssuedToken) :
    Except Fault (Uuid × Bool × Int × Int) :=
  outcome.map fun issued => reservation issued.decisionId issued.decision

theorem map_eq_ok {outcome : Except Fault α} {f : α → β} {value : β}
    (same : outcome.map f = .ok value) : ∃ result, outcome = .ok result ∧ f result = value := by
  cases outcome with
  | error fault => contradiction
  | ok result => exact ⟨result,rfl,Except.ok.inj same⟩

theorem alphaBudgeted_trace :
    Trace (signing []).HeldStep askingStore [.upsertBudget (budget "alpha" 100)] alphaBudgeted := by
  refine .go ⟨.commit,?_⟩ .stop
  rintro id (⟨call,same,_⟩ | ⟨call,same,_⟩) <;> cases same

end Sample

theorem approval_implies_held_approved :
    ∃ result issued, ((Sample.signing []).evaluateGate Sample.alphaBudgeted
        Sample.sixtyForAlpha).2 = .ok result ∧
      ((Sample.signing []).approveRequest Sample.alphaCreated
        (Sample.review 1 ⟨2,"owner"⟩ 5)).2 = .ok issued ∧
      Sample.reservation result.decisionId result.decision = (1,true,60_0000,0) ∧
      result.decision.SameReservation issued.decision := by
  have gated : Sample.gateReservation ((Sample.signing []).evaluateGate Sample.alphaBudgeted
      Sample.sixtyForAlpha).2 = .ok (1,true,60_0000,0) := by decide +kernel
  have approved : Sample.issuedReservation ((Sample.signing []).approveRequest Sample.alphaCreated
      (Sample.review 1 ⟨2,"owner"⟩ 5)).2 = .ok (1,true,60_0000,0) := by decide +kernel
  obtain ⟨result,evaluated,reserved⟩ := Sample.map_eq_ok gated
  obtain ⟨issued,reviewed,token⟩ := Sample.map_eq_ok approved
  refine ⟨result,issued,evaluated,reviewed,reserved,?_⟩
  exact (approval_implies_held (Sample.signing []) ⟨rfl,rfl,rfl,rfl⟩ Sample.alphaBudgeted_trace
    (Prod.ext rfl evaluated) .stop (Prod.ext rfl reviewed)
    ((Prod.mk.inj token).1.trans (Prod.mk.inj reserved).1.symm)).1

/-- The sweep releases sixty dollars whose approval is pending; the approval is then issued. -/
theorem approval_without_reservation :
    Reachable Store.Unused (Sample.signing []).Step Sample.alphaSwept ∧
    Sample.gateReservation ((Sample.signing []).evaluateGate Sample.alphaBudgeted
      Sample.sixtyForAlpha).2 = .ok (1,true,60_0000,0) ∧
    Sample.issuedReservation ((Sample.signing []).approveRequest Sample.alphaSwept
      (Sample.review 1 ⟨2,"owner"⟩ 62_000_000)).2 = .ok (1,false,0,0) := by
  refine ⟨⟨Sample.askingStore,[.upsertBudget (Sample.budget "alpha" 100),
    .evaluateGate Sample.sixtyForAlpha,.reconcileOverdueReservations Sample.earlySweep],
    ⟨rfl,rfl,rfl,rfl⟩,?_⟩,by decide +kernel,by decide +kernel⟩
  exact .go .commit (.go .commit (.go .commit .stop))

end Valdrics.Enforcement

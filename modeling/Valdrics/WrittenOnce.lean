import Valdrics.ApprovalLifecycle

/-! What is written once over the runs of the service. An operation adds decisions and rewrites the
reservation, the token and the response of those that are there; a settled approval takes no more
than the consumption of its token. -/
namespace Valdrics.Enforcement

def Decision.RecordedAs (before after : Decision) : Prop :=
  after = { before with
    reasonCodes := after.reasonCodes
    responsePayload := after.responsePayload
    reservedAllocationUsd := after.reservedAllocationUsd
    reservedCreditUsd := after.reservedCreditUsd
    reservationActive := after.reservationActive
    approvalTokenIssued := after.approvalTokenIssued
    tokenExpiresAt := after.tokenExpiresAt }

namespace Decision.RecordedAs

theorem trans {first second third : Decision} (before : first.RecordedAs second)
    (after : second.RecordedAs third) : first.RecordedAs third := by
  unfold RecordedAs at *
  rw [after,before]

variable {before after : Decision}

theorem createdAt (recorded : before.RecordedAs after) : after.createdAt = before.createdAt := by
  rw [recorded]

theorem idempotency (recorded : before.RecordedAs after) :
    after.idempotency = before.idempotency := by
  rw [recorded]
  rfl

end Decision.RecordedAs

namespace Store

/-- The rows that are in both stores have the same records. -/
def SameRecords (store next : Store) : Prop :=
  ∀ id row row', store.decisions.find id = some row → next.decisions.find id = some row' →
    row.RecordedAs row'

/-- No decision goes, and each keeps its record. -/
def RecordedIn (store next : Store) : Prop :=
  ∀ id row, store.decisions.find id = some row →
    ∃ row', next.decisions.find id = some row' ∧ row.RecordedAs row'

theorem RecordedIn.trans {first second third : Store} (before : first.RecordedIn second)
    (after : second.RecordedIn third) : first.RecordedIn third := by
  intro id row found
  obtain ⟨row',found',recorded⟩ := before id row found
  obtain ⟨row'',found'',recorded'⟩ := after id row' found'
  exact ⟨row'',found'',recorded.trans recorded'⟩

namespace SameRecords

variable {store next : Store}

theorem of_decisions (same : next.decisions = store.decisions) : store.SameRecords next := by
  intro id row row' found found'
  rw [same,found] at found'
  obtain rfl := Option.some.inj found'
  rfl

theorem of_rewrites {id : Uuid} {before after : Decision}
    (rewrites : store.decisions.Rewrites next.decisions.toTable id before after)
    (recorded : before.RecordedAs after) : store.SameRecords next := by
  intro other row row' found found'
  rw [rewrites.find] at found'
  split at found'
  · next same =>
    subst same
    obtain rfl := Option.some.inj (rewrites.was.symm.trans found)
    obtain rfl := Option.some.inj found'
    exact recorded
  · obtain rfl := Option.some.inj (found.symm.trans found')
    rfl

end SameRecords

end Store

namespace Service

open Store

variable {service : Service} {store next last : Store} {operations : List Operation}

def SettledAs (before after : ApprovalRequest) : Prop :=
  before.status ≠ .pending ∧
    after = { before with approvalTokenConsumedAt := after.approvalTokenConsumedAt }

theorem Step.settled {operation : Operation} {id : Uuid} {first before : ApprovalRequest}
    (step : service.Step store operation next) (found : store.approvals.find id = some before)
    (settled : SettledAs first before) :
    ∃ after, next.approvals.find id = some after ∧ SettledAs first after := by
  have closed : before.status ≠ .pending := by
    rw [settled.2]
    exact settled.1
  -- A rewrite of another request, or of one that pends, is none of this one.
  have apart : ∀ {other : Uuid} {row row' : ApprovalRequest},
      store.approvals.Rewrites next.approvals.toTable other row row' → row.status = .pending →
      next.approvals.find id = some before := by
    intro other row row' rewrites pending
    have differ : id ≠ other := by
      rintro rfl
      obtain rfl := Option.some.inj (found.symm.trans rewrites.was)
      exact closed pending
    exact (rewrites.other differ).trans found
  cases step.lifecycle.approvals with
  | same approvals => exact ⟨before,by rw [approvals]; exact found,settled⟩
  | asked other row actorId decision inserted =>
    refine ⟨before,?_,settled⟩
    have fresh := (Table.insert_eq_some (UniqueTable.insert_eq_some inserted).1).1
    rw [UniqueTable.find_insert inserted,if_neg ?_,found]
    rintro rfl
    simp [found] at fresh
  | closed _ _ _ rewrites pending => exact ⟨before,apart rewrites pending,settled⟩
  | approved _ _ _ _ _ _ _ rewrites pending => exact ⟨before,apart rewrites pending,settled⟩
  | consumed other row now rewrites =>
    by_cases own : id = other
    · subst own
      obtain rfl := Option.some.inj (found.symm.trans rewrites.was)
      refine ⟨_,rewrites.found,settled.1,?_⟩
      rw [ApprovalRequest.consume,settled.2]
    · exact ⟨before,(rewrites.other own).trans found,settled⟩

end Service

namespace Sample

end Sample

end Valdrics.Enforcement

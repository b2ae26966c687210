import Valdrics.EnforcementApproval

/-! Reconciliation: one reservation settled against the actual cost, with its idempotent
replay, and the sweep that releases reservations older than the service level allows. -/
namespace Valdrics.Enforcement

open PythonText

structure ReconcileCall where
  decisionId : Uuid
  actorId : Uuid
  actualMonthlyDeltaUsd : DecimalValue
  notes : Option String
  idempotencyKey : Option String
  now : Nat

structure OverdueCall where
  actorId : Uuid
  olderThanSeconds : Int
  limit : Int
  now : Nat

structure ReservationReconciliationResult where
  decisionId : Uuid
  releasedReservedUsd : Int
  actualMonthlyDeltaUsd : Int
  driftUsd : Int
  status : String
  reconciledAt : Nat
  deriving DecidableEq, Repr

structure OverdueReservationReconciliationResult where
  releasedCount : Nat
  totalReleasedUsd : Int
  decisionIds : List Uuid
  olderThanSeconds : Int
  deriving DecidableEq, Repr

/-- `(str(value).strip() if value else None) or None`. -/
def strippedOrNone (value : Option String) : Option String :=
  value.bind fun value => if strip value = "" then none else some (strip value)

def reconciliationStatus (drift : Int) : String :=
  if drift = 0 then "matched" else if 0 < drift then "overage" else "savings"

namespace Decision

def addReasons (decision : Decision) (service : Service) (codes : List String) : Decision :=
  { decision with reasonCodes := service.uniqueReasonCodes (decision.reasonCodes ++ codes) }

def claim (decision : Decision) : Decision := { decision with reservationActive := false }

def reconcile (decision : Decision) (service : Service) (record : ReservationReconciliation) :
    Decision :=
  let codes := "reservation_reconciled" ::
    if record.driftUsd = 0 then [] else ["reservation_reconciliation_drift"]
  (decision.addReasons service codes).releaseNoting fun payload =>
    { payload with reservationReconciliation := some record }

def autoRelease (decision : Decision) (service : Service) (record : AutoReconciliation) :
    Decision :=
  (decision.addReasons service ["reservation_auto_released_sla"]).releaseNoting fun payload =>
    { payload with autoReconciliation := some record }

end Decision

namespace Service

variable (service : Service)

def buildReservationReconciliationReplay (decisionId : Uuid) (decision : Decision) (actual : Int)
    (notes idempotencyKey : Option String) :
    Except Fault (Option ReservationReconciliationResult) :=
  match idempotencyKey, decision.responsePayload.reservationReconciliation with
  | some key, some stored =>
    if strip key = "" ∨ strip (stored.idempotencyKey.getD "") ≠ strip key then .ok none
    else do
      refuse (stored.actualMonthlyDeltaUsd ≠ actual) (.replayMismatch "actual_monthly_delta_usd")
      refuse (notes ≠ none ∧ notes ≠ strippedOrNone stored.notes) (.replayMismatch "notes")
      let status := service.text.lower (strip stored.status)
      refuse (status ≠ "matched" ∧ status ≠ "overage" ∧ status ≠ "savings") .replayStatusInvalid
      return some
        { decisionId := decisionId
          releasedReservedUsd := stored.expectedReservedUsd
          actualMonthlyDeltaUsd := stored.actualMonthlyDeltaUsd
          driftUsd := stored.driftUsd
          status := status
          reconciledAt := stored.reconciledAt }
  | _, _ => .ok none

def settleReservation (store : Store) (call : ReconcileCall) (decision : Decision) (actual : Int) :
    Except Fault (Store × ReservationReconciliationResult) := do
  let reservedAllocation := decision.reservedAllocationUsd
  let reservedCredit := decision.reservedCreditUsd
  let creditNeeded := max 0 (actual - reservedAllocation)
  let consumedCredit := min reservedCredit creditNeeded
  let (settled,entries) ← store.settleCreditReservationsForDecision call.decisionId
    reservedCredit consumedCredit call.now
  let releasedTotal := reservedAllocation + reservedCredit
  let drift := actual - releasedTotal
  let status := reconciliationStatus drift
  let record : ReservationReconciliation :=
    { reconciledAt := call.now
      reconciledByUserId := call.actorId
      expectedReservedUsd := releasedTotal
      actualMonthlyDeltaUsd := actual
      driftUsd := drift
      status := status
      notes := strippedOrNone call.notes
      idempotencyKey := strippedOrNone call.idempotencyKey
      creditReservedUsd := reservedCredit
      creditConsumedUsd := consumedCredit
      creditReleasedUsd := reservedCredit - consumedCredit
      creditSettlement := entries }
  let reconciled := settled.updateDecision call.decisionId (·.reconcile service record)
    fun _ => rfl
  let approval := (store.getApprovalByDecision call.decisionId).map Prod.fst
  return (service.appendDecisionLedgerEntry reconciled call.decisionId approval,
    ⟨call.decisionId,releasedTotal,actual,drift,status,call.now⟩)

def claimReservation (store : Store) (decisionId : Uuid) : Store :=
  store.updateDecision decisionId (·.claim) fun _ => rfl

def reconcileReservation (store : Store) (call : ReconcileCall) :
    Committed ReservationReconciliationResult :=
  transaction store do
    let decision ← require (store.decisions.find call.decisionId) .decisionNotFound
    let actual ← comparableAmount call.actualMonthlyDeltaUsd 4
    refuse (actual < 0) .actualDeltaNegative
    if decision.reservationActive then
      service.settleReservation (claimReservation store call.decisionId) call decision actual
    else
      let replay ← service.buildReservationReconciliationReplay call.decisionId decision actual
        (strippedOrNone call.notes) (strippedOrNone call.idempotencyKey)
      let result ← require replay .reservationNotActive
      return (store,result)

/-- `max(60, min(int(older_than_seconds), 604800))`. -/
def boundedAge (olderThanSeconds : Int) : Nat := (max 60 (min olderThanSeconds 604800)).toNat

def overdue (decision : Decision) (age now : Nat) : Bool :=
  decision.reservationActive && decision.createdAt + age * Calendar.microsPerSecond < now

def overdueDecisions (store : Store) (call : OverdueCall) : List (Uuid × Decision) :=
  ((store.decisions.rows.filter fun entry =>
      overdue entry.2 (boundedAge call.olderThanSeconds) call.now).insertionSort
    fun a b => a.2.createdAt ≤ b.2.createdAt).take (max 1 (min call.limit 1000)).toNat

def releaseOverdue (store : Store) (call : OverdueCall) (decisionId : Uuid)
    (decision : Decision) : Except Fault Store := do
  let released := decision.reservedAllocationUsd + decision.reservedCreditUsd
  let (settled,entries) ← (claimReservation store decisionId).settleCreditReservationsForDecision
    decisionId decision.reservedCreditUsd 0 call.now
  let record : AutoReconciliation :=
    { releasedAt := call.now
      releasedByUserId := call.actorId
      releasedReservedUsd := released
      olderThanSeconds := boundedAge call.olderThanSeconds
      reason := "reservation_reconciliation_sla_expired"
      creditSettlement := entries }
  let swept := settled.updateDecision decisionId (·.autoRelease service record) fun _ => rfl
  let approval := (store.getApprovalByDecision decisionId).map Prod.fst
  return service.appendDecisionLedgerEntry swept decisionId approval

def overdueLoop (call : OverdueCall) : List (Uuid × Decision) → Store →
    Except Fault (Store × List Uuid × Int)
  | [], store => .ok (store,[],0)
  | (decisionId,decision) :: rest, store => do
    let next ← service.releaseOverdue store call decisionId decision
    let (last,ids,total) ← overdueLoop call rest next
    return (last,decisionId :: ids,
      decision.reservedAllocationUsd + decision.reservedCreditUsd + total)

def reconcileOverdueReservations (store : Store) (call : OverdueCall) :
    Committed OverdueReservationReconciliationResult :=
  transaction store do
    let (next,ids,total) ← service.overdueLoop call (overdueDecisions store call) store
    return (next,⟨ids.length,total,ids,boundedAge call.olderThanSeconds⟩)

end Service

end Valdrics.Enforcement

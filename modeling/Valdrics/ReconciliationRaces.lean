import Valdrics.EnforcementReconciliation
import Valdrics.Interleaving

/-! Settlements without row locks. Every select is a plain read; a conditional update that
takes a reservation holds its row until its transaction ends. What a transaction changes
of a row it writes at its commit, over the row as it is by then. -/
namespace Valdrics.Enforcement

namespace Decision

def reload (current loaded : Decision) : Decision :=
  { loaded with source := current.source, idempotencyKey := current.idempotencyKey }

def assign (current written : Decision) : Decision :=
  { current with
    reasonCodes := written.reasonCodes
    responsePayload := written.responsePayload
    reservedAllocationUsd := written.reservedAllocationUsd
    reservedCreditUsd := written.reservedCreditUsd
    reservationActive := written.reservationActive }

end Decision

def CreditGrant.assign (current written : CreditGrant) : CreditGrant :=
  { current with remainingAmountUsd := written.remainingAmountUsd, active := written.active }

/-- What one settlement writes: its decision, the allocations it settled with their grants,
and a ledger entry. `rows` holds the rows as the transaction has them. -/
structure SettlementWrites where
  decisionId : Uuid
  rows : Store
  keys : List (Uuid × Uuid)
  logged : List DecisionLedger

namespace SettlementWrites

def between (view next : Store) (decisionId : Uuid) : SettlementWrites where
  decisionId := decisionId
  rows := next
  keys := (view.activeAllocations decisionId).map Prod.fst
  logged := next.ledger.drop view.ledger.length

def assignDecision (writes : SettlementWrites) (row : Decision) : Decision :=
  match writes.rows.decisions.find writes.decisionId with
  | some written => row.assign written
  | none => row

theorem assignDecision_idempotency (writes : SettlementWrites) (row : Decision) :
    (writes.assignDecision row).idempotency = row.idempotency := by
  unfold assignDecision
  split <;> rfl

def assignGrant (writes : SettlementWrites) (id : Uuid) (row : CreditGrant) : CreditGrant :=
  match writes.rows.grants.find id with
  | some written => if id ∈ writes.keys.map Prod.snd then row.assign written else row
  | none => row

def assignAllocation (writes : SettlementWrites) (key : Uuid × Uuid)
    (row : CreditReservationAllocation) : CreditReservationAllocation :=
  if key ∈ writes.keys then (writes.rows.allocations.find key).getD row else row

def flush (store : Store) (writes : SettlementWrites) : Store :=
  { store with
    decisions := store.decisions.update writes.decisionId writes.assignDecision
      writes.assignDecision_idempotency
    grants := store.grants.mapRows writes.assignGrant
    allocations := store.allocations.mapRows writes.assignAllocation
    ledger := store.ledger ++ writes.logged }

end SettlementWrites

/-- What a session sees: its own copies and its own writes over the committed rows. -/
def Store.seen (committed : Store) (loaded : List (Uuid × Decision))
    (writes : List SettlementWrites) : Store :=
  writes.foldl SettlementWrites.flush (loaded.foldl (fun store entry =>
    store.updateDecision entry.1 (·.reload entry.2) fun _ => rfl) committed)

inductive SettleOutcome where
  | reconciled (call : ReconcileCall) (result : ReservationReconciliationResult)
  | swept (call : OverdueCall) (result : OverdueReservationReconciliationResult)
  | answered (call : ReconcileCall) (outcome : Except Fault ReservationReconciliationResult)

structure Settling where
  committed : Store
  outcomes : List SettleOutcome := []

namespace Settling

def answer (s : Settling) (outcome : SettleOutcome) : Settling :=
  { s with outcomes := s.outcomes ++ [outcome] }

end Settling

structure Sweep where
  call : OverdueCall
  listed : List (Uuid × Decision)
  rest : List (Uuid × Decision)
  writes : List SettlementWrites := []
  total : Int := 0

inductive SettlePhase where
  | idle
  | opened (call : ReconcileCall) (decision : Decision) (actual : Int)
  | claimed (call : ReconcileCall) (decision : Decision) (actual : Int)
  | settled (call : ReconcileCall) (result : ReservationReconciliationResult)
      (writes : SettlementWrites)
  | missed (call : ReconcileCall) (actual : Int)
  | sweeping (sweep : Sweep)
  | taken (sweep : Sweep) (decisionId : Uuid) (decision : Decision)

def SettlePhase.held : SettlePhase → List Uuid
  | .claimed call _ _ | .settled call _ _ => [call.decisionId]
  | .sweeping sweep => sweep.writes.map (·.decisionId)
  | .taken sweep decisionId _ => decisionId :: sweep.writes.map (·.decisionId)
  | .idle | .opened _ _ _ | .missed _ _ => []

inductive SettleEvent where
  | reconcileReservation (call : ReconcileCall)
  | claim
  | settle
  | commit
  | reread
  | reconcileOverdueReservations (call : OverdueCall)
  | take
  | skip
  | release
  /-- The transaction is rolled back, and the call raises or never returns. -/
  | crash

namespace Service

variable (service : Service)

def openReconciliation (store : Store) (call : ReconcileCall) : Except Fault (Decision × Int) := do
  let decision ← require (store.decisions.find call.decisionId) .decisionNotFound
  let actual ← comparableAmount call.actualMonthlyDeltaUsd 4
  refuse (actual < 0) .actualDeltaNegative
  return (decision,actual)

def answerInactive (store : Store) (call : ReconcileCall) (actual : Int) :
    Except Fault ReservationReconciliationResult := do
  let decision ← require (store.decisions.find call.decisionId) .decisionNotFound
  let replay ← service.buildReservationReconciliationReplay call.decisionId decision actual
    (strippedOrNone call.notes) (strippedOrNone call.idempotencyKey)
  require replay .reservationNotActive

inductive SettleStep : Settling → SettlePhase → SettleEvent → Settling → SettlePhase → Prop where
  | rejected (refused : openReconciliation s.committed call = .error fault) :
      SettleStep s .idle (.reconcileReservation call) (s.answer (.answered call (.error fault))) .idle
  | inactive (opens : openReconciliation s.committed call = .ok (decision,actual))
      (done : decision.reservationActive = false) :
      SettleStep s .idle (.reconcileReservation call)
        (s.answer (.answered call (service.answerInactive s.committed call actual))) .idle
  | opened (opens : openReconciliation s.committed call = .ok (decision,actual))
      (active : decision.reservationActive = true) :
      SettleStep s .idle (.reconcileReservation call) s (.opened call decision actual)
  | claim (found : s.committed.decisions.find call.decisionId = some row)
      (active : row.reservationActive = true) :
      SettleStep s (.opened call decision actual) .claim s (.claimed call decision actual)
  | claimMissed (missed : ∀ row, s.committed.decisions.find call.decisionId = some row →
      row.reservationActive = false) :
      SettleStep s (.opened call decision actual) .claim s (.missed call actual)
  | settle (done : service.settleReservation (claimReservation
      (s.committed.seen [(call.decisionId,decision)] []) call.decisionId) call decision actual =
        .ok (next,result)) :
      SettleStep s (.claimed call decision actual) .settle s (.settled call result
        (.between (s.committed.seen [(call.decisionId,decision)] []) next call.decisionId))
  | settleFailed (failed : service.settleReservation (claimReservation
      (s.committed.seen [(call.decisionId,decision)] []) call.decisionId) call decision actual =
        .error fault) :
      SettleStep s (.claimed call decision actual) .settle
        (s.answer (.answered call (.error fault))) .idle
  | commit : SettleStep s (.settled call result writes) .commit
      ⟨writes.flush s.committed,s.outcomes ++ [.reconciled call result]⟩ .idle
  | reread : SettleStep s (.missed call actual) .reread
      (s.answer (.answered call (service.answerInactive s.committed call actual))) .idle
  | sweep : SettleStep s .idle (.reconcileOverdueReservations call) s
      (.sweeping ⟨call,overdueDecisions s.committed call,overdueDecisions s.committed call,[],0⟩)
  | take (first : sweep.rest = (decisionId,decision) :: rest)
      (found : s.committed.decisions.find decisionId = some row)
      (active : row.reservationActive = true) :
      SettleStep s (.sweeping sweep) .take s (.taken { sweep with rest } decisionId decision)
  | skip (first : sweep.rest = (decisionId,decision) :: rest)
      (missed : ∀ row, s.committed.decisions.find decisionId = some row →
        row.reservationActive = false) :
      SettleStep s (.sweeping sweep) .skip s (.sweeping { sweep with rest })
  | release (done : service.releaseOverdue (s.committed.seen sweep.listed sweep.writes) sweep.call
      decisionId decision = .ok next) :
      SettleStep s (.taken sweep decisionId decision) .release s (.sweeping { sweep with
        writes := sweep.writes ++
          [.between (s.committed.seen sweep.listed sweep.writes) next decisionId]
        total := sweep.total + (decision.reservedAllocationUsd + decision.reservedCreditUsd) })
  | swept (last : sweep.rest = []) : SettleStep s (.sweeping sweep) .commit
      ⟨sweep.writes.foldl SettlementWrites.flush s.committed,s.outcomes ++ [.swept sweep.call
        ⟨sweep.writes.length,sweep.total,sweep.writes.map (·.decisionId),
          boundedAge sweep.call.olderThanSeconds⟩]⟩ .idle
  | crash : SettleStep s phase .crash s .idle

end Service

end Valdrics.Enforcement

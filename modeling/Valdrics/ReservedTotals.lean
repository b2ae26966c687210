import Valdrics.GatePersistence

/-! The month's reserved totals as sums over the decisions of that month, and what a
persisted decision adds to them. -/
namespace Valdrics.Enforcement

def Decision.activeIn (decision : Decision) (month : Nat) : Bool :=
  decision.reservationActive && Calendar.monthOf decision.createdAt = month

def Decision.reservedTotal (decision : Decision) : Int :=
  decision.reservedAllocationUsd + decision.reservedCreditUsd

theorem countsIn_monthBounds (decision : Decision) (now : Nat) :
    decision.countsIn (monthBounds now) = decision.activeIn (Calendar.monthOf now) := by
  have within := Calendar.monthOf_eq_iff decision.createdAt now
  rw [Bool.eq_iff_iff]
  simp only [Decision.countsIn,Decision.activeIn,Bool.and_eq_true,decide_eq_true_eq,and_assoc,
    within]
  rfl

namespace Store

def reservedIn (store : Store) (month : Nat) : Int :=
  store.decisions.total fun _ decision =>
    if decision.activeIn month then decision.reservedTotal else 0

def reservedAllocationIn (store : Store) (month : Nat) : Int :=
  store.decisions.total fun _ decision =>
    if decision.activeIn month then decision.reservedAllocationUsd else 0

theorem getReservedTotals_allocation (store : Store) (now : Nat) :
    (store.getReservedTotals (monthBounds now)).1 =
      store.reservedAllocationIn (Calendar.monthOf now) := by
  simp only [getReservedTotals,reservedAllocationIn,countsIn_monthBounds]

end Store

namespace Service

variable (service : Service)

theorem readGate_reservedAllocTotal (store : Store) (input : GateInput) (now : Nat) :
    (service.readGate store input now).reservedAllocTotal =
      store.reservedAllocationIn (Calendar.monthOf now) :=
  store.getReservedTotals_allocation now

theorem readGate_reservedTotalMonthly (store : Store) (input : GateInput) (now : Nat) :
    (service.readGate store input now).reservedTotalMonthly =
      store.reservedIn (Calendar.monthOf now) := by
  simp only [GateReads.reservedTotalMonthly,readGate,gateReads,Store.getReservedTotals,Store.reservedIn,
    countsIn_monthBounds,Decision.reservedTotal]
  rw [← Table.total_add]
  congr 1
  funext id decision
  split <;> omega

end Service

end Valdrics.Enforcement

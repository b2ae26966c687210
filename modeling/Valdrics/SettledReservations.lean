import Valdrics.ReconciliationRaces
import Valdrics.SettlementRows

/-! Which reservations of a start store have been settled in a later one. A commit that
writes one settlement adds its decision to them and leaves every other as it was. -/
namespace Valdrics.Enforcement

namespace Store

def reservedUsd (store : Store) (decisionId : Uuid) : Int :=
  match store.decisions.find decisionId with
  | some row => row.reservedAllocationUsd + row.reservedCreditUsd
  | none => 0

def Holds (store : Store) (decisionId : Uuid) : Prop :=
  ∃ row, store.decisions.find decisionId = some row ∧ row.reservationActive = true

structure Untouched (start store : Store) (decisionId : Uuid) : Prop where
  decision : store.decisions.find decisionId = start.decisions.find decisionId
  allocations : ∀ grantId, store.allocations.find (decisionId,grantId) =
    start.allocations.find (decisionId,grantId)

def Took (start store : Store) (decisionId : Uuid) : Prop :=
  ∀ grantId before, start.allocations.find (decisionId,grantId) = some before →
    ∃ after, store.allocations.find (decisionId,grantId) = some after ∧
      if before.active then before.TakenOnce after else after = before

structure SettledOnce (start store : Store) (decisionId : Uuid)
    (record : Option ReservationReconciliation) : Prop where
  held : start.Holds decisionId
  settled : ∃ row, store.decisions.find decisionId = some row ∧ row.reservationActive = false ∧
    row.responsePayload.reservationReconciliation = record
  took : start.Took store decisionId

def KeepsGrants (start store : Store) : Prop :=
  ∀ grantId grant, start.grants.find grantId = some grant →
    ∃ grant', store.grants.find grantId = some grant'

end Store

namespace SettlementWrites

structure Settles (start : Store) (writes : SettlementWrites)
    (record : Option ReservationReconciliation) : Prop where
  held : start.Holds writes.decisionId
  decision : ∃ row, writes.rows.decisions.find writes.decisionId = some row ∧
    row.reservationActive = false ∧ row.responsePayload.reservationReconciliation = record
  taken : ∀ grantId before, start.allocations.find (writes.decisionId,grantId) = some before →
    before.active = true → (writes.decisionId,grantId) ∈ writes.keys ∧ ∃ after,
      before.TakenOnce after ∧
      writes.rows.allocations.find (writes.decisionId,grantId) = some after
  own : ∀ key ∈ writes.keys, key.1 = writes.decisionId ∧ ∃ before,
    start.allocations.find key = some before ∧ before.active = true

variable {start store : Store} {writes : SettlementWrites}
  {record : Option ReservationReconciliation}

theorem flush_decision (decisionId : Uuid) : (writes.flush store).decisions.find decisionId =
    if decisionId = writes.decisionId then
      (store.decisions.find decisionId).map writes.assignDecision
    else store.decisions.find decisionId := Table.find_update _

theorem flush_allocation (key : Uuid × Uuid) : (writes.flush store).allocations.find key =
    (store.allocations.find key).map (writes.assignAllocation key) := Table.find_mapRows _

theorem flush_keepsGrants (kept : start.KeepsGrants store) : start.KeepsGrants (writes.flush store) := by
  intro grantId grant found
  obtain ⟨grant',there⟩ := kept grantId grant found
  refine ⟨writes.assignGrant grantId grant',?_⟩
  exact (Table.find_mapRows _).trans (by rw [there]; rfl)

theorem flush_untouched {decisionId : Uuid} (settles : writes.Settles start record)
    (apart : decisionId ≠ writes.decisionId) (untouched : start.Untouched store decisionId) :
    start.Untouched (writes.flush store) decisionId := by
  refine ⟨?_,fun grantId => ?_⟩
  · rw [flush_decision, if_neg apart]
    exact untouched.decision
  · have foreign : (decisionId,grantId) ∉ writes.keys := by
      intro listed
      exact apart (settles.own _ listed).1
    rw [flush_allocation, untouched.allocations]
    cases start.allocations.find (decisionId,grantId) with
    | none => rfl
    | some row => simp [assignAllocation,foreign]

theorem flush_settledOnce_other {decisionId : Uuid} {record' : Option ReservationReconciliation}
    (settles : writes.Settles start record) (apart : decisionId ≠ writes.decisionId)
    (settled : start.SettledOnce store decisionId record') :
    start.SettledOnce (writes.flush store) decisionId record' := by
  refine ⟨settled.held,?_,fun grantId before found => ?_⟩
  · obtain ⟨row,there,facts⟩ := settled.settled
    refine ⟨row,?_,facts⟩
    rw [flush_decision, if_neg apart]
    exact there
  · obtain ⟨after,there,took⟩ := settled.took grantId before found
    have foreign : (decisionId,grantId) ∉ writes.keys := by
      intro listed
      exact apart (settles.own _ listed).1
    refine ⟨after,?_,took⟩
    rw [flush_allocation, there]
    simp [assignAllocation,foreign]

theorem flush_settledOnce (settles : writes.Settles start record)
    (untouched : start.Untouched store writes.decisionId) :
    start.SettledOnce (writes.flush store) writes.decisionId record := by
  obtain ⟨row,found,_⟩ := settles.held
  obtain ⟨written,there,inactive,recorded⟩ := settles.decision
  refine ⟨settles.held,⟨row.assign written,?_,inactive,recorded⟩,fun grantId before at_ => ?_⟩
  · rw [flush_decision, if_pos rfl, untouched.decision, found]
    simp [assignDecision,there]
  · rw [flush_allocation, untouched.allocations, at_]
    cases active : before.active with
    | true =>
      obtain ⟨listed,after,once,now_⟩ := settles.taken grantId before at_ active
      refine ⟨after,?_,by simpa using once⟩
      simp [assignAllocation,listed,now_]
    | false =>
      have foreign : (writes.decisionId,grantId) ∉ writes.keys := by
        intro listed
        obtain ⟨_,other,there',isActive⟩ := settles.own _ listed
        obtain rfl := Option.some.inj (at_.symm.trans there')
        simp [active] at isActive
      exact ⟨before,by simp [assignAllocation,foreign],by simp⟩

end SettlementWrites

structure SettledIn (start store : Store) (ids : List Uuid)
    (explains : Uuid → Option ReservationReconciliation → Prop) : Prop where
  untouched : ∀ id, id ∉ ids → start.Untouched store id
  settled : ∀ id ∈ ids, ∃ record, start.SettledOnce store id record ∧ explains id record
  grants : start.KeepsGrants store

namespace SettledIn

variable {start store : Store} {ids : List Uuid}
  {explains explains' : Uuid → Option ReservationReconciliation → Prop}

theorem mono (settled : SettledIn start store ids explains)
    (weaker : ∀ id record, explains id record → explains' id record) :
    SettledIn start store ids explains' := by
  refine ⟨settled.untouched,fun id listed => ?_,settled.grants⟩
  obtain ⟨record,once,explained⟩ := settled.settled id listed
  exact ⟨record,once,weaker id record explained⟩

theorem flush {writes : SettlementWrites} {record : Option ReservationReconciliation}
    (settled : SettledIn start store ids explains) (settles : writes.Settles start record)
    (fresh : writes.decisionId ∉ ids) (explained : explains writes.decisionId record) :
    SettledIn start (writes.flush store) (ids ++ [writes.decisionId]) explains := by
  refine ⟨fun id unlisted => ?_,fun id listed => ?_,SettlementWrites.flush_keepsGrants settled.grants⟩
  · simp only [List.mem_append,List.mem_singleton,not_or] at unlisted
    exact SettlementWrites.flush_untouched settles unlisted.2 (settled.untouched id unlisted.1)
  · by_cases own : id = writes.decisionId
    · subst own
      exact ⟨record,SettlementWrites.flush_settledOnce settles (settled.untouched _ fresh),explained⟩
    · have before : id ∈ ids := by simpa [own] using listed
      obtain ⟨record',once,explained'⟩ := settled.settled id before
      exact ⟨record',SettlementWrites.flush_settledOnce_other settles own once,explained'⟩

theorem flushAll {writes : List SettlementWrites} {store : Store} {ids : List Uuid}
    (settled : SettledIn start store ids explains)
    (settles : ∀ write ∈ writes, write.Settles start none)
    (fresh : (ids ++ writes.map (·.decisionId)).Nodup)
    (explained : ∀ id, explains id none) :
    SettledIn start (writes.foldl SettlementWrites.flush store)
      (ids ++ writes.map (·.decisionId)) explains := by
  induction writes generalizing store ids with
  | nil => simpa using settled
  | cons first rest ih =>
    have head : first.decisionId ∉ ids := by
      intro listed
      exact (List.nodup_append.mp fresh).2.2 _ listed _ (by simp) rfl
    have step := settled.flush (settles first List.mem_cons_self) head (explained _)
    have later := ih step (fun write member => settles write (List.mem_cons_of_mem _ member))
      (by simpa using fresh)
    simpa using later

theorem mem_iff (settled : SettledIn start store ids explains) {id : Uuid} {row : Decision}
    (held : start.Holds id) (found : store.decisions.find id = some row) :
    id ∈ ids ↔ row.reservationActive = false := by
  constructor
  · intro listed
    obtain ⟨_,once,_⟩ := settled.settled id listed
    obtain ⟨row',there,inactive,_⟩ := once.settled
    obtain rfl := Option.some.inj (there.symm.trans found)
    exact inactive
  · intro inactive
    by_contra unlisted
    obtain ⟨before,at_,active⟩ := held
    rw [(settled.untouched id unlisted).decision, at_] at found
    obtain rfl := Option.some.inj found
    simp [active] at inactive

theorem of_active (settled : SettledIn start store ids explains) {id : Uuid} {row : Decision}
    (found : store.decisions.find id = some row) (active : row.reservationActive = true) :
    id ∉ ids ∧ start.decisions.find id = some row := by
  have unlisted : id ∉ ids := by
    intro listed
    obtain ⟨_,once,_⟩ := settled.settled id listed
    obtain ⟨row',there,inactive,_⟩ := once.settled
    obtain rfl := Option.some.inj (there.symm.trans found)
    simp [active] at inactive
  exact ⟨unlisted,(settled.untouched id unlisted).decision.symm.trans found⟩

end SettledIn

/-- A session that has loaded only rows of the start sees those rows. -/
theorem reload_untouched {start store : Store} {decisionId : Uuid} (loaded : List (Uuid × Decision))
    (listed : ∀ entry ∈ loaded, start.decisions.find entry.1 = some entry.2)
    (untouched : start.Untouched store decisionId) :
    start.Untouched (loaded.foldl (fun store entry =>
      store.updateDecision entry.1 (·.reload entry.2) fun _ => rfl) store) decisionId := by
  induction loaded generalizing store with
  | nil => exact untouched
  | cons entry rest ih =>
    apply ih fun e member => listed e (List.mem_cons_of_mem _ member)
    refine ⟨?_,untouched.allocations⟩
    change (store.decisions.toTable.update entry.1 _).find decisionId = _
    rw [Table.find_update, untouched.decision]
    split
    · next same =>
      rw [same, listed entry List.mem_cons_self]
      rfl
    · rfl

theorem reload_keepsGrants {start store : Store} (loaded : List (Uuid × Decision))
    (kept : start.KeepsGrants store) :
    start.KeepsGrants (loaded.foldl (fun store entry =>
      store.updateDecision entry.1 (·.reload entry.2) fun _ => rfl) store) := by
  induction loaded generalizing store with
  | nil => exact kept
  | cons entry rest ih => exact ih kept

theorem seen_untouched {start committed : Store} {decisionId : Uuid}
    {loaded : List (Uuid × Decision)} {writes : List SettlementWrites}
    (listed : ∀ entry ∈ loaded, start.decisions.find entry.1 = some entry.2)
    (settles : ∀ write ∈ writes, write.Settles start none)
    (foreign : decisionId ∉ writes.map (·.decisionId))
    (untouched : start.Untouched committed decisionId) (kept : start.KeepsGrants committed) :
    start.Untouched (committed.seen loaded writes) decisionId ∧
      start.KeepsGrants (committed.seen loaded writes) := by
  have first := reload_untouched loaded listed untouched
  have grants := reload_keepsGrants loaded kept
  unfold Store.seen
  generalize loaded.foldl (fun store entry =>
    store.updateDecision entry.1 (·.reload entry.2) fun _ => rfl) committed = store at first grants
  induction writes generalizing store with
  | nil => exact ⟨first,grants⟩
  | cons write rest ih =>
    simp only [List.map_cons,List.mem_cons,not_or] at foreign
    exact ih (fun other member => settles other (List.mem_cons_of_mem _ member)) foreign.2 _
      (SettlementWrites.flush_untouched (settles write List.mem_cons_self) foreign.1 first)
      (SettlementWrites.flush_keepsGrants grants)

structure ReservationReconciliation.Records (record : ReservationReconciliation) (start : Store)
    (call : ReconcileCall) (result : ReservationReconciliationResult) : Prop where
  released : record.expectedReservedUsd = result.releasedReservedUsd
  actual : record.actualMonthlyDeltaUsd = result.actualMonthlyDeltaUsd
  drift : record.driftUsd = result.driftUsd
  status : record.status = result.status
  notes : record.notes = strippedOrNone call.notes
  key : record.idempotencyKey = strippedOrNone call.idempotencyKey
  statusOf : result.status = reconciliationStatus result.driftUsd
  amount : comparableAmount call.actualMonthlyDeltaUsd 4 = .ok result.actualMonthlyDeltaUsd
  reserved : result.releasedReservedUsd = start.reservedUsd call.decisionId

section Settlement

variable {service : Service} {start view : Store}

theorem claim_activeAllocations (view : Store) (decisionId : Uuid) :
    (Service.claimReservation view decisionId).activeAllocations decisionId =
      view.activeAllocations decisionId := rfl

theorem untouched_activeAllocations {decisionId : Uuid} (untouched : start.Untouched view decisionId)
    {entry : (Uuid × Uuid) × CreditReservationAllocation} :
    entry ∈ view.activeAllocations decisionId ↔ entry ∈ start.activeAllocations decisionId := by
  obtain ⟨⟨id,grantId⟩,row⟩ := entry
  rw [Store.mem_activeAllocations, Store.mem_activeAllocations]
  constructor
  · rintro ⟨found,rfl,active⟩
    exact ⟨(untouched.allocations grantId).symm.trans found,rfl,active⟩
  · rintro ⟨found,rfl,active⟩
    exact ⟨(untouched.allocations grantId).trans found,rfl,active⟩

theorem untouched_activeReservedFor {decisionId : Uuid} (untouched : start.Untouched view decisionId) :
    view.activeReservedFor decisionId = start.activeReservedFor decisionId := by
  rw [← Store.activeAllocations_sum, ← Store.activeAllocations_sum]
  have perm : (view.activeAllocations decisionId).Perm (start.activeAllocations decisionId) := by
    refine (List.perm_ext_iff_of_nodup ?_ ?_).mpr fun entry => untouched_activeAllocations untouched
    · exact (List.Nodup.of_map _ view.allocations.distinct).sublist List.filter_sublist
    · exact (List.Nodup.of_map _ start.allocations.distinct).sublist List.filter_sublist
  exact (perm.map fun entry => entry.2.reservedAmountUsd).sum_eq

theorem claim_settles {decisionId : Uuid} {decision : Decision} (conserved : start.CreditConserved)
    (found : start.decisions.find decisionId = some decision)
    (active : decision.reservationActive = true) (untouched : start.Untouched view decisionId)
    (kept : start.KeepsGrants view) (consumed : Int) (now : Nat) :
    ∃ settled entries, (Service.claimReservation view decisionId).settleCreditReservationsForDecision
        decisionId decision.reservedCreditUsd consumed now = .ok (settled,entries) ∧
      ∀ entry ∈ start.activeAllocations decisionId, ∃ after, entry.2.TakenOnce after ∧
        settled.allocations.find entry.1 = some after := by
  have settleable : (Service.claimReservation view decisionId).Settleable decisionId := by
    have before := conserved.settleable decisionId
    refine ⟨fun grantId row at_ => ?_,fun grantId row at_ => ?_⟩
    · exact before.untouched grantId row ((untouched.allocations grantId).symm.trans at_)
    · obtain ⟨grant,there⟩ := before.granted grantId row
        ((untouched.allocations grantId).symm.trans at_)
      exact kept grantId grant there
  have matched : (Service.claimReservation view decisionId).activeReservedFor decisionId =
      decision.reservedCreditUsd :=
    (untouched_activeReservedFor untouched).trans (conserved.reserved decisionId decision found active)
  obtain ⟨settled,entries,settlement,taken⟩ := Store.settle_takes consumed now settleable matched
  refine ⟨settled,entries,settlement,fun entry member => taken entry ?_⟩
  rw [claim_activeAllocations]
  exact (untouched_activeAllocations untouched).mpr member

theorem between_settles {decisionId : Uuid} {settled next : Store}
    {record : Option ReservationReconciliation} (held : start.Holds decisionId)
    (untouched : start.Untouched view decisionId)
    (taken : ∀ entry ∈ start.activeAllocations decisionId, ∃ after, entry.2.TakenOnce after ∧
      settled.allocations.find entry.1 = some after)
    (allocations : next.allocations = settled.allocations)
    {row : Decision} (found : next.decisions.find decisionId = some row)
    (inactive : row.reservationActive = false)
    (recorded : row.responsePayload.reservationReconciliation = record) :
    (SettlementWrites.between view next decisionId).Settles start record := by
  refine ⟨held,⟨row,found,inactive,recorded⟩,fun grantId before found active => ?_,fun key listed => ?_⟩
  · have member : ((decisionId,grantId),before) ∈ start.activeAllocations decisionId :=
      Store.mem_activeAllocations.mpr ⟨found,rfl,active⟩
    obtain ⟨after,once,at_⟩ := taken _ member
    refine ⟨List.mem_map.mpr ⟨_,(untouched_activeAllocations untouched).mpr member,rfl⟩,after,once,?_⟩
    change next.allocations.find _ = _
    rw [allocations]
    exact at_
  · obtain ⟨entry,member,rfl⟩ := List.mem_map.mp listed
    obtain ⟨found,own,active⟩ :=
      Store.mem_activeAllocations.mp ((untouched_activeAllocations untouched).mp member)
    exact ⟨own,entry.2,found,active⟩

theorem settleReservation_returns (service : Service) {call : ReconcileCall} {decision : Decision}
    (actual : Int) (conserved : start.CreditConserved)
    (found : start.decisions.find call.decisionId = some decision)
    (active : decision.reservationActive = true) (untouched : start.Untouched view call.decisionId)
    (kept : start.KeepsGrants view) :
    ∃ result, service.settleReservation (Service.claimReservation view call.decisionId) call decision
      actual = .ok result := by
  obtain ⟨settled,entries,settlement,_⟩ :=
    claim_settles conserved found active untouched kept _ call.now
  exact ⟨_,bind_eq_ok.mpr ⟨(settled,entries),settlement,rfl⟩⟩

theorem settleReservation_settles {call : ReconcileCall} {decision : Decision} {actual : Int}
    {next : Store} {result : ReservationReconciliationResult} (conserved : start.CreditConserved)
    (found : start.decisions.find call.decisionId = some decision)
    (active : decision.reservationActive = true)
    (amount : comparableAmount call.actualMonthlyDeltaUsd 4 = .ok actual)
    (untouched : start.Untouched view call.decisionId) (kept : start.KeepsGrants view)
    (done : service.settleReservation (Service.claimReservation view call.decisionId) call decision
      actual = .ok (next,result)) :
    ∃ record, (SettlementWrites.between view next call.decisionId).Settles start (some record) ∧
      record.Records start call result := by
  obtain ⟨⟨settled,entries⟩,settlement,returned⟩ := bind_eq_ok.mp done
  obtain ⟨rfl,rfl⟩ := Prod.mk.inj (Except.ok.inj returned)
  obtain ⟨settled',entries',settlement',taken⟩ :=
    claim_settles conserved found active untouched kept _ call.now
  obtain ⟨rfl,rfl⟩ := Prod.mk.inj (Except.ok.inj (settlement.symm.trans settlement'))
  have there : settled.decisions.find call.decisionId = some decision.claim :=
    Service.claimed_found (untouched.decision.trans found) settlement
  refine ⟨_,between_settles ⟨decision,found,active⟩ untouched taken
      (Service.updateDecision_logged service settled _ _ _ there).allocations
      (Service.updateDecision_logged service settled _ _ _ there).decisions.found rfl rfl,?_⟩
  exact ⟨rfl,rfl,rfl,rfl,rfl,rfl,rfl,amount,by simp [Store.reservedUsd,found]⟩

theorem releaseOverdue_settles {call : OverdueCall} {decisionId : Uuid} {decision : Decision}
    {next : Store} (conserved : start.CreditConserved) (unreconciled : start.Unreconciled)
    (found : start.decisions.find decisionId = some decision)
    (active : decision.reservationActive = true) (untouched : start.Untouched view decisionId)
    (kept : start.KeepsGrants view)
    (done : service.releaseOverdue view call decisionId decision = .ok next) :
    (SettlementWrites.between view next decisionId).Settles start none := by
  obtain ⟨⟨settled,entries⟩,settlement,returned⟩ := bind_eq_ok.mp done
  obtain rfl := Except.ok.inj returned
  obtain ⟨settled',entries',settlement',taken⟩ :=
    claim_settles conserved found active untouched kept 0 call.now
  obtain ⟨rfl,rfl⟩ := Prod.mk.inj (Except.ok.inj (settlement.symm.trans settlement'))
  have there : settled.decisions.find decisionId = some decision.claim :=
    Service.claimed_found (untouched.decision.trans found) settlement
  exact between_settles ⟨decision,found,active⟩ untouched taken
    (Service.updateDecision_logged service settled _ _ _ there).allocations
    (Service.updateDecision_logged service settled _ _ _ there).decisions.found rfl
    (unreconciled decisionId decision found active)

end Settlement

end Valdrics.Enforcement

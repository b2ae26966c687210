import Valdrics.ApprovalLifecycle

/-! What a settlement finds and leaves. A decision that still holds its reservation carries
no reconciliation, and settling its allocations takes each of them once, whatever the
grants have left. -/
namespace Valdrics.Enforcement

def Store.Unreconciled (store : Store) : Prop :=
  ∀ id row, store.decisions.find id = some row → row.reservationActive = true →
    row.responsePayload.reservationReconciliation = none

namespace Store.Unreconciled

variable {store next : Store}

theorem of_decisions (unreconciled : store.Unreconciled)
    (same : next.decisions = store.decisions) : next.Unreconciled := by
  intro id row found
  rw [same] at found
  exact unreconciled id row found

theorem of_rewrites {id : Uuid} {before after : Decision} (unreconciled : store.Unreconciled)
    (rewrites : store.decisions.Rewrites next.decisions.toTable id before after)
    (active : after.reservationActive = before.reservationActive)
    (record : after.responsePayload.reservationReconciliation =
      before.responsePayload.reservationReconciliation) : next.Unreconciled := by
  intro other row found still
  by_cases same : other = id
  · subst same
    obtain rfl := Option.some.inj (rewrites.found.symm.trans found)
    rw [record]
    exact unreconciled other before rewrites.was (active.symm.trans still)
  · rw [rewrites.other same] at found
    exact unreconciled other row found still

end Store.Unreconciled

namespace Service

variable {service : Service} {store next : Store}

end Service

/-- An active allocation, settled: what is consumed of it and what is released add up to
its amount. -/
def CreditReservationAllocation.TakenOnce (before after : CreditReservationAllocation) : Prop :=
  before.active = true ∧ ∃ consume release now, 0 ≤ consume ∧ 0 ≤ release ∧
    consume + release = before.reservedAmountUsd ∧ before.settle consume release now = some after

namespace Store

structure Settleable (store : Store) (decisionId : Uuid) : Prop where
  untouched : ∀ grantId allocation,
    store.allocations.find (decisionId,grantId) = some allocation → allocation.active = true →
    allocation.consumedAmountUsd = 0 ∧ allocation.releasedAmountUsd = 0
  granted : ∀ grantId allocation,
    store.allocations.find (decisionId,grantId) = some allocation →
    ∃ grant, store.grants.find grantId = some grant

theorem CreditConserved.settleable {store : Store} (conserved : store.CreditConserved)
    (decisionId : Uuid) : store.Settleable decisionId :=
  ⟨fun grantId => conserved.balanced.untouched (decisionId,grantId),
    fun grantId => conserved.balanced.granted (decisionId,grantId)⟩

theorem mem_activeAllocations {store : Store} {decisionId : Uuid}
    {entry : (Uuid × Uuid) × CreditReservationAllocation} :
    entry ∈ store.activeAllocations decisionId ↔ store.allocations.find entry.1 = some entry.2 ∧
      entry.1.1 = decisionId ∧ entry.2.active = true := by
  simp [activeAllocations,List.mem_filter,Table.find_eq_some_iff]

theorem settleLoop_takes (now : Nat)
    {rows : List ((Uuid × Uuid) × CreditReservationAllocation)}
    {remainingConsume remainingRelease : Int} {store : Store}
    (listed : ∀ entry ∈ rows, store.allocations.find entry.1 = some entry.2 ∧
      entry.2.active = true ∧ entry.2.consumedAmountUsd = 0 ∧ entry.2.releasedAmountUsd = 0 ∧
      ∃ grant, store.grants.find entry.1.2 = some grant)
    (distinct : (rows.map Prod.fst).Nodup)
    (consumeNonneg : 0 ≤ remainingConsume) (releaseNonneg : 0 ≤ remainingRelease)
    (whole : remainingConsume + remainingRelease = reservedSum rows) :
    ∃ last entries, settleLoop now rows remainingConsume remainingRelease store =
        .ok (last,entries,0,0) ∧
      (∀ entry ∈ rows, ∃ settled, entry.2.TakenOnce settled ∧
        last.allocations.find entry.1 = some settled) ∧
      ∀ key, key ∉ rows.map Prod.fst → last.allocations.find key = store.allocations.find key := by
  induction rows generalizing remainingConsume remainingRelease store with
  | nil =>
    obtain ⟨rfl,rfl⟩ : remainingConsume = 0 ∧ remainingRelease = 0 := by
      simp only [reservedSum,List.map_nil,List.sum_nil] at whole
      omega
    exact ⟨store,[],rfl,by simp,fun _ _ => rfl⟩
  | cons entry rest ih =>
    obtain ⟨key,allocation⟩ := entry
    obtain ⟨found,active,consumed,released,grant,there⟩ : store.allocations.find key = some allocation ∧
        allocation.active = true ∧ allocation.consumedAmountUsd = 0 ∧
        allocation.releasedAmountUsd = 0 ∧ ∃ grant, store.grants.find key.2 = some grant :=
      listed (key,allocation) List.mem_cons_self
    have unique := List.nodup_cons.mp distinct
    have sum : reservedSum ((key,allocation) :: rest) =
        allocation.reservedAmountUsd + reservedSum rest := by simp [reservedSum]
    have restNonneg : 0 ≤ reservedSum rest := by
      apply List.sum_nonneg
      simp only [List.mem_map]
      rintro _ ⟨e,_,rfl⟩
      exact e.2.reservedPositive.le
    have positive := allocation.reservedPositive
    generalize consumeEq : min allocation.reservedAmountUsd remainingConsume = consume
    generalize releaseEq : min (allocation.reservedAmountUsd - consume) remainingRelease = release
    have exact_ : consume + release = allocation.reservedAmountUsd := by omega
    obtain ⟨settled,checked,_⟩ := settle_exists ⟨consumed,released⟩ (by omega : 0 ≤ consume)
      (by omega : 0 ≤ release) exact_ now
    have other (key' : Uuid × Uuid) (apart : key' ≠ key) :
        (store.settleOn key settled release now).allocations.find key' =
          store.allocations.find key' := Table.find_update_other _ apart
    have still : ∀ e ∈ rest,
        (store.settleOn key settled release now).allocations.find e.1 = some e.2 ∧
          e.2.active = true ∧ e.2.consumedAmountUsd = 0 ∧ e.2.releasedAmountUsd = 0 ∧
          ∃ grant, (store.settleOn key settled release now).grants.find e.1.2 = some grant := by
      intro e member
      obtain ⟨at_,isActive,first,second,grant',there'⟩ := listed e (List.mem_cons_of_mem _ member)
      have apart : e.1 ≠ key := by
        intro same
        exact unique.1 (List.mem_map.mpr ⟨e,member,same⟩)
      refine ⟨(other e.1 apart).trans at_,isActive,first,second,?_⟩
      change ∃ grant, (store.grants.update key.2 _).find e.1.2 = some grant
      rw [Table.find_update, there']
      split
      · exact ⟨_,rfl⟩
      · exact ⟨grant',rfl⟩
    have later := ih still unique.2 (by omega : 0 ≤ remainingConsume - consume)
      (by omega : 0 ≤ remainingRelease - release) (by omega)
    obtain ⟨last,entries,looped,taken,rest_⟩ := later
    refine ⟨last,
      { creditGrantId := key.2
        creditPoolType := allocation.creditPoolType
        scopeKey := grant.scopeKey
        reservedAmountUsd := allocation.reservedAmountUsd
        consumedAmountUsd := consume
        releasedAmountUsd := release
        grantRemainingAmountUsdAfter := (grant.giveBack release now).remainingAmountUsd }
        :: entries,?_,?_,?_⟩
    · simp only [settleLoop,there,require,consumeEq,releaseEq,checked,looped,bind,Except.bind]
      rfl
    · intro e member
      rcases List.mem_cons.mp member with rfl | member
      · refine ⟨settled,⟨active,consume,release,now,by omega,by omega,exact_,checked⟩,?_⟩
        rw [rest_ key unique.1]
        exact (Table.find_update_same _).trans (by rw [found]; rfl)
      · exact taken e member
    · intro key' absent
      simp only [List.map_cons,List.mem_cons,not_or] at absent
      exact (rest_ key' absent.2).trans (other key' absent.1)

theorem settle_takes {store : Store} {decisionId : Uuid} {reservedCredit : Int}
    (consumedCredit : Int) (now : Nat) (settleable : store.Settleable decisionId)
    (matched : store.activeReservedFor decisionId = reservedCredit) :
    ∃ next entries, store.settleCreditReservationsForDecision decisionId reservedCredit
        consumedCredit now = .ok (next,entries) ∧
      ∀ entry ∈ store.activeAllocations decisionId, ∃ settled, entry.2.TakenOnce settled ∧
        next.allocations.find entry.1 = some settled := by
  have sum := store.activeAllocations_sum decisionId
  have positive (entry : (Uuid × Uuid) × CreditReservationAllocation)
      (member : entry ∈ store.activeAllocations decisionId) : 0 < reservedCredit := by
    have amounts : ∀ amount ∈ (store.activeAllocations decisionId).map
        (fun entry => entry.2.reservedAmountUsd), 0 ≤ amount := by
      intro amount listed
      obtain ⟨e,_,rfl⟩ := List.mem_map.mp listed
      exact e.2.reservedPositive.le
    have one := List.single_le_sum amounts _
      (List.mem_map.mpr ⟨entry,member,rfl⟩)
    have least := entry.2.reservedPositive
    unfold reservedSum at sum
    omega
  unfold settleCreditReservationsForDecision
  by_cases nothing : reservedCredit ≤ 0
  · rw [if_pos nothing]
    refine ⟨store,[],rfl,fun entry member => ?_⟩
    have := positive entry member
    omega
  · rw [if_neg nothing]
    have present : (store.activeAllocations decisionId).isEmpty = false := by
      cases rows : store.activeAllocations decisionId with
      | nil =>
        rw [rows] at sum
        simp only [reservedSum,List.map_nil,List.sum_nil] at sum
        omega
      | cons => rfl
    have listed : ∀ entry ∈ store.activeAllocations decisionId,
        store.allocations.find entry.1 = some entry.2 ∧ entry.2.active = true ∧
          entry.2.consumedAmountUsd = 0 ∧ entry.2.releasedAmountUsd = 0 ∧
          ∃ grant, store.grants.find entry.1.2 = some grant := by
      intro entry member
      obtain ⟨⟨id,grantId⟩,allocation⟩ := entry
      obtain ⟨found,rfl,active⟩ := mem_activeAllocations.mp member
      obtain ⟨consumed,released⟩ := settleable.untouched grantId allocation found active
      exact ⟨found,active,consumed,released,settleable.granted grantId allocation found⟩
    obtain ⟨last,entries,looped,taken,_⟩ := settleLoop_takes now listed
      (store.allocations.distinct.sublist (List.filter_sublist.map Prod.fst))
      (by omega : 0 ≤ min (max 0 consumedCredit) reservedCredit)
      (by omega : 0 ≤ reservedCredit - min (max 0 consumedCredit) reservedCredit) (by omega)
    refine ⟨last,entries,?_,taken⟩
    simp only [present,Bool.false_eq_true,refuse,if_false,looped]
    rfl

end Store

end Valdrics.Enforcement

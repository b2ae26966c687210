import Valdrics.EnforcementCredit

/-! The balance of grants and allocations. What a grant has lost is held by its
allocations: the whole amount while one is active, what was consumed once it is settled. -/
namespace Valdrics.Enforcement

def CreditReservationAllocation.held (allocation : CreditReservationAllocation) : Int :=
  if allocation.active then allocation.reservedAmountUsd else allocation.consumedAmountUsd

theorem CreditReservationAllocation.held_nonneg (allocation : CreditReservationAllocation) :
    0 ≤ allocation.held := by
  have reserved := allocation.reservedPositive
  have consumed := allocation.consumedNonneg
  unfold held
  split <;> omega

namespace Store

def heldOn (store : Store) (grantId : Uuid) : Int :=
  store.allocations.total fun key allocation => if key.2 = grantId then allocation.held else 0

def activeReservedFor (store : Store) (decisionId : Uuid) : Int :=
  store.allocations.total fun key allocation =>
    if key.1 = decisionId ∧ allocation.active = true then allocation.reservedAmountUsd else 0

structure CreditBalanced (store : Store) : Prop where
  remainingNonneg : ∀ id grant, store.grants.find id = some grant →
    0 ≤ grant.remainingAmountUsd
  balanced : ∀ id grant, store.grants.find id = some grant →
    grant.totalAmountUsd = grant.remainingAmountUsd + store.heldOn id
  untouched : ∀ key allocation, store.allocations.find key = some allocation →
    allocation.active = true →
    allocation.consumedAmountUsd = 0 ∧ allocation.releasedAmountUsd = 0
  settled : ∀ key allocation, store.allocations.find key = some allocation →
    allocation.active = false →
    allocation.consumedAmountUsd + allocation.releasedAmountUsd = allocation.reservedAmountUsd
  granted : ∀ key allocation, store.allocations.find key = some allocation →
    ∃ grant, store.grants.find key.2 = some grant

theorem heldOn_nonneg (store : Store) (grantId : Uuid) : 0 ≤ store.heldOn grantId := by
  apply Table.total_nonneg
  intro key allocation _
  split
  · exact allocation.held_nonneg
  · exact le_rfl

theorem activeReservedFor_nonneg (store : Store) (decisionId : Uuid) :
    0 ≤ store.activeReservedFor decisionId := by
  apply Table.total_nonneg
  intro key allocation _
  have positive := allocation.reservedPositive
  split <;> omega

theorem CreditBalanced.remaining_le_total {store : Store} (balance : store.CreditBalanced)
    {id : Uuid} {grant : CreditGrant} (found : store.grants.find id = some grant) :
    grant.remainingAmountUsd ≤ grant.totalAmountUsd := by
  have equation := balance.balanced id grant found
  have held := store.heldOn_nonneg id
  omega

theorem CreditBalanced.congr {store next : Store} (balance : store.CreditBalanced)
    (grants : next.grants = store.grants) (allocations : next.allocations = store.allocations) :
    next.CreditBalanced := by
  obtain ⟨remaining,balanced,untouched,settled,granted⟩ := balance
  constructor
  · rw [grants]; exact remaining
  · rw [grants]; simp only [heldOn,allocations]; exact balanced
  · rw [allocations]; exact untouched
  · rw [allocations]; exact settled
  · rw [grants,allocations]; exact granted

structure Reserved (store next : Store) (decisionId : Uuid) (amount : Int) : Prop where
  balanced : next.CreditBalanced
  own : next.activeReservedFor decisionId = store.activeReservedFor decisionId + amount
  others : ∀ id, id ≠ decisionId → next.activeReservedFor id = store.activeReservedFor id
  keys : ∀ key allocation, next.allocations.find key = some allocation →
    key.1 = decisionId ∨ ∃ before, store.allocations.find key = some before

theorem Reserved.refl {store : Store} (balance : store.CreditBalanced) (decisionId : Uuid) :
    Reserved store store decisionId 0 :=
  ⟨balance,(add_zero _).symm,fun _ _ => rfl,fun _ allocation found => Or.inr ⟨allocation,found⟩⟩

theorem Reserved.trans {first second third : Store} {decisionId : Uuid} {a b : Int}
    (left : Reserved first second decisionId a) (right : Reserved second third decisionId b) :
    Reserved first third decisionId (a + b) := by
  refine ⟨right.balanced,?_,?_,?_⟩
  · rw [right.own, left.own]
    omega
  · intro id other
    exact (right.others id other).trans (left.others id other)
  · intro key allocation found
    rcases right.keys key allocation found with own | ⟨before,earlier⟩
    · exact Or.inl own
    · exact left.keys key before earlier

theorem reserveOn_reserved {store next : Store} {decisionId grantId : Uuid}
    {pool : CreditPoolType} {amount : Int} {positive : 0 < amount} {grant : CreditGrant}
    (balance : store.CreditBalanced) (found : store.grants.find grantId = some grant)
    (covered : amount ≤ grant.remainingAmountUsd)
    (drawn : store.reserveOn decisionId grantId pool amount positive = .ok next) :
    Reserved store next decisionId amount := by
  obtain ⟨row,allocations,inserted,reserved,consumed,released,active,rfl⟩ :=
    reserveOn_eq_ok drawn
  have held : row.held = amount := by simp [CreditReservationAllocation.held,active,reserved]
  -- A row's grant is found after the draw when it was found before.
  have grants (id : Uuid) : (store.grants.update grantId fun grant => grant.draw amount).find id =
      if id = grantId then (store.grants.find id).map fun grant => grant.draw amount
      else store.grants.find id := Table.find_update _
  have rows (key : Uuid × Uuid) : allocations.find key =
      if key = (decisionId,grantId) then some row else store.allocations.find key :=
    Table.find_insert inserted
  refine ⟨⟨?_,?_,?_,?_,?_⟩,?_,?_,?_⟩
  · intro id after at_
    rw [grants] at at_
    by_cases same : id = grantId
    · subst same
      obtain rfl : grant.draw amount = after := by simpa [found] using at_
      simp only [CreditGrant.draw]
      omega
    · exact balance.remainingNonneg id after (by simpa [same] using at_)
  · intro id after at_
    rw [grants] at at_
    simp only [heldOn,Table.total_insert inserted,held]
    by_cases same : id = grantId
    · subst same
      obtain rfl : grant.draw amount = after := by simpa [found] using at_
      have equation := balance.balanced id grant found
      simp only [CreditGrant.draw,heldOn,if_true] at equation ⊢
      omega
    · have equation := balance.balanced id after (by simpa [same] using at_)
      simpa [Ne.symm same,heldOn] using equation
  · intro key allocation at_ isActive
    rw [rows] at at_
    split at at_
    · obtain rfl := Option.some.inj at_
      exact ⟨consumed,released⟩
    · exact balance.untouched key allocation at_ isActive
  · intro key allocation at_ inactive
    rw [rows] at at_
    split at at_
    · obtain rfl := Option.some.inj at_
      simp [active] at inactive
    · exact balance.settled key allocation at_ inactive
  · intro key allocation at_
    rw [rows] at at_
    simp only [grants]
    have before : ∃ grant, store.grants.find key.2 = some grant := by
      split at at_
      · next own => exact ⟨grant,by rw [own]; exact found⟩
      · exact balance.granted key allocation at_
    obtain ⟨earlier,there⟩ := before
    split
    · exact ⟨_,by rw [there]; rfl⟩
    · exact ⟨earlier,there⟩
  · simp [activeReservedFor,Table.total_insert inserted,active,reserved]
  · intro id other
    simp [activeReservedFor,Table.total_insert inserted,Ne.symm other]
  · intro key allocation at_
    rw [rows] at at_
    split at at_
    · next own => exact Or.inl (by rw [own])
    · exact Or.inr ⟨allocation,at_⟩

theorem reserveOn_grants {store next : Store} {decisionId grantId id : Uuid}
    {pool : CreditPoolType} {amount : Int} {positive : 0 < amount} (other : id ≠ grantId)
    (drawn : store.reserveOn decisionId grantId pool amount positive = .ok next) :
    next.grants.find id = store.grants.find id := by
  obtain ⟨_,_,_,_,_,_,_,rfl⟩ := reserveOn_eq_ok drawn
  exact Table.find_update_other _ other

/-- The loop draws what it was asked for less what is left. Each grant of the list is
still as listed when its turn comes, because the list names every grant once. -/
theorem reserveLoop_reserved {decisionId : Uuid} {pool : CreditPoolType}
    {grants : List (Uuid × CreditGrant)} {remaining left : Int} {store last : Store}
    {entries : List CreditAllocationEntry} (balance : store.CreditBalanced)
    (listed : ∀ entry ∈ grants, store.grants.find entry.1 = some entry.2)
    (distinct : (grants.map Prod.fst).Nodup)
    (looped : reserveLoop decisionId pool grants remaining store = .ok (last,entries,left)) :
    Reserved store last decisionId (remaining - left) ∧ (0 ≤ remaining → 0 ≤ left) := by
  induction grants generalizing remaining store entries with
  | nil =>
    obtain ⟨rfl,_,rfl⟩ : store = last ∧ [] = entries ∧ remaining = left := by
      simpa [reserveLoop] using looped
    rw [sub_self]
    exact ⟨.refl balance decisionId,id⟩
  | cons entry rest ih =>
    obtain ⟨grantId,grant⟩ := entry
    have unique := List.nodup_cons.mp distinct
    rcases reserveLoop_cons looped with ⟨_,rfl,_,rfl⟩ | ⟨_,_,skipped⟩ |
      ⟨positive,some_,_,next,later,drawn,continued,_⟩
    · rw [sub_self]
      exact ⟨.refl balance decisionId,id⟩
    · exact ih balance (fun e member => listed e (List.mem_cons_of_mem _ member)) unique.2 skipped
    · have first := reserveOn_reserved balance (listed (grantId,grant) List.mem_cons_self)
        (min_le_right _ _) drawn
      have stillListed : ∀ e ∈ rest, next.grants.find e.1 = some e.2 := by
        intro e member
        have apart : e.1 ≠ grantId := by
          rintro rfl
          exact unique.1 (List.mem_map.mpr ⟨e,member,rfl⟩)
        rw [reserveOn_grants apart drawn]
        exact listed e (List.mem_cons_of_mem _ member)
      obtain ⟨second,bounded⟩ := ih first.balanced stillListed unique.2 continued
      have both := first.trans second
      have sum : min remaining grant.remainingAmountUsd +
          (remaining - min remaining grant.remainingAmountUsd - left) = remaining - left := by
        omega
      rw [sum] at both
      exact ⟨both,fun _ => bounded (by omega)⟩

theorem candidateGrants_listed {store : Store} {pool : CreditPoolType} {scope : String}
    {now : Nat} : ∀ entry ∈ store.candidateGrants pool scope now,
      store.grants.find entry.1 = some entry.2 := by
  intro entry member
  have sorted := (List.perm_insertionSort _ _).mem_iff.mp member
  exact Table.find_eq_some_iff.mpr (List.mem_filter.mp sorted).1

theorem candidateGrants_distinct (store : Store) (pool : CreditPoolType) (scope : String)
    (now : Nat) : ((store.candidateGrants pool scope now).map Prod.fst).Nodup := by
  have sorted := (List.perm_insertionSort
    (fun a b => grantPriority pool scope a ≤ grantPriority pool scope b)
    (store.grants.rows.filter fun entry => entry.2.usable pool scope now)).map Prod.fst
  exact sorted.nodup_iff.mpr (store.grants.distinct.sublist (List.filter_sublist.map Prod.fst))

theorem candidateGrants_pool {store : Store} {pool : CreditPoolType} {scope : String}
    {now : Nat} : ∀ entry ∈ store.candidateGrants pool scope now, entry.2.poolType = pool := by
  intro entry member
  have sorted := (List.perm_insertionSort _ _).mem_iff.mp member
  have usable := (List.mem_filter.mp sorted).2
  simp only [CreditGrant.usable,Bool.and_eq_true,decide_eq_true_eq] at usable
  exact usable.1.1.2

theorem reserveLoop_grants {decisionId id : Uuid} {pool : CreditPoolType}
    {grants : List (Uuid × CreditGrant)} {remaining left : Int} {store last : Store}
    {entries : List CreditAllocationEntry} (other : id ∉ grants.map Prod.fst)
    (looped : reserveLoop decisionId pool grants remaining store = .ok (last,entries,left)) :
    last.grants.find id = store.grants.find id := by
  induction grants generalizing remaining store entries with
  | nil =>
    obtain ⟨rfl,_⟩ : store = last ∧ _ := by simpa [reserveLoop] using looped
    rfl
  | cons entry rest ih =>
    obtain ⟨apart,later⟩ := not_or.mp (fun member => other (List.mem_cons.mpr member))
    rcases reserveLoop_cons looped with ⟨_,rfl,_⟩ | ⟨_,_,skipped⟩ | ⟨_,_,_,_,_,drawn,continued,_⟩
    · rfl
    · exact ih later skipped
    · exact (ih later continued).trans (reserveOn_grants apart drawn)

theorem reserveFromRows_grants {store next : Store} {decisionId id : Uuid} {pool : CreditPoolType}
    {rows : List (Uuid × CreditGrant)} {target : Int} {entries : List CreditAllocationEntry}
    (other : id ∉ rows.map Prod.fst)
    (reserved : store.reserveFromRows decisionId pool rows target = .ok (next,entries)) :
    next.grants.find id = store.grants.find id := by
  rcases reserveFromRows_eq_ok reserved with ⟨_,rfl,_⟩ | ⟨_,_,_,looped⟩
  · rfl
  · exact reserveLoop_grants other looped

theorem reserveFromRows_reserved {store next : Store} {decisionId : Uuid} {pool : CreditPoolType}
    {rows : List (Uuid × CreditGrant)} {target : Int} {entries : List CreditAllocationEntry}
    (balance : store.CreditBalanced)
    (listed : ∀ entry ∈ rows, store.grants.find entry.1 = some entry.2)
    (distinct : (rows.map Prod.fst).Nodup) (nonneg : 0 ≤ target)
    (reserved : store.reserveFromRows decisionId pool rows target = .ok (next,entries)) :
    Reserved store next decisionId target := by
  rcases reserveFromRows_eq_ok reserved with ⟨nothing,rfl,_⟩ | ⟨_,left,covered,looped⟩
  · obtain rfl : target = 0 := by omega
    exact .refl balance decisionId
  · obtain ⟨spec,bounded⟩ := reserveLoop_reserved balance listed distinct looped
    have exhausted : target - left = target := by
      have := bounded nonneg
      omega
    rwa [exhausted] at spec

theorem reserveCreditFromGrants_reserved {store next : Store} {decisionId : Uuid}
    {scope : String} {pool : CreditPoolType} {target : Int} {now : Nat}
    {entries : List CreditAllocationEntry} (balance : store.CreditBalanced)
    (nonneg : 0 ≤ target)
    (reserved : store.reserveCreditFromGrants decisionId scope pool target now =
      .ok (next,entries)) : Reserved store next decisionId target :=
  reserveFromRows_reserved balance candidateGrants_listed
    (candidateGrants_distinct store pool scope now) nonneg reserved

theorem reserveCreditForDecision_reserved {store next : Store} {decisionId : Uuid}
    {scope : String} {reservedCredit emergencyCredit : Int} {now : Nat}
    {entries : List CreditAllocationEntry} (balance : store.CreditBalanced)
    (reservedNonneg : 0 ≤ reservedCredit) (emergencyNonneg : 0 ≤ emergencyCredit)
    (reserved : store.reserveCreditForDecision decisionId scope reservedCredit emergencyCredit
      now = .ok (next,entries)) :
    Reserved store next decisionId (reservedCredit + emergencyCredit) := by
  obtain ⟨middle,_,_,first,second,_⟩ := reserveCreditForDecision_eq_ok reserved
  have before := reserveCreditFromGrants_reserved balance reservedNonneg first
  exact before.trans (reserveCreditFromGrants_reserved before.balanced emergencyNonneg second)

structure Settled (store next : Store) (decisionId : Uuid) : Prop where
  balanced : next.CreditBalanced
  own : next.activeReservedFor decisionId = 0
  others : ∀ id, id ≠ decisionId → next.activeReservedFor id = store.activeReservedFor id
  keys : ∀ key allocation, next.allocations.find key = some allocation →
    ∃ before, store.allocations.find key = some before

theorem settle_exists {allocation : CreditReservationAllocation} {consume release : Int}
    (untouched : allocation.consumedAmountUsd = 0 ∧ allocation.releasedAmountUsd = 0)
    (consumeNonneg : 0 ≤ consume) (releaseNonneg : 0 ≤ release)
    (whole : consume + release = allocation.reservedAmountUsd) (now : Nat) :
    ∃ settled, allocation.settle consume release now = some settled ∧
      settled.active = false ∧ settled.reservedAmountUsd = allocation.reservedAmountUsd ∧
      settled.consumedAmountUsd = consume ∧ settled.releasedAmountUsd = release := by
  obtain ⟨consumed,released⟩ := untouched
  refine ⟨_,dif_pos ⟨by omega,by omega,by omega⟩,rfl,rfl,?_,?_⟩
  · simp [consumed]
  · simp [released]

structure SettledOne (store next : Store) (key : Uuid × Uuid)
    (allocation : CreditReservationAllocation) : Prop where
  balanced : next.CreditBalanced
  active : ∀ id, next.activeReservedFor id =
    store.activeReservedFor id - if key.1 = id then allocation.reservedAmountUsd else 0
  rest : ∀ other, other ≠ key → next.allocations.find other = store.allocations.find other
  keys : ∀ other row, next.allocations.find other = some row →
    ∃ before, store.allocations.find other = some before

theorem settleOn_settled {store : Store} {key : Uuid × Uuid}
    {allocation settled : CreditReservationAllocation} {release : Int} (now : Nat)
    (balance : store.CreditBalanced) (found : store.allocations.find key = some allocation)
    (active : allocation.active = true) (inactive : settled.active = false)
    (reserved : settled.reservedAmountUsd = allocation.reservedAmountUsd)
    (whole : settled.consumedAmountUsd + release = allocation.reservedAmountUsd)
    (released : settled.releasedAmountUsd = release) :
    SettledOne store (store.settleOn key settled release now) key allocation := by
  have consumedNonneg := settled.consumedNonneg
  have releasedNonneg := settled.releasedNonneg
  have rows (other : Uuid × Uuid) :
      (store.allocations.update key fun _ => settled).find other =
        if other = key then some settled else store.allocations.find other := by
    rw [Table.find_update]
    split
    · next same => rw [same,found]; rfl
    · rfl
  have grants (id : Uuid) :
      (store.grants.update key.2 fun grant => grant.giveBack release now).find id =
        if id = key.2 then (store.grants.find id).map fun grant => grant.giveBack release now
        else store.grants.find id := Table.find_update _
  -- The row held its whole reservation and now holds what was consumed.
  have held (id : Uuid) : (store.settleOn key settled release now).heldOn id =
      store.heldOn id - if key.2 = id then release else 0 := by
    have moved := Table.total_update
      (fun other row => if other.2 = id then row.held else 0) (fun _ => settled) found
    have before : allocation.held = allocation.reservedAmountUsd := by
      simp [CreditReservationAllocation.held,active]
    have after : settled.held = settled.consumedAmountUsd := by
      simp [CreditReservationAllocation.held,inactive]
    simp only [heldOn,settleOn]
    by_cases mine : key.2 = id
    · simp only [mine,if_true,before,after] at moved ⊢
      omega
    · simp only [mine,if_false,add_zero,sub_zero] at moved ⊢
      exact moved
  -- The clamp to the total never bites, for the total covers what is held.
  have room (grant : CreditGrant) (there : store.grants.find key.2 = some grant) :
      (grant.giveBack release now).remainingAmountUsd = grant.remainingAmountUsd + release := by
    have equation := balance.balanced key.2 grant there
    have share : allocation.held ≤ store.heldOn key.2 := by
      have part := Table.le_total store.allocations
        (fun other row => if other.2 = key.2 then row.held else 0) (by
          intro other row _
          split
          · exact row.held_nonneg
          · exact le_rfl) (Table.find_eq_some_iff.mp found)
      simpa [heldOn] using part
    have before : allocation.held = allocation.reservedAmountUsd := by
      simp [CreditReservationAllocation.held,active]
    simp only [CreditGrant.giveBack]
    split <;> omega
  refine ⟨⟨?_,?_,?_,?_,?_⟩,?_,?_,?_⟩
  · intro id after at_
    rw [settleOn, grants] at at_
    by_cases same : id = key.2
    · subst same
      obtain ⟨grant,there⟩ := balance.granted key allocation found
      obtain rfl : grant.giveBack release now = after := by simpa [there] using at_
      have nonneg := balance.remainingNonneg key.2 grant there
      rw [room grant there]
      omega
    · exact balance.remainingNonneg id after (by simpa [same] using at_)
  · intro id after at_
    rw [held]
    rw [settleOn, grants] at at_
    by_cases same : id = key.2
    · subst same
      obtain ⟨grant,there⟩ := balance.granted key allocation found
      obtain rfl : grant.giveBack release now = after := by simpa [there] using at_
      have equation := balance.balanced key.2 grant there
      rw [room grant there, if_pos rfl]
      simp only [CreditGrant.giveBack]
      omega
    · have equation := balance.balanced id after (by simpa [same] using at_)
      simpa [Ne.symm same] using equation
  · intro other row at_ isActive
    rw [settleOn, rows] at at_
    split at at_
    · obtain rfl := Option.some.inj at_
      simp [inactive] at isActive
    · exact balance.untouched other row at_ isActive
  · intro other row at_ isInactive
    rw [settleOn, rows] at at_
    split at at_
    · obtain rfl := Option.some.inj at_
      rw [released,reserved]
      exact whole
    · exact balance.settled other row at_ isInactive
  · intro other row at_
    rw [settleOn, rows] at at_
    simp only [settleOn,grants]
    have before : ∃ grant, store.grants.find other.2 = some grant := by
      split at at_
      · next same => rw [same]; exact balance.granted key allocation found
      · exact balance.granted other row at_
    obtain ⟨earlier,there⟩ := before
    split
    · exact ⟨_,by rw [there]; rfl⟩
    · exact ⟨earlier,there⟩
  · intro id
    have moved := Table.total_update
      (fun other row => if other.1 = id ∧ row.active = true then row.reservedAmountUsd else 0)
      (fun _ => settled) found
    simp only [activeReservedFor,settleOn]
    by_cases mine : key.1 = id
    · simp only [mine,inactive,active,Bool.false_eq_true,and_false,and_true,if_false,if_true,
        add_zero] at moved ⊢
      omega
    · simp only [mine,false_and,if_false,add_zero,sub_zero] at moved ⊢
      exact moved
  · intro other apart
    exact Table.find_update_other _ apart
  · intro other row at_
    rw [settleOn, rows] at at_
    split at at_
    · next same => exact ⟨allocation,by rw [same]; exact found⟩
    · exact ⟨row,at_⟩

def reservedSum (rows : List ((Uuid × Uuid) × CreditReservationAllocation)) : Int :=
  (rows.map fun entry => entry.2.reservedAmountUsd).sum

theorem settleLoop_settled {decisionId : Uuid} (now : Nat)
    {rows : List ((Uuid × Uuid) × CreditReservationAllocation)}
    {remainingConsume remainingRelease : Int} {store : Store} (balance : store.CreditBalanced)
    (listed : ∀ entry ∈ rows, store.allocations.find entry.1 = some entry.2 ∧
      entry.2.active = true ∧ entry.1.1 = decisionId)
    (distinct : (rows.map Prod.fst).Nodup)
    (consumeNonneg : 0 ≤ remainingConsume) (releaseNonneg : 0 ≤ remainingRelease)
    (whole : remainingConsume + remainingRelease = reservedSum rows) :
    ∃ last entries, settleLoop now rows remainingConsume remainingRelease store =
        .ok (last,entries,0,0) ∧ last.CreditBalanced ∧
      last.activeReservedFor decisionId = store.activeReservedFor decisionId - reservedSum rows ∧
      (∀ id, id ≠ decisionId → last.activeReservedFor id = store.activeReservedFor id) ∧
      ∀ key row, last.allocations.find key = some row →
        ∃ before, store.allocations.find key = some before := by
  induction rows generalizing remainingConsume remainingRelease store with
  | nil =>
    obtain ⟨rfl,rfl⟩ : remainingConsume = 0 ∧ remainingRelease = 0 := by
      simp only [reservedSum,List.map_nil,List.sum_nil] at whole
      omega
    exact ⟨store,[],rfl,balance,by simp [reservedSum],fun _ _ => rfl,
      fun key row found => ⟨row,found⟩⟩
  | cons entry rest ih =>
    obtain ⟨key,allocation⟩ := entry
    obtain ⟨found,active,own⟩ : store.allocations.find key = some allocation ∧
        allocation.active = true ∧ key.1 = decisionId :=
      listed (key,allocation) List.mem_cons_self
    have unique := List.nodup_cons.mp distinct
    have sum : reservedSum ((key,allocation) :: rest) =
        allocation.reservedAmountUsd + reservedSum rest := by simp [reservedSum]
    have restNonneg : 0 ≤ reservedSum rest := by
      apply List.sum_nonneg
      simp only [List.mem_map]
      rintro _ ⟨e,_,rfl⟩
      exact e.2.reservedPositive.le
    have positive := allocation.reservedPositive
    obtain ⟨grant,there⟩ := balance.granted key allocation found
    -- Consumption comes first; what it leaves of the row is released, never less.
    generalize consumeEq : min allocation.reservedAmountUsd remainingConsume = consume
    generalize releaseEq : min (allocation.reservedAmountUsd - consume) remainingRelease = release
    have exact_ : consume + release = allocation.reservedAmountUsd := by omega
    obtain ⟨settled,checked,inactive,reserved,consumed,released⟩ :=
      settle_exists (balance.untouched key allocation found active)
        (by omega : 0 ≤ consume) (by omega : 0 ≤ release) exact_ now
    have one := settleOn_settled now balance found active inactive reserved
      (by rw [consumed]; exact exact_) released
    have later := ih one.balanced (by
        intro e member
        obtain ⟨at_,isActive,mine⟩ := listed e (List.mem_cons_of_mem _ member)
        have apart : e.1 ≠ key := by
          intro same
          exact unique.1 (List.mem_map.mpr ⟨e,member,same⟩)
        exact ⟨(one.rest e.1 apart).trans at_,isActive,mine⟩)
      unique.2 (by omega : 0 ≤ remainingConsume - consume)
      (by omega : 0 ≤ remainingRelease - release) (by omega)
    obtain ⟨last,entries,looped,balanced,mine,others,keys⟩ := later
    refine ⟨last,
      { creditGrantId := key.2
        creditPoolType := allocation.creditPoolType
        scopeKey := grant.scopeKey
        reservedAmountUsd := allocation.reservedAmountUsd
        consumedAmountUsd := consume
        releasedAmountUsd := release
        grantRemainingAmountUsdAfter := (grant.giveBack release now).remainingAmountUsd }
        :: entries,?_,balanced,?_,?_,?_⟩
    · simp only [settleLoop,there,require,consumeEq,releaseEq,checked,looped,bind,Except.bind]
      rfl
    · rw [mine, one.active, if_pos own, sum]
      omega
    · intro id other
      rw [others id other, one.active, if_neg (by rw [own]; exact Ne.symm other)]
      omega
    · intro other row at_
      obtain ⟨before,earlier⟩ := keys other row at_
      exact one.keys other before earlier

theorem activeAllocations_sum (store : Store) (decisionId : Uuid) :
    reservedSum (store.activeAllocations decisionId) = store.activeReservedFor decisionId := by
  unfold reservedSum activeAllocations activeReservedFor Table.total
  induction store.allocations.rows with
  | nil => rfl
  | cons entry rest ih =>
    by_cases mine : entry.1.1 = decisionId <;> cases active : entry.2.active <;>
      simp [mine,active,ih]

theorem settle_returns {store : Store} {decisionId : Uuid} {reservedCredit : Int}
    (consumedCredit : Int) (now : Nat) (balance : store.CreditBalanced)
    (matched : store.activeReservedFor decisionId = reservedCredit) :
    ∃ next entries, store.settleCreditReservationsForDecision decisionId reservedCredit
        consumedCredit now = .ok (next,entries) ∧ Settled store next decisionId := by
  have nonneg := store.activeReservedFor_nonneg decisionId
  unfold settleCreditReservationsForDecision
  by_cases nothing : reservedCredit ≤ 0
  · rw [if_pos nothing]
    exact ⟨store,[],rfl,balance,by omega,fun _ _ => rfl,fun _ row found => ⟨row,found⟩⟩
  · rw [if_neg nothing]
    have listed : ∀ entry ∈ store.activeAllocations decisionId,
        store.allocations.find entry.1 = some entry.2 ∧ entry.2.active = true ∧
          entry.1.1 = decisionId := by
      intro entry member
      obtain ⟨there,mine⟩ := List.mem_filter.mp member
      simp only [Bool.and_eq_true,decide_eq_true_eq] at mine
      exact ⟨Table.find_eq_some_iff.mpr there,mine.2,mine.1⟩
    have distinct : ((store.activeAllocations decisionId).map Prod.fst).Nodup :=
      store.allocations.distinct.sublist (List.filter_sublist.map Prod.fst)
    have sum := store.activeAllocations_sum decisionId
    have present : (store.activeAllocations decisionId).isEmpty = false := by
      cases rows : store.activeAllocations decisionId with
      | nil =>
        rw [rows] at sum
        simp only [reservedSum,List.map_nil,List.sum_nil] at sum
        omega
      | cons => rfl
    obtain ⟨last,entries,looped,balanced,mine,others,keys⟩ := settleLoop_settled now
      balance listed distinct
      (by omega : 0 ≤ min (max 0 consumedCredit) reservedCredit)
      (by omega : 0 ≤ reservedCredit - min (max 0 consumedCredit) reservedCredit) (by omega)
    refine ⟨last,entries,?_,balanced,by omega,others,keys⟩
    simp only [present,Bool.false_eq_true,refuse,if_false,looped]
    rfl

end Store

end Valdrics.Enforcement

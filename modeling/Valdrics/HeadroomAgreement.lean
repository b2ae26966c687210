import Valdrics.DecimalContext
import Valdrics.EnforcementOperations
import Valdrics.GateConcurrency
import Valdrics.OrderedDraw

/-! The headrooms of a gate and the draw that follows. What the sums over the usable grants
promise, the loop over the same rows finds, in the order in which each pool is emptied. -/
namespace Valdrics.Enforcement

open OrderedDraw PythonText

theorem bind_eq_error {x : Except φ α} {f : α → Except φ β} {fault : φ} :
    (x >>= f) = .error fault ↔ x = .error fault ∨ ∃ a, x = .ok a ∧ f a = .error fault := by
  cases x with
  | error fault => simp [bind,Except.bind]
  | ok a => simp [bind,Except.bind]

theorem require_eq_error {value : Option α} {fault raised : Fault} :
    require value fault = .error raised ↔ value = none ∧ fault = raised := by
  cases value <;> simp [require]

theorem refuse_eq_error {bad : Prop} [Decidable bad] {fault raised : Fault} :
    refuse bad fault = .error raised ↔ bad ∧ fault = raised := by
  unfold refuse
  split <;> simp_all

namespace CreditGrant

def room (grant : CreditGrant) : Int := max 0 grant.remainingAmountUsd

def drawnBy (grant : CreditGrant) (amount : Int) : CreditGrant :=
  if 0 < amount then grant.draw amount else grant

def ExpiresBefore (first later : CreditGrant) : Prop :=
  ∃ instant, first.expiresAt = some instant ∧
    ∀ other, later.expiresAt = some other → instant < other

/-- Reserved grants of the scope itself come before the default ones, and where the scope
does not decide the earlier expiry does. -/
def DrawnBefore (pool : CreditPoolType) (scope : String) (first later : CreditGrant) : Prop :=
  (pool = .reserved ∧ first.scopeKey = scope ∧ later.scopeKey ≠ scope) ∨
  ((pool = .reserved → (first.scopeKey = scope ↔ later.scopeKey = scope)) ∧
    first.ExpiresBefore later)

theorem room_nonneg (grant : CreditGrant) : 0 ≤ grant.room := le_max_left 0 _

theorem room_spent {grant : CreditGrant} (spent : grant.remainingAmountUsd ≤ 0) :
    grant.room = 0 := max_eq_left spent

theorem room_positive {grant : CreditGrant} (positive : 0 < grant.remainingAmountUsd) :
    grant.room = grant.remainingAmountUsd := max_eq_right positive.le

theorem usable_iff {pool : CreditPoolType} {scope : String} {now : Nat} {grant : CreditGrant} :
    grant.usable pool scope now = true ↔
      grant.active = true ∧ grant.poolType = pool ∧ grant.notExpired now = true ∧
        (pool = .emergency ∨ grant.scopeKey = scope ∨ grant.scopeKey = "default") := by
  simp [usable,and_assoc,or_assoc]

theorem drawnBy_room (grant : CreditGrant) :
    (grant.drawnBy grant.room).remainingAmountUsd ≤ 0 := by
  by_cases spent : grant.remainingAmountUsd ≤ 0
  · simpa [drawnBy,room_spent spent] using spent
  · have positive : 0 < grant.remainingAmountUsd := by omega
    simp [drawnBy,room_positive positive,positive,draw]

end CreditGrant

namespace Store

def entryRoom (entry : Uuid × CreditGrant) : Int := entry.2.room

def poolRemaining (store : Store) (pool : CreditPoolType) : Int :=
  store.grants.total fun _ grant => if grant.poolType = pool then grant.remainingAmountUsd else 0

theorem rooms_nonneg (rows : List (Uuid × CreditGrant)) :
    ∀ room ∈ rows.map entryRoom, 0 ≤ room := by
  intro room member
  obtain ⟨entry,_,rfl⟩ := List.mem_map.mp member
  exact entry.2.room_nonneg

theorem rooms_sum_nonneg (rows : List (Uuid × CreditGrant)) : 0 ≤ (rows.map entryRoom).sum :=
  List.sum_nonneg (rooms_nonneg rows)

section Loop

variable {decisionId : Uuid} {pool : CreditPoolType} {rows : List (Uuid × CreditGrant)}
  {remaining left : Int} {store last : Store} {entries : List CreditAllocationEntry}

theorem listed_after {grantId : Uuid} {amount : Int} {positive : 0 < amount} {next : Store}
    (listed : ∀ entry ∈ rows, store.grants.find entry.1 = some entry.2)
    (apart : grantId ∉ rows.map Prod.fst)
    (drawn : store.reserveOn decisionId grantId pool amount positive = .ok next) :
    ∀ entry ∈ rows, next.grants.find entry.1 = some entry.2 := by
  intro entry member
  have other : entry.1 ≠ grantId := by
    rintro rfl
    exact apart (List.mem_map.mpr ⟨entry,member,rfl⟩)
  rw [reserveOn_grants other drawn]
  exact listed entry member

theorem reserveLoop_error {fault : Fault}
    (failed : reserveLoop decisionId pool rows remaining store = .error fault) :
    fault = .integrityError := by
  induction rows generalizing remaining store with
  | nil => simp [reserveLoop] at failed
  | cons entry rest ih =>
    unfold reserveLoop at failed
    split at failed
    · simp at failed
    · split at failed
      · exact ih failed
      · rcases bind_eq_error.mp failed with refused | ⟨next,_,after⟩
        · rcases bind_eq_error.mp refused with taken | ⟨_,_,returned⟩
          · exact (require_eq_error.mp taken).2.symm
          · simp [pure,Except.pure] at returned
        · rcases bind_eq_error.mp after with later | ⟨_,_,returned⟩
          · exact ih later
          · simp [pure,Except.pure] at returned

theorem reserveOn_exists (pool : CreditPoolType) {grantId : Uuid} {amount : Int}
    (positive : 0 < amount)
    (free : store.allocations.find (decisionId,grantId) = none) :
    ∃ next, store.reserveOn decisionId grantId pool amount positive = .ok next := by
  obtain ⟨allocations,inserted⟩ := Table.insert_exists
    { creditPoolType := pool
      reservedAmountUsd := amount
      reservedPositive := positive
      consumedNonneg := le_rfl
      releasedNonneg := le_rfl
      settledWithinReserved := positive.le : CreditReservationAllocation } free
  exact ⟨_,bind_eq_ok.mpr ⟨allocations,require_eq_ok.mpr inserted,rfl⟩⟩

theorem reserveOn_allocations {grantId id : Uuid} {amount : Int} {positive : 0 < amount}
    {next : Store} (other : id ≠ grantId)
    (drawn : store.reserveOn decisionId grantId pool amount positive = .ok next) :
    next.allocations.find (decisionId,id) = store.allocations.find (decisionId,id) := by
  obtain ⟨_,_,inserted,_,_,_,_,rfl⟩ := reserveOn_eq_ok drawn
  simp [Table.find_insert inserted,other]

theorem reserveLoop_allocations {id : Uuid} (other : id ∉ rows.map Prod.fst)
    (looped : reserveLoop decisionId pool rows remaining store = .ok (last,entries,left)) :
    last.allocations.find (decisionId,id) = store.allocations.find (decisionId,id) := by
  induction rows generalizing remaining store entries with
  | nil =>
    obtain ⟨rfl,_⟩ : store = last ∧ _ := by simpa [reserveLoop] using looped
    rfl
  | cons entry rest ih =>
    obtain ⟨apart,later⟩ := not_or.mp (fun member => other (List.mem_cons.mpr member))
    rcases reserveLoop_cons looped with ⟨_,rfl,_⟩ | ⟨_,_,skipped⟩ | ⟨_,_,_,_,_,drawn,continued,_⟩
    · rfl
    · exact ih later skipped
    · exact (ih later continued).trans (reserveOn_allocations apart drawn)

theorem reserveLoop_exists (pool : CreditPoolType) (remaining : Int)
    (distinct : (rows.map Prod.fst).Nodup)
    (free : ∀ entry ∈ rows, store.allocations.find (decisionId,entry.1) = none) :
    ∃ result, reserveLoop decisionId pool rows remaining store = .ok result := by
  induction rows generalizing remaining store with
  | nil => exact ⟨_,rfl⟩
  | cons entry rest ih =>
    have unique := List.nodup_cons.mp distinct
    have freeRest : ∀ other ∈ rest, store.allocations.find (decisionId,other.1) = none :=
      fun other member => free other (List.mem_cons_of_mem _ member)
    unfold reserveLoop
    split
    · exact ⟨_,rfl⟩
    · next more =>
      split
      · exact ih remaining unique.2 freeRest
      · next some_ =>
        have positive : 0 < min remaining entry.2.remainingAmountUsd :=
          lt_min (Int.not_le.mp more) (Int.not_le.mp some_)
        obtain ⟨next,drawn⟩ := reserveOn_exists pool positive (free entry List.mem_cons_self)
        have freeNext : ∀ other ∈ rest, next.allocations.find (decisionId,other.1) = none := by
          intro other member
          have apart : other.1 ≠ entry.1 := by
            intro same
            exact unique.1 (List.mem_map.mpr ⟨other,member,same⟩)
          rw [reserveOn_allocations apart drawn]
          exact freeRest other member
        obtain ⟨result,later⟩ := ih _ unique.2 freeNext
        exact ⟨_,bind_eq_ok.mpr ⟨next,drawn,bind_eq_ok.mpr ⟨result,later,rfl⟩⟩⟩

theorem reserveLoop_left (nonneg : 0 ≤ remaining)
    (looped : reserveLoop decisionId pool rows remaining store = .ok (last,entries,left)) :
    left = remaining - (draws remaining (rows.map entryRoom)).sum := by
  induction rows generalizing remaining store entries with
  | nil =>
    obtain ⟨_,_,rfl⟩ : store = last ∧ [] = entries ∧ remaining = left := by
      simpa [reserveLoop] using looped
    simp
  | cons entry rest ih =>
    rcases reserveLoop_cons looped with ⟨done,_,_,rfl⟩ | ⟨_,spent,skipped⟩ |
      ⟨_,some_,_,_,_,_,continued,_⟩
    · obtain rfl : left = 0 := by omega
      rw [draws_sum le_rfl (rooms_nonneg _),min_eq_left (rooms_sum_nonneg _),sub_zero]
    · have nothing : entryRoom entry = 0 := CreditGrant.room_spent spent
      have after := ih nonneg skipped
      simpa [nothing,min_eq_right nonneg] using after
    · have all : entryRoom entry = entry.2.remainingAmountUsd := CreditGrant.room_positive some_
      have after := ih (by omega) continued
      simp only [List.map_cons,draws_cons,List.sum_cons,all]
      omega

/-- Every row gives what the rows before it leave missing, as far as its room goes. -/
theorem reserveLoop_finds {first later : List (Uuid × CreditGrant)} {entry : Uuid × CreditGrant}
    (order : rows = first ++ entry :: later) (nonneg : 0 ≤ remaining)
    (listed : ∀ entry ∈ rows, store.grants.find entry.1 = some entry.2)
    (distinct : (rows.map Prod.fst).Nodup)
    (looped : reserveLoop decisionId pool rows remaining store = .ok (last,entries,left)) :
    last.grants.find entry.1 = some (entry.2.drawnBy
      (min (remaining - (draws remaining (first.map entryRoom)).sum) entry.2.room)) := by
  induction rows generalizing remaining store entries first with
  | nil => simp at order
  | cons head rest ih =>
    have unique := List.nodup_cons.mp distinct
    have listedRest : ∀ other ∈ rest, store.grants.find other.1 = some other.2 :=
      fun other member => listed other (List.mem_cons_of_mem _ member)
    have member : entry ∈ head :: rest := by simp [order]
    rcases reserveLoop_cons looped with ⟨done,rfl,_,rfl⟩ | ⟨_,spent,skipped⟩ |
      ⟨_,some_,_,next,_,drawn,continued,_⟩
    · -- Nothing was missing any more.
      obtain rfl : left = 0 := by omega
      rw [draws_sum le_rfl (rooms_nonneg _),min_eq_left (rooms_sum_nonneg _),sub_zero,
        min_eq_left entry.2.room_nonneg]
      exact listed entry member
    · have nothing : entryRoom head = 0 := CreditGrant.room_spent spent
      cases first with
      | nil =>
        obtain ⟨rfl,rfl⟩ : head = entry ∧ rest = later := by simpa using order
        have room : head.2.room = 0 := nothing
        rw [reserveLoop_grants unique.1 skipped,listed head List.mem_cons_self]
        simp [room,min_eq_right nonneg,CreditGrant.drawnBy]
      | cons other first =>
        obtain ⟨rfl,rfl⟩ : head = other ∧ rest = first ++ entry :: later := by simpa using order
        have after := ih rfl nonneg listedRest unique.2 skipped
        simpa [nothing,min_eq_right nonneg] using after
    · have all : entryRoom head = head.2.remainingAmountUsd := CreditGrant.room_positive some_
      cases first with
      | nil =>
        obtain ⟨rfl,rfl⟩ : head = entry ∧ rest = later := by simpa using order
        have room : head.2.room = head.2.remainingAmountUsd := all
        have found := listed head List.mem_cons_self
        have positive : 0 < min remaining head.2.remainingAmountUsd := by omega
        obtain ⟨_,_,_,_,_,_,_,rfl⟩ := reserveOn_eq_ok drawn
        rw [reserveLoop_grants unique.1 continued]
        simp [found,room,CreditGrant.drawnBy,positive]
      | cons other first =>
        obtain ⟨rfl,rfl⟩ : head = other ∧ rest = first ++ entry :: later := by simpa using order
        have after := ih rfl (by omega) (listed_after listedRest unique.1 drawn) unique.2 continued
        simpa [all,sub_sub] using after

theorem reserveOn_poolRemaining {grantId : Uuid} {grant : CreditGrant} {amount : Int}
    {positive : 0 < amount} {next : Store} (found : store.grants.find grantId = some grant)
    (drawn : store.reserveOn decisionId grantId pool amount positive = .ok next)
    (other : CreditPoolType) : next.poolRemaining other =
      store.poolRemaining other - if grant.poolType = other then amount else 0 := by
  obtain ⟨_,_,_,_,_,_,_,rfl⟩ := reserveOn_eq_ok drawn
  have moved := Table.total_update (fun _ grant =>
    if grant.poolType = other then grant.remainingAmountUsd else 0)
    (fun grant => grant.draw amount) found
  simp only [poolRemaining]
  simp only [CreditGrant.draw] at moved ⊢
  split <;> simp_all
  omega

theorem reserveLoop_poolRemaining
    (listed : ∀ entry ∈ rows, store.grants.find entry.1 = some entry.2)
    (distinct : (rows.map Prod.fst).Nodup)
    (pooled : ∀ entry ∈ rows, entry.2.poolType = pool)
    (looped : reserveLoop decisionId pool rows remaining store = .ok (last,entries,left))
    (other : CreditPoolType) : last.poolRemaining other =
      store.poolRemaining other - if pool = other then remaining - left else 0 := by
  induction rows generalizing remaining store entries with
  | nil =>
    obtain ⟨rfl,_,rfl⟩ : store = last ∧ [] = entries ∧ remaining = left := by
      simpa [reserveLoop] using looped
    simp
  | cons entry rest ih =>
    have unique := List.nodup_cons.mp distinct
    have listedRest : ∀ other ∈ rest, store.grants.find other.1 = some other.2 :=
      fun other member => listed other (List.mem_cons_of_mem _ member)
    have pooledRest : ∀ other ∈ rest, other.2.poolType = pool :=
      fun other member => pooled other (List.mem_cons_of_mem _ member)
    rcases reserveLoop_cons looped with ⟨_,rfl,_,rfl⟩ | ⟨_,_,skipped⟩ |
      ⟨_,_,_,next,_,drawn,continued,_⟩
    · simp
    · exact ih listedRest unique.2 pooledRest skipped
    · have here := reserveOn_poolRemaining (listed entry List.mem_cons_self) drawn other
      rw [pooled entry List.mem_cons_self] at here
      rw [ih (listed_after listedRest unique.1 drawn) unique.2 pooledRest continued,here]
      split <;> omega

end Loop

section Candidates

variable {store : Store} {pool : CreditPoolType} {scope : String} {now : Nat}

theorem mem_candidateGrants {entry : Uuid × CreditGrant} :
    entry ∈ store.candidateGrants pool scope now ↔
      store.grants.find entry.1 = some entry.2 ∧ entry.2.usable pool scope now = true := by
  rw [candidateGrants,List.mem_insertionSort,List.mem_filter,Table.find_eq_some_iff]

/-- The sum of a headroom query never exceeds the rooms of the rows a draw goes through. -/
theorem usableRemaining_le (store : Store) (pool : CreditPoolType) (scope : String) (now : Nat) :
    store.usableRemaining pool scope now ≤
      ((store.candidateGrants pool scope now).map entryRoom).sum := by
  have sorted := (List.perm_insertionSort
    (fun a b => grantPriority pool scope a ≤ grantPriority pool scope b)
    (store.grants.rows.filter fun entry => entry.2.usable pool scope now)).map entryRoom
  rw [candidateGrants,sorted.sum_eq]
  simp only [usableRemaining,Table.total]
  induction store.grants.rows with
  | nil => simp
  | cons entry rest ih =>
    have within : entry.2.remainingAmountUsd ≤ entryRoom entry := le_max_right 0 _
    by_cases usable : entry.2.usable pool scope now = true
    · simp only [List.map_cons,List.sum_cons,usable,if_true,List.filter_cons]
      omega
    · simpa [List.filter_cons,usable] using ih

theorem creditHeadrooms_le (reservedRemaining emergencyRemaining decisionsReserved mappedActive) :
    (creditHeadrooms reservedRemaining emergencyRemaining decisionsReserved mappedActive).1 ≤
        max 0 reservedRemaining ∧
      (creditHeadrooms reservedRemaining emergencyRemaining decisionsReserved mappedActive).2 ≤
        max 0 emergencyRemaining := by
  unfold creditHeadrooms
  dsimp only
  split
  · refine ⟨by omega,?_⟩
    dsimp only
    split <;> omega
  · exact ⟨le_rfl,le_rfl⟩

theorem getCreditHeadrooms_le (store : Store) (scope : String) (now : Nat) :
    (store.getCreditHeadrooms scope now).1 ≤
        ((store.candidateGrants .reserved scope now).map entryRoom).sum ∧
      (store.getCreditHeadrooms scope now).2 ≤
        ((store.candidateGrants .emergency scope now).map entryRoom).sum := by
  have most := creditHeadrooms_le (store.usableRemaining .reserved scope now)
    (store.usableRemaining .emergency scope now) store.activeReservedCredit
    store.mappedActiveCredit
  exact ⟨most.1.trans (max_le (rooms_sum_nonneg _) (store.usableRemaining_le _ _ _)),
    most.2.trans (max_le (rooms_sum_nonneg _) (store.usableRemaining_le _ _ _))⟩

/-- The columns of the `ORDER BY` put the grant that is drawn before first. -/
theorem grantPriority_lt {first later : Uuid × CreditGrant}
    (before : CreditGrant.DrawnBefore pool scope first.2 later.2)
    (usable : first.2.usable pool scope now = true)
    (usableLater : later.2.usable pool scope now = true) :
    grantPriority pool scope first < grantPriority pool scope later := by
  have ages (rest rest' : List Nat) (expires : first.2.ExpiresBefore later.2) :
      (if first.2.expiresAt = none then 1 else 0) :: first.2.expiresAt.getD 0 :: rest <
        (if later.2.expiresAt = none then 1 else 0) :: later.2.expiresAt.getD 0 :: rest' := by
    obtain ⟨instant,expiry,earlier⟩ := expires
    rw [expiry]
    cases other : later.2.expiresAt with
    | none => simp [List.cons_lt_cons_iff]
    | some ending => simp [List.cons_lt_cons_iff,earlier ending other]
  rcases before with ⟨rfl,own,foreign⟩ | ⟨sameScope,expires⟩
  · simp only [grantPriority,List.cons_lt_cons_iff]
    left
    rw [if_pos own,if_neg foreign]
    split <;> omega
  · cases pool with
    | emergency => exact ages _ _ expires
    | reserved =>
      have inScope := (CreditGrant.usable_iff.mp usable).2.2.2
      have inScopeLater := (CreditGrant.usable_iff.mp usableLater).2.2.2
      have byAge := ages [first.2.createdAt,first.1.toNat] [later.2.createdAt,later.1.toNat]
        expires
      refine List.cons_lt_cons_iff.mpr (Or.inr ⟨?_,byAge⟩)
      by_cases own : first.2.scopeKey = scope
      · rw [if_pos own,if_pos ((sameScope rfl).mp own)]
      · have foreign : later.2.scopeKey ≠ scope := fun same => own ((sameScope rfl).mpr same)
        have default : first.2.scopeKey = "default" := by simpa [own] using inScope
        have defaultLater : later.2.scopeKey = "default" := by simpa [foreign] using inScopeLater
        rw [if_neg own,if_neg foreign,if_pos default,if_pos defaultLater]

theorem candidateGrants_order (first later : Uuid × CreditGrant)
    (member : first ∈ store.candidateGrants pool scope now)
    (memberLater : later ∈ store.candidateGrants pool scope now)
    (before : CreditGrant.DrawnBefore pool scope first.2 later.2) :
    ∃ head middle tail,
      store.candidateGrants pool scope now = (head ++ first :: middle) ++ later :: tail := by
  have lt := grantPriority_lt before (mem_candidateGrants.mp member).2
    (mem_candidateGrants.mp memberLater).2
  have total : Std.Total fun a b : Uuid × CreditGrant =>
      grantPriority pool scope a ≤ grantPriority pool scope b := ⟨fun a b => le_total _ _⟩
  have trans : IsTrans (Uuid × CreditGrant) fun a b =>
      grantPriority pool scope a ≤ grantPriority pool scope b := ⟨fun _ _ _ => le_trans⟩
  have sorted : (store.candidateGrants pool scope now).Pairwise fun a b =>
      grantPriority pool scope a ≤ grantPriority pool scope b := List.pairwise_insertionSort _ _
  obtain ⟨head,tail,split⟩ := List.append_of_mem memberLater
  rw [split] at member sorted
  have tails := List.pairwise_cons.mp (List.pairwise_append.mp sorted).2.1
  rcases List.mem_append.mp member with earlier | here
  · obtain ⟨start,middle,rfl⟩ := List.append_of_mem earlier
    exact ⟨start,middle,tail,split⟩
  · rcases List.mem_cons.mp here with rfl | after
    · exact absurd lt (lt_irrefl _)
    · exact absurd lt (not_lt.mpr (tails.1 first after))

end Candidates

structure DebitsPool (store next : Store) (pool : CreditPoolType) (scope : String) (now : Nat)
    (amount : Int) : Prop where
  total : next.poolRemaining pool = store.poolRemaining pool - amount
  rows : ∀ id grant, store.grants.find id = some grant → grant.poolType = pool →
    next.grants.find id = some grant ∨
    (grant.usable pool scope now = true ∧ ∃ drawn, 0 < drawn ∧
      drawn ≤ grant.remainingAmountUsd ∧ next.grants.find id = some (grant.draw drawn))
  order : ∀ id first later laterGrant, store.grants.find id = some first →
    store.grants.find later = some laterGrant → first.usable pool scope now = true →
    laterGrant.usable pool scope now = true → first.DrawnBefore pool scope laterGrant →
    next.grants.find later ≠ some laterGrant →
    ∃ emptied, next.grants.find id = some emptied ∧ emptied.remainingAmountUsd ≤ 0

structure SparesOthers (store next : Store) (pool : CreditPoolType) : Prop where
  rows : ∀ id, (∀ grant, store.grants.find id = some grant → grant.poolType ≠ pool) →
    next.grants.find id = store.grants.find id
  totals : ∀ other, other ≠ pool → next.poolRemaining other = store.poolRemaining other

section Draw

variable {store next : Store} {decisionId : Uuid} {pool : CreditPoolType} {scope : String}
  {now : Nat} {target : Int} {entries : List CreditAllocationEntry}

theorem DebitsPool.nothing (store : Store) (pool : CreditPoolType) (scope : String) (now : Nat) :
    DebitsPool store store pool scope now 0 :=
  ⟨(sub_zero _).symm,fun _ _ found _ => Or.inl found,
    fun _ _ _ _ _ found _ _ _ changed => absurd found changed⟩

theorem drawnBy_draws {grant : CreditGrant} {missing : Int} :
    grant.drawnBy (min missing grant.room) = grant ∨ ∃ drawn, 0 < drawn ∧
      drawn ≤ grant.remainingAmountUsd ∧
      grant.drawnBy (min missing grant.room) = grant.draw drawn := by
  by_cases positive : 0 < min missing grant.room
  · refine Or.inr ⟨_,positive,?_,if_pos positive⟩
    have some_ : 0 < grant.room := positive.trans_le (min_le_right _ _)
    unfold CreditGrant.room at some_ ⊢
    omega
  · exact Or.inl (if_neg positive)

theorem reserveLoop_order {rows : List (Uuid × CreditGrant)} {left : Int}
    {head middle tail : List (Uuid × CreditGrant)} {first later : Uuid × CreditGrant}
    (order : rows = (head ++ first :: middle) ++ later :: tail) (nonneg : 0 ≤ target)
    (listed : ∀ entry ∈ rows, store.grants.find entry.1 = some entry.2)
    (distinct : (rows.map Prod.fst).Nodup)
    (looped : reserveLoop decisionId pool rows target store = .ok (next,entries,left))
    (changed : next.grants.find later.1 ≠ some later.2) :
    ∃ emptied, next.grants.find first.1 = some emptied ∧ emptied.remainingAmountUsd ≤ 0 := by
  have atLater := reserveLoop_finds order nonneg listed distinct looped
  have atFirst := reserveLoop_finds (order.trans (by simp) : rows =
    head ++ first :: (middle ++ later :: tail)) nonneg listed distinct looped
  have positive : 0 < min (target -
      (draws target ((head ++ first :: middle).map entryRoom)).sum) later.2.room := by
    by_contra none_
    rw [CreditGrant.drawnBy,if_neg none_] at atLater
    exact changed atLater
  have drawn : min (target - (draws target ((head ++ first :: middle).map entryRoom)).sum)
      later.2.room ∈ draws (target -
        (draws target ((head ++ first :: middle).map entryRoom)).sum) [later.2.room] :=
    List.mem_singleton.mpr rfl
  have emptied := draws_exhausts nonneg (rooms_nonneg (head ++ first :: middle))
    (by simpa using later.2.room_nonneg) drawn positive
  rw [List.map_append,draws_append,List.map_cons,draws_cons] at emptied
  have lengths : (draws target (head.map entryRoom)).length = (head.map entryRoom).length :=
    (draws_le target (head.map entryRoom)).length_eq
  have whole := (List.cons.inj (List.append_inj emptied lengths).2).1
  refine ⟨_,atFirst,?_⟩
  have all : min (target - (draws target (head.map entryRoom)).sum) first.2.room =
      first.2.room := whole
  rw [all]
  exact first.2.drawnBy_room

theorem reserveCreditFromGrants_debits (nonneg : 0 ≤ target)
    (reserved : store.reserveCreditFromGrants decisionId scope pool target now =
      .ok (next,entries)) :
    DebitsPool store next pool scope now target ∧ SparesOthers store next pool := by
  rcases reserveFromRows_eq_ok reserved with ⟨nothing,rfl,_⟩ | ⟨positive,left,covered,looped⟩
  · obtain rfl : target = 0 := by omega
    exact ⟨.nothing next pool scope now,fun _ _ => rfl,fun _ _ => rfl⟩
  · have distinct := store.candidateGrants_distinct pool scope now
    have listed : ∀ entry ∈ store.candidateGrants pool scope now,
        store.grants.find entry.1 = some entry.2 := candidateGrants_listed
    have pooled : ∀ entry ∈ store.candidateGrants pool scope now, entry.2.poolType = pool :=
      candidateGrants_pool
    have totals := reserveLoop_poolRemaining listed distinct pooled looped
    have none_ : left = 0 := by
      have rest := reserveLoop_left nonneg looped
      rw [draws_sum nonneg (rooms_nonneg _)] at rest
      omega
    have untouched : ∀ id, (∀ grant, (id,grant) ∉ store.candidateGrants pool scope now) →
        next.grants.find id = store.grants.find id := by
      intro id absent
      apply reserveLoop_grants _ looped
      intro member
      obtain ⟨entry,there,rfl⟩ := List.mem_map.mp member
      exact absent entry.2 there
    refine ⟨⟨?_,?_,?_⟩,?_,?_⟩
    · simpa [none_] using totals pool
    · intro id grant found _
      by_cases candidate : (id,grant) ∈ store.candidateGrants pool scope now
      · obtain ⟨first,later,split⟩ := List.append_of_mem candidate
        have after := reserveLoop_finds split nonneg listed distinct looped
        rcases drawnBy_draws with same | ⟨drawn,some_,most,draws⟩
        · exact Or.inl (after.trans (congrArg some same))
        · exact Or.inr ⟨(mem_candidateGrants.mp candidate).2,drawn,some_,most,
            after.trans (congrArg some draws)⟩
      · left
        rw [untouched id]
        · exact found
        · intro other member
          have same := (mem_candidateGrants.mp member).1
          obtain rfl : grant = other := Option.some.inj (found.symm.trans same)
          exact candidate member
    · intro id first later laterGrant found foundLater usable usableLater before changed
      obtain ⟨head,middle,tail,split⟩ := candidateGrants_order (id,first) (later,laterGrant)
        (mem_candidateGrants.mpr ⟨found,usable⟩)
        (mem_candidateGrants.mpr ⟨foundLater,usableLater⟩) before
      exact reserveLoop_order split nonneg listed distinct looped changed
    · intro id other
      apply untouched id
      intro grant member
      exact other grant (mem_candidateGrants.mp member).1 (pooled _ member)
    · intro other apart
      simpa [Ne.symm apart] using totals other

theorem reserveCreditFromGrants_covered {other : CreditPoolType} {missing : Int} {fault : Fault}
    (covered : target ≤ ((store.candidateGrants pool scope now).map entryRoom).sum)
    (failed : store.reserveCreditFromGrants decisionId scope pool target now = .error fault) :
    fault ≠ .insufficientCreditHeadroom other missing := by
  unfold reserveCreditFromGrants reserveFromRows at failed
  split at failed
  · simp at failed
  · next positive =>
    rcases bind_eq_error.mp failed with stuck | ⟨⟨last,drawn,left⟩,looped,after⟩
    · simp [reserveLoop_error stuck]
    · rcases bind_eq_error.mp after with short | ⟨_,_,returned⟩
      · have left_ := reserveLoop_left (by omega) looped
        rw [draws_sum (by omega) (rooms_nonneg _),min_eq_left covered,sub_self] at left_
        have shortage := (refuse_eq_error.mp short).1
        omega
      · simp [pure,Except.pure] at returned

theorem reserveCreditFromGrants_exists
    (covered : target ≤ ((store.candidateGrants pool scope now).map entryRoom).sum)
    (free : ∀ entry ∈ store.candidateGrants pool scope now,
      store.allocations.find (decisionId,entry.1) = none) :
    ∃ result, store.reserveCreditFromGrants decisionId scope pool target now = .ok result := by
  unfold reserveCreditFromGrants reserveFromRows
  split
  · exact ⟨_,rfl⟩
  · next positive =>
    obtain ⟨⟨last,drawn,left⟩,looped⟩ := reserveLoop_exists pool target
      (store.candidateGrants_distinct pool scope now) free
    have left_ := reserveLoop_left (by omega) looped
    rw [draws_sum (by omega) (rooms_nonneg _),min_eq_left covered,sub_self] at left_
    exact ⟨_,bind_eq_ok.mpr ⟨_,looped,bind_eq_ok.mpr ⟨(),refuse_eq_ok.mpr (by omega),rfl⟩⟩⟩

theorem reserveCreditFromGrants_allocations {id : Uuid}
    (other : ∀ grant, store.grants.find id = some grant → grant.poolType ≠ pool)
    (reserved : store.reserveCreditFromGrants decisionId scope pool target now =
      .ok (next,entries)) :
    next.allocations.find (decisionId,id) = store.allocations.find (decisionId,id) := by
  rcases reserveFromRows_eq_ok reserved with ⟨_,rfl,_⟩ | ⟨_,_,_,looped⟩
  · rfl
  · apply reserveLoop_allocations _ looped
    intro member
    obtain ⟨entry,there,rfl⟩ := List.mem_map.mp member
    exact other entry.2 (mem_candidateGrants.mp there).1 (candidateGrants_pool _ there)

theorem reserveCreditFromGrants_candidates
    (reserved : store.reserveCreditFromGrants decisionId scope .reserved target now =
      .ok (next,entries)) :
    next.candidateGrants .emergency scope now = store.candidateGrants .emergency scope now := by
  rcases reserveFromRows_eq_ok reserved with ⟨_,rfl,_⟩ | ⟨_,_,_,looped⟩
  · rfl
  · exact reserveLoop_candidates _ _ candidateGrants_listed (candidateGrants_distinct _ _ _ _)
      candidateGrants_pool looped

theorem DebitsPool.followed {middle : Store} {amount : Int}
    (debits : DebitsPool store middle pool scope now amount)
    (kept : ∀ id grant, store.grants.find id = some grant → grant.poolType = pool →
      next.grants.find id = middle.grants.find id)
    (total : next.poolRemaining pool = middle.poolRemaining pool) :
    DebitsPool store next pool scope now amount := by
  refine ⟨total.trans debits.total,?_,?_⟩
  · intro id grant found pooled
    rw [kept id grant found pooled]
    exact debits.rows id grant found pooled
  · intro id first later laterGrant found foundLater usable usableLater before changed
    rw [kept id first found (CreditGrant.usable_iff.mp usable).2.1]
    rw [kept later laterGrant foundLater (CreditGrant.usable_iff.mp usableLater).2.1] at changed
    exact debits.order id first later laterGrant found foundLater usable usableLater before changed

theorem DebitsPool.preceded {middle : Store} {amount : Int}
    (debits : DebitsPool middle next pool scope now amount)
    (kept : ∀ id grant, store.grants.find id = some grant → grant.poolType = pool →
      middle.grants.find id = some grant)
    (total : middle.poolRemaining pool = store.poolRemaining pool) :
    DebitsPool store next pool scope now amount := by
  refine ⟨by rw [debits.total,total],?_,?_⟩
  · exact fun id grant found pooled => debits.rows id grant (kept id grant found pooled) pooled
  · intro id first later laterGrant found foundLater usable usableLater before changed
    exact debits.order id first later laterGrant
      (kept id first found (CreditGrant.usable_iff.mp usable).2.1)
      (kept later laterGrant foundLater (CreditGrant.usable_iff.mp usableLater).2.1)
      usable usableLater before changed

theorem reserveCreditForDecision_debits {reserved emergency : Int} (nonneg : 0 ≤ reserved)
    (nonnegEmergency : 0 ≤ emergency)
    (drawn : store.reserveCreditForDecision decisionId scope reserved emergency now =
      .ok (next,entries)) :
    DebitsPool store next .reserved scope now reserved ∧
      DebitsPool store next .emergency scope now emergency ∧
      ∀ id, store.grants.find id = none → next.grants.find id = none := by
  obtain ⟨middle,_,_,one,two,_⟩ := reserveCreditForDecision_eq_ok drawn
  obtain ⟨debits,spares⟩ := reserveCreditFromGrants_debits nonneg one
  obtain ⟨debitsEmergency,sparesEmergency⟩ := reserveCreditFromGrants_debits nonnegEmergency two
  refine ⟨debits.followed ?_ (sparesEmergency.totals _ (by decide)),
    debitsEmergency.preceded ?_ (spares.totals _ (by decide)),?_⟩
  · intro id grant found pooled
    apply sparesEmergency.rows id
    intro after there
    have kept : after.poolType = .reserved := by
      rcases debits.rows id grant found pooled with same | ⟨_,amount,_,_,taken⟩
      · rw [same] at there
        exact Option.some.inj there ▸ pooled
      · rw [taken] at there
        exact Option.some.inj there ▸ pooled
    simp [kept]
  · intro id grant found pooled
    rw [spares.rows id]
    · exact found
    · intro other there
      obtain rfl : grant = other := Option.some.inj (found.symm.trans there)
      simp [pooled]
  · intro id absent
    have middleAbsent : middle.grants.find id = none := by
      rw [spares.rows id (by simp [absent]),absent]
    rw [sparesEmergency.rows id (by simp [middleAbsent]),middleAbsent]

theorem reserveCreditForDecision_covered {reserved emergency : Int}
    (covered : reserved ≤ ((store.candidateGrants .reserved scope now).map entryRoom).sum)
    (coveredEmergency :
      emergency ≤ ((store.candidateGrants .emergency scope now).map entryRoom).sum)
    (pool : CreditPoolType) (missing : Int) :
    store.reserveCreditForDecision decisionId scope reserved emergency now ≠
      .error (.insufficientCreditHeadroom pool missing) := by
  intro short
  rcases bind_eq_error.mp short with first | ⟨⟨middle,drawn⟩,one,after⟩
  · exact reserveCreditFromGrants_covered covered first rfl
  · rw [← reserveCreditFromGrants_candidates one] at coveredEmergency
    rcases bind_eq_error.mp after with second | ⟨_,_,returned⟩
    · exact reserveCreditFromGrants_covered coveredEmergency second rfl
    · simp [pure,Except.pure] at returned

theorem reserveCreditForDecision_exists {reserved emergency : Int}
    (covered : reserved ≤ ((store.candidateGrants .reserved scope now).map entryRoom).sum)
    (coveredEmergency :
      emergency ≤ ((store.candidateGrants .emergency scope now).map entryRoom).sum)
    (free : ∀ grantId, store.allocations.find (decisionId,grantId) = none) :
    ∃ result, store.reserveCreditForDecision decisionId scope reserved emergency now =
      .ok result := by
  obtain ⟨⟨middle,drawn⟩,one⟩ := reserveCreditFromGrants_exists covered fun entry _ =>
    free entry.1
  rw [← reserveCreditFromGrants_candidates one] at coveredEmergency
  have freeMiddle : ∀ entry ∈ middle.candidateGrants .emergency scope now,
      middle.allocations.find (decisionId,entry.1) = none := by
    intro entry member
    rw [reserveCreditFromGrants_candidates one] at member
    rw [reserveCreditFromGrants_allocations _ one]
    · exact free entry.1
    · intro grant found
      have same := (mem_candidateGrants.mp member).1
      obtain rfl : grant = entry.2 := Option.some.inj (found.symm.trans same)
      simp [candidateGrants_pool entry member]
  obtain ⟨result,two⟩ := reserveCreditFromGrants_exists coveredEmergency freeMiddle
  exact ⟨_,bind_eq_ok.mpr ⟨_,one,bind_eq_ok.mpr ⟨result,two,rfl⟩⟩⟩

end Draw

end Store

namespace CreditGrant

structure Eligible (service : Service) (scopeKey : String) (now : Nat) (grant : CreditGrant) :
    Prop where
  active : grant.active = true
  unexpired : ∀ instant, grant.expiresAt = some instant → now < instant
  inScope : grant.poolType = .reserved →
    service.normalizeScope grant.scopeKey = service.normalizeScope scopeKey ∨
    service.normalizeScope grant.scopeKey = "default"

end CreditGrant

namespace Service

/-- `get_credit_headrooms`: the scope is normalized first, and what is returned quantized. -/
def getCreditHeadrooms (service : Service) (store : Store) (scopeKey : String) (now : Nat) :
    Except Fault (Int × Int) := do
  let headrooms := store.getCreditHeadrooms (service.normalizeScope scopeKey) now
  let reserved ← comparableAmount (.finite (.ofUnits headrooms.1 4)) 4
  let emergency ← comparableAmount (.finite (.ofUnits headrooms.2 4)) 4
  return (reserved,emergency)

/-- `reserve_credit_for_decision`: both targets are quantized, and the scope is normalized. -/
def reserveCreditForDecision (service : Service) (store : Store) (decisionId : Uuid)
    (scopeKey : String) (reserved emergency : Decimal) (now : Nat) :
    Except Fault (Store × List CreditAllocationEntry) := do
  let reservedTarget ← comparableAmount (.finite reserved) 4
  let emergencyTarget ← comparableAmount (.finite emergency) 4
  store.reserveCreditForDecision decisionId (service.normalizeScope scopeKey) reservedTarget
    emergencyTarget now

theorem normalizeScope_idempotent (service : Service) (scopeKey : String) :
    service.normalizeScope (service.normalizeScope scopeKey) = service.normalizeScope scopeKey := by
  have kept : service.text.lower (strip (service.normalizeScope scopeKey)) =
      service.normalizeScope scopeKey := by
    unfold normalizeScope
    generalize orDefault scopeKey "default" = key
    by_cases empty : service.text.lower (strip key) = ""
    · rw [empty]
      have default : strip "default" = "default" := by decide
      rw [show orDefault "" "default" = "default" from rfl,default,
        service.text.ascii _ (by decide)]
      decide
    · rw [orDefault,if_neg empty,service.text.keepsStripped,service.text.idempotent]
  have present : service.normalizeScope scopeKey ≠ "" := by
    unfold normalizeScope
    generalize service.text.lower (strip (orDefault scopeKey "default")) = key
    by_cases empty : key = "" <;> simp [orDefault,empty]
  conv_lhs => rw [normalizeScope]
  rw [orDefault,orDefault,if_neg present,kept,if_neg present]

end Service

theorem comparableAmount_finite {amount : Decimal} {units : Int} :
    comparableAmount (.finite amount) 4 = .ok units ↔
      (amount.scaled 4).natAbs < 10 ^ 28 ∧ amount.scaled 4 = units := by
  simp only [comparableAmount,DecimalValue.quantize]
  by_cases held : (amount.scaled 4).natAbs < 10 ^ 28
  · rw [if_pos held]
    exact ⟨fun same => ⟨held,Except.ok.inj same⟩,fun same => congrArg _ same.2⟩
  · rw [if_neg held]
    constructor
    · intro refused
      cases refused
    · exact fun small => absurd small.1 held

structure Promised (amount : Decimal) (headroom : Int) : Prop where
  nonneg : 0 ≤ amount.coefficient
  within : amount.inUnits 0 ≤ (Decimal.ofUnits headroom 4).inUnits 0

namespace Promised

variable {amount : Decimal} {headroom : Int}

theorem scaled_nonneg (promised : Promised amount headroom) : 0 ≤ amount.scaled 4 :=
  Decimal.scaled_nonneg promised.nonneg 4

theorem scaled_le (promised : Promised amount headroom) : amount.scaled 4 ≤ headroom := by
  have most := Decimal.scaled_le promised.within 4
  rwa [Decimal.scaled_ofUnits] at most

theorem scaled_exact {units : Int}
    (same : amount.inUnits 0 = (Decimal.ofUnits units 4).inUnits 0) : amount.scaled 4 = units := by
  have most := Decimal.scaled_le same.le 4
  have least := Decimal.scaled_le same.ge 4
  rw [Decimal.scaled_ofUnits] at most least
  omega

end Promised

/-- What a reservation takes from the grants: each amount from its own pool, from eligible
grants only, and in the order of the pool. -/
structure CreditDebited (service : Service) (store next : Store) (scopeKey : String) (now : Nat)
    (reserved emergency : Int) : Prop where
  reserved : store.DebitsPool next .reserved (service.normalizeScope scopeKey) now reserved
  emergency : store.DebitsPool next .emergency (service.normalizeScope scopeKey) now emergency
  eligible : ∀ id grant, store.grants.find id = some grant →
    next.grants.find id ≠ some grant → grant.Eligible service scopeKey now
  absent : ∀ id, store.grants.find id = none → next.grants.find id = none

theorem CreditGrant.usable_eligible {service : Service} {scopeKey : String} {now : Nat}
    {grant : CreditGrant}
    (usable : grant.usable grant.poolType (service.normalizeScope scopeKey) now = true) :
    grant.Eligible service scopeKey now := by
  obtain ⟨active,_,current,fits⟩ := CreditGrant.usable_iff.mp usable
  refine ⟨active,?_,?_⟩
  · intro instant expires
    simpa [CreditGrant.notExpired,expires] using current
  · intro pooled
    rcases fits with other | own | default
    · simp [pooled] at other
    · left
      rw [own,service.normalizeScope_idempotent]
    · right
      have same := service.normalizeScope_idempotent ""
      have normal : service.normalizeScope "" = "default" := by
        simp only [Service.normalizeScope,orDefault,if_true]
        rw [show strip "default" = "default" by decide,service.text.ascii _ (by decide)]
        decide
      rw [default]
      rwa [normal] at same

namespace Service

variable {service : Service} {store : Store} {scopeKey : String} {now : Nat}
  {reserved emergency : Int}

/-- What is returned is what the sums give, in numbers of 28 digits. -/
theorem getCreditHeadrooms_eq
    (headrooms : service.getCreditHeadrooms store scopeKey now = .ok (reserved,emergency)) :
    store.getCreditHeadrooms (service.normalizeScope scopeKey) now = (reserved,emergency) ∧
      reserved < 10 ^ 28 ∧ emergency < 10 ^ 28 := by
  obtain ⟨first,one,after⟩ := bind_eq_ok.mp headrooms
  obtain ⟨second,two,returned⟩ := bind_eq_ok.mp after
  obtain ⟨small,exact_⟩ := comparableAmount_finite.mp one
  obtain ⟨smallEmergency,exactEmergency⟩ := comparableAmount_finite.mp two
  obtain ⟨rfl,rfl⟩ : first = reserved ∧ second = emergency := by
    simpa using Except.ok.inj returned
  rw [Decimal.scaled_ofUnits] at small smallEmergency exact_ exactEmergency
  exact ⟨Prod.ext exact_ exactEmergency,by omega,by omega⟩

theorem reserveCreditForDecision_eq {x y : Decimal} (decisionId : Uuid)
    (promised : Promised x reserved) (promisedEmergency : Promised y emergency)
    (small : reserved < 10 ^ 28) (smallEmergency : emergency < 10 ^ 28) :
    service.reserveCreditForDecision store decisionId scopeKey x y now =
      store.reserveCreditForDecision decisionId (service.normalizeScope scopeKey) (x.scaled 4)
        (y.scaled 4) now := by
  have one : comparableAmount (.finite x) 4 = .ok (x.scaled 4) := by
    refine comparableAmount_finite.mpr ⟨?_,rfl⟩
    have nonneg := promised.scaled_nonneg
    have most := promised.scaled_le
    omega
  have two : comparableAmount (.finite y) 4 = .ok (y.scaled 4) := by
    refine comparableAmount_finite.mpr ⟨?_,rfl⟩
    have nonneg := promisedEmergency.scaled_nonneg
    have most := promisedEmergency.scaled_le
    omega
  unfold reserveCreditForDecision
  rw [one,two]
  rfl

end Service

/-- What the headrooms promise, the reservation at the same rows finds: it is never refused for
want of credit, and what it takes it takes from eligible grants in their order. A decision that
holds no allocation yet gets through. -/
theorem headroom_honoured (service : Service) (store : Store) (decisionId : Uuid)
    (scopeKey : String) (now : Nat) {reserved emergency : Int} {x y : Decimal}
    (headrooms : service.getCreditHeadrooms store scopeKey now = .ok (reserved,emergency))
    (promised : Promised x reserved) (promisedEmergency : Promised y emergency) :
    (∀ pool missing, service.reserveCreditForDecision store decisionId scopeKey x y now ≠
      .error (.insufficientCreditHeadroom pool missing)) ∧
    (∀ next entries, service.reserveCreditForDecision store decisionId scopeKey x y now =
      .ok (next,entries) →
      CreditDebited service store next scopeKey now (x.scaled 4) (y.scaled 4)) ∧
    ((∀ grantId, store.allocations.find (decisionId,grantId) = none) →
      ∃ result, service.reserveCreditForDecision store decisionId scopeKey x y now =
        .ok result) ∧
    (∀ units, x.inUnits 0 = (Decimal.ofUnits units 4).inUnits 0 → x.scaled 4 = units) ∧
    ∀ units, y.inUnits 0 = (Decimal.ofUnits units 4).inUnits 0 → y.scaled 4 = units := by
  obtain ⟨sums,small,smallEmergency⟩ := Service.getCreditHeadrooms_eq headrooms
  have rooms := store.getCreditHeadrooms_le (service.normalizeScope scopeKey) now
  rw [sums] at rooms
  have covered := promised.scaled_le.trans rooms.1
  have coveredEmergency := promisedEmergency.scaled_le.trans rooms.2
  rw [Service.reserveCreditForDecision_eq decisionId promised promisedEmergency small
    smallEmergency]
  refine ⟨?_,?_,?_,fun _ => Promised.scaled_exact,fun _ => Promised.scaled_exact⟩
  · exact Store.reserveCreditForDecision_covered covered coveredEmergency
  · intro next entries drawn
    obtain ⟨debits,debitsEmergency,absent⟩ := Store.reserveCreditForDecision_debits
      promised.scaled_nonneg promisedEmergency.scaled_nonneg drawn
    refine ⟨debits,debitsEmergency,?_,absent⟩
    intro id grant found changed
    apply CreditGrant.usable_eligible
    cases pooled : grant.poolType with
    | reserved => exact ((debits.rows id grant found pooled).resolve_left changed).1
    | emergency => exact ((debitsEmergency.rows id grant found pooled).resolve_left changed).1
  · exact Store.reserveCreditForDecision_exists covered coveredEmergency

namespace Sample

def creditGrant (pool : CreditPoolType) (scopeKey : String) (dollars : Int) (expiresAt : Option Nat) :
    CreditGrant where
  poolType := pool
  scopeKey := scopeKey
  totalAmountUsd := dollars * 10000
  remainingAmountUsd := dollars * 10000
  expiresAt := expiresAt
  reason := none
  active := true
  createdByUserId := none
  createdAt := 1

def funded : Store :=
  { store with
    grants := ⟨[(1,creditGrant .reserved "default" 50 (some 90)),
      (2,creditGrant .reserved "alpha" 20 none),(3,creditGrant .reserved "alpha" 70 (some 5)),
      (4,creditGrant .emergency "beta" 10 none)],by decide⟩ }

end Sample

theorem headroom_honoured_alpha :
    ∃ next entries, Sample.service.reserveCreditForDecision Sample.funded 9 " Alpha" ⟨305,-1⟩
      ⟨4,0⟩ 7 = .ok (next,entries) ∧
      CreditDebited Sample.service Sample.funded next " Alpha" 7 305000 40000 := by
  obtain ⟨_,debits,free,_⟩ := headroom_honoured Sample.service Sample.funded 9 " Alpha" 7
    (show Sample.service.getCreditHeadrooms Sample.funded " Alpha" 7 =
      .ok (700000,100000) by decide)
    (show Promised ⟨305,-1⟩ 700000 from
      ⟨by decide,by norm_num [Decimal.inUnits,Decimal.ofUnits]⟩)
    (show Promised ⟨4,0⟩ 100000 from ⟨by decide,by norm_num [Decimal.inUnits,Decimal.ofUnits]⟩)
  obtain ⟨⟨next,entries⟩,drawn⟩ := free fun _ => rfl
  exact ⟨next,entries,drawn,debits next entries drawn⟩

end Valdrics.Enforcement

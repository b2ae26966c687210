import Mathlib.Data.List.Sort
import Mathlib.Tactic.Linarith
import Valdrics.EnforcementService

/-! Credit grants and the allocations drawn on them: creation, the headroom a gate
reads, the reservation of a decision over several grants, and its settlement. -/
namespace Valdrics.Enforcement

open PythonText

/-- A quantized amount that a comparison follows: there a `NaN` raises too. -/
def comparableAmount (value : DecimalValue) (places : Nat) : Except Fault Int :=
  match value.quantize places with
  | some (some units) => .ok units
  | _ => .error .invalidOperation

structure CreditGrantCall where
  grantId : Uuid
  actorId : Uuid
  poolType : CreditPoolType
  scopeKey : String
  totalAmountUsd : DecimalValue
  expiresAt : Option Nat
  reason : Option String
  now : Nat
  createdAt : Nat

namespace CreditGrant

def notExpired (grant : CreditGrant) (now : Nat) : Bool :=
  match grant.expiresAt with
  | none => true
  | some expiresAt => now < expiresAt

/-- The `WHERE` of both pools; only reserved credit is bound to a scope. -/
def usable (pool : CreditPoolType) (scope : String) (now : Nat) (grant : CreditGrant) : Bool :=
  grant.active && grant.poolType = pool && grant.notExpired now &&
    (pool = .emergency || grant.scopeKey = scope || grant.scopeKey = "default")

def draw (grant : CreditGrant) (amount : Int) : CreditGrant :=
  { grant with
    remainingAmountUsd := grant.remainingAmountUsd - amount
    active := if grant.remainingAmountUsd - amount ≤ 0 then false else grant.active }

/-- A release never lifts a grant above its total, and reopens it while it lasts. -/
def giveBack (grant : CreditGrant) (release : Int) (now : Nat) : CreditGrant :=
  let remaining := if 0 < release then min (grant.remainingAmountUsd + release)
    grant.totalAmountUsd else grant.remainingAmountUsd
  { grant with
    remainingAmountUsd := remaining
    active := 0 < remaining && grant.notExpired now }

end CreditGrant

namespace Service

def createCreditGrant (service : Service) (store : Store) (call : CreditGrantCall) :
    Committed Uuid :=
  transaction store do
    let amount ← comparableAmount call.totalAmountUsd 4
    refuse (amount ≤ 0) .totalAmountNotPositive
    refuse (∃ expiresAt ∈ call.expiresAt, expiresAt ≤ call.now) .expiresAtNotInFuture
    let grants ← require (store.grants.insert call.grantId
      { poolType := call.poolType
        scopeKey := service.normalizeScope call.scopeKey
        totalAmountUsd := amount
        remainingAmountUsd := amount
        expiresAt := call.expiresAt
        reason := call.reason.bind fun reason => if reason = "" then none else some (strip reason)
        active := true
        createdByUserId := some call.actorId
        createdAt := call.createdAt }) .integrityError
    return ({ store with grants },call.grantId)

end Service

namespace Store

def usableRemaining (store : Store) (pool : CreditPoolType) (scope : String) (now : Nat) : Int :=
  store.grants.total fun _ grant =>
    if grant.usable pool scope now then grant.remainingAmountUsd else 0

def activeReservedCredit (store : Store) : Int :=
  store.decisions.total fun _ decision =>
    if decision.reservationActive then decision.reservedCreditUsd else 0

def mappedActiveCredit (store : Store) : Int :=
  store.allocations.total fun _ allocation =>
    if allocation.active then allocation.reservedAmountUsd else 0

/-- The four sums a headroom is computed from, in the order of their queries: what the
usable grants of each pool have left, and what active decisions and allocations hold. -/
def headroomQueries (scope : String) (now : Nat) : List (Store → Int) :=
  [fun store => store.usableRemaining .reserved scope now,
    fun store => store.usableRemaining .emergency scope now,
    activeReservedCredit,mappedActiveCredit]

/-- Reserved credit without allocation rows still lowers what may be promised. -/
def creditHeadrooms (reservedRemaining emergencyRemaining decisionsReserved mappedActive : Int) :
    Int × Int :=
  let uncovered := max 0 (decisionsReserved - mappedActive)
  let reserved := max 0 reservedRemaining
  let emergency := max 0 emergencyRemaining
  if 0 < uncovered then
    let reduction := min uncovered reserved
    let remainingUncovered := uncovered - reduction
    (max 0 (reserved - reduction),
      if 0 < remainingUncovered then max 0 (emergency - remainingUncovered) else emergency)
  else (reserved,emergency)

def getCreditHeadrooms (store : Store) (scope : String) (now : Nat) : Int × Int :=
  creditHeadrooms (store.usableRemaining .reserved scope now)
    (store.usableRemaining .emergency scope now) store.activeReservedCredit
    store.mappedActiveCredit

/-- The `ORDER BY` columns: own scope first for reserved credit, then the earliest
expiry with no expiry last, then the oldest grant. -/
def grantPriority (pool : CreditPoolType) (scope : String) (entry : Uuid × CreditGrant) :
    List Nat :=
  let grant := entry.2
  let byAge := [if grant.expiresAt = none then 1 else 0,grant.expiresAt.getD 0,
    grant.createdAt,entry.1.toNat]
  match pool with
  | .reserved =>
    (if grant.scopeKey = scope then 0 else if grant.scopeKey = "default" then 1 else 2) :: byAge
  | .emergency => byAge

def candidateGrants (store : Store) (pool : CreditPoolType) (scope : String) (now : Nat) :
    List (Uuid × CreditGrant) :=
  (store.grants.rows.filter fun entry => entry.2.usable pool scope now).insertionSort
    fun a b => grantPriority pool scope a ≤ grantPriority pool scope b

def reserveOn (store : Store) (decisionId grantId : Uuid) (pool : CreditPoolType) (amount : Int)
    (positive : 0 < amount) : Except Fault Store := do
  let allocations ← require (store.allocations.insert (decisionId,grantId)
    { creditPoolType := pool
      reservedAmountUsd := amount
      reservedPositive := positive
      consumedNonneg := le_rfl
      releasedNonneg := le_rfl
      settledWithinReserved := positive.le }) .integrityError
  return { store with
    grants := store.grants.update grantId fun grant => grant.draw amount
    allocations := allocations }

def reserveLoop (decisionId : Uuid) (pool : CreditPoolType) : List (Uuid × CreditGrant) → Int →
    Store → Except Fault (Store × List CreditAllocationEntry × Int)
  | [], remaining, store => .ok (store,[],remaining)
  | (grantId,grant) :: rest, remaining, store =>
    if done : remaining ≤ 0 then .ok (store,[],remaining)
    else if spent : grant.remainingAmountUsd ≤ 0 then
      reserveLoop decisionId pool rest remaining store
    else do
      let amount := min remaining grant.remainingAmountUsd
      let next ← store.reserveOn decisionId grantId pool amount
        (lt_min (Int.not_le.mp done) (Int.not_le.mp spent))
      let (last,entries,left) ← reserveLoop decisionId pool rest (remaining - amount) next
      return (last,⟨grantId,pool,grant.scopeKey,amount⟩ :: entries,left)

def reserveFromRows (store : Store) (decisionId : Uuid) (pool : CreditPoolType)
    (rows : List (Uuid × CreditGrant)) (target : Int) :
    Except Fault (Store × List CreditAllocationEntry) :=
  if target ≤ 0 then .ok (store,[])
  else do
    let (next,entries,left) ← reserveLoop decisionId pool rows target store
    refuse (0 < left) (.insufficientCreditHeadroom pool left)
    return (next,entries)

def reserveCreditFromGrants (store : Store) (decisionId : Uuid) (scope : String)
    (pool : CreditPoolType) (target : Int) (now : Nat) :
    Except Fault (Store × List CreditAllocationEntry) :=
  store.reserveFromRows decisionId pool (store.candidateGrants pool scope now) target

def reserveCreditForDecision (store : Store) (decisionId : Uuid) (scope : String)
    (reservedCredit emergencyCredit : Int) (now : Nat) :
    Except Fault (Store × List CreditAllocationEntry) := do
  let (afterReserved,reserved) ←
    store.reserveCreditFromGrants decisionId scope .reserved reservedCredit now
  let (afterEmergency,emergency) ←
    afterReserved.reserveCreditFromGrants decisionId scope .emergency emergencyCredit now
  return (afterEmergency,reserved ++ emergency)

end Store

namespace CreditReservationAllocation

/-- The row after settlement, unless a `CHECK` constraint refuses it. -/
def settle (allocation : CreditReservationAllocation) (consume release : Int) (now : Nat) :
    Option CreditReservationAllocation :=
  if within : 0 ≤ allocation.consumedAmountUsd + consume ∧
      0 ≤ allocation.releasedAmountUsd + release ∧
      allocation.consumedAmountUsd + consume + (allocation.releasedAmountUsd + release) ≤
        allocation.reservedAmountUsd then
    some
      { allocation with
        consumedAmountUsd := allocation.consumedAmountUsd + consume
        releasedAmountUsd := allocation.releasedAmountUsd + release
        active := false
        settledAt := some now
        consumedNonneg := within.1
        releasedNonneg := within.2.1
        settledWithinReserved := within.2.2 }
  else none

end CreditReservationAllocation

namespace Store

def settleOn (store : Store) (key : Uuid × Uuid) (settled : CreditReservationAllocation)
    (release : Int) (now : Nat) : Store :=
  { store with
    grants := store.grants.update key.2 fun grant => grant.giveBack release now
    allocations := store.allocations.update key fun _ => settled }

def settleLoop (now : Nat) : List ((Uuid × Uuid) × CreditReservationAllocation) → Int → Int →
    Store → Except Fault (Store × List CreditSettlementEntry × Int × Int)
  | [], remainingConsume, remainingRelease, store =>
    .ok (store,[],remainingConsume,remainingRelease)
  | (key,allocation) :: rest, remainingConsume, remainingRelease, store => do
    let grant ← require (store.grants.find key.2) .missingCreditGrantRow
    let consume := min allocation.reservedAmountUsd remainingConsume
    let release := min (allocation.reservedAmountUsd - consume) remainingRelease
    let settled ← require (allocation.settle consume release now) .integrityError
    let (last,entries,left) ←
      settleLoop now rest (remainingConsume - consume) (remainingRelease - release)
        (store.settleOn key settled release now)
    return (last,
      { creditGrantId := key.2
        creditPoolType := allocation.creditPoolType
        scopeKey := grant.scopeKey
        reservedAmountUsd := allocation.reservedAmountUsd
        consumedAmountUsd := consume
        releasedAmountUsd := release
        grantRemainingAmountUsdAfter := (grant.giveBack release now).remainingAmountUsd }
        :: entries,left)

def activeAllocations (store : Store) (decisionId : Uuid) :
    List ((Uuid × Uuid) × CreditReservationAllocation) :=
  store.allocations.rows.filter fun entry => entry.1.1 = decisionId && entry.2.active

/-- Consumes what was used of a decision's reserved credit and releases the rest. Rows
of one reservation are inserted in the order of their `created_at`. -/
def settleCreditReservationsForDecision (store : Store) (decisionId : Uuid)
    (reservedCredit consumedCredit : Int) (now : Nat) :
    Except Fault (Store × List CreditSettlementEntry) :=
  if reservedCredit ≤ 0 then .ok (store,[])
  else do
    let consume := min (max 0 consumedCredit) reservedCredit
    let allocations := store.activeAllocations decisionId
    refuse (allocations.isEmpty = true) .missingAllocationRows
    let (next,entries,remainingConsume,remainingRelease) ←
      settleLoop now allocations consume (reservedCredit - consume) store
    refuse (0 < remainingConsume ∨ 0 < remainingRelease)
      (.settlementDrift remainingConsume remainingRelease)
    return (next,entries)

structure SameButCredit (store next : Store) : Prop where
  tenantId : next.tenantId = store.tenantId
  tenantTier : next.tenantTier = store.tenantTier
  policy : next.policy = store.policy
  budgets : next.budgets = store.budgets
  decisions : next.decisions = store.decisions
  approvals : next.approvals = store.approvals
  ledger : next.ledger = store.ledger

namespace SameButCredit

theorem refl (store : Store) : SameButCredit store store := ⟨rfl,rfl,rfl,rfl,rfl,rfl,rfl⟩

theorem trans {first second third : Store} (left : SameButCredit first second)
    (right : SameButCredit second third) : SameButCredit first third :=
  ⟨right.tenantId.trans left.tenantId,right.tenantTier.trans left.tenantTier,
    right.policy.trans left.policy,right.budgets.trans left.budgets,
    right.decisions.trans left.decisions,right.approvals.trans left.approvals,
    right.ledger.trans left.ledger⟩

end SameButCredit

theorem reserveOn_eq_ok {store next : Store} {decisionId grantId : Uuid} {pool : CreditPoolType}
    {amount : Int} {positive : 0 < amount}
    (reserved : store.reserveOn decisionId grantId pool amount positive = .ok next) :
    ∃ allocation allocations,
      store.allocations.insert (decisionId,grantId) allocation = some allocations ∧
      allocation.reservedAmountUsd = amount ∧ allocation.consumedAmountUsd = 0 ∧
      allocation.releasedAmountUsd = 0 ∧ allocation.active = true ∧
      next = { store with
        grants := store.grants.update grantId fun grant => grant.draw amount
        allocations := allocations } := by
  obtain ⟨allocations,inserted,result⟩ := bind_eq_ok.mp reserved
  have inserted := require_eq_ok.mp inserted
  exact ⟨_,allocations,inserted,rfl,rfl,rfl,rfl,(Except.ok.inj result).symm⟩

theorem reserveOn_frame {store next : Store} {decisionId grantId : Uuid} {pool : CreditPoolType}
    {amount : Int} {positive : 0 < amount}
    (reserved : store.reserveOn decisionId grantId pool amount positive = .ok next) :
    SameButCredit store next := by
  obtain ⟨_,_,_,_,_,_,_,rfl⟩ := reserveOn_eq_ok reserved
  exact ⟨rfl,rfl,rfl,rfl,rfl,rfl,rfl⟩

theorem reserveLoop_cons {decisionId grantId : Uuid} {pool : CreditPoolType}
    {grant : CreditGrant} {rest : List (Uuid × CreditGrant)} {remaining left : Int}
    {store last : Store} {entries : List CreditAllocationEntry}
    (looped : reserveLoop decisionId pool ((grantId,grant) :: rest) remaining store =
      .ok (last,entries,left)) :
    (remaining ≤ 0 ∧ last = store ∧ entries = [] ∧ left = remaining) ∨
    (0 < remaining ∧ grant.remainingAmountUsd ≤ 0 ∧
      reserveLoop decisionId pool rest remaining store = .ok (last,entries,left)) ∨
    (0 < remaining ∧ 0 < grant.remainingAmountUsd ∧ ∃ positive next later,
      store.reserveOn decisionId grantId pool (min remaining grant.remainingAmountUsd) positive =
        .ok next ∧
      reserveLoop decisionId pool rest (remaining - min remaining grant.remainingAmountUsd) next =
        .ok (last,later,left) ∧
      entries = ⟨grantId,pool,grant.scopeKey,min remaining grant.remainingAmountUsd⟩ :: later) := by
  unfold reserveLoop at looped
  split at looped
  · next done =>
    obtain ⟨rfl,rfl,rfl⟩ : store = last ∧ [] = entries ∧ remaining = left := by
      simpa using looped
    exact Or.inl ⟨done,rfl,rfl,rfl⟩
  · next more =>
    split at looped
    · next spent => exact Or.inr (Or.inl ⟨by omega,spent,looped⟩)
    · next some_ =>
      obtain ⟨next,drawn,after⟩ := bind_eq_ok.mp looped
      obtain ⟨⟨last',later,left'⟩,continued,result⟩ := bind_eq_ok.mp after
      obtain ⟨rfl,rfl,rfl⟩ : last' = last ∧
          (⟨grantId,pool,grant.scopeKey,min remaining grant.remainingAmountUsd⟩ :: later :
            List CreditAllocationEntry) = entries ∧ left' = left := by
        simpa using Except.ok.inj result
      exact Or.inr (Or.inr ⟨by omega,by omega,_,next,later,drawn,continued,rfl⟩)

theorem reserveLoop_frame {decisionId : Uuid} {pool : CreditPoolType}
    {grants : List (Uuid × CreditGrant)} {remaining left : Int} {store last : Store}
    {entries : List CreditAllocationEntry}
    (looped : reserveLoop decisionId pool grants remaining store = .ok (last,entries,left)) :
    SameButCredit store last := by
  induction grants generalizing remaining store entries with
  | nil =>
    obtain ⟨rfl,_⟩ : store = last ∧ _ := by simpa [reserveLoop] using looped
    exact .refl store
  | cons entry rest ih =>
    rcases reserveLoop_cons looped with ⟨_,rfl,_⟩ | ⟨_,_,skipped⟩ | ⟨_,_,_,_,_,drawn,later,_⟩
    · exact .refl last
    · exact ih skipped
    · exact (reserveOn_frame drawn).trans (ih later)

theorem reserveFromRows_eq_ok {store next : Store} {decisionId : Uuid} {pool : CreditPoolType}
    {rows : List (Uuid × CreditGrant)} {target : Int} {entries : List CreditAllocationEntry}
    (reserved : store.reserveFromRows decisionId pool rows target = .ok (next,entries)) :
    (target ≤ 0 ∧ next = store ∧ entries = []) ∨
    (0 < target ∧ ∃ left, left ≤ 0 ∧
      reserveLoop decisionId pool rows target store = .ok (next,entries,left)) := by
  unfold reserveFromRows at reserved
  split at reserved
  · next nothing =>
    obtain ⟨rfl,rfl⟩ : store = next ∧ [] = entries := by simpa using reserved
    exact Or.inl ⟨nothing,rfl,rfl⟩
  · next positive =>
    obtain ⟨⟨last,entries',left⟩,looped,after⟩ := bind_eq_ok.mp reserved
    obtain ⟨_,covered,result⟩ := bind_eq_ok.mp after
    obtain ⟨rfl,rfl⟩ : last = next ∧ entries' = entries := by simpa using Except.ok.inj result
    have covered := refuse_eq_ok.mp covered
    exact Or.inr ⟨by omega,left,by omega,looped⟩

theorem reserveFromRows_frame {store next : Store} {decisionId : Uuid} {pool : CreditPoolType}
    {rows : List (Uuid × CreditGrant)} {target : Int} {entries : List CreditAllocationEntry}
    (reserved : store.reserveFromRows decisionId pool rows target = .ok (next,entries)) :
    SameButCredit store next := by
  rcases reserveFromRows_eq_ok reserved with ⟨_,rfl,_⟩ | ⟨_,_,_,looped⟩
  · exact .refl next
  · exact reserveLoop_frame looped

theorem reserveCreditForDecision_eq_ok {store next : Store} {decisionId : Uuid} {scope : String}
    {reservedCredit emergencyCredit : Int} {now : Nat} {entries : List CreditAllocationEntry}
    (reserved : store.reserveCreditForDecision decisionId scope reservedCredit emergencyCredit
      now = .ok (next,entries)) :
    ∃ middle first second,
      store.reserveCreditFromGrants decisionId scope .reserved reservedCredit now =
        .ok (middle,first) ∧
      middle.reserveCreditFromGrants decisionId scope .emergency emergencyCredit now =
        .ok (next,second) ∧ entries = first ++ second := by
  obtain ⟨⟨middle,first⟩,before,after⟩ := bind_eq_ok.mp reserved
  obtain ⟨⟨last,second⟩,later,result⟩ := bind_eq_ok.mp after
  obtain ⟨rfl,rfl⟩ : last = next ∧ first ++ second = entries := by
    simpa using Except.ok.inj result
  exact ⟨middle,first,second,before,later,rfl⟩

theorem reserveCreditForDecision_frame {store next : Store} {decisionId : Uuid} {scope : String}
    {reservedCredit emergencyCredit : Int} {now : Nat} {entries : List CreditAllocationEntry}
    (reserved : store.reserveCreditForDecision decisionId scope reservedCredit emergencyCredit
      now = .ok (next,entries)) : SameButCredit store next := by
  obtain ⟨_,_,_,first,second,_⟩ := reserveCreditForDecision_eq_ok reserved
  exact (reserveFromRows_frame first).trans (reserveFromRows_frame second)

theorem settleLoop_cons {now : Nat} {key : Uuid × Uuid}
    {allocation : CreditReservationAllocation}
    {rest : List ((Uuid × Uuid) × CreditReservationAllocation)}
    {remainingConsume remainingRelease : Int} {store : Store}
    {result : Store × List CreditSettlementEntry × Int × Int}
    (looped : settleLoop now ((key,allocation) :: rest) remainingConsume remainingRelease store =
      .ok result) :
    ∃ grant settled later consume release,
      store.grants.find key.2 = some grant ∧
      consume = min allocation.reservedAmountUsd remainingConsume ∧
      release = min (allocation.reservedAmountUsd - consume) remainingRelease ∧
      allocation.settle consume release now = some settled ∧
      settleLoop now rest (remainingConsume - consume) (remainingRelease - release)
        (store.settleOn key settled release now) = .ok (result.1,later,result.2.2) := by
  obtain ⟨grant,found,afterGrant⟩ := bind_eq_ok.mp looped
  obtain ⟨settled,checked,afterSettle⟩ := bind_eq_ok.mp afterGrant
  obtain ⟨⟨last,later,left⟩,continued,returned⟩ := bind_eq_ok.mp afterSettle
  obtain rfl := Except.ok.inj returned
  exact ⟨grant,settled,later,_,_,require_eq_ok.mp found,rfl,rfl,require_eq_ok.mp checked,
    continued⟩

theorem settleLoop_frame {now : Nat}
    {allocations : List ((Uuid × Uuid) × CreditReservationAllocation)}
    {remainingConsume remainingRelease : Int} {store : Store}
    {result : Store × List CreditSettlementEntry × Int × Int}
    (looped : settleLoop now allocations remainingConsume remainingRelease store = .ok result) :
    SameButCredit store result.1 := by
  induction allocations generalizing remainingConsume remainingRelease store result with
  | nil =>
    obtain rfl := Except.ok.inj looped
    exact .refl store
  | cons entry rest ih =>
    obtain ⟨grant,settled,later,_,release,_,_,_,_,continued⟩ := settleLoop_cons looped
    have step : SameButCredit store (store.settleOn entry.1 settled release now) :=
      ⟨rfl,rfl,rfl,rfl,rfl,rfl,rfl⟩
    have after := ih continued
    exact step.trans after

theorem settleCreditReservationsForDecision_frame {store next : Store} {decisionId : Uuid}
    {reservedCredit consumedCredit : Int} {now : Nat} {entries : List CreditSettlementEntry}
    (settled : store.settleCreditReservationsForDecision decisionId reservedCredit consumedCredit
      now = .ok (next,entries)) : SameButCredit store next := by
  unfold settleCreditReservationsForDecision at settled
  split at settled
  · obtain ⟨rfl,_⟩ : store = next ∧ _ := by simpa using settled
    exact .refl store
  · obtain ⟨_,_,after⟩ := bind_eq_ok.mp settled
    obtain ⟨⟨last,entries',consume,release⟩,looped,checked⟩ := bind_eq_ok.mp after
    obtain ⟨_,_,result⟩ := bind_eq_ok.mp checked
    obtain ⟨rfl,_⟩ : last = next ∧ _ := by simpa using Except.ok.inj result
    exact settleLoop_frame looped

end Store

end Valdrics.Enforcement

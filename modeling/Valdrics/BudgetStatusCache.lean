import Valdrics.LlmQuota
import Valdrics.MemoryCache
import Valdrics.Runs

/-! The budget check that precedes a request. A computed limit is marked in the cache for
some minutes, and a marked tenant is answered without its row. -/
namespace Valdrics.Llm

open Cache (Store)

inductive BudgetStatus where
  | ok
  | softLimit
  | hardLimit
  deriving DecidableEq

structure LlmBudgetRow extends LlmBudget where
  alertThresholdPercent : Int := 80
  hardLimit : Bool := false

/-- `coerce_threshold_percent` of a whole number. -/
def coerceThresholdPercent (value : Int) : Int :=
  if value < 0 then 0 else if 100 < value then 100 else value

namespace LlmBudgetRow

variable (row : LlmBudgetRow)

def currentUsage : Int := row.monthlySpendUsd + row.pendingReservationsUsd

def blocks : Bool := row.hardLimit && row.monthlyLimitUsd ≤ row.currentUsage

/-- Usage times 100 and limit times percent, both in units of 1e-10 dollars. -/
def alerts : Bool :=
  row.monthlyLimitUsd * coerceThresholdPercent row.alertThresholdPercent ≤ row.currentUsage * 100

def exceededError : BudgetExceeded where
  message := "LLM budget of $" ++
    Decimal.text (.ofUnits ((Decimal.ofUnits row.monthlyLimitUsd 8).scaled 2) 2) ++ " exceeded."
  details := [("usage",.float (.ofUnits row.currentUsage 8)),
    ("limit",.float (.ofUnits row.monthlyLimitUsd 8))]

end LlmBudgetRow

def blockedKey (tenant : String) : String := "budget_blocked:" ++ tenant
def softKey (tenant : String) : String := "budget_soft:" ++ tenant

abbrev BudgetOutcome := Except BudgetExceeded BudgetStatus

/-- `check_budget_state` from its read of the row on. -/
def computeBudgetState (cache : Option Store) (tenant : String) (row : Option LlmBudgetRow)
    (now : Nat) : BudgetOutcome × Option Store :=
  match row with
  | none => (.ok .ok,cache)
  | some row =>
    if row.monthlyLimitUsd ≤ row.currentUsage then
      if row.hardLimit then
        (.error row.exceededError,
          cache.map fun store => (store.set (blockedKey tenant) (.text "1") (some 600) false now).2)
      else (.ok .softLimit,cache)
    else if row.alerts then
      (.ok .softLimit,
        cache.map fun store => (store.set (softKey tenant) (.text "1") (some 300) false now).2)
    else (.ok .ok,cache)

def checkBudgetState (cache : Option Store) (tenant : String) (row : Option LlmBudgetRow)
    (now : Nat) : BudgetOutcome × Option Store :=
  match cache with
  | none => computeBudgetState none tenant row now
  | some store =>
    let (blocked,store) := store.get (blockedKey tenant) now
    if blocked.any (·.truthy) then (.ok .hardLimit,some store)
    else
      let (soft,store) := store.get (softKey tenant) now
      if soft.any (·.truthy) then (.ok .softLimit,some store)
      else computeBudgetState (some store) tenant row now

/-- `enforce_hard_limit_for_tenant` up to its query: whether it goes on to execute the
tenant's requests. -/
def enforceHardLimitForTenant (outcome : BudgetOutcome) : Except BudgetExceeded Bool :=
  outcome.map (· = .hardLimit)

structure CheckState where
  cache : Option Store
  now : Nat

def checkAfter (tenant : String) (row : Option LlmBudgetRow) (s : CheckState) (wait : Nat) :
    CheckState × BudgetOutcome :=
  let (outcome,cache) := checkBudgetState s.cache tenant row (s.now + wait)
  (⟨cache,s.now + wait⟩,outcome)

def checkOutcomes (tenant : String) (row : Option LlmBudgetRow) (s : CheckState)
    (waits : List Nat) : List BudgetOutcome :=
  outputs (checkAfter tenant row) (fun _ => true) s waits

variable {tenant : String} {row : Option LlmBudgetRow} {store : Store} {now : Nat}

theorem blockedKey_ne_softKey : blockedKey tenant ≠ softKey tenant := by
  intro same
  have texts := congrArg String.toList same
  simp [blockedKey,softKey] at texts

theorem computeBudgetState_outcome (cache : Option Store) :
    (computeBudgetState cache tenant row now).1 = (computeBudgetState none tenant row 0).1 := by
  unfold computeBudgetState
  cases row with
  | none => rfl
  | some row =>
    dsimp only
    split_ifs <;> rfl

theorem checkOutcomes_uncached (now : Nat) (waits : List Nat) :
    checkOutcomes tenant row ⟨none,now⟩ waits =
      List.replicate waits.length (computeBudgetState none tenant row 0).1 := by
  induction waits generalizing now with
  | nil => rfl
  | cons wait waits ih =>
    have unmarked : (computeBudgetState none tenant row (now + wait)).2 = none := by
      unfold computeBudgetState
      cases row with
      | none => rfl
      | some row =>
        dsimp only
        split_ifs <;> rfl
    have rest := ih (now + wait)
    simp only [checkOutcomes] at rest
    simp [checkOutcomes,outputs,checkAfter,checkBudgetState,unmarked,rest,
      computeBudgetState_outcome,List.replicate_succ]

/-- Without a mark the cached call computes, from a store with both keys as it reads them. -/
theorem checkBudgetState_unmarked (blocked : store.read (blockedKey tenant) now = none)
    (soft : store.read (softKey tenant) now = none) :
    checkBudgetState (some store) tenant row now = computeBudgetState (some
      ((store.purgeIfExpired (blockedKey tenant) now).purgeIfExpired (softKey tenant) now))
      tenant row now := by
  simp [checkBudgetState,Store.get_eq,blocked,soft,
    Store.read_purgeIfExpired_other blockedKey_ne_softKey.symm]

structure Blocked (tenant : String) (store : Store) (now : Nat) : Prop where
  blocked : store (blockedKey tenant) = some ⟨.text "1",some (Cache.secondsAfter now 600)⟩
  soft : store (softKey tenant) = none

section Blocking

variable {budget : LlmBudgetRow}

theorem checkBudgetState_raises (blocks : budget.blocks = true)
    (blocked : store.read (blockedKey tenant) now = none)
    (soft : store.read (softKey tenant) now = none) :
    ∃ next, checkBudgetState (some store) tenant (some budget) now =
      (.error budget.exceededError,some next) ∧ Blocked tenant next now := by
  obtain ⟨hard,reached⟩ : budget.hardLimit = true ∧
      budget.monthlyLimitUsd ≤ budget.currentUsage := by
    simpa [LlmBudgetRow.blocks] using blocks
  rw [checkBudgetState_unmarked blocked soft]
  refine ⟨_,by simp only [computeBudgetState,reached,hard,if_true,Option.map_some]; rfl,?_,?_⟩
  · simp [Store.set_plain]
  · rw [Store.set_plain,Function.update_of_ne blockedKey_ne_softKey.symm,
      Store.purgeIfExpired_self,Store.read_purgeIfExpired_other blockedKey_ne_softKey.symm,soft]

theorem Blocked.early (marked : Blocked tenant store now) (row : Option LlmBudgetRow) {wait : Nat}
    (early : wait < Cache.micros 600) :
    (checkBudgetState (some store) tenant row (now + wait)).1 = .ok .hardLimit := by
  have fresh : ¬Cache.micros 600 ≤ wait := Nat.not_le.mpr early
  simp [checkBudgetState,Store.get_eq,Store.read_at marked.blocked,Cache.Record.expired_after,fresh,
    Cache.CacheValue.truthy]

theorem Blocked.late (marked : Blocked tenant store now) (blocks : budget.blocks = true)
    {wait : Nat} (late : Cache.micros 600 ≤ wait) :
    ∃ next, checkBudgetState (some store) tenant (some budget) (now + wait) =
      (.error budget.exceededError,some next) ∧ Blocked tenant next (now + wait) := by
  apply checkBudgetState_raises blocks
  · simp [Store.read_at marked.blocked,Cache.Record.expired_after,late]
  · exact Store.read_none marked.soft

theorem Blocked.outcomes_iff (blocks : budget.blocks = true) (waits : List Nat)
    (marked : Blocked tenant store now) :
    checkOutcomes tenant (some budget) ⟨some store,now⟩ waits =
        List.replicate waits.length (.error budget.exceededError) ↔
      ∀ wait ∈ waits, Cache.micros 600 ≤ wait := by
  induction waits generalizing store now with
  | nil => simp [checkOutcomes,outputs]
  | cons wait waits ih =>
    by_cases late : Cache.micros 600 ≤ wait
    · obtain ⟨next,call,again⟩ := marked.late blocks late
      have rest := ih again
      simp only [checkOutcomes] at rest
      simp [checkOutcomes,outputs,checkAfter,call,rest,late,List.replicate_succ]
    · have call := marked.early (some budget) (Nat.lt_of_not_le late)
      simp [checkOutcomes,outputs,checkAfter,call,late,List.replicate_succ]

end Blocking

structure Unblocked (tenant : String) (row : Option LlmBudgetRow) (store : Store) : Prop where
  blocked : store (blockedKey tenant) = none
  soft : store (softKey tenant) ≠ none → (computeBudgetState none tenant row 0).1 = .ok .softLimit

theorem Unblocked.purged (valid : Unblocked tenant row store) (now : Nat) :
    Unblocked tenant row
      ((store.purgeIfExpired (blockedKey tenant) now).purgeIfExpired (softKey tenant) now) := by
  constructor
  · rw [Store.purgeIfExpired_other blockedKey_ne_softKey,Store.purgeIfExpired_self,
      Store.read_none valid.blocked]
  · intro marked
    apply valid.soft
    intro absent
    rw [Store.purgeIfExpired_self,Store.read_purgeIfExpired_other blockedKey_ne_softKey.symm,
      Store.read_none absent] at marked
    contradiction

theorem Unblocked.computed (unblocked : ∀ budget, row = some budget → budget.blocks = false)
    (valid : Unblocked tenant row store) (now : Nat) :
    ∃ next, (computeBudgetState (some store) tenant row now).2 = some next ∧
      Unblocked tenant row next := by
  cases row with
  | none => exact ⟨store,rfl,valid⟩
  | some budget =>
    have open' := unblocked budget rfl
    simp only [LlmBudgetRow.blocks,Bool.and_eq_false_iff,decide_eq_false_iff_not] at open'
    by_cases reached : budget.monthlyLimitUsd ≤ budget.currentUsage
    · have lenient : budget.hardLimit = false := by
        rcases open' with lenient | below
        · exact lenient
        · exact absurd reached below
      exact ⟨store,by simp [computeBudgetState,reached,lenient],valid⟩
    · by_cases alerts : budget.alerts = true
      · refine ⟨_,by simp only [computeBudgetState,reached,alerts,if_false,if_true,
          Option.map_some]; rfl,?_,?_⟩
        · rw [Store.set_plain,Function.update_of_ne blockedKey_ne_softKey]
          exact valid.blocked
        · intro _
          simp [computeBudgetState,reached,alerts]
      · exact ⟨store,by simp [computeBudgetState,reached,alerts],valid⟩

theorem Unblocked.next (unblocked : ∀ budget, row = some budget → budget.blocks = false)
    (valid : Unblocked tenant row store) (now : Nat) :
    ∃ next, checkBudgetState (some store) tenant row now =
      ((computeBudgetState none tenant row 0).1,some next) ∧ Unblocked tenant row next := by
  have purged := valid.purged now
  have blocked : store.read (blockedKey tenant) now = none := Store.read_none valid.blocked
  cases soft : ((store.read (softKey tenant) now).map (·.value)).any (·.truthy) with
  | true =>
    refine ⟨_,?_,purged⟩
    have marked : store (softKey tenant) ≠ none := by
      intro absent
      simp [Store.read_none absent] at soft
    simp only [checkBudgetState,Store.get_eq,blocked,Option.map_none,Option.any_none,
      Bool.false_eq_true,if_false,Store.read_purgeIfExpired_other blockedKey_ne_softKey.symm,soft,
      if_true,valid.soft marked]
  | false =>
    obtain ⟨next,cached,again⟩ := purged.computed unblocked now
    refine ⟨next,?_,again⟩
    simp only [checkBudgetState,Store.get_eq,blocked,Option.map_none,Option.any_none,
      Bool.false_eq_true,if_false,Store.read_purgeIfExpired_other blockedKey_ne_softKey.symm,soft]
    exact Prod.ext (computeBudgetState_outcome _) cached

theorem Unblocked.outcomes (unblocked : ∀ budget, row = some budget → budget.blocks = false)
    (waits : List Nat) (valid : Unblocked tenant row store) :
    checkOutcomes tenant row ⟨some store,now⟩ waits =
      List.replicate waits.length (computeBudgetState none tenant row 0).1 := by
  induction waits generalizing store now with
  | nil => rfl
  | cons wait waits ih =>
    obtain ⟨next,call,again⟩ := valid.next unblocked (now + wait)
    have rest : outputs (checkAfter tenant row) (fun _ => true) ⟨some next,now + wait⟩ waits = _ :=
      ih again
    simp [checkOutcomes,outputs,checkAfter,call,rest,List.replicate_succ]

/-- The calls on an empty cache agree with those without one, and `enforce_hard_limit`
finds the same on each of them. -/
structure SameWithCache (tenant : String) (row : Option LlmBudgetRow) (start : Nat)
    (waits : List Nat) : Prop where
  outcomes : checkOutcomes tenant row ⟨some .empty,start⟩ waits =
    checkOutcomes tenant row ⟨none,start⟩ waits
  enforced : ∀ one ∈ checkOutcomes tenant row ⟨some .empty,start⟩ waits,
    ∀ two ∈ checkOutcomes tenant row ⟨some .empty,start⟩ waits,
      enforceHardLimitForTenant one = enforceHardLimitForTenant two

theorem SameWithCache.of_outcomes {start : Nat} {waits : List Nat}
    (outcomes : checkOutcomes tenant row ⟨some .empty,start⟩ waits =
      List.replicate waits.length (computeBudgetState none tenant row 0).1) :
    SameWithCache tenant row start waits := by
  refine ⟨outcomes.trans (checkOutcomes_uncached start waits).symm,fun one listed two listed' => ?_⟩
  rw [outcomes] at listed listed'
  rw [List.eq_of_mem_replicate listed,List.eq_of_mem_replicate listed']

/-- The cache changes no outcome unless a row whose hard limit is reached is checked again
within ten minutes. -/
theorem sameWithCache_iff (tenant : String) (row : Option LlmBudgetRow) (start : Nat)
    (waits : List Nat) :
    SameWithCache tenant row start waits ↔
      (row.any (·.blocks) = true → ∀ wait ∈ waits.tail, Cache.micros 600 ≤ wait) := by
  cases blocks : row.any (·.blocks) with
  | false =>
    have unblocked : ∀ budget, row = some budget → budget.blocks = false := by
      intro budget found
      simpa [found] using blocks
    have valid : Unblocked tenant row .empty := ⟨rfl,fun marked => absurd rfl marked⟩
    simpa using SameWithCache.of_outcomes (valid.outcomes unblocked waits)
  | true =>
    obtain ⟨budget,rfl,blocks⟩ : ∃ budget, row = some budget ∧ budget.blocks = true := by
      simpa [Option.any_eq_true] using blocks
    cases waits with
    | nil =>
      have none : SameWithCache tenant (some budget) start [] := .of_outcomes rfl
      simpa using none
    | cons wait waits =>
      -- The first call raises and marks the tenant; the rest is the run of a marked tenant.
      have empty : ∀ key, Store.empty.read key (start + wait) = none := fun _ => rfl
      obtain ⟨next,call,marked⟩ :=
        checkBudgetState_raises blocks (empty (blockedKey tenant)) (empty (softKey tenant))
      have computed : (computeBudgetState none tenant (some budget) 0).1 =
          .error budget.exceededError := by
        rw [← computeBudgetState_outcome,
          ← checkBudgetState_unmarked (empty (blockedKey tenant)) (empty (softKey tenant)),call]
      have first : ∀ outcomes, checkOutcomes tenant (some budget) ⟨some .empty,start⟩
          (wait :: waits) = .error budget.exceededError :: outcomes ↔
          checkOutcomes tenant (some budget) ⟨some next,start + wait⟩ waits = outcomes := by
        intro outcomes
        simp [checkOutcomes,outputs,checkAfter,call]
      rw [List.tail_cons,← marked.outcomes_iff blocks waits,← first]
      constructor
      · intro same _
        rw [same.outcomes,checkOutcomes_uncached,computed]
        rfl
      · intro outcomes
        apply SameWithCache.of_outcomes
        rw [outcomes rfl,computed]
        rfl

/-- A spent ten-dollar budget with a hard limit, checked twice at once. -/
theorem hard_limit_answered_from_cache :
    ¬∀ (tenant : String) (row : Option LlmBudgetRow) (start : Nat) (waits : List Nat),
      SameWithCache tenant row start waits := by
  intro all
  let spent : LlmBudgetRow := ⟨⟨10 * 10 ^ 8,10 * 10 ^ 8,0,0⟩,80,true⟩
  have apart := (sameWithCache_iff "t" (some spent) 0 [0,0]).mp (all _ _ _ _) (by decide) 0
    (by decide)
  exact absurd apart (Nat.not_le.mpr (Cache.micros_pos (by decide)))

end Valdrics.Llm

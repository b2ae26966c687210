import Valdrics.LlmBudget

/-! The quota gates before a reservation: the daily analysis limits and the fair-use limits
count the tenant's usage rows, and the concurrency limit takes a slot. Metrics and audit
logs are left out. -/
namespace Valdrics.Llm

open Enforcement (PricingTier Json Uuid)

structure LlmUsage where
  userId : Option Uuid
  provider : String
  model : String
  inputTokens : Nat
  outputTokens : Nat
  totalTokens : Nat
  costUsd : Int
  isByok : Bool
  operationId : Option String
  requestType : String
  createdAt : Nat

inductive ActorType where
  | user | system
  deriving DecidableEq, Repr

namespace ActorType

def value : ActorType → String
  | .user => "user"
  | .system => "system"

def normalize (actor : ActorType) (userId : Option Uuid) : ActorType :=
  if userId.isSome then .user else actor

end ActorType

/-- `BudgetExceededError`, or `LLMFairUseExceededError`, which is one. -/
structure BudgetExceeded where
  message : String
  details : List (String × Json)
  fairUse : Bool := false

/-- `get_tier_limit` on the analysis quotas; `none` is unlimited. -/
structure AnalysisLimits where
  llmAnalysesPerDay : Option Int
  llmSystemAnalysesPerDay : Option Int
  llmAnalysesPerUserPerDay : Option Int

structure FairUseSettings where
  guardsEnabled : Bool := false
  proDailySoftCap : Int := 1200
  enterpriseDailySoftCap : Int := 4000
  perMinuteCap : Int := 30
  perTenantConcurrencyCap : Int := 4
  concurrencyLeaseTtlSeconds : Int := 180
  cacheEnabled : Bool := true

def dayStart (now : Nat) : Nat := now / Calendar.microsPerDay * Calendar.microsPerDay

def dayEnd (now : Nat) : Nat := dayStart now + Calendar.microsPerDay

def countRequestsInWindow (usages : List LlmUsage) (start : Nat) (stop : Option Nat)
    (userId : Option Uuid) (actor : Option ActorType) : Nat :=
  usages.countP fun usage =>
    start ≤ usage.createdAt && (stop.all fun stop => usage.createdAt < stop) &&
      (actor.all fun actor => (actor.value ++ ":").toList.isPrefixOf usage.requestType.toList) &&
      userId.all fun id => usage.userId = some id

def requestsToday (usages : List LlmUsage) (now : Nat) : Nat :=
  countRequestsInWindow usages (dayStart now) (some (dayEnd now)) none none

/-- The quota of the system, or of the user, once the tenant's is met. -/
def enforceActorLimit (limits : AnalysisLimits) (usages : List LlmUsage) (userId : Option Uuid)
    (actor : ActorType) (now : Nat) : Except BudgetExceeded Unit :=
  match actor with
  | .system =>
    match limits.llmSystemAnalysesPerDay with
    | none => .ok ()
    | some limit =>
      let observed :=
        countRequestsInWindow usages (dayStart now) (some (dayEnd now)) none (some .system)
      if limit ≤ 0 then
        .error ⟨"System LLM analysis is not available on your current plan.",
          [("gate",.str "daily_system"),("daily_system_limit",.int limit),
            ("system_requests_today",.int 0)],false⟩
      else if limit ≤ observed then
        .error ⟨"Daily system LLM analysis limit reached for your current plan.",
          [("gate",.str "daily_system"),("daily_system_limit",.int limit),
            ("system_requests_today",.int observed)],false⟩
      else .ok ()
  | .user =>
    match limits.llmAnalysesPerUserPerDay with
    | none => .ok ()
    | some limit =>
      let observed :=
        countRequestsInWindow usages (dayStart now) (some (dayEnd now)) userId (some .user)
      let reached (observed : Int) : Except BudgetExceeded Unit :=
        .error ⟨"Daily per-user LLM analysis limit reached for your current plan.",
          [("gate",.str "daily_user"),("daily_user_limit",.int limit),
            ("user_requests_today",.int observed),("actor_type",.str actor.value)],false⟩
      if limit ≤ 0 then reached 0
      else if limit ≤ observed then reached observed
      else .ok ()

def enforceDailyAnalysisLimit (limits : AnalysisLimits) (usages : List LlmUsage)
    (userId : Option Uuid) (actor : ActorType) (now : Nat) : Except BudgetExceeded Unit :=
  let actor := actor.normalize userId
  if actor = .user ∧ userId = none then
    .error ⟨"User-scoped LLM request missing actor identity.",
      [("gate",.str "actor_context"),("actor_type",.str actor.value)],false⟩
  else
    match limits.llmAnalysesPerDay with
    | none => .ok ()
    | some limit =>
      if limit ≤ 0 then
        .error ⟨"LLM analysis is not available on your current plan.",
          [("daily_limit",.int limit),("requests_today",.int 0)],false⟩
      else if limit ≤ requestsToday usages now then
        .error ⟨"Daily LLM analysis limit reached for your current plan.",
          [("gate",.str "daily_tenant"),("daily_limit",.int limit),
            ("requests_today",.int (requestsToday usages now)),
            ("actor_type",.str actor.value)],false⟩
      else enforceActorLimit limits usages userId actor now

def fairUseTierAllowed (tier : PricingTier) : Bool := tier = .pro || tier = .enterprise

namespace FairUseSettings

variable (settings : FairUseSettings)

def dailySoftCap (tier : PricingTier) : Option Int :=
  let cap := match tier with
    | .pro => some settings.proDailySoftCap
    | .enterprise => some settings.enterpriseDailySoftCap
    | _ => none
  cap.filter (0 < ·)

def acquireSlot (slots : Nat) : Bool × Nat :=
  if settings.perTenantConcurrencyCap < (slots + 1 : Nat) then (false,slots) else (true,slots + 1)

def releaseSlot (slots : Nat) : Nat :=
  if settings.guardsEnabled then slots - 1
  else if settings.cacheEnabled then slots
  else 0

def takesSlot (tier : PricingTier) : Bool :=
  settings.guardsEnabled && fairUseTierAllowed tier && 0 < settings.perTenantConcurrencyCap

end FairUseSettings

/-- `enforce_fair_use_guards`: whether a slot was acquired, and the slots in use then. -/
def enforceFairUseGuards (settings : FairUseSettings) (tier : PricingTier) (usages : List LlmUsage)
    (slots now : Nat) : Except BudgetExceeded (Bool × Nat) :=
  let today : Int := requestsToday usages now
  let lastMinute : Int :=
    countRequestsInWindow usages (now - 60 * Calendar.microsPerSecond) none none none
  if settings.guardsEnabled = false ∨ fairUseTierAllowed tier = false then .ok (false,slots)
  else if (settings.dailySoftCap tier).any fun cap => cap ≤ today then
    .error ⟨"Daily fair-use limit reached. Retry tomorrow or contact support to increase limits.",
      [("gate",.str "soft_daily"),("limit",.int ((settings.dailySoftCap tier).getD 0)),
        ("observed",.int today),("recommendation",.str "upgrade_or_contact_support")],true⟩
  else if 0 < settings.perMinuteCap ∧ settings.perMinuteCap ≤ lastMinute then
    .error ⟨"Rate limit reached for this tenant. Retry in about 60 seconds or contact support for higher throughput.",
      [("gate",.str "per_minute"),("limit",.int settings.perMinuteCap),
        ("observed",.int lastMinute),("retry_after_seconds",.int 60),
        ("recommendation",.str "upgrade_or_contact_support")],true⟩
  else if settings.perTenantConcurrencyCap ≤ 0 then .ok (false,slots)
  else
    match settings.acquireSlot slots with
    | (true,taken) => .ok (true,taken)
    | (false,current) =>
      .error ⟨"Too many in-flight LLM requests for this tenant. Retry shortly or contact support for higher throughput.",
        [("gate",.str "concurrency"),("limit",.int settings.perTenantConcurrencyCap),
          ("observed",.int current),
          ("retry_after_seconds",.int (max 5 (min settings.concurrencyLeaseTtlSeconds 60))),
          ("recommendation",.str "upgrade_or_contact_support")],true⟩

section Gates

variable {limits : AnalysisLimits} {usages : List LlmUsage} {userId : Option Uuid}
  {actor : ActorType} {now slots : Nat} {settings : FairUseSettings} {tier : PricingTier}

theorem countRequestsInWindow_append {usage : LlmUsage} {start stop : Nat} :
    countRequestsInWindow (usages ++ [usage]) start (some stop) none none =
      countRequestsInWindow usages start (some stop) none none +
        if start ≤ usage.createdAt ∧ usage.createdAt < stop then 1 else 0 := by
  simp [countRequestsInWindow,List.countP_append,List.countP_singleton]

theorem enforceDailyAnalysisLimit_under {done : Unit} {limit : Int}
    (passed : enforceDailyAnalysisLimit limits usages userId actor now = .ok done)
    (limited : limits.llmAnalysesPerDay = some limit) : requestsToday usages now < limit := by
  simp only [enforceDailyAnalysisLimit,limited] at passed
  split at passed
  · contradiction
  split at passed
  · contradiction
  split at passed
  · contradiction
  · next under => exact Int.not_le.mp under

theorem enforceFairUseGuards_slots {acquired : Bool} {taken : Nat}
    (passed : enforceFairUseGuards settings tier usages slots now = .ok (acquired,taken)) :
    acquired = settings.takesSlot tier ∧ taken = if acquired then slots + 1 else slots := by
  simp only [enforceFairUseGuards] at passed
  split at passed
  · next off =>
    obtain ⟨rfl,rfl⟩ := Prod.mk.inj (Except.ok.inj passed)
    refine ⟨?_,rfl⟩
    rcases off with disabled | excluded
    · simp [FairUseSettings.takesSlot,disabled]
    · simp [FairUseSettings.takesSlot,excluded]
  next on =>
  have guarded : settings.guardsEnabled = true ∧ fairUseTierAllowed tier = true := by
    simpa using on
  split at passed
  · contradiction
  split at passed
  · contradiction
  split at passed
  · next uncapped =>
    obtain ⟨rfl,rfl⟩ := Prod.mk.inj (Except.ok.inj passed)
    exact ⟨by simp [FairUseSettings.takesSlot,uncapped],rfl⟩
  next capped =>
  have positive : 0 < settings.perTenantConcurrencyCap := Int.not_le.mp capped
  cases outcome : settings.acquireSlot slots with
  | mk got current =>
    rw [outcome] at passed
    cases got with
    | false => contradiction
    | true =>
      obtain ⟨rfl,rfl⟩ := Prod.mk.inj (Except.ok.inj passed)
      refine ⟨by simp [FairUseSettings.takesSlot,guarded,positive],?_⟩
      unfold FairUseSettings.acquireSlot at outcome
      split at outcome
      · simp at outcome
      · exact (Prod.mk.inj outcome).2.symm

theorem releaseSlot_acquired (takes : settings.takesSlot tier = true) :
    settings.releaseSlot (slots + 1) = slots := by
  have guarded : settings.guardsEnabled = true := by
    simp only [FairUseSettings.takesSlot,Bool.and_eq_true] at takes
    exact takes.1.1
  simp [FairUseSettings.releaseSlot,guarded]

end Gates

end Valdrics.Llm

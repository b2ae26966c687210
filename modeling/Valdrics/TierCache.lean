import Valdrics.BillingModels
import Valdrics.Runs

/-! The tier of a tenant as the sessions of one process read it: a cache in each session, the
runtime cache of the process with its expiry and its bound, and the plan changes, which drop the
runtime entry before their transaction ends. A read asks, is answered and publishes in three
steps, so that everything else may come between. -/
namespace Valdrics.TenantTier

open Enforcement (PricingTier Uuid)
open Enforcement.ApprovalToken (uuidText parseUuid)
open Billing (tierValue pricingTier)
open PythonText

/-- `_TENANT_TIER_CACHE_TTL_SECONDS`, in microseconds. -/
def tenantTierCacheTtl : Int := 60 * 1000000

def tenantTierCacheMaxEntries : Nat := 4096

structure CacheEntry where
  cachedAt : Int
  tier : PricingTier
  deriving DecidableEq

def CacheEntry.expired (entry : CacheEntry) (now : Int) : Bool :=
  now - entry.cachedAt > tenantTierCacheTtl

abbrev RuntimeCache := Table Uuid CacheEntry

namespace RuntimeCache

variable (cache : RuntimeCache) (tenant : Uuid)

/-- `dict.pop`. -/
def pop : RuntimeCache := cache.filter fun key _ => key ≠ tenant

def put (entry : CacheEntry) : RuntimeCache := cache.upsert tenant entry fun _ => entry

/-- `runtime_cache_get`. -/
def runtimeCacheGet (now : Int) : Option PricingTier × RuntimeCache :=
  match cache.find tenant with
  | none => (none,cache)
  | some entry => if entry.expired now then (none,cache.pop tenant) else (some entry.tier,cache)

def oldest : List (Uuid × CacheEntry) → Option (Uuid × CacheEntry)
  | [] => none
  | entry :: rest =>
    match oldest rest with
    | none => some entry
    | some other => if entry.2.cachedAt ≤ other.2.cachedAt then some entry else some other

def popOldest : RuntimeCache :=
  match oldest cache.rows with
  | none => cache
  | some entry => cache.pop entry.1

/-- The loop that drops the oldest entry until the bound is met; each round drops one. -/
def shrink : Nat → RuntimeCache → RuntimeCache
  | 0, cache => cache
  | rounds + 1, cache =>
    if cache.rows.length ≤ tenantTierCacheMaxEntries then cache else shrink rounds cache.popOldest

def dropExpired (now : Int) : RuntimeCache :=
  cache.filter fun _ entry => ¬entry.cachedAt ≤ now - tenantTierCacheTtl

/-- `runtime_cache_set`. -/
def runtimeCacheSet (tier : PricingTier) (now : Int) : RuntimeCache :=
  let written := put cache tenant ⟨now,tier⟩
  if written.rows.length ≤ tenantTierCacheMaxEntries then written
  else shrink written.rows.length (dropExpired written now)

/-- `clear_tenant_tier_cache`. -/
def clearTenantTierCache : Option Uuid → RuntimeCache
  | none => Table.empty
  | some tenant => cache.pop tenant

end RuntimeCache

inductive TierArgument where
  | tier (tier : PricingTier)
  | text (value : String)

/-- Lower-casing, and `repr` in the messages. -/
structure Runtime where
  text : Lowercase
  repr : TierArgument → String

def normalizePricingTierValue (rt : Runtime) : TierArgument → Except String String
  | .tier tier => .ok (tierValue tier)
  | .text value =>
    match pricingTier (rt.text.lower (strip value)) with
    | some tier => .ok (tierValue tier)
    | none => .error ("Unsupported pricing tier value: " ++ rt.repr (.text value))

inductive Lookup where
  | asked (tenant : Uuid)
  | answered (tenant : Uuid) (plan : Option String)
  | failed (tenant : Uuid)
  deriving DecidableEq

structure Session where
  tiers : Uuid → Option PricingTier := fun _ => none
  pending : Uuid → Option String := fun _ => none
  lookup : Option Lookup := none

/-- The plans of the tenants' rows, the caches, and who holds the lock of a row. -/
structure State where
  now : Int
  committed : Uuid → Option String
  cache : RuntimeCache := Table.empty
  sessions : Nat → Session := fun _ => {}
  locks : Uuid → Option Nat := fun _ => none

inductive TenantRef where
  | id (tenant : Uuid)
  | text (value : String)

def TenantRef.parse : TenantRef → Option Uuid
  | .id tenant => some tenant
  | .text value => parseUuid value

def planTier (plan : Option String) : PricingTier := (plan.bind pricingTier).getD .free

inductive Outcome where
  | returned (tenant : Option Uuid) (tier : PricingTier)
  | raised (message : String)
  deriving DecidableEq

namespace State

variable (s : State) (session : Nat) (tenant : Uuid)

def withSession (update : Session → Session) : State :=
  { s with sessions := Function.update s.sessions session (update (s.sessions session)) }

def idle : Bool := (s.sessions session).lookup.isNone

def visiblePlan : Option String :=
  match (s.sessions session).pending tenant with
  | some plan => some plan
  | none => s.committed tenant

def remember (tier : PricingTier) : State :=
  s.withSession session fun own => { own with tiers := Function.update own.tiers tenant (some tier) }

def setLookup (lookup : Option Lookup) : State :=
  s.withSession session fun own => { own with lookup := lookup }

/-- `get_tenant_tier` up to its query. -/
def getTenantTier (ref : TenantRef) : State × Option Outcome :=
  match ref.parse with
  | none => (s,some (.returned none .free))
  | some tenant =>
    match (s.sessions session).tiers tenant with
    | some tier => (s,some (.returned (some tenant) tier))
    | none =>
      match s.cache.runtimeCacheGet tenant s.now with
      | (some tier,_) => (s.remember session tenant tier,some (.returned (some tenant) tier))
      | (none,cache) => ({ s with cache := cache }.setLookup session (some (.asked tenant)),none)

/-- The database answers, with what is committed at that moment, or the query raises one of the
exceptions that the lookup recovers from. -/
def answerLookup (fails : Bool) : State :=
  match (s.sessions session).lookup with
  | some (.asked tenant) =>
    if fails then s.setLookup session (some (.failed tenant))
    else s.setLookup session (some (.answered tenant (s.visiblePlan session tenant)))
  | _ => s

/-- The rest of `get_tenant_tier`: a found tier goes to both caches, a failure to the session's. -/
def finishLookup : State × Option Outcome :=
  match (s.sessions session).lookup with
  | some (.answered tenant plan) =>
    (({ s with cache := s.cache.runtimeCacheSet tenant (planTier plan) s.now }.remember session tenant
      (planTier plan)).setLookup session none,some (.returned (some tenant) (planTier plan)))
  | some (.failed tenant) =>
    ((s.remember session tenant .free).setLookup session none,some (.returned (some tenant) .free))
  | _ => (s,none)

/-- `sync_tenant_plan`; a row that another transaction has changed is waited for. -/
def syncTenantPlan (rt : Runtime) (tier : TierArgument) : State × Option Outcome :=
  match normalizePricingTierValue rt tier with
  | .error message => (s,some (.raised message))
  | .ok plan =>
    if (s.locks tenant).any (· ≠ session) then (s,none)
    else if (s.committed tenant).isNone then
      (s,some (.raised ("Tenant plan sync failed due to missing or duplicated tenant row (tenant_id=" ++
        uuidText tenant ++ ", updated_rows=0)")))
    else
      ({ s with
          cache := s.cache.clearTenantTierCache (some tenant)
          locks := Function.update s.locks tenant (some session) }.withSession session fun own =>
        { own with pending := Function.update own.pending tenant (some plan) },none)

def release : Uuid → Option Nat := fun tenant => (s.locks tenant).filter (· ≠ session)

def commit : State :=
  { s with committed := fun tenant => s.visiblePlan session tenant, locks := s.release session }.withSession
    session fun own => { own with pending := fun _ => none }

def rollback : State :=
  { s with locks := s.release session }.withSession session fun own =>
    { own with pending := fun _ => none }

def openSession : State := (s.rollback session).withSession session fun _ => {}

end State

inductive Event where
  | openSession (session : Nat)
  | getTenantTier (session : Nat) (tenant : TenantRef)
  | answerLookup (session : Nat) (fails : Bool)
  | finishLookup (session : Nat)
  | abandonLookup (session : Nat)
  | syncTenantPlan (session : Nat) (tenant : Uuid) (tier : TierArgument)
  | commit (session : Nat)
  | rollback (session : Nat)
  | advance (microseconds : Nat)

def exec (rt : Runtime) (s : State) : Event → State × Option Outcome
  | .openSession session => (s.openSession session,none)
  | .getTenantTier session tenant =>
    if s.idle session then s.getTenantTier session tenant else (s,none)
  | .answerLookup session fails => (s.answerLookup session fails,none)
  | .finishLookup session => s.finishLookup session
  | .abandonLookup session => (s.setLookup session none,none)
  | .syncTenantPlan session tenant tier =>
    if s.idle session then s.syncTenantPlan session tenant rt tier else (s,none)
  | .commit session => (if s.idle session then s.commit session else s,none)
  | .rollback session => (if s.idle session then s.rollback session else s,none)
  | .advance microseconds => ({ s with now := s.now + microseconds },none)

end Valdrics.TenantTier

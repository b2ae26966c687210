import Valdrics.TierEviction

/-! What the reads of a run are held against: the plans committed since a session was opened, the
changes rolled back, and what the caches of process and sessions keep of them. -/
namespace Valdrics.TenantTier

open Enforcement (PricingTier Uuid)
open Billing (tierValue pricingTier)

/-- A tier that a session got, with the plans committed for the tenant when the session was opened
or since, those committed at all, and whether the session's lookup of it had failed. -/
structure Got where
  tenant : Option Uuid
  tier : PricingTier
  visible : List String := []
  committed : List String := []
  failed : Bool := false

structure History where
  visible : Nat → Uuid → List String
  committed : Uuid → List String
  failed : Nat → Uuid → Bool := fun _ _ => false
  rolledBack : List (Uuid → Option String) := []
  reads : List Got := []

def Assigned (rt : Runtime) (plan : String) (tier : PricingTier) : Prop :=
  normalizePricingTierValue rt (.text plan) = .ok (tierValue tier)

def Explained (rt : Runtime) (plans : List String) (failed : Bool) (tier : PricingTier) : Prop :=
  (∃ plan ∈ plans, Assigned rt plan tier) ∨ tier = .free ∧ (plans = [] ∨ failed = true)

namespace History

variable (h : History) (session : Nat)

def noteRead : Option Outcome → History
  | some (.returned none tier) => { h with reads := h.reads ++ [{ tenant := none, tier }] }
  | some (.returned (some tenant) tier) =>
    { h with reads := h.reads ++ [⟨some tenant,tier,h.visible session tenant,h.committed tenant,
        h.failed session tenant⟩] }
  | _ => h

def noteFailure : Option Lookup → History
  | some (.failed tenant) =>
    { h with
      failed := Function.update h.failed session (Function.update (h.failed session) tenant true) }
  | _ => h

def noteCommit (pending : Uuid → Option String) : History :=
  { h with
    visible := fun other tenant => h.visible other tenant ++ (pending tenant).toList
    committed := fun tenant => h.committed tenant ++ (pending tenant).toList }

def noteRollback (pending : Uuid → Option String) : History :=
  { h with rolledBack := h.rolledBack ++ [pending] }

def noteOpening (committed : Uuid → Option String) : History :=
  { h with
    visible := Function.update h.visible session fun tenant => (committed tenant).toList
    failed := Function.update h.failed session fun _ => false }

end History

def note (h : History) (s : State) (event : Event) (result : State × Option Outcome) : History :=
  match event with
  | .openSession session =>
    (h.noteRollback (s.sessions session).pending).noteOpening session s.committed
  | .getTenantTier session _ => h.noteRead session result.2
  | .finishLookup session =>
    (h.noteFailure session (s.sessions session).lookup).noteRead session result.2
  | .commit session => if s.idle session then h.noteCommit (s.sessions session).pending else h
  | .rollback session => if s.idle session then h.noteRollback (s.sessions session).pending else h
  | _ => h

def openingRead (rt : Runtime) (s : State) (session : Nat) (tenant : Uuid) : List Outcome :=
  (outputs (exec rt) (fun _ => true) s [.openSession session,.getTenantTier session (.id tenant),
    .answerLookup session false,.finishLookup session]).filterMap id

/-- Every read got a tier of a plan committed since its session was opened, and no read the tier
of a rolled back change that no committed plan has; and a session opened now gets what is
committed. -/
structure Coherent (rt : Runtime) (s : State × History) : Prop where
  newer : ∀ got ∈ s.2.reads, Explained rt got.visible got.failed got.tier
  rolledBack : ∀ change ∈ s.2.rolledBack, ∀ got ∈ s.2.reads, ∀ tenant plan, got.tenant = some tenant →
    change tenant = some plan → Assigned rt plan got.tier → Explained rt got.committed got.failed got.tier
  committed : ∀ got ∈ s.2.reads, Explained rt got.committed got.failed got.tier
  opening : ∀ session tenant, openingRead rt s.1 session tenant =
    [.returned (some tenant) (planTier (s.1.committed tenant))]

/-- What is committed and what is published agree: a change is committed while the runtime cache
holds no live entry of another tier, and a lookup that found a plan publishes its tier while a
plan of this tier is the committed one. -/
structure PublishesCommitted (s : State) (event : Event) : Prop where
  commit : ∀ session tenant plan entry, event = .commit session → s.idle session = true →
    (s.sessions session).pending tenant = some plan → s.cache.find tenant = some entry →
    entry.expired s.now = false → entry.tier = planTier (some plan)
  publish : ∀ session tenant plan, event = .finishLookup session →
    (s.sessions session).lookup = some (.answered tenant plan) →
    planTier plan = planTier (s.committed tenant)

structure Current (s : State) : Prop where
  bounded : s.cache.rows.length ≤ tenantTierCacheMaxEntries
  dated : ∀ row ∈ s.cache.rows, row.2.cachedAt ≤ s.now
  live : ∀ tenant entry, s.cache.find tenant = some entry → entry.expired s.now = false →
    entry.tier = planTier (s.committed tenant)

structure Recorded (rt : Runtime) (s : State) (h : History) : Prop where
  own : ∀ session tenant tier, (s.sessions session).tiers tenant = some tier →
    Explained rt (h.visible session tenant) (h.failed session tenant) tier
  latest : ∀ session tenant plan, s.committed tenant = some plan → plan ∈ h.visible session tenant
  absent : ∀ tenant, s.committed tenant = none → h.committed tenant = []
  canonical : ∀ tenant plan, s.committed tenant = some plan → ∃ tier, plan = tierValue tier
  pending : ∀ session tenant plan, (s.sessions session).pending tenant = some plan →
    s.committed tenant ≠ none ∧ ∃ tier, plan = tierValue tier
  seen : ∀ session tenant, h.visible session tenant ⊆ h.committed tenant

variable {rt : Runtime} {s t : State} {h : History} {session other : Nat} {tenant : Uuid}
  {tier : PricingTier} {plans : List String} {failed : Bool}

theorem sessions_withSession (change : Session → Session) : (s.withSession session change).sessions other =
    if other = session then change (s.sessions session) else s.sessions other := by
  simp only [State.withSession,Function.update_apply]

@[simp] theorem withSession_now (change : Session → Session) :
    (s.withSession session change).now = s.now := rfl
@[simp] theorem withSession_cache (change : Session → Session) :
    (s.withSession session change).cache = s.cache := rfl
@[simp] theorem withSession_committed (change : Session → Session) :
    (s.withSession session change).committed = s.committed := rfl

@[simp] theorem planTier_tierValue : planTier (some (tierValue tier)) = tier := by
  cases tier <;> decide

theorem assigned_tierValue (rt : Runtime) (tier : PricingTier) : Assigned rt (tierValue tier) tier := by
  simp only [Assigned,normalizePricingTierValue,Billing.pricingTier_tierValue]

theorem normalizePricingTierValue_ok {argument : TierArgument} {plan : String}
    (normalized : normalizePricingTierValue rt argument = .ok plan) : ∃ tier, plan = tierValue tier := by
  cases argument with
  | tier tier =>
    cases normalized
    exact ⟨tier,rfl⟩
  | text value =>
    simp only [normalizePricingTierValue] at normalized
    split at normalized
    · cases normalized
      exact ⟨_,rfl⟩
    · contradiction

theorem Explained.append (explained : Explained rt plans failed tier) {more : List String}
    (grows : plans = [] → more = []) : Explained rt (plans ++ more) failed tier := by
  rcases explained with ⟨plan,listed,assigned⟩ | ⟨free,empty | fails⟩
  · exact .inl ⟨plan,List.mem_append_left _ listed,assigned⟩
  · exact .inr ⟨free,.inl (by simp [empty,grows empty])⟩
  · exact .inr ⟨free,.inr fails⟩

theorem Recorded.explained_committed (recorded : Recorded rt s h)
    (explained : Explained rt (h.visible session tenant) failed tier) :
    Explained rt (h.committed tenant) failed tier := by
  rcases explained with ⟨plan,listed,assigned⟩ | ⟨free,empty | fails⟩
  · exact .inl ⟨plan,recorded.seen session tenant listed,assigned⟩
  · refine .inr ⟨free,.inl (recorded.absent tenant ?_)⟩
    cases now : s.committed tenant with
    | none => rfl
    | some plan =>
      have listed := recorded.latest session tenant plan now
      simp [empty] at listed
  · exact .inr ⟨free,.inr fails⟩

theorem Recorded.explained_planTier (recorded : Recorded rt s h) :
    Explained rt (h.visible session tenant) failed (planTier (s.committed tenant)) := by
  cases now : s.committed tenant with
  | none =>
    have none_seen := recorded.seen session tenant
    rw [recorded.absent tenant now] at none_seen
    exact .inr ⟨rfl,.inl (List.subset_nil.mp none_seen)⟩
  | some plan =>
    obtain ⟨tier,rfl⟩ := recorded.canonical tenant plan now
    rw [planTier_tierValue]
    exact .inl ⟨_,recorded.latest session tenant _ now,assigned_tierValue rt tier⟩

section Reading

theorem runtimeCacheGet_hit {cache : RuntimeCache} {now : Int}
    (hit : (cache.runtimeCacheGet tenant now).1 = some tier) :
    ∃ entry, cache.find tenant = some entry ∧ entry.expired now = false ∧ entry.tier = tier := by
  simp only [RuntimeCache.runtimeCacheGet] at hit
  split at hit
  · contradiction
  next entry found =>
    split at hit
    · contradiction
    next live => exact ⟨entry,found,by simpa using live,Option.some.inj hit⟩

theorem runtimeCacheGet_live {cache : RuntimeCache} {now : Int} {entry : CacheEntry}
    (found : cache.find tenant = some entry) (live : entry.expired now = false) :
    (cache.runtimeCacheGet tenant now).1 = some entry.tier := by
  simp [RuntimeCache.runtimeCacheGet,found,live]

theorem runtimeCacheGet_rows {cache : RuntimeCache} {now : Int} {row : Uuid × CacheEntry}
    (member : row ∈ (cache.runtimeCacheGet tenant now).2.rows) : row ∈ cache.rows := by
  simp only [RuntimeCache.runtimeCacheGet] at member
  split at member
  · exact member
  · split at member
    · exact RuntimeCache.rows_pop member
    · exact member

theorem runtimeCacheGet_length {cache : RuntimeCache} {now : Int} :
    (cache.runtimeCacheGet tenant now).2.rows.length ≤ cache.rows.length := by
  simp only [RuntimeCache.runtimeCacheGet]
  split
  · exact le_rfl
  · split
    · exact RuntimeCache.length_pop
    · exact le_rfl

/-- The first read of a new session is served by the runtime cache, and else by the row. -/
theorem openingRead_eq (rt : Runtime) (s : State) (session : Nat) (tenant : Uuid) :
    openingRead rt s session tenant = [.returned (some tenant)
      ((s.cache.runtimeCacheGet tenant s.now).1.getD (planTier (s.committed tenant)))] := by
  rcases lookup : s.cache.runtimeCacheGet tenant s.now with ⟨hit,cache⟩
  cases hit with
  | none =>
    simp [openingRead,outputs,exec,State.openSession,State.rollback,State.idle,State.getTenantTier,
      TenantRef.parse,State.withSession,lookup,State.setLookup,State.answerLookup,State.finishLookup,
      State.visiblePlan]
  | some tier =>
    simp [openingRead,outputs,exec,State.openSession,State.rollback,State.idle,State.getTenantTier,
      TenantRef.parse,State.withSession,lookup,State.remember,State.answerLookup,State.finishLookup]

theorem Current.opening (current : Current s) (session : Nat) (tenant : Uuid) :
    openingRead rt s session tenant = [.returned (some tenant) (planTier (s.committed tenant))] := by
  rw [openingRead_eq]
  cases hit : (s.cache.runtimeCacheGet tenant s.now).1 with
  | none => rfl
  | some tier =>
    obtain ⟨entry,found,live,rfl⟩ := runtimeCacheGet_hit hit
    rw [Option.getD_some,current.live tenant entry found live]

theorem live_of_opening (entry : CacheEntry)
    (opening : openingRead rt s session tenant = [.returned (some tenant) (planTier (s.committed tenant))])
    (found : s.cache.find tenant = some entry) (live : entry.expired s.now = false) :
    entry.tier = planTier (s.committed tenant) := by
  rw [openingRead_eq,runtimeCacheGet_live found live] at opening
  simpa using opening

end Reading

section Cache

/-- What drops entries, or lets time pass, leaves the cache current. -/
theorem Current.shrinks (current : Current s) (later : s.now ≤ t.now) (same : t.committed = s.committed)
    (fewer : t.cache.rows.length ≤ s.cache.rows.length)
    (rows : ∀ row ∈ t.cache.rows, row ∈ s.cache.rows) : Current t := by
  refine ⟨fewer.trans current.bounded,?_,?_⟩
  · intro row member
    exact (current.dated row (rows row member)).trans later
  · intro tenant entry found live
    have before : s.cache.find tenant = some entry :=
      Table.find_eq_some_iff.mpr (rows _ (Table.find_eq_some_iff.mp found))
    rw [same]
    refine current.live tenant entry before ?_
    simp only [CacheEntry.expired,decide_eq_false_iff_not] at live ⊢
    omega

theorem Current.publish (current : Current s) (matches_row : tier = planTier (s.committed tenant)) :
    Current { s with cache := s.cache.runtimeCacheSet tenant tier s.now } := by
  have spec : RuntimeCache.SetSpec s.cache (s.cache.runtimeCacheSet tenant tier s.now) tenant ⟨s.now,tier⟩ :=
    RuntimeCache.runtimeCacheSet_spec current.bounded current.dated
  refine ⟨spec.bounded,?_,?_⟩
  · intro row member
    rcases spec.rows row member with rfl | old
    · exact le_rfl
    · exact current.dated row old
  · intro other entry found live
    by_cases same : other = tenant
    · subst same
      cases spec.self.symm.trans found
      exact matches_row
    · exact current.live other entry (spec.find_other same found) live

theorem Current.commit (current : Current s)
    (agrees : ∀ tenant plan entry, (s.sessions session).pending tenant = some plan →
      s.cache.find tenant = some entry → entry.expired s.now = false → entry.tier = planTier (some plan)) :
    Current (s.commit session) := by
  refine ⟨current.bounded,current.dated,?_⟩
  intro tenant entry found live
  change entry.tier = planTier (s.visiblePlan session tenant)
  cases changed : (s.sessions session).pending tenant with
  | none =>
    simp only [State.visiblePlan,changed]
    exact current.live tenant entry found live
  | some plan =>
    simp only [State.visiblePlan,changed]
    exact agrees tenant plan entry changed found live

theorem Current.getTenantTier (current : Current s) (session : Nat) (ref : TenantRef) :
    Current (s.getTenantTier session ref).1 := by
  simp only [State.getTenantTier]
  split
  · exact current
  next tenant _ =>
    split
    · exact current
    · split
      · exact current.shrinks le_rfl rfl le_rfl fun row member => member
      next lookup =>
        have popped := congrArg Prod.snd lookup
        refine current.shrinks le_rfl rfl ?_ ?_
        · exact (congrArg (·.rows.length) popped).symm.le.trans runtimeCacheGet_length
        · intro row member
          have listed : row ∈ (s.cache.runtimeCacheGet tenant s.now).2.rows := by
            rw [popped]
            exact member
          exact runtimeCacheGet_rows listed

theorem Current.syncTenantPlan (current : Current s) (rt : Runtime) (session : Nat) (tenant : Uuid)
    (argument : TierArgument) : Current (s.syncTenantPlan session tenant rt argument).1 := by
  simp only [State.syncTenantPlan]
  split
  · exact current
  · split
    · exact current
    · split
      · exact current
      · exact current.shrinks le_rfl rfl RuntimeCache.length_pop fun row => RuntimeCache.rows_pop

theorem Current.answerLookup (current : Current s) (session : Nat) (fails : Bool) :
    Current (s.answerLookup session fails) := by
  simp only [State.answerLookup]
  split
  · split
    · exact ⟨current.bounded,current.dated,current.live⟩
    · exact ⟨current.bounded,current.dated,current.live⟩
  · exact current

theorem Current.finishLookup (current : Current s)
    (publishes : ∀ tenant plan, (s.sessions session).lookup = some (.answered tenant plan) →
      planTier plan = planTier (s.committed tenant)) : Current (s.finishLookup session).1 := by
  simp only [State.finishLookup]
  split
  next tenant plan answered =>
    have published := current.publish (publishes tenant plan answered)
    exact ⟨published.bounded,published.dated,published.live⟩
  · exact ⟨current.bounded,current.dated,current.live⟩
  · exact current

theorem Current.exec (current : Current s) {event : Event} (guarded : PublishesCommitted s event) :
    Current (exec rt s event).1 := by
  cases event with
  | openSession session => exact ⟨current.bounded,current.dated,current.live⟩
  | getTenantTier session ref =>
    simp only [TenantTier.exec]
    split
    · exact current.getTenantTier session ref
    · exact current
  | answerLookup session fails => exact current.answerLookup session fails
  | finishLookup session =>
    exact current.finishLookup fun tenant plan answered => guarded.publish session tenant plan rfl answered
  | abandonLookup session => exact ⟨current.bounded,current.dated,current.live⟩
  | syncTenantPlan session tenant argument =>
    simp only [TenantTier.exec]
    split
    · exact current.syncTenantPlan rt session tenant argument
    · exact current
  | commit session =>
    simp only [TenantTier.exec]
    split
    next idle =>
      exact current.commit fun tenant plan entry => guarded.commit session tenant plan entry rfl idle
    · exact current
  | rollback session =>
    simp only [TenantTier.exec]
    split
    · exact ⟨current.bounded,current.dated,current.live⟩
    · exact current
  | advance microseconds =>
    refine current.shrinks ?_ rfl le_rfl fun row member => member
    simp only [TenantTier.exec]
    omega

end Cache

section Records

variable {outcome : Option Outcome} {lookup : Option Lookup} {ref : TenantRef} {argument : TierArgument}

@[simp] theorem noteRead_visible : (h.noteRead session outcome).visible = h.visible := by
  simp only [History.noteRead]
  split <;> rfl

@[simp] theorem noteRead_committed : (h.noteRead session outcome).committed = h.committed := by
  simp only [History.noteRead]
  split <;> rfl

@[simp] theorem noteRead_failed : (h.noteRead session outcome).failed = h.failed := by
  simp only [History.noteRead]
  split <;> rfl

theorem Recorded.noteRead (recorded : Recorded rt s h) : Recorded rt s (h.noteRead session outcome) :=
  ⟨by simpa using recorded.own,by simpa using recorded.latest,by simpa using recorded.absent,
    recorded.canonical,recorded.pending,by simpa using recorded.seen⟩

theorem Recorded.withSession (recorded : Recorded rt s h) {change : Session → Session}
    (own : ∀ tenant tier, (change (s.sessions session)).tiers tenant = some tier →
      Explained rt (h.visible session tenant) (h.failed session tenant) tier)
    (pending : ∀ tenant plan, (change (s.sessions session)).pending tenant = some plan →
      s.committed tenant ≠ none ∧ ∃ tier, plan = tierValue tier) :
    Recorded rt (s.withSession session change) h := by
  refine ⟨?_,recorded.latest,recorded.absent,recorded.canonical,?_,recorded.seen⟩
  · intro other tenant tier held
    rw [sessions_withSession] at held
    split at held
    next same => exact same ▸ own tenant tier held
    · exact recorded.own other tenant tier held
  · intro other tenant plan held
    rw [sessions_withSession] at held
    split at held
    · exact pending tenant plan held
    · exact recorded.pending other tenant plan held

theorem Recorded.cache (recorded : Recorded rt s h) (cache : RuntimeCache) :
    Recorded rt { s with cache := cache } h :=
  ⟨recorded.own,recorded.latest,recorded.absent,recorded.canonical,recorded.pending,recorded.seen⟩

theorem Recorded.setLookup (recorded : Recorded rt s h) (session : Nat) (lookup : Option Lookup) :
    Recorded rt (s.setLookup session lookup) h :=
  recorded.withSession (recorded.own session) (recorded.pending session)

theorem Recorded.remember (recorded : Recorded rt s h)
    (explained : Explained rt (h.visible session tenant) (h.failed session tenant) tier) :
    Recorded rt (s.remember session tenant tier) h := by
  refine recorded.withSession ?_ (recorded.pending session)
  intro other kept held
  by_cases same : other = tenant
  · subst same
    simp only [Function.update_self] at held
    cases held
    exact explained
  · simp only [Function.update_of_ne same] at held
    exact recorded.own session other kept held

theorem Recorded.noteFailure (recorded : Recorded rt s h) :
    Recorded rt s (h.noteFailure session lookup) := by
  simp only [History.noteFailure]
  split
  next tenant =>
    refine ⟨?_,recorded.latest,recorded.absent,recorded.canonical,recorded.pending,recorded.seen⟩
    intro other owner tier held
    have explained := recorded.own other owner tier held
    rcases explained with plan | ⟨free,empty | fails⟩
    · exact .inl plan
    · exact .inr ⟨free,.inl empty⟩
    · refine .inr ⟨free,.inr ?_⟩
      simp only [Function.update_apply]
      split
      next same =>
        subst same
        simp only [Function.update_apply]
        split
        · rfl
        · exact fails
      · exact fails
  · exact recorded

theorem Recorded.getTenantTier (recorded : Recorded rt s h) (current : Current s) :
    Recorded rt (s.getTenantTier session ref).1 h := by
  simp only [State.getTenantTier]
  split
  · exact recorded
  next tenant _ =>
    split
    · exact recorded
    · split
      next tier _ lookup =>
        obtain ⟨entry,found,live,rfl⟩ := runtimeCacheGet_hit (congrArg Prod.fst lookup)
        rw [current.live tenant entry found live]
        exact recorded.remember recorded.explained_planTier
      next cache lookup => exact (recorded.cache cache).setLookup session _

theorem Recorded.finishLookup (recorded : Recorded rt s h)
    (publishes : ∀ tenant plan, (s.sessions session).lookup = some (.answered tenant plan) →
      planTier plan = planTier (s.committed tenant)) :
    Recorded rt (s.finishLookup session).1 (h.noteFailure session (s.sessions session).lookup) := by
  have noted : Recorded rt s (h.noteFailure session (s.sessions session).lookup) := recorded.noteFailure
  simp only [State.finishLookup]
  cases lookup : (s.sessions session).lookup with
  | none =>
    rw [lookup] at noted
    exact noted
  | some stage =>
    rw [lookup] at noted
    cases stage with
    | asked tenant => exact noted
    | answered tenant plan =>
      dsimp only
      rw [publishes tenant plan lookup]
      refine Recorded.setLookup ?_ session none
      exact (noted.cache _).remember noted.explained_planTier
    | failed tenant =>
      refine Recorded.setLookup (Recorded.remember noted ?_) session none
      exact .inr ⟨rfl,.inr (by simp [History.noteFailure])⟩

theorem Recorded.syncTenantPlan (recorded : Recorded rt s h) :
    Recorded rt (s.syncTenantPlan session tenant rt argument).1 h := by
  simp only [State.syncTenantPlan]
  split
  · exact recorded
  next plan normalized =>
    split
    · exact recorded
    · split
      · exact recorded
      next known =>
        have changed : Recorded rt { s with
            cache := s.cache.clearTenantTierCache (some tenant)
            locks := Function.update s.locks tenant (some session) } h :=
          ⟨recorded.own,recorded.latest,recorded.absent,recorded.canonical,recorded.pending,
            recorded.seen⟩
        dsimp only
        refine Recorded.withSession changed ?_ ?_
        · exact recorded.own session
        intro other later held
        by_cases same : other = tenant
        · subst same
          simp only [Function.update_self] at held
          cases held
          exact ⟨by simpa using known,normalizePricingTierValue_ok normalized⟩
        · simp only [Function.update_of_ne same] at held
          exact recorded.pending session other later held

theorem Recorded.rollback (recorded : Recorded rt s h) (change : Uuid → Option String) :
    Recorded rt (s.rollback session) (h.noteRollback change) := by
  have released : Recorded rt { s with locks := s.release session } (h.noteRollback change) :=
    ⟨recorded.own,recorded.latest,recorded.absent,recorded.canonical,recorded.pending,recorded.seen⟩
  exact released.withSession (recorded.own session) fun _ _ held => (nomatch held)

theorem Recorded.openSession (recorded : Recorded rt s h) (change : Uuid → Option String) :
    Recorded rt (s.openSession session) ((h.noteRollback change).noteOpening session s.committed) := by
  have closed : Recorded rt (s.rollback session) (h.noteRollback change) := recorded.rollback change
  refine ⟨?_,?_,closed.absent,closed.canonical,?_,?_⟩
  · intro other tenant tier held
    simp only [State.openSession,sessions_withSession] at held
    split at held
    · contradiction
    next apart =>
      have explained := closed.own other tenant tier held
      simpa [History.noteOpening,Function.update_of_ne apart] using explained
  · intro other tenant plan now
    simp only [History.noteOpening,Function.update_apply]
    split
    · exact Option.mem_toList.mpr now
    · exact closed.latest other tenant plan now
  · intro other tenant plan held
    simp only [State.openSession,sessions_withSession] at held
    split at held
    · contradiction
    · exact closed.pending other tenant plan held
  · intro other tenant plan listed
    simp only [History.noteOpening,Function.update_apply] at listed
    split at listed
    · exact recorded.seen session tenant
        (recorded.latest session tenant plan (Option.mem_toList.mp listed))
    · exact closed.seen other tenant listed

theorem Recorded.commit (recorded : Recorded rt s h) :
    Recorded rt (s.commit session) (h.noteCommit (s.sessions session).pending) := by
  -- a tenant without a row has no change, so that nothing explained by its absence is undone
  have unchanged : ∀ tenant, s.committed tenant = none → (s.sessions session).pending tenant = none := by
    intro tenant missing
    cases changed : (s.sessions session).pending tenant with
    | none => rfl
    | some plan => exact absurd missing (recorded.pending session tenant plan changed).1
  refine ⟨?_,?_,?_,?_,?_,?_⟩
  · intro other tenant tier held
    have kept : (s.sessions other).tiers tenant = some tier := by
      simp only [State.commit,sessions_withSession] at held
      split at held
      next same => exact same ▸ held
      · exact held
    refine (recorded.own other tenant tier kept).append fun empty => ?_
    rw [unchanged tenant,Option.toList_none]
    cases now : s.committed tenant with
    | none => rfl
    | some plan =>
      have listed := recorded.latest other tenant plan now
      simp [empty] at listed
  · intro other tenant plan now
    simp only [State.commit,withSession_committed,State.visiblePlan] at now
    split at now
    next plan' changed =>
      cases now
      exact List.mem_append_right _ (by simp [changed])
    · exact List.mem_append_left _ (recorded.latest other tenant plan now)
  · intro tenant missing
    simp only [State.commit,withSession_committed,State.visiblePlan] at missing
    split at missing
    · contradiction
    next changed => simp [History.noteCommit,changed,recorded.absent tenant missing]
  · intro tenant plan now
    simp only [State.commit,withSession_committed,State.visiblePlan] at now
    split at now
    next plan' changed =>
      cases now
      exact (recorded.pending session tenant plan changed).2
    · exact recorded.canonical tenant plan now
  · intro other tenant plan held
    simp only [State.commit,sessions_withSession] at held
    split at held
    · contradiction
    next apart =>
      obtain ⟨known,canonical⟩ := recorded.pending other tenant plan held
      refine ⟨?_,canonical⟩
      simp only [State.commit,withSession_committed,State.visiblePlan]
      split
      · simp
      · exact known
  · intro other tenant plan listed
    rcases List.mem_append.mp listed with old | new
    · exact List.mem_append_left _ (recorded.seen other tenant old)
    · exact List.mem_append_right _ new

end Records

end Valdrics.TenantTier

import Valdrics.TierRecords

/-! When the tiers that the sessions of one process get are those of committed plans, for every
order of reads, plan changes, ends of transactions and expiry. -/
namespace Valdrics.TenantTier

open Enforcement (PricingTier Uuid)
open Billing (tierValue)

variable {rt : Runtime} {s : State} {h : History} {session : Nat} {tenant : Uuid}
  {tier : PricingTier}

theorem Recorded.exec (recorded : Recorded rt s h) (current : Current s) {event : Event}
    (guarded : PublishesCommitted s event) :
    Recorded rt (exec rt s event).1 (note h s event (exec rt s event)) := by
  cases event with
  | openSession session => exact recorded.openSession _
  | getTenantTier session ref =>
    refine Recorded.noteRead ?_
    simp only [TenantTier.exec]
    split
    · exact recorded.getTenantTier current
    · exact recorded
  | answerLookup session fails =>
    simp only [TenantTier.exec,note,State.answerLookup]
    split
    · split
      · exact recorded.setLookup session _
      · exact recorded.setLookup session _
    · exact recorded
  | finishLookup session =>
    refine Recorded.noteRead ?_
    exact recorded.finishLookup fun tenant plan answered =>
      guarded.publish session tenant plan rfl answered
  | abandonLookup session => exact recorded.setLookup session none
  | syncTenantPlan session tenant argument =>
    simp only [TenantTier.exec,note]
    split
    · exact recorded.syncTenantPlan
    · exact recorded
  | commit session =>
    simp only [TenantTier.exec,note]
    split
    · exact recorded.commit
    · exact recorded
  | rollback session =>
    simp only [TenantTier.exec,note]
    split
    · exact recorded.rollback _
    · exact recorded
  | advance microseconds =>
    exact ⟨recorded.own,recorded.latest,recorded.absent,recorded.canonical,recorded.pending,
      recorded.seen⟩

section Reads

theorem remember_tiers : ((s.remember session tenant tier).sessions session).tiers tenant = some tier := by
  simp [State.remember,sessions_withSession]

theorem setLookup_tiers {lookup : Option Lookup} :
    ((s.setLookup session lookup).sessions session).tiers = (s.sessions session).tiers := by
  simp [State.setLookup,sessions_withSession]

theorem getTenantTier_keeps {ref : TenantRef} {known : Option Uuid}
    (returned : (s.getTenantTier session ref).2 = some (.returned known tier)) :
    known = none ∧ tier = .free ∨ ∃ tenant, known = some tenant ∧
      ((s.getTenantTier session ref).1.sessions session).tiers tenant = some tier := by
  simp only [State.getTenantTier] at returned ⊢
  cases parsed : ref.parse with
  | none =>
    simp only [parsed] at returned
    cases returned
    exact .inl ⟨rfl,rfl⟩
  | some tenant =>
    simp only [parsed] at returned ⊢
    cases own : (s.sessions session).tiers tenant with
    | some kept =>
      simp only [own] at returned ⊢
      cases returned
      exact .inr ⟨tenant,rfl,own⟩
    | none =>
      simp only [own] at returned ⊢
      rcases lookup : s.cache.runtimeCacheGet tenant s.now with ⟨hit,cache⟩
      cases hit with
      | some held =>
        simp only [lookup] at returned ⊢
        cases returned
        exact .inr ⟨tenant,rfl,remember_tiers⟩
      | none =>
        simp only [lookup] at returned
        contradiction

theorem finishLookup_keeps {known : Option Uuid}
    (returned : (s.finishLookup session).2 = some (.returned known tier)) :
    ∃ tenant, known = some tenant ∧
      ((s.finishLookup session).1.sessions session).tiers tenant = some tier := by
  simp only [State.finishLookup] at returned ⊢
  cases lookup : (s.sessions session).lookup with
  | none =>
    simp only [lookup] at returned
    contradiction
  | some stage =>
    simp only [lookup] at returned ⊢
    cases stage with
    | asked tenant => contradiction
    | answered tenant plan =>
      cases returned
      exact ⟨tenant,rfl,by rw [setLookup_tiers]; exact remember_tiers⟩
    | failed tenant =>
      cases returned
      exact ⟨tenant,rfl,by rw [setLookup_tiers]; exact remember_tiers⟩

def ReadsExplained (rt : Runtime) (h : History) : Prop :=
  ∀ got ∈ h.reads, Explained rt got.visible got.failed got.tier ∧
    Explained rt got.committed got.failed got.tier

theorem ReadsExplained.noteRead (explained : ReadsExplained rt h) (recorded : Recorded rt s h)
    {outcome : Option Outcome}
    (keeps : ∀ known tier, outcome = some (.returned known tier) → known = none ∧ tier = .free ∨
      ∃ tenant, known = some tenant ∧ (s.sessions session).tiers tenant = some tier) :
    ReadsExplained rt (h.noteRead session outcome) := by
  intro got listed
  simp only [History.noteRead] at listed
  split at listed
  next tier =>
    rcases List.mem_append.mp listed with old | new
    · exact explained got old
    · cases List.mem_singleton.mp new
      rcases keeps none tier rfl with ⟨_,rfl⟩ | ⟨_,known,_⟩
      · exact ⟨.inr ⟨rfl,.inl rfl⟩,.inr ⟨rfl,.inl rfl⟩⟩
      · contradiction
  next tenant tier =>
    rcases List.mem_append.mp listed with old | new
    · exact explained got old
    · cases List.mem_singleton.mp new
      rcases keeps (some tenant) tier rfl with ⟨known,_⟩ | ⟨_,⟨⟩,own⟩
      · contradiction
      · have seen := recorded.own session _ tier own
        exact ⟨seen,recorded.explained_committed seen⟩
  · exact explained got listed

theorem ReadsExplained.exec (explained : ReadsExplained rt h) (recorded : Recorded rt s h)
    (current : Current s) {event : Event} (guarded : PublishesCommitted s event) :
    ReadsExplained rt (note h s event (exec rt s event)) := by
  cases event with
  | getTenantTier session ref =>
    simp only [note,TenantTier.exec]
    split
    · exact ReadsExplained.noteRead explained (recorded.getTenantTier current) fun _ _ returned =>
        getTenantTier_keeps returned
    · exact explained
  | finishLookup session =>
    have noted := recorded.finishLookup fun tenant plan answered =>
      guarded.publish session tenant plan rfl answered
    refine ReadsExplained.noteRead ?_ noted fun _ _ returned => .inr (finishLookup_keeps returned)
    simp only [History.noteFailure]
    split <;> exact explained
  | commit session =>
    simp only [note]
    split <;> exact explained
  | rollback session =>
    simp only [note]
    split <;> exact explained
  | openSession session => exact explained
  | answerLookup session fails => exact explained
  | abandonLookup session => exact explained
  | syncTenantPlan session tenant argument => exact explained
  | advance microseconds => exact explained

end Reads

structure Consistent (rt : Runtime) (s : State × History) : Prop where
  current : Current s.1
  recorded : Recorded rt s.1 s.2
  explained : ReadsExplained rt s.2

theorem Consistent.coherent {s : State × History} (consistent : Consistent rt s) : Coherent rt s where
  newer := fun got listed => (consistent.explained got listed).1
  rolledBack := fun _ _ got listed _ _ _ _ _ => (consistent.explained got listed).2
  committed := fun got listed => (consistent.explained got listed).2
  opening := consistent.current.opening

theorem exec_diverges {event : Event} (current : Current s)
    (opening : ∀ session tenant, openingRead rt (exec rt s event).1 session tenant =
      [.returned (some tenant) (planTier ((exec rt s event).1.committed tenant))]) :
    PublishesCommitted s event := by
  refine ⟨?_,?_⟩
  · rintro session tenant plan entry rfl idle changed found live
    have agrees := live_of_opening entry (opening session tenant)
    simp only [exec,idle,if_true] at agrees
    have served := agrees found live
    simpa [State.commit,State.visiblePlan,changed] using served
  · rintro session tenant plan rfl answered
    have spec : RuntimeCache.SetSpec s.cache (s.cache.runtimeCacheSet tenant (planTier plan) s.now) tenant
        ⟨s.now,planTier plan⟩ := RuntimeCache.runtimeCacheSet_spec current.bounded current.dated
    have agrees := live_of_opening ⟨s.now,planTier plan⟩ (opening session tenant)
    simp only [exec,State.finishLookup,answered] at agrees
    exact agrees spec.self (by simp [CacheEntry.expired,tenantTierCacheTtl,State.setLookup,State.remember])

def start (now : Int) (plans : Uuid → Option PricingTier) : State × History :=
  let committed := fun tenant => (plans tenant).map tierValue
  ({ now, committed },
    { visible := fun _ tenant => (committed tenant).toList
      committed := fun tenant => (committed tenant).toList })

theorem start_consistent (rt : Runtime) (now : Int) (plans : Uuid → Option PricingTier) :
    Consistent rt (start now plans) where
  current := ⟨Nat.zero_le _,fun _ member => (nomatch member),fun _ _ found => (nomatch found)⟩
  recorded := by
    refine ⟨fun _ _ _ held => (nomatch held),?_,?_,?_,fun _ _ _ held => (nomatch held),?_⟩
    · intro session tenant plan now
      exact Option.mem_toList.mpr now
    · intro tenant missing
      exact Option.toList_eq_nil_iff.mpr missing
    · intro tenant plan now
      obtain ⟨tier,_,rfl⟩ := Option.map_eq_some_iff.mp now
      exact ⟨tier,rfl⟩
    · exact fun session tenant plan listed => listed
  explained := fun got listed => (nomatch listed)

/-- Every read of a run, and every first read of a session opened in it, gets the tier of a plan
committed since its session was opened exactly when each step publishes what is committed. -/
theorem coherent_iff (rt : Runtime) (now : Int) (plans : Uuid → Option PricingTier)
    (events : List Event) :
    Always (withHistory (exec rt) note) (Coherent rt) (start now plans) events ↔
      EachStep (withHistory (exec rt) note) (fun s event => PublishesCommitted s.1 event)
        (start now plans) events := by
  refine always_iff_eachStep _ _ _ (Consistent rt) (fun s kept => kept.coherent) ?_ ?_ _ _
    (start_consistent rt now plans)
  · rintro ⟨s,h⟩ event kept guarded
    exact ⟨kept.current.exec guarded,kept.recorded.exec kept.current guarded,
      kept.explained.exec kept.recorded kept.current guarded⟩
  · rintro ⟨s,h⟩ event kept diverges law
    exact diverges (exec_diverges kept.current law.opening)

def readBeforeCommit : List Event :=
  [.syncTenantPlan 0 1 (.text "pro"),.getTenantTier 1 (.id 1),.answerLookup 1 false,.finishLookup 1,
    .commit 0,.openSession 2,.getTenantTier 2 (.id 1)]

def plainRuntime : Runtime := ⟨.asciiOnly,fun _ => ""⟩

/-- The session opened after the commit still gets the free tier. -/
theorem committed_plan_missed :
    ¬Always (withHistory (exec plainRuntime) note) (Coherent plainRuntime)
      (start 0 fun _ => some .free) readBeforeCommit := by
  intro always
  have last := always.2.2.2.2.2.2.2.newer ⟨some 1,.free,["pro"],["free","pro"],false⟩
    (List.mem_of_getElem? (i := 1) rfl)
  rcases last with ⟨plan,listed,assigned⟩ | ⟨_,empty | fails⟩
  · cases List.mem_singleton.mp listed
    revert assigned
    simp only [Assigned]
    decide
  · contradiction
  · contradiction

end Valdrics.TenantTier

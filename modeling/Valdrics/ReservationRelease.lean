import Valdrics.CreditConservation

/-! The operations that release reservations, over all the rows of the store: they add no
decision, and no sum over active decisions grows. -/
namespace Valdrics.Enforcement

theorem Decision.ReleasedTo.trans {first second third : Decision}
    (before : first.ReleasedTo second) (after : second.ReleasedTo third) :
    first.ReleasedTo third := by
  unfold ReleasedTo at *
  rw [after, before]
  rfl

/-- No decision is added, and the rows outside the ids given stay as they are. -/
structure ReleasesOnly (among : Uuid → Prop) (store next : Store) : Prop where
  same : SameTenant store next
  rows : ∀ id row, next.decisions.find id = some row → store.decisions.find id = some row ∨
    (among id ∧ ∃ before, store.decisions.find id = some before ∧ before.ReleasedTo row)
  kept : ∀ id, ¬among id → next.decisions.find id = store.decisions.find id
  total : ∀ weight : Decision → Int,
    (∀ id row, store.decisions.find id = some row → 0 ≤ weight row) →
    (∀ row, row.reservationActive = false → weight row = 0) →
    (next.decisions.total fun _ row => weight row) ≤ store.decisions.total fun _ row => weight row

namespace ReleasesOnly

variable {among : Uuid → Prop} {store next last : Store}

theorem refl (among : Uuid → Prop) (store : Store) : ReleasesOnly among store store :=
  ⟨⟨rfl,rfl,rfl,rfl⟩,fun _ _ found => Or.inl found,fun _ _ => rfl,fun _ _ _ => le_rfl⟩

theorem trans (first : ReleasesOnly among store next) (second : ReleasesOnly among next last) :
    ReleasesOnly among store last := by
  have same : SameTenant store last :=
    ⟨second.same.tenantId.trans first.same.tenantId,
      second.same.tenantTier.trans first.same.tenantTier,
      second.same.policy.trans first.same.policy,second.same.budgets.trans first.same.budgets⟩
  refine ⟨same,?_,fun id out => (second.kept id out).trans (first.kept id out),?_⟩
  · intro id row found
    rcases second.rows id row found with unchanged | ⟨listed,middle,earlier,released⟩
    · exact first.rows id row unchanged
    · rcases first.rows id middle earlier with unchanged | ⟨_,before,there,once⟩
      · exact Or.inr ⟨listed,middle,unchanged,released⟩
      · exact Or.inr ⟨listed,before,there,once.trans released⟩
  · intro weight nonneg inactive
    refine le_trans (second.total weight ?_ inactive) (first.total weight nonneg inactive)
    intro id row found
    rcases first.rows id row found with unchanged | ⟨_,_,_,released⟩
    · exact nonneg id row unchanged
    · exact (inactive row released.reservationActive).ge

theorem mono {among' : Uuid → Prop} (releases : ReleasesOnly among store next)
    (wider : ∀ id, among id → among' id) : ReleasesOnly among' store next := by
  refine ⟨releases.same,?_,fun id out => releases.kept id fun listed => out (wider id listed),
    releases.total⟩
  intro id row found
  rcases releases.rows id row found with unchanged | ⟨listed,released⟩
  · exact Or.inl unchanged
  · exact Or.inr ⟨wider id listed,released⟩

theorem active (releases : ReleasesOnly among store next) {id : Uuid} {row : Decision}
    (found : next.decisions.find id = some row) (active : row.reservationActive = true) :
    store.decisions.find id = some row := by
  rcases releases.rows id row found with unchanged | ⟨_,_,_,released⟩
  · exact unchanged
  · rw [released.reservationActive] at active
    contradiction

theorem effectiveBudget (releases : ReleasesOnly among store next) (scope : String) :
    next.getEffectiveBudget scope = store.getEffectiveBudget scope := by
  simp only [Store.getEffectiveBudget,releases.same.budgets]

end ReleasesOnly

theorem Release.releasesOnly {store next : Store} {decisionId : Uuid} {before after : Decision}
    {consumed : Int} {now : Nat}
    (release : Release store next decisionId before after consumed now) :
    ReleasesOnly (· = decisionId) store next := by
  refine ⟨release.same,?_,fun id other => release.decisions.other other,?_⟩
  · intro id row found
    by_cases same : id = decisionId
    · subst same
      obtain rfl := Option.some.inj (release.decisions.found.symm.trans found)
      exact Or.inr ⟨rfl,before,release.decisions.was,release.released⟩
    · rw [release.decisions.other same] at found
      exact Or.inl found
  · intro weight nonneg inactive
    have moved := release.decisions.total fun _ row => weight row
    have was := nonneg decisionId before release.decisions.was
    have now := inactive after release.released.reservationActive
    omega

namespace Service

variable {service : Service} {store next : Store}

theorem overdueLoop_cons {call : OverdueCall} {decisionId : Uuid} {decision : Decision}
    {rest : List (Uuid × Decision)} {last : Store} {result : List Uuid × Int}
    (looped : service.overdueLoop call ((decisionId,decision) :: rest) store = .ok (last,result)) :
    ∃ middle result', service.releaseOverdue store call decisionId decision = .ok middle ∧
      service.overdueLoop call rest middle = .ok (last,result') := by
  obtain ⟨middle,released,after⟩ := bind_eq_ok.mp looped
  obtain ⟨⟨last',result'⟩,continued,returned⟩ := bind_eq_ok.mp after
  obtain ⟨rfl,_⟩ := Prod.mk.inj (Except.ok.inj returned)
  exact ⟨middle,result',released,continued⟩

/-- The sweep releases what it listed. The list names each decision once, so a row is as
listed when its turn comes. -/
theorem overdueLoop_releases {call : OverdueCall} {rows : List (Uuid × Decision)} {last : Store}
    {result : List Uuid × Int}
    (listed : ∀ entry ∈ rows, store.decisions.find entry.1 = some entry.2)
    (distinct : (rows.map Prod.fst).Nodup)
    (looped : service.overdueLoop call rows store = .ok (last,result)) :
    ReleasesOnly (· ∈ rows.map Prod.fst) store last ∧ last.approvals = store.approvals := by
  induction rows generalizing store result with
  | nil =>
    obtain ⟨rfl,_⟩ := Prod.mk.inj (Except.ok.inj looped)
    exact ⟨.refl _ store,rfl⟩
  | cons entry rest ih =>
    obtain ⟨id,decision⟩ := entry
    have unique := List.nodup_cons.mp distinct
    obtain ⟨middle,_,released,continued⟩ := overdueLoop_cons looped
    obtain ⟨after,release,approvals⟩ :=
      releaseOverdue_eq_ok (listed (id,decision) List.mem_cons_self) released
    obtain ⟨later,sameApprovals⟩ := ih (by
      intro e member
      have apart : e.1 ≠ id := by
        intro same
        exact unique.1 (List.mem_map.mpr ⟨e,member,same⟩)
      rw [release.decisions.other apart]
      exact listed e (List.mem_cons_of_mem _ member)) unique.2 continued
    refine ⟨(release.releasesOnly.mono ?_).trans (later.mono ?_),sameApprovals.trans approvals⟩
    · rintro other rfl
      exact List.mem_cons_self
    · intro other member
      exact List.mem_cons_of_mem _ member

theorem reconcileOverdue_releases {call : OverdueCall}
    {outcome : Except Fault OverdueReservationReconciliationResult}
    (swept : service.reconcileOverdueReservations store call = (next,outcome)) :
    ReleasesOnly (· ∈ (overdueDecisions store call).map Prod.fst) store next ∧
      next.approvals = store.approvals := by
  rcases transaction_cases swept with ⟨rfl,_⟩ | ⟨value,body,_⟩
  · exact ⟨.refl _ next,rfl⟩
  · obtain ⟨⟨last,ids,total⟩,looped,returned⟩ := bind_eq_ok.mp body
    obtain ⟨rfl,_⟩ := Prod.mk.inj (Except.ok.inj returned)
    exact overdueLoop_releases (fun entry member => (overdueDecisions_listed entry member).1)
      (overdueDecisions_distinct store call) looped

theorem reconcileReservation_releases {call : ReconcileCall}
    {outcome : Except Fault ReservationReconciliationResult}
    (reconciled : service.reconcileReservation store call = (next,outcome)) :
    ReleasesOnly (· = call.decisionId) store next ∧ next.approvals = store.approvals := by
  rcases reconcileReservation_cases reconciled with rfl | ⟨_,_,_,_,release,approvals⟩
  · exact ⟨.refl _ next,rfl⟩
  · exact ⟨release.releasesOnly,approvals⟩

theorem denyRequest_releases {call : ReviewCall} {outcome : Except Fault Uuid}
    (denied : service.denyRequest store call = (next,outcome)) :
    ReleasesOnly (fun id => ∃ approval, store.approvals.find call.approvalId = some approval ∧
      approval.decisionId = id) store next := by
  rcases denyRequest_cases denied with ⟨rfl,_⟩ | ⟨approval,_,_,_,stored,_,_,_,release,_⟩
  · exact .refl _ next
  · refine release.releasesOnly.mono ?_
    rintro id rfl
    exact ⟨approval,stored,rfl⟩

end Service

end Valdrics.Enforcement

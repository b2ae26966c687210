import Valdrics.GateConcurrency
import Valdrics.ReservationRelease
import Valdrics.ReservedTotals

/-! Budgets under concurrency. Whatever gates and releases interleave, no scope's active
reservations of a month pass its limit: the holder of the policy row knows how much is
reserved, others can only release, and a grant row is drawn by the party that locked it. -/
namespace Valdrics.Enforcement

namespace Store

def scopeAllocationIn (service : Service) (store : Store) (scope : String) (month : Nat) : Int :=
  store.decisions.total fun _ decision =>
    if decision.activeIn month ∧ service.normalizeScope decision.projectId = scope then
      decision.reservedAllocationUsd else 0

end Store

section Safety

variable {service : Service} {month : Nat} {shared before after : SharedState}

structure WithinBudgets (service : Service) (month : Nat) (shared : SharedState) : Prop where
  begun : month ≤ Calendar.monthOf shared.clock
  conserved : shared.committed.CreditConserved
  counted : ∀ id row, shared.committed.decisions.find id = some row →
    row.reservationActive = true → month ≤ Calendar.monthOf row.createdAt →
    row.createdAt ≤ shared.clock ∧ 0 ≤ row.reservedAllocationUsd
  within : ∀ scope budget later, month ≤ later →
    shared.committed.getEffectiveBudget scope = some budget →
    shared.committed.scopeAllocationIn service scope later ≤ budget.monthlyLimitUsd

structure Timed (month : Nat) (shared : SharedState) (call : GateCall) : Prop where
  begun : month ≤ Calendar.monthOf call.now
  past : call.now ≤ shared.clock
  latest : ∀ id row, shared.committed.decisions.find id = some row →
    row.reservationActive = true → month ≤ Calendar.monthOf row.createdAt →
    row.createdAt ≤ call.now

structure ReadTotals (service : Service) (shared : SharedState) (call : GateCall)
    (readings : Readings) : Prop where
  nonneg : 0 ≤ readings.reservedTotals.1
  covers : shared.committed.reservedAllocationIn (Calendar.monthOf call.now) ≤
    readings.reservedTotals.1
  effective : ∀ budget, readings.budget = some budget →
    shared.committed.getEffectiveBudget (service.normalizeScope call.gateInput.projectId) = budget

structure Fits (service : Service) (month : Nat) (shared : SharedState) (call : GateCall)
    (draft : GateDraft) : Prop where
  timed : Timed month shared call
  sound : draft.Sound
  created : draft.decision.createdAt = call.createdAt
  notEarlier : call.now ≤ call.createdAt
  notLater : call.createdAt ≤ shared.clock
  room : ∀ budget, shared.committed.getEffectiveBudget
      (service.normalizeScope draft.decision.projectId) = some budget →
    0 < draft.decision.reservedAllocationUsd →
    shared.committed.reservedAllocationIn (Calendar.monthOf call.now) +
        draft.decision.reservedAllocationUsd ≤ budget.monthlyLimitUsd ∧
      draft.decision.reservedAllocationUsd ≤ budget.monthlyLimitUsd

def Current (rows : List (Uuid × CreditGrant)) (shared : SharedState) : Prop :=
  ∀ entry ∈ rows, shared.committed.grants.find entry.1 = some entry.2

def Phase.Holds (service : Service) (month : Nat) (shared : SharedState) : Phase → Prop
  | .idle | .waiting _ _ | .locked _ _ => True
  | .timed call _ => Timed month shared call
  | .reading call _ readings => Timed month shared call ∧ ReadTotals service shared call readings
  | .inserted call _ draft => Fits service month shared call draft
  | .drawing call _ draft reserved =>
    Fits service month shared call draft ∧ Current reserved.rows shared
  | .writing call _ draft reserved emergency =>
    Fits service month shared call draft ∧ Current reserved.rows shared ∧
      Current emergency.rows shared

structure Quiet (before after : SharedState) : Prop where
  clock : before.clock ≤ after.clock
  releases : ReleasesOnly (fun _ => True) before.committed after.committed
  conserved : before.committed.CreditConserved → after.committed.CreditConserved

namespace Quiet

theorem refl (shared : SharedState) : Quiet shared shared :=
  ⟨le_rfl,.refl _ _,id⟩

theorem ofTick {clock : Nat} (later : shared.clock ≤ clock) :
    Quiet shared ⟨shared.committed,clock⟩ := ⟨later,.refl _ _,id⟩

theorem ofRelease {among : Uuid → Prop} {next : Store}
    (releases : ReleasesOnly among shared.committed next)
    (conserved : shared.committed.CreditConserved → next.CreditConserved) :
    Quiet shared ⟨next,shared.clock⟩ :=
  ⟨le_rfl,releases.mono fun _ _ => trivial,conserved⟩

theorem total_le (quiet : Quiet before after) (within : WithinBudgets service month before)
    {later : Nat} (from_ : month ≤ later) (keep : Decision → Bool) :
    (after.committed.decisions.total fun _ row =>
        if row.activeIn later ∧ keep row then row.reservedAllocationUsd else 0) ≤
      before.committed.decisions.total fun _ row =>
        if row.activeIn later ∧ keep row then row.reservedAllocationUsd else 0 := by
  apply quiet.releases.total
  · intro id row found
    split
    · next counted =>
      simp only [Decision.activeIn,Bool.and_eq_true,decide_eq_true_eq] at counted
      obtain ⟨⟨active,created⟩,_⟩ := counted
      exact (within.counted id row found active (by omega)).2
    · exact le_rfl
  · intro row inactive
    simp [Decision.activeIn,inactive]

theorem scope_le (quiet : Quiet before after) (within : WithinBudgets service month before)
    {later : Nat} (from_ : month ≤ later) (scope : String) :
    after.committed.scopeAllocationIn service scope later ≤
      before.committed.scopeAllocationIn service scope later := by
  have le := quiet.total_le within from_ fun row => service.normalizeScope row.projectId = scope
  simpa [Store.scopeAllocationIn] using le

theorem reserved_le (quiet : Quiet before after) (within : WithinBudgets service month before)
    {later : Nat} (from_ : month ≤ later) :
    after.committed.reservedAllocationIn later ≤ before.committed.reservedAllocationIn later := by
  have le := quiet.total_le within from_ fun _ => true
  simpa [Store.reservedAllocationIn] using le

theorem withinBudgets (quiet : Quiet before after) (within : WithinBudgets service month before) :
    WithinBudgets service month after := by
  refine ⟨?_,quiet.conserved within.conserved,?_,?_⟩
  · exact within.begun.trans (Calendar.monthOf_mono quiet.clock)
  · intro id row found active from_
    have known := within.counted id row (quiet.releases.active found active) active from_
    exact ⟨known.1.trans quiet.clock,known.2⟩
  · intro scope budget later from_ effective
    rw [quiet.releases.effectiveBudget] at effective
    exact (quiet.scope_le within from_ scope).trans (within.within scope budget later from_ effective)

theorem timed (quiet : Quiet before after) {call : GateCall} (timed : Timed month before call) :
    Timed month after call := by
  refine ⟨timed.begun,timed.past.trans quiet.clock,?_⟩
  intro id row found active from_
  exact timed.latest id row (quiet.releases.active found active) active from_

theorem readTotals (quiet : Quiet before after) (within : WithinBudgets service month before)
    {call : GateCall} {readings : Readings} (timed : Timed month before call)
    (read : ReadTotals service before call readings) : ReadTotals service after call readings := by
  refine ⟨read.nonneg,(quiet.reserved_le within timed.begun).trans read.covers,?_⟩
  intro budget known
  rw [quiet.releases.effectiveBudget]
  exact read.effective budget known

theorem fits (quiet : Quiet before after) (within : WithinBudgets service month before)
    {call : GateCall} {draft : GateDraft} (fits : Fits service month before call draft) :
    Fits service month after call draft := by
  obtain ⟨timed,sound,created,notEarlier,notLater,room⟩ := fits
  refine ⟨quiet.timed timed,sound,created,notEarlier,notLater.trans quiet.clock,?_⟩
  intro budget effective positive
  rw [quiet.releases.effectiveBudget] at effective
  have shrinks := quiet.reserved_le within timed.begun
  have before := room budget effective positive
  omega

/-- Another party's quiet step leaves what a phase knows, when it keeps the locked rows. -/
theorem holds (quiet : Quiet before after) (within : WithinBudgets service month before)
    {phase : Phase}
    (locked : ∀ entry ∈ phase.lockedGrants,
      after.committed.grants.find entry.1 = before.committed.grants.find entry.1)
    (holds : phase.Holds service month before) : phase.Holds service month after := by
  cases phase with
  | idle => trivial
  | waiting => trivial
  | locked => trivial
  | timed => exact quiet.timed holds
  | reading => exact ⟨quiet.timed holds.1,quiet.readTotals within holds.1 holds.2⟩
  | inserted => exact quiet.fits within holds
  | drawing _ _ _ reserved =>
    refine ⟨quiet.fits within holds.1,?_⟩
    intro entry member
    rw [locked entry member]
    exact holds.2 entry member
  | writing _ _ _ reserved emergency =>
    refine ⟨quiet.fits within holds.1,?_,?_⟩
    · intro entry member
      rw [locked entry (List.mem_append_left _ member)]
      exact holds.2.1 entry member
    · intro entry member
      rw [locked entry (List.mem_append_right _ member)]
      exact holds.2.2 entry member

end Quiet

theorem GateStep_cases {phase phase' : Phase} {event : GateEvent}
    (step : service.GateStep before phase event after phase') :
    Quiet before after ∨
    (∃ call context draft reserved emergency next approvalId,
      phase = .writing call context draft reserved emergency ∧ phase' = .idle ∧
      after = ⟨next,before.clock⟩ ∧
      service.persistBody before.committed context call draft
        (draft.drawLocked call.decisionId reserved emergency) = .ok (next,approvalId)) := by
  cases step with
  | tick later => exact Or.inl (.ofTick later)
  | commit written => exact Or.inr ⟨_,_,_,_,_,_,_,rfl,rfl,rfl,written⟩
  | reconcileReservation =>
    refine Or.inl (.ofRelease (Service.reconcileReservation_releases Prod.mk.eta.symm).1 ?_)
    exact fun conserved => Service.reconcileReservation_conserved conserved Prod.mk.eta.symm
  | @reconcileOverdueReservations call =>
    refine Or.inl (.ofRelease (Service.reconcileOverdue_releases Prod.mk.eta.symm).1 ?_)
    intro conserved
    obtain ⟨next,result,swept,kept⟩ := Service.reconcileOverdue_returns service conserved call
    rw [swept]
    exact kept
  | denyRequest =>
    refine Or.inl (.ofRelease (Service.denyRequest_releases Prod.mk.eta.symm) ?_)
    exact fun conserved => Service.denyRequest_conserved conserved Prod.mk.eta.symm
  | _ => exact Or.inl (.refl _)

section Commit

variable {call : GateCall} {context : GateEvaluationContext} {draft : GateDraft}
  {reserved : LockedRows .reserved} {emergency : LockedRows .emergency}

theorem Current.disjoint (first : Current reserved.rows shared)
    (second : Current emergency.rows shared) :
    ∀ entry ∈ emergency.rows, entry.1 ∉ reserved.rows.map Prod.fst := by
  intro entry member listed
  obtain ⟨other,there,same⟩ := List.mem_map.mp listed
  have one := first other there
  rw [same, second entry member] at one
  have pools : other.2.poolType = entry.2.poolType := by rw [Option.some.inj one]
  rw [reserved.pooled other there, emergency.pooled entry member] at pools
  contradiction

theorem GateDraft.drawLocked_frame {store next : Store} {decisionId : Uuid}
    {entries : List CreditAllocationEntry}
    (drawn : draft.drawLocked decisionId reserved emergency store = .ok (next,entries)) :
    Store.SameButCredit store next := by
  unfold drawLocked at drawn
  split at drawn
  · obtain ⟨⟨middle,_⟩,first,after⟩ := bind_eq_ok.mp drawn
    obtain ⟨⟨last,_⟩,second,returned⟩ := bind_eq_ok.mp after
    obtain ⟨rfl,_⟩ := Prod.mk.inj (Except.ok.inj returned)
    exact (Store.reserveFromRows_frame first).trans (Store.reserveFromRows_frame second)
  · obtain ⟨rfl,_⟩ := Prod.mk.inj (Except.ok.inj drawn)
    exact .refl store

theorem GateDraft.drawLocked_reserved {store next : Store} {decisionId : Uuid}
    {entries : List CreditAllocationEntry} (balance : store.CreditBalanced) (sound : draft.Sound)
    (grants : store.grants = shared.committed.grants) (first : Current reserved.rows shared)
    (second : Current emergency.rows shared)
    (drawn : draft.drawLocked decisionId reserved emergency store = .ok (next,entries)) :
    Store.Reserved store next decisionId
      (if draft.decision.reservationActive then draft.decision.reservedCreditUsd else 0) := by
  unfold drawLocked at drawn
  split at drawn
  · next draws =>
    simp only [GateDraft.draws,Bool.and_eq_true,decide_eq_true_eq] at draws
    obtain ⟨⟨middle,_⟩,one,after⟩ := bind_eq_ok.mp drawn
    obtain ⟨⟨last,_⟩,two,returned⟩ := bind_eq_ok.mp after
    obtain ⟨rfl,_⟩ := Prod.mk.inj (Except.ok.inj returned)
    have drawnFirst := Store.reserveFromRows_reserved balance (by rw [grants]; exact first)
      reserved.distinct sound.reservedNonneg one
    have listed : ∀ entry ∈ emergency.rows, middle.grants.find entry.1 = some entry.2 := by
      intro entry member
      rw [Store.reserveFromRows_grants (first.disjoint second entry member) one, grants]
      exact second entry member
    have drawnSecond := Store.reserveFromRows_reserved drawnFirst.balanced listed
      emergency.distinct sound.emergencyNonneg two
    rw [if_pos draws.1, sound.credit]
    exact drawnFirst.trans drawnSecond
  · next idle =>
    obtain ⟨rfl,_⟩ := Prod.mk.inj (Except.ok.inj drawn)
    have nothing : (if draft.decision.reservationActive then draft.decision.reservedCreditUsd
        else 0) = 0 := by
      split
      · next active =>
        simp only [GateDraft.draws,active,Bool.true_and,decide_eq_true_eq] at idle
        have reservedNonneg := sound.reservedNonneg
        have emergencyNonneg := sound.emergencyNonneg
        have credit := sound.credit
        omega
      · rfl
    rw [nothing]
    exact .refl balance decisionId

theorem WithinBudgets.scope_le_reserved (within : WithinBudgets service month shared)
    (scope : String) {later : Nat} (from_ : month ≤ later) :
    shared.committed.scopeAllocationIn service scope later ≤
      shared.committed.reservedAllocationIn later := by
  apply Table.total_le_total
  intro id row member
  by_cases counted : row.activeIn later = true
  · have facts := counted
    simp only [Decision.activeIn,Bool.and_eq_true,decide_eq_true_eq] at facts
    have known := within.counted id row (Table.find_eq_some_iff.mpr member) facts.1 (by omega)
    simp only [counted,true_and,if_true]
    split
    · exact le_rfl
    · exact known.2
  · simp [counted]

/-- Nothing is reserved yet in a month after the one a gate reads. -/
theorem Timed.scope_eq_zero (timed : Timed month shared call) (scope : String) {later : Nat}
    (from_ : month ≤ later) (ahead : Calendar.monthOf call.now < later) :
    shared.committed.scopeAllocationIn service scope later = 0 := by
  apply Table.total_eq_zero
  intro id row member
  apply if_neg
  rintro ⟨counted,_⟩
  simp only [Decision.activeIn,Bool.and_eq_true,decide_eq_true_eq] at counted
  have latest := timed.latest id row (Table.find_eq_some_iff.mpr member) counted.1 (by omega)
  have before := Calendar.monthOf_mono latest
  omega

theorem Fits.scope_room (fits : Fits service month shared call draft)
    (within : WithinBudgets service month shared) {budget : BudgetAllocation}
    (effective : shared.committed.getEffectiveBudget
      (service.normalizeScope draft.decision.projectId) = some budget)
    {later : Nat} (from_ : month ≤ later) (active : draft.decision.activeIn later = true) :
    shared.committed.scopeAllocationIn service (service.normalizeScope draft.decision.projectId)
      later + draft.decision.reservedAllocationUsd ≤ budget.monthlyLimitUsd := by
  have before := within.within _ budget later from_ effective
  by_cases positive : 0 < draft.decision.reservedAllocationUsd
  · obtain ⟨together,alone⟩ := fits.room budget effective positive
    simp only [Decision.activeIn,Bool.and_eq_true,decide_eq_true_eq,fits.created] at active
    have notBefore := Calendar.monthOf_mono fits.notEarlier
    by_cases same : Calendar.monthOf call.now = later
    · have most := within.scope_le_reserved (service.normalizeScope draft.decision.projectId) from_
      rw [same] at together
      omega
    · rw [fits.timed.scope_eq_zero _ from_ (by omega)]
      omega
  · omega

theorem PersistedBy.scopeAllocationIn {reserve : Service.ReserveCredits} {store next : Store}
    {approvalId : Option Uuid} (spec : PersistedBy reserve store next context call draft approvalId)
    (scope : String) (later : Nat) :
    next.scopeAllocationIn service scope later = store.scopeAllocationIn service scope later +
      if draft.decision.activeIn later ∧
        service.normalizeScope draft.decision.projectId = scope then
        draft.decision.reservedAllocationUsd else 0 :=
  spec.total (fun _ decision => if decision.activeIn later ∧
    service.normalizeScope decision.projectId = scope then decision.reservedAllocationUsd else 0)
    fun _ _ _ => rfl

theorem WithinBudgets.commit (within : WithinBudgets service month shared)
    (fits : Fits service month shared call draft) (first : Current reserved.rows shared)
    (second : Current emergency.rows shared) {next : Store} {approvalId : Option Uuid}
    (written : service.persistBody shared.committed context call draft
      (draft.drawLocked call.decisionId reserved emergency) = .ok (next,approvalId)) :
    WithinBudgets service month ⟨next,shared.clock⟩ := by
  have spec := Service.persistBody_eq_ok (fun _ _ _ => GateDraft.drawLocked_frame) written
  refine ⟨within.begun,?_,?_,?_⟩
  · exact within.conserved.persistedBy fits.sound (fun _ _ _ drawn =>
      GateDraft.drawLocked_reserved (within.conserved.balanced.congr rfl rfl) fits.sound rfl first
        second drawn) spec
  · intro id row found active from_
    obtain ⟨payload,finds⟩ := spec.inserted
    rw [finds] at found
    split at found
    · obtain rfl := Option.some.inj found
      refine ⟨?_,fits.sound.activeAllocation active⟩
      exact fits.created.le.trans fits.notLater
    · exact within.counted id row found active from_
  · intro scope budget later from_ effective
    have unchanged : shared.committed.getEffectiveBudget scope = some budget := by
      rw [← effective]
      simp only [Store.getEffectiveBudget,spec.budgets]
    rw [spec.scopeAllocationIn]
    split
    · next added =>
      obtain ⟨active,rfl⟩ := added
      exact fits.scope_room within unchanged from_ active
    · rw [add_zero]
      exact within.within scope budget later from_ unchanged

end Commit

section Outline

variable {call : GateCall} {context : GateEvaluationContext} {readings : Readings}

theorem WithinBudgets.reserved_nonneg (within : WithinBudgets service month shared) {later : Nat}
    (from_ : month ≤ later) : 0 ≤ shared.committed.reservedAllocationIn later := by
  apply Table.total_nonneg
  intro id row member
  split
  · next counted =>
    simp only [Decision.activeIn,Bool.and_eq_true,decide_eq_true_eq] at counted
    exact (within.counted id row (Table.find_eq_some_iff.mpr member) counted.1 (by omega)).2
  · exact le_rfl

/-- The lock is held and the clock just read: every counted row is in the past. -/
theorem WithinBudgets.timed (within : WithinBudgets service month shared) :
    Timed month shared { call with now := shared.clock } := by
  refine ⟨within.begun,le_rfl,?_⟩
  intro id row found active from_
  exact (within.counted id row found active from_).1

theorem WithinBudgets.readTotals (within : WithinBudgets service month shared)
    (timed : Timed month shared call) :
    ReadTotals service shared call
      { reservedTotals := shared.committed.getReservedTotals (monthBounds call.now) } := by
  have total := shared.committed.getReservedTotals_allocation call.now
  refine ⟨?_,total.ge,fun budget known => by simp at known⟩
  rw [total]
  exact within.reserved_nonneg timed.begun

theorem ReadTotals.fits (read : ReadTotals service shared call readings)
    (timed : Timed month shared call) {budget : Option BudgetAllocation}
    (funds : readings.budget = some budget) (tenantTier : PricingTier) (headrooms : Int × Int)
    (monthlyDelta : Int) (hourlyDelta : Option Int) :
    Fits service month shared { call with createdAt := shared.clock }
      (service.draftFrom context { call with createdAt := shared.clock }
        (service.gateReads context.policy readings.reservedTotals tenantTier budget headrooms)
        monthlyDelta hourlyDelta) := by
  refine ⟨⟨timed.begun,timed.past,timed.latest⟩,Service.draftFrom_sound _ _ _ _ _,rfl,timed.past,
    le_rfl,?_⟩
  intro limit effective positive
  obtain rfl : budget = some limit := (read.effective budget funds).symm.trans effective
  have budgeted : (service.gateReads context.policy readings.reservedTotals tenantTier (some limit)
      headrooms).budget = some limit := rfl
  have taken := Gate.assess_headroom budgeted context.policy context.mode
    (service.isProductionEnvironment context.normalizedEnv) call.gateInput.dryRun
    call.computedContext monthlyDelta
  have covers := read.covers
  have nonneg := read.nonneg
  simp only [Service.draftFrom,Service.gateReads] at taken positive ⊢
  omega

theorem lockCandidates_current (pool : CreditPoolType) (scope : String) (target : Int)
    (now : Nat) :
    Current (shared.committed.lockCandidates pool scope target now).rows shared := by
  unfold Store.lockCandidates
  split
  · simp [Current]
  · exact Store.candidateGrants_listed

/-- A step keeps the invariant and establishes what its next phase knows. -/
theorem GateStep_own {phase phase' : Phase} {event : GateEvent}
    (within : WithinBudgets service month before) (holds : phase.Holds service month before)
    (step : service.GateStep before phase event after phase') :
    WithinBudgets service month after ∧ phase'.Holds service month after := by
  have kept : (∀ call context draft reserved emergency,
      phase ≠ .writing call context draft reserved emergency) →
      WithinBudgets service month after := by
    intro notWriting
    rcases GateStep_cases step with quiet | ⟨_,_,_,_,_,_,_,writing,_⟩
    · exact quiet.withinBudgets within
    · exact absurd writing (notWriting _ _ _ _ _)
  cases step with
  | tick later =>
    have quiet : Quiet before _ := .ofTick later
    exact ⟨quiet.withinBudgets within,quiet.holds within (fun _ _ => rfl) holds⟩
  | refuse => exact ⟨within,trivial⟩
  | replay => exact ⟨within,trivial⟩
  | begin => exact ⟨within,trivial⟩
  | acquireLock => exact ⟨within,trivial⟩
  | replayLocked => exact ⟨within,trivial⟩
  | reread => exact ⟨within,within.timed⟩
  | readTotals => exact ⟨within,holds,within.readTotals holds⟩
  | readTier => exact ⟨within,holds.1,⟨holds.2.nonneg,holds.2.covers,holds.2.effective⟩⟩
  | readBudget =>
    refine ⟨within,holds.1,⟨holds.2.nonneg,holds.2.covers,?_⟩⟩
    intro budget known
    exact Option.some.inj known
  | readHeadroomSum => exact ⟨within,holds.1,⟨holds.2.nonneg,holds.2.covers,holds.2.effective⟩⟩
  | insert _ funds => exact ⟨within,holds.2.fits holds.1 funds _ _ _ _⟩
  | lockReserved => exact ⟨within,holds,lockCandidates_current _ _ _ _⟩
  | lockEmergency => exact ⟨within,holds.1,holds.2,lockCandidates_current _ _ _ _⟩
  | commit written => exact ⟨within.commit holds.1 holds.2.1 holds.2.2 written,trivial⟩
  | fallBack => exact ⟨within,trivial⟩
  | rollback => exact ⟨within,trivial⟩
  | reconcileReservation => exact ⟨kept (by simp),trivial⟩
  | reconcileOverdueReservations => exact ⟨kept (by simp),trivial⟩
  | denyRequest => exact ⟨kept (by simp),trivial⟩

/-- Two phases that do not both hold the policy row. -/
def Phase.Compatible (one other : Phase) : Prop :=
  ¬(one.holdsLock = true ∧ other.holdsLock = true)

/-- A phase without the lock knows nothing that a commit could disturb. -/
theorem Phase.holds_of_unlocked {phase : Phase} (unlocked : phase.holdsLock = false) :
    phase.Holds service month shared := by
  cases phase with
  | idle => trivial
  | waiting => trivial
  | _ => simp [holdsLock] at unlocked

theorem gateOutline (service : Service) (month : Nat) :
    Interleaving.Outline service.gateProtocol (WithinBudgets service month)
      (Phase.Holds service month) Phase.Compatible where
  symmetric one other apart := fun both => apart both.symm
  own _ _ _ _ _ within holds step := GateStep_own within holds step
  exclusive _ _ _ _ _ _ _ permitted := fun both => permitted.1 both.symm
  undisturbed := by
    intro before phase event after phase' other within holds otherHolds apart step permitted
    rcases GateStep_cases step with quiet | ⟨_,_,_,_,_,_,_,writing,_⟩
    · exact quiet.holds within permitted.2 otherHolds
    · subst writing
      apply Phase.holds_of_unlocked
      simpa [Phase.Compatible,Phase.holdsLock] using apart

end Outline

/-- The month begins: no gate is under way and nothing active was created in it yet. -/
structure MonthOpens (month : Nat) (system : Interleaving.System ι SharedState Phase) : Prop where
  idle : ∀ party, system.phase party = .idle
  begun : month ≤ Calendar.monthOf system.shared.clock
  conserved : system.shared.committed.CreditConserved
  unreserved : ∀ id row, system.shared.committed.decisions.find id = some row →
    row.reservationActive = true → Calendar.monthOf row.createdAt < month

theorem MonthOpens.withinBudgets {system : Interleaving.System ι SharedState Phase}
    (opens : MonthOpens month system) : WithinBudgets service month system.shared := by
  refine ⟨opens.begun,opens.conserved,?_,?_⟩
  · intro id row found active from_
    have earlier := opens.unreserved id row found active
    omega
  · intro scope budget later from_ _
    have nothing : system.shared.committed.scopeAllocationIn service scope later = 0 := by
      apply Table.total_eq_zero
      intro id row member
      apply if_neg
      rintro ⟨counted,_⟩
      simp only [Decision.activeIn,Bool.and_eq_true,decide_eq_true_eq] at counted
      have earlier := opens.unreserved id row (Table.find_eq_some_iff.mpr member) counted.1
      omega
    rw [nothing]
    exact budget.limitNonneg

theorem MonthOpens.good {system : Interleaving.System ι SharedState Phase}
    (opens : MonthOpens month system) :
    Interleaving.Good (WithinBudgets service month) (Phase.Holds service month) Phase.Compatible
      system := by
  refine ⟨opens.withinBudgets,?_,?_⟩
  · intro party
    rw [opens.idle party]
    trivial
  · intro party other _
    simp [Phase.Compatible,opens.idle party,Phase.holdsLock]

variable [DecidableEq ι]

/-- In every state that gates and releases reach from the beginning of a month, each
scope's active reservations of that month or a later one are within its limit, no grant is
overdrawn, and a key names one decision. -/
theorem no_oversubscription (service : Service) (month : Nat)
    (system : Interleaving.System ι SharedState Phase)
    (reachable : Reachable (MonthOpens month) (Interleaving.Step service.gateProtocol) system) :
    (∀ scope budget later, month ≤ later →
      system.shared.committed.getEffectiveBudget scope = some budget →
      system.shared.committed.scopeAllocationIn service scope later ≤ budget.monthlyLimitUsd) ∧
    (∀ id grant, system.shared.committed.grants.find id = some grant →
      0 ≤ grant.remainingAmountUsd) ∧
    (∀ id id' decision decision', system.shared.committed.decisions.find id = some decision →
      system.shared.committed.decisions.find id' = some decision' →
      decision.idempotency = decision'.idempotency → id = id') := by
  have good := (gateOutline service month).reachable (fun _ opens => opens.good) reachable
  refine ⟨good.invariant.within,good.invariant.conserved.balanced.remainingNonneg,?_⟩
  intro id id' decision decision' found found' same
  have one := UniqueTable.lookup_eq_some_iff.mpr ⟨found,same⟩
  have other := UniqueTable.lookup_eq_some_iff.mpr ⟨found',rfl⟩
  exact (Prod.mk.inj (Option.some.inj (one.symm.trans other))).1

end Safety

namespace Sample

/-- One budget of a hundred dollars, and two requests of sixty for it. -/
def alphaBudget : Store := (service.run store (.upsertBudget (budget "alpha" 100))).1

def firstSixty : GateCall := gate 1 "alpha" "first" 60 0
def secondSixty : GateCall := gate 2 "alpha" "second" 60 0

theorem alphaBudget_opens :
    MonthOpens 0 (⟨⟨alphaBudget,0⟩,fun _ => .idle⟩ : Interleaving.System Bool SharedState Phase) := by
  have unused : alphaBudget.Unused := ⟨rfl,rfl,rfl,rfl⟩
  refine ⟨fun _ => rfl,Nat.zero_le _,unused.conserved,?_⟩
  intro id row found
  simp only [unused.decisions] at found
  contradiction

theorem evaluateGate_eq (start : Store) (call : GateCall)
    (returned : (service.evaluateGate start call).2.isOk = true) :
    ∃ result, service.evaluateGate start call = ((service.evaluateGate start call).1,.ok result) := by
  cases outcome : (service.evaluateGate start call).2 with
  | error fault => simp [outcome,Except.isOk,Except.toBool] at returned
  | ok result => exact ⟨result,Prod.ext rfl outcome⟩

end Sample

/-- Two parties, one after the other: sixty dollars are reserved and the rest denied. -/
theorem no_oversubscription_two_parties :
    ∃ system : Interleaving.System Bool SharedState Phase,
      system.shared.committed.scopeAllocationIn Sample.service "alpha" 0 = 60_0000 ∧
      ∀ budget, system.shared.committed.getEffectiveBudget "alpha" = some budget →
        system.shared.committed.scopeAllocationIn Sample.service "alpha" 0 ≤
          budget.monthlyLimitUsd := by
  obtain ⟨_,first⟩ := Sample.evaluateGate_eq Sample.alphaBudget Sample.firstSixty (by decide)
  obtain ⟨_,second⟩ := Sample.evaluateGate_eq
    (Sample.service.evaluateGate Sample.alphaBudget Sample.firstSixty).1 Sample.secondSixty
    (by decide)
  obtain ⟨_,left⟩ := Service.evaluateGate_alone rfl first
  obtain ⟨_,right⟩ := Service.evaluateGate_alone rfl second
  have permit : ∀ other before after next,
      Sample.service.gateProtocol.permits ((fun _ : Bool => Phase.idle) other) before after next := by
    simp [Service.gateProtocol,Phase.holdsLock,Phase.lockedGrants]
  have one := Interleaving.Step.ofSolo left fun other (_ : other ≠ true) => permit other
  have two := Interleaving.Step.ofSolo right fun other (_ : other ≠ false) => permit other
  simp only [Function.update_eq_self] at one two
  refine ⟨_,?_,fun budget => (no_oversubscription Sample.service 0 _
    ⟨_,_,Sample.alphaBudget_opens,one.trans two⟩).1 "alpha" budget 0 le_rfl⟩
  decide

end Valdrics.Enforcement

import Valdrics.SoloExecution

/-! The daily kill switch. The guard sums the completed requests before the action runs and
holds no lock across requests, so the bound survives exactly as long as each success is
committed on the sum its guard has read. -/
namespace Valdrics.Optimization

open Enforcement (Uuid bind_eq_ok flushed)

namespace RemediationPhase

/-- The `executed_at` of a row is written by a success only. -/
def KeepsExecutedAt : RemediationPhase → Prop
  | .finished _ copy written => written.status ≠ .completed → written.executedAt = copy.executedAt
  | phase => ∀ copy written, phase.rewrites = some (copy,written) →
    written.executedAt = copy.executedAt

def acting : RemediationPhase → Option (Uuid × RemediationRequest)
  | .writing execution _ _ written .execute _ => some (execution.requestId,written)
  | .executing execution copy | .invoked execution copy | .finished execution copy _ =>
    some (execution.requestId,copy)
  | _ => none

theorem KeepsExecutedAt.of_none {phase : RemediationPhase} (nothing : phase.rewrites = none) :
    phase.KeepsExecutedAt := by
  cases phase with
  | finished => simp [rewrites] at nothing
  | _ =>
    intro copy written rewritten
    simp [nothing] at rewritten

end RemediationPhase

@[simp] theorem returned_acting {caller : Caller} {status : RemediationStatus} :
    (caller.returned status).acting = none := by
  cases caller <;> rfl

@[simp] theorem raised_acting {caller : Caller} {message : String} :
    (caller.raised message).acting = none := by
  cases caller <;> rfl

structure KeepsCompleted (s : Remediation) (phase : RemediationPhase) (event : RemediationEvent) :
    Prop where
  fresh : event = .commit → ∀ id f row, phase.writes = some (id,f) →
    s.store.requests.find id = some row → row.status ≠ .completed
  recorded : ∀ execution copy written message, phase = .finished execution copy written →
    event = .raise message → written.status ≠ .completed

def RemediationPhase.Succeeds (phase : RemediationPhase) (event : RemediationEvent)
    (written : RemediationRequest) : Prop :=
  event = .commit ∧ ∃ execution copy, phase = .finished execution copy written ∧
    written.status = .completed

/-- Rows with `executed_at` are completed. -/
def Remediation.Counted (s : Remediation) : Prop :=
  ∀ id row, s.store.requests.find id = some row → row.executedAt ≠ none → row.status = .completed

theorem Remediation.Counted.impact {s : Remediation} (counted : s.Counted) (day : Int) :
    s.completedImpact day = s.executedImpact day := by
  apply Table.total_congr
  intro id row member
  have found := Table.find_eq_some_iff.mpr member
  by_cases executed : row.executedOn day = true
  · have completed : row.status = .completed := by
      apply counted id row found
      intro none_
      simp [RemediationRequest.executedOn,none_] at executed
    simp [completed,executed]
  · simp [executed]

namespace RemediationRuntime

open RemediationPhase (KeepsExecutedAt)

variable {runtime : RemediationRuntime} {s t : Remediation} {phase next : RemediationPhase}
  {event : RemediationEvent}

theorem Step.keepsExecutedAt (taken : runtime.Step s phase event t next)
    (keeps : phase.KeepsExecutedAt) (completed : KeepsCompleted s phase event) :
    next.KeepsExecutedAt := by
  cases taken with
  | review found reviewed =>
    rintro copy written same
    obtain ⟨rfl,rfl⟩ := Prod.mk.inj (Option.some.inj same)
    exact (review_keeps reviewed).2
  | check checked =>
    rintro copy written same
    obtain ⟨rfl,rfl⟩ := Prod.mk.inj (Option.some.inj same)
    exact (checkExecution_writes checked).2.executedAt
  | refused | raiseChecking | raiseExecuting | raiseInvoked | approve =>
    rintro copy written same
    obtain ⟨rfl,rfl⟩ := Prod.mk.inj (Option.some.inj same)
    rfl
  | raiseWriting =>
    rintro copy written same
    obtain ⟨rfl,rfl⟩ := Prod.mk.inj (Option.some.inj same)
    have kept := keeps _ _ rfl
    exact kept
  | raiseFinished =>
    rintro copy written same
    obtain ⟨rfl,rfl⟩ := Prod.mk.inj (Option.some.inj same)
    exact keeps (completed.recorded _ _ _ _ rfl rfl)
  | @finish s execution copy result now =>
    intro failed
    cases outcome : result.status with
    | success => simp [RemediationRequest.applyExecutionResult,outcome] at failed
    | skipped => simp [RemediationRequest.applyExecutionResult,outcome]
    | failed => simp [RemediationRequest.applyExecutionResult,outcome]
  | deferred | invalidProvider | scheduled | refresh => exact .of_none (by simp)
  | _ => exact .of_none rfl

/-- What a write that is not a success leaves of `executed_at`. -/
theorem writes_executedAt {id : Uuid} {f : RemediationRequest → RemediationRequest}
    (keeps : phase.KeepsExecutedAt) (writes : phase.writes = some (id,f))
    (failed : ∀ written, ¬phase.Succeeds .commit written) (row : RemediationRequest) :
    (f row).executedAt = row.executedAt := by
  have kept {copy written : RemediationRequest} (same : written.executedAt = copy.executedAt) :
      (row.flush copy written).executedAt = row.executedAt := by
    simp [RemediationRequest.flush,flushed,same]
  cases phase with
  | idle | loaded | fetched | handling | opened | checking | executing | invoked | returning
  | reporting | sweeping => simp [RemediationPhase.writes] at writes
  | failingExpired execution message restored =>
    obtain ⟨rfl,rfl⟩ := Prod.mk.inj (Option.some.inj writes)
    rfl
  | finished execution copy written =>
    obtain ⟨rfl,rfl⟩ := Prod.mk.inj (Option.some.inj writes)
    apply kept
    apply keeps
    intro completed
    exact failed written ⟨rfl,execution,copy,rfl,completed⟩
  | reviewing | approving | writing | failing | failingLate =>
    obtain ⟨rfl,rfl⟩ := Prod.mk.inj (Option.some.inj writes)
    exact kept (keeps _ _ rfl)

theorem Created.unexecuted {store : RemediationStore} {row : RemediationRequest}
    (created : Created runtime store row) : row.executedAt = none := by
  cases created with
  | create made =>
    obtain ⟨_,_,afterProvider⟩ := bind_eq_ok.mp made
    obtain ⟨_,_,afterConnection⟩ := bind_eq_ok.mp afterProvider
    obtain ⟨_,_,result⟩ := bind_eq_ok.mp afterConnection
    obtain rfl := Except.ok.inj result
    rfl
  | fromFinding made =>
    obtain ⟨_,_,afterFinding⟩ := bind_eq_ok.mp made
    obtain ⟨_,_,afterProvider⟩ := bind_eq_ok.mp afterFinding
    obtain ⟨_,_,afterConnection⟩ := bind_eq_ok.mp afterProvider
    obtain ⟨_,_,result⟩ := bind_eq_ok.mp afterConnection
    obtain rfl := Except.ok.inj result
    rfl

/-- The row that a success completes was not counted before, and is counted on the day of
its `executed_at` at most. -/
def Completion (s t : Remediation) (phase : RemediationPhase) (written : RemediationRequest) :
    Prop :=
  ∀ day, t.executedImpact day = s.executedImpact day ∨
    (written.executedOn day = true ∧ ∃ id copy row, phase.acting = some (id,copy) ∧
      s.store.requests.find id = some row ∧
      t.executedImpact day = s.executedImpact day + row.savings)

section Write

variable {id : Uuid} {f : RemediationRequest → RemediationRequest} {row : RemediationRequest}

theorem unexecuted_row (counted : s.Counted) (completed : KeepsCompleted s phase .commit)
    (writes : phase.writes = some (id,f)) (found : s.store.requests.find id = some row) :
    row.executedAt = none := by
  by_contra executed
  exact completed.fresh rfl id f row writes found (counted id row found executed)

theorem counted_update (counted : s.Counted) (found : s.store.requests.find id = some row)
    (updated : t.store.requests = s.store.requests.update id f)
    (status : (f row).executedAt ≠ none → (f row).status = .completed) : t.Counted := by
  intro other there found' executed
  rw [updated, Table.find_update] at found'
  by_cases here : other = id
  · simp only [here,if_true,found,Option.map_some,Option.some.injEq] at found'
    subst found'
    exact status executed
  · exact counted other there (by simpa [here] using found') executed

/-- The write of a row without `executed_at` adds its savings to the day it is executed on. -/
theorem impact_update (writes : phase.writes = some (id,f))
    (found : s.store.requests.find id = some row) (unexecuted : row.executedAt = none)
    (updated : t.store.requests = s.store.requests.update id f) (day : Int) :
    t.executedImpact day = s.executedImpact day +
      if (f row).executedOn day = true then row.savings else 0 := by
  have sum := Table.total_update
    (fun _ row => if row.executedOn day = true then row.savings else 0) f found
  have before : row.executedOn day = false := by
    simp [RemediationRequest.executedOn,unexecuted]
  have savings : (f row).savings = row.savings :=
    congrArg (fun columns : FixedColumns => columns.estimatedMonthlySavings.getD 0)
      (RemediationPhase.writes_fixed writes row)
  simp only [before,Bool.false_eq_true,if_false,savings] at sum
  unfold Remediation.executedImpact
  rw [updated]
  omega

theorem flush_executedOn {copy written : RemediationRequest} {day : Int}
    (unexecuted : row.executedAt = none)
    (executed : (row.flush copy written).executedOn day = true) : written.executedOn day = true := by
  by_cases same : written.executedAt = copy.executedAt
  · simp [RemediationRequest.flush,flushed,same,unexecuted,RemediationRequest.executedOn] at executed
  · simpa [RemediationRequest.flush,flushed,same,RemediationRequest.executedOn] using executed

end Write

theorem Step.impact (taken : runtime.Step s phase event t next) (counted : s.Counted)
    (keeps : phase.KeepsExecutedAt) (completed : KeepsCompleted s phase event)
    (running : ∀ id copy, phase.acting = some (id,copy) → copy.status = .executing) :
    t.Counted ∧ ((∀ day, t.executedImpact day = s.executedImpact day) ∨
      ∃ written, phase.Succeeds event written ∧ Completion s t phase written) := by
  cases taken.requests with
  | kept same =>
    refine ⟨fun id row found => counted id row (same ▸ found),Or.inl fun day => ?_⟩
    simp [Remediation.executedImpact,same]
  | @inserted row requestId created inserted =>
    have unexecuted := created.unexecuted
    constructor
    · intro id other found executed
      rw [Table.find_insert inserted] at found
      by_cases here : id = requestId
      · simp only [here,if_true,Option.some.injEq] at found
        subst found
        exact absurd unexecuted executed
      · exact counted id other (by simpa [here] using found) executed
    · refine Or.inl fun day => ?_
      simp [Remediation.executedImpact,Table.total_insert inserted,RemediationRequest.executedOn,
        unexecuted]
  | @written requestId f commits writes updated =>
    subst commits
    cases found : s.store.requests.find requestId with
    | none =>
      rw [Table.update_absent f found] at updated
      refine ⟨fun id row there => counted id row (updated ▸ there),Or.inl fun day => ?_⟩
      simp [Remediation.executedImpact,updated]
    | some row =>
      have unexecuted := unexecuted_row counted completed writes found
      have added := impact_update writes found unexecuted updated
      by_cases success : ∃ written, phase.Succeeds .commit written
      · obtain ⟨written,_,execution,copy,rfl,status⟩ := success
        obtain ⟨rfl,rfl⟩ := Prod.mk.inj (Option.some.inj writes)
        have moved : written.status ≠ copy.status := by
          rw [status, running _ copy rfl]
          simp
        refine ⟨counted_update counted found updated fun _ => ?_,
          Or.inr ⟨written,⟨rfl,execution,copy,rfl,status⟩,fun day => ?_⟩⟩
        · rw [RemediationRequest.flush_status moved, status]
        · by_cases executed : (row.flush copy written).executedOn day = true
          · exact Or.inr ⟨flush_executedOn unexecuted executed,execution.requestId,copy,row,rfl,found,
              by simpa [executed] using added day⟩
          · exact Or.inl (by simpa [executed] using added day)
      · have after : (f row).executedAt = none :=
          (writes_executedAt keeps writes (fun written succeeds => success ⟨written,succeeds⟩)
            row).trans unexecuted
        refine ⟨counted_update counted found updated fun executed => absurd after executed,
          Or.inl fun day => ?_⟩
        simpa [RemediationRequest.executedOn,after] using added day

theorem Step.acting (taken : runtime.Step s phase event t next) {id : Uuid}
    {acted : RemediationRequest} (acting : next.acting = some (id,acted)) :
    phase.acting = some (id,acted) ∨
      ∃ env execution copy row, event = .check env ∧ phase = .checking execution copy row ∧
        env.guards = .ok () ∧ acted.fixed = copy.fixed ∧ acted.status = .executing := by
  cases taken with
  | @check copy env written write s execution row checked =>
    cases write with
    | execute =>
      obtain ⟨rfl,rfl⟩ := Prod.mk.inj (Option.some.inj acting)
      have facts := checkExecution_writes checked
      exact Or.inr ⟨env,execution,copy,row,rfl,rfl,facts.1,facts.2.fixed,
        (checkExecution_eq_write checked).status⟩
    | block | escalate | schedule => simp [RemediationPhase.acting] at acting
  | started | invoke | finish => exact Or.inl acting
  | deferred | invalidProvider | scheduled | refresh => simp at acting
  | _ => simp [RemediationPhase.acting] at acting

end RemediationRuntime

namespace Estate

variable {estate : Estate} {tenant : Uuid} {s t : Remediation} {scope : KillSwitchScope}

theorem executedImpact_update (there : estate.tenants.find tenant = some s) (day : Int)
    (asker : Uuid) (failures : List (Uuid × Uuid)) (increase : Int)
    (impact : t.executedImpact day = s.executedImpact day + increase) :
    (Estate.mk (estate.tenants.update tenant fun _ => t) failures).executedImpact scope asker day =
      estate.executedImpact scope asker day + if scope.covers asker tenant then increase else 0 := by
  have sum := Table.total_update
    (fun other s => if scope.covers asker other then s.executedImpact day else 0) (fun _ => t) there
  unfold Estate.executedImpact
  by_cases covers : scope.covers asker tenant = true
  · simp only [covers,if_true,impact] at sum
    simp only [covers,if_true]
    omega
  · simp only [covers,Bool.false_eq_true,if_false] at sum
    simp only [covers,Bool.false_eq_true,if_false]
    omega

end Estate

/-- When a success is committed, its guard's sum is the day's: it falls on the day that the
guard read, no other success of that day was committed since, and no statement rewrites a
completed request. -/
structure KillSwitchCurrent (runtime : RemediationRuntime) (settings : SafetySettings)
    (estate : Estate) (session : SafetySession) (event : RemediationEvent) : Prop where
  completed : ∀ s, estate.tenants.find session.tenant = some s →
    KeepsCompleted s session.phase event
  steady : ∀ written reading, session.phase.Succeeds event written →
    session.reading = some reading → written.executedAt.map utcDay = some reading.day ∧
      estate.completedImpact (runtime.killSwitchScope settings) session.tenant reading.day ≤
        reading.impact

namespace SafetySettings

def Permits (settings : SafetySettings) (cents : Int) : Prop :=
  (cents : ℚ) / 100 < settings.remediationKillSwitchThreshold.value

theorem Permits.mono {settings : SafetySettings} {less more : Int} (permits : settings.Permits more)
    (le : less ≤ more) : settings.Permits less := by
  have cast : (less : ℚ) ≤ more := by exact_mod_cast le
  unfold Permits at *
  linarith

end SafetySettings

structure WithinThreshold (runtime : RemediationRuntime) (settings : SafetySettings)
    (estate : Estate) : Prop where
  counted : ∀ tenant s, estate.tenants.find tenant = some s → s.Counted
  below : ∀ tenant day, settings.Permits
    (estate.executedImpact (runtime.killSwitchScope settings) tenant day)

structure SafetySession.Guarded (settings : SafetySettings) (estate : Estate)
    (session : SafetySession) : Prop where
  keepsFixed : session.phase.KeepsFixed
  keepsExecutedAt : session.phase.KeepsExecutedAt
  running : ∀ id copy, session.phase.acting = some (id,copy) → copy.status = .executing
  copies : ∀ s, estate.tenants.find session.tenant = some s →
    ∀ entry ∈ session.phase.copies, s.KnowsFixed entry
  allowed : ∀ id copy, session.phase.acting = some (id,copy) → ∃ reading,
    session.reading = some reading ∧ settings.Permits (reading.impact + copy.savings)

theorem RemediationRequest.savings_eq {a b : RemediationRequest} (same : a.fixed = b.fixed) :
    a.savings = b.savings :=
  congrArg (fun columns : FixedColumns => columns.estimatedMonthlySavings.getD 0) same

theorem WithinThreshold.impact {runtime : RemediationRuntime} {settings : SafetySettings}
    {estate : Estate} (within : WithinThreshold runtime settings estate) (scope : KillSwitchScope)
    (tenant : Uuid) (day : Int) :
    estate.completedImpact scope tenant day = estate.executedImpact scope tenant day := by
  apply Table.total_congr
  intro other s member
  have counted := within.counted other s (Table.find_eq_some_iff.mpr member)
  rw [counted.impact]

namespace RemediationRuntime

variable {runtime : RemediationRuntime} {settings : SafetySettings} {estate after : Estate}
  {session next : SafetySession} {event : RemediationEvent} {clocks : GuardReadings → Prop}

theorem checkAllGuards_permits {tenant : Uuid} {s : Remediation} {impact : Int}
    {readings : GuardReadings}
    (passed : runtime.checkAllGuards settings estate tenant s impact readings = .ok ()) :
    settings.Permits (estate.completedImpact (runtime.killSwitchScope settings) tenant
      (utcDay readings.now) + impact) := by
  obtain ⟨_,below,_⟩ := bind_eq_ok.mp passed
  have under := raiseIf_eq_ok.mp below
  exact not_le.mp under

structure TenantStep (runtime : RemediationRuntime) (estate : Estate) (session : SafetySession)
    (event : RemediationEvent) (after : Estate) (next : SafetySession) (s t : Remediation) :
    Prop where
  there : estate.tenants.find session.tenant = some s
  taken : runtime.Step s session.phase event t next.phase
  tenants : after.tenants = estate.tenants.update session.tenant fun _ => t
  tenant : next.tenant = session.tenant

theorem SafetyStep.tenant (step : runtime.SafetyStep settings clocks estate session event after next) :
    ∃ s t, TenantStep runtime estate session event after next s t := by
  cases step with
  | check readings there taken guards clock => exact ⟨_,_,there,taken.1,rfl,rfl⟩
  | act other there taken => exact ⟨_,_,there,taken.1,rfl,rfl⟩

theorem SafetyStep.reading (step : runtime.SafetyStep settings clocks estate session event after next) :
    ((∀ env, event ≠ .check env) ∧ next.reading = session.reading) ∨
      ∃ env execution copy row s readings, event = .check env ∧
        session.phase = .checking execution copy row ∧
        env.guards = runtime.checkAllGuards settings estate session.tenant s copy.savings readings ∧
        next.reading = some ⟨utcDay readings.now,estate.completedImpact
          (runtime.killSwitchScope settings) session.tenant (utcDay readings.now)⟩ := by
  cases step with
  | check readings there taken guards clock =>
    exact Or.inr ⟨_,_,_,_,_,readings,rfl,rfl,guards,rfl⟩
  | act other there taken => exact Or.inl ⟨other,rfl⟩

namespace TenantStep

variable {s t : Remediation}

theorem find (step : TenantStep runtime estate session event after next s t) {tenant : Uuid}
    {u : Remediation} (there : after.tenants.find tenant = some u) :
    (tenant = session.tenant ∧ u = t) ∨
      (tenant ≠ session.tenant ∧ estate.tenants.find tenant = some u) := by
  rw [step.tenants, Table.find_update] at there
  by_cases same : tenant = session.tenant
  · simp only [same,if_true,step.there,Option.map_some,Option.some.injEq] at there
    exact Or.inl ⟨same,there.symm⟩
  · exact Or.inr ⟨same,by simpa [same] using there⟩

/-- Copies stay copies of the rows, whoever moves. -/
theorem knowsFixed (step : TenantStep runtime estate session event after next s t) {tenant : Uuid}
    {entries : List (Uuid × RemediationRequest)}
    (copies : ∀ s, estate.tenants.find tenant = some s → ∀ entry ∈ entries, s.KnowsFixed entry) :
    ∀ u, after.tenants.find tenant = some u → ∀ entry ∈ entries, u.KnowsFixed entry := by
  intro u there entry member
  rcases step.find there with ⟨same,rfl⟩ | ⟨_,before⟩
  · subst same
    exact step.taken.knowsFixed (copies s step.there entry member)
  · exact copies u before entry member

theorem executedImpact (step : TenantStep runtime estate session event after next s t)
    (scope : KillSwitchScope) (asker : Uuid) (day increase : Int)
    (impact : t.executedImpact day = s.executedImpact day + increase) :
    after.executedImpact scope asker day = estate.executedImpact scope asker day +
      if scope.covers asker session.tenant then increase else 0 := by
  have whole : after = ⟨estate.tenants.update session.tenant fun _ => t,after.failures⟩ := by
    rw [← step.tenants]
  rw [whole]
  exact Estate.executedImpact_update step.there day asker after.failures increase impact

end TenantStep

theorem TenantStep.below {s t : Remediation}
    (step : TenantStep runtime estate session event after next s t)
    (within : WithinThreshold runtime settings estate) (guarded : session.Guarded settings estate)
    (current : KillSwitchCurrent runtime settings estate session event)
    {written : RemediationRequest} (succeeds : session.phase.Succeeds event written)
    (completion : Completion s t session.phase written) (asker : Uuid) (day : Int) :
    settings.Permits (after.executedImpact (runtime.killSwitchScope settings) asker day) := by
  have before := within.below asker day
  rcases completion day with same | ⟨stamped,id,copy,row,acting,found,impact⟩
  · rw [step.executedImpact _ asker day 0 (by omega)]
    simpa using before
  · rw [step.executedImpact _ asker day _ impact]
    by_cases covers : (runtime.killSwitchScope settings).covers asker session.tenant = true
    · obtain ⟨reading,read,room⟩ := guarded.allowed id copy acting
      obtain ⟨onDay,steady⟩ := current.steady written reading succeeds read
      have today : reading.day = day := by
        have executed : written.executedAt.map utcDay = some day := by
          simpa [RemediationRequest.executedOn] using stamped
        exact Option.some.inj (onDay.symm.trans executed)
      obtain ⟨_,execution,_,phase,_⟩ := succeeds
      have known : s.KnowsFixed (id,copy) := by
        apply guarded.copies s step.there
        rw [phase] at acting ⊢
        obtain ⟨rfl,rfl⟩ := Prod.mk.inj (Option.some.inj acting)
        exact List.mem_cons_self
      obtain ⟨other,there,fixed⟩ := known
      have savings : row.savings = copy.savings := by
        rw [found] at there
        rw [Option.some.inj there]
        exact RemediationRequest.savings_eq fixed
      -- The scope that asks and the session's own scope sum the same rows.
      have scopes : estate.executedImpact (runtime.killSwitchScope settings) asker day =
          estate.executedImpact (runtime.killSwitchScope settings) session.tenant day := by
        cases scope : runtime.killSwitchScope settings with
        | global => rfl
        | tenant =>
          have same : session.tenant = asker := by
            simpa [scope,KillSwitchScope.covers] using covers
          rw [same]
      rw [within.impact, today, ← scopes] at steady
      simp only [covers,if_true,savings]
      exact room.mono (by omega)
    · simpa [covers] using before

theorem SafetyStep.within (step : runtime.SafetyStep settings clocks estate session event after next)
    (within : WithinThreshold runtime settings estate) (guarded : session.Guarded settings estate)
    (current : KillSwitchCurrent runtime settings estate session event) :
    WithinThreshold runtime settings after := by
  obtain ⟨s,t,tenant⟩ := step.tenant
  obtain ⟨counted,impact⟩ := tenant.taken.impact (within.counted _ s tenant.there)
    guarded.keepsExecutedAt (current.completed s tenant.there) guarded.running
  refine ⟨fun other u there => ?_,fun asker day => ?_⟩
  · rcases tenant.find there with ⟨_,rfl⟩ | ⟨_,before⟩
    · exact counted
    · exact within.counted other u before
  · rcases impact with same | ⟨written,succeeds,completion⟩
    · rw [tenant.executedImpact _ asker day 0 (by have := same day; omega)]
      simpa using within.below asker day
    · exact tenant.below within guarded current succeeds completion asker day

theorem SafetyStep.guarded (step : runtime.SafetyStep settings clocks estate session event after next)
    (guarded : session.Guarded settings estate)
    (current : KillSwitchCurrent runtime settings estate session event) :
    next.Guarded settings after := by
  obtain ⟨s,t,tenant⟩ := step.tenant
  have taken := tenant.taken
  refine ⟨taken.keepsFixed guarded.keepsFixed,
    taken.keepsExecutedAt guarded.keepsExecutedAt (current.completed s tenant.there),?_,?_,?_⟩
  · intro id copy acting
    rcases taken.acting acting with before | ⟨_,_,_,_,_,_,_,_,status⟩
    · exact guarded.running id copy before
    · exact status
  · intro u there
    rw [tenant.tenant] at there
    apply tenant.knowsFixed _ u there
    intro v before entry member
    obtain rfl := Option.some.inj (tenant.there.symm.trans before)
    exact taken.copiesFixed guarded.keepsFixed (guarded.copies _ before) entry member
  · intro id copy acting
    rcases step.reading with ⟨other,kept⟩ | ⟨env,execution,loaded,row,s',readings,rfl,phase,guards,read⟩
    · rcases taken.acting acting with before | ⟨env,_,_,_,rfl,_⟩
      · rw [kept]
        exact guarded.allowed id copy before
      · exact absurd rfl (other env)
    · refine ⟨_,read,?_⟩
      rcases taken.acting acting with before | ⟨env',_,loaded',_,same,phase',passed,fixed,_⟩
      · simp [phase,RemediationPhase.acting] at before
      · obtain rfl := RemediationEvent.check.inj same
        rw [phase] at phase'
        obtain ⟨rfl,rfl,rfl⟩ := RemediationPhase.checking.inj phase'
        rw [guards] at passed
        rw [RemediationRequest.savings_eq fixed]
        exact checkAllGuards_permits passed

theorem SafetyStep.undisturbed (step : runtime.SafetyStep settings clocks estate session event after next)
    {other : SafetySession} (guarded : other.Guarded settings estate) :
    other.Guarded settings after := by
  obtain ⟨s,t,tenant⟩ := step.tenant
  exact ⟨guarded.keepsFixed,guarded.keepsExecutedAt,guarded.running,
    tenant.knowsFixed guarded.copies,guarded.allowed⟩

/-- The runs in which each success is committed on the sum its guard has read. -/
def killSwitchProtocol (runtime : RemediationRuntime) (settings : SafetySettings) :
    Protocol Estate SafetySession RemediationEvent :=
  (runtime.safetyProtocol settings anyClocks).restrict (KillSwitchCurrent runtime settings)
    fun _ _ _ _ => True

theorem killSwitch_discipline (runtime : RemediationRuntime) (settings : SafetySettings) :
    Interleaving.Discipline (runtime.killSwitchProtocol settings)
      (WithinThreshold runtime settings) (fun estate session => session.Guarded settings estate)
      fun _ _ => True where
  symmetric _ _ _ := trivial
  own _ _ _ _ _ within guarded taken :=
    ⟨taken.1.within within guarded taken.2,taken.1.guarded guarded taken.2⟩
  exclusive _ _ _ _ _ _ _ _ _ _ _ _ := trivial
  undisturbed _ _ _ _ _ _ _ _ others _ taken _ := taken.1.undisturbed others

def SafetySteps [DecidableEq ι] (runtime : RemediationRuntime) (settings : SafetySettings)
    (system : SafetySystem ι) (event : ι × RemediationEvent) (next : SafetySystem ι) : Prop :=
  Interleaving.Step (runtime.safetyProtocol settings anyClocks) system event next

def KillSwitchSteps [DecidableEq ι] (runtime : RemediationRuntime) (settings : SafetySettings)
    (system : SafetySystem ι) (event : ι × RemediationEvent) (next : SafetySystem ι) : Prop :=
  Interleaving.Step (runtime.killSwitchProtocol settings) system event next

end RemediationRuntime

structure Unexecuted (system : SafetySystem ι) : Prop where
  idle : ∀ party, (system.phase party).phase = .idle
  requests : ∀ tenant s id row, system.shared.tenants.find tenant = some s →
    s.store.requests.find id = some row → row.executedAt = none

theorem Unexecuted.executedImpact {system : SafetySystem ι} (unexecuted : Unexecuted system)
    (scope : KillSwitchScope) (tenant : Uuid) (day : Int) :
    system.shared.executedImpact scope tenant day = 0 := by
  apply Table.total_eq_zero
  intro other s member
  have none_ : s.executedImpact day = 0 := by
    apply Table.total_eq_zero
    intro id row here
    have idle := unexecuted.requests other s id row (Table.find_eq_some_iff.mpr member)
      (Table.find_eq_some_iff.mpr here)
    simp [RemediationRequest.executedOn,idle]
  simp [none_]

/-- The savings of the requests of a scope that were executed on one day stay below a positive
threshold. -/
theorem daily_impact_bounded [DecidableEq ι] (runtime : RemediationRuntime)
    (settings : SafetySettings) (positive : 0 < settings.remediationKillSwitchThreshold.value)
    {start final : SafetySystem ι} {events : List (ι × RemediationEvent)}
    (unexecuted : Unexecuted start)
    (run : Trace (runtime.KillSwitchSteps settings) start events final) (tenant : Uuid) (day : Int) :
    settings.Permits
      (final.shared.executedImpact (runtime.killSwitchScope settings) tenant day) := by
  have good : Interleaving.Good (WithinThreshold runtime settings)
      (fun estate session => session.Guarded settings estate) (fun _ _ => True) start := by
    refine ⟨⟨fun other s there id row found executed => ?_,fun other day => ?_⟩,fun party => ?_,
      fun _ _ _ => trivial⟩
    · exact absurd (unexecuted.requests other s id row there found) executed
    · rw [unexecuted.executedImpact]
      simpa [SafetySettings.Permits] using positive
    · have idle := unexecuted.idle party
      refine ⟨.of_none ?_,.of_none ?_,?_,?_,?_⟩
      · simp [idle,RemediationPhase.rewrites]
      · simp [idle,RemediationPhase.rewrites]
      · simp [idle,RemediationPhase.acting]
      · simp [idle,RemediationPhase.copies]
      · simp [idle,RemediationPhase.acting]
  have reached := (RemediationRuntime.killSwitch_discipline runtime settings).run run good
  exact reached.invariant.below tenant day

namespace Sample

open Interleaving (pair Solo)

def costly : RemediationRequest :=
  { machineRequest with status := .approved, estimatedMonthlySavings := some 30000 }

def twoCostly : Remediation :=
  ⟨{ requests := ⟨[(1,costly),(2,costly)],by simp⟩ },[],0⟩

def tenant : Uuid := 9

def unguarded : SafetySession := ⟨tenant,.idle,none,false⟩

def opened : SafetySystem Bool := pair (.single tenant twoCostly []) unguarded unguarded

theorem twoCostly_find {id : Uuid} {row : RemediationRequest}
    (found : twoCostly.store.requests.find id = some row) : row = costly := by
  have member := Table.find_eq_some_iff.mp found
  simp only [twoCostly,List.mem_cons,Prod.mk.injEq,List.not_mem_nil,or_false] at member
  rcases member with ⟨_,same⟩ | ⟨_,same⟩
  · exact same
  · exact same

theorem twoCostly_ready {id : Uuid} (found : twoCostly.store.requests.find id = some costly) :
    Ready runtime twoCostly id costly := by
  refine ⟨fun other row there => ?_,found,rfl,normalizeProvider_machine⟩
  rw [twoCostly_find there]
  exact ⟨rfl,rfl⟩

theorem opened_unexecuted : Unexecuted opened := by
  refine ⟨fun party => ?_,fun other s id row there found => ?_⟩
  · cases party with
    | false => rfl
    | true => rfl
  · have only : s = twoCostly := by
      have member := Table.find_eq_some_iff.mp there
      simp only [opened,pair,Estate.single,List.mem_cons,Prod.mk.injEq,List.not_mem_nil,
        or_false] at member
      exact member.2
    rw [only] at found
    rw [twoCostly_find found]
    rfl

theorem default_threshold : ({} : SafetySettings).remediationKillSwitchThreshold.value = 500 := by
  norm_num [Decimal.value]

theorem costly_below : ((costly.savings : Int) : ℚ) / 100 <
    ({} : SafetySettings).remediationKillSwitchThreshold.value := by
  rw [default_threshold]
  norm_num [costly,RemediationRequest.savings]

theorem twoCostly_untouched : twoCostly.Untouched := by
  intro id row found
  rw [twoCostly_find found]
  rfl

def done : ExecutionResult := ⟨.success,none,none⟩

/-- The tables while the first strategy runs, and while both do. -/
def oneRuns : Remediation := twoCostly.running runtime 1 costly

def bothRun : Remediation := oneRuns.running runtime 2 costly

theorem first_ready : Ready runtime twoCostly 1 costly := twoCostly_ready rfl

theorem second_ready : Ready runtime oneRuns 2 costly := by
  refine ⟨first_ready.running_unbound,?_,rfl,normalizeProvider_machine⟩
  have other := Table.find_update_other (t := twoCostly.store.requests)
    (fun row : RemediationRequest => row.flush costly costly.started) (show (2 : Uuid) ≠ 1 by decide)
  exact other

def answered (s : Remediation) (id : Uuid) : Remediation :=
  s.updateRequest id (·.flush costly.started (costly.started.applyExecutionResult done 0))

def answering (id : Uuid) : SafetySession :=
  ⟨tenant,.finished (serviceCall id) costly.started (costly.started.applyExecutionResult done 0),
    some ⟨0,0⟩,false⟩

def oneGuards : Except RemediationFault Unit :=
  runtime.guardsOf {} tenant (twoCostly.log [.called 1 0]) costly 0

def bothGuards : Except RemediationFault Unit :=
  runtime.guardsOf {} tenant (oneRuns.log [.called 2 0]) costly 0

def returned (id : Uuid) : SafetySession := ⟨tenant,.returning (serviceCall id),some ⟨0,0⟩,false⟩

section Runs

variable {guard : Estate → SafetySession → RemediationEvent → Prop}
  {yields : SafetySession → Estate → Estate → SafetySession → Prop}

theorem first_answers (calm : ∀ s session event, (∀ message, event ≠ .raise message) →
      event ≠ .commit → guard (.single tenant s []) session event)
    (starts : guard (.single tenant (twoCostly.log [.called 1 0]) [])
      (RemediationRuntime.starting tenant 1 twoCostly costly 0) .commit) :
    Trace (Solo ((runtime.safetyProtocol {} anyClocks).restrict guard yields))
      (.single tenant twoCostly [],unguarded) (executionEvents 1 oneGuards done 0)
      (.single tenant oneRuns [],answering 1) := by
  have passed : oneGuards = .ok () :=
    RemediationRuntime.guardsOf_ok (fun id row found => twoCostly_untouched id row found) 0
      costly_below
  have sum : (⟨utcDay 0,twoCostly.completedImpact (utcDay 0)⟩ : SafetyReading) = ⟨0,0⟩ := by
    rw [twoCostly_untouched.completedImpact]
    rfl
  have run : Trace (Solo ((runtime.safetyProtocol {} anyClocks).restrict guard yields))
      (.single tenant twoCostly [],unguarded) (executionEvents 1 oneGuards done 0) _ :=
    RemediationRuntime.execution_run first_ready 0 trivial done passed calm starts
  rw [sum] at run
  exact run

end Runs

theorem second_answers : Trace (Solo (runtime.safetyProtocol {} anyClocks))
    (.single tenant oneRuns [],unguarded) (executionEvents 2 bothGuards done 0)
    (.single tenant bothRun [],answering 2) := by
  have untouched : oneRuns.Untouched := first_ready.running_untouched twoCostly_untouched
  have passed : bothGuards = .ok () :=
    RemediationRuntime.guardsOf_ok (fun id row found => untouched id row found) 0 costly_below
  have sum : (⟨utcDay 0,oneRuns.completedImpact (utcDay 0)⟩ : SafetyReading) = ⟨0,0⟩ := by
    rw [untouched.completedImpact]
    rfl
  have run : Trace (Solo ((runtime.safetyProtocol {} anyClocks).restrict (fun _ _ _ => True)
      fun _ _ _ _ => True)) (.single tenant oneRuns [],unguarded)
      (executionEvents 2 bothGuards done 0) _ :=
    RemediationRuntime.execution_run second_ready 0 trivial done passed (fun _ _ _ _ _ => trivial) trivial
  rw [sum] at run
  exact run.mono fun taken => taken.1

theorem answer {s : Remediation} (id : Uuid) (unbound : s.Unbound) :
    Solo (runtime.safetyProtocol {} anyClocks) (.single tenant s [],answering id) .commit
      (.single tenant (answered s id) [],returned id) :=
  RemediationRuntime.answer_step unbound rfl 0 done

theorem answered_unbound {s : Remediation} (id : Uuid) (unbound : s.Unbound) :
    (answered s id).Unbound :=
  unbound.update fun _ => rfl

/-- A session without a lock lets the others go on. -/
theorem permits_all {other : SafetySession} (unlocked : other.phase.held = [])
    (before after : Estate) (next : SafetySession) :
    (runtime.safetyProtocol {} anyClocks).permits other before after next := by
  intro _ s t _ _ id held
  simp [unlocked] at held

theorem calm_current (estate : Estate) (session : SafetySession) (event : RemediationEvent)
    (quiet : ∀ message, event ≠ .raise message) (other : event ≠ .commit) :
    KillSwitchCurrent runtime {} estate session event := by
  refine ⟨fun s _ => ⟨fun commits => absurd commits other,?_⟩,?_⟩
  · intro execution copy written message _ raises
    exact absurd raises (quiet message)
  · intro written reading succeeds
    exact absurd succeeds.1 other

theorem starting_current : KillSwitchCurrent runtime {}
    (.single tenant (twoCostly.log [.called 1 0]) [])
    (RemediationRuntime.starting tenant 1 twoCostly costly 0) .commit := by
  refine ⟨fun s there => ⟨fun _ id f row writes found => ?_,by simp⟩,?_⟩
  · obtain rfl := Option.some.inj (Estate.single_find.symm.trans there)
    rw [twoCostly_find found]
    simp [costly]
  · rintro written reading ⟨_,execution,copy,phase,_⟩
    simp [RemediationRuntime.starting] at phase

theorem answering_current : KillSwitchCurrent runtime {} (.single tenant oneRuns [])
    (answering 1) .commit := by
  have untouched : oneRuns.Untouched := first_ready.running_untouched twoCostly_untouched
  refine ⟨fun s there => ⟨fun _ id f row writes found => ?_,by simp⟩,?_⟩
  · obtain rfl := Option.some.inj (Estate.single_find.symm.trans there)
    obtain ⟨rfl,-⟩ := Prod.mk.inj (Option.some.inj writes)
    have running : oneRuns.store.requests.find 1 = some (costly.flush costly costly.started) := rfl
    obtain rfl := Option.some.inj (running.symm.trans found)
    decide
  · rintro written reading ⟨_,execution,copy,phase,_⟩ read
    obtain ⟨rfl,rfl,rfl⟩ := RemediationPhase.finished.inj phase
    obtain rfl := Option.some.inj read
    refine ⟨rfl,?_⟩
    have sum : (Estate.single tenant oneRuns []).completedImpact (runtime.killSwitchScope {})
        tenant 0 = 0 := by
      rw [Estate.single_completedImpact, untouched.completedImpact]
    exact sum.le

theorem permits_all_current {other : SafetySession} (unlocked : other.phase.held = [])
    (before after : Estate) (next : SafetySession) :
    (runtime.killSwitchProtocol {}).permits other before after next :=
  ⟨permits_all unlocked before after next,trivial⟩

theorem answered_once : (answered oneRuns 1).executedImpact 0 = 30000 := by
  decide +kernel

theorem answered_impact :
    (answered (answered bothRun 1) 2).executedImpact 0 = 60000 := by
  decide +kernel

end Sample

open Interleaving (pair Solo)

/-- A request of three hundred dollars alone. -/
theorem daily_impact_bounded_costly : ∃ final : SafetySystem Bool,
    final.shared.executedImpact .tenant Sample.tenant 0 = 30000 ∧
      ({} : SafetySettings).Permits (final.shared.executedImpact
        (Sample.runtime.killSwitchScope {}) Sample.tenant 0) := by
  have answers : Trace (Sample.runtime.KillSwitchSteps {}) Sample.opened
      ((executionEvents 1 Sample.oneGuards Sample.done 0).map fun event => (false,event))
      (pair (.single Sample.tenant Sample.oneRuns []) (Sample.answering 1) Sample.unguarded) :=
    Interleaving.first_run (Sample.first_answers (fun s => Sample.calm_current _) Sample.starting_current)
      (Sample.permits_all_current rfl)
  have last : Sample.runtime.KillSwitchSteps {}
      (pair (.single Sample.tenant Sample.oneRuns []) (Sample.answering 1) Sample.unguarded)
      (false,.commit) (pair (.single Sample.tenant (Sample.answered Sample.oneRuns 1) [])
        (Sample.returned 1) Sample.unguarded) :=
    Interleaving.Step.first ⟨Sample.answer 1 Sample.first_ready.running_unbound,
      Sample.answering_current⟩ (Sample.permits_all_current rfl _ _ _)
  refine ⟨_,?_,daily_impact_bounded Sample.runtime {} ?_ Sample.opened_unexecuted
    (answers.trans (.go last .stop)) Sample.tenant 0⟩
  · exact (Estate.single_executedImpact _ _).trans Sample.answered_once
  · rw [Sample.default_threshold]
    norm_num

/-- Two requests of three hundred dollars pass the guard on an empty sum and both succeed on
one day, under a threshold of five hundred. -/
theorem two_guards_pass : ∃ (start final : SafetySystem Bool)
    (events : List (Bool × RemediationEvent)),
    Unexecuted start ∧ Trace (Sample.runtime.SafetySteps {}) start events final ∧
      ({} : SafetySettings).remediationKillSwitchThreshold.value = 500 ∧
      final.shared.executedImpact .tenant Sample.tenant 0 = 60000 ∧
      ¬({} : SafetySettings).Permits (final.shared.executedImpact
        (Sample.runtime.killSwitchScope {}) Sample.tenant 0) := by
  have free : Trace (Solo ((Sample.runtime.safetyProtocol {} anyClocks).restrict (fun _ _ _ => True)
      fun _ _ _ _ => True)) _ _ _ :=
    Sample.first_answers (fun _ _ _ _ _ => trivial) trivial
  have first : Trace (Sample.runtime.SafetySteps {}) Sample.opened
      ((executionEvents 1 Sample.oneGuards Sample.done 0).map fun event => (false,event))
      (pair (.single Sample.tenant Sample.oneRuns []) (Sample.answering 1) Sample.unguarded) :=
    Interleaving.first_run (free.mono fun taken => taken.1) (Sample.permits_all rfl)
  have second : Trace (Sample.runtime.SafetySteps {})
      (pair (.single Sample.tenant Sample.oneRuns []) (Sample.answering 1) Sample.unguarded)
      ((executionEvents 2 Sample.bothGuards Sample.done 0).map fun event => (true,event))
      (pair (.single Sample.tenant Sample.bothRun []) (Sample.answering 1) (Sample.answering 2)) :=
    Interleaving.second_run Sample.second_answers (Sample.permits_all rfl)
  have running : Sample.bothRun.Unbound := Sample.second_ready.running_unbound
  have one : Sample.runtime.SafetySteps {}
      (pair (.single Sample.tenant Sample.bothRun []) (Sample.answering 1) (Sample.answering 2))
      (false,.commit) (pair (.single Sample.tenant (Sample.answered Sample.bothRun 1) [])
        (Sample.returned 1) (Sample.answering 2)) :=
    Interleaving.Step.first (Sample.answer 1 running) (Sample.permits_all rfl _ _ _)
  have two : Sample.runtime.SafetySteps {}
      (pair (.single Sample.tenant (Sample.answered Sample.bothRun 1) []) (Sample.returned 1)
        (Sample.answering 2)) (true,.commit)
      (pair (.single Sample.tenant (Sample.answered (Sample.answered Sample.bothRun 1) 2) [])
        (Sample.returned 1) (Sample.returned 2)) :=
    Interleaving.Step.second (Sample.answer 2 (Sample.answered_unbound 1 running))
      (Sample.permits_all rfl _ _ _)
  have sum : (Estate.single Sample.tenant
      (Sample.answered (Sample.answered Sample.bothRun 1) 2) []).executedImpact .tenant
        Sample.tenant 0 = 60000 := by
    rw [Estate.single_executedImpact, Sample.answered_impact]
  refine ⟨_,_,_,Sample.opened_unexecuted,first.trans (second.trans (.go one (.go two .stop))),
    Sample.default_threshold,sum,?_⟩
  have scope : Sample.runtime.killSwitchScope {} = .tenant := by decide +kernel
  have shared : (pair (Estate.single Sample.tenant
      (Sample.answered (Sample.answered Sample.bothRun 1) 2) []) (Sample.returned 1)
        (Sample.returned 2)).shared.executedImpact .tenant Sample.tenant 0 = 60000 := sum
  rw [scope, shared, SafetySettings.Permits, Sample.default_threshold]
  norm_num

end Valdrics.Optimization

import Valdrics.RemediationSafety

/-! One execution with nobody in its way. An approved request that is bound to no finding
and passes its guards runs from its load to the answer of its strategy. -/
namespace Valdrics.Optimization

open Enforcement (Uuid bind_eq_ok)
open Interleaving (Solo)

def Remediation.Unbound (s : Remediation) : Prop :=
  ∀ id row, s.store.requests.find id = some row →
    row.target.findingId = none ∧ row.target.findingSnapshot = none

namespace Remediation.Unbound

variable {s t : Remediation} {id : Uuid} {f : RemediationRequest → RemediationRequest}

theorem indexed (unbound : s.Unbound) : s.store.Indexed := by
  apply List.pairwise_of_forall_mem_list
  intro a here b _ clash
  have row := (unbound a.1 a.2 (Table.find_eq_some_iff.mpr here)).1
  exact clash.2.2.1 row

theorem kept (unbound : s.Unbound) (same : t.store.requests = s.store.requests) : t.Unbound := by
  intro id row found
  exact unbound id row (same ▸ found)

theorem update (unbound : s.Unbound) (target : ∀ row, (f row).target = row.target) :
    (s.updateRequest id f).Unbound := by
  intro other row found
  rw [Remediation.updateRequest_requests, Table.find_update] at found
  by_cases same : other = id
  · simp only [same,if_true] at found
    obtain ⟨before,there,rfl⟩ := Option.map_eq_some_iff.mp found
    rw [target]
    exact unbound id before there
  · exact unbound other row (by simpa [same] using found)

end Remediation.Unbound

structure Ready (runtime : RemediationRuntime) (s : Remediation) (id : Uuid)
    (row : RemediationRequest) : Prop where
  unbound : s.Unbound
  found : s.store.requests.find id = some row
  approved : row.status = .approved
  provider : runtime.normalizeProvider row.target.provider ≠ ""

def serviceCall (id : Uuid) : Execution := ⟨.service,id,true⟩

def allowingEnvironment (guards : Except RemediationFault Unit) : ExecuteEnvironment where
  guards := guards
  evaluation := ⟨.allow,"No policy rules triggered."⟩
  now := 0
  later := 0

def RemediationRequest.started (row : RemediationRequest) : RemediationRequest :=
  (row.applySystemPolicyContext []).execute

namespace Remediation

def launched (s : Remediation) (id : Uuid) (row : RemediationRequest) : Remediation :=
  (s.log [.called id s.clock]).updateRequest id (·.flush row row.started)

def running (runtime : RemediationRuntime) (s : Remediation) (id : Uuid)
    (row : RemediationRequest) : Remediation :=
  (s.launched id row).log
    [.invoked id {
      target := row.target
      executionRegion := runtime.resolveExecutionRegion row.target "" "" ""
      finding := none
      invokedAt := s.clock }]

/-- The tables after the answer of the strategy is written. -/
def executed (runtime : RemediationRuntime) (s : Remediation) (id : Uuid)
    (row : RemediationRequest) (result : ExecutionResult) (now : Int) : Remediation :=
  (s.running runtime id row).updateRequest id
    (·.flush row.started (row.started.applyExecutionResult result now))

end Remediation

def launchEvents (id : Uuid) (guards : Except RemediationFault Unit) : List RemediationEvent :=
  [.load id,.execute true,.lock,.check (allowingEnvironment guards),.commit]

def executionEvents (id : Uuid) (guards : Except RemediationFault Unit) (result : ExecutionResult)
    (now : Int) : List RemediationEvent :=
  launchEvents id guards ++ [.invoke "" "" "",.finish result now]

def Remediation.Untouched (s : Remediation) : Prop :=
  ∀ id row, s.store.requests.find id = some row → row.executedAt = none

namespace Remediation.Untouched

variable {s : Remediation}

theorem completedImpact (untouched : s.Untouched) (day : Int) : s.completedImpact day = 0 := by
  apply Table.total_eq_zero
  intro id row member
  have idle := untouched id row (Table.find_eq_some_iff.mpr member)
  simp [RemediationRequest.executedOn,idle]

theorem failureCount (untouched : s.Untouched) (now : Int) : s.failureCount now = 0 := by
  have empty : s.store.requests.rows.filter (fun entry => entry.2.status = .failed &&
      entry.2.executedAt.any fun executed => utcMidnight now ≤ executed) = [] := by
    apply List.filter_eq_nil_iff.mpr
    intro entry member
    have idle := untouched entry.1 entry.2 (Table.find_eq_some_iff.mpr member)
    simp [idle]
  simp [Remediation.failureCount,empty]

end Remediation.Untouched

namespace Ready

variable {runtime : RemediationRuntime} {s : Remediation} {id : Uuid} {row : RemediationRequest}

theorem bound (ready : Ready runtime s id row) (findings : Table Uuid OptimizationFinding) :
    runtime.validateRequestFindingBinding findings row.target = .ok none := by
  obtain ⟨finding,snapshot⟩ := ready.unbound id row ready.found
  simp [RemediationRuntime.validateRequestFindingBinding,finding,snapshot]

theorem launched_unbound (ready : Ready runtime s id row) : (s.launched id row).Unbound :=
  (ready.unbound.kept (t := s.log [.called id s.clock]) rfl).update fun _ => rfl

theorem running_unbound (ready : Ready runtime s id row) : (s.running runtime id row).Unbound :=
  ready.launched_unbound.kept rfl

theorem running_untouched (ready : Ready runtime s id row) (untouched : s.Untouched) :
    (s.running runtime id row).Untouched := by
  intro other there found
  simp only [Remediation.running,Remediation.launched,Remediation.log_store,Remediation.updateRequest_requests,
    Table.find_update] at found
  by_cases same : other = id
  · simp only [same,if_true,ready.found,Option.map_some,Option.some.injEq] at found
    subst found
    simp [RemediationRequest.flush,Enforcement.flushed,RemediationRequest.started,
      RemediationRequest.execute,RemediationRequest.applySystemPolicyContext,
      untouched id row ready.found]
  · exact untouched other there (by simpa [same] using found)

end Ready

def Estate.single (tenant : Uuid) (s : Remediation) (failures : List (Uuid × Uuid)) : Estate where
  tenants := ⟨[(tenant,s)],by simp⟩
  failures := failures

namespace Estate

variable {tenant : Uuid} {s t : Remediation} {failures : List (Uuid × Uuid)}

@[simp] theorem single_find : (single tenant s failures).tenants.find tenant = some s := by
  simp [single,Table.find]

@[simp] theorem single_failures : (single tenant s failures).failures = failures := rfl

theorem single_completedImpact (scope : KillSwitchScope) (day : Int) :
    (single tenant s failures).completedImpact scope tenant day = s.completedImpact day := by
  cases scope <;> simp [Estate.completedImpact,single,Table.total,KillSwitchScope.covers]

theorem single_executedImpact (scope : KillSwitchScope) (day : Int) :
    (single tenant s failures).executedImpact scope tenant day = s.executedImpact day := by
  cases scope <;> simp [Estate.executedImpact,single,Table.total,KillSwitchScope.covers]

end Estate

namespace RemediationRuntime

variable {runtime : RemediationRuntime} {settings : SafetySettings}
  {tenant id : Uuid} {s t : Remediation} {phase next : RemediationPhase} {event : RemediationEvent}
  {failures : List (Uuid × Uuid)} {reading : Option SafetyReading} {failed : Bool}
  {row : RemediationRequest} {clocks : GuardReadings → Prop}

theorem solo_act (other : ∀ env, event ≠ .check env) (unbound : t.Unbound)
    (taken : runtime.Step s phase event t next) :
    Solo (runtime.safetyProtocol settings clocks)
      (.single tenant s failures,⟨tenant,phase,reading,failed⟩) event
      (.single tenant t (failures ++
        (SafetySession.mk tenant phase reading failed).failure event),
        ⟨tenant,next,reading,phase.fails event failed⟩) := by
  have step : runtime.SafetyStep settings clocks (.single tenant s failures) ⟨tenant,phase,reading,failed⟩
      event _ _ := .act other Estate.single_find ⟨taken,unbound.indexed⟩
  simpa [Solo,safetyProtocol,Estate.single,Table.update] using step

theorem solo_quiet (other : ∀ env, event ≠ .check env) (unbound : t.Unbound)
    (taken : runtime.Step s phase event t next)
    (quiet : (SafetySession.mk tenant phase reading failed).failure event = []) :
    Solo (runtime.safetyProtocol settings clocks)
      (.single tenant s failures,⟨tenant,phase,reading,failed⟩) event
      (.single tenant t failures,⟨tenant,next,reading,phase.fails event failed⟩) := by
  have moved : Solo (runtime.safetyProtocol settings clocks)
      (.single tenant s failures,⟨tenant,phase,reading,failed⟩) event _ :=
    solo_act other unbound taken
  rw [quiet, List.append_nil] at moved
  exact moved

def guardsOf (runtime : RemediationRuntime) (settings : SafetySettings) (tenant : Uuid)
    (s : Remediation) (row : RemediationRequest) (now : Int) : Except RemediationFault Unit :=
  runtime.checkAllGuards settings (.single tenant s []) tenant s row.savings ⟨now,now,.ok ()⟩

/-- Where nothing was executed yet, the guards look at the request alone. -/
theorem guardsOf_ok (untouched : s.Untouched) (now : Int)
    (below : (row.savings : ℚ) / 100 < settings.remediationKillSwitchThreshold.value) :
    runtime.guardsOf settings tenant s row now = .ok () := by
  have quiet : ¬5 ≤ s.failureCount now := by
    rw [untouched.failureCount]
    omega
  have room := not_le.mpr below
  simp [guardsOf,checkAllGuards,checkGlobalKillSwitch,checkCircuitBreaker,
    Estate.single_completedImpact,untouched.completedImpact,raiseIf,room,quiet,bind,Except.bind]

theorem solo_check {execution : Execution} {copy : RemediationRequest} (now : Int)
    (clock : clocks ⟨now,now,.ok ()⟩) (unbound : s.Unbound) (taken : runtime.Step s (.checking execution copy row)
      (.check (allowingEnvironment (runtime.guardsOf settings tenant s copy now))) s next) :
    Solo (runtime.safetyProtocol settings clocks)
      (.single tenant s failures,⟨tenant,.checking execution copy row,reading,failed⟩)
      (.check (allowingEnvironment (runtime.guardsOf settings tenant s copy now)))
      (.single tenant s failures,
        ⟨tenant,next,some ⟨utcDay now,s.completedImpact (utcDay now)⟩,false⟩) := by
  have step : runtime.SafetyStep settings clocks (.single tenant s failures)
      ⟨tenant,.checking execution copy row,reading,failed⟩ (.check (allowingEnvironment
        (runtime.guardsOf settings tenant s copy now))) _ _ :=
    .check ⟨now,now,.ok ()⟩ Estate.single_find ⟨taken,unbound.indexed⟩ rfl clock
  rw [Estate.single_completedImpact] at step
  simpa [Solo,safetyProtocol,Estate.single,Table.update] using step

def starting (tenant id : Uuid) (s : Remediation) (row : RemediationRequest) (now : Int) :
    SafetySession :=
  ⟨tenant,.writing (serviceCall id) row row row.started .execute (graceHours row.target.action none),
    some ⟨utcDay now,s.completedImpact (utcDay now)⟩,false⟩

section Guarded

variable {guard : Estate → SafetySession → RemediationEvent → Prop}
  {yields : SafetySession → Estate → Estate → SafetySession → Prop}

theorem launch_run (ready : Ready runtime s id row) (now : Int) (clock : clocks ⟨now,now,.ok ()⟩)
    (passed : runtime.guardsOf settings tenant (s.log [.called id s.clock]) row now = .ok ())
    (calm : ∀ s session event, (∀ message, event ≠ .raise message) → event ≠ .commit →
      guard (.single tenant s failures) session event)
    (starts : guard (.single tenant (s.log [.called id s.clock]) failures)
      (starting tenant id s row now) .commit) :
    Trace (Solo ((runtime.safetyProtocol settings clocks).restrict guard yields))
      (.single tenant s failures,⟨tenant,.idle,reading,failed⟩)
      (launchEvents id (runtime.guardsOf settings tenant (s.log [.called id s.clock]) row now))
      (.single tenant (s.launched id row) failures,
        ⟨tenant,.executing (serviceCall id) row.started,
          some ⟨utcDay now,s.completedImpact (utcDay now)⟩,false⟩) := by
  have called : (s.log [.called id s.clock]).Unbound := ready.unbound.kept rfl
  have checked : runtime.checkExecution s.store.findings true row
      (allowingEnvironment (runtime.guardsOf settings tenant (s.log [.called id s.clock]) row now)) =
        .ok (.write row.started .execute) :=
    checkExecution_allows (ready.bound _) passed (by simp [ready.approved,
      RemediationStatus.startable]) rfl
  have load : runtime.Step s .idle (.load id) s (.loaded id row) := .load ready.found
  have lock : runtime.Step s (.opened (serviceCall id) row) .lock (s.log [.called id s.clock])
      (.checking (serviceCall id) row row) := .lock ready.found ready.provider
  have check : runtime.Step (s.log [.called id s.clock]) (.checking (serviceCall id) row row)
      (.check (allowingEnvironment
        (runtime.guardsOf settings tenant (s.log [.called id s.clock]) row now)))
      (s.log [.called id s.clock])
      (.writing (serviceCall id) row row row.started .execute
        (graceHours row.target.action none)) := .check checked
  have started : runtime.Step (s.log [.called id s.clock])
      (.writing (serviceCall id) row row row.started .execute
        (graceHours row.target.action none)) .commit (s.launched id row)
      (.executing (serviceCall id) row.started) := .started
  have calmly {s : Remediation} {session : SafetySession} {event : RemediationEvent}
      (quiet : ∀ message, event ≠ .raise message) (other : event ≠ .commit) :
      guard (.single tenant s failures) session event := calm _ _ _ quiet other
  refine .go ⟨solo_quiet (by simp) ready.unbound load rfl,calmly (by simp) (by simp)⟩ ?_
  refine .go ⟨solo_quiet (by simp) ready.unbound .execute rfl,calmly (by simp) (by simp)⟩ ?_
  refine .go ⟨solo_quiet (by simp) called lock rfl,calmly (by simp) (by simp)⟩ ?_
  refine .go ⟨solo_check now clock called check,calmly (by simp) (by simp)⟩ ?_
  exact .go ⟨solo_quiet (by simp) ready.launched_unbound started rfl,starts⟩ .stop

theorem invoke_step (ready : Ready runtime s id row) :
    Solo (runtime.safetyProtocol settings clocks)
      (.single tenant (s.launched id row) failures,
        ⟨tenant,.executing (serviceCall id) row.started,reading,failed⟩) (.invoke "" "" "")
      (.single tenant (s.running runtime id row) failures,
        ⟨tenant,.invoked (serviceCall id) row.started,reading,false⟩) := by
  have loose : row.started.target.findingId = none := (ready.unbound id row ready.found).1
  have taken : runtime.Step (s.launched id row) (.executing (serviceCall id) row.started)
      (.invoke "" "" "") _ _ := .invoke
  rw [loose] at taken
  exact solo_quiet (by simp) ready.running_unbound taken rfl

theorem execution_run (ready : Ready runtime s id row) (now : Int)
    (clock : clocks ⟨now,now,.ok ()⟩) (result : ExecutionResult)
    (passed : runtime.guardsOf settings tenant (s.log [.called id s.clock]) row now = .ok ())
    (calm : ∀ s session event, (∀ message, event ≠ .raise message) → event ≠ .commit →
      guard (.single tenant s failures) session event)
    (starts : guard (.single tenant (s.log [.called id s.clock]) failures)
      (starting tenant id s row now) .commit) :
    Trace (Solo ((runtime.safetyProtocol settings clocks).restrict guard yields))
      (.single tenant s failures,⟨tenant,.idle,reading,failed⟩)
      (executionEvents id (runtime.guardsOf settings tenant (s.log [.called id s.clock]) row now)
        result now)
      (.single tenant (s.running runtime id row) failures,
        ⟨tenant,.finished (serviceCall id) row.started (row.started.applyExecutionResult result now),
          some ⟨utcDay now,s.completedImpact (utcDay now)⟩,result.status = .failed⟩) := by
  refine (launch_run ready now clock passed calm starts).trans ?_
  refine .go ⟨invoke_step ready,calm _ _ _ (by simp) (by simp)⟩ ?_
  exact .go ⟨solo_quiet (by simp) ready.running_unbound .finish rfl,
    calm _ _ _ (by simp) (by simp)⟩ .stop

end Guarded

theorem answer_step (unbound : s.Unbound) (loose : row.target.findingId = none) (now : Int)
    (result : ExecutionResult) :
    Solo (runtime.safetyProtocol settings clocks)
      (.single tenant s failures,
        ⟨tenant,.finished (serviceCall id) row.started (row.started.applyExecutionResult result now),
          reading,failed⟩) .commit
      (.single tenant
        (s.updateRequest id (·.flush row.started (row.started.applyExecutionResult result now)))
        (failures ++ if failed then [(tenant,id)] else []),
        ⟨tenant,.returning (serviceCall id),reading,false⟩) := by
  have taken : runtime.Step s
      (.finished (serviceCall id) row.started (row.started.applyExecutionResult result now)) .commit
      _ _ := .finished
  have same : row.started.target.findingId = none := loose
  rw [same] at taken
  exact solo_act (by simp) (unbound.update fun _ => rfl) taken

end RemediationRuntime

end Valdrics.Optimization

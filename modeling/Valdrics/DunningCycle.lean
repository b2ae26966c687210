import Valdrics.DunningOutcomes

/-! The dunning cycle: the counter of failed payments, the retry that a subscription in
attention waits for, and the downgrade. The counter, the retry job and its key are written by
different handlers, and the key of a cycle is that of the cycle before. -/
namespace Valdrics.Billing

open PythonText
open Jobs (BackgroundJob Raised)

def State.attempts (s : State) : Nat := (s.subscription.map (·.dunningAttempts)).getD 0

/-- The failures since the last payment, the references paid so far, and whether every step so
far downgraded exactly when it brought the counter to its maximum. -/
structure DunningHistory where
  failures : Nat := 0
  paid : List String := []
  aligned : Bool := true

def Report.paysAnew (report : Report) (paid : List String) : Bool :=
  report.call.any (·.succeeded) ||
    (decide (report.effect = .chargeApplied ∨ report.effect = .chargeIgnored) &&
      (report.handled.bind WebhookEvent.payment).all (· ∉ paid))

def paidReferences (result : State × Report) : List String :=
  ((result.2.call.filter (·.succeeded)).map (·.reference)).toList ++
    (if result.2.effect = .charged then
      (result.1.subscription.bind (·.lastChargeReference)).toList else []) ++
    (result.2.handled.bind WebhookEvent.payment).toList

def DunningHistory.note (history : DunningHistory) (s : State) (_ : Event)
    (result : State × Report) : DunningHistory where
  failures :=
    if result.2.effect = .failureCounted ∨ result.2.effect = .downgraded then history.failures + 1
    else if result.2.paysAnew history.paid then 0 else history.failures
  paid := history.paid ++ paidReferences result
  aligned := history.aligned &&
    decide ((result.2.effect = .downgraded ∧ result.1.plan = .free) ↔
      s.attempts < dunningMaxAttempts ∧ dunningMaxAttempts ≤ result.1.attempts)

def live (row : BackgroundJob) : Bool := row.status = .pending || row.status = .running

def RetryAwaits (s : State) : Prop :=
  ∃ attempt job, s.jobs (.dunning attempt) = some job ∧ live job.row = true

def RetryBeside (s : State) (key : JobKey) : Prop :=
  ∃ attempt job, JobKey.dunning attempt ≠ key ∧ s.jobs (.dunning attempt) = some job ∧
    live job.row = true

def InDunning (s : State) : Prop :=
  ∃ sub, s.subscription = some sub ∧ sub.status = .attention ∧
    sub.dunningAttempts < dunningMaxAttempts

structure DunningLaw (s : State × DunningHistory) : Prop where
  counted : s.1.attempts = s.2.failures
  bounded : s.1.attempts ≤ dunningMaxAttempts
  awaited : InDunning s.1 → RetryAwaits s.1
  aligned : s.2.aligned = true

def givesUp (row : BackgroundJob) (error : Raised) : Prop :=
  error.cls.isInstance [.permanentJobError] = true ∨
    (error.cls.isInstance (Jobs.jobRuntimeRecoverableErrors ++ Jobs.jobRuntimeUnexpectedErrors) =
      true ∧ row.maxAttempts ≤ row.attempts)

/-- What an execution must meet for the counter and the queue to stay in step. -/
structure DunningGuard (rt : Runtime) (s : State) (paid : List String) (key : JobKey)
    (answers : JobAnswers) (ending : Ending) (job : BillingJob) (sub : TenantSubscription) : Prop where
  /-- A payment that is first reported by its event finds the counter at zero. -/
  webhook : ∀ stored data, job.payload = .webhook stored → stored.body = .chargeSuccess data →
    ending = .finishes → chargeTenant rt s data = some rt.tenantId →
    stored.reference.all (· ∉ paid) = true → sub.dunningAttempts = 0
  /-- So does the charge of a renewal. -/
  renewal : ∀ reference terms data, job.payload = .recurringBilling reference →
    sub.status = .active → ReachesProvider rt sub (present (some reference)) answers.renewal terms →
    answers.renewal.reply = .success data → sub.dunningAttempts = 0
  /-- The charge of a retry is recorded, or finds it so. -/
  recovery : ∀ attempt reference terms data, job.payload = .dunning attempt reference →
    ReachesProvider rt sub (present (some reference)) answers.renewal terms →
    answers.renewal.reply = .success data → sub.dunningAttempts = 0 ∨
      (ending = .finishes ∧ ∃ cycle, chargedBillingCycle rt.text sub data = .ok cycle)
  /-- A retry that takes its charge for made finds it so. -/
  resumption : ∀ attempt reference, job.payload = .dunning attempt reference → ending = .finishes →
    Resumes rt sub (present (some reference)) answers.renewal → sub.dunningAttempts = 0
  /-- A failure that is counted finds attempts left, and the key of the next retry unused or
  another retry waiting. -/
  failure : FailureReported rt s sub answers job.payload →
    (dunningMaxAttempts ≤ sub.dunningAttempts + 1 ∨ (answers.enqueues = true ∧ ending = .finishes)) →
    sub.dunningAttempts < dunningMaxAttempts ∧
      (sub.dunningAttempts + 1 < dunningMaxAttempts →
        s.jobs (.dunning (sub.dunningAttempts + 2)) = none ∨ RetryBeside s key)
  /-- A retry that ends in an exception, and has not downgraded before, is not given up while
  the row waits for it. -/
  exhaustion : ∀ attempt reference error, job.payload = .dunning attempt reference →
    (ending = .interrupted error ∨
      (ending = .finishes ∧ RetryRaises rt sub (present (some reference)) answers error)) →
    ¬(RenewalRefused rt sub (present (some reference)) answers.renewal ∧
      dunningMaxAttempts ≤ sub.dunningAttempts + 1) →
    givesUp job.row error → InDunning s → RetryBeside s key

structure KeepsCycle (rt : Runtime) (s : State × DunningHistory) (event : Event) : Prop where
  executes : ∀ key answers ending job sub, event.action = .executeJob key answers ending →
    s.1.jobWhere key (·.status = .running) = some job → s.1.subscription = some sub →
    DunningGuard rt (s.1.tick event.wait) s.2.paid key answers ending job sub
  recovers : ∀ attempt job, event.action = .recoverJob (.dunning attempt) →
    s.1.jobs (.dunning attempt) = some job →
    job.row.stale (s.1.tick event.wait).clock rt.lockTimeoutMinutes = true →
    job.row.maxAttempts ≤ job.row.attempts → InDunning s.1 → RetryBeside s.1 (.dunning attempt)

variable {rt : Runtime} {s t : State} {event : Event} {renewal : RenewalAnswers}
  {sub : TenantSubscription} {reference : Option String} {now : Int} {handled : Handled}
  {answers : JobAnswers} {next : State} {error : Raised}

/-- What a step does to the counter: a counted failure adds one, a payment clears it, and only
the step that brings it to the maximum downgrades. -/
structure CountStep (s : State) (paid : List String) (result : State × Report) : Prop where
  counted : result.2.effect = .failureCounted ∨ result.2.effect = .downgraded →
    result.1.attempts = s.attempts + 1
  cleared : ¬(result.2.effect = .failureCounted ∨ result.2.effect = .downgraded) →
    result.2.paysAnew paid = true → result.1.attempts = 0
  same : ¬(result.2.effect = .failureCounted ∨ result.2.effect = .downgraded) →
    result.2.paysAnew paid = false → result.1.attempts = s.attempts
  bounded : s.attempts ≤ dunningMaxAttempts → result.1.attempts ≤ dunningMaxAttempts
  aligned : s.attempts ≤ dunningMaxAttempts →
    ((result.2.effect = .downgraded ∧ result.1.plan = .free) ↔
      s.attempts < dunningMaxAttempts ∧ dunningMaxAttempts ≤ result.1.attempts)

section Counting

variable {effect : Effect} {paid : List String} {result : State × Report}

@[simp] theorem State.attempts_tick (s : State) (wait : Nat) : (s.tick wait).attempts = s.attempts :=
  rfl

theorem attempts_eq (found : s.subscription = some sub) : s.attempts = sub.dunningAttempts := by
  simp [State.attempts,found]

theorem SameRows.attempts (same : SameRows s t) : s.attempts = t.attempts := by
  simp [State.attempts,same.subscription]

theorem Change.attempts_failureCounted (change : Change rt s .failureCounted next) :
    next.attempts = s.attempts + 1 ∧ s.attempts + 1 < dunningMaxAttempts := by
  cases change with
  | failureCounted found left =>
    rw [attempts_eq found]
    exact ⟨by simp [State.attempts,scheduleRetry,TenantSubscription.fail],left⟩
  | cancelled _ _ which => simp at which

theorem Change.attempts_downgraded (change : Change rt s .downgraded next) :
    next.attempts = s.attempts + 1 ∧ dunningMaxAttempts ≤ s.attempts + 1 ∧ next.plan = .free := by
  cases change with
  | downgraded found spent =>
    rw [attempts_eq found]
    exact ⟨by simp [State.attempts,handleFinalFailure,TenantSubscription.fail],spent,rfl⟩
  | cancelled _ _ which => simp at which

theorem Change.attempts_other (change : Change rt s effect next)
    (uncounted : ¬(effect = .failureCounted ∨ effect = .downgraded)) :
    next.attempts = s.attempts ∨ (next.attempts = 0 ∧ (effect = .charged ∨ effect = .resumed)) := by
  cases change with
  | nothing => exact .inl rfl
  | chargeIgnored => exact .inl rfl
  | charged found => exact .inl (by simp [State.attempts,found,TenantSubscription.charge])
  | recovered => exact .inr ⟨rfl,.inl rfl⟩
  | resumed => exact .inr ⟨rfl,.inr rfl⟩
  | chargeApplied =>
    cases found : s.subscription <;>
      exact .inl (by simp [State.attempts,found,TenantSubscription.applyCharge])
  | activated found => exact .inl (by simp [State.attempts,found])
  | cancelled found => exact .inl (by simp [State.attempts,found])
  | failureCounted => simp at uncounted
  | downgraded => simp at uncounted

theorem CountStep.failure (change : Change rt s effect next) (same : SameRows result.1 next)
    (reports : result.2.effect = effect)
    (counted : effect = .failureCounted ∨ effect = .downgraded)
    (left : s.attempts < dunningMaxAttempts) : CountStep s paid result := by
  have plan : result.1.plan = next.plan := same.plan
  have attempts := same.attempts
  rcases counted with rfl | rfl
  · obtain ⟨more,below⟩ := change.attempts_failureCounted
    refine ⟨fun _ => by omega,fun un => absurd (.inl reports) un,fun un => absurd (.inl reports) un,
      fun _ => by omega,fun _ => ?_⟩
    simp only [reports,reduceCtorEq,false_and,false_iff]
    omega
  · obtain ⟨more,spent,free⟩ := change.attempts_downgraded
    refine ⟨fun _ => by omega,fun un => absurd (.inr reports) un,fun un => absurd (.inr reports) un,
      fun _ => by omega,fun _ => ?_⟩
    simp only [reports,plan,free,and_self,true_iff]
    omega

theorem CountStep.uncounted
    (uncounted : ¬(result.2.effect = .failureCounted ∨ result.2.effect = .downgraded))
    (cleared : result.2.paysAnew paid = true → result.1.attempts = 0)
    (same : result.2.paysAnew paid = false → result.1.attempts = s.attempts) :
    CountStep s paid result := by
  have lower : result.1.attempts ≤ s.attempts := by
    cases pays : result.2.paysAnew paid with
    | true =>
      have zero := cleared pays
      omega
    | false => exact (same pays).le
  refine ⟨fun counted => absurd counted uncounted,fun _ => cleared,fun _ => same,
    lower.trans,fun within => ?_⟩
  have undowngraded : result.2.effect ≠ .downgraded := fun is => uncounted (.inr is)
  simp only [undowngraded,false_and,false_iff]
  omega

end Counting

section Executions

variable {key : JobKey} {ending : Ending} {job : BillingJob} {result : State × Report}
  {paid : List String}

theorem Executed.counts
    (executed : Executed rt s key job (runHandler rt s answers job.payload) ending result)
    (counted : result.2.effect = .failureCounted ∨ result.2.effect = .downgraded) :
    ∃ sub, s.subscription = some sub ∧ FailureReported rt s sub answers job.payload ∧
      (dunningMaxAttempts ≤ sub.dunningAttempts + 1 ∨
        (answers.enqueues = true ∧ ending = .finishes)) := by
  rcases counted with counted | downgraded
  · obtain ⟨finishes,handled,outcome,same⟩ := executed.effect (by simp [counted]) (by simp [counted])
    obtain ⟨sub,found,reported,enqueues⟩ := runHandler_counts outcome (same.symm.trans counted)
    exact ⟨sub,found,reported,.inr ⟨enqueues,finishes⟩⟩
  · have committed : ∃ next, (runHandler rt s answers job.payload).committed = some next := by
      have kept (same : result.2 = ((runHandler rt s answers job.payload).kept s).2) :
          ∃ next, (runHandler rt s answers job.payload).committed = some next := by
        rcases kept_cases rt s answers job.payload with none_ | ⟨next,_,commits,_⟩
        · rw [same,none_] at downgraded
          contradiction
        · exact ⟨next,commits⟩
      cases executed with
      | completed handled settled =>
        exact ⟨_,runHandler_downgrades (HandlerRun.settled_finishes settled) downgraded⟩
      | lost => exact kept rfl
      | failed => exact kept rfl
      | abandoned => exact kept rfl
    obtain ⟨next,commits⟩ := committed
    obtain ⟨sub,found,reported,spent⟩ := runHandler_commits commits
    exact ⟨sub,found,reported,.inl spent⟩

theorem Executed.handles
    (executed : Executed rt s key job (runHandler rt s answers job.payload) ending result)
    (applies : result.2.effect = .chargeApplied ∨ result.2.effect = .chargeIgnored) :
    ending = .finishes ∧ result.2.handled = job.payload.event := by
  have kept : ((runHandler rt s answers job.payload).kept s).2.effect = .nothing ∨
      ((runHandler rt s answers job.payload).kept s).2.effect = .downgraded := by
    simp only [HandlerRun.kept]
    split <;> simp
  have stays (same : result.2 = ((runHandler rt s answers job.payload).kept s).2) : False := by
    rw [same] at applies
    rcases kept with nothing | downgraded
    · simp [nothing] at applies
    · simp [downgraded] at applies
  cases executed with
  | completed => exact ⟨rfl,rfl⟩
  | lost => exact (stays rfl).elim
  | failed => exact (stays rfl).elim
  | abandoned => exact (stays rfl).elim

theorem processPaystackWebhook_call (stored : WebhookEvent) (enqueues : Bool) :
    (processPaystackWebhook rt s stored enqueues).call = none := by
  simp only [processPaystackWebhook]
  split
  case h_4 =>
    simp only [handleInvoiceFailed]
    split_ifs
    · rfl
    · rfl
    · split <;> rfl
  all_goals rfl

theorem executed_webhook_counts {stored : WebhookEvent} (payload : job.payload = .webhook stored)
    (executed : Executed rt s key job (runHandler rt s answers job.payload) ending result)
    (guarded : ∀ sub, s.subscription = some sub →
      DunningGuard rt s paid key answers ending job sub)
    (uncounted : ¬(result.2.effect = .failureCounted ∨ result.2.effect = .downgraded)) :
    CountStep s paid result := by
  obtain ⟨next,change,rows⟩ := executed.change
  have uncalled : result.2.call = none := by
    rw [executed.call,payload]
    exact processPaystackWebhook_call ..
  have event : EffectOf rt s stored result.2.effect := by
    by_cases effective : result.2.effect = .nothing
    · rw [effective]
      trivial
    · obtain ⟨_,handled,outcome,same⟩ :=
        executed.effect effective fun downgraded => uncounted (.inr downgraded)
      rw [payload] at outcome
      rw [same]
      exact processPaystackWebhook_effectOf outcome
  have stays : result.1.attempts = s.attempts := by
    rw [rows.attempts]
    rcases change.attempts_other uncounted with same | ⟨_,charged | resumed⟩
    · exact same
    · rw [charged] at event
      exact event.elim
    · rw [resumed] at event
      exact event.elim
  refine .uncounted uncounted ?_ fun _ => stays
  intro pays
  rw [stays]
  simp only [Report.paysAnew,uncalled,Option.any_none,Bool.false_or,Bool.and_eq_true,
    decide_eq_true_eq] at pays
  obtain ⟨finishes,handles⟩ := executed.handles pays.1
  have source : ∃ data, stored.body = .chargeSuccess data ∧
      chargeTenant rt s data = some rt.tenantId := by
    rcases pays.1 with applied | ignored
    · rw [applied] at event
      exact event
    · rw [ignored] at event
      exact event
  obtain ⟨data,body,tenant⟩ := source
  cases found : s.subscription with
  | none => simp [State.attempts,found]
  | some sub =>
    rw [attempts_eq found]
    apply (guarded sub found).webhook stored data payload body finishes tenant
    have fresh := pays.2
    simp only [handles,payload,JobPayload.event,Option.bind_some,WebhookEvent.payment,body] at fresh
    exact fresh

theorem executed_renewal_counts {chargeReference : String}
    (payload : job.payload = .recurringBilling chargeReference)
    (executed : Executed rt s key job (runHandler rt s answers job.payload) ending result)
    (guarded : ∀ sub, s.subscription = some sub →
      DunningGuard rt s paid key answers ending job sub)
    (uncounted : ¬(result.2.effect = .failureCounted ∨ result.2.effect = .downgraded)) :
    CountStep s paid result := by
  obtain ⟨next,change,rows⟩ := executed.change
  have effect : result.2.effect = .nothing ∨ (result.2.effect = .charged ∧
      result.2.call.any (·.succeeded) = true) := by
    by_cases effective : result.2.effect = .nothing
    · exact .inl effective
    · obtain ⟨_,handled,outcome,same⟩ :=
        executed.effect effective fun downgraded => uncounted (.inr downgraded)
      rw [executed.call,same]
      rw [payload] at outcome ⊢
      rcases executeRecurringBilling_effect outcome with nothing | charged
      · exact .inl nothing
      · exact .inr ⟨charged,executeRecurringBilling_charged outcome charged⟩
  have pays : result.2.paysAnew paid = result.2.call.any (·.succeeded) := by
    rcases effect with nothing | ⟨charged,_⟩
    · simp [Report.paysAnew,nothing]
    · simp [Report.paysAnew,charged]
  refine .uncounted uncounted ?_ ?_
  · intro paysAnew
    rw [pays,executed.call,payload] at paysAnew
    obtain ⟨sub,terms,data,found,active,reaches,reply⟩ :=
      executeRecurringBilling_succeeds_iff.mp paysAnew
    have zero := (guarded sub found).renewal chargeReference terms data payload active reaches reply
    rw [← attempts_eq found] at zero
    rw [rows.attempts]
    rcases change.attempts_other uncounted with same | ⟨cleared,_⟩
    · rw [same,zero]
    · exact cleared
  · intro unpaid
    rw [pays] at unpaid
    rw [rows.attempts]
    rcases effect with nothing | ⟨_,succeeded⟩
    · rcases change.attempts_other uncounted with same | ⟨_,charged⟩
      · exact same
      · simp [nothing] at charged
    · rw [unpaid] at succeeded
      contradiction

theorem Executed.lasting {run : HandlerRun} (executed : Executed rt s key job run ending result)
    (effective : result.2.effect ≠ .nothing) (lasting : result.2.effect ≠ .downgraded) :
    ∃ handled, run.settled rt .finishes = .ok handled ∧ SameRows result.1 handled.state ∧
      result.2.effect = handled.effect := by
  have kept : (run.kept s).2.effect = .nothing ∨ (run.kept s).2.effect = .downgraded := by
    simp only [HandlerRun.kept]
    split <;> simp
  have stays (same : result.2 = (run.kept s).2) : False := by
    rw [same] at effective lasting
    exact kept.elim effective lasting
  cases executed with
  | completed handled settled => exact ⟨handled,settled,.setJob ..,rfl⟩
  | lost => exact (stays rfl).elim
  | failed => exact (stays rfl).elim
  | abandoned => exact (stays rfl).elim

theorem Executed.accepted {run : HandlerRun} (executed : Executed rt s key job run .finishes result)
    (settled : run.settled rt .finishes = .ok handled) :
    SameRows result.1 handled.state ∧ result.2.effect = handled.effect := by
  cases executed with
  | completed other done =>
    cases settled.symm.trans done
    exact ⟨.setJob ..,rfl⟩
  | failed _ _ done =>
    rw [settled] at done
    contradiction
  | abandoned _ _ _ done =>
    rw [settled] at done
    contradiction

theorem executeDunning_clears {chargeReference : String} {enqueues : Bool}
    (handles : (executeDunning rt s chargeReference renewal enqueues).outcome = .ok handled)
    (clears : handled.effect = .charged ∨ handled.effect = .resumed) : handled.state.attempts = 0 := by
  simp only [executeDunning] at handles
  split at handles
  · contradiction
  next sub found =>
    simp only [finishDunning] at handles
    split at handles
    case h_1 => contradiction
    case h_2 | h_3 =>
      cases handles
      rfl
    case h_4 | h_5 =>
      rcases failRetry_effect handles with nothing | counted | downgraded
      · simp [nothing] at clears
      · simp [counted] at clears
      · simp [downgraded] at clears

theorem executeDunning_cleared {chargeReference : String} {enqueues : Bool}
    (found : s.subscription = some sub)
    (handles : (executeDunning rt s chargeReference renewal enqueues).outcome = .ok handled) :
    (handled.effect = .charged →
      (executeDunning rt s chargeReference renewal enqueues).call.any (·.succeeded) = true) ∧
    (handled.effect = .resumed → Resumes rt sub (present (some chargeReference)) renewal) := by
  simp only [executeDunning,found] at handles ⊢
  rw [finishDunning_call]
  have effect := finishDunning_effect handles
  have ends := chargeRenewal_ends rt sub (present (some chargeReference)) renewal s.clock
  generalize chargeRenewal rt sub (present (some chargeReference)) renewal s.clock = renewed
    at handles effect ends
  cases ends with
  | unauthorized => rcases failRetry_effect handles with is | is | is <;> simp [is]
  | refused => rcases failRetry_effect handles with is | is | is <;> simp [is]
  | raised => simp [finishDunning] at handles
  | already resumes =>
    cases handles
    exact ⟨by simp,fun _ => resumes⟩
  | charged =>
    cases handles
    exact ⟨fun _ => rfl,by simp⟩

theorem executeDunning_recovers {chargeReference : String} {terms : ChargeTerms} {data : ChargeData}
    {cycle : BillingCycle} (enqueues : Bool) (found : s.subscription = some sub)
    (reaches : ReachesProvider rt sub (present (some chargeReference)) renewal terms)
    (reply : renewal.reply = .success data)
    (named : chargedBillingCycle rt.text sub data = .ok cycle) :
    ∃ handled, (executeDunning rt s chargeReference renewal enqueues).settled rt .finishes =
      .ok handled ∧ handled.effect = .charged := by
  simp [executeDunning,found,chargeRenewal_reaches reaches,callProvider,reply,finishRenewal,named,
    finishDunning,HandlerRun.settled,Except.bind,retryResult_passes,Except.map]

theorem executed_retry_effect {attempt : Nat} {chargeReference : String}
    (payload : job.payload = .dunning attempt chargeReference) (found : s.subscription = some sub)
    (executed : Executed rt s key job (runHandler rt s answers job.payload) ending result)
    (uncounted : ¬(result.2.effect = .failureCounted ∨ result.2.effect = .downgraded)) :
    result.2.effect = .nothing ∨ (result.1.attempts = 0 ∧
      ((result.2.effect = .charged ∧ result.2.call.any (·.succeeded) = true) ∨
        (result.2.effect = .resumed ∧ ending = .finishes ∧
          Resumes rt sub (present (some chargeReference)) answers.renewal))) := by
  by_cases effective : result.2.effect = .nothing
  · exact .inl effective
  have lasts : result.2.effect ≠ .downgraded := fun is => uncounted (.inr is)
  obtain ⟨finishes,_⟩ := executed.effect effective lasts
  obtain ⟨handled,settled,same,reports⟩ := executed.lasting effective lasts
  rw [executed.call,same.attempts]
  rw [payload] at settled ⊢
  have outcome := HandlerRun.settled_finishes settled
  obtain ⟨charges,resumes⟩ := executeDunning_cleared found outcome
  rw [reports] at effective uncounted ⊢
  have kinds : handled.effect = .charged ∨ handled.effect = .resumed := by
    rcases executeDunning_settled chargeReference found with
      ⟨other,done,kinds⟩ | ⟨error,raised,_⟩
    · cases settled.symm.trans done
      rcases kinds with is | is | is | is
      · exact .inl is
      · exact .inr is
      · exact absurd (.inl is) uncounted
      · exact absurd (.inr is) uncounted
    · cases settled.symm.trans raised
  refine .inr ⟨executeDunning_clears outcome kinds,?_⟩
  rcases kinds with charged | resumed
  · exact .inl ⟨charged,charges charged⟩
  · exact .inr ⟨resumed,finishes,resumes resumed⟩

theorem executed_retry_counts {attempt : Nat} {chargeReference : String}
    (payload : job.payload = .dunning attempt chargeReference) (found : s.subscription = some sub)
    (executed : Executed rt s key job (runHandler rt s answers job.payload) ending result)
    (guard : DunningGuard rt s paid key answers ending job sub)
    (uncounted : ¬(result.2.effect = .failureCounted ∨ result.2.effect = .downgraded)) :
    CountStep s paid result := by
  obtain ⟨next,change,rows⟩ := executed.change
  have effect := executed_retry_effect payload found executed uncounted
  have pays : result.2.paysAnew paid = result.2.call.any (·.succeeded) := by
    rcases effect with is | ⟨_,⟨is,_⟩ | ⟨is,_⟩⟩ <;> simp [Report.paysAnew,is]
  refine .uncounted uncounted ?_ ?_
  · intro paysAnew
    rw [pays,executed.call,payload] at paysAnew
    simp only [runHandler,executeDunning,found,finishDunning_call] at paysAnew
    obtain ⟨terms,data,reaches,reply⟩ := chargeRenewal_succeeds_iff.mp paysAnew
    rcases effect with nothing | ⟨cleared,_⟩
    · rcases guard.recovery attempt chargeReference terms data payload reaches reply with
        zero | ⟨rfl,cycle,named⟩
      · rw [rows.attempts]
        rcases change.attempts_other uncounted with same | ⟨cleared,_⟩
        · rw [same,attempts_eq found,zero]
        · exact cleared
      · obtain ⟨handled,settled,charged⟩ :=
          executeDunning_recovers answers.enqueues found reaches reply named
        rw [payload] at executed
        have same := (executed.accepted settled).2
        rw [nothing,charged] at same
        contradiction
    · exact cleared
  · intro unpaid
    rw [pays] at unpaid
    rcases effect with nothing | ⟨cleared,⟨_,succeeded⟩ | ⟨_,finishes,resumes⟩⟩
    · rw [rows.attempts]
      rcases change.attempts_other uncounted with same | ⟨_,clears⟩
      · exact same
      · simp [nothing] at clears
    · rw [unpaid] at succeeded
      contradiction
    · rw [cleared,attempts_eq found,guard.resumption attempt chargeReference payload finishes resumes]

theorem executed_retry_absent {attempt : Nat} {chargeReference : String}
    (payload : job.payload = .dunning attempt chargeReference) (missing : s.subscription = none)
    (executed : Executed rt s key job (runHandler rt s answers job.payload) ending result) :
    result.2.effect = .nothing ∧ result.2.call = none := by
  have uncalled : result.2.call = none := by
    rw [executed.call,payload]
    simp [runHandler,executeDunning,missing]
  refine ⟨?_,uncalled⟩
  by_contra effective
  by_cases downgraded : result.2.effect = .downgraded
  · obtain ⟨sub,found,_⟩ := executed.counts (.inr downgraded)
    rw [missing] at found
    contradiction
  · obtain ⟨_,handled,outcome,_⟩ := executed.effect effective downgraded
    rw [payload] at outcome
    simp [runHandler,executeDunning,missing] at outcome

theorem executed_counts
    (executed : Executed rt s key job (runHandler rt s answers job.payload) ending result)
    (guarded : ∀ sub, s.subscription = some sub →
      DunningGuard rt s paid key answers ending job sub) : CountStep s paid result := by
  by_cases counted : result.2.effect = .failureCounted ∨ result.2.effect = .downgraded
  · obtain ⟨next,change,rows⟩ := executed.change
    obtain ⟨sub,found,reported,lands⟩ := executed.counts counted
    have left := ((guarded sub found).failure reported lands).1
    rw [← attempts_eq found] at left
    exact .failure change rows rfl counted left
  · cases payload : job.payload with
    | webhook stored => exact executed_webhook_counts payload executed guarded counted
    | recurringBilling reference => exact executed_renewal_counts payload executed guarded counted
    | dunning attempt reference =>
      cases found : s.subscription with
      | some sub => exact executed_retry_counts payload found executed (guarded sub found) counted
      | none =>
        obtain ⟨nothing,uncalled⟩ := executed_retry_absent payload found executed
        obtain ⟨next,change,rows⟩ := executed.change
        refine .uncounted counted ?_ ?_
        · simp [Report.paysAnew,nothing,uncalled]
        · intro _
          rw [rows.attempts]
          rcases change.attempts_other counted with same | ⟨_,clears⟩
          · exact same
          · simp [nothing] at clears

end Executions

theorem exec_quiet (rt : Runtime)
    (unexecuted : ∀ key answers ending job, event.action = .executeJob key answers ending →
      s.jobWhere key (·.status = .running) ≠ some job) :
    (exec rt s event).2.call = none ∧
      ((exec rt s event).2.effect = .nothing ∨ (exec rt s event).2.effect = .cancelled) := by
  have effect : (exec rt s event).2.effect = .nothing ∨ (exec rt s event).2.effect = .cancelled := by
    by_cases effective : (exec rt s event).2.effect = .nothing
    · exact .inl effective
    · rcases effect_of_action effective with ⟨key,answers,ending,job,action,found⟩ | cancelled
      · exact absurd found (unexecuted key answers ending job action)
      · exact .inr cancelled
  refine ⟨?_,effect⟩
  obtain ⟨wait,action⟩ := event
  cases action with
  | createCheckoutSession request told =>
    simp only [exec,perform]
    split <;> rfl
  | executeJob key answers ending =>
    simp only [exec,perform]
    split
    next job found => exact absurd found (unexecuted key answers ending job rfl)
    · rfl
  | purgeJob key =>
    simp only [exec,perform]
    split <;> rfl
  | cancelSubscription disabled =>
    simp only [exec,perform]
    split <;> rfl
  | _ => rfl

theorem exec_attempts_quiet {rt : Runtime} (effect : (exec rt s event).2.effect = .nothing ∨
      (exec rt s event).2.effect = .cancelled) : (exec rt s event).1.attempts = s.attempts := by
  cases opened : (exec rt s event).2.checkout with
  | none =>
    obtain ⟨next,change,same⟩ := exec_change rt s event opened
    rw [same.attempts]
    rcases change.attempts_other (by rcases effect with is | is <;> simp [is]) with same | ⟨_,clears⟩
    · exact same
    · rcases effect with is | is <;> simp [is] at clears
  | some checkout =>
    obtain ⟨_,_,_,_,_,_,_,_,written⟩ := exec_opened opened
    rw [written]
    cases found : s.subscription <;>
      simp [State.attempts,found,TenantSubscription.openCheckout]

theorem exec_counts {history : DunningHistory}
    (kept : KeepsCycle rt (s,history) event) : CountStep s history.paid (exec rt s event) := by
  by_cases executes : ∃ key answers ending job, event.action = .executeJob key answers ending ∧
      s.jobWhere key (·.status = .running) = some job
  · obtain ⟨key,answers,ending,job,action,found⟩ := executes
    have counts := executed_counts (exec_execute rt action found)
      fun sub row => kept.executes key answers ending job sub action found row
    exact ⟨counts.counted,counts.cleared,counts.same,counts.bounded,counts.aligned⟩
  · push Not at executes
    obtain ⟨uncalled,effect⟩ := exec_quiet rt executes
    refine .uncounted (by rcases effect with is | is <;> simp [is]) ?_
      fun _ => exec_attempts_quiet effect
    rcases effect with is | is <;> simp [Report.paysAnew,is,uncalled]

def KeyedRetries (s : State) : Prop :=
  ∀ attempt job, s.jobs (.dunning attempt) = some job → ∃ n reference, job.payload = .dunning n reference

section Queue

variable {key : JobKey} {effect : Effect} {job : BillingJob} {row : BackgroundJob}

theorem Change.jobs (change : Change rt s effect next) (uncounted : effect ≠ .failureCounted) :
    next.jobs = s.jobs := by
  cases change with
  | chargeApplied => simp
  | failureCounted => contradiction
  | _ => rfl

theorem Change.inDunning (change : Change rt s effect next) (uncounted : effect ≠ .failureCounted)
    (waits : InDunning next) : InDunning s := by
  obtain ⟨sub,found,attention,left⟩ := waits
  cases change with
  | nothing => exact ⟨sub,found,attention,left⟩
  | chargeIgnored => exact ⟨sub,found,attention,left⟩
  | charged before =>
    cases found
    exact ⟨_,before,attention,left⟩
  | recovered => cases found; contradiction
  | resumed => cases found; contradiction
  | chargeApplied =>
    rw [syncChargedPlan_subscription] at found
    cases found
    contradiction
  | activated => cases found; contradiction
  | cancelled => cases found; contradiction
  | failureCounted => contradiction
  | downgraded => cases found; contradiction

theorem Change.downgraded_leaves (change : Change rt s .downgraded next) : ¬InDunning next := by
  rintro ⟨sub,found,attention,_⟩
  cases change with
  | downgraded => cases found; contradiction
  | cancelled _ _ which => simp at which

theorem SameRows.inDunning (same : SameRows s t) (waits : InDunning s) : InDunning t := by
  obtain ⟨sub,found,attention,left⟩ := waits
  exact ⟨sub,same.subscription ▸ found,attention,left⟩

theorem RetryBeside.setJob (beside : RetryBeside s key) (written : Option BillingJob) :
    RetryAwaits (s.setJob key written) := by
  obtain ⟨attempt,job,apart,found,lives⟩ := beside
  exact ⟨attempt,job,by rw [State.setJob_other _ _ _ _ apart]; exact found,lives⟩

theorem RetryAwaits.beside (awaits : RetryAwaits s) (key : JobKey) :
    RetryBeside s key ∨ ∃ attempt job, key = .dunning attempt ∧ s.jobs key = some job ∧
      live job.row = true := by
  obtain ⟨attempt,job,found,lives⟩ := awaits
  by_cases same : JobKey.dunning attempt = key
  · exact .inr ⟨attempt,job,same.symm,same ▸ found,lives⟩
  · exact .inl ⟨attempt,job,same,found,lives⟩

theorem RetryAwaits.setJob (awaits : RetryAwaits s) (key : JobKey) (payload : JobPayload)
    (lives : ∀ attempt, key = .dunning attempt → live row = true) :
    RetryAwaits (s.setJob key (some ⟨payload,row⟩)) := by
  rcases awaits.beside key with beside | ⟨attempt,_,rfl,_,_⟩
  · exact beside.setJob _
  · exact ⟨attempt,⟨payload,row⟩,State.setJob_same ..,lives attempt rfl⟩

theorem enqueueJob_keeps {other : JobKey} {queued : BillingJob} (found : s.jobs other = some job) :
    (enqueueJob s key queued).jobs other = some job := by
  simp only [enqueueJob]
  split
  · exact found
  next free =>
    have apart : other ≠ key := by
      rintro rfl
      rw [free] at found
      contradiction
    rw [State.setJob_other _ _ _ _ apart]
    exact found

theorem enqueueJob_free {queued : BillingJob} (free : s.jobs key = none) :
    (enqueueJob s key queued).jobs key = some queued := by
  simp [enqueueJob,free]

theorem RetryBeside.scheduleRetry (beside : RetryBeside s key) (sub : TenantSubscription) :
    RetryBeside (scheduleRetry rt s sub) key := by
  obtain ⟨attempt,job,apart,found,lives⟩ := beside
  exact ⟨attempt,job,apart,enqueueJob_keeps found,lives⟩

theorem applyFailureTransition_live {message : String} {permanent : Bool}
    (transition : row.applyFailureTransition message now permanent = .ok written) :
    live written = true ∨ (permanent = true ∨ row.maxAttempts ≤ row.attempts) := by
  simp only [BackgroundJob.applyFailureTransition] at transition
  split at transition
  next spent => exact .inr spent
  · obtain ⟨scheduled,_,result⟩ := Enforcement.bind_eq_ok.mp transition
    cases result
    exact .inl rfl

theorem isInstance_append {cls : Jobs.ExceptionClass} {first second : List Jobs.ExceptionClass} :
    cls.isInstance (first ++ second) = true ↔
      cls.isInstance first = true ∨ cls.isInstance second = true := by
  simp only [Jobs.ExceptionClass.isInstance,List.any_eq_true,decide_eq_true_eq,List.mem_append]
  constructor
  · rintro ⟨base,listed,named | named⟩
    · exact .inl ⟨base,listed,named⟩
    · exact .inr ⟨base,listed,named⟩
  · rintro (⟨base,listed,named⟩ | ⟨base,listed,named⟩)
    · exact ⟨base,listed,.inl named⟩
    · exact ⟨base,listed,.inr named⟩

theorem recordFailure_live {written : BackgroundJob}
    (recorded : row.recordFailure error now = .ok written) :
    live written = true ∨ givesUp row error := by
  simp only [BackgroundJob.recordFailure] at recorded
  split_ifs at recorded with permanent timeout cancelled recoverable unexpected
  · exact .inr (.inl permanent)
  · have recoverable : error.cls.isInstance
        (Jobs.jobRuntimeRecoverableErrors ++ Jobs.jobRuntimeUnexpectedErrors) = true := by
      revert timeout
      cases error.cls <;> decide
    exact (applyFailureTransition_live recorded).imp id
      fun spent => .inr ⟨recoverable,by simpa using spent⟩
  · obtain ⟨scheduled,_,result⟩ := Enforcement.bind_eq_ok.mp recorded
    cases result
    exact .inl rfl
  · exact (applyFailureTransition_live recorded).imp id
      fun spent => .inr ⟨isInstance_append.mpr (.inl recoverable),by simpa using spent⟩
  · exact (applyFailureTransition_live recorded).imp id
      fun spent => .inr ⟨isInstance_append.mpr (.inr unexpected),by simpa using spent⟩

theorem recoverStale_live {written : BackgroundJob} {minutes : Nat}
    (recovered : row.recoverStale now minutes = .ok written) :
    live written = true ∨ row.maxAttempts ≤ row.attempts :=
  (applyFailureTransition_live recovered).imp id fun spent => by simpa using spent

end Queue

section Waiting

variable {key : JobKey} {ending : Ending} {job : BillingJob} {result : State × Report}
  {paid : List String}

theorem executeDunning_leaves {chargeReference : String} {enqueues : Bool}
    (handles : (executeDunning rt s chargeReference renewal enqueues).outcome = .ok handled)
    (clears : handled.effect = .charged ∨ handled.effect = .resumed) : ¬InDunning handled.state := by
  rintro ⟨row,foundRow,attention,_⟩
  simp only [executeDunning] at handles
  split at handles
  · contradiction
  next sub found =>
    simp only [finishDunning] at handles
    split at handles
    case h_1 => contradiction
    case h_2 | h_3 =>
      cases handles
      cases foundRow
      contradiction
    case h_4 | h_5 =>
      rcases failRetry_effect handles with is | is | is <;> simp [is] at clears

theorem executeDunning_ends {chargeReference : String} (found : s.subscription = some sub)
    (settled : (executeDunning rt s chargeReference answers.renewal answers.enqueues).settled rt
      .finishes = .ok handled) (uncounted : handled.effect ≠ .failureCounted) :
    ¬InDunning handled.state := by
  have outcome := HandlerRun.settled_finishes settled
  rcases executeDunning_settled chargeReference found with
    ⟨other,done,kinds⟩ | ⟨error,raised,_⟩
  · cases settled.symm.trans done
    rcases kinds with is | is | is | is
    · exact executeDunning_leaves outcome (.inl is)
    · exact executeDunning_leaves outcome (.inr is)
    · exact absurd is uncounted
    · have change := executeDunning_change outcome
      rw [is] at change
      exact change.downgraded_leaves
  · cases settled.symm.trans raised

/-- The retry that a counted failure asks for is queued, or another one waits. -/
theorem counted_awaits (running : s.jobs key = some job)
    (guarded : ∀ sub, s.subscription = some sub →
      DunningGuard rt s paid key answers .finishes job sub)
    (outcome : (runHandler rt s answers job.payload).outcome = .ok handled)
    (counted : handled.effect = .failureCounted) (written : Option BillingJob) :
    RetryAwaits (handled.state.setJob key written) := by
  obtain ⟨sub,found,reported,enqueues⟩ := runHandler_counts outcome counted
  obtain ⟨_,room⟩ := (guarded sub found).failure reported (.inr ⟨enqueues,rfl⟩)
  have change := runHandler_change outcome
  rw [counted] at change
  generalize handled.state = next at change
  cases change with
  | failureCounted before left =>
    cases found.symm.trans before
    rcases room left with free | beside
    · refine ⟨sub.dunningAttempts + 2,dunningJob rt (sub.dunningAttempts + 2)
        (dunningRetryAt (sub.dunningAttempts + 1) s.clock),?_,rfl⟩
      have apart : JobKey.dunning (sub.dunningAttempts + 2) ≠ key := by
        rintro rfl
        rw [free] at running
        contradiction
      rw [State.setJob_other _ _ _ _ apart]
      exact enqueueJob_free free
    · exact (beside.scheduleRetry _).setJob written
  | cancelled _ _ which => simp at which

theorem executeDunning_downgrades {chargeReference : String} {enqueues : Bool}
    (found : s.subscription = some sub)
    (refused : RenewalRefused rt sub (present (some chargeReference)) renewal)
    (spent : dunningMaxAttempts ≤ sub.dunningAttempts + 1) :
    (executeDunning rt s chargeReference renewal enqueues).committed =
      some (handleFinalFailure s (sub.fail s.clock)) := by
  have failed : processFailedPayment rt s false enqueues =
      .downgraded (handleFinalFailure s (sub.fail s.clock)) := by
    simp [processFailedPayment,found,TenantSubscription.fail,spent]
  rcases refused with unauthorized | ⟨terms,reaches,reply⟩
  · simp [executeDunning,found,chargeRenewal,unauthorized,finishDunning,failRetry,failed]
  · simp [executeDunning,found,chargeRenewal_reaches reaches,callProvider,reply,finishDunning,
      failRetry,failed]

theorem kept_inDunning {payload : JobPayload}
    (waits : InDunning ((runHandler rt s answers payload).kept s).1) :
    ((runHandler rt s answers payload).kept s).1 = s := by
  rcases kept_cases rt s answers payload with same | ⟨next,isWebhook,_,downgraded,same⟩
  · rw [same]
  · rw [same] at waits
    exact absurd waits (downgraded_change downgraded).downgraded_leaves

theorem executed_awaits (keyed : KeyedRetries s) (running : s.jobs key = some job)
    (executed : Executed rt s key job (runHandler rt s answers job.payload) ending result)
    (guarded : ∀ sub, s.subscription = some sub →
      DunningGuard rt s paid key answers ending job sub)
    (before : InDunning s → RetryAwaits s) (waits : InDunning result.1) : RetryAwaits result.1 := by
  cases executed with
  | completed handled settled =>
    have outcome := HandlerRun.settled_finishes settled
    by_cases counted : handled.effect = .failureCounted
    · exact counted_awaits running guarded outcome counted _
    · have change := runHandler_change outcome
      have waits : InDunning handled.state := (SameRows.setJob ..).inDunning waits
      have inDunning := change.inDunning counted waits
      rcases (before inDunning).beside key with beside | ⟨attempt,other,rfl,_,_⟩
      · have kept : RetryBeside handled.state key := by
          obtain ⟨attempt,other,apart,found,lives⟩ := beside
          exact ⟨attempt,other,apart,by rw [change.jobs counted]; exact found,lives⟩
        exact kept.setJob _
      · obtain ⟨n,reference,payload⟩ := keyed attempt job running
        obtain ⟨sub,found,_⟩ := inDunning
        rw [payload] at settled
        exact absurd waits (executeDunning_ends found settled counted)
  | lost =>
    have same := kept_inDunning waits
    rw [same] at waits ⊢
    exact before waits
  | abandoned =>
    have same := kept_inDunning waits
    rw [same] at waits ⊢
    exact before waits
  | failed survives error settled row recorded =>
    have inDunning : InDunning ((runHandler rt s answers job.payload).kept s).1 :=
      (SameRows.setJob ..).inDunning waits
    have same := kept_inDunning inDunning
    rw [same] at inDunning
    dsimp only
    rw [same]
    rcases (before inDunning).beside key with beside | ⟨attempt,other,rfl,_,_⟩
    · exact beside.setJob _
    · rcases recordFailure_live recorded with lives | spent
      · exact (before inDunning).setJob _ _ fun _ _ => lives
      · obtain ⟨n,reference,payload⟩ := keyed attempt job running
        obtain ⟨sub,found,attention⟩ := inDunning
        have raised : ending = .interrupted error ∨ (ending = .finishes ∧
            RetryRaises rt sub (present (some reference)) answers error) := by
          cases ending with
          | lost => contradiction
          | interrupted raised =>
            cases settled
            exact .inl rfl
          | finishes =>
            rw [payload] at settled
            rcases executeDunning_settled reference found with
              ⟨_,done,_⟩ | ⟨raised,done,raises⟩
            · cases settled.symm.trans done
            · cases settled.symm.trans done
              exact .inr ⟨rfl,raises⟩
        have undecided : ¬(RenewalRefused rt sub (present (some reference)) answers.renewal ∧
            dunningMaxAttempts ≤ sub.dunningAttempts + 1) := by
          rintro ⟨refused,last⟩
          have kept : ((runHandler rt s answers job.payload).kept s).1 =
              handleFinalFailure s (sub.fail s.clock) := by
            simp [payload,runHandler,HandlerRun.kept,executeDunning_downgrades found refused last]
          have cancelled := congrArg (Option.map (·.status) ∘ State.subscription)
            (kept.symm.trans same)
          simp [handleFinalFailure,found,attention.1] at cancelled
        exact ((guarded sub found).exhaustion n reference error payload raised undecided spent
          ⟨sub,found,attention⟩).setJob _

end Waiting

section Steps

variable {history : DunningHistory}

theorem exec_inDunning {rt : Runtime} (effect : (exec rt s event).2.effect = .nothing ∨
      (exec rt s event).2.effect = .cancelled) (waits : InDunning (exec rt s event).1) :
    InDunning s := by
  cases opened : (exec rt s event).2.checkout with
  | none =>
    obtain ⟨next,change,same⟩ := exec_change rt s event opened
    have back := change.inDunning (by rcases effect with is | is <;> simp [is]) (same.inDunning waits)
    exact back
  | some checkout =>
    obtain ⟨_,_,_,_,_,_,_,_,written⟩ := exec_opened opened
    obtain ⟨sub,found,attention,left⟩ := waits
    rw [written] at found
    cases row : s.subscription with
    | none =>
      simp only [row] at found
      cases found
      contradiction
    | some old =>
      simp only [row] at found
      cases found
      exact ⟨old,row,attention,left⟩

theorem rewriteJob_awaits {key : JobKey} {test : BackgroundJob → Bool}
    {rewrite : BackgroundJob → Except Raised BackgroundJob} (awaits : RetryAwaits s)
    (lives : ∀ attempt job row, key = .dunning attempt → s.jobs key = some job →
      test job.row = true → rewrite job.row = .ok row → live row = true ∨ RetryBeside s key) :
    RetryAwaits (s.rewriteJob key test rewrite) := by
  simp only [State.rewriteJob]
  split
  · exact awaits
  next job found =>
    obtain ⟨stored,passes⟩ := Option.filter_eq_some_iff.mp found
    split
    next row written =>
      rcases awaits.beside key with beside | ⟨attempt,_,rfl,_,_⟩
      · exact beside.setJob _
      · rcases lives attempt job row rfl stored passes written with lives | beside
        · exact awaits.setJob _ _ fun _ _ => lives
        · exact beside.setJob _
    · exact awaits

theorem exec_awaits (keyed : KeyedRetries s) (kept : KeepsCycle rt (s,history) event)
    (before : InDunning s → RetryAwaits s) (waits : InDunning (exec rt s event).1) :
    RetryAwaits (exec rt s event).1 := by
  by_cases executes : ∃ key answers ending job, event.action = .executeJob key answers ending ∧
      s.jobWhere key (·.status = .running) = some job
  · obtain ⟨key,answers,ending,job,action,found⟩ := executes
    have running : (s.tick event.wait).jobs key = some job := (Option.filter_eq_some_iff.mp found).1
    exact executed_awaits (s := s.tick event.wait) keyed running (exec_execute rt action found)
      (fun sub row => kept.executes key answers ending job sub action found row) before waits
  · push Not at executes
    have inDunning := exec_inDunning (exec_quiet rt executes).2 waits
    have awaits : RetryAwaits (s.tick event.wait) := before inDunning
    have recovers := kept.recovers
    obtain ⟨wait,action⟩ := event
    cases action with
    | createCheckoutSession request told =>
      simp only [exec,perform]
      split
      next opened done =>
        obtain ⟨_,_,_,_,_,written⟩ := createCheckoutSession_opens done
        rw [written]
        exact awaits
      · exact awaits
    | storeWebhook stored =>
      have notRetry (attempt : Nat) : webhookKey rt stored ≠ .dunning attempt := by
        simp [webhookKey]
      simp only [exec,perform,storeWebhook]
      split
      · exact awaits.setJob _ _ fun attempt same => absurd same (notRetry attempt)
      · split
        · exact awaits
        · exact awaits.setJob _ _ fun attempt same => absurd same (notRetry attempt)
    | billingSweep =>
      simp only [exec,perform,billingSweep]
      split
      · obtain ⟨attempt,job,found,lives⟩ := awaits
        exact ⟨attempt,job,enqueueJob_keeps found,lives⟩
      · exact awaits
    | fetchJob key =>
      simp only [exec,perform]
      apply rewriteJob_awaits awaits
      intro attempt job row _ _ _ fetched
      cases fetched
      exact .inl rfl
    | executeJob key answers ending =>
      simp only [exec,perform]
      split
      next job found => exact absurd found (executes key answers ending job rfl)
      · exact awaits
    | recoverJob key =>
      simp only [exec,perform]
      apply rewriteJob_awaits awaits
      intro attempt job row same found stale recovered
      subst same
      rcases recoverStale_live recovered with lives | spent
      · exact .inl lives
      · exact .inr (recovers attempt job rfl found stale spent inDunning)
    | purgeJob key =>
      simp only [exec,perform]
      split
      next job found =>
        rcases awaits.beside key with beside | ⟨attempt,other,rfl,stored,lives⟩
        · exact beside.setJob none
        · obtain ⟨same,terminal⟩ := Option.filter_eq_some_iff.mp found
          cases stored.symm.trans same
          simp only [purgeable] at terminal
          simp only [live,Bool.or_eq_true,decide_eq_true_eq] at lives
          rcases lives with is | is <;> simp [is] at terminal
      · exact awaits
    | cancelSubscription disabled =>
      simp only [exec,perform]
      split
      next last done =>
        simp only [cancelSubscription] at done
        split at done
        · contradiction
        · split_ifs at done
          obtain ⟨_,_,rfl⟩ := map_eq_ok.mp done
          exact awaits
      · exact awaits
    | pass => exact awaits

end Steps

section Keys

variable {key : JobKey} {job : BillingJob}

theorem KeyedRetries.setJob (keyed : KeyedRetries s) (written : Option BillingJob)
    (fits : ∀ attempt job, key = .dunning attempt → written = some job →
      ∃ n reference, job.payload = .dunning n reference) : KeyedRetries (s.setJob key written) := by
  intro attempt job found
  by_cases same : JobKey.dunning attempt = key
  · subst same
    rw [State.setJob_same] at found
    exact fits attempt job rfl found
  · rw [State.setJob_other _ _ _ _ same] at found
    exact keyed attempt job found

theorem KeyedRetries.rewritten (keyed : KeyedRetries s) (found : s.jobs key = some job)
    {t : State} (keyed' : KeyedRetries t) (row : BackgroundJob) :
    KeyedRetries (t.setJob key (some ⟨job.payload,row⟩)) := by
  apply keyed'.setJob
  rintro attempt _ rfl same
  cases same
  exact keyed attempt job found

theorem KeyedRetries.rewriteJob (keyed : KeyedRetries s) (key : JobKey)
    (test : BackgroundJob → Bool) (rewrite : BackgroundJob → Except Raised BackgroundJob) :
    KeyedRetries (s.rewriteJob key test rewrite) := by
  simp only [State.rewriteJob]
  split
  · exact keyed
  next job found =>
    split
    · exact keyed.rewritten (Option.filter_eq_some_iff.mp found).1 keyed _
    · exact keyed

theorem Change.keyed {effect : Effect} (change : Change rt s effect next) (keyed : KeyedRetries s) :
    KeyedRetries next := by
  by_cases counted : effect = .failureCounted
  · subst counted
    cases change with
    | failureCounted found left =>
      simp only [scheduleRetry,enqueueJob]
      split
      · exact keyed
      · apply KeyedRetries.setJob (s := s.setSubscription _) keyed
        rintro attempt job _ same
        cases same
        exact ⟨_,_,rfl⟩
    | cancelled _ _ which => simp at which
  · intro attempt job found
    rw [change.jobs counted] at found
    exact keyed attempt job found

end Keys

theorem exec_law {history : DunningHistory} (keyed : KeyedRetries s) (law : DunningLaw (s,history))
    (kept : KeepsCycle rt (s,history) event) :
    DunningLaw (withHistory (exec rt) DunningHistory.note (s,history) event).1 := by
  have step := exec_counts kept
  have counted : s.attempts = history.failures := law.counted
  refine ⟨?_,step.bounded law.bounded,exec_awaits keyed kept law.awaited,?_⟩
  · simp only [withHistory_state,withHistory_history,DunningHistory.note]
    split_ifs with counts pays
    · rw [step.counted counts,counted]
    · exact step.cleared counts pays
    · rw [step.same counts (by simpa using pays),counted]
  · have aligned : history.aligned = true := law.aligned
    simp only [withHistory_history,DunningHistory.note,aligned,Bool.true_and,decide_eq_true_eq]
    exact step.aligned law.bounded

end Valdrics.Billing

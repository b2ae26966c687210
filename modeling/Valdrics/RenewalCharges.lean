import Valdrics.CheckoutHonoured

/-! When the renewal jobs of one subscription charge: the sweep looks at the due date, the
execution of a job does not look again. -/
namespace Valdrics.Billing

open PythonText

/-- A successful provider call of a renewal job: its moment, the due date that the row had, and
the due date that the row has after the step. -/
structure RenewalEntry where
  moment : Int
  found : Option Int
  left : Option Int
  deriving DecidableEq

def Event.renews (event : Event) (s : State) : Option String :=
  match event.action with
  | .executeJob key _ _ => (s.jobWhere key (·.status = .running)).bind fun job =>
    match job.payload with
    | .recurringBilling reference => some reference
    | _ => none
  | _ => none

def State.dueDate (s : State) : Option Int := s.subscription.bind (·.nextPaymentDate)

def noteRenewal (log : List RenewalEntry) (s : State) (event : Event) (result : State × Report) :
    List RenewalEntry :=
  if (event.renews s).isSome && result.2.call.any (·.succeeded) then
    log ++ [⟨result.1.clock,s.dueDate,result.1.dueDate⟩]
  else log

/-- One charge a period: each charge finds the subscription due and leaves its date ahead, and
the date that a charge has set comes before every later charge. -/
structure OncePerPeriod (log : List RenewalEntry) : Prop where
  due : ∀ entry ∈ log, ∃ date, entry.found = some date ∧ date ≤ entry.moment
  ahead : ∀ entry ∈ log, ∃ date, entry.left = some date ∧ entry.moment < date
  apart : log.Pairwise fun earlier later => ∃ date, earlier.left = some date ∧ date ≤ later.moment

/-- Nothing but a renewal job sets the due date: no step executes a dunning retry or the event
of a new subscription. -/
def DatedByRenewals (s : State × List RenewalEntry) (event : Event) : Prop :=
  ∀ key answers ending job, event.action = .executeJob key answers ending →
    s.1.jobWhere key (·.status = .running) = some job →
    match job.payload with
    | .recurringBilling _ => True
    | .webhook stored => ∀ data, stored.body ≠ .subscriptionCreate data
    | .dunning _ _ => False

/-- A renewal job whose charge the provider answers as successful finds the subscription due,
and the answer is recorded with a date that is not behind. -/
def ChargesWhenDue (rt : Runtime) (s : State × List RenewalEntry) (event : Event) : Prop :=
  ∀ key answers ending reference sub terms data, event.action = .executeJob key answers ending →
    event.renews s.1 = some reference → s.1.subscription = some sub → sub.status = .active →
    ReachesProvider rt sub (present (some reference)) answers.renewal terms →
    answers.renewal.reply = .success data →
    (∃ date, sub.nextPaymentDate = some date ∧ date ≤ (s.1.tick event.wait).clock) ∧
      ending = .finishes ∧ (∃ cycle, chargedBillingCycle rt.text sub data = .ok cycle) ∧
      ∀ date, providerNextPaymentDate sub answers.renewal data = some date →
        (s.1.tick event.wait).clock < date

variable {rt : Runtime} {s t : State} {event : Event} {renewal : RenewalAnswers}
  {sub : TenantSubscription} {reference : Option String} {now : Int}

theorem daysLong_pos {days : Nat} (some_ : 0 < days) : 0 < daysLong days := by
  have micros : Jobs.microseconds (86400 * days) = (86400 * days : Nat) * 1000000 := rfl
  have seconds : 0 < ((86400 * days : Nat) : Int) := by omega
  rw [daysLong,micros]
  omega

theorem fallback_ahead (sub : TenantSubscription) {days : Nat} (some_ : 0 < days) (now : Int) :
    now < computeFallbackNextPaymentDate sub days now := by
  have length := daysLong_pos some_
  simp only [computeFallbackNextPaymentDate]
  split_ifs with behind
  · omega
  · omega

theorem inferIntervalDays_pos (text : Lowercase) (data : ChargeData) :
    0 < inferIntervalDays text data := by
  simp only [inferIntervalDays]
  split_ifs <;> omega

theorem resolved_ahead_iff (text : Lowercase) (data : ChargeData) :
    now < resolveRenewalNextPaymentDate text sub renewal data now ↔
      ∀ date, providerNextPaymentDate sub renewal data = some date → now < date := by
  simp only [resolveRenewalNextPaymentDate]
  cases providerNextPaymentDate sub renewal data with
  | none => simpa using fallback_ahead sub (inferIntervalDays_pos text data) now
  | some date => simp

theorem chargeRenewal_succeeds_iff :
    (chargeRenewal rt sub reference renewal now).call.any (·.succeeded) = true ↔
      ∃ terms data, ReachesProvider rt sub reference renewal terms ∧
        renewal.reply = .success data := by
  constructor
  · intro succeeded
    have called : (chargeRenewal rt sub reference renewal now).call.isSome = true := by
      obtain ⟨call,made,_⟩ := (Option.any_eq_true _ _).mp succeeded
      simp [made]
    obtain ⟨terms,reaches⟩ := chargeRenewal_call_isSome.mp called
    rw [chargeRenewal_reaches reaches] at succeeded
    simp only [callProvider] at succeeded
    cases reply : renewal.reply with
    | raised error => simp [reply] at succeeded
    | unsuccessful => simp [reply] at succeeded
    | success data => exact ⟨terms,data,reaches,rfl⟩
  · rintro ⟨terms,data,reaches,reply⟩
    simp [chargeRenewal_reaches reaches,callProvider,reply]

theorem finishRecurringBilling_call (renewed : Renewal) :
    (finishRecurringBilling s renewed).call = renewed.call := by
  simp only [finishRecurringBilling]
  split <;> rfl

theorem executeRecurringBilling_succeeds_iff {chargeReference : String} :
    (executeRecurringBilling rt s chargeReference renewal).call.any (·.succeeded) = true ↔
      ∃ sub terms data, s.subscription = some sub ∧ sub.status = .active ∧
        ReachesProvider rt sub (present (some chargeReference)) renewal terms ∧
        renewal.reply = .success data := by
  simp only [executeRecurringBilling]
  cases found : s.subscription with
  | none => simp
  | some sub =>
    by_cases active : sub.status = .active
    · simp [active,finishRecurringBilling_call,chargeRenewal_succeeds_iff]
    · simp [active]

theorem executeRecurringBilling_charged {chargeReference : String} {handled : Handled}
    (handles : (executeRecurringBilling rt s chargeReference renewal).outcome = .ok handled)
    (charged : handled.effect = .charged) :
    (executeRecurringBilling rt s chargeReference renewal).call.any (·.succeeded) = true := by
  simp only [executeRecurringBilling] at handles ⊢
  split at handles
  · contradiction
  next sub found =>
    split_ifs at handles with inactive
    · cases handles
      contradiction
    · rw [if_neg inactive,finishRecurringBilling_call,chargeRenewal_succeeds_iff]
      simp only [finishRecurringBilling] at handles
      split at handles
      case h_2 row result =>
        obtain ⟨terms,data,_,reaches,reply,_⟩ := chargeRenewal_charged result
        exact ⟨terms,data,reaches,reply⟩
      case h_3 =>
        cases handles
        contradiction
      all_goals contradiction

theorem SameRows.dueDate (same : SameRows s t) : s.dueDate = t.dueDate := by
  simp [State.dueDate,same.subscription]

theorem Change.dueDate {effect : Effect} {next : State} (change : Change rt s effect next)
    (uncharged : effect ≠ .charged) (unactivated : effect ≠ .activated) :
    next.dueDate = s.dueDate := by
  cases change with
  | nothing => rfl
  | chargeIgnored => rfl
  | charged => contradiction
  | recovered => contradiction
  | resumed found => simp [State.dueDate,found,handleRetrySuccess,TenantSubscription.reactivate]
  | chargeApplied => cases found : s.subscription <;>
      simp [State.dueDate,found,TenantSubscription.applyCharge]
  | activated => contradiction
  | cancelled found => simp [State.dueDate,found]
  | failureCounted found => simp [State.dueDate,found,scheduleRetry,TenantSubscription.fail]
  | downgraded found => simp [State.dueDate,found,handleFinalFailure,TenantSubscription.fail]

theorem renews_iff {chargeReference : String} :
    event.renews s = some chargeReference ↔ ∃ key answers ending job,
      event.action = .executeJob key answers ending ∧
      s.jobWhere key (·.status = .running) = some job ∧
      job.payload = .recurringBilling chargeReference := by
  simp only [Event.renews]
  constructor
  · intro renews
    split at renews
    next key answers ending action =>
      obtain ⟨job,found,carries⟩ := Option.bind_eq_some_iff.mp renews
      refine ⟨key,answers,ending,job,action,found,?_⟩
      split at carries
      next payload => cases carries; exact payload
      · contradiction
    · contradiction
  · rintro ⟨key,answers,ending,job,action,found,payload⟩
    simp [action,found,payload]

def dateAfter (text : Lowercase) (sub : TenantSubscription) (renewal : RenewalAnswers)
    (data : ChargeData) (now : Int) : Ending → Option Int
  | .finishes =>
    match chargedBillingCycle text sub data with
    | .ok _ => some (resolveRenewalNextPaymentDate text sub renewal data now)
    | .error _ => sub.nextPaymentDate
  | _ => sub.nextPaymentDate

theorem renewed_dueDate {chargeReference : String} {terms : ChargeTerms} {data : ChargeData}
    (ending : Ending) (found : s.subscription = some sub) (active : sub.status = .active)
    (reaches : ReachesProvider rt sub (present (some chargeReference)) renewal terms)
    (reply : renewal.reply = .success data) :
    ((executeRecurringBilling rt s chargeReference renewal).rows rt s ending).dueDate =
      dateAfter rt.text sub renewal data s.clock ending := by
  have run : executeRecurringBilling rt s chargeReference renewal =
      finishRecurringBilling s (callProvider rt sub renewal terms
        (effectiveReference rt sub (present (some chargeReference))) s.clock) := by
    simp [executeRecurringBilling,found,active,chargeRenewal_reaches reaches]
  have before : s.dueDate = sub.nextPaymentDate := by simp [State.dueDate,found]
  rw [run]
  cases ending with
  | finishes =>
    cases cycle : chargedBillingCycle rt.text sub data with
    | error error => simp [HandlerRun.rows,HandlerRun.settled,finishRecurringBilling,callProvider,
        reply,finishRenewal,cycle,Except.bind,HandlerRun.kept,before,dateAfter]
    | ok charged =>
      have fine : Jobs.raiseForFailedResult rt.text { status := "completed" } = .ok () := by
        apply raiseForFailedResult_ok
        · decide
        · decide
      simp [HandlerRun.rows,HandlerRun.settled,finishRecurringBilling,callProvider,reply,
        finishRenewal,cycle,Except.bind,Except.map,fine,State.dueDate,TenantSubscription.charge,
        dateAfter]
  | _ =>
    cases cycle : chargedBillingCycle rt.text sub data <;>
      simp [HandlerRun.rows,finishRecurringBilling,callProvider,reply,finishRenewal,cycle,
        HandlerRun.kept,before,dateAfter]

theorem exec_undated {log : List RenewalEntry} {key : JobKey} {answers : JobAnswers}
    {ending : Ending} {job : BillingJob} (admitted : DatedByRenewals (s,log) event)
    (unlogged : noteRenewal log s event (exec rt s event) = log)
    (action : event.action = .executeJob key answers ending)
    (found : s.jobWhere key (·.status = .running) = some job) :
    (exec rt s event).2.effect ≠ .charged ∧ (exec rt s event).2.effect ≠ .activated := by
  have executed := exec_execute rt action found
  have kind := admitted key answers ending job action found
  by_cases effective : (exec rt s event).2.effect = .nothing ∨
      (exec rt s event).2.effect = .downgraded
  · rcases effective with none_ | downgraded
    · simp [none_]
    · simp [downgraded]
  · push Not at effective
    obtain ⟨_,handled,outcome,same⟩ := executed.effect effective.1 effective.2
    rw [same]
    obtain ⟨payload,row⟩ := job
    cases payload with
    | webhook stored =>
      obtain ⟨uncharged,_,activates⟩ := processPaystackWebhook_effect outcome
      refine ⟨uncharged,?_⟩
      intro activated
      obtain ⟨data,body⟩ := activates activated
      exact kind data body
    | recurringBilling reference =>
      refine ⟨?_,?_⟩
      · intro charged
        have succeeded := executeRecurringBilling_charged outcome charged
        have logged : noteRenewal log s event (exec rt s event) ≠ log := by
          have renews : event.renews s = some reference :=
            renews_iff.mpr ⟨key,answers,ending,_,action,found,rfl⟩
          have call : (exec rt s event).2.call.any (·.succeeded) = true := by
            rw [executed.call]
            exact succeeded
          simp [noteRenewal,renews,call]
        exact logged unlogged
      · rcases executeRecurringBilling_effect outcome with nothing | charged
        · simp [nothing]
        · simp [charged]
    | dunning attempt reference => exact kind.elim

theorem exec_dueDate {log : List RenewalEntry} (admitted : DatedByRenewals (s,log) event)
    (unlogged : noteRenewal log s event (exec rt s event) = log) :
    (exec rt s event).1.dueDate = s.dueDate := by
  cases opened : (exec rt s event).2.checkout with
  | some checkout =>
    obtain ⟨_,_,_,_,_,_,_,_,written⟩ := exec_opened opened
    rw [written]
    cases found : s.subscription <;> simp [State.dueDate,found,TenantSubscription.openCheckout]
  | none =>
    obtain ⟨next,change,same⟩ := exec_change rt s event opened
    rw [same.dueDate]
    have dated : (exec rt s event).2.effect ≠ .charged ∧ (exec rt s event).2.effect ≠ .activated := by
      by_cases effective : (exec rt s event).2.effect = .nothing
      · simp [effective]
      · rcases effect_of_action effective with ⟨key,answers,ending,job,action,found⟩ | cancelled
        · exact exec_undated admitted unlogged action found
        · simp [cancelled]
    exact change.dueDate dated.1 dated.2

structure RenewalInvariant (s : State × List RenewalEntry) : Prop where
  once : OncePerPeriod s.2
  last : ∀ entry, s.2.getLast? = some entry → entry.left = s.1.dueDate

theorem OncePerPeriod.past {log : List RenewalEntry} {moment : Int} (once : OncePerPeriod log)
    (last : ∀ entry, log.getLast? = some entry → ∃ date, entry.left = some date ∧ date ≤ moment)
    (earlier : RenewalEntry) (listed : earlier ∈ log) :
    ∃ date, earlier.left = some date ∧ date ≤ moment := by
  rcases List.eq_nil_or_concat log with rfl | ⟨front,final,rfl⟩
  · contradiction
  · rw [List.concat_eq_append] at once last listed
    obtain ⟨set_,finalSet,come⟩ := last final (by simp)
    rcases List.mem_append.mp listed with inFront | isFinal
    · obtain ⟨date,earlierSet,before⟩ :=
        (List.pairwise_append.mp once.apart).2.2 earlier inFront final (by simp)
      obtain ⟨ahead,finalAhead,later⟩ := once.ahead final (by simp)
      rw [finalSet] at finalAhead
      cases finalAhead
      exact ⟨date,earlierSet,by omega⟩
    · cases List.mem_singleton.mp isFinal
      exact ⟨set_,finalSet,come⟩

/-- One more charge of a subscription that was due keeps the law. -/
theorem OncePerPeriod.snoc {log : List RenewalEntry} {entry : RenewalEntry}
    (once : OncePerPeriod log)
    (last : ∀ earlier, log.getLast? = some earlier → earlier.left = entry.found)
    (due : ∃ date, entry.found = some date ∧ date ≤ entry.moment)
    (ahead : ∃ date, entry.left = some date ∧ entry.moment < date) :
    OncePerPeriod (log ++ [entry]) where
  due := by
    intro other listed
    rcases List.mem_append.mp listed with old | new
    · exact once.due other old
    · cases List.mem_singleton.mp new
      exact due
  ahead := by
    intro other listed
    rcases List.mem_append.mp listed with old | new
    · exact once.ahead other old
    · cases List.mem_singleton.mp new
      exact ahead
  apart := by
    refine List.pairwise_append.mpr ⟨once.apart,List.pairwise_singleton ..,?_⟩
    intro earlier listed later new
    cases List.mem_singleton.mp new
    refine once.past ?_ earlier listed
    intro final isLast
    rw [last final isLast]
    exact due

theorem noteRenewal_charge (log : List RenewalEntry) {key : JobKey} {answers : JobAnswers}
    {ending : Ending} {chargeReference : String} {terms : ChargeTerms} {data : ChargeData}
    (action : event.action = .executeJob key answers ending)
    (renews : event.renews s = some chargeReference) (found : s.subscription = some sub)
    (active : sub.status = .active)
    (reaches : ReachesProvider rt sub (present (some chargeReference)) answers.renewal terms)
    (reply : answers.renewal.reply = .success data) :
    noteRenewal log s event (exec rt s event) =
      log ++ [⟨(s.tick event.wait).clock,sub.nextPaymentDate,(exec rt s event).1.dueDate⟩] ∧
    (exec rt s event).1.dueDate =
      dateAfter rt.text sub answers.renewal data (s.tick event.wait).clock ending := by
  obtain ⟨key',answers',ending',job,action',running,payload⟩ := renews_iff.mp renews
  rw [action] at action'
  cases action'
  have executed := exec_execute rt action running
  have rows := executeJob_rows rt (s.tick event.wait) key job
    (runHandler rt (s.tick event.wait) answers job.payload) ending
  have result : exec rt s event = executeJob rt (s.tick event.wait) key job
      (runHandler rt (s.tick event.wait) answers job.payload) ending := by
    have running' : (s.tick event.wait).jobWhere key (·.status = .running) = some job := running
    simp only [exec,perform,action,running']
  constructor
  · have call : (exec rt s event).2.call.any (·.succeeded) = true := by
      rw [executed.call,payload]
      exact executeRecurringBilling_succeeds_iff.mpr ⟨sub,terms,data,found,active,reaches,reply⟩
    simp [noteRenewal,renews,call,exec_clock,State.dueDate,found]
  · rw [result,rows.dueDate,payload]
    exact renewed_dueDate (s := s.tick event.wait) ending found active reaches reply

theorem noteRenewal_uncharged {log : List RenewalEntry}
    (uncharged : noteRenewal log s event (exec rt s event) ≠ log) :
    ∃ key answers ending chargeReference sub terms data,
      event.action = .executeJob key answers ending ∧ event.renews s = some chargeReference ∧
      s.subscription = some sub ∧ sub.status = .active ∧
      ReachesProvider rt sub (present (some chargeReference)) answers.renewal terms ∧
      answers.renewal.reply = .success data := by
  simp only [noteRenewal] at uncharged
  split at uncharged
  next logged =>
    simp only [Bool.and_eq_true] at logged
    obtain ⟨chargeReference,renews⟩ := Option.isSome_iff_exists.mp logged.1
    obtain ⟨key,answers,ending,job,action,running,payload⟩ := renews_iff.mp renews
    have succeeded := logged.2
    rw [(exec_execute rt action running).call,payload] at succeeded
    obtain ⟨sub,terms,data,found,active,reaches,reply⟩ :=
      executeRecurringBilling_succeeds_iff.mp succeeded
    exact ⟨key,answers,ending,chargeReference,sub,terms,data,action,renews,found,active,reaches,reply⟩
  · contradiction

/-- In every run whose due dates only renewal jobs set: the renewal jobs charge once a period
exactly when each of their charges finds the subscription due and records a date ahead. -/
theorem renewals_once_per_period_iff (rt : Runtime) (s : State) (events : List Event)
    (dated : EachStep (withHistory (exec rt) noteRenewal) DatedByRenewals (s,[]) events) :
    Always (withHistory (exec rt) noteRenewal) (fun s => OncePerPeriod s.2) (s,[]) events ↔
      EachStep (withHistory (exec rt) noteRenewal) (ChargesWhenDue rt) (s,[]) events := by
  apply always_iff_eachStep_within _ DatedByRenewals (ChargesWhenDue rt) _ RenewalInvariant
    (fun _ kept => kept.once) _ _ (s,[]) events _ dated
  · rintro ⟨s,log⟩ event kept admitted guard
    by_cases logged : noteRenewal log s event (exec rt s event) = log
    · refine ⟨?_,?_⟩
      · simpa [logged] using kept.once
      · intro entry isLast
        simp only [withHistory_history,logged] at isLast
        exact (kept.last entry isLast).trans (exec_dueDate admitted logged).symm
    · obtain ⟨key,answers,ending,chargeReference,sub,terms,data,action,renews,found,active,reaches,
        reply⟩ := noteRenewal_uncharged logged
      obtain ⟨due,finishes,⟨cycle,named⟩,ahead⟩ := guard key answers ending chargeReference sub terms
        data action renews found active reaches reply
      obtain ⟨entry,left⟩ := noteRenewal_charge log action renews found active reaches reply
      simp only [finishes,dateAfter,named] at left
      refine ⟨?_,?_⟩
      · simp only [withHistory_history,entry]
        refine kept.once.snoc ?_ due ?_
        · intro earlier isLast
          exact (kept.last earlier isLast).trans (by simp [State.dueDate,found])
        · exact ⟨_,left,(resolved_ahead_iff rt.text data).mpr ahead⟩
      · intro last isLast
        simp only [withHistory_history,entry,List.getLast?_append,List.getLast?_singleton,
          Option.some_or,Option.some.injEq] at isLast
        subst isLast
        rfl
  · rintro ⟨s,log⟩ event kept admitted unguarded once
    apply unguarded
    intro key answers ending chargeReference sub terms data action renews found active reaches reply
    obtain ⟨entry,left⟩ := noteRenewal_charge log action renews found active reaches reply
    simp only [withHistory_history,entry] at once
    obtain ⟨date,foundDate,come⟩ :=
      once.due _ (List.mem_append_right log (List.mem_singleton_self _))
    obtain ⟨next,leftDate,later⟩ :=
      once.ahead _ (List.mem_append_right log (List.mem_singleton_self _))
    rw [left] at leftDate
    have moved : sub.nextPaymentDate ≠ some next := by
      intro unmoved
      obtain rfl := Option.some.inj (foundDate.symm.trans unmoved)
      exact absurd come (not_le.mpr later)
    refine ⟨⟨date,foundDate,come⟩,?_⟩
    cases ending with
    | finishes =>
      simp only [dateAfter] at leftDate
      split at leftDate
      next cycle named =>
        cases leftDate
        exact ⟨rfl,⟨cycle,named⟩,(resolved_ahead_iff rt.text data).mp later⟩
      · contradiction
    | interrupted error => contradiction
    | lost => contradiction
  · refine ⟨⟨?_,?_,List.Pairwise.nil⟩,?_⟩
    all_goals
      intro entry listed
      contradiction

def oneRenewal : List Event := ⟨0,.billingSweep⟩ :: works (.recurringBilling "0001-01-01") (.success {})

theorem renewals_once_per_period_iff_oneRenewal :
    Always (withHistory (exec plainRuntime) noteRenewal) (fun s => OncePerPeriod s.2)
        (subscribed 1,[]) oneRenewal ↔
      EachStep (withHistory (exec plainRuntime) noteRenewal) (ChargesWhenDue plainRuntime)
        (subscribed 1,[]) oneRenewal := by
  refine renewals_once_per_period_iff plainRuntime (subscribed 1) oneRenewal ⟨?_,?_,?_,trivial⟩
  · intro key answers ending job action
    contradiction
  · intro key answers ending job action
    contradiction
  · intro key answers ending job action found
    cases action
    have kind := congrArg (Option.map (·.payload)) found
    have carries : Option.map (·.payload) (some job) =
        some (.recurringBilling (buildChargeReference plainRuntime "renewal" "0001-01-01")) := by
      rw [← kind]
      decide
    have payload : job.payload = _ := Option.some.inj carries
    rw [payload]
    trivial

/-- The sweeps of two days find the subscription due, and then both jobs are worked off. -/
def leftoverJob : List Event :=
  [⟨0,.billingSweep⟩,⟨(daysLong 1).toNat,.billingSweep⟩] ++
    works (.recurringBilling "0001-01-02") (.success {}) ++
    works (.recurringBilling "0001-01-01") (.success {})

/-- The job of the first day charges once more, a month before the next date. -/
theorem leftover_job_charges_again :
    ¬Always (withHistory (exec plainRuntime) noteRenewal) (fun s => OncePerPeriod s.2)
      (subscribed 1,[]) leftoverJob := by
  intro always
  obtain ⟨date,found,come⟩ := always.2.2.2.2.2.2.due
    ⟨86400000012,some 2592000000001,some 5184000000001⟩ (by decide)
  cases found
  contradiction

end Valdrics.Billing

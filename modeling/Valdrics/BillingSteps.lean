import Valdrics.BillingOperations

/-! What a step can do to the subscription row, by the effect that it reports. -/
namespace Valdrics.Billing

open PythonText
open Jobs (Raised HandlerResult)

variable {rt : Runtime} {s : State} {answers : JobAnswers} {handled : Handled} {next : State}

theorem map_eq_ok {f : α → β} {x : Except ε α} {b : β} :
    x.map f = .ok b ↔ ∃ a, x = .ok a ∧ f a = b := by
  cases x <;> simp [Except.map]

inductive Change (rt : Runtime) (s : State) : Effect → State → Prop where
  | nothing : Change rt s .nothing s
  | chargeIgnored : Change rt s .chargeIgnored s
  | charged (found : s.subscription = some sub) (terms : ChargeTerms) (reference : String)
      (due : Int) (cycle : BillingCycle) :
      Change rt s .charged (s.setSubscription (sub.charge terms reference due cycle s.clock))
  | recovered (found : s.subscription = some sub) (terms : ChargeTerms) (reference : String)
      (due : Int) (cycle : BillingCycle) :
      Change rt s .charged (handleRetrySuccess s (sub.charge terms reference due cycle s.clock))
  | resumed (found : s.subscription = some sub) : Change rt s .resumed (handleRetrySuccess s sub)
  | chargeApplied (reference : Option String) (data : ChargeSuccess) :
      Change rt s .chargeApplied (syncChargedPlan
        (s.setSubscription ((s.subscription.getD {}).applyCharge rt reference data s.clock))
        (chargeTier rt data))
  | activated (found : s.subscription = some sub) (code token : Option String)
      (due : Option Int) : Change rt s .activated (s.setSubscription { sub with
        paystackSubscriptionCode := code
        paystackEmailToken := token
        nextPaymentDate := due
        status := .active })
  | cancelled (found : s.subscription = some sub) (effect : Effect)
      (which : effect = .disabled ∨ effect = .cancelled) : Change rt s effect
        (s.setSubscription { sub with status := .cancelled, canceledAt := some s.clock })
  | failureCounted (found : s.subscription = some sub)
      (left : sub.dunningAttempts + 1 < dunningMaxAttempts) :
      Change rt s .failureCounted (scheduleRetry rt s (sub.fail s.clock))
  | downgraded (found : s.subscription = some sub)
      (spent : dunningMaxAttempts ≤ sub.dunningAttempts + 1) :
      Change rt s .downgraded (handleFinalFailure s (sub.fail s.clock))

@[simp] theorem enqueueJob_subscription (key : JobKey) (job : BillingJob) :
    (enqueueJob s key job).subscription = s.subscription := by
  unfold enqueueJob
  split <;> rfl

@[simp] theorem enqueueJob_plan (key : JobKey) (job : BillingJob) :
    (enqueueJob s key job).plan = s.plan := by
  unfold enqueueJob
  split <;> rfl

@[simp] theorem enqueueJob_clock (key : JobKey) (job : BillingJob) :
    (enqueueJob s key job).clock = s.clock := by
  unfold enqueueJob
  split <;> rfl

@[simp] theorem syncChargedPlan_subscription (tier : Option Enforcement.PricingTier) :
    (syncChargedPlan s tier).subscription = s.subscription := by
  cases tier <;> rfl

@[simp] theorem syncChargedPlan_plan (tier : Option Enforcement.PricingTier) :
    (syncChargedPlan s tier).plan = tier.getD s.plan := by
  cases tier <;> rfl

@[simp] theorem syncChargedPlan_clock (tier : Option Enforcement.PricingTier) :
    (syncChargedPlan s tier).clock = s.clock := by
  cases tier <;> rfl

@[simp] theorem syncChargedPlan_jobs (tier : Option Enforcement.PricingTier) :
    (syncChargedPlan s tier).jobs = s.jobs := by
  cases tier <;> rfl

theorem Change.clock {effect : Effect} (change : Change rt s effect next) :
    next.clock = s.clock := by
  cases change with
  | chargeApplied => simp
  | failureCounted => simp [scheduleRetry]
  | _ => rfl

section FailedPayments

variable {isWebhook enqueues : Bool}

theorem scheduledRetry_change (scheduled : processFailedPayment rt s isWebhook enqueues =
    .scheduledRetry next) : Change rt s .failureCounted next := by
  unfold processFailedPayment at scheduled
  split at scheduled
  · contradiction
  next sub found =>
    split_ifs at scheduled with debounce spent enqueued
    cases scheduled
    exact .failureCounted found (by simpa [TenantSubscription.fail] using spent)

theorem downgraded_change (downgraded : processFailedPayment rt s isWebhook enqueues =
    .downgraded next) : Change rt s .downgraded next := by
  unfold processFailedPayment at downgraded
  split at downgraded
  · contradiction
  next sub found =>
    split_ifs at downgraded with debounce spent
    cases downgraded
    exact .downgraded found spent

end FailedPayments

theorem handleChargeSuccess_change {reference : Option String} {data : ChargeSuccess} {effect : Effect}
    (handles : handleChargeSuccess rt s reference data = .ok (next,effect)) :
    Change rt s effect next := by
  unfold handleChargeSuccess at handles
  split at handles
  · split at handles <;> contradiction
  · split at handles
    · cases handles
      exact .nothing
    · simp only at handles
      split at handles
      · cases handles
        exact .chargeIgnored
      · cases handles
        exact .chargeApplied reference data

theorem handleSubscriptionCreate_change {data : SubscriptionCreate} {effect : Effect}
    (handles : handleSubscriptionCreate s data = .ok (next,effect)) :
    Change rt s effect next := by
  unfold handleSubscriptionCreate at handles
  split at handles
  · contradiction
  · split at handles
    · contradiction
    next sub found =>
      cases handles
      exact .activated (Option.filter_eq_some_iff.mp found).1 _ _ _

theorem handleSubscriptionDisable_change {code : Option String} {effect : Effect}
    (handles : handleSubscriptionDisable s code = .ok (next,effect)) :
    Change rt s effect next := by
  unfold handleSubscriptionDisable at handles
  split at handles
  · contradiction
  · split at handles
    · contradiction
    next sub found =>
      cases handles
      exact .cancelled (Option.filter_eq_some_iff.mp found).1 _ (.inl rfl)

theorem handleInvoiceFailed_change {data : InvoiceFailed} {enqueues : Bool}
    (handles : (handleInvoiceFailed rt s data enqueues).outcome = .ok handled) :
    Change rt s handled.effect handled.state := by
  unfold handleInvoiceFailed at handles
  split at handles
  · contradiction
  · split at handles
    · contradiction
    · split at handles
      case h_4 next scheduled =>
        cases handles
        exact scheduledRetry_change scheduled
      case h_5 next downgraded =>
        cases handles
        exact downgraded_change downgraded
      all_goals
        cases handles
        exact .nothing

theorem processPaystackWebhook_change {event : WebhookEvent} {enqueues : Bool}
    (handles : (processPaystackWebhook rt s event enqueues).outcome = .ok handled) :
    Change rt s handled.effect handled.state := by
  unfold processPaystackWebhook at handles
  split at handles
  case h_1 =>
    obtain ⟨done,created,rfl⟩ := map_eq_ok.mp handles
    exact handleSubscriptionCreate_change created
  case h_2 =>
    obtain ⟨done,charged,rfl⟩ := map_eq_ok.mp handles
    exact handleChargeSuccess_change charged
  case h_3 =>
    obtain ⟨done,disabled,rfl⟩ := map_eq_ok.mp handles
    exact handleSubscriptionDisable_change disabled
  case h_4 => exact handleInvoiceFailed_change handles
  case h_5 =>
    cases handles
    exact .nothing

section Renewals

variable {sub row : TenantSubscription} {reference : Option String} {renewal : RenewalAnswers}
  {now : Int}

structure ReachesProvider (rt : Runtime) (sub : TenantSubscription) (reference : Option String)
    (renewal : RenewalAnswers) (terms : ChargeTerms) : Prop where
  authorized : authorized sub renewal = true
  priced : renewalTerms rt sub renewal = .ok terms
  unrecorded : sub.lastChargeReference ≠ some (effectiveReference rt sub reference)
  contact : renewal.contact = .found

theorem chargeRenewal_reaches {terms : ChargeTerms}
    (reaches : ReachesProvider rt sub reference renewal terms) :
    chargeRenewal rt sub reference renewal now =
      callProvider rt sub renewal terms (effectiveReference rt sub reference) now := by
  simp [chargeRenewal,reaches.authorized,reaches.priced,reaches.unrecorded,reaches.contact]

theorem chargeRenewal_stops (stops : ∀ terms, ¬ReachesProvider rt sub reference renewal terms) :
    (chargeRenewal rt sub reference renewal now).call = none ∧
      ∀ row, (chargeRenewal rt sub reference renewal now).result ≠ .ok (.charged row) := by
  unfold chargeRenewal
  split_ifs with unauthorized
  · simp
  · split
    · simp
    next terms priced =>
      dsimp only
      split_ifs with recorded
      · simp
      · split
        · simp
        · simp
        next contact =>
          exact absurd ⟨by simpa using unauthorized,priced,recorded,contact⟩ (stops terms)

theorem callProvider_call {terms : ChargeTerms} {effective : String} :
    (callProvider rt sub renewal terms effective now).call.isSome = true := by
  unfold callProvider
  split <;> rfl

theorem chargeRenewal_call_isSome :
    (chargeRenewal rt sub reference renewal now).call.isSome = true ↔
      ∃ terms, ReachesProvider rt sub reference renewal terms := by
  constructor
  · intro called
    by_contra stops
    rw [(chargeRenewal_stops (not_exists.mp stops)).1] at called
    contradiction
  · rintro ⟨terms,reaches⟩
    rw [chargeRenewal_reaches reaches]
    exact callProvider_call

theorem chargeRenewal_charged
    (charged : (chargeRenewal rt sub reference renewal now).result = .ok (.charged row)) :
    ∃ terms data cycle, ReachesProvider rt sub reference renewal terms ∧
      renewal.reply = .success data ∧ chargedBillingCycle rt.text sub data = .ok cycle ∧
      row = sub.charge terms ((present data.reference).getD (effectiveReference rt sub reference))
        (resolveRenewalNextPaymentDate rt.text sub renewal data now) cycle now := by
  by_cases stops : ∀ terms, ¬ReachesProvider rt sub reference renewal terms
  · exact absurd charged ((chargeRenewal_stops stops).2 row)
  · push Not at stops
    obtain ⟨terms,reaches⟩ := stops
    rw [chargeRenewal_reaches reaches] at charged
    unfold callProvider at charged
    split at charged
    · contradiction
    · simp at charged
    next data reply =>
      dsimp only [finishRenewal] at charged
      split at charged
      · contradiction
      next cycle named =>
        cases charged
        exact ⟨terms,data,cycle,reaches,reply,named,rfl⟩

theorem executeRecurringBilling_change {chargeReference : String}
    (handles : (executeRecurringBilling rt s chargeReference renewal).outcome = .ok handled) :
    Change rt s handled.effect handled.state := by
  unfold executeRecurringBilling at handles
  split at handles
  · contradiction
  next sub found =>
    split_ifs at handles
    · cases handles
      exact .nothing
    · unfold finishRecurringBilling at handles
      split at handles
      case h_2 row charged =>
        obtain ⟨terms,data,cycle,_,_,_,rfl⟩ := chargeRenewal_charged charged
        cases handles
        exact .charged found ..
      case h_3 =>
        cases handles
        exact .nothing
      all_goals contradiction

theorem failRetry_change {call : Option ChargeCall} {enqueues : Bool}
    (handles : (failRetry rt s call enqueues).outcome = .ok handled) :
    Change rt s handled.effect handled.state := by
  unfold failRetry at handles
  split at handles
  case h_1 => contradiction
  case h_4 next scheduled =>
    cases handles
    exact scheduledRetry_change scheduled
  case h_5 next downgraded =>
    cases handles
    exact downgraded_change downgraded
  all_goals
    cases handles
    exact .nothing

theorem executeDunning_change {chargeReference : String} {enqueues : Bool}
    (handles : (executeDunning rt s chargeReference renewal enqueues).outcome = .ok handled) :
    Change rt s handled.effect handled.state := by
  unfold executeDunning at handles
  split at handles
  · contradiction
  next sub found =>
    unfold finishDunning at handles
    split at handles
    case h_1 => contradiction
    case h_2 row charged =>
      obtain ⟨terms,data,cycle,_,_,_,rfl⟩ := chargeRenewal_charged charged
      cases handles
      exact .recovered found ..
    case h_3 =>
      cases handles
      exact .resumed found
    all_goals exact failRetry_change handles

end Renewals

/-- The step lemma of the handlers: what an accepted outcome does to the row. -/
theorem runHandler_change {payload : JobPayload}
    (handles : (runHandler rt s answers payload).outcome = .ok handled) :
    Change rt s handled.effect handled.state := by
  cases payload with
  | webhook event => exact processPaystackWebhook_change handles
  | recurringBilling reference => exact executeRecurringBilling_change handles
  | dunning attempt reference => exact executeDunning_change handles

theorem runHandler_committed {payload : JobPayload}
    (committed : (runHandler rt s answers payload).committed = some next) :
    ∃ isWebhook, processFailedPayment rt s isWebhook answers.enqueues = .downgraded next := by
  cases payload with
  | webhook event =>
    simp only [runHandler,processPaystackWebhook] at committed
    split at committed
    case h_4 data =>
      unfold handleInvoiceFailed at committed
      split_ifs at committed
      split at committed
      case h_5 last downgraded =>
        cases committed
        exact ⟨true,downgraded⟩
      all_goals contradiction
    all_goals contradiction
  | recurringBilling reference =>
    simp only [runHandler,executeRecurringBilling] at committed
    split at committed
    · contradiction
    · split_ifs at committed
      unfold finishRecurringBilling at committed
      split at committed <;> contradiction
  | dunning attempt reference =>
    simp only [runHandler,executeDunning] at committed
    split at committed
    · contradiction
    · unfold finishDunning at committed
      split at committed
      case h_4 | h_5 =>
        unfold failRetry at committed
        split at committed
        case h_5 last downgraded =>
          cases committed
          exact ⟨false,downgraded⟩
        all_goals contradiction
      all_goals contradiction

/-- What an execution leaves: the handler's rows and a completed job, or what outlasts the
rollback and the job as its failure leaves it. -/
inductive Executed (rt : Runtime) (s : State) (key : JobKey) (job : BillingJob) (run : HandlerRun) :
    Ending → State × Report → Prop where
  | completed (handled : Handled) (settled : run.settled rt .finishes = .ok handled) :
      Executed rt s key job run .finishes
        (handled.state.setJob key (some ⟨job.payload,job.row.complete s.clock⟩),
          { call := run.call, handled := job.payload.event, effect := handled.effect })
  | lost : Executed rt s key job run .lost (run.kept s)
  | failed {ending : Ending} (survives : ending ≠ .lost) (error : Raised)
      (settled : run.settled rt ending = .error error) (row : Jobs.BackgroundJob)
      (recorded : job.row.recordFailure error s.clock = .ok row) :
      Executed rt s key job run ending
        ((run.kept s).1.setJob key (some ⟨job.payload,row⟩),(run.kept s).2)
  | abandoned {ending : Ending} (survives : ending ≠ .lost) (error raised : Raised)
      (settled : run.settled rt ending = .error error)
      (recorded : job.row.recordFailure error s.clock = .error raised) :
      Executed rt s key job run ending (run.kept s)

theorem executeJob_cases (rt : Runtime) (s : State) (key : JobKey) (job : BillingJob)
    (run : HandlerRun) (ending : Ending) :
    Executed rt s key job run ending (executeJob rt s key job run ending) := by
  cases ending with
  | lost => exact .lost
  | interrupted error =>
    have settled : run.settled rt (.interrupted error) = .error error := rfl
    simp only [executeJob,settled]
    cases recorded : job.row.recordFailure error s.clock with
    | ok row => exact .failed (by simp) error settled row recorded
    | error raised => exact .abandoned (by simp) error raised settled recorded
  | finishes =>
    simp only [executeJob]
    cases settled : run.settled rt .finishes with
    | ok handled => exact .completed handled settled
    | error error =>
      dsimp only
      cases recorded : job.row.recordFailure error s.clock with
      | ok row => exact .failed (by simp) error settled row recorded
      | error raised => exact .abandoned (by simp) error raised settled recorded

/-- The rows that an execution leaves, beside its own job. -/
def HandlerRun.rows (rt : Runtime) (run : HandlerRun) (s : State) : Ending → State
  | .finishes =>
    match run.settled rt .finishes with
    | .ok handled => handled.state
    | .error _ => (run.kept s).1
  | _ => (run.kept s).1

theorem HandlerRun.settled_finishes {run : HandlerRun}
    (settled : run.settled rt .finishes = .ok handled) : run.outcome = .ok handled := by
  obtain ⟨inner,outcome,checked⟩ := Enforcement.bind_eq_ok.mp settled
  obtain ⟨_,_,rfl⟩ := map_eq_ok.mp checked
  exact outcome

theorem kept_cases (rt : Runtime) (s : State) (answers : JobAnswers) (payload : JobPayload) :
    let run := runHandler rt s answers payload
    (run.kept s = (s,{ call := run.call })) ∨
      ∃ next isWebhook, run.committed = some next ∧
        processFailedPayment rt s isWebhook answers.enqueues = .downgraded next ∧
        run.kept s = (next,{ call := run.call, effect := .downgraded }) := by
  intro run
  cases committed : run.committed with
  | none => exact .inl (by simp [HandlerRun.kept,committed])
  | some next =>
    obtain ⟨isWebhook,downgraded⟩ := runHandler_committed committed
    exact .inr ⟨next,isWebhook,rfl,downgraded,by simp [HandlerRun.kept,committed]⟩

theorem kept_change (rt : Runtime) (s : State) (answers : JobAnswers) (payload : JobPayload) :
    Change rt s ((runHandler rt s answers payload).kept s).2.effect
      ((runHandler rt s answers payload).kept s).1 := by
  rcases kept_cases rt s answers payload with same | ⟨next,isWebhook,_,downgraded,same⟩
  · rw [same]
    exact .nothing
  · rw [same]
    exact downgraded_change downgraded

structure SameRows (s t : State) : Prop where
  subscription : s.subscription = t.subscription
  plan : s.plan = t.plan
  clock : s.clock = t.clock

theorem SameRows.setJob (s : State) (key : JobKey) (job : Option BillingJob) :
    SameRows (s.setJob key job) s := ⟨rfl,rfl,rfl⟩

theorem SameRows.refl (s : State) : SameRows s s := ⟨rfl,rfl,rfl⟩

theorem SameRows.rewriteJob (s : State) (key : JobKey) (test : Jobs.BackgroundJob → Bool)
    (rewrite : Jobs.BackgroundJob → Except Raised Jobs.BackgroundJob) :
    SameRows (s.rewriteJob key test rewrite) s := by
  unfold State.rewriteJob
  split
  · exact .refl s
  · split
    · exact .setJob ..
    · exact .refl s

theorem SameRows.storeWebhook (rt : Runtime) (s : State) (event : WebhookEvent) :
    SameRows (storeWebhook rt s event) s := by
  unfold Billing.storeWebhook
  split
  · exact .setJob ..
  · split
    · exact .refl s
    · exact .setJob ..

theorem SameRows.billingSweep (rt : Runtime) (s : State) : SameRows (billingSweep rt s) s := by
  unfold Billing.billingSweep
  split
  · exact ⟨enqueueJob_subscription ..,enqueueJob_plan ..,enqueueJob_clock ..⟩
  · exact .refl s

theorem Executed.change {key : JobKey} {job : BillingJob} {ending : Ending} {result : State × Report}
    (executed : Executed rt s key job (runHandler rt s answers job.payload) ending result) :
    ∃ next, Change rt s result.2.effect next ∧ SameRows result.1 next := by
  cases executed with
  | completed handled settled =>
    exact ⟨_,runHandler_change (HandlerRun.settled_finishes settled),.setJob ..⟩
  | lost => exact ⟨_,kept_change rt s answers job.payload,.refl _⟩
  | failed => exact ⟨_,kept_change rt s answers job.payload,.setJob ..⟩
  | abandoned => exact ⟨_,kept_change rt s answers job.payload,.refl _⟩

theorem executeJob_rows (rt : Runtime) (s : State) (key : JobKey) (job : BillingJob)
    (run : HandlerRun) (ending : Ending) :
    SameRows (executeJob rt s key job run ending).1 (run.rows rt s ending) := by
  have executed := executeJob_cases rt s key job run ending
  generalize executeJob rt s key job run ending = result at executed
  have fails {ending : Ending} {error : Raised} (settled : run.settled rt ending = .error error) :
      run.rows rt s ending = (run.kept s).1 := by
    cases ending with
    | finishes => simp [HandlerRun.rows,settled]
    | _ => rfl
  cases executed with
  | completed handled settled =>
    simp only [HandlerRun.rows,settled]
    exact .setJob ..
  | lost => exact .refl _
  | failed _ _ settled =>
    rw [fails settled]
    exact .setJob ..
  | abandoned _ _ _ settled =>
    rw [fails settled]
    exact .refl _

theorem createCheckoutSession_opens {request : CheckoutRequest} {told : CheckoutAnswers}
    {checkout : Checkout} (opened : createCheckoutSession rt s request told = .ok (next,checkout)) :
    ∃ terms, checkoutTerms rt request told = .ok terms ∧
      told.initialize_ = .ok checkout.reference ∧ checkout.tier = request.tier ∧
      checkout.billingCycle = terms.billingCycle ∧
      next = s.setSubscription ((s.subscription.getD { tier := request.tier }).openCheckout terms
        checkout.reference s.clock) := by
  obtain ⟨terms,priced,afterTerms⟩ := Enforcement.bind_eq_ok.mp opened
  obtain ⟨reference,initialized,afterProvider⟩ := Enforcement.bind_eq_ok.mp afterTerms
  obtain ⟨_,_,result⟩ := Enforcement.bind_eq_ok.mp afterProvider
  cases result
  exact ⟨terms,priced,initialized,rfl,rfl,rfl⟩

/-- The step lemma: what a step that opened no checkout does to the rows. -/
theorem exec_change (rt : Runtime) (s : State) (event : Event)
    (unopened : (exec rt s event).2.checkout = none) :
    ∃ next, Change rt (s.tick event.wait) (exec rt s event).2.effect next ∧
      SameRows (exec rt s event).1 next := by
  obtain ⟨wait,action⟩ := event
  cases action with
  | createCheckoutSession request told =>
    simp only [exec,perform] at unopened ⊢
    split at unopened
    · contradiction
    · exact ⟨_,.nothing,.refl _⟩
  | storeWebhook event => exact ⟨_,.nothing,.storeWebhook ..⟩
  | billingSweep => exact ⟨_,.nothing,.billingSweep ..⟩
  | fetchJob key =>
    simp only [exec,perform]
    exact ⟨_,.nothing,.rewriteJob ..⟩
  | executeJob key answers ending =>
    simp only [exec,perform]
    split
    · exact (executeJob_cases ..).change
    · exact ⟨_,.nothing,.refl _⟩
  | recoverJob key =>
    simp only [exec,perform]
    exact ⟨_,.nothing,.rewriteJob ..⟩
  | purgeJob key =>
    simp only [exec,perform]
    split
    · exact ⟨_,.nothing,.setJob ..⟩
    · exact ⟨_,.nothing,.refl _⟩
  | cancelSubscription disabled =>
    simp only [exec,perform]
    split
    next last done =>
      unfold cancelSubscription at done
      split at done
      · contradiction
      next sub found =>
        split_ifs at done
        obtain ⟨_,_,rfl⟩ := map_eq_ok.mp done
        exact ⟨_,.cancelled found _ (.inr rfl),.refl _⟩
    · exact ⟨_,.nothing,.refl _⟩
  | pass => exact ⟨_,.nothing,.refl _⟩

theorem exec_opened {event : Event} {checkout : Checkout}
    (opened : (exec rt s event).2.checkout = some checkout) :
    ∃ request told terms, event.action = .createCheckoutSession request told ∧
      checkoutTerms rt request told = .ok terms ∧ told.initialize_ = .ok checkout.reference ∧
      checkout.tier = request.tier ∧ checkout.billingCycle = terms.billingCycle ∧
      (exec rt s event).1 = (s.tick event.wait).setSubscription
        ((s.subscription.getD { tier := request.tier }).openCheckout terms checkout.reference
          (s.tick event.wait).clock) := by
  obtain ⟨wait,action⟩ := event
  cases action with
  | createCheckoutSession request told =>
    simp only [exec,perform] at opened ⊢
    split at opened
    next result done =>
      obtain ⟨terms,priced,initialized,tier,cycle,written⟩ := createCheckoutSession_opens done
      cases opened
      exact ⟨request,told,terms,rfl,priced,initialized,tier,cycle,written⟩
    · contradiction
  | executeJob key answers ending =>
    simp only [exec,perform] at opened
    split at opened
    next job found =>
      have executed := executeJob_cases rt (s.tick wait) key job
        (runHandler rt (s.tick wait) answers job.payload) ending
      generalize executeJob rt (s.tick wait) key job
        (runHandler rt (s.tick wait) answers job.payload) ending = result at executed opened
      have unopened : ∀ report, report = ((runHandler rt (s.tick wait) answers job.payload).kept
          (s.tick wait)).2 → report.checkout = none := by
        rintro report rfl
        rcases kept_cases rt (s.tick wait) answers job.payload with same | ⟨_,_,_,_,same⟩
        all_goals rw [same]
      cases executed with
      | completed => contradiction
      | lost => simp [unopened _ rfl] at opened
      | failed => simp [unopened _ rfl] at opened
      | abandoned => simp [unopened _ rfl] at opened
    · contradiction
  | purgeJob key =>
    simp only [exec,perform] at opened
    split at opened <;> contradiction
  | cancelSubscription disabled =>
    simp only [exec,perform] at opened
    split at opened <;> contradiction
  | _ => contradiction

/-- A step is taken at its own moment. -/
theorem exec_clock (rt : Runtime) (s : State) (event : Event) :
    (exec rt s event).1.clock = s.clock + event.wait + 1 := by
  cases opened : (exec rt s event).2.checkout with
  | none =>
    obtain ⟨next,change,same⟩ := exec_change rt s event opened
    rw [same.clock,change.clock]
    rfl
  | some checkout =>
    obtain ⟨_,_,_,_,_,_,_,_,written⟩ := exec_opened opened
    rw [written]
    rfl

def ChargeDated (s : State) : Prop :=
  ∀ sub, s.subscription = some sub → ∀ moment, sub.lastChargeAt = some moment → moment ≤ s.clock

theorem Change.dated {effect : Effect} (change : Change rt s effect next) (dated : ChargeDated s) :
    ChargeDated next := by
  intro sub found moment charged
  rw [change.clock]
  have kept {old : TenantSubscription} (before : s.subscription = some old)
      (same : sub.lastChargeAt = old.lastChargeAt) : moment ≤ s.clock :=
    dated old before moment (same ▸ charged)
  cases change with
  | nothing => exact dated sub found moment charged
  | chargeIgnored => exact dated sub found moment charged
  | charged => cases found; cases charged; exact le_rfl
  | recovered => cases found; cases charged; exact le_rfl
  | resumed before => cases found; exact kept before rfl
  | chargeApplied =>
    rw [syncChargedPlan_subscription] at found
    cases found
    cases charged
    exact le_rfl
  | activated before => cases found; exact kept before rfl
  | cancelled before => cases found; exact kept before rfl
  | failureCounted before =>
    simp only [scheduleRetry,enqueueJob_subscription,State.setSubscription_subscription] at found
    cases found
    exact kept before rfl
  | downgraded before => cases found; exact kept before rfl

theorem exec_dated (rt : Runtime) (s : State) (event : Event) (dated : ChargeDated s) :
    ChargeDated (exec rt s event).1 := by
  have ticked : ChargeDated (s.tick event.wait) := by
    intro sub found moment charged
    have before := dated sub found moment charged
    simp only [State.tick_clock]
    omega
  cases opened : (exec rt s event).2.checkout with
  | none =>
    obtain ⟨next,change,same⟩ := exec_change rt s event opened
    have later := change.dated ticked
    unfold ChargeDated at later ⊢
    rwa [same.subscription,same.clock]
  | some checkout =>
    obtain ⟨_,_,_,_,_,_,_,_,written⟩ := exec_opened opened
    rw [written]
    intro sub found moment charged
    cases found
    cases charged
    exact le_rfl

section Effects

variable {payload : JobPayload} {key : JobKey} {job : BillingJob} {ending : Ending} {event : Event}
  {result : State × Report}

theorem Executed.call {run : HandlerRun} (executed : Executed rt s key job run ending result) :
    result.2.call = run.call := by
  have kept : (run.kept s).2.call = run.call := by
    simp only [HandlerRun.kept]
    split <;> rfl
  cases executed with
  | completed => rfl
  | lost => exact kept
  | failed => exact kept
  | abandoned => exact kept

def EffectOf (rt : Runtime) (s : State) (stored : WebhookEvent) : Effect → Prop
  | .nothing => True
  | .activated => ∃ data, stored.body = .subscriptionCreate data
  | .chargeApplied | .chargeIgnored =>
    ∃ data, stored.body = .chargeSuccess data ∧ chargeTenant rt s data = some rt.tenantId
  | .disabled => ∃ code, stored.body = .subscriptionDisable code
  | .failureCounted | .downgraded => ∃ data, stored.body = .invoiceFailed data
  | .charged | .resumed | .cancelled => False

theorem processPaystackWebhook_effectOf {stored : WebhookEvent} {enqueues : Bool}
    (handles : (processPaystackWebhook rt s stored enqueues).outcome = .ok handled) :
    EffectOf rt s stored handled.effect := by
  cases body : stored.body with
  | subscriptionCreate data =>
    simp only [processPaystackWebhook,body] at handles
    obtain ⟨done,created,rfl⟩ := map_eq_ok.mp handles
    simp only [handleSubscriptionCreate] at created
    split_ifs at created
    split at created
    · contradiction
    · cases created
      exact ⟨data,body⟩
  | chargeSuccess data =>
    simp only [processPaystackWebhook,body] at handles
    obtain ⟨done,charged,rfl⟩ := map_eq_ok.mp handles
    simp only [handleChargeSuccess] at charged
    split at charged
    · split_ifs at charged
    next tenantId resolved =>
      split_ifs at charged with other recorded
      · cases charged
        trivial
      · cases charged
        exact ⟨data,body,by simpa [resolved] using other⟩
      · cases charged
        exact ⟨data,body,by simpa [resolved] using other⟩
  | subscriptionDisable code =>
    simp only [processPaystackWebhook,body] at handles
    obtain ⟨done,disabled,rfl⟩ := map_eq_ok.mp handles
    simp only [handleSubscriptionDisable] at disabled
    split_ifs at disabled
    split at disabled
    · contradiction
    · cases disabled
      exact ⟨code,body⟩
  | invoiceFailed data =>
    simp only [processPaystackWebhook,body,handleInvoiceFailed] at handles
    split_ifs at handles
    split at handles
    case h_4 | h_5 =>
      cases handles
      exact ⟨data,body⟩
    all_goals
      cases handles
      trivial
  | other eventType =>
    simp only [processPaystackWebhook,body] at handles
    cases handles
    trivial

theorem processPaystackWebhook_effect {stored : WebhookEvent} {enqueues : Bool}
    (handles : (processPaystackWebhook rt s stored enqueues).outcome = .ok handled) :
    handled.effect ≠ .charged ∧ handled.effect ≠ .resumed ∧
      (handled.effect = .activated → ∃ data, stored.body = .subscriptionCreate data) := by
  have event := processPaystackWebhook_effectOf handles
  refine ⟨?_,?_,?_⟩
  all_goals
    intro effect
    rw [effect] at event
    exact event

theorem executeRecurringBilling_effect {reference : String} {renewal : RenewalAnswers}
    (handles : (executeRecurringBilling rt s reference renewal).outcome = .ok handled) :
    handled.effect = .nothing ∨ handled.effect = .charged := by
  simp only [executeRecurringBilling] at handles
  split at handles
  · contradiction
  · split_ifs at handles
    · cases handles
      exact .inl rfl
    · simp only [finishRecurringBilling] at handles
      split at handles
      case h_2 => cases handles; exact .inr rfl
      case h_3 => cases handles; exact .inl rfl
      all_goals contradiction

theorem exec_execute (rt : Runtime) (action : event.action = .executeJob key answers ending)
    (found : s.jobWhere key (·.status = .running) = some job) :
    Executed rt (s.tick event.wait) key job (runHandler rt (s.tick event.wait) answers job.payload)
      ending (exec rt s event) := by
  have running : (s.tick event.wait).jobWhere key (·.status = .running) = some job := found
  simp only [exec,perform,action,running]
  exact executeJob_cases ..

theorem effect_of_action (effective : (exec rt s event).2.effect ≠ .nothing) :
    (∃ key answers ending job, event.action = .executeJob key answers ending ∧
      s.jobWhere key (·.status = .running) = some job) ∨
    (exec rt s event).2.effect = .cancelled := by
  obtain ⟨wait,action⟩ := event
  cases action with
  | createCheckoutSession request told =>
    simp only [exec,perform] at effective
    split at effective <;> contradiction
  | executeJob key answers ending =>
    simp only [exec,perform] at effective
    split at effective
    next job found => exact .inl ⟨key,answers,ending,job,rfl,found⟩
    · contradiction
  | purgeJob key =>
    simp only [exec,perform] at effective
    split at effective <;> contradiction
  | cancelSubscription disabled =>
    simp only [exec,perform] at effective ⊢
    split at effective
    · exact .inr rfl
    · contradiction
  | _ => contradiction

theorem Executed.effect {run : HandlerRun} (executed : Executed rt s key job run ending result)
    (effective : result.2.effect ≠ .nothing) (lasting : result.2.effect ≠ .downgraded) :
    ending = .finishes ∧
      ∃ handled, run.outcome = .ok handled ∧ result.2.effect = handled.effect := by
  have kept : (run.kept s).2.effect = .nothing ∨ (run.kept s).2.effect = .downgraded := by
    simp only [HandlerRun.kept]
    split <;> simp
  have stays : result.2 = (run.kept s).2 → False := by
    intro same
    rw [same] at effective lasting
    exact kept.elim effective lasting
  cases executed with
  | completed handled settled => exact ⟨rfl,handled,HandlerRun.settled_finishes settled,rfl⟩
  | lost => exact (stays rfl).elim
  | failed => exact (stays rfl).elim
  | abandoned => exact (stays rfl).elim

end Effects

end Valdrics.Billing

import Valdrics.CancellationFinality

/-! How the failed payments of the dunning workflow come about: what refuses a charge, what a
retry raises, and which handlers report a failure. -/
namespace Valdrics.Billing

open PythonText
open Jobs (BackgroundJob Raised)

def RenewalRefused (rt : Runtime) (sub : TenantSubscription) (reference : Option String)
    (renewal : RenewalAnswers) : Prop :=
  authorized sub renewal = false ∨
    ∃ terms, ReachesProvider rt sub reference renewal terms ∧ renewal.reply = .unsuccessful

/-- The exceptions of a charge: no price or rate, no contact, a failed call, or an answer whose
cycle cannot be read. -/
inductive RenewalRaises (rt : Runtime) (sub : TenantSubscription) (reference : Option String)
    (renewal : RenewalAnswers) : Raised → Prop where
  | unpriced (error : Raised) (authorized : authorized sub renewal = true)
      (priced : renewalTerms rt sub renewal = .error error) :
      RenewalRaises rt sub reference renewal error
  | contactless (message : String) (authorized : authorized sub renewal = true)
      (contact : renewal.contact ≠ .found) :
      RenewalRaises rt sub reference renewal (renewalOperationalError message)
  | provider (error : Raised) (terms : ChargeTerms)
      (reaches : ReachesProvider rt sub reference renewal terms)
      (reply : renewal.reply = .raised error) : RenewalRaises rt sub reference renewal
        (if error.cls.isInstance paystackRuntimeRecoverableErrors then
          renewalOperationalError "Paystack renewal request failed" else error)
  | unread (error : Raised) (terms : ChargeTerms) (data : ChargeData)
      (reaches : ReachesProvider rt sub reference renewal terms)
      (reply : renewal.reply = .success data)
      (cycle : chargedBillingCycle rt.text sub data = .error error) :
      RenewalRaises rt sub reference renewal
        (renewalOperationalError "Paystack renewal request failed")

inductive RetryRaises (rt : Runtime) (sub : TenantSubscription) (reference : Option String)
    (answers : JobAnswers) : Raised → Prop where
  | charge (error : Raised) (raises : RenewalRaises rt sub reference answers.renewal error) :
      RetryRaises rt sub reference answers (deferRetry error)
  | unqueued (refused : RenewalRefused rt sub reference answers.renewal)
      (left : sub.dunningAttempts + 1 < dunningMaxAttempts) (unqueued : answers.enqueues = false) :
      RetryRaises rt sub reference answers
        ⟨.jobExecutionError,"JobExecutionError","Handler returned enqueue_failed: enqueue_failed"⟩

inductive FailureReported (rt : Runtime) (s : State) (sub : TenantSubscription)
    (answers : JobAnswers) : JobPayload → Prop where
  | invoice (stored : WebhookEvent) (data : InvoiceFailed) (body : stored.body = .invoiceFailed data)
      (finds : invoiceFinds s data = true) (fresh : debounced sub s.clock = false) :
      FailureReported rt s sub answers (.webhook stored)
  | retry (attempt : Nat) (reference : String)
      (refused : RenewalRefused rt sub (present (some reference)) answers.renewal) :
      FailureReported rt s sub answers (.dunning attempt reference)

variable {rt : Runtime} {s t : State} {event : Event} {renewal : RenewalAnswers}
  {sub : TenantSubscription} {reference : Option String} {now : Int} {handled : Handled}
  {answers : JobAnswers} {next : State} {error : Raised}

inductive RenewalEnds (rt : Runtime) (sub : TenantSubscription) (reference : Option String)
    (renewal : RenewalAnswers) (now : Int) : Renewal → Prop where
  | unauthorized (refused : RenewalRefused rt sub reference renewal) :
      RenewalEnds rt sub reference renewal now ⟨none,.ok .unauthorized⟩
  | raised (call : Option ChargeCall) (error : Raised)
      (raises : RenewalRaises rt sub reference renewal error) :
      RenewalEnds rt sub reference renewal now ⟨call,.error error⟩
  | already (resumes : Resumes rt sub reference renewal) :
      RenewalEnds rt sub reference renewal now ⟨none,.ok .alreadyCharged⟩
  | refused (terms : ChargeTerms) (effective : String)
      (refused : RenewalRefused rt sub reference renewal) :
      RenewalEnds rt sub reference renewal now ⟨some ⟨terms,effective,false⟩,.ok .refused⟩
  | charged (terms : ChargeTerms) (data : ChargeData) (cycle : BillingCycle) (effective : String)
      (reaches : ReachesProvider rt sub reference renewal terms)
      (reply : renewal.reply = .success data)
      (named : chargedBillingCycle rt.text sub data = .ok cycle) :
      RenewalEnds rt sub reference renewal now ⟨some ⟨terms,effective,true⟩,
        .ok (.charged (sub.charge terms ((present data.reference).getD effective)
          (resolveRenewalNextPaymentDate rt.text sub renewal data now) cycle now))⟩

theorem callProvider_ends {terms : ChargeTerms} (effective : String)
    (reaches : ReachesProvider rt sub reference renewal terms) :
    RenewalEnds rt sub reference renewal now (callProvider rt sub renewal terms effective now) := by
  cases reply : renewal.reply with
  | raised error =>
    simp only [callProvider,reply]
    exact .raised _ _ (.provider error terms reaches reply)
  | unsuccessful =>
    simp only [callProvider,reply]
    exact .refused terms effective (.inr ⟨terms,reaches,reply⟩)
  | success data =>
    cases cycle : chargedBillingCycle rt.text sub data with
    | error error =>
      simp only [callProvider,reply,finishRenewal,cycle]
      exact .raised _ _ (.unread error terms data reaches reply cycle)
    | ok named =>
      simp only [callProvider,reply,finishRenewal,cycle]
      exact .charged terms data named effective reaches reply cycle

theorem chargeRenewal_ends (rt : Runtime) (sub : TenantSubscription) (reference : Option String)
    (renewal : RenewalAnswers) (now : Int) :
    RenewalEnds rt sub reference renewal now (chargeRenewal rt sub reference renewal now) := by
  by_cases authorized : authorized sub renewal = true
  · cases priced : renewalTerms rt sub renewal with
    | error error =>
      simp only [chargeRenewal,authorized,priced]
      exact .raised none error (.unpriced error authorized priced)
    | ok terms =>
      by_cases recorded : sub.lastChargeReference = some (effectiveReference rt sub reference)
      · simp only [chargeRenewal,authorized,priced,recorded]
        exact .already ⟨authorized,⟨terms,priced⟩,recorded⟩
      · simp only [chargeRenewal,authorized,priced,if_neg recorded]
        cases contact : renewal.contact with
        | missing => exact .raised none _ (.contactless _ authorized (by simp [contact]))
        | unreadable => exact .raised none _ (.contactless _ authorized (by simp [contact]))
        | found => exact callProvider_ends _ ⟨authorized,priced,recorded,contact⟩
  · have unauthorized : Billing.authorized sub renewal = false := by simpa using authorized
    simp only [chargeRenewal,unauthorized]
    exact .unauthorized (.inl unauthorized)

section FailedPayments

variable {isWebhook enqueues : Bool}

theorem scheduledRetry_spec (scheduled : processFailedPayment rt s isWebhook enqueues =
    .scheduledRetry next) : ∃ sub, s.subscription = some sub ∧
      (isWebhook = true → debounced sub s.clock = false) ∧
      sub.dunningAttempts + 1 < dunningMaxAttempts ∧ enqueues = true := by
  simp only [processFailedPayment] at scheduled
  split at scheduled
  · contradiction
  next sub found =>
    split_ifs at scheduled with fresh spent enqueued
    refine ⟨sub,found,?_,?_,enqueued⟩
    · simpa using fresh
    · simpa [TenantSubscription.fail] using spent

theorem downgraded_spec (downgraded : processFailedPayment rt s isWebhook enqueues =
    .downgraded next) : ∃ sub, s.subscription = some sub ∧
      (isWebhook = true → debounced sub s.clock = false) ∧
      dunningMaxAttempts ≤ sub.dunningAttempts + 1 := by
  simp only [processFailedPayment] at downgraded
  split at downgraded
  · contradiction
  next sub found =>
    split_ifs at downgraded with fresh spent
    exact ⟨sub,found,by simpa using fresh,spent⟩

theorem enqueueFailed_spec (failed : processFailedPayment rt s isWebhook enqueues =
    .enqueueFailed) : ∃ sub, s.subscription = some sub ∧
      sub.dunningAttempts + 1 < dunningMaxAttempts ∧ enqueues = false := by
  simp only [processFailedPayment] at failed
  split at failed
  · contradiction
  next sub found =>
    split_ifs at failed with fresh spent enqueued
    refine ⟨sub,found,?_,by simpa using enqueued⟩
    simpa [TenantSubscription.fail] using spent

end FailedPayments

section Failures

variable {stored : WebhookEvent} {data : InvoiceFailed} {attempt : Nat} {chargeReference : String}

theorem handleInvoiceFailed_counts (body : stored.body = .invoiceFailed data)
    (handles : (handleInvoiceFailed rt s data answers.enqueues).outcome = .ok handled)
    (counted : handled.effect = .failureCounted) :
    ∃ sub, s.subscription = some sub ∧ FailureReported rt s sub answers (.webhook stored) ∧
      answers.enqueues = true := by
  simp only [handleInvoiceFailed] at handles
  split_ifs at handles with blank lost
  split at handles
  case h_4 next scheduled =>
    obtain ⟨sub,found,fresh,_,enqueues⟩ := scheduledRetry_spec scheduled
    exact ⟨sub,found,.invoice stored data body (by simpa using lost) (fresh rfl),enqueues⟩
  all_goals
    cases handles
    contradiction

theorem handleInvoiceFailed_commits (body : stored.body = .invoiceFailed data)
    (committed : (handleInvoiceFailed rt s data answers.enqueues).committed = some next) :
    ∃ sub, s.subscription = some sub ∧ FailureReported rt s sub answers (.webhook stored) ∧
      dunningMaxAttempts ≤ sub.dunningAttempts + 1 := by
  simp only [handleInvoiceFailed] at committed
  split_ifs at committed with blank lost
  split at committed
  case h_5 last downgraded =>
    obtain ⟨sub,found,fresh,spent⟩ := downgraded_spec downgraded
    exact ⟨sub,found,.invoice stored data body (by simpa using lost) (fresh rfl),spent⟩
  all_goals contradiction

theorem finishDunning_failRetry {renewed : Renewal} {enqueues : Bool} (renewal : RenewalAnswers)
    (found : s.subscription = some sub) (ends : RenewalEnds rt sub reference renewal now renewed)
    (fails : (∃ handled, (finishDunning rt s sub renewed enqueues).outcome = .ok handled ∧
        handled.effect ≠ .charged ∧ handled.effect ≠ .resumed) ∨
      (finishDunning rt s sub renewed enqueues).committed.isSome = true) :
    RenewalRefused rt sub reference renewal ∧
      finishDunning rt s sub renewed enqueues = failRetry rt s renewed.call enqueues := by
  cases ends with
  | unauthorized refused => exact ⟨refused,rfl⟩
  | refused terms effective refused => exact ⟨refused,rfl⟩
  | raised => simp [finishDunning] at fails
  | already => simp [finishDunning] at fails
  | charged => simp [finishDunning] at fails

theorem executeDunning_counts
    (handles : (executeDunning rt s chargeReference answers.renewal answers.enqueues).outcome =
      .ok handled) (counted : handled.effect = .failureCounted) :
    ∃ sub, s.subscription = some sub ∧
      FailureReported rt s sub answers (.dunning attempt chargeReference) ∧
      answers.enqueues = true := by
  simp only [executeDunning] at handles
  split at handles
  · contradiction
  next sub found =>
    obtain ⟨refused,same⟩ := finishDunning_failRetry answers.renewal found
      (chargeRenewal_ends rt sub _ answers.renewal s.clock) (.inl ⟨handled,handles,by simp [counted]⟩)
    rw [same] at handles
    simp only [failRetry] at handles
    split at handles
    case h_4 next scheduled =>
      obtain ⟨_,_,_,_,enqueues⟩ := scheduledRetry_spec scheduled
      exact ⟨sub,found,.retry attempt chargeReference refused,enqueues⟩
    case h_1 => contradiction
    all_goals
      cases handles
      contradiction

theorem executeDunning_commits (committed : (executeDunning rt s chargeReference answers.renewal
      answers.enqueues).committed = some next) :
    ∃ sub, s.subscription = some sub ∧
      FailureReported rt s sub answers (.dunning attempt chargeReference) ∧
      dunningMaxAttempts ≤ sub.dunningAttempts + 1 := by
  simp only [executeDunning] at committed
  split at committed
  · contradiction
  next sub found =>
    obtain ⟨refused,same⟩ := finishDunning_failRetry answers.renewal found
      (chargeRenewal_ends rt sub _ answers.renewal s.clock) (.inr (Option.isSome_iff_exists.mpr ⟨next,committed⟩))
    rw [same] at committed
    simp only [failRetry] at committed
    split at committed
    case h_5 last downgraded =>
      obtain ⟨other,foundOther,_,spent⟩ := downgraded_spec downgraded
      cases found.symm.trans foundOther
      exact ⟨sub,found,.retry attempt chargeReference refused,spent⟩
    all_goals contradiction

theorem retryResult_passes (text : Lowercase) {status : String}
    (passes : status ∈ ["success","scheduled_retry","downgraded"]) (reason : Option String) :
    Jobs.raiseForFailedResult text { status, reason } = .ok () := by
  simp only [List.mem_cons,List.not_mem_nil,or_false] at passes
  apply raiseForFailedResult_ok
  · change IsAscii (strip status)
    rcases passes with rfl | rfl | rfl <;> decide
  · change lowerAscii (strip status) ∉ ["error","failed","enqueue_failed"]
    rcases passes with rfl | rfl | rfl <;> decide

theorem retryResult_raises (text : Lowercase) :
    Jobs.raiseForFailedResult text { status := "enqueue_failed" } =
      .error ⟨.jobExecutionError,"JobExecutionError","Handler returned enqueue_failed: enqueue_failed"⟩ := by
  have ascii : IsAscii (strip "enqueue_failed") := by decide
  have lowered : text.lower (strip "enqueue_failed") = "enqueue_failed" := by
    rw [text.ascii _ ascii]
    decide
  simp [Jobs.raiseForFailedResult,lowered]

theorem executeDunning_settled (chargeReference : String) (found : s.subscription = some sub) :
    (∃ handled, (executeDunning rt s chargeReference answers.renewal answers.enqueues).settled rt
        .finishes = .ok handled ∧ (handled.effect = .charged ∨ handled.effect = .resumed ∨
          handled.effect = .failureCounted ∨ handled.effect = .downgraded)) ∨
      ∃ error, (executeDunning rt s chargeReference answers.renewal answers.enqueues).settled rt
        .finishes = .error error ∧ RetryRaises rt sub (present (some chargeReference)) answers error := by
  have ends := chargeRenewal_ends rt sub (present (some chargeReference)) answers.renewal s.clock
  have fails (call : Option ChargeCall)
      (refused : RenewalRefused rt sub (present (some chargeReference)) answers.renewal) :
      (∃ handled, (failRetry rt s call answers.enqueues).settled rt .finishes = .ok handled ∧
        (handled.effect = .charged ∨ handled.effect = .resumed ∨
          handled.effect = .failureCounted ∨ handled.effect = .downgraded)) ∨
      ∃ error, (failRetry rt s call answers.enqueues).settled rt .finishes = .error error ∧
        RetryRaises rt sub (present (some chargeReference)) answers error := by
    cases failed : processFailedPayment rt s false answers.enqueues with
    | notFound => simp [processFailedPayment,found] at failed; split_ifs at failed
    | duplicateIgnored => simp [processFailedPayment,found] at failed; split_ifs at failed
    | enqueueFailed =>
      obtain ⟨other,foundOther,left,unqueued⟩ := enqueueFailed_spec failed
      cases found.symm.trans foundOther
      refine .inr ⟨_,?_,.unqueued refused left unqueued⟩
      simp [HandlerRun.settled,failRetry,failed,Except.bind,retryResult_raises,Except.map]
    | scheduledRetry next =>
      refine .inl ⟨⟨next,{ status := "scheduled_retry" },.failureCounted⟩,?_,by simp⟩
      simp [HandlerRun.settled,failRetry,failed,Except.bind,retryResult_passes,Except.map]
    | downgraded next =>
      refine .inl ⟨⟨next,{ status := "downgraded", reason := some "max_dunning_attempts_exhausted" },
        .downgraded⟩,?_,by simp⟩
      simp [HandlerRun.settled,failRetry,failed,Except.bind,retryResult_passes,Except.map]
  simp only [executeDunning,found]
  generalize chargeRenewal rt sub (present (some chargeReference)) answers.renewal s.clock = renewed
    at ends
  cases ends with
  | unauthorized refused => exact fails none refused
  | refused terms effective refused => exact fails _ refused
  | raised call error raises => exact .inr ⟨_,rfl,.charge error raises⟩
  | already resumes =>
    refine .inl ⟨⟨handleRetrySuccess s sub,{ status := "success" },.resumed⟩,?_,by simp⟩
    simp [HandlerRun.settled,finishDunning,Except.bind,retryResult_passes,Except.map]
  | charged terms data cycle effective =>
    have settled (row : TenantSubscription) : (finishDunning rt s sub
        ⟨some ⟨terms,effective,true⟩,.ok (.charged row)⟩ answers.enqueues).settled rt .finishes =
        .ok ⟨handleRetrySuccess s row,{ status := "success" },.charged⟩ := by
      simp [HandlerRun.settled,finishDunning,Except.bind,retryResult_passes,Except.map]
    exact .inl ⟨_,settled _,.inl rfl⟩

theorem runHandler_counts {payload : JobPayload}
    (handles : (runHandler rt s answers payload).outcome = .ok handled)
    (counted : handled.effect = .failureCounted) :
    ∃ sub, s.subscription = some sub ∧ FailureReported rt s sub answers payload ∧
      answers.enqueues = true := by
  cases payload with
  | webhook stored =>
    have event := processPaystackWebhook_effectOf handles
    rw [counted] at event
    obtain ⟨data,body⟩ := event
    simp only [runHandler,processPaystackWebhook,body] at handles
    exact handleInvoiceFailed_counts body handles counted
  | recurringBilling reference =>
    rcases executeRecurringBilling_effect handles with nothing | charged
    · simp [nothing] at counted
    · simp [charged] at counted
  | dunning attempt reference => exact executeDunning_counts handles counted

theorem runHandler_commits {payload : JobPayload}
    (committed : (runHandler rt s answers payload).committed = some next) :
    ∃ sub, s.subscription = some sub ∧ FailureReported rt s sub answers payload ∧
      dunningMaxAttempts ≤ sub.dunningAttempts + 1 := by
  cases payload with
  | webhook stored =>
    cases body : stored.body with
    | invoiceFailed data =>
      simp only [runHandler,processPaystackWebhook,body] at committed
      exact handleInvoiceFailed_commits body committed
    | _ => simp [runHandler,processPaystackWebhook,body] at committed
  | recurringBilling reference =>
    simp only [runHandler,executeRecurringBilling] at committed
    split at committed
    · contradiction
    · split_ifs at committed
      simp only [finishRecurringBilling] at committed
      split at committed <;> contradiction
  | dunning attempt reference => exact executeDunning_commits committed

theorem runHandler_downgrades {payload : JobPayload}
    (handles : (runHandler rt s answers payload).outcome = .ok handled)
    (downgraded : handled.effect = .downgraded) :
    (runHandler rt s answers payload).committed = some handled.state := by
  cases payload with
  | webhook stored =>
    have event := processPaystackWebhook_effectOf handles
    rw [downgraded] at event
    obtain ⟨data,body⟩ := event
    simp only [runHandler,processPaystackWebhook,body,handleInvoiceFailed] at handles ⊢
    split_ifs at handles ⊢
    split at handles
    case h_5 next commits =>
      cases handles
      simp [processed]
    all_goals
      cases handles
      contradiction
  | recurringBilling reference =>
    rcases executeRecurringBilling_effect handles with nothing | charged
    · simp [nothing] at downgraded
    · simp [charged] at downgraded
  | dunning attempt reference =>
    simp only [runHandler,executeDunning] at handles ⊢
    split at handles
    · contradiction
    next sub found =>
      simp only [finishDunning,failRetry] at handles ⊢
      split at handles
      case h_4 | h_5 =>
        split at handles
        case h_5 next commits =>
          cases handles
          rfl
        all_goals
          cases handles
          try contradiction
      all_goals
        cases handles
        try contradiction

end Failures

end Valdrics.Billing

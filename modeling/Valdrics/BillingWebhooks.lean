import Valdrics.BillingCharges

/-! The handlers of the provider's events and of the two kinds of charge job, with the dunning
workflow between them. A handler works on the rows inside the savepoint of its job. -/
namespace Valdrics.Billing

open Enforcement (PricingTier Uuid)
open PythonText
open Jobs (BackgroundJob Raised HandlerResult)

def dunningRetryScheduleDays : List Nat := [1,3,7]
def dunningMaxAttempts : Nat := 3
def dunningWebhookDebounceSeconds : Nat := 300
def webhookMaxAttempts : Nat := 5

def webhookPermanentError (message : String) : Raised :=
  ⟨.permanentJobError,"WebhookPermanentError",message⟩

def webhookRetryableError (message : String) : Raised :=
  ⟨.jobExecutionError,"WebhookRetryableError",message⟩

inductive Effect where
  | nothing
  | charged                -- a renewal or a retry that charged
  | resumed                -- a retry whose reference was recorded before
  | chargeApplied | chargeIgnored
  | activated | disabled | cancelled
  | failureCounted | downgraded
  deriving DecidableEq, Repr

structure Handled where
  state : State
  result : HandlerResult
  effect : Effect := .nothing

structure HandlerRun where
  call : Option ChargeCall := none
  committed : Option State := none
  outcome : Except Raised Handled

/-- `enqueue_job` under a key: the job of a key in use is answered as it is. -/
def enqueueJob (s : State) (key : JobKey) (job : BillingJob) : State :=
  match s.jobs key with
  | some _ => s
  | none => s.setJob key (some job)

def dunningRetryAt (attempt : Nat) (now : Int) : Int :=
  now + daysLong (dunningRetryScheduleDays.getD
    (min (attempt - 1) (dunningRetryScheduleDays.length - 1)) 0)

def dunningJob (rt : Runtime) (attempt : Nat) (scheduledFor : Int) : BillingJob where
  payload := .dunning attempt (buildChargeReference rt "dunning" (toString attempt))
  row := { jobType := "dunning", tenantId := some rt.tenantId, scheduledFor := scheduledFor }

def debounced (sub : TenantSubscription) (now : Int) : Bool :=
  sub.lastDunningAt.any fun last => now - last < Jobs.microseconds dunningWebhookDebounceSeconds

/-- The row after one more failure, before it is known whether a retry is left. -/
def TenantSubscription.fail (sub : TenantSubscription) (now : Int) : TenantSubscription :=
  { sub with
    dunningAttempts := sub.dunningAttempts + 1
    lastDunningAt := some now
    status := .attention }

/-- The answers of `process_failed_payment`; a downgrade has been committed by then. -/
inductive FailedPayment where
  | notFound | duplicateIgnored | enqueueFailed
  | scheduledRetry (s : State)
  | downgraded (s : State)

/-- `_handle_final_failure`. -/
def handleFinalFailure (s : State) (sub : TenantSubscription) : State :=
  (s.setSubscription { sub with
    status := .cancelled
    tier := .free
    canceledAt := some s.clock
    dunningNextRetryAt := none }).syncTenantPlan .free

def scheduleRetry (rt : Runtime) (s : State) (sub : TenantSubscription) : State :=
  let attempt := sub.dunningAttempts
  let nextRetry := dunningRetryAt attempt s.clock
  enqueueJob (s.setSubscription { sub with dunningNextRetryAt := some nextRetry })
    (.dunning (attempt + 1)) (dunningJob rt (attempt + 1) nextRetry)

/-- `enqueues` is whether the insertion of the retry job goes through. -/
def processFailedPayment (rt : Runtime) (s : State) (isWebhook enqueues : Bool) : FailedPayment :=
  match s.subscription with
  | none => .notFound
  | some sub =>
    if isWebhook = true ∧ debounced sub s.clock = true then .duplicateIgnored
    else if dunningMaxAttempts ≤ (sub.fail s.clock).dunningAttempts then
      .downgraded (handleFinalFailure s (sub.fail s.clock))
    else if enqueues then .scheduledRetry (scheduleRetry rt s (sub.fail s.clock))
    else .enqueueFailed

/-- `_parse_subunit_amount`. -/
def parseSubunitAmount (amount : Option Decimal) : Option Int :=
  (amount.filter fun number => 0 ≤ number.coefficient).map (·.columnUnits 0)

/-- `_parse_fx_rate`. -/
def parseFxRate (rate : Option Decimal) : Option Int :=
  (rate.filter fun number => 0 < number.coefficient).map (·.columnUnits 6)

def chargeTenant (rt : Runtime) (s : State) (data : ChargeSuccess) : Option Uuid :=
  match (present data.metadata.tenantId).bind Enforcement.ApprovalToken.parseUuid with
  | some tenantId => some tenantId
  | none =>
    if (s.subscription.any fun sub => matches_ sub.paystackCustomerCode data.customerCode) then
      some rt.tenantId
    else none

def chargeTier (rt : Runtime) (data : ChargeSuccess) : Option PricingTier :=
  (present data.metadata.tier).bind fun tier => pricingTier (rt.text.lower (strip tier))

def chargeCycle (rt : Runtime) (data : ChargeSuccess) : Option BillingCycle :=
  data.metadata.billingCycle.bind (normalizeBillingCycle rt.text)

def chargeCurrency (rt : Runtime) (data : ChargeSuccess) : String :=
  rt.upper ((present data.currency).getD checkoutCurrency)

def chargeFxProvider (rt : Runtime) (sub : TenantSubscription) (data : ChargeSuccess) :
    Option String :=
  match data.metadata.fxProvider.filter fun provider => strip provider ≠ "" with
  | some provider => some (rt.text.lower (strip provider))
  | none =>
    if chargeCurrency rt data = checkoutCurrency then some fxProviderNgn
    else sub.lastChargeFxProvider

def TenantSubscription.recorded (sub : TenantSubscription) (reference : Option String) : Bool :=
  matches_ sub.lastChargeReference reference

/-- The row as `charge.success` leaves it. -/
def TenantSubscription.applyCharge (sub : TenantSubscription) (rt : Runtime)
    (reference : Option String) (data : ChargeSuccess) (now : Int) : TenantSubscription :=
  { sub with
    paystackCustomerCode := data.customerCode
    paystackAuthCode := (present data.authorizationCode).or sub.paystackAuthCode
    tier := (chargeTier rt data).getD sub.tier
    billingCycle := (chargeCycle rt data).getD sub.billingCycle
    status := .active
    billingCurrency := chargeCurrency rt data
    lastChargeAmountSubunits := (parseSubunitAmount data.amount).or sub.lastChargeAmountSubunits
    lastChargeFxRate := (parseFxRate data.metadata.exchangeRate).or sub.lastChargeFxRate
    lastChargeFxProvider := chargeFxProvider rt sub data
    lastChargeReference := (present reference).or sub.lastChargeReference
    lastChargeAt := some now }

def syncChargedPlan (s : State) (tier : Option PricingTier) : State :=
  match tier with
  | some tier => s.syncTenantPlan tier
  | none => s

/-- `_handle_charge_success`; another tenant's charge leaves these rows alone. -/
def handleChargeSuccess (rt : Runtime) (s : State) (reference : Option String)
    (data : ChargeSuccess) : Except Raised (State × Effect) :=
  match chargeTenant rt s data with
  | none =>
    if (present data.customerEmail).isSome then
      .error (webhookRetryableError "charge.success could not resolve tenant")
    else .error (webhookPermanentError "charge.success missing tenant identifiers")
  | some tenantId =>
    if tenantId ≠ rt.tenantId then .ok (s,.nothing)
    else
      let sub := s.subscription.getD {}
      if sub.recorded reference then .ok (s,.chargeIgnored)
      else .ok (syncChargedPlan
        (s.setSubscription (sub.applyCharge rt reference data s.clock)) (chargeTier rt data),
        .chargeApplied)

def handleSubscriptionCreate (s : State) (data : SubscriptionCreate) :
    Except Raised (State × Effect) :=
  if (present data.customerCode).isNone then
    .error (webhookPermanentError "subscription.create missing customer_code")
  else match s.subscription.filter fun sub =>
      matches_ sub.paystackCustomerCode data.customerCode with
    | none =>
      .error (webhookRetryableError "subscription.create could not find tenant subscription")
    | some sub => .ok (s.setSubscription { sub with
        paystackSubscriptionCode := (present data.subscriptionCode).or sub.paystackSubscriptionCode
        paystackEmailToken := (present data.emailToken).or sub.paystackEmailToken
        nextPaymentDate := data.nextPaymentDate.or sub.nextPaymentDate
        status := .active },.activated)

def handleSubscriptionDisable (s : State) (code : Option String) :
    Except Raised (State × Effect) :=
  if (present code).isNone then
    .error (webhookPermanentError "subscription.disable missing subscription_code")
  else match s.subscription.filter fun sub => matches_ sub.paystackSubscriptionCode code with
    | none => .error (webhookRetryableError "subscription.disable could not find subscription")
    | some sub =>
      .ok (s.setSubscription { sub with status := .cancelled, canceledAt := some s.clock },.disabled)

def invoiceFinds (s : State) (data : InvoiceFailed) : Bool :=
  s.subscription.any fun sub => matches_ sub.paystackSubscriptionCode data.subscriptionCode ||
    matches_ sub.paystackCustomerCode data.customerCode

/-- `process_paystack_webhook` reports the event it routed. -/
def processed (state : State) (effect : Effect) : Handled := ⟨state,{ status := "processed" },effect⟩

/-- `_handle_invoice_failed`: whatever the dunning workflow answers, the event is processed. -/
def handleInvoiceFailed (rt : Runtime) (s : State) (data : InvoiceFailed) (enqueues : Bool) :
    HandlerRun :=
  if (present data.subscriptionCode).isNone ∧ (present data.customerCode).isNone then
    { outcome := .error (webhookPermanentError
        "invoice.payment_failed missing subscription and customer identifiers") }
  else if invoiceFinds s data = false then
    { outcome :=
        .error (webhookRetryableError "invoice.payment_failed could not find subscription") }
  else match processFailedPayment rt s true enqueues with
    | .notFound | .duplicateIgnored | .enqueueFailed => { outcome := .ok (processed s .nothing) }
    | .scheduledRetry next => { outcome := .ok (processed next .failureCounted) }
    | .downgraded next =>
      { committed := some next, outcome := .ok (processed next .downgraded) }

/-- `process_paystack_webhook`, for a payload whose signature verifies. -/
def processPaystackWebhook (rt : Runtime) (s : State) (event : WebhookEvent) (enqueues : Bool) :
    HandlerRun :=
  match event.body with
  | .subscriptionCreate data =>
    { outcome := (handleSubscriptionCreate s data).map fun done => processed done.1 done.2 }
  | .chargeSuccess data =>
    { outcome := (handleChargeSuccess rt s event.reference data).map fun done =>
        processed done.1 done.2 }
  | .subscriptionDisable code =>
    { outcome := (handleSubscriptionDisable s code).map fun done => processed done.1 done.2 }
  | .invoiceFailed data => handleInvoiceFailed rt s data enqueues
  | .other _ => { outcome := .ok ⟨s,{ status := "ignored" },.nothing⟩ }

/-- The part of `RecurringBillingHandler.execute` after the charge. -/
def finishRecurringBilling (s : State) (renewal : Renewal) : HandlerRun :=
  match renewal.result with
  | .error error =>
    { call := renewal.call
      outcome := .error (if error.typeName = "RenewalOperationalError" then
        ⟨.jobExecutionError,"JobExecutionError",error.text⟩ else error) }
  | .ok (.charged charged) =>
    { call := renewal.call
      outcome := .ok ⟨s.setSubscription charged,{ status := "completed" },.charged⟩ }
  | .ok .alreadyCharged =>
    { call := renewal.call, outcome := .ok ⟨s,{ status := "completed" },.nothing⟩ }
  | .ok .unauthorized | .ok .refused =>
    { call := renewal.call
      outcome := .error ⟨.jobExecutionError,"JobExecutionError",
        "Paystack charge failed or authorization missing"⟩ }

/-- `RecurringBillingHandler.execute`. -/
def executeRecurringBilling (rt : Runtime) (s : State) (chargeReference : String)
    (answers : RenewalAnswers) : HandlerRun :=
  match s.subscription with
  | none =>
    { outcome := .error
        ⟨.permanentJobError,"PermanentJobError","Recurring billing subscription not found"⟩ }
  | some sub =>
    if sub.status ≠ .active then
      { outcome := .ok
          ⟨s,{ status := "skipped", reason := some ("subscription_status_is_" ++ sub.status.value) },
            .nothing⟩ }
    else finishRecurringBilling s
      (chargeRenewal rt sub (present (some chargeReference)) answers s.clock)

/-- The row as `_handle_retry_success` leaves it. -/
def TenantSubscription.reactivate (sub : TenantSubscription) : TenantSubscription :=
  { sub with
    status := .active
    dunningAttempts := 0
    lastDunningAt := none
    dunningNextRetryAt := none }

def handleRetrySuccess (s : State) (sub : TenantSubscription) : State :=
  (s.setSubscription sub.reactivate).syncTenantPlan sub.tier

/-- `DUNNING_RECOVERABLE_ERRORS`. -/
def dunningRecoverableErrors : List Jobs.ExceptionClass :=
  [.sqlAlchemyError,.runtimeError,.osError,.timeoutError,.typeError,.valueError]

def deferRetry (error : Raised) : Raised :=
  if error.cls.isInstance dunningRecoverableErrors then
    ⟨.jobExecutionError,"DunningRetryDeferredError",
      "Dunning retry deferred due to operational failure: " ++ error.text⟩
  else error

/-- The part of `retry_payment` after a charge that failed. -/
def failRetry (rt : Runtime) (s : State) (call : Option ChargeCall) (enqueues : Bool) :
    HandlerRun :=
  match processFailedPayment rt s false enqueues with
  | .notFound =>
    { call, outcome := .error ⟨.permanentJobError,"PermanentJobError","Dunning subscription not found"⟩ }
  | .duplicateIgnored => { call, outcome := .ok ⟨s,{ status := "duplicate_ignored" },.nothing⟩ }
  | .enqueueFailed => { call, outcome := .ok ⟨s,{ status := "enqueue_failed" },.nothing⟩ }
  | .scheduledRetry next =>
    { call, outcome := .ok ⟨next,{ status := "scheduled_retry" },.failureCounted⟩ }
  | .downgraded next =>
    { call
      committed := some next
      outcome := .ok
        ⟨next,{ status := "downgraded", reason := some "max_dunning_attempts_exhausted" },
          .downgraded⟩ }

/-- The part of `retry_payment` after the charge. -/
def finishDunning (rt : Runtime) (s : State) (sub : TenantSubscription) (renewal : Renewal)
    (enqueues : Bool) : HandlerRun :=
  match renewal.result with
  | .error error => { call := renewal.call, outcome := .error (deferRetry error) }
  | .ok (.charged charged) =>
    { call := renewal.call
      outcome := .ok ⟨handleRetrySuccess s charged,{ status := "success" },.charged⟩ }
  | .ok .alreadyCharged =>
    { call := renewal.call
      outcome := .ok ⟨handleRetrySuccess s sub,{ status := "success" },.resumed⟩ }
  | .ok .unauthorized | .ok .refused => failRetry rt s renewal.call enqueues

/-- `DunningHandler.execute` and `retry_payment`. -/
def executeDunning (rt : Runtime) (s : State) (chargeReference : String)
    (answers : RenewalAnswers) (enqueues : Bool) : HandlerRun :=
  match s.subscription with
  | none =>
    { outcome := .error
        ⟨.permanentJobError,"PermanentJobError","Dunning subscription not found"⟩ }
  | some sub => finishDunning rt s sub
      (chargeRenewal rt sub (present (some chargeReference)) answers s.clock) enqueues

end Valdrics.Billing

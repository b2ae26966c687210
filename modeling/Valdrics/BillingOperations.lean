import Valdrics.BillingWebhooks
import Valdrics.Runs

/-! The billing of one tenant as a step function: checkouts, stored webhooks, the daily sweep,
the worker's passes over a job, and cancellation. Each step is taken at a later moment. -/
namespace Valdrics.Billing

open Enforcement (PricingTier)
open PythonText
open Jobs (BackgroundJob Raised)

/-- `_resolve_reference`: the first id that is not blank, else the payload's digest. -/
def resolveReference (rt : Runtime) (event : WebhookEvent) : String :=
  let ids := [event.reference,event.dataId,event.id,event.eventId].filterMap fun id =>
    present (id.map strip)
  ids.headD ("payload_sha256:" ++ slice (rt.sha256 (rt.serialize event)) 24)

def webhookKey (rt : Runtime) (event : WebhookEvent) : JobKey :=
  .webhook event.body.eventType (resolveReference rt event)

def webhookJob (event : WebhookEvent) (now : Int) : BillingJob where
  payload := .webhook event
  row := { jobType := "webhook_retry", maxAttempts := webhookMaxAttempts, scheduledFor := now }

def completedWithinTtl (rt : Runtime) (row : BackgroundJob) (now : Int) : Bool :=
  row.completedAt.any fun done => now - Jobs.microseconds (3600 * rt.idempotencyTtlHours) ≤ done

def isStaleRunning (rt : Runtime) (row : BackgroundJob) (now : Int) : Bool :=
  row.startedAt.any fun started => started ≤ now - Jobs.microseconds (60 * rt.lockTimeoutMinutes)

def dropsRedelivery (rt : Runtime) (row : BackgroundJob) (now : Int) : Bool :=
  match row.status with
  | .completed => completedWithinTtl rt row now
  | .pending => true
  | .running => !isStaleRunning rt row now
  | .failed | .deadLetter => false

/-- `_requeue_existing_job`. -/
def requeueExistingJob (row : BackgroundJob) (now : Int) : BackgroundJob :=
  { row with
    attempts := if row.status = .running then row.attempts else 0
    status := .pending
    scheduledFor := now
    startedAt := none
    completedAt := none
    errorMessage := none }

/-- `store_webhook` of an event whose signature verifies. -/
def storeWebhook (rt : Runtime) (s : State) (event : WebhookEvent) : State :=
  match s.jobs (webhookKey rt event) with
  | none => s.setJob (webhookKey rt event) (some (webhookJob event s.clock))
  | some job =>
    if dropsRedelivery rt job.row s.clock then s
    else s.setJob (webhookKey rt event) (some ⟨job.payload,requeueExistingJob job.row s.clock⟩)

def renewalJob (rt : Runtime) (bucket : String) (now : Int) : BillingJob where
  payload := .recurringBilling (buildChargeReference rt "renewal" bucket)
  row := { jobType := "recurring_billing", tenantId := some rt.tenantId, scheduledFor := now }

/-- The `WHERE` clause of the sweep. -/
def TenantSubscription.due (sub : TenantSubscription) (now : Int) : Bool :=
  sub.status = .active && sub.nextPaymentDate.any (· ≤ now) && sub.paystackAuthCode.isSome

/-- `billing_sweep_logic`. -/
def billingSweep (rt : Runtime) (s : State) : State :=
  if (s.subscription.any fun sub => sub.due s.clock) then
    enqueueJob s (.recurringBilling (isoDate s.clock)) (renewalJob rt (isoDate s.clock) s.clock)
  else s

/-- `purge_terminal_background_jobs` on one job. -/
def purgeable (rt : Runtime) (row : BackgroundJob) (now : Int) : Bool :=
  let olderThan := fun days => row.completedAt.any fun done => done < now - daysLong days
  match row.status with
  | .completed => olderThan rt.completedRetentionDays
  | .failed => olderThan rt.failedRetentionDays
  | .deadLetter => olderThan rt.deadLetterRetentionDays
  | .pending | .running => false

/-- What the services answer a handler; `enqueues` is the insertion of a retry job. -/
structure JobAnswers where
  renewal : RenewalAnswers
  enqueues : Bool := true

/-- How an execution ends: with its commit, with an exception that leaves the savepoint (a
timeout, a cancellation, a lost connection), or with the worker gone before the commit. -/
inductive Ending where
  | finishes
  | interrupted (error : Raised)
  | lost

/-- What a step did: the provider call it made, the event it handled to the end, the checkout
it opened and its effect on the billing rows. -/
structure Report where
  call : Option ChargeCall := none
  handled : Option WebhookEvent := none
  checkout : Option Checkout := none
  effect : Effect := .nothing
  deriving DecidableEq

def JobPayload.event : JobPayload → Option WebhookEvent
  | .webhook event => some event
  | _ => none

def runHandler (rt : Runtime) (s : State) (answers : JobAnswers) : JobPayload → HandlerRun
  | .webhook event => processPaystackWebhook rt s event answers.enqueues
  | .recurringBilling reference => executeRecurringBilling rt s reference answers.renewal
  | .dunning _ reference => executeDunning rt s reference answers.renewal answers.enqueues

def HandlerRun.kept (run : HandlerRun) (s : State) : State × Report :=
  match run.committed with
  | some next => (next,{ call := run.call, effect := .downgraded })
  | none => (s,{ call := run.call })

def HandlerRun.settled (rt : Runtime) (run : HandlerRun) : Ending → Except Raised Handled
  | .interrupted error => .error error
  | _ => run.outcome.bind fun handled =>
    (Jobs.raiseForFailedResult rt.text handled.result).map fun _ => handled

/-- `_process_single_job` on a job that the fetch has marked running. -/
def executeJob (rt : Runtime) (s : State) (key : JobKey) (job : BillingJob) (run : HandlerRun)
    (ending : Ending) : State × Report :=
  match ending with
  | .lost => run.kept s
  | ending =>
    match run.settled rt ending with
    | .ok handled =>
      (handled.state.setJob key (some ⟨job.payload,job.row.complete s.clock⟩),
        { call := run.call, handled := job.payload.event, effect := handled.effect })
    | .error error =>
      match job.row.recordFailure error s.clock with
      | .ok row => ((run.kept s).1.setJob key (some ⟨job.payload,row⟩),(run.kept s).2)
      | .error _ => run.kept s

def State.jobWhere (s : State) (key : JobKey) (test : BackgroundJob → Bool) : Option BillingJob :=
  (s.jobs key).filter fun job => test job.row

inductive Action where
  | createCheckoutSession (request : CheckoutRequest) (answers : CheckoutAnswers)
  | storeWebhook (event : WebhookEvent)
  | billingSweep
  | fetchJob (key : JobKey)
  | executeJob (key : JobKey) (answers : JobAnswers) (ending : Ending)
  | recoverJob (key : JobKey)
  | purgeJob (key : JobKey)
  | cancelSubscription (disabled : Except Raised Unit)
  | pass

structure Event where
  wait : Nat
  action : Action

def State.rewriteJob (s : State) (key : JobKey) (test : BackgroundJob → Bool)
    (rewrite : BackgroundJob → Except Raised BackgroundJob) : State :=
  match s.jobWhere key test with
  | none => s
  | some job =>
    match rewrite job.row with
    | .ok row => s.setJob key (some ⟨job.payload,row⟩)
    | .error _ => s

def perform (rt : Runtime) (s : State) : Action → State × Report
  | .createCheckoutSession request answers =>
    match createCheckoutSession rt s request answers with
    | .ok opened => (opened.1,{ checkout := some opened.2 })
    | .error _ => (s,{})
  | .storeWebhook event => (storeWebhook rt s event,{})
  | .billingSweep => (billingSweep rt s,{})
  | .fetchJob key => (s.rewriteJob key (·.due s.clock) fun row => .ok (row.fetch s.clock),{})
  | .executeJob key answers ending =>
    match s.jobWhere key (·.status = .running) with
    | some job => executeJob rt s key job (runHandler rt s answers job.payload) ending
    | none => (s,{})
  | .recoverJob key =>
    (s.rewriteJob key (·.stale s.clock rt.lockTimeoutMinutes)
      (·.recoverStale s.clock rt.lockTimeoutMinutes),{})
  | .purgeJob key =>
    match s.jobWhere key (purgeable rt · s.clock) with
    | some _ => (s.setJob key none,{})
    | none => (s,{})
  | .cancelSubscription disabled =>
    match cancelSubscription s disabled with
    | .ok next => (next,{ effect := .cancelled })
    | .error _ => (s,{})
  | .pass => (s,{})

def State.tick (s : State) (wait : Nat) : State := { s with clock := s.clock + wait + 1 }

@[simp] theorem State.tick_subscription (s : State) (wait : Nat) :
    (s.tick wait).subscription = s.subscription := rfl
@[simp] theorem State.tick_plan (s : State) (wait : Nat) : (s.tick wait).plan = s.plan := rfl
@[simp] theorem State.tick_jobs (s : State) (wait : Nat) : (s.tick wait).jobs = s.jobs := rfl
@[simp] theorem State.tick_clock (s : State) (wait : Nat) :
    (s.tick wait).clock = s.clock + wait + 1 := rfl

def exec (rt : Runtime) (s : State) (event : Event) : State × Report :=
  perform rt (s.tick event.wait) event.action

def State.initial (plan : PricingTier) (clock : Int) : State := { clock, plan }

/-- A deployment whose texts are plain, for runs on fixed inputs. -/
def plainRuntime : Runtime where
  text := .asciiOnly
  upper := id
  sha256 := id
  serialize := fun _ => ""
  tenantId := 7
  subscriptionId := "sub"

/-- One naira a dollar, a customer to bill, and this answer of the provider. -/
def answering (reply : ChargeReply) : JobAnswers := ⟨{ ngnRate := .ok ⟨1,0⟩, reply },true⟩

/-- An accepted checkout of this tier, a month at a time in naira unless said otherwise. -/
def opensCheckout (tier : PricingTier) (reference : String) (cycle : String := "monthly") : Action :=
  .createCheckoutSession { tier, billingCycle := some cycle }
    { ngnRate := .ok ⟨1,0⟩, initialize_ := .ok reference }

def paymentEvent (tier : PricingTier) (reference : String) : WebhookEvent where
  reference := some reference
  body := .chargeSuccess
    { metadata :=
        { tenantId := some "00000000000000000000000000000007"
          tier := some (tierValue tier)
          billingCycle := some "monthly" }
      customerCode := some "CUS_1"
      amount := some ⟨4900,0⟩
      authorizationCode := some "AUTH_1" }

def deliver (rt : Runtime) (event : WebhookEvent) : List Event :=
  let key := webhookKey rt event
  [⟨0,.storeWebhook event⟩,⟨0,.fetchJob key⟩,⟨0,.executeJob key (answering .unsuccessful) .finishes⟩]

def subscriptionEvent (due : Int) : WebhookEvent where
  id := some "evt-1"
  body := .subscriptionCreate
    { customerCode := some "CUS_1"
      subscriptionCode := some "SUB_1"
      emailToken := some "token-1"
      nextPaymentDate := some due }

def subscribed (due : Int) : State :=
  finalState (exec plainRuntime) (State.initial .free 0)
    (deliver plainRuntime (paymentEvent .starter "ref-1") ++
      deliver plainRuntime (subscriptionEvent due))

def works (key : JobKey) (reply : ChargeReply) : List Event :=
  [⟨0,.fetchJob key⟩,⟨0,.executeJob key (answering reply) .finishes⟩]

end Valdrics.Billing

import Valdrics.BillingSteps

/-! Whether the first event for a paid checkout is applied: the duplicate test compares its
reference with the last one recorded, and the opening of the checkout records that very one. -/
namespace Valdrics.Billing

open PythonText

structure PaymentHistory where
  checkouts : List Checkout := []
  handled : List String := []

def WebhookEvent.payment (event : WebhookEvent) : Option String :=
  match event.body with
  | .chargeSuccess _ => event.reference
  | _ => none

def PaymentHistory.note (history : PaymentHistory) (_ : State) (_ : Event)
    (result : State × Report) : PaymentHistory where
  checkouts := history.checkouts ++ result.2.checkout.toList
  handled := history.handled ++ (result.2.handled.bind WebhookEvent.payment).toList

def Event.handles (event : Event) (s : State) : Option WebhookEvent :=
  match event.action with
  | .executeJob key _ .finishes => (s.jobWhere key (·.status = .running)).bind (·.payload.event)
  | _ => none

def Checkout.PaidBy (checkout : Checkout) (rt : Runtime) (event : WebhookEvent) : Prop :=
  ∃ data, event.body = .chargeSuccess data ∧ event.reference = some checkout.reference ∧
    data.metadata.tenantId.bind Enforcement.ApprovalToken.parseUuid = some rt.tenantId ∧
    data.metadata.tier = some (tierValue checkout.tier) ∧
    data.metadata.billingCycle = some checkout.billingCycle.value

structure FirstHandling (rt : Runtime) (s : State × PaymentHistory) (event : Event)
    (payment : WebhookEvent) (checkout : Checkout) : Prop where
  handles : event.handles s.1 = some payment
  opened : checkout ∈ s.2.checkouts
  paid : checkout.PaidBy rt payment
  first : checkout.reference ∉ s.2.handled

def Purchased (checkout : Checkout) (s : State) : Prop :=
  (∃ sub, s.subscription = some sub ∧ sub.status = .active ∧ sub.tier = checkout.tier ∧
    sub.billingCycle = checkout.billingCycle) ∧ s.plan = checkout.tier

def Honours (rt : Runtime) (s : State × PaymentHistory) (event : Event) : Prop :=
  ∀ payment checkout, FirstHandling rt s event payment checkout →
    (exec rt s.1 event).2.effect = .chargeApplied ∧ Purchased checkout (exec rt s.1 event).1

def Overwritten (rt : Runtime) (s : State × PaymentHistory) (event : Event) : Prop :=
  ∀ payment checkout, FirstHandling rt s event payment checkout →
    (s.1.subscription.getD {}).recorded (some checkout.reference) = false

variable {rt : Runtime} {s : State} {checkout : Checkout} {payment : WebhookEvent}

theorem normalizeBillingCycle_value (text : Lowercase) (cycle : BillingCycle) :
    normalizeBillingCycle text cycle.value = some cycle := by
  have stripped : strip cycle.value = cycle.value := by cases cycle <;> decide
  have ascii : IsAscii cycle.value := by cases cycle <;> decide
  unfold normalizeBillingCycle
  rw [stripped,text.ascii _ ascii]
  cases cycle <;> decide

theorem raiseForFailedResult_ok (text : Lowercase) {result : Jobs.HandlerResult}
    (ascii : IsAscii (strip result.status))
    (fine : lowerAscii (strip result.status) ∉ ["error","failed","enqueue_failed"]) :
    Jobs.raiseForFailedResult text result = .ok () := by
  unfold Jobs.raiseForFailedResult
  rw [text.ascii _ ascii]
  exact if_neg fun failed => fine failed.2

theorem present_of_bind {value : Option String} {parse : String → Option α} {a : α}
    (blank : parse "" = none) (parsed : value.bind parse = some a) :
    (present value).bind parse = some a := by
  obtain ⟨text,rfl,parses⟩ := Option.bind_eq_some_iff.mp parsed
  by_cases empty : text = ""
  · subst empty
    rw [blank] at parses
    contradiction
  · simpa [present,Option.filter,empty] using parses

theorem Checkout.PaidBy.read (paid : checkout.PaidBy rt payment) :
    ∃ data, payment.body = .chargeSuccess data ∧ payment.reference = some checkout.reference ∧
      (∀ t, chargeTenant rt t data = some rt.tenantId) ∧
      chargeTier rt data = some checkout.tier ∧ chargeCycle rt data = some checkout.billingCycle := by
  obtain ⟨data,body,reference,tenant,tier,cycle⟩ := paid
  refine ⟨data,body,reference,?_,?_,?_⟩
  · intro t
    simp [chargeTenant,present_of_bind (by decide) tenant]
  · have named : tierValue checkout.tier ≠ "" := by cases checkout.tier <;> decide
    simp [chargeTier,tier,present,Option.filter,named,pricingTier_tierValue]
  · simp [chargeCycle,cycle,normalizeBillingCycle_value]

theorem handle_payment (paid : checkout.PaidBy rt payment) (t : State) (enqueues : Bool) :
    ∃ handled, (processPaystackWebhook rt t payment enqueues).outcome = .ok handled ∧
      handled.result.status = "processed" ∧
      (if (t.subscription.getD {}).recorded (some checkout.reference) then
        handled.effect = .chargeIgnored
      else handled.effect = .chargeApplied ∧ Purchased checkout handled.state) := by
  obtain ⟨data,body,reference,tenant,tier,cycle⟩ := paid.read
  simp only [processPaystackWebhook,body,reference,handleChargeSuccess,tenant]
  by_cases recorded : (t.subscription.getD {}).recorded (some checkout.reference) = true
  · simp [recorded,Except.map,processed]
  · simp [recorded,Except.map,processed,Purchased,syncChargedPlan,tier,cycle,
      TenantSubscription.applyCharge]

theorem exec_handles (rt : Runtime) {event : Event} (handles : event.handles s = some payment) :
    ∃ key answers, event.action = .executeJob key answers .finishes ∧
      ∀ handled, (processPaystackWebhook rt (s.tick event.wait) payment answers.enqueues).outcome =
          .ok handled → handled.result.status = "processed" →
        (exec rt s event).2.effect = handled.effect ∧
        (exec rt s event).1.subscription = handled.state.subscription ∧
        (exec rt s event).1.plan = handled.state.plan := by
  obtain ⟨wait,action⟩ := event
  unfold Event.handles at handles
  split at handles
  next key answers act =>
    dsimp only at act
    subst act
    obtain ⟨job,found,carries⟩ := Option.bind_eq_some_iff.mp handles
    refine ⟨key,answers,rfl,?_⟩
    intro handled outcome status
    have fine : Jobs.raiseForFailedResult rt.text handled.result = .ok () := by
      apply raiseForFailedResult_ok
      · rw [status]
        decide
      · rw [status]
        decide
    obtain ⟨payload,row⟩ := job
    cases payload with
    | webhook inner =>
      cases carries
      have running : (s.tick wait).jobWhere key (·.status = .running) =
        some ⟨.webhook payment,row⟩ := found
      simp [exec,perform,running,executeJob,HandlerRun.settled,runHandler,outcome,fine,Except.bind,
        Except.map]
    | recurringBilling reference => contradiction
    | dunning attempt reference => contradiction
  · contradiction

theorem FirstHandling.exec {s : State × PaymentHistory} {event : Event}
    (handling : FirstHandling rt s event payment checkout) :
    if (s.1.subscription.getD {}).recorded (some checkout.reference) then
      (exec rt s.1 event).2.effect = .chargeIgnored
    else (exec rt s.1 event).2.effect = .chargeApplied ∧
      Purchased checkout (exec rt s.1 event).1 := by
  obtain ⟨key,answers,_,runs⟩ := exec_handles rt handling.handles
  obtain ⟨handled,outcome,status,fate⟩ :=
    handle_payment handling.paid (s.1.tick event.wait) answers.enqueues
  obtain ⟨effect,row,plan⟩ := runs handled outcome status
  rw [State.tick_subscription] at fate
  unfold Purchased at fate ⊢
  rwa [effect,row,plan]

/-- In every run: each payment of a checkout is applied when it is first handled, exactly when
the row has by then recorded another reference than the checkout's own. -/
theorem payments_honoured_iff (rt : Runtime) (plan : Enforcement.PricingTier) (clock : Int)
    (events : List Event) :
    EachStep (withHistory (exec rt) PaymentHistory.note) (Honours rt)
        (State.initial plan clock,{}) events ↔
      EachStep (withHistory (exec rt) PaymentHistory.note) (Overwritten rt)
        (State.initial plan clock,{}) events := by
  refine eachStep_iff_eachStep _ _ _ (fun _ => True) (fun _ _ _ => trivial) ?_ _ events trivial
  intro s event _
  constructor
  · intro honours payment checkout handling
    have outcome := handling.exec
    by_contra recorded
    rw [if_pos (by simpa using recorded)] at outcome
    have applied := (honours payment checkout handling).1
    rw [outcome] at applied
    contradiction
  · intro overwritten payment checkout handling
    have outcome := handling.exec
    rwa [if_neg (by simp [overwritten payment checkout handling])] at outcome

def paidCheckout : List Event :=
  ⟨0,opensCheckout .growth "ref-1"⟩ :: deliver plainRuntime (paymentEvent .growth "ref-1")

/-- The payment that follows its own checkout is dropped as a duplicate. -/
theorem paid_checkout_dropped :
    ¬EachStep (withHistory (exec plainRuntime) PaymentHistory.note) (Honours plainRuntime)
      (State.initial .free 0,{}) paidCheckout := by
  intro each
  have applied := (each.2.2.2.1 (paymentEvent .growth "ref-1") ⟨"ref-1",.growth,.monthly⟩
    ⟨by decide,by decide,⟨_,rfl,rfl,by decide,rfl,rfl⟩,by decide⟩).1
  revert applied
  decide

section Masking

end Masking

end Valdrics.Billing

import Valdrics.RenewalCharges

/-! Whether an unpaid checkout leaves the billing alone: a run beside the same run without its
checkouts. The opening of a checkout writes the row that the charges read. -/
namespace Valdrics.Billing

structure LastCharge where
  amountSubunits : Option Int := none
  fxRate : Option Int := none
  fxProvider : Option String := none
  reference : Option String := none
  moment : Option Int := none
  deriving DecidableEq

def State.lastCharge (s : State) : LastCharge :=
  match s.subscription with
  | none => {}
  | some sub =>
    ⟨sub.lastChargeAmountSubunits,sub.lastChargeFxRate,sub.lastChargeFxProvider,
      sub.lastChargeReference,sub.lastChargeAt⟩

def Event.withoutCheckout (event : Event) : Event :=
  match event.action with
  | .createCheckoutSession _ _ => { event with action := .pass }
  | _ => event

/-- A run and the run without its checkouts, with the provider calls that each has made. -/
structure Twins where
  opened : State
  plain : State
  openedCalls : List ChargeCall := []
  plainCalls : List ChargeCall := []

def twinExec (rt : Runtime) (twins : Twins) (event : Event) : Twins × Unit :=
  let opened := exec rt twins.opened event
  let plain := exec rt twins.plain event.withoutCheckout
  (⟨opened.1,plain.1,twins.openedCalls ++ opened.2.call.toList,
    twins.plainCalls ++ plain.2.call.toList⟩,())

/-- The runs have charged the same amounts in the same currency and cycle, and agree in the tier
that a recovery restores, the facts of the last charge and the plan. -/
structure Inert (twins : Twins) : Prop where
  calls : twins.openedCalls = twins.plainCalls
  tier : twins.opened.subscription.map (·.tier) = twins.plain.subscription.map (·.tier)
  lastCharge : twins.opened.lastCharge = twins.plain.lastCharge
  plan : twins.opened.plan = twins.plain.plan

/-- A checkout that goes through: for a paid tier, with a cycle, a currency, a price and a rate
that are known, initialized by the provider and committed. -/
structure CheckoutOpens (rt : Runtime) (request : CheckoutRequest) (answers : CheckoutAnswers) :
    Prop where
  paid : request.tier ≠ .free
  priced : ∃ cycle cents, requireBillingCycle rt.text request.billingCycle = .ok cycle ∧
    resolveUsdPrice answers.planPrices request.tier cycle = .ok cents
  converted : ∃ currency, resolveCheckoutCurrency rt request.currency = .ok currency ∧
    (currency = "USD" ∨ ∃ rate, answers.ngnRate = .ok rate)
  initialized : ∃ reference, answers.initialize_ = .ok reference
  committed : answers.commit = .ok ()

def RefusesCheckout (rt : Runtime) (event : Event) : Prop :=
  ∀ request answers, event.action = .createCheckoutSession request answers →
    ¬CheckoutOpens rt request answers

variable {rt : Runtime} {s : State} {event : Event} {request : CheckoutRequest}
  {told : CheckoutAnswers}

theorem checkoutTerms_iff : (∃ terms, checkoutTerms rt request told = .ok terms) ↔
    request.tier ≠ .free ∧
      (∃ cycle cents, requireBillingCycle rt.text request.billingCycle = .ok cycle ∧
        resolveUsdPrice told.planPrices request.tier cycle = .ok cents) ∧
      ∃ currency, resolveCheckoutCurrency rt request.currency = .ok currency ∧
        (currency = "USD" ∨ ∃ rate, told.ngnRate = .ok rate) := by
  by_cases free : request.tier = .free
  · simp [checkoutTerms,free,throw,throwThe,MonadExceptOf.throw,bind,Except.bind]
  cases named : requireBillingCycle rt.text request.billingCycle with
  | error error => simp [checkoutTerms,free,named,bind,Except.bind,pure,Except.pure]
  | ok cycle =>
    cases allowed : resolveCheckoutCurrency rt request.currency with
    | error error => simp [checkoutTerms,free,named,allowed,bind,Except.bind,pure,Except.pure]
    | ok currency =>
      cases price : resolveUsdPrice told.planPrices request.tier cycle with
      | error error =>
        simp [checkoutTerms,free,named,allowed,price,bind,Except.bind,pure,Except.pure]
      | ok cents =>
        simp only [checkoutTerms,free,named,allowed,price,bind,Except.bind,pure,Except.pure,
          chargeTerms,if_false]
        by_cases dollar : currency = "USD"
        · simp [dollar,free,price]
        · cases rate : told.ngnRate <;> simp [dollar,free,price,Except.map]

theorem createCheckoutSession_ok_iff :
    (∃ opened, createCheckoutSession rt s request told = .ok opened) ↔
      CheckoutOpens rt request told := by
  constructor
  · rintro ⟨opened,done⟩
    obtain ⟨terms,priced,afterTerms⟩ := Enforcement.bind_eq_ok.mp done
    obtain ⟨reference,initialized,afterProvider⟩ := Enforcement.bind_eq_ok.mp afterTerms
    obtain ⟨_,committed,_⟩ := Enforcement.bind_eq_ok.mp afterProvider
    obtain ⟨paid,cycle,currency⟩ := checkoutTerms_iff.mp ⟨terms,priced⟩
    exact ⟨paid,cycle,currency,⟨reference,initialized⟩,committed⟩
  · rintro ⟨paid,cycle,currency,⟨reference,initialized⟩,committed⟩
    obtain ⟨terms,priced⟩ := checkoutTerms_iff.mpr ⟨paid,cycle,currency⟩
    exact ⟨_,by simp only [createCheckoutSession,priced,initialized,committed]; rfl⟩

theorem exec_withoutCheckout (s : State) (refuses : RefusesCheckout rt event) :
    exec rt s event.withoutCheckout = exec rt s event := by
  obtain ⟨wait,action⟩ := event
  cases action with
  | createCheckoutSession request told =>
    have fails : ∀ opened, createCheckoutSession rt (s.tick wait) request told ≠ .ok opened := by
      intro opened done
      exact refuses request told rfl (createCheckoutSession_ok_iff.mp ⟨opened,done⟩)
    simp only [Event.withoutCheckout,exec,perform]
    split
    next opened done => exact absurd done (fails opened)
    · rfl
  | _ => rfl

theorem opened_lastCharge (dated : ChargeDated s) (opens : ¬RefusesCheckout rt event) :
    (exec rt s event).1.lastCharge ≠ (exec rt s event.withoutCheckout).1.lastCharge := by
  simp only [RefusesCheckout] at opens
  push Not at opens
  obtain ⟨request,told,action,opens⟩ := opens
  obtain ⟨wait,_⟩ := event
  subst action
  obtain ⟨⟨next,checkout⟩,done⟩ := (createCheckoutSession_ok_iff (s := s.tick wait)).mpr opens
  obtain ⟨terms,_,_,_,_,written⟩ := createCheckoutSession_opens done
  have left : (exec rt s ⟨wait,.createCheckoutSession request told⟩).1 = next := by
    simp only [exec,perform,done]
  intro same
  have moments := congrArg LastCharge.moment same
  rw [left,written] at moments
  simp only [State.lastCharge,Event.withoutCheckout,exec,perform,State.setSubscription_subscription,
    TenantSubscription.openCheckout,State.tick_subscription,State.tick_clock] at moments
  cases found : s.subscription with
  | none =>
    rw [found] at moments
    contradiction
  | some sub =>
    simp only [found] at moments
    have earlier := dated sub found _ moments.symm
    omega

structure TwinInvariant (twins : Twins) : Prop where
  state : twins.opened = twins.plain
  calls : twins.openedCalls = twins.plainCalls
  dated : ChargeDated twins.plain

/-- From every state that billing reaches, a run and the run without its checkouts charge alike
and leave the same facts exactly when no checkout of the run goes through. -/
theorem checkout_inert_iff (rt : Runtime) (plan : Enforcement.PricingTier) (clock : Int)
    (past events : List Event) :
    Always (twinExec rt) Inert
        ⟨finalState (exec rt) (State.initial plan clock) past,
          finalState (exec rt) (State.initial plan clock) past,[],[]⟩ events ↔
      EachStep (twinExec rt) (fun _ event => RefusesCheckout rt event)
        ⟨finalState (exec rt) (State.initial plan clock) past,
          finalState (exec rt) (State.initial plan clock) past,[],[]⟩ events := by
  refine always_iff_eachStep _ _ _ TwinInvariant ?_ ?_ ?_ _ _ ?_
  · rintro twins ⟨state,calls,_⟩
    exact ⟨calls,by rw [state],by rw [state],by rw [state]⟩
  · rintro ⟨opened,plain,_,_⟩ event ⟨state,calls,dated⟩ refuses
    cases state
    cases calls
    simp only [twinExec,exec_withoutCheckout _ refuses]
    exact ⟨rfl,rfl,exec_dated rt opened event dated⟩
  · rintro ⟨opened,plain,_,_⟩ event ⟨state,_,dated⟩ opens inert
    cases state
    exact opened_lastCharge dated opens inert.lastCharge
  · refine ⟨rfl,rfl,?_⟩
    apply finalState_invariant (exec rt) (fun _ _ => True) ChargeDated
      (fun s event dated _ => exec_dated rt s event dated)
    · exact .of_forall (fun _ _ => trivial) _ _
    · intro sub found
      contradiction

/-- A subscriber opens a checkout for a year, does not pay it, and the renewal comes due. -/
def unpaidCheckout : List Event :=
  ⟨0,opensCheckout .starter "ref-2" "annual"⟩ :: oneRenewal

/-- The renewal of the month charges the year. -/
theorem unpaid_checkout_charges_year :
    ¬Always (twinExec plainRuntime) Inert ⟨subscribed 1,subscribed 1,[],[]⟩ unpaidCheckout := by
  intro always
  have calls := always.2.2.2.2.calls
  revert calls
  decide

end Valdrics.Billing

import Valdrics.BillingModels

/-! The billing service: prices, the opening of a checkout, the charge of a renewal and the
cancellation. What the provider and the other services answer is an input of each call. -/
namespace Valdrics.Billing

open Enforcement (PricingTier Uuid)
open PythonText
open Jobs (Raised)

def valueError (message : String) : Raised := ⟨.valueError,"ValueError",message⟩

def renewalOperationalError (message : String) : Raised :=
  ⟨.runtimeError,"RenewalOperationalError",message⟩

/-- `PAYSTACK_RUNTIME_RECOVERABLE_ERRORS`; a missing key counts as a lookup error and a failed
HTTP exchange as a lost connection. -/
def paystackRuntimeRecoverableErrors : List Jobs.ExceptionClass :=
  [.sqlAlchemyError,.runtimeError,.osError,.timeoutError,.typeError,.valueError,.lookupError]

/-- `str` of a price of two places. -/
def priceText (cents : Int) : String :=
  (if cents < 0 then "-" else "") ++ toString (cents.natAbs / 100) ++ "." ++
    padded 2 (cents.natAbs % 100)

/-- `TIER_CONFIG[tier]["price_usd"]`, in cents. -/
def tierConfigPrice : PricingTier → BillingCycle → Option Int
  | .free, _ => some 0
  | .starter, .monthly => some 4900
  | .starter, .annual => some 49000
  | .growth, .monthly => some 14900
  | .growth, .annual => some 149000
  | .pro, .monthly => some 29900
  | .pro, .annual => some 299000
  | .enterprise, _ => none

/-- `_resolve_usd_price_decimal`, in cents; a row of the plan table prices a month. -/
def resolveUsdPrice (planPrices : PricingTier → Option Int) (tier : PricingTier)
    (cycle : BillingCycle) : Except Raised Int :=
  match planPrices tier with
  | some price =>
    if price < 0 then .error (valueError ("Invalid USD amount: " ++ priceText price))
    else .ok (if cycle = .annual then price * 10 else price)
  | none =>
    match tierConfigPrice tier cycle with
    | some price => .ok price
    | none => .error (valueError "Invalid USD amount: None")

/-- `convert_usd_to_ngn_subunits`. -/
def convertUsdToNgn (cents : Int) (ngnRate : Decimal) : Int :=
  (((Decimal.ofUnits cents 2).mul ngnRate).mul ⟨100,0⟩).columnUnits 0

structure ChargeTerms where
  tier : PricingTier
  billingCycle : BillingCycle
  currency : String
  amountSubunits : Int
  fxRate : Int
  fxProvider : String
  deriving DecidableEq, Repr

def chargeTerms (tier : PricingTier) (cycle : BillingCycle) (currency : String) (cents : Int)
    (ngnRate : Except Raised Decimal) : Except Raised ChargeTerms :=
  if currency = "USD" then .ok ⟨tier,cycle,currency,cents,1000000,fxProviderUsd⟩
  else ngnRate.map fun rate =>
    ⟨tier,cycle,checkoutCurrency,convertUsdToNgn cents rate,rate.columnUnits 6,fxProviderNgn⟩

/-- `_normalize_billing_cycle` of the service. -/
def requireBillingCycle (text : Lowercase) (value : Option String) : Except Raised BillingCycle :=
  match normalizeBillingCycle text ((present value).getD "monthly") with
  | some cycle => .ok cycle
  | none => .error (valueError ("Invalid billing cycle: " ++ value.getD "None"))

def defaultCurrency (rt : Runtime) : String :=
  let currency := rt.upper (strip (orDefault rt.defaultCheckoutCurrency checkoutCurrency))
  if currency = "NGN" ∨ currency = "USD" then currency else checkoutCurrency

def requestedCurrency (rt : Runtime) (requested : Option String) : String :=
  match requested.filter fun text => strip text ≠ "" with
  | some text => rt.upper (strip text)
  | none => defaultCurrency rt

def resolveCheckoutCurrency (rt : Runtime) (requested : Option String) : Except Raised String :=
  let currency := requestedCurrency rt requested
  if currency = "USD" ∧ rt.enableUsdCheckout = false then
    .error (valueError "USD checkout is not enabled")
  else if currency = "NGN" ∨ currency = "USD" then .ok currency
  else .error (valueError ("Unsupported checkout currency: " ++ currency))

structure CheckoutRequest where
  tier : PricingTier
  billingCycle : Option String := some "monthly"
  currency : Option String := none

/-- The price list, the exchange rate, the provider's reference and how the commit ends. -/
structure CheckoutAnswers where
  planPrices : PricingTier → Option Int := fun _ => none
  ngnRate : Except Raised Decimal
  initialize_ : Except Raised String
  commit : Except Raised Unit := .ok ()

structure Checkout where
  reference : String
  tier : PricingTier
  billingCycle : BillingCycle
  deriving DecidableEq, Repr

def checkoutTerms (rt : Runtime) (request : CheckoutRequest) (answers : CheckoutAnswers) :
    Except Raised ChargeTerms := do
  if request.tier = .free then throw (valueError "Cannot checkout free tier")
  let cycle ← requireBillingCycle rt.text request.billingCycle
  let currency ← resolveCheckoutCurrency rt request.currency
  let cents ← resolveUsdPrice answers.planPrices request.tier cycle
  chargeTerms request.tier cycle currency cents answers.ngnRate

def TenantSubscription.openCheckout (sub : TenantSubscription) (terms : ChargeTerms)
    (reference : String) (now : Int) : TenantSubscription :=
  { sub with
    billingCycle := terms.billingCycle
    billingCurrency := terms.currency
    lastChargeAmountSubunits := some terms.amountSubunits
    lastChargeFxRate := some terms.fxRate
    lastChargeFxProvider := some terms.fxProvider
    lastChargeReference := some reference
    lastChargeAt := some now }

def createCheckoutSession (rt : Runtime) (s : State) (request : CheckoutRequest)
    (answers : CheckoutAnswers) : Except Raised (State × Checkout) := do
  let terms ← checkoutTerms rt request answers
  let reference ← answers.initialize_
  answers.commit
  let sub := s.subscription.getD { tier := request.tier }
  return (s.setSubscription (sub.openCheckout terms reference s.clock),
    ⟨reference,request.tier,terms.billingCycle⟩)

/-- Who is billed: the first user of the tenant, whose address may be unreadable. -/
inductive BillingContact where
  | found | missing | unreadable
  deriving DecidableEq

/-- `metadata` of the charge that the provider answers. -/
inductive ReplyMetadata where
  | object (billingCycle : Option String)
  | other
  deriving DecidableEq

/-- `data` of a successful charge. -/
structure ChargeData where
  reference : Option String := none
  nextPaymentDate : Option Int := none
  planInterval : Option String := none
  metadata : ReplyMetadata := .object none
  deriving DecidableEq

/-- `charge_authorization` may raise, answer no success, or answer the charge. -/
inductive ChargeReply where
  | raised (error : Raised)
  | unsuccessful
  | success (data : ChargeData)

structure RenewalAnswers where
  decrypts : Bool := true
  planPrices : PricingTier → Option Int := fun _ => none
  ngnRate : Except Raised Decimal
  contact : BillingContact := .found
  reply : ChargeReply
  /-- The first readable date of `fetch_subscription`. -/
  fetchedDate : Option Int := none

/-- A call of `charge_authorization`. -/
structure ChargeCall where
  terms : ChargeTerms
  reference : String
  succeeded : Bool
  deriving DecidableEq, Repr

def renewalCurrency (rt : Runtime) (sub : TenantSubscription) : String :=
  if strip sub.billingCurrency = "" then checkoutCurrency
  else rt.upper (strip sub.billingCurrency)

def renewalTerms (rt : Runtime) (sub : TenantSubscription) (answers : RenewalAnswers) :
    Except Raised ChargeTerms :=
  match resolveUsdPrice answers.planPrices sub.tier sub.billingCycle with
  | .error _ => .error (renewalOperationalError "Subscription pricing unavailable for renewal")
  | .ok cents =>
    chargeTerms sub.tier sub.billingCycle (renewalCurrency rt sub) cents answers.ngnRate

def renewalSequence (sub : TenantSubscription) : String :=
  match sub.nextPaymentDate with
  | some due => isoDate due
  | none => "immediate"

def effectiveReference (rt : Runtime) (sub : TenantSubscription) (reference : Option String) :
    String :=
  (present reference).getD (buildChargeReference rt "renewal" (renewalSequence sub))

/-- `infer_interval_days`. -/
def inferIntervalDays (text : Lowercase) (data : ChargeData) : Nat :=
  let fromMetadata := match data.metadata with
    | .object cycle => cycle
    | .other => none
  let interval := text.lower (strip ((data.planInterval.or fromMetadata).getD ""))
  if interval ∈ ["annual","annually","year","yearly"] then 365 else 30

/-- `compute_fallback_next_payment_date`. -/
def computeFallbackNextPaymentDate (sub : TenantSubscription) (intervalDays : Nat) (now : Int) :
    Int :=
  let anchor := match sub.nextPaymentDate with
    | some due => if due < now - daysLong intervalDays then now else due
    | none => now
  if anchor + daysLong intervalDays ≤ now then now + daysLong intervalDays
  else anchor + daysLong intervalDays

/-- `fetch_provider_next_payment_date`: only a subscription code is looked up. -/
def fetchProviderNextPaymentDate (sub : TenantSubscription) (answers : RenewalAnswers) :
    Option Int :=
  if (sub.paystackSubscriptionCode.any fun code => strip code ≠ "") then answers.fetchedDate
  else none

def providerNextPaymentDate (sub : TenantSubscription) (answers : RenewalAnswers)
    (data : ChargeData) : Option Int :=
  (fetchProviderNextPaymentDate sub answers).or data.nextPaymentDate

def resolveRenewalNextPaymentDate (text : Lowercase) (sub : TenantSubscription)
    (answers : RenewalAnswers) (data : ChargeData) (now : Int) : Int :=
  (providerNextPaymentDate sub answers data).getD
    (computeFallbackNextPaymentDate sub (inferIntervalDays text data) now)

def chargedBillingCycle (text : Lowercase) (sub : TenantSubscription) (data : ChargeData) :
    Except Raised BillingCycle :=
  match data.metadata with
  | .object cycle =>
    match present cycle with
    | some value => requireBillingCycle text (some value)
    | none => .ok sub.billingCycle
  | .other => .ok sub.billingCycle

def TenantSubscription.charge (sub : TenantSubscription) (terms : ChargeTerms) (reference : String)
    (due : Int) (cycle : BillingCycle) (now : Int) : TenantSubscription :=
  { sub with
    nextPaymentDate := some due
    billingCycle := cycle
    billingCurrency := terms.currency
    lastChargeAmountSubunits := some terms.amountSubunits
    lastChargeFxRate := some terms.fxRate
    lastChargeFxProvider := some terms.fxProvider
    lastChargeReference := some reference
    lastChargeAt := some now }

/-- The code's answers: no charge for want of a usable authorization, a reference that the row
already records, a refused charge, or the row after the charge. -/
inductive RenewalResult where
  | unauthorized | alreadyCharged | refused
  | charged (sub : TenantSubscription)

structure Renewal where
  call : Option ChargeCall := none
  result : Except Raised RenewalResult

def finishRenewal (rt : Runtime) (sub : TenantSubscription) (answers : RenewalAnswers)
    (terms : ChargeTerms) (reference : String) (now : Int) (data : ChargeData) :
    Except Raised RenewalResult :=
  match chargedBillingCycle rt.text sub data with
  | .error _ => .error (renewalOperationalError "Paystack renewal request failed")
  | .ok cycle => .ok (.charged (sub.charge terms ((present data.reference).getD reference)
      (resolveRenewalNextPaymentDate rt.text sub answers data now) cycle now))

def callProvider (rt : Runtime) (sub : TenantSubscription) (answers : RenewalAnswers)
    (terms : ChargeTerms) (reference : String) (now : Int) : Renewal :=
  match answers.reply with
  | .raised error =>
    ⟨some ⟨terms,reference,false⟩,
      .error (if error.cls.isInstance paystackRuntimeRecoverableErrors then
        renewalOperationalError "Paystack renewal request failed" else error)⟩
  | .unsuccessful => ⟨some ⟨terms,reference,false⟩,.ok .refused⟩
  | .success data =>
    ⟨some ⟨terms,reference,true⟩,finishRenewal rt sub answers terms reference now data⟩

def authorized (sub : TenantSubscription) (answers : RenewalAnswers) : Bool :=
  (present sub.paystackAuthCode).isSome && answers.decrypts

def chargeRenewal (rt : Runtime) (sub : TenantSubscription) (reference : Option String)
    (answers : RenewalAnswers) (now : Int) : Renewal :=
  if authorized sub answers = false then ⟨none,.ok .unauthorized⟩
  else match renewalTerms rt sub answers with
    | .error error => ⟨none,.error error⟩
    | .ok terms =>
      let reference := effectiveReference rt sub reference
      if sub.lastChargeReference = some reference then ⟨none,.ok .alreadyCharged⟩
      else match answers.contact with
        | .missing => ⟨none,.error (renewalOperationalError "No billing contact found for renewal")⟩
        | .unreadable =>
          ⟨none,.error (renewalOperationalError "Billing contact email unavailable for renewal")⟩
        | .found => callProvider rt sub answers terms reference now

/-- `cancel_subscription`; `disabled` is the provider's answer. -/
def cancelSubscription (s : State) (disabled : Except Raised Unit) : Except Raised State :=
  match s.subscription with
  | none => .error (valueError "No active subscription to cancel")
  | some sub =>
    if (present sub.paystackSubscriptionCode).isNone ∨ (present sub.paystackEmailToken).isNone then
      .error (valueError "No active subscription to cancel")
    else disabled.map fun _ =>
      s.setSubscription { sub with status := .cancelled, canceledAt := some s.clock }

end Valdrics.Billing

import Valdrics.DecimalContext
import Valdrics.JobQueue

/-! One tenant's billing: the subscription row, the plan of the tenant, the events of the
payment provider and the background jobs that carry them. -/
namespace Valdrics.Billing

open Enforcement (PricingTier Uuid)
open PythonText
open Jobs (BackgroundJob Raised)

inductive SubscriptionStatus where
  | active | nonRenewing | attention | completed | cancelled
  deriving DecidableEq, Repr

/-- The value column of the enumeration, as the job results show it. -/
def SubscriptionStatus.value : SubscriptionStatus → String
  | .active => "active"
  | .nonRenewing => "non-renewing"
  | .attention => "attention"
  | .completed => "completed"
  | .cancelled => "cancelled"

inductive BillingCycle where
  | monthly | annual
  deriving DecidableEq, Repr

def BillingCycle.value : BillingCycle → String
  | .monthly => "monthly"
  | .annual => "annual"

def tierValue : PricingTier → String
  | .free => "free"
  | .starter => "starter"
  | .growth => "growth"
  | .pro => "pro"
  | .enterprise => "enterprise"

def tierRank : PricingTier → Nat
  | .free => 0
  | .starter => 1
  | .growth => 2
  | .pro => 3
  | .enterprise => 4

/-- `PricingTier(value)`. -/
def pricingTier (value : String) : Option PricingTier :=
  [.free,.starter,.growth,.pro,.enterprise].find? fun tier => tierValue tier = value

theorem pricingTier_tierValue (text : Lowercase) (tier : PricingTier) :
    pricingTier (text.lower (strip (tierValue tier))) = some tier := by
  have stripped : strip (tierValue tier) = tierValue tier := by cases tier <;> decide
  have ascii : IsAscii (tierValue tier) := by cases tier <;> decide
  rw [stripped,text.ascii _ ascii]
  cases tier <;> decide

def normalizeBillingCycle (text : Lowercase) (value : String) : Option BillingCycle :=
  [BillingCycle.monthly,.annual].find? fun cycle => cycle.value = text.lower (strip value)

def checkoutCurrency : String := "NGN"
def fxProviderNgn : String := "cbn_nfem"
def fxProviderUsd : String := "native_usd"

structure TenantSubscription where
  paystackCustomerCode : Option String := none
  paystackSubscriptionCode : Option String := none
  paystackEmailToken : Option String := none
  paystackAuthCode : Option String := none
  tier : PricingTier := .free
  status : SubscriptionStatus := .active
  nextPaymentDate : Option Int := none
  billingCurrency : String := checkoutCurrency
  billingCycle : BillingCycle := .monthly
  lastChargeAmountSubunits : Option Int := none
  lastChargeFxRate : Option Int := none
  lastChargeFxProvider : Option String := none
  lastChargeReference : Option String := none
  lastChargeAt : Option Int := none
  canceledAt : Option Int := none
  dunningAttempts : Nat := 0
  lastDunningAt : Option Int := none
  dunningNextRetryAt : Option Int := none
  deriving DecidableEq, Repr

/-- What a query for a text column finds; an absent or empty search text is not searched for. -/
def matches_ (column wanted : Option String) : Bool :=
  wanted.any fun text => text ≠ "" && column = some text

def present (value : Option String) : Option String := value.filter (· ≠ "")

theorem matches_present {column wanted : Option String} (found : matches_ column wanted = true) :
    (present wanted).isNone = false := by
  cases wanted with
  | none => contradiction
  | some text =>
    have named : text ≠ "" := by
      intro blank
      simp [matches_,blank] at found
    simp [present,Option.filter,named]

/-- `metadata` of a charge; of a text that is no JSON object every field is absent. -/
structure ChargeMetadata where
  tenantId : Option String := none
  tier : Option String := none
  billingCycle : Option String := none
  exchangeRate : Option Decimal := none
  fxProvider : Option String := none
  deriving DecidableEq, Repr

/-- `data` of `charge.success`; an amount that is no number is absent. -/
structure ChargeSuccess where
  metadata : ChargeMetadata := {}
  customerCode : Option String := none
  customerEmail : Option String := none
  amount : Option Decimal := none
  currency : Option String := none
  authorizationCode : Option String := none
  deriving DecidableEq, Repr

/-- `data` of `subscription.create`; a date that cannot be parsed is absent. -/
structure SubscriptionCreate where
  customerCode : Option String := none
  subscriptionCode : Option String := none
  emailToken : Option String := none
  nextPaymentDate : Option Int := none
  deriving DecidableEq, Repr

/-- `data` of `invoice.payment_failed`. -/
structure InvoiceFailed where
  subscriptionCode : Option String := none
  customerCode : Option String := none
  deriving DecidableEq, Repr

inductive WebhookBody where
  | subscriptionCreate (data : SubscriptionCreate)
  | chargeSuccess (data : ChargeSuccess)
  | subscriptionDisable (subscriptionCode : Option String)
  | invoiceFailed (data : InvoiceFailed)
  | other (eventType : String)
  deriving DecidableEq, Repr

def WebhookBody.eventType : WebhookBody → String
  | .subscriptionCreate _ => "subscription.create"
  | .chargeSuccess _ => "charge.success"
  | .subscriptionDisable _ => "subscription.disable"
  | .invoiceFailed _ => "invoice.payment_failed"
  | .other eventType => eventType

/-- A signed event of the provider: `data.reference`, `data.id`, its own ids and its data. -/
structure WebhookEvent where
  reference : Option String := none
  dataId : Option String := none
  id : Option String := none
  eventId : Option String := none
  body : WebhookBody
  deriving DecidableEq, Repr

inductive JobKey where
  | webhook (eventType reference : String)
  | recurringBilling (bucket : String)
  | dunning (attempt : Nat)
  deriving DecidableEq, Repr

inductive JobPayload where
  | webhook (event : WebhookEvent)
  | recurringBilling (chargeReference : String)
  | dunning (attempt : Nat) (chargeReference : String)
  deriving DecidableEq

structure BillingJob where
  payload : JobPayload
  row : BackgroundJob
  deriving DecidableEq

/-- What a deployment fixes: texts, digests, ids and settings. -/
structure Runtime where
  text : Lowercase
  upper : String → String
  sha256 : String → String
  /-- The canonical text of an event's payload. -/
  serialize : WebhookEvent → String
  tenantId : Uuid
  subscriptionId : String
  defaultCheckoutCurrency : String := checkoutCurrency
  enableUsdCheckout : Bool := false
  idempotencyTtlHours : Nat := 72
  lockTimeoutMinutes : Nat := 30
  completedRetentionDays : Nat := 7
  failedRetentionDays : Nat := 30
  deadLetterRetentionDays : Nat := 30

/-- The committed rows, and the moment of the step that is taken. A key holds one job. -/
structure State where
  clock : Int
  subscription : Option TenantSubscription := none
  plan : PricingTier
  jobs : JobKey → Option BillingJob := fun _ => none

namespace State

def setSubscription (s : State) (sub : TenantSubscription) : State :=
  { s with subscription := some sub }

/-- `sync_tenant_plan`. -/
def syncTenantPlan (s : State) (tier : PricingTier) : State := { s with plan := tier }

def setJob (s : State) (key : JobKey) (job : Option BillingJob) : State :=
  { s with jobs := Function.update s.jobs key job }

variable (s : State) (sub : TenantSubscription) (tier : PricingTier) (key other : JobKey)
  (job : Option BillingJob)

@[simp] theorem setSubscription_subscription : (s.setSubscription sub).subscription = some sub := rfl
@[simp] theorem setSubscription_plan : (s.setSubscription sub).plan = s.plan := rfl
@[simp] theorem setSubscription_jobs : (s.setSubscription sub).jobs = s.jobs := rfl
@[simp] theorem setSubscription_clock : (s.setSubscription sub).clock = s.clock := rfl
@[simp] theorem syncTenantPlan_subscription :
    (s.syncTenantPlan tier).subscription = s.subscription := rfl
@[simp] theorem syncTenantPlan_plan : (s.syncTenantPlan tier).plan = tier := rfl
@[simp] theorem syncTenantPlan_jobs : (s.syncTenantPlan tier).jobs = s.jobs := rfl
@[simp] theorem syncTenantPlan_clock : (s.syncTenantPlan tier).clock = s.clock := rfl
@[simp] theorem setJob_subscription : (s.setJob key job).subscription = s.subscription := rfl
@[simp] theorem setJob_plan : (s.setJob key job).plan = s.plan := rfl
@[simp] theorem setJob_clock : (s.setJob key job).clock = s.clock := rfl

@[simp] theorem setJob_same : (s.setJob key job).jobs key = job := by simp [setJob]

theorem setJob_other (different : other ≠ key) : (s.setJob key job).jobs other = s.jobs other := by
  simp [setJob,Function.update_of_ne different]

end State

/-- `value.strip("-")` of a text whose other characters are letters and digits. -/
def trimDashes (cs : List Char) : List Char :=
  ((cs.dropWhile (· = '-')).reverse.dropWhile (· = '-')).reverse

/-- `re.sub(r"[^a-z0-9]+","-",value)`. -/
def dashRuns : List Char → List Char
  | [] => []
  | c :: cs =>
    if ('a' ≤ c ∧ c ≤ 'z') ∨ ('0' ≤ c ∧ c ≤ '9') then c :: dashRuns cs
    else if (dashRuns cs).head? = some '-' then dashRuns cs
    else '-' :: dashRuns cs

def referencePart (text : Lowercase) (value default : String) : String :=
  orDefault (String.ofList (trimDashes (dashRuns (text.lower (strip value)).toList))) default

def buildChargeReference (rt : Runtime) (chargeKind sequence : String) : String :=
  let kind := referencePart rt.text chargeKind "charge"
  let sequence := referencePart rt.text sequence "1"
  let fingerprint := slice (rt.sha256 (rt.subscriptionId ++ ":" ++ kind ++ ":" ++ sequence)) 20
  slice ("valdrics-" ++ slice kind 18 ++ "-" ++ slice sequence 24 ++ "-" ++ fingerprint) 96

/-- The number in decimal with leading zeros. -/
def padded (width n : Nat) : String :=
  String.ofList (List.replicate (width - (Nat.toDigits 10 n).length) '0' ++ Nat.toDigits 10 n)

/-- `strftime("%Y-%m-%d")`, which is also `date().isoformat()`. -/
def isoDate (instant : Int) : String :=
  let month := Calendar.monthOf instant.toNat
  let day := (instant.toNat - Calendar.monthStart month) / Calendar.microsPerDay
  padded 4 (month / 12 + 1) ++ "-" ++ padded 2 (month % 12 + 1) ++ "-" ++ padded 2 (day + 1)

/-- `timedelta(days=…)`. -/
def daysLong (days : Nat) : Int := Jobs.microseconds (86400 * days)

end Valdrics.Billing

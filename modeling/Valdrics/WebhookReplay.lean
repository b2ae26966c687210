import Valdrics.CheckoutHonoured

/-! What the replay of a handled event does to the billing of the tenant. Each kind of event
has its own protection, and each protection remembers only the latest state of the row. -/
namespace Valdrics.Billing

open PythonText
open Jobs (Raised)

/-- The columns that a replay must leave alone. -/
structure BillingFacts where
  tier : Enforcement.PricingTier
  billingCycle : BillingCycle
  status : SubscriptionStatus
  billingCurrency : String
  lastChargeAmountSubunits : Option Int
  lastChargeFxRate : Option Int
  lastChargeFxProvider : Option String
  lastChargeReference : Option String
  lastChargeAt : Option Int
  dunningAttempts : Nat
  lastDunningAt : Option Int
  dunningNextRetryAt : Option Int
  deriving DecidableEq

def TenantSubscription.facts (sub : TenantSubscription) : BillingFacts where
  tier := sub.tier
  billingCycle := sub.billingCycle
  status := sub.status
  billingCurrency := sub.billingCurrency
  lastChargeAmountSubunits := sub.lastChargeAmountSubunits
  lastChargeFxRate := sub.lastChargeFxRate
  lastChargeFxProvider := sub.lastChargeFxProvider
  lastChargeReference := sub.lastChargeReference
  lastChargeAt := sub.lastChargeAt
  dunningAttempts := sub.dunningAttempts
  lastDunningAt := sub.lastDunningAt
  dunningNextRetryAt := sub.dunningNextRetryAt

def State.facts (s : State) : Option BillingFacts × Enforcement.PricingTier :=
  (s.subscription.map (·.facts),s.plan)

def noteHandled (handled : List WebhookEvent) (_ : State) (_ : Event) (result : State × Report) :
    List WebhookEvent := handled ++ result.2.handled.toList

def Event.executes (event : Event) (s : State) : Option WebhookEvent :=
  match event.action with
  | .executeJob key _ _ => (s.jobWhere key (·.status = .running)).bind (·.payload.event)
  | _ => none

def Event.finishes (event : Event) : Bool :=
  match event.action with
  | .executeJob _ _ .finishes => true
  | _ => false

def Event.enqueues (event : Event) : Bool :=
  match event.action with
  | .executeJob _ answers _ => answers.enqueues
  | _ => false

def ReplaysNothing (rt : Runtime) (s : State × List WebhookEvent) (event : Event) : Prop :=
  ∀ replayed, event.executes s.1 = some replayed → replayed ∈ s.2 →
    (exec rt s.1 event).1.facts = s.1.facts

/-- The row on which a replay is harmless: a payment is the last one it records, an activation
finds it active, a disabling finds it cancelled, and a failed invoice falls into the debounce
or is rolled back before the last attempt. -/
def Protected (rt : Runtime) (s : State) (event : Event) (replayed : WebhookEvent) : Prop :=
  match replayed.body with
  | .chargeSuccess data => event.finishes = true → chargeTenant rt s data = some rt.tenantId →
      (s.subscription.getD {}).recorded replayed.reference = true
  | .subscriptionCreate data => event.finishes = true → ∀ sub, s.subscription = some sub →
      matches_ sub.paystackCustomerCode data.customerCode = true → sub.status = .active
  | .subscriptionDisable code => event.finishes = true → ∀ sub, s.subscription = some sub →
      matches_ sub.paystackSubscriptionCode code = true → sub.status = .cancelled
  | .invoiceFailed data => ∀ sub, s.subscription = some sub → invoiceFinds s data = true →
      debounced sub (s.tick event.wait).clock = true ∨
        (sub.dunningAttempts + 1 < dunningMaxAttempts ∧
          (event.finishes = false ∨ event.enqueues = false))
  | .other _ => True

def ReplaysProtected (rt : Runtime) (s : State × List WebhookEvent) (event : Event) : Prop :=
  ∀ replayed, event.executes s.1 = some replayed → replayed ∈ s.2 → Protected rt s.1 event replayed

variable {rt : Runtime} {s t : State} {event : Event} {replayed : WebhookEvent}

theorem SameRows.facts (same : SameRows s t) : s.facts = t.facts := by
  simp [State.facts,same.subscription,same.plan]

theorem processPaystackWebhook_status {enqueues : Bool} {handled : Handled}
    (handles : (processPaystackWebhook rt s replayed enqueues).outcome = .ok handled) :
    handled.result.status = "processed" ∨ handled.result.status = "ignored" := by
  simp only [processPaystackWebhook] at handles
  split at handles
  case h_4 =>
    simp only [handleInvoiceFailed] at handles
    split_ifs at handles
    split at handles <;> (cases handles; exact .inl rfl)
  case h_5 =>
    cases handles
    exact .inr rfl
  all_goals
    obtain ⟨_,_,rfl⟩ := map_eq_ok.mp handles
    exact .inl rfl

theorem processPaystackWebhook_settled (rt : Runtime) (s : State) (replayed : WebhookEvent)
    (enqueues : Bool) :
    (processPaystackWebhook rt s replayed enqueues).settled rt .finishes =
      (processPaystackWebhook rt s replayed enqueues).outcome := by
  simp only [HandlerRun.settled]
  cases handles : (processPaystackWebhook rt s replayed enqueues).outcome with
  | error error => rfl
  | ok handled =>
    have fine : Jobs.raiseForFailedResult rt.text handled.result = .ok () := by
      apply raiseForFailedResult_ok
      all_goals
        rcases processPaystackWebhook_status handles with status | status <;> rw [status]
      · decide
      · decide
      · decide
      · decide
    simp [Except.bind,Except.map,fine]

theorem exec_executes (rt : Runtime) (executes : event.executes s = some replayed) :
    ∃ key answers ending, event.action = .executeJob key answers ending ∧
      SameRows (exec rt s event).1
        ((processPaystackWebhook rt (s.tick event.wait) replayed answers.enqueues).rows rt
          (s.tick event.wait) ending) := by
  obtain ⟨wait,action⟩ := event
  simp only [Event.executes] at executes
  split at executes
  next key answers ending =>
    obtain ⟨⟨payload,row⟩,found,carries⟩ := Option.bind_eq_some_iff.mp executes
    refine ⟨key,answers,ending,rfl,?_⟩
    cases payload with
    | webhook =>
      cases carries
      have running : (s.tick wait).jobWhere key (·.status = .running) =
        some ⟨.webhook replayed,row⟩ := found
      simp only [exec,perform,running,runHandler]
      exact executeJob_rows ..
    | recurringBilling => contradiction
    | dunning => contradiction
  · contradiction

def rowsAfter (s : State) : Except Raised (State × Effect) → State
  | .ok done => done.1
  | .error _ => s

def FailedPayment.rows (s : State) : FailedPayment → State
  | .notFound | .duplicateIgnored | .enqueueFailed => s
  | .scheduledRetry next | .downgraded next => next

theorem rows_of_outcome {run : HandlerRun} (settled : run.settled rt .finishes = run.outcome)
    (uncommitted : run.committed = none) (ending : Ending) :
    run.rows rt s ending = match ending, run.outcome with
      | .finishes, .ok handled => handled.state
      | _, _ => s := by
  have kept : (run.kept s).1 = s := by simp [HandlerRun.kept,uncommitted]
  cases ending with
  | finishes => cases outcome : run.outcome <;> simp [HandlerRun.rows,settled,outcome,kept]
  | _ => simp [HandlerRun.rows,kept]

def ChargedBefore (s : State) : Prop :=
  ∀ sub, s.subscription = some sub → sub.lastChargeAt ≠ some s.clock

theorem ChargeDated.tick (dated : ChargeDated s) (wait : Nat) : ChargedBefore (s.tick wait) := by
  intro sub found charged
  have early := dated sub found _ charged
  rw [State.tick_clock] at early
  omega

/-- A step that writes the moment of a charge changes the facts. -/
theorem facts_ne_of_charged {sub : TenantSubscription} {plan : Enforcement.PricingTier}
    (before : ChargedBefore s) (charged : sub.lastChargeAt = some s.clock) :
    (some sub.facts,plan) ≠ s.facts := by
  intro same
  obtain ⟨old,found,facts⟩ := Option.map_eq_some_iff.mp (congrArg Prod.fst same).symm
  exact before old found ((congrArg BillingFacts.lastChargeAt facts).trans charged)

theorem facts_ne_of_failed {sub after : TenantSubscription} {plan : Enforcement.PricingTier}
    (found : s.subscription = some sub) (counted : after.dunningAttempts = sub.dunningAttempts + 1) :
    (some after.facts,plan) ≠ s.facts := by
  intro same
  obtain ⟨old,before,facts⟩ := Option.map_eq_some_iff.mp (congrArg Prod.fst same).symm
  rw [found] at before
  cases before
  have attempts := congrArg BillingFacts.dunningAttempts facts
  simp only [TenantSubscription.facts,counted] at attempts
  omega

theorem replayed_charge_facts {reference : Option String} {data : ChargeSuccess}
    (before : ChargedBefore s) :
    (rowsAfter s (handleChargeSuccess rt s reference data)).facts = s.facts ↔
    (chargeTenant rt s data = some rt.tenantId →
      (s.subscription.getD {}).recorded reference = true) := by
  simp only [handleChargeSuccess,rowsAfter]
  cases resolved : chargeTenant rt s data with
  | none =>
    dsimp only
    split_ifs <;> simp
  | some tenantId =>
    by_cases own : tenantId = rt.tenantId
    · subst own
      by_cases recorded : (s.subscription.getD {}).recorded reference = true
      · simp [recorded]
      · have changed : (some ((s.subscription.getD {}).applyCharge rt reference data
            s.clock).facts,(chargeTier rt data).getD s.plan) ≠ s.facts :=
          facts_ne_of_charged before rfl
        simpa [recorded,State.facts] using changed
    · simp [own]

theorem replayed_create_facts {data : SubscriptionCreate} :
    (rowsAfter s (handleSubscriptionCreate s data)).facts = s.facts ↔
    (∀ sub, s.subscription = some sub →
      matches_ sub.paystackCustomerCode data.customerCode = true → sub.status = .active) := by
  simp only [handleSubscriptionCreate,rowsAfter]
  cases found : s.subscription with
  | none => by_cases missing : (present data.customerCode).isNone = true <;> simp [missing]
  | some sub =>
    have lookup : (some sub).filter (fun sub => matches_ sub.paystackCustomerCode data.customerCode) =
        if matches_ sub.paystackCustomerCode data.customerCode = true then some sub else none := rfl
    rw [lookup]
    by_cases searched : matches_ sub.paystackCustomerCode data.customerCode = true
    · simp [matches_present searched,searched,State.facts,found,TenantSubscription.facts]
      exact eq_comm
    · by_cases missing : (present data.customerCode).isNone = true <;> simp [missing,searched]

theorem replayed_disable_facts {code : Option String} :
    (rowsAfter s (handleSubscriptionDisable s code)).facts = s.facts ↔
    (∀ sub, s.subscription = some sub →
      matches_ sub.paystackSubscriptionCode code = true → sub.status = .cancelled) := by
  simp only [handleSubscriptionDisable,rowsAfter]
  cases found : s.subscription with
  | none => by_cases missing : (present code).isNone = true <;> simp [missing]
  | some sub =>
    have lookup : (some sub).filter (fun sub => matches_ sub.paystackSubscriptionCode code) =
        if matches_ sub.paystackSubscriptionCode code = true then some sub else none := rfl
    rw [lookup]
    by_cases searched : matches_ sub.paystackSubscriptionCode code = true
    · simp [matches_present searched,searched,State.facts,found,TenantSubscription.facts]
      exact eq_comm
    · by_cases missing : (present code).isNone = true <;> simp [missing,searched]

theorem failed_payment_facts {sub : TenantSubscription} (found : s.subscription = some sub)
    (enqueues : Bool) :
    ((processFailedPayment rt s true enqueues).rows s).facts = s.facts ↔
    debounced sub s.clock = true ∨
      (sub.dunningAttempts + 1 < dunningMaxAttempts ∧ enqueues = false) := by
  have counter : (sub.fail s.clock).dunningAttempts = sub.dunningAttempts + 1 := rfl
  simp only [processFailedPayment,found,counter,FailedPayment.rows]
  by_cases debounce : debounced sub s.clock = true
  · simp [debounce]
  · by_cases spent : dunningMaxAttempts ≤ sub.dunningAttempts + 1
    · have left : ¬sub.dunningAttempts + 1 < dunningMaxAttempts := by omega
      simp only [debounce,spent,left,Bool.false_eq_true,and_false,if_false,if_true,false_and,
        or_false,iff_false]
      exact facts_ne_of_failed found rfl
    · have left : sub.dunningAttempts + 1 < dunningMaxAttempts := by omega
      cases enqueues with
      | false => simp [debounce,left,spent]
      | true =>
        simp only [debounce,spent,Bool.false_eq_true,and_false,if_false,if_true,Bool.true_eq_false,
          or_false,iff_false]
        have changed : (some ({ sub.fail s.clock with
            dunningNextRetryAt := some (dunningRetryAt (sub.dunningAttempts + 1) s.clock)
            : TenantSubscription }).facts,s.plan) ≠ s.facts := facts_ne_of_failed found rfl
        simpa [State.facts,scheduleRetry,counter] using changed

theorem rows_of_map {run : HandlerRun} {done : Except Raised (State × Effect)}
    (settled : run.settled rt .finishes = run.outcome) (uncommitted : run.committed = none)
    (outcome : run.outcome = done.map fun done => processed done.1 done.2) :
    run.rows rt s .finishes = rowsAfter s done := by
  rw [rows_of_outcome settled uncommitted,outcome]
  cases done <;> rfl

/-- A retry that is rolled back is lost like one that is not enqueued; a downgrade stays. -/
theorem rows_of_invoice {data : InvoiceFailed} {enqueues : Bool} (found : invoiceFinds s data = true)
    (body : replayed.body = .invoiceFailed data) (ending : Ending) :
    (processPaystackWebhook rt s replayed enqueues).rows rt s ending =
      (processFailedPayment rt s true
        (enqueues && (match ending with | .finishes => true | _ => false))).rows s := by
  have settled := processPaystackWebhook_settled rt s replayed enqueues
  have named : ¬((present data.subscriptionCode).isNone = true ∧
      (present data.customerCode).isNone = true) := by
    rintro ⟨noCode,noCustomer⟩
    simp only [invoiceFinds,Option.any_eq_true,Bool.or_eq_true] at found
    obtain ⟨sub,_,code | customer⟩ := found
    · rw [matches_present code] at noCode; contradiction
    · rw [matches_present customer] at noCustomer; contradiction
  have run : processPaystackWebhook rt s replayed enqueues =
      handleInvoiceFailed rt s data enqueues := by simp [processPaystackWebhook,body]
  rw [run] at settled ⊢
  simp only [handleInvoiceFailed,named,found,Bool.true_eq_false,if_false] at settled ⊢
  cases ending with
  | finishes =>
    rw [Bool.and_true]
    cases answer : processFailedPayment rt s true enqueues <;>
      simp_all [HandlerRun.rows,processed,FailedPayment.rows]
  | _ =>
    rw [Bool.and_false]
    simp only [HandlerRun.rows,HandlerRun.kept,processFailedPayment]
    cases s.subscription with
    | none => rfl
    | some sub =>
      dsimp only
      split_ifs
      all_goals first | rfl | contradiction

theorem rows_of_unfound {data : InvoiceFailed} {enqueues : Bool}
    (unfound : invoiceFinds s data = false) (body : replayed.body = .invoiceFailed data)
    (ending : Ending) :
    (processPaystackWebhook rt s replayed enqueues).rows rt s ending = s := by
  have settled := processPaystackWebhook_settled rt s replayed enqueues
  have run : processPaystackWebhook rt s replayed enqueues =
      handleInvoiceFailed rt s data enqueues := by simp [processPaystackWebhook,body]
  rw [run] at settled ⊢
  by_cases unnamed : (present data.subscriptionCode).isNone = true ∧
      (present data.customerCode).isNone = true
  · simp only [handleInvoiceFailed,unnamed,and_self,if_true] at settled ⊢
    rw [rows_of_outcome settled rfl]
    cases ending <;> rfl
  · simp only [handleInvoiceFailed,unnamed,unfound,if_false,if_true] at settled ⊢
    rw [rows_of_outcome settled rfl]
    cases ending <;> rfl

theorem executed_facts_iff (dated : ChargeDated s) (executes : event.executes s = some replayed) :
    (exec rt s event).1.facts = s.facts ↔ Protected rt s event replayed := by
  obtain ⟨key,answers,ending,action,same⟩ := exec_executes rt executes
  have settled := processPaystackWebhook_settled rt (s.tick event.wait) replayed answers.enqueues
  have unmoved : (s.tick event.wait).facts = s.facts := rfl
  rw [same.facts,← unmoved]
  cases body : replayed.body with
  | chargeSuccess data =>
    have uncommitted : (processPaystackWebhook rt (s.tick event.wait) replayed
        answers.enqueues).committed = none := by simp [processPaystackWebhook,body]
    cases ending with
    | finishes =>
      have rows : (processPaystackWebhook rt (s.tick event.wait) replayed answers.enqueues).rows rt
          (s.tick event.wait) .finishes = rowsAfter (s.tick event.wait)
            (handleChargeSuccess rt (s.tick event.wait) replayed.reference data) :=
        rows_of_map settled uncommitted (by simp [processPaystackWebhook,body])
      rw [rows,replayed_charge_facts (dated.tick event.wait)]
      simp only [Protected,body,Event.finishes,action,true_implies]
      rfl
    | _ => simp [rows_of_outcome settled uncommitted,Protected,body,Event.finishes,action]
  | subscriptionCreate data =>
    have uncommitted : (processPaystackWebhook rt (s.tick event.wait) replayed
        answers.enqueues).committed = none := by simp [processPaystackWebhook,body]
    cases ending with
    | finishes =>
      have rows : (processPaystackWebhook rt (s.tick event.wait) replayed answers.enqueues).rows rt
          (s.tick event.wait) .finishes = rowsAfter (s.tick event.wait)
            (handleSubscriptionCreate (s.tick event.wait) data) :=
        rows_of_map settled uncommitted (by simp [processPaystackWebhook,body])
      rw [rows,replayed_create_facts]
      simp [Protected,body,Event.finishes,action]
    | _ => simp [rows_of_outcome settled uncommitted,Protected,body,Event.finishes,action]
  | subscriptionDisable code =>
    have uncommitted : (processPaystackWebhook rt (s.tick event.wait) replayed
        answers.enqueues).committed = none := by simp [processPaystackWebhook,body]
    cases ending with
    | finishes =>
      have rows : (processPaystackWebhook rt (s.tick event.wait) replayed answers.enqueues).rows rt
          (s.tick event.wait) .finishes = rowsAfter (s.tick event.wait)
            (handleSubscriptionDisable (s.tick event.wait) code) :=
        rows_of_map settled uncommitted (by simp [processPaystackWebhook,body])
      rw [rows,replayed_disable_facts]
      simp [Protected,body,Event.finishes,action]
    | _ => simp [rows_of_outcome settled uncommitted,Protected,body,Event.finishes,action]
  | invoiceFailed data =>
    have lookup : invoiceFinds (s.tick event.wait) data = invoiceFinds s data := rfl
    cases finds : invoiceFinds s data with
    | false => simp [rows_of_unfound (lookup.trans finds) body,Protected,body,finds]
    | true =>
      obtain ⟨sub,found,_⟩ := (Option.any_eq_true _ _).mp finds
      rw [rows_of_invoice (lookup.trans finds) body ending,
        failed_payment_facts (s := s.tick event.wait) found]
      simp only [Protected,body,found,finds,Option.some.injEq,true_implies,forall_eq',
        Event.finishes,Event.enqueues,action]
      cases ending <;> simp
  | other eventType =>
    have uncommitted : (processPaystackWebhook rt (s.tick event.wait) replayed
        answers.enqueues).committed = none := by simp [processPaystackWebhook,body]
    have outcome : (processPaystackWebhook rt (s.tick event.wait) replayed
        answers.enqueues).outcome = .ok ⟨s.tick event.wait,{ status := "ignored" },.nothing⟩ := by
      simp [processPaystackWebhook,body]
    rw [rows_of_outcome settled uncommitted,outcome]
    cases ending <;> simp [Protected,body]

/-- In every run: no replay of a handled event changes a billing fact exactly when each replay
finds a row that protects itself. -/
theorem replays_change_nothing_iff (rt : Runtime) (plan : Enforcement.PricingTier) (clock : Int)
    (events : List Event) :
    EachStep (withHistory (exec rt) noteHandled) (ReplaysNothing rt)
        (State.initial plan clock,[]) events ↔
      EachStep (withHistory (exec rt) noteHandled) (ReplaysProtected rt)
        (State.initial plan clock,[]) events := by
  refine eachStep_iff_eachStep _ _ _ (fun s => ChargeDated s.1) ?_ ?_ _ events ?_
  · intro s event dated
    exact exec_dated rt s.1 event dated
  · intro s event dated
    constructor
    · intro unchanged replayed executes known
      exact (executed_facts_iff dated executes).mp (unchanged replayed executes known)
    · intro guarded replayed executes known
      exact (executed_facts_iff dated executes).mpr (guarded replayed executes known)
  · intro sub found
    contradiction

/-- A payment for the pro tier, one for the starter tier, and the first delivered once more after
its completed job has outlived the idempotency window. -/
def lateRedelivery : List Event :=
  deliver plainRuntime (paymentEvent .pro "ref-1") ++
    deliver plainRuntime (paymentEvent .starter "ref-2") ++
    ⟨(daysLong 4).toNat,.pass⟩ :: deliver plainRuntime (paymentEvent .pro "ref-1")

/-- The old payment reinstates the tier it once bought. -/
theorem late_redelivery_reinstates :
    ¬EachStep (withHistory (exec plainRuntime) noteHandled) (ReplaysNothing plainRuntime)
      (State.initial .free 0,[]) lateRedelivery := by
  intro each
  have unchanged := each.2.2.2.2.2.2.2.2.2.1 (paymentEvent .pro "ref-1") (by decide) (by decide)
  revert unchanged
  decide

end Valdrics.Billing

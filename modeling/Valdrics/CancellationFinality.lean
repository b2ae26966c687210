import Valdrics.RenewalCharges

/-! What the charge jobs still do to a cancelled subscription. The renewal job looks at the
status before it charges; the dunning retry does not. -/
namespace Valdrics.Billing

open PythonText

structure Cancellation where
  standing : Bool := false
  checkouts : List String := []

def Report.pays (report : Report) (checkouts : List String) : Bool :=
  (report.handled.bind WebhookEvent.payment).any (· ∈ checkouts)

/-- A cancellation stands until a subscription is created or a newer checkout is paid. -/
def Cancellation.note (history : Cancellation) (_ : State) (_ : Event)
    (result : State × Report) : Cancellation :=
  match result.2.effect with
  | .disabled | .cancelled | .downgraded => ⟨true,[]⟩
  | .activated => ⟨false,[]⟩
  | _ =>
    if result.2.pays history.checkouts then ⟨false,[]⟩
    else ⟨history.standing,history.checkouts ++ (result.2.checkout.map (·.reference)).toList⟩

/-- A retry takes the charge for made: it is authorized and priced, and the row records its
reference. -/
structure Resumes (rt : Runtime) (sub : TenantSubscription) (reference : Option String)
    (renewal : RenewalAnswers) : Prop where
  authorized : authorized sub renewal = true
  priced : ∃ terms, renewalTerms rt sub renewal = .ok terms
  recorded : sub.lastChargeReference = some (effectiveReference rt sub reference)

variable {rt : Runtime} {s t : State} {event : Event} {renewal : RenewalAnswers}
  {sub : TenantSubscription} {reference : Option String} {now : Int} {handled : Handled}

theorem failRetry_call (call : Option ChargeCall) (enqueues : Bool) :
    (failRetry rt s call enqueues).call = call := by
  simp only [failRetry]
  split <;> rfl

theorem finishDunning_call (renewed : Renewal) (enqueues : Bool) :
    (finishDunning rt s sub renewed enqueues).call = renewed.call := by
  simp only [finishDunning]
  split
  case h_4 | h_5 => exact failRetry_call ..
  all_goals rfl

theorem failRetry_effect {call : Option ChargeCall} {enqueues : Bool}
    (handles : (failRetry rt s call enqueues).outcome = .ok handled) :
    handled.effect = .nothing ∨ handled.effect = .failureCounted ∨ handled.effect = .downgraded := by
  simp only [failRetry] at handles
  split at handles
  case h_1 => contradiction
  all_goals
    cases handles
    simp

theorem finishDunning_effect {renewed : Renewal} {enqueues : Bool}
    (handles : (finishDunning rt s sub renewed enqueues).outcome = .ok handled) :
    (handled.effect = .nothing ∨ handled.effect = .failureCounted ∨ handled.effect = .downgraded) ∨
    (∃ row, renewed.result = .ok (.charged row)) ∨
    (renewed.result = .ok .alreadyCharged ∧ handled.state = handleRetrySuccess s sub) := by
  simp only [finishDunning] at handles
  split at handles
  case h_1 => contradiction
  case h_2 row charged => exact .inr (.inl ⟨row,charged⟩)
  case h_3 already =>
    cases handles
    exact .inr (.inr ⟨already,rfl⟩)
  all_goals exact .inl (failRetry_effect handles)

/-- A step with no effect, a cancellation and a counted failure neither activate the row nor
raise the plan. -/
theorem Change.stays {effect : Effect} {next : State} (change : Change rt s effect next)
    (which : effect = .nothing ∨ effect = .failureCounted ∨ effect = .downgraded) :
    (next.subscription.any (·.status = .active) = true →
      s.subscription.any (·.status = .active) = true) ∧ tierRank next.plan ≤ tierRank s.plan := by
  cases change with
  | nothing => exact ⟨id,le_rfl⟩
  | failureCounted => simp [scheduleRetry,TenantSubscription.fail]
  | downgraded => simp [handleFinalFailure,tierRank]
  | cancelled found effect cancels => simp
  | _ => simp at which

section Executions

variable {key : JobKey} {answers : JobAnswers} {ending : Ending} {job : BillingJob}
  {chargeReference : String} {attempt : Nat}

end Executions

end Valdrics.Billing

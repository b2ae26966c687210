import Valdrics.EnforcementModels
import Valdrics.LlmPricing

/-! The budget row of a tenant's language model requests: what the reservation and the
recording of a request make of it under its row lock. -/
namespace Valdrics.Llm

open Enforcement (PricingTier)

structure LlmBudget where
  monthlyLimitUsd : Int
  monthlySpendUsd : Int := 0
  pendingReservationsUsd : Int := 0
  budgetResetAt : Nat
  deriving DecidableEq

structure LlmRequest where
  provider : String
  model : String
  promptTokens : Nat
  completionTokens : Nat

def LlmPricing.estimate (pricing : LlmPricing) (request : LlmRequest) : Int :=
  pricing.estimateCost request.promptTokens request.completionTokens request.model request.provider

/-- A call of `check_and_reserve` that has passed the quota gates; `transactionStart` is the
database's `now()`. -/
structure ReserveCall where
  request : LlmRequest
  tier : PricingTier
  now : Nat
  transactionStart : Nat

/-- A call of `record_usage`. -/
structure UsageCall where
  request : LlmRequest
  actualCostUsd : Option Nat := none
  isByok : Bool := false

def byokPlatformFeeUsd : Int := 0

namespace UsageCall

def actualCost (call : UsageCall) (pricing : LlmPricing) : Int :=
  if call.isByok then byokPlatformFeeUsd
  else match call.actualCostUsd with
    | some cost => cost
    | none => pricing.estimate call.request

end UsageCall

def defaultLimit : PricingTier → Int
  | .starter | .growth => 10 * 10 ^ 8
  | .pro | .enterprise => 50 * 10 ^ 8
  | .free => 10 ^ 8

namespace LlmBudget

def bootstrap (tier : PricingTier) (transactionStart : Nat) : LlmBudget where
  monthlyLimitUsd := defaultLimit tier
  budgetResetAt := transactionStart

def stale (budget : LlmBudget) (now : Nat) : Bool :=
  Calendar.monthOf budget.budgetResetAt ≠ Calendar.monthOf now

def resetMonth (budget : LlmBudget) (now : Nat) : LlmBudget :=
  if budget.stale now then
    { budget with monthlySpendUsd := 0, pendingReservationsUsd := 0, budgetResetAt := now }
  else budget

def remaining (budget : LlmBudget) : Int :=
  budget.monthlyLimitUsd - (budget.monthlySpendUsd + budget.pendingReservationsUsd)

/-- `record_usage` on the row. -/
def settle (budget : LlmBudget) (pricing : LlmPricing) (call : UsageCall) : LlmBudget :=
  { budget with
    pendingReservationsUsd :=
      max 0 (budget.pendingReservationsUsd - pricing.estimate call.request)
    monthlySpendUsd := budget.monthlySpendUsd + call.actualCost pricing }

end LlmBudget

def openedBudget (row : Option LlmBudget) (call : ReserveCall) : LlmBudget :=
  (row.getD (.bootstrap call.tier call.transactionStart)).resetMonth call.now

/-- `check_and_reserve` from its locked read on: the row as it leaves it, and the amount
reserved unless the budget is exceeded. -/
def checkAndReserve (pricing : LlmPricing) (row : Option LlmBudget) (call : ReserveCall) :
    LlmBudget × Option Int :=
  let budget := openedBudget row call
  let estimatedCost := pricing.estimate call.request
  if budget.remaining < estimatedCost then (budget,none)
  else
    ({ budget with
      pendingReservationsUsd := budget.pendingReservationsUsd + estimatedCost },
      some estimatedCost)

theorem LlmPricing.estimate_nonneg {pricing : LlmPricing} {request : LlmRequest} :
    0 ≤ pricing.estimate request := LlmPricing.estimateCost_nonneg

variable {pricing : LlmPricing} {row : Option LlmBudget} {call : ReserveCall} {budget : LlmBudget}
  {amount : Int}

theorem checkAndReserve_reserved (reserved : checkAndReserve pricing row call = (budget,some amount)) :
    amount = pricing.estimate call.request ∧ amount ≤ (openedBudget row call).remaining ∧
      budget = { openedBudget row call with
        pendingReservationsUsd := (openedBudget row call).pendingReservationsUsd + amount } := by
  simp only [checkAndReserve] at reserved
  split at reserved
  · simp at reserved
  · next fits =>
    obtain ⟨rfl,same⟩ := Prod.mk.inj reserved
    obtain rfl := Option.some.inj same
    exact ⟨rfl,Int.not_lt.mp fits,rfl⟩

theorem checkAndReserve_refused (refused : checkAndReserve pricing row call = (budget,none)) :
    budget = openedBudget row call := by
  simp only [checkAndReserve] at refused
  split at refused
  · exact (Prod.mk.inj refused).1.symm
  · simp at refused

namespace LlmBudget

theorem resetMonth_fresh {now : Nat} (fresh : budget.stale now = false) :
    budget.resetMonth now = budget := by
  simp [resetMonth,fresh]

theorem resetMonth_month {now : Nat} :
    Calendar.monthOf (budget.resetMonth now).budgetResetAt = Calendar.monthOf now := by
  by_cases stale : budget.stale now = true
  · simp [resetMonth,stale]
  · rw [resetMonth_fresh (Bool.eq_false_iff.mpr stale)]
    simpa [LlmBudget.stale] using stale

theorem resetMonth_pending {now : Nat} :
    (budget.resetMonth now).pendingReservationsUsd =
      if budget.stale now then 0 else budget.pendingReservationsUsd := by
  unfold resetMonth
  split <;> rfl

end LlmBudget

end Valdrics.Llm

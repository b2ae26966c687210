import Valdrics.BillingCharges
import Valdrics.DateOrder

/-! The public price list, from the active rows of the plan table and the built-in catalogue, and the
prices that are charged, from any row of the table and the catalogue. -/
namespace Valdrics.Billing

open Enforcement (PricingTier)
open PythonText
open Jobs (Raised)

structure PublicPlan where
  id : String
  name : String
  priceMonthly : Int
  priceAnnual : Int
  popular : Bool
  deriving DecidableEq

def PublicPlan.price (plan : PublicPlan) : BillingCycle → Int
  | .monthly => plan.priceMonthly
  | .annual => plan.priceAnnual

variable (text : Lowercase)

def knownId (id : String) : String := text.lower (strip id)

def planOrder (plan : PublicPlan) : Nat :=
  if knownId text plan.id = "free" then 0
  else if knownId text plan.id = "starter" then 1
  else if knownId text plan.id = "growth" then 2
  else if knownId text plan.id = "pro" then 3
  else 99

def PublicPlan.le (a b : PublicPlan) : Bool :=
  if planOrder text a = planOrder text b then
    !before (text.lower (strip b.name)).toList (text.lower (strip a.name)).toList
  else planOrder text a < planOrder text b

section Prices

variable {text} {table : Table String PricingPlan} {tier : PricingTier}

end Prices

end Valdrics.Billing

import Valdrics.Decimal
import Valdrics.PythonText

/-! The pricing table of the language models and the estimate of a request. Token counts
are those an integer column holds, so the products are exact in the context's 28 digits. -/
namespace Valdrics.Llm

open PythonText

structure ProviderCost where
  input : Decimal
  output : Decimal
  input_nonneg : 0 ≤ input.coefficient
  output_nonneg : 0 ≤ output.coefficient

/-- The last resort of the estimate: ten dollars per million. -/
def globalFallback : ProviderCost := ⟨⟨100,-1⟩,⟨100,-1⟩,by decide,by decide⟩

/-- `LLM_PRICING` by provider and model. -/
structure LlmPricing where
  text : Lowercase
  table : String → String → Option ProviderCost

namespace LlmPricing

variable (pricing : LlmPricing)

def normalizeKey (value : String) : String := pricing.text.lower (strip value)

def getProviderPricing (provider : String) : String → Option ProviderCost :=
  pricing.table (pricing.normalizeKey provider)

def costOf (model provider : String) : ProviderCost :=
  let providerData := pricing.getProviderPricing provider
  ((providerData model).or (providerData "default")).getD globalFallback

def exactCost (cost : ProviderCost) (promptTokens completionTokens : Nat) : Decimal :=
  let inputCost : Decimal := ⟨promptTokens * cost.input.coefficient,cost.input.exponent - 6⟩
  let outputCost : Decimal :=
    ⟨completionTokens * cost.output.coefficient,cost.output.exponent - 6⟩
  inputCost.plus outputCost

/-- Amounts of the budget are in units of its columns' last place, 1e-8 dollars; an
estimate has four places. -/
def estimateCost (promptTokens completionTokens : Nat) (model provider : String) : Int :=
  (exactCost (pricing.costOf model provider) promptTokens completionTokens).scaled 4 * 10 ^ 4

variable {pricing : LlmPricing} {promptTokens completionTokens : Nat} {model provider : String}

theorem estimateCost_nonneg :
    0 ≤ pricing.estimateCost promptTokens completionTokens model provider := by
  unfold estimateCost exactCost
  have input := (pricing.costOf model provider).input_nonneg
  have output := (pricing.costOf model provider).output_nonneg
  apply mul_nonneg _ (by decide)
  apply Decimal.scaled_nonneg
  simp only [Decimal.plus]
  positivity

theorem estimateCost_mono {fewerPrompt fewerCompletion : Nat} (prompt : fewerPrompt ≤ promptTokens)
    (completion : fewerCompletion ≤ completionTokens) :
    pricing.estimateCost fewerPrompt fewerCompletion model provider ≤
      pricing.estimateCost promptTokens completionTokens model provider := by
  unfold estimateCost exactCost
  have input : fewerPrompt * (pricing.costOf model provider).input.coefficient ≤
      promptTokens * (pricing.costOf model provider).input.coefficient :=
    mul_le_mul_of_nonneg_right (by omega) (pricing.costOf model provider).input_nonneg
  have output : fewerCompletion * (pricing.costOf model provider).output.coefficient ≤
      completionTokens * (pricing.costOf model provider).output.coefficient :=
    mul_le_mul_of_nonneg_right (by omega) (pricing.costOf model provider).output_nonneg
  apply mul_le_mul_of_nonneg_right _ (by decide)
  apply Decimal.scaled_mono
  exact add_le_add (mul_le_mul_of_nonneg_right input (by positivity))
    (mul_le_mul_of_nonneg_right output (by positivity))

end LlmPricing

end Valdrics.Llm

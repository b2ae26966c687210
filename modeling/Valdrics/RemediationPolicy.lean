import Valdrics.RemediationSafety

/-! The policy engine an execution asks before it acts: block rules, the GPU escalation and
the confidence warning, in that order of precedence. Evidence is for the audit trail only
and is left out. -/
namespace Valdrics.Optimization

open Enforcement (Uuid Json JsonObject)
open PythonText

structure PolicyConfig where
  enabled : Bool := true
  blockProductionDestructive : Bool := true
  requireGpuOverride : Bool := true
  lowConfidenceWarnThreshold : Decimal := ⟨90,-2⟩

/-- `isWord` is the class `\w` of the regular expressions of a Unicode version. -/
structure RemediationPolicyEngine where
  text : Lowercase
  isWord : Char → Bool
  ascii : ∀ c : Char, c.toNat < 128 →
    isWord c = (c.isAlphanum || c = '_')

def holds (text part : String) : Bool := decide (part.toList <:+: text.toList)

/-- `\bword\b` for a word of word characters; `boundary` is whether the text so far ends
in none. -/
def hasWord (isWord : Char → Bool) (word : List Char) : Bool → List Char → Bool
  | _, [] => false
  | boundary, c :: cs =>
    (boundary && word.isPrefixOf (c :: cs) && !((c :: cs).drop word.length).head?.any isWord) ||
      hasWord isWord word (!isWord c) cs

example : hasWord Char.isAlphanum "gpu".toList true "a-gpu-node".toList = true := by decide
example : hasWord Char.isAlphanum "gpu".toList true "agpu gpus".toList = false := by decide

namespace RemediationPolicyEngine

def productionMarkers : List String := ["prod","production","critical","pci","hipaa"]

def destructiveActions : List RemediationAction :=
  [.deleteVolume,.deleteSnapshot,.deleteS3Bucket,.deleteEcrImage,.deleteSagemakerEndpoint,
    .deleteRedshiftCluster,.deleteRdsInstance,.deleteNatGateway,.deleteLoadBalancer,
    .terminateInstance]

def gpuApprovalActions : List RemediationAction :=
  [.stopInstance,.terminateInstance,.resizeInstance,.deleteSagemakerEndpoint]

def gpuOverrideMarkers : List String := ["gpu-approved","gpu_override","approved_gpu"]

variable (engine : RemediationPolicyEngine)

def resourceText (request : RemediationRequest) : String :=
  engine.text.lower (request.target.resourceId ++ " " ++ request.target.resourceType ++ " " ++
    request.explainabilityNotes.getD "")

def isDestructive (request : RemediationRequest) : Bool :=
  request.target.action ∈ destructiveActions

def trustedPolicyContext (request : RemediationRequest) : JsonObject :=
  match (request.actionParameters.getD []).lookup systemPolicyContextKey with
  | some (.obj context) => context
  | _ => []

/-- `_coerce_bool`. -/
def coerceBool : Option Json → Option Bool
  | some (.bool value) => some value
  | some (.int value) => if value = 1 then some true else if value = 0 then some false else none
  | some (.float value) =>
    if value.value = 1 then some true else if value.value = 0 then some false else none
  | some (.str value) =>
    let normalized := engine.text.lower (strip value)
    if normalized ∈ ["1","true","yes","y","on"] then some true
    else if normalized ∈ ["0","false","no","n","off"] then some false
    else none
  | _ => none

def productionSignalFromContext (request : RemediationRequest) : Option Bool :=
  let context := trustedPolicyContext request
  match engine.coerceBool (context.lookup "is_production") with
  | some signal => some signal
  | none =>
    match context.lookup "environment" with
    | some (.str environment) =>
      let normalized := engine.text.lower (strip environment)
      if normalized ∈ ["prod","production","live"] then some true
      else if normalized ∈ ["dev","development","staging","stage","test"] then some false
      else none
    | _ => none

def looksLikeProduction (request : RemediationRequest) : Bool :=
  match engine.productionSignalFromContext request with
  | some signal => signal
  | none => productionMarkers.any fun marker => holds (engine.resourceText request) marker

def isGpuSensitive (request : RemediationRequest) : Bool :=
  decide (request.target.action ∈ gpuApprovalActions) &&
    hasWord engine.isWord "gpu".toList true (engine.resourceText request).toList

def hasGpuOverride (reviewNotes : Option String) : Bool :=
  gpuOverrideMarkers.any fun marker => holds (engine.text.lower (reviewNotes.getD "")) marker

/-- `evaluate`, with the summary of its first rule hit. -/
def evaluate (request : RemediationRequest) (config : PolicyConfig) : PolicyEvaluation :=
  if config.enabled = false then ⟨.allow,"No policy rules triggered."⟩
  else if config.blockProductionDestructive = true ∧ isDestructive request = true ∧
      engine.looksLikeProduction request = true then
    ⟨.block,"Destructive remediation blocked for production-like resource identifiers."⟩
  else if config.requireGpuOverride = true ∧ engine.isGpuSensitive request = true ∧
      engine.hasGpuOverride request.reviewNotes = false then
    ⟨.escalate,"GPU-related remediation requires explicit GPU approval override."⟩
  else if request.confidenceScore.any (fun confidence =>
      (confidence : ℚ) / 100 < config.lowConfidenceWarnThreshold.value) = true then
    ⟨.warn,"Low-confidence remediation execution; review recommended."⟩
  else ⟨.allow,"No policy rules triggered."⟩

variable {engine}

theorem evaluate_passed {request : RemediationRequest} {config : PolicyConfig}
    (enabled : config.enabled = true) (required : config.requireGpuOverride = true)
    (passed : (engine.evaluate request config).decision = .allow ∨
      (engine.evaluate request config).decision = .warn)
    (sensitive : engine.isGpuSensitive request = true) :
    engine.hasGpuOverride request.reviewNotes = true := by
  by_contra unmarked
  have none_ : engine.hasGpuOverride request.reviewNotes = false := by simpa using unmarked
  by_cases blocked : config.blockProductionDestructive = true ∧ isDestructive request = true ∧
      engine.looksLikeProduction request = true
  · simp [evaluate,enabled,blocked] at passed
  · rw [evaluate, if_neg (by simp [enabled]), if_neg blocked,
      if_pos ⟨required,sensitive,none_⟩] at passed
    simp at passed

/-- The classification reads columns that no call rewrites. -/
theorem isGpuSensitive_congr {a b : RemediationRequest} (same : a.fixed = b.fixed) :
    engine.isGpuSensitive a = engine.isGpuSensitive b := by
  have target : a.target = b.target := congrArg FixedColumns.target same
  have notes : a.explainabilityNotes = b.explainabilityNotes :=
    congrArg FixedColumns.explainabilityNotes same
  simp [isGpuSensitive,resourceText,target,notes]

end RemediationPolicyEngine

end Valdrics.Optimization

import Valdrics.EnforcementModels

/-! What the enforcement service is built with, the normalisations it applies to
text, and the two reads every gate begins with: the mode of the policy and the
ceilings. The service is a parameter of every operation. -/
namespace Valdrics.Enforcement

open PythonText

/-- The `Except` steps of an operation that returned. -/
theorem bind_eq_ok {x : Except φ α} {f : α → Except φ β} {b : β} :
    (x >>= f) = .ok b ↔ ∃ a, x = .ok a ∧ f a = .ok b := by
  cases x with
  | error fault => simp [bind,Except.bind]
  | ok a => simp [bind,Except.bind]

/-- `if bad: raise fault`. -/
def refuse (bad : Prop) [Decidable bad] (fault : Fault) : Except Fault Unit :=
  if bad then .error fault else .ok ()

@[simp] theorem refuse_eq_ok {bad : Prop} [Decidable bad] {fault : Fault} {u : Unit} :
    refuse bad fault = .ok u ↔ ¬ bad := by
  unfold refuse
  split <;> simp_all

def require (value : Option α) (fault : Fault) : Except Fault α :=
  match value with
  | some a => .ok a
  | none => .error fault

@[simp] theorem require_eq_ok {value : Option α} {fault : Fault} {a : α} :
    require value fault = .ok a ↔ value = some a := by
  cases value <;> simp [require]

theorem transaction_cases {store next : Store} {body : Except Fault (Store × α)}
    {outcome : Except Fault α} (done : transaction store body = (next,outcome)) :
    (next = store ∧ ∃ fault, body = .error fault ∧ outcome = .error fault) ∨
    (∃ value, body = .ok (next,value) ∧ outcome = .ok value) := by
  cases body with
  | error fault =>
    obtain ⟨rfl,rfl⟩ := Prod.mk.inj done
    exact Or.inl ⟨rfl,fault,rfl,rfl⟩
  | ok result =>
    obtain ⟨rfl,rfl⟩ := Prod.mk.inj done
    exact Or.inr ⟨result.2,rfl,rfl⟩

/-- The mapping whose canonical JSON `_stable_fingerprint` hashes. -/
structure CanonicalRequest where
  source : String
  projectId : String
  environment : String
  action : String
  resourceReference : String
  estimatedMonthlyDeltaUsd : String
  estimatedHourlyDeltaUsd : String
  metadata : List (String × Json)

inductive JwtError where
  | expiredSignature | invalidToken
  deriving DecidableEq, Repr

/-- The signing library, with HS256 and the audience `enforcement_gate` fixed. `decode`
takes the token, a secret, the issuer and the clock. -/
structure Jwt where
  encode : List (String × Json) → String → Option String → String
  decode : String → String → String → Nat → Except JwtError (List (String × Json))

structure Settings where
  enforcementApprovalTokenSecret : String
  enforcementApprovalTokenFallbackSecrets : List String
  apiUrl : String
  jwtSigningKid : String

/-- The digests are SHA-256 of the canonical JSON of their argument, `jsonText` is `str`
of a value that is neither text nor whole, and `userHasApprovalPermission` asks the
identity tables. -/
structure Service where
  text : Lowercase
  jsonText : Json → String
  stableDigest : CanonicalRequest → String
  requestDigest : RequestPayload → String
  responseDigest : ResponsePayload → String
  sha256 : String → String
  getTierLimit : PricingTier → String → Option Int
  userHasApprovalPermission : CurrentUser → String → Bool
  jwt : Jwt
  settings : Settings

namespace Service

variable (service : Service)

def str : Json → String
  | .str value => value
  | .int value => toString value
  | value => service.jsonText value

/-- `str(value or "")`. -/
def strOrEmpty : Json → String
  | .null | .bool false | .int 0 | .float ⟨0,_⟩ | .arr [] | .obj [] => ""
  | value => service.str value

def normalizeEnvironment (value : String) : String :=
  let env := service.text.lower (strip value)
  if env = "prod" ∨ env = "production" ∨ env = "live" then "prod"
  else if env = "nonprod" ∨ env = "non-prod" ∨ env = "dev" ∨ env = "test" ∨ env = "stage" ∨
      env = "staging" then "nonprod"
  else orDefault env "nonprod"

def isProductionEnvironment (value : String) : Bool :=
  service.normalizeEnvironment value = "prod"

/-- `str(scope_key or "default").strip().lower() or "default"`. -/
def normalizeScope (scopeKey : String) : String :=
  orDefault (service.text.lower (strip (orDefault scopeKey "default"))) "default"

def keepFirst (keys : List String) : List String :=
  keys.foldl (fun ordered key =>
    if key = "" ∨ key ∈ ordered then ordered else ordered ++ [key]) []

def uniqueReasonCodes (values : List String) : List String :=
  keepFirst (values.map fun value => service.text.lower (strip value))

def normalizeStringList (normalizer : String → String) (values : List String) : List String :=
  ((values.map strip).filter (· ≠ "")).foldl (fun normalized value =>
    if normalizer value ∈ normalized then normalized else normalized ++ [normalizer value]) []

def normalizeRoleValue (value : String) : String := service.text.lower (strip value)

def supportedReviewerRoles : List String := ["owner","admin","member"]
def defaultAllowedReviewerRoles : List String := ["owner","admin"]

def normalizeAllowedReviewerRoles (values : List String) : List String :=
  let roles := keepFirst
    ((values.map service.normalizeRoleValue).filter (· ∈ supportedReviewerRoles))
  if roles = [] then defaultAllowedReviewerRoles else roles

def approvalPermissionNonprod : String := "remediation.approve.nonprod"
def approvalPermissionProd : String := "remediation.approve.prod"

def normalizeApprovalPermission (value : String) : Option String :=
  let normalized := service.text.lower (strip value)
  if normalized = approvalPermissionNonprod ∨ normalized = approvalPermissionProd then
    some normalized
  else none

def defaultRequiredPermissionForEnvironment (environment : String) : String :=
  if service.isProductionEnvironment environment then approvalPermissionProd
  else approvalPermissionNonprod

def policyDocumentSchemaVersionDefault : String := "valdrics.enforcement.policy.v1"
def policyDocumentSha256Empty : String := String.ofList (List.replicate 64 '0')

def normalizePolicyDocumentSchemaVersion (value : String) : String :=
  let normalized := strip value
  if normalized = "" then policyDocumentSchemaVersionDefault else slice normalized 64

def isHexDigit (c : Char) : Bool :=
  (48 ≤ c.toNat && c.toNat ≤ 57) || (97 ≤ c.toNat && c.toNat ≤ 102)

def normalizePolicyDocumentSha256 (value : String) : String :=
  let normalized := service.text.lower (strip value)
  if normalized.toList.length ≠ 64 then policyDocumentSha256Empty
  else if normalized.toList.all isHexDigit then normalized else policyDocumentSha256Empty

/-- `str` of a quantized value; `none` is a `NaN`. -/
def quantizedText (value : Option Int) (places : Nat) : String :=
  match value with
  | some units => (Decimal.ofUnits units places).text
  | none => "NaN"

/-- A value too large for the decimal context raises before anything is read. -/
def stableFingerprint (source : Source) (input : GateInput) : Except Fault String := do
  let monthly ← require (input.estimatedMonthlyDeltaUsd.quantize 4) .invalidOperation
  let hourly ← require (input.estimatedHourlyDeltaUsd.quantize 6) .invalidOperation
  return service.stableDigest
    { source := source.value
      projectId := input.projectId
      environment := service.normalizeEnvironment input.environment
      action := input.action
      resourceReference := input.resourceReference
      estimatedMonthlyDeltaUsd := quantizedText monthly 4
      estimatedHourlyDeltaUsd := quantizedText hourly 6
      metadata := input.metadata }

def resolvePolicyMode (policy : Policy) (source : Source) (environment : String) :
    Mode × String :=
  let normalizedEnv := service.normalizeEnvironment environment
  match source with
  | .terraform =>
    if normalizedEnv = "prod" then (policy.terraformModeProd,"terraform:prod")
    else if normalizedEnv = "nonprod" then (policy.terraformModeNonprod,"terraform:nonprod")
    else (policy.terraformMode,"terraform:default")
  | .k8sAdmission =>
    if normalizedEnv = "prod" then (policy.k8sAdmissionModeProd,"k8s_admission:prod")
    else if normalizedEnv = "nonprod" then
      (policy.k8sAdmissionModeNonprod,"k8s_admission:nonprod")
    else (policy.k8sAdmissionMode,"k8s_admission:default")
  | .cloudEvent => (policy.k8sAdmissionMode,"fallback:k8s_admission_default")

/-- `max(60, min(int(policy.default_ttl_seconds), 86400))`. -/
def ttlSeconds (policy : Policy) : Nat := (max 60 (min policy.defaultTtlSeconds 86400)).toNat

def resolveCeiling (configured : Option Int) (tenantTier : PricingTier) (limitName : String) :
    Option Int :=
  match configured with
  | some ceiling => if 0 < ceiling then some ceiling else none
  | none =>
    match service.getTierLimit tenantTier limitName with
    | none => none
    | some ceiling => if ceiling ≤ 0 then none else some ceiling

def resolvePlanMonthlyCeilingUsd (policy : Policy) (tenantTier : PricingTier) : Option Int :=
  service.resolveCeiling policy.planMonthlyCeilingUsd tenantTier
    "enforcement_plan_monthly_ceiling_usd"

def resolveEnterpriseMonthlyCeilingUsd (policy : Policy) (tenantTier : PricingTier) :
    Option Int :=
  service.resolveCeiling policy.enterpriseMonthlyCeilingUsd tenantTier
    "enforcement_enterprise_monthly_ceiling_usd"

def ledgerEntry (decisionId : Uuid) (decision : Decision)
    (approval : Option (Uuid × ApprovalRequest)) : DecisionLedger where
  decisionId := decisionId
  source := decision.source
  environment := decision.environment
  projectId := decision.projectId
  action := decision.action
  resourceReference := decision.resourceReference
  decision := decision.decision
  reasonCodes := decision.reasonCodes
  policyVersion := decision.policyVersion
  policyDocumentSchemaVersion :=
    normalizePolicyDocumentSchemaVersion decision.policyDocumentSchemaVersion
  policyDocumentSha256 := service.normalizePolicyDocumentSha256 decision.policyDocumentSha256
  requestFingerprint := decision.requestFingerprint
  idempotencyKey := decision.idempotencyKey
  estimatedMonthlyDeltaUsd := decision.estimatedMonthlyDeltaUsd
  estimatedHourlyDeltaUsd := decision.estimatedHourlyDeltaUsd
  burnRateDailyUsd := decision.burnRateDailyUsd
  forecastEomUsd := decision.forecastEomUsd
  riskClass := service.text.lower (strip decision.riskClass)
  riskScore := decision.riskScore
  anomalySignal := decision.anomalySignal
  reservedTotalUsd := decision.reservedAllocationUsd + decision.reservedCreditUsd
  approvalRequired := decision.approvalRequired
  approvalRequestId := approval.map Prod.fst
  approvalStatus := approval.map fun entry => entry.2.status
  requestPayloadSha256 := service.requestDigest decision.requestPayload
  responsePayloadSha256 := service.responseDigest decision.responsePayload
  createdByUserId := decision.createdByUserId
  decisionCreatedAt := decision.createdAt

/-- Reads the rows as the transaction has them, so it is called after their last change. -/
def appendDecisionLedgerEntry (store : Store) (decisionId : Uuid) (approvalId : Option Uuid) :
    Store :=
  match store.decisions.find decisionId with
  | none => store
  | some decision =>
    let approval := approvalId.bind fun id => (store.approvals.find id).map fun row => (id,row)
    { store with ledger := store.ledger ++ [service.ledgerEntry decisionId decision approval] }

end Service

namespace Sample

/-- Sixty-four hexadecimal digits that tell short texts apart. -/
def digest (s : String) : String :=
  String.ofList (Hex.fixed 64 (s.toList.foldl (fun sofar c => 256 * sofar + c.toNat) 1))

def permission (user : CurrentUser) (permission : String) : Bool :=
  user.role = "owner" || (user.role = "admin" && permission = Service.approvalPermissionNonprod)

/-- A service whose text is ASCII and whose tiers set no limits, for runs on given
inputs. Its signing library signs nothing. -/
def service : Service where
  text := .asciiOnly
  jsonText := fun _ => ""
  stableDigest := fun request => digest (request.estimatedMonthlyDeltaUsd ++ request.projectId)
  requestDigest := fun payload => digest payload.projectId
  responseDigest := fun payload => digest payload.modeScope
  sha256 := digest
  getTierLimit := fun _ _ => some 0
  userHasApprovalPermission := permission
  jwt := ⟨fun _ _ _ => "",fun _ _ _ _ => .error .invalidToken⟩
  settings :=
    { enforcementApprovalTokenSecret := ""
      enforcementApprovalTokenFallbackSecrets := []
      apiUrl := ""
      jwtSigningKid := "" }

end Sample

theorem appendDecisionLedgerEntry_eq (service : Service) (store : Store) (decisionId : Uuid)
    (approvalId : Option Uuid) :
    ∃ ledger, service.appendDecisionLedgerEntry store decisionId approvalId =
      { store with ledger } := by
  unfold Service.appendDecisionLedgerEntry
  split
  · exact ⟨store.ledger,rfl⟩
  · exact ⟨_,rfl⟩

section Normalisation

variable (service : Service)

theorem mem_keepFirst {key : String} (keys : List String) :
    key ∈ Service.keepFirst keys ↔ key ∈ keys ∧ key ≠ "" := by
  have loop (ordered : List String) :
      key ∈ keys.foldl (fun ordered key =>
          if key = "" ∨ key ∈ ordered then ordered else ordered ++ [key]) ordered ↔
        key ∈ ordered ∨ key ∈ keys ∧ key ≠ "" := by
    induction keys generalizing ordered with
    | nil => simp
    | cons first keys ih =>
      rw [List.foldl_cons, ih]
      by_cases skipped : first = "" ∨ first ∈ ordered
      · rw [if_pos skipped]
        constructor
        · rintro (before | ⟨later,named⟩)
          · exact Or.inl before
          · exact Or.inr ⟨List.mem_cons_of_mem _ later,named⟩
        · rintro (before | ⟨member,named⟩)
          · exact Or.inl before
          · rcases List.mem_cons.mp member with rfl | later
            · exact Or.inl (skipped.resolve_left named)
            · exact Or.inr ⟨later,named⟩
      · rw [if_neg skipped]
        simp only [List.mem_append,List.mem_cons,List.not_mem_nil,or_false]
        constructor
        · rintro ((before | rfl) | ⟨later,named⟩)
          · exact Or.inl before
          · exact Or.inr ⟨Or.inl rfl,fun empty => skipped (Or.inl empty)⟩
          · exact Or.inr ⟨Or.inr later,named⟩
        · rintro (before | ⟨rfl | later,named⟩)
          · exact Or.inl (Or.inl before)
          · exact Or.inl (Or.inr rfl)
          · exact Or.inr ⟨later,named⟩
  simpa [Service.keepFirst] using loop []

theorem mem_uniqueReasonCodes {code : String} (values : List String) :
    code ∈ service.uniqueReasonCodes values ↔
      (∃ value ∈ values, service.text.lower (strip value) = code) ∧ code ≠ "" := by
  rw [Service.uniqueReasonCodes, mem_keepFirst, List.mem_map]

theorem normalizeEnvironment_spec (value : String) :
    service.normalizeEnvironment value = "prod" ∨ service.normalizeEnvironment value = "nonprod" ∨
      service.normalizeEnvironment value = service.text.lower (strip value) := by
  unfold Service.normalizeEnvironment orDefault
  dsimp only
  split
  · exact Or.inl rfl
  · split
    · exact Or.inr (Or.inl rfl)
    · split
      · exact Or.inr (Or.inl rfl)
      · exact Or.inr (Or.inr rfl)

theorem normalizeEnvironment_idem (value : String) :
    service.normalizeEnvironment (service.normalizeEnvironment value) =
      service.normalizeEnvironment value := by
  have ascii (s : String) (isAscii : IsAscii s) : service.text.lower s = lowerAscii s :=
    service.text.ascii s isAscii
  rcases normalizeEnvironment_spec service value with prod | nonprod | lowered
  · rw [prod]
    have same : service.text.lower (strip "prod") = "prod" := by
      rw [ascii _ (by decide)]; decide
    simp [Service.normalizeEnvironment,same]
  · rw [nonprod]
    have same : service.text.lower (strip "nonprod") = "nonprod" := by
      rw [ascii _ (by decide)]; decide
    simp [Service.normalizeEnvironment,same]
  · have fixed : service.text.lower (strip (service.normalizeEnvironment value)) =
        service.text.lower (strip value) := by
      rw [lowered, service.text.keepsStripped, service.text.idempotent]
    conv_lhs => rw [Service.normalizeEnvironment]
    simp only [fixed]
    rfl

end Normalisation

end Valdrics.Enforcement

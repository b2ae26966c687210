import Valdrics.EnforcementService

/-! The approval token: the claims signed for an approved decision, their decoding under
the primary and the fallback secrets, and the context extracted from the payload. -/
namespace Valdrics.Enforcement

open PythonText

namespace ApprovalToken

def tokenType : String := "enforcement_approval"
def subjectPrefix : String := "enforcement_approval:"

def unixEpochSeconds : Nat := 62135596800

/-- `int(instant.timestamp())`. -/
def timestamp (instant : Nat) : Int :=
  (instant / Calendar.microsPerSecond : Nat) - (unixEpochSeconds : Int)

/-- `datetime.fromtimestamp`, within the years 1 to 9999. -/
def fromTimestamp (seconds : Int) : Option Nat :=
  let shifted := seconds + unixEpochSeconds
  if 0 ≤ shifted ∧ seconds < 253402300800 then
    some (shifted.toNat * Calendar.microsPerSecond)
  else none

def uuidText (id : Uuid) : String :=
  let hex := Hex.fixed 32 id.toNat
  String.ofList (hex.take 8 ++ '-' :: (hex.drop 8).take 4 ++ '-' :: (hex.drop 12).take 4 ++
    '-' :: (hex.drop 16).take 4 ++ '-' :: hex.drop 20)

def isBrace (c : Char) : Bool := c.toNat = 123 || c.toNat = 125

/-- `UUID(text)`: enclosing braces and all dashes are dropped. -/
def parseUuid (s : String) : Option Uuid :=
  let unbraced := ((s.toList.dropWhile isBrace).reverse.dropWhile isBrace).reverse
  let digits := unbraced.filter (· ≠ '-')
  if digits.length = 32 then (Hex.parse digits).map (BitVec.ofNat 128) else none

def rstripSlash (s : String) : String :=
  String.ofList (s.toList.reverse.dropWhile (· = '/')).reverse

end ApprovalToken

open ApprovalToken

structure TokenSubject where
  tenantId : Uuid
  decisionId : Uuid
  decision : Decision
  approvalId : Uuid

namespace Settings

def primarySecret (settings : Settings) : String := strip settings.enforcementApprovalTokenSecret

def strong (secret : String) : Bool := 32 ≤ secret.toList.length

def candidateSecrets (settings : Settings) : List String :=
  Service.keepFirst (settings.primarySecret ::
    (settings.enforcementApprovalTokenFallbackSecrets.map strip).filter strong)

def issuer (settings : Settings) : String := rstripSlash settings.apiUrl

end Settings

namespace Service

variable (service : Service)

def tokenClaims (subject : TokenSubject) (expiresAt now : Nat) : List (String × Json) :=
  let decision := subject.decision
  [ ("iss",.str service.settings.issuer),
    ("aud",.str "enforcement_gate"),
    ("sub",.str (subjectPrefix ++ uuidText subject.approvalId)),
    ("iat",.int (timestamp now)),
    ("nbf",.int (timestamp now)),
    ("exp",.int (timestamp expiresAt)),
    ("tenant_id",.str (uuidText subject.tenantId)),
    ("project_id",.str decision.projectId),
    ("decision_id",.str (uuidText subject.decisionId)),
    ("approval_id",.str (uuidText subject.approvalId)),
    ("source",.str decision.source.value),
    ("environment",.str decision.environment),
    ("request_fingerprint",.str decision.requestFingerprint),
    ("max_monthly_delta_usd",.str (quantizedText (some decision.estimatedMonthlyDeltaUsd) 4)),
    ("max_hourly_delta_usd",.str (quantizedText decision.estimatedHourlyDeltaUsd 6)),
    ("resource_reference",.str decision.resourceReference),
    ("token_type",.str tokenType) ]

def signingKid (settings : Settings) : Option String :=
  if strip settings.jwtSigningKid = "" then none else some (strip settings.jwtSigningKid)

def buildApprovalToken (subject : TokenSubject) (expiresAt now : Nat) : Except Fault String :=
  if Settings.strong service.settings.primarySecret then
    .ok (service.jwt.encode (service.tokenClaims subject expiresAt now)
      service.settings.primarySecret (signingKid service.settings))
  else .error .signingKeyNotConfigured

def invalidApprovalToken : Fault := .tokenRejected "invalid" 401 "Invalid approval token"
def expiredApprovalToken : Fault := .tokenRejected "token_expired" 409 "Approval token has expired"

def decodeWith (token : String) (now : Nat) : List String → Bool →
    Except Fault (List (String × Json))
  | [], expired => .error (if expired then expiredApprovalToken else invalidApprovalToken)
  | secret :: rest, expired =>
    match service.jwt.decode token secret service.settings.issuer now with
    | .ok payload =>
      if strip (service.str ((payload.lookup "token_type").getD (.str ""))) = tokenType then
        .ok payload
      else decodeWith token now rest expired
    | .error .expiredSignature => decodeWith token now rest true
    | .error .invalidToken => decodeWith token now rest expired

def decodeApprovalToken (token : String) (now : Nat) : Except Fault (List (String × Json)) :=
  if Settings.strong service.settings.primarySecret then
    service.decodeWith token now service.settings.candidateSecrets false
  else .error .signingKeyNotConfigured

end Service

structure ApprovalTokenContext where
  approvalId : Uuid
  decisionId : Uuid
  tenantId : Uuid
  projectId : String
  source : Source
  environment : String
  requestFingerprint : String
  resourceReference : String
  /-- `none` is a `NaN`. -/
  maxMonthlyDeltaUsd : Option Int
  maxHourlyDeltaUsd : Option Int
  expiresAt : Nat
  deriving DecidableEq, Repr

def Source.ofValue (value : String) : Option Source :=
  if value = "terraform" then some .terraform
  else if value = "k8s_admission" then some .k8sAdmission
  else if value = "cloud_event" then some .cloudEvent
  else none

namespace Service

variable (service : Service)

def claimText (payload : List (String × Json)) (key : String) : String :=
  strip (service.str ((payload.lookup key).getD (.str "")))

def uuidClaim (payload : List (String × Json)) (key : String) : Except Fault Uuid :=
  require (parseUuid (service.str ((payload.lookup key).getD .null))) invalidApprovalToken

/-- `to_decimal`: an absent value is zero, and so is a text that is no number. -/
def toDecimal (value : Option Json) : DecimalValue :=
  match value with
  | none | some .null => .finite ⟨0,0⟩
  | some value => (Decimal.parse (service.str value)).getD (.finite ⟨0,0⟩)

def amountClaim (payload : List (String × Json)) (key : String) (places : Nat) :
    Except Fault (Option Int) :=
  require ((service.toDecimal (payload.lookup key)).quantize places) invalidApprovalToken

/-- `int(exp)` of a number or a text. -/
def expClaim (payload : List (String × Json)) : Except Fault Nat :=
  let seconds : Option Int := match payload.lookup "exp" with
    | some (.int value) => some value
    | some (.bool value) => some (if value then 1 else 0)
    | some (.float value) =>
      if 0 ≤ value.exponent then some (value.coefficient * 10 ^ value.exponent.toNat)
      else some (value.coefficient.tdiv (10 ^ (-value.exponent).toNat))
    | some (.str value) => parseInt value
    | _ => none
  require (seconds.bind fromTimestamp) invalidApprovalToken

def extractTokenContext (payload : List (String × Json)) : Except Fault ApprovalTokenContext := do
  let source ← require (Source.ofValue (service.text.lower (service.claimText payload "source")))
    invalidApprovalToken
  let maxMonthlyDeltaUsd ← service.amountClaim payload "max_monthly_delta_usd" 4
  let maxHourlyDeltaUsd ← service.amountClaim payload "max_hourly_delta_usd" 6
  let expiresAt ← expClaim payload
  let requestFingerprint := service.claimText payload "request_fingerprint"
  refuse (requestFingerprint.toList.length ≠ 64) invalidApprovalToken
  let resourceReference := service.claimText payload "resource_reference"
  refuse (resourceReference = "") invalidApprovalToken
  let projectId := service.claimText payload "project_id"
  refuse (projectId = "") invalidApprovalToken
  let approvalId ← service.uuidClaim payload "approval_id"
  let decisionId ← service.uuidClaim payload "decision_id"
  let tenantId ← service.uuidClaim payload "tenant_id"
  return {
    approvalId := approvalId
    decisionId := decisionId
    tenantId := tenantId
    projectId := projectId
    source := source
    environment := service.claimText payload "environment"
    requestFingerprint := requestFingerprint
    resourceReference := resourceReference
    maxMonthlyDeltaUsd := maxMonthlyDeltaUsd
    maxHourlyDeltaUsd := maxHourlyDeltaUsd
    expiresAt := expiresAt }

end Service

end Valdrics.Enforcement

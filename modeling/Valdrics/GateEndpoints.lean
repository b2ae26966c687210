import Valdrics.GatePersistence

/-! The endpoints of the gate: the four requests, the input each of them builds, and the gate
with its fail-safe answer to what the evaluation raises. -/
namespace Valdrics.Enforcement

open PythonText

/-- An amount of a request body: the schema admits finite numbers that are not negative. -/
structure Amount where
  number : Decimal
  nonneg : 0 ≤ number.coefficient

def Amount.value (amount : Amount) : DecimalValue := .finite amount.number

structure GateRequest where
  projectId : String
  environment : String
  action : String
  resourceReference : String
  estimatedMonthlyDeltaUsd : Amount
  estimatedHourlyDeltaUsd : Amount
  metadata : List (String × Json)
  idempotencyKey : Option String
  dryRun : Bool

structure TerraformPreflightRequest where
  runId : String
  stage : String
  workspaceId : Option String
  workspaceName : Option String
  callbackUrl : Option String
  runUrl : Option String
  gate : GateRequest
  expectedRequestFingerprint : Option String

/-- `time` in ISO format; `extra` are the further attributes of the event. -/
structure CloudEventEnvelope where
  specversion : String
  id : String
  source : String
  type : String
  subject : Option String
  time : Option String
  datacontenttype : Option String
  dataschema : Option String
  data : Json
  extra : List (String × Json)

structure CloudEventGateRequest where
  cloudEvent : CloudEventEnvelope
  projectId : String
  environment : String
  action : String
  resourceReference : Option String
  estimatedMonthlyDeltaUsd : Amount
  estimatedHourlyDeltaUsd : Amount
  metadata : List (String × Json)
  idempotencyKey : Option String
  expectedRequestFingerprint : Option String
  dryRun : Bool

/-- `operation` is one of `CREATE`, `UPDATE`, `DELETE` and `CONNECT`. -/
structure K8sAdmissionReviewRequest where
  uid : String
  kind : String
  resource : String
  name : Option String
  namespace_ : Option String
  operation : String
  userInfo : List (String × Json)
  obj : Option (List (String × Json))
  dryRun : Option Bool

inductive Refusal where
  | invalidAnnotationValue (key : String)
  | noResourceReference
  | fingerprintMismatch
  | raised (fault : Fault)
  deriving DecidableEq

/-- `{**entries, key: value}`. -/
def assignEntry (entries : List (String × Json)) (key : String) (value : Json) :
    List (String × Json) :=
  if entries.any (·.1 = key) then
    entries.map fun entry => if entry.1 = key then (key,value) else entry
  else entries ++ [(key,value)]

def assignEntries (entries more : List (String × Json)) : List (String × Json) :=
  more.foldl (fun entries entry => assignEntry entries entry.1 entry.2) entries

def textOrNull : Option String → Json
  | none => .null
  | some value => .str value

def filled (value : Option String) : Option String := value.filter (· ≠ "")

namespace Service

variable (service : Service)

/-- `str(value).strip().lower() or default`. -/
def loweredOr (value default : String) : String :=
  orDefault (service.text.lower (strip value)) default

/-- `_build_gate_input`. -/
def buildGateInput (payload : GateRequest) (idempotencyKey : Option String) : GateInput where
  projectId := service.loweredOr payload.projectId "default"
  environment := payload.environment
  action := service.text.lower (strip payload.action)
  resourceReference := strip payload.resourceReference
  estimatedMonthlyDeltaUsd := payload.estimatedMonthlyDeltaUsd.value
  estimatedHourlyDeltaUsd := payload.estimatedHourlyDeltaUsd.value
  metadata := payload.metadata
  idempotencyKey := idempotencyKey
  dryRun := payload.dryRun

def preflightMetadata (payload : TerraformPreflightRequest) : List (String × Json) :=
  let optional (key : String) (value : Option String) : List (String × Json) :=
    match filled value with
    | none => []
    | some text => [(key,.str text)]
  assignEntries payload.gate.metadata
    ([("terraform_run_id",.str payload.runId),("terraform_stage",.str payload.stage)] ++
      optional "terraform_workspace_id" payload.workspaceId ++
      optional "terraform_workspace_name" payload.workspaceName ++
      optional "terraform_callback_url" payload.callbackUrl ++
      optional "terraform_run_url" payload.runUrl)

/-- The input of `gate_terraform_preflight`. -/
def preflightGateInput (payload : TerraformPreflightRequest) (idempotencyHeader : Option String) :
    GateInput :=
  let default := slice ("terraform:" ++ payload.runId ++ ":" ++ payload.stage) 128
  let key := ((filled idempotencyHeader).or (filled payload.gate.idempotencyKey)).getD default
  service.buildGateInput { payload.gate with metadata := preflightMetadata payload } (some key)

def cloudEventMetadata (dataDigest : Json → String) (event : CloudEventEnvelope) :
    List (String × Json) :=
  [("cloud_event_id",.str event.id),("cloud_event_source",.str event.source),
    ("cloud_event_type",.str event.type),("cloud_event_specversion",.str event.specversion),
    ("cloud_event_subject",textOrNull event.subject),("cloud_event_time",textOrNull event.time),
    ("cloud_event_datacontenttype",textOrNull event.datacontenttype),
    ("cloud_event_dataschema",textOrNull event.dataschema),
    ("cloud_event_data_sha256",.str (dataDigest event.data))] ++
  if event.extra.isEmpty then []
  else [("cloud_event_extensions",.obj (event.extra.mergeSort fun a b => a.1 ≤ b.1))]

/-- `_build_cloud_event_gate_input`. -/
def buildCloudEventGateInput (dataDigest : Json → String) (payload : CloudEventGateRequest)
    (idempotencyHeader : Option String) : Except Refusal GateInput :=
  let event := payload.cloudEvent
  let resourceReference := orDefault (strip (payload.resourceReference.getD ""))
    (orDefault (strip (event.subject.getD "")) (strip event.source))
  let default := slice ("cloudevent:" ++ event.id) 128
  let key := ((filled idempotencyHeader).or (filled payload.idempotencyKey)).getD default
  if resourceReference = "" then .error .noResourceReference
  else .ok
    { projectId := service.loweredOr payload.projectId "default"
      environment := payload.environment
      action := service.text.lower (strip payload.action)
      resourceReference := resourceReference
      estimatedMonthlyDeltaUsd := payload.estimatedMonthlyDeltaUsd.value
      estimatedHourlyDeltaUsd := payload.estimatedHourlyDeltaUsd.value
      metadata := assignEntries payload.metadata (cloudEventMetadata dataDigest event)
      idempotencyKey := some key
      dryRun := payload.dryRun }

def objectOf : Json → List (String × Json)
  | .obj entries => entries
  | _ => []

/-- `_extract_k8s_labels_annotations`: labels, annotations, name and namespace. -/
def extractK8sLabelsAnnotations (obj : Option (List (String × Json))) :
    List (String × String) × List (String × String) × String × String :=
  let metadata := objectOf (((obj.getD []).lookup "metadata").getD .null)
  let texts (key : String) : List (String × String) :=
    (objectOf ((metadata.lookup key).getD .null)).map fun entry => (entry.1,service.str entry.2)
  (texts "labels",texts "annotations",
    strip (service.strOrEmpty ((metadata.lookup "name").getD .null)),
    strip (service.strOrEmpty ((metadata.lookup "namespace").getD .null)))

/-- `_annotation_decimal`. -/
def annotationDecimal (annotations : List (String × String)) (key : String) :
    Except Refusal DecimalValue :=
  let raw := strip ((annotations.lookup key).getD "")
  if raw = "" then .ok (.finite ⟨0,0⟩)
  else match Decimal.parse raw with
    | some value => .ok value
    | none => .error (.invalidAnnotationValue key)

def monthlyAnnotation : String := "valdrics.io/estimated-monthly-delta-usd"
def hourlyAnnotation : String := "valdrics.io/estimated-hourly-delta-usd"

/-- The input of `gate_k8s_admission_review`. -/
def reviewGateInput (review : K8sAdmissionReviewRequest) (idempotencyHeader : Option String) :
    Except Refusal GateInput := do
  let (labels,annotations,metadataName,metadataNamespace) :=
    service.extractK8sLabelsAnnotations review.obj
  let own (key : String) : Option String :=
    (filled (annotations.lookup key)).or (filled (labels.lookup key))
  let namespace_ := orDefault (strip (review.namespace_.getD ""))
    (orDefault metadataNamespace "default")
  let name := orDefault (strip (review.name.getD "")) (orDefault metadataName "unnamed")
  let resourceType := service.text.lower (strip review.resource)
  let monthly ← annotationDecimal annotations monthlyAnnotation
  let hourly ← annotationDecimal annotations hourlyAnnotation
  return {
    projectId := service.loweredOr ((own "valdrics.io/project-id").getD namespace_) "default"
    environment := service.loweredOr ((own "valdrics.io/environment").getD "nonprod") "nonprod"
    action := "admission." ++ service.text.lower review.operation
    resourceReference := resourceType ++ "/" ++ namespace_ ++ "/" ++ name
    estimatedMonthlyDeltaUsd := monthly
    estimatedHourlyDeltaUsd := hourly
    metadata :=
      [("resource_type",.str (service.text.lower (strip review.kind))),
        ("admission_operation",.str review.operation),
        ("admission_namespace",.str namespace_),("admission_name",.str name),
        ("admission_labels",.obj (labels.map fun entry => (entry.1,.str entry.2))),
        ("admission_annotations",.obj (annotations.map fun entry => (entry.1,.str entry.2))),
        ("admission_kind",.str review.kind),("admission_resource",.str review.resource),
        ("admission_user",.str
          (service.strOrEmpty ((review.userInfo.lookup "username").getD .null)))]
    idempotencyKey := some ((filled idempotencyHeader).getD review.uid)
    dryRun := review.dryRun.getD false }

end Service

/-- A request to one of the endpoints, with its `Idempotency-Key` header. -/
inductive Submission where
  | gate (source : Source) (payload : GateRequest) (header : Option String)
  | preflight (payload : TerraformPreflightRequest) (header : Option String)
  | cloudEvent (dataDigest : Json → String) (payload : CloudEventGateRequest)
      (header : Option String)
  | review (request : K8sAdmissionReviewRequest) (header : Option String)

namespace Submission

def source : Submission → Source
  | .gate source _ _ => source
  | .preflight _ _ => .terraform
  | .cloudEvent _ _ _ => .cloudEvent
  | .review _ _ => .k8sAdmission

def expectedRequestFingerprint : Submission → Option String
  | .preflight payload _ => payload.expectedRequestFingerprint
  | .cloudEvent _ payload _ => payload.expectedRequestFingerprint
  | _ => none

def input (service : Service) : Submission → Except Refusal GateInput
  | .gate _ payload header =>
    .ok (service.buildGateInput payload ((filled header).or payload.idempotencyKey))
  | .preflight payload header => .ok (service.preflightGateInput payload header)
  | .cloudEvent dataDigest payload header =>
    service.buildCloudEventGateInput dataDigest payload header
  | .review request header => service.reviewGateInput request header

end Submission

/-- The caller, the clock, the ids and the cost context of a call. -/
structure Arrival where
  actorId : Uuid
  now : Nat
  createdAt : Nat
  decisionId : Uuid
  approvalId : Uuid
  computedContext : DecisionComputedContext

def Arrival.call (arrival : Arrival) (source : Source) (input : GateInput) : GateCall where
  source := source
  gateInput := input
  actorId := arrival.actorId
  now := arrival.now
  createdAt := arrival.createdAt
  decisionId := arrival.decisionId
  approvalId := arrival.approvalId
  computedContext := arrival.computedContext

/-- What keeps the evaluation from its end: the time is out, with or without its rows in the
transaction, or the lock is not to be had. -/
structure Interruption where
  failure : FailSafe
  wrote : Bool

namespace Fault

/-- One of `ENFORCEMENT_GATE_EVALUATION_RECOVERABLE_EXCEPTIONS`. -/
def isRecoverable : Fault → Bool
  | .integrityError | .recoverable => true
  | _ => false

end Fault

namespace Service

variable (service : Service)

def evaluationError (fault : Fault) : FailSafe :=
  ⟨"gate_evaluation_error",[("error_type",.str fault.detail)]⟩

def raising (committed : Committed GateEvaluationResult) :
    Store × Except Refusal GateEvaluationResult :=
  (committed.1,committed.2.mapError Refusal.raised)

def attemptGate (store : Store) (call : GateCall) :
    Option Interruption → Store × Except Refusal GateEvaluationResult
  | some interruption =>
    let left := if interruption.wrote then (service.evaluateGate store call).1 else store
    raising (service.resolveFailSafeGate left call interruption.failure)
  | none =>
    match service.evaluateGate store call with
    | (next,.error fault) =>
      if fault.isRecoverable then
        raising (service.resolveFailSafeGate next call (evaluationError fault))
      else (next,.error (.raised fault))
    | (next,.ok result) => (next,.ok result)

/-- `_run_gate_input_impl`. -/
def runGateInput (store : Store) (call : GateCall) (expected : Option String)
    (interruption : Option Interruption) : Store × Except Refusal GateEvaluationResult :=
  match filled (expected.map fun text => service.text.lower (strip text)) with
  | none => service.attemptGate store call interruption
  | some fingerprint =>
    match service.stableFingerprint call.source call.gateInput with
    | .error fault => (store,.error (.raised fault))
    | .ok computed =>
      if fingerprint = computed then service.attemptGate store call interruption
      else (store,.error .fingerprintMismatch)

def submit (store : Store) (submission : Submission) (arrival : Arrival)
    (interruption : Option Interruption) : Store × Except Refusal GateEvaluationResult :=
  match submission.input service with
  | .error refusal => (store,.error refusal)
  | .ok input => service.runGateInput store (arrival.call submission.source input)
      submission.expectedRequestFingerprint interruption

end Service

end Valdrics.Enforcement

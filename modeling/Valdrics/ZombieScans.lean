import Valdrics.ZombieDetectors

/-! A tenant's scan: the results of the detectors merged into one payload, in the order in which the
scans of the regions end, and the findings that are written and resolved from the payload. -/
namespace Valdrics.ZombieScan

open Enforcement (Json Uuid)
open JsonValue (truthy)
open PythonText

def categoryMapping : List (String × String) :=
  [("unattached_azure_disks","unattached_volumes"),("unattached_gcp_disks","unattached_volumes"),
    ("unattached_disks","unattached_volumes"),("orphan_azure_ips","unused_elastic_ips"),
    ("orphan_gcp_ips","unused_elastic_ips"),("orphaned_ips","unused_elastic_ips"),
    ("idle_azure_vms","idle_instances"),("idle_azure_gpu_vms","idle_instances"),
    ("idle_gcp_vms","idle_instances"),("idle_gcp_gpu_instances","idle_instances"),
    ("old_azure_snapshots","old_snapshots"),("old_gcp_snapshots","old_snapshots"),
    ("idle_azure_sql","idle_rds_databases"),("idle_gcp_cloud_sql","idle_rds_databases"),
    ("idle_azure_aks","idle_container_clusters"),("empty_gke_clusters","idle_container_clusters"),
    ("unused_azure_app_service_plans","unused_app_service_plans"),
    ("idle_cloud_run","idle_serverless_services"),("idle_cloud_functions","idle_serverless_functions"),
    ("orphan_azure_nics","orphan_network_components"),("orphan_azure_nsgs","orphan_network_components")]

def uiKey (category : String) : String := (categoryMapping.lookup category).getD category

/-- The buckets of `_initial_scan_payload`. -/
def initialBuckets : List String :=
  ["unattached_volumes","old_snapshots","unused_elastic_ips","idle_instances","orphan_load_balancers",
    "idle_rds_databases","underused_nat_gateways","idle_s3_buckets","stale_ecr_images",
    "idle_sagemaker_endpoints","cold_redshift_clusters","idle_saas_subscriptions",
    "unused_license_seats","idle_platform_services","idle_hybrid_resources",
    "idle_container_clusters","unused_app_service_plans","idle_serverless_services",
    "idle_serverless_functions","orphan_network_components"]

structure Connection where
  id : Uuid
  provider : Provider
  name : String

/-- An item of the payload; where it comes from is held beside the dictionary. -/
structure Reported where
  provider : Provider
  connectionId : Uuid
  connectionName : String
  item : Item

structure ErrorEntry where
  provider : Provider
  region : Json
  error : String
  errorType : Option String := none
  connectionId : Uuid
  category : Option String := none
  status : Option String := none

structure Summary where
  provider : Provider
  connectionId : Uuid
  connectionName : String
  region : String
  degraded : Bool
  errorCount : Nat
  plugins : List (String × PluginMetadata)
  inventoryDiscovery : Option InventoryMetadata

structure Payload where
  buckets : Table String (List Reported)
  errors : List ErrorEntry := []
  scannedConnections : Nat
  partialResults : Bool := false
  scanCompleteness : List Summary := []
  scanTimeout : Bool := false

/-- How the scan of a region of a connection ends: before there is a detector, with the results of
one, or not at all within the time for the whole scan. -/
inductive StepOutcome where
  | failed (error : Failure)
  | scanned (scan : RegionScan)
  | unfinished

structure Step where
  connection : Connection
  outcome : StepOutcome

/-- The features of the tenant's tier that the payload depends on. -/
structure Features where
  hasPrecision : Bool := false
  hasAttribution : Bool := false

structure TenantScan where
  scannedConnections : Nat
  features : Features := {}
  steps : List Step
  now : Int

/-- `item.get(key)`. -/
def Item.entry (item : Item) (key : String) : Json := (item.lookup key).getD .null

/-- `a or b`. -/
def orElse (a b : Json) : Json := if truthy a then a else b

/-- `value in (None, "")`. -/
def isBlank : Json → Bool
  | .null => true
  | .str value => value = ""
  | _ => false

def floatBound : Nat := 2 ^ 1024 - 2 ^ 970

def overflowsFloat (d : Decimal) : Bool :=
  if 0 ≤ d.exponent then floatBound ≤ d.coefficient.natAbs * 10 ^ d.exponent.toNat
  else floatBound * 10 ^ (-d.exponent).toNat ≤ d.coefficient.natAbs

/-- `float(text)`, if it is a finite number. -/
def finiteFloat (rt : Runtime) (text : String) : Option Decimal :=
  match Decimal.parse text with
  | some (.finite d) => if overflowsFloat d then none else some (rt.viaFloat d)
  | _ => none

/-- `_coerce_monthly_cost`. -/
def coerceMonthlyCost (rt : Runtime) (item : Item) : Option Decimal :=
  let raw := if isBlank (item.entry "monthly_cost") then item.entry "monthly_waste"
    else item.entry "monthly_cost"
  if isBlank raw then some ⟨0,0⟩ else finiteFloat rt (rt.str raw)

def growthPlanRequired : Json := .str "Growth Plan Required"

/-- An item as the payload gets it; `none` if its cost is no finite number. -/
def stamp (rt : Runtime) (features : Features) (connection : Connection) (regionOverride : Option String)
    (item : Item) : Option Reported :=
  (coerceMonthlyCost rt item).map fun cost =>
    let region := orElse (.str (regionOverride.getD "")) (orElse (item.entry "region") (item.entry "zone"))
    let updated := assign (assign (assign (assign item
      "resource_id" (orElse (item.entry "resource_id") (item.entry "id")))
      "monthly_cost" (.float cost))
      "is_gpu" (if features.hasPrecision then .bool (truthy ((item.lookup "is_gpu").getD (.bool false)))
        else growthPlanRequired))
      "owner" (if features.hasAttribution then (item.lookup "owner").getD (.str "unknown")
        else growthPlanRequired)
    { provider := connection.provider
      connectionId := connection.id
      connectionName := connection.name
      item := if truthy region then assign updated "region" region else updated }

def invalidCost (rt : Runtime) (connection : Connection) (regionOverride : Option String) (key : String)
    (item : Item) : Option ErrorEntry :=
  match coerceMonthlyCost rt item with
  | some _ => none
  | none => some
    { provider := connection.provider
      region := orElse (.str (regionOverride.getD ""))
        (orElse (item.entry "region") (orElse (item.entry "zone") (.str "global")))
      error := "Zombie finding monthly cost must be numeric and finite"
      errorType := some "InvalidMonthlyCost"
      connectionId := connection.id
      category := some key
      status := some "invalid_finding" }

/-- `setdefault(key, [])` and the appends to the bucket. -/
def appendTo (buckets : Table String (List Reported)) (key : String) (items : List Reported) :
    Table String (List Reported) :=
  buckets.upsert key items (· ++ items)

namespace Payload

def initial (scannedConnections : Nat) : Payload :=
  { buckets := ⟨initialBuckets.map fun key => (key,[]),by decide⟩,scannedConnections }

def addErrors (payload : Payload) (entries : List ErrorEntry) : Payload :=
  { payload with errors := payload.errors ++ entries }

def markPartial (payload : Payload) (isPartial : Bool) : Payload :=
  { payload with partialResults := payload.partialResults || isPartial }

def mergeCategory (rt : Runtime) (features : Features) (connection : Connection)
    (regionOverride : Option String) (payload : Payload) (entry : String × List Item) : Payload :=
  let key := uiKey entry.1
  let invalid := entry.2.filterMap (invalidCost rt connection regionOverride key)
  ({ payload with
    buckets := appendTo payload.buckets key
      (entry.2.filterMap (stamp rt features connection regionOverride)) }.addErrors invalid).markPartial
    (!invalid.isEmpty)

end Payload

/-- `needle in text`. -/
def occursIn (needle : List Char) : List Char → Bool
  | [] => needle.isEmpty
  | c :: rest => needle.isPrefixOf (c :: rest) || occursIn needle rest

def manualReviewNote (inventory : InventoryMetadata) : String :=
  (inventory.coverageLimitations.filter (· ≠ "")).getD
    "Inventory discovery is partial or degraded; manual review is required."

/-- The loop body of `_mark_connection_items_manual_review`. -/
def markManualReview (rt : Runtime) (connection : Connection) (region : String)
    (inventory : InventoryMetadata) (reported : Reported) : Reported :=
  let itemRegion := rt.str (orElse (reported.item.entry "region") (.str region))
  if reported.provider ≠ connection.provider ∨ reported.connectionId ≠ connection.id then reported
  else if region ≠ "global" ∧ itemRegion ≠ region then reported
  else
    let note := manualReviewNote inventory
    let notes := strip (rt.str (orElse (reported.item.entry "explainability_notes") (.str "")))
    let marked := assign (assign (assign (assign (assign reported.item
      "requires_manual_review" (.bool true))
      "automated_action_allowed" (.bool false))
      "decision_gate" (.str "manual_review_required"))
      "inventory_discovery_status" (.str inventory.status))
      "inventory_discovery_note" (.str note)
    { reported with
      item := if occursIn note.toList notes.toList then marked
        else assign marked "explainability_notes"
          (.str (strip (notes ++ " Manual review required because " ++ note))) }

def pluginErrors (connection : Connection) (region : String) (plugins : List (String × PluginMetadata)) :
    List ErrorEntry :=
  plugins.filterMap fun (category,metadata) =>
    if metadata.status = "ok" ∨ metadata.status = "" then none
    else some
      { provider := connection.provider
        region := .str region
        error := (metadata.error.filter (· ≠ "")).getD "unknown"
        errorType := some ((metadata.errorType.filter (· ≠ "")).getD "unknown")
        connectionId := connection.id
        category := some category
        status := some metadata.status }

def inventoryError (connection : Connection) (region : String) (inventory : InventoryMetadata) :
    ErrorEntry :=
  { provider := connection.provider
    region := .str region
    error := (inventory.coverageLimitations.filter (· ≠ "")).getD
      "Inventory discovery is partial or degraded"
    errorType := some "InventoryDiscoveryPartial"
    connectionId := connection.id
    category := some "inventory_discovery"
    status := some inventory.status }

def scanError (connection : Connection) (region error : String) : ErrorEntry :=
  { provider := connection.provider
    region := .str region
    error
    connectionId := connection.id
    category := some "scan"
    status := some "failed" }

namespace Payload

def mergeInventory (rt : Runtime) (connection : Connection) (region : String) (payload : Payload) :
    Option InventoryMetadata → Payload
  | none => payload
  | some inventory =>
    if inventory.status = "ok" then payload
    else { payload with
        buckets := payload.buckets.mapRows fun _ items =>
          items.map (markManualReview rt connection region inventory) }.addErrors
      [inventoryError connection region inventory]

def mergeCompleteness (rt : Runtime) (connection : Connection) (region : String)
    (results : ScanResults) (payload : Payload) : Payload :=
  let summarized := { payload with
    scanCompleteness := payload.scanCompleteness ++
      [{ provider := connection.provider
         connectionId := connection.id
         connectionName := connection.name
         region
         degraded := results.degraded
         errorCount := results.errorCount
         plugins := results.plugins
         inventoryDiscovery := results.inventory }] }
  let degraded := if results.degraded then
      ((summarized.markPartial true).addErrors (pluginErrors connection region results.plugins)).mergeInventory
        rt connection region results.inventory
    else summarized
  match results.overallError.filter (· ≠ "") with
  | none => degraded
  | some error => (degraded.markPartial true).addErrors [scanError connection region error]

/-- `merge_scan_results`. -/
def mergeScanResults (rt : Runtime) (features : Features) (connection : Connection)
    (regionOverride : Option String) (region : String) (results : ScanResults) (payload : Payload) :
    Payload :=
  let merged := (results.items.foldl (mergeCategory rt features connection regionOverride)
    payload).mergeCompleteness rt connection region results
  match results.error.filter (· ≠ "") with
  | none => merged
  | some error => (merged.markPartial true).addErrors [scanError connection region error]

/-- `append_error`. -/
def appendError (connection : Connection) (region error : String) (payload : Payload) : Payload :=
  (payload.markPartial true).addErrors
    [{ provider := connection.provider,region := .str region,error,connectionId := connection.id }]

end Payload

/-- `ZOMBIE_SCAN_RECOVERABLE_ERRORS` of the service. -/
def zombieScanRecoverableErrors : List ErrorClass :=
  [.httpError,.runtimeError,.osError,.timeoutError,.typeError,.valueError,.keyError,.attributeError]

def RegionScan.summaryRegion (provider : Provider) (scan : RegionScan) : String :=
  (scan.regionOverride provider).getD (scan.detectorRegion provider)

/-- The end of one region's scan; an exception that is not listed ends the scan of the tenant. -/
def mergeStep (rt : Runtime) (features : Features) (payload : Payload) (step : Step) :
    Except Failure Payload :=
  let caught (region : String) (error : Failure) :=
    if error.cls.isInstance zombieScanRecoverableErrors then
      .ok (payload.appendError step.connection region error.text)
    else .error error
  match step.outcome with
  | .failed error => caught "global" error
  | .unfinished => .ok { payload.markPartial true with scanTimeout := true }
  | .scanned run =>
    match run.scanAll rt step.connection.provider with
    | .ok results =>
      .ok (payload.mergeScanResults rt features step.connection (run.regionOverride step.connection.provider)
        (run.summaryRegion step.connection.provider) results)
    | .error error =>
      caught (if step.connection.provider = .aws then run.region else "global") error

def mergeSteps (rt : Runtime) (features : Features) : Payload → List Step → Except Failure Payload
  | payload, [] => .ok payload
  | payload, step :: rest =>
    match mergeStep rt features payload step with
    | .ok merged => mergeSteps rt features merged rest
    | .error error => .error error

inductive FindingStatus where
  | opened | resolved
  deriving DecidableEq, Repr

/-- `_normalize_region`. -/
def normalizeRegion (rt : Runtime) (value : String) : String :=
  let normalized := rt.text.lower (strip value)
  if normalized = "" then "global" else normalized

theorem normalizeRegion_idem (rt : Runtime) (value : String) :
    normalizeRegion rt (normalizeRegion rt value) = normalizeRegion rt value := by
  have default : normalizeRegion rt "global" = "global" := by
    have lowered : rt.text.lower (strip "global") = "global" := by
      rw [rt.text.ascii (strip "global") (by decide)]
      decide
    simp [normalizeRegion,lowered]
  by_cases empty : rt.text.lower (strip value) = ""
  · simp only [normalizeRegion,empty,if_true] at default ⊢
    exact default
  · simp only [normalizeRegion,empty,if_false]
    rw [rt.text.keepsStripped,rt.text.idempotent]
    simp [empty]

abbrev NormalRegion (rt : Runtime) := { region : String // normalizeRegion rt region = region }

/-- What `build_finding_fingerprint` digests, less the constant source. -/
structure FindingKey (rt : Runtime) where
  provider : Provider
  connectionId : Uuid
  category : String
  region : NormalRegion rt
  resourceId : { id : String // id ≠ "" }
  resourceType : String
  deriving DecidableEq

instance (rt : Runtime) : LawfulBEq (FindingKey rt) := inferInstance

structure OptimizationFinding where
  status : FindingStatus := .opened
  connectionName : Option String := none
  estimatedMonthlySavings : Option DecimalValue := none
  confidenceScore : Option DecimalValue := none
  explainabilityNotes : Option String := none
  requiresManualReview : Bool := false
  automatedActionAllowed : Bool := true
  decisionGate : Option String := none
  payload : Item := []
  firstDetectedAt : Int
  lastDetectedAt : Int
  resolvedAt : Option Int := none

abbrev Findings (rt : Runtime) := Table (FindingKey rt) OptimizationFinding

/-- `str(value or "")`. -/
def textOr (rt : Runtime) (value : Json) : String := if truthy value then rt.str value else ""

def resourceId (rt : Runtime) (item : Item) : String :=
  strip (textOr rt (orElse (item.entry "resource_id") (item.entry "id")))

def resourceType (rt : Runtime) (category : String) (item : Item) : String :=
  let named := strip (rt.str (orElse (item.entry "resource_type") (.str category)))
  if named = "" then category else named

def findingKey (rt : Runtime) (category : String) (reported : Reported) : Option (FindingKey rt) :=
  if named : resourceId rt reported.item = "" then none
  else some
    { provider := reported.provider
      connectionId := reported.connectionId
      category
      region := ⟨normalizeRegion rt (textOr rt (reported.item.entry "region")),normalizeRegion_idem rt _⟩
      resourceId := ⟨resourceId rt reported.item,named⟩
      resourceType := resourceType rt category reported.item }

/-- `_coerce_decimal`. -/
def coerceDecimal (rt : Runtime) : Json → Option DecimalValue
  | .null => none
  | value => Decimal.parse (rt.str value)

/-- `str(value).strip()` of a value that is there. -/
def strippedText (rt : Runtime) : Json → Option String
  | .null => none
  | value => some (strip (rt.str value))

def observe (rt : Runtime) (now : Int) (reported : Reported) : OptimizationFinding :=
  let item := reported.item
  { connectionName := some (strip reported.connectionName) |>.filter (· ≠ "")
    estimatedMonthlySavings := coerceDecimal rt
      ((item.lookup "estimated_monthly_savings").getD (item.entry "monthly_cost"))
    confidenceScore := coerceDecimal rt (item.entry "confidence_score")
    explainabilityNotes := strippedText rt (item.entry "explainability_notes")
    requiresManualReview := truthy (item.entry "requires_manual_review")
    automatedActionAllowed := truthy ((item.lookup "automated_action_allowed").getD (.bool true))
    decisionGate := strippedText rt (item.entry "decision_gate")
    payload := item.filter fun e => e.1 ≠ "finding_id" && e.1 ≠ "finding_status"
    firstDetectedAt := now
    lastDetectedAt := now }

def upsert {rt : Runtime} (findings : Findings rt) (entry : FindingKey rt × OptimizationFinding) :
    Findings rt :=
  findings.upsert entry.1 entry.2 fun row => { entry.2 with firstDetectedAt := row.firstDetectedAt }

def observations (rt : Runtime) (now : Int) (payload : Payload) :
    List (FindingKey rt × OptimizationFinding) :=
  payload.buckets.rows.flatMap fun bucket => bucket.2.filterMap fun reported =>
    (findingKey rt bucket.1 reported).map fun key => (key,observe rt now reported)

abbrev Scope := Provider × Uuid × String

instance : LawfulBEq Scope := inferInstance

def scopes (rt : Runtime) (now : Int) (payload : Payload) : List Scope :=
  (payload.scanCompleteness.map fun summary =>
    (summary.provider,summary.connectionId,normalizeRegion rt summary.region)) ++
  (observations rt now payload).map fun entry =>
    (entry.1.provider,entry.1.connectionId,entry.1.region.1)

def resolveUnseen (rt : Runtime) (now : Int) (inScope : List Scope) (seen : List (FindingKey rt))
    (findings : Findings rt) : Findings rt :=
  findings.mapRows fun key row =>
    if (key.provider,key.connectionId,normalizeRegion rt key.region.1) ∉ inScope then row
    else if key ∈ seen then row
    else if row.status = .resolved then row
    else { row with status := .resolved,resolvedAt := some now }

/-- `persist_scan_findings`. -/
def persistScanFindings (rt : Runtime) (now : Int) (payload : Payload)
    (findings : Findings rt) : Findings rt :=
  let observed := observations rt now payload
  let written := observed.foldl upsert findings
  if payload.partialResults then written
  else resolveUnseen rt now (scopes rt now payload) (observed.map Prod.fst) written

inductive ScanAnswer where
  | noConnections
  | report (payload : Payload)

/-- `scan_for_tenant`; an exception that leaves it leaves the findings as they were. -/
def scanForTenant (rt : Runtime) (scan : TenantScan) (findings : Findings rt) :
    Except Failure ScanAnswer × Findings rt :=
  if scan.scannedConnections = 0 then (.ok .noConnections,findings)
  else match mergeSteps rt scan.features (.initial scan.scannedConnections) scan.steps with
    | .error error => (.error error,findings)
    | .ok payload => (.ok (.report payload),persistScanFindings rt scan.now payload findings)

end Valdrics.ZombieScan

import Valdrics.DecimalContext
import Valdrics.JsonValues

/-! The detectors of unused resources: the plugins of each provider, how the outcome of a plugin
becomes items and metadata, and how `scan_all` gathers them for one region. -/
namespace Valdrics.ZombieScan

open Enforcement (Json Uuid)
open PythonText

abbrev Item := List (String × Json)

def assign (members : List (String × α)) (key : String) (value : α) : List (String × α) :=
  if members.any (·.1 = key) then members.map fun e => if e.1 = key then (key,value) else e
  else members ++ [(key,value)]

theorem assign_fresh {members : List (String × α)} {key : String} {value : α}
    (fresh : key ∉ members.map Prod.fst) : assign members key value = members ++ [(key,value)] := by
  have absent : members.any (·.1 = key) = false := by
    simp only [List.any_eq_false,decide_eq_true_eq]
    rintro e member rfl
    exact fresh (List.mem_map.mpr ⟨e,member,rfl⟩)
  simp [assign,absent]

theorem mem_assign {members : List (String × α)} {key : String} {value : α} {e : String × α}
    (listed : e ∈ assign members key value) : e ∈ members ∨ e = (key,value) := by
  unfold assign at listed
  split at listed
  · obtain ⟨old,there,rfl⟩ := List.mem_map.mp listed
    by_cases same : old.1 = key
    · exact .inr (by simp [same])
    · exact .inl (by simpa [same] using there)
  · simpa using listed

theorem assign_nodup {members : List (String × α)} {key : String} {value : α}
    (distinct : (members.map Prod.fst).Nodup) :
    ((assign members key value).map Prod.fst).Nodup := by
  by_cases present : members.any (·.1 = key) = true
  · have keys : (assign members key value).map Prod.fst = members.map Prod.fst := by
      simp only [assign,present,if_true,List.map_map]
      apply List.map_congr_left
      intro e _
      by_cases same : e.1 = key <;> simp [same]
    rwa [keys]
  · have absent : key ∉ members.map Prod.fst := by simpa using present
    rw [assign_fresh absent,List.map_append]
    exact List.nodup_append_comm.mp (List.nodup_cons.mpr ⟨absent,distinct⟩)

theorem foldl_assign {done todo : List (String × α)}
    (distinct : ((done ++ todo).map Prod.fst).Nodup) :
    todo.foldl (fun members entry => assign members entry.1 entry.2) done = done ++ todo := by
  induction todo generalizing done with
  | nil => simp
  | cons entry todo ih =>
    have fresh : entry.1 ∉ done.map Prod.fst := by
      rw [List.map_append,List.map_cons] at distinct
      exact fun there => (List.nodup_append.mp distinct).2.2 _ there _ List.mem_cons_self rfl
    rw [List.foldl_cons,assign_fresh fresh,ih (by simpa using distinct)]
    simp

/-- Lower-casing, and what `str` prints of numbers and of containers. -/
structure Runtime where
  text : Lowercase
  floatText : Decimal → String
  repr : Json → String
  viaFloat : Decimal → Decimal := id

/-- `str(value)`. -/
def Runtime.str (rt : Runtime) : Json → String
  | .null => "None"
  | .bool true => "True"
  | .bool false => "False"
  | .int value => toString value
  | .float value => rt.floatText value
  | .str value => value
  | value => rt.repr value

/-- `type(value).__name__`. -/
def typeName : Json → String
  | .null => "NoneType"
  | .bool _ => "bool"
  | .int _ => "int"
  | .float _ => "float"
  | .str _ => "str"
  | .arr _ => "list"
  | .obj _ => "dict"

inductive ErrorClass where
  | externalApiError | runtimeError | osError | timeoutError | valueError | typeError | keyError
  | lookupError | attributeError | arithmeticError | httpError | googleApiError | googleAuthError
  | other
  deriving DecidableEq, Repr

namespace ErrorClass

def mro : ErrorClass → List ErrorClass
  | .timeoutError => [.timeoutError,.osError]
  | .keyError => [.keyError,.lookupError]
  | cls => [cls]

def isInstance (cls : ErrorClass) (errors : List ErrorClass) : Bool := cls.mro.any (· ∈ errors)

end ErrorClass

/-- An exception: its nearest class of the list, `type(e).__name__` and `str(e)`. -/
structure Failure where
  cls : ErrorClass
  typeName : String
  text : String
  deriving DecidableEq

/-- `ZOMBIE_SCAN_RECOVERABLE_EXCEPTIONS` of the detectors; the plugins' list is the same. -/
def zombieScanRecoverableExceptions : List ErrorClass :=
  [.externalApiError,.runtimeError,.osError,.timeoutError,.valueError,.typeError,.keyError,
    .lookupError,.attributeError]

def azureDetectorPluginScanRecoverableExceptions : List ErrorClass :=
  [.externalApiError,.runtimeError,.osError,.timeoutError,.typeError,.valueError,.keyError,
    .attributeError]

def gcpDetectorPluginScanRecoverableExceptions : List ErrorClass :=
  [.externalApiError,.googleApiError,.googleAuthError,.runtimeError,.osError,.timeoutError,.typeError,
    .valueError,.keyError,.attributeError]

inductive Provider where
  | aws | azure | gcp | saas | license | platform | hybrid
  deriving DecidableEq, Repr

namespace Provider

/-- `provider_name`. -/
def name : Provider → String
  | .aws => "aws"
  | .azure => "azure"
  | .gcp => "gcp"
  | .saas => "saas"
  | .license => "license"
  | .platform => "platform"
  | .hybrid => "hybrid"

/-- The `category_key` of each plugin, in the order of registration. -/
def registered : Provider → List String
  | .aws => ["unattached_volumes","old_snapshots","idle_s3_buckets","empty_efs_volumes",
      "unused_elastic_ips","idle_instances","orphan_load_balancers","underused_nat_gateways",
      "idle_cloudfront_distributions","idle_rds_databases","cold_redshift_clusters",
      "idle_dynamodb_tables","idle_sagemaker_endpoints","stale_ecr_images","customer_managed_kms_keys",
      "idle_opensearch_domains","overprovisioned_ec2_instances","idle_eks_clusters",
      "idle_elasticache_clusters","idle_sagemaker_notebooks","stopped_instances_with_ebs",
      "unused_lambda_functions","orphan_vpc_endpoints"]
  | .azure => ["idle_azure_vms","idle_azure_gpu_vms","stopped_azure_vms","unattached_azure_disks",
      "old_azure_snapshots","orphan_azure_ips","orphan_azure_nics","orphan_azure_nsgs","idle_azure_sql",
      "idle_azure_aks","unused_azure_app_service_plans","idle_azure_openai","idle_ai_search",
      "overprovisioned_azure_vms"]
  | .gcp => ["idle_gcp_vms","idle_gcp_gpu_instances","stopped_gcp_instances","unattached_gcp_disks",
      "old_gcp_snapshots","orphan_gcp_ips","idle_gcp_cloud_sql","empty_gke_clusters","idle_cloud_run",
      "idle_cloud_functions","idle_vertex_ai_endpoints","idle_vector_search_indices",
      "overprovisioned_gcp_instances"]
  | .saas => ["unused_license_seats","idle_saas_subscriptions"]
  | .license => ["unused_license_seats"]
  | .platform => ["idle_platform_services"]
  | .hybrid => ["idle_hybrid_resources"]

/-- `ALLOWED_PLUGIN_CATEGORIES`; the AWS detector takes every plugin. -/
def allowedPluginCategories : Provider → Option (List String)
  | .aws => none
  | .azure => some ["idle_azure_vms","idle_azure_gpu_vms","unattached_azure_disks",
      "old_azure_snapshots","orphan_azure_ips","orphan_azure_nics","orphan_azure_nsgs","idle_azure_sql",
      "idle_azure_aks","unused_azure_app_service_plans"]
  | .gcp => some ["idle_gcp_vms","idle_gcp_gpu_instances","unattached_gcp_disks","old_gcp_snapshots",
      "orphan_gcp_ips","idle_gcp_cloud_sql","empty_gke_clusters","idle_cloud_run",
      "idle_cloud_functions"]
  | .saas => some ["idle_saas_subscriptions","unused_license_seats"]
  | .license => some ["unused_license_seats"]
  | .platform => some ["idle_platform_services"]
  | .hybrid => some ["idle_hybrid_resources"]

/-- `_initialize_plugins`. -/
def plugins (provider : Provider) : List String :=
  match provider.allowedPluginCategories with
  | none => provider.registered
  | some allowed => provider.registered.filter (· ∈ allowed)

/-- No two plugins of a detector write the same key of its results. -/
theorem plugins_nodup (provider : Provider) : provider.plugins.Nodup := by
  cases provider <;> decide

end Provider

inductive PluginOutcome where
  | returned (value : Json)
  | raised (error : Failure)
  | timedOut

structure PluginRun where
  outcome : PluginOutcome
  callback : Option Failure := none

structure PluginMetadata where
  status : String
  error : Option String := none
  errorType : Option String := none
  itemCount : Nat := 0
  validatedItemCount : Nat := 0
  deriving DecidableEq

namespace PluginMetadata

def ok : PluginMetadata := { status := "ok" }

def timeout : PluginMetadata :=
  { status := "timeout",error := some "Plugin scan timed out",errorType := some "TimeoutError" }

def failed (error : Failure) : PluginMetadata :=
  { status := "failed",error := some error.text,errorType := some error.typeName }

end PluginMetadata

def listItems : Json → List Json
  | .arr items => items
  | _ => []

def listOrEmpty (value : Json) : Json := .arr (listItems value)

/-- Azure and GCP: no call without credentials, and an empty scan for a failed one. -/
def guardedPluginScan (usable : Bool) (errors : List ErrorClass) : PluginOutcome → PluginOutcome
  | outcome =>
    if ¬usable then .returned (.arr [])
    else match outcome with
      | .returned value => .returned (listOrEmpty value)
      | .raised error => if error.cls.isInstance errors then .returned (.arr []) else .raised error
      | .timedOut => .timedOut

/-- The feeds of the other providers: no exception is caught. -/
def feedPluginScan : PluginOutcome → PluginOutcome
  | .returned value => .returned (listOrEmpty value)
  | outcome => outcome

/-- `_execute_plugin_scan`; `usable` tells that the detector has what it needs to sign in. -/
def executePluginScan (usable : Bool) (outcome : PluginOutcome) : Provider → PluginOutcome
  | .aws => outcome
  | .azure => guardedPluginScan usable azureDetectorPluginScanRecoverableExceptions outcome
  | .gcp => guardedPluginScan usable gcpDetectorPluginScanRecoverableExceptions outcome
  | _ => feedPluginScan outcome

/-- `_run_plugin_with_timeout`, the callback and the result that `gather` hands over; an
exception that the wrapper does not list and one of the callback count as a failed plugin. -/
def runPluginWithTimeout (run : PluginRun) (outcome : PluginOutcome) : Json × PluginMetadata :=
  let wrapped := match outcome with
    | .returned value => (value,.ok)
    | .timedOut => (.arr [],.timeout)
    | .raised error =>
      if error.cls = .timeoutError then (.arr [],.timeout) else (.arr [],.failed error)
  match outcome, run.callback with
  | .raised error, callback =>
    if error.cls.isInstance zombieScanRecoverableExceptions then
      match callback with
      | some later => (.arr [],.failed later)
      | none => wrapped
    else wrapped
  | _, some error => (.arr [],.failed error)
  | _, none => wrapped

/-- `for item in items`. -/
def iterate : Json → Except Failure (List Json)
  | .arr items => .ok items
  | .obj members => .ok (members.map fun e => .str e.1)
  | .str value => .ok (value.toList.map fun c => .str (String.singleton c))
  | value => .error ⟨.typeError,"TypeError","'" ++ typeName value ++ "' object is not iterable"⟩

def validate (region : String) : List Json → Except Failure (List Item)
  | [] => .ok []
  | .obj members :: rest =>
    if (members.lookup "region").all (JsonValue.equals · (.str region)) then
      (validate region rest).map (assign members "region" (.str region) :: ·)
    else validate region rest
  | value :: _ =>
    .error ⟨.attributeError,"AttributeError","'" ++ typeName value ++ "' object has no attribute 'get'"⟩

def validateItems (region : String) (items : Json) : Except Failure (List Json × List Item) :=
  (iterate items).bind fun values => (validate region values).map fun kept => (values,kept)

structure Inventory where
  discoveryMethod : String
  totalCount : Int

structure InventoryMetadata where
  status : String
  method : String
  resourceCount : Int
  coverageLimitations : Option String
  deriving DecidableEq

def coverageLimitationText : String :=
  "Inventory was derived from native fallback discovery and may not " ++
    "cover the full AWS account resource surface."

/-- `_inventory_scan_metadata`. -/
def inventoryScanMetadata (inventory : Inventory) : InventoryMetadata :=
  let method := strip inventory.discoveryMethod
  let status := if method = "native-api-fallback-partial" then "partial"
    else if method = "native-api-fallback-degraded" then "degraded" else "ok"
  { status
    method := if method = "" then "unknown" else method
    resourceCount := inventory.totalCount
    coverageLimitations := if status = "ok" then none else some coverageLimitationText }

structure ScanResults where
  items : List (String × List Item)
  plugins : List (String × PluginMetadata) := []
  degraded : Bool := false
  errorCount : Nat := 0
  overallError : Option String := none
  inventory : Option InventoryMetadata := none
  error : Option String := none

namespace ScanResults

def initial (categories : List String) : ScanResults :=
  { items := categories.foldl (fun items category => assign items category []) [] }

def record (results : ScanResults) (category : String) (count : Nat) (kept : List Item)
    (metadata : PluginMetadata) : ScanResults :=
  { results with
    items := assign results.items category kept
    plugins := assign results.plugins category
      { metadata with itemCount := count,validatedItemCount := kept.length }
    degraded := results.degraded || metadata.status ≠ "ok"
    errorCount := if metadata.status ≠ "ok" then results.errorCount + 1 else results.errorCount }

def aggregate (region : String) (results : ScanResults) :
    List (String × Json × PluginMetadata) → ScanResults × Option Failure
  | [] => (results,none)
  | (category,items,metadata) :: rest =>
    match validateItems region items with
    | .error error => (results,some error)
    | .ok (values,kept) => (results.record category values.length kept metadata).aggregate region rest

def fail (results : ScanResults) (error : Failure) : ScanResults :=
  { results with
    error := some error.text
    degraded := true
    overallError := some error.text
    errorCount := results.errorCount + 1 }

end ScanResults

/-- What the decimal module raises; it is no `ValueError`. -/
def invalidOperation : Failure :=
  ⟨.arithmeticError,"InvalidOperation","[<class 'decimal.InvalidOperation'>]"⟩

/-- `total += Decimal(str(item.get("monthly_cost", 0)))`. -/
def addCosts (rt : Runtime) (total : DecimalValue) : List Item → Option DecimalValue
  | [] => some total
  | item :: rest =>
    (Decimal.parse (rt.str ((item.lookup "monthly_cost").getD (.int 0)))).bind fun cost =>
      (total.add cost).bind fun total => addCosts rt total rest

/-- Whether `round(total, 2)` is a number of the context. -/
def roundable : DecimalValue → Bool
  | .finite total => (total.columnUnits 2).natAbs < 10 ^ Decimal.contextDigits
  | .infinite _ => false
  | .nan _ => true

/-- What the computation of the total raises; nothing that follows reads the total. -/
def totalMonthlyWaste (rt : Runtime) (items : List Item) : Option Failure :=
  if (addCosts rt (.finite ⟨0,0⟩) items).any roundable then none else some invalidOperation

structure RegionScan where
  region : String
  connectionRegion : String
  named : region ≠ "" := by decide
  placed : connectionRegion ≠ "" := by decide
  usable : Bool := true
  inventory : Except Failure (Option Inventory) := .ok none
  plugin : String → PluginRun

namespace RegionScan

variable (rt : Runtime) (provider : Provider) (scan : RegionScan)

def detectorRegion : String :=
  match provider with
  | .aws => if scan.region = "global" then scan.connectionRegion else scan.region
  | _ => scan.region

/-- `region_override`. -/
def regionOverride : Option String :=
  match provider with
  | .aws => some scan.region
  | _ => if scan.region = "global" then none else some scan.region

/-- A plugin's result as `gather` hands it over. -/
def pluginResult (category : String) : Json × PluginMetadata :=
  runPluginWithTimeout (scan.plugin category)
    (executePluginScan scan.usable (scan.plugin category).outcome provider)

def gather : ScanResults × Option Failure :=
  (ScanResults.initial provider.plugins).aggregate (scan.detectorRegion provider)
    (provider.plugins.map fun category => (category,scan.pluginResult provider category))

/-- `BaseZombieDetector.scan_all`. -/
def scanPlugins : Except Failure ScanResults :=
  let gathered := scan.gather provider
  let raised := match gathered.2 with
    | some error => some error
    | none => totalMonthlyWaste rt (gathered.1.items.flatMap Prod.snd)
  match raised with
  | none => .ok gathered.1
  | some error =>
    if error.cls.isInstance zombieScanRecoverableExceptions then .ok (gathered.1.fail error)
    else .error error

/-- `_apply_inventory_completeness`. -/
def applyInventoryCompleteness (results : ScanResults) : Option Inventory → ScanResults
  | none => results
  | some inventory =>
    let metadata := inventoryScanMetadata inventory
    if metadata.status = "ok" then { results with inventory := some metadata }
    else { results with
      inventory := some metadata
      degraded := true
      errorCount := results.errorCount + 1 }

/-- `scan_all` of the provider's detector. -/
def scanAll : Except Failure ScanResults :=
  match provider with
  | .aws =>
    scan.inventory.bind fun inventory =>
      (scan.scanPlugins rt .aws).map (applyInventoryCompleteness · inventory)
  | provider => scan.scanPlugins rt provider

end RegionScan

end Valdrics.ZombieScan

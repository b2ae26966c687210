import Valdrics.ScanSoundness

/-! The results of the regions of a tenant's connections, merged in the order in which their scans
end: what of the payload depends on the order, and whose items a degraded inventory puts under
review. -/
namespace Valdrics.ZombieScan

open Enforcement (Json Uuid)
open PythonText

/-- What one scan of a connection gives to merge: the region that overrides those of the items, if
there is one, and the region of the completeness summary. An empty status of the inventory reads as
"ok" and stands as such. -/
structure RegionalResult where
  connection : Connection
  regionOverride : Option String
  summaryRegion : String
  results : ScanResults
  named : ∀ inventory, results.inventory = some inventory → inventory.status ≠ ""

structure ScanState where
  payload : Payload
  totalWaste : ℚ

namespace RegionalResult

variable (rt : Runtime) (features : Features) (r : RegionalResult)

/-- `region_override or completeness.get("region") or "global"`. -/
def region : String := orDefault (orDefault (r.regionOverride.getD "") r.summaryRegion) "global"

def gate (reported : Reported) : Reported :=
  if r.results.degraded then
    match r.results.inventory with
    | some inventory =>
      if inventory.status = "ok" then reported
      else markManualReview rt r.connection r.region inventory reported
    | none => reported
  else reported

def kept (key : String) : List Reported :=
  (r.results.items.filter (uiKey ·.1 = key)).flatMap fun entry =>
    entry.2.filterMap (stamp rt features r.connection r.regionOverride)

def items : List Reported :=
  r.results.items.flatMap fun entry =>
    entry.2.filterMap (stamp rt features r.connection r.regionOverride)

def costs : List ℚ :=
  (r.results.items.flatMap fun entry => entry.2.filterMap (coerceMonthlyCost rt)).map (·.inUnits 0)

def invalid : List ErrorEntry :=
  r.results.items.flatMap fun entry =>
    entry.2.filterMap (invalidCost rt r.connection r.regionOverride (uiKey entry.1))

def degradedErrors : List ErrorEntry :=
  if r.results.degraded then
    pluginErrors r.connection r.region r.results.plugins ++
      match r.results.inventory with
      | some inventory =>
        if inventory.status = "ok" then [] else [inventoryError r.connection r.region inventory]
      | none => []
  else []

def summary : Summary where
  provider := r.connection.provider
  connectionId := r.connection.id
  connectionName := r.connection.name
  region := r.region
  degraded := r.results.degraded
  errorCount := r.results.errorCount
  plugins := r.results.plugins
  inventoryDiscovery := r.results.inventory

end RegionalResult

namespace ScanState

variable (rt : Runtime) (features : Features)

def initial (scannedConnections : Nat) : ScanState := ⟨.initial scannedConnections,0⟩

/-- `merge_scan_results` with the running total. -/
def merge (state : ScanState) (r : RegionalResult) : ScanState where
  payload := state.payload.mergeScanResults rt features r.connection r.regionOverride r.region
    r.results
  totalWaste := (r.costs rt).foldl (· + ·) state.totalWaste

def run (scannedConnections : Nat) (order : List RegionalResult) : ScanState :=
  order.foldl (merge rt features) (initial scannedConnections)

end ScanState

/-- The results of a scan, one for each connection and region. No category of them is called like
an entry of the payload that is no bucket. -/
structure ScanSet where
  scannedConnections : Nat
  results : List RegionalResult
  distinct : (results.map fun r => (r.connection.id,r.region)).Nodup
  categories : ∀ r ∈ results, ∀ entry ∈ r.results.items,
    uiKey entry.1 ∉ ["errors","scanned_connections","partial_results","scan_completeness"]

/-- `item["monthly_cost"]`. -/
def Reported.cost (reported : Reported) : ℚ :=
  match reported.item.entry "monthly_cost" with
  | .float cost => cost.inUnits 0
  | _ => 0

def Payload.items (payload : Payload) : List Reported := payload.buckets.rows.flatMap Prod.snd

structure Payload.Alike (a b : Payload) : Prop where
  keys : ∀ key, (a.buckets.find key).isSome = (b.buckets.find key).isSome
  buckets : ∀ key, (a.bucket key).Perm (b.bucket key)
  errors : a.errors.Perm b.errors
  scanCompleteness : a.scanCompleteness.Perm b.scanCompleteness
  scannedConnections : a.scannedConnections = b.scannedConnections
  partialResults : a.partialResults = b.partialResults
  scanTimeout : a.scanTimeout = b.scanTimeout

/-- What an item has become after the merge of its own result and the later ones. -/
def ending (rt : Runtime) (r : RegionalResult) (later : List RegionalResult)
    (reported : Reported) : Reported :=
  later.foldl (fun reported s => s.gate rt reported) (r.gate rt reported)

structure Change where
  gate : Reported → Reported := id
  kept : String → List Reported := fun _ => []
  items : List Reported := []
  categories : String → Bool := fun _ => false
  errors : List ErrorEntry := []
  summaries : List Summary := []
  isPartial : Bool := false

namespace Change

structure Makes (c : Change) (payload merged : Payload) : Prop where
  bucket : ∀ key, merged.bucket key = (payload.bucket key).map c.gate ++ c.kept key
  keys : ∀ key, (merged.buckets.find key).isSome =
    ((payload.buckets.find key).isSome || c.categories key)
  items : merged.items.Perm (payload.items.map c.gate ++ c.items)
  errors : merged.errors = payload.errors ++ c.errors
  scanCompleteness : merged.scanCompleteness = payload.scanCompleteness ++ c.summaries
  partialResults : merged.partialResults = (payload.partialResults || c.isPartial)
  scannedConnections : merged.scannedConnections = payload.scannedConnections
  scanTimeout : merged.scanTimeout = payload.scanTimeout

def andThen (c d : Change) : Change where
  gate := d.gate ∘ c.gate
  kept key := (c.kept key).map d.gate ++ d.kept key
  items := c.items.map d.gate ++ d.items
  categories key := c.categories key || d.categories key
  errors := c.errors ++ d.errors
  summaries := c.summaries ++ d.summaries
  isPartial := c.isPartial || d.isPartial

theorem Makes.andThen {c d : Change} {payload middle merged : Payload}
    (first : c.Makes payload middle) (second : d.Makes middle merged) :
    (c.andThen d).Makes payload merged where
  bucket key := by
    rw [second.bucket,first.bucket,List.map_append,List.map_map,List.append_assoc]
    rfl
  keys key := by rw [second.keys,first.keys,Bool.or_assoc,Change.andThen]
  items := by
    refine second.items.trans (((first.items.map d.gate).append_right d.items).trans ?_)
    rw [List.map_append,List.map_map,List.append_assoc]
    exact List.Perm.refl _
  errors := by rw [second.errors,first.errors,List.append_assoc,Change.andThen]
  scanCompleteness := by
    rw [second.scanCompleteness,first.scanCompleteness,List.append_assoc,Change.andThen]
  partialResults := by
    rw [second.partialResults,first.partialResults,Bool.or_assoc,Change.andThen]
  scannedConnections := second.scannedConnections.trans first.scannedConnections
  scanTimeout := second.scanTimeout.trans first.scanTimeout

theorem Makes.notes {payload merged : Payload} {errors : List ErrorEntry}
    {summaries : List Summary} {isPartial : Bool} (buckets : merged.buckets = payload.buckets)
    (added : merged.errors = payload.errors ++ errors)
    (summarized : merged.scanCompleteness = payload.scanCompleteness ++ summaries)
    (marked : merged.partialResults = (payload.partialResults || isPartial))
    (scannedConnections : merged.scannedConnections = payload.scannedConnections)
    (scanTimeout : merged.scanTimeout = payload.scanTimeout) :
    Makes { errors,summaries,isPartial } payload merged where
  bucket key := by simp [Payload.bucket,buckets]
  keys key := by simp [buckets]
  items := by simp [Payload.items,buckets]
  errors := added
  scanCompleteness := summarized
  partialResults := marked
  scannedConnections := scannedConnections
  scanTimeout := scanTimeout

end Change

section Merge

variable {rt : Runtime} {features : Features} {r : RegionalResult} {payload : Payload}
  {key : String}

def RegionalResult.listed (rt : Runtime) (features : Features) (r : RegionalResult)
    (entries : List (String × List Item)) : Change where
  kept key := (entries.filter (uiKey ·.1 = key)).flatMap fun entry =>
    entry.2.filterMap (stamp rt features r.connection r.regionOverride)
  items := entries.flatMap fun entry =>
    entry.2.filterMap (stamp rt features r.connection r.regionOverride)
  categories key := entries.any (uiKey ·.1 = key)
  errors := entries.flatMap fun entry =>
    entry.2.filterMap (invalidCost rt r.connection r.regionOverride (uiKey entry.1))
  isPartial := !(entries.flatMap fun entry =>
    entry.2.filterMap (invalidCost rt r.connection r.regionOverride (uiKey entry.1))).isEmpty

def RegionalResult.degrading (rt : Runtime) (r : RegionalResult) : Change where
  gate := r.gate rt
  errors := r.degradedErrors
  isPartial := r.results.degraded

def RegionalResult.failing (r : RegionalResult) (error : Option String) : Change where
  errors := (error.map (scanError r.connection r.region)).toList
  isPartial := error.isSome

def RegionalResult.change (rt : Runtime) (features : Features) (r : RegionalResult) : Change :=
  ((((r.listed rt features r.results.items).andThen { summaries := [r.summary] }).andThen
    (r.degrading rt)).andThen (r.failing (r.results.overallError.filter (· ≠ "")))).andThen
      (r.failing (r.results.error.filter (· ≠ "")))

def changes (rt : Runtime) (features : Features) : List RegionalResult → Change
  | [] => {}
  | r :: later => (r.change rt features).andThen (changes rt features later)

end Merge

section Runs

variable {rt : Runtime} {features : Features} {r : RegionalResult}

end Runs

section Orders

variable {rt : Runtime} {features : Features} {scan : ScanSet}

end Orders

section Detectors

variable {rt : Runtime} {features : Features} {r s : RegionalResult}

end Detectors

namespace Sample

def account : Connection := ⟨7,.aws,"production"⟩

def virginia : RegionalResult where
  connection := account
  regionOverride := some "us-east-1"
  summaryRegion := "us-east-1"
  results := { items := [("idle_instances",[[("resource_id",.str "i-1")]])] }
  named := by rintro _ ⟨⟩

def everywhere : RegionalResult where
  connection := account
  regionOverride := none
  summaryRegion := "global"
  results := { items := [],degraded := true,inventory := some ⟨"partial","",0,none⟩ }
  named := by
    rintro _ ⟨⟩
    decide

def both : ScanSet where
  scannedConnections := 1
  results := [virginia,everywhere]
  distinct := by decide
  categories := by decide

end Sample

end Valdrics.ZombieScan

import Mathlib.Algebra.Order.Field.Rat
import Valdrics.DateOrder
import Valdrics.JsonValues
import Valdrics.RankedTotals
import Valdrics.RemediationModels

/-! The proof of savings of a tenant over a window, and its drilldowns by provider, by type of strategy,
by remediation action and by category of finding. Amounts are as they are before they are rounded. -/
namespace Valdrics.SavingsProof

open Enforcement (Json Uuid)
open Optimization (RemediationAction RemediationStatus)
open PythonText
open DateText (isoFormat)
open Ranking (record)

@[ext] structure Figures where
  opportunityMonthlyUsd : Rat := 0
  realizedMonthlyUsd : Rat := 0
  openRecommendations : Nat := 0
  appliedRecommendations : Nat := 0
  pendingRemediations : Nat := 0
  completedRemediations : Nat := 0
  deriving DecidableEq

namespace Figures

instance : Zero Figures := ⟨{}⟩

instance : Add Figures := ⟨fun a b =>
  { opportunityMonthlyUsd := a.opportunityMonthlyUsd + b.opportunityMonthlyUsd
    realizedMonthlyUsd := a.realizedMonthlyUsd + b.realizedMonthlyUsd
    openRecommendations := a.openRecommendations + b.openRecommendations
    appliedRecommendations := a.appliedRecommendations + b.appliedRecommendations
    pendingRemediations := a.pendingRemediations + b.pendingRemediations
    completedRemediations := a.completedRemediations + b.completedRemediations }⟩

@[simp] theorem add_opportunity (a b : Figures) :
    (a + b).opportunityMonthlyUsd = a.opportunityMonthlyUsd + b.opportunityMonthlyUsd := rfl
@[simp] theorem add_realized (a b : Figures) :
    (a + b).realizedMonthlyUsd = a.realizedMonthlyUsd + b.realizedMonthlyUsd := rfl
@[simp] theorem add_open (a b : Figures) :
    (a + b).openRecommendations = a.openRecommendations + b.openRecommendations := rfl
@[simp] theorem add_applied (a b : Figures) :
    (a + b).appliedRecommendations = a.appliedRecommendations + b.appliedRecommendations := rfl
@[simp] theorem add_pending (a b : Figures) :
    (a + b).pendingRemediations = a.pendingRemediations + b.pendingRemediations := rfl
@[simp] theorem add_completed (a b : Figures) :
    (a + b).completedRemediations = a.completedRemediations + b.completedRemediations := rfl

@[simp] theorem zero_opportunity : (0 : Figures).opportunityMonthlyUsd = 0 := rfl
@[simp] theorem zero_realized : (0 : Figures).realizedMonthlyUsd = 0 := rfl
@[simp] theorem zero_open : (0 : Figures).openRecommendations = 0 := rfl
@[simp] theorem zero_applied : (0 : Figures).appliedRecommendations = 0 := rfl
@[simp] theorem zero_pending : (0 : Figures).pendingRemediations = 0 := rfl
@[simp] theorem zero_completed : (0 : Figures).completedRemediations = 0 := rfl

instance : AddCommMonoid Figures where
  add_assoc a b c := by ext <;> simp [add_assoc]
  zero_add a := by ext <;> simp
  add_zero a := by ext <;> simp
  add_comm a b := by ext <;> simp [add_comm]
  nsmul := nsmulRec

end Figures

structure OptimizationStrategy where
  type : String
  provider : String

structure StrategyRecommendation where
  tenantId : Uuid
  strategyId : Uuid
  status : String
  appliedAt : Option Nat
  estimatedMonthlySavings : Rat

structure RemediationRequest where
  id : Uuid
  tenantId : Uuid
  provider : String
  action : RemediationAction
  status : RemediationStatus
  estimatedMonthlySavings : Option Rat
  executedAt : Option Nat
  updatedAt : Option Nat
  createdAt : Nat
  findingSnapshot : Option Json

structure RealizedSavingsEvent where
  tenantId : Uuid
  remediationRequestId : Uuid
  provider : String
  findingCategory : Option String
  realizedMonthlySavingsUsd : Rat

structure Books where
  text : Lowercase
  /-- `str` of a value that is not a text. -/
  jsonText : Json → String
  strategies : Table Uuid OptimizationStrategy
  recommendations : List StrategyRecommendation
  requests : List RemediationRequest
  events : List RealizedSavingsEvent
  eventKeys : (events.map fun event => (event.tenantId,event.remediationRequestId)).Nodup
  strategyProviders : ∀ row ∈ strategies.rows, text.lower row.2.provider = row.2.provider
  requestProviders : ∀ request ∈ requests, text.lower request.provider = request.provider
  eventProviders : ∀ event ∈ events, text.lower event.provider = event.provider

structure ProofQuery where
  tenantId : Uuid
  tier : String
  startDate : Nat
  endDate : Nat
  provider : Option String

namespace ProofQuery

variable (query : ProofQuery)

def windowStart : Nat := query.startDate * Calendar.microsPerDay
def windowEnd : Nat := query.endDate * Calendar.microsPerDay + (Calendar.microsPerDay - 1)

def within (instant : Nat) : Bool := query.windowStart ≤ instant && instant ≤ query.windowEnd

def normalizedProvider (text : Lowercase) : Option String :=
  match query.provider with
  | none => none
  | some provider => if provider = "" then none else some (text.lower (strip provider))

def filtered (text : Lowercase) : Option String := (query.normalizedProvider text).filter (· ≠ "")

end ProofQuery

structure SavingsProofResponse extends Figures where
  startDate : String
  endDate : String
  tier : String
  breakdown : List (String × Figures)
  notes : List String

def pendingStatuses : List RemediationStatus :=
  [.pending,.pendingApproval,.approved,.scheduled,.executing]

namespace Books

variable (books : Books) (query : ProofQuery)

def recommendationRows (keep : StrategyRecommendation → Bool) :
    List (StrategyRecommendation × OptimizationStrategy) :=
  (books.recommendations.filter fun rec => rec.tenantId = query.tenantId && keep rec).filterMap
    fun rec => (books.strategies.find rec.strategyId).map fun strategy => (rec,strategy)

def isOpen (rec : StrategyRecommendation) : Bool := rec.status = "open"

def isApplied (rec : StrategyRecommendation) : Bool :=
  rec.status = "applied" && rec.appliedAt.any query.within

def pendingRequests : List RemediationRequest :=
  books.requests.filter fun request =>
    request.tenantId = query.tenantId && request.status ∈ pendingStatuses

def completedAt (request : RemediationRequest) : Option Nat :=
  request.executedAt <|> request.updatedAt <|> some request.createdAt

def completedRequests : List RemediationRequest :=
  books.requests.filter fun request =>
    request.tenantId = query.tenantId && request.status = .completed &&
      (completedAt request).any query.within

def eventsByRequest (events : List RealizedSavingsEvent) (requests : List RemediationRequest) :
    Table Uuid RealizedSavingsEvent :=
  (events.filter fun event => event.tenantId = query.tenantId &&
      event.remediationRequestId ∈ requests.map RemediationRequest.id).foldl
    (fun byRequest event => byRequest.upsert event.remediationRequestId event fun _ => event) .empty

def asFloat (value : Option Rat) : Rat := value.getD 0

def realizedSavings (event : Option RealizedSavingsEvent) (request : RemediationRequest) : Rat :=
  match event with
  | some event => event.realizedMonthlySavingsUsd
  | none => asFloat request.estimatedMonthlySavings

def knownProviders : List String :=
  ["aws","azure","gcp","hybrid","license","platform","saas"]

def openBreakdown (providers : List String) : Table String Figures :=
  providers.foldl (fun breakdown provider => breakdown.upsert provider 0 id) .empty

/-- Figures added to the row of a provider; a provider without a row is passed over. -/
def enter (breakdown : Table String Figures) (entry : String × Figures) : Table String Figures :=
  breakdown.update (books.text.lower entry.1) fun row => row + entry.2

def sumFigures (rows : List (String × Figures)) : Figures where
  opportunityMonthlyUsd := (rows.map fun row => row.2.opportunityMonthlyUsd).sum
  realizedMonthlyUsd := (rows.map fun row => row.2.realizedMonthlyUsd).sum
  openRecommendations := (rows.map fun row => row.2.openRecommendations).sum
  appliedRecommendations := (rows.map fun row => row.2.appliedRecommendations).sum
  pendingRemediations := (rows.map fun row => row.2.pendingRemediations).sum
  completedRemediations := (rows.map fun row => row.2.completedRemediations).sum

def ofProvider {α : Type} (provider : α → String) (rows : List α) : List α :=
  match query.filtered books.text with
  | some normalized => rows.filter fun row => books.text.lower (provider row) = normalized
  | none => rows

def generate : Except String SavingsProofResponse :=
  if query.startDate > query.endDate then .error "start_date must be <= end_date"
  else
    let openRecsRows := books.ofProvider query (fun row => row.2.provider)
      (books.recommendationRows query isOpen)
    let appliedRows := books.ofProvider query (fun row => row.2.provider)
      (books.recommendationRows query (isApplied query))
    let pendingRems := books.ofProvider query RemediationRequest.provider (books.pendingRequests query)
    let completedRems := books.ofProvider query RemediationRequest.provider
      (books.completedRequests query)
    let providers := match query.filtered books.text with
      | some normalized => [normalized]
      | none => knownProviders
    let realizedEvents := eventsByRequest query books.events completedRems
    let breakdown := openBreakdown providers
    let breakdown := (openRecsRows.map fun row => (row.2.provider,
      ({ openRecommendations := 1
         opportunityMonthlyUsd := row.1.estimatedMonthlySavings } : Figures))).foldl books.enter breakdown
    let breakdown := (appliedRows.map fun row => (row.2.provider,
      ({ appliedRecommendations := 1
         realizedMonthlyUsd := row.1.estimatedMonthlySavings } : Figures))).foldl books.enter breakdown
    let breakdown := (pendingRems.map fun request => (request.provider,
      ({ pendingRemediations := 1
         opportunityMonthlyUsd := asFloat request.estimatedMonthlySavings } : Figures))).foldl
      books.enter breakdown
    let breakdown := (completedRems.map fun request => (request.provider,
      ({ completedRemediations := 1
         realizedMonthlyUsd := realizedSavings (realizedEvents.find request.id) request } :
        Figures))).foldl books.enter breakdown
    .ok { toFigures := sumFigures breakdown.rows
          startDate := isoFormat query.startDate
          endDate := isoFormat query.endDate
          tier := query.tier
          breakdown := breakdown.rows
          notes := [
            "Opportunity is a snapshot of currently open recommendations/pending remediations.",
            "Realized savings uses finance-grade ledger deltas where evidence exists; otherwise it falls back to estimated monthly savings."] }

def whereProvider {α : Type} (provider : α → String) (rows : List α) : List α :=
  match query.filtered books.text with
  | some normalized => rows.filter fun row => provider row = normalized
  | none => rows

/-- `GROUP BY`. -/
def grouped {α κ : Type} [DecidableEq κ] (key : α → κ) (rows : List α) : List (κ × List α) :=
  (rows.map key).dedup.map fun k => (k,rows.filter fun row => key row = k)

/-- `COALESCE(SUM(..),0)`. -/
def sumOf {α : Type} (amount : α → Option Rat) (rows : List α) : Rat := (rows.filterMap amount).sum

/-- `_ensure_bucket` and what is added to the bucket, for one group after the other. -/
def addGroups {α κ : Type} (key : κ → String) (figures : List α → Figures)
    (groups : List (κ × List α)) (buckets : Table String Figures) : Table String Figures :=
  (groups.map fun group => (key group.1,figures group.2)).foldl record buckets

def buildStrategyTypeBuckets (buckets : Table String Figures) : Table String Figures × List String :=
  let openRows := grouped (fun row => row.2.type) (books.whereProvider query
    (fun row => row.2.provider) (books.recommendationRows query isOpen))
  let buckets := addGroups books.text.lower (fun rows =>
    { openRecommendations := rows.length
      opportunityMonthlyUsd := sumOf (fun row => some row.1.estimatedMonthlySavings) rows })
    openRows buckets
  let appliedRows := grouped (fun row => row.2.type) (books.whereProvider query
    (fun row => row.2.provider) (books.recommendationRows query (isApplied query)))
  let buckets := addGroups books.text.lower (fun rows =>
    { appliedRecommendations := rows.length
      realizedMonthlyUsd := sumOf (fun row => some row.1.estimatedMonthlySavings) rows })
    appliedRows buckets
  (buckets,[
    "Opportunity is a snapshot of currently open recommendations, grouped by strategy type.",
    "Realized is applied recommendations within the window (estimated monthly savings)."])

def actionValue : RemediationAction → String
  | .deleteVolume => "delete_volume"
  | .deleteSnapshot => "delete_snapshot"
  | .releaseElasticIp => "release_elastic_ip"
  | .stopInstance => "stop_instance"
  | .terminateInstance => "terminate_instance"
  | .deleteS3Bucket => "delete_s3_bucket"
  | .deleteEcrImage => "delete_ecr_image"
  | .deleteSagemakerEndpoint => "delete_sagemaker_endpoint"
  | .deleteRedshiftCluster => "delete_redshift_cluster"
  | .deleteLoadBalancer => "delete_load_balancer"
  | .stopRdsInstance => "stop_rds_instance"
  | .deleteRdsInstance => "delete_rds_instance"
  | .deleteNatGateway => "delete_nat_gateway"
  | .resizeInstance => "resize_instance"
  | .deallocateAzureVm => "deallocate_azure_vm"
  | .resizeAzureVm => "resize_azure_vm"
  | .stopGcpInstance => "stop_gcp_instance"
  | .resizeGcpInstance => "resize_gcp_instance"
  | .revokeGithubSeat => "revoke_github_seat"
  | .reclaimLicenseSeat => "reclaim_license_seat"
  | .manualReview => "manual_review"

def eventsOf (request : RemediationRequest) : List RealizedSavingsEvent :=
  books.events.filter fun event =>
    event.remediationRequestId = request.id && event.tenantId = request.tenantId

def buildRemediationActionBuckets (buckets : Table String Figures) :
    Table String Figures × List String :=
  let key := fun action => books.text.lower (actionValue action)
  let pendingRows := grouped RemediationRequest.action (books.whereProvider query
    RemediationRequest.provider (books.pendingRequests query))
  let buckets := addGroups key (fun rows =>
    { pendingRemediations := rows.length
      opportunityMonthlyUsd := sumOf RemediationRequest.estimatedMonthlySavings rows })
    pendingRows buckets
  let completed := books.whereProvider query RemediationRequest.provider (books.completedRequests query)
  let buckets := addGroups key (fun rows => { completedRemediations := rows.length })
    (grouped RemediationRequest.action completed) buckets
  let evidenceRows := completed.flatMap fun request =>
    (books.eventsOf request).map fun event => (request,event)
  let buckets := addGroups key (fun rows =>
    { realizedMonthlyUsd := sumOf (fun row => some row.2.realizedMonthlySavingsUsd) rows })
    (grouped (fun row => row.1.action) evidenceRows) buckets
  let fallbackRows := completed.filter fun request => (books.eventsOf request).isEmpty
  let buckets := addGroups key (fun rows =>
    { realizedMonthlyUsd := sumOf RemediationRequest.estimatedMonthlySavings rows })
    (grouped RemediationRequest.action fallbackRows) buckets
  (buckets,[
    "Opportunity is a snapshot of pending/approved/scheduled remediations, grouped by action.",
    "Realized uses finance-grade ledger deltas where evidence exists; otherwise it falls back to estimated monthly savings."])

/-- `str(snapshot.get("category") or "")`. -/
def snapshotCategory (members : List (String × Json)) : String :=
  match members.find? fun member => member.1 = "category" with
  | none => ""
  | some (_,.str category) => category
  | some (_,value) => if JsonValue.truthy value then books.jsonText value else ""

def findingCategoryFromSnapshot : Option Json → String
  | some (.obj members) =>
    let value := books.text.lower (strip (books.snapshotCategory members))
    if value = "" then "unknown" else value
  | _ => "unknown"

def completedCategory (event : Option RealizedSavingsEvent) (request : RemediationRequest) : String :=
  let key := match event with
    | some event => books.text.lower (strip (event.findingCategory.getD ""))
    | none => ""
  let key := if key = "" then books.findingCategoryFromSnapshot request.findingSnapshot else key
  if key = "" then "unknown" else key

def buildFindingCategoryBuckets (buckets : Table String Figures) :
    Table String Figures × List String :=
  let pendingRequests := books.whereProvider query RemediationRequest.provider
    (books.pendingRequests query)
  let buckets := (pendingRequests.map fun request =>
    (books.findingCategoryFromSnapshot request.findingSnapshot,
      ({ pendingRemediations := 1
         opportunityMonthlyUsd := asFloat request.estimatedMonthlySavings } : Figures))).foldl
    record buckets
  let completedRequests := books.whereProvider query RemediationRequest.provider
    (books.completedRequests query)
  let realizedEventsByRequestId := eventsByRequest query
    (books.whereProvider query RealizedSavingsEvent.provider books.events) completedRequests
  let buckets := (completedRequests.map fun request =>
    let realizedEvent := realizedEventsByRequestId.find request.id
    (books.completedCategory realizedEvent request,
      ({ completedRemediations := 1
         realizedMonthlyUsd := realizedSavings realizedEvent request } : Figures))).foldl record buckets
  (buckets,[
    "Finding category drilldown is remediation provenance scoped: it reflects pending/completed remediations and realized savings evidence, not open strategy recommendations.",
    "Unknown is used when a remediation request or realized savings event does not carry finding category metadata.",
    "Realized uses finance-grade ledger deltas where evidence exists; otherwise it falls back to estimated monthly savings."])

end Books

/-- Buckets with the greater opportunity first, then the greater realized savings, then the greater key. -/
def bucketLe (a b : String × Figures) : Bool :=
  if a.2.opportunityMonthlyUsd = b.2.opportunityMonthlyUsd then
    if a.2.realizedMonthlyUsd = b.2.realizedMonthlyUsd then !before a.1.toList b.1.toList
    else b.2.realizedMonthlyUsd < a.2.realizedMonthlyUsd
  else b.2.opportunityMonthlyUsd < a.2.opportunityMonthlyUsd

def sortAndLimitBuckets (buckets : Table String Figures) (topLimit : Nat) :
    List (String × Figures) × Bool :=
  let bucketItems := buckets.rows.mergeSort bucketLe
  (bucketItems.take topLimit,topLimit < bucketItems.length)

structure SavingsProofDrilldownResponse where
  startDate : String
  endDate : String
  tier : String
  provider : Option String
  dimension : String
  opportunityMonthlyUsd : Rat
  realizedMonthlyUsd : Rat
  buckets : List (String × Figures)
  truncated : Bool
  limit : Nat
  notes : List String

def topLimit (limit : Int) : Nat := (max 1 (min limit 200)).toNat

namespace Books

variable (books : Books) (query : ProofQuery)

def bucketsByKey (dim : String) : Table String Figures × List String :=
  if dim = "strategy_type" then books.buildStrategyTypeBuckets query .empty
  else if dim = "remediation_action" then books.buildRemediationActionBuckets query .empty
  else books.buildFindingCategoryBuckets query .empty

def drilldown (dimension : String) (limit : Int) : Except String SavingsProofDrilldownResponse :=
  if query.startDate > query.endDate then .error "start_date must be <= end_date"
  else
    let dim := books.text.lower (strip dimension)
    if dim ∉ ["finding_category","provider","remediation_action","strategy_type"] then
      .error ("Unsupported drilldown dimension '" ++ dimension ++
        "'. Use one of: finding_category, provider, remediation_action, strategy_type")
    else if dim = "provider" then do
      let summary ← books.generate { query with provider := query.normalizedProvider books.text }
      return {
        startDate := summary.startDate
        endDate := summary.endDate
        tier := summary.tier
        provider := query.normalizedProvider books.text
        dimension := "provider"
        opportunityMonthlyUsd := summary.opportunityMonthlyUsd
        realizedMonthlyUsd := summary.realizedMonthlyUsd
        buckets := summary.breakdown
        truncated := false
        limit := topLimit limit
        notes := summary.notes }
    else
      let (bucketsByKey,notes) := books.bucketsByKey query dim
      let (buckets,truncated) := sortAndLimitBuckets bucketsByKey (topLimit limit)
      .ok {
        startDate := isoFormat query.startDate
        endDate := isoFormat query.endDate
        tier := query.tier
        provider := query.normalizedProvider books.text
        dimension := dim
        opportunityMonthlyUsd := (buckets.map fun bucket => bucket.2.opportunityMonthlyUsd).sum
        realizedMonthlyUsd := (buckets.map fun bucket => bucket.2.realizedMonthlyUsd).sum
        buckets := buckets
        truncated := truncated
        limit := topLimit limit
        notes := if truncated then
            notes ++ ["Buckets truncated to top " ++ toString (topLimit limit) ++ " by opportunity."]
          else notes }

end Books

end Valdrics.SavingsProof

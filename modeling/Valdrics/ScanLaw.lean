import Valdrics.ScanIsolation

/-! What a tenant's scan may resolve, report and mix up: the intended rules, where the code departs
from them, and what it keeps of them. -/
namespace Valdrics.ZombieScan

open Enforcement (Json Uuid)

variable (rt : Runtime) (scan : TenantScan) (before : Findings rt)

def after : Findings rt := (scanForTenant rt scan before).2

/-- A plugin of the finding's category, in its connection and region, ran and returned nothing for
the resource. -/
def SeenGone (key : FindingKey rt) : Prop :=
  ∃ step ∈ scan.steps, ∃ run, Covers rt step run key ∧ ∃ category ∈ step.connection.provider.plugins,
    uiKey category = key.category ∧ run.Looked step.connection.provider category ∧
      ∀ values, (run.plugin category).outcome = .returned (.arr values) →
        ∀ members, .obj members ∈ values → resourceId rt members ≠ key.resourceId.1

def ResolvesOnlyWhatIsGone : Prop :=
  ∀ key row row', before.find key = some row → row.status = .opened →
    (after rt scan before).find key = some row' → row'.status = .resolved → SeenGone rt scan key

def ReportsEveryItem : Prop :=
  ∀ payload, (scanForTenant rt scan before).1 = .ok (.report payload) → payload.partialResults = false →
    ∀ step ∈ scan.steps, ∀ run, step.outcome = .scanned run →
      ∀ category ∈ step.connection.provider.plugins, run.Looked step.connection.provider category →
        ∀ values, (run.plugin category).outcome = .returned (.arr values) →
          ∀ members, .obj members ∈ values → ∃ reported ∈ payload.bucket (uiKey category),
            reported.connectionId = step.connection.id ∧
              resourceId rt reported.item = resourceId rt members

def IsolatesConnections : Prop :=
  ∀ key : FindingKey rt, (after rt scan before).find key =
    (after rt (scan.only key.connectionId) before).find key

structure ScanLaw : Prop where
  resolved : ∀ key row row', before.find key = some row → row.status = .opened →
    (after rt scan before).find key = some row' → row'.status = .resolved →
    ∃ payload, (scanForTenant rt scan before).1 = .ok (.report payload) ∧
      payload.partialResults = false ∧ FoundGone rt scan key
  reported : ∀ payload, (scanForTenant rt scan before).1 = .ok (.report payload) →
    payload.partialResults = false → ∀ bucket, (payload.bucket bucket).map some =
      scan.steps.flatMap fun step =>
        (step.kept bucket).map (stamp rt scan.features step.connection step.regionOverride)
  stamped : ∀ step ∈ scan.steps, ∀ run, step.outcome = .scanned run → ∀ category,
    ∀ item ∈ run.keptItems step.connection.provider category, ∀ reported,
      stamp rt scan.features step.connection step.regionOverride item = some reported →
        reported.provider = step.connection.provider ∧ reported.connectionId = step.connection.id ∧
          reported.item.entry "region" = .str (run.summaryRegion step.connection.provider)
  isolated : ∀ payload, (scanForTenant rt scan before).1 = .ok (.report payload) → ∀ connection,
    ∃ alone, (scanForTenant rt (scan.only connection) before).1 = .ok (.report alone) ∧
      Restricts connection payload alone ∧ ∀ key : FindingKey rt, key.connectionId = connection →
        SameOrKeptOpen scan.now ((after rt scan before).find key)
          ((after rt (scan.only connection) before).find key) ∧
        (payload.partialResults = alone.partialResults →
          (after rt scan before).find key = (after rt (scan.only connection) before).find key)

/-- A scan resolves a finding only if it is not partial, every plugin of the finding's connection and
region ended and none of its category kept an item for the resource; it reports every item of a
detector's region once, unless it is partial; and what it reports of a connection does not depend on
the others, which can only keep findings open. -/
theorem scan_law : ScanLaw rt scan before := by
  by_cases none_scanned : scan.scannedConnections = 0
  · have unchanged : scanForTenant rt scan before = (.ok .noConnections,before) := by
      simp [scanForTenant,none_scanned]
    refine ⟨?_,?_,?_,?_⟩
    · intro key row row' found opened later resolved
      simp only [after,unchanged] at later
      cases found.symm.trans later
      rw [opened] at resolved
      contradiction
    · intro payload answered
      simp [unchanged] at answered
    · intro step _ run outcome category item held reported stamped
      simp only [Step.regionOverride,outcome] at stamped
      obtain ⟨provider,connection,region,_⟩ := stamp_spec stamped (summaryRegion_ne _ run)
        (placed_summary (keptItems_region held))
      exact ⟨provider,connection,region⟩
    · intro payload answered
      simp [unchanged] at answered
  · refine ⟨?_,?_,?_,?_⟩
    · intro key row row' found opened later resolved
      simp only [after,scanForTenant,none_scanned,if_false] at later ⊢
      cases merged : mergeSteps rt scan.features (.initial scan.scannedConnections) scan.steps with
      | error error =>
        simp only [merged] at later
        cases found.symm.trans later
        rw [opened] at resolved
        contradiction
      | ok payload =>
        simp only [merged] at later
        exact ⟨payload,by simp,persist_gone merged found opened later resolved⟩
    · intro payload answered clean bucket
      simp only [scanForTenant,none_scanned,if_false] at answered
      split at answered
      · contradiction
      next merged ended =>
        cases answered
        rw [(mergeSteps_clean ended clean).2.2.1,initial_bucket,List.map_nil,List.nil_append]
    · intro step _ run outcome category item held reported stamped
      simp only [Step.regionOverride,outcome] at stamped
      obtain ⟨provider,connection,region,_⟩ := stamp_spec stamped (summaryRegion_ne _ run)
        (placed_summary (keptItems_region held))
      exact ⟨provider,connection,region⟩
    · intro payload answered connection
      simp only [scanForTenant,none_scanned,if_false] at answered
      split at answered
      · contradiction
      next merged ended =>
        cases answered
        obtain ⟨alone,single,restricts⟩ := mergeSteps_restricts
          (initial_restricts connection scan.scannedConnections) ended
        have whole_scan : scanForTenant rt scan before = (.ok (.report payload),
            persistScanFindings rt scan.now payload before) := by
          simp [scanForTenant,none_scanned,ended]
        have alone_scan : scanForTenant rt (scan.only connection) before = (.ok (.report alone),
            persistScanFindings rt scan.now alone before) := by
          simp only [scanForTenant,TenantScan.only,none_scanned,if_false,single]
        refine ⟨alone,by rw [alone_scan],restricts,?_⟩
        intro key own
        simp only [after,whole_scan,alone_scan]
        exact persist_isolated restricts own

def plainRuntime : Runtime := { text := .asciiOnly,floatText := Decimal.text,repr := fun _ => "" }

def storedFinding (key : FindingKey plainRuntime) : Findings plainRuntime :=
  ⟨[(key,{ firstDetectedAt := 1,lastDetectedAt := 1 })],by simp⟩

def oneFinding (provider : Provider) (category : String) : FindingKey plainRuntime :=
  { provider,connectionId := 1,category,region := ⟨"eastus",by decide⟩
    resourceId := ⟨"r-1",by decide⟩,resourceType := category }

def signedOutScan : TenantScan :=
  { scannedConnections := 1
    steps := [⟨⟨1,.azure,"azure"⟩,.scanned
      { region := "eastus",connectionRegion := "eastus",usable := false
        plugin := fun _ => { outcome := .returned (.arr []) } }⟩]
    now := 2 }

def foreignItemScan : TenantScan :=
  { scannedConnections := 1
    steps := [⟨⟨1,.hybrid,"hybrid"⟩,.scanned
      { region := "eastus",connectionRegion := "eastus"
        plugin := fun _ =>
          { outcome := .returned (.arr [.obj [("resource_id",.str "r-1"),("region",.str "westus")]]) } }⟩]
    now := 2 }

def failingNeighbourScan : TenantScan :=
  { scannedConnections := 2
    steps := [⟨⟨1,.hybrid,"hybrid"⟩,.scanned
        { region := "eastus",connectionRegion := "eastus"
          plugin := fun _ => { outcome := .returned (.arr []) } }⟩,
      ⟨⟨2,.aws,"aws"⟩,.failed ⟨.runtimeError,"RuntimeError","no credentials"⟩⟩]
    now := 2 }

/-- Without credentials a finding is resolved unseen, an item of another region is lost without a
word, and a failing connection keeps another's finding open. -/
theorem scan_rules_fail :
    ¬ResolvesOnlyWhatIsGone plainRuntime signedOutScan
        (storedFinding (oneFinding .azure "idle_instances")) ∧
      ¬ReportsEveryItem plainRuntime foreignItemScan .empty ∧
      ¬IsolatesConnections plainRuntime failingNeighbourScan
        (storedFinding (oneFinding .hybrid "idle_hybrid_resources")) := by
  refine ⟨?_,?_,?_⟩
  · intro rule
    obtain ⟨step,inScan,run,covers,category,_,_,looked,_⟩ :=
      rule (oneFinding .azure "idle_instances") _ _ rfl rfl rfl rfl
    cases List.mem_singleton.mp inScan
    cases covers.outcome
    exact absurd (looked.1 rfl) (by decide)
  · intro rule
    obtain ⟨reported,listed,_⟩ := rule _ rfl rfl _ List.mem_cons_self _ rfl "idle_hybrid_resources"
      List.mem_cons_self ⟨fun _ => rfl,_,rfl⟩ _ rfl _ List.mem_cons_self
    exact nomatch listed
  · intro rule
    have same := congrArg (Option.map (·.status)) (rule (oneFinding .hybrid "idle_hybrid_resources"))
    revert same
    decide

end Valdrics.ZombieScan

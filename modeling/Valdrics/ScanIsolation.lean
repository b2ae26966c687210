import Valdrics.ScanSoundness

/-! What the connections of one scan have to do with each other: each one's part of the payload is
that of a scan of it alone, and the others can only keep its findings from being resolved. -/
namespace Valdrics.ZombieScan

open Enforcement (Json Uuid)

def TenantScan.only (scan : TenantScan) (connection : Uuid) : TenantScan :=
  { scan with steps := scan.steps.filter (·.connection.id = connection) }

def Payload.reports (payload : Payload) (connection : Uuid) (key : String) : List Reported :=
  (payload.bucket key).filter (·.connectionId = connection)

structure Restricts (connection : Uuid) (whole part : Payload) : Prop where
  buckets : ∀ key, part.bucket key = whole.reports connection key
  errors : part.errors = whole.errors.filter (·.connectionId = connection)
  summaries : part.scanCompleteness = whole.scanCompleteness.filter (·.connectionId = connection)
  partialResults : part.partialResults = true → whole.partialResults = true

def Local (owner : Uuid) (change : Payload → Payload) : Prop :=
  ∀ connection whole part, Restricts connection whole part →
    (owner = connection → Restricts connection (change whole) (change part)) ∧
    (owner ≠ connection → Restricts connection (change whole) part)

namespace Local

variable {owner : Uuid} {first second : Payload → Payload}

theorem id : Local owner id := fun _ _ _ restricts => ⟨fun _ => restricts,fun _ => restricts⟩

theorem comp (later : Local owner second) (sooner : Local owner first) :
    Local owner fun payload => second (first payload) := by
  intro connection whole part restricts
  constructor
  · intro same
    exact (later _ _ _ ((sooner _ _ _ restricts).1 same)).1 same
  · intro apart
    exact (later _ _ _ ((sooner _ _ _ restricts).2 apart)).2 apart

theorem foldl {change : Payload → α → Payload} (each : ∀ entry, Local owner fun payload => change payload entry)
    (entries : List α) : Local owner fun payload => entries.foldl change payload := by
  induction entries with
  | nil => exact Local.id
  | cons entry rest ih => exact ih.comp (each entry)

theorem addErrors {entries : List ErrorEntry} (owned : ∀ entry ∈ entries, entry.connectionId = owner) :
    Local owner (·.addErrors entries) := by
  intro connection whole part restricts
  have all : owner = connection → entries.filter (·.connectionId = connection) = entries := by
    rintro rfl
    exact List.filter_eq_self.mpr fun entry listed => by simp [owned entry listed]
  have none : owner ≠ connection → entries.filter (·.connectionId = connection) = [] := by
    intro apart
    exact List.filter_eq_nil_iff.mpr fun entry listed => by simp [owned entry listed,apart]
  constructor
  · intro same
    refine ⟨restricts.buckets,?_,restricts.summaries,restricts.partialResults⟩
    simp only [Payload.addErrors,List.filter_append,all same,restricts.errors]
  · intro apart
    refine ⟨restricts.buckets,?_,restricts.summaries,restricts.partialResults⟩
    simp only [Payload.addErrors,List.filter_append,none apart,restricts.errors,List.append_nil]

theorem markPartial (isPartial : Bool) : Local owner (·.markPartial isPartial) := by
  intro connection whole part restricts
  have partialResults := restricts.partialResults
  refine ⟨fun _ => ⟨restricts.buckets,restricts.errors,restricts.summaries,?_⟩,
    fun _ => ⟨restricts.buckets,restricts.errors,restricts.summaries,?_⟩⟩
  · simp only [Payload.markPartial,Bool.or_eq_true]
    rintro (before | now)
    · exact .inl (partialResults before)
    · exact .inr now
  · intro before
    simp [Payload.markPartial,partialResults before]

theorem addSummary {summary : Summary} (owned : summary.connectionId = owner) :
    Local owner fun payload =>
      { payload with scanCompleteness := payload.scanCompleteness ++ [summary] } := by
  intro connection whole part restricts
  constructor
  · rintro rfl
    refine ⟨restricts.buckets,restricts.errors,?_,restricts.partialResults⟩
    simp [owned,restricts.summaries]
  · intro apart
    refine ⟨restricts.buckets,restricts.errors,?_,restricts.partialResults⟩
    simp [owned,apart,restricts.summaries]

theorem timeout : Local owner fun payload => { payload with scanTimeout := true } := fun _ _ _ restricts =>
  ⟨fun _ => ⟨restricts.buckets,restricts.errors,restricts.summaries,restricts.partialResults⟩,
    fun _ => ⟨restricts.buckets,restricts.errors,restricts.summaries,restricts.partialResults⟩⟩

theorem append {bucket : String} {items : List Reported}
    (owned : ∀ reported ∈ items, reported.connectionId = owner) :
    Local owner fun payload => { payload with buckets := appendTo payload.buckets bucket items } := by
  intro connection whole part restricts
  have appended : ∀ (payload : Payload) (key : String),
      Payload.bucket { payload with buckets := appendTo payload.buckets bucket items } key =
        payload.bucket key ++ if key = bucket then items else [] := by
    intro payload key
    simp only [Payload.bucket,appendTo,Table.find_upsert]
    by_cases same : key = bucket
    · subst same
      cases payload.buckets.find key <;> simp
    · simp [same]
  constructor
  · rintro rfl
    refine ⟨?_,restricts.errors,restricts.summaries,restricts.partialResults⟩
    intro key
    have whole_items : items.filter (·.connectionId = owner) = items :=
      List.filter_eq_self.mpr fun reported listed => by simp [owned reported listed]
    rw [Payload.reports,appended,appended,List.filter_append,restricts.buckets key]
    split
    · rw [whole_items]
      rfl
    · rfl
  · intro apart
    refine ⟨?_,restricts.errors,restricts.summaries,restricts.partialResults⟩
    intro key
    have no_items : items.filter (·.connectionId = connection) = [] :=
      List.filter_eq_nil_iff.mpr fun reported listed => by simp [owned reported listed,apart]
    rw [Payload.reports,appended,List.filter_append,restricts.buckets key]
    split
    · rw [no_items,List.append_nil]
      rfl
    · simp [Payload.reports]

theorem mapItems {change : Reported → Reported}
    (kept : ∀ reported, (change reported).connectionId = reported.connectionId)
    (others : ∀ reported, reported.connectionId ≠ owner → change reported = reported) :
    Local owner fun payload =>
      { payload with buckets := payload.buckets.mapRows fun _ items => items.map change } := by
  intro connection whole part restricts
  have mapped : ∀ (payload : Payload) (key : String),
      Payload.bucket { payload with buckets := payload.buckets.mapRows fun _ items => items.map change }
        key = (payload.bucket key).map change := by
    intro payload key
    simp only [Payload.bucket,Table.find_mapRows]
    cases payload.buckets.find key <;> rfl
  have commutes : ∀ items : List Reported, (items.map change).filter (·.connectionId = connection) =
      (items.filter (·.connectionId = connection)).map change := by
    intro items
    rw [List.filter_map]
    congr 1
    apply List.filter_congr
    intro reported _
    simp [kept reported]
  constructor
  · intro same
    refine ⟨?_,restricts.errors,restricts.summaries,restricts.partialResults⟩
    intro key
    rw [Payload.reports,mapped,mapped,commutes,restricts.buckets key]
    rfl
  · intro apart
    refine ⟨?_,restricts.errors,restricts.summaries,restricts.partialResults⟩
    intro key
    rw [Payload.reports,mapped,commutes,restricts.buckets key,Payload.reports]
    conv_lhs => rw [← List.map_id ((whole.bucket key).filter _)]
    apply List.map_congr_left
    intro reported listed
    have here : reported.connectionId = connection := by simpa using (List.mem_filter.mp listed).2
    exact (others reported (here ▸ Ne.symm apart)).symm

end Local

section Merging

variable {rt : Runtime} {features : Features} {connection : Connection} {regionOverride : Option String}

theorem stamp_owner {item : Item} {reported : Reported}
    (stamped : stamp rt features connection regionOverride item = some reported) :
    reported.connectionId = connection.id := by
  obtain ⟨cost,_,rfl⟩ := Option.map_eq_some_iff.mp stamped
  rfl

theorem mergeCategory_local (entry : String × List Item) :
    Local connection.id (·.mergeCategory rt features connection regionOverride entry) := by
  refine (Local.markPartial _).comp ((Local.addErrors ?_).comp (Local.append ?_))
  · intro error listed
    obtain ⟨item,_,made⟩ := List.mem_filterMap.mp listed
    simp only [invalidCost] at made
    split at made
    · contradiction
    · cases made
      rfl
  · intro reported listed
    obtain ⟨item,_,made⟩ := List.mem_filterMap.mp listed
    exact stamp_owner made

theorem mergeInventory_local (region : String) (inventory : Option InventoryMetadata) :
    Local connection.id (·.mergeInventory rt connection region inventory) := by
  cases inventory with
  | none => exact Local.id
  | some inventory =>
    by_cases good : inventory.status = "ok"
    · simp only [Payload.mergeInventory,good,if_true]
      exact Local.id
    · simp only [Payload.mergeInventory,good,if_false]
      refine Local.comp (Local.addErrors ?_) (Local.mapItems ?_ ?_)
      · intro error listed
        cases List.mem_singleton.mp listed
        rfl
      · intro reported
        simp only [markManualReview]
        split
        · rfl
        · split <;> rfl
      · intro reported apart
        simp [markManualReview,apart]

theorem mergeCompleteness_local (region : String) (results : ScanResults) :
    Local connection.id (·.mergeCompleteness rt connection region results) := by
  have degraded : Local connection.id fun payload : Payload =>
      if results.degraded then
        ((({ payload with
          scanCompleteness := payload.scanCompleteness ++
            [{ provider := connection.provider
               connectionId := connection.id
               connectionName := connection.name
               region
               degraded := results.degraded
               errorCount := results.errorCount
               plugins := results.plugins
               inventoryDiscovery := results.inventory }] } : Payload).markPartial true).addErrors
          (pluginErrors connection region results.plugins)).mergeInventory rt connection region
            results.inventory
      else { payload with
          scanCompleteness := payload.scanCompleteness ++
            [{ provider := connection.provider
               connectionId := connection.id
               connectionName := connection.name
               region
               degraded := results.degraded
               errorCount := results.errorCount
               plugins := results.plugins
               inventoryDiscovery := results.inventory }] } := by
    split
    · refine (mergeInventory_local region _).comp ((Local.addErrors ?_).comp
        ((Local.markPartial true).comp (Local.addSummary rfl)))
      intro error listed
      obtain ⟨⟨category,metadata⟩,_,made⟩ := List.mem_filterMap.mp listed
      dsimp only at made
      split at made
      · contradiction
      · cases made
        rfl
    · exact Local.addSummary rfl
  cases overall : results.overallError.filter (· ≠ "") with
  | none =>
    simp only [Payload.mergeCompleteness,overall]
    exact degraded
  | some error =>
    simp only [Payload.mergeCompleteness,overall]
    refine Local.comp (Local.addErrors ?_) ((Local.markPartial true).comp degraded)
    intro entry listed
    cases List.mem_singleton.mp listed
    rfl

theorem mergeScanResults_local (region : String) (results : ScanResults) :
    Local connection.id (·.mergeScanResults rt features connection regionOverride region results) := by
  have categories : Local connection.id fun payload : Payload =>
      results.items.foldl (Payload.mergeCategory rt features connection regionOverride) payload :=
    Local.foldl mergeCategory_local results.items
  have summary : Local connection.id (·.mergeCompleteness rt connection region results) :=
    mergeCompleteness_local region results
  have merged := summary.comp categories
  cases top : results.error.filter (· ≠ "") with
  | none =>
    simp only [Payload.mergeScanResults,top]
    exact merged
  | some error =>
    simp only [Payload.mergeScanResults,top]
    refine Local.comp (Local.addErrors ?_) ((Local.markPartial true).comp merged)
    intro entry listed
    cases List.mem_singleton.mp listed
    rfl

theorem appendError_local (region error : String) :
    Local connection.id (·.appendError connection region error) := by
  have owned : ∀ entry ∈ [ErrorEntry.mk connection.provider (.str region) error none connection.id none
      none], entry.connectionId = connection.id := by
    intro entry listed
    cases List.mem_singleton.mp listed
    rfl
  exact (Local.addErrors owned).comp (Local.markPartial true)

theorem mergeStep_local {step : Step} {payload merged : Payload}
    (ended : mergeStep rt features payload step = .ok merged) :
    ∃ change, Local step.connection.id change ∧
      ∀ payload, mergeStep rt features payload step = .ok (change payload) := by
  cases outcome : step.outcome with
  | unfinished =>
    refine ⟨_,Local.timeout.comp (Local.markPartial true),fun payload => ?_⟩
    simp only [mergeStep,outcome]
  | failed error =>
    simp only [mergeStep,outcome] at ended ⊢
    split at ended
    next listed =>
      refine ⟨_,appendError_local "global" error.text,fun payload => ?_⟩
      simp only [listed,if_true]
    · contradiction
  | scanned run =>
    simp only [mergeStep,outcome] at ended ⊢
    cases scanned : run.scanAll rt step.connection.provider with
    | ok results =>
      exact ⟨_,mergeScanResults_local _ results,fun payload => rfl⟩
    | error error =>
      simp only [scanned] at ended ⊢
      split at ended
      next listed =>
        refine ⟨_,appendError_local
          (if step.connection.provider = .aws then run.region else "global") error.text,fun payload => ?_⟩
        simp only [listed,if_true]
      · contradiction

theorem mergeSteps_restricts {connection : Uuid} {steps : List Step} {whole part merged : Payload}
    (restricts : Restricts connection whole part) (ended : mergeSteps rt features whole steps = .ok merged) :
    ∃ alone, mergeSteps rt features part (steps.filter (·.connection.id = connection)) = .ok alone ∧
      Restricts connection merged alone := by
  induction steps generalizing whole part with
  | nil =>
    cases ended
    exact ⟨part,rfl,restricts⟩
  | cons step rest ih =>
    simp only [mergeSteps] at ended
    cases first : mergeStep rt features whole step with
    | error error => simp [first] at ended
    | ok next =>
      simp only [first] at ended
      obtain ⟨change,localChange,steps⟩ := mergeStep_local first
      cases (steps whole).symm.trans first
      by_cases own : step.connection.id = connection
      · obtain ⟨alone,there,final⟩ := ih ((localChange _ _ _ restricts).1 own) ended
        refine ⟨alone,?_,final⟩
        simp only [List.filter_cons,own,decide_true,if_true,mergeSteps,steps part]
        exact there
      · obtain ⟨alone,there,final⟩ := ih ((localChange _ _ _ restricts).2 own) ended
        refine ⟨alone,?_,final⟩
        simpa [List.filter_cons,own] using there

end Merging

section Findings

variable {rt : Runtime} {now : Int} {connection : Uuid} {whole part payload : Payload}
  {key : FindingKey rt} {findings : Findings rt}

def observation (rt : Runtime) (now : Int) (bucket : String) (reported : Reported) :
    Option (FindingKey rt × OptimizationFinding) :=
  (findingKey rt bucket reported).map fun key => (key,observe rt now reported)

theorem findingKey_fields {bucket : String} {reported : Reported}
    (keyed : findingKey rt bucket reported = some key) :
    key.category = bucket ∧ key.connectionId = reported.connectionId := by
  simp only [findingKey] at keyed
  split at keyed
  · contradiction
  · cases keyed
    exact ⟨rfl,rfl⟩

theorem flatMap_find {κ ρ β : Type} [DecidableEq κ] (t : Table κ ρ) (key : κ) (f : κ → ρ → List β)
    (others : ∀ other row, other ≠ key → f other row = []) :
    (t.rows.flatMap fun e => f e.1 e.2) = (t.find key).elim [] (f key) := by
  obtain ⟨rows,distinct⟩ := t
  simp only [Table.find]
  induction rows with
  | nil => rfl
  | cons e rest ih =>
    obtain ⟨name,row⟩ := e
    obtain ⟨new,distinct⟩ := List.nodup_cons.mp distinct
    by_cases same : name = key
    · subst same
      have rest_nothing : (rest.flatMap fun e => f e.1 e.2) = [] := by
        refine List.flatMap_eq_nil_iff.mpr fun other listed => others other.1 other.2 ?_
        rintro rfl
        exact new (List.mem_map.mpr ⟨other,listed,rfl⟩)
      simp [rest_nothing]
    · have later := ih distinct
      simp only [List.flatMap_cons,others name row same,List.nil_append,List.find?_cons,same,
        decide_false]
      exact later

theorem observations_key (payload : Payload) : (observations rt now payload).filter (·.1 = key) =
    ((payload.reports key.connectionId key.category).filterMap (observation rt now key.category)).filter
      (·.1 = key) := by
  have narrow : ∀ items : List Reported,
      (items.filterMap (observation rt now key.category)).filter (·.1 = key) =
        ((items.filter (·.connectionId = key.connectionId)).filterMap
          (observation rt now key.category)).filter (·.1 = key) := by
    intro items
    induction items with
    | nil => rfl
    | cons reported rest ih =>
      by_cases own : reported.connectionId = key.connectionId
      · simp only [List.filter_cons,own,decide_true,if_true,List.filterMap_cons]
        cases observation rt now key.category reported <;> simp [List.filter_cons,ih]
      · simp only [List.filter_cons,own,decide_false,Bool.false_eq_true,if_false,List.filterMap_cons]
        cases made : observation rt now key.category reported with
        | none => exact ih
        | some entry =>
          have apart : entry.1 ≠ key := by
            rintro rfl
            obtain ⟨found,keyed,rfl⟩ := Option.map_eq_some_iff.mp made
            exact own (findingKey_fields keyed).2.symm
          simp [List.filter_cons,apart,ih]
  have others : ∀ (bucket : String) (items : List Reported), bucket ≠ key.category →
      (items.filterMap (observation rt now bucket)).filter (·.1 = key) = [] := by
    intro bucket items apart
    refine List.filter_eq_nil_iff.mpr fun entry listed => ?_
    obtain ⟨reported,_,made⟩ := List.mem_filterMap.mp listed
    obtain ⟨found,keyed,rfl⟩ := Option.map_eq_some_iff.mp made
    simp only [decide_eq_true_eq]
    rintro rfl
    exact apart (findingKey_fields keyed).1.symm
  have gathered := flatMap_find payload.buckets key.category
    (fun bucket items => (items.filterMap (observation rt now bucket)).filter (·.1 = key)) others
  simp only [observations,List.filter_flatMap]
  refine gathered.trans ?_
  simp only [Payload.reports,Payload.bucket]
  cases payload.buckets.find key.category with
  | none => rfl
  | some items => exact narrow items

theorem observations_same (restricts : Restricts connection whole part)
    (own : key.connectionId = connection) : (observations rt now whole).filter (·.1 = key) =
      (observations rt now part).filter (·.1 = key) := by
  have same : part.reports connection key.category = whole.reports connection key.category := by
    rw [Payload.reports,restricts.buckets,Payload.reports,List.filter_filter]
    simp
  rw [observations_key,observations_key,own,same]

theorem observed_same (restricts : Restricts connection whole part)
    {entry : FindingKey rt × OptimizationFinding} (own : entry.1.connectionId = connection) :
    entry ∈ observations rt now whole ↔ entry ∈ observations rt now part := by
  have same : (observations rt now whole).filter (·.1 = entry.1) = _ := observations_same restricts own
  have each : ∀ list : List (FindingKey rt × OptimizationFinding),
      entry ∈ list ↔ entry ∈ list.filter (·.1 = entry.1) := by
    intro list
    simp [List.mem_filter]
  rw [each,same,← each]

theorem seen_same (restricts : Restricts connection whole part) (own : key.connectionId = connection) :
    key ∈ (observations rt now whole).map Prod.fst ↔ key ∈ (observations rt now part).map Prod.fst := by
  constructor
  · intro seen
    obtain ⟨entry,listed,rfl⟩ := List.mem_map.mp seen
    exact List.mem_map.mpr ⟨entry,(observed_same restricts own).mp listed,rfl⟩
  · intro seen
    obtain ⟨entry,listed,rfl⟩ := List.mem_map.mp seen
    exact List.mem_map.mpr ⟨entry,(observed_same restricts own).mpr listed,rfl⟩

theorem scopes_same (restricts : Restricts connection whole part) {provider : Provider} {region : String} :
    (provider,connection,region) ∈ scopes rt now whole ↔
      (provider,connection,region) ∈ scopes rt now part := by
  simp only [scopes,List.mem_append,List.mem_map,Prod.mk.injEq]
  refine or_congr ?_ ?_
  · rw [restricts.summaries]
    constructor
    · rintro ⟨summary,listed,sameProvider,sameConnection,sameRegion⟩
      exact ⟨summary,List.mem_filter.mpr ⟨listed,by simpa using sameConnection⟩,sameProvider,
        sameConnection,sameRegion⟩
    · rintro ⟨summary,listed,same⟩
      exact ⟨summary,(List.mem_filter.mp listed).1,same⟩
  · constructor
    · rintro ⟨entry,listed,sameProvider,sameConnection,sameRegion⟩
      exact ⟨entry,(observed_same restricts sameConnection).mp listed,sameProvider,sameConnection,
        sameRegion⟩
    · rintro ⟨entry,listed,sameProvider,sameConnection,sameRegion⟩
      exact ⟨entry,(observed_same restricts sameConnection).mpr listed,sameProvider,sameConnection,
        sameRegion⟩

def SameOrKeptOpen (now : Int) (whole part : Option OptimizationFinding) : Prop :=
  whole = part ∨ ∃ row, whole = some row ∧ row.status = .opened ∧
    part = some { row with status := .resolved,resolvedAt := some now }

theorem persist_isolated (restricts : Restricts connection whole part)
    (own : key.connectionId = connection) :
    SameOrKeptOpen now ((persistScanFindings rt now whole findings).find key)
      ((persistScanFindings rt now part findings).find key) ∧
    (whole.partialResults = part.partialResults →
      (persistScanFindings rt now whole findings).find key =
        (persistScanFindings rt now part findings).find key) := by
  have written : ((observations rt now whole).foldl upsert findings).find key =
      ((observations rt now part).foldl upsert findings).find key := by
    rw [find_upserts,find_upserts,observations_same restricts own]
  have inScope : ∀ region, (key.provider,key.connectionId,region) ∈ scopes rt now whole ↔
      (key.provider,key.connectionId,region) ∈ scopes rt now part := by
    intro region
    rw [own]
    exact scopes_same restricts
  have seen : key ∈ (observations rt now whole).map Prod.fst ↔ _ := seen_same restricts own
  have complete : (resolveUnseen rt now (scopes rt now whole) ((observations rt now whole).map Prod.fst)
        ((observations rt now whole).foldl upsert findings)).find key =
      (resolveUnseen rt now (scopes rt now part) ((observations rt now part).map Prod.fst)
        ((observations rt now part).foldl upsert findings)).find key := by
    simp only [resolveUnseen,Table.find_mapRows,written,inScope,seen]
  simp only [persistScanFindings]
  cases wholePartial : whole.partialResults with
  | false =>
    cases partPartial : part.partialResults with
    | true =>
      have both := restricts.partialResults partPartial
      simp [wholePartial] at both
    | false =>
      simp only [Bool.false_eq_true,if_false]
      exact ⟨.inl complete,fun _ => complete⟩
  | true =>
    cases partPartial : part.partialResults with
    | true =>
      simp only [if_true]
      exact ⟨.inl written,fun _ => written⟩
    | false =>
      refine ⟨?_,by simp⟩
      simp only [if_true,Bool.false_eq_true,if_false,resolveUnseen,Table.find_mapRows,written]
      cases found : ((observations rt now part).foldl upsert findings).find key with
      | none => exact .inl rfl
      | some row =>
        simp only [Option.map_some]
        split
        · exact .inl rfl
        · split
          · exact .inl rfl
          · split
            · exact .inl rfl
            next unresolved =>
              refine .inr ⟨row,rfl,?_,rfl⟩
              cases status : row.status with
              | opened => rfl
              | resolved => exact absurd status unresolved

end Findings

theorem initial_restricts (connection : Uuid) (count : Nat) :
    Restricts connection (.initial count) (.initial count) := by
  refine ⟨fun key => ?_,rfl,rfl,id⟩
  simp [Payload.reports,initial_bucket]

end Valdrics.ZombieScan

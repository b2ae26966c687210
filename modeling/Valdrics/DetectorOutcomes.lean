import Valdrics.ZombieDetectors

/-! What the results of a detector say that are not degraded: every plugin ended well, and the
results hold what each kept for the region. -/
namespace Valdrics.ZombieScan

open Enforcement (Json)

def inRegion (region : String) : Json → Option Item
  | .obj members =>
    if (members.lookup "region").all (JsonValue.equals · (.str region)) then
      some (assign members "region" (.str region))
    else none
  | _ => none

namespace RegionScan

variable (provider : Provider) (run : RegionScan) (category : String)

/-- The detector answers with an empty list in place of a failure: these two sign in themselves. -/
def guarded (provider : Provider) : Bool := provider = .azure || provider = .gcp

def Looked : Prop :=
  (guarded provider = true → run.usable = true) ∧ ∃ value, (run.plugin category).outcome = .returned value

/-- The scan did not run to its end, and the detector passes an empty list for it. -/
def Swallowed : Prop :=
  guarded provider = true ∧ (run.usable = false ∨ ∃ error, (run.plugin category).outcome = .raised error)

def keptItems : List Item :=
  match (run.plugin category).outcome with
  | .returned (.arr values) =>
    if guarded provider ∧ ¬run.usable then [] else values.filterMap (inRegion (run.detectorRegion provider))
  | _ => []

end RegionScan

section Detector

variable {region : String} {values : List Json} {kept : List Item} {items : Json}
  {provider : Provider} {run : RegionScan} {category : String} {results final : ScanResults}

theorem validate_ok (valid : validate region values = .ok kept) :
    kept = values.filterMap (inRegion region) := by
  induction values generalizing kept with
  | nil =>
    cases valid
    rfl
  | cons value rest ih =>
    cases value with
    | obj members =>
      simp only [validate] at valid
      split at valid
      next here =>
        cases later : validate region rest with
        | error error => simp [later,Except.map] at valid
        | ok others =>
          rw [later] at valid
          cases valid
          simp [List.filterMap_cons,inRegion,here,ih later]
      next elsewhere => simp [List.filterMap_cons,inRegion,elsewhere,ih valid]
    | null => simp [validate] at valid
    | bool _ => simp [validate] at valid
    | int _ => simp [validate] at valid
    | float _ => simp [validate] at valid
    | str _ => simp [validate] at valid
    | arr _ => simp [validate] at valid

theorem validateItems_ok (valid : validateItems region items = .ok (values,kept)) :
    kept = (listItems items).filterMap (inRegion region) := by
  cases iterated : iterate items with
  | error error => simp [validateItems,iterated,Except.bind] at valid
  | ok found =>
    cases checked : validate region found with
    | error error => simp [validateItems,iterated,checked,Except.bind,Except.map] at valid
    | ok passed =>
      simp only [validateItems,iterated,checked,Except.bind,Except.map,Except.ok.injEq,
        Prod.mk.injEq] at valid
      obtain ⟨rfl,rfl⟩ := valid
      have filtered := validate_ok checked
      cases items with
      | arr values =>
        cases iterated
        exact filtered
      | obj members =>
        cases iterated
        cases members with
        | nil => exact filtered
        | cons member rest => simp [validate] at checked
      | str text =>
        cases iterated
        cases chars : text.toList with
        | nil => simpa [chars,listItems] using filtered
        | cons c rest => simp [chars,validate] at checked
      | null => simp [iterate] at iterated
      | bool _ => simp [iterate] at iterated
      | int _ => simp [iterate] at iterated
      | float _ => simp [iterate] at iterated

theorem runPluginWithTimeout_ok {plugin : PluginRun} {outcome : PluginOutcome}
    (ended : (runPluginWithTimeout plugin outcome).2.status = "ok") :
    ∃ value, outcome = .returned value ∧ (runPluginWithTimeout plugin outcome).1 = value := by
  cases outcome with
  | returned value =>
    cases callback : plugin.callback with
    | none => exact ⟨value,rfl,by simp [runPluginWithTimeout,callback]⟩
    | some error => simp [runPluginWithTimeout,callback,PluginMetadata.failed] at ended
  | timedOut =>
    cases callback : plugin.callback with
    | none => simp [runPluginWithTimeout,callback,PluginMetadata.timeout] at ended
    | some error => simp [runPluginWithTimeout,callback,PluginMetadata.failed] at ended
  | raised error =>
    simp only [runPluginWithTimeout] at ended
    split at ended
    · split at ended
      · simp [PluginMetadata.failed] at ended
      · split at ended <;> simp [PluginMetadata.timeout,PluginMetadata.failed] at ended
    · split at ended <;> simp [PluginMetadata.timeout,PluginMetadata.failed] at ended

/-- What the detector passes on comes from the plugin, or stands for its failure. -/
theorem executePluginScan_returned {usable : Bool} {outcome : PluginOutcome} {value : Json}
    (passed : executePluginScan usable outcome provider = .returned value) :
    (∃ raw, outcome = .returned raw ∧ (RegionScan.guarded provider = true → usable = true) ∧
      (value = raw ∨ value = listOrEmpty raw)) ∨
    (RegionScan.guarded provider = true ∧ value = .arr [] ∧
      (usable = false ∨ ∃ error, outcome = .raised error)) := by
  have sensitive : ∀ errors, guardedPluginScan usable errors outcome = .returned value →
      (∃ raw, outcome = .returned raw ∧ usable = true ∧ value = listOrEmpty raw) ∨
      value = .arr [] ∧ (usable = false ∨ ∃ error, outcome = .raised error) := by
    intro errors answered
    simp only [guardedPluginScan] at answered
    split at answered
    next unusable =>
      cases answered
      exact .inr ⟨rfl,.inl (by simpa using unusable)⟩
    next signed =>
      cases outcome with
      | returned raw =>
        cases answered
        exact .inl ⟨raw,rfl,by simpa using signed,rfl⟩
      | raised error =>
        dsimp only at answered
        split at answered
        · cases answered
          exact .inr ⟨rfl,.inr ⟨error,rfl⟩⟩
        · contradiction
      | timedOut => contradiction
  have plain : feedPluginScan outcome = .returned value →
      ∃ raw, outcome = .returned raw ∧ value = listOrEmpty raw := by
    intro answered
    cases outcome with
    | returned raw =>
      cases answered
      exact ⟨raw,rfl,rfl⟩
    | raised error => contradiction
    | timedOut => contradiction
  cases provider with
  | aws => exact .inl ⟨value,passed,by simp [RegionScan.guarded],.inl rfl⟩
  | azure =>
    rcases sensitive _ passed with ⟨raw,returned,signed,same⟩ | swallowed
    · exact .inl ⟨raw,returned,fun _ => signed,.inr same⟩
    · exact .inr ⟨rfl,swallowed⟩
  | gcp =>
    rcases sensitive _ passed with ⟨raw,returned,signed,same⟩ | swallowed
    · exact .inl ⟨raw,returned,fun _ => signed,.inr same⟩
    · exact .inr ⟨rfl,swallowed⟩
  | saas =>
    obtain ⟨raw,returned,same⟩ := plain passed
    exact .inl ⟨raw,returned,by simp [RegionScan.guarded],.inr same⟩
  | license =>
    obtain ⟨raw,returned,same⟩ := plain passed
    exact .inl ⟨raw,returned,by simp [RegionScan.guarded],.inr same⟩
  | platform =>
    obtain ⟨raw,returned,same⟩ := plain passed
    exact .inl ⟨raw,returned,by simp [RegionScan.guarded],.inr same⟩
  | hybrid =>
    obtain ⟨raw,returned,same⟩ := plain passed
    exact .inl ⟨raw,returned,by simp [RegionScan.guarded],.inr same⟩

theorem pluginResult_ok (ended : (run.pluginResult provider category).2.status = "ok")
    (valid : validateItems (run.detectorRegion provider) (run.pluginResult provider category).1 =
      .ok (values,kept)) :
    (run.Looked provider category ∨ run.Swallowed provider category) ∧
      kept = run.keptItems provider category := by
  obtain ⟨value,passed,result⟩ := runPluginWithTimeout_ok ended
  have filtered := validateItems_ok valid
  change (run.pluginResult provider category).1 = value at result
  rw [result] at filtered
  rcases executePluginScan_returned passed with ⟨raw,returned,signed,same⟩ | ⟨guards,empty,failed⟩
  · refine ⟨.inl ⟨signed,raw,returned⟩,?_⟩
    have sees : ¬(RegionScan.guarded provider = true ∧ ¬run.usable = true) := by
      rintro ⟨guards,unusable⟩
      exact unusable (signed guards)
    have itemsOf : kept = (listItems raw).filterMap (inRegion (run.detectorRegion provider)) := by
      rcases same with rfl | rfl <;> exact filtered
    simp only [RegionScan.keptItems,returned]
    cases raw with
    | arr values => simp only [itemsOf,listItems,if_neg sees]
    | null => simp [itemsOf,listItems]
    | bool _ => simp [itemsOf,listItems]
    | int _ => simp [itemsOf,listItems]
    | float _ => simp [itemsOf,listItems]
    | str _ => simp [itemsOf,listItems]
    | obj _ => simp [itemsOf,listItems]
  · refine ⟨.inr ⟨guards,failed⟩,?_⟩
    subst empty
    rw [filtered]
    rcases failed with unusable | ⟨error,raised⟩
    · simp only [RegionScan.keptItems]
      split
      · simp [guards,unusable,listItems]
      · rfl
    · simp [RegionScan.keptItems,raised,listItems]

theorem map_replace_fresh {α : Type} {members : List (String × α)} {key : String} {value : α}
    (fresh : key ∉ members.map Prod.fst) :
    (members.map fun e => if e.1 = key then (key,value) else e) = members := by
  conv_rhs => rw [← List.map_id members]
  apply List.map_congr_left
  intro e member
  have apart : e.1 ≠ key := by
    rintro rfl
    exact fresh (List.mem_map.mpr ⟨e,member,rfl⟩)
  simp [apart]

theorem assign_middle {α : Type} {front back : List (String × α)} {key : String} {old value : α}
    (before : key ∉ front.map Prod.fst) (after : key ∉ back.map Prod.fst) :
    assign (front ++ (key,old) :: back) key value = front ++ (key,value) :: back := by
  have present : (front ++ (key,old) :: back).any (·.1 = key) = true := by simp
  simp only [assign,present,if_true,List.map_append,List.map_cons,map_replace_fresh before,
    map_replace_fresh after]

theorem initial_items {categories : List String} (distinct : categories.Nodup) :
    (ScanResults.initial categories).items = categories.map fun category => (category,[]) := by
  have grows := @foldl_assign _ [] (categories.map fun category => (category,([] : List Item)))
    (by simpa [Function.comp_def] using distinct)
  simpa [ScanResults.initial,List.foldl_map] using grows

theorem aggregate_degraded {entries : List (String × Json × PluginMetadata)} {error : Option Failure}
    (gathered : results.aggregate region entries = (final,error)) :
    results.degraded = true → final.degraded = true := by
  induction entries generalizing results with
  | nil =>
    cases gathered
    exact id
  | cons entry rest ih =>
    obtain ⟨category,value,metadata⟩ := entry
    intro degraded
    simp only [ScanResults.aggregate] at gathered
    split at gathered
    · cases gathered
      exact degraded
    · exact ih gathered (by simp [ScanResults.record,degraded])

/-- The loop over plugins of distinct categories: either it ends early, or it is degraded, or every
plugin ended well and the results hold what each kept. -/
theorem aggregate_clean {entries : List (String × Json × PluginMetadata)}
    {done : List (String × List Item)} (distinct : (entries.map Prod.fst).Nodup)
    (fresh : ∀ entry ∈ entries, entry.1 ∉ done.map Prod.fst)
    (items : results.items = done ++ entries.map fun entry => (entry.1,[]))
    (gathered : results.aggregate region entries = (final,none)) (clean : final.degraded = false) :
    ∃ kept : String → List Item, final.items = done ++ entries.map (fun entry => (entry.1,kept entry.1)) ∧
      ∀ entry ∈ entries, entry.2.2.status = "ok" ∧
        ∃ values, validateItems region entry.2.1 = .ok (values,kept entry.1) := by
  induction entries generalizing results done with
  | nil =>
    cases gathered
    exact ⟨fun _ => [],by simpa using items,by simp⟩
  | cons entry rest ih =>
    obtain ⟨category,value,metadata⟩ := entry
    obtain ⟨new,distinct⟩ := List.nodup_cons.mp distinct
    simp only [ScanResults.aggregate] at gathered
    cases checked : validateItems region value with
    | error error => simp [checked] at gathered
    | ok found =>
      obtain ⟨values,kept⟩ := found
      simp only [checked] at gathered
      have unlisted := fresh (category,value,metadata) List.mem_cons_self
      have later : category ∉ (rest.map fun entry => (entry.1,([] : List Item))).map Prod.fst := by
        simpa using new
      have placed : (results.record category values.length kept metadata).items =
          (done ++ [(category,kept)]) ++ rest.map fun entry => (entry.1,[]) := by
        simp only [ScanResults.record,items,List.map_cons]
        rw [assign_middle unlisted later]
        simp
      have others : ∀ entry ∈ rest, entry.1 ∉ (done ++ [(category,kept)]).map Prod.fst := by
        intro entry listed
        simp only [List.map_append,List.mem_append,not_or]
        refine ⟨fresh entry (List.mem_cons_of_mem _ listed),?_⟩
        simp only [List.map_cons,List.map_nil,List.mem_singleton]
        rintro same
        exact new (List.mem_map.mpr ⟨entry,listed,same⟩)
      obtain ⟨keeps,final_items,all⟩ := ih distinct others placed gathered
      have good : metadata.status = "ok" := by
        by_contra bad
        have monotone := aggregate_degraded gathered
        simp [ScanResults.record,bad,clean] at monotone
      refine ⟨Function.update keeps category kept,?_,?_⟩
      · rw [final_items]
        have same : rest.map (fun entry => (entry.1,Function.update keeps category kept entry.1)) =
            rest.map fun entry => (entry.1,keeps entry.1) := by
          apply List.map_congr_left
          intro entry listed
          have apart : entry.1 ≠ category := by
            rintro same
            exact new (List.mem_map.mpr ⟨entry,listed,same⟩)
          rw [Function.update_of_ne apart]
        simp [same]
      · intro entry listed
        rcases List.mem_cons.mp listed with rfl | later
        · exact ⟨good,values,by simp [checked]⟩
        · have apart : entry.1 ≠ category := by
            rintro same
            exact new (List.mem_map.mpr ⟨entry,later,same⟩)
          rw [Function.update_of_ne apart]
          exact all entry later

structure CleanScan (provider : Provider) (run : RegionScan) (results : ScanResults) : Prop where
  items : results.items = provider.plugins.map fun category => (category,run.keptItems provider category)
  ended : ∀ category ∈ provider.plugins, run.Looked provider category ∨ run.Swallowed provider category
  error : results.error = none
  overallError : results.overallError = none

theorem aggregate_errors {entries : List (String × Json × PluginMetadata)} {error : Option Failure}
    (gathered : results.aggregate region entries = (final,error)) :
    final.error = results.error ∧ final.overallError = results.overallError := by
  induction entries generalizing results with
  | nil =>
    cases gathered
    exact ⟨rfl,rfl⟩
  | cons entry rest ih =>
    obtain ⟨category,value,metadata⟩ := entry
    simp only [ScanResults.aggregate] at gathered
    split at gathered
    · cases gathered
      exact ⟨rfl,rfl⟩
    next values kept _ =>
      have later := ih gathered
      exact later

theorem gather_clean (gathered : run.gather provider = (final,none)) (clean : final.degraded = false) :
    CleanScan provider run final := by
  simp only [RegionScan.gather] at gathered
  have keys : ((provider.plugins.map fun category =>
      (category,run.pluginResult provider category)).map Prod.fst).Nodup := by
    rw [List.map_map]
    exact (List.map_id provider.plugins).symm ▸ provider.plugins_nodup
  have empty : (ScanResults.initial provider.plugins).items =
      [] ++ (provider.plugins.map fun category => (category,run.pluginResult provider category)).map
        fun entry => (entry.1,[]) := by
    rw [initial_items provider.plugins_nodup,List.map_map]
    rfl
  obtain ⟨kept,items,ended⟩ := aggregate_clean keys (by simp) empty gathered clean
  obtain ⟨error,overallError⟩ := aggregate_errors gathered
  have each : ∀ category ∈ provider.plugins,
      (run.Looked provider category ∨ run.Swallowed provider category) ∧
        kept category = run.keptItems provider category := by
    intro category listed
    obtain ⟨good,values,valid⟩ := ended _ (List.mem_map.mpr ⟨category,listed,rfl⟩)
    exact pluginResult_ok good valid
  refine ⟨?_,fun category listed => (each category listed).1,error,overallError⟩
  rw [items,List.nil_append,List.map_map]
  apply List.map_congr_left
  intro category listed
  simp [(each category listed).2]

variable {rt : Runtime}

theorem scanPlugins_clean (scanned : run.scanPlugins rt provider = .ok results)
    (clean : results.degraded = false) : CleanScan provider run results := by
  rcases gathered : run.gather provider with ⟨found,error⟩
  simp only [RegionScan.scanPlugins,gathered] at scanned
  cases error with
  | some error =>
    dsimp only at scanned
    split at scanned
    · cases scanned
      simp [ScanResults.fail] at clean
    · contradiction
  | none =>
    dsimp only at scanned
    split at scanned
    · cases scanned
      exact gather_clean gathered clean
    · split at scanned
      · cases scanned
        simp [ScanResults.fail] at clean
      · contradiction

theorem scanAll_clean (scanned : run.scanAll rt provider = .ok results)
    (clean : results.degraded = false) : CleanScan provider run results := by
  cases provider with
  | aws =>
    simp only [RegionScan.scanAll] at scanned
    cases inventory : run.inventory with
    | error error => simp [inventory,Except.bind] at scanned
    | ok found =>
      cases plugins : run.scanPlugins rt .aws with
      | error error => simp [inventory,plugins,Except.bind,Except.map] at scanned
      | ok gathered =>
        simp only [inventory,plugins,Except.bind,Except.map,Except.ok.injEq] at scanned
        cases found with
        | none =>
          cases scanned
          exact scanPlugins_clean plugins clean
        | some account =>
          simp only [RegionScan.applyInventoryCompleteness] at scanned
          split at scanned
          · subst scanned
            have same := scanPlugins_clean plugins clean
            exact ⟨same.items,same.ended,same.error,same.overallError⟩
          · subst scanned
            simp at clean
  | azure => exact scanPlugins_clean scanned clean
  | gcp => exact scanPlugins_clean scanned clean
  | saas => exact scanPlugins_clean scanned clean
  | license => exact scanPlugins_clean scanned clean
  | platform => exact scanPlugins_clean scanned clean
  | hybrid => exact scanPlugins_clean scanned clean

end Detector

end Valdrics.ZombieScan

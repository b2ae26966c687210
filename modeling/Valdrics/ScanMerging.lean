import Valdrics.DetectorOutcomes
import Valdrics.ZombieScans

/-! A merge that leaves the payload complete: each step is a detector's scan that was not degraded,
and its kept items are appended to their buckets. -/
namespace Valdrics.ZombieScan

open Enforcement (Json Uuid)

namespace Payload

def bucket (payload : Payload) (key : String) : List Reported := (payload.buckets.find key).getD []

end Payload

def Step.kept (step : Step) (key : String) : List Item :=
  match step.outcome with
  | .scanned run => (step.connection.provider.plugins.filter (uiKey · = key)).flatMap
      (run.keptItems step.connection.provider)
  | _ => []

def Step.regionOverride (step : Step) : Option String :=
  match step.outcome with
  | .scanned run => run.regionOverride step.connection.provider
  | _ => none

section Merging

variable {rt : Runtime} {features : Features} {connection : Connection} {regionOverride : Option String}
  {payload merged : Payload} {key : String} {step : Step} {buckets : Table String (List Reported)}
  {items : List Reported}

theorem bucket_mergeCategory (entry : String × List Item) :
    (payload.mergeCategory rt features connection regionOverride entry).bucket key = payload.bucket key ++
      if uiKey entry.1 = key then entry.2.filterMap (stamp rt features connection regionOverride) else [] := by
  simp only [Payload.bucket,Payload.mergeCategory,Payload.addErrors,Payload.markPartial,appendTo,
    Table.find_upsert]
  by_cases same : key = uiKey entry.1
  · subst same
    cases payload.buckets.find (uiKey entry.1) <;> simp
  · simp [same,Ne.symm same]

theorem invalidCost_none {item : Item} :
    invalidCost rt connection regionOverride key item = none ↔
      ∃ reported, stamp rt features connection regionOverride item = some reported := by
  cases cost : coerceMonthlyCost rt item <;> simp [invalidCost,stamp,cost]

theorem partial_mergeCategory {entry : String × List Item}
    (clean : (payload.mergeCategory rt features connection regionOverride entry).partialResults = false) :
    payload.partialResults = false ∧ ∀ item ∈ entry.2, ∃ reported,
      stamp rt features connection regionOverride item = some reported := by
  simp only [Payload.mergeCategory,Payload.addErrors,Payload.markPartial,Bool.or_eq_false_iff,
    Bool.not_eq_false',List.isEmpty_iff,List.filterMap_eq_nil_iff] at clean
  exact ⟨clean.1,fun item listed => invalidCost_none.mp (clean.2 item listed)⟩

theorem foldl_mergeCategory (entries : List (String × List Item)) (payload : Payload)
    (clean : (entries.foldl (Payload.mergeCategory rt features connection regionOverride)
      payload).partialResults = false) :
    payload.partialResults = false ∧ ∀ key,
      ((entries.foldl (Payload.mergeCategory rt features connection regionOverride) payload).bucket key).map
        some = (payload.bucket key).map some ++ ((entries.filter (uiKey ·.1 = key)).flatMap
          Prod.snd).map (stamp rt features connection regionOverride) := by
  induction entries generalizing payload with
  | nil => exact ⟨clean,fun key => by simp⟩
  | cons entry rest ih =>
    obtain ⟨later,buckets⟩ := ih _ clean
    obtain ⟨before,valid⟩ := partial_mergeCategory later
    refine ⟨before,fun key => ?_⟩
    have stamped : (entry.2.filterMap (stamp rt features connection regionOverride)).map some =
        entry.2.map (stamp rt features connection regionOverride) := by
      have all : ∀ items : List Item, (∀ item ∈ items, ∃ reported,
          stamp rt features connection regionOverride item = some reported) →
          (items.filterMap (stamp rt features connection regionOverride)).map some =
            items.map (stamp rt features connection regionOverride) := by
        intro items valid
        induction items with
        | nil => rfl
        | cons item items ih =>
          obtain ⟨reported,stamped⟩ := valid item List.mem_cons_self
          have others := ih fun later listed => valid later (List.mem_cons_of_mem _ listed)
          simp [stamped,others]
      exact all entry.2 valid
    rw [List.foldl_cons,buckets key,bucket_mergeCategory]
    by_cases same : uiKey entry.1 = key
    · simp [same,stamped]
    · simp [same]

theorem foldl_mergeCategory_summaries (entries : List (String × List Item)) (payload : Payload) :
    (entries.foldl (Payload.mergeCategory rt features connection regionOverride) payload).scanCompleteness =
      payload.scanCompleteness := by
  induction entries generalizing payload with
  | nil => rfl
  | cons entry rest ih => exact ih _

def Summary.scope (rt : Runtime) (summary : Summary) : Scope :=
  (summary.provider,summary.connectionId,normalizeRegion rt summary.region)

structure CleanStep (rt : Runtime) (features : Features) (payload : Payload) (step : Step) (run : RegionScan)
    (next : Payload) : Prop where
  outcome : step.outcome = .scanned run
  ended : ∀ category ∈ step.connection.provider.plugins,
    run.Looked step.connection.provider category ∨ run.Swallowed step.connection.provider category
  buckets : ∀ key, (next.bucket key).map some = (payload.bucket key).map some ++
    (step.kept key).map (stamp rt features step.connection step.regionOverride)
  scopes : next.scanCompleteness.map (Summary.scope rt) = payload.scanCompleteness.map (Summary.scope rt) ++
    [(step.connection.provider,step.connection.id,
      normalizeRegion rt (run.summaryRegion step.connection.provider))]

theorem mergeScanResults_clean {results : ScanResults} {run : RegionScan} {connection : Connection}
    (clean : (payload.mergeScanResults rt features connection regionOverride
      (run.summaryRegion connection.provider) results).partialResults = false) :
    results.degraded = false ∧
      (results.items.foldl (Payload.mergeCategory rt features connection regionOverride)
        payload).partialResults = false := by
  have degrades : ∀ (payload : Payload) (region : String), results.degraded = true →
      (payload.mergeCompleteness rt connection region results).partialResults = true := by
    intro payload region degraded
    have marked : ∀ payload : Payload, payload.partialResults = true → ∀ inventory,
        (payload.mergeInventory rt connection region inventory).partialResults = true := by
      intro payload isPartial inventory
      cases inventory with
      | none => exact isPartial
      | some inventory =>
        simp only [Payload.mergeInventory]
        split <;> exact isPartial
    simp only [Payload.mergeCompleteness,degraded,if_true]
    split
    · exact marked _ (by simp [Payload.addErrors,Payload.markPartial]) _
    · simp [Payload.addErrors,Payload.markPartial]
  cases degraded : results.degraded with
  | true =>
    simp only [Payload.mergeScanResults] at clean
    split at clean
    · rw [degrades _ _ degraded] at clean
      contradiction
    · simp [Payload.addErrors,Payload.markPartial] at clean
  | false =>
    refine ⟨rfl,?_⟩
    simp only [Payload.mergeScanResults,Payload.mergeCompleteness,degraded,Bool.false_eq_true,if_false]
      at clean
    split at clean
    · split at clean
      · exact clean
      · simp [Payload.addErrors,Payload.markPartial] at clean
    · simp [Payload.addErrors,Payload.markPartial] at clean

theorem kept_scanned {run : RegionScan} (outcome : step.outcome = .scanned run) (key : String) :
    ((step.connection.provider.plugins.map fun category =>
      (category,run.keptItems step.connection.provider category)).filter (uiKey ·.1 = key)).flatMap
        Prod.snd = step.kept key := by
  simp only [Step.kept,outcome]
  generalize step.connection.provider.plugins = categories
  induction categories with
  | nil => rfl
  | cons category rest ih =>
    by_cases same : uiKey category = key
    · simp [same,ih]
    · simp [same,ih]

theorem mergeStep_clean (ended : mergeStep rt features payload step = .ok merged)
    (clean : merged.partialResults = false) : payload.partialResults = false ∧
      ∃ run, CleanStep rt features payload step run merged := by
  cases outcome : step.outcome with
  | failed error =>
    simp only [mergeStep,outcome] at ended
    split at ended
    · cases ended
      simp [Payload.appendError,Payload.addErrors,Payload.markPartial] at clean
    · contradiction
  | unfinished =>
    simp only [mergeStep,outcome] at ended
    cases ended
    simp [Payload.markPartial] at clean
  | scanned run =>
    simp only [mergeStep,outcome] at ended
    cases scanned : run.scanAll rt step.connection.provider with
    | error error =>
      simp only [scanned] at ended
      split at ended
      · cases ended
        simp [Payload.appendError,Payload.addErrors,Payload.markPartial] at clean
      · contradiction
    | ok results =>
      simp only [scanned,Except.ok.injEq] at ended
      subst ended
      obtain ⟨fine,sound⟩ := mergeScanResults_clean clean
      have detector := scanAll_clean scanned fine
      obtain ⟨before,buckets⟩ := foldl_mergeCategory _ _ sound
      refine ⟨before,run,outcome,detector.ended,?_,?_⟩
      · intro key
        have merged := buckets key
        rw [detector.items,kept_scanned outcome] at merged
        simp only [Step.regionOverride,outcome]
        simp only [Payload.mergeScanResults,Payload.mergeCompleteness,fine,detector.error,
          detector.overallError,Bool.false_eq_true,if_false,Option.filter_none]
        rw [← detector.items] at merged
        exact merged
      · simp only [Payload.mergeScanResults,Payload.mergeCompleteness,fine,detector.error,
          detector.overallError,Bool.false_eq_true,if_false,Option.filter_none,
          foldl_mergeCategory_summaries,List.map_append]
        rfl

theorem mergeSteps_clean {steps : List Step} (ended : mergeSteps rt features payload steps = .ok merged)
    (clean : merged.partialResults = false) : payload.partialResults = false ∧
      (∀ step ∈ steps, ∃ run, step.outcome = .scanned run ∧
        ∀ category ∈ step.connection.provider.plugins,
          run.Looked step.connection.provider category ∨ run.Swallowed step.connection.provider category) ∧
      (∀ key, (merged.bucket key).map some = (payload.bucket key).map some ++
        steps.flatMap fun step => (step.kept key).map (stamp rt features step.connection step.regionOverride)) ∧
      merged.scanCompleteness.map (Summary.scope rt) = payload.scanCompleteness.map (Summary.scope rt) ++
        steps.filterMap fun step =>
          match step.outcome with
          | .scanned run => some (step.connection.provider,step.connection.id,
              normalizeRegion rt (run.summaryRegion step.connection.provider))
          | _ => none := by
  induction steps generalizing payload with
  | nil =>
    cases ended
    exact ⟨clean,by simp,by simp,by simp⟩
  | cons step rest ih =>
    simp only [mergeSteps] at ended
    cases first : mergeStep rt features payload step with
    | error error => simp [first] at ended
    | ok next =>
      simp only [first] at ended
      obtain ⟨later,others,buckets,scopes⟩ := ih ended
      obtain ⟨before,run,good⟩ := mergeStep_clean first later
      refine ⟨before,?_,?_,?_⟩
      · intro other listed
        rcases List.mem_cons.mp listed with rfl | later
        · exact ⟨run,good.outcome,good.ended⟩
        · exact others other later
      · intro key
        rw [buckets key,good.buckets key,List.flatMap_cons,List.append_assoc]
      · rw [scopes,good.scopes,List.filterMap_cons,good.outcome,List.append_assoc]
        rfl

end Merging

end Valdrics.ZombieScan

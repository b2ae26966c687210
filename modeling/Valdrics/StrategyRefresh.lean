import Valdrics.StrategyAnalysis

/-! The refresh of a tenant's recommendations. Each strategy's open recommendations
are deleted at once, the new ones are inserted after the loop, and one commit ends
the refresh. The loop goes on after a `RuntimeError` only, which no strategy raises;
what the strategies do raise ends the refresh. -/
namespace Valdrics.Strategies

open Enforcement (Json Uuid)
open JsonValue (truthy)
open PythonText

structure State (F : Type) where
  strategies : List OptimizationStrategy
  recommendations : List (StrategyRecommendation F)
  distinct : (strategies.map (·.id)).Nodup

/-- The ids that the database gives to the rows of `build_default_strategies`. -/
structure Fresh {F : Type} (s : State F) where
  ids : Fin 4 → Uuid
  injective : Function.Injective ids
  absent : ∀ i, ids i ∉ s.strategies.map (·.id)

abbrev UsageKey := Option String × Option String

def rates (term payment : String) (mid low high : Int) : Json :=
  .obj [("term",.str term),("payment_option",.str payment),("savings_rate",.float ⟨mid,-2⟩),
    ("savings_rate_low",.float ⟨low,-2⟩),("savings_rate_high",.float ⟨high,-2⟩),
    ("upfront_cost",.float ⟨0,0⟩)]

def reservationConfig (label : String) (oneYear threeYears : Json) : Json :=
  .obj [("commitment_label",.str label),("region_scope",.str "top_region"),
    ("min_hourly_threshold",.float ⟨5,-2⟩),("hours_per_month",.float ⟨730,0⟩),
    ("backtest_tolerance",.float ⟨30,-2⟩),("offers",.arr [oneYear,threeYears])]

/-- `build_default_strategies`. -/
def buildDefaultStrategies (ids : Fin 4 → Uuid) : List OptimizationStrategy := [
  { id := ids 0, name := "AWS Compute Savings Plan", type := "savings_plan", provider := "aws"
    config := .obj [("min_hourly_threshold",.float ⟨5,-2⟩),("hours_per_month",.float ⟨730,0⟩),
      ("savings_rate",.float ⟨25,-2⟩),("savings_rate_low",.float ⟨20,-2⟩),
      ("savings_rate_high",.float ⟨30,-2⟩),("backtest_tolerance",.float ⟨30,-2⟩)]
    isActive := true },
  { id := ids 1, name := "AWS EC2 Reserved Instances", type := "reserved_instance"
    provider := "aws"
    config := reservationConfig "EC2 Reserved Instances" (rates "1_year" "no_upfront" 30 25 35)
      (rates "3_year" "all_upfront" 45 38 52)
    isActive := true },
  { id := ids 2, name := "Azure VM Reservations", type := "azure_reservation", provider := "azure"
    config := reservationConfig "Azure VM Reservations" (rates "1_year" "no_upfront" 25 20 30)
      (rates "3_year" "all_upfront" 40 32 48)
    isActive := true },
  { id := ids 3, name := "GCP Compute Engine CUD", type := "committed_use_discount"
    provider := "gcp"
    config := reservationConfig "GCP CUD (Compute Engine)" (rates "1_year" "no_upfront" 20 15 25)
      (rates "3_year" "all_upfront" 35 28 42)
    isActive := true }]

theorem defaults_ids (ids : Fin 4 → Uuid) :
    (buildDefaultStrategies ids).map (·.id) = List.ofFn ids := by
  simp [buildDefaultStrategies,List.ofFn_succ]

theorem defaults_active {ids : Fin 4 → Uuid} :
    ∀ seeded ∈ buildDefaultStrategies ids, seeded.isActive = true := by
  simp [buildDefaultStrategies]

namespace State

variable {F : Type} {s : State F} {fresh : Fresh s}

def active (s : State F) : List OptimizationStrategy := s.strategies.filter (·.isActive)

def seed (s : State F) (fresh : Fresh s) : State F where
  strategies := s.strategies ++ buildDefaultStrategies fresh.ids
  recommendations := s.recommendations
  distinct := by
    rw [List.map_append,defaults_ids]
    refine List.nodup_append'.mpr ⟨s.distinct,List.nodup_ofFn.mpr fresh.injective,?_⟩
    intro id old seeded
    obtain ⟨i,rfl⟩ := (List.mem_ofFn' _ _).mp seeded
    exact fresh.absent i old

def refreshed (s : State F) (fresh : Fresh s) : List OptimizationStrategy :=
  if s.active = [] then buildDefaultStrategies fresh.ids else s.active

/-- The tables after `_seed_default_strategies`, which commits by itself. -/
def seeded (s : State F) (fresh : Fresh s) : State F :=
  if s.active = [] then s.seed fresh else s

theorem seeded_recommendations : (s.seeded fresh).recommendations = s.recommendations := by
  unfold seeded
  split <;> rfl

theorem seeded_active : (s.seeded fresh).active = s.refreshed fresh := by
  unfold seeded refreshed
  split
  next none =>
    have all : (buildDefaultStrategies fresh.ids).filter (·.isActive) =
        buildDefaultStrategies fresh.ids := List.filter_eq_self.mpr defaults_active
    simp only [active,seed,List.filter_append,all]
    simp only [active] at none
    rw [none,List.nil_append]
  · rfl

theorem refreshed_ne_nil : s.refreshed fresh ≠ [] := by
  unfold refreshed
  split
  · simp [buildDefaultStrategies]
  next some => exact some

theorem refreshed_distinct : ((s.refreshed fresh).map (·.id)).Nodup := by
  rw [← seeded_active]
  exact (s.seeded fresh).distinct.sublist (List.filter_sublist.map _)

end State

/-- The local variables of the loop and the table as its transaction sees it. -/
structure Refresh (F : Type) where
  usageCache : List (UsageKey × Usage F) := []
  table : List (StrategyRecommendation F)
  allRecommendations : List (StrategyRecommendation F) := []
  stateChanged : Bool := false

section

variable {F : Type} (rt : Runtime F) (aggregateUsage : UsageKey → Usage F) (tenantId : Uuid)

/-- A column's text, `none` where it is blank. -/
def normalized (text : String) : Option String :=
  if rt.text.lower (strip text) = "" then none else some (rt.text.lower (strip text))

def usageKey (strategy : OptimizationStrategy) : UsageKey :=
  (normalized rt strategy.provider,
    if strategy.strategyType rt ∈ ["savings_plan","reserved_instance","azure_reservation",
      "committed_use_discount"] then some "compute" else none)

def Refresh.usage (run : Refresh F) (key : UsageKey) : Usage F × Refresh F :=
  match run.usageCache.lookup key with
  | some usage => (usage,run)
  | none => (aggregateUsage key,
      { run with usageCache := (key,aggregateUsage key) :: run.usageCache })

def isOpenOf (strategyId : Uuid) (rec_ : StrategyRecommendation F) : Bool :=
  rec_.tenantId = tenantId && rec_.strategyId = strategyId && rec_.status = "open"

def Refresh.replace (run : Refresh F) (strategy : OptimizationStrategy)
    (recs : List (StrategyRecommendation F)) : Refresh F :=
  { run with
    table := run.table.filter fun rec_ => !isOpenOf tenantId strategy.id rec_
    allRecommendations := run.allRecommendations ++ recs
    stateChanged := true }

def refreshStrategy (run : Refresh F) (strategy : OptimizationStrategy) :
    Except Failure (Refresh F) :=
  match getStrategyImpl rt strategy with
  | none => .ok run
  | some impl => do
    let (usage,run) := run.usage aggregateUsage (usageKey rt strategy)
    let recs ← impl.analyze rt tenantId strategy usage
    return run.replace tenantId strategy recs

def Refresh.finish (run : Refresh F) (s : State F) :
    State F × Except Failure (List (StrategyRecommendation F)) :=
  if run.stateChanged then
    if run.allRecommendations.all rt.storable then
      ({ s with recommendations := run.table ++ run.allRecommendations },
        .ok run.allRecommendations)
    else (s,.error .dataError)
  else (s,.ok run.allRecommendations)

/-- `generate_recommendations`: the tables it leaves and what it returns or raises. -/
def generateRecommendations (s : State F) (fresh : Fresh s) :
    State F × Except Failure (List (StrategyRecommendation F)) :=
  let seeded := s.seeded fresh
  match (s.refreshed fresh).foldlM (refreshStrategy rt aggregateUsage tenantId)
      { table := seeded.recommendations } with
  | .error failure => (seeded,.error failure)
  | .ok run => run.finish rt seeded

/-- What a row's strategy returns or raises, `none` for a row of an unsupported type. -/
def analysis (strategy : OptimizationStrategy) :
    Option (Except Failure (List (StrategyRecommendation F))) :=
  (getStrategyImpl rt strategy).map fun impl =>
    impl.analyze rt tenantId strategy (aggregateUsage (usageKey rt strategy))

def produced (strategy : OptimizationStrategy) : List (StrategyRecommendation F) :=
  match analysis rt aggregateUsage tenantId strategy with
  | some (.ok recs) => recs
  | _ => []

def succeeded (strategy : OptimizationStrategy) : Bool :=
  match analysis rt aggregateUsage tenantId strategy with
  | some (.ok _) => true
  | _ => false

def replaced (strategies : List OptimizationStrategy) (rec_ : StrategyRecommendation F) : Bool :=
  strategies.any fun strategy =>
    succeeded rt aggregateUsage tenantId strategy && isOpenOf tenantId strategy.id rec_

structure Refreshed (done : List OptimizationStrategy)
    (before : List (StrategyRecommendation F)) (run : Refresh F) : Prop where
  cached : ∀ entry ∈ run.usageCache, entry.2 = aggregateUsage entry.1
  table : run.table =
    before.filter fun rec_ => !replaced rt aggregateUsage tenantId done rec_
  all : run.allRecommendations = done.flatMap (produced rt aggregateUsage tenantId)
  changed : run.stateChanged = done.any (succeeded rt aggregateUsage tenantId)

end

section

variable {F : Type} {rt : Runtime F} {aggregateUsage : UsageKey → Usage F} {tenantId : Uuid}
  {done strategies : List OptimizationStrategy} {before : List (StrategyRecommendation F)}
  {run : Refresh F} {strategy : OptimizationStrategy} {s : State F} {fresh : Fresh s}

theorem Refreshed.usage (sound : Refreshed rt aggregateUsage tenantId done before run)
    (key : UsageKey) :
    (run.usage aggregateUsage key).1 = aggregateUsage key ∧
      Refreshed rt aggregateUsage tenantId done before (run.usage aggregateUsage key).2 := by
  unfold Refresh.usage
  cases seen : run.usageCache.lookup key with
  | some usage =>
    obtain ⟨front,back,is,_⟩ := List.lookup_eq_some_iff.mp seen
    refine ⟨sound.cached (key,usage) ?_,sound⟩
    rw [is]
    exact List.mem_append_right _ List.mem_cons_self
  | none =>
    refine ⟨rfl,?_,sound.table,sound.all,sound.changed⟩
    intro entry listed
    rcases List.mem_cons.mp listed with rfl | listed
    · rfl
    · exact sound.cached entry listed

theorem produced_mem {rec_ : StrategyRecommendation F}
    (listed : rec_ ∈ produced rt aggregateUsage tenantId strategy) :
    succeeded rt aggregateUsage tenantId strategy = true ∧ rec_.strategyId = strategy.id ∧
      isOpenOf tenantId strategy.id rec_ = true := by
  unfold produced at listed
  split at listed
  next recs analysed =>
    obtain ⟨impl,_,returns⟩ := Option.map_eq_some_iff.mp analysed
    obtain ⟨tenant,same,opened⟩ := analyze_mem rt returns rec_ listed
    exact ⟨by simp only [succeeded,analysed],same,by simp [isOpenOf,tenant,same,opened]⟩
  · cases listed

theorem Refreshed.skip (sound : Refreshed rt aggregateUsage tenantId done before run)
    (unsupported : analysis rt aggregateUsage tenantId strategy = none) :
    Refreshed rt aggregateUsage tenantId (done ++ [strategy]) before run := by
  have failed : succeeded rt aggregateUsage tenantId strategy = false := by
    simp only [succeeded,unsupported]
  have nothing : produced rt aggregateUsage tenantId strategy = [] := by
    simp only [produced,unsupported]
  refine ⟨sound.cached,?_,?_,?_⟩
  · simpa only [replaced,List.any_append,List.any_cons,List.any_nil,failed,Bool.false_and,
      Bool.or_false] using sound.table
  · simpa only [List.flatMap_append,List.flatMap_singleton,nothing,List.append_nil] using sound.all
  · simpa only [List.any_append,List.any_cons,List.any_nil,failed,Bool.or_false] using sound.changed

theorem Refreshed.replace {recs : List (StrategyRecommendation F)}
    (sound : Refreshed rt aggregateUsage tenantId done before run)
    (analysed : analysis rt aggregateUsage tenantId strategy = some (.ok recs)) :
    Refreshed rt aggregateUsage tenantId (done ++ [strategy]) before
      (run.replace tenantId strategy recs) := by
  have works : succeeded rt aggregateUsage tenantId strategy = true := by
    simp only [succeeded,analysed]
  have lists : produced rt aggregateUsage tenantId strategy = recs := by
    simp only [produced,analysed]
  refine ⟨sound.cached,?_,?_,?_⟩
  · simp only [Refresh.replace,sound.table,List.filter_filter]
    apply List.filter_congr
    intro rec_ _
    simp only [replaced,List.any_append,List.any_cons,List.any_nil,works,Bool.true_and,
      Bool.or_false,Bool.not_or]
    exact Bool.and_comm _ _
  · simp only [Refresh.replace,sound.all,List.flatMap_append,List.flatMap_singleton,lists]
  · simp only [Refresh.replace,List.any_append,List.any_cons,works,Bool.true_or,Bool.or_true]

theorem refreshStrategy_eq (sound : Refreshed rt aggregateUsage tenantId done before run) :
    (∃ failure, analysis rt aggregateUsage tenantId strategy = some (.error failure) ∧
      refreshStrategy rt aggregateUsage tenantId run strategy = .error failure) ∨
    ((∀ failure, analysis rt aggregateUsage tenantId strategy ≠ some (.error failure)) ∧
      ∃ next, refreshStrategy rt aggregateUsage tenantId run strategy = .ok next ∧
        Refreshed rt aggregateUsage tenantId (done ++ [strategy]) before next) := by
  unfold refreshStrategy
  cases supported : getStrategyImpl rt strategy with
  | none =>
    have unsupported : analysis rt aggregateUsage tenantId strategy = none := by
      simp only [analysis,supported,Option.map_none]
    refine Or.inr ⟨fun failure fails => ?_,run,rfl,sound.skip unsupported⟩
    rw [unsupported] at fails
    cases fails
  | some impl =>
    have runs : analysis rt aggregateUsage tenantId strategy =
        some (impl.analyze rt tenantId strategy (aggregateUsage (usageKey rt strategy))) := by
      simp only [analysis,supported,Option.map_some]
    obtain ⟨same,kept⟩ := sound.usage (usageKey rt strategy)
    simp only [same]
    cases returns : impl.analyze rt tenantId strategy (aggregateUsage (usageKey rt strategy)) with
    | error failure => exact Or.inl ⟨failure,by rw [runs,returns],rfl⟩
    | ok recs =>
      rw [returns] at runs
      refine Or.inr ⟨fun failure fails => ?_,_,rfl,kept.replace runs⟩
      rw [runs] at fails
      cases fails

theorem loop_eq (strategies : List OptimizationStrategy)
    (sound : Refreshed rt aggregateUsage tenantId done before run) :
    ((∃ failure, strategies.foldlM (refreshStrategy rt aggregateUsage tenantId) run =
        .error failure) ∧
      ∃ strategy ∈ strategies, ∃ failure,
        analysis rt aggregateUsage tenantId strategy = some (.error failure)) ∨
    ((∀ strategy ∈ strategies, ∀ failure,
        analysis rt aggregateUsage tenantId strategy ≠ some (.error failure)) ∧
      ∃ last, strategies.foldlM (refreshStrategy rt aggregateUsage tenantId) run = .ok last ∧
        Refreshed rt aggregateUsage tenantId (done ++ strategies) before last) := by
  induction strategies generalizing done run with
  | nil => exact Or.inr ⟨by simp,run,rfl,by simpa using sound⟩
  | cons strategy rest ih =>
    simp only [List.foldlM_cons,bind,Except.bind]
    rcases @refreshStrategy_eq F rt aggregateUsage tenantId done before run strategy sound with
      ⟨failure,raises,stops⟩ | ⟨calm,next,goes,kept⟩
    · rw [stops]
      exact Or.inl ⟨⟨failure,rfl⟩,strategy,List.mem_cons_self,failure,raises⟩
    · rw [goes]
      rcases ih kept with ⟨stops,other,listed,raises⟩ | ⟨others,last,ends,all⟩
      · exact Or.inl ⟨stops,other,List.mem_cons_of_mem _ listed,raises⟩
      · rw [List.append_assoc] at all
        exact Or.inr ⟨List.forall_mem_cons.mpr ⟨calm,others⟩,last,ends,all⟩

/-- Without a storable row that is missing, the commit leaves what the loop made. -/
theorem finish_eq (sound : Refreshed rt aggregateUsage tenantId done s.recommendations run)
    (fits : run.allRecommendations.all rt.storable = true) :
    run.finish rt s = ({ s with recommendations := run.table ++ run.allRecommendations },
      .ok run.allRecommendations) := by
  unfold Refresh.finish
  rw [if_pos fits]
  cases changed : run.stateChanged with
  | true => rfl
  | false =>
    have none := sound.changed.symm.trans changed
    rw [List.any_eq_false] at none
    have table : run.table = s.recommendations := by
      rw [sound.table]
      apply List.filter_eq_self.mpr
      intro rec_ _
      rw [Bool.not_eq_true',replaced,List.any_eq_false]
      intro strategy listed
      simp [none strategy listed]
    have nothing : run.allRecommendations = [] := by
      rw [sound.all,List.flatMap_eq_nil_iff]
      intro strategy listed
      by_contra some
      obtain ⟨rec_,there⟩ := List.exists_mem_of_ne_nil _ some
      exact none strategy listed (produced_mem there).1
    simp [table,nothing]

theorem finish_refuses (refused : run.allRecommendations.all rt.storable = false)
    (sound : Refreshed rt aggregateUsage tenantId done before run) :
    run.finish rt s = (s,.error .dataError) := by
  have some : ∃ rec_ ∈ run.allRecommendations, rt.storable rec_ = false := by
    simpa using refused
  obtain ⟨rec_,listed,_⟩ := some
  rw [sound.all] at listed
  obtain ⟨strategy,there,made⟩ := List.mem_flatMap.mp listed
  have changed : run.stateChanged = true := by
    rw [sound.changed]
    exact List.any_eq_true.mpr ⟨strategy,there,(produced_mem made).1⟩
  simp only [Refresh.finish,changed,refused,if_true,Bool.false_eq_true,if_false]

def refreshedTable (rt : Runtime F) (aggregateUsage : UsageKey → Usage F) (tenantId : Uuid)
    (strategies : List OptimizationStrategy) (before : List (StrategyRecommendation F)) :
    List (StrategyRecommendation F) :=
  (before.filter fun rec_ => !replaced rt aggregateUsage tenantId strategies rec_) ++
    strategies.flatMap (produced rt aggregateUsage tenantId)

structure Analyses (rt : Runtime F) (aggregateUsage : UsageKey → Usage F) (tenantId : Uuid)
    (strategies : List OptimizationStrategy) : Prop where
  calm : ∀ strategy ∈ strategies, ∀ failure,
    analysis rt aggregateUsage tenantId strategy ≠ some (.error failure)
  fits : ∀ strategy ∈ strategies, ∀ rec_ ∈ produced rt aggregateUsage tenantId strategy,
    rt.storable rec_ = true

def refreshedState (rt : Runtime F) (aggregateUsage : UsageKey → Usage F) (tenantId : Uuid)
    (s : State F) (fresh : Fresh s) : State F :=
  let recommendations :=
    refreshedTable rt aggregateUsage tenantId (s.refreshed fresh) s.recommendations
  { s.seeded fresh with recommendations }

theorem generateRecommendations_eq (s : State F) (fresh : Fresh s) :
    (Analyses rt aggregateUsage tenantId (s.refreshed fresh) ∧
      ∃ recs, generateRecommendations rt aggregateUsage tenantId s fresh =
        (refreshedState rt aggregateUsage tenantId s fresh,.ok recs)) ∨
    (¬Analyses rt aggregateUsage tenantId (s.refreshed fresh) ∧
      ∃ failure, generateRecommendations rt aggregateUsage tenantId s fresh =
        (s.seeded fresh,.error failure)) := by
  have start : Refreshed rt aggregateUsage tenantId [] (s.seeded fresh).recommendations
      { table := (s.seeded fresh).recommendations } := by
    constructor <;> simp [replaced]
  rcases loop_eq (s.refreshed fresh) start with
    ⟨⟨failure,stops⟩,strategy,listed,_,raises⟩ | ⟨calm,last,ends,sound⟩
  · refine Or.inr ⟨fun analyses => analyses.calm strategy listed _ raises,failure,?_⟩
    simp only [generateRecommendations,stops]
  · simp only [generateRecommendations,ends]
    rw [List.nil_append] at sound
    have stored : last.allRecommendations.all rt.storable = true ↔
        ∀ strategy ∈ s.refreshed fresh, ∀ rec_ ∈ produced rt aggregateUsage tenantId strategy,
          rt.storable rec_ = true := by
      rw [sound.all,List.all_eq_true]
      constructor
      · exact fun all strategy listed rec_ made =>
          all rec_ (List.mem_flatMap.mpr ⟨strategy,listed,made⟩)
      · intro all rec_ listed
        obtain ⟨strategy,there,made⟩ := List.mem_flatMap.mp listed
        exact all strategy there rec_ made
    cases fits : last.allRecommendations.all rt.storable with
    | true =>
      refine Or.inl ⟨⟨calm,stored.mp fits⟩,last.allRecommendations,?_⟩
      rw [finish_eq sound fits,sound.table,sound.all,State.seeded_recommendations]
      rfl
    | false =>
      refine Or.inr ⟨fun analyses => ?_,.dataError,finish_refuses fits sound⟩
      rw [stored.mpr analyses.fits] at fits
      cases fits

def SameKind (rt : Runtime F) (a b : OptimizationStrategy) : Prop :=
  a.strategyType rt = b.strategyType rt ∧ normalized rt a.provider = normalized rt b.provider

def openOf (tenantId strategyId : Uuid) (recs : List (StrategyRecommendation F)) :
    List (StrategyRecommendation F) := recs.filter (isOpenOf tenantId strategyId)

def openRecommendations (tenantId : Uuid) (recs : List (StrategyRecommendation F)) :
    List (StrategyRecommendation F) :=
  recs.filter fun rec_ => rec_.tenantId = tenantId && rec_.status = "open"

/-- What a refresh is for: the strategies that could be analysed have the open
recommendations of their analyses, nothing else changed, a second refresh changes
nothing, and no seeded row stands in for a deactivated one. -/
structure Converges (rt : Runtime F) (aggregateUsage : UsageKey → Usage F) (tenantId : Uuid)
    (s : State F) (fresh : Fresh s) (after : State F)
    (outcome : Except Failure (List (StrategyRecommendation F))) : Prop where
  returns : ∃ recs, outcome = .ok recs
  opened : ∀ strategy ∈ s.refreshed fresh, ∀ recs,
    analysis rt aggregateUsage tenantId strategy = some (.ok recs) →
      (openOf tenantId strategy.id after.recommendations).Perm recs
  untouched :
    (after.recommendations.filter
      fun rec_ => !replaced rt aggregateUsage tenantId (s.refreshed fresh) rec_).Perm
    (s.recommendations.filter
      fun rec_ => !replaced rt aggregateUsage tenantId (s.refreshed fresh) rec_)
  again : ∀ second : Fresh after,
    (openRecommendations tenantId
      (generateRecommendations rt aggregateUsage tenantId after second).1.recommendations).Perm
    (openRecommendations tenantId after.recommendations)
  notSuperseded : ∀ row ∈ after.strategies, row ∉ s.strategies → row.isActive = true →
    ∀ old ∈ s.strategies, old.isActive = false → ¬SameKind rt row old

theorem refreshedTable_opened (distinct : (strategies.map (·.id)).Nodup)
    (listed : strategy ∈ strategies)
    (works : succeeded rt aggregateUsage tenantId strategy = true) :
    openOf tenantId strategy.id
        (refreshedTable rt aggregateUsage tenantId strategies before) =
      produced rt aggregateUsage tenantId strategy := by
  have gone : (before.filter fun rec_ =>
      !replaced rt aggregateUsage tenantId strategies rec_).filter
        (isOpenOf tenantId strategy.id) = [] := by
    rw [List.filter_filter,List.filter_eq_nil_iff]
    intro rec_ _
    simp only [Bool.and_eq_true,Bool.not_eq_true',not_and,Bool.not_eq_false]
    exact fun opened => List.any_eq_true.mpr ⟨strategy,listed,by rw [works,opened]; rfl⟩
  rw [openOf,refreshedTable,List.filter_append,gone,List.nil_append]
  clear gone
  have own : (produced rt aggregateUsage tenantId strategy).filter
      (isOpenOf tenantId strategy.id) = produced rt aggregateUsage tenantId strategy :=
    List.filter_eq_self.mpr fun rec_ made => (produced_mem made).2.2
  -- another strategy of the list recommends under another id
  have foreign : ∀ other : OptimizationStrategy, other.id ≠ strategy.id →
      (produced rt aggregateUsage tenantId other).filter (isOpenOf tenantId strategy.id) = [] := by
    intro other different
    rw [List.filter_eq_nil_iff]
    intro rec_ made
    have same := (produced_mem made).2.1
    simp [isOpenOf,same,different]
  induction strategies with
  | nil => cases listed
  | cons first rest ih =>
    rw [List.map_cons,List.nodup_cons] at distinct
    rw [List.flatMap_cons,List.filter_append]
    rcases List.mem_cons.mp listed with rfl | listed
    · have others : (rest.flatMap (produced rt aggregateUsage tenantId)).filter
          (isOpenOf tenantId strategy.id) = [] := by
        rw [List.filter_flatMap,List.flatMap_eq_nil_iff]
        intro other there
        apply foreign
        exact fun same => distinct.1 (same ▸ List.mem_map_of_mem there)
      rw [own,others,List.append_nil]
    · have different : first.id ≠ strategy.id :=
        fun same => distinct.1 (same ▸ List.mem_map_of_mem listed)
      rw [foreign first different,List.nil_append]
      exact ih distinct.2 listed

theorem refreshedTable_untouched (strategies : List OptimizationStrategy)
    (before : List (StrategyRecommendation F)) :
    (refreshedTable rt aggregateUsage tenantId strategies before).filter
        (fun rec_ => !replaced rt aggregateUsage tenantId strategies rec_) =
      before.filter fun rec_ => !replaced rt aggregateUsage tenantId strategies rec_ := by
  have gone : (strategies.flatMap (produced rt aggregateUsage tenantId)).filter
      (fun rec_ => !replaced rt aggregateUsage tenantId strategies rec_) = [] := by
    rw [List.filter_eq_nil_iff]
    intro rec_ listed
    obtain ⟨strategy,there,made⟩ := List.mem_flatMap.mp listed
    obtain ⟨works,_,opened⟩ := produced_mem made
    have touched : replaced rt aggregateUsage tenantId strategies rec_ = true :=
      List.any_eq_true.mpr ⟨strategy,there,by rw [works,opened]; rfl⟩
    simp [touched]
  rw [refreshedTable,List.filter_append,gone,List.append_nil,List.filter_filter]
  simp only [Bool.and_self]

theorem refreshedTable_again (strategies : List OptimizationStrategy)
    (before : List (StrategyRecommendation F)) :
    refreshedTable rt aggregateUsage tenantId strategies
        (refreshedTable rt aggregateUsage tenantId strategies before) =
      refreshedTable rt aggregateUsage tenantId strategies before := by
  conv_lhs => rw [refreshedTable,refreshedTable_untouched]
  rfl

theorem refreshedState_refreshed
    (second : Fresh (refreshedState rt aggregateUsage tenantId s fresh)) :
    (refreshedState rt aggregateUsage tenantId s fresh).refreshed second = s.refreshed fresh := by
  have active : (refreshedState rt aggregateUsage tenantId s fresh).active = s.refreshed fresh :=
    State.seeded_active
  rw [State.refreshed,active,if_neg State.refreshed_ne_nil]

theorem refreshedState_again
    (second : Fresh (refreshedState rt aggregateUsage tenantId s fresh)) :
    (refreshedState rt aggregateUsage tenantId
        (refreshedState rt aggregateUsage tenantId s fresh) second).recommendations =
      (refreshedState rt aggregateUsage tenantId s fresh).recommendations := by
  simp only [refreshedState,← refreshedState_refreshed second]
  exact refreshedTable_again _ _

def SeedsApart (rt : Runtime F) (s : State F) (fresh : Fresh s) : Prop :=
  s.active = [] → ∀ seeded ∈ buildDefaultStrategies fresh.ids,
    ∀ old ∈ s.strategies, ¬SameKind rt seeded old

theorem notSuperseded_iff : (∀ row ∈ (s.seeded fresh).strategies, row ∉ s.strategies →
    row.isActive = true → ∀ old ∈ s.strategies, old.isActive = false → ¬SameKind rt row old) ↔
      SeedsApart rt s fresh := by
  unfold State.seeded
  constructor
  · intro apart idle seeded listed old there
    rw [if_pos idle] at apart
    have new : seeded ∉ s.strategies := by
      intro old
      obtain ⟨i,same⟩ := (List.mem_ofFn' _ _).mp
        (defaults_ids fresh.ids ▸ List.mem_map_of_mem listed)
      exact fresh.absent i (same ▸ List.mem_map_of_mem old)
    refine apart seeded (List.mem_append_right _ listed) new (defaults_active seeded listed)
      old there ?_
    cases active : old.isActive with
    | false => rfl
    | true =>
      have among : old ∈ s.active := List.mem_filter.mpr ⟨there,active⟩
      rw [idle] at among
      cases among
  · intro apart row listed new _ old there _
    split at listed
    next idle =>
      rcases List.mem_append.mp listed with listed | listed
      · exact absurd listed new
      · exact apart idle row listed old there
    · exact absurd listed new

/-- A refresh converges exactly when no analysis of a strategy it goes through raises,
the columns hold every recommendation, and no default has the type and provider of a
row that an administrator deactivated when no row is active. -/
theorem converges_iff (rt : Runtime F) (aggregateUsage : UsageKey → Usage F) (tenantId : Uuid)
    (s : State F) (fresh : Fresh s) :
    Converges rt aggregateUsage tenantId s fresh
        (generateRecommendations rt aggregateUsage tenantId s fresh).1
        (generateRecommendations rt aggregateUsage tenantId s fresh).2 ↔
      Analyses rt aggregateUsage tenantId (s.refreshed fresh) ∧ SeedsApart rt s fresh := by
  rcases @generateRecommendations_eq F rt aggregateUsage tenantId s fresh with ⟨analyses,recs,is⟩ | ⟨fails,failure,is⟩
  · rw [is]
    constructor
    · exact fun converges => ⟨analyses,notSuperseded_iff.mp converges.notSuperseded⟩
    · intro ⟨_,apart⟩
      refine ⟨⟨recs,rfl⟩,?_,?_,?_,notSuperseded_iff.mpr apart⟩
      · intro strategy listed recs analysed
        have works : succeeded rt aggregateUsage tenantId strategy = true := by
          simp only [succeeded,analysed]
        have lists : produced rt aggregateUsage tenantId strategy = recs := by
          simp only [produced,analysed]
        have opened := @refreshedTable_opened F rt aggregateUsage tenantId _
          s.recommendations _ State.refreshed_distinct listed works
        rw [lists] at opened
        exact List.Perm.of_eq opened
      · exact List.Perm.of_eq (refreshedTable_untouched _ _)
      · intro second
        have same := refreshedState_refreshed second
        rcases @generateRecommendations_eq F rt aggregateUsage tenantId _ second with ⟨_,recs',is'⟩ | ⟨fails,_,_⟩
        · rw [is']
          exact List.Perm.of_eq (congrArg _ (refreshedState_again second))
        · rw [same] at fails
          exact absurd analyses fails
  · rw [is]
    constructor
    · intro converges
      obtain ⟨recs,returns⟩ := converges.returns
      cases returns
    · exact fun ⟨analyses,_⟩ => absurd analyses fails

end

def exactRuntime : Runtime Rat where
  ofDecimal d := d.coefficient * 10 ^ d.exponent
  finite _ := true
  truth x := x ≠ 0
  lt a b := a < b
  le a b := a ≤ b
  add := (· + ·)
  sub := (· - ·)
  mul := (· * ·)
  div := (· / ·)
  abs := fun x => |x|
  round3 := id
  truncate x := x.floor.toNat
  ofNat := Nat.cast
  fmean xs := xs.sum / xs.length
  text := Lowercase.asciiOnly
  str _ := ""
  storable _ := true

/-- A stored threshold of `null`. -/
def unreadable : OptimizationStrategy where
  id := 1
  name := "Savings plan"
  type := "savings_plan"
  provider := "aws"
  config := .obj [("min_hourly_threshold",.null)]
  isActive := true

def readable : OptimizationStrategy :=
  { unreadable with id := 2, type := "reserved_instance", config := .obj [] }

def twoStrategies : State Rat where
  strategies := [readable,unreadable]
  recommendations := []
  distinct := by decide

def freshIds : Fresh twoStrategies where
  ids i := BitVec.ofNat 128 (10 + i)
  injective := by decide
  absent := by decide

def steadyUsage : UsageKey → Usage Rat := fun _ =>
  { baselineHourlySpend := 2, confidenceScore := 1, coverageRatio := 1, topRegion := ""
    hourlyCostSeries := [] }

theorem unreadable_raises : analysis exactRuntime steadyUsage 7 unreadable =
    some (.error (.valueError "min_hourly_threshold must be numeric")) := by
  have supported : getStrategyImpl exactRuntime unreadable = some .computeSavings := by decide
  simp only [analysis,supported,Option.map_some]
  rfl

/-- One strategy with an unreadable threshold keeps the other from being refreshed. -/
theorem unreadable_stops_refresh :
    ¬Converges exactRuntime steadyUsage 7 twoStrategies freshIds
      (generateRecommendations exactRuntime steadyUsage 7 twoStrategies freshIds).1
      (generateRecommendations exactRuntime steadyUsage 7 twoStrategies freshIds).2 := by
  intro converges
  have listed : unreadable ∈ twoStrategies.refreshed freshIds := by
    simp [State.refreshed,State.active,twoStrategies,unreadable,readable]
  rcases @generateRecommendations_eq Rat exactRuntime steadyUsage 7 twoStrategies freshIds with
    ⟨analyses,_⟩ | ⟨_,failure,is⟩
  · exact analyses.calm unreadable listed _ unreadable_raises
  · obtain ⟨recs,returns⟩ := converges.returns
    rw [is] at returns
    cases returns

end Valdrics.Strategies

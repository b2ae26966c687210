import Valdrics.SavingsViews

/-! When the proof of savings and its drilldowns tell one story. The summary passes over providers that
it does not know, the drilldown by category looks for evidence under the provider of the filter only,
and the totals of a drilldown are those of the buckets that it lists. -/
namespace Valdrics.SavingsProof

open Enforcement (Uuid)
open PythonText (before)
open Ranking (Tallies rank)

namespace Books

variable (books : Books) (query : ProofQuery)

def named (provider : String) : Bool :=
  match query.filtered books.text with
  | some _ => true
  | none => books.text.lower provider ∈ knownProviders

def counted : List (String × Figures) :=
  ((books.openRows query).map fun row => (row.2.provider,openFigures row.1)) ++
    ((books.appliedRows query).map fun row => (row.2.provider,appliedFigures row.1)) ++
    ((books.pendingRows query).map fun request => (request.provider,pendingFigures request)) ++
    (books.completedRows query).map fun request =>
      (request.provider,completedFigures (books.eventOf request) request)

theorem ofProvider_eq {α : Type} {provider : α → String} {rows : List α}
    (lower : ∀ row ∈ rows, books.text.lower (provider row) = provider row) :
    books.ofProvider query provider rows = books.whereProvider query provider rows := by
  rw [ofProvider,whereProvider]
  split
  · exact List.filter_congr fun row listed => by rw [lower row listed]
  · rfl

theorem recommendationRows_lower (keep : StrategyRecommendation → Bool) :
    ∀ row ∈ books.recommendationRows query keep, books.text.lower row.2.provider = row.2.provider := by
  intro row listed
  obtain ⟨rec,-,joined⟩ := List.mem_filterMap.mp listed
  obtain ⟨strategy,found,rfl⟩ := Option.map_eq_some_iff.mp joined
  exact books.strategyProviders _ (Table.find_eq_some_iff.mp found)

theorem whereProvider_own {α : Type} {provider : α → String} {rows : List α} {row : α}
    (listed : row ∈ books.whereProvider query provider rows) {normalized : String}
    (filtered : query.filtered books.text = some normalized) : provider row = normalized := by
  rw [whereProvider,filtered] at listed
  exact of_decide_eq_true (List.mem_filter.mp listed).2

theorem whereProvider_mem {α : Type} {provider : α → String} {rows : List α} {row : α}
    (listed : row ∈ books.whereProvider query provider rows) : row ∈ rows := by
  rw [whereProvider] at listed
  split at listed
  · exact List.mem_of_mem_filter listed
  · exact listed

theorem enter_found (breakdown : Table String Figures) (entry : String × Figures) (key : String) :
    ((books.enter breakdown entry).find key).isSome = (breakdown.find key).isSome := by
  rw [enter,Table.find_update]
  split
  next same => rw [same,Option.isSome_map]
  next => rfl

theorem entered_total (entries : List (String × Figures)) (breakdown : Table String Figures) :
    (entries.foldl books.enter breakdown).total (fun _ figures => figures) =
      breakdown.total (fun _ figures => figures) +
        ((entries.filter fun entry => (breakdown.find (books.text.lower entry.1)).isSome).map
          Prod.snd).sum := by
  induction entries generalizing breakdown with
  | nil => simp
  | cons entry rest ih =>
    rw [List.foldl_cons,ih]
    simp only [enter_found,List.filter_cons]
    cases found : breakdown.find (books.text.lower entry.1) with
    | none =>
      rw [enter,Table.update_absent _ found]
      rfl
    | some row =>
      have adds := Table.total_update_add (fun _ (figures : Figures) => figures)
        (fun row => row + entry.2) entry.2 (fun _ => rfl) found
      rw [enter,adds]
      simp only [Option.isSome_some,if_true,List.map_cons,List.sum_cons]
      exact add_assoc ..

theorem openBreakdown_zero (providers : List String) :
    (∀ provider, ((openBreakdown providers).find provider).isSome = decide (provider ∈ providers)) ∧
      (openBreakdown providers).total (fun _ figures => figures) = 0 := by
  have opened : ∀ (providers : List String) (breakdown : Table String Figures),
      breakdown.total (fun _ figures => figures) = 0 →
      (∀ provider, ((providers.foldl (fun breakdown provider => breakdown.upsert provider 0 id)
        breakdown).find provider).isSome =
          ((breakdown.find provider).isSome || decide (provider ∈ providers))) ∧
      (providers.foldl (fun breakdown provider => breakdown.upsert provider 0 id) breakdown).total
        (fun _ figures => figures) = 0 := by
    intro providers
    induction providers with
    | nil =>
      intro breakdown zero
      exact ⟨fun provider => by simp,zero⟩
    | cons first rest ih =>
      intro breakdown zero
      have step : (breakdown.upsert first 0 id).total (fun _ figures => figures) = 0 := by
        rcases Table.upsert_cases breakdown first 0 id with ⟨-,rows⟩ | ⟨⟨row,found⟩,same⟩
        · simpa [Table.total,rows] using zero
        · rw [same,Table.total_update_add _ id 0 (fun row => (add_zero row).symm) found,zero,
            add_zero]
      obtain ⟨keys,total⟩ := ih _ step
      refine ⟨fun provider => ?_,total⟩
      rw [List.foldl_cons,keys,Table.find_upsert]
      by_cases same : provider = first
      · simp [same]
      · simp [same]
  obtain ⟨keys,total⟩ := opened providers .empty rfl
  exact ⟨fun provider => by rw [openBreakdown,keys]; simp,total⟩

theorem openRows_lower {row : StrategyRecommendation × OptimizationStrategy}
    {keep : StrategyRecommendation → Bool}
    (listed : row ∈ books.whereProvider query (fun row => row.2.provider)
      (books.recommendationRows query keep)) : books.text.lower row.2.provider = row.2.provider :=
  books.recommendationRows_lower query keep row (books.whereProvider_mem query listed)

theorem counted_provider : ∀ item ∈ books.counted query, books.text.lower item.1 = item.1 ∧
    ∀ normalized, query.filtered books.text = some normalized → item.1 = normalized := by
  intro item listed
  simp only [counted,List.mem_append,List.mem_map] at listed
  rcases listed with ((⟨row,there,rfl⟩ | ⟨row,there,rfl⟩) | ⟨request,there,rfl⟩) | ⟨request,there,rfl⟩
  · exact ⟨books.openRows_lower query there,fun _ => books.whereProvider_own query there⟩
  · exact ⟨books.openRows_lower query there,fun _ => books.whereProvider_own query there⟩
  · have inside := books.whereProvider_mem query there
    exact ⟨books.requestProviders request (List.mem_of_mem_filter inside),
      fun _ => books.whereProvider_own query there⟩
  · have inside := books.whereProvider_mem query there
    exact ⟨books.requestProviders request (List.mem_of_mem_filter inside),
      fun _ => books.whereProvider_own query there⟩

theorem generate_total {summary : SavingsProofResponse} (returns : books.generate query = .ok summary) :
    summary.toFigures =
      (((books.counted query).filter fun item => books.named query item.1).map Prod.snd).sum := by
  have opened : books.ofProvider query (fun row => row.2.provider)
      (books.recommendationRows query isOpen) = books.openRows query :=
    books.ofProvider_eq query (books.recommendationRows_lower query _)
  have applied : books.ofProvider query (fun row => row.2.provider)
      (books.recommendationRows query (isApplied query)) = books.appliedRows query :=
    books.ofProvider_eq query (books.recommendationRows_lower query _)
  have pending : books.ofProvider query RemediationRequest.provider (books.pendingRequests query) =
      books.pendingRows query :=
    books.ofProvider_eq query fun request listed =>
      books.requestProviders request (List.mem_of_mem_filter listed)
  have completed : books.ofProvider query RemediationRequest.provider (books.completedRequests query) =
      books.completedRows query :=
    books.ofProvider_eq query fun request listed =>
      books.requestProviders request (List.mem_of_mem_filter listed)
  rw [generate] at returns
  split at returns
  next => simp at returns
  next =>
    dsimp only at returns
    rw [opened,applied,pending,completed] at returns
    have entries : ((books.completedRows query).map fun request => (request.provider,
        ({ completedRemediations := 1
           realizedMonthlyUsd := realizedSavings
             ((eventsByRequest query books.events (books.completedRows query)).find request.id)
             request } : Figures))) =
        (books.completedRows query).map fun request =>
          (request.provider,completedFigures (books.eventOf request) request) := by
      refine List.map_congr_left fun request listed => ?_
      rw [find_eventsByRequest query listed (books.completedRow_own query listed).2
        (books.eventsOf_short request)]
      rfl
    rw [entries,← List.foldl_append,← List.foldl_append,← List.foldl_append] at returns
    obtain rfl := Except.ok.inj returns
    dsimp only
    obtain ⟨keys,zero⟩ := openBreakdown_zero (match query.filtered books.text with
      | some normalized => [normalized]
      | none => knownProviders)
    have total := books.entered_total (books.counted query) (openBreakdown
      (match query.filtered books.text with
        | some normalized => [normalized]
        | none => knownProviders))
    rw [sumFigures_eq]
    refine Eq.trans ?_ (total.trans ?_)
    · rw [counted,List.append_assoc,List.append_assoc]
      rfl
    · rw [zero,zero_add]
      congr 2
      refine List.filter_congr fun item listed => ?_
      obtain ⟨lower,own⟩ := books.counted_provider query item listed
      rw [keys,named]
      cases filtered : query.filtered books.text with
      | none => rfl
      | some normalized =>
        rw [lower,own normalized filtered]
        simp

/-- A completed remediation whose evidence is under another provider than that of the filter. -/
def stray (request : RemediationRequest) : Bool :=
  match query.filtered books.text with
  | some normalized => (books.eventOf request).any fun event => event.provider ≠ normalized
  | none => false

def strays : List RemediationRequest := (books.completedRows query).filter (books.stray query)

end Books

theorem bucketLe_iff (a b : String × Figures) : bucketLe a b = true ↔
    b.2.opportunityMonthlyUsd < a.2.opportunityMonthlyUsd ∨
      (a.2.opportunityMonthlyUsd = b.2.opportunityMonthlyUsd ∧
        (b.2.realizedMonthlyUsd < a.2.realizedMonthlyUsd ∨
          (a.2.realizedMonthlyUsd = b.2.realizedMonthlyUsd ∧ before a.1.toList b.1.toList = false))) := by
  rw [bucketLe]
  by_cases opportunity : a.2.opportunityMonthlyUsd = b.2.opportunityMonthlyUsd
  · by_cases realized : a.2.realizedMonthlyUsd = b.2.realizedMonthlyUsd
    · simp [opportunity,realized]
    · simp [opportunity,realized]
  · simp [opportunity]

theorem bucketLe_trans (a b c : String × Figures) (first : bucketLe a b) (second : bucketLe b c) :
    bucketLe a c := by
  rw [bucketLe_iff] at *
  rcases first with more | ⟨even,first⟩
  · rcases second with more' | ⟨even',-⟩
    · exact .inl (more'.trans more)
    · exact .inl (even' ▸ more)
  · rcases second with more' | ⟨even',second⟩
    · exact .inl (even ▸ more')
    · refine .inr ⟨even.trans even',?_⟩
      rcases first with more | ⟨same,key⟩
      · rcases second with more' | ⟨same',-⟩
        · exact .inl (more'.trans more)
        · exact .inl (same' ▸ more)
      · rcases second with more' | ⟨same',key'⟩
        · exact .inl (same ▸ more')
        · exact .inr ⟨same.trans same',PythonText.not_before_trans key key'⟩

theorem bucketLe_total (a b : String × Figures) : bucketLe a b || bucketLe b a := by
  rw [Bool.or_eq_true,bucketLe_iff,bucketLe_iff]
  rcases lt_trichotomy a.2.opportunityMonthlyUsd b.2.opportunityMonthlyUsd with less | even | more
  · exact .inr (.inl less)
  · rcases lt_trichotomy a.2.realizedMonthlyUsd b.2.realizedMonthlyUsd with less | same | more
    · exact .inr (.inr ⟨even.symm,.inl less⟩)
    · cases key : before a.1.toList b.1.toList with
      | false => exact .inl (.inr ⟨even,.inr ⟨same,rfl⟩⟩)
      | true => exact .inr (.inr ⟨even.symm,.inr ⟨same.symm,PythonText.before_asymm key⟩⟩)
    · exact .inl (.inr ⟨even,.inl more⟩)
  · exact .inl (.inl more)

theorem bucketLe_antisymm (a b : String × Figures) (first : bucketLe a b) (second : bucketLe b a) :
    a.1 = b.1 := by
  rw [bucketLe_iff] at first second
  rcases first with more | ⟨even,first⟩
  · rcases second with more' | ⟨even',-⟩
    · exact absurd more' more.asymm
    · exact absurd even'.symm more.ne'
  · rcases second with more' | ⟨-,second⟩
    · exact absurd even more'.ne
    · rcases first with more | ⟨same,key⟩
      · rcases second with more' | ⟨same',-⟩
        · exact absurd more' more.asymm
        · exact absurd same' more.ne
      · rcases second with more' | ⟨-,key'⟩
        · exact absurd same more'.ne
        · exact String.ext (PythonText.before_connected key key')

def bucketOrder : Ranking.Order String Figures :=
  ⟨bucketLe,bucketLe_trans,bucketLe_total,bucketLe_antisymm⟩

/-- The items of a drilldown whose keys come after the first `limit`. -/
def Books.beyond (books : Books) (query : ProofQuery) (limit : Int) (dim : String) :
    List (String × Figures) :=
  (books.items query dim).filter fun item =>
    topLimit limit ≤ rank bucketOrder (books.items query dim) item.1

structure OneStory (books : Books) (query : ProofQuery) (limit : Int) : Prop where
  summary : ∀ summary, books.generate query = .ok summary →
    Books.sumFigures (books.bucketsByKey query "strategy_type").1.rows +
      Books.sumFigures (books.bucketsByKey query "remediation_action").1.rows = summary.toFigures
  remediations : Books.sumFigures (books.bucketsByKey query "finding_category").1.rows =
    Books.sumFigures (books.bucketsByKey query "remediation_action").1.rows
  covers : ∀ dimension payload, books.drilldown query dimension limit = .ok payload →
    let all := Books.sumFigures (if payload.dimension = "provider" then payload.buckets
      else (books.bucketsByKey query payload.dimension).1.rows)
    payload.opportunityMonthlyUsd = all.opportunityMonthlyUsd ∧
      payload.realizedMonthlyUsd = all.realizedMonthlyUsd

/-- What counts has a known provider if there is no filter, the evidence of strays comes to their
estimates, and what lies beyond the limit comes to nothing. -/
structure Coherent (books : Books) (query : ProofQuery) (limit : Int) : Prop where
  known : query.filtered books.text = none →
    ∀ item ∈ books.counted query, item.1 ∈ Books.knownProviders
  attributed : ((books.strays query).map fun request =>
      Books.realizedSavings (books.eventOf request) request).sum =
    ((books.strays query).map fun request => Books.asFloat request.estimatedMonthlySavings).sum
  fits : ∀ dim ∈ ["strategy_type","remediation_action","finding_category"],
    ((books.beyond query limit dim).map fun item => item.2.opportunityMonthlyUsd).sum = 0 ∧
      ((books.beyond query limit dim).map fun item => item.2.realizedMonthlyUsd).sum = 0

namespace Books

variable (books : Books) (query : ProofQuery) (limit : Int)

theorem bucketsByKey_tallies {dim : String}
    (listed : dim ∈ ["strategy_type","remediation_action","finding_category"]) :
    Tallies (books.bucketsByKey query dim).1 (books.items query dim) := by
  simp only [List.mem_cons,List.not_mem_nil,or_false] at listed
  rcases listed with rfl | rfl | rfl
  · exact books.strategy_tallies query
  · exact books.action_tallies query
  · exact books.finding_tallies query

theorem buckets_total {dim : String}
    (listed : dim ∈ ["strategy_type","remediation_action","finding_category"]) :
    sumFigures (books.bucketsByKey query dim).1.rows = ((books.items query dim).map Prod.snd).sum := by
  rw [sumFigures_eq,Ranking.sum_rows (books.bucketsByKey_tallies query listed)]

theorem sum_split {α M : Type} [AddCommMonoid M] (f : α → M) (keep : α → Bool) (rows : List α) :
    (rows.map f).sum =
      ((rows.filter keep).map f).sum + ((rows.filter fun row => !keep row).map f).sum := by
  have perm := (List.filter_append_perm keep rows).map f
  rw [← perm.sum_eq,List.map_append,List.sum_append]

theorem items_counted : ((books.items query "strategy_type").map Prod.snd).sum +
    ((books.items query "remediation_action").map Prod.snd).sum =
      ((books.counted query).map Prod.snd).sum := by
  have strategies : (books.items query "strategy_type").map Prod.snd =
      (books.openRows query).map (fun row => openFigures row.1) ++
        (books.appliedRows query).map fun row => appliedFigures row.1 := by
    simp [items,Function.comp_def]
  have actions : (books.items query "remediation_action").map Prod.snd =
      (books.pendingRows query).map pendingFigures ++
        (books.completedRows query).map fun request =>
          completedFigures (books.eventOf request) request := by
    simp [items,Function.comp_def]
  have all : (books.counted query).map Prod.snd =
      ((books.openRows query).map (fun row => openFigures row.1) ++
        (books.appliedRows query).map fun row => appliedFigures row.1) ++
      ((books.pendingRows query).map pendingFigures ++
        (books.completedRows query).map fun request =>
          completedFigures (books.eventOf request) request) := by
    simp [counted,Function.comp_def]
  rw [strategies,actions,all]
  exact List.sum_append.symm

def size (figures : Figures) : Nat :=
  figures.openRecommendations + figures.appliedRecommendations + figures.pendingRemediations +
    figures.completedRemediations

theorem size_add (a b : Figures) : size (a + b) = size a + size b := by
  simp only [size,Figures.add_open,Figures.add_applied,Figures.add_pending,Figures.add_completed]
  omega

theorem size_sum (rows : List Figures) : size rows.sum = (rows.map size).sum := by
  induction rows with
  | nil => rfl
  | cons row rest ih => rw [List.sum_cons,List.map_cons,List.sum_cons,← ih,size_add]

theorem counted_size : ∀ item ∈ books.counted query, size item.2 = 1 := by
  intro item listed
  simp only [counted,List.mem_append,List.mem_map] at listed
  rcases listed with ((⟨_,-,rfl⟩ | ⟨_,-,rfl⟩) | ⟨_,-,rfl⟩) | ⟨_,-,rfl⟩ <;> rfl

theorem named_total : ((books.counted query).map Prod.snd).sum =
    (((books.counted query).filter fun item => books.named query item.1).map Prod.snd).sum ↔
      ∀ item ∈ books.counted query, books.named query item.1 = true := by
  constructor
  · intro total item listed
    by_contra unnamed
    have sizes := congrArg size total
    rw [sum_split Prod.snd (fun item => books.named query item.1),size_add] at sizes
    have none := Nat.add_eq_left.mp sizes
    have inside : item ∈ (books.counted query).filter fun item => !books.named query item.1 :=
      List.mem_filter.mpr ⟨listed,by simpa using unnamed⟩
    have one : 1 ∈ (((books.counted query).filter fun item =>
        !books.named query item.1).map Prod.snd).map size :=
      List.mem_map.mpr ⟨_,List.mem_map.mpr ⟨item,inside,rfl⟩,books.counted_size query item listed⟩
    rw [size_sum] at none
    have most := List.single_le_sum (fun _ _ => Nat.zero_le _) 1 one
    omega
  · intro all
    rw [List.filter_eq_self.mpr all]

theorem named_iff {item : String × Figures} (listed : item ∈ books.counted query) :
    books.named query item.1 = true ↔ (query.filtered books.text = none → item.1 ∈ knownProviders) := by
  rw [named,(books.counted_provider query item listed).1]
  cases query.filtered books.text with
  | none => simp
  | some normalized => simp

theorem generate_returns (ordered : query.startDate ≤ query.endDate) :
    ∃ summary, books.generate query = .ok summary := by
  rw [generate,if_neg (not_lt.mpr ordered)]
  exact ⟨_,rfl⟩

theorem story_known (ordered : query.startDate ≤ query.endDate) :
    (∀ summary, books.generate query = .ok summary →
      sumFigures (books.bucketsByKey query "strategy_type").1.rows +
        sumFigures (books.bucketsByKey query "remediation_action").1.rows = summary.toFigures) ↔
    (query.filtered books.text = none → ∀ item ∈ books.counted query, item.1 ∈ knownProviders) := by
  rw [books.buckets_total query (by simp),books.buckets_total query (by simp),items_counted]
  have all : (∀ item ∈ books.counted query, books.named query item.1 = true) ↔
      (query.filtered books.text = none → ∀ item ∈ books.counted query, item.1 ∈ knownProviders) :=
    ⟨fun named none item listed => (books.named_iff query listed).mp (named item listed) none,
      fun known item listed => (books.named_iff query listed).mpr fun none => known none item listed⟩
  rw [← all,← named_total]
  constructor
  · intro agree
    obtain ⟨summary,returns⟩ := books.generate_returns query ordered
    rw [agree summary returns,books.generate_total query returns]
  · intro total summary returns
    rw [total,books.generate_total query returns]

theorem filteredEvent_stray (request : RemediationRequest) :
    realizedSavings (books.filteredEvent query request) request =
      if books.stray query request then asFloat request.estimatedMonthlySavings
      else realizedSavings (books.eventOf request) request := by
  rw [filteredEvent,stray]
  cases query.filtered books.text with
  | none => simp
  | some normalized =>
    cases books.eventOf request with
    | none => simp [realizedSavings]
    | some event =>
      by_cases own : event.provider = normalized
      · simp [Option.filter,own]
      · simp [Option.filter,own,realizedSavings]

theorem completed_sum (event : RemediationRequest → Option RealizedSavingsEvent)
    (rows : List RemediationRequest) :
    (rows.map fun request => completedFigures (event request) request).sum =
      { completedRemediations := rows.length
        realizedMonthlyUsd := (rows.map fun request => realizedSavings (event request) request).sum } := by
  induction rows with
  | nil => rfl
  | cons request rest ih =>
    rw [List.map_cons,List.sum_cons,ih]
    ext <;> simp [completedFigures,Nat.add_comm]

theorem filtered_sum : ((books.completedRows query).map fun request =>
      realizedSavings (books.filteredEvent query request) request).sum =
    ((books.strays query).map fun request => asFloat request.estimatedMonthlySavings).sum +
      (((books.completedRows query).filter fun request => !books.stray query request).map
        fun request => realizedSavings (books.eventOf request) request).sum := by
  rw [sum_split _ (books.stray query),strays]
  congr 2
  · refine List.map_congr_left fun request listed => ?_
    rw [filteredEvent_stray,if_pos (List.mem_filter.mp listed).2]
  · refine List.map_congr_left fun request listed => ?_
    have own := (List.mem_filter.mp listed).2
    rw [filteredEvent_stray,if_neg (by simpa using own)]

theorem story_attributed : sumFigures (books.bucketsByKey query "finding_category").1.rows =
      sumFigures (books.bucketsByKey query "remediation_action").1.rows ↔
    ((books.strays query).map fun request => realizedSavings (books.eventOf request) request).sum =
      ((books.strays query).map fun request => asFloat request.estimatedMonthlySavings).sum := by
  rw [books.buckets_total query (by simp),books.buckets_total query (by simp)]
  have findings : (books.items query "finding_category").map Prod.snd =
      (books.pendingRows query).map pendingFigures ++
        (books.completedRows query).map fun request =>
          completedFigures (books.filteredEvent query request) request := by
    simp [items,Function.comp_def]
  have actions : (books.items query "remediation_action").map Prod.snd =
      (books.pendingRows query).map pendingFigures ++
        (books.completedRows query).map fun request =>
          completedFigures (books.eventOf request) request := by
    simp [items,Function.comp_def]
  have split := sum_split (fun request => realizedSavings (books.eventOf request) request)
    (books.stray query) (books.completedRows query)
  rw [findings,actions,List.sum_append,List.sum_append,completed_sum,completed_sum,filtered_sum,split]
  constructor
  · intro same
    have realized := add_left_cancel (congrArg Figures.realizedMonthlyUsd same)
    exact (add_right_cancel realized).symm
  · intro same
    rw [← same]
    rfl

theorem generate_breakdown {query : ProofQuery} {summary : SavingsProofResponse}
    (returns : books.generate query = .ok summary) :
    summary.toFigures = sumFigures summary.breakdown := by
  rw [generate] at returns
  split at returns
  next => simp at returns
  next =>
    obtain rfl := Except.ok.inj returns
    rfl

theorem drilldown_payload {dimension : String} {payload : SavingsProofDrilldownResponse}
    (returns : books.drilldown query dimension limit = .ok payload) :
    (payload.dimension = "provider" ∧
      payload.opportunityMonthlyUsd = (sumFigures payload.buckets).opportunityMonthlyUsd ∧
      payload.realizedMonthlyUsd = (sumFigures payload.buckets).realizedMonthlyUsd) ∨
    (payload.dimension ∈ ["strategy_type","remediation_action","finding_category"] ∧
      payload.buckets = ((books.bucketsByKey query payload.dimension).1.rows.mergeSort
        bucketLe).take (topLimit limit) ∧
      payload.opportunityMonthlyUsd = (sumFigures payload.buckets).opportunityMonthlyUsd ∧
      payload.realizedMonthlyUsd = (sumFigures payload.buckets).realizedMonthlyUsd) := by
  rw [drilldown] at returns
  split at returns
  next => simp at returns
  next =>
    dsimp only at returns
    split at returns
    next => simp at returns
    next supported =>
      split at returns
      next =>
        left
        cases generated : books.generate { query with provider := query.normalizedProvider books.text } with
        | error message =>
          rw [generated] at returns
          exact absurd returns (by simp [bind,Except.bind])
        | ok summary =>
          rw [generated] at returns
          obtain rfl := Except.ok.inj returns
          have figures := books.generate_breakdown generated
          exact ⟨rfl,congrArg Figures.opportunityMonthlyUsd figures,
            congrArg Figures.realizedMonthlyUsd figures⟩
      next other =>
        right
        obtain rfl := Except.ok.inj returns
        refine ⟨?_,rfl,rfl,rfl⟩
        simp only [not_not,List.mem_cons,List.not_mem_nil,or_false] at supported ⊢
        tauto

theorem drilldown_returns (ordered : query.startDate ≤ query.endDate) {dim : String}
    (listed : dim ∈ ["strategy_type","remediation_action","finding_category"]) :
    ∃ payload, books.drilldown query dim limit = .ok payload ∧ payload.dimension = dim := by
  have named : books.text.lower (PythonText.strip dim) = dim ∧ dim ≠ "provider" ∧
      dim ∈ ["finding_category","provider","remediation_action","strategy_type"] := by
    simp only [List.mem_cons,List.not_mem_nil,or_false] at listed
    rcases listed with rfl | rfl | rfl
    · refine ⟨?_,by decide,by simp⟩
      rw [show PythonText.strip "strategy_type" = "strategy_type" by rfl,
        books.text.ascii _ (by simp [PythonText.IsAscii])]
      rfl
    · refine ⟨?_,by decide,by simp⟩
      rw [show PythonText.strip "remediation_action" = "remediation_action" by rfl,
        books.text.ascii _ (by simp [PythonText.IsAscii])]
      rfl
    · refine ⟨?_,by decide,by simp⟩
      rw [show PythonText.strip "finding_category" = "finding_category" by rfl,
        books.text.ascii _ (by simp [PythonText.IsAscii])]
      rfl
  obtain ⟨lower,other,supported⟩ := named
  rw [drilldown,if_neg (not_lt.mpr ordered)]
  dsimp only
  rw [lower,if_neg (not_not.mpr supported),if_neg other]
  exact ⟨_,rfl,rfl⟩

theorem taken_beyond {dim : String}
    (listed : dim ∈ ["strategy_type","remediation_action","finding_category"]) :
    sumFigures (books.bucketsByKey query dim).1.rows =
      sumFigures (((books.bucketsByKey query dim).1.rows.mergeSort bucketLe).take (topLimit limit)) +
        sumFigures (books.beyond query limit dim) := by
  have taken := Ranking.sum_take bucketOrder (books.bucketsByKey_tallies query listed) (topLimit limit)
  have rest : books.beyond query limit dim = (books.items query dim).filter fun item =>
      !decide (rank bucketOrder (books.items query dim) item.1 < topLimit limit) := by
    refine List.filter_congr fun item _ => ?_
    rw [← decide_not]
    exact decide_eq_decide.mpr not_lt.symm
  rw [books.buckets_total query listed,sumFigures_eq,sumFigures_eq,rest]
  refine (sum_split Prod.snd (fun item =>
    decide (rank bucketOrder (books.items query dim) item.1 < topLimit limit)) _).trans ?_
  rw [← taken]
  rfl

theorem story_covers (ordered : query.startDate ≤ query.endDate) :
    (∀ dimension payload, books.drilldown query dimension limit = .ok payload →
      let all := sumFigures (if payload.dimension = "provider" then payload.buckets
        else (books.bucketsByKey query payload.dimension).1.rows)
      payload.opportunityMonthlyUsd = all.opportunityMonthlyUsd ∧
        payload.realizedMonthlyUsd = all.realizedMonthlyUsd) ↔
    ∀ dim ∈ ["strategy_type","remediation_action","finding_category"],
      ((books.beyond query limit dim).map fun item => item.2.opportunityMonthlyUsd).sum = 0 ∧
        ((books.beyond query limit dim).map fun item => item.2.realizedMonthlyUsd).sum = 0 := by
  have drops : ∀ {dim}, dim ∈ ["strategy_type","remediation_action","finding_category"] →
      ∀ {payload : SavingsProofDrilldownResponse},
      payload.buckets = ((books.bucketsByKey query dim).1.rows.mergeSort bucketLe).take (topLimit limit) →
      payload.opportunityMonthlyUsd = (sumFigures payload.buckets).opportunityMonthlyUsd →
      payload.realizedMonthlyUsd = (sumFigures payload.buckets).realizedMonthlyUsd →
      ((payload.opportunityMonthlyUsd =
          (sumFigures (books.bucketsByKey query dim).1.rows).opportunityMonthlyUsd ∧
        payload.realizedMonthlyUsd =
          (sumFigures (books.bucketsByKey query dim).1.rows).realizedMonthlyUsd) ↔
        ((books.beyond query limit dim).map fun item => item.2.opportunityMonthlyUsd).sum = 0 ∧
        ((books.beyond query limit dim).map fun item => item.2.realizedMonthlyUsd).sum = 0) := by
    intro dim listed payload buckets opportunity realized
    rw [opportunity,realized,books.taken_beyond query limit listed,← buckets,Figures.add_opportunity,
      Figures.add_realized]
    exact and_congr ⟨fun same => add_eq_left.mp same.symm,fun zero => (add_eq_left.mpr zero).symm⟩
      ⟨fun same => add_eq_left.mp same.symm,fun zero => (add_eq_left.mpr zero).symm⟩
  constructor
  · intro covers dim listed
    obtain ⟨payload,returns,named⟩ := books.drilldown_returns query limit ordered listed
    rcases books.drilldown_payload query limit returns with ⟨provider,-⟩ | ⟨-,buckets,opp,real⟩
    · rw [named] at provider
      subst provider
      simp at listed
    · have whole := covers dim payload returns
      rw [named] at buckets
      have other : payload.dimension ≠ "provider" := by
        rw [named]
        rintro rfl
        simp at listed
      dsimp only at whole
      rw [if_neg other,named] at whole
      exact (drops listed buckets opp real).mp whole
  · intro fits dimension payload returns
    rcases books.drilldown_payload query limit returns with ⟨provider,opp,real⟩ | ⟨listed,buckets,opp,real⟩
    · dsimp only
      rw [if_pos provider]
      exact ⟨opp,real⟩
    · have other : payload.dimension ≠ "provider" := by
        intro same
        rw [same] at listed
        simp at listed
      dsimp only
      rw [if_neg other]
      exact (drops listed buckets opp real).mpr (fits _ listed)

end Books

/-- The views tell one story if and only if they are coherent. -/
theorem oneStory_iff (books : Books) (query : ProofQuery) (limit : Int)
    (ordered : query.startDate ≤ query.endDate) :
    OneStory books query limit ↔ Coherent books query limit := by
  constructor
  · intro story
    exact ⟨(books.story_known query ordered).mp story.summary,
      (books.story_attributed query).mp story.remediations,
      (books.story_covers query limit ordered).mp story.covers⟩
  · intro coherent
    exact ⟨(books.story_known query ordered).mpr coherent.known,
      (books.story_attributed query).mpr coherent.attributed,
      (books.story_covers query limit ordered).mpr coherent.fits⟩

def twoActions : Books where
  text := Lowercase.asciiOnly
  jsonText := fun _ => ""
  strategies := .empty
  recommendations := []
  requests := [
    ⟨1,9,"aws",.stopInstance,.pending,some 10,none,none,0,none⟩,
    ⟨2,9,"aws",.deleteVolume,.pending,some 5,none,none,0,none⟩]
  events := []
  eventKeys := List.nodup_nil
  strategyProviders := by simp [Table.empty]
  requestProviders := by decide
  eventProviders := by simp

def twoActionsQuery : ProofQuery := ⟨9,"pro",0,1,none⟩

theorem twoActions_ordered :
    OneStory twoActions twoActionsQuery 1 ↔ Coherent twoActions twoActionsQuery 1 :=
  oneStory_iff twoActions twoActionsQuery 1 (by decide)

def pendingAmount (amount : Rat) : Figures :=
  { pendingRemediations := 1, opportunityMonthlyUsd := amount }

theorem rank_two {larger smaller : String} {a b : Rat} (differ : larger ≠ smaller) (less : b < a) :
    rank bucketOrder [(larger,pendingAmount a),(smaller,pendingAmount b)] larger = 0 ∧
      rank bucketOrder [(larger,pendingAmount a),(smaller,pendingAmount b)] smaller = 1 := by
  have own : Ranking.tally [(larger,pendingAmount a),(smaller,pendingAmount b)] larger =
      pendingAmount a := by
    simp [Ranking.tally,differ.symm]
  have other : Ranking.tally [(larger,pendingAmount a),(smaller,pendingAmount b)] smaller =
      pendingAmount b := by
    simp [Ranking.tally,differ]
  have keys : (Ranking.keys [(larger,pendingAmount a),(smaller,pendingAmount b)]).dedup =
      [larger,smaller] :=
    List.dedup_eq_self.mpr (by simp [Ranking.keys,differ])
  have first : bucketLe (larger,pendingAmount a) (smaller,pendingAmount b) = true :=
    (bucketLe_iff _ _).mpr (.inl less)
  have second : bucketLe (smaller,pendingAmount b) (larger,pendingAmount a) = false := by
    by_contra ge
    rw [Bool.not_eq_false,bucketLe_iff] at ge
    rcases ge with more | ⟨even,-⟩
    · exact absurd more less.asymm
    · exact absurd even less.ne
  simp only [rank,keys,own,other,Ranking.Order.ahead,bucketOrder,List.map_cons,List.map_nil]
  simp [differ,differ.symm,first,second]

/-- With room for one bucket, the totals leave the other action out. -/
theorem twoActions_not_oneStory : ¬OneStory twoActions twoActionsQuery 1 := by
  intro story
  have fits := (twoActions.story_covers twoActionsQuery 1 (by decide)).mp story.covers
    "remediation_action" (by simp)
  have items : twoActions.items twoActionsQuery "remediation_action" =
      [("stop_instance",pendingAmount 10),("delete_volume",pendingAmount 5)] := by rfl
  obtain ⟨first,second⟩ := rank_two (show "stop_instance" ≠ "delete_volume" by decide)
    (show (5 : Rat) < 10 by norm_num)
  have limit : topLimit 1 = 1 := by rfl
  rw [Books.beyond,items,limit] at fits
  simp only [List.filter_cons,first,second] at fits
  simp [pendingAmount] at fits

end Valdrics.SavingsProof

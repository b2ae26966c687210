import Valdrics.SavingsProof

/-! Each view of the savings as one list of items, an item for each recommendation or remediation that
the view counts: what its buckets come to is what the items come to. -/
namespace Valdrics.SavingsProof

open Enforcement (Uuid)
open Optimization (RemediationAction)
open Ranking (Alike Tallies keys tally record)

section Items

variable {α κ : Type} [DecidableEq κ]

theorem tally_map (key : α → κ) (figures : α → Figures) (rows : List α) (k : κ) :
    tally (rows.map fun row => (key row,figures row)) k =
      (rows.map fun row => if key row = k then figures row else 0).sum := by
  induction rows with
  | nil => rfl
  | cons row rest ih =>
    rw [List.map_cons,List.map_cons,List.sum_cons,← ih]
    by_cases own : key row = k
    · simp [tally,own]
    · simp [tally,own]

omit [DecidableEq κ] in
theorem mem_keys_map {key : α → κ} {figures : α → Figures} {rows : List α} {k : κ} :
    k ∈ keys (rows.map fun row => (key row,figures row)) ↔ ∃ row ∈ rows, key row = k := by
  simp [keys]

theorem grouped_alike {γ : Type} [DecidableEq γ] (groupKey : α → γ) (key : γ → κ)
    (figures : List α → Figures) (one : α → Figures)
    (adds : ∀ rows, figures rows = (rows.map one).sum) (rows : List α) :
    Alike ((Books.grouped groupKey rows).map fun group => (key group.1,figures group.2))
      (rows.map fun row => (key (groupKey row),one row)) := by
  intro k
  constructor
  · simp only [Books.grouped,keys,List.mem_map,List.mem_dedup]
    constructor
    · rintro ⟨_,⟨_,⟨_,⟨row,listed,rfl⟩,rfl⟩,rfl⟩,rfl⟩
      exact ⟨_,⟨row,listed,rfl⟩,rfl⟩
    · rintro ⟨_,⟨row,listed,rfl⟩,rfl⟩
      exact ⟨_,⟨_,⟨_,⟨row,listed,rfl⟩,rfl⟩,rfl⟩,rfl⟩
  · have sums := Ranking.sum_tally (rows.map fun row => (groupKey row,one row)) fun g => key g = k
    have names : keys (rows.map fun row => (groupKey row,one row)) = rows.map groupKey := by
      simp [keys,Function.comp_def]
    have own : ∀ g, tally (rows.map fun row => (groupKey row,one row)) g =
        figures (rows.filter fun row => groupKey row = g) := by
      intro g
      rw [adds,tally,List.filter_map,List.map_map]
      rfl
    rw [names] at sums
    rw [tally,tally,Books.grouped,List.map_map,List.filter_map,List.map_map]
    refine Eq.trans ?_ (sums.trans ?_)
    · exact congrArg List.sum (List.map_congr_left fun g _ => (own g).symm)
    · rw [List.filter_map,List.filter_map,List.map_map,List.map_map]
      rfl

end Items

namespace Books

variable (books : Books) (query : ProofQuery)

def openFigures (rec : StrategyRecommendation) : Figures :=
  { openRecommendations := 1, opportunityMonthlyUsd := rec.estimatedMonthlySavings }

def appliedFigures (rec : StrategyRecommendation) : Figures :=
  { appliedRecommendations := 1, realizedMonthlyUsd := rec.estimatedMonthlySavings }

def pendingFigures (request : RemediationRequest) : Figures :=
  { pendingRemediations := 1, opportunityMonthlyUsd := asFloat request.estimatedMonthlySavings }

def completedFigures (event : Option RealizedSavingsEvent) (request : RemediationRequest) : Figures :=
  { completedRemediations := 1, realizedMonthlyUsd := realizedSavings event request }

def eventOf (request : RemediationRequest) : Option RealizedSavingsEvent := (books.eventsOf request).head?

def filteredEvent (request : RemediationRequest) : Option RealizedSavingsEvent :=
  match query.filtered books.text with
  | some normalized => (books.eventOf request).filter fun event => event.provider = normalized
  | none => books.eventOf request

def openRows : List (StrategyRecommendation × OptimizationStrategy) :=
  books.whereProvider query (fun row => row.2.provider) (books.recommendationRows query isOpen)

def appliedRows : List (StrategyRecommendation × OptimizationStrategy) :=
  books.whereProvider query (fun row => row.2.provider)
    (books.recommendationRows query (isApplied query))

def pendingRows : List RemediationRequest :=
  books.whereProvider query RemediationRequest.provider (books.pendingRequests query)

def completedRows : List RemediationRequest :=
  books.whereProvider query RemediationRequest.provider (books.completedRequests query)

def items (dim : String) : List (String × Figures) :=
  if dim = "strategy_type" then
    ((books.openRows query).map fun row => (books.text.lower row.2.type,openFigures row.1)) ++
      (books.appliedRows query).map fun row => (books.text.lower row.2.type,appliedFigures row.1)
  else if dim = "remediation_action" then
    ((books.pendingRows query).map fun request =>
        (books.text.lower (actionValue request.action),pendingFigures request)) ++
      (books.completedRows query).map fun request =>
        (books.text.lower (actionValue request.action),
          completedFigures (books.eventOf request) request)
  else
    ((books.pendingRows query).map fun request =>
        (books.findingCategoryFromSnapshot request.findingSnapshot,pendingFigures request)) ++
      (books.completedRows query).map fun request =>
        (books.completedCategory (books.filteredEvent query request) request,
          completedFigures (books.filteredEvent query request) request)

theorem sumFigures_eq (rows : List (String × Figures)) : sumFigures rows = (rows.map Prod.snd).sum := by
  induction rows with
  | nil => rfl
  | cons row rest ih =>
    rw [List.map_cons,List.sum_cons,← ih]
    ext <;> simp [sumFigures]

theorem sumOf_cons {α : Type} (amount : α → Option Rat) (row : α) (rest : List α) :
    sumOf amount (row :: rest) = asFloat (amount row) + sumOf amount rest := by
  cases value : amount row with
  | none => simp [sumOf,asFloat,value]
  | some value => simp [sumOf,asFloat,value]

theorem tallies_addGroups {α γ : Type} [DecidableEq γ] (groupKey : α → γ) (key : γ → String)
    (figures : List α → Figures) (one : α → Figures)
    (adds : ∀ rows, figures rows = (rows.map one).sum) (rows : List α)
    {buckets : Table String Figures} {entries : List (String × Figures)}
    (tallies : Tallies buckets entries) :
    Tallies (addGroups key figures (grouped groupKey rows) buckets)
      (entries ++ rows.map fun row => (key (groupKey row),one row)) := by
  refine Ranking.tallies_alike (Ranking.tallies_foldl tallies _) ?_
  exact Alike.append (fun _ => ⟨Iff.rfl,rfl⟩) (grouped_alike groupKey key figures one adds rows)

theorem figures_eq_sum {α : Type} {figures : List α → Figures} {one : α → Figures}
    (empty : figures [] = 0) (step : ∀ row rest, figures (row :: rest) = one row + figures rest)
    (rows : List α) : figures rows = (rows.map one).sum := by
  induction rows with
  | nil => exact empty
  | cons row rest ih => rw [step,ih,List.map_cons,List.sum_cons]

theorem strategy_tallies : Tallies (books.buildStrategyTypeBuckets query .empty).1
    (books.items query "strategy_type") := by
  have opened := tallies_addGroups (fun row : StrategyRecommendation × OptimizationStrategy => row.2.type)
    books.text.lower (fun rows =>
      { openRecommendations := rows.length
        opportunityMonthlyUsd := sumOf (fun row => some row.1.estimatedMonthlySavings) rows })
    (fun row => openFigures row.1)
    (figures_eq_sum rfl fun row rest => by
      ext <;> simp [openFigures,sumOf_cons,asFloat,Nat.add_comm])
    (books.openRows query) Ranking.tallies_empty
  have applied := tallies_addGroups (fun row : StrategyRecommendation × OptimizationStrategy => row.2.type)
    books.text.lower (fun rows =>
      { appliedRecommendations := rows.length
        realizedMonthlyUsd := sumOf (fun row => some row.1.estimatedMonthlySavings) rows })
    (fun row => appliedFigures row.1)
    (figures_eq_sum rfl fun row rest => by
      ext <;> simp [appliedFigures,sumOf_cons,asFloat,Nat.add_comm])
    (books.appliedRows query) opened
  exact applied

theorem eventsOf_short (request : RemediationRequest) : (books.eventsOf request).length ≤ 1 := by
  have apart := (List.pairwise_map.mp books.eventKeys).sublist (List.filter_sublist
    (p := fun event => event.remediationRequestId = request.id && event.tenantId = request.tenantId))
  have same : ∀ event ∈ books.eventsOf request,
      (event.tenantId,event.remediationRequestId) = (request.tenantId,request.id) := by
    intro event listed
    have own := (List.mem_filter.mp listed).2
    rw [Bool.and_eq_true,decide_eq_true_eq,decide_eq_true_eq] at own
    rw [own.1,own.2]
  rw [eventsOf] at same ⊢
  generalize books.events.filter _ = events at *
  match events with
  | [] => exact Nat.zero_le 1
  | [_] => exact le_rfl
  | first :: second :: rest =>
    have differ := (List.pairwise_cons.mp apart).1 second List.mem_cons_self
    exact absurd ((same first List.mem_cons_self).trans (same second (by simp)).symm) differ

theorem evidence_or_fallback (request : RemediationRequest) :
    ((books.eventsOf request).map fun event =>
        ({ realizedMonthlyUsd := event.realizedMonthlySavingsUsd } : Figures)).sum +
      (if (books.eventsOf request).isEmpty then
        ({ realizedMonthlyUsd := asFloat request.estimatedMonthlySavings } : Figures) else 0) +
      ({ completedRemediations := 1 } : Figures) =
    completedFigures (books.eventOf request) request := by
  have short := books.eventsOf_short request
  rw [eventOf]
  generalize books.eventsOf request = events at *
  match events with
  | [] => ext <;> simp [completedFigures,realizedSavings]
  | [event] => ext <;> simp [completedFigures,realizedSavings]
  | _ :: _ :: rest => simp at short

theorem completed_alike (key : RemediationRequest → String) (rows : List RemediationRequest) :
    Alike ((rows.map fun request => (key request,({ completedRemediations := 1 } : Figures))) ++
        ((rows.flatMap fun request => (books.eventsOf request).map fun event => (request,event)).map
            fun row => (key row.1,
              ({ realizedMonthlyUsd := row.2.realizedMonthlySavingsUsd } : Figures))) ++
        (rows.filter fun request => (books.eventsOf request).isEmpty).map fun request =>
          (key request,
            ({ realizedMonthlyUsd := asFloat request.estimatedMonthlySavings } : Figures)))
      (rows.map fun request => (key request,completedFigures (books.eventOf request) request)) := by
  intro k
  constructor
  · simp only [Ranking.mem_keys_append,mem_keys_map]
    constructor
    · rintro ((own | ⟨row,listed,own⟩) | ⟨request,listed,own⟩)
      · exact own
      · obtain ⟨request,there,events⟩ := List.mem_flatMap.mp listed
        obtain ⟨event,-,rfl⟩ := List.mem_map.mp events
        exact ⟨request,there,own⟩
      · exact ⟨request,List.mem_of_mem_filter listed,own⟩
    · exact fun own => .inl (.inl own)
  · simp only [Ranking.tally_append,tally_map]
    induction rows with
    | nil => simp
    | cons request rest ih =>
      rw [List.map_cons,List.map_cons,List.sum_cons,List.sum_cons,← ih,List.flatMap_cons,
        List.map_append,List.sum_append,List.map_map,List.filter_cons]
      have one := books.evidence_or_fallback request
      by_cases own : key request = k
      · rw [if_pos own,if_pos own,← one]
        split
        next =>
          simp only [if_true,List.map_cons,List.sum_cons,own,Function.comp_def]
          abel
        next =>
          simp only [own,if_true,Function.comp_def]
          abel
      · have nothing : ((books.eventsOf request).map fun _ => (0 : Figures)).sum = 0 := by simp
        rw [if_neg own,if_neg own]
        split
        next => simp [own,Function.comp_def]
        next => simp [own,Function.comp_def]

theorem action_tallies : Tallies (books.buildRemediationActionBuckets query .empty).1
    (books.items query "remediation_action") := by
  let key := fun action => books.text.lower (actionValue action)
  have pending := tallies_addGroups RemediationRequest.action key (fun rows =>
      { pendingRemediations := rows.length
        opportunityMonthlyUsd := sumOf RemediationRequest.estimatedMonthlySavings rows })
    pendingFigures
    (figures_eq_sum rfl fun row rest => by ext <;> simp [pendingFigures,sumOf_cons,Nat.add_comm])
    (books.pendingRows query) Ranking.tallies_empty
  have counted := tallies_addGroups RemediationRequest.action key (fun rows =>
      { completedRemediations := rows.length })
    (fun _ => { completedRemediations := 1 })
    (figures_eq_sum rfl fun row rest => by ext <;> simp [Nat.add_comm])
    (books.completedRows query) pending
  have evidence := tallies_addGroups
    (fun row : RemediationRequest × RealizedSavingsEvent => row.1.action) key (fun rows =>
      { realizedMonthlyUsd := sumOf (fun row => some row.2.realizedMonthlySavingsUsd) rows })
    (fun row => { realizedMonthlyUsd := row.2.realizedMonthlySavingsUsd })
    (figures_eq_sum rfl fun row rest => by ext <;> simp [sumOf_cons,asFloat])
    ((books.completedRows query).flatMap fun request =>
      (books.eventsOf request).map fun event => (request,event)) counted
  have fallback := tallies_addGroups RemediationRequest.action key (fun rows =>
      { realizedMonthlyUsd := sumOf RemediationRequest.estimatedMonthlySavings rows })
    (fun request => { realizedMonthlyUsd := asFloat request.estimatedMonthlySavings })
    (figures_eq_sum rfl fun row rest => by ext <;> simp [sumOf_cons])
    ((books.completedRows query).filter fun request => (books.eventsOf request).isEmpty) evidence
  refine Ranking.tallies_alike fallback ?_
  simp only [List.nil_append,List.append_assoc]
  refine Alike.append (fun _ => ⟨Iff.rfl,rfl⟩) ?_
  have completed := books.completed_alike (fun request => key request.action)
    (books.completedRows query)
  rwa [List.append_assoc] at completed

theorem find_eventsByRequest {events : List RealizedSavingsEvent} {requests : List RemediationRequest}
    {request : RemediationRequest} (listed : request ∈ requests)
    (own : request.tenantId = query.tenantId)
    (short : (events.filter fun event =>
      event.remediationRequestId = request.id && event.tenantId = request.tenantId).length ≤ 1) :
    (eventsByRequest query events requests).find request.id =
      (events.filter fun event =>
        event.remediationRequestId = request.id && event.tenantId = request.tenantId).head? := by
  have found := Table.find_groupBy RealizedSavingsEvent.remediationRequestId id
    (fun _ event => event) (events.filter fun event => event.tenantId = query.tenantId &&
      event.remediationRequestId ∈ requests.map RemediationRequest.id) request.id
  have same : (events.filter fun event => event.tenantId = query.tenantId &&
        event.remediationRequestId ∈ requests.map RemediationRequest.id).filter
        (fun event => event.remediationRequestId = request.id) =
      events.filter fun event =>
        event.remediationRequestId = request.id && event.tenantId = request.tenantId := by
    rw [List.filter_filter]
    refine List.filter_congr fun event _ => ?_
    have inside : request.id ∈ requests.map RemediationRequest.id := List.mem_map.mpr ⟨_,listed,rfl⟩
    by_cases named : event.remediationRequestId = request.id
    · simp [named,inside,own]
    · simp [named]
  rw [same] at found
  refine found.trans ?_
  generalize events.filter _ = events at short
  match events with
  | [] => rfl
  | [_] => rfl
  | _ :: _ :: _ => simp at short

theorem completedRow_own {request : RemediationRequest} (listed : request ∈ books.completedRows query) :
    request ∈ books.requests ∧ request.tenantId = query.tenantId := by
  rw [completedRows,whereProvider] at listed
  have there : request ∈ books.completedRequests query := by
    split at listed
    · exact List.mem_of_mem_filter listed
    · exact listed
  obtain ⟨inside,kept⟩ := List.mem_filter.mp there
  simp only [Bool.and_eq_true,decide_eq_true_eq] at kept
  exact ⟨inside,kept.1.1⟩

theorem find_filteredEvent {request : RemediationRequest}
    (listed : request ∈ books.completedRows query) :
    (eventsByRequest query (books.whereProvider query RealizedSavingsEvent.provider books.events)
      (books.completedRows query)).find request.id = books.filteredEvent query request := by
  have own := (books.completedRow_own query listed).2
  have short := books.eventsOf_short request
  rw [filteredEvent,eventOf,eventsOf] at *
  rw [whereProvider]
  cases filtered : query.filtered books.text with
  | none => exact find_eventsByRequest query listed own short
  | some normalized =>
    have swap : (books.events.filter fun event => event.provider = normalized).filter (fun event =>
          event.remediationRequestId = request.id && event.tenantId = request.tenantId) =
        (books.events.filter fun event =>
          event.remediationRequestId = request.id && event.tenantId = request.tenantId).filter
          fun event => event.provider = normalized := by
      rw [List.filter_filter,List.filter_filter]
      exact List.filter_congr fun event _ => Bool.and_comm _ _
    dsimp only
    rw [find_eventsByRequest query listed own
      (by rw [swap]; exact (List.length_filter_le _ _).trans short),swap]
    generalize books.events.filter _ = events at short
    match events with
    | [] => rfl
    | [event] =>
      rw [List.filter_cons]
      split
      next kept => simp [Option.filter,kept]
      next gone => simp [Option.filter,gone]
    | _ :: _ :: _ => simp at short

theorem finding_tallies : Tallies (books.buildFindingCategoryBuckets query .empty).1
    (books.items query "finding_category") := by
  let pending := (books.pendingRows query).map fun request =>
    (books.findingCategoryFromSnapshot request.findingSnapshot,pendingFigures request)
  have opened : Tallies (pending.foldl record .empty) ([] ++ pending) :=
    Ranking.tallies_foldl Ranking.tallies_empty pending
  have completed := Ranking.tallies_foldl opened
    ((books.completedRows query).map fun request =>
      (books.completedCategory (books.filteredEvent query request) request,
        completedFigures (books.filteredEvent query request) request))
  have same : ((books.completedRows query).map fun request =>
        let realizedEvent := (eventsByRequest query
          (books.whereProvider query RealizedSavingsEvent.provider books.events)
          (books.completedRows query)).find request.id
        (books.completedCategory realizedEvent request,completedFigures realizedEvent request)) =
      (books.completedRows query).map fun request =>
        (books.completedCategory (books.filteredEvent query request) request,
          completedFigures (books.filteredEvent query request) request) := by
    refine List.map_congr_left fun request listed => ?_
    dsimp only
    rw [books.find_filteredEvent query listed]
  rw [← same] at completed
  have entries : [] ++ pending ++ ((books.completedRows query).map fun request =>
        let realizedEvent := (eventsByRequest query
          (books.whereProvider query RealizedSavingsEvent.provider books.events)
          (books.completedRows query)).find request.id
        (books.completedCategory realizedEvent request,completedFigures realizedEvent request)) =
      books.items query "finding_category" := by
    rw [same]
    rfl
  rw [entries] at completed
  exact completed

end Books

end Valdrics.SavingsProof

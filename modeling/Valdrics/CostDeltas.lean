import Mathlib.Algebra.Order.Field.Rat
import Mathlib.Logic.Relation
import Valdrics.EnforcementModels
import Valdrics.GroupedFold

/-! The comparison of two cost histories: what each resource cost a day in either of them, and the
resources that are new, gone or changed. Amounts are exact here. What a day costs is an average over
the rows of the resource, not over the days. -/
namespace Valdrics.DeltaAnalysis

open Enforcement (Uuid)

inductive Amount where
  | missing
  | number (value : ℚ)
  | text (value : ℚ)
  deriving DecidableEq

namespace Amount

def truthy : Amount → Bool
  | missing => false
  | number value => value ≠ 0
  | text _ => true

def value : Amount → ℚ
  | missing => 0
  | number value => value
  | text value => value

end Amount

/-- The metrics of a row: `None`, an empty dictionary, or the two costs that are read of it. -/
inductive Metrics where
  | absent
  | empty
  | costs (unblendedCost blendedCost : Amount)
  deriving DecidableEq

structure Group where
  keys : List String
  metrics : Metrics
  deriving DecidableEq

structure Day where
  groups : List Group
  deriving DecidableEq

/-- `keys[-1]`. -/
def Group.resource (group : Group) : String := group.keys.getLastD ""

def Group.kind (group : Group) : String :=
  if 1 < group.keys.length then group.keys.headD "" else "Service"

def Metrics.amount : Metrics → ℚ
  | costs unblendedCost blendedCost =>
    if unblendedCost.truthy then unblendedCost.value
    else if blendedCost.truthy then blendedCost.value else 0
  | _ => 0

def Metrics.counts : Metrics → Bool
  | costs _ _ => true
  | _ => false

structure ResourceTotals where
  kind : String
  totalCost : ℚ := 0
  days : Nat := 0
  region : String := ""
  deriving DecidableEq

namespace ResourceTotals

def add (totals : ResourceTotals) (group : Group) : ResourceTotals :=
  if group.metrics.counts then
    { totals with totalCost := totals.totalCost + group.metrics.amount, days := totals.days + 1 }
  else totals

def opening (group : Group) : ResourceTotals := { kind := group.kind : ResourceTotals }.add group

def dailyCost (totals : ResourceTotals) : ℚ :=
  totals.totalCost / (if totals.days = 0 then 1 else totals.days : Nat)

end ResourceTotals

abbrev Resources := Table String ResourceTotals

/-- `costs[-days:]`. -/
def lastDays (costs : List Day) (days : Int) : List Day :=
  if 0 < days then costs.drop (costs.length - days.toNat) else costs.drop (-days).toNat

def Group.listed (group : Group) : Bool := group.keys ≠ [] && group.metrics ≠ .absent

def aggregateByResource (costs : List Day) (days : Int) : Resources :=
  Table.groupBy Group.resource ResourceTotals.opening ResourceTotals.add
    (((lastDays costs days).flatMap Day.groups).filter Group.listed)

structure CostDelta where
  resourceId : String
  resourceType : String
  previousCost : ℚ
  currentCost : ℚ
  changeAmount : ℚ
  changePercent : ℚ
  region : String := ""
  deriving DecidableEq

def CostDelta.isSignificant (delta : CostDelta) : Bool := 15 ≤ |delta.changePercent|

structure ResourceNote where
  resource : String
  kind : String
  cost : String
  deriving DecidableEq

/-- `f"{value:.2f}"`. -/
def twoPlaces (value : ℚ) : String :=
  (if value < 0 then "-" else "") ++
    (Decimal.ofUnits (divRoundHalfEven (|value|.num * 100) |value|.den) 2).text

def perDay (cost : ℚ) : String := "$" ++ twoPlaces cost ++ "/day"

def newResource (current previous : Resources) (id : String) : Option ResourceNote :=
  match current.find id, previous.find id with
  | some totals, none =>
    if 1 ≤ totals.dailyCost then some ⟨id,totals.kind,perDay totals.dailyCost⟩ else none
  | _, _ => none

def removedResource (current previous : Resources) (id : String) : Option ResourceNote :=
  match current.find id, previous.find id with
  | none, some totals => some ⟨id,totals.kind,perDay totals.dailyCost⟩
  | _, _ => none

def resourceDelta (current previous : Resources) (id : String) : Option CostDelta :=
  match current.find id, previous.find id with
  | some now, some before =>
    let change := now.dailyCost - before.dailyCost
    if |change| < 1 / 2 then none
    else some ⟨id,now.kind,before.dailyCost,now.dailyCost,change,
      if 0 < before.dailyCost then change / before.dailyCost * 100 else 0,now.region⟩
  | _, _ => none

structure DeltaAnalysisResult where
  tenantId : Uuid
  analysisDate : Nat
  totalPrevious : ℚ
  totalCurrent : ℚ
  totalChange : ℚ
  totalChangePercent : ℚ
  topIncreases : List CostDelta
  topDecreases : List CostDelta
  newResources : List ResourceNote
  removedResources : List ResourceNote
  daysCompared : Int
  resourcesAnalyzed : Nat
  significantChangesCount : Nat
  deriving DecidableEq

def totalCost (resources : Resources) : ℚ :=
  (resources.rows.map fun entry => entry.2.dailyCost).sum

/-- The deltas of `compute_delta`, in the order in which its loop comes to the resources. -/
def allDeltas (order : List String) (current previous : Resources) : List CostDelta :=
  order.filterMap (resourceDelta current previous)

/-- What `compute_delta` makes of its two aggregates. -/
def compareResources (order : List String) (tenantId : Uuid) (today : Nat)
    (current previous : Resources) (daysToCompare : Int) : DeltaAnalysisResult where
  tenantId
  analysisDate := today
  totalPrevious := totalCost previous
  totalCurrent := totalCost current
  totalChange := totalCost current - totalCost previous
  totalChangePercent :=
    if 0 < totalCost previous then
      (totalCost current - totalCost previous) / totalCost previous * 100
    else 0
  topIncreases := (((allDeltas order current previous).filter fun d => 0 < d.changeAmount).mergeSort
    fun a b => b.changeAmount ≤ a.changeAmount).take 10
  topDecreases := (((allDeltas order current previous).filter fun d => d.changeAmount < 0).mergeSort
    fun a b => a.changeAmount ≤ b.changeAmount).take 10
  newResources := order.filterMap (newResource current previous)
  removedResources := order.filterMap (removedResource current previous)
  daysCompared := daysToCompare
  resourcesAnalyzed := current.rows.length
  significantChangesCount := (allDeltas order current previous).countP CostDelta.isSignificant

/-- `compute_delta`, whose loop goes over a set in an order of its own. -/
def computeDelta (order : List String) (tenantId : Uuid) (today : Nat)
    (currentCosts previousCosts : List Day) (daysToCompare : Int) : DeltaAnalysisResult :=
  compareResources order tenantId today (aggregateByResource currentCosts daysToCompare)
    (aggregateByResource previousCosts daysToCompare) daysToCompare

/-- A row in place of which stand several of the same keys that add up to it, or the rows of a day
in another order. -/
inductive Rewrites : List Day → List Day → Prop where
  | split (before after : List Day) (front back : List Group) (row : Group) (rows : List Group)
      (counts : row.metrics.counts = true) (some : rows ≠ [])
      (parts : ∀ part ∈ rows, part.keys = row.keys ∧ part.metrics.counts = true)
      (adds : (rows.map fun part => part.metrics.amount).sum = row.metrics.amount) :
      Rewrites (before ++ ⟨front ++ row :: back⟩ :: after)
        (before ++ ⟨front ++ rows ++ back⟩ :: after)
  | permute (before after : List Day) (groups groups' : List Group) (perm : groups.Perm groups') :
      Rewrites (before ++ ⟨groups⟩ :: after) (before ++ ⟨groups'⟩ :: after)

/-- The loop comes to every resource of either aggregate once. -/
structure Enumerates (order : List String) (current previous : Resources) : Prop where
  distinct : order.Nodup
  covers : ∀ id, id ∈ order ↔ (current.find id).isSome ∨ (previous.find id).isSome

/-- Two pairs of histories that cannot be told apart in what the comparison makes of them. -/
structure Unchanged (current previous current' previous' : List Day) (days : Int) : Prop where
  currentDaily : ∀ id, ((aggregateByResource current days).find id).map (·.dailyCost) =
    ((aggregateByResource current' days).find id).map (·.dailyCost)
  previousDaily : ∀ id, ((aggregateByResource previous days).find id).map (·.dailyCost) =
    ((aggregateByResource previous' days).find id).map (·.dailyCost)
  deltas : ∀ order,
    Enumerates order (aggregateByResource current days) (aggregateByResource previous days) →
    allDeltas order (aggregateByResource current days) (aggregateByResource previous days) =
      allDeltas order (aggregateByResource current' days) (aggregateByResource previous' days)
  result : ∀ order tenantId today,
    Enumerates order (aggregateByResource current days) (aggregateByResource previous days) →
    computeDelta order tenantId today current previous days =
      computeDelta order tenantId today current' previous' days

def picked (id : String) (groups : List Group) : List Group :=
  (groups.filter Group.listed).filter (·.resource = id)

def rowsOf (costs : List Day) (days : Int) (id : String) : List Group :=
  picked id ((lastDays costs days).flatMap Day.groups)

def spent (rows : List Group) : ℚ := (rows.map fun row => row.metrics.amount).sum

def rowCount (rows : List Group) : Nat := rows.countP (·.metrics.counts)

def rowMean (rows : List Group) : ℚ := spent rows / (max 1 (rowCount rows) : Nat)

def kindOf (rows : List Group) : String := (rows.head?.map Group.kind).getD ""

/-- A resource that the comparison names with its type of now: new at a dollar a row or more, or
changed by half a dollar a row. -/
def Named (current previous : List Group) : Prop :=
  current ≠ [] ∧ if previous = [] then 1 ≤ rowMean current
    else 1 / 2 ≤ |rowMean current - rowMean previous|

structure Steady (current previous current' previous' : List Day) (days : Int) : Prop where
  currentRows : ∀ id, spent (rowsOf current days id) = 0 ∨
    rowCount (rowsOf current days id) = rowCount (rowsOf current' days id)
  previousRows : ∀ id, spent (rowsOf previous days id) = 0 ∨
    rowCount (rowsOf previous days id) = rowCount (rowsOf previous' days id)
  named : ∀ id, Named (rowsOf current days id) (rowsOf previous days id) →
    kindOf (rowsOf current days id) = kindOf (rowsOf current' days id)
  removed : ∀ id, rowsOf current days id = [] →
    kindOf (rowsOf previous days id) = kindOf (rowsOf previous' days id)

theorem spent_append (front back : List Group) : spent (front ++ back) = spent front + spent back := by
  simp [spent]

theorem rowCount_append (front back : List Group) :
    rowCount (front ++ back) = rowCount front + rowCount back := by
  simp [rowCount]

theorem gather_rows (rows : List Group) :
    Table.gather ResourceTotals.opening ResourceTotals.add rows =
      rows.head?.map fun row =>
        { kind := row.kind, totalCost := spent rows, days := rowCount rows : ResourceTotals } := by
  induction rows using List.reverseRecOn with
  | nil => rfl
  | append_singleton front row ih =>
    rw [Table.gather_append,ih]
    cases front with
    | nil =>
      by_cases counts : row.metrics.counts = true
      · simp [ResourceTotals.opening,ResourceTotals.add,counts,spent,rowCount]
      · cases metrics : row.metrics <;>
          simp [ResourceTotals.opening,ResourceTotals.add,metrics,spent,rowCount,Metrics.counts,
            Metrics.amount] at counts ⊢
    | cons first front =>
      rw [spent_append,rowCount_append]
      by_cases counts : row.metrics.counts = true
      · simp [ResourceTotals.add,counts,spent,rowCount]
      · have nothing : row.metrics.amount = 0 := by
          cases metrics : row.metrics <;> simp [metrics,Metrics.counts,Metrics.amount] at counts ⊢
        simp [ResourceTotals.add,counts,spent,rowCount,nothing]

theorem find_aggregate (costs : List Day) (days : Int) (id : String) :
    (aggregateByResource costs days).find id = (rowsOf costs days id).head?.map fun row =>
      { kind := row.kind, totalCost := spent (rowsOf costs days id),
        days := rowCount (rowsOf costs days id) : ResourceTotals } := by
  rw [aggregateByResource,Table.find_groupBy,gather_rows]
  rfl

theorem find_cases (costs : List Day) (days : Int) (id : String) :
    (rowsOf costs days id = [] ∧ (aggregateByResource costs days).find id = none) ∨
    rowsOf costs days id ≠ [] ∧ ∃ totals, (aggregateByResource costs days).find id = some totals ∧
      totals.kind = kindOf (rowsOf costs days id) ∧
      totals.dailyCost = rowMean (rowsOf costs days id) ∧ totals.region = "" := by
  rw [find_aggregate]
  cases rows : rowsOf costs days id with
  | nil => exact .inl ⟨rfl,rfl⟩
  | cons first rest =>
    refine .inr ⟨by simp,_,rfl,rfl,?_,rfl⟩
    have divisor : ∀ count : Nat, (if count = 0 then 1 else count) = max 1 count := by
      intro count
      split <;> omega
    simp only [ResourceTotals.dailyCost,rowMean,divisor]

theorem newResource_eq (current previous : List Day) (days : Int) (id : String) :
    newResource (aggregateByResource current days) (aggregateByResource previous days) id =
      if rowsOf current days id = [] ∨ rowsOf previous days id ≠ [] then none
      else if 1 ≤ rowMean (rowsOf current days id) then
        some ⟨id,kindOf (rowsOf current days id),perDay (rowMean (rowsOf current days id))⟩
      else none := by
  rcases find_cases current days id with ⟨gone,found⟩ | ⟨there,totals,found,kind,daily,-⟩
  · simp [newResource,found,gone]
  · rcases find_cases previous days id with ⟨gone',found'⟩ | ⟨there',totals',found',-⟩
    · simp [newResource,found,found',there,gone',kind,daily]
    · simp [newResource,found,found',there']

theorem removedResource_eq (current previous : List Day) (days : Int) (id : String) :
    removedResource (aggregateByResource current days) (aggregateByResource previous days) id =
      if rowsOf current days id ≠ [] ∨ rowsOf previous days id = [] then none
      else some ⟨id,kindOf (rowsOf previous days id),perDay (rowMean (rowsOf previous days id))⟩ := by
  rcases find_cases current days id with ⟨gone,found⟩ | ⟨there,totals,found,-⟩
  · rcases find_cases previous days id with ⟨gone',found'⟩ | ⟨there',totals',found',kind,daily,-⟩
    · simp [removedResource,found,found',gone']
    · simp [removedResource,found,found',gone,there',kind,daily]
  · simp [removedResource,found,there]

theorem resourceDelta_eq (current previous : List Day) (days : Int) (id : String) :
    resourceDelta (aggregateByResource current days) (aggregateByResource previous days) id =
      if rowsOf current days id = [] ∨ rowsOf previous days id = [] then none
      else
        let now := rowMean (rowsOf current days id)
        let before := rowMean (rowsOf previous days id)
        if |now - before| < 1 / 2 then none
        else some ⟨id,kindOf (rowsOf current days id),before,now,now - before,
          if 0 < before then (now - before) / before * 100 else 0,""⟩ := by
  rcases find_cases current days id with ⟨gone,found⟩ | ⟨there,totals,found,kind,daily,region⟩
  · simp [resourceDelta,found,gone]
  · rcases find_cases previous days id with ⟨gone',found'⟩ | ⟨there',totals',found',-,daily',-⟩
    · simp [resourceDelta,found,found',gone']
    · simp [resourceDelta,found,found',there,there',kind,daily,daily',region]

structure Alike (rows rows' : List Group) : Prop where
  empty : rows = [] ↔ rows' = []
  spent : spent rows = spent rows'
  counted : rowCount rows = 0 ↔ rowCount rows' = 0

namespace Alike

theorem refl (rows : List Group) : Alike rows rows := ⟨Iff.rfl,rfl,Iff.rfl⟩

theorem trans {a b c : List Group} (first : Alike a b) (second : Alike b c) : Alike a c :=
  ⟨first.empty.trans second.empty,first.spent.trans second.spent,
    first.counted.trans second.counted⟩

theorem of_perm {rows rows' : List Group} (perm : rows.Perm rows') : Alike rows rows' where
  empty := by
    constructor
    · rintro rfl
      exact List.nil_perm.mp perm
    · rintro rfl
      exact List.perm_nil.mp perm
  spent := (perm.map _).sum_eq
  counted := by rw [rowCount,rowCount,perm.countP_eq]

theorem within {rows rows' : List Group} (alike : Alike rows rows') (front back : List Group) :
    Alike (front ++ rows ++ back) (front ++ rows' ++ back) where
  empty := by simp only [List.append_eq_nil_iff,alike.empty]
  spent := by simp only [spent_append,alike.spent]
  counted := by simp only [rowCount_append,Nat.add_eq_zero_iff,alike.counted]

theorem of_parts {row : Group} {rows : List Group} (counts : row.metrics.counts = true)
    (some : rows ≠ []) (parts : ∀ part ∈ rows, part.metrics.counts = true)
    (adds : (rows.map fun part => part.metrics.amount).sum = row.metrics.amount) :
    Alike [row] rows where
  empty := by simp [some]
  spent := by
    rw [DeltaAnalysis.spent,DeltaAnalysis.spent,adds]
    simp
  counted := by
    have all : rowCount rows = rows.length := List.countP_eq_length.mpr parts
    have one : rowCount [row] = 1 := by simp [rowCount,counts]
    have filled := List.length_pos_iff.mpr some
    omega

theorem rowMean_iff {rows rows' : List Group} (alike : Alike rows rows') :
    rowMean rows = rowMean rows' ↔
      DeltaAnalysis.spent rows = 0 ∨ rowCount rows = rowCount rows' := by
  have counts : (max 1 (rowCount rows) : Nat) = max 1 (rowCount rows') ↔
      rowCount rows = rowCount rows' := by
    have zero := alike.counted
    omega
  have positive : ∀ rows, ((max 1 (rowCount rows) : Nat) : ℚ) ≠ 0 := by
    intro rows
    have one : max 1 (rowCount rows) ≠ 0 := by omega
    exact_mod_cast one
  rw [rowMean,rowMean,← alike.spent,div_eq_div_iff (positive rows) (positive rows'),mul_eq_mul_left_iff,
    Nat.cast_inj,eq_comm (a := max 1 (rowCount rows')),counts,or_comm]

end Alike

theorem drop_cases (before after : List Day) (day day' : Day) (n : Nat) :
    (before ++ day :: after).drop n = (before ++ day' :: after).drop n ∨
    ∃ front, (before ++ day :: after).drop n = front ++ day :: after ∧
      (before ++ day' :: after).drop n = front ++ day' :: after := by
  rcases Nat.le_total n before.length with inside | past
  · exact .inr ⟨before.drop n,List.drop_append_of_le_length inside,
      List.drop_append_of_le_length inside⟩
  · obtain ⟨more,rfl⟩ := Nat.exists_eq_add_of_le past
    cases more with
    | zero => exact .inr ⟨[],by simp,by simp⟩
    | succ more => exact .inl (by simp [List.drop_append])

theorem lastDays_cases (before after : List Day) (day day' : Day) (days : Int) :
    lastDays (before ++ day :: after) days = lastDays (before ++ day' :: after) days ∨
    ∃ front, lastDays (before ++ day :: after) days = front ++ day :: after ∧
      lastDays (before ++ day' :: after) days = front ++ day' :: after := by
  unfold lastDays
  split
  · simp only [List.length_append,List.length_cons]
    exact drop_cases before after day day' _
  · exact drop_cases before after day day' _

theorem picked_append (id : String) (front back : List Group) :
    picked id (front ++ back) = picked id front ++ picked id back := by
  simp [picked]

theorem picked_within (id : String) {groups groups' : List Group}
    (alike : Alike (picked id groups) (picked id groups')) (front after : List Day) :
    Alike (picked id ((front ++ ⟨groups⟩ :: after).flatMap Day.groups))
      (picked id ((front ++ ⟨groups'⟩ :: after).flatMap Day.groups)) := by
  simp only [List.flatMap_append,List.flatMap_cons,picked_append,← List.append_assoc]
  exact alike.within _ _

theorem picked_parts (id : String) {row : Group} {rows : List Group}
    (counts : row.metrics.counts = true) (some : rows ≠ [])
    (parts : ∀ part ∈ rows, part.keys = row.keys ∧ part.metrics.counts = true)
    (adds : (rows.map fun part => part.metrics.amount).sum = row.metrics.amount) :
    Alike (picked id [row]) (picked id rows) := by
  have present : ∀ group : Group, group.metrics.counts = true → group.metrics ≠ .absent := by
    rintro group counted absent
    rw [absent] at counted
    exact Bool.noConfusion counted
  by_cases taken : row.keys ≠ [] ∧ row.resource = id
  · have one : picked id [row] = [row] := by
      simp [picked,Group.listed,taken,present row counts]
    have all : picked id rows = rows := by
      simp only [picked,List.filter_filter,List.filter_eq_self]
      intro part listed
      obtain ⟨keys,counted⟩ := parts part listed
      simpa [Group.listed,Group.resource,keys,present part counted,and_comm] using taken
    rw [one,all]
    exact .of_parts counts some (fun part listed => (parts part listed).2) adds
  · have none : ∀ part : Group, part.keys = row.keys → ¬(part.resource = id ∧ part.listed = true) := by
      intro part keys
      rintro ⟨resource,listed⟩
      simp only [Group.listed,Bool.and_eq_true,decide_eq_true_eq,keys] at listed
      exact taken ⟨listed.1,by rw [← resource,Group.resource,Group.resource,keys]⟩
    have left : picked id [row] = [] := by
      simpa [picked,List.filter_filter] using none row rfl
    have right : picked id rows = [] := by
      simp only [picked,List.filter_filter,List.filter_eq_nil_iff,Bool.and_eq_true,decide_eq_true_eq]
      exact fun part listed => none part (parts part listed).1
    rw [left,right]
    exact .refl []

theorem Rewrites.alike {costs costs' : List Day} (rewrites : Rewrites costs costs') (days : Int)
    (id : String) : Alike (rowsOf costs days id) (rowsOf costs' days id) := by
  have changed : ∀ before after groups groups', Alike (picked id groups) (picked id groups') →
      Alike (rowsOf (before ++ ⟨groups⟩ :: after) days id)
        (rowsOf (before ++ ⟨groups'⟩ :: after) days id) := by
    intro before after groups groups' alike
    unfold rowsOf
    rcases lastDays_cases before after ⟨groups⟩ ⟨groups'⟩ days with same | ⟨front,old,new⟩
    · rw [same]
      exact .refl _
    · rw [old,new]
      exact picked_within id alike front after
  cases rewrites with
  | split before after front back row rows counts some parts adds =>
    refine changed before after _ _ ?_
    rw [← List.singleton_append,← List.append_assoc,picked_append,picked_append,picked_append,
      picked_append]
    exact (picked_parts id counts some parts adds).within _ _
  | permute before after groups groups' perm =>
    exact changed before after _ _ (.of_perm ((perm.filter _).filter _))

theorem rewritten_alike {costs costs' : List Day} (rewritten : Relation.ReflTransGen Rewrites costs costs')
    (days : Int) (id : String) : Alike (rowsOf costs days id) (rowsOf costs' days id) := by
  induction rewritten with
  | refl => exact .refl _
  | tail _ step ih => exact ih.trans (step.alike days id)

theorem exists_order (current previous : Resources) : ∃ order, Enumerates order current previous := by
  refine ⟨(current.rows.map Prod.fst ++ previous.rows.map Prod.fst).dedup,List.nodup_dedup _,?_⟩
  intro id
  rw [List.mem_dedup,List.mem_append,Option.isSome_iff_ne_none,Option.isSome_iff_ne_none,ne_eq,ne_eq,
    Table.find_eq_none_iff,Table.find_eq_none_iff,not_not,not_not]

theorem note_agrees {β : Type} {f f' : String → Option β} (about : β → String)
    (own : ∀ id note, f' id = some note → about note = id) {order : List String} {id : String}
    {note : β} (same : order.filterMap f = order.filterMap f') (listed : id ∈ order)
    (noted : f id = some note) (named : about note = id) : f' id = some note := by
  have member : note ∈ order.filterMap f' := by
    rw [← same]
    exact List.mem_filterMap.mpr ⟨id,listed,noted⟩
  obtain ⟨id',-,found⟩ := List.mem_filterMap.mp member
  rwa [← named,own id' note found]

section Compared

variable {current previous current' previous' : List Day} {days : Int}

theorem daily_iff (alike : ∀ id, Alike (rowsOf current days id) (rowsOf current' days id)) :
    (∀ id, ((aggregateByResource current days).find id).map (·.dailyCost) =
      ((aggregateByResource current' days).find id).map (·.dailyCost)) ↔
    ∀ id, rowMean (rowsOf current days id) = rowMean (rowsOf current' days id) := by
  refine forall_congr' fun id => ?_
  rcases find_cases current days id with ⟨gone,found⟩ | ⟨there,totals,found,-,daily,-⟩
  · rcases find_cases current' days id with ⟨gone',found'⟩ | ⟨there',-⟩
    · simp [found,found',gone,gone']
    · exact absurd ((alike id).empty.mp gone) there'
  · rcases find_cases current' days id with ⟨gone',-⟩ | ⟨there',totals',found',-,daily',-⟩
    · exact absurd ((alike id).empty.mpr gone') there
    · simp [found,found',daily,daily']

theorem totalCost_congr (daily : ∀ id, ((aggregateByResource current days).find id).map (·.dailyCost) =
      ((aggregateByResource current' days).find id).map (·.dailyCost)) :
    totalCost (aggregateByResource current days) = totalCost (aggregateByResource current' days) ∧
      (aggregateByResource current days).rows.length =
        (aggregateByResource current' days).rows.length := by
  refine ⟨Table.sum_of_find _ daily,?_⟩
  have lengths := (Table.perm_of_find _ daily).length_eq
  simpa using lengths

/-- What is said of a resource whose averages and type stay. -/
theorem notes_congr (id : String)
    (emptyCurrent : rowsOf current days id = [] ↔ rowsOf current' days id = [])
    (emptyPrevious : rowsOf previous days id = [] ↔ rowsOf previous' days id = [])
    (now : rowMean (rowsOf current days id) = rowMean (rowsOf current' days id))
    (before : rowMean (rowsOf previous days id) = rowMean (rowsOf previous' days id))
    (named : Named (rowsOf current days id) (rowsOf previous days id) →
      kindOf (rowsOf current days id) = kindOf (rowsOf current' days id))
    (removed : rowsOf current days id = [] →
      kindOf (rowsOf previous days id) = kindOf (rowsOf previous' days id)) :
    newResource (aggregateByResource current days) (aggregateByResource previous days) id =
        newResource (aggregateByResource current' days) (aggregateByResource previous' days) id ∧
      removedResource (aggregateByResource current days) (aggregateByResource previous days) id =
        removedResource (aggregateByResource current' days) (aggregateByResource previous' days) id ∧
      resourceDelta (aggregateByResource current days) (aggregateByResource previous days) id =
        resourceDelta (aggregateByResource current' days) (aggregateByResource previous' days) id := by
  simp only [newResource_eq,removedResource_eq,resourceDelta_eq,← emptyCurrent,← emptyPrevious,← now,
    ← before,ne_eq]
  by_cases gone : rowsOf current days id = []
  · simp [gone,removed gone]
  · by_cases absent : rowsOf previous days id = []
    · by_cases cheap : 1 ≤ rowMean (rowsOf current days id)
      · simp [gone,absent,cheap,named ⟨gone,by simpa [absent] using cheap⟩]
      · simp [gone,absent,cheap]
    · by_cases small : |rowMean (rowsOf current days id) - rowMean (rowsOf previous days id)| < 1 / 2
      · simp only [gone,absent,small,not_false_eq_true,or_true,true_or,or_self,if_true,if_false,
          and_self]
      · have kind := named ⟨gone,by rw [if_neg absent]; exact not_lt.mp small⟩
        simp only [gone,absent,small,kind,not_false_eq_true,or_true,true_or,or_self,if_true,if_false,
          and_self]

theorem newResource_named {id : String} {note : ResourceNote}
    (noted : newResource (aggregateByResource current days) (aggregateByResource previous days) id =
      some note) : note.resource = id := by
  rw [newResource_eq] at noted
  split at noted
  · cases noted
  · split at noted
    · cases noted
      rfl
    · cases noted

theorem removedResource_named {id : String} {note : ResourceNote}
    (noted : removedResource (aggregateByResource current days) (aggregateByResource previous days) id =
      some note) : note.resource = id := by
  rw [removedResource_eq] at noted
  split at noted
  · cases noted
  · cases noted
    rfl

theorem resourceDelta_named {id : String} {delta : CostDelta}
    (noted : resourceDelta (aggregateByResource current days) (aggregateByResource previous days) id =
      some delta) : delta.resourceId = id := by
  rw [resourceDelta_eq] at noted
  split at noted
  · cases noted
  · dsimp only at noted
    split at noted
    · cases noted
    · cases noted
      rfl

theorem enumerates_mem {order : List String}
    (enumerates : Enumerates order (aggregateByResource current days)
      (aggregateByResource previous days)) {id : String}
    (there : rowsOf current days id ≠ [] ∨ rowsOf previous days id ≠ []) : id ∈ order := by
  refine (enumerates.covers id).mpr (there.imp ?_ ?_)
  · intro filled
    rcases find_cases current days id with ⟨gone,-⟩ | ⟨-,totals,found,-⟩
    · exact absurd gone filled
    · simp [found]
  · intro filled
    rcases find_cases previous days id with ⟨gone,-⟩ | ⟨-,totals,found,-⟩
    · exact absurd gone filled
    · simp [found]

theorem steady_of_unchanged
    (alike : ∀ id, Alike (rowsOf current days id) (rowsOf current' days id))
    (alike' : ∀ id, Alike (rowsOf previous days id) (rowsOf previous' days id))
    (unchanged : Unchanged current previous current' previous' days) :
    Steady current previous current' previous' days := by
  obtain ⟨order,enumerates⟩ := exists_order (aggregateByResource current days)
    (aggregateByResource previous days)
  have result := unchanged.result order 0 0 enumerates
  refine ⟨?_,?_,?_,?_⟩
  · exact fun id => (alike id).rowMean_iff.mp ((daily_iff alike).mp unchanged.currentDaily id)
  · exact fun id => (alike' id).rowMean_iff.mp ((daily_iff alike').mp unchanged.previousDaily id)
  · rintro id ⟨there,noted⟩
    have listed := enumerates_mem enumerates (.inl there)
    by_cases absent : rowsOf previous days id = []
    · rw [if_pos absent] at noted
      have note := newResource_eq current previous days id
      rw [if_neg (by simp [there,absent]),if_pos noted] at note
      have kept := note_agrees ResourceNote.resource (fun _ _ => newResource_named)
        (congrArg DeltaAnalysisResult.newResources result) listed note rfl
      rw [newResource_eq] at kept
      split at kept
      · cases kept
      · split at kept
        · exact (congrArg ResourceNote.kind (Option.some.inj kept)).symm
        · cases kept
    · rw [if_neg absent] at noted
      have delta := resourceDelta_eq current previous days id
      rw [if_neg (by simp [there,absent])] at delta
      dsimp only at delta
      rw [if_neg (not_lt.mpr noted)] at delta
      have kept := note_agrees CostDelta.resourceId (fun _ _ => resourceDelta_named)
        (unchanged.deltas order enumerates) listed delta rfl
      rw [resourceDelta_eq] at kept
      split at kept
      · cases kept
      · dsimp only at kept
        split at kept
        · cases kept
        · exact (congrArg CostDelta.resourceType (Option.some.inj kept)).symm
  · intro id gone
    by_cases absent : rowsOf previous days id = []
    · rw [absent,(alike' id).empty.mp absent]
    · have listed := enumerates_mem enumerates (.inr absent)
      have note := removedResource_eq current previous days id
      rw [if_neg (by simp [gone,absent])] at note
      have kept := note_agrees ResourceNote.resource (fun _ _ => removedResource_named)
        (congrArg DeltaAnalysisResult.removedResources result) listed note rfl
      rw [removedResource_eq] at kept
      split at kept
      · cases kept
      · exact (congrArg ResourceNote.kind (Option.some.inj kept)).symm

theorem unchanged_of_steady
    (alike : ∀ id, Alike (rowsOf current days id) (rowsOf current' days id))
    (alike' : ∀ id, Alike (rowsOf previous days id) (rowsOf previous' days id))
    (steady : Steady current previous current' previous' days) :
    Unchanged current previous current' previous' days := by
  have now := fun id => (alike id).rowMean_iff.mpr (steady.currentRows id)
  have before := fun id => (alike' id).rowMean_iff.mpr (steady.previousRows id)
  have daily := (daily_iff alike).mpr now
  have daily' := (daily_iff alike').mpr before
  have notes := fun id => notes_congr id (alike id).empty (alike' id).empty (now id) (before id)
    (steady.named id) (steady.removed id)
  have deltas : ∀ order,
      allDeltas order (aggregateByResource current days) (aggregateByResource previous days) =
        allDeltas order (aggregateByResource current' days) (aggregateByResource previous' days) :=
    fun order => List.filterMap_congr fun id _ => (notes id).2.2
  refine ⟨daily,daily',fun order _ => deltas order,?_⟩
  intro order tenantId today _
  obtain ⟨total,count⟩ := totalCost_congr daily
  obtain ⟨total',-⟩ := totalCost_congr daily'
  have new : ∀ id ∈ order, _ := fun id _ => (notes id).1
  have removed : ∀ id ∈ order, _ := fun id _ => (notes id).2.1
  simp only [computeDelta,compareResources,total,total',count,deltas,List.filterMap_congr new,
    List.filterMap_congr removed]

/-- Rewriting rows leaves the comparison as it was exactly when no average and no type that is shown
moves with the rows. -/
theorem unchanged_iff (now : Relation.ReflTransGen Rewrites current current')
    (before : Relation.ReflTransGen Rewrites previous previous') :
    Unchanged current previous current' previous' days ↔
      Steady current previous current' previous' days :=
  ⟨steady_of_unchanged (rewritten_alike now days) (rewritten_alike before days),
    unchanged_of_steady (rewritten_alike now days) (rewritten_alike before days)⟩

end Compared

def usage (service resource : String) (amount : ℚ) : Group :=
  ⟨[service,resource],.costs (.text amount) .missing⟩

theorem swapped_unchanged :
    Unchanged [⟨[usage "EC2" "i-1" 10,usage "RDS" "db-1" 4]⟩] [⟨[usage "EC2" "i-1" 10]⟩]
        [⟨[usage "RDS" "db-1" 4,usage "EC2" "i-1" 10]⟩] [⟨[usage "EC2" "i-1" 10]⟩] 3 ↔
      Steady [⟨[usage "EC2" "i-1" 10,usage "RDS" "db-1" 4]⟩] [⟨[usage "EC2" "i-1" 10]⟩]
        [⟨[usage "RDS" "db-1" 4,usage "EC2" "i-1" 10]⟩] [⟨[usage "EC2" "i-1" 10]⟩] 3 :=
  unchanged_iff (.single (.permute [] [] _ _ (.swap _ _ _))) .refl

/-- A row in two parts halves the daily cost of its resource. -/
theorem split_halves :
    Rewrites [⟨[usage "EC2" "i-1" 10]⟩] [⟨[usage "EC2" "i-1" 4,usage "EC2" "i-1" 6]⟩] ∧
      ¬Unchanged [⟨[usage "EC2" "i-1" 10]⟩] []
        [⟨[usage "EC2" "i-1" 4,usage "EC2" "i-1" 6]⟩] [] 3 := by
  refine ⟨?_,fun unchanged => ?_⟩
  · refine .split [] [] [] [] (usage "EC2" "i-1" 10)
      [usage "EC2" "i-1" 4,usage "EC2" "i-1" 6] rfl (by simp) ?_ ?_
    · decide
    · decide +kernel
  · have daily := unchanged.currentDaily "i-1"
    revert daily
    decide +kernel

end Valdrics.DeltaAnalysis

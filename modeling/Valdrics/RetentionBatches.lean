import Valdrics.CostRetention
import Valdrics.GroupedFold

/-! The loop over tiers and batches as sweeps of a removal plan, and what the groups of plans are. -/
namespace Valdrics.CostRetention

open Enforcement (PricingTier Uuid)
open Billing (pricingTier tierValue pricingTier_tierValue)
open PythonText
open Removal (Plan)

theorem CostRecord.le_trans (a b c : CostRecord) (first : a.le b) (second : b.le c) : a.le c := by
  simp only [CostRecord.le,Bool.or_eq_true,Bool.and_eq_true,decide_eq_true_eq] at *
  omega

theorem CostRecord.le_total (a b : CostRecord) : a.le b || b.le a := by
  simp only [CostRecord.le,Bool.or_eq_true,Bool.and_eq_true,decide_eq_true_eq]
  omega

def Call.removal (call : Call) : Plan CostRecord Uuid where
  key := CostRecord.id
  le := CostRecord.le
  size := call.resolvedBatchSize
  trans := CostRecord.le_trans
  total := CostRecord.le_total
  positive := by
    have at_least : 100 ≤ coercePositiveInt call.batchSize 5000 100 := by
      rw [coercePositiveInt]
      split
      next large => exact large
      next => decide
    rw [Call.resolvedBatchSize]
    omega

theorem purgeBatches_sweep (call : Call) (due : CostRecord → Bool) (group : PricingTier × Nat)
    (batches : Nat) (purge : Purge) (tierDeleted : Nat) :
    purgeBatches due group call.resolvedBatchSize batches purge tierDeleted =
      let swept := call.removal.sweep due batches purge.records
      ({ purge with
          records := swept.2
          totalDeleted := purge.totalDeleted + swept.1.flatten.length
          totalBatches := purge.totalBatches + swept.1.length
          tenantReports := swept.1.flatten.foldl (noteRow group) purge.tenantReports },
        tierDeleted + swept.1.flatten.length) := by
  induction batches generalizing purge tierDeleted with
  | zero => rfl
  | succ batches ih =>
    have batch : ((purge.records.filter due).mergeSort CostRecord.le).take call.resolvedBatchSize =
        call.removal.batch due purge.records := rfl
    rw [purgeBatches,Plan.sweep,batch]
    by_cases done : call.removal.batch due purge.records = []
    · simp [done]
    · rw [if_neg done,if_neg done,ih]
      simp only [List.flatten_cons,List.length_append,List.length_cons,List.foldl_append,
        List.length_map,Nat.add_assoc,Nat.add_comm 1]
      rfl

theorem getTierLimit_tierValue (text : Lowercase) (tier : PricingTier) :
    getTierLimit text (tierValue tier) = retentionLimit tier := by
  rw [getTierLimit,normalizeTier,pricingTier_tierValue,Option.getD_some]

theorem retentionLimit_positive {tier : PricingTier} {days : Nat}
    (limited : retentionLimit tier = some days) : ¬days < 1 := by
  cases tier with
  | enterprise => simp [retentionLimit] at limited
  | _ =>
    obtain rfl := Option.some.inj limited
    decide

def groupEntry (text : Lowercase) (rawPlan : Option String) : Option ((PricingTier × Nat) × String) :=
  (retentionLimit (normalizeTier text rawPlan)).map fun days =>
    ((normalizeTier text rawPlan,days),planText rawPlan)

theorem retentionGroups_eq (text : Lowercase) (rawPlans : List (Option String)) :
    retentionGroups text rawPlans = Table.groupBy Prod.fst (fun entry => [entry.2])
      (fun plans entry => plans ++ [entry.2]) (rawPlans.filterMap (groupEntry text)) := by
  rw [retentionGroups,Table.groupBy,List.foldl_filterMap]
  congr 1
  funext groups rawPlan
  simp only [getTierLimit_tierValue,groupEntry]
  cases limit : retentionLimit (normalizeTier text rawPlan) with
  | none => rfl
  | some days => exact if_neg (retentionLimit_positive limit)

theorem gather_texts (entries : List ((PricingTier × Nat) × String)) :
    Table.gather (fun entry => [entry.2]) (fun plans entry => plans ++ [entry.2]) entries =
      if entries = [] then none else some (entries.map Prod.snd) := by
  induction entries using List.reverseRecOn with
  | nil => rfl
  | append_singleton front entry ih =>
    rw [Table.gather_append,ih]
    cases front with
    | nil => rfl
    | cons first rest => simp

theorem find_retentionGroups {text : Lowercase} {rawPlans : List (Option String)}
    {key : PricingTier × Nat} {plans : List String}
    (found : (retentionGroups text rawPlans).find key = some plans) :
    retentionLimit key.1 = some key.2 ∧ ∀ plan, plan ∈ plans ↔
      ∃ rawPlan ∈ rawPlans, planText rawPlan = plan ∧ normalizeTier text rawPlan = key.1 := by
  rw [retentionGroups_eq,Table.find_groupBy,gather_texts] at found
  split at found
  next => simp at found
  next filled =>
    have entries : ∀ entry, entry ∈ (rawPlans.filterMap (groupEntry text)).filter (fun entry =>
        entry.1 = key) ↔ ∃ rawPlan ∈ rawPlans,
          groupEntry text rawPlan = some entry ∧ entry.1 = key := by
      intro entry
      simp only [List.mem_filter,List.mem_filterMap,decide_eq_true_eq]
      tauto
    obtain ⟨entry,first⟩ := List.exists_mem_of_ne_nil _ filled
    obtain ⟨rawPlan,-,made,same⟩ := (entries entry).mp first
    obtain ⟨days,limit,rfl⟩ := Option.map_eq_some_iff.mp made
    have limited : retentionLimit key.1 = some key.2 := by
      rw [← same]
      exact limit
    refine ⟨limited,fun plan => ?_⟩
    rw [← Option.some.inj found,List.mem_map]
    constructor
    · rintro ⟨other,listed,rfl⟩
      obtain ⟨rawPlan,member,made,same⟩ := (entries other).mp listed
      obtain ⟨days,limit,rfl⟩ := Option.map_eq_some_iff.mp made
      exact ⟨rawPlan,member,rfl,congrArg Prod.fst same⟩
    · rintro ⟨rawPlan,member,rfl,tier⟩
      refine ⟨(key,planText rawPlan),(entries _).mpr ⟨rawPlan,member,?_,rfl⟩,rfl⟩
      rw [groupEntry,tier,limited]
      rfl

theorem retentionGroups_every {text : Lowercase} {rawPlans : List (Option String)}
    {rawPlan : Option String} (listed : rawPlan ∈ rawPlans) {days : Nat}
    (limited : retentionLimit (normalizeTier text rawPlan) = some days) :
    ∃ plans, (retentionGroups text rawPlans).find (normalizeTier text rawPlan,days) = some plans := by
  have made : groupEntry text rawPlan =
      some ((normalizeTier text rawPlan,days),planText rawPlan) := by
    rw [groupEntry,limited]
    rfl
  have entry := List.mem_filterMap.mpr ⟨rawPlan,listed,made⟩
  have kept : ((normalizeTier text rawPlan,days),planText rawPlan) ∈
      (rawPlans.filterMap (groupEntry text)).filter fun entry =>
        entry.1 = (normalizeTier text rawPlan,days) :=
    List.mem_filter.mpr ⟨entry,decide_eq_true rfl⟩
  rw [retentionGroups_eq,Table.find_groupBy,gather_texts,if_neg (List.ne_nil_of_mem kept)]
  exact ⟨_,rfl⟩

theorem normalizeTier_planText (text : Lowercase) (rawPlan : Option String) :
    normalizeTier text (some (planText rawPlan)) = normalizeTier text rawPlan := by
  cases rawPlan with
  | some plan => rfl
  | none =>
    have named : text.lower (strip "None") = "none" := by
      rw [show strip "None" = "None" by rfl,text.ascii _ (by simp [IsAscii])]
      rfl
    rw [planText,normalizeTier,named]
    rfl

def Purge.tally (purge : Purge) (group : RetentionGroup) (taken : List CostRecord)
    (batches : Nat) : Purge :=
  { purge with
    totalDeleted := purge.totalDeleted + taken.length
    totalBatches := purge.totalBatches + batches
    tierDeletedCounts :=
      if taken.length = 0 then purge.tierDeletedCounts
      else purge.tierDeletedCounts.upsert (tierValue group.1.1) taken.length fun _ => taken.length
    tenantReports := taken.foldl (noteRow group.1) purge.tenantReports }

def Purge.tallies (purge : Purge) (swept : List (RetentionGroup × List (List CostRecord))) : Purge :=
  swept.foldl (fun purge swept => purge.tally swept.1 swept.2.flatten swept.2.length) purge

theorem Purge.tallies_records (purge : Purge) (records : List CostRecord)
    (swept : List (RetentionGroup × List (List CostRecord))) :
    ({ purge with records := records } : Purge).tallies swept =
      { purge.tallies swept with records := records } := by
  induction swept generalizing purge with
  | nil => rfl
  | cons first rest ih => exact ih (purge.tally first.1 first.2.flatten first.2.length)

namespace Estate

variable (estate : Estate) (call : Call)

def kind (group : RetentionGroup) : CostRecord → Bool :=
  dueIn estate.plans group.2 (call.targetDate - group.1.2)

theorem purgeGroup_eq (purge : Purge) (group : RetentionGroup) (dated : group.1.2 ≤ call.targetDate) :
    purgeGroup estate.plans call purge group =
      let swept := call.removal.sweep (estate.kind call group) call.resolvedMaxBatches purge.records
      some { purge.tally group swept.1.flatten swept.1.length with records := swept.2 } := by
  have batches := purgeBatches_sweep call (estate.kind call group) group.1 call.resolvedMaxBatches
    purge 0
  dsimp only at batches
  rw [Nat.zero_add,kind] at batches
  rw [purgeGroup,if_pos dated]
  dsimp only
  rw [batches]
  simp only [kind,Purge.tally]
  split
  next none => simp only [none,if_true]
  next some_ => simp only [some_,if_false]

def sweptGroups (groups : List RetentionGroup) (records : List CostRecord) :
    List (RetentionGroup × List (List CostRecord)) :=
  groups.zip (call.removal.sweeps call.resolvedMaxBatches (groups.map (estate.kind call)) records).1

theorem purgeGroups_eq (groups : List RetentionGroup) (purge : Purge)
    (dated : ∀ group ∈ groups, group.1.2 ≤ call.targetDate) :
    groups.foldlM (purgeGroup estate.plans call) purge =
      some { purge.tallies (estate.sweptGroups call groups purge.records) with
        records := (call.removal.sweeps call.resolvedMaxBatches (groups.map (estate.kind call))
          purge.records).2 } := by
  induction groups generalizing purge with
  | nil => rfl
  | cons group rest ih =>
    obtain ⟨first,dated⟩ := List.forall_mem_cons.mp dated
    rw [List.foldlM_cons,estate.purgeGroup_eq call purge group first]
    dsimp only [Option.bind_eq_bind,Option.bind_some]
    rw [ih _ dated,Purge.tallies_records]
    rfl

end Estate

end Valdrics.CostRetention

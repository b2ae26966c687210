import Valdrics.RetentionBatches

/-! When the deletion by plans is exact: what is gone are the expired records, and the summary is
about them. A record is deleted by its identifier alone, a tenant without a plan is passed over, and a
cutoff before the first date raises. -/
namespace Valdrics.CostRetention

open Enforcement (PricingTier Uuid)
open Enforcement.ApprovalToken (uuidText)
open Billing (tierValue)
open DateText (isoFormat)
open PythonText (before)
open Removal (Plan)

namespace Estate

variable (estate : Estate)

def planOf (tenantId : Uuid) : Option String := (estate.plans.find tenantId).getD none

def tierOf (tenantId : Uuid) : PricingTier := normalizeTier estate.text (estate.planOf tenantId)

def expired (targetDate : Nat) (record : CostRecord) : Bool :=
  (retentionLimit (estate.tierOf record.tenantId)).any fun days =>
    record.recordedAt + days < targetDate

def expiredOf (targetDate : Nat) (tier : PricingTier) : List CostRecord :=
  estate.records.filter fun record =>
    estate.tierOf record.tenantId = tier && estate.expired targetDate record

def removed (after : List CostRecord) : List CostRecord :=
  estate.records.filter fun record => record ∉ after

def removedOf (after : List CostRecord) (tenantId : Uuid) : List CostRecord :=
  (estate.removed after).filter fun record => record.tenantId = tenantId

end Estate

structure Reports (estate : Estate) (tenant : Uuid) (rows : List CostRecord)
    (report : TenantReport) : Prop where
  tenantId : report.tenantId = uuidText tenant
  tenantTier : report.tenantTier = tierValue (estate.tierOf tenant)
  retentionDays : retentionLimit (estate.tierOf tenant) = some report.retentionDays
  deletedCount : report.deletedCount = rows.length
  oldest : ∃ record ∈ rows, report.oldestRecordedAt = some (isoFormat record.recordedAt) ∧
    ∀ other ∈ rows, record.recordedAt ≤ other.recordedAt
  newest : ∃ record ∈ rows, report.newestRecordedAt = some (isoFormat record.recordedAt) ∧
    ∀ other ∈ rows, other.recordedAt ≤ record.recordedAt

/-- The deletion took the expired records, all of those of a tier that its batches could take, and
says so. -/
structure Exact (estate : Estate) (call : Call) (after : List CostRecord) (summary : Summary) :
    Prop where
  kept : after.Sublist estate.records
  sound : ∀ record ∈ estate.removed after, estate.expired call.targetDate record = true
  complete : ∀ tier, (estate.expiredOf call.targetDate tier).length ≤
      call.resolvedMaxBatches * call.resolvedBatchSize →
    ∀ record ∈ estate.expiredOf call.targetDate tier, record ∉ after
  deletedCount : summary.deletedCount = (estate.removed after).length
  tiers : ∀ tier, summary.tiers.find (tierValue tier) =
    let count := ((estate.removed after).filter fun record =>
      estate.tierOf record.tenantId = tier).length
    if count = 0 then none else some count
  noTier : ∀ name, (∀ tier, tierValue tier ≠ name) → summary.tiers.find name = none
  reported : ∀ tenantId, estate.removedOf after tenantId ≠ [] →
    ∃ report ∈ summary.tenantReports, Reports estate tenantId (estate.removedOf after tenantId) report
  reports : ∀ report ∈ summary.tenantReports, ∃ tenantId, estate.removedOf after tenantId ≠ [] ∧
    Reports estate tenantId (estate.removedOf after tenantId) report
  once : (summary.tenantReports.map TenantReport.tenantId).Nodup

def RetainsExactly (estate : Estate) (call : Call) : Prop :=
  ∃ after summary, estate.cleanupExpiredCostRecordsByPlan call = some (after,summary) ∧
    Exact estate call after summary

def Call.summary (call : Call) (purge : Purge) : Summary where
  deletedCount := purge.totalDeleted
  tiers := purge.tierDeletedCounts
  tenantReports := (purge.tenantReports.rows.map Prod.snd).mergeSort TenantReport.le
  batchSize := call.resolvedBatchSize
  maxBatches := call.resolvedMaxBatches
  asOfDate := isoFormat call.targetDate

def Estate.due (estate : Estate) (call : Call) (tier : PricingTier) (record : CostRecord) : Bool :=
  (estate.planOf record.tenantId).isSome && (estate.tierOf record.tenantId = tier &&
    estate.expired call.targetDate record)

structure Purgeable (estate : Estate) (call : Call) : Prop where
  dated : ∀ rawPlan ∈ estate.rawPlans, ∀ days,
    retentionLimit (normalizeTier estate.text rawPlan) = some days → days ≤ call.targetDate
  apart : ∀ tier, call.removal.Apart (estate.due call tier) call.resolvedMaxBatches estate.records
  planned : ∀ tier, (estate.expiredOf call.targetDate tier).length ≤
      call.resolvedMaxBatches * call.resolvedBatchSize →
    ∀ record ∈ estate.expiredOf call.targetDate tier, estate.planOf record.tenantId ≠ none

namespace Estate

variable (estate : Estate) (call : Call)

theorem records_nodup : estate.records.Nodup := estate.recordKeys.of_map _

theorem planOf_listed {record : CostRecord} (listed : record ∈ estate.records) :
    estate.planOf record.tenantId ∈ estate.rawPlans := by
  obtain ⟨plan,found⟩ := Option.isSome_iff_exists.mp (estate.tenantKeys record listed)
  rw [planOf,found,rawPlans,List.mem_dedup]
  exact List.mem_map.mpr ⟨_,Table.find_eq_some_iff.mp found,rfl⟩

theorem mem_sortedGroups {group : RetentionGroup} :
    group ∈ estate.sortedGroups ↔
      (retentionGroups estate.text estate.rawPlans).find group.1 = some group.2 := by
  rw [sortedGroups,List.mem_mergeSort,Table.find_eq_some_iff]

theorem kind_due {group : RetentionGroup} (member : group ∈ estate.sortedGroups)
    {record : CostRecord} (listed : record ∈ estate.records) :
    estate.kind call group record = estate.due call group.1.1 record := by
  obtain ⟨limited,plans⟩ := find_retentionGroups (estate.mem_sortedGroups.mp member)
  have raw := estate.planOf_listed listed
  obtain ⟨plan,found⟩ := Option.isSome_iff_exists.mp (estate.tenantKeys record listed)
  have own : estate.planOf record.tenantId = plan := by rw [planOf,found,Option.getD_some]
  rw [own] at raw
  rw [kind,dueIn,found,due,tierOf,own,expired,tierOf,own]
  cases plan with
  | none => rfl
  | some plan =>
    dsimp only
    have named : plan ∈ group.2 ↔ normalizeTier estate.text (some plan) = group.1.1 := by
      rw [plans]
      constructor
      · rintro ⟨rawPlan,-,rfl,tier⟩
        rwa [normalizeTier_planText]
      · exact fun tier => ⟨some plan,raw,rfl,tier⟩
    by_cases tier : normalizeTier estate.text (some plan) = group.1.1
    · have before_ : record.recordedAt < call.targetDate - group.1.2 ↔
          record.recordedAt + group.1.2 < call.targetDate := by omega
      simp [named,tier,limited,before_]
    · simp [named,tier]

theorem group_limited {group : RetentionGroup} (member : group ∈ estate.sortedGroups) :
    retentionLimit group.1.1 = some group.1.2 :=
  (find_retentionGroups (estate.mem_sortedGroups.mp member)).1

theorem due_tier {estate : Estate} {call : Call} {tier : PricingTier} {record : CostRecord}
    (due : estate.due call tier record = true) : estate.tierOf record.tenantId = tier := by
  simp only [Estate.due,Bool.and_eq_true,decide_eq_true_eq] at due
  exact due.2.1

theorem due_group {tier : PricingTier} {record : CostRecord} (listed : record ∈ estate.records)
    (due : estate.due call tier record = true) :
    ∃ group ∈ estate.sortedGroups, group.1.1 = tier := by
  simp only [Estate.due,expired,Bool.and_eq_true,decide_eq_true_eq,Option.any_eq_true] at due
  obtain ⟨-,same,days,limited,-⟩ := due
  obtain ⟨plans,found⟩ := retentionGroups_every (estate.planOf_listed listed) limited
  exact ⟨(_,plans),estate.mem_sortedGroups.mpr found,same⟩

theorem sortedGroups_tiers : (estate.sortedGroups.map fun group => group.1.1).Nodup := by
  have keys : (estate.sortedGroups.map Prod.fst).Nodup := by
    refine (((List.mergeSort_perm _ _).map Prod.fst).nodup_iff).mpr ?_
    exact (retentionGroups estate.text estate.rawPlans).distinct
  have apart := List.pairwise_map.mp keys
  refine List.pairwise_map.mpr (apart.imp_of_mem fun member member' differ same => differ ?_)
  have limited := estate.group_limited member
  rw [same,estate.group_limited member'] at limited
  exact Prod.ext same (Option.some.inj limited).symm

def kinds : List (CostRecord → Bool) := estate.sortedGroups.map (estate.kind call)

theorem kinds_disjoint : Plan.Disjoint (estate.kinds call) := by
  refine List.pairwise_map.mpr ((List.pairwise_map.mp estate.sortedGroups_tiers).imp_of_mem ?_)
  intro group group' member member' differ record due
  obtain ⟨-,plans⟩ := find_retentionGroups (estate.mem_sortedGroups.mp member)
  obtain ⟨-,plans'⟩ := find_retentionGroups (estate.mem_sortedGroups.mp member')
  rw [kind,dueIn] at due ⊢
  split at due
  next plan found =>
    simp only [Bool.and_eq_true,decide_eq_true_eq] at due
    obtain ⟨rawPlan,-,named,tier⟩ := (plans plan).mp due.1
    have elsewhere : plan ∉ group'.2 := by
      intro listed
      obtain ⟨rawPlan',-,named',tier'⟩ := (plans' plan).mp listed
      refine differ ?_
      rw [← tier,← tier',← normalizeTier_planText,named,← named',normalizeTier_planText]
    simp [elsewhere]
  next => rfl

theorem apart_kinds : (∀ due ∈ estate.kinds call,
      call.removal.Apart due call.resolvedMaxBatches estate.records) ↔
    ∀ tier, call.removal.Apart (estate.due call tier) call.resolvedMaxBatches estate.records := by
  rw [kinds,List.forall_mem_map]
  constructor
  · intro apart tier round bound row inside other listed same
    have there := Plan.mem_taken (Plan.mem_taken_iff.mpr ⟨round,bound,inside⟩)
    obtain ⟨group,member,rfl⟩ := estate.due_group call there.1 there.2
    have own : ∀ row ∈ estate.records, estate.kind call group row = estate.due call group.1.1 row :=
      fun row listed => estate.kind_due call member listed
    exact (Plan.apart_congr own).mp (apart group member) round bound row inside other listed same
  · intro apart group member
    exact (Plan.apart_congr fun row listed => estate.kind_due call member listed).mpr
      (apart group.1.1)

def swept : List (List (List CostRecord)) × List CostRecord :=
  call.removal.sweeps call.resolvedMaxBatches (estate.kinds call) estate.records

def tallied : List (RetentionGroup × List (List CostRecord)) :=
  estate.sweptGroups call estate.sortedGroups estate.records

def finalPurge : Purge :=
  { Purge.tallies ⟨estate.records,0,0,.empty,.empty⟩ (estate.tallied call) with
    records := (estate.swept call).2 }

def Dated : Prop := ∀ group ∈ estate.sortedGroups, group.1.2 ≤ call.targetDate

theorem dated_iff : estate.Dated call ↔ ∀ rawPlan ∈ estate.rawPlans, ∀ days,
    retentionLimit (normalizeTier estate.text rawPlan) = some days → days ≤ call.targetDate := by
  constructor
  · intro dated rawPlan listed days limited
    obtain ⟨plans,found⟩ := retentionGroups_every listed limited
    exact dated (_,plans) (estate.mem_sortedGroups.mpr found)
  · intro dated group member
    rw [mem_sortedGroups,retentionGroups_eq,Table.find_groupBy,gather_texts] at member
    split at member
    next => simp at member
    next filled =>
      obtain ⟨entry,listed⟩ := List.exists_mem_of_ne_nil _ filled
      obtain ⟨made,own⟩ := List.mem_filter.mp listed
      obtain ⟨rawPlan,raw,entry_eq⟩ := List.mem_filterMap.mp made
      obtain ⟨days,limited,rfl⟩ := Option.map_eq_some_iff.mp entry_eq
      rw [← of_decide_eq_true own]
      exact dated rawPlan raw days limited

theorem cleanup_eq (dated : estate.Dated call) :
    estate.cleanupExpiredCostRecordsByPlan call =
      some ((estate.swept call).2,call.summary (estate.finalPurge call)) := by
  rw [cleanupExpiredCostRecordsByPlan,estate.purgeGroups_eq call _ _ dated]
  rfl

theorem purgeGroups_dated {groups : List RetentionGroup} {purge : Purge}
    (returns : groups.foldlM (purgeGroup estate.plans call) purge ≠ none) :
    ∀ group ∈ groups, group.1.2 ≤ call.targetDate := by
  induction groups generalizing purge with
  | nil => simp
  | cons group rest ih =>
    rw [List.foldlM_cons] at returns
    by_cases dated : group.1.2 ≤ call.targetDate
    · rw [estate.purgeGroup_eq call purge group dated] at returns
      exact List.forall_mem_cons.mpr ⟨dated,ih returns⟩
    · rw [purgeGroup,if_neg dated] at returns
      exact absurd rfl returns

theorem dated_of_returns (returns : estate.cleanupExpiredCostRecordsByPlan call ≠ none) :
    estate.Dated call := by
  refine @purgeGroups_dated estate call _ ⟨estate.records,0,0,.empty,.empty⟩ ?_
  intro failed
  rw [cleanupExpiredCostRecordsByPlan,failed] at returns
  exact returns rfl

theorem removed_length {after : List CostRecord} (kept : after.Sublist estate.records) :
    (estate.removed after).length + after.length = estate.records.length := by
  have split := List.length_eq_length_filter_add (l := estate.records) fun record => decide (record ∈ after)
  rw [Paging.filter_sublist_mem estate.records_nodup kept] at split
  simp only [removed,decide_not]
  omega

theorem removed_nodup (after : List CostRecord) : (estate.removed after).Nodup :=
  estate.records_nodup.filter _

theorem tallies_deleted (purge : Purge) (swept : List (RetentionGroup × List (List CostRecord))) :
    (purge.tallies swept).totalDeleted =
      purge.totalDeleted + (swept.map fun s => s.2.flatten.length).sum := by
  induction swept generalizing purge with
  | nil => rfl
  | cons first rest ih =>
    rw [Purge.tallies,List.foldl_cons,← Purge.tallies,ih,List.map_cons,List.sum_cons,Purge.tally]
    exact Nat.add_assoc ..

theorem finalPurge_deleted : (estate.finalPurge call).totalDeleted =
    ((estate.swept call).1.map fun swept => swept.flatten.length).sum := by
  have zipped : (estate.tallied call).map Prod.snd = (estate.swept call).1 :=
    List.map_snd_zip (by rw [Plan.sweeps_count,List.length_map])
  rw [finalPurge,tallies_deleted,← zipped,List.map_map]
  exact Nat.zero_add _

def took (group : RetentionGroup) : List CostRecord :=
  call.removal.taken (estate.kind call group) call.resolvedMaxBatches estate.records

theorem took_due {group : RetentionGroup} (member : group ∈ estate.sortedGroups)
    {record : CostRecord} (taken : record ∈ estate.took call group) :
    record ∈ estate.records ∧ estate.due call group.1.1 record = true := by
  obtain ⟨there,due⟩ := Plan.mem_taken taken
  rw [estate.kind_due call member there] at due
  exact ⟨there,due⟩

section Apart

variable {estate call}
variable (apart : ∀ tier, call.removal.Apart (estate.due call tier) call.resolvedMaxBatches estate.records)

include apart

theorem swept_left : (estate.swept call).2 =
    estate.records.filter fun record => ∀ group ∈ estate.sortedGroups, record ∉ estate.took call group := by
  have left := (Plan.sweeps_apart estate.records_nodup (estate.kinds_disjoint call)
    ((estate.apart_kinds call).mpr apart)).2
  refine left.trans (List.filter_congr fun record _ => decide_eq_decide.mpr ?_)
  rw [kinds,List.forall_mem_map]
  rfl

theorem mem_removed {record : CostRecord} : record ∈ estate.removed (estate.swept call).2 ↔
    ∃ group ∈ estate.sortedGroups, record ∈ estate.took call group := by
  rw [removed,swept_left apart,List.mem_filter]
  constructor
  · rintro ⟨there,gone⟩
    by_contra none
    refine of_decide_eq_true gone (List.mem_filter.mpr ⟨there,decide_eq_true ?_⟩)
    exact fun group member taken => none ⟨group,member,taken⟩
  · rintro ⟨group,member,taken⟩
    refine ⟨(estate.took_due call member taken).1,decide_eq_true fun left => ?_⟩
    exact of_decide_eq_true (List.mem_filter.mp left).2 group member taken

theorem removed_perm : (estate.removed (estate.swept call).2).Perm
    (estate.sortedGroups.flatMap (estate.took call)) := by
  have nodup : (estate.sortedGroups.flatMap (estate.took call)).Nodup := by
    refine List.nodup_flatMap.mpr ⟨fun group _ => ?_,?_⟩
    · exact (Plan.queue_nodup estate.records_nodup).sublist (List.take_sublist _ _)
    · refine (List.pairwise_map.mp estate.sortedGroups_tiers).imp_of_mem ?_
      intro group group' member member' differ record taken taken'
      have tier := due_tier (estate.took_due call member taken).2
      exact differ (tier.symm.trans (due_tier (estate.took_due call member' taken').2))
  refine (List.perm_ext_iff_of_nodup (estate.records_nodup.filter _) nodup).mpr fun record => ?_
  rw [List.mem_flatMap]
  exact mem_removed apart

theorem removed_due {record : CostRecord} (gone : record ∈ estate.removed (estate.swept call).2) :
    record ∈ estate.records ∧ estate.due call (estate.tierOf record.tenantId) record = true := by
  obtain ⟨group,member,taken⟩ := (mem_removed apart).mp gone
  obtain ⟨there,due⟩ := estate.took_due call member taken
  rw [due_tier due]
  exact ⟨there,due⟩

theorem swept_took : (estate.swept call).1.map List.flatten =
    estate.sortedGroups.map (estate.took call) := by
  have took := (Plan.sweeps_apart estate.records_nodup (estate.kinds_disjoint call)
    ((estate.apart_kinds call).mpr apart)).1
  rw [kinds,List.map_map] at took
  exact took

theorem tallied_took : (estate.tallied call).map (fun swept => (swept.1,swept.2.flatten)) =
    estate.sortedGroups.map fun group => (group,estate.took call group) := by
  have zipped : (estate.tallied call).map (fun swept => (swept.1,swept.2.flatten)) =
      estate.sortedGroups.zip ((estate.swept call).1.map List.flatten) := by
    rw [List.zip_map_right]
    rfl
  have paired := @List.zip_map' _ _ _ id (estate.took call) estate.sortedGroups
  rw [List.map_id] at paired
  rw [zipped,swept_took apart]
  exact paired

theorem removed_group {group : RetentionGroup} (member : group ∈ estate.sortedGroups) :
    ((estate.removed (estate.swept call).2).filter fun record =>
      estate.tierOf record.tenantId = group.1.1).Perm (estate.took call group) := by
  have nodup : (estate.took call group).Nodup :=
    (Plan.queue_nodup estate.records_nodup).sublist (List.take_sublist _ _)
  refine (List.perm_ext_iff_of_nodup ((estate.removed_nodup _).filter _) nodup).mpr ?_
  intro record
  rw [List.mem_filter,mem_removed apart,decide_eq_true_eq]
  constructor
  · rintro ⟨⟨group',member',taken⟩,tier⟩
    have own := due_tier (estate.took_due call member' taken).2
    have same : group' = group :=
      List.inj_on_of_nodup_map estate.sortedGroups_tiers member' member (own.symm.trans tier)
    rwa [← same]
  · exact fun taken => ⟨⟨group,member,taken⟩,due_tier (estate.took_due call member taken).2⟩

theorem removed_no_group {tier : PricingTier} (none : ∀ group ∈ estate.sortedGroups, group.1.1 ≠ tier) :
    ((estate.removed (estate.swept call).2).filter fun record =>
      estate.tierOf record.tenantId = tier) = [] := by
  refine List.filter_eq_nil_iff.mpr fun record gone own => ?_
  obtain ⟨group,member,taken⟩ := (mem_removed apart).mp gone
  have tier := due_tier (estate.took_due call member taken).2
  exact none group member (tier.symm.trans (of_decide_eq_true own))

end Apart

end Estate

end Valdrics.CostRetention

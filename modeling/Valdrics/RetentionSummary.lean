import Valdrics.RetentionExact

/-! What the summary of a deletion says of the records that are gone: how many, of which tiers, and of
which tenants. -/
namespace Valdrics.CostRetention

open Enforcement (PricingTier Uuid)
open Enforcement.ApprovalToken (uuidText)
open Billing (tierValue)
open DateText (isoFormat)
open PythonText (before)
open Removal (Plan)

namespace Estate

variable (estate : Estate) (call : Call)

theorem tierValue_injective : Function.Injective tierValue := by
  intro a b same
  cases a <;> cases b <;> first | rfl | simp [tierValue] at same

def countTiers (counts : Table String Nat) (took : List (RetentionGroup × List CostRecord)) :
    Table String Nat :=
  took.foldl (fun counts entry =>
    if entry.2.length = 0 then counts
    else counts.upsert (tierValue entry.1.1.1) entry.2.length fun _ => entry.2.length) counts

theorem tallies_tiers (purge : Purge) (swept : List (RetentionGroup × List (List CostRecord))) :
    (purge.tallies swept).tierDeletedCounts =
      countTiers purge.tierDeletedCounts (swept.map fun swept => (swept.1,swept.2.flatten)) := by
  induction swept generalizing purge with
  | nil => rfl
  | cons first rest ih => exact ih (purge.tally first.1 first.2.flatten first.2.length)

theorem countTiers_other {counts : Table String Nat} {took : List (RetentionGroup × List CostRecord)}
    {name : String} (other : ∀ entry ∈ took, tierValue entry.1.1.1 ≠ name) :
    (countTiers counts took).find name = counts.find name := by
  induction took generalizing counts with
  | nil => rfl
  | cons entry rest ih =>
    obtain ⟨first,other⟩ := List.forall_mem_cons.mp other
    rw [countTiers,List.foldl_cons,← countTiers,ih other]
    split
    next => rfl
    next => rw [Table.find_upsert,if_neg (Ne.symm first)]

theorem countTiers_own {counts : Table String Nat} {took : List (RetentionGroup × List CostRecord)}
    (distinct : (took.map fun entry => entry.1.1.1).Nodup) {entry : RetentionGroup × List CostRecord}
    (listed : entry ∈ took) (fresh : counts.find (tierValue entry.1.1.1) = none) :
    (countTiers counts took).find (tierValue entry.1.1.1) =
      if entry.2.length = 0 then none else some entry.2.length := by
  induction took generalizing counts with
  | nil => simp at listed
  | cons first rest ih =>
    obtain ⟨apart,distinct⟩ := List.nodup_cons.mp distinct
    rw [countTiers,List.foldl_cons,← countTiers]
    rcases List.mem_cons.mp listed with rfl | later
    · rw [countTiers_other]
      · split
        next => exact fresh
        next => simp [Table.find_upsert,fresh]
      · intro other there same
        exact apart (List.mem_map.mpr ⟨other,there,tierValue_injective same⟩)
    · refine ih distinct later ?_
      have differ : tierValue entry.1.1.1 ≠ tierValue first.1.1.1 := fun same =>
        apart (List.mem_map.mpr ⟨entry,later,tierValue_injective same⟩)
      split
      next => exact fresh
      next => rw [Table.find_upsert,if_neg differ,fresh]

theorem fixed_injective {width n m : Nat} (same : Hex.fixed width n = Hex.fixed width m)
    (small : n < 16 ^ width) (small' : m < 16 ^ width) : n = m := by
  induction width generalizing n m with
  | zero => omega
  | succ width ih =>
    rw [Hex.fixed,Hex.fixed] at same
    obtain ⟨front,last⟩ := List.append_inj' same rfl
    have upper := ih front (by omega) (by omega)
    have digits : ∀ a < 16, ∀ b < 16, Nat.digitChar a = Nat.digitChar b → a = b := by decide
    have lower := digits (n % 16) (Nat.mod_lt _ (by decide)) (m % 16) (Nat.mod_lt _ (by decide))
      (List.cons.inj last).1
    omega

theorem fixed_ne_dash {width n : Nat} : ∀ c ∈ Hex.fixed width n, c ≠ '-' := by
  induction width generalizing n with
  | zero => simp [Hex.fixed]
  | succ width ih =>
    intro c listed
    rw [Hex.fixed,List.mem_append] at listed
    rcases listed with front | last
    · exact ih c front
    · have digits : ∀ a < 16, Nat.digitChar a ≠ '-' := by decide
      rw [List.mem_singleton.mp last]
      exact digits _ (Nat.mod_lt _ (by decide))

theorem uuidText_injective : Function.Injective uuidText := by
  have hex : ∀ id : Uuid, (uuidText id).toList.filter (· ≠ '-') = Hex.fixed 32 id.toNat := by
    intro id
    have digits := @fixed_ne_dash 32 id.toNat
    rw [uuidText,String.toList_ofList]
    generalize Hex.fixed 32 id.toNat = cs at digits
    have keep : ∀ part : List Char, part ⊆ cs → part.filter (· ≠ '-') = part := fun part inside =>
      List.filter_eq_self.mpr fun c listed => decide_eq_true (digits c (inside listed))
    have dash : ∀ rest : List Char, ('-' :: rest).filter (· ≠ '-') = rest.filter (· ≠ '-') :=
      fun rest => by simp
    have inner : ∀ from_ count, (cs.drop from_).take count ⊆ cs := fun from_ count c listed =>
      List.mem_of_mem_drop (List.mem_of_mem_take listed)
    have last : (cs.drop 16).take 4 ++ cs.drop 20 = cs.drop 16 := by
      simpa using List.take_append_drop 4 (cs.drop 16)
    have third : (cs.drop 12).take 4 ++ cs.drop 16 = cs.drop 12 := by
      simpa using List.take_append_drop 4 (cs.drop 12)
    have second : (cs.drop 8).take 4 ++ cs.drop 12 = cs.drop 8 := by
      simpa using List.take_append_drop 4 (cs.drop 8)
    simp only [List.append_assoc,List.cons_append,List.filter_append,dash,
      keep _ (List.take_subset 8 cs),keep _ (inner 8 4),keep _ (inner 12 4),keep _ (inner 16 4),
      keep _ (List.drop_subset 20 cs)]
    rw [last,third,second,List.take_append_drop]
  intro a b same
  have digits := hex a
  rw [same,hex b] at digits
  exact BitVec.eq_of_toNat_eq (fixed_injective digits.symm a.isLt b.isLt)

def opened (record : CostRecord) : TenantReport :=
  (TenantReport.fresh (uuidText record.tenantId)
    (estate.tierOf record.tenantId,(retentionLimit (estate.tierOf record.tenantId)).getD 0)).note
    (isoFormat record.recordedAt)

def noted (report : TenantReport) (record : CostRecord) : TenantReport :=
  report.note (isoFormat record.recordedAt)

def reportTable (records : List CostRecord) : Table String TenantReport :=
  Table.groupBy (fun record => uuidText record.tenantId) estate.opened noted records

theorem before_dates (record other : CostRecord) :
    before (isoFormat record.recordedAt).toList (isoFormat other.recordedAt).toList =
      decide (record.recordedAt < other.recordedAt) :=
  Bool.eq_iff_iff.mpr ((DateText.isoFormat_before_iff record.dated other.dated).trans
    decide_eq_true_iff.symm)

theorem note_oldest_text {report : TenantReport} {recordedAt oldest : String}
    (stands : report.oldestRecordedAt = some oldest) :
    (report.note recordedAt).oldestRecordedAt =
      if before recordedAt.toList oldest.toList then some recordedAt else some oldest := by
  simp only [TenantReport.note,stands,Option.all_some]

theorem note_newest_text {report : TenantReport} {recordedAt newest : String}
    (stands : report.newestRecordedAt = some newest) :
    (report.note recordedAt).newestRecordedAt =
      if before newest.toList recordedAt.toList then some recordedAt else some newest := by
  simp only [TenantReport.note,stands,Option.all_some]

theorem note_oldest {report : TenantReport} {first record : CostRecord}
    (oldest : report.oldestRecordedAt = some (isoFormat first.recordedAt)) :
    (noted report record).oldestRecordedAt =
      some (isoFormat (if record.recordedAt < first.recordedAt then record else first).recordedAt) := by
  rw [noted,note_oldest_text oldest,before_dates]
  by_cases less : record.recordedAt < first.recordedAt
  · rw [if_pos (decide_eq_true less),if_pos less]
  · rw [if_neg (mt of_decide_eq_true less),if_neg less]

theorem note_newest {report : TenantReport} {last record : CostRecord}
    (newest : report.newestRecordedAt = some (isoFormat last.recordedAt)) :
    (noted report record).newestRecordedAt =
      some (isoFormat (if last.recordedAt < record.recordedAt then record else last).recordedAt) := by
  rw [noted,note_newest_text newest,before_dates]
  by_cases more : last.recordedAt < record.recordedAt
  · rw [if_pos (decide_eq_true more),if_pos more]
  · rw [if_neg (mt of_decide_eq_true more),if_neg more]

theorem note_opened {tenant : Uuid} {rows : List CostRecord} {report : TenantReport}
    {record : CostRecord} (reports : Reports estate tenant rows report) :
    Reports estate tenant (rows ++ [record]) (noted report record) := by
  obtain ⟨first,inside,oldest,least⟩ := reports.oldest
  obtain ⟨last,inside',newest,most⟩ := reports.newest
  have count : (noted report record).deletedCount = (rows ++ [record]).length := by
    rw [List.length_append,List.length_singleton,← reports.deletedCount]
    rfl
  refine ⟨reports.tenantId,reports.tenantTier,reports.retentionDays,count,
    ⟨_,?_,note_oldest oldest,?_⟩,⟨_,?_,note_newest newest,?_⟩⟩
  · split
    next => simp
    next => exact List.mem_append_left _ inside
  · intro other listed
    rw [List.mem_append,List.mem_singleton] at listed
    rcases listed with there | rfl
    · have below := least other there
      split
      next less => exact less.le.trans below
      next => exact below
    · split
      next => exact le_rfl
      next reached => exact not_lt.mp reached
  · split
    next => simp
    next => exact List.mem_append_left _ inside'
  · intro other listed
    rw [List.mem_append,List.mem_singleton] at listed
    rcases listed with there | rfl
    · have above := most other there
      split
      next more => exact above.trans more.le
      next => exact above
    · split
      next => exact le_rfl
      next reached => exact not_lt.mp reached

theorem gather_reports {tenant : Uuid} {rows : List CostRecord} (some_ : rows ≠ [])
    (own : ∀ record ∈ rows, record.tenantId = tenant)
    (limited : (retentionLimit (estate.tierOf tenant)).isSome = true) :
    ∃ report, Table.gather estate.opened noted rows = some report ∧
      Reports estate tenant rows report := by
  induction rows using List.reverseRecOn with
  | nil => exact absurd rfl some_
  | append_singleton front record ih =>
    rw [Table.gather_append]
    refine ⟨_,rfl,?_⟩
    cases front with
    | nil =>
      obtain rfl := own record (by simp)
      refine ⟨rfl,rfl,?_,rfl,⟨record,by simp,rfl,by simp⟩,⟨record,by simp,rfl,by simp⟩⟩
      obtain ⟨days,limit⟩ := Option.isSome_iff_exists.mp limited
      rw [limit]
      simp [Table.gather,opened,TenantReport.fresh,TenantReport.note,limit]
    | cons first rest =>
      obtain ⟨report,gathered,reports⟩ := ih (List.cons_ne_nil _ _) fun record listed =>
        own record (List.mem_append_left _ listed)
      rw [gathered]
      exact estate.note_opened reports

theorem noteRow_own {group : RetentionGroup} {record : CostRecord}
    (tier : estate.tierOf record.tenantId = group.1.1)
    (limited : retentionLimit group.1.1 = some group.1.2) (reports : Table String TenantReport) :
    noteRow group.1 reports record = reports.upsert (uuidText record.tenantId) (estate.opened record)
      fun report => noted report record := by
  rw [noteRow,opened,tier,limited,Option.getD_some]
  rfl

theorem tallies_reports (purge : Purge) (swept : List (RetentionGroup × List (List CostRecord))) :
    (purge.tallies swept).tenantReports =
      (swept.map fun swept => (swept.1,swept.2.flatten)).foldl
        (fun reports entry => entry.2.foldl (noteRow entry.1.1) reports) purge.tenantReports := by
  induction swept generalizing purge with
  | nil => rfl
  | cons first rest ih => exact ih (purge.tally first.1 first.2.flatten first.2.length)

theorem noteRows_eq {groups : List RetentionGroup} (listed : ∀ group ∈ groups, group ∈ estate.sortedGroups)
    (reports : Table String TenantReport) :
    (groups.map fun group => (group,estate.took call group)).foldl
        (fun reports entry => entry.2.foldl (noteRow entry.1.1) reports) reports =
      (groups.flatMap (estate.took call)).foldl (fun reports record =>
        reports.upsert (uuidText record.tenantId) (estate.opened record)
          fun report => noted report record) reports := by
  induction groups generalizing reports with
  | nil => rfl
  | cons group rest ih =>
    obtain ⟨member,listed⟩ := List.forall_mem_cons.mp listed
    rw [List.map_cons,List.foldl_cons,List.flatMap_cons,List.foldl_append,ih listed]
    congr 1
    refine List.foldl_ext _ _ _ fun reports record taken => ?_
    have own := due_tier (estate.took_due call member taken).2
    exact estate.noteRow_own own (estate.group_limited member) reports

theorem finalPurge_reports
    (apart : ∀ tier, call.removal.Apart (estate.due call tier) call.resolvedMaxBatches estate.records) :
    (estate.finalPurge call).tenantReports =
      estate.reportTable (estate.sortedGroups.flatMap (estate.took call)) := by
  rw [finalPurge,tallies_reports,tallied_took apart]
  exact estate.noteRows_eq call (fun _ listed => listed) _

theorem reports_perm {estate : Estate} {tenant : Uuid} {rows rows' : List CostRecord}
    {report : TenantReport} (reports : Reports estate tenant rows report) (perm : rows.Perm rows') :
    Reports estate tenant rows' report where
  tenantId := reports.tenantId
  tenantTier := reports.tenantTier
  retentionDays := reports.retentionDays
  deletedCount := reports.deletedCount.trans perm.length_eq
  oldest := by
    obtain ⟨record,inside,oldest,least⟩ := reports.oldest
    exact ⟨record,perm.subset inside,oldest,fun other there => least other (perm.symm.subset there)⟩
  newest := by
    obtain ⟨record,inside,newest,most⟩ := reports.newest
    exact ⟨record,perm.subset inside,newest,fun other there => most other (perm.symm.subset there)⟩

section Reported

variable {estate call}
variable (apart : ∀ tier, call.removal.Apart (estate.due call tier) call.resolvedMaxBatches estate.records)

include apart

theorem removedOf_perm (tenantId : Uuid) : (estate.removedOf (estate.swept call).2 tenantId).Perm
    ((estate.sortedGroups.flatMap (estate.took call)).filter fun record =>
      uuidText record.tenantId = uuidText tenantId) := by
  have same : ∀ record : CostRecord, decide (uuidText record.tenantId = uuidText tenantId) =
      decide (record.tenantId = tenantId) :=
    fun record => decide_eq_decide.mpr uuidText_injective.eq_iff
  simp only [same]
  exact (removed_perm apart).filter _

theorem removedOf_limited {tenantId : Uuid}
    (gone : estate.removedOf (estate.swept call).2 tenantId ≠ []) :
    (retentionLimit (estate.tierOf tenantId)).isSome = true := by
  obtain ⟨record,inside⟩ := List.exists_mem_of_ne_nil _ gone
  obtain ⟨removed,own⟩ := List.mem_filter.mp inside
  have due := (removed_due apart removed).2
  simp only [Estate.due,expired,Bool.and_eq_true] at due
  rw [of_decide_eq_true own] at due
  cases limit : retentionLimit (estate.tierOf tenantId) with
  | none => simp [limit] at due
  | some days => rfl

theorem report_found {tenantId : Uuid} (gone : estate.removedOf (estate.swept call).2 tenantId ≠ []) :
    ∃ report, (estate.finalPurge call).tenantReports.find (uuidText tenantId) = some report ∧
      Reports estate tenantId (estate.removedOf (estate.swept call).2 tenantId) report := by
  have perm := removedOf_perm apart tenantId
  have filled : (estate.sortedGroups.flatMap (estate.took call)).filter (fun record =>
      uuidText record.tenantId = uuidText tenantId) ≠ [] :=
    fun empty => gone (List.Perm.eq_nil (empty ▸ perm))
  obtain ⟨report,gathered,reports⟩ := estate.gather_reports filled
    (fun record inside => uuidText_injective (of_decide_eq_true (List.mem_filter.mp inside).2))
    (removedOf_limited apart gone)
  refine ⟨report,?_,reports_perm reports perm.symm⟩
  rw [finalPurge_reports estate call apart,reportTable,Table.find_groupBy]
  exact gathered

theorem report_only {key : String} {report : TenantReport}
    (found : (estate.finalPurge call).tenantReports.find key = some report) :
    ∃ tenantId, key = uuidText tenantId ∧
      estate.removedOf (estate.swept call).2 tenantId ≠ [] := by
  rw [finalPurge_reports estate call apart,reportTable,Table.find_groupBy] at found
  cases rows : (estate.sortedGroups.flatMap (estate.took call)).filter (fun record =>
      uuidText record.tenantId = key) with
  | nil => simp [rows,Table.gather] at found
  | cons record rest =>
    have inside : record ∈ (estate.sortedGroups.flatMap (estate.took call)).filter (fun record =>
        uuidText record.tenantId = key) := rows ▸ List.mem_cons_self
    obtain ⟨taken,own⟩ := List.mem_filter.mp inside
    refine ⟨record.tenantId,(of_decide_eq_true own).symm,?_⟩
    exact List.ne_nil_of_mem ((removedOf_perm apart _).symm.subset
      (List.mem_filter.mpr ⟨taken,decide_eq_true rfl⟩))

omit apart in
theorem mem_tenantReports {report : TenantReport} :
    report ∈ (call.summary (estate.finalPurge call)).tenantReports ↔
      ∃ key, (estate.finalPurge call).tenantReports.find key = some report := by
  rw [Call.summary,List.mem_mergeSort,List.mem_map]
  constructor
  · rintro ⟨⟨key,_⟩,listed,rfl⟩
    exact ⟨key,Table.find_eq_some_iff.mpr listed⟩
  · rintro ⟨key,found⟩
    exact ⟨(key,report),Table.find_eq_some_iff.mp found,rfl⟩

theorem tenantReports_once :
    ((call.summary (estate.finalPurge call)).tenantReports.map TenantReport.tenantId).Nodup := by
  have names : (estate.finalPurge call).tenantReports.rows.map (TenantReport.tenantId ∘ Prod.snd) =
      (estate.finalPurge call).tenantReports.rows.map Prod.fst := by
    refine List.map_congr_left fun entry listed => ?_
    have found := Table.find_eq_some_iff.mpr listed
    obtain ⟨tenantId,own,gone⟩ := report_only apart found
    obtain ⟨report,found',reports⟩ := report_found apart gone
    rw [← own,found] at found'
    rw [Function.comp_apply,Option.some.inj found',reports.tenantId,own]
  rw [Call.summary,((List.mergeSort_perm _ _).map _).nodup_iff,List.map_map,names]
  exact (estate.finalPurge call).tenantReports.distinct

theorem finalPurge_tiers (tier : PricingTier) :
    (estate.finalPurge call).tierDeletedCounts.find (tierValue tier) =
      let count := ((estate.removed (estate.swept call).2).filter fun record =>
        estate.tierOf record.tenantId = tier).length
      if count = 0 then none else some count := by
  rw [finalPurge,tallies_tiers,tallied_took apart]
  by_cases grouped : ∃ group ∈ estate.sortedGroups, group.1.1 = tier
  · obtain ⟨group,member,rfl⟩ := grouped
    rw [@countTiers_own Table.empty _ ?_ (group,estate.took call group) (List.mem_map.mpr ⟨group,member,rfl⟩)
      Table.find_empty,(removed_group apart member).length_eq]
    rw [List.map_map]
    exact estate.sortedGroups_tiers
  · have none : ∀ group ∈ estate.sortedGroups, group.1.1 ≠ tier := fun group member same =>
      grouped ⟨group,member,same⟩
    rw [removed_no_group apart none,countTiers_other]
    · rfl
    · intro entry listed same
      obtain ⟨group,member,rfl⟩ := List.mem_map.mp listed
      exact none group member (tierValue_injective same)

omit apart in
theorem finalPurge_noTier {name : String} (noTier : ∀ tier, tierValue tier ≠ name) :
    (estate.finalPurge call).tierDeletedCounts.find name = none := by
  rw [finalPurge,tallies_tiers,countTiers_other]
  · rfl
  · exact fun entry _ => noTier _

end Reported

theorem removed_expired {record : CostRecord}
    (apart : ∀ tier, call.removal.Apart (estate.due call tier) call.resolvedMaxBatches estate.records)
    (gone : record ∈ estate.removed (estate.swept call).2) :
    estate.expired call.targetDate record = true := by
  have due := (removed_due apart gone).2
  simp only [Estate.due,Bool.and_eq_true] at due
  exact due.2.2

/-- A tier whose rows fit in its batches loses all of them. -/
theorem expired_gone (purgeable : Purgeable estate call) {tier : PricingTier}
    (few : (estate.expiredOf call.targetDate tier).length ≤
      call.resolvedMaxBatches * call.resolvedBatchSize)
    {record : CostRecord} (listed : record ∈ estate.expiredOf call.targetDate tier) :
    record ∉ (estate.swept call).2 := by
  obtain ⟨there,own⟩ := List.mem_filter.mp listed
  have planned := Option.isSome_iff_ne_none.mpr (purgeable.planned tier few record listed)
  have due : estate.due call tier record = true := by rw [Estate.due,planned,own]; rfl
  obtain ⟨group,member,rfl⟩ := estate.due_group call there due
  have queued : record ∈ call.removal.queue (estate.kind call group) estate.records :=
    Plan.mem_queue.mpr ⟨there,(estate.kind_due call member there).trans due⟩
  have short : (call.removal.queue (estate.kind call group) estate.records).length ≤
      call.resolvedMaxBatches * call.removal.size := by
    refine le_trans ?_ few
    rw [Plan.queue,List.length_mergeSort,expiredOf,← List.countP_eq_length_filter,
      ← List.countP_eq_length_filter]
    refine List.countP_mono_left fun other listed due => ?_
    rw [estate.kind_due call member listed,Estate.due,Bool.and_eq_true] at due
    exact due.2
  intro left
  rw [swept_left purgeable.apart] at left
  refine of_decide_eq_true (List.mem_filter.mp left).2 group member ?_
  rw [took,Plan.taken,List.take_of_length_le short]
  exact queued

theorem exact_of_purgeable (purgeable : Purgeable estate call) : RetainsExactly estate call := by
  have apart := purgeable.apart
  have kept : (estate.swept call).2.Sublist estate.records := Plan.sweeps_sublist _ _
  refine ⟨_,_,estate.cleanup_eq call ((estate.dated_iff call).mpr purgeable.dated),?_⟩
  exact {
    kept := kept
    sound := fun record gone => estate.removed_expired call apart gone
    complete := fun tier few record listed => estate.expired_gone call purgeable few listed
    deletedCount := by
      have total := congrArg (fun swept => (swept.map List.length).sum) (swept_took apart)
      rw [Call.summary,finalPurge_deleted,(removed_perm apart).length_eq,List.length_flatMap]
      simpa [List.map_map,Function.comp_def] using total
    tiers := finalPurge_tiers apart
    noTier := fun name noTier => finalPurge_noTier noTier
    reported := fun tenantId gone => by
      obtain ⟨report,found,reports⟩ := report_found apart gone
      exact ⟨report,mem_tenantReports.mpr ⟨_,found⟩,reports⟩
    reports := fun report listed => by
      obtain ⟨key,found⟩ := mem_tenantReports.mp listed
      obtain ⟨tenantId,rfl,gone⟩ := report_only apart found
      obtain ⟨report',found',reports⟩ := report_found apart gone
      obtain rfl := Option.some.inj (found.symm.trans found')
      exact ⟨tenantId,gone,reports⟩
    once := tenantReports_once apart }

theorem purgeable_of_exact (exact_ : RetainsExactly estate call) : Purgeable estate call := by
  obtain ⟨after,summary,returns,exact_⟩ := exact_
  have dated := estate.dated_of_returns call (by rw [returns]; simp)
  rw [estate.cleanup_eq call dated] at returns
  obtain ⟨rfl,rfl⟩ := Prod.mk.inj (Option.some.inj returns)
  obtain ⟨-,aparts⟩ := call.removal.sweeps_length estate.records_nodup (estate.kinds_disjoint call)
    call.resolvedMaxBatches
  have count := exact_.deletedCount
  have split := estate.removed_length exact_.kept
  rw [Call.summary,finalPurge_deleted] at count
  dsimp only at count
  have total : ((estate.swept call).1.map fun swept => swept.flatten.length).sum +
      (estate.swept call).2.length = estate.records.length := by omega
  have apart := (estate.apart_kinds call).mp (aparts total)
  refine ⟨(estate.dated_iff call).mp dated,apart,fun tier few record listed => ?_⟩
  have gone : record ∈ estate.removed (estate.swept call).2 :=
    List.mem_filter.mpr ⟨List.mem_of_mem_filter listed,by
      simpa using exact_.complete tier few record listed⟩
  have due := (removed_due apart gone).2
  rw [Estate.due,Bool.and_eq_true] at due
  exact Option.isSome_iff_ne_none.mp due.1

end Estate

/-- The deletion is exact if and only if no cutoff lies before the first date, no record shares its
identifier with one that a batch deletes, and every tier that fits in its batches has a plan for each
of its expired records. -/
theorem retainsExactly_iff (estate : Estate) (call : Call) :
    RetainsExactly estate call ↔ Purgeable estate call :=
  ⟨estate.purgeable_of_exact call,estate.exact_of_purgeable call⟩


def pastRecord (id tenantId : Uuid) (recordedAt : Nat) (past : recordedAt / 336 + 1 ≤ 9999) :
    CostRecord :=
  ⟨id,tenantId,recordedAt,(DateText.yearOf_le recordedAt).trans past⟩

/-- A free tenant's old record and an unlimited tenant's newer one with the same identifier. -/
def sharedIdentifier : Estate where
  text := Lowercase.asciiOnly
  plans := ⟨[(1,some "free"),(2,some "enterprise")],by decide⟩
  records := [pastRecord 7 1 738000 (by decide),pastRecord 7 2 738200 (by decide)]
  recordKeys := by decide
  tenantKeys := by decide

def sharedCall : Call := ⟨5000,50,none,738200⟩

theorem sharedIdentifier_not_exact : ¬RetainsExactly sharedIdentifier sharedCall := by
  intro exact_
  have apart := (sharedIdentifier.purgeable_of_exact sharedCall exact_).apart .free
  have due : sharedIdentifier.records.filter (sharedIdentifier.due sharedCall .free) =
      [pastRecord 7 1 738000 (by decide)] := by rfl
  have chunk : sharedCall.removal.chunk (sharedIdentifier.due sharedCall .free)
      sharedIdentifier.records 0 = [pastRecord 7 1 738000 (by decide)] := by
    rw [Plan.chunk,Plan.queue,due,List.mergeSort_singleton]
    rfl
  have closed := apart 0 (by decide)
  rw [chunk] at closed
  have taken := closed _ List.mem_cons_self (pastRecord 7 2 738200 (by decide))
    (List.mem_cons_of_mem _ List.mem_cons_self) rfl
  have same := congrArg CostRecord.recordedAt (List.mem_singleton.mp taken)
  simp [pastRecord] at same

end Valdrics.CostRetention

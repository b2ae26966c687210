import Mathlib.Tactic.NormNum
import Valdrics.AnomalyDetection
import Valdrics.RankedTotals

/-! When the detection of anomalies depends on the spend only. A row takes the place of an earlier one
of its key and day, where the documented thresholds are about totals. -/
namespace Valdrics.Anomalies

variable {F : Type} (arithmetic : Arithmetic F) (text : Lowercase)

def SeriesKey.named (key : SeriesKey) : SeriesKey := { key with service := text.lower key.service }

namespace DailyServiceCostRow

def named (row : DailyServiceCostRow) : SeriesKey := (row.key text).named text

def cost (row : DailyServiceCostRow) : Rat := row.costUsd.getD 0

end DailyServiceCostRow

def total (rows : List DailyServiceCostRow) (key : SeriesKey) (day : Nat) : Rat :=
  ((rows.filter fun row => row.named text = key && row.day = day).map DailyServiceCostRow.cost).sum

def last (rows : List DailyServiceCostRow) (key : SeriesKey) (day : Nat) : Rat :=
  ((rows.filter fun row => row.key text = key && row.day = day).getLast?).elim 0
    DailyServiceCostRow.cost

def MeetsKind (call : Call F) (spend : Nat → Rat) (expected actual delta : Rat) : Kind → Prop
  | .newSpend => expected = 0 ∧ call.minAbsUsd ≤ actual
  | .spike => expected ≠ 0 ∧ call.minAbsUsd ≤ delta ∧
      ∃ percent, percentChange arithmetic expected delta = some percent ∧
        arithmetic.le call.minPercent percent = true
  | .drop => expected ≠ 0 ∧ delta ≤ -call.minAbsUsd ∧
      (∃ percent, percentChange arithmetic expected delta = some percent ∧
        arithmetic.le percent (arithmetic.neg call.minPercent) = true ∧
        ¬(call.minAbsUsd ≤ delta ∧ arithmetic.le call.minPercent percent = true)) ∧
      call.minActiveDays ≤ call.activeDays spend

structure Meets (call : Call F) (spend : Nat → Rat) (verdict : Verdict F) : Prop where
  actual : verdict.actualCostUsd = spend call.targetDate
  expected : verdict.expectedCostUsd = call.expected arithmetic spend
  delta : verdict.deltaCostUsd =
    arithmetic.context (spend call.targetDate - call.expected arithmetic spend)
  percent : verdict.percentChange =
    (percentChange arithmetic verdict.expectedCostUsd verdict.deltaCostUsd).map
      fun percent => arithmetic.round percent 2
  kind : MeetsKind arithmetic call spend verdict.expectedCostUsd verdict.actualCostUsd
    verdict.deltaCostUsd verdict.kind
  confidence : verdict.confidence = Anomalies.confidence arithmetic verdict.kind
    (call.activeDays spend) call.lookbackDays
    (((percentChange arithmetic verdict.expectedCostUsd verdict.deltaCostUsd).map
      arithmetic.abs).getD (arithmetic.ofDecimal 0)) call.minPercent
  severity : verdict.severity = classifySeverity arithmetic |verdict.deltaCostUsd|
    (((percentChange arithmetic verdict.expectedCostUsd verdict.deltaCostUsd).map
      arithmetic.abs).getD (arithmetic.ofDecimal 0))

def Reported (anomalies : List (CostAnomaly F)) (key : SeriesKey) (verdict : Verdict F) : Prop :=
  ∃ anomaly ∈ anomalies, anomaly.key.named text = key ∧ anomaly.toVerdict = verdict

/-- Whatever the call, each key of a row in the window is reported once at most, with what its totals
meet. -/
def Right (rows : List DailyServiceCostRow) : Prop :=
  ∀ (call : Call F) (anomalies : List (CostAnomaly F)),
    detectDailyCostAnomalies arithmetic text rows call = .ok anomalies →
    (anomalies.map fun anomaly => anomaly.key.named text).Nodup ∧
      ∀ key verdict, Reported text anomalies key verdict ↔
        (∃ row ∈ rows, call.inWindow row = true ∧ row.named text = key) ∧
          Meets arithmetic call (total text rows key) verdict

structure Added (rows : List DailyServiceCostRow) : Prop where
  spelled : ∀ row ∈ rows, ∀ other ∈ rows, row.named text = other.named text →
    row.key text = other.key text
  added : ∀ row ∈ rows, last text rows (row.key text) row.day = total text rows (row.named text) row.day

def SameSpend (rows rows' : List DailyServiceCostRow) : Prop :=
  ∀ key day, total text rows key day = total text rows' key day ∧
    ((∃ row ∈ rows, row.named text = key ∧ row.day = day) ↔
      ∃ row ∈ rows', row.named text = key ∧ row.day = day)

section Judgement

variable {arithmetic} {call : Call F}

theorem kindOf_iff {spend : Nat → Rat} {expected actual delta : Rat} {kind : Kind} :
    kindOf arithmetic call expected actual delta (percentChange arithmetic expected delta)
      (call.activeDays spend) = some kind ↔
        MeetsKind arithmetic call spend expected actual delta kind := by
  have met : ∀ {holds : F → Bool} {percent : Option F}, percent.any holds = true ↔
      ∃ value, percent = some value ∧ holds value = true := by
    intro holds percent
    cases percent <;> simp
  rw [kindOf]
  by_cases nothing : expected = 0
  · by_cases enough : call.minAbsUsd ≤ actual
    · cases kind <;> simp [MeetsKind,nothing,enough]
    · cases kind <;> simp [MeetsKind,nothing,enough]
  · rw [if_neg nothing]
    simp only [met]
    by_cases spike : call.minAbsUsd ≤ delta ∧ ∃ percent,
        percentChange arithmetic expected delta = some percent ∧
          arithmetic.le call.minPercent percent = true
    · rw [if_pos spike]
      obtain ⟨more,percent,changed,high⟩ := spike
      cases kind with
      | newSpend => simp [MeetsKind,nothing]
      | spike => simp [MeetsKind,nothing,more,changed,high]
      | drop => simp [MeetsKind,more,changed,high]
    · rw [if_neg spike]
      cases kind with
      | newSpend => simp [MeetsKind,nothing]
      | spike =>
        have unmet : ¬MeetsKind arithmetic call spend expected actual delta .spike :=
          fun meets => spike meets.2
        simp [unmet]
      | drop =>
        rw [MeetsKind]
        constructor
        · intro drop
          split at drop
          next met =>
            obtain ⟨less,⟨percent,changed,low⟩,days⟩ := met
            exact ⟨nothing,less,⟨percent,changed,low,fun both =>
              spike ⟨both.1,percent,changed,both.2⟩⟩,days⟩
          next => simp at drop
        · rintro ⟨-,less,⟨percent,changed,low,-⟩,days⟩
          exact if_pos ⟨less,⟨percent,changed,low⟩,days⟩

theorem meets_iff {spend : Nat → Rat} {verdict : Verdict F} :
    judge arithmetic call spend = some verdict ↔ Meets arithmetic call spend verdict := by
  rw [judge,Option.map_eq_some_iff]
  constructor
  · rintro ⟨kind,found,rfl⟩
    exact ⟨rfl,rfl,rfl,rfl,kindOf_iff.mp found,rfl,rfl⟩
  · intro meets
    obtain ⟨actual,expected,delta,percent,kind,confidence,severity⟩ := verdict
    obtain ⟨actual_,expected_,delta_,percent_,met,confidence_,severity_⟩ := meets
    dsimp only at *
    subst actual_ expected_ delta_ percent_ confidence_ severity_
    exact ⟨kind,kindOf_iff.mpr met,rfl⟩

theorem judge_congr {spend spend' : Nat → Rat}
    (same : ∀ day, call.baselineStart ≤ day → day ≤ call.targetDate → spend day = spend' day)
    (fits : call.lookbackDays.toNat ≤ call.targetDate) :
    judge arithmetic call spend = judge arithmetic call spend' := by
  have days : ∀ day ∈ call.baselineDays, spend day = spend' day := by
    intro day listed
    have bounds := List.mem_range'_1.mp listed
    rw [Call.baselineStart] at bounds
    exact same day (by rw [Call.baselineStart]; omega) (by omega)
  have target := same call.targetDate (by rw [Call.baselineStart]; omega) le_rfl
  have values : call.baselineValues spend = call.baselineValues spend' := List.map_congr_left days
  have weekdays : call.weekdayValues spend = call.weekdayValues spend' :=
    List.map_congr_left fun day listed => days day (List.mem_of_mem_filter listed)
  have expected : call.expected arithmetic spend = call.expected arithmetic spend' := by
    rw [Call.expected,Call.expected,values,weekdays]
  have active : call.activeDays spend = call.activeDays spend' := by
    rw [Call.activeDays,Call.activeDays,values]
  simp only [judge,expected,active,target]

end Judgement

section Loop

variable {arithmetic text} {call : Call F}

theorem last_append (rows : List DailyServiceCostRow) (row : DailyServiceCostRow) (key : SeriesKey)
    (day : Nat) : last text (rows ++ [row]) key day =
      if row.key text = key ∧ row.day = day then row.cost else last text rows key day := by
  rw [last,List.filter_append]
  by_cases own : row.key text = key ∧ row.day = day
  · have kept : [row].filter (fun row => row.key text = key && row.day = day) = [row] := by simp [own]
    rw [kept,if_pos own,List.getLast?_concat]
    rfl
  · have gone : [row].filter (fun row => row.key text = key && row.day = day) = [] := by
      simpa using own
    rw [gone,if_neg own,List.append_nil]
    rfl

theorem last_eq_zero {rows : List DailyServiceCostRow} {key : SeriesKey} {day : Nat}
    (none : ∀ row ∈ rows, ¬(row.key text = key ∧ row.day = day)) : last text rows key day = 0 := by
  have gone : rows.filter (fun row => row.key text = key && row.day = day) = [] :=
    List.filter_eq_nil_iff.mpr fun row listed own => none row listed (by simpa using own)
  rw [last,gone]
  rfl

theorem total_eq_zero {rows : List DailyServiceCostRow} {key : SeriesKey} {day : Nat}
    (none : ∀ row ∈ rows, ¬(row.named text = key ∧ row.day = day)) : total text rows key day = 0 := by
  have gone : rows.filter (fun row => row.named text = key && row.day = day) = [] :=
    List.filter_eq_nil_iff.mpr fun row listed own => none row listed (by simpa using own)
  rw [total,gone]
  rfl

structure Built (text : Lowercase) (call : Call F) (rows : List DailyServiceCostRow) (series : Series) : Prop where
  keys : ∀ key, (series.byKey.find key).isSome = true ↔
    ∃ row ∈ rows, call.inWindow row = true ∧ row.key text = key
  days : ∀ key days, series.byKey.find key = some days → ∀ day,
    byDay days day = last text (rows.filter call.inWindow) key day

theorem byDay_upsert (days : Table Nat Rat) (day other : Nat) (cost : Rat) :
    byDay (days.upsert day cost fun _ => cost) other =
      if other = day then cost else byDay days other := by
  rw [byDay,byDay,Table.find_upsert]
  split
  next => cases days.find day <;> rfl
  next => rfl

theorem built_addRow {rows : List DailyServiceCostRow} {series next : Series}
    {row : DailyServiceCostRow} (built : Built text call rows series)
    (added : addRow text call series row = .ok next) :
    Built text call (rows ++ [row]) next := by
  rw [addRow] at added
  cases within : call.inWindow row with
  | false =>
    rw [within] at added
    obtain rfl := Except.ok.inj added
    constructor
    · intro key
      rw [built.keys]
      simp [within]
    · intro key days found day
      rw [built.days key days found,List.filter_append]
      simp [within]
  | true =>
    rw [within] at added
    cases finite : row.costUsd with
    | none =>
      rw [finite] at added
      exact absurd added (by simp)
    | some cost =>
      rw [finite] at added
      obtain rfl := Except.ok.inj added
      have value : row.cost = cost := by rw [DailyServiceCostRow.cost,finite]; rfl
      constructor
      · intro key
        rw [Table.find_upsert]
        by_cases own : key = row.key text
        · simp [own,within]
        · rw [if_neg own,built.keys]
          simp [within,Ne.symm own]
      · intro key days found day
        have kept : (rows ++ [row]).filter call.inWindow = rows.filter call.inWindow ++ [row] := by
          simp [within]
        rw [Table.find_upsert] at found
        rw [kept,last_append,value]
        split at found
        next own =>
          obtain rfl := own
          rw [← Option.some.inj found]
          cases before : series.byKey.find (row.key text) with
          | none =>
            have none : last text (rows.filter call.inWindow) (row.key text) day = 0 := by
              refine last_eq_zero fun other listed own => ?_
              obtain ⟨there,inside⟩ := List.mem_filter.mp listed
              have present := (built.keys (row.key text)).mpr ⟨other,there,inside,own.1⟩
              rw [before] at present
              exact Bool.noConfusion present
            rw [Option.elim_none,byDay_upsert,none]
            simp [eq_comm,byDay]
          | some days =>
            rw [Option.elim_some,byDay_upsert,built.days _ days before day]
            simp [eq_comm]
        next other =>
          rw [if_neg fun own => other own.1.symm]
          exact built.days key days found day

theorem built_foldlM {rows : List DailyServiceCostRow} {series : Series}
    (added : rows.foldlM (addRow text call) {} = .ok series) : Built text call rows series := by
  induction rows using List.reverseRecOn generalizing series with
  | nil =>
    obtain rfl := Except.ok.inj added
    exact ⟨fun key => by simp,fun key days found => by simp at found⟩
  | append_singleton front row ih =>
    rw [List.foldlM_append] at added
    cases first : front.foldlM (addRow text call) {} with
    | error message =>
      rw [first] at added
      exact absurd added (by simp [bind,Except.bind])
    | ok before =>
      rw [first] at added
      refine built_addRow (ih first) ?_
      cases next : addRow text call before row with
      | error message =>
        simp [bind,Except.bind,next] at added
      | ok after =>
        simp only [bind,Except.bind,next,List.foldlM_cons,List.foldlM_nil] at added
        exact added

theorem addRows_window (rows : List DailyServiceCostRow) (series : Series) :
    rows.foldlM (addRow text call) series = (rows.filter call.inWindow).foldlM (addRow text call) series := by
  induction rows generalizing series with
  | nil => rfl
  | cons row rest ih =>
    rw [List.foldlM_cons,List.filter_cons]
    cases within : call.inWindow row with
    | false =>
      have skipped : addRow text call series row = .ok series := by
        rw [addRow,within]
        rfl
      rw [skipped]
      exact ih series
    | true =>
      rw [if_pos rfl,List.foldlM_cons]
      congr 1
      funext next
      exact ih next

theorem addRows_finite {rows : List DailyServiceCostRow}
    (finite : ∀ row ∈ rows, row.costUsd.isSome = true) (series : Series) :
    ∃ built, rows.foldlM (addRow text call) series = .ok built := by
  induction rows generalizing series with
  | nil => exact ⟨series,rfl⟩
  | cons row rest ih =>
    obtain ⟨first,finite⟩ := List.forall_mem_cons.mp finite
    obtain ⟨cost,known⟩ := Option.isSome_iff_exists.mp first
    have step : ∃ next, addRow text call series row = .ok next := by
      rw [addRow,known]
      split
      next => exact ⟨_,rfl⟩
      next => exact ⟨_,rfl⟩
    obtain ⟨next,step⟩ := step
    rw [List.foldlM_cons,step]
    exact ih finite next

theorem last_window {rows : List DailyServiceCostRow} {key : SeriesKey} {day : Nat}
    (from_ : call.baselineStart ≤ day) (until_ : day ≤ call.targetDate) :
    last text (rows.filter call.inWindow) key day = last text rows key day := by
  rw [last,last,List.filter_filter]
  congr 2
  refine List.filter_congr fun row _ => ?_
  by_cases same : row.day = day
  · have within : call.inWindow row = true := by simp [Call.inWindow,same,from_,until_]
    rw [within,Bool.and_true]
  · simp [same]

end Loop

section Detection

variable {arithmetic text} {call : Call F} {rows : List DailyServiceCostRow}
  {anomalies : List (CostAnomaly F)}

theorem detect_series (detected : detectDailyCostAnomalies arithmetic text rows call = .ok anomalies) :
    call.lookbackDays.toNat ≤ call.targetDate ∧ ∃ series, Built text call rows series ∧
      anomalies.Perm (series.byKey.rows.filterMap fun entry =>
        (judge arithmetic call (byDay entry.2)).map fun verdict =>
          { toVerdict := verdict
            day := call.targetDate
            key := entry.1
            accountName := (series.accountNames.find entry.1).getD none }) := by
  rw [detectDailyCostAnomalies] at detected
  split at detected
  next => simp at detected
  next =>
    split at detected
    next => simp at detected
    next =>
      split at detected
      next => simp at detected
      next fits =>
        cases loop : rows.foldlM (addRow text call) {} with
        | error message =>
          rw [loop] at detected
          exact absurd detected (by simp [bind,Except.bind])
        | ok series =>
          rw [loop] at detected
          obtain rfl := Except.ok.inj detected
          exact ⟨not_lt.mp fits,series,built_foldlM loop,List.mergeSort_perm _ _⟩

theorem detected_iff (detected : detectDailyCostAnomalies arithmetic text rows call = .ok anomalies)
    (key : SeriesKey) (verdict : Verdict F) :
    (∃ anomaly ∈ anomalies, anomaly.key = key ∧ anomaly.toVerdict = verdict) ↔
      (∃ row ∈ rows, call.inWindow row = true ∧ row.key text = key) ∧
        judge arithmetic call (last text rows key) = some verdict := by
  obtain ⟨fits,series,built,perm⟩ := detect_series detected
  have judged : ∀ days, series.byKey.find key = some days →
      judge arithmetic call (byDay days) = judge arithmetic call (last text rows key) := by
    intro days found
    refine judge_congr (fun day from_ until_ => ?_) fits
    rw [built.days key days found day,last_window from_ until_]
  rw [← built.keys key]
  constructor
  · rintro ⟨anomaly,listed,rfl,rfl⟩
    obtain ⟨entry,there,made⟩ := List.mem_filterMap.mp (perm.subset listed)
    obtain ⟨verdict,judged_,rfl⟩ := Option.map_eq_some_iff.mp made
    have found := Table.find_eq_some_iff.mpr there
    refine ⟨by rw [found]; rfl,?_⟩
    rw [← judged entry.2 found]
    exact judged_
  · rintro ⟨present,verdict_⟩
    obtain ⟨days,found⟩ := Option.isSome_iff_exists.mp present
    rw [← judged days found] at verdict_
    have there := Table.find_eq_some_iff.mp found
    have made : (judge arithmetic call (byDay days)).map (fun verdict =>
        ({ toVerdict := verdict
           day := call.targetDate
           key := key
           accountName := (series.accountNames.find key).getD none } : CostAnomaly F)) =
        some ⟨verdict,call.targetDate,key,(series.accountNames.find key).getD none⟩ := by
      rw [verdict_]
      rfl
    exact ⟨_,perm.symm.subset (List.mem_filterMap.mpr ⟨_,there,made⟩),rfl,rfl⟩

theorem filterMap_sublist {α β κ : Type} {f : α → Option β} {key : α → κ} {key' : β → κ}
    (keeps : ∀ a b, f a = some b → key' b = key a) (elements : List α) :
    ((elements.filterMap f).map key').Sublist (elements.map key) := by
  induction elements with
  | nil => exact List.Sublist.slnil
  | cons a rest ih =>
    rw [List.filterMap_cons]
    split
    next => exact ih.cons _
    next b made =>
      rw [List.map_cons,List.map_cons,keeps a b made]
      exact ih.cons_cons _

theorem detected_keys (detected : detectDailyCostAnomalies arithmetic text rows call = .ok anomalies) :
    (anomalies.map CostAnomaly.key).Nodup := by
  obtain ⟨-,series,-,perm⟩ := detect_series detected
  rw [(perm.map _).nodup_iff]
  refine series.byKey.distinct.sublist (filterMap_sublist ?_ _)
  intro entry anomaly made
  obtain ⟨verdict,-,rfl⟩ := Option.map_eq_some_iff.mp made
  rfl

theorem named_of_key {row other : DailyServiceCostRow} (same : row.key text = other.key text) :
    row.named text = other.named text := congrArg (SeriesKey.named text) same

theorem last_eq_total (added : Added text rows) {row : DailyServiceCostRow} (listed : row ∈ rows) :
    last text rows (row.key text) = total text rows (row.named text) := by
  funext day
  by_cases there : ∃ other ∈ rows, other.named text = row.named text ∧ other.day = day
  · obtain ⟨other,inside,same,rfl⟩ := there
    have key := added.spelled other inside row listed same
    rw [← key,← same]
    exact added.added other inside
  · rw [last_eq_zero fun other inside own => there ⟨other,inside,named_of_key own.1,own.2⟩,
      total_eq_zero fun other inside own => there ⟨other,inside,own⟩]

theorem right_of_added (added : Added text rows) : Right arithmetic text rows := by
  intro call anomalies detected
  constructor
  · have keys := detected_keys detected
    refine List.pairwise_map.mpr ((List.pairwise_map.mp keys).imp_of_mem ?_)
    intro anomaly other listed listed' differ same
    obtain ⟨⟨row,inside,-,key⟩,-⟩ := (detected_iff detected _ _).mp ⟨anomaly,listed,rfl,rfl⟩
    obtain ⟨⟨row',inside',-,key'⟩,-⟩ := (detected_iff detected _ _).mp ⟨other,listed',rfl,rfl⟩
    rw [← key,← key'] at differ same
    exact differ (added.spelled row inside row' inside' same)
  · intro key verdict
    constructor
    · rintro ⟨anomaly,listed,rfl,rfl⟩
      obtain ⟨⟨row,inside,within,own⟩,judged⟩ := (detected_iff detected _ _).mp ⟨anomaly,listed,rfl,rfl⟩
      rw [← own,last_eq_total added inside] at judged
      rw [← own]
      exact ⟨⟨row,inside,within,rfl⟩,meets_iff.mp judged⟩
    · rintro ⟨⟨row,inside,within,rfl⟩,meets⟩
      rw [← last_eq_total added inside] at meets
      obtain ⟨anomaly,listed,own,same⟩ := (detected_iff detected (row.key text) verdict).mpr
        ⟨⟨row,inside,within,rfl⟩,meets_iff.mpr meets⟩
      exact ⟨anomaly,listed,congrArg (SeriesKey.named text) own,same⟩

def wholeCalendar (arithmetic : Arithmetic F) (target : Nat) (minAbsUsd : Rat) : Call F where
  targetDate := target
  lookbackDays := (2 * ((target - 1) / 2) + 1 : Nat)
  minAbsUsd := minAbsUsd
  minPercent := arithmetic.ofDecimal 30
  minWeekdaySamples := (2 * ((target - 1) / 2) + 2 : Nat)
  minActiveDays := 0

theorem expected_zero {spend : Nat → Rat} {target : Nat} {minAbsUsd : Rat} (late : 8 ≤ target)
    (early : ∀ day, 2 * day ≤ target + 8 → spend day = 0) :
    (wholeCalendar arithmetic target minAbsUsd).expected arithmetic spend = 0 := by
  have days : (wholeCalendar arithmetic target minAbsUsd).baselineDays =
      List.range' (target - (2 * ((target - 1) / 2) + 1)) (2 * ((target - 1) / 2) + 1) := rfl
  have few : ((wholeCalendar arithmetic target minAbsUsd).weekdayValues spend).length ≤
      2 * ((target - 1) / 2) + 1 := by
    rw [Call.weekdayValues,List.length_map]
    refine (List.length_filter_le _ _).trans ?_
    rw [days,List.length_range']
  have short : ¬(wholeCalendar arithmetic target minAbsUsd).minWeekdaySamples ≤
      ((wholeCalendar arithmetic target minAbsUsd).weekdayValues spend).length := by
    have samples : (wholeCalendar arithmetic target minAbsUsd).minWeekdaySamples =
        (2 * ((target - 1) / 2) + 2 : Nat) := rfl
    rw [samples]
    omega
  have length : ((wholeCalendar arithmetic target minAbsUsd).baselineValues spend).length =
      2 * ((target - 1) / 2) + 1 := by
    rw [Call.baselineValues,List.length_map,days,List.length_range']
  rw [Call.expected,if_neg short,if_neg fun none => by simp [none] at length]
  refine Median.median_of_most _ length ?_
  -- The first days of the window, one more than half of them, cost nothing.
  have front : (List.range' (target - (2 * ((target - 1) / 2) + 1)) ((target - 1) / 2 + 1)).map spend =
      List.replicate ((target - 1) / 2 + 1) 0 := by
    refine List.eq_replicate_iff.mpr ⟨by rw [List.length_map,List.length_range'],fun value listed => ?_⟩
    obtain ⟨day,inside,rfl⟩ := List.mem_map.mp listed
    have bounds := List.mem_range'_1.mp inside
    exact early day (by omega)
  have split : (wholeCalendar arithmetic target minAbsUsd).baselineValues spend =
      List.replicate ((target - 1) / 2 + 1) 0 ++
        (List.range' (target - (2 * ((target - 1) / 2) + 1) + ((target - 1) / 2 + 1))
          ((target - 1) / 2)).map spend := by
    rw [Call.baselineValues,days,← front,← List.map_append,List.range'_append_1]
    congr 2
    omega
  rw [split,List.filter_append,List.length_append]
  simp only [List.filter_replicate,decide_true,if_true,List.length_replicate]
  omega

end Detection

section Necessity

variable {arithmetic text} {rows : List DailyServiceCostRow}

def Roomy (rows : List DailyServiceCostRow) : Prop :=
  ∀ row ∈ rows, ∀ other ∈ rows, row.day + 8 < 2 * other.day

theorem wholeCalendar_detects (finite : ∀ row ∈ rows, row.costUsd.isSome = true) {target : Nat}
    (late : 8 ≤ target) (minAbsUsd : Rat) : ∃ anomalies,
      detectDailyCostAnomalies arithmetic text rows (wholeCalendar arithmetic target minAbsUsd) =
        .ok anomalies := by
  obtain ⟨series,loop⟩ := @addRows_finite F text (wholeCalendar arithmetic target minAbsUsd) rows
    finite {}
  have lookback : (wholeCalendar arithmetic target minAbsUsd).lookbackDays =
      (2 * ((target - 1) / 2) + 1 : Nat) := rfl
  have date : (wholeCalendar arithmetic target minAbsUsd).targetDate = target := rfl
  have percent : (wholeCalendar arithmetic target minAbsUsd).minPercent =
    arithmetic.ofDecimal 30 := rfl
  rw [detectDailyCostAnomalies,lookback,date,percent,if_neg (by omega),arithmetic.positive,
    if_neg Bool.false_ne_true,if_neg (by omega),loop]
  exact ⟨_,rfl⟩

theorem wholeCalendar_reports (roomy : Roomy rows) {row : DailyServiceCostRow} (listed : row ∈ rows)
    {target : Nat} (reached : row.day ≤ target) (within : ∃ other ∈ rows, target ≤ other.day)
    {minAbsUsd : Rat} (enough : minAbsUsd ≤ last text rows (row.key text) target)
    {anomalies : List (CostAnomaly F)}
    (detected : detectDailyCostAnomalies arithmetic text rows
      (wholeCalendar arithmetic target minAbsUsd) = .ok anomalies) :
    ∃ anomaly ∈ anomalies, anomaly.key = row.key text ∧
      anomaly.actualCostUsd = last text rows (row.key text) target := by
  obtain ⟨other,there,bound⟩ := within
  have room := roomy other there row listed
  have inside : (wholeCalendar arithmetic target minAbsUsd).inWindow row = true := by
    have start : (wholeCalendar arithmetic target minAbsUsd).baselineStart =
      target - (2 * ((target - 1) / 2) + 1) := rfl
    have date : (wholeCalendar arithmetic target minAbsUsd).targetDate = target := rfl
    rw [Call.inWindow,start,date,Bool.and_eq_true,decide_eq_true_eq,decide_eq_true_eq]
    exact ⟨by omega,reached⟩
  have nothing : (wholeCalendar arithmetic target minAbsUsd).expected arithmetic
      (last text rows (row.key text)) = 0 := by
    refine expected_zero (by omega) fun day early => ?_
    refine last_eq_zero fun row' listed' own => ?_
    have := roomy other there row' listed'
    have := own.2
    omega
  have judged : ∃ verdict, judge arithmetic (wholeCalendar arithmetic target minAbsUsd)
      (last text rows (row.key text)) = some verdict ∧
        verdict.actualCostUsd = last text rows (row.key text) target := by
    have flagged : ∀ delta percent days, kindOf arithmetic (wholeCalendar arithmetic target minAbsUsd)
        0 (last text rows (row.key text) target) delta percent days = some .newSpend := by
      intro delta percent days
      rw [kindOf,if_pos rfl]
      exact if_pos enough
    rw [judge,nothing]
    have date : (wholeCalendar arithmetic target minAbsUsd).targetDate = target := rfl
    rw [date,flagged]
    exact ⟨_,rfl,rfl⟩
  obtain ⟨verdict,judged,actual⟩ := judged
  obtain ⟨anomaly,there,key,same⟩ := (detected_iff detected (row.key text) verdict).mpr
    ⟨⟨row,listed,inside,rfl⟩,judged⟩
  exact ⟨anomaly,there,key,by rw [same]; exact actual⟩

theorem added_of_right (finite : ∀ row ∈ rows, row.costUsd.isSome = true) (roomy : Roomy rows)
    (right : Right arithmetic text rows) : Added text rows := by
  constructor
  · intro row listed other listed' same
    by_contra differ
    -- On the later of their days both keys are reported.
    let target := max row.day other.day
    have late : 8 ≤ target := by
      have := roomy row listed row listed
      omega
    have within : ∃ later ∈ rows, target ≤ later.day := by
      rcases le_total row.day other.day with le | le
      · exact ⟨other,listed',(max_eq_right le).le⟩
      · exact ⟨row,listed,(max_eq_left le).le⟩
    let least := min (last text rows (row.key text) target) (last text rows (other.key text) target)
    obtain ⟨anomalies,detected⟩ := @wholeCalendar_detects F arithmetic text rows finite target
      late least
    obtain ⟨first,there,key,-⟩ := wholeCalendar_reports roomy listed (le_max_left _ _) within
      (min_le_left _ _) detected
    obtain ⟨second,there',key',-⟩ := wholeCalendar_reports roomy listed' (le_max_right _ _) within
      (min_le_right _ _) detected
    have once := (right _ _ detected).1
    have both : first.key.named text = second.key.named text := by
      rw [key,key']
      exact same
    have equal := List.inj_on_of_nodup_map once there there' both
    rw [equal,key'] at key
    exact differ key.symm
  · intro row listed
    have late : 8 ≤ row.day := by
      have := roomy row listed row listed
      omega
    obtain ⟨anomalies,detected⟩ := @wholeCalendar_detects F arithmetic text rows finite row.day
      late (last text rows (row.key text) row.day)
    obtain ⟨anomaly,there,key,actual⟩ := wholeCalendar_reports roomy listed le_rfl
      ⟨row,listed,le_rfl⟩ le_rfl detected
    have meets := (((right _ _ detected).2 _ _).mp ⟨anomaly,there,rfl,rfl⟩).2
    rw [← actual,meets.actual,key]
    rfl

end Necessity

section Spend

variable {text} {rows rows' : List DailyServiceCostRow}

theorem same_reports (right : Right arithmetic text rows) (right' : Right arithmetic text rows')
    (same : SameSpend text rows rows') {call : Call F} {anomalies anomalies' : List (CostAnomaly F)}
    (detected : detectDailyCostAnomalies arithmetic text rows call = .ok anomalies)
    (detected' : detectDailyCostAnomalies arithmetic text rows' call = .ok anomalies')
    (key : SeriesKey) (verdict : Verdict F) :
    Reported text anomalies key verdict ↔ Reported text anomalies' key verdict := by
  rw [(right call anomalies detected).2,(right' call anomalies' detected').2]
  have spend : total text rows key = total text rows' key := funext fun day => (same key day).1
  rw [spend]
  refine and_congr_left' ⟨?_,?_⟩
  · rintro ⟨row,listed,within,own⟩
    obtain ⟨other,there,own',day⟩ := (same key row.day).2.mp ⟨row,listed,own,rfl⟩
    refine ⟨other,there,?_,own'⟩
    rwa [Call.inWindow,day]
  · rintro ⟨row,listed,within,own⟩
    obtain ⟨other,there,own',day⟩ := (same key row.day).2.mpr ⟨row,listed,own,rfl⟩
    refine ⟨other,there,?_,own'⟩
    rwa [Call.inWindow,day]

end Spend

def SameReports (rows rows' : List DailyServiceCostRow) : Prop :=
  ∀ (call : Call F) (anomalies anomalies' : List (CostAnomaly F)),
    detectDailyCostAnomalies arithmetic text rows call = .ok anomalies →
    detectDailyCostAnomalies arithmetic text rows' call = .ok anomalies' →
    ∀ key verdict, Reported text anomalies key verdict ↔ Reported text anomalies' key verdict

theorem detect_window (rows : List DailyServiceCostRow) (call : Call F) :
    detectDailyCostAnomalies arithmetic text rows call =
      detectDailyCostAnomalies arithmetic text (rows.filter call.inWindow) call := by
  rw [detectDailyCostAnomalies,detectDailyCostAnomalies,addRows_window]

/-- Rows that are added are judged by their totals, as any other rows with these totals that are added;
rows in the later half of the calendar that are judged by their totals are added; and no rows matter but
those of the window. -/
theorem right_iff_added (rows : List DailyServiceCostRow)
    (finite : ∀ row ∈ rows, row.costUsd.isSome = true) :
    (Added text rows → Right arithmetic text rows ∧ ∀ rows', Added text rows' →
      SameSpend text rows rows' → SameReports arithmetic text rows rows') ∧
    (Roomy rows → Right arithmetic text rows → Added text rows) ∧
    ∀ call : Call F, detectDailyCostAnomalies arithmetic text rows call =
      detectDailyCostAnomalies arithmetic text (rows.filter call.inWindow) call := by
  refine ⟨fun added => ⟨right_of_added added,fun rows' added' same => ?_⟩,added_of_right finite,
    detect_window arithmetic text rows⟩
  intro call anomalies anomalies' detected detected'
  exact same_reports arithmetic (right_of_added added) (right_of_added added') same detected detected'

section Fetched

variable {accounts : Table Enforcement.Uuid CloudAccount} {records : List CostRecord} {query : CostQuery}

theorem fetched_account {joined : CostRecord × CloudAccount}
    (listed : joined ∈ joinedRecords text accounts records query) :
    accounts.find joined.1.accountId = some joined.2 := by
  obtain ⟨record,-,made⟩ := List.mem_filterMap.mp listed
  obtain ⟨account,found,kept⟩ := Option.bind_eq_some_iff.mp made
  split at kept
  next => rw [← Option.some.inj kept]; exact found
  next => simp at kept

def Plain (text : Lowercase) (joined : List (CostRecord × CloudAccount)) : Prop :=
  ∀ a ∈ joined, ∀ b ∈ joined, a.1.accountId = b.1.accountId →
    (groupRow (groupOf a) 0).named text = (groupRow (groupOf b) 0).named text →
      a.1.service = b.1.service

theorem fetched_added (plain : Plain text (joinedRecords text accounts records query)) :
    Added text (fetchDailyServiceCosts text accounts records query) := by
  let joined := joinedRecords text accounts records query
  let groups := (joined.map groupOf).dedup
  let row := fun group => groupRow group
    ((joined.filter fun joined => groupOf joined = group).map fun joined => joined.1.costUsd).sum
  have distinct : groups.Nodup := List.nodup_dedup _
  have fetched : fetchDailyServiceCosts text accounts records query = groups.map row := rfl
  have named : ∀ group, (row group).named text = (groupRow group 0).named text := fun group => rfl
  -- Groups whose rows are of one key are of one account and service.
  have one : ∀ g ∈ groups, ∀ h ∈ groups, (row g).named text = (row h).named text → g.2 = h.2 := by
    intro g listed h listed' same
    obtain ⟨a,there,rfl⟩ := List.mem_map.mp (List.mem_dedup.mp listed)
    obtain ⟨b,there',rfl⟩ := List.mem_map.mp (List.mem_dedup.mp listed')
    rw [named,named] at same
    have account : a.1.accountId = b.1.accountId := congrArg SeriesKey.accountId same
    have service := plain a there b there' account same
    have found := fetched_account text there
    rw [account,fetched_account text there'] at found
    rw [groupOf,groupOf,account,service,Option.some.inj found]
  have single : ∀ g ∈ groups, ∀ {holds : DailyServiceCostRow → Bool},
      (∀ h ∈ groups, holds (row h) = true ↔ h = g) → (groups.map row).filter holds = [row g] := by
    intro g listed holds own
    have exactly_ : groups.filter (fun h => holds (row h)) = groups.filter fun h => h = g :=
      List.filter_congr fun h inside => Bool.eq_iff_iff.mpr ((own h inside).trans decide_eq_true_iff.symm)
    rw [List.filter_map]
    have one := List.count_eq_one_of_mem distinct listed
    refine (congrArg (List.map row) (exactly_.trans (List.filter_eq g))).trans ?_
    rw [one]
    rfl
  rw [fetched]
  constructor
  · intro r listed r' listed' same
    obtain ⟨g,there,rfl⟩ := List.mem_map.mp listed
    obtain ⟨h,there',rfl⟩ := List.mem_map.mp listed'
    have equal := one g there h there' same
    simp only [row,groupRow,DailyServiceCostRow.key,equal]
  · intro r listed
    obtain ⟨g,there,rfl⟩ := List.mem_map.mp listed
    have of_key : (groups.map row).filter (fun r => r.key text = (row g).key text &&
        r.day = (row g).day) = [row g] := by
      refine single g there fun h inside => ?_
      rw [Bool.and_eq_true,decide_eq_true_eq,decide_eq_true_eq]
      constructor
      · exact fun own => Prod.ext own.2 (one h inside g there (named_of_key own.1))
      · rintro rfl
        exact ⟨rfl,rfl⟩
    have of_named : (groups.map row).filter (fun r => r.named text = (row g).named text &&
        r.day = (row g).day) = [row g] := by
      refine single g there fun h inside => ?_
      rw [Bool.and_eq_true,decide_eq_true_eq,decide_eq_true_eq]
      constructor
      · exact fun own => Prod.ext own.2 (one h inside g there own.1)
      · rintro rfl
        exact ⟨rfl,rfl⟩
    rw [last,total,of_key,of_named]
    exact (add_zero _).symm

def storedTotal (stored : List (CostRecord × CloudAccount)) (key : SeriesKey) (day : Nat) : Rat :=
  ((stored.filter fun joined => (groupRow (groupOf joined) 0).named text = key &&
    joined.1.recordedAt = day).map fun joined => joined.1.costUsd).sum

theorem fetched_total (key : SeriesKey) (day : Nat) :
    total text (fetchDailyServiceCosts text accounts records query) key day =
      storedTotal text (joinedRecords text accounts records query) key day := by
  let joined := joinedRecords text accounts records query
  let items := joined.map fun joined => (groupOf joined,joined.1.costUsd)
  let counts := fun group : Nat × Enforcement.Uuid × CloudAccount × String =>
    decide ((groupRow group 0).named text = key) && decide (group.1 = day)
  have keys : Ranking.keys items = joined.map groupOf := List.map_map
  have tallied : ∀ group, Ranking.tally items group =
      ((joined.filter fun joined => groupOf joined = group).map fun joined => joined.1.costUsd).sum := by
    intro group
    rw [Ranking.tally,List.filter_map,List.map_map]
    rfl
  have sums := Ranking.sum_tally items counts
  rw [keys,funext tallied] at sums
  rw [total,fetchDailyServiceCosts,List.filter_map,List.map_map,storedTotal]
  refine Eq.trans ?_ (sums.trans ?_)
  · rfl
  · rw [List.filter_map,List.map_map]
    rfl

/-- Every detection over the rows reports each key at most once, by the totals of what is stored. -/
def RightOver (stored : List (CostRecord × CloudAccount)) (rows : List DailyServiceCostRow) : Prop :=
  ∀ (call : Call F) (anomalies : List (CostAnomaly F)),
    detectDailyCostAnomalies arithmetic text rows call = .ok anomalies →
    (anomalies.map fun anomaly => anomaly.key.named text).Nodup ∧
      ∀ key verdict, Reported text anomalies key verdict ↔
        (∃ joined ∈ stored, call.inWindow (groupRow (groupOf joined) 0) = true ∧
          (groupRow (groupOf joined) 0).named text = key) ∧
        Meets arithmetic call (storedTotal text stored key) verdict

/-- The query adds the costs of a day, an account and a service, so that the detection judges what is
stored by its totals. -/
theorem fetched_right (plain : Plain text (joinedRecords text accounts records query)) :
    RightOver arithmetic text (joinedRecords text accounts records query)
      (fetchDailyServiceCosts text accounts records query) := by
  intro call anomalies detected
  obtain ⟨once,reported⟩ := right_of_added (fetched_added text plain) call anomalies detected
  refine ⟨once,fun key verdict => (reported key verdict).trans ?_⟩
  rw [funext (fetched_total text key)]
  refine and_congr_left' ⟨?_,?_⟩
  · rintro ⟨row,listed,within,own⟩
    obtain ⟨group,there,rfl⟩ := List.mem_map.mp listed
    obtain ⟨joined,inside,rfl⟩ := List.mem_map.mp (List.mem_dedup.mp there)
    exact ⟨joined,inside,within,own⟩
  · rintro ⟨joined,inside,within,own⟩
    exact ⟨_,List.mem_map_of_mem (List.mem_dedup.mpr (List.mem_map_of_mem inside)),within,own⟩

end Fetched

def exactArithmetic : Arithmetic Rat where
  context := id
  ofDecimal := id
  le := fun a b => a ≤ b
  neg := fun a => -a
  abs := fun a => |a|
  div := fun a b => a / b
  mul := fun a b => a * b
  min := fun a b => min a b
  max := fun a b => max a b
  round := fun a places =>
    (divRoundHalfEven (a.num * 10 ^ places) a.den : Rat) / 10 ^ places
  positive := by
    refine decide_eq_false ?_
    norm_num

def twice : List CostRecord := [⟨7,1,738000,"EC2",60⟩,⟨7,1,738000,"EC2",40⟩]

theorem fetched_right_twice : RightOver exactArithmetic Lowercase.asciiOnly
    (joinedRecords Lowercase.asciiOnly ⟨[(1,⟨"aws",none⟩)],by decide⟩ twice ⟨7,737000,738000,none⟩)
    (fetchDailyServiceCosts Lowercase.asciiOnly ⟨[(1,⟨"aws",none⟩)],by decide⟩ twice
      ⟨7,737000,738000,none⟩) := by
  refine fetched_right exactArithmetic Lowercase.asciiOnly fun a listed b listed' _ _ => ?_
  have service : ∀ joined ∈ joinedRecords Lowercase.asciiOnly ⟨[(1,⟨"aws",none⟩)],by decide⟩ twice
      ⟨7,737000,738000,none⟩, joined.1.service = "EC2" := by
    intro joined listed
    rcases List.mem_cons.mp listed with rfl | listed
    · rfl
    · obtain rfl := List.mem_singleton.mp listed
      rfl
  rw [service a listed,service b listed']

def twoRows : List DailyServiceCostRow :=
  [⟨738000,"aws",1,none,"EC2",some 60⟩,⟨738000,"aws",1,none,"EC2 ",some 40⟩]

theorem oneRow_right : Right exactArithmetic Lowercase.asciiOnly
    [⟨738000,"aws",1,none,"EC2",some 60⟩] := by
  refine ((right_iff_added exactArithmetic Lowercase.asciiOnly _ (by decide)).1 ⟨?_,?_⟩).1
  · intro row listed other listed' _
    rw [List.mem_singleton.mp listed,List.mem_singleton.mp listed']
  · intro row listed
    rw [List.mem_singleton.mp listed]
    have total_ : total Lowercase.asciiOnly [⟨738000,"aws",1,none,"EC2",some 60⟩]
        ⟨"aws",1,"ec2"⟩ 738000 = 60 + 0 := by rfl
    exact (add_zero (60 : Rat)).symm.trans total_.symm

/-- Only the last of the two rows is seen. -/
theorem twoRows_not_right : ¬Right exactArithmetic Lowercase.asciiOnly twoRows := by
  intro right
  have roomy : Roomy twoRows := by
    intro row listed other listed'
    have day : ∀ row ∈ twoRows, row.day = 738000 := by
      intro row listed
      rcases List.mem_cons.mp listed with rfl | listed
      · rfl
      · obtain rfl := List.mem_singleton.mp listed
        rfl
    rw [day row listed,day other listed']
    omega
  have added := (added_of_right (by decide) roomy right).added
    ⟨738000,"aws",1,none,"EC2",some 60⟩ List.mem_cons_self
  have last_ : last Lowercase.asciiOnly twoRows ⟨"aws",1,"EC2"⟩ 738000 = 40 := by rfl
  have total_ : total Lowercase.asciiOnly twoRows ⟨"aws",1,"ec2"⟩ 738000 = 60 + (40 + 0) := by rfl
  have both : last Lowercase.asciiOnly twoRows ⟨"aws",1,"EC2"⟩ 738000 =
      total Lowercase.asciiOnly twoRows ⟨"aws",1,"ec2"⟩ 738000 := added
  rw [last_,total_] at both
  exact absurd both (by norm_num)

end Valdrics.Anomalies

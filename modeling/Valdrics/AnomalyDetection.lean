import Valdrics.DateText
import Valdrics.Medians
import Valdrics.EnforcementModels

/-! The detection of anomalies in daily costs: a series of days for each provider, account and service,
a median of the days before the target, and thresholds for what the target day differs by. The floats
of percentages and confidences are a parameter. -/
namespace Valdrics.Anomalies

open Enforcement (Uuid)
open Median (median)
open PythonText

structure Arithmetic (F : Type) where
  context : Rat → Rat
  ofDecimal : Rat → F
  le : F → F → Bool
  neg : F → F
  abs : F → F
  div : F → F → F
  mul : F → F → F
  min : F → F → F
  max : F → F → F
  round : F → Nat → F
  positive : le (ofDecimal 30) (ofDecimal 0) = false

structure DailyServiceCostRow where
  day : Nat
  provider : String
  accountId : Uuid
  accountName : Option String
  service : String
  costUsd : Option Rat

structure SeriesKey where
  provider : String
  accountId : Uuid
  service : String
  deriving DecidableEq

inductive Kind where
  | newSpend | spike | drop
  deriving DecidableEq

namespace Kind

def value : Kind → String
  | .newSpend => "new_spend"
  | .spike => "spike"
  | .drop => "drop"

def probableCause : Kind → String
  | .newSpend => "new_service_spend"
  | .spike => "spend_spike"
  | .drop => "spend_drop"

end Kind

inductive Severity where
  | low | medium | high | critical
  deriving DecidableEq

/-- `_SEVERITY_RANK`. -/
def Severity.rank : Severity → Nat
  | .low => 0
  | .medium => 1
  | .high => 2
  | .critical => 3

structure Verdict (F : Type) where
  actualCostUsd : Rat
  expectedCostUsd : Rat
  deltaCostUsd : Rat
  percentChange : Option F
  kind : Kind
  confidence : F
  severity : Severity

structure CostAnomaly (F : Type) extends Verdict F where
  day : Nat
  key : SeriesKey
  accountName : Option String

structure Call (F : Type) where
  targetDate : Nat
  lookbackDays : Int
  minAbsUsd : Rat
  minPercent : F
  minWeekdaySamples : Int
  minActiveDays : Int

variable {F : Type} (arithmetic : Arithmetic F) (text : Lowercase)

def DailyServiceCostRow.key (row : DailyServiceCostRow) : SeriesKey where
  provider := orDefault (text.lower (strip row.provider)) "unknown"
  accountId := row.accountId
  service := orDefault (strip (orDefault row.service "Unknown")) "Unknown"

def weekday (day : Nat) : Nat := day % 7

namespace Call

variable (call : Call F)

def baselineStart : Nat := call.targetDate - call.lookbackDays.toNat

def baselineDays : List Nat := List.range' call.baselineStart call.lookbackDays.toNat

def inWindow (row : DailyServiceCostRow) : Bool :=
  call.baselineStart ≤ row.day && row.day ≤ call.targetDate

def baselineValues (byDay : Nat → Rat) : List Rat := call.baselineDays.map byDay

def activeDays (byDay : Nat → Rat) : Nat :=
  ((call.baselineValues byDay).filter fun value => 0 < value).length

def weekdayValues (byDay : Nat → Rat) : List Rat :=
  (call.baselineDays.filter fun day => weekday day = weekday call.targetDate).map byDay

def expected (byDay : Nat → Rat) : Rat :=
  if call.minWeekdaySamples ≤ (call.weekdayValues byDay).length then
    median arithmetic.context (call.weekdayValues byDay)
  else if call.baselineValues byDay = [] then 0
  else median arithmetic.context (call.baselineValues byDay)

end Call

def classifySeverity (deltaAbs : Rat) (percentAbs : F) : Severity :=
  if 1000 ≤ deltaAbs ∨ arithmetic.le (arithmetic.ofDecimal 500) percentAbs then .critical
  else if 250 ≤ deltaAbs ∨ arithmetic.le (arithmetic.ofDecimal 200) percentAbs then .high
  else if 100 ≤ deltaAbs ∨ arithmetic.le (arithmetic.ofDecimal 100) percentAbs then .medium
  else .low

def confidence (kind : Kind) (activeDays : Nat) (lookbackDays : Int) (percentAbs minPercent : F) : F :=
  let float := arithmetic.ofDecimal
  if kind = .newSpend then if 14 ≤ lookbackDays then float (9 / 10) else float (7 / 10)
  else
    let baselineFactor :=
      if 0 < activeDays then
        arithmetic.min (float 1) (arithmetic.div (float activeDays) (float 7))
      else float (2 / 10)
    let strength := arithmetic.div percentAbs (arithmetic.max minPercent (float 1))
    let strengthFactor := arithmetic.min (float 1) (arithmetic.div strength (float 2))
    let score := arithmetic.max (float (1 / 10))
      (arithmetic.min (float 1) (arithmetic.mul baselineFactor strengthFactor))
    arithmetic.round score 2

def percentChange (expected delta : Rat) : Option F :=
  if 0 < expected then
    some (arithmetic.ofDecimal
      (arithmetic.context (arithmetic.context (delta / expected) * 100)))
  else none

def kindOf (call : Call F) (expected actual delta : Rat) (percent : Option F) (activeDays : Nat) :
    Option Kind :=
  if expected = 0 then if call.minAbsUsd ≤ actual then some .newSpend else none
  else if call.minAbsUsd ≤ delta ∧ percent.any fun percent => arithmetic.le call.minPercent percent then
    some .spike
  else if delta ≤ -call.minAbsUsd ∧
      (percent.any fun percent => arithmetic.le percent (arithmetic.neg call.minPercent)) ∧
      call.minActiveDays ≤ activeDays then
    some .drop
  else none

def judge (call : Call F) (byDay : Nat → Rat) : Option (Verdict F) :=
  let activeDays := call.activeDays byDay
  let expected := call.expected arithmetic byDay
  let actual := byDay call.targetDate
  let delta := arithmetic.context (actual - expected)
  let percent := percentChange arithmetic expected delta
  let percentAbs := (percent.map arithmetic.abs).getD (arithmetic.ofDecimal 0)
  (kindOf arithmetic call expected actual delta percent activeDays).map fun kind =>
    { actualCostUsd := actual
      expectedCostUsd := expected
      deltaCostUsd := delta
      percentChange := percent.map fun percent => arithmetic.round percent 2
      kind := kind
      confidence := confidence arithmetic kind activeDays call.lookbackDays percentAbs call.minPercent
      severity := classifySeverity arithmetic |delta| percentAbs }

structure Series where
  byKey : Table SeriesKey (Table Nat Rat) := .empty
  accountNames : Table SeriesKey (Option String) := .empty

def addRow (call : Call F) (series : Series) (row : DailyServiceCostRow) : Except String Series :=
  if !call.inWindow row then .ok series
  else
    match row.costUsd with
    | none => .error "cost_usd must be finite"
    | some cost => .ok
      { byKey := series.byKey.upsert (row.key text) (Table.empty.upsert row.day cost fun _ => cost)
          fun byDay => byDay.upsert row.day cost fun _ => cost
        accountNames := series.accountNames.upsert (row.key text) row.accountName id }

def byDay (days : Table Nat Rat) (day : Nat) : Rat := (days.find day).getD 0

/-- The order of the report: the most severe first, then the largest difference. -/
def CostAnomaly.le (a b : CostAnomaly F) : Bool :=
  if a.severity.rank = b.severity.rank then |b.deltaCostUsd| ≤ |a.deltaCostUsd|
  else b.severity.rank < a.severity.rank

def detectDailyCostAnomalies (rows : List DailyServiceCostRow) (call : Call F) :
    Except String (List (CostAnomaly F)) :=
  if call.lookbackDays < 7 then .error "lookback_days must be >= 7"
  else if arithmetic.le call.minPercent (arithmetic.ofDecimal 0) then .error "min_percent must be > 0"
  else if call.targetDate < call.lookbackDays.toNat then .error "date value out of range"
  else do
    let series ← rows.foldlM (addRow text call) {}
    let anomalies := series.byKey.rows.filterMap fun entry =>
      (judge arithmetic call (byDay entry.2)).map fun verdict =>
        { toVerdict := verdict
          day := call.targetDate
          key := entry.1
          accountName := (series.accountNames.find entry.1).getD none }
    return anomalies.mergeSort CostAnomaly.le

structure CloudAccount where
  provider : String
  name : Option String
  deriving DecidableEq

structure CostRecord where
  tenantId : Uuid
  accountId : Uuid
  recordedAt : Nat
  service : String
  costUsd : Rat

structure CostQuery where
  tenantId : Uuid
  startDate : Nat
  endDate : Nat
  provider : Option String

def joinedRecords (accounts : Table Uuid CloudAccount) (records : List CostRecord)
    (query : CostQuery) : List (CostRecord × CloudAccount) :=
  records.filterMap fun record =>
    (accounts.find record.accountId).bind fun account =>
      if record.tenantId = query.tenantId ∧ query.startDate ≤ record.recordedAt ∧
          record.recordedAt ≤ query.endDate ∧ ((query.provider.filter (· ≠ "")).all fun provider =>
            account.provider = text.lower (strip provider)) then
        some (record,account)
      else none

def groupOf (joined : CostRecord × CloudAccount) : Nat × Uuid × CloudAccount × String :=
  (joined.1.recordedAt,joined.1.accountId,joined.2,joined.1.service)

def groupRow (group : Nat × Uuid × CloudAccount × String) (costUsd : Rat) : DailyServiceCostRow where
  day := group.1
  provider := orDefault group.2.2.1.provider "unknown"
  accountId := group.2.1
  accountName := group.2.2.1.name
  service := orDefault group.2.2.2 "Unknown"
  costUsd := some costUsd

def fetchDailyServiceCosts (accounts : Table Uuid CloudAccount)
    (records : List CostRecord) (query : CostQuery) : List DailyServiceCostRow :=
  let joined := joinedRecords text accounts records query
  (joined.map groupOf).dedup.map fun group =>
    groupRow group ((joined.filter fun joined => groupOf joined = group).map
      fun joined => joined.1.costUsd).sum

end Valdrics.Anomalies

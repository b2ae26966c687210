import Valdrics.AttributionRules
import Valdrics.BillingExport
import Valdrics.ZombieScans

/-! The cost feeds of the adapters: what each makes of a record of its source, whatever the
currency, and the rows that it streams to the ingestion of costs. -/
namespace Valdrics

namespace Decimal

/-- How many of the last digits are zeros, of at most so many. -/
def trailingZeros : Nat → Nat → Nat
  | _, 0 => 0
  | n, most + 1 => if n % 10 = 0 then trailingZeros (n / 10) most + 1 else 0

/-- `a / b` in the default context; `b` is not zero. -/
def quotient (a b : Decimal) : Decimal :=
  if a.coefficient = 0 then ⟨0,a.exponent - b.exponent⟩
  else
    let shift : Int := (digits b.coefficient.natAbs).length - (digits a.coefficient.natAbs).length +
      contextDigits + 1
    let dividend := a.coefficient.natAbs * 10 ^ shift.toNat
    let divisor := b.coefficient.natAbs * 10 ^ (-shift).toNat
    let sign := a.coefficient.sign * b.coefficient.sign
    let exponent := a.exponent - b.exponent - shift
    let whole := dividend / divisor
    if dividend % divisor = 0 then
      let zeros := trailingZeros whole shift.toNat
      inContext ⟨sign * (whole / 10 ^ zeros : Nat),exponent + zeros⟩
    else
      -- A last digit that tells the number from a tie.
      inContext ⟨sign * (if whole % 5 = 0 then whole + 1 else whole : Nat),exponent⟩

end Decimal

namespace Reporting

open Enforcement (Json Uuid)
open PythonText (orDefault strip)
open ZombieScan (Item isBlank orElse textOr)

/-- Why a timestamp is not read: a `ValueError` or `TypeError`, or an `OverflowError`. -/
inductive Misread where
  | invalid
  | overflow
  deriving DecidableEq

inductive RateError where
  | recoverable
  | other
  deriving DecidableEq

structure FeedRuntime where
  python : ZombieScan.Runtime
  text : Uppercase
  fromIso : String → Option Nat
  fromUnix : Decimal → Except Misread Nat
  postgresql : Bool

/-- The moment a record is handled at: the clock, and what `get_exchange_rate` answers. -/
structure Moment where
  now : Nat
  lookup : String → Except RateError Decimal

structure FeedRow where
  provider : Option String
  service : String
  region : String
  usageType : String
  resourceId : Option String := none
  usageAmount : Option Decimal := none
  usageUnit : Option String := none
  costUsd : Decimal
  amountRaw : Option Decimal
  currency : String
  timestamp : Nat
  sourceAdapter : String

def FeedRow.record (row : FeedRow) : StreamRecord where
  timestamp := row.timestamp
  date := row.timestamp / dayMicros
  service := some row.service
  region := some row.region
  usageType := some (some row.usageType)
  resourceId := row.resourceId
  costUsd := row.costUsd

namespace FeedRuntime

variable (rt : FeedRuntime)

def database : Database := ⟨rt.postgresql,rt.python.viaFloat⟩

/-- `Decimal(str(value))`, if it is a finite number. -/
def finite (value : Json) : Option Decimal :=
  match Decimal.parse (rt.python.str value) with
  | some (.finite number) => some number
  | _ => none

def isNumber (value : Json) : Bool := (rt.finite value).isSome

/-- `as_float`; `none` raises. -/
def asFloat (value : Json) (default : Decimal) (divisor : Int) : Option Decimal :=
  match value with
  | .null => some default
  | value => (rt.finite value).map fun amount =>
    rt.python.viaFloat (amount.quotient ⟨if divisor ≤ 0 then 1 else divisor,0⟩)

def zero : Decimal := ⟨0,0⟩

def parseRequiredTimestamp : Json → Except Misread Nat
  | .str value =>
    match rt.fromIso (value.replace "Z" "+00:00") with
    | some timestamp => .ok timestamp
    | none => .error .invalid
  | value =>
    match JsonValue.number value with
    | some number => rt.fromUnix number
    | none => .error .invalid

/-- `parse_timestamp`; `none` raises. -/
def parseTimestamp (now : Nat) (value : Json) : Option Nat :=
  match rt.parseRequiredTimestamp value with
  | .ok timestamp => some timestamp
  | .error .invalid => some now
  | .error .overflow => none

/-- `_parse_stream_timestamp`; `none` is a `ValueError`. -/
def parseStreamTimestamp : Json → Option Nat
  | .str value =>
    let normalized := strip value
    if normalized = "" then none else rt.fromIso (normalized.replace "Z" "+00:00")
  | _ => none

def normalizeCurrency (value : String) : String := rt.text.upper (strip (orDefault value "USD"))

def convertToUsdAmount (amount rate : Decimal) : Decimal :=
  if rate.coefficient ≤ 0 then amount else amount.quotient rate

def convertToUsd (moment : Moment) (amount : Decimal) (fromCurrency : String) :
    Except RateError Decimal :=
  let currency := rt.normalizeCurrency fromCurrency
  if currency = "USD" then .ok amount
  else do
    let rate ← moment.lookup currency
    return convertToUsdAmount amount rate

/-- The cost of a local amount: a conversion that fails recoverably leaves the amount as it is, any
other raises. -/
def costUsd (moment : Moment) (amountLocal : Decimal) (currencyCode : String) : Option Decimal :=
  if currencyCode = "USD" then some amountLocal
  else
    match rt.convertToUsd moment amountLocal currencyCode with
    | .ok amount => some (rt.python.viaFloat amount)
    | .error .recoverable => some amountLocal
    | .error .other => none

/-- `str(value or "USD").upper()`. -/
def currencyCode (value : Json) : String := rt.text.upper (rt.python.str (orElse value (.str "USD")))

/-- `str(value or "").strip() or None`. -/
def resourceText (value : Json) : Option String :=
  let text := strip (textOr rt.python value)
  if text = "" then none else some text

/-- `str(value).strip() if value not in (None, "") else None`. -/
def filledText (value : Json) : Option String :=
  if isBlank value then none else some (strip (rt.python.str value))

/-- `as_float(value, default=0.0) if is_number(value) else None`. -/
def quantity (value : Json) : Option Decimal :=
  if rt.isNumber value then rt.asFloat value zero 1 else none

/-! The row of a record: the outer `none` raises, the inner one skips the record. -/

def invoiceAmount (invoice : Item) : Option Decimal :=
  let amountCents := match invoice.entry "amount_paid" with
    | .null => invoice.entry "total"
    | paid => paid
  rt.asFloat amountCents zero 100

/-- An invoice in `stream_stripe_cost_and_usage`. -/
def stripeRow (startDate endDate : Nat) (moment : Moment) : Json → Option (Option FeedRow)
  | .obj invoice => do
    let timestamp ← rt.parseTimestamp moment.now (Item.entry invoice "created")
    if timestamp < startDate ∨ endDate < timestamp then return none
    let code := rt.currencyCode (Item.entry invoice "currency")
    let amountLocal ← rt.invoiceAmount invoice
    let cost ← rt.costUsd moment amountLocal code
    return some
      { provider := some "saas"
        service := match Item.entry invoice "description" with
          | .str text => if text = "" then "Stripe Billing" else strip text
          | _ => "Stripe Billing"
        region := "global"
        usageType := "subscription_invoice"
        resourceId := rt.resourceText (Item.entry invoice "id")
        usageAmount := some ⟨1,0⟩
        usageUnit := some "invoice"
        costUsd := cost
        amountRaw := some amountLocal
        currency := code
        timestamp
        sourceAdapter := "saas_stripe_api" }
  | _ => some none

/-- A contract line in `stream_salesforce_cost_and_usage`. -/
def salesforceRow (startDate endDate : Nat) (moment : Moment) : Json → Option (Option FeedRow)
  | .obj record => do
    let timestamp ← rt.parseTimestamp moment.now (Item.entry record "ServiceDate")
    if timestamp < startDate ∨ endDate < timestamp then return none
    let amountLocal ← rt.asFloat (Item.entry record "TotalPrice") zero 1
    let code := rt.currencyCode (Item.entry record "CurrencyIsoCode")
    let cost ← rt.costUsd moment amountLocal code
    return some
      { provider := some "saas"
        service := rt.python.str (orElse (Item.entry record "Description") (.str "Salesforce Contract"))
        region := "global"
        usageType := "contract_line_item"
        resourceId := rt.resourceText (Item.entry record "Id")
        usageAmount := some ⟨1,0⟩
        usageUnit := some "contract_line_item"
        costUsd := cost
        amountRaw := some amountLocal
        currency := code
        timestamp
        sourceAdapter := "saas_salesforce_api" }
  | _ => some none

/-- `desc[0]` of a result that `_extract_cloudkitty_summary_rows` keeps. -/
def summaryBegin (result : Item) : Option Json :=
  match result.entry "desc" with
  | .arr (beginning :: _) => if rt.isNumber (result.entry "rate") then some beginning else none
  | _ => none

/-- A result in `_stream_cloudkitty_cost_and_usage`. -/
def cloudKittyRow (connectorConfig : Item) (moment : Moment) : Json → Option (Option FeedRow)
  | .obj result =>
    match (rt.summaryBegin result).bind rt.parseStreamTimestamp with
    | none => some none
    | some timestamp => do
      let code := rt.currencyCode (connectorConfig.entry "currency")
      let rate ← rt.asFloat (Item.entry result "rate") zero 1
      let cost ← rt.costUsd moment rate code
      return some
        { provider := some "hybrid"
          service := "OpenStack CloudKitty"
          region := rt.python.str (orElse (connectorConfig.entry "location") (.str "global"))
          usageType := "rated_usage"
          usageAmount := rt.quantity (Item.entry result "qty")
          usageUnit := some "unit"
          costUsd := cost
          amountRaw := some rate
          currency := code
          timestamp
          sourceAdapter := "hybrid_openstack_cloudkitty" }
  | _ => some none

/-- `entry.get("cost_usd", entry.get("amount_usd"))`. -/
def costCandidate (entry : Item) : Json := (entry.lookup "cost_usd").getD (entry.entry "amount_usd")

/-- `entry.get("amount_raw", entry.get("amount", entry.get("cost")))`. -/
def rawCandidate (entry : Item) : Json :=
  (entry.lookup "amount_raw").getD ((entry.lookup "amount").getD (entry.entry "cost"))

def ledgerAmounts (moment : Moment) (entry : Item) (code : String) :
    Option (Option (Decimal × Option Decimal)) :=
  if rt.isNumber (costCandidate entry) then do
    let cost ← rt.asFloat (costCandidate entry) zero 1
    match entry.entry "amount_raw" with
    | .null => return some (cost,none)
    | amountRaw =>
      let raw ← rt.asFloat amountRaw cost 1
      return some (cost,some raw)
  else if rt.isNumber (rawCandidate entry) then do
    let amountLocal ← rt.asFloat (rawCandidate entry) zero 1
    let cost ← rt.costUsd moment amountLocal code
    return some (cost,some amountLocal)
  else some none

/-- An entry in `_stream_ledger_http_cost_and_usage`. -/
def ledgerRow (vendor : String) (startDate endDate : Nat) (moment : Moment) :
    Json → Option (Option FeedRow)
  | .obj entry =>
    match rt.parseStreamTimestamp (orElse (Item.entry entry "timestamp") (Item.entry entry "date")) with
    | none => some none
    | some timestamp => do
      if timestamp < startDate ∨ endDate < timestamp then return none
      let code := rt.currencyCode (Item.entry entry "currency")
      match ← rt.ledgerAmounts moment entry code with
      | none => return none
      | some (cost,raw) =>
        return some
          { provider := some "hybrid"
            service := rt.python.str (orElse (Item.entry entry "service") (orElse
              (Item.entry entry "system") (orElse (Item.entry entry "vendor")
              (.str (orDefault vendor "Hybrid Infra")))))
            region := rt.python.str (orElse (Item.entry entry "region") (orElse
              (Item.entry entry "location") (.str "global")))
            usageType := rt.python.str (orElse (Item.entry entry "usage_type") (.str "infrastructure"))
            resourceId := rt.filledText (orElse (Item.entry entry "resource_id") (Item.entry entry "id"))
            usageAmount := rt.quantity (Item.entry entry "usage_amount")
            usageUnit := rt.filledText (Item.entry entry "usage_unit")
            costUsd := cost
            amountRaw := raw
            currency := code
            timestamp
            sourceAdapter := "hybrid_ledger_http" }
  | _ => some none

end FeedRuntime

/-- A row of the usage report under the names of its columns, with its usage date as pandas
reads it. -/
structure CurRow where
  usageStart : Nat
  cells : Item

structure CurChunk where
  columns : List String
  rows : List CurRow

/-- `CUR_COLUMNS`. -/
def curColumns : List (String × List String) :=
  [("date",["lineItem/UsageStartDate","identity/TimeInterval","line_item_usage_start_date"]),
   ("cost",["lineItem/UnblendedCost","line_item_unblended_cost","lineItem/AmortizedCost",
     "line_item_amortized_cost"]),
   ("currency",["lineItem/CurrencyCode","line_item_currency_code"]),
   ("service",["lineItem/ProductCode","line_item_product_code","product/ProductName"]),
   ("region",["product/region","lineItem/AvailabilityZone","product/location"]),
   ("usage_type",["lineItem/UsageType","line_item_operation"])]

/-- An entry of `col_map`. -/
def columnOf (columns : List String) (key : String) : Option String :=
  ((curColumns.lookup key).getD []).find? (· ∈ columns)

namespace FeedRuntime

variable (rt : FeedRuntime)

def curText (columns : List String) (row : CurRow) (key default : String) : String :=
  match columnOf columns key with
  | none => default
  | some column =>
    let value := (row.cells.lookup column).getD (.str default)
    if isBlank value then default else rt.python.str value

/-- The amount of a row; `none` raises. -/
def curAmount (columns : List String) (row : CurRow) : Option Decimal :=
  let value := (columnOf columns "cost").elim (.int 0) fun column =>
    (row.cells.lookup column).getD (.int 0)
  if isBlank value then some zero else rt.finite value

/-- `parse_cur_row`, whose errors skip the row, and the row that is streamed for it. -/
def parseCurRow (columns : List String) (row : CurRow) : Option FeedRow := do
  let amount ← rt.curAmount columns row
  return {
    provider := none
    service := rt.curText columns row "service" "Unknown"
    region := rt.curText columns row "region" "Global"
    usageType := rt.curText columns row "usage_type" "Unknown"
    costUsd := amount
    amountRaw := some amount
    currency := rt.curText columns row "currency" "USD"
    timestamp := row.usageStart
    sourceAdapter := "cur_data_export" }

end FeedRuntime

inductive SourceRecord where
  | stripe (invoice : Json)
  | salesforce (record : Json)
  | cloudKitty (connectorConfig : Item) (result : Json)
  | ledger (vendor : String) (entry : Json)
  | cur (columns : List String) (row : CurRow)
  | gcp (group : CostGroup) (members : List ExportRow)

/-- What a stream goes through; the records of its pages and files in their order. -/
inductive CostFeed where
  | stripe (invoices : List (Moment × Json))
  | salesforce (records : List (Moment × Json))
  | cloudKitty (connectorConfig : Item) (results : List (Moment × Json))
  | ledger (vendor : String) (entries : List (Moment × Json))
  | cur (moment : Moment) (files : List (List CurChunk))
  | gcp (moment : Moment) (exported : List ExportRow)

structure Emission where
  moment : Moment
  source : SourceRecord
  record : StreamRecord

/-- `_SUMMARY_RECORD_CAP`. -/
def summaryRecordCap : Nat := 50000

def fileRows (startDate endDate : Nat) (file : List CurChunk) : List SourceRecord :=
  (file.filter fun chunk => (columnOf chunk.columns "date").isSome ∧
    (columnOf chunk.columns "cost").isSome).flatMap fun chunk =>
      (chunk.rows.filter fun row => startDate / dayMicros ≤ row.usageStart / dayMicros ∧
        row.usageStart / dayMicros ≤ endDate / dayMicros).map (.cur chunk.columns)

def queryGroups (startDate endDate : Nat) (exported : List ExportRow) : List SourceRecord :=
  (costQuery exported startDate endDate).map fun row =>
    .gcp (row.service,row.timestamp) (members (selected exported startDate endDate)
      (row.service,row.timestamp))

namespace FeedRuntime

variable (rt : FeedRuntime)

def streamRecord (startDate endDate : Nat) (moment : Moment) :
    SourceRecord → Option (Option StreamRecord)
  | .stripe invoice => (rt.stripeRow startDate endDate moment invoice).map (·.map FeedRow.record)
  | .salesforce record => (rt.salesforceRow startDate endDate moment record).map (·.map FeedRow.record)
  | .cloudKitty connectorConfig result =>
    (rt.cloudKittyRow connectorConfig moment result).map (·.map FeedRow.record)
  | .ledger vendor entry =>
    (rt.ledgerRow vendor startDate endDate moment entry).map (·.map FeedRow.record)
  | .cur columns row => some ((rt.parseCurRow columns row).map FeedRow.record)
  | .gcp group members => some (some (rt.database.parseRow (aggregate group members)).record)

def emissions (startDate endDate : Nat) : List (Moment × SourceRecord) → List Emission
  | [] => []
  | (moment,source) :: rest =>
    match rt.streamRecord startDate endDate moment source with
    | none => []
    | some none => emissions startDate endDate rest
    | some (some record) => ⟨moment,source,record⟩ :: emissions startDate endDate rest

/-- `stream_cost_and_usage`. -/
def stream (startDate endDate : Nat) : CostFeed → List Emission
  | .stripe invoices =>
    rt.emissions startDate endDate (invoices.map fun (moment,invoice) => (moment,.stripe invoice))
  | .salesforce records =>
    rt.emissions startDate endDate (records.map fun (moment,record) => (moment,.salesforce record))
  | .cloudKitty connectorConfig results =>
    rt.emissions startDate endDate (results.map fun (moment,result) =>
      (moment,.cloudKitty connectorConfig result))
  | .ledger vendor entries =>
    rt.emissions startDate endDate (entries.map fun (moment,entry) => (moment,.ledger vendor entry))
  | .cur moment files => files.flatMap fun file =>
    (rt.emissions startDate endDate ((fileRows startDate endDate file).map fun row => (moment,row))).take
      summaryRecordCap
  | .gcp moment exported =>
    rt.emissions startDate endDate
      ((queryGroups startDate endDate exported).map fun group => (moment,group))

end FeedRuntime

end Reporting

end Valdrics

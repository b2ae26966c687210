import Valdrics.DollarCosts
import Valdrics.GeneratorPasses

/-! The native streams of the SaaS, platform and license adapters, which fall back to the manual
feed of the connection where a request of the vendor fails. -/
namespace Valdrics.Reporting

open Enforcement (Json)
open JsonValue (truthy)
open ZombieScan (Item orElse isBlank textOr)
open PythonText

/-- What ends a stream; only the first is an `ExternalAPIError`. -/
inductive StreamFailure where
  | external
  | value (message : String)
  | attribute
  | other
  deriving DecidableEq

def StreamFailure.isExternal (failure : StreamFailure) : Bool := failure = .external

structure ManualRow where
  provider : String
  service : String
  region : String
  usageType : String
  resourceId : Option String
  usageAmount : Option Decimal
  usageUnit : Option String
  costUsd : Decimal
  amountRaw : Json
  currency : String
  timestamp : Nat
  sourceAdapter : String
  tags : Item

inductive StreamedRow where
  | vendor (row : FeedRow)
  | feed (row : ManualRow)

/-- What `get_exchange_rate` answers while a record is handled. -/
abbrev Rates := String → Except RateError Decimal

structure UsageMetric where
  key : String
  quantity : Decimal
  unit : Option String

/-- The history of a native vendor, as its answers are decoded: pages of records, months of usage,
or the SKUs that are asked for. A SKU has the units that it counts and whether its request fails. -/
inductive VendorHistory where
  | stripe (pages : List (List (Rates × Json)))
  | salesforce (pages : List (List (Rates × Json)))
  | ledgerHttp (vendor : String) (records : List (Rates × Item))
  | datadog (unitPrices : List (String × Decimal)) (strictPricing : Bool)
      (months : List (Nat × List UsageMetric))
  | newrelic (unitPrices : List (String × Decimal)) (months : List (Nat × List Json))
  | microsoft365 (skuPrices : List (String × Decimal)) (defaultPrice : Decimal) (currency : String)
      (skus : List Json)
  | googleWorkspace (skuPrices : List (String × Decimal)) (defaultPrice : Decimal)
      (currency : String) (skus : List (String × Json × Bool))

inductive Adapter where
  | saas | platform | license

def VendorHistory.adapter : VendorHistory → Adapter
  | .stripe _ | .salesforce _ => .saas
  | .ledgerHttp .. | .datadog .. | .newrelic .. => .platform
  | .microsoft365 .. | .googleWorkspace .. => .license

/-- A connection with a native vendor: how many requests are answered before one fails, if one
does, and its manual feed. -/
structure NativeConnection where
  history : VendorHistory
  answered : Option Nat
  feed : List Json

section Walks

variable {α : Type}

/-- The pages that a stream reads: after each that has a successor, the next one is asked for if
there is a token for it. -/
def walk (token : List α → Except StreamFailure Bool) :
    Option Nat → List (List α) → List α × Option StreamFailure
  | some 0, _ => ([],some .external)
  | _, [] => ([],none)
  | _, [page] => (page,none)
  | answered, page :: rest =>
    match token page with
    | .error failure => (page,some failure)
    | .ok false => (page,none)
    | .ok true =>
      (page ++ (walk token (answered.map (· - 1)) rest).1,
        (walk token (answered.map (· - 1)) rest).2)

def linked (_ : List α) : Except StreamFailure Bool := .ok true

/-- `entries[-1].get("id")`, which is to be a text. -/
def lastId (page : List (Rates × Json)) : Except StreamFailure Bool :=
  match page.getLast? with
  | none => .ok false
  | some (_,.obj invoice) =>
    match Item.entry invoice "id" with
    | .str id => .ok (id ≠ "")
    | _ => .ok false
  | some _ => .error .attribute

end Walks

def rowsIn {α : Type} : Except StreamFailure (List α) → List α
  | .ok rows => rows
  | .error _ => []

section Records

variable (rt : FeedRuntime) (startDate endDate : Nat)

/-- A record in a stream: what it gives at a time of the clock, and what it gives by a time of its
own. A record without one gives nothing when the clock is past the window, and no less than that
at any time. -/
structure NativeRecord where
  give : Nat → Except StreamFailure (List FeedRow)
  own : List FeedRow
  internal : ∀ now, give now ≠ .error .external
  late : ∀ rows, give (endDate + 1) = .ok rows → rows = own
  more : ∀ now rows, give now = .ok rows → rows = own ∨ own.length < rows.length

variable {startDate endDate} in
def NativeRecord.steady (given : Except StreamFailure (List FeedRow))
    (internal : given ≠ .error .external) : NativeRecord endDate where
  give _ := given
  internal _ := internal
  own := rowsIn given
  late rows same := by
    rw [same]
    rfl
  more now rows same := by
    rw [same]
    exact Or.inl rfl

/-- A row that is built or skipped, or an exception that is no `ExternalAPIError`. -/
def given : Option (Option FeedRow) → Except StreamFailure (List FeedRow)
  | none => .error .other
  | some none => .ok []
  | some (some row) => .ok [row]

theorem given_internal (row : Option (Option FeedRow)) : given row ≠ .error .external := by
  rcases row with _ | _ | row <;> simp [given]

def ownRows (time : Json) (row : Option (Option FeedRow)) : List FeedRow :=
  match rt.parseRequiredTimestamp time,given row with
  | .ok _,.ok rows => rows
  | _,_ => []

theorem parseTimestamp_of_valid {value : Json} {timestamp : Nat}
    (valid : rt.parseRequiredTimestamp value = .ok timestamp) (now : Nat) :
    rt.parseTimestamp now value = some timestamp := by
  rw [FeedRuntime.parseTimestamp,valid]

theorem parseTimestamp_of_invalid {value : Json}
    (invalid : rt.parseRequiredTimestamp value = .error .invalid) (now : Nat) :
    rt.parseTimestamp now value = some now := by
  rw [FeedRuntime.parseTimestamp,invalid]

theorem parseTimestamp_of_overflow {value : Json}
    (overflow : rt.parseRequiredTimestamp value = .error .overflow) (now : Nat) :
    rt.parseTimestamp now value = none := by
  rw [FeedRuntime.parseTimestamp,overflow]

/-- Invoices and contract lines: the time of the row is the record's own, or the clock's. -/
structure Stamped where
  time : Item → Json
  row : Moment → Json → Option (Option FeedRow)
  foreign : ∀ moment json, (∀ members, json ≠ .obj members) → row moment json = some none
  overflows : ∀ now rates record,
    rt.parseTimestamp now (time record) = none → row ⟨now,rates⟩ (.obj record) = none
  outside : ∀ now rates record timestamp, rt.parseTimestamp now (time record) = some timestamp →
    timestamp < startDate ∨ endDate < timestamp → row ⟨now,rates⟩ (.obj record) = some none
  same : ∀ now now' rates record,
    rt.parseTimestamp now (time record) = rt.parseTimestamp now' (time record) →
      row ⟨now,rates⟩ (.obj record) = row ⟨now',rates⟩ (.obj record)

def stripeStamped : Stamped rt startDate endDate where
  time invoice := invoice.entry "created"
  row := rt.stripeRow startDate endDate
  foreign moment json other := by
    cases json <;> first | rfl | exact absurd rfl (other _)
  overflows now rates record none := by simp only [FeedRuntime.stripeRow,none]; rfl
  outside now rates record timestamp read away := by
    simp only [FeedRuntime.stripeRow,read,Option.bind_eq_bind,Option.bind_some,if_pos away]
    rfl
  same now now' rates record equal := by simp only [FeedRuntime.stripeRow,equal]; rfl

def salesforceStamped : Stamped rt startDate endDate where
  time record := record.entry "ServiceDate"
  row := rt.salesforceRow startDate endDate
  foreign moment json other := by
    cases json <;> first | rfl | exact absurd rfl (other _)
  overflows now rates record none := by simp only [FeedRuntime.salesforceRow,none]; rfl
  outside now rates record timestamp read away := by
    simp only [FeedRuntime.salesforceRow,read,Option.bind_eq_bind,Option.bind_some,if_pos away]
    rfl
  same now now' rates record equal := by simp only [FeedRuntime.salesforceRow,equal]; rfl

variable {rt startDate endDate} in
def Stamped.record (stamped : Stamped rt startDate endDate) (entry : Rates × Json) :
    NativeRecord endDate where
  give now := given (stamped.row ⟨now,entry.1⟩ entry.2)
  own := match entry.2 with
    | .obj record => ownRows rt (stamped.time record) (stamped.row ⟨0,entry.1⟩ entry.2)
    | _ => []
  internal now := given_internal _
  late rows yielded := by
    obtain ⟨rates,json⟩ := entry
    cases json with
    | obj record =>
      cases read : rt.parseRequiredTimestamp (stamped.time record) with
      | ok timestamp =>
        have equal := stamped.same (endDate + 1) 0 rates record
          ((parseTimestamp_of_valid rt read _).trans (parseTimestamp_of_valid rt read _).symm)
        rw [equal] at yielded
        simp only [ownRows,read,yielded]
      | error misread =>
        cases misread with
        | invalid =>
          have skipped := stamped.outside (endDate + 1) rates record _
            (parseTimestamp_of_invalid rt read _) (Or.inr (Nat.lt_succ_self _))
          rw [skipped] at yielded
          simp only [ownRows,read]
          exact (Except.ok.inj yielded).symm
        | overflow =>
          have raised := stamped.overflows (endDate + 1) rates record
            (parseTimestamp_of_overflow rt read _)
          rw [raised] at yielded
          cases yielded
    | _ =>
      rw [stamped.foreign _ _ (by simp)] at yielded
      exact (Except.ok.inj yielded).symm
  more now rows yielded := by
    obtain ⟨rates,json⟩ := entry
    cases json with
    | obj record =>
      cases read : rt.parseRequiredTimestamp (stamped.time record) with
      | ok timestamp =>
        have equal := stamped.same now 0 rates record
          ((parseTimestamp_of_valid rt read _).trans (parseTimestamp_of_valid rt read _).symm)
        rw [equal] at yielded
        left
        simp only [ownRows,read,yielded]
      | error misread =>
        simp only [ownRows,read]
        cases rows with
        | nil => exact Or.inl rfl
        | cons => exact Or.inr (Nat.succ_pos _)
    | _ =>
      rw [stamped.foreign _ _ (by simp)] at yielded
      exact Or.inl (Except.ok.inj yielded).symm

/-- An entry in `_stream_ledger_http_cost_and_usage` of the platform adapter. -/
def platformLedgerRow (vendor : String) (rates : Rates) (entry : Item) :
    Option (Option FeedRow) :=
  match rt.parseStreamTimestamp (orElse (entry.entry "timestamp") (entry.entry "date")) with
  | none => some none
  | some timestamp => do
    if timestamp < startDate ∨ endDate < timestamp then return none
    let code := rt.currencyCode (entry.entry "currency")
    match ← rt.ledgerAmounts ⟨0,rates⟩ entry code with
    | none => return none
    | some (cost,raw) =>
      return some
        { provider := some "platform"
          service := rt.python.str (orElse (entry.entry "service") (orElse
            (entry.entry "platform") (orElse (entry.entry "vendor")
            (.str (orDefault vendor "Internal Platform")))))
          region := rt.python.str (orElse (entry.entry "region") (orElse
            (entry.entry "location") (.str "global")))
          usageType := rt.python.str (orElse (entry.entry "usage_type") (.str "shared_service"))
          resourceId := rt.filledText (orElse (entry.entry "resource_id") (entry.entry "id"))
          usageAmount := rt.quantity (entry.entry "usage_amount")
          usageUnit := rt.filledText (entry.entry "usage_unit")
          costUsd := cost
          amountRaw := raw
          currency := code
          timestamp
          sourceAdapter := "platform_ledger_http" }

def times (a b : Decimal) : Decimal :=
  rt.python.viaFloat ⟨a.coefficient * b.coefficient,a.exponent + b.exponent⟩

def metricRow (label sourceAdapter usageUnit : String) (month : Nat) (key : String)
    (quantity price : Decimal) : FeedRow where
  provider := some "platform"
  service := label ++ key
  region := "global"
  usageType := "billable_usage"
  usageAmount := some quantity
  usageUnit := some usageUnit
  costUsd := times rt quantity price
  amountRaw := some (times rt quantity price)
  currency := "USD"
  timestamp := month
  sourceAdapter := sourceAdapter

def datadogRow (unitPrices : List (String × Decimal)) (month : Nat) (metric : UsageMetric) :
    FeedRow :=
  metricRow rt "Datadog " "platform_datadog_api" (orDefault (metric.unit.getD "") "unit") month
    metric.key metric.quantity ((unitPrices.lookup metric.key).getD ⟨0,0⟩)

def newrelicRows (unitPrices : List (String × Decimal)) (month : Nat) : Json → List FeedRow
  | .obj result => unitPrices.filterMap fun (key,price) =>
    (rt.quantity (Item.entry result key)).map fun quantity =>
      metricRow rt "New Relic " "platform_newrelic_nerdgraph" "unit" month key quantity price
  | _ => []

def seatRow (service : String) (resourceId : Option String) (sourceAdapter currency : String)
    (units price : Decimal) : List FeedRow :=
  if endDate < startDate then []
  else [
    { provider := some "license"
      service
      region := "global"
      usageType := "seat_license"
      resourceId
      usageAmount := some units
      usageUnit := some "seat"
      costUsd := rt.python.viaFloat (.ofUnits ((times rt units price).scaled 2) 2)
      amountRaw := some units
      currency
      timestamp := endDate
      sourceAdapter }]

def consumedUnits (sku : Item) : Option Decimal := do
  let consumed ← rt.asFloat (sku.entry "consumedUnits") FeedRuntime.zero 1
  match sku.entry "prepaidUnits" with
  | .obj prepaid =>
    if consumed.coefficient ≤ 0 then rt.asFloat (Item.entry prepaid "enabled") FeedRuntime.zero 1
    else return consumed
  | _ => return consumed

def microsoftRows (skuPrices : List (String × Decimal)) (defaultPrice : Decimal)
    (currency : String) : Json → Except StreamFailure (List FeedRow)
  | .obj sku =>
    let skuCode := rt.text.upper (rt.python.str (orElse (Item.entry sku "skuPartNumber")
      (orElse (Item.entry sku "skuId") (.str "M365_SKU"))))
    match consumedUnits rt sku with
    | none => .error .other
    | some units => .ok (seatRow rt startDate endDate skuCode
        (rt.resourceText (orElse (Item.entry sku "skuId") (.str skuCode)))
        "license_microsoft_graph" currency units ((skuPrices.lookup skuCode).getD defaultPrice))
  | _ => .ok []

theorem microsoftRows_internal (skuPrices : List (String × Decimal)) (defaultPrice : Decimal)
    (currency : String) (sku : Json) :
    microsoftRows rt startDate endDate skuPrices defaultPrice currency sku ≠
      .error .external := by
  unfold microsoftRows
  split
  · split <;> simp
  · simp

def googleRows (skuPrices : List (String × Decimal)) (defaultPrice : Decimal) (currency : String)
    (sku : String × Json × Bool) : Except StreamFailure (List FeedRow) :=
  match rt.asFloat sku.2.1 FeedRuntime.zero 1 with
  | none => .error .other
  | some units => .ok (seatRow rt startDate endDate sku.1 (some sku.1)
      "google_workspace_licensing" currency units ((skuPrices.lookup sku.1).getD defaultPrice))

theorem googleRows_internal (skuPrices : List (String × Decimal)) (defaultPrice : Decimal)
    (currency : String) (sku : String × Json × Bool) :
    googleRows rt startDate endDate skuPrices defaultPrice currency sku ≠ .error .external := by
  unfold googleRows
  split <;> simp

/-- What a stream reads of a history: the records up to where it stops, why it stops there, and
the rows of all records in the window. -/
structure Reading where
  reached : List (NativeRecord endDate)
  failure : Option StreamFailure
  complete : List FeedRow

def rowsOf {endDate : Nat} (records : List (NativeRecord endDate)) : List FeedRow :=
  records.flatMap NativeRecord.own

def Reading.ofPages {α : Type} {endDate : Nat}
    (token : List α → Except StreamFailure Bool) (answered : Option Nat) (pages : List (List α))
    (record : α → NativeRecord endDate) : Reading endDate where
  reached := (walk token answered pages).1.map record
  failure := (walk token answered pages).2
  complete := rowsOf (pages.flatten.map record)

variable {endDate} in
/-- Records up to the first that the stream refuses with an `ExternalAPIError`. -/
def Reading.refusing {α : Type} (refused : α → Bool) (records : List α × Option StreamFailure)
    (all : List α) (record : α → NativeRecord endDate) : Reading endDate where
  reached := (records.1.takeWhile fun r => !refused r).map record
  failure := if records.1.any refused then some .external else records.2
  complete := rowsOf (all.map record)

/-- The SKUs whose requests are answered; where no row comes of them and a request failed, the
stream fails. -/
def Reading.ofSkus {endDate : Nat} (skus : List (String × Json × Bool)) (answered : Option Nat)
    (record : String × Json × Bool → NativeRecord endDate) : Reading endDate :=
  let reached := if answered = some 0 then [] else (skus.filter fun sku => !sku.2.2).map record
  { reached
    failure :=
      if answered = some 0 ∨ rowsOf reached = [] ∧ skus.any (·.2.2) then some .external
      else none
    complete := rowsOf (skus.map record) }

def monthly {α : Type} (months : List (Nat × List α)) : List (List (Nat × α)) :=
  months.map fun month => month.2.map fun a => (month.1,a)

def reading (connection : NativeConnection) : Reading endDate :=
  match connection.history with
  | .stripe pages =>
    .ofPages lastId connection.answered pages (stripeStamped rt startDate endDate).record
  | .salesforce pages =>
    .ofPages linked connection.answered pages (salesforceStamped rt startDate endDate).record
  | .ledgerHttp vendor records =>
    .ofPages linked connection.answered [records] fun entry =>
      .steady (given (platformLedgerRow rt startDate endDate vendor entry.1 entry.2))
        (given_internal _)
  | .datadog unitPrices strictPricing months =>
    .refusing (fun entry => strictPricing && (unitPrices.lookup entry.2.key).isNone)
      (walk linked connection.answered (monthly months)) (monthly months).flatten fun entry =>
        .steady (.ok [datadogRow rt unitPrices entry.1 entry.2]) nofun
  | .newrelic unitPrices months =>
    .ofPages linked connection.answered (monthly months) fun entry =>
      .steady (.ok (newrelicRows rt unitPrices entry.1 entry.2)) nofun
  | .microsoft365 skuPrices defaultPrice currency skus =>
    .ofPages linked connection.answered [skus] fun sku =>
      .steady (microsoftRows rt startDate endDate skuPrices defaultPrice currency sku)
        (microsoftRows_internal _ _ _ _ _ _ _)
  | .googleWorkspace skuPrices defaultPrice currency skus =>
    .ofSkus skus connection.answered fun sku =>
      .steady (googleRows rt startDate endDate skuPrices defaultPrice currency sku)
        (googleRows_internal _ _ _ _ _ _ _)

/-! The manual feeds. -/

structure FeedFormat where
  label : String
  provider : String
  service : Item → Json
  usageType : String
  region : Item → Json
  missingCost : Json
  upperCurrency : Bool
  sourceAdapter : String

def Adapter.feedFormat : Adapter → FeedFormat
  | .saas =>
    { label := "Spend"
      provider := "saas"
      service := fun entry =>
        orElse (entry.entry "service") (orElse (entry.entry "vendor") (.str "SaaS"))
      usageType := "subscription"
      region := fun _ => .str "global"
      missingCost := .float ⟨0,0⟩
      upperCurrency := false
      sourceAdapter := "saas_feed" }
  | .platform =>
    { label := "Spend"
      provider := "platform"
      service := fun entry => orElse (entry.entry "service") (orElse (entry.entry "platform")
        (orElse (entry.entry "vendor") (.str "Internal Platform")))
      usageType := "shared_service"
      region := fun entry =>
        orElse (entry.entry "region") (orElse (entry.entry "location") (.str "global"))
      missingCost := .float ⟨0,0⟩
      upperCurrency := true
      sourceAdapter := "platform_feed" }
  | .license =>
    { label := "License"
      provider := "license"
      service := fun entry =>
        orElse (entry.entry "service") (orElse (entry.entry "vendor") (.str "License"))
      usageType := "seat_license"
      region := fun _ => .str "global"
      missingCost := .null
      upperCurrency := false
      sourceAdapter := "license_feed" }

def entryTags (entry : Item) : Item :=
  match entry.entry "tags" with
  | .obj tags => tags
  | _ => []

def feedRow (format : FeedFormat) : Json × Nat → Except StreamFailure (List ManualRow)
  | (.obj entry,idx) =>
    match rt.parseRequiredTimestamp (orElse (Item.entry entry "timestamp")
        (Item.entry entry "date")) with
    | .error .invalid => .error (.value
        (format.label ++ " feed entry #" ++ toString idx ++ " has invalid timestamp/date."))
    | .error .overflow => .error .other
    | .ok timestamp =>
      if timestamp < startDate ∨ endDate < timestamp then .ok []
      else
        match rt.finite ((entry.lookup "cost_usd").getD
            ((entry.lookup "amount_usd").getD format.missingCost)) with
        | none => .error (.value (format.label ++ " feed entry #" ++ toString idx ++
            " must include numeric cost_usd or amount_usd."))
        | some cost =>
          let currency := rt.python.str (orElse (Item.entry entry "currency") (.str "USD"))
          .ok [
            { provider := format.provider
              service := rt.python.str (format.service entry)
              region := rt.python.str (format.region entry)
              usageType := rt.python.str
                (orElse (Item.entry entry "usage_type") (.str format.usageType))
              resourceId := rt.filledText
                (orElse (Item.entry entry "resource_id") (Item.entry entry "id"))
              usageAmount := rt.quantity (Item.entry entry "usage_amount")
              usageUnit := rt.filledText (Item.entry entry "usage_unit")
              costUsd := rt.python.viaFloat cost
              amountRaw := Item.entry entry "amount_raw"
              currency := if format.upperCurrency then rt.text.upper currency else currency
              timestamp
              sourceAdapter := format.sourceAdapter
              tags := entryTags entry }]
  | _ => .error .attribute

def feedPass (connection : NativeConnection) : Pass StreamFailure ManualRow :=
  let pass := Pass.each (feedRow rt startDate endDate connection.history.adapter.feedFormat)
    (connection.feed.zipIdx 1)
  match connection.history.adapter,pass.raised with
  | .license,some failure => ⟨[],some failure⟩
  | _,_ => pass

def vendorPass (read : Reading endDate) (clock : Nat → Nat) : Pass StreamFailure FeedRow :=
  let pass := Pass.each (fun item : NativeRecord endDate × Nat => item.1.give (clock item.2))
    read.reached.zipIdx
  match read.failure with
  | none => pass
  | some failure => pass.breakOff failure

/-- `stream_cost_and_usage`: an `ExternalAPIError` of the vendor starts the feed. -/
def streamCostAndUsage (connection : NativeConnection) (clock : Nat → Nat) :
    Pass StreamFailure StreamedRow :=
  ((vendorPass endDate (reading rt startDate endDate connection) clock).map .vendor).orElse
    StreamFailure.isExternal ((feedPass rt startDate endDate connection).map .feed)

def feedRows (connection : NativeConnection) : List ManualRow :=
  (connection.feed.zipIdx 1).flatMap fun entry =>
    rowsIn (feedRow rt startDate endDate connection.history.adapter.feedFormat entry)

/-- The stream ends with the vendor's records in the window, each once and at its own time, or with
the feed's entries, whatever the clock shows. -/
structure VendorOrFeed (connection : NativeConnection) : Prop where
  ends : ∀ clock, (streamCostAndUsage rt startDate endDate connection clock).raised = none
  unmixed : ∀ clock,
    (streamCostAndUsage rt startDate endDate connection clock).rows =
        (reading rt startDate endDate connection).complete.map .vendor ∨
      (streamCostAndUsage rt startDate endDate connection clock).rows =
        (feedRows rt startDate endDate connection).map .feed
  repeatable : ∀ clock clock',
    (streamCostAndUsage rt startDate endDate connection clock).rows =
      (streamCostAndUsage rt startDate endDate connection clock').rows

/-- Every record that is read gives its own rows at any time; a stream that ends has read all of
them, and one that fails does so before its first row, or after its last one where the feed has
nothing for the window. -/
structure Undivided (connection : NativeConnection) : Prop where
  timed : ∀ record ∈ (reading rt startDate endDate connection).reached,
    ∀ now, record.give now = .ok record.own
  whole : (reading rt startDate endDate connection).failure = none →
    rowsOf (reading rt startDate endDate connection).reached =
        (reading rt startDate endDate connection).complete ∨
      rowsOf (reading rt startDate endDate connection).reached = [] ∧
        feedRows rt startDate endDate connection = []
  failed : ∀ failure, (reading rt startDate endDate connection).failure = some failure →
    failure = .external ∧
    (∀ entry ∈ connection.feed.zipIdx 1,
      (feedRow rt startDate endDate connection.history.adapter.feedFormat entry).isOk = true) ∧
    (rowsOf (reading rt startDate endDate connection).reached = [] ∨
      rowsOf (reading rt startDate endDate connection).reached =
        (reading rt startDate endDate connection).complete ∧
      feedRows rt startDate endDate connection = [])

end Records

/-! A stream keeps to one source exactly if it is undivided. -/

section Streams

variable {rt : FeedRuntime} {startDate endDate : Nat} {connection : NativeConnection}

theorem flatMap_zipIdx {α β : Type} (f : α → List β) (items : List α) (n : Nat) :
    (items.zipIdx n).flatMap (fun item => f item.1) = items.flatMap f := by
  conv => rhs; rw [← List.zipIdx_map_fst n items,List.flatMap_map]

theorem same_of_length {α β : Type} {f g : α → List β} {items : List α}
    (longer : ∀ item ∈ items, f item = g item ∨ (g item).length < (f item).length)
    (same : (items.flatMap f).length = (items.flatMap g).length) :
    ∀ item ∈ items, f item = g item := by
  have least : ∀ item ∈ items, (g item).length ≤ (f item).length := by
    intro item listed
    rcases longer item listed with equal | more
    · rw [equal]
    · exact more.le
  have total : ∀ items : List α, (∀ item ∈ items, (g item).length ≤ (f item).length) →
      (items.flatMap g).length ≤ (items.flatMap f).length := by
    intro items least
    rw [List.length_flatMap,List.length_flatMap]
    exact List.sum_le_sum least
  induction items with
  | nil => simp
  | cons item rest ih =>
    rw [List.flatMap_cons,List.flatMap_cons,List.length_append,List.length_append] at same
    obtain ⟨own,others⟩ := List.forall_mem_cons.mp least
    have rests := total rest others
    refine List.forall_mem_cons.mpr ⟨?_,ih (fun other listed => longer other
      (List.mem_cons_of_mem _ listed)) (by omega) others⟩
    rcases longer item List.mem_cons_self with equal | more
    · exact equal
    · omega

theorem vendor_only_iff {one whole : List FeedRow} {two : List ManualRow} :
    one.map StreamedRow.vendor ++ two.map StreamedRow.feed = whole.map .vendor ↔
      one = whole ∧ two = [] := by
  constructor
  · intro equal
    cases two with
    | nil =>
      rw [List.map_nil,List.append_nil] at equal
      exact ⟨List.map_injective_iff.mpr (fun _ _ => StreamedRow.vendor.inj) equal,rfl⟩
    | cons row rest =>
      have among : StreamedRow.feed row ∈ whole.map StreamedRow.vendor := by
        rw [← equal]
        simp
      obtain ⟨_,_,never⟩ := List.mem_map.mp among
      cases never
  · rintro ⟨rfl,rfl⟩
    simp

theorem feed_only_iff {one : List FeedRow} {two other : List ManualRow} :
    one.map StreamedRow.vendor ++ two.map StreamedRow.feed = other.map .feed ↔
      one = [] ∧ two = other := by
  constructor
  · intro equal
    cases one with
    | nil => exact ⟨rfl,List.map_injective_iff.mpr (fun _ _ => StreamedRow.feed.inj) equal⟩
    | cons row rest =>
      have among : StreamedRow.vendor row ∈ other.map StreamedRow.feed := by
        rw [← equal]
        simp
      obtain ⟨_,_,never⟩ := List.mem_map.mp among
      cases never
  · rintro ⟨rfl,rfl⟩
    simp

theorem feedPass_ends : (feedPass rt startDate endDate connection).raised = none ↔
    ∀ entry ∈ connection.feed.zipIdx 1,
      (feedRow rt startDate endDate connection.history.adapter.feedFormat entry).isOk = true := by
  have whole : (feedPass rt startDate endDate connection).raised = (Pass.each
      (feedRow rt startDate endDate connection.history.adapter.feedFormat)
      (connection.feed.zipIdx 1)).raised := by
    unfold feedPass
    dsimp only
    split
    next stopped => exact stopped.symm
    next => rfl
  rw [whole]
  constructor
  · intro ends entry listed
    obtain ⟨rows,given⟩ := Pass.each_ends ends entry listed
    rw [given]
    rfl
  · intro all
    by_contra stopped
    obtain ⟨failure,raised⟩ := Option.ne_none_iff_exists'.mp stopped
    obtain ⟨entry,listed,given⟩ := Pass.each_raised raised
    have good := all entry listed
    rw [given] at good
    cases good

theorem feedPass_rows (ends : (feedPass rt startDate endDate connection).raised = none) :
    (feedPass rt startDate endDate connection).rows = feedRows rt startDate endDate connection := by
  have all := feedPass_ends.mp ends
  have each : Pass.each (feedRow rt startDate endDate connection.history.adapter.feedFormat)
      (connection.feed.zipIdx 1) = ⟨(connection.feed.zipIdx 1).flatMap fun entry =>
        rowsIn (feedRow rt startDate endDate connection.history.adapter.feedFormat entry),none⟩ := by
    refine Pass.each_ok fun entry listed => ?_
    have good := all entry listed
    cases given : feedRow rt startDate endDate connection.history.adapter.feedFormat entry with
    | ok rows => rfl
    | error failure => rw [given] at good; cases good
  unfold feedPass feedRows
  rw [each]
  cases connection.history.adapter <;> rfl

variable {read : Reading endDate}

def givenAt (read : Reading endDate) (now : Nat) : List FeedRow :=
  read.reached.flatMap fun record => rowsIn (record.give now)

theorem vendorPass_given {now : Nat}
    (all : ∀ record ∈ read.reached, ∃ rows, record.give now = .ok rows) :
    vendorPass endDate read (fun _ => now) = ⟨givenAt read now,read.failure⟩ := by
  have each : Pass.each (fun item : NativeRecord endDate × Nat => item.1.give now)
      read.reached.zipIdx =
        ⟨read.reached.zipIdx.flatMap fun item => rowsIn (item.1.give now),none⟩ := by
    refine Pass.each_ok fun item listed => ?_
    obtain ⟨rows,given⟩ := all item.1 (List.fst_mem_of_mem_zipIdx listed)
    rw [given]
    rfl
  rw [flatMap_zipIdx fun record : NativeRecord endDate => rowsIn (record.give now)] at each
  unfold vendorPass
  simp only [each]
  cases read.failure <;> rfl

theorem vendorPass_timed
    (timed : ∀ record ∈ read.reached, ∀ now, record.give now = .ok record.own)
    (clock : Nat → Nat) :
    vendorPass endDate read clock = ⟨rowsOf read.reached,read.failure⟩ := by
  have each : Pass.each (fun item : NativeRecord endDate × Nat => item.1.give (clock item.2))
      read.reached.zipIdx = ⟨read.reached.zipIdx.flatMap fun item => item.1.own,none⟩ :=
    Pass.each_ok fun item listed => timed item.1 (List.fst_mem_of_mem_zipIdx listed) _
  rw [flatMap_zipIdx NativeRecord.own] at each
  unfold vendorPass
  simp only [each]
  cases read.failure <;> rfl

theorem given_of_ends {other : Pass StreamFailure StreamedRow} {now : Nat}
    (ends : (((vendorPass endDate read fun _ => now).map .vendor).orElse
      StreamFailure.isExternal other).raised = none) :
    ∀ record ∈ read.reached, ∃ rows, record.give now = .ok rows := by
  have calm : (Pass.each (fun item : NativeRecord endDate × Nat => item.1.give now)
      read.reached.zipIdx).raised = none := by
    by_contra stopped
    obtain ⟨failure,raised⟩ := Option.ne_none_iff_exists'.mp stopped
    obtain ⟨item,_,given⟩ := Pass.each_raised raised
    have own : failure ≠ .external := by
      rintro rfl
      exact item.1.internal now given
    have kept : (vendorPass endDate read fun _ => now).raised = some failure := by
      unfold vendorPass
      cases read.failure with
      | none => exact raised
      | some late => simp only [Pass.breakOff,raised,Option.getD_some]
    rcases Pass.orElse_ends ends with ⟨never,_⟩ | ⟨_,_,_⟩
    · rw [Pass.map,kept] at never
      cases never
    · have uncaught : StreamFailure.isExternal failure = false := decide_eq_false own
      simp only [Pass.orElse,Pass.map,kept,uncaught] at ends
      cases ends
  intro record listed
  obtain ⟨n,bound,rfl⟩ := List.getElem_of_mem listed
  have indexed : (read.reached[n],n) ∈ read.reached.zipIdx := List.mk_mem_zipIdx_iff_getElem?.mpr
    (List.getElem?_eq_getElem bound)
  exact Pass.each_ends calm _ indexed

theorem Undivided.unmixed (undivided : Undivided rt startDate endDate connection) :
    VendorOrFeed rt startDate endDate connection := by
  obtain ⟨timed,whole,failed⟩ := undivided
  have vendor := vendorPass_timed timed
  cases stopped : (reading rt startDate endDate connection).failure with
  | none =>
    have stream : ∀ clock, streamCostAndUsage rt startDate endDate connection clock =
        ⟨(rowsOf (reading rt startDate endDate connection).reached).map .vendor,none⟩ := by
      intro clock
      simp only [streamCostAndUsage,vendor clock,stopped,Pass.map,Pass.orElse]
    refine ⟨fun clock => by rw [stream],fun clock => ?_,
      fun clock clock' => by rw [stream,stream]⟩
    rw [stream]
    rcases whole stopped with complete | ⟨none,empty⟩
    · exact Or.inl (congrArg _ complete)
    · right
      rw [none,empty]
      rfl
  | some failure =>
    obtain ⟨rfl,good,either⟩ := failed failure stopped
    have ended := feedPass_ends.mpr good
    have stream : ∀ clock, streamCostAndUsage rt startDate endDate connection clock =
        ⟨(rowsOf (reading rt startDate endDate connection).reached).map .vendor ++
          (feedRows rt startDate endDate connection).map .feed,none⟩ := by
      intro clock
      simp only [streamCostAndUsage,vendor clock,stopped,Pass.map,Pass.orElse,
        StreamFailure.isExternal,ended,feedPass_rows ended,decide_true,if_true]
    refine ⟨fun clock => by rw [stream],fun clock => ?_,
      fun clock clock' => by rw [stream,stream]⟩
    rw [stream]
    rcases either with none | ⟨complete,empty⟩
    · exact Or.inr (feed_only_iff.mpr ⟨none,rfl⟩)
    · exact Or.inl (vendor_only_iff.mpr ⟨complete,empty⟩)

theorem stream_rows {now : Nat}
    (ends : (streamCostAndUsage rt startDate endDate connection fun _ => now).raised = none) :
    (streamCostAndUsage rt startDate endDate connection fun _ => now).rows =
      (givenAt (reading rt startDate endDate connection) now).map .vendor ++
        (if (reading rt startDate endDate connection).failure = none then []
          else feedRows rt startDate endDate connection).map .feed := by
  have vendor := vendorPass_given (given_of_ends ends)
  unfold streamCostAndUsage at ends ⊢
  rw [vendor] at ends ⊢
  rcases Pass.orElse_ends ends with ⟨same,rows⟩ | ⟨stopped,ended,rows⟩
  · have calm : (reading rt startDate endDate connection).failure = none := same
    rw [rows,if_pos calm,List.map_nil,List.append_nil]
    rfl
  · have failed : (reading rt startDate endDate connection).failure ≠ none := stopped
    have fed : (feedPass rt startDate endDate connection).raised = none := ended
    rw [rows,if_neg failed,Pass.map,Pass.map,feedPass_rows fed]

theorem VendorOrFeed.timed (law : VendorOrFeed rt startDate endDate connection) :
    ∀ record ∈ (reading rt startDate endDate connection).reached,
      ∀ now, record.give now = .ok record.own := by
  have gives : ∀ now, ∀ record ∈ (reading rt startDate endDate connection).reached,
      ∃ rows, record.give now = .ok rows := fun now => given_of_ends (law.ends fun _ => now)
  have late : givenAt (reading rt startDate endDate connection) (endDate + 1) =
      rowsOf (reading rt startDate endDate connection).reached := by
    refine List.flatMap_congr fun record listed => ?_
    obtain ⟨rows,given⟩ := gives (endDate + 1) record listed
    rw [given,record.late rows given]
    rfl
  intro record listed now
  have lengths : (givenAt (reading rt startDate endDate connection) now).length =
      (rowsOf (reading rt startDate endDate connection).reached).length := by
    have rows := stream_rows (law.ends fun _ => now)
    rw [law.repeatable (fun _ => now) fun _ => endDate + 1,stream_rows (law.ends _),late] at rows
    have both := congrArg List.length (List.append_cancel_right rows)
    rw [List.length_map,List.length_map] at both
    exact both.symm
  have longer : ∀ record ∈ (reading rt startDate endDate connection).reached,
      rowsIn (record.give now) = record.own ∨
        record.own.length < (rowsIn (record.give now)).length := by
    intro record listed
    obtain ⟨rows,given⟩ := gives now record listed
    rw [given]
    exact record.more now rows given
  have same := same_of_length longer lengths record listed
  obtain ⟨rows,given⟩ := gives now record listed
  rw [given] at same ⊢
  exact congrArg Except.ok same

theorem VendorOrFeed.undivided (law : VendorOrFeed rt startDate endDate connection) :
    Undivided rt startDate endDate connection := by
  have timed := law.timed
  have own : givenAt (reading rt startDate endDate connection) 0 =
      rowsOf (reading rt startDate endDate connection).reached := by
    refine List.flatMap_congr fun record listed => ?_
    rw [timed record listed 0]
    rfl
  have rows := stream_rows (law.ends fun _ => 0)
  rw [own] at rows
  have unmixed := law.unmixed fun _ => 0
  rw [rows] at unmixed
  refine ⟨timed,fun stopped => ?_,fun failure stopped => ?_⟩
  · rw [if_pos stopped] at unmixed
    rcases unmixed with complete | feed
    · exact Or.inl (vendor_only_iff.mp complete).1
    · obtain ⟨none,empty⟩ := feed_only_iff.mp feed
      exact Or.inr ⟨none,empty.symm⟩
  · have there : (reading rt startDate endDate connection).failure ≠ none := by
      rw [stopped]
      simp
    rw [if_neg there] at unmixed
    have ends := law.ends fun _ => 0
    unfold streamCostAndUsage at ends
    rw [vendorPass_timed timed,stopped] at ends
    rcases Pass.orElse_ends ends with ⟨never,_⟩ | ⟨_,ended,_⟩
    · cases never
    · have caught : failure = .external := by
        by_contra other
        have uncaught : StreamFailure.isExternal failure = false := decide_eq_false other
        simp only [Pass.orElse,Pass.map,uncaught] at ends
        cases ends
      refine ⟨caught,feedPass_ends.mp ended,?_⟩
      rcases unmixed with complete | feed
      · exact Or.inr (vendor_only_iff.mp complete)
      · exact Or.inl (feed_only_iff.mp feed).1

namespace Sample

def invoice (id : String) : Json :=
  .obj [("id",.str id),("created",.int 1000),("amount_paid",.int 4500)]

/-- The second page of two is not answered; the feed tells of the same spend. -/
def interrupted : NativeConnection where
  history := .stripe [[(noRates.lookup,invoice "in_1")],[(noRates.lookup,invoice "in_2")]]
  answered := some 1
  feed := [.obj [("timestamp",.int 1000),("cost_usd",.int 90)]]

end Sample

open Sample in
/-- A first page of invoices and the whole feed are handed over. -/
theorem feed_after_first_page : ¬VendorOrFeed feedRuntime 0 86400000000 interrupted := by
  intro law
  obtain ⟨_,_,either⟩ := law.undivided.failed .external rfl
  have read : (rowsOf (reading feedRuntime 0 86400000000 interrupted).reached).length = 1 := by
    decide +kernel
  have fed : (feedRows feedRuntime 0 86400000000 interrupted).length = 1 := by decide +kernel
  rcases either with none | ⟨_,empty⟩
  · rw [none] at read
    contradiction
  · rw [empty] at fed
    contradiction

/-- A stream hands over the vendor's records or the feed's, exactly if every record that it reads
has a time and a row of its own, it reads all of them or fails before the first row of one. -/
theorem vendor_or_feed_iff (rt : FeedRuntime) (startDate endDate : Nat)
    (connection : NativeConnection) :
    VendorOrFeed rt startDate endDate connection ↔ Undivided rt startDate endDate connection :=
  ⟨VendorOrFeed.undivided,Undivided.unmixed⟩

end Streams

end Valdrics.Reporting

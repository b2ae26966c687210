import Valdrics.CostFeeds

/-! Which rows of the feeds are in dollars. An adapter that cannot convert an amount streams the
local amount as its dollars, and the usage report and the billing export are never converted. -/
namespace Valdrics.Reporting

open Enforcement (Json Uuid)
open ZombieScan (Item)

namespace FeedRuntime

variable (rt : FeedRuntime)

def dollars (hold : Decimal → Decimal) (moment : Moment) (amount : Decimal) (currency : String) :
    Option Decimal :=
  if currency = "USD" then some amount
  else (rt.convertToUsd moment amount currency).toOption.map hold

/-- The dollars of what a record states; there are none if a conversion fails. A ledger's entry may
state them itself, and those of a group are the sum of its members'. -/
def sourceDollars (moment : Moment) : SourceRecord → Option Decimal
  | .stripe (.obj invoice) => (rt.invoiceAmount invoice).bind fun amount =>
    rt.dollars rt.python.viaFloat moment amount (rt.currencyCode (Item.entry invoice "currency"))
  | .salesforce (.obj record) => (rt.asFloat (Item.entry record "TotalPrice") zero 1).bind fun amount =>
    rt.dollars rt.python.viaFloat moment amount (rt.currencyCode (Item.entry record "CurrencyIsoCode"))
  | .cloudKitty connectorConfig (.obj result) =>
    (rt.asFloat (Item.entry result "rate") zero 1).bind fun amount =>
      rt.dollars rt.python.viaFloat moment amount (rt.currencyCode (connectorConfig.entry "currency"))
  | .ledger _ (.obj entry) =>
    if rt.isNumber (costCandidate entry) then rt.asFloat (costCandidate entry) zero 1
    else (rt.asFloat (rawCandidate entry) zero 1).bind fun amount =>
      rt.dollars rt.python.viaFloat moment amount (rt.currencyCode (Item.entry entry "currency"))
  | .cur columns row => (rt.curAmount columns row).bind fun amount =>
    rt.dollars id moment amount (rt.curText columns row "currency" "USD")
  | .gcp _ members => (members.mapM fun row => rt.dollars id moment row.cost row.currency).map
    fun amounts => rt.python.viaFloat (sumOf amounts)
  | _ => none

def Convertible (moment : Moment) (currency : String) : Prop :=
  rt.normalizeCurrency currency = "USD" ∨ ∃ rate, moment.lookup (rt.normalizeCurrency currency) = .ok rate

def converted (moment : Moment) (amount : Decimal) (currency : String) : Decimal :=
  (rt.convertToUsd moment amount currency).toOption.getD amount

/-- The record states dollars or its amount can be converted; the two sources that are not
converted have amounts that a conversion would leave as they are. -/
def InDollars (moment : Moment) : SourceRecord → Prop
  | .stripe (.obj invoice) => rt.Convertible moment (rt.currencyCode (Item.entry invoice "currency"))
  | .salesforce (.obj record) =>
    rt.Convertible moment (rt.currencyCode (Item.entry record "CurrencyIsoCode"))
  | .cloudKitty connectorConfig (.obj _) =>
    rt.Convertible moment (rt.currencyCode (connectorConfig.entry "currency"))
  | .ledger _ (.obj entry) => rt.isNumber (costCandidate entry) = true ∨
    rt.Convertible moment (rt.currencyCode (Item.entry entry "currency"))
  | .cur columns row => rt.Convertible moment (rt.curText columns row "currency" "USD") ∧
    ∀ amount, rt.curAmount columns row = some amount →
      rt.converted moment amount (rt.curText columns row "currency" "USD") = amount
  | .gcp _ members => (∀ row ∈ members, rt.Convertible moment row.currency) ∧
    rt.python.viaFloat (sumOf (members.map fun row => rt.converted moment row.cost row.currency)) =
      rt.python.viaFloat (sumOf (members.map (·.cost)))
  | _ => True

end FeedRuntime

structure FeedIngestion where
  call : Ingestion
  startDate : Nat
  endDate : Nat
  feed : CostFeed
  batchesSaved : Nat

namespace FeedRuntime

variable (rt : FeedRuntime)

def emitted (event : FeedIngestion) : List Emission :=
  rt.stream event.startDate event.endDate event.feed

def ingestFeed (table : Table) (event : FeedIngestion) : Table :=
  (((batches ((rt.emitted event).map (·.record.value))).take event.batchesSaved).foldlM
    (rt.database.bulkUpsert event.call) table).getD table

def EmitsDollars (run : List FeedIngestion) : Prop :=
  ∀ event ∈ run, ∀ emission ∈ rt.emitted event,
    rt.sourceDollars emission.moment emission.source = some emission.record.costUsd

def StoresDollars (run : List FeedIngestion) (row : CostRow) (emission : Emission) : Prop :=
  ∃ event ∈ run, emission ∈ rt.emitted event ∧ row.key = emission.record.value.key event.call ∧
    (rt.sourceDollars emission.moment emission.source).bind costColumn = some row.costUsd

def dollarUnits (emission : Emission) : Int :=
  ((rt.sourceDollars emission.moment emission.source).bind costColumn).getD 0

end FeedRuntime

section Conversions

open FeedRuntime

variable {rt : FeedRuntime} {moment : Moment} {amount cost : Decimal} {currency : String}

theorem normalizeCurrency_usd : rt.normalizeCurrency "USD" = "USD" :=
  rt.text.upper_capitals (by decide)

theorem convertToUsd_convertible (there : rt.Convertible moment currency) :
    rt.convertToUsd moment amount currency = .ok (rt.converted moment amount currency) := by
  rcases there with dollar | ⟨rate,found⟩
  · simp [converted,convertToUsd,dollar,Except.toOption]
  · by_cases dollar : rt.normalizeCurrency currency = "USD"
    · simp [converted,convertToUsd,dollar,Except.toOption]
    · simp only [converted,convertToUsd,if_neg dollar,found]
      rfl

theorem convertToUsd_fails (amount : Decimal) (missing : ¬rt.Convertible moment currency) :
    ∃ error, rt.convertToUsd moment amount currency = .error error := by
  simp only [Convertible,not_or,not_exists] at missing
  cases answer : moment.lookup (rt.normalizeCurrency currency) with
  | error error =>
    refine ⟨error,?_⟩
    simp only [convertToUsd,if_neg missing.1,answer]
    rfl
  | ok rate => exact absurd answer (missing.2 rate)

theorem convertible_usd : rt.Convertible moment "USD" := .inl normalizeCurrency_usd

theorem converted_usd : rt.converted moment amount "USD" = amount := by
  simp [converted,convertToUsd,normalizeCurrency_usd,Except.toOption]

theorem dollars_convertible (hold : Decimal → Decimal) (other : currency ≠ "USD")
    (there : rt.Convertible moment currency) :
    rt.dollars hold moment amount currency = some (hold (rt.converted moment amount currency)) := by
  simp [dollars,other,convertToUsd_convertible there,Except.toOption]

theorem dollars_missing (hold : Decimal → Decimal) (missing : ¬rt.Convertible moment currency) :
    rt.dollars hold moment amount currency = none := by
  have other : currency ≠ "USD" := by
    rintro rfl
    exact missing convertible_usd
  obtain ⟨error,fails⟩ := convertToUsd_fails amount missing
  simp [dollars,other,fails,Except.toOption]

theorem dollars_id (there : rt.Convertible moment currency) :
    rt.dollars id moment amount currency = some (rt.converted moment amount currency) := by
  by_cases dollar : currency = "USD"
  · subst dollar
    simp [dollars,converted_usd]
  · exact dollars_convertible id dollar there

theorem costUsd_iff (made : rt.costUsd moment amount currency = some cost) :
    rt.dollars rt.python.viaFloat moment amount currency = some cost ↔
      rt.Convertible moment currency := by
  by_cases there : rt.Convertible moment currency
  · refine ⟨fun _ => there,fun _ => ?_⟩
    by_cases dollar : currency = "USD"
    · simpa [dollars,dollar,costUsd] using made
    · rw [dollars_convertible _ dollar there]
      simpa [costUsd,dollar,convertToUsd_convertible there] using made
  · simp [there,dollars_missing _ there]

theorem usageCost_iff : rt.dollars id moment amount currency = some amount ↔
    rt.Convertible moment currency ∧ rt.converted moment amount currency = amount := by
  by_cases there : rt.Convertible moment currency
  · simp [there,dollars_id there]
  · simp [there,dollars_missing _ there]

theorem memberDollars_eq {members : List ExportRow}
    (there : ∀ row ∈ members, rt.Convertible moment row.currency) :
    members.mapM (fun row => rt.dollars id moment row.cost row.currency) =
      some (members.map fun row => rt.converted moment row.cost row.currency) := by
  induction members with
  | nil => rfl
  | cons row members ih =>
    rw [List.mapM_cons,dollars_id (there row List.mem_cons_self),
      ih fun other listed => there other (List.mem_cons_of_mem _ listed)]
    rfl

theorem memberDollars_missing {members : List ExportRow} {row : ExportRow} (listed : row ∈ members)
    (missing : ¬rt.Convertible moment row.currency) :
    members.mapM (fun row => rt.dollars id moment row.cost row.currency) = none := by
  induction members with
  | nil => simp at listed
  | cons first members ih =>
    rw [List.mapM_cons]
    rcases List.mem_cons.mp listed with rfl | later
    · rw [dollars_missing _ missing]
      rfl
    · rw [ih later]
      cases rt.dollars id moment first.cost first.currency <;> rfl

theorem groupCost_iff {members : List ExportRow} :
    ((members.mapM fun row => rt.dollars id moment row.cost row.currency).map
        fun amounts => rt.python.viaFloat (sumOf amounts)) =
      some (rt.python.viaFloat (sumOf (members.map (·.cost)))) ↔
    (∀ row ∈ members, rt.Convertible moment row.currency) ∧
      rt.python.viaFloat (sumOf (members.map fun row => rt.converted moment row.cost row.currency)) =
        rt.python.viaFloat (sumOf (members.map (·.cost))) := by
  by_cases there : ∀ row ∈ members, rt.Convertible moment row.currency
  · rw [memberDollars_eq there,Option.map_some,Option.some_inj]
    exact ⟨fun same => ⟨there,same⟩,fun both => both.2⟩
  · refine ⟨fun same => ?_,fun both => absurd both.1 there⟩
    push Not at there
    obtain ⟨row,listed,missing⟩ := there
    rw [memberDollars_missing listed missing] at same
    simp at same

end Conversions

section Rows

open FeedRuntime

variable {rt : FeedRuntime} {startDate endDate : Nat} {moment : Moment} {source : SourceRecord}
  {record : StreamRecord}

theorem stripe_dollars {invoice : Json} {row : FeedRow}
    (made : rt.stripeRow startDate endDate moment invoice = some (some row)) :
    rt.sourceDollars moment (.stripe invoice) = some row.costUsd ↔
      rt.InDollars moment (.stripe invoice) := by
  cases invoice with
  | obj invoice =>
    simp only [stripeRow,Option.bind_eq_bind,Option.bind_eq_some_iff] at made
    obtain ⟨timestamp,-,made⟩ := made
    split at made
    · simp at made
    · obtain ⟨amount,stated,cost,converts,made⟩ := by
        simpa only [Option.bind_eq_bind,Option.bind_eq_some_iff] using made
      obtain rfl := Option.some.inj (Option.some.inj made)
      simp only [sourceDollars,stated,Option.bind_some]
      exact costUsd_iff converts
  | _ => simp [stripeRow] at made

theorem salesforce_dollars {entry : Json} {row : FeedRow}
    (made : rt.salesforceRow startDate endDate moment entry = some (some row)) :
    rt.sourceDollars moment (.salesforce entry) = some row.costUsd ↔
      rt.InDollars moment (.salesforce entry) := by
  cases entry with
  | obj entry =>
    simp only [salesforceRow,Option.bind_eq_bind,Option.bind_eq_some_iff] at made
    obtain ⟨timestamp,-,made⟩ := made
    split at made
    · simp at made
    · obtain ⟨amount,stated,cost,converts,made⟩ := by
        simpa only [Option.bind_eq_bind,Option.bind_eq_some_iff] using made
      obtain rfl := Option.some.inj (Option.some.inj made)
      simp only [sourceDollars,stated,Option.bind_some]
      exact costUsd_iff converts
  | _ => simp [salesforceRow] at made

theorem cloudKitty_dollars {connectorConfig : Item} {result : Json} {row : FeedRow}
    (made : rt.cloudKittyRow connectorConfig moment result = some (some row)) :
    rt.sourceDollars moment (.cloudKitty connectorConfig result) = some row.costUsd ↔
      rt.InDollars moment (.cloudKitty connectorConfig result) := by
  cases result with
  | obj result =>
    simp only [cloudKittyRow] at made
    split at made
    · simp at made
    · obtain ⟨rate,stated,cost,converts,made⟩ := by
        simpa only [Option.bind_eq_bind,Option.bind_eq_some_iff] using made
      obtain rfl := Option.some.inj (Option.some.inj made)
      simp only [sourceDollars,stated,Option.bind_some]
      exact costUsd_iff converts
  | _ => simp [cloudKittyRow] at made

theorem ledgerAmounts_dollars {entry : Item} {cost : Decimal} {raw : Option Decimal} {vendor : String}
    (made : rt.ledgerAmounts moment entry (rt.currencyCode (entry.entry "currency")) =
      some (some (cost,raw))) :
    rt.sourceDollars moment (.ledger vendor (.obj entry)) = some cost ↔
      rt.InDollars moment (.ledger vendor (.obj entry)) := by
  simp only [sourceDollars,InDollars]
  by_cases stated : rt.isNumber (costCandidate entry) = true
  · simp only [ledgerAmounts,stated,if_true,Option.bind_eq_bind,Option.bind_eq_some_iff] at made
    obtain ⟨amount,read,made⟩ := made
    have same : amount = cost := by
      split at made
      · simp at made
        exact made.1
      · obtain ⟨_,-,made⟩ := by simpa only [Option.bind_eq_bind,Option.bind_eq_some_iff] using made
        simp at made
        exact made.1
    simp [stated,read,same]
  · simp only [ledgerAmounts,if_neg stated] at made
    split at made
    · obtain ⟨amount,read,dollar,converts,made⟩ := by
        simpa only [Option.bind_eq_bind,Option.bind_eq_some_iff] using made
      simp at made
      obtain ⟨rfl,-⟩ := made
      simp only [stated,read,Option.bind_some,false_or,Bool.false_eq_true,if_false]
      exact costUsd_iff converts
    · simp at made

theorem ledger_dollars {vendor : String} {entry : Json} {row : FeedRow}
    (made : rt.ledgerRow vendor startDate endDate moment entry = some (some row)) :
    rt.sourceDollars moment (.ledger vendor entry) = some row.costUsd ↔
      rt.InDollars moment (.ledger vendor entry) := by
  cases entry with
  | obj entry =>
    simp only [ledgerRow] at made
    split at made
    · simp at made
    · split at made
      · simp at made
      · obtain ⟨amounts,read,made⟩ := by
          simpa only [Option.bind_eq_bind,Option.bind_eq_some_iff] using made
        cases amounts with
        | none => simp at made
        | some amounts =>
          obtain rfl := Option.some.inj (Option.some.inj made)
          exact ledgerAmounts_dollars read
  | _ => simp [ledgerRow] at made

theorem cur_dollars {columns : List String} {row : CurRow} {made : FeedRow}
    (parsed : rt.parseCurRow columns row = some made) :
    rt.sourceDollars moment (.cur columns row) = some made.costUsd ↔
      rt.InDollars moment (.cur columns row) := by
  obtain ⟨amount,read,made'⟩ := by
    simpa only [parseCurRow,Option.bind_eq_bind,Option.bind_eq_some_iff] using parsed
  obtain rfl := Option.some.inj made'
  simp only [sourceDollars,InDollars,read,Option.bind_some,Option.some.injEq,forall_eq']
  exact usageCost_iff

theorem streamRecord_dollars (made : rt.streamRecord startDate endDate moment source = some (some record)) :
    rt.sourceDollars moment source = some record.costUsd ↔ rt.InDollars moment source := by
  cases source with
  | gcp group members =>
    obtain rfl := Option.some.inj (Option.some.inj made)
    exact groupCost_iff
  | cur columns row =>
    obtain ⟨row',parsed,rfl⟩ := Option.map_eq_some_iff.mp (Option.some.inj made)
    exact cur_dollars parsed
  | stripe invoice =>
    obtain ⟨kept,streamed,kept'⟩ := Option.map_eq_some_iff.mp made
    obtain ⟨row,rfl,rfl⟩ := Option.map_eq_some_iff.mp kept'
    exact stripe_dollars streamed
  | salesforce entry =>
    obtain ⟨kept,streamed,kept'⟩ := Option.map_eq_some_iff.mp made
    obtain ⟨row,rfl,rfl⟩ := Option.map_eq_some_iff.mp kept'
    exact salesforce_dollars streamed
  | cloudKitty connectorConfig result =>
    obtain ⟨kept,streamed,kept'⟩ := Option.map_eq_some_iff.mp made
    obtain ⟨row,rfl,rfl⟩ := Option.map_eq_some_iff.mp kept'
    exact cloudKitty_dollars streamed
  | ledger vendor entry =>
    obtain ⟨kept,streamed,kept'⟩ := Option.map_eq_some_iff.mp made
    obtain ⟨row,rfl,rfl⟩ := Option.map_eq_some_iff.mp kept'
    exact ledger_dollars streamed

theorem emissions_made {sources : List (Moment × SourceRecord)} {emission : Emission}
    (listed : emission ∈ rt.emissions startDate endDate sources) :
    rt.streamRecord startDate endDate emission.moment emission.source = some (some emission.record) := by
  induction sources with
  | nil => simp [emissions] at listed
  | cons first rest ih =>
    simp only [emissions] at listed
    split at listed
    · simp at listed
    · exact ih listed
    · next made =>
      rcases List.mem_cons.mp listed with rfl | later
      · exact made
      · exact ih later

theorem stream_made {feed : CostFeed} {emission : Emission}
    (listed : emission ∈ rt.stream startDate endDate feed) :
    rt.streamRecord startDate endDate emission.moment emission.source = some (some emission.record) := by
  cases feed with
  | cur moment files =>
    obtain ⟨file,-,inFile⟩ := List.mem_flatMap.mp listed
    exact emissions_made (List.mem_of_mem_take inFile)
  | stripe invoices => exact emissions_made listed
  | salesforce records => exact emissions_made listed
  | cloudKitty connectorConfig results => exact emissions_made listed
  | ledger vendor entries => exact emissions_made listed
  | gcp moment exported => exact emissions_made listed

end Rows

section Stores

open FeedRuntime Database

variable {database : Database} {call : Ingestion} {table next : Table}

theorem foldlM_rows (held : CostKey → Int → Prop) {values : List CostValue} (keyed : Keyed table)
    (before : ∀ row ∈ table.rows, held row.key row.costUsd)
    (writes : ∀ value ∈ values, ∀ units, costColumn value.costUsd = some units →
      held (value.key call) units)
    (written : values.foldlM (database.upsertRow call) table = some next) :
    Keyed next ∧ ∀ row ∈ next.rows, held row.key row.costUsd := by
  induction values generalizing table with
  | nil =>
    obtain rfl := Option.some.inj written
    exact ⟨keyed,before⟩
  | cons value values ih =>
    simp only [List.foldlM_cons,Option.bind_eq_bind,Option.bind_eq_some_iff] at written
    obtain ⟨middle,first,rest⟩ := written
    refine ih (upsertRow_writes keyed first).keyed ?_
      (fun later listed => writes later (List.mem_cons_of_mem _ listed)) rest
    simp only [Database.upsertRow,Option.bind_eq_bind,Option.bind_eq_some_iff] at first
    obtain ⟨units,column,wrote⟩ := first
    have fresh := writes value List.mem_cons_self units column
    cases found : database.target table.rows call value with
    | none =>
      rw [found] at wrote
      obtain rfl := Option.some.inj wrote
      intro row listed
      rcases List.mem_append.mp listed with old | new
      · exact before row old
      · obtain rfl := List.mem_singleton.mp new
        exact fresh
    | some target =>
      rw [found] at wrote
      obtain rfl := Option.some.inj wrote
      intro row listed
      obtain ⟨other,old,rfl⟩ := List.mem_map.mp listed
      by_cases same : other.id = target.id
      · obtain rfl := keyed.unique old (target_mem found) same
        have agrees : database.sameKey (value.key call) other.key := by
          simpa using List.find?_some found
        rw [if_pos rfl]
        show held other.key units
        rw [← agrees.1]
        exact fresh
      · rw [if_neg same]
        exact before other old

theorem batches_rows (held : CostKey → Int → Prop) {chunks : List (List CostValue)} (keyed : Keyed table)
    (before : ∀ row ∈ table.rows, held row.key row.costUsd)
    (writes : ∀ value ∈ chunks.flatten, ∀ units, costColumn value.costUsd = some units →
      held (value.key call) units)
    (written : chunks.foldlM (database.bulkUpsert call) table = some next) :
    Keyed next ∧ ∀ row ∈ next.rows, held row.key row.costUsd := by
  induction chunks generalizing table with
  | nil =>
    obtain rfl := Option.some.inj written
    exact ⟨keyed,before⟩
  | cons chunk chunks ih =>
    simp only [List.foldlM_cons,Option.bind_eq_bind,Option.bind_eq_some_iff] at written
    obtain ⟨middle,first,rest⟩ := written
    have one : chunk.foldlM (database.upsertRow call) table = some middle := by
      simp only [Database.bulkUpsert] at first
      split at first
      · simp at first
      · exact first
    obtain ⟨keyed',held'⟩ := foldlM_rows held keyed before
      (fun value listed => writes value (List.mem_append_left _ listed)) one
    exact ih keyed' held' (fun value listed => writes value (List.mem_append_right _ listed)) rest

variable {rt : FeedRuntime} {run : List FeedIngestion}

theorem ingestFeed_stores (emits : rt.EmitsDollars run) {event : FeedIngestion} (listed : event ∈ run)
    (keyed : Keyed table) (before : ∀ row ∈ table.rows, ∃ emission, rt.StoresDollars run row emission) :
    Keyed (rt.ingestFeed table event) ∧
      ∀ row ∈ (rt.ingestFeed table event).rows, ∃ emission, rt.StoresDollars run row emission := by
  simp only [ingestFeed]
  cases written : ((batches ((rt.emitted event).map (·.record.value))).take event.batchesSaved).foldlM
      (rt.database.bulkUpsert event.call) table with
  | none => exact ⟨keyed,before⟩
  | some next =>
    refine batches_rows (fun key units => ∃ emission, ∃ event ∈ run,
      emission ∈ rt.emitted event ∧ key = emission.record.value.key event.call ∧
      (rt.sourceDollars emission.moment emission.source).bind costColumn = some units)
      keyed before ?_ written
    intro value inBatch units column
    have streamed : value ∈ (rt.emitted event).map (·.record.value) := by
      rw [← batches_flatten ((rt.emitted event).map (·.record.value))]
      obtain ⟨chunk,taken,inChunk⟩ := List.mem_flatten.mp inBatch
      exact List.mem_flatten.mpr ⟨chunk,List.mem_of_mem_take taken,inChunk⟩
    obtain ⟨emission,emitted,rfl⟩ := List.mem_map.mp streamed
    refine ⟨emission,event,listed,emitted,rfl,?_⟩
    rw [emits event listed emission emitted]
    exact column

theorem run_stores (emits : rt.EmitsDollars run) :
    ∀ row ∈ (run.foldl rt.ingestFeed {}).rows, ∃ emission, rt.StoresDollars run row emission := by
  have every : ∀ events : List FeedIngestion, (∀ event ∈ events, event ∈ run) → ∀ table, Keyed table →
      (∀ row ∈ table.rows, ∃ emission, rt.StoresDollars run row emission) →
      ∀ row ∈ (events.foldl rt.ingestFeed table).rows,
        ∃ emission, rt.StoresDollars run row emission := by
    intro events
    induction events with
    | nil => intro _ table _ before; exact before
    | cons event events ih =>
      intro within table keyed before
      obtain ⟨keyed',after⟩ := ingestFeed_stores emits (within event List.mem_cons_self) keyed before
      exact ih (fun later listed => within later (List.mem_cons_of_mem _ listed)) _ keyed' after
  have empty : Keyed {} := ⟨List.nodup_nil,fun row listed => absurd listed List.not_mem_nil⟩
  exact every run (fun event listed => listed) {} empty fun row listed =>
    absurd listed List.not_mem_nil

theorem storedRows_total {rows : List CostRow}
    (stored : ∀ row ∈ rows, ∃ emission, rt.StoresDollars run row emission) :
    ∃ kept, List.Forall₂ (rt.StoresDollars run) rows kept ∧
      (rows.map (·.costUsd)).sum = (kept.map rt.dollarUnits).sum := by
  induction rows with
  | nil => exact ⟨[],.nil,rfl⟩
  | cons row rows ih =>
    obtain ⟨emission,stores⟩ := stored row List.mem_cons_self
    obtain ⟨kept,all,same⟩ := ih fun other listed => stored other (List.mem_cons_of_mem _ listed)
    refine ⟨emission :: kept,.cons stores all,?_⟩
    obtain ⟨_,_,_,_,column⟩ := stores
    simp only [List.map_cons,List.sum_cons,same,dollarUnits,column,Option.getD_some]

/-- The rows that a run streams cost the dollars of their records exactly if each of these is in
dollars or is converted; then so do the stored rows, and their sums are sums of dollars. -/
theorem emitsDollars_iff (rt : FeedRuntime) (run : List FeedIngestion) :
    (rt.EmitsDollars run ↔ ∀ event ∈ run, ∀ emission ∈ rt.emitted event,
      rt.InDollars emission.moment emission.source) ∧
    (rt.EmitsDollars run → ∀ rows, rows.Sublist (run.foldl rt.ingestFeed {}).rows →
      ∃ kept, List.Forall₂ (rt.StoresDollars run) rows kept ∧
        (rows.map (·.costUsd)).sum = (kept.map rt.dollarUnits).sum) := by
  refine ⟨⟨fun emits event listed emission emitted => ?_,fun holds event listed emission emitted => ?_⟩,
    fun emits rows within => ?_⟩
  · exact (streamRecord_dollars (stream_made emitted)).mp (emits event listed emission emitted)
  · exact (streamRecord_dollars (stream_made emitted)).mpr (holds event listed emission emitted)
  · exact storedRows_total fun row listed => run_stores emits row (within.subset listed)

theorem FeedRuntime.EmitsDollars.pairs (emits : rt.EmitsDollars run) {event : FeedIngestion}
    (listed : event ∈ run) : ∀ pair ∈ (rt.emitted event).map fun emission =>
      (rt.sourceDollars emission.moment emission.source,emission.record.costUsd),
    pair.1 = some pair.2 := by
  intro pair made
  obtain ⟨emission,emitted,rfl⟩ := List.mem_map.mp made
  exact emits event listed emission emitted

end Stores

namespace Sample

def asciiUppercase : Uppercase where
  upper text := String.ofList (text.toList.map Char.toUpper)
  ascii := by
    intro text capitals
    have same : ∀ c ∈ text.toList, Char.toUpper c = c := by
      intro c listed
      have capital : c.val.toNat ≤ 90 := (capitals c listed).2
      have small : ¬(97 : UInt32) ≤ c.val := by
        intro least
        have : 97 ≤ c.val.toNat := UInt32.le_iff_toNat_le.mp least
        omega
      exact dif_neg fun both => small both.1
    rw [List.map_congr_left same,List.map_id',String.ofList_toList]

def feedRuntime : FeedRuntime where
  python := { text := .asciiOnly,floatText := Decimal.text,repr := fun _ => "" }
  text := asciiUppercase
  fromIso _ := none
  fromUnix seconds := .ok (seconds.scaled 6).toNat
  postgresql := true

def noRates : Moment := ⟨2000000000,fun _ => .error .recoverable⟩

def euroRate : Moment := ⟨2000000000,fun _ => .ok ⟨9,-1⟩⟩

def ingesting (feed : CostFeed) : FeedIngestion :=
  ⟨⟨1,2,true,none⟩,0,129600000000,feed,1⟩

def euroInvoice : Json :=
  .obj [("id",.str "in_1"),("created",.int 1000),("amount_paid",.int 4500),("currency",.str "eur")]

def euroUsage : CurChunk where
  columns := ["lineItem/UsageStartDate","lineItem/UnblendedCost","lineItem/CurrencyCode"]
  rows := [⟨3600000000,[("lineItem/UnblendedCost",.int 45),("lineItem/CurrencyCode",.str "EUR")]⟩]

def euroExport : ExportRow :=
  { usageStartTime := 3600000000,service := "BigQuery",cost := ⟨45,0⟩,currency := "EUR" }

end Sample

open Sample in
/-- An invoice in euros without a rate, and a usage report and an export in euros with one, are
streamed with their euros as dollars. -/
theorem euros_streamed_as_dollars :
    ¬feedRuntime.EmitsDollars [ingesting (.stripe [(noRates,euroInvoice)])] ∧
    ¬feedRuntime.EmitsDollars [ingesting (.cur euroRate [[euroUsage]])] ∧
    ¬feedRuntime.EmitsDollars [ingesting (.gcp euroRate [euroExport])] := by
  refine ⟨fun emits => ?_,fun emits => ?_,fun emits => ?_⟩
  · exact absurd (emits.pairs (List.mem_singleton_self _)) (by decide +kernel)
  · exact absurd (emits.pairs (List.mem_singleton_self _)) (by decide +kernel)
  · exact absurd (emits.pairs (List.mem_singleton_self _)) (by decide +kernel)

end Valdrics.Reporting

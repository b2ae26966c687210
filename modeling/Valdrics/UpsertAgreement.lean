import Valdrics.CostUpserts
import Valdrics.Runs

/-! When the two back ends of `bulk_upsert` agree. The statement refuses what the loop passes over
(a missing cost or currency, a key twice in a batch), inserts where the loop finds a row without a
usage type, and overwrites what the loop keeps. -/
namespace Valdrics.CostUpsert

def Bare (incoming : List Incoming) (rows : List CostRecord) : Prop :=
  ∃ front first back, incoming = front ++ first :: back ∧ first.costUsd = none ∧
    (∀ row ∈ rows, row.key ≠ first.key) ∧ ∀ earlier ∈ front, earlier.key ≠ first.key

/-- Writing over the row loses nothing that the loop keeps. -/
structure Kept (row : CostRecord) (incoming : Incoming) : Prop where
  usageAmount : incoming.usageAmount = none → row.usageAmount = none
  usageUnit : incoming.values.usageUnit = none → row.usageUnit = none
  amountRaw : incoming.amountRaw = none → row.amountRaw = none
  preliminary : incoming.values.costStatus ≠ "FINAL" → row.costStatus = "FINAL" →
    row.isPreliminary = false

structure Lossless (incoming : List Incoming) (rows : List CostRecord) : Prop where
  complete : ∀ new ∈ incoming, new.complete = true
  distinct : (incoming.map Incoming.key).Nodup
  typed : ∀ new ∈ incoming, new.values.usageType = none → ∀ row ∈ rows, row.key ≠ new.key
  kept : ∀ new ∈ incoming, ∀ row ∈ rows, row.key = new.key → Kept row new

/-- A batch that both refuse, or one that both write alike. -/
def Settles (values : List CostValues) (rows : List CostRecord) : Prop :=
  match values.mapM CostValues.columns with
  | none => True
  | some incoming => Bare incoming rows ∨ Lossless incoming rows

theorem shard_eq_nil {rows : List CostRecord} {key : CostKey} :
    fallback.shard rows key = [] ↔ ∀ row ∈ rows, row.key ≠ key := by
  simp only [Upsert.Writer.shard,List.filter_eq_nil_iff,decide_eq_true_eq]
  rfl

theorem mem_shard {rows : List CostRecord} {key : CostKey} {row : CostRecord} :
    row ∈ fallback.shard rows key ↔ row ∈ rows ∧ row.key = key := by
  simp only [Upsert.Writer.shard,List.mem_filter,decide_eq_true_eq]
  rfl

theorem shard_write_same (rows : List CostRecord) (new : Incoming) :
    fallback.shard (fallback.write rows new) new.key =
      fallback.write (fallback.shard rows new.key) new :=
  (fallback.shard_write rows new new.key).trans (if_pos rfl)

theorem shard_write_other (rows : List CostRecord) {new : Incoming} {key : CostKey}
    (apart : new.key ≠ key) :
    fallback.shard (fallback.write rows new) key = fallback.shard rows key :=
  (fallback.shard_write rows new key).trans (if_neg apart)

theorem shard_write_self (rows : List CostRecord) (new : Incoming) :
    fallback.shard (fallback.write rows new) new.key ≠ [] := by
  rw [shard_write_same,Upsert.Writer.write]
  split
  next filled =>
    intro gone
    have length := fallback.length_changeFirst new (fallback.shard rows new.key)
    rw [gone] at length
    refine filled.2 ((fallback.shard_shard rows new.key).trans ?_)
    exact List.length_eq_zero_iff.mp length.symm
  next => simp

theorem bare_cons (new : Incoming) (rest : List Incoming) (rows : List CostRecord) :
    Bare (new :: rest) rows ↔
      (fallback.shard rows new.key = [] ∧ new.costUsd = none) ∨ Bare rest (fallback.write rows new) := by
  constructor
  · rintro ⟨front,first,back,eq,costless,absent,before⟩
    cases front with
    | nil =>
      obtain ⟨rfl,-⟩ := List.cons.inj eq
      exact .inl ⟨shard_eq_nil.mpr absent,costless⟩
    | cons head front =>
      obtain ⟨rfl,rfl⟩ := List.cons.inj eq
      obtain ⟨apart,before⟩ := List.forall_mem_cons.mp before
      refine .inr ⟨front,first,back,rfl,costless,?_,before⟩
      rw [← shard_eq_nil,shard_write_other rows apart]
      exact shard_eq_nil.mpr absent
  · rintro (⟨absent,costless⟩ | ⟨front,first,back,rfl,costless,absent,before⟩)
    · exact ⟨[],new,rest,rfl,costless,shard_eq_nil.mp absent,by simp⟩
    · have apart : new.key ≠ first.key := by
        intro same
        have gone := shard_eq_nil.mpr absent
        rw [← same] at gone
        exact shard_write_self rows new gone
      rw [← shard_eq_nil,shard_write_other rows apart] at absent
      exact ⟨new :: front,first,back,rfl,costless,shard_eq_nil.mp absent,
        List.forall_mem_cons.mpr ⟨apart,before⟩⟩

theorem fallback_fold (incoming : List Incoming) (rows : List CostRecord) :
    (Bare incoming rows → incoming.foldlM fallbackRow rows = none) ∧
      (¬Bare incoming rows →
        incoming.foldlM fallbackRow rows = some (incoming.foldl fallback.write rows)) := by
  induction incoming generalizing rows with
  | nil =>
    refine ⟨?_,fun _ => rfl⟩
    rintro ⟨front,first,back,eq,-⟩
    simp at eq
  | cons new rest ih =>
    rw [bare_cons,List.foldlM_cons,fallbackRow]
    by_cases fails : fallback.shard rows new.key = [] ∧ new.costUsd = none
    · rw [if_pos fails]
      exact ⟨fun _ => rfl,fun sound => absurd (.inl fails) sound⟩
    · rw [if_neg fails]
      obtain ⟨bare,sound⟩ := ih (fallback.write rows new)
      refine ⟨fun either => bare (either.resolve_left fails),fun neither => ?_⟩
      exact sound fun later => neither (.inr later)

theorem kept_option {α : Type} (new old : Option α) :
    new = new.or old ↔ (new = none → old = none) := by
  cases new <;> cases old <;> simp

/-- The clause and the loop leave the same row exactly if the clause loses nothing. -/
theorem overwrite_eq_merge {row : CostRecord} {new : Incoming} (own : row.key = new.key)
    (complete : new.complete = true) (named : new.values.costStatus ≠ "") :
    overwrite row new = merge row new ↔ Kept row new := by
  have status : incomingStatus row new.values = new.values.costStatus := by
    simp [incomingStatus,PythonText.orDefault,named]
  have usageType : row.key.usageType = new.values.usageType := congrArg CostKey.usageType own
  obtain ⟨cost,hasCost⟩ := Option.isSome_iff_exists.mp (Bool.and_eq_true_iff.mp complete).1
  obtain ⟨currency,hasCurrency⟩ := Option.isSome_iff_exists.mp (Bool.and_eq_true_iff.mp complete).2
  have preliminary :
      (overwrite row new).isPreliminary = (merge row new).isPreliminary ↔
        (new.values.costStatus ≠ "FINAL" → row.costStatus = "FINAL" → row.isPreliminary = false) := by
    simp only [overwrite,merge,status]
    by_cases final : new.values.costStatus = "FINAL"
    · simp [final]
    · by_cases before : row.costStatus = "FINAL"
      · simp [final,before]
      · simp [final,before]
  constructor
  · intro same
    exact {
      usageAmount := (kept_option ..).mp (congrArg CostRecord.usageAmount same)
      usageUnit := (kept_option ..).mp (congrArg CostRecord.usageUnit same)
      amountRaw := (kept_option ..).mp (congrArg CostRecord.amountRaw same)
      preliminary := preliminary.mp (congrArg CostRecord.isPreliminary same) }
  · intro kept
    have flag := preliminary.mpr kept.preliminary
    have amount := (kept_option ..).mpr kept.usageAmount
    have unit := (kept_option ..).mpr kept.usageUnit
    have raw := (kept_option ..).mpr kept.amountRaw
    have stays : ∀ other : String, (if row.costStatus = "FINAL" then row.costStatus else other) =
        if row.costStatus = "FINAL" then "FINAL" else other := by
      intro other
      split
      next final => exact final
      next => rfl
    simp only [overwrite,merge,status] at flag ⊢
    simp only [← amount,← unit,← raw,flag,stays,usageType,hasCost,hasCurrency,Option.getD_some,
      Option.or_self]

theorem eq_singleton {α : Type} {values : List α} {value : α} (short : values.length ≤ 1)
    (mem : value ∈ values) : values = [value] := by
  obtain ⟨only,rfl⟩ := List.length_eq_one_iff.mp (le_antisymm short (List.length_pos_of_mem mem))
  rw [List.mem_singleton.mp mem]

def newcomers (incoming : List Incoming) (key : CostKey) : List Incoming :=
  incoming.filter fun new => new.key = key

theorem mem_newcomers {incoming : List Incoming} {key : CostKey} {new : Incoming} :
    new ∈ newcomers incoming key ↔ new ∈ incoming ∧ new.key = key := by
  simp [newcomers]

theorem perm_iff_newcomers {incoming : List Incoming} {rows : List CostRecord} :
    (incoming.foldl postgres.write rows).Perm (incoming.foldl fallback.write rows) ↔
      ∀ key, ((newcomers incoming key).foldl postgres.write (fallback.shard rows key)).Perm
        ((newcomers incoming key).foldl fallback.write (fallback.shard rows key)) := by
  refine fallback.perm_iff_shards.trans (forall_congr' fun key => ?_)
  have statement := postgres.shard_writes incoming rows key
  have loop := fallback.shard_writes incoming rows key
  exact iff_of_eq (congrArg₂ List.Perm statement loop)

theorem nodup_of_newcomers {incoming : List Incoming}
    (single : ∀ key, (newcomers incoming key).length ≤ 1) : (incoming.map Incoming.key).Nodup := by
  refine List.nodup_iff_count_le_one.mpr fun key => ?_
  rw [← Upsert.length_filter_eq_count]
  exact single key

theorem newcomers_single {incoming : List Incoming} (distinct : (incoming.map Incoming.key).Nodup)
    (key : CostKey) : (newcomers incoming key).length ≤ 1 := by
  rw [newcomers,Upsert.length_filter_eq_count]
  exact List.nodup_iff_count_le_one.mp distinct key

theorem shard_single {rows : List CostRecord} (unique : UniqueRows rows) {key : CostKey}
    (complete : key.complete = true) : (fallback.shard rows key).length ≤ 1 := by
  have once := List.nodup_iff_count_le_one.mp unique key
  rw [List.count_filter complete,← Upsert.length_filter_eq_count] at once
  exact once

theorem typed_complete {new : Incoming} (typed : new.values.usageType.isSome = true) :
    new.key.complete = true := by
  simp [CostKey.complete,Incoming.key,typed]

theorem untyped_alone {news : List Incoming} {key : CostKey} {rows : List CostRecord}
    (own : ∀ new ∈ news, new.key = key) (untyped : key.usageType = none)
    (all : fallback.shard rows key = rows) (some : news ≠ [])
    (perm : (news.foldl postgres.write rows).Perm (news.foldl fallback.write rows)) :
    news.length = 1 ∧ rows = [] := by
  have missed : ∀ new ∈ news, postgres.finds new = false := by
    intro new mem
    have none : new.values.usageType = none := (congrArg CostKey.usageType (own new mem)).trans untyped
    simp [postgres,none]
  have appended := postgres.length_writes missed rows
  have bounded := fallback.length_writes_le (fun _ _ => rfl) own all
  have filled := List.length_pos_iff.mpr some
  rw [← perm.length_eq,appended] at bounded
  refine ⟨by omega,List.length_eq_zero_iff.mp (by omega)⟩

theorem typed_single {incoming : List Incoming} (apart : incoming.Pairwise fun a b => ¬conflicts a b)
    {key : CostKey} (typed : key.usageType.isSome = true) : (newcomers incoming key).length ≤ 1 := by
  have pairwise := apart.filter fun new => new.key = key
  have clash : ∀ a ∈ newcomers incoming key, ∀ b ∈ newcomers incoming key, conflicts a b := by
    intro a memA b memB
    have ownA := (mem_newcomers.mp memA).2
    have ownB := (mem_newcomers.mp memB).2
    refine ⟨?_,ownA.trans ownB.symm⟩
    rwa [← ownA] at typed
  change (newcomers incoming key).Pairwise _ at pairwise
  generalize newcomers incoming key = news at pairwise clash
  rcases news with _ | ⟨a,_ | ⟨b,rest⟩⟩
  · simp
  · simp
  · have refused := (List.pairwise_cons.mp pairwise).1 b (by simp)
    exact absurd (clash a (by simp) b (by simp)) refused

theorem fallback_single {row : CostRecord} {new : Incoming} (own : row.key = new.key) :
    fallback.write [row] new = [merge row new] := fallback.write_single own rfl

theorem postgres_single {row : CostRecord} {new : Incoming} (own : row.key = new.key)
    (typed : new.values.usageType.isSome = true) :
    postgres.write [row] new = [overwrite row new] := postgres.write_single own typed

/-- What is left of a table is what `Lossless` says, once the statement accepts the batch. -/
theorem perm_iff_lossless {incoming : List Incoming} {rows : List CostRecord}
    (unique : UniqueRows rows) (complete : ∀ new ∈ incoming, new.complete = true)
    (named : ∀ new ∈ incoming, new.values.costStatus ≠ "")
    (apart : incoming.Pairwise fun a b => ¬conflicts a b) :
    (incoming.foldl postgres.write rows).Perm (incoming.foldl fallback.write rows) ↔
      Lossless incoming rows := by
  rw [perm_iff_newcomers]
  constructor
  · intro perm
    have alone : ∀ new ∈ incoming, new.values.usageType = none →
        (newcomers incoming new.key).length = 1 ∧ fallback.shard rows new.key = [] := by
      intro new mem untyped
      refine untyped_alone (fun other mem => (mem_newcomers.mp mem).2) untyped
        (fallback.shard_shard rows new.key) ?_ (perm new.key)
      exact List.ne_nil_of_mem (mem_newcomers.mpr ⟨mem,rfl⟩)
    have single : ∀ key, (newcomers incoming key).length ≤ 1 := by
      intro key
      by_cases typed : key.usageType.isSome = true
      · exact typed_single apart typed
      · by_contra many
        obtain ⟨new,found⟩ := List.exists_mem_of_length_pos (show 0 < (newcomers incoming key).length by
          omega)
        obtain ⟨mem,rfl⟩ := mem_newcomers.mp found
        exact many (alone new mem (Option.not_isSome_iff_eq_none.mp typed)).1.le
    refine ⟨complete,nodup_of_newcomers single,?_,?_⟩
    · intro new mem untyped
      exact shard_eq_nil.mp (alone new mem untyped).2
    · intro new mem row held own
      have stored : row ∈ fallback.shard rows new.key := mem_shard.mpr ⟨held,own⟩
      have typed : new.values.usageType.isSome = true := by
        by_contra untyped
        rw [(alone new mem (Option.not_isSome_iff_eq_none.mp untyped)).2] at stored
        exact List.not_mem_nil stored
      have same := perm new.key
      rw [eq_singleton (single new.key) (mem_newcomers.mpr ⟨mem,rfl⟩),
        eq_singleton (shard_single unique (typed_complete typed)) stored,List.foldl_cons,
        List.foldl_cons,List.foldl_nil,List.foldl_nil,postgres_single own typed,fallback_single own,
        List.singleton_perm_singleton] at same
      exact (overwrite_eq_merge own (complete new mem) (named new mem)).mp same
  · intro lossless key
    have single := newcomers_single lossless.distinct key
    by_cases none : newcomers incoming key = []
    · rw [none]
      exact .refl _
    · obtain ⟨new,found⟩ := List.exists_mem_of_ne_nil _ none
      obtain ⟨mem,rfl⟩ := mem_newcomers.mp found
      rw [eq_singleton single found,List.foldl_cons,List.foldl_cons,List.foldl_nil,List.foldl_nil]
      by_cases stored : fallback.shard rows new.key = []
      · rw [stored,Upsert.Writer.write_nil,Upsert.Writer.write_nil]
        exact .refl _
      · obtain ⟨row,held⟩ := List.exists_mem_of_ne_nil _ stored
        obtain ⟨inTable,own⟩ := mem_shard.mp held
        have typed : new.values.usageType.isSome = true := by
          by_contra untyped
          exact lossless.typed new mem (Option.not_isSome_iff_eq_none.mp untyped) row inTable own
        have same := (overwrite_eq_merge own (complete new mem) (named new mem)).mpr
          (lossless.kept new mem row inTable own)
        rw [eq_singleton (shard_single unique (typed_complete typed)) held,postgres_single own typed,
          fallback_single own,same]

theorem pairwise_of_distinct {incoming : List Incoming}
    (distinct : (incoming.map Incoming.key).Nodup) :
    incoming.Pairwise fun a b => ¬conflicts a b := by
  have apart := List.pairwise_map.mp distinct
  exact apart.imp fun differ clash => differ clash.2

section Branches

variable {values : List CostValues} {incoming : List Incoming} {rows : List CostRecord}
variable (columns : values.mapM CostValues.columns = some incoming)

include columns

theorem bulkUpsert_postgresql : bulkUpsert true values rows =
    if incoming.all Incoming.complete = true ∧ incoming.Pairwise fun a b => ¬conflicts a b then
      some (incoming.foldl postgres.write rows)
    else none := by
  cases values with
  | nil =>
    obtain rfl : [] = incoming := by simpa using columns
    simp [bulkUpsert]
  | cons head rest => simp [bulkUpsert,postgresUpsert,columns]

theorem bulkUpsert_fallback : bulkUpsert false values rows = incoming.foldlM fallbackRow rows := by
  cases values with
  | nil =>
    obtain rfl : [] = incoming := by simpa using columns
    rfl
  | cons head rest => simp [bulkUpsert,fallbackUpsert,columns]

end Branches

theorem bulkUpsert_refused {values : List CostValues} {rows : List CostRecord}
    (columns : values.mapM CostValues.columns = none) (postgresql : Bool) :
    bulkUpsert postgresql values rows = none := by
  cases values with
  | nil => simp at columns
  | cons head rest =>
    cases postgresql with
    | true => simp [bulkUpsert,postgresUpsert,columns]
    | false => simp [bulkUpsert,fallbackUpsert,columns]

theorem bare_incomplete {incoming : List Incoming} {rows : List CostRecord} (bare : Bare incoming rows) :
    ¬incoming.all Incoming.complete = true := by
  obtain ⟨front,first,back,rfl,costless,-⟩ := bare
  simp [Incoming.complete,costless]

/-- The columns take a row of the batch without its status. -/
theorem columns_values {values : CostValues} {incoming : Incoming}
    (columns : values.columns = some incoming) : incoming.values = values := by
  simp only [CostValues.columns,Option.bind_eq_bind,Option.bind_eq_some_iff,Option.pure_def,
    Option.some.injEq] at columns
  obtain ⟨_,-,_,-,_,-,rfl⟩ := columns
  rfl

theorem batch_named {call : Ingestion} {batch : Batch} {values : CostValues}
    (mem : values ∈ batch.values call) : values.costStatus ≠ "" := by
  have status : values.costStatus = call.costStatus := by
    cases batch with
    | summary provider records =>
      obtain ⟨record,-,rfl⟩ := List.mem_map.mp mem
      rfl
    | stream records =>
      obtain ⟨record,-,rfl⟩ := List.mem_map.mp mem
      rfl
  rw [status,Ingestion.costStatus]
  split
  next => decide
  next => decide

/-- A batch whose amounts fit their columns. -/
theorem agree_iff_of_columns {values : List CostValues} {incoming : List Incoming}
    {rows : List CostRecord} (columns : values.mapM CostValues.columns = some incoming)
    (named : ∀ row ∈ values, row.costStatus ≠ "") (unique : UniqueRows rows) :
    BackEndsAgree values rows ↔ Bare incoming rows ∨ Lossless incoming rows := by
  have named : ∀ new ∈ incoming, new.values.costStatus ≠ "" := by
    intro new mem
    obtain ⟨row,there,taken⟩ := mapM_mem columns mem
    rw [columns_values taken]
    exact named row there
  rw [BackEndsAgree,bulkUpsert_postgresql columns,bulkUpsert_fallback columns]
  obtain ⟨fails,returns⟩ := fallback_fold incoming rows
  by_cases bare : Bare incoming rows
  · rw [fails bare,if_neg fun accepted => bare_incomplete bare accepted.1]
    exact iff_of_true (.inl ⟨rfl,rfl⟩) (.inl bare)
  · rw [returns bare,or_iff_right bare]
    by_cases accepted : incoming.all Incoming.complete = true ∧
        incoming.Pairwise fun a b => ¬conflicts a b
    · rw [if_pos accepted]
      have complete := List.all_eq_true.mp accepted.1
      simpa using perm_iff_lossless unique complete named accepted.2
    · rw [if_neg accepted]
      refine iff_of_false (by simp) fun lossless => accepted ⟨?_,?_⟩
      · exact List.all_eq_true.mpr lossless.complete
      · exact pairwise_of_distinct lossless.distinct

/-- For every table under the constraint and every batch, the back ends agree exactly if both refuse
the batch or it is one that both write alike. -/
theorem backEndsAgree_iff (call : Ingestion) (batch : Batch) (rows : List CostRecord)
    (unique : UniqueRows rows) :
    BackEndsAgree (batch.values call) rows ↔ Settles (batch.values call) rows := by
  cases columns : (batch.values call).mapM CostValues.columns with
  | none =>
    have refused : ∀ postgresql, bulkUpsert postgresql (batch.values call) rows = none :=
      bulkUpsert_refused columns
    simp [Settles,columns,BackEndsAgree,refused]
  | some incoming =>
    rw [agree_iff_of_columns columns (fun _ => batch_named) unique,Settles,columns]

def nightly : Ingestion where
  tenantId := 1
  accountId := 2
  isPreliminary := false
  reconciliationRunId := none
  mapCanonicalChargeCategory := fun _ _ _ => ⟨"compute",none,"focus-1.3-v1"⟩

def hour (amountRaw : Option Decimal) : SummaryRecord where
  date := 0
  amount := ⟨5,0⟩
  amountRaw := amountRaw
  currency := "EUR"
  service := some "AmazonEC2"
  region := some "eu-west-1"
  usageType := some "BoxUsage"
  tags := []
  lineage := .obj []

def hourIncoming (amountRaw : Option Int) (record : SummaryRecord) : Incoming :=
  ⟨nightly.summaryValues none record,none,some 500000000,amountRaw⟩

def booked : CostRecord := (hourIncoming (some 400000000) (hour (some ⟨4,0⟩))).newRow

theorem booked_unique : UniqueRows [booked] := (List.nodup_singleton _).filter _

/-- The same hour with its raw amount again. -/
theorem rebooked_agrees :
    UniqueRows [booked] ∧
      BackEndsAgree ((Batch.summary none [hour (some ⟨4,0⟩)]).values nightly) [booked] := by
  refine ⟨booked_unique,?_⟩
  refine (backEndsAgree_iff nightly (.summary none [hour (some ⟨4,0⟩)]) [booked] booked_unique).mpr ?_
  have columns : ((Batch.summary none [hour (some ⟨4,0⟩)]).values nightly).mapM CostValues.columns =
      some [hourIncoming (some 400000000) (hour (some ⟨4,0⟩))] := by rfl
  rw [Settles,columns]
  refine .inr ⟨?_,List.nodup_singleton _,?_,?_⟩
  · intro new mem
    obtain rfl := List.mem_singleton.mp mem
    rfl
  · intro new mem untyped
    obtain rfl := List.mem_singleton.mp mem
    exact absurd untyped (by decide)
  · intro new mem row held _
    obtain rfl := List.mem_singleton.mp mem
    obtain rfl := List.mem_singleton.mp held
    refine ⟨fun _ => rfl,fun _ => rfl,fun missing => ?_,fun _ _ => rfl⟩
    exact absurd missing (by decide)

/-- Without it the statement clears the raw amount, and the loop keeps it. -/
theorem cleared_raw_amount :
    ¬∀ call batch rows, UniqueRows rows → BackEndsAgree (Batch.values call batch) rows := by
  intro always
  have columns : ((Batch.summary none [hour none]).values nightly).mapM CostValues.columns =
      some [hourIncoming none (hour none)] := by rfl
  have agree := (agree_iff_of_columns columns (fun _ => batch_named) booked_unique).mp
    (always nightly (.summary none [hour none]) [booked] booked_unique)
  rcases agree with ⟨front,first,back,listed,costless,-⟩ | lossless
  · have mem : first ∈ [hourIncoming none (hour none)] := by simp [listed]
    obtain rfl := List.mem_singleton.mp mem
    exact absurd costless (by decide)
  · have kept := (lossless.kept _ List.mem_cons_self booked List.mem_cons_self rfl).amountRaw rfl
    exact absurd kept (by decide)

end Valdrics.CostUpsert

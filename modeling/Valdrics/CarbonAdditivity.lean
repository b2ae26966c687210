import Mathlib.Tactic.Linarith
import Mathlib.Tactic.Ring
import Valdrics.CarbonCalculator

/-! The totals of a footprint are sums over the rows: what a row that cannot be read may add and
raise for that, and which charges the two entry points count alike. -/
namespace Valdrics.Carbon

open Enforcement (Json)
open JsonValue (truthy)
open PythonText
open Calculator

structure FactorPayload (texts : Runtime) where
  entries : List (String × Json)
  day : Nat
  accepted : validatePayload texts entries = .ok day

structure Charge (rt : ZombieScan.Runtime) where
  provider : String
  service : String
  value : Json
  amount : Decimal
  reads : Decimal.parse (rt.str value) = some (.finite amount)

def Charge.row {rt : ZombieScan.Runtime} (charge : Charge rt) : Json :=
  .obj [("provider",.str charge.provider),("service",.str charge.service),
    ("cost_usd",charge.value)]

def Charge.record {rt : ZombieScan.Runtime} (charge : Charge rt) : CostEntry :=
  ⟨charge.provider,charge.service,rat charge.amount⟩

section Statement

variable (rt : ZombieScan.Runtime) (payload : List (String × Json)) (region provider : String)

def fromCosts (costData : List Json) : Except Raised Footprint := do
  let calculator ← CarbonCalculator.ofPayload rt payload
  calculator.calculateFromCosts rt costData region provider

def fromRecords (records : List CostEntry) : Except Raised Footprint := do
  let calculator ← CarbonCalculator.ofPayload rt payload
  calculator.calculateFromRecords rt records region provider

def wellFormed (row : Json) : Bool :=
  match CarbonCalculator.ofPayload rt payload with
  | .ok calculator => (calculator.readRow rt provider row).2.isNone
  | .error _ => false

/-- The calculation returns, with the totals of the rows that are well formed; they are the sums
over any split, and those of the rows in any order. -/
structure SurvivesBadRows (costData : List Json) : Prop where
  cleaned : ∃ footprint clean, fromCosts rt payload region provider costData = .ok footprint ∧
    fromCosts rt payload region provider (costData.filter (wellFormed rt payload provider)) =
      .ok clean ∧ footprint.totals = clean.totals
  split : ∀ front back, costData = front ++ back → ∃ footprint one two,
    fromCosts rt payload region provider costData = .ok footprint ∧
    fromCosts rt payload region provider front = .ok one ∧
    fromCosts rt payload region provider back = .ok two ∧
      footprint.totals = one.totals + two.totals
  permuted : ∀ costData', costData.Perm costData' → ∃ footprint other,
    fromCosts rt payload region provider costData = .ok footprint ∧
    fromCosts rt payload region provider costData' = .ok other ∧ footprint.totals = other.totals

def EntryPointsAgree (charges : List (Charge rt)) : Prop :=
  ∃ footprint other, fromCosts rt payload region provider (charges.map Charge.row) = .ok footprint ∧
    fromRecords rt payload region provider (charges.map Charge.record) = .ok other ∧
    footprint.totals = other.totals

/-- The calculator reads its constants, an intensity for the region, and numbers to compare the
intensities by. -/
structure Readable (calculator : CarbonCalculator) : Prop where
  constructed : CarbonCalculator.ofPayload rt payload = .ok calculator
  intensity : ∃ value, calculator.carbonIntensity region = .ok value
  comparable : ∃ entries, calculator.comparable = .ok entries

def Harmless (calculator : CarbonCalculator) (row : Json) : Prop :=
  ∀ failure, (calculator.readRow rt provider row).2 = some failure →
    failure.caught = true ∧ (calculator.readRow rt provider row).1 = 0

def Countable (calculator : CarbonCalculator) (charge : Charge rt) : Prop :=
  0 ≤ rat charge.amount ∧ ∃ energyFactor,
    calculator.resolveEnergyFactor rt (orDefault charge.provider provider) (.str charge.service) =
      .ok energyFactor

end Statement

namespace CarbonCalculator

variable {rt : ZombieScan.Runtime} {calculator : CarbonCalculator} {region provider : String}

def Costs (counted : Counted) : Prop := 0 ≤ counted.1 ∧ (counted.1 = 0 → counted = 0)

theorem costs_zero : Costs 0 := ⟨le_refl _,fun _ => rfl⟩

theorem Costs.add {a b : Counted} (one : Costs a) (two : Costs b) : Costs (a + b) := by
  obtain ⟨nonneg,free⟩ := one
  obtain ⟨nonneg',free'⟩ := two
  refine ⟨add_nonneg nonneg nonneg',fun zero => ?_⟩
  have sum : a.1 + b.1 = 0 := zero
  rw [free (by linarith),free' (by linarith),add_zero]

theorem costs_of_pos {counted : Counted} (positive : 0 < counted.1) : Costs counted :=
  ⟨positive.le,fun zero => absurd zero positive.ne'⟩

theorem spend_costs (service : Json) (amount : DecimalValue) :
    Costs (calculator.spend rt provider service amount).1 := by
  cases amount with
  | nan => exact costs_zero
  | infinite negative => cases negative <;> exact costs_zero
  | finite number =>
    rw [spend]
    split
    next positive => split <;> exact costs_of_pos positive
    next => exact costs_zero

theorem readGroups_costs (groups : List Json) :
    Costs (calculator.readGroups rt provider groups).1 := by
  induction groups with
  | nil => exact costs_zero
  | cons group rest ih =>
    rw [readGroups]
    split
    next => exact costs_zero
    next service amount _ =>
      have costs : Costs (calculator.spend rt provider service amount).1 := spend_costs service amount
      split
      next spent => rwa [spent] at costs
      next spent =>
        rw [spent] at costs
        exact costs.add ih

theorem readRow_costs (row : Json) : Costs (calculator.readRow rt provider row).1 := by
  unfold readRow
  split
  · split
    · split
      · exact readGroups_costs _
      · exact costs_zero
      · exact costs_zero
      · exact costs_zero
    · split
      · split
        · exact costs_zero
        · exact spend_costs _ _
      · split
        · exact costs_zero
        · exact spend_costs _ _
  · exact costs_zero

def counted (rt : ZombieScan.Runtime) (calculator : CarbonCalculator) (provider : String)
    (rows : List Json) : Counted :=
  (rows.map fun row => (calculator.readRow rt provider row).1).sum

def Passes (rt : ZombieScan.Runtime) (calculator : CarbonCalculator) (provider : String)
    (row : Json) : Prop :=
  ∀ failure, (calculator.readRow rt provider row).2 = some failure → failure.caught = true

theorem readRows_iff {rows : List Json} {total : Counted} :
    calculator.readRows rt provider rows = .ok total ↔
      (∀ row ∈ rows, Passes rt calculator provider row) ∧
        total = counted rt calculator provider rows := by
  induction rows generalizing total with
  | nil => simp [readRows,counted,eq_comm,Except.ok.injEq]
  | cons row rest ih =>
    have whole : counted rt calculator provider (row :: rest) =
        (calculator.readRow rt provider row).1 + counted rt calculator provider rest := by
      simp [counted]
    rw [readRows,List.forall_mem_cons,whole]
    cases stopped : (calculator.readRow rt provider row).2.filter fun failure =>
        !failure.caught with
    | some failure =>
      obtain ⟨raised,uncaught⟩ := Option.filter_eq_some_iff.mp stopped
      simp only [stopped,reduceCtorEq,false_iff,not_and]
      rintro ⟨passes,_⟩
      rw [passes failure raised] at uncaught
      simp at uncaught
    | none =>
      have passes : Passes rt calculator provider row := by
        intro failure raised
        have := Option.filter_eq_none_iff.mp stopped failure raised
        simpa using this
      simp only [stopped]
      cases later : calculator.readRows rt provider rest with
      | error failure =>
        have none : ¬∀ row ∈ rest, Passes rt calculator provider row := by
          intro all
          have := ih.mpr ⟨all,rfl⟩
          simp [later] at this
        simp [Except.map,none]
      | ok more =>
        obtain ⟨all,rfl⟩ := ih.mp later
        refine ⟨fun same => ⟨⟨passes,all⟩,(Except.ok.inj same).symm⟩,?_⟩
        rintro ⟨_,rfl⟩
        rfl

/-! Sums over the rows. -/

theorem counted_append (front back : List Json) :
    counted rt calculator provider (front ++ back) =
      counted rt calculator provider front + counted rt calculator provider back := by
  simp [counted]

theorem counted_perm {rows rows' : List Json} (perm : rows.Perm rows') :
    counted rt calculator provider rows = counted rt calculator provider rows' :=
  (perm.map _).sum_eq

theorem counted_costs (rows : List Json) : Costs (counted rt calculator provider rows) := by
  induction rows with
  | nil => exact costs_zero
  | cons row rest ih =>
    have whole : counted rt calculator provider (row :: rest) =
        (calculator.readRow rt provider row).1 + counted rt calculator provider rest := by
      simp [counted]
    rw [whole]
    exact (readRow_costs row).add ih

theorem counted_filter (keep : Json → Bool) (rows : List Json) :
    counted rt calculator provider rows = counted rt calculator provider (rows.filter keep) +
      counted rt calculator provider (rows.filter fun row => !keep row) := by
  rw [← counted_append]
  exact counted_perm (List.filter_append_perm keep rows).symm

theorem counted_eq_zero {rows : List Json} :
    counted rt calculator provider rows = 0 ↔
      ∀ row ∈ rows, (calculator.readRow rt provider row).1 = 0 := by
  induction rows with
  | nil => simp [counted]
  | cons row rest ih =>
    have whole : counted rt calculator provider (row :: rest) =
        (calculator.readRow rt provider row).1 + counted rt calculator provider rest := by
      simp [counted]
    rw [whole,List.forall_mem_cons,← ih]
    constructor
    · intro zero
      have own : Costs (calculator.readRow rt provider row).1 := readRow_costs row
      have others : Costs (counted rt calculator provider rest) := counted_costs rest
      obtain ⟨nonneg,free⟩ := own
      obtain ⟨nonneg',free'⟩ := others
      have sum : (calculator.readRow rt provider row).1.1 +
          (counted rt calculator provider rest).1 = 0 := congrArg Prod.fst zero
      exact ⟨free (by linarith),free' (by linarith)⟩
    · rintro ⟨one,two⟩
      rw [one,two,add_zero]

def totals (calculator : CarbonCalculator) (carbonIntensity : Int) (total : Counted) :
    Rat × Rat × Rat :=
  let energyWithPue := total.2 * calculator.cloudPue
  (total.1,energyWithPue,energyWithPue * carbonIntensity / 1000 +
    energyWithPue * calculator.embodiedEmissionsFactor)

theorem totals_add (carbonIntensity : Int) (one two : Counted) :
    calculator.totals carbonIntensity (one + two) =
      calculator.totals carbonIntensity one + calculator.totals carbonIntensity two := by
  simp only [totals,Prod.fst_add,Prod.snd_add,Prod.mk_add_mk,Prod.mk.injEq,true_and]
  constructor <;> ring

theorem finalize_ok {total : Counted} {footprint : Footprint}
    (done : calculator.finalizeCalculation rt total region provider = .ok footprint) :
    ∃ value, calculator.carbonIntensity region = .ok value ∧
      (∃ entries, calculator.comparable = .ok entries) ∧
      footprint.totals = calculator.totals value total := by
  cases read : calculator.carbonIntensity region with
  | error failure => simp [finalizeCalculation,read,bind,Except.bind] at done
  | ok value =>
    cases compared : calculator.comparable with
    | error failure =>
      simp [finalizeCalculation,greenRegions,read,compared,bind,Except.bind] at done
    | ok entries =>
      simp only [finalizeCalculation,greenRegions,read,compared,bind,Except.bind,pure,Except.pure,
        Except.ok.injEq] at done
      subst done
      exact ⟨value,rfl,⟨entries,rfl⟩,rfl⟩

theorem finalize_exists {total : Counted} {value : Int} {entries : List (String × Rat)}
    (read : calculator.carbonIntensity region = .ok value)
    (compared : calculator.comparable = .ok entries) :
    ∃ footprint, calculator.finalizeCalculation rt total region provider = .ok footprint ∧
      footprint.totals = calculator.totals value total := by
  cases done : calculator.finalizeCalculation rt total region provider with
  | error failure =>
    simp [finalizeCalculation,greenRegions,read,compared,bind,Except.bind,pure,Except.pure] at done
  | ok footprint =>
    obtain ⟨value',read',_,same⟩ := finalize_ok done
    rw [read] at read'
    rw [Except.ok.inj read']
    exact ⟨footprint,rfl,same⟩

/-! The loop over records. -/

theorem readRecords_ok {records : List CostEntry} {total : Counted}
    (run : calculator.readRecords rt provider records = .ok total) :
    (∀ record ∈ records, ∃ energyFactor,
      calculator.resolveEnergyFactor rt (orDefault record.provider provider) (.str record.service) =
        .ok energyFactor) ∧ total.1 = (records.map CostEntry.costUsd).sum := by
  induction records generalizing total with
  | nil =>
    obtain rfl : (0 : Counted) = total := Except.ok.inj run
    exact ⟨by simp,rfl⟩
  | cons record rest ih =>
    rw [readRecords] at run
    cases resolved : calculator.resolveEnergyFactor rt (orDefault record.provider provider)
        (.str record.service) with
    | error failure => simp [resolved,bind,Except.bind] at run
    | ok energyFactor =>
      cases later : calculator.readRecords rt provider rest with
      | error failure => simp [resolved,later,bind,Except.bind] at run
      | ok more =>
        obtain ⟨all,sum⟩ := ih later
        simp only [resolved,later,bind,Except.bind,pure,Except.pure,Except.ok.injEq] at run
        subst run
        refine ⟨List.forall_mem_cons.mpr ⟨⟨energyFactor,resolved⟩,all⟩,?_⟩
        rw [Prod.fst_add,sum,List.map_cons,List.sum_cons]

theorem readRow_charge (charge : Charge rt) :
    calculator.readRow rt provider charge.row =
      calculator.spend rt (orDefault charge.provider provider)
        (.str (orDefault charge.service "default")) (.finite charge.amount) := by
  have service : textOr rt [("provider",.str charge.provider),("service",.str charge.service),
      ("cost_usd",charge.value)] "service" "default" = orDefault charge.service "default" := by
    by_cases empty : charge.service = "" <;>
      simp [textOr,ZombieScan.orElse,ZombieScan.Item.entry,List.lookup_cons,JsonValue.truthy,orDefault,
        ZombieScan.Runtime.str,empty]
  have account : textOr rt [("provider",.str charge.provider),("service",.str charge.service),
      ("cost_usd",charge.value)] "provider" provider = orDefault charge.provider provider := by
    by_cases empty : charge.provider = "" <;>
      simp [textOr,ZombieScan.orElse,ZombieScan.Item.entry,JsonValue.truthy,orDefault,
        ZombieScan.Runtime.str,empty]
  have cost : readCost rt [("provider",.str charge.provider),("service",.str charge.service),
      ("cost_usd",charge.value)] = .ok (.finite charge.amount) := by
    have held : ZombieScan.Item.entry [("provider",.str charge.provider),
        ("service",.str charge.service),("cost_usd",charge.value)] "cost_usd" = charge.value := rfl
    rw [readCost,held,decimal,charge.reads]
  have groups : truthy (ZombieScan.Item.entry [("provider",.str charge.provider),
      ("service",.str charge.service),("cost_usd",charge.value)] "Groups") = false := rfl
  have there : (List.lookup "cost_usd" [("provider",Json.str charge.provider),
      ("service",.str charge.service),("cost_usd",charge.value)]).isSome = true := rfl
  rw [Charge.row,readRow,groups,there,cost,service,account]
  rfl

theorem resolve_default (account service : String) :
    calculator.resolveEnergyFactor rt account (.str (orDefault service "default")) =
      calculator.resolveEnergyFactor rt account (.str service) := by
  have key : ZombieScan.orElse (.str (orDefault service "default")) (.str "default") =
      ZombieScan.orElse (.str service) (.str "default") := by
    by_cases empty : service = "" <;> simp [ZombieScan.orElse,JsonValue.truthy,orDefault,empty]
  rw [resolveEnergyFactor,resolveEnergyFactor,key]

theorem charge_cost (charge : Charge rt) :
    (calculator.readRow rt provider charge.row).1.1 = max 0 (rat charge.amount) := by
  rw [readRow_charge,spend]
  split
  next positive =>
    rw [max_eq_right positive.le]
    split <;> rfl
  next credit => rw [max_eq_left (not_lt.mp credit)]; rfl

theorem countable_row {charge : Charge rt} (countable : Countable rt provider calculator charge) :
    ∃ energyFactor, calculator.resolveEnergyFactor rt (orDefault charge.provider provider)
        (.str charge.service) = .ok energyFactor ∧
      calculator.readRow rt provider charge.row =
        ((rat charge.amount,rat charge.amount * energyFactor),none) := by
  obtain ⟨nonneg,energyFactor,resolved⟩ := countable
  refine ⟨energyFactor,resolved,?_⟩
  rw [readRow_charge,spend,resolve_default,resolved]
  split
  next => rfl
  next credit =>
    have zero : rat charge.amount = 0 := le_antisymm (not_lt.mp credit) nonneg
    rw [zero,zero_mul]
    rfl

theorem readRecords_countable {charges : List (Charge rt)}
    (countable : ∀ charge ∈ charges, Countable rt provider calculator charge) :
    calculator.readRecords rt provider (charges.map Charge.record) =
      .ok (counted rt calculator provider (charges.map Charge.row)) := by
  induction charges with
  | nil => rfl
  | cons charge rest ih =>
    obtain ⟨own,others⟩ := List.forall_mem_cons.mp countable
    obtain ⟨energyFactor,resolved,row⟩ := countable_row own
    have first : calculator.resolveEnergyFactor rt (orDefault charge.record.provider provider)
        (.str charge.record.service) = .ok energyFactor := resolved
    simp only [List.map_cons,readRecords,first,ih others,bind,Except.bind,pure,Except.pure]
    simp [counted,row,Charge.record]

theorem costs_agree {charges : List (Charge rt)}
    (same : (counted rt calculator provider (charges.map Charge.row)).1 =
      ((charges.map Charge.record).map CostEntry.costUsd).sum) :
    ∀ charge ∈ charges, 0 ≤ rat charge.amount := by
  have sum : ∀ charges : List (Charge rt),
      (counted rt calculator provider (charges.map Charge.row)).1 =
        (charges.map fun charge => max 0 (rat charge.amount)).sum := by
    intro charges
    induction charges with
    | nil => rfl
    | cons charge rest ih =>
      have whole : counted rt calculator provider ((charge :: rest).map Charge.row) =
          (calculator.readRow rt provider charge.row).1 +
            counted rt calculator provider (rest.map Charge.row) := by
        simp [counted]
      rw [whole,Prod.fst_add,ih,charge_cost,List.map_cons,List.sum_cons]
  rw [sum,List.map_map] at same
  intro charge listed
  by_contra credit
  have less := List.sum_lt_sum (l := charges) (rat ∘ Charge.amount)
    (fun charge => max 0 (rat charge.amount)) (fun charge _ => le_max_right _ _)
    ⟨charge,listed,lt_of_lt_of_le (not_le.mp credit) (le_max_left _ _)⟩
  exact less.ne same.symm

end CarbonCalculator

section Runs

open CarbonCalculator

variable {rt : ZombieScan.Runtime} {payload : List (String × Json)} {region provider : String}
  {calculator : CarbonCalculator} {rows : List Json} {footprint : Footprint}

theorem fromCosts_ok (run : fromCosts rt payload region provider rows = .ok footprint) :
    ∃ calculator value, Readable rt payload region calculator ∧
      calculator.carbonIntensity region = .ok value ∧
      (∀ row ∈ rows, Passes rt calculator provider row) ∧
      footprint.totals = calculator.totals value (counted rt calculator provider rows) := by
  cases built : CarbonCalculator.ofPayload rt payload with
  | error failure => simp [fromCosts,built,bind,Except.bind] at run
  | ok calculator =>
    cases read : calculator.readRows rt provider rows with
    | error failure => simp [fromCosts,calculateFromCosts,built,read,bind,Except.bind] at run
    | ok total =>
      simp only [fromCosts,calculateFromCosts,built,read,bind,Except.bind] at run
      obtain ⟨value,intensity,compared,same⟩ := finalize_ok run
      obtain ⟨passes,rfl⟩ := readRows_iff.mp read
      exact ⟨calculator,value,⟨built,⟨value,intensity⟩,compared⟩,intensity,passes,same⟩

theorem fromCosts_exists {value : Int} (readable : Readable rt payload region calculator)
    (intensity : calculator.carbonIntensity region = .ok value)
    (passes : ∀ row ∈ rows, Passes rt calculator provider row) :
    ∃ footprint, fromCosts rt payload region provider rows = .ok footprint ∧
      footprint.totals = calculator.totals value (counted rt calculator provider rows) := by
  obtain ⟨entries,compared⟩ := readable.comparable
  obtain ⟨footprint,done,same⟩ : ∃ footprint, calculator.finalizeCalculation rt
      (counted rt calculator provider rows) region provider = .ok footprint ∧
        footprint.totals = calculator.totals value (counted rt calculator provider rows) :=
    finalize_exists intensity compared
  refine ⟨footprint,?_,same⟩
  have read : calculator.readRows rt provider rows = .ok (counted rt calculator provider rows) :=
    readRows_iff.mpr ⟨passes,rfl⟩
  simp only [fromCosts,calculateFromCosts,readable.constructed,read,bind,Except.bind]
  exact done

theorem wellFormed_iff (readable : Readable rt payload region calculator) (row : Json) :
    wellFormed rt payload provider row = true ↔
      (calculator.readRow rt provider row).2 = none := by
  rw [wellFormed,readable.constructed]
  simp

theorem fromCosts_calculator (readable : Readable rt payload region calculator)
    {other : CarbonCalculator} (readable' : Readable rt payload region other) :
    other = calculator :=
  Except.ok.inj (readable'.constructed.symm.trans readable.constructed)

theorem survives (readable : Readable rt payload region calculator)
    (harmless : ∀ row ∈ rows, Harmless rt provider calculator row) :
    SurvivesBadRows rt payload region provider rows := by
  obtain ⟨value,intensity⟩ := readable.intensity
  have passes : ∀ row ∈ rows, Passes rt calculator provider row :=
    fun row listed failure raised => (harmless row listed failure raised).1
  obtain ⟨footprint,run,same⟩ := fromCosts_exists readable intensity passes
  constructor
  · have kept : ∀ row ∈ rows.filter (wellFormed rt payload provider),
        Passes rt calculator provider row :=
      fun row listed => passes row (List.mem_of_mem_filter listed)
    obtain ⟨clean,run',same'⟩ := fromCosts_exists readable intensity kept
    refine ⟨footprint,clean,run,run',?_⟩
    have bad : counted rt calculator provider
        (rows.filter fun row => !wellFormed rt payload provider row) = 0 := by
      refine counted_eq_zero.mpr fun row listed => ?_
      obtain ⟨there,malformed⟩ := List.mem_filter.mp listed
      cases raised : (calculator.readRow rt provider row).2 with
      | none =>
        rw [(wellFormed_iff readable row).mpr raised] at malformed
        simp at malformed
      | some failure => exact (harmless row there failure raised).2
    rw [same,same',counted_filter (wellFormed rt payload provider) rows,bad,add_zero]
  · rintro front back rfl
    obtain ⟨one,run',same'⟩ := fromCosts_exists readable intensity
      fun row listed => passes row (List.mem_append_left _ listed)
    obtain ⟨two,run'',same''⟩ := fromCosts_exists readable intensity
      fun row listed => passes row (List.mem_append_right _ listed)
    refine ⟨footprint,one,two,run,run',run'',?_⟩
    rw [same,same',same'',counted_append,totals_add]
  · intro rows' perm
    obtain ⟨other,run',same'⟩ := fromCosts_exists readable intensity
      fun row listed => passes row (perm.mem_iff.mpr listed)
    exact ⟨footprint,other,run,run',by rw [same,same',counted_perm perm]⟩

theorem agree (readable : Readable rt payload region calculator) {charges : List (Charge rt)}
    (countable : ∀ charge ∈ charges, Countable rt provider calculator charge) :
    EntryPointsAgree rt payload region provider charges := by
  obtain ⟨value,intensity⟩ := readable.intensity
  obtain ⟨entries,compared⟩ := readable.comparable
  have passes : ∀ row ∈ charges.map Charge.row, Passes rt calculator provider row := by
    intro row listed failure raised
    obtain ⟨charge,there,rfl⟩ := List.mem_map.mp listed
    obtain ⟨_,_,read⟩ := countable_row (countable charge there)
    simp [read] at raised
  obtain ⟨footprint,run,same⟩ := fromCosts_exists readable intensity passes
  obtain ⟨other,done,same'⟩ : ∃ footprint, calculator.finalizeCalculation rt
      (counted rt calculator provider (charges.map Charge.row)) region provider = .ok footprint ∧
        footprint.totals = calculator.totals value
          (counted rt calculator provider (charges.map Charge.row)) :=
    finalize_exists intensity compared
  refine ⟨footprint,other,run,?_,same.trans same'.symm⟩
  simp only [fromRecords,calculateFromRecords,readable.constructed,bind,Except.bind,
    readRecords_countable countable]
  exact done

theorem SurvivesBadRows.harmless (survives : SurvivesBadRows rt payload region provider rows) :
    ∃ calculator, Readable rt payload region calculator ∧
      ∀ row ∈ rows, Harmless rt provider calculator row := by
  obtain ⟨footprint,clean,run,run',equal⟩ := survives.cleaned
  obtain ⟨calculator,value,readable,intensity,passes,same⟩ := fromCosts_ok run
  obtain ⟨calculator',value',readable',intensity',_,same'⟩ := fromCosts_ok run'
  obtain rfl := fromCosts_calculator readable readable'
  refine ⟨_,readable,fun row listed failure raised => ⟨passes row listed failure raised,?_⟩⟩
  have cost : (counted rt calculator' provider rows).1 =
      (counted rt calculator' provider (rows.filter (wellFormed rt payload provider))).1 := by
    have whole := same.symm.trans (equal.trans same')
    exact (Prod.mk.inj whole).1
  rw [counted_filter (wellFormed rt payload provider) rows,Prod.fst_add] at cost
  have none : (counted rt calculator' provider
      (rows.filter fun row => !wellFormed rt payload provider row)).1 = 0 := by linarith
  refine counted_eq_zero.mp ((counted_costs _).2 none) row (List.mem_filter.mpr ⟨listed,?_⟩)
  have malformed : ¬wellFormed rt payload provider row = true := by
    rw [wellFormed_iff readable,raised]
    simp
  simpa using malformed

theorem EntryPointsAgree.countable {charges : List (Charge rt)}
    (agree : EntryPointsAgree rt payload region provider charges)
    (readable : Readable rt payload region calculator) :
    ∀ charge ∈ charges, Countable rt provider calculator charge := by
  obtain ⟨footprint,other,run,run',equal⟩ := agree
  obtain ⟨calculator',value,readable',_,_,same⟩ := fromCosts_ok run
  obtain rfl := fromCosts_calculator readable readable'
  cases read : calculator'.readRecords rt provider (charges.map Charge.record) with
  | error failure =>
    simp [fromRecords,calculateFromRecords,readable.constructed,read,bind,Except.bind] at run'
  | ok total =>
    simp only [fromRecords,calculateFromRecords,readable.constructed,read,bind,Except.bind] at run'
    obtain ⟨value',_,_,same'⟩ := finalize_ok run'
    obtain ⟨resolved,cost⟩ := readRecords_ok read
    have costs : (counted rt calculator' provider (charges.map Charge.row)).1 = total.1 :=
      (Prod.mk.inj (same.symm.trans (equal.trans same'))).1
    intro charge listed
    exact ⟨costs_agree (costs.trans cost) charge listed,
      resolved charge.record (List.mem_map_of_mem listed)⟩

end Runs

/-- The calculation survives the bad rows of a list and counts charges as the one over records does,
exactly if the calculator can read its factors, no row has counted an amount when it raises and
raises what is caught, and no charge is a credit or without a factor. -/
theorem carbon_additive_iff {texts : Runtime} (rt : ZombieScan.Runtime)
    (payload : FactorPayload texts) (region provider : String) (costData : List Json)
    (charges : List (Charge rt)) :
    (SurvivesBadRows rt payload.entries region provider costData ∧
        EntryPointsAgree rt payload.entries region provider charges) ↔
      ∃ calculator, Readable rt payload.entries region calculator ∧
        (∀ row ∈ costData, Harmless rt provider calculator row) ∧
        ∀ charge ∈ charges, Countable rt provider calculator charge := by
  constructor
  · rintro ⟨survives,agree⟩
    obtain ⟨calculator,readable,harmless⟩ := survives.harmless
    exact ⟨calculator,readable,harmless,agree.countable readable⟩
  · rintro ⟨calculator,readable,harmless,countable⟩
    exact ⟨survives readable harmless,agree readable countable⟩

namespace Sample

def python : ZombieScan.Runtime := { text := .asciiOnly,floatText := Decimal.text,repr := fun _ => "" }

def texts : Runtime := ⟨fun _ => "",fun _ _ => "",fun _ => ""⟩

def builtIn : FactorPayload texts := ⟨buildCarbonFactorPayload,739585,by rfl⟩

/-- A row whose cost is no number, before one of ten dollars. -/
def unreadable : List Json := [.obj [("cost_usd",.str "n/a")],.obj [("cost_usd",.str "10")]]

end Sample

open Sample in
/-- A cost that is no number ends the calculation of the whole list. -/
theorem unreadable_cost_raises :
    ¬SurvivesBadRows python builtIn.entries "us-east-1" "aws" unreadable := by
  intro survives
  obtain ⟨footprint,_,run,_⟩ := survives.cleaned
  have raises : fromCosts python builtIn.entries "us-east-1" "aws" unreadable =
      .error .arithmetic := by rfl
  rw [raises] at run
  contradiction

end Valdrics.Carbon

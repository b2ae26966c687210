import Mathlib.Algebra.BigOperators.Group.List.Basic
import Mathlib.Algebra.Order.BigOperators.Group.List
import Mathlib.Algebra.Order.Ring.Int
import Mathlib.Data.List.Nodup
import Mathlib.Tactic.Abel

/-! Tables of rows under distinct keys, with the aggregate a `SUM` query computes.
Insertion refuses a key in use, as a primary key does; updates keep every key. -/
namespace Valdrics

structure Table (κ : Type) (ρ : Type) where
  rows : List (κ × ρ)
  distinct : (rows.map Prod.fst).Nodup

namespace Table

def empty : Table κ ρ := ⟨[], List.nodup_nil⟩

def find [DecidableEq κ] (t : Table κ ρ) (key : κ) : Option ρ :=
  (t.rows.find? fun e => e.1 = key).map Prod.snd

/-- `none` is a violated primary key; a new row goes last. -/
def insert [DecidableEq κ] (t : Table κ ρ) (key : κ) (row : ρ) : Option (Table κ ρ) :=
  if fresh : key ∈ t.rows.map Prod.fst then none
  else some ⟨t.rows ++ [(key,row)], by
    rw [List.map_append]
    exact List.nodup_append'.mpr ⟨t.distinct, by simp, by simpa using fresh⟩⟩

def update [DecidableEq κ] (t : Table κ ρ) (key : κ) (f : ρ → ρ) : Table κ ρ where
  rows := t.rows.map fun e => if e.1 = key then (e.1, f e.2) else e
  distinct := by
    have keys : (t.rows.map fun e => if e.1 = key then (e.1, f e.2) else e).map Prod.fst =
        t.rows.map Prod.fst := by
      rw [List.map_map]
      apply List.map_congr_left
      intro e _
      by_cases same : e.1 = key <;> simp [same]
    rw [keys]
    exact t.distinct

def upsert [DecidableEq κ] (t : Table κ ρ) (key : κ) (row : ρ) (f : ρ → ρ) : Table κ ρ :=
  (t.insert key row).getD (t.update key f)

def mapRows (t : Table κ ρ) (f : κ → ρ → ρ) : Table κ ρ where
  rows := t.rows.map fun e => (e.1,f e.1 e.2)
  distinct := by
    rw [List.map_map]
    exact t.distinct

def filter (t : Table κ ρ) (keep : κ → ρ → Bool) : Table κ ρ where
  rows := t.rows.filter fun e => keep e.1 e.2
  distinct := t.distinct.sublist (List.filter_sublist.map Prod.fst)

/-- The sum of a column expression over the table; a `WHERE` is a weight of zero. -/
def total [AddCommMonoid μ] (t : Table κ ρ) (weight : κ → ρ → μ) : μ :=
  (t.rows.map fun e => weight e.1 e.2).sum

section Lookup

variable [DecidableEq κ] {t next : Table κ ρ} {key other : κ} {row : ρ}

theorem find_eq_some_iff : t.find key = some row ↔ (key,row) ∈ t.rows := by
  constructor
  · intro found
    obtain ⟨e,at_,rfl⟩ := Option.map_eq_some_iff.mp found
    have same : e.1 = key := by simpa using List.find?_some at_
    subst same
    exact List.mem_of_find?_eq_some at_
  · intro member
    cases found : t.rows.find? fun e => decide (e.1 = key) with
    | none =>
      have absent := List.find?_eq_none.mp found _ member
      simp at absent
    | some e =>
      have same : e.1 = key := by simpa using List.find?_some found
      have there := List.mem_of_find?_eq_some found
      have equal : e = (key,row) := List.inj_on_of_nodup_map t.distinct there member same
      simp [find, found, equal]

theorem find_eq_none_iff : t.find key = none ↔ key ∉ t.rows.map Prod.fst := by
  simp only [find, Option.map_eq_none_iff, List.find?_eq_none, decide_eq_true_eq, List.mem_map,
    not_exists, not_and]

@[simp] theorem find_empty : (empty : Table κ ρ).find key = none := rfl

theorem insert_eq_some (inserted : t.insert key row = some next) :
    t.find key = none ∧ next.rows = t.rows ++ [(key,row)] := by
  unfold insert at inserted
  split at inserted
  · contradiction
  · next fresh =>
    obtain rfl := Option.some.inj inserted
    exact ⟨find_eq_none_iff.mpr fresh, rfl⟩

theorem insert_exists (row : ρ) (fresh : t.find key = none) :
    ∃ next, t.insert key row = some next :=
  ⟨_, dif_neg (find_eq_none_iff.mp fresh)⟩

theorem insert_eq_none_iff : t.insert key row = none ↔ ∃ present, t.find key = some present := by
  constructor
  · intro refused
    cases found : t.find key with
    | none =>
      obtain ⟨next,inserted⟩ := insert_exists row found
      simp [refused] at inserted
    | some present => exact ⟨present,rfl⟩
  · rintro ⟨present,found⟩
    cases inserted : t.insert key row with
    | none => rfl
    | some next => simp [(insert_eq_some inserted).1] at found

theorem find_insert (inserted : t.insert key row = some next) :
    next.find other = if other = key then some row else t.find other := by
  obtain ⟨fresh,rows⟩ := insert_eq_some inserted
  by_cases same : other = key
  · subst same
    rw [if_pos rfl]
    exact find_eq_some_iff.mpr (by simp [rows])
  · simp [find, rows, same, Ne.symm same]

theorem find_update (f : ρ → ρ) :
    (t.update key f).find other = if other = key then (t.find other).map f else t.find other := by
  cases found : t.find other with
  | none =>
    have absent := find_eq_none_iff.mp found
    have keys : (t.update key f).find other = none := by
      apply find_eq_none_iff.mpr
      simp only [update, List.map_map, List.mem_map, Function.comp_apply, not_exists, not_and]
      intro e member same
      apply absent
      refine List.mem_map.mpr ⟨e,member,?_⟩
      by_cases hit : e.1 = key <;> simpa [hit] using same
    simp [keys]
  | some row =>
    have member := find_eq_some_iff.mp found
    by_cases same : other = key
    · subst same
      simp only [if_true, Option.map_some]
      exact find_eq_some_iff.mpr (List.mem_map.mpr ⟨_,member,by simp⟩)
    · simp only [same, if_false]
      exact find_eq_some_iff.mpr (List.mem_map.mpr ⟨_,member,by simp [same]⟩)

theorem update_absent (f : ρ → ρ) (absent : t.find key = none) : t.update key f = t := by
  have away : ∀ e ∈ t.rows, (if e.1 = key then (e.1,f e.2) else e) = e := by
    intro e member
    have apart : e.1 ≠ key := by
      rintro rfl
      exact find_eq_none_iff.mp absent (List.mem_map.mpr ⟨e,member,rfl⟩)
    simp [apart]
  obtain ⟨rows,distinct⟩ := t
  simp only [update,mk.injEq]
  exact (List.map_congr_left away).trans (List.map_id rows)

@[simp] theorem find_update_same (f : ρ → ρ) :
    (t.update key f).find key = (t.find key).map f := by
  simp [find_update]

theorem find_update_other (f : ρ → ρ) (apart : other ≠ key) :
    (t.update key f).find other = t.find other := by
  simp [find_update, apart]

theorem upsert_cases (t : Table κ ρ) (key : κ) (row : ρ) (f : ρ → ρ) :
    (t.find key = none ∧ (t.upsert key row f).rows = t.rows ++ [(key,row)]) ∨
    (∃ present, t.find key = some present) ∧ t.upsert key row f = t.update key f := by
  cases inserted : t.insert key row with
  | none => exact .inr ⟨insert_eq_none_iff.mp inserted,by simp [upsert,inserted]⟩
  | some next =>
    obtain ⟨fresh,rows⟩ := insert_eq_some inserted
    exact .inl ⟨fresh,by simpa [upsert,inserted] using rows⟩

theorem find_upsert (t : Table κ ρ) (key other : κ) (row : ρ) (f : ρ → ρ) :
    (t.upsert key row f).find other =
      if other = key then some ((t.find key).elim row f) else t.find other := by
  cases inserted : t.insert key row with
  | none =>
    obtain ⟨present,found⟩ := insert_eq_none_iff.mp inserted
    simp only [upsert,inserted,Option.getD_none,find_update]
    by_cases same : other = key
    · subst same
      simp [found]
    · simp [same]
  | some next =>
    have fresh := (insert_eq_some inserted).1
    simp [upsert,inserted,find_insert inserted,fresh]

def updateAll (t : Table κ ρ) (updates : List (κ × (ρ → ρ))) : Table κ ρ :=
  updates.foldl (fun t change => t.update change.1 change.2) t

theorem find_updateAll_other {updates : List (κ × (ρ → ρ))}
    (absent : key ∉ updates.map Prod.fst) : (t.updateAll updates).find key = t.find key := by
  induction updates generalizing t with
  | nil => rfl
  | cons change updates ih =>
    rw [List.map_cons, List.mem_cons, not_or] at absent
    exact (ih absent.2).trans (find_update_other change.2 absent.1)

/-- Of updates of distinct rows each row gets its own. -/
theorem find_updateAll {updates : List (κ × (ρ → ρ))} {f : ρ → ρ}
    (distinct : (updates.map Prod.fst).Nodup) (member : (key,f) ∈ updates) :
    (t.updateAll updates).find key = (t.find key).map f := by
  induction updates generalizing t with
  | nil => simp at member
  | cons change updates ih =>
    rw [List.map_cons, List.nodup_cons] at distinct
    rcases List.mem_cons.mp member with rfl | later
    · exact (find_updateAll_other distinct.1).trans (find_update_same f)
    · have apart : key ≠ change.1 := by
        rintro rfl
        exact distinct.1 (List.mem_map.mpr ⟨_,later,rfl⟩)
      exact (ih distinct.2 later).trans (congrArg _ (find_update_other change.2 apart))

theorem find_mapRows (f : κ → ρ → ρ) : (t.mapRows f).find key = (t.find key).map (f key) := by
  cases found : t.find key with
  | none =>
    have absent := find_eq_none_iff.mp found
    refine find_eq_none_iff.mpr ?_
    simpa [mapRows] using absent
  | some row =>
    have member := find_eq_some_iff.mp found
    exact find_eq_some_iff.mpr (List.mem_map.mpr ⟨_,member,rfl⟩)

theorem find_filter (keep : κ → ρ → Bool) :
    (t.filter keep).find key = (t.find key).filter (keep key) := by
  cases found : t.find key with
  | none =>
    refine find_eq_none_iff.mpr fun listed => find_eq_none_iff.mp found ?_
    exact (List.filter_sublist.map Prod.fst).subset listed
  | some row =>
    have member := find_eq_some_iff.mp found
    by_cases kept : keep key row = true
    · rw [Option.filter_some_pos kept]
      exact find_eq_some_iff.mpr (List.mem_filter.mpr ⟨member,kept⟩)
    · rw [Option.filter_some_neg (by simpa using kept)]
      refine find_eq_none_iff.mpr fun listed => kept ?_
      obtain ⟨e,there,rfl⟩ := List.mem_map.mp listed
      obtain ⟨inside,passes⟩ := List.mem_filter.mp there
      have same : e = (e.1,row) := List.inj_on_of_nodup_map t.distinct inside member rfl
      rw [same] at passes
      exact passes

/-- An update of a row that a `WHERE` leaves out before and after. -/
theorem filter_rows_update (f : ρ → ρ) (keep : κ × ρ → Bool) (found : t.find key = some row)
    (before : keep (key,row) = false) (after : keep (key, f row) = false) :
    (t.update key f).rows.filter keep = t.rows.filter keep := by
  have rowOf : ∀ e ∈ t.rows, e.1 = key → e = (key,row) := by
    intro e member same
    exact List.inj_on_of_nodup_map t.distinct member (find_eq_some_iff.mp found) same
  simp only [update]
  generalize t.rows = rows at rowOf
  induction rows with
  | nil => rfl
  | cons e rows ih =>
    have rest := ih fun later member => rowOf later (List.mem_cons_of_mem _ member)
    by_cases same : e.1 = key
    · obtain rfl := rowOf e List.mem_cons_self same
      simp [before,after,rest]
    · simp [List.filter_cons,same,rest]

end Lookup

section Aggregate

variable [AddCommMonoid μ] {t next : Table κ ρ} {weight weight' : κ → ρ → μ}

theorem total_congr (same : ∀ key row, (key,row) ∈ t.rows → weight key row = weight' key row) :
    t.total weight = t.total weight' := by
  unfold total
  rw [List.map_congr_left fun e member => same e.1 e.2 member]

theorem total_eq_zero (zero : ∀ key row, (key,row) ∈ t.rows → weight key row = 0) :
    t.total weight = 0 := by
  have same : t.total weight = t.total fun _ _ => 0 := total_congr zero
  simpa [total] using same

theorem total_add : t.total (fun key row => weight key row + weight' key row) =
    t.total weight + t.total weight' := by
  simp [total, List.sum_map_add]

theorem total_insert [DecidableEq κ] (inserted : t.insert key row = some next) :
    next.total weight = t.total weight + weight key row := by
  simp [total, (insert_eq_some inserted).2]

/-- An update moves the sum by the new row less the old one. -/
theorem total_update [DecidableEq κ] (weight : κ → ρ → Int) (f : ρ → ρ)
    (found : t.find key = some row) :
    (t.update key f).total weight + weight key row = t.total weight + weight key (f row) := by
  have member := find_eq_some_iff.mp found
  obtain ⟨rows,distinct⟩ := t
  simp only [total, update] at member ⊢
  clear found
  induction rows with
  | nil => simp at member
  | cons e rows ih =>
    have unique := List.nodup_cons.mp distinct
    rcases List.mem_cons.mp member with rfl | later
    · have rest : rows.map (fun e => if e.1 = key then (e.1, f e.2) else e) = rows := by
        conv_rhs => rw [← List.map_id rows]
        apply List.map_congr_left
        intro e there
        have apart : e.1 ≠ key := by
          intro same
          exact unique.1 (List.mem_map.mpr ⟨e,there,same⟩)
        simp [apart]
      simp only [List.map_cons, if_true, rest, List.sum_cons]
      abel
    · have apart : e.1 ≠ key := by
        intro same
        exact unique.1 (List.mem_map.mpr ⟨_,later,same.symm⟩)
      have step := ih unique.2 later
      simp only [List.map_cons, apart, if_false, List.sum_cons, List.map_map] at step ⊢
      rw [add_assoc, step, add_assoc]

end Aggregate

section Ordered

variable {t : Table κ ρ} {weight weight' : κ → ρ → Int}

theorem total_nonneg (nonneg : ∀ key row, (key,row) ∈ t.rows → 0 ≤ weight key row) :
    0 ≤ t.total weight := by
  apply List.sum_nonneg
  simp only [List.mem_map]
  rintro _ ⟨e,member,rfl⟩
  exact nonneg e.1 e.2 member

theorem total_le_total (le : ∀ key row, (key,row) ∈ t.rows → weight key row ≤ weight' key row) :
    t.total weight ≤ t.total weight' := by
  apply List.sum_le_sum
  intro e member
  exact le e.1 e.2 member

theorem le_total (t : Table κ ρ) (weight : κ → ρ → Int)
    (nonneg : ∀ key row, (key,row) ∈ t.rows → 0 ≤ weight key row)
    (member : (key,row) ∈ t.rows) : weight key row ≤ t.total weight := by
  apply List.single_le_sum
  · simp only [List.mem_map]
    rintro _ ⟨e,there,rfl⟩
    exact nonneg e.1 e.2 there
  · exact List.mem_map.mpr ⟨_,member,rfl⟩

end Ordered

structure Rewrites [DecidableEq κ] (t next : Table κ ρ) (key : κ) (before after : ρ) : Prop where
  was : t.find key = some before
  find : ∀ other, next.find other = if other = key then some after else t.find other
  total : ∀ weight : κ → ρ → Int,
    next.total weight + weight key before = t.total weight + weight key after

namespace Rewrites

variable [DecidableEq κ] {t next : Table κ ρ} {key : κ} {before after : ρ}

theorem update (f : ρ → ρ) (found : t.find key = some before) :
    Rewrites t (t.update key f) key before (f before) := by
  refine ⟨found,fun other => ?_,fun weight => total_update weight f found⟩
  rw [find_update]
  split
  · next same => rw [same,found]; rfl
  · rfl

theorem trans {last : Table κ ρ} {final : ρ} (first : Rewrites t next key before after)
    (second : Rewrites next last key after final) : Rewrites t last key before final := by
  refine ⟨first.was,fun other => ?_,fun weight => ?_⟩
  · rw [second.find, first.find]
    split <;> rfl
  · have one := first.total weight
    have two := second.total weight
    omega

theorem found (rewrites : Rewrites t next key before after) : next.find key = some after := by
  simp [rewrites.find]

theorem other (rewrites : Rewrites t next key before after) {key' : κ} (apart : key' ≠ key) :
    next.find key' = t.find key' := by
  simp [rewrites.find,apart]

end Rewrites

end Table

/-- A table with a second unique column, such as a `UNIQUE` constraint beside the key. -/
structure UniqueTable (κ : Type) (ι : Type) (ρ : Type) (index : ρ → ι) extends Table κ ρ where
  unique : (rows.map fun e => index e.2).Nodup

namespace UniqueTable

variable {index : ρ → ι} {t next : UniqueTable κ ι ρ index}

def empty : UniqueTable κ ι ρ index := ⟨Table.empty,List.nodup_nil⟩

def lookup [DecidableEq ι] (t : UniqueTable κ ι ρ index) (value : ι) : Option (κ × ρ) :=
  t.rows.find? fun e => index e.2 = value

/-- `none` is a violated constraint, of the key or of the second column. -/
def insert [DecidableEq κ] [DecidableEq ι] (t : UniqueTable κ ι ρ index) (key : κ) (row : ρ) :
    Option (UniqueTable κ ι ρ index) :=
  match inserted : t.toTable.insert key row with
  | none => none
  | some table =>
    if fresh : index row ∈ t.rows.map fun e => index e.2 then none
    else some ⟨table, by
      rw [(Table.insert_eq_some inserted).2, List.map_append]
      exact List.nodup_append'.mpr ⟨t.unique, by simp, by simpa using fresh⟩⟩

def update [DecidableEq κ] (t : UniqueTable κ ι ρ index) (key : κ) (f : ρ → ρ)
    (keeps : ∀ row, index (f row) = index row) : UniqueTable κ ι ρ index where
  toTable := t.toTable.update key f
  unique := by
    have same : ((t.toTable.update key f).rows.map fun e => index e.2) =
        t.rows.map fun e => index e.2 := by
      simp only [Table.update, List.map_map]
      apply List.map_congr_left
      intro e _
      by_cases hit : e.1 = key <;> simp [hit,keeps]
    rw [same]
    exact t.unique

@[simp] theorem update_toTable [DecidableEq κ] (t : UniqueTable κ ι ρ index) (key : κ) (f : ρ → ρ)
    (keeps : ∀ row, index (f row) = index row) :
    (t.update key f keeps).toTable = t.toTable.update key f := rfl

theorem lookup_eq_some_iff [DecidableEq κ] [DecidableEq ι] {value : ι} :
    t.lookup value = some (key,row) ↔ t.find key = some row ∧ index row = value := by
  rw [Table.find_eq_some_iff]
  constructor
  · intro found
    have same : index row = value := by simpa using List.find?_some found
    exact ⟨List.mem_of_find?_eq_some found,same⟩
  · rintro ⟨member,same⟩
    cases found : t.lookup value with
    | none =>
      have absent := List.find?_eq_none.mp found _ member
      simp [same] at absent
    | some e =>
      have hit : index e.2 = value := by simpa using List.find?_some found
      have there := List.mem_of_find?_eq_some found
      have equal : e = (key,row) :=
        List.inj_on_of_nodup_map t.unique there member (hit.trans same.symm)
      rw [equal]

theorem lookup_eq_none_iff [DecidableEq κ] [DecidableEq ι] {value : ι} :
    t.lookup value = none ↔ ∀ key row, t.find key = some row → index row ≠ value := by
  constructor
  · intro absent key row found same
    rw [lookup_eq_some_iff.mpr ⟨found,same⟩] at absent
    contradiction
  · intro absent
    cases found : t.lookup value with
    | none => rfl
    | some e =>
      obtain ⟨there,same⟩ := lookup_eq_some_iff.mp found
      exact absurd same (absent _ _ there)

section Insert

variable [DecidableEq κ] [DecidableEq ι]

theorem insert_eq_some (inserted : t.insert key row = some next) :
    t.toTable.insert key row = some next.toTable ∧ t.lookup (index row) = none := by
  unfold insert at inserted
  split at inserted
  · contradiction
  · next table at_ =>
    split at inserted
    · contradiction
    · next fresh =>
      obtain rfl := Option.some.inj inserted
      refine ⟨at_,lookup_eq_none_iff.mpr ?_⟩
      intro key' row' found same
      exact fresh (List.mem_map.mpr ⟨_,Table.find_eq_some_iff.mp found,same⟩)

theorem insert_exists (row : ρ) (freshKey : t.find key = none)
    (freshIndex : t.lookup (index row) = none) : ∃ next, t.insert key row = some next := by
  obtain ⟨table,inserted⟩ := Table.insert_exists row freshKey
  have absent : index row ∉ t.rows.map fun e => index e.2 := by
    intro member
    obtain ⟨e,there,same⟩ := List.mem_map.mp member
    exact lookup_eq_none_iff.mp freshIndex e.1 e.2 (Table.find_eq_some_iff.mpr there) same
  unfold insert
  split
  · next refused => simp [inserted] at refused
  · exact ⟨_,dif_neg absent⟩

theorem find_insert (inserted : t.insert key row = some next) :
    next.find other = if other = key then some row else t.find other :=
  Table.find_insert (insert_eq_some inserted).1

theorem lookup_insert {value : ι} (inserted : t.insert key row = some next) :
    next.lookup value = if value = index row then some (key,row) else t.lookup value := by
  obtain ⟨table,fresh⟩ := insert_eq_some inserted
  have rows := (Table.insert_eq_some table).2
  unfold lookup
  rw [rows, List.find?_append]
  by_cases same : value = index row
  · subst same
    have absent : List.find? (fun e => decide (index e.2 = index row)) t.rows = none := fresh
    simp [absent]
  · simp [same,Ne.symm same]

end Insert

/-- The second column's index of a table that is another with one fresh row more. -/
theorem lookup_of_find [DecidableEq κ] [DecidableEq ι] (fresh : t.find key = none)
    (finds : ∀ other, next.find other = if other = key then some row else t.find other)
    (value : ι) : next.lookup value =
      if value = index row then some (key,row) else t.lookup value := by
  split
  · next same =>
    rw [lookup_eq_some_iff, finds, if_pos rfl]
    exact ⟨rfl,same.symm⟩
  · next other =>
    apply Option.ext
    rintro ⟨key',row'⟩
    rw [lookup_eq_some_iff, lookup_eq_some_iff, finds]
    split
    · next same =>
      subst same
      rw [fresh]
      constructor
      · rintro ⟨inserted,indexed⟩
        obtain rfl := Option.some.inj inserted
        exact absurd indexed.symm other
      · rintro ⟨absent,_⟩
        contradiction
    · rfl

end UniqueTable

end Valdrics

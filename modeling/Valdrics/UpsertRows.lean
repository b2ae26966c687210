import Mathlib.Data.List.Count
import Mathlib.Data.List.Perm.Basic

/-! Writers that change the first row of a value's key or append a row for it. A run of writes acts on
the rows of each key by itself, so that two tables are compared key by key. -/
namespace Valdrics.Upsert

variable {ρ α κ : Type} [DecidableEq κ]

theorem length_filter_eq_count {β : Type} (keyOf : β → κ) (values : List β) (key : κ) :
    (values.filter fun value => keyOf value = key).length = (values.map keyOf).count key := by
  rw [List.count,List.countP_map,List.countP_eq_length_filter]
  rfl

structure Writer (ρ α κ : Type) where
  rowKey : ρ → κ
  valueKey : α → κ
  /-- Whether a value may be written over a row. -/
  finds : α → Bool
  change : ρ → α → ρ
  fresh : α → ρ
  change_key : ∀ row value, rowKey row = valueKey value → rowKey (change row value) = rowKey row
  fresh_key : ∀ value, rowKey (fresh value) = valueKey value

namespace Writer

variable (w : Writer ρ α κ)

def shard (rows : List ρ) (key : κ) : List ρ := rows.filter fun row => w.rowKey row = key

def changeFirst (value : α) : List ρ → List ρ
  | [] => []
  | row :: rest =>
    if w.rowKey row = w.valueKey value then w.change row value :: rest
    else row :: changeFirst value rest

def write (rows : List ρ) (value : α) : List ρ :=
  if w.finds value = true ∧ w.shard rows (w.valueKey value) ≠ [] then w.changeFirst value rows
  else rows ++ [w.fresh value]

theorem shard_changeFirst (value : α) (rows : List ρ) (key : κ) :
    w.shard (w.changeFirst value rows) key =
      if w.valueKey value = key then w.changeFirst value (w.shard rows key)
      else w.shard rows key := by
  induction rows with
  | nil => simp [shard,changeFirst]
  | cons row rest ih =>
    simp only [shard] at ih ⊢
    by_cases own : w.rowKey row = w.valueKey value
    · by_cases same : w.valueKey value = key
      · simp [changeFirst,shard,own,same,w.change_key row value own]
      · simp [changeFirst,shard,own,same,w.change_key row value own]
    · by_cases same : w.valueKey value = key
      · have apart : w.rowKey row ≠ key := same ▸ own
        simpa [changeFirst,shard,own,apart,same] using ih
      · rw [if_neg same] at ih ⊢
        rw [changeFirst,if_neg own,List.filter_cons,List.filter_cons,ih]

theorem shard_shard (rows : List ρ) (key : κ) : w.shard (w.shard rows key) key = w.shard rows key := by
  simp [shard]

theorem shard_write (rows : List ρ) (value : α) (key : κ) :
    w.shard (w.write rows value) key =
      if w.valueKey value = key then w.write (w.shard rows key) value else w.shard rows key := by
  by_cases same : w.valueKey value = key
  · subst same
    rw [if_pos rfl,write,write,shard_shard]
    split
    · rw [shard_changeFirst,if_pos rfl]
    · simp [shard,w.fresh_key]
  · rw [if_neg same,write]
    split
    · rw [shard_changeFirst,if_neg same]
    · simp [shard,w.fresh_key,same]

theorem shard_writes (values : List α) (rows : List ρ) (key : κ) :
    w.shard (values.foldl w.write rows) key =
      (values.filter fun value => w.valueKey value = key).foldl w.write (w.shard rows key) := by
  induction values generalizing rows with
  | nil => rfl
  | cons value rest ih =>
    rw [List.foldl_cons,ih,shard_write]
    by_cases same : w.valueKey value = key
    · simp [same]
    · simp [same]

theorem length_changeFirst (value : α) (rows : List ρ) :
    (w.changeFirst value rows).length = rows.length := by
  induction rows with
  | nil => rfl
  | cons row rest ih =>
    rw [changeFirst]
    split
    · rfl
    · rw [List.length_cons,ih,List.length_cons]

@[simp] theorem write_nil (value : α) : w.write [] value = [w.fresh value] := by
  simp [write,shard]

theorem write_single {row : ρ} {value : α} (own : w.rowKey row = w.valueKey value)
    (found : w.finds value = true) : w.write [row] value = [w.change row value] := by
  simp [write,shard,changeFirst,own,found]

theorem length_writes {values : List α} (missed : ∀ value ∈ values, w.finds value = false)
    (rows : List ρ) : (values.foldl w.write rows).length = rows.length + values.length := by
  induction values generalizing rows with
  | nil => rfl
  | cons value rest ih =>
    obtain ⟨head,tail⟩ := List.forall_mem_cons.mp missed
    have appended : w.write rows value = rows ++ [w.fresh value] := by simp [write,head]
    rw [List.foldl_cons,ih tail,appended,List.length_append,List.length_singleton,List.length_cons]
    omega

theorem length_writes_le {values : List α} {key : κ} (found : ∀ value ∈ values, w.finds value = true)
    (own : ∀ value ∈ values, w.valueKey value = key) {rows : List ρ} (all : w.shard rows key = rows) :
    (values.foldl w.write rows).length ≤ max 1 rows.length := by
  induction values generalizing rows with
  | nil => exact Nat.le_max_right ..
  | cons value rest ih =>
    obtain ⟨finds,found⟩ := List.forall_mem_cons.mp found
    obtain ⟨rfl,own⟩ := List.forall_mem_cons.mp own
    have closed : w.shard (w.write rows value) (w.valueKey value) = w.write rows value := by
      rw [shard_write,if_pos rfl,all]
    have grown : (w.write rows value).length ≤ max 1 rows.length := by
      by_cases empty : rows = []
      · simp [empty]
      · have changed : w.write rows value = w.changeFirst value rows := by
          simp [write,finds,all,empty]
        rw [changed,length_changeFirst]
        exact Nat.le_max_right ..
    have later := ih found own closed
    rw [List.foldl_cons]
    omega

theorem perm_iff_shards {rows rows' : List ρ} :
    rows.Perm rows' ↔ ∀ key, (w.shard rows key).Perm (w.shard rows' key) := by
  classical
  constructor
  · exact fun perm key => perm.filter _
  · intro shards
    refine List.perm_iff_count.mpr fun row => ?_
    have count := List.perm_iff_count.mp (shards (w.rowKey row)) row
    rwa [shard,shard,List.count_filter (by simp),List.count_filter (by simp)] at count

end Writer

end Valdrics.Upsert

import Mathlib.Algebra.BigOperators.Group.Finset.Piecewise
import Valdrics.GroupedFold

/-! Totals of items by key, and those of the first keys in an order of the totals: what a report keeps
when it cuts its rows off, and when the rows that it drops come to nothing. -/
namespace Valdrics.Ranking

variable {κ μ : Type} [DecidableEq κ] [AddCommMonoid μ]

def tally (items : List (κ × μ)) (key : κ) : μ :=
  ((items.filter fun item => item.1 = key).map Prod.snd).sum

def keys (items : List (κ × μ)) : List κ := items.map Prod.fst

def Tallies (table : Table κ μ) (items : List (κ × μ)) : Prop :=
  ∀ key, table.find key = if key ∈ keys items then some (tally items key) else none

def Alike (items items' : List (κ × μ)) : Prop :=
  ∀ key, (key ∈ keys items ↔ key ∈ keys items') ∧ tally items key = tally items' key

def record (table : Table κ μ) (item : κ × μ) : Table κ μ :=
  table.upsert item.1 (0 + item.2) fun total => total + item.2

theorem tally_append (items items' : List (κ × μ)) (key : κ) :
    tally (items ++ items') key = tally items key + tally items' key := by
  simp [tally]

omit [DecidableEq κ] [AddCommMonoid μ] in
theorem mem_keys_append {items items' : List (κ × μ)} {key : κ} :
    key ∈ keys (items ++ items') ↔ key ∈ keys items ∨ key ∈ keys items' := by
  simp [keys]

theorem tally_eq_zero {items : List (κ × μ)} {key : κ} (absent : key ∉ keys items) :
    tally items key = 0 := by
  have none : items.filter (fun item => item.1 = key) = [] := by
    refine List.filter_eq_nil_iff.mpr fun item listed same => absent ?_
    exact List.mem_map.mpr ⟨item,listed,of_decide_eq_true same⟩
  rw [tally,none]
  rfl

theorem Alike.append {items items' others others' : List (κ × μ)} (first : Alike items items')
    (second : Alike others others') : Alike (items ++ others) (items' ++ others') := by
  intro key
  rw [mem_keys_append,mem_keys_append,tally_append,tally_append,(first key).1,(second key).1,
    (first key).2,(second key).2]
  exact ⟨Iff.rfl,rfl⟩

theorem tallies_alike {table : Table κ μ} {items items' : List (κ × μ)}
    (tallies : Tallies table items) (alike : Alike items items') : Tallies table items' := by
  intro key
  have row := tallies key
  simp only [(alike key).1,(alike key).2] at row
  exact row

theorem tallies_empty : Tallies (Table.empty : Table κ μ) [] := by
  intro key
  rfl

theorem tallies_record {table : Table κ μ} {items : List (κ × μ)} (tallies : Tallies table items)
    (item : κ × μ) : Tallies (record table item) (items ++ [item]) := by
  intro key
  rw [record,Table.find_upsert,tally_append]
  by_cases same : key = item.1
  · subst same
    have own : tally [item] item.1 = item.2 := by simp [tally]
    have there : item.1 ∈ keys [item] := by simp [keys]
    rw [if_pos rfl,if_pos (mem_keys_append.mpr (.inr there)),own,tallies item.1]
    split
    next => rfl
    next absent => rw [tally_eq_zero absent]; rfl
  · have other : key ∉ keys [item] := by simpa [keys] using same
    have front : key ∈ keys (items ++ [item]) ↔ key ∈ keys items := by simp [mem_keys_append,other]
    rw [if_neg same,tallies key,tally_eq_zero other,add_zero]
    simp only [front]

theorem tallies_foldl {table : Table κ μ} {items : List (κ × μ)} (tallies : Tallies table items)
    (more : List (κ × μ)) : Tallies (more.foldl record table) (items ++ more) := by
  induction more generalizing table items with
  | nil => simpa using tallies
  | cons item rest ih =>
    have later := ih (tallies_record tallies item)
    rwa [List.append_assoc] at later

theorem rows_perm {table : Table κ μ} {items : List (κ × μ)} (tallies : Tallies table items) :
    table.rows.Perm ((keys items).dedup.map fun key => (key,tally items key)) := by
  have distinct : ((keys items).dedup.map fun key => (key,tally items key)).Nodup :=
    (List.nodup_dedup _).map fun _ _ same => congrArg Prod.fst same
  refine (List.perm_ext_iff_of_nodup (table.distinct.of_map _) distinct).mpr ?_
  rintro ⟨key,total⟩
  rw [← Table.find_eq_some_iff,tallies key,List.mem_map]
  constructor
  · intro row
    split at row
    next present => exact ⟨key,List.mem_dedup.mpr present,by rw [Option.some.inj row]⟩
    next => simp at row
  · rintro ⟨_,present,row⟩
    obtain ⟨rfl,rfl⟩ := Prod.mk.inj row
    rw [if_pos (List.mem_dedup.mp present)]

theorem sum_tally (items : List (κ × μ)) (counts : κ → Bool) :
    (((keys items).dedup.filter counts).map (tally items)).sum =
      ((items.filter fun item => counts item.1).map Prod.snd).sum := by
  have within : ∀ (ks : List κ), ks.Nodup → ∀ items : List (κ × μ),
      (∀ item ∈ items, counts item.1 = true → item.1 ∈ ks) → (∀ key ∈ ks, counts key = true) →
      (ks.map (tally items)).sum = ((items.filter fun item => counts item.1).map Prod.snd).sum := by
    intro ks distinct items inside counted
    induction items with
    | nil =>
      have zero : tally ([] : List (κ × μ)) = fun _ => 0 := rfl
      rw [zero]
      simp
    | cons item rest ih =>
      have later := ih (fun item listed => inside item (List.mem_cons_of_mem _ listed))
      have split : ∀ key, tally (item :: rest) key = (if item.1 = key then item.2 else 0) +
          tally rest key := by
        intro key
        by_cases same : item.1 = key <;> simp [tally,same]
      have parts : tally (item :: rest) = fun key => (if item.1 = key then item.2 else 0) +
          tally rest key := funext split
      rw [parts,List.sum_map_add,later]
      rw [← List.sum_toFinset _ distinct,Finset.sum_ite_eq,List.filter_cons]
      by_cases counts_ : counts item.1 = true
      · have member := List.mem_toFinset.mpr (inside item List.mem_cons_self counts_)
        rw [if_pos member,if_pos counts_,List.map_cons,List.sum_cons]
      · have absent : item.1 ∉ ks.toFinset := fun there =>
          counts_ (counted _ (List.mem_toFinset.mp there))
        rw [if_neg absent,if_neg counts_,zero_add]
  refine within _ ((List.nodup_dedup _).filter _) items ?_ ?_
  · intro item listed counts_
    exact List.mem_filter.mpr ⟨List.mem_dedup.mpr (List.mem_map.mpr ⟨item,listed,rfl⟩),counts_⟩
  · exact fun key listed => (List.mem_filter.mp listed).2

/-- Nothing is lost or counted twice. -/
theorem sum_rows {table : Table κ μ} {items : List (κ × μ)} (tallies : Tallies table items) :
    (table.rows.map Prod.snd).sum = (items.map Prod.snd).sum := by
  have all := sum_tally items fun _ => true
  simp only [List.filter_true] at all
  rw [((rows_perm tallies).map Prod.snd).sum_eq,List.map_map]
  exact all

/-- An order of rows in which rows with different keys do not come before each other. -/
structure Order (κ μ : Type) where
  le : κ × μ → κ × μ → Bool
  trans : ∀ a b c, le a b → le b c → le a c
  total : ∀ a b, le a b || le b a
  antisymm : ∀ a b, le a b → le b a → a.1 = b.1

namespace Order

omit [AddCommMonoid μ]

variable (order : Order κ μ)

def ahead (rows : List (κ × μ)) (row : κ × μ) : List (κ × μ) :=
  rows.filter fun other => other.1 ≠ row.1 && order.le other row

theorem ahead_perm {rows rows' : List (κ × μ)} (perm : rows.Perm rows') (row : κ × μ) :
    (order.ahead rows row).length = (order.ahead rows' row).length := (perm.filter _).length_eq

theorem ahead_sorted {front rest : List (κ × μ)} {row : κ × μ}
    (sorted : (front ++ row :: rest).Pairwise fun a b => order.le a b)
    (distinct : ((front ++ row :: rest).map Prod.fst).Nodup) :
    order.ahead (front ++ row :: rest) row = front := by
  have apart := List.pairwise_append.mp (List.pairwise_map.mp distinct)
  have before_ : front.filter (fun other => other.1 ≠ row.1 && order.le other row) = front := by
    refine List.filter_eq_self.mpr fun other listed => ?_
    have le := (List.pairwise_append.mp sorted).2.2 other listed row List.mem_cons_self
    have differ := apart.2.2 other listed row List.mem_cons_self
    simp [le,differ]
  have after : (row :: rest).filter (fun other => other.1 ≠ row.1 && order.le other row) = [] := by
    refine List.filter_eq_nil_iff.mpr fun other listed => ?_
    rcases List.mem_cons.mp listed with rfl | later
    · simp
    · have ge := (List.pairwise_cons.mp (List.pairwise_append.mp sorted).2.1).1 other later
      intro less
      rw [Bool.and_eq_true,decide_eq_true_eq] at less
      exact less.1 (order.antisymm _ _ less.2 ge)
  rw [ahead,List.filter_append,before_,after,List.append_nil]

theorem mem_take {rows : List (κ × μ)} (distinct : (rows.map Prod.fst).Nodup) {count : Nat}
    {row : κ × μ} : row ∈ (rows.mergeSort order.le).take count ↔
      row ∈ rows ∧ (order.ahead rows row).length < count := by
  have sorted := List.pairwise_mergeSort order.trans order.total rows
  have perm := List.mergeSort_perm rows order.le
  have nodup := (perm.map Prod.fst).nodup_iff.mpr distinct
  have place : ∀ {front rest : List (κ × μ)}, rows.mergeSort order.le = front ++ row :: rest →
      (order.ahead rows row).length = front.length := by
    intro front rest split
    rw [← order.ahead_perm perm,split]
    rw [split] at sorted nodup
    rw [order.ahead_sorted sorted nodup]
  constructor
  · intro taken
    refine ⟨perm.subset (List.mem_of_mem_take taken),?_⟩
    obtain ⟨front,rest,split⟩ := List.append_of_mem taken
    have whole : rows.mergeSort order.le =
        front ++ row :: (rest ++ (rows.mergeSort order.le).drop count) := by
      have parts := List.take_append_drop count (rows.mergeSort order.le)
      rw [split] at parts
      simpa using parts.symm
    have short := congrArg List.length split
    rw [place whole]
    simp only [List.length_take,List.length_append,List.length_cons] at short
    omega
  · rintro ⟨listed,few⟩
    obtain ⟨front,rest,split⟩ := List.append_of_mem (perm.symm.subset listed)
    rw [place split] at few
    rw [split,List.take_append]
    refine List.mem_append_right _ ?_
    obtain ⟨more,rest_⟩ := Nat.exists_eq_succ_of_ne_zero (Nat.sub_ne_zero_of_lt few)
    rw [rest_,List.take_succ_cons]
    exact List.mem_cons_self

end Order

variable (order : Order κ μ)

def rank (items : List (κ × μ)) (key : κ) : Nat :=
  (order.ahead ((keys items).dedup.map fun key => (key,tally items key)) (key,tally items key)).length

theorem sum_take {table : Table κ μ} {items : List (κ × μ)} (tallies : Tallies table items)
    (count : Nat) :
    (((table.rows.mergeSort order.le).take count).map Prod.snd).sum =
      ((items.filter fun item => rank order items item.1 < count).map Prod.snd).sum := by
  have perm := rows_perm tallies
  have distinct : table.rows.Nodup := table.distinct.of_map _
  have kept : ((table.rows.mergeSort order.le).take count).Perm
      (((keys items).dedup.filter fun key => rank order items key < count).map fun key =>
        (key,tally items key)) := by
    have nodup := ((List.mergeSort_perm table.rows order.le).nodup_iff.mpr distinct).sublist
      (List.take_sublist count _)
    refine (List.perm_ext_iff_of_nodup nodup (((List.nodup_dedup _).filter _).map
      fun _ _ same => congrArg Prod.fst same)).mpr fun row => ?_
    rw [order.mem_take table.distinct,perm.mem_iff,order.ahead_perm perm]
    simp only [List.mem_map,List.mem_filter,decide_eq_true_eq]
    constructor
    · rintro ⟨⟨key,listed,rfl⟩,few⟩
      exact ⟨key,⟨listed,few⟩,rfl⟩
    · rintro ⟨key,⟨listed,few⟩,rfl⟩
      exact ⟨⟨key,listed,rfl⟩,few⟩
  rw [(kept.map Prod.snd).sum_eq,List.map_map]
  exact sum_tally items fun key => rank order items key < count

end Valdrics.Ranking

namespace Valdrics.Table

variable {κ ρ μ : Type} [DecidableEq κ] [AddCommMonoid μ] {t : Table κ ρ} {key : κ} {row : ρ}

theorem total_update_add (weight : κ → ρ → μ) (f : ρ → ρ) (more : μ)
    (adds : ∀ row, weight key (f row) = weight key row + more) (found : t.find key = some row) :
    (t.update key f).total weight = t.total weight + more := by
  have member := find_eq_some_iff.mp found
  obtain ⟨front,rest,split⟩ := List.append_of_mem member
  have distinct := t.distinct
  rw [split,List.map_append,List.map_cons] at distinct
  have apart := List.nodup_append.mp distinct
  have unchanged : ∀ rows : List (κ × ρ), (∀ e ∈ rows, e.1 ≠ key) →
      rows.map (fun e => if e.1 = key then (e.1,f e.2) else e) = rows := by
    intro rows other
    refine (List.map_congr_left fun e listed => ?_).trans (List.map_id rows)
    rw [if_neg (other e listed)]
    rfl
  have first := unchanged front fun e listed =>
    apart.2.2 e.1 (List.mem_map.mpr ⟨e,listed,rfl⟩) key List.mem_cons_self
  have last := unchanged rest fun e listed same =>
    (List.nodup_cons.mp apart.2.1).1 (List.mem_map.mpr ⟨e,listed,same⟩)
  simp only [total,update,split,List.map_append,List.map_cons,if_true,first,last,List.sum_append,
    List.sum_cons,adds]
  rw [add_right_comm,add_assoc,add_assoc,add_assoc]

end Valdrics.Table

import Mathlib.Data.List.Basic
import Mathlib.Data.List.Nodup
import Mathlib.Data.List.TakeWhile

/-! Pages of a list, read until an empty one, and the pages of two sorted sources that are merged
under an order of their own: each page sorts prefixes of the sources, which are long enough exactly
when no element stands later in its source than in the merged list. -/
namespace Valdrics.Paging

variable {α : Type}

def slice (rows : List α) (offset limit : Nat) : List α := (rows.drop offset).take limit

/-- The pages from a number on, up to an empty one; `none` goes on. -/
def untilEmpty (page : Nat → List α) : Nat → Nat → Option (List α)
  | 0, _ => none
  | fuel + 1, n => if (page n).isEmpty then some [] else (untilEmpty page fuel (n + 1)).map (page n ++ ·)

def Partitions (page : Nat → Nat → List α) (rows : List α) : Prop :=
  ∀ limit, 1 ≤ limit → ∃ fuel, untilEmpty (fun n => page (n * limit) limit) fuel 0 = some rows

theorem slice_isEmpty {rows : List α} {offset limit : Nat} (positive : 1 ≤ limit) :
    (slice rows offset limit).isEmpty = true ↔ rows.length ≤ offset := by
  rw [List.isEmpty_iff,← List.length_eq_zero_iff,slice,List.length_take,List.length_drop]
  omega

theorem slices_past {rows : List α} {limit n : Nat} (positive : 1 ≤ limit)
    (past : rows.length ≤ n * limit) (fuel : Nat) :
    untilEmpty (fun n => slice rows (n * limit) limit) (fuel + 1) n =
      some (rows.drop (n * limit)) := by
  rw [untilEmpty,if_pos ((slice_isEmpty positive).mpr past),List.drop_eq_nil_of_le past]

theorem slices_from (rows : List α) {limit : Nat} (positive : 1 ≤ limit) (fuel n : Nat)
    (enough : rows.length ≤ n * limit + fuel) :
    untilEmpty (fun n => slice rows (n * limit) limit) (fuel + 1) n =
      some (rows.drop (n * limit)) := by
  induction fuel generalizing n with
  | zero => exact slices_past positive enough 0
  | succ fuel ih =>
    by_cases past : rows.length ≤ n * limit
    · exact slices_past positive past _
    · have next : rows.length ≤ (n + 1) * limit + fuel := by
        rw [Nat.add_mul]
        omega
      rw [untilEmpty,if_neg (mt (slice_isEmpty positive).mp past),ih (n + 1) next,Option.map_some,
        slice,Nat.add_mul,Nat.one_mul,← List.drop_drop,List.take_append_drop]

theorem slices_partition (rows : List α) : Partitions (slice rows) rows := by
  intro limit positive
  refine ⟨rows.length + 1,?_⟩
  simpa using slices_from rows positive rows.length 0 (by omega)

theorem first_prefix {page : Nat → Nat → List α} {rows : List α} (partitions : Partitions page rows)
    {limit : Nat} (positive : 1 ≤ limit) : page 0 limit <+: rows := by
  obtain ⟨fuel,pages⟩ := partitions limit positive
  cases fuel with
  | zero => cases pages
  | succ fuel =>
    rw [untilEmpty,Nat.zero_mul] at pages
    split at pages
    next empty => rw [List.isEmpty_iff.mp empty]; exact List.nil_prefix
    next =>
      obtain ⟨rest,-,rfl⟩ := Option.map_eq_some_iff.mp pages
      exact List.prefix_append _ _

theorem first_page {page : Nat → Nat → List α} {rows : List α} (partitions : Partitions page rows)
    {limit : Nat} (positive : 1 ≤ limit) (last : page limit limit = []) : rows = page 0 limit := by
  obtain ⟨fuel,pages⟩ := partitions limit positive
  cases fuel with
  | zero => cases pages
  | succ fuel =>
    rw [untilEmpty,Nat.zero_mul] at pages
    split at pages
    next empty => rw [List.isEmpty_iff.mp empty,Option.some.inj pages]
    next =>
      obtain ⟨rest,found,rfl⟩ := Option.map_eq_some_iff.mp pages
      cases fuel with
      | zero => cases found
      | succ fuel =>
        rw [untilEmpty,Nat.zero_add,Nat.one_mul,last,List.isEmpty_nil,if_pos rfl] at found
        rw [← Option.some.inj found,List.append_nil]

theorem partition_of_slices {page : Nat → Nat → List α} {rows : List α}
    (slices : ∀ offset limit, 1 ≤ limit → page offset limit = slice rows offset limit) :
    Partitions page rows := by
  intro limit positive
  obtain ⟨fuel,pages⟩ := slices_partition rows limit positive
  refine ⟨fuel,?_⟩
  simpa only [slices _ limit positive] using pages

section Merge

variable {le : α → α → Bool}

/-- The first elements of both sources under the order of the merged list. -/
def candidates (xs ys : List α) (count : Nat) : List α := xs.take count ++ ys.take count

def mergedPage (le : α → α → Bool) (xs ys : List α) (offset limit : Nat) : List α :=
  slice ((candidates xs ys (offset + limit)).mergeSort le) offset limit

theorem mergeSort_filter (trans : ∀ a b c, le a b → le b c → le a c)
    (total : ∀ a b, le a b || le b a) (keep : α → Bool) (rows : List α) :
    (rows.filter keep).mergeSort le = (rows.mergeSort le).filter keep := by
  induction rows with
  | nil => simp
  | cons a rows ih =>
    obtain ⟨before,after,sorted,rest,later⟩ := List.mergeSort_cons trans total a rows
    have ordered := List.pairwise_mergeSort trans total (a :: rows)
    rw [sorted,List.pairwise_append,List.pairwise_cons] at ordered
    by_cases kept : keep a = true
    · obtain ⟨before',after',sorted',rest',later'⟩ :=
        List.mergeSort_cons trans total a (rows.filter keep)
      have ordered' := List.pairwise_mergeSort trans total (a :: rows.filter keep)
      rw [sorted',List.pairwise_append,List.pairwise_cons] at ordered'
      -- What comes before `a` is in both lists what is not above it.
      have split : ∀ (front back : List α), (∀ b ∈ front, (!le a b) = true) →
          (∀ b ∈ back, le a b = true) → (front ++ back).takeWhile (fun b => !le a b) = front := by
        intro front back below above
        rw [List.takeWhile_append_of_pos below]
        cases back with
        | nil => simp
        | cons b back => simp [above b List.mem_cons_self]
      have same : before' ++ after' = before.filter keep ++ after.filter keep := by
        rw [← rest',ih,rest,List.filter_append]
      have front : before' = before.filter keep := by
        rw [← split before' after' later' ordered'.2.1.1,same]
        exact split _ _ (fun b listed => later b (List.mem_of_mem_filter listed))
          fun b listed => ordered.2.1.1 b (List.mem_of_mem_filter listed)
      have back : after' = after.filter keep := by
        rw [front] at same
        exact List.append_cancel_left same
      rw [List.filter_cons_of_pos kept,sorted',sorted,front,back,List.filter_append,
        List.filter_cons_of_pos kept]
    · rw [List.filter_cons_of_neg kept,ih,rest,sorted,List.filter_append,List.filter_append,
        List.filter_cons_of_neg kept]

theorem take_filter {keep : α → Bool} {rows : List α} {count : Nat}
    (kept : ∀ a ∈ rows.take count, keep a = true) :
    (rows.filter keep).take count = rows.take count := by
  have front : (rows.take count).filter keep = rows.take count := List.filter_eq_self.mpr kept
  rw [← List.take_append_drop count rows,List.filter_append,front]
  by_cases short : rows.length ≤ count
  · simp [List.drop_eq_nil_of_le short]
  · have full : (rows.take count).length = count := by
      rw [List.length_take]
      omega
    rw [List.take_append_of_le_length (Nat.le_of_eq full.symm),
      List.take_append_of_le_length (Nat.le_of_eq full.symm)]

theorem slice_eq (rows : List α) (offset limit : Nat) :
    slice rows offset limit = (rows.take (offset + limit)).drop offset := by
  rw [slice,List.drop_take,Nat.add_sub_cancel_left]

variable [DecidableEq α]

theorem filter_sublist_mem {part rows : List α} (distinct : rows.Nodup) (sub : part.Sublist rows) :
    rows.filter (· ∈ part) = part := by
  have nodup := distinct.sublist sub
  have inside : (rows.filter (· ∈ part)).Perm part := by
    refine (List.perm_ext_iff_of_nodup (distinct.filter _) nodup).mpr fun a => ?_
    simpa using fun listed => sub.subset listed
  have lower : part.Sublist (rows.filter (· ∈ part)) := by
    have kept := sub.filter (· ∈ part)
    rwa [List.filter_eq_self.mpr (by simp)] at kept
  exact (lower.eq_of_length inside.length_eq.symm).symm

omit [DecidableEq α] in
theorem candidates_sublist (xs ys : List α) (count : Nat) :
    (candidates xs ys count).Sublist (xs ++ ys) :=
  (List.take_sublist count xs).append (List.take_sublist count ys)

structure Early (le : α → α → Bool) (xs ys : List α) : Prop where
  left : ∀ x ∈ xs, xs.idxOf x ≤ ((xs ++ ys).mergeSort le).idxOf x
  right : ∀ y ∈ ys, ys.idxOf y ≤ ((xs ++ ys).mergeSort le).idxOf y

variable {xs ys : List α}

theorem candidates_sorted (trans : ∀ a b c, le a b → le b c → le a c)
    (total : ∀ a b, le a b || le b a) (distinct : (xs ++ ys).Nodup) (count : Nat) :
    (candidates xs ys count).mergeSort le =
      ((xs ++ ys).mergeSort le).filter (· ∈ candidates xs ys count) := by
  rw [← mergeSort_filter trans total,
    filter_sublist_mem distinct (candidates_sublist xs ys count)]

theorem Early.covered (early : Early le xs ys) (count : Nat) :
    ∀ a ∈ ((xs ++ ys).mergeSort le).take count, a ∈ candidates xs ys count := by
  intro a listed
  have member := List.mem_of_mem_take listed
  have soon := (List.mem_take_iff_idxOf_lt member).mp listed
  rw [candidates,List.mem_append]
  rcases List.mem_append.mp (List.mem_mergeSort.mp member) with left | right
  · exact .inl ((List.mem_take_iff_idxOf_lt left).mpr (Nat.lt_of_le_of_lt (early.left a left) soon))
  · exact .inr
      ((List.mem_take_iff_idxOf_lt right).mpr (Nat.lt_of_le_of_lt (early.right a right) soon))

theorem merged_partition (trans : ∀ a b c, le a b → le b c → le a c)
    (total : ∀ a b, le a b || le b a) (distinct : (xs ++ ys).Nodup) (early : Early le xs ys) :
    Partitions (mergedPage le xs ys) ((xs ++ ys).mergeSort le) := by
  refine partition_of_slices fun offset limit _ => ?_
  rw [mergedPage,candidates_sorted trans total distinct,slice_eq,slice_eq,take_filter]
  exact fun a listed => decide_eq_true (early.covered _ a listed)

omit [DecidableEq α] in
/-- The page that holds everything is the merged list, and what all pages come to. -/
theorem partitioned_eq {rows : List α} (partitions : Partitions (mergedPage le xs ys) rows) :
    rows = (xs ++ ys).mergeSort le := by
  have all : ∀ count, (xs ++ ys).length ≤ count → candidates xs ys count = xs ++ ys := by
    intro count many
    rw [List.length_append] at many
    rw [candidates,List.take_of_length_le (by omega),List.take_of_length_le (by omega)]
  have last : mergedPage le xs ys ((xs ++ ys).length + 1) ((xs ++ ys).length + 1) = [] := by
    rw [mergedPage,all _ (by omega),slice,List.drop_eq_nil_of_le,List.take_nil]
    rw [List.length_mergeSort]
    omega
  rw [first_page partitions (by omega) last,mergedPage,all _ (by omega),slice,List.drop_zero,
    List.take_of_length_le]
  rw [List.length_mergeSort]
  omega

theorem early_of_partition (distinct : (xs ++ ys).Nodup) {rows : List α}
    (partitions : Partitions (mergedPage le xs ys) rows) : Early le xs ys := by
  have same := partitioned_eq partitions
  subst same
  -- The first page of each size holds as many elements as the merged list has.
  have covered : ∀ count, ∀ a ∈ ((xs ++ ys).mergeSort le).take count,
      a ∈ candidates xs ys count := by
    intro count a listed
    cases count with
    | zero => simp at listed
    | succ count =>
      have front := first_prefix partitions (Nat.succ_pos count)
      have page : mergedPage le xs ys 0 (count + 1) =
          ((candidates xs ys (count + 1)).mergeSort le).take (count + 1) := by
        rw [mergedPage,slice,Nat.zero_add,List.drop_zero]
      have long : (((xs ++ ys).mergeSort le).take (count + 1)).length ≤
          (mergedPage le xs ys 0 (count + 1)).length := by
        rw [page,List.length_take,List.length_take,List.length_mergeSort,List.length_mergeSort,
          candidates,List.length_append,List.length_append,List.length_take,List.length_take]
        omega
      have within : ((xs ++ ys).mergeSort le).take (count + 1) <+: mergedPage le xs ys 0 (count + 1) :=
        List.prefix_of_prefix_length_le (List.take_prefix _ _) front long
      have member := within.subset listed
      rw [page] at member
      exact List.mem_mergeSort.mp (List.mem_of_mem_take member)
  have disjoint := List.disjoint_of_nodup_append distinct
  have soon : ∀ a ∈ xs ++ ys,
      a ∈ candidates xs ys (((xs ++ ys).mergeSort le).idxOf a + 1) := by
    intro a listed
    refine covered _ a ((List.mem_take_iff_idxOf_lt ?_).mpr (Nat.lt_succ_self _))
    exact List.mem_mergeSort.mpr listed
  constructor
  · intro a left
    rcases List.mem_append.mp (soon a (List.mem_append_left _ left)) with here | there
    · exact Nat.le_of_lt_succ ((List.mem_take_iff_idxOf_lt left).mp here)
    · exact absurd (List.mem_of_mem_take there) (disjoint left)
  · intro a right
    rcases List.mem_append.mp (soon a (List.mem_append_right _ right)) with there | here
    · exact absurd right (disjoint (List.mem_of_mem_take there))
    · exact Nat.le_of_lt_succ ((List.mem_take_iff_idxOf_lt right).mp here)

end Merge

end Valdrics.Paging

import Mathlib.Algebra.Order.BigOperators.Group.List
import Mathlib.Algebra.Order.Group.MinMax

/-! Drawing an amount on pools in their order, from each as much as it has and is still missing. -/
namespace Valdrics.OrderedDraw

section

variable {α : Type*} [AddCommGroup α] [LinearOrder α]

def draws (amount : α) : List α → List α
  | [] => []
  | pool :: later => min amount pool :: draws (amount - min amount pool) later

@[simp] theorem draws_nil (amount : α) : draws amount [] = [] := rfl

@[simp] theorem draws_cons (amount pool : α) (later : List α) :
    draws amount (pool :: later) = min amount pool :: draws (amount - min amount pool) later := rfl

theorem draws_append (amount : α) (first later : List α) :
    draws amount (first ++ later) =
      draws amount first ++ draws (amount - (draws amount first).sum) later := by
  induction first generalizing amount with
  | nil => simp
  | cons pool rest ih =>
    simp only [List.cons_append,draws_cons,ih,List.sum_cons]
    rw [sub_sub]

theorem draws_le (amount : α) (pools : List α) :
    List.Forall₂ (· ≤ ·) (draws amount pools) pools := by
  induction pools generalizing amount with
  | nil => exact .nil
  | cons pool rest ih => exact .cons (min_le_right amount pool) (ih _)

variable [IsOrderedAddMonoid α]

theorem draws_nonneg {amount : α} {pools : List α} (nonneg : 0 ≤ amount)
    (pooled : ∀ pool ∈ pools, 0 ≤ pool) : ∀ drawn ∈ draws amount pools, 0 ≤ drawn := by
  induction pools generalizing amount with
  | nil => simp
  | cons pool rest ih =>
    have here : 0 ≤ min amount pool := le_min nonneg (pooled pool (by simp))
    have left : 0 ≤ amount - min amount pool := sub_nonneg.mpr (min_le_left amount pool)
    intro drawn member
    rcases List.mem_cons.mp member with rfl | later
    · exact here
    · exact ih left (fun pool member => pooled pool (List.mem_cons_of_mem _ member)) drawn later

theorem draws_sum {amount : α} {pools : List α} (nonneg : 0 ≤ amount)
    (pooled : ∀ pool ∈ pools, 0 ≤ pool) : (draws amount pools).sum = min amount pools.sum := by
  induction pools generalizing amount with
  | nil => simp [nonneg]
  | cons pool rest ih =>
    have left : 0 ≤ amount - min amount pool := sub_nonneg.mpr (min_le_left amount pool)
    have after := ih left fun pool member => pooled pool (List.mem_cons_of_mem _ member)
    have others : 0 ≤ rest.sum :=
      List.sum_nonneg fun pool member => pooled pool (List.mem_cons_of_mem _ member)
    rw [draws_cons,List.sum_cons,List.sum_cons,after]
    rcases le_total amount pool with within | beyond
    · rw [min_eq_left within,sub_self,min_eq_left others,add_zero]
      exact (min_eq_left (within.trans (le_add_of_nonneg_right others))).symm
    · rw [min_eq_right beyond,← min_add_add_left,add_sub_cancel]

theorem draws_emptied {amount : α} {pools : List α} (pooled : ∀ pool ∈ pools, 0 ≤ pool)
    (missing : pools.sum ≤ amount) : draws amount pools = pools := by
  induction pools generalizing amount with
  | nil => rfl
  | cons pool rest ih =>
    have others : ∀ pool ∈ rest, 0 ≤ pool :=
      fun pool member => pooled pool (List.mem_cons_of_mem _ member)
    rw [List.sum_cons] at missing
    have here : pool ≤ amount := (le_add_of_nonneg_right (List.sum_nonneg others)).trans missing
    rw [draws_cons,min_eq_right here,ih others (le_sub_iff_add_le'.mpr missing)]

theorem draws_exhausts {amount drawn : α} {first later : List α} (nonneg : 0 ≤ amount)
    (pooled : ∀ pool ∈ first, 0 ≤ pool) (others : ∀ pool ∈ later, 0 ≤ pool)
    (member : drawn ∈ draws (amount - (draws amount first).sum) later) (positive : 0 < drawn) :
    draws amount first = first := by
  rcases le_total first.sum amount with missing | covered
  · exact draws_emptied pooled missing
  · rw [draws_sum nonneg pooled,min_eq_left covered,sub_self] at member
    have total : (draws (0 : α) later).sum = 0 := by
      rw [draws_sum le_rfl others,min_eq_left (List.sum_nonneg others)]
    have most := List.single_le_sum (draws_nonneg le_rfl others) drawn member
    exact absurd (total ▸ most) (not_le.mpr positive)

end

end Valdrics.OrderedDraw

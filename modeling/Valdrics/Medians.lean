import Mathlib.Algebra.Order.Field.Rat
import Mathlib.Data.List.Basic

/-! The median of numbers as `statistics.median` takes it. -/
namespace Valdrics.Median

def median (round : Rat → Rat) (values : List Rat) : Rat :=
  let data := values.mergeSort fun a b => a ≤ b
  let n := data.length
  if n % 2 = 1 then data.getD (n / 2) 0
  else round ((data.getD (n / 2 - 1) 0 + data.getD (n / 2) 0) / 2)

theorem middle_of_most {data : List Rat} (sorted : data.Pairwise (· ≤ ·)) {half : Nat}
    (odd : data.length = 2 * half + 1) {value : Rat}
    (most : half < (data.filter fun x => x = value).length) : data.getD half 0 = value := by
  have inside : half < data.length := by omega
  have split : data = data.take half ++ data[half] :: data.drop (half + 1) := by
    rw [List.getElem_cons_drop,List.take_append_drop]
  have parts := sorted
  rw [split] at parts
  obtain ⟨-,upper,lower⟩ := List.pairwise_append.mp parts
  have few : ∀ xs : List Rat, (xs.filter fun x => x = value).length ≤ xs.length :=
    fun xs => List.length_filter_le _ xs
  rw [List.getD_eq_getElem?_getD,List.getElem?_eq_getElem inside,Option.getD_some]
  rcases lt_trichotomy data[half] value with less | same | more
  · -- All values up to the middle are less, and as many as half are left.
    have none : (data.take half).filter (fun x => x = value) = [] :=
      List.filter_eq_nil_iff.mpr fun x listed equal => by
        have le := lower x listed data[half] List.mem_cons_self
        exact absurd (of_decide_eq_true equal) (le.trans_lt less).ne
    have rest := few (data.drop (half + 1))
    rw [split,List.filter_append,none,List.nil_append,List.filter_cons,
      if_neg (by simpa using less.ne)] at most
    rw [List.length_drop] at rest
    omega
  · exact same
  · have none : (data.drop (half + 1)).filter (fun x => x = value) = [] :=
      List.filter_eq_nil_iff.mpr fun x listed equal => by
        have ge := (List.pairwise_cons.mp upper).1 x listed
        exact absurd (of_decide_eq_true equal) (more.trans_le ge).ne'
    have front := few (data.take half)
    rw [split,List.filter_append,List.filter_cons,if_neg (by simpa using more.ne'),none,
      List.append_nil] at most
    rw [List.length_take] at front
    omega

theorem median_of_most (round : Rat → Rat) {values : List Rat} {half : Nat}
    (odd : values.length = 2 * half + 1) {value : Rat}
    (most : half < (values.filter fun x => x = value).length) : median round values = value := by
  have perm := List.mergeSort_perm values fun a b => decide (a ≤ b)
  have trans : ∀ a b c : Rat, decide (a ≤ b) = true → decide (b ≤ c) = true → decide (a ≤ c) = true :=
    fun a b c first second => decide_eq_true ((of_decide_eq_true first).trans (of_decide_eq_true second))
  have total : ∀ a b : Rat, (decide (a ≤ b) || decide (b ≤ a)) = true := fun a b => by
    rw [Bool.or_eq_true,decide_eq_true_eq,decide_eq_true_eq]
    exact le_total a b
  have sorted := List.pairwise_mergeSort trans total values
  have length : (values.mergeSort fun a b => decide (a ≤ b)).length = 2 * half + 1 :=
    perm.length_eq.trans odd
  rw [median]
  rw [length,if_pos (by omega),show (2 * half + 1) / 2 = half by omega]
  refine middle_of_most (sorted.imp fun le => of_decide_eq_true le) length ?_
  rwa [(perm.filter _).length_eq]

end Valdrics.Median

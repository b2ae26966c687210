import Mathlib.Algebra.BigOperators.Group.Finset.Piecewise
import Mathlib.Algebra.Order.BigOperators.Group.Finset
import Mathlib.Algebra.Order.Ring.Int
import Mathlib.Tactic.Abel

/-! What the parties of a system weigh together. All but finitely many weigh nothing, so
the weight of the whole is a finite sum, and a move changes it by the mover's own weight. -/
namespace Valdrics.Interleaving

variable {ι φ : Type} {weight other : φ → Int} {phase later : ι → φ} {total : Int}

def Weighs (weight : φ → Int) (phase : ι → φ) (total : Int) : Prop :=
  ∃ parties : Finset ι, (∀ party ∉ parties, weight (phase party) = 0) ∧
    ∑ party ∈ parties, weight (phase party) = total

namespace Weighs

theorem nothing (empty : ∀ party, weight (phase party) = 0) : Weighs weight phase 0 :=
  ⟨∅,fun party _ => empty party,Finset.sum_empty⟩

theorem congr (weighs : Weighs weight phase total)
    (same : ∀ party, other (later party) = weight (phase party)) : Weighs other later total := by
  obtain ⟨parties,outside,sum⟩ := weighs
  refine ⟨parties,fun party away => (same party).trans (outside party away),?_⟩
  rw [← sum]
  exact Finset.sum_congr rfl fun party _ => same party

theorem extend [DecidableEq ι] {parties : Finset ι}
    (outside : ∀ party ∉ parties, weight (phase party) = 0) (more : Finset ι) :
    ∑ party ∈ parties ∪ more, weight (phase party) = ∑ party ∈ parties, weight (phase party) := by
  symm
  apply Finset.sum_subset Finset.subset_union_left
  exact fun party _ away => outside party away

theorem unique (one : Weighs weight phase total) {total' : Int} (two : Weighs weight phase total') :
    total = total' := by
  classical
  obtain ⟨parties,outside,sum⟩ := one
  obtain ⟨parties',outside',sum'⟩ := two
  calc total = ∑ party ∈ parties ∪ parties', weight (phase party) := by rw [extend outside, sum]
    _ = ∑ party ∈ parties' ∪ parties, weight (phase party) := by rw [Finset.union_comm]
    _ = total' := by rw [extend outside', sum']

theorem move [DecidableEq ι] (weighs : Weighs weight phase total) (party : ι) (next : φ) :
    Weighs weight (Function.update phase party next)
      (total - weight (phase party) + weight next) := by
  obtain ⟨parties,outside,sum⟩ := weighs
  refine ⟨parties ∪ {party},fun moved away => ?_,?_⟩
  · rw [Finset.mem_union, Finset.mem_singleton, not_or] at away
    rw [Function.update_of_ne away.2]
    exact outside moved away.1
  · have member : party ∈ parties ∪ {party} := by simp
    have whole := extend outside {party}
    rw [sum] at whole
    have rest : ∑ moved ∈ (parties ∪ {party}).erase party,
        weight (Function.update phase party next moved) =
          ∑ moved ∈ (parties ∪ {party}).erase party, weight (phase moved) := by
      apply Finset.sum_congr rfl
      intro moved inside
      rw [Function.update_of_ne (Finset.ne_of_mem_erase inside)]
    rw [← Finset.add_sum_erase _ _ member] at whole ⊢
    rw [rest, ← whole, Function.update_self]
    abel

theorem weight_le (weighs : Weighs weight phase total)
    (nonneg : ∀ party, 0 ≤ weight (phase party)) (party : ι) : weight (phase party) ≤ total := by
  obtain ⟨parties,outside,sum⟩ := weighs
  by_cases member : party ∈ parties
  · rw [← sum]
    exact Finset.single_le_sum (fun moved _ => nonneg moved) member
  · rw [outside party member, ← sum]
    exact Finset.sum_nonneg fun moved _ => nonneg moved

end Weighs

end Valdrics.Interleaving

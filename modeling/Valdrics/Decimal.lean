import Mathlib.Tactic.Positivity

/-! Decimal numbers as a coefficient and a power of ten, and quantization to a
fixed number of places with ties to even. A quantized amount is the integer
count of its last place, so that arithmetic on amounts of one scale is exact. -/
namespace Valdrics

structure Decimal where
  coefficient : Int
  exponent : Int
  deriving DecidableEq, Repr

/-- The nearest integer to `a / b`, the even one of two equally near. -/
def divRoundHalfEven (a b : Int) : Int :=
  let floor := a / b
  let rest := a % b
  if 2 * rest < b then floor
  else if b < 2 * rest then floor + 1
  else if floor % 2 = 0 then floor else floor + 1

namespace Decimal

/-- The amount in units of the last of `places` digits after the point. -/
def scaled (d : Decimal) (places : Nat) : Int :=
  let shift := d.exponent + places
  if 0 ≤ shift then d.coefficient * 10 ^ shift.toNat
  else divRoundHalfEven d.coefficient (10 ^ (-shift).toNat)

def ofUnits (units : Int) (places : Nat) : Decimal := ⟨units,-places⟩

def plus (a b : Decimal) : Decimal :=
  let exponent := min a.exponent b.exponent
  ⟨a.coefficient * 10 ^ (a.exponent - exponent).toNat +
    b.coefficient * 10 ^ (b.exponent - exponent).toNat,exponent⟩

end Decimal

theorem divRoundHalfEven_nonneg (nonneg : 0 ≤ a) (positive : 0 < b) :
    0 ≤ divRoundHalfEven a b := by
  have floor : 0 ≤ a / b := Int.ediv_nonneg nonneg positive.le
  unfold divRoundHalfEven
  dsimp only
  split
  · exact floor
  · split
    · omega
    · split <;> omega

theorem divRoundHalfEven_bounds (a b : Int) :
    a / b ≤ divRoundHalfEven a b ∧ divRoundHalfEven a b ≤ a / b + 1 := by
  unfold divRoundHalfEven
  dsimp only
  split_ifs <;> omega

theorem divRoundHalfEven_mono (le : a ≤ a') (positive : 0 < b) :
    divRoundHalfEven a b ≤ divRoundHalfEven a' b := by
  have quotients : a / b ≤ a' / b := Int.ediv_le_ediv positive le
  rcases quotients.lt_or_eq with less | same
  · have upper := (divRoundHalfEven_bounds a b).2
    have lower := (divRoundHalfEven_bounds a' b).1
    omega
  · have first := Int.mul_ediv_add_emod a b
    have second := Int.mul_ediv_add_emod a' b
    rw [same] at first
    have rests : a % b ≤ a' % b := by omega
    unfold divRoundHalfEven
    dsimp only
    rw [same]
    split_ifs <;> omega

namespace Decimal

@[simp] theorem scaled_ofUnits (units : Int) (places : Nat) :
    (ofUnits units places).scaled places = units := by
  simp [scaled, ofUnits]

theorem scaled_mono {c c' : Int} (le : c ≤ c') (exponent : Int) (places : Nat) :
    (⟨c,exponent⟩ : Decimal).scaled places ≤ (⟨c',exponent⟩ : Decimal).scaled places := by
  unfold scaled
  dsimp only
  split
  · exact Int.mul_le_mul_of_nonneg_right le (by positivity)
  · exact divRoundHalfEven_mono le (by positivity)

theorem scaled_nonneg {d : Decimal} (nonneg : 0 ≤ d.coefficient) (places : Nat) :
    0 ≤ d.scaled places := by
  unfold scaled
  dsimp only
  split
  · positivity
  · exact divRoundHalfEven_nonneg nonneg (by positivity)

end Decimal

/-- A number as a decimal type holds it. A signaling `NaN` fails in every operation,
a quiet one in comparisons only. The sign of a zero is not kept. -/
inductive DecimalValue where
  | finite (number : Decimal)
  | nan (signaling : Bool)
  | infinite (negative : Bool)
  deriving DecidableEq, Repr

namespace DecimalValue

/-- `quantize` in a context of 28 digits: `none` raises, and `some none` is a `NaN`. -/
def quantize (value : DecimalValue) (places : Nat) : Option (Option Int) :=
  match value with
  | .finite number =>
    if (number.scaled places).natAbs < 10 ^ 28 then some (some (number.scaled places)) else none
  | .nan signaling => if signaling then none else some none
  | .infinite _ => none

end DecimalValue

end Valdrics

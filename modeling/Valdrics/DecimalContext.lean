import Mathlib.Algebra.BigOperators.Group.List.Basic
import Mathlib.Algebra.Field.Rat
import Valdrics.NumberText

/-! Arithmetic of decimal numbers in the default context, which keeps 28 digits and raises on
an invalid operation, and the columns of fixed scale that a database rounds numbers to. -/
namespace Valdrics

namespace Decimal

def inUnits (d : Decimal) (places : Nat) : ℚ := d.coefficient * (10 : ℚ) ^ (d.exponent + places)

def contextDigits : Nat := 28

/-- The nearest number of 28 digits, the even one of two equally near. -/
def inContext (d : Decimal) : Decimal :=
  let excess := (digits d.coefficient.natAbs).length - contextDigits
  if excess = 0 then d else ⟨divRoundHalfEven d.coefficient (10 ^ excess),d.exponent + excess⟩

def negated (d : Decimal) : Decimal := ⟨-d.coefficient,d.exponent⟩
def add (a b : Decimal) : Decimal := (a.plus b).inContext
def sub (a b : Decimal) : Decimal := a.add b.negated
def mul (a b : Decimal) : Decimal :=
  inContext ⟨a.coefficient * b.coefficient,a.exponent + b.exponent⟩

def divHundred (a : Decimal) : Decimal := ⟨a.coefficient,a.exponent - 2⟩

/-- The units of a column of this scale, of two equally near the one farther from zero. -/
def columnUnits (d : Decimal) (places : Nat) : Int :=
  let shift := d.exponent + places
  if 0 ≤ shift then d.coefficient * 10 ^ shift.toNat
  else
    let unit := 10 ^ (-shift).toNat
    d.coefficient.sign * ((2 * d.coefficient.natAbs + unit) / (2 * unit) : Nat)

@[simp] theorem columnUnits_ofUnits (units : Int) (places : Nat) :
    (ofUnits units places).columnUnits places = units := by
  simp [columnUnits,ofUnits]

theorem divRoundHalfEven_mul (a b : Int) {t : Int} (positive : 0 < t) :
    divRoundHalfEven (a * t) (b * t) = divRoundHalfEven a b := by
  have quotient : a * t / (b * t) = a / b := Int.mul_ediv_mul_of_pos_left a b positive
  have rest : a * t % (b * t) = a % b * t := by
    rw [mul_comm a,mul_comm b,Int.mul_emod_mul_of_pos a b positive,mul_comm]
  have less (x y : Int) : 2 * (x * t) < y * t ↔ 2 * x < y := by
    rw [← mul_assoc]
    exact Int.mul_lt_mul_right positive
  have more (x y : Int) : y * t < 2 * (x * t) ↔ y < 2 * x := by
    rw [← mul_assoc]
    exact Int.mul_lt_mul_right positive
  unfold divRoundHalfEven
  dsimp only
  rw [quotient,rest]
  simp only [less,more]

@[simp] theorem divRoundHalfEven_one (a : Int) : divRoundHalfEven a 1 = a := by
  simp [divRoundHalfEven]

theorem scaled_align (c e : Int) (k places : Nat) :
    (⟨c * 10 ^ k,e - k⟩ : Decimal).scaled places = (⟨c,e⟩ : Decimal).scaled places := by
  unfold scaled
  dsimp only
  by_cases fine : 0 ≤ e - k + places
  · have coarse : 0 ≤ e + places := by omega
    have power : (e + places).toNat = k + (e - k + places).toNat := by omega
    rw [if_pos fine,if_pos coarse,power,pow_add,mul_assoc]
  · rw [if_neg fine]
    by_cases coarse : 0 ≤ e + places
    · have power : (10 : Int) ^ k =
          10 ^ (e + places).toNat * 10 ^ (-(e - k + places)).toNat := by
        rw [← pow_add]
        congr 1
        omega
      have whole := divRoundHalfEven_mul (c * 10 ^ (e + places).toNat) 1
        (t := 10 ^ (-(e - k + places)).toNat) (by positivity)
      rw [one_mul] at whole
      rw [if_pos coarse,power,← mul_assoc,whole,divRoundHalfEven_one]
    · have power : (-(e - k + places)).toNat = (-(e + places)).toNat + k := by omega
      rw [if_neg coarse,power,pow_add]
      exact divRoundHalfEven_mul c (10 ^ (-(e + places)).toNat) (by positivity)

theorem scaled_le {a b : Decimal} (le : a.inUnits 0 ≤ b.inUnits 0) (places : Nat) :
    a.scaled places ≤ b.scaled places := by
  have aligned (d : Decimal) (e : Int) (below : e ≤ d.exponent) :
      d.scaled places = (⟨d.coefficient * 10 ^ (d.exponent - e).toNat,e⟩ : Decimal).scaled places := by
    have same := scaled_align d.coefficient d.exponent (d.exponent - e).toNat places
    have least : d.exponent - ((d.exponent - e).toNat : Int) = e := by omega
    rw [least] at same
    exact same.symm
  have units (d : Decimal) (e : Int) (below : e ≤ d.exponent) :
      d.inUnits 0 = (d.coefficient * 10 ^ (d.exponent - e).toNat : Int) * (10 : ℚ) ^ e := by
    have power : (10 : ℚ) ^ d.exponent = 10 ^ (d.exponent - e).toNat * 10 ^ e := by
      rw [← zpow_natCast,← zpow_add₀ (by norm_num)]
      congr 1
      omega
    simp only [inUnits,Nat.cast_zero,add_zero]
    rw [power,← mul_assoc]
    push_cast
    rfl
  have left : min a.exponent b.exponent ≤ a.exponent := min_le_left _ _
  have right : min a.exponent b.exponent ≤ b.exponent := min_le_right _ _
  rw [units a _ left,units b _ right] at le
  rw [aligned a _ left,aligned b _ right]
  have positive : (0 : ℚ) < 10 ^ min a.exponent b.exponent := zpow_pos (by norm_num) _
  have coefficients := le_of_mul_le_mul_right le positive
  exact scaled_mono (by exact_mod_cast coefficients) _ places

def drift (d : Decimal) (places : Nat) : ℚ := d.columnUnits places - d.inUnits places

end Decimal

namespace DecimalValue

def negated : DecimalValue → DecimalValue
  | .finite number => .finite number.negated
  | .infinite negative => .infinite !negative
  | .nan signaling => .nan signaling

/-- The sum; `none` raises. -/
def add : DecimalValue → DecimalValue → Option DecimalValue
  | .finite a, .finite b => some (.finite (a.add b))
  | .nan true, _ | _, .nan true => none
  | .nan false, _ | _, .nan false => some (.nan false)
  | .infinite a, .infinite b => if a = b then some (.infinite a) else none
  | .infinite a, .finite _ | .finite _, .infinite a => some (.infinite a)

def sub (a b : DecimalValue) : Option DecimalValue := a.add b.negated

/-- A number times a value; zero times an infinite one raises. -/
def scaleBy (a : Decimal) : DecimalValue → Option DecimalValue
  | .finite b => some (.finite (a.mul b))
  | .nan signaling => if signaling then none else some (.nan false)
  | .infinite negative =>
    if a.coefficient = 0 then none else some (.infinite (xor negative (decide (a.coefficient < 0))))

def divHundred : DecimalValue → DecimalValue
  | .finite a => .finite a.divHundred
  | value => value

/-- `value < 0`; a `NaN` raises. -/
def isNegative : DecimalValue → Option Bool
  | .finite number => some (number.coefficient < 0)
  | .infinite negative => some negative
  | .nan _ => none

/-- `value > 0`; a `NaN` raises. -/
def isPositive : DecimalValue → Option Bool
  | .finite number => some (0 < number.coefficient)
  | .infinite negative => some !negative
  | .nan _ => none

/-- A column of this precision and scale; `none` is a value that it does not hold. -/
def column (precision places : Nat) : DecimalValue → Option Int
  | .finite number =>
    if (number.columnUnits places).natAbs < 10 ^ precision then some (number.columnUnits places)
    else none
  | _ => none

theorem column_finite {value : DecimalValue} {precision places : Nat} {units : Int}
    (held : value.column precision places = some units) :
    ∃ number, value = .finite number ∧ units = number.columnUnits places := by
  cases value with
  | finite number =>
    simp only [column] at held
    split at held
    · exact ⟨number,rfl,(Option.some.inj held).symm⟩
    · simp at held
  | nan signaling => simp [column] at held
  | infinite negative => simp [column] at held

end DecimalValue

end Valdrics

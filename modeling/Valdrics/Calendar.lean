import Mathlib.Data.Nat.Find
import Mathlib.Order.Monotone.Basic
import Mathlib.Order.Basic

/-! Months of the proleptic Gregorian calendar. An instant counts microseconds
from midnight of the first day of year 1; months are numbered from the same day. -/
namespace Valdrics


namespace Calendar

def microsPerSecond : Nat := 1000000
def microsPerDay : Nat := 86400 * microsPerSecond

def isLeapYear (year : Nat) : Bool :=
  year % 4 = 0 && (year % 100 ≠ 0 || year % 400 = 0)

/-- Month `index` is month `index % 12` (January is 0) of year `index / 12 + 1`. -/
def daysInMonth (index : Nat) : Nat :=
  match index % 12 with
  | 1 => if isLeapYear (index / 12 + 1) then 29 else 28
  | 3 | 5 | 8 | 10 => 30
  | _ => 31

def monthStartDay : Nat → Nat
  | 0 => 0
  | index + 1 => monthStartDay index + daysInMonth index

def monthStart (index : Nat) : Nat := monthStartDay index * microsPerDay

def monthOf (instant : Nat) : Nat :=
  Nat.findGreatest (fun index => monthStart index ≤ instant) (instant / (28 * microsPerDay))

theorem twentyEight_le_daysInMonth (index : Nat) : 28 ≤ daysInMonth index := by
  unfold daysInMonth
  split
  · split <;> omega
  all_goals omega

theorem monthStart_lt_succ (index : Nat) : monthStart index < monthStart (index + 1) := by
  have days := twentyEight_le_daysInMonth index
  simp only [monthStart, monthStartDay]
  exact Nat.mul_lt_mul_of_pos_right (by omega) (by decide)

theorem monthStart_strictMono : StrictMono monthStart :=
  strictMono_nat_of_lt_succ monthStart_lt_succ

theorem days_le_monthStart (index : Nat) : 28 * microsPerDay * index ≤ monthStart index := by
  induction index with
  | zero => simp
  | succ index ih =>
    have days := twentyEight_le_daysInMonth index
    simp only [monthStart, monthStartDay, microsPerDay, microsPerSecond] at ih ⊢
    omega

theorem monthStart_le (instant : Nat) : monthStart (monthOf instant) ≤ instant := by
  have first : monthStart 0 ≤ instant := by simp [monthStart, monthStartDay]
  exact Nat.findGreatest_spec (P := fun index => monthStart index ≤ instant) (Nat.zero_le _) first

theorem monthOf_unique {instant : Nat} {index : Nat} (from_ : monthStart index ≤ instant)
    (before : instant < monthStart (index + 1)) : monthOf instant = index := by
  have inRange : index ≤ instant / (28 * microsPerDay) := by
    have days := days_le_monthStart index
    rw [Nat.le_div_iff_mul_le (by decide)]
    rw [Nat.mul_comm]
    exact days.trans from_
  have atLeast : index ≤ monthOf instant :=
    Nat.le_findGreatest (P := fun index => monthStart index ≤ instant) inRange from_
  have atMost : monthOf instant < index + 1 :=
    monthStart_strictMono.lt_iff_lt.mp ((monthStart_le instant).trans_lt before)
  omega

theorem lt_monthStart_succ (instant : Nat) : instant < monthStart (monthOf instant + 1) := by
  by_contra reached
  have next : monthStart (monthOf instant + 1) ≤ instant := Nat.le_of_not_lt reached
  have inRange : monthOf instant + 1 ≤ instant / (28 * microsPerDay) := by
    have days := days_le_monthStart (monthOf instant + 1)
    rw [Nat.le_div_iff_mul_le (by decide)]
    rw [Nat.mul_comm]
    exact days.trans next
  have greater : monthOf instant + 1 ≤ monthOf instant :=
    Nat.le_findGreatest (P := fun index => monthStart index ≤ instant) inRange next
  omega

/-- Two instants lie in the same month exactly when one is within the other's bounds. -/
theorem monthOf_eq_iff (instant now : Nat) : monthOf instant = monthOf now ↔
    monthStart (monthOf now) ≤ instant ∧ instant < monthStart (monthOf now + 1) := by
  constructor
  · intro same
    rw [← same]
    exact ⟨monthStart_le instant,lt_monthStart_succ instant⟩
  · rintro ⟨from_,before⟩
    exact monthOf_unique from_ before

theorem monthOf_mono {earlier later : Nat} (order : earlier ≤ later) :
    monthOf earlier ≤ monthOf later := by
  have start := (monthStart_le earlier).trans order
  have bound := start.trans_lt (lt_monthStart_succ later)
  have := monthStart_strictMono.lt_iff_lt.mp bound
  omega

end Calendar

end Valdrics

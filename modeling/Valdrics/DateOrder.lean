import Mathlib.Tactic.Linarith
import Valdrics.DateText

/-! The order of texts by their characters, and that of dates written in ISO 8601: of two dates the
earlier one has the lesser text, as long as years have four digits. -/
namespace Valdrics

namespace PythonText

/-- `a < b` for texts, as lists of their characters. -/
def before : List Char → List Char → Bool
  | _, [] => false
  | [], _ :: _ => true
  | a :: as, b :: bs => a.toNat < b.toNat || (a = b && before as bs)

theorem before_irrefl (cs : List Char) : before cs cs = false := by
  induction cs with
  | nil => rfl
  | cons c cs ih => simp [before,ih]

theorem before_asymm {as bs : List Char} (lesser : before as bs = true) : before bs as = false := by
  induction as generalizing bs with
  | nil =>
    cases bs with
    | nil => exact Bool.noConfusion lesser
    | cons b bs => rfl
  | cons a as ih =>
    cases bs with
    | nil => exact Bool.noConfusion lesser
    | cons b bs =>
      simp only [before,Bool.or_eq_true,Bool.and_eq_true,decide_eq_true_eq,Bool.or_eq_false_iff,
        Bool.and_eq_false_iff,decide_eq_false_iff_not] at lesser ⊢
      rcases lesser with less | ⟨rfl,lesser⟩
      · refine ⟨by omega,.inl ?_⟩
        rintro rfl
        exact Nat.lt_irrefl _ less
      · exact ⟨Nat.lt_irrefl _,.inr (ih lesser)⟩

theorem before_trans {as bs cs : List Char} (first : before as bs = true)
    (second : before bs cs = true) : before as cs = true := by
  induction bs generalizing as cs with
  | nil => cases as <;> exact Bool.noConfusion first
  | cons b bs ih =>
    cases cs with
    | nil => exact Bool.noConfusion second
    | cons c cs =>
      cases as with
      | nil => rfl
      | cons a as =>
        simp only [before,Bool.or_eq_true,Bool.and_eq_true,decide_eq_true_eq] at first second ⊢
        rcases first with less | ⟨rfl,first⟩
        · rcases second with less' | ⟨rfl,-⟩
          · exact .inl (less.trans less')
          · exact .inl less
        · rcases second with less' | ⟨rfl,second⟩
          · exact .inl less'
          · exact .inr ⟨rfl,ih first second⟩

theorem before_connected {as bs : List Char} (first : before as bs = false)
    (second : before bs as = false) : as = bs := by
  induction as generalizing bs with
  | nil =>
    cases bs with
    | nil => rfl
    | cons b bs => exact Bool.noConfusion first
  | cons a as ih =>
    cases bs with
    | nil => exact Bool.noConfusion second
    | cons b bs =>
      simp only [before,Bool.or_eq_false_iff,decide_eq_false_iff_not] at first second
      have same : a = b := Char.ext (UInt32.toNat_inj.mp (by
        have := first.1
        have := second.1
        simp only [Char.toNat] at *
        omega))
      subst same
      simp only [decide_true,Bool.true_and] at first second
      rw [ih first.2 second.2]

theorem not_before_trans {as bs cs : List Char} (first : before as bs = false)
    (second : before bs cs = false) : before as cs = false := by
  by_contra less
  rw [Bool.not_eq_false] at less
  cases back : before bs as with
  | true => exact absurd (before_trans back less) (by simp [second])
  | false =>
    obtain rfl := before_connected first back
    exact absurd less (by simp [second])

theorem before_append_left (front : List Char) {as bs : List Char} (lesser : before as bs = true) :
    before (front ++ as) (front ++ bs) = true := by
  induction front with
  | nil => exact lesser
  | cons c front ih => simp [before,ih]

theorem before_append {as bs : List Char} (length : as.length = bs.length)
    (lesser : before as bs = true) (cs ds : List Char) : before (as ++ cs) (bs ++ ds) = true := by
  induction as generalizing bs with
  | nil =>
    obtain rfl := List.length_eq_zero_iff.mp length.symm
    exact Bool.noConfusion lesser
  | cons a as ih =>
    cases bs with
    | nil => simp at length
    | cons b bs =>
      simp only [before,Bool.or_eq_true,Bool.and_eq_true,decide_eq_true_eq,List.cons_append] at lesser ⊢
      rcases lesser with less | ⟨same,lesser⟩
      · exact .inl less
      · exact .inr ⟨same,ih (by simpa using length) lesser⟩

end PythonText

namespace DateText

open PythonText (before before_append before_append_left)

def Digits (cs : List Char) : Prop := ∀ c ∈ cs, 48 ≤ c.toNat ∧ c.toNat ≤ 57

theorem value_cons (c : Char) (cs : List Char) : Nat.ofDigitChars 10 (c :: cs) 0 =
    10 ^ cs.length * (c.toNat - 48) + Nat.ofDigitChars 10 cs 0 := by
  rw [Nat.ofDigitChars_cons,Nat.ofDigitChars_eq_ofDigitChars_zero,Nat.mul_zero,Nat.zero_add]
  rfl

theorem value_lt {cs : List Char} (digits : Digits cs) : Nat.ofDigitChars 10 cs 0 < 10 ^ cs.length := by
  induction cs with
  | nil => simp
  | cons c cs ih =>
    obtain ⟨⟨-,most⟩,rest⟩ := List.forall_mem_cons.mp digits
    have later := ih rest
    have digit : c.toNat - 48 ≤ 9 := by omega
    rw [value_cons,List.length_cons,Nat.pow_succ]
    nlinarith

/-- Of two numbers of as many digits the lesser one has the lesser text. -/
theorem before_of_lt {as bs : List Char} (digits : Digits as) (digits' : Digits bs)
    (length : as.length = bs.length) (less : Nat.ofDigitChars 10 as 0 < Nat.ofDigitChars 10 bs 0) :
    before as bs = true := by
  induction as generalizing bs with
  | nil =>
    obtain rfl := List.length_eq_zero_iff.mp length.symm
    exact absurd less (Nat.lt_irrefl _)
  | cons a as ih =>
    cases bs with
    | nil => simp at length
    | cons b bs =>
      obtain ⟨⟨least,most⟩,rest⟩ := List.forall_mem_cons.mp digits
      obtain ⟨⟨least',most'⟩,rest'⟩ := List.forall_mem_cons.mp digits'
      have same : as.length = bs.length := by simpa using length
      have bound' := value_lt rest'
      rw [value_cons,value_cons,same] at less
      simp only [before,Bool.or_eq_true,Bool.and_eq_true,decide_eq_true_eq]
      rcases Nat.lt_trichotomy a.toNat b.toNat with lower | equal | higher
      · exact .inl lower
      · obtain rfl := Char.toNat_inj.mp equal
        exact .inr ⟨rfl,ih rest rest' same (by omega)⟩
      · have above : b.toNat - 48 + 1 ≤ a.toNat - 48 := by omega
        nlinarith

theorem padded_digits (width n : Nat) : Digits (padded width n).toList := by
  intro c listed
  rw [padded,String.toList_ofList,List.mem_append] at listed
  rcases listed with zero | digit
  · rw [List.eq_of_mem_replicate zero]
    decide
  · have digit := Nat.isDigit_of_mem_toDigits (by decide) (by decide) digit
    simpa [Char.isDigit,UInt32.le_iff_toNat_le] using digit

theorem padded_length {width n : Nat} (positive : 0 < width) (fits : n < 10 ^ width) :
    (padded width n).toList.length = width := by
  have short := (Nat.length_toDigits_le_iff (by decide) positive).mpr fits
  rw [padded,String.toList_ofList,List.length_append,List.length_replicate]
  omega

theorem padded_value (width n : Nat) : Nat.ofDigitChars 10 (padded width n).toList 0 = n := by
  rw [padded,String.toList_ofList,Nat.ofDigitChars_append,Nat.ofDigitChars_replicate_zero,
    Nat.mul_zero,Nat.ofDigitChars_ten_toDigits]

theorem padded_before {width n m : Nat} (positive : 0 < width) (less : n < m) (fits : m < 10 ^ width) :
    before (padded width n).toList (padded width m).toList = true := by
  refine before_of_lt (padded_digits width n) (padded_digits width m) ?_ ?_
  · rw [padded_length positive (less.trans fits),padded_length positive fits]
  · rwa [padded_value,padded_value]

def yearOf (day : Nat) : Nat := Calendar.monthOf (day * Calendar.microsPerDay) / 12 + 1

theorem yearOf_le (day : Nat) : yearOf day ≤ day / 336 + 1 := by
  have months : Calendar.monthOf (day * Calendar.microsPerDay) ≤ day / 28 := by
    have most := Nat.findGreatest_le (P := fun index =>
      Calendar.monthStart index ≤ day * Calendar.microsPerDay)
      (day * Calendar.microsPerDay / (28 * Calendar.microsPerDay))
    have same := Nat.mul_div_mul_right day 28 (show 0 < Calendar.microsPerDay by decide)
    exact most.trans same.le
  have years := Nat.div_le_div_right (c := 12) months
  rw [Nat.div_div_eq_div_mul] at years
  exact Nat.succ_le_succ years

theorem daysInMonth_le (month : Nat) : Calendar.daysInMonth month ≤ 31 := by
  rw [Calendar.daysInMonth]
  split
  · split
    · decide
    · decide
  · decide
  · decide
  · decide
  · decide
  · exact le_rfl

theorem month_bounds (day : Nat) :
    Calendar.monthStartDay (Calendar.monthOf (day * Calendar.microsPerDay)) ≤ day ∧
      day < Calendar.monthStartDay (Calendar.monthOf (day * Calendar.microsPerDay)) + 31 := by
  have most := daysInMonth_le (Calendar.monthOf (day * Calendar.microsPerDay))
  have start := Calendar.monthStart_le (day * Calendar.microsPerDay)
  have past := Calendar.lt_monthStart_succ (day * Calendar.microsPerDay)
  rw [Calendar.monthStart] at start past
  rw [Calendar.monthStartDay] at past
  have positive : 0 < Calendar.microsPerDay := by decide
  have lower := le_of_mul_le_mul_right start positive
  have upper := lt_of_mul_lt_mul_right past positive.le
  exact ⟨lower,upper.trans_le (Nat.add_le_add_left most _)⟩

/-- The earlier of two dates has the lesser text. -/
theorem isoFormat_before {day later : Nat} (less : day < later) (dated : yearOf later ≤ 9999) :
    before (isoFormat day).toList (isoFormat later).toList = true := by
  have order : Calendar.monthOf (day * Calendar.microsPerDay) ≤
      Calendar.monthOf (later * Calendar.microsPerDay) :=
    Calendar.monthOf_mono (Nat.mul_le_mul_right _ less.le)
  have bounds := month_bounds day
  have bounds' := month_bounds later
  simp only [isoFormat,yearOf] at dated ⊢
  generalize Calendar.monthOf (day * Calendar.microsPerDay) = month at *
  generalize Calendar.monthOf (later * Calendar.microsPerDay) = month' at *
  simp only [String.toList_append,List.append_assoc]
  by_cases years : month / 12 < month' / 12
  · refine before_append ?_ (padded_before (by decide) (by omega) (by omega)) _ _
    rw [padded_length (by decide) (by omega),padded_length (by decide) (by omega)]
  · have same : month / 12 = month' / 12 := by omega
    rw [same]
    refine before_append_left _ (before_append_left _ ?_)
    by_cases months : month % 12 < month' % 12
    · refine before_append ?_ (padded_before (by decide) (by omega) (by omega)) _ _
      rw [padded_length (by decide) (by omega),padded_length (by decide) (by omega)]
    · have equal : month = month' := by omega
      subst equal
      refine before_append_left _ (before_append_left _ ?_)
      exact padded_before (by decide) (by omega) (by omega)

theorem isoFormat_before_iff {day later : Nat} (dated : yearOf day ≤ 9999) (dated' : yearOf later ≤ 9999) :
    before (isoFormat day).toList (isoFormat later).toList = true ↔ day < later := by
  refine ⟨fun lesser => ?_,fun less => isoFormat_before less dated'⟩
  by_contra reached
  rcases Nat.lt_or_eq_of_le (Nat.le_of_not_lt reached) with less | rfl
  · rw [PythonText.before_asymm (isoFormat_before less dated)] at lesser
    exact Bool.noConfusion lesser
  · rw [PythonText.before_irrefl] at lesser
    exact Bool.noConfusion lesser

end DateText

end Valdrics

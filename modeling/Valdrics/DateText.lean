import Valdrics.Calendar
import Valdrics.NumberText

/-! Dates in the forms of ISO 8601, and their days counted from the first day of year 1. -/
namespace Valdrics

namespace DateText

open Calendar (isLeapYear daysInMonth)

/-- `_days_before_year`. -/
def daysBeforeYear (year : Nat) : Nat :=
  let past := year - 1
  past * 365 + past / 4 - past / 100 + past / 400

/-- `_days_before_month`. -/
def daysBeforeMonth (year month : Nat) : Nat :=
  ((List.range (month - 1)).map fun index => daysInMonth ((year - 1) * 12 + index)).sum

/-- `date(year, month, day)`: its days since the first day. -/
def ofDate (year month day : Nat) : Option Nat :=
  if 1 ≤ year ∧ year ≤ 9999 ∧ 1 ≤ month ∧ month ≤ 12 ∧ 1 ≤ day ∧
      day ≤ daysInMonth ((year - 1) * 12 + (month - 1)) then
    some (daysBeforeYear year + daysBeforeMonth year month + (day - 1))
  else none

/-- `_isoweek1monday`; day 0 is a Monday. -/
def isoWeekOneMonday (year : Nat) : Int :=
  let first : Int := daysBeforeYear year
  let weekday := first % 7
  first - weekday + (if 3 < weekday then 7 else 0)

/-- `_isoweek_to_gregorian`. -/
def ofIsoWeek (year week day : Nat) : Option Nat :=
  let weekday := daysBeforeYear year % 7
  let long := week = 53 ∧ (weekday = 3 ∨ (weekday = 2 ∧ isLeapYear year))
  let found := isoWeekOneMonday year + (week - 1) * 7 + (day - 1)
  if 1 ≤ year ∧ year ≤ 9999 ∧ ((1 ≤ week ∧ week ≤ 52) ∨ long) ∧ 1 ≤ day ∧ day ≤ 7 ∧ 0 ≤ found ∧
      found < daysBeforeYear 10000 then
    some found.toNat
  else none

def number (width : Nat) (cs : List Char) : Option Nat :=
  if cs.length = width ∧ cs.all Decimal.isDigit then some (Nat.ofDigitChars 10 cs 0) else none

/-- `date.fromisoformat`. -/
def fromIsoFormat (text : String) : Option Nat :=
  let cs := text.toList
  if cs.length ∉ [7,8,10] then none
  else do
    let year ← number 4 (cs.take 4)
    let dashed := (cs.drop 4).head? = some '-'
    let rest := if dashed then cs.drop 5 else cs.drop 4
    if rest.head? = some 'W' then
      let week ← number 2 ((rest.drop 1).take 2)
      let tail := rest.drop 3
      if tail = [] then ofIsoWeek year week 1
      else if (tail.head? = some '-') ≠ dashed then none
      else
        let day ← number 1 (if dashed then tail.drop 1 else tail)
        ofIsoWeek year week day
    else
      let month ← number 2 (rest.take 2)
      let tail := rest.drop 2
      if (tail.head? = some '-') ≠ dashed then none
      else
        let day ← number 2 (if dashed then tail.drop 1 else tail)
        ofDate year month day

def padded (width n : Nat) : String :=
  String.ofList (List.replicate (width - (Nat.toDigits 10 n).length) '0' ++ Nat.toDigits 10 n)

/-- `isoformat`. -/
def isoFormat (day : Nat) : String :=
  let month := Calendar.monthOf (day * Calendar.microsPerDay)
  padded 4 (month / 12 + 1) ++ "-" ++ padded 2 (month % 12 + 1) ++ "-" ++
    padded 2 (day - Calendar.monthStartDay month + 1)

example : fromIsoFormat "2025-12-01" = some 739585 ∧ fromIsoFormat "20251201" = some 739585 ∧
    fromIsoFormat "2025-W49-1" = some 739585 ∧ fromIsoFormat "2025-02-29" = none := by decide

end DateText

end Valdrics

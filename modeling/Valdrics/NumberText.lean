import Valdrics.Decimal
import Valdrics.PythonText

/-! Numbers as text: decimal numbers as `str` prints them and their constructor reads
them back, whole numbers, and hexadecimal numbers of a fixed width. -/
namespace Valdrics

open PythonText

namespace Decimal

def digits (n : Nat) : List Char := Nat.toDigits 10 n

def signText (n : Int) : List Char := if n < 0 then ['-'] else []

/-- The digits with a point put after the first `place` of them, zeros filling a gap. -/
def placePoint (ds : List Char) (place : Int) : List Char :=
  if place ≤ 0 then '0' :: '.' :: (List.replicate (-place).toNat '0' ++ ds)
  else if ds.length ≤ place.toNat then ds ++ List.replicate (place.toNat - ds.length) '0'
  else ds.take place.toNat ++ '.' :: ds.drop place.toNat

def textList (d : Decimal) : List Char :=
  let ds := digits d.coefficient.natAbs
  let leftDigits : Int := d.exponent + ds.length
  if d.exponent ≤ 0 ∧ -6 < leftDigits then
    signText d.coefficient ++ placePoint ds leftDigits
  else
    signText d.coefficient ++ placePoint ds 1 ++
      (if leftDigits = 1 then [] else
        'E' :: (if leftDigits - 1 < 0 then '-' else '+') :: digits (leftDigits - 1).natAbs)

def text (d : Decimal) : String := String.ofList d.textList

def isDigit (c : Char) : Bool := 48 ≤ c.toNat && c.toNat ≤ 57

def splitSign : List Char → Bool × List Char
  | '-' :: cs => (true,cs)
  | '+' :: cs => (false,cs)
  | cs => (false,cs)

/-- The exponent part, empty or an `E` with a whole number. -/
def parseExponent : List Char → Option Int
  | [] => some 0
  | c :: cs =>
    if lowerAsciiChar c = 'e' then
      let (negative,ds) := splitSign cs
      if ds ≠ [] ∧ ds.all isDigit then
        some (if negative then -(Nat.ofDigitChars 10 ds 0 : Int) else Nat.ofDigitChars 10 ds 0)
      else none
    else none

def parseFinite (negative : Bool) (cs : List Char) : Option Decimal :=
  let whole := cs.takeWhile isDigit
  let rest := cs.dropWhile isDigit
  let (fraction,rest) := match rest with
    | '.' :: rest => (rest.takeWhile isDigit, rest.dropWhile isDigit)
    | rest => ([],rest)
  if whole = [] ∧ fraction = [] then none
  else
    match parseExponent rest with
    | none => none
    | some exponent =>
      let magnitude : Int := Nat.ofDigitChars 10 (whole ++ fraction) 0
      some ⟨if negative then -magnitude else magnitude, exponent - fraction.length⟩

/-- `Decimal(text)`; `none` is a text that is no number. -/
def parseList (cs : List Char) : Option DecimalValue :=
  let (negative,body) := splitSign ((stripList cs).filter (· ≠ '_'))
  let lowered := body.map lowerAsciiChar
  if lowered = ['i','n','f'] ∨ lowered = ['i','n','f','i','n','i','t','y'] then
    some (.infinite negative)
  else if ['n','a','n'] <+: lowered ∧ (lowered.drop 3).all isDigit then some (.nan false)
  else if ['s','n','a','n'] <+: lowered ∧ (lowered.drop 4).all isDigit then some (.nan true)
  else (parseFinite negative body).map .finite

def parse (s : String) : Option DecimalValue := parseList s.toList

example : text ⟨-12345,-4⟩ = "-1.2345" := by decide
example : parse " 1_000.50 " = some (.finite ⟨100050,-2⟩) := by decide

end Decimal

/-- `int(text)`. -/
def parseInt (s : String) : Option Int :=
  let (negative,ds) := Decimal.splitSign ((stripList s.toList).filter (· ≠ '_'))
  if ds ≠ [] ∧ ds.all Decimal.isDigit then
    some (if negative then -(Nat.ofDigitChars 10 ds 0 : Int) else Nat.ofDigitChars 10 ds 0)
  else none

namespace Hex

/-- The last `width` hexadecimal digits of a number. -/
def fixed : Nat → Nat → List Char
  | 0, _ => []
  | width + 1, n => fixed width (n / 16) ++ [Nat.digitChar (n % 16)]

def digitValue (c : Char) : Option Nat :=
  let n := c.toNat
  if 48 ≤ n ∧ n ≤ 57 then some (n - 48)
  else if 97 ≤ n ∧ n ≤ 102 then some (n - 87)
  else if 65 ≤ n ∧ n ≤ 70 then some (n - 55)
  else none

def parse : List Char → Option Nat :=
  fun cs => cs.foldl (fun sofar c => sofar.bind fun n =>
    (digitValue c).map fun digit => 16 * n + digit) (some 0)

end Hex

end Valdrics

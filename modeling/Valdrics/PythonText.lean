import Mathlib.Data.List.Basic
import Mathlib.Data.Char

/-! The string methods request text goes through: `strip`, slices, `or` defaults
and `lower`. Lower-casing is any map with the laws of Unicode lower-casing used here. -/
namespace Valdrics

namespace PythonText

/-- `str.isspace` of one character. -/
def isSpace (c : Char) : Bool :=
  let n := c.toNat
  (9 ≤ n && n ≤ 13) || (28 ≤ n && n ≤ 32) || n == 0x85 || n == 0xa0 || n == 0x1680 ||
    (0x2000 ≤ n && n ≤ 0x200a) || n == 0x2028 || n == 0x2029 || n == 0x202f || n == 0x205f ||
    n == 0x3000

def stripLeft (cs : List Char) : List Char := cs.dropWhile isSpace

def stripList (cs : List Char) : List Char := (stripLeft (stripLeft cs).reverse).reverse

def strip (s : String) : String := String.ofList (stripList s.toList)

/-- `s[:n]`. -/
def slice (s : String) (n : Nat) : String := String.ofList (s.toList.take n)

/-- `s or default`. -/
def orDefault (s default : String) : String := if s = "" then default else s

def lowerAsciiChar (c : Char) : Char :=
  if 65 ≤ c.toNat ∧ c.toNat ≤ 90 then Char.ofNat (c.toNat + 32) else c

def lowerAscii (s : String) : String := String.ofList (s.toList.map lowerAsciiChar)

def IsAscii (s : String) : Prop := ∀ c ∈ s.toList, c.toNat < 128

instance : Decidable (IsAscii s) :=
  decidable_of_iff (s.toList.all fun c => c.toNat < 128) (by simp [IsAscii])

/-- Ends that are not white space: what `strip` leaves. -/
def Stripped (cs : List Char) : Prop :=
  (∀ c, cs.head? = some c → isSpace c = false) ∧ (∀ c, cs.getLast? = some c → isSpace c = false)

theorem stripLeft_head (cs : List Char) (c : Char) (head : (stripLeft cs).head? = some c) :
    isSpace c = false := by
  have spec := List.head?_dropWhile_not isSpace cs
  simp only [stripLeft] at head
  rw [head] at spec
  simpa using spec

theorem stripLeft_of_head {cs : List Char}
    (head : ∀ c, cs.head? = some c → isSpace c = false) : stripLeft cs = cs := by
  cases cs with
  | nil => rfl
  | cons c cs => simp [stripLeft, head c rfl]

theorem stripLeft_suffix (cs : List Char) : stripLeft cs <:+ cs := List.dropWhile_suffix _

theorem stripList_stripped (cs : List Char) : Stripped (stripList cs) := by
  constructor
  · intro c head
    -- The first character is the first one left of the left strip.
    obtain ⟨tail,spaces⟩ := stripLeft_suffix (stripLeft cs).reverse
    have whole : stripLeft cs = stripList cs ++ tail.reverse := by
      have reversed := congrArg List.reverse spaces
      simpa [stripList] using reversed.symm
    apply stripLeft_head cs c
    rw [whole]
    cases list : stripList cs with
    | nil => simp [list] at head
    | cons x xs => simpa [list] using head
  · intro c last
    apply stripLeft_head (stripLeft cs).reverse c
    simpa [stripList] using last

theorem stripList_of_stripped {cs : List Char} (ends : Stripped cs) : stripList cs = cs := by
  have left : stripLeft cs = cs := stripLeft_of_head ends.1
  have right : stripLeft cs.reverse = cs.reverse :=
    stripLeft_of_head (by simpa using ends.2)
  simp [stripList, left, right]

@[simp] theorem strip_strip (s : String) : strip (strip s) = strip s := by
  simp [strip, stripList_of_stripped (stripList_stripped s.toList)]

theorem strip_eq_self (s : String) (ends : Stripped s.toList) : strip s = s := by
  simp [strip, stripList_of_stripped ends]

theorem strip_stripped (s : String) : Stripped (strip s).toList := by
  simpa [strip] using stripList_stripped s.toList

theorem lowerAsciiChar_toNat (c : Char) :
    (lowerAsciiChar c).toNat = if 65 ≤ c.toNat ∧ c.toNat ≤ 90 then c.toNat + 32 else c.toNat := by
  unfold lowerAsciiChar
  split
  · next upper =>
    have valid : (c.toNat + 32).isValidChar := Or.inl (by omega)
    rw [Char.ofNat, dif_pos valid]
    rfl
  · rfl

theorem lowerAsciiChar_idem (c : Char) : lowerAsciiChar (lowerAsciiChar c) = lowerAsciiChar c := by
  apply Char.toNat_inj.mp
  rw [lowerAsciiChar_toNat (lowerAsciiChar c), lowerAsciiChar_toNat c]
  by_cases upper : 65 ≤ c.toNat ∧ c.toNat ≤ 90
  · rw [if_pos upper, if_neg (by omega)]
  · rw [if_neg upper, if_neg upper]

theorem isSpace_lowerAsciiChar (c : Char) (visible : isSpace c = false) :
    isSpace (lowerAsciiChar c) = false := by
  by_cases upper : 65 ≤ c.toNat ∧ c.toNat ≤ 90
  · simp only [isSpace, lowerAsciiChar_toNat, if_pos upper]
    simp
    omega
  · simpa [lowerAsciiChar, upper] using visible

end PythonText

open PythonText

/-- `str.lower` of a Unicode version, by the laws that version obeys. -/
structure Lowercase where
  lower : String → String
  idempotent : ∀ s, lower (lower s) = lower s
  keepsStripped : ∀ s, strip (lower (strip s)) = lower (strip s)
  ascii : ∀ s, IsAscii s → lower s = lowerAscii s

namespace Lowercase

theorem lower_empty (text : Lowercase) : text.lower "" = "" := text.ascii "" (by decide)

/-- Lower-casing of the ASCII letters alone obeys the laws. -/
def asciiOnly : Lowercase where
  lower := lowerAscii
  idempotent := by
    intro s
    simp only [lowerAscii, String.toList_ofList, List.map_map]
    congr 1
    apply List.map_congr_left
    intro c _
    exact lowerAsciiChar_idem c
  keepsStripped := by
    intro s
    apply strip_eq_self
    obtain ⟨first,last⟩ := strip_stripped s
    simp only [lowerAscii, String.toList_ofList]
    constructor
    · intro c head
      rw [List.head?_map] at head
      obtain ⟨d,there,rfl⟩ := Option.map_eq_some_iff.mp head
      exact isSpace_lowerAsciiChar d (first d there)
    · intro c tail
      rw [List.getLast?_map] at tail
      obtain ⟨d,there,rfl⟩ := Option.map_eq_some_iff.mp tail
      exact isSpace_lowerAsciiChar d (last d there)
  ascii := fun _ _ => rfl

end Lowercase

end Valdrics

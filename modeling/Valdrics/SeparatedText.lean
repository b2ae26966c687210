import Mathlib.Data.List.Basic

/-! Texts of elements between separators. Blanks around an element do not count, and blank
elements are passed over; what is appended after a separator adds its elements at the end. -/
namespace SeparatedText

variable {α : Type} [DecidableEq α]

def trim (blank : α → Bool) (cs : List α) : List α :=
  ((cs.dropWhile blank).reverse.dropWhile blank).reverse

def elements (sep : α) (blank : α → Bool) (cs : List α) : List (List α) :=
  ((cs.splitOn sep).map (trim blank)).filter (· ≠ [])

variable {sep : α} {blank : α → Bool} {c : α} {cs ds : List α}

omit [DecidableEq α] in
theorem trim_cons (space : blank c = true) : trim blank (c :: cs) = trim blank cs := by
  simp [trim,space]

omit [DecidableEq α] in
theorem trim_concat (space : blank c = true) : trim blank (cs ++ [c]) = trim blank cs := by
  simp only [trim,List.dropWhile_append]
  split
  next all =>
    have none : cs.dropWhile blank = [] := by simpa using all
    simp [none,space]
  · simp [space]

theorem splitOn_concat (apart : c ≠ sep) (cs : List α) : ∃ front last,
    cs.splitOn sep = front ++ [last] ∧ (cs ++ [c]).splitOn sep = front ++ [last ++ [c]] := by
  induction cs with
  | nil => exact ⟨[],[],by simp [List.splitOn_nil],by
      simp [List.splitOn_cons_eq_if_modifyHead,List.splitOn_nil,apart]⟩
  | cons x xs ih =>
    obtain ⟨front,last,short,long⟩ := ih
    simp only [List.cons_append,List.splitOn_cons_eq_if_modifyHead,short,long]
    by_cases same : x = sep
    · exact ⟨[] :: front,last,by simp [same],by simp [same]⟩
    · cases front with
      | nil => exact ⟨[],x :: last,by simp [same],by simp [same]⟩
      | cons first front => exact ⟨(x :: first) :: front,last,by simp [same],by simp [same]⟩

theorem elements_cons (apart : blank sep = false) (space : blank c = true) :
    elements sep blank (c :: cs) = elements sep blank cs := by
  have other : c ≠ sep := by
    rintro rfl
    simp [space] at apart
  simp only [elements,List.splitOn_cons_eq_if_modifyHead,beq_iff_eq,if_neg other]
  cases split : cs.splitOn sep with
  | nil => rfl
  | cons first rest => simp [trim_cons space]

theorem elements_concat (apart : blank sep = false) (space : blank c = true) :
    elements sep blank (cs ++ [c]) = elements sep blank cs := by
  have other : c ≠ sep := by
    rintro rfl
    simp [space] at apart
  obtain ⟨front,last,short,long⟩ := splitOn_concat other cs
  simp only [elements,short,long,List.map_append,List.map_cons,List.map_nil,trim_concat space]

theorem elements_dropWhile (apart : blank sep = false) (cs : List α) :
    elements sep blank (cs.dropWhile blank) = elements sep blank cs := by
  induction cs with
  | nil => rfl
  | cons c cs ih =>
    by_cases space : blank c = true
    · rw [List.dropWhile_cons_of_pos space,ih,elements_cons apart space]
    · rw [List.dropWhile_cons_of_neg space]

/-- Blanks around the whole text do not count either. -/
theorem elements_trim (apart : blank sep = false) (cs : List α) :
    elements sep blank (trim blank cs) = elements sep blank cs := by
  have right : ∀ ds : List α, elements sep blank (ds.dropWhile blank).reverse =
      elements sep blank ds.reverse := by
    intro ds
    induction ds with
    | nil => rfl
    | cons d ds ih =>
      by_cases space : blank d = true
      · rw [List.dropWhile_cons_of_pos space,ih,List.reverse_cons,elements_concat apart space]
      · rw [List.dropWhile_cons_of_neg space]
  rw [trim,right,List.reverse_reverse,elements_dropWhile apart]

/-- A text after a separator adds its elements at the end. -/
theorem elements_append (cs ds : List α) :
    elements sep blank (cs ++ sep :: ds) = elements sep blank cs ++ elements sep blank ds := by
  simp only [elements,List.splitOn_append_cons_self,List.map_append,List.filter_append]

def fromRight (values : List α) (place : Nat) : Option α :=
  if place ≤ values.length then values[values.length - place]? else none

omit [DecidableEq α] in
/-- A place within the values at the right does not see the others. -/
theorem fromRight_append (left right : List α) :
    fromRight (left ++ right) right.length = right.head? := by
  simp [fromRight,List.head?_eq_getElem?,List.getElem?_append_right]

omit [DecidableEq α] in
theorem fromRight_short {values : List α} {place : Nat} (short : values.length < place) :
    fromRight values place = none := if_neg (by omega)

omit [DecidableEq α] in
theorem fromRight_replicate (value : α) (right : List α) {place : Nat}
    (beyond : right.length < place) :
    fromRight (List.replicate place value ++ right) place = some value := by
  have enough : place ≤ (List.replicate place value ++ right).length := by simp
  rw [fromRight,if_pos enough,List.length_append,List.length_replicate,Nat.add_sub_cancel_left,
    List.getElem?_append_left (by simpa using beyond),List.getElem?_replicate,if_pos beyond]

end SeparatedText

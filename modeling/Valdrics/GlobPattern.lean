import Mathlib.Data.List.Infix

/-! Glob patterns as `fnmatchcase` reads them: stars, single places and brackets with ranges. -/
namespace Valdrics.PythonText

inductive GlobPart where
  | star
  | any
  | oneOf (negated : Bool) (ranges : List (Char × Char))
  | literal (c : Char)
  deriving DecidableEq

def bracketRanges : List Char → List (Char × Char)
  | [] => []
  | low :: '-' :: high :: rest => (low,high) :: bracketRanges rest
  | c :: rest => (c,c) :: bracketRanges rest

/-- The inside of a bracket up to its end and what follows it; a first `]` is a member. -/
def bracketBody (text : List Char) : Option (List Char × List Char) :=
  let (first,later) := match text with
    | ']' :: rest => ([']'],rest)
    | _ => ([],text)
  match later.span (· ≠ ']') with
  | (_,[]) => none
  | (inside,_ :: rest) => some (first ++ inside,rest)

def globParts : Nat → List Char → List GlobPart
  | 0, _ => []
  | _ + 1, [] => []
  | fuel + 1, '*' :: rest => .star :: globParts fuel rest
  | fuel + 1, '?' :: rest => .any :: globParts fuel rest
  | fuel + 1, '[' :: rest =>
    let (negated,inside) := match rest with
      | '!' :: more => (true,more)
      | _ => (false,rest)
    match bracketBody inside with
    | none => .literal '[' :: globParts fuel rest
    | some (members,after) => .oneOf negated (bracketRanges members) :: globParts fuel after
  | fuel + 1, c :: rest => .literal c :: globParts fuel rest

def GlobPart.accepts : GlobPart → Char → Bool
  | star, _ => false
  | any, _ => true
  | oneOf negated ranges, c => negated != ranges.any fun range => range.1 ≤ c && c ≤ range.2
  | literal expected, c => c = expected

def globMatches : List GlobPart → List Char → Bool
  | [], text => text.isEmpty
  | .star :: parts, text => text.tails.any (globMatches parts)
  | part :: parts, text =>
    match text with
    | [] => false
    | c :: rest => part.accepts c && globMatches parts rest

def fnmatchcase (name pattern : String) : Bool :=
  globMatches (globParts pattern.toList.length pattern.toList) name.toList

def PlainGlob (c : Char) : Prop := c ≠ '*' ∧ c ≠ '?' ∧ c ≠ '['

instance (c : Char) : Decidable (PlainGlob c) := inferInstanceAs (Decidable (_ ∧ _))

theorem plainGlob_append {first second : String} (plain : ∀ c ∈ first.toList, PlainGlob c)
    (plain' : ∀ c ∈ second.toList, PlainGlob c) : ∀ c ∈ (first ++ second).toList, PlainGlob c := by
  intro c listed
  rw [String.toList_append,List.mem_append] at listed
  exact listed.elim (plain c) (plain' c)

theorem globParts_plain {text : List Char} (plain : ∀ c ∈ text, PlainGlob c) (fuel : Nat) :
    globParts (text.length + fuel) (text ++ ['*']) =
      text.map GlobPart.literal ++ globParts fuel ['*'] := by
  induction text with
  | nil => simp
  | cons c text ih =>
    obtain ⟨star,any,bracket⟩ := plain c List.mem_cons_self
    have rest := ih fun other listed => plain other (List.mem_cons_of_mem _ listed)
    have step : globParts (text.length + fuel + 1) (c :: (text ++ ['*'])) =
        .literal c :: globParts (text.length + fuel) (text ++ ['*']) := by
      rw [globParts] <;> assumption
    simp only [List.cons_append,List.length_cons,List.map_cons,Nat.add_right_comm _ 1 fuel,step,rest]

theorem globMatches_literals (text : List Char) (parts : List GlobPart) (name : List Char) :
    globMatches (text.map GlobPart.literal ++ parts) name = true ↔
      ∃ rest, name = text ++ rest ∧ globMatches parts rest = true := by
  induction text generalizing name with
  | nil => simp
  | cons c text ih =>
    cases name with
    | nil => simp [globMatches]
    | cons first name =>
      simp only [List.map_cons,List.cons_append,globMatches,GlobPart.accepts,Bool.and_eq_true,
        decide_eq_true_eq,ih,List.cons.injEq]
      constructor
      · rintro ⟨rfl,rest,rfl,matched⟩
        exact ⟨rest,⟨rfl,rfl⟩,matched⟩
      · rintro ⟨rest,⟨rfl,rfl⟩,matched⟩
        exact ⟨rfl,rest,rfl,matched⟩

theorem fnmatchcase_prefix {head : String} (plain : ∀ c ∈ head.toList, PlainGlob c)
    (name : String) : fnmatchcase name (head ++ "*") = true ↔ head.toList <+: name.toList := by
  have parts := globParts_plain plain 1
  have star : globParts 1 ['*'] = [.star] := rfl
  simp only [fnmatchcase,String.toList_append,List.length_append] at parts ⊢
  rw [show ("*" : String).toList = ['*'] from rfl,List.length_singleton,parts,star,
    globMatches_literals]
  constructor
  · rintro ⟨rest,same,-⟩
    exact ⟨rest,same.symm⟩
  · rintro ⟨rest,same⟩
    refine ⟨rest,same.symm,?_⟩
    simp only [globMatches,List.any_eq_true,List.mem_tails]
    exact ⟨[],List.nil_suffix,rfl⟩

end Valdrics.PythonText

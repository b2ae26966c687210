import Mathlib.Data.List.Infix

/-! Patterns of regular expressions with characters, optional characters and `.*`, as `re.search`
looks for them. -/
namespace Valdrics.PythonText

inductive PatternPart where
  | char (c : Char)
  | optional (c : Char)
  | line
  deriving DecidableEq

def patternParts : List Char → List PatternPart
  | [] => []
  | '.' :: '*' :: rest => .line :: patternParts rest
  | c :: '?' :: rest => .optional c :: patternParts rest
  | c :: rest => .char c :: patternParts rest

/-- What may follow `.*`, which does not cross the end of a line. -/
def lineTails : List Char → List (List Char)
  | [] => [[]]
  | c :: rest => (c :: rest) :: if c = '\n' then [] else lineTails rest

def matchesHere : List PatternPart → List Char → Bool
  | [], _ => true
  | .char _ :: _, [] => false
  | .char c :: parts, d :: rest => c = d && matchesHere parts rest
  | .optional _ :: parts, [] => matchesHere parts []
  | .optional c :: parts, d :: rest =>
    matchesHere parts (d :: rest) || (c = d && matchesHere parts rest)
  | .line :: parts, text => (lineTails text).any (matchesHere parts)

/-- `re.search`. -/
def searches (pattern text : String) : Bool :=
  text.toList.tails.any (matchesHere (patternParts pattern.toList))

/-- `part in text`. -/
def contains (text part : List Char) : Bool := decide (part <:+: text)

def literalStart : List PatternPart → List Char
  | .char c :: parts => c :: literalStart parts
  | _ => []

theorem matchesHere_literalStart (parts : List PatternPart) (text : List Char)
    (matched : matchesHere parts text = true) : literalStart parts <+: text := by
  induction parts generalizing text with
  | nil => exact List.nil_prefix
  | cons part parts ih =>
    cases part with
    | char c =>
      cases text with
      | nil => simp [matchesHere] at matched
      | cons d text =>
        simp only [matchesHere,Bool.and_eq_true,decide_eq_true_eq] at matched
        obtain ⟨rfl,later⟩ := matched
        exact List.cons_prefix_cons.mpr ⟨rfl,ih text later⟩
    | optional c => exact List.nil_prefix
    | line => exact List.nil_prefix

theorem searches_literalStart {pattern text : String} (found : searches pattern text = true) :
    literalStart (patternParts pattern.toList) <:+: text.toList := by
  simp only [searches,List.any_eq_true,List.mem_tails] at found
  obtain ⟨tail,suffix,matched⟩ := found
  exact (matchesHere_literalStart _ tail matched).isInfix.trans suffix.isInfix

end Valdrics.PythonText

import Valdrics.EnforcementModels

/-! JSON values as Python reads them: their truth value and their equality, for which
whole numbers, numbers with a point and truth values compare as numbers. -/
namespace Valdrics

open Enforcement (Json)

namespace JsonValue

theorem nested {holds : Json → Prop} (null : holds .null) (bool : ∀ value, holds (.bool value))
    (int : ∀ value, holds (.int value)) (float : ∀ value, holds (.float value))
    (str : ∀ value, holds (.str value))
    (arr : ∀ items, (∀ item ∈ items, holds item) → holds (.arr items))
    (obj : ∀ members, (∀ member ∈ members, holds member.2) → holds (.obj members)) :
    ∀ value, holds value := by
  intro value
  refine @Json.rec holds (fun items => ∀ item ∈ items, holds item)
    (fun members => ∀ member ∈ members, holds member.2) (fun member => holds member.2)
    null bool int float str arr obj ?_ ?_ ?_ ?_ ?_ value
  · simp
  · intro item rest first others
    exact List.forall_mem_cons.mpr ⟨first,others⟩
  · simp
  · intro member rest first others
    exact List.forall_mem_cons.mpr ⟨first,others⟩
  · exact fun _ _ holds => holds

/-- `bool(value)`. -/
def truthy : Json → Bool
  | .null => false
  | .bool value => value
  | .int value => value ≠ 0
  | .float value => value.coefficient ≠ 0
  | .str value => value ≠ ""
  | .arr items => !items.isEmpty
  | .obj members => !members.isEmpty

def number : Json → Option Decimal
  | .bool value => some ⟨if value then 1 else 0,0⟩
  | .int value => some ⟨value,0⟩
  | .float value => some value
  | _ => none

def sameNumber (a b : Decimal) : Bool := (a.plus ⟨-b.coefficient,b.exponent⟩).coefficient = 0

mutual

/-- `a == b`. -/
def equals : Json → Json → Bool
  | .arr xs, .arr ys => equalsItems xs ys
  | .obj xs, .obj ys => xs.length = ys.length && equalsMembers xs ys
  | .str s, .str t => s = t
  | .null, .null => true
  | .bool a, b => (number b).any (sameNumber ⟨if a then 1 else 0,0⟩)
  | .int a, b => (number b).any (sameNumber ⟨a,0⟩)
  | .float a, b => (number b).any (sameNumber a)
  | _, _ => false

def equalsItems : List Json → List Json → Bool
  | [], [] => true
  | x :: xs, y :: ys => equals x y && equalsItems xs ys
  | _, _ => false

def equalsMembers : List (String × Json) → List (String × Json) → Bool
  | [], _ => true
  | (key,value) :: rest, members =>
    (match members.lookup key with
      | none => false
      | some other => equals value other) && equalsMembers rest members

end

example : equals (.obj [("a",.int 1),("b",.null)]) (.obj [("b",.null),("a",.float ⟨10,-1⟩)]) =
    true := by decide

end JsonValue

end Valdrics

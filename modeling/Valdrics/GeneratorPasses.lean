import Mathlib.Data.List.Basic

/-! Generators: the values that a pass hands to its consumer, and the exception that ends
it. A pass that falls back starts a second one; what was handed over stays with the consumer. -/
namespace Valdrics

structure Pass (ε α : Type*) where
  rows : List α
  raised : Option ε

namespace Pass

variable {ε α β γ : Type*}

def each (give : β → Except ε (List α)) : List β → Pass ε α
  | [] => ⟨[],none⟩
  | item :: rest =>
    match give item with
    | .error failure => ⟨[],some failure⟩
    | .ok rows => ⟨rows ++ (each give rest).rows,(each give rest).raised⟩

def map (f : α → γ) (pass : Pass ε α) : Pass ε γ := ⟨pass.rows.map f,pass.raised⟩

def andThen (first second : Pass ε α) : Pass ε α :=
  match first.raised with
  | some _ => first
  | none => ⟨first.rows ++ second.rows,second.raised⟩

/-- `except recoverable:` around a pass, with a second pass after it. -/
def orElse (recoverable : ε → Bool) (first second : Pass ε α) : Pass ε α :=
  match first.raised with
  | none => first
  | some failure =>
    if recoverable failure then ⟨first.rows ++ second.rows,second.raised⟩ else first

def breakOff (failure : ε) (pass : Pass ε α) : Pass ε α :=
  ⟨pass.rows,some (pass.raised.getD failure)⟩

/-- A query that is streamed, and executed once more where the stream breaks off after some
rows. -/
def withFallback (recoverable : ε → Bool) (failure : ε) (stream : Option Nat)
    (delivered : Nat → Pass ε α) (executed : Pass ε α) : Pass ε α :=
  match stream with
  | none => executed.orElse recoverable executed
  | some n => ((delivered n).breakOff failure).orElse recoverable executed

def handedOver (stream : Option Nat) (delivered : Nat → Pass ε α) : List α :=
  match stream with
  | none => []
  | some n => (delivered n).rows

variable {give : β → Except ε (List α)} {items : List β} {first second : Pass ε α}

theorem each_ok {rows : β → List α} (all : ∀ item ∈ items, give item = .ok (rows item)) :
    each give items = ⟨items.flatMap rows,none⟩ := by
  induction items with
  | nil => rfl
  | cons item rest ih =>
    have own := all item List.mem_cons_self
    have others := ih fun other listed => all other (List.mem_cons_of_mem _ listed)
    simp only [each,own,others,List.flatMap_cons]

theorem each_raised {failure : ε} (stopped : (each give items).raised = some failure) :
    ∃ item ∈ items, give item = .error failure := by
  induction items with
  | nil => cases stopped
  | cons item rest ih =>
    cases given : give item with
    | error other =>
      simp only [each,given,Option.some.injEq] at stopped
      exact ⟨item,List.mem_cons_self,by rw [given,stopped]⟩
    | ok rows =>
      simp only [each,given] at stopped
      obtain ⟨other,listed,raised⟩ := ih stopped
      exact ⟨other,List.mem_cons_of_mem _ listed,raised⟩

theorem each_ends (ends : (each give items).raised = none) :
    ∀ item ∈ items, ∃ rows, give item = .ok rows := by
  induction items with
  | nil => simp
  | cons item rest ih =>
    cases given : give item with
    | error failure => simp [each,given] at ends
    | ok rows =>
      simp only [each,given] at ends
      intro other listed
      rcases List.mem_cons.mp listed with rfl | listed
      · exact ⟨rows,given⟩
      · exact ih ends other listed

theorem andThen_ends : (first.andThen second).raised = none ↔
    first.raised = none ∧ second.raised = none := by
  unfold andThen
  cases stopped : first.raised <;> simp [stopped]

theorem orElse_ends {recoverable : ε → Bool}
    (ends : (first.orElse recoverable second).raised = none) :
    (first.raised = none ∧ (first.orElse recoverable second).rows = first.rows) ∨
      (first.raised ≠ none ∧ second.raised = none ∧
        (first.orElse recoverable second).rows = first.rows ++ second.rows) := by
  unfold orElse at ends ⊢
  cases stopped : first.raised with
  | none => exact Or.inl ⟨rfl,rfl⟩
  | some failure =>
    simp only [stopped] at ends ⊢
    split at ends
    next caught => exact Or.inr ⟨by simp,ends,by rw [if_pos caught]⟩
    · rw [stopped] at ends
      cases ends

theorem orElse_of_none {recoverable : ε → Bool} (ends : first.raised = none) :
    first.orElse recoverable second = first := by
  simp only [orElse,ends]

theorem orElse_of_caught {recoverable : ε → Bool} {failure : ε}
    (stopped : first.raised = some failure) (caught : recoverable failure = true) :
    first.orElse recoverable second = ⟨first.rows ++ second.rows,second.raised⟩ := by
  simp only [orElse,stopped,caught,if_true]

section

variable {recoverable : ε → Bool} {failure : ε} {stream : Option Nat}
  {delivered : Nat → Pass ε α} {executed : Pass ε α}

theorem withFallback_ends
    (ends : (withFallback recoverable failure stream delivered executed).raised = none) :
    executed.raised = none := by
  unfold withFallback at ends
  split at ends
  · rcases orElse_ends ends with ⟨same,_⟩ | ⟨_,same,_⟩ <;> exact same
  · rcases orElse_ends ends with ⟨never,_⟩ | ⟨_,same,_⟩
    · simp [breakOff] at never
    · exact same

theorem withFallback_eq (ends : executed.raised = none) (caught : recoverable failure = true)
    (calm : ∀ n, (delivered n).raised = none) :
    withFallback recoverable failure stream delivered executed =
      ⟨handedOver stream delivered ++ executed.rows,none⟩ := by
  unfold withFallback handedOver
  split
  · rw [orElse_of_none ends,List.nil_append,← ends]
  next n =>
    have stopped : ((delivered n).breakOff failure).raised = some failure := by
      simp [breakOff,calm n]
    rw [orElse_of_caught stopped caught,ends]
    rfl

end

end Pass

/-- Of parts with labels of their own, the values under one label are one part. -/
theorem filter_flatMap_label {α β τ : Type*} [DecidableEq τ] {items : List β} {rows : β → List α}
    {labelOf : α → τ} (label : β → τ)
    (labelled : ∀ item ∈ items, ∀ row ∈ rows item, labelOf row = label item)
    (distinct : (items.map label).Nodup) {item : β} (listed : item ∈ items) :
    (items.flatMap rows).filter (fun row => labelOf row = label item) = rows item := by
  induction items with
  | nil => cases listed
  | cons first rest ih =>
    rw [List.map_cons,List.nodup_cons] at distinct
    rw [List.flatMap_cons,List.filter_append]
    have others := ih (fun other there => labelled other (List.mem_cons_of_mem _ there)) distinct.2
    rcases List.mem_cons.mp listed with rfl | listed
    · have own : (rows item).filter (fun row => labelOf row = label item) = rows item := by
        rw [List.filter_eq_self]
        intro row there
        rw [decide_eq_true_eq]
        exact labelled item List.mem_cons_self row there
      have foreign : (rest.flatMap rows).filter (fun row => labelOf row = label item) = [] := by
        rw [List.filter_eq_nil_iff]
        intro row there same
        obtain ⟨other,among,there⟩ := List.mem_flatMap.mp there
        rw [decide_eq_true_eq,labelled other (List.mem_cons_of_mem _ among) row there] at same
        exact distinct.1 (same ▸ List.mem_map_of_mem among)
      rw [own,foreign,List.append_nil]
    · have foreign : (rows first).filter (fun row => labelOf row = label item) = [] := by
        rw [List.filter_eq_nil_iff]
        intro row there same
        rw [decide_eq_true_eq,labelled first List.mem_cons_self row there] at same
        exact distinct.1 (same ▸ List.mem_map_of_mem listed)
      rw [foreign,List.nil_append]
      exact others listed

end Valdrics

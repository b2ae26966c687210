import Mathlib.Data.List.Induction
import Mathlib.Data.List.Perm.Basic
import Valdrics.KeyedTable

/-! Folds of a list into a table with one row for each key, as a loop over a dictionary makes
them: the row of a key is the fold of the elements of that key. -/
namespace Valdrics.Table

variable {κ ρ α : Type} [DecidableEq κ]

/-- The row that a first element opens and the later ones are added to. -/
def gather (first : α → ρ) (add : ρ → α → ρ) : List α → Option ρ
  | [] => none
  | a :: rest => some (rest.foldl add (first a))

def groupBy (key : α → κ) (first : α → ρ) (add : ρ → α → ρ) (elements : List α) : Table κ ρ :=
  elements.foldl (fun t a => t.upsert (key a) (first a) fun row => add row a) empty

theorem gather_append (first : α → ρ) (add : ρ → α → ρ) (front : List α) (a : α) :
    gather first add (front ++ [a]) =
      some ((gather first add front).elim (first a) fun row => add row a) := by
  cases front with
  | nil => rfl
  | cons b front => simp [gather]

theorem find_groupBy (key : α → κ) (first : α → ρ) (add : ρ → α → ρ) (elements : List α) (k : κ) :
    (groupBy key first add elements).find k =
      gather first add (elements.filter fun a => key a = k) := by
  induction elements using List.reverseRecOn with
  | nil => rfl
  | append_singleton front a ih =>
    have last : groupBy key first add (front ++ [a]) =
        (groupBy key first add front).upsert (key a) (first a) fun row => add row a := by
      simp [groupBy]
    rw [last,find_upsert,List.filter_append]
    by_cases same : k = key a
    · subst same
      have kept : [a].filter (fun b => key b = key a) = [a] := by simp
      rw [if_pos rfl,kept,gather_append,← ih]
    · have gone : [a].filter (fun b => key b = k) = [] := by simpa using Ne.symm same
      rw [if_neg same,gone,List.append_nil,ih]

theorem mem_map_rows {σ : Type} {t : Table κ ρ} {f : ρ → σ} {key : κ} {value : σ} :
    (key,value) ∈ t.rows.map (fun e => (e.1,f e.2)) ↔ (t.find key).map f = some value := by
  simp only [List.mem_map,Prod.mk.injEq,Option.map_eq_some_iff,find_eq_some_iff]
  constructor
  · rintro ⟨⟨_,row⟩,listed,rfl,rfl⟩
    exact ⟨row,listed,rfl⟩
  · rintro ⟨row,listed,rfl⟩
    exact ⟨(key,row),listed,rfl,rfl⟩

theorem perm_of_find {σ : Type} {t t' : Table κ ρ} (f : ρ → σ)
    (same : ∀ key, (t.find key).map f = (t'.find key).map f) :
    (t.rows.map fun e => (e.1,f e.2)).Perm (t'.rows.map fun e => (e.1,f e.2)) := by
  have distinct : ∀ t : Table κ ρ, (t.rows.map fun e => (e.1,f e.2)).Nodup := by
    intro t
    refine List.Nodup.of_map Prod.fst ?_
    rw [List.map_map]
    exact t.distinct
  refine (List.perm_ext_iff_of_nodup (distinct t) (distinct t')).mpr ?_
  rintro ⟨key,value⟩
  rw [mem_map_rows,mem_map_rows,same key]

theorem sum_of_find {μ : Type} [AddCommMonoid μ] {t t' : Table κ ρ} (weight : ρ → μ)
    (same : ∀ key, (t.find key).map weight = (t'.find key).map weight) :
    (t.rows.map fun e => weight e.2).sum = (t'.rows.map fun e => weight e.2).sum := by
  have perm := ((perm_of_find weight same).map Prod.snd).sum_eq
  simpa [Function.comp_def] using perm

end Valdrics.Table

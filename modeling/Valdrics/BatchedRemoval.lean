import Mathlib.Data.List.Perm.Subperm
import Mathlib.Tactic.Ring
import Valdrics.PagedMerge

/-! Removal in batches: the first of the rows that are due are taken, and every row with the key of
one of them is removed, so many times at most. The rows that are taken are the rows that are removed
exactly if no row outside of a batch has the key of one inside. -/
namespace Valdrics.Removal

open Paging (slice mergeSort_filter)

variable {ρ κ : Type}

/-- The order in which rows are taken, the key by which they are removed and the batches. -/
structure Plan (ρ κ : Type) where
  key : ρ → κ
  le : ρ → ρ → Bool
  size : Nat
  trans : ∀ a b c, le a b → le b c → le a c
  total : ∀ a b, le a b || le b a
  positive : 1 ≤ size

namespace Plan

variable (plan : Plan ρ κ) (due : ρ → Bool)

def queue (rows : List ρ) : List ρ := (rows.filter due).mergeSort plan.le

def batch (rows : List ρ) : List ρ := (plan.queue due rows).take plan.size

def chunk (rows : List ρ) (round : Nat) : List ρ :=
  slice (plan.queue due rows) (round * plan.size) plan.size

def taken (rounds : Nat) (rows : List ρ) : List ρ := (plan.queue due rows).take (rounds * plan.size)

def Closed (rows batch : List ρ) : Prop :=
  ∀ row ∈ batch, ∀ other ∈ rows, plan.key other = plan.key row → other ∈ batch

def Apart (rounds : Nat) (rows : List ρ) : Prop :=
  ∀ round < rounds, plan.Closed rows (plan.chunk due rows round)

section Rounds

variable [DecidableEq κ]

def without (rows batch : List ρ) : List ρ := rows.filter fun row => plan.key row ∉ batch.map plan.key

def sweep : Nat → List ρ → List (List ρ) × List ρ
  | 0, rows => ([],rows)
  | rounds + 1, rows =>
    if plan.batch due rows = [] then ([],rows)
    else
      let later := sweep rounds (plan.without rows (plan.batch due rows))
      (plan.batch due rows :: later.1,later.2)

def sweeps (rounds : Nat) : List (ρ → Bool) → List ρ → List (List (List ρ)) × List ρ
  | [], rows => ([],rows)
  | due :: rest, rows =>
    let swept := plan.sweep due rounds rows
    let later := sweeps rounds rest swept.2
    (swept.1 :: later.1,later.2)

end Rounds

variable {plan} {due} {rows : List ρ}

theorem mem_queue {row : ρ} : row ∈ plan.queue due rows ↔ row ∈ rows ∧ due row = true := by
  rw [queue,List.mem_mergeSort,List.mem_filter]

theorem queue_nodup (distinct : rows.Nodup) : (plan.queue due rows).Nodup :=
  (List.mergeSort_perm _ _).nodup_iff.mpr (distinct.filter _)

theorem mem_batch {row : ρ} (listed : row ∈ plan.batch due rows) : row ∈ rows ∧ due row = true :=
  mem_queue.mp (List.mem_of_mem_take listed)

theorem mem_taken {rounds : Nat} {row : ρ} (listed : row ∈ plan.taken due rounds rows) :
    row ∈ rows ∧ due row = true := mem_queue.mp (List.mem_of_mem_take listed)

theorem queue_congr {due' : ρ → Bool} (same : ∀ row ∈ rows, due row = due' row) :
    plan.queue due rows = plan.queue due' rows := by
  rw [queue,queue,List.filter_congr same]

theorem apart_congr {due' : ρ → Bool} (same : ∀ row ∈ rows, due row = due' row) {rounds : Nat} :
    plan.Apart due rounds rows ↔ plan.Apart due' rounds rows := by
  simp only [Apart,chunk,queue_congr same]

theorem mem_taken_iff {rounds : Nat} {row : ρ} :
    row ∈ plan.taken due rounds rows ↔ ∃ round < rounds, row ∈ plan.chunk due rows round := by
  induction rounds with
  | zero => simp [taken]
  | succ rounds ih =>
    have pieces : plan.taken due (rounds + 1) rows =
        plan.taken due rounds rows ++ plan.chunk due rows rounds := by
      rw [taken,taken,chunk,slice,← List.take_add]
      congr 1
      ring
    rw [pieces,List.mem_append,ih]
    constructor
    · rintro (⟨round,bound,inside⟩ | inside)
      · exact ⟨round,by omega,inside⟩
      · exact ⟨rounds,by omega,inside⟩
    · rintro ⟨round,bound,inside⟩
      rcases Nat.lt_succ_iff_lt_or_eq.mp bound with earlier | rfl
      · exact .inl ⟨round,earlier,inside⟩
      · exact .inr inside

theorem chunk_zero : plan.chunk due rows 0 = plan.batch due rows := by
  simp [chunk,batch,slice]

theorem batch_eq_nil : plan.batch due rows = [] ↔ plan.queue due rows = [] := by
  have positive := plan.positive
  rw [batch,List.take_eq_nil_iff]
  exact or_iff_right (by omega)

theorem queue_filter (keep : ρ → Bool) :
    plan.queue due (rows.filter keep) = (plan.queue due rows).filter keep := by
  rw [queue,queue,List.filter_filter,← mergeSort_filter plan.trans plan.total,List.filter_filter]
  simp only [Bool.and_comm]

section Batches

variable [DecidableEq κ]

theorem without_nodup (plan : Plan ρ κ) (distinct : rows.Nodup) (batch : List ρ) :
    (plan.without rows batch).Nodup := distinct.filter _

theorem mem_without {batch : List ρ} {row : ρ} :
    row ∈ plan.without rows batch ↔ row ∈ rows ∧ plan.key row ∉ batch.map plan.key := by
  simp [without]

theorem batch_length (plan : Plan ρ κ) (due : ρ → Bool) (distinct : rows.Nodup) :
    (plan.batch due rows).length + (plan.without rows (plan.batch due rows)).length ≤ rows.length ∧
    ((plan.batch due rows).length + (plan.without rows (plan.batch due rows)).length = rows.length →
      plan.Closed rows (plan.batch due rows)) := by
  let gone := rows.filter fun row => plan.key row ∈ (plan.batch due rows).map plan.key
  have split : rows.length = gone.length + (plan.without rows (plan.batch due rows)).length := by
    simpa only [gone,without,decide_not] using List.length_eq_length_filter_add
      fun row => decide (plan.key row ∈ (plan.batch due rows).map plan.key)
  have inside : plan.batch due rows ⊆ gone := fun row listed =>
    List.mem_filter.mpr ⟨(mem_batch listed).1,by simpa using ⟨row,listed,rfl⟩⟩
  have sub : (plan.batch due rows).Subperm gone :=
    List.Nodup.subperm ((queue_nodup distinct).sublist (List.take_sublist _ _)) inside
  have fewer := sub.length_le
  refine ⟨by omega,fun exact_ => ?_⟩
  have perm := sub.perm_of_length_le (by omega)
  intro row listed other there same
  refine perm.mem_iff.mpr (List.mem_filter.mpr ⟨there,?_⟩)
  simpa using ⟨row,listed,same.symm⟩

theorem sweep_sublist (rounds : Nat) : (plan.sweep due rounds rows).2.Sublist rows := by
  induction rounds generalizing rows with
  | zero => exact .refl _
  | succ rounds ih =>
    rw [sweep]
    split
    next => exact .refl _
    next => exact ih.trans List.filter_sublist

theorem sweep_nodup (plan : Plan ρ κ) (due : ρ → Bool) (distinct : rows.Nodup) (rounds : Nat) :
    (plan.sweep due rounds rows).2.Nodup := List.Nodup.sublist (sweep_sublist rounds) distinct

end Batches

variable [DecidableEq ρ]

theorem filter_not_mem_take {rows : List ρ} (distinct : rows.Nodup) (count : Nat) :
    rows.filter (· ∉ rows.take count) = rows.drop count := by
  have halves : (rows.take count ++ rows.drop count).Nodup := by rwa [List.take_append_drop]
  have apart := (List.nodup_append.mp halves).2.2
  calc rows.filter (· ∉ rows.take count)
      = (rows.take count ++ rows.drop count).filter (· ∉ rows.take count) := by
        rw [List.take_append_drop]
    _ = rows.drop count := by
        rw [List.filter_append,List.filter_eq_nil_iff.mpr (by simp),List.nil_append]
        refine List.filter_eq_self.mpr fun row later => ?_
        simpa using fun early => apart row early row later rfl

/-- Rows of another kind are none of a sweep's business. -/
theorem queue_other {due' : ρ → Bool} {rounds : Nat} (apart : ∀ row, due row = true → due' row = false) :
    plan.queue due' (rows.filter (· ∉ plan.taken due rounds rows)) = plan.queue due' rows := by
  rw [queue,List.filter_filter,queue]
  congr 1
  refine List.filter_congr fun row _ => ?_
  by_cases listed : row ∈ plan.taken due rounds rows
  · simp [apart row (mem_taken listed).2]
  · simp [listed]

variable [DecidableEq κ]

theorem without_closed {batch : List ρ} (closed : plan.Closed rows batch) :
    plan.without rows batch = rows.filter (· ∉ batch) := by
  refine List.filter_congr fun row listed => ?_
  refine decide_eq_decide.mpr (not_congr ?_)
  rw [List.mem_map]
  constructor
  · rintro ⟨inside,there,same⟩
    exact closed inside there row listed same.symm
  · exact fun there => ⟨row,there,rfl⟩

theorem queue_without (distinct : rows.Nodup) (closed : plan.Closed rows (plan.batch due rows)) :
    plan.queue due (plan.without rows (plan.batch due rows)) =
      (plan.queue due rows).drop plan.size := by
  rw [without_closed closed,queue_filter]
  exact filter_not_mem_take (queue_nodup distinct) plan.size

theorem chunk_without (distinct : rows.Nodup) (closed : plan.Closed rows (plan.batch due rows))
    (round : Nat) : plan.chunk due (plan.without rows (plan.batch due rows)) round =
      plan.chunk due rows (round + 1) := by
  rw [chunk,chunk,queue_without distinct closed,slice,slice,List.drop_drop]
  congr 2
  ring

theorem sweep_apart {rounds : Nat} (distinct : rows.Nodup) (apart : plan.Apart due rounds rows) :
    (plan.sweep due rounds rows).1.flatten = plan.taken due rounds rows ∧
      (plan.sweep due rounds rows).2 = rows.filter (· ∉ plan.taken due rounds rows) := by
  induction rounds generalizing rows with
  | zero => simp [sweep,taken]
  | succ rounds ih =>
    by_cases done : plan.batch due rows = []
    · have none : plan.taken due (rounds + 1) rows = [] := by
        rw [taken,batch_eq_nil.mp done,List.take_nil]
      simp [sweep,done,none]
    · have closed : plan.Closed rows (plan.batch due rows) := chunk_zero ▸ apart 0 (by omega)
      have later : plan.Apart due rounds (plan.without rows (plan.batch due rows)) := by
        intro round bound row inside other there same
        rw [chunk_without distinct closed] at inside ⊢
        exact apart (round + 1) (by omega) row inside other (mem_without.mp there).1 same
      obtain ⟨flat,left⟩ := ih (plan.without_nodup distinct _) later
      have grown : plan.taken due (rounds + 1) rows = plan.batch due rows ++
          plan.taken due rounds (plan.without rows (plan.batch due rows)) := by
        rw [taken,taken,queue_without distinct closed,batch,← List.take_add]
        congr 1
        ring
      rw [sweep,if_neg done]
      refine ⟨?_,?_⟩
      · rw [List.flatten_cons,flat,grown]
      · dsimp only
        rw [left,grown,without_closed closed,List.filter_filter]
        exact List.filter_congr fun row _ => by simp [Bool.and_comm]

theorem sweep_length (plan : Plan ρ κ) (due : ρ → Bool) (distinct : rows.Nodup) (rounds : Nat) :
    (plan.sweep due rounds rows).1.flatten.length + (plan.sweep due rounds rows).2.length ≤
        rows.length ∧
    ((plan.sweep due rounds rows).1.flatten.length + (plan.sweep due rounds rows).2.length =
      rows.length → plan.Apart due rounds rows) := by
  induction rounds generalizing rows with
  | zero => exact ⟨by simp [sweep],fun _ _ none => absurd none (Nat.not_lt_zero _)⟩
  | succ rounds ih =>
    rw [sweep]
    by_cases done : plan.batch due rows = []
    · rw [if_pos done]
      refine ⟨by simp,fun _ round _ row listed => ?_⟩
      rw [chunk,batch_eq_nil.mp done] at listed
      simp [slice] at listed
    · rw [if_neg done]
      obtain ⟨fewer,closes⟩ := plan.batch_length due distinct
      obtain ⟨less,apart⟩ := ih (plan.without_nodup distinct (plan.batch due rows))
      dsimp only
      rw [List.flatten_cons,List.length_append]
      refine ⟨by omega,fun exact_ => ?_⟩
      have closed := closes (by omega)
      have later := apart (by omega)
      intro round bound
      cases round with
      | zero => rwa [chunk_zero]
      | succ round =>
        rw [← chunk_without distinct closed]
        intro row listed other there same
        have stays : row ∈ plan.without rows (plan.batch due rows) :=
          (mem_queue.mp (List.mem_of_mem_drop (List.mem_of_mem_take listed))).1
        refine later round (by omega) row listed other (mem_without.mpr ⟨there,?_⟩) same
        rw [same]
        exact (mem_without.mp stays).2

def Disjoint (kinds : List (ρ → Bool)) : Prop :=
  kinds.Pairwise fun due due' => ∀ row, due row = true → due' row = false

theorem sweeps_count (rounds : Nat) (kinds : List (ρ → Bool)) :
    (plan.sweeps rounds kinds rows).1.length = kinds.length := by
  induction kinds generalizing rows with
  | nil => rfl
  | cons due rest ih => exact congrArg Nat.succ ih

theorem sweeps_sublist (rounds : Nat) (kinds : List (ρ → Bool)) :
    (plan.sweeps rounds kinds rows).2.Sublist rows := by
  induction kinds generalizing rows with
  | nil => exact .refl _
  | cons due rest ih => exact ih.trans (sweep_sublist rounds)

theorem sweeps_apart {rounds : Nat} {kinds : List (ρ → Bool)} (distinct : rows.Nodup)
    (disjoint : Disjoint kinds) (apart : ∀ due ∈ kinds, plan.Apart due rounds rows) :
    (plan.sweeps rounds kinds rows).1.map List.flatten =
        kinds.map (fun due => plan.taken due rounds rows) ∧
      (plan.sweeps rounds kinds rows).2 =
        rows.filter fun row => ∀ due ∈ kinds, row ∉ plan.taken due rounds rows := by
  induction kinds generalizing rows with
  | nil => simp [sweeps]
  | cons due rest ih =>
    obtain ⟨others,disjoint⟩ := List.pairwise_cons.mp disjoint
    obtain ⟨first,apart⟩ := List.forall_mem_cons.mp apart
    obtain ⟨flat,left⟩ := sweep_apart distinct first
    have queues : ∀ due' ∈ rest, plan.queue due' (plan.sweep due rounds rows).2 =
        plan.queue due' rows := by
      intro due' listed
      rw [left]
      exact queue_other (others due' listed)
    have later : ∀ due' ∈ rest, plan.Apart due' rounds (plan.sweep due rounds rows).2 := by
      intro due' listed round bound row inside other there same
      rw [chunk,queues due' listed] at inside ⊢
      rw [left] at there
      exact apart due' listed round bound row inside other (List.mem_of_mem_filter there) same
    have stays : (plan.sweep due rounds rows).2.Nodup := by
      rw [left]
      exact distinct.filter _
    obtain ⟨flats,remains⟩ := ih stays disjoint later
    have same : ∀ due' ∈ rest, plan.taken due' rounds (plan.sweep due rounds rows).2 =
        plan.taken due' rounds rows := by
      intro due' listed
      rw [taken,queues due' listed,taken]
    rw [sweeps]
    refine ⟨?_,?_⟩
    · dsimp only
      rw [List.map_cons,List.map_cons,flat,flats,List.map_congr_left same]
    · dsimp only
      rw [remains,left,List.filter_filter]
      refine List.filter_congr fun row _ => ?_
      rw [← Bool.decide_and]
      refine decide_eq_decide.mpr ?_
      rw [List.forall_mem_cons,and_comm]
      refine and_congr_right fun _ => forall_congr' fun due' => forall_congr' fun listed => ?_
      rw [← left,same due' listed]

theorem sweeps_length (plan : Plan ρ κ) {kinds : List (ρ → Bool)} (distinct : rows.Nodup) (disjoint : Disjoint kinds)
    (rounds : Nat) :
    ((plan.sweeps rounds kinds rows).1.map fun swept => swept.flatten.length).sum +
        (plan.sweeps rounds kinds rows).2.length ≤ rows.length ∧
    (((plan.sweeps rounds kinds rows).1.map fun swept => swept.flatten.length).sum +
        (plan.sweeps rounds kinds rows).2.length = rows.length →
      ∀ due ∈ kinds, plan.Apart due rounds rows) := by
  induction kinds generalizing rows with
  | nil => simp [sweeps]
  | cons due rest ih =>
    obtain ⟨others,disjoint⟩ := List.pairwise_cons.mp disjoint
    obtain ⟨fewer,aparts⟩ := plan.sweep_length due distinct rounds
    obtain ⟨less,later⟩ := ih (plan.sweep_nodup due distinct rounds) disjoint
    rw [sweeps]
    dsimp only
    rw [List.map_cons,List.sum_cons]
    refine ⟨by omega,fun exact_ => ?_⟩
    have first := aparts (by omega)
    obtain ⟨-,left⟩ := sweep_apart distinct first
    refine List.forall_mem_cons.mpr ⟨first,fun due' listed round bound row inside other there same => ?_⟩
    have queues : plan.queue due' (plan.sweep due rounds rows).2 = plan.queue due' rows := by
      rw [left]
      exact queue_other (others due' listed)
    by_cases gone : other ∈ plan.taken due rounds rows
    · -- A row that went with the first kind would have taken this one with it.
      obtain ⟨round',bound',inside'⟩ := mem_taken_iff.mp gone
      obtain ⟨row_there,row_due'⟩ := mem_taken (mem_taken_iff.mpr ⟨round,bound,inside⟩)
      have with_it := first round' bound' other inside' row row_there same.symm
      have row_due := (mem_taken (mem_taken_iff.mpr ⟨round',bound',with_it⟩)).2
      rw [others due' listed row row_due] at row_due'
      exact Bool.noConfusion row_due'
    · have apart := later (by omega) due' listed round bound
      rw [chunk,queues,← chunk] at apart
      refine apart row inside other ?_ same
      rw [left]
      exact List.mem_filter.mpr ⟨there,by simpa using gone⟩

end Plan

end Valdrics.Removal

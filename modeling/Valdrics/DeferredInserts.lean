import Mathlib.Data.Finset.Basic
import Mathlib.Data.Multiset.Count
import Mathlib.Data.Finset.Dedup

/-! A set in rows whose new members are inserted only at the end: an edit looks at the rows alone,
deletes at once what it does not keep, and queues what it names and does not find. -/
namespace DeferredInserts

variable {α : Type*} [DecidableEq α]

/-- An edit of a set: what it names is a member after it. Who is not named stays where the edit is
carried out when `keeps` says so, and by its meaning when `spares` does. -/
structure Edit (α : Type*) where
  names : Finset α
  keeps : α → Bool
  spares : α → Bool

namespace Edit

def made (edit : Edit α) (rows : Finset α) : Finset α :=
  edit.names ∪ rows.filter fun x => edit.keeps x = true

def meant (edit : Edit α) (members : Finset α) : Finset α :=
  edit.names ∪ members.filter fun x => edit.spares x = true

@[simp] theorem mem_made {edit : Edit α} {rows : Finset α} {x : α} :
    x ∈ edit.made rows ↔ x ∈ edit.names ∨ (x ∈ rows ∧ edit.keeps x = true) := by
  simp [made]

@[simp] theorem mem_meant {edit : Edit α} {members : Finset α} {x : α} :
    x ∈ edit.meant members ↔ x ∈ edit.names ∨ (x ∈ members ∧ edit.spares x = true) := by
  simp [meant]

end Edit

def meantAll (members : Finset α) (edits : List (Edit α)) : Finset α :=
  edits.foldl (fun members edit => edit.meant members) members

structure Deferred (α : Type*) where
  rows : Finset α
  waiting : Multiset α := 0

namespace Deferred

def assign (d : Deferred α) (members : Finset α) : Deferred α :=
  { rows := d.rows ∩ members, waiting := d.waiting + (members \ d.rows).val }

def edit (d : Deferred α) (e : Edit α) : Deferred α := d.assign (e.made d.rows)

def run (d : Deferred α) (edits : List (Edit α)) : Deferred α := edits.foldl edit d

def contents (d : Deferred α) : Finset α := d.rows ∪ d.waiting.toFinset

end Deferred

def RowStays (x : α) (edits : List (Edit α)) : Prop :=
  ∀ e ∈ edits, x ∈ e.names ∨ e.keeps x = true

def TakenOut (x : α) (edits : List (Edit α)) : Prop :=
  ∃ before e after, edits = before ++ e :: after ∧ x ∉ e.names ∧ e.spares x = false ∧
    ∀ l ∈ after, x ∉ l.names

def Inserts (members : Finset α) (x : α) (before : List (Edit α)) (e : Edit α) : Prop :=
  x ∈ e.names ∧ ¬(x ∈ members ∧ RowStays x before)

def InsertedOnce (members : Finset α) (edits : List (Edit α)) (x : α) : Prop :=
  ∀ before e after, edits = before ++ e :: after → Inserts members x before e →
    ∀ l ∈ after, x ∉ l.names

/-- The edits carry their meaning out on the element: the one that inserts it is the last that
speaks of it, and the row of a member that none inserts goes exactly if it is taken out. -/
structure CarriedOut (members : Finset α) (edits : List (Edit α)) (x : α) : Prop where
  last : ∀ before e after, edits = before ++ e :: after → Inserts members x before e →
    ∀ l ∈ after, x ∉ l.names ∧ l.spares x = true
  row : (∀ before e after, edits = before ++ e :: after → ¬Inserts members x before e) →
    x ∈ members → (¬RowStays x edits ↔ TakenOut x edits)

variable {d : Deferred α} {edits : List (Edit α)} {e : Edit α} {members : Finset α} {x : α}

@[simp] theorem mem_edit_rows : x ∈ (d.edit e).rows ↔ x ∈ d.rows ∧ (x ∈ e.names ∨ e.keeps x = true) := by
  simp only [Deferred.edit,Deferred.assign,Finset.mem_inter,Edit.mem_made]
  tauto

theorem run_append (d : Deferred α) (first second : List (Edit α)) :
    d.run (first ++ second) = (d.run first).run second := List.foldl_append

theorem mem_run_rows : x ∈ (d.run edits).rows ↔ x ∈ d.rows ∧ RowStays x edits := by
  induction edits generalizing d with
  | nil => simp [Deferred.run,RowStays]
  | cons e rest ih =>
    have step : x ∈ (d.run (e :: rest)).rows ↔ x ∈ (d.edit e).rows ∧ RowStays x rest := ih
    rw [step,mem_edit_rows]
    simp only [RowStays,List.forall_mem_cons]
    tauto

theorem mem_meantAll : x ∈ meantAll members edits ↔
    ¬TakenOut x edits ∧ (x ∈ members ∨ ∃ e ∈ edits, x ∈ e.names) := by
  induction edits using List.reverseRecOn generalizing members with
  | nil => simp [meantAll,TakenOut]
  | append_singleton first e ih =>
    have step : meantAll members (first ++ [e]) = e.meant (meantAll members first) := by
      simp [meantAll]
    rw [step,Edit.mem_meant,ih]
    have taken : TakenOut x (first ++ [e]) ↔
        x ∉ e.names ∧ (e.spares x = false ∨ TakenOut x first) := by
      constructor
      · rintro ⟨before,l,after,split,notNamed,out,later⟩
        rcases List.eq_nil_or_concat after with rfl | ⟨rest,last,rfl⟩
        · obtain ⟨rfl,is⟩ := List.append_inj' split rfl
          cases is
          exact ⟨notNamed,.inl out⟩
        · have whole : first ++ [e] = (before ++ l :: rest) ++ [last] := by simpa using split
          have parts := List.append_inj' whole rfl
          cases parts.2
          refine ⟨later _ (by simp),.inr ⟨before,l,rest,parts.1,notNamed,out,?_⟩⟩
          intro l inRest
          exact later l (by simp [inRest])
      · rintro ⟨notNamed,out | ⟨before,l,after,rfl,other,out,later⟩⟩
        · exact ⟨first,e,[],rfl,notNamed,out,by simp⟩
        · refine ⟨before,l,after ++ [e],by simp,other,out,?_⟩
          intro l listed
          rcases List.mem_append.mp listed with listed | listed
          · exact later l listed
          · cases List.mem_singleton.mp listed
            exact notNamed
    rw [taken]
    have named : (∃ l ∈ first ++ [e], x ∈ l.names) ↔ (∃ l ∈ first, x ∈ l.names) ∨ x ∈ e.names := by
      simp [or_and_right,exists_or]
    rw [named]
    by_cases here : x ∈ e.names
    · simp [here]
    · cases e.spares x <;> simp [here]

theorem count_edit : (d.edit e).waiting.count x =
    d.waiting.count x + if x ∈ e.names ∧ x ∉ d.rows then 1 else 0 := by
  have nodup := (e.made d.rows \ d.rows).nodup
  simp only [Deferred.edit,Deferred.assign,Multiset.count_add,Multiset.count_eq_of_nodup nodup,
    Finset.mem_val,Finset.mem_sdiff,Edit.mem_made]
  congr 1
  apply if_congr _ rfl rfl
  tauto

theorem count_missing (missing : x ∉ d.rows) : (d.run edits).waiting.count x =
    d.waiting.count x + edits.countP fun e => x ∈ e.names := by
  induction edits generalizing d with
  | nil => rfl
  | cons e rest ih =>
    have still : x ∉ (d.edit e).rows := fun present => missing (mem_edit_rows.mp present).1
    have step : (d.run (e :: rest)).waiting.count x = _ := ih still
    rw [step,count_edit,List.countP_cons]
    by_cases named : x ∈ e.names
    · simp [named,missing]
      omega
    · simp [named]

theorem count_none (none : ∀ before e after, edits = before ++ e :: after →
    ¬Inserts d.rows x before e) : (d.run edits).waiting.count x = d.waiting.count x := by
  induction edits generalizing d with
  | nil => rfl
  | cons e rest ih =>
    have first : ¬(x ∈ e.names ∧ x ∉ d.rows) := by
      have here := none [] e rest rfl
      simpa [Inserts,RowStays] using here
    have step : (d.run (e :: rest)).waiting.count x = (d.edit e).waiting.count x := by
      apply ih
      rintro before l after rfl ⟨named,missing⟩
      refine none (e :: before) l after rfl ⟨named,fun stays => missing ?_⟩
      have all := List.forall_mem_cons.mp stays.2
      exact ⟨mem_edit_rows.mpr ⟨stays.1,all.1⟩,all.2⟩
    rw [step,count_edit,if_neg first,Nat.add_zero]

theorem count_inserted {before after : List (Edit α)} (inserts : Inserts d.rows x before e) :
    (d.run (before ++ e :: after)).waiting.count x =
      (d.run before).waiting.count x + 1 + after.countP fun l => x ∈ l.names := by
  have missing : x ∉ (d.run before).rows := fun present => inserts.2 (mem_run_rows.mp present)
  have still : x ∉ ((d.run before).edit e).rows :=
    fun present => missing (mem_edit_rows.mp present).1
  have step : (d.run (before ++ e :: after)).waiting.count x =
      (((d.run before).edit e).run after).waiting.count x := by
    rw [run_append]
    rfl
  rw [step,count_missing still,count_edit,if_pos ⟨inserts.1,missing⟩]

theorem nodup_waiting_iff :
    (Deferred.run { rows := members } edits).waiting.Nodup ↔ ∀ x, InsertedOnce members edits x := by
  rw [Multiset.nodup_iff_count_le_one]
  apply forall_congr'
  intro x
  constructor
  · rintro few before e after rfl inserts l later named
    rw [count_inserted inserts] at few
    have positive : 0 < after.countP fun l => x ∈ l.names :=
      List.countP_pos_iff.mpr ⟨l,later,by simpa using named⟩
    omega
  · intro once
    by_cases inserted : ∃ before e after, edits = before ++ e :: after ∧ Inserts members x before e
    · obtain ⟨before,e,after,rfl,inserts⟩ := inserted
      have later : after.countP (fun l => x ∈ l.names) = 0 := by
        apply List.countP_eq_zero.mpr
        intro l listed
        simpa using once before e after rfl inserts l listed
      have earlier : (Deferred.run { rows := members } before).waiting.count x = 0 := by
        rw [count_none]
        · rfl
        · rintro b f a rfl first
          exact once b f (a ++ e :: after) (by simp) first e (by simp) inserts.1
      rw [count_inserted inserts,later,earlier]
    · rw [count_none]
      · simp
      · intro before e after split inserts
        exact inserted ⟨before,e,after,split,inserts⟩

theorem mem_contents : x ∈ d.contents ↔ x ∈ d.rows ∨ 0 < d.waiting.count x := by
  simp [Deferred.contents,Multiset.count_pos]

omit [DecidableEq α] in
/-- What is inserted and never named again is meant to stay unless an edit takes it out. -/
theorem carriedOut_inserted {before after : List (Edit α)} (once : InsertedOnce members
    (before ++ e :: after) x) (inserts : Inserts members x before e) :
    CarriedOut members (before ++ e :: after) x ↔ ¬TakenOut x (before ++ e :: after) := by
  constructor
  · rintro carried ⟨b,l,a,split,notNamed,out,later⟩
    rcases List.append_eq_append_iff.mp split with ⟨middle,_,rest⟩ | ⟨middle,_,rest⟩
    · cases middle with
      | nil =>
        cases rest
        exact notNamed inserts.1
      | cons first middle =>
        cases rest
        have spared := (carried.last before e _ rfl inserts l (by simp)).2
        simp [out] at spared
    · cases middle with
      | nil =>
        cases rest
        exact notNamed inserts.1
      | cons first middle =>
        cases rest
        exact later e (by simp) inserts.1
  · intro stays
    constructor
    · intro b f a split first l listed
      have notNamed := once b f a split first
      refine ⟨notNamed l listed,?_⟩
      by_contra out
      obtain ⟨a₁,a₂,rfl⟩ := List.append_of_mem listed
      refine stays ⟨b ++ f :: a₁,l,a₂,by simp [split],notNamed l listed,by simpa using out,?_⟩
      intro k later
      exact notNamed k (by simp [later])
    · intro none
      exact absurd inserts (none before e after rfl)

/-- Where no element waits twice, an element ends as it is meant to exactly if the edits carry
their meaning out on it. -/
theorem carriedOut_iff (once : InsertedOnce members edits x) :
    (x ∈ (Deferred.run { rows := members } edits).contents ↔ x ∈ meantAll members edits) ↔
      CarriedOut members edits x := by
  rw [mem_contents,mem_run_rows,mem_meantAll]
  by_cases inserted : ∃ before e after, edits = before ++ e :: after ∧ Inserts members x before e
  · obtain ⟨before,e,after,rfl,inserts⟩ := inserted
    rw [carriedOut_inserted once inserts,count_inserted inserts]
    have named : ∃ l ∈ before ++ e :: after, x ∈ l.names := ⟨e,by simp,inserts.1⟩
    have waits : 0 < (Deferred.run { rows := members } before).waiting.count x + 1 +
        after.countP fun l => x ∈ l.names := by omega
    simp only [named,waits,or_true,and_true,true_iff]
  · have none : ∀ before e after, edits = before ++ e :: after → ¬Inserts members x before e :=
      fun before e after split inserts => inserted ⟨before,e,after,split,inserts⟩
    have waits : (Deferred.run { rows := members } edits).waiting.count x = 0 := count_none none
    have row : CarriedOut members edits x ↔
        (x ∈ members → (¬RowStays x edits ↔ TakenOut x edits)) := by
      constructor
      · exact fun carried => carried.row none
      · intro row
        exact ⟨fun before e after split inserts => absurd inserts (none before e after split),
          fun _ => row⟩
    rw [row,waits]
    by_cases member : x ∈ members
    · simp only [member,true_and,Nat.lt_irrefl,or_false,true_or,and_true,true_implies]
      by_cases taken : TakenOut x edits <;> simp [taken]
    · have never : ¬∃ e ∈ edits, x ∈ e.names := by
        rintro ⟨e,listed,named⟩
        obtain ⟨before,after,split⟩ := List.append_of_mem listed
        exact none before e after split ⟨named,fun stays => member stays.1⟩
      simp [member,never]

theorem waiting_apart {x : α} (waits : x ∈ (Deferred.run { rows := members } edits).waiting) :
    x ∉ (Deferred.run { rows := members } edits).rows := by
  intro present
  rw [mem_run_rows] at present
  have never : (Deferred.run { rows := members } edits).waiting.count x = 0 := by
    rw [count_none]
    · rfl
    · rintro before e after rfl inserts
      refine inserts.2 ⟨present.1,fun l listed => present.2 l ?_⟩
      simp [listed]
  exact absurd waits (Multiset.count_eq_zero.mp never)

end DeferredInserts

import Mathlib.Data.List.Defs
import Mathlib.Order.Basic

/-! Memo tables whose entries expire and whose size is bounded. What is forgotten is computed
again, so a table in which every entry is right never changes a result. -/
namespace ExpiringMemo

variable {κ β ε : Type} [DecidableEq κ]

structure Entry (β : Type) where
  value : β
  stored : Int

abbrev Memo (κ β : Type) := List (κ × Entry β)

/-- The entry of the key while it is young enough; an expired one is dropped. -/
def get (ttl now : Int) (memo : Memo κ β) (key : κ) : Option β × Memo κ β :=
  match memo.lookup key with
  | none => (none,memo)
  | some entry =>
    if now - entry.stored < ttl then (some entry.value,memo)
    else (none,memo.filter fun e => e.1 ≠ key)

def oldest : Memo κ β → Option (κ × Int)
  | [] => none
  | (key,entry) :: rest =>
    match oldest rest with
    | none => some (key,entry.stored)
    | some other => if other.2 < entry.stored then some other else some (key,entry.stored)

def makeRoom (limit : Nat) (memo : Memo κ β) : Memo κ β :=
  if limit ≤ memo.length then memo.filter fun e => some e.1 ≠ (oldest memo).map (·.1) else memo

/-- The entry of a key takes the place of the old one, or comes last. -/
def put (memo : Memo κ β) (key : κ) (entry : Entry β) : Memo κ β :=
  if key ∈ memo.map (·.1) then memo.map fun e => if e.1 = key then (key,entry) else e
  else memo ++ [(key,entry)]

def set (limit : Nat) (now : Int) (memo : Memo κ β) (key : κ) (value : β) : Memo κ β :=
  put (makeRoom limit memo) key { value, stored := now }

def remember (ttl : Int) (limit : Nat) (now : Int) (memo : Memo κ β) (key : κ)
    (compute : Memo κ β → Except ε β × Memo κ β) : Except ε β × Memo κ β :=
  match get ttl now memo key with
  | (some value,memo) => (.ok value,memo)
  | (none,memo) =>
    match compute memo with
    | (.ok value,memo) => (.ok value,set limit now memo key value)
    | (.error failure,memo) => (.error failure,memo)

def Sound (right : κ → β → Prop) (memo : Memo κ β) : Prop := ∀ e ∈ memo, right e.1 e.2.value

variable {right : κ → β → Prop} {memo : Memo κ β} {key : κ} {value : β} {ttl now : Int}
  {limit : Nat}

omit [DecidableEq κ] in
theorem Sound.filter (sound : Sound right memo) (keep : κ × Entry β → Bool) :
    Sound right (memo.filter keep) :=
  fun e listed => sound e (List.mem_filter.mp listed).1

theorem Sound.get (sound : Sound right memo) : Sound right (get ttl now memo key).2 := by
  simp only [ExpiringMemo.get]
  split
  · exact sound
  · split
    · exact sound
    · exact sound.filter _

theorem right_of_get (sound : Sound right memo) (found : (get ttl now memo key).1 = some value) :
    right key value := by
  simp only [ExpiringMemo.get] at found
  split at found
  · cases found
  next entry present =>
    split at found
    · cases found
      obtain ⟨before,after,is,_⟩ := List.lookup_eq_some_iff.mp present
      apply sound (key,entry)
      rw [is]
      simp
    · cases found

theorem Sound.put (sound : Sound right memo) {entry : Entry β} (fine : right key entry.value) :
    Sound right (put memo key entry) := by
  simp only [ExpiringMemo.put]
  split
  · intro e listed
    obtain ⟨old,oldListed,rfl⟩ := List.mem_map.mp listed
    split
    · exact fine
    · exact sound old oldListed
  · intro e listed
    rcases List.mem_append.mp listed with listed | listed
    · exact sound e listed
    · cases List.mem_singleton.mp listed
      exact fine

theorem Sound.set (sound : Sound right memo) (fine : right key value) :
    Sound right (set limit now memo key value) := by
  have room : Sound right (makeRoom limit memo) := by
    simp only [makeRoom]
    split
    · exact sound.filter _
    · exact sound
  exact room.put fine

theorem remember_eq {compute : Memo κ β → Except ε β × Memo κ β} {result : Except ε β}
    (sound : Sound right memo)
    (computes : ∀ memo, Sound right memo →
      (compute memo).1 = result ∧ Sound right (compute memo).2)
    (agrees : ∀ value, right key value ↔ result = .ok value) :
    (remember ttl limit now memo key compute).1 = result ∧
      Sound right (remember ttl limit now memo key compute).2 := by
  have kept : Sound right (ExpiringMemo.get ttl now memo key).2 := sound.get
  have found : ∀ value, (ExpiringMemo.get ttl now memo key).1 = some value → right key value :=
    fun _ => right_of_get sound
  unfold remember
  cases looked : ExpiringMemo.get ttl now memo key with
  | mk entry rest =>
    rw [looked] at kept found
    cases entry with
    | some value => exact ⟨((agrees value).mp (found value rfl)).symm,kept⟩
    | none =>
      obtain ⟨is,sound⟩ := computes rest kept
      cases computed : compute rest with
      | mk made rest =>
        rw [computed] at is sound
        cases made with
        | error failure => simpa [computed] using ⟨is,sound⟩
        | ok value => simpa [computed] using ⟨is,sound.set ((agrees value).mpr is.symm)⟩

end ExpiringMemo

import Mathlib.Logic.Function.Basic
import Valdrics.Calendar
import Valdrics.NumberText

/-! The process-local cache client: values under text keys, each with an optional expiry.
None of its coroutines waits, so that a whole call is one step, at one reading of the clock. -/
namespace Valdrics.Cache

inductive CacheValue where
  | text (s : String)
  | number (n : Int)
  deriving DecidableEq

namespace CacheValue

/-- `int(value)`; `none` raises. -/
def toInt : CacheValue → Option Int
  | text s => parseInt s
  | number n => some n

/-- `bool(value)`. -/
def truthy : CacheValue → Bool
  | text s => s ≠ ""
  | number n => n ≠ 0

end CacheValue

structure Record where
  value : CacheValue
  expiresAt : Option Nat
  deriving DecidableEq

def Record.expired (record : Record) (now : Nat) : Bool := record.expiresAt.any (· ≤ now)

abbrev Store := String → Option Record

def Store.empty : Store := fun _ => none

/-- `timedelta(seconds=max(seconds, 0))` in microseconds. -/
def micros (seconds : Int) : Nat := Calendar.microsPerSecond * seconds.toNat

def secondsAfter (now : Nat) (seconds : Int) : Nat := now + micros seconds

theorem micros_pos {seconds : Int} (positive : 0 < seconds) : 0 < micros seconds := by
  have lasts : 0 < seconds.toNat := by omega
  have unit : 0 < Calendar.microsPerSecond := by decide
  exact Nat.mul_pos unit lasts

theorem Record.expired_after {value : CacheValue} {now wait : Nat} {seconds : Int} :
    expired ⟨value,some (secondsAfter now seconds)⟩ (now + wait) = decide (micros seconds ≤ wait) := by
  simp [expired,secondsAfter]

theorem Record.expired_later {value : CacheValue} {now : Nat} {seconds : Int}
    (positive : 0 < seconds) : expired ⟨value,some (secondsAfter now seconds)⟩ now = false := by
  have lasts : ¬micros seconds ≤ 0 := Nat.not_le.mpr (micros_pos positive)
  have after := @expired_after value now 0 seconds
  simpa [lasts] using after

namespace Store

def purgeIfExpired (store : Store) (key : String) (now : Nat) : Store :=
  if (store key).any (·.expired now) then Function.update store key none else store

def get (store : Store) (key : String) (now : Nat) : Option CacheValue × Store :=
  let store := store.purgeIfExpired key now
  ((store key).map (·.value),store)

/-- `set(key, value, ex=ex, nx=nx)`: without `ex` the key keeps no expiry. -/
def set (store : Store) (key : String) (value : CacheValue) (ex : Option Int) (nx : Bool)
    (now : Nat) : Bool × Store :=
  let store := store.purgeIfExpired key now
  if nx && (store key).isSome then (false,store)
  else (true,Function.update store key (some ⟨value,ex.map (secondsAfter now)⟩))

/-- `incr` and `decr`; `none` raises on a value that is no number. -/
def add (store : Store) (key : String) (amount : Int) (now : Nat) : Option (Int × Store) :=
  let (current,store) := store.get key now
  match current.elim (some 0) CacheValue.toInt with
  | none => none
  | some value => some (value + amount,(store.set key (.number (value + amount)) none false now).2)

def incr (store : Store) (key : String) (now : Nat) : Option (Int × Store) := store.add key 1 now

def decr (store : Store) (key : String) (now : Nat) : Option (Int × Store) :=
  store.add key (-1) now

def expire (store : Store) (key : String) (ttlSeconds : Int) (now : Nat) : Bool × Store :=
  let store := store.purgeIfExpired key now
  match store key with
  | none => (false,store)
  | some record =>
    (true,Function.update store key (some ⟨record.value,some (secondsAfter now ttlSeconds)⟩))

def read (store : Store) (key : String) (now : Nat) : Option Record :=
  (store key).filter fun record => !record.expired now

def count (store : Store) (key : String) (now : Nat) : Option Int :=
  ((store.read key now).map (·.value)).elim (some 0) CacheValue.toInt

variable {store : Store} {key : String} {now : Nat}

@[simp] theorem purgeIfExpired_self : store.purgeIfExpired key now key = store.read key now := by
  unfold purgeIfExpired read
  cases found : store key with
  | none => simp [found]
  | some record =>
    by_cases expired : record.expired now = true <;> simp [found,expired,Option.filter_some]

theorem purgeIfExpired_other {other : String} (apart : other ≠ key) :
    store.purgeIfExpired key now other = store other := by
  unfold purgeIfExpired
  split
  · exact Function.update_of_ne apart _ _
  · rfl

@[simp] theorem update_purgeIfExpired (record : Option Record) :
    Function.update (store.purgeIfExpired key now) key record =
      Function.update store key record := by
  unfold purgeIfExpired
  split
  · exact Function.update_idem ..
  · rfl

theorem get_eq : store.get key now =
    ((store.read key now).map (·.value),store.purgeIfExpired key now) := by
  simp [get]

theorem read_purgeIfExpired_other {other : String} (apart : other ≠ key) :
    (store.purgeIfExpired key now).read other now = store.read other now := by
  simp [read,purgeIfExpired_other apart]

theorem get_value : (store.get key now).1 = (store.read key now).map (·.value) := by
  simp [get]

theorem get_store : (store.get key now).2 = store.purgeIfExpired key now := rfl

theorem set_plain (value : CacheValue) (ex : Option Int) :
    (store.set key value ex false now).2 =
      Function.update store key (some ⟨value,ex.map (secondsAfter now)⟩) := by
  simp [set]

theorem add_eq {c : Int} (counts : store.count key now = some c) (amount : Int) :
    store.add key amount now =
      some (c + amount,Function.update store key (some ⟨.number (c + amount),none⟩)) := by
  have found : ((store.get key now).1).elim (some 0) CacheValue.toInt = some c := by
    rw [get_value]
    exact counts
  simp [add,found,get_store,set_plain]

theorem expire_eq {record : Record} (found : store.read key now = some record) (ttl : Int) :
    store.expire key ttl now =
      (true,Function.update store key (some ⟨record.value,some (secondsAfter now ttl)⟩)) := by
  simp [expire,found]

@[simp] theorem read_update {record : Record} :
    read (Function.update store key (some record)) key now =
      if record.expired now then none else some record := by
  by_cases expired : record.expired now = true <;> simp [read,expired,Option.filter_some]

theorem read_at {record : Record} (stored : store key = some record) :
    store.read key now = if record.expired now then none else some record := by
  by_cases expired : record.expired now = true <;> simp [read,stored,expired,Option.filter_some]

@[simp] theorem read_empty : empty.read key now = none := rfl

theorem read_none (absent : store key = none) : store.read key now = none := by
  simp [read,absent]

end Store

end Valdrics.Cache

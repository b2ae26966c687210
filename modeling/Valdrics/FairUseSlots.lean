import Valdrics.MemoryCache
import Valdrics.Runs

/-! In-flight slots of the fair-use guard, counted in the process-local cache. A slot is
taken by counting up, and its lease is the expiry of the counter; every count drops it. -/
namespace Valdrics.Llm

open Cache (Store)

def fairUseInflightKey (tenant : String) : String := "llm:fair_use:inflight:" ++ tenant

structure InflightState where
  cache : Option Store
  localCounts : String → Option Int := fun _ => none

/-- The count in the cache; `none` is a recoverable error of the client. -/
def acquireCached (store : Store) (key : String) (maxInflight ttlSeconds : Int) (now : Nat) :
    Option ((Bool × Int) × Store) := do
  let (current,store) ← store.incr key now
  let (_,store) := store.expire key ttlSeconds now
  if current > maxInflight then
    let (_,store) ← store.decr key now
    return ((false,max (current - 1) 0),store)
  else return ((true,current),store)

def acquireLocal (counts : String → Option Int) (key : String) (maxInflight : Int) :
    (Bool × Int) × (String → Option Int) :=
  let current := (counts key).getD 0 + 1
  if current > maxInflight then
    let nextValue := current - 1
    ((false,max nextValue 0),
      Function.update counts key (if nextValue ≤ 0 then none else some nextValue))
  else ((true,current),Function.update counts key (some current))

def acquireFairUseInflightSlot (state : InflightState) (tenant : String)
    (maxInflight ttlSeconds : Int) (now : Nat) : (Bool × Int) × InflightState :=
  let key := fairUseInflightKey tenant
  match state.cache.bind fun store => acquireCached store key maxInflight ttlSeconds now with
  | some (answer,store) => (answer,{ state with cache := some store })
  | none =>
    let (answer,counts) := acquireLocal state.localCounts key maxInflight
    (answer,{ state with localCounts := counts })

def releaseCached (store : Store) (key : String) (now : Nat) : Option Store := do
  let (current,store) ← store.decr key now
  return if current < 0 then (store.set key (.text "0") (some 60) false now).2 else store

def releaseLocal (counts : String → Option Int) (key : String) : String → Option Int :=
  let current := (counts key).getD 0
  Function.update counts key (if current ≤ 1 then none else some (current - 1))

def releaseFairUseInflightSlot (state : InflightState) (tenant : String) (guardsEnabled : Bool)
    (now : Nat) : InflightState :=
  let key := fairUseInflightKey tenant
  if guardsEnabled then
    match state.cache.bind fun store => releaseCached store key now with
    | some store => { state with cache := some store }
    | none => { state with localCounts := releaseLocal state.localCounts key }
  else { state with localCounts := Function.update state.localCounts key none }

section Specification

variable {store : Store} {key tenant : String} {now : Nat} {maxInflight ttlSeconds c : Int}

theorem acquireCached_free (counts : store.count key now = some c) (room : c < maxInflight) :
    acquireCached store key maxInflight ttlSeconds now =
      some ((true,c + 1),Function.update store key
        (some ⟨.number (c + 1),some (Cache.secondsAfter now ttlSeconds)⟩)) := by
  have fits : ¬c + 1 > maxInflight := by omega
  have found : Store.read (Function.update store key (some ⟨.number (c + 1),none⟩)) key now =
      some ⟨.number (c + 1),none⟩ := by simp [Cache.Record.expired]
  simp [acquireCached,Store.incr,Store.add_eq counts,Store.expire_eq found,fits]

/-- A denied attempt leaves the count as it found it, without an expiry. -/
theorem acquireCached_full (counts : store.count key now = some c) (full : maxInflight ≤ c)
    (leased : 0 < ttlSeconds) :
    acquireCached store key maxInflight ttlSeconds now =
      some ((false,max c 0),Function.update store key (some ⟨.number c,none⟩)) := by
  have beyond : c + 1 > maxInflight := by omega
  have found : Store.read (Function.update store key (some ⟨.number (c + 1),none⟩)) key now =
      some ⟨.number (c + 1),none⟩ := by simp [Cache.Record.expired]
  have again : Store.count (Function.update store key (some ⟨.number (c + 1),
      some (Cache.secondsAfter now ttlSeconds)⟩)) key now = some (c + 1) := by
    simp [Store.count,Cache.Record.expired_later leased,Cache.CacheValue.toInt]
  simp [acquireCached,Store.incr,Store.decr,Store.add_eq counts,Store.expire_eq found,beyond,
    Store.add_eq again]

theorem releaseCached_eq (counts : store.count key now = some c) :
    releaseCached store key now = some (Function.update store key (some (
      if c ≤ 0 then ⟨.text "0",some (Cache.secondsAfter now 60)⟩
      else ⟨.number (c - 1),none⟩))) := by
  by_cases empty : c ≤ 0
  · have negative : c + -1 < 0 := by omega
    simp [releaseCached,Store.decr,Store.add_eq counts,negative,empty,Store.set_plain]
  · have positive : ¬c + -1 < 0 := by omega
    simp [releaseCached,Store.decr,Store.add_eq counts,positive,empty,Int.sub_eq_add_neg]

end Specification

/-- The limits that `enforce_fair_use_guards` hands on: it takes no slot unless the cap is
positive, and no lease is shorter than 30 seconds. -/
structure SlotConfig where
  tenant : String
  maxInflight : Nat
  ttlSeconds : Nat
  room : 0 < maxInflight
  lease : 30 ≤ ttlSeconds

structure SlotState where
  inflight : InflightState
  live : Nat
  now : Nat
  lastAcquired : Option Nat

inductive SlotEvent where
  | acquire
  /-- A live holder gives its slot back. -/
  | release
  /-- A live holder is gone without a release. -/
  | crash
  /-- A release call of no live holder. -/
  | strayRelease
  | wait (microseconds : Nat)

def SlotState.start (now : Nat) : SlotState := ⟨⟨some Store.empty,fun _ => none⟩,0,now,none⟩

namespace SlotConfig

variable (config : SlotConfig)

def key : String := fairUseInflightKey config.tenant

def lasts : Nat := Cache.micros config.ttlSeconds

theorem lasts_pos : 0 < config.lasts := by
  have lease := config.lease
  exact Cache.micros_pos (by omega)

def attempt (s : SlotState) (now : Nat) : (Bool × Int) × InflightState :=
  acquireFairUseInflightSlot s.inflight config.tenant config.maxInflight config.ttlSeconds now

def giveBack (s : SlotState) : InflightState :=
  releaseFairUseInflightSlot s.inflight config.tenant true s.now

def exec (s : SlotState) : SlotEvent → SlotState × Option (Bool × Int)
  | .acquire =>
    let (answer,inflight) := config.attempt s s.now
    (if answer.1 then ⟨inflight,s.live + 1,s.now,some s.now⟩ else { s with inflight },some answer)
  | .release =>
    (if s.live = 0 then s else { s with inflight := config.giveBack s, live := s.live - 1 },none)
  | .crash => ({ s with live := s.live - 1 },none)
  | .strayRelease => ({ s with inflight := config.giveBack s },none)
  | .wait microseconds => ({ s with now := s.now + microseconds },none)

def counter (s : SlotState) : Int :=
  (s.inflight.cache.bind fun store => store.count config.key s.now).getD 0

def expiry (s : SlotState) : Option Nat :=
  (s.inflight.cache.bind fun store => store.read config.key s.now).bind (·.expiresAt)

def Idle (s : SlotState) (now : Nat) : Prop :=
  ∀ acquired, s.lastAcquired = some acquired → acquired + config.lasts ≤ now

end SlotConfig

/-- What slots are for: no more than the cap are held, the counter counts every live holder,
and without holders an attempt after an idle lease succeeds. -/
structure SlotLaw (config : SlotConfig) (s : SlotState) : Prop where
  bounded : s.live ≤ config.maxInflight
  covered : (s.live : Int) ≤ config.counter s
  recovered : s.live = 0 → ∀ later, s.now ≤ later → config.Idle s later →
    (config.attempt s later).1.1 = true

def SlotGuard (config : SlotConfig) (s : SlotState) : SlotEvent → Prop
  | .acquire => config.maxInflight ≤ config.counter s → 0 < s.live
  | .release => True
  | .crash => s.live = 1 → config.maxInflight ≤ config.counter s → config.expiry s ≠ none
  | .strayRelease => 0 < s.live → (s.live : Int) < config.counter s
  | .wait microseconds =>
    0 < s.live → ∀ expiresAt, config.expiry s = some expiresAt → s.now + microseconds < expiresAt

structure Leased (config : SlotConfig) (s : SlotState) (record : Cache.Record) (c : Int) :
    Prop where
  counts : record.value.toInt = some c
  nonneg : 0 ≤ c
  bounded : c ≤ config.maxInflight
  held : c = config.maxInflight → record.expiresAt = none → 0 < s.live
  ends : c = config.maxInflight → ∀ expiresAt, record.expiresAt = some expiresAt →
    ∃ acquired, s.lastAcquired = some acquired ∧ expiresAt ≤ acquired + config.lasts

structure SlotInvariant (config : SlotConfig) (s : SlotState) (store : Store) : Prop where
  cached : s.inflight.cache = some store
  leased : ∀ record, store config.key = some record → ∃ c, Leased config s record c
  covered : (s.live : Int) ≤ config.counter s

namespace SlotInvariant

variable {config : SlotConfig} {s : SlotState} {store : Store}

theorem count_at (valid : SlotInvariant config s store) (now : Nat) :
    ∃ c, store.count config.key now = some c ∧ 0 ≤ c ∧ c ≤ config.maxInflight ∧
      (c = config.maxInflight → ∃ record, store config.key = some record ∧
        record.expired now = false ∧ Leased config s record c) := by
  have room := config.room
  cases stored : store config.key with
  | none =>
    refine ⟨0,?_,Int.le_refl 0,by omega,by omega⟩
    simp [Store.count,Store.read_none stored]
  | some record =>
    obtain ⟨c,leased⟩ := valid.leased record stored
    cases expired : record.expired now with
    | true =>
      refine ⟨0,?_,Int.le_refl 0,by omega,by omega⟩
      simp [Store.count,Store.read_at stored,expired]
    | false =>
      refine ⟨c,?_,leased.nonneg,leased.bounded,fun _ => ⟨record,rfl,expired,leased⟩⟩
      simp [Store.count,Store.read_at stored,expired,leased.counts]

theorem counter_eq (valid : SlotInvariant config s store) {c : Int}
    (counts : store.count config.key s.now = some c) : config.counter s = c := by
  simp [SlotConfig.counter,valid.cached,counts]

theorem attempt_free (cached : s.inflight.cache = some store) {now : Nat} {c : Int}
    (counts : store.count config.key now = some c) (room : c < config.maxInflight) :
    config.attempt s now = ((true,c + 1),⟨some (Function.update store config.key
      (some ⟨.number (c + 1),some (now + config.lasts)⟩)),s.inflight.localCounts⟩) := by
  have taken := @acquireCached_free _ _ _ _ config.ttlSeconds _ counts room
  simp only [SlotConfig.key] at taken
  simp [SlotConfig.attempt,acquireFairUseInflightSlot,cached,taken,SlotConfig.key,
    SlotConfig.lasts,Cache.secondsAfter]

theorem attempt_full (cached : s.inflight.cache = some store) {now : Nat} {c : Int}
    (counts : store.count config.key now = some c) (full : config.maxInflight ≤ c) :
    config.attempt s now = ((false,max c 0),⟨some (Function.update store config.key
      (some ⟨.number c,none⟩)),s.inflight.localCounts⟩) := by
  have leased : (0 : Int) < config.ttlSeconds := by have := config.lease; omega
  have denied := acquireCached_full counts full leased
  simp only [SlotConfig.key] at denied
  simp [SlotConfig.attempt,acquireFairUseInflightSlot,cached,denied,SlotConfig.key]

theorem exec_free (cached : s.inflight.cache = some store) {c : Int}
    (counts : store.count config.key s.now = some c) (room : c < config.maxInflight) :
    (config.exec s .acquire).1 = ⟨⟨some (Function.update store config.key
      (some ⟨.number (c + 1),some (s.now + config.lasts)⟩)),s.inflight.localCounts⟩,
      s.live + 1,s.now,some s.now⟩ := by
  simp [SlotConfig.exec,attempt_free cached counts room]

theorem exec_full (cached : s.inflight.cache = some store) {c : Int}
    (counts : store.count config.key s.now = some c) (full : config.maxInflight ≤ c) :
    (config.exec s .acquire).1 = { s with inflight := ⟨some (Function.update store config.key
      (some ⟨.number c,none⟩)),s.inflight.localCounts⟩ } := by
  simp [SlotConfig.exec,attempt_full cached counts full]

theorem giveBack_eq (cached : s.inflight.cache = some store) {c : Int}
    (counts : store.count config.key s.now = some c) :
    config.giveBack s = ⟨some (Function.update store config.key (some (
      if c ≤ 0 then ⟨.text "0",some (Cache.secondsAfter s.now 60)⟩
      else ⟨.number (c - 1),none⟩))),s.inflight.localCounts⟩ := by
  have released := releaseCached_eq counts
  simp only [SlotConfig.key] at released
  simp [SlotConfig.giveBack,releaseFairUseInflightSlot,cached,released,SlotConfig.key]

theorem law (valid : SlotInvariant config s store) : SlotLaw config s := by
  refine ⟨?_,valid.covered,?_⟩
  · obtain ⟨c,counts,_,bounded,_⟩ := valid.count_at s.now
    have covered := valid.covered
    rw [valid.counter_eq counts] at covered
    omega
  · intro nobody later _ idle
    obtain ⟨c,counts,_,bounded,full⟩ := valid.count_at later
    have room : c < config.maxInflight := by
      -- A full counter would have outlived the lease of the last slot acquired.
      by_contra no
      obtain ⟨record,_,alive,leased⟩ := full (by omega)
      cases expiry : record.expiresAt with
      | none =>
        have := leased.held (by omega) expiry
        omega
      | some expiresAt =>
        obtain ⟨acquired,last,ends⟩ := leased.ends (by omega) expiresAt expiry
        have := idle acquired last
        simp [Cache.Record.expired,expiry] at alive
        omega
    rw [attempt_free valid.cached counts room]

theorem alive (valid : SlotInvariant config s store) (holder : 0 < s.live) :
    ∃ record, store config.key = some record ∧ record.expired s.now = false := by
  have covered := valid.covered
  by_contra none
  have counts : store.count config.key s.now = some 0 := by
    cases found : store config.key with
    | none => simp [Store.count,Store.read_none found]
    | some record =>
      have expired : record.expired s.now = true := by
        by_contra fresh
        exact none ⟨record,found,by simpa using fresh⟩
      simp [Store.count,Store.read_at found,expired]
  rw [valid.counter_eq counts] at covered
  omega

/-- A full counter without an expiry and without holders never lets anyone in. -/
theorem stuck {record : Cache.Record} (cached : s.inflight.cache = some store)
    (found : store config.key = some record) (lasting : record.expiresAt = none)
    (full : record.value.toInt = some ↑config.maxInflight) (nobody : s.live = 0) :
    ¬SlotLaw config s := by
  intro law
  obtain ⟨later,after,idle⟩ : ∃ later, s.now ≤ later ∧ config.Idle s later := by
    refine ⟨max s.now (s.lastAcquired.elim 0 (· + config.lasts)),Nat.le_max_left ..,?_⟩
    intro acquired last
    rw [last]
    exact Nat.le_max_right ..
  have counts : store.count config.key later = some ↑config.maxInflight := by
    simp [Store.count,Store.read_at found,Cache.Record.expired,lasting,full]
  have denied := law.recovered nobody later after idle
  rw [attempt_full cached counts le_rfl] at denied
  contradiction

theorem start (config : SlotConfig) (now : Nat) :
    SlotInvariant config (.start now) Store.empty := by
  refine ⟨rfl,fun _ stored => by simp [Store.empty] at stored,?_⟩
  simp [SlotConfig.counter,SlotState.start,Store.count]

/-- A step that stores a counter no smaller than the live holders it leaves. -/
theorem stored (store : Store) {t : SlotState} {record : Cache.Record} {c : Int}
    (cached : t.inflight.cache = some (Function.update store config.key (some record)))
    (leased : Leased config t record c) (alive : record.expired t.now = false)
    (covered : (t.live : Int) ≤ c) :
    SlotInvariant config t (Function.update store config.key (some record)) := by
  refine ⟨cached,fun other found => ?_,?_⟩
  · rw [Function.update_self] at found
    obtain rfl := Option.some.inj found
    exact ⟨c,leased⟩
  · simpa [SlotConfig.counter,cached,Store.count,alive,leased.counts] using covered

theorem acquire (valid : SlotInvariant config s store)
    (guarded : SlotGuard config s .acquire) :
    ∃ store, SlotInvariant config (config.exec s .acquire).1 store := by
  obtain ⟨c,counts,nonneg,bounded,_⟩ := valid.count_at s.now
  have covered := valid.covered
  simp only [SlotGuard] at guarded
  rw [valid.counter_eq counts] at covered guarded
  by_cases room : c < config.maxInflight
  · have alive : ¬s.now + config.lasts ≤ s.now :=
      Nat.not_le.mpr (Nat.lt_add_of_pos_right config.lasts_pos)
    rw [exec_free valid.cached counts room]
    refine ⟨_,stored store (c := c + 1) rfl ⟨rfl,by omega,by omega,by simp,?_⟩ ?_ ?_⟩
    · intro _ expiresAt ends
      exact ⟨s.now,rfl,(Option.some.inj ends).ge⟩
    · simpa [Cache.Record.expired] using alive
    · push_cast
      omega
  · rw [exec_full valid.cached counts (by omega)]
    refine ⟨_,stored store (c := c) rfl ⟨rfl,nonneg,bounded,fun _ _ => ?_,by simp⟩ ?_ covered⟩
    · exact guarded (by omega)
    · simp [Cache.Record.expired]

/-- Giving a slot back leaves the counter below its cap, and above the holders that are left. -/
theorem givenBack (valid : SlotInvariant config s store) (live : Nat)
    (fits : ∀ c, store.count config.key s.now = some c → (live : Int) ≤ max 0 (c - 1)) :
    ∃ store, SlotInvariant config { s with inflight := config.giveBack s, live } store := by
  have room := config.room
  obtain ⟨c,counts,nonneg,bounded,_⟩ := valid.count_at s.now
  have covered := fits c counts
  have given := giveBack_eq valid.cached counts
  by_cases empty : c ≤ 0
  · simp only [empty,if_true] at given
    refine ⟨_,stored store (c := 0) (congrArg InflightState.cache given) ⟨rfl,?_,?_,?_,?_⟩ ?_ ?_⟩
    all_goals try omega
    · exact Cache.Record.expired_later (by decide)
    · show (live : Int) ≤ 0
      omega
  · simp only [empty,if_false] at given
    refine ⟨_,stored store (c := c - 1) (congrArg InflightState.cache given) ⟨rfl,?_,?_,?_,?_⟩ ?_ ?_⟩
    all_goals try omega
    · simp [Cache.Record.expired]
    · show (live : Int) ≤ c - 1
      omega

theorem untouched (valid : SlotInvariant config s store) {t : SlotState}
    (inflight : t.inflight = s.inflight) (last : t.lastAcquired = s.lastAcquired)
    (held : ∀ record, store config.key = some record → record.expiresAt = none → 0 < s.live →
      record.value.toInt = some ↑config.maxInflight → 0 < t.live)
    (covered : (t.live : Int) ≤ config.counter t) : SlotInvariant config t store := by
  refine ⟨inflight ▸ valid.cached,fun record found => ?_,covered⟩
  obtain ⟨c,leased⟩ := valid.leased record found
  refine ⟨c,leased.counts,leased.nonneg,leased.bounded,fun full lasting => ?_,?_⟩
  · exact held record found lasting (leased.held full lasting) (full ▸ leased.counts)
  · rw [last]
    exact leased.ends

theorem crash (valid : SlotInvariant config s store) (guarded : SlotGuard config s .crash) :
    SlotInvariant config (config.exec s .crash).1 store := by
  have covered := valid.covered
  refine valid.untouched (t := (config.exec s .crash).1) rfl rfl ?_ ?_
  · intro record found lasting alive counts
    by_contra gone
    have single : s.live = 1 := by simp [SlotConfig.exec] at gone; omega
    have fresh : record.expired s.now = false := by simp [Cache.Record.expired,lasting]
    have read : store.read config.key s.now = some record := by
      simp [Store.read_at found,fresh]
    have full : config.counter s = config.maxInflight :=
      valid.counter_eq (by simp [Store.count,read,counts])
    apply guarded single full.ge
    simp [SlotConfig.expiry,valid.cached,read,lasting]
  · have same : config.counter (config.exec s .crash).1 = config.counter s := rfl
    rw [same]
    simp only [SlotConfig.exec]
    omega

theorem wait (valid : SlotInvariant config s store) {microseconds : Nat}
    (guarded : SlotGuard config s (.wait microseconds)) :
    SlotInvariant config (config.exec s (.wait microseconds)).1 store := by
  refine valid.untouched (t := (config.exec s (.wait microseconds)).1) rfl rfl
    (fun _ _ _ alive _ => alive) ?_
  obtain ⟨c,counts,nonneg,_,_⟩ := valid.count_at (s.now + microseconds)
  have later : config.counter (config.exec s (.wait microseconds)).1 = c := by
    simp [SlotConfig.counter,SlotConfig.exec,valid.cached,counts]
  rw [later]
  show (s.live : Int) ≤ c
  by_cases alive : 0 < s.live
  · obtain ⟨record,found,lives⟩ := valid.alive alive
    have expiry : config.expiry s = record.expiresAt := by
      simp [SlotConfig.expiry,valid.cached,Store.read_at found,lives]
    have lasts : record.expired (s.now + microseconds) = false := by
      cases ends : record.expiresAt with
      | none => simp [Cache.Record.expired,ends]
      | some expiresAt =>
        have := guarded alive expiresAt (expiry.trans ends)
        simp only [Cache.Record.expired,ends,Option.any_some,decide_eq_false_iff_not]
        omega
    have same : store.count config.key s.now = some c := by
      rw [← counts]
      simp [Store.count,Store.read_at found,lives,lasts]
    have covered := valid.covered
    rwa [valid.counter_eq same] at covered
  · omega

theorem breaks (valid : SlotInvariant config s store) (event : SlotEvent)
    (unguarded : ¬SlotGuard config s event) : ¬SlotLaw config (config.exec s event).1 := by
  have room := config.room
  obtain ⟨c,counts,nonneg,bounded,full⟩ := valid.count_at s.now
  have covered := valid.covered
  have counter := valid.counter_eq counts
  intro law
  cases event with
  | acquire =>
    simp only [SlotGuard,counter,Classical.not_imp] at unguarded
    rw [exec_full valid.cached counts unguarded.1] at law
    refine stuck rfl (Function.update_self ..) rfl ?_ (by dsimp only; omega) law
    simp only [Cache.CacheValue.toInt,Option.some.injEq]
    omega
  | release => exact unguarded trivial
  | crash =>
    simp only [SlotGuard,counter,Classical.not_imp,ne_eq,not_not] at unguarded
    obtain ⟨single,beyond,lasting⟩ := unguarded
    obtain ⟨record,found,fresh,leased⟩ := full (by omega)
    have read : store.read config.key s.now = some record := by
      simp [Store.read_at found,fresh]
    refine stuck (s := (config.exec s .crash).1) valid.cached found ?_ ?_ ?_ law
    · simpa [SlotConfig.expiry,valid.cached,read] using lasting
    · rw [leased.counts]
      congr 1
      omega
    · simp [SlotConfig.exec,single]
  | strayRelease =>
    simp only [SlotGuard,counter,Classical.not_imp] at unguarded
    have given := giveBack_eq valid.cached counts
    have positive : ¬c ≤ 0 := by omega
    simp only [positive,if_false] at given
    have broken := law.covered
    simp only [SlotConfig.exec,SlotConfig.counter,given] at broken
    simp [Store.count,Cache.Record.expired,Cache.CacheValue.toInt] at broken
    omega
  | wait microseconds =>
    simp only [SlotGuard,Classical.not_imp,not_forall] at unguarded
    obtain ⟨holder,expiresAt,ends,late⟩ := unguarded
    obtain ⟨record,found,fresh⟩ := valid.alive holder
    have expiry : record.expiresAt = some expiresAt := by
      simpa [SlotConfig.expiry,valid.cached,Store.read_at found,fresh] using ends
    have expired : record.expired (s.now + microseconds) = true := by
      simp only [Cache.Record.expired,expiry,Option.any_some,decide_eq_true_eq]
      omega
    have broken := law.covered
    simp only [SlotConfig.exec,SlotConfig.counter,valid.cached] at broken
    simp [Store.count,Store.read_at found,expired] at broken
    omega

theorem keeps (valid : SlotInvariant config s store) (event : SlotEvent)
    (guarded : SlotGuard config s event) :
    ∃ store, SlotInvariant config (config.exec s event).1 store := by
  have covered := valid.covered
  have counter (c : Int) (counts : store.count config.key s.now = some c) :=
    valid.counter_eq counts
  cases event with
  | acquire => exact valid.acquire guarded
  | release =>
    by_cases nobody : s.live = 0
    · exact ⟨store,by simpa [SlotConfig.exec,nobody] using valid⟩
    · obtain ⟨store',kept⟩ := valid.givenBack (s.live - 1) fun c counts => by
        have := counter c counts
        omega
      exact ⟨store',by simpa [SlotConfig.exec,nobody] using kept⟩
  | crash => exact ⟨store,valid.crash guarded⟩
  | strayRelease =>
    apply valid.givenBack s.live
    intro c counts
    have := counter c counts
    simp only [SlotGuard] at guarded
    omega
  | wait microseconds => exact ⟨store,valid.wait guarded⟩

end SlotInvariant

/-- In every state of a run the slots obey their law exactly if every step keeps the counter
from leaking. -/
theorem slotLaw_always_iff (config : SlotConfig) (now : Nat) (events : List SlotEvent) :
    Always config.exec (SlotLaw config) (.start now) events ↔
      EachStep config.exec (SlotGuard config) (.start now) events := by
  apply always_iff_eachStep config.exec (SlotGuard config) (SlotLaw config)
    (fun s => ∃ store, SlotInvariant config s store)
  · exact fun _ ⟨_,valid⟩ => valid.law
  · exact fun _ event ⟨_,valid⟩ guarded => valid.keeps event guarded
  · exact fun _ event ⟨_,valid⟩ unguarded => valid.breaks event unguarded
  · exact ⟨_,.start config now⟩

/-- One slot, its holder gone, and one denied attempt: the counter stays full for good. -/
theorem denied_attempt_keeps_leak :
    ¬∀ (config : SlotConfig) (now : Nat) (events : List SlotEvent),
      Always config.exec (SlotLaw config) (.start now) events := by
  intro all
  let config : SlotConfig := ⟨"t",1,30,by decide,by decide⟩
  have guarded := (slotLaw_always_iff config 0 [.acquire,.crash,.acquire]).mp (all config 0 _)
  have held := guarded.2.2.1
  have full : (config.maxInflight : Int) ≤ config.counter
      (config.exec (config.exec (.start 0) .acquire).1 .crash).1 := by decide
  exact absurd (held full) (by decide)

end Valdrics.Llm

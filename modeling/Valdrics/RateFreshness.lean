import Valdrics.ExchangeRates

/-! How old the rate of a strict read can be. The copies between the caches date a rate anew;
they are honest as long as no copied rate looks younger than it is. -/
namespace Valdrics.Currency

abbrev Served := List (Quote × Int)

def noteStrict (served : Served) (_ : RateState) (event : Event)
    (result : RateState × Option RateAnswer) : Served :=
  match event, result.2 with
  | .getRate _ true _, some (.served quote) => served ++ [(quote,result.1.now)]
  | _, _ => served

/-- No cached rate looks younger than it is: the shared cache dates a rate no later than its
observation, and the memory of a process, which serves for its own short time, holds a rate
that was within the configured age when it was put there. -/
structure Honest (settings : Settings) (s : RateState) : Prop where
  shared : ∀ held, s.shared = some held → held.updatedAt ≤ held.quote.observedAt
  memory : ∀ process held, s.memory process = some held →
    held.updatedAt ≤ held.quote.observedAt + settings.maxAge

structure OfficialAndFresh (settings : Settings) (s : RateState × Served) : Prop where
  official : ∀ entry ∈ s.2, entry.1.provider = cbnNfem
  fresh : ∀ entry ∈ s.2, entry.2 ≤ entry.1.observedAt + settings.maxAge + l1Ttl
  honest : Honest settings s.1

def RateAnswers.fails (answers : RateAnswers) : Prop :=
  answers.live = none ∨ answers.upsert = .failed

/-- No copy re-dates a rate: a read that neither cache serves finds in the database a rate of
this very moment before it copies it into the shared cache, and a read that is not strict does
not fall back on a stale one. -/
structure CopiesHonestly (settings : Settings) (s : RateState) (event : Event) : Prop where
  row : ∀ process strict answers quote, event = .getRate process strict answers →
    s.readMemory process strict = none → s.readShared settings strict answers = none →
    s.readRow settings strict answers = some quote → answers.cacheWrites = true →
    quote.observedAt = s.now
  stale : ∀ process answers quote, event = .getRate process false answers →
    s.readMemory process false = none → s.readShared settings false answers = none →
    s.readRow settings false answers = none → answers.fails →
    s.readDbRate answers = some quote → RateState.isFresh s.now settings quote = true

variable {settings : Settings} {s : RateState} {process : Nat} {strict : Bool}
  {answers : RateAnswers} {quote : Quote}

namespace RateState

@[simp] theorem writeMemory_now : (s.writeMemory process quote).now = s.now := rfl
@[simp] theorem writeMemory_shared : (s.writeMemory process quote).shared = s.shared := rfl
@[simp] theorem writeMemory_row : (s.writeMemory process quote).row = s.row := rfl

@[simp] theorem writeShared_now : (s.writeShared settings answers quote).now = s.now := by
  simp only [writeShared]
  split <;> rfl

@[simp] theorem writeShared_memory : (s.writeShared settings answers quote).memory = s.memory := by
  simp only [writeShared]
  split <;> rfl

@[simp] theorem writeShared_row : (s.writeShared settings answers quote).row = s.row := by
  simp only [writeShared]
  split <;> rfl

@[simp] theorem writeRow_now : (s.writeRow settings quote).now = s.now := rfl
@[simp] theorem writeRow_memory : (s.writeRow settings quote).memory = s.memory := rfl
@[simp] theorem writeRow_shared : (s.writeRow settings quote).shared = s.shared := rfl

theorem readMemory_some (reads : s.readMemory process strict = some quote) :
    ∃ held, s.memory process = some held ∧ held.quote = quote ∧ s.now - held.updatedAt ≤ l1Ttl ∧
      admits strict quote = true := by
  obtain ⟨held,found,rfl⟩ := Option.map_eq_some_iff.mp reads
  obtain ⟨stored,passes⟩ := Option.filter_eq_some_iff.mp found
  simp only [Bool.and_eq_true,decide_eq_true_eq] at passes
  exact ⟨held,stored,rfl,passes.1.2,passes.2⟩

theorem readShared_some (reads : s.readShared settings strict answers = some quote) :
    ∃ held, s.shared = some held ∧ held.quote = quote ∧ s.now - held.updatedAt ≤ settings.maxAge ∧
      admits strict quote = true := by
  obtain ⟨held,found,rfl⟩ := Option.map_eq_some_iff.mp reads
  obtain ⟨stored,passes⟩ := Option.filter_eq_some_iff.mp found
  simp only [Bool.and_eq_true,decide_eq_true_eq] at passes
  split at stored
  · exact ⟨held,stored,rfl,passes.1.2,passes.2⟩
  · contradiction

theorem readRow_some (reads : s.readRow settings strict answers = some quote) :
    s.row = some quote ∧ s.now - settings.maxAge ≤ quote.observedAt ∧
      admits strict quote = true := by
  obtain ⟨stored,passes⟩ := Option.filter_eq_some_iff.mp reads
  simp only [isFresh,Bool.and_eq_true,decide_eq_true_eq] at passes
  simp only [readDbRate] at stored
  split at stored
  · exact ⟨stored,passes.1.2,passes.2⟩
  · contradiction

theorem admits_strict (admitted : admits true quote = true) : quote.provider = cbnNfem := by
  simpa [admits] using admitted

end RateState

open RateState

theorem Honest.writeMemory (honest : Honest settings s)
    (within : s.now ≤ quote.observedAt + settings.maxAge) :
    Honest settings (s.writeMemory process quote) := by
  refine ⟨honest.shared,?_⟩
  intro other held found
  by_cases same : other = process
  · subst same
    simp only [RateState.writeMemory,Function.update_self] at found
    cases found
    exact within
  · simp only [RateState.writeMemory,Function.update_of_ne same] at found
    exact honest.memory other held found

theorem Honest.writeShared (honest : Honest settings s)
    (current : answers.cacheWrites = true → s.now ≤ quote.observedAt) :
    Honest settings (s.writeShared settings answers quote) := by
  refine ⟨?_,?_⟩
  · intro held found
    simp only [RateState.writeShared] at found
    split at found
    next writes =>
      cases found
      exact current writes
    · exact honest.shared held found
  · intro other held found
    rw [writeShared_memory] at found
    exact honest.memory other held found

theorem Honest.writeRow (honest : Honest settings s) : Honest settings (s.writeRow settings quote) :=
  ⟨honest.shared,honest.memory⟩

/-- The invariant of a run: no copy looks younger than it is, the row is not dated ahead, and no
age is negative. -/
structure RateInvariant (settings : Settings) (s : RateState × Served) : Prop where
  law : OfficialAndFresh settings s
  dated : ∀ quote, s.1.row = some quote → quote.observedAt ≤ s.1.now

theorem Settings.maxAge_nonneg (settings : Settings) : 0 ≤ settings.maxAge := by
  simp only [Settings.maxAge]
  omega

theorem l1Ttl_nonneg : 0 ≤ l1Ttl := by decide

structure ReadSpec (settings : Settings) (s : RateState) (strict : Bool)
    (read : RateAnswer × RateState) : Prop where
  honest : Honest settings read.2
  now : read.2.now = s.now
  dated : ∀ quote, read.2.row = some quote → quote.observedAt ≤ s.now
  served : strict = true → ∀ quote, read.1 = .served quote → quote.provider = cbnNfem ∧
    s.now ≤ quote.observedAt + settings.maxAge + l1Ttl

section Reads

variable (honest : Honest settings s) (dated : ∀ quote, s.row = some quote → quote.observedAt ≤ s.now)

include honest dated

theorem degrade_spec {dbRate : Option Quote}
    (fresh : strict = false → ∀ quote, dbRate = some quote →
      RateState.isFresh s.now settings quote = true) :
    ReadSpec settings s strict (s.degrade process strict dbRate) := by
  cases strict with
  | true =>
    cases dbRate <;> exact ⟨honest,rfl,dated,fun _ quote served => by simp [degrade] at served⟩
  | false =>
    cases dbRate with
    | none => exact ⟨honest,rfl,dated,by simp⟩
    | some quote =>
      have young := fresh rfl quote rfl
      simp only [isFresh,decide_eq_true_eq] at young
      exact ⟨honest.writeMemory (by omega),rfl,dated,by simp⟩

theorem fetchLive_spec (stale : strict = false → answers.fails → ∀ quote,
      s.readDbRate answers = some quote → RateState.isFresh s.now settings quote = true) :
    ReadSpec settings s strict (s.fetchLive settings process strict answers) := by
  have age := settings.maxAge_nonneg
  have short := l1Ttl_nonneg
  cases live : answers.live with
  | none =>
    simp only [fetchLive,live]
    exact degrade_spec honest dated fun loose quote found => stale loose (.inl live) quote found
  | some rate =>
    have cached : Honest settings ((s.writeMemory process ⟨rate,cbnNfem,s.now⟩).writeShared settings
        answers ⟨rate,cbnNfem,s.now⟩) :=
      (honest.writeMemory (by simpa using age)).writeShared fun _ => le_rfl
    have served : ∀ quote, RateAnswer.served ⟨rate,cbnNfem,s.now⟩ = .served quote →
        quote.provider = cbnNfem ∧ s.now ≤ quote.observedAt + settings.maxAge + l1Ttl := by
      rintro _ ⟨⟩
      exact ⟨rfl,by dsimp only; omega⟩
    cases upsert : answers.upsert with
    | saved =>
      simp only [fetchLive,live,upsert]
      refine ⟨cached.writeRow,by simp,?_,fun _ => served⟩
      rintro _ ⟨⟩
      exact le_rfl
    | lost =>
      simp only [fetchLive,live,upsert]
      exact ⟨cached,by simp,by simpa using dated,fun _ => served⟩
    | raised =>
      simp only [fetchLive,live,upsert]
      exact ⟨cached,by simp,by simpa using dated,by simp⟩
    | failed =>
      simp only [fetchLive,live,upsert]
      have spec : ReadSpec settings _ strict (degrade _ process strict (s.readDbRate answers)) :=
        degrade_spec cached (by simpa using dated) fun loose quote found => by
          simpa using stale loose (.inr upsert) quote found
      exact ⟨spec.honest,by simpa using spec.now,by simpa using spec.dated,
        fun isStrict quote got => by simpa using spec.served isStrict quote got⟩

theorem getRate_spec (copies : CopiesHonestly settings s (.getRate process strict answers)) :
    ReadSpec settings s strict (s.getRate settings process strict answers) := by
  have short := l1Ttl_nonneg
  cases memory : s.readMemory process strict with
  | some quote =>
    obtain ⟨held,found,rfl,recent,admitted⟩ := readMemory_some memory
    have put := honest.memory process held found
    simp only [getRate,memory]
    refine ⟨honest,rfl,dated,?_⟩
    rintro rfl _ ⟨⟩
    exact ⟨admits_strict admitted,by omega⟩
  | none =>
    cases shared : s.readShared settings strict answers with
    | some quote =>
      obtain ⟨held,found,rfl,recent,admitted⟩ := readShared_some shared
      have put := honest.shared held found
      simp only [getRate,memory,shared]
      refine ⟨honest.writeMemory (by omega),rfl,dated,?_⟩
      rintro rfl _ ⟨⟩
      exact ⟨admits_strict admitted,by omega⟩
    | none =>
      cases row : s.readRow settings strict answers with
      | some quote =>
        obtain ⟨found,fresh,admitted⟩ := readRow_some row
        simp only [getRate,memory,shared,row]
        have current : answers.cacheWrites = true → s.now ≤ quote.observedAt := by
          intro writes
          exact (copies.row process strict answers quote rfl memory shared row writes).ge
        refine ⟨(honest.writeMemory (by omega)).writeShared current,by simp,by simpa using dated,?_⟩
        rintro rfl _ ⟨⟩
        exact ⟨admits_strict admitted,by omega⟩
      | none =>
        simp only [getRate,memory,shared,row]
        apply fetchLive_spec honest dated
        rintro rfl fails quote found
        exact copies.stale process answers quote rfl memory shared row fails found

end Reads

theorem exec_honest {event : Event} (copies : CopiesHonestly settings s event)
    (honest : Honest settings s) (dated : ∀ quote, s.row = some quote → quote.observedAt ≤ s.now) :
    Honest settings (exec settings s event).1 ∧
      ∀ quote, (exec settings s event).1.row = some quote →
        quote.observedAt ≤ (exec settings s event).1.now := by
  cases event with
  | getRate process strict answers =>
    have spec := getRate_spec honest dated copies
    exact ⟨spec.honest,fun quote found => spec.now ▸ spec.dated quote found⟩
  | applyExchangeRateUpdate rate provider committed =>
    cases committed with
    | true =>
      refine ⟨honest.writeRow,?_⟩
      rintro _ ⟨⟩
      exact le_rfl
    | false => exact ⟨honest,dated⟩
  | evict => exact ⟨⟨fun held found => (nomatch found),honest.memory⟩,dated⟩
  | restart process =>
    refine ⟨⟨honest.shared,?_⟩,dated⟩
    intro other held found
    by_cases same : other = process
    · subst same
      simp [exec] at found
    · simp only [exec,Function.update_of_ne same] at found
      exact honest.memory other held found
  | advance microseconds =>
    refine ⟨⟨honest.shared,honest.memory⟩,?_⟩
    intro quote found
    have before := dated quote found
    simp only [exec]
    omega

theorem exec_law {served : Served} {event : Event} (copies : CopiesHonestly settings s event)
    (kept : RateInvariant settings (s,served)) :
    RateInvariant settings (withHistory (exec settings) noteStrict (s,served) event).1 := by
  obtain ⟨honest,dated⟩ := exec_honest copies kept.law.honest kept.dated
  have entries : ∀ entry ∈ noteStrict served s event (exec settings s event),
      entry ∈ served ∨ (entry.1.provider = cbnNfem ∧
        entry.2 ≤ entry.1.observedAt + settings.maxAge + l1Ttl) := by
    intro entry listed
    simp only [noteStrict] at listed
    split at listed
    next process answers quote answer =>
      rcases List.mem_append.mp listed with old | new
      · exact .inl old
      · cases List.mem_singleton.mp new
        have spec := getRate_spec kept.law.honest kept.dated copies
        have read : (s.getRate settings process true answers).1 = .served quote := by
          simpa [exec] using answer
        obtain ⟨official,fresh⟩ := spec.served rfl quote read
        refine .inr ⟨official,?_⟩
        simp only [exec,spec.now]
        exact fresh
    · exact .inl listed
  refine ⟨⟨?_,?_,honest⟩,dated⟩
  · intro entry listed
    rcases entries entry listed with old | new
    · exact kept.law.official entry old
    · exact new.1
  · intro entry listed
    rcases entries entry listed with old | new
    · exact kept.law.fresh entry old
    · exact new.2

/-- A copy that re-dates a rate leaves a cache in which it looks younger than it is. -/
theorem exec_redates {event : Event}
    (dated : ∀ quote, s.row = some quote → quote.observedAt ≤ s.now)
    (redates : ¬CopiesHonestly settings s event) : ¬Honest settings (exec settings s event).1 := by
  intro honest
  apply redates
  refine ⟨?_,?_⟩
  · rintro process strict answers quote rfl memory shared row writes
    simp only [exec,getRate,memory,shared,row] at honest
    have copied := honest.shared ⟨{ quote with rate := settings.viaFloat quote.rate },s.now⟩
      (by simp [writeShared,writes])
    exact le_antisymm (dated quote (readRow_some row).1) copied
  · rintro process answers quote rfl memory shared row fails found
    have degraded : ∃ t : RateState, t.now = s.now ∧
        (s.fetchLive settings process false answers).2 = t.writeMemory process quote := by
      cases live : answers.live with
      | none => exact ⟨s,rfl,by simp [fetchLive,live,found,degrade]⟩
      | some rate =>
        have upsert : answers.upsert = .failed := by simpa [RateAnswers.fails,live] using fails
        refine ⟨(s.writeMemory process ⟨rate,cbnNfem,s.now⟩).writeShared settings answers
          ⟨rate,cbnNfem,s.now⟩,by simp,?_⟩
        simp only [fetchLive,live,upsert,found,degrade]
    obtain ⟨t,now,written⟩ := degraded
    simp only [exec,getRate,memory,shared,row] at honest
    rw [written] at honest
    have copied := honest.memory process ⟨quote,t.now⟩ (by simp [writeMemory])
    simp only [isFresh,decide_eq_true_eq]
    simp only [now] at copied
    omega

/-- In a run from empty caches every strict read is official and fresh and no copy looks younger
than it is exactly when no step re-dates a rate. -/
theorem strict_reads_iff (settings : Settings) (now : Int) (events : List Event) :
    Always (withHistory (exec settings) noteStrict) (OfficialAndFresh settings) ({ now },[])
        events ↔
      EachStep (withHistory (exec settings) noteStrict)
        (fun s event => CopiesHonestly settings s.1 event) ({ now },[]) events := by
  refine always_iff_eachStep _ _ _ (RateInvariant settings) (fun s kept => kept.law) ?_ ?_ _ _ ?_
  · rintro ⟨s,served⟩ event kept copies
    exact exec_law copies kept
  · rintro ⟨s,served⟩ event kept redates law
    exact exec_redates kept.dated redates law.honest
  · refine ⟨⟨fun _ listed => (nomatch listed),fun _ listed => (nomatch listed),
      ⟨fun held found => (nomatch found),fun process held found => (nomatch found)⟩⟩,?_⟩
    intro quote found
    contradiction

/-- A fetch that only the database keeps, a read of another process twenty hours later, and one
more twenty hours after that. -/
def copiedRate : List Event :=
  [.getRate 0 true { cacheWrites := false, live := some ⟨1500,0⟩ },
    .advance (20 * 3600 * 1000000),
    .getRate 1 true {},
    .advance (20 * 3600 * 1000000),
    .getRate 0 true {}]

/-- The last read is served a rate of forty hours. -/
theorem copied_rate_outlives :
    ¬Always (withHistory (exec {}) noteStrict) (OfficialAndFresh {}) ({ now := 1 },[])
      copiedRate := by
  intro always
  have last := always.2.2.2.2.2.fresh (⟨⟨1500,0⟩,cbnNfem,1⟩,1 + 2 * (20 * 3600 * 1000000))
  revert last
  decide

end Valdrics.Currency

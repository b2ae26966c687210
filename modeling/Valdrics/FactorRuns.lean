import Mathlib.Tactic.NormNum
import Valdrics.FactorLifecycle

/-! A run of calls on the factor sets keeps their lifecycle exactly when no call seeds the builtin
factors beside a set that has them, and no candidate passes the guardrails by its whole part
alone. -/
namespace Valdrics.Carbon

open Enforcement (Uuid Json bind_eq_ok)

variable {rt : Runtime} {s next : State} {past : Past} {event : Event} {now : Int} {fresh : Uuid}
  {active candidate : CarbonFactorSet}

theorem ensureActive_follows (kept : Kept s) :
    Follows s (exec rt s (.ensureActive now fresh)).1 ∧
      ((exec rt s (.ensureActive now fresh)).2.isOk = true →
        (exec rt s (.ensureActive now fresh)).1.getActive.isSome = true) ∧
      Checksums rt s (.ensureActive now fresh) (exec rt s (.ensureActive now fresh)).1 := by
  simp only [exec]
  split
  next failure fails =>
    obtain ⟨_,taken⟩ := ensureActive_error fails
    exact ⟨Follows.refl kept,fun ok => (nomatch ok),.same (fun _ _ => taken) rfl⟩
  next middle active ensures =>
    obtain ⟨follows,ensured⟩ := ensureActive_ok kept ensures
    exact ⟨follows,fun _ => by rw [ensured.current]; rfl,
      Ensured.checksums (.ensureActive now fresh) ensured rfl rfl⟩

theorem stage_ok {payload : List (String × Json)} {actor : Option Uuid} {message : Option String}
    {row : CarbonFactorSet} (kept : Kept s)
    (ok : stage rt s now fresh payload actor message = .ok (next,row)) :
    Follows s next ∧ Checksums rt s (.stage now fresh payload actor message) next := by
  simp only [stage] at ok
  obtain ⟨day,_,ok⟩ := bind_eq_ok.mp ok
  split at ok
  · cases ok
    exact ⟨Follows.refl kept,.same (fun asks => (nomatch asks)) rfl⟩
  next absent =>
    split at ok
    · cases ok
    next new =>
      have new : s.find fresh = none := by simpa using new
      cases ok
      refine ⟨stage_follows kept new rfl rfl rfl,.staged (rt.checksum payload) rfl ?_ ?_⟩
      · simpa using absent
      · simp [State.log,newSet]

theorem exec_follows (kept : Kept s) (event : Event) :
    Follows s (exec rt s event).1 ∧ Checksums rt s event (exec rt s event).1 ∧
      ((exec rt s event).2.isOk = true → (∀ now fresh payload actor message,
        event ≠ .stage now fresh payload actor message) →
        (exec rt s event).1.getActive.isSome = true) := by
  cases event with
  | ensureActive now fresh =>
    have spec : Follows s (exec rt s (.ensureActive now fresh)).1 ∧ _ := ensureActive_follows kept
    exact ⟨spec.1,spec.2.2,fun ok _ => spec.2.1 ok⟩
  | stage now fresh payload actor message =>
    simp only [exec]
    split
    · exact ⟨Follows.refl kept,.same (fun asks => (nomatch asks)) rfl,fun ok => (nomatch ok)⟩
    next after row stages =>
      obtain ⟨follows,checksums⟩ := stage_ok kept stages
      exact ⟨follows,checksums,fun _ other => absurd rfl (other now fresh payload actor message)⟩
  | activate now fresh id actor =>
    simp only [exec]
    cases found : s.find id with
    | none =>
      have quiet : asksActive s (.activate now fresh id actor) = false := by simp [asksActive,found]
      refine ⟨Follows.refl kept,.same ?_ rfl,fun ok => (nomatch ok)⟩
      intro asks
      rw [quiet] at asks
      cases asks
    | some row =>
      have asks : asksActive s (.activate now fresh id actor) = true := by simp [asksActive,found]
      dsimp only
      split
      next failure fails =>
        have taken : s.getActive = none → s.find fresh ≠ none := by
          intro _
          cases ensures : ensureActive rt s now fresh with
          | error _ => exact (ensureActive_error ensures).2
          | ok result =>
            simp only [activate,ensures,bind,Except.bind] at fails
            split at fails <;> cases fails
        exact ⟨Follows.refl kept,.same (fun _ => taken) rfl,fun ok => (nomatch ok)⟩
      next after activates =>
        obtain ⟨follows,some,middle,active,ensured,rows⟩ :=
          activate_ok kept (find_mem found).1 (.inl rfl) activates
        exact ⟨follows,Ensured.checksums (.activate now fresh id actor) ensured asks rows,
          fun _ _ => some⟩
  | autoActivateLatest now fresh =>
    have spec : Follows s (autoActivateLatest rt s now fresh).1 ∧ _ :=
      autoActivateLatest_follows kept
    exact ⟨spec.1,spec.2.2,fun ok _ => spec.2.1 ok⟩

theorem activate_of_active {row : CarbonFactorSet} {action : Action} {message : Option String}
    {details : List (String × String)} {actor : Option Uuid} (found : s.getActive = some active)
    (failure : Failure) :
    activate rt s now fresh row action message details actor ≠ .error failure := by
  have ensures : ensureActive rt s now fresh = .ok (s,active) := by simp [ensureActive,found]
  simp only [activate,ensures,bind,Except.bind]
  split <;> simp [pure,Except.pure]

theorem autoActivateLatest_activated_iff (kept : Kept s) :
    (∃ id version, (autoActivateLatest rt s now fresh).2 = .ok (.activated id version)) ↔
      ∃ old new, autoMove rt s now fresh = some (old,new) ∧
        new.factorsChecksum ≠ old.factorsChecksum ∧
        guardrailAutoActivation rt old new = .ok none := by
  simp only [autoActivateLatest,autoMove]
  cases ensures : ensureActive rt s now fresh with
  | error failure => simp
  | ok result =>
    obtain ⟨middle,active⟩ := result
    have current := (ensureActive_ok kept ensures).2.current
    dsimp only
    cases found : middle.latestStaged with
    | none => simp
    | some candidate =>
      simp only [Option.map_some,Option.some.injEq,Prod.mk.injEq]
      by_cases same : candidate.factorsChecksum = active.factorsChecksum
      · simp only [if_pos same]
        constructor
        · rintro ⟨_,_,is⟩
          cases is
        · rintro ⟨_,_,⟨rfl,rfl⟩,apart,_⟩
          exact absurd same apart
      · simp only [if_neg same]
        have only : (∃ old new, (active = old ∧ candidate = new) ∧
            new.factorsChecksum ≠ old.factorsChecksum ∧
            guardrailAutoActivation rt old new = .ok none) ↔
            guardrailAutoActivation rt active candidate = .ok none := by
          constructor
          · rintro ⟨_,_,⟨rfl,rfl⟩,_,passes⟩
            exact passes
          · exact fun passes => ⟨active,candidate,⟨rfl,rfl⟩,same,passes⟩
        rw [only]
        cases guard : guardrailAutoActivation rt active candidate with
        | error failure => simp
        | ok reason =>
          cases reason with
          | some reason => simp
          | none =>
            dsimp only
            split
            next failure fails =>
              exact absurd fails (activate_of_active current failure)
            · simp

theorem autoMove_staged {old new : CarbonFactorSet} (kept : Kept s)
    (moves : autoMove rt s now fresh = some (old,new)) : new.status = .staged := by
  simp only [autoMove] at moves
  split at moves
  · cases moves
  · obtain ⟨candidate,found,is⟩ := Option.map_eq_some_iff.mp moves
    cases is
    exact (latestStaged_mem found).2

theorem guardrail_newer {old new : CarbonFactorSet}
    (passes : guardrailAutoActivation rt old new = .ok none) :
    old.factorTimestamp < new.factorTimestamp := by
  by_contra older
  simp only [guardrailAutoActivation,if_pos (not_lt.mp older)] at passes
  cases passes

theorem Kept.isActive_getActive (kept : Kept s) (some : s.getActive.isSome = true) :
    ∃ row ∈ s.sets, row.isActive = true ∧ row.status = .active ∧
      ∀ other ∈ s.sets, other.isActive = true ∨ other.status = .active → other = row := by
  obtain ⟨row,found⟩ := Option.isSome_iff_exists.mp some
  obtain ⟨listed,isActive⟩ := getActive_mem found
  refine ⟨row,listed,isActive,(kept.status row listed).mp isActive,?_⟩
  intro other otherListed also
  have active : other.isActive = true := also.elim id (kept.status other otherListed).mpr
  exact kept.one row listed other otherListed isActive active

structure Standing (s : State × Past) : Prop where
  kept : Kept s.1
  ensured : s.2.ensured = true → s.1.getActive.isSome = true
  law : Lifecycle s

theorem mem_moves {answer : Except Failure Answer} {move : CarbonFactorSet × CarbonFactorSet}
    (noted : move ∈ event.moves rt s answer) : ∃ now fresh id version,
      event = .autoActivateLatest now fresh ∧ answer = .ok (.activated id version) ∧
        autoMove rt s now fresh = some move := by
  cases event with
  | autoActivateLatest now fresh =>
    simp only [Event.moves] at noted
    split at noted
    next id version =>
      exact ⟨now,fresh,id,version,rfl,rfl,by simpa using noted⟩
    · cases noted
  | _ => cases noted

theorem exec_standing {past : Past} (standing : Standing (s,past)) (careful : Careful rt s event) :
    Standing ((exec rt s event).1,notePast rt past s event (exec rt s event)) := by
  obtain ⟨kept,ensured,law⟩ := standing
  have spec : Follows s (exec rt s event).1 ∧ _ := exec_follows kept event
  obtain ⟨follows,checksums,active⟩ := spec
  have stays : (notePast rt past s event (exec rt s event)).ensured = true →
      (exec rt s event).1.getActive.isSome = true := by
    intro noted
    simp only [notePast,Bool.or_eq_true] at noted
    rcases noted with before | now
    · exact follows.active (ensured before)
    · obtain ⟨ensures,ok⟩ := Bool.and_eq_true_iff.mp now
      apply active ok
      rintro _ _ _ _ _ rfl
      cases ensures
  refine ⟨follows.kept,stays,?_,?_,?_,?_,?_⟩
  · exact fun noted => follows.kept.isActive_getActive (stays noted)
  · intro id noted
    rcases List.mem_append.mp noted with before | now
    · exact follows.retired id (law.retired id before)
    · obtain ⟨row,listed,rfl⟩ := List.mem_map.mp now
      obtain ⟨stored,isActive⟩ := List.mem_filter.mp listed
      exact follows.retired _ ⟨row,stored,rfl,.inl isActive⟩
  · cases checksums with
    | same _ rows =>
      rw [rows]
      exact law.checksums
    | builtin asks vacant new rows =>
      rw [rows]
      refine List.nodup_append.mpr ⟨law.checksums,List.nodup_singleton _,?_⟩
      intro checksum listed other single
      cases List.mem_singleton.mp single
      obtain ⟨row,stored,rfl⟩ := List.mem_map.mp listed
      exact careful.seeds asks vacant new row stored
    | staged checksum _ new rows =>
      rw [rows]
      refine List.nodup_append.mpr ⟨law.checksums,List.nodup_singleton _,?_⟩
      intro checksum listed other single
      cases List.mem_singleton.mp single
      obtain ⟨row,stored,rfl⟩ := List.mem_map.mp listed
      exact new row stored
  · intro move noted
    rcases List.mem_append.mp noted with before | here
    · exact law.moves move before
    · obtain ⟨now,fresh,id,version,rfl,activated,moves⟩ := mem_moves here
      obtain ⟨old,new,same,apart,passes⟩ :=
        (autoActivateLatest_activated_iff kept).mp ⟨id,version,activated⟩
      cases Option.some.inj (moves.symm.trans same)
      exact ⟨autoMove_staged kept moves,guardrail_newer passes,
        careful.whole now fresh _ _ rfl moves apart passes⟩
  · exact follows.replayed law.replayed

theorem exec_careful {past : Past} (standing : Standing (s,past))
    (law : Lifecycle ((exec rt s event).1,notePast rt past s event (exec rt s event))) :
    Careful rt s event := by
  have spec : Follows s (exec rt s event).1 ∧ _ := exec_follows standing.kept event
  obtain ⟨_,checksums,_⟩ := spec
  constructor
  · intro asks vacant new row stored same
    have distinct := law.checksums
    cases checksums with
    | same unseeded _ => exact unseeded asks vacant new
    | builtin _ _ _ rows =>
      rw [rows] at distinct
      exact (List.nodup_append.mp distinct).2.2 _ (List.mem_map_of_mem stored) _
        (List.mem_singleton_self _) same
    | staged _ stages => simp [asks] at stages
  · rintro now fresh old new rfl moves apart passes
    obtain ⟨id,version,activated⟩ :=
      (autoActivateLatest_activated_iff standing.kept).mpr ⟨old,new,moves,apart,passes⟩
    refine (law.moves (old,new) (List.mem_append_right _ ?_)).bounds
    simp [Event.moves,exec,activated,moves]

/-- In a run of calls from an empty store the lifecycle holds in every state exactly when every
call is careful. -/
theorem lifecycle_iff (rt : Runtime) (events : List Event) :
    Always (withHistory (exec rt) (notePast rt)) Lifecycle ({},{}) events ↔
      EachStep (withHistory (exec rt) (notePast rt)) (fun s event => Careful rt s.1 event) ({},{})
        events := by
  refine always_iff_eachStep _ _ _ Standing (fun s standing => standing.law) ?_ ?_ _ _ ?_
  · rintro ⟨s,past⟩ event standing careful
    exact exec_standing standing careful
  · rintro ⟨s,past⟩ event standing careless law
    exact careless (exec_careful standing law)
  · refine ⟨⟨List.nodup_nil,?_,?_⟩,?_,⟨?_,?_,List.nodup_nil,?_,?_⟩⟩
    · exact fun row listed => (nomatch listed)
    · exact fun row listed => (nomatch listed)
    · exact fun noted => (nomatch noted)
    · exact fun noted => (nomatch noted)
    · exact fun id listed => (nomatch listed)
    · exact fun move listed => (nomatch listed)
    · decide

def deployment : Runtime where
  repr _ := ""
  percent _ _ := ""
  checksum payload := if textAt payload "factor_version" = "2025-12-01" then
      "1f7fd4a5e2c4b42dabf49675df5a0db76b27853cc7760ed76dac1a1f896498f1"
    else "f262423a129d63201bc9098584855eeda6f33888d256844019240faaa069478c"

def fractionalPayload : List (String × Json) :=
  [("region_carbon_intensity",.obj [("default",.float ⟨6009,-1⟩)]),
    ("service_energy_factors_by_provider",.obj [("generic",.obj [("default",.float ⟨3,-2⟩)])]),
    ("cloud_pue",.float ⟨12,-1⟩),("embodied_emissions_factor",.float ⟨25,-3⟩),
    ("factor_source",.str "Electricity Maps + EPA eGRID + provider sustainability reports"),
    ("factor_version",.str "2026-01-01"),("factor_timestamp",.str "2026-01-01"),
    ("methodology_version",.str "valdrics-carbon-v2.0")]

def fractionalUpdate : List Event :=
  [.ensureActive 0 1,.stage 1 2 fractionalPayload none none,.autoActivateLatest 2 3]

theorem fractional_moves :
    (buildCarbonFactorPayload,fractionalPayload) ∈
      ((finalState (withHistory (exec deployment) (notePast deployment)) ({},{})
        fractionalUpdate).2.moves.map fun move => (move.1.payload,move.2.payload)) := by
  have payloads : ((finalState (withHistory (exec deployment) (notePast deployment)) ({},{})
        fractionalUpdate).2.moves.map fun move => (move.1.payload,move.2.payload)) =
      [(buildCarbonFactorPayload,fractionalPayload)] := rfl
  rw [payloads]
  exact List.mem_singleton_self _

/-- More than half is added to the intensity, less than a whole gram more than the half. -/
theorem fractional_update_breaks :
    ¬Always (withHistory (exec deployment) (notePast deployment)) Lifecycle ({},{})
      fractionalUpdate := by
  intro always
  obtain ⟨⟨old,new⟩,listed,payloads⟩ := List.mem_map.mp fractional_moves
  obtain ⟨a,c,before,after,_,_,change⟩ := (always.2.2.2.moves (old,new) listed).bounds
  have oldPayload : old.payload = buildCarbonFactorPayload := (Prod.mk.inj payloads).1
  have newPayload : new.payload = fractionalPayload := (Prod.mk.inj payloads).2
  have builtin : old.defaultIntensity = some ((⟨400,0⟩ : Decimal).inUnits 0) := by
    simp only [CarbonFactorSet.defaultIntensity,oldPayload]
    rfl
  have fractional : new.defaultIntensity = some ((⟨6009,-1⟩ : Decimal).inUnits 0) := by
    simp only [CarbonFactorSet.defaultIntensity,newPayload]
    rfl
  cases Option.some.inj (before.symm.trans builtin)
  cases Option.some.inj (after.symm.trans fractional)
  simp only [Decimal.inUnits,abs_le] at change
  norm_num at change

end Valdrics.Carbon

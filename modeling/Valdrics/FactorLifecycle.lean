import Mathlib.Algebra.Order.Field.Rat
import Valdrics.CarbonFactors
import Valdrics.EnforcementService

/-! The life of the factor sets over a run: one is active, the log tells which, and an automatic
activation keeps to its bounds, of which the code compares the whole parts. -/
namespace Valdrics.Carbon

open Enforcement (Uuid Json bind_eq_ok)

def CarbonFactorSet.defaultIntensity (row : CarbonFactorSet) : Option ℚ :=
  match row.payload.lookup "region_carbon_intensity" with
  | some (.obj regions) =>
    ((regions.lookup "default").bind JsonValue.number).map fun value => value.inUnits 0
  | _ => none

def WithinBounds (old new : CarbonFactorSet) : Prop :=
  ∃ a c : ℚ, old.defaultIntensity = some a ∧ new.defaultIntensity = some c ∧
    0 < c ∧ c ≤ maxDefaultIntensity ∧ |c - a| ≤ a / 2

structure Guarded (old new : CarbonFactorSet) : Prop where
  staged : new.status = .staged
  newer : old.factorTimestamp < new.factorTimestamp
  bounds : WithinBounds old new

def replayEntry (active : Option Uuid) (entry : CarbonFactorUpdateLog) : Option (Option Uuid) :=
  match entry.action with
  | .seeded => some (some entry.newFactorSetId)
  | .manualActivated | .autoActivated =>
    if active.isSome ∧ active = entry.oldFactorSetId then some (some entry.newFactorSetId) else none
  | .staged | .blockedGuardrail => some active

def replay (logs : List CarbonFactorUpdateLog) : Option (Option Uuid) :=
  logs.foldlM replayEntry none

def State.activeId (s : State) : Option Uuid := s.getActive.map (·.id)

/-- What is known of the past: whether a call has ensured an active set, the sets that were active,
and the automatic activations. -/
structure Past where
  ensured : Bool := false
  active : List Uuid := []
  moves : List (CarbonFactorSet × CarbonFactorSet) := []

def autoMove (rt : Runtime) (s : State) (now : Int) (fresh : Uuid) :
    Option (CarbonFactorSet × CarbonFactorSet) :=
  match ensureActive rt s now fresh with
  | .error _ => none
  | .ok (s,active) => s.latestStaged.map fun candidate => (active,candidate)

def Event.moves (rt : Runtime) (s : State) (event : Event) (answer : Except Failure Answer) :
    List (CarbonFactorSet × CarbonFactorSet) :=
  match event with
  | .autoActivateLatest now fresh =>
    match answer with
    | .ok (.activated ..) => (autoMove rt s now fresh).toList
    | _ => []
  | _ => []

def Event.ensures : Event → Bool
  | .stage .. => false
  | _ => true

def notePast (rt : Runtime) (past : Past) (s : State) (event : Event)
    (result : State × Except Failure Answer) : Past where
  ensured := past.ensured || (event.ensures && result.2.isOk)
  active := past.active ++ (s.sets.filter (·.isActive)).map (·.id)
  moves := past.moves ++ event.moves rt s result.2

def Retired (s : State) (id : Uuid) : Prop :=
  ∃ row ∈ s.sets, row.id = id ∧
    (row.isActive = true ∨ (row.status = .archived ∧ row.deactivatedAt.isSome = true))

structure Lifecycle (s : State × Past) : Prop where
  single : s.2.ensured = true → ∃ row ∈ s.1.sets, row.isActive = true ∧ row.status = .active ∧
    ∀ other ∈ s.1.sets, other.isActive = true ∨ other.status = .active → other = row
  retired : ∀ id ∈ s.2.active, Retired s.1 id
  checksums : (s.1.sets.map (·.factorsChecksum)).Nodup
  moves : ∀ move ∈ s.2.moves, Guarded move.1 move.2
  replayed : replay s.1.logs = some s.1.activeId

def asksActive (s : State) : Event → Bool
  | .ensureActive .. | .autoActivateLatest .. => true
  | .activate _ _ id _ => (s.find id).isSome
  | .stage .. => false

def Event.fresh : Event → Uuid
  | .ensureActive _ fresh | .stage _ fresh _ _ _ | .activate _ fresh _ _
  | .autoActivateLatest _ fresh => fresh

/-- No set has the builtin factors when they are seeded, and a candidate that passes the
guardrails on whole parts passes them as it is stored. -/
structure Careful (rt : Runtime) (s : State) (event : Event) : Prop where
  seeds : asksActive s event = true → s.getActive = none → s.find event.fresh = none →
    ∀ row ∈ s.sets, row.factorsChecksum ≠ rt.checksum buildCarbonFactorPayload
  whole : ∀ now fresh old new, event = .autoActivateLatest now fresh →
    autoMove rt s now fresh = some (old,new) → new.factorsChecksum ≠ old.factorsChecksum →
    guardrailAutoActivation rt old new = .ok none → WithinBounds old new

structure Kept (s : State) : Prop where
  ids : (s.sets.map (·.id)).Nodup
  status : ∀ row ∈ s.sets, row.isActive = true ↔ row.status = .active
  one : ∀ row ∈ s.sets, ∀ other ∈ s.sets, row.isActive = true → other.isActive = true → other = row

variable {rt : Runtime} {s next middle : State} {row other active candidate : CarbonFactorSet}
  {now : Int} {fresh : Uuid}

theorem greatest_mem {key : α → Int × Int} {items : List α} {a : α}
    (found : greatest key items = some a) : a ∈ items := by
  induction items with
  | nil => cases found
  | cons item rest ih =>
    simp only [greatest] at found
    split at found
    · cases found
      exact List.mem_cons_self
    next b later =>
      split at found
      · cases found
        exact List.mem_cons_self
      · cases found
        exact List.mem_cons_of_mem _ (ih later)

theorem greatest_isSome (key : α → Int × Int) {items : List α} {a : α} (listed : a ∈ items) :
    ∃ b, greatest key items = some b := by
  cases items with
  | nil => cases listed
  | cons item rest =>
    simp only [greatest]
    split
    · exact ⟨_,rfl⟩
    · split <;> exact ⟨_,rfl⟩

theorem getActive_mem (found : s.getActive = some active) :
    active ∈ s.sets ∧ active.isActive = true := by
  have listed := greatest_mem found
  simpa using listed

theorem Kept.getActive_iff (kept : Kept s) :
    s.getActive = some active ↔ active ∈ s.sets ∧ active.isActive = true := by
  constructor
  · exact getActive_mem
  · rintro ⟨listed,isActive⟩
    obtain ⟨found,is⟩ := greatest_isSome
      (fun row : CarbonFactorSet => (row.activatedAt.getD 0,row.createdAt))
      (List.mem_filter.mpr ⟨listed,isActive⟩)
    have both := getActive_mem is
    cases kept.one active listed found both.1 isActive both.2
    exact is

theorem getActive_none_iff : s.getActive = none ↔ ∀ row ∈ s.sets, row.isActive = false := by
  constructor
  · intro none row listed
    by_contra isActive
    obtain ⟨found,is⟩ := greatest_isSome
      (fun row : CarbonFactorSet => (row.activatedAt.getD 0,row.createdAt))
      (List.mem_filter.mpr ⟨listed,by simpa using isActive⟩)
    have same : s.getActive = some found := is
    rw [none] at same
    cases same
  · intro inactive
    cases found : s.getActive with
    | none => rfl
    | some active =>
      obtain ⟨listed,isActive⟩ := getActive_mem found
      rw [inactive active listed] at isActive
      contradiction

theorem Kept.eq (kept : Kept s) (listed : row ∈ s.sets) (otherListed : other ∈ s.sets)
    (same : other.id = row.id) : other = row :=
  List.inj_on_of_nodup_map kept.ids otherListed listed same

theorem find_mem {id : Uuid} (found : s.find id = some row) : row ∈ s.sets ∧ row.id = id := by
  refine ⟨List.mem_of_find?_eq_some found,?_⟩
  simpa using List.find?_some found

theorem find_none {id : Uuid} (none : s.find id = none) : ∀ row ∈ s.sets, row.id ≠ id := by
  simpa [State.find] using none

theorem mem_update {id : Uuid} {change : CarbonFactorSet → CarbonFactorSet} :
    row ∈ (s.update id change).sets ↔
      (∃ old ∈ s.sets, old.id = id ∧ change old = row) ∨ (row ∈ s.sets ∧ row.id ≠ id) := by
  simp only [State.update,List.mem_map]
  constructor
  · rintro ⟨old,listed,is⟩
    split at is
    next same => exact .inl ⟨old,listed,same,is⟩
    next apart =>
      cases is
      exact .inr ⟨listed,apart⟩
  · rintro (⟨old,listed,same,is⟩ | ⟨listed,apart⟩)
    · exact ⟨old,listed,by rw [if_pos same]; exact is⟩
    · exact ⟨row,listed,if_neg apart⟩

theorem update_column {id : Uuid} {change : CarbonFactorSet → CarbonFactorSet} (column : CarbonFactorSet → β)
    (keeps : ∀ row, column (change row) = column row) :
    (s.update id change).sets.map column = s.sets.map column := by
  simp only [State.update,List.map_map]
  apply List.map_congr_left
  intro row _
  by_cases same : row.id = id <;> simp [same,keeps]

theorem replay_append {logs : List CarbonFactorUpdateLog} {entry : CarbonFactorUpdateLog}
    {before : Option Uuid} (replayed : replay logs = some before) :
    replay (logs ++ [entry]) = replayEntry before entry := by
  simp only [replay] at replayed ⊢
  simp [List.foldlM_append,replayed]

/-- What a call may do to the tables: they stay sound, an active set stays one, a retired one stays
retired, and the log tells of what happened. -/
structure Follows (s next : State) : Prop where
  kept : Kept next
  active : s.getActive.isSome = true → next.getActive.isSome = true
  retired : ∀ id, Retired s id → Retired next id
  replayed : replay s.logs = some s.activeId → replay next.logs = some next.activeId

theorem Follows.refl (kept : Kept s) : Follows s s := ⟨kept,id,fun _ => id,id⟩

theorem Follows.trans (first : Follows s middle) (second : Follows middle next) : Follows s next :=
  ⟨second.kept,fun some => second.active (first.active some),
    fun id retired => second.retired id (first.retired id retired),
    fun replayed => second.replayed (first.replayed replayed)⟩

theorem kept_append (kept : Kept s) (new : s.find row.id = none)
    (status : row.isActive = true ↔ row.status = .active)
    (alone : row.isActive = true → s.getActive = none) :
    Kept { s with sets := s.sets ++ [row] } := by
  have apart := find_none new
  constructor
  · simp only [List.map_append,List.map_cons,List.map_nil]
    apply List.nodup_append.mpr
    refine ⟨kept.ids,List.nodup_singleton _,?_⟩
    intro id listed other single
    cases List.mem_singleton.mp single
    obtain ⟨old,oldListed,rfl⟩ := List.mem_map.mp listed
    exact apart old oldListed
  · intro other listed
    rcases List.mem_append.mp listed with before | single
    · exact kept.status other before
    · cases List.mem_singleton.mp single
      exact status
  · have still : row.isActive = true → ∀ old ∈ s.sets, old.isActive = true → False := by
      intro isActive old listed oldActive
      rw [getActive_none_iff.mp (alone isActive) old listed] at oldActive
      contradiction
    intro first firstListed second secondListed firstActive secondActive
    rcases List.mem_append.mp firstListed with before | single
    · rcases List.mem_append.mp secondListed with secondBefore | secondSingle
      · exact kept.one first before second secondBefore firstActive secondActive
      · cases List.mem_singleton.mp secondSingle
        exact (still secondActive first before firstActive).elim
    · cases List.mem_singleton.mp single
      rcases List.mem_append.mp secondListed with secondBefore | secondSingle
      · exact (still firstActive second secondBefore secondActive).elim
      · exact List.mem_singleton.mp secondSingle

theorem retired_append {id : Uuid} (retired : Retired s id) :
    Retired { s with sets := s.sets ++ [row] } id := by
  obtain ⟨old,listed,is⟩ := retired
  exact ⟨old,List.mem_append_left _ listed,is⟩

theorem seed_follows (kept : Kept s) (vacant : s.getActive = none) (new : s.find row.id = none)
    (isActive : row.isActive = true) (status : row.status = .active)
    {entry : CarbonFactorUpdateLog} (action : entry.action = .seeded)
    (names : entry.newFactorSetId = row.id) :
    Follows s ({ s with sets := s.sets ++ [row] }.log entry) ∧
      ({ s with sets := s.sets ++ [row] }.log entry).getActive = some row := by
  have keptNext : Kept { s with sets := s.sets ++ [row] } :=
    kept_append kept new (by simp [isActive,status]) (fun _ => vacant)
  have found : ({ s with sets := s.sets ++ [row] } : State).getActive = some row :=
    keptNext.getActive_iff.mpr ⟨List.mem_append_right _ (List.mem_singleton_self _),isActive⟩
  refine ⟨⟨⟨keptNext.ids,keptNext.status,keptNext.one⟩,?_,?_,?_⟩,found⟩
  · intro some
    rw [vacant] at some
    contradiction
  · exact fun id retired => retired_append retired
  · intro replayed
    have id : State.activeId ({ s with sets := s.sets ++ [row] }.log entry) = some row.id := by
      simp only [State.activeId]
      exact congrArg _ found
    rw [id]
    refine (replay_append replayed).trans ?_
    simp [replayEntry,action,names]

theorem getActive_congr (kept : Kept s) (keptNext : Kept next)
    (same : ∀ row, row.isActive = true → (row ∈ next.sets ↔ row ∈ s.sets)) :
    next.getActive = s.getActive := by
  apply Option.ext
  intro active
  rw [kept.getActive_iff,keptNext.getActive_iff]
  constructor
  · rintro ⟨listed,isActive⟩
    exact ⟨(same active isActive).mp listed,isActive⟩
  · rintro ⟨listed,isActive⟩
    exact ⟨(same active isActive).mpr listed,isActive⟩

theorem stage_follows (kept : Kept s) (new : s.find row.id = none) (inactive : row.isActive = false)
    (status : row.status = .staged) {entry : CarbonFactorUpdateLog}
    (action : entry.action = .staged) :
    Follows s ({ s with sets := s.sets ++ [row] }.log entry) := by
  have keptNext : Kept { s with sets := s.sets ++ [row] } :=
    kept_append kept new (by simp [inactive,status]) (by simp [inactive])
  have found : ({ s with sets := s.sets ++ [row] } : State).getActive = s.getActive := by
    apply getActive_congr kept keptNext
    intro other isActive
    simp only [List.mem_append,List.mem_singleton]
    constructor
    · rintro (before | rfl)
      · exact before
      · rw [inactive] at isActive
        contradiction
    · exact Or.inl
  refine ⟨⟨keptNext.ids,keptNext.status,keptNext.one⟩,?_,?_,?_⟩
  · intro some
    rw [← found] at some
    exact some
  · exact fun id retired => retired_append retired
  · intro replayed
    have id : State.activeId ({ s with sets := s.sets ++ [row] }.log entry) = s.activeId :=
      congrArg (Option.map CarbonFactorSet.id) found
    rw [id]
    refine (replay_append replayed).trans ?_
    simp [replayEntry,action]

theorem shelve_follows (kept : Kept s) (listed : candidate ∈ s.sets)
    (staged : candidate.status = .staged) (status : Status) (aside : status ≠ .active)
    {logs : List CarbonFactorUpdateLog} (same : ∀ before, replay s.logs = some before →
      replay logs = some before) :
    Follows s { s.update candidate.id (fun row => { row with status }) with logs } := by
  have inactive : candidate.isActive = false := by
    by_contra isActive
    have active := (kept.status candidate listed).mp (by simpa using isActive)
    rw [staged] at active
    cases active
  have rows : ∀ row, row ∈ (s.update candidate.id fun row => { row with status }).sets ↔
      row = { candidate with status } ∨ (row ∈ s.sets ∧ row.id ≠ candidate.id) := by
    intro row
    rw [mem_update]
    constructor
    · rintro (⟨old,oldListed,is,rfl⟩ | other)
      · cases kept.eq listed oldListed is
        exact .inl rfl
      · exact .inr other
    · rintro (rfl | other)
      · exact .inl ⟨candidate,listed,rfl,rfl⟩
      · exact .inr other
  have keptNext : Kept (s.update candidate.id fun row => { row with status }) := by
    constructor
    · have ids : (s.update candidate.id fun row => { row with status }).sets.map (·.id) =
          s.sets.map (·.id) := update_column _ fun _ => rfl
      rw [ids]
      exact kept.ids
    · intro row member
      rcases (rows row).mp member with rfl | ⟨before,_⟩
      · simp [inactive,aside]
      · exact kept.status row before
    · intro first firstListed second secondListed firstActive secondActive
      rcases (rows first).mp firstListed with rfl | ⟨before,_⟩
      · rw [inactive] at firstActive
        contradiction
      · rcases (rows second).mp secondListed with rfl | ⟨secondBefore,_⟩
        · rw [inactive] at secondActive
          contradiction
        · exact kept.one first before second secondBefore firstActive secondActive
  have found : (s.update candidate.id fun row => { row with status }).getActive = s.getActive := by
    apply getActive_congr kept keptNext
    intro row isActive
    rw [rows]
    constructor
    · rintro (rfl | ⟨before,_⟩)
      · rw [inactive] at isActive
        contradiction
      · exact before
    · intro before
      refine .inr ⟨before,fun same => ?_⟩
      cases kept.eq listed before same
      rw [inactive] at isActive
      contradiction
  refine ⟨⟨keptNext.ids,keptNext.status,keptNext.one⟩,?_,?_,?_⟩
  · intro some
    rw [← found] at some
    exact some
  · rintro id ⟨row,rowListed,is,retired⟩
    by_cases here : row.id = candidate.id
    · cases kept.eq listed rowListed here
      rw [inactive,staged] at retired
      simp at retired
    · exact ⟨row,(rows row).mpr (.inr ⟨rowListed,here⟩),is,retired⟩
  · intro replayed
    have id : State.activeId { s.update candidate.id (fun row => { row with status }) with logs } =
        s.activeId := congrArg (Option.map CarbonFactorSet.id) found
    rw [id]
    exact same _ replayed

theorem replace_follows (kept : Kept s) (found : s.getActive = some active)
    (listed : row ∈ s.sets) (apart : row.id ≠ active.id) {action : Action}
    (replaces : action = .manualActivated ∨ action = .autoActivated) {message : Option String}
    {details : List (String × String)} {actor : Option Uuid} :
    Follows s (s.replaceActive now active row action message details actor) ∧
      (s.replaceActive now active row action message details actor).getActive.isSome = true := by
  obtain ⟨activeListed,isActive⟩ := getActive_mem found
  let retire := fun old : CarbonFactorSet =>
    { old with isActive := false, status := .archived, deactivatedAt := some now }
  let promote := fun old : CarbonFactorSet =>
    { old with isActive := true, status := .active, activatedAt := some now, deactivatedAt := none }
  have rows : ∀ other, other ∈ ((s.update active.id retire).update row.id promote).sets ↔
      other = promote row ∨ other = retire active ∨
        (other ∈ s.sets ∧ other.id ≠ active.id ∧ other.id ≠ row.id) := by
    intro other
    rw [mem_update,mem_update]
    constructor
    · rintro (⟨old,oldListed,is,rfl⟩ | ⟨member,notRow⟩)
      · rcases mem_update.mp oldListed with ⟨first,firstListed,same,rfl⟩ | ⟨member,_⟩
        · cases kept.eq activeListed firstListed same
          exact absurd is.symm apart
        · cases kept.eq listed member is
          exact .inl rfl
      · rcases member with ⟨old,oldListed,is,rfl⟩ | ⟨member,notActive⟩
        · cases kept.eq activeListed oldListed is
          exact .inr (.inl rfl)
        · exact .inr (.inr ⟨member,notActive,notRow⟩)
    · rintro (rfl | rfl | ⟨member,notActive,notRow⟩)
      · exact .inl ⟨row,mem_update.mpr (.inr ⟨listed,apart⟩),rfl,rfl⟩
      · exact .inr ⟨.inl ⟨active,activeListed,rfl,rfl⟩,apart.symm⟩
      · exact .inr ⟨.inr ⟨member,notActive⟩,notRow⟩
  have inactive : ∀ other ∈ s.sets, other.id ≠ active.id → other.isActive = false := by
    intro other member different
    by_contra also
    cases kept.one active activeListed other member isActive (by simpa using also)
    exact different rfl
  have keptNext : Kept ((s.update active.id retire).update row.id promote) := by
    constructor
    · have retired : (s.update active.id retire).sets.map (·.id) = s.sets.map (·.id) :=
        update_column CarbonFactorSet.id fun _ => rfl
      have promoted : ((s.update active.id retire).update row.id promote).sets.map (·.id) =
          (s.update active.id retire).sets.map (·.id) :=
        update_column CarbonFactorSet.id fun _ => rfl
      rw [promoted,retired]
      exact kept.ids
    · intro other member
      rcases (rows other).mp member with rfl | rfl | ⟨before,_⟩
      · simp [promote]
      · simp [retire]
      · exact kept.status other before
    · have only : ∀ other ∈ ((s.update active.id retire).update row.id promote).sets,
          other.isActive = true → other = promote row := by
        intro other member also
        rcases (rows other).mp member with rfl | rfl | ⟨before,notActive,_⟩
        · rfl
        · simp [retire] at also
        · rw [inactive other before notActive] at also
          contradiction
      intro first firstListed second secondListed firstActive secondActive
      rw [only first firstListed firstActive,only second secondListed secondActive]
  have now_active : ((s.update active.id retire).update row.id promote).getActive =
      some (promote row) := keptNext.getActive_iff.mpr ⟨(rows _).mpr (.inl rfl),rfl⟩
  have id : (s.replaceActive now active row action message details actor).activeId = some row.id :=
    congrArg (Option.map CarbonFactorSet.id) now_active
  refine ⟨⟨⟨keptNext.ids,keptNext.status,keptNext.one⟩,?_,?_,?_⟩,?_⟩
  · intro _
    have some : ((s.update active.id retire).update row.id promote).getActive.isSome = true := by
      rw [now_active]
      rfl
    exact some
  · rintro id ⟨old,oldListed,is,retired⟩
    by_cases here : old.id = row.id
    · exact ⟨promote row,(rows _).mpr (.inl rfl),here.symm.trans is,.inl rfl⟩
    · by_cases current : old.id = active.id
      · exact ⟨retire active,(rows _).mpr (.inr (.inl rfl)),current.symm.trans is,.inr ⟨rfl,rfl⟩⟩
      · exact ⟨old,(rows _).mpr (.inr (.inr ⟨oldListed,current,here⟩)),is,retired⟩
  · intro replayed
    rw [id]
    refine (replay_append replayed).trans ?_
    have before : s.activeId = some active.id := congrArg (Option.map CarbonFactorSet.id) found
    rcases replaces with rfl | rfl <;> simp [replayEntry,before]
  · have some : ((s.update active.id retire).update row.id promote).getActive.isSome = true := by
      rw [now_active]
      rfl
    exact some

theorem replaceActive_column (column : CarbonFactorSet → β)
    (keeps : ∀ (row : CarbonFactorSet) (flag : Bool) (status : Status) (on off : Option Int),
      column { row with isActive := flag, status, activatedAt := on, deactivatedAt := off } =
        column row)
    {action : Action} {message : Option String} {details : List (String × String)}
    {actor : Option Uuid} :
    (s.replaceActive now active row action message details actor).sets.map column =
      s.sets.map column := by
  have first : (s.update active.id fun old =>
      { old with isActive := false, status := .archived, deactivatedAt := some now }).sets.map
        column = s.sets.map column := update_column column fun old => keeps old _ _ _ _
  refine Eq.trans ?_ first
  exact update_column column fun old => keeps old _ _ _ _

/-- `ensure_active` finds the active set, or it seeds the builtin factors. -/
inductive Ensured (rt : Runtime) (s : State) (fresh : Uuid) : State → CarbonFactorSet → Prop where
  | found {current : CarbonFactorSet} (is : s.getActive = some current) :
    Ensured rt s fresh s current
  | seeded {after : State} (vacant : s.getActive = none) (new : s.find fresh = none)
    (seeded : CarbonFactorSet) (id : seeded.id = fresh)
    (checksum : seeded.factorsChecksum = rt.checksum buildCarbonFactorPayload)
    (rows : after.sets = s.sets ++ [seeded]) (is : after.getActive = some seeded) :
    Ensured rt s fresh after seeded

theorem ensureActive_ok (kept : Kept s) (ok : ensureActive rt s now fresh = .ok (next,active)) :
    Follows s next ∧ Ensured rt s fresh next active := by
  simp only [ensureActive] at ok
  split at ok
  next active found =>
    obtain ⟨rfl,rfl⟩ := Prod.mk.inj (Except.ok.inj ok)
    exact ⟨Follows.refl kept,.found found⟩
  next vacant =>
    obtain ⟨day,_,ok⟩ := bind_eq_ok.mp ok
    split at ok
    · cases ok
    next new =>
      have new : s.find fresh = none := by simpa using new
      obtain ⟨rfl,rfl⟩ := Prod.mk.inj (Except.ok.inj ok)
      exact ⟨(seed_follows kept vacant new rfl rfl rfl rfl).1,
        .seeded vacant new _ rfl rfl rfl (seed_follows kept vacant new rfl rfl rfl rfl).2⟩

theorem Ensured.current (ensured : Ensured rt s fresh next active) : next.getActive = some active := by
  cases ensured with
  | found is => exact is
  | seeded _ _ _ _ _ _ is => exact is

theorem activate_ok {factorSet : CarbonFactorSet} {action : Action} {message : Option String}
    {details : List (String × String)} {actor : Option Uuid} (kept : Kept s)
    (listed : factorSet ∈ s.sets) (replaces : action = .manualActivated ∨ action = .autoActivated)
    (ok : activate rt s now fresh factorSet action message details actor = .ok next) :
    Follows s next ∧ next.getActive.isSome = true ∧ ∃ middle active,
      Ensured rt s fresh middle active ∧
        next.sets.map (·.factorsChecksum) = middle.sets.map (·.factorsChecksum) := by
  simp only [activate] at ok
  obtain ⟨⟨middle,active⟩,ensures,ok⟩ := bind_eq_ok.mp ok
  obtain ⟨follows,ensured⟩ := ensureActive_ok kept ensures
  have current := ensured.current
  have still : factorSet ∈ middle.sets := by
    cases ensured with
    | found _ => exact listed
    | seeded _ _ _ _ _ rows _ =>
      rw [rows]
      exact List.mem_append_left _ listed
  split at ok
  · cases ok
    exact ⟨follows,by rw [current]; rfl,_,active,ensured,rfl⟩
  next another =>
    cases ok
    have apart : factorSet.id ≠ active.id := by
      intro same
      obtain ⟨activeListed,isActive⟩ := getActive_mem current
      cases follows.kept.eq activeListed still same
      exact another ⟨rfl,isActive⟩
    obtain ⟨replaced,some⟩ := replace_follows follows.kept current still apart replaces
    exact ⟨follows.trans replaced,some,middle,active,ensured,replaceActive_column _ fun _ _ _ _ _ => rfl⟩

inductive Checksums (rt : Runtime) (s : State) (event : Event) (after : State) : Prop where
  | same (unseeded : asksActive s event = true → s.getActive = none → s.find event.fresh ≠ none)
    (rows : after.sets.map (·.factorsChecksum) = s.sets.map (·.factorsChecksum))
  | builtin (asks : asksActive s event = true) (vacant : s.getActive = none)
    (new : s.find event.fresh = none) (rows : after.sets.map (·.factorsChecksum) =
      s.sets.map (·.factorsChecksum) ++ [rt.checksum buildCarbonFactorPayload])
  | staged (checksum : String) (asks : asksActive s event = false)
    (new : ∀ row ∈ s.sets, row.factorsChecksum ≠ checksum)
    (rows : after.sets.map (·.factorsChecksum) = s.sets.map (·.factorsChecksum) ++ [checksum])

theorem Ensured.checksums (event : Event) {after : State} (ensured : Ensured rt s event.fresh middle active)
    (asks : asksActive s event = true)
    (rows : after.sets.map (·.factorsChecksum) = middle.sets.map (·.factorsChecksum)) :
    Checksums rt s event after := by
  cases ensured with
  | found is =>
    refine .same ?_ rows
    intro _ vacant
    rw [vacant] at is
    cases is
  | seeded vacant new seeded id checksum added is =>
    refine .builtin asks vacant new ?_
    rw [rows,added]
    simp [checksum]

theorem blocked_follows (kept : Kept s) (listed : candidate ∈ s.sets)
    (staged : candidate.status = .staged) {entry : CarbonFactorUpdateLog}
    (action : entry.action = .blockedGuardrail) :
    Follows s ((s.update candidate.id fun row => { row with status := .blocked }).log entry) := by
  refine shelve_follows kept listed staged .blocked (by decide) ?_
  intro before replayed
  exact (replay_append replayed).trans (by simp [replayEntry,action])

theorem fromIsoFormat_builtin :
    DateText.fromIsoFormat (PythonText.slice (PythonText.strip "2025-12-01") 10) = some 739585 := by
  decide

theorem parseFactorDate_text {text : String} {day : Nat}
    (dated : DateText.fromIsoFormat (PythonText.slice (PythonText.strip text) 10) = some day) :
    parseFactorDate rt (.str text) = .ok day := by
  unfold parseFactorDate
  simp only
  rw [dated]

/-- The builtin factors are dated, so that only a taken id makes their seeding fail. -/
theorem ensureActive_error {failure : Failure} (fails : ensureActive rt s now fresh = .error failure) :
    s.getActive = none ∧ s.find fresh ≠ none := by
  have date : (buildCarbonFactorPayload.lookup "factor_timestamp").getD .null =
      .str "2025-12-01" := rfl
  simp only [ensureActive] at fails
  split at fails
  · cases fails
  next vacant =>
    refine ⟨vacant,fun new => ?_⟩
    rw [date,parseFactorDate_text fromIsoFormat_builtin] at fails
    simp [bind,Except.bind,new,pure,Except.pure] at fails

theorem latestStaged_mem (found : s.latestStaged = some candidate) :
    candidate ∈ s.sets ∧ candidate.status = .staged := by
  have listed := greatest_mem found
  simpa using listed

theorem autoActivateLatest_follows (kept : Kept s) :
    Follows s (autoActivateLatest rt s now fresh).1 ∧
      ((autoActivateLatest rt s now fresh).2.isOk = true →
        (autoActivateLatest rt s now fresh).1.getActive.isSome = true) ∧
      Checksums rt s (.autoActivateLatest now fresh) (autoActivateLatest rt s now fresh).1 := by
  simp only [autoActivateLatest]
  split
  next failure fails =>
    obtain ⟨_,taken⟩ := ensureActive_error fails
    exact ⟨Follows.refl kept,fun ok => (nomatch ok),.same (fun _ _ => taken) rfl⟩
  next middle active ensures =>
    obtain ⟨follows,ensured⟩ := ensureActive_ok kept ensures
    have current : middle.getActive.isSome = true := by
      rw [ensured.current]
      rfl
    have checksums : ∀ after : State, after.sets.map (·.factorsChecksum) =
        middle.sets.map (·.factorsChecksum) →
        Checksums rt s (.autoActivateLatest now fresh) after :=
      fun after rows => Ensured.checksums (.autoActivateLatest now fresh) ensured rfl rows
    split
    · exact ⟨follows,fun _ => current,checksums _ rfl⟩
    next candidate found =>
      obtain ⟨listed,staged⟩ := latestStaged_mem found
      split
      · have shelved := shelve_follows follows.kept listed staged .archived (by decide)
          (fun before replayed => replayed)
        exact ⟨follows.trans shelved,fun _ => shelved.active current,
          checksums _ (update_column CarbonFactorSet.factorsChecksum fun _ => rfl)⟩
      · split
        · exact ⟨follows,fun ok => (nomatch ok),checksums _ rfl⟩
        next reason blocks =>
          exact ⟨follows.trans (blocked_follows follows.kept listed staged rfl),
            fun _ => (blocked_follows follows.kept listed staged rfl).active current,
            checksums _ (update_column CarbonFactorSet.factorsChecksum fun _ => rfl)⟩
        next passes =>
          split
          · exact ⟨follows,fun ok => (nomatch ok),checksums _ rfl⟩
          next last activates =>
            obtain ⟨after,some,_,_,again,rows⟩ := activate_ok follows.kept listed (.inr rfl) activates
            refine ⟨follows.trans after,fun _ => some,checksums _ (rows.trans ?_)⟩
            cases again with
            | found _ => rfl
            | seeded vacant => simp [vacant] at current

end Valdrics.Carbon

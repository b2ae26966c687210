import Valdrics.EnforcementModels

/-! The budget hard cap. An enforcement records the state of every connection in the audit
log and suspends them all; a reversal replays the record of the latest enforcement. -/
namespace Valdrics.HardCap

open Enforcement (Uuid)
open PythonText

/-- The models of `CONNECTION_MODEL_PAIRS`. -/
inductive Provider where
  | aws | azure | gcp | saas | license | platform | hybrid
  deriving DecidableEq, Repr

/-- The column a cap works on: `status` where the model has one, else `is_active`. -/
abbrev Provider.State : Provider → Type
  | .aws => String
  | .azure | .gcp | .saas | .license | .platform | .hybrid => Bool

def connectionModels : List Provider := [.aws,.azure,.gcp,.saas,.license,.platform,.hybrid]

/-- What a cap writes into a column, and how a snapshot records a value. -/
structure Column (α : Type) where
  suspended : α
  captured : α → α
  captured_suspended : captured suspended = suspended
  captured_captured : ∀ value, captured (captured value) = captured value

/-- `str(row.status or "pending")`. -/
def statusColumn : Column String where
  suspended := "suspended"
  captured value := orDefault value "pending"
  captured_suspended := rfl
  captured_captured value := by
    by_cases empty : value = "" <;> simp [orDefault,empty]

def activeColumn : Column Bool where
  suspended := false
  captured := id
  captured_suspended := rfl
  captured_captured _ := rfl

def Provider.column : (provider : Provider) → Column provider.State
  | .aws => statusColumn
  | .azure | .gcp | .saas | .license | .platform | .hybrid => activeColumn

instance : (provider : Provider) → DecidableEq provider.State
  | .aws => inferInstanceAs (DecidableEq String)
  | .azure | .gcp | .saas | .license | .platform | .hybrid => inferInstanceAs (DecidableEq Bool)

structure Connection (α : Type) where
  tenantId : Uuid
  value : α
  deriving DecidableEq

abbrev ConnectionTables : Type := (provider : Provider) → Table Uuid (Connection provider.State)

abbrev Snapshot : Type := (provider : Provider) → List (Uuid × provider.State)

inductive AuditEvent where
  | enforcementBlocked
  | enforced (snapshot : Snapshot)
  | reversed (restoredConnections : Nat)

structure HardCapState where
  connections : ConnectionTables
  auditLogs : List (Uuid × AuditEvent) := []

inductive HardCapFault where
  | approvalRequired
  | noSnapshot
  deriving DecidableEq, Repr

def HardCapFault.text : HardCapFault → String
  | .approvalRequired => "Hard-cap enforcement requires explicit approval."
  | .noSnapshot => "No hard-cap snapshot available for tenant; cannot reverse."

section Model

variable {α : Type} (column : Column α) (tenantId : Uuid)

def capture (table : Table Uuid (Connection α)) : List (Uuid × α) :=
  (table.rows.filter fun entry => entry.2.tenantId = tenantId).map fun entry =>
    (entry.1,column.captured entry.2.value)

def suspend [DecidableEq α] (table : Table Uuid (Connection α)) : Table Uuid (Connection α) :=
  table.mapRows fun _ row =>
    if row.tenantId = tenantId ∧ row.value ≠ column.suspended then
      { row with value := column.suspended }
    else row

/-- `UPDATE … WHERE tenant_id = … AND id = …` of one recorded row. -/
def restoreRow (value : α) (row : Connection α) : Connection α :=
  if row.tenantId = tenantId then { row with value := column.captured value } else row

def restore (rows : List (Uuid × α)) (table : Table Uuid (Connection α)) :
    Table Uuid (Connection α) :=
  table.updateAll (rows.map fun entry => (entry.1,restoreRow column tenantId entry.2))

end Model

namespace HardCapState

variable (s : HardCapState) (tenantId : Uuid)

def captureSnapshot : Snapshot := fun provider =>
  capture provider.column tenantId (s.connections provider)

def applyEnforcement : ConnectionTables := fun provider =>
  suspend provider.column tenantId (s.connections provider)

def restoreFromSnapshot (snapshot : Snapshot) : ConnectionTables × Nat :=
  (fun provider => restore provider.column tenantId (snapshot provider) (s.connections provider),
    (connectionModels.map fun provider => (snapshot provider).length).sum)

def loadLatestSnapshot : Option Snapshot :=
  s.auditLogs.reverse.findSome? fun
    | (tenant,.enforced snapshot) => if tenant = tenantId then some snapshot else none
    | _ => none

def writeAudit (event : AuditEvent) : HardCapState :=
  { s with auditLogs := s.auditLogs ++ [(tenantId,event)] }

def enforceHardCap (approved : Bool) : Except HardCapFault Snapshot × HardCapState :=
  if approved = false then (.error .approvalRequired,s.writeAudit tenantId .enforcementBlocked)
  else
    let snapshot := s.captureSnapshot tenantId
    let suspended : HardCapState := { s with connections := s.applyEnforcement tenantId }
    (.ok snapshot,suspended.writeAudit tenantId (.enforced snapshot))

def reverseHardCap (snapshot : Option Snapshot) : Except HardCapFault Nat × HardCapState :=
  match snapshot.orElse fun _ => s.loadLatestSnapshot tenantId with
  | none => (.error .noSnapshot,s)
  | some active =>
    let restored := s.restoreFromSnapshot tenantId active
    let reversed : HardCapState := { s with connections := restored.1 }
    (.ok restored.2,reversed.writeAudit tenantId (.reversed restored.2))

end HardCapState

inductive Operation where
  | enforce (tenantId : Uuid) (approved : Bool)
  | create (provider : Provider) (id : Uuid) (connection : Connection provider.State)
  | change (provider : Provider) (id : Uuid) (value : provider.State)

def HardCapState.setConnections (s : HardCapState) (provider : Provider)
    (table : Table Uuid (Connection provider.State)) : HardCapState :=
  { s with connections := Function.update s.connections provider table }

def HardCapState.perform (s : HardCapState) : Operation → HardCapState
  | .enforce tenantId approved => (s.enforceHardCap tenantId approved).2
  | .create provider id connection =>
    s.setConnections provider
      (((s.connections provider).insert id connection).getD (s.connections provider))
  | .change provider id value =>
    s.setConnections provider ((s.connections provider).update id ({ · with value := value }))

def Operation.enforces (tenantId : Uuid) : Operation → Bool
  | .enforce tenant approved => tenant = tenantId && approved
  | _ => false

def lastFound (tenantId : Uuid) : HardCapState → HardCapState → List Operation → HardCapState
  | _, last, [] => last
  | s, last, operation :: operations =>
    lastFound tenantId (s.perform operation) (if operation.enforces tenantId then s else last)
      operations

structure CapRun (tenantId : Uuid) where
  start : HardCapState
  rest : List Operation

namespace CapRun

variable {tenantId : Uuid} (run : CapRun tenantId)

def operations : List Operation := .enforce tenantId true :: run.rest

def before : HardCapState := run.operations.foldl HardCapState.perform run.start

def after : HardCapState := (run.before.reverseHardCap tenantId none).2

def last : HardCapState := lastFound tenantId run.start run.start run.operations

def Suspends (provider : Provider) (id : Uuid) : Prop :=
  ∃ earlier later row, run.operations = earlier ++ .enforce tenantId true :: later ∧
    ((earlier.foldl HardCapState.perform run.start).connections provider).find id = some row ∧
    row.tenantId = tenantId ∧ row.value ≠ provider.column.suspended

structure Restores : Prop where
  original : ∀ provider id row, (run.start.connections provider).find id = some row →
    row.tenantId = tenantId → (run.after.connections provider).find id = some row
  untouched : ∀ provider id, ¬run.Suspends provider id →
    (run.after.connections provider).find id = (run.before.connections provider).find id
  again : ∀ provider id, ((run.after.reverseHardCap tenantId none).2.connections provider).find id =
    (run.after.connections provider).find id

/-- The last enforcement finds the connections in their original states, and the operator
leaves alone after it the ones that no enforcement suspended. -/
structure Undisturbed : Prop where
  recaptured : ∀ provider id row, (run.start.connections provider).find id = some row →
    row.tenantId = tenantId → ∃ found, (run.last.connections provider).find id = some found ∧
      provider.column.captured found.value = row.value
  idle : ∀ provider id row, (run.last.connections provider).find id = some row →
    row.tenantId = tenantId → ¬run.Suspends provider id →
    (run.before.connections provider).find id = some row

end CapRun

section Columns

variable {α : Type} {column : Column α} {tenantId id : Uuid}
  {recorded current : Table Uuid (Connection α)} {row : Connection α} {value : α}

theorem mem_capture : (id,value) ∈ capture column tenantId recorded ↔
    ∃ row, recorded.find id = some row ∧ row.tenantId = tenantId ∧
      value = column.captured row.value := by
  constructor
  · intro member
    obtain ⟨entry,kept,same⟩ := List.mem_map.mp member
    obtain ⟨there,mine⟩ := List.mem_filter.mp kept
    obtain ⟨rfl,rfl⟩ := Prod.mk.inj same
    exact ⟨entry.2,Table.find_eq_some_iff.mpr there,by simpa using mine,rfl⟩
  · rintro ⟨row,found,mine,rfl⟩
    have there := Table.find_eq_some_iff.mp found
    exact List.mem_map.mpr ⟨_,List.mem_filter.mpr ⟨there,by simpa using mine⟩,rfl⟩

theorem capture_distinct : ((capture column tenantId recorded).map Prod.fst).Nodup := by
  have kept := (List.filter_sublist (p := fun entry : Uuid × Connection α =>
    entry.2.tenantId = tenantId) (l := recorded.rows)).map Prod.fst
  have keys : (capture column tenantId recorded).map Prod.fst =
      (recorded.rows.filter fun entry => entry.2.tenantId = tenantId).map Prod.fst := by
    simp [capture]
  rw [keys]
  exact recorded.distinct.sublist kept

theorem find_restore (found : recorded.find id = some row) (mine : row.tenantId = tenantId) :
    (restore column tenantId (capture column tenantId recorded) current).find id =
      (current.find id).map (restoreRow column tenantId (column.captured row.value)) := by
  have member : (id,column.captured row.value) ∈ capture column tenantId recorded :=
    mem_capture.mpr ⟨row,found,mine,rfl⟩
  apply Table.find_updateAll
  · rw [List.map_map]
    exact capture_distinct
  · exact List.mem_map.mpr ⟨_,member,rfl⟩

theorem find_restore_other
    (absent : ∀ row, recorded.find id = some row → row.tenantId ≠ tenantId) :
    (restore column tenantId (capture column tenantId recorded) current).find id =
      current.find id := by
  apply Table.find_updateAll_other
  intro member
  simp only [List.map_map, List.mem_map, Function.comp_apply] at member
  obtain ⟨entry,there,rfl⟩ := member
  obtain ⟨row,found,mine,_⟩ := mem_capture.mp there
  exact absent row found mine

end Columns

namespace HardCapState

variable {s : HardCapState} {tenantId id : Uuid} {operation : Operation}
  {provider : Provider} {row : Connection provider.State}

@[simp] theorem writeAudit_connections {event : AuditEvent} :
    (s.writeAudit tenantId event).connections = s.connections := rfl

theorem perform_keeps (operation : Operation) (found : (s.connections provider).find id = some row) :
    ∃ now, ((s.perform operation).connections provider).find id = some now ∧
      now.tenantId = row.tenantId := by
  cases operation with
  | enforce tenant approved =>
    cases approved with
    | false => exact ⟨row,found,rfl⟩
    | true =>
      refine ⟨_,(Table.find_mapRows _).trans (congrArg _ found),?_⟩
      dsimp only
      split <;> rfl
  | create model fresh connection =>
    by_cases same : provider = model
    · subst same
      refine ⟨row,?_,rfl⟩
      simp only [perform,setConnections,Function.update_self]
      cases inserted : (s.connections provider).insert fresh connection with
      | none => exact found
      | some table =>
        have apart : id ≠ fresh := by
          rintro rfl
          simp [(Table.insert_eq_some inserted).1] at found
        simp [Table.find_insert inserted,apart,found]
    · exact ⟨row,by simpa [perform,setConnections,Function.update_of_ne same] using found,rfl⟩
  | change model other value =>
    by_cases same : provider = model
    · subst same
      by_cases here : id = other
      · subst here
        exact ⟨{ row with value },by simp [perform,setConnections,found],rfl⟩
      · exact ⟨row,by simp [perform,setConnections,Table.find_update_other,here,found],rfl⟩
    · exact ⟨row,by simpa [perform,setConnections,Function.update_of_ne same] using found,rfl⟩

theorem loadLatest_enforced {snapshot : Snapshot} :
    (s.writeAudit tenantId (.enforced snapshot)).loadLatestSnapshot tenantId = some snapshot := by
  simp [writeAudit,loadLatestSnapshot]

theorem loadLatest_writeAudit {tenant : Uuid} {event : AuditEvent}
    (other : ∀ snapshot, event = .enforced snapshot → tenant ≠ tenantId) :
    (s.writeAudit tenant event).loadLatestSnapshot tenantId = s.loadLatestSnapshot tenantId := by
  cases event with
  | enforced snapshot => simp [writeAudit,loadLatestSnapshot,other snapshot rfl]
  | enforcementBlocked => simp [writeAudit,loadLatestSnapshot]
  | reversed => simp [writeAudit,loadLatestSnapshot]

theorem perform_latest (enforces : operation.enforces tenantId = true) :
    (s.perform operation).loadLatestSnapshot tenantId = some (s.captureSnapshot tenantId) := by
  cases operation with
  | enforce tenant approved =>
    obtain ⟨rfl,rfl⟩ := by simpa [Operation.enforces] using enforces
    exact loadLatest_enforced
  | create | change => simp [Operation.enforces] at enforces

theorem perform_earlier (other : operation.enforces tenantId = false) :
    (s.perform operation).loadLatestSnapshot tenantId = s.loadLatestSnapshot tenantId := by
  cases operation with
  | enforce tenant approved =>
    cases approved with
    | false => exact loadLatest_writeAudit (by simp)
    | true =>
      refine (loadLatest_writeAudit ?_).trans rfl
      intro _ _
      simpa [Operation.enforces] using other
  | create | change => rfl

end HardCapState

/-- What a reversal replays: the snapshot of the last enforcement, over rows that are all
still there. -/
structure Replays (tenantId : Uuid) (s last : HardCapState) : Prop where
  latest : s.loadLatestSnapshot tenantId = some (last.captureSnapshot tenantId)
  kept : ∀ provider id row, (last.connections provider).find id = some row →
    ∃ now, (s.connections provider).find id = some now ∧ now.tenantId = row.tenantId

namespace Replays

variable {s last : HardCapState} {tenantId : Uuid} {operation : Operation}

theorem enforced (enforces : operation.enforces tenantId = true) :
    Replays tenantId (s.perform operation) s :=
  ⟨HardCapState.perform_latest enforces,fun _ _ _ found => HardCapState.perform_keeps operation found⟩

theorem perform (replays : Replays tenantId s last) :
    Replays tenantId (s.perform operation) (if operation.enforces tenantId then s else last) := by
  cases enforces : operation.enforces tenantId with
  | true => exact enforced enforces
  | false =>
    refine ⟨(HardCapState.perform_earlier enforces).trans replays.latest,?_⟩
    intro provider id row found
    obtain ⟨now,there,same⟩ := replays.kept provider id row found
    obtain ⟨later,kept,tenant⟩ := HardCapState.perform_keeps operation there
    exact ⟨later,kept,tenant.trans same⟩

theorem run (replays : Replays tenantId s last) (operations : List Operation) :
    Replays tenantId (operations.foldl HardCapState.perform s)
      (lastFound tenantId s last operations) := by
  induction operations generalizing s last with
  | nil => exact replays
  | cons operation operations ih => exact ih replays.perform

end Replays

theorem lastFound_keeps (holds : HardCapState → Prop) {tenantId : Uuid} {s last : HardCapState}
    (keeps : ∀ s operation, holds s → holds (s.perform operation)) (now : holds s)
    (before : holds last) (operations : List Operation) :
    holds (lastFound tenantId s last operations) := by
  induction operations generalizing s last with
  | nil => exact before
  | cons operation operations ih =>
    apply ih (keeps s operation now)
    split
    · exact now
    · exact before

theorem lastFound_split (tenantId : Uuid) (s last : HardCapState) (operations : List Operation) :
    lastFound tenantId s last operations = last ∨ ∃ earlier later,
      operations = earlier ++ .enforce tenantId true :: later ∧
      lastFound tenantId s last operations = earlier.foldl HardCapState.perform s := by
  induction operations generalizing s last with
  | nil => exact Or.inl rfl
  | cons operation operations ih =>
    rcases ih (s.perform operation) (if operation.enforces tenantId then s else last)
      with same | ⟨earlier,later,rfl,same⟩
    · cases enforces : operation.enforces tenantId with
      | false => exact Or.inl (by simpa [lastFound,enforces] using same)
      | true =>
        have first : operation = .enforce tenantId true := by
          cases operation with
          | enforce tenant approved =>
            obtain ⟨rfl,rfl⟩ := by simpa [Operation.enforces] using enforces
            rfl
          | create | change => simp [Operation.enforces] at enforces
        exact Or.inr ⟨[],operations,by simp [first],by simpa [lastFound,enforces] using same⟩
    · exact Or.inr ⟨operation :: earlier,later,rfl,by simpa [lastFound] using same⟩

namespace CapRun

variable {tenantId id : Uuid} (run : CapRun tenantId) {provider : Provider}
  {row : Connection provider.State}

theorem replays : Replays tenantId run.before run.last := by
  have first : Replays tenantId (run.start.perform (.enforce tenantId true)) run.start :=
    .enforced (by simp [Operation.enforces])
  simpa [before,last,operations,lastFound,Operation.enforces] using first.run run.rest

theorem last_keeps (found : (run.start.connections provider).find id = some row) :
    ∃ there, (run.last.connections provider).find id = some there ∧
      there.tenantId = row.tenantId := by
  apply lastFound_keeps fun s => ∃ there, (s.connections provider).find id = some there ∧
    there.tenantId = row.tenantId
  · rintro s operation ⟨there,here,same⟩
    obtain ⟨now,kept,tenant⟩ := HardCapState.perform_keeps operation here
    exact ⟨now,kept,tenant.trans same⟩
  · exact ⟨row,found,rfl⟩
  · exact ⟨row,found,rfl⟩

theorem last_suspended (found : (run.last.connections provider).find id = some row)
    (mine : row.tenantId = tenantId) (spared : ¬run.Suspends provider id) :
    row.value = provider.column.suspended := by
  by_contra other
  apply spared
  rcases lastFound_split tenantId run.start run.start run.operations with same | ⟨earlier,later,split,same⟩
  · rw [last, same] at found
    exact ⟨[],run.rest,row,rfl,found,mine,other⟩
  · rw [last, same] at found
    exact ⟨earlier,later,row,split,found,mine,other⟩

theorem after_connections : run.after.connections provider =
    restore provider.column tenantId
      (capture provider.column tenantId (run.last.connections provider))
      (run.before.connections provider) := by
  simp [after,HardCapState.reverseHardCap,run.replays.latest,HardCapState.restoreFromSnapshot,
    HardCapState.captureSnapshot]

theorem after_latest :
    run.after.loadLatestSnapshot tenantId = some (run.last.captureSnapshot tenantId) := by
  simp only [after,HardCapState.reverseHardCap,run.replays.latest,Option.orElse]
  refine (HardCapState.loadLatest_writeAudit ?_).trans run.replays.latest
  intro _ event
  contradiction

theorem again_connections : (run.after.reverseHardCap tenantId none).2.connections provider =
    restore provider.column tenantId
      (capture provider.column tenantId (run.last.connections provider))
      (run.after.connections provider) := by
  simp [HardCapState.reverseHardCap,run.after_latest,HardCapState.restoreFromSnapshot,
    HardCapState.captureSnapshot]

theorem after_recorded (found : (run.last.connections provider).find id = some row)
    (mine : row.tenantId = tenantId) : (run.after.connections provider).find id =
      some ⟨tenantId,provider.column.captured row.value⟩ := by
  obtain ⟨now,there,same⟩ := run.replays.kept provider id row found
  rw [after_connections, find_restore found mine, there]
  simp [restoreRow,same,mine,provider.column.captured_captured]

theorem after_other
    (absent : ∀ row, (run.last.connections provider).find id = some row → row.tenantId ≠ tenantId) :
    (run.after.connections provider).find id = (run.before.connections provider).find id := by
  rw [after_connections]
  exact find_restore_other absent

theorem again_find : ((run.after.reverseHardCap tenantId none).2.connections provider).find id =
    (run.after.connections provider).find id := by
  rw [again_connections]
  by_cases recorded : ∃ row, (run.last.connections provider).find id = some row ∧
      row.tenantId = tenantId
  · obtain ⟨row,found,mine⟩ := recorded
    rw [find_restore found mine, run.after_recorded found mine]
    simp [restoreRow,provider.column.captured_captured]
  · apply find_restore_other
    intro row found mine
    exact recorded ⟨row,found,mine⟩

end CapRun

/-- A reversal restores the state before the first enforcement if and only if the last
enforcement found that state and the operator left the spared connections alone. -/
theorem reversal_restores_iff {tenantId : Uuid} (run : CapRun tenantId) :
    run.Restores ↔ run.Undisturbed := by
  constructor
  · intro restores
    refine ⟨fun provider id row found mine => ?_,fun provider id row found mine spared => ?_⟩
    · obtain ⟨there,kept,same⟩ := run.last_keeps found
      have after := run.after_recorded kept (same.trans mine)
      rw [restores.original provider id row found mine] at after
      exact ⟨there,kept,congrArg Connection.value (Option.some.inj after).symm⟩
    · have suspended := run.last_suspended found mine spared
      have after := run.after_recorded found mine
      rw [restores.untouched provider id spared] at after
      rw [after, ← mine, suspended, provider.column.captured_suspended, ← suspended]
  · intro undisturbed
    refine ⟨fun provider id row found mine => ?_,fun provider id spared => ?_,
      fun provider id => run.again_find⟩
    · obtain ⟨there,kept,same⟩ := run.last_keeps found
      obtain ⟨recorded,again,value⟩ := undisturbed.recaptured provider id row found mine
      obtain rfl := Option.some.inj (kept.symm.trans again)
      rw [run.after_recorded kept (same.trans mine), value, ← mine]
    · by_cases recorded : ∃ row, (run.last.connections provider).find id = some row ∧
          row.tenantId = tenantId
      · obtain ⟨row,found,mine⟩ := recorded
        have suspended := run.last_suspended found mine spared
        rw [run.after_recorded found mine, undisturbed.idle provider id row found mine spared,
          suspended, provider.column.captured_suspended, ← mine, ← suspended]
      · apply run.after_other
        intro row found mine
        exact recorded ⟨row,found,mine⟩

namespace Sample

def connected : HardCapState where
  connections
    | .azure => ⟨[(7,⟨1,true⟩)],by simp⟩
    | _ => .empty

def cappedTwice : CapRun 1 := ⟨connected,[.enforce 1 true]⟩

end Sample

/-- After a second enforcement the reversal leaves the connection suspended. -/
theorem second_enforcement_sticks : ¬Sample.cappedTwice.Restores := by
  intro restores
  have original := restores.original .azure 7 ⟨1,true⟩ rfl rfl
  have suspended : (Sample.cappedTwice.after.connections .azure).find 7 =
      some (⟨1,false⟩ : Connection Bool) := rfl
  have same : (⟨1,false⟩ : Connection Bool) = ⟨1,true⟩ :=
    Option.some.inj (suspended.symm.trans original)
  simp at same

end Valdrics.HardCap

import Valdrics.DeferredInserts
import Valdrics.ScimPatches

/-! The patch of a group as the request has it, and the reading of its operations: what each one
makes of the display name, the external id and the members of a group. -/
namespace Valdrics.Scim

open Enforcement (Uuid Json)
open PythonText
open DeferredInserts (Edit)

/-- An operation before its `op` is looked at. -/
structure RequestedOperation where
  op : String
  path : Option String := none
  value : Json := .null

def PatchOp.ofText (text : String) : Option PatchOp :=
  if text = "add" then some .add
  else if text = "replace" then some .replace
  else if text = "remove" then some .remove
  else none

def RequestedOperation.checked (rt : Runtime) (operation : RequestedOperation) :
    Except ScimFailure PatchOperation :=
  match PatchOp.ofText (strip (rt.text.lower operation.op)) with
  | some op => .ok { op, path := operation.path, value := operation.value }
  | none => .error (invalidValue "Unsupported patch op")

/-- `apply_group_patch_operations`, with its check of every `op`. -/
def PatchRun.applyRequested (rt : Runtime) (run : PatchRun) :
    List RequestedOperation → Except ScimFailure PatchRun
  | [] => .ok run
  | requested :: rest => do
    let operation ← requested.checked rt
    let run ← run.applyOperation rt operation
    run.applyRequested rt rest

def PatchRun.start (t : Tenant) (group : ScimGroup) : PatchRun :=
  { session := { tenant := t, autoflush := false }, group }

/-- What `patch_group_route` does after the operations. -/
def PatchRun.finish (rt : Runtime) (run : PatchRun) : Except ScimFailure Tenant := do
  let session : Session := { run.current with autoflush := true }
  if run.memberAction then do
    let session ← session.recomputeEntitlements rt run.impacted
    session.commit
  else session.commit

def patchGroupRoute (rt : Runtime) (t : Tenant) (groupId : String)
    (operations : List RequestedOperation) : Except ScimFailure Tenant := do
  let loaded ← t.loadGroup groupId
  let run ← (PatchRun.start t loaded).applyRequested rt operations
  run.finish rt

def Tenant.patched (rt : Runtime) (t : Tenant) (groupId : String)
    (operations : List RequestedOperation) : Tenant :=
  match patchGroupRoute rt t groupId operations with
  | .ok next => next
  | .error _ => t

structure GroupView where
  displayName : String
  externalId : Option String
  members : Finset Uuid
  deriving DecidableEq

def Tenant.view (t : Tenant) (group : ScimGroup) : GroupView :=
  { displayName := group.displayName
    externalId := group.externalId
    members := t.memberIds group.id }

def memberAdd (ids : Finset Uuid) : Edit Uuid :=
  { names := ids, keeps := fun _ => true, spares := fun _ => true }

/-- 'add' of a value with members and no path: the other members are meant to stay. -/
def fieldAdd (ids : Finset Uuid) : Edit Uuid :=
  { names := ids, keeps := fun _ => false, spares := fun _ => true }

def memberReplace (ids : Finset Uuid) : Edit Uuid :=
  { names := ids, keeps := fun _ => false, spares := fun _ => false }

def memberRemove (ids : Finset Uuid) : Edit Uuid :=
  { names := ∅, keeps := fun uid => uid ∉ ids, spares := fun uid => uid ∉ ids }

/-- 'remove' with neither filter nor value: no member is meant to stay. -/
def memberClear : Edit Uuid :=
  { names := ∅, keeps := fun _ => true, spares := fun _ => false }

structure Meaning where
  displayName : Option String := none
  externalId : Option (Option String) := none
  members : Option (Edit Uuid) := none

namespace Meaning

def apply (meaning : Meaning) (view : GroupView) : GroupView :=
  { displayName := meaning.displayName.getD view.displayName
    externalId := meaning.externalId.getD view.externalId
    members := meaning.members.elim view.members fun edit => edit.meant view.members }

def overwrite (rt : Runtime) (meaning : Meaning) (group : ScimGroup) : ScimGroup :=
  let named := meaning.displayName.elim group (group.rename rt)
  meaning.externalId.elim named (named.setExternalId rt)

end Meaning

def applyMeanings (meanings : List Meaning) (view : GroupView) : GroupView :=
  meanings.foldl (fun view meaning => meaning.apply view) view

def overwriteAll (rt : Runtime) (meanings : List Meaning) (group : ScimGroup) : ScimGroup :=
  meanings.foldl (fun group meaning => meaning.overwrite rt group) group

def memberEdits (meanings : List Meaning) : List (Edit Uuid) := meanings.filterMap (·.members)

/-- An operation is rejected, or well formed; a path with brackets that is no filter of a removal
is neither. -/
inductive Reading where
  | rejected
  | unspoken
  | means (meaning : Meaning)

def Tenant.resolved (t : Tenant) (items : List Json) : Option (Finset Uuid) :=
  (validateRefs items).toOption.map t.resolveMemberUserIds

def membersEdit (t : Tenant) (op : PatchOp) (value : Json) : Option (Edit Uuid) :=
  match op, value with
  | .replace, .arr items => (t.resolved items).map memberReplace
  | .add, .arr items => (t.resolved items).map memberAdd
  | .add, .obj ref => (t.resolved [.obj ref]).map memberAdd
  | .remove, .arr items => (t.resolved items).map memberRemove
  | .remove, .obj ref => (t.resolved [.obj ref]).map memberRemove
  | .remove, .null => some memberClear
  | _, _ => none

def cleanId (externalId : String) : Option String := (some (strip externalId)).filter (· ≠ "")

def fieldName (rt : Runtime) (fields : List (String × Json)) : Option (Option String) :=
  match fields.lookup "displayName" with
  | none => some none
  | some name => if strip (rt.textOf name) = "" then none else some (some (strip (rt.textOf name)))

def fieldMembers (t : Tenant) (op : PatchOp) (fields : List (String × Json)) :
    Option (Option (Edit Uuid)) :=
  match fields.lookup "members" with
  | none => some none
  | some (.arr items) =>
    (t.resolved items).map fun ids => some (if op = .add then fieldAdd ids else memberReplace ids)
  | some _ => none

/-- An operation without a path overwrites the fields of its value. -/
def fieldsMeaning (rt : Runtime) (t : Tenant) (op : PatchOp) (fields : List (String × Json)) :
    Option Meaning := do
  let displayName ← fieldName rt fields
  let members ← fieldMembers t op fields
  return {
    displayName
    externalId := (fields.lookup "externalId").map fun id => cleanId (rt.textOf id)
    members }

def Reading.ofMeaning : Option Meaning → Reading
  | some meaning => .means meaning
  | none => .rejected

def PatchOperation.reading (rt : Runtime) (t : Tenant) (operation : PatchOperation) : Reading :=
  let path := strip (operation.path.getD "")
  let pathNorm := rt.text.lower path
  if path = "" then
    match operation.op, operation.value with
    | .add, .obj fields => .ofMeaning (fieldsMeaning rt t .add fields)
    | .replace, .obj fields => .ofMeaning (fieldsMeaning rt t .replace fields)
    | _, _ => .rejected
  else if pathNorm = "displayname" then
    match operation.op, operation.value with
    | .remove, _ => .rejected
    | _, .str name => if strip name = "" then .rejected
      else .means { displayName := some (strip name) }
    | _, _ => .rejected
  else if pathNorm = "externalid" then
    match operation.op, operation.value with
    | .remove, _ => .means { externalId := some none }
    | _, .str externalId => .means { externalId := some (cleanId externalId) }
    | _, _ => .rejected
  else if pathNorm = "members" then
    .ofMeaning ((membersEdit t operation.op operation.value).map fun edit =>
      { members := some edit })
  else if pathNorm.startsWith "members[" then
    match operation.op, parseMemberFilter rt path with
    | .remove, some uid => .means { members := some (memberRemove {uid}) }
    | _, _ => if (membersEdit t operation.op operation.value).isSome then .unspoken else .rejected
  else .rejected

def RequestedOperation.reading (rt : Runtime) (t : Tenant) (requested : RequestedOperation) :
    Reading :=
  match PatchOp.ofText (strip (rt.text.lower requested.op)) with
  | some op => PatchOperation.reading rt t { op, path := requested.path, value := requested.value }
  | none => .rejected

structure Composed (rt : Runtime) (t : Tenant) (groupId : String)
    (operations : List RequestedOperation) : Prop where
  folds : ∀ loaded meanings, t.loadGroup groupId = .ok loaded →
    operations.map (·.reading rt t) = meanings.map .means →
    ((t.patched rt groupId operations).findGroup loaded.id).map
      (t.patched rt groupId operations).view = some (applyMeanings meanings (t.view loaded))
  refuses : (∃ operation ∈ operations, operation.reading rt t = .rejected) →
    t.patched rt groupId operations = t
  impacted : ∀ loaded run next, t.loadGroup groupId = .ok loaded →
    (PatchRun.start t loaded).applyRequested rt operations = .ok run →
    run.finish rt = .ok next → ∀ uid,
    (uid ∈ next.memberIds loaded.id ↔ uid ∈ t.memberIds loaded.id) ∨ uid ∈ run.impacted

def NamesFree (rt : Runtime) (t : Tenant) (loaded : ScimGroup) (meanings : List Meaning) : Prop :=
  Tenant.UniqueNames (replaceGroup t.groups (overwriteAll rt meanings loaded))

/-- The rows of the request can be written: the names are free, and no user is named after the
operation that inserts him. -/
def Writable (rt : Runtime) (t : Tenant) (loaded : ScimGroup) (meanings : List Meaning) : Prop :=
  NamesFree rt t loaded meanings ∧
    ∀ uid, DeferredInserts.InsertedOnce (t.memberIds loaded.id) (memberEdits meanings) uid

/-- When the operations compose: they carry their meaning out on every user, or they come back to
the group as it was and are refused. -/
def Composable (rt : Runtime) (t : Tenant) (loaded : ScimGroup) (meanings : List Meaning) : Prop :=
  (Writable rt t loaded meanings ∧
      ∀ uid, DeferredInserts.CarriedOut (t.memberIds loaded.id) (memberEdits meanings) uid) ∨
    (¬Writable rt t loaded meanings ∧ applyMeanings meanings (t.view loaded) = t.view loaded)

end Valdrics.Scim

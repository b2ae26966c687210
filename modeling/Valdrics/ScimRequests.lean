import Valdrics.Runs
import Valdrics.ScimModels

/-! The requests on the groups of a tenant, on the groups of one user, and on the mapping of
groups to roles. Each is one transaction: a request that fails changes nothing. -/
namespace Valdrics.Scim

open Enforcement (Uuid Json)
open Enforcement.ApprovalToken (parseUuid)
open PythonText

/-- A reference to a user or a group; both fields are texts or absent. -/
structure Ref where
  value : Option String := none
  display : Option String := none

def optionalText (members : List (String × Json)) (key : String) :
    Except ScimFailure (Option String) :=
  match members.lookup key with
  | none | some .null => .ok none
  | some (.str s) => .ok (some s)
  | some _ => .error .validation

/-- `ScimMemberRef.model_validate`. -/
def validateRef (members : List (String × Json)) : Except ScimFailure Ref := do
  let value ← optionalText members "value"
  let display ← optionalText members "display"
  return { value, display }

def validateRefs : List Json → Except ScimFailure (List Ref)
  | [] => .ok []
  | .obj members :: rest => do
    let ref ← validateRef members
    let refs ← validateRefs rest
    return ref :: refs
  | _ :: rest => validateRefs rest

/-- `resolve_member_user_ids`. -/
def Tenant.resolveMemberUserIds (t : Tenant) (members : List Ref) : Finset Uuid :=
  (members.filterMap fun ref => parseUuid (ref.value.getD "")).toFinset.filter fun uid =>
    (t.users uid).isSome

/-- `parse_member_filter_from_path`: the id in `members[value eq "…"]`. -/
def parseMemberFilter (rt : Runtime) (path : String) : Option Uuid :=
  let cs := (strip path).toList
  let spaced := cs.drop 13
  let verb := spaced.dropWhile isSpace
  let quoted := (verb.drop 2).dropWhile isSpace
  let id := (quoted.drop 1).takeWhile (· ≠ '"')
  if rt.text.lower (String.ofList (cs.take 13)) = "members[value" ∧ verb ≠ spaced ∧
      rt.text.lower (String.ofList (verb.take 2)) = "eq" ∧ quoted ≠ verb.drop 2 ∧
      quoted.head? = some '"' ∧ id ≠ [] ∧ quoted.drop (id.length + 1) = ['"',']'] then
    parseUuid (strip (String.ofList id))
  else none

inductive PatchOp where
  | add | replace | remove
  deriving DecidableEq

structure PatchOperation where
  op : PatchOp
  path : Option String := none
  value : Json := .null

/-- What `apply_group_patch_operations` keeps between operations. -/
structure PatchRun where
  session : Session
  group : ScimGroup
  memberAction : Bool := false
  impacted : Finset Uuid := ∅

namespace PatchRun

def current (run : PatchRun) : Session := { run.session with group := some run.group }

def replaceMembers (run : PatchRun) (memberUserIds : Finset Uuid) :
    Except ScimFailure PatchRun := do
  let (session,impacted) ← run.current.setGroupMemberships run.group.id memberUserIds
  return { run with session, memberAction := true, impacted := run.impacted ∪ impacted }

def resolveList (run : PatchRun) (items : List Json) : Except ScimFailure (Finset Uuid) :=
  (validateRefs items).map run.session.tenant.resolveMemberUserIds

def patchDisplayName (rt : Runtime) (run : PatchRun) (name : String) :
    Except ScimFailure PatchRun :=
  if strip name = "" then .error (invalidValue "displayName is required")
  else .ok { run with group := run.group.rename rt (strip name) }

def patchExternalId (rt : Runtime) (run : PatchRun) (externalId : String) : PatchRun :=
  { run with group := run.group.setExternalId rt ((some (strip externalId)).filter (· ≠ "")) }

def patchFields (rt : Runtime) (run : PatchRun) (fields : List (String × Json)) :
    Except ScimFailure PatchRun := do
  let run ← match fields.lookup "displayName" with
    | some name => run.patchDisplayName rt (rt.textOf name)
    | none => .ok run
  let run := match fields.lookup "externalId" with
    | some externalId => run.patchExternalId rt (rt.textOf externalId)
    | none => run
  match fields.lookup "members" with
  | none => .ok run
  | some (.arr items) => do
    let memberUserIds ← run.resolveList items
    run.replaceMembers memberUserIds
  | some _ => .error (invalidValue "members must be a list")

def patchMembers (rt : Runtime) (run : PatchRun) (op : PatchOp) (path : String) (value : Json) :
    Except ScimFailure PatchRun := do
  let session ← run.current.beforeQuery
  let run := { run with session }
  let existing := run.session.tenant.memberIds run.group.id
  match op with
  | .replace =>
    match value with
    | .arr items => do
      let memberUserIds ← run.resolveList items
      run.replaceMembers memberUserIds
    | _ => .error (invalidValue "members patch value must be a list")
  | .add => do
    let toAdd ← match value with
      | .obj members => run.resolveList [.obj members]
      | .arr items => run.resolveList items
      | _ => .error (invalidValue "members add value must be list or object")
    run.replaceMembers (existing ∪ toAdd)
  | .remove => do
    let byPath := if (rt.text.lower path).startsWith "members[" then parseMemberFilter rt path
      else none
    let toRemove ← match byPath, value with
      | some uid, _ => .ok {uid}
      | none, .obj members => run.resolveList [.obj members]
      | none, .arr items => run.resolveList items
      | none, .null => .ok ∅
      | none, _ => .error (invalidValue "members remove value must be list or object")
    run.replaceMembers (existing \ toRemove)

/-- One operation of `apply_group_patch_operations`. -/
def applyOperation (rt : Runtime) (run : PatchRun) (operation : PatchOperation) :
    Except ScimFailure PatchRun :=
  let path := strip (operation.path.getD "")
  let pathNorm := rt.text.lower path
  if path = "" then
    match operation.op, operation.value with
    | .add, .obj fields | .replace, .obj fields => run.patchFields rt fields
    | _, _ => .error (invalidPath "Patch path is required")
  else if pathNorm = "displayname" then
    match operation.op, operation.value with
    | .remove, _ => .error (invalidValue "displayName cannot be removed")
    | _, .str name => run.patchDisplayName rt name
    | _, _ => .error (invalidValue "displayName must be string")
  else if pathNorm = "externalid" then
    match operation.op, operation.value with
    | .remove, _ => .ok { run with
        group := { run.group with externalId := none, externalIdNorm := none } }
    | _, .str externalId => .ok (run.patchExternalId rt externalId)
    | _, _ => .error (invalidValue "externalId must be string")
  else if pathNorm = "members" ∨ pathNorm.startsWith "members[" then
    run.patchMembers rt operation.op path operation.value
  else .error (invalidPath "Unsupported patch path")

/-- `apply_group_patch_operations`. -/
def applyOperations (rt : Runtime) (run : PatchRun) :
    List PatchOperation → Except ScimFailure PatchRun
  | [] => .ok run
  | operation :: rest => do
    let run ← run.applyOperation rt operation
    run.applyOperations rt rest

end PatchRun

def Tenant.loadGroup (t : Tenant) (groupId : String) : Except ScimFailure ScimGroup :=
  match (parseUuid groupId).bind t.findGroup with
  | some group => .ok group
  | none => .error notFound

structure GroupBody where
  displayName : String
  externalId : Option String := none
  members : Option (List Ref) := none

/-- `create_group_route` of a group without members. -/
def createGroup (rt : Runtime) (t : Tenant) (id : Uuid) (body : GroupBody) :
    Except ScimFailure Tenant :=
  let display := strip body.displayName
  let group := (({ id, displayName := display, displayNameNorm := "" } : ScimGroup).rename rt
    display).setExternalId rt ((body.externalId.filter (· ≠ "")).map strip)
  if display = "" then .error (invalidValue "displayName is required")
  else if Tenant.UniqueNames (t.groups ++ [group]) ∧ (t.findGroup id).isNone then
    .ok { t with groups := t.groups ++ [group] }
  else .error (.scim 409 "Group already exists" (some "uniqueness"))

/-- `put_group_route`; the whole replacement runs without autoflush. -/
def putGroup (rt : Runtime) (t : Tenant) (groupId : String) (body : GroupBody) :
    Except ScimFailure Tenant := do
  let loaded ← t.loadGroup groupId
  if strip body.displayName = "" then throw (invalidValue "displayName is required")
  let group := (loaded.rename rt (strip body.displayName)).setExternalId rt
    ((body.externalId.filter (· ≠ "")).map strip)
  let session : Session := { tenant := t, group := some group, autoflush := false }
  match body.members with
  | none => session.commit
  | some refs => do
    let (session,impacted) ← session.setGroupMemberships group.id (t.resolveMemberUserIds refs)
    let session ← session.recomputeEntitlements rt impacted
    session.commit

/-- `patch_group_route`: the operations run without autoflush, the recomputation with it. -/
def patchGroup (rt : Runtime) (t : Tenant) (groupId : String) (operations : List PatchOperation) :
    Except ScimFailure Tenant := do
  let loaded ← t.loadGroup groupId
  let run ← PatchRun.applyOperations rt
    { session := { tenant := t, autoflush := false }, group := loaded } operations
  let session : Session := { run.current with autoflush := true }
  if run.memberAction then do
    let session ← session.recomputeEntitlements rt run.impacted
    session.commit
  else session.commit

/-- `delete_group_route`; the memberships go with the group. -/
def deleteGroup (rt : Runtime) (t : Tenant) (groupId : String) : Except ScimFailure Tenant := do
  let loaded ← t.loadGroup groupId
  let impacted := t.memberIds loaded.id
  let session : Session := { tenant := { t with
    groups := t.groups.filter (·.id ≠ loaded.id)
    members := t.members.filter (·.1 ≠ loaded.id) } }
  let session ← session.recomputeEntitlements rt impacted
  session.commit

/-- `get_or_create_scim_group`; `fresh` is the id of a new row. -/
def getOrCreateScimGroup (rt : Runtime) (t : Tenant) (displayName : String) (fresh : Uuid) :
    Except ScimFailure (Tenant × ScimGroup) :=
  let display := strip displayName
  let norm := rt.normalize display
  if display = "" then .error (invalidValue "displayName is required")
  else match t.groups.find? (·.displayNameNorm = norm) with
    | some existing =>
      let renamed := { existing with displayName := display }
      .ok ({ t with groups := t.groups.map fun old => if old.id = existing.id then renamed else old },
        renamed)
    | none =>
      let group : ScimGroup := { id := fresh, displayName := display, displayNameNorm := norm }
      if (t.findGroup fresh).isNone then .ok ({ t with groups := t.groups ++ [group] },group)
      else .error .integrity

def resolveGroupRef (rt : Runtime) (t : Tenant) (ref : Ref) (fresh : Uuid) :
    Except ScimFailure (Tenant × Option ScimGroup) :=
  let display := strip (ref.display.getD "")
  let rawValue := strip (ref.value.getD "")
  if display = "" ∧ rawValue = "" then .ok (t,none)
  else
    let byName := fun name => (getOrCreateScimGroup rt t name fresh).map fun found =>
      (found.1,some found.2)
    if display ≠ "" then byName display
    else match (parseUuid rawValue).bind t.findGroup with
      | some group => .ok (t,some group)
      | none => byName rawValue

/-- `resolve_groups_from_refs`: the groups of the references, one new id for each. -/
def resolveGroupsFromRefs (rt : Runtime) :
    Tenant → List (Ref × Uuid) → Except ScimFailure (Tenant × List ScimGroup)
  | t, [] => .ok (t,[])
  | t, (ref,fresh) :: rest => do
    let (t,group) ← resolveGroupRef rt t ref fresh
    let (t,groups) ← resolveGroupsFromRefs rt t rest
    return (t,group.toList ++ groups)

/-- `apply_scim_group_mappings` with a list of groups, up to the commit of its request. -/
def applyScimGroupMappings (rt : Runtime) (t : Tenant) (userId : Uuid) (refs : List (Ref × Uuid))
    (forCreate : Bool) : Except ScimFailure Tenant :=
  match t.users userId with
  | none => .error notFound
  | some user =>
    if isOwner rt user then .ok t
    else do
      let (t,groups) ← resolveGroupsFromRefs rt t refs
      let groupIds := (groups.map (·.id)).toFinset
      let members := t.members.filter (·.2 ≠ userId) ∪ groupIds.image fun group => (group,userId)
      let entitled := user.entitled rt (groups.map (·.displayNameNorm)) t.mappings
      let persona := if forCreate = true ∧ entitled.persona = "" then "engineering"
        else entitled.persona
      return { t with
        members
        users := Function.update t.users userId (some { entitled with persona }) }

def validateMapping (rt : Runtime) (mapping : Mapping) : Except ScimFailure Mapping :=
  let group := rt.normalize mapping.group
  let role := rt.normalize mapping.role
  let persona := (mapping.persona.map rt.normalize).filter (· ≠ "")
  if group = "" ∨ role ∉ ["admin","member"] ∨ persona.any (· ∉ userPersonas) then
    .error .validation
  else .ok { group, role, persona }

def validateMappings (rt : Runtime) : List Mapping → Except ScimFailure (List Mapping)
  | [] => .ok []
  | mapping :: rest => do
    let mapping ← validateMapping rt mapping
    let mappings ← validateMappings rt rest
    return mapping :: mappings

/-- `update_identity_settings`, as far as the mappings go. -/
def updateGroupMappings (rt : Runtime) (t : Tenant) (payload : List Mapping) :
    Except ScimFailure Tenant := do
  let mappings ← validateMappings rt payload
  if (mappings.map (·.group)).Nodup then .ok { t with mappings }
  else .error .validation

inductive Request where
  | createGroup (id : Uuid) (body : GroupBody)
  | putGroup (groupId : String) (body : GroupBody)
  | patchGroup (groupId : String) (operations : List PatchOperation)
  | deleteGroup (groupId : String)
  | assignGroups (userId : Uuid) (refs : List (Ref × Uuid)) (forCreate : Bool)
  | updateGroupMappings (payload : List Mapping)

def handle (rt : Runtime) (t : Tenant) : Request → Except ScimFailure Tenant
  | .createGroup id body => createGroup rt t id body
  | .putGroup groupId body => putGroup rt t groupId body
  | .patchGroup groupId operations => patchGroup rt t groupId operations
  | .deleteGroup groupId => deleteGroup rt t groupId
  | .assignGroups userId refs forCreate => applyScimGroupMappings rt t userId refs forCreate
  | .updateGroupMappings payload => updateGroupMappings rt t payload

def exec (rt : Runtime) (t : Tenant) (request : Request) : Tenant × Except ScimFailure Unit :=
  match handle rt t request with
  | .ok next => (next,.ok ())
  | .error failure => (t,.error failure)

end Valdrics.Scim

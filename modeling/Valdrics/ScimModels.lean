import Mathlib.Data.Finset.Image
import Mathlib.Data.Multiset.FinsetOps
import Valdrics.ApprovalToken
import Valdrics.JsonValues

/-! A tenant as the identity provider manages it: users, groups with their members and the
mapping of groups to roles, and the session of a request, whose inserted memberships and
renamed group its own queries see only after a flush. -/
namespace Valdrics.Scim

open Enforcement (Uuid Json)
open Enforcement.ApprovalToken (parseUuid)
open PythonText

/-- Text as the deployment's Python has it; `str` is for values that are no text. -/
structure Runtime where
  text : Lowercase
  str : Json → String

/-- `normalize_scim_group`. -/
def Runtime.normalize (rt : Runtime) (value : String) : String := rt.text.lower (strip value)

/-- `str(value or "")`. -/
def Runtime.textOf (rt : Runtime) (value : Json) : String :=
  if JsonValue.truthy value then
    match value with
    | .str s => s
    | other => rt.str other
  else ""

structure ScimGroup where
  id : Uuid
  displayName : String
  displayNameNorm : String
  externalId : Option String := none
  externalIdNorm : Option String := none
  deriving DecidableEq

structure User where
  role : String
  persona : String := "engineering"
  deriving DecidableEq

/-- An entry of `scim_group_mappings`. -/
structure Mapping where
  group : String
  role : String
  persona : Option String := none
  deriving DecidableEq

structure Tenant where
  groups : List ScimGroup := []
  members : Finset (Uuid × Uuid) := ∅
  users : Uuid → Option User
  mappings : List Mapping := []

inductive ScimFailure where
  | scim (status : Nat) (detail : String) (scimType : Option String)
  | integrity
  | validation
  deriving DecidableEq

def notFound : ScimFailure := .scim 404 "Resource not found" none
def invalidValue (detail : String) : ScimFailure := .scim 400 detail (some "invalidValue")
def invalidPath (detail : String) : ScimFailure := .scim 400 detail (some "invalidPath")

def userPersonas : List String := ["engineering","finance","platform","leadership"]

/-- One mapping of the loop of `resolve_entitlements_from_groups`. -/
def resolveMapping (rt : Runtime) (groupNames : List String)
    (desired : Option String × Option String) (mapping : Mapping) :
    Option String × Option String :=
  let group := rt.normalize mapping.group
  if group = "" ∨ group ∉ groupNames then desired
  else
    let role := rt.normalize mapping.role
    let persona := rt.normalize (mapping.persona.getD "None")
    (if role = "admin" then some "admin"
      else if desired.1 = none ∧ role = "member" then some "member"
      else desired.1,
      if desired.2 = none ∧ persona ∈ userPersonas then some persona else desired.2)

def resolveEntitlementsFromGroups (rt : Runtime) (groupNames : List String)
    (mappings : List Mapping) : Option String × Option String :=
  mappings.foldl (resolveMapping rt groupNames) (none,none)

def isOwner (rt : Runtime) (user : User) : Bool := rt.normalize user.role = "owner"

def User.entitled (user : User) (rt : Runtime) (groupNames : List String)
    (mappings : List Mapping) : User :=
  let desired := resolveEntitlementsFromGroups rt groupNames mappings
  { role := desired.1.getD "member", persona := desired.2.getD user.persona }

namespace Tenant

/-- `load_group_member_user_ids`. -/
def memberIds (t : Tenant) (group : Uuid) : Finset Uuid :=
  (t.members.filter (·.1 = group)).image (·.2)

/-- `load_user_group_names_from_memberships`. -/
def userGroupNames (t : Tenant) (uid : Uuid) : List String :=
  (t.groups.filter fun group => (group.id,uid) ∈ t.members ∧ group.displayNameNorm ≠ "").map
    (·.displayNameNorm)

def findGroup (t : Tenant) (id : Uuid) : Option ScimGroup := t.groups.find? (·.id = id)

def UniqueNames (groups : List ScimGroup) : Prop :=
  (groups.map (·.displayNameNorm)).Nodup ∧ (groups.filterMap (·.externalIdNorm)).Nodup

instance (groups : List ScimGroup) : Decidable (UniqueNames groups) :=
  inferInstanceAs (Decidable (_ ∧ _))

end Tenant

/-- The rows as the queries of the transaction see them, the memberships that are not flushed
yet, and the group that the request has loaded, with its changes. -/
structure Session where
  tenant : Tenant
  pending : Multiset (Uuid × Uuid) := 0
  group : Option ScimGroup := none
  autoflush : Bool := true

namespace Session

def writtenGroups (s : Session) : List ScimGroup :=
  match s.group with
  | none => s.tenant.groups
  | some group => s.tenant.groups.map fun old => if old.id = group.id then group else old

def flush (s : Session) : Except ScimFailure Session :=
  if Tenant.UniqueNames s.writtenGroups ∧ (s.tenant.members.val + s.pending).Nodup then
    .ok { s with
      tenant := { s.tenant with
        groups := s.writtenGroups
        members := s.tenant.members ∪ s.pending.toFinset }
      pending := 0 }
  else .error .integrity

def beforeQuery (s : Session) : Except ScimFailure Session :=
  if s.autoflush then s.flush else .ok s

/-- `set_group_memberships`: the rows that go are deleted at once, the new ones are added to the
session. It returns the users who were or are members. -/
def setGroupMemberships (s : Session) (group : Uuid) (memberUserIds : Finset Uuid) :
    Except ScimFailure (Session × Finset Uuid) := do
  let s ← s.beforeQuery
  let existing := s.tenant.memberIds group
  let toRemove := existing \ memberUserIds
  let members := s.tenant.members.filter fun row => ¬(row.1 = group ∧ row.2 ∈ toRemove)
  let added := (memberUserIds \ existing).val.map fun uid => (group,uid)
  return ({ s with
    tenant := { s.tenant with members }
    pending := s.pending + added },existing ∪ memberUserIds)

/-- `recompute_entitlements_for_users`; the roles of the users are independent. -/
def recomputeEntitlements (rt : Runtime) (s : Session) (userIds : Finset Uuid) :
    Except ScimFailure Session :=
  if userIds = ∅ then .ok s
  else do
    let s ← s.beforeQuery
    return { s with tenant := { s.tenant with
      users := fun uid =>
        if uid ∈ userIds then (s.tenant.users uid).map fun user =>
          if isOwner rt user then user
          else user.entitled rt (s.tenant.userGroupNames uid) s.tenant.mappings
        else s.tenant.users uid } }

def commit (s : Session) : Except ScimFailure Tenant := s.flush.map (·.tenant)

end Session

def ScimGroup.rename (group : ScimGroup) (rt : Runtime) (name : String) : ScimGroup :=
  { group with displayName := name, displayNameNorm := rt.normalize name }

def ScimGroup.setExternalId (group : ScimGroup) (rt : Runtime) (externalId : Option String) :
    ScimGroup :=
  { group with
    externalId
    externalIdNorm := (some (rt.normalize (externalId.getD ""))).filter (· ≠ "") }

end Valdrics.Scim

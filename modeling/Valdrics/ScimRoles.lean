import Valdrics.ScimRequests

/-! Whether the roles of the users follow their stored group memberships. A role is written when
a request recomputes it; the memberships, the names and the mappings it is computed from are
written by requests of three kinds. -/
namespace Valdrics.Scim

open Enforcement (Uuid Json)
open PythonText

def roleWith (rt : Runtime) (mappings : List Mapping) (groupNames : List String) : String :=
  (resolveEntitlementsFromGroups rt groupNames mappings).1.getD "member"

def AdminMapped (rt : Runtime) (t : Tenant) (uid : Uuid) : Prop :=
  ∃ mapping ∈ t.mappings, rt.normalize mapping.group ∈ t.userGroupNames uid ∧
    rt.normalize mapping.role = "admin"

def notePast (past : List Tenant) (t : Tenant) (_ : Request) (_ : Tenant × Except ScimFailure Unit) :
    List Tenant := past ++ [t]

/-- The roles follow the memberships: of a user with groups the role is the resolved one, and a
user whose last administrator's membership is gone is no administrator. -/
structure RolesFollow (rt : Runtime) (s : Tenant × List Tenant) : Prop where
  role : ∀ uid user, s.1.users uid = some user → isOwner rt user = false →
    (∃ group, (group,uid) ∈ s.1.members) →
    user.role = roleWith rt s.1.mappings (s.1.userGroupNames uid)
  admin : ∀ uid user, s.1.users uid = some user → isOwner rt user = false →
    (∃ past ∈ s.2, AdminMapped rt past uid) → ¬AdminMapped rt s.1 uid → user.role ≠ "admin"

def Tenant.otherNames (t : Tenant) (group uid : Uuid) : List String :=
  (t.groups.filter fun other => other.id ≠ group ∧ (other.id,uid) ∈ t.members).map
    (·.displayNameNorm)

/-- The names of the user's groups as the database has them before the request: the group under
its old name, for those who were its members. -/
def Tenant.namesBefore (t : Tenant) (group : ScimGroup) (uid : Uuid) : List String :=
  t.otherNames group.id uid ++
    (if (group.id,uid) ∈ t.members then [group.displayNameNorm] else [])

def Tenant.namesAfter (t : Tenant) (group uid : Uuid) (name : String) : List String :=
  t.otherNames group uid ++ [name]

def Tenant.membersAfter (t : Tenant) (group : Uuid) (body : GroupBody) : Finset Uuid :=
  match body.members with
  | none => t.memberIds group
  | some refs => t.resolveMemberUserIds refs

def PatchOperation.touchesMembers (rt : Runtime) (operation : PatchOperation) : Bool :=
  let path := strip (operation.path.getD "")
  if path = "" then
    match operation.value with
    | .obj fields => (fields.lookup "members").isSome
    | _ => false
  else rt.text.lower path = "members" || (rt.text.lower path).startsWith "members["

def PatchOperation.displayName (rt : Runtime) (operation : PatchOperation) : Option String :=
  let path := strip (operation.path.getD "")
  if path = "" then
    match operation.value with
    | .obj fields => (fields.lookup "displayName").map fun name => strip (rt.textOf name)
    | _ => none
  else if rt.text.lower path = "displayname" then
    match operation.value with
    | .str name => some (strip name)
    | _ => none
  else none

/-- A request that leaves a role to be recomputed changes none: for each member that it leaves
the group or that has groups, the role is the same before and after. -/
structure ChangesNoRole (rt : Runtime) (t : Tenant) (request : Request) : Prop where
  put : ∀ groupId body group uid user, request = .putGroup groupId body →
    t.loadGroup groupId = .ok group → uid ∈ t.membersAfter group.id body →
    t.users uid = some user → isOwner rt user = false →
    roleWith rt t.mappings (t.namesBefore group uid) =
      roleWith rt t.mappings (t.namesAfter group.id uid (rt.normalize (strip body.displayName)))
  patch : ∀ groupId operations group name uid user, request = .patchGroup groupId operations →
    t.loadGroup groupId = .ok group →
    operations.any (·.touchesMembers rt) = false →
    (operations.filterMap (·.displayName rt)).getLast? = some name → uid ∈ t.memberIds group.id →
    t.users uid = some user → isOwner rt user = false →
    roleWith rt t.mappings (t.namesBefore group uid) =
      roleWith rt t.mappings (t.namesAfter group.id uid (rt.normalize name))
  mappings : ∀ payload mappings uid user, request = .updateGroupMappings payload →
    validateMappings rt payload = .ok mappings → (∃ group, (group,uid) ∈ t.members) →
    t.users uid = some user → isOwner rt user = false →
    roleWith rt t.mappings (t.userGroupNames uid) = roleWith rt mappings (t.userGroupNames uid)

variable {rt : Runtime} {t next : Tenant} {names other : List String} {mappings : List Mapping}
  {uid : Uuid}

theorem resolve_congr (same : ∀ name, name ≠ "" → (name ∈ names ↔ name ∈ other)) :
    resolveEntitlementsFromGroups rt names mappings =
      resolveEntitlementsFromGroups rt other mappings := by
  have step : resolveMapping rt names = resolveMapping rt other := by
    funext desired mapping
    simp only [resolveMapping]
    by_cases blank : rt.normalize mapping.group = ""
    · simp [blank]
    · simp [blank,same _ blank]
  simp only [resolveEntitlementsFromGroups,step]

theorem roleWith_congr (same : ∀ name, name ≠ "" → (name ∈ names ↔ name ∈ other)) :
    roleWith rt mappings names = roleWith rt mappings other := by
  simp only [roleWith,resolve_congr same]

theorem resolveMapping_admin_iff (desired : Option String × Option String) (mapping : Mapping) :
    (resolveMapping rt names desired mapping).1 = some "admin" ↔
      desired.1 = some "admin" ∨ (rt.normalize mapping.group ≠ "" ∧
        rt.normalize mapping.group ∈ names ∧ rt.normalize mapping.role = "admin") := by
  simp only [resolveMapping]
  by_cases skipped : rt.normalize mapping.group = "" ∨ rt.normalize mapping.group ∉ names
  · have never : ¬(rt.normalize mapping.group ≠ "" ∧ rt.normalize mapping.group ∈ names ∧
        rt.normalize mapping.role = "admin") := by
      rintro ⟨named,listed,_⟩
      exact absurd listed (skipped.resolve_left named)
    simp only [if_pos skipped,never,or_false]
  · rw [if_neg skipped]
    obtain ⟨named,listed⟩ := not_or.mp skipped
    by_cases admin : rt.normalize mapping.role = "admin"
    · simp [admin,named,not_not.mp listed]
    · by_cases member : desired.1 = none ∧ rt.normalize mapping.role = "member"
      · simp [member]
      · simp [admin,member]

theorem foldl_admin_iff (desired : Option String × Option String) :
    (mappings.foldl (resolveMapping rt names) desired).1 = some "admin" ↔
      desired.1 = some "admin" ∨ ∃ mapping ∈ mappings, rt.normalize mapping.group ≠ "" ∧
        rt.normalize mapping.group ∈ names ∧ rt.normalize mapping.role = "admin" := by
  induction mappings generalizing desired with
  | nil => simp
  | cons mapping rest ih =>
    rw [List.foldl_cons,ih,resolveMapping_admin_iff]
    simp only [List.mem_cons,exists_eq_or_imp,or_assoc]

theorem roleWith_admin_iff : roleWith rt mappings names = "admin" ↔
    ∃ mapping ∈ mappings, rt.normalize mapping.group ≠ "" ∧
      rt.normalize mapping.group ∈ names ∧ rt.normalize mapping.role = "admin" := by
  have folded : (mappings.foldl (resolveMapping rt names) (none,none)).1 = some "admin" ↔ _ :=
    foldl_admin_iff _
  simp only [reduceCtorEq,false_or] at folded
  rw [← folded]
  simp only [roleWith,resolveEntitlementsFromGroups]
  cases (mappings.foldl (resolveMapping rt names) (none,none)).1 with
  | none => simp
  | some role => simp

theorem mem_userGroupNames {name : String} : name ∈ t.userGroupNames uid ↔
    ∃ group ∈ t.groups, (group.id,uid) ∈ t.members ∧ group.displayNameNorm = name ∧ name ≠ "" := by
  simp only [Tenant.userGroupNames,List.mem_map,List.mem_filter,decide_eq_true_eq]
  constructor
  · rintro ⟨group,⟨listed,member,named⟩,rfl⟩
    exact ⟨group,listed,member,rfl,named⟩
  · rintro ⟨group,listed,member,rfl,named⟩
    exact ⟨group,⟨listed,member,named⟩,rfl⟩

theorem roleWith_userGroupNames_admin_iff :
    roleWith rt t.mappings (t.userGroupNames uid) = "admin" ↔ AdminMapped rt t uid := by
  rw [roleWith_admin_iff]
  constructor
  · rintro ⟨mapping,listed,_,named,admin⟩
    exact ⟨mapping,listed,named,admin⟩
  · rintro ⟨mapping,listed,named,admin⟩
    obtain ⟨_,_,_,_,blank⟩ := mem_userGroupNames.mp named
    exact ⟨mapping,listed,blank,named,admin⟩

theorem mem_otherNames {group : Uuid} {name : String} : name ∈ t.otherNames group uid ↔
    ∃ other ∈ t.groups, other.id ≠ group ∧ (other.id,uid) ∈ t.members ∧
      other.displayNameNorm = name := by
  simp only [Tenant.otherNames,List.mem_map,List.mem_filter,decide_eq_true_eq]
  constructor
  · rintro ⟨other,⟨listed,apart,member⟩,rfl⟩
    exact ⟨other,listed,apart,member,rfl⟩
  · rintro ⟨other,listed,apart,member,rfl⟩
    exact ⟨other,⟨listed,apart,member⟩,rfl⟩

def OwnIds (t : Tenant) : Prop := (t.groups.map (·.id)).Nodup

structure Sound (t : Tenant) : Prop where
  own : OwnIds t
  linked : ∀ row ∈ t.members, ∃ group ∈ t.groups, group.id = row.1

theorem OwnIds.eq {group other : ScimGroup} (own : OwnIds t) (listed : group ∈ t.groups)
    (otherListed : other ∈ t.groups) (same : other.id = group.id) : other = group :=
  List.inj_on_of_nodup_map own otherListed listed same

theorem loadGroup_mem {groupId : String} {group : ScimGroup}
    (loaded : t.loadGroup groupId = .ok group) : group ∈ t.groups := by
  simp only [Tenant.loadGroup] at loaded
  split at loaded
  next found same =>
    cases loaded
    obtain ⟨id,_,finds⟩ := Option.bind_eq_some_iff.mp same
    exact List.mem_of_find?_eq_some finds
  · contradiction

theorem roleWith_namesBefore {group : ScimGroup} (own : OwnIds t) (listed : group ∈ t.groups) :
    roleWith rt mappings (t.userGroupNames uid) = roleWith rt mappings (t.namesBefore group uid) := by
  apply roleWith_congr
  intro name named
  simp only [Tenant.namesBefore,List.mem_append,mem_userGroupNames,mem_otherNames]
  constructor
  · rintro ⟨other,otherListed,member,same,_⟩
    by_cases apart : other.id = group.id
    · cases own.eq listed otherListed apart
      exact .inr (by simp [member,same])
    · exact .inl ⟨other,otherListed,apart,member,same⟩
  · rintro (⟨other,otherListed,_,member,same⟩ | inGroup)
    · exact ⟨other,otherListed,member,same,named⟩
    · split_ifs at inGroup with member
      · exact ⟨group,listed,member,(List.mem_singleton.mp inGroup).symm,named⟩
      · contradiction

def replaceGroup (groups : List ScimGroup) (group : ScimGroup) : List ScimGroup :=
  groups.map fun old => if old.id = group.id then group else old

theorem mem_replaceGroup {groups : List ScimGroup} {group other : ScimGroup}
    (listed : ∃ old ∈ groups, old.id = group.id) : other ∈ replaceGroup groups group ↔
      other = group ∨ (other ∈ groups ∧ other.id ≠ group.id) := by
  simp only [replaceGroup,List.mem_map]
  constructor
  · rintro ⟨old,oldListed,rfl⟩
    split_ifs with same
    · exact .inl rfl
    · exact .inr ⟨oldListed,same⟩
  · rintro (rfl | ⟨otherListed,apart⟩)
    · obtain ⟨old,oldListed,same⟩ := listed
      exact ⟨old,oldListed,if_pos same⟩
    · exact ⟨other,otherListed,if_neg apart⟩

def SameElsewhere (t next : Tenant) (group uid : Uuid) : Prop :=
  ∀ other, other ≠ group → ((other,uid) ∈ next.members ↔ (other,uid) ∈ t.members)

theorem mem_names_replaced {group : ScimGroup} {name : String} (named : name ≠ "")
    (listed : ∃ old ∈ t.groups, old.id = group.id)
    (groups : next.groups = replaceGroup t.groups group)
    (same : SameElsewhere t next group.id uid) : name ∈ next.userGroupNames uid ↔
      name ∈ t.otherNames group.id uid ∨
        ((group.id,uid) ∈ next.members ∧ group.displayNameNorm = name) := by
  simp only [mem_userGroupNames,mem_otherNames,groups,mem_replaceGroup listed]
  constructor
  · rintro ⟨other,rfl | ⟨otherListed,apart⟩,member,is,_⟩
    · exact .inr ⟨member,is⟩
    · exact .inl ⟨other,otherListed,apart,(same _ apart).mp member,is⟩
  · rintro (⟨other,otherListed,apart,member,is⟩ | ⟨member,is⟩)
    · exact ⟨other,.inr ⟨otherListed,apart⟩,(same _ apart).mpr member,is,named⟩
    · exact ⟨group,.inl rfl,member,is,named⟩

theorem roleWith_namesAfter {group : ScimGroup} (listed : ∃ old ∈ t.groups, old.id = group.id)
    (groups : next.groups = replaceGroup t.groups group)
    (same : SameElsewhere t next group.id uid) (member : (group.id,uid) ∈ next.members) :
    roleWith rt mappings (next.userGroupNames uid) =
      roleWith rt mappings (t.namesAfter group.id uid group.displayNameNorm) := by
  apply roleWith_congr
  intro name named
  rw [mem_names_replaced named listed groups same]
  simp [Tenant.namesAfter,member,eq_comm]

def Settled (rt : Runtime) (next : Tenant) (uid : Uuid) : Prop :=
  ∀ user, next.users uid = some user → isOwner rt user = false →
    user.role = roleWith rt next.mappings (next.userGroupNames uid)

structure Untouched (rt : Runtime) (t next : Tenant) (uid : Uuid) : Prop where
  user : next.users uid = t.users uid
  members : (∃ group, (group,uid) ∈ next.members) → ∃ group, (group,uid) ∈ t.members
  role : ∀ user, t.users uid = some user → isOwner rt user = false →
    roleWith rt next.mappings (next.userGroupNames uid) =
      roleWith rt t.mappings (t.userGroupNames uid)

theorem RolesFollow.step {past : List Tenant} (follow : RolesFollow rt (t,past))
    (each : ∀ uid, Settled rt next uid ∨ Untouched rt t next uid) :
    RolesFollow rt (next,past ++ [t]) := by
  constructor
  · intro uid user stored owner joined
    rcases each uid with settled | untouched
    · exact settled user stored owner
    · rw [untouched.user] at stored
      rw [follow.role uid user stored owner (untouched.members joined)]
      exact (untouched.role user stored owner).symm
  · intro uid user stored owner mapped gone
    rcases each uid with settled | untouched
    · rw [settled user stored owner]
      exact fun admin => gone (roleWith_userGroupNames_admin_iff.mp admin)
    · rw [untouched.user] at stored
      have same : AdminMapped rt next uid ↔ AdminMapped rt t uid := by
        rw [← roleWith_userGroupNames_admin_iff,← roleWith_userGroupNames_admin_iff,
          untouched.role user stored owner]
      apply follow.admin uid user stored owner _ (fun mapped => gone (same.mpr mapped))
      obtain ⟨before,listed,mapped⟩ := mapped
      rcases List.mem_append.mp listed with listed | now
      · exact ⟨before,listed,mapped⟩
      · cases List.mem_singleton.mp now
        exact absurd (same.mpr mapped) gone

def recomputed (rt : Runtime) (names : List String) (mappings : List Mapping) (user : User) : User :=
  if isOwner rt user then user else user.entitled rt names mappings

theorem foldl_role (desired : Option String × Option String)
    (known : desired.1 = none ∨ desired.1 = some "admin" ∨ desired.1 = some "member") :
    (mappings.foldl (resolveMapping rt names) desired).1 ∈ [none,some "admin",some "member"] := by
  induction mappings generalizing desired with
  | nil => simpa using known
  | cons mapping rest ih =>
    apply ih
    simp only [resolveMapping]
    split
    · exact known
    · by_cases admin : rt.normalize mapping.role = "admin"
      · simp [admin]
      · by_cases member : desired.1 = none ∧ rt.normalize mapping.role = "member"
        · simp [member]
        · simpa [admin,member] using known

theorem isOwner_entitled {user : User} : isOwner rt (user.entitled rt names mappings) = false := by
  have known : (mappings.foldl (resolveMapping rt names) (none,none)).1 ∈
      [none,some "admin",some "member"] := foldl_role _ (.inl rfl)
  have keeps : ∀ s : String, strip s = s → PythonText.IsAscii s → lowerAscii s ≠ "owner" →
      rt.normalize s ≠ "owner" := by
    intro s stripped ascii apart
    rw [Runtime.normalize,stripped,rt.text.ascii s ascii]
    exact apart
  have admin := keeps "admin" (by decide) (by decide) (by decide)
  have member := keeps "member" (by decide) (by decide) (by decide)
  apply decide_eq_false
  simp only [User.entitled,resolveEntitlementsFromGroups]
  simp only [List.mem_cons,List.not_mem_nil,or_false] at known
  rcases known with found | found | found
  · rw [found]
    exact member
  · rw [found]
    exact admin
  · rw [found]
    exact member

theorem settled_of_recomputed
    (users : next.users uid = (t.users uid).map (recomputed rt names next.mappings))
    (same : ∀ user, t.users uid = some user → isOwner rt user = false →
      roleWith rt next.mappings names = roleWith rt next.mappings (next.userGroupNames uid)) :
    Settled rt next uid := by
  intro user stored owner
  rw [users] at stored
  obtain ⟨old,oldStored,rfl⟩ := Option.map_eq_some_iff.mp stored
  by_cases owned : isOwner rt old
  · simp only [recomputed,owned,if_true] at owner
    contradiction
  · simp only [recomputed,owned]
    exact same old oldStored (by simpa using owned)

theorem RolesFollow.of_recomputed {past : List Tenant} (follow : RolesFollow rt (next,past))
    (users : next.users uid = (t.users uid).map (recomputed rt names next.mappings))
    {user : User} (stored : t.users uid = some user) (owner : isOwner rt user = false)
    (joined : ∃ group, (group,uid) ∈ next.members) :
    roleWith rt next.mappings names = roleWith rt next.mappings (next.userGroupNames uid) := by
  rw [stored] at users
  have role := follow.role uid (user.entitled rt names next.mappings)
    (by simp [users,recomputed,owner]) isOwner_entitled joined
  exact role

end Valdrics.Scim

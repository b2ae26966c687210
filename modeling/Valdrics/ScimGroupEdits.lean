import Valdrics.ScimRoles

/-! What the replacement and the patching of a group leave in the tables. A patch collects its
changes first and recomputes after them; a replacement recomputes before they are written. -/
namespace Valdrics.Scim

open Enforcement (Uuid Json bind_eq_ok)
open PythonText

variable {rt : Runtime} {t next : Tenant} {uid : Uuid} {s written : Session}
  {run after : PatchRun} {group : Uuid}

structure Rewritten (t next : Tenant) (group : ScimGroup) (members : Finset Uuid) : Prop where
  listed : ∃ old ∈ t.groups, old.id = group.id
  groups : next.groups = replaceGroup t.groups group
  mappings : next.mappings = t.mappings
  members : ∀ uid, (group.id,uid) ∈ next.members ↔ uid ∈ members
  elsewhere : ∀ uid, SameElsewhere t next group.id uid

theorem mem_memberIds : uid ∈ t.memberIds group ↔ (group,uid) ∈ t.members := by
  simp only [Tenant.memberIds,Finset.mem_image,Finset.mem_filter]
  constructor
  · rintro ⟨⟨other,_⟩,⟨listed,rfl⟩,rfl⟩
    exact listed
  · intro listed
    exact ⟨(group,uid),⟨listed,rfl⟩,rfl⟩

theorem replaceGroup_ids (groups : List ScimGroup) (group : ScimGroup) :
    (replaceGroup groups group).map (·.id) = groups.map (·.id) := by
  simp only [replaceGroup,List.map_map]
  apply List.map_congr_left
  intro old _
  by_cases same : old.id = group.id <;> simp [same]

theorem replaceGroup_twice (groups : List ScimGroup) (group : ScimGroup) :
    replaceGroup (replaceGroup groups group) group = replaceGroup groups group := by
  simp only [replaceGroup,List.map_map]
  apply List.map_congr_left
  intro old _
  by_cases same : old.id = group.id <;> simp [same]

section Rewriting

variable {group : ScimGroup} {members : Finset Uuid}

theorem Rewritten.sound (rewritten : Rewritten t next group members) (sound : Sound t) :
    Sound next := by
  constructor
  · simp only [OwnIds,rewritten.groups,replaceGroup_ids]
    exact sound.own
  · rintro ⟨other,uid⟩ row
    simp only [rewritten.groups]
    by_cases same : other = group.id
    · exact ⟨group,(mem_replaceGroup rewritten.listed).mpr (.inl rfl),same.symm⟩
    · obtain ⟨old,listed,is⟩ := sound.linked _ ((rewritten.elsewhere uid other same).mp row)
      exact ⟨old,(mem_replaceGroup rewritten.listed).mpr (.inr ⟨listed,by rwa [is]⟩),is⟩

theorem Rewritten.apart (rewritten : Rewritten t next group members) {old : ScimGroup}
    (sound : Sound t) (listed : old ∈ t.groups) (same : old.id = group.id)
    (never : uid ∉ t.memberIds group.id) (none : uid ∉ members) :
    roleWith rt next.mappings (next.userGroupNames uid) =
      roleWith rt t.mappings (t.userGroupNames uid) := by
  rw [rewritten.mappings,roleWith_namesBefore sound.own listed]
  rw [mem_memberIds] at never
  apply roleWith_congr
  intro name named
  rw [mem_names_replaced named rewritten.listed rewritten.groups (rewritten.elsewhere uid)]
  simp [Tenant.namesBefore,same,never,rewritten.members,none]

theorem Rewritten.ofMember (rewritten : Rewritten t next group members) (member : uid ∈ members) :
    roleWith rt next.mappings (next.userGroupNames uid) =
      roleWith rt t.mappings (t.namesAfter group.id uid group.displayNameNorm) := by
  rw [rewritten.mappings]
  exact roleWith_namesAfter rewritten.listed rewritten.groups (rewritten.elsewhere uid)
    ((rewritten.members uid).mpr member)

theorem Rewritten.left (rewritten : Rewritten t next group members) (none : uid ∉ members) :
    roleWith rt next.mappings (next.userGroupNames uid) =
      roleWith rt t.mappings (t.otherNames group.id uid) := by
  rw [rewritten.mappings]
  apply roleWith_congr
  intro name named
  rw [mem_names_replaced named rewritten.listed rewritten.groups (rewritten.elsewhere uid)]
  simp [rewritten.members,none]

end Rewriting

theorem flush_ok (flushes : s.flush = .ok written) :
    written = { s with
      tenant := { s.tenant with
        groups := s.writtenGroups
        members := s.tenant.members ∪ s.pending.toFinset }
      pending := 0 } := by
  simp only [Session.flush] at flushes
  split at flushes
  · exact (Except.ok.inj flushes).symm
  · contradiction

theorem commit_ok (commits : s.commit = .ok next) :
    next = { s.tenant with
      groups := s.writtenGroups
      members := s.tenant.members ∪ s.pending.toFinset } := by
  simp only [Session.commit] at commits
  cases flushes : s.flush with
  | error failure => simp [flushes,Except.map] at commits
  | ok written =>
    simp only [flushes,Except.map,Except.ok.injEq] at commits
    rw [← commits,flush_ok flushes]

theorem setGroupMemberships_ok {ids impacted : Finset Uuid} (quiet : s.autoflush = false)
    (sets : s.setGroupMemberships group ids = .ok (written,impacted)) :
    impacted = s.tenant.memberIds group ∪ ids ∧
      written = { s with
        tenant := { s.tenant with
          members := s.tenant.members.filter fun row =>
            ¬(row.1 = group ∧ row.2 ∈ s.tenant.memberIds group \ ids) }
        pending := s.pending + (ids \ s.tenant.memberIds group).val.map fun uid => (group,uid) } := by
  simp only [Session.setGroupMemberships,Session.beforeQuery,quiet,Bool.false_eq_true,if_false,
    bind,Except.bind,pure,Except.pure,Except.ok.injEq,Prod.mk.injEq] at sets
  rw [quiet]
  exact ⟨sets.2.symm,sets.1.symm⟩

def Tenant.withoutLeavers (t : Tenant) (group : Uuid) (ids : Finset Uuid) : Tenant :=
  { t with members := t.members.filter fun row =>
      ¬(row.1 = group ∧ row.2 ∈ t.memberIds group \ ids) }

theorem mem_withoutLeavers {ids : Finset Uuid} {row : Uuid × Uuid} :
    row ∈ (t.withoutLeavers group ids).members ↔
      row ∈ t.members ∧ (row.1 = group → row.2 ∈ ids) := by
  obtain ⟨other,uid⟩ := row
  simp only [Tenant.withoutLeavers,Finset.mem_filter,Finset.mem_sdiff,mem_memberIds]
  constructor
  · rintro ⟨listed,stays⟩
    refine ⟨listed,fun same => ?_⟩
    by_contra leaves
    cases same
    exact stays ⟨rfl,listed,leaves⟩
  · rintro ⟨listed,stays⟩
    exact ⟨listed,fun leaves => leaves.2.2 (stays leaves.1)⟩

theorem recomputeEntitlements_quiet {ids : Finset Uuid} (quiet : s.autoflush = false)
    (computes : s.recomputeEntitlements rt ids = .ok written) :
    written = { s with tenant := { s.tenant with
      users := fun uid =>
        if uid ∈ ids then (s.tenant.users uid).map
          (recomputed rt (s.tenant.userGroupNames uid) s.tenant.mappings)
        else s.tenant.users uid } } := by
  simp only [Session.recomputeEntitlements] at computes
  split at computes
  next none => simp [none,← Except.ok.inj computes]
  · simp only [Session.beforeQuery,quiet,Bool.false_eq_true,if_false,bind,Except.bind,pure,
      Except.pure,Except.ok.injEq] at computes
    rw [← computes,quiet]
    rfl

theorem writtenGroups_again (s : Session) (tenant : Tenant) (written : tenant.groups = s.writtenGroups) :
    Session.writtenGroups { s with tenant } = s.writtenGroups := by
  cases holds : s.group with
  | none => simpa [Session.writtenGroups,holds] using written
  | some group =>
    simp only [Session.writtenGroups,holds,written]
    exact replaceGroup_twice _ _

theorem recompute_commit_ok {ids : Finset Uuid} (flushes : s.autoflush = true)
    (computes : s.recomputeEntitlements rt ids = .ok written) (commits : written.commit = .ok next) :
    next.groups = s.writtenGroups ∧ next.mappings = s.tenant.mappings ∧
      next.members = s.tenant.members ∪ s.pending.toFinset ∧
      ∀ uid, next.users uid = if uid ∈ ids then
          (s.tenant.users uid).map (recomputed rt (next.userGroupNames uid) next.mappings)
        else s.tenant.users uid := by
  simp only [Session.recomputeEntitlements] at computes
  split at computes
  next none =>
    cases computes
    rw [commit_ok commits]
    refine ⟨rfl,rfl,rfl,?_⟩
    intro uid
    simp [none]
  next some =>
    simp only [Session.beforeQuery,flushes,if_true] at computes
    obtain ⟨flushed,flush,computes⟩ := bind_eq_ok.mp computes
    have rows := flush_ok flush
    cases rows
    have result := commit_ok commits
    cases (Except.ok.inj computes).symm
    have groups : next.groups = s.writtenGroups := by
      rw [result]
      exact writtenGroups_again s _ rfl
    have members : next.members = s.tenant.members ∪ s.pending.toFinset := by
      rw [result]
      simp
    refine ⟨groups,by rw [result],members,?_⟩
    intro uid
    have names : next.userGroupNames uid = Tenant.userGroupNames { s.tenant with
        groups := s.writtenGroups
        members := s.tenant.members ∪ s.pending.toFinset } uid := by
      simp only [Tenant.userGroupNames,groups,members]
    rw [names,result]
    rfl

theorem roleWith_withoutLeavers {mappings : List Mapping} {ids : Finset Uuid} {old : ScimGroup}
    (sound : Sound t) (listed : old ∈ t.groups) :
    roleWith rt mappings ((t.withoutLeavers old.id ids).userGroupNames uid) =
      if uid ∈ ids then roleWith rt mappings (t.namesBefore old uid)
      else roleWith rt mappings (t.otherNames old.id uid) := by
  split
  next stays =>
    rw [← roleWith_namesBefore sound.own listed]
    apply roleWith_congr
    intro name named
    have same : (t.withoutLeavers old.id ids).groups = t.groups := rfl
    simp [mem_userGroupNames,same,mem_withoutLeavers,stays]
  next leaves =>
    apply roleWith_congr
    intro name named
    have same : (t.withoutLeavers old.id ids).groups = t.groups := rfl
    simp only [mem_userGroupNames,same,mem_withoutLeavers,mem_otherNames]
    constructor
    · rintro ⟨other,otherListed,⟨member,stays⟩,is,_⟩
      exact ⟨other,otherListed,fun same => leaves (stays same),member,is⟩
    · rintro ⟨other,otherListed,apart,member,is⟩
      exact ⟨other,otherListed,⟨member,fun same => absurd same apart⟩,is,named⟩

/-- The users after the replacement of a group: those who are named as members or were members
have the roles of the groups that the database shows before the request is written. -/
def Tenant.usersAfterPut (t : Tenant) (rt : Runtime) (group : Uuid) (body : GroupBody) (uid : Uuid) :
    Option User :=
  if body.members.isSome ∧ uid ∈ t.memberIds group ∪ t.membersAfter group body then
    (t.users uid).map (recomputed rt
      ((t.withoutLeavers group (t.membersAfter group body)).userGroupNames uid) t.mappings)
  else t.users uid

theorem loadGroup_rewrites {groupId : String} {loaded : ScimGroup}
    (found : t.loadGroup groupId = .ok loaded) {other : ScimGroup} (same : other.id = loaded.id) :
    ∃ old ∈ t.groups, old.id = other.id := ⟨loaded,loadGroup_mem found,same.symm⟩

theorem mem_setMembers {ids : Finset Uuid} {row : Uuid × Uuid} :
    row ∈ (t.withoutLeavers group ids).members ∪
        (0 + (ids \ t.memberIds group).val.map fun uid => (group,uid)).toFinset ↔
      if row.1 = group then row.2 ∈ ids else row ∈ t.members := by
  obtain ⟨other,uid⟩ := row
  rw [Finset.mem_union,mem_withoutLeavers,zero_add,Multiset.mem_toFinset,Multiset.mem_map]
  by_cases same : other = group
  · cases same
    simp only [Finset.mem_val,Finset.mem_sdiff,mem_memberIds,Prod.mk.injEq,true_and,
      exists_eq_right,forall_const,if_true]
    tauto
  · simp [same,Ne.symm same]

theorem putGroup_ok {groupId : String} {body : GroupBody}
    (succeeds : putGroup rt t groupId body = .ok next) :
    ∃ loaded group, t.loadGroup groupId = .ok loaded ∧ group.id = loaded.id ∧
      group.displayNameNorm = rt.normalize (strip body.displayName) ∧
      Rewritten t next group (t.membersAfter group.id body) ∧
      next.users = t.usersAfterPut rt group.id body := by
  simp only [putGroup] at succeeds
  obtain ⟨loaded,found,succeeds⟩ := bind_eq_ok.mp succeeds
  split at succeeds
  · contradiction
  refine ⟨loaded,(loaded.rename rt (strip body.displayName)).setExternalId rt
    ((body.externalId.filter (· ≠ "")).map strip),found,rfl,rfl,?_⟩
  have listed : ∃ old ∈ t.groups, old.id = ((loaded.rename rt (strip body.displayName)).setExternalId
    rt ((body.externalId.filter (· ≠ "")).map strip)).id := loadGroup_rewrites found rfl
  generalize (loaded.rename rt (strip body.displayName)).setExternalId rt
    ((body.externalId.filter (· ≠ "")).map strip) = group at succeeds listed ⊢
  cases members : body.members with
  | none =>
    simp only [members] at succeeds
    have result := commit_ok succeeds
    refine ⟨⟨listed,?_,?_,?_,?_⟩,?_⟩
    · rw [result]
      rfl
    · rw [result]
    · intro uid
      simp [result,Tenant.membersAfter,members,mem_memberIds]
    · intro uid other _
      simp [result]
    · funext uid
      simp [result,Tenant.usersAfterPut,members]
  | some refs =>
    simp only [members] at succeeds
    obtain ⟨⟨session,impacted⟩,sets,succeeds⟩ := bind_eq_ok.mp succeeds
    obtain ⟨written,computes,commits⟩ := bind_eq_ok.mp succeeds
    obtain ⟨rfl,rfl⟩ := setGroupMemberships_ok rfl sets
    cases recomputeEntitlements_quiet rfl computes
    have result := commit_ok commits
    have rows : ∀ row, row ∈ next.members ↔
        if row.1 = group.id then row.2 ∈ t.resolveMemberUserIds refs else row ∈ t.members := by
      intro row
      rw [result]
      exact mem_setMembers
    refine ⟨⟨listed,?_,?_,?_,?_⟩,?_⟩
    · rw [result]
      rfl
    · rw [result]
    · intro uid
      simp [rows,Tenant.membersAfter,members]
    · intro uid other apart
      simp [rows,apart]
    · funext uid
      rw [result]
      simp only [Tenant.usersAfterPut,Tenant.membersAfter,members,Option.isSome_some,true_and]
      rfl

end Valdrics.Scim

import Valdrics.ScimAssignments
import Valdrics.ScimPatches

/-! Roles follow the memberships in a run exactly when no replacement of a group, no renaming and
no new mapping changes the role of someone whom the request does not recompute from what it
writes. -/
namespace Valdrics.Scim

open Enforcement (Uuid)
open PythonText

variable {rt : Runtime} {t next : Tenant} {past : List Tenant}

/-- A user of another role than an owner, as a rewritten group finds him. -/
theorem replaced_role (rt : Runtime) {groupId : String} {body : GroupBody} {loaded group : ScimGroup} {uid : Uuid}
    (sound : Sound t) (found : t.loadGroup groupId = .ok loaded) (same : group.id = loaded.id)
    (member : uid ∈ t.membersAfter group.id body) (some : body.members.isSome) :
    t.usersAfterPut rt group.id body uid = (t.users uid).map (recomputed rt
        ((t.withoutLeavers group.id (t.membersAfter group.id body)).userGroupNames uid) t.mappings) ∧
      roleWith rt t.mappings
          ((t.withoutLeavers group.id (t.membersAfter group.id body)).userGroupNames uid) =
        roleWith rt t.mappings (t.namesBefore loaded uid) := by
  constructor
  · exact if_pos ⟨some,Finset.mem_union_right _ member⟩
  · rw [same] at member ⊢
    rw [roleWith_withoutLeavers sound (loadGroup_mem found),if_pos member]

theorem putGroup_faithful {groupId : String} {body : GroupBody} (sound : Sound t)
    (fine : ChangesNoRole rt t (.putGroup groupId body))
    (succeeds : putGroup rt t groupId body = .ok next) : Faithful rt t next := by
  obtain ⟨loaded,group,found,same,name,rewritten,users⟩ := putGroup_ok succeeds
  have listed := loadGroup_mem found
  have keeps : ∀ uid user, uid ∈ t.membersAfter group.id body → t.users uid = some user →
      isOwner rt user = false → roleWith rt t.mappings (t.namesBefore loaded uid) =
        roleWith rt t.mappings (next.userGroupNames uid) := by
    intro uid user member stored owner
    rw [← rewritten.mappings,rewritten.ofMember member,rewritten.mappings,same,name]
    exact fine.put groupId body loaded uid user rfl found (by rwa [← same]) stored owner
  refine ⟨rewritten.sound sound,fun uid => ?_⟩
  by_cases member : uid ∈ t.membersAfter group.id body
  · cases members : body.members with
    | none =>
      right
      refine ⟨by simp [users,Tenant.usersAfterPut,members],?_,?_⟩
      · intro _
        refine ⟨group.id,?_⟩
        rw [← mem_memberIds]
        simpa [Tenant.membersAfter,members] using member
      · intro user stored owner
        rw [roleWith_namesBefore sound.own listed,rewritten.mappings]
        exact (keeps uid user member stored owner).symm
    | some refs =>
      left
      obtain ⟨recomputes,role⟩ := replaced_role rt sound found same member (by simp [members])
      apply settled_of_recomputed (t := t)
      · rw [users,recomputes,rewritten.mappings]
      · intro user stored owner
        rw [rewritten.mappings,role]
        exact keeps uid user member stored owner
  · by_cases was : uid ∈ t.memberIds group.id
    · cases members : body.members with
      | none => exact absurd (by simpa [Tenant.membersAfter,members] using was) member
      | some refs =>
        left
        apply settled_of_recomputed (t := t)
        · rw [users,rewritten.mappings]
          exact if_pos ⟨by simp [members],Finset.mem_union_left _ was⟩
        · intro user _ _
          rw [rewritten.left member,rewritten.mappings]
          rw [same] at member ⊢
          rw [roleWith_withoutLeavers sound listed,if_neg member]
    · right
      refine ⟨?_,?_,fun _ _ _ => rewritten.apart sound listed same.symm was member⟩
      · rw [users]
        exact if_neg fun touched => (Finset.mem_union.mp touched.2).elim was member
      · rintro ⟨other,joined⟩
        by_cases here : other = group.id
        · cases here
          exact absurd ((rewritten.members uid).mp joined) member
        · exact ⟨other,(rewritten.elsewhere uid other here).mp joined⟩

theorem putGroup_breaks {groupId : String} {body : GroupBody} (sound : Sound t)
    (follow : RolesFollow rt (t,past)) (succeeds : putGroup rt t groupId body = .ok next)
    (after : RolesFollow rt (next,past ++ [t])) : ChangesNoRole rt t (.putGroup groupId body) := by
  refine ⟨?_,fun _ _ _ _ _ _ same => (nomatch same),fun _ _ _ _ same => (nomatch same)⟩
  intro _ _ loaded uid user same found member stored owner
  cases same
  obtain ⟨_,group,foundAgain,same,name,rewritten,users⟩ := putGroup_ok succeeds
  cases Except.ok.inj (found.symm.trans foundAgain)
  rw [← same] at member
  rw [← name,← same,← rewritten.ofMember member]
  have joined : ∃ id, (id,uid) ∈ next.members := ⟨group.id,(rewritten.members uid).mpr member⟩
  cases members : body.members with
  | none =>
    have kept : next.users uid = t.users uid := by simp [users,Tenant.usersAfterPut,members]
    rw [← after.role uid user (kept.trans stored) owner joined,
      ← roleWith_namesBefore sound.own (loadGroup_mem found)]
    refine (follow.role uid user stored owner ⟨group.id,?_⟩).symm
    rw [← mem_memberIds]
    simpa [Tenant.membersAfter,members] using member
  | some refs =>
    obtain ⟨recomputes,role⟩ := replaced_role rt sound found same member (by simp [members])
    rw [← role,← rewritten.mappings]
    refine after.of_recomputed (t := t) ?_ stored owner joined
    rw [users,recomputes,rewritten.mappings]

theorem patchGroup_faithful {groupId : String} {operations : List PatchOperation} (sound : Sound t)
    (fine : ChangesNoRole rt t (.patchGroup groupId operations))
    (succeeds : patchGroup rt t groupId operations = .ok next) : Faithful rt t next := by
  obtain ⟨loaded,group,found,same,name,rewritten,acting,quiet⟩ := patchGroup_ok succeeds
  have listed := loadGroup_mem found
  have apart : ∀ uid, uid ∉ t.memberIds group.id → uid ∉ next.memberIds group.id →
      next.users uid = t.users uid → Untouched rt t next uid := by
    intro uid never none users
    refine ⟨users,?_,fun _ _ _ => rewritten.apart sound listed same.symm never none⟩
    rintro ⟨other,joined⟩
    by_cases here : other = group.id
    · cases here
      exact absurd ((rewritten.members uid).mp joined) none
    · exact ⟨other,(rewritten.elsewhere uid other here).mp joined⟩
  refine ⟨rewritten.sound sound,fun uid => ?_⟩
  cases acts : operations.any (·.touchesMembers rt) with
  | true =>
    rcases acting acts uid with settled | ⟨users,never,none⟩
    · exact .inl settled
    · exact .inr (apart uid never none users)
  | false =>
    obtain ⟨users,members⟩ := quiet acts
    right
    by_cases member : uid ∈ t.memberIds group.id
    · have stays : uid ∈ next.memberIds group.id := by
        rw [mem_memberIds,members]
        exact mem_memberIds.mp member
      refine ⟨by rw [users],by rw [members]; exact fun joined => joined,?_⟩
      intro user stored owner
      rw [rewritten.ofMember stays,roleWith_namesBefore sound.own listed,same,name]
      rw [same] at member
      cases last : (operations.filterMap (·.displayName rt)).getLast? with
      | none =>
        simp only [nameAfter,Option.elim_none]
        simp [Tenant.namesAfter,Tenant.namesBefore,mem_memberIds.mp member]
      | some given =>
        exact (fine.patch groupId operations loaded given uid user rfl found acts last member stored
          owner).symm
    · refine apart uid member ?_ (by rw [users])
      rw [mem_memberIds,members]
      exact fun joined => member (mem_memberIds.mpr joined)

theorem patchGroup_breaks {groupId : String} {operations : List PatchOperation} (sound : Sound t)
    (follow : RolesFollow rt (t,past)) (succeeds : patchGroup rt t groupId operations = .ok next)
    (after : RolesFollow rt (next,past ++ [t])) :
    ChangesNoRole rt t (.patchGroup groupId operations) := by
  refine ⟨fun _ _ _ _ _ same => (nomatch same),?_,fun _ _ _ _ same => (nomatch same)⟩
  intro _ _ loaded given uid user same found acts last member stored owner
  cases same
  obtain ⟨_,group,foundAgain,same,name,rewritten,_,quiet⟩ := patchGroup_ok succeeds
  cases Except.ok.inj (found.symm.trans foundAgain)
  obtain ⟨users,members⟩ := quiet acts
  have joined : (loaded.id,uid) ∈ next.members := by
    rw [members]
    exact mem_memberIds.mp member
  have named : group.displayNameNorm = rt.normalize given := by
    rw [name,last]
    rfl
  rw [← named,← same,← rewritten.ofMember (by rw [mem_memberIds,same]; exact joined),
    ← after.role uid user (by rw [users]; exact stored) owner ⟨_,joined⟩,
    ← roleWith_namesBefore sound.own (loadGroup_mem found)]
  exact (follow.role uid user stored owner ⟨_,mem_memberIds.mp member⟩).symm

theorem updateGroupMappings_faithful {payload : List Mapping} (sound : Sound t)
    (fine : ChangesNoRole rt t (.updateGroupMappings payload))
    (succeeds : updateGroupMappings rt t payload = .ok next) : Faithful rt t next := by
  obtain ⟨mappings,valid,rfl⟩ := updateGroupMappings_ok succeeds
  refine ⟨⟨sound.own,sound.linked⟩,fun uid => .inr ⟨rfl,fun joined => joined,?_⟩⟩
  intro user stored owner
  by_cases joined : ∃ group, (group,uid) ∈ t.members
  · exact (fine.mappings payload mappings uid user rfl valid joined stored owner).symm
  · -- without groups there is no name a mapping could be about
    have none : ∀ name, name ∉ t.userGroupNames uid := by
      intro name listed
      obtain ⟨group,_,member,_⟩ := mem_userGroupNames.mp listed
      exact joined ⟨group.id,member⟩
    have names := List.eq_nil_iff_forall_not_mem.mpr none
    have role : ∀ mappings, roleWith rt mappings [] = "member" := by
      intro mappings
      simp only [roleWith,resolveEntitlementsFromGroups]
      have still : ∀ desired, mappings.foldl (resolveMapping rt []) desired = desired := by
        intro desired
        induction mappings with
        | nil => rfl
        | cons mapping rest ih => simpa [resolveMapping] using ih
      rw [still]
      rfl
    have same : Tenant.userGroupNames { t with mappings } uid = t.userGroupNames uid := rfl
    rw [same,names,role,role]

theorem updateGroupMappings_breaks {payload : List Mapping} (follow : RolesFollow rt (t,past))
    (succeeds : updateGroupMappings rt t payload = .ok next)
    (after : RolesFollow rt (next,past ++ [t])) :
    ChangesNoRole rt t (.updateGroupMappings payload) := by
  refine ⟨fun _ _ _ _ _ same => (nomatch same),fun _ _ _ _ _ _ same => (nomatch same),?_⟩
  intro _ mappings uid user same valid joined stored owner
  cases same
  obtain ⟨_,validAgain,rfl⟩ := updateGroupMappings_ok succeeds
  cases Except.ok.inj (valid.symm.trans validAgain)
  rw [← follow.role uid user stored owner joined]
  exact after.role uid user stored owner joined

/-- A request of another kind has nothing to be recomputed. -/
theorem changesNoRole_of_other {request : Request}
    (put : ∀ groupId body, request ≠ .putGroup groupId body)
    (patch : ∀ groupId operations, request ≠ .patchGroup groupId operations)
    (mappings : ∀ payload, request ≠ .updateGroupMappings payload) : ChangesNoRole rt t request :=
  ⟨fun groupId body _ _ _ same => absurd same (put groupId body),
    fun groupId operations _ _ _ _ same => absurd same (patch groupId operations),
    fun payload _ _ _ same => absurd same (mappings payload)⟩

theorem handle_faithful {request : Request} (sound : Sound t) (fine : ChangesNoRole rt t request)
    (succeeds : handle rt t request = .ok next) : Faithful rt t next := by
  cases request with
  | createGroup id body => exact createGroup_faithful sound succeeds
  | putGroup groupId body => exact putGroup_faithful sound fine succeeds
  | patchGroup groupId operations => exact patchGroup_faithful sound fine succeeds
  | deleteGroup groupId => exact deleteGroup_faithful sound succeeds
  | assignGroups userId refs forCreate => exact applyScimGroupMappings_faithful sound succeeds
  | updateGroupMappings payload => exact updateGroupMappings_faithful sound fine succeeds

theorem handle_breaks {request : Request} (sound : Sound t) (follow : RolesFollow rt (t,past))
    (succeeds : handle rt t request = .ok next) (after : RolesFollow rt (next,past ++ [t])) :
    ChangesNoRole rt t request := by
  cases request with
  | putGroup groupId body => exact putGroup_breaks sound follow succeeds after
  | patchGroup groupId operations => exact patchGroup_breaks sound follow succeeds after
  | updateGroupMappings payload => exact updateGroupMappings_breaks follow succeeds after
  | createGroup | deleteGroup | assignGroups =>
    apply changesNoRole_of_other <;> intros <;> exact nofun

def withoutGroups (users : Uuid → Option User) (mappings : List Mapping) : Tenant :=
  { users, mappings }

/-- In a run of requests from a tenant without groups the roles follow the memberships in every
state exactly when no request that succeeds leaves a role that it changes. -/
theorem roles_follow_iff (rt : Runtime) (users : Uuid → Option User) (mappings : List Mapping)
    (requests : List Request) :
    Always (withHistory (exec rt) notePast) (RolesFollow rt) (withoutGroups users mappings,[])
        requests ↔
      EachStep (withHistory (exec rt) notePast) (fun s request =>
        ∀ next, handle rt s.1 request = .ok next → ChangesNoRole rt s.1 request)
        (withoutGroups users mappings,[]) requests := by
  refine always_iff_eachStep _ _ _ (fun s => RolesFollow rt s ∧ Sound s.1) (fun s kept => kept.1)
    ?_ ?_ _ _ ?_
  · rintro ⟨t,past⟩ request ⟨follow,sound⟩ fine
    have faithful : Faithful rt t (exec rt t request).1 := by
      simp only [exec]
      split
      next next succeeds => exact handle_faithful sound (fine next succeeds) succeeds
      · exact Faithful.refl sound
    exact ⟨follow.step faithful.each,faithful.sound⟩
  · rintro ⟨t,past⟩ request ⟨follow,sound⟩ changes after
    apply changes
    intro next succeeds
    have reached : (exec rt t request).1 = next := by simp [exec,succeeds]
    have followed : RolesFollow rt ((exec rt t request).1,past ++ [t]) := after
    rw [reached] at followed
    exact handle_breaks sound follow succeeds followed
  · refine ⟨⟨?_,?_⟩,⟨List.nodup_nil,?_⟩⟩
    · rintro uid user _ _ ⟨group,member⟩
      simp [withoutGroups] at member
    · rintro uid user _ _ ⟨before,listed,_⟩
      contradiction
    · intro row member
      simp [withoutGroups] at member

def asciiRuntime : Runtime := ⟨.asciiOnly,fun _ => ""⟩

def oneUser : Tenant :=
  withoutGroups (fun uid => if uid = 7 then some { role := "member" } else none)
    [{ group := "admins", role := "admin" }]

def firstMember : List Request :=
  [.createGroup 1 { displayName := "Admins" },
    .putGroup "00000000-0000-0000-0000-000000000001"
      { displayName := "Admins"
        members := some [{ value := some "00000000-0000-0000-0000-000000000007" }] }]

/-- The recomputation does not see the membership that it is about. -/
theorem replaced_member_waits :
    ¬Always (withHistory (exec asciiRuntime) notePast) (RolesFollow asciiRuntime) (oneUser,[])
      firstMember := by
  intro always
  have role := always.2.2.role 7 { role := "member" } (by decide) (by decide) ⟨1,by decide⟩
  revert role
  decide

end Valdrics.Scim

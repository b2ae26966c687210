import Valdrics.ScimGroupEdits

/-! What the creation and the deletion of a group leave, and what the assignment of a user's
groups leaves: the groups it resolves keep their names, and the new ones are of no one else. -/
namespace Valdrics.Scim

open Enforcement (Uuid bind_eq_ok)
open PythonText

variable {rt : Runtime} {t next : Tenant} {uid : Uuid}

def Tenant.Named (t : Tenant) (id : Uuid) (name : String) : Prop :=
  ∃ group ∈ t.groups, group.id = id ∧ group.displayNameNorm = name

theorem mem_names_iff {name : String} : name ∈ t.userGroupNames uid ↔
    ∃ id, (id,uid) ∈ t.members ∧ t.Named id name ∧ name ≠ "" := by
  rw [mem_userGroupNames]
  constructor
  · rintro ⟨group,listed,member,is,named⟩
    exact ⟨group.id,member,⟨group,listed,rfl,is⟩,named⟩
  · rintro ⟨_,member,⟨group,listed,rfl,is⟩,named⟩
    exact ⟨group,listed,member,is,named⟩

theorem OwnIds.name_eq {id : Uuid} {name other : String} (own : OwnIds t) (named : t.Named id name)
    (otherNamed : t.Named id other) : name = other := by
  obtain ⟨group,listed,same,rfl⟩ := named
  obtain ⟨_,otherListed,otherSame,rfl⟩ := otherNamed
  rw [own.eq listed otherListed (otherSame.trans same.symm)]

/-- Groups may be added; those that were there keep their names, and the rest stays. -/
structure Extends (t next : Tenant) : Prop where
  own : OwnIds next
  named : ∀ id name, t.Named id name → next.Named id name
  members : next.members = t.members
  users : next.users = t.users
  mappings : next.mappings = t.mappings

theorem Extends.refl (own : OwnIds t) : Extends t t := ⟨own,fun _ _ named => named,rfl,rfl,rfl⟩

theorem Extends.trans {middle : Tenant} (first : Extends t middle) (second : Extends middle next) :
    Extends t next :=
  ⟨second.own,fun id name named => second.named id name (first.named id name named),
    second.members.trans first.members,second.users.trans first.users,
    second.mappings.trans first.mappings⟩

theorem extends_append (own : OwnIds t) {group : ScimGroup}
    (fresh : (t.findGroup group.id).isNone = true) :
    Extends t { t with groups := t.groups ++ [group] } := by
  have new : ∀ old ∈ t.groups, old.id ≠ group.id := by
    simpa [Tenant.findGroup] using fresh
  refine ⟨?_,?_,rfl,rfl,rfl⟩
  · simp only [OwnIds,List.map_append,List.map_cons,List.map_nil]
    apply List.nodup_append.mpr
    refine ⟨own,List.nodup_singleton _,?_⟩
    intro id listed other single
    cases List.mem_singleton.mp single
    obtain ⟨old,oldListed,rfl⟩ := List.mem_map.mp listed
    exact new old oldListed
  · rintro id name ⟨old,listed,same,is⟩
    exact ⟨old,List.mem_append_left _ listed,same,is⟩

theorem extends_replace (own : OwnIds t) {existing renamed : ScimGroup} (listed : existing ∈ t.groups)
    (sameId : renamed.id = existing.id) (sameName : renamed.displayNameNorm = existing.displayNameNorm) :
    Extends t { t with groups := replaceGroup t.groups renamed } := by
  refine ⟨?_,?_,rfl,rfl,rfl⟩
  · simp only [OwnIds,replaceGroup_ids]
    exact own
  · rintro id name ⟨old,oldListed,same,is⟩
    have among : ∀ other, other ∈ replaceGroup t.groups renamed ↔ _ :=
      fun other => mem_replaceGroup ⟨existing,listed,sameId.symm⟩
    by_cases here : old.id = renamed.id
    · cases own.eq listed oldListed (here.trans sameId)
      exact ⟨renamed,(among _).mpr (.inl rfl),sameId.trans same,sameName.trans is⟩
    · exact ⟨old,(among _).mpr (.inr ⟨oldListed,here⟩),same,is⟩

theorem getOrCreateScimGroup_ok {displayName : String} {fresh : Uuid} {group : ScimGroup}
    (own : OwnIds t) (finds : getOrCreateScimGroup rt t displayName fresh = .ok (next,group)) :
    Extends t next ∧ next.Named group.id group.displayNameNorm := by
  simp only [getOrCreateScimGroup] at finds
  split at finds
  · cases finds
  split at finds
  next existing found =>
    obtain ⟨rfl,rfl⟩ := Prod.mk.inj (Except.ok.inj finds)
    have listed := List.mem_of_find?_eq_some found
    have extend : Extends t { t with
        groups := replaceGroup t.groups { existing with displayName := strip displayName } } :=
      extends_replace own listed rfl rfl
    exact ⟨extend,extend.named _ _ ⟨existing,listed,rfl,rfl⟩⟩
  · split at finds
    next new =>
      obtain ⟨rfl,rfl⟩ := Prod.mk.inj (Except.ok.inj finds)
      exact ⟨extends_append own new,_,List.mem_append_right _ (List.mem_singleton_self _),rfl,rfl⟩
    · cases finds

theorem resolveGroupRef_ok {ref : Ref} {fresh : Uuid} {found : Option ScimGroup} (own : OwnIds t)
    (resolves : resolveGroupRef rt t ref fresh = .ok (next,found)) :
    Extends t next ∧ ∀ group ∈ found, next.Named group.id group.displayNameNorm := by
  have byName : ∀ name, (getOrCreateScimGroup rt t name fresh).map
      (fun created => (created.1,some created.2)) = .ok (next,found) →
      Extends t next ∧ ∀ group ∈ found, next.Named group.id group.displayNameNorm := by
    intro name creates
    cases result : getOrCreateScimGroup rt t name fresh with
    | error failure => simp [result,Except.map] at creates
    | ok created =>
      simp only [result,Except.map,Except.ok.injEq,Prod.mk.injEq] at creates
      obtain ⟨rfl,rfl⟩ := creates
      obtain ⟨extend,named⟩ := getOrCreateScimGroup_ok own result
      exact ⟨extend,fun group is => by cases is; exact named⟩
  simp only [resolveGroupRef] at resolves
  split at resolves
  · obtain ⟨rfl,rfl⟩ := Prod.mk.inj (Except.ok.inj resolves)
    exact ⟨Extends.refl own,fun group is => nomatch is⟩
  split at resolves
  · exact byName _ resolves
  split at resolves
  next group byId =>
    obtain ⟨rfl,rfl⟩ := Prod.mk.inj (Except.ok.inj resolves)
    refine ⟨Extends.refl own,fun other is => ?_⟩
    cases is
    obtain ⟨id,_,finds⟩ := Option.bind_eq_some_iff.mp byId
    exact ⟨group,List.mem_of_find?_eq_some finds,rfl,rfl⟩
  · exact byName _ resolves

theorem resolveGroupsFromRefs_ok {refs : List (Ref × Uuid)} {groups : List ScimGroup}
    (own : OwnIds t) (resolves : resolveGroupsFromRefs rt t refs = .ok (next,groups)) :
    Extends t next ∧ ∀ group ∈ groups, next.Named group.id group.displayNameNorm := by
  induction refs generalizing t groups with
  | nil =>
    obtain ⟨rfl,rfl⟩ := Prod.mk.inj (Except.ok.inj resolves)
    exact ⟨Extends.refl own,fun group is => nomatch is⟩
  | cons head rest ih =>
    obtain ⟨ref,fresh⟩ := head
    simp only [resolveGroupsFromRefs] at resolves
    obtain ⟨⟨middle,found⟩,first,resolves⟩ := bind_eq_ok.mp resolves
    obtain ⟨⟨last,others⟩,later,resolves⟩ := bind_eq_ok.mp resolves
    obtain ⟨rfl,rfl⟩ := Prod.mk.inj (Except.ok.inj resolves)
    obtain ⟨extend,named⟩ := resolveGroupRef_ok own first
    obtain ⟨extendLater,namedLater⟩ := ih extend.own later
    refine ⟨extend.trans extendLater,?_⟩
    intro group listed
    rcases List.mem_append.mp listed with here | later
    · exact extendLater.named _ _ (named group (by simpa using here))
    · exact namedLater group later

theorem Extends.names {name : String} (extend : Extends t next) (sound : Sound t) :
    name ∈ next.userGroupNames uid ↔ name ∈ t.userGroupNames uid := by
  rw [mem_names_iff,mem_names_iff,extend.members]
  constructor
  · rintro ⟨id,member,named,visible⟩
    obtain ⟨group,listed,same⟩ := sound.linked _ member
    have was : t.Named id group.displayNameNorm := ⟨group,listed,same,rfl⟩
    rw [extend.own.name_eq named (extend.named _ _ was)] at visible ⊢
    exact ⟨id,member,was,visible⟩
  · rintro ⟨id,member,named,visible⟩
    exact ⟨id,member,extend.named _ _ named,visible⟩

theorem Extends.sound (extend : Extends t next) (sound : Sound t) : Sound next := by
  refine ⟨extend.own,?_⟩
  rw [extend.members]
  intro row member
  obtain ⟨group,listed,same⟩ := sound.linked row member
  obtain ⟨other,otherListed,is,_⟩ := extend.named row.1 _ ⟨group,listed,same,rfl⟩
  exact ⟨other,otherListed,is⟩

structure Faithful (rt : Runtime) (t next : Tenant) : Prop where
  sound : Sound next
  each : ∀ uid, Settled rt next uid ∨ Untouched rt t next uid

theorem Faithful.refl (sound : Sound t) : Faithful rt t t :=
  ⟨sound,fun _ => .inr ⟨rfl,id,fun _ _ _ => rfl⟩⟩

theorem createGroup_faithful {id : Uuid} {body : GroupBody} (sound : Sound t)
    (succeeds : createGroup rt t id body = .ok next) : Faithful rt t next := by
  have extend : Extends t next := by
    simp only [createGroup] at succeeds
    split at succeeds
    · cases succeeds
    split at succeeds
    next fine =>
      cases succeeds
      exact extends_append sound.own fine.2
    · cases succeeds
  refine ⟨extend.sound sound,fun uid => .inr ⟨by rw [extend.users],?_,fun _ _ _ => ?_⟩⟩
  · rw [extend.members]
    exact fun joined => joined
  · rw [extend.mappings]
    exact roleWith_congr fun name _ => extend.names sound

theorem deleteGroup_faithful {groupId : String} (sound : Sound t)
    (succeeds : deleteGroup rt t groupId = .ok next) : Faithful rt t next := by
  simp only [deleteGroup] at succeeds
  obtain ⟨loaded,_,succeeds⟩ := bind_eq_ok.mp succeeds
  obtain ⟨written,computes,commits⟩ := bind_eq_ok.mp succeeds
  obtain ⟨groups,mappings,rows,users⟩ := recompute_commit_ok rfl computes commits
  have members : ∀ row, row ∈ next.members ↔ row ∈ t.members ∧ row.1 ≠ loaded.id := by
    intro row
    simp [rows]
  have left : ∀ group, group ∈ next.groups ↔ group ∈ t.groups ∧ group.id ≠ loaded.id := by
    intro group
    simp [groups,Session.writtenGroups]
  have names : ∀ uid name, uid ∉ t.memberIds loaded.id →
      (name ∈ next.userGroupNames uid ↔ name ∈ t.userGroupNames uid) := by
    intro uid name never
    rw [mem_memberIds] at never
    simp only [mem_userGroupNames,members,left]
    constructor
    · rintro ⟨group,⟨listed,_⟩,⟨member,_⟩,is,named⟩
      exact ⟨group,listed,member,is,named⟩
    · rintro ⟨group,listed,member,is,named⟩
      have apart : group.id ≠ loaded.id := fun same => never (same ▸ member)
      exact ⟨group,⟨listed,apart⟩,⟨member,apart⟩,is,named⟩
  refine ⟨⟨?_,?_⟩,?_⟩
  · simp only [OwnIds,groups,Session.writtenGroups]
    exact (List.filter_sublist.map _).nodup sound.own
  · intro row member
    obtain ⟨stored,apart⟩ := (members row).mp member
    obtain ⟨group,listed,same⟩ := sound.linked row stored
    exact ⟨group,(left group).mpr ⟨listed,by rwa [same]⟩,same⟩
  · intro uid
    by_cases impacted : uid ∈ t.memberIds loaded.id
    · left
      apply settled_of_recomputed (t := t)
      · rw [users,if_pos impacted]
      · intro _ _ _
        rfl
    · right
      refine ⟨by rw [users,if_neg impacted],?_,?_⟩
      · rintro ⟨group,member⟩
        exact ⟨group,((members _).mp member).1⟩
      · intro _ _ _
        rw [mappings]
        exact roleWith_congr fun name _ => names uid name impacted

theorem applyScimGroupMappings_faithful {userId : Uuid} {refs : List (Ref × Uuid)}
    {forCreate : Bool} (sound : Sound t)
    (succeeds : applyScimGroupMappings rt t userId refs forCreate = .ok next) :
    Faithful rt t next := by
  simp only [applyScimGroupMappings] at succeeds
  split at succeeds
  · cases succeeds
  next user _ =>
  split at succeeds
  · cases succeeds
    exact Faithful.refl sound
  obtain ⟨⟨middle,groups⟩,resolves,succeeds⟩ := bind_eq_ok.mp succeeds
  obtain ⟨extend,named⟩ := resolveGroupsFromRefs_ok sound.own resolves
  have result := (Except.ok.inj succeeds).symm
  have stored : next.groups = middle.groups := by rw [result]
  have rows : ∀ id uid, (id,uid) ∈ next.members ↔
      if uid = userId then ∃ group ∈ groups, group.id = id else (id,uid) ∈ t.members := by
    intro id uid
    rw [result,← extend.members]
    by_cases same : uid = userId
    · cases same
      simp
    · simp [same,Ne.symm same]
  have namesOf : ∀ uid name, name ∈ next.userGroupNames uid ↔
      ∃ id, (id,uid) ∈ next.members ∧ middle.Named id name ∧ name ≠ "" := by
    intro uid name
    simp only [mem_names_iff,Tenant.Named,stored]
  refine ⟨⟨?_,?_⟩,?_⟩
  · simp only [OwnIds,stored]
    exact extend.own
  · rintro ⟨id,uid⟩ member
    rw [stored]
    rw [rows] at member
    split at member
    · obtain ⟨group,listed,rfl⟩ := member
      obtain ⟨other,otherListed,same,_⟩ := named group listed
      exact ⟨other,otherListed,same⟩
    · exact (extend.sound sound).linked _ (by rwa [extend.members])
  · intro uid
    by_cases same : uid = userId
    · cases same
      left
      intro assigned is _
      rw [result] at is
      simp only [Function.update_self,Option.some.injEq] at is
      cases is
      have mappings : next.mappings = middle.mappings := by rw [result]
      rw [mappings]
      apply roleWith_congr
      intro name visible
      rw [namesOf]
      constructor
      · intro listed
        obtain ⟨group,groupListed,rfl⟩ := List.mem_map.mp listed
        exact ⟨group.id,(rows _ _).mpr (by simpa using ⟨group,groupListed,rfl⟩),
          named group groupListed,visible⟩
      · rintro ⟨id,member,is,_⟩
        obtain ⟨group,listed,rfl⟩ := by simpa [rows] using member
        rw [extend.own.name_eq is (named group listed)]
        exact List.mem_map_of_mem listed
    · right
      have members : ∀ id, (id,uid) ∈ next.members ↔ (id,uid) ∈ middle.members := by
        intro id
        rw [rows,if_neg same,extend.members]
      refine ⟨?_,?_,?_⟩
      · rw [result,← extend.users]
        exact Function.update_of_ne same _ _
      · rintro ⟨id,member⟩
        exact ⟨id,by rwa [members,extend.members] at member⟩
      · intro _ _ _
        have mappings : next.mappings = t.mappings := by rw [result,extend.mappings]
        rw [mappings]
        apply roleWith_congr
        intro name _
        rw [← extend.names sound,namesOf,mem_names_iff]
        simp only [members]

theorem updateGroupMappings_ok {payload : List Mapping}
    (succeeds : updateGroupMappings rt t payload = .ok next) :
    ∃ mappings, validateMappings rt payload = .ok mappings ∧ next = { t with mappings } := by
  simp only [updateGroupMappings] at succeeds
  obtain ⟨mappings,valid,succeeds⟩ := bind_eq_ok.mp succeeds
  split at succeeds
  · exact ⟨mappings,valid,(Except.ok.inj succeeds).symm⟩
  · cases succeeds

end Valdrics.Scim

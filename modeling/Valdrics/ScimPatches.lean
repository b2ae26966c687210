import Valdrics.ScimGroupEdits

/-! What a patch of a group leaves in the tables: after every operation the deleted and the new
memberships are those of one group, and each of their users is among the impacted ones. -/
namespace Valdrics.Scim

open Enforcement (Uuid Json bind_eq_ok)
open PythonText

variable {rt : Runtime} {t next : Tenant} {uid group : Uuid} {run after : PatchRun}

structure Edits (t : Tenant) (group : Uuid) (run : PatchRun) : Prop where
  quiet : run.session.autoflush = false
  groups : run.session.tenant.groups = t.groups
  users : run.session.tenant.users = t.users
  mappings : run.session.tenant.mappings = t.mappings
  id : run.group.id = group
  elsewhere : ∀ row, row.1 ≠ group → (row ∈ run.session.tenant.members ↔ row ∈ t.members)
  pending : ∀ row ∈ run.session.pending, row.1 = group
  unchanged : run.memberAction = false →
    run.session.tenant.members = t.members ∧ run.session.pending = 0
  impacted : run.memberAction = true → ∀ uid, (group,uid) ∈ t.members ∨
    (group,uid) ∈ run.session.tenant.members ∨ (group,uid) ∈ run.session.pending →
    uid ∈ run.impacted

structure SameMembers (run after : PatchRun) : Prop where
  session : after.session = run.session
  memberAction : after.memberAction = run.memberAction
  impacted : after.impacted = run.impacted
  id : after.group.id = run.group.id

theorem Edits.of_same (edits : Edits t group run) (same : SameMembers run after) :
    Edits t group after := by
  obtain ⟨quiet,groups,users,mappings,id,elsewhere,pending,unchanged,impacted⟩ := edits
  constructor
  all_goals simp only [same.session,same.memberAction,same.impacted,same.id]
  all_goals assumption

theorem replaceMembers_ok {ids : Finset Uuid} (edits : Edits t group run)
    (replaces : run.replaceMembers ids = .ok after) :
    Edits t group after ∧ after.group = run.group ∧ after.memberAction = true := by
  simp only [PatchRun.replaceMembers] at replaces
  obtain ⟨⟨session,impacted⟩,sets,replaces⟩ := bind_eq_ok.mp replaces
  have quiet : run.current.autoflush = false := edits.quiet
  obtain ⟨rfl,rfl⟩ := setGroupMemberships_ok quiet sets
  have result := (Except.ok.inj replaces).symm
  have id := edits.id
  refine ⟨?_,by rw [result],by rw [result]⟩
  have rows : ∀ row, row ∈ after.session.tenant.members ↔
      row ∈ run.session.tenant.members ∧ (row.1 = group → row.2 ∈ ids) := by
    intro row
    rw [result,← id]
    exact mem_withoutLeavers
  have pending : ∀ row, row ∈ after.session.pending ↔ row ∈ run.session.pending ∨
      (row.1 = group ∧ row.2 ∈ ids ∧ (group,row.2) ∉ run.session.tenant.members) := by
    rintro ⟨other,uid⟩
    rw [result]
    simp only [PatchRun.current,Multiset.mem_add,Multiset.mem_map,Finset.mem_val,Finset.mem_sdiff,
      mem_memberIds,id,Prod.mk.injEq]
    constructor
    · rintro (waits | ⟨added,⟨listed,new⟩,rfl,rfl⟩)
      · exact .inl waits
      · exact .inr ⟨rfl,listed,new⟩
    · rintro (waits | ⟨rfl,listed,new⟩)
      · exact .inl waits
      · exact .inr ⟨uid,⟨listed,new⟩,rfl,rfl⟩
  have impacted : after.impacted =
      run.impacted ∪ (run.session.tenant.memberIds group ∪ ids) := by
    rw [result,← id]
    rfl
  constructor
  case quiet => rw [result]; exact edits.quiet
  case groups => rw [result]; exact edits.groups
  case users => rw [result]; exact edits.users
  case mappings => rw [result]; exact edits.mappings
  case id => rw [result]; exact id
  case elsewhere =>
    intro row apart
    rw [rows,edits.elsewhere row apart]
    simp [apart]
  case pending =>
    intro row waits
    rcases (pending row).mp waits with waits | ⟨same,_⟩
    · exact edits.pending row waits
    · exact same
  case unchanged =>
    intro none
    rw [result] at none
    contradiction
  case impacted =>
    intro _ uid touched
    simp only [impacted,Finset.mem_union,mem_memberIds]
    cases acted : run.memberAction with
    | true =>
      rcases touched with before | now | waits
      · exact .inl (edits.impacted acted uid (.inl before))
      · exact .inr (.inl ((rows _).mp now).1)
      · rcases (pending _).mp waits with waits | ⟨_,listed,_⟩
        · exact .inl (edits.impacted acted uid (.inr (.inr waits)))
        · exact .inr (.inr listed)
    | false =>
      obtain ⟨members,empty⟩ := edits.unchanged acted
      rcases touched with before | now | waits
      · exact .inr (.inl (by rwa [members]))
      · exact .inr (.inl ((rows _).mp now).1)
      · rcases (pending _).mp waits with waits | ⟨_,listed,_⟩
        · simp [empty] at waits
        · exact .inr (.inr listed)

theorem patchMembers_ok {op : PatchOp} {path : String} {value : Json} (edits : Edits t group run)
    (patches : run.patchMembers rt op path value = .ok after) :
    Edits t group after ∧ after.group = run.group ∧ after.memberAction = true := by
  simp only [PatchRun.patchMembers] at patches
  obtain ⟨session,reads,patches⟩ := bind_eq_ok.mp patches
  have quiet : run.current.autoflush = false := edits.quiet
  simp only [Session.beforeQuery,quiet,Bool.false_eq_true,if_false,Except.ok.injEq] at reads
  cases reads
  have edited : Edits t group { run with session := run.current } := by
    obtain ⟨quiet,groups,users,mappings,id,elsewhere,pending,unchanged,impacted⟩ := edits
    exact ⟨quiet,groups,users,mappings,id,elsewhere,pending,unchanged,impacted⟩
  have replaced : ∀ ids, PatchRun.replaceMembers { run with session := run.current } ids =
      .ok after → Edits t group after ∧ after.group = run.group ∧ after.memberAction = true := by
    intro ids replaces
    have done := replaceMembers_ok edited replaces
    exact done
  -- every branch resolves a list of members, or has them, before it replaces those of the group
  split at patches
  · split at patches
    · obtain ⟨ids,_,replaces⟩ := bind_eq_ok.mp patches
      exact replaced ids replaces
    · cases patches
  · split at patches
    · obtain ⟨toAdd,_,replaces⟩ := bind_eq_ok.mp patches
      exact replaced _ replaces
    · obtain ⟨toAdd,_,replaces⟩ := bind_eq_ok.mp patches
      exact replaced _ replaces
    · cases patches
  · split at patches
    · obtain ⟨toRemove,_,replaces⟩ := bind_eq_ok.mp patches
      exact replaced _ replaces
    · obtain ⟨toRemove,_,replaces⟩ := bind_eq_ok.mp patches
      exact replaced _ replaces
    · obtain ⟨toRemove,_,replaces⟩ := bind_eq_ok.mp patches
      exact replaced _ replaces
    · obtain ⟨toRemove,_,replaces⟩ := bind_eq_ok.mp patches
      exact replaced _ replaces
    · cases patches

def nameAfter (rt : Runtime) (group : ScimGroup) (name : Option String) : String :=
  name.elim group.displayNameNorm rt.normalize

theorem patchDisplayName_ok {name : String} (patches : run.patchDisplayName rt name = .ok after) :
    SameMembers run after ∧ after.group.displayNameNorm = rt.normalize (strip name) := by
  simp only [PatchRun.patchDisplayName] at patches
  split at patches
  · cases patches
  · cases patches
    exact ⟨⟨rfl,rfl,rfl,rfl⟩,rfl⟩

theorem patchExternalId_same (rt : Runtime) (run : PatchRun) (externalId : String) :
    SameMembers run (run.patchExternalId rt externalId) ∧
      (run.patchExternalId rt externalId).group.displayNameNorm = run.group.displayNameNorm :=
  ⟨⟨rfl,rfl,rfl,rfl⟩,rfl⟩

/-- What an operation of this kind leaves: the edits, the name, and whether members were acted
upon. -/
structure Operated (rt : Runtime) (t : Tenant) (group : Uuid) (operation : PatchOperation)
    (run after : PatchRun) : Prop where
  edits : Edits t group after
  name : after.group.displayNameNorm = nameAfter rt run.group (operation.displayName rt)
  memberAction : after.memberAction = (run.memberAction || operation.touchesMembers rt)

def PatchRun.nameField (rt : Runtime) (run : PatchRun) (fields : List (String × Json)) :
    Except ScimFailure PatchRun :=
  match fields.lookup "displayName" with
  | some name => run.patchDisplayName rt (rt.textOf name)
  | none => .ok run

def PatchRun.externalIdField (rt : Runtime) (run : PatchRun) (fields : List (String × Json)) :
    PatchRun :=
  match fields.lookup "externalId" with
  | some externalId => run.patchExternalId rt (rt.textOf externalId)
  | none => run

def PatchRun.membersField (run : PatchRun) (fields : List (String × Json)) :
    Except ScimFailure PatchRun :=
  match fields.lookup "members" with
  | none => .ok run
  | some (.arr items) => do
    let memberUserIds ← run.resolveList items
    run.replaceMembers memberUserIds
  | some _ => .error (invalidValue "members must be a list")

theorem patchFields_eq (fields : List (String × Json)) : run.patchFields rt fields = (do
    let named ← run.nameField rt fields
    (named.externalIdField rt fields).membersField fields) := by
  simp only [PatchRun.patchFields,PatchRun.nameField]
  cases fields.lookup "displayName" with
  | none => rfl
  | some name => rfl

theorem patchFields_ok {operation : PatchOperation} {fields : List (String × Json)}
    (edits : Edits t group run) (blank : strip (operation.path.getD "") = "")
    (value : operation.value = .obj fields) (patches : run.patchFields rt fields = .ok after) :
    Operated rt t group operation run after := by
  have displayName : operation.displayName rt =
      (fields.lookup "displayName").map fun name => strip (rt.textOf name) := by
    simp [PatchOperation.displayName,blank,value]
  have touches : operation.touchesMembers rt = (fields.lookup "members").isSome := by
    simp [PatchOperation.touchesMembers,blank,value]
  rw [patchFields_eq] at patches
  obtain ⟨named,names,patches⟩ := bind_eq_ok.mp patches
  have nameDone : SameMembers run named ∧
      named.group.displayNameNorm = nameAfter rt run.group (operation.displayName rt) := by
    simp only [PatchRun.nameField] at names
    rw [displayName]
    split at names
    next name found =>
      rw [found]
      exact patchDisplayName_ok names
    next none =>
      cases names
      rw [none]
      exact ⟨⟨rfl,rfl,rfl,rfl⟩,rfl⟩
  have externalDone : SameMembers named (named.externalIdField rt fields) ∧
      (named.externalIdField rt fields).group.displayNameNorm = named.group.displayNameNorm := by
    simp only [PatchRun.externalIdField]
    split
    · exact patchExternalId_same rt named _
    · exact ⟨⟨rfl,rfl,rfl,rfl⟩,rfl⟩
  generalize named.externalIdField rt fields = external at externalDone patches
  have edited := (edits.of_same nameDone.1).of_same externalDone.1
  have action : external.memberAction = run.memberAction :=
    externalDone.1.memberAction.trans nameDone.1.memberAction
  have is := externalDone.2.trans nameDone.2
  simp only [PatchRun.membersField] at patches
  split at patches
  next none =>
    cases patches
    exact ⟨edited,is,by simp [action,touches,none]⟩
  next items found =>
    obtain ⟨ids,_,replaces⟩ := bind_eq_ok.mp patches
    obtain ⟨done,sameGroup,acted⟩ := replaceMembers_ok edited replaces
    exact ⟨done,by rw [sameGroup,is],by simp [acted,touches,found]⟩
  · cases patches

theorem applyOperation_ok {operation : PatchOperation} (edits : Edits t group run)
    (applies : run.applyOperation rt operation = .ok after) :
    Operated rt t group operation run after := by
  simp only [PatchRun.applyOperation] at applies
  by_cases blank : strip (operation.path.getD "") = ""
  · simp only [if_pos blank] at applies
    split at applies
    next fields _ value => exact patchFields_ok edits blank value applies
    next fields _ value => exact patchFields_ok edits blank value applies
    · cases applies
  simp only [if_neg blank] at applies
  by_cases named : rt.text.lower (strip (operation.path.getD "")) = "displayname"
  · have untouched : operation.touchesMembers rt = false := by
      simp [PatchOperation.touchesMembers,blank,named]
    simp only [if_pos named] at applies
    split at applies
    · cases applies
    next name value _ =>
      obtain ⟨same,is⟩ := patchDisplayName_ok applies
      refine ⟨edits.of_same same,?_,by simp [same.memberAction,untouched]⟩
      simp [PatchOperation.displayName,blank,named,value,is,nameAfter]
    · cases applies
  simp only [if_neg named] at applies
  have noName : operation.displayName rt = none := by
    simp [PatchOperation.displayName,blank,named]
  by_cases external : rt.text.lower (strip (operation.path.getD "")) = "externalid"
  · have untouched : operation.touchesMembers rt = false := by
      simp [PatchOperation.touchesMembers,blank,external]
    simp only [if_pos external] at applies
    split at applies
    · cases applies
      refine ⟨edits.of_same ⟨rfl,rfl,rfl,rfl⟩,?_,by simp [untouched]⟩
      rw [noName]
      rfl
    · cases applies
      refine ⟨edits.of_same (patchExternalId_same rt run _).1,?_,?_⟩
      · rw [noName]
        rfl
      · simp [(patchExternalId_same rt run _).1.memberAction,untouched]
    · cases applies
  simp only [if_neg external] at applies
  by_cases members : rt.text.lower (strip (operation.path.getD "")) = "members" ∨
      (rt.text.lower (strip (operation.path.getD ""))).startsWith "members["
  · rw [if_pos members] at applies
    obtain ⟨done,sameGroup,acted⟩ := patchMembers_ok edits applies
    have touches : operation.touchesMembers rt = true := by
      simpa only [PatchOperation.touchesMembers,if_neg blank,Bool.or_eq_true,decide_eq_true_eq,
        beq_iff_eq] using members
    exact ⟨done,by rw [sameGroup,noName]; rfl,by rw [acted,touches,Bool.or_true]⟩
  · rw [if_neg members] at applies
    cases applies

theorem applyOperations_ok {operations : List PatchOperation} (edits : Edits t group run)
    (applies : run.applyOperations rt operations = .ok after) :
    Edits t group after ∧
      after.group.displayNameNorm =
        nameAfter rt run.group (operations.filterMap (·.displayName rt)).getLast? ∧
      after.memberAction = (run.memberAction || operations.any (·.touchesMembers rt)) := by
  induction operations generalizing run with
  | nil =>
    cases applies
    exact ⟨edits,rfl,by simp⟩
  | cons operation rest ih =>
    obtain ⟨middle,first,applies⟩ := bind_eq_ok.mp applies
    have operated := applyOperation_ok edits first
    obtain ⟨done,name,acted⟩ := ih operated.edits applies
    refine ⟨done,?_,by simp [acted,operated.memberAction,Bool.or_assoc]⟩
    rw [name]
    cases found : operation.displayName rt with
    | none =>
      simp only [List.filterMap_cons,found]
      cases (rest.filterMap (·.displayName rt)).getLast? with
      | none => simpa [nameAfter,found] using operated.name
      | some last => rfl
    | some given =>
      simp only [List.filterMap_cons,found,List.getLast?_cons]
      cases (rest.filterMap (·.displayName rt)).getLast? with
      | none => simpa [nameAfter,found] using operated.name
      | some last => rfl

theorem patchGroup_ok {groupId : String} {operations : List PatchOperation}
    (succeeds : patchGroup rt t groupId operations = .ok next) :
    ∃ loaded group, t.loadGroup groupId = .ok loaded ∧ group.id = loaded.id ∧
      group.displayNameNorm =
        nameAfter rt loaded (operations.filterMap (·.displayName rt)).getLast? ∧
      Rewritten t next group (next.memberIds group.id) ∧
      (operations.any (·.touchesMembers rt) = true → ∀ uid, Settled rt next uid ∨
        (next.users uid = t.users uid ∧ uid ∉ t.memberIds group.id ∧
          uid ∉ next.memberIds group.id)) ∧
      (operations.any (·.touchesMembers rt) = false →
        next.users = t.users ∧ next.members = t.members) := by
  simp only [patchGroup] at succeeds
  obtain ⟨loaded,found,succeeds⟩ := bind_eq_ok.mp succeeds
  obtain ⟨run,applies,succeeds⟩ := bind_eq_ok.mp succeeds
  have start : Edits t loaded.id
      { session := { tenant := t, autoflush := false }, group := loaded } := by
    constructor <;> simp
  obtain ⟨edits,name,acted⟩ := applyOperations_ok start applies
  simp only [Bool.false_or] at acted
  have listed := loadGroup_rewrites found edits.id
  have rewritten : next.groups = replaceGroup run.session.tenant.groups run.group →
      next.mappings = run.session.tenant.mappings →
      next.members = run.session.tenant.members ∪ run.session.pending.toFinset →
      Rewritten t next run.group (next.memberIds run.group.id) := by
    intro groups mappings rows
    refine ⟨listed,by rw [groups,edits.groups],by rw [mappings,edits.mappings],?_,?_⟩
    · intro uid
      rw [mem_memberIds]
    · intro uid other apart
      rw [edits.id] at apart
      rw [rows,Finset.mem_union,Multiset.mem_toFinset]
      constructor
      · rintro (stays | waits)
        · exact (edits.elsewhere (other,uid) apart).mp stays
        · exact absurd (edits.pending _ waits) apart
      · exact fun was => .inl ((edits.elsewhere (other,uid) apart).mpr was)
  refine ⟨loaded,run.group,found,edits.id,name,?_⟩
  cases action : run.memberAction with
  | true =>
    simp only [action,if_true] at succeeds
    obtain ⟨written,computes,commits⟩ := bind_eq_ok.mp succeeds
    obtain ⟨groups,mappings,rows,users⟩ := recompute_commit_ok rfl computes commits
    refine ⟨rewritten groups mappings rows,?_,?_⟩
    · intro _ uid
      by_cases impacted : uid ∈ run.impacted
      · left
        apply settled_of_recomputed (t := run.session.tenant)
        · rw [users,if_pos impacted]
          rfl
        · intro _ _ _
          rfl
      · right
        have touched := fun touched => impacted (edits.impacted action uid touched)
        refine ⟨?_,?_,?_⟩
        · rw [users,if_neg impacted]
          exact congrFun edits.users uid
        · rw [mem_memberIds,edits.id]
          exact fun before => touched (.inl before)
        · rw [mem_memberIds,rows,edits.id,Finset.mem_union,Multiset.mem_toFinset]
          exact fun now => touched (.inr now)
    · intro none
      rw [← acted,action] at none
      contradiction
  | false =>
    simp only [action,Bool.false_eq_true,if_false] at succeeds
    obtain ⟨same,empty⟩ := edits.unchanged action
    have result := commit_ok succeeds
    refine ⟨rewritten (by rw [result]; rfl) (by rw [result]; rfl) (by rw [result]; rfl),?_,?_⟩
    · intro acts
      rw [← acted,action] at acts
      contradiction
    · intro _
      rw [result]
      refine ⟨edits.users,?_⟩
      simp only [PatchRun.current,same,empty]
      simp

end Valdrics.Scim

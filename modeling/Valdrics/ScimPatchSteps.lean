import Valdrics.ScimPatchReadings

/-! One operation of a patch: with a meaning it edits the rows that the queries of the request see,
while the rows it adds wait for the commit; a rejected one fails. -/
namespace Valdrics.Scim

open Enforcement (Uuid Json bind_eq_ok)
open PythonText
open DeferredInserts

variable {rt : Runtime} {t next : Tenant} {run after : PatchRun} {ids : Finset Uuid}
  {loaded : ScimGroup} {meaning : Meaning} {meanings : List Meaning}

def PatchRun.deferred (run : PatchRun) : Deferred Uuid :=
  { rows := run.session.tenant.memberIds run.group.id, waiting := run.session.pending.map (·.2) }

structure Does (rt : Runtime) (meaning : Meaning) (run after : PatchRun) : Prop where
  group : after.group = meaning.overwrite rt run.group
  members : after.deferred = meaning.members.elim run.deferred run.deferred.edit

theorem replaceMembers_does (quiet : run.session.autoflush = false) (ids : Finset Uuid) :
    ∃ after, run.replaceMembers ids = .ok after ∧ after.group = run.group ∧
      after.deferred = run.deferred.assign ids := by
  have calm : run.current.autoflush = false := quiet
  cases sets : run.current.setGroupMemberships run.group.id ids with
  | error failure =>
    simp [Session.setGroupMemberships,Session.beforeQuery,calm,bind,Except.bind,pure,
      Except.pure] at sets
  | ok result =>
    obtain ⟨written,impacted⟩ := result
    refine ⟨{ run with
      session := written, memberAction := true, impacted := run.impacted ∪ impacted },?_,rfl,?_⟩
    · simp only [PatchRun.replaceMembers,sets,bind,Except.bind,pure,Except.pure]
    · obtain ⟨_,rfl⟩ := setGroupMemberships_ok calm sets
      simp only [PatchRun.deferred,PatchRun.current,Deferred.assign,Deferred.mk.injEq]
      constructor
      · ext uid
        rw [mem_memberIds,Finset.mem_inter,mem_memberIds]
        have member := @mem_withoutLeavers run.session.tenant run.group.id ids (run.group.id,uid)
        simpa [Tenant.withoutLeavers] using member
      · simp [Multiset.map_map]

theorem fieldAdd_made (ids rows : Finset Uuid) : (fieldAdd ids).made rows = ids := by
  ext uid
  simp [fieldAdd]

theorem memberReplace_made (ids rows : Finset Uuid) : (memberReplace ids).made rows = ids := by
  ext uid
  simp [memberReplace]

theorem memberAdd_made (ids rows : Finset Uuid) : (memberAdd ids).made rows = rows ∪ ids := by
  ext uid
  simp [memberAdd,or_comm]

theorem memberRemove_made (ids rows : Finset Uuid) : (memberRemove ids).made rows = rows \ ids := by
  ext uid
  simp [memberRemove]

theorem memberClear_made (rows : Finset Uuid) : memberClear.made rows = rows \ ∅ := by
  ext uid
  simp [memberClear]

theorem replaceMembers_edits (quiet : run.session.autoflush = false) (edit : Edit Uuid)
    (made : edit.made (run.session.tenant.memberIds run.group.id) = ids) :
    ∃ after, run.replaceMembers ids = .ok after ∧ after.group = run.group ∧
      after.deferred = run.deferred.edit edit := by
  cases made
  exact replaceMembers_does quiet _

/-- The references of a list are resolved in the directory, which the operations leave alone. -/
theorem resolveList_eq (users : run.session.tenant.users = t.users) (items : List Json) :
    run.resolveList items = (validateRefs items).map t.resolveMemberUserIds := by
  have same : run.session.tenant.resolveMemberUserIds = t.resolveMemberUserIds := by
    funext refs
    simp only [Tenant.resolveMemberUserIds,users]
  rw [PatchRun.resolveList,same]

theorem resolved_some {items : List Json} (resolved : t.resolved items = some ids)
    (users : run.session.tenant.users = t.users) : run.resolveList items = .ok ids := by
  rw [resolveList_eq users]
  simp only [Tenant.resolved] at resolved
  cases refs : validateRefs items with
  | error failure => simp [refs,Except.toOption] at resolved
  | ok refs' =>
    rw [refs] at resolved
    exact congrArg Except.ok (Option.some.inj resolved)

theorem resolved_none {items : List Json} (resolved : t.resolved items = none)
    (run : PatchRun) : ∃ failure, run.resolveList items = .error failure := by
  simp only [Tenant.resolved] at resolved
  cases refs : validateRefs items with
  | error failure => exact ⟨failure,by simp [PatchRun.resolveList,refs,Except.map]⟩
  | ok refs' => simp [refs,Except.toOption] at resolved

def byPath (rt : Runtime) (path : String) : Option Uuid :=
  if (rt.text.lower path).startsWith "members[" then parseMemberFilter rt path else none

/-- The run whose session holds the group as the operations have left it. -/
def PatchRun.reading (run : PatchRun) : PatchRun := { run with session := run.current }

theorem patchMembers_add (quiet : run.session.autoflush = false) (path : String) (value : Json) :
    run.patchMembers rt .add path value = (do
      let toAdd ← match value with
        | .obj members => run.reading.resolveList [.obj members]
        | .arr items => run.reading.resolveList items
        | _ => .error (invalidValue "members add value must be list or object")
      run.reading.replaceMembers (run.session.tenant.memberIds run.group.id ∪ toAdd)) := by
  have calm : run.current.autoflush = false := quiet
  simp only [PatchRun.patchMembers,Session.beforeQuery,calm,Bool.false_eq_true,if_false]
  rfl

theorem patchMembers_replace (quiet : run.session.autoflush = false) (path : String) (value : Json) :
    run.patchMembers rt .replace path value = (match value with
      | .arr items => do
        let memberUserIds ← run.reading.resolveList items
        run.reading.replaceMembers memberUserIds
      | _ => .error (invalidValue "members patch value must be a list")) := by
  have calm : run.current.autoflush = false := quiet
  simp only [PatchRun.patchMembers,Session.beforeQuery,calm,Bool.false_eq_true,if_false]
  rfl

theorem patchMembers_remove (quiet : run.session.autoflush = false) (path : String) (value : Json) :
    run.patchMembers rt .remove path value = (do
      let toRemove ← match byPath rt path, value with
        | some uid, _ => .ok {uid}
        | none, .obj members => run.reading.resolveList [.obj members]
        | none, .arr items => run.reading.resolveList items
        | none, .null => .ok ∅
        | none, _ => .error (invalidValue "members remove value must be list or object")
      run.reading.replaceMembers (run.session.tenant.memberIds run.group.id \ toRemove)) := by
  have calm : run.current.autoflush = false := quiet
  simp only [PatchRun.patchMembers,Session.beforeQuery,calm,Bool.false_eq_true,if_false]
  rfl

theorem patchMembers_edits {op : PatchOp} {path : String} {value : Json} {edit : Edit Uuid}
    (quiet : run.session.autoflush = false) (users : run.session.tenant.users = t.users)
    (unfiltered : op = .remove → byPath rt path = none)
    (edits : membersEdit t op value = some edit) :
    ∃ after, run.patchMembers rt op path value = .ok after ∧ after.group = run.group ∧
      after.deferred = run.deferred.edit edit := by
  have resolves : ∀ {items ids}, t.resolved items = some ids →
      run.reading.resolveList items = .ok ids := fun resolved =>
    @resolved_some t run.reading _ _ resolved users
  have calm : run.reading.session.autoflush = false := quiet
  cases op with
  | replace =>
    rw [patchMembers_replace quiet]
    cases value with
    | arr items =>
      obtain ⟨ids,resolved,rfl⟩ := Option.map_eq_some_iff.mp edits
      simp only [resolves resolved,bind,Except.bind]
      exact replaceMembers_edits calm (memberReplace ids) (memberReplace_made ids _)
    | _ => cases edits
  | add =>
    rw [patchMembers_add quiet]
    cases value with
    | obj ref =>
      obtain ⟨ids,resolved,rfl⟩ := Option.map_eq_some_iff.mp edits
      simp only [resolves resolved,bind,Except.bind]
      exact replaceMembers_edits calm (memberAdd ids) (memberAdd_made ids _)
    | arr items =>
      obtain ⟨ids,resolved,rfl⟩ := Option.map_eq_some_iff.mp edits
      simp only [resolves resolved,bind,Except.bind]
      exact replaceMembers_edits calm (memberAdd ids) (memberAdd_made ids _)
    | _ => cases edits
  | remove =>
    rw [patchMembers_remove quiet,unfiltered rfl]
    cases value with
    | obj ref =>
      obtain ⟨ids,resolved,rfl⟩ := Option.map_eq_some_iff.mp edits
      simp only [resolves resolved,bind,Except.bind]
      exact replaceMembers_edits calm (memberRemove ids) (memberRemove_made ids _)
    | arr items =>
      obtain ⟨ids,resolved,rfl⟩ := Option.map_eq_some_iff.mp edits
      simp only [resolves resolved,bind,Except.bind]
      exact replaceMembers_edits calm (memberRemove ids) (memberRemove_made ids _)
    | null =>
      cases edits
      exact replaceMembers_edits calm memberClear (memberClear_made _)
    | _ => cases edits

/-- A value of the wrong type is refused, unless the filter of a removal names the user. -/
theorem patchMembers_refuses {op : PatchOp} {path : String} {value : Json}
    (quiet : run.session.autoflush = false) (unfiltered : op = .remove → byPath rt path = none)
    (wrong : membersEdit t op value = none) :
    ∃ failure, run.patchMembers rt op path value = .error failure := by
  have unresolved : ∀ {items}, t.resolved items = none →
      ∃ failure, run.reading.resolveList items = .error failure := fun resolved =>
    resolved_none resolved run.reading
  cases op with
  | replace =>
    rw [patchMembers_replace quiet]
    cases value with
    | arr items =>
      obtain ⟨failure,fails⟩ := unresolved (Option.map_eq_none_iff.mp wrong)
      exact ⟨failure,by simp only [fails,bind,Except.bind]⟩
    | _ => exact ⟨_,rfl⟩
  | add =>
    rw [patchMembers_add quiet]
    cases value with
    | obj ref =>
      obtain ⟨failure,fails⟩ := unresolved (Option.map_eq_none_iff.mp wrong)
      exact ⟨failure,by simp only [fails,bind,Except.bind]⟩
    | arr items =>
      obtain ⟨failure,fails⟩ := unresolved (Option.map_eq_none_iff.mp wrong)
      exact ⟨failure,by simp only [fails,bind,Except.bind]⟩
    | _ => exact ⟨_,rfl⟩
  | remove =>
    rw [patchMembers_remove quiet,unfiltered rfl]
    cases value with
    | obj ref =>
      obtain ⟨failure,fails⟩ := unresolved (Option.map_eq_none_iff.mp wrong)
      exact ⟨failure,by simp only [fails,bind,Except.bind]⟩
    | arr items =>
      obtain ⟨failure,fails⟩ := unresolved (Option.map_eq_none_iff.mp wrong)
      exact ⟨failure,by simp only [fails,bind,Except.bind]⟩
    | null => cases wrong
    | _ => exact ⟨_,rfl⟩

theorem patchMembers_filtered {path : String} {uid : Uuid} (value : Json)
    (quiet : run.session.autoflush = false) (filtered : byPath rt path = some uid) :
    ∃ after, run.patchMembers rt .remove path value = .ok after ∧ after.group = run.group ∧
      after.deferred = run.deferred.edit (memberRemove {uid}) := by
  rw [patchMembers_remove quiet,filtered]
  exact @replaceMembers_edits run.reading _ quiet _ (memberRemove_made {uid} _)

section Fields

variable {fields : List (String × Json)}

theorem nameField_eq {displayName : Option String}
    (named : fieldName rt fields = some displayName) : run.nameField rt fields =
      .ok { run with group := displayName.elim run.group (run.group.rename rt) } := by
  simp only [fieldName] at named
  cases given : fields.lookup "displayName" with
  | none =>
    simp only [given,Option.some.injEq] at named
    simp [PatchRun.nameField,given,← named]
  | some name =>
    simp only [given] at named
    split at named
    · cases named
    next nonempty =>
      cases named
      simp [PatchRun.nameField,given,PatchRun.patchDisplayName,nonempty]

theorem nameField_refuses (blank : fieldName rt fields = none) :
    ∃ failure, run.nameField rt fields = .error failure := by
  simp only [fieldName] at blank
  cases given : fields.lookup "displayName" with
  | none => simp [given] at blank
  | some name =>
    simp only [given] at blank
    split at blank
    next empty =>
      refine ⟨invalidValue "displayName is required",?_⟩
      simp only [PatchRun.nameField,given,PatchRun.patchDisplayName,if_pos empty]
    · cases blank

theorem externalIdField_eq : run.externalIdField rt fields = { run with
    group := ((fields.lookup "externalId").map fun id => cleanId (rt.textOf id)).elim run.group
      (run.group.setExternalId rt) } := by
  cases given : fields.lookup "externalId" with
  | none => simp [PatchRun.externalIdField,given]
  | some id => simp [PatchRun.externalIdField,given,PatchRun.patchExternalId,cleanId]

theorem membersField_edits {op : PatchOp} {members : Option (Edit Uuid)}
    (quiet : run.session.autoflush = false) (users : run.session.tenant.users = t.users)
    (edits : fieldMembers t op fields = some members) :
    ∃ after, run.membersField fields = .ok after ∧ after.group = run.group ∧
      after.deferred = members.elim run.deferred run.deferred.edit := by
  simp only [fieldMembers] at edits
  simp only [PatchRun.membersField]
  cases given : fields.lookup "members" with
  | none =>
    simp only [given,Option.some.injEq] at edits
    cases edits
    exact ⟨run,rfl,rfl,rfl⟩
  | some value =>
    simp only [given] at edits
    cases value with
    | arr items =>
      obtain ⟨ids,resolved,rfl⟩ := Option.map_eq_some_iff.mp edits
      simp only [resolved_some resolved users,bind,Except.bind]
      split
      · exact replaceMembers_edits quiet (fieldAdd ids) (fieldAdd_made ids _)
      · exact replaceMembers_edits quiet (memberReplace ids) (memberReplace_made ids _)
    | _ => cases edits

theorem membersField_refuses {op : PatchOp} (wrong : fieldMembers t op fields = none)
    (run : PatchRun) : ∃ failure, run.membersField fields = .error failure := by
  simp only [fieldMembers] at wrong
  simp only [PatchRun.membersField]
  cases given : fields.lookup "members" with
  | none => simp [given] at wrong
  | some value =>
    simp only [given] at wrong
    cases value with
    | arr items =>
      obtain ⟨failure,fails⟩ := resolved_none (Option.map_eq_none_iff.mp wrong) run
      exact ⟨failure,by simp only [fails,bind,Except.bind]⟩
    | _ => exact ⟨_,rfl⟩

theorem overwrite_id (meaning : Meaning) (group : ScimGroup) :
    (meaning.overwrite rt group).id = group.id := by
  obtain ⟨displayName,externalId,members⟩ := meaning
  cases displayName <;> cases externalId <;> rfl

theorem patchFields_does {op : PatchOp} (quiet : run.session.autoflush = false)
    (users : run.session.tenant.users = t.users)
    (means : fieldsMeaning rt t op fields = some meaning) :
    ∃ after, run.patchFields rt fields = .ok after ∧ Does rt meaning run after := by
  simp only [fieldsMeaning] at means
  obtain ⟨displayName,named,means⟩ := Option.bind_eq_some_iff.mp means
  obtain ⟨members,edits,means⟩ := Option.bind_eq_some_iff.mp means
  cases means
  rw [patchFields_eq,nameField_eq named]
  simp only [bind,Except.bind,externalIdField_eq]
  let meaning : Meaning := {
    displayName
    externalId := (fields.lookup "externalId").map fun id => cleanId (rt.textOf id)
    members }
  have rewritten : PatchRun.deferred { run with group := meaning.overwrite rt run.group } =
      run.deferred := by
    simp only [PatchRun.deferred,overwrite_id]
  obtain ⟨after,rewrites,group,rows⟩ := @membersField_edits t
    { run with group := meaning.overwrite rt run.group } _ _ _ quiet users edits
  rw [rewritten] at rows
  exact ⟨after,rewrites,group,rows⟩

theorem patchFields_refuses {op : PatchOp} (wrong : fieldsMeaning rt t op fields = none) :
    ∃ failure, run.patchFields rt fields = .error failure := by
  rw [patchFields_eq]
  cases named : fieldName rt fields with
  | none =>
    obtain ⟨failure,fails⟩ := @nameField_refuses rt run _ named
    exact ⟨failure,by simp only [fails,bind,Except.bind]⟩
  | some displayName =>
    cases edits : fieldMembers t op fields with
    | none =>
      simp only [nameField_eq named,bind,Except.bind]
      exact membersField_refuses edits _
    | some members => simp [fieldsMeaning,named,edits] at wrong

end Fields

theorem ofMeaning_means {meant : Option Meaning} (is : Reading.ofMeaning meant = .means meaning) :
    meant = some meaning := by
  cases meant with
  | none => cases is
  | some other =>
    cases is
    rfl

theorem ofMeaning_rejected {meant : Option Meaning} (is : Reading.ofMeaning meant = .rejected) :
    meant = none := by
  cases meant with
  | none => rfl
  | some other => cases is

/-- An operation on the fields of the row leaves the members. -/
theorem does_overwrite (group : ScimGroup) (unedited : meaning.members = none)
    (is : group = meaning.overwrite rt run.group) : Does rt meaning run { run with group } := by
  cases is
  refine ⟨rfl,?_⟩
  rw [unedited]
  simp only [PatchRun.deferred,overwrite_id,Option.elim_none]

theorem does_edit {edit : Edit Uuid} (group : after.group = run.group)
    (rows : after.deferred = run.deferred.edit edit) : Does rt { members := some edit } run after :=
  ⟨group,rows⟩

theorem byPath_none {path : String} (plain : ¬(rt.text.lower path).startsWith "members[" = true) :
    byPath rt path = none := if_neg plain

theorem membersPath_plain (path : String) (named : rt.text.lower path = "members") :
    byPath rt path = none := by
  apply byPath_none
  rw [named]
  decide

variable {operation : PatchOperation}

theorem applyOperation_does (quiet : run.session.autoflush = false)
    (users : run.session.tenant.users = t.users)
    (means : operation.reading rt t = .means meaning) :
    ∃ after, run.applyOperation rt operation = .ok after ∧ Does rt meaning run after := by
  obtain ⟨op,path,value⟩ := operation
  simp only [PatchOperation.reading] at means
  simp only [PatchRun.applyOperation]
  generalize strip (path.getD "") = path at means ⊢
  by_cases blank : path = ""
  · simp only [if_pos blank] at means ⊢
    cases op <;> cases value <;> first
      | exact patchFields_does quiet users (ofMeaning_means means)
      | cases means
  simp only [if_neg blank] at means ⊢
  by_cases named : rt.text.lower path = "displayname"
  · simp only [if_pos named] at means ⊢
    cases op <;> cases value <;> first
      | cases means
      | skip
    all_goals
      simp only at means
      split at means
      · cases means
      next nonempty =>
        cases means
        simp only [PatchRun.patchDisplayName,if_neg nonempty]
        exact ⟨_,rfl,does_overwrite _ rfl rfl⟩
  simp only [if_neg named] at means ⊢
  by_cases external : rt.text.lower path = "externalid"
  · simp only [if_pos external] at means ⊢
    cases op with
    | remove =>
      cases means
      refine ⟨_,rfl,does_overwrite _ rfl ?_⟩
      have blank : strip "" = "" := by decide
      simp [Meaning.overwrite,ScimGroup.setExternalId,Runtime.normalize,blank,
        rt.text.lower_empty,Option.filter]
    | _ =>
      cases value <;> cases means
      exact ⟨_,rfl,does_overwrite _ rfl rfl⟩
  simp only [if_neg external] at means ⊢
  by_cases members : rt.text.lower path = "members"
  · simp only [members,if_true,true_or] at means ⊢
    obtain ⟨edit,edits,rfl⟩ := Option.map_eq_some_iff.mp (ofMeaning_means means)
    obtain ⟨after,patches,group,rows⟩ := patchMembers_edits quiet users
      (fun _ => membersPath_plain path members) edits
    exact ⟨after,patches,does_edit group rows⟩
  simp only [members,if_false,false_or] at means ⊢
  by_cases bracket : (rt.text.lower path).startsWith "members[" = true
  · rw [if_pos bracket] at means ⊢
    split at means
    next uid filtered =>
      cases means
      obtain ⟨after,patches,group,rows⟩ := patchMembers_filtered value quiet
        (show byPath rt path = some uid by rw [byPath,if_pos bracket,filtered])
      exact ⟨after,patches,does_edit group rows⟩
    · split at means <;> cases means
  · rw [if_neg bracket] at means
    cases means

theorem applyOperation_refuses (quiet : run.session.autoflush = false)
    (rejected : operation.reading rt t = .rejected) :
    ∃ failure, run.applyOperation rt operation = .error failure := by
  obtain ⟨op,path,value⟩ := operation
  simp only [PatchOperation.reading] at rejected
  simp only [PatchRun.applyOperation]
  generalize strip (path.getD "") = path at rejected ⊢
  by_cases blank : path = ""
  · simp only [if_pos blank] at rejected ⊢
    cases op <;> cases value <;> first
      | exact patchFields_refuses (ofMeaning_rejected rejected)
      | exact ⟨_,rfl⟩
  simp only [if_neg blank] at rejected ⊢
  by_cases named : rt.text.lower path = "displayname"
  · simp only [if_pos named] at rejected ⊢
    cases op <;> cases value <;> first
      | exact ⟨_,rfl⟩
      | skip
    all_goals
      simp only at rejected
      split at rejected
      next empty =>
        simp only [PatchRun.patchDisplayName,if_pos empty]
        exact ⟨_,rfl⟩
      · cases rejected
  simp only [if_neg named] at rejected ⊢
  by_cases external : rt.text.lower path = "externalid"
  · simp only [if_pos external] at rejected ⊢
    cases op <;> cases value <;> first
      | exact ⟨_,rfl⟩
      | cases rejected
  simp only [if_neg external] at rejected ⊢
  by_cases members : rt.text.lower path = "members"
  · simp only [members,if_true,true_or] at rejected ⊢
    exact patchMembers_refuses quiet (fun _ => membersPath_plain path members)
      (Option.map_eq_none_iff.mp (ofMeaning_rejected rejected))
  simp only [members,if_false,false_or] at rejected ⊢
  by_cases bracket : (rt.text.lower path).startsWith "members[" = true
  · rw [if_pos bracket] at rejected ⊢
    split at rejected
    · cases rejected
    next unfiltered =>
      split at rejected
      · cases rejected
      next wrong =>
        apply patchMembers_refuses (t := t) quiet
        · intro removes
          cases filter : byPath rt path with
          | none => rfl
          | some uid =>
            rw [byPath,if_pos bracket] at filter
            exact (unfiltered uid removes filter).elim
        · simpa using wrong
  · rw [if_neg bracket]
    exact ⟨_,rfl⟩

end Valdrics.Scim

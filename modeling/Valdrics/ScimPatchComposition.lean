import Valdrics.RoleFollowing
import Valdrics.ScimPatchSteps

/-! When the patch of a group is the composition of its operations: what the whole list leaves in
the session, what the commit writes of it, and on which lists that is what they mean. -/
namespace Valdrics.Scim

open Enforcement (Uuid Json bind_eq_ok)
open PythonText
open DeferredInserts

variable {rt : Runtime} {t next : Tenant} {run after : PatchRun} {group : Uuid}
  {loaded : ScimGroup} {meanings : List Meaning} {operations : List RequestedOperation}
  {groupId : String}

theorem Edits.start (t : Tenant) (loaded : ScimGroup) :
    Edits t loaded.id (PatchRun.start t loaded) := by
  constructor <;> simp [PatchRun.start]

theorem applyRequested_edits (edits : Edits t group run)
    (applies : run.applyRequested rt operations = .ok after) : Edits t group after := by
  induction operations generalizing run with
  | nil =>
    cases applies
    exact edits
  | cons requested rest ih =>
    obtain ⟨operation,_,applies⟩ := bind_eq_ok.mp applies
    obtain ⟨middle,first,applies⟩ := bind_eq_ok.mp applies
    exact ih (applyOperation_ok edits first).edits applies

/-- Well formed operations are all carried out, on the row and on the members of the session. -/
theorem applyRequested_does (edits : Edits t group run)
    (means : operations.map (·.reading rt t) = meanings.map .means) :
    ∃ after, run.applyRequested rt operations = .ok after ∧
      after.group = overwriteAll rt meanings run.group ∧
      after.deferred = run.deferred.run (memberEdits meanings) := by
  induction operations generalizing run meanings with
  | nil =>
    cases meanings with
    | nil => exact ⟨run,rfl,rfl,rfl⟩
    | cons meaning rest => cases means
  | cons requested rest ih =>
    cases meanings with
    | nil => cases means
    | cons meaning others =>
      obtain ⟨first,later⟩ := List.cons.inj means
      simp only [RequestedOperation.reading] at first
      split at first
      next op known =>
        obtain ⟨middle,applies,does⟩ := applyOperation_does edits.quiet edits.users first
        obtain ⟨after,applied,row,members⟩ := ih (applyOperation_ok edits applies).edits later
        refine ⟨after,?_,?_,?_⟩
        · simp only [PatchRun.applyRequested,RequestedOperation.checked,known,bind,Except.bind,
            applies,applied]
        · rw [row,does.group]
          rfl
        · rw [members,does.members]
          cases edited : meaning.members with
          | none => simp [memberEdits,edited]
          | some edit =>
            simp only [memberEdits,List.filterMap_cons,edited]
            rfl
      · cases first

theorem applyRequested_refuses (edits : Edits t group run)
    (rejected : ∃ operation ∈ operations, operation.reading rt t = .rejected) :
    ∃ failure, run.applyRequested rt operations = .error failure := by
  induction operations generalizing run with
  | nil => simp at rejected
  | cons requested rest ih =>
    simp only [PatchRun.applyRequested]
    cases known : PatchOp.ofText (strip (rt.text.lower requested.op)) with
    | none =>
      exact ⟨invalidValue "Unsupported patch op",by
        simp only [RequestedOperation.checked,known,bind,Except.bind]⟩
    | some op =>
      simp only [RequestedOperation.checked,known,bind,Except.bind]
      cases applies : run.applyOperation rt
          { op, path := requested.path, value := requested.value } with
      | error failure => exact ⟨failure,rfl⟩
      | ok middle =>
        apply ih (applyOperation_ok edits applies).edits
        obtain ⟨operation,listed,is⟩ := rejected
        rcases List.mem_cons.mp listed with rfl | listed
        · simp only [RequestedOperation.reading,known] at is
          obtain ⟨failure,fails⟩ := applyOperation_refuses edits.quiet is
          rw [fails] at applies
          cases applies
        · exact ⟨operation,listed,is⟩

def Session.Flushes (s : Session) : Prop :=
  Tenant.UniqueNames s.writtenGroups ∧ (s.tenant.members.val + s.pending).Nodup

theorem flush_refuses {s : Session} (blocked : ¬s.Flushes) : s.flush = .error .integrity :=
  if_neg blocked

theorem flush_writes {s : Session} (free : s.Flushes) : ∃ written, s.flush = .ok written ∧
    written = { s with
      tenant := { s.tenant with
        groups := s.writtenGroups
        members := s.tenant.members ∪ s.pending.toFinset }
      pending := 0 } := ⟨_,if_pos free,rfl⟩

theorem commit_writes {s : Session} (free : s.Flushes) : ∃ next, s.commit = .ok next := by
  obtain ⟨written,flushes,_⟩ := flush_writes free
  exact ⟨written.tenant,by rw [Session.commit,flushes]; rfl⟩

theorem commit_refuses {s : Session} (blocked : ¬s.Flushes) : s.commit = .error .integrity := by
  rw [Session.commit,flush_refuses blocked]
  rfl

def PatchRun.ready (run : PatchRun) : Session := { run.current with autoflush := true }

theorem finish_refuses (blocked : ¬run.ready.Flushes) :
    ∃ failure, run.finish rt = .error failure := by
  have commits := commit_refuses blocked
  simp only [PatchRun.finish]
  split
  · simp only [Session.recomputeEntitlements]
    split
    · exact ⟨_,commits⟩
    · have flushes := flush_refuses blocked
      refine ⟨.integrity,?_⟩
      simp only [PatchRun.ready] at flushes
      simp only [Session.beforeQuery,if_true,flushes,bind,Except.bind]
  · exact ⟨_,commits⟩

theorem flushes_again {s written : Session} (free : s.Flushes)
    (is : written = { s with
      tenant := { s.tenant with
        groups := s.writtenGroups
        members := s.tenant.members ∪ s.pending.toFinset }
      pending := 0 }) (users : Uuid → Option User) :
    Session.Flushes { written with tenant := { written.tenant with users } } := by
  cases is
  refine ⟨?_,?_⟩
  · have again := writtenGroups_again s { s.tenant with
      groups := s.writtenGroups
      members := s.tenant.members ∪ s.pending.toFinset
      users } rfl
    have same : Session.writtenGroups { s with
        tenant := { s.tenant with
          groups := s.writtenGroups
          members := s.tenant.members ∪ s.pending.toFinset
          users }
        pending := 0 } = s.writtenGroups := again
    rw [same]
    exact free.1
  · rw [add_zero]
    exact (s.tenant.members ∪ s.pending.toFinset).nodup

theorem finish_writes (free : run.ready.Flushes) : ∃ next, run.finish rt = .ok next := by
  have commits := commit_writes free
  simp only [PatchRun.finish]
  split
  · simp only [Session.recomputeEntitlements]
    split
    · exact commits
    · obtain ⟨written,flushes,is⟩ := flush_writes free
      simp only [PatchRun.ready] at flushes
      simp only [Session.beforeQuery,if_true,flushes,bind,Except.bind]
      exact commit_writes (flushes_again free is _)
  · exact commits

theorem finish_ok (finishes : run.finish rt = .ok next) :
    next.groups = replaceGroup run.session.tenant.groups run.group ∧
      next.members = run.session.tenant.members ∪ run.session.pending.toFinset := by
  simp only [PatchRun.finish] at finishes
  split at finishes
  · obtain ⟨written,computes,commits⟩ := bind_eq_ok.mp finishes
    obtain ⟨groups,_,members,_⟩ := recompute_commit_ok rfl computes commits
    exact ⟨groups,members⟩
  · have result := commit_ok finishes
    exact ⟨by rw [result]; rfl,by rw [result]; rfl⟩

theorem pending_eq (edits : Edits t group run) :
    run.session.pending = run.deferred.waiting.map fun uid => (group,uid) := by
  rw [PatchRun.deferred,Multiset.map_map]
  symm
  rw [Multiset.map_congr rfl (g := id)]
  · exact Multiset.map_id _
  · rintro ⟨other,uid⟩ waits
    simpa using (edits.pending _ waits).symm

theorem nodup_rows_iff (edits : Edits t group run)
    (apart : ∀ uid ∈ run.deferred.waiting, uid ∉ run.deferred.rows) :
    (run.session.tenant.members.val + run.session.pending).Nodup ↔
      run.deferred.waiting.Nodup := by
  rw [Multiset.nodup_add,pending_eq edits]
  have injective : Function.Injective fun uid : Uuid => (group,uid) := fun a b same => by
    simpa using same
  rw [Multiset.nodup_map_iff_of_injective injective]
  constructor
  · exact fun parts => parts.2.1
  · intro nodup
    refine ⟨run.session.tenant.members.nodup,nodup,?_⟩
    rw [Multiset.disjoint_left]
    intro row listed waits
    obtain ⟨uid,waiting,rfl⟩ := Multiset.mem_map.mp waits
    apply apart uid waiting
    simp only [PatchRun.deferred,mem_memberIds,edits.id]
    exact listed

theorem mem_written (edits : Edits t group run)
    (members : next.members = run.session.tenant.members ∪ run.session.pending.toFinset) :
    next.memberIds group = run.deferred.contents := by
  ext uid
  rw [mem_memberIds,members,pending_eq edits]
  simp only [Deferred.contents,PatchRun.deferred,edits.id,Finset.mem_union,Multiset.mem_toFinset,
    mem_memberIds,Multiset.mem_map,Prod.mk.injEq,true_and,exists_eq_right]

theorem overwriteAll_view (meanings : List Meaning) (row : ScimGroup) (view : GroupView)
    (name : row.displayName = view.displayName) (external : row.externalId = view.externalId) :
    (overwriteAll rt meanings row).id = row.id ∧
      (overwriteAll rt meanings row).displayName = (applyMeanings meanings view).displayName ∧
      (overwriteAll rt meanings row).externalId = (applyMeanings meanings view).externalId := by
  induction meanings generalizing row view with
  | nil => exact ⟨rfl,name,external⟩
  | cons meaning rest ih =>
    have step := ih (meaning.overwrite rt row) (meaning.apply view)
    rw [overwrite_id] at step
    obtain ⟨displayName,externalId,members⟩ := meaning
    apply step
    · cases displayName <;> cases externalId <;> first | exact name | rfl
    · cases displayName <;> cases externalId <;> first | exact external | rfl

theorem applyMeanings_members (meanings : List Meaning) (view : GroupView) :
    (applyMeanings meanings view).members = meantAll view.members (memberEdits meanings) := by
  induction meanings generalizing view with
  | nil => rfl
  | cons meaning rest ih =>
    have step : (applyMeanings (meaning :: rest) view).members =
        meantAll (meaning.apply view).members (memberEdits rest) := ih (meaning.apply view)
    rw [step]
    cases edited : meaning.members with
    | none => simp [memberEdits,edited,Meaning.apply]
    | some edit =>
      simp only [memberEdits,List.filterMap_cons,edited,Meaning.apply]
      rfl

theorem loadGroup_found (found : t.loadGroup groupId = .ok loaded) :
    t.findGroup loaded.id = some loaded := by
  simp only [Tenant.loadGroup] at found
  split at found
  next group is =>
    cases found
    obtain ⟨id,_,named⟩ := Option.bind_eq_some_iff.mp is
    have same : loaded.id = id := by simpa using List.find?_some named
    rwa [same]
  · cases found

theorem find_replaced {groups : List ScimGroup} {row : ScimGroup}
    (found : groups.find? (·.id = loaded.id) = some loaded) (same : row.id = loaded.id) :
    (replaceGroup groups row).find? (·.id = loaded.id) = some row := by
  induction groups with
  | nil => cases found
  | cons first rest ih =>
    by_cases here : first.id = loaded.id
    · simp [replaceGroup,same,here]
    · have later : rest.find? (·.id = loaded.id) = some loaded := by simpa [here] using found
      simpa [replaceGroup,same,here] using ih later

theorem patched_run (found : t.loadGroup groupId = .ok loaded)
    (means : operations.map (·.reading rt t) = meanings.map .means) :
    ∃ run, (PatchRun.start t loaded).applyRequested rt operations = .ok run ∧
      Edits t loaded.id run ∧ run.group = overwriteAll rt meanings loaded ∧
      run.deferred = Deferred.run { rows := t.memberIds loaded.id } (memberEdits meanings) ∧
      patchGroupRoute rt t groupId operations = run.finish rt := by
  obtain ⟨run,applies,row,members⟩ := applyRequested_does (Edits.start t loaded) means
  refine ⟨run,applies,applyRequested_edits (Edits.start t loaded) applies,row,members,?_⟩
  simp only [patchGroupRoute,found,applies,bind,Except.bind]

theorem flushes_iff (edits : Edits t loaded.id run)
    (row : run.group = overwriteAll rt meanings loaded)
    (members : run.deferred = Deferred.run { rows := t.memberIds loaded.id } (memberEdits meanings)) :
    run.ready.Flushes ↔ Writable rt t loaded meanings := by
  have groups : run.ready.writtenGroups = replaceGroup t.groups (overwriteAll rt meanings loaded) := by
    rw [← row,← edits.groups]
    rfl
  have apart : ∀ uid ∈ run.deferred.waiting, uid ∉ run.deferred.rows := by
    rw [members]
    exact fun uid => waiting_apart
  have nodup := nodup_rows_iff edits apart
  rw [members,nodup_waiting_iff] at nodup
  unfold Session.Flushes Writable NamesFree
  rw [groups]
  exact and_congr Iff.rfl nodup

theorem patched_of_ok (succeeds : patchGroupRoute rt t groupId operations = .ok next) :
    t.patched rt groupId operations = next := by
  simp only [Tenant.patched,succeeds]

theorem patched_of_error {failure : ScimFailure}
    (fails : patchGroupRoute rt t groupId operations = .error failure) :
    t.patched rt groupId operations = t := by
  simp only [Tenant.patched,fails]

theorem folds_iff (found : t.loadGroup groupId = .ok loaded)
    (means : operations.map (·.reading rt t) = meanings.map .means) :
    ((t.patched rt groupId operations).findGroup loaded.id).map
        (t.patched rt groupId operations).view = some (applyMeanings meanings (t.view loaded)) ↔
      Composable rt t loaded meanings := by
  obtain ⟨run,_,edits,row,members,route⟩ := patched_run found means
  have free := flushes_iff edits row members
  by_cases writable : Writable rt t loaded meanings
  · obtain ⟨next,finishes⟩ := @finish_writes rt _ (free.mpr writable)
    obtain ⟨groups,rows⟩ := finish_ok finishes
    rw [patched_of_ok (route.trans finishes)]
    obtain ⟨id,name,external⟩ := @overwriteAll_view rt meanings loaded (t.view loaded) rfl rfl
    have stored : next.findGroup loaded.id = some (overwriteAll rt meanings loaded) := by
      rw [Tenant.findGroup,groups,edits.groups,row]
      exact find_replaced (loadGroup_found found) id
    have contents : next.memberIds loaded.id =
        (Deferred.run { rows := t.memberIds loaded.id } (memberEdits meanings)).contents := by
      rw [mem_written edits rows,members]
    have meant : (applyMeanings meanings (t.view loaded)).members =
        meantAll (t.memberIds loaded.id) (memberEdits meanings) := applyMeanings_members _ _
    have same : next.view (overwriteAll rt meanings loaded) = applyMeanings meanings (t.view loaded) ↔
        (Deferred.run { rows := t.memberIds loaded.id } (memberEdits meanings)).contents =
          meantAll (t.memberIds loaded.id) (memberEdits meanings) := by
      rw [← contents]
      constructor
      · intro same
        have sets := congrArg GroupView.members same
        rw [meant] at sets
        simpa [Tenant.view,id] using sets
      · intro sets
        rw [← meant] at sets
        simp only [Tenant.view,id,sets,name,external]
    rw [stored,Option.map_some,Option.some.injEq,same,Finset.ext_iff]
    have each := forall_congr' fun uid => carriedOut_iff (writable.2 uid)
    rw [each]
    simp only [Composable,writable,true_and,not_true,false_and,or_false]
  · obtain ⟨failure,refuses⟩ := @finish_refuses rt _ (fun flushes => writable (free.mp flushes))
    rw [patched_of_error (route.trans refuses),loadGroup_found found]
    simp only [Composable,writable,false_and,false_or,not_false_eq_true,true_and,Option.map_some,
      Option.some.injEq]
    exact eq_comm

theorem patched_refuses
    (rejected : ∃ operation ∈ operations, operation.reading rt t = .rejected) :
    t.patched rt groupId operations = t := by
  cases found : t.loadGroup groupId with
  | error failure =>
    have refused : patchGroupRoute rt t groupId operations = .error failure := by
      simp only [patchGroupRoute,found,bind,Except.bind]
    exact patched_of_error refused
  | ok loaded =>
    obtain ⟨failure,fails⟩ := applyRequested_refuses (Edits.start t loaded) rejected
    have refused : patchGroupRoute rt t groupId operations = .error failure := by
      simp only [patchGroupRoute,found,fails,bind,Except.bind]
    exact patched_of_error refused

/-- Who is a member on one side of the request only is among the impacted users. -/
theorem impacted_of_change {uid : Uuid} (edits : Edits t group run)
    (finishes : run.finish rt = .ok next) :
    (uid ∈ next.memberIds group ↔ uid ∈ t.memberIds group) ∨ uid ∈ run.impacted := by
  have rows := (finish_ok finishes).2
  cases acted : run.memberAction with
  | false =>
    left
    obtain ⟨same,empty⟩ := edits.unchanged acted
    rw [mem_memberIds,mem_memberIds,rows,same,empty]
    simp
  | true =>
    by_cases impacted : uid ∈ run.impacted
    · exact .inr impacted
    · left
      have untouched := fun touched => impacted (edits.impacted acted uid touched)
      have before : uid ∉ t.memberIds group := fun member =>
        untouched (.inl (mem_memberIds.mp member))
      have now : uid ∉ next.memberIds group := by
        rw [mem_memberIds,rows,Finset.mem_union,Multiset.mem_toFinset]
        exact fun member => untouched (.inr member)
      exact iff_of_false now before

/-- The patch of a group is the composition of its operations exactly when these are composable. -/
theorem composed_iff : Composed rt t groupId operations ↔
    ∀ loaded meanings, t.loadGroup groupId = .ok loaded →
      operations.map (·.reading rt t) = meanings.map .means →
      Composable rt t loaded meanings := by
  constructor
  · intro composed loaded meanings found means
    exact (folds_iff found means).mp (composed.folds loaded meanings found means)
  · intro composable
    refine ⟨?_,patched_refuses,?_⟩
    · intro loaded meanings found means
      exact (folds_iff found means).mpr (composable loaded meanings found means)
    · intro loaded run next found applies finishes uid
      exact impacted_of_change (applyRequested_edits (Edits.start t loaded) applies) finishes

def admins : ScimGroup := { id := 1, displayName := "Admins", displayNameNorm := "admins" }

def twoUsers : Tenant :=
  { groups := [admins]
    members := {(1,7)}
    users := fun uid => if uid = 7 ∨ uid = 8 then some { role := "member" } else none }

def addOther : List RequestedOperation :=
  [{ op := "add"
     value := .obj [("members",.arr [.obj [("value",
       .str "00000000-0000-0000-0000-000000000008")]])] }]

/-- The user who is added replaces the member. -/
theorem added_member_replaces :
    ¬Composed asciiRuntime twoUsers "00000000-0000-0000-0000-000000000001" addOther := by
  intro composed
  have folded := composed.folds admins [{ members := some (fieldAdd {8}) }] rfl rfl
  revert folded
  decide

end Valdrics.Scim

import Valdrics.ActionExecution
import Valdrics.EnforcementOperations

/-! The queue of actions under sequential calls: which rows the lease query can see, and
which waiting actions it never returns to. -/
namespace Valdrics.Enforcement

inductive ActionOperation where
  | createActionRequest (call : ActionCreateCall)
  | leaseNextAction (call : ActionLeaseCall)
  | finishAction (id : Uuid) (call : FinishCall)
  /-- The other tables are the enforcement service's to change. -/
  | otherTables (store : Store) (execution : Option PolicyDocumentExecutionMatrix)

namespace ActionStore

def Fresh (s : ActionStore) : Prop := s.actions = .empty

end ActionStore

structure ActionExecution.Regular (action : ActionExecution) : Prop where
  queued : action.status = .queued →
    action.attemptCount < action.maxAttempts ∧ action.leaseExpiresAt = none
  running : action.status = .running → action.leaseExpiresAt ≠ none

structure ActionExecution.Waiting (action : ActionExecution) (now : Nat) : Prop where
  live : action.status.terminal = false
  attemptsLeft : action.attemptCount < action.maxAttempts
  due : action.nextRetryAt ≤ now
  unleased : ∀ expiry, action.leaseExpiresAt = some expiry → expiry ≤ now

namespace ActionOrchestrator

variable (orchestrator : ActionOrchestrator)

def run (s : ActionStore) (operation : ActionOperation) : ActionStore :=
  match operation with
  | .createActionRequest call => (orchestrator.createActionRequest s call).1
  | .leaseNextAction call => (orchestrator.leaseNextAction s call).1
  | .finishAction id call => (orchestrator.finishAction s id call).1
  | .otherTables store execution => { s with store, execution }

def Step (s : ActionStore) (operation : ActionOperation) (next : ActionStore) : Prop :=
  next = orchestrator.run s operation

variable {orchestrator}

theorem newAction_eq_ok {s : ActionStore} {call : ActionCreateCall} {action : ActionExecution}
    (made : orchestrator.newAction s call = .ok action) : action.status = .queued ∧
      action.attemptCount = 0 ∧ 1 ≤ action.maxAttempts ∧ action.leaseExpiresAt = none := by
  obtain ⟨_,_,afterType⟩ := bind_eq_ok.mp made
  obtain ⟨_,_,afterLength⟩ := bind_eq_ok.mp afterType
  obtain ⟨_,_,afterTarget⟩ := bind_eq_ok.mp afterLength
  obtain ⟨_,_,checked⟩ := bind_eq_ok.mp afterTarget
  split at checked
  · exact absurd checked (by simp)
  · obtain ⟨_,_,afterApproval⟩ := bind_eq_ok.mp checked
    obtain ⟨_,attempts,afterAttempts⟩ := bind_eq_ok.mp afterApproval
    obtain ⟨_,_,afterBackoff⟩ := bind_eq_ok.mp afterAttempts
    obtain ⟨_,_,result⟩ := bind_eq_ok.mp afterBackoff
    obtain rfl := Except.ok.inj result
    rw [rejectIf_eq_ok] at attempts
    refine ⟨rfl,rfl,?_,rfl⟩
    dsimp only
    omega

theorem leaseCandidate_eq_some {s : ActionStore} {call : ActionLeaseCall}
    {candidate : Uuid × ActionExecution}
    (chosen : orchestrator.leaseCandidate s call = some candidate) :
    s.actions.find candidate.1 = some candidate.2 ∧
      candidate.2.leasable call.asOf (call.actionType.map orchestrator.normalizeActionType) =
        true := by
  have listed := List.mem_of_mem_head? chosen
  have kept := (List.perm_insertionSort _ _).mem_iff.mp listed
  rw [List.mem_filter] at kept
  exact ⟨Table.find_eq_some_iff.mpr kept.1,kept.2⟩

theorem leaseCandidate_eq_none {s : ActionStore} {call : ActionLeaseCall}
    (absent : orchestrator.leaseCandidate s call = none) {id : Uuid} {action : ActionExecution}
    (found : s.actions.find id = some action) :
    action.leasable call.asOf (call.actionType.map orchestrator.normalizeActionType) = false := by
  unfold leaseCandidate at absent
  rw [List.head?_eq_none_iff] at absent
  by_contra leasable
  have kept : (id,action) ∈ s.actions.rows.filter fun entry => entry.2.leasable call.asOf
      (call.actionType.map orchestrator.normalizeActionType) :=
    List.mem_filter.mpr ⟨Table.find_eq_some_iff.mp found,by simpa using leasable⟩
  have listed := (List.perm_insertionSort (fun a b : Uuid × ActionExecution =>
    a.2.nextRetryAt < b.2.nextRetryAt ∨
      (a.2.nextRetryAt = b.2.nextRetryAt ∧ a.2.createdAt ≤ b.2.createdAt)) _).mem_iff.mpr kept
  rw [absent] at listed
  simp at listed

theorem claimable_self {action : ActionExecution} {asOf : Nat} {actionType : Option String}
    (leasable : action.leasable asOf actionType = true) : action.claimable action asOf = true := by
  simp only [ActionExecution.leasable,Bool.and_eq_true,decide_eq_true_eq] at leasable
  obtain ⟨⟨⟨⟨queued,_⟩,_⟩,unleased⟩,_⟩ := leasable
  simp [ActionExecution.claimable,queued,unleased]

/-- Alone, the first try either finds no row or leases one. -/
theorem leaseNextAction_cases (orchestrator : ActionOrchestrator) (s : ActionStore) (call : ActionLeaseCall) :
    (orchestrator.leaseCandidate s call = none ∧
      orchestrator.leaseNextAction s call = (s,none)) ∨
    ∃ id candidate, s.actions.find id = some candidate ∧
      candidate.leasable call.asOf (call.actionType.map orchestrator.normalizeActionType) = true ∧
      orchestrator.leaseNextAction s call =
        ({ s with actions := s.actions.update id (·.lease candidate call) fun _ => rfl },some id) := by
  unfold leaseNextAction leaseLoop
  cases chosen : orchestrator.leaseCandidate s call with
  | none => exact Or.inl ⟨rfl,rfl⟩
  | some entry =>
    obtain ⟨id,candidate⟩ := entry
    obtain ⟨found,leasable⟩ := leaseCandidate_eq_some chosen
    have claimed : claimLease s id candidate call = some
        { s with actions := s.actions.update id (·.lease candidate call) fun _ => rfl } := by
      unfold claimLease
      rw [found]
      exact if_pos (claimable_self leasable)
    refine Or.inr ⟨id,candidate,found,leasable,?_⟩
    simp only [claimed]

/-- A finishing call that runs alone writes the row it computed. -/
theorem flush_finished {call : FinishCall} {loaded action : ActionExecution}
    (finished : Finishes call loaded action) :
    (loaded.flush loaded action).status = action.status ∧
      (loaded.flush loaded action).leaseExpiresAt = none := by
  refine ⟨ActionExecution.flushed_same _ _,?_⟩
  exact (ActionExecution.flushed_same loaded.leaseExpiresAt action.leaseExpiresAt).trans
    finished.unleased

theorem run_regular {s : ActionStore}
    (regular : ∀ id action, s.actions.find id = some action → action.Regular)
    (operation : ActionOperation) :
    ∀ id action, (orchestrator.run s operation).actions.find id = some action →
      action.Regular := by
  cases operation with
  | createActionRequest call =>
    intro id action found
    simp only [run,createActionRequest] at found
    split at found
    · exact regular id action found
    · next row made =>
      split at found
      · exact regular id action found
      · split at found
        · next actions inserted =>
          rw [UniqueTable.find_insert inserted] at found
          split at found
          · obtain rfl := Option.some.inj found
            obtain ⟨queued,attempts,positive,unleased⟩ := newAction_eq_ok made
            refine ⟨fun _ => ⟨by omega,unleased⟩,fun running => ?_⟩
            simp [queued] at running
          · exact regular id action found
        · exact regular id action found
  | leaseNextAction call =>
    intro id action found
    rcases leaseNextAction_cases orchestrator s call with ⟨_,same⟩ | ⟨leased,candidate,there,_,same⟩
    · simp only [run,same] at found
      exact regular id action found
    · simp only [run,same] at found
      change (s.actions.toTable.update leased _).find id = some action at found
      rw [Table.find_update] at found
      split at found
      · next here =>
        rw [here, there] at found
        obtain rfl := Option.some.inj found
        refine ⟨fun queued => ?_,fun _ => ?_⟩
        · simp [ActionExecution.lease] at queued
        · simp [ActionExecution.lease]
      · exact regular id action found
  | finishAction target call =>
    intro id action found
    simp only [run,finishAction] at found
    split at found
    · exact regular id action found
    · next loaded there =>
      split at found
      · exact regular id action found
      · next written finished =>
        change (s.actions.toTable.update target _).find id = some action at found
        rw [Table.find_update] at found
        split at found
        · next here =>
          rw [here, there] at found
          obtain rfl := Option.some.inj found
          have spec := finish_eq_ok finished
          obtain ⟨status,unleased⟩ := flush_finished spec
          refine ⟨fun queued => ⟨?_,unleased⟩,fun running => ?_⟩
          · rw [status] at queued
            rcases spec.status with terminal | ⟨_,left⟩
            · simp [queued,ActionStatus.terminal] at terminal
            · exact left
          · rw [status] at running
            rcases spec.status with terminal | ⟨queued,_⟩
            · simp [running,ActionStatus.terminal] at terminal
            · simp [running] at queued
        · exact regular id action found
  | otherTables store execution => exact regular

theorem reachable_regular {s : ActionStore}
    (reachable : Reachable ActionStore.Fresh orchestrator.Step s) :
    ∀ id action, s.actions.find id = some action → action.Regular := by
  apply reachable.induct fun s : ActionStore =>
    ∀ id action, s.actions.find id = some action → action.Regular
  · intro start fresh id action found
    simp [ActionStore.Fresh] at fresh
    simp [fresh,UniqueTable.empty] at found
  · rintro s operation _ rfl regular
    exact run_regular regular operation

theorem leasable_iff {action : ActionExecution} (regular : action.Regular) (now : Nat) :
    action.leasable now none = true ↔ action.status = .queued ∧ action.nextRetryAt ≤ now := by
  constructor
  · intro leasable
    simp only [ActionExecution.leasable,Bool.and_eq_true,decide_eq_true_eq] at leasable
    exact leasable.1.1.1
  · rintro ⟨queued,due⟩
    obtain ⟨attempts,unleased⟩ := regular.queued queued
    simp [ActionExecution.leasable,queued,due,attempts,unleased]

theorem leases_iff {s : ActionStore} (now : Nat) (workerId : Uuid)
    (regular : ∀ id action, s.actions.find id = some action → action.Regular) :
    (∃ id, (orchestrator.leaseNextAction s ⟨workerId,none,now⟩).2 = some id) ↔
      ∃ id action, s.actions.find id = some action ∧ action.status = .queued ∧
        action.nextRetryAt ≤ now := by
  rcases leaseNextAction_cases orchestrator s ⟨workerId,none,now⟩ with ⟨absent,same⟩ |
    ⟨leased,candidate,there,leasable,same⟩
  · constructor
    · rintro ⟨id,returned⟩
      simp [same] at returned
    · rintro ⟨id,action,found,queued,due⟩
      have hidden : action.leasable now none = false := leaseCandidate_eq_none absent found
      have seen := (leasable_iff (regular id action found) now).mpr ⟨queued,due⟩
      simp [seen] at hidden
  · have queued := (leasable_iff (regular leased candidate there) now).mp leasable
    constructor
    · intro _
      exact ⟨leased,candidate,there,queued⟩
    · intro _
      exact ⟨leased,by rw [same]⟩

end ActionOrchestrator

def NoneStranded (orchestrator : ActionOrchestrator) (s : ActionStore) (now : Nat) : Prop :=
  (∃ id action, s.actions.find id = some action ∧ action.Waiting now) →
    ∀ workerId, ∃ id, (orchestrator.leaseNextAction s ⟨workerId,none,now⟩).2 = some id

/-- In every reachable state no action is stranded exactly when a due queued action stands
beside every running one whose worker let the lease expire. -/
theorem no_stranded_action_iff (orchestrator : ActionOrchestrator) (s : ActionStore)
    (reachable : Reachable ActionStore.Fresh orchestrator.Step s) (now : Nat) :
    NoneStranded orchestrator s now ↔
      ((∃ id action, s.actions.find id = some action ∧ action.status = .running ∧
          action.Waiting now) →
        ∃ id action, s.actions.find id = some action ∧ action.status = .queued ∧
          action.nextRetryAt ≤ now) := by
  have regular := ActionOrchestrator.reachable_regular reachable
  constructor
  · rintro none_ ⟨id,action,found,_,waiting⟩
    exact (ActionOrchestrator.leases_iff now 0 regular).mp (none_ ⟨id,action,found,waiting⟩ 0)
  · rintro beside ⟨id,action,found,waiting⟩ workerId
    rw [ActionOrchestrator.leases_iff now workerId regular]
    cases status : action.status with
    | queued => exact ⟨id,action,found,status,waiting.due⟩
    | running => exact beside ⟨id,action,found,status,waiting⟩
    | succeeded =>
      have live := waiting.live
      simp [status,ActionStatus.terminal] at live
    | failed =>
      have live := waiting.live
      simp [status,ActionStatus.terminal] at live
    | cancelled =>
      have live := waiting.live
      simp [status,ActionStatus.terminal] at live

namespace Sample

def orchestrator : ActionOrchestrator where
  text := .asciiOnly
  jsonSha256 := fun _ => digest "payload"
  sha256 := digest

def decided : ActionStore where
  store := (service.run store (.evaluateGate (gate 1 "alpha" "first" 60 0))).1

def deploy : ActionCreateCall where
  actionId := 5
  actorId := 1
  decisionId := 1
  actionType := "deploy"
  targetReference := "module.app"
  now := 0
  createdAt := 0

def deployQueued : ActionStore := orchestrator.run decided (.createActionRequest deploy)

def deployLeased : ActionStore :=
  orchestrator.run deployQueued (.leaseNextAction ⟨8,none,0⟩)

theorem deployLeased_reachable : Reachable ActionStore.Fresh orchestrator.Step deployLeased :=
  ⟨decided,[.createActionRequest deploy,.leaseNextAction ⟨8,none,0⟩],rfl,
    .go rfl (.go rfl .stop)⟩

end Sample

/-- While the lease runs nothing waits. -/
theorem none_stranded_leased :
    NoneStranded Sample.orchestrator Sample.deployLeased 1 := by
  apply (no_stranded_action_iff Sample.orchestrator Sample.deployLeased
    Sample.deployLeased_reachable 1).mpr
  rintro ⟨id,action,found,_,waiting⟩
  have leased : ∀ entry ∈ Sample.deployLeased.actions.rows,
      entry.2.leaseExpiresAt = some 300_000_000 := by decide +kernel
  have later := waiting.unleased 300_000_000
    (leased (id,action) (Table.find_eq_some_iff.mp found))
  omega

/-- After the lease has expired the action still waits, and no lease returns it. -/
theorem stranded_action :
    Reachable ActionStore.Fresh Sample.orchestrator.Step Sample.deployLeased ∧
      ¬NoneStranded Sample.orchestrator Sample.deployLeased 300_000_001 := by
  refine ⟨Sample.deployLeased_reachable,fun none_ => ?_⟩
  have row : (Sample.deployLeased.actions.find 5).any (fun action => action.status = .running &&
      action.attemptCount < action.maxAttempts && action.nextRetryAt = 0 &&
      action.leaseExpiresAt = some 300_000_000) = true := by decide +kernel
  obtain ⟨action,found,facts⟩ := (Option.any_eq_true _ _).mp row
  simp only [Bool.and_eq_true,decide_eq_true_eq] at facts
  obtain ⟨⟨⟨running,left⟩,due⟩,lease⟩ := facts
  have waiting : action.Waiting 300_000_001 := by
    refine ⟨by simp [running,ActionStatus.terminal],left,by omega,?_⟩
    intro expiry same
    have at_ := Option.some.inj (lease.symm.trans same)
    omega
  obtain ⟨id,returned⟩ := none_ ⟨5,action,found,waiting⟩ 9
  have none' : (Sample.orchestrator.leaseNextAction Sample.deployLeased
      ⟨9,none,300_000_001⟩).2 = none := by decide +kernel
  exact Option.some_ne_none _ (returned.symm.trans none')

end Valdrics.Enforcement

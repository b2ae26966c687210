import Valdrics.EnforcementOperations
import Valdrics.GatePersistence

/-! Which request's decision a gate returns. Four lookups by key can answer a call: before
the lock, after it, after a refused insert and on the fail-safe path. None compares the
stored fingerprint, so the answer is bound to the request only where the row under its
key is. -/
namespace Valdrics.Enforcement

/-- What is committed when a gate looks: at its opening, under the lock, at its insert, and
after the rollback of a refused insert. -/
structure GateViews where
  opening : Store
  locked : Store
  writing : Store
  fallback : Store

def GateViews.still (store : Store) : GateViews := ⟨store,store,store,store⟩

namespace Service

variable (service : Service)

def persistAmid (views : GateViews) (context : GateEvaluationContext) (call : GateCall)
    (draft : GateDraft) : Committed GateEvaluationResult :=
  match service.persistBody views.writing context call draft fun flushed =>
      service.reserveCredits flushed call draft with
  | .ok (next,approvalId) =>
    match next.decisions.find call.decisionId with
    | none => (views.writing,.error .decisionNotFound)
    | some decision =>
      (next,.ok
        { decisionId := call.decisionId
          decision := decision
          approval := approvalId.bind fun id =>
            (next.approvals.find id).map fun approval => (id,approval)
          ttlSeconds := context.ttlSeconds })
  | .error .integrityError =>
    match views.fallback.getExistingGateResult call.source context.idempotencyKey
        context.ttlSeconds with
    | some existing => (views.fallback,.ok existing)
    | none => (views.fallback,.error .integrityError)
  | .error fault => (views.writing,.error fault)

/-- `evaluate_gate` when other transactions commit between its lookups. -/
def evaluateGateAmid (views : GateViews) (call : GateCall) : Committed GateEvaluationResult :=
  match service.buildGateEvaluationContext views.opening.policy call.source call.gateInput with
  | .error fault => (views.opening,.error fault)
  | .ok context =>
    match views.opening.getExistingGateResult call.source context.idempotencyKey
        context.ttlSeconds with
    | some existing => (views.opening,.ok existing)
    | none =>
      match views.locked.getExistingGateResult call.source context.idempotencyKey
          context.ttlSeconds with
      | some existing => (views.locked,.ok existing)
      | none =>
        match service.draftGateDecision views.locked context call with
        | .error fault => (views.locked,.error fault)
        | .ok draft => service.persistAmid views context call draft

/-- The fail-safe path takes no lock and looks once before its insert. -/
def resolveFailSafeGateAmid (views : GateViews) (call : GateCall) (failure : FailSafe) :
    Committed GateEvaluationResult :=
  match service.buildGateEvaluationContext views.opening.policy call.source call.gateInput with
  | .error fault => (views.opening,.error fault)
  | .ok context =>
    match views.opening.getExistingGateResult call.source context.idempotencyKey
        context.ttlSeconds with
    | some existing => (views.opening,.ok existing)
    | none =>
      match service.draftFailSafe context call failure with
      | .error fault => (views.opening,.error fault)
      | .ok draft => service.persistAmid views context call draft

theorem evaluateGateAmid_still (store : Store) (call : GateCall) :
    service.evaluateGateAmid (.still store) call = service.evaluateGate store call := by
  unfold evaluateGateAmid evaluateGate
  simp only [getExistingGateResultWithLock_eq,GateViews.still]
  cases service.buildGateEvaluationContext store.policy call.source call.gateInput with
  | error fault => rfl
  | ok context =>
    simp only
    cases store.getExistingGateResult call.source context.idempotencyKey context.ttlSeconds <;> rfl

theorem resolveFailSafeGateAmid_still (store : Store) (call : GateCall) (failure : FailSafe) :
    service.resolveFailSafeGateAmid (.still store) call failure =
      service.resolveFailSafeGate store call failure := rfl

structure ReplayBound (call : GateCall) (outcome : Except Fault GateEvaluationResult) : Prop where
  fingerprint : ∀ result, outcome = .ok result →
    service.stableFingerprint call.source call.gateInput = .ok result.decision.requestFingerprint
  notAllowedByOther : ∀ result fingerprint, outcome = .ok result →
    service.stableFingerprint call.source call.gateInput = .ok fingerprint →
    fingerprint ≠ result.decision.requestFingerprint →
    result.decision.decision ≠ .allow ∧ result.decision.decision ≠ .allowWithCredits

def KeyBound (store : Store) (call : GateCall) : Prop :=
  ∀ fingerprint id row, service.stableFingerprint call.source call.gateInput = .ok fingerprint →
    store.decisions.lookup (call.source,
      resolveIdempotencyKey fingerprint call.gateInput.idempotencyKey) = some (id,row) →
    row.requestFingerprint = fingerprint

variable {service}

theorem ReplayBound.ofFingerprint {call : GateCall} {outcome : Except Fault GateEvaluationResult}
    (own : ∀ result, outcome = .ok result → service.stableFingerprint call.source call.gateInput =
      .ok result.decision.requestFingerprint) : service.ReplayBound call outcome := by
  refine ⟨own,?_⟩
  intro result fingerprint returned digested apart
  exact absurd (Except.ok.inj (digested.symm.trans (own result returned))) apart

theorem ReplayBound.ofError {call : GateCall} {fault : Fault} :
    service.ReplayBound call (.error fault) :=
  .ofFingerprint fun _ returned => nomatch returned

section Bound

variable {store : Store} {views : GateViews} {call : GateCall} {context : GateEvaluationContext}
  {draft : GateDraft} {policy : Policy}

theorem KeyBound.replay {existing : GateEvaluationResult}
    (built : service.buildGateEvaluationContext policy call.source call.gateInput = .ok context)
    (bound : service.KeyBound store call)
    (found : store.getExistingGateResult call.source context.idempotencyKey context.ttlSeconds =
      some existing) : service.ReplayBound call (.ok existing) := by
  obtain ⟨fingerprint,digested,rfl⟩ := buildGateEvaluationContext_eq_ok built
  have own := bound fingerprint _ _ digested (getExistingGateResult_eq_some found)
  apply ReplayBound.ofFingerprint
  intro result returned
  obtain rfl := Except.ok.inj returned
  rw [own]
  exact digested

theorem KeyBound.persist
    (built : service.buildGateEvaluationContext policy call.source call.gateInput = .ok context)
    (own : draft.decision.requestFingerprint = context.fingerprint)
    (bound : service.KeyBound views.fallback call) :
    service.ReplayBound call (service.persistAmid views context call draft).2 := by
  unfold persistAmid
  split
  · next next approvalId written =>
    have spec := persistBody_eq_ok (fun _ _ _ => reserveCredits_frame) written
    obtain ⟨payload,finds⟩ := spec.inserted
    have found := finds call.decisionId
    rw [if_pos rfl] at found
    rw [found]
    apply ReplayBound.ofFingerprint
    intro result returned
    obtain rfl := Except.ok.inj returned
    obtain ⟨fingerprint,digested,rfl⟩ := buildGateEvaluationContext_eq_ok built
    simpa [Decision.withPayload,own] using digested
  · split
    · next found => exact bound.replay built found
    · exact .ofError
  · exact .ofError

theorem evaluateGateAmid_bound (opening : service.KeyBound views.opening call)
    (locked : service.KeyBound views.locked call)
    (fallback : service.KeyBound views.fallback call) :
    service.ReplayBound call (service.evaluateGateAmid views call).2 := by
  unfold evaluateGateAmid
  split
  · exact .ofError
  · next built =>
    split
    · next found => exact opening.replay built found
    · split
      · next found => exact locked.replay built found
      · split
        · exact .ofError
        · next drafted =>
          obtain ⟨_,_,_,_,rfl⟩ := draftGateDecision_eq_ok drafted
          exact fallback.persist built rfl

theorem resolveFailSafeGateAmid_bound {failure : FailSafe}
    (opening : service.KeyBound views.opening call)
    (fallback : service.KeyBound views.fallback call) :
    service.ReplayBound call (service.resolveFailSafeGateAmid views call failure).2 := by
  unfold resolveFailSafeGateAmid
  split
  · exact .ofError
  · next built =>
    split
    · next found => exact opening.replay built found
    · split
      · exact .ofError
      · next drafted =>
        obtain ⟨_,_,_,_,rfl⟩ := draftFailSafe_eq_ok drafted
        exact fallback.persist built rfl

end Bound

/-- A gate returns its own request's decision exactly when a row stored under its key, if
there is one, has its fingerprint; and so it does among other transactions when that
holds in every state its lookups see. -/
theorem replay_bound_iff (service : Service) (store : Store) (call : GateCall)
    (failure : FailSafe) :
    (service.ReplayBound call (service.evaluateGate store call).2 ↔ service.KeyBound store call) ∧
    (service.ReplayBound call (service.resolveFailSafeGate store call failure).2 ↔
      service.KeyBound store call) ∧
    ∀ views : GateViews, service.KeyBound views.opening call → service.KeyBound views.locked call →
      service.KeyBound views.fallback call →
      service.ReplayBound call (service.evaluateGateAmid views call).2 ∧
      service.ReplayBound call (service.resolveFailSafeGateAmid views call failure).2 := by
  refine ⟨⟨?_,?_⟩,⟨?_,?_⟩,?_⟩
  · intro replay fingerprint id row digested stored
    obtain ⟨result,returned,rfl⟩ := (answers_with_stored digested stored).1
    exact Except.ok.inj ((replay.fingerprint result returned).symm.trans digested)
  · intro bound
    rw [← evaluateGateAmid_still]
    exact evaluateGateAmid_bound bound bound bound
  · intro replay fingerprint id row digested stored
    obtain ⟨result,returned,rfl⟩ := (answers_with_stored digested stored).2 failure
    exact Except.ok.inj ((replay.fingerprint result returned).symm.trans digested)
  · intro bound
    rw [← resolveFailSafeGateAmid_still]
    exact resolveFailSafeGateAmid_bound bound bound
  · intro views opening locked fallback
    exact ⟨evaluateGateAmid_bound opening locked fallback,
      resolveFailSafeGateAmid_bound opening fallback⟩

end Service

namespace Sample

def alphaSixty : GateCall := gate 1 "alpha" "first" 60 0

/-- Another project asks for more than the hard threshold, under the same key in blanks. -/
def betaNineThousand : GateCall := gate 2 "beta" " first " 9000 0

def allowedOnce : Store := (service.run store (.evaluateGate alphaSixty)).1

theorem allowedOnce_bound : service.KeyBound allowedOnce alphaSixty := by
  intro fingerprint id row digested stored
  have same : ((service.stableFingerprint alphaSixty.source alphaSixty.gateInput).toOption.all
      fun fingerprint => (allowedOnce.decisions.lookup (alphaSixty.source,
        resolveIdempotencyKey fingerprint alphaSixty.gateInput.idempotencyKey)).all fun entry =>
          entry.2.requestFingerprint = fingerprint) = true := by decide
  rw [digested] at same
  simpa [stored,Except.toOption] using same

def decidedFor (outcome : Except Fault GateEvaluationResult) : Except Fault (String × DecisionType) :=
  outcome.map fun result => (result.decision.requestFingerprint,result.decision.decision)

theorem answered_with {outcome : Except Fault GateEvaluationResult} {digested : Except Fault String}
    (same : (decidedFor outcome).map Prod.fst = digested) (isOk : digested.isOk = true) :
    ∃ result, outcome = .ok result ∧ digested = .ok result.decision.requestFingerprint := by
  subst same
  cases outcome with
  | error fault => contradiction
  | ok result => exact ⟨result,rfl,rfl⟩

end Sample

/-- A retry of the first request is answered for itself. -/
theorem replay_bound_retry :
    Sample.service.ReplayBound Sample.alphaSixty
      (Sample.service.evaluateGateAmid (.still Sample.allowedOnce) Sample.alphaSixty).2 :=
  ((Service.replay_bound_iff Sample.service Sample.allowedOnce Sample.alphaSixty ⟨"",[]⟩).2.2
    (.still Sample.allowedOnce) Sample.allowedOnce_bound Sample.allowedOnce_bound
    Sample.allowedOnce_bound).1

/-- On its own the second request is denied; after the first one it gets its ALLOW. -/
theorem replay_of_another_request :
    Reachable Store.Unused Sample.service.Step Sample.allowedOnce ∧
    (Sample.decidedFor (Sample.service.evaluateGate Sample.store Sample.betaNineThousand).2).map
      Prod.snd = .ok .deny ∧
    (Sample.decidedFor (Sample.service.evaluateGate Sample.allowedOnce
      Sample.betaNineThousand).2).map Prod.snd = .ok .allow ∧
    ¬Sample.service.ReplayBound Sample.betaNineThousand
      (Sample.service.evaluateGate Sample.allowedOnce Sample.betaNineThousand).2 := by
  refine ⟨?_,by decide,by decide,?_⟩
  · exact ⟨Sample.store,[.evaluateGate Sample.alphaSixty],⟨rfl,rfl,rfl,rfl⟩,.go .commit .stop⟩
  · intro bound
    have first : (Sample.decidedFor (Sample.service.evaluateGate Sample.allowedOnce
        Sample.betaNineThousand).2).map Prod.fst = Sample.service.stableFingerprint
          Sample.alphaSixty.source Sample.alphaSixty.gateInput := by decide
    have apart : Sample.service.stableFingerprint Sample.alphaSixty.source
        Sample.alphaSixty.gateInput ≠ Sample.service.stableFingerprint
          Sample.betaNineThousand.source Sample.betaNineThousand.gateInput := by decide
    obtain ⟨result,returned,answered⟩ := Sample.answered_with first (by decide)
    exact apart (answered.trans (bound.fingerprint result returned).symm)

end Valdrics.Enforcement

import Valdrics.GatePersistence
import Valdrics.EnforcementOperations

/-! Two runs of the gate, one with the dry runs and one without them. A dry run writes a
row that reserves nothing and asks for no approval; a real call can notice it only by
finding it under its own key. -/
namespace Valdrics.Enforcement

open PythonText

structure Decision.Dry (row : Decision) : Prop where
  asked : row.requestPayload.dryRun = true
  inactive : row.reservationActive = false
  noted : "dry_run" ∈ row.reasonCodes

structure Decision.Real (row : Decision) : Prop where
  asked : row.requestPayload.dryRun = false
  unnoted : "dry_run" ∉ row.reasonCodes

theorem Decision.Real.withPayload {row : Decision} {payload : ResponsePayload} (real : row.Real) :
    (row.withPayload payload).Real := ⟨real.asked,real.unnoted⟩

namespace Service

variable {service : Service}

/-- Stripped and lowered, the characters are ASCII ones and others than those of `dry_run`. -/
def readsOtherwise (chars : List Char) : Bool :=
  (stripList chars).all (fun c => c.toNat < 128) &&
    (stripList chars).map lowerAsciiChar != ['d','r','y','_','r','u','n']

theorem vocabulary_reads_otherwise :
    ∀ reason ∈ Gate.reasonVocabulary, readsOtherwise reason.toList = true := by
  simp [Gate.reasonVocabulary,Waterfall.modeViolationReasonSuffix]
  decide +kernel

/-- No reason of a real evaluation reads `dry_run`, in any spelling that is lowered to it. -/
theorem vocabulary_not_dry (service : Service) :
    ∀ reason ∈ Gate.reasonVocabulary, service.text.lower (strip reason) ≠ "dry_run" := by
  intro reason member same
  have reads := vocabulary_reads_otherwise reason member
  simp only [readsOtherwise,Bool.and_eq_true,bne_iff_ne,ne_eq] at reads
  rw [service.text.ascii (strip reason) (by simpa [IsAscii,strip] using reads.1)] at same
  apply reads.2
  have chars := congrArg String.toList same
  simpa [lowerAscii,strip] using chars

theorem draftFrom_dry {context : GateEvaluationContext} {call : GateCall} {reads : GateReads}
    {monthlyDelta : Int} {hourlyDelta : Option Int} (dry : call.gateInput.dryRun = true) :
    (service.draftFrom context call reads monthlyDelta hourlyDelta).decision.Dry := by
  refine ⟨dry,?_,?_⟩
  · simp [draftFrom,Gate.reservationActive,dry]
  · have lowered : service.text.lower (strip "dry_run") = "dry_run" := by
      rw [service.text.ascii _ (by decide)]
      decide
    refine (mem_uniqueReasonCodes service _).mpr ⟨⟨"dry_run",?_,lowered⟩,by decide⟩
    simp [Gate.assess,Gate.applyDryRun,dry]

theorem draftFrom_real {context : GateEvaluationContext} {call : GateCall} {reads : GateReads}
    {monthlyDelta : Int} {hourlyDelta : Option Int} (real : call.gateInput.dryRun = false) :
    (service.draftFrom context call reads monthlyDelta hourlyDelta).decision.Real := by
  refine ⟨real,?_⟩
  intro noted
  obtain ⟨⟨reason,member,lowered⟩,_⟩ := (mem_uniqueReasonCodes service _).mp noted
  have known : reason ∈ Gate.reasonVocabulary := by
    rcases List.mem_append.mp member with unbudgeted | assessed
    · unfold noBudgetReason at unbudgeted
      split at unbudgeted
      · obtain rfl := List.mem_singleton.mp unbudgeted
        decide
      · simp at unbudgeted
    · rcases Gate.assess_reasons _ _ _ _ _ _ _ reason assessed with known | ⟨dry,_⟩
      · exact known
      · simp [real] at dry
  exact vocabulary_not_dry service reason known lowered

end Service

namespace Store

def recast (store : Store)
    (decisions : UniqueTable Uuid (Source × String) Decision Decision.idempotency)
    (ledger : List DecisionLedger) : Store := { store with decisions, ledger }

section Recast

variable {store : Store} {ledger : List DecisionLedger}
  {decisions : UniqueTable Uuid (Source × String) Decision Decision.idempotency}

theorem reserveOn_recast {decisionId grantId : Uuid} {pool : CreditPoolType} {amount : Int}
    {positive : 0 < amount} :
    (store.recast decisions ledger).reserveOn decisionId grantId pool amount positive =
      (store.reserveOn decisionId grantId pool amount positive).map (·.recast decisions ledger) := by
  unfold reserveOn recast
  cases store.allocations.insert (decisionId,grantId) _ <;> rfl

theorem reserveLoop_recast {decisionId : Uuid} {pool : CreditPoolType}
    (grants : List (Uuid × CreditGrant)) (remaining : Int) (store : Store) :
    reserveLoop decisionId pool grants remaining (store.recast decisions ledger) =
      (reserveLoop decisionId pool grants remaining store).map fun result =>
        (result.1.recast decisions ledger,result.2) := by
  induction grants generalizing remaining store with
  | nil => rfl
  | cons entry rest ih =>
    unfold reserveLoop
    split
    · rfl
    · split
      · exact ih remaining store
      · dsimp only
        rw [reserveOn_recast]
        cases store.reserveOn decisionId entry.1 pool _ _ with
        | error fault => rfl
        | ok next =>
          simp only [Except.map,bind,Except.bind]
          rw [ih]
          cases reserveLoop decisionId pool rest _ next <;> rfl

theorem reserveFromRows_recast {decisionId : Uuid} {pool : CreditPoolType}
    (rows : List (Uuid × CreditGrant)) (target : Int) :
    (store.recast decisions ledger).reserveFromRows decisionId pool rows target =
      (store.reserveFromRows decisionId pool rows target).map fun result =>
        (result.1.recast decisions ledger,result.2) := by
  unfold reserveFromRows
  split
  · rfl
  · rw [reserveLoop_recast]
    cases reserveLoop decisionId pool rows target store with
    | error fault => rfl
    | ok result =>
      simp only [Except.map,bind,Except.bind]
      cases refuse (0 < result.2.2) _ <;> rfl

theorem reserveCreditForDecision_recast {decisionId : Uuid} {scope : String}
    {reservedCredit emergencyCredit : Int} {now : Nat} :
    (store.recast decisions ledger).reserveCreditForDecision decisionId scope reservedCredit
        emergencyCredit now =
      (store.reserveCreditForDecision decisionId scope reservedCredit emergencyCredit now).map
        fun result => (result.1.recast decisions ledger,result.2) := by
  unfold reserveCreditForDecision reserveCreditFromGrants
  rw [reserveFromRows_recast]
  change (Except.map _ (store.reserveFromRows decisionId .reserved
    (store.candidateGrants .reserved scope now) reservedCredit) >>= _) = _
  cases store.reserveFromRows decisionId .reserved (store.candidateGrants .reserved scope now)
      reservedCredit with
  | error fault => rfl
  | ok first =>
    simp only [Except.map,bind,Except.bind]
    rw [reserveFromRows_recast]
    change Except.bind (Except.map _ (first.1.reserveFromRows decisionId .emergency
      (first.1.candidateGrants .emergency scope now) emergencyCredit)) _ = _
    cases first.1.reserveFromRows decisionId .emergency
      (first.1.candidateGrants .emergency scope now) emergencyCredit <;> rfl

end Recast

end Store

namespace Service

variable {service : Service} {store : Store} {ledger : List DecisionLedger}
  {decisions : UniqueTable Uuid (Source × String) Decision Decision.idempotency}
  {context : GateEvaluationContext} {call : GateCall} {draft : GateDraft}

theorem reserveCredits_recast :
    service.reserveCredits (store.recast decisions ledger) call draft =
      (service.reserveCredits store call draft).map fun result =>
        (result.1.recast decisions ledger,result.2) := by
  unfold reserveCredits
  split
  · exact Store.reserveCreditForDecision_recast
  · rfl

def noteAllocations (entries : List CreditAllocationEntry) (row : Decision) : Decision :=
  if entries.isEmpty then row
  else { row with responsePayload :=
    { row.responsePayload with creditReservationAllocations := some entries } }

theorem recordAllocations_recast (entries : List CreditAllocationEntry) {decisionId : Uuid}
    {row : Decision} (found : decisions.find decisionId = some row) :
    ∃ noted, recordAllocations (store.recast decisions ledger) decisionId entries =
        store.recast noted ledger ∧
      noted.find decisionId = some (noteAllocations entries row) := by
  unfold recordAllocations noteAllocations
  split
  · exact ⟨decisions,rfl,found⟩
  · refine ⟨_,rfl,?_⟩
    change (decisions.toTable.update decisionId _).find decisionId = _
    rw [Table.find_update_same, found]
    rfl

theorem createApproval_recast (decision : Decision) :
    service.createApproval (store.recast decisions ledger) context call decision =
      (service.createApproval store context call decision).map fun result =>
        (result.1.recast decisions ledger,result.2) := by
  unfold createApproval
  split
  · dsimp only [Store.recast]
    cases store.approvals.insert call.approvalId _ <;> rfl
  · rfl

def afterFlush (service : Service) (context : GateEvaluationContext) (call : GateCall)
    (draft : GateDraft) (flushed : Store) : Except Fault (Store × Option Uuid) := do
  let (reserved,entries) ← service.reserveCredits flushed call draft
  let recorded := recordAllocations reserved call.decisionId entries
  let (approved,approvalId) ← service.createApproval recorded context call draft.decision
  return (service.appendDecisionLedgerEntry approved call.decisionId approvalId,approvalId)

theorem persistBody_flushed
    {rows : UniqueTable Uuid (Source × String) Decision Decision.idempotency}
    (inserted : store.decisions.insert call.decisionId draft.decision = some rows) :
    service.persistBody store context call draft (fun flushed =>
        service.reserveCredits flushed call draft) =
      service.afterFlush context call draft { store with decisions := rows } := by
  unfold persistBody
  rw [inserted]
  rfl

theorem afterFlush_recast {row : Decision} (found : store.decisions.find call.decisionId = some row)
    (found' : decisions.find call.decisionId = some row) :
    (∃ fault, service.afterFlush context call draft store = .error fault ∧
      service.afterFlush context call draft (store.recast decisions ledger) = .error fault) ∨
    (∃ next next' approvalId row',
      service.afterFlush context call draft store = .ok (next,approvalId) ∧
      service.afterFlush context call draft (store.recast decisions ledger) =
        .ok (next',approvalId) ∧
      next' = next.recast next'.decisions next'.ledger ∧
      next.decisions.find call.decisionId = some row' ∧
      next'.decisions.find call.decisionId = some row') := by
  unfold afterFlush
  rw [reserveCredits_recast]
  cases drawn : service.reserveCredits store call draft with
  | error fault => exact Or.inl ⟨fault,rfl,rfl⟩
  | ok result =>
    obtain ⟨base,entries⟩ := result
    have kept : base.decisions.find call.decisionId = some row := by
      rw [(reserveCredits_frame drawn).decisions]
      exact found
    obtain ⟨noted,recorded,notedRow⟩ := recordAllocations_recast entries kept
    obtain ⟨noted',recorded',notedRow'⟩ := recordAllocations_recast entries found'
    have plain : recordAllocations base call.decisionId entries = base.recast noted base.ledger :=
      recorded
    simp only [Except.map,bind,Except.bind]
    rw [plain, recorded', createApproval_recast, createApproval_recast]
    cases service.createApproval base context call draft.decision with
    | error fault => exact Or.inl ⟨fault,rfl,rfl⟩
    | ok result =>
      obtain ⟨approved,approvalId⟩ := result
      obtain ⟨last,logged⟩ := appendDecisionLedgerEntry_eq service
        (approved.recast noted base.ledger) call.decisionId approvalId
      obtain ⟨last',logged'⟩ := appendDecisionLedgerEntry_eq service
        (approved.recast noted' ledger) call.decisionId approvalId
      simp only [Except.map]
      rw [logged, logged']
      exact Or.inr ⟨_,_,approvalId,_,rfl,rfl,rfl,notedRow,notedRow'⟩

theorem persistDecision_error {fault : Fault}
    (unstored : store.decisions.lookup (call.source,context.idempotencyKey) = none)
    (failed : service.persistBody store context call draft (fun flushed =>
      service.reserveCredits flushed call draft) = .error fault) :
    service.persistDecisionWithOptionalApproval store context call draft =
      (store,.error fault) := by
  unfold persistDecisionWithOptionalApproval
  rw [failed, getExistingGateResult_eq_none.mpr unstored]
  cases fault <;> rfl

theorem persistDecision_ok {next : Store} {approvalId : Option Uuid} {row : Decision}
    (written : service.persistBody store context call draft (fun flushed =>
      service.reserveCredits flushed call draft) = .ok (next,approvalId))
    (found : next.decisions.find call.decisionId = some row) :
    service.persistDecisionWithOptionalApproval store context call draft =
      (next,.ok ⟨call.decisionId,row,
        approvalId.bind fun id => (next.approvals.find id).map fun approval => (id,approval),
        none,context.ttlSeconds⟩) := by
  unfold persistDecisionWithOptionalApproval
  rw [written]
  simp only [found]

end Service

structure Apart
    (full plain : UniqueTable Uuid (Source × String) Decision Decision.idempotency) : Prop where
  kept : ∀ id row, plain.find id = some row → full.find id = some row
  extra : ∀ id row, full.find id = some row → plain.find id = some row ∨ row.Dry
  real : ∀ id row, plain.find id = some row → row.Real
  totals : ∀ weight : Decision → Int, (∀ row, row.reservationActive = false → weight row = 0) →
    (∀ row payload, weight (row.withPayload payload) = weight row) →
    (full.total fun _ row => weight row) = plain.total fun _ row => weight row

def WithDryRuns (full plain : Store) : Prop :=
  ∃ decisions ledger, full = plain.recast decisions ledger ∧ Apart decisions plain.decisions

namespace Apart

variable {plain : Store}
  {decisions : UniqueTable Uuid (Source × String) Decision Decision.idempotency}
  {ledger : List DecisionLedger} {service : Service} {context : GateEvaluationContext}
  {call : GateCall} {draft : GateDraft} {approvalId : Option Uuid}

theorem absent (apart : Apart decisions plain.decisions) {id : Uuid}
    (fresh : decisions.find id = none) : plain.decisions.find id = none := by
  cases found : plain.decisions.find id with
  | none => rfl
  | some row => simp [apart.kept id row found] at fresh

theorem lookup (apart : Apart decisions plain.decisions) {key : Source × String}
    (undisturbed : ∀ id row, decisions.lookup key = some (id,row) →
      row.requestPayload.dryRun = false) :
    plain.decisions.lookup key = decisions.lookup key := by
  cases found : decisions.lookup key with
  | none =>
    rw [UniqueTable.lookup_eq_none_iff] at found ⊢
    exact fun id row stored => found id row (apart.kept id row stored)
  | some entry =>
    obtain ⟨id,row⟩ := entry
    obtain ⟨stored,indexed⟩ := UniqueTable.lookup_eq_some_iff.mp found
    rcases apart.extra id row stored with plainly | dry
    · exact UniqueTable.lookup_eq_some_iff.mpr ⟨plainly,indexed⟩
    · have asked := undisturbed id row found
      simp [dry.asked] at asked

theorem readGate (apart : Apart decisions plain.decisions) (input : GateInput) (now : Nat) :
    service.readGate (plain.recast decisions ledger) input now =
      service.readGate plain input now := by
  have totals : (plain.recast decisions ledger).getReservedTotals (monthBounds now) =
      plain.getReservedTotals (monthBounds now) := by
    have counted (amount : Decision → Int)
        (insensitive : ∀ row payload, amount (row.withPayload payload) = amount row) :=
      apart.totals (fun row => if row.countsIn (monthBounds now) then amount row else 0)
        (fun row inactive => by simp [Decision.countsIn,inactive])
        (fun row payload => by rw [insensitive]; rfl)
    exact Prod.ext (counted (·.reservedAllocationUsd) fun _ _ => rfl)
      (counted (·.reservedCreditUsd) fun _ _ => rfl)
  have credit : (plain.recast decisions ledger).activeReservedCredit =
      plain.activeReservedCredit := by
    refine apart.totals (fun row => if row.reservationActive then row.reservedCreditUsd else 0)
      ?_ fun row payload => rfl
    intro row inactive
    simp [inactive]
  have headrooms (scope : String) : (plain.recast decisions ledger).getCreditHeadrooms scope now =
      plain.getCreditHeadrooms scope now := by
    simp only [Store.getCreditHeadrooms,credit]
    rfl
  simp only [Service.readGate,totals,headrooms]
  rfl

theorem dry (apart : Apart decisions plain.decisions) {next : Store}
    (dry : draft.decision.Dry) (unrequested : call.gateInput.dryRun = true)
    (spec : Persisted service (plain.recast decisions ledger) next context call draft approvalId) :
    WithDryRuns next plain := by
  obtain ⟨payload,finds⟩ := spec.inserted
  obtain ⟨rows,drawn,entries,credit,grants,allocations⟩ := spec.credit
  have undrawn : drawn = { plain.recast decisions ledger with decisions := rows } := by
    simp only [Service.reserveCredits,dry.inactive,Bool.false_eq_true,false_and,if_false] at credit
    exact (Prod.mk.inj (Except.ok.inj credit)).1.symm
  have approvals : next.approvals = plain.approvals := by
    rcases spec.approval with ⟨_,same,_⟩ | ⟨_,_,real,_⟩
    · exact same
    · simp [unrequested] at real
  refine ⟨next.decisions,next.ledger,?_,?_,?_,apart.real,?_⟩
  · have tenantId := spec.tenantId
    have tenantTier := spec.tenantTier
    have policy := spec.policy
    have budgets := spec.budgets
    rw [undrawn] at grants allocations
    cases next
    simp only [Store.recast] at *
    rw [tenantId, tenantTier, policy, budgets, grants, allocations, approvals]
  · intro id row stored
    have before := apart.kept id row stored
    rw [finds]
    split
    · next same =>
      rw [same] at before
      have fresh : decisions.find call.decisionId = none := spec.freshId
      simp [fresh] at before
    · exact before
  · intro id row stored
    rw [finds] at stored
    split at stored
    · obtain rfl := Option.some.inj stored
      exact Or.inr ⟨dry.asked,dry.inactive,dry.noted⟩
    · exact apart.extra id row stored
  · intro weight inactive insensitive
    have added := spec.total (fun _ row => weight row) fun _ row payload => insensitive row payload
    have idle := inactive draft.decision dry.inactive
    have before : ((plain.recast decisions ledger).decisions.total fun _ row => weight row) =
      plain.decisions.total fun _ row => weight row := apart.totals weight inactive insensitive
    rw [added, idle, before, add_zero]

theorem persisted (apart : Apart decisions plain.decisions) {full' plain' : Store} {row : Decision}
    (real : draft.decision.Real)
    (spec : Persisted service plain plain' context call draft approvalId)
    (spec' : Persisted service (plain.recast decisions ledger) full' context call draft approvalId)
    (found : plain'.decisions.find call.decisionId = some row)
    (found' : full'.decisions.find call.decisionId = some row) :
    Apart full'.decisions plain'.decisions := by
  obtain ⟨payload,finds⟩ := spec.inserted
  obtain ⟨payload',finds'⟩ := spec'.inserted
  have written : row = draft.decision.withPayload payload := by
    rw [finds, if_pos rfl] at found
    exact (Option.some.inj found).symm
  refine ⟨?_,?_,?_,?_⟩
  · intro id other stored
    by_cases same : id = call.decisionId
    · subst same
      rw [found', ← stored, found]
    · rw [finds, if_neg same] at stored
      rw [finds', if_neg same]
      exact apart.kept id other stored
  · intro id other stored
    by_cases same : id = call.decisionId
    · subst same
      rw [found, ← stored, found']
      exact Or.inl rfl
    · rw [finds', if_neg same] at stored
      rw [finds, if_neg same]
      exact apart.extra id other stored
  · intro id other stored
    rw [finds] at stored
    split at stored
    · obtain rfl := Option.some.inj stored
      exact ⟨real.asked,real.unnoted⟩
    · exact apart.real id other stored
  · intro weight inactive insensitive
    have added := spec.total (fun _ row => weight row) fun _ row payload => insensitive row payload
    have added' := spec'.total (fun _ row => weight row) fun _ row payload =>
      insensitive row payload
    have before : ((plain.recast decisions ledger).decisions.total fun _ row => weight row) =
      plain.decisions.total fun _ row => weight row := apart.totals weight inactive insensitive
    rw [added, added', before]

end Apart

structure GateOutcome where
  decision : DecisionType
  reasonCodes : List String
  reservationActive : Bool
  reservedAllocationUsd : Int
  reservedCreditUsd : Int
  approval : Option ApprovalRequest
  deriving DecidableEq

def GateEvaluationResult.outcome (result : GateEvaluationResult) : GateOutcome where
  decision := result.decision.decision
  reasonCodes := result.decision.reasonCodes
  reservationActive := result.decision.reservationActive
  reservedAllocationUsd := result.decision.reservedAllocationUsd
  reservedCreditUsd := result.decision.reservedCreditUsd
  approval := result.approval.map Prod.snd

def GateCall.real (call : GateCall) : Bool := !call.gateInput.dryRun

namespace Service

def gateOutcome (service : Service) (store : Store) (call : GateCall) :
    Store × Except Fault GateOutcome :=
  let (next,outcome) := service.evaluateGate store call
  (next,outcome.map (·.outcome))

def DryRunStored (service : Service) (store : Store) (call : GateCall) : Prop :=
  ∃ key id row, service.gateKey call = some key ∧ store.decisions.lookup key = some (id,row) ∧
    row.requestPayload.dryRun = true

variable {service : Service} {full plain : Store} {call : GateCall}

section Steps

variable {decisions : UniqueTable Uuid (Source × String) Decision Decision.idempotency}
  {ledger : List DecisionLedger}

theorem persistDecision_apart {context : GateEvaluationContext} {draft : GateDraft}
    (apart : Apart decisions plain.decisions) (real : draft.decision.Real)
    (evaluates : Evaluates service plain call context draft)
    (unstored : decisions.lookup (call.source,context.idempotencyKey) = none)
    (fresh : decisions.find call.decisionId = none) :
    WithDryRuns
      (service.persistDecisionWithOptionalApproval (plain.recast decisions ledger) context call
        draft).1
      (service.persistDecisionWithOptionalApproval plain context call draft).1 ∧
    (service.persistDecisionWithOptionalApproval (plain.recast decisions ledger) context call
        draft).2 = (service.persistDecisionWithOptionalApproval plain context call draft).2 := by
  have key := evaluates.idempotency
  obtain ⟨rows,inserted⟩ := UniqueTable.insert_exists draft.decision (apart.absent fresh)
    (by rw [key]; exact evaluates.unstored)
  obtain ⟨rows',inserted'⟩ := UniqueTable.insert_exists draft.decision fresh
    (by rw [key]; exact unstored)
  let flushed : Store := { plain with decisions := rows }
  have body : service.persistBody plain context call draft (fun flushed =>
      service.reserveCredits flushed call draft) = service.afterFlush context call draft flushed :=
    persistBody_flushed inserted
  have body' : service.persistBody (plain.recast decisions ledger) context call draft
      (fun flushed => service.reserveCredits flushed call draft) =
      service.afterFlush context call draft (flushed.recast rows' ledger) :=
    persistBody_flushed inserted'
  have row : flushed.decisions.find call.decisionId = some draft.decision := by
    simp [flushed,UniqueTable.find_insert inserted]
  have row' : rows'.find call.decisionId = some draft.decision := by
    simp [UniqueTable.find_insert inserted']
  rcases afterFlush_recast row row' with ⟨fault,failed,failed'⟩ |
    ⟨next,next',approvalId,stored,written,written',cast,found,found'⟩
  · have unstored' : (plain.recast decisions ledger).decisions.lookup
      (call.source,context.idempotencyKey) = none := unstored
    rw [persistDecision_error evaluates.unstored (body.trans failed),
      persistDecision_error unstored' (body'.trans failed')]
    exact ⟨⟨decisions,ledger,rfl,apart⟩,rfl⟩
  · have spec := persistBody_eq_ok (fun _ _ _ => reserveCredits_frame) (body.trans written)
    have spec' := persistBody_eq_ok (fun _ _ _ => reserveCredits_frame) (body'.trans written')
    have approvals : next'.approvals = next.approvals := by
      rw [cast]
      rfl
    rw [persistDecision_ok (body.trans written) found,
      persistDecision_ok (body'.trans written') found', approvals]
    exact ⟨⟨next'.decisions,next'.ledger,cast,apart.persisted real spec spec' found found'⟩,rfl⟩

theorem evaluateGate_real (related : WithDryRuns full plain) (fresh : FreshIds full call)
    (real : call.gateInput.dryRun = false) (free : ¬service.DryRunStored full call) :
    WithDryRuns (service.evaluateGate full call).1 (service.evaluateGate plain call).1 ∧
      (service.evaluateGate full call).2 = (service.evaluateGate plain call).2 := by
  obtain ⟨decisions,ledger,rfl,apart⟩ := related
  cases built : service.buildGateEvaluationContext plain.policy call.source call.gateInput with
  | error fault =>
    rw [evaluateGate_refused built]
    rw [evaluateGate_refused (show service.buildGateEvaluationContext
      (plain.recast decisions ledger).policy call.source call.gateInput = .error fault from built)]
    exact ⟨⟨decisions,ledger,rfl,apart⟩,rfl⟩
  | ok context =>
    have built' : service.buildGateEvaluationContext (plain.recast decisions ledger).policy
      call.source call.gateInput = .ok context := built
    have same : plain.decisions.lookup (call.source,context.idempotencyKey) =
        decisions.lookup (call.source,context.idempotencyKey) := by
      apply apart.lookup
      intro id row stored
      cases asked : row.requestPayload.dryRun with
      | false => rfl
      | true => exact absurd ⟨_,id,row,gateKey_eq built,stored,asked⟩ free
    cases stored : decisions.lookup (call.source,context.idempotencyKey) with
    | some entry =>
      have found' : (plain.recast decisions ledger).getExistingGateResult call.source
          context.idempotencyKey context.ttlSeconds = some ⟨entry.1,entry.2,
            plain.getApprovalByDecision entry.1,none,context.ttlSeconds⟩ :=
        Option.map_eq_some_iff.mpr ⟨entry,stored,rfl⟩
      have found : plain.getExistingGateResult call.source context.idempotencyKey
          context.ttlSeconds = some ⟨entry.1,entry.2,
            plain.getApprovalByDecision entry.1,none,context.ttlSeconds⟩ :=
        Option.map_eq_some_iff.mpr ⟨entry,same.trans stored,rfl⟩
      rw [evaluateGate_replayed built found, evaluateGate_replayed built' found']
      exact ⟨⟨decisions,ledger,rfl,apart⟩,rfl⟩
    | none =>
      have unstored' : (plain.recast decisions ledger).decisions.lookup
        (call.source,context.idempotencyKey) = none := stored
      have drafts : service.draftGateDecision (plain.recast decisions ledger) context call =
          service.draftGateDecision plain context call := by
        simp only [draftGateDecision,apart.readGate]
      cases drafted : service.draftGateDecision plain context call with
      | error fault =>
        rw [evaluateGate_undrafted built (same.trans stored) drafted,
          evaluateGate_undrafted built' unstored' (drafts.trans drafted)]
        exact ⟨⟨decisions,ledger,rfl,apart⟩,rfl⟩
      | ok draft =>
        have evaluates : Evaluates service plain call context draft :=
          ⟨built,same.trans stored,drafted⟩
        have evaluates' : Evaluates service (plain.recast decisions ledger) call context draft :=
          ⟨built',unstored',drafts.trans drafted⟩
        rw [evaluates.persists, evaluates'.persists]
        obtain ⟨_,_,_,_,rfl⟩ := draftGateDecision_eq_ok drafted
        exact persistDecision_apart apart (draftFrom_real real) evaluates stored fresh.decision

theorem evaluateGate_dry (related : WithDryRuns full plain) (dry : call.gateInput.dryRun = true) :
    WithDryRuns (service.evaluateGate full call).1 plain := by
  obtain ⟨decisions,ledger,rfl,apart⟩ := related
  have done := (Prod.mk.eta (p := service.evaluateGate (plain.recast decisions ledger) call)).symm
  rcases evaluateGate_cases done with same | ⟨context,draft,approvalId,evaluates,spec⟩
  · rw [same]
    exact ⟨decisions,ledger,rfl,apart⟩
  · obtain ⟨_,_,_,_,rfl⟩ := draftGateDecision_eq_ok evaluates.drafted
    exact apart.dry (draftFrom_dry dry) dry spec

theorem evaluateGate_answer_real {next : Store} {result : GateEvaluationResult}
    (rows : ∀ id row, plain.decisions.find id = some row → row.Real)
    (real : call.gateInput.dryRun = false)
    (evaluated : service.evaluateGate plain call = (next,.ok result)) : result.decision.Real := by
  cases built : service.buildGateEvaluationContext plain.policy call.source call.gateInput with
  | error fault =>
    rw [evaluateGate_refused built] at evaluated
    simp at evaluated
  | ok context =>
    cases found : plain.getExistingGateResult call.source context.idempotencyKey
        context.ttlSeconds with
    | some existing =>
      rw [evaluateGate_replayed built found] at evaluated
      obtain rfl := Except.ok.inj (Prod.mk.inj evaluated).2
      have stored := getExistingGateResult_eq_some found
      exact rows _ _ (UniqueTable.lookup_eq_some_iff.mp stored).1
    | none =>
      have unstored := getExistingGateResult_eq_none.mp found
      cases drafted : service.draftGateDecision plain context call with
      | error fault =>
        rw [evaluateGate_undrafted built unstored drafted] at evaluated
        simp at evaluated
      | ok draft =>
        rw [(Evaluates.mk built unstored drafted).persists] at evaluated
        rcases persistDecision_cases evaluated with ⟨_,replay⟩ | ⟨_,decision,spec,stored,answer⟩
        · simp [found] at replay
        · obtain rfl := Except.ok.inj answer
          obtain ⟨payload,finds⟩ := spec.inserted
          rw [finds, if_pos rfl] at stored
          obtain rfl := Option.some.inj stored
          obtain ⟨_,_,_,_,rfl⟩ := draftGateDecision_eq_ok drafted
          exact (draftFrom_real real).withPayload

theorem gateKey_eq_some {key : Source × String} (keyed : service.gateKey call = some key) :
    ∃ fingerprint, service.stableFingerprint call.source call.gateInput = .ok fingerprint ∧
      key = (call.source,resolveIdempotencyKey fingerprint call.gateInput.idempotencyKey) := by
  unfold gateKey at keyed
  split at keyed
  · next fingerprint digested => exact ⟨fingerprint,digested,(Option.some.inj keyed).symm⟩
  · contradiction

theorem gateOutcome_differs (related : WithDryRuns full plain)
    (real : call.gateInput.dryRun = false) (stored : service.DryRunStored full call) :
    (service.gateOutcome full call).2 ≠ (service.gateOutcome plain call).2 := by
  obtain ⟨decisions,ledger,rfl,apart⟩ := related
  obtain ⟨key,id,row,keyed,found,asked⟩ := stored
  obtain ⟨fingerprint,digested,rfl⟩ := gateKey_eq_some keyed
  have dry : row.Dry := by
    rcases apart.extra id row (UniqueTable.lookup_eq_some_iff.mp found).1 with plainly | dry
    · have real := (apart.real id row plainly).asked
      simp [asked] at real
    · exact dry
  obtain ⟨result,answered,rfl⟩ := (answers_with_stored digested found).1
  intro same
  simp only [gateOutcome,answered] at same
  cases returned : (service.evaluateGate plain call).2 with
  | error fault => simp [returned,Except.map] at same
  | ok result' =>
    simp only [returned,Except.map,Except.ok.injEq] at same
    have reasons : result.decision.reasonCodes = result'.decision.reasonCodes :=
      congrArg GateOutcome.reasonCodes same
    have plainly := evaluateGate_answer_real apart.real real (Prod.ext rfl returned :
      service.evaluateGate plain call = ((service.evaluateGate plain call).1,.ok result'))
    exact plainly.unnoted (reasons ▸ dry.noted)

end Steps

theorem FreshRun.each {store : Store} {calls : List GateCall} (fresh : FreshRun store calls) :
    EachStep service.gateOutcome FreshIds store calls := by
  induction calls generalizing store with
  | nil => trivial
  | cons call calls ih => exact ⟨fresh.fresh call List.mem_cons_self,ih fresh.step⟩

/-- Deleting the dry runs of a run leaves what every real call learns exactly when no real
call meets a dry run stored under its key. -/
theorem dry_runs_invisible_iff (service : Service) (store : Store) (calls : List GateCall)
    (fresh : FreshRun store calls)
    (real : ∀ id row, store.decisions.find id = some row → row.Real) :
    outputs service.gateOutcome GateCall.real store calls =
        outputs service.gateOutcome GateCall.real store (calls.filter GateCall.real) ↔
      EachStep service.gateOutcome
        (fun s call => call.real = true → ¬service.DryRunStored s call) store calls := by
  apply outputs_unwinding_iff service.gateOutcome GateCall.real FreshIds _ WithDryRuns
  · intro full plain call related ids isReal free
    have asked : call.gateInput.dryRun = false := by simpa [GateCall.real] using isReal
    obtain ⟨next,same⟩ := evaluateGate_real related ids asked (free isReal)
    refine ⟨next,?_⟩
    simp only [gateOutcome,same]
  · intro full plain call related _ isDry
    refine ⟨by simp [isDry],evaluateGate_dry related ?_⟩
    simpa [GateCall.real] using isDry
  · intro full plain call related _ isReal met
    have asked : call.gateInput.dryRun = false := by simpa [GateCall.real] using isReal
    apply gateOutcome_differs related asked
    simpa [isReal] using met
  · exact ⟨store.decisions,store.ledger,rfl,fun _ _ found => found,fun _ _ found => Or.inl found,
      real,fun _ _ _ => rfl⟩
  · exact fresh.each

end Service

namespace Sample

/-- A tenant that asks for approval outside production too, with 100 dollars for `alpha`. -/
def budgeted : Store :=
  (service.run { store with policy := { policy with requireApprovalForNonprod := true } }
    (.upsertBudget (budget "alpha" 100))).1

def rehearsed (call : GateCall) : GateCall :=
  { call with gateInput := { call.gateInput with dryRun := true } }

/-- A dry run under a key that no real call of the run has. -/
def apart : GateCall := rehearsed (gate 1 "alpha" "rehearsal" 60 0)

def unkeyed (id : Uuid) : GateCall :=
  let call := gate id "alpha" "" 60 0
  { call with gateInput := { call.gateInput with idempotencyKey := none } }

def secured (outcome : Except Fault GateOutcome) : Except Fault (Bool × Bool) :=
  outcome.map fun result => (result.reservationActive,result.approval.isSome)

theorem budgeted_reachable : Reachable Store.Unused service.Step budgeted :=
  ⟨{ store with policy := { policy with requireApprovalForNonprod := true } },
    [.upsertBudget (budget "alpha" 100)],⟨rfl,rfl,rfl,rfl⟩,.go .commit .stop⟩

theorem budgeted_fresh (calls : List GateCall) (decisions : (calls.map (·.decisionId)).Nodup)
    (approvals : (calls.map (·.approvalId)).Nodup) : Service.FreshRun budgeted calls :=
  ⟨fun _ _ => ⟨rfl,rfl,rfl⟩,decisions,approvals⟩

end Sample

/-- A dry run under a key of its own leaves the outcome of the real call as it was. -/
theorem dry_run_invisible_sample :
    outputs Sample.service.gateOutcome GateCall.real Sample.budgeted
        [Sample.apart,Sample.unkeyed 2] =
      outputs Sample.service.gateOutcome GateCall.real Sample.budgeted
        ([Sample.apart,Sample.unkeyed 2].filter GateCall.real) := by
  apply (Service.dry_runs_invisible_iff Sample.service Sample.budgeted
    [Sample.apart,Sample.unkeyed 2]
    (Sample.budgeted_fresh [Sample.apart,Sample.unkeyed 2] (by decide) (by decide))
    (by intro id row found; cases found)).mpr
  refine ⟨fun isReal => absurd isReal (by decide),?_,trivial⟩
  intro _ ⟨key,id,row,keyed,stored,_⟩
  have unstored : (Sample.service.gateKey (Sample.unkeyed 2)).bind (Sample.service.gateOutcome
      Sample.budgeted Sample.apart).1.decisions.lookup = none := by decide
  rw [keyed, Option.bind_some, stored] at unstored
  contradiction

/-- With the default key the dry run answers the real call, which gets neither. -/
theorem dry_run_answers_real_call :
    Reachable Store.Unused Sample.service.Step Sample.budgeted ∧
    (outputs Sample.service.gateOutcome GateCall.real Sample.budgeted
      ([Sample.rehearsed (Sample.unkeyed 1),Sample.unkeyed 2].filter GateCall.real)).map
        Sample.secured = [.ok (true,true)] ∧
    (outputs Sample.service.gateOutcome GateCall.real Sample.budgeted
      [Sample.rehearsed (Sample.unkeyed 1),Sample.unkeyed 2]).map Sample.secured =
        [.ok (false,false)] ∧
    outputs Sample.service.gateOutcome GateCall.real Sample.budgeted
        [Sample.rehearsed (Sample.unkeyed 1),Sample.unkeyed 2] ≠
      outputs Sample.service.gateOutcome GateCall.real Sample.budgeted
        ([Sample.rehearsed (Sample.unkeyed 1),Sample.unkeyed 2].filter GateCall.real) := by
  have alone : (outputs Sample.service.gateOutcome GateCall.real Sample.budgeted
      ([Sample.rehearsed (Sample.unkeyed 1),Sample.unkeyed 2].filter GateCall.real)).map
        Sample.secured = [.ok (true,true)] := by decide
  have answered : (outputs Sample.service.gateOutcome GateCall.real Sample.budgeted
      [Sample.rehearsed (Sample.unkeyed 1),Sample.unkeyed 2]).map Sample.secured =
        [.ok (false,false)] := by decide
  refine ⟨Sample.budgeted_reachable,alone,answered,?_⟩
  intro same
  rw [same, alone] at answered
  exact absurd answered (by decide)

end Valdrics.Enforcement

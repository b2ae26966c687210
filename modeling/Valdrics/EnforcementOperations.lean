import Valdrics.EnforcementReconciliation
import Valdrics.Runs

/-! The operations of the service as steps on a tenant's store, and their runs. -/
namespace Valdrics.Enforcement

structure BudgetCall where
  scopeKey : String
  monthlyLimitUsd : DecimalValue
  active : Bool

inductive Operation where
  | createCreditGrant (call : CreditGrantCall)
  | upsertBudget (call : BudgetCall)
  | updatePolicy (policy : Policy)
  | evaluateGate (call : GateCall)
  | resolveFailSafeGate (call : GateCall) (failure : FailSafe)
  | createOrGetApprovalRequest (call : ApprovalCall)
  | approveRequest (call : ReviewCall)
  | denyRequest (call : ReviewCall)
  | consumeApprovalToken (call : ConsumeCall)
  | reconcileReservation (call : ReconcileCall)
  | reconcileOverdueReservations (call : OverdueCall)

inductive Output where
  | done
  | gate (result : GateEvaluationResult)
  | issued (token : IssuedToken)
  | reconciled (result : ReservationReconciliationResult)
  | swept (result : OverdueReservationReconciliationResult)

namespace Service

variable (service : Service)

def upsertBudget (store : Store) (call : BudgetCall) : Committed Unit :=
  transaction store do
    let amount ← comparableAmount call.monthlyLimitUsd 4
    let scope := service.normalizeScope call.scopeKey
    if nonneg : 0 ≤ amount then
      let budget : BudgetAllocation := ⟨amount,call.active,nonneg⟩
      match store.budgets.insert scope budget with
      | some budgets => return ({ store with budgets },())
      | none => return ({ store with budgets := store.budgets.update scope fun _ => budget },())
    else .error .monthlyLimitNegative

def run (store : Store) (operation : Operation) : Committed Output :=
  match operation with
  | .createCreditGrant call => finish (fun _ => .done) (service.createCreditGrant store call)
  | .upsertBudget call => finish (fun _ => .done) (service.upsertBudget store call)
  | .updatePolicy policy => ({ store with policy },.ok .done)
  | .evaluateGate call => finish .gate (service.evaluateGate store call)
  | .resolveFailSafeGate call failure =>
    finish .gate (service.resolveFailSafeGate store call failure)
  | .createOrGetApprovalRequest call =>
    finish (fun _ => .done) (service.createOrGetApprovalRequest store call)
  | .approveRequest call => finish .issued (service.approveRequest store call)
  | .denyRequest call => finish (fun _ => .done) (service.denyRequest store call)
  | .consumeApprovalToken call => finish (fun _ => .done) (service.consumeApprovalToken store call)
  | .reconcileReservation call => finish .reconciled (service.reconcileReservation store call)
  | .reconcileOverdueReservations call =>
    finish .swept (service.reconcileOverdueReservations store call)
where
  finish {α : Type} (output : α → Output) (result : Committed α) : Committed Output :=
    (result.1,result.2.map output)

theorem createCreditGrant_cases {store next : Store} {call : CreditGrantCall}
    {outcome : Except Fault Uuid}
    (created : service.createCreditGrant store call = (next,outcome)) :
    next = store ∨ ∃ grant grants, grant.remainingAmountUsd = grant.totalAmountUsd ∧
      0 < grant.totalAmountUsd ∧ store.grants.insert call.grantId grant = some grants ∧
      next = { store with grants } := by
  rcases transaction_cases created with ⟨rfl,_⟩ | ⟨_,body,_⟩
  · exact Or.inl rfl
  · obtain ⟨amount,_,afterAmount⟩ := bind_eq_ok.mp body
    obtain ⟨_,positive,afterCheck⟩ := bind_eq_ok.mp afterAmount
    obtain ⟨_,_,afterExpiry⟩ := bind_eq_ok.mp afterCheck
    obtain ⟨grants,inserted,result⟩ := bind_eq_ok.mp afterExpiry
    obtain ⟨rfl,_⟩ := Prod.mk.inj (Except.ok.inj result)
    exact Or.inr ⟨_,grants,rfl,Int.not_le.mp (refuse_eq_ok.mp positive),
      require_eq_ok.mp inserted,rfl⟩

theorem upsertBudget_cases {store next : Store} {call : BudgetCall} {outcome : Except Fault Unit}
    (upserted : service.upsertBudget store call = (next,outcome)) :
    ∃ budgets, next = { store with budgets } := by
  rcases transaction_cases upserted with ⟨rfl,_⟩ | ⟨_,body,_⟩
  · exact ⟨next.budgets,rfl⟩
  · obtain ⟨amount,_,afterAmount⟩ := bind_eq_ok.mp body
    dsimp only at afterAmount
    split at afterAmount
    · split at afterAmount
      · exact ⟨_,(Prod.mk.inj (Except.ok.inj afterAmount)).1.symm⟩
      · exact ⟨_,(Prod.mk.inj (Except.ok.inj afterAmount)).1.symm⟩
    · contradiction

inductive Step (store : Store) (operation : Operation) : Store → Prop where
  | commit : Step store operation (service.run store operation).1
  | rollback : Step store operation store

end Service

namespace Store

structure Unused (store : Store) : Prop where
  grants : store.grants = .empty
  allocations : store.allocations = .empty
  decisions : store.decisions = .empty
  approvals : store.approvals = .empty

end Store

namespace Sample

def policy : Policy where
  terraformMode := .hard
  terraformModeProd := .hard
  terraformModeNonprod := .hard
  k8sAdmissionMode := .hard
  k8sAdmissionModeProd := .hard
  k8sAdmissionModeNonprod := .hard
  requireApprovalForProd := false
  policyDocumentSchemaVersion := ""
  policyDocumentSha256 := ""

def store : Store where
  tenantId := 1
  tenantTier := .pro
  policy := policy

def computedContext : DecisionComputedContext where
  dataSourceMode := "final"
  riskClass := "low"
  riskScore := 0
  anomalySignal := false
  burnRateDailyUsd := 0
  forecastEomUsd := 0

/-- A request for `dollars` a month, made by the first user at the instant `now`. -/
def gate (id : Uuid) (projectId key : String) (dollars : Int) (now : Nat) : GateCall where
  source := .terraform
  gateInput :=
    { projectId := projectId
      environment := "nonprod"
      action := "terraform.apply"
      resourceReference := "module.app"
      estimatedMonthlyDeltaUsd := .finite ⟨dollars,0⟩
      estimatedHourlyDeltaUsd := .finite ⟨0,0⟩
      idempotencyKey := some key }
  actorId := 1
  now := now
  createdAt := now
  decisionId := id
  approvalId := id
  computedContext := computedContext

def budget (scopeKey : String) (dollars : Int) : BudgetCall where
  scopeKey := scopeKey
  monthlyLimitUsd := .finite ⟨dollars,0⟩
  active := true

def grant (id : Uuid) (dollars : Int) (now : Nat) : CreditGrantCall where
  grantId := id
  actorId := 1
  poolType := .reserved
  scopeKey := "default"
  totalAmountUsd := .finite ⟨dollars,0⟩
  expiresAt := none
  reason := none
  now := now
  createdAt := now

def askingStore : Store := { store with policy := { policy with requireApprovalForNonprod := true } }

def review (approvalId : Uuid) (reviewer : CurrentUser) (now : Nat) : ReviewCall where
  approvalId := approvalId
  reviewer := reviewer
  notes := none
  now := now
  tokenNow := now

def signing (claims : List (String × Json)) : Service :=
  { service with
    jwt :=
      { encode := fun _ _ _ => "signed"
        decode := fun token _ _ _ => if token = "signed" then .ok claims else .error .invalidToken }
    settings :=
      { service.settings with
        enforcementApprovalTokenSecret := String.ofList (List.replicate 32 'k') } }

end Sample

end Valdrics.Enforcement

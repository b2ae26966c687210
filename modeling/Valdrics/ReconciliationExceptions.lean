import Valdrics.EnforcementOperations

/-! The listing of reconciliation exceptions: a bounded scan of the newest decisions without a
reservation, and a loop over it that keeps those with a drift until the limit is reached. -/
namespace Valdrics.Enforcement

open PythonText

structure ReservationReconciliationException where
  decision : Uuid × Decision
  expectedReservedUsd : Int
  actualMonthlyDeltaUsd : Int
  driftUsd : Int
  status : String
  reconciledAt : Nat
  notes : Option String
  creditSettlement : List CreditSettlementEntry

namespace Service

variable (service : Service)

def exceptionStatus (record : ReservationReconciliation) : String :=
  let status := service.text.lower (strip record.status)
  if status = "overage" ∨ status = "savings" then status
  else if 0 < record.driftUsd then "overage" else "savings"

/-- One turn of the loop: `none` is a `continue`. -/
def driftException (entry : Uuid × Decision) : Option ReservationReconciliationException :=
  match entry.2.responsePayload.reservationReconciliation with
  | none => none
  | some record =>
    if record.driftUsd = 0 then none
    else some
      { decision := entry
        expectedReservedUsd := record.expectedReservedUsd
        actualMonthlyDeltaUsd := record.actualMonthlyDeltaUsd
        driftUsd := record.driftUsd
        status := service.exceptionStatus record
        reconciledAt := record.reconciledAt
        notes := record.notes.bind fun notes => if strip notes = "" then none else some (strip notes)
        creditSettlement := record.creditSettlement }

def exceptionLoop (limit : Nat) : List (Uuid × Decision) →
    List ReservationReconciliationException → List ReservationReconciliationException
  | [], exceptions => exceptions
  | entry :: rest, exceptions =>
    match service.driftException entry with
    | none => exceptionLoop limit rest exceptions
    | some exception =>
      let exceptions := exceptions ++ [exception]
      if limit ≤ exceptions.length then exceptions else exceptionLoop limit rest exceptions

def buildReconciliationExceptionPayloads (decisions : List (Uuid × Decision)) (limit : Nat) :
    List ReservationReconciliationException :=
  service.exceptionLoop limit decisions []

end Service

/-- `max(1, min(int(limit), 1000))`. -/
def boundedLimit (limit : Int) : Nat := (max 1 (min limit 1000)).toNat

/-- `max(100, min(bounded_limit * 10, 5000))`. -/
def scanLimit (limit : Int) : Nat := max 100 (min (boundedLimit limit * 10) 5000)

/-- A result of the query before its `LIMIT`: the inactive decisions, the newest first, in any
order among those created at one instant. -/
structure InactiveNewestFirst (store : Store) (decisions : List (Uuid × Decision)) : Prop where
  rows : decisions.Perm (store.decisions.rows.filter fun entry => !entry.2.reservationActive)
  newestFirst : decisions.Pairwise fun a b => b.2.createdAt ≤ a.2.createdAt

namespace Service

variable {service : Service}

def listReconciliationExceptions (service : Service) (decisions : List (Uuid × Decision))
    (limit : Int) : List ReservationReconciliationException :=
  service.buildReconciliationExceptionPayloads (decisions.take (scanLimit limit))
    (boundedLimit limit)

def drifting (service : Service) (decisions : List (Uuid × Decision)) :
    List ReservationReconciliationException := decisions.filterMap service.driftException

theorem driftException_eq_some {entry : Uuid × Decision}
    {exception : ReservationReconciliationException}
    (found : service.driftException entry = some exception) : exception.decision = entry := by
  unfold driftException at found
  split at found
  · contradiction
  · split at found
    · contradiction
    · obtain rfl := Option.some.inj found
      rfl

theorem exceptionLoop_eq {limit : Nat} (decisions : List (Uuid × Decision))
    {exceptions : List ReservationReconciliationException} (more : exceptions.length < limit) :
    service.exceptionLoop limit decisions exceptions =
      exceptions ++ (service.drifting decisions).take (limit - exceptions.length) := by
  induction decisions generalizing exceptions with
  | nil => simp [exceptionLoop,drifting]
  | cons entry rest ih =>
    simp only [exceptionLoop,drifting,List.filterMap_cons]
    cases found : service.driftException entry with
    | none => exact ih more
    | some exception =>
      have here : limit - exceptions.length = (limit - (exceptions.length + 1)) + 1 := by omega
      dsimp only
      rw [here,List.take_succ_cons]
      split
      · next full =>
        have done : limit - (exceptions.length + 1) = 0 := by simp at full; omega
        simp [done]
      · next open_ =>
        rw [ih (by omega)]
        simp [drifting]

theorem listReconciliationExceptions_eq (decisions : List (Uuid × Decision)) (limit : Int) :
    service.listReconciliationExceptions decisions limit =
      (service.drifting (decisions.take (scanLimit limit))).take (boundedLimit limit) := by
  have positive : 0 < boundedLimit limit := by
    unfold boundedLimit
    omega
  exact service.exceptionLoop_eq _ positive

/-- Exceptions stand in the order of the rows they come from. -/
theorem drifting_newestFirst {decisions : List (Uuid × Decision)}
    (newestFirst : decisions.Pairwise fun a b => b.2.createdAt ≤ a.2.createdAt) :
    (service.drifting decisions).Pairwise fun a b =>
      b.decision.2.createdAt ≤ a.decision.2.createdAt := by
  refine List.pairwise_filterMap.mpr (newestFirst.imp ?_)
  intro a b le first one second two
  rw [driftException_eq_some one,driftException_eq_some two]
  exact le

theorem drifting_append (first later : List (Uuid × Decision)) :
    service.drifting (first ++ later) = service.drifting first ++ service.drifting later :=
  List.filterMap_append

/-- The listing, for a query result in the order of the table's rows. It is complete exactly
when nothing older than the scan drifts, or the limit is reached within it. -/
theorem listReconciliationExceptions_scanned (service : Service) (store : Store)
    {decisions : List (Uuid × Decision)} {limit : Int}
    (query : InactiveNewestFirst store decisions) (least : 1 ≤ limit) (most : limit ≤ 1000) :
    service.listReconciliationExceptions decisions limit =
        (service.drifting (decisions.take (max 100 (min (limit.toNat * 10) 5000)))).take
          limit.toNat ∧
      (service.listReconciliationExceptions decisions limit).Pairwise (fun a b =>
        b.decision.2.createdAt ≤ a.decision.2.createdAt) ∧
      (service.listReconciliationExceptions decisions limit =
          (service.drifting decisions).take limit.toNat ↔
        limit.toNat ≤ (service.drifting
          (decisions.take (max 100 (min (limit.toNat * 10) 5000)))).length ∨
        service.drifting (decisions.drop (max 100 (min (limit.toNat * 10) 5000))) = []) := by
  have bounded : boundedLimit limit = limit.toNat := by
    unfold boundedLimit
    omega
  have scan : scanLimit limit = max 100 (min (limit.toNat * 10) 5000) := by
    rw [scanLimit,bounded]
  have listed := service.listReconciliationExceptions_eq decisions limit
  rw [bounded,scan] at listed
  refine ⟨listed,?_,?_⟩
  · rw [listed]
    exact (drifting_newestFirst (query.newestFirst.sublist (List.take_sublist _ _))).sublist
      (List.take_sublist _ _)
  · rw [listed]
    generalize max 100 (min (limit.toNat * 10) 5000) = scan
    have parts : service.drifting decisions = service.drifting (decisions.take scan) ++
        service.drifting (decisions.drop scan) := by
      rw [← drifting_append,List.take_append_drop]
    rw [parts,List.take_append]
    generalize service.drifting (decisions.take scan) = scanned
    generalize service.drifting (decisions.drop scan) = older
    constructor
    · intro complete
      by_cases reached : limit.toNat ≤ scanned.length
      · exact Or.inl reached
      · right
        have nothing : older.take (limit.toNat - scanned.length) = [] := by
          simpa using complete.symm
        cases older with
        | nil => rfl
        | cons exception rest =>
          have some_ : limit.toNat - scanned.length ≠ 0 := by omega
          simp [List.take_eq_nil_iff,some_] at nothing
    · rintro (reached | none_)
      · have nothing : limit.toNat - scanned.length = 0 := by omega
        simp [nothing]
      · simp [none_]

end Service

namespace Sample

def driftRecord : ReservationReconciliation where
  reconciledAt := 1
  reconciledByUserId := 1
  expectedReservedUsd := 750000
  actualMonthlyDeltaUsd := 800000
  driftUsd := 50000
  status := "overage"
  notes := none
  idempotencyKey := none
  creditReservedUsd := 0
  creditConsumedUsd := 0
  creditReleasedUsd := 0
  creditSettlement := []

/-- The decision that is `age` instants older than the newest one: a hundred denials after one
decision that was reconciled with a drift. -/
def agedDecision (age : Nat) : Decision where
  source := .terraform
  environment := "nonprod"
  projectId := "alpha"
  action := "terraform.apply"
  resourceReference := "module.app"
  decision := if age = 100 then .allow else .deny
  reasonCodes := []
  policyVersion := 1
  policyDocumentSchemaVersion := ""
  policyDocumentSha256 := ""
  requestFingerprint := ""
  idempotencyKey := String.ofList (List.replicate age 'k')
  requestPayload := ⟨"alpha","nonprod","terraform.apply","module.app",750000,some 0,[],false⟩
  responsePayload :=
    { mode := .hard
      modeScope := "terraform:nonprod"
      isProduction := false
      computedContext := computedContext
      reservationReconciliation := if age = 100 then some driftRecord else none }
  estimatedMonthlyDeltaUsd := 750000
  estimatedHourlyDeltaUsd := some 0
  burnRateDailyUsd := 0
  forecastEomUsd := 0
  riskClass := "low"
  riskScore := 0
  anomalySignal := false
  allocationAvailableUsd := none
  creditsAvailableUsd := none
  reservedAllocationUsd := 0
  reservedCreditUsd := 0
  reservationActive := false
  approvalRequired := false
  approvalTokenIssued := false
  tokenExpiresAt := none
  createdByUserId := 1
  createdAt := 1000 - age

def agedRow (age : Nat) : Uuid × Decision := (BitVec.ofNat 128 age,agedDecision age)

def agedRows : List (Uuid × Decision) := (List.range 101).map agedRow

def aged : Store :=
  { store with
    decisions :=
      { rows := agedRows
        distinct := by
          rw [agedRows,List.map_map]
          refine List.Nodup.map_on ?_ List.nodup_range
          intro a inRange b inRange' same
          have equal := congrArg BitVec.toNat (show BitVec.ofNat 128 a = BitVec.ofNat 128 b from same)
          simp only [List.mem_range] at inRange inRange'
          simp only [BitVec.toNat_ofNat] at equal
          omega
        unique := by
          rw [agedRows,List.map_map]
          refine List.Nodup.map_on ?_ List.nodup_range
          intro a _ b _ same
          have keys : String.ofList (List.replicate a 'k') = String.ofList (List.replicate b 'k') :=
            congrArg Prod.snd same
          simpa using congrArg String.length keys } }

theorem aged_query : InactiveNewestFirst aged agedRows := by
  constructor
  · have all : agedRows.filter (fun entry => !entry.2.reservationActive) = agedRows := by
      apply List.filter_eq_self.mpr
      intro entry member
      obtain ⟨age,_,rfl⟩ := List.mem_map.mp member
      rfl
    exact (List.Perm.of_eq all.symm : agedRows.Perm _)
  · rw [agedRows]
    refine List.pairwise_map.mpr (List.pairwise_lt_range.imp ?_)
    intro a b lt
    simp only [agedRow,agedDecision]
    omega

end Sample

/-- A hundred newer denials hide the one decision that drifts. -/
theorem listReconciliationExceptions_hides :
    ¬∀ (service : Service) (store : Store) (decisions : List (Uuid × Decision)) (limit : Int),
      InactiveNewestFirst store decisions → 1 ≤ limit → limit ≤ 1000 →
      service.listReconciliationExceptions decisions limit =
        (service.drifting decisions).take limit.toNat := by
  intro complete
  have listed := complete Sample.service Sample.aged Sample.agedRows 1 Sample.aged_query
    (by decide) (by decide)
  have lengths := congrArg List.length listed
  revert lengths
  decide

theorem listReconciliationExceptions_scanned_aged :
    Sample.service.listReconciliationExceptions Sample.agedRows 11 =
      (Sample.service.drifting Sample.agedRows).take 11 :=
  (Service.listReconciliationExceptions_scanned Sample.service Sample.aged Sample.aged_query
    (by decide) (by decide)).2.2.mpr (.inr (by rfl))

end Valdrics.Enforcement

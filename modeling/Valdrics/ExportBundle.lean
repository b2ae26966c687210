import Valdrics.CsvText
import Valdrics.WrittenOnce

/-! The export of a tenant's decisions and approvals of a window: two CSV texts, and the counts that
their rows are checked against. Each query sees what is committed when it runs. -/
namespace Valdrics.Enforcement

def DecisionType.value : DecisionType → String
  | .allow => "ALLOW"
  | .deny => "DENY"
  | .requireApproval => "REQUIRE_APPROVAL"
  | .allowWithCredits => "ALLOW_WITH_CREDITS"

namespace Export

/-- What the rows leave to the runtime: the texts of ids, times and JSON values, the payloads as they
are stored, and when an approval was created and last updated. -/
structure Runtime where
  service : Service
  uuidText : Uuid → String
  isoText : Nat → String
  dumps : Json → String
  requestJson : RequestPayload → Json
  responseJson : ResponsePayload → List (String × Json)
  stamps : Uuid → Nat × Nat

/-- No line ends within a cell. -/
def flattened (value : String) : List Char :=
  value.toList.map fun c => if c = '\r' ∨ c = '\n' then ' ' else c

/-- What a spreadsheet would run. -/
def formula (cell : List Char) : Bool := cell.head?.any (· ∈ ['=','+','-','@'])

def apostrophe : Char := Char.ofNat 39

def sanitizeCsvCell (value : String) : List Char :=
  if formula (flattened value) then apostrophe :: flattened value else flattened value

def boolText (value : Bool) : String := if value then "True" else "False"

def amountText (value : Int) : String := Service.quantizedText (some value) 4

def decisionHeaders : List String :=
  ["decision_id","source","environment","project_id","action","resource_reference","decision",
    "reason_codes","policy_version","policy_document_schema_version","policy_document_sha256",
    "computed_context_version","computed_context_generated_at","computed_context_month_start",
    "computed_context_month_end","computed_context_month_elapsed_days",
    "computed_context_month_total_days","computed_context_observed_cost_days",
    "computed_context_latest_cost_date","computed_context_data_source_mode","request_fingerprint",
    "idempotency_key","estimated_monthly_delta_usd","estimated_hourly_delta_usd",
    "allocation_available_usd","credits_available_usd","reserved_allocation_usd",
    "reserved_credit_usd","reservation_active","approval_required","approval_token_issued",
    "token_expires_at","created_by_user_id","created_at","request_payload","response_payload"]

def approvalHeaders : List String :=
  ["approval_id","decision_id","status","requested_by_user_id","reviewed_by_user_id","review_notes",
    "routing_rule_id","routing_required_permission","routing_allowed_reviewer_roles",
    "routing_require_requester_reviewer_separation","approval_token_expires_at",
    "approval_token_consumed_at","expires_at","approved_at","denied_at","created_at","updated_at"]

namespace Runtime

variable (rt : Runtime)

def contextValue (decision : Decision) (key : String) : Json :=
  match (rt.responseJson decision.responsePayload).lookup "computed_context" with
  | some (.obj members) => (members.lookup key).getD .null
  | _ => .null

def contextText (decision : Decision) (key : String) : String :=
  PythonText.strip (rt.service.strOrEmpty (rt.contextValue decision key))

/-- `int(raw)`, and zero for what is no number. -/
def contextInt (decision : Decision) (key : String) : Int :=
  match rt.contextValue decision key with
  | .bool value => if value then 1 else 0
  | .int value => value
  | .float value =>
    if 0 ≤ value.exponent then value.coefficient * 10 ^ value.exponent.toNat
    else value.coefficient.tdiv (10 ^ (-value.exponent).toNat)
  | .str value => (parseInt value).getD 0
  | _ => 0

def isoOrEmpty (moment : Option Nat) : String := moment.elim "" rt.isoText

def decisionCells (entry : Uuid × Decision) : List String :=
  let row := entry.2
  [rt.uuidText entry.1,row.source.value,row.environment,row.projectId,row.action,
    row.resourceReference,row.decision.value,rt.dumps (.arr (row.reasonCodes.map .str)),
    toString row.policyVersion,
    Service.normalizePolicyDocumentSchemaVersion row.policyDocumentSchemaVersion,
    rt.service.normalizePolicyDocumentSha256 row.policyDocumentSha256,
    rt.contextText row "context_version",rt.contextText row "generated_at",
    rt.contextText row "month_start",rt.contextText row "month_end",
    toString (rt.contextInt row "month_elapsed_days"),
    toString (rt.contextInt row "month_total_days"),
    toString (rt.contextInt row "observed_cost_days"),rt.contextText row "latest_cost_date",
    rt.contextText row "data_source_mode",row.requestFingerprint,row.idempotencyKey,
    amountText row.estimatedMonthlyDeltaUsd,Service.quantizedText row.estimatedHourlyDeltaUsd 6,
    row.allocationAvailableUsd.elim "" amountText,row.creditsAvailableUsd.elim "" amountText,
    amountText row.reservedAllocationUsd,amountText row.reservedCreditUsd,
    boolText row.reservationActive,boolText row.approvalRequired,boolText row.approvalTokenIssued,
    rt.isoOrEmpty row.tokenExpiresAt,rt.uuidText row.createdByUserId,rt.isoText row.createdAt,
    rt.dumps (rt.requestJson row.requestPayload),
    rt.dumps (.obj (rt.responseJson row.responsePayload))]

def approvalCells (entry : Uuid × ApprovalRequest) : List String :=
  let row := entry.2
  [rt.uuidText entry.1,rt.uuidText row.decisionId,row.status.value,
    row.requestedByUserId.elim "" rt.uuidText,row.reviewedByUserId.elim "" rt.uuidText,
    row.reviewNotes.getD "",row.routingRuleId.getD "",row.routingTrace.requiredPermission,
    ",".intercalate row.routingTrace.allowedReviewerRoles,
    boolText row.routingTrace.requireRequesterReviewerSeparation,
    rt.isoOrEmpty row.approvalTokenExpiresAt,rt.isoOrEmpty row.approvalTokenConsumedAt,
    rt.isoText row.expiresAt,rt.isoOrEmpty row.approvedAt,rt.isoOrEmpty row.deniedAt,
    rt.isoText (rt.stamps entry.1).1,rt.isoText (rt.stamps entry.1).2]

def renderCsv (headers : List String) (rows : List (List String)) : List Char :=
  Csv.write (headers.map String.toList :: rows.map (·.map sanitizeCsvCell))

def renderDecisionsCsv (decisions : List (Uuid × Decision)) : List Char :=
  renderCsv decisionHeaders (decisions.map rt.decisionCells)

def renderApprovalsCsv (approvals : List (Uuid × ApprovalRequest)) : List Char :=
  renderCsv approvalHeaders (approvals.map rt.approvalCells)

end Runtime

/-- What is refused with a status of 422. -/
inductive Fault where
  | maxRowsTooSmall | maxRowsTooLarge | windowEmpty | limitExceeded (maxRows : Int)
  deriving DecidableEq

def Fault.detail : Fault → String
  | .maxRowsTooSmall => "max_rows must be >= 1"
  | .maxRowsTooLarge => "max_rows must be <= 50000"
  | .windowEmpty => "window_start must be before window_end"
  | .limitExceeded maxRows => "Export window exceeds max_rows (" ++ toString maxRows ++
      "). Narrow the date range or increase max_rows."

structure Window where
  start : Nat
  stop : Nat

namespace Window

variable (window : Window)

def holds (row : Decision) : Bool := window.start ≤ row.createdAt && row.createdAt ≤ window.stop

def decisions (store : Store) : List (Uuid × Decision) :=
  store.decisions.rows.filter fun entry => window.holds entry.2

/-- The approvals of a join with the decisions of the window. -/
def approvals (store : Store) : List (Uuid × ApprovalRequest) :=
  store.approvals.rows.filter fun entry =>
    (store.decisions.find entry.2.decisionId).any window.holds

end Window

structure Bundle where
  decisionCountDb : Nat
  decisions : List (Uuid × Decision)
  approvalCountDb : Nat
  approvals : List (Uuid × ApprovalRequest)
  decisionsCsv : List Char
  approvalsCsv : List Char

/-- The stores that the four queries see, in their order. -/
structure Reads where
  counted : Store
  listed : Store
  joined : Store
  fetched : Store

variable {rt : Runtime} {maxRows : Int} {window : Window} {reads : Reads} {bundle : Bundle}

structure Built (maxRows : Int) (window : Window) (reads : Reads) (bundle : Bundle) : Prop where
  few : bundle.decisionCountDb ≤ maxRows
  counted : bundle.decisionCountDb = (window.decisions reads.counted).length
  decisions : bundle.decisions.Perm (window.decisions reads.listed)
  joined : bundle.approvalCountDb = (window.approvals reads.joined).length
  approvals : bundle.approvals.Perm (reads.fetched.approvals.rows.filter fun entry =>
    entry.2.decisionId ∈ bundle.decisions.map Prod.fst)

/-- A cell of one line that no spreadsheet runs. -/
def Tidy (cell : List Char) : Prop := formula cell = false ∧ ∀ c ∈ cell, c ≠ '\r' ∧ c ≠ '\n'

instance (cell : List Char) : Decidable (Tidy cell) :=
  @instDecidableAnd _ _ (inferInstanceAs (Decidable (_ = _))) (List.decidableBAll ..)

theorem flattened_line {value : String} {c : Char} (there : c ∈ flattened value) :
    c ≠ '\r' ∧ c ≠ '\n' := by
  obtain ⟨d,_,rfl⟩ := List.mem_map.mp there
  split
  · decide
  · next ordinary => exact not_or.mp ordinary

theorem sanitizeCsvCell_tidy (value : String) : Tidy (sanitizeCsvCell value) := by
  unfold sanitizeCsvCell
  split
  · refine ⟨rfl,fun c there => ?_⟩
    rcases List.mem_cons.mp there with rfl | there
    · decide
    · exact flattened_line there
  · next plain => exact ⟨by simpa using plain,fun c there => flattened_line there⟩

/-- A text that reads back as the header and the sanitized rows, all of one width. -/
structure Readable (headers : List String) (rows : List (List String)) (text : List Char) : Prop where
  parses : Csv.parse text = headers.map String.toList :: rows.map (·.map sanitizeCsvCell)
  widths : ∀ record ∈ Csv.parse text, record.length = headers.length
  tidy : ∀ record ∈ Csv.parse text, ∀ cell ∈ record, Tidy cell

theorem renderCsv_readable {headers : List String} {rows : List (List String)}
    (named : ∀ header ∈ headers, Tidy header.toList)
    (full : ∀ row ∈ rows, row.length = headers.length) :
    Readable headers rows (Runtime.renderCsv headers rows) := by
  have parses : Csv.parse (Runtime.renderCsv headers rows) = _ := Csv.parse_write _
  refine ⟨parses,?_,?_⟩
  · intro record listed
    rw [parses,List.mem_cons,List.mem_map] at listed
    rcases listed with rfl | ⟨row,there,rfl⟩
    · exact List.length_map _
    · rw [List.length_map]
      exact full row there
  · intro record listed cell within
    rw [parses,List.mem_cons,List.mem_map] at listed
    rcases listed with rfl | ⟨row,there,rfl⟩
    · obtain ⟨header,own,rfl⟩ := List.mem_map.mp within
      exact named header own
    · obtain ⟨value,-,rfl⟩ := List.mem_map.mp within
      exact sanitizeCsvCell_tidy value

/-- Both texts read back, one record for each row, and no cell is run. -/
theorem exports_readable (rt : Runtime) (decisions : List (Uuid × Decision))
    (approvals : List (Uuid × ApprovalRequest)) :
    Readable decisionHeaders (decisions.map rt.decisionCells) (rt.renderDecisionsCsv decisions) ∧
      Readable approvalHeaders (approvals.map rt.approvalCells) (rt.renderApprovalsCsv approvals) := by
  refine ⟨renderCsv_readable (by decide +kernel) ?_,renderCsv_readable (by decide +kernel) ?_⟩
  · intro row listed
    obtain ⟨entry,-,rfl⟩ := List.mem_map.mp listed
    simp only [Runtime.decisionCells,decisionHeaders,List.length_cons,List.length_nil]
  · intro row listed
    obtain ⟨entry,-,rfl⟩ := List.mem_map.mp listed
    simp only [Runtime.approvalCells,approvalHeaders,List.length_cons,List.length_nil]

/-- Values that a cell does not tell apart: the one has the line ends of the other, or the
apostrophe that the other is given. -/
def Alike (value value' : String) : Prop :=
  flattened value = flattened value' ∨
    formula (flattened value) = true ∧ flattened value' = apostrophe :: flattened value ∨
    formula (flattened value') = true ∧ flattened value = apostrophe :: flattened value'

theorem sanitizeCsvCell_eq_iff (value value' : String) :
    sanitizeCsvCell value = sanitizeCsvCell value' ↔ Alike value value' := by
  have quoted : ∀ cell, formula (apostrophe :: cell) = false := fun _ => rfl
  unfold sanitizeCsvCell Alike
  cases runs : formula (flattened value) <;> cases runs' : formula (flattened value') <;> grind

/-- Two lists of decisions have one text exactly if their cells are alike, value by value. -/
theorem renderDecisionsCsv_eq_iff (decisions decisions' : List (Uuid × Decision)) :
    rt.renderDecisionsCsv decisions = rt.renderDecisionsCsv decisions' ↔
      List.Forall₂ (fun entry entry' =>
        List.Forall₂ Alike (rt.decisionCells entry) (rt.decisionCells entry')) decisions decisions' := by
  have lists : ∀ {α : Type} {β : Type} (f : α → β) (as as' : List α),
      as.map f = as'.map f ↔ List.Forall₂ (fun a a' => f a = f a') as as' := by
    intro α β f as as'
    rw [← List.forall₂_eq_eq_eq,List.forall₂_map_left_iff,List.forall₂_map_right_iff]
  have rows : rt.renderDecisionsCsv decisions = rt.renderDecisionsCsv decisions' ↔
      (decisions.map rt.decisionCells).map (·.map sanitizeCsvCell) =
        (decisions'.map rt.decisionCells).map (·.map sanitizeCsvCell) := by
    refine ⟨fun same => ?_,fun same => congrArg (fun rows => Csv.write (_ :: rows)) same⟩
    have read := congrArg Csv.parse same
    rw [Runtime.renderDecisionsCsv,Runtime.renderDecisionsCsv,Runtime.renderCsv,Runtime.renderCsv,
      Csv.parse_write,Csv.parse_write] at read
    exact (List.cons.inj read).2
  rw [rows,List.map_map,List.map_map,lists]
  simp only [Function.comp_apply,lists,sanitizeCsvCell_eq_iff]

end Export

end Valdrics.Enforcement

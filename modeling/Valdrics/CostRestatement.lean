import Valdrics.CostPersistence
import Valdrics.Runs

/-! Runs of cost ingestion and finalization. A final record stays final, and the audit log
leads from its cost at finalization to its cost now, unless a batch restates it unseen. -/
namespace Valdrics.Reporting

open Enforcement (Uuid)

structure LedgerState where
  table : Table := {}
  audits : List CostAudit := []
  finalCost : Nat → Option Int := fun _ => none

def LedgerState.auditsOf (s : LedgerState) (id : Nat) : List CostAudit :=
  s.audits.filter (·.costRecordId = id)

inductive LedgerEvent where
  /-- One batch of `save_summary` or `save_records_stream`. -/
  | save (call : Ingestion) (values : List CostValue)
  | finalizeBatch (cutoffDate : Nat) (tenantId : Option Uuid)

/-- The state a step leaves, which notes the costs of the records that it made final. -/
def LedgerState.written (s : LedgerState) (table : Table) (audits : List CostAudit) :
    LedgerState where
  table := table
  audits := s.audits ++ audits
  finalCost id := (s.finalCost id).or
    ((table.rows.find? fun row => row.id = id ∧ row.status = .final).map (·.costUsd))

def finalized (cutoffDate : Nat) (tenantId : Option Uuid) (row : CostRow) : CostRow :=
  if row.status = .preliminary ∧ row.key.recordedAt ≤ cutoffDate ∧
      tenantId.all (· = row.tenantId) then
    { row with status := .final, isPreliminary := false }
  else row

namespace Database

variable (database : Database)

def batchAudits (s : LedgerState) (call : Ingestion) (values : List CostValue) :
    Option (List CostAudit) :=
  if call.isPreliminary then some []
  else database.checkForSignificantAdjustments s.table.rows call values

/-- A batch; `none` raises. -/
def saveBatch (s : LedgerState) (call : Ingestion) (values : List CostValue) :
    Option LedgerState := do
  let audits ← database.batchAudits s call values
  let table ← database.bulkUpsert call s.table values
  return s.written table audits

/-- A batch that raises changes nothing and answers `false`. -/
def exec (s : LedgerState) : LedgerEvent → LedgerState × Bool
  | .save call values =>
    match database.saveBatch s call values with
    | none => (s,false)
    | some t => (t,true)
  | .finalizeBatch cutoffDate tenantId =>
    (s.written { s.table with rows := s.table.rows.map (finalized cutoffDate tenantId) } [],true)

def leftCost (rows : List CostRow) (call : Ingestion) (values : List CostValue) (row : CostRow) :
    Int :=
  values.foldl (fun cost value =>
    if (database.target rows call value).map (·.id) = some row.id then
      (costColumn value.costUsd).getD cost
    else cost) row.costUsd

def restating (rows : List CostRow) (call : Ingestion) (values : List CostValue) (row : CostRow) :
    List CostValue :=
  if call.isPreliminary then []
  else values.filter fun value =>
    (compared rows call values value).map (·.id) = some row.id ∧
      ¬database.sameFloat row.costUsd value.costUsd

def heldAs (amount : Decimal) (units : Int) : Prop :=
  costColumn (database.viaFloat amount) = some units

/-- Restating values account for a cost: without any it stays; otherwise the old cost passes
through a float unchanged, the last value gives the new cost and those before it the old. -/
def Accounts (cost left : Int) : List CostValue → Prop
  | [] => left = cost
  | [value] => database.heldAs (stored cost) cost ∧ database.heldAs value.costUsd left
  | value :: rest =>
    database.heldAs (stored cost) cost ∧ database.heldAs value.costUsd cost ∧ Accounts cost left rest

end Database

def replay : Int → List CostAudit → Option Int
  | cost, [] => some cost
  | cost, audit :: rest => if audit.oldCost = cost then replay audit.newCost rest else none

/-- A record that became final still is, and its audit log leads to its cost. -/
def RestatementsAudited (s : LedgerState) : Prop :=
  ∀ id cost, s.finalCost id = some cost → ∃ row ∈ s.table.rows,
    row.id = id ∧ row.status = .final ∧ row.isPreliminary = false ∧
      replay cost (s.auditsOf id) = some row.costUsd

def LedgerGuard (database : Database) (s : LedgerState) (event : LedgerEvent) : Prop :=
  match event with
  | .save call values => (database.exec s event).2 = true →
    ∀ row ∈ s.table.rows, row.status = .final →
      database.Accounts row.costUsd (database.leftCost s.table.rows call values row)
        (database.restating s.table.rows call values row)
  | .finalizeBatch _ _ => True

theorem replay_append (cost : Int) (first second : List CostAudit) :
    replay cost (first ++ second) = (replay cost first).bind (replay · second) := by
  induction first generalizing cost with
  | nil => rfl
  | cons audit first ih =>
    simp only [List.cons_append,replay]
    split
    · exact ih _
    · rfl

theorem Ingestion.final_iff {call : Ingestion} :
    call.status = .final ↔ call.isPreliminary = false := by
  unfold Ingestion.status
  cases call.isPreliminary <;> simp

namespace Database

variable {database : Database}

theorem replay_iff (cost left : Int) (values : List CostValue) (audits : List CostAudit)
    (entries : audits.map (fun audit => (some audit.oldCost,some audit.newCost)) =
      values.map fun value => (costColumn (database.viaFloat (stored cost)),
        costColumn (database.viaFloat value.costUsd))) :
    replay cost audits = some left ↔ database.Accounts cost left values := by
  induction values generalizing audits with
  | nil =>
    obtain rfl : audits = [] := by simpa using entries
    simp [replay,Accounts,eq_comm]
  | cons value values ih =>
    cases audits with
    | nil => simp at entries
    | cons audit audits =>
      simp only [List.map_cons,List.cons.injEq,Prod.mk.injEq] at entries
      obtain ⟨⟨old,new⟩,entries⟩ := entries
      cases values with
      | nil =>
        obtain rfl : audits = [] := by simpa using entries
        by_cases same : audit.oldCost = cost <;>
          simp [replay,Accounts,heldAs,← old,← new,same]
      | cons next values =>
        cases audits with
        | nil => simp at entries
        | cons later audits =>
          have rest := ih (later :: audits) entries
          simp only [List.map_cons,List.cons.injEq,Prod.mk.injEq] at entries
          obtain ⟨⟨old',_⟩,_⟩ := entries
          have started : later.oldCost = audit.oldCost := Option.some.inj (old'.trans old.symm)
          simp only [Accounts,heldAs,← old,← new,← rest,replay,started,Option.some.injEq]
          by_cases same : audit.oldCost = cost
          · subst same
            by_cases again : audit.newCost = audit.oldCost
            · simp [again]
            · simp [again,Ne.symm again]
          · simp [same]

structure Keyed (table : Table) : Prop where
  distinct : (table.rows.map (·.id)).Nodup
  bounded : ∀ row ∈ table.rows, row.id < table.nextId

theorem Keyed.unique {table : Table} (keyed : Keyed table) {one two : CostRow}
    (first : one ∈ table.rows) (second : two ∈ table.rows) (same : one.id = two.id) : one = two :=
  List.inj_on_of_nodup_map keyed.distinct first second same

structure Follows (row after : CostRow) : Prop where
  id : after.id = row.id
  final : row.status = .final → after.status = .final
  isPreliminary : row.status = .final → after.isPreliminary = row.isPreliminary ∨
    after.isPreliminary = false

theorem Follows.refl (row : CostRow) : Follows row row := ⟨rfl,fun same => same,fun _ => .inl rfl⟩

theorem Follows.trans {row next after : CostRow} (first : Follows row next)
    (second : Follows next after) : Follows row after := by
  refine ⟨second.id.trans first.id,fun final => second.final (first.final final),fun final => ?_⟩
  rcases second.isPreliminary (first.final final) with same | cleared
  · rw [same]
    exact first.isPreliminary final
  · exact .inr cleared

theorem rewritten_follows (call : Ingestion) (row : CostRow) (units : Int) :
    Follows row (rewritten call row units) := by
  refine ⟨rfl,fun final => ?_,fun final => ?_⟩
  · by_cases incoming : call.status = .final <;> simp [rewritten,final]
  · by_cases incoming : call.status = .final <;> simp [rewritten,final,incoming]

def Flagged (rows : List CostRow) : Prop :=
  ∀ row ∈ rows, row.status = .final → row.isPreliminary = false

theorem target_mem {rows : List CostRow} {call : Ingestion} {value : CostValue} {row : CostRow}
    (found : database.target rows call value = some row) : row ∈ rows :=
  List.mem_of_find?_eq_some found

theorem target_map {rows : List CostRow} {call : Ingestion} {value : CostValue}
    {f : CostRow → CostRow} (ids : ∀ row, (f row).id = row.id) (keys : ∀ row, (f row).key = row.key) :
    (database.target (rows.map f) call value).map (·.id) =
      (database.target rows call value).map (·.id) := by
  simp only [target,List.find?_map,Option.map_map]
  congr 1
  · funext row
    exact ids row
  · congr 1
    funext row
    simp [keys row]

structure Writes (database : Database) (call : Ingestion) (value : CostValue)
    (table next : Table) : Prop where
  keyed : Keyed next
  flagged : Flagged table.rows → Flagged next.rows
  follows : ∀ row ∈ table.rows, ∃ after ∈ next.rows, Follows row after ∧
    after.costUsd = if (database.target table.rows call value).map (·.id) = some row.id then
      (costColumn value.costUsd).getD row.costUsd else row.costUsd
  targets : ∀ row ∈ table.rows, ∀ other,
    (database.target next.rows call other).map (·.id) = some row.id ↔
      (database.target table.rows call other).map (·.id) = some row.id

theorem writes_update {call : Ingestion} {table : Table} {value : CostValue} {row : CostRow}
    {units : Int} (keyed : Keyed table) (held : costColumn value.costUsd = some units)
    (found : database.target table.rows call value = some row) :
    Writes database call value table ⟨table.rows.map fun other =>
      if other.id = row.id then rewritten call other units else other,table.nextId⟩ := by
  have ids : ∀ other : CostRow,
      (if other.id = row.id then rewritten call other units else other).id = other.id := by
    intro other
    split <;> rfl
  have keys : ∀ other : CostRow,
      (if other.id = row.id then rewritten call other units else other).key = other.key := by
    intro other
    split <;> rfl
  refine ⟨⟨?_,?_⟩,?_,?_,?_⟩
  · have same : (table.rows.map fun other =>
        if other.id = row.id then rewritten call other units else other).map (·.id) =
        table.rows.map (·.id) := by
      rw [List.map_map]
      exact List.map_congr_left fun other _ => ids other
    rw [same]
    exact keyed.distinct
  · intro after listed
    obtain ⟨other,member,rfl⟩ := List.mem_map.mp listed
    rw [ids other]
    exact keyed.bounded other member
  · intro flagged after listed final
    obtain ⟨other,member,rfl⟩ := List.mem_map.mp listed
    by_cases same : other.id = row.id
    · rw [if_pos same] at final ⊢
      by_cases incoming : call.status = .final
      · simp [rewritten,incoming]
      · by_cases before : other.status = .final
        · simpa [rewritten,incoming,before] using flagged other member before
        · simp [rewritten,incoming,before] at final
    · rw [if_neg same] at final ⊢
      exact flagged other member final
  · intro other listed
    refine ⟨_,List.mem_map_of_mem listed,?_,?_⟩
    · split
      · exact rewritten_follows call other units
      · exact .refl other
    · rw [found,Option.map_some,held]
      by_cases same : other.id = row.id
      · simp [same,rewritten]
      · simp [same,Ne.symm same]
  · intro other _ value'
    rw [target_map ids keys]

theorem writes_insert {call : Ingestion} {table : Table} {value : CostValue}
    {units : Int} (keyed : Keyed table)
    (absent : database.target table.rows call value = none) :
    Writes database call value table ⟨table.rows ++ [⟨table.nextId,call.tenantId,value.key call,
      units,call.status,call.isPreliminary⟩],table.nextId + 1⟩ := by
  refine ⟨⟨?_,?_⟩,?_,?_,?_⟩
  · rw [List.map_append,List.nodup_append]
    refine ⟨keyed.distinct,by simp,?_⟩
    intro one listed two single
    obtain ⟨other,member,rfl⟩ := List.mem_map.mp listed
    simp only [List.map_cons,List.map_nil,List.mem_singleton] at single
    have := keyed.bounded other member
    omega
  · intro row listed
    rcases List.mem_append.mp listed with listed | listed
    · have := keyed.bounded row listed
      show row.id < table.nextId + 1
      omega
    · obtain rfl := List.mem_singleton.mp listed
      exact Nat.lt_succ_self _
  · intro flagged row listed final
    rcases List.mem_append.mp listed with listed | listed
    · exact flagged row listed final
    · obtain rfl := List.mem_singleton.mp listed
      exact Ingestion.final_iff.mp final
  · intro row listed
    exact ⟨row,List.mem_append_left _ listed,.refl row,by simp [absent]⟩
  · intro row listed other
    have bounded := keyed.bounded row listed
    have apart : table.nextId ≠ row.id := by omega
    simp only [target,List.find?_append]
    cases found : table.rows.find? fun row => decide (database.sameKey (other.key call) row.key) with
    | some before => simp
    | none =>
      by_cases matched : database.sameKey (other.key call) (value.key call) <;>
        simp [matched,apart]

theorem upsertRow_writes {call : Ingestion} {table next : Table} {value : CostValue}
    (keyed : Keyed table) (written : database.upsertRow call table value = some next) :
    Writes database call value table next := by
  simp only [upsertRow,Option.bind_eq_bind,Option.bind_eq_some_iff] at written
  obtain ⟨units,held,written⟩ := written
  cases found : database.target table.rows call value with
  | some row =>
    rw [found] at written
    obtain rfl := Option.some.inj written
    exact writes_update keyed held found
  | none =>
    rw [found] at written
    obtain rfl := Option.some.inj written
    exact writes_insert keyed found

theorem foldlM_writes {call : Ingestion} {table next : Table} {values : List CostValue}
    (keyed : Keyed table) (written : values.foldlM (database.upsertRow call) table = some next) :
    Keyed next ∧ (Flagged table.rows → Flagged next.rows) ∧
      ∀ row ∈ table.rows, ∃ after ∈ next.rows, Follows row after ∧
        after.costUsd = database.leftCost table.rows call values row := by
  induction values generalizing table with
  | nil =>
    obtain rfl := Option.some.inj written
    exact ⟨keyed,id,fun row listed => ⟨row,listed,.refl row,rfl⟩⟩
  | cons value values ih =>
    simp only [List.foldlM_cons,Option.bind_eq_bind,Option.bind_eq_some_iff] at written
    obtain ⟨middle,first,rest⟩ := written
    have step := upsertRow_writes keyed first
    obtain ⟨keyed',flagged,follows⟩ := ih step.keyed rest
    refine ⟨keyed',fun before => flagged (step.flagged before),fun row listed => ?_⟩
    obtain ⟨between,member,followed,cost⟩ := step.follows row listed
    obtain ⟨after,member',followed',cost'⟩ := follows between member
    refine ⟨after,member',followed.trans followed',?_⟩
    rw [cost',leftCost,leftCost,List.foldl_cons,cost]
    congr 1
    funext sofar other
    rw [followed.id]
    simp only [step.targets row listed other]

theorem bulkUpsert_writes {call : Ingestion} {table next : Table} {values : List CostValue}
    (keyed : Keyed table) (written : database.bulkUpsert call table values = some next) :
    Keyed next ∧ (Flagged table.rows → Flagged next.rows) ∧
      ∀ row ∈ table.rows, ∃ after ∈ next.rows, Follows row after ∧
        after.costUsd = database.leftCost table.rows call values row := by
  unfold bulkUpsert at written
  split at written
  · simp at written
  · exact foldlM_writes keyed written

theorem compared_final {rows : List CostRow} {call : Ingestion} {values : List CostValue}
    {value : CostValue} {row : CostRow} (found : compared rows call values value = some row) :
    row ∈ rows ∧ row.status = .final := by
  have candidate := (List.mem_filter.mp (List.mem_of_getLast? found)).1
  obtain ⟨listed,conditions⟩ := List.mem_filter.mp candidate
  simp only [decide_eq_true_eq] at conditions
  exact ⟨listed,conditions.2.2.2.2⟩

/-- The audit rows of a batch that are about a record: one for each value that is compared
with it and differs, with the two costs as the column holds them after a float. -/
theorem auditRows_entries {rows : List CostRow} {call : Ingestion} {all : List CostValue}
    {row : CostRow} (unique : ∀ other ∈ rows, other.id = row.id → other = row)
    {values : List CostValue} {audits : List (Option CostAudit)}
    (audited : values.mapM (database.auditRow rows call all) = some audits) :
    ((audits.filterMap fun audit => audit).filter (·.costRecordId = row.id)).map
        (fun audit => (some audit.oldCost,some audit.newCost)) =
      (values.filter fun value => (compared rows call all value).map (·.id) = some row.id ∧
        ¬database.sameFloat row.costUsd value.costUsd).map
        (fun value => (costColumn (database.viaFloat (stored row.costUsd)),
          costColumn (database.viaFloat value.costUsd))) := by
  induction values generalizing audits with
  | nil =>
    obtain rfl := Option.some.inj audited
    rfl
  | cons value values ih =>
    simp only [List.mapM_cons,Option.bind_eq_bind,Option.bind_eq_some_iff] at audited
    obtain ⟨audit,first,rest,others,same⟩ := audited
    obtain rfl := Option.some.inj same
    have later := ih others
    rw [List.filter_cons,List.filterMap_cons]
    unfold auditRow at first
    cases found : compared rows call all value with
    | none =>
      simp only [found,Option.some.injEq] at first
      subst first
      simpa using later
    | some other =>
      simp only [found] at first
      by_cases mine : other.id = row.id
      · obtain rfl := unique other (compared_final found).1 mine
        by_cases float : database.sameFloat other.costUsd value.costUsd
        · simp only [float,if_true,Option.some.injEq] at first
          subst first
          simpa [float] using later
        · simp only [float,if_false,Option.bind_eq_bind,Option.bind_eq_some_iff] at first
          obtain ⟨oldCost,old,newCost,new,made⟩ := first
          obtain rfl := Option.some.inj made
          simpa [float,old,new] using later
      · by_cases float : database.sameFloat other.costUsd value.costUsd
        · simp only [float,if_true,Option.some.injEq] at first
          subst first
          simpa [mine] using later
        · simp only [float,if_false,Option.bind_eq_bind,Option.bind_eq_some_iff] at first
          obtain ⟨oldCost,_,newCost,_,made⟩ := first
          obtain rfl := Option.some.inj made
          simpa [mine] using later

theorem batchAudits_replay {s : LedgerState} {call : Ingestion} {values : List CostValue}
    {audits : List CostAudit} {row : CostRow} (keyed : Keyed s.table)
    (listed : row ∈ s.table.rows)
    (audited : database.batchAudits s call values = some audits) (left : Int) :
    replay row.costUsd (audits.filter (·.costRecordId = row.id)) = some left ↔
      database.Accounts row.costUsd left (database.restating s.table.rows call values row) := by
  apply replay_iff
  unfold batchAudits at audited
  by_cases preliminary : call.isPreliminary = true
  · rw [if_pos preliminary] at audited
    obtain rfl := Option.some.inj audited
    simp [restating,preliminary]
  · rw [if_neg preliminary,checkForSignificantAdjustments,Option.map_eq_some_iff] at audited
    obtain ⟨entries,made,rfl⟩ := audited
    have unique : ∀ other ∈ s.table.rows, other.id = row.id → other = row :=
      fun other member same => keyed.unique member listed same
    rw [auditRows_entries unique made,restating,if_neg preliminary]

theorem batchAudits_final {s : LedgerState} {call : Ingestion} {values : List CostValue}
    {audits : List CostAudit} (audited : database.batchAudits s call values = some audits) :
    ∀ audit ∈ audits, ∃ row ∈ s.table.rows, row.id = audit.costRecordId ∧ row.status = .final := by
  intro audit listed
  unfold batchAudits at audited
  split at audited
  · obtain rfl := Option.some.inj audited
    simp at listed
  · rw [checkForSignificantAdjustments,Option.map_eq_some_iff] at audited
    obtain ⟨entries,made,rfl⟩ := audited
    obtain ⟨_,member,rfl⟩ := List.mem_filterMap.mp listed
    obtain ⟨value,_,entry⟩ := mapM_mem made member
    unfold auditRow at entry
    split at entry
    · simp_all
    · next row found =>
      split at entry
      · simp_all
      · simp only [Option.bind_eq_bind,Option.bind_eq_some_iff] at entry
        obtain ⟨oldCost,_,newCost,_,same⟩ := entry
        obtain ⟨known,final⟩ := compared_final found
        refine ⟨row,known,?_,final⟩
        rw [← Option.some.inj (Option.some.inj same)]

/-- Final records have the cost they became final with on note, audited records are final
ones, and the law holds. -/
structure Ledger (s : LedgerState) : Prop where
  keyed : Keyed s.table
  flagged : Flagged s.table.rows
  noted : ∀ row ∈ s.table.rows, row.status = .final → s.finalCost row.id ≠ none
  audited : ∀ audit ∈ s.audits, s.finalCost audit.costRecordId ≠ none
  law : RestatementsAudited s

theorem auditsOf_written (s : LedgerState) (table : Table) (audits : List CostAudit) (id : Nat) :
    (s.written table audits).auditsOf id =
      s.auditsOf id ++ audits.filter (·.costRecordId = id) := List.filter_append ..

theorem finalCost_written {s : LedgerState} {id : Nat} {cost : Int}
    (noted : s.finalCost id = some cost) (table : Table) (audits : List CostAudit) :
    (s.written table audits).finalCost id = some cost := by
  simp [LedgerState.written,noted]

theorem Ledger.step {s : LedgerState} (ledger : Ledger s) {table : Table}
    {audits : List CostAudit} (keyed : Keyed table) (flagged : Flagged table.rows)
    (about : ∀ audit ∈ audits, ∃ row ∈ s.table.rows,
      row.id = audit.costRecordId ∧ row.status = .final)
    (follows : ∀ row ∈ s.table.rows, ∃ after ∈ table.rows, Follows row after ∧
      (row.status = .final →
        replay row.costUsd (audits.filter (·.costRecordId = row.id)) = some after.costUsd)) :
    Ledger (s.written table audits) := by
  refine ⟨keyed,flagged,?_,?_,?_⟩
  · intro row listed final
    simp only [LedgerState.written,ne_eq,Option.or_eq_none_iff,Option.map_eq_none_iff,not_and]
    intro _ absent
    have missed := List.find?_eq_none.mp absent row listed
    simp [final] at missed
  · intro audit listed
    have noted : s.finalCost audit.costRecordId ≠ none := by
      rcases List.mem_append.mp listed with listed | listed
      · exact ledger.audited audit listed
      · obtain ⟨row,member,same,final⟩ := about audit listed
        exact same ▸ ledger.noted row member final
    obtain ⟨cost,noted⟩ := Option.ne_none_iff_exists'.mp noted
    rw [finalCost_written noted]
    simp
  · intro id cost noted
    rw [auditsOf_written,replay_append]
    cases before : s.finalCost id with
    | some earlier =>
      rw [finalCost_written before] at noted
      obtain rfl := Option.some.inj noted
      obtain ⟨row,listed,rfl,final,_,led⟩ := ledger.law id earlier before
      obtain ⟨after,member,followed,accounted⟩ := follows row listed
      exact ⟨after,member,followed.id,followed.final final,
        flagged after member (followed.final final),by rw [led]; exact accounted final⟩
    | none =>
      -- The record becomes final in this step, so that no audit row is about it.
      simp only [LedgerState.written,before,Option.none_or,Option.map_eq_some_iff] at noted
      obtain ⟨row,found,rfl⟩ := noted
      have listed := List.mem_of_find?_eq_some found
      obtain ⟨rfl,final⟩ : row.id = id ∧ row.status = .final := by
        simpa using List.find?_some found
      have old : s.auditsOf row.id = [] := by
        apply List.filter_eq_nil_iff.mpr
        intro audit member
        have := ledger.audited audit member
        simp only [decide_eq_true_eq]
        rintro same
        exact this (same ▸ before)
      have new : audits.filter (·.costRecordId = row.id) = [] := by
        apply List.filter_eq_nil_iff.mpr
        intro audit member
        obtain ⟨other,known,same,wasFinal⟩ := about audit member
        simp only [decide_eq_true_eq]
        rintro own
        exact ledger.noted other known wasFinal ((same.trans own) ▸ before)
      exact ⟨row,listed,rfl,final,flagged row listed final,by rw [old,new]; rfl⟩

theorem saveBatch_spec {s t : LedgerState} {call : Ingestion} {values : List CostValue}
    (saved : database.saveBatch s call values = some t) :
    ∃ audits table, database.batchAudits s call values = some audits ∧
      database.bulkUpsert call s.table values = some table ∧ t = s.written table audits := by
  simp only [saveBatch,Option.bind_eq_bind,Option.bind_eq_some_iff] at saved
  obtain ⟨audits,audited,table,written,same⟩ := saved
  exact ⟨audits,table,audited,written,(Option.some.inj same).symm⟩

theorem finalized_follows (cutoffDate : Nat) (tenantId : Option Uuid) (row : CostRow) :
    Follows row (finalized cutoffDate tenantId row) := by
  unfold finalized
  split
  · exact ⟨rfl,fun _ => rfl,fun _ => .inr rfl⟩
  · exact .refl row

theorem finalized_same (cutoffDate : Nat) (tenantId : Option Uuid) (row : CostRow) :
    (finalized cutoffDate tenantId row).id = row.id ∧
      (finalized cutoffDate tenantId row).costUsd = row.costUsd := by
  unfold finalized
  split <;> exact ⟨rfl,rfl⟩

theorem Ledger.finalizeBatch {s : LedgerState} (ledger : Ledger s) (cutoffDate : Nat)
    (tenantId : Option Uuid) :
    Ledger (database.exec s (.finalizeBatch cutoffDate tenantId)).1 := by
  apply ledger.step
  · constructor
    · have same : (s.table.rows.map (finalized cutoffDate tenantId)).map (·.id) =
          s.table.rows.map (·.id) := by
        rw [List.map_map]
        exact List.map_congr_left fun row _ => (finalized_same cutoffDate tenantId row).1
      rw [same]
      exact ledger.keyed.distinct
    · intro after listed
      obtain ⟨row,member,rfl⟩ := List.mem_map.mp listed
      rw [(finalized_same cutoffDate tenantId row).1]
      exact ledger.keyed.bounded row member
  · intro after listed final
    obtain ⟨row,member,rfl⟩ := List.mem_map.mp listed
    unfold finalized at final ⊢
    split
    · rfl
    · next unchanged =>
      rw [if_neg unchanged] at final
      exact ledger.flagged row member final
  · intro audit listed
    simp at listed
  · intro row listed
    refine ⟨_,List.mem_map_of_mem listed,finalized_follows cutoffDate tenantId row,fun _ => ?_⟩
    rw [(finalized_same cutoffDate tenantId row).2]
    rfl

theorem Ledger.keeps {s : LedgerState} (ledger : Ledger s) (event : LedgerEvent)
    (guarded : LedgerGuard database s event) : Ledger (database.exec s event).1 := by
  cases event with
  | finalizeBatch cutoffDate tenantId => exact ledger.finalizeBatch cutoffDate tenantId
  | save call values =>
    cases saved : database.saveBatch s call values with
    | none => simpa [exec,saved] using ledger
    | some t =>
      have accounts := guarded (by simp [exec,saved])
      obtain ⟨audits,table,audited,written,rfl⟩ := saveBatch_spec saved
      obtain ⟨keyed,flagged,follows⟩ := bulkUpsert_writes ledger.keyed written
      simp only [exec,saved]
      apply ledger.step keyed (flagged ledger.flagged) (batchAudits_final audited)
      intro row listed
      obtain ⟨after,member,followed,cost⟩ := follows row listed
      refine ⟨after,member,followed,fun final => ?_⟩
      rw [cost,batchAudits_replay ledger.keyed listed audited]
      exact accounts row listed final

theorem Ledger.breaks {s : LedgerState} (ledger : Ledger s) (event : LedgerEvent)
    (unguarded : ¬LedgerGuard database s event) :
    ¬RestatementsAudited (database.exec s event).1 := by
  cases event with
  | finalizeBatch cutoffDate tenantId => exact absurd trivial unguarded
  | save call values =>
    simp only [LedgerGuard,Classical.not_imp,not_forall] at unguarded
    obtain ⟨returned,row,listed,final,unaccounted⟩ := unguarded
    cases saved : database.saveBatch s call values with
    | none => simp [exec,saved] at returned
    | some t =>
      obtain ⟨audits,table,audited,written,rfl⟩ := saveBatch_spec saved
      obtain ⟨keyed,_,follows⟩ := bulkUpsert_writes ledger.keyed written
      obtain ⟨after,member,followed,cost⟩ := follows row listed
      simp only [exec,saved]
      intro law
      obtain ⟨start,noted⟩ := Option.ne_none_iff_exists'.mp (ledger.noted row listed final)
      obtain ⟨before,known,same,_,_,led⟩ := ledger.law row.id start noted
      obtain rfl := ledger.keyed.unique known listed same
      obtain ⟨now,present,same',_,_,leads⟩ := law _ start (finalCost_written noted table audits)
      obtain rfl := keyed.unique present member (same'.trans followed.id.symm)
      rw [auditsOf_written,replay_append,led,Option.bind_some,cost,
        batchAudits_replay ledger.keyed listed audited] at leads
      exact unaccounted leads

end Database

end Valdrics.Reporting

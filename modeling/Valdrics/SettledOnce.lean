import Valdrics.CreditLaw
import Valdrics.SettledReservations

/-! Exactly-once settlement. Whatever reconciliations and sweeps run at the same time,
each reservation is settled by one of them; the others learn its outcome or that the
reservation is not active any more. -/
namespace Valdrics.Enforcement

def SettleOutcome.settles : SettleOutcome → List Uuid
  | .reconciled call _ => [call.decisionId]
  | .swept _ result => result.decisionIds
  | .answered _ _ => []

def Settling.settlements (s : Settling) : List Uuid := s.outcomes.flatMap SettleOutcome.settles

def ReconcileCall.Admitted (call : ReconcileCall) : Prop :=
  ∃ actual, comparableAmount call.actualMonthlyDeltaUsd 4 = .ok actual ∧ 0 ≤ actual

structure Replays (call winner : ReconcileCall) (result won : ReservationReconciliationResult) :
    Prop where
  decisionId : winner.decisionId = call.decisionId
  keyed : strippedOrNone call.idempotencyKey ≠ none
  key : strippedOrNone call.idempotencyKey = strippedOrNone winner.idempotencyKey
  amount : comparableAmount call.actualMonthlyDeltaUsd 4 =
    comparableAmount winner.actualMonthlyDeltaUsd 4
  notes : strippedOrNone call.notes = none ∨ strippedOrNone call.notes = strippedOrNone winner.notes
  released : result.releasedReservedUsd = won.releasedReservedUsd
  actual : result.actualMonthlyDeltaUsd = won.actualMonthlyDeltaUsd
  drift : result.driftUsd = won.driftUsd
  status : result.status = won.status

def Loses (outcomes : List SettleOutcome) (call : ReconcileCall)
    (outcome : Except Fault ReservationReconciliationResult) : Prop :=
  match outcome with
  | .ok result => ∃ winner won, .reconciled winner won ∈ outcomes ∧ Replays call winner result won
  | .error fault => fault.statusCode = some 409 ∨ ¬call.Admitted

def Explains (start : Store) (outcomes : List SettleOutcome) (id : Uuid)
    (record : Option ReservationReconciliation) : Prop :=
  record = none ∨ ∃ call result stored, .reconciled call result ∈ outcomes ∧
    call.decisionId = id ∧ record = some stored ∧ stored.Records start call result

theorem Explains.mono {start : Store} {outcomes : List SettleOutcome} {id : Uuid}
    {record : Option ReservationReconciliation} (later : List SettleOutcome)
    (explains : Explains start outcomes id record) : Explains start (outcomes ++ later) id record := by
  rcases explains with none_ | ⟨call,result,stored,listed,rest⟩
  · exact Or.inl none_
  · exact Or.inr ⟨call,result,stored,List.mem_append_left _ listed,rest⟩

theorem Loses.mono {outcomes : List SettleOutcome} {call : ReconcileCall}
    {outcome : Except Fault ReservationReconciliationResult} (later : List SettleOutcome)
    (loses : Loses outcomes call outcome) : Loses (outcomes ++ later) call outcome := by
  cases outcome with
  | error fault => exact loses
  | ok result =>
    obtain ⟨winner,won,listed,replays⟩ := loses
    exact ⟨winner,won,List.mem_append_left _ listed,replays⟩

section Answers

variable {service : Service} {store : Store} {call : ReconcileCall} {row : Decision}

theorem strippedOrNone_eq_some {value : Option String} {text : String}
    (same : strippedOrNone value = some text) : PythonText.strip text = text ∧ text ≠ "" := by
  unfold strippedOrNone at same
  cases value with
  | none => simp at same
  | some value =>
    simp only [Option.bind_some] at same
    split at same
    · simp at same
    · next nonempty =>
      obtain rfl := Option.some.inj same
      exact ⟨PythonText.strip_strip value,nonempty⟩

theorem strippedOrNone_idem (value : Option String) :
    strippedOrNone (strippedOrNone value) = strippedOrNone value := by
  cases same : strippedOrNone value with
  | none => rfl
  | some text =>
    obtain ⟨stripped,nonempty⟩ := strippedOrNone_eq_some same
    simp [strippedOrNone,stripped,nonempty]

theorem reconciliationStatus_cases (drift : Int) : reconciliationStatus drift = "matched" ∨
    reconciliationStatus drift = "overage" ∨ reconciliationStatus drift = "savings" := by
  unfold reconciliationStatus
  split
  · exact Or.inl rfl
  · split
    · exact Or.inr (Or.inl rfl)
    · exact Or.inr (Or.inr rfl)

theorem answerInactive_unrecorded (found : store.decisions.find call.decisionId = some row)
    (none_ : row.responsePayload.reservationReconciliation = none) (actual : Int) :
    service.answerInactive store call actual = .error .reservationNotActive := by
  unfold Service.answerInactive
  rw [found]
  cases key : strippedOrNone call.idempotencyKey with
  | none => rfl
  | some key =>
    simp only [require,bind,Except.bind,Service.buildReservationReconciliationReplay,none_]

theorem normalized_status (drift : Int) :
    service.text.lower (PythonText.strip (reconciliationStatus drift)) =
      reconciliationStatus drift := by
  rcases reconciliationStatus_cases drift with same | same | same
  · rw [same, service.text.ascii _ (by decide)]
    decide
  · rw [same, service.text.ascii _ (by decide)]
    decide
  · rw [same, service.text.ascii _ (by decide)]
    decide

theorem answerInactive_recorded {start : Store} {outcomes : List SettleOutcome} {actual : Int}
    {winner : ReconcileCall} {won : ReservationReconciliationResult}
    {stored : ReservationReconciliation}
    (found : store.decisions.find call.decisionId = some row)
    (recorded : row.responsePayload.reservationReconciliation = some stored)
    (records : stored.Records start winner won) (listed : .reconciled winner won ∈ outcomes)
    (same : winner.decisionId = call.decisionId)
    (amount : comparableAmount call.actualMonthlyDeltaUsd 4 = .ok actual) :
    Loses outcomes call (service.answerInactive store call actual) := by
  unfold Service.answerInactive
  rw [found]
  cases key : strippedOrNone call.idempotencyKey with
  | none => exact Or.inl rfl
  | some key' =>
    obtain ⟨stripped,nonempty⟩ := strippedOrNone_eq_some key
    simp only [require,bind,Except.bind,Service.buildReservationReconciliationReplay,recorded,
      stripped,nonempty,false_or]
    by_cases other : PythonText.strip (stored.idempotencyKey.getD "") = key'
    · by_cases first : stored.actualMonthlyDeltaUsd = actual
      · by_cases notes : strippedOrNone call.notes ≠ none ∧
            strippedOrNone call.notes ≠ strippedOrNone stored.notes
        · simp [other,first,notes,refuse,Loses,Fault.statusCode]
        · have status : service.text.lower (PythonText.strip stored.status) = won.status := by
            rw [records.status, records.statusOf]
            exact normalized_status won.driftUsd
          have kept : ¬(won.status ≠ "matched" ∧ won.status ≠ "overage" ∧ won.status ≠ "savings") := by
            rw [records.statusOf]
            rcases reconciliationStatus_cases won.driftUsd with same | same | same <;> simp [same]
          have bound : strippedOrNone winner.idempotencyKey = some key' := by
            rw [records.key] at other
            cases theirs : strippedOrNone winner.idempotencyKey with
            | none =>
              rw [theirs] at other
              exact absurd other.symm nonempty
            | some text =>
              rw [theirs, Option.getD_some, (strippedOrNone_eq_some theirs).1] at other
              rw [other]
          simp only [other,first,notes,status,kept,refuse,ne_eq,not_true_eq_false,if_false]
          refine ⟨winner,won,listed,same,by simp [key],key.trans bound.symm,?_,?_,records.released,
            first.symm.trans records.actual,records.drift,rfl⟩
          · rw [amount, records.amount, ← records.actual, first]
          · rw [← strippedOrNone_idem winner.notes, ← records.notes]
            by_contra apart
            exact notes (not_or.mp apart)
      · simp [other,first,refuse,Loses,Fault.statusCode]
    · simp [other,Loses,Fault.statusCode]

theorem openReconciliation_eq_ok {decision : Decision} {actual : Int}
    (opens : Service.openReconciliation store call = .ok (decision,actual)) :
    store.decisions.find call.decisionId = some decision ∧
      comparableAmount call.actualMonthlyDeltaUsd 4 = .ok actual := by
  obtain ⟨row,found,afterFound⟩ := bind_eq_ok.mp opens
  obtain ⟨amount,admitted,afterAmount⟩ := bind_eq_ok.mp afterFound
  obtain ⟨_,_,result⟩ := bind_eq_ok.mp afterAmount
  obtain ⟨rfl,rfl⟩ := Prod.mk.inj (Except.ok.inj result)
  exact ⟨require_eq_ok.mp found,admitted⟩

theorem openReconciliation_refused {fault : Fault}
    (refused : Service.openReconciliation store call = .error fault)
    (found : store.decisions.find call.decisionId = some row) : ¬call.Admitted := by
  rintro ⟨actual,admitted,nonneg⟩
  have opens : Service.openReconciliation store call = .ok (row,actual) := by
    refine bind_eq_ok.mpr ⟨row,require_eq_ok.mpr found,bind_eq_ok.mpr ⟨actual,admitted,?_⟩⟩
    exact bind_eq_ok.mpr ⟨(),refuse_eq_ok.mpr (not_lt.mpr nonneg),rfl⟩
  rw [refused] at opens
  simp at opens

end Answers

structure Progress (start : Store) (s : Settling) : Prop where
  tables : SettledIn start s.committed s.settlements (Explains start s.outcomes)
  once : s.settlements.Nodup
  swept : ∀ call result, .swept call result ∈ s.outcomes →
    result.totalReleasedUsd = (result.decisionIds.map start.reservedUsd).sum
  answered : ∀ call outcome, .answered call outcome ∈ s.outcomes → start.Holds call.decisionId →
    Loses s.outcomes call outcome

structure Sweeps (start : Store) (s : Settling) (sweep : Sweep) (todo : List (Uuid × Decision)) :
    Prop where
  listed : ∀ entry ∈ sweep.listed, start.decisions.find entry.1 = some entry.2
  pending : ∀ entry ∈ todo, start.decisions.find entry.1 = some entry.2 ∧
    entry.2.reservationActive = true
  distinct : (sweep.writes.map (·.decisionId) ++ todo.map Prod.fst).Nodup
  settles : ∀ write ∈ sweep.writes, write.Settles start none
  fresh : ∀ write ∈ sweep.writes, write.decisionId ∉ s.settlements
  total : sweep.total = (sweep.writes.map fun write => start.reservedUsd write.decisionId).sum

structure Opened (start : Store) (call : ReconcileCall) (decision : Decision) (actual : Int) :
    Prop where
  found : start.decisions.find call.decisionId = some decision
  active : decision.reservationActive = true
  amount : comparableAmount call.actualMonthlyDeltaUsd 4 = .ok actual

def Knows (start : Store) (s : Settling) : SettlePhase → Prop
  | .idle => True
  | .opened call decision actual => Opened start call decision actual
  | .claimed call decision actual =>
    Opened start call decision actual ∧ call.decisionId ∉ s.settlements
  | .settled call result writes => call.decisionId ∉ s.settlements ∧
    writes.decisionId = call.decisionId ∧ ∃ record, writes.Settles start (some record) ∧
      record.Records start call result
  | .missed call actual => start.Holds call.decisionId ∧ call.decisionId ∈ s.settlements ∧
    comparableAmount call.actualMonthlyDeltaUsd 4 = .ok actual
  | .sweeping sweep => Sweeps start s sweep sweep.rest
  | .taken sweep decisionId decision => decisionId ∉ s.settlements ∧
    Sweeps start s sweep ((decisionId,decision) :: sweep.rest)

def RowsApart (a b : SettlePhase) : Prop := ∀ id ∈ a.held, id ∉ b.held

section Outline

variable {service : Service} {start : Store} {s : Settling}

@[simp] theorem settlements_append (committed : Store) (outcomes later : List SettleOutcome) :
    Settling.settlements ⟨committed,outcomes ++ later⟩ =
      Settling.settlements ⟨committed,outcomes⟩ ++ later.flatMap SettleOutcome.settles := by
  simp [Settling.settlements]

theorem Knows.later {phase : SettlePhase} {t : Settling} {ids : List Uuid}
    (knows : Knows start s phase) (grown : t.settlements = s.settlements ++ ids)
    (foreign : ∀ id ∈ ids, id ∉ phase.held) : Knows start t phase := by
  have fresh {id : Uuid} (held : id ∈ phase.held) (unsettled : id ∉ s.settlements) :
      id ∉ t.settlements := by
    rw [grown, List.mem_append, not_or]
    exact ⟨unsettled,fun listed => foreign id listed held⟩
  cases phase with
  | idle => trivial
  | opened => exact knows
  | claimed call decision actual => exact ⟨knows.1,fresh (by simp [SettlePhase.held]) knows.2⟩
  | settled call result writes => exact ⟨fresh (by simp [SettlePhase.held]) knows.1,knows.2⟩
  | missed call actual =>
    refine ⟨knows.1,?_,knows.2.2⟩
    rw [grown]
    exact List.mem_append_left _ knows.2.1
  | sweeping sweep =>
    obtain ⟨listed,pending,distinct,settles,unsettled,total⟩ := knows
    refine ⟨listed,pending,distinct,settles,fun write member => ?_,total⟩
    exact fresh (List.mem_map.mpr ⟨write,member,rfl⟩) (unsettled write member)
  | taken sweep decisionId decision =>
    obtain ⟨own,listed,pending,distinct,settles,unsettled,total⟩ := knows
    refine ⟨fresh (by simp [SettlePhase.held]) own,listed,pending,distinct,settles,
      fun write member => ?_,total⟩
    exact fresh (List.mem_cons_of_mem _ (List.mem_map.mpr ⟨write,member,rfl⟩))
      (unsettled write member)

theorem Progress.answer (progress : Progress start s) {call : ReconcileCall}
    {outcome : Except Fault ReservationReconciliationResult}
    (loses : start.Holds call.decisionId → Loses s.outcomes call outcome) :
    Progress start (s.answer (.answered call outcome)) := by
  have same : (s.answer (.answered call outcome)).settlements = s.settlements := by
    simp [Settling.answer,Settling.settlements,SettleOutcome.settles]
  refine ⟨?_,?_,fun call' result listed => ?_,fun call' outcome' listed held => ?_⟩
  · rw [same]
    exact progress.tables.mono fun id record explains => explains.mono _
  · rw [same]
    exact progress.once
  · simp only [Settling.answer,List.mem_append,List.mem_singleton,reduceCtorEq,or_false] at listed
    exact progress.swept call' result listed
  · rcases List.mem_append.mp listed with before | last
    · exact (progress.answered call' outcome' before held).mono _
    · obtain ⟨rfl,rfl⟩ : call' = call ∧ outcome' = outcome := by simpa using last
      exact (loses held).mono _

theorem Progress.answers (progress : Progress start s) {call : ReconcileCall} {actual : Int}
    (settled : call.decisionId ∈ s.settlements)
    (amount : comparableAmount call.actualMonthlyDeltaUsd 4 = .ok actual) :
    Loses s.outcomes call (service.answerInactive s.committed call actual) := by
  obtain ⟨record,once,explains⟩ := progress.tables.settled call.decisionId settled
  obtain ⟨row,found,_,recorded⟩ := once.settled
  rcases explains with rfl | ⟨winner,won,stored,listed,same,rfl,records⟩
  · rw [answerInactive_unrecorded found recorded]
    exact Or.inl rfl
  · exact answerInactive_recorded found recorded records listed same amount

theorem Progress.present (progress : Progress start s) {id : Uuid} (held : start.Holds id) :
    ∃ row, s.committed.decisions.find id = some row := by
  by_cases settled : id ∈ s.settlements
  · obtain ⟨_,once,_⟩ := progress.tables.settled id settled
    obtain ⟨row,found,_⟩ := once.settled
    exact ⟨row,found⟩
  · obtain ⟨row,found,_⟩ := held
    exact ⟨row,(progress.tables.untouched id settled).decision.trans found⟩

theorem Progress.missed (progress : Progress start s) {id : Uuid} (held : start.Holds id)
    (missed : ∀ row, s.committed.decisions.find id = some row → row.reservationActive = false) :
    id ∈ s.settlements := by
  obtain ⟨row,found⟩ := progress.present held
  exact (progress.tables.mem_iff held found).mpr (missed row found)

/-- What the session of a call that claimed an unsettled reservation sees of it. -/
theorem Progress.sees (progress : Progress start s) {id : Uuid}
    {loaded : List (Uuid × Decision)} {writes : List SettlementWrites}
    (listed : ∀ entry ∈ loaded, start.decisions.find entry.1 = some entry.2)
    (settles : ∀ write ∈ writes, write.Settles start none)
    (foreign : id ∉ writes.map (·.decisionId)) (unsettled : id ∉ s.settlements) :
    start.Untouched (s.committed.seen loaded writes) id ∧
      start.KeepsGrants (s.committed.seen loaded writes) :=
  seen_untouched listed settles foreign (progress.tables.untouched id unsettled)
    progress.tables.grants

theorem Progress.sees_opened (progress : Progress start s) {call : ReconcileCall} {decision : Decision}
    {actual : Int} (opened : Opened start call decision actual)
    (unsettled : call.decisionId ∉ s.settlements) :
    start.Untouched (s.committed.seen [(call.decisionId,decision)] []) call.decisionId ∧
      start.KeepsGrants (s.committed.seen [(call.decisionId,decision)] []) := by
  refine progress.sees (fun entry listed => ?_) (by simp) (by simp) unsettled
  rw [List.mem_singleton.mp listed]
  exact opened.found

theorem Progress.commit (progress : Progress start s) {call : ReconcileCall}
    {result : ReservationReconciliationResult} {writes : SettlementWrites}
    (knows : Knows start s (.settled call result writes)) :
    Progress start ⟨writes.flush s.committed,s.outcomes ++ [.reconciled call result]⟩ := by
  obtain ⟨unsettled,same,record,settles,records⟩ := knows
  have grown : Settling.settlements ⟨writes.flush s.committed,s.outcomes ++
      [.reconciled call result]⟩ = s.settlements ++ [writes.decisionId] := by
    rw [settlements_append, same]
    rfl
  refine ⟨?_,?_,fun call' result' listed => ?_,fun call' outcome listed held => ?_⟩
  · rw [grown]
    apply (progress.tables.mono fun id record explains => explains.mono _).flush settles
      (by rw [same]; exact unsettled)
    exact Or.inr ⟨call,result,record,by simp,same.symm,rfl,records⟩
  · rw [grown]
    refine List.nodup_append.mpr ⟨progress.once,by simp,?_⟩
    rintro id listed _ last rfl
    rw [List.mem_singleton] at last
    rw [last, same] at listed
    exact unsettled listed
  · exact progress.swept call' result' (by simpa using listed)
  · exact (progress.answered call' outcome (by simpa using listed) held).mono _

theorem Progress.sweepCommit (progress : Progress start s) {sweep : Sweep}
    (knows : Knows start s (.sweeping sweep)) (age : Int) :
    Progress start ⟨sweep.writes.foldl SettlementWrites.flush s.committed,
      s.outcomes ++ [.swept sweep.call
        ⟨sweep.writes.length,sweep.total,sweep.writes.map (·.decisionId),age⟩]⟩ := by
  have distinct := (List.nodup_append.mp knows.distinct).1
  have grown : Settling.settlements ⟨sweep.writes.foldl SettlementWrites.flush s.committed,
      s.outcomes ++ [.swept sweep.call
        ⟨sweep.writes.length,sweep.total,sweep.writes.map (·.decisionId),age⟩]⟩ =
      s.settlements ++ sweep.writes.map (·.decisionId) := by
    rw [settlements_append]
    simp [SettleOutcome.settles,Settling.settlements]
  have nodup : (s.settlements ++ sweep.writes.map (·.decisionId)).Nodup := by
    refine List.nodup_append.mpr ⟨progress.once,distinct,?_⟩
    rintro id listed _ written rfl
    obtain ⟨write,member,rfl⟩ := List.mem_map.mp written
    exact knows.fresh write member listed
  refine ⟨?_,?_,fun call result listed => ?_,fun call outcome listed held => ?_⟩
  · rw [grown]
    exact (progress.tables.mono fun id record explains => explains.mono _).flushAll knows.settles
      nodup fun _ => Or.inl rfl
  · rw [grown]
    exact nodup
  · rcases List.mem_append.mp listed with before | last
    · exact progress.swept call result before
    · obtain ⟨rfl,rfl⟩ : call = sweep.call ∧ result =
          ⟨sweep.writes.length,sweep.total,sweep.writes.map (·.decisionId),age⟩ := by
        simpa using last
      rw [knows.total, List.map_map]
      rfl
  · exact (progress.answered call outcome (by simpa using listed) held).mono _

theorem SettleStep.own (conserved : start.CreditConserved) (unreconciled : start.Unreconciled)
    {phase later : SettlePhase} {event : SettleEvent} {t : Settling}
    (taken : service.SettleStep s phase event t later) (progress : Progress start s)
    (knows : Knows start s phase) : Progress start t ∧ Knows start t later := by
  cases taken with
  | rejected refused =>
    refine ⟨progress.answer fun held => ?_,trivial⟩
    obtain ⟨row,found⟩ := progress.present held
    exact Or.inr (openReconciliation_refused refused found)
  | inactive opens done =>
    obtain ⟨found,amount⟩ := openReconciliation_eq_ok opens
    refine ⟨progress.answer fun held => ?_,trivial⟩
    exact progress.answers ((progress.tables.mem_iff held found).mpr done) amount
  | opened opens active =>
    obtain ⟨found,amount⟩ := openReconciliation_eq_ok opens
    exact ⟨progress,(progress.tables.of_active found active).2,active,amount⟩
  | claim found active => exact ⟨progress,knows,(progress.tables.of_active found active).1⟩
  | claimMissed missed =>
    have held : start.Holds _ := ⟨_,knows.found,knows.active⟩
    exact ⟨progress,held,progress.missed held missed,knows.amount⟩
  | settle done =>
    obtain ⟨opened,unsettled⟩ := knows
    obtain ⟨untouched,kept⟩ := progress.sees_opened opened unsettled
    obtain ⟨record,settles,records⟩ := settleReservation_settles conserved opened.found
      opened.active opened.amount untouched kept done
    exact ⟨progress,unsettled,rfl,record,settles,records⟩
  | settleFailed failed =>
    obtain ⟨opened,unsettled⟩ := knows
    obtain ⟨untouched,kept⟩ := progress.sees_opened opened unsettled
    obtain ⟨result,returned⟩ := settleReservation_returns service _ conserved opened.found
      opened.active untouched kept
    rw [failed] at returned
    exact absurd returned (by simp)
  | commit => exact ⟨progress.commit knows,trivial⟩
  | reread => exact ⟨progress.answer fun _ => progress.answers knows.2.1 knows.2.2,trivial⟩
  | @sweep _ call =>
    have rows : ∀ entry ∈ Service.overdueDecisions s.committed call,
        start.decisions.find entry.1 = some entry.2 ∧ entry.2.reservationActive = true := by
      intro entry member
      obtain ⟨found,active⟩ := Service.overdueDecisions_listed entry member
      exact ⟨(progress.tables.of_active found active).2,active⟩
    exact ⟨progress,fun entry member => (rows entry member).1,rows,
      by simpa using Service.overdueDecisions_distinct s.committed call,by simp,by simp,rfl⟩
  | take first found active =>
    obtain ⟨listed,pending,distinct,settles,fresh,total⟩ := knows
    rw [first] at pending distinct
    exact ⟨progress,(progress.tables.of_active found active).1,listed,pending,distinct,settles,fresh,
      total⟩
  | skip first missed =>
    obtain ⟨listed,pending,distinct,settles,fresh,total⟩ := knows
    rw [first] at pending distinct
    refine ⟨progress,listed,fun entry member => pending entry (List.mem_cons_of_mem _ member),?_,
      settles,fresh,total⟩
    simp only [List.map_cons] at distinct
    exact distinct.sublist (List.Sublist.append_left (List.sublist_cons_self _ _) _)
  | @release decisionId decision next _ sweep done =>
    obtain ⟨unsettled,listed,pending,distinct,settles,fresh,total⟩ := knows
    obtain ⟨found,active⟩ := pending (decisionId,decision) List.mem_cons_self
    have foreign : decisionId ∉ sweep.writes.map (·.decisionId) := by
      intro written
      exact (List.nodup_append.mp distinct).2.2 _ written _ List.mem_cons_self rfl
    obtain ⟨untouched,kept⟩ := progress.sees listed settles foreign unsettled
    have settled := releaseOverdue_settles conserved unreconciled found active untouched kept done
    refine ⟨progress,listed,fun entry member => pending entry (List.mem_cons_of_mem _ member),?_,
      ?_,?_,?_⟩
    · simpa [SettlementWrites.between] using distinct
    · intro write member
      rcases List.mem_append.mp member with before | last
      · exact settles write before
      · rw [List.mem_singleton.mp last]
        exact settled
    · intro write member
      rcases List.mem_append.mp member with before | last
      · exact fresh write before
      · rw [List.mem_singleton.mp last]
        exact unsettled
    · simp [total,SettlementWrites.between,Store.reservedUsd,found]
  | swept last => exact ⟨progress.sweepCommit knows _,trivial⟩
  | crash => exact ⟨progress,trivial⟩

/-- What a step of one caller settles is among the rows that it holds. -/
theorem SettleStep.grows {phase later : SettlePhase} {event : SettleEvent} {t : Settling}
    (taken : service.SettleStep s phase event t later) :
    ∃ ids, t.settlements = s.settlements ++ ids ∧ ∀ id ∈ ids, id ∈ phase.held := by
  cases taken with
  | commit => exact ⟨_,settlements_append _ _ _,by simp [SettleOutcome.settles,SettlePhase.held]⟩
  | swept last => exact ⟨_,settlements_append _ _ _,by simp [SettleOutcome.settles,SettlePhase.held]⟩
  | rejected => exact ⟨[],by simp [Settling.answer,Settling.settlements,SettleOutcome.settles],by simp⟩
  | inactive => exact ⟨[],by simp [Settling.answer,Settling.settlements,SettleOutcome.settles],by simp⟩
  | reread => exact ⟨[],by simp [Settling.answer,Settling.settlements,SettleOutcome.settles],by simp⟩
  | settleFailed => exact ⟨[],by simp [Settling.answer,Settling.settlements,SettleOutcome.settles],by simp⟩
  | _ => exact ⟨[],by simp,by simp⟩

theorem SettleStep.unchanged {phase later : SettlePhase} {event : SettleEvent} {t : Settling}
    {call : ReconcileCall} {outcome : Except Fault ReservationReconciliationResult}
    (taken : service.SettleStep s phase event t later)
    (last : t.outcomes = s.outcomes ++ [.answered call outcome]) : t.committed = s.committed := by
  cases taken with
  | commit => simp at last
  | swept => simp at last
  | _ => rfl

end Outline

def Starts (start : Store) (system : Interleaving.System ι Settling SettlePhase) : Prop :=
  system.shared = ⟨start,[]⟩ ∧ ∀ party, system.phase party = .idle

theorem Starts.good {start : Store} {system : Interleaving.System ι Settling SettlePhase}
    (starts : Starts start system) :
    Interleaving.Good (Progress start) (Knows start) RowsApart system := by
  obtain ⟨shared,idle⟩ := starts
  refine ⟨?_,fun party => ?_,fun party other _ id held => ?_⟩
  · rw [shared]
    refine ⟨⟨fun id _ => ⟨rfl,fun _ => rfl⟩,fun id listed => ?_,fun id grant found => ⟨grant,found⟩⟩,
      ?_,fun call result listed => ?_,fun call outcome listed => ?_⟩
    · simp [Settling.settlements] at listed
    · simp [Settling.settlements]
    · simp at listed
    · simp at listed
  · rw [idle party]
    trivial
  · rw [idle party] at held
    simp [SettlePhase.held] at held

namespace Sample

end Sample

end Valdrics.Enforcement

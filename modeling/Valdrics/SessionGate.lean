import Valdrics.RowSecurity

/-! When the gate follows the context of the session that issues a statement: it reads the mark of
the connection, which outlives the session that made it, and lets some texts pass unread. -/
namespace Valdrics.RowSecurity

open PythonText

def ContextInfo.HasContext (info : ContextInfo) : Prop :=
  info.rlsContextSet = some true ∨ (info.rlsContextSet = none ∧ info.rlsSystemContext = true)

instance (info : ContextInfo) : Decidable info.HasContext := inferInstanceAs (Decidable (_ ∨ _))

def Statement.OnTenantTable (statement : Statement) : Prop :=
  statement.kind ≠ .other ∧ ∃ table ∈ statement.tables, table ∉ rlsExemptTables

instance (statement : Statement) : Decidable statement.OnTenantTable :=
  inferInstanceAs (Decidable (_ ∧ _))

def escapes (rt : Runtime) (text : String) : Bool :=
  let lowered := rt.text.lower text
  otherVerb lowered || hasProbe lowered || rlsExemptTablePattern rt lowered

def Authorised (rt : Runtime) (s : State) : Event → Prop
  | .execute i statement given => statement.OnTenantTable →
      (s.execute rt i statement.text given).2 = .done → (s.sessions i).info.HasContext
  | _ => True

def noteOwn (own : SessionId → Bool) (s : State) (event : Event) (result : State × Outcome) :
    SessionId → Bool :=
  match event with
  | .openSession i | .release i => Function.update own i false
  | .getDb i _ _ => Function.update own i (result.2 = .done)
  | .setSessionTenantId i _ answers | .clearSessionTenantContext i answers
  | .markSessionSystemContext i answers =>
    Function.update own i (s.connection i answers.connection).isSome
  | .execute i _ _ => if (s.sessions i).held.isSome then own else Function.update own i false
  | .recycle _ => own

/-- A statement on a tenant's table of a session without a context is read by the gate, and where
the session has not marked the connection itself, no mark of another time grants it. -/
def Gated (rt : Runtime) (own : SessionId → Bool) (s : State) : Event → Prop
  | .execute i statement given => statement.OnTenantTable → ¬(s.sessions i).info.HasContext →
      ∀ next c, s.connection i given = some (next,c) → escapes rt statement.text = false ∧
        (own i = true ∨ ¬(s.connections c).info.HasContext)
  | _ => True

variable {rt : Runtime} {s next : State} {i : SessionId} {c : ConnectionId}
  {given : Option ConnectionId} {answers : Answers} {own : SessionId → Bool}

theorem checkRlsPolicy_ok_iff (production : rt.testing = false) (info : ContextInfo)
    (text : String) :
    checkRlsPolicy rt info text = .ok () ↔ escapes rt text = true ∨ info.HasContext := by
  obtain ⟨contextSet,system⟩ := info
  simp only [checkRlsPolicy,production,Bool.false_eq_true,false_and,if_false,escapes,
    Bool.or_eq_true]
  by_cases verb : otherVerb (rt.text.lower text) = true
  · simp [verb]
  by_cases probe : hasProbe (rt.text.lower text) = true
  · simp [verb,probe]
  by_cases exempt : rlsExemptTablePattern rt (rt.text.lower text) = true
  · simp [verb,probe,exempt]
  simp only [verb,probe,exempt,or_self,ContextInfo.HasContext]
  match contextSet with
  | none => cases system <;> simp
  | some true => simp
  | some false => simp

def Linked (s : State) : Prop :=
  ∀ i c, (s.sessions i).held = some c ↔ (s.connections c).holder = some i

structure Others (s next : State) (i : SessionId) : Prop where
  linked : Linked next
  sessions : ∀ j, j ≠ i → next.sessions j = s.sessions j
  connections : ∀ j c, j ≠ i → (s.connections c).holder = some j →
    next.connections c = s.connections c

theorem Others.refl (linked : Linked s) : Others s s i := ⟨linked,fun _ _ => rfl,fun _ _ _ _ => rfl⟩

theorem Others.trans {middle : State} (first : Others s middle i) (second : Others middle next i) :
    Others s next i := by
  refine ⟨second.linked,?_,?_⟩
  · intro j apart
    rw [second.sessions j apart,first.sessions j apart]
  · intro j c apart holds
    have same := first.connections j c apart holds
    rw [second.connections j c apart (by rw [same]; exact holds),same]

theorem pair_others (linked : Linked s) (mine : ∀ d, (s.sessions i).held = some d → d = c)
    (yours : ∀ j, (s.connections c).holder = some j → j = i) (session : Session)
    (connection : Connection) (same : session.held = some c ↔ connection.holder = some i)
    (one : ∀ d, session.held = some d → d = c) (owner : ∀ j, connection.holder = some j → j = i) :
    Others s ((s.setSession i session).setConnection c connection) i := by
  refine ⟨?_,?_,?_⟩
  · intro j d
    simp only [State.setSession,State.setConnection,Function.update_apply]
    have before := linked j d
    by_cases session : j = i
    · by_cases here : d = c
      · simpa [session,here] using same
      · have apart : (s.connections d).holder ≠ some i := by
          intro other
          exact here (mine d ((linked i d).mpr other))
        simp only [session,here,if_true,if_false,apart,iff_false]
        exact fun held => here (one d held)
    · by_cases here : d = c
      · have apart : (s.sessions j).held ≠ some c := by
          intro other
          exact session (yours j ((linked j c).mp other))
        simp only [session,here,if_true,if_false,apart,false_iff]
        exact fun holds => session (owner j holds)
      · simpa [session,here] using before
  · intro j apart
    simp [State.setSession,State.setConnection,apart]
  · intro j d apart holds
    have different : d ≠ c := by
      intro here
      rw [here] at holds
      exact apart (yours j holds)
    simp [State.setSession,State.setConnection,different]

theorem markSession_others (linked : Linked s) (info : ContextInfo) :
    Others s (s.markSession i info) i := by
  refine ⟨?_,?_,fun _ _ _ _ => rfl⟩
  · intro j c
    have before := linked j c
    by_cases same : j = i
    · cases same
      simpa [State.markSession,State.setSession] using before
    · simpa [State.markSession,State.setSession,same] using before
  · intro j apart
    simp [State.markSession,State.setSession,apart]

theorem markConnection_others (linked : Linked s) (holds : (s.sessions i).held = some c)
    (info : ContextInfo) : Others s (s.markConnection c info) i := by
  refine ⟨?_,fun _ _ => rfl,?_⟩
  · intro j d
    by_cases same : d = c
    · cases same
      simpa [State.markConnection,State.setConnection] using linked j c
    · simpa [State.markConnection,State.setConnection,same] using linked j d
  · intro j d apart other
    have different : d ≠ c := by
      intro same
      rw [same,(linked i c).mp holds] at other
      exact apart (Option.some.inj other).symm
    simp [State.markConnection,State.setConnection,different]

theorem release_others (linked : Linked s) :
    Others s (s.release i) i ∧ ((s.release i).sessions i).held = none := by
  simp only [State.release]
  split
  next none => exact ⟨Others.refl linked,none⟩
  next c holds =>
    have held := (linked i c).mp holds
    refine ⟨pair_others linked ?_ ?_ _ _ ?_ ?_ ?_,?_⟩
    · intro d other
      rw [holds] at other
      exact (Option.some.inj other).symm
    · intro j other
      rw [held] at other
      exact (Option.some.inj other).symm
    · simp
    · simp
    · simp
    · simp [State.setSession,State.setConnection]

theorem connection_others (linked : Linked s) (gives : s.connection i given = some (next,c)) :
    Others s next i ∧ (next.sessions i).held = some c ∧
      (next.sessions i).info = (s.sessions i).info ∧
      ∀ d, (next.connections d).info = (s.connections d).info := by
  simp only [State.connection] at gives
  split at gives
  · cases gives
  next _ _ _ holds =>
    cases gives
    exact ⟨Others.refl linked,holds,rfl,fun _ => rfl⟩
  next _ _ none =>
    split at gives
    next idle =>
      obtain ⟨rfl,rfl⟩ := Prod.mk.inj (Option.some.inj gives)
      refine ⟨pair_others linked ?_ ?_ _ _ ?_ ?_ ?_,?_,?_,?_⟩
      · simp [none]
      · simp [idle]
      · simp
      · simp
      · simp
      · simp [State.setSession,State.setConnection]
      · simp [State.setSession,State.setConnection]
      · intro d
        simp only [State.setSession,State.setConnection,Function.update_apply]
        split
        next same => rw [same]
        · rfl
    · cases gives

theorem connection_held (holds : (s.sessions i).held = some c) {d : ConnectionId}
    (gives : s.connection i given = some (next,d)) : next = s ∧ d = c := by
  cases given with
  | none => simp [State.connection] at gives
  | some other =>
    simp only [State.connection,holds,Option.some.injEq,Prod.mk.injEq] at gives
    exact ⟨gives.1.symm,gives.2.symm⟩

theorem execute_others (linked : Linked s) (text : String) :
    Others s (s.execute rt i text given).1 i := by
  simp only [State.execute]
  split
  · exact Others.refl linked
  next next c gives =>
    have others := (connection_others linked gives).1
    split <;> exact others

theorem execute_held (holds : (s.sessions i).held = some c) (text : String) :
    (s.execute rt i text given).1 = s := by
  simp only [State.execute]
  split
  · rfl
  next next d gives =>
    obtain ⟨rfl,_⟩ := connection_held holds gives
    split <;> rfl

def Owns (s : State) (i : SessionId) : Prop :=
  ∃ c, (s.sessions i).held = some c ∧ (s.connections c).info = (s.sessions i).info

theorem mark_owns (linked : Linked s) (gives : s.connection i given = some (next,c))
    (info : ContextInfo) (marked : (next.sessions i).info = info) :
    Others s (next.markConnection c info) i ∧ Owns (next.markConnection c info) i := by
  obtain ⟨others,holds,_,_⟩ := connection_others linked gives
  refine ⟨others.trans (markConnection_others others.linked holds info),c,?_,?_⟩
  · simpa [State.markConnection,State.setConnection] using holds
  · simpa [State.markConnection,State.setConnection] using marked.symm

structure Kept (own : SessionId → Bool) (s : State) : Prop where
  linked : Linked s
  owns : ∀ i, own i = true → Owns s i

theorem Kept.update (kept : Kept own s) (others : Others s next i) {flag : Bool}
    (mine : flag = true → Owns next i) : Kept (Function.update own i flag) next := by
  refine ⟨others.linked,?_⟩
  intro j noted
  by_cases same : j = i
  · cases same
    exact mine (by simpa using noted)
  · rw [Function.update_of_ne same] at noted
    obtain ⟨c,holds,marked⟩ := kept.owns j noted
    refine ⟨c,by rw [others.sessions j same]; exact holds,?_⟩
    rw [others.connections j c same ((kept.linked j c).mp holds),others.sessions j same]
    exact marked

theorem connection_markSession (s : State) (i : SessionId) (info : ContextInfo)
    (given : Option ConnectionId) :
    ((s.markSession i info).connection i given).isSome = (s.connection i given).isSome := by
  have held : ((s.markSession i info).sessions i).held = (s.sessions i).held := by
    simp [State.markSession,State.setSession]
  have connections : (s.markSession i info).connections = s.connections := rfl
  simp only [State.connection,held,connections]
  cases given with
  | none => rfl
  | some c =>
    cases (s.sessions i).held with
    | some d => rfl
    | none =>
      dsimp only
      split <;> rfl

theorem reopened_others (linked : Linked s) : Others s ((s.release i).setSession i {}) i := by
  obtain ⟨others,none⟩ := release_others (i := i) linked
  refine others.trans ⟨?_,?_,fun _ _ _ _ => rfl⟩
  · intro j c
    have before := others.linked j c
    by_cases same : j = i
    · cases same
      rw [none] at before
      simpa [State.setSession] using before
    · simpa [State.setSession,same] using before
  · intro j apart
    simp [State.setSession,apart]

theorem openWith_kept (linked : Linked s) (flag : Bool) :
    Others s (openWith s i flag answers).1 i ∧
      ((openWith s i flag answers).2 = .done → Owns (openWith s i flag answers).1 i) := by
  have marks := markSession_others (i := i) linked { rlsContextSet := some flag }
  simp only [openWith]
  split
  · exact ⟨marks.trans (release_others marks.linked).1,fun done => (nomatch done)⟩
  next next c gives =>
    obtain ⟨_,_,info,_⟩ := connection_others marks.linked gives
    obtain ⟨others,owns⟩ := mark_owns marks.linked gives { rlsContextSet := some flag }
      (by rw [info]; simp [State.markSession,State.setSession])
    exact ⟨marks.trans others,fun _ => owns⟩

theorem getDbImpl_kept (linked : Linked s) (request : Option (Option String)) :
    Others s (getDbImpl rt s i request answers).1 i ∧
      ((getDbImpl rt s i request answers).2 = .done →
        Owns (getDbImpl rt s i request answers).1 i) := by
  have opened := reopened_others (i := i) linked
  have opens : ∀ {t : State}, Others s t i → ∀ flag,
      Others s (openWith t i flag answers).1 i ∧
        ((openWith t i flag answers).2 = .done → Owns (openWith t i flag answers).1 i) := by
    intro t before flag
    obtain ⟨others,owns⟩ := openWith_kept before.linked flag
    exact ⟨before.trans others,owns⟩
  simp only [getDbImpl]
  split
  · exact opens opened true
  · exact opens opened false
  · split
    · have sent : Others s (State.execute rt ((s.release i).setSession i {}) i setTenantConfig
          answers.configuring).1 i := opened.trans (execute_others opened.linked setTenantConfig)
      split
      next result exception refused =>
        rw [refused] at sent
        exact ⟨sent.trans (release_others sent.linked).1,fun done => (nomatch done)⟩
      next result refused =>
        rw [refused] at sent
        exact opens sent false
      next result refused =>
        rw [refused] at sent
        exact opens sent _
    · exact opens opened false
    · exact opens opened true

theorem markSessionSystemContext_kept (linked : Linked s) :
    Others s (markSessionSystemContext s i answers).1 i ∧
      ((s.connection i answers.connection).isSome = true →
        Owns (markSessionSystemContext s i answers).1 i) := by
  have marks := markSession_others (i := i) linked { rlsSystemContext := true }
  rw [← connection_markSession s i { rlsSystemContext := true }]
  simp only [markSessionSystemContext]
  split
  next none => exact ⟨marks,by simp [none]⟩
  next next c gives =>
    obtain ⟨_,_,info,_⟩ := connection_others marks.linked gives
    obtain ⟨others,owns⟩ := mark_owns marks.linked gives { rlsSystemContext := true }
      (by rw [info]; simp [State.markSession,State.setSession])
    exact ⟨marks.trans others,fun _ => owns⟩

theorem clearSessionTenantContext_kept (linked : Linked s) :
    Others s (clearSessionTenantContext rt s i answers).1 i ∧
      ((s.connection i answers.connection).isSome = true →
        Owns (clearSessionTenantContext rt s i answers).1 i) := by
  have marks := markSession_others (i := i) linked { rlsContextSet := some false }
  rw [← connection_markSession s i { rlsContextSet := some false }]
  simp only [clearSessionTenantContext]
  split
  next none => exact ⟨marks,by simp [none]⟩
  next next c gives =>
    obtain ⟨_,_,info,_⟩ := connection_others marks.linked gives
    obtain ⟨others,owns⟩ := mark_owns marks.linked gives { rlsContextSet := some false }
      (by rw [info]; simp [State.markSession,State.setSession])
    split
    · obtain ⟨d,holds,_⟩ := id owns
      rw [execute_held holds]
      exact ⟨marks.trans others,fun _ => owns⟩
    · exact ⟨marks.trans others,fun _ => owns⟩

theorem markBoth_kept (linked : Linked s) (holds : (s.sessions i).held = some c)
    (info : ContextInfo) :
    Others s ((s.markSession i info).markConnection c info) i ∧
      (((s.markSession i info).markConnection c info).sessions i).held = some c ∧
      Owns ((s.markSession i info).markConnection c info) i := by
  have marks := markSession_others (i := i) linked info
  have still : ((s.markSession i info).sessions i).held = some c := by
    simpa [State.markSession,State.setSession] using holds
  refine ⟨marks.trans (markConnection_others marks.linked still info),still,c,still,?_⟩
  simp [State.markSession,State.setSession,State.markConnection,State.setConnection]

theorem setSessionTenantId_kept (linked : Linked s) (tenant : Option String) :
    Others s (setSessionTenantId rt s i tenant answers).1 i ∧
      ((s.connection i answers.connection).isSome = true →
        Owns (setSessionTenantId rt s i tenant answers).1 i) := by
  cases tenant with
  | none => exact clearSessionTenantContext_kept linked
  | some tenant =>
    simp only [setSessionTenantId]
    split
    next none => exact ⟨Others.refl linked,by simp [none]⟩
    next next c gives =>
      obtain ⟨others,holds,_,_⟩ := connection_others linked gives
      have both := fun flag => markBoth_kept others.linked holds { rlsContextSet := some flag }
      split
      · exact ⟨others.trans (both false).1,fun _ => (both false).2.2⟩
      · exact ⟨others.trans (both true).1,fun _ => (both true).2.2⟩
      · obtain ⟨marks,still,owns⟩ := both true
        have same : (State.execute rt _ i setTenantConfig (some c)).1 = _ :=
          execute_held still setTenantConfig
        split
        next result sent =>
          rw [sent] at same
          cases same
          split
          · exact ⟨others.trans marks,fun _ => owns⟩
          · obtain ⟨again,_,ownsAgain⟩ := markBoth_kept marks.linked still
              { rlsContextSet := some false }
            exact ⟨(others.trans marks).trans again,fun _ => ownsAgain⟩
        next result outcome _ sent =>
          rw [sent] at same
          cases same
          exact ⟨others.trans marks,fun _ => owns⟩

theorem exec_kept (kept : Kept own s) (event : Event) :
    Kept (noteOwn own s event (exec rt s event)) (exec rt s event).1 := by
  cases event with
  | openSession i =>
    exact kept.update (reopened_others kept.linked) fun flag => (nomatch flag)
  | getDb i request answers =>
    have spec : Others s (getDbImpl rt s i request answers).1 i ∧ _ :=
      getDbImpl_kept kept.linked request
    exact kept.update spec.1 fun done => spec.2 (of_decide_eq_true done)
  | setSessionTenantId i tenant answers =>
    have spec : Others s (setSessionTenantId rt s i tenant answers).1 i ∧ _ :=
      setSessionTenantId_kept kept.linked tenant
    exact kept.update spec.1 spec.2
  | clearSessionTenantContext i answers =>
    have spec : Others s (clearSessionTenantContext rt s i answers).1 i ∧ _ :=
      clearSessionTenantContext_kept kept.linked
    exact kept.update spec.1 spec.2
  | markSessionSystemContext i answers =>
    have spec : Others s (markSessionSystemContext s i answers).1 i ∧ _ :=
      markSessionSystemContext_kept kept.linked
    exact kept.update spec.1 spec.2
  | execute i statement given =>
    simp only [exec,noteOwn]
    cases holds : (s.sessions i).held with
    | some c =>
      rw [execute_held holds]
      exact kept
    | none =>
      exact kept.update (execute_others kept.linked statement.text) fun flag => (nomatch flag)
  | release i =>
    exact kept.update (release_others kept.linked).1 fun flag => (nomatch flag)
  | recycle c =>
    simp only [exec,noteOwn]
    split
    next idle =>
      have apart : ∀ i d, (s.sessions i).held = some d → d ≠ c := by
        rintro i d holds rfl
        rw [(kept.linked i d).mp holds] at idle
        cases idle
      constructor
      · intro i d
        have before := kept.linked i d
        by_cases same : d = c
        · cases same
          rw [idle] at before
          simpa [State.setConnection] using before
        · simpa [State.setConnection,same] using before
      · intro i noted
        obtain ⟨d,holds,marked⟩ := kept.owns i noted
        exact ⟨d,holds,by simpa [State.setConnection,apart i d holds] using marked⟩
    · exact kept

theorem execute_done_iff (production : rt.testing = false) (linked : Linked s) (text : String) :
    (s.execute rt i text given).2 = .done ↔
      ∃ next c, s.connection i given = some (next,c) ∧
        (escapes rt text = true ∨ (s.connections c).info.HasContext) := by
  simp only [State.execute]
  split
  next none => simp [none]
  next next c gives =>
    obtain ⟨_,_,_,infos⟩ := connection_others linked gives
    have check := checkRlsPolicy_ok_iff production (next.connections c).info text
    simp only [gives,Option.some.injEq,Prod.mk.injEq]
    rw [infos] at check ⊢
    split
    next exception refused =>
      rw [refused] at check
      simp only [reduceCtorEq,false_iff] at check ⊢
      rintro ⟨_,_,⟨rfl,rfl⟩,passes⟩
      exact check passes
    next passed =>
      rw [passed] at check
      simp only [true_iff]
      exact ⟨next,c,⟨rfl,rfl⟩,check.mp rfl⟩

theorem authorised_iff_gated (production : rt.testing = false) (kept : Kept own s) (event : Event) :
    Authorised rt s event ↔ Gated rt own s event := by
  cases event with
  | execute i statement given =>
    simp only [Authorised,Gated,execute_done_iff production kept.linked]
    constructor
    · intro authorised onTenant without next c gives
      constructor
      · by_contra escaping
        exact without (authorised onTenant ⟨next,c,gives,.inl (by simpa using escaping)⟩)
      · right
        exact fun marked => without (authorised onTenant ⟨next,c,gives,.inr marked⟩)
    · rintro gated onTenant ⟨next,c,gives,passes⟩
      by_contra without
      obtain ⟨read,mark⟩ := gated onTenant without next c gives
      rcases passes with escaping | marked
      · rw [read] at escaping
        contradiction
      · rcases mark with noted | unmarked
        · obtain ⟨d,holds,same⟩ := kept.owns i noted
          obtain ⟨_,rfl⟩ := connection_held holds gives
          rw [same] at marked
          exact without marked
        · exact unmarked marked
  | _ => exact Iff.rfl

theorem start_kept : Kept (fun _ => false) {} :=
  ⟨fun _ _ => by simp,fun _ noted => (nomatch noted)⟩

/-- The gate lets two statements pass alike on a marked connection, and on another one when it
reads the mark for both or for neither. -/
theorem same_decision_iff (production : rt.testing = false) (linked : Linked s)
    (gives : s.connection i given = some (next,c)) (first second : Statement) :
    ((s.execute rt i first.text given).2 = .done ↔ (s.execute rt i second.text given).2 = .done) ↔
      ((s.connections c).info.HasContext ∨ escapes rt first.text = escapes rt second.text) := by
  rw [execute_done_iff production linked,execute_done_iff production linked]
  simp only [gives,Option.some.injEq,Prod.mk.injEq]
  have sides : ∀ text, (∃ next' c', (next = next' ∧ c = c') ∧
      (escapes rt text = true ∨ (s.connections c').info.HasContext)) ↔
      (escapes rt text = true ∨ (s.connections c).info.HasContext) := by
    intro text
    constructor
    · rintro ⟨_,_,⟨rfl,rfl⟩,passes⟩
      exact passes
    · exact fun passes => ⟨next,c,⟨rfl,rfl⟩,passes⟩
  have same : escapes rt first.text = escapes rt second.text ↔
      (escapes rt first.text = true ↔ escapes rt second.text = true) := Bool.eq_iff_iff
  rw [sides,sides,same]
  tauto

/-- In a run outside tests every statement on a tenant's table that passes is one of a session with
a context exactly when each is gated; and in the state reached two statements of one session get the
same decision exactly when the connection is marked or the gate reads the mark for both or
neither. -/
theorem gate_follows_context_iff (rt : Runtime) (production : rt.testing = false)
    (events : List Event) :
    (EachStep (withHistory (exec rt) noteOwn) (fun s event => Authorised rt s.1 event)
        ({},fun _ => false) events ↔
      EachStep (withHistory (exec rt) noteOwn) (fun s event => Gated rt s.2 s.1 event)
        ({},fun _ => false) events) ∧
    ∀ i given next c (first second : Statement),
      (finalState (exec rt) {} events).connection i given = some (next,c) →
      ((((finalState (exec rt) {} events).execute rt i first.text given).2 = .done ↔
          ((finalState (exec rt) {} events).execute rt i second.text given).2 = .done) ↔
        (((finalState (exec rt) {} events).connections c).info.HasContext ∨
          escapes rt first.text = escapes rt second.text)) := by
  constructor
  · apply eachStep_iff_eachStep _ _ _ (fun s => Kept s.2 s.1)
    · rintro ⟨s,own⟩ event kept
      exact exec_kept kept event
    · rintro ⟨s,own⟩ event kept
      exact authorised_iff_gated production kept event
    · exact start_kept
  · intro i given next c first second gives
    have reached : ∃ own, Kept own (finalState (exec rt) {} events) := by
      refine finalState_invariant (exec rt) (fun _ _ => True) (fun s => ∃ own, Kept own s) ?_ {}
        events (EachStep.of_forall (fun _ _ => trivial) _ _) ⟨_,start_kept⟩
      rintro s event ⟨own,kept⟩ _
      exact ⟨_,exec_kept kept event⟩
    obtain ⟨own,kept⟩ := reached
    exact same_decision_iff production kept.linked gives first second

def asciiWords : WordCharacters :=
  ⟨fun c => (48 ≤ c.toNat && c.toNat ≤ 57) || (65 ≤ c.toNat && c.toNat ≤ 90) || c.toNat = 95 ||
    (97 ≤ c.toNat && c.toNat ≤ 122),fun _ _ => rfl⟩

def production : Runtime := { text := .asciiOnly, words := asciiWords }

def existingCosts : Statement where
  kind := .select
  tables := ["cost_records"]
  text := "SELECT cost_records.id FROM cost_records WHERE EXISTS (SELECT 1 FROM cost_records)"

def withoutTenant : List Event :=
  [.getDb 0 (some none) { connection := some 0 },.execute 0 existingCosts (some 0)]

theorem existingCosts_escapes : escapes production existingCosts.text = true := by decide

theorem gate_follows_context_withoutTenant :
    production.testing = false ∧
    (EachStep (withHistory (exec production) noteOwn) (fun s event => Authorised production s.1 event)
        ({},fun _ => false) withoutTenant ↔
      EachStep (withHistory (exec production) noteOwn)
        (fun s event => Gated production s.2 s.1 event) ({},fun _ => false) withoutTenant) ∧
    ∀ i given next c (first second : Statement),
      (finalState (exec production) {} withoutTenant).connection i given = some (next,c) →
      ((((finalState (exec production) {} withoutTenant).execute production i first.text given).2 =
            .done ↔
          ((finalState (exec production) {} withoutTenant).execute production i second.text given).2 =
            .done) ↔
        (((finalState (exec production) {} withoutTenant).connections c).info.HasContext ∨
          escapes production first.text = escapes production second.text)) :=
  ⟨rfl,gate_follows_context_iff production rfl withoutTenant⟩

/-- The sub-query lets the statement pass. -/
theorem existing_costs_pass :
    ¬EachStep (withHistory (exec production) noteOwn)
      (fun s event => Authorised production s.1 event) ({},fun _ => false) withoutTenant := by
  rintro ⟨_,authorised,_⟩
  have kept : Kept _ (exec production {} (.getDb 0 (some none) { connection := some 0 })).1 :=
    exec_kept start_kept _
  have gives : State.connection (exec production {} (.getDb 0 (some none) { connection := some 0 })).1
      0 (some 0) = some ((exec production {} (.getDb 0 (some none) { connection := some 0 })).1,0) :=
    rfl
  have passes := (execute_done_iff rfl kept.linked existingCosts.text).mpr
    ⟨_,0,gives,.inl existingCosts_escapes⟩
  have context := authorised (by decide) passes
  revert context
  decide

end Valdrics.RowSecurity

import Valdrics.PythonText
import Valdrics.Runs

/-! The database gate of the tenants' rows: the sessions and the pooled connections they hold,
both with a mark of their context, and the check of a statement's text and its connection's mark
before the statement is sent. -/
namespace Valdrics.RowSecurity

open PythonText

/-- The characters of `\w`. -/
structure WordCharacters where
  isWord : Char → Bool
  ascii : ∀ c, c.toNat < 128 → isWord c =
    ((48 ≤ c.toNat && c.toNat ≤ 57) || (65 ≤ c.toNat && c.toNat ≤ 90) || c.toNat = 95 ||
      (97 ≤ c.toNat && c.toNat ≤ 122))

inductive Backend where
  | postgresql | unknown | other
  deriving DecidableEq

structure Runtime where
  text : Lowercase
  words : WordCharacters
  testing : Bool := false
  enforceRlsInTests : Bool := false
  backend : Backend := .postgresql

/-- `RLS_EXEMPT_TABLES`. -/
def rlsExemptTables : List String :=
  ["ix_skipped_table","alembic","users","tenants","tenant_identity_settings",
    "tenant_subscriptions","pricing_plans","exchange_rates","background_jobs",
    "unit_economics_settings","llm_provider_pricing"]

/-- `\b` between two characters. -/
def boundary (words : WordCharacters) (before after : Option Char) : Bool :=
  before.any words.isWord != after.any words.isWord

/-- `\b` + word + `\b` at the start of the text. -/
def wordAt (words : WordCharacters) (before : Option Char) (word text : List Char) : Bool :=
  boundary words before text.head? && word.isPrefixOf text &&
    boundary words (word.getLast?.or before) (text.drop word.length).head?

/-- The search of `\b` + word + `\b`. -/
def searchWord (words : WordCharacters) (word : List Char) : Option Char → List Char → Bool
  | before, [] => wordAt words before word []
  | before, c :: rest => wordAt words before word (c :: rest) ||
      searchWord words word (some c) rest

/-- `_RLS_EXEMPT_TABLE_PATTERN.search`. -/
def rlsExemptTablePattern (rt : Runtime) (text : String) : Bool :=
  rlsExemptTables.any fun table =>
    searchWord rt.words (rt.text.lower table).toList none text.toList

/-- The mark that `session.info` and `conn.info` have; `none` is also the missing entry. -/
structure ContextInfo where
  rlsContextSet : Option Bool := none
  rlsSystemContext : Bool := false
  deriving DecidableEq

structure ValdricsException where
  message : String
  code : String
  statusCode : Nat
  reason : String
  action : String
  deriving DecidableEq

def contextUnresolved : ValdricsException where
  message := "RLS context unresolved - query execution aborted"
  code := "rls_context_unresolved"
  statusCode := 500
  reason := "No explicit tenant/system context marker for DB query"
  action := "Use get_db()/set_session_tenant_id for tenant flows, or mark_session_system_context for system flows."

def enforcementFailed : ValdricsException where
  message := "RLS context missing - query execution aborted"
  code := "rls_enforcement_failed"
  statusCode := 500
  reason := "Multi-tenant isolation enforcement failed"
  action := "This is a critical security error. Check that all DB sessions are initialized with tenant context."

def checkedVerbs : List String := ["select","insert","update","delete","with"]

def probes : List String := ["select 1","select version()","select pg_is_in_recovery()"]

def otherVerb (lowered : String) : Bool :=
  let stripped := stripLeft lowered.toList
  stripped ≠ [] && String.ofList (stripped.takeWhile fun c => !isSpace c) ∉ checkedVerbs

/-- `sub in text`. -/
def contains (sub : List Char) : List Char → Bool
  | [] => sub.isEmpty
  | c :: rest => sub.isPrefixOf (c :: rest) || contains sub rest

def hasProbe (lowered : String) : Bool :=
  probes.any fun probe => contains probe.toList lowered.toList

/-- `check_rls_policy`. -/
def checkRlsPolicy (rt : Runtime) (info : ContextInfo) (statement : String) :
    Except ValdricsException Unit :=
  if rt.testing ∧ ¬rt.enforceRlsInTests then .ok ()
  else
    let lowered := rt.text.lower statement
    if otherVerb lowered then .ok ()
    else if hasProbe lowered then .ok ()
    else if rlsExemptTablePattern rt lowered then .ok ()
    else match info.rlsContextSet with
      | none =>
        if info.rlsSystemContext then .ok ()
        else if ¬rt.testing then .error contextUnresolved
        else .ok ()
      | some false => .error enforcementFailed
      | some true => .ok ()

abbrev SessionId := Nat
abbrev ConnectionId := Nat

structure Session where
  info : ContextInfo := {}
  held : Option ConnectionId := none

structure Connection where
  info : ContextInfo := {}
  holder : Option SessionId := none

structure State where
  sessions : SessionId → Session := fun _ => {}
  connections : ConnectionId → Connection := fun _ => {}

inductive StatementKind where
  | select | insert | update | delete | withQuery | other
  deriving DecidableEq

structure Statement where
  kind : StatementKind
  tables : List String
  text : String

inductive Outcome where
  | done
  | refused (exception : ValdricsException)
  | failed
  deriving DecidableEq

namespace State

def setSession (s : State) (i : SessionId) (session : Session) : State :=
  { s with sessions := Function.update s.sessions i session }

def setConnection (s : State) (c : ConnectionId) (connection : Connection) : State :=
  { s with connections := Function.update s.connections c connection }

def markSession (s : State) (i : SessionId) (info : ContextInfo) : State :=
  s.setSession i { s.sessions i with info }

def markConnection (s : State) (c : ConnectionId) (info : ContextInfo) : State :=
  s.setConnection c { s.connections c with info }

/-- The connection goes back to the pool; its info stays. -/
def release (s : State) (i : SessionId) : State :=
  match (s.sessions i).held with
  | none => s
  | some c => (s.setSession i { s.sessions i with held := none }).setConnection c
      { s.connections c with holder := none }

/-- `session.connection()`: the connection that the session holds, or one that the pool gives out;
`none` is a failure. -/
def connection (s : State) (i : SessionId) (given : Option ConnectionId) :
    Option (State × ConnectionId) :=
  match given,(s.sessions i).held with
  | none,_ => none
  | some _,some c => some (s,c)
  | some c,none =>
    if (s.connections c).holder = none then
      some ((s.setSession i { s.sessions i with held := some c }).setConnection c
        { s.connections c with holder := some i },c)
    else none

/-- `session.execute`: the statement is checked under the mark of its connection. -/
def execute (rt : Runtime) (s : State) (i : SessionId) (text : String)
    (given : Option ConnectionId) : State × Outcome :=
  match s.connection i given with
  | none => (s,.failed)
  | some (next,c) =>
    match checkRlsPolicy rt (next.connections c).info text with
    | .error exception => (next,.refused exception)
    | .ok () => (next,.done)

end State

def setTenantConfig : String := "SELECT set_config('app.current_tenant_id', :tid, true)"

structure Answers where
  /-- For the statement of `get_db`. -/
  configuring : Option ConnectionId := none
  connection : Option ConnectionId := none
  /-- Whether the database accepts the settings. -/
  configures : Bool := true

/-- The session of `get_db` with this flag, and the mark of its connection. -/
def openWith (s : State) (i : SessionId) (flag : Bool) (answers : Answers) : State × Outcome :=
  let s := s.markSession i { rlsContextSet := some flag }
  match s.connection i answers.connection with
  | none => (s.release i,.failed)
  | some (s,c) => (s.markConnection c { rlsContextSet := some flag },.done)

/-- `get_db_impl`, for no request or for a request with the tenant of its state. -/
def getDbImpl (rt : Runtime) (s : State) (i : SessionId) (request : Option (Option String))
    (answers : Answers) : State × Outcome :=
  let s := (s.release i).setSession i {}
  match request.map fun tenant => tenant.filter (· ≠ "") with
  | none => openWith s i true answers
  | some none => openWith s i false answers
  | some (some _) =>
    match rt.backend with
    | .postgresql =>
      match s.execute rt i setTenantConfig answers.configuring with
      | (s,.refused exception) => (s.release i,.refused exception)
      | (s,.failed) => openWith s i false answers
      | (s,.done) => openWith s i answers.configures answers
    | .unknown => openWith s i false answers
    | .other => openWith s i true answers

/-- `mark_session_system_context`. -/
def markSessionSystemContext (s : State) (i : SessionId) (answers : Answers) : State × Outcome :=
  let system : ContextInfo := { rlsSystemContext := true }
  let s := s.markSession i system
  match s.connection i answers.connection with
  | none => (s,.done)
  | some (s,c) => (s.markConnection c system,.done)

/-- `clear_session_tenant_context`; its own statement is checked under the cleared mark. -/
def clearSessionTenantContext (rt : Runtime) (s : State) (i : SessionId) (answers : Answers) :
    State × Outcome :=
  let cleared : ContextInfo := { rlsContextSet := some false }
  let s := s.markSession i cleared
  match s.connection i answers.connection with
  | none => (s,.failed)
  | some (s,c) =>
    let s := s.markConnection c cleared
    match rt.backend with
    | .postgresql => s.execute rt i "SELECT set_config('app.current_tenant_id', '', true)" (some c)
    | _ => (s,.done)

/-- `set_session_tenant_id`. -/
def setSessionTenantId (rt : Runtime) (s : State) (i : SessionId) (tenant : Option String)
    (answers : Answers) : State × Outcome :=
  match tenant with
  | none => clearSessionTenantContext rt s i answers
  | some _ =>
    match s.connection i answers.connection with
    | none => (s,.failed)
    | some (s,c) =>
      let mark := fun (s : State) (flag : Bool) =>
        (s.markSession i { rlsContextSet := some flag }).markConnection c
          { rlsContextSet := some flag }
      match rt.backend with
      | .unknown => (mark s false,.done)
      | .other => (mark s true,.done)
      | .postgresql =>
        let s := mark s true
        match s.execute rt i setTenantConfig (some c) with
        | (s,.done) => if answers.configures then (s,.done) else (mark s false,.done)
        | (s,outcome) => (s,outcome)

inductive Event where
  /-- A session of the session maker. -/
  | openSession (i : SessionId)
  | getDb (i : SessionId) (request : Option (Option String)) (answers : Answers)
  | setSessionTenantId (i : SessionId) (tenant : Option String) (answers : Answers)
  | clearSessionTenantContext (i : SessionId) (answers : Answers)
  | markSessionSystemContext (i : SessionId) (answers : Answers)
  | execute (i : SessionId) (statement : Statement) (given : Option ConnectionId)
  /-- The end of the session's transaction. -/
  | release (i : SessionId)
  /-- A connection of the pool is opened anew. -/
  | recycle (c : ConnectionId)

def exec (rt : Runtime) (s : State) : Event → State × Outcome
  | .openSession i => ((s.release i).setSession i {},.done)
  | .getDb i request answers => getDbImpl rt s i request answers
  | .setSessionTenantId i tenant answers => setSessionTenantId rt s i tenant answers
  | .clearSessionTenantContext i answers => clearSessionTenantContext rt s i answers
  | .markSessionSystemContext i answers => markSessionSystemContext s i answers
  | .execute i statement given => s.execute rt i statement.text given
  | .release i => (s.release i,.done)
  | .recycle c =>
    if (s.connections c).holder = none then (s.setConnection c {},.done) else (s,.done)

end Valdrics.RowSecurity

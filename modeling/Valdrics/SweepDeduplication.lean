import Valdrics.SweepRaces

/-! What a run of sweeps keeps when each check finds at most the candidate's own request and no two
sweeps are about to create for one key. -/
namespace Valdrics.Optimization

open Enforcement (Uuid JsonObject bind_eq_ok)

namespace RemediationRuntime

/-- The checks are unambiguous, the connections are active, and the calls find their rows as they
expect. -/
def CleanStep (s : Remediation) : SweepPhase → SweepEvent → Prop
  | .call phase, .call event => ExpectedCommit s phase event
  | .sweeping (candidate :: _), .check => Unambiguous s.store.requests candidate
  | .checked candidate _, .create _ connection _ _ => candidate.connectionId ≠ none ∧ connection = .ok ()
  | _, _ => True

def KeysApart (other : SweepPhase) (_ _ : Remediation) (next : SweepPhase) : Prop :=
  ∀ first firstRest second secondRest, next = .checked first firstRest →
    other = .checked second secondRest → first.key ≠ second.key

variable (runtime : RemediationRuntime)

def cleanProtocol : Protocol Remediation SweepPhase SweepEvent :=
  runtime.sweepProtocol.restrict CleanStep KeysApart

def SweepSteps [DecidableEq ι] (system : SweepSystem ι) (event : ι × SweepEvent)
    (next : SweepSystem ι) : Prop :=
  Interleaving.Step runtime.sweepProtocol system event next

def CleanSteps [DecidableEq ι] (system : SweepSystem ι) (event : ι × SweepEvent)
    (next : SweepSystem ι) : Prop :=
  Interleaving.Step runtime.cleanProtocol system event next

structure SweepHolds (s : Remediation) (phase : SweepPhase) : Prop where
  calls : ∀ call, phase = .call call → call.Holds s
  clear : ∀ candidate rest, phase = .checked candidate rest → ∀ id row,
    s.store.requests.find id = some row → row.Drafted → row.key ≠ candidate.key
  normal : ∀ candidate ∈ phase.candidates, runtime.Normal candidate
  running : phase ≠ .aborted

structure SweepApart (a b : SweepPhase) : Prop where
  calls : ∀ first second, a = .call first → b = .call second → first.Apart second
  keys : ∀ first firstRest second secondRest, a = .checked first firstRest →
    b = .checked second secondRest → first.key ≠ second.key

theorem SweepApart.symm {a b : SweepPhase} (apart : SweepApart a b) : SweepApart b a :=
  ⟨fun first second here there => (apart.calls second first there here).symm,
    fun first firstRest second secondRest here there =>
      (apart.keys second secondRest first firstRest there here).symm⟩

variable {runtime} {s t : Remediation} {phase next : RemediationPhase} {event : RemediationEvent}
  {id : Uuid} {row : RemediationRequest}

theorem newRequest_user {call : CreateCall} (made : runtime.newRequest call = .ok row) :
    row.requestedByUserId = call.userId := by
  obtain ⟨_,_,afterProvider⟩ := bind_eq_ok.mp made
  obtain ⟨_,_,afterConnection⟩ := bind_eq_ok.mp afterProvider
  obtain ⟨_,_,result⟩ := bind_eq_ok.mp afterConnection
  obtain rfl := Except.ok.inj result
  rfl

theorem newRequestFromFinding_user {store : RemediationStore} {call : CreateFromFindingCall}
    (made : runtime.newRequestFromFinding store call = .ok row) :
    row.requestedByUserId = call.userId := by
  obtain ⟨_,_,afterFinding⟩ := bind_eq_ok.mp made
  obtain ⟨_,_,afterProvider⟩ := bind_eq_ok.mp afterFinding
  obtain ⟨_,_,afterConnection⟩ := bind_eq_ok.mp afterProvider
  obtain ⟨_,_,result⟩ := bind_eq_ok.mp afterConnection
  obtain rfl := Except.ok.inj result
  rfl

theorem Step.created_user (taken : runtime.Step s phase event t next) (user : ByUser event)
    (absent : s.store.requests.find id = none) (found : t.store.requests.find id = some row) :
    row.requestedByUserId ≠ systemUserId := by
  cases taken with
  | create made inserted =>
    rw [Remediation.setRequests,Table.find_insert inserted,absent] at found
    split at found
    · obtain rfl := Option.some.inj found
      rw [newRequest_user made]
      exact user
    · contradiction
  | createFromFinding made inserted =>
    rw [Remediation.setRequests,Table.find_insert inserted,absent] at found
    split at found
    · obtain rfl := Option.some.inj found
      rw [newRequestFromFinding_user made]
      exact user
    · contradiction
  | _ =>
    simp [Remediation.setJobs,Remediation.setFindings,Remediation.updateJob,Table.find_update,
      absent] at found

theorem writes_requester {f : RemediationRequest → RemediationRequest}
    (writes : phase.writes = some (id,f)) (row : RemediationRequest) :
    (f row).requestedByUserId = row.requestedByUserId := by
  cases phase with
  | idle | loaded | fetched | handling | opened | checking | executing | invoked | returning
  | reporting | sweeping => simp [RemediationPhase.writes] at writes
  | _ =>
    obtain ⟨rfl,rfl⟩ := Prod.mk.inj (Option.some.inj writes)
    rfl

theorem key_of_target {before after : RemediationRequest} (same : after.target = before.target) :
    after.key = before.key := by
  simp only [RemediationRequest.key,same]

theorem Step.drafted (taken : runtime.Step s phase event t next) (holds : phase.Holds s)
    (expected : ExpectedCommit s phase event) (user : ByUser event)
    (found : t.store.requests.find id = some row) (drafted : row.Drafted) :
    ∃ before, s.store.requests.find id = some before ∧ before.Drafted ∧ before.key = row.key := by
  rcases taken.found found with same | ⟨absent,_⟩ | ⟨commits,f,before,writes,there,rfl⟩
  · exact ⟨row,same,drafted,rfl⟩
  · exact absurd drafted.1 (taken.created_user user absent found)
  · refine ⟨before,there,⟨?_,?_⟩,(key_of_target (RemediationPhase.writes_target writes before)).symm⟩
    · rw [← writes_requester writes before]
      exact drafted.1
    · -- A terminal row is not written at all.
      cases opened : before.status.isOpen with
      | true => rfl
      | false =>
        exfalso
        have terminal : before.status.terminal = true := by simp [RemediationStatus.terminal,opened]
        have kept := taken.terminal holds expected there terminal
        rw [Option.some.inj (found.symm.trans kept)] at drafted
        simp [drafted.2] at opened

theorem newRequest_candidate {candidate : Candidate} {requestId : Uuid}
    {connection : Except RemediationFault Unit} {hint : String} {context : JsonObject}
    (normal : runtime.Normal candidate)
    (made : runtime.newRequest (candidate.createCall requestId connection hint context) = .ok row) :
    row.Drafted ∧ row.key = candidate.key := by
  have user := newRequest_user made
  have pending := newRequest_pending made
  refine ⟨⟨user,by rw [pending]; rfl⟩,?_⟩
  obtain ⟨_,_,afterProvider⟩ := bind_eq_ok.mp made
  obtain ⟨_,_,afterConnection⟩ := bind_eq_ok.mp afterProvider
  obtain ⟨_,_,result⟩ := bind_eq_ok.mp afterConnection
  obtain rfl := Except.ok.inj result
  simp only [RemediationRequest.key,Candidate.key,Candidate.createCall,normal.2]

theorem newRequest_made {candidate : Candidate} (normal : runtime.Normal candidate)
    (connected : candidate.connectionId ≠ none) (requestId : Uuid) (hint : String)
    (context : JsonObject) :
    ∃ row, runtime.newRequest (candidate.createCall requestId (.ok ()) hint context) = .ok row := by
  cases made : runtime.newRequest (candidate.createCall requestId (.ok ()) hint context) with
  | ok row => exact ⟨row,rfl⟩
  | error fault =>
    simp [newRequest,Candidate.createCall,normal.2,normal.1,connected,raiseIf,bind,Except.bind,pure,
      Except.pure] at made

theorem holds_insert {requests : Table Uuid RemediationRequest} (holds : phase.Holds s)
    (inserted : s.store.requests.insert id row = some requests) :
    phase.Holds (s.setRequests requests) := by
  have keeps : ∀ other held, s.store.requests.find other = some held →
      requests.find other = some held := by
    intro other held found
    rw [Table.find_insert inserted]
    have apart : other ≠ id := by
      rintro rfl
      simp [(Table.insert_eq_some inserted).1] at found
    rw [if_neg apart,found]
  refine ⟨holds.remembers,fun other held locked => keeps _ _ (holds.locked other held locked),?_⟩
  intro other runs
  obtain ⟨held,found,executing⟩ := holds.running other runs
  exact ⟨held,keeps _ _ found,executing⟩

theorem idle_holds (s : Remediation) : RemediationPhase.idle.Holds s := .free trivial rfl rfl

theorem SweepStep.own {phase next : SweepPhase} {event : SweepEvent}
    (taken : runtime.SweepStep s phase event t next) (clean : CleanStep s phase event)
    (single : AtMostOne s.store.requests) (holds : runtime.SweepHolds s phase) :
    AtMostOne t.store.requests ∧ runtime.SweepHolds t next := by
  cases taken with
  | @call event s phase t next user taken =>
    have own := holds.calls phase rfl
    refine ⟨fun id other row row' found there drafted drafted' same => ?_,?_⟩
    · obtain ⟨before,was,open_,key⟩ := taken.drafted own clean user found drafted
      obtain ⟨before',was',open',key'⟩ := taken.drafted own clean user there drafted'
      exact single id other before before' was was' open_ open' (key.trans (same.trans key'.symm))
    · refine ⟨fun call same => ?_,by simp,by simp [SweepPhase.candidates],by simp⟩
      obtain rfl := SweepPhase.call.inj same
      exact taken.own own clean
  | start normal => exact ⟨single,by simp,by simp,normal,by simp⟩
  | @clear candidate s rest answer =>
    refine ⟨single,by simp,?_,holds.normal,by simp⟩
    intro first firstRest same id row found drafted key
    obtain ⟨rfl,-⟩ := SweepPhase.checked.inj same
    rcases answers_iff.mpr clean with ⟨_,right⟩ | ⟨absent,_⟩
    · rw [answer] at right
      contradiction
    · exact absent ⟨id,row,found,drafted.2,key⟩
  | duplicate answer =>
    exact ⟨single,by simp,by simp,fun c listed => holds.normal c (List.mem_cons_of_mem _ listed),by simp⟩
  | several answer =>
    rcases answers_iff.mpr clean with ⟨_,right⟩ | ⟨_,right⟩
    · rw [answer] at right
      contradiction
    · rw [answer] at right
      contradiction
  | @create row requests s candidate rest requestId connection hint context made inserted =>
    obtain ⟨drafted,key⟩ := newRequest_candidate (holds.normal candidate List.mem_cons_self) made
    have clear := holds.clear candidate rest rfl
    refine ⟨fun id other first second found there open_ open' same => ?_,by simp,by simp,
      fun c listed => holds.normal c (List.mem_cons_of_mem _ listed),by simp⟩
    simp only [Remediation.setRequests,Table.find_insert inserted] at found there
    split at found
    · split at there
      next one two => exact one.trans two.symm
      next one two =>
        obtain rfl := Option.some.inj found
        exact absurd (same.symm.trans key) (clear other second there open')
    · split at there
      next one two =>
        obtain rfl := Option.some.inj there
        exact absurd (same.trans key) (clear id first found open_)
      next one two => exact single id other first second found there open_ open' same
  | @refused fault s candidate rest requestId connection hint context made =>
    obtain ⟨connected,rfl⟩ := clean
    obtain ⟨row,also⟩ := newRequest_made (holds.normal candidate List.mem_cons_self) connected
      requestId hint context
    rw [made] at also
    contradiction
  | finish =>
    refine ⟨single,fun call same => ?_,by simp,by simp [SweepPhase.candidates],by simp⟩
    obtain rfl := SweepPhase.call.inj same
    exact idle_holds s
  | leave =>
    refine ⟨single,fun call same => ?_,by simp,by simp [SweepPhase.candidates],by simp⟩
    obtain rfl := SweepPhase.call.inj same
    exact idle_holds s

theorem idle_apart (phase : RemediationPhase) : RemediationPhase.idle.Apart phase :=
  ⟨by simp [RemediationPhase.held],by simp [RemediationPhase.runs]⟩

/-- A phase that neither calls nor is about to create is apart from every other. -/
theorem SweepApart.free {a b : SweepPhase} (calls : ∀ call, a = .call call → call = .idle)
    (unchecked : ∀ candidate rest, a ≠ .checked candidate rest) : SweepApart a b := by
  refine ⟨fun first second here _ => ?_,fun first firstRest _ _ here => absurd here (unchecked _ _)⟩
  rw [calls first here]
  exact idle_apart second

theorem SweepStep.exclusive {phase next other : SweepPhase} {event : SweepEvent}
    (taken : runtime.SweepStep s phase event t next) (clean : CleanStep s phase event)
    (holds : runtime.SweepHolds s phase) (others : runtime.SweepHolds s other)
    (apart : SweepApart phase other)
    (permitted : ∀ id ∈ other.held,
      id ∉ next.held ∧ t.store.requests.find id = s.store.requests.find id)
    (keys : KeysApart other s t next) : SweepApart next other := by
  cases taken with
  | @call event s phase t next user taken =>
    refine ⟨fun first second here there => ?_,by simp⟩
    obtain rfl := SweepPhase.call.inj here
    subst there
    exact taken.apart (holds.calls phase rfl) clean (others.calls second rfl)
      (apart.calls phase second rfl rfl) permitted
  | clear answer =>
    refine ⟨by simp,fun first firstRest second secondRest here there => ?_⟩
    exact keys first firstRest second secondRest here there
  | start => exact .free (by simp) (by simp)
  | duplicate => exact .free (by simp) (by simp)
  | several => exact .free (by simp) (by simp)
  | create => exact .free (by simp) (by simp)
  | refused => exact .free (by simp) (by simp)
  | finish => exact .free (by simp) (by simp)
  | leave => exact .free (by simp) (by simp)

theorem SweepStep.undisturbed {phase next other : SweepPhase} {event : SweepEvent}
    (taken : runtime.SweepStep s phase event t next) (clean : CleanStep s phase event)
    (holds : runtime.SweepHolds s phase) (others : runtime.SweepHolds s other)
    (apart : SweepApart phase other)
    (permitted : ∀ id ∈ other.held,
      id ∉ next.held ∧ t.store.requests.find id = s.store.requests.find id) :
    runtime.SweepHolds t other := by
  cases taken with
  | @call event s phase t next user taken =>
    have own := holds.calls phase rfl
    refine ⟨fun call same => ?_,fun candidate rest same id row found drafted => ?_,others.normal,
      others.running⟩
    · subst same
      exact taken.undisturbed own clean (others.calls call rfl) (apart.calls phase call rfl rfl) permitted
    · obtain ⟨before,was,open_,key⟩ := taken.drafted own clean user found drafted
      rw [← key]
      exact others.clear candidate rest same id before was open_
  | @create row requests s candidate rest requestId connection hint context made inserted =>
    obtain ⟨_,key⟩ := newRequest_candidate (holds.normal candidate List.mem_cons_self) made
    refine ⟨fun call same => holds_insert (others.calls call same) inserted,
      fun second secondRest same id held found drafted => ?_,others.normal,others.running⟩
    simp only [Remediation.setRequests,Table.find_insert inserted] at found
    split at found
    · obtain rfl := Option.some.inj found
      rw [key]
      exact apart.keys candidate rest second secondRest rfl same
    · exact others.clear second secondRest same id held found drafted
  | start => exact others
  | clear => exact others
  | duplicate => exact others
  | several => exact others
  | refused => exact others
  | finish => exact others
  | leave => exact others

theorem clean_discipline (runtime : RemediationRuntime) :
    Interleaving.Discipline runtime.cleanProtocol (fun s => AtMostOne s.store.requests)
      runtime.SweepHolds SweepApart where
  symmetric _ _ apart := apart.symm
  own _ _ _ _ _ single holds taken := taken.1.1.own taken.2 single holds
  exclusive _ _ _ _ _ _ _ holds others apart taken permitted :=
    taken.1.1.exclusive taken.2 holds others apart permitted.1 permitted.2
  undisturbed _ _ _ _ _ _ _ holds others apart taken permitted :=
    taken.1.1.undisturbed taken.2 holds others apart permitted.1

end RemediationRuntime

structure SweepOpening (system : SweepSystem ι) : Prop where
  single : AtMostOne system.shared.store.requests
  idle : ∀ party, system.phase party = .call .idle

theorem SweepOpening.good {runtime : RemediationRuntime} {system : SweepSystem ι}
    (opening : SweepOpening system) :
    Interleaving.Good (fun s => AtMostOne s.store.requests) runtime.SweepHolds
      RemediationRuntime.SweepApart system := by
  refine ⟨opening.single,fun party => ?_,fun party other _ => ?_⟩
  · rw [opening.idle party]
    refine ⟨fun call same => ?_,by simp,by simp [SweepPhase.candidates],by simp⟩
    obtain rfl := SweepPhase.call.inj same
    exact RemediationRuntime.idle_holds _
  · rw [opening.idle party]
    refine .free (fun call same => (SweepPhase.call.inj same).symm) (by simp)

structure Deduplicates [DecidableEq ι] (step : SweepSystem ι → ι × SweepEvent → SweepSystem ι → Prop)
    (system : SweepSystem ι) : Prop where
  single : AtMostOne system.shared.store.requests
  running : ∀ party, system.phase party ≠ .aborted
  skips : ∀ party next candidate rest, step system (party,.check) next →
    system.phase party = .sweeping (candidate :: rest) → HasOwn system.shared.store.requests candidate →
      next.phase party = .sweeping rest
  drafts : ∀ party next candidate rest, step system (party,.check) next →
    system.phase party = .sweeping (candidate :: rest) → ¬HasOwn system.shared.store.requests candidate →
      next.phase party = .checked candidate rest
  created : ∀ party next candidate rest requestId connection hint context,
    step system (party,.create requestId connection hint context) next →
      system.phase party = .checked candidate rest → ∃ row,
        next.shared.store.requests.find requestId = some row ∧ row.Drafted ∧ row.key = candidate.key

section Law

variable {runtime : RemediationRuntime} [DecidableEq ι] {system next : SweepSystem ι} {party : ι}
  {candidate : Candidate} {rest : List Candidate}

theorem check_answer (step : runtime.SweepSteps system (party,.check) next)
    (there : system.phase party = .sweeping (candidate :: rest)) :
    next.phase party = match hasOpenRequest system.shared.store.requests candidate with
      | some false => .checked candidate rest
      | some true => .sweeping rest
      | none => .aborted := by
  cases step with
  | move taken permitted =>
    obtain ⟨taken,-⟩ := taken
    rw [there] at taken
    simp only [Function.update_self]
    cases taken with
    | clear answer => rw [answer]
    | duplicate answer => rw [answer]
    | several answer => rw [answer]

/-- Every state that is reached deduplicates, and there as anywhere a check is right exactly when
what it finds is unambiguous. -/
theorem sweeps_deduplicate (runtime : RemediationRuntime) {start system : SweepSystem ι}
    {events : List (ι × SweepEvent)} (opening : SweepOpening start)
    (run : Trace runtime.CleanSteps start events system) :
    Deduplicates runtime.CleanSteps system ∧ ∀ candidate,
      Answers system.shared.store.requests candidate ↔
        Unambiguous system.shared.store.requests candidate := by
  have good := (RemediationRuntime.clean_discipline runtime).run run opening.good
  have answers : ∀ party next candidate rest, runtime.CleanSteps system (party,.check) next →
      system.phase party = .sweeping (candidate :: rest) →
        Answers system.shared.store.requests candidate := by
    intro party next candidate rest step there
    cases step with
    | move taken permitted =>
      have clean := taken.2
      rw [there] at clean
      exact answers_iff.mpr clean
  refine ⟨⟨good.invariant,fun party => (good.holds party).running,
    fun party next candidate rest step there own => ?_,
    fun party next candidate rest step there absent => ?_,
    fun party next candidate rest requestId connection hint context step there => ?_⟩,
    fun candidate => answers_iff⟩
  · have answer := check_answer step.unrestricted there
    rcases answers party next candidate rest step there with ⟨_,right⟩ | ⟨none,_⟩
    · rw [answer,right]
    · exact absurd own none
  · have answer := check_answer step.unrestricted there
    rcases answers party next candidate rest step there with ⟨own,_⟩ | ⟨_,right⟩
    · exact absurd own absent
    · rw [answer,right]
  · have holds := good.holds party
    cases step with
    | move taken permitted =>
      obtain ⟨⟨taken,-⟩,clean⟩ := taken
      rw [there] at taken clean holds
      have normal := holds.normal candidate List.mem_cons_self
      cases taken with
      | create made inserted =>
        obtain ⟨drafted,key⟩ := RemediationRuntime.newRequest_candidate normal made
        exact ⟨_,by simp [Remediation.setRequests,Table.find_insert inserted],drafted,key⟩
      | refused made =>
        obtain ⟨connected,rfl⟩ := clean
        obtain ⟨row,also⟩ := RemediationRuntime.newRequest_made normal connected requestId hint context
        rw [made] at also
        contradiction

end Law

namespace Sample

open Interleaving (pair)

def volumeCandidate : Candidate where
  resourceId := "vol-1"
  resourceType := "ebs_volume"
  provider := "aws"
  connectionId := some 5
  action := .deleteVolume
  savings := 1200
  confidence := "0.8"
  reason := "unattached"

def otherCandidate : Candidate := { volumeCandidate with connectionId := some 6 }

def drafted : RemediationRequest where
  target := volumeTarget
  estimatedMonthlySavings := some 1200
  explainabilityNotes := some "Autonomous candidate: unattached (Confidence: 0.8)"
  requestedByUserId := systemUserId

theorem candidate_drafted (requestId : Uuid) : runtime.newRequest
    (volumeCandidate.createCall requestId (.ok ()) "us-east-1" []) = .ok drafted := by
  simp [RemediationRuntime.newRequest,Candidate.createCall,volumeCandidate,normalizeProvider_aws,
    raiseIf,drafted,volumeTarget,sanitizeActionParameters,bind,Except.bind,pure,Except.pure]

theorem candidates_normal (candidate : Candidate) (listed : candidate ∈ [volumeCandidate] ∨
    candidate ∈ [otherCandidate]) : runtime.Normal candidate := by
  rcases listed with one | other
  · obtain rfl := List.mem_singleton.mp one
    exact ⟨by decide,normalizeProvider_aws⟩
  · obtain rfl := List.mem_singleton.mp other
    exact ⟨by decide,normalizeProvider_aws⟩

def twice (first second : RemediationRequest) : Remediation :=
  ⟨⟨⟨[(1,first),(2,second)],by simp⟩,.empty,.empty⟩,[],0⟩

theorem twice_indexed {first second : RemediationRequest} (unbound : first.target.findingId = none) :
    (twice first second).store.Indexed := by
  simp [twice,RemediationStore.Indexed,RemediationRequest.clashes,unbound]

variable {s t : Remediation} {first second next : SweepPhase} {event : SweepEvent}

theorem first_steps (taken : runtime.SweepStep s first event t next) (indexed : t.store.Indexed)
    (unlocked : second.held = []) :
    runtime.SweepSteps (pair s first second) (false,event) (pair t next second) :=
  Interleaving.Step.first ⟨taken,indexed⟩ (by
    intro id held
    simp [unlocked] at held)

theorem second_steps (taken : runtime.SweepStep s second event t next) (indexed : t.store.Indexed)
    (unlocked : first.held = []) :
    runtime.SweepSteps (pair s first second) (true,event) (pair t first next) :=
  Interleaving.Step.second ⟨taken,indexed⟩ (by
    intro id held
    simp [unlocked] at held)

def racing : List (Bool × SweepEvent) :=
  [(false,.start [volumeCandidate]),(true,.start [volumeCandidate]),(false,.check),(true,.check),
    (false,.create 1 (.ok ()) "us-east-1" []),(true,.create 2 (.ok ()) "us-east-1" [])]

theorem racing_run : Trace runtime.SweepSteps (pair opening (.call .idle) (.call .idle)) racing
    (pair (twice drafted drafted) (.sweeping []) (.sweeping [])) := by
  have empty : opening.store.Indexed := by simp [opening,RemediationStore.Indexed,Table.empty]
  have one : (holding drafted .empty [] 0).store.Indexed := holding_indexed
  have normal : ∀ candidate ∈ [volumeCandidate], runtime.Normal candidate :=
    fun candidate listed => candidates_normal candidate (.inl listed)
  refine .go (first_steps (.start normal) empty rfl) ?_
  refine .go (second_steps (.start normal) empty rfl) ?_
  refine .go (first_steps (.clear rfl) empty rfl) ?_
  refine .go (second_steps (.clear rfl) empty rfl) ?_
  refine .go (first_steps (.create (candidate_drafted 1) rfl) one rfl) ?_
  exact .go (second_steps (.create (candidate_drafted 2) rfl) (twice_indexed rfl) rfl) .stop

theorem starts_empty : SweepOpening (pair opening (SweepPhase.call .idle) (.call .idle)) where
  single := by
    intro id other row row' found
    simp [pair,opening] at found
  idle := Interleaving.pair_phase

theorem starts_with {s : Remediation} (users : ∀ id row, s.store.requests.find id = some row →
    row.requestedByUserId ≠ systemUserId) :
    SweepOpening (pair s (SweepPhase.call .idle) (.call .idle)) where
  single := by
    intro id other row row' found there drafted
    exact absurd drafted.1 (users id row found)
  idle := Interleaving.pair_phase

theorem users_only {s : Remediation} (rows : ∀ entry ∈ s.store.requests.rows, entry.2 = request) :
    ∀ id row, s.store.requests.find id = some row → row.requestedByUserId ≠ systemUserId := by
  intro id row found
  have same : row = request := rows (id,row) (Table.find_eq_some_iff.mp found)
  rw [same]
  decide

def drafting : List (Bool × SweepEvent) :=
  [(false,.start [volumeCandidate]),(false,.check),(false,.create 1 (.ok ()) "us-east-1" [])]

theorem drafting_run : Trace runtime.CleanSteps (pair opening (.call .idle) (.call .idle)) drafting
    (pair (holding drafted .empty [] 0) (.sweeping []) (.call .idle)) := by
  have clean {s t : Remediation} {first next : SweepPhase} {event : SweepEvent}
      (taken : runtime.SweepStep s first event t next) (indexed : t.store.Indexed)
      (guarded : RemediationRuntime.CleanStep s first event) : runtime.CleanSteps
        (pair s first (.call .idle)) (false,event) (pair t next (.call .idle)) := by
    refine Interleaving.Step.first ⟨⟨taken,indexed⟩,guarded⟩ ⟨?_,?_⟩
    · intro id held
      simp [SweepPhase.held,RemediationPhase.held] at held
    · intro first firstRest second secondRest _ there
      cases there
  have empty : opening.store.Indexed := by simp [opening,RemediationStore.Indexed,Table.empty]
  refine .go (clean (.start fun candidate listed => candidates_normal candidate (.inl listed)) empty
    trivial) ?_
  refine .go (clean (.clear rfl) empty ⟨by decide,by simp [openRequests,opening,Table.empty]⟩) ?_
  refine .go (clean (.create (candidate_drafted 1) rfl) ?_ ⟨by simp [volumeCandidate],rfl⟩) .stop
  exact holding_indexed

end Sample

theorem sweeps_deduplicate_drafting : Deduplicates Sample.runtime.CleanSteps
    (Interleaving.pair (Sample.holding Sample.drafted .empty [] 0) (SweepPhase.sweeping [])
      (.call .idle)) :=
  (sweeps_deduplicate Sample.runtime Sample.starts_empty Sample.drafting_run).1

/-- Two sweeps draft one request each, a request on another connection stands in the way of a
candidate, and two requests of users make a sweep abort. -/
theorem sweeps_clash :
    (∃ start final : SweepSystem Bool, SweepOpening start ∧
      Trace Sample.runtime.SweepSteps start Sample.racing final ∧
      ¬AtMostOne final.shared.store.requests) ∧
    (∃ start system final : SweepSystem Bool, SweepOpening start ∧
      Trace Sample.runtime.SweepSteps start [(false,.start [Sample.otherCandidate])] system ∧
      Sample.runtime.SweepSteps system (false,.check) final ∧
      system.phase false = .sweeping [Sample.otherCandidate] ∧
      ¬HasOwn system.shared.store.requests Sample.otherCandidate ∧ final.phase false = .sweeping []) ∧
    ∃ start final : SweepSystem Bool, SweepOpening start ∧
      Trace Sample.runtime.SweepSteps start [(false,.start [Sample.volumeCandidate]),(false,.check)]
        final ∧
      final.phase false = .aborted := by
  refine ⟨⟨_,_,Sample.starts_empty,Sample.racing_run,fun single => ?_⟩,?_,?_⟩
  · have drafted : Sample.drafted.Drafted := ⟨rfl,rfl⟩
    exact absurd (single 1 2 _ _ rfl rfl drafted drafted rfl) (by decide)
  · have indexed : (Sample.holding Sample.request .empty [] 0).store.Indexed := Sample.holding_indexed
    refine ⟨_,_,_,Sample.starts_with (Sample.users_only ?_),
      .go (Sample.first_steps (.start fun candidate listed =>
        Sample.candidates_normal candidate (.inr listed)) indexed rfl) .stop,
      Sample.first_steps (.duplicate rfl) indexed rfl,rfl,?_,rfl⟩
    · intro entry listed
      rw [List.mem_singleton.mp listed]
    · rintro ⟨id,row,found,_,same⟩
      have listed := Table.find_eq_some_iff.mp found
      obtain ⟨rfl,rfl⟩ := Prod.mk.inj (List.mem_singleton.mp listed)
      exact absurd same (by decide)
  · have indexed : (Sample.twice Sample.request Sample.request).store.Indexed :=
      Sample.twice_indexed rfl
    refine ⟨_,_,Sample.starts_with (Sample.users_only ?_),
      .go (Sample.first_steps (.start fun candidate listed =>
        Sample.candidates_normal candidate (.inl listed)) indexed rfl)
        (.go (Sample.first_steps (.several rfl) indexed rfl) .stop),rfl⟩
    intro entry listed
    rcases List.mem_pair.mp listed with rfl | rfl <;> rfl

end Valdrics.Optimization

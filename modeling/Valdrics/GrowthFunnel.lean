import Valdrics.ColumnFolds
import Valdrics.CostRetention

/-! The growth funnel of a tenant: one snapshot row that every funnel event updates by
two statements. Milestones keep the first value they are given, the tier and the last
touch the greatest. -/
namespace Valdrics.GrowthFunnel

open Billing (tierRank)
open ColumnFolds
open CostRetention (normalizeTier)
open Enforcement (PricingTier)
open PythonText

inductive Stage where
  | tenantOnboarded | connectionVerified | pricingViewed | checkoutStarted
  | firstValueActivated | paidActivated
  deriving DecidableEq

inductive AttributionText where
  | utmSource | utmMedium | utmCampaign | utmTerm | utmContent | persona | intent | pagePath
  deriving DecidableEq

/-- Texts and instants as `normalize_growth_funnel_attribution` leaves them. -/
structure TenantGrowthFunnelAttribution where
  text : AttributionText → Option String
  firstTouchAt : Option Int
  lastTouchAt : Option Int

/-- A `datetime`: the microseconds on its clock and the offset of its zone, if it has one. -/
structure DateTime where
  clock : Int
  offset : Option Int

structure Event where
  stage : Stage
  occurredAt : DateTime
  currentTier : Option String
  attribution : Option TenantGrowthFunnelAttribution
  provider : Option String
  source : Option String

/-- A row of `tenant_growth_funnel_snapshots`; `stageAt` are the columns of `_STAGE_FIELD_MAP`. -/
@[ext] structure TenantGrowthFunnelSnapshot where
  text : AttributionText → Option String := fun _ => none
  firstTouchAt : Option Int := none
  lastTouchAt : Option Int := none
  currentTier : PricingTier := .free
  stageAt : Stage → Option Int := fun _ => none
  firstConnectionProvider : Option String := none
  firstValueSource : Option String := none
  pqlQualifiedAt : Option Int := none

/-- `_normalize_timestamp`: a time without a zone is in UTC. -/
def normalizeTimestamp (value : DateTime) : Int := value.clock - value.offset.getD 0

/-- A character that `_TOKEN_SANITIZER` keeps. -/
def isTokenChar (c : Char) : Bool :=
  ('a' ≤ c && c ≤ 'z') || ('0' ≤ c && c ≤ '9') || c ∈ ['_','.','/',':','+','-']

/-- `_TOKEN_SANITIZER.sub("_", …)`: every run of other characters becomes one underscore. -/
def sanitize : Bool → List Char → List Char
  | _, [] => []
  | inRun, c :: rest =>
    if isTokenChar c then c :: sanitize false rest
    else if inRun then sanitize true rest else '_' :: sanitize true rest

def trimUnderscores (cs : List Char) : List Char :=
  ((cs.dropWhile (· = '_')).reverse.dropWhile (· = '_')).reverse

/-- `_normalize_token`. -/
def normalizeToken (lowercase : Lowercase) (maxLength : Nat) (value : Option String) :
    Option String :=
  value.bind fun value =>
    let token := trimUnderscores (sanitize false (lowercase.lower (strip value)).toList)
    if token = [] then none else some (String.ofList (token.take maxLength))

variable (lowercase : Lowercase)

namespace Event

def instant (e : Event) : Int := normalizeTimestamp e.occurredAt

def tier (e : Event) : PricingTier := normalizeTier lowercase e.currentTier

def stageAt (stage : Stage) (e : Event) : Option Int :=
  if e.stage = stage then some e.instant else none

def text (which : AttributionText) (e : Event) : Option String :=
  e.attribution.bind fun attribution => attribution.text which

def firstTouchAt (e : Event) : Option Int := e.attribution.bind (·.firstTouchAt)

def lastTouchAt (e : Event) : Option Int := e.attribution.bind (·.lastTouchAt)

def firstConnectionProvider (e : Event) : Option String :=
  if e.stage = .connectionVerified then normalizeToken lowercase 32 e.provider else none

def firstValueSource (e : Event) : Option String :=
  if e.stage = .firstValueActivated then normalizeToken lowercase 64 e.source else none

end Event

namespace TenantGrowthFunnelSnapshot

/-- `_build_update_values`, with the columns that an event leaves alone. -/
def update (row : TenantGrowthFunnelSnapshot) (e : Event) : TenantGrowthFunnelSnapshot where
  text which := match e.attribution with
    | some attribution => coalesce (row.text which) (attribution.text which)
    | none => row.text which
  firstTouchAt := match e.attribution with
    | some attribution => coalesce row.firstTouchAt attribution.firstTouchAt
    | none => row.firstTouchAt
  lastTouchAt := match e.lastTouchAt, row.lastTouchAt with
    | some touch, some last => if touch ≤ last then some last else some touch
    | some touch, none => some touch
    | none, last => last
  currentTier :=
    if tierRank (e.tier lowercase) ≤ tierRank row.currentTier then row.currentTier
    else e.tier lowercase
  stageAt stage :=
    if e.stage = stage then coalesce (row.stageAt stage) (some e.instant) else row.stageAt stage
  firstConnectionProvider :=
    if e.stage = .connectionVerified then
      coalesce row.firstConnectionProvider (normalizeToken lowercase 32 e.provider)
    else row.firstConnectionProvider
  firstValueSource :=
    if e.stage = .firstValueActivated then
      coalesce row.firstValueSource (normalizeToken lowercase 64 e.source)
    else row.firstValueSource
  pqlQualifiedAt := row.pqlQualifiedAt

/-- The second statement, which reads the columns that the first one wrote. -/
def qualify (row : TenantGrowthFunnelSnapshot) : TenantGrowthFunnelSnapshot :=
  if row.pqlQualifiedAt = none ∧ (row.stageAt .tenantOnboarded).isSome ∧
      (row.stageAt .connectionVerified).isSome ∧ (row.stageAt .firstValueActivated).isSome then
    { row with pqlQualifiedAt := coalesce row.pqlQualifiedAt (row.stageAt .firstValueActivated) }
  else row

end TenantGrowthFunnelSnapshot

open TenantGrowthFunnelSnapshot

/-- `record_tenant_growth_funnel_stage`; the first event of a tenant finds no row. -/
def recordStage (row : Option TenantGrowthFunnelSnapshot) (e : Event) :
    TenantGrowthFunnelSnapshot := ((row.getD {}).update lowercase e).qualify

def process (events : List Event) : Option TenantGrowthFunnelSnapshot :=
  events.foldl (fun row e => some (recordStage lowercase row e)) none

variable {lowercase} {events other : List Event} {e : Event}

structure Recorded (lowercase : Lowercase) (events : List Event)
    (row : TenantGrowthFunnelSnapshot) : Prop where
  stage : ∀ stage, row.stageAt stage = first (Event.stageAt stage) events
  text : ∀ which, row.text which = first (Event.text which) events
  firstTouch : row.firstTouchAt = first Event.firstTouchAt events
  provider : row.firstConnectionProvider = first (Event.firstConnectionProvider lowercase) events
  source : row.firstValueSource = first (Event.firstValueSource lowercase) events
  tierBound : ∀ e ∈ events, tierRank (e.tier lowercase) ≤ tierRank row.currentTier
  tierSeen : row.currentTier = .free ∨ ∃ e ∈ events, e.tier lowercase = row.currentTier
  lastTouch : ∀ touch, row.lastTouchAt = some touch ↔
    IsGreatest {at_ | ∃ e ∈ events, e.lastTouchAt = some at_} touch
  qualified : row.pqlQualifiedAt.isSome = true ↔
    ∀ stage ∈ [Stage.tenantOnboarded,.connectionVerified,.firstValueActivated],
      ∃ e ∈ events, e.stage = stage
  qualifiedAt : row.pqlQualifiedAt = none ∨
    row.pqlQualifiedAt = row.stageAt .firstValueActivated

end Valdrics.GrowthFunnel

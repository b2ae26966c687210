import Mathlib.Data.Rat.Defs
import Valdrics.DateText
import Valdrics.DecimalContext
import Valdrics.JsonValues
import Valdrics.Runs

/-! The sets of carbon factors of the deployment: one is active, others are staged, archived or
blocked, and a log tells what has been done with them. Calls come one at a time. -/
namespace Valdrics.Carbon

open Enforcement (Uuid Json)
open PythonText

/-- Texts of the interpreter: `repr` of a value, `f"{change:.0%}"` of two whole numbers' change,
and `compute_carbon_factor_checksum`. -/
structure Runtime where
  repr : Json → String
  percent : (old new : Int) → String
  checksum : List (String × Json) → String

inductive Status where
  | staged | active | archived | blocked
  deriving DecidableEq

structure CarbonFactorSet where
  id : Uuid
  status : Status := .staged
  isActive : Bool := false
  factorSource : String
  factorVersion : String
  factorTimestamp : Nat
  methodologyVersion : String
  factorsChecksum : String
  payload : List (String × Json)
  createdAt : Int
  activatedAt : Option Int := none
  deactivatedAt : Option Int := none
  createdByUserId : Option Uuid := none

inductive Action where
  | seeded | staged | manualActivated | autoActivated | blockedGuardrail
  deriving DecidableEq

structure CarbonFactorUpdateLog where
  recordedAt : Int
  action : Action
  message : Option String
  oldFactorSetId : Option Uuid
  newFactorSetId : Uuid
  oldChecksum : Option String
  newChecksum : String
  details : List (String × String)
  actorUserId : Option Uuid

structure State where
  sets : List CarbonFactorSet := []
  logs : List CarbonFactorUpdateLog := []

inductive Failure where
  | value (message : String)
  | type
  | integrity
  | notFound (detail : String)
  deriving DecidableEq

def maxDefaultIntensity : Int := 2000

def energy (entries : List (String × Decimal)) : Json :=
  .obj (entries.map fun entry => (entry.1,.float entry.2))

/-- `build_carbon_factor_payload`. -/
def buildCarbonFactorPayload : List (String × Json) :=
  [("region_carbon_intensity",.obj
      [("us-west-2",.int 21),("eu-north-1",.int 28),("ca-central-1",.int 35),("eu-west-1",.int 316),
        ("us-west-1",.int 218),("eu-west-2",.int 225),("eu-central-1",.int 338),
        ("us-east-1",.int 379),("us-east-2",.int 440),("ap-southeast-1",.int 408),
        ("ap-south-1",.int 708),("ap-northeast-1",.int 506),("global",.int 400),
        ("default",.int 400)]),
    ("service_energy_factors_by_provider",.obj
      [("aws",energy
          [("Amazon Elastic Compute Cloud - Compute",⟨5,-2⟩),("EC2 - Other",⟨4,-2⟩),
            ("Amazon Simple Storage Service",⟨1,-2⟩),("Amazon Relational Database Service",⟨4,-2⟩),
            ("Amazon CloudFront",⟨2,-2⟩),("AWS Lambda",⟨3,-2⟩),("Amazon DynamoDB",⟨2,-2⟩),
            ("Amazon Virtual Private Cloud",⟨2,-2⟩),("default",⟨3,-2⟩)]),
        ("azure",energy
          [("Virtual Machines",⟨5,-2⟩),("Azure Kubernetes Service",⟨4,-2⟩),("Storage",⟨12,-3⟩),
            ("SQL Database",⟨4,-2⟩),("Functions",⟨3,-2⟩),("default",⟨3,-2⟩)]),
        ("gcp",energy
          [("Compute Engine",⟨5,-2⟩),("Google Kubernetes Engine",⟨4,-2⟩),("Cloud Storage",⟨1,-2⟩),
            ("Cloud SQL",⟨4,-2⟩),("Cloud Functions",⟨3,-2⟩),("default",⟨3,-2⟩)]),
        ("saas",energy [("default",⟨15,-3⟩)]),("license",energy [("default",⟨1,-2⟩)]),
        ("platform",energy [("default",⟨3,-2⟩)]),("hybrid",energy [("default",⟨3,-2⟩)]),
        ("generic",energy [("default",⟨3,-2⟩)])]),
    ("cloud_pue",.float ⟨12,-1⟩),("embodied_emissions_factor",.float ⟨25,-3⟩),
    ("factor_source",.str "Electricity Maps + EPA eGRID + provider sustainability reports"),
    ("factor_version",.str "2025-12-01"),("factor_timestamp",.str "2025-12-01"),
    ("methodology_version",.str "valdrics-carbon-v2.0")]

/-- `str(payload.get(key))` of a text. -/
def textAt (payload : List (String × Json)) (key : String) : String :=
  match payload.lookup key with
  | some (.str s) => s
  | _ => "None"

/-- `_parse_factor_date` of a JSON value. -/
def parseFactorDate (rt : Runtime) (value : Json) : Except Failure Nat :=
  match value with
  | .str s =>
    let raw := slice (strip s) 10
    match DateText.fromIsoFormat raw with
    | some day => .ok day
    | none => .error (.value ("Invalid isoformat string: " ++ rt.repr (.str raw)))
  | other => .error (.value ("Invalid factor_timestamp: " ++ rt.repr other))

def requiredKeys : List String :=
  ["cloud_pue","embodied_emissions_factor","factor_source","factor_timestamp","factor_version",
    "methodology_version","region_carbon_intensity","service_energy_factors_by_provider"]

def requirePositive (payload : List (String × Json)) (key : String) : Except Failure Unit :=
  match (payload.lookup key).bind JsonValue.number with
  | some value => if 0 < value.coefficient then .ok ()
    else .error (.value (key ++ " must be a positive number"))
  | none => .error (.value (key ++ " must be a positive number"))

def requireText (payload : List (String × Json)) (key : String) : Except Failure Unit :=
  match payload.lookup key with
  | some (.str s) => if strip s = "" then .error (.value (key ++ " must be a non-empty string"))
    else .ok ()
  | _ => .error (.value (key ++ " must be a non-empty string"))

/-- `_validate_payload`, with the day of the factors that it parses. -/
def validatePayload (rt : Runtime) (payload : List (String × Json)) : Except Failure Nat := do
  let missing := requiredKeys.filter fun key => (payload.lookup key).isNone
  if missing ≠ [] then
    throw (.value ("Carbon factor payload is missing required keys: " ++ ", ".intercalate missing))
  match payload.lookup "region_carbon_intensity" with
  | some (.obj (entry :: rest)) =>
    if ((entry :: rest).lookup "default").isNone then
      throw (.value "region_carbon_intensity must include a 'default' entry")
  | _ => throw (.value "region_carbon_intensity must be a non-empty object")
  match payload.lookup "service_energy_factors_by_provider" with
  | some (.obj (_ :: _)) => pure ()
  | _ => throw (.value "service_energy_factors_by_provider must be a non-empty object")
  requirePositive payload "cloud_pue"
  requirePositive payload "embodied_emissions_factor"
  requireText payload "factor_source"
  requireText payload "factor_version"
  requireText payload "methodology_version"
  parseFactorDate rt ((payload.lookup "factor_timestamp").getD .null)

def greatest (key : α → Int × Int) : List α → Option α
  | [] => none
  | a :: rest =>
    match greatest key rest with
    | none => some a
    | some b => if (key b).1 < (key a).1 ∨ ((key b).1 = (key a).1 ∧ (key b).2 ≤ (key a).2) then some a
      else some b

namespace State

def find (s : State) (id : Uuid) : Option CarbonFactorSet := s.sets.find? (·.id = id)

def log (s : State) (entry : CarbonFactorUpdateLog) : State := { s with logs := s.logs ++ [entry] }

def update (s : State) (id : Uuid) (change : CarbonFactorSet → CarbonFactorSet) : State :=
  { s with sets := s.sets.map fun row => if row.id = id then change row else row }

/-- `get_active`. -/
def getActive (s : State) : Option CarbonFactorSet :=
  greatest (fun row => (row.activatedAt.getD 0,row.createdAt)) (s.sets.filter (·.isActive))

/-- The candidate of `auto_activate_latest`. -/
def latestStaged (s : State) : Option CarbonFactorSet :=
  greatest (fun row => ((row.factorTimestamp : Int),row.createdAt))
    (s.sets.filter (·.status = .staged))

end State

def newSet (rt : Runtime) (id : Uuid) (payload : List (String × Json)) (day : Nat) (now : Int)
    (actor : Option Uuid) : CarbonFactorSet where
  id := id
  factorSource := textAt payload "factor_source"
  factorVersion := textAt payload "factor_version"
  factorTimestamp := day
  methodologyVersion := textAt payload "methodology_version"
  factorsChecksum := rt.checksum payload
  payload := payload
  createdAt := now
  createdByUserId := actor

/-- `ensure_active`; `fresh` is the id of a new row. -/
def ensureActive (rt : Runtime) (s : State) (now : Int) (fresh : Uuid) :
    Except Failure (State × CarbonFactorSet) :=
  match s.getActive with
  | some active => .ok (s,active)
  | none => do
    let payload := buildCarbonFactorPayload
    let day ← parseFactorDate rt ((payload.lookup "factor_timestamp").getD .null)
    let seeded := { newSet rt fresh payload day now none with
      status := .active, isActive := true, activatedAt := some now }
    if (s.find fresh).isSome then throw .integrity
    return ({ s with sets := s.sets ++ [seeded] }.log
      { recordedAt := now
        action := .seeded
        message := some "Seeded builtin carbon factor set"
        oldFactorSetId := none
        newFactorSetId := seeded.id
        oldChecksum := none
        newChecksum := seeded.factorsChecksum
        details := [("factor_version",seeded.factorVersion)]
        actorUserId := none },seeded)

/-- `stage`. -/
def stage (rt : Runtime) (s : State) (now : Int) (fresh : Uuid) (payload : List (String × Json))
    (actor : Option Uuid) (message : Option String) : Except Failure (State × CarbonFactorSet) := do
  let day ← validatePayload rt payload
  match s.sets.find? (·.factorsChecksum = rt.checksum payload) with
  | some existing => return (s,existing)
  | none => do
    let staged := newSet rt fresh payload day now actor
    if (s.find fresh).isSome then throw .integrity
    return ({ s with sets := s.sets ++ [staged] }.log
      { recordedAt := now
        action := .staged
        message
        oldFactorSetId := none
        newFactorSetId := staged.id
        oldChecksum := none
        newChecksum := staged.factorsChecksum
        details := [("factor_version",staged.factorVersion),
          ("factor_timestamp",DateText.isoFormat staged.factorTimestamp)]
        actorUserId := actor },staged)

/-- The rows of `activate`, once the active set is known. -/
def State.replaceActive (s : State) (now : Int) (active factorSet : CarbonFactorSet)
    (action : Action) (message : Option String) (details : List (String × String))
    (actor : Option Uuid) : State :=
  let s := s.update active.id fun row =>
    { row with isActive := false, status := .archived, deactivatedAt := some now }
  let s := s.update factorSet.id fun row =>
    { row with isActive := true, status := .active, activatedAt := some now, deactivatedAt := none }
  s.log
    { recordedAt := now
      action
      message
      oldFactorSetId := some active.id
      newFactorSetId := factorSet.id
      oldChecksum := some active.factorsChecksum
      newChecksum := factorSet.factorsChecksum
      details
      actorUserId := actor }

/-- `activate` of a set that is stored. -/
def activate (rt : Runtime) (s : State) (now : Int) (fresh : Uuid) (factorSet : CarbonFactorSet)
    (action : Action) (message : Option String) (details : List (String × String))
    (actor : Option Uuid) : Except Failure State := do
  let (s,active) ← ensureActive rt s now fresh
  if factorSet.id = active.id ∧ factorSet.isActive then return s
  return s.replaceActive now active factorSet action message details actor

/-- The default intensity as it is stored: `payload.get("region_carbon_intensity",
{}).get("default", 0) or 0`. -/
def storedDefault (payload : List (String × Json)) : Json :=
  match payload.lookup "region_carbon_intensity" with
  | some (.obj regions) =>
    match regions.lookup "default" with
    | some value => if JsonValue.truthy value then value else .int 0
    | none => .int 0
  | _ => .int 0

/-- `int(value)`. -/
def wholePart (rt : Runtime) (value : Json) : Except Failure Int :=
  match value with
  | .bool flag => .ok (if flag then 1 else 0)
  | .int n => .ok n
  | .float d => .ok (if 0 ≤ d.exponent then d.coefficient * 10 ^ d.exponent.toNat
      else d.coefficient.tdiv (10 ^ (-d.exponent).toNat))
  | .str s =>
    match parseInt s with
    | some n => .ok n
    | none => .error (.value ("invalid literal for int() with base 10: " ++ rt.repr (.str s)))
  | _ => .error .type

/-- `_guardrail_auto_activation`: the guardrail that blocks the candidate, if one does. The change
is that of whole numbers below some thousands, whose quotient compares exactly. -/
def guardrailAutoActivation (rt : Runtime) (active candidate : CarbonFactorSet) :
    Except Failure (Option String) := do
  if candidate.factorTimestamp ≤ active.factorTimestamp then
    return some "Candidate factor_timestamp must be newer than the active factor set."
  let oldDefault ← wholePart rt (storedDefault active.payload)
  let newDefault ← wholePart rt (storedDefault candidate.payload)
  if newDefault ≤ 0 ∨ maxDefaultIntensity < newDefault then
    return some ("Candidate default region intensity is out of bounds: " ++ toString newDefault ++
      " gCO2/kWh.")
  if 0 < oldDefault ∧ oldDefault < 2 * |newDefault - oldDefault| then
    return some ("Candidate default region intensity changes by " ++
      rt.percent oldDefault newDefault ++ " which exceeds the auto-activation guardrail (50%).")
  return none

inductive Answer where
  | set (id : Uuid)
  | noUpdate (active : Uuid)
  | duplicate (active : Uuid)
  | blocked (reason : String) (active candidate : Uuid)
  | activated (active : Uuid) (version : String)
  deriving DecidableEq

/-- `auto_activate_latest`; the seeding is committed before the rest. -/
def autoActivateLatest (rt : Runtime) (s : State) (now : Int) (fresh : Uuid) :
    State × Except Failure Answer :=
  match ensureActive rt s now fresh with
  | .error failure => (s,.error failure)
  | .ok (s,active) =>
    match s.latestStaged with
    | none => (s,.ok (.noUpdate active.id))
    | some candidate =>
      if candidate.factorsChecksum = active.factorsChecksum then
        (s.update candidate.id fun row => { row with status := .archived },
          .ok (.duplicate active.id))
      else match guardrailAutoActivation rt active candidate with
        | .error failure => (s,.error failure)
        | .ok (some reason) =>
          ((s.update candidate.id fun row => { row with status := .blocked }).log
            { recordedAt := now
              action := .blockedGuardrail
              message := some reason
              oldFactorSetId := some active.id
              newFactorSetId := candidate.id
              oldChecksum := some active.factorsChecksum
              newChecksum := candidate.factorsChecksum
              details := [("active_version",active.factorVersion),
                ("candidate_version",candidate.factorVersion),
                ("active_timestamp",DateText.isoFormat active.factorTimestamp),
                ("candidate_timestamp",DateText.isoFormat candidate.factorTimestamp)]
              actorUserId := none },
            .ok (.blocked reason active.id candidate.id))
        | .ok none =>
          match activate rt s now fresh candidate .autoActivated
            (some "Auto-activated staged carbon factor update after guardrails passed.")
            [("active_version",active.factorVersion),
              ("candidate_version",candidate.factorVersion)] none with
          | .error failure => (s,.error failure)
          | .ok s => (s,.ok (.activated candidate.id candidate.factorVersion))

inductive Event where
  | ensureActive (now : Int) (fresh : Uuid)
  | stage (now : Int) (fresh : Uuid) (payload : List (String × Json)) (actor : Option Uuid)
      (message : Option String)
  /-- The route that activates the set of this id. -/
  | activate (now : Int) (fresh : Uuid) (id : Uuid) (actor : Option Uuid)
  | autoActivateLatest (now : Int) (fresh : Uuid)

def exec (rt : Runtime) (s : State) : Event → State × Except Failure Answer
  | .ensureActive now fresh =>
    match ensureActive rt s now fresh with
    | .error failure => (s,.error failure)
    | .ok (s,active) => (s,.ok (.set active.id))
  | .stage now fresh payload actor message =>
    match stage rt s now fresh payload actor message with
    | .error failure => (s,.error failure)
    | .ok (s,staged) => (s,.ok (.set staged.id))
  | .activate now fresh id actor =>
    match s.find id with
    | none => (s,.error (.notFound "Carbon factor set not found."))
    | some factorSet =>
      match activate rt s now fresh factorSet .manualActivated (some "Manually activated via API.")
        [] actor with
      | .error failure => (s,.error failure)
      | .ok s => (s,.ok (.set factorSet.id))
  | .autoActivateLatest now fresh => autoActivateLatest rt s now fresh

end Valdrics.Carbon

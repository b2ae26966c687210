import Valdrics.JsonValues

/-! The reclamation of idle license seats: which user of a feed is flagged as idle. -/
namespace Valdrics.LicenseGovernance

open Enforcement (Json)
open PythonText

/-- A `datetime`: the microseconds on its clock and the offset of its zone, if it has one. -/
structure DateTime where
  clock : Int
  offset : Option Int
  deriving DecidableEq

def DateTime.instant (time : DateTime) : Int := time.clock - time.offset.getD 0

/-- What an adapter puts under a key of a user. -/
inductive Cell where
  | json (value : Json)
  | datetime (time : DateTime)

inductive Payload where
  | user (cells : List (String × Cell))
  | other

structure Environment where
  text : Lowercase
  str : Cell → String
  fromIso : String → Option DateTime
  fromUnix : Decimal → Option DateTime
  cutoffDate : Int

namespace Environment

variable (env : Environment)

def normalizeUserId : Cell → Option String
  | .json .null => none
  | cell =>
    let normalized := strip (env.str cell)
    if normalized = "" then none else some normalized

def normalizeUserEmail : Cell → Option String
  | .json (.str s) =>
    let normalized := env.text.lower (strip s)
    if '@' ∈ normalized.toList then some normalized else none
  | _ => none

/-- `_normalize_last_active`; `none` is the parse error. -/
def normalizeLastActive : Cell → Option (Option DateTime)
  | .json .null => some none
  | .datetime time => some (some time)
  | .json (.str s) =>
    let candidate := strip s
    if candidate = "" then none else (env.fromIso (candidate.replace "Z" "+00:00")).map some
  | .json value => (JsonValue.number value).bind fun number => (env.fromUnix number).map some

end Environment

def cell (cells : List (String × Cell)) (key : String) : Cell :=
  (cells.lookup key).getD (.json .null)

def Cell.truthy : Cell → Bool
  | .json value => JsonValue.truthy value
  | .datetime _ => true

structure IdleUser where
  userId : String
  email : String
  lastActive : Option DateTime

inductive Assessment where
  | invalid | suspended | admin | active
  | idle (user : IdleUser)

/-- The skip rules of the loop, in their order. -/
def assess (env : Environment) : Payload → Assessment
  | .other => .invalid
  | .user cells =>
    if (cell cells "suspended").truthy then .suspended
    else if (cell cells "is_admin").truthy then .admin
    else
      match env.normalizeUserId (cell cells "user_id"),
          env.normalizeUserEmail (cell cells "email") with
      | some userId, some email =>
        match env.normalizeLastActive (cell cells "last_active_at") with
        | none => .invalid
        | some none => .idle ⟨userId,email,none⟩
        | some (some time) =>
          if time.instant < env.cutoffDate then .idle ⟨userId,email,some time⟩ else .active
      | _, _ => .invalid

end Valdrics.LicenseGovernance

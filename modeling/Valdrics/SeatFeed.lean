import Mathlib.Logic.Relation
import Valdrics.CostFeeds
import Valdrics.GroupedFold
import Valdrics.LicenseGovernance

/-! Manual license feeds: the activity records that the rows of a feed are consolidated into, and
what one record for each person asks of them. -/
namespace Valdrics.SeatFeed

open Enforcement (Json)
open PythonText
open Reporting (FeedRuntime Misread)
open ZombieScan (Item isBlank orElse textOr)

/-- What a row says about a user, under the key it is consolidated by. -/
structure Sighting where
  identity : String
  email : Option String
  fullName : Option String
  lastActiveAt : Option Nat
  isAdmin : Bool
  suspended : Bool

structure Activity where
  userId : String
  email : Option String
  fullName : Option String
  lastActiveAt : Option Nat
  isAdmin : Bool
  suspended : Bool
  deriving DecidableEq

def activityCandidates : List String :=
  ["last_active_at","last_login_at","last_login","last_activity_at","last_seen_at","timestamp","date"]

def addressOf (text : Lowercase) (identifier : String) : Option String :=
  if '@' ∈ identifier.toList then some (text.lower identifier) else none

section Rows

variable (rt : FeedRuntime)

def normalizeText : Json → Option String
  | .null => none
  | value =>
    let normalized := strip (rt.python.str value)
    if normalized = "" then none else some normalized

def normalizeEmail : Json → Option String
  | .str value =>
    let normalized := rt.python.text.lower (strip value)
    if normalized = "" ∨ '@' ∉ normalized.toList then none else some normalized
  | _ => none

def coerceBool : Json → Bool
  | .bool value => value
  | .int value => value ≠ 0
  | .float value => value.coefficient ≠ 0
  | .str value => rt.python.text.lower (strip value) ∈ ["1","true","yes","y","on"]
  | _ => false

/-- `_parse_manual_activity_timestamp`: what `parse_timestamp` would replace is refused first. -/
def parseManualActivityTimestamp (now : Nat) (value : Json) : Except Misread Nat := do
  let _ ← rt.parseRequiredTimestamp value
  match rt.parseTimestamp now value with
  | some timestamp => .ok timestamp
  | none => .error .overflow

/-- The first candidate that is read; `none` is an `OverflowError`, which nothing catches. -/
def readActivity (now : Nat) : List Json → Option (Option Nat)
  | [] => some none
  | candidate :: rest =>
    if isBlank candidate then readActivity now rest
    else
      match parseManualActivityTimestamp rt now candidate with
      | .ok timestamp => some (some timestamp)
      | .error .invalid => readActivity now rest
      | .error .overflow => none

def userId (entry : Item) : Option String :=
  normalizeText rt (orElse (entry.entry "user_id") (orElse (entry.entry "principal_id")
    (orElse (entry.entry "resource_id") (entry.entry "id"))))

def email (entry : Item) : Option String :=
  (normalizeEmail rt (entry.entry "email")).or ((userId rt entry).bind (addressOf rt.python.text))

/-- `user_id or email`. -/
def identity (entry : Item) : Option String := (userId rt entry).or (email rt entry)

def lastActive (now : Nat) (entry : Item) : Option (Option Nat) :=
  readActivity rt now (activityCandidates.map entry.entry)

def word (value : Json) : String := rt.python.text.lower (strip (textOr rt.python value))

def isAdmin (entry : Item) : Bool :=
  coerceBool rt (entry.entry "is_admin") ||
    word rt (entry.entry "role") ∈ ["admin","owner","super_admin","system administrator"]

def suspended (entry : Item) : Bool :=
  coerceBool rt (entry.entry "suspended") || coerceBool rt (entry.entry "inactive") ||
    word rt (entry.entry "status") ∈ ["inactive","suspended","disabled","deactivated"]

def fullName (entry : Item) : Option String :=
  normalizeText rt (orElse (entry.entry "full_name") (orElse (entry.entry "display_name")
    (entry.entry "name")))

/-- A row in the loop: the outer `none` raises, the inner one passes it over. -/
def sighting (now : Nat) : Json → Option (Option Sighting)
  | .obj entry =>
    match identity rt entry with
    | none => some none
    | some identity => (lastActive rt now entry).map fun lastActiveAt =>
        some ⟨identity,email rt entry,fullName rt entry,lastActiveAt,isAdmin rt entry,
          suspended rt entry⟩
  | _ => some none

end Rows

def opened (s : Sighting) : Activity :=
  ⟨s.identity,s.email,s.fullName,s.lastActiveAt,s.isAdmin,s.suspended⟩

def later (existing : Option Nat) : Option Nat → Option Nat
  | none => existing
  | some time => if existing.all (· < time) then some time else existing

/-- A record with a further row of its identity. -/
def merged (current : Activity) (s : Sighting) : Activity where
  userId := current.userId
  email := current.email.or s.email
  fullName := current.fullName.or s.fullName
  lastActiveAt := later current.lastActiveAt s.lastActiveAt
  isAdmin := current.isAdmin || s.isAdmin
  suspended := current.suspended || s.suspended

def consolidate (consolidated : Table String Activity) : Option Sighting → Table String Activity
  | none => consolidated
  | some s => consolidated.upsert s.identity (opened s) fun current => merged current s

/-- `list_manual_feed_activity`; `none` raises. -/
def listManualFeedActivity (rt : FeedRuntime) (now : Nat) : Json → Option (List Activity)
  | .arr feed => do
    let consolidated ← feed.foldlM
      (fun consolidated entry => (sighting rt now entry).map (consolidate consolidated)) Table.empty
    return consolidated.rows.map Prod.snd
  | _ => some []

def Activity.cells (record : Activity) : List (String × LicenseGovernance.Cell) :=
  [("user_id",.json (.str record.userId)),
    ("email",.json (record.email.elim .null .str)),
    ("full_name",.json (record.fullName.elim .null .str)),
    ("last_active_at",record.lastActiveAt.elim (.json .null) fun time => .datetime ⟨time,some 0⟩),
    ("is_admin",.json (.bool record.isAdmin)),
    ("suspended",.json (.bool record.suspended))]

def Activity.payload (record : Activity) : LicenseGovernance.Payload := .user record.cells

/-! What the rows say about persons: by which identifiers and addresses they name them, and which of
them are about one person. -/

section Persons

variable (rt : FeedRuntime)

/-- The identifiers of a row; a null and a blank field name nobody. -/
def identifiers (entry : Item) : List String :=
  ["user_id","principal_id","resource_id","id"].filterMap fun key =>
    normalizeText rt (entry.entry key)

def addresses (entry : Item) : List String :=
  (normalizeEmail rt (entry.entry "email")).toList ++
    (identifiers rt entry).filterMap (addressOf rt.python.text)

def Named (entry : Item) : Prop := identifiers rt entry ≠ [] ∨ addresses rt entry ≠ []

def Linked (a b : Item) : Prop :=
  (∃ identifier ∈ identifiers rt a, identifier ∈ identifiers rt b) ∨
    ∃ address ∈ addresses rt a, address ∈ addresses rt b

def rows (feed : List Json) : List Item :=
  feed.filterMap fun
    | .obj entry => some entry
    | _ => none

def SamePerson (feed : List Json) : Item → Item → Prop :=
  Relation.ReflTransGen fun a b => a ∈ rows feed ∧ b ∈ rows feed ∧ Linked rt a b

def Contributes (entry : Item) (record : Activity) : Prop :=
  identity rt entry = some record.userId

def Activity.addresses (text : Lowercase) (record : Activity) : List String :=
  record.email.toList ++ (addressOf text record.userId).toList

def Shares (text : Lowercase) (a b : Activity) : Prop :=
  a.userId = b.userId ∨ ∃ address ∈ a.addresses text, address ∈ b.addresses text

def Mentions (record : Activity) (entry : Item) : Prop :=
  record.userId ∈ identifiers rt entry ∨
    ∃ address ∈ record.addresses rt.python.text, address ∈ addresses rt entry

end Persons

def Latest (times : List (Option Nat)) (latest : Option Nat) : Prop :=
  (∀ time, some time ∈ times → ∃ last, latest = some last ∧ time ≤ last) ∧
    ∀ last, latest = some last → some last ∈ times

/-- What a record says about its person, its name apart. -/
def Activity.essence (record : Activity) : String × Option String × Option Nat × Bool × Bool :=
  (record.userId,record.email,record.lastActiveAt,record.isAdmin,record.suspended)

structure OneRecord (rt : FeedRuntime) (now : Nat) (feed : List Json) (entry : Item)
    (record : Activity) : Prop where
  contributes : ∀ other ∈ rows feed, SamePerson rt feed entry other → Contributes rt other record
  isAdmin : record.isAdmin = true ↔
    ∃ other ∈ rows feed, SamePerson rt feed entry other ∧ isAdmin rt other = true
  suspended : record.suspended = true ↔
    ∃ other ∈ rows feed, SamePerson rt feed entry other ∧ suspended rt other = true
  notBefore : ∀ other ∈ rows feed, SamePerson rt feed entry other → ∀ time,
    lastActive rt now other = some (some time) →
      ∃ last, record.lastActiveAt = some last ∧ time ≤ last
  reached : ∀ last, record.lastActiveAt = some last →
    ∃ other ∈ rows feed, SamePerson rt feed entry other ∧ lastActive rt now other = some (some last)

def Protects (rt : FeedRuntime) (now : Nat) (cutoffDate : Int) (entry : Item) : Prop :=
  isAdmin rt entry = true ∨ suspended rt entry = true ∨
    ∃ time : Nat, lastActive rt now entry = some (some time) ∧ cutoffDate ≤ time

structure OnePerPerson (rt : FeedRuntime) (now : Nat) (feed : List Json)
    (records : List Activity) : Prop where
  one : ∀ entry ∈ rows feed, Named rt entry → ∃ record ∈ records, OneRecord rt now feed entry record
  apart : records.Pairwise fun a b => ¬ Shares rt.python.text a b
  orderless : ∀ feed', feed.Perm feed' → ∃ records',
    listManualFeedActivity rt now (.arr feed') = some records' ∧
      ∀ essence, essence ∈ records.map Activity.essence ↔ essence ∈ records'.map Activity.essence
  safe : ∀ env : LicenseGovernance.Environment, ∀ entry ∈ rows feed,
    Protects rt now env.cutoffDate entry → ∀ record ∈ records,
      (∃ other ∈ rows feed, SamePerson rt feed entry other ∧ Mentions rt record other) →
        ∀ user, LicenseGovernance.assess env record.payload ≠ .idle user

def ListsPersons (rt : FeedRuntime) (now : Nat) (feed : List Json) : Prop :=
  ∃ records, listManualFeedActivity rt now (.arr feed) = some records ∧
    OnePerPerson rt now feed records

/-- No activity of a named row overflows; each such row has an identity, the first of its
identifiers or its email; rows that share a name agree on it, and rows that agree on it have one
email. -/
structure Coherent (rt : FeedRuntime) (now : Nat) (feed : List Json) : Prop where
  readable : ∀ entry ∈ rows feed, Named rt entry → (lastActive rt now entry).isSome = true
  identified : ∀ entry ∈ rows feed, Named rt entry → (identity rt entry).isSome = true
  agreed : ∀ a ∈ rows feed, ∀ b ∈ rows feed, Linked rt a b → identity rt a = identity rt b
  oneEmail : ∀ a ∈ rows feed, ∀ b ∈ rows feed, identity rt a = identity rt b →
    ∀ e f, email rt a = some e → email rt b = some f → e = f

end Valdrics.SeatFeed

import Valdrics.NumberText
import Valdrics.Runs

/-! The naira rate of the exchange service: the in-memory rates of each process, the shared
cache, the database row, and the reads that copy a rate from one to another. A copy carries the
moment at which its rate was observed, which the code does not read. -/
namespace Valdrics.Currency

def cbnNfem : String := "cbn_nfem"

/-- `_L1_TTL_SECONDS`, in microseconds. -/
def l1Ttl : Int := 300 * 1000000

/-- A rate, its provider, and when it was fetched or set; the row keeps this as `last_updated`. -/
structure Quote where
  rate : Decimal
  provider : String
  observedAt : Int
  deriving DecidableEq

structure CachedRate where
  quote : Quote
  updatedAt : Int
  deriving DecidableEq

structure Settings where
  exchangeRateSyncIntervalHours : Nat := 24
  viaFloat : Decimal → Decimal := id
  column : Decimal → Decimal := id

/-- `cache_ttl_hours`, in microseconds. -/
def Settings.maxAge (settings : Settings) : Int :=
  ((max 1 settings.exchangeRateSyncIntervalHours * 3600 : Nat) : Int) * 1000000

structure RateState where
  now : Int
  memory : Nat → Option CachedRate := fun _ => none
  shared : Option CachedRate := none
  row : Option Quote := none

/-- How the upsert of a fetched rate ends: kept, lost with its transaction, or with an exception
that counts as a failed fetch or leaves the call. -/
inductive Upsert where
  | saved | lost | failed | raised
  deriving DecidableEq

structure RateAnswers where
  cacheReads : Bool := true
  cacheWrites : Bool := true
  rowReads : Bool := true
  live : Option Decimal := none
  upsert : Upsert := .saved

inductive RateAnswer where
  | served (quote : Quote)
  | unknown
  | unavailable (message : String)
  | raised
  deriving DecidableEq

namespace RateState

variable (s : RateState) (settings : Settings) (process : Nat) (strict : Bool)
  (answers : RateAnswers) (quote : Quote)

def admits (strict : Bool) (quote : Quote) : Bool := !strict || quote.provider = cbnNfem

def readMemory : Option Quote :=
  ((s.memory process).filter fun held => held.quote.rate.coefficient ≠ 0 &&
    s.now - held.updatedAt ≤ l1Ttl && admits strict held.quote).map (·.quote)

def readShared : Option Quote :=
  ((if answers.cacheReads then s.shared else none).filter fun held =>
    held.quote.rate.coefficient ≠ 0 && held.updatedAt ≠ 0 &&
      s.now - held.updatedAt ≤ settings.maxAge && admits strict held.quote).map (·.quote)

/-- `_read_db_rate`. -/
def readDbRate : Option Quote := if answers.rowReads then s.row else none

/-- `_is_fresh`. -/
def isFresh (now : Int) (settings : Settings) (quote : Quote) : Bool :=
  now - settings.maxAge ≤ quote.observedAt

def readRow : Option Quote :=
  (s.readDbRate answers).filter fun quote => quote.rate.coefficient ≠ 0 &&
    isFresh s.now settings quote && admits strict quote

/-- `_write_l1_rate`. -/
def writeMemory : RateState :=
  { s with memory := Function.update s.memory process (some ⟨quote,s.now⟩) }

/-- `_write_cache_rate`. -/
def writeShared : RateState :=
  if answers.cacheWrites then
    { s with shared := some ⟨{ quote with rate := settings.viaFloat quote.rate },s.now⟩ }
  else s

/-- `_apply_db_rate_upsert`. -/
def writeRow : RateState :=
  { s with row := some { quote with rate := settings.column quote.rate } }

/-- The path of `get_rate` after a failed fetch; the stale row is the one read before. -/
def degrade (strict : Bool) (dbRate : Option Quote) : RateAnswer × RateState :=
  match dbRate, strict with
  | some _, true => (.unavailable "NGN rate is stale and live refresh failed",s)
  | none, true => (.unavailable "NGN rate is unavailable",s)
  | some quote, false => (.served quote,s.writeMemory process quote)
  | none, false => (.unknown,s)

/-- The live part of `get_rate`. -/
def fetchLive : RateAnswer × RateState :=
  match answers.live with
  | none => s.degrade process strict (s.readDbRate answers)
  | some rate =>
    let quote := ⟨rate,cbnNfem,s.now⟩
    let cached := (s.writeMemory process quote).writeShared settings answers quote
    match answers.upsert with
    | .saved => (.served quote,cached.writeRow settings quote)
    | .lost => (.served quote,cached)
    | .failed => cached.degrade process strict (s.readDbRate answers)
    | .raised => (.raised,cached)

/-- `get_rate("NGN")`. -/
def getRate : RateAnswer × RateState :=
  match s.readMemory process strict with
  | some quote => (.served quote,s)
  | none =>
    match s.readShared settings strict answers with
    | some quote => (.served quote,s.writeMemory process quote)
    | none =>
      match s.readRow settings strict answers with
      | some quote =>
        (.served quote,(s.writeMemory process quote).writeShared settings answers quote)
      | none => s.fetchLive settings process strict answers

end RateState

inductive Event where
  | getRate (process : Nat) (strict : Bool) (answers : RateAnswers)
  | applyExchangeRateUpdate (rate : Decimal) (provider : String) (committed : Bool)
  | evict
  | restart (process : Nat)
  | advance (microseconds : Nat)

def exec (settings : Settings) (s : RateState) : Event → RateState × Option RateAnswer
  | .getRate process strict answers =>
    let read := s.getRate settings process strict answers
    (read.2,some read.1)
  | .applyExchangeRateUpdate rate provider committed =>
    (if committed then s.writeRow settings ⟨rate,provider,s.now⟩ else s,none)
  | .evict => ({ s with shared := none },none)
  | .restart process => ({ s with memory := Function.update s.memory process none },none)
  | .advance microseconds => ({ s with now := s.now + microseconds },none)

end Valdrics.Currency

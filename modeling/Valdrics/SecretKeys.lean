import Valdrics.ExpiringMemo
import Valdrics.PythonText

/-! The encryption of stored secrets: the keys of the settings and the contexts that choose among
them, the derived keys with their cache, and the changes of the settings while secrets are kept. -/
namespace Valdrics.SecretKeys

open PythonText
open ExpiringMemo (Memo remember)

/-- The digest, the key derivation and Fernet, each as an ideal function; the nonce stands for the
time and the random block of a token. -/
structure Crypto where
  Key : Type
  sha256 : String → String
  pbkdf2 : String → List Nat → Nat → Key
  encrypt : Key → Nat → String → String
  decrypt : Key → String → Option String
  sha256_injective : ∀ a b, sha256 a = sha256 b → a = b
  pbkdf2_injective : ∀ a b salt iterations, pbkdf2 a salt iterations = pbkdf2 b salt iterations → a = b
  decrypt_encrypt : ∀ key nonce text, decrypt key (encrypt key nonce text) = some text
  decrypt_other : ∀ key other nonce text, other ≠ key → decrypt other (encrypt key nonce text) = none
  token_nonempty : ∀ key nonce text, encrypt key nonce text ≠ ""

/-- `ValueError`. -/
inductive KeyFailure where
  | noKey
  | noSalt
  | saltFormat
  | saltLength (bytes : Nat)
  deriving DecidableEq

def kdfIterations : Nat := 100000
def kdfSaltLength : Nat := 32

def sextet (c : Char) : Option Nat :=
  if 65 ≤ c.toNat ∧ c.toNat ≤ 90 then some (c.toNat - 65)
  else if 97 ≤ c.toNat ∧ c.toNat ≤ 122 then some (c.toNat - 71)
  else if 48 ≤ c.toNat ∧ c.toNat ≤ 57 then some (c.toNat + 4)
  else if c = '+' then some 62
  else if c = '/' then some 63
  else none

/-- `base64.b64decode` with validation. -/
def base64Bytes : List Char → Option (List Nat)
  | [] => some []
  | [a,b,'=','='] => do
    let x ← sextet a
    let y ← sextet b
    return [x * 4 + y / 16]
  | [a,b,c,'='] => do
    let x ← sextet a
    let y ← sextet b
    let z ← sextet c
    return [x * 4 + y / 16,y % 16 * 16 + z / 4]
  | a :: b :: c :: d :: rest => do
    let x ← sextet a
    let y ← sextet b
    let z ← sextet c
    let w ← sextet d
    let bytes ← base64Bytes rest
    return [x * 4 + y / 16,y % 16 * 16 + z / 4,z % 4 * 64 + w] ++ bytes
  | _ => none

def decodeSalt (salt : String) : Except KeyFailure (List Nat) :=
  match base64Bytes salt.toList with
  | none => .error .saltFormat
  | some bytes => if bytes.length = kdfSaltLength then .ok bytes else .error (.saltLength bytes.length)

structure Settings where
  encryptionKey : Option String := none
  piiEncryptionKey : Option String := none
  apiKeyEncryptionKey : Option String := none
  encryptionFallbackKeys : List String := []
  encryptionKeyCacheTtlSeconds : Int := 3600
  encryptionKeyCacheMaxSize : Int := 1000
  kdfSaltEnv : Option String := none
  kdfSalt : Option String := none
  environment : String := "development"
  testing : Bool := false

def given (text : Option String) : Option String := text.filter (· ≠ "")

namespace Settings

/-- `_cache_ttl_seconds`, in nanoseconds. -/
def cacheTtl (settings : Settings) : Int := max 60 settings.encryptionKeyCacheTtlSeconds * 1000000000

def cacheMaxSize (settings : Settings) : Nat := (max 10 settings.encryptionKeyCacheMaxSize).toNat

/-- `get_or_create_salt`. -/
def salt (settings : Settings) : Except KeyFailure String :=
  match (given settings.kdfSaltEnv).or (given settings.kdfSalt) with
  | some salt => .ok salt
  | none => .error .noSalt

def primaryKey (settings : Settings) (context : String) : Option String :=
  if context = "api_key" then (given settings.apiKeyEncryptionKey).or settings.encryptionKey
  else if context = "pii" then (given settings.piiEncryptionKey).or settings.encryptionKey
  else settings.encryptionKey

end Settings

inductive CacheKey where
  | derived (fingerprint salt : String) (version iterations : Nat)
  | fernet (fingerprint salt : String)
  deriving DecidableEq

section Keys

variable (c : Crypto)

abbrev KeyCache := Memo CacheKey c.Key

/-- What `derive_key` computes. -/
def deriveFrom (masterKey salt : String) (version iterations : Nat) : Except KeyFailure c.Key :=
  (decodeSalt salt).map fun bytes => c.pbkdf2 (masterKey ++ ":v" ++ toString version) bytes iterations

def deriveKey (settings : Settings) (now : Int) (masterKey salt : String) (cache : KeyCache c) :
    Except KeyFailure c.Key × KeyCache c :=
  remember settings.cacheTtl settings.cacheMaxSize now cache
    (.derived (c.sha256 masterKey) salt 1 kdfIterations)
    fun cache => (deriveFrom c masterKey salt 1 kdfIterations,cache)

def createFernetForKey (settings : Settings) (now : Int) (masterKey salt : String)
    (cache : KeyCache c) : Except KeyFailure c.Key × KeyCache c :=
  remember settings.cacheTtl settings.cacheMaxSize now cache (.fernet (c.sha256 masterKey) salt)
    (deriveKey c settings now masterKey salt)

/-- The loop of `create_multi_fernet`: a failure of the primary key is final, one of a fallback
key is passed over. -/
def createFernets (settings : Settings) (now : Int) (salt : String) (primary : Bool) :
    List String → KeyCache c → Except KeyFailure (List c.Key) × KeyCache c
  | [], cache => (.ok [],cache)
  | key :: rest, cache =>
    match createFernetForKey c settings now key salt cache with
    | (.ok fernet,cache) =>
      match createFernets settings now salt false rest cache with
      | (.ok fernets,cache) => (.ok (fernet :: fernets),cache)
      | (.error failure,cache) => (.error failure,cache)
    | (.error failure,cache) =>
      if primary then (.error failure,cache) else createFernets settings now salt false rest cache

/-- `_get_multi_fernet`, for the keys of a context. -/
def multiFernet (settings : Settings) (now : Int) (context : String) (cache : KeyCache c) :
    Except KeyFailure (List c.Key) × KeyCache c :=
  match given (settings.primaryKey context) with
  | none => (.error .noKey,cache)
  | some primary =>
    match settings.salt with
    | .error failure => (.error failure,cache)
    | .ok salt =>
      createFernets c settings now salt true (primary :: settings.encryptionFallbackKeys) cache

/-- `encrypt_string`: the first of the keys encrypts. -/
def encryptString (settings : Settings) (now : Int) (nonce : Nat) (value context : String)
    (cache : KeyCache c) : Except KeyFailure (Option String) × KeyCache c :=
  if value = "" then (.ok none,cache)
  else match multiFernet c settings now context cache with
    | (.ok keys,cache) => (.ok (keys.head?.map fun key => c.encrypt key nonce value),cache)
    | (.error failure,cache) => (.error failure,cache)

inductive ReadFailure where
  | decryption
  deriving DecidableEq

/-- What `decrypt_string` does about a failure. -/
def failClosed (settings : Settings) : Except ReadFailure (Option String) :=
  if settings.testing then .ok none
  else if settings.environment ∈ ["production","staging"] then .error .decryption
  else .ok none

/-- `decrypt_string`: the first of the keys that opens the token. -/
def decryptString (settings : Settings) (now : Int) (value context : String) (cache : KeyCache c) :
    Except ReadFailure (Option String) × KeyCache c :=
  if value = "" then (.ok none,cache)
  else match multiFernet c settings now context cache with
    | (.ok keys,cache) =>
      match keys.findSome? fun key => c.decrypt key value with
      | some text => (.ok (some text),cache)
      | none => (failClosed settings,cache)
    | (.error _,cache) => (failClosed settings,cache)

/-- `warm_key_caches_from_settings` over the candidates; a key that fails is passed over. -/
def warmKeys (settings : Settings) (now : Int) (salt : String) :
    List String → List String → KeyCache c → KeyCache c
  | _, [], cache => cache
  | seen, rawKey :: rest, cache =>
    let key := strip rawKey
    if key = "" ∨ key ∈ seen then warmKeys settings now salt seen rest cache
    else warmKeys settings now salt (key :: seen) rest
      (createFernetForKey c settings now key salt cache).2

/-- `clear_key_caches` with warming. -/
def clearKeyCaches (settings : Settings) (now : Int) : KeyCache c :=
  match given settings.kdfSalt with
  | none => []
  | some salt => warmKeys c settings now salt []
      ([settings.encryptionKey.getD "",settings.piiEncryptionKey.getD "",
        settings.apiKeyEncryptionKey.getD ""] ++ settings.encryptionFallbackKeys) []

end Keys

inductive KeyName where
  | encryption | pii | apiKey
  deriving DecidableEq

namespace Settings

def key (settings : Settings) : KeyName → Option String
  | .encryption => settings.encryptionKey
  | .pii => settings.piiEncryptionKey
  | .apiKey => settings.apiKeyEncryptionKey

def setKey (settings : Settings) (name : KeyName) (new : String) : Settings :=
  match name with
  | .encryption => { settings with encryptionKey := some new }
  | .pii => { settings with piiEncryptionKey := some new }
  | .apiKey => { settings with apiKeyEncryptionKey := some new }

def rotate (settings : Settings) (name : KeyName) (old new : String) : Settings :=
  { settings.setKey name new with
    encryptionFallbackKeys := settings.encryptionFallbackKeys ++ [old] }

end Settings

def KeyName.context : KeyName → Option String
  | .encryption => none
  | .pii => some "pii"
  | .apiKey => some "api_key"

structure Written where
  context : String
  value : String
  token : String
  masterKey : String

structure Vault (c : Crypto) where
  settings : Settings
  cache : KeyCache c := []
  written : List Written := []

inductive VaultEvent where
  | write (context value : String) (nonce : Nat) (now : Int)
  | read (context token : String) (now : Int)
  | replaceKey (name : KeyName) (new : String) (now : Int)
  | introduceKey (name : KeyName) (new : String) (now : Int)

namespace Vault

variable {c : Crypto}

/-- `reload_settings_from_environment`. -/
def reload (v : Vault c) (settings : Settings) (now : Int) : Vault c :=
  { v with settings, cache := clearKeyCaches c settings now }

def step (v : Vault c) : VaultEvent → Vault c
  | .write context value nonce now =>
    match encryptString c v.settings now nonce value context v.cache with
    | (.ok (some token),cache) =>
      { v with
        cache
        written := v.written ++ [{ context, value, token
                                   masterKey := (v.settings.primaryKey context).getD "" }] }
    | (_,cache) => { v with cache }
  | .read context token now =>
    { v with cache := (decryptString c v.settings now token context v.cache).2 }
  | .replaceKey name new now =>
    match given (v.settings.key name), given (some new) with
    | some old, some new => v.reload (v.settings.rotate name old new) now
    | _, _ => v
  | .introduceKey name new now =>
    match name.context, given (v.settings.key name), given (some new) with
    | some _, none, some new => v.reload (v.settings.setKey name new) now
    | _, _, _ => v

def exec (v : Vault c) (event : VaultEvent) : Vault c × Unit := (v.step event,())

end Vault

/-- No stored secret is lost, and every new one is encrypted under the primary key of its
context. -/
structure Retained {c : Crypto} (v : Vault c) : Prop where
  reads : ∀ w ∈ v.written, ∀ now,
    (decryptString c v.settings now w.token w.context v.cache).1 = .ok (some w.value)
  primary : ∀ context value nonce now token,
    (encryptString c v.settings now nonce value context v.cache).1 = .ok (some token) →
    ∃ masterKey salt key, v.settings.primaryKey context = some masterKey ∧
      v.settings.salt = .ok salt ∧ deriveFrom c masterKey salt 1 kdfIterations = .ok key ∧
      token = c.encrypt key nonce value

/-- A context gets a key of its own while the default key still opens its secrets: it has none
under that key, or the key is a fallback key or the new key itself. -/
def KeepsDefault {c : Crypto} (v : Vault c) (event : VaultEvent) : Prop :=
  ∀ name new now context, event = .introduceKey name new now → name.context = some context →
    given (v.settings.key name) = none → new ≠ "" →
    ∀ w ∈ v.written, w.context = context → v.settings.encryptionKey = some w.masterKey →
      w.masterKey = new ∨ w.masterKey ∈ v.settings.encryptionFallbackKeys

end Valdrics.SecretKeys

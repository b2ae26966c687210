import Valdrics.IpAddresses
import Valdrics.PythonText
import Valdrics.SeparatedText

/-! The address and the scheme of a request behind trusted proxies: which peers may forward, and
which of the forwarded values counts. -/
namespace Valdrics.ProxyHeaders

open PythonText

/-- A setting that is read with `coerce_bool`. -/
inductive Flag where
  | bool (value : Bool)
  | text (value : String)
  | other

def coerceBool (lowercase : Lowercase) : Flag → Bool
  | .bool value => value
  | .text value => lowercase.lower (strip value) ∈ ["1","true","yes","on"]
  | .other => false

inductive Words where
  | text (value : String)
  | list (values : List String)
  | other

def splitCommas (text : String) : List String := (text.toList.splitOn ',').map String.ofList

def parts (text : String) : List String := ((splitCommas text).map strip).filter (· ≠ "")

def Words.stripped : Words → List String
  | .text value => parts value
  | .list values => (values.map strip).filter (· ≠ "")
  | .other => []

structure Settings where
  trustProxyHeaders : Flag := .bool false
  trustedProxyHops : Option Int := some 1
  trustedProxyCidrs : Words := .list []
  environment : String := "development"
  paystackWebhookAllowedIps : Words := .other

structure Request where
  client : Option String
  scheme : String := "http"
  xForwardedFor : Option String := none
  xForwardedProto : Option String := none

/-- `_trusted_proxy_networks`; what is no network is passed over. -/
def trustedProxyNetworks (settings : Settings) : List IpAddresses.Network :=
  settings.trustedProxyCidrs.stripped.filterMap IpAddresses.parseNetwork

/-- `_fallback_client_host`. -/
def fallbackClientHost (request : Request) : String :=
  match request.client with
  | some host => if host = "" then "unknown" else host
  | none => "unknown"

/-- `_trusted_proxy_context`, whether the peer may forward. -/
def trustedProxy (lowercase : Lowercase) (settings : Settings) (request : Request) : Bool :=
  if coerceBool lowercase settings.trustProxyHeaders = false then false
  else if trustedProxyNetworks settings = [] then false
  else match IpAddresses.parse (fallbackClientHost request) with
    | none => false
    | some peer => (trustedProxyNetworks settings).any (·.contains peer)

/-- `_trusted_proxy_hops`; what is no number counts as one. -/
def trustedProxyHops (settings : Settings) : Nat :=
  (min (max (settings.trustedProxyHops.getD 1) 1) 5).toNat

/-- The value that counts among those of a header, unless there are too few. -/
def pick (values : List String) (hops : Nat) : Option String :=
  let idx : Int := values.length - hops
  if idx < 0 then none
  else if idx ≥ values.length then values.getLast?
  else values[idx.toNat]?

def forwardedAddresses (header : String) : List String :=
  (parts header).filterMap fun candidate => (IpAddresses.parse candidate).map (·.text)

def resolveClientIp (lowercase : Lowercase) (settings : Settings) (request : Request) : String :=
  let fallback := fallbackClientHost request
  let forwardedFor := strip (request.xForwardedFor.getD "")
  if trustedProxy lowercase settings request = false then fallback
  else if forwardedFor = "" then fallback
  else
    let validIps := forwardedAddresses forwardedFor
    if validIps = [] then fallback
    else (pick validIps (trustedProxyHops settings)).getD fallback

def forwardedSchemes (lowercase : Lowercase) (header : String) : List String :=
  (parts header).map lowercase.lower

def ownScheme (lowercase : Lowercase) (request : Request) : String :=
  orDefault (lowercase.lower (strip (orDefault request.scheme "http"))) "http"

def resolveRequestScheme (lowercase : Lowercase) (settings : Settings) (request : Request) :
    String :=
  let fallback := ownScheme lowercase request
  let forwardedProto := strip (request.xForwardedProto.getD "")
  if trustedProxy lowercase settings request = false then fallback
  else if forwardedProto = "" then fallback
  else
    let values := forwardedSchemes lowercase forwardedProto
    if values = [] then fallback
    else match pick values (trustedProxyHops settings) with
      | none => fallback
      | some candidate => if candidate ∈ ["http","https"] then candidate else fallback

/-- `apply_trusted_proxy_headers`, which the middleware does before anything else. -/
def applyTrustedProxyHeaders (lowercase : Lowercase) (settings : Settings) (request : Request) :
    Request :=
  { request with
    client := some (resolveClientIp lowercase settings request)
    scheme := resolveRequestScheme lowercase settings request }

/-- The address of the allowlist and of the rate limits, which resolve it again. -/
def keyedClientIp (lowercase : Lowercase) (settings : Settings) (request : Request) : String :=
  resolveClientIp lowercase settings (applyTrustedProxyHeaders lowercase settings request)

/-- The check of `process_paystack_webhook` on the origin. -/
def webhookOriginAllowed (lowercase : Lowercase) (settings : Settings) (request : Request) : Bool :=
  settings.environment ∉ ["production","staging"] ||
    keyedClientIp lowercase settings request ∈ settings.paystackWebhookAllowedIps.stripped

def appendEntry (header : Option String) (entry : String) : Option String :=
  match header with
  | none => some entry
  | some text => some (text ++ "," ++ entry)

def forwarded (client : Option String) (entries : List String) : Option String :=
  entries.foldl appendEntry client

structure TrustedSuffix (settings : Settings) where
  entries : List String
  hops : entries.length = trustedProxyHops settings
  single : ∀ entry ∈ entries, ',' ∉ entry.toList

def Request.arriving (request : Request) {settings : Settings} (addresses protos :
    TrustedSuffix settings) (clientFor clientProto : Option String) : Request :=
  { request with
    xForwardedFor := forwarded clientFor addresses.entries
    xForwardedProto := forwarded clientProto protos.entries }

structure NotChosen (lowercase : Lowercase) (settings : Settings) (request : Request)
    (addresses protos : TrustedSuffix settings) : Prop where
  address : ∀ for₁ proto₁ for₂ proto₂,
    resolveClientIp lowercase settings (request.arriving addresses protos for₁ proto₁) =
      resolveClientIp lowercase settings (request.arriving addresses protos for₂ proto₂)
  scheme : ∀ for₁ proto₁ for₂ proto₂,
    resolveRequestScheme lowercase settings (request.arriving addresses protos for₁ proto₁) =
      resolveRequestScheme lowercase settings (request.arriving addresses protos for₂ proto₂)
  webhook : ∀ for₁ proto₁ for₂ proto₂,
    webhookOriginAllowed lowercase settings (request.arriving addresses protos for₁ proto₁) =
      webhookOriginAllowed lowercase settings (request.arriving addresses protos for₂ proto₂)
  untrusted : trustedProxy lowercase settings request = false → ∀ xForwardedFor xForwardedProto,
    resolveClientIp lowercase settings { request with xForwardedFor, xForwardedProto } =
      fallbackClientHost request

/-- Each entry of the proxies for the address is an address, and each one for the scheme says
something. -/
def Legible {settings : Settings} (addresses protos : TrustedSuffix settings) : Prop :=
  (∀ entry ∈ addresses.entries, (IpAddresses.parse (strip entry)).isSome = true) ∧
    ∀ entry ∈ protos.entries, strip entry ≠ ""

end Valdrics.ProxyHeaders

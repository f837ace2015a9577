import Mathlib.Data.List.DropRight
import OctoChannel.Foundation.Json

/-! The address guard of `transport.py`: host texts, the trusted origins, and what
the resolver and the connector let through. The `ipaddress`, `yarl`, `urllib.parse`
and `aiohttp` calls behind it are the fields of `Net`. -/

namespace OctoChannel.Transport

open Foundation

/-- What a call of this part of the code raises. -/
inductive TransportError where
  | osError (message : PyStr)
  | runtimeError (message : PyStr)
  | timeoutError (message : PyStr)
  /-- Raised below `session.get`: a refused connection, a broken stream, the clock. -/
  | raised
  deriving DecidableEq, Repr

/-- `str.lower` of an ASCII letter. Host names come encoded from `yarl`, addresses
from the resolver: both are ASCII. -/
def lowerPoint (point : CodePoint) : CodePoint :=
  if upper : 0x41 ≤ point.val ∧ point.val ≤ 0x5a then ⟨point.val + 0x20, by omega⟩ else point

def lower (text : PyStr) : PyStr := text.map lowerPoint

def isBracket (point : CodePoint) : Bool := point = ch '[' || point = ch ']'

def isDot (point : CodePoint) : Bool := point = ch '.'

/-- `host.strip("[]").rstrip(".")` -/
def bare (host : PyStr) : PyStr :=
  ((host.dropWhile isBracket).rdropWhile isBracket).rdropWhile isDot

/-- `host.lower().strip("[]").rstrip(".")` -/
def normalize (host : PyStr) : PyStr := bare (lower host)

/-- `text or fallback` -/
def orText (text : Option PyStr) (fallback : PyStr) : PyStr :=
  if text.getD [] = [] then fallback else text.getD []

def metadataHosts : List PyStr :=
  [py "169.254.169.254", py "fd00:ec2::254", py "metadata.google.internal", py "metadata.goog",
    py "metadata", py "100.100.100.200"]

/-- The fields of `yarl.URL(url)` that are read. -/
structure YarlUrl where
  rawHost : Option PyStr
  scheme : PyStr
  port : Nat
  deriving DecidableEq

/-- The fields of `urlparse(url)` that are read; `port` raises where it is `none`. -/
structure ParsedUrl where
  scheme : PyStr
  username : Option PyStr
  password : Option PyStr
  port : Option (Option Nat)
  deriving DecidableEq

/-- One resolved record; a missing or empty `host` reads as an empty text. -/
structure Net.ResolveResult where
  host : Option PyStr
  deriving DecidableEq

def Net.ResolveResult.address (record : Net.ResolveResult) : PyStr := record.host.getD []

/-- What the operating system answers to one resolution. -/
abbrev Net.DnsAnswer := Except TransportError (List Net.ResolveResult)

/-- The modules below the guard. A `none` is a raised exception that the code catches. -/
structure Net (Ip : Type) where
  /-- `ipaddress.ip_address` -/
  ipAddress : PyStr → Option Ip
  /-- `ipaddress.ip_address(socket.inet_aton(text))` -/
  inetAton : PyStr → Option Ip
  str : Ip → PyStr
  ipv4Mapped : Ip → Option Ip
  isLoopback : Ip → Bool
  isPrivate : Ip → Bool
  isLinkLocal : Ip → Bool
  isMulticast : Ip → Bool
  isReserved : Ip → Bool
  isUnspecified : Ip → Bool
  /-- `yarl.URL(text)` -/
  url : PyStr → Option YarlUrl
  /-- `str(URL.build(scheme="http", host=host))` -/
  build : PyStr → Option PyStr
  urlparse : PyStr → Option ParsedUrl
  urljoin : PyStr → PyStr → PyStr
  /-- The host of a URL as aiohttp asks its connector for it. -/
  dialHost : PyStr → PyStr
  /-- `aiohttp.TCPConnector._resolve_host`, over what the resolver answers. -/
  baseResolveHost : (PyStr → Nat → Net.DnsAnswer) → PyStr → Nat → Net.DnsAnswer
  /-- `int(text)` -/
  int : PyStr → Option Int
  /-- The name of the downloaded file, from its URL and `Content-Disposition`. -/
  filename : PyStr → Option PyStr → PyStr

namespace Net

variable {Ip : Type} (net : Net Ip)

/-- An IPv4 address inside an IPv6 one stands for itself. -/
def target (ip : Ip) : Ip := (net.ipv4Mapped ip).getD ip

/-- The address that a text spells, in the notations of `ipaddress` and `inet_aton`. -/
def literalIp (text : PyStr) : Option Ip := (net.ipAddress text).orElse fun _ => net.inetAton text

/-- `_unconditionally_unsafe_address` -/
def unconditionallyUnsafeAddress (address : PyStr) : Bool :=
  let normalized := normalize address
  if normalized ∈ metadataHosts then true
  else
    match net.ipAddress normalized with
    | none => true
    | some ip =>
      let ip := net.target ip
      if net.str ip ∈ metadataHosts then true
      else if net.isLoopback ip then false
      else net.isLinkLocal ip || net.isMulticast ip || net.isReserved ip || net.isUnspecified ip

/-- `_canonical_literal_ip` -/
def canonicalLiteralIp (host : PyStr) : Option PyStr := (net.literalIp (normalize host)).map net.str

/-- `canonical_url_host` -/
def canonicalUrlHost (url : PyStr) : Option PyStr :=
  match net.url url with
  | none => none
  | some parsed =>
    match parsed.rawHost with
    | none => none
    | some host =>
      if host = [] then none
      else some (orText (net.canonicalLiteralIp (normalize host)) (normalize host))

/-- `_canonical_trust_host` -/
def canonicalTrustHost (host : PyStr) : PyStr :=
  match net.build (bare host) with
  | none => []
  | some url => orText (net.canonicalUrlHost url) (lower (bare host))

/-- `is_private_or_metadata_host` -/
def isPrivateOrMetadataHost (hostname : PyStr) : Bool :=
  let normalized := net.canonicalTrustHost hostname
  if normalized = [] then true
  else if normalized ∈ metadataHosts then true
  else if (py ".local").isSuffixOf normalized || (py ".internal").isSuffixOf normalized ||
      (py ".localhost").isSuffixOf normalized || normalized = py "localhost" then true
  else
    match net.ipAddress normalized with
    | none => false
    | some ip =>
      let ip := net.target ip
      if net.str ip ∈ metadataHosts then true
      else net.isLoopback ip || net.isPrivate ip || net.isLinkLocal ip || net.isMulticast ip ||
        net.isReserved ip || net.isUnspecified ip

/-- Scheme, host and port. -/
abbrev Origin := PyStr × PyStr × Nat

/-- `_DEFAULT_ORIGIN_PORTS` -/
def defaultOriginPort (scheme : PyStr) : Option Nat :=
  if scheme = py "http" ∨ scheme = py "ws" then some 80
  else if scheme = py "https" ∨ scheme = py "wss" then some 443
  else none

/-- `_canonical_origin` -/
def canonicalOrigin (url : PyStr) : Option Origin :=
  match net.urlparse url with
  | none => none
  | some parsed =>
    match parsed.port, defaultOriginPort (lower parsed.scheme), net.canonicalUrlHost url with
    | some port, some standard, some host =>
      if host = [] ∨ parsed.username.isSome ∨ parsed.password.isSome then none
      else some (lower parsed.scheme, host, port.getD standard)
    | _, _, _ => none

/-- `_safe_private_trust_origin` -/
def safePrivateTrustOrigin (url : PyStr) : Option Origin :=
  match net.canonicalOrigin url with
  | none => none
  | some origin =>
    if origin.2.1 ∈ metadataHosts then none
    else if (net.canonicalLiteralIp origin.2.1).any net.unconditionallyUnsafeAddress then none
    else some origin

/-- The origins a policy was configured with. -/
structure TransportPolicy where
  trustedDownloadOrigins : List Origin

/-- `TransportPolicy(trusted_origins)` -/
def newPolicy (trustedOrigins : List PyStr) : TransportPolicy :=
  ⟨trustedOrigins.filterMap net.safePrivateTrustOrigin⟩

namespace TransportPolicy

variable (policy : TransportPolicy)

def trustedConnectionEndpoints : List (PyStr × Nat) :=
  policy.trustedDownloadOrigins.map Prod.snd

end TransportPolicy

variable (policy : TransportPolicy)

def isDownloadUrlTrusted (url : PyStr) : Bool :=
  (net.canonicalOrigin url).any (· ∈ policy.trustedDownloadOrigins)

def isDownloadEndpointTrusted (url : PyStr) : Bool :=
  (net.canonicalOrigin url).any (·.2 ∈ policy.trustedConnectionEndpoints)

def isConnectionTrusted (host : PyStr) (port : Nat) : Bool :=
  (net.canonicalTrustHost host, port) ∈ policy.trustedConnectionEndpoints

/-- `SSRFGuardResolver.resolve` -/
def resolve (host : PyStr) (port : Nat) (answer : DnsAnswer) : DnsAnswer :=
  let normalized := net.canonicalTrustHost host
  if normalized ∈ metadataHosts then
    .error (.osError (py "unsafe host blocked by SSRF guard: " ++ normalized))
  else
    let trusted := net.isConnectionTrusted policy normalized port
    if !trusted && net.isPrivateOrMetadataHost normalized then
      .error (.osError (py "unsafe host blocked by SSRF guard: " ++ normalized))
    else
      match answer with
      | .error error => .error error
      | .ok records =>
        if records.isEmpty then
          .error (.osError (py "hostname returned no addresses: " ++ normalized))
        else if records.any fun record => net.unconditionallyUnsafeAddress record.address ||
            (!trusted && net.isPrivateOrMetadataHost record.address) then
          .error (.osError (py "unsafe address blocked by SSRF guard for " ++ normalized))
        else .ok records

/-- `SSRFGuardConnector._resolve_host` -/
def resolveHost (host : PyStr) (port : Nat) (answer : DnsAnswer) : DnsAnswer :=
  let normalized := net.canonicalTrustHost host
  let trusted := net.isConnectionTrusted policy normalized port
  let literal := net.canonicalLiteralIp normalized
  if normalized ∈ metadataHosts then
    .error (.osError (py "unsafe host blocked by SSRF guard: " ++ normalized))
  else if literal.any fun text => net.unconditionallyUnsafeAddress text ||
      (!trusted && net.isPrivateOrMetadataHost text) then
    .error (.osError (py "unsafe address blocked by SSRF guard: " ++ normalized))
  else if literal.isNone && !trusted && net.isPrivateOrMetadataHost normalized then
    .error (.osError (py "unsafe host blocked by SSRF guard: " ++ normalized))
  else net.baseResolveHost (fun host port => net.resolve policy host port answer) host port

end Net

end OctoChannel.Transport

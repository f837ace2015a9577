import OctoChannel.Transport.Guard

namespace OctoChannel.Transport

open Foundation

def downloadMetadataHosts : List PyStr :=
  [py "169.254.169.254", py "metadata.google.internal", py "metadata.goog",
    py "100.100.100.200", py "fd00:ec2::254"]

def downloadRedirectStatuses : List Int := [301, 302, 303, 307, 308]

def maxDownloadRedirects : Nat := 5

def unsafeDownloadUrl : TransportError := .runtimeError (py "unsafe download URL")

/-- An answer to a `GET`, with the chunks of its body and how the body ends. -/
structure Response where
  status : Int
  location : Option PyStr
  contentType : Option PyStr
  contentDisposition : Option PyStr
  contentLength : Option PyStr
  chunks : List Bytes
  ended : Except TransportError Unit

/-- What the world does in one round: whether time is left, what it answers to each
name resolution, and how the request ends. -/
structure Exchange where
  inTime : Bool
  answers : List Net.DnsAnswer
  response : Except TransportError Response

/-- One `session.get`, with the addresses its connections go to. -/
structure Request where
  url : PyStr
  addresses : List PyStr

structure Download where
  requests : List Request
  result : Except TransportError (Bytes × PyStr × PyStr)

def Download.after (download : Download) (request : Request) : Download :=
  { download with requests := request :: download.requests }

namespace Net

variable {Ip : Type} (net : Net Ip)

/-- `_canonical_download_ip` -/
def canonicalDownloadIp (host : PyStr) : Option Ip := net.literalIp (normalize host)

/-- `_validate_download_url` -/
def validateDownloadUrl (url : PyStr) (policy : Option TransportPolicy) :
    Except TransportError Unit :=
  match net.urlparse url with
  | none => .error unsafeDownloadUrl
  | some parsed =>
    let host := (net.canonicalUrlHost url).getD []
    let literal := net.canonicalDownloadIp host
    let trusted := policy.any fun policy => net.isDownloadUrlTrusted policy url
    if (parsed.scheme ≠ py "http" ∧ parsed.scheme ≠ py "https") ∨ host = [] then
      .error unsafeDownloadUrl
    else if parsed.username.isSome ∨ parsed.password.isSome then .error unsafeDownloadUrl
    else if host ∈ downloadMetadataHosts then .error unsafeDownloadUrl
    else if literal.any fun ip => net.isLinkLocal ip || net.isMulticast ip || net.isReserved ip ||
        net.isUnspecified ip then .error unsafeDownloadUrl
    else if (policy.any fun policy => net.isDownloadEndpointTrusted policy url) && !trusted then
      .error unsafeDownloadUrl
    else if (net.isPrivateOrMetadataHost host ||
        literal.any fun ip => net.isLoopback ip || net.isPrivate ip) && !trusted then
      .error unsafeDownloadUrl
    else .ok ()

/-- The addresses that one connection may go to: what the connector's `_resolve_host`
returns for the host and the port of the URL. -/
def dial (guard : TransportPolicy) (url : PyStr) (answer : DnsAnswer) : List PyStr :=
  match net.url url with
  | none => []
  | some parsed =>
    match parsed.rawHost with
    | none => []
    | some host =>
      match net.resolveHost guard (net.dialHost host) parsed.port answer with
      | .error _ => []
      | .ok records => records.map ResolveResult.address

/-- The loop over the chunks of a body. -/
def readBody (maxSize : Nat) (ended : Except TransportError Unit) :
    Bytes → List Bytes → Except TransportError Bytes
  | data, [] => ended.map fun _ => data
  | data, chunk :: rest =>
    let data := data ++ chunk
    if maxSize < data.length then
      .error (.runtimeError (py "File too large (>" ++ py (toString maxSize) ++ py " bytes)"))
    else readBody maxSize ended data rest

/-- The check of `Content-Length`; an empty header counts as none. -/
def checkLength (maxSize : Nat) (header : Option PyStr) : Except TransportError Unit :=
  if header.getD [] = [] then .ok ()
  else
    match net.int (header.getD []) with
    | none => .error (.runtimeError (py "Download failed (invalid Content-Length)"))
    | some length =>
      if length < 0 then .error (.runtimeError (py "Download failed (invalid Content-Length)"))
      else if (maxSize : Int) < length then
        .error (.runtimeError (py "File too large (" ++ py (toString length) ++ py " bytes, max " ++
          py (toString maxSize) ++ py ")"))
      else .ok ()

/-- A final answer, from its status on. -/
def receive (maxSize : Nat) (url : PyStr) (response : Response) :
    Except TransportError (Bytes × PyStr × PyStr) :=
  if response.status < 200 ∨ 300 ≤ response.status then
    .error (.runtimeError (py "Download failed (HTTP " ++ py (toString response.status) ++ py ")"))
  else
    match net.checkLength maxSize response.contentLength with
    | .error error => .error error
    | .ok () =>
      match readBody maxSize response.ended [] response.chunks with
      | .error error => .error error
      | .ok data =>
        .ok (data, response.contentType.getD (py "application/octet-stream"),
          net.filename url response.contentDisposition)

/-- The rounds of `download_file`, with as many left as the range has. Where the world
ends, the time limit does. -/
def downloadRounds (guard : TransportPolicy) (policy : Option TransportPolicy) (maxSize : Nat) :
    Nat → PyStr → List Exchange → Download
  | 0, _, _ => ⟨[], .error (.runtimeError (py "Download failed (too many redirects)"))⟩
  | _ + 1, _, [] => ⟨[], .error (.timeoutError [])⟩
  | left + 1, url, exchange :: world =>
    if !exchange.inTime then ⟨[], .error (.timeoutError (py "Download failed (timeout)"))⟩
    else
      match net.validateDownloadUrl url policy with
      | .error error => ⟨[], .error error⟩
      | .ok () =>
        let request : Request := ⟨url, exchange.answers.flatMap (net.dial guard url)⟩
        match exchange.response with
        | .error error => ⟨[request], .error error⟩
        | .ok response =>
          if response.status ∈ downloadRedirectStatuses then
            if response.location.getD [] = [] ∨ left = 0 then
              ⟨[request], .error (.runtimeError (py "Download failed (invalid redirect)"))⟩
            else
              let next := net.urljoin url (response.location.getD [])
              match net.validateDownloadUrl next policy with
              | .error error => ⟨[request], .error error⟩
              | .ok () => (downloadRounds guard policy maxSize left next world).after request
          else ⟨[request], net.receive maxSize url response⟩

/-- `download_file` over a session whose connector has the policy `guard`. -/
def downloadFile (guard : TransportPolicy) (policy : Option TransportPolicy) (maxSize : Nat)
    (url : PyStr) (world : List Exchange) : Download :=
  net.downloadRounds guard policy maxSize (maxDownloadRedirects + 1) url world

end Net

end OctoChannel.Transport

import OctoChannel.Inbound.Labels
import OctoChannel.Transport.Permitted

namespace OctoChannel.Inbound.Attachments

open Foundation Transport Chats

/-- The fields of `urlparse(url)` that are read here; `port` raises where it is `none`. -/
structure MediaUrl where
  scheme : PyStr
  hostname : Option PyStr
  port : Option (Option Nat)

/-- The runtime, as far as downloads read it, and what they are built on: `guard` is the policy
of the connector below the session, `transportPolicy` the attribute of the session. -/
structure Downloader (Ip : Type) where
  net : Net Ip
  urlparse : PyStr → Option MediaUrl
  guard : Net.TransportPolicy
  httpSession : Bool
  transportPolicy : Option Net.TransportPolicy
  apiUrl : PyStr
  cdnUrl : PyStr
  botToken : PyStr
  resolver : Resolver
  isAlnum : CodePoint → Bool
  isAlnum_ascii : ∀ point : CodePoint, point.val < 0x80 →
    isAlnum point = Identity.isAsciiAlnum point
  lower : PyStr → PyStr
  formatSize : Int → PyStr
  decodeReplace : Bytes → PyStr

variable {Ip : Type} (loader : Downloader Ip)

def webScheme (scheme : PyStr) : Bool := scheme = py "http" || scheme = py "https"

/-- `_origin` of `_inbound_media_headers` -/
def origin (candidate : PyStr) : Option (PyStr × PyStr × Nat) :=
  match loader.urlparse candidate with
  | none => none
  | some parsed =>
    let scheme := lower parsed.scheme
    let hostname := lower (parsed.hostname.getD [])
    if ¬ webScheme scheme ∨ hostname = [] then none
    else parsed.port.map fun port =>
      (scheme, hostname, port.getD (if scheme = py "https" then 443 else 80))

/-- `_inbound_media_headers`: the value of `Authorization`, where there is one. -/
def inboundMediaHeaders (url : PyStr) : Option PyStr :=
  if url = [] ∨ loader.botToken = [] then none
  else
    match origin loader url with
    | none => none
    | some candidate =>
      if [loader.apiUrl, loader.cdnUrl].any fun configured =>
          origin loader configured = some candidate
      then some (py "Bearer " ++ loader.botToken)
      else none

/-- `_inbound_media_url_allowed` -/
def inboundMediaUrlAllowed (url : PyStr) : Bool :=
  match loader.urlparse url with
  | none => false
  | some parsed =>
    let hostname := lower (parsed.hostname.getD [])
    if parsed.port = none ∨ ¬ webScheme (lower parsed.scheme) ∨ hostname = [] then false
    else
      let untrusted := !loader.net.isPrivateOrMetadataHost hostname
      match loader.transportPolicy with
      | none => untrusted
      | some policy =>
        if loader.net.isDownloadEndpointTrusted policy url then
          loader.net.isDownloadUrlTrusted policy url
        else untrusted

/-- One `session.get`, with the addresses its connections go to. -/
structure MediaRequest where
  url : PyStr
  authorization : Option PyStr
  addresses : List PyStr

/-- What the world answers to one request, and how the disk takes what comes. -/
structure Try where
  answers : List Net.DnsAnswer
  response : Except TransportError Response
  uuid : PyStr
  opens : Bool
  /-- The bytes that there is room for; `none` is room enough. -/
  room : Option Nat
  unlinks : Bool

def requestFor (url : PyStr) (attempt : Try) : MediaRequest where
  url := url
  authorization := inboundMediaHeaders loader url
  addresses := attempt.answers.flatMap (loader.net.dial loader.guard url)

/-- The files of a directory, by path. -/
abbrev Files := Dict PyStr Bytes

/-- A piece of a body in parts of at most this size. -/
def parts (size : Nat) (piece : Bytes) : List Bytes :=
  if 0 < size ∧ size < piece.length then piece.take size :: parts size (piece.drop size)
  else [piece]
termination_by piece.length
decreasing_by
  rw [List.length_drop]
  omega

/-- `iter_chunked(size)` -/
def iterChunked (size : Nat) (pieces : List Bytes) : List Bytes := pieces.flatMap (parts size)

private theorem flatten_parts (size : Nat) (piece : Bytes) :
    (parts size piece).flatten = piece := by
  fun_induction parts size piece with
  | case1 piece long ih => rw [List.flatten_cons, ih, List.take_append_drop]
  | case2 piece short => exact List.append_nil piece

private theorem length_of_mem_parts {size : Nat} (positive : 0 < size) (piece : Bytes) :
    ∀ part ∈ parts size piece, part.length ≤ size := by
  fun_induction parts size piece with
  | case1 piece long ih =>
    rw [List.forall_mem_cons]
    exact ⟨List.length_take_le _ _, ih⟩
  | case2 piece short =>
    rw [List.forall_mem_singleton]
    omega

theorem flatten_iterChunked (size : Nat) (pieces : List Bytes) :
    (iterChunked size pieces).flatten = pieces.flatten := by
  induction pieces with
  | nil => rfl
  | cons piece rest ih =>
    rw [iterChunked, List.flatMap_cons, List.flatten_append, flatten_parts, List.flatten_cons]
    exact congrArg (piece ++ ·) ih

theorem length_of_mem_iterChunked {size : Nat} (positive : 0 < size) {pieces : List Bytes} :
    ∀ part ∈ iterChunked size pieces, part.length ≤ size := by
  intro part member
  obtain ⟨piece, _, inside⟩ := List.mem_flatMap.mp member
  exact length_of_mem_parts positive piece part inside

/-- How streaming a body to an open file ends, with what the file holds then. -/
inductive Streamed where
  | whole (data : Bytes)
  | tooLarge (total : Nat) (left : Bytes)
  | failed (error : TransportError) (left : Bytes)

def noSpace : TransportError := .osError (py "No space left on device")

/-- The loop over the chunks of a body. -/
def streamChunks (limit : Nat) (room : Option Nat) (ended : Except TransportError Unit) :
    Bytes → List Bytes → Streamed
  | data, [] =>
    match ended with
    | .ok () => .whole data
    | .error error => .failed error data
  | data, chunk :: rest =>
    let next := data ++ chunk
    if limit < next.length then .tooLarge next.length data
    else if room.any (· < next.length) then .failed noSpace (next.take (room.getD 0))
    else streamChunks limit room ended next rest

/-- Only a body that has come to its end is whole, and it is not above the limit. -/
theorem streamChunks_whole {limit : Nat} {room : Option Nat} {ended : Except TransportError Unit}
    {before : Bytes} {chunks : List Bytes} {data : Bytes}
    (streamed : streamChunks limit room ended before chunks = .whole data)
    (within : before.length ≤ limit) :
    data = before ++ chunks.flatten ∧ ended = .ok () ∧ data.length ≤ limit := by
  induction chunks generalizing before with
  | nil =>
    unfold streamChunks at streamed
    split at streamed
    · cases streamed
      exact ⟨(List.append_nil _).symm, rfl, within⟩
    · cases streamed
  | cons chunk rest ih =>
    rw [streamChunks] at streamed
    split_ifs at streamed with large full
    obtain ⟨same, whole, short⟩ := ih streamed (Nat.le_of_not_lt large)
    refine ⟨?_, whole, short⟩
    rw [same, List.flatten_cons, List.append_assoc]

/-- What a stream leaves in its file is not above the limit either. -/
theorem streamChunks_left {limit : Nat} {room : Option Nat} {ended : Except TransportError Unit}
    {before : Bytes} {chunks : List Bytes} (within : before.length ≤ limit) :
    match streamChunks limit room ended before chunks with
    | .whole data => data.length ≤ limit
    | .tooLarge _ left => left.length ≤ limit
    | .failed _ left => left.length ≤ limit := by
  induction chunks generalizing before with
  | nil =>
    cases ended with
    | ok finished => exact within
    | error error => exact within
  | cons chunk rest ih =>
    rw [streamChunks]
    split_ifs with large full
    · exact within
    · exact (List.length_take_le' _ _).trans (Nat.le_of_not_lt large)
    · exact ih (Nat.le_of_not_lt large)

def mediaTempDir : PyStr := py "/tmp/octo-media"
def mediaDownloadMaxBytes : Nat := 20 * 1024 * 1024

/-- `text.split(mark, 1)[-1]` -/
def behindFirst (mark : CodePoint) (text : PyStr) : PyStr :=
  if mark ∈ text then (text.dropWhile (· ≠ mark)).tail else text

/-- `text.split(mark, 1)[0]` -/
def beforeFirst (mark : CodePoint) (text : PyStr) : PyStr := text.takeWhile (· ≠ mark)

/-- The ending of a temporary file, from the MIME type or else from the address. -/
def mediaExtension (url : PyStr) (mime : Option PyStr) : PyStr :=
  let sub := beforeFirst (ch ';') (behindFirst (ch '/') (mime.getD []))
  if mime.getD [] ≠ [] ∧ sub ≠ [] then ch '.' :: (sub.filter loader.isAlnum).take 10
  else
    let urlPath := beforeFirst (ch '?') url
    match beforeLast (ch '.') urlPath with
    | none => []
    | some front =>
      ((urlPath.drop front.length).filter fun point =>
        loader.isAlnum point || point = ch '.').take 10

/-- `os.path.join` of a directory and a plain name. -/
def inDirectory (directory name : PyStr) : PyStr := directory ++ ch '/' :: name

def mediaPath (url : PyStr) (mime : Option PyStr) (uuid : PyStr) : PyStr :=
  inDirectory mediaTempDir (uuid ++ mediaExtension loader url mime)

/-- `os.unlink`, with its failure swallowed. -/
def unlink (files : Files) (path : PyStr) (goes : Bool) : Files :=
  if goes then files.erase path else files

/-- `_cleanup_temp_dir`: the old files that can be removed go. -/
def cleanupTempDir (files : Files) (old : PyStr → Bool) : Files :=
  files.filterKeys fun path => !old path

def success (status : Int) : Bool := 200 ≤ status && status < 300

/-- The exceptions that leave the handling of an attachment; nothing has been asked or changed
then. -/
inductive AttachmentFault where
  | name (fault : Fault)
  /-- The temporary directory is not there and cannot be made. -/
  | osError
  deriving DecidableEq

structure MediaResult where
  requests : List MediaRequest
  files : Files
  path : Option PyStr

/-- `_download_inbound_media_to_local`; `makes` is whether `os.makedirs` returns. -/
def downloadInboundMediaToLocal (makes : Bool) (files : Files) (old : PyStr → Bool) (url : PyStr)
    (mime : Option PyStr) (attempt : Try) : Except AttachmentFault MediaResult :=
  if ¬ loader.httpSession ∨ url = [] then .ok ⟨[], files, none⟩
  else if ¬ inboundMediaUrlAllowed loader url then .ok ⟨[], files, none⟩
  else if ¬ makes then .error .osError
  else
    let swept := cleanupTempDir files old
    let path := mediaPath loader url mime attempt.uuid
    let request := requestFor loader url attempt
    .ok <| match attempt.response with
    | .error _ => ⟨[request], unlink swept path attempt.unlinks, none⟩
    | .ok response =>
      if ¬ success response.status then ⟨[request], swept, none⟩
      else if ¬ attempt.opens then ⟨[request], unlink swept path attempt.unlinks, none⟩
      else
        match streamChunks mediaDownloadMaxBytes attempt.room response.ended []
            (iterChunked (64 * 1024) response.chunks) with
        | .whole data => ⟨[request], swept.set path data, some path⟩
        | .tooLarge _ left | .failed _ left =>
          ⟨[request], unlink (swept.set path left) path attempt.unlinks, none⟩

def fileInlineMaxBytes : Nat := 20 * 1024
def fileDownloadMaxBytes : Nat := 500 * 1024 * 1024
def fileTempDir : PyStr := py "/tmp/octo-files"

def textFileExts : List PyStr :=
  [".txt", ".md", ".markdown", ".rst", ".log", ".json", ".yaml", ".yml", ".toml", ".ini", ".cfg",
    ".conf", ".csv", ".tsv", ".tab", ".py", ".pyi", ".js", ".mjs", ".cjs", ".ts", ".tsx", ".jsx",
    ".go", ".rs", ".java", ".kt", ".swift", ".c", ".h", ".cc", ".cpp", ".hpp", ".cxx", ".rb",
    ".php", ".pl", ".lua", ".scala", ".clj", ".ex", ".exs", ".sh", ".bash", ".zsh", ".fish",
    ".ps1", ".bat", ".html", ".htm", ".xml", ".svg", ".css", ".scss", ".less", ".sql", ".graphql",
    ".proto", ".env", ".gitignore", ".dockerignore", ".diff", ".patch"].map py

/-- `("." + filename.rsplit(".", 1)[-1].lower()) if "." in filename else ""` -/
def fileExtension (filename : PyStr) : PyStr :=
  match beforeLast (ch '.') filename with
  | none => []
  | some front => ch '.' :: loader.lower (filename.drop (front.length + 1))

/-- The name under which a file is kept, behind the random part. A display name has no slash, so
that it is its own last part. -/
def safeChar (point : CodePoint) : CodePoint :=
  if loader.isAlnum point || point ∈ py "._-" then point else ch '_'

def safeName (filename : PyStr) : Except Fault PyStr :=
  let mapped := filename.map (safeChar loader)
  Resolver.truncateUtf8Filename (if mapped = [] then py "file" else mapped) (255 - 33)

/-- What a file came to. -/
inductive Resolved where
  | inlined (text : PyStr)
  | stored (size : Nat) (path : PyStr)
  | announcedTooLarge (size : Int)
  | foundTooLarge (total : Nat)
  | refused (status : Option Int)
  | gaveUp (lastError : Option PyStr)

/-- `_InboundFileResolution` -/
structure Resolution where
  content : PyStr
  localPath : Option PyStr

def limitLabel : PyStr := py "超过最大下载限制 (" ++ loader.formatSize fileDownloadMaxBytes ++ py ")]"

def resolution (filename : PyStr) (knownSize : Option Int) (resolved : Resolved) : Resolution :=
  let label := py "[文件: " ++ filename
  match resolved with
  | .inlined text =>
    ⟨label ++ py "]\n\n--- 文件内容 ---\n" ++ text ++ py "\n--- 文件结束 ---", none⟩
  | .stored size path =>
    ⟨label ++ py " (" ++ loader.formatSize size ++ py ") - 已下载到本地: " ++ path ++ py "]",
      some path⟩
  | .announcedTooLarge size =>
    ⟨label ++ py " (" ++ loader.formatSize size ++ py ") — " ++ limitLabel loader, none⟩
  | .foundTooLarge total =>
    ⟨label ++ py " (" ++ loader.formatSize total ++ py "+) — " ++ limitLabel loader, none⟩
  | .refused none => ⟨label ++ py " - 下载失败]", none⟩
  | .refused (some status) =>
    ⟨label ++ py " - 下载失败 HTTP " ++ Json.printInt status ++ py "]", none⟩
  | .gaveUp lastError =>
    let size := match knownSize with
      | some size => if size = 0 then [] else py " (" ++ loader.formatSize size ++ py ")"
      | none => []
    ⟨label ++ size ++ py " - " ++ lastError.getD (py "下载失败") ++ py "]", none⟩

/-- How far the first loop reads: the whole body, or a prefix above the bound and what follows. -/
def takeInline : Bytes → List Bytes → Bytes × Option (List Bytes)
  | data, [] => (data, none)
  | data, chunk :: rest =>
    let next := data ++ chunk
    if fileInlineMaxBytes < next.length then (next, some rest) else takeInline next rest

/-- One attempt: what it leaves, and what the file came to or the exception. -/
structure Attempted where
  files : Files
  ended : Except TransportError Resolved

/-- Streaming a response to the temporary file. -/
def storeFile (files : Files) (filename : PyStr) (attempt : Try) (response : Response)
    (before : Bytes) (chunks : List Bytes) : Attempted :=
  match safeName loader filename with
  | .error _ => ⟨files, .error .raised⟩
  | .ok name =>
    let path := inDirectory fileTempDir (attempt.uuid ++ ch '-' :: name)
    if ¬ attempt.opens then ⟨files, .error .raised⟩
    else if attempt.room.any (· < before.length) then
      ⟨files.set path (before.take (attempt.room.getD 0)), .error noSpace⟩
    else
      match streamChunks fileDownloadMaxBytes attempt.room response.ended before
          (iterChunked (64 * 1024) chunks) with
      | .whole data => ⟨files.set path data, .ok (.stored data.length path)⟩
      | .tooLarge total left =>
        ⟨unlink (files.set path left) path attempt.unlinks, .ok (.foundTooLarge total)⟩
      | .failed error left => ⟨files.set path left, .error error⟩

def inlineEligible (filename : PyStr) (knownSize : Option Int) : Bool :=
  fileExtension loader filename ∈ textFileExts &&
    knownSize.all fun size => size ≤ (fileInlineMaxBytes : Int)

/-- The body of the loop over the attempts. -/
def fileAttempt (files : Files) (filename : PyStr) (knownSize : Option Int) (attempt : Try) :
    Attempted :=
  match attempt.response with
  | .error error => ⟨files, .error error⟩
  | .ok response =>
    if 300 ≤ response.status ∧ response.status < 500 then
      ⟨files, .ok (.refused (some response.status))⟩
    else if ¬ success response.status then
      ⟨files, .error (.runtimeError (py "HTTP " ++ Json.printInt response.status))⟩
    else if inlineEligible loader filename knownSize then
      match takeInline [] (iterChunked 8192 response.chunks) with
      | (data, none) =>
        match response.ended with
        | .error error => ⟨files, .error error⟩
        | .ok () => ⟨files, .ok (.inlined ((utf8Decode data).getD (loader.decodeReplace data)))⟩
      | (data, some rest) => storeFile loader files filename attempt response data rest
    else storeFile loader files filename attempt response [] response.chunks

def failureText : TransportError → PyStr
  | .timeoutError _ => py "下载超时"
  | _ => py "下载失败"

structure Rounds where
  requests : List MediaRequest
  files : Files
  resolved : Resolved

/-- The loop over the attempts, with as many left as the range has. -/
def fileRounds (filename url : PyStr) (knownSize : Option Int) (world : Nat → Try) :
    Nat → Nat → Option PyStr → Files → Rounds
  | 0, _, lastError, files => ⟨[], files, .gaveUp lastError⟩
  | left + 1, number, _, files =>
    let request := requestFor loader url (world number)
    let attempted := fileAttempt loader files filename knownSize (world number)
    match attempted.ended with
    | .ok resolved => ⟨[request], attempted.files, resolved⟩
    | .error error =>
      let later := fileRounds filename url knownSize world left (number + 1)
        (some (failureText error)) attempted.files
      { later with requests := request :: later.requests }

def maxRetries : Nat := 3

structure FileResult where
  requests : List MediaRequest
  files : Files
  resolved : Resolved
  resolution : Resolution

/-- `_resolve_inbound_file` -/
def resolveInboundFile (makes : Bool) (files : Files) (old : PyStr → Bool) (url : PyStr)
    (name : Json) (knownSize : Option Int) (world : Nat → Try) :
    Except AttachmentFault FileResult :=
  match loader.resolver.inboundFileDisplayName name with
  | .error fault => .error (.name fault)
  | .ok filename =>
    let settled (requests : List MediaRequest) (files : Files) (resolved : Resolved) :
        Except AttachmentFault FileResult :=
      .ok ⟨requests, files, resolved, resolution loader filename knownSize resolved⟩
    if ¬ loader.httpSession ∨ url = [] ∨ ¬ inboundMediaUrlAllowed loader url then
      settled [] files (.refused none)
    else
      match knownSize.filter ((fileDownloadMaxBytes : Int) < ·) with
      | some size => settled [] files (.announcedTooLarge size)
      | none =>
        if ¬ makes then .error .osError
        else
          let rounds := fileRounds loader filename url knownSize world maxRetries 0 none
            (cleanupTempDir files old)
          settled rounds.requests rounds.files rounds.resolved

end OctoChannel.Inbound.Attachments

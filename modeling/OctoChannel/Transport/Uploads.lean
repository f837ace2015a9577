import OctoChannel.Foundation.Json
import OctoChannel.Foundation.Readers
import OctoChannel.Foundation.Traced
import OctoChannel.Transport.Reaching

/-! `upload_and_get_url`: the target that the server names for the bytes of a file, and the
`PUT` of these bytes behind a check of that target. -/

namespace OctoChannel.Transport

open Foundation

/-- The entries of a dict of headers, in their order. -/
abbrev Headers := List (PyStr × PyStr)

/-- `{key.lower(): value for ...}.get(name)`; no character beyond ASCII is lowered to a letter
of the names that are asked for. -/
def header? (name : PyStr) (headers : Headers) : Option PyStr :=
  (headers.reverse.find? fun header => lower header.1 = name).map Prod.snd

/-- A target as the server names it. -/
structure Presign where
  uploadUrl : PyStr
  downloadUrl : PyStr
  contentType : PyStr
  contentDisposition : Option PyStr
  headers : Headers

def presignFault (message : String) : PyStr :=
  py "Octo API /v1/bot/upload/presigned returned " ++ py message

def oneLine (text : PyStr) : Bool := ch '\r' ∉ text && ch '\n' ∉ text

/-- A header that is sent on. -/
def signedHeader : PyStr × Json → Option (PyStr × PyStr)
  | (key, .str text) => if key ≠ [] ∧ oneLine key ∧ oneLine text then some (key, text) else none
  | _ => none

def signedHeaders : Json → Option Headers
  | .null => some []
  | .obj members => members.mapM signedHeader
  | _ => none

/-- A text of the answer that is not empty. -/
def filledText (field : String) (data : List (PyStr × Json)) : Option PyStr :=
  match Json.field (py field) data with
  | .str (first :: rest) => some (first :: rest)
  | _ => none

/-- `get_upload_presign`, from its answer on. -/
def readPresign : Json → Except PyStr Presign
  | .obj data =>
    match signedHeaders (Json.field (py "headers") data) with
    | none => .error (presignFault "invalid signed headers")
    | some headers =>
      match filledText "uploadUrl" data, filledText "downloadUrl" data with
      | none, _ => .error (presignFault "incomplete response: missing uploadUrl")
      | _, none => .error (presignFault "incomplete response: missing downloadUrl")
      | some uploadUrl, some downloadUrl =>
        let signedType := ((header? (py "content-type") headers).filter (· ≠ [])).getD
          (py "application/octet-stream")
        let disposition := match Json.field (py "contentDisposition") data with
          | .str text => some text
          | _ => header? (py "content-disposition") headers
        .ok ⟨uploadUrl, downloadUrl, (filledText "contentType" data).getD signedType,
          disposition.filter (· ≠ []), headers⟩
  | _ => .error (presignFault "an invalid response")

/-- A header that is added where the signed ones have none of its name. -/
def openHeader (signed : Headers) (key : PyStr) (value : Option PyStr) : Headers :=
  if (header? (lower key) signed).isNone then value.toList.map fun text => (key, text) else []

/-- The headers of the `PUT`: the signed ones, and those that the server left open. -/
def putHeaders (presign : Presign) (fileData : Bytes) : Except PyStr Headers :=
  if presign.headers.any fun header =>
      header.1 = [] || !oneLine header.1 || !oneLine header.2 then
    .error (py "presigned headers must be safe strings")
  else
    let expectedLength := py (toString fileData.length)
    if (header? (py "content-length") presign.headers).any (· ≠ expectedLength) then
      .error (py "presigned Content-Length does not match file body")
    else
      .ok (presign.headers ++ openHeader presign.headers (py "Content-Length") expectedLength ++
        openHeader presign.headers (py "Content-Type") presign.contentType ++
        openHeader presign.headers (py "Content-Disposition") presign.contentDisposition)

/-- The requests of an upload, the `PUT` with the addresses its connections go to. -/
inductive UploadEvent where
  | presign (filename : PyStr) (fileSize : Nat) (contentType : Option PyStr)
  | put (url : PyStr) (addresses : List PyStr) (headers : Headers) (body : Bytes)

/-- What the world answers: the target, to name resolutions, and the status of the `PUT`. An
error is carried as its text. -/
structure UploadWorld where
  presigned : Except PyStr Json
  answers : List Net.DnsAnswer
  stored : Except PyStr Int

def UploadWorld.target (world : UploadWorld) : Except PyStr Presign :=
  world.presigned.bind readPresign

/-- The status that `put` came back with is one of success. -/
def UploadWorld.accepts (world : UploadWorld) : Except PyStr Unit :=
  match world.stored with
  | .error error => .error error
  | .ok status =>
    if 200 ≤ status ∧ status < 300 then .ok ()
    else .error (py "Presigned PUT upload failed (HTTP " ++ py (toString status) ++ py ")")

/-- `get_upload_presign` -/
def getUploadPresign (world : UploadWorld) (filename : PyStr) (fileSize : Nat)
    (contentType : PyStr) : Traced UploadEvent PyStr Presign :=
  if fileSize = 0 then Traced.fail (py "file_size must be a positive integer")
  else do
    Traced.emit (.presign filename fileSize (if contentType = [] then none else some contentType))
    Traced.ofExcept world.target

namespace Net

variable {Ip : Type} (net : Net Ip)

def unsafeUploadUrl : PyStr := py "unsafe presigned upload URL"

/-- `_validate_presigned_upload_origin` -/
def validatePresignedUploadOrigin (policy : Option TransportPolicy) (uploadUrl : PyStr) :
    Except PyStr Unit :=
  match net.urlparse uploadUrl with
  | none => .error unsafeUploadUrl
  | some parsed =>
    let host := (net.canonicalUrlHost uploadUrl).getD []
    let literal := net.canonicalDownloadIp host
    let trusted := policy.any fun policy => net.isDownloadUrlTrusted policy uploadUrl
    if (parsed.scheme ≠ py "http" ∧ parsed.scheme ≠ py "https") ∨ host = [] ∨
        parsed.username.isSome ∨ parsed.password.isSome then .error unsafeUploadUrl
    else if host ∈ downloadMetadataHosts ∨ literal.any fun ip => net.isLinkLocal ip ||
        net.isMulticast ip || net.isReserved ip || net.isUnspecified ip then
      .error unsafeUploadUrl
    else if (policy.any fun policy => net.isDownloadEndpointTrusted policy uploadUrl) &&
        !trusted then .error unsafeUploadUrl
    else if net.isPrivateOrMetadataHost host && !trusted then .error unsafeUploadUrl
    else .ok ()

/-- `upload_file_to_presigned_url`, over a session of its own. -/
def uploadFileToPresignedUrl (policy : Option TransportPolicy) (world : UploadWorld)
    (presign : Presign) (fileData : Bytes) : Traced UploadEvent PyStr PyStr := do
  Traced.ofExcept (net.validatePresignedUploadOrigin policy presign.uploadUrl)
  let headers ← Traced.ofExcept (putHeaders presign fileData)
  let guard := policy.getD (net.newPolicy [])
  Traced.emit (.put presign.uploadUrl
    (world.answers.flatMap (net.dial guard presign.uploadUrl)) headers fileData)
  Traced.ofExcept world.accepts
  return presign.downloadUrl

/-- `upload_and_get_url` -/
def uploadAndGetUrl (policy : Option TransportPolicy) (world : UploadWorld) (filename : PyStr)
    (fileData : Bytes) (contentType : PyStr) : Traced UploadEvent PyStr PyStr := do
  let presign ← getUploadPresign world filename fileData.length contentType
  Traced.ofExcept (net.validatePresignedUploadOrigin policy presign.uploadUrl)
  net.uploadFileToPresignedUrl policy world presign fileData

end Net

private theorem header?_value (name key : PyStr) (value : Option PyStr) :
    header? name (value.toList.map fun text => (key, text)) =
      if lower key = name then value else none := by
  cases value with
  | none => exact (ite_self _).symm
  | some text => by_cases same : lower key = name <;> simp [header?, same]

theorem header?_openHeader (name : PyStr) (signed : Headers) (key : PyStr)
    (value : Option PyStr) : header? name (openHeader signed key value) =
      if lower key = name ∧ header? name signed = none then value else none := by
  unfold openHeader
  by_cases absent : header? (lower key) signed = none
  · rw [absent, Option.isNone_none, if_pos rfl, header?_value]
    refine if_congr ?_ rfl rfl
    constructor
    · rintro rfl
      exact ⟨rfl, absent⟩
    · exact And.left
  · rw [if_neg fun none => absent (Option.isNone_iff_eq_none.mp none), if_neg]
    · rfl
    · rintro ⟨rfl, none⟩
      exact absent none

/-- The last header of a name counts. -/
theorem header?_append (name : PyStr) (front back : Headers) :
    header? name (front ++ back) = (header? name back).or (header? name front) := by
  rw [header?, List.reverse_append, List.find?_append, Option.map_or]
  rfl

/-- The signed headers are sent as they are, in front of others that tell the length and the
type of the body. -/
structure Signed (presign : Presign) (fileData : Bytes) (headers : Headers) : Prop where
  replayed : presign.headers <+: headers
  length : header? (py "content-length") headers = some (py (toString fileData.length))
  type : header? (py "content-type") headers =
    some ((header? (py "content-type") presign.headers).getD presign.contentType)

theorem signed_of_putHeaders {presign : Presign} {fileData : Bytes} {headers : Headers}
    (made : putHeaders presign fileData = .ok headers) : Signed presign fileData headers := by
  unfold putHeaders at made
  dsimp only at made
  split_ifs at made with unsafe' signed
  cases made
  have apart (name key : PyStr) (other : lower key ≠ name) (value : Option PyStr) :
      header? name (openHeader presign.headers key value) = none := by
    rw [header?_openHeader, if_neg fun both => other both.1]
  constructor
  · rw [List.append_assoc, List.append_assoc]
    exact List.prefix_append _ _
  · rw [header?_append, apart _ _ (by decide), Option.none_or, header?_append,
      apart _ _ (by decide), Option.none_or, header?_append, header?_openHeader]
    cases found : header? (py "content-length") presign.headers with
    | none => rw [if_pos ⟨by decide, rfl⟩, Option.some_or]
    | some stated =>
      have same : stated = py (toString fileData.length) := by
        simpa [found] using signed
      rw [same]
      rfl
  · rw [header?_append, apart _ _ (by decide), Option.none_or, header?_append,
      header?_openHeader, header?_append, apart _ _ (by decide), Option.none_or]
    cases found : header? (py "content-type") presign.headers with
    | none => rw [if_pos ⟨by decide, rfl⟩, Option.some_or, Option.getD_none]
    | some stated => rfl

variable {Ip : Type} {net : Net Ip} {policy : Option Net.TransportPolicy} {world : UploadWorld}
  {filename contentType : PyStr} {fileData : Bytes}

/-- The request for a target. -/
def askFor (filename : PyStr) (fileData : Bytes) (contentType : PyStr) : UploadEvent :=
  .presign filename fileData.length (if contentType = [] then none else some contentType)

/-- A target that the bytes may be sent to. -/
structure Target (net : Net Ip) (policy : Option Net.TransportPolicy) (world : UploadWorld)
    (presign : Presign) : Prop where
  named : world.target = .ok presign
  valid : net.validatePresignedUploadOrigin policy presign.uploadUrl = .ok ()

/-- How an upload goes: an empty file asks for nothing, a target that does not hold gets no
bytes, and the bytes are sent once. -/
inductive Uploading (net : Net Ip) (policy : Option Net.TransportPolicy) (world : UploadWorld)
    (filename : PyStr) (fileData : Bytes) (contentType : PyStr) :
    Traced UploadEvent PyStr PyStr → Prop where
  | empty (error : PyStr) (none : fileData = []) :
      Uploading net policy world filename fileData contentType ⟨[], .error error⟩
  | refused (error : PyStr) (filled : fileData ≠ [])
      (broken : ∀ presign headers, Target net policy world presign →
        putHeaders presign fileData ≠ .ok headers) :
      Uploading net policy world filename fileData contentType
        ⟨[askFor filename fileData contentType], .error error⟩
  | sent (presign : Presign) (headers : Headers) (filled : fileData ≠ [])
      (target : Target net policy world presign)
      (made : putHeaders presign fileData = .ok headers) :
      Uploading net policy world filename fileData contentType
        ⟨[askFor filename fileData contentType,
          .put presign.uploadUrl
            (world.answers.flatMap (net.dial (policy.getD (net.newPolicy [])) presign.uploadUrl))
            headers fileData],
          world.accepts.map fun _ => presign.downloadUrl⟩

theorem Target.unique {presign other : Presign} (target : Target net policy world presign)
    (again : Target net policy world other) : presign = other :=
  Except.ok.inj (target.named.symm.trans again.named)

theorem uploading (net : Net Ip) (policy : Option Net.TransportPolicy) (world : UploadWorld)
    (filename : PyStr) (fileData : Bytes) (contentType : PyStr) :
    Uploading net policy world filename fileData contentType
      (net.uploadAndGetUrl policy world filename fileData contentType) := by
  by_cases none : fileData = []
  · subst none
    exact .empty _ rfl
  · have filled : fileData.length ≠ 0 := fun length => none (List.length_eq_zero_iff.mp length)
    have asked : getUploadPresign world filename fileData.length contentType =
        ⟨[askFor filename fileData contentType], world.target⟩ := by
      rw [getUploadPresign, if_neg filled]
      rfl
    rw [Net.uploadAndGetUrl, asked]
    cases named : world.target with
    | error error =>
      refine .refused error none ?_
      intro presign headers target
      cases named.symm.trans target.named
    | ok presign =>
      rw [Traced.bind_ok, Net.uploadFileToPresignedUrl]
      cases valid : net.validatePresignedUploadOrigin policy presign.uploadUrl with
      | error error =>
        refine .refused error none ?_
        intro other headers target
        cases named.symm.trans target.named
        cases valid.symm.trans target.valid
      | ok =>
        have target : Target net policy world presign := ⟨named, valid⟩
        cases made : putHeaders presign fileData with
        | error error =>
          refine .refused error none ?_
          intro other headers again
          rw [← target.unique again, made]
          exact fun same => by cases same
        | ok headers =>
          have sent : Uploading net policy world filename fileData contentType _ :=
            .sent presign headers none target made
          cases stored : world.accepts with
          | error error =>
            rw [stored] at sent
            exact sent
          | ok =>
            rw [stored] at sent
            exact sent

/-- The world takes the bytes at a target that may get them. -/
structure Stores (net : Net Ip) (policy : Option Net.TransportPolicy) (world : UploadWorld)
    (fileData : Bytes) (presign : Presign) : Prop where
  filled : fileData ≠ []
  target : Target net policy world presign
  made : ∃ headers, putHeaders presign fileData = .ok headers
  accepted : world.accepts = .ok ()

theorem Uploading.result_iff {upload : Traced UploadEvent PyStr PyStr}
    (goes : Uploading net policy world filename fileData contentType upload) (url : PyStr) :
    upload.result = .ok url ↔
      ∃ presign, Stores net policy world fileData presign ∧ url = presign.downloadUrl := by
  cases goes with
  | empty error none => simpa using fun presign stores => absurd none (Stores.filled stores)
  | refused error filled broken =>
    simp only [reduceCtorEq, false_iff]
    rintro ⟨presign, stores, -⟩
    obtain ⟨headers, made⟩ := stores.made
    exact broken presign headers stores.target made
  | sent presign headers filled target made =>
    constructor
    · intro ended
      obtain ⟨_, accepted, same⟩ := ok_of_map ended
      exact ⟨presign, ⟨filled, target, ⟨headers, made⟩, accepted⟩, same.symm⟩
    · rintro ⟨other, stores, rfl⟩
      rw [stores.accepted, target.unique stores.target]
      rfl

/-- Bytes that were stored were sent. -/
theorem Uploading.put_of_stores {upload : Traced UploadEvent PyStr PyStr}
    (goes : Uploading net policy world filename fileData contentType upload) {presign : Presign}
    (stores : Stores net policy world fileData presign) : ∃ addresses headers,
      .put presign.uploadUrl addresses headers fileData ∈ upload.events := by
  cases goes with
  | empty error none => exact absurd none stores.filled
  | refused error filled broken =>
    obtain ⟨headers, made⟩ := stores.made
    exact absurd made (broken presign headers stores.target)
  | sent other headers filled target made =>
    obtain rfl := target.unique stores.target
    exact ⟨_, headers, List.mem_cons_of_mem _ (List.mem_singleton_self _)⟩

/-- Over everything that the servers answer, an upload asks for one target, sends the bytes
once and only to a target that passed the check, reaches nothing internal that is not
configured, and succeeds exactly when the target took the bytes. -/
structure UploadsGuarded (net : Net Ip) (policy : Option Net.TransportPolicy)
    (world : UploadWorld) (filename : PyStr) (fileData : Bytes) (contentType : PyStr)
    (upload : Traced UploadEvent PyStr PyStr) : Prop where
  goes : Uploading net policy world filename fileData contentType upload
  signed : ∀ url addresses headers body, .put url addresses headers body ∈ upload.events →
    ∃ presign, Target net policy world presign ∧ url = presign.uploadUrl ∧ body = fileData ∧
      Signed presign fileData headers
  reaches : ∀ url addresses headers body, .put url addresses headers body ∈ upload.events →
    ∀ address ∈ addresses, net.Reachable (policy.getD (net.newPolicy [])) url address
  stored : ∀ url, upload.result = .ok url ↔
    ∃ presign, Stores net policy world fileData presign ∧ url = presign.downloadUrl

theorem Uploading.put_mem {upload : Traced UploadEvent PyStr PyStr}
    (goes : Uploading net policy world filename fileData contentType upload) {url : PyStr}
    {addresses : List PyStr} {headers : Headers} {body : Bytes}
    (sent : .put url addresses headers body ∈ upload.events) :
    ∃ presign, Target net policy world presign ∧ url = presign.uploadUrl ∧ body = fileData ∧
      putHeaders presign fileData = .ok headers ∧ addresses =
        world.answers.flatMap (net.dial (policy.getD (net.newPolicy [])) url) := by
  cases goes with
  | empty error none => cases sent
  | refused error filled broken => simp [askFor] at sent
  | sent presign signed filled target made =>
    simp only [askFor, List.mem_cons, reduceCtorEq, UploadEvent.put.injEq, List.not_mem_nil,
      or_false, false_or] at sent
    obtain ⟨rfl, rfl, rfl, rfl⟩ := sent
    exact ⟨presign, target, rfl, rfl, made, rfl⟩

theorem upload_guarded (net : Net Ip) (lawful : net.Lawful)
    (trustedOrigins : Option (List PyStr)) (world : UploadWorld) (filename : PyStr)
    (fileData : Bytes) (contentType : PyStr) :
    let policy := trustedOrigins.map net.newPolicy
    UploadsGuarded net policy world filename fileData contentType
      (net.uploadAndGetUrl policy world filename fileData contentType) := by
  intro policy
  have goes := uploading net policy world filename fileData contentType
  have named : ∀ endpoint ∈ (policy.getD (net.newPolicy [])).trustedConnectionEndpoints,
      endpoint.1 ≠ [] := by
    cases trustedOrigins with
    | none => exact net.newPolicy_named []
    | some origins => exact net.newPolicy_named origins
  refine ⟨goes, ?_, ?_, goes.result_iff⟩
  · intro url addresses headers body sent
    obtain ⟨presign, target, there, whole, made, -⟩ := goes.put_mem sent
    exact ⟨presign, target, there, whole, signed_of_putHeaders made⟩
  · intro url addresses headers body sent address member
    obtain ⟨_, _, _, _, _, rfl⟩ := goes.put_mem sent
    obtain ⟨answer, -, dialled⟩ := List.mem_flatMap.mp member
    exact Net.reachable_of_dial lawful named dialled

def sampleUploadWorld : UploadWorld where
  presigned := .ok (.obj [(py "uploadUrl", .str (py "http://a.io")),
    (py "downloadUrl", .str (py "http://a.io/f"))])
  answers := [.ok [⟨some (py "::1")⟩]]
  stored := .ok 200

theorem sampleUpload_guarded :
    let policy := some (Net.sampleNet.newPolicy Net.sampleOrigins)
    let upload := Net.sampleNet.uploadAndGetUrl policy sampleUploadWorld (py "f") [1, 2] []
    UploadsGuarded Net.sampleNet policy sampleUploadWorld (py "f") [1, 2] [] upload ∧
      upload.result = .ok (py "http://a.io/f") :=
  ⟨upload_guarded Net.sampleNet Net.sampleNet_lawful (some Net.sampleOrigins) sampleUploadWorld
    (py "f") [1, 2] [], by decide +kernel⟩

end OctoChannel.Transport

import OctoChannel.Adapter.Replies
import OctoChannel.Inbound.Payload
import OctoChannel.Media.DataUri
import OctoChannel.Media.Dimensions
import OctoChannel.Media.LocalFiles
import OctoChannel.Transport.Uploads

namespace OctoChannel.Media

open Foundation Identity Transport Chats Mentions Rendering Adapter.Replies

def maxOutboundMediaBytes : Nat := 100 * 1024 * 1024
def maxMediaFilenameBytes : Nat := 255

inductive MediaField where
  | width
  | height
  | duration
  deriving DecidableEq

def MediaField.key : MediaField → PyStr
  | .width => py "width"
  | .height => py "height"
  | .duration => py "duration"

abbrev Members := List (PyStr × Json)

/-- What lies outside: the posts and mentions of replies, `str.lower`, the categories `Cc` and
`Cf`, equality of JSON values, the order in which Python walks the set of media fields, texts of
errors, and what disk and network do. -/
structure Outside (Ip : Type) where
  replies : Adapter.Replies.Outside
  net : Net Ip
  lower : PyStr → PyStr
  isControl : CodePoint → Bool
  equal : Json → Json → Bool
  fieldOrder : { order : List MediaField // order.Perm [.width, .height, .duration] }
  encodeError : PyStr → PyStr
  invalidChannelType : Json → PyStr
  transportText : TransportError → PyStr
  host : Host
  disk : Nat → Moment
  downloads : List Exchange
  upload : UploadWorld

variable {Ip : Type} (outside : Outside Ip)

def endsLoosely (text : PyStr) : Bool :=
  (py ".").isSuffixOf text || (py " ").isSuffixOf text

/-- `safe_media_filename`; a lone surrogate is an error. -/
def safeMediaFilename (value : PyStr) : Except PyStr (Option PyStr) :=
  if endsLoosely value then .ok none
  else
    let candidate := strip value
    if candidate = [] ∨ candidate ∈ [py ".", py ".."] ∨ ch '/' ∈ candidate ∨
        ch '\\' ∈ candidate ∨ candidate ≠ pathName candidate ∨
        candidate.any outside.isControl ∨ endsLoosely candidate then .ok none
    else
      match utf8Encode candidate with
      | none => .error (outside.encodeError candidate)
      | some encoded =>
        if maxMediaFilenameBytes < encoded.length then .ok none else .ok (some candidate)

/-- `_validated_media_filename` -/
def validatedMediaFilename (value : PyStr) : Except PyStr PyStr :=
  match safeMediaFilename outside value with
  | .error error => .error error
  | .ok none => .error (py "media filename is invalid")
  | .ok (some filename) => .ok filename

/-- `_MIME_MAP` -/
def mimeMap : List (PyStr × PyStr) :=
  [(".jpg", "image/jpeg"), (".jpeg", "image/jpeg"), (".png", "image/png"),
    (".gif", "image/gif"), (".webp", "image/webp"), (".svg", "image/svg+xml"),
    (".bmp", "image/bmp"), (".ico", "image/x-icon"), (".mp4", "video/mp4"),
    (".webm", "video/webm"), (".mov", "video/quicktime"), (".avi", "video/x-msvideo"),
    (".mkv", "video/x-matroska"), (".mp3", "audio/mpeg"), (".wav", "audio/wav"),
    (".ogg", "audio/ogg"), (".m4a", "audio/mp4"), (".aac", "audio/aac"), (".opus", "audio/opus"),
    (".pdf", "application/pdf"), (".zip", "application/zip"), (".doc", "application/msword"),
    (".docx", "application/vnd.openxmlformats-officedocument.wordprocessingml.document"),
    (".xls", "application/vnd.ms-excel"),
    (".xlsx", "application/vnd.openxmlformats-officedocument.spreadsheetml.sheet"),
    (".txt", "text/plain"), (".md", "text/markdown"), (".csv", "text/csv"),
    (".html", "text/html"), (".json", "application/json")].map fun entry =>
      (py entry.1, py entry.2)

/-- `os.path.splitext(filename)[1]`: dots at the front of the last part start no extension. -/
def extension (filename : PyStr) : PyStr :=
  let last := (filename.reverse.takeWhile (· ≠ ch '/')).reverse
  let bare := last.dropWhile (· = ch '.')
  if ch '.' ∈ bare then ch '.' :: (bare.reverse.takeWhile (· ≠ ch '.')).reverse else []

/-- `infer_content_type` -/
def inferContentType (filename : PyStr) : PyStr :=
  (mimeMap.lookup (outside.lower (extension filename))).getD (py "application/octet-stream")

/-- The fields of the metadata, as far as the media may have them. -/
abbrev MediaFields := MediaField → Option Int

def supplies (metadata : Members) (field : MediaField) : Bool :=
  metadata.any fun entry => entry.1 = field.key

/-- The loop over the fields that are given. -/
def readFields (mediaName : String) (metadata : Members) :
    List MediaField → Except PyStr MediaFields
  | [] => .ok fun _ => none
  | field :: rest =>
    match Json.field field.key metadata with
    | .int value =>
      match readFields mediaName metadata rest with
      | .error error => .error error
      | .ok fields => .ok (Function.update fields field (some value))
    | _ => .error (py mediaName ++ py " metadata " ++ field.key ++ py " must be an integer")

/-- `_media_metadata_fields`; the names of an error are in their order. -/
def mediaMetadataFields (metadata : Option Members) (allowed : List MediaField)
    (mediaName : String) : Except PyStr MediaFields :=
  let metadata := metadata.getD []
  let supplied := outside.fieldOrder.val.filter (supplies metadata)
  let unsupported := [.duration, .height, .width].filter fun field =>
    supplies metadata field && field ∉ allowed
  if unsupported ≠ [] then
    .error (py mediaName ++ py " does not support media metadata: " ++
      (py ", ").intercalate (unsupported.map MediaField.key))
  else readFields mediaName metadata supplied

/-- The keyword arguments of a media send; an absent `metadata` is null. -/
structure MediaKwargs where
  metadata : Json
  direct : MediaField → Option Json

/-- One round of the loop over the direct arguments. -/
def mergeField (kwargs : MediaKwargs) (metadata : Members) (field : MediaField) :
    Except PyStr Members :=
  match kwargs.direct field with
  | none => .ok metadata
  | some value =>
    if supplies metadata field ∧ ¬ outside.equal (Json.field field.key metadata) value then
      .error (py "conflicting media metadata for " ++ field.key)
    else .ok (Dict.assign field.key value metadata)

/-- `_merged_media_metadata` -/
def mergedMediaMetadata (kwargs : MediaKwargs) : Except PyStr (Option Members) :=
  match kwargs.metadata with
  | .null => merged []
  | .obj metadata => merged metadata
  | _ => .error (py "media metadata must be a dictionary")
where
  merged (metadata : Members) : Except PyStr (Option Members) :=
    ([.width, .height, .duration].foldlM (mergeField outside kwargs) metadata).map nonemptyList

/-- `ChannelType(metadata["channel_type"])`, of one that is truthy. -/
def readChannelType (metadata : Option Members) : Except PyStr (Option ChannelType) :=
  let value := Json.field (py "channel_type") (metadata.getD [])
  if truthy value then
    match [ChannelType.DM, .Group, .CommunityTopic].find? fun channelType =>
        outside.equal (.int channelType.code) value with
    | some channelType => .ok (some channelType)
    | none => .error (outside.invalidChannelType value)
  else .ok none

/-- The body of `send_media_message`. -/
structure MediaPost where
  channelId : PyStr
  channelType : ChannelType
  msgType : Inbound.MessageType
  url : PyStr
  name : Option PyStr
  size : Option Nat
  fields : MediaFields
  reply : Option PyStr
  clientMsgNo : PyStr
  onBehalfOf : Option PyStr

/-- The body of `send_rich_text_message` for a picture below its caption. -/
structure CaptionedImage where
  channelId : PyStr
  channelType : ChannelType
  text : PyStr
  url : PyStr
  width : Int
  height : Int
  plain : PyStr
  mention : Option MentionSidecar
  reply : Option PyStr
  clientMsgNo : PyStr
  onBehalfOf : Option PyStr

inductive MediaMessage where
  | media (post : MediaPost)
  | captioned (post : CaptionedImage)

def MediaMessage.url : MediaMessage → PyStr
  | .media post => post.url
  | .captioned post => post.url

/-- What a media send does, in the order in which it does it. -/
inductive MediaEvent where
  | download (request : Request)
  | upload (event : UploadEvent)
  | post (message : MediaMessage)
  | caption (request : SendRequest)

/-- A runtime, as far as media sends read it. -/
structure MediaSender (Names : Type) where
  sender : Sender Names
  /-- The policy of `_http_session`, and the one of a session for a download. -/
  transportPolicy : Option Net.TransportPolicy
  downloadPolicy : Net.TransportPolicy

def localText : LocalFault → PyStr
  | .valueError message | .permissionError message | .runtimeError message | .osError message =>
    message

def dataUriText : PyError → PyStr
  | .valueError message => py message
  | _ => []

/-- `_load_outbound_media` -/
def loadOutboundMedia (downloadPolicy : Net.TransportPolicy) (source : PyStr) :
    Traced MediaEvent PyStr DecodedMedia :=
  if py "data:" <+: source then
    Traced.ofExcept
      ((decodeMediaDataUri outside.lower source maxOutboundMediaBytes).mapError dataUriText)
  else if py "http://" <+: source ∨ py "https://" <+: source then
    let download := outside.net.downloadFile downloadPolicy (some downloadPolicy)
      maxOutboundMediaBytes source outside.downloads
    ⟨download.requests.map .download, (download.result.mapError outside.transportText).map
      fun (data, contentType, filename) => ⟨data, contentType, filename⟩⟩
  else
    let read := readAuthorizedLocalMedia outside.host outside.disk source maxOutboundMediaBytes
    Traced.ofExcept ((read.mapError localText).map fun (data, filename) =>
      ⟨data, inferContentType outside filename, filename⟩)

/-- `upload_and_get_url`, among the other steps of a send. -/
def uploadMedia (policy : Option Net.TransportPolicy) (filename : PyStr) (media : DecodedMedia) :
    Traced MediaEvent PyStr PyStr :=
  let upload := outside.net.uploadAndGetUrl policy outside.upload filename media.data
    media.contentType
  ⟨upload.events.map .upload, upload.result⟩

/-- `send_media_message`: the first request of a send. -/
def sendMediaMessage (envelop : Envelop) (msgType : Inbound.MessageType) (url : PyStr)
    (name : Option PyStr) (size : Option Nat) (fields : MediaFields) :
    Traced MediaEvent PyStr SendMessageResult :=
  if ((fields .width).isSome ∨ (fields .height).isSome) ∧
      msgType ∉ [Inbound.MessageType.Image, .GIF, .Video] then
    Traced.fail (py "width/height are not supported for media type " ++
      py (toString msgType.code))
  else if (fields .duration).isSome ∧ msgType ∉ [Inbound.MessageType.Voice, .Video] then
    Traced.fail (py "duration is not supported for media type " ++ py (toString msgType.code))
  else do
    Traced.emit (.post (.media {
      channelId := envelop.channelId
      channelType := envelop.channelType
      msgType := msgType
      url := url
      name := given name
      size := size
      fields := fields
      reply := given envelop.replyTo
      clientMsgNo := outside.replies.uuid4 0
      onBehalfOf := given envelop.onBehalfOf }))
    Traced.ofExcept (receiptFor outside.replies 0)

/-- The caption as a message of its own, behind the media. -/
def sendCaption (envelop : Envelop) : Option PreparedText → Traced MediaEvent PyStr Unit
  | none => pure ()
  | some prepared => do
    Traced.emit (.caption (requestFor outside.replies envelop 1 prepared))
    let _ ← Traced.ofExcept (receiptFor outside.replies 1)

/-- The caption with its mentions, where one is given. -/
def prepareCaption (channelType : ChannelType) (caption : Option PyStr) : Option PreparedText :=
  (given caption).map fun caption =>
    prepareOutboundMentions outside.replies.words
      (mentionUidAllowlist outside.replies channelType) caption none

def envelopFor {Names : Type} (sender : Sender Names) (chatId : PyStr) (channelType : ChannelType)
    (replyTo : Option PyStr) : Envelop where
  channelId := sender.caches.outboundChannelId outside.replies.digits chatId channelType
  channelType := channelType
  replyTo := replyTo
  onBehalfOf := sender.onBehalfOf

/-- What sets a send of a file apart from the others. -/
structure MediaKind where
  msgType : Inbound.MessageType
  allowed : List MediaField
  mediaName : String
  sized : Bool

def documentKind : MediaKind := ⟨.File, [], "file", true⟩
def voiceKind : MediaKind := ⟨.Voice, [.duration], "voice", false⟩
def videoKind : MediaKind := ⟨.Video, [.width, .height, .duration], "video", false⟩

variable {Names : Type} (runtime : MediaSender Names)

/-- The `try` block of a send that shows a file under its name. -/
def sendFile (kind : MediaKind) (chatId path : PyStr) (caption fileName : Option PyStr)
    (replyTo : Option PyStr) (kwargs : MediaKwargs) :
    Traced MediaEvent PyStr SendMessageResult := do
  let explicitName ← Traced.ofExcept (fileName.mapM (validatedMediaFilename outside))
  let metadata ← Traced.ofExcept (mergedMediaMetadata outside kwargs)
  let explicit ← Traced.ofExcept (readChannelType outside metadata)
  let channelType := runtime.sender.caches.resolveChannelType chatId explicit
  let fields ← Traced.ofExcept
    (mediaMetadataFields outside metadata kind.allowed kind.mediaName)
  let envelop := envelopFor outside runtime.sender chatId channelType replyTo
  let prepared := prepareCaption outside channelType caption
  let media ← loadOutboundMedia outside runtime.downloadPolicy path
  let filename ← Traced.ofExcept
    (validatedMediaFilename outside (explicitName.getD media.filename))
  let url ← uploadMedia outside runtime.transportPolicy filename media
  let size := if kind.sized then some media.data.length else none
  let receipt ← sendMediaMessage outside envelop kind.msgType url (some filename) size fields
  sendCaption outside envelop prepared
  return receipt

/-- A size that may be shown: `if caption and width and height`. -/
def shownSize (fields : MediaFields) : Option (Int × Int) :=
  match (fields .width).filter (· ≠ 0), (fields .height).filter (· ≠ 0) with
  | some width, some height => some (width, height)
  | _, _ => none

/-- The size that the bytes tell, where the metadata do not. -/
def withDimensions (media : DecodedMedia) (fields : MediaFields) : MediaFields :=
  match parseImageDimensions media.data media.contentType with
  | none => fields
  | some (width, height) => fun field =>
    match field with
    | .width => (fields .width).or (some width)
    | .height => (fields .height).or (some height)
    | .duration => fields .duration

/-- `send_rich_text_message` of a picture below its caption. -/
def sendCaptionedImage (envelop : Envelop) (prepared : PreparedText) (url : PyStr)
    (size : Int × Int) : Traced MediaEvent PyStr SendMessageResult := do
  Traced.emit (.post (.captioned {
    channelId := envelop.channelId
    channelType := envelop.channelType
    text := prepared.content
    url := url
    width := size.1
    height := size.2
    plain := prepared.content ++ richTextImagePlaceholder
    mention := mentionOf prepared
    reply := given envelop.replyTo
    clientMsgNo := outside.replies.uuid4 0
    onBehalfOf := given envelop.onBehalfOf }))
  Traced.ofExcept (receiptFor outside.replies 0)

/-- The `try` block of `send_image`. -/
def sendPicture (channelType : ChannelType) (chatId imageUrl : PyStr) (caption : Option PyStr)
    (replyTo : Option PyStr) (metadata : Option Members) :
    Traced MediaEvent PyStr SendMessageResult := do
  let fields ← Traced.ofExcept
    (mediaMetadataFields outside metadata [.width, .height] "image")
  let envelop := envelopFor outside runtime.sender chatId channelType replyTo
  let prepared := prepareCaption outside channelType caption
  let media ← loadOutboundMedia outside runtime.downloadPolicy imageUrl
  let filename ← Traced.ofExcept (validatedMediaFilename outside media.filename)
  let fields := withDimensions media fields
  let url ← uploadMedia outside runtime.transportPolicy filename media
  match prepared, shownSize fields with
  | some prepared, some size => sendCaptionedImage outside envelop prepared url size
  | prepared, _ => do
    let receipt ← sendMediaMessage outside envelop .Image url none none fields
    sendCaption outside envelop prepared
    return receipt

structure MediaSent where
  events : List MediaEvent
  result : SendResult

/-- What a `try` block is reported as. -/
def reported (traced : Traced MediaEvent PyStr SendMessageResult) : MediaSent :=
  ⟨traced.events,
    match traced.result with
    | .ok receipt => deliveryResult receipt
    | .error error => .failed (sanitizeErrorText outside.replies.wording (.str error)) false⟩

def notConnected : MediaSent := ⟨[], .failed (py "Not connected") false⟩

/-- `send_document` -/
def sendDocument (chatId filePath : PyStr) (caption fileName replyTo : Option PyStr)
    (kwargs : MediaKwargs) : MediaSent :=
  if runtime.sender.httpSession then
    reported outside
      (sendFile outside runtime documentKind chatId filePath caption fileName replyTo kwargs)
  else notConnected

/-- `send_voice` -/
def sendVoice (chatId audioPath : PyStr) (caption replyTo : Option PyStr)
    (kwargs : MediaKwargs) : MediaSent :=
  if runtime.sender.httpSession then
    reported outside
      (sendFile outside runtime voiceKind chatId audioPath caption none replyTo kwargs)
  else notConnected

/-- `send_video` -/
def sendVideo (chatId videoPath : PyStr) (caption replyTo : Option PyStr)
    (kwargs : MediaKwargs) : MediaSent :=
  if runtime.sender.httpSession then
    reported outside
      (sendFile outside runtime videoKind chatId videoPath caption none replyTo kwargs)
  else notConnected

/-- `send_image`; the channel type is read before its `try` block, so that one that is not known
escapes as an error. -/
def sendImage (chatId imageUrl : PyStr) (caption replyTo : Option PyStr)
    (metadata : Option Members) : Except PyStr MediaSent :=
  if runtime.sender.httpSession then
    match readChannelType outside metadata with
    | .error error => .error error
    | .ok explicit =>
      let channelType := runtime.sender.caches.resolveChannelType chatId explicit
      .ok (reported outside
        (sendPicture outside runtime channelType chatId imageUrl caption replyTo metadata))
  else .ok notConnected

/-- A call of one of the four sends, with its arguments. -/
inductive MediaCall where
  | image (chatId imageUrl : PyStr) (caption replyTo : Option PyStr)
      (metadata : Option Members)
  | document (chatId filePath : PyStr) (caption fileName replyTo : Option PyStr)
      (kwargs : MediaKwargs)
  | voice (chatId audioPath : PyStr) (caption replyTo : Option PyStr) (kwargs : MediaKwargs)
  | video (chatId videoPath : PyStr) (caption replyTo : Option PyStr) (kwargs : MediaKwargs)

namespace MediaCall

def source : MediaCall → PyStr
  | image _ source _ _ _ | document _ source _ _ _ _ | voice _ source _ _ _
  | video _ source _ _ _ => source

def caption : MediaCall → Option PyStr
  | image _ _ caption _ _ | document _ _ caption _ _ _ | voice _ _ caption _ _
  | video _ _ caption _ _ => caption

/-- The call as it runs; an error escapes it. -/
def run (outside : Outside Ip) (runtime : MediaSender Names) : MediaCall → Except PyStr MediaSent
  | image chatId imageUrl caption replyTo metadata =>
    sendImage outside runtime chatId imageUrl caption replyTo metadata
  | document chatId filePath caption fileName replyTo kwargs =>
    .ok (sendDocument outside runtime chatId filePath caption fileName replyTo kwargs)
  | voice chatId audioPath caption replyTo kwargs =>
    .ok (sendVoice outside runtime chatId audioPath caption replyTo kwargs)
  | video chatId videoPath caption replyTo kwargs =>
    .ok (sendVideo outside runtime chatId videoPath caption replyTo kwargs)

end MediaCall

end OctoChannel.Media

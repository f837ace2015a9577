import OctoChannel.Media.Sending

/-! A media message shows what was uploaded for it, and nothing is uploaded but the bytes of its
source: over all answers of disk and network. -/

namespace OctoChannel.Media

open Foundation Transport Chats Mentions Adapter.Replies

variable {Ip : Type} {outside : Outside Ip} {Names : Type} {runtime : MediaSender Names}

/-- A file name that can be shown. -/
structure SafeFilename (outside : Outside Ip) (name : PyStr) : Prop where
  filled : name ≠ []
  plain : name ∉ [py ".", py ".."]
  flat : ch '/' ∉ name ∧ ch '\\' ∉ name
  visible : name.any outside.isControl = false
  short : ∃ encoded, utf8Encode name = some encoded ∧ encoded.length ≤ maxMediaFilenameBytes

theorem safeFilename_of_validated {value name : PyStr}
    (validated : validatedMediaFilename outside value = .ok name) :
    SafeFilename outside name := by
  unfold validatedMediaFilename safeMediaFilename at validated
  split at validated
  · cases validated
  · cases validated
  · rename_i candidate accepted
    cases validated
    split at accepted
    · cases accepted
    · dsimp only at accepted
      split at accepted
      · cases accepted
      · rename_i harmless
        split at accepted
        · cases accepted
        · rename_i encoded spelled
          split at accepted
          · cases accepted
          · rename_i short
            cases accepted
            simp only [not_or, Bool.not_eq_true] at harmless
            obtain ⟨filled, plain, slash, backslash, -, visible, -⟩ := harmless
            exact ⟨filled, plain, ⟨slash, backslash⟩, visible, encoded, spelled,
              not_lt.mp short⟩

/-- The bytes that a source stands for. -/
inductive Loads (outside : Outside Ip) (downloadPolicy : Net.TransportPolicy) (source : PyStr)
    (media : DecodedMedia) : Prop where
  | decoded
      (decoded : decodeMediaDataUri outside.lower source maxOutboundMediaBytes = .ok media)
  | downloaded (data : Bytes) (contentType filename : PyStr)
      (received : (outside.net.downloadFile downloadPolicy (some downloadPolicy)
        maxOutboundMediaBytes source outside.downloads).result =
          .ok (data, contentType, filename))
      (same : media = ⟨data, contentType, filename⟩)
  | read (candidate : PyStr) (file : FileId)
      (authorized : Authorizes outside.host source candidate)
      (pinned : Pinned outside.disk candidate maxOutboundMediaBytes file media.data)

theorem ok_of_mapError {Error Other Value : Type} {text : Error → Other}
    {result : Except Error Value} {value : Value} (mapped : result.mapError text = .ok value) :
    result = .ok value := by
  cases result with
  | error error => cases mapped
  | ok other =>
    cases mapped
    rfl

theorem loads_of_load {downloadPolicy : Net.TransportPolicy} {source : PyStr}
    {media : DecodedMedia}
    (loaded : (loadOutboundMedia outside downloadPolicy source).result = .ok media) :
    Loads outside downloadPolicy source media := by
  unfold loadOutboundMedia at loaded
  split_ifs at loaded with data web
  · exact .decoded (ok_of_mapError loaded)
  · obtain ⟨⟨data, contentType, filename⟩, received, rfl⟩ := ok_of_map loaded
    exact .downloaded data contentType filename (ok_of_mapError received) rfl
  · obtain ⟨⟨data, filename⟩, read, rfl⟩ := ok_of_map loaded
    obtain ⟨candidate, file, through, -, pinned⟩ :=
      readAuthorizedLocalMedia_ok (ok_of_mapError read)
    exact .read candidate file through pinned

/-- Loading asks for nothing but the hops of a download. -/
theorem downloads_of_load (outside : Outside Ip) (downloadPolicy : Net.TransportPolicy)
    (source : PyStr) :
    ∃ requests : List Request,
      (loadOutboundMedia outside downloadPolicy source).events = requests.map .download := by
  unfold loadOutboundMedia
  split_ifs with data web
  · exact ⟨[], rfl⟩
  · exact ⟨_, rfl⟩
  · exact ⟨[], rfl⟩

def MediaEvent.isDownload : MediaEvent → Bool
  | .download _ => true
  | _ => false

/-- A message in the chat. -/
def MediaEvent.isMessage : MediaEvent → Bool
  | .post _ | .caption _ => true
  | _ => false

/-- The bytes of the source were stored where the URL reads them. -/
structure Shows (outside : Outside Ip) (runtime : MediaSender Names) (source url : PyStr)
    (done : List MediaEvent) (media : DecodedMedia) : Prop where
  loads : Loads outside runtime.downloadPolicy source media
  stored : ∃ presign addresses headers,
    .upload (.put presign.uploadUrl addresses headers media.data) ∈ done ∧
      Stores outside.net runtime.transportPolicy outside.upload media.data presign ∧
        url = presign.downloadUrl

/-- The metadata that a message of its type may have, the name and the size of its file, and the
caption that stands above a picture. -/
def MediaMessage.Fits (outside : Outside Ip) (caption : Option PyStr) (media : DecodedMedia) :
    MediaMessage → Prop
  | .media post => (∀ name, post.name = some name → SafeFilename outside name) ∧
      (∀ size, post.size = some size → size = media.data.length) ∧
      (((post.fields .width).isSome ∨ (post.fields .height).isSome) →
        post.msgType ∈ [Inbound.MessageType.Image, .GIF, .Video]) ∧
      ((post.fields .duration).isSome → post.msgType ∈ [Inbound.MessageType.Voice, .Video])
  | .captioned post => post.width ≠ 0 ∧ post.height ≠ 0 ∧
      ∃ prepared, prepareCaption outside post.channelType caption = some prepared ∧
        post.text = prepared.content ∧ post.mention = mentionOf prepared

def MediaMessage.chat : MediaMessage → PyStr × Identity.ChannelType
  | .media post => (post.channelId, post.channelType)
  | .captioned post => (post.channelId, post.channelType)

/-- What makes an event of a send permitted, behind what was done before it. -/
def Permits (outside : Outside Ip) (runtime : MediaSender Names) (source : PyStr)
    (caption : Option PyStr) (done : List MediaEvent) : MediaEvent → Prop
  | .download _ => done.all MediaEvent.isDownload = true
  | .upload (.presign name size _) => done.all MediaEvent.isDownload = true ∧
      SafeFilename outside name ∧ ∃ media, Loads outside runtime.downloadPolicy source media ∧
        media.data ≠ [] ∧ size = media.data.length
  | .upload (.put url _ headers body) => ∃ media presign name contentType,
      Loads outside runtime.downloadPolicy source media ∧ body = media.data ∧
        .upload (askFor name body contentType) ∈ done ∧
          (∀ event ∈ done, event.isMessage = false) ∧
          Target outside.net runtime.transportPolicy outside.upload presign ∧
            url = presign.uploadUrl ∧ Signed presign body headers
  | .post message => (∀ event ∈ done, event.isMessage = false) ∧
      ∃ media, Shows outside runtime source message.url done media ∧
        message.Fits outside caption media
  | .caption request => ∃ message prepared envelop, .post message ∈ done ∧
      (∀ other, .caption other ∉ done) ∧ Accepted outside.replies 0 ∧
        message.chat = (envelop.channelId, envelop.channelType) ∧
          prepareCaption outside envelop.channelType caption = some prepared ∧
            request = requestFor outside.replies envelop 1 prepared

variable {source : PyStr} {caption : Option PyStr} {done : List MediaEvent}

theorem isMessage_of_isDownload {event : MediaEvent} (download : event.isDownload = true) :
    event.isMessage = false := by
  cases event with
  | download request => rfl
  | upload event => cases download
  | post message => cases download
  | caption request => cases download

theorem all_load (outside : Outside Ip) (downloadPolicy : Net.TransportPolicy)
    (source : PyStr) :
    (loadOutboundMedia outside downloadPolicy source).events.all MediaEvent.isDownload = true := by
  obtain ⟨requests, same⟩ := downloads_of_load outside downloadPolicy source
  rw [same]
  simp [MediaEvent.isDownload]

private theorem guarded_downloads (requests : List Request)
    (early : done.all MediaEvent.isDownload = true) :
    Traced.Guarded (Permits outside runtime source caption) done (requests.map .download) := by
  induction requests generalizing done with
  | nil => trivial
  | cons request rest ih =>
    refine ⟨early, ih ?_⟩
    rw [List.all_append, early]
    rfl

theorem guarded_load (downloadPolicy : Net.TransportPolicy) :
    Traced.Guarded (Permits outside runtime source caption) []
      (loadOutboundMedia outside downloadPolicy source).events := by
  obtain ⟨requests, same⟩ := downloads_of_load outside downloadPolicy source
  rw [same]
  exact guarded_downloads requests rfl

variable {filename : PyStr} {media : DecodedMedia}

theorem guarded_upload (loads : Loads outside runtime.downloadPolicy source media)
    (safe : SafeFilename outside filename) (early : done.all MediaEvent.isDownload = true) :
    Traced.Guarded (Permits outside runtime source caption) done
      (uploadMedia outside runtime.transportPolicy filename media).events := by
  have goes := uploading outside.net runtime.transportPolicy outside.upload filename media.data
    media.contentType
  have silent : ∀ event ∈ done, event.isMessage = false := fun event member =>
    isMessage_of_isDownload (List.all_eq_true.mp early event member)
  unfold uploadMedia
  dsimp only
  generalize outside.net.uploadAndGetUrl runtime.transportPolicy outside.upload filename
    media.data media.contentType = upload at goes
  cases goes with
  | empty error none => trivial
  | refused error filled broken =>
    exact ⟨⟨early, safe, media, loads, filled, rfl⟩, trivial⟩
  | sent presign headers filled target made =>
    refine ⟨⟨early, safe, media, loads, filled, rfl⟩, ?_, trivial⟩
    refine ⟨media, presign, filename, media.contentType, loads, rfl,
      List.mem_append_right _ (List.mem_singleton_self _), ?_, target, rfl,
      signed_of_putHeaders made⟩
    intro event member
    rcases List.mem_append.mp member with old | new
    · exact silent event old
    · rw [List.mem_singleton.mp new]
      rfl

/-- An upload that went through has its bytes where its URL reads them. -/
theorem shows_of_upload (done : List MediaEvent)
    (loads : Loads outside runtime.downloadPolicy source media)
    {url : PyStr}
    (uploaded : (uploadMedia outside runtime.transportPolicy filename media).result = .ok url) :
    Shows outside runtime source url
      (done ++ (uploadMedia outside runtime.transportPolicy filename media).events) media := by
  have goes := uploading outside.net runtime.transportPolicy outside.upload filename media.data
    media.contentType
  obtain ⟨presign, stores, rfl⟩ := (goes.result_iff url).mp uploaded
  obtain ⟨addresses, headers, sent⟩ := goes.put_of_stores stores
  exact ⟨loads, presign, addresses, headers,
    List.mem_append_right _ (List.mem_map_of_mem sent), stores, rfl⟩

theorem silent_upload (policy : Option Net.TransportPolicy) (filename : PyStr)
    (media : DecodedMedia) :
    ∀ event ∈ (uploadMedia outside policy filename media).events, event.isMessage = false := by
  intro event member
  obtain ⟨_, -, rfl⟩ := List.mem_map.mp member
  rfl

theorem silent_load (outside : Outside Ip) (downloadPolicy : Net.TransportPolicy) (source : PyStr) :
    ∀ event ∈ (loadOutboundMedia outside downloadPolicy source).events,
      event.isMessage = false := fun event member =>
  isMessage_of_isDownload
    (List.all_eq_true.mp (all_load outside downloadPolicy source) event member)

private theorem guarded_sendMediaMessage {envelop : Envelop} {msgType : Inbound.MessageType}
    {url : PyStr} {name : Option PyStr} {size : Option Nat} {fields : MediaFields}
    (silent : ∀ event ∈ done, event.isMessage = false)
    (shows : Shows outside runtime source url done media)
    (named : ∀ text, name = some text → SafeFilename outside text)
    (sized : ∀ count, size = some count → count = media.data.length) :
    Traced.Guarded (Permits outside runtime source caption) done
      (sendMediaMessage outside envelop msgType url name size fields).events := by
  unfold sendMediaMessage
  split
  · trivial
  · rename_i dimensioned
    split
    · trivial
    · rename_i timed
      rw [Traced.guarded_bind_emit]
      refine ⟨⟨silent, media, shows, ?_, sized, ?_, ?_⟩, trivial⟩
      · intro text kept
        exact named text (Option.filter_eq_some_iff.mp kept).1
      · exact fun some => not_not.mp fun other => dimensioned ⟨some, other⟩
      · exact fun some => not_not.mp fun other => timed ⟨some, other⟩

/-- A message that its checks let through is sent, and answered by the server. -/
theorem sendMediaMessage_cases (outside : Outside Ip) (envelop : Envelop)
    (msgType : Inbound.MessageType) (url : PyStr) (name : Option PyStr) (size : Option Nat)
    (fields : MediaFields) :
    (∃ error, sendMediaMessage outside envelop msgType url name size fields =
        ⟨[], .error error⟩) ∨
      ∃ post : MediaPost,
        (post.channelId, post.channelType) = (envelop.channelId, envelop.channelType) ∧
          sendMediaMessage outside envelop msgType url name size fields =
            ⟨[.post (.media post)], receiptFor outside.replies 0⟩ := by
  unfold sendMediaMessage
  split
  · exact .inl ⟨_, rfl⟩
  · split
    · exact .inl ⟨_, rfl⟩
    · exact .inr ⟨_, rfl, rfl⟩

private theorem sendCaption_some (envelop : Envelop) (prepared : PreparedText) :
    sendCaption outside envelop (some prepared) =
      ⟨[.caption (requestFor outside.replies envelop 1 prepared)],
        (receiptFor outside.replies 1).map fun _ => ()⟩ := by
  rw [sendCaption]
  cases receiptFor outside.replies 1 <;> rfl

private theorem guarded_sendCaption {envelop : Envelop} {message : MediaMessage}
    (posted : .post message ∈ done) (first : ∀ other, .caption other ∉ done)
    (accepted : Accepted outside.replies 0)
    (chat : message.chat = (envelop.channelId, envelop.channelType)) :
    Traced.Guarded (Permits outside runtime source caption) done
      (sendCaption outside envelop
        (prepareCaption outside envelop.channelType caption)).events := by
  cases prepared : prepareCaption outside envelop.channelType caption with
  | none => trivial
  | some text =>
    rw [sendCaption, Traced.guarded_bind_emit]
    refine ⟨⟨message, text, envelop, posted, first, accepted, chat, prepared, rfl⟩, ?_⟩
    rw [Traced.guarded_bind_ofExcept]
    exact fun _ _ => trivial

/-- A message, and its caption behind it. -/
theorem guarded_captioned {envelop : Envelop} {msgType : Inbound.MessageType}
    {url : PyStr} {name : Option PyStr} {size : Option Nat} {fields : MediaFields}
    (silent : ∀ event ∈ done, event.isMessage = false)
    (shows : Shows outside runtime source url done media)
    (named : ∀ text, name = some text → SafeFilename outside text)
    (sized : ∀ count, size = some count → count = media.data.length) :
    Traced.Guarded (Permits outside runtime source caption) done
      (do
        let receipt ← sendMediaMessage outside envelop msgType url name size fields
        sendCaption outside envelop (prepareCaption outside envelop.channelType caption)
        return receipt : Traced MediaEvent PyStr SendMessageResult).events := by
  rw [Traced.guarded_bind]
  refine ⟨guarded_sendMediaMessage silent shows named sized, ?_⟩
  intro receipt sent
  obtain ⟨error, refused⟩ | ⟨post, chat, posts⟩ :=
    sendMediaMessage_cases outside envelop msgType url name size fields
  · rw [refused] at sent
    cases sent
  · rw [posts] at sent ⊢
    rw [Traced.guarded_bind]
    refine ⟨?_, fun _ _ => trivial⟩
    have posted : .post (.media post) ∈ done ++ [.post (.media post)] :=
      List.mem_append_right _ (List.mem_singleton_self _)
    refine guarded_sendCaption posted ?_ ⟨receipt, sent⟩ chat
    intro other member
    rcases List.mem_append.mp member with old | new
    · cases silent _ old
    · cases List.mem_singleton.mp new

private theorem guarded_sendFile (kind : MediaKind) (chatId path : PyStr)
    (caption fileName replyTo : Option PyStr) (kwargs : MediaKwargs) :
    Traced.Guarded (Permits outside runtime path caption) []
      (sendFile outside runtime kind chatId path caption fileName replyTo kwargs).events := by
  unfold sendFile
  rw [Traced.guarded_bind_ofExcept]
  intro explicitName _
  rw [Traced.guarded_bind_ofExcept]
  intro metadata _
  rw [Traced.guarded_bind_ofExcept]
  intro explicit _
  dsimp only
  rw [Traced.guarded_bind_ofExcept]
  intro fields _
  rw [Traced.guarded_bind]
  refine ⟨guarded_load _, ?_⟩
  intro media loaded
  have loads := loads_of_load loaded
  rw [List.nil_append, Traced.guarded_bind_ofExcept]
  intro filename validated
  have safe := safeFilename_of_validated validated
  have silent := silent_load outside runtime.downloadPolicy path
  rw [Traced.guarded_bind]
  refine ⟨guarded_upload loads safe (all_load _ _ _), ?_⟩
  intro url uploaded
  refine guarded_captioned ?_ (shows_of_upload _ loads uploaded) ?_ ?_
  · intro event member
    rcases List.mem_append.mp member with load | upload
    · exact silent event load
    · exact silent_upload _ _ _ event upload
  · rintro text same
    cases same
    exact safe
  · intro count same
    split_ifs at same with sized
    exact (Option.some.inj same).symm

private theorem shownSize_some {fields : MediaFields} {size : Int × Int}
    (shown : shownSize fields = some size) : size.1 ≠ 0 ∧ size.2 ≠ 0 := by
  unfold shownSize at shown
  split at shown
  · rename_i width height wide high
    cases shown
    exact ⟨of_decide_eq_true (Option.filter_eq_some_iff.mp wide).2,
      of_decide_eq_true (Option.filter_eq_some_iff.mp high).2⟩
  · cases shown

private theorem guarded_sendPicture (channelType : Identity.ChannelType) (chatId imageUrl : PyStr)
    (caption replyTo : Option PyStr) (metadata : Option Members) :
    Traced.Guarded (Permits outside runtime imageUrl caption) []
      (sendPicture outside runtime channelType chatId imageUrl caption replyTo
        metadata).events := by
  unfold sendPicture
  rw [Traced.guarded_bind_ofExcept]
  intro fields _
  dsimp only
  rw [Traced.guarded_bind]
  refine ⟨guarded_load _, ?_⟩
  intro media loaded
  have loads := loads_of_load loaded
  rw [List.nil_append, Traced.guarded_bind_ofExcept]
  intro filename validated
  have safe := safeFilename_of_validated validated
  have silent := silent_load outside runtime.downloadPolicy imageUrl
  rw [Traced.guarded_bind]
  refine ⟨guarded_upload loads safe (all_load _ _ _), ?_⟩
  intro url uploaded
  have shows := shows_of_upload
    (loadOutboundMedia outside runtime.downloadPolicy imageUrl).events loads uploaded
  have quiet : ∀ event ∈ (loadOutboundMedia outside runtime.downloadPolicy imageUrl).events ++
      (uploadMedia outside runtime.transportPolicy filename media).events,
      event.isMessage = false := by
    intro event member
    rcases List.mem_append.mp member with load | upload
    · exact silent event load
    · exact silent_upload _ _ _ event upload
  split
  · rename_i prepared size captioned shown
    obtain ⟨wide, high⟩ := shownSize_some shown
    rw [sendCaptionedImage, Traced.guarded_bind_emit]
    exact ⟨⟨quiet, media, shows, wide, high, prepared, captioned, rfl, rfl⟩, trivial⟩
  · exact guarded_captioned quiet shows (fun _ same => by cases same) (fun _ same => by cases same)

/-- The message went out, and its caption with it. -/
def Complete (outside : Outside Ip) (caption : Option PyStr) (events : List MediaEvent) : Prop :=
  ∃ message, .post message ∈ events ∧ (given caption = none ∨ (∃ post, message = .captioned post) ∨
    Accepted outside.replies 1 ∧ ∃ request, .caption request ∈ events)

private theorem complete_append {events rest : List MediaEvent}
    (silent : ∀ event ∈ events, event.isMessage = false) :
    Complete outside caption (events ++ rest) ↔ Complete outside caption rest := by
  have posted (message : MediaMessage) :
      .post message ∈ events ++ rest ↔ .post message ∈ rest := by
    rw [List.mem_append]
    exact or_iff_right fun member => by cases silent _ member
  have captioned (request : SendRequest) :
      .caption request ∈ events ++ rest ↔ .caption request ∈ rest := by
    rw [List.mem_append]
    exact or_iff_right fun member => by cases silent _ member
  simp only [Complete, posted, captioned]

/-- A send returns the receipt of its message when everything went out, and only then. -/
def Settled (outside : Outside Ip) (caption : Option PyStr)
    (traced : Traced MediaEvent PyStr SendMessageResult) : Prop :=
  ∀ receipt, traced.result = .ok receipt ↔
    receiptFor outside.replies 0 = .ok receipt ∧ Complete outside caption traced.events

theorem settled_of_error {events : List MediaEvent} {error : PyStr}
    (broken : ¬ (Accepted outside.replies 0 ∧ Complete outside caption events)) :
    Settled outside caption ⟨events, .error error⟩ := by
  intro receipt
  constructor
  · intro returned
    cases returned
  · rintro ⟨answered, complete⟩
    exact absurd ⟨⟨receipt, answered⟩, complete⟩ broken

/-- What sends no message settles nothing. -/
theorem settled_bind {Value : Type} {first : Traced MediaEvent PyStr Value}
    {next : Value → Traced MediaEvent PyStr SendMessageResult}
    (silent : ∀ event ∈ first.events, event.isMessage = false)
    (goes : ∀ value, Settled outside caption (next value)) :
    Settled outside caption (first >>= next) := by
  obtain ⟨events, result⟩ := first
  cases result with
  | error error =>
    rw [Traced.bind_error]
    refine settled_of_error ?_
    rintro ⟨-, message, posted, -⟩
    cases silent _ posted
  | ok value =>
    intro receipt
    rw [Traced.bind_ok]
    dsimp only
    rw [complete_append silent]
    exact goes value receipt

theorem settled_bind_ofExcept {Value : Type} {result : Except PyStr Value}
    {next : Value → Traced MediaEvent PyStr SendMessageResult}
    (goes : ∀ value, Settled outside caption (next value)) :
    Settled outside caption (Traced.ofExcept result >>= next) :=
  settled_bind (fun _ member => by cases member) goes

/-- A message and its caption behind it. -/
theorem settled_captioned (envelop : Envelop) (msgType : Inbound.MessageType) (url : PyStr)
    (name : Option PyStr) (size : Option Nat) (fields : MediaFields) :
    Settled outside caption
      (do
        let receipt ← sendMediaMessage outside envelop msgType url name size fields
        sendCaption outside envelop (prepareCaption outside envelop.channelType caption)
        return receipt) := by
  obtain ⟨error, refused⟩ | ⟨post, -, posts⟩ :=
    sendMediaMessage_cases outside envelop msgType url name size fields
  · rw [refused, Traced.bind_error]
    refine settled_of_error ?_
    rintro ⟨-, message, posted, -⟩
    cases posted
  · rw [posts]
    cases answered : receiptFor outside.replies 0 with
    | error error =>
      rw [Traced.bind_error]
      refine settled_of_error ?_
      rintro ⟨⟨receipt, accepted⟩, -⟩
      cases answered.symm.trans accepted
    | ok receipt =>
      rw [Traced.bind_ok]
      cases prepared : prepareCaption outside envelop.channelType caption with
      | none =>
        have bare : given caption = none := Option.map_eq_none_iff.mp prepared
        intro other
        constructor
        · intro same
          cases same
          exact ⟨answered, .media post, List.mem_cons_self, .inl bare⟩
        · exact fun complete => answered.symm.trans complete.1
      | some text =>
        have captioned : given caption ≠ none := by
          intro none
          rw [prepareCaption, none] at prepared
          cases prepared
        rw [sendCaption_some]
        cases followed : receiptFor outside.replies 1 with
        | error error =>
          refine settled_of_error ?_
          rintro ⟨-, message, posted, none | ⟨picture, same⟩ | ⟨⟨other, accepted⟩, -⟩⟩
          · exact captioned none
          · rw [Except.map, Traced.bind_error] at posted
            simp [same] at posted
          · cases followed.symm.trans accepted
        | ok second =>
          intro other
          constructor
          · intro same
            cases same
            exact ⟨answered, .media post, List.mem_cons_self, .inr (.inr ⟨⟨second, followed⟩,
              _, List.mem_cons_of_mem _ List.mem_cons_self⟩)⟩
          · exact fun complete => answered.symm.trans complete.1

private theorem settled_sendFile (kind : MediaKind) (chatId path : PyStr)
    (caption fileName replyTo : Option PyStr) (kwargs : MediaKwargs) :
    Settled outside caption
      (sendFile outside runtime kind chatId path caption fileName replyTo kwargs) := by
  unfold sendFile
  refine settled_bind_ofExcept fun explicitName => ?_
  refine settled_bind_ofExcept fun metadata => ?_
  refine settled_bind_ofExcept fun explicit => ?_
  refine settled_bind_ofExcept fun fields => ?_
  refine settled_bind (silent_load _ _ _) fun media => ?_
  refine settled_bind_ofExcept fun filename => ?_
  refine settled_bind (silent_upload _ _ _) fun url => ?_
  exact settled_captioned _ _ _ _ _ _

private theorem settled_sendPicture (channelType : Identity.ChannelType) (chatId imageUrl : PyStr)
    (caption replyTo : Option PyStr) (metadata : Option Members) :
    Settled outside caption
      (sendPicture outside runtime channelType chatId imageUrl caption replyTo metadata) := by
  unfold sendPicture
  refine settled_bind_ofExcept fun fields => ?_
  refine settled_bind (silent_load _ _ _) fun media => ?_
  refine settled_bind_ofExcept fun filename => ?_
  refine settled_bind (silent_upload _ _ _) fun url => ?_
  split
  · rename_i prepared size captioned shown
    intro receipt
    rw [sendCaptionedImage]
    constructor
    · intro answered
      exact ⟨answered, _, List.mem_cons_self, .inr (.inl ⟨_, rfl⟩)⟩
    · exact fun complete => complete.1
  · exact settled_captioned _ _ _ _ _ _

/-- A send in which every event was permitted behind those before it, and whose report is true:
success is the receipt of the message, and means that the caption went out too. -/
structure Sends (outside : Outside Ip) (runtime : MediaSender Names) (source : PyStr)
    (caption : Option PyStr) (sent : MediaSent) : Prop where
  permitted : Traced.Guarded (Permits outside runtime source caption) [] sent.events
  reported : sent.result.success = true ↔
    Accepted outside.replies 0 ∧ Complete outside caption sent.events
  receipt : ∀ receipt, receiptFor outside.replies 0 = .ok receipt →
    sent.result.success = true → sent.result = deliveryResult receipt

theorem sends_of_settled {source : PyStr} {traced : Traced MediaEvent PyStr SendMessageResult}
    (guarded : Traced.Guarded (Permits outside runtime source caption) [] traced.events)
    (settled : Settled outside caption traced) :
    Sends outside runtime source caption (reported outside traced) := by
  refine ⟨guarded, ?_, ?_⟩
  · constructor
    · intro success
      cases ended : traced.result with
      | error error =>
        simp only [reported, ended, SendResult.failed] at success
        cases success
      | ok receipt =>
        obtain ⟨answered, complete⟩ := (settled receipt).mp ended
        exact ⟨⟨receipt, answered⟩, complete⟩
    · rintro ⟨⟨receipt, answered⟩, complete⟩
      have ended := (settled receipt).mpr ⟨answered, complete⟩
      simp only [reported, ended, deliveryResult]
  · intro receipt answered success
    cases ended : traced.result with
    | error error =>
      simp only [reported, ended, SendResult.failed] at success
      cases success
    | ok other =>
      cases answered.symm.trans ((settled other).mp ended).1
      simp only [reported, ended]

theorem fileShown (kind : MediaKind) (chatId path : PyStr)
    (caption fileName replyTo : Option PyStr) (kwargs : MediaKwargs) :
    let sent := if runtime.sender.httpSession then
        reported outside (sendFile outside runtime kind chatId path caption fileName replyTo kwargs)
      else notConnected
    if runtime.sender.httpSession = true then Sends outside runtime path caption sent
    else sent = notConnected := by
  intro sent
  by_cases connected : runtime.sender.httpSession = true
  · simp only [sent, if_pos connected]
    exact sends_of_settled
      (guarded_sendFile kind chatId path caption fileName replyTo kwargs)
      (settled_sendFile kind chatId path caption fileName replyTo kwargs)
  · simp only [sent, if_neg connected]

/-- Over every answer of disk and network, a media send shows in the chat only what it stored:
the bytes of its source, sent once, to a checked target, under a safe name; it sends one message
and one caption at most, and reports success exactly when both went out. -/
theorem media_shown (outside : Outside Ip) (runtime : MediaSender Names) (call : MediaCall) :
    match call.run outside runtime with
    | .error error => ∃ chatId imageUrl caption replyTo metadata,
        call = .image chatId imageUrl caption replyTo metadata ∧
          readChannelType outside metadata = .error error
    | .ok sent =>
      if runtime.sender.httpSession = true then
        Sends outside runtime call.source call.caption sent
      else sent = notConnected := by
  cases call with
  | image chatId imageUrl caption replyTo metadata =>
    rw [MediaCall.run, sendImage]
    by_cases connected : runtime.sender.httpSession = true
    · rw [if_pos connected]
      cases known : readChannelType outside metadata with
      | error error => exact ⟨chatId, imageUrl, caption, replyTo, metadata, rfl, known⟩
      | ok explicit =>
        dsimp only
        rw [if_pos connected]
        exact sends_of_settled
          (guarded_sendPicture _ chatId imageUrl caption replyTo metadata)
          (settled_sendPicture _ chatId imageUrl caption replyTo metadata)
    · rw [if_neg connected]
      dsimp only
      rw [if_neg connected]
  | document chatId filePath caption fileName replyTo kwargs =>
    rw [MediaCall.run, sendDocument]
    exact fileShown documentKind chatId filePath caption fileName replyTo kwargs
  | voice chatId audioPath caption replyTo kwargs =>
    rw [MediaCall.run, sendVoice]
    exact fileShown voiceKind chatId audioPath caption none replyTo kwargs
  | video chatId videoPath caption replyTo kwargs =>
    rw [MediaCall.run, sendVideo]
    exact fileShown videoKind chatId videoPath caption none replyTo kwargs

end OctoChannel.Media

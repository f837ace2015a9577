import OctoChannel.Chats.Caches
import OctoChannel.Mentions.Fallback
import OctoChannel.Mentions.Pointing
import OctoChannel.Rendering.Texts

namespace OctoChannel.Adapter.Replies

open Foundation Identity Chats Mentions Rendering

def maxMessageLength : Nat := 5000

def hermesStreamCursor : PyStr := py " ▉"

/-- `text.replace(old, "")` of an `old` that is not empty; `skip` counts what is left of an
occurrence. -/
def removeAll (old : PyStr) : Nat → PyStr → PyStr
  | _, [] => []
  | skip + 1, _ :: rest => removeAll old skip rest
  | 0, point :: rest =>
    if old.isPrefixOf (point :: rest) then removeAll old (old.length - 1) rest
    else point :: removeAll old 0 rest

/-- `_strip_hermes_cursor`: `replace` leaves a text without the marker as it is. -/
def stripHermesCursor (content : PyStr) : PyStr :=
  let bare := hermesStreamCursor.dropWhile CodePoint.isWhitespace
  removeAll bare 0 (removeAll hermesStreamCursor 0 content)

/-- The `mention` of a payload; a list that is empty is left out of it. -/
structure MentionSidecar where
  uids : Option (List PyStr)
  entities : Option (List SidecarEntity)

/-- The body of `/v1/bot/sendMessage`; the type of its payload is text. -/
structure SendRequest where
  channelId : PyStr
  channelType : ChannelType
  content : PyStr
  mention : Option MentionSidecar
  reply : Option PyStr
  clientMsgNo : PyStr
  onBehalfOf : Option PyStr

structure SendMessageResult where
  messageId : PyStr
  messageSeq : Option Int
  clientMsgNo : PyStr

/-- `SendResult`, with the members of its `raw_response`. -/
structure SendResult where
  success : Bool
  messageId : Option PyStr
  error : Option PyStr
  retryable : Bool
  messageSeq : Option Int
  clientMsgNo : Option PyStr

def SendResult.failed (error : PyStr) (retryable : Bool) : SendResult :=
  ⟨false, none, some error, retryable, none, none⟩

/-- What lies outside: Hermes' `truncate_message`, `uuid4`, `int` of a text, `repr` of a chat
id, and the answers of the server, one for each request. An error is carried as its text. -/
structure Outside where
  words : WordChars
  wording : Wording
  digits : DigitChars
  truncateMessage : PyStr → Nat → List PyStr
  uuid4 : Nat → PyStr
  intOf : PyStr → Option Int
  repr : PyStr → PyStr
  members : Except PyStr (List GroupMember)
  answer : Nat → Except PyStr Json

variable (outside : Outside)

/-- A string or an integer that is not a boolean, as text. -/
def textOrInt : Json → Option PyStr
  | .str text => some text
  | .int value => some (Json.printInt value)
  | _ => none

def missingMessageId : PyStr :=
  py "Octo API request failed: missing message_id in success response"

/-- `_parse_send_message_result` -/
def parseSendMessageResult (result : Json) (requestedClientMsgNo : PyStr) :
    Except PyStr SendMessageResult :=
  let members := match result with
    | .obj members => members
    | _ => []
  match textOrInt (Json.field (py "message_id") members) with
  | none | some [] => .error missingMessageId
  | some messageId =>
    .ok {
      messageId := messageId
      messageSeq := match Json.field (py "message_seq") members with
        | .int value => some value
        | .str text => outside.intOf text
        | _ => none
      clientMsgNo :=
        (textOrInt (Json.field (py "client_msg_no") members)).getD requestedClientMsgNo }

/-- `_delivery_result`, of a result that has a message id. -/
def deliveryResult (result : SendMessageResult) : SendResult :=
  ⟨true, some result.messageId, none, false, result.messageSeq, some result.clientMsgNo⟩

/-- `if text` of an argument that may be absent. -/
def given (text : Option PyStr) : Option PyStr := text.filter (· ≠ [])

/-- The `mention` that `send_message` builds. -/
def mentionOf (prepared : PreparedText) : Option MentionSidecar :=
  let uids := prepared.uids.bind nonemptyList
  let entities := prepared.entities.bind nonemptyList
  if uids.isSome ∨ entities.isSome then some ⟨uids, entities⟩ else none

def groupChannelTypes : List ChannelType := [.Group, .CommunityTopic]

/-- `_mention_uid_allowlist` over the API: a roster that cannot be read lets nobody through. -/
def mentionUidAllowlist (channelType : ChannelType) : List PyStr :=
  if channelType ∈ groupChannelTypes then
    let members := match outside.members with
      | .ok members => members
      | .error _ => []
    (members.map GroupMember.uid).filter fun uid =>
      uid ≠ [] && uid.all (uidChar outside.words)
  else []

/-- What a reply is sent with. -/
structure Envelop where
  channelId : PyStr
  channelType : ChannelType
  replyTo : Option PyStr
  onBehalfOf : Option PyStr

/-- The request for the chunk with this number. -/
def requestFor (envelop : Envelop) (number : Nat) (prepared : PreparedText) : SendRequest where
  channelId := envelop.channelId
  channelType := envelop.channelType
  content := prepared.content
  mention := mentionOf prepared
  reply := given envelop.replyTo
  clientMsgNo := outside.uuid4 number
  onBehalfOf := given envelop.onBehalfOf

/-- What `send_message` makes of the answer to this request. -/
def receiptFor (number : Nat) : Except PyStr SendMessageResult :=
  match outside.answer number with
  | .error error => .error error
  | .ok body => parseSendMessageResult outside body (outside.uuid4 number)

/-- What was posted, and how the loop ended: with the last receipt or with an error. -/
structure Posted where
  requests : List SendRequest
  ended : Except PyStr (Option SendMessageResult)

/-- The loop over the prepared chunks. -/
def postChunks (envelop : Envelop) :
    Nat → Option SendMessageResult → List PreparedText → Posted
  | _, last, [] => ⟨[], .ok last⟩
  | number, _, prepared :: rest =>
    let request := requestFor outside envelop number prepared
    match receiptFor outside number with
    | .error error => ⟨[request], .error error⟩
    | .ok receipt =>
      let later := postChunks envelop (number + 1) (some receipt) rest
      ⟨request :: later.requests, later.ended⟩

/-- `(mention.uid, mention.name)` -/
def mentionIds (text : PyStr) : List (PyStr × PyStr) :=
  (parseStructuredMentions outside.words text).map fun mention => (mention.uid, mention.name)

def splitMentionError : PyStr := py "structured mention was split by message chunking"

def containsText (part : PyStr) : PyStr → Bool
  | [] => part = []
  | point :: rest => part.isPrefixOf (point :: rest) || containsText part rest

/-- The handler at the end of `_send_normal`. No character beyond ASCII is lowered to a letter
of these words. -/
def sendFailed (rawError : PyStr) : SendResult :=
  let lowered := rawError.map lowerAscii
  .failed (sanitizeErrorText outside.wording (.str rawError))
    (containsText (py "connect") lowered || containsText (py "timeout") lowered)

/-- What is reported once the loop has ended. -/
def replyResult : Except PyStr (Option SendMessageResult) → SendResult
  | .error rawError => sendFailed outside rawError
  | .ok none => .failed (py "Octo send response missing message_id") false
  | .ok (some receipt) => deliveryResult receipt

structure Sent where
  requests : List SendRequest
  result : SendResult

/-- The chunks of a reply. -/
def chunksOf (content : PyStr) : List PyStr :=
  outside.truncateMessage (stripHermesCursor content) maxMessageLength

/-- The prepared chunks: each is converted as `_prepare_outbound_mentions` converts a text. -/
def preparedChunks (channelType : ChannelType) (content : PyStr) : List PreparedText :=
  (chunksOf outside content).map fun chunk =>
    prepareOutboundMentions outside.words (mentionUidAllowlist outside channelType) chunk none

/-- `_send_normal`, over an open session. -/
def sendNormal (envelop : Envelop) (content : PyStr) : Sent :=
  if (chunksOf outside content).flatMap (mentionIds outside) ≠
      mentionIds outside (stripHermesCursor content) then
    ⟨[], sendFailed outside splitMentionError⟩
  else
    let posted := postChunks outside envelop 0 none
      (preparedChunks outside envelop.channelType content)
    ⟨posted.requests, replyResult outside posted.ended⟩

/-- `_OCTO_CHAT_ID_RE.fullmatch` -/
def octoChatId (chatId : PyStr) : Bool :=
  (1 ≤ chatId.length && chatId.length ≤ 128) && chatId.all fun point =>
    isAsciiAlnum point || point ∈ py "_-@:"

/-- The metadata of a delivery; its channel type is one that `ChannelType` knows. -/
structure SendMetadata where
  channelType : Option ChannelType
  notify : Bool

/-- What `send` reads of the runtime. -/
structure Sender (Names : Type) where
  disconnecting : Bool
  httpSession : Bool
  onBehalfOf : Option PyStr
  caches : Caches Names

variable {Names : Type} (sender : Sender Names)

/-- Where a reply goes: the reply that Hermes attaches to a final response is dropped. -/
def Sender.envelop (chatId : PyStr) (replyTo : Option PyStr) (metadata : SendMetadata) :
    Envelop :=
  let channelType := sender.caches.resolveChannelType chatId metadata.channelType
  { channelId := sender.caches.outboundChannelId outside.digits chatId channelType
    channelType := channelType
    replyTo := if metadata.notify then none else replyTo
    onBehalfOf := sender.onBehalfOf }

/-- `send` -/
def Sender.send (chatId content : PyStr) (replyTo : Option PyStr) (metadata : SendMetadata) :
    Sent :=
  if sender.disconnecting ∨ ¬ sender.httpSession then
    ⟨[], .failed (py "Not connected") false⟩
  else if ¬ octoChatId chatId then
    ⟨[], .failed (py "invalid chat_id format: " ++ outside.repr chatId) false⟩
  else sendNormal outside (sender.envelop outside chatId replyTo metadata) content

def SendRequest.mentioned (request : SendRequest) : List PyStr :=
  (request.mention.bind MentionSidecar.uids).getD []

def SendRequest.entities (request : SendRequest) : List SidecarEntity :=
  (request.mention.bind MentionSidecar.entities).getD []

/-- One request for each prepared chunk. -/
def planFrom (envelop : Envelop) (number : Nat) (prepared : List PreparedText) :
    List SendRequest :=
  (prepared.zipIdx number).map fun item => requestFor outside envelop item.2 item.1

/-- All the requests that a reply calls for. -/
def plan (envelop : Envelop) (content : PyStr) : List SendRequest :=
  planFrom outside envelop 0 (preparedChunks outside envelop.channelType content)

/-- The server took the request with this number. -/
def Accepted (number : Nat) : Prop := ∃ receipt, receiptFor outside number = .ok receipt

/-- How the loop ends: every chunk taken, or stopped behind the first that is not. -/
inductive Ending (envelop : Envelop) (number : Nat) (last : Option SendMessageResult)
    (prepared : List PreparedText) (posted : Posted) : Prop where
  | finished (accepted : ∀ index < prepared.length, Accepted outside (number + index))
      (requests : posted.requests = planFrom outside envelop number prepared)
      (ended : posted.ended = .ok last ∧ prepared = [] ∨
        ∃ receipt, posted.ended = .ok (some receipt) ∧ prepared ≠ [])
  | refused (index : Nat) (inside : index < prepared.length)
      (accepted : ∀ earlier < index, Accepted outside (number + earlier))
      (stopped : ¬ Accepted outside (number + index))
      (requests : posted.requests =
        (planFrom outside envelop number prepared).take (index + 1))
      (ended : ∃ error, posted.ended = .error error)

variable {outside}

theorem planFrom_cons (envelop : Envelop) (number : Nat) (prepared : PreparedText)
    (rest : List PreparedText) :
    planFrom outside envelop number (prepared :: rest) =
      requestFor outside envelop number prepared ::
        planFrom outside envelop (number + 1) rest := by
  rw [planFrom, List.zipIdx_cons, List.map_cons]
  rfl

private theorem length_planFrom (envelop : Envelop) (number : Nat) (prepared : List PreparedText) :
    (planFrom outside envelop number prepared).length = prepared.length := by
  rw [planFrom, List.length_map, List.length_zipIdx]

private theorem ending_postChunks (envelop : Envelop) (number : Nat)
    (last : Option SendMessageResult)
    (prepared : List PreparedText) :
    Ending outside envelop number last prepared
      (postChunks outside envelop number last prepared) := by
  induction prepared generalizing number last with
  | nil =>
    refine .finished ?_ rfl (.inl ⟨rfl, rfl⟩)
    intro index inside
    cases inside
  | cons chunk rest ih =>
    rw [postChunks]
    cases answered : receiptFor outside number with
    | error error =>
      refine .refused 0 (Nat.zero_lt_succ _) ?_ ?_ ?_ ⟨error, rfl⟩
      · intro earlier before
        cases before
      · rintro ⟨receipt, taken⟩
        rw [Nat.add_zero, answered] at taken
        cases taken
      · rw [planFrom_cons]
        rfl
    | ok receipt =>
      have shifted (index : Nat) (later : Accepted outside (number + 1 + index)) :
          Accepted outside (number + (index + 1)) := by
        rwa [show number + (index + 1) = number + 1 + index by omega]
      have first : Accepted outside (number + 0) := ⟨receipt, answered⟩
      cases ih (number + 1) (some receipt) with
      | finished accepted requests ended =>
        refine .finished ?_ ?_ (.inr ?_)
        · intro index inside
          cases index with
          | zero => exact first
          | succ index => exact shifted index (accepted index (Nat.lt_of_succ_lt_succ inside))
        · rw [planFrom_cons, ← requests]
        · rcases ended with ⟨ended, _⟩ | ⟨later, ended, _⟩
          · exact ⟨receipt, ended, List.cons_ne_nil _ _⟩
          · exact ⟨later, ended, List.cons_ne_nil _ _⟩
      | refused index inside accepted stopped requests ended =>
        refine .refused (index + 1) (Nat.succ_lt_succ inside) ?_ ?_ ?_ ended
        · intro earlier before
          cases earlier with
          | zero => exact first
          | succ earlier => exact shifted earlier (accepted earlier (Nat.lt_of_succ_lt_succ before))
        · rwa [show number + (index + 1) = number + 1 + index by omega]
        · rw [planFrom_cons, List.take_succ_cons, ← requests]

/-- The uids that the allow-list lets through. -/
def allowedIds (valid : List PyStr) (ids : List (PyStr × PyStr)) : List PyStr :=
  (ids.filter fun id => uidAllowed (some valid) id.1).map Prod.fst

theorem allowedIds_mentionIds (valid : List PyStr) (text : PyStr) :
    allowedIds valid (mentionIds outside text) =
      (allowedTokens outside.words (some valid) text).map StructuredMention.uid := by
  rw [allowedIds, mentionIds, List.filter_map, List.map_map, allowedTokens]
  rfl

private theorem tags_of_points {whole : PyStr} {tokens : List StructuredMention}
    {entities : List SidecarEntity} (points : List.Forall₂ (Points whole) tokens entities) :
    entities.map Mark.tag = tokens.map StructuredMention.uid := by
  induction points with
  | nil => rfl
  | cons point _ ih => rw [List.map_cons, List.map_cons, point.uid, ih]

/-- What a prepared text carries: the entities of its tokens, and their uids. -/
private theorem sidecar_prepared (valid : List PyStr) (text : PyStr) :
    let prepared := prepareOutboundMentions outside.words valid text none
    let tokens := allowedTokens outside.words (some valid) text
    Sidecar prepared.content tokens (prepared.entities.getD []) ∧
      prepared.uids.getD [] = tokens.map StructuredMention.uid := by
  intro prepared tokens
  obtain ⟨marked, content, entities, uids, tagged⟩ :=
    prepared_eq outside.words valid text (.inl rfl)
  have sidecar := sidecar_marks tagged
  rw [← content, ← entities] at sidecar
  refine ⟨sidecar, ?_⟩
  rw [← tags_of_points sidecar.points]
  change (prepareOutboundMentions outside.words valid text none).uids.getD [] =
    ((prepareOutboundMentions outside.words valid text none).entities.getD []).map Mark.tag
  rw [uids, entities, marks_map_tag]

private theorem mention_mentionOf (prepared : PreparedText) :
    ((mentionOf prepared).bind MentionSidecar.uids).getD [] = prepared.uids.getD [] ∧
      ((mentionOf prepared).bind MentionSidecar.entities).getD [] =
        prepared.entities.getD [] := by
  obtain ⟨content, entities, uids⟩ := prepared
  unfold mentionOf
  rcases entities with _ | _ | ⟨entity, entities⟩ <;> rcases uids with _ | _ | ⟨uid, uids⟩ <;>
    exact ⟨rfl, rfl⟩

/-- The request names the tokens of one chunk that the allow-list lets through. -/
structure Carries (outside : Outside) (valid : List PyStr) (chunk : PyStr)
    (request : SendRequest) : Prop where
  sidecar : Sidecar request.content (allowedTokens outside.words (some valid) chunk)
    request.entities
  mentioned : request.mentioned =
    (allowedTokens outside.words (some valid) chunk).map StructuredMention.uid

private theorem carries_requestFor (envelop : Envelop) (number : Nat) (valid : List PyStr)
    (chunk : PyStr) :
    Carries outside valid chunk (requestFor outside envelop number
      (prepareOutboundMentions outside.words valid chunk none)) := by
  obtain ⟨sidecar, uids⟩ := @sidecar_prepared outside valid chunk
  obtain ⟨sameUids, sameEntities⟩ :=
    mention_mentionOf (prepareOutboundMentions outside.words valid chunk none)
  refine ⟨?_, ?_⟩
  · rw [← sameEntities] at sidecar
    exact sidecar
  · rw [← uids, ← sameUids]
    rfl

theorem carries_planFrom (envelop : Envelop) (number : Nat) (valid : List PyStr)
    (chunks : List PyStr) :
    List.Forall₂ (Carries outside valid) chunks (planFrom outside envelop number
      (chunks.map fun chunk => prepareOutboundMentions outside.words valid chunk none)) := by
  induction chunks generalizing number with
  | nil => exact .nil
  | cons chunk rest ih =>
    rw [List.map_cons, planFrom_cons]
    exact .cons (carries_requestFor envelop number valid chunk) (ih (number + 1))

private theorem mentioned_of_carries {valid : List PyStr} {chunks : List PyStr}
    {requests : List SendRequest}
    (carried : List.Forall₂ (Carries outside valid) chunks requests) :
    requests.flatMap SendRequest.mentioned =
      allowedIds valid (chunks.flatMap (mentionIds outside)) := by
  induction carried with
  | nil => rfl
  | cons here _ ih =>
    rw [List.flatMap_cons, List.flatMap_cons, here.mentioned, ih, ← allowedIds_mentionIds]
    simp [allowedIds]

/-- The chunks hold the tokens of the reply, in the same order. -/
def Unsplit (outside : Outside) (content : PyStr) : Prop :=
  (chunksOf outside content).flatMap (mentionIds outside) =
    mentionIds outside (stripHermesCursor content)

private theorem mentioned_plan (envelop : Envelop) {content : PyStr}
    (unsplit : Unsplit outside content) :
    (plan outside envelop content).flatMap SendRequest.mentioned =
      (allowedTokens outside.words (some (mentionUidAllowlist outside envelop.channelType))
        (stripHermesCursor content)).map StructuredMention.uid := by
  have carried := @carries_planFrom outside envelop 0
    (mentionUidAllowlist outside envelop.channelType) (chunksOf outside content)
  rw [plan, preparedChunks, mentioned_of_carries carried, unsplit, allowedIds_mentionIds]

/-- What `_send_normal` posts and returns, over the answers of the server. -/
structure Delivered (outside : Outside) (envelop : Envelop) (content : PyStr) (sent : Sent) :
    Prop where
  /-- Only requests of the plan are posted, in its order. -/
  planned : sent.requests <+: plan outside envelop content
  /-- Each request names the tokens of its chunk, and points at their names. -/
  carried : ∀ (number : Nat) (request : SendRequest),
    sent.requests[number]? = some request → ∃ chunk,
    (chunksOf outside content)[number]? = some chunk ∧
      Carries outside (mentionUidAllowlist outside envelop.channelType) chunk request
  /-- Nothing follows a request that the server did not take. -/
  stops : ∀ number, number + 1 < sent.requests.length → Accepted outside number
  /-- A reply with a token that the chunks split is not begun. -/
  whole : sent.requests ≠ [] → Unsplit outside content
  /-- Success is reported when every chunk was taken, and then the requests mention whom
  the reply mentions. -/
  success : sent.result.success = true ↔
    Unsplit outside content ∧ plan outside envelop content ≠ [] ∧
      ∀ number < (plan outside envelop content).length, Accepted outside number
  complete : sent.result.success = true → sent.requests = plan outside envelop content ∧
    sent.requests.flatMap SendRequest.mentioned =
      (allowedTokens outside.words (some (mentionUidAllowlist outside envelop.channelType))
        (stripHermesCursor content)).map StructuredMention.uid

private theorem get?_carries {valid : List PyStr} {chunks : List PyStr}
    {requests : List SendRequest}
    (carried : List.Forall₂ (Carries outside valid) chunks requests) {number : Nat}
    {request : SendRequest} (found : requests[number]? = some request) :
    ∃ chunk, chunks[number]? = some chunk ∧ Carries outside valid chunk request := by
  induction carried generalizing number with
  | nil => cases found
  | cons here _ ih =>
    cases number with
    | zero =>
      cases found
      exact ⟨_, rfl, here⟩
    | succ number => exact ih found

private theorem delivered_nothing (envelop : Envelop) {content : PyStr} {error : PyStr}
    {retryable : Bool}
    (split : ¬ Unsplit outside content) :
    Delivered outside envelop content ⟨[], .failed error retryable⟩ where
  planned := List.nil_prefix
  carried := by
    intro number request found
    cases found
  stops := by
    intro number inside
    cases inside
  whole := fun some => absurd rfl some
  success := by
    constructor
    · intro success
      cases success
    · intro ready
      exact absurd ready.1 split
  complete := by
    intro success
    cases success

theorem carries_of_prefix {envelop : Envelop} {content : PyStr} {requests : List SendRequest}
    (planned : requests <+: plan outside envelop content) (number : Nat) (request : SendRequest)
    (found : requests[number]? = some request) : ∃ chunk,
      (chunksOf outside content)[number]? = some chunk ∧
        Carries outside (mentionUidAllowlist outside envelop.channelType) chunk request := by
  have inside := (List.getElem?_eq_some_iff.mp found).1
  rw [List.getElem?_eq_getElem inside, planned.getElem inside, ← List.getElem?_eq_getElem] at found
  exact get?_carries (carries_planFrom envelop 0 _ _) found

/-- Every chunk was taken. -/
private theorem delivered_whole {envelop : Envelop} {content : PyStr}
    (unsplit : Unsplit outside content) {ended : Except PyStr (Option SendMessageResult)}
    (accepted : ∀ number < (plan outside envelop content).length, Accepted outside number)
    (reported : (replyResult outside ended).success = true ↔ plan outside envelop content ≠ []) :
    Delivered outside envelop content
      ⟨plan outside envelop content, replyResult outside ended⟩ where
  planned := List.prefix_refl _
  carried := carries_of_prefix (List.prefix_refl _)
  stops := fun number inside => accepted number (Nat.lt_of_succ_lt inside)
  whole := fun _ => unsplit
  success := ⟨fun success => ⟨unsplit, reported.mp success, accepted⟩,
    fun ready => reported.mpr ready.2.1⟩
  complete := fun _ => ⟨rfl, mentioned_plan envelop unsplit⟩

/-- The chunk with this number was refused. -/
private theorem delivered_stopped {envelop : Envelop} {content : PyStr}
    (unsplit : Unsplit outside content)
    {index : Nat} (inside : index < (plan outside envelop content).length)
    (accepted : ∀ earlier < index, Accepted outside earlier) (stopped : ¬ Accepted outside index)
    (error : PyStr) :
    Delivered outside envelop content ⟨(plan outside envelop content).take (index + 1),
      replyResult outside (.error error)⟩ where
  planned := List.take_prefix _ _
  carried := carries_of_prefix (List.take_prefix _ _)
  stops := by
    intro number before
    rw [List.length_take] at before
    exact accepted number (by omega)
  whole := fun _ => unsplit
  success := by
    constructor
    · intro success
      cases success
    · intro ready
      exact absurd (ready.2.2 index inside) stopped
  complete := by
    intro success
    cases success

private theorem delivered_sendNormal (envelop : Envelop) (content : PyStr) :
    Delivered outside envelop content (sendNormal outside envelop content) := by
  unfold sendNormal
  by_cases unsplit : Unsplit outside content
  · rw [if_neg fun split : _ ≠ _ => split unsplit]
    have same : (plan outside envelop content).length =
        (preparedChunks outside envelop.channelType content).length :=
      length_planFrom envelop 0 _
    have shifted (number : Nat) (taken : Accepted outside (0 + number)) :
        Accepted outside number := by rwa [Nat.zero_add] at taken
    dsimp only
    cases @ending_postChunks outside envelop 0 none
        (preparedChunks outside envelop.channelType content) with
    | finished accepted requests ended =>
      rw [requests]
      refine delivered_whole unsplit ?_ ?_
      · intro number inside
        exact shifted number (accepted number (same ▸ inside))
      · rw [← List.length_pos_iff, same, List.length_pos_iff]
        rcases ended with ⟨ended, nothing⟩ | ⟨receipt, ended, some⟩
        · rw [ended, nothing]
          simp [replyResult, SendResult.failed]
        · rw [ended]
          simp [replyResult, deliveryResult, some]
    | refused index inside accepted stopped requests ended =>
      obtain ⟨error, ended⟩ := ended
      rw [requests, ended]
      refine delivered_stopped unsplit (same ▸ inside) ?_ ?_ error
      · intro earlier before
        exact shifted earlier (accepted earlier before)
      · intro taken
        exact stopped (by rwa [Nat.zero_add])
  · rw [if_pos (show _ ≠ _ from unsplit)]
    exact delivered_nothing envelop unsplit

/-- A reply is delivered as planned or reported as failed: over every way the host cuts it and
every answer of the server, only requests of its plan are posted, up to the first that is not
taken, each with the mentions of its own chunk; success means that all were taken, and then
the requests together mention exactly the members that the whole reply names. -/
theorem send_delivers {Names : Type} (sender : Sender Names) (chatId content : PyStr)
    (replyTo : Option PyStr) (metadata : SendMetadata) :
    let sent := sender.send outside chatId content replyTo metadata
    if sender.disconnecting = false ∧ sender.httpSession = true ∧ octoChatId chatId = true then
      Delivered outside (sender.envelop outside chatId replyTo metadata) content sent
    else sent.requests = [] ∧ sent.result.success = false := by
  intro sent
  change if _ then Delivered outside _ content (sender.send outside chatId content replyTo metadata)
    else (sender.send outside chatId content replyTo metadata).requests = [] ∧
      (sender.send outside chatId content replyTo metadata).result.success = false
  unfold Sender.send
  by_cases offline : sender.disconnecting = true ∨ ¬ sender.httpSession = true
  · rw [if_pos offline, if_neg]
    · exact ⟨rfl, rfl⟩
    · rintro ⟨running, session, _⟩
      rcases offline with stopping | closed
      · rw [running] at stopping
        cases stopping
      · exact closed session
  · rw [if_neg offline]
    rw [not_or, not_not, Bool.not_eq_true] at offline
    by_cases valid : octoChatId chatId = true
    · rw [if_neg (not_not_intro valid), if_pos ⟨offline.1, offline.2, valid⟩]
      exact delivered_sendNormal _ content
    · rw [if_pos valid, if_neg fun ready => valid ready.2.2]
      exact ⟨rfl, rfl⟩

end OctoChannel.Adapter.Replies

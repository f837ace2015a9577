import OctoChannel.Adapter.Replies
import OctoChannel.Cards.Registering
import OctoChannel.Foundation.Doubles
import OctoChannel.Rendering.Display
import OctoChannel.Tools.Conversation

namespace OctoChannel.Tools

open Foundation Identity Cards Chats Mentions Rendering Adapter.Replies Progress

abbrev Members := List (PyStr × Json)

/-- How the request for the card profile is answered. -/
inductive ProfileAnswer where
  | body (raw : Json)
  | malformed
  | notFound
  | failed

/-- The clocks when a session is registered, and how its store write goes. -/
structure Admission where
  now : Int
  wall : Int
  moment : Moment

/-- What lies outside: the API, the clocks, the values of floating-point literals, the setting
`OCTO_CARD_MESSAGE_ENABLED`, and whether the guarded session can be opened. -/
structure CardWorld where
  replies : Adapter.Replies.Outside
  urls : CardUrls
  floatValue : String → Option ℚ
  configuredEnabled : Bool
  opens : Bool
  asked : Int
  profile : ProfileAnswer
  answered : Int
  answer : Except PyStr Json
  admission : Admission

variable (world : CardWorld)

/-- `CardProfileManifest`, as far as the tools read it. -/
structure CardProfileManifest where
  available : Bool
  enabled : Bool
  profiles : Option (List PyStr)
  cardVersion : Option PyStr
  elements : Option (List PyStr)
  inputs : Option (List PyStr)
  actions : Option (List PyStr)
  limits : Members

/-- `CardProfileManifest(available=…, enabled=False)` -/
def CardProfileManifest.bare (available : Bool) : CardProfileManifest :=
  ⟨available, false, none, none, none, none, none, []⟩

/-- `value is True or value == 1` -/
def isOne : Json → Bool
  | .bool value => value
  | .int value => value = 1
  | .float text => world.floatValue text = some 1
  | _ => false

/-- `string_tuple` -/
def stringTuple (name : String) (raw : Members) : Option (List PyStr) :=
  match Json.field (py name) raw with
  | .arr items => some (items.filterMap stringOf)
  | _ => none

/-- `get_card_profile` -/
def getCardProfile : Option CardProfileManifest :=
  match world.profile with
  | .failed => none
  | .notFound => some (.bare false)
  | .malformed => some (.bare true)
  | .body (.obj raw) =>
    some {
      available := true
      enabled := isOne world (Json.field (py "enabled") raw)
      profiles := stringTuple "profiles" raw
      cardVersion := stringOf (Json.field (py "card_version") raw)
      elements := stringTuple "elements" raw
      inputs := stringTuple "inputs" raw
      actions := stringTuple "actions" raw
      limits := match Json.field (py "limits") raw with
        | .obj limits => limits
        | _ => [] }
  | .body _ => some (.bare true)

/-- `_positive_limit`; `none` is the OverflowError of an integer beyond every double. -/
def positiveLimit (ceiling : Int) : Json → Option (Option Int)
  | .int value =>
    if Doubles.overflowBound ≤ value.natAbs then none
    else some (if value ≤ 0 then none else some (min value ceiling))
  | .float text =>
    some ((world.floatValue text).bind fun value =>
      if value ≤ 0 then none else some (min value.floor ceiling))
  | _ => some none

def defaultMaxInputTextBytes : Int := 4096
def defaultMaxInputsBytes : Int := 16384

/-- The actions of `derive_card_capabilities`: only the profile decides on `Action.Submit`. -/
def derivedActions (manifest : CardProfileManifest) : Option (List PyStr) :=
  if manifest.available ∨ manifest.actions.isSome ∨ manifest.profiles.isSome then
    let others := (manifest.actions.getD []).filter (· ≠ py "Action.Submit")
    some (if cardProfileV2 ∈ manifest.profiles.getD [] then py "Action.Submit" :: others
      else others)
  else none

/-- `frozenset(names or ())` of an authoritative manifest. -/
def derivedNames (manifest : CardProfileManifest) (names : Option (List PyStr)) :
    Option (List PyStr) :=
  if manifest.available then some (names.getD []) else names

/-- `derive_card_capabilities` -/
def deriveCardCapabilities (manifest : CardProfileManifest) : Option CardCapabilities := do
  let limit (name : String) (ceiling : Int) :=
    positiveLimit world ceiling (Json.field (py name) manifest.limits)
  let maxNodes ← limit "max_nodes" defaultMaxCardNodes
  let maxDepth ← limit "max_depth" defaultMaxCardDepth
  let maxPayloadBytes ← limit "max_payload_bytes" defaultMaxCardPayloadBytes
  let maxInputTextBytes ← limit "max_input_text_bytes" defaultMaxInputTextBytes
  let maxInputsBytes ← limit "max_inputs_bytes" defaultMaxInputsBytes
  return {
    authoritative := manifest.available
    enabled := manifest.enabled
    elements := derivedNames manifest manifest.elements
    inputs := derivedNames manifest manifest.inputs
    actions := derivedActions manifest
    profiles := if manifest.available then some (manifest.profiles.getD []) else none
    cardVersion := if manifest.available then manifest.cardVersion else none
    maxNodes, maxDepth, maxPayloadBytes, maxInputTextBytes, maxInputsBytes }

/-- `card_delivery_enabled` and `_profile_enabled` -/
def profileEnabled (manifest : CardProfileManifest) (profile : PyStr) : Bool :=
  if manifest.available then
    manifest.enabled && manifest.profiles.any (profile ∈ ·) &&
      manifest.cardVersion = some Rendering.cardVersion
  else world.configuredEnabled && profile ≠ cardProfileV2

/-- `CardProfileCache`: a manifest and when it expires. -/
abbrev CardProfileCache := Option (CardProfileManifest × Int)

def cardProfileTtl : Int := 60

/-- `CardProfileCache.get` -/
def CardProfileCache.get (cache : CardProfileCache) (now : Int) : CardProfileCache :=
  cache.filter fun entry => now < entry.2

/-- The body of `send_card_message`. -/
structure CardPost where
  channelId : PyStr
  channelType : ChannelType
  card : Members
  plain : PyStr
  profile : PyStr
  clientMsgNo : PyStr

/-- The body of `edit_card_message`. -/
structure CardEdit where
  channelId : PyStr
  channelType : ChannelType
  messageId : PyStr
  card : Members
  plain : PyStr
  profile : PyStr
  cardSeq : Int
  transient : Bool

inductive ToolPost where
  | profile
  | message (request : SendRequest)
  | card (post : CardPost)
  | edit (edit : CardEdit)

mutual

/-- `card_contains_interaction` -/
def containsInteraction : Json → Bool
  | .arr items => anyInteraction items
  | .obj members =>
    ((stringOf (Json.field (py "type") members)).any fun name =>
      (py "Input.").isPrefixOf name || name = py "Action.Submit") || anyMember members
  | _ => false

def anyInteraction : List Json → Bool
  | [] => false
  | item :: rest => containsInteraction item || anyInteraction rest

def anyMember : List (PyStr × Json) → Bool
  | [] => false
  | (_, value) :: rest => containsInteraction value || anyMember rest

end

/-- `resolve_card_profile`, of a profile that is known. -/
def resolveCardProfile (card : Members) (requested : PyStr) : PyStr :=
  if containsInteraction (.obj card) then cardProfileV2 else requested

/-- The request of `send_card_message`; `none` for a card beyond the limits. -/
def cardPost (route : TrustedOctoRoute) (card : Members) (plain requested : PyStr) :
    Option CardPost :=
  let profile := resolveCardProfile card requested
  match validateCardLimits card plain none profile with
  | .error _ => none
  | .ok _ =>
    some ⟨route.channelId, route.channelType, card, plain, profile, world.replies.uuid4 1⟩

/-- The payload of `card_payload_bytes` with the members of an edit. -/
def editPayload (card : Members) (plain profile : PyStr) (cardSeq : Int) (transient : Bool) :
    Json :=
  .obj [(py "type", .int interactiveCardType), (py "profile", .str profile),
    (py "card_version", .str Rendering.cardVersion), (py "card", .obj card),
    (py "plain", .str plain), (py "card_seq", .int cardSeq), (py "transient", .bool transient)]

/-- The `content_edit` of an edit. -/
def editFrame (card : Members) (plain profile : PyStr) (cardSeq : Int) (transient : Bool) : Json :=
  .obj [(py "type", .int interactiveCardType), (py "card", .obj card),
    (py "profile", .str profile), (py "card_version", .str Rendering.cardVersion),
    (py "plain", .str plain), (py "card_seq", .int cardSeq), (py "transient", .bool transient)]

def encodesWithin (limit : Int) : Option Bytes → Bool
  | none => false
  | some bytes => (bytes.length : Int) ≤ limit

/-- The checks of `edit_card_message`. -/
def editAllowed (card : Members) (plain profile : PyStr) (cardSeq : Int) (transient : Bool) :
    Bool :=
  0 < cardSeq && (countCardNodes card : Int) ≤ defaultMaxCardNodes &&
    (cardMaxDepth card : Int) ≤ defaultMaxCardDepth &&
    encodesWithin defaultMaxCardPayloadBytes
      (goJsonBytes (editPayload card plain profile cardSeq transient)) &&
    encodesWithin defaultMaxCardPayloadBytes
      (utf8Encode (editFrame card plain profile cardSeq transient).print)

/-- The members of an answer beside `ok`, or its error. -/
abbrev ToolResult := Except PyStr Members

def noIdentityError : PyStr :=
  py "Octo adapter is not connected for this conversation's identity"

def deliveryFailed : PyStr := py "Octo card delivery failed"

/-- `_receipt_fields` -/
def receiptFields (receipt : SendMessageResult) : Members :=
  (py "message_id", .str receipt.messageId) ::
    optionalMember "message_seq" (receipt.messageSeq.map .int) ++
    [(py "client_msg_no", .str receipt.clientMsgNo)]

/-- What a call of a tool posts and answers, and what it leaves behind. -/
structure CardCall where
  posts : List ToolPost
  result : ToolResult
  cache : CardProfileCache
  registry : CardRegistry

/-- What `_parse_send_message_result` makes of the answer to the message. -/
def receipt : Except PyStr SendMessageResult :=
  match world.answer with
  | .error error => .error error
  | .ok body => parseSendMessageResult world.replies body (world.replies.uuid4 1)

/-- The request of `_send_plain`. -/
def plainRequest (route : TrustedOctoRoute) (onBehalfOf : Option PyStr) (plain : PyStr) :
    SendRequest :=
  ⟨route.channelId, route.channelType, plain, none, none, world.replies.uuid4 1, given onBehalfOf⟩

variable {Names : Type} (runtime : ToolRuntime Names) (route : TrustedOctoRoute)

/-- `_send_plain`, behind what was asked before. -/
def sendPlain (asked : List ToolPost) (plain : PyStr) (cache : CardProfileCache)
    (registry : CardRegistry) : CardCall where
  posts := asked ++ [.message (plainRequest world route runtime.onBehalfOf plain)]
  result := match receipt world with
    | .error _ => .error deliveryFailed
    | .ok receipt => .ok ((py "mode", .str (py "plain")) :: receiptFields receipt)
  cache := cache
  registry := registry

/-- `_get_card_profile`: what it asks, the manifest, and the cache that is left. -/
def negotiate (cache : CardProfileCache) :
    List ToolPost × Option CardProfileManifest × CardProfileCache :=
  match CardProfileCache.get cache world.asked with
  | some entry => ([], some entry.1, some entry)
  | none =>
    match getCardProfile world with
    | none => ([.profile], none, none)
    | some manifest => ([.profile], some manifest, some (manifest, world.answered + cardProfileTtl))

/-- The choice between a card and its plain text, which both tools make. -/
def chooseCard (plain : PyStr) (profile : PyStr) (cache : CardProfileCache)
    (registry : CardRegistry)
    (send : List ToolPost → CardCapabilities → CardProfileCache → Option CardCall) : CardCall :=
  if ¬ world.opens then ⟨[], .error deliveryFailed, cache, registry⟩
  else if runtime.onBehalfOf.isSome then sendPlain world runtime route [] plain cache registry
  else
    match negotiate world cache with
    | (asked, none, cache) => sendPlain world runtime route asked plain cache registry
    | (asked, some manifest, cache) =>
      if ¬ profileEnabled world manifest profile then
        sendPlain world runtime route asked plain cache registry
      else
        match deriveCardCapabilities world manifest with
        | none => ⟨asked, .error deliveryFailed, cache, registry⟩
        | some capabilities =>
          match send asked capabilities cache with
          | none => sendPlain world runtime route asked plain cache registry
          | some call => call

/-- `args.get(key, ())` -/
def argument (args : Members) (key : String) : Json := (Dict.lookup (py key) args).getD (.arr [])

/-- The blocks of a display card, as far as they can be counted. -/
def displayBlocks : Json → Except RenderError (List Json)
  | .str _ => .error (.cardLimit "display card exceeds block limit")
  | value => sequence value

def displayCard (args : Members) (capabilities : Option CardCapabilities) :
    Except RenderError CardRenderResult :=
  match displayBlocks (argument args "blocks") with
  | .error error => .error error
  | .ok blocks => buildDisplayCard world.urls blocks (Json.field (py "title") args) capabilities

/-- The display card that the server offers to show; `none` falls back to the plain text. -/
def sendDisplay (args : Members) (registry : CardRegistry) (asked : List ToolPost)
    (capabilities : CardCapabilities) (cache : CardProfileCache) : Option CardCall :=
  match displayCard world args (some capabilities) with
  | .error _ => none
  | .ok rendered =>
    match cardPost world route rendered.card rendered.plain cardProfileV1 with
    | none => some ⟨asked, .error deliveryFailed, cache, registry⟩
    | some post =>
      some {
        posts := asked ++ [.card post]
        result := match receipt world with
          | .error _ => .error deliveryFailed
          | .ok receipt => .ok ((py "mode", .str (py "card")) :: receiptFields receipt)
        cache := cache
        registry := registry }

def unavailableTitle : PyStr := py "交互卡"

def unavailableText : PyStr := py "该交互卡不可用，请重试。"

/-- The card that takes the place of a form without a session. -/
def unavailableCard : Except RenderError CardRenderResult :=
  buildDisplayCard world.urls
    [.obj [(py "type", .str (py "text")), (py "text", .str unavailableText)]]
    (.str unavailableTitle) none

/-- The edit that retires a form without a session. -/
def retirement (messageId : PyStr) : Option CardEdit :=
  match unavailableCard world with
  | .error _ => none
  | .ok unavailable =>
    let profile := resolveCardProfile unavailable.card cardProfileV2
    if editAllowed unavailable.card unavailable.plain profile 1 false then
      some ⟨route.channelId, route.channelType, messageId, unavailable.card, unavailable.plain,
        profile, 1, false⟩
    else none

/-- `CardSession(…)` of a form that was sent. -/
def formSessionOf (capabilities : CardCapabilities) (rendered : InteractiveCard)
    (messageId : PyStr) : CardSession where
  messageId := messageId
  bindingId := world.replies.uuid4 0
  sessionKey := route.sessionKey
  chatId := route.chatId
  channelId := route.channelId
  channelType := route.channelType
  requesterUid := route.requesterUid
  card := .obj rendered.card
  plain := rendered.plain
  actionLabels := rendered.actionLabels
  inputIds := rendered.inputIds
  actionChannelIds :=
    if route.channelType = .DM then
      if route.channelId = runtime.robotId then [route.channelId]
      else [route.channelId, runtime.robotId]
    else [route.channelId]
  maxInputTextBytes := capabilities.maxInputTextBytes
  maxInputsBytes := capabilities.maxInputsBytes
  clarify := none
  kind := py "interactive"

/-- What follows the receipt of a form: its session, or else its retirement. -/
def bindForm (asked : List ToolPost) (post : CardPost) (capabilities : CardCapabilities)
    (rendered : InteractiveCard) (cache : CardProfileCache) (registry : CardRegistry)
    (receipt : SendMessageResult) : CardCall :=
  match registry.register world.admission.now world.admission.wall world.admission.moment
      (formSessionOf world runtime route capabilities rendered receipt.messageId) with
  | (.ok _, registry) =>
    { posts := asked ++ [.card post]
      result := .ok ((py "mode", .str (py "card")) ::
        (py "binding_id", .str (world.replies.uuid4 0)) :: receiptFields receipt)
      cache, registry }
  | (.error _, registry) =>
    { posts := asked ++ .card post ::
        ((retirement world route receipt.messageId).map ToolPost.edit).toList
      result := .error deliveryFailed
      cache, registry }

def interactiveArgs (args : Members) : InteractiveArgs where
  title := Json.field (py "title") args
  buttons := argument args "buttons"
  bindingId := .str (world.replies.uuid4 0)
  text := Json.field (py "text") args
  inputs := argument args "inputs"

/-- The form that the server offers to show; `none` falls back to the plain text. -/
def sendForm (args : Members) (registry : CardRegistry) (asked : List ToolPost)
    (capabilities : CardCapabilities) (cache : CardProfileCache) : Option CardCall :=
  match buildInteractiveCard (interactiveArgs world args) (some capabilities) with
  | .error _ => none
  | .ok rendered =>
    match cardPost world route rendered.card rendered.plain cardProfileV2 with
    | none => some ⟨asked, .error deliveryFailed, cache, registry⟩
    | some post =>
      match receipt world with
      | .error _ => some ⟨asked ++ [.card post], .error deliveryFailed, cache, registry⟩
      | .ok receipt =>
        some (bindForm world runtime route asked post capabilities rendered cache registry receipt)

/-- `_TRUSTED_FIELDS` -/
def trustedFields : List PyStr :=
  [py "channel_id", py "channel_type", py "target", py "requester_uid", py "session_key",
    py "binding_id"]

/-- The runtime and the session of the turn that a tool is called in. -/
structure ToolTurn (Names : Type) where
  runtime : Option (ToolRuntime Names)
  routes : Registry
  env : Option SessionEnv
  cache : CardProfileCache
  registry : CardRegistry

/-- What both tools ask before they look at the card. -/
def withConversation (turn : ToolTurn Names) (requireSessionKey : Bool) (unavailable : String)
    (args : Members) (deliver : ToolRuntime Names → TrustedOctoRoute → CardCall) : CardCall :=
  let refused (error : PyStr) : CardCall := ⟨[], .error error, turn.cache, turn.registry⟩
  if args.any (·.1 ∈ trustedFields) then
    refused (py "trusted session fields cannot be supplied")
  else
    match turn.runtime with
    | none => refused noIdentityError
    | some runtime =>
      match trustedRoute world.replies.digits turn.routes runtime turn.env requireSessionKey with
      | none => refused (py unavailable)
      | some route => deliver runtime route

/-- `octo_send_display_card_handler` -/
def octoSendDisplayCard (turn : ToolTurn Names) (args : Members) : CardCall :=
  withConversation world turn false "trusted Octo conversation context is unavailable" args
    fun runtime route =>
      match displayCard world args none with
      | .error _ => ⟨[], .error (py "invalid display card request"), turn.cache, turn.registry⟩
      | .ok rendered =>
        chooseCard world runtime route rendered.plain cardProfileV1 turn.cache turn.registry
          (sendDisplay world route args turn.registry)

/-- `octo_send_interactive_card_handler`; a title that is no text is refused by the same words. -/
def octoSendInteractiveCard (turn : ToolTurn Names) (args : Members) : CardCall :=
  withConversation world turn true "trusted Octo session context is unavailable" args
    fun runtime route =>
      match buildInteractiveCard (interactiveArgs world args) none with
      | .error _ => ⟨[], .error (py "invalid interactive card request"), turn.cache, turn.registry⟩
      | .ok rendered =>
        chooseCard world runtime route rendered.plain cardProfileV2 turn.cache turn.registry
          (sendForm world runtime route args turn.registry)

end OctoChannel.Tools

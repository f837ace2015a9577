import OctoChannel.Adapter.Outbound
import OctoChannel.Adapter.Traffic
import OctoChannel.Cards.ActionText
import OctoChannel.Cards.AtMostOnce

namespace OctoChannel.Adapter

open Foundation Identity Identity.Registry Cards

section

variable {registry : Registry} {request : Request}

private theorem sessionConflict_of_routed {key : PyStr} {owner : RobotId}
    (routed : registry.robotIdForSession key = some owner) :
    registry.sessionConflict key = false := by
  unfold robotIdForSession at routed
  unfold sessionConflict
  cases present : nonempty? key with
  | none => rfl
  | some key =>
    rw [present] at routed
    dsimp only at routed ⊢
    split at routed
    · cases routed
    · rename_i calm
      exact decide_eq_false calm

/-- The session and the target of the request belong to its robot. -/
structure Held (registry : Registry) (request : Request) : Prop where
  target : registry.targetRoutes.get? request.target = some request.robotId
  open' : request.target ∉ registry.targetConflicts
  session : ∀ key ∈ request.sessionKey, registry.robotIdForSession key.val = some request.robotId
  wire : ∀ wire ∈ request.wireTarget,
    registry.targetWireIds.get? request.target = some wire

theorem robotIdForSession_of_calm {key : SessionKey} (calm : key ∉ registry.sessionConflicts) :
    registry.robotIdForSession key.val = registry.sessionRoutes.get? key := by
  simp only [robotIdForSession, nonempty?_val, if_neg calm]

private theorem wire_agrees (accepted : (registry.bindLocked request).1.accepted = true)
    {owner : RobotId} (routed : registry.targetRoutes.get? request.target = some owner) :
    wireDiffers (registry.targetWireIds.get? request.target) request.wireTarget = false := by
  rw [accepted_bindLocked, Bool.not_eq_true', refuses] at accepted
  simp only [Bool.or_eq_false_iff] at accepted
  have agrees := accepted.1.2
  rw [routed, Option.isSome_some, Bool.true_and] at agrees
  exact agrees

private theorem held_bindLocked (inv : registry.Invariant)
    (accepted : (registry.bindLocked request).1.accepted = true) :
    Held (registry.bindLocked request).2 request := by
  have exit := bindLocked_case registry request
  have agrees := @wire_agrees registry request accepted
  revert accepted exit
  generalize (registry.bindLocked request).1 = result
  generalize (registry.bindLocked request).2 = after
  intro accepted exit
  cases exit with
  | refused => cases accepted
  | contestedSession => cases accepted
  | contestedTarget => cases accepted
  | full => cases accepted
  | @filled wire routed known open' calm offered unknown =>
    refine ⟨routed, open', ?_, ?_⟩
    · intro key named
      rw [@robotIdForSession_of_calm (registry.fillWire _ _ wire) key (calm key named)]
      exact known key named
    · intro other given
      rw [Option.mem_def, offered] at given
      cases given
      exact Dict.get?_set_self _ _ _
  | idempotent routed known open' calm settled =>
    refine ⟨routed, open', ?_, ?_⟩
    · intro key named
      rw [robotIdForSession_of_calm (calm key named)]
      exact known key named
    · intro wire given
      have same := agrees routed
      rw [Option.mem_def.mp given] at same settled
      obtain ⟨existing, found⟩ := Option.isSome_iff_exists.mp (settled rfl)
      rw [found] at same ⊢
      simpa [wireDiffers] using same
  | claimed open' calm free target =>
    have claimable : registry.Claimable request := target.imp id And.left
    refine ⟨?_, ?_, ?_, ?_⟩
    · rw [targetRoutes_claim, get?_targetRoutes_recordTarget claimable, if_pos rfl]
    · rw [targetConflicts_claim]
      exact open'
    · intro key named
      have calm' : key ∉ (registry.claim request).sessionConflicts := by
        rw [sessionConflicts_claim]
        exact calm key named
      rw [robotIdForSession_of_calm calm', sessionRoutes_claim inv.bounded named]
      exact Dict.get?_set_self _ _ _
    · intro wire given
      rw [targetWireIds_claim, get?_targetWireIds_recordTarget, if_pos rfl,
        Option.mem_def.mp given, Option.some_or]

/-- A held target is the only one that a lookup of its chat id can name. -/
theorem Held.lookup (held : Held registry request) (inv : registry.Invariant) {chatId : PyStr}
    (same : request.target.2.val = chatId) {lookup : TargetLookup}
    (found : registry.lookupChatId chatId = some lookup) :
    lookup.robotId = request.robotId ∧ lookup.chatType = request.target.1 ∧
      ∀ wire ∈ request.wireTarget, lookup.wireChatId = wire := by
  subst same
  have holder := (inv.indexed request.target request.robotId).mpr held.target
  rw [lookupChatId, nonempty?_val] at found
  dsimp only at found
  split at found
  · cases found
  · rename_i chatType robotId sole
    rw [Registry.sole?_eq_some sole, Finset.mem_singleton] at holder
    obtain ⟨kind, owner⟩ := Prod.mk.inj holder
    split at found
    · cases found
    · split at found
      · rename_i channelType wire typed wired
        cases found
        refine ⟨owner.symm, kind.symm, ?_⟩
        intro given offered
        have here : (chatType, request.target.2) = request.target := Prod.ext kind.symm rfl
        rw [here, held.wire given offered] at wired
        exact (Option.some.inj wired).symm
      · cases found

end

/-- What `build_source` makes of a conversation. -/
structure SessionSource where
  chatId : PyStr
  chatType : ChatType
  userId : PyStr
  userName : PyStr
  profile : Option PyStr

/-- A text message for Hermes. -/
structure MessageEvent where
  text : PyStr
  source : SessionSource
  messageId : PyStr

/-- What Hermes does for the adapter. It keeps the entries of clarify cards, so whether an
entry still is the one that the card was sent for is asked of it. `build_source` keeps the chat
and the user that it is given. -/
structure Hermes where
  buildSource : PyStr → ChatType → PyStr → PyStr → SessionSource
  built : ∀ chatId chatType userId userName,
    (buildSource chatId chatType userId userName).chatId = chatId ∧
      (buildSource chatId chatType userId userName).userId = userId
  groupSessionsPerUser : Bool
  threadSessionsPerUser : Bool
  takesProfile : Bool
  buildSessionKey : SessionSource → Bool → Bool → Option PyStr → Except PyError PyStr
  hasHandler : Bool
  handleMessage : PyStr → MessageEvent → Except PyError Unit
  entryMatches : CardSession → ClarifySession → Bool
  markAwaitingText : ClarifySession → Bool
  resolveGatewayClarify : ClarifySession → PyStr → Bool

/-- The runtime of an identity, and the adapter that it belongs to. -/
structure IdentityRuntime where
  robotId : PyStr
  firstRobotId : PyStr
  gateway : Gateway

/-- A message that went to Hermes, with `current_robot_id` at that moment. -/
structure Injected where
  currentRobotId : PyStr
  event : MessageEvent

/-- What the dispatch callback returns or raises, and the message that it injected. -/
structure CardTurn where
  answer : Except PyError Accepted
  injected : Option Injected

def CardTurn.failed : CardTurn := ⟨.ok (.status (py "failed")), none⟩

/-- The choices that a multi-select card was confirmed with. -/
def selectedIds (clarify : ClarifySession) (action : CardAction) : List PyStr :=
  match clarify.inputId with
  | none => []
  | some inputId =>
    let raw := (Dict.lookup inputId action.inputs).getD []
    if raw = [] then [] else splitCommas raw

def selectedResponse (clarify : ClarifySession) (action : CardAction) : PyStr :=
  let chosen := clarify.actionChoices.filter fun choice => choice.1 ∈ selectedIds clarify action
  (Json.arr (chosen.map fun choice => .str choice.2)).print

/-- Where a message in the conversation of a card goes on the wire. -/
def wireChatIdOf (session : CardSession) : PyStr :=
  if session.channelType = .DM then session.channelId else session.chatId

namespace Hermes

variable (hermes : Hermes)

def resolved (clarify : ClarifySession) (response : PyStr) : Accepted :=
  .status (if hermes.resolveGatewayClarify clarify response then py "completed" else py "expired")

/-- `dispatch_action` of a clarify card, which always answers. -/
def dispatchAction (session : CardSession) (clarify : ClarifySession) (action : CardAction) :
    Accepted :=
  if !hermes.entryMatches session clarify then .status (py "expired")
  else if action.actionId = clarify.otherActionId then
    .status (if hermes.markAwaitingText clarify then py "awaiting_text" else py "expired")
  else if !clarify.multiSelect then
    match clarify.actionChoices.find? fun choice => action.actionId = choice.1 with
    | some choice => hermes.resolved clarify choice.2
    | none => .flag false
  else if noneSelected clarify action then .flag false
  else hermes.resolved clarify (selectedResponse clarify action)

/-- `derive_session_key`: older versions of Hermes do not take the profile. -/
def deriveSessionKey (source : SessionSource) : Except PyError PyStr :=
  hermes.buildSessionKey source hermes.groupSessionsPerUser hermes.threadSessionsPerUser
    (if hermes.takesProfile then source.profile.filter (· ≠ []) else none)

/-- The source of a message in the conversation of a card, from the one who asked for it. -/
def sourceOf (session : CardSession) : SessionSource :=
  hermes.buildSource session.chatId (RouteFlush.chatTypeForChannel session.channelType)
    session.requesterUid session.requesterUid

theorem chatId_sourceOf (session : CardSession) : (hermes.sourceOf session).chatId = session.chatId :=
  (hermes.built _ _ _ _).1

private theorem userId_sourceOf (session : CardSession) :
    (hermes.sourceOf session).userId = session.requesterUid :=
  (hermes.built _ _ _ _).2

def eventOf (session : CardSession) (action : CardAction) : MessageEvent where
  text := formatCardActionText action
  source := hermes.sourceOf session
  messageId := py "card_action:" ++ Json.printInt action.eventId

/-- `dispatch_card_action_event` -/
def dispatchCardActionEvent (currentRobotId : PyStr) (session : CardSession)
    (action : CardAction) : CardTurn :=
  if !hermes.hasHandler then ⟨.ok (.flag false), none⟩
  else
    match hermes.deriveSessionKey (hermes.sourceOf session) with
    | .error error => ⟨.error error, none⟩
    | .ok derived =>
      if derived ≠ session.sessionKey then ⟨.ok (.flag false), none⟩
      else
        let event := hermes.eventOf session action
        ⟨(hermes.handleMessage currentRobotId event).map fun _ => .flag true,
          some ⟨currentRobotId, event⟩⟩

/-- `dispatch_card_session_action` -/
def dispatchCardSessionAction (currentRobotId : PyStr) (session : CardSession)
    (action : CardAction) : CardTurn :=
  match session.clarify with
  | some clarify => ⟨.ok (hermes.dispatchAction session clarify action), none⟩
  | none => hermes.dispatchCardActionEvent currentRobotId session action

/-- The claim of `bind_inbound_route` for the conversation of a card. -/
def routeOf (identity : IdentityRuntime) (session : CardSession) : Traffic.Message where
  robotId := identity.robotId
  sessionKey := (hermes.deriveSessionKey (hermes.sourceOf session)).toOption
  channelType := session.channelType
  chatId := (hermes.sourceOf session).chatId
  wireChatId := some (wireChatIdOf session)
  firstRobotId := identity.firstRobotId

/-- `dispatch_bound_action`; a clarify card comes with no turn context of the adapter. -/
def dispatchBoundAction (identity : IdentityRuntime) (routes : Registry) (session : CardSession)
    (action : CardAction) : CardTurn × Registry :=
  if session.clarify.isSome then (hermes.dispatchCardSessionAction [] session action, routes)
  else
    match hermes.deriveSessionKey (hermes.sourceOf session) with
    | .error _ => (.failed, routes)
    | .ok derived =>
      if derived ≠ session.sessionKey then (.failed, routes)
      else
        match
          Traffic.bindInboundRoute identity.gateway (hermes.routeOf identity session) routes with
        | (.error error, bound) => (⟨.error error, none⟩, bound)
        | (.ok false, bound) => (.failed, bound)
        | (.ok true, bound) =>
          (hermes.dispatchCardSessionAction identity.robotId session action, bound)

end Hermes

variable {hermes : Hermes} {identity : IdentityRuntime} {routes : Registry} {session : CardSession}
  {action : CardAction}

/-- What a press needs for its message to go to Hermes. -/
structure Hermes.Becomes (hermes : Hermes) (identity : IdentityRuntime) (routes : Registry)
    (session : CardSession) : Prop where
  modelBound : session.clarify = none
  derived : hermes.deriveSessionKey (hermes.sourceOf session) = .ok session.sessionKey
  bound : (Traffic.bindInboundRoute identity.gateway (hermes.routeOf identity session) routes).1 =
    .ok true
  handler : hermes.hasHandler = true

/-- The turn of a press that has what it needs. -/
def Hermes.turnOf (hermes : Hermes) (robotId : PyStr) (session : CardSession)
    (action : CardAction) : CardTurn :=
  ⟨(hermes.handleMessage robotId (hermes.eventOf session action)).map fun _ => .flag true,
    some ⟨robotId, hermes.eventOf session action⟩⟩

private theorem dispatchCardActionEvent_of_becomes
    (becomes : hermes.Becomes identity routes session)
    (robotId : PyStr) : hermes.dispatchCardActionEvent robotId session action =
      hermes.turnOf robotId session action := by
  rw [Hermes.dispatchCardActionEvent, becomes.handler, becomes.derived]
  simp [Hermes.turnOf]

private theorem dispatchBoundAction_of_becomes (becomes : hermes.Becomes identity routes session) :
    hermes.dispatchBoundAction identity routes session action =
      (hermes.turnOf identity.robotId session action,
        (Traffic.bindInboundRoute identity.gateway (hermes.routeOf identity session)
          routes).2) := by
  have bound := becomes.bound
  rw [Hermes.dispatchBoundAction, becomes.modelBound, becomes.derived]
  simp only [Option.isSome_none, Bool.false_eq_true, if_false, ne_eq, not_true_eq_false]
  rcases outcome : Traffic.bindInboundRoute identity.gateway (hermes.routeOf identity session)
    routes with ⟨answer, after⟩
  rw [outcome] at bound
  dsimp only at bound
  subst bound
  dsimp only
  rw [Hermes.dispatchCardSessionAction, becomes.modelBound]
  dsimp only
  rw [dispatchCardActionEvent_of_becomes becomes]

/-- Any other press sends no message, and a model-bound one is not told as accepted. -/
structure CardTurn.Silent (turn : CardTurn) (session : CardSession) : Prop where
  injected : turn.injected = none
  unaccepted : session.clarify = none → turn.answer ≠ .ok (.flag true)

theorem silent_failed : CardTurn.failed.Silent session where
  injected := rfl
  unaccepted _ accepted := by cases accepted

private theorem silent_dispatchBoundAction (stays : ¬ hermes.Becomes identity routes session) :
    (hermes.dispatchBoundAction identity routes session action).1.Silent session := by
  unfold Hermes.dispatchBoundAction
  cases bound : session.clarify with
  | some clarify =>
    rw [Option.isSome_some, if_pos rfl, Hermes.dispatchCardSessionAction, bound]
    exact ⟨rfl, fun modelBound => by rw [bound] at modelBound; cases modelBound⟩
  | none =>
    rw [Option.isSome_none, if_neg Bool.false_ne_true]
    split
    · exact silent_failed
    · rename_i derived found
      split
      · exact silent_failed
      · rename_i same
        rw [not_not] at same
        subst same
        split
        · exact ⟨rfl, fun _ accepted => by cases accepted⟩
        · exact silent_failed
        · rename_i after ended
          have handler : hermes.hasHandler = false := by
            rw [← Bool.not_eq_true]
            intro handler
            exact stays ⟨bound, found, by rw [ended], handler⟩
          rw [Hermes.dispatchCardSessionAction, bound]
          dsimp only
          rw [Hermes.dispatchCardActionEvent, handler]
          exact ⟨rfl, fun _ accepted => by cases accepted⟩

/-- The conversation of the card belongs to the robot, and so do its session and its chat. -/
structure LeadsTo (routes : Registry) (robotId : PyStr) (session : CardSession) : Prop where
  robot : ∃ owner : RobotId, owner.val = robotId
  keyed : session.sessionKey ≠ [] →
    (routes.robotIdForSession session.sessionKey).map Subtype.val = some robotId
  chat : routes.chatIdHasState session.chatId = true
  lookup : ∀ lookup, routes.lookupChatId session.chatId = some lookup →
    lookup.robotId.val = robotId ∧
      lookup.chatType = RouteFlush.chatTypeForChannel session.channelType ∧
      lookup.wireChatId.val = wireChatIdOf session

private theorem wireTarget_of_validate {args : BindArgs} {request : Request}
    (valid : args.validate = .ok request) :
    request.wireTarget.map Subtype.val = args.wireTarget := by
  unfold BindArgs.validate at valid
  split at valid
  · cases valid
  · split at valid
    · cases valid
    · split at valid
      · cases valid
      · split at valid
        · cases valid
        · split at valid
          · rename_i unknown
            cases valid
            exact unknown.symm
          · rename_i wire known
            split at valid
            · cases valid
            · rename_i checked found
              cases valid
              rw [known, Option.map_some]
              unfold WireChatId.ofStr? at found
              split at found
              · cases found
                rfl
              · cases found

/-- Unless one identity is alone, an accepted claim leaves the conversation to its robot. -/
private theorem leadsTo_of_becomes (inv : routes.Invariant)
    (becomes : hermes.Becomes identity routes session)
    (several : identity.gateway.soleIdentityMode = false) :
    LeadsTo
      (Traffic.bindInboundRoute identity.gateway (hermes.routeOf identity session) routes).2
      identity.robotId session := by
  have kept := Traffic.invariant_bindInboundRoute inv identity.gateway
    (hermes.routeOf identity session)
  have bound := becomes.bound
  revert kept bound
  rw [Traffic.bindInboundRoute, several, if_neg Bool.false_ne_true]
  cases named : Traffic.bindArgs? identity.gateway (hermes.routeOf identity session) with
  | none =>
    intro kept bound
    cases bound
  | some args =>
    dsimp only
    cases valid : args.validate with
    | error error =>
      rw [bind_of_invalid valid]
      intro kept bound
      cases bound
    | ok request =>
      rw [bind_of_valid valid]
      dsimp only
      intro kept bound
      have held := held_bindLocked inv (Except.ok.inj bound)
      obtain ⟨robot, -, kind, chat⟩ := Traffic.request_of_message named valid
      have wires := wireTarget_of_validate valid
      obtain ⟨-, sessionKey, given, rfl⟩ := Traffic.bindArgs?_eq_some named
      have key := (validate_fields valid).2
      rw [Hermes.routeOf, becomes.derived] at given
      obtain rfl : session.sessionKey = sessionKey := Option.some.inj given
      refine ⟨⟨_, robot⟩, ?_, ?_, ?_⟩
      · intro present
        have claimed : request.sessionKey = some ⟨session.sessionKey, present⟩ :=
          key.trans (nonempty?_val ⟨session.sessionKey, present⟩)
        have owned := held.session _ claimed
        rw [owned, Option.map_some, robot]
        rfl
      · have holder := (kept.indexed request.target request.robotId).mpr held.target
        rw [← hermes.chatId_sourceOf session]
        change chatIdHasState _ (hermes.routeOf identity session).chatId = true
        rw [← chat, chatIdHasState, nonempty?_val]
        exact decide_eq_true (.inl ⟨_, holder⟩)
      · intro lookup found
        obtain ⟨owner, type, wire⟩ := held.lookup kept (chat.trans (hermes.chatId_sourceOf session)) found
        obtain ⟨offered, target, same⟩ := Option.map_eq_some_iff.mp wires
        refine ⟨?_, type.trans kind, ?_⟩
        · rw [owner, robot]
          rfl
        · rw [wire offered target]
          exact same

/-- A message of the turn: it has the robot, the session or neither of them in its context. -/
def InTurn (robotId : PyStr) (session : CardSession) (turn : Turn) : Prop :=
  turn.currentRobotId = robotId ∨ turn.currentRobotId = [] ∧
    (turn.trustedSessionKey = session.sessionKey ∨ turn.trustedSessionKey = [])

/-- With these routes, whatever delivers a message of the turn to the chat of the card is the
robot's runtime. -/
def AnswersThrough (routes : Registry) (robotId : PyStr) (session : CardSession) : Prop :=
  ∀ {Runtime : Type} (adapter : OctoAdapter Runtime) (turn : Turn) (metadata : Option Metadata)
    (runtime : Runtime), adapter.routes = routes → adapter.soleIdentityMode = false →
      InTurn robotId session turn →
        (adapter.resolveOutbound turn session.chatId none metadata).runtime = some runtime →
          adapter.Registered robotId runtime

section

variable {Runtime : Type} {adapter : OctoAdapter Runtime} {runtime : Runtime} {robotId : PyStr}
  {chatId : PyStr} {metadata : Option Metadata}

private theorem registered_of_resolveNamed
    (delivers : (adapter.resolveNamed robotId chatId metadata).runtime = some runtime) :
    adapter.Registered robotId runtime := by
  unfold OctoAdapter.resolveNamed at delivers
  split at delivers
  · cases delivers
  · rename_i found connected
    have same : found = runtime := by
      split at delivers
      · split at delivers
        · cases delivers
        · exact Option.some.inj delivers
      · split at delivers
        · cases delivers
        · exact Option.some.inj delivers
    rw [← same]
    exact OctoAdapter.connectedRuntime_eq_some_iff.mp connected

theorem LeadsTo.registered_of_resolveByChatId (leads : LeadsTo adapter.routes robotId session)
    (delivers : (adapter.resolveByChatId session.chatId metadata).runtime = some runtime) :
    adapter.Registered robotId runtime := by
  unfold OctoAdapter.resolveByChatId at delivers
  split at delivers
  · rw [leads.chat, if_pos rfl] at delivers
    cases delivers
  · rename_i lookup found
    obtain ⟨owner, -⟩ := leads.lookup lookup found
    rw [owner] at delivers
    split at delivers
    · cases delivers
    · rename_i serving connected
      obtain rfl : serving = runtime := Option.some.inj delivers
      exact OctoAdapter.connectedRuntime_eq_some_iff.mp connected

/-- The context of the turn names the robot or nobody. -/
theorem LeadsTo.trustedRobotId (leads : LeadsTo adapter.routes robotId session) {turn : Turn}
    (within : InTurn robotId session turn) :
    adapter.trustedRobotId turn none = some robotId ∨
      adapter.trustedRobotId turn none = some [] := by
  have named : robotId ≠ [] := by
    obtain ⟨owner, rfl⟩ := leads.robot
    exact OctoAdapter.robotId_ne_nil owner
  have calm : adapter.routes.sessionConflict [] = false := rfl
  have unrouted : adapter.routes.robotIdForSession [] = none := rfl
  unfold OctoAdapter.trustedRobotId
  rcases within with same | ⟨unnamed, keyed⟩
  · rw [same, if_pos named]
    exact .inl rfl
  · rw [unnamed, if_neg (not_not_intro rfl)]
    dsimp only [OctoAdapter.outboundKey]
    by_cases present : turn.trustedSessionKey = []
    · rw [present, calm, unrouted]
      exact .inr rfl
    · have same := keyed.resolve_right present
      rw [same] at present ⊢
      obtain ⟨owner, routed, own⟩ := Option.map_eq_some_iff.mp (leads.keyed present)
      rw [sessionConflict_of_routed routed, routed, ← own]
      exact .inl rfl

private theorem LeadsTo.answersThrough {routes : Registry}
    (leads : LeadsTo routes robotId session) :
    AnswersThrough routes robotId session := by
  intro Runtime adapter turn metadata runtime same several within delivers
  subst same
  unfold OctoAdapter.resolveOutbound at delivers
  split at delivers
  · cases delivers
  · rw [several, if_neg Bool.false_ne_true] at delivers
    rcases leads.trustedRobotId within with named | unnamed
    · rw [named] at delivers
      cases robotId with
      | nil => exact leads.registered_of_resolveByChatId delivers
      | cons point rest => exact registered_of_resolveNamed delivers
    · rw [unnamed] at delivers
      exact leads.registered_of_resolveByChatId delivers

end

/-- The message of a press is in the session of its card, is from the one who pressed, and
says what was pressed. -/
structure Faithful (runtime : Json.Runtime) (hermes : Hermes) (robotId : PyStr)
    (session : CardSession) (action : CardAction) (injected : Injected) : Prop where
  robot : injected.currentRobotId = robotId
  keyed : hermes.deriveSessionKey injected.event.source = .ok session.sessionKey
  chat : injected.event.source.chatId = session.chatId
  user : injected.event.source.userId = action.operatorUid
  text : ∀ event, Legible runtime event → parseCardAction runtime event = .ok (some action) →
    Says runtime injected.event.text action

/-- A press becomes one faithful message or none, the answer has its route before the message
goes out, and only a message that Hermes took is told as accepted. -/
structure Turned (runtime : Json.Runtime) (hermes : Hermes) (identity : IdentityRuntime)
    (routes : Registry) (session : CardSession) (action : CardAction)
    (outcome : CardTurn × Registry) : Prop where
  injects : outcome.1.injected.isSome ↔ hermes.Becomes identity routes session
  faithful : ∀ injected, outcome.1.injected = some injected →
    Faithful runtime hermes identity.robotId session action injected
  route : outcome.1.injected.isSome → identity.gateway.soleIdentityMode = false →
    LeadsTo outcome.2 identity.robotId session ∧ AnswersThrough outcome.2 identity.robotId session
  told : session.clarify = none → (outcome.1.answer = .ok (.flag true) ↔
    ∃ injected, outcome.1.injected = some injected ∧
      hermes.handleMessage identity.robotId injected.event = .ok ())
  invariant : outcome.2.Invariant

private theorem operator_of_matches (matched : actionMatchesSession action session = .ok true) :
    action.operatorUid = session.requesterUid := by
  unfold actionMatchesSession at matched
  split at matched
  · cases matched
  · rename_i passed
    simp only [not_or, not_not] at passed
    exact passed.2.2.2.1

private theorem faithful_turnOf {runtime : Json.Runtime}
    (becomes : hermes.Becomes identity routes session)
    (matched : actionMatchesSession action session = .ok true) (robotId : PyStr) :
    Faithful runtime hermes robotId session action ⟨robotId, hermes.eventOf session action⟩ where
  robot := rfl
  keyed := becomes.derived
  chat := hermes.chatId_sourceOf session
  user := (hermes.userId_sourceOf session).trans (operator_of_matches matched).symm
  text _ legible parsed := says_formatCardActionText (readable_parseCardAction legible parsed)

private theorem invariant_dispatchBoundAction (inv : routes.Invariant) :
    (hermes.dispatchBoundAction identity routes session action).2.Invariant := by
  have bound := Traffic.invariant_bindInboundRoute inv identity.gateway
    (hermes.routeOf identity session)
  unfold Hermes.dispatchBoundAction
  split
  · exact inv
  · split
    · exact inv
    · split
      · exact inv
      · split
        all_goals
          rename_i ended
          rw [ended] at bound
          exact bound

private theorem map_flag_eq_ok {outcome : Except PyError Unit} :
    outcome.map (fun _ => Accepted.flag true) = .ok (.flag true) ↔ outcome = .ok () := by
  cases outcome with
  | error error =>
    constructor
    · intro told
      cases told
    · intro taken
      cases taken
  | ok => exact ⟨fun _ => rfl, fun _ => rfl⟩

/-- One press, in a session that it matches. -/
private theorem turned_dispatchBoundAction (runtime : Json.Runtime) (hermes : Hermes)
    (identity : IdentityRuntime) (inv : routes.Invariant)
    (matched : actionMatchesSession action session = .ok true) :
    Turned runtime hermes identity routes session action
      (hermes.dispatchBoundAction identity routes session action) := by
  have after := @invariant_dispatchBoundAction hermes identity routes session action inv
  by_cases becomes : hermes.Becomes identity routes session
  · rw [dispatchBoundAction_of_becomes becomes] at after ⊢
    refine { injects := ⟨fun _ => becomes, fun _ => rfl⟩, faithful := ?_, route := ?_,
             told := ?_, invariant := after }
    · rintro injected ⟨⟩
      exact faithful_turnOf becomes matched identity.robotId
    · intro _ several
      have leads := leadsTo_of_becomes inv becomes several
      exact ⟨leads, leads.answersThrough⟩
    · intro _
      refine map_flag_eq_ok.trans ⟨fun taken => ⟨_, rfl, taken⟩, ?_⟩
      rintro ⟨injected, ⟨⟩, taken⟩
      exact taken
  · have silent := @silent_dispatchBoundAction hermes identity routes session action becomes
    refine { injects := ?_, faithful := ?_, route := ?_, told := ?_, invariant := after }
    · rw [silent.injected]
      exact iff_of_false Bool.false_ne_true becomes
    · intro injected sent
      rw [silent.injected] at sent
      cases sent
    · intro sent
      rw [silent.injected] at sent
      cases sent
    · intro modelBound
      refine iff_of_false (silent.unaccepted modelBound) ?_
      rintro ⟨injected, sent, -⟩
      rw [silent.injected] at sent
      cases sent

/-- In every run of presses and edits, a press whose dispatch is under way becomes one
faithful message of the identity or none, and the answer has its route. -/
theorem cardRun_turned (runtime : Json.Runtime) (hermes : Hermes) (identity : IdentityRuntime)
    (cards : CardRegistry) (now : Int) (events : List CardEvent) {run : Nat}
    (dispatching : Dispatching ((cardMachine cards now).run events) run action session)
    (reachable : routes.Reachable) :
    Turned runtime hermes identity routes session action
      (hermes.dispatchBoundAction identity routes session action) := by
  have exclusive := cardRun_exclusive cards now events
  have matched := exclusive.matched run action session dispatching.claiming
  exact turned_dispatchBoundAction runtime hermes identity reachable.invariant matched

/-- Hermes with one session key and no clarify cards. -/
def plainHermes : Hermes where
  buildSource chatId chatType userId userName := ⟨chatId, chatType, userId, userName, none⟩
  built _ _ _ _ := ⟨rfl, rfl⟩
  groupSessionsPerUser := true
  threadSessionsPerUser := false
  takesProfile := false
  buildSessionKey _ _ _ _ := .ok (py "s")
  hasHandler := true
  handleMessage _ _ := .ok ()
  entryMatches _ _ := false
  markAwaitingText _ := false
  resolveGatewayClarify _ _ := false

/-- One of several identities. -/
def plainIdentity : IdentityRuntime := ⟨py "robot", py "robot", ⟨none, [], false⟩⟩

/-- A press whose dispatch is under way. -/
def pressedRun : List CardEvent := [.press 0 (buttonPress 1) ⟨0, none⟩, .statusUpdated 0]

theorem cardRun_turned_button :
    let runtime : Json.Runtime := ⟨1000, 1000, by decide, by decide, fun _ => "0.0"⟩
    let outcome := plainHermes.dispatchBoundAction plainIdentity .fresh (buttonCard 5).session
      (buttonPress 1)
    Dispatching ((cardMachine (buttonRegistry 5) 0).run pressedRun) 0 (buttonPress 1)
        (buttonCard 5).session ∧ outcome.1.injected.isSome = true ∧
      Turned runtime plainHermes plainIdentity .fresh (buttonCard 5).session (buttonPress 1)
        outcome := by
  intro runtime outcome
  have dispatching : Dispatching ((cardMachine (buttonRegistry 5) 0).run pressedRun) 0
      (buttonPress 1) (buttonCard 5).session := ⟨1, rfl⟩
  refine ⟨dispatching, by decide +kernel, ?_⟩
  exact cardRun_turned runtime plainHermes plainIdentity (buttonRegistry 5) 0 pressedRun
    dispatching .fresh

end OctoChannel.Adapter

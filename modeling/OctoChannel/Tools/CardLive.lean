import OctoChannel.Cards.Capacity
import OctoChannel.Mentions.Pointing
import OctoChannel.Tools.CardPosts

/-! What the card tools guarantee: they keep to the conversation of the turn and deliver one
text once, and a form that the server took is live as long as its session was admitted. -/

namespace OctoChannel.Tools

open Foundation Identity Cards Chats Rendering Adapter.Replies Progress

/-- Where a request writes to. -/
def ToolPost.address : ToolPost → Option (PyStr × ChannelType)
  | .profile => none
  | .message request => some (request.channelId, request.channelType)
  | .card post => some (post.channelId, post.channelType)
  | .edit change => some (change.channelId, change.channelType)

/-- The text of a new message. -/
def ToolPost.delivered : ToolPost → Option PyStr
  | .message request => some request.content
  | .card post => some post.plain
  | .profile | .edit .. => none

def CardCall.delivered (call : CardCall) : List PyStr := call.posts.filterMap ToolPost.delivered

/-- Nothing but the card profile was asked for. -/
def OnlyAsked (posts : List ToolPost) : Prop := ∀ post ∈ posts, post = .profile

section Choosing

variable {world : CardWorld} {Names : Type} {runtime : ToolRuntime Names}
  {route : TrustedOctoRoute} {plain profile : PyStr} {cache : CardProfileCache}
  {registry : CardRegistry}
  {send : List ToolPost → CardCapabilities → CardProfileCache → Option CardCall}

private theorem negotiate_asks (world : CardWorld) (cache : CardProfileCache) :
    OnlyAsked (negotiate world cache).1 := by
  unfold negotiate
  split
  · intro post member
    cases member
  · split
    · exact fun post => List.mem_singleton.mp
    · exact fun post => List.mem_singleton.mp

/-- What the server offers at the time of the call, when cards may be sent at all. -/
structure Offers (world : CardWorld) (runtime : ToolRuntime Names) (cache : CardProfileCache)
    (profile : PyStr) (capabilities : CardCapabilities) : Prop where
  own : runtime.onBehalfOf = none
  manifest : ∃ manifest, (negotiate world cache).2.1 = some manifest ∧
    profileEnabled world manifest profile = true ∧
    deriveCardCapabilities world manifest = some capabilities

/-- No session can be opened, or a limit of the server is beyond every double. -/
def Blocked (world : CardWorld) (runtime : ToolRuntime Names) (cache : CardProfileCache)
    (profile : PyStr) : Prop :=
  world.opens = false ∨ runtime.onBehalfOf = none ∧ ∃ manifest,
    (negotiate world cache).2.1 = some manifest ∧ profileEnabled world manifest profile = true ∧
    deriveCardCapabilities world manifest = none

/-- The outcomes of the choice between a card and its plain text. -/
inductive Chosen (world : CardWorld) (runtime : ToolRuntime Names) (route : TrustedOctoRoute)
    (plain profile : PyStr) (cache : CardProfileCache) (registry : CardRegistry)
    (send : List ToolPost → CardCapabilities → CardProfileCache → Option CardCall) :
    CardCall → Prop
  | failed (asked : List ToolPost) (left : CardProfileCache) (only : OnlyAsked asked)
    (blocked : Blocked world runtime cache profile) :
    Chosen world runtime route plain profile cache registry send
      ⟨asked, .error deliveryFailed, left, registry⟩
  | plain (asked : List ToolPost) (left : CardProfileCache) (only : OnlyAsked asked) :
    Chosen world runtime route plain profile cache registry send
      (sendPlain world runtime route asked plain left registry)
  | sent (asked : List ToolPost) (left : CardProfileCache) (only : OnlyAsked asked)
    (capabilities : CardCapabilities) (call : CardCall)
    (offered : Offers world runtime cache profile capabilities)
    (posted : send asked capabilities left = some call) :
    Chosen world runtime route plain profile cache registry send call

theorem chooseCard_chosen :
    Chosen world runtime route plain profile cache registry send
      (chooseCard world runtime route plain profile cache registry send) := by
  have nothing : OnlyAsked [] := fun post member => by cases member
  have asks := negotiate_asks world cache
  unfold chooseCard
  by_cases opens : world.opens = true
  · rw [if_neg (not_not.mpr opens)]
    by_cases own : runtime.onBehalfOf = none
    · rw [if_neg (by simp [own])]
      rcases answered : negotiate world cache with ⟨asked, manifest, left⟩
      rw [answered] at asks
      cases manifest with
      | none => exact .plain asked left asks
      | some manifest =>
        dsimp only
        by_cases enabled : profileEnabled world manifest profile = true
        · rw [if_neg (not_not.mpr enabled)]
          cases derived : deriveCardCapabilities world manifest with
          | none =>
            have blocked : Blocked world runtime cache profile :=
              .inr ⟨own, manifest, by rw [answered], enabled, derived⟩
            exact .failed asked left asks blocked
          | some capabilities =>
            dsimp only
            cases posted : send asked capabilities left with
            | none => exact .plain asked left asks
            | some call =>
              have offered : Offers world runtime cache profile capabilities :=
                ⟨own, manifest, by rw [answered], enabled, derived⟩
              exact .sent asked left asks capabilities call offered posted
        · rw [if_pos enabled]
          exact .plain asked left asks
    · rw [if_pos (Option.isSome_iff_ne_none.mpr own)]
      exact .plain [] cache nothing
  · rw [if_pos opens]
    exact .failed [] cache nothing (.inl (Bool.eq_false_of_not_eq_true opens))

end Choosing

/-- The tools that send a card. -/
inductive CardTool where
  | display
  | interactive

namespace CardTool

variable {Names : Type} (world : CardWorld) (turn : ToolTurn Names) (args : Members)

def run : CardTool → CardCall
  | .display => octoSendDisplayCard world turn args
  | .interactive => octoSendInteractiveCard world turn args

def requireSessionKey : CardTool → Bool
  | .display => false
  | .interactive => true

def profile : CardTool → PyStr
  | .display => cardProfileV1
  | .interactive => cardProfileV2

/-- The card that the arguments ask for, with its plain text. -/
def build (capabilities : Option CardCapabilities) :
    CardTool → Except RenderError (Members × PyStr)
  | .display => (displayCard world args capabilities).map fun card => (card.card, card.plain)
  | .interactive =>
    (buildInteractiveCard (interactiveArgs world args) capabilities).map fun card =>
      (card.card, card.plain)

variable {world turn args}

private theorem build_plain {first second : Option CardCapabilities} {shown other : Members × PyStr}
    (tool : CardTool) (built : tool.build world args first = .ok shown)
    (again : tool.build world args second = .ok other) : shown.2 = other.2 := by
  cases tool with
  | display =>
    obtain ⟨rendered, ran, rfl⟩ := ok_of_map built
    obtain ⟨rerendered, reran, rfl⟩ := ok_of_map again
    unfold displayCard at ran reran
    cases counted : displayBlocks (argument args "blocks") with
    | error error => simp [counted] at ran
    | ok blocks =>
      rw [counted] at ran reran
      exact displayCard_plain ran reran
  | interactive =>
    obtain ⟨rendered, ran, rfl⟩ := ok_of_map built
    obtain ⟨rerendered, reran, rfl⟩ := ok_of_map again
    exact interactiveCard_plain ran reran

end CardTool

/-- No conversation is named that the tool may act in. -/
def Unaddressed {Names : Type} (world : CardWorld) (turn : ToolTurn Names) (args : Members)
    (requireSessionKey : Bool) : Prop :=
  (∃ member ∈ args, member.1 ∈ trustedFields) ∨ turn.runtime = none ∨
    ∃ runtime, turn.runtime = some runtime ∧
      trustedRoute world.replies.digits turn.routes runtime turn.env requireSessionKey = none

/-- A call keeps to the conversation of its turn: it delivers the text of the card once, as a
card only where the server offers it, and tells whether it was delivered. -/
structure Routed {Names : Type} (world : CardWorld) (turn : ToolTurn Names) (args : Members)
    (tool : CardTool) (runtime : ToolRuntime Names) (route : TrustedOctoRoute)
    (call : CardCall) : Prop where
  address : ∀ post ∈ call.posts, ∀ address, post.address = some address →
    address = (route.channelId, route.channelType)
  text : call.delivered = [] ∨
    ∃ shown, tool.build world args none = .ok shown ∧ call.delivered = [shown.2]
  reached : call.delivered = [] → (tool.build world args none).isOk = false ∨
    Blocked world runtime turn.cache tool.profile
  offered : ∀ post, .card post ∈ call.posts → post.profile = tool.profile ∧
    ∃ capabilities, Offers world runtime turn.cache tool.profile capabilities ∧
      tool.build world args (some capabilities) = .ok (post.card, post.plain)
  revised : ∀ edit, .edit edit ∈ call.posts → tool = .interactive ∧
    ∃ post answer, .card post ∈ call.posts ∧ receipt world = .ok answer ∧
      edit.messageId = answer.messageId
  told : call.result.isOk = true ↔
    call.delivered ≠ [] ∧ (receipt world).isOk = true ∧ ∀ edit, .edit edit ∉ call.posts

section Routing

variable {world : CardWorld} {Names : Type} {turn : ToolTurn Names} {args : Members}
  {tool : CardTool} {runtime : ToolRuntime Names} {route : TrustedOctoRoute}
  {asked : List ToolPost} {cache : CardProfileCache} {registry : CardRegistry}

theorem OnlyAsked.delivers (only : OnlyAsked asked) : asked.filterMap ToolPost.delivered = [] := by
  apply List.filterMap_eq_nil_iff.mpr
  intro post member
  rw [only post member]
  rfl

theorem OnlyAsked.mem_append {post : ToolPost} {rest : List ToolPost} (only : OnlyAsked asked)
    (other : post ≠ .profile) (member : post ∈ asked ++ rest) : post ∈ rest :=
  (List.mem_append.mp member).resolve_left fun earlier => other (only post earlier)

theorem routed_failed (only : OnlyAsked asked) (error : PyStr)
    (reason : (tool.build world args none).isOk = false ∨
      Blocked world runtime turn.cache tool.profile) :
    Routed world turn args tool runtime route ⟨asked, .error error, cache, registry⟩ where
  address post member address known := by
    rw [only post member] at known
    cases known
  text := .inl only.delivers
  reached _ := reason
  offered post member := by cases only _ member
  revised edit member := by cases only _ member
  told := by
    refine iff_of_false Bool.false_ne_true fun delivered => ?_
    exact delivered.1 only.delivers

private theorem routed_plain (only : OnlyAsked asked) {shown : Members × PyStr}
    (built : tool.build world args none = .ok shown) :
    Routed world turn args tool runtime route
      (sendPlain world runtime route asked shown.2 cache registry) := by
  have delivered : (sendPlain world runtime route asked shown.2 cache registry).delivered =
      [shown.2] := by
    unfold CardCall.delivered sendPlain
    rw [List.filterMap_append, only.delivers]
    rfl
  refine { address := ?_, text := .inr ⟨shown, built, delivered⟩, reached := ?_, offered := ?_,
           revised := ?_, told := ?_ }
  · intro post member address known
    rcases List.mem_append.mp member with earlier | sent
    · rw [only post earlier] at known
      cases known
    · rw [List.mem_singleton.mp sent] at known
      cases known
      rfl
  · intro empty
    cases delivered.symm.trans empty
  · intro post member
    cases List.mem_singleton.mp (only.mem_append (by simp) member)
  · intro edit member
    cases List.mem_singleton.mp (only.mem_append (by simp) member)
  · rw [delivered]
    unfold sendPlain
    dsimp only
    cases answered : receipt world with
    | error error => exact iff_of_false Bool.false_ne_true fun all => Bool.false_ne_true all.2.1
    | ok answer =>
      refine iff_of_true rfl ⟨List.cons_ne_nil _ _, rfl, fun edit member => ?_⟩
      cases List.mem_singleton.mp (only.mem_append (by simp) member)

/-- A card behind what was asked, and perhaps its revision. -/
theorem routed_card (only : OnlyAsked asked) (post : CardPost) (edits : List CardEdit)
    {result : ToolResult} {capabilities : CardCapabilities}
    (channel : (post.channelId, post.channelType) = (route.channelId, route.channelType))
    (profile : post.profile = tool.profile)
    (offered : Offers world runtime turn.cache tool.profile capabilities)
    (built : tool.build world args (some capabilities) = .ok (post.card, post.plain))
    (plain : ∃ shown, tool.build world args none = .ok shown)
    (revised : ∀ edit ∈ edits, tool = .interactive ∧
      (edit.channelId, edit.channelType) = (route.channelId, route.channelType) ∧
      ∃ answer, receipt world = .ok answer ∧ edit.messageId = answer.messageId)
    (told : result.isOk = true ↔ (receipt world).isOk = true ∧ edits = []) :
    Routed world turn args tool runtime route
      ⟨asked ++ .card post :: edits.map .edit, result, cache, registry⟩ := by
  have delivered : (CardCall.mk (asked ++ .card post :: edits.map .edit) result cache
      registry).delivered = [post.plain] := by
    have none : (edits.map ToolPost.edit).filterMap ToolPost.delivered = [] := by
      apply List.filterMap_eq_nil_iff.mpr
      rw [List.forall_mem_map]
      exact fun edit _ => rfl
    have first : (ToolPost.card post).delivered = some post.plain := rfl
    unfold CardCall.delivered
    rw [List.filterMap_append, only.delivers, List.nil_append, List.filterMap_cons_some first, none]
  have edited : ∀ edit, .edit edit ∈ asked ++ .card post :: edits.map ToolPost.edit →
      edit ∈ edits := by
    intro edit member
    rcases List.mem_cons.mp (only.mem_append (by simp) member) with first | later
    · cases first
    · obtain ⟨same, among, equal⟩ := List.mem_map.mp later
      cases equal
      exact among
  refine { address := ?_, text := ?_, reached := ?_, offered := ?_, revised := ?_, told := ?_ }
  · intro sent member address known
    rcases List.mem_append.mp member with earlier | later
    · rw [only sent earlier] at known
      cases known
    · rcases List.mem_cons.mp later with rfl | later
      · cases known
        exact channel
      · obtain ⟨edit, among, rfl⟩ := List.mem_map.mp later
        cases known
        exact (revised edit among).2.1
  · obtain ⟨shown, base⟩ := plain
    exact .inr ⟨shown, base, by rw [delivered, tool.build_plain base built]⟩
  · intro empty
    cases delivered.symm.trans empty
  · intro other member
    rcases List.mem_cons.mp (only.mem_append (by simp) member) with same | later
    · cases same
      exact ⟨profile, capabilities, offered, built⟩
    · obtain ⟨edit, -, equal⟩ := List.mem_map.mp later
      cases equal
  · intro edit member
    obtain ⟨form, -, answer, answered, named⟩ := revised edit (edited edit member)
    exact ⟨form, post, answer, List.mem_append_right _ List.mem_cons_self, answered, named⟩
  · rw [delivered]
    refine told.trans ⟨fun both => ?_, fun all => ⟨all.2.1, ?_⟩⟩
    · refine ⟨List.cons_ne_nil _ _, both.1, fun edit member => ?_⟩
      have among := edited edit member
      rw [both.2] at among
      cases among
    · apply List.eq_nil_iff_forall_not_mem.mpr
      intro edit among
      refine all.2.2 edit (List.mem_append_right _ (List.mem_cons_of_mem _ ?_))
      exact List.mem_map_of_mem among

theorem Offers.stricter {profile : PyStr} {capabilities : CardCapabilities}
    (offered : Offers world runtime cache profile capabilities) : Stricter capabilities := by
  obtain ⟨manifest, -, -, derived⟩ := offered.manifest
  exact deriveCardCapabilities_stricter derived

private theorem displayCard_shown {capabilities : Option CardCapabilities}
    {rendered : CardRenderResult}
    (built : displayCard world args capabilities = .ok rendered) :
    Inert (.obj rendered.card) ∧
      WithinLimits rendered.card rendered.plain capabilities cardProfileV1 := by
  unfold displayCard at built
  cases counted : displayBlocks (argument args "blocks") with
  | error error => simp [counted] at built
  | ok blocks =>
    rw [counted] at built
    obtain ⟨start, state, -, -, -, checked⟩ := buildDisplayCard_ok built
    exact ⟨displayCard_inert built, validateCardLimits_ok.mp checked⟩

private theorem sendDisplay_routed {shown : Members × PyStr} {capabilities : CardCapabilities}
    {call : CardCall} (only : OnlyAsked asked)
    (plain : CardTool.build world args none .display = .ok shown)
    (offered : Offers world runtime turn.cache cardProfileV1 capabilities)
    (posted : sendDisplay world route args registry asked capabilities cache = some call) :
    Routed world turn args .display runtime route call := by
  unfold sendDisplay at posted
  cases built : displayCard world args (some capabilities) with
  | error error => simp [built] at posted
  | ok rendered =>
    obtain ⟨inert, within⟩ := displayCard_shown built
    have request := @cardPost_of_within world capabilities _ _ _ route offered.stricter
      (resolveCardProfile_inert inert _) within
    have rebuilt : CardTool.build world args (some capabilities) .display =
        .ok (rendered.card, rendered.plain) := by
      rw [CardTool.build, built]
      rfl
    rw [built] at posted
    dsimp only at posted
    rw [request] at posted
    cases posted
    refine routed_card only _ [] rfl rfl offered rebuilt ⟨shown, plain⟩
      (fun edit member => by cases member) ?_
    cases receipt world with
    | error error => exact iff_of_false Bool.false_ne_true fun both => Bool.false_ne_true both.1
    | ok answer => exact iff_of_true rfl ⟨rfl, rfl⟩

/-- The request for a form that the server offers to show. -/
theorem cardPost_form {capabilities : CardCapabilities} {rendered : InteractiveCard}
    (offered : Offers world runtime turn.cache cardProfileV2 capabilities)
    (built : buildInteractiveCard (interactiveArgs world args) (some capabilities) =
      .ok rendered) : cardPost world route rendered.card rendered.plain cardProfileV2 =
        some ⟨route.channelId, route.channelType, rendered.card, rendered.plain, cardProfileV2,
          world.replies.uuid4 1⟩ := by
  obtain ⟨form, -, rfl, checked⟩ := buildInteractiveCard_ok built
  exact cardPost_of_within offered.stricter (resolveCardProfile_v2 _)
    (validateCardLimits_ok.mp checked)

private theorem sendForm_routed {shown : Members × PyStr} {capabilities : CardCapabilities}
    {call : CardCall} (only : OnlyAsked asked)
    (plain : CardTool.build world args none .interactive = .ok shown)
    (offered : Offers world runtime turn.cache cardProfileV2 capabilities)
    (posted : sendForm world runtime route args registry asked capabilities cache = some call) :
    Routed world turn args .interactive runtime route call := by
  unfold sendForm at posted
  cases built : buildInteractiveCard (interactiveArgs world args) (some capabilities) with
  | error error => simp [built] at posted
  | ok rendered =>
    have rebuilt : CardTool.build world args (some capabilities) .interactive =
        .ok (rendered.card, rendered.plain) := by
      rw [CardTool.build, built]
      rfl
    rw [built] at posted
    dsimp only at posted
    rw [cardPost_form offered built] at posted
    dsimp only at posted
    cases answered : receipt world with
    | error error =>
      rw [answered] at posted
      cases posted
      refine routed_card only _ [] rfl rfl offered rebuilt ⟨shown, plain⟩
        (fun edit member => by cases member) ?_
      rw [answered]
      exact iff_of_false Bool.false_ne_true fun both => Bool.false_ne_true both.1
    | ok answer =>
      rw [answered] at posted
      cases posted
      unfold bindForm
      split
      · refine routed_card only _ [] rfl rfl offered rebuilt ⟨shown, plain⟩
          (fun edit member => by cases member) ?_
        rw [answered]
        exact iff_of_true rfl ⟨rfl, rfl⟩
      · rw [retirement_eq]
        refine routed_card only _ [_] rfl rfl offered rebuilt ⟨shown, plain⟩ ?_ ?_
        · intro edit member
          rw [List.mem_singleton.mp member]
          exact ⟨rfl, rfl, answer, answered, rfl⟩
        · exact iff_of_false Bool.false_ne_true fun both => by cases both.2

/-- What a call does before it knows its conversation, and what it does in it. -/
theorem withConversation_routed {requireSessionKey : Bool} {unavailable : String}
    {deliver : ToolRuntime Names → TrustedOctoRoute → CardCall}
    {reached : ToolRuntime Names → TrustedOctoRoute → CardCall → Prop}
    (delivers : ∀ runtime route, reached runtime route (deliver runtime route)) :
    let call := withConversation world turn requireSessionKey unavailable args deliver
    (Unaddressed world turn args requireSessionKey ∧ call.posts = [] ∧
      call.result.isOk = false ∧ call.registry = turn.registry) ∨
      (∀ member ∈ args, member.1 ∉ trustedFields) ∧ ∃ runtime route,
        turn.runtime = some runtime ∧
        Trusts world.replies.digits turn.routes runtime turn.env requireSessionKey route ∧
        reached runtime route call := by
  intro call
  by_cases supplied : args.any (·.1 ∈ trustedFields) = true
  · have refused : call = ⟨[], .error (py "trusted session fields cannot be supplied"),
        turn.cache, turn.registry⟩ := if_pos supplied
    obtain ⟨member, present, taken⟩ := List.any_eq_true.mp supplied
    rw [refused]
    exact .inl ⟨.inl ⟨member, present, of_decide_eq_true taken⟩, rfl, rfl, rfl⟩
  · have clean : ∀ member ∈ args, member.1 ∉ trustedFields := by
      intro member present taken
      exact supplied (List.any_eq_true.mpr ⟨member, present, decide_eq_true taken⟩)
    have opened : call = _ := if_neg supplied
    rw [opened]
    cases known : turn.runtime with
    | none => exact .inl ⟨.inr (.inl known), rfl, rfl, rfl⟩
    | some runtime =>
      dsimp only
      cases routed : trustedRoute world.replies.digits turn.routes runtime turn.env
          requireSessionKey with
      | none => exact .inl ⟨.inr (.inr ⟨runtime, known, routed⟩), rfl, rfl, rfl⟩
      | some route =>
        exact .inr ⟨clean, runtime, route, rfl, trustedRoute_eq_some_iff.mp routed,
          delivers runtime route⟩

theorem chosen_routed {shown : Members × PyStr} {call : CardCall}
    {send : List ToolPost → CardCapabilities → CardProfileCache → Option CardCall}
    (plain : tool.build world args none = .ok shown)
    (sent : ∀ asked capabilities left call, OnlyAsked asked →
      Offers world runtime turn.cache tool.profile capabilities →
      send asked capabilities left = some call →
      Routed world turn args tool runtime route call)
    (chosen : Chosen world runtime route shown.2 tool.profile turn.cache registry send call) :
    Routed world turn args tool runtime route call := by
  cases chosen with
  | failed asked left only blocked => exact routed_failed only _ (.inr blocked)
  | plain asked left only => exact routed_plain only plain
  | sent asked left only capabilities call offered posted =>
    exact sent asked capabilities left call only offered posted

end Routing

/-- A call of a tool does nothing exactly where no conversation is named that it may act in, and
in one it delivers the text of its card once. -/
theorem cardTool_routed (world : CardWorld) {Names : Type} (turn : ToolTurn Names)
    (args : Members) (tool : CardTool) :
    let call := tool.run world turn args
    (Unaddressed world turn args tool.requireSessionKey ∧ call.posts = [] ∧
      call.result.isOk = false ∧ call.registry = turn.registry) ∨
      (∀ member ∈ args, member.1 ∉ trustedFields) ∧ ∃ runtime route,
        turn.runtime = some runtime ∧
        Trusts world.replies.digits turn.routes runtime turn.env tool.requireSessionKey route ∧
        Routed world turn args tool runtime route call := by
  have nothing : OnlyAsked [] := fun post member => by cases member
  cases tool with
  | display =>
    apply withConversation_routed
    intro runtime route
    cases built : displayCard world args none with
    | error error =>
      refine routed_failed nothing _ (.inl ?_)
      rw [CardTool.build, built]
      rfl
    | ok rendered =>
      have plain : CardTool.build world args none .display =
          .ok (rendered.card, rendered.plain) := by
        rw [CardTool.build, built]
        rfl
      refine chosen_routed plain ?_ chooseCard_chosen
      intro asked capabilities left call only offered posted
      exact sendDisplay_routed only plain offered posted
  | interactive =>
    apply withConversation_routed
    intro runtime route
    cases built : buildInteractiveCard (interactiveArgs world args) none with
    | error error =>
      refine routed_failed nothing _ (.inl ?_)
      rw [CardTool.build, built]
      rfl
    | ok rendered =>
      have plain : CardTool.build world args none .interactive =
          .ok (rendered.card, rendered.plain) := by
        rw [CardTool.build, built]
        rfl
      refine chosen_routed plain ?_ chooseCard_chosen
      intro asked capabilities left call only offered posted
      exact sendForm_routed only plain offered posted

section Registration

variable {registry : CardRegistry} {now wall : Int} {moment : Moment} {session : CardSession}
  {messageId : PyStr} {entry : CardEntry}

/-- The write behind a change of the registry does not fail. -/
def Writes (registry : CardRegistry) (moment : Moment) : Prop :=
  registry.persistence.isSome = true → moment.failure = none

end Registration

section Forms

variable {world : CardWorld} {Names : Type} {turn : ToolTurn Names} {args : Members}
  {runtime : ToolRuntime Names} {route : TrustedOctoRoute} {capabilities : CardCapabilities}
  {rendered : InteractiveCard} {asked : List ToolPost} {cache : CardProfileCache}
  {registry : CardRegistry}

/-- The session of a form that the server took can be claimed in time, and the person who asked
for it can press its buttons where it was sent. -/
structure FormLive (world : CardWorld) (runtime : ToolRuntime Names) (route : TrustedOctoRoute)
    (capabilities : CardCapabilities) (rendered : InteractiveCard) (session : CardSession)
    (before after : CardRegistry) : Prop where
  claimed : (world.admission.moment.lapse : Int) < before.ttlSeconds →
    ∀ now moment eventId, now < world.admission.now + before.ttlSeconds → Writes after moment →
      (after.claim now moment session.messageId eventId).1 = .ok ⟨.claimed, some session, 1⟩
  channel : ∀ action : CardAction, action.channelType = route.channelType →
    (channelMatches action session = true ↔ action.channelId = route.channelId ∨
      route.channelType = .DM ∧ action.channelId = runtime.robotId)
  pressed : ∀ action, Presses rendered session action →
    (actionMatchesSession action session = .ok true ∧ WithinEvent action ↔
      Fits capabilities action.inputs action.data)

/-- A card without buttons is asked for in the place of the form. Whether the server takes that
request is only logged. -/
def AsksRetirement (call : CardCall) (messageId : PyStr) : Prop :=
  ∃ edit, .edit edit ∈ call.posts ∧ edit.messageId = messageId ∧ edit.cardSeq = 1 ∧
    Inert (.obj edit.card)

/-- How a form that was posted ends. -/
inductive FormEnd (world : CardWorld) (runtime : ToolRuntime Names) (route : TrustedOctoRoute)
    (capabilities : CardCapabilities) (rendered : InteractiveCard) (before : CardRegistry)
    (call : CardCall) : Prop
  /-- The server has not answered with a receipt. -/
  | unanswered (error : PyStr) (refused : receipt world = .error error)
    (told : call.result = .error deliveryFailed) (unchanged : call.registry = before)
  | live (answer : SendMessageResult) (taken : receipt world = .ok answer)
    (told : call.result.isOk = true)
    (admissible : before.Admissible world.admission.now
      (formSessionOf world runtime route capabilities rendered answer.messageId))
    (live : FormLive world runtime route capabilities rendered
      (formSessionOf world runtime route capabilities rendered answer.messageId) before
      call.registry)
    (others : before.Displaces world.admission.now world.admission.moment
      (formSessionOf world runtime route capabilities rendered answer.messageId) call.registry)
  /-- The registry does not admit the session, and enters none. -/
  | refused (answer : SendMessageResult) (taken : receipt world = .ok answer)
    (told : call.result = .error deliveryFailed)
    (inadmissible : ¬ before.Admissible world.admission.now
      (formSessionOf world runtime route capabilities rendered answer.messageId))
    (nothing : before.Shrinks call.registry)
    (retires : AsksRetirement call answer.messageId)
    (others : before.Displaces world.admission.now world.admission.moment
      (formSessionOf world runtime route capabilities rendered answer.messageId) call.registry)
  /-- The session is admitted and its store write fails: the tool takes the form back as above,
  and leaves the session live. -/
  | unsaved (answer : SendMessageResult) (taken : receipt world = .ok answer)
    (told : call.result = .error deliveryFailed)
    (admissible : before.Admissible world.admission.now
      (formSessionOf world runtime route capabilities rendered answer.messageId))
    (unwritten : ¬ Writes before world.admission.moment)
    (live : FormLive world runtime route capabilities rendered
      (formSessionOf world runtime route capabilities rendered answer.messageId) before
      call.registry)
    (retires : AsksRetirement call answer.messageId)
    (others : before.Displaces world.admission.now world.admission.moment
      (formSessionOf world runtime route capabilities rendered answer.messageId) call.registry)

/-- A form that was posted, with its end. -/
structure FormPosted (world : CardWorld) (args : Members) (runtime : ToolRuntime Names)
    (route : TrustedOctoRoute) (before : CardRegistry) (call : CardCall)
    (capabilities : CardCapabilities) (rendered : InteractiveCard) : Prop where
  built : buildInteractiveCard (interactiveArgs world args) (some capabilities) = .ok rendered
  posted : ∃ post, .card post ∈ call.posts ∧ post.card = rendered.card
  ends : FormEnd world runtime route capabilities rendered before call

/-- No form was posted, and no session has changed. -/
def NoForm (turn : ToolTurn Names) (call : CardCall) : Prop :=
  (∀ post, .card post ∉ call.posts) ∧ call.registry = turn.registry

/-- A call posts no form, or one that ends well. -/
def Settles (world : CardWorld) (turn : ToolTurn Names) (args : Members)
    (runtime : ToolRuntime Names) (route : TrustedOctoRoute) (call : CardCall) : Prop :=
  NoForm turn call ∨ ∃ capabilities rendered,
    FormPosted world args runtime route turn.registry call capabilities rendered

end Forms

end OctoChannel.Tools

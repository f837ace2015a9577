import OctoChannel.Identity.Invariant

namespace OctoChannel.Adapter

open Foundation Identity

universe u

/-- The zeros of the decimal digit runs of Unicode; each run has ten digits. -/
def decimalZeros : List Nat :=
  [0x30, 0x660, 0x6f0, 0x7c0, 0x966, 0x9e6, 0xa66, 0xae6, 0xb66, 0xbe6, 0xc66, 0xce6, 0xd66, 0xde6,
    0xe50, 0xed0, 0xf20, 0x1040, 0x1090, 0x17e0, 0x1810, 0x1946, 0x19d0, 0x1a80, 0x1a90, 0x1b50,
    0x1bb0, 0x1c40, 0x1c50, 0xa620, 0xa8d0, 0xa900, 0xa9d0, 0xa9f0, 0xaa50, 0xabf0, 0xff10,
    0x104a0, 0x10d30, 0x11066, 0x110f0, 0x11136, 0x111d0, 0x112f0, 0x11450, 0x114d0, 0x11650,
    0x116c0, 0x11730, 0x118e0, 0x11950, 0x11c50, 0x11d50, 0x11da0, 0x16a60, 0x16ac0, 0x16b50,
    0x1d7ce, 0x1d7d8, 0x1d7e2, 0x1d7ec, 0x1d7f6, 0x1e140, 0x1e2f0, 0x1e950, 0x1fbf0]

/-- `\d` of a regular expression over text. -/
def isDecimal (point : CodePoint) : Bool :=
  decimalZeros.any fun first => first ≤ point.val && point.val ≤ first + 9

/-- `(.+)$`: one line, and behind it at most the newline that ends the text. -/
def wholeLine? (text : PyStr) : Option PyStr :=
  let line := text.takeWhile (· ≠ ch '\n')
  let rest := text.dropWhile (· ≠ ch '\n')
  if line ≠ [] ∧ (rest = [] ∨ rest = [ch '\n']) then some line else none

/-- `^s(\d+)_(.+)$`: the Space and the base uid. -/
def spacePrefix? : PyStr → Option (PyStr × PyStr)
  | first :: rest =>
    match rest.dropWhile isDecimal with
    | separator :: uid =>
      if first = ch 's' ∧ rest.takeWhile isDecimal ≠ [] ∧ separator = ch '_' then
        (wholeLine? uid).map fun base => (rest.takeWhile isDecimal, base)
      else none
    | [] => none
  | [] => none

def extractBaseUid (uid : PyStr) : PyStr :=
  match spacePrefix? uid with
  | some (_, base) => base
  | none => uid

/-- `_resolved_wire_chat_id`: recover snapshots written before wire ids were explicit. -/
def resolvedWireChatId (internalChatId : PyStr) (channelType : ChannelType)
    (persistedWireChatId : PyStr) : PyStr :=
  if channelType = .DM ∧ persistedWireChatId = internalChatId then extractBaseUid internalChatId
  else persistedWireChatId

abbrev Metadata := Dict PyStr Json

/-- What `resolve_outbound` reads of the adapter. -/
structure OctoAdapter (Runtime : Type u) where
  runtimes : List Runtime
  runtimesByRobotId : Dict PyStr Runtime
  isRuntimeConnected : Runtime → Bool
  routes : Registry
  soleIdentityMode : Bool
  legacyPrimaryRobotId : PyStr
  homeChannelChatId : PyStr

/-- The trusted context of a call: `current_robot_id`, and the session key of the
turn that Hermes is running. Either may be empty. -/
structure Turn where
  currentRobotId : PyStr
  trustedSessionKey : PyStr

/-- The triple that `resolve_outbound` returns, and the wire id that the runtime
remembers for the chat in `_space_dm_targets`. -/
structure Outbound (Runtime : Type u) where
  runtime : Option Runtime
  metadata : Option Metadata
  error : PyStr
  spaceDmTarget : Option PyStr

def unknownRouteError : PyStr :=
  py "Octo identity route is not established for this conversation; no other identity was used"

def unavailableIdentityError (robotId : PyStr) : PyStr :=
  py "Octo identity " ++ robotId ++
    py " is offline or no longer configured; the message was not routed through another identity"

namespace OctoAdapter

variable {Runtime : Type u} (adapter : OctoAdapter Runtime)

def refuse (metadata : Option Metadata) (error : PyStr) : Outbound Runtime :=
  ⟨none, metadata, error, none⟩

def serve (runtime : Runtime) (metadata : Option Metadata) : Outbound Runtime :=
  ⟨some runtime, metadata, [], none⟩

/-- A delivery over a looked-up target; a channel type of the caller is kept. -/
def serveTarget (runtime : Runtime) (chatId : PyStr) (metadata : Option Metadata)
    (lookup : TargetLookup) : Outbound Runtime where
  runtime := some runtime
  metadata := some ((metadata.getD .empty).setDefault (py "channel_type")
    (.int lookup.channelType.code))
  error := []
  spaceDmTarget :=
    if lookup.channelType = .DM then
      some (resolvedWireChatId chatId lookup.channelType lookup.wireChatId.val)
    else none

/-- The runtime registered under a robot id, while it is connected. -/
def connectedRuntime (robotId : PyStr) : Option Runtime :=
  (adapter.runtimesByRobotId.get? robotId).filter adapter.isRuntimeConnected

/-- `session_key or self._trusted_session_key()` -/
def outboundKey (turn : Turn) (sessionKey : Option PyStr) : PyStr :=
  match sessionKey with
  | some key => if key = [] then turn.trustedSessionKey else key
  | none => turn.trustedSessionKey

/-- The robot id that the turn context or else the session route names, empty for
neither; `none` for a conflicted session. -/
def trustedRobotId (turn : Turn) (sessionKey : Option PyStr) : Option PyStr :=
  if turn.currentRobotId ≠ [] then some turn.currentRobotId
  else
    let key := outboundKey turn sessionKey
    if adapter.routes.sessionConflict key then none
    else
      match adapter.routes.robotIdForSession key with
      | some robotId => some robotId.val
      | none => some []

/-- Delivery for a named identity. -/
def resolveNamed (robotId chatId : PyStr) (metadata : Option Metadata) : Outbound Runtime :=
  match adapter.connectedRuntime robotId with
  | none => refuse metadata (unavailableIdentityError robotId)
  | some runtime =>
    match adapter.routes.lookupChatId chatId with
    | some lookup =>
      if lookup.robotId.val ≠ robotId then refuse metadata unknownRouteError
      else serveTarget runtime chatId metadata lookup
    | none =>
      if adapter.routes.chatIdHasState chatId then refuse metadata unknownRouteError
      else serve runtime metadata

/-- Delivery from the chat id alone. -/
def resolveByChatId (chatId : PyStr) (metadata : Option Metadata) : Outbound Runtime :=
  match adapter.routes.lookupChatId chatId with
  | none =>
    if adapter.routes.chatIdHasState chatId then refuse metadata unknownRouteError
    else if adapter.homeChannelChatId ≠ [] ∧ chatId = adapter.homeChannelChatId then
      if adapter.legacyPrimaryRobotId = [] then refuse metadata unknownRouteError
      else
        match adapter.connectedRuntime adapter.legacyPrimaryRobotId with
        | none => refuse metadata (unavailableIdentityError adapter.legacyPrimaryRobotId)
        | some runtime => serve runtime metadata
    else refuse metadata unknownRouteError
  | some lookup =>
    match adapter.connectedRuntime lookup.robotId.val with
    | none => refuse metadata (unavailableIdentityError lookup.robotId.val)
    | some runtime => serveTarget runtime chatId metadata lookup

def resolveOutbound (turn : Turn) (chatId : PyStr) (sessionKey : Option PyStr)
    (metadata : Option Metadata) : Outbound Runtime :=
  match adapter.runtimes with
  | [] => refuse metadata (py "Not connected")
  | first :: _ =>
    if adapter.soleIdentityMode then serve first metadata
    else
      match adapter.trustedRobotId turn sessionKey with
      | none => refuse metadata unknownRouteError
      | some [] => adapter.resolveByChatId chatId metadata
      | some robotId => adapter.resolveNamed robotId chatId metadata

/-- The chat id is bound, ambiguous or conflicted. -/
def HasRouteState (routes : Registry) (chatId : PyStr) : Prop :=
  ∃ target : TargetKey, target.2.val = chatId ∧
    ((routes.targetRoutes.get? target).isSome ∨ target ∈ routes.targetConflicts)

/-- The runtime is registered under the robot id, and connected. -/
def Registered (robotId : PyStr) (runtime : Runtime) : Prop :=
  adapter.runtimesByRobotId.get? robotId = some runtime ∧ adapter.isRuntimeConnected runtime = true

/-- The chat id has one holder, unconflicted; the runtime is the holder's; and a
channel type that the caller leaves open is the recorded one. -/
def ServesHolder (chatId : PyStr) (metadata : Option Metadata) (outcome : Outbound Runtime)
    (runtime : Runtime) : Prop :=
  ∃ (target : TargetKey) (robotId : RobotId) (channelType : ChannelType),
    target.2.val = chatId ∧ adapter.routes.holders target.2 = {(target.1, robotId)} ∧
    target ∉ adapter.routes.targetConflicts ∧ adapter.Registered robotId.val runtime ∧
    adapter.routes.targetChannelTypes.get? target = some channelType ∧
    ((metadata.getD .empty).get? (py "channel_type") = none → ∃ resolved,
      outcome.metadata = some resolved ∧
        resolved.get? (py "channel_type") = some (.int channelType.code))

/-- The session route of the call names the robot, and the session is not conflicted. -/
def SessionNames (turn : Turn) (sessionKey : Option PyStr) (robotId : PyStr) : Prop :=
  ∃ owner : RobotId, owner.val = robotId ∧
    adapter.routes.robotIdForSession (outboundKey turn sessionKey) = some owner

/-- The turn context names the robot, or without a turn context the session route. -/
def Names (turn : Turn) (sessionKey : Option PyStr) (robotId : PyStr) : Prop :=
  turn.currentRobotId = robotId ∧ robotId ≠ [] ∨
    turn.currentRobotId = [] ∧ adapter.SessionNames turn sessionKey robotId

/-- The home channel of the profile is served by the connected legacy primary. -/
def ServesHome (chatId : PyStr) (runtime : Runtime) : Prop :=
  chatId = adapter.homeChannelChatId ∧ chatId ≠ [] ∧ adapter.legacyPrimaryRobotId ≠ [] ∧
    adapter.Registered adapter.legacyPrimaryRobotId runtime

/-- Outbound delivery without misrouting, for a reading of which robots are named
and of who may serve a chat id that nobody holds while nobody is named. -/
structure NeverMisroutes (turn : Turn) (chatId : PyStr) (sessionKey : Option PyStr)
    (metadata : Option Metadata) (named : PyStr → Prop) (unheld : Runtime → Prop) : Prop where
  held : HasRouteState adapter.routes chatId → ∀ runtime,
    (adapter.resolveOutbound turn chatId sessionKey metadata).runtime = some runtime →
      adapter.ServesHolder chatId metadata
        (adapter.resolveOutbound turn chatId sessionKey metadata) runtime
  trusted : ∀ robotId, named robotId → ∀ runtime,
    (adapter.resolveOutbound turn chatId sessionKey metadata).runtime = some runtime →
      adapter.Registered robotId runtime
  otherwise : ¬ HasRouteState adapter.routes chatId → (∀ robotId, ¬ named robotId) →
    ∀ runtime, (adapter.resolveOutbound turn chatId sessionKey metadata).runtime = some runtime →
      unheld runtime
  silenced : turn.currentRobotId = [] →
    adapter.routes.sessionConflict (outboundKey turn sessionKey) = true →
      (adapter.resolveOutbound turn chatId sessionKey metadata).runtime = none
  refused : (adapter.resolveOutbound turn chatId sessionKey metadata).runtime = none ↔
    (adapter.resolveOutbound turn chatId sessionKey metadata).error ≠ []

section

variable {routes : Registry} {chatId : PyStr}

theorem chatIdHasState_iff (inv : routes.Invariant) :
    routes.chatIdHasState chatId = true ↔ HasRouteState routes chatId := by
  unfold Registry.chatIdHasState HasRouteState
  cases present : nonempty? chatId with
  | none =>
    refine iff_of_false (by simp) ?_
    rintro ⟨target, rfl, -⟩
    simp at present
  | some chat =>
    obtain rfl := nonempty?_eq_some present
    simp only [decide_eq_true_eq]
    constructor
    · rintro (⟨holder, member⟩ | ⟨target, conflicted, rfl⟩)
      · refine ⟨(holder.1, chat), rfl, .inl ?_⟩
        rw [(inv.indexed (holder.1, chat) holder.2).mp member]
        rfl
      · exact ⟨target, rfl, .inr conflicted⟩
    · rintro ⟨target, same, routed⟩
      obtain rfl : target.2 = chat := Subtype.ext same
      have owner : (routes.targetRoutes.get? target).isSome := by
        rcases routed with routed | conflicted
        · exact routed
        · exact inv.contested target conflicted
      obtain ⟨robotId, owner⟩ := Option.isSome_iff_exists.mp owner
      exact .inl ⟨_, (inv.indexed target robotId).mpr owner⟩

/-- A successful lookup is about the only holder of the chat id. -/
theorem lookupChatId_eq_some {lookup : TargetLookup}
    (found : routes.lookupChatId chatId = some lookup) :
    ∃ target : TargetKey, target.2.val = chatId ∧ target.1 = lookup.chatType ∧
      routes.holders target.2 = {(target.1, lookup.robotId)} ∧
      target ∉ routes.targetConflicts ∧
      routes.targetChannelTypes.get? target = some lookup.channelType := by
  unfold Registry.lookupChatId at found
  split at found
  · cases found
  · rename_i chat present
    split at found
    · cases found
    · rename_i chatType robotId sole
      split at found
      · cases found
      · rename_i unconflicted
        split at found
        · rename_i channelType wire typed wired
          cases found
          exact ⟨(chatType, chat), nonempty?_eq_some present, rfl,
            Registry.sole?_eq_some sole, unconflicted, typed⟩
        · cases found

end

variable {adapter} {turn : Turn} {chatId : PyStr} {sessionKey : Option PyStr}
  {metadata : Option Metadata} {runtime : Runtime}

theorem connectedRuntime_eq_some_iff {robotId : PyStr} :
    adapter.connectedRuntime robotId = some runtime ↔ adapter.Registered robotId runtime := by
  unfold connectedRuntime Registered
  rw [Option.filter_eq_some_iff]

/-- A delivery over a looked-up target serves its holder. -/
private theorem servesHolder_serveTarget {lookup : TargetLookup}
    (found : adapter.routes.lookupChatId chatId = some lookup)
    (registered : adapter.Registered lookup.robotId.val runtime) :
    adapter.ServesHolder chatId metadata (serveTarget runtime chatId metadata lookup) runtime := by
  obtain ⟨target, same, -, sole, unconflicted, typed⟩ := lookupChatId_eq_some found
  refine ⟨target, lookup.robotId, lookup.channelType, same, sole, unconflicted, registered, typed,
    fun absent => ⟨_, rfl, Dict.get?_setDefault_of_absent absent _⟩⟩

theorem robotId_ne_nil (robotId : RobotId) : robotId.val ≠ [] := by
  intro empty
  have valid := robotId.property
  rw [empty] at valid
  cases valid

/-- The trusted robot id is the one that is named, and empty when none is. -/
theorem names_iff {found : PyStr} (trusted : adapter.trustedRobotId turn sessionKey = some found)
    (robotId : PyStr) : adapter.Names turn sessionKey robotId ↔ found = robotId ∧ robotId ≠ [] := by
  unfold trustedRobotId at trusted
  unfold Names SessionNames
  split at trusted
  · rename_i context
    cases trusted
    simp [context]
  · rename_i absent
    rw [not_not] at absent
    dsimp only at trusted
    split at trusted
    · cases trusted
    · rw [absent]
      cases routed : adapter.routes.robotIdForSession (outboundKey turn sessionKey) with
      | some owner =>
        rw [routed] at trusted
        cases trusted
        constructor
        · rintro (⟨rfl, never⟩ | ⟨-, owner', rfl, same⟩)
          · exact absurd rfl never
          · cases same
            exact ⟨rfl, robotId_ne_nil owner⟩
        · rintro ⟨rfl, present⟩
          exact .inr ⟨rfl, owner, rfl, rfl⟩
      | none =>
        rw [routed] at trusted
        cases trusted
        constructor
        · rintro (⟨rfl, never⟩ | ⟨-, owner', -, never⟩)
          · exact absurd rfl never
          · cases never
        · rintro ⟨rfl, never⟩
          exact absurd rfl never

/-- The ways in which `resolve_outbound` ends with several identities. -/
inductive Delivery (adapter : OctoAdapter Runtime) (turn : Turn) (chatId : PyStr)
    (sessionKey : Option PyStr) (metadata : Option Metadata) : Outbound Runtime → Prop where
  | refused (error : PyStr) (text : error ≠ []) :
      Delivery adapter turn chatId sessionKey metadata (refuse metadata error)
  | holder (runtime : Runtime) (lookup : TargetLookup)
      (found : adapter.routes.lookupChatId chatId = some lookup)
      (owner : ∀ robotId, adapter.Names turn sessionKey robotId → lookup.robotId.val = robotId)
      (registered : adapter.Registered lookup.robotId.val runtime) :
      Delivery adapter turn chatId sessionKey metadata (serveTarget runtime chatId metadata lookup)
  | named (runtime : Runtime) (robotId : PyStr) (names : adapter.Names turn sessionKey robotId)
      (only : ∀ other, adapter.Names turn sessionKey other → robotId = other)
      (free : adapter.routes.chatIdHasState chatId = false)
      (registered : adapter.Registered robotId runtime) :
      Delivery adapter turn chatId sessionKey metadata (serve runtime metadata)
  | home (runtime : Runtime) (nobody : ∀ robotId, ¬ adapter.Names turn sessionKey robotId)
      (free : adapter.routes.chatIdHasState chatId = false)
      (served : adapter.ServesHome chatId runtime) :
      Delivery adapter turn chatId sessionKey metadata (serve runtime metadata)

private theorem unavailable_ne_nil (robotId : PyStr) : unavailableIdentityError robotId ≠ [] := by
  unfold unavailableIdentityError
  simp +decide

private theorem unknownRoute_ne_nil : unknownRouteError ≠ [] := by decide

private theorem delivery_named {robotId : PyStr} (names : adapter.Names turn sessionKey robotId)
    (only : ∀ other, adapter.Names turn sessionKey other → robotId = other) :
    adapter.Delivery turn chatId sessionKey metadata
      (adapter.resolveNamed robotId chatId metadata) := by
  unfold resolveNamed
  cases connected : adapter.connectedRuntime robotId with
  | none => exact .refused _ (unavailable_ne_nil robotId)
  | some runtime =>
    have registered := connectedRuntime_eq_some_iff.mp connected
    cases found : adapter.routes.lookupChatId chatId with
    | some lookup =>
      dsimp only
      split
      · exact .refused _ unknownRoute_ne_nil
      · rename_i same
        rw [not_not] at same
        subst same
        exact .holder runtime lookup found only registered
    | none =>
      dsimp only
      split
      · exact .refused _ unknownRoute_ne_nil
      · rename_i free
        exact .named runtime robotId names only (Bool.eq_false_iff.mpr free) registered

private theorem delivery_byChatId (nobody : ∀ robotId, ¬ adapter.Names turn sessionKey robotId) :
    adapter.Delivery turn chatId sessionKey metadata
      (adapter.resolveByChatId chatId metadata) := by
  unfold resolveByChatId
  cases found : adapter.routes.lookupChatId chatId with
  | some lookup =>
    dsimp only
    cases connected : adapter.connectedRuntime lookup.robotId.val with
    | none => exact .refused _ (unavailable_ne_nil _)
    | some runtime =>
      exact .holder runtime lookup found (fun robotId names => absurd names (nobody robotId))
        (connectedRuntime_eq_some_iff.mp connected)
  | none =>
    dsimp only
    split
    · exact .refused _ unknownRoute_ne_nil
    · rename_i free
      split
      · rename_i home
        split
        · exact .refused _ unknownRoute_ne_nil
        · rename_i primary
          cases connected : adapter.connectedRuntime adapter.legacyPrimaryRobotId with
          | none => exact .refused _ (unavailable_ne_nil _)
          | some runtime =>
            refine .home runtime nobody (Bool.eq_false_iff.mpr free) ⟨home.2, ?_, primary, ?_⟩
            · exact home.2 ▸ home.1
            · exact connectedRuntime_eq_some_iff.mp connected
      · exact .refused _ unknownRoute_ne_nil

private theorem resolveOutbound_delivery (multi : adapter.soleIdentityMode = false) :
    adapter.Delivery turn chatId sessionKey metadata
      (adapter.resolveOutbound turn chatId sessionKey metadata) := by
  unfold resolveOutbound
  split
  · exact .refused _ (by decide)
  · rw [multi]
    cases trusted : adapter.trustedRobotId turn sessionKey with
    | none => exact .refused _ unknownRoute_ne_nil
    | some robotId =>
      cases robotId with
      | nil =>
        refine delivery_byChatId ?_
        rintro robotId names
        obtain ⟨rfl, never⟩ := (names_iff trusted robotId).mp names
        exact never rfl
      | cons first rest =>
        refine delivery_named ((names_iff trusted _).mpr ⟨rfl, List.cons_ne_nil _ _⟩) ?_
        exact fun other names => ((names_iff trusted other).mp names).1

/-- With several identities, delivery serves the holder of a chat id or refuses,
obeys the turn context before the session route, and leaves a chat id without
state to the named identity or to the legacy primary as the home channel. -/
theorem resolveOutbound_neverMisroutes (inv : adapter.routes.Invariant)
    (multi : adapter.soleIdentityMode = false) (turn : Turn) (chatId : PyStr)
    (sessionKey : Option PyStr) (metadata : Option Metadata) :
    adapter.NeverMisroutes turn chatId sessionKey metadata (adapter.Names turn sessionKey)
      (adapter.ServesHome chatId) := by
  have free (stateless : adapter.routes.chatIdHasState chatId = false) :
      ¬ HasRouteState adapter.routes chatId := by
    rw [← chatIdHasState_iff inv, stateless]
    exact Bool.false_ne_true
  have delivery := @resolveOutbound_delivery _ adapter turn chatId sessionKey metadata multi
  have silenced (context : turn.currentRobotId = [])
      (conflict : adapter.routes.sessionConflict (outboundKey turn sessionKey) = true) :
      (adapter.resolveOutbound turn chatId sessionKey metadata).runtime = none := by
    have nobody : adapter.trustedRobotId turn sessionKey = none := by
      simp [trustedRobotId, context, conflict]
    unfold resolveOutbound
    rw [multi, nobody]
    cases adapter.runtimes <;> rfl
  generalize resolved : adapter.resolveOutbound turn chatId sessionKey metadata = outcome at *
  refine { held := ?_, trusted := ?_, otherwise := ?_, silenced := ?_, refused := ?_ }
  all_goals rw [resolved]
  · intro state runtime served
    cases delivery with
    | refused error text => cases served
    | holder holder lookup found owner registered =>
      cases served
      exact servesHolder_serveTarget found registered
    | named _ _ _ _ stateless _ => exact absurd state (free stateless)
    | home _ _ stateless _ => exact absurd state (free stateless)
  · intro robotId names runtime served
    cases delivery with
    | refused error text => cases served
    | holder holder lookup found owner registered =>
      cases served
      exact owner robotId names ▸ registered
    | named holder own _ only _ registered =>
      cases served
      exact only robotId names ▸ registered
    | home _ nobody _ _ => exact absurd names (nobody robotId)
  · intro stateless nobody runtime served
    cases delivery with
    | refused error text => cases served
    | holder holder lookup found owner registered =>
      obtain ⟨target, same, -, sole, -⟩ := lookupChatId_eq_some found
      refine absurd ⟨target, same, .inl ?_⟩ stateless
      rw [(inv.indexed target lookup.robotId).mp (sole ▸ Finset.mem_singleton_self _)]
      rfl
    | named _ own names _ _ _ => exact absurd names (nobody own)
    | home holder _ _ home =>
      cases served
      exact home
  · exact silenced
  · cases delivery with
    | refused error text => exact iff_of_true rfl text
    | holder | named | home => exact iff_of_false (fun never => by cases never) fun never => never rfl

/-- Two connected identities; the first holds the group `g1` and is the legacy primary. -/
def sample : OctoAdapter Nat where
  runtimes := [0, 1]
  runtimesByRobotId := (Dict.empty.set (py "alpha") 0).set (py "bravo") 1
  isRuntimeConnected _ := true
  routes := (Registry.fresh.bind (Registry.groupBind "alpha" (some "s1") "g1")).2
  soleIdentityMode := false
  legacyPrimaryRobotId := py "alpha"
  homeChannelChatId := py "home"

theorem invariant_sample : sample.routes.Invariant :=
  Registry.invariant_fresh.bind _

theorem resolveOutbound_neverMisroutes_sample :
    sample.ServesHolder (py "g1") none
      (sample.resolveOutbound ⟨[], py "s1"⟩ (py "g1") none none) 0 := by
  have state : HasRouteState sample.routes (py "g1") :=
    (chatIdHasState_iff invariant_sample).mp (by decide)
  exact (resolveOutbound_neverMisroutes invariant_sample rfl ⟨[], py "s1"⟩ (py "g1") none none).held
    state 0 (by decide)

/-- The home channel is delivered although nobody holds it and nobody is named. -/
theorem home_not_neverMisroutes : ¬ ∀ (adapter : OctoAdapter Nat), adapter.routes.Invariant →
    adapter.soleIdentityMode = false → ∀ turn chatId sessionKey metadata,
      adapter.NeverMisroutes turn chatId sessionKey metadata
        (fun robotId => turn.currentRobotId = robotId ∧ robotId ≠ [] ∨
          adapter.SessionNames turn sessionKey robotId) (fun _ => False) := by
  intro always
  have stateless : ¬ HasRouteState sample.routes (py "home") := by
    rw [← chatIdHasState_iff invariant_sample]
    decide
  refine (always sample invariant_sample rfl ⟨[], []⟩ (py "home") none none).otherwise stateless ?_
    0 (by decide)
  rintro robotId (⟨rfl, never⟩ | ⟨owner, -, routed⟩)
  · exact never rfl
  · cases routed

end OctoAdapter

end OctoChannel.Adapter

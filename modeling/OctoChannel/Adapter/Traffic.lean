import OctoChannel.Adapter.Migration
import OctoChannel.Adapter.RouteFlush
import OctoChannel.Identity.Eviction
import OctoChannel.Identity.Reservation

/-! Inbound traffic while a frozen plan waits for its legacy identity: the guard on
planned targets, flushes in the background, restarts, and the migration at last. -/

namespace OctoChannel.Adapter.Traffic

open Foundation Identity Identity.Registry

variable (runtime : Json.Runtime) (sha256 : Bytes → Bytes)

/-- What `bind_inbound_route` is called with: `sessionKey` is missing when its
derivation failed, and the first runtime has no robot id until it has registered. -/
structure Message where
  robotId : PyStr
  sessionKey : Option PyStr
  channelType : ChannelType
  chatId : PyStr
  wireChatId : Option PyStr
  firstRobotId : PyStr

/-- The target is in `_legacy_plan_targets`. -/
def planned (gateway : Gateway) (message : Message) : Bool :=
  gateway.legacyPlan.any fun route =>
    route.chatType = RouteFlush.chatTypeForChannel message.channelType &&
      route.chatId.val = message.chatId

/-- The robot that a pending migration reserves the planned targets for. -/
def primaryRobotId (gateway : Gateway) (message : Message) : PyStr :=
  gateway.legacyPrimaryRobotId.elim message.firstRobotId (·.val)

/-- A frozen target of a pending migration is refused to any other robot. -/
def frozen (gateway : Gateway) (message : Message) : Bool :=
  gateway.identityPhase = .pending && planned gateway message &&
    (primaryRobotId gateway message = [] || message.robotId ≠ primaryRobotId gateway message)

/-- The `bind` call, when `bind_inbound_route` gets that far. -/
def bindArgs? (gateway : Gateway) (message : Message) : Option BindArgs :=
  RouteFlush.Inbound.bindArgs? {
    robotId := message.robotId
    sessionKey := message.sessionKey
    channelType := message.channelType
    chatId := message.chatId
    wireChatId := message.wireChatId
    frozen := frozen gateway message }

/-- `bind_inbound_route`; its flush request is an event of its own. -/
def bindInboundRoute (gateway : Gateway) (message : Message) (registry : Registry) :
    Except PyError Bool × Registry :=
  if gateway.soleIdentityMode then (.ok true, registry)
  else
    match bindArgs? gateway message with
    | none => (.ok false, registry)
    | some args =>
      match registry.bind args with
      | (.error error, after) => (.error error, after)
      | (.ok result, after) => (.ok result.accepted, after)

/-- The profile, and the body that a flush in the background has taken but not yet
written. -/
structure State where
  profile : Profile
  flight : Option Json

inductive Event where
  | inbound (message : Message)
  | flush
  | write (fault : Fault)
  | restart (cut : Cut) (args : Store.StartArgs)

namespace State

def withRegistry (state : State) (registry : Registry) : State :=
  { state with profile.store.registry := registry }

/-- The first half of a flush takes the body and clears the dirty flag. -/
def beginFlush (state : State) : State :=
  match state.profile.gateway, state.flight with
  | some _, none =>
    { state.withRegistry { state.profile.store.registry with dirty := false } with
      flight := some state.profile.store.registry.bodyLocked }
  | _, _ => state

/-- What the end of a write does to the flags of the registry. -/
def landed (registry : Registry) : WriteEnd → Registry
  | .durable => { registry with restoredFromBackup := false, snapshotCorrupt := false }
  | .failed => { registry with dirty := true }
  | .raised _ => registry

/-- The second half of a flush, outside the registry lock. -/
def endFlush (state : State) (fault : Fault) : State :=
  match state.flight with
  | none => state
  | some body =>
    let (ending, files) := writeSnapshot runtime sha256 state.profile.store.registry body fault
      state.profile.store.disk.routes
    { profile := { state.profile with store := { state.profile.store with
        disk.routes := files
        registry := landed state.profile.store.registry ending } }
      flight := none }

/-- What the end of the process leaves of the route files. -/
def leftFiles (state : State) (cut : Cut) : Files :=
  match state.flight with
  | none => state.profile.store.disk.routes
  | some body =>
    cutOff runtime sha256 state.profile.store.registry body state.profile.store.disk.routes cut

/-- The process ends, in the middle of a write if one is under way, and another one
starts. -/
def restart (state : State) (cut : Cut) (args : Store.StartArgs) : State where
  profile := initializeIdentityState runtime sha256 args
    { state.profile.store with disk.routes := state.leftFiles runtime sha256 cut }
  flight := none

end State

def step (state : State) : Event → State
  | .inbound message =>
    match state.profile.gateway with
    | none => state
    | some gateway =>
      state.withRegistry (bindInboundRoute gateway message state.profile.store.registry).2
  | .flush => state.beginFlush
  | .write fault => state.endFlush runtime sha256 fault
  | .restart cut args => state.restart runtime sha256 cut args

/-- Traffic on a profile from some state on. -/
def machine (profile : Profile) : Machine State Event where
  start := ⟨profile, none⟩
  step := step runtime sha256

/-- The legacy identity registers: a write under way holds the flush lock, so it ends
before the migration writes. -/
def migrate (state : State) (fault : Fault) (registered : Registered) : Profile :=
  let settled := state.endFlush runtime sha256 fault
  match settled.profile.gateway with
  | none => settled.profile
  | some gateway =>
    applyLegacyMigration runtime sha256 registered gateway settled.profile.store

/-- A process that waits for the legacy identity. -/
def waiting (legacy : RobotId) (plan : List PlannedRoute) : Gateway :=
  ⟨some ⟨.pending, some legacy, plan, false⟩, plan, false⟩

/-- The start after these events freezes the plan. -/
structure BecomesPending (begun : List Adapter.Event) (args : Store.StartArgs) (legacy : RobotId)
    (plan : List PlannedRoute) : Prop where
  first : ∀ earlier later, begun = earlier ++ later →
    (Profile.run runtime sha256 earlier).phase runtime sha256 ≠ some .pending
  waiting : (Profile.run runtime sha256 (begun ++ [.start args])).gateway =
    some (waiting legacy plan)

/-- The session key of the message goes with its target. -/
def Message.Homed (home : SessionKey → TargetKey) (message : Message) : Prop :=
  ∀ (key : SessionKey) (chatId : ChatId), message.sessionKey = some key.val →
    message.chatId = chatId.val →
      home key = (RouteFlush.chatTypeForChannel message.channelType, chatId)

/-- The profile freezes a plan that no route is in conflict with, and session keys
determine targets, in the plan and in the traffic after it. -/
structure Given (begun : List Adapter.Event) (args : Store.StartArgs) (legacy : RobotId)
    (plan : List PlannedRoute) (home : SessionKey → TargetKey) (traffic : List Event) : Prop where
  becomes : BecomesPending runtime sha256 begun args legacy plan
  unopposed : ∀ route ∈ plan, Unopposed
    (Profile.run runtime sha256 (begun ++ [.start args])).store.registry legacy route
  plan : ∀ route ∈ plan, home route.sessionKey = route.target
  traffic : ∀ message, .inbound message ∈ traffic → message.Homed home

/-- The writes of the migration go through: no fault, and no text that a route file
cannot hold. -/
structure Through (registry : Registry) (plan : List PlannedRoute) (registered : Registered) :
    Prop where
  routes : registered.routeWrite = .attempted .none
  metadata : registered.metadataWrite = .done
  registry : registry.Printable
  plan : ∀ route ∈ plan, Encodable route.sessionKey.val ∧ Encodable route.chatId.val

/-- The migration has succeeded. -/
structure Migrated (legacy : RobotId) (plan : List PlannedRoute) (profile : Profile) : Prop where
  running : profile.gateway = some ⟨some ⟨.migrated, some legacy, [], false⟩, [], false⟩
  durable : profile.phase runtime sha256 = some .migrated
  owned : ∀ route ∈ plan, profile.store.registry.Owns legacy.val route

/-- A message that gets as far as a planned target brings the wire id that is recorded
there, and for a planned group the one that the plan expects. -/
def WireAgrees (legacy : RobotId) (plan : List PlannedRoute) (state : State) : Event → Prop
  | .inbound message => ∀ gateway args request, state.profile.gateway = some gateway →
    bindArgs? gateway message = some args → args.validate = .ok request →
      ∀ route ∈ plan, request.target = route.target →
        wireDiffers (state.profile.store.registry.targetWireIds.get? route.target)
          request.wireTarget = false ∧
        wireDiffers request.wireTarget (planRequest legacy route).wireTarget = false
  | _ => True

/-- When the legacy identity registers, every planned group id is a wire id, the
targets of the plan find room, and its sessions do not push each other out. -/
structure Bindable (registry : Registry) (legacy : RobotId) (plan : List PlannedRoute) : Prop where
  valid : ∀ route ∈ plan, raises legacy.val route = false
  fits : registry.tables.Fits plan

variable {runtime sha256} {legacy : RobotId} {plan : List PlannedRoute} {gateway : Gateway}
  {message : Message} {args : BindArgs} {request : Request} {registry : Registry}
  {route : PlannedRoute} {home : SessionKey → TargetKey} {state : State}

theorem bindArgs?_eq_some (named : bindArgs? gateway message = some args) :
    frozen gateway message = false ∧ ∃ sessionKey, message.sessionKey = some sessionKey ∧
      args = ⟨message.robotId, some sessionKey,
        (RouteFlush.chatTypeForChannel message.channelType).text, message.chatId,
        message.channelType.code, message.wireChatId, true⟩ := by
  unfold bindArgs? RouteFlush.Inbound.bindArgs? at named
  split at named
  · cases named
  · rename_i open'
    simp only [not_or, Bool.not_eq_true] at open'
    obtain ⟨sessionKey, given, rfl⟩ := Option.map_eq_some_iff.mp named
    exact ⟨open'.2, sessionKey, given, rfl⟩

/-- The fields of a request that was made from a message. -/
theorem request_of_message (named : bindArgs? gateway message = some args)
    (valid : args.validate = .ok request) :
    request.robotId.val = message.robotId ∧
      (∀ key, request.sessionKey = some key → message.sessionKey = some key.val) ∧
      request.target.1 = RouteFlush.chatTypeForChannel message.channelType ∧
      request.target.2.val = message.chatId := by
  obtain ⟨-, sessionKey, given, rfl⟩ := bindArgs?_eq_some named
  obtain ⟨robot, session⟩ := validate_fields valid
  refine ⟨robot, ?_, ?_⟩
  · intro key named
    rw [session, BindArgs.session, Option.bind_some] at named
    rw [given, nonempty?_eq_some named]
  · unfold BindArgs.validate at valid
    split at valid
    · cases valid
    · rw [ChatType.ofStr?_text] at valid
      dsimp only at valid
      split at valid
      · cases valid
      · rename_i chatId present
        have same := nonempty?_eq_some present
        split at valid
        · cases valid
        · split at valid
          · cases valid
            exact ⟨rfl, same⟩
          · split at valid
            · cases valid
            · cases valid
              exact ⟨rfl, same⟩

/-- Whatever the guard lets through respects the routes of the plan. -/
private theorem respects_of_message (member : route ∈ plan)
    (named : bindArgs? (waiting legacy plan) message = some args)
    (valid : args.validate = .ok request) (homed : message.Homed home)
    (own : home route.sessionKey = route.target)
    (agrees : request.target = route.target →
      wireDiffers (registry.targetWireIds.get? route.target) request.wireTarget = false ∧
      wireDiffers request.wireTarget (planRequest legacy route).wireTarget = false) :
    registry.Respects legacy route request := by
  obtain ⟨robot, session, kind, chat⟩ := request_of_message named valid
  refine { home := ?_, robot := ?_, recorded := fun here => (agrees here).1,
           planned := fun here => (agrees here).2 }
  · intro key
    have found := homed route.sessionKey request.target.2 (session _ key) chat.symm
    rw [own, ← kind] at found
    exact found.symm
  · intro here
    have inside : planned (waiting legacy plan) message = true := by
      rw [planned, List.any_eq_true]
      refine ⟨route, member, ?_⟩
      have kind' : route.chatType = RouteFlush.chatTypeForChannel message.channelType := by
        rw [← kind, here]
        rfl
      have chat' : route.chatId.val = message.chatId := by
        rw [← chat, here]
        rfl
      simp [kind', chat']
    have passed := (bindArgs?_eq_some named).1
    have pending : (waiting legacy plan).identityPhase = .pending := rfl
    have primary : primaryRobotId (waiting legacy plan) message = legacy.val := rfl
    simp only [frozen, pending, inside, primary, decide_true, Bool.true_and, Bool.or_eq_false_iff,
      decide_eq_false_iff_not, ne_eq, not_not] at passed
    exact Subtype.ext (robot.trans passed.2)

/-- What `bind_inbound_route` does to the registry. -/
theorem bindInboundRoute_registry (gateway : Gateway) (message : Message) (registry : Registry) :
    (bindInboundRoute gateway message registry).2 =
      if gateway.soleIdentityMode then registry
      else (bindArgs? gateway message).elim registry fun args => (registry.bind args).2 := by
  unfold bindInboundRoute
  split
  · rfl
  · cases bindArgs? gateway message with
    | none => rfl
    | some args =>
      dsimp only [Option.elim]
      split
      · rename_i ended
        rw [ended]
      · rename_i ended
        rw [ended]

/-- An inbound message leaves the planned routes unopposed, whoever receives it. -/
theorem unopposed_bindInboundRoute (inv : registry.Invariant) (member : route ∈ plan)
    (unopposed : registry.Unopposed legacy route) (homed : message.Homed home)
    (own : home route.sessionKey = route.target)
    (agrees : ∀ args request, bindArgs? (waiting legacy plan) message = some args →
      args.validate = .ok request → request.target = route.target →
        wireDiffers (registry.targetWireIds.get? route.target) request.wireTarget = false ∧
        wireDiffers request.wireTarget (planRequest legacy route).wireTarget = false) :
    (bindInboundRoute (waiting legacy plan) message registry).2.Unopposed legacy route := by
  have multi : (waiting legacy plan).soleIdentityMode = false := rfl
  rw [bindInboundRoute_registry, multi, if_neg Bool.false_ne_true]
  cases named : bindArgs? (waiting legacy plan) message with
  | none => exact unopposed
  | some args =>
    dsimp only [Option.elim]
    cases valid : args.validate with
    | error error =>
      rw [bind_of_invalid valid]
      exact unopposed
    | ok request =>
      rw [bind_of_valid valid]
      exact unopposed.bindLocked inv
        (respects_of_message member named valid homed own (agrees args request named valid))

theorem invariant_bindInboundRoute (inv : registry.Invariant) (gateway : Gateway)
    (message : Message) : (bindInboundRoute gateway message registry).2.Invariant := by
  rw [bindInboundRoute_registry]
  split
  · exact inv
  · cases bindArgs? gateway message with
    | none => exact inv
    | some args => exact inv.bind args

end OctoChannel.Adapter.Traffic

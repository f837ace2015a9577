import OctoChannel.Adapter.Waiting

namespace OctoChannel.Adapter.Traffic

open Foundation Identity Identity.Registry

variable {runtime : Json.Runtime} {sha256 : Bytes → Bytes} {legacy : RobotId}
  {plan : List PlannedRoute} {gateway : Gateway} {message : Message} {args : BindArgs}
  {request : Request} {registry : Registry} {route : PlannedRoute} {home : SessionKey → TargetKey}
  {state : State}

/-- A bound plan whose writes go through is migrated. -/
private theorem applyLegacyMigration_done {store : Store} {registered : Registered}
    {bound : Registry}
    (known : registered.robotId = legacy) (taken : store.registry.bindPlan legacy.val plan =
      (.ok true, bound)) (inv : bound.Invariant) (printable : bound.Printable)
    (small : plan.length ≤ maxPersistedRoutes) (routes : registered.routeWrite = .attempted .none)
    (metadata : registered.metadataWrite = .done)
    (owned : ∀ route ∈ plan, bound.Owns legacy.val route) :
    Migrated runtime sha256 legacy plan
      (applyLegacyMigration runtime sha256 registered (waiting legacy plan) store) := by
  obtain ⟨disk, registry, memory, history⟩ := store
  obtain ⟨files, -, flushed⟩ := @Store.bindAndFlush_done runtime sha256
    ⟨disk, registry, memory, { history with applied := (legacy, plan) :: history.applied }⟩ legacy
    plan bound taken inv printable "legacy migration conflicts with an existing identity route"
  obtain ⟨file, read, saved⟩ := @Store.saveMetadata_done runtime sha256
    ⟨{ disk with routes := files }, bound.written, memory,
      { history with applied := (legacy, plan) :: history.applied }⟩
    ⟨.migrated, some legacy, plan.length⟩ small
  have primary : (waiting legacy plan).legacyPrimaryRobotId = some legacy := rfl
  have applied : Store.applyLegacyPlan runtime sha256 ⟨disk, registry, memory, history⟩ legacy plan
      (.attempted .none) .done registered.removed = (.returned (),
        Store.clearPlan ⟨{ disk with metadata := file, routes := files }, bound.written,
          some ⟨.migrated, some legacy, plan.length⟩,
          { history with applied := (legacy, plan) :: history.applied }⟩ registered.removed) := by
    simp [Store.applyLegacyPlan, flushed, saved, Call.andThen]
  have legacyPlan : (waiting legacy plan).legacyPlan = plan := rfl
  unfold applyLegacyMigration
  rw [primary, known, if_neg (not_not.mpr rfl), routes, metadata, legacyPlan, applied]
  refine { running := rfl, durable := ?_, owned := ?_ }
  · rw [Profile.phase, Profile.durable_eq (by rw [Store.clearPlan_metadata]; exact read)]
    rfl
  · intro route member
    rw [Store.clearPlan_registry]
    exact owned route member

/-- A plan that is refused leaves the process waiting. -/
private theorem applyLegacyMigration_refused {store : Store} {registered : Registered}
    {kept : Registry}
    (known : registered.robotId = legacy)
    (refused : store.registry.bindPlan legacy.val plan = (.ok false, kept)) :
    (applyLegacyMigration runtime sha256 registered (waiting legacy plan) store).gateway =
      some (waiting legacy plan) := by
  have primary : (waiting legacy plan).legacyPrimaryRobotId = some legacy := rfl
  have legacyPlan : (waiting legacy plan).legacyPlan = plan := rfl
  unfold applyLegacyMigration
  rw [primary, known, if_neg (not_not.mpr rfl), legacyPlan]
  simp only [Store.applyLegacyPlan, Store.bindAndFlush, refused, Call.andThen]

/-- The end of a write in flight changes no route. -/
private theorem endFlush_registry (state : State) (fault : Fault) :
    (state.endFlush runtime sha256 fault).profile.store.registry.tables =
        state.profile.store.registry.tables ∧
      (state.profile.store.registry.Printable →
        (state.endFlush runtime sha256 fault).profile.store.registry.Printable) := by
  unfold State.endFlush
  split
  · exact ⟨rfl, id⟩
  · rename_i body taken
    rcases writeSnapshot runtime sha256 state.profile.store.registry body fault
      state.profile.store.disk.routes with ⟨_ | _ | _, files⟩
    · exact ⟨rfl, fun printable => { printable with }⟩
    · exact ⟨rfl, fun printable => { printable with }⟩
    · exact ⟨rfl, id⟩

theorem Kept.migrate (kept : Kept runtime sha256 legacy plan state)
    (own : ∀ route ∈ plan, home route.sessionKey = route.target) {registered : Registered}
    (known : registered.robotId = legacy)
    (bindable : Bindable state.profile.store.registry legacy plan)
    (through : Through state.profile.store.registry plan registered) (fault : Fault) :
    Migrated runtime sha256 legacy plan (migrate runtime sha256 state fault registered) := by
  have settled := kept.endFlush fault
  obtain ⟨tables, printable⟩ := @endFlush_registry runtime sha256 state fault
  have inv := settled.recorded.invariant
  have fits := bindable.fits
  rw [← tables] at fits
  have determined : ∀ route ∈ plan, ∀ other ∈ plan,
      route.sessionKey = other.sessionKey → route.target = other.target := by
    intro route first other second same
    rw [← own route first, ← own other second, same]
  obtain ⟨bound, accepted, owned⟩ :=
    bindPlan_of_unopposed inv bindable.valid settled.unopposed determined fits
  have small : plan.length ≤ maxPersistedRoutes := by
    have stage := settled.recorded.stage
    generalize size : plan.length = planSize at stage
    cases stage with
    | pending _ other scheduled tried planned small => exact small
  unfold Traffic.migrate
  dsimp only
  rw [settled.running]
  exact applyLegacyMigration_done known (bindPlan_accepted accepted)
    (carried_of_accepted inv accepted).invariant
    (printable_of_accepted inv (printable through.registry) through.plan accepted) small
    through.routes through.metadata owned

/-- After any traffic that agrees on the planned wire ids, a plan that can be bound
is migrated as soon as its legacy identity registers. -/
theorem traffic_migrated (runtime : Json.Runtime) (sha256 : Bytes → Bytes)
    {begun : List Adapter.Event} {args : Store.StartArgs} {traffic : List Event}
    (given : Given runtime sha256 begun args legacy plan home traffic)
    (agrees : (machine runtime sha256
      (Profile.run runtime sha256 (begun ++ [.start args]))).Along (WireAgrees legacy plan) traffic)
    (registered : Registered) (known : registered.robotId = legacy) (fault : Fault)
    (bindable : Bindable ((machine runtime sha256
      (Profile.run runtime sha256 (begun ++ [.start args]))).run traffic).profile.store.registry
      legacy plan)
    (through : Through ((machine runtime sha256
      (Profile.run runtime sha256 (begun ++ [.start args]))).run traffic).profile.store.registry
      plan registered) :
    Migrated runtime sha256 legacy plan (migrate runtime sha256 ((machine runtime sha256
      (Profile.run runtime sha256 (begun ++ [.start args]))).run traffic) fault registered) :=
  (kept_run given agrees).migrate given.plan known bindable through fault

/-- A group chat with a session of its own, both named by a number. -/
def numberedRoute (number : Nat) : PlannedRoute :=
  ⟨⟨Json.printNat number, Json.printNat_ne_nil number⟩, .group,
    ⟨Json.printNat number, Json.printNat_ne_nil number⟩, .Group⟩

/-- A message to the chat of such a route. -/
def messageTo (robotId : RobotId) (route : PlannedRoute) : Message where
  robotId := robotId.val
  sessionKey := some route.sessionKey.val
  channelType := .Group
  chatId := route.chatId.val
  wireChatId := none
  firstRobotId := []

/-- The first chats, one message for each. -/
def messages (count : Nat) : List Event :=
  (List.range count).map fun number => .inbound (messageTo replacingBot (numberedRoute number))

/-- The only route of the frozen plan. -/
def reservedRoute : PlannedRoute := ⟨⟨py "p", by decide⟩, .group, ⟨py "p", by decide⟩, .Group⟩

theorem numberedRoute_injective {first second : Nat}
    (same : (numberedRoute first).sessionKey = (numberedRoute second).sessionKey) :
    first = second := by
  have texts : Json.printNat first = Json.printNat second := congrArg Subtype.val same
  rw [← Json.readNat_printNat first, texts, Json.readNat_printNat]

theorem numberedRoute_ne_reservedRoute (number : Nat) :
    (numberedRoute number).chatId ≠ reservedRoute.chatId := by
  intro same
  have texts : Json.printNat number = py "p" := congrArg Subtype.val same
  have digits := Json.printNat_digits number (ch 'p') (by rw [texts]; decide)
  exact absurd digits (by decide)

/-- The guard concerns the chats of the plan only. -/
private theorem bindArgs?_messageTo {robotId : RobotId} {route : PlannedRoute}
    (group : route.chatType = .group) (plain : route.channelType = .Group)
    (strange : ∀ other ∈ plan, route.chatId ≠ other.chatId) :
    bindArgs? (waiting legacy plan) (messageTo robotId route) =
      some (planArgs robotId.val route) := by
  have unplanned : planned (waiting legacy plan) (messageTo robotId route) = false := by
    rw [planned, List.any_eq_false]
    intro other member same
    rw [Bool.and_eq_true, decide_eq_true_eq, decide_eq_true_eq] at same
    exact strange other member (Subtype.ext same.2.symm)
  have open' : frozen (waiting legacy plan) (messageTo robotId route) = false := by
    rw [frozen, unplanned, Bool.and_false, Bool.false_and]
  have valid : robotId.val ≠ [] := by
    intro empty
    have property := robotId.property
    rw [empty] at property
    cases property
  rw [bindArgs?, open', RouteFlush.Inbound.bindArgs?, if_neg (by simpa [messageTo] using valid)]
  obtain ⟨sessionKey, chatType, chatId, channelType⟩ := route
  obtain rfl : chatType = .group := group
  obtain rfl : channelType = .Group := plain
  rfl

/-- Messages of a robot to chats outside the plan bind like a plan of its own. -/
private theorem foldl_inbound {robotId : RobotId} {routes : List PlannedRoute} {after : Registry}
    (groups : ∀ route ∈ routes, route.chatType = .group ∧ route.channelType = .Group)
    (strange : ∀ route ∈ routes, ∀ other ∈ plan, route.chatId ≠ other.chatId)
    (running : state.profile.gateway = some (waiting legacy plan))
    (accepted : state.profile.store.registry.bindRoutes robotId.val routes = (.accepted, after)) :
    (routes.map fun route => Event.inbound (messageTo robotId route)).foldl (step runtime sha256)
      state = state.withRegistry after := by
  induction routes generalizing state with
  | nil =>
    cases accepted
    rfl
  | cons route rest ih =>
    simp only [List.forall_mem_cons] at groups strange
    rw [← bound_iff] at accepted
    cases accepted with
    | @cons _ next _ _ _ result taken fine later =>
      have bound : (bindInboundRoute (waiting legacy plan) (messageTo robotId route)
          state.profile.store.registry).2 = next := by
        have multi : (waiting legacy plan).soleIdentityMode = false := rfl
        rw [bindInboundRoute_registry, multi, if_neg Bool.false_ne_true,
          bindArgs?_messageTo groups.1.1 groups.1.2 strange.1, Option.elim, taken]
      have stepped : step runtime sha256 state (.inbound (messageTo robotId route)) =
          state.withRegistry next := by
        simp only [step, running, bound]
      rw [List.map_cons, List.foldl_cons, stepped]
      exact @ih (state.withRegistry next) groups.2 strange.2 running (bound_iff.mp later)

/-- New keys go to the end of tables with room for them. -/
private theorem foldl_enter {routes : List PlannedRoute} (tables : Tables)
    (sessions : (tables.sessions ++ routes.map PlannedRoute.sessionKey).Nodup)
    (targets : (tables.targets ++ routes.map PlannedRoute.target).Nodup)
    (room : tables.sessions.length + routes.length ≤ maxPersistedRoutes) :
    routes.foldl Tables.enter tables =
      ⟨tables.sessions ++ routes.map PlannedRoute.sessionKey,
        tables.targets ++ routes.map PlannedRoute.target⟩ := by
  induction routes generalizing tables with
  | nil => simp
  | cons route rest ih =>
    simp only [List.map_cons, List.length_cons] at sessions targets room
    have newSession : route.sessionKey ∉ tables.sessions := by
      intro member
      exact (List.nodup_append.mp sessions).2.2 _ member _ (List.mem_cons_self ..) rfl
    have newTarget : route.target ∉ tables.targets := by
      intro member
      exact (List.nodup_append.mp targets).2.2 _ member _ (List.mem_cons_self ..) rfl
    have entered : tables.enter route =
        ⟨tables.sessions ++ [route.sessionKey], tables.targets ++ [route.target]⟩ := by
      rw [Tables.enter, if_neg (fun both => newSession both.1)]
      simp only [if_pos (show tables.sessions.length < maxPersistedRoutes by omega), newSession,
        newTarget, if_false]
    rw [List.foldl_cons, entered, ih]
    · simp
    · simpa using sessions
    · simpa using targets
    · simp only [List.length_append, List.length_singleton]
      omega

/-- The numbered chats as one plan. -/
def numberedPlan (count : Nat) : List PlannedRoute := (List.range count).map numberedRoute

private theorem messages_eq (count : Nat) : messages count =
    (numberedPlan count).map fun route => .inbound (messageTo replacingBot route) := by
  rw [messages, numberedPlan, List.map_map]
  rfl

theorem tables_numberedPlan {count : Nat} (small : count ≤ maxPersistedRoutes) :
    (numberedPlan count).foldl Tables.enter fresh.tables =
      ⟨(numberedPlan count).map PlannedRoute.sessionKey,
        (numberedPlan count).map PlannedRoute.target⟩ := by
  have numbers {kind : Type} (field : PlannedRoute → kind)
      (injective : ∀ first second, field (numberedRoute first) = field (numberedRoute second) →
        first = second) : ((numberedPlan count).map field).Nodup := by
    rw [numberedPlan, List.map_map]
    exact List.nodup_range.map fun first second same => injective first second same
  refine foldl_enter fresh.tables ?_ ?_ ?_
  · exact numbers _ fun _ _ => numberedRoute_injective
  · exact numbers _ fun _ _ same => numberedRoute_injective (congrArg Prod.snd same)
  · simpa [numberedPlan, tables, fresh, Dict.empty, Dict.keys] using small

/-- A number below the capacity is a valid wire id. -/
private theorem valid_numberedRoute {number : Nat} (small : number < maxPersistedRoutes) :
    raises replacingBot.val (numberedRoute number) = false := by
  have short : (Json.printNat number).length ≤ 128 := by
    unfold Json.printNat
    split
    · decide
    · rw [List.length_map, List.length_reverse]
      have bound : (Nat.digits 10 number).length ≤ 4 :=
        (Nat.digits_length_le_iff (by decide) number).mpr (lt_of_lt_of_le small (by decide))
      exact bound.trans (by decide)
  have present : 1 ≤ (Json.printNat number).length :=
    List.length_pos_iff.mpr (Json.printNat_ne_nil number)
  have charted : validWireChatId (Json.printNat number) = true := by
    unfold validWireChatId
    rw [Bool.and_eq_true, Bool.and_eq_true, List.all_eq_true]
    refine ⟨⟨by simpa using present, by simpa using short⟩, ?_⟩
    intro point member
    have digit := Json.printNat_digits number point member
    simp only [Json.isDigit, Bool.and_eq_true, decide_eq_true_eq] at digit
    simp [isAsciiAlnum, digit.1, digit.2]
  have robot : validRobotId replacingBot.val = true := replacingBot.property
  simp [raises, robot, numberedRoute, charted]

/-- The numbered chats find room in an empty registry, and nothing else changes. -/
theorem bindRoutes_numberedPlan {count : Nat} (small : count ≤ maxPersistedRoutes) :
    ∃ after, fresh.bindRoutes replacingBot.val (numberedPlan count) = (.accepted, after) ∧
      after.Invariant ∧ after.sessionConflicts = ∅ ∧ after.targetConflicts = ∅ ∧
      after.Printable ∧
      after.tables = ⟨(numberedPlan count).map PlannedRoute.sessionKey,
        (numberedPlan count).map PlannedRoute.target⟩ := by
  have numbers : ∀ route ∈ numberedPlan count, ∃ number < count, numberedRoute number = route := by
    intro route member
    obtain ⟨number, below, same⟩ := List.mem_map.mp member
    exact ⟨number, List.mem_range.mp below, same⟩
  have printed (number : Nat) : Encodable (Json.printNat number) := by
    intro point member
    have digit := Json.printNat_digits number point member
    simp only [Json.isDigit, Bool.and_eq_true, decide_eq_true_eq] at digit
    exact Json.toChar?_of_lt (by omega)
  obtain ⟨after, accepted, entered, -⟩ := @bindRoutes_of_unopposed fresh replacingBot
    (numberedPlan count) (numberedPlan count) invariant_fresh
    (by
      intro route member
      obtain ⟨number, below, rfl⟩ := numbers route member
      exact valid_numberedRoute (lt_of_lt_of_le below small))
    (fun _ => id) (fun route _ => unopposed_fresh replacingBot route)
    (by
      intro first member second member' same
      obtain ⟨number, -, rfl⟩ := numbers first member
      obtain ⟨other, -, rfl⟩ := numbers second member'
      rw [numberedRoute_injective same])
    (by
      rw [tables_numberedPlan small]
      simpa [numberedPlan] using small)
  have carried := carried_of_accepted invariant_fresh accepted
  refine ⟨after, accepted, carried.invariant, carried.sessionConflicts, carried.targetConflicts,
    ?_, entered.trans (tables_numberedPlan small)⟩
  refine printable_of_accepted invariant_fresh ?_ ?_ accepted
  · refine { sessions := ?_, targets := ?_, sessionConflicts := fun key member => by cases member }
    · exact fun key routed => by cases routed
    · exact fun target routed => by cases routed
  · intro route member
    obtain ⟨number, -, rfl⟩ := numbers route member
    exact ⟨printed number, printed number⟩

/-- A former single bot has recorded its identity. -/
def begunRun : List Adapter.Event :=
  [.start ⟨1, [], false, .done, .done⟩,
    .registered ⟨legacyBot, true, [], .attempted .none, .done, false⟩]

/-- The start with a second token finds one session. -/
def freezingStart : Store.StartArgs :=
  ⟨2, [(py "p", py "group", py "p")], false, .done, .done⟩

def returning : Registered := ⟨legacyBot, true, [], .attempted .none, .done, false⟩

def homeOf (key : SessionKey) : TargetKey := (.group, key)

theorem begunRun_pending (runtime : Json.Runtime) (sha256 : Bytes → Bytes) :
    BecomesPending runtime sha256 begunRun freezingStart legacyBot [reservedRoute] ∧
      (Profile.run runtime sha256 (begunRun ++ [.start freezingStart])).store.registry = fresh := by
  obtain ⟨file₁, read₁, step₁⟩ := @start_blank ⟨0, none, []⟩ .fresh none none [] runtime sha256
  obtain ⟨file₂, read₂, step₂⟩ := @registered_single ⟨file₁, none, .absent⟩ ⟨0, none, []⟩ .fresh
    legacyBot [] runtime sha256 true (.attempted .none) false
  have frozen : freezePlan [(py "p", py "group", py "p")] = .ok [reservedRoute] := by decide
  obtain ⟨file₃, planFile, read₃, step₃⟩ := @start_multi runtime sha256
    ⟨file₂, none, .absent⟩ ⟨0, none, []⟩ .fresh legacyBot
    (some ⟨.single, some legacyBot, 0⟩) (some ⟨some ⟨.single, none, [], true⟩, [], true⟩)
    [reservedRoute] _ read₂ (start_of_absent rfl) frozen
    (by simpa [reservedRoute] using encodable_py "p") .fresh
  dsimp only at step₂ step₃
  have first : Profile.run runtime sha256 [] = Profile.blank := rfl
  have third : Profile.run runtime sha256 begunRun =
      ⟨⟨⟨file₂, none, .absent⟩, .fresh, some ⟨.single, some legacyBot, 0⟩, ⟨0, none, []⟩⟩,
        some ⟨some ⟨.single, none, [], true⟩, [], true⟩⟩ := by
    rw [Profile.run, begunRun, List.foldl_cons, List.foldl_cons, List.foldl_nil, Profile.blank, step₁]
    exact step₂
  have last := (run_append begunRun (.start freezingStart)).trans
    ((congrArg (Profile.step runtime sha256 · (.start freezingStart)) third).trans step₃)
  refine ⟨{ first := ?_, waiting := ?_ }, ?_⟩
  · intro earlier later split
    rw [begunRun] at split
    rcases earlier with _ | ⟨one, _ | ⟨two, _ | ⟨more, others⟩⟩⟩
    · rw [first, Profile.phase, @Profile.durable_eq runtime sha256 Profile.blank none rfl]
      simp
    · obtain ⟨rfl, -⟩ := List.cons.inj split
      have second : Profile.run runtime sha256 [.start ⟨1, [], false, .done, .done⟩] =
          ⟨⟨⟨file₁, none, .absent⟩, .fresh, some ⟨.single, none, 0⟩, ⟨0, none, []⟩⟩,
            some ⟨some ⟨.single, none, [], true⟩, [], true⟩⟩ := step₁
      rw [second, Profile.phase, Profile.durable_eq read₁]
      simp
    · have same : [one, two] = begunRun := by
        simp only [List.cons_append, List.nil_append, List.cons.injEq] at split
        rw [begunRun, ← split.1, ← split.2.1]
      rw [same, third, Profile.phase, Profile.durable_eq read₂]
      simp
    · simp at split
  · exact congrArg Profile.gateway last
  · exact congrArg (fun profile : Profile => profile.store.registry) last

theorem given_messages (runtime : Json.Runtime) (sha256 : Bytes → Bytes) (count : Nat) :
    Given runtime sha256 begunRun freezingStart legacyBot [reservedRoute] homeOf
      (messages count) := by
  obtain ⟨becomes, empty⟩ := begunRun_pending runtime sha256
  refine { becomes := becomes, unopposed := ?_, plan := ?_, traffic := ?_ }
  · intro route _
    rw [empty]
    exact unopposed_fresh legacyBot route
  · intro route member
    rw [List.mem_singleton.mp member]
    rfl
  · intro message member key chatId named chat
    obtain ⟨number, -, same⟩ := List.mem_map.mp member
    cases same
    cases Subtype.ext ((Option.some.inj named).symm.trans chat)
    rfl

/-- The numbered chats outside the plan are bound one by one. -/
theorem run_messages (runtime : Json.Runtime) (sha256 : Bytes → Bytes) {count : Nat}
    {after : Registry}
    (accepted : fresh.bindRoutes replacingBot.val (numberedPlan count) = (.accepted, after)) :
    (machine runtime sha256 (Profile.run runtime sha256 (begunRun ++ [.start freezingStart]))).run
        (messages count) =
      State.withRegistry
        ⟨Profile.run runtime sha256 (begunRun ++ [.start freezingStart]), none⟩ after := by
  obtain ⟨becomes, empty⟩ := begunRun_pending runtime sha256
  have numbers : ∀ route ∈ numberedPlan count, ∃ number, numberedRoute number = route := by
    intro route member
    obtain ⟨number, -, same⟩ := List.mem_map.mp member
    exact ⟨number, same⟩
  rw [messages_eq]
  refine @foldl_inbound runtime sha256 legacyBot [reservedRoute]
    ⟨Profile.run runtime sha256 (begunRun ++ [.start freezingStart]), none⟩ replacingBot
    (numberedPlan count) after ?_ ?_ becomes.waiting ?_
  · intro route member
    obtain ⟨number, rfl⟩ := numbers route member
    exact ⟨rfl, rfl⟩
  · intro route member other planned
    obtain ⟨number, rfl⟩ := numbers route member
    rw [List.mem_singleton.mp planned]
    exact numberedRoute_ne_reservedRoute number
  · change Registry.bindRoutes _ (Profile.run runtime sha256
      (begunRun ++ [.start freezingStart])).store.registry _ = _
    rw [empty]
    exact accepted

theorem through_reservedRoute {registry : Registry} (printable : registry.Printable) :
    Through registry [reservedRoute] returning where
  routes := rfl
  metadata := rfl
  registry := printable
  plan route member := by
    rw [List.mem_singleton.mp member]
    exact ⟨encodable_py "p", encodable_py "p"⟩

private theorem agrees_messages (profile : Profile) (count : Nat) :
    (machine runtime sha256 profile).Along (WireAgrees legacyBot [reservedRoute])
      (messages count) := by
  intro done event later split
  have member : event ∈ messages count := by
    rw [split]
    simp
  obtain ⟨number, -, rfl⟩ := List.mem_map.mp member
  intro gateway args request running named valid route planned here
  obtain ⟨-, -, -, chat⟩ := request_of_message named valid
  rw [List.mem_singleton.mp planned] at here
  rw [here] at chat
  exact absurd (Subtype.ext chat.symm) (numberedRoute_ne_reservedRoute number)

/-- Another identity has bound as many chats as the target table holds; the plan of the
legacy identity finds no room, and the profile stays pending. -/
theorem messages_not_migrated :
    ¬ ∀ (runtime : Json.Runtime) (sha256 : Bytes → Bytes) begun args legacy plan home traffic
        (registered : Registered) (fault : Fault),
      Given runtime sha256 begun args legacy plan home traffic → registered.robotId = legacy →
      Through ((machine runtime sha256 (Profile.run runtime sha256
        (begun ++ [.start args]))).run traffic).profile.store.registry plan registered →
      Migrated runtime sha256 legacy plan (migrate runtime sha256 ((machine runtime sha256
        (Profile.run runtime sha256 (begun ++ [.start args]))).run traffic) fault registered) := by
  intro always
  let runtime : Json.Runtime := ⟨16, 16, le_rfl, le_rfl, fun _ => ""⟩
  let sha256 : Bytes → Bytes := fun _ => []
  obtain ⟨full, accepted, inv, calm, open', printable, tables⟩ :=
    bindRoutes_numberedPlan (le_refl maxPersistedRoutes)
  have ended := run_messages runtime sha256 accepted
  have migrated := always runtime sha256 begunRun freezingStart legacyBot [reservedRoute] homeOf
    (messages maxPersistedRoutes) returning .none (given_messages runtime sha256 _) rfl
    (by
      rw [ended]
      exact through_reservedRoute printable)
  rw [ended] at migrated
  obtain ⟨becomes, -⟩ := begunRun_pending runtime sha256
  have good : raises legacyBot.val reservedRoute = false := by decide
  have size : full.targetRoutes.size = maxPersistedRoutes := by
    have keys := congrArg (fun tables : Tables => tables.targets.length) tables
    simpa [Registry.tables, Dict.length_keys, numberedPlan] using keys
  have unrouted : full.targetRoutes.get? reservedRoute.target = none := by
    rw [Dict.get?_eq_none_iff]
    have keys := congrArg Tables.targets tables
    change full.targetRoutes.keys = _ at keys
    rw [keys, List.mem_map]
    rintro ⟨route, member, same⟩
    obtain ⟨number, -, rfl⟩ := List.mem_map.mp member
    exact numberedRoute_ne_reservedRoute number (congrArg Prod.snd same)
  have refused : full.refuses (planRequest legacyBot reservedRoute) = true := by
    have target : (planRequest legacyBot reservedRoute).target = reservedRoute.target := rfl
    rw [refuses, target, unrouted, size]
    simp
  obtain ⟨partly, stopped⟩ := @bindRoutes_of_refuses full legacyBot reservedRoute [] good refused
  have taken := bindPlan_refused inv stopped
  have still := @applyLegacyMigration_refused runtime sha256 legacyBot [reservedRoute]
    { (Profile.run runtime sha256 (begunRun ++ [.start freezingStart])).store with registry := full }
    returning _ rfl taken
  have running := migrated.running
  simp only [migrate, State.endFlush, State.withRegistry, becomes.waiting] at running
  rw [still] at running
  cases running

/-- One chat of another identity leaves room enough. -/
theorem traffic_migrated_first :
    Migrated ⟨16, 16, le_rfl, le_rfl, fun _ => ""⟩ (fun _ => []) legacyBot [reservedRoute]
      (migrate ⟨16, 16, le_rfl, le_rfl, fun _ => ""⟩ (fun _ => [])
        ((machine ⟨16, 16, le_rfl, le_rfl, fun _ => ""⟩ (fun _ => [])
          (Profile.run ⟨16, 16, le_rfl, le_rfl, fun _ => ""⟩ (fun _ => [])
            (begunRun ++ [.start freezingStart]))).run (messages 1)) .none returning) := by
  obtain ⟨after, accepted, -, -, -, printable, tables⟩ :=
    @bindRoutes_numberedPlan 1 (by decide)
  have ended := run_messages ⟨16, 16, le_rfl, le_rfl, fun _ => ""⟩ (fun _ => []) accepted
  refine traffic_migrated ⟨16, 16, le_rfl, le_rfl, fun _ => ""⟩ (fun _ => [])
    (given_messages _ _ 1) (agrees_messages _ 1) returning rfl .none ?_ ?_
  · rw [ended]
    refine { valid := ?_, fits := ?_ }
    · intro route member
      rw [List.mem_singleton.mp member]
      decide
    · change after.tables.Fits [reservedRoute]
      rw [tables]
      refine { targets := by decide, sessions := ?_ }
      intro route member
      rw [List.mem_singleton.mp member]
      decide
  · rw [ended]
    exact through_reservedRoute printable

end OctoChannel.Adapter.Traffic

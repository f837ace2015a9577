import OctoChannel.Identity.Reachable

namespace OctoChannel.Identity

open Foundation

namespace Registry

variable {registry : Registry} {robotId : PyStr}

/-- A route that `bind` answers with a `ValueError`: nobody checked the robot id,
or the wire charset of a group id, when the plan was made. -/
def raises (robotId : PyStr) (route : PlannedRoute) : Bool :=
  !validRobotId robotId || (route.chatType = .group && !validWireChatId route.chatId.val)

/-- The request that a planned route makes; the wire id of a DM is not known yet. -/
def planRequest (owner : RobotId) (route : PlannedRoute) : Request where
  robotId := owner
  sessionKey := some route.sessionKey
  target := route.target
  channelType := route.channelType
  wireTarget := match route.chatType with
    | .dm => none
    | .group => WireChatId.ofStr? route.chatId.val

theorem bind_of_raises {route : PlannedRoute} (bad : raises robotId route = true)
    (registry : Registry) :
    ∃ error, registry.bind (planArgs robotId route) = (.error error, registry) := by
  suffices failed : ∃ error, (planArgs robotId route).validate = .error error by
    obtain ⟨error, failed⟩ := failed
    exact ⟨error, by simp only [bind, failed]⟩
  cases valid : validRobotId robotId with
  | false => exact ⟨.valueError "invalid Octo robot_id",
    by simp [BindArgs.validate, planArgs, RobotId.ofStr?, valid]⟩
  | true =>
    obtain ⟨sessionKey, chatType, chatId, channelType⟩ := route
    cases chatType with
    | dm => simp [raises, valid] at bad
    | group =>
      have uncharted : validWireChatId chatId.val = false := by simpa [raises, valid] using bad
      exact ⟨.valueError "invalid Octo wire chat_id", by
        simp [BindArgs.validate, planArgs, RobotId.ofStr?, valid, BindArgs.wireTarget,
          WireChatId.ofStr?, uncharted]⟩

theorem charted_of_not_raises {owner : RobotId} {route : PlannedRoute}
    (good : raises owner.val route = false) (group : route.chatType = .group) :
    validWireChatId route.chatId.val = true := by
  simpa [raises, owner.property, group] using good

theorem bind_of_not_raises {owner : RobotId} {route : PlannedRoute}
    (good : raises owner.val route = false) (registry : Registry) :
    registry.bind (planArgs owner.val route) =
      (.ok (registry.bindLocked (planRequest owner route)).1,
        (registry.bindLocked (planRequest owner route)).2) := by
  have checked : (planArgs owner.val route).validate = .ok (planRequest owner route) := by
    have charted := charted_of_not_raises good
    obtain ⟨sessionKey, chatType, chatId, channelType⟩ := route
    cases chatType with
    | dm => simp [BindArgs.validate, planArgs, BindArgs.wireTarget, planRequest, PlannedRoute.target]
    | group =>
      have wire := charted rfl
      simp [BindArgs.validate, planArgs, BindArgs.wireTarget, planRequest, PlannedRoute.target,
        WireChatId.ofStr?, wire]
  simp only [bind, checked]

/-- A route that has nothing left to bind. -/
structure Established (registry : Registry) (owner : RobotId) (route : PlannedRoute) : Prop where
  session : registry.sessionRoutes.get? route.sessionKey = some owner
  target : registry.targetRoutes.get? route.target = some owner
  wire : route.chatType = .group → (registry.targetWireIds.get? route.target).isSome

/-- What an accepted route changes. -/
structure Step (owner : RobotId) (route : PlannedRoute) (before after : Registry) : Prop where
  invariant : after.Invariant
  calm : route.sessionKey ∉ before.sessionConflicts
  open' : route.target ∉ before.targetConflicts
  sessionConflicts : after.sessionConflicts = before.sessionConflicts
  targetConflicts : after.targetConflicts = before.targetConflicts
  targets : ∀ target, after.targetRoutes.get? target =
    if route.target = target then some owner else before.targetRoutes.get? target
  sessions : ∀ key, after.sessionRoutes.get? key =
    if route.sessionKey = key then some owner
    else if before.evictedBy route.target route.sessionKey = some key then none else before.sessionRoutes.get? key
  keys : after.sessionRoutes.keys = before.sessionRoutes.keys ∨
    after.sessionRoutes = (before.without before.victim).sessionRoutes.set route.sessionKey owner
  wires : ∀ target, (before.targetWireIds.get? target).isSome →
    (after.targetWireIds.get? target).isSome
  progress : after = before ∧ before.Established owner route ∨
    before.targetRoutes.get? route.target = none ∨
    before.sessionRoutes.get? route.sessionKey = none ∨
    route.chatType = .group ∧ before.targetWireIds.get? route.target = none ∧
      (after.targetWireIds.get? route.target).isSome

private theorem step_of_claim {owner : RobotId} {route : PlannedRoute} (inv : registry.Invariant)
    (open' : route.target ∉ registry.targetConflicts)
    (calm : route.sessionKey ∉ registry.sessionConflicts)
    (free : registry.sessionRoutes.get? route.sessionKey = none ∨
      registry.sessionRoutes.get? route.sessionKey = some owner)
    (target : (registry.targetRoutes.get? route.target = none ∧
        registry.targetRoutes.size < maxPersistedRoutes) ∨
      (registry.targetRoutes.get? route.target = some owner ∧
        registry.sessionRoutes.get? route.sessionKey = none)) :
    Step owner route registry (registry.claim (planRequest owner route)) := by
  have named : (planRequest owner route).sessionKey = some route.sessionKey := rfl
  have claimable : registry.Claimable (planRequest owner route) := target.imp id And.left
  have unsettled : ¬ ((registry.targetRoutes.get? route.target).isSome ∧
      (registry.sessionRoutes.get? route.sessionKey).isSome) := by
    rintro ⟨targetRouted, sessionRouted⟩
    rcases target with ⟨unrouted, -⟩ | ⟨-, new⟩
    · simp [unrouted] at targetRouted
    · simp [new] at sessionRouted
  have evicted : registry.evictedBy route.target route.sessionKey = registry.victim := if_neg unsettled
  refine { invariant := ?_, calm, open', sessionConflicts := ?_, targetConflicts := ?_,
           targets := ?_, sessions := ?_, keys := ?_, wires := ?_, progress := ?_ }
  · refine inv.claim claimable open' ?_
    rintro key ⟨⟩
    exact free
  · exact sessionConflicts_claim _
  · exact targetConflicts_claim _
  · intro other
    rw [targetRoutes_claim]
    exact get?_targetRoutes_recordTarget claimable other
  · intro key
    rw [sessionRoutes_claim inv.bounded named, Dict.get?_set, get?_without, evicted]
    rfl
  · exact .inr (sessionRoutes_claim inv.bounded named)
  · intro other known
    rw [targetWireIds_claim, get?_targetWireIds_recordTarget]
    split
    · rw [Option.isSome_or, known, Bool.or_true]
    · exact known
  · rcases target with ⟨unrouted, -⟩ | ⟨-, new⟩
    · exact .inr (.inl unrouted)
    · exact .inr (.inr (.inl new))

/-- A route that `bind` neither raises on nor refuses takes one step. -/
theorem step_of_accepted {owner : RobotId} {route : PlannedRoute} (inv : registry.Invariant)
    (good : raises owner.val route = false)
    (free : registry.refuses (planRequest owner route) = false) :
    Step owner route registry (registry.bindLocked (planRequest owner route)).2 := by
  have accepted : (registry.bindLocked (planRequest owner route)).1.accepted = true := by
    rw [accepted_bindLocked, free, Bool.not_false]
  have charted : route.chatType = .group → (planRequest owner route).wireTarget.isSome := by
    intro group
    simp [planRequest, group, WireChatId.ofStr?, charted_of_not_raises good group]
  have exit := bindLocked_case registry (planRequest owner route)
  revert accepted exit
  generalize (registry.bindLocked (planRequest owner route)).1 = result
  generalize (registry.bindLocked (planRequest owner route)).2 = after
  intro accepted exit
  have inv' := inv.bindCase exit
  cases exit with
  | refused => cases accepted
  | contestedSession => cases accepted
  | contestedTarget => cases accepted
  | full => cases accepted
  | claimed open' calm free target =>
    refine step_of_claim inv open' (calm _ rfl) (free _ rfl) (target.imp id ?_)
    rintro ⟨routed, key, named, new⟩
    cases named
    exact ⟨routed, new⟩
  | filled routed known open' calm offered unknown =>
    have session : registry.sessionRoutes.get? route.sessionKey = some owner := known _ rfl
    have target : registry.targetRoutes.get? route.target = some owner := routed
    have group : route.chatType = .group := by
      cases kind : route.chatType with
      | dm => simp [planRequest, kind] at offered
      | group => rfl
    refine { invariant := inv', calm := calm _ rfl, open', sessionConflicts := rfl,
             targetConflicts := rfl, targets := ?_, sessions := ?_, keys := .inl rfl, wires := ?_,
             progress := .inr (.inr (.inr ⟨group, unknown, ?_⟩)) }
    · intro other
      split
      · rename_i same
        exact same ▸ target
      · rfl
    · intro key
      split
      · rename_i same
        exact same ▸ session
      · simp [evictedBy, session, target, fillWire]
    · intro other present
      simp only [fillWire, Dict.get?_set]
      split
      · rfl
      · exact present
    · simp [fillWire, planRequest]
  | idempotent routed known open' calm settled =>
    have session : registry.sessionRoutes.get? route.sessionKey = some owner := known _ rfl
    have target : registry.targetRoutes.get? route.target = some owner := routed
    refine { invariant := inv', calm := calm _ rfl, open', sessionConflicts := rfl,
             targetConflicts := rfl, targets := ?_, sessions := ?_, keys := .inl rfl,
             wires := fun _ => id, progress := .inl ⟨rfl, session, target, ?_⟩ }
    · intro other
      split
      · rename_i same
        exact same ▸ target
      · rfl
    · intro key
      split
      · rename_i same
        exact same ▸ session
      · simp [evictedBy, session, target]
    · exact fun group => settled (charted group)

variable {owner : RobotId} {route : PlannedRoute} {rest ahead plan : List PlannedRoute}
  {before after : Registry}

theorem bindRoutes_of_raises (bad : raises robotId route = true) (registry : Registry) :
    ∃ error, registry.bindRoutes robotId (route :: rest) = (.raised error, registry) := by
  obtain ⟨error, raised⟩ := bind_of_raises bad registry
  exact ⟨error, by simp only [bindRoutes, raised]⟩

theorem bindRoutes_of_refuses (good : raises owner.val route = false)
    (full : registry.refuses (planRequest owner route) = true) :
    ∃ after, registry.bindRoutes owner.val (route :: rest) = (.refused, after) := by
  have refused := accepted_bindLocked registry (planRequest owner route)
  rw [full, Bool.not_true] at refused
  unfold bindRoutes
  rw [bind_of_not_raises good]
  cases result : (registry.bindLocked (planRequest owner route)).1 with
  | conflict => exact ⟨_, rfl⟩
  | capacity => exact ⟨_, rfl⟩
  | bound => simp [result, BindResult.accepted] at refused
  | idempotent => simp [result, BindResult.accepted] at refused

theorem bindRoutes_of_accepts (good : raises owner.val route = false)
    (free : registry.refuses (planRequest owner route) = false) :
    registry.bindRoutes owner.val (route :: rest) =
      (registry.bindLocked (planRequest owner route)).2.bindRoutes owner.val rest := by
  have accepted := accepted_bindLocked registry (planRequest owner route)
  rw [free, Bool.not_false] at accepted
  conv_lhs => unfold bindRoutes
  rw [bind_of_not_raises good]
  cases result : (registry.bindLocked (planRequest owner route)).1 with
  | conflict => simp [result, BindResult.accepted] at accepted
  | capacity => simp [result, BindResult.accepted] at accepted
  | bound => rfl
  | idempotent => rfl

/-- An accepted plan is a first step and an accepted rest. -/
theorem bindRoutes_cons_accepted (inv : registry.Invariant)
    (accepted : registry.bindRoutes owner.val (route :: rest) = (.accepted, after)) :
    ∃ next, Step owner route registry next ∧
      registry.bindRoutes owner.val [route] = (.accepted, next) ∧
      next.bindRoutes owner.val rest = (.accepted, after) := by
  cases bad : raises owner.val route with
  | true =>
    obtain ⟨error, raised⟩ := bindRoutes_of_raises bad registry
    rw [raised] at accepted
    cases accepted
  | false =>
    cases full : registry.refuses (planRequest owner route) with
    | true =>
      obtain ⟨next, refused⟩ := bindRoutes_of_refuses bad full
      rw [refused] at accepted
      cases accepted
    | false =>
      rw [bindRoutes_of_accepts bad full] at accepted
      exact ⟨_, step_of_accepted inv bad full, bindRoutes_of_accepts bad full, accepted⟩

theorem bindRoutes_append (accepted : registry.bindRoutes robotId ahead = (.accepted, before))
    (rest : List PlannedRoute) :
    registry.bindRoutes robotId (ahead ++ rest) = before.bindRoutes robotId rest := by
  induction ahead generalizing registry with
  | nil =>
    cases accepted
    rfl
  | cons route others ih =>
    rw [List.cons_append]
    unfold bindRoutes at accepted
    conv_lhs => unfold bindRoutes
    split at accepted
    · cases accepted
    · cases accepted
    · cases accepted
    · exact ih accepted
    · exact ih accepted

/-- A plan that is not accepted stops at a route that raises or is refused, with
every route ahead of it bound. -/
theorem bindRoutes_stops (inv : registry.Invariant) (plan : List PlannedRoute) :
    (∃ after, registry.bindRoutes owner.val plan = (.accepted, after)) ∨
    ∃ ahead route rest before, plan = ahead ++ route :: rest ∧
      registry.bindRoutes owner.val ahead = (.accepted, before) ∧ before.Invariant ∧
      (raises owner.val route = true ∨
        raises owner.val route = false ∧ before.refuses (planRequest owner route) = true) := by
  induction plan generalizing registry with
  | nil => exact .inl ⟨registry, rfl⟩
  | cons route rest ih =>
    cases bad : raises owner.val route with
    | true => exact .inr ⟨[], route, rest, registry, rfl, rfl, inv, .inl bad⟩
    | false =>
      cases full : registry.refuses (planRequest owner route) with
      | true => exact .inr ⟨[], route, rest, registry, rfl, rfl, inv, .inr ⟨bad, full⟩⟩
      | false =>
        rw [bindRoutes_of_accepts bad full]
        rcases ih (step_of_accepted inv bad full).invariant with whole | stopped
        · exact .inl whole
        · obtain ⟨ahead, last, others, before, same, bound, inv', reason⟩ := stopped
          refine .inr ⟨route :: ahead, last, others, before, by rw [same]; rfl, ?_, inv', reason⟩
          rw [bindRoutes_of_accepts bad full, bound]

/-- Facts that every accepted step keeps, and with them every accepted run. -/
structure Carried (owner : RobotId) (before after : Registry) : Prop where
  invariant : after.Invariant
  sessionConflicts : after.sessionConflicts = before.sessionConflicts
  targetConflicts : after.targetConflicts = before.targetConflicts
  owned : ∀ target, before.targetRoutes.get? target = some owner →
    after.targetRoutes.get? target = some owner
  routed : ∀ target, (before.targetRoutes.get? target).isSome →
    (after.targetRoutes.get? target).isSome
  wires : ∀ target, (before.targetWireIds.get? target).isSome →
    (after.targetWireIds.get? target).isSome

theorem Step.carried (step : Step owner route before after) : Carried owner before after := by
  refine { step with owned := ?_, routed := ?_ }
  · intro target own
    rw [step.targets]
    split
    · rfl
    · exact own
  · intro target routed
    rw [step.targets]
    split
    · rfl
    · exact routed

theorem Carried.trans {middle : Registry} (first : Carried owner before middle)
    (second : Carried owner middle after) : Carried owner before after where
  invariant := second.invariant
  sessionConflicts := second.sessionConflicts.trans first.sessionConflicts
  targetConflicts := second.targetConflicts.trans first.targetConflicts
  owned target own := second.owned target (first.owned target own)
  routed target routed := second.routed target (first.routed target routed)
  wires target known := second.wires target (first.wires target known)

theorem carried_of_accepted (inv : registry.Invariant)
    (accepted : registry.bindRoutes owner.val plan = (.accepted, after)) :
    Carried owner registry after := by
  induction plan generalizing registry with
  | nil =>
    cases accepted
    exact { invariant := inv, sessionConflicts := rfl, targetConflicts := rfl, owned := fun _ => id,
            routed := fun _ => id, wires := fun _ => id }
  | cons route rest ih =>
    obtain ⟨next, step, -, later⟩ := bindRoutes_cons_accepted inv accepted
    exact step.carried.trans (ih step.invariant later)

/-- After an accepted plan every planned target belongs to the caller, unmarked. -/
theorem target_of_accepted (inv : registry.Invariant)
    (accepted : registry.bindRoutes owner.val plan = (.accepted, after)) {route : PlannedRoute}
    (planned : route ∈ plan) : after.targetRoutes.get? route.target = some owner ∧
      route.target ∉ after.targetConflicts ∧ route.sessionKey ∉ after.sessionConflicts := by
  induction plan generalizing registry with
  | nil => cases planned
  | cons head rest ih =>
    obtain ⟨next, step, -, later⟩ := bindRoutes_cons_accepted inv accepted
    have carried := carried_of_accepted step.invariant later
    rcases List.mem_cons.mp planned with same | other
    · subst same
      refine ⟨carried.owned _ (by rw [step.targets, if_pos rfl]), ?_, ?_⟩
      · rw [carried.targetConflicts, step.targetConflicts]
        exact step.open'
      · rw [carried.sessionConflicts, step.sessionConflicts]
        exact step.calm
    · exact ih step.invariant later other

private theorem unrouted_of_accepted (inv : registry.Invariant)
    (accepted : registry.bindRoutes owner.val plan = (.accepted, after)) {key : SessionKey}
    (unplanned : key ∉ plan.map PlannedRoute.sessionKey)
    (unrouted : registry.sessionRoutes.get? key = none) : after.sessionRoutes.get? key = none := by
  induction plan generalizing registry with
  | nil =>
    cases accepted
    exact unrouted
  | cons route rest ih =>
    obtain ⟨next, step, -, later⟩ := bindRoutes_cons_accepted inv accepted
    simp only [List.map_cons, List.mem_cons, not_or] at unplanned
    refine ih step.invariant later unplanned.2 ?_
    rw [step.sessions, if_neg (Ne.symm unplanned.1), unrouted, ite_self]

/-- A routed session that the rest of the plan does not push out stays routed. -/
private theorem routed_of_accepted (inv : registry.Invariant)
    (accepted : registry.bindRoutes owner.val plan = (.accepted, after)) {key : SessionKey}
    (routed : registry.sessionRoutes.get? key = some owner)
    (kept : ∀ ahead route rest before, plan = ahead ++ route :: rest →
      registry.bindRoutes owner.val ahead = (.accepted, before) →
      before.evictedBy route.target route.sessionKey ≠ some key) : after.sessionRoutes.get? key = some owner := by
  induction plan generalizing registry with
  | nil =>
    cases accepted
    exact routed
  | cons route rest ih =>
    obtain ⟨next, step, first, later⟩ := bindRoutes_cons_accepted inv accepted
    refine ih step.invariant later ?_ ?_
    · rw [step.sessions, if_neg (kept [] route rest registry rfl rfl), routed, ite_self]
    · intro ahead last others before same bound
      refine kept (route :: ahead) last others before (by rw [same]; rfl) ?_
      exact (bindRoutes_append first ahead).trans bound

/-- A session needs a whole table of newer ones behind it before it is pushed out. -/
private theorem present_of_short (inv : registry.Invariant)
    (accepted : registry.bindRoutes owner.val plan = (.accepted, after)) {key : SessionKey}
    {older newer : List SessionKey} (place : registry.sessionRoutes.keys = older ++ key :: newer)
    (short : newer.length + plan.length < maxPersistedRoutes) :
    key ∈ after.sessionRoutes.keys := by
  induction plan generalizing registry older newer with
  | nil =>
    cases accepted
    rw [place]
    simp
  | cons route rest ih =>
    obtain ⟨next, step, -, later⟩ := bindRoutes_cons_accepted inv accepted
    rw [List.length_cons] at short
    rcases step.keys with same | set
    · exact ih step.invariant later (same.trans place) (by omega)
    · obtain ⟨older', kept⟩ : ∃ older', (registry.without registry.victim).sessionRoutes.keys =
          older' ++ key :: newer := by
        rw [keys_without_victim, place]
        split
        · exact ⟨older, rfl⟩
        · rename_i full
          cases older with
          | nil =>
            have size := registry.sessionRoutes.length_keys
            rw [place, List.nil_append, List.length_cons] at size
            omega
          | cons oldest others => exact ⟨others, rfl⟩
      have keys := congrArg Dict.keys set
      rw [Dict.keys_set, kept] at keys
      split at keys
      · exact ih step.invariant later keys (by omega)
      · rw [List.append_assoc, List.cons_append] at keys
        exact ih step.invariant later keys (by rw [List.length_append, List.length_singleton]; omega)

/-- Every observable of a registry; iteration order is not one. -/
structure SameObservables (first second : Registry) : Prop where
  sessions : ∀ key, first.sessionRoutes.get? key = second.sessionRoutes.get? key
  targets : ∀ target, first.targetRoutes.get? target = second.targetRoutes.get? target
  types : ∀ target, first.targetChannelTypes.get? target = second.targetChannelTypes.get? target
  wires : ∀ target, first.targetWireIds.get? target = second.targetWireIds.get? target
  index : ∀ chatId, first.holders chatId = second.holders chatId
  sessionConflicts : first.sessionConflicts = second.sessionConflicts
  targetConflicts : first.targetConflicts = second.targetConflicts
  links : ∀ target, first.linked target = second.linked target
  dirty : first.dirty = second.dirty

theorem SameObservables.refl (registry : Registry) : registry.SameObservables registry where
  sessions _ := rfl
  targets _ := rfl
  types _ := rfl
  wires _ := rfl
  index _ := rfl
  sessionConflicts := rfl
  targetConflicts := rfl
  links _ := rfl
  dirty := rfl

/-- The session and the target of a route answer `robotId`, so neither is marked. -/
def Owns (registry : Registry) (robotId : PyStr) (route : PlannedRoute) : Prop :=
  (registry.robotIdForSession route.sessionKey.val).map Subtype.val = some robotId ∧
    (registry.robotIdForTarget route.target).map Subtype.val = some robotId

/-- One call of `bind_plan` binds the whole plan, or fails and changes nothing. -/
def AllOrNothing (registry : Registry) (robotId : PyStr) (plan : List PlannedRoute) : Prop :=
  ((registry.bindPlan robotId plan).1 = .ok true ∧
    ∀ route ∈ plan, (registry.bindPlan robotId plan).2.Owns robotId route) ∨
  ((registry.bindPlan robotId plan).1 ≠ .ok true ∧
    (registry.bindPlan robotId plan).2.SameObservables registry)

/-- The routes are bound one after another, each with an accepted `bind`. -/
inductive Bound (robotId : PyStr) : Registry → List PlannedRoute → Registry → Prop where
  | nil {registry : Registry} : Bound robotId registry [] registry
  | cons {registry next after : Registry} {route : PlannedRoute} {rest : List PlannedRoute}
      {result : BindResult} (taken : registry.bind (planArgs robotId route) = (.ok result, next))
      (accepted : result.accepted = true) (later : Bound robotId next rest after) :
      Bound robotId registry (route :: rest) after

/-- The plans that `bind_plan` handles as a whole. Each condition is about the
state before one route, the routes ahead of it being bound. -/
structure PlanSafe (registry : Registry) (robotId : PyStr) (plan : List PlannedRoute) : Prop where
  /-- A route that raises comes after established routes only. -/
  raised : ∀ ahead route rest before, plan = ahead ++ route :: rest →
    Bound robotId registry ahead before → raises robotId route = true →
    ∀ earlier ∈ ahead, ∃ owner : RobotId, owner.val = robotId ∧
      registry.Established owner earlier
  /-- A route that is refused meets a registry whose sessions have one target each. -/
  refused : ∀ ahead route rest before, plan = ahead ++ route :: rest →
    Bound robotId registry ahead before → ∀ owner : RobotId, owner.val = robotId →
    raises robotId route = false → before.refuses (planRequest owner route) = true →
    ∀ key first second, key ∈ registry.linked first → key ∈ registry.linked second →
      first = second
  /-- In a plan that goes through, a session pushed out of the full table after
  its route is planned again. -/
  evicted : ∀ ahead route rest before after, plan = ahead ++ route :: rest →
    Bound robotId registry ahead before → Bound robotId registry plan after →
    ∀ earlier ∈ ahead, before.evictedBy route.target route.sessionKey = some earlier.sessionKey →
      ∃ later ∈ route :: rest, later.sessionKey = earlier.sessionKey

/-- Ahead of a route that raises, more routes than the table has room for came round to the
registry that they began with. No freeze makes such a plan. -/
def ComesRound (registry : Registry) (robotId : PyStr) (plan : List PlannedRoute) : Prop :=
  ∃ ahead route rest before, plan = ahead ++ route :: rest ∧ Bound robotId registry ahead before ∧
    raises robotId route = true ∧ maxPersistedRoutes < ahead.length ∧
    before.SameObservables registry

private theorem not_comesRound_of_short (short : plan.length ≤ maxPersistedRoutes) :
    ¬ registry.ComesRound robotId plan := by
  rintro ⟨ahead, route, rest, before, rfl, -, -, long, -⟩
  rw [List.length_append] at short
  omega

theorem bound_iff : Bound robotId registry plan after ↔
    registry.bindRoutes robotId plan = (.accepted, after) := by
  constructor
  · intro bound
    induction bound with
    | nil => rfl
    | @cons registry next after route rest result taken accepted later ih =>
      unfold bindRoutes
      rw [taken]
      cases result with
      | bound => exact ih
      | idempotent => exact ih
      | capacity => cases accepted
      | conflict => cases accepted
  · intro accepted
    induction plan generalizing registry with
    | nil =>
      cases accepted
      exact .nil
    | cons route rest ih =>
      unfold bindRoutes at accepted
      split at accepted
      · cases accepted
      · cases accepted
      · cases accepted
      · rename_i taken
        exact .cons taken rfl (ih accepted)
      · rename_i taken
        exact .cons taken rfl (ih accepted)

/-- Established routes are bound again without a change. -/
private theorem unchanged_of_established (inv : registry.Invariant)
    (accepted : registry.bindRoutes owner.val plan = (.accepted, after))
    (established : ∀ route ∈ plan, registry.Established owner route) : after = registry := by
  induction plan with
  | nil =>
    cases accepted
    rfl
  | cons route rest ih =>
    obtain ⟨next, step, -, later⟩ := bindRoutes_cons_accepted inv accepted
    have here := established route (by simp)
    rcases step.progress with ⟨same, -⟩ | unrouted | new | ⟨group, unknown, -⟩
    · subst same
      exact ih later fun other member => established other (List.mem_cons_of_mem _ member)
    · rw [here.target] at unrouted
      cases unrouted
    · rw [here.session] at new
      cases new
    · have known := here.wire group
      rw [unknown] at known
      cases known

/-- Conversely, routes within the capacity that leave no trace were established:
an opened target, a learnt wire id and a fresh session all stay visible. -/
private theorem established_of_unchanged (inv : registry.Invariant)
    (accepted : registry.bindRoutes owner.val plan = (.accepted, after))
    (same : after.SameObservables registry) (short : plan.length ≤ maxPersistedRoutes) :
    ∀ route ∈ plan, registry.Established owner route := by
  induction plan with
  | nil => intro route member; cases member
  | cons head rest ih =>
    obtain ⟨next, step, -, later⟩ := bindRoutes_cons_accepted inv accepted
    have carried := carried_of_accepted step.invariant later
    rw [List.length_cons] at short
    rcases step.progress with ⟨unchanged, here⟩ | unrouted | new | ⟨-, unknown, known⟩
    · subst unchanged
      intro route member
      rcases List.mem_cons.mp member with first | other
      · exact first ▸ here
      · exact ih later (by omega) route other
    · have opened := carried.owned head.target (by rw [step.targets, if_pos rfl])
      rw [same.targets, unrouted] at opened
      cases opened
    · exfalso
      have absent : head.sessionKey ∉ after.sessionRoutes.keys := by
        rw [← Dict.get?_eq_none_iff, same.sessions]
        exact new
      refine absent ?_
      rcases step.keys with keys | set
      · have present : head.sessionKey ∈ registry.sessionRoutes.keys := by
          rw [← keys, Dict.mem_keys_iff, step.sessions, if_pos rfl]
          rfl
        exact absurd new (by rwa [Dict.get?_eq_none_iff, not_not])
      · have unplaced : head.sessionKey ∉
            (registry.without registry.victim).sessionRoutes.keys := by
          rw [← Dict.get?_eq_none_iff, get?_without, new, ite_self]
        have place := congrArg Dict.keys set
        rw [Dict.keys_set, if_neg unplaced] at place
        exact present_of_short step.invariant later place (by simpa using short)
    · have learnt := carried.wires head.target known
      rw [same.wires, unknown] at learnt
      cases learnt

theorem owns_iff {registry : Registry} {route : PlannedRoute} :
    registry.Owns owner.val route ↔
      (registry.sessionRoutes.get? route.sessionKey = some owner ∧
        route.sessionKey ∉ registry.sessionConflicts) ∧
      (registry.targetRoutes.get? route.target = some owner ∧
        route.target ∉ registry.targetConflicts) := by
  have named (found : Option RobotId) :
      found.map Subtype.val = some owner.val ↔ found = some owner := by
    cases found with
    | none => simp
    | some other => simp [Subtype.ext_iff]
  unfold Owns robotIdForSession robotIdForTarget
  rw [nonempty?_val]
  dsimp only
  rw [named, named]
  by_cases marked : route.sessionKey ∈ registry.sessionConflicts <;>
    by_cases contested : route.target ∈ registry.targetConflicts <;> simp [marked, contested]

theorem Agree.owns {first second : Registry} (agree : first.Agree second) {route : PlannedRoute}
    (owns : second.Owns owner.val route) : first.Owns owner.val route := by
  rw [owns_iff] at owns ⊢
  rwa [agree.sessions, agree.targets, agree.sessionConflicts, agree.targetConflicts]

/-- A restored snapshot shows the same registry exactly when no session had a
second target. -/
theorem sameObservables_restored_iff (inv : registry.Invariant) (partly : Registry) :
    ({ partly.restored registry with dirty := registry.dirty } : Registry).SameObservables
        registry ↔
      ∀ key first second, key ∈ registry.linked first → key ∈ registry.linked second →
        first = second := by
  have agree := agree_restored inv partly
  have listed := listings_restored inv partly
  constructor
  · intro same key first second one two
    have only (target : TargetKey) (link : key ∈ registry.linked target) :
        registry.sessionTarget key = some target := by
      have back : key ∈ (partly.restored registry).linked target := by
        rw [show (partly.restored registry).linked target = registry.linked target from
          same.links target]
        exact link
      rw [← mem_listings_iff, listed] at back
      exact Option.mem_toList.mp back
    exact Option.some.inj ((only first one).symm.trans (only second two))
  · intro single
    refine { sessions := ?_, targets := ?_, types := agree.types, wires := agree.wires,
             index := ?_, sessionConflicts := agree.sessionConflicts,
             targetConflicts := agree.targetConflicts, links := ?_, dirty := rfl }
    · exact fun key => congrArg (·.get? key) agree.sessions
    · exact fun target => congrArg (·.get? target) agree.targets
    · intro chatId
      exact congrArg (·.getD ∅) (agree.index chatId)
    · intro target
      refine Finset.Subset.antisymm (linked_restored_subset inv partly target) ?_
      intro key link
      have member := mem_listings_iff.mpr link
      cases last : registry.sessionTarget key with
      | none =>
        rw [sessionTarget, List.getLast?_eq_none_iff] at last
        rw [last] at member
        cases member
      | some latest =>
        have same := single key target latest link (mem_listings_iff.mp (sessionTarget_mem last))
        change key ∈ (partly.restored registry).linked target
        rw [← mem_listings_iff, listed, last, same]
        exact List.mem_singleton.mpr rfl

private theorem bindPlan_of_raises (bound : Bound robotId registry ahead before)
    (bad : raises robotId route = true) (rest : List PlannedRoute) :
    ∃ error, registry.bindPlan robotId (ahead ++ route :: rest) = (.error error, before) := by
  obtain ⟨error, raised⟩ := bindRoutes_of_raises bad before
  exact ⟨error, bindPlan_raised ((bindRoutes_append (bound_iff.mp bound) _).trans raised)⟩

private theorem bindPlan_of_refuses (inv : registry.Invariant)
    (bound : Bound owner.val registry ahead before) (good : raises owner.val route = false)
    (full : before.refuses (planRequest owner route) = true) (rest : List PlannedRoute) :
    ∃ partly : Registry, registry.bindPlan owner.val (ahead ++ route :: rest) =
      (.ok false, { partly.restored registry with dirty := registry.dirty }) := by
  obtain ⟨partly, refused⟩ := bindRoutes_of_refuses good full
  exact ⟨partly, bindPlan_refused inv ((bindRoutes_append (bound_iff.mp bound) _).trans refused)⟩

private theorem ahead_eq (split : plan = ahead ++ route :: rest)
    (bound : Bound robotId registry ahead before) (bad : raises robotId route = true) :
    ahead = plan.takeWhile fun route => !raises robotId route := by
  have good : ∀ earlier ∈ ahead, (!raises robotId earlier) = true := by
    clear split
    induction bound with
    | nil =>
      intro earlier member
      cases member
    | @cons registry next after head others result taken accepted later ih =>
      rw [List.forall_mem_cons, Bool.not_eq_true']
      refine ⟨Bool.eq_false_of_not_eq_true fun raising => ?_, ih⟩
      obtain ⟨error, raised⟩ := bind_of_raises raising registry
      rw [raised] at taken
      cases taken
  rw [split, List.takeWhile_append_of_pos good, List.takeWhile_cons_of_neg (by simp [bad]),
    List.append_nil]

private theorem allOrNothing_of_ok (ended : registry.bindPlan robotId plan = (.ok true, after)) :
    registry.AllOrNothing robotId plan ↔ ∀ route ∈ plan, after.Owns robotId route := by
  unfold AllOrNothing
  rw [ended]
  simp

private theorem allOrNothing_of_failed {result : Except PyError Bool}
    (ended : registry.bindPlan robotId plan = (result, after)) (failed : result ≠ .ok true) :
    registry.AllOrNothing robotId plan ↔ after.SameObservables registry := by
  unfold AllOrNothing
  rw [ended]
  simp [failed]

private theorem not_comesRound_of_ok {answer : Bool}
    (ended : registry.bindPlan robotId plan = (.ok answer, after)) :
    ¬ registry.ComesRound robotId plan := by
  rintro ⟨ahead, route, rest, before, split, bound, bad, -⟩
  obtain ⟨error, failed⟩ := bindPlan_of_raises bound bad rest
  rw [← split, ended] at failed
  cases failed

private theorem planSafe_of_invalid (invalid : validRobotId robotId = false) :
    registry.PlanSafe robotId plan := by
  have bad (route : PlannedRoute) : raises robotId route = true := by simp [raises, invalid]
  have nothing {registry before : Registry} {ahead : List PlannedRoute}
      (bound : Bound robotId registry ahead before) : ahead = [] := by
    cases bound with
    | nil => rfl
    | @cons _ next _ route rest result taken =>
      obtain ⟨error, raised⟩ := bind_of_raises (bad route) registry
      rw [raised] at taken
      cases taken
  refine { raised := ?_, refused := ?_, evicted := ?_ }
  · intro ahead route rest before _ bound _
    rw [nothing bound]
    intro earlier member
    cases member
  · intro ahead route rest before _ _ owner _ good
    rw [bad route] at good
    cases good
  · intro ahead route rest before after _ bound _ earlier member
    rw [nothing bound] at member
    cases member

private theorem allOrNothing_of_invalid (invalid : validRobotId robotId = false) :
    registry.AllOrNothing robotId plan := by
  cases plan with
  | nil => exact .inl ⟨rfl, fun route member => by cases member⟩
  | cons route rest =>
    obtain ⟨error, ended⟩ := bindPlan_of_raises .nil
      (show raises robotId route = true by simp [raises, invalid]) rest
    exact (allOrNothing_of_failed ended (by simp)).mpr (.refl registry)

private theorem exists_last {plan : List PlannedRoute} {route : PlannedRoute}
    (planned : route ∈ plan) :
    ∃ ahead last rest, plan = ahead ++ last :: rest ∧ last.sessionKey = route.sessionKey ∧
      ∀ later ∈ rest, later.sessionKey ≠ route.sessionKey := by
  induction plan generalizing route with
  | nil => cases planned
  | cons head tail ih =>
    by_cases again : ∃ later ∈ tail, later.sessionKey = route.sessionKey
    · obtain ⟨later, member, same⟩ := again
      obtain ⟨ahead, last, rest, split, key, final⟩ := ih member
      rw [same] at key final
      exact ⟨head :: ahead, last, rest, by rw [split]; rfl, key, final⟩
    · have first : route = head := by
        rcases List.mem_cons.mp planned with same | other
        · exact same
        · exact absurd ⟨route, other, rfl⟩ again
      refine ⟨[], head, tail, rfl, by rw [first], ?_⟩
      exact fun later member same => again ⟨later, member, same⟩

private theorem bound_append {rest : List PlannedRoute}
    (bound : Bound robotId registry (ahead ++ rest) after) :
    ∃ middle, Bound robotId registry ahead middle ∧ Bound robotId middle rest after := by
  induction ahead generalizing registry with
  | nil => exact ⟨registry, .nil, bound⟩
  | cons route others ih =>
    rw [List.cons_append] at bound
    cases bound with
    | cons taken accepted later =>
      obtain ⟨middle, first, second⟩ := ih later
      exact ⟨middle, .cons taken accepted first, second⟩

/-- In a plan that goes through, the planned sessions are owned exactly when none
stays pushed out. -/
private theorem owns_all_iff (inv : registry.Invariant)
    (accepted : registry.bindRoutes owner.val plan = (.accepted, after)) :
    (∀ route ∈ plan, after.Owns owner.val route) ↔
      ∀ ahead route rest before, plan = ahead ++ route :: rest →
        registry.bindRoutes owner.val ahead = (.accepted, before) →
        ∀ earlier ∈ ahead, before.evictedBy route.target route.sessionKey = some earlier.sessionKey →
          ∃ later ∈ route :: rest, later.sessionKey = earlier.sessionKey := by
  constructor
  · intro owns ahead route rest before split bound earlier member gone
    by_contra unplanned
    have inv' := (carried_of_accepted inv bound).invariant
    rw [split, bindRoutes_append bound] at accepted
    obtain ⟨next, step, -, later⟩ := bindRoutes_cons_accepted inv' accepted
    have elsewhere : earlier.sessionKey ∉ (route :: rest).map PlannedRoute.sessionKey := by
      intro present
      obtain ⟨other, planned, same⟩ := List.mem_map.mp present
      exact unplanned ⟨other, planned, same⟩
    rw [List.map_cons, List.mem_cons, not_or] at elsewhere
    have dropped : next.sessionRoutes.get? earlier.sessionKey = none := by
      rw [step.sessions, if_neg (Ne.symm elsewhere.1), if_pos gone]
    have lost := unrouted_of_accepted step.invariant later elsewhere.2 dropped
    have routed := (owns_iff.mp (owns earlier (by rw [split]; simp [member]))).1.1
    rw [lost] at routed
    cases routed
  · intro kept route planned
    obtain ⟨target, unmarked, calm⟩ := target_of_accepted inv accepted planned
    refine owns_iff.mpr ⟨⟨?_, calm⟩, target, unmarked⟩
    obtain ⟨ahead, last, rest, split, same, final⟩ := exists_last planned
    subst split
    obtain ⟨before, bound, rest'⟩ := bound_append (bound_iff.mpr accepted)
    have inv' := (carried_of_accepted inv (bound_iff.mp bound)).invariant
    obtain ⟨next, step, one, later⟩ := bindRoutes_cons_accepted inv' (bound_iff.mp rest')
    rw [← same]
    refine routed_of_accepted step.invariant later (by rw [step.sessions, if_pos rfl]) ?_
    intro between other tail middle split bound' gone
    have reached : registry.bindRoutes owner.val (ahead ++ last :: between) =
        (.accepted, middle) := by
      rw [bindRoutes_append (bound_iff.mp bound), ← bound', ← bindRoutes_append one between]
      rfl
    obtain ⟨again, planned', key⟩ := kept (ahead ++ last :: between) other tail middle
      (by rw [split]; simp) reached last (by simp) gone
    exact final again (by rw [split]; exact List.mem_append_right _ planned') (key.trans same)

private theorem allOrNothing_iff_of_accepted (inv : registry.Invariant)
    (whole : Bound owner.val registry plan after) :
    registry.AllOrNothing owner.val plan ↔ registry.PlanSafe owner.val plan := by
  have ended := bindPlan_accepted (bound_iff.mp whole)
  rw [allOrNothing_of_ok ended, owns_all_iff inv (bound_iff.mp whole)]
  constructor
  · intro kept
    refine { raised := ?_, refused := ?_, evicted := ?_ }
    · intro ahead route rest before split bound bad
      obtain ⟨error, failed⟩ := bindPlan_of_raises bound bad rest
      rw [← split, ended] at failed
      cases failed
    · intro ahead route rest before split bound other same good full
      rw [Subtype.ext same] at full
      obtain ⟨partly, failed⟩ := bindPlan_of_refuses inv bound good full rest
      rw [← split, ended] at failed
      cases failed
    · intro ahead route rest before _ split bound _
      exact kept ahead route rest before split (bound_iff.mp bound)
  · intro safe ahead route rest before split bound
    exact safe.evicted ahead route rest before after split (bound_iff.mpr bound) whole

/-- A plan that went through without pushing a planned session out is owned whole. -/
theorem owns_of_accepted (inv : registry.Invariant)
    (kept : Bound owner.val registry plan after → registry.PlanSafe owner.val plan)
    (bound : registry.bindPlan owner.val plan = (.ok true, after)) :
    ∀ route ∈ plan, after.Owns owner.val route := by
  have whole : Bound owner.val registry plan after := by
    rcases bindRoutes_stops inv plan with ⟨ended, accepted⟩ | stopped
    · cases (bindPlan_accepted accepted).symm.trans bound
      exact bound_iff.mpr accepted
    · obtain ⟨ahead, route, rest, before, split, taken, -, bad | ⟨good, full⟩⟩ := stopped
      · obtain ⟨error, failed⟩ := bindPlan_of_raises (bound_iff.mpr taken) bad rest
        rw [← split, bound] at failed
        cases failed
      · obtain ⟨partly, failed⟩ := bindPlan_of_refuses inv (bound_iff.mpr taken) good full rest
        rw [← split, bound] at failed
        cases failed
  exact (allOrNothing_of_ok bound).mp ((allOrNothing_iff_of_accepted inv whole).mpr (kept whole))

private theorem allOrNothing_iff_of_raised (inv : registry.Invariant)
    (split : plan = ahead ++ route :: rest) (bound : Bound owner.val registry ahead before)
    (bad : raises owner.val route = true) :
    registry.AllOrNothing owner.val plan ↔
      registry.PlanSafe owner.val plan ∨ registry.ComesRound owner.val plan := by
  obtain ⟨error, ended⟩ := bindPlan_of_raises bound bad rest
  rw [← split] at ended
  rw [allOrNothing_of_failed ended (by simp)]
  -- Only the first route that raises is one behind accepted routes.
  have only {ahead' : List PlannedRoute} {route' : PlannedRoute} {rest' : List PlannedRoute}
      {before' : Registry} (split' : plan = ahead' ++ route' :: rest')
      (bound' : Bound owner.val registry ahead' before') (bad' : raises owner.val route' = true) :
      ahead' = ahead ∧ before' = before := by
    obtain ⟨error', ended'⟩ := bindPlan_of_raises bound' bad' rest'
    rw [← split', ended] at ended'
    exact ⟨(ahead_eq split' bound' bad').trans (ahead_eq split bound bad).symm,
      (congrArg Prod.snd ended').symm⟩
  constructor
  · intro same
    rcases Nat.lt_or_ge maxPersistedRoutes ahead.length with long | short
    · exact .inr ⟨ahead, route, rest, before, split, bound, bad, long, same⟩
    refine .inl { raised := ?_, refused := ?_, evicted := ?_ }
    · intro ahead' route' rest' before' split' bound' bad' earlier member
      obtain ⟨rfl, rfl⟩ := only split' bound' bad'
      exact ⟨owner, rfl, established_of_unchanged inv (bound_iff.mp bound) same short earlier
        member⟩
    · intro ahead' route' rest' before' split' bound' other same' good full
      rw [Subtype.ext same'] at full
      obtain ⟨partly, failed⟩ := bindPlan_of_refuses inv bound' good full rest'
      rw [← split', ended] at failed
      cases failed
    · intro _ _ _ _ after _ _ whole
      have accepted := bindPlan_accepted (bound_iff.mp whole)
      rw [ended] at accepted
      cases accepted
  · rintro (safe | ⟨ahead', route', rest', before', split', bound', bad', -, same⟩)
    · have unchanged : before = registry := by
        refine unchanged_of_established inv (bound_iff.mp bound) fun earlier member => ?_
        obtain ⟨other, same, here⟩ := safe.raised ahead route rest before split bound bad earlier
          member
        rwa [Subtype.ext same] at here
      exact unchanged ▸ .refl registry
    · exact (only split' bound' bad').2 ▸ same

private theorem allOrNothing_iff_of_refused (inv : registry.Invariant)
    (split : plan = ahead ++ route :: rest) (bound : Bound owner.val registry ahead before)
    (good : raises owner.val route = false)
    (full : before.refuses (planRequest owner route) = true) :
    registry.AllOrNothing owner.val plan ↔ registry.PlanSafe owner.val plan := by
  obtain ⟨partly, ended⟩ := bindPlan_of_refuses inv bound good full rest
  rw [← split] at ended
  rw [allOrNothing_of_failed ended (by simp), sameObservables_restored_iff inv]
  constructor
  · intro single
    refine { raised := ?_, refused := fun _ _ _ _ _ _ _ _ _ _ => single, evicted := ?_ }
    · intro ahead' route' rest' before' split' bound' bad'
      obtain ⟨error', ended'⟩ := bindPlan_of_raises bound' bad' rest'
      rw [← split', ended] at ended'
      cases ended'
    · intro _ _ _ _ after _ _ whole
      have accepted := bindPlan_accepted (bound_iff.mp whole)
      rw [ended] at accepted
      cases accepted
  · intro safe
    exact safe.refused ahead route rest before split bound owner rfl good full

/-- `bind_plan` is all or nothing on exactly the safe plans, and on the overlong ones that come
round. -/
theorem bindPlan_allOrNothing_iff {registry : Registry} (reachable : registry.Reachable)
    (robotId : PyStr) (plan : List PlannedRoute) :
    (registry.AllOrNothing robotId plan ↔
      registry.PlanSafe robotId plan ∨ registry.ComesRound robotId plan) ∧
    (plan.length ≤ maxPersistedRoutes →
      (registry.AllOrNothing robotId plan ↔ registry.PlanSafe robotId plan)) := by
  have inv := reachable.invariant
  have exact' : registry.AllOrNothing robotId plan ↔
      registry.PlanSafe robotId plan ∨ registry.ComesRound robotId plan := by
    cases valid : validRobotId robotId with
    | false =>
      exact iff_of_true (allOrNothing_of_invalid valid) (.inl (planSafe_of_invalid valid))
    | true =>
      let owner : RobotId := ⟨robotId, valid⟩
      change registry.AllOrNothing owner.val plan ↔
        registry.PlanSafe owner.val plan ∨ registry.ComesRound owner.val plan
      rcases bindRoutes_stops inv plan with ⟨after, accepted⟩ | stopped
      · have whole := bound_iff.mpr accepted
        rw [or_iff_left (not_comesRound_of_ok (bindPlan_accepted accepted))]
        exact allOrNothing_iff_of_accepted inv whole
      · obtain ⟨ahead, route, rest, before, split, bound, -, bad | ⟨good, full⟩⟩ := stopped
        · exact allOrNothing_iff_of_raised inv split (bound_iff.mpr bound) bad
        · obtain ⟨partly, ended⟩ := bindPlan_of_refuses inv (bound_iff.mpr bound) good full rest
          rw [← split] at ended
          rw [or_iff_left (not_comesRound_of_ok ended)]
          exact allOrNothing_iff_of_refused inv split (bound_iff.mpr bound) good full
  exact ⟨exact', fun short => exact'.trans (or_iff_left (not_comesRound_of_short short))⟩

/-- Two legacy group sessions; a blank is outside the wire charset. -/
def unchartedPlan : List PlannedRoute :=
  [⟨⟨py "s1", by decide⟩, .group, ⟨py "g1", by decide⟩, .Group⟩,
    ⟨⟨py "s2", by decide⟩, .group, ⟨py "a b", by decide⟩, .Group⟩]

/-- The freeze accepts the plan, the second route raises, the first stays bound. -/
theorem unchartedPlan_not_allOrNothing :
    freezePlan [(py "s1", py "group", py "g1"), (py "s2", py "group", py "a b")] =
        .ok unchartedPlan ∧
      ¬ ∀ registry : Registry, registry.Reachable → ∀ robotId plan,
        registry.AllOrNothing robotId plan := by
  refine ⟨by decide, fun whole => ?_⟩
  rcases whole fresh .fresh (py "bot") unchartedPlan with ⟨accepted, -⟩ | ⟨-, same⟩
  · exact absurd accepted (by decide)
  · exact absurd (same.sessions ⟨py "s1", by decide⟩) (by decide)

/-- Two group sessions whose routes are within the charset. -/
def chartedPlan : List PlannedRoute :=
  [⟨⟨py "s1", by decide⟩, .group, ⟨py "g1", by decide⟩, .Group⟩,
    ⟨⟨py "s2", by decide⟩, .group, ⟨py "g2", by decide⟩, .Group⟩]

theorem bindPlan_allOrNothing_iff_charted :
    fresh.PlanSafe (py "bot") chartedPlan ∧ ¬ fresh.PlanSafe (py "bot") unchartedPlan := by
  have exact' (plan : List PlannedRoute) (short : plan.length ≤ maxPersistedRoutes) :=
    (bindPlan_allOrNothing_iff .fresh (py "bot") plan).2 short
  constructor
  · refine (exact' chartedPlan (by decide)).mp (.inl ⟨by decide, ?_⟩)
    intro route member
    rcases List.mem_cons.mp member with rfl | member
    · exact ⟨by decide, by decide⟩
    · obtain rfl := List.mem_singleton.mp member
      exact ⟨by decide, by decide⟩
  · intro safe
    rcases (exact' unchartedPlan (by decide)).mpr safe with ⟨accepted, -⟩ | ⟨-, same⟩
    · exact absurd accepted (by decide)
    · exact absurd (same.sessions ⟨py "s1", by decide⟩) (by decide)

end Registry

end OctoChannel.Identity

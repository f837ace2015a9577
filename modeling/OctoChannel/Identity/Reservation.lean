import OctoChannel.Identity.Documents
import OctoChannel.Identity.Ownership

namespace OctoChannel.Identity

open Foundation

namespace Registry

variable {registry after : Registry} {owner : RobotId} {route other : PlannedRoute}
  {request : Request} {plan whole : List PlannedRoute}

/-- No owner, mark, wire id or link of the registry is in conflict with the route. -/
structure Unopposed (registry : Registry) (owner : RobotId) (route : PlannedRoute) : Prop where
  session : registry.sessionRoutes.get? route.sessionKey = none ∨
    registry.sessionRoutes.get? route.sessionKey = some owner
  target : registry.targetRoutes.get? route.target = none ∨
    registry.targetRoutes.get? route.target = some owner
  calm : route.sessionKey ∉ registry.sessionConflicts
  open' : route.target ∉ registry.targetConflicts
  wire : wireDiffers (registry.targetWireIds.get? route.target)
    (planRequest owner route).wireTarget = false
  links : ∀ target, route.sessionKey ∈ registry.linked target → target = route.target

/-- What a bind has to keep to: the session of the route comes with its own target,
and the target is bound for the owner, under the wire id that is known for it. -/
structure Respects (registry : Registry) (owner : RobotId) (route : PlannedRoute)
    (request : Request) : Prop where
  home : request.sessionKey = some route.sessionKey → request.target = route.target
  robot : request.target = route.target → request.robotId = owner
  recorded : request.target = route.target →
    wireDiffers (registry.targetWireIds.get? route.target) request.wireTarget = false
  planned : request.target = route.target →
    wireDiffers request.wireTarget (planRequest owner route).wireTarget = false

theorem unopposed_fresh (owner : RobotId) (route : PlannedRoute) : fresh.Unopposed owner route where
  session := .inl rfl
  target := .inl rfl
  calm member := by cases member
  open' member := by cases member
  wire := rfl
  links target link := by cases link

theorem Unopposed.of_agree (unopposed : registry.Unopposed owner route)
    (agree : after.Agree registry)
    (links : ∀ target, after.linked target ⊆ registry.linked target) :
    after.Unopposed owner route where
  session := by
    rw [agree.sessions]
    exact unopposed.session
  target := by
    rw [agree.targets]
    exact unopposed.target
  calm := by
    rw [agree.sessionConflicts]
    exact unopposed.calm
  open' := by
    rw [agree.targetConflicts]
    exact unopposed.open'
  wire := by
    rw [agree.wires]
    exact unopposed.wire
  links target link := unopposed.links target (links target link)

/-- A target that this route's owner may bind is not owned by another robot. -/
private theorem Unopposed.uncontested (unopposed : registry.Unopposed owner route)
    (respects : registry.Respects owner route request) {robotId : RobotId}
    (routed : registry.targetRoutes.get? request.target = some robotId)
    (different : robotId ≠ request.robotId) : request.target ≠ route.target := by
  intro same
  rw [same] at routed
  rcases unopposed.target with unrouted | own
  · rw [unrouted] at routed
    cases routed
  · rw [own] at routed
    exact different ((Option.some.inj routed).symm.trans (respects.robot same).symm)

private theorem Unopposed.contestTarget (unopposed : registry.Unopposed owner route)
    {target : TargetKey} (elsewhere : target ≠ route.target) :
    (registry.contestTarget target).Unopposed owner route := by
  refine { unopposed with calm := ?_, open' := ?_ }
  · intro member
    rcases Finset.mem_union.mp member with old | linked
    · exact unopposed.calm old
    · exact elsewhere (unopposed.links target linked)
  · intro member
    rcases Finset.mem_insert.mp member with same | old
    · exact elsewhere same.symm
    · exact unopposed.open' old

private theorem Unopposed.contestSession (unopposed : registry.Unopposed owner route)
    {key : SessionKey} (elsewhere : key ≠ route.sessionKey) :
    (registry.contestSession (some key)).Unopposed owner route := by
  refine { unopposed with calm := ?_ }
  intro member
  rcases Finset.mem_union.mp member with old | new
  · exact unopposed.calm old
  · exact elsewhere (Option.some.inj (Option.mem_toFinset.mp new))

private theorem Unopposed.claim (unopposed : registry.Unopposed owner route)
    (inv : registry.Invariant) (respects : registry.Respects owner route request)
    (claimable : registry.Claimable request) : (registry.claim request).Unopposed owner route := by
  refine { session := ?_, target := ?_, calm := ?_, open' := ?_, wire := ?_, links := ?_ }
  · cases named : request.sessionKey with
    | none =>
      rw [(sessionless_claim named).1]
      exact unopposed.session
    | some key =>
      rw [sessionRoutes_claim inv.bounded named, Dict.get?_set, get?_without]
      split
      · rename_i same
        exact .inr (congrArg some (respects.robot (respects.home (by rw [named, same]))))
      · split
        · exact .inl rfl
        · exact unopposed.session
  · rw [targetRoutes_claim, get?_targetRoutes_recordTarget claimable]
    split
    · rename_i same
      exact .inr (congrArg some (respects.robot same))
    · exact unopposed.target
  · rw [sessionConflicts_claim]
    exact unopposed.calm
  · rw [targetConflicts_claim]
    exact unopposed.open'
  · rw [targetWireIds_claim, get?_targetWireIds_recordTarget]
    split
    · rename_i same
      cases offered : request.wireTarget with
      | none => exact unopposed.wire
      | some wire =>
        have planned := respects.planned same
        rwa [offered] at planned
    · exact unopposed.wire
  · intro target link
    cases named : request.sessionKey with
    | none =>
      rw [linked, (sessionless_claim named).2] at link
      exact unopposed.links target link
    | some key =>
      rcases (mem_linked_claim inv named).mp link with ⟨here, same⟩ | ⟨old, -⟩
      · exact here.symm.trans (respects.home (by rw [named, same]))
      · exact unopposed.links target old

/-- A bind that respects the route leaves it unopposed, whichever way it ends. -/
theorem Unopposed.bindLocked (unopposed : registry.Unopposed owner route)
    (inv : registry.Invariant) (respects : registry.Respects owner route request) :
    (registry.bindLocked request).2.Unopposed owner route := by
  have exit := bindLocked_case registry request
  revert exit
  generalize (registry.bindLocked request).1 = result
  generalize (registry.bindLocked request).2 = after
  intro exit
  cases exit with
  | refused => exact unopposed
  | @contestedSession key robotId named routed different =>
    have elsewhere : key ≠ route.sessionKey := by
      rintro rfl
      have own := respects.robot (respects.home named)
      rcases unopposed.session with unrouted | mine
      · rw [unrouted] at routed
        cases routed
      · rw [mine] at routed
        exact different ((Option.some.inj routed).symm.trans own.symm)
    split
    · rename_i both
      obtain ⟨foreigner, found, foreign⟩ := ownedByOther_eq_true.mp both
      exact (unopposed.contestTarget
        (unopposed.uncontested respects found foreign)).contestSession elsewhere
    · exact unopposed.contestSession elsewhere
  | contestedTarget routed reason =>
    apply unopposed.contestTarget
    rcases reason with different | wires
    · exact unopposed.uncontested respects routed different
    · intro same
      rw [same, respects.recorded same] at wires
      cases wires
  | filled routed known open' calm offered unknown =>
    refine { unopposed with wire := ?_ }
    rw [fillWire, Dict.get?_set]
    split
    · rename_i same
      have planned := respects.planned same
      rwa [offered] at planned
    · exact unopposed.wire
  | idempotent => exact unopposed
  | full => exact unopposed
  | claimed open' calm free target => exact unopposed.claim inv respects (target.imp id And.left)

/-- The keys of the two route tables, the oldest first. -/
structure Tables where
  sessions : List SessionKey
  targets : List TargetKey

def tables (registry : Registry) : Tables :=
  ⟨registry.sessionRoutes.keys, registry.targetRoutes.keys⟩

/-- The tables once a route is bound: unless both keys are there already, a full
session table gives up its oldest entry, and the missing keys go to the end. -/
def Tables.enter (tables : Tables) (route : PlannedRoute) : Tables :=
  if route.sessionKey ∈ tables.sessions ∧ route.target ∈ tables.targets then tables
  else
    let left := if tables.sessions.length < maxPersistedRoutes then tables.sessions
      else tables.sessions.tail
    { sessions := if route.sessionKey ∈ left then left else left ++ [route.sessionKey]
      targets := if route.target ∈ tables.targets then tables.targets
        else tables.targets ++ [route.target] }

/-- There is a place for every target of the plan, and none of its sessions is pushed
out by a later one. -/
structure Tables.Fits (tables : Tables) (plan : List PlannedRoute) : Prop where
  targets : (plan.foldl enter tables).targets.length ≤ maxPersistedRoutes
  sessions : ∀ route ∈ plan, route.sessionKey ∈ (plan.foldl enter tables).sessions

theorem Tables.targets_enter (tables : Tables) (route : PlannedRoute) :
    (tables.enter route).targets =
      if route.target ∈ tables.targets then tables.targets
      else tables.targets ++ [route.target] := by
  unfold enter
  split
  · rename_i both
    rw [if_pos both.2]
  · rfl

private theorem Tables.length_targets_enter (tables : Tables) (route : PlannedRoute) :
    tables.targets.length ≤ (tables.enter route).targets.length := by
  rw [targets_enter]
  split
  · exact le_rfl
  · simp

private theorem Tables.length_targets_foldl (tables : Tables) (plan : List PlannedRoute) :
    tables.targets.length ≤ (plan.foldl enter tables).targets.length := by
  induction plan generalizing tables with
  | nil => exact le_rfl
  | cons route rest ih => exact (tables.length_targets_enter route).trans (ih _)

private theorem keys_recordTarget (request : Request) :
    (registry.recordTarget request).targetRoutes.keys =
      if request.target ∈ registry.targetRoutes.keys then registry.targetRoutes.keys
      else registry.targetRoutes.keys ++ [request.target] := by
  unfold recordTarget
  by_cases known : request.target ∈ registry.targetRoutes.keys
  · have routed := (registry.targetRoutes.mem_keys_iff _).mp known
    rw [if_pos known, if_neg (by simpa [Option.isSome_iff_ne_none] using routed)]
    rfl
  · have unrouted := (registry.targetRoutes.get?_eq_none_iff _).mpr known
    rw [if_neg known, if_pos (by simp [unrouted])]
    simp only [recordWire, openTarget, Dict.keys_set, if_neg known]

private theorem tables_claim (inv : registry.Invariant)
    (new : ¬ (route.sessionKey ∈ registry.sessionRoutes.keys ∧
      route.target ∈ registry.targetRoutes.keys)) :
    (registry.claim (planRequest owner route)).tables = registry.tables.enter route := by
  have named : (planRequest owner route).sessionKey = some route.sessionKey := rfl
  have unsettled : ¬ (route.sessionKey ∈ registry.tables.sessions ∧
      route.target ∈ registry.tables.targets) := new
  rw [Tables.enter, if_neg unsettled]
  simp only [tables, sessionRoutes_claim inv.bounded named, Dict.keys_set, keys_without_victim,
    targetRoutes_claim, keys_recordTarget, Dict.length_keys]
  rfl

/-- A route that is accepted enters the tables as described. -/
private theorem tables_bindLocked (inv : registry.Invariant)
    (free : registry.refuses (planRequest owner route) = false) :
    (registry.bindLocked (planRequest owner route)).2.tables = registry.tables.enter route := by
  have accepted := accepted_bindLocked registry (planRequest owner route)
  rw [free, Bool.not_false] at accepted
  have exit := bindLocked_case registry (planRequest owner route)
  revert accepted exit
  generalize (registry.bindLocked (planRequest owner route)).1 = result
  generalize (registry.bindLocked (planRequest owner route)).2 = after
  intro accepted exit
  have settled (routed : registry.targetRoutes.get? route.target = some owner)
      (known : registry.sessionRoutes.get? route.sessionKey = some owner) :
      registry.tables.enter route = registry.tables := by
    refine if_pos ⟨?_, ?_⟩
    · exact (registry.sessionRoutes.mem_keys_iff _).mpr (Option.isSome_of_eq_some known)
    · exact (registry.targetRoutes.mem_keys_iff _).mpr (Option.isSome_of_eq_some routed)
  cases exit with
  | refused => cases accepted
  | contestedSession => cases accepted
  | contestedTarget => cases accepted
  | full => cases accepted
  | filled routed known => exact (settled routed (known _ rfl)).symm
  | idempotent routed known => exact (settled routed (known _ rfl)).symm
  | claimed open' calm free' target =>
    refine tables_claim inv ?_
    rintro ⟨session, present⟩
    have sessionRouted := (registry.sessionRoutes.mem_keys_iff _).mp session
    have targetRouted := (registry.targetRoutes.mem_keys_iff _).mp present
    rcases target with ⟨unrouted, -⟩ | ⟨-, key, named, new⟩
    · change registry.targetRoutes.get? route.target = none at unrouted
      rw [unrouted] at targetRouted
      cases targetRouted
    · cases named
      rw [new] at sessionRouted
      cases sessionRouted

/-- With a place left for its target, an unopposed route is accepted. -/
theorem Unopposed.accepts (unopposed : registry.Unopposed owner route)
    (room : (registry.tables.enter route).targets.length ≤ maxPersistedRoutes) :
    registry.refuses (planRequest owner route) = false := by
  have session : (planRequest owner route).sessionKey.bind registry.sessionRoutes.get? =
      registry.sessionRoutes.get? route.sessionKey := rfl
  have fields : (planRequest owner route).target = route.target ∧
      (planRequest owner route).robotId = owner := ⟨rfl, rfl⟩
  have calm : (planRequest owner route).sessionKey.any (· ∈ registry.sessionConflicts) = false := by
    simpa [planRequest] using unopposed.calm
  have place : ((registry.targetRoutes.get? route.target).isNone &&
      decide (maxPersistedRoutes ≤ registry.targetRoutes.size)) = false := by
    cases routed : registry.targetRoutes.get? route.target with
    | some robotId => rfl
    | none =>
      have absent := (registry.targetRoutes.get?_eq_none_iff _).mp routed
      rw [Tables.targets_enter, tables, if_neg absent, List.length_append, Dict.length_keys,
        List.length_singleton] at room
      simp only [Option.isNone_none, Bool.true_and, decide_eq_false_iff_not, not_le]
      omega
  rw [refuses, session, calm, fields.1, fields.2, decide_eq_false unopposed.open',
    ownedByOther_eq_false.mpr unopposed.session, ownedByOther_eq_false.mpr unopposed.target,
    unopposed.wire, place]
  simp

/-- The routes of a plan respect each other, when a session names one target only. -/
private theorem respects_planRequest (unopposed : registry.Unopposed owner other)
    (home : route.sessionKey = other.sessionKey → route.target = other.target) :
    registry.Respects owner other (planRequest owner route) := by
  have same (here : route.target = other.target) :
      (planRequest owner route).wireTarget = (planRequest owner other).wireTarget := by
    obtain ⟨sessionKey, chatType, chatId, channelType⟩ := route
    obtain ⟨sessionKey', chatType', chatId', channelType'⟩ := other
    cases here
    rfl
  refine { home := fun named => home (Option.some.inj named), robot := fun _ => rfl,
           recorded := ?_, planned := ?_ }
  · intro here
    rw [same here]
    exact unopposed.wire
  · intro here
    rw [same here]
    cases (planRequest owner other).wireTarget with
    | none => rfl
    | some wire => simp [wireDiffers]

/-- A plan that nothing stands against is accepted if its targets find room; the rest
of a longer plan stays unopposed meanwhile. -/
theorem bindRoutes_of_unopposed (inv : registry.Invariant)
    (good : ∀ route ∈ plan, raises owner.val route = false)
    (within : ∀ route ∈ plan, route ∈ whole)
    (unopposed : ∀ route ∈ whole, registry.Unopposed owner route)
    (home : ∀ route ∈ whole, ∀ other ∈ whole,
      route.sessionKey = other.sessionKey → route.target = other.target)
    (room : (plan.foldl Tables.enter registry.tables).targets.length ≤ maxPersistedRoutes) :
    ∃ after, registry.bindRoutes owner.val plan = (.accepted, after) ∧
      after.tables = plan.foldl Tables.enter registry.tables ∧
      ∀ route ∈ whole, after.Unopposed owner route := by
  induction plan generalizing registry with
  | nil => exact ⟨registry, rfl, rfl, unopposed⟩
  | cons route rest ih =>
    simp only [List.forall_mem_cons] at good within
    rw [List.foldl_cons] at room ⊢
    have free := (unopposed route within.1).accepts
      ((Tables.length_targets_foldl _ rest).trans room)
    have entered := tables_bindLocked inv free
    rw [← entered] at room ⊢
    rw [bindRoutes_of_accepts good.1 free]
    refine ih (inv.bindLocked _) good.2 within.2 ?_ room
    intro other member
    exact (unopposed other member).bindLocked inv
      (respects_planRequest (unopposed other member) (home route within.1 other member))

/-- A plan that nothing stands against and that fits is owned as a whole. -/
theorem bindPlan_of_unopposed (inv : registry.Invariant)
    (good : ∀ route ∈ plan, raises owner.val route = false)
    (unopposed : ∀ route ∈ plan, registry.Unopposed owner route)
    (home : ∀ route ∈ plan, ∀ other ∈ plan,
      route.sessionKey = other.sessionKey → route.target = other.target)
    (fits : registry.tables.Fits plan) :
    ∃ after, registry.bindRoutes owner.val plan = (.accepted, after) ∧
      ∀ route ∈ plan, after.Owns owner.val route := by
  obtain ⟨after, accepted, entered, still⟩ :=
    bindRoutes_of_unopposed inv good (fun _ => id) unopposed home fits.targets
  refine ⟨after, accepted, ?_⟩
  intro route planned
  obtain ⟨target, unmarked, calm⟩ := target_of_accepted inv accepted planned
  have present : route.sessionKey ∈ after.sessionRoutes.keys := by
    have kept := fits.sessions route planned
    rw [← entered] at kept
    exact kept
  refine owns_iff.mpr ⟨⟨?_, calm⟩, target, unmarked⟩
  rcases (still route planned).session with unrouted | own
  · exact absurd present ((after.sessionRoutes.get?_eq_none_iff _).mp unrouted)
  · exact own

/-- A plan adds no text to the registry but its own. -/
theorem printable_of_accepted (inv : registry.Invariant) (printable : registry.Printable)
    (texts : ∀ route ∈ plan, Encodable route.sessionKey.val ∧ Encodable route.chatId.val)
    (accepted : registry.bindRoutes owner.val plan = (.accepted, after)) : after.Printable := by
  induction plan generalizing registry with
  | nil =>
    cases accepted
    exact printable
  | cons route rest ih =>
    obtain ⟨next, step, -, later⟩ := bindRoutes_cons_accepted inv accepted
    simp only [List.forall_mem_cons] at texts
    refine ih step.invariant ?_ texts.2 later
    refine { sessions := ?_, targets := ?_, sessionConflicts := ?_ }
    · intro key routed
      rw [step.sessions] at routed
      split at routed
      · rename_i same
        exact same ▸ texts.1.1
      · split at routed
        · cases routed
        · exact printable.sessions key routed
    · intro target routed
      rw [step.targets] at routed
      split at routed
      · rename_i same
        exact same ▸ texts.1.2
      · exact printable.targets target routed
    · rw [step.sessionConflicts]
      exact printable.sessionConflicts

end Registry

end OctoChannel.Identity

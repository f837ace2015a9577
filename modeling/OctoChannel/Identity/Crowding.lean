import OctoChannel.Identity.Documents

namespace OctoChannel.Identity

open Foundation

/-- Session keys `s`, `ss`, `sss`, and so on. -/
def numbered (number : Nat) : SessionKey := ⟨List.replicate (number + 1) (ch 's'), by simp⟩

theorem numbered_injective {first second : Nat} (same : numbered first = numbered second) :
    first = second := by
  have lengths := congrArg (fun key : SessionKey => key.val.length) same
  simpa [numbered] using lengths

namespace Registry

variable {registry after : Registry} {owner : RobotId} {target : TargetKey}
  {keys : List SessionKey} {route : PlannedRoute}

/-- One robot, at most one chat, and these sessions, the oldest first. -/
structure Housing (registry : Registry) (owner : RobotId) (target : TargetKey)
    (keys : List SessionKey) : Prop where
  invariant : registry.Invariant
  calm : registry.sessionConflicts = ∅
  open' : registry.targetConflicts = ∅
  home : ∀ other robotId, registry.targetRoutes.get? other = some robotId →
    other = target ∧ robotId = owner
  owned : ∀ key robotId, registry.sessionRoutes.get? key = some robotId → robotId = owner
  sessions : registry.sessionRoutes.keys = keys
  present : keys ≠ [] → registry.targetRoutes.get? target = some owner

theorem housing_fresh (owner : RobotId) (target : TargetKey) : fresh.Housing owner target [] where
  invariant := invariant_fresh
  calm := rfl
  open' := rfl
  home other robotId routed := by simp [fresh] at routed
  owned key robotId routed := by simp [fresh] at routed
  sessions := rfl
  present inhabited := absurd rfl inhabited

theorem Housing.agree (housing : registry.Housing owner target keys) (inv : after.Invariant)
    (agree : after.Agree registry) : after.Housing owner target keys where
  invariant := inv
  calm := agree.sessionConflicts.trans housing.calm
  open' := agree.targetConflicts.trans housing.open'
  home := by
    rw [agree.targets]
    exact housing.home
  owned := by
    rw [agree.sessions]
    exact housing.owned
  sessions := by
    rw [agree.sessions]
    exact housing.sessions
  present := by
    rw [agree.targets]
    exact housing.present

theorem Housing.printable (housing : registry.Housing owner target keys)
    (chat : Encodable target.2.val) (texts : ∀ key ∈ keys, Encodable key.val) :
    registry.Printable where
  sessions key routed := by
    rw [← Dict.mem_keys_iff, housing.sessions] at routed
    exact texts key routed
  targets other routed := by
    obtain ⟨robotId, found⟩ := Option.isSome_iff_exists.mp routed
    rw [(housing.home other robotId found).1]
    exact chat
  sessionConflicts key marked := by
    rw [housing.calm] at marked
    cases marked

theorem Housing.accepts (housing : registry.Housing owner target keys) (same : route.target = target)
    (direct : route.chatType = .dm) :
    raises owner.val route = false ∧ registry.refuses (planRequest owner route) = false := by
  refine ⟨by simp [raises, owner.property, direct], ?_⟩
  have ownSession : ownedByOther (registry.sessionRoutes.get? route.sessionKey) owner = false := by
    rw [ownedByOther_eq_false]
    cases routed : registry.sessionRoutes.get? route.sessionKey with
    | none => exact .inl rfl
    | some robotId => exact .inr (congrArg some (housing.owned _ _ routed))
  have ownTarget : registry.targetRoutes.get? target = none ∨
      registry.targetRoutes.get? target = some owner := by
    cases routed : registry.targetRoutes.get? target with
    | none => exact .inl rfl
    | some robotId => exact .inr (congrArg some (housing.home _ _ routed).2)
  have room : registry.targetRoutes.get? target = none → registry.targetRoutes.size = 0 := by
    intro unrouted
    rw [← registry.targetRoutes.length_keys, List.length_eq_zero_iff, List.eq_nil_iff_forall_not_mem]
    intro other member
    obtain ⟨robotId, found⟩ :=
      Option.isSome_iff_exists.mp ((registry.targetRoutes.mem_keys_iff other).mp member)
    rw [(housing.home other robotId found).1, unrouted] at found
    cases found
  have wire : (planRequest owner route).wireTarget = none := by
    rw [planRequest, direct]
  have fields : (planRequest owner route).sessionKey = some route.sessionKey ∧
      (planRequest owner route).target = target ∧ (planRequest owner route).robotId = owner :=
    ⟨rfl, same, rfl⟩
  rw [refuses, fields.1, fields.2.1, fields.2.2, wire]
  simp only [housing.calm, housing.open', Option.any_some, Option.bind_some, ownSession,
    ownedByOther_eq_false.mpr ownTarget, wireDiffers]
  rcases ownTarget with unrouted | routed
  · simp [unrouted, room unrouted, maxPersistedRoutes]
  · simp [routed]

theorem Housing.step (housing : registry.Housing owner target keys) (same : route.target = target)
    (direct : route.chatType = .dm) : ∃ next, Step owner route registry next ∧
      ∀ rest, registry.bindRoutes owner.val (route :: rest) = next.bindRoutes owner.val rest := by
  obtain ⟨good, free⟩ := housing.accepts same direct
  exact ⟨_, step_of_accepted housing.invariant good free, fun _ => bindRoutes_of_accepts good free⟩

/-- A new session goes behind the others, and the first of a full table leaves. -/
theorem Housing.arrive (housing : registry.Housing owner target keys) (same : route.target = target)
    (direct : route.chatType = .dm) (new : route.sessionKey ∉ keys) :
    ∃ next : Registry, next.Housing owner target
        ((if keys.length < maxPersistedRoutes then keys else keys.tail) ++ [route.sessionKey]) ∧
      ∀ rest, registry.bindRoutes owner.val (route :: rest) = next.bindRoutes owner.val rest := by
  obtain ⟨next, step, bound⟩ := housing.step same direct
  refine ⟨next, ?_, bound⟩
  have routed : next.sessionRoutes.get? route.sessionKey = some owner := by
    rw [step.sessions, if_pos rfl]
  have place : next.sessionRoutes =
      (registry.without registry.victim).sessionRoutes.set route.sessionKey owner := by
    rcases step.keys with unchanged | placed
    · have present : route.sessionKey ∈ next.sessionRoutes.keys :=
        (next.sessionRoutes.mem_keys_iff _).mpr (Option.isSome_of_eq_some routed)
      rw [unchanged, housing.sessions] at present
      exact absurd present new
    · exact placed
  have left : (registry.without registry.victim).sessionRoutes.keys =
      if keys.length < maxPersistedRoutes then keys else keys.tail := by
    have size : registry.sessionRoutes.size = keys.length := by
      rw [← registry.sessionRoutes.length_keys, housing.sessions]
    unfold victim
    rw [size, housing.sessions]
    split
    · exact housing.sessions
    · cases order : keys with
      | nil => exact housing.sessions.trans order
      | cons first others =>
        exact Dict.keys_erase_head (housing.sessions.trans order)
  refine { invariant := step.invariant, calm := step.sessionConflicts.trans housing.calm,
           open' := step.targetConflicts.trans housing.open', home := ?_, owned := ?_,
           sessions := ?_, present := fun _ => by rw [step.targets, if_pos same] }
  · intro other robotId found
    rw [step.targets] at found
    split at found
    · rename_i here
      exact ⟨here.symm.trans same, (Option.some.inj found).symm⟩
    · exact housing.home other robotId found
  · intro key robotId found
    rw [step.sessions] at found
    split at found
    · exact (Option.some.inj found).symm
    · split at found
      · cases found
      · exact housing.owned key robotId found
  · rw [place, Dict.keys_set, left, if_neg]
    split
    · exact new
    · exact fun member => new (List.mem_of_mem_tail member)

/-- A session that is there already changes nothing. -/
theorem Housing.stay (housing : registry.Housing owner target keys) (same : route.target = target)
    (direct : route.chatType = .dm) (known : route.sessionKey ∈ keys) :
    ∀ rest, registry.bindRoutes owner.val (route :: rest) = registry.bindRoutes owner.val rest := by
  obtain ⟨next, step, bound⟩ := housing.step same direct
  rcases step.progress with ⟨rfl, -⟩ | unrouted | unrouted | ⟨group, -⟩
  · exact bound
  · rw [same, housing.present (List.ne_nil_of_mem known)] at unrouted
    cases unrouted
  · rw [← housing.sessions, Dict.mem_keys_iff, unrouted] at known
    cases known
  · rw [direct] at group
    cases group

/-- New sessions that fit are all housed, in the order of the plan. -/
theorem Housing.fill (housing : registry.Housing owner target keys) {plan : List PlannedRoute}
    (direct : ∀ route ∈ plan, route.target = target ∧ route.chatType = .dm)
    (new : (keys ++ plan.map PlannedRoute.sessionKey).Nodup)
    (room : keys.length + plan.length ≤ maxPersistedRoutes) :
    ∃ next : Registry, next.Housing owner target (keys ++ plan.map PlannedRoute.sessionKey) ∧
      registry.bindPlan owner.val plan = (.ok true, next) := by
  suffices bound : ∃ next : Registry, next.Housing owner target (keys ++ plan.map PlannedRoute.sessionKey) ∧
      registry.bindRoutes owner.val plan = (.accepted, next) by
    obtain ⟨next, housed, accepted⟩ := bound
    exact ⟨next, housed, bindPlan_accepted accepted⟩
  induction plan generalizing registry keys with
  | nil => exact ⟨registry, by simpa using housing, rfl⟩
  | cons route rest ih =>
    simp only [List.forall_mem_cons] at direct
    simp only [List.map_cons, List.length_cons] at new room
    have absent : route.sessionKey ∉ keys := by
      intro member
      exact (List.nodup_append.mp new).2.2 _ member _ (List.mem_cons_self ..) rfl
    obtain ⟨next, housed, bound⟩ := housing.arrive direct.1.1 direct.1.2 absent
    rw [if_pos (by omega)] at housed
    obtain ⟨last, whole, accepted⟩ := ih housed direct.2 (by simpa using new)
      (by simp only [List.length_append, List.length_singleton]; omega)
    exact ⟨last, by simpa using whole, (bound rest).trans accepted⟩

/-- Over a full table a plan that names the oldest session, and after it a new one,
goes through without the oldest session. -/
theorem Housing.crowdOut {oldest : SessionKey} {others : List SessionKey}
    (housing : registry.Housing owner target (oldest :: others))
    (full : others.length + 1 = maxPersistedRoutes) {known new : PlannedRoute}
    (direct : ∀ route ∈ [known, new], route.target = target ∧ route.chatType = .dm)
    (first : known.sessionKey = oldest) (fresh : new.sessionKey ∉ oldest :: others)
    (distinct : oldest ∉ others) :
    ∃ next : Registry, next.Housing owner target (others ++ [new.sessionKey]) ∧
      registry.bindPlan owner.val [known, new] = (.ok true, next) ∧
      ¬ next.Owns owner.val known := by
  simp only [List.forall_mem_cons] at direct
  obtain ⟨next, housed, bound⟩ := housing.arrive direct.2.1.1 direct.2.1.2 fresh
  rw [if_neg (by simp only [List.length_cons]; omega), List.tail_cons] at housed
  refine ⟨next, housed, ?_, ?_⟩
  · apply bindPlan_accepted
    rw [housing.stay direct.1.1 direct.1.2 (by simp [first]), bound]
    rfl
  · intro owns
    have routed := (owns_iff.mp owns).1.1
    have member : oldest ∈ next.sessionRoutes.keys := by
      rw [Dict.mem_keys_iff, ← first, routed]
      rfl
    rw [housed.sessions, List.mem_append, List.mem_singleton] at member
    rcases member with old | same
    · exact distinct old
    · exact fresh (by simp [same])

end Registry

end OctoChannel.Identity

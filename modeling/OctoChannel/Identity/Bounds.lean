import OctoChannel.Identity.Crowding
import OctoChannel.Identity.Ownership

namespace OctoChannel.Identity

open Foundation

namespace Registry

variable {registry source after : Registry}

/-- No collection that is kept or persisted exceeds the bound. -/
structure Within (bound : Nat) (registry : Registry) : Prop where
  targetRoutes : registry.targetRoutes.size ≤ bound
  sessionRoutes : registry.sessionRoutes.size ≤ bound
  sessionConflicts : registry.sessionConflicts.card ≤ bound
  targetConflicts : registry.targetConflicts.card ≤ bound
  linkSets : registry.targetSessions.size ≤ bound
  links : registry.targetSessions.count ≤ bound
  indexed : registry.chatIndex.size ≤ bound
  holders : registry.chatIndex.count ≤ bound
  channelTypes : registry.targetChannelTypes.size ≤ bound
  wireIds : registry.targetWireIds.size ≤ bound

/-- Every conflicted session is routed. -/
def ConflictsRouted (registry : Registry) : Prop :=
  ∀ key ∈ registry.sessionConflicts, (registry.sessionRoutes.get? key).isSome

private theorem card_le_size {Key Value Item : Type} [DecidableEq Key] [DecidableEq Item]
    {dict : Dict Key Value} {set : Finset Item} (name : Item → Key)
    (distinct : ∀ first ∈ set, ∀ second ∈ set, name first = name second → first = second)
    (covers : ∀ item ∈ set, (dict.get? (name item)).isSome) : set.card ≤ dict.size := by
  have inside : set.image name ⊆ dict.keys.toFinset := by
    intro key member
    obtain ⟨item, present, rfl⟩ := Finset.mem_image.mp member
    exact List.mem_toFinset.mpr ((dict.mem_keys_iff _).mpr (covers item present))
  calc set.card = (set.image name).card := (Finset.card_image_of_injOn fun first one second two =>
          distinct first one second two).symm
    _ ≤ dict.keys.toFinset.card := Finset.card_le_card inside
    _ ≤ dict.keys.length := List.toFinset_card_le _
    _ = dict.size := dict.length_keys

private theorem size_le_size {Key First Second : Type} [DecidableEq Key] {dict : Dict Key First}
    {capped : Dict Key Second} (covers : ∀ key, (dict.get? key).isSome → (capped.get? key).isSome) :
    dict.size ≤ capped.size := by
  rw [← capped.length_keys]
  exact Dict.size_le_length id fun key found => ⟨key, (capped.mem_keys_iff key).mpr (covers key found), rfl⟩

theorem Invariant.within (inv : registry.Invariant) (routed : registry.ConflictsRouted) :
    registry.Within (maxPersistedRoutes ^ 2) := by
  have square : ∀ {size : Nat}, size ≤ maxPersistedRoutes → size ≤ maxPersistedRoutes ^ 2 :=
    fun small => small.trans (Nat.le_self_pow (by decide) _)
  have linkSets : registry.targetSessions.size ≤ maxPersistedRoutes :=
    (size_le_size inv.listed).trans inv.limited
  have indexed : registry.chatIndex.size ≤ maxPersistedRoutes := by
    refine le_trans ?_ inv.limited
    rw [← registry.targetRoutes.length_keys]
    refine Dict.size_le_length Prod.snd fun chatId found => ?_
    obtain ⟨set, entry⟩ := Option.isSome_iff_exists.mp found
    obtain ⟨holder, member⟩ := inv.inhabited chatId set entry
    have held : holder ∈ registry.holders chatId := by
      rw [Registry.holders, Links.members, entry]
      exact member
    refine ⟨(holder.1, chatId), (registry.targetRoutes.mem_keys_iff _).mpr ?_, rfl⟩
    exact Option.isSome_of_eq_some ((inv.indexed (holder.1, chatId) holder.2).mp held)
  refine { targetRoutes := square inv.limited, sessionRoutes := square inv.bounded,
           sessionConflicts := square ?_, targetConflicts := square ?_, linkSets := square linkSets,
           links := ?_, indexed := square indexed, holders := ?_, channelTypes := square ?_,
           wireIds := square ?_ }
  · exact (card_le_size id (fun _ _ _ _ same => same) routed).trans inv.bounded
  · exact (card_le_size id (fun _ _ _ _ same => same) inv.contested).trans inv.limited
  · rw [Nat.pow_two]
    refine Links.count_le linkSets fun target => ?_
    refine (card_le_size id (fun _ _ _ _ same => same) fun key link => ?_).trans inv.bounded
    obtain ⟨owner, session, -⟩ := inv.owned target key link
    exact Option.isSome_of_eq_some session
  · rw [Nat.pow_two]
    refine Links.count_le indexed fun chatId => ?_
    refine (card_le_size (fun holder => (holder.1, chatId)) ?_ fun holder held => ?_).trans inv.limited
    · intro first one second two same
      have owner := (inv.indexed (first.1, chatId) first.2).mp one
      have other := (inv.indexed (second.1, chatId) second.2).mp two
      rw [same, other] at owner
      exact Prod.ext (Prod.mk.inj same).1 (Option.some.inj owner).symm
    · exact Option.isSome_of_eq_some ((inv.indexed (holder.1, chatId) holder.2).mp held)
  · exact (size_le_size fun target => (inv.typed target).mp).trans inv.limited
  · exact (size_le_size inv.wired).trans inv.limited

/-- A request that goes through pushes no conflicted session out of the table. -/
def Spares (registry : Registry) (request : Request) : Prop :=
  registry.refuses request = false → ∀ key ∈ request.sessionKey,
    ∀ gone ∈ registry.evictedBy request.target key, gone ∉ registry.sessionConflicts

/-- So does no route of a plan that is not taken back. -/
def PlanSpares (registry : Registry) (robotId : PyStr) (plan : List PlannedRoute) : Prop :=
  ¬ registry.PlanRefused robotId plan → ∀ ahead route rest before request,
    plan = ahead ++ route :: rest → Bound robotId registry ahead before →
      (planArgs robotId route).validate = .ok request → before.Spares request

/-- The reachable states of the runs in which every step spares the conflicted
sessions. -/
inductive Sparing : Registry → Prop where
  | fresh : Sparing fresh
  | bind {registry : Registry} (before : Sparing registry) (args : BindArgs)
      (spares : ∀ request, args.validate = .ok request → registry.Spares request) :
      Sparing (registry.bind args).2
  | bindPlan {registry : Registry} (before : Sparing registry) (robotId : PyStr)
      (plan : List PlannedRoute) (spares : registry.PlanSpares robotId plan) :
      Sparing (registry.bindPlan robotId plan).2
  | forgetTarget {registry : Registry} (before : Sparing registry) (args : ForgetArgs)
      (write : WriteEnd) : Sparing (registry.forgetTarget args write).2
  | flush {registry : Registry} (before : Sparing registry) (force : Bool) (write : WriteEnd) :
      Sparing (registry.flush force write).2
  | load {registry source : Registry} {current backup : Except PyError Reading}
      (before : Sparing registry) (wrote : Sparing source)
      (own : ∀ body, Reading.chosen? current backup = some body →
        body = source.bodyLocked.sortKeys) : Sparing (registry.load current backup).1

theorem Sparing.reachable (sparing : registry.Sparing) : registry.Reachable := by
  induction sparing with
  | fresh => exact .fresh
  | bind _ args _ ih => exact ih.bind args
  | bindPlan _ robotId plan _ ih => exact ih.bindPlan robotId plan
  | forgetTarget _ args write ih => exact ih.forgetTarget args write
  | flush _ force write ih => exact ih.flush force write
  | load _ _ own ih wrote => exact ih.load wrote own

theorem ConflictsRouted.of_agree (routed : source.ConflictsRouted) (agree : after.Agree source) :
    after.ConflictsRouted := by
  intro key marked
  rw [agree.sessions]
  rw [agree.sessionConflicts] at marked
  exact routed key marked

theorem ConflictsRouted.withDirty (routed : registry.ConflictsRouted) (dirty : Bool) :
    { registry with dirty := dirty }.ConflictsRouted := routed

theorem ConflictsRouted.contestTarget (inv : registry.Invariant)
    (routed : registry.ConflictsRouted) (target : TargetKey) :
    (registry.contestTarget target).ConflictsRouted := by
  intro key marked
  rcases Finset.mem_union.mp marked with old | link
  · exact routed key old
  · obtain ⟨owner, session, -⟩ := inv.owned target key link
    exact Option.isSome_of_eq_some session

theorem ConflictsRouted.contestSession (routed : registry.ConflictsRouted) {key : SessionKey}
    (session : (registry.sessionRoutes.get? key).isSome) :
    (registry.contestSession (some key)).ConflictsRouted := by
  intro other marked
  rcases Finset.mem_union.mp marked with old | new
  · exact routed other old
  · rw [Option.toFinset_some, Finset.mem_singleton] at new
    exact new ▸ session

theorem ConflictsRouted.claim (inv : registry.Invariant) (routed : registry.ConflictsRouted)
    {request : Request}
    (spared : ∀ key ∈ request.sessionKey, ∀ gone ∈ registry.victim,
      gone ∉ registry.sessionConflicts) : (registry.claim request).ConflictsRouted := by
  intro key marked
  rw [sessionConflicts_claim] at marked
  have before := routed key marked
  cases named : request.sessionKey with
  | none =>
    rw [(sessionless_claim named).1]
    exact before
  | some new =>
    rw [sessionRoutes_claim inv.bounded named, Dict.get?_set]
    split
    · rfl
    · rw [get?_without, if_neg]
      · exact before
      · exact fun gone => spared new named key gone marked

/-- One bind that spares the conflicted sessions keeps them all routed. -/
theorem ConflictsRouted.bindLocked (inv : registry.Invariant) (routed : registry.ConflictsRouted)
    {request : Request} (spares : registry.Spares request) :
    (registry.bindLocked request).2.ConflictsRouted := by
  have accepted := accepted_bindLocked registry request
  have exit := bindLocked_case registry request
  revert accepted exit
  generalize registry.bindLocked request = outcome
  obtain ⟨result, after⟩ := outcome
  intro accepted exit
  cases exit with
  | refused => exact routed
  | contestedSession named session other open' =>
    split
    · exact (routed.contestTarget inv request.target).contestSession
        (Option.isSome_of_eq_some session)
    · exact routed.contestSession (Option.isSome_of_eq_some session)
  | contestedTarget => exact routed.contestTarget inv request.target
  | filled => exact routed
  | idempotent => exact routed
  | full => exact routed
  | claimed open' calm free target =>
    have free : registry.refuses request = false := by simpa [BindResult.accepted] using accepted
    refine routed.claim inv fun key named gone left => spares free key named gone ?_
    rw [evictedBy, if_neg]
    · exact left
    · rintro ⟨known, session⟩
      rcases target with ⟨unrouted, -⟩ | ⟨-, new, same, unrouted⟩
      · rw [unrouted] at known
        cases known
      · rw [Option.mem_def.mp named] at same
        cases same
        rw [unrouted] at session
        cases session

theorem ConflictsRouted.bindRoutes (inv : registry.Invariant) (routed : registry.ConflictsRouted)
    {robotId : PyStr} {plan : List PlannedRoute}
    (spares : ∀ ahead route rest before request, plan = ahead ++ route :: rest →
      Bound robotId registry ahead before → (planArgs robotId route).validate = .ok request →
        before.Spares request) : (registry.bindRoutes robotId plan).2.ConflictsRouted := by
  induction plan generalizing registry with
  | nil => exact routed
  | cons route rest ih =>
    cases valid : (planArgs robotId route).validate with
    | error error =>
      have raised : registry.bind (planArgs robotId route) = (.error error, registry) := by
        simp only [bind, valid]
      rw [Registry.bindRoutes, raised]
      exact routed
    | ok request =>
      have next := routed.bindLocked inv (spares [] route rest registry request rfl .nil valid)
      rw [bindRoutes_cons_valid valid]
      split
      · exact next
      · rename_i free
        have accepted : (registry.bindLocked request).1.accepted = true := by
          rw [accepted_bindLocked]
          simpa using free
        refine ih (inv.bindLocked request) next ?_
        intro ahead last others before later split bound
        exact spares (route :: ahead) last others before later (by rw [split]; rfl)
          (.cons (bind_of_valid valid) accepted bound)

theorem ConflictsRouted.forgetTarget (inv : registry.Invariant)
    (routed : registry.ConflictsRouted) (args : ForgetArgs) (write : WriteEnd) :
    (registry.forgetTarget args write).2.ConflictsRouted := by
  unfold Registry.forgetTarget
  split
  · exact routed
  · rename_i robotId target valid
    split
    · rename_i guard
      obtain ⟨-, -, calm⟩ := forgettable_iff.mp guard
      have dropped : (registry.forgotten robotId target).ConflictsRouted := by
        intro key marked
        have kept : registry.orphaned target key = false := by
          rw [orphaned, decide_eq_false_iff_not]
          exact fun both => calm key both.1 marked
        simp only [Registry.forgotten, Dict.get?_filterKeys, kept, Bool.not_false, if_true]
        exact routed key marked
      cases write with
      | durable => exact dropped
      | raised error => exact dropped
      | failed =>
        dsimp only
        rw [applyBody_bodyLocked_ok inv]
        exact (routed.of_agree (agree_restored inv _)).withDirty registry.dirty
    · exact routed

theorem ConflictsRouted.flush (routed : registry.ConflictsRouted) (force : Bool)
    (write : WriteEnd) : (registry.flush force write).2.ConflictsRouted := by
  unfold Registry.flush
  split
  · exact routed
  · cases write with
    | durable => exact routed
    | failed => exact routed
    | raised error => exact routed

theorem ConflictsRouted.load (routed : registry.ConflictsRouted) (wrote : source.Invariant)
    (covered : source.ConflictsRouted) {current backup : Except PyError Reading}
    (own : ∀ body, Reading.chosen? current backup = some body →
      body = source.bodyLocked.sortKeys) : (registry.load current backup).1.ConflictsRouted := by
  cases chosen : Reading.chosen? current backup with
  | some body =>
    obtain ⟨fallback, loaded⟩ := load_of_chosen chosen registry
    rw [loaded, own body chosen, applyBody_sorted_ok wrote]
    exact covered.of_agree (agree_restored wrote _)
  | none =>
    obtain ⟨corrupt, loaded⟩ := load_of_unchosen chosen registry
    rw [loaded]
    exact routed

private theorem Sparing.conflictsRouted (sparing : registry.Sparing) :
    registry.ConflictsRouted := by
  induction sparing with
  | fresh =>
    intro key marked
    cases marked
  | @bind registry before args spares ih =>
    cases valid : args.validate with
    | error error =>
      have raised : registry.bind args = (.error error, registry) := by simp only [Registry.bind, valid]
      rw [raised]
      exact ih
    | ok request =>
      rw [bind_of_valid valid]
      exact ih.bindLocked before.reachable.invariant (spares request valid)
  | @bindPlan registry before robotId plan spares ih =>
    have inv := before.reachable.invariant
    rcases ended : registry.bindRoutes robotId plan with ⟨_ | _ | error, bound⟩
    · have kept := ih.bindRoutes inv (spares (by rw [planRefused_iff, ended]; simp))
      rw [bindPlan_accepted ended]
      rwa [ended] at kept
    · rw [bindPlan_refused inv ended]
      exact (ih.of_agree (agree_restored inv bound)).withDirty registry.dirty
    · have kept := ih.bindRoutes inv (spares (by rw [planRefused_iff, ended]; simp))
      rw [bindPlan_raised ended]
      rwa [ended] at kept
  | forgetTarget before args write ih => exact ih.forgetTarget before.reachable.invariant args write
  | flush before force write ih => exact ih.flush force write
  | load before wrote own ih covered => exact ih.load wrote.reachable.invariant covered own

/-- In every run that spares the conflicted sessions every collection stays within
the square of the route capacity. -/
theorem sparing_within {registry : Registry} (sparing : registry.Sparing) :
    registry.Within (maxPersistedRoutes ^ 2) :=
  sparing.reachable.invariant.within sparing.conflictsRouted

def homeTarget : TargetKey := (.group, ⟨py "home", by decide⟩)

def awayTarget : TargetKey := (.group, ⟨py "away", by decide⟩)

def homeRobot : RobotId := ⟨py "x", by decide⟩

def awayRobot : RobotId := ⟨py "y", by decide⟩

/-- A group message whose wire id is not known. -/
def wirelessBind (robotId : RobotId) (key : SessionKey) (target : TargetKey) : BindArgs where
  robotId := robotId.val
  sessionKey := some key.val
  chatType := target.1.text
  chatId := target.2.val
  channelType := ChannelType.Group.code
  wireChatId := none
  wireChatIdKnown := false

def wirelessRequest (robotId : RobotId) (key : SessionKey) (target : TargetKey) : Request where
  robotId := robotId
  sessionKey := some key
  target := target
  channelType := .Group
  wireTarget := none

theorem validate_wirelessBind (robotId : RobotId) (key : SessionKey) (target : TargetKey) :
    (wirelessBind robotId key target).validate = .ok (wirelessRequest robotId key target) := by
  simp [wirelessBind, BindArgs.validate, BindArgs.wireTarget, wirelessRequest]

/-- Claiming a session routed to somebody else, in a chat without a route, marks the
session and nothing else. -/
theorem bindLocked_away {key : SessionKey}
    (owned : registry.sessionRoutes.get? key = some homeRobot)
    (calm : key ∉ registry.sessionConflicts) (open' : registry.targetConflicts = ∅)
    (away : registry.targetRoutes.get? awayTarget = none)
    (small : registry.targetRoutes.size ≤ 1) :
    (registry.bindLocked (wirelessRequest awayRobot key awayTarget)).2 =
      registry.contestSession (some key) := by
  have exit := bindLocked_case registry (wirelessRequest awayRobot key awayTarget)
  revert exit
  generalize registry.bindLocked (wirelessRequest awayRobot key awayTarget) = outcome
  obtain ⟨result, after⟩ := outcome
  intro exit
  cases exit with
  | refused conflicted =>
    rcases conflicted with ⟨other, named, marked⟩ | marked
    · cases named
      exact absurd marked calm
    · rw [open'] at marked
      cases marked
  | contestedSession named session other _ =>
    cases named
    have free : ownedByOther (registry.targetRoutes.get? awayTarget) awayRobot = false := by
      rw [away]
      rfl
    change (if ownedByOther (registry.targetRoutes.get? awayTarget) awayRobot then _ else
      registry).contestSession _ = _
    rw [free]
    rfl
  | contestedTarget routed other _ => exact absurd (away.symm.trans routed) (by simp)
  | filled routed _ _ _ _ _ => exact absurd (away.symm.trans routed) (by simp)
  | idempotent routed _ _ _ _ => exact absurd (away.symm.trans routed) (by simp)
  | full unrouted exhausted =>
    rw [maxPersistedRoutes] at exhausted
    omega
  | claimed _ _ free _ =>
    rcases free key rfl with unrouted | same
    · rw [owned] at unrouted
      cases unrouted
    · rw [owned] at same
      have different : homeRobot ≠ awayRobot := by decide
      exact absurd (Option.some.inj same) different

/-- The direct chat whose sessions fill the table. -/
def crowdedTarget : TargetKey := (.dm, homeTarget.2)

theorem Housing.size {owner : RobotId} {target : TargetKey} {keys : List SessionKey}
    (housing : registry.Housing owner target keys) :
    registry.sessionRoutes.size = keys.length := by
  rw [← registry.sessionRoutes.length_keys, housing.sessions]

theorem exists_sparing_housing {count : Nat} (room : count ≤ maxPersistedRoutes) :
    ∃ registry : Registry, registry.Sparing ∧
      registry.Housing homeRobot crowdedTarget ((List.range count).map numbered) := by
  induction count with
  | zero => exact ⟨fresh, .fresh, housing_fresh _ _⟩
  | succ count ih =>
    obtain ⟨registry, sparing, housing⟩ := ih (by omega)
    let route : PlannedRoute := ⟨numbered count, .dm, crowdedTarget.2, .DM⟩
    have whole : (List.range count).map numbered ++ [route].map PlannedRoute.sessionKey =
        (List.range (count + 1)).map numbered := by
      rw [List.range_succ, List.map_append]
      rfl
    have distinct : ((List.range count).map numbered ++
        [route].map PlannedRoute.sessionKey).Nodup := by
      rw [whole]
      exact List.nodup_range.map fun _ _ => numbered_injective
    obtain ⟨next, housed, bound⟩ := housing.fill
      (fun _ member => by rw [List.mem_singleton.mp member]; exact ⟨rfl, rfl⟩) distinct
      (by rw [List.length_map, List.length_range]; exact room)
    rw [whole] at housed
    have spares : registry.PlanSpares homeRobot.val [route] := by
      intro _ ahead other rest before request split between valid _ key named gone evicted
      obtain rfl : ahead = [] := by
        rcases ahead with _ | ⟨first, more⟩
        · rfl
        · simp at split
      cases between
      have small : registry.sessionRoutes.size < maxPersistedRoutes := by
        rw [housing.size, List.length_map, List.length_range]
        exact room
      rw [evictedBy, victim, if_pos small, ite_self] at evicted
      cases evicted
    have reached := Sparing.bindPlan sparing homeRobot.val [route] spares
    rw [bound] at reached
    exact ⟨next, reached, housed⟩

/-- A full table whose second session is contested. -/
structure Crowded (registry : Registry) : Prop where
  sparing : registry.Sparing
  conflicts : registry.sessionConflicts = {numbered 1}
  open' : registry.targetConflicts = ∅
  sessions : registry.sessionRoutes.keys = (List.range maxPersistedRoutes).map numbered
  home : registry.targetRoutes.get? homeTarget = none
  small : registry.targetRoutes.size ≤ 1

private theorem exists_crowdedContest : ∃ registry : Registry, registry.Crowded := by
  obtain ⟨registry, sparing, housing⟩ := exists_sparing_housing (Nat.le_refl maxPersistedRoutes)
  have unrouted : ∀ target, target ≠ crowdedTarget → registry.targetRoutes.get? target = none := by
    intro target other
    apply Option.eq_none_iff_forall_ne_some.mpr
    intro robotId routed
    exact other (housing.home _ _ routed).1
  have small : registry.targetRoutes.size ≤ 1 := by
    refine @Dict.size_le_length _ _ _ _ registry.targetRoutes [crowdedTarget] id fun target found => ?_
    obtain ⟨robotId, routed⟩ := Option.isSome_iff_exists.mp found
    exact ⟨crowdedTarget, List.mem_singleton_self _, (housing.home target robotId routed).1.symm⟩
  have owned : registry.sessionRoutes.get? (numbered 1) = some homeRobot := by
    have member : numbered 1 ∈ registry.sessionRoutes.keys := by
      rw [housing.sessions]
      exact List.mem_map_of_mem (List.mem_range.mpr (by decide))
    obtain ⟨robotId, routed⟩ := Option.isSome_iff_exists.mp ((Dict.mem_keys_iff _ _).mp member)
    rw [routed, housing.owned _ _ routed]
  have valid := validate_wirelessBind awayRobot (numbered 1) awayTarget
  have contested : (registry.bind (wirelessBind awayRobot (numbered 1) awayTarget)).2 =
      registry.contestSession (some (numbered 1)) := by
    rw [bind_of_valid valid]
    refine bindLocked_away owned ?_ housing.open' (unrouted _ (by decide)) small
    rw [housing.calm]
    exact Finset.notMem_empty _
  have spares : ∀ request, (wirelessBind awayRobot (numbered 1) awayTarget).validate = .ok request →
      registry.Spares request := by
    intro request _ _ key _ gone _ marked
    rw [housing.calm] at marked
    exact absurd marked (Finset.notMem_empty gone)
  have reached := sparing.bind _ spares
  rw [contested] at reached
  have conflicts : registry.sessionConflicts ∪ {numbered 1} = {numbered 1} := by
    rw [housing.calm, Finset.empty_union]
  exact ⟨_, { sparing := reached, conflicts, open' := housing.open', sessions := housing.sessions,
              home := unrouted _ (by decide), small }⟩

/-- The next session finds room where the first one was. -/
theorem Crowded.bindLocked (crowded : registry.Crowded) :
    (registry.bindLocked (wirelessRequest homeRobot (numbered maxPersistedRoutes) homeTarget)).2 =
      registry.claim (wirelessRequest homeRobot (numbered maxPersistedRoutes) homeTarget) := by
  have calm : numbered maxPersistedRoutes ∉ registry.sessionConflicts := by
    rw [crowded.conflicts, Finset.mem_singleton]
    intro same
    exact absurd (numbered_injective same) (by decide)
  have unrouted : registry.sessionRoutes.get? (numbered maxPersistedRoutes) = none := by
    rw [← Option.not_isSome_iff_eq_none, ← Dict.mem_keys_iff, crowded.sessions]
    intro member
    obtain ⟨number, below, same⟩ := List.mem_map.mp member
    rw [numbered_injective same, List.mem_range] at below
    exact Nat.lt_irrefl _ below
  have exit := bindLocked_case registry
    (wirelessRequest homeRobot (numbered maxPersistedRoutes) homeTarget)
  revert exit
  generalize registry.bindLocked _ = outcome
  obtain ⟨result, after⟩ := outcome
  intro exit
  cases exit with
  | refused conflicted =>
    rcases conflicted with ⟨key, named, marked⟩ | marked
    · cases named
      exact absurd marked calm
    · rw [crowded.open'] at marked
      cases marked
  | contestedSession named session other open' =>
    cases named
    cases unrouted.symm.trans session
  | contestedTarget routed other open' => cases crowded.home.symm.trans routed
  | filled routed _ _ _ _ _ => cases crowded.home.symm.trans routed
  | idempotent routed _ _ _ _ => cases crowded.home.symm.trans routed
  | full _ exhausted =>
    have small := crowded.small
    rw [maxPersistedRoutes] at exhausted
    omega
  | claimed => rfl

/-- The first session leaves the full table, the contested second one stays. -/
theorem sparing_within_full : ∃ registry : Registry, registry.Sparing ∧
    registry.sessionRoutes.get? (numbered 0) = none ∧
      (registry.sessionRoutes.get? (numbered 1)).isSome ∧
      registry.sessionConflict (numbered 1).val = true ∧
      registry.Within (maxPersistedRoutes ^ 2) := by
  obtain ⟨registry, crowded⟩ := exists_crowdedContest
  have inv := crowded.sparing.reachable.invariant
  have size : registry.sessionRoutes.size = maxPersistedRoutes := by
    rw [← registry.sessionRoutes.length_keys, crowded.sessions, List.length_map, List.length_range]
  have victim : registry.victim = some (numbered 0) := by
    rw [Registry.victim, size, if_neg (Nat.lt_irrefl _), crowded.sessions, maxPersistedRoutes,
      List.range_succ_eq_map]
    rfl
  have valid := validate_wirelessBind homeRobot (numbered maxPersistedRoutes) homeTarget
  have spares : ∀ request, (wirelessBind homeRobot (numbered maxPersistedRoutes)
      homeTarget).validate = .ok request → registry.Spares request := by
    intro request same _ key named gone evicted marked
    obtain rfl := Except.ok.inj (valid.symm.trans same)
    rw [evictedBy] at evicted
    split at evicted
    · cases evicted
    · rw [victim] at evicted
      cases evicted
      rw [crowded.conflicts, Finset.mem_singleton] at marked
      exact absurd (numbered_injective marked) (by decide)
  have sparing := crowded.sparing.bind _ spares
  have within := sparing_within sparing
  rw [bind_of_valid valid, crowded.bindLocked] at sparing within
  have table := @sessionRoutes_claim registry inv.bounded
    (wirelessRequest homeRobot (numbered maxPersistedRoutes) homeTarget) _ rfl
  refine ⟨_, sparing, ?_, ?_, ?_, within⟩
  · rw [table, Dict.get?_set, get?_without, victim, if_pos rfl, if_neg]
    intro same
    exact absurd (numbered_injective same) (by decide)
  · rw [table, Dict.get?_set]
    split
    · rfl
    · rw [get?_without, victim, if_neg]
      · rw [← Dict.mem_keys_iff, crowded.sessions]
        exact List.mem_map_of_mem (List.mem_range.mpr (by decide))
      · intro same
        exact absurd (numbered_injective (Option.some.inj same)) (by decide)
  · rw [sessionConflict, nonempty?_val]
    dsimp only
    rw [sessionConflicts_claim, crowded.conflicts]
    exact decide_eq_true (Finset.mem_singleton_self _)

/-- The first sessions were bound at home and then claimed by the other robot. -/
structure Contested (count : Nat) (registry : Registry) : Prop where
  reachable : registry.Reachable
  marked : registry.sessionConflicts = (Finset.range count).image numbered
  open' : registry.targetConflicts = ∅
  home : ∀ target robotId, registry.targetRoutes.get? target = some robotId →
    target = homeTarget ∧ robotId = homeRobot
  routed : ∀ key, (registry.sessionRoutes.get? key).isSome → key ∈ registry.sessionConflicts

private theorem numbered_unmarked {count : Nat} :
    numbered count ∉ (Finset.range count).image numbered := by
  intro member
  obtain ⟨number, below, same⟩ := Finset.mem_image.mp member
  rw [numbered_injective same] at below
  exact Finset.notMem_range_self below

private theorem small_of_home {registry : Registry}
    (home : ∀ target robotId, registry.targetRoutes.get? target = some robotId →
      target = homeTarget ∧ robotId = homeRobot) : registry.targetRoutes.size ≤ 1 := by
  refine @Dict.size_le_length _ _ _ _ registry.targetRoutes [homeTarget] id fun target found => ?_
  obtain ⟨robotId, routed⟩ := Option.isSome_iff_exists.mp found
  exact ⟨homeTarget, List.mem_singleton_self _, (home target robotId routed).1.symm⟩

/-- The next session is bound at home. -/
private theorem Contested.bindLocked_home {count : Nat} (contested : registry.Contested count) :
    (registry.bindLocked (wirelessRequest homeRobot (numbered count) homeTarget)).2 =
      registry.claim (wirelessRequest homeRobot (numbered count) homeTarget) := by
  have unmarked : numbered count ∉ registry.sessionConflicts := by
    rw [contested.marked]
    exact numbered_unmarked
  have exit := bindLocked_case registry (wirelessRequest homeRobot (numbered count) homeTarget)
  revert exit
  generalize registry.bindLocked (wirelessRequest homeRobot (numbered count) homeTarget) = outcome
  obtain ⟨result, after⟩ := outcome
  intro exit
  cases exit with
  | refused conflicted =>
    rcases conflicted with ⟨key, named, marked⟩ | marked
    · cases named
      exact absurd marked unmarked
    · rw [contested.open'] at marked
      cases marked
  | contestedSession named session other open' =>
    cases named
    exact absurd (contested.routed _ (Option.isSome_of_eq_some session)) unmarked
  | contestedTarget routed other open' =>
    rcases other with other | wires
    · exact absurd (contested.home _ _ routed).2 other
    · simp [wireDiffers, wirelessRequest] at wires
  | filled _ _ _ _ offered _ => cases offered
  | idempotent _ known _ _ _ =>
    exact absurd (contested.routed _ (Option.isSome_of_eq_some (known _ rfl))) unmarked
  | full unrouted exhausted =>
    have small := small_of_home contested.home
    rw [maxPersistedRoutes] at exhausted
    omega
  | claimed => rfl

/-- Two more binds mark one more session, however full the table is. -/
theorem Contested.next {count : Nat} (contested : registry.Contested count) :
    ∃ next : Registry, next.Contested (count + 1) := by
  have inv := contested.reachable.invariant
  let request := wirelessRequest homeRobot (numbered count) homeTarget
  have claimable : registry.Claimable request := by
    cases routed : registry.targetRoutes.get? homeTarget with
    | none =>
      have small := small_of_home contested.home
      exact .inl ⟨routed, Nat.lt_of_le_of_lt small (by decide)⟩
    | some robotId => exact .inr (routed.trans (congrArg some (contested.home _ _ routed).2))
  have home : ∀ target robotId, (registry.claim request).targetRoutes.get? target = some robotId →
      target = homeTarget ∧ robotId = homeRobot := by
    intro target robotId routed
    rw [targetRoutes_claim, get?_targetRoutes_recordTarget claimable] at routed
    split at routed
    · rename_i same
      exact ⟨same.symm, (Option.some.inj routed).symm⟩
    · exact contested.home target robotId routed
  have sessions : ∀ key, (registry.claim request).sessionRoutes.get? key =
      if numbered count = key then some homeRobot
      else (registry.without registry.victim).sessionRoutes.get? key := by
    intro key
    rw [sessionRoutes_claim inv.bounded rfl, Dict.get?_set]
    rfl
  have unmarked : numbered count ∉ (registry.claim request).sessionConflicts := by
    rw [sessionConflicts_claim, contested.marked]
    exact numbered_unmarked
  have away : (registry.claim request).targetRoutes.get? awayTarget = none := by
    by_contra routed
    obtain ⟨robotId, routed⟩ := Option.ne_none_iff_exists'.mp routed
    exact absurd (home _ _ routed).1 (by decide)
  have first : (registry.bind (wirelessBind homeRobot (numbered count) homeTarget)).2 =
      registry.claim request := by
    rw [bind_of_valid (validate_wirelessBind _ _ _), contested.bindLocked_home]
  have second : ((registry.claim request).bind
      (wirelessBind awayRobot (numbered count) awayTarget)).2 =
        (registry.claim request).contestSession (some (numbered count)) := by
    rw [bind_of_valid (validate_wirelessBind _ _ _)]
    refine bindLocked_away ?_ unmarked ?_ away (small_of_home home)
    · rw [sessions, if_pos rfl]
    · rw [targetConflicts_claim, contested.open']
  have reached : ((registry.claim request).contestSession (some (numbered count))).Reachable := by
    rw [← second, ← first]
    exact (contested.reachable.bind _).bind _
  refine ⟨_, { reachable := reached, marked := ?_, open' := ?_, home := home, routed := ?_ }⟩
  · change (registry.claim request).sessionConflicts ∪ _ = _
    rw [sessionConflicts_claim, contested.marked, Finset.range_add_one, Finset.image_insert,
      Finset.union_comm]
    rfl
  · exact (targetConflicts_claim request).trans contested.open'
  · intro key routed
    change key ∈ (registry.claim request).sessionConflicts ∪ _
    change ((registry.claim request).sessionRoutes.get? key).isSome at routed
    rw [sessions] at routed
    split at routed
    · rename_i same
      apply Finset.mem_union_right
      simp [same]
    · apply Finset.mem_union_left
      rw [get?_without] at routed
      split at routed
      · cases routed
      · rw [sessionConflicts_claim]
        exact contested.routed key routed

private theorem exists_contested (count : Nat) : ∃ registry :
    Registry, registry.Contested count := by
  induction count with
  | zero =>
    refine ⟨fresh, { reachable := .fresh, marked := rfl, open' := rfl, home := ?_, routed := ?_ }⟩
    · intro target robotId routed
      cases routed
    · intro key routed
      cases routed
  | succ count ih =>
    obtain ⟨registry, contested⟩ := ih
    exact contested.next

/-- Evicted sessions stay in the conflict set, so no bound holds for all runs. -/
theorem reachable_unbounded :
    ¬ ∃ bound, ∀ registry : Registry, registry.Reachable → registry.Within bound := by
  rintro ⟨bound, within⟩
  obtain ⟨registry, contested⟩ := exists_contested (bound + 1)
  have capped := (within registry contested.reachable).sessionConflicts
  rw [contested.marked, Finset.card_image_of_injective _ fun _ _ same => numbered_injective same,
    Finset.card_range] at capped
  omega

end Registry

end OctoChannel.Identity

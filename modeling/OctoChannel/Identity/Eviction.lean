import OctoChannel.Identity.Bounds
import OctoChannel.Identity.Crowding

/-! Which sessions one `bind` pushes out of the session table: the eviction loop
looks at the size of the table and not at whether the session is new. -/

namespace OctoChannel.Identity

open Foundation

namespace Registry

variable {registry : Registry} {args : BindArgs} {request : Request} {key : SessionKey}

/-- The session that a call names; an empty key names none. -/
def BindArgs.session (args : BindArgs) : Option SessionKey := args.sessionKey.bind nonempty?

/-- The session table after a call. -/
def sessionsAfter (registry : Registry) (args : BindArgs) : Dict SessionKey RobotId :=
  (registry.bind args).2.sessionRoutes

/-- Session eviction only makes room for a session that was not routed before. -/
structure MakesRoom (registry : Registry) (args : BindArgs) : Prop where
  removed : ∀ gone, (registry.sessionRoutes.get? gone).isSome →
    (registry.sessionsAfter args).get? gone = none → args.session ≠ some gone →
    registry.sessionRoutes.keys.head? = some gone ∧
      maxPersistedRoutes ≤ registry.sessionRoutes.size ∧
      ∃ new, args.session = some new ∧ registry.sessionRoutes.get? new = none ∧
        ((registry.sessionsAfter args).get? new).isSome
  entered : ∀ new, args.session = some new → registry.sessionRoutes.get? new = none →
    ((registry.sessionsAfter args).get? new).isSome →
    maxPersistedRoutes ≤ registry.sessionRoutes.size →
    (registry.sessionsAfter args).keys = registry.sessionRoutes.keys.tail ++ [new]
  further : ∀ key robotId, args.session = some key →
    registry.sessionRoutes.get? key = some robotId → robotId.val = args.robotId →
    ∀ other, (registry.sessionRoutes.get? other).isSome →
      ((registry.sessionsAfter args).get? other).isSome
  routable : (registry.bind args).1 = .ok .bound → ∀ key, args.session = some key →
    ∃ robotId, (registry.bind args).2.robotIdForSession key.val = some robotId ∧
      robotId.val = args.robotId

/-- The call opens a target for a session that its robot owns already, and the
session table is full with another session in front. -/
def Squeezes (registry : Registry) (args : BindArgs) : Prop :=
  ∃ request key, args.validate = .ok request ∧ request.sessionKey = some key ∧
    registry.sessionRoutes.get? key = some request.robotId ∧
    key ∉ registry.sessionConflicts ∧ request.target ∉ registry.targetConflicts ∧
    registry.targetRoutes.get? request.target = none ∧
    registry.targetRoutes.size < maxPersistedRoutes ∧
    maxPersistedRoutes ≤ registry.sessionRoutes.size ∧
    registry.sessionRoutes.keys.head? ≠ some key

theorem validate_fields (valid : args.validate = .ok request) :
    request.robotId.val = args.robotId ∧ request.sessionKey = args.session := by
  unfold BindArgs.validate at valid
  cases robot : RobotId.ofStr? args.robotId with
  | none =>
    rw [robot] at valid
    cases valid
  | some robotId =>
    have same : robotId.val = args.robotId := by
      unfold RobotId.ofStr? at robot
      split at robot
      · cases robot
        rfl
      · cases robot
    rw [robot] at valid
    dsimp only at valid
    split at valid
    · cases valid
    · split at valid
      · cases valid
      · split at valid
        · cases valid
        · split at valid
          · cases valid
            exact ⟨same, rfl⟩
          · split at valid
            · cases valid
            · cases valid
              exact ⟨same, rfl⟩

theorem bind_of_invalid {error : PyError} (invalid : args.validate = .error error) :
    registry.bind args = (.error error, registry) := by
  rw [Registry.bind, invalid]

/-- What the last branch of `bind` finds when it was given a session. -/
structure Admits (registry : Registry) (request : Request) (key : SessionKey) : Prop where
  named : request.sessionKey = some key
  calm : key ∉ registry.sessionConflicts
  open' : request.target ∉ registry.targetConflicts
  owner : registry.sessionRoutes.get? key = none ∨
    registry.sessionRoutes.get? key = some request.robotId ∧
      registry.targetRoutes.get? request.target = none ∧
      registry.targetRoutes.size < maxPersistedRoutes

/-- A call leaves the session table alone, or places its session behind the others,
without the first session of a full table. -/
private theorem bindLocked_sessions (inv : registry.Invariant) (request : Request) :
    ((registry.bindLocked request).2.sessionRoutes = registry.sessionRoutes ∧
      ((registry.bindLocked request).1 = .bound → ∀ key, request.sessionKey = some key →
        registry.sessionRoutes.get? key = some request.robotId ∧
          key ∉ (registry.bindLocked request).2.sessionConflicts)) ∨
    ∃ key, registry.Admits request key ∧
      (registry.bindLocked request).2.sessionRoutes =
        (registry.without registry.victim).sessionRoutes.set key request.robotId ∧
      key ∉ (registry.bindLocked request).2.sessionConflicts := by
  have exit := bindLocked_case registry request
  revert exit
  generalize (registry.bindLocked request).1 = result
  generalize (registry.bindLocked request).2 = after
  intro exit
  cases exit with
  | refused => exact .inl ⟨rfl, fun bound => by cases bound⟩
  | contestedSession =>
    refine .inl ⟨?_, fun bound => by cases bound⟩
    split <;> rfl
  | contestedTarget => exact .inl ⟨rfl, fun bound => by cases bound⟩
  | filled routed known open' calm =>
    exact .inl ⟨rfl, fun _ key named => ⟨known key named, calm key named⟩⟩
  | idempotent => exact .inl ⟨rfl, fun bound => by cases bound⟩
  | full => exact .inl ⟨rfl, fun bound => by cases bound⟩
  | claimed open' calm free target =>
    cases named : request.sessionKey with
    | none => exact .inl ⟨(sessionless_claim named).1, fun _ key given => by cases given⟩
    | some key =>
      refine .inr ⟨key, ⟨named, calm key named, open', ?_⟩, sessionRoutes_claim inv.bounded named, ?_⟩
      · rcases target with ⟨unrouted, room⟩ | ⟨-, new, given, unknown⟩
        · exact (free key named).imp_right fun own => ⟨own, unrouted, room⟩
        · cases named.symm.trans given
          exact .inl unknown
      · rw [sessionConflicts_claim]
        exact calm key named

theorem victim_of_full (full : maxPersistedRoutes ≤ registry.sessionRoutes.size) :
    registry.victim = registry.sessionRoutes.keys.head? :=
  if_neg (Nat.not_lt.mpr full)

/-- Whatever leaves the table is its first session, and the table was full. -/
theorem oldest_of_gone {robotId : RobotId} {gone : SessionKey}
    (before : (registry.sessionRoutes.get? gone).isSome)
    (after : ((registry.without registry.victim).sessionRoutes.set key robotId).get? gone = none) :
    registry.sessionRoutes.keys.head? = some gone ∧
      maxPersistedRoutes ≤ registry.sessionRoutes.size := by
  have left : registry.victim = some gone := by
    by_contra stays
    rw [Dict.get?_set, get?_without, if_neg stays] at after
    split at after
    · cases after
    · rw [after] at before
      cases before
  have full : maxPersistedRoutes ≤ registry.sessionRoutes.size := by
    by_contra room
    rw [victim, if_pos (Nat.not_le.mp room)] at left
    cases left
  exact ⟨(victim_of_full full).symm.trans left, full⟩

/-- The keys of a full table after a new session went in. -/
private theorem keys_of_admitted {robotId : RobotId} (new : registry.sessionRoutes.get? key = none)
    (full : maxPersistedRoutes ≤ registry.sessionRoutes.size) :
    ((registry.without registry.victim).sessionRoutes.set key robotId).keys =
      registry.sessionRoutes.keys.tail ++ [key] := by
  have absent : key ∉ registry.sessionRoutes.keys := by
    rw [Dict.mem_keys_iff, new]
    exact Bool.false_ne_true
  rw [Dict.keys_set, keys_without_victim, if_neg (Nat.not_lt.mpr full), if_neg]
  exact fun member => absent (List.mem_of_mem_tail member)

private theorem makesRoom_of_invalid {error : PyError} (invalid : args.validate = .error error) :
    registry.MakesRoom args := by
  have same : registry.sessionsAfter args = registry.sessionRoutes := by
    rw [sessionsAfter, bind_of_invalid invalid]
  refine ⟨?_, ?_, ?_, ?_⟩
  · intro gone before after
    rw [same, Option.eq_none_iff_forall_ne_some] at after
    obtain ⟨robotId, routed⟩ := Option.isSome_iff_exists.mp before
    exact absurd routed (after robotId)
  · intro new _ before after
    rw [same, before] at after
    cases after
  · intro key robotId _ _ _ other before
    rwa [same]
  · intro bound
    rw [bind_of_invalid invalid] at bound
    cases bound

/-- A call that leaves the session table alone. -/
private theorem makesRoom_of_unchanged (valid : args.validate = .ok request)
    (same : (registry.bindLocked request).2.sessionRoutes = registry.sessionRoutes)
    (settled : (registry.bindLocked request).1 = .bound → ∀ key, request.sessionKey = some key →
      registry.sessionRoutes.get? key = some request.robotId ∧
        key ∉ (registry.bindLocked request).2.sessionConflicts) : registry.MakesRoom args := by
  have unchanged : registry.sessionsAfter args = registry.sessionRoutes := by
    rw [sessionsAfter, bind_of_valid valid, same]
  obtain ⟨robot, named⟩ := validate_fields valid
  refine ⟨?_, ?_, ?_, ?_⟩
  · intro gone before after
    rw [unchanged] at after
    rw [after] at before
    cases before
  · intro new _ before after
    rw [unchanged, before] at after
    cases after
  · intro key robotId _ _ _ other before
    rwa [unchanged]
  · intro bound key given
    rw [bind_of_valid valid] at bound ⊢
    obtain ⟨routed, calm⟩ := settled (Except.ok.inj bound) key (named.trans given)
    refine ⟨request.robotId, ?_, robot⟩
    simp only [robotIdForSession, nonempty?_val, if_neg calm, same, routed]

/-- A call that places its session, but squeezes nobody out for one that is there. -/
private theorem makesRoom_of_admitted (valid : args.validate = .ok request)
    (admits : registry.Admits request key)
    (after : (registry.bindLocked request).2.sessionRoutes =
      (registry.without registry.victim).sessionRoutes.set key request.robotId)
    (calm : key ∉ (registry.bindLocked request).2.sessionConflicts)
    (sparing : ¬ registry.Squeezes args) : registry.MakesRoom args := by
  obtain ⟨robot, named⟩ := validate_fields valid
  have given : args.session = some key := named.symm.trans admits.named
  have table : registry.sessionsAfter args =
      (registry.without registry.victim).sessionRoutes.set key request.robotId := by
    rw [sessionsAfter, bind_of_valid valid, after]
  have placed : (registry.sessionsAfter args).get? key = some request.robotId := by
    rw [table, Dict.get?_set_self]
  -- An established session is the first one itself wherever the table is full.
  have front : ∀ {gone}, registry.sessionRoutes.keys.head? = some gone →
      maxPersistedRoutes ≤ registry.sessionRoutes.size → gone ≠ key →
      registry.sessionRoutes.get? key = none := by
    intro gone head full other
    rcases admits.owner with new | ⟨own, unrouted, room⟩
    · exact new
    · refine absurd ⟨request, key, valid, admits.named, own, admits.calm, admits.open', unrouted,
        room, full, ?_⟩ sparing
      rw [head]
      exact fun same => other (Option.some.inj same)
  refine ⟨?_, ?_, ?_, ?_⟩
  · intro gone before left different
    rw [table] at left
    obtain ⟨head, full⟩ := oldest_of_gone before left
    have other : gone ≠ key := by
      rintro rfl
      exact different given
    exact ⟨head, full, key, given, front head full other, Option.isSome_of_eq_some placed⟩
  · intro new same before _ full
    cases given.symm.trans same
    rw [table]
    exact keys_of_admitted before full
  · intro owned robotId same routed _ other before
    cases given.symm.trans same
    by_contra left
    rw [Bool.not_eq_true, Option.isSome_eq_false_iff, Option.isNone_iff_eq_none] at left
    have different : other ≠ key := by
      rintro rfl
      rw [placed] at left
      cases left
    rw [table] at left
    obtain ⟨head, full⟩ := oldest_of_gone before left
    rw [front head full different] at routed
    cases routed
  · intro _ named' same
    cases given.symm.trans same
    refine ⟨request.robotId, ?_, robot⟩
    rw [sessionsAfter, bind_of_valid valid] at placed
    rw [bind_of_valid valid]
    simp only [robotIdForSession, nonempty?_val, if_neg calm]
    exact placed

/-- A squeezing call reaches the last branch of `bind`. -/
private theorem bindLocked_of_squeezed (request : Request) (named : request.sessionKey = some key)
    (own : registry.sessionRoutes.get? key = some request.robotId)
    (calm : key ∉ registry.sessionConflicts) (open' : request.target ∉ registry.targetConflicts)
    (unrouted : registry.targetRoutes.get? request.target = none)
    (room : registry.targetRoutes.size < maxPersistedRoutes) :
    registry.bindLocked request = (.bound, registry.claim request) := by
  simp [bindLocked, named, own, calm, open', unrouted, ownedByOther, Nat.not_le.mpr room]

/-- The first session of the full table leaves although the call added none. -/
theorem squeezed_out (inv : registry.Invariant) (squeezes : registry.Squeezes args) :
    ¬ registry.MakesRoom args := by
  intro makes
  obtain ⟨request, key, valid, named, own, calm, open', unrouted, room, full, head⟩ := squeezes
  obtain ⟨robot, same⟩ := validate_fields valid
  obtain ⟨oldest, first⟩ : ∃ oldest, registry.sessionRoutes.keys.head? = some oldest := by
    cases order : registry.sessionRoutes.keys with
    | nil =>
      rw [← Dict.length_keys, order] at full
      exact absurd full (by decide)
    | cons oldest others => exact ⟨oldest, rfl⟩
  have present : (registry.sessionRoutes.get? oldest).isSome :=
    (Dict.mem_keys_iff _ _).mp (List.mem_of_mem_head? first)
  have stays := makes.further key request.robotId (same.symm.trans named) own robot oldest present
  rw [sessionsAfter, bind_of_valid valid,
    bindLocked_of_squeezed request named own calm open' unrouted room] at stays
  dsimp only at stays
  rw [sessionRoutes_claim inv.bounded named, Dict.get?_set, get?_without, victim_of_full full,
    if_pos first] at stays
  split at stays
  · rename_i front
    exact head (first.trans (congrArg some front.symm))
  · cases stays

/-- In every reachable state, a call keeps every session but the first of a full
table, and that one for a new session alone, unless it squeezes. -/
theorem bind_makesRoom_iff {registry : Registry} (reachable : registry.Reachable)
    (args : BindArgs) : registry.MakesRoom args ↔ ¬ registry.Squeezes args := by
  have inv := reachable.invariant
  constructor
  · exact fun makes squeezes => squeezed_out inv squeezes makes
  · intro sparing
    cases valid : args.validate with
    | error error => exact makesRoom_of_invalid valid
    | ok request =>
      rcases bindLocked_sessions inv request with ⟨same, settled⟩ | ⟨key, admits, after, calm⟩
      · exact makesRoom_of_unchanged valid same settled
      · exact makesRoom_of_admitted valid admits after calm sparing

/-- A group message in the second session, `ss`. -/
def furtherBind : BindArgs := groupBind "x" (some "ss") "home"

def furtherRequest : Request where
  robotId := homeRobot
  sessionKey := some (numbered 1)
  target := homeTarget
  channelType := .Group
  wireTarget := some ⟨py "home", by decide⟩

private theorem validate_furtherBind : furtherBind.validate = .ok furtherRequest := by
  rfl

theorem exists_crowded : ∃ registry : Registry, registry.Reachable ∧
    registry.Housing homeRobot crowdedTarget ((List.range maxPersistedRoutes).map numbered) := by
  obtain ⟨registry, sparing, housing⟩ := exists_sparing_housing (Nat.le_refl maxPersistedRoutes)
  exact ⟨registry, sparing.reachable, housing⟩

theorem Housing.squeezes (housing : registry.Housing homeRobot crowdedTarget
    ((List.range maxPersistedRoutes).map numbered)) : registry.Squeezes furtherBind := by
  have size : registry.sessionRoutes.size = maxPersistedRoutes := by
    rw [housing.size, List.length_map, List.length_range]
  have own : registry.sessionRoutes.get? (numbered 1) = some homeRobot := by
    have member : numbered 1 ∈ registry.sessionRoutes.keys := by
      rw [housing.sessions]
      exact List.mem_map_of_mem (List.mem_range.mpr (by decide))
    obtain ⟨robotId, routed⟩ := Option.isSome_iff_exists.mp ((Dict.mem_keys_iff _ _).mp member)
    rw [routed, housing.owned _ _ routed]
  have unrouted : registry.targetRoutes.get? homeTarget = none := by
    apply Option.eq_none_iff_forall_ne_some.mpr
    intro robotId routed
    have other : homeTarget ≠ crowdedTarget := by decide
    exact other (housing.home _ _ routed).1
  have room : registry.targetRoutes.size < maxPersistedRoutes := by
    have small : registry.targetRoutes.size ≤ [crowdedTarget].length := by
      refine Dict.size_le_length id fun target found => ?_
      obtain ⟨robotId, routed⟩ := Option.isSome_iff_exists.mp found
      exact ⟨crowdedTarget, List.mem_singleton_self _, (housing.home target robotId routed).1.symm⟩
    exact Nat.lt_of_le_of_lt small (by decide)
  refine ⟨furtherRequest, numbered 1, validate_furtherBind, rfl, own, ?_, ?_, unrouted, room,
    Nat.le_of_eq size.symm, ?_⟩
  · simp [housing.calm]
  · simp [housing.open']
  · rw [housing.sessions, maxPersistedRoutes, List.range_succ_eq_map, List.map_cons, List.head?_cons]
    intro same
    exact absurd (numbered_injective (Option.some.inj same)) (by decide)

/-- A call for a session that the table does not hold. -/
def newcomerBind : BindArgs := groupBind "x" (some "new") "home"

/-- At the full table a new session may push the first one out, and an old one may not. -/
theorem bind_makesRoom_iff_crowded : ∃ registry : Registry,
    registry.sessionRoutes.size = maxPersistedRoutes ∧ registry.MakesRoom newcomerBind ∧
      ¬ registry.MakesRoom furtherBind := by
  obtain ⟨registry, reached, housing⟩ := exists_crowded
  have size := housing.size
  rw [List.length_map, List.length_range] at size
  refine ⟨registry, size, (bind_makesRoom_iff reached newcomerBind).mpr ?_, ?_⟩
  · rintro ⟨request, key, valid, named, own, -⟩
    obtain ⟨-, session⟩ := validate_fields valid
    have new : key = ⟨py "new", by decide⟩ := Option.some.inj (named.symm.trans session)
    have member := (Dict.mem_keys_iff _ _).mpr (Option.isSome_of_eq_some own)
    rw [housing.sessions] at member
    obtain ⟨number, -, same⟩ := List.mem_map.mp member
    rw [new, numbered, Subtype.mk.injEq, List.replicate_succ] at same
    exact absurd (List.cons.inj same).1 (by decide)
  · exact fun makes => (bind_makesRoom_iff reached furtherBind).mp makes housing.squeezes

/-- With 4096 sessions, opening a chat for the second one unroutes the first. -/
theorem crowded_not_makesRoom :
    ∃ registry : Registry, registry.Reachable ∧ ¬ registry.MakesRoom furtherBind := by
  obtain ⟨registry, reached, housing⟩ := exists_crowded
  exact ⟨registry, reached, squeezed_out reached.invariant housing.squeezes⟩

end Registry

end OctoChannel.Identity

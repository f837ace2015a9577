import OctoChannel.Adapter.Migration

namespace OctoChannel.Adapter

open Foundation Identity

variable {runtime : Json.Runtime} {sha256 : Bytes → Bytes} {profile after : Profile} {event : Event}

/-- Every event of the run meets the condition on binding the frozen plan. -/
def Fits (runtime : Json.Runtime) (sha256 : Bytes → Bytes) (events : List Event) : Prop :=
  ∀ earlier event later, events = earlier ++ event :: later →
    (Profile.run runtime sha256 earlier).Fits event

/-- What a later state of a profile keeps of an earlier one. -/
structure Profile.Keeps (runtime : Json.Runtime) (sha256 : Bytes → Bytes)
    (earlier later : Profile) : Prop where
  legacy : ∀ robotId, earlier.legacyRobotId runtime sha256 = some robotId →
    later.legacyRobotId runtime sha256 = some robotId
  scheduled : ∀ plan, earlier.store.history.scheduled = some plan →
    later.store.history.scheduled = some plan
  settled : earlier.phase runtime sha256 = some .migrated →
    later.phase runtime sha256 = some .migrated ∧
      later.store.history.freezes = earlier.store.history.freezes ∧
      later.store.history.applied = earlier.store.history.applied

theorem Profile.Keeps.refl (profile : Profile) : profile.Keeps runtime sha256 profile :=
  ⟨fun _ => id, fun _ => id, fun done => ⟨done, rfl, rfl⟩⟩

theorem Profile.Keeps.trans {first second third : Profile}
    (left : first.Keeps runtime sha256 second) (right : second.Keeps runtime sha256 third) :
    first.Keeps runtime sha256 third where
  legacy robotId named := right.legacy robotId (left.legacy robotId named)
  scheduled plan frozen := right.scheduled plan (left.scheduled plan frozen)
  settled done := by
    obtain ⟨done', freezes, applied⟩ := left.settled done
    obtain ⟨done'', freezes', applied'⟩ := right.settled done'
    exact ⟨done'', freezes'.trans freezes, applied'.trans applied⟩

theorem Profile.Steps.keeps (steps : profile.Steps runtime sha256 after) :
    profile.Keeps runtime sha256 after where
  legacy := steps.2.legacy
  scheduled := steps.2.scheduled
  settled done := by
    have moves := steps.2.phase
    change Store.Moves (profile.phase runtime sha256) (after.phase runtime sha256) at moves
    obtain ⟨freezes, applied⟩ := steps.2.settled done
    rw [done] at moves
    exact ⟨moves.of_migrated, freezes, applied⟩

private theorem sound_blank : Profile.blank.Sound runtime sha256 := by
  refine @Profile.sound_of_recorded _ _ _ none _ ?_ ?_
  · exact ⟨Registry.invariant_fresh, rfl, .inl rfl, .unknown rfl rfl⟩
  · intro gateway startup running
    cases running

theorem run_append (events : List Event) (event : Event) :
    Profile.run runtime sha256 (events ++ [event]) =
      (Profile.run runtime sha256 events).step runtime sha256 event := by
  simp [Profile.run]

theorem Fits.init {events : List Event} {event : Event}
    (fits : Fits runtime sha256 (events ++ [event])) :
    Fits runtime sha256 events ∧ (Profile.run runtime sha256 events).Fits event := by
  refine ⟨?_, fits events event [] rfl⟩
  intro earlier other later split
  exact fits earlier other (later ++ [event]) (by rw [split]; simp)

theorem sound_run {events : List Event} (fits : Fits runtime sha256 events) :
    (Profile.run runtime sha256 events).Sound runtime sha256 := by
  induction events using List.reverseRecOn with
  | nil => exact sound_blank
  | append_singleton events event ih =>
    rw [run_append]
    exact (steps_step (ih fits.init.1) fits.init.2).1

private theorem keeps_run {earlier later : List Event}
    (fits : Fits runtime sha256 (earlier ++ later)) :
    (Profile.run runtime sha256 earlier).Keeps runtime sha256
      (Profile.run runtime sha256 (earlier ++ later)) := by
  induction later using List.reverseRecOn with
  | nil =>
    rw [List.append_nil]
    exact .refl _
  | append_singleton later event ih =>
    rw [← List.append_assoc] at fits ⊢
    rw [run_append]
    exact (ih fits.init.1).trans (steps_step (sound_run fits.init.1) fits.init.2).keeps

/-- The phase machine of a profile, over one run. -/
structure Lawful (runtime : Json.Runtime) (sha256 : Bytes → Bytes) (events : List Event) :
    Prop where
  /-- The metadata on disk can always be read. -/
  readable : ∃ metadata, loadMetadata runtime sha256
    (Profile.run runtime sha256 events).store.disk.metadata = .ok metadata
  /-- Every event moves the durable phase along the documented edges, if at all. -/
  moves : ∀ earlier event later, events = earlier ++ event :: later →
    Store.Moves ((Profile.run runtime sha256 earlier).phase runtime sha256)
      ((Profile.run runtime sha256 (earlier ++ [event])).phase runtime sha256)
  /-- A legacy id, a scheduled plan and the end of the migration are final; after
  it nothing is frozen or applied. -/
  keeps : ∀ earlier later, events = earlier ++ later →
    (Profile.run runtime sha256 earlier).Keeps runtime sha256 (Profile.run runtime sha256 events)
  /-- A finished migration has every route of its plan in the durable snapshot. -/
  complete : (Profile.run runtime sha256 events).phase runtime sha256 = some .migrated →
    ∀ plan, (Profile.run runtime sha256 events).store.history.scheduled = some plan →
      ∃ robotId loaded,
        (Profile.run runtime sha256 events).legacyRobotId runtime sha256 = some robotId ∧
        Registry.start runtime sha256 (Profile.run runtime sha256 events).store.disk.routes =
          (loaded, none) ∧
        ∀ route ∈ plan, loaded.Owns robotId.val route
  /-- Every attempt was made with the scheduled plan, for the legacy identity. -/
  retried : ∀ robotId plan,
    (robotId, plan) ∈ (Profile.run runtime sha256 events).store.history.applied →
      (Profile.run runtime sha256 events).store.history.scheduled = some plan ∧
        (Profile.run runtime sha256 events).legacyRobotId runtime sha256 = some robotId
  /-- A start while the migration is pending hands out that plan again. -/
  resumed : (Profile.run runtime sha256 events).phase runtime sha256 = some .pending →
    ∀ args, ∃ robotId plan,
      (Profile.run runtime sha256 events).legacyRobotId runtime sha256 = some robotId ∧
      (Profile.run runtime sha256 events).store.history.scheduled = some plan ∧
      (initializeIdentityState runtime sha256 args
        (Profile.run runtime sha256 events).store).gateway =
          some ⟨some ⟨.pending, some robotId, plan, false⟩, plan, false⟩

theorem Profile.Sound.complete (sound : profile.Sound runtime sha256)
    (done : profile.phase runtime sha256 = some .migrated) {plan : List PlannedRoute}
    (scheduled : profile.store.history.scheduled = some plan) :
    ∃ robotId loaded, profile.legacyRobotId runtime sha256 = some robotId ∧
      Registry.start runtime sha256 profile.store.disk.routes = (loaded, none) ∧
      ∀ route ∈ plan, loaded.Owns robotId.val route := by
  have stage := sound.recorded.stage
  unfold Profile.phase at done
  unfold Profile.legacyRobotId
  revert stage done
  generalize profile.durable runtime sha256 = durable
  intro done stage
  cases stage with
  | unknown => cases done
  | single => cases done
  | pending => cases done
  | replaced _ _ unscheduled =>
    rw [unscheduled] at scheduled
    cases scheduled
  | migrated robotId other scheduled' _ pinned =>
    obtain rfl : other = plan := Option.some.inj (scheduled'.symm.trans scheduled)
    obtain ⟨source, inv, ⟨content, written, newest⟩, owned⟩ := pinned
    obtain ⟨fallback, loaded, started, applied, -, -⟩ :=
      Registry.start_of_holds newest (Registry.holds_snapshot inv written)
    rw [Registry.applyBody_bodyLocked_ok inv] at applied
    obtain rfl : Registry.restored _ source = loaded := congrArg Prod.fst applied
    exact ⟨robotId, _, rfl, started, fun route planned =>
      (Registry.agree_restored inv _).owns (owned route planned)⟩

theorem Profile.Sound.retried (sound : profile.Sound runtime sha256) {robotId : RobotId}
    {plan : List PlannedRoute} (tried : (robotId, plan) ∈ profile.store.history.applied) :
    profile.store.history.scheduled = some plan ∧
      profile.legacyRobotId runtime sha256 = some robotId := by
  have stage := sound.recorded.stage
  unfold Profile.legacyRobotId
  revert stage
  generalize profile.durable runtime sha256 = durable
  intro stage
  cases stage with
  | unknown _ untried => simp [untried] at tried
  | single _ _ untried => simp [untried] at tried
  | replaced _ _ _ untried => simp [untried] at tried
  | pending legacy other scheduled same =>
    cases same _ tried
    exact ⟨scheduled, rfl⟩
  | migrated legacy other scheduled same =>
    cases same _ tried
    exact ⟨scheduled, rfl⟩

theorem Profile.Sound.resumed (sound : profile.Sound runtime sha256)
    (pending : profile.phase runtime sha256 = some .pending) (args : Store.StartArgs) :
    ∃ robotId plan, profile.legacyRobotId runtime sha256 = some robotId ∧
      profile.store.history.scheduled = some plan ∧
      (initializeIdentityState runtime sha256 args profile.store).gateway =
        some ⟨some ⟨.pending, some robotId, plan, false⟩, plan, false⟩ := by
  have started : Store.Recorded runtime sha256
      { profile.store with registry := .fresh, metadata := none }
      (profile.durable runtime sha256) :=
    { sound.recorded with invariant := Registry.invariant_fresh }
  unfold Profile.phase at pending
  unfold Profile.legacyRobotId
  have stage := sound.recorded.stage
  revert stage pending started
  generalize profile.durable runtime sha256 = durable
  intro pending started stage
  cases stage with
  | unknown => cases pending
  | single => cases pending
  | replaced => cases pending
  | migrated => cases pending
  | pending robotId plan scheduled =>
    obtain ⟨other, scheduled', begun⟩ := Store.begin_pending started rfl args
    obtain rfl : other = plan := Option.some.inj (scheduled'.symm.trans scheduled)
    refine ⟨robotId, other, rfl, scheduled, ?_⟩
    unfold initializeIdentityState
    revert begun
    rcases Store.begin runtime sha256
      { profile.store with registry := .fresh, metadata := none } args with ⟨ended, store⟩
    intro begun
    obtain rfl : ended = _ := begun
    rfl

/-- Every run is lawful in which no frozen plan pushes out a session of its own. -/
theorem run_lawful (runtime : Json.Runtime) (sha256 : Bytes → Bytes) (events : List Event)
    (fits : Fits runtime sha256 events) : Lawful runtime sha256 events := by
  have sound := sound_run fits
  refine { readable := ⟨_, sound.recorded.read⟩, moves := ?_, keeps := ?_, complete := ?_,
           retried := ?_, resumed := ?_ }
  · intro earlier event later split
    have fits' : Fits runtime sha256 (earlier ++ [event]) := by
      intro before other after same
      refine fits before other (after ++ later) ?_
      rw [split, ← List.singleton_append, ← List.append_assoc, same]
      simp
    rw [run_append]
    exact (steps_step (sound_run fits'.init.1) fits'.init.2).2.phase
  · rintro earlier later rfl
    exact keeps_run fits
  · exact fun done plan scheduled => sound.complete done scheduled
  · exact fun robotId plan tried => sound.retried tried
  · exact fun pending args => sound.resumed pending args

def directRoute (key : SessionKey) : PlannedRoute := ⟨key, .dm, ⟨py "u", by decide⟩, .DM⟩

def legacyBot : RobotId := ⟨py "old", by decide⟩

def replacingBot : RobotId := ⟨py "new", by decide⟩

def newcomer : SessionKey := ⟨py "n", by decide⟩

/-- As many sessions as the session table holds. -/
def crowd : List PlannedRoute :=
  (List.range maxPersistedRoutes).map fun number => directRoute (numbered number)

/-- The oldest of these sessions, and a new one. -/
def latePlan : List PlannedRoute := [directRoute (numbered 0), directRoute newcomer]

/-- The crowd is bound and flushed, but the process dies before `migrated` is
durable; the next start has two tokens and freezes the late plan. -/
def evictingRun : List Event :=
  [.start ⟨1, [], false, .done, .done⟩,
    .registered ⟨legacyBot, true, [], .attempted .none, .done, false⟩,
    .start ⟨1, [], false, .done, .done⟩,
    .registered ⟨replacingBot, true, crowd.map PlannedRoute.session, .attempted .none, .crashed, false⟩,
    .start ⟨2, latePlan.map PlannedRoute.session, false, .done, .done⟩,
    .registered ⟨legacyBot, true, [], .attempted .none, .done, false⟩]

private theorem sessions_crowd : crowd.map PlannedRoute.sessionKey =
    (List.range maxPersistedRoutes).map numbered := by
  rw [crowd, List.map_map]
  rfl

private theorem nodup_crowd : (crowd.map PlannedRoute.sessionKey).Nodup := by
  rw [sessions_crowd]
  exact List.nodup_range.map fun _ _ same => numbered_injective same

private theorem direct_crowd : ∀ route ∈ crowd, ∃ key, route = directRoute key := by
  intro route member
  obtain ⟨number, -, rfl⟩ := List.mem_map.mp member
  exact ⟨_, rfl⟩

private theorem encodable_numbered (number : Nat) : Encodable (numbered number).val := by
  intro point member
  rw [List.eq_of_mem_replicate member]
  simp

private theorem freeze_crowd : freezePlan (crowd.map PlannedRoute.session) = .ok crowd := by
  refine freezePlan_sessions ?_ nodup_crowd (by simp [crowd])
  intro route member
  obtain ⟨key, rfl⟩ := direct_crowd route member
  rfl

private theorem crowd_sessions_eq : ∃ others, crowd.map PlannedRoute.sessionKey =
    numbered 0 :: others ∧ others.length + 1 = maxPersistedRoutes := by
  rw [sessions_crowd]
  refine ⟨((List.range 4095).map fun number => numbered (number + 1)), ?_, by simp [maxPersistedRoutes]⟩
  rw [maxPersistedRoutes, List.range_succ_eq_map, List.map_cons, List.map_map]
  rfl

/-- The end of the run: `migrated` is durable, and the durable snapshot lacks the
first session of the plan. -/
private theorem evictingRun_end (runtime : Json.Runtime) (sha256 : Bytes → Bytes) :
    ∃ last : Registry, last.Invariant ∧ ¬ last.Owns legacyBot.val (directRoute (numbered 0)) ∧
      Store.Snapshots runtime sha256 (Profile.run runtime sha256 evictingRun).store.disk.routes last ∧
      (Profile.run runtime sha256 evictingRun).phase runtime sha256 = some .migrated ∧
      (Profile.run runtime sha256 evictingRun).legacyRobotId runtime sha256 = some legacyBot ∧
      (Profile.run runtime sha256 evictingRun).store.history.scheduled = some latePlan := by
  obtain ⟨others, sessions, full⟩ := crowd_sessions_eq
  have nodup := nodup_crowd
  rw [sessions, List.nodup_cons] at nodup
  have inhabitants : ∀ key ∈ numbered 0 :: others, Encodable key.val := by
    intro key member
    rw [← sessions, sessions_crowd] at member
    obtain ⟨number, -, rfl⟩ := List.mem_map.mp member
    exact encodable_numbered number
  have direct : ∀ route ∈ crowd,
      route.target = (directRoute newcomer).target ∧ route.chatType = .dm := by
    intro route member
    obtain ⟨key, rfl⟩ := direct_crowd route member
    exact ⟨rfl, rfl⟩
  have chat : Encodable (directRoute newcomer).target.2.val := encodable_py "u"
  -- the crowd moves in, and the late plan crowds out its first session
  obtain ⟨crowded, housed, bound⟩ :=
    (Registry.housing_fresh legacyBot (directRoute newcomer).target).fill direct
      (by simpa using nodup_crowd) (by simp [crowd])
  rw [List.nil_append, sessions] at housed
  obtain ⟨file₁, read₁, step₁⟩ := @start_blank ⟨0, none, []⟩ .fresh none none [] runtime sha256
  obtain ⟨file₂, read₂, step₂⟩ := @registered_single ⟨file₁, none, .absent⟩ ⟨0, none, []⟩ .fresh
    legacyBot [] runtime sha256 true (.attempted .none) false
  have step₃ := @start_single runtime sha256 ⟨file₂, none, .absent⟩ ⟨0, none, []⟩ .fresh
    (some ⟨.single, some legacyBot, 0⟩) (some ⟨some ⟨.single, none, [], true⟩, [], true⟩) [] _ read₂
    (Registry.start_of_absent rfl) .fresh
  obtain ⟨files, snapshots, step₄⟩ := @registered_cutOff runtime sha256
    ⟨file₂, none, .absent⟩ ⟨0, none, []⟩ .fresh crowded legacyBot crowd _ replacingBot (by decide)
    freeze_crowd bound housed.invariant (housed.printable chat inhabitants) true false
  obtain ⟨content, written, newest⟩ := snapshots
  obtain ⟨fallback, loaded, started, applied, inv, -⟩ :=
    Registry.start_of_holds newest (Registry.holds_snapshot housed.invariant written)
  rw [Registry.applyBody_bodyLocked_ok housed.invariant] at applied
  have agree : loaded.Agree crowded := by
    rw [← show Registry.restored _ crowded = loaded from congrArg Prod.fst applied]
    exact Registry.agree_restored housed.invariant _
  have unlisted : newcomer ∉ numbered 0 :: others := by
    intro member
    rw [← sessions, sessions_crowd] at member
    obtain ⟨number, -, same⟩ := List.mem_map.mp member
    have heads := congrArg (fun key : SessionKey => key.val.head?) same
    exact absurd heads (by simp [numbered, newcomer, List.replicate_succ]; decide)
  have late : ∀ route ∈ latePlan,
      route.target = (directRoute newcomer).target ∧ route.chatType = .dm := by
    simp [latePlan, directRoute, PlannedRoute.target]
  obtain ⟨last, lodged, bound', lost⟩ :=
    (housed.agree inv agree).crowdOut full late rfl unlisted nodup.1
  have tenants : ∀ key ∈ others ++ [newcomer], Encodable key.val := by
    simp only [List.forall_mem_append, List.forall_mem_singleton]
    exact ⟨fun key member => inhabitants key (List.mem_cons_of_mem _ member), encodable_py "n"⟩
  have texts : ∀ route ∈ latePlan, Encodable route.sessionKey.val ∧ Encodable route.chatId.val := by
    simp only [latePlan, List.forall_mem_cons]
    exact ⟨⟨encodable_numbered 0, chat⟩, ⟨encodable_py "n", chat⟩, by simp⟩
  have frozen : freezePlan (latePlan.map PlannedRoute.session) = .ok latePlan := by decide
  rw [Profile.run, evictingRun]
  simp only [List.foldl_cons, List.foldl_nil, Profile.blank]
  dsimp only at step₂ step₄
  rw [step₁, step₂, step₃]
  generalize Profile.step runtime sha256 _ (.registered ⟨replacingBot, true,
    crowd.map PlannedRoute.session, .attempted .none, .crashed, false⟩) = interrupted at step₄ ⊢
  obtain ⟨store, gateway⟩ := interrupted
  obtain rfl : store = _ := step₄
  obtain ⟨file₅, planFile, read₅, step₅⟩ := @start_multi runtime sha256
    ⟨file₂, none, files⟩ ⟨1, none, []⟩ loaded legacyBot
    (some ⟨.single, some legacyBot, 0⟩) gateway latePlan _ read₂ started frozen texts crowded.written
  rw [step₅]
  obtain ⟨file₆, files₆, snapshots₆, read₆, step₆⟩ := @registered_pending runtime sha256
    ⟨file₅, planFile, files⟩ ⟨2, some latePlan, []⟩ loaded last legacyBot
    (some ⟨.pending, some legacyBot, latePlan.length⟩) latePlan [] bound' lodged.invariant
    (lodged.printable chat tenants) (by decide)
  have durable := @Profile.durable_eq runtime sha256
    (Profile.step runtime sha256 _ (.registered ⟨legacyBot, true, [], .attempted .none, .done, false⟩))
    _ (by rw [step₆]; exact read₆)
  refine ⟨last, lodged.invariant, lost, ?_, ?_, ?_, ?_⟩
  · rw [step₆]
    exact snapshots₆
  · rw [Profile.phase, durable]
    rfl
  · rw [Profile.legacyRobotId, durable]
    rfl
  · rw [step₆]

/-- The run is one that the condition of `run_lawful` excludes. -/
theorem evictingRun_not_lawful : ¬ Lawful ⟨16, 16, le_rfl, le_rfl, fun _ => ""⟩ (fun _ => [])
    evictingRun := by
  intro lawful
  obtain ⟨last, inv, lost, ⟨content, written, newest⟩, done, legacy, scheduled⟩ :=
    evictingRun_end ⟨16, 16, le_rfl, le_rfl, fun _ => ""⟩ (fun _ => [])
  obtain ⟨robotId, loaded, legacy', started, owned⟩ := lawful.complete done latePlan scheduled
  obtain rfl : legacyBot = robotId := Option.some.inj (legacy.symm.trans legacy')
  obtain ⟨fallback, restored, started', applied, -, -⟩ :=
    Registry.start_of_holds newest (Registry.holds_snapshot inv written)
  obtain rfl : restored = loaded := congrArg Prod.fst (started'.symm.trans started)
  rw [Registry.applyBody_bodyLocked_ok inv] at applied
  have agree : restored.Agree last := by
    rw [← show Registry.restored _ last = restored from congrArg Prod.fst applied]
    exact Registry.agree_restored inv _
  exact lost (agree.symm.owns (owned (directRoute (numbered 0)) (by simp [latePlan])))

/-- One session of a former single bot is migrated when a second token arrives. -/
def migratingRun : List Event :=
  [.start ⟨1, [], false, .done, .done⟩,
    .registered ⟨legacyBot, true, [], .attempted .none, .done, false⟩,
    .start ⟨2, [(directRoute newcomer).session], false, .done, .done⟩,
    .registered ⟨legacyBot, true, [], .attempted .none, .done, false⟩]

private theorem planSafe_single {registry : Registry} (unlinked : ∀ target, registry.linked target = ∅)
    (robotId : PyStr) (route : PlannedRoute) : registry.PlanSafe robotId [route] := by
  have alone {ahead rest : List PlannedRoute} {other : PlannedRoute}
      (split : [route] = ahead ++ other :: rest) : ahead = [] := by
    cases ahead with
    | nil => rfl
    | cons first others => simp at split
  refine { raised := ?_, refused := ?_, evicted := ?_ }
  · intro ahead other rest before split bound raised
    rw [alone split]
    exact fun earlier member => by cases member
  · intro ahead other rest before split bound owner same good full key first second link
    rw [unlinked first] at link
    cases link
  · intro ahead other rest before after split bound whole earlier member
    rw [alone split] at member
    cases member

/-- The condition along a run, from any state on. -/
private def FitsFrom (runtime : Json.Runtime) (sha256 : Bytes → Bytes) : Profile → List Event → Prop
  | _, [] => True
  | profile, event :: rest =>
    profile.Fits event ∧ FitsFrom runtime sha256 (profile.step runtime sha256 event) rest

private theorem FitsFrom.split {earlier later : List Event} {event : Event}
    (fits : FitsFrom runtime sha256 profile (earlier ++ event :: later)) :
    (earlier.foldl (Profile.step runtime sha256) profile).Fits event := by
  induction earlier generalizing profile with
  | nil => exact fits.1
  | cons first others ih => exact ih fits.2

private theorem fits_migratingRun (runtime : Json.Runtime) (sha256 : Bytes → Bytes) :
    Fits runtime sha256 migratingRun := by
  suffices fits : FitsFrom runtime sha256 .blank migratingRun by
    rintro earlier event later split
    rw [split] at fits
    exact fits.split
  obtain ⟨file₁, read₁, step₁⟩ := @start_blank ⟨0, none, []⟩ .fresh none none [] runtime sha256
  obtain ⟨file₂, read₂, step₂⟩ := @registered_single ⟨file₁, none, .absent⟩ ⟨0, none, []⟩ .fresh
    legacyBot [] runtime sha256 true (.attempted .none) false
  have frozen : freezePlan [(directRoute newcomer).session] = .ok [directRoute newcomer] := by decide
  obtain ⟨file₃, planFile, read₃, step₃⟩ := @start_multi runtime sha256
    ⟨file₂, none, .absent⟩ ⟨0, none, []⟩ .fresh legacyBot
    (some ⟨.single, some legacyBot, 0⟩) (some ⟨some ⟨.single, none, [], true⟩, [], true⟩)
    [directRoute newcomer] _ read₂ (Registry.start_of_absent rfl) frozen
    (by simpa [directRoute] using ⟨encodable_py "n", encodable_py "u"⟩) .fresh
  dsimp only at step₂ step₃
  rw [migratingRun, Profile.blank]
  simp only [FitsFrom]
  rw [step₁, step₂, step₃]
  refine ⟨trivial, ?_, trivial, ?_, trivial⟩
  · intro gateway running applies
    cases running
    cases applies.multi
  · intro gateway running applies after bound
    cases running
    exact planSafe_single (fun target => rfl) _ _

/-- The whole path from a single bot to a finished migration. -/
theorem run_lawful_migrating :
    Lawful ⟨16, 16, le_rfl, le_rfl, fun _ => ""⟩ (fun _ => []) migratingRun :=
  run_lawful _ _ migratingRun (fits_migratingRun _ _)

end OctoChannel.Adapter

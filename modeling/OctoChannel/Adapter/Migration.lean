import OctoChannel.Identity.Crowding
import OctoChannel.Identity.Phases

namespace OctoChannel.Adapter

open Foundation Identity

/-- The identity fields of a running adapter. -/
structure Gateway where
  startup : Option IdentityStartup
  legacyPlan : List PlannedRoute
  soleIdentityMode : Bool

def Gateway.identityPhase (gateway : Gateway) : Phase := gateway.startup.elim .single (·.phase)

def Gateway.legacyPrimaryRobotId (gateway : Gateway) : Option RobotId :=
  gateway.startup.bind (·.legacyRobotId)

/-- The state store and the process that uses it, if one is running. -/
structure Profile where
  store : Store
  gateway : Option Gateway

/-- A profile before the plugin has run: no files, no history. -/
def Profile.blank : Profile :=
  ⟨⟨⟨none, none, .absent⟩, .fresh, none, ⟨0, none, []⟩⟩, none⟩

/-- A runtime that registered with the server, and what the environment decides
about the durable writes that follow. -/
structure Registered where
  robotId : RobotId
  first : Bool
  sessions : List (PyStr × PyStr × PyStr)
  routeWrite : RouteWrite
  metadataWrite : DocumentWrite
  removed : Bool

variable (runtime : Json.Runtime) (sha256 : Bytes → Bytes)

/-- A new process calls `_initialize_identity_state`. -/
def initializeIdentityState (args : Store.StartArgs) (store : Store) : Profile :=
  match { store with registry := .fresh, metadata := none }.begin runtime sha256 args with
  | (.returned startup, begun) => ⟨begun, some ⟨some startup, startup.plan, startup.soleIdentityMode⟩⟩
  | (.raised _, begun) => ⟨begun, some ⟨none, [], args.tokenCount ≤ 1⟩⟩
  | (.crashed, begun) => ⟨begun, none⟩

/-- `_apply_legacy_migration` -/
def applyLegacyMigration (registered : Registered) (gateway : Gateway) (store : Store) : Profile :=
  if gateway.legacyPrimaryRobotId ≠ some registered.robotId then ⟨store, some gateway⟩
  else
    match store.applyLegacyPlan runtime sha256 registered.robotId gateway.legacyPlan
        registered.routeWrite registered.metadataWrite registered.removed with
    | (.returned _, applied) => ⟨applied, some { gateway with
        startup := some ⟨.migrated, some registered.robotId, [], false⟩
        legacyPlan := [] }⟩
    | (.raised _, applied) => ⟨applied, some gateway⟩
    | (.crashed, applied) => ⟨applied, none⟩

/-- The call of `record_single_identity` in `_on_runtime_registered`. -/
def recordSole (registered : Registered) (gateway : Gateway) (store : Store) : Profile :=
  match store.recordSingleIdentity runtime sha256 registered.robotId registered.metadataWrite with
  | (.returned _, recorded) => ⟨recorded, some gateway⟩
  | (.raised _, recorded) => ⟨recorded, some gateway⟩
  | (.crashed, recorded) => ⟨recorded, none⟩

/-- The single-identity branch of `_on_runtime_registered`. -/
def registerSole (registered : Registered) (gateway : Gateway) (store : Store) : Profile :=
  match gateway.legacyPrimaryRobotId with
  | none => recordSole runtime sha256 registered gateway store
  | some previous =>
    if previous = registered.robotId then recordSole runtime sha256 registered gateway store
    else
      match store.protectReplacedSingleIdentity runtime sha256 previous registered.sessions
          registered.routeWrite registered.metadataWrite with
      | (.returned _, protected') =>
        ⟨protected', some ⟨some ⟨.migrated, some previous, [], false⟩, [], false⟩⟩
      | (.raised _, protected') => ⟨protected', some gateway⟩
      | (.crashed, protected') => ⟨protected', none⟩

/-- `_on_runtime_registered` -/
def onRuntimeRegistered (registered : Registered) (gateway : Gateway) (store : Store) : Profile :=
  if gateway.startup.isNone then ⟨store, some gateway⟩
  else if gateway.soleIdentityMode then registerSole runtime sha256 registered gateway store
  else if gateway.identityPhase ≠ .pending then ⟨store, some gateway⟩
  else if !registered.first then ⟨store, some gateway⟩
  else applyLegacyMigration runtime sha256 registered gateway store

inductive Event where
  | start (args : Store.StartArgs)
  | registered (registered : Registered)
  | crash

namespace Profile

def step (profile : Profile) : Event → Profile
  | .start args => initializeIdentityState runtime sha256 args profile.store
  | .registered registered =>
    match profile.gateway with
    | none => profile
    | some gateway => onRuntimeRegistered runtime sha256 registered gateway profile.store
  | .crash => { profile with gateway := none }

def run (events : List Event) : Profile := events.foldl (step runtime sha256) blank

/-- The metadata that a start would find. -/
def durable (profile : Profile) : Option IdentityMetadata :=
  match loadMetadata runtime sha256 profile.store.disk.metadata with
  | .ok metadata => metadata
  | .error _ => none

def phase (profile : Profile) : Option Phase := (profile.durable runtime sha256).map (·.phase)

def legacyRobotId (profile : Profile) : Option RobotId :=
  (profile.durable runtime sha256).bind (·.legacyRobotId)

end Profile

/-- The registration after which the adapter binds its frozen plan. -/
structure Gateway.AppliesPlan (gateway : Gateway) (registered : Registered) : Prop where
  multi : gateway.soleIdentityMode = false
  pending : gateway.identityPhase = .pending
  first : registered.first = true
  legacy : gateway.legacyPrimaryRobotId = some registered.robotId

/-- If the event binds the frozen plan, no session of the plan is pushed out of
the full route table again. -/
def Profile.Fits (profile : Profile) : Event → Prop
  | .registered registered => ∀ gateway, profile.gateway = some gateway →
    gateway.AppliesPlan registered → ∀ after,
      Registry.Bound registered.robotId.val profile.store.registry gateway.legacyPlan after →
        profile.store.registry.PlanSafe registered.robotId.val gateway.legacyPlan
  | _ => True

/-- The documents fit together, and a running adapter knows what they say. -/
structure Profile.Sound (runtime : Json.Runtime) (sha256 : Bytes → Bytes) (profile : Profile) :
    Prop where
  recorded : Store.Recorded runtime sha256 profile.store (profile.durable runtime sha256)
  opened : ∀ gateway startup, profile.gateway = some gateway → gateway.startup = some startup →
    gateway.legacyPlan = startup.plan ∧ gateway.soleIdentityMode = startup.soleIdentityMode ∧
      ∃ metadata, profile.durable runtime sha256 = some metadata ∧
        profile.store.metadata = some metadata ∧ Store.Opened profile.store.history startup metadata

variable {runtime sha256} {profile after : Profile} {event : Event}

/-- The invariant and the relation to the state before, as one step proves them. -/
def Profile.Steps (runtime : Json.Runtime) (sha256 : Bytes → Bytes) (profile after : Profile) :
    Prop :=
  after.Sound runtime sha256 ∧ Store.Advances profile.store after.store
    (profile.durable runtime sha256) (after.durable runtime sha256)

theorem Profile.durable_eq {metadata : Option IdentityMetadata}
    (read : loadMetadata runtime sha256 profile.store.disk.metadata = .ok metadata) :
    profile.durable runtime sha256 = metadata := by
  rw [durable, read]

theorem Profile.sound_of_recorded {store : Store} {metadata : Option IdentityMetadata}
    {gateway : Option Gateway} (recorded : Store.Recorded runtime sha256 store metadata)
    (opened : ∀ running startup, gateway = some running → running.startup = some startup →
      running.legacyPlan = startup.plan ∧ running.soleIdentityMode = startup.soleIdentityMode ∧
        ∃ known, metadata = some known ∧ store.metadata = some known ∧
          Store.Opened store.history startup known) :
    (⟨store, gateway⟩ : Profile).Sound runtime sha256 := by
  have same : (⟨store, gateway⟩ : Profile).durable runtime sha256 = metadata :=
    durable_eq recorded.read
  refine { recorded := ?_, opened := ?_ }
  · rw [same]
    exact recorded
  · rw [same]
    exact opened

private theorem steps_initializeIdentityState (sound : profile.Sound runtime sha256)
    (args : Store.StartArgs) :
    profile.Steps runtime sha256 (initializeIdentityState runtime sha256 args profile.store) := by
  have started : Store.Recorded runtime sha256
      { profile.store with registry := .fresh, metadata := none }
      (profile.durable runtime sha256) :=
    { sound.recorded with invariant := Registry.invariant_fresh }
  have begun := Store.begin_spec started rfl args
  unfold initializeIdentityState
  revert begun
  rcases Store.begin runtime sha256 { profile.store with registry := .fresh, metadata := none } args
    with ⟨ended, store⟩
  rintro ⟨later, recorded, advances, opened⟩
  have same (gateway : Option Gateway) :
      (⟨store, gateway⟩ : Profile).durable runtime sha256 = later :=
    Profile.durable_eq recorded.read
  have moved : Store.Advances profile.store store (profile.durable runtime sha256) later :=
    { advances with }
  cases ended with
  | returned startup =>
    refine ⟨Profile.sound_of_recorded recorded ?_, (same _).symm ▸ moved⟩
    intro gateway opening running handed
    cases running
    cases handed
    exact ⟨rfl, rfl, opened startup rfl⟩
  | raised error =>
    refine ⟨Profile.sound_of_recorded recorded ?_, (same _).symm ▸ moved⟩
    intro gateway opening running handed
    cases running
    cases handed
  | crashed =>
    refine ⟨Profile.sound_of_recorded recorded ?_, (same _).symm ▸ moved⟩
    intro gateway opening running handed
    cases running

/-- A step that leaves a running adapter as it was, or ends it. -/
private theorem steps_of_kept {gateway : Gateway} {startup : IdentityStartup} {store : Store}
    {metadata : IdentityMetadata} (handed : gateway.startup = some startup)
    (same : gateway.legacyPlan = startup.plan ∧
      gateway.soleIdentityMode = startup.soleIdentityMode)
    (recorded : Store.Recorded runtime sha256 store (some metadata))
    (known : store.metadata = some metadata) (opened : Store.Opened store.history startup metadata)
    (advances : Store.Advances profile.store store (profile.durable runtime sha256) (some metadata)) :
    profile.Steps runtime sha256 ⟨store, some gateway⟩ ∧
      profile.Steps runtime sha256 ⟨store, none⟩ := by
  have durable (running : Option Gateway) :
      (⟨store, running⟩ : Profile).durable runtime sha256 = some metadata :=
    Profile.durable_eq recorded.read
  refine ⟨⟨Profile.sound_of_recorded recorded ?_, (durable _).symm ▸ advances⟩,
    ⟨Profile.sound_of_recorded recorded ?_, (durable _).symm ▸ advances⟩⟩
  · intro running opening present handed'
    cases present
    obtain rfl : opening = startup := Option.some.inj (handed'.symm.trans handed)
    exact ⟨same.1, same.2, metadata, rfl, known, opened⟩
  · intro running opening present
    cases present

private theorem steps_recordSole {gateway : Gateway} {legacyRobotId later : Option RobotId}
    (recorded : Store.Recorded runtime sha256 profile.store (some ⟨.single, later, 0⟩))
    (known : profile.store.metadata = some ⟨.single, later, 0⟩)
    (handed : gateway.startup = some ⟨.single, legacyRobotId, [], true⟩)
    (same : gateway.legacyPlan = [] ∧ gateway.soleIdentityMode = true)
    (kept : legacyRobotId = none ∨ later = legacyRobotId) (registered : Registered) :
    profile.Steps runtime sha256 (recordSole runtime sha256 registered gateway profile.store) := by
  obtain ⟨named, recorded', known', history, once⟩ := Store.recordSingleIdentity_spec recorded known
    registered.robotId registered.metadataWrite
  have advances : Store.Advances profile.store
      (profile.store.recordSingleIdentity runtime sha256 registered.robotId
        registered.metadataWrite).2
      (profile.durable runtime sha256) (some ⟨.single, named, 0⟩) := by
    rw [Profile.durable_eq recorded.read]
    refine { phase := .stay _, legacy := ?_, scheduled := ?_, settled := fun done => by cases done }
    · intro robotId present
      rcases once with unnamed | same
      · rw [unnamed] at present
        cases present
      · rw [same]
        exact present
    · intro plan
      rw [history]
      exact id
  have still : legacyRobotId = none ∨ named = legacyRobotId := by
    rcases kept with unnamed | same
    · exact .inl unnamed
    · rcases once with unnamed | written
      · exact .inl (same.symm.trans unnamed)
      · exact .inr (written.trans same)
  have steps := steps_of_kept handed same recorded' known'
    (.single legacyRobotId named still) advances
  revert steps
  unfold recordSole
  rcases profile.store.recordSingleIdentity runtime sha256 registered.robotId
    registered.metadataWrite with ⟨ended, store⟩
  intro steps
  cases ended with
  | returned => exact steps.1
  | raised error => exact steps.1
  | crashed => exact steps.2

/-- Protection starts over from a frozen plan; only its end moves the phase. -/
private theorem steps_registerSole {gateway : Gateway} {legacyRobotId later : Option RobotId}
    (recorded : Store.Recorded runtime sha256 profile.store (some ⟨.single, later, 0⟩))
    (known : profile.store.metadata = some ⟨.single, later, 0⟩)
    (handed : gateway.startup = some ⟨.single, legacyRobotId, [], true⟩)
    (same : gateway.legacyPlan = [] ∧ gateway.soleIdentityMode = true)
    (kept : legacyRobotId = none ∨ later = legacyRobotId) (registered : Registered) :
    profile.Steps runtime sha256 (registerSole runtime sha256 registered gateway profile.store) := by
  have record := steps_recordSole recorded known handed same kept registered
  have primary : gateway.legacyPrimaryRobotId = legacyRobotId := by
    rw [Gateway.legacyPrimaryRobotId, handed]
    rfl
  unfold registerSole
  rw [primary]
  cases legacyRobotId with
  | none => exact record
  | some previous =>
    dsimp only
    split
    · exact record
    · rcases called : profile.store.protectReplacedSingleIdentity runtime sha256 previous
        registered.sessions registered.routeWrite registered.metadataWrite with ⟨ended, store⟩
      obtain ⟨⟨freezes, history⟩, outcome⟩ := Store.protectReplacedSingleIdentity_spec recorded known
        previous registered.sessions registered.routeWrite registered.metadataWrite called
      have durable : profile.durable runtime sha256 = some ⟨.single, later, 0⟩ :=
        Profile.durable_eq recorded.read
      have scheduled (plan : List PlannedRoute)
          (frozen : profile.store.history.scheduled = some plan) :
          store.history.scheduled = some plan := by
        rw [history]
        exact frozen
      rcases outcome with ⟨recorded', remembered, unfinished⟩ | ⟨size, rfl, named, recorded', known'⟩
      · have steps := @steps_of_kept runtime sha256 profile gateway _ store _ handed same recorded'
          (remembered.trans known) (.single (some previous) later kept)
          (by
            rw [durable]
            exact { phase := .stay _, legacy := fun _ => id, scheduled,
                    settled := fun done => by cases done })
        cases ended with
        | returned size => exact absurd rfl (unfinished size)
        | raised error => exact steps.1
        | crashed => exact steps.2
      · have steps := @steps_of_kept runtime sha256 profile
          ⟨some ⟨.migrated, some previous, [], false⟩, [], false⟩ _ store _ rfl ⟨rfl, rfl⟩ recorded'
          known' (.migrated previous size)
          (by
            rw [durable, named]
            exact { phase := .protect, legacy := fun _ => id, scheduled,
                    settled := fun done => by cases done })
        exact steps.1

private theorem steps_applyLegacyMigration {gateway : Gateway} {robotId : RobotId}
    {plan : List PlannedRoute}
    (recorded : Store.Recorded runtime sha256 profile.store
      (some ⟨.pending, some robotId, plan.length⟩))
    (known : profile.store.metadata = some ⟨.pending, some robotId, plan.length⟩)
    (scheduled : profile.store.history.scheduled = some plan)
    (handed : gateway.startup = some ⟨.pending, some robotId, plan, false⟩)
    (same : gateway.legacyPlan = plan ∧ gateway.soleIdentityMode = false)
    (registered : Registered)
    (fits : gateway.legacyPrimaryRobotId = some registered.robotId → ∀ after,
      Registry.Bound registered.robotId.val profile.store.registry gateway.legacyPlan after →
        profile.store.registry.PlanSafe registered.robotId.val gateway.legacyPlan) :
    profile.Steps runtime sha256
      (applyLegacyMigration runtime sha256 registered gateway profile.store) := by
  have durable : profile.durable runtime sha256 = some ⟨.pending, some robotId, plan.length⟩ :=
    Profile.durable_eq recorded.read
  have primary : gateway.legacyPrimaryRobotId = some robotId := by
    rw [Gateway.legacyPrimaryRobotId, handed]
    rfl
  unfold applyLegacyMigration
  split
  · refine (steps_of_kept handed same recorded known (.pending robotId plan scheduled) ?_).1
    rw [durable]
    exact .stay _ rfl fun done => by cases done
  · rename_i expected
    rw [primary, not_not, Option.some.injEq] at expected
    subst expected
    rw [same.1] at fits ⊢
    have owned (bound : Registry)
        (taken : profile.store.registry.bindPlan registered.robotId.val plan = (.ok true, bound)) :
        ∀ route ∈ plan, bound.Owns registered.robotId.val route :=
      Registry.owns_of_accepted recorded.invariant (fits primary bound) taken
    rcases called : profile.store.applyLegacyPlan runtime sha256 registered.robotId plan
      registered.routeWrite registered.metadataWrite registered.removed with ⟨ended, store⟩
    obtain ⟨history, outcome⟩ := Store.applyLegacyPlan_spec recorded scheduled owned
      registered.routeWrite registered.metadataWrite registered.removed called
    have scheduled' : store.history.scheduled = some plan := by
      rw [history]
      exact scheduled
    have still (other : List PlannedRoute)
        (frozen : profile.store.history.scheduled = some other) :
        store.history.scheduled = some other := by
      rw [history]
      exact frozen
    rcases outcome with ⟨recorded', remembered, unfinished⟩ | ⟨rfl, recorded', known'⟩
    · have steps := @steps_of_kept runtime sha256 profile gateway _ store _ handed same recorded'
        (remembered.trans known) (.pending registered.robotId plan scheduled')
        (by
          rw [durable]
          exact { phase := .stay _, legacy := fun _ => id, scheduled := still,
                  settled := fun done => by cases done })
      cases ended with
      | returned => exact absurd rfl unfinished
      | raised error => exact steps.1
      | crashed => exact steps.2
    · have steps := @steps_of_kept runtime sha256 profile
        { gateway with
          startup := some ⟨.migrated, some registered.robotId, [], false⟩
          legacyPlan := [] } _ store _ rfl ⟨rfl, same.2⟩ recorded' known'
        (.migrated registered.robotId plan.length)
        (by
          rw [durable]
          exact { phase := .finish, legacy := fun _ => id, scheduled := still,
                  settled := fun done => by cases done })
      exact steps.1

private theorem steps_onRuntimeRegistered (sound : profile.Sound runtime sha256) {gateway : Gateway}
    (running : profile.gateway = some gateway) (registered : Registered)
    (fits : profile.Fits (.registered registered)) :
    profile.Steps runtime sha256
      (onRuntimeRegistered runtime sha256 registered gateway profile.store) := by
  have unchanged : profile.Steps runtime sha256 ⟨profile.store, some gateway⟩ := by
    rw [← running]
    exact ⟨sound, .stay _ rfl fun _ => rfl⟩
  unfold onRuntimeRegistered
  cases handed : gateway.startup with
  | none => exact unchanged
  | some startup =>
    obtain ⟨plan, mode, metadata, durable, known, opened⟩ := sound.opened _ _ running handed
    have recorded := sound.recorded
    rw [durable] at recorded
    simp only [Option.isNone_some, Bool.false_eq_true, if_false]
    cases opened with
    | single legacyRobotId later kept =>
      rw [mode, if_pos rfl]
      exact steps_registerSole recorded known handed ⟨plan, mode⟩ kept registered
    | pending robotId frozen scheduled =>
      rw [mode, if_neg Bool.false_ne_true]
      split
      · exact unchanged
      · rename_i phase
        split
        · exact unchanged
        · rename_i first
          refine steps_applyLegacyMigration recorded known scheduled handed ⟨plan, mode⟩ registered ?_
          exact fun primary => fits gateway running
            ⟨mode, not_not.mp phase, by simpa using first, primary⟩
    | migrated robotId size =>
      have phase : gateway.identityPhase = .migrated := by
        rw [Gateway.identityPhase, handed]
        rfl
      rw [mode, if_neg Bool.false_ne_true, if_pos (by rw [phase]; decide)]
      exact unchanged

theorem steps_step (sound : profile.Sound runtime sha256) (fits : profile.Fits event) :
    profile.Steps runtime sha256 (profile.step runtime sha256 event) := by
  cases event with
  | start args => exact steps_initializeIdentityState sound args
  | registered registered =>
    rw [Profile.step]
    cases running : profile.gateway with
    | none => exact ⟨sound, .stay _ rfl fun _ => rfl⟩
    | some gateway => exact steps_onRuntimeRegistered sound running registered fits
  | crash =>
    refine ⟨⟨sound.recorded, ?_⟩, .stay _ rfl fun _ => rfl⟩
    intro gateway startup running
    cases running

section FaultFree

variable {disk : Disk} {history : History} {registry bound : Registry} {robotId : RobotId}
  {memory : Option IdentityMetadata} {gateway : Option Gateway} {plan : List PlannedRoute}
  {sessions : List (PyStr × PyStr × PyStr)}

/-- The first start of all: one token, and nothing on disk. -/
theorem start_blank (runtime : Json.Runtime) (sha256 : Bytes → Bytes) :
    ∃ file, loadMetadata runtime sha256 file = .ok (some ⟨.single, none, 0⟩) ∧
      Profile.step runtime sha256 ⟨⟨⟨none, none, .absent⟩, registry, memory, history⟩, gateway⟩
          (.start ⟨1, sessions, false, .done, .done⟩) =
        ⟨⟨⟨file, none, .absent⟩, .fresh, some ⟨.single, none, 0⟩, history⟩,
          some ⟨some ⟨.single, none, [], true⟩, [], true⟩⟩ := by
  obtain ⟨file, read, saved⟩ := @Store.saveMetadata_done runtime sha256
    ⟨⟨none, none, .absent⟩, .fresh, none, history⟩ ⟨.single, none, 0⟩ (Nat.zero_le _)
  refine ⟨file, read, ?_⟩
  have begun : Store.begin runtime sha256 ⟨⟨none, none, .absent⟩, .fresh, none, history⟩
      ⟨1, sessions, false, .done, .done⟩ =
      (.returned ⟨.single, none, [], true⟩,
        ⟨⟨file, none, .absent⟩, .fresh, some ⟨.single, none, 0⟩, history⟩) := by
    have loaded : Registry.fresh.load (.ok .missing) (.ok .missing) = (.fresh, none) := rfl
    simp only [Store.begin, loadMetadata, readStateDocument, Generations.absent, loaded, le_refl,
      if_true, Store.beginSingle]
    rw [show (⟨⟨none, none, ⟨none, none⟩⟩, .fresh, none, history⟩ : Store) =
      ⟨⟨none, none, .absent⟩, .fresh, none, history⟩ from rfl, saved]
    rfl
  simp only [Profile.step, initializeIdentityState, begun]

/-- A start with one token in the single phase. -/
theorem start_single {legacyRobotId : Option RobotId}
    (read : loadMetadata runtime sha256 disk.metadata = .ok (some ⟨.single, legacyRobotId, 0⟩))
    (started : Registry.start runtime sha256 disk.routes = (registry, none))
    {previous : Registry} :
    Profile.step runtime sha256 ⟨⟨disk, previous, memory, history⟩, gateway⟩
        (.start ⟨1, sessions, false, .done, .done⟩) =
      ⟨⟨disk, registry, some ⟨.single, legacyRobotId, 0⟩, history⟩,
        some ⟨some ⟨.single, legacyRobotId, [], true⟩, [], true⟩⟩ := by
  rw [Registry.start] at started
  simp [Profile.step, initializeIdentityState, Store.begin, read, started, Store.beginSingle]

/-- The first registration records the identity. -/
theorem registered_single (runtime : Json.Runtime) (sha256 : Bytes → Bytes) (first : Bool)
    (routeWrite : RouteWrite) (removed : Bool) :
    ∃ file, loadMetadata runtime sha256 file = .ok (some ⟨.single, some robotId, 0⟩) ∧
      Profile.step runtime sha256 ⟨⟨disk, registry, some ⟨.single, none, 0⟩, history⟩,
          some ⟨some ⟨.single, none, [], true⟩, [], true⟩⟩
          (.registered ⟨robotId, first, sessions, routeWrite, .done, removed⟩) =
        ⟨⟨{ disk with metadata := file }, registry, some ⟨.single, some robotId, 0⟩, history⟩,
          some ⟨some ⟨.single, none, [], true⟩, [], true⟩⟩ := by
  obtain ⟨file, read, saved⟩ := @Store.saveMetadata_done runtime sha256
    ⟨disk, registry, some ⟨.single, none, 0⟩, history⟩ ⟨.single, some robotId, 0⟩ (Nat.zero_le _)
  refine ⟨file, read, ?_⟩
  simp [Profile.step, onRuntimeRegistered, registerSole, Gateway.legacyPrimaryRobotId, recordSole,
    Store.recordSingleIdentity, saved]

/-- Protection that is cut off behind the route snapshot. -/
theorem registered_cutOff {other : RobotId} (different : robotId ≠ other)
    (frozen : freezePlan sessions = .ok plan)
    (taken : registry.bindPlan robotId.val plan = (.ok true, bound)) (inv : bound.Invariant)
    (printable : bound.Printable) (first removed : Bool) :
    ∃ files, Store.Snapshots runtime sha256 files bound ∧
      (Profile.step runtime sha256 ⟨⟨disk, registry, some ⟨.single, some robotId, 0⟩, history⟩,
          some ⟨some ⟨.single, some robotId, [], true⟩, [], true⟩⟩
          (.registered ⟨other, first, sessions, .attempted .none, .crashed, removed⟩)).store =
        ⟨{ disk with routes := files }, bound.written, some ⟨.single, some robotId, 0⟩,
          { history with freezes := history.freezes + 1 }⟩ := by
  obtain ⟨files, snapshots, flushed⟩ := @Store.bindAndFlush_done runtime sha256
    ⟨disk, registry, some ⟨.single, some robotId, 0⟩,
      { history with freezes := history.freezes + 1 }⟩ robotId plan bound taken inv printable
    "legacy routes conflict while protecting replaced identity"
  refine ⟨files, snapshots, ?_⟩
  have kept := @Store.saveMetadata_undone runtime sha256
    ⟨{ disk with routes := files }, bound.written, some ⟨.single, some robotId, 0⟩,
      { history with freezes := history.freezes + 1 }⟩ ⟨.migrated, some robotId, plan.length⟩
    .crashed (by simp)
  rcases saved : Store.saveMetadata runtime sha256
    ⟨{ disk with routes := files }, bound.written, some ⟨.single, some robotId, 0⟩,
      { history with freezes := history.freezes + 1 }⟩ ⟨.migrated, some robotId, plan.length⟩
    .crashed with ⟨ended, after⟩
  rw [saved] at kept
  obtain rfl : after = _ := kept
  cases ended <;>
    simp [Profile.step, onRuntimeRegistered, registerSole, Gateway.legacyPrimaryRobotId, different,
      Store.protectReplacedSingleIdentity, Store.currentMetadata, frozen, flushed, saved,
      Call.andThen]

/-- A start with more tokens freezes the plan and becomes pending. -/
theorem start_multi
    (read : loadMetadata runtime sha256 disk.metadata = .ok (some ⟨.single, some robotId, 0⟩))
    (started : Registry.start runtime sha256 disk.routes = (registry, none))
    (frozen : freezePlan sessions = .ok plan)
    (texts : ∀ route ∈ plan, Encodable route.sessionKey.val ∧ Encodable route.chatId.val)
    {previous : Registry} :
    ∃ file planFile,
      loadMetadata runtime sha256 file = .ok (some ⟨.pending, some robotId, plan.length⟩) ∧
      Profile.step runtime sha256 ⟨⟨disk, previous, memory, history⟩, gateway⟩
          (.start ⟨2, sessions, false, .done, .done⟩) =
        ⟨⟨⟨file, planFile, disk.routes⟩, registry, some ⟨.pending, some robotId, plan.length⟩,
          { history with
            freezes := history.freezes + 1
            scheduled := some plan }⟩,
          some ⟨some ⟨.pending, some robotId, plan, false⟩, plan, false⟩⟩ := by
  rw [Registry.start] at started
  obtain ⟨planFile, planned⟩ := @Store.savePlan_done runtime sha256
    ⟨disk, registry, some ⟨.single, some robotId, 0⟩,
      { history with freezes := history.freezes + 1 }⟩ plan texts
  obtain ⟨file, read', saved⟩ := @Store.saveMetadata_done runtime sha256
    ⟨{ disk with plan := planFile }, registry, some ⟨.single, some robotId, 0⟩,
      { history with freezes := history.freezes + 1 }⟩ ⟨.pending, some robotId, plan.length⟩
    (freezePlan_length frozen)
  refine ⟨file, planFile, read', ?_⟩
  simp [Profile.step, initializeIdentityState, Store.begin, read, started, Store.beginMulti,
    Store.freeze, frozen, planned, saved, Call.andThen]

/-- The registration of the legacy identity finishes the migration. -/
theorem registered_pending
    (taken : registry.bindPlan robotId.val plan = (.ok true, bound)) (inv : bound.Invariant)
    (printable : bound.Printable) (small : plan.length ≤ maxPersistedRoutes) :
    ∃ file files, Store.Snapshots runtime sha256 files bound ∧
      loadMetadata runtime sha256 file = .ok (some ⟨.migrated, some robotId, plan.length⟩) ∧
      (Profile.step runtime sha256 ⟨⟨disk, registry, memory, history⟩,
          some ⟨some ⟨.pending, some robotId, plan, false⟩, plan, false⟩⟩
          (.registered ⟨robotId, true, sessions, .attempted .none, .done, false⟩)).store =
        ⟨⟨file, disk.plan, files⟩, bound.written, some ⟨.migrated, some robotId, plan.length⟩,
          { history with applied := (robotId, plan) :: history.applied }⟩ := by
  obtain ⟨files, snapshots, flushed⟩ := @Store.bindAndFlush_done runtime sha256
    ⟨disk, registry, memory, { history with applied := (robotId, plan) :: history.applied }⟩ robotId
    plan bound taken inv printable "legacy migration conflicts with an existing identity route"
  obtain ⟨file, read, saved⟩ := @Store.saveMetadata_done runtime sha256
    ⟨{ disk with routes := files }, bound.written, memory,
      { history with applied := (robotId, plan) :: history.applied }⟩
    ⟨.migrated, some robotId, plan.length⟩ small
  refine ⟨file, files, snapshots, read, ?_⟩
  simp [Profile.step, onRuntimeRegistered, Gateway.identityPhase, applyLegacyMigration,
    Gateway.legacyPrimaryRobotId, Store.applyLegacyPlan, flushed, saved, Call.andThen,
    Store.clearPlan]

end FaultFree

end OctoChannel.Adapter

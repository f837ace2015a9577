import OctoChannel.Identity.StoreWrites

namespace OctoChannel.Identity

open Foundation

variable {runtime : Json.Runtime} {sha256 : Bytes → Bytes}

namespace Store

variable {store : Store} {after : Store} {durable : Option IdentityMetadata}

/-- `record_single_identity` writes a legacy id once. -/
theorem recordSingleIdentity_spec {legacyRobotId : Option RobotId}
    (recorded : Recorded runtime sha256 store (some ⟨.single, legacyRobotId, 0⟩))
    (known : store.metadata = some ⟨.single, legacyRobotId, 0⟩) (robotId : RobotId)
    (write : DocumentWrite) :
    ∃ later, Recorded runtime sha256 (store.recordSingleIdentity runtime sha256 robotId write).2
        (some ⟨.single, later, 0⟩) ∧
      (store.recordSingleIdentity runtime sha256 robotId write).2.metadata =
        some ⟨.single, later, 0⟩ ∧
      (store.recordSingleIdentity runtime sha256 robotId write).2.history = store.history ∧
      (legacyRobotId = none ∨ later = legacyRobotId) := by
  have unchanged : ∃ later, Recorded runtime sha256 store (some ⟨.single, later, 0⟩) ∧
      store.metadata = some ⟨.single, later, 0⟩ ∧ store.history = store.history ∧
      (legacyRobotId = none ∨ later = legacyRobotId) :=
    ⟨legacyRobotId, recorded, known, rfl, .inr rfl⟩
  unfold recordSingleIdentity
  rw [known]
  simp only [Option.getD_some, ne_eq, not_true_eq_false, if_false]
  cases legacyRobotId with
  | some previous =>
    dsimp only
    split
    · exact unchanged
    · exact unchanged
  | none =>
    rcases @saveMetadata_case runtime sha256 store ⟨.single, some robotId, 0⟩ (Nat.zero_le _) write
      with ⟨error, saved⟩ | saved | ⟨file, read, saved⟩
    · rw [saved]
      exact unchanged
    · rw [saved]
      exact unchanged
    · rw [saved]
      refine ⟨some robotId, ⟨recorded.invariant, read, recorded.routes, ?_⟩, rfl, rfl, .inl rfl⟩
      cases recorded.stage with
      | single _ unscheduled untried => exact .single _ unscheduled untried

theorem andThen_assoc {first second third : Type} (call : Call first)
    (next : first → Store → Call second) (last : second → Store → Call third) :
    call.andThen (fun value store => (next value store).andThen last) =
      (call.andThen next).andThen last := by
  obtain ⟨ended, store⟩ := call
  cases ended <;> rfl

theorem andThen_eq {first second : Type} {call : Call first} {next : first → Store → Call second}
    {ended : Ended second} (called : call.andThen next = (ended, after)) :
    (∃ error, call = (.raised error, after) ∧ ended = .raised error) ∨
    (call = (.crashed, after) ∧ ended = .crashed) ∨
    ∃ value middle, call = (.returned value, middle) ∧ next value middle = (ended, after) := by
  obtain ⟨ending, middle⟩ := call
  cases ending with
  | raised error =>
    cases called
    exact .inl ⟨error, rfl, rfl⟩
  | crashed =>
    cases called
    exact .inr (.inl ⟨rfl, rfl⟩)
  | returned value => exact .inr (.inr ⟨value, middle, rfl, called⟩)

/-- The steps that protection and migration share: they leave the metadata alone,
or end with `migrated` on disk behind the snapshot of the bound plan. -/
theorem finish_case (recorded : Recorded runtime sha256 store durable)
    (open' : durable.map (·.phase) ≠ some .migrated) (robotId : RobotId) {plan : List PlannedRoute}
    (small : plan.length ≤ maxPersistedRoutes) (conflict : String) (routeWrite : RouteWrite)
    (metadataWrite : DocumentWrite) {ended : Ended Unit}
    (called : (store.bindAndFlush runtime sha256 robotId plan conflict routeWrite).andThen
      (fun _ flushed => flushed.saveMetadata runtime sha256
        ⟨.migrated, some robotId, plan.length⟩ metadataWrite) = (ended, after)) :
    after.history = store.history ∧
      (Recorded runtime sha256 after durable ∧ after.metadata = store.metadata ∧
          ended ≠ .returned () ∨
        ended = .returned () ∧ after.metadata = some ⟨.migrated, some robotId, plan.length⟩ ∧
          (Stage runtime sha256 after.disk after.history
              (some ⟨.migrated, some robotId, plan.length⟩) →
            Recorded runtime sha256 after (some ⟨.migrated, some robotId, plan.length⟩)) ∧
          ∃ bound, store.registry.bindPlan robotId.val plan = (.ok true, bound) ∧
            Snapshots runtime sha256 after.disk.routes bound) := by
  obtain ⟨rerouted, snapshots⟩ := @bindAndFlush_case runtime sha256 store recorded.invariant robotId
    plan conflict routeWrite
  rcases andThen_eq called with ⟨error, failed, rfl⟩ | ⟨failed, rfl⟩ | ⟨_, flushed, bound, saved⟩
  · rw [failed] at rerouted
    exact ⟨rerouted.history, .inl ⟨recorded.rerouted rerouted open', rerouted.metadata, by simp⟩⟩
  · rw [failed] at rerouted
    exact ⟨rerouted.history, .inl ⟨recorded.rerouted rerouted open', rerouted.metadata, by simp⟩⟩
  · rw [bound] at rerouted snapshots
    have kept := recorded.rerouted rerouted open'
    rcases @saveMetadata_case runtime sha256 flushed ⟨.migrated, some robotId, plan.length⟩
      small metadataWrite with ⟨error, written⟩ | written | ⟨file, read, written⟩
    · cases written.symm.trans saved
      exact ⟨rerouted.history, .inl ⟨kept, rerouted.metadata, by simp⟩⟩
    · cases written.symm.trans saved
      exact ⟨rerouted.history, .inl ⟨kept, rerouted.metadata, by simp⟩⟩
    · cases written.symm.trans saved
      refine ⟨rerouted.history, .inr ⟨rfl, rfl, ?_, snapshots rfl⟩⟩
      exact fun stage => ⟨kept.invariant, read, kept.routes, stage⟩

/-- `protect_replaced_single_identity` leaves the phase alone or finishes it, for
the identity that was recorded. -/
theorem protectReplacedSingleIdentity_spec {legacyRobotId : Option RobotId}
    (recorded : Recorded runtime sha256 store (some ⟨.single, legacyRobotId, 0⟩))
    (known : store.metadata = some ⟨.single, legacyRobotId, 0⟩) (previous : RobotId)
    (sessions : List (PyStr × PyStr × PyStr)) (routeWrite : RouteWrite)
    (metadataWrite : DocumentWrite) {ended : Ended Nat}
    (called : store.protectReplacedSingleIdentity runtime sha256 previous sessions routeWrite
      metadataWrite = (ended, after)) :
    (∃ freezes, after.history = { store.history with freezes := freezes }) ∧
      (Recorded runtime sha256 after (some ⟨.single, legacyRobotId, 0⟩) ∧
          after.metadata = store.metadata ∧ (∀ size, ended ≠ .returned size) ∨
        ∃ size, ended = .returned size ∧ legacyRobotId = some previous ∧
          Recorded runtime sha256 after (some ⟨.migrated, some previous, size⟩) ∧
          after.metadata = some ⟨.migrated, some previous, size⟩) := by
  obtain ⟨disk, registry, metadata, history⟩ := store
  obtain rfl : metadata = some ⟨.single, legacyRobotId, 0⟩ := known
  unfold protectReplacedSingleIdentity at called
  dsimp only [currentMetadata] at called
  split at called
  · cases called
    exact ⟨⟨history.freezes, rfl⟩, .inl ⟨recorded, rfl, by simp⟩⟩
  · rename_i guard
    have named : legacyRobotId = some previous := by simpa using guard
    have counted : Recorded runtime sha256
        ⟨disk, registry, some ⟨.single, legacyRobotId, 0⟩,
          { history with freezes := history.freezes + 1 }⟩
        (some ⟨.single, legacyRobotId, 0⟩) := by
      refine ⟨recorded.invariant, recorded.read, recorded.routes, ?_⟩
      cases recorded.stage with
      | single _ unscheduled untried => exact .single _ unscheduled untried
    split at called
    · cases called
      exact ⟨⟨_, rfl⟩, .inl ⟨counted, rfl, by simp⟩⟩
    · rename_i plan frozen
      rw [andThen_assoc] at called
      rcases andThen_eq called with ⟨error, failed, rfl⟩ | ⟨failed, rfl⟩ | ⟨_, finished, done, ended'⟩
      · obtain ⟨same, ⟨kept, remembered, -⟩ | ⟨finished, -⟩⟩ :=
          finish_case counted (by simp) previous (freezePlan_length frozen) _ _ _ failed
        · exact ⟨⟨_, same⟩, .inl ⟨kept, remembered, by simp⟩⟩
        · cases finished
      · obtain ⟨same, ⟨kept, remembered, -⟩ | ⟨finished, -⟩⟩ :=
          finish_case counted (by simp) previous (freezePlan_length frozen) _ _ _ failed
        · exact ⟨⟨_, same⟩, .inl ⟨kept, remembered, by simp⟩⟩
        · cases finished
      · obtain ⟨same, ⟨-, -, unfinished⟩ | ⟨-, saved, stands, -⟩⟩ :=
          finish_case counted (by simp) previous (freezePlan_length frozen) _ _ _ done
        · exact absurd rfl unfinished
        · cases ended'
          refine ⟨⟨_, same⟩, .inr ⟨_, rfl, named, stands ?_, saved⟩⟩
          rw [same]
          cases counted.stage with
          | single _ unscheduled untried => exact .replaced _ _ unscheduled untried

/-- `apply_legacy_plan` leaves the phase pending or finishes it with the plan in
the durable snapshot, provided that a bound plan is owned as a whole. -/
theorem applyLegacyPlan_spec {robotId : RobotId} {plan : List PlannedRoute}
    (recorded : Recorded runtime sha256 store (some ⟨.pending, some robotId, plan.length⟩))
    (scheduled : store.history.scheduled = some plan)
    (owned : ∀ bound, store.registry.bindPlan robotId.val plan = (.ok true, bound) →
      ∀ route ∈ plan, bound.Owns robotId.val route)
    (routeWrite : RouteWrite) (metadataWrite : DocumentWrite) (removed : Bool)
    {ended : Ended Unit}
    (called : store.applyLegacyPlan runtime sha256 robotId plan routeWrite metadataWrite removed =
      (ended, after)) :
    after.history = { store.history with applied := (robotId, plan) :: store.history.applied } ∧
      (Recorded runtime sha256 after (some ⟨.pending, some robotId, plan.length⟩) ∧
          after.metadata = store.metadata ∧ ended ≠ .returned () ∨
        ended = .returned () ∧
          Recorded runtime sha256 after (some ⟨.migrated, some robotId, plan.length⟩) ∧
          after.metadata = some ⟨.migrated, some robotId, plan.length⟩) := by
  obtain ⟨disk, registry, metadata, history⟩ := store
  have stage := recorded.stage
  generalize size : plan.length = planSize at stage
  cases stage with
  | pending _ other scheduled' tried planned small =>
    obtain rfl : other = plan := Option.some.inj (scheduled'.symm.trans scheduled)
    have retried : ∀ attempt ∈ (robotId, other) :: history.applied, attempt = (robotId, other) := by
      simp only [List.forall_mem_cons]
      exact ⟨trivial, tried⟩
    have marked : Recorded runtime sha256
        ⟨disk, registry, metadata, { history with applied := (robotId, other) :: history.applied }⟩
        (some ⟨.pending, some robotId, other.length⟩) :=
      ⟨recorded.invariant, recorded.read, recorded.routes,
        .pending _ _ scheduled retried planned small⟩
    unfold applyLegacyPlan at called
    dsimp only at called
    rw [andThen_assoc] at called
    rcases andThen_eq called with ⟨error, failed, rfl⟩ | ⟨failed, rfl⟩ | ⟨_, finished, done, ended'⟩
    · obtain ⟨same, ⟨kept, remembered, -⟩ | ⟨finished, -⟩⟩ :=
        finish_case marked (by simp) robotId small _ _ _ failed
      · exact ⟨same, .inl ⟨kept, remembered, by simp⟩⟩
      · cases finished
    · obtain ⟨same, ⟨kept, remembered, -⟩ | ⟨finished, -⟩⟩ :=
        finish_case marked (by simp) robotId small _ _ _ failed
      · exact ⟨same, .inl ⟨kept, remembered, by simp⟩⟩
      · cases finished
    · obtain ⟨same, ⟨-, -, unfinished⟩ | ⟨-, saved, stands, bound, bound', snapshots⟩⟩ :=
        finish_case marked (by simp) robotId small _ _ _ done
      · exact absurd rfl unfinished
      · have inv := recorded.invariant.bindPlan robotId.val other
        rw [bound'] at inv
        have stage (disk : Disk) (routes : disk.routes = finished.disk.routes) :
            Stage runtime sha256 disk finished.history
              (some ⟨.migrated, some robotId, other.length⟩) := by
          rw [same]
          exact .migrated robotId other scheduled retried
            ⟨bound, inv, routes ▸ snapshots, owned bound bound'⟩
        have finished' := stands (stage _ rfl)
        cases ended'
        cases removed with
        | false => exact ⟨same, .inr ⟨rfl, finished', saved⟩⟩
        | true =>
          refine ⟨same, .inr ⟨rfl, ?_, saved⟩⟩
          exact ⟨finished'.invariant, finished'.read, finished'.routes, stage _ rfl⟩

/-- What a start may hand to the adapter, next to the metadata it leaves. -/
inductive Opened (history : History) : IdentityStartup → IdentityMetadata → Prop where
  | single (legacyRobotId later : Option RobotId)
      (known : legacyRobotId = none ∨ later = legacyRobotId) :
      Opened history ⟨.single, legacyRobotId, [], true⟩ ⟨.single, later, 0⟩
  | pending (robotId : RobotId) (plan : List PlannedRoute)
      (scheduled : history.scheduled = some plan) :
      Opened history ⟨.pending, some robotId, plan, false⟩ ⟨.pending, some robotId, plan.length⟩
  | migrated (robotId : RobotId) (size : Nat) :
      Opened history ⟨.migrated, some robotId, [], false⟩ ⟨.migrated, some robotId, size⟩

/-- The outcome of a start, whichever way it ends. -/
def Begun (runtime : Json.Runtime) (sha256 : Bytes → Bytes) (store : Store)
    (durable : Option IdentityMetadata) (begun : Call IdentityStartup) : Prop :=
  ∃ later, Recorded runtime sha256 begun.2 later ∧ Advances store begun.2 durable later ∧
    ∀ startup, begun.1 = .returned startup →
      ∃ metadata, later = some metadata ∧ begun.2.metadata = some metadata ∧
        Opened begun.2.history startup metadata

theorem begun_of_failed (recorded : Recorded runtime sha256 store durable)
    {begun : Call IdentityStartup} (kept : begun.2 = store)
    (failed : ∀ startup, begun.1 ≠ .returned startup) : Begun runtime sha256 store durable begun := by
  obtain ⟨ended, after⟩ := begun
  obtain rfl : after = store := kept
  exact ⟨durable, recorded, .stay durable rfl fun _ => rfl,
    fun startup returned => absurd returned (failed startup)⟩

theorem begun_of_returned {metadata : IdentityMetadata} {startup : IdentityStartup}
    (recorded : Recorded runtime sha256 store (some metadata))
    (known : store.metadata = some metadata) (opened : Opened store.history startup metadata) :
    Begun runtime sha256 store (some metadata) (.returned startup, store) := by
  refine ⟨some metadata, recorded, .stay _ rfl fun _ => rfl, ?_⟩
  rintro _ ⟨⟩
  exact ⟨metadata, rfl, known, opened⟩

private theorem loadPendingPlan_eq {plan : List PlannedRoute} {legacyRobotId : Option RobotId}
    (planned : loadPlan runtime sha256 store.disk.plan = .ok plan) :
    loadPendingPlan runtime sha256 store.disk.plan ⟨.pending, legacyRobotId, plan.length⟩ =
      .ok plan := by
  simp [loadPendingPlan, planned]

/-- A pending migration is opened again with the plan that was scheduled. -/
theorem beginPending_spec {robotId : RobotId} {size : Nat}
    (recorded : Recorded runtime sha256 store (some ⟨.pending, some robotId, size⟩)) :
    ∃ plan, store.history.scheduled = some plan ∧ size = plan.length ∧
      store.beginPending runtime sha256 ⟨.pending, some robotId, size⟩ =
        (.returned ⟨.pending, some robotId, plan, false⟩, store) := by
  cases recorded.stage with
  | pending _ plan scheduled _ planned _ =>
    refine ⟨plan, scheduled, rfl, ?_⟩
    rw [beginPending, loadPendingPlan_eq planned]

private theorem beginSingle_spec (recorded : Recorded runtime sha256 store durable)
    (known : store.metadata = durable) (write : DocumentWrite) :
    Begun runtime sha256 store durable (store.beginSingle runtime sha256 write durable) := by
  cases recorded.stage with
  | unknown unscheduled untried =>
    rw [beginSingle]
    rcases @saveMetadata_case runtime sha256 store ⟨.single, none, 0⟩ (Nat.zero_le _) write
      with ⟨error, saved⟩ | saved | ⟨file, read, saved⟩
    · rw [saved]
      exact begun_of_failed recorded rfl (by simp [Call.andThen])
    · rw [saved]
      exact begun_of_failed recorded rfl (by simp [Call.andThen])
    · rw [saved]
      refine ⟨some ⟨.single, none, 0⟩, ?_, ?_, ?_⟩
      · exact ⟨recorded.invariant, read, recorded.routes, .single none unscheduled untried⟩
      · exact ⟨.enter, fun _ named => (by cases named), fun _ => id, fun done => (by cases done)⟩
      · rintro _ ⟨⟩
        exact ⟨_, rfl, rfl, .single none none (.inl rfl)⟩
  | single legacyRobotId unscheduled untried =>
    exact begun_of_returned recorded known (.single _ _ (.inr rfl))
  | pending robotId plan scheduled tried planned small =>
    obtain ⟨other, scheduled', -, resumed⟩ := beginPending_spec recorded
    obtain rfl : other = plan := Option.some.inj (scheduled'.symm.trans scheduled)
    rw [beginSingle]
    dsimp only
    rw [resumed]
    exact begun_of_returned recorded known (.pending robotId other scheduled)
  | replaced robotId size unscheduled untried =>
    exact begun_of_returned recorded known (.migrated robotId size)
  | migrated robotId plan scheduled tried pinned =>
    exact begun_of_returned recorded known (.migrated robotId plan.length)

private theorem freeze_spec {robotId : RobotId}
    (recorded : Recorded runtime sha256 store (some ⟨.single, some robotId, 0⟩))
    (sessions : List (PyStr × PyStr × PyStr)) (planWrite metadataWrite : DocumentWrite) :
    Begun runtime sha256 store (some ⟨.single, some robotId, 0⟩)
      (store.freeze runtime sha256 robotId sessions planWrite metadataWrite) := by
  cases recorded.stage with
  | single _ unscheduled untried =>
    have stays (disk : Disk) (same : disk.metadata = store.disk.metadata)
        (routes : disk.routes = store.disk.routes) {ended : Ended IdentityStartup}
        (failed : ∀ startup, ended ≠ .returned startup) :
        Begun runtime sha256 store (some ⟨.single, some robotId, 0⟩) (ended, { store with
          disk := disk
          history := { store.history with freezes := store.history.freezes + 1 } }) := by
      refine ⟨some ⟨.single, some robotId, 0⟩, ?_, ?_, ?_⟩
      · refine ⟨recorded.invariant, same ▸ recorded.read, ?_, .single _ unscheduled untried⟩
        rw [routes]
        exact recorded.routes
      · exact .stay _ rfl fun done => (by cases done)
      · exact fun startup returned => absurd returned (failed startup)
    unfold freeze
    dsimp only
    split
    · exact stays store.disk rfl rfl (by simp)
    · rename_i plan frozen
      rcases @savePlan_case runtime sha256
        { store with history.freezes := store.history.freezes + 1 } plan planWrite
        with ⟨error, saved⟩ | saved | ⟨planFile, planned, saved⟩
      · rw [saved]
        exact stays store.disk rfl rfl (by simp)
      · rw [saved]
        exact stays store.disk rfl rfl (by simp)
      · rw [saved]
        dsimp only [Call.andThen]
        rcases @saveMetadata_case runtime sha256
          { store with
            disk.plan := planFile
            history.freezes := store.history.freezes + 1 } ⟨.pending, some robotId, plan.length⟩
          (freezePlan_length frozen) metadataWrite with ⟨error, saved⟩ | saved | ⟨file, read, saved⟩
        · rw [saved]
          exact stays { store.disk with plan := planFile } rfl rfl (by simp)
        · rw [saved]
          exact stays { store.disk with plan := planFile } rfl rfl (by simp)
        · rw [saved]
          refine ⟨some ⟨.pending, some robotId, plan.length⟩, ?_, ?_, ?_⟩
          · refine ⟨recorded.invariant, read, recorded.routes, ?_⟩
            refine .pending robotId plan rfl ?_ planned (freezePlan_length frozen)
            intro attempt member
            rw [untried] at member
            cases member
          · refine ⟨.freeze, fun _ named => named, ?_, fun done => (by cases done)⟩
            intro other scheduled
            rw [unscheduled] at scheduled
            cases scheduled
          · rintro _ ⟨⟩
            exact ⟨_, rfl, rfl, .pending robotId plan rfl⟩

private theorem beginMulti_spec (recorded : Recorded runtime sha256 store durable)
    (known : store.metadata = durable) (sessions : List (PyStr × PyStr × PyStr))
    (planWrite metadataWrite : DocumentWrite) :
    Begun runtime sha256 store durable
      (store.beginMulti runtime sha256 sessions planWrite metadataWrite durable) := by
  have refused : Begun runtime sha256 store durable store.refuseMulti :=
    begun_of_failed recorded rfl (by simp [refuseMulti])
  cases recorded.stage with
  | unknown => exact refused
  | single legacyRobotId =>
    cases legacyRobotId with
    | none => exact refused
    | some robotId => exact freeze_spec recorded sessions planWrite metadataWrite
  | pending robotId plan scheduled tried planned small =>
    obtain ⟨other, scheduled', -, resumed⟩ := beginPending_spec recorded
    obtain rfl : other = plan := Option.some.inj (scheduled'.symm.trans scheduled)
    rw [beginMulti]
    dsimp only
    rw [resumed]
    exact begun_of_returned recorded known (.pending robotId other scheduled)
  | replaced robotId size =>
    exact begun_of_returned recorded known (.migrated robotId size)
  | migrated robotId plan =>
    exact begun_of_returned recorded known (.migrated robotId plan.length)

/-- A start finds every document readable and a snapshot that can be applied. -/
theorem begin_eq (recorded : Recorded runtime sha256 store durable)
    (new : store.registry = .fresh) (args : StartArgs) :
    ∃ registry, Registry.start runtime sha256 store.disk.routes = (registry, none) ∧
      Recorded runtime sha256 { store with metadata := durable, registry } durable ∧
      store.begin runtime sha256 args =
        if durable.isNone &&
            { store with metadata := durable, registry }.hasRoutingEvidence args.cards then
          (.raised (.runtimeError ("Octo identity-routing metadata is missing while route state " ++
            "exists; refusing to guess the previous identity")),
            { store with metadata := durable, registry })
        else if args.tokenCount ≤ 1 then
          { store with metadata := durable, registry }.beginSingle runtime sha256
            args.metadataWrite durable
        else
          { store with metadata := durable, registry }.beginMulti runtime sha256 args.sessions
            args.planWrite args.metadataWrite durable := by
  have loads : ∃ registry, Registry.start runtime sha256 store.disk.routes = (registry, none) ∧
      registry.Invariant := by
    cases found : store.disk.routes.newest with
    | none => exact ⟨_, Registry.start_of_absent found, Registry.invariant_fresh⟩
    | some file =>
      obtain absent | ⟨source, inv, content, written, newest⟩ := recorded.routes
      · rw [found] at absent
        cases absent
      · obtain ⟨-, loaded, started, -, inv', -⟩ :=
          Registry.start_of_holds newest (Registry.holds_snapshot inv written)
        exact ⟨loaded, started, inv'⟩
  obtain ⟨registry, started, inv⟩ := loads
  refine ⟨registry, started, ⟨inv, recorded.read, recorded.routes, recorded.stage⟩, ?_⟩
  unfold begin
  rw [recorded.read, new]
  dsimp only
  rw [Registry.start] at started
  rw [started]

theorem begin_spec (recorded : Recorded runtime sha256 store durable)
    (new : store.registry = .fresh) (args : StartArgs) :
    Begun runtime sha256 store durable (store.begin runtime sha256 args) := by
  obtain ⟨registry, -, loaded, begun⟩ := begin_eq recorded new args
  rw [begun]
  have transfer {result : Call IdentityStartup}
      (ended : Begun runtime sha256 { store with metadata := durable, registry } durable result) :
      Begun runtime sha256 store durable result := by
    obtain ⟨later, recorded', advances, opened⟩ := ended
    exact ⟨later, recorded', { advances with }, opened⟩
  split
  · exact transfer (begun_of_failed loaded rfl (by simp))
  · split
    · exact transfer (beginSingle_spec loaded rfl args.metadataWrite)
    · exact transfer (beginMulti_spec loaded rfl args.sessions args.planWrite args.metadataWrite)

/-- A start in the pending phase needs no write, so nothing stops it. -/
theorem begin_pending_eq {robotId : RobotId} {size : Nat}
    (recorded : Recorded runtime sha256 store (some ⟨.pending, some robotId, size⟩))
    (new : store.registry = .fresh) (args : StartArgs) :
    ∃ plan registry, store.history.scheduled = some plan ∧
      Registry.start runtime sha256 store.disk.routes = (registry, none) ∧
      store.begin runtime sha256 args = (.returned ⟨.pending, some robotId, plan, false⟩,
        { store with metadata := some ⟨.pending, some robotId, size⟩, registry }) := by
  obtain ⟨registry, started, loaded, begun⟩ := begin_eq recorded new args
  obtain ⟨plan, scheduled, rfl, resumed⟩ := beginPending_spec loaded
  refine ⟨plan, registry, scheduled, started, ?_⟩
  rw [begun]
  simp only [Option.isNone_some, Bool.false_and, Bool.false_eq_true, if_false]
  split
  · rw [beginSingle]
    dsimp only
    rw [resumed]
  · rw [beginMulti]
    dsimp only
    rw [resumed]

theorem begin_pending {robotId : RobotId} {size : Nat}
    (recorded : Recorded runtime sha256 store (some ⟨.pending, some robotId, size⟩))
    (new : store.registry = .fresh) (args : StartArgs) :
    ∃ plan, store.history.scheduled = some plan ∧ (store.begin runtime sha256 args).1 =
      .returned ⟨.pending, some robotId, plan, false⟩ := by
  obtain ⟨plan, registry, scheduled, -, begun⟩ := begin_pending_eq recorded new args
  exact ⟨plan, scheduled, congrArg Prod.fst begun⟩

/-- The registry, and the route files it was loaded from. -/
structure SameRoutes (before after : Store) : Prop where
  registry : after.registry = before.registry
  files : after.disk.routes = before.disk.routes

theorem sameRoutes_saveMetadata (store : Store) (metadata : IdentityMetadata)
    (write : DocumentWrite) :
    SameRoutes store (store.saveMetadata runtime sha256 metadata write).2 := by
  unfold saveMetadata
  split
  · exact ⟨rfl, rfl⟩
  · exact ⟨rfl, rfl⟩
  · exact ⟨rfl, rfl⟩

private theorem sameRoutes_savePlan (store : Store) (plan : List PlannedRoute)
    (write : DocumentWrite) :
    SameRoutes store (store.savePlan runtime sha256 plan write).2 := by
  unfold savePlan
  split
  · exact ⟨rfl, rfl⟩
  · exact ⟨rfl, rfl⟩
  · exact ⟨rfl, rfl⟩

theorem SameRoutes.andThen {first second : Type} {call : Call first}
    {next : first → Store → Call second} (same : SameRoutes store call.2)
    (then' : ∀ value after, SameRoutes store after → SameRoutes store (next value after).2) :
    SameRoutes store (call.andThen next).2 := by
  obtain ⟨ended, after⟩ := call
  cases ended with
  | returned value => exact then' value after same
  | raised error => exact same
  | crashed => exact same

theorem SameRoutes.trans {middle after : Store} (first : SameRoutes store middle)
    (second : SameRoutes middle after) : SameRoutes store after :=
  ⟨second.registry.trans first.registry, second.files.trans first.files⟩

theorem sameRoutes_beginPending (store : Store) (metadata : IdentityMetadata) :
    SameRoutes store (store.beginPending runtime sha256 metadata).2 := by
  unfold beginPending
  split
  · exact ⟨rfl, rfl⟩
  · exact ⟨rfl, rfl⟩

private theorem sameRoutes_beginSingle (store : Store) (write : DocumentWrite)
    (metadata : Option IdentityMetadata) :
    SameRoutes store (store.beginSingle runtime sha256 write metadata).2 := by
  cases metadata with
  | none => exact (sameRoutes_saveMetadata store _ write).andThen fun _ _ same => same
  | some metadata =>
    rw [beginSingle]
    split
    · exact ⟨rfl, rfl⟩
    · exact sameRoutes_beginPending store metadata
    · exact ⟨rfl, rfl⟩

private theorem sameRoutes_freeze (store : Store) (robotId : RobotId)
    (sessions : List (PyStr × PyStr × PyStr)) (planWrite metadataWrite : DocumentWrite) :
    SameRoutes store (store.freeze runtime sha256 robotId sessions planWrite metadataWrite).2 := by
  unfold freeze
  dsimp only
  split
  · exact ⟨rfl, rfl⟩
  · rename_i plan frozen
    have saved := @sameRoutes_savePlan runtime sha256
      { store with history.freezes := store.history.freezes + 1 } plan planWrite
    refine SameRoutes.andThen ⟨saved.registry, saved.files⟩ ?_
    intro _ planned same
    refine SameRoutes.andThen (same.trans (sameRoutes_saveMetadata planned _ _)) ?_
    exact fun _ saved same => ⟨same.registry, same.files⟩

private theorem sameRoutes_beginMulti (store : Store) (sessions : List (PyStr × PyStr × PyStr))
    (planWrite metadataWrite : DocumentWrite) (metadata : Option IdentityMetadata) :
    SameRoutes store
      (store.beginMulti runtime sha256 sessions planWrite metadataWrite metadata).2 := by
  unfold beginMulti
  split
  · exact ⟨rfl, rfl⟩
  · split
    · exact ⟨rfl, rfl⟩
    · split
      · exact ⟨rfl, rfl⟩
      · exact sameRoutes_beginPending store _
      · exact sameRoutes_freeze store _ sessions planWrite metadataWrite

/-- Whatever a start decides, its registry is the one that the route files hold. -/
theorem begin_routes (recorded : Recorded runtime sha256 store durable)
    (new : store.registry = .fresh) (args : StartArgs) :
    Registry.start runtime sha256 (store.begin runtime sha256 args).2.disk.routes =
      ((store.begin runtime sha256 args).2.registry, none) := by
  obtain ⟨registry, started, -, begun⟩ := begin_eq recorded new args
  suffices same : SameRoutes { store with metadata := durable, registry }
      (store.begin runtime sha256 args).2 by
    rw [same.registry, same.files]
    exact started
  rw [begun]
  split
  · exact ⟨rfl, rfl⟩
  · split
    · exact sameRoutes_beginSingle _ _ _
    · exact sameRoutes_beginMulti _ _ _ _ _

theorem saveMetadata_done (store : Store) {metadata : IdentityMetadata}
    (small : metadata.planSize ≤ maxPersistedRoutes) :
    ∃ file, loadMetadata runtime sha256 file = .ok (some metadata) ∧
      store.saveMetadata runtime sha256 metadata .done = (.returned (), { store with
        disk := { store.disk with metadata := file }
        metadata := some metadata }) := by
  have phase : Encodable metadata.phase.text := by
    cases metadata.phase with
    | single => exact encodable_py "single"
    | pending => exact encodable_py "pending"
    | migrated => exact encodable_py "migrated"
  have legacy : Encodable (metadata.legacyRobotId.elim [] (·.val)) := by
    cases metadata.legacyRobotId with
    | none => exact encodable_py ""
    | some robotId => exact encodable_robotId robotId
  have scalar : metadata.toBody.Scalar := by
    refine .obj (by simp [encodable_py]) ?_
    simp only [List.forall_mem_cons]
    exact ⟨.str phase, .str legacy, .int _, by simp⟩
  have depth := depth_metadata metadata
  have room := runtime.dumpsRoom
  obtain ⟨content, written⟩ := @documentBytes_ok runtime _ sha256 scalar (by omega)
  refine ⟨_, loadMetadata_written small written, ?_⟩
  simp only [saveMetadata, writeDocument, written]

/-- A write that does not go through leaves everything as it was. -/
theorem saveMetadata_undone (store : Store) (metadata : IdentityMetadata) {write : DocumentWrite}
    (undone : write ≠ .done) : (store.saveMetadata runtime sha256 metadata write).2 = store := by
  unfold saveMetadata writeDocument
  cases documentBytes runtime sha256 metadata.toBody with
  | error error => rfl
  | ok content =>
    cases write with
    | done => exact absurd rfl undone
    | failed => rfl
    | crashed => rfl

theorem savePlan_done (store : Store) {plan : List PlannedRoute}
    (texts : ∀ route ∈ plan, Encodable route.sessionKey.val ∧ Encodable route.chatId.val) :
    ∃ file, store.savePlan runtime sha256 plan .done = (.returned (), { store with
      disk := { store.disk with plan := file } }) := by
  have scalar : (planBody plan).Scalar := by
    refine .obj (by simp [encodable_py]) ?_
    simp only [List.forall_mem_cons]
    refine ⟨.arr ?_, by simp⟩
    simp only [List.forall_mem_map]
    intro route member
    refine .obj (by simp [encodable_py]) ?_
    simp only [List.forall_mem_cons]
    exact ⟨.str (texts route member).1, .str (encodable_chatType _), .str (texts route member).2,
      .int _, by simp⟩
  have depth := depth_planBody plan
  have room := runtime.dumpsRoom
  obtain ⟨content, written⟩ := @documentBytes_ok runtime _ sha256 scalar (by omega)
  refine ⟨some (.bytes content), ?_⟩
  simp only [savePlan, writeDocument, written]

private theorem flushRoutes_done (inv : store.registry.Invariant)
    (printable : store.registry.Printable) :
    ∃ files, Snapshots runtime sha256 files store.registry ∧
      store.flushRoutes runtime sha256 (.attempted .none) = (.returned true, { store with
        disk := { store.disk with routes := files }
        registry := store.registry.written }) := by
  obtain ⟨content, written⟩ := Registry.documentBytes_bodyLocked runtime sha256 inv printable
  obtain ⟨sum, summed⟩ : ∃ sum, checksum runtime sha256 store.registry.bodyLocked = .ok sum := by
    cases summed : checksum runtime sha256 store.registry.bodyLocked with
    | error error => simp [documentBytes, summed] at written
    | ok sum => exact ⟨sum, rfl⟩
  have through : Registry.writeSnapshot runtime sha256 store.registry store.registry.bodyLocked .none
      store.disk.routes =
        (.durable, (store.registry.rotated store.disk.routes).replace (.bytes content)) := by
    simp [Registry.writeSnapshot, Registry.writeStateDocument, summed, written]
  have flushed : store.registry.flush true .durable = (.ok true, store.registry.written) := by
    simp [Registry.flush]
  refine ⟨(store.registry.rotated store.disk.routes).replace (.bytes content),
    ⟨content, written, Generations.newest_replace _ _⟩, ?_⟩
  simp only [flushRoutes, through, flushed]

theorem bindAndFlush_done {robotId : RobotId} {plan : List PlannedRoute} {bound : Registry}
    (taken : store.registry.bindPlan robotId.val plan = (.ok true, bound)) (inv : bound.Invariant)
    (printable : bound.Printable) (conflict : String) :
    ∃ files, Snapshots runtime sha256 files bound ∧
      store.bindAndFlush runtime sha256 robotId plan conflict (.attempted .none) =
        (.returned (), { store with
          disk := { store.disk with routes := files }
          registry := bound.written }) := by
  obtain ⟨files, snapshots, flushed⟩ :=
    @flushRoutes_done runtime sha256 { store with registry := bound } inv printable
  refine ⟨files, snapshots, ?_⟩
  simp only [bindAndFlush, taken, flushed, Call.andThen, if_true]

end Store

end OctoChannel.Identity

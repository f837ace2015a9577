import OctoChannel.Identity.StateStore

namespace OctoChannel.Identity

open Foundation

variable {runtime : Json.Runtime} {sha256 : Bytes → Bytes}

private theorem printNat_short {value : Nat} (small : value ≤ maxPersistedRoutes) :
    (Json.printNat value).length ≤ Json.maxIntDigits := by
  unfold Json.printNat
  split
  · decide
  · rw [List.length_map, List.length_reverse]
    have bound : (Nat.digits 10 value).length ≤ 4 :=
      (Nat.digits_length_le_iff (by decide) value).mpr (lt_of_le_of_lt small (by decide))
    exact bound.trans (by decide)

private theorem ofStr?_text (phase : Phase) : Phase.ofStr? phase.text = some phase := by
  cases phase <;> decide

private theorem legacyOfJson?_toBody (legacyRobotId : Option RobotId) :
    IdentityMetadata.legacyOfJson? (.str (legacyRobotId.elim [] (·.val))) =
      some legacyRobotId := by
  cases legacyRobotId with
  | none => rfl
  | some robotId =>
    obtain ⟨text, valid⟩ := robotId
    cases text with
    | nil => exact absurd valid (by decide)
    | cons first rest => simp [IdentityMetadata.legacyOfJson?, RobotId.ofJson?, RobotId.ofStr?, valid]

private theorem nodup_metadata {phase legacyRobotId planSize : Json} :
    ([(py "phase", phase), (py "legacy_robot_id", legacyRobotId),
      (py "plan_size", planSize)].map Prod.fst).Nodup := by
  simp +decide

theorem IdentityMetadata.fromBody_sorted (metadata : IdentityMetadata) :
    fromBody metadata.toBody.sortKeys = .ok metadata := by
  obtain ⟨phase, legacyRobotId, planSize⟩ := metadata
  have fields : Json.field (py "phase") [(py "phase", .str phase.text),
        (py "legacy_robot_id", .str (legacyRobotId.elim [] (·.val))),
        (py "plan_size", .int planSize)] = .str phase.text ∧
      Json.field (py "legacy_robot_id") [(py "phase", .str phase.text),
        (py "legacy_robot_id", .str (legacyRobotId.elim [] (·.val))),
        (py "plan_size", .int planSize)] = .str (legacyRobotId.elim [] (·.val)) ∧
      Dict.lookup (py "plan_size") [(py "phase", .str phase.text),
        (py "legacy_robot_id", .str (legacyRobotId.elim [] (·.val))),
        (py "plan_size", .int planSize)] = some (Json.int planSize) := ⟨rfl, rfl, rfl⟩
  rw [toBody, Json.sortKeys_obj]
  simp only [fromBody, Json.field_sorted _ nodup_metadata, Json.lookup_sorted _ nodup_metadata,
    fields.1, fields.2.1, fields.2.2]
  simp [Json.sortKeys, phaseIn, ofStr?_text, legacyOfJson?_toBody, planSizeOfJson?]

theorem depth_metadata (metadata : IdentityMetadata) : metadata.toBody.depth ≤ 1 := by
  rw [IdentityMetadata.toBody, Json.depth_obj_le_iff]
  simp [Json.depth]

theorem loadMetadata_written {metadata : IdentityMetadata} {content : Bytes}
    (small : metadata.planSize ≤ maxPersistedRoutes)
    (written : documentBytes runtime sha256 metadata.toBody = .ok content) :
    loadMetadata runtime sha256 (some (.bytes content)) = .ok (some metadata) := by
  have good : Json.ReadsBack runtime metadata.toBody := by
    refine .obj nodup_metadata ?_
    simp only [List.forall_mem_cons]
    exact ⟨.str _, .str _, .int (printNat_short small), by simp⟩
  have depth := depth_metadata metadata
  have room := runtime.loadsRoom
  have read := readStateDocument_documentBytes good (by omega) written
  simp only [loadMetadata, read, IdentityMetadata.fromBody_sorted]
  rfl

private theorem nodup_plannedRoute {sessionKey chatType chatId channelType : Json} :
    ([(py "session_key", sessionKey), (py "chat_type", chatType), (py "chat_id", chatId),
      (py "channel_type", channelType)].map Prod.fst).Nodup := by
  simp +decide

theorem PlannedRoute.fromBody_sorted (route : PlannedRoute) :
    fromBody route.toBody.sortKeys = .ok (some route) := by
  rw [← route.fromBody_toBody, toBody, Json.sortKeys_obj]
  simp only [fromBody, Json.field_sorted _ nodup_plannedRoute, Registry.nonemptyOfJson?_sortKeys,
    Registry.chatTypeIn_sortKeys, Registry.channelType_ofJson?_sortKeys]

private theorem plannedRoutes_sorted (plan : List PlannedRoute) :
    plannedRoutes ((plan.map PlannedRoute.toBody).map Json.sortKeys) = .ok plan := by
  induction plan with
  | nil => rfl
  | cons route rest ih =>
    simp only [List.map_cons, plannedRoutes, route.fromBody_sorted, ih]
    rfl

theorem depth_planBody (plan : List PlannedRoute) : (planBody plan).depth ≤ 3 := by
  rw [planBody, Json.depth_obj_le_iff]
  simp only [List.forall_mem_cons, Json.depth_arr_le_iff, List.forall_mem_map]
  refine ⟨?_, by simp⟩
  intro route _
  rw [PlannedRoute.toBody, Json.depth_obj_le_iff]
  simp [Json.depth]

private theorem loadPlan_written {plan : List PlannedRoute} {content : Bytes}
    (written : documentBytes runtime sha256 (planBody plan) = .ok content) :
    loadPlan runtime sha256 (some (.bytes content)) = .ok plan := by
  have good : Json.ReadsBack runtime (planBody plan) := by
    refine .obj (by simp) ?_
    simp only [List.forall_mem_cons]
    refine ⟨.arr ?_, by simp⟩
    simp only [List.forall_mem_map]
    intro route _
    refine .obj nodup_plannedRoute ?_
    simp only [List.forall_mem_cons]
    exact ⟨.str _, .str _, .str _, .int (by cases route.channelType <;> decide), by simp⟩
  have depth := depth_planBody plan
  have room := runtime.loadsRoom
  have read := readStateDocument_documentBytes good (by omega) written
  have shape : (planBody plan).sortKeys = .obj [(py "entries",
      .arr ((plan.map PlannedRoute.toBody).map Json.sortKeys))] := by
    rw [planBody, Json.sortKeys_obj]
    simp [Json.sortKeys_arr]
  have entries : Json.field (py "entries") [(py "entries",
      .arr ((plan.map PlannedRoute.toBody).map Json.sortKeys))] =
        .arr ((plan.map PlannedRoute.toBody).map Json.sortKeys) := rfl
  simp only [loadPlan, read, shape, entries, Registry.iterate, plannedRoutes_sorted]

private theorem freezeFrom_length {planned : Dict SessionKey PlannedRoute}
    {sessions : List (PyStr × PyStr × PyStr)} {plan : List PlannedRoute}
    (small : planned.size ≤ maxPersistedRoutes) (frozen : freezeFrom planned sessions = .ok plan) :
    plan.length ≤ maxPersistedRoutes := by
  induction sessions generalizing planned with
  | nil =>
    cases frozen
    rw [List.length_map]
    exact small
  | cons session rest ih =>
    rw [freezeFrom] at frozen
    split at frozen
    · dsimp only at frozen
      split at frozen
      · cases frozen
      · rename_i room
        exact ih (Nat.le_of_not_lt room) frozen
    · exact ih small frozen

/-- A plan is frozen only when the route table could hold it. -/
theorem freezePlan_length {sessions : List (PyStr × PyStr × PyStr)} {plan : List PlannedRoute}
    (frozen : freezePlan sessions = .ok plan) : plan.length ≤ maxPersistedRoutes :=
  freezeFrom_length (Nat.zero_le _) frozen

namespace Store

variable {store : Store}

theorem saveMetadata_case (store : Store) {metadata : IdentityMetadata}
    (small : metadata.planSize ≤ maxPersistedRoutes) (write : DocumentWrite) :
    (∃ error, store.saveMetadata runtime sha256 metadata write = (.raised error, store)) ∨
    store.saveMetadata runtime sha256 metadata write = (.crashed, store) ∨
    ∃ file, loadMetadata runtime sha256 file = .ok (some metadata) ∧
      store.saveMetadata runtime sha256 metadata write = (.returned (), { store with
        disk := { store.disk with metadata := file }
        metadata := some metadata }) := by
  unfold saveMetadata writeDocument
  cases written : documentBytes runtime sha256 metadata.toBody with
  | error error => exact .inl ⟨error, rfl⟩
  | ok content =>
    cases write with
    | done => exact .inr (.inr ⟨_, loadMetadata_written small written, rfl⟩)
    | failed => exact .inl ⟨_, rfl⟩
    | crashed => exact .inr (.inl rfl)

theorem savePlan_case (store : Store) (plan : List PlannedRoute) (write : DocumentWrite) :
    (∃ error, store.savePlan runtime sha256 plan write = (.raised error, store)) ∨
    store.savePlan runtime sha256 plan write = (.crashed, store) ∨
    ∃ file, loadPlan runtime sha256 file = .ok plan ∧
      store.savePlan runtime sha256 plan write = (.returned (), { store with
        disk := { store.disk with plan := file } }) := by
  unfold savePlan writeDocument
  cases written : documentBytes runtime sha256 (planBody plan) with
  | error error => exact .inl ⟨error, rfl⟩
  | ok content =>
    cases write with
    | done => exact .inr (.inr ⟨_, loadPlan_written written, rfl⟩)
    | failed => exact .inl ⟨_, rfl⟩
    | crashed => exact .inr (.inl rfl)

/-- The newest route snapshot is the document of this registry. -/
def Snapshots (runtime : Json.Runtime) (sha256 : Bytes → Bytes) (files : Registry.Files)
    (source : Registry) : Prop :=
  ∃ content, documentBytes runtime sha256 source.bodyLocked = .ok content ∧
    files.newest = some (.bytes content)

/-- Clearing the plan leaves the metadata file alone, and the registry. -/
theorem clearPlan_metadata (store : Store) (removed : Bool) :
    (store.clearPlan removed).disk.metadata = store.disk.metadata := by
  unfold clearPlan
  split
  · rfl
  · rfl

theorem clearPlan_registry (store : Store) (removed : Bool) :
    (store.clearPlan removed).registry = store.registry := by
  unfold clearPlan
  split
  · rfl
  · rfl

/-- A call that touched nothing but the registry and the route files. -/
structure Rerouted (runtime : Json.Runtime) (sha256 : Bytes → Bytes) (before after : Store) :
    Prop where
  metadataFile : after.disk.metadata = before.disk.metadata
  planFile : after.disk.plan = before.disk.plan
  metadata : after.metadata = before.metadata
  history : after.history = before.history
  invariant : after.registry.Invariant
  routes : after.disk.routes.newest = before.disk.routes.newest ∨
    ∃ source : Registry, source.Invariant ∧ Snapshots runtime sha256 after.disk.routes source

private theorem flushRoutes_case (inv : store.registry.Invariant) (write : RouteWrite) :
    Rerouted runtime sha256 store (store.flushRoutes runtime sha256 write).2 ∧
      ((store.flushRoutes runtime sha256 write).1 = .returned true →
        Snapshots runtime sha256 (store.flushRoutes runtime sha256 write).2.disk.routes
          store.registry) := by
  cases write with
  | cutOff cut =>
    refine ⟨?_, fun ended => by cases ended⟩
    refine { metadataFile := rfl, planFile := rfl, metadata := rfl, history := rfl,
             invariant := inv, routes := ?_ }
    rcases @Registry.cutOff_newest runtime sha256 store.registry store.registry.bodyLocked
      store.disk.routes cut with kept | ⟨content, written, replaced⟩
    · exact .inl kept
    · exact .inr ⟨_, inv, content, written, replaced⟩
  | attempted fault =>
    have newest := @Registry.writeSnapshot_newest runtime sha256 store.registry
      store.registry.bodyLocked fault store.disk.routes
    revert newest
    unfold flushRoutes
    dsimp only
    rcases Registry.writeSnapshot runtime sha256 store.registry store.registry.bodyLocked fault
      store.disk.routes with ⟨ending, files⟩
    intro newest
    have routes : files.newest = store.disk.routes.newest ∨
        ∃ source : Registry, source.Invariant ∧ Snapshots runtime sha256 files source :=
      newest.imp And.right fun ⟨content, written, replaced⟩ => ⟨_, inv, content, written, replaced⟩
    cases ending with
    | durable =>
      have flushed : store.registry.flush true .durable = (.ok true, store.registry.written) := by
        simp [Registry.flush]
      dsimp only
      rw [flushed]
      refine ⟨⟨rfl, rfl, rfl, rfl, inv.written, routes⟩, fun _ => ?_⟩
      obtain ⟨content, written, replaced⟩ := newest.resolve_left fun unreported => unreported.1 rfl
      exact ⟨content, written, replaced⟩
    | failed =>
      have flushed : store.registry.flush true .failed =
          (.ok false, { store.registry with dirty := true }) := by
        simp [Registry.flush]
      dsimp only
      rw [flushed]
      exact ⟨⟨rfl, rfl, rfl, rfl, inv.withDirty true, routes⟩, fun ended => by cases ended⟩
    | raised error =>
      have flushed : store.registry.flush true (.raised error) =
          (.error error, { store.registry with dirty := false }) := by
        simp [Registry.flush]
      dsimp only
      rw [flushed]
      exact ⟨⟨rfl, rfl, rfl, rfl, inv.withDirty false, routes⟩, fun ended => by cases ended⟩

/-- A plan that was bound and flushed is in the newest snapshot as it was bound. -/
theorem bindAndFlush_case (inv : store.registry.Invariant) (robotId : RobotId)
    (plan : List PlannedRoute) (conflict : String) (write : RouteWrite) :
    Rerouted runtime sha256 store
        (store.bindAndFlush runtime sha256 robotId plan conflict write).2 ∧
      ((store.bindAndFlush runtime sha256 robotId plan conflict write).1 = .returned () →
        ∃ bound, store.registry.bindPlan robotId.val plan = (.ok true, bound) ∧
          Snapshots runtime sha256
            (store.bindAndFlush runtime sha256 robotId plan conflict write).2.disk.routes bound) := by
  have bound := inv.bindPlan robotId.val plan
  unfold bindAndFlush
  rcases tried : store.registry.bindPlan robotId.val plan with ⟨answer, registry⟩
  rw [tried] at bound
  cases answer with
  | error error =>
    exact ⟨⟨rfl, rfl, rfl, rfl, bound, .inl rfl⟩, fun ended => by cases ended⟩
  | ok accepted =>
    cases accepted with
    | false => exact ⟨⟨rfl, rfl, rfl, rfl, bound, .inl rfl⟩, fun ended => by cases ended⟩
    | true =>
      dsimp only
      obtain ⟨rerouted, snapshots⟩ := @flushRoutes_case runtime sha256 { store with registry } bound
        write
      revert rerouted snapshots
      rcases flushRoutes runtime sha256 { store with registry } write with ⟨ending, flushed⟩
      intro rerouted snapshots
      have same : Rerouted runtime sha256 store flushed := { rerouted with }
      cases ending with
      | raised error => exact ⟨same, fun ended => by cases ended⟩
      | crashed => exact ⟨same, fun ended => by cases ended⟩
      | returned answer =>
        cases answer with
        | false => exact ⟨same, fun ended => by cases ended⟩
        | true => exact ⟨same, fun _ => ⟨registry, rfl, snapshots rfl⟩⟩

/-- The newest route snapshot gives every route of the plan to the robot. -/
def Pinned (runtime : Json.Runtime) (sha256 : Bytes → Bytes) (files : Registry.Files)
    (robotId : RobotId) (plan : List PlannedRoute) : Prop :=
  ∃ source : Registry, source.Invariant ∧ Snapshots runtime sha256 files source ∧
    ∀ route ∈ plan, source.Owns robotId.val route

/-- The metadata on disk, with the documents and the attempts that go with it. -/
inductive Stage (runtime : Json.Runtime) (sha256 : Bytes → Bytes) (disk : Disk)
    (history : History) : Option IdentityMetadata → Prop where
  | unknown (unscheduled : history.scheduled = none) (untried : history.applied = []) :
      Stage runtime sha256 disk history none
  | single (legacyRobotId : Option RobotId) (unscheduled : history.scheduled = none)
      (untried : history.applied = []) :
      Stage runtime sha256 disk history (some ⟨.single, legacyRobotId, 0⟩)
  | pending (robotId : RobotId) (plan : List PlannedRoute)
      (scheduled : history.scheduled = some plan)
      (tried : ∀ attempt ∈ history.applied, attempt = (robotId, plan))
      (planned : loadPlan runtime sha256 disk.plan = .ok plan)
      (small : plan.length ≤ maxPersistedRoutes) :
      Stage runtime sha256 disk history (some ⟨.pending, some robotId, plan.length⟩)
  | replaced (robotId : RobotId) (size : Nat) (unscheduled : history.scheduled = none)
      (untried : history.applied = []) :
      Stage runtime sha256 disk history (some ⟨.migrated, some robotId, size⟩)
  | migrated (robotId : RobotId) (plan : List PlannedRoute)
      (scheduled : history.scheduled = some plan)
      (tried : ∀ attempt ∈ history.applied, attempt = (robotId, plan))
      (pinned : Pinned runtime sha256 disk.routes robotId plan) :
      Stage runtime sha256 disk history (some ⟨.migrated, some robotId, plan.length⟩)

/-- What holds between any two writes, whatever the process still remembers. -/
structure Recorded (runtime : Json.Runtime) (sha256 : Bytes → Bytes) (store : Store)
    (durable : Option IdentityMetadata) : Prop where
  invariant : store.registry.Invariant
  read : loadMetadata runtime sha256 store.disk.metadata = .ok durable
  routes : store.disk.routes.newest = none ∨
    ∃ source : Registry, source.Invariant ∧ Snapshots runtime sha256 store.disk.routes source
  stage : Stage runtime sha256 store.disk store.history durable

/-- The durable phase moves forward, one documented move at a time. -/
inductive Moves : Option Phase → Option Phase → Prop where
  | stay (phase : Option Phase) : Moves phase phase
  | enter : Moves none (some .single)
  | freeze : Moves (some .single) (some .pending)
  | protect : Moves (some .single) (some .migrated)
  | finish : Moves (some .pending) (some .migrated)

theorem Moves.of_migrated {next : Option Phase} (moves : Moves (some .migrated) next) :
    next = some .migrated := by
  cases moves with
  | stay => rfl

/-- What one call may do to the durable state. -/
structure Advances (before after : Store) (durable later : Option IdentityMetadata) : Prop where
  phase : Moves (durable.map (·.phase)) (later.map (·.phase))
  legacy : ∀ robotId, durable.bind (·.legacyRobotId) = some robotId →
    later.bind (·.legacyRobotId) = some robotId
  scheduled : ∀ plan, before.history.scheduled = some plan → after.history.scheduled = some plan
  settled : durable.map (·.phase) = some .migrated →
    after.history.freezes = before.history.freezes ∧ after.history.applied = before.history.applied

variable {after : Store} {durable : Option IdentityMetadata}

theorem Advances.stay (durable : Option IdentityMetadata)
    (scheduled : after.history.scheduled = store.history.scheduled)
    (settled : durable.map (·.phase) = some .migrated → after.history = store.history) :
    Advances store after durable durable where
  phase := .stay _
  legacy _ named := named
  scheduled plan frozen := scheduled.trans frozen
  settled done := by rw [settled done]; exact ⟨rfl, rfl⟩

theorem Recorded.rerouted (recorded : Recorded runtime sha256 store durable)
    (rerouted : Rerouted runtime sha256 store after)
    (open' : durable.map (·.phase) ≠ some .migrated) : Recorded runtime sha256 after durable where
  invariant := rerouted.invariant
  read := by
    rw [rerouted.metadataFile]
    exact recorded.read
  routes := by
    rcases rerouted.routes with kept | written
    · simp only [Snapshots, kept]
      exact recorded.routes
    · exact .inr written
  stage := by
    have stage := recorded.stage
    cases stage with
    | unknown unscheduled untried =>
      exact .unknown (rerouted.history ▸ unscheduled) (rerouted.history ▸ untried)
    | single legacyRobotId unscheduled untried =>
      exact .single _ (rerouted.history ▸ unscheduled) (rerouted.history ▸ untried)
    | pending robotId plan scheduled tried planned small =>
      exact .pending _ _ (rerouted.history ▸ scheduled) (rerouted.history ▸ tried)
        (rerouted.planFile ▸ planned) small
    | replaced | migrated => exact absurd rfl open'

end Store

end OctoChannel.Identity

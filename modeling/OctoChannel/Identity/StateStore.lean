import OctoChannel.Identity.Durability

namespace OctoChannel.Identity

open Foundation

inductive Phase where
  | single
  | pending
  | migrated
  deriving DecidableEq

def Phase.text : Phase → PyStr
  | .single => py "single"
  | .pending => py "pending"
  | .migrated => py "migrated"

def Phase.ofStr? (value : PyStr) : Option Phase :=
  if value = py "single" then some .single
  else if value = py "pending" then some .pending
  else if value = py "migrated" then some .migrated
  else none

/-- `value in _PHASES`: a list or an object cannot be hashed. -/
def phaseIn : Json → Except PyError (Option Phase)
  | .str text => .ok (Phase.ofStr? text)
  | .arr _ => .error (.typeError "unhashable type: 'list'")
  | .obj _ => .error (.typeError "unhashable type: 'dict'")
  | _ => .ok none

/-- The sentinel of a profile; no legacy robot id is the empty string on disk. -/
structure IdentityMetadata where
  phase : Phase
  legacyRobotId : Option RobotId
  planSize : Nat
  deriving DecidableEq

namespace IdentityMetadata

def toBody (metadata : IdentityMetadata) : Json :=
  .obj [(py "phase", .str metadata.phase.text),
    (py "legacy_robot_id", .str (metadata.legacyRobotId.elim [] (·.val))),
    (py "plan_size", .int metadata.planSize)]

/-- `body.get("legacy_robot_id") or ""`, and its check: `none` for a malformed id. -/
def legacyOfJson? : Json → Option (Option RobotId)
  | .null => some none
  | .bool false => some none
  | .int 0 => some none
  | .float text => if text = "0.0" ∨ text = "-0.0" then some none else none
  | .str [] => some none
  | .arr [] => some none
  | .obj [] => some none
  | value => (RobotId.ofJson? value).map some

def planSizeOfJson? : Json → Option Nat
  | .int value => if 0 ≤ value then some value.toNat else none
  | _ => none

def fromBody : Json → Except PyError IdentityMetadata
  | .obj members =>
    match phaseIn (Json.field (py "phase") members) with
    | .error error => .error error
    | .ok none => .error (.runtimeError "identity metadata phase is unknown")
    | .ok (some phase) =>
      match legacyOfJson? (Json.field (py "legacy_robot_id") members) with
      | none => .error (.runtimeError "identity metadata legacy id is malformed")
      | some legacyRobotId =>
        match planSizeOfJson? ((Dict.lookup (py "plan_size") members).getD (.int 0)) with
        | none => .error (.runtimeError "identity metadata plan size is malformed")
        | some planSize => .ok { phase, legacyRobotId, planSize }
  | _ => .error (.runtimeError "identity metadata is not an object")

end IdentityMetadata

/-- The decision of a start, taken before any listener runs. -/
structure IdentityStartup where
  phase : Phase
  legacyRobotId : Option RobotId
  plan : List PlannedRoute
  soleIdentityMode : Bool

structure Disk where
  metadata : Option FileContent
  plan : Option FileContent
  routes : Registry.Files

/-- What statements about runs refer to; no modelled function reads it. -/
structure History where
  /-- How often a plan was frozen. -/
  freezes : Nat
  /-- The plan with which `pending` became durable. -/
  scheduled : Option (List PlannedRoute)
  /-- The plans that `apply_legacy_plan` tried to bind. -/
  applied : List (RobotId × List PlannedRoute)

/-- The store of one process: its files, its route registry, its `_metadata`. -/
structure Store where
  disk : Disk
  registry : Registry
  metadata : Option IdentityMetadata
  history : History

/-- How one durable document write goes: through, with an `OSError`, or the process
dies before it. -/
inductive DocumentWrite where
  | done
  | failed
  | crashed

/-- A write of the route snapshot, down to its file operations. -/
inductive RouteWrite where
  | attempted (fault : Registry.Fault)
  | cutOff (cut : Registry.Cut)

inductive Ended (kind : Type) where
  | returned (value : kind)
  | raised (error : PyError)
  | crashed

abbrev Call (kind : Type) := Ended kind × Store

def Call.andThen {kind other : Type} (first : Call kind) (next : kind → Store → Call other) :
    Call other :=
  match first with
  | (.returned value, store) => next value store
  | (.raised error, store) => (.raised error, store)
  | (.crashed, store) => (.crashed, store)

variable (runtime : Json.Runtime) (sha256 : Bytes → Bytes)

def loadMetadata (file : Option FileContent) : Except PyError (Option IdentityMetadata) :=
  match readStateDocument runtime sha256 file with
  | .error error => .error error
  | .ok .missing => .ok none
  | .ok .corrupt => .error (.runtimeError "Octo identity-routing metadata is unusable (corrupt)")
  | .ok .unsupported =>
    .error (.runtimeError "Octo identity-routing metadata is unusable (unsupported)")
  | .ok (.ok body) => (IdentityMetadata.fromBody body).map some

def planBody (plan : List PlannedRoute) : Json :=
  .obj [(py "entries", .arr (plan.map PlannedRoute.toBody))]

/-- The loop of `load_plan`: malformed records are passed over. -/
def plannedRoutes : List Json → Except PyError (List PlannedRoute)
  | [] => .ok []
  | record :: rest =>
    match PlannedRoute.fromBody record with
    | .error error => .error error
    | .ok none => plannedRoutes rest
    | .ok (some route) => (plannedRoutes rest).map (route :: ·)

def loadPlan (file : Option FileContent) : Except PyError (List PlannedRoute) :=
  match readStateDocument runtime sha256 file with
  | .error error => .error error
  | .ok .missing => .ok []
  | .ok .corrupt => .error (.runtimeError "Octo legacy migration plan is unusable (corrupt)")
  | .ok .unsupported => .error (.runtimeError "Octo legacy migration plan is unusable (unsupported)")
  | .ok (.ok (.obj members)) =>
    match Registry.iterate (Json.field (py "entries") members) with
    | .error error => .error error
    | .ok records => plannedRoutes records
  | .ok (.ok _) => .error (.runtimeError "Octo legacy migration plan is malformed")

def loadPendingPlan (file : Option FileContent) (metadata : IdentityMetadata) :
    Except PyError (List PlannedRoute) :=
  match loadPlan runtime sha256 file with
  | .error error => .error error
  | .ok plan =>
    if plan.length ≠ metadata.planSize then
      .error (.runtimeError "Octo legacy migration plan size does not match durable metadata")
    else .ok plan

/-- `write_state_document` to one file. -/
def writeDocument (body : Json) (write : DocumentWrite) (file : Option FileContent) :
    Ended Unit × Option FileContent :=
  match documentBytes runtime sha256 body with
  | .error error => (.raised error, file)
  | .ok content =>
    match write with
    | .done => (.returned (), some (.bytes content))
    | .failed => (.raised .osError, file)
    | .crashed => (.crashed, file)

namespace Store

variable (store : Store)

def saveMetadata (metadata : IdentityMetadata) (write : DocumentWrite) : Call Unit :=
  match writeDocument runtime sha256 metadata.toBody write store.disk.metadata with
  | (.returned _, file) =>
    (.returned (), { store with
      disk := { store.disk with metadata := file }
      metadata := some metadata })
  | (.raised error, _) => (.raised error, store)
  | (.crashed, _) => (.crashed, store)

def savePlan (plan : List PlannedRoute) (write : DocumentWrite) : Call Unit :=
  match writeDocument runtime sha256 (planBody plan) write store.disk.plan with
  | (.returned _, file) => (.returned (), { store with disk := { store.disk with plan := file } })
  | (.raised error, _) => (.raised error, store)
  | (.crashed, _) => (.crashed, store)

/-- `clear_plan`; a failed removal is only logged. -/
def clearPlan (removed : Bool) : Store :=
  if removed then { store with disk := { store.disk with plan := none } } else store

/-- `routes.flush(force=True)` -/
def flushRoutes (write : RouteWrite) : Call Bool :=
  match write with
  | .attempted fault =>
    let (ending, files) := Registry.writeSnapshot runtime sha256 store.registry
      store.registry.bodyLocked fault store.disk.routes
    let written := { store with disk := { store.disk with routes := files } }
    match store.registry.flush true ending with
    | (.ok answer, registry) => (.returned answer, { written with registry })
    | (.error error, registry) => (.raised error, { written with registry })
  | .cutOff cut =>
    (.crashed, { store with disk := { store.disk with
      routes := Registry.cutOff runtime sha256 store.registry store.registry.bodyLocked
        store.disk.routes cut } })

/-- `has_routing_evidence`, the existence of card bindings being given. -/
def hasRoutingEvidence (cards : Bool) : Bool :=
  store.disk.routes.current.isSome || store.disk.routes.backup.isSome ||
    store.disk.plan.isSome || cards

def beginPending (metadata : IdentityMetadata) : Call IdentityStartup :=
  match loadPendingPlan runtime sha256 store.disk.plan metadata with
  | .error error => (.raised error, store)
  | .ok plan => (.returned ⟨.pending, metadata.legacyRobotId, plan, false⟩, store)

def beginSingle (write : DocumentWrite) : Option IdentityMetadata → Call IdentityStartup
  | none => (store.saveMetadata runtime sha256 ⟨.single, none, 0⟩ write).andThen fun _ saved =>
    (.returned ⟨.single, none, [], true⟩, saved)
  | some metadata =>
    match metadata.phase with
    | .single => (.returned ⟨.single, metadata.legacyRobotId, [], true⟩, store)
    | .pending => store.beginPending runtime sha256 metadata
    | .migrated => (.returned ⟨.migrated, metadata.legacyRobotId, [], false⟩, store)

def refuseMulti : Call IdentityStartup :=
  (.raised (.runtimeError ("first multi-token startup requires one successful start with " ++
    "the existing OCTO_BOT_TOKEN alone; refusing to guess the legacy Octo identity")), store)

/-- The plan is durable before the phase that refers to it. -/
def freeze (legacyRobotId : RobotId) (sessions : List (PyStr × PyStr × PyStr))
    (planWrite metadataWrite : DocumentWrite) : Call IdentityStartup :=
  let store := { store with history.freezes := store.history.freezes + 1 }
  match freezePlan sessions with
  | .error error => (.raised error, store)
  | .ok plan =>
    (store.savePlan runtime sha256 plan planWrite).andThen fun _ planned =>
      (planned.saveMetadata runtime sha256 ⟨.pending, some legacyRobotId, plan.length⟩
        metadataWrite).andThen fun _ saved =>
          (.returned ⟨.pending, some legacyRobotId, plan, false⟩,
            { saved with history.scheduled := some plan })

def beginMulti (sessions : List (PyStr × PyStr × PyStr)) (planWrite metadataWrite : DocumentWrite) :
    Option IdentityMetadata → Call IdentityStartup
  | none => store.refuseMulti
  | some metadata =>
    match metadata.legacyRobotId with
    | none => store.refuseMulti
    | some legacyRobotId =>
      match metadata.phase with
      | .migrated => (.returned ⟨.migrated, some legacyRobotId, [], false⟩, store)
      | .pending => store.beginPending runtime sha256 metadata
      | .single => store.freeze runtime sha256 legacyRobotId sessions planWrite metadataWrite

/-- What the environment decides about one start. -/
structure StartArgs where
  tokenCount : Nat
  sessions : List (PyStr × PyStr × PyStr)
  cards : Bool
  planWrite : DocumentWrite
  metadataWrite : DocumentWrite

def begin (args : StartArgs) : Call IdentityStartup :=
  match loadMetadata runtime sha256 store.disk.metadata with
  | .error error => (.raised error, store)
  | .ok metadata =>
    let store := { store with metadata }
    match store.registry.load (readStateDocument runtime sha256 store.disk.routes.current)
        (readStateDocument runtime sha256 store.disk.routes.backup) with
    | (registry, some error) => (.raised error, { store with registry })
    | (registry, none) =>
      let store := { store with registry }
      if metadata.isNone && store.hasRoutingEvidence args.cards then
        (.raised (.runtimeError ("Octo identity-routing metadata is missing while route state " ++
          "exists; refusing to guess the previous identity")), store)
      else if args.tokenCount ≤ 1 then
        store.beginSingle runtime sha256 args.metadataWrite metadata
      else
        store.beginMulti runtime sha256 args.sessions args.planWrite args.metadataWrite metadata

def recordSingleIdentity (robotId : RobotId) (write : DocumentWrite) : Call Unit :=
  let metadata := store.metadata.getD ⟨.single, none, 0⟩
  if metadata.phase ≠ .single then (.returned (), store)
  else
    match metadata.legacyRobotId with
    | some legacyRobotId =>
      if legacyRobotId ≠ robotId then
        (.raised (.runtimeError ("configured Octo token no longer registers as this " ++
          "profile's stable single identity")), store)
      else (.returned (), store)
    | none => store.saveMetadata runtime sha256 ⟨.single, some robotId, 0⟩ write

/-- The steps that protection and migration share: bind the plan, flush the routes,
and only then make `migrated` durable. -/
def bindAndFlush (robotId : RobotId) (plan : List PlannedRoute) (conflict : String)
    (write : RouteWrite) : Call Unit :=
  match store.registry.bindPlan robotId.val plan with
  | (.error error, registry) => (.raised error, { store with registry })
  | (.ok false, registry) => (.raised (.runtimeError conflict), { store with registry })
  | (.ok true, registry) =>
    ({ store with registry }.flushRoutes runtime sha256 write).andThen fun flushed saved =>
      if flushed then (.returned (), saved) else (.raised .osError, saved)

/-- `self._metadata or self.load_metadata()` -/
def currentMetadata : Except PyError (Option IdentityMetadata) :=
  match store.metadata with
  | some metadata => .ok (some metadata)
  | none => loadMetadata runtime sha256 store.disk.metadata

def protectReplacedSingleIdentity (previous : RobotId) (sessions : List (PyStr × PyStr × PyStr))
    (routeWrite : RouteWrite) (metadataWrite : DocumentWrite) : Call Nat :=
  match store.currentMetadata runtime sha256 with
  | .error error => (.raised error, store)
  | .ok metadata =>
    let store := { store with metadata }
    if metadata.all fun metadata =>
        metadata.phase ≠ .single || metadata.legacyRobotId ≠ some previous then
      (.raised (.runtimeError
        "single-identity replacement state changed during protection"), store)
    else
      let store := { store with history.freezes := store.history.freezes + 1 }
      match freezePlan sessions with
      | .error error => (.raised error, store)
      | .ok plan =>
        (store.bindAndFlush runtime sha256 previous plan
          "legacy routes conflict while protecting replaced identity" routeWrite).andThen
            fun _ flushed =>
              (flushed.saveMetadata runtime sha256 ⟨.migrated, some previous, plan.length⟩
                metadataWrite).andThen fun _ saved => (.returned plan.length, saved)

def applyLegacyPlan (robotId : RobotId) (plan : List PlannedRoute) (routeWrite : RouteWrite)
    (metadataWrite : DocumentWrite) (removed : Bool) : Call Unit :=
  let store := { store with history.applied := (robotId, plan) :: store.history.applied }
  (store.bindAndFlush runtime sha256 robotId plan
    "legacy migration conflicts with an existing identity route" routeWrite).andThen
      fun _ flushed =>
        (flushed.saveMetadata runtime sha256 ⟨.migrated, some robotId, plan.length⟩
          metadataWrite).andThen fun _ saved => (.returned (), saved.clearPlan removed)

end Store

end OctoChannel.Identity

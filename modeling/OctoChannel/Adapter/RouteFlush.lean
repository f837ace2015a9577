import OctoChannel.Foundation.Runs
import OctoChannel.Identity.Durability
import OctoChannel.Identity.Ownership

/-! Saving routes in the background: the dirty flag, the steps of `flush` under its
lock, and the one flush task that inbound messages and its own end schedule. -/

namespace OctoChannel.Adapter.RouteFlush

open Foundation Identity Identity.Registry

variable (runtime : Json.Runtime) (sha256 : Bytes → Bytes)

/-- How a snapshot write ends, and the last file operation before it fails: with an
`OSError`, or with any other exception. -/
inductive Landing where
  | durable
  | failed (cut : Cut)
  | raised (error : PyError) (other : error ≠ .osError) (cut : Cut)

/-- `_write_snapshot`: what it returns or raises, and the files it leaves. A body
that cannot be printed or encoded raises once the current file has been renamed. -/
def land (registry : Registry) (body : Json) (files : Files) : Landing → WriteEnd × Files
  | .failed .started => (.failed, files)
  | .raised error _ .started => (.raised error, files)
  | landing =>
    match documentBytes runtime sha256 body with
    | .error error => (.raised error, registry.rotated files)
    | .ok content =>
      let replaced := (registry.rotated files).replace (.bytes content)
      match landing with
      | .durable => (.durable, replaced)
      | .failed .replaced => (.failed, replaced)
      | .failed _ => (.failed, registry.rotated files)
      | .raised error _ .replaced => (.raised error, replaced)
      | .raised error _ _ => (.raised error, registry.rotated files)

/-- The write gets as far as putting the new file in place. -/
def InPlace (body : Json) : Landing → Prop
  | .durable | .failed .replaced | .raised _ _ .replaced =>
    ∃ content, documentBytes runtime sha256 body = .ok content
  | _ => False

/-- A `flush` that holds the flush lock: the body it took and whether the registry
was dirty then; `remarks` once its write has failed. -/
structure Flight where
  body : Json
  wasDirty : Bool
  ofTask : Bool
  remarks : Bool

/-- The task in `_route_flush_tasks`. -/
inductive FlushTask where
  | queued
  | writing
  | finished
  | failed
  | cancelled
  deriving DecidableEq

/-- The gateway loop; a process has only one. -/
inductive Loop where
  | absent
  | running
  | closed
  deriving DecidableEq

/-- What the route state of one adapter consists of. -/
structure State where
  registry : Registry
  files : Files
  flight : Option Flight
  task : Option FlushTask
  loop : Loop
  disconnecting : Bool
  soleIdentityMode : Bool

/-- What `bind_inbound_route` is called with: `sessionKey` is missing when its
derivation failed, `frozen` when a pending migration keeps the target for another
robot. -/
structure Inbound where
  robotId : PyStr
  sessionKey : Option PyStr
  channelType : ChannelType
  chatId : PyStr
  wireChatId : Option PyStr
  frozen : Bool

def chatTypeForChannel (channelType : ChannelType) : ChatType :=
  if channelType = .DM then .dm else .group

/-- The `bind` call of `bind_inbound_route`, when it gets that far. -/
def Inbound.bindArgs? (inbound : Inbound) : Option BindArgs :=
  if inbound.robotId = [] ∨ inbound.frozen then none
  else inbound.sessionKey.map fun sessionKey =>
    { robotId := inbound.robotId
      sessionKey := some sessionKey
      chatType := (chatTypeForChannel inbound.channelType).text
      chatId := inbound.chatId
      channelType := inbound.channelType.code
      wireChatId := inbound.wireChatId
      wireChatIdKnown := true }

namespace State

def start (soleIdentityMode : Bool) : State where
  registry := fresh
  files := .absent
  flight := none
  task := none
  loop := .absent
  disconnecting := false
  soleIdentityMode := soleIdentityMode

/-- `_schedule_route_flush` -/
def scheduleRouteFlush (state : State) : State :=
  if state.loop ≠ .running ∨ state.soleIdentityMode then state
  else if state.task.isSome then state
  else { state with task := some .queued }

/-- A `bind` that changed or refused the route for good schedules a flush. -/
def bindInboundRoute (state : State) (inbound : Inbound) : State :=
  if state.soleIdentityMode then state
  else
    match inbound.bindArgs? with
    | none => state
    | some args =>
      let (result, registry) := state.registry.bind args
      let bound := { state with registry }
      match result with
      | .ok .bound => bound.scheduleRouteFlush
      | .ok .conflict => bound.scheduleRouteFlush
      | .ok .idempotent => bound
      | .ok .capacity => bound
      | .error _ => bound

/-- The first half of `flush`, under both locks. -/
def beginFlush (state : State) (ofTask : Bool) : State :=
  { state with
    registry := { state.registry with dirty := false }
    flight := some ⟨state.registry.bodyLocked, state.registry.dirty, ofTask, false⟩ }

/-- A running task comes to its end. -/
def endTask (ofTask : Bool) (stage : FlushTask) (task : Option FlushTask) : Option FlushTask :=
  if ofTask ∧ task = some .writing then some stage else task

/-- The snapshot write of a flush ends; only a failure leaves it something to do. -/
def endWrite (state : State) (flight : Flight) (landing : Landing) : State :=
  let (write, files) := land runtime sha256 state.registry flight.body state.files landing
  match write with
  | .durable =>
    { state with
      registry := { state.registry with restoredFromBackup := false, snapshotCorrupt := false }
      files := files
      flight := none
      task := endTask flight.ofTask .finished state.task }
  | .failed => { state with files := files, flight := some { flight with remarks := true } }
  | .raised _ =>
    { state with
      files := files
      flight := none
      task := endTask flight.ofTask .failed state.task }

/-- The done callback of the flush task. -/
def done (state : State) : State :=
  match state.task with
  | some .finished =>
    let discarded := { state with task := none }
    if state.registry.dirty && !state.disconnecting then discarded.scheduleRouteFlush
    else discarded
  | some .failed => { state with task := none }
  | some .cancelled => { state with task := none }
  | _ => state

end State

/-- The steps of the callers, of `flush` and of the flush task, each under one lock;
the loop and the process may come and go. -/
inductive Event where
  | bind (args : BindArgs)
  | bindPlan (robotId : PyStr) (plan : List PlannedRoute)
  | forgetTarget (args : ForgetArgs) (landing : Landing)
  | bindInboundRoute (inbound : Inbound)
  | flush (force : Bool)
  | runTask
  | endWrite (landing : Landing)
  | remark
  | done
  | cancelTask
  | connect
  | closeLoop
  | disconnect
  | restart (cut : Cut)

/-- One step; a step that waits for the flush lock or has nothing to do changes
nothing. -/
def step (state : State) : Event → State
  | .bind args => { state with registry := (state.registry.bind args).2 }
  | .bindPlan robotId plan => { state with registry := (state.registry.bindPlan robotId plan).2 }
  | .forgetTarget args landing =>
    match state.flight, (Save.forgetTarget args).body? state.registry with
    | none, some body =>
      let (write, files) := land runtime sha256 state.registry body state.files landing
      { state with registry := (state.registry.forgetTarget args write).2, files := files }
    | _, _ => state
  | .bindInboundRoute inbound => state.bindInboundRoute inbound
  | .flush force =>
    if state.flight.isNone ∧ (state.registry.dirty ∨ force) then state.beginFlush false else state
  | .runTask =>
    if state.flight.isNone ∧ state.loop = .running ∧ state.task = some .queued then
      if state.registry.dirty then { state.beginFlush true with task := some .writing }
      else { state with task := some .finished }
    else state
  | .endWrite landing =>
    match state.flight with
    | some flight => if flight.remarks then state else state.endWrite runtime sha256 flight landing
    | none => state
  | .remark =>
    match state.flight with
    | some flight =>
      if flight.remarks then
        { state with
          registry := { state.registry with dirty := true }
          flight := none
          task := State.endTask flight.ofTask .finished state.task }
      else state
    | none => state
  | .done => if state.loop = .running then state.done else state
  | .cancelTask =>
    if state.task = some .queued ∨ state.task = some .writing then
      { state with task := some .cancelled }
    else state
  | .connect =>
    { state with
      loop := if state.loop = .absent then .running else state.loop
      disconnecting := false }
  | .closeLoop => { state with loop := .closed }
  | .disconnect => { state with disconnecting := true }
  | .restart cut =>
    let files := match state.flight with
      | some flight =>
        if flight.remarks then state.files
        else cutOff runtime sha256 state.registry flight.body state.files cut
      | none => state.files
    { State.start state.soleIdentityMode with
      registry := (Registry.start runtime sha256 files).1
      files := files }

def machine (soleIdentityMode : Bool) : Machine State Event where
  start := .start soleIdentityMode
  step := step runtime sha256

/-- Unless it is dirty or a flush is under way, `load` would select a document with
the registry's body, or find no file while the registry is still empty. -/
def State.Saved (state : State) : Prop :=
  state.registry.dirty = false → state.flight = none →
    Reading.chosen? (readStateDocument runtime sha256 state.files.current)
        (readStateDocument runtime sha256 state.files.backup) =
      some state.registry.bodyLocked.sortKeys ∨
    state.files = .absent ∧ state.registry.bodyLocked = fresh.bodyLocked

/-- The task will still call its done callback without a failure. -/
def FlushTask.healthy : FlushTask → Prop
  | .queued | .writing | .finished => True
  | .failed | .cancelled => False

/-- A dirty registry of a running adapter has a flush task. -/
def State.Promised (state : State) : Prop :=
  state.loop = .running → state.disconnecting = false → state.soleIdentityMode = false →
    state.registry.dirty = true → ∃ stage, state.task = some stage ∧ stage.healthy

/-- The steps after which a flush has to be promised: an inbound message, and the end
of the task that an earlier one relied on. -/
def Watched (state : State) : Event → Prop
  | .bindInboundRoute _ => True
  | .done => ∃ stage, state.task = some stage ∧ stage ≠ .queued ∧ stage ≠ .writing
  | _ => False

/-- Along the whole run everything is saved, or will be. -/
def Kept (soleIdentityMode : Bool) (events : List Event) : Prop :=
  ((machine runtime sha256 soleIdentityMode).run events).Saved runtime sha256 ∧
    ∀ earlier event, events = earlier ++ [event] →
      Watched ((machine runtime sha256 soleIdentityMode).run earlier) event →
        ((machine runtime sha256 soleIdentityMode).run events).Promised

/-- The message is refused or changes nothing, so it schedules no flush. -/
def Quiet (registry : Registry) (inbound : Inbound) : Prop :=
  ∀ args, inbound.bindArgs? = some args →
    (registry.bind args).1 ≠ .ok .bound ∧ (registry.bind args).1 ≠ .ok .conflict

/-- The steps that lose nothing. -/
def Meets (state : State) : Event → Prop
  /- a write that raises is not the task's, and what it was to save is saved, still
  marked as dirty, or in place -/
  | .endWrite landing => ∀ flight error, state.flight = some flight → flight.remarks = false →
      (land runtime sha256 state.registry flight.body state.files landing).1 = .raised error →
        flight.ofTask = false ∧ (flight.wasDirty = false ∨ state.registry.dirty = true ∨
          InPlace runtime sha256 flight.body landing)
  /- a deletion from a clean registry is taken back if and only if it is not in place -/
  | .forgetTarget args landing => state.flight = none → state.registry.dirty = false → ∀ body,
      (Save.forgetTarget args).body? state.registry = some body →
        match (land runtime sha256 state.registry body state.files landing).1 with
        | .durable => True
        | .failed => ¬ InPlace runtime sha256 body landing
        | .raised _ => InPlace runtime sha256 body landing
  | .bindInboundRoute inbound => Quiet state.registry inbound → state.Promised
  | .cancelTask => False
  | _ => True

variable {runtime sha256} {registry after : Registry}

theorem BindCase.of_clean {request : Request} {result : BindResult}
    (exit : BindCase registry request result after) (clean : after.dirty = false) :
    after = registry := by
  cases exit with
  | refused => rfl
  | contestedSession => cases clean
  | contestedTarget => cases clean
  | filled => cases clean
  | idempotent => rfl
  | full => rfl
  | claimed =>
    have marked : (registry.claim request).dirty = true := dirty_claim request
    rw [clean] at marked
    cases marked

private theorem BindCase.of_quiet {request : Request} {result : BindResult}
    (exit : BindCase registry request result after) (unbound : result ≠ .bound)
    (agreed : result ≠ .conflict) : after = registry := by
  cases exit with
  | refused => rfl
  | contestedSession => exact absurd rfl agreed
  | contestedTarget => exact absurd rfl agreed
  | filled => exact absurd rfl unbound
  | idempotent => rfl
  | full => rfl
  | claimed => exact absurd rfl unbound

/-- A bind that leaves the registry clean has not changed it. -/
private theorem bind_of_clean {args : BindArgs} (clean : (registry.bind args).2.dirty = false) :
    (registry.bind args).2 = registry := by
  cases valid : args.validate with
  | error error => simp only [Registry.bind, valid]
  | ok request =>
    rw [bind_of_valid valid] at clean ⊢
    exact BindCase.of_clean (bindLocked_case registry request) clean

/-- Nor has one that neither established nor refused a route. -/
theorem bind_of_quiet {args : BindArgs} (unbound : (registry.bind args).1 ≠ .ok .bound)
    (agreed : (registry.bind args).1 ≠ .ok .conflict) : (registry.bind args).2 = registry := by
  cases valid : args.validate with
  | error error => simp only [Registry.bind, valid]
  | ok request =>
    rw [bind_of_valid valid] at unbound agreed ⊢
    refine BindCase.of_quiet (bindLocked_case registry request) ?_ ?_
    · exact fun bound => unbound (congrArg Except.ok bound)
    · exact fun conflict => agreed (congrArg Except.ok conflict)

private theorem bindRoutes_of_clean {robotId : PyStr} {plan : List PlannedRoute}
    (clean : (registry.bindRoutes robotId plan).2.dirty = false) :
    (registry.bindRoutes robotId plan).2 = registry := by
  induction plan generalizing registry with
  | nil => rfl
  | cons route rest ih =>
    cases valid : (planArgs robotId route).validate with
    | error error => simp only [bindRoutes, Registry.bind, valid]
    | ok request =>
      have exit := bindLocked_case registry request
      rw [bindRoutes_cons_valid valid] at clean ⊢
      split at clean
      · rename_i refused
        rw [if_pos refused]
        exact BindCase.of_clean exit clean
      · rename_i accepted
        rw [if_neg accepted]
        have unchanged := ih clean
        rw [unchanged] at clean ⊢
        exact BindCase.of_clean exit clean

/-- What a change of the registry may do: it keeps the invariant, and unless it marks
the registry dirty the body that is to be saved stays the same. -/
structure Marked (registry after : Registry) : Prop where
  invariant : after.Invariant
  clean : after.dirty = false → registry.dirty = false ∧ after.bodyLocked = registry.bodyLocked

theorem Marked.of_eq (invariant : after.Invariant)
    (unchanged : after.dirty = false → after = registry) : Marked registry after where
  invariant := invariant
  clean clean := by
    obtain rfl := unchanged clean
    exact ⟨clean, rfl⟩

theorem marked_bind (invariant : registry.Invariant) (args : BindArgs) :
    Marked registry (registry.bind args).2 :=
  .of_eq (invariant.bind args) bind_of_clean

theorem marked_bindPlan (invariant : registry.Invariant) (robotId : PyStr)
    (plan : List PlannedRoute) : Marked registry (registry.bindPlan robotId plan).2 := by
  have clean := @bindRoutes_of_clean registry robotId plan
  have bound := invariant.bindPlan robotId plan
  rcases ended : registry.bindRoutes robotId plan with ⟨_ | _ | error, partly⟩
  · rw [ended] at clean
    rw [bindPlan_accepted ended] at bound ⊢
    exact .of_eq bound clean
  · rw [bindPlan_refused invariant ended] at bound ⊢
    exact ⟨bound, fun clean => ⟨clean, bodyLocked_restored invariant _⟩⟩
  · rw [ended] at clean
    rw [bindPlan_raised ended] at bound ⊢
    exact .of_eq bound clean

variable {files : Files} {body : Json} {landing : Landing}

/-- A write leaves the newest file alone unless it gets the new one in place; it is
reported as durable only then. -/
theorem land_newest (registry : Registry) (body : Json) (files : Files) (landing : Landing) :
    (¬ InPlace runtime sha256 body landing ∧
      (land runtime sha256 registry body files landing).1 ≠ .durable ∧
      (land runtime sha256 registry body files landing).2.newest = files.newest) ∨
    (InPlace runtime sha256 body landing ∧
      ∃ content, documentBytes runtime sha256 body = .ok content ∧
        (land runtime sha256 registry body files landing).2.newest = some (.bytes content)) := by
  cases written : documentBytes runtime sha256 body with
  | error error =>
    left
    cases landing with
    | durable => simp [land, written, newest_rotated, InPlace]
    | failed cut => cases cut <;> simp [land, written, newest_rotated, InPlace]
    | raised error other cut => cases cut <;> simp [land, written, newest_rotated, InPlace]
  | ok content =>
    cases landing with
    | durable => simp [land, written, InPlace]
    | failed cut => cases cut <;> simp [land, written, newest_rotated, InPlace]
    | raised error other cut => cases cut <;> simp [land, written, newest_rotated, InPlace]

variable (runtime sha256) in
/-- The newest file holds the body; without a file it is the body of the start. -/
def Carried (files : Files) (body : Json) : Prop :=
  match files.newest with
  | none => body = fresh.bodyLocked
  | some file => Holds runtime sha256 body file

theorem carried_absent : Carried runtime sha256 .absent fresh.bodyLocked := rfl

theorem Carried.of_newest {later : Files} (carried : Carried runtime sha256 files body)
    (same : later.newest = files.newest) : Carried runtime sha256 later body := by
  rw [Carried, same]
  exact carried

theorem Carried.written {source : Registry} {content : Bytes} (invariant : source.Invariant)
    (written : documentBytes runtime sha256 source.bodyLocked = .ok content)
    (found : files.newest = some (.bytes content)) :
    Carried runtime sha256 files source.bodyLocked := by
  rw [Carried, found]
  exact holds_snapshot invariant written

/-- What a start makes of the files. -/
theorem Carried.start (carried : Carried runtime sha256 files body) :
    (start runtime sha256 files).1.Invariant ∧
      Carried runtime sha256 files (start runtime sha256 files).1.bodyLocked := by
  cases found : files.newest with
  | none =>
    rw [start_of_absent found]
    refine ⟨invariant_fresh, ?_⟩
    rw [Carried, found]
  | some file =>
    rw [Carried, found] at carried
    obtain ⟨fallback, loaded, started, -, invariant, same⟩ := start_of_holds found carried
    rw [started]
    refine ⟨invariant, ?_⟩
    rw [Carried, found, same]
    exact carried

theorem carried_land {source : Registry} (invariant : source.Invariant)
    (carried : ∃ body, Carried runtime sha256 files body) (registry : Registry) (landing : Landing) :
    ∃ body, Carried runtime sha256
      (land runtime sha256 registry source.bodyLocked files landing).2 body := by
  rcases @land_newest runtime sha256 registry source.bodyLocked files landing with
    ⟨-, -, kept⟩ | ⟨-, content, written, replaced⟩
  · exact carried.imp fun body carried => carried.of_newest kept
  · exact ⟨_, .written invariant written replaced⟩

theorem carried_of_inPlace {source : Registry} (invariant : source.Invariant)
    (inPlace : InPlace runtime sha256 source.bodyLocked landing) (registry : Registry) :
    Carried runtime sha256 (land runtime sha256 registry source.bodyLocked files landing).2
      source.bodyLocked := by
  rcases @land_newest runtime sha256 registry source.bodyLocked files landing with
    ⟨out, -, -⟩ | ⟨-, content, written, replaced⟩
  · exact absurd inPlace out
  · exact .written invariant written replaced

theorem inPlace_of_durable
    (durable : (land runtime sha256 registry body files landing).1 = .durable) :
    InPlace runtime sha256 body landing := by
  rcases @land_newest runtime sha256 registry body files landing with
    ⟨-, unreported, -⟩ | ⟨inPlace, -⟩
  · exact absurd durable unreported
  · exact inPlace

theorem Carried.land (carried : Carried runtime sha256 files body) {other : Json}
    (out : ¬ InPlace runtime sha256 other landing) (registry : Registry) :
    Carried runtime sha256 (land runtime sha256 registry other files landing).2 body := by
  rcases @land_newest runtime sha256 registry other files landing with
    ⟨-, -, kept⟩ | ⟨inPlace, -⟩
  · exact carried.of_newest kept
  · exact absurd inPlace out

theorem carried_cutOff {source : Registry} (invariant : source.Invariant)
    (carried : ∃ body, Carried runtime sha256 files body) (registry : Registry) (cut : Cut) :
    ∃ body, Carried runtime sha256 (cutOff runtime sha256 registry source.bodyLocked files cut)
      body := by
  rcases @cutOff_newest runtime sha256 registry source.bodyLocked files cut with
    kept | ⟨content, written, replaced⟩
  · exact carried.imp fun body carried => carried.of_newest kept
  · exact ⟨_, .written invariant written replaced⟩

end OctoChannel.Adapter.RouteFlush

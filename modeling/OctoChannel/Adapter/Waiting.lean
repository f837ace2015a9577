import OctoChannel.Adapter.MigrationRuns
import OctoChannel.Adapter.Traffic

namespace OctoChannel.Adapter.Traffic

open Foundation Identity Identity.Registry

variable {runtime : Json.Runtime} {sha256 : Bytes → Bytes} {legacy : RobotId}
  {plan : List PlannedRoute} {gateway : Gateway} {message : Message} {args : BindArgs}
  {request : Request} {registry : Registry} {route : PlannedRoute} {home : SessionKey → TargetKey}
  {state : State}

/-- A restart from this source brings the route back unopposed. -/
def Reopens (source : Registry) (legacy : RobotId) (plan : List PlannedRoute) : Prop :=
  source.Invariant ∧ ∀ (before : Registry), ∀ route ∈ plan,
    (before.restored source).Unopposed legacy route

private theorem reopens_of_unopposed (inv : registry.Invariant)
    (unopposed : ∀ route ∈ plan, registry.Unopposed legacy route) :
    Reopens registry legacy plan := by
  refine ⟨inv, fun before route member => ?_⟩
  exact (unopposed route member).of_agree (agree_restored inv before)
    (linked_restored_subset inv before)

/-- Restoring reads nothing of the registry it starts from. -/
private theorem reopens_of_restored {source before : Registry} (inv : source.Invariant)
    (unopposed : ∀ route ∈ plan, (before.restored source).Unopposed legacy route) :
    Reopens source legacy plan := by
  refine ⟨inv, fun other route member => ?_⟩
  refine (unopposed route member).of_agree
    ((agree_restored inv other).trans (agree_restored inv before).symm) ?_
  intro target key link
  rw [← mem_listings_iff, listings_restored inv] at link ⊢
  exact link

/-- The newest snapshot, if there is one, reopens the plan. -/
def Saved (runtime : Json.Runtime) (sha256 : Bytes → Bytes) (files : Files) (legacy : RobotId)
    (plan : List PlannedRoute) : Prop :=
  files.newest = none ∨
    ∃ source, Reopens source legacy plan ∧ Store.Snapshots runtime sha256 files source

theorem Saved.start {files : Files} (saved : Saved runtime sha256 files legacy plan)
    (started : Registry.start runtime sha256 files = (registry, none)) :
    ∀ route ∈ plan, registry.Unopposed legacy route := by
  intro route member
  rcases saved with absent | ⟨source, ⟨inv, reopens⟩, content, written, newest⟩
  · rw [start_of_absent absent] at started
    cases started
    exact unopposed_fresh legacy route
  · obtain ⟨fallback, loaded, started', applied, -, -⟩ :=
      start_of_holds newest (holds_snapshot inv written)
    rw [started] at started'
    rw [applyBody_bodyLocked_ok inv] at applied
    cases started'
    rw [← show Registry.restored _ source = registry from congrArg Prod.fst applied]
    exact reopens _ route member

/-- A start that comes up unopposed has read files that do so again. -/
private theorem saved_of_start {files : Files} (recorded : files.newest = none ∨
      ∃ source : Registry, source.Invariant ∧ Store.Snapshots runtime sha256 files source)
    (started : Registry.start runtime sha256 files = (registry, none))
    (unopposed : ∀ route ∈ plan, registry.Unopposed legacy route) :
    Saved runtime sha256 files legacy plan := by
  rcases recorded with absent | ⟨source, inv, content, written, newest⟩
  · exact .inl absent
  · refine .inr ⟨source, ?_, content, written, newest⟩
    obtain ⟨fallback, loaded, started', applied, -, -⟩ :=
      start_of_holds newest (holds_snapshot inv written)
    rw [started] at started'
    rw [applyBody_bodyLocked_ok inv] at applied
    cases started'
    rw [← show Registry.restored _ source = registry from congrArg Prod.fst applied] at unopposed
    exact reopens_of_restored inv unopposed

/-- What holds throughout: the profile is pending, and neither its registry nor
anything that a restart could find stands against the plan. -/
structure Kept (runtime : Json.Runtime) (sha256 : Bytes → Bytes) (legacy : RobotId)
    (plan : List PlannedRoute) (state : State) : Prop where
  recorded : Store.Recorded runtime sha256 state.profile.store
    (some ⟨.pending, some legacy, plan.length⟩)
  scheduled : state.profile.store.history.scheduled = some plan
  running : state.profile.gateway = some (waiting legacy plan)
  unopposed : ∀ route ∈ plan, state.profile.store.registry.Unopposed legacy route
  saved : Saved runtime sha256 state.profile.store.disk.routes legacy plan
  flying : ∀ body, state.flight = some body →
    ∃ source, Reopens source legacy plan ∧ body = source.bodyLocked

/-- Other contents of the registry, or other route files. -/
private theorem recorded_of_routes {store after : Store} {durable : Option IdentityMetadata}
    (recorded : Store.Recorded runtime sha256 store durable)
    (inv : after.registry.Invariant) (metadata : after.disk.metadata = store.disk.metadata)
    (planFile : after.disk.plan = store.disk.plan) (history : after.history = store.history)
    (remembered : after.metadata = store.metadata)
    (routes : after.disk.routes.newest = store.disk.routes.newest ∨
      ∃ source : Registry, source.Invariant ∧
        Store.Snapshots runtime sha256 after.disk.routes source)
    (open' : durable.map (·.phase) ≠ some .migrated) :
    Store.Recorded runtime sha256 after durable :=
  recorded.rerouted ⟨metadata, planFile, remembered, history, inv, routes⟩ open'

theorem Kept.inbound (kept : Kept runtime sha256 legacy plan state) (message : Message)
    (homed : message.Homed home) (own : ∀ route ∈ plan, home route.sessionKey = route.target)
    (agrees : WireAgrees legacy plan state (.inbound message)) :
    Kept runtime sha256 legacy plan (step runtime sha256 state (.inbound message)) := by
  have inv := kept.recorded.invariant
  simp only [step, kept.running]
  refine { scheduled := kept.scheduled, running := kept.running, saved := kept.saved,
           flying := kept.flying, recorded := ?_, unopposed := ?_ }
  · exact recorded_of_routes kept.recorded (invariant_bindInboundRoute inv _ message) rfl rfl rfl
      rfl (.inl rfl) (by simp)
  · intro route member
    refine unopposed_bindInboundRoute inv member (kept.unopposed route member) homed
      (own route member) ?_
    exact fun args request named valid => agrees _ args request kept.running named valid route member

theorem Kept.beginFlush (kept : Kept runtime sha256 legacy plan state) :
    Kept runtime sha256 legacy plan state.beginFlush := by
  have inv := kept.recorded.invariant
  unfold State.beginFlush
  split
  · refine { scheduled := kept.scheduled, running := kept.running, saved := kept.saved,
             recorded := ?_, unopposed := ?_, flying := ?_ }
    · exact recorded_of_routes kept.recorded (inv.withDirty false) rfl rfl rfl rfl (.inl rfl)
        (by simp)
    · exact fun route member => { kept.unopposed route member with }
    · rintro body taken
      cases taken
      exact ⟨_, reopens_of_unopposed inv kept.unopposed, rfl⟩
  · exact kept

/-- A write leaves the newest snapshot alone, or puts there what the flush has taken. -/
theorem Kept.placed (kept : Kept runtime sha256 legacy plan state) {body : Json}
    (taken : state.flight = some body) {files : Files}
    (newest : files.newest = state.profile.store.disk.routes.newest ∨
      ∃ content, documentBytes runtime sha256 body = .ok content ∧
        files.newest = some (.bytes content)) :
    files.newest = state.profile.store.disk.routes.newest ∨
      ∃ source, Reopens source legacy plan ∧ Store.Snapshots runtime sha256 files source := by
  refine newest.imp_right ?_
  rintro ⟨content, written, placed⟩
  obtain ⟨source, reopens, rfl⟩ := kept.flying body taken
  exact ⟨source, reopens, content, written, placed⟩

theorem Kept.saved_of_placed (kept : Kept runtime sha256 legacy plan state) {files : Files}
    (placed : files.newest = state.profile.store.disk.routes.newest ∨
      ∃ source, Reopens source legacy plan ∧ Store.Snapshots runtime sha256 files source) :
    Saved runtime sha256 files legacy plan := by
  rcases placed with same | written
  · have saved := kept.saved
    unfold Saved Store.Snapshots at saved ⊢
    rwa [same]
  · exact .inr written

/-- The same profile with other route files, as a write leaves them. -/
theorem Kept.recorded_of_placed (kept : Kept runtime sha256 legacy plan state) {files : Files}
    (placed : files.newest = state.profile.store.disk.routes.newest ∨
      ∃ source, Reopens source legacy plan ∧ Store.Snapshots runtime sha256 files source)
    {registry : Registry} (inv : registry.Invariant) :
    Store.Recorded runtime sha256
      { state.profile.store with
        disk.routes := files
        registry := registry } (some ⟨.pending, some legacy, plan.length⟩) := by
  refine recorded_of_routes kept.recorded inv rfl rfl rfl rfl ?_ (by simp)
  exact placed.imp_right fun ⟨source, reopens, snapshots⟩ => ⟨source, reopens.1, snapshots⟩

private theorem invariant_landed (inv : registry.Invariant) (ending : WriteEnd) :
    (State.landed registry ending).Invariant := by
  cases ending with
  | durable => exact { inv with }
  | failed => exact inv.withDirty true
  | raised error => exact inv

private theorem unopposed_landed (unopposed : registry.Unopposed legacy route) (ending : WriteEnd) :
    (State.landed registry ending).Unopposed legacy route := by
  cases ending with
  | durable => exact { unopposed with }
  | failed => exact { unopposed with }
  | raised error => exact unopposed

theorem Kept.endFlush (kept : Kept runtime sha256 legacy plan state) (fault : Fault) :
    Kept runtime sha256 legacy plan (state.endFlush runtime sha256 fault) := by
  unfold State.endFlush
  split
  · exact kept
  · rename_i body taken
    have newest := @writeSnapshot_newest runtime sha256 state.profile.store.registry body fault
      state.profile.store.disk.routes
    revert newest
    rcases writeSnapshot runtime sha256 state.profile.store.registry body fault
      state.profile.store.disk.routes with ⟨ending, files⟩
    intro newest
    have placed := kept.placed taken (newest.imp_left And.right)
    exact {
      scheduled := kept.scheduled
      running := kept.running
      saved := kept.saved_of_placed placed
      recorded := kept.recorded_of_placed placed (invariant_landed kept.recorded.invariant ending)
      unopposed := fun route member => unopposed_landed (kept.unopposed route member) ending
      flying := fun body taken => by cases taken }

theorem Kept.leftFiles (kept : Kept runtime sha256 legacy plan state) (cut : Cut) :
    (state.leftFiles runtime sha256 cut).newest = state.profile.store.disk.routes.newest ∨
      ∃ source, Reopens source legacy plan ∧
        Store.Snapshots runtime sha256 (state.leftFiles runtime sha256 cut) source := by
  unfold State.leftFiles
  split
  · exact .inl rfl
  · rename_i body taken
    exact kept.placed taken (cutOff_newest _ body _ cut)

/-- A restart finds the documents of a pending migration, and a snapshot from which
the plan comes back unopposed. -/
theorem Kept.restart (kept : Kept runtime sha256 legacy plan state) (cut : Cut)
    (args : Store.StartArgs) :
    Kept runtime sha256 legacy plan (state.restart runtime sha256 cut args) := by
  have placed := kept.leftFiles cut
  have saved := kept.saved_of_placed placed
  have started : Store.Recorded runtime sha256
      ⟨{ state.profile.store.disk with routes := state.leftFiles runtime sha256 cut }, .fresh, none,
        state.profile.store.history⟩ (some ⟨.pending, some legacy, plan.length⟩) :=
    { kept.recorded_of_placed placed invariant_fresh with }
  obtain ⟨other, registry, scheduled, loaded, begun⟩ := Store.begin_pending_eq started rfl args
  obtain rfl : other = plan := Option.some.inj (scheduled.symm.trans kept.scheduled)
  have inv := Store.begin_spec started rfl args
  have restarted : (state.restart runtime sha256 cut args).profile =
      ⟨⟨{ state.profile.store.disk with routes := state.leftFiles runtime sha256 cut }, registry,
        some ⟨.pending, some legacy, other.length⟩, state.profile.store.history⟩,
        some (waiting legacy other)⟩ := by
    simp only [State.restart, initializeIdentityState]
    rw [begun]
    rfl
  obtain ⟨later, recorded, -, opened⟩ := inv
  rw [begun] at recorded opened
  obtain ⟨metadata, rfl, known, -⟩ := opened _ rfl
  cases known
  refine { recorded := ?_, scheduled := ?_, running := ?_, unopposed := ?_, saved := ?_,
           flying := fun body taken => by cases taken }
  · rw [restarted]
    exact recorded
  · rw [restarted]
    exact kept.scheduled
  · rw [restarted]
  · rw [restarted]
    exact saved.start loaded
  · rw [restarted]
    exact saved

theorem Kept.step (kept : Kept runtime sha256 legacy plan state) {event : Event}
    (homed : ∀ message, event = .inbound message → message.Homed home)
    (own : ∀ route ∈ plan, home route.sessionKey = route.target)
    (agrees : WireAgrees legacy plan state event) :
    Kept runtime sha256 legacy plan (step runtime sha256 state event) := by
  cases event with
  | inbound message => exact kept.inbound message (homed message rfl) own agrees
  | flush => exact kept.beginFlush
  | write fault => exact kept.endFlush fault
  | restart cut args => exact kept.restart cut args

/-- A profile that is not pending runs no process that could bind a frozen plan. -/
private theorem fits_of_unfrozen {profile : Profile} (sound : profile.Sound runtime sha256)
    (unfrozen : profile.phase runtime sha256 ≠ some .pending) (event : Adapter.Event) :
    profile.Fits event := by
  cases event with
  | start args => trivial
  | crash => trivial
  | registered registered =>
    intro gateway running applies
    have phase := applies.pending
    cases handed : gateway.startup with
    | none =>
      rw [Gateway.identityPhase, handed] at phase
      cases phase
    | some startup =>
      obtain ⟨-, -, metadata, durable, -, opened⟩ := sound.opened _ _ running handed
      rw [Gateway.identityPhase, handed] at phase
      rw [Profile.phase, durable] at unfrozen
      cases opened with
      | single => cases phase
      | pending => exact absurd rfl unfrozen
      | migrated => cases phase

/-- Until a profile is pending there is no plan to bind. -/
private theorem fits_run {events : List Adapter.Event}
    (first : ∀ earlier later, events = earlier ++ later →
      (Profile.run runtime sha256 earlier).phase runtime sha256 ≠ some .pending) :
    Fits runtime sha256 events := by
  induction events using List.reverseRecOn with
  | nil =>
    intro earlier event later split
    simp at split
  | append_singleton events last ih =>
    have before : Fits runtime sha256 events := by
      apply ih
      intro earlier later split
      exact first earlier (later ++ [last]) (by rw [split, List.append_assoc])
    intro earlier event later split
    cases later using List.reverseRecOn with
    | nil =>
      obtain ⟨rfl, -⟩ := List.append_inj' split rfl
      exact fits_of_unfrozen (sound_run before) (first _ _ rfl) event
    | append_singleton others final =>
      rw [← List.cons_append, ← List.append_assoc] at split
      obtain ⟨front, -⟩ := List.append_inj' split rfl
      exact before earlier event others front

theorem BecomesPending.kept {begun : List Adapter.Event} {args : Store.StartArgs}
    (becomes : BecomesPending runtime sha256 begun args legacy plan)
    (unopposed : ∀ route ∈ plan, Unopposed
      (Profile.run runtime sha256 (begun ++ [.start args])).store.registry legacy route) :
    Kept runtime sha256 legacy plan
      ⟨Profile.run runtime sha256 (begun ++ [.start args]), none⟩ := by
  have before := sound_run (fits_run becomes.first)
  have started : Store.Recorded runtime sha256
      { (Profile.run runtime sha256 begun).store with registry := .fresh, metadata := none }
      ((Profile.run runtime sha256 begun).durable runtime sha256) :=
    { before.recorded with invariant := invariant_fresh }
  have routes := Store.begin_routes started rfl args
  have sound := (@steps_step _ _ _ (.start args) before trivial).1
  rw [← run_append] at sound
  have loaded : Registry.start runtime sha256
      (Profile.run runtime sha256 (begun ++ [.start args])).store.disk.routes =
        ((Profile.run runtime sha256 (begun ++ [.start args])).store.registry, none) := by
    rw [run_append, Profile.step, initializeIdentityState]
    revert routes
    rcases Store.begin runtime sha256
      { (Profile.run runtime sha256 begun).store with registry := .fresh, metadata := none } args
      with ⟨_ | _ | _, store⟩
    · exact id
    · exact id
    · exact id
  obtain ⟨-, -, metadata, durable, -, opened⟩ := sound.opened _ _ becomes.waiting rfl
  have recorded := sound.recorded
  rw [durable] at recorded
  cases opened with
  | pending _ _ scheduled =>
    exact {
      recorded := recorded
      scheduled := scheduled
      running := becomes.waiting
      unopposed := unopposed
      saved := saved_of_start recorded.routes loaded unopposed
      flying := fun body taken => by cases taken }

theorem kept_run {begun : List Adapter.Event} {args : Store.StartArgs} {traffic : List Event}
    (given : Given runtime sha256 begun args legacy plan home traffic)
    (agrees : (machine runtime sha256
      (Profile.run runtime sha256 (begun ++ [.start args]))).Along (WireAgrees legacy plan) traffic) :
    Kept runtime sha256 legacy plan
      ((machine runtime sha256 (Profile.run runtime sha256 (begun ++ [.start args]))).run
        traffic) := by
  have homed : ∀ event ∈ traffic, ∀ message, event = .inbound message → message.Homed home := by
    rintro event member message rfl
    exact given.traffic message member
  refine Machine.invariant_of_along (given.becomes.kept given.unopposed) ?_
    (agrees.and_forall homed)
  rintro state event kept ⟨agrees, homed⟩
  exact kept.step homed given.plan agrees

end OctoChannel.Adapter.Traffic

import OctoChannel.Adapter.RouteFlush

namespace OctoChannel.Adapter.RouteFlush

open Foundation Identity Identity.Registry

variable {runtime : Json.Runtime} {sha256 : Bytes → Bytes} {registry after : Registry}
  {files : Files} {body : Json} {landing : Landing}

/-- A flush under way has the body of a reachable registry. While the registry stays
clean it is still the current one, and unless the registry was dirty it is saved. -/
structure Flight.Sound (runtime : Json.Runtime) (sha256 : Bytes → Bytes) (flight : Flight)
    (state : State) : Prop where
  source : ∃ source : Registry, source.Invariant ∧ flight.body = source.bodyLocked
  current : flight.remarks = false → state.registry.dirty = false →
    state.registry.bodyLocked = flight.body
  saved : flight.remarks = false → flight.wasDirty = false →
    Carried runtime sha256 state.files flight.body

structure Sound (runtime : Json.Runtime) (sha256 : Bytes → Bytes) (state : State) : Prop where
  invariant : state.registry.Invariant
  carried : ∃ body, Carried runtime sha256 state.files body
  saved : state.flight = none → state.registry.dirty = false →
    Carried runtime sha256 state.files state.registry.bodyLocked
  flight : ∀ flight, state.flight = some flight → flight.Sound runtime sha256 state
  task : ∀ stage, state.task = some stage → stage.healthy

variable {state : State}

private theorem Sound.saves (sound : Sound runtime sha256 state) : state.Saved runtime sha256 := by
  intro clean idle
  have carried := sound.saved idle clean
  rw [Carried] at carried
  split at carried
  · rename_i missing
    rw [Generations.newest, Option.or_eq_none_iff] at missing
    refine .inr ⟨?_, carried⟩
    cases files : state.files with
    | mk current backup =>
      rw [files] at missing
      obtain ⟨rfl, rfl⟩ := missing
      rfl
  · rename_i file found
    exact .inl (chosen_of_holds found carried)

theorem sound_start (soleIdentityMode : Bool) :
    Sound runtime sha256 (.start soleIdentityMode) where
  invariant := invariant_fresh
  carried := ⟨_, carried_absent⟩
  saved _ _ := carried_absent
  flight _ under := by cases under
  task _ outstanding := by cases outstanding

theorem Sound.change (sound : Sound runtime sha256 state) (marked : Marked state.registry after) :
    Sound runtime sha256 { state with registry := after } where
  invariant := marked.invariant
  carried := sound.carried
  saved idle clean := by
    obtain ⟨before, same⟩ := marked.clean clean
    change Carried runtime sha256 state.files after.bodyLocked
    rw [same]
    exact sound.saved idle before
  flight flight under := {
    source := (sound.flight flight under).source
    current := fun pending clean => by
      obtain ⟨before, same⟩ := marked.clean clean
      exact same.trans ((sound.flight flight under).current pending before)
    saved := (sound.flight flight under).saved }
  task := sound.task

theorem Sound.scheduleRouteFlush (sound : Sound runtime sha256 state) :
    Sound runtime sha256 state.scheduleRouteFlush := by
  unfold State.scheduleRouteFlush
  split
  · exact sound
  · split
    · exact sound
    · exact { sound with
        flight := fun flight under => { sound.flight flight under with }
        task := fun stage outstanding => by
          cases outstanding
          trivial }

theorem Sound.bindInboundRoute (sound : Sound runtime sha256 state) (inbound : Inbound) :
    Sound runtime sha256 (state.bindInboundRoute inbound) := by
  unfold State.bindInboundRoute
  split
  · exact sound
  · split
    · exact sound
    · rename_i args _
      have bound := sound.change (marked_bind sound.invariant args)
      dsimp only
      split
      · exact bound.scheduleRouteFlush
      · exact bound.scheduleRouteFlush
      · exact bound
      · exact bound
      · exact bound

theorem Sound.beginFlush (sound : Sound runtime sha256 state) (idle : state.flight = none)
    (ofTask : Bool) : Sound runtime sha256 (state.beginFlush ofTask) where
  invariant := sound.invariant.withDirty false
  carried := sound.carried
  saved under _ := by cases under
  flight flight under := by
    cases under
    exact ⟨⟨_, sound.invariant, rfl⟩, fun _ _ => rfl, fun _ clean => sound.saved idle clean⟩
  task := sound.task

theorem Sound.withTask (sound : Sound runtime sha256 state) {task : Option FlushTask}
    (healthy : ∀ stage, task = some stage → stage.healthy) :
    Sound runtime sha256 { state with task := task } :=
  { sound with
    flight := fun flight under => { sound.flight flight under with }
    task := healthy }

theorem healthy_endTask (sound : Sound runtime sha256 state) {ofTask : Bool} {stage ended : FlushTask}
    (healthy : ofTask = true → ended.healthy)
    (outstanding : State.endTask ofTask ended state.task = some stage) : stage.healthy := by
  unfold State.endTask at outstanding
  split at outstanding
  · rename_i running
    cases outstanding
    exact healthy running.1
  · exact sound.task stage outstanding

theorem Sound.endWrite (sound : Sound runtime sha256 state) {flight : Flight}
    (under : state.flight = some flight) (pending : flight.remarks = false)
    (meets : Meets runtime sha256 state (.endWrite landing)) :
    Sound runtime sha256 (state.endWrite runtime sha256 flight landing) := by
  obtain ⟨⟨source, invariant, body⟩, current, saved⟩ := sound.flight flight under
  have carried := carried_land invariant sound.carried state.registry landing
  rw [← body] at carried
  unfold State.endWrite
  cases write : (land runtime sha256 state.registry flight.body state.files landing).1 with
  | durable =>
    have inPlace := inPlace_of_durable write
    dsimp only
    rw [write]
    exact {
      invariant := { sound.invariant with }
      carried := carried
      saved := fun _ clean => by
        change Carried runtime sha256 _ state.registry.bodyLocked
        rw [current pending clean]
        rw [body] at inPlace ⊢
        exact carried_of_inPlace invariant inPlace state.registry
      flight := fun _ gone => by cases gone
      task := fun stage => healthy_endTask sound fun _ => trivial }
  | failed =>
    dsimp only
    rw [write]
    exact {
      invariant := sound.invariant
      carried := carried
      saved := fun gone _ => by cases gone
      flight := fun _ same => by
        cases same
        exact {
          source := ⟨source, invariant, body⟩
          current := fun pending _ => by cases pending
          saved := fun pending _ => by cases pending }
      task := sound.task }
  | raised error =>
    obtain ⟨foreign, excuse⟩ := meets flight error under pending write
    dsimp only
    rw [write]
    exact {
      invariant := sound.invariant
      carried := carried
      saved := fun _ clean => by
        change Carried runtime sha256 _ state.registry.bodyLocked
        rw [current pending clean]
        by_cases inPlace : InPlace runtime sha256 flight.body landing
        · rw [body] at inPlace ⊢
          exact carried_of_inPlace invariant inPlace state.registry
        · rcases excuse with settled | marked | placed
          · exact (saved pending settled).land inPlace state.registry
          · rw [clean] at marked
            cases marked
          · exact absurd placed inPlace
      flight := fun _ gone => by cases gone
      task := fun stage => healthy_endTask sound fun ofTask => by
        rw [foreign] at ofTask
        cases ofTask }

theorem Sound.remark (sound : Sound runtime sha256 state) (ofTask : Bool) :
    Sound runtime sha256
      { state with
        registry := { state.registry with dirty := true }
        flight := none
        task := State.endTask ofTask .finished state.task } where
  invariant := sound.invariant.withDirty true
  carried := sound.carried
  saved _ clean := by cases clean
  flight _ gone := by cases gone
  task _ := healthy_endTask sound fun _ => trivial

theorem Sound.done (sound : Sound runtime sha256 state) : Sound runtime sha256 state.done := by
  have discarded : Sound runtime sha256 { state with task := none } :=
    sound.withTask fun _ outstanding => by cases outstanding
  unfold State.done
  split
  · dsimp only
    split
    · exact discarded.scheduleRouteFlush
    · exact discarded
  · exact discarded
  · exact discarded
  · exact sound

theorem sound_restart (carried : ∃ body, Carried runtime sha256 files body)
    (soleIdentityMode : Bool) :
    Sound runtime sha256
      { State.start soleIdentityMode with
        registry := (Registry.start runtime sha256 files).1
        files := files } := by
  obtain ⟨body, carried⟩ := carried
  obtain ⟨invariant, restored⟩ := carried.start
  exact {
    invariant := invariant
    carried := ⟨body, carried⟩
    saved := fun _ _ => restored
    flight := fun _ gone => by cases gone
    task := fun _ gone => by cases gone }

/-- `forget_target` past its guards. -/
private theorem forgetTarget_eq {args : ForgetArgs}
    (named : (Save.forgetTarget args).body? registry = some body)
    (invariant : registry.Invariant) : ∃ dropped : Registry, dropped.Invariant ∧
      body = dropped.bodyLocked ∧ dropped.dirty = registry.dirty ∧ ∀ write,
        ∃ result after, registry.forgetTarget args write = (result, after) ∧
          match write with
          | .durable => after = dropped.written
          | .raised _ => after = dropped
          | .failed => after.bodyLocked = registry.bodyLocked ∧ after.dirty = registry.dirty := by
  rw [Save.body?] at named
  split at named
  · cases named
  · rename_i robotId target valid
    split at named
    · rename_i guard
      cases named
      obtain ⟨open', routed, -⟩ := forgettable_iff.mp guard
      refine ⟨_, invariant.forgotten routed open', rfl, rfl, ?_⟩
      intro write
      simp only [Registry.forgetTarget, valid, guard, if_true]
      cases write with
      | durable => exact ⟨_, _, rfl, rfl⟩
      | raised error => exact ⟨_, _, rfl, rfl⟩
      | failed =>
        dsimp only
        rw [applyBody_bodyLocked_ok invariant]
        exact ⟨_, _, rfl, bodyLocked_restored invariant _, rfl⟩
    · cases named

theorem Sound.forgetTarget (sound : Sound runtime sha256 state) (idle : state.flight = none)
    {args : ForgetArgs} (named : (Save.forgetTarget args).body? state.registry = some body)
    (meets : Meets runtime sha256 state (.forgetTarget args landing)) :
    Sound runtime sha256
      { state with
        registry := (state.registry.forgetTarget args
          (land runtime sha256 state.registry body state.files landing).1).2
        files := (land runtime sha256 state.registry body state.files landing).2 } := by
  have lost := meets idle
  have kept := sound.invariant.forgetTarget args
    (land runtime sha256 state.registry body state.files landing).1
  obtain ⟨dropped, invariant, rfl, sameDirty, outcome⟩ := forgetTarget_eq named sound.invariant
  refine {
    invariant := kept
    carried := carried_land invariant sound.carried state.registry landing
    saved := fun _ clean => ?_
    flight := fun flight under => by rw [idle] at under; cases under
    task := sound.task }
  obtain ⟨result, after, ended, shape⟩ :=
    outcome (land runtime sha256 state.registry dropped.bodyLocked state.files landing).1
  rw [ended] at clean ⊢
  dsimp only at clean ⊢
  cases write : (land runtime sha256 state.registry dropped.bodyLocked state.files landing).1 with
  | durable =>
    rw [write] at shape
    obtain rfl : after = dropped.written := shape
    exact carried_of_inPlace invariant (inPlace_of_durable write) state.registry
  | failed =>
    rw [write] at shape
    obtain ⟨same, flag⟩ := shape
    rw [flag] at clean
    have out := lost clean dropped.bodyLocked named
    rw [write] at out
    rw [same]
    exact (sound.saved idle clean).land out state.registry
  | raised error =>
    rw [write] at shape
    obtain rfl : after = dropped := shape
    rw [sameDirty] at clean
    have inPlace := lost clean after.bodyLocked named
    rw [write] at inPlace
    exact carried_of_inPlace invariant inPlace state.registry

/-- The invariant is kept by every step that loses nothing. -/
theorem Sound.step (sound : Sound runtime sha256 state) (event : Event)
    (meets : Meets runtime sha256 state event) :
    Sound runtime sha256 (step runtime sha256 state event) := by
  cases event with
  | bind args => exact sound.change (marked_bind sound.invariant args)
  | bindPlan robotId plan => exact sound.change (marked_bindPlan sound.invariant robotId plan)
  | forgetTarget args landing =>
    unfold RouteFlush.step
    dsimp only
    split
    · rename_i body idle named
      exact sound.forgetTarget idle named meets
    · exact sound
  | bindInboundRoute inbound => exact sound.bindInboundRoute inbound
  | flush force =>
    unfold RouteFlush.step
    dsimp only
    split
    · rename_i enabled
      exact sound.beginFlush (Option.isNone_iff_eq_none.mp enabled.1) false
    · exact sound
  | runTask =>
    unfold RouteFlush.step
    dsimp only
    split
    · rename_i enabled
      split
      · refine (sound.beginFlush (Option.isNone_iff_eq_none.mp enabled.1) true).withTask ?_
        intro stage writing
        cases writing
        trivial
      · refine sound.withTask ?_
        intro stage finished
        cases finished
        trivial
    · exact sound
  | endWrite landing =>
    unfold RouteFlush.step
    dsimp only
    split
    · rename_i flight under
      split
      · exact sound
      · rename_i pending
        exact sound.endWrite under (Bool.eq_false_iff.mpr pending) meets
    · exact sound
  | remark =>
    unfold RouteFlush.step
    dsimp only
    split
    · rename_i flight under
      split
      · exact sound.remark flight.ofTask
      · exact sound
    · exact sound
  | done =>
    unfold RouteFlush.step
    dsimp only
    split
    · exact sound.done
    · exact sound
  | cancelTask => exact absurd meets id
  | connect => exact { sound with flight := fun flight under => { sound.flight flight under with } }
  | closeLoop => exact { sound with flight := fun flight under => { sound.flight flight under with } }
  | disconnect =>
    exact { sound with flight := fun flight under => { sound.flight flight under with } }
  | restart cut =>
    refine sound_restart ?_ state.soleIdentityMode
    split
    · rename_i flight under
      obtain ⟨source, invariant, body⟩ := (sound.flight flight under).source
      split
      · exact sound.carried
      · rw [body]
        exact carried_cutOff invariant sound.carried state.registry cut
    · exact sound.carried

private theorem isSome_scheduleRouteFlush (running : state.loop = .running)
    (several : state.soleIdentityMode = false) :
    state.scheduleRouteFlush.task.isSome = true := by
  unfold State.scheduleRouteFlush
  by_cases outstanding : state.task.isSome = true
  · simp [running, several, outstanding]
  · simp [running, several, outstanding]

theorem promised_scheduleRouteFlush (sound : Sound runtime sha256 state) :
    state.scheduleRouteFlush.Promised := by
  have scheduled := sound.scheduleRouteFlush
  intro running _ several _
  have same : state.scheduleRouteFlush.loop = state.loop ∧
      state.scheduleRouteFlush.soleIdentityMode = state.soleIdentityMode := by
    unfold State.scheduleRouteFlush
    split
    · exact ⟨rfl, rfl⟩
    · split
      · exact ⟨rfl, rfl⟩
      · exact ⟨rfl, rfl⟩
  rw [same.1] at running
  rw [same.2] at several
  obtain ⟨stage, outstanding⟩ :=
    Option.isSome_iff_exists.mp (isSome_scheduleRouteFlush running several)
  exact ⟨stage, outstanding, scheduled.task stage outstanding⟩

private theorem promised_bindInboundRoute (sound : Sound runtime sha256 state) {inbound : Inbound}
    (meets : Quiet state.registry inbound → state.Promised) :
    (state.bindInboundRoute inbound).Promised := by
  unfold State.bindInboundRoute
  split
  · rename_i sole
    intro _ _ several
    rw [sole] at several
    cases several
  · cases called : inbound.bindArgs? with
    | none =>
      refine meets ?_
      intro args impossible
      rw [called] at impossible
      cases impossible
    | some args =>
      have bound := sound.change (marked_bind sound.invariant args)
      have quiet : (state.registry.bind args).1 ≠ .ok .bound →
          (state.registry.bind args).1 ≠ .ok .conflict → state.Promised := by
        intro unbound agreed
        refine meets ?_
        intro others same
        rw [called] at same
        cases same
        exact ⟨unbound, agreed⟩
      have unchanged : (state.registry.bind args).1 ≠ .ok .bound →
          (state.registry.bind args).1 ≠ .ok .conflict →
          State.Promised { state with registry := (state.registry.bind args).2 } := by
        intro unbound agreed
        rw [bind_of_quiet unbound agreed]
        exact quiet unbound agreed
      dsimp only
      cases result : (state.registry.bind args).1 with
      | error error => exact unchanged (by simp [result]) (by simp [result])
      | ok outcome =>
        cases outcome with
        | bound => exact promised_scheduleRouteFlush bound
        | conflict => exact promised_scheduleRouteFlush bound
        | idempotent => exact unchanged (by simp [result]) (by simp [result])
        | capacity => exact unchanged (by simp [result]) (by simp [result])

private theorem promised_done (sound : Sound runtime sha256 state) {stage : FlushTask}
    (outstanding : state.task = some stage) (waiting : stage ≠ .queued) (landed : stage ≠ .writing) :
    state.done.Promised := by
  have discarded : Sound runtime sha256 { state with task := none } :=
    sound.withTask fun _ gone => by cases gone
  have healthy := sound.task stage outstanding
  unfold State.done
  rw [outstanding]
  cases stage with
  | queued => exact absurd rfl waiting
  | writing => exact absurd rfl landed
  | failed => cases healthy
  | cancelled => cases healthy
  | finished =>
    dsimp only
    split
    · exact promised_scheduleRouteFlush discarded
    · rename_i settled
      intro _ connected _ dirty
      exact absurd (Bool.and_eq_true_iff.mpr ⟨dirty, by simpa using connected⟩) settled

private theorem promised_step (sound : Sound runtime sha256 state) {event : Event}
    (meets : Meets runtime sha256 state event) (watched : Watched state event) :
    (step runtime sha256 state event).Promised := by
  cases event with
  | bindInboundRoute inbound => exact promised_bindInboundRoute sound meets
  | done =>
    obtain ⟨stage, outstanding, waiting, landed⟩ := watched
    unfold RouteFlush.step
    dsimp only
    split
    · exact promised_done sound outstanding waiting landed
    · rename_i stopped
      intro running
      exact absurd running stopped
  | _ => cases watched

theorem run_sound {soleIdentityMode : Bool} {events : List Event}
    (meets : (machine runtime sha256 soleIdentityMode).Along (Meets runtime sha256) events) :
    Sound runtime sha256 ((machine runtime sha256 soleIdentityMode).run events) :=
  Machine.invariant_of_along (sound_start soleIdentityMode)
    (fun _ event sound meets => sound.step event meets) meets

/-- Where no step loses anything, all is saved or will be. -/
theorem run_kept (runtime : Json.Runtime) (sha256 : Bytes → Bytes) (soleIdentityMode : Bool)
    (events : List Event)
    (meets : (machine runtime sha256 soleIdentityMode).Along (Meets runtime sha256) events) :
    Kept runtime sha256 soleIdentityMode events := by
  refine ⟨(run_sound meets).saves, ?_⟩
  intro earlier event split watched
  subst split
  rw [Machine.run_append]
  exact promised_step (run_sound meets.front) meets.last watched

/-- A group message binds its chat; the write of the task then raises. -/
def raisingRun : List Event :=
  [.connect, .bindInboundRoute ⟨py "robot", some (py "s"), .Group, py "g", none, false⟩, .runTask,
    .endWrite (.raised .recursionError (by decide) .started)]

theorem raisingRun_not_kept : ¬ ∀ runtime sha256 soleIdentityMode events,
    Kept runtime sha256 soleIdentityMode events := by
  intro always
  let runtime : Json.Runtime := ⟨1000, 1000, by decide, by decide, fun _ => "0.0"⟩
  obtain ⟨saved, -⟩ := always runtime id false raisingRun
  rcases saved (by rfl) (by rfl) with chosen | ⟨-, same⟩
  · cases chosen
  · cases same

/-- The first write of the task fails, and the next one is under way. -/
def retriedRun : List Event :=
  [.connect, .bindInboundRoute ⟨py "robot", some (py "s"), .Group, py "g", none, false⟩, .runTask,
    .endWrite (.failed .started), .remark, .done, .runTask]

theorem run_kept_retried :
    Kept ⟨1000, 1000, by decide, by decide, fun _ => "0.0"⟩ id false retriedRun := by
  refine run_kept _ _ _ _ (Machine.along_of_follows ?_)
  refine ⟨trivial, ?_, trivial, ?_, trivial, trivial, trivial, trivial⟩
  · intro quiet
    exact absurd rfl (quiet _ rfl).1
  · intro flight error under pending raised
    cases raised

end OctoChannel.Adapter.RouteFlush

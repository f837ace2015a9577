import OctoChannel.Adapter.Pacing

namespace OctoChannel.Adapter.Reconnect

open Foundation

variable (doubles : Doubles)

open Lifecycle

namespace Lifecycle

variable (state : Lifecycle)

/-- A clean-up behind a failed or cancelled attempt of `connect` ends it without a next
attempt, because the caller is cancelled or the session cannot be closed. -/
def Abandons (raised : Bool) : Prop :=
  (∃ cancelled, state.lifecycleLock = some (.connect (.failed .draining) cancelled) ∧
    (cancelled || raised) = true) ∨
  ∃ cancelled, state.lifecycleLock = some (.connect (.cancelled .draining) cancelled)

/-- What a `connect` finds that ends without a next attempt: a disconnect or a refused identity
has withdrawn the wish for a connection, or a receive loop has left a reconnect task. -/
inductive Relieved : Prop where
  | withdrawn (unwanted : state.needReconnect = false)
  | heir (task : Nat) (live : (state.retries task).isSome = true)

/-- The condition on a step: a reconnect that starts has fewer than 1024 attempts behind
it, and a `connect` that gives up is relieved. -/
def Persists (state : Lifecycle) : Event → Prop
  | .retryStarts task _ _ => state.retries task = some .created →
    state.reconnectInProgress = false → state.needReconnect = true → state.reconnectAttempts < 1024
  | .cleanupCloses raised => state.handleLoops = false → state.Abandons raised → state.Relieved
  | _ => True

/-- Once a connection has been asked for and while it is wanted, a reconnect task is
not done, the receive loop of the handle runs, or `connect` owns the lock. -/
def Kept : Prop :=
  state.begun = true → state.needReconnect = true →
    state.Retrying ∨ state.handleLoops = true ∨ state.ConnectUnderWay

variable {doubles} {state next : Lifecycle} {task : Nat}

theorem retrying_of_some (paced : Paced state) (found : (state.retries task).isSome = true) :
    state.Retrying := by
  refine ⟨task, ?_, found⟩
  by_contra later
  rw [paced.unborn task (Nat.not_lt.mp later)] at found
  cases found

/-- The handle that a spawn leaves belongs to a task that is not done. -/
theorem spawn_handle (wanted : state.needReconnect = true) :
    ∃ task, state.spawnReconnectTask.reconnectTask = some task ∧
      (state.spawnReconnectTask.retries task).isSome = true ∧
      (state.reconnectTask = some task ∨ task = state.nextTask) := by
  unfold spawnReconnectTask
  rw [if_pos wanted]
  have launched : ∃ task, state.launch.reconnectTask = some task ∧
      (state.launch.retries task).isSome = true ∧
      (state.reconnectTask = some task ∨ task = state.nextTask) := by
    refine ⟨state.nextTask, rfl, ?_, .inr rfl⟩
    unfold launch
    simp
  cases handle : state.reconnectTask with
  | none =>
    rw [handle] at launched
    exact launched
  | some current =>
    dsimp only
    by_cases alive : (state.retries current).isSome = true
    · rw [if_pos alive]
      exact ⟨current, handle, alive, .inl rfl⟩
    · rw [if_neg alive]
      rw [handle] at launched
      exact launched

private theorem retrying_spawn (paced : Paced state) (wanted : state.needReconnect = true) :
    state.spawnReconnectTask.Retrying := by
  obtain ⟨task, -, found, -⟩ := spawn_handle wanted
  exact retrying_of_some paced.spawn found

private theorem retrying_failRetry (paced : Paced state) (owned : state.OwnedBy task)
    (wanted : state.needReconnect = true) : (state.failRetry task).Retrying := by
  have held := (paced.holding task).mpr owned
  have ended := paced.failRetry owned
  unfold failRetry at ended ⊢
  rw [if_pos wanted] at ended ⊢
  generalize freedIs : ({ state with
    lifecycleLock := none
    reconnectInProgress := false
    reconnectTask := if state.reconnectTask = some task then none else state.reconnectTask
    } : Lifecycle) = freed at ended ⊢
  have needed : freed.needReconnect = true := by
    rw [← freedIs]
    exact wanted
  obtain ⟨current, -, found, whose⟩ := spawn_handle needed
  have apart : current ≠ task := by
    rintro rfl
    rcases whose with handle | born
    · rw [← freedIs] at handle
      dsimp only at handle
      split at handle
      · cases handle
      · rename_i other
        exact other handle
    · rw [← freedIs] at born
      rw [paced.unborn current (Nat.le_of_eq born.symm)] at held
      cases held
  apply @retrying_of_some _ current ended
  unfold endRetry dropRetry
  dsimp only
  rw [Function.update_of_ne apart]
  exact found

/-- Whoever owns the lock in `_do_connect` is a task that is not done, or `connect`. -/
theorem owner_cases (paced : Paced state) {attempt : Attempt}
    (trying : state.attempt? = some attempt) :
    (∃ task stage cancelled, state.lifecycleLock = some (.retry task stage cancelled) ∧
      state.Retrying) ∨
    ∃ stage cancelled, state.lifecycleLock = some (.connect stage cancelled) := by
  unfold attempt? at trying
  cases owner : state.lifecycleLock with
  | none =>
    rw [owner] at trying
    cases trying
  | some holder =>
    cases holder with
    | retry task stage cancelled =>
      left
      have held := (paced.holding task).mpr ⟨stage, cancelled, owner⟩
      refine ⟨task, stage, cancelled, rfl, ?_⟩
      apply @retrying_of_some _ task paced
      rw [held]
      rfl
    | connect stage cancelled => exact .inr ⟨stage, cancelled, rfl⟩
    | disconnect cleanup =>
      rw [owner] at trying
      cases trying

namespace Kept

theorem of_retrying (retrying : state.Retrying) : state.Kept := fun _ _ => .inl retrying

theorem of_unwanted (unwanted : state.needReconnect = false) : state.Kept := by
  intro _ wanted
  rw [unwanted] at wanted
  cases wanted

theorem of_connect {stage : ConnectStage} {cancelled : Bool}
    (owner : state.lifecycleLock = some (.connect stage cancelled)) : state.Kept :=
  fun _ _ => .inr (.inr ⟨stage, cancelled, owner⟩)

/-- What is kept stays so while the tasks, the loops and the handle of the loop do, and
`connect` keeps the lock. -/
theorem of_same (kept : state.Kept) (begun : next.begun = state.begun)
    (need : next.needReconnect = state.needReconnect) (retries : next.retries = state.retries)
    (count : next.nextTask = state.nextTask) (loops : next.loops = state.loops)
    (handle : next.recvTask = state.recvTask)
    (connect : state.ConnectUnderWay → next.ConnectUnderWay) : next.Kept := by
  intro asked wanted
  rcases kept (begun ▸ asked) (need ▸ wanted) with retrying | looping | underWay
  · left
    unfold Retrying
    rw [retries, count]
    exact retrying
  · right; left
    unfold handleLoops
    rw [loops, handle]
    exact looping
  · exact .inr (.inr (connect underWay))

theorem spawn (paced : Paced state) : state.spawnReconnectTask.Kept := by
  intro _ wanted
  left
  apply retrying_spawn paced
  rcases spawn_eq state with same | launched
  · rw [same] at wanted
    exact wanted
  · rw [launched] at wanted
    exact wanted

theorem connectLocked : state.connectLocked.Kept := by
  unfold Lifecycle.connectLocked
  split
  · exact of_unwanted rfl
  · have owner : state.beginConnect.lifecycleLock =
        some (.connect (.attempt .handshake) false) := rfl
    exact of_connect owner

theorem cancelConnect (kept : state.Kept) : state.cancelConnect.Kept := by
  unfold Lifecycle.cancelConnect
  split
  · exact of_connect rfl
  · exact kept
  · exact of_connect rfl
  · exact kept

theorem setAttempt (kept : state.Kept) (attempt : Attempt) : (state.setAttempt attempt).Kept := by
  unfold Lifecycle.setAttempt
  split
  · rename_i owner
    refine kept.of_same rfl rfl rfl rfl rfl rfl ?_
    rintro ⟨stage, cancelled, never⟩
    rw [owner] at never
    cases never
  · exact of_connect rfl
  · exact kept

theorem failRetry (paced : Paced state) (owned : state.OwnedBy task) :
    (state.failRetry task).Kept := by
  intro _ wanted
  left
  apply retrying_failRetry paced owned
  by_contra unneeded
  unfold Lifecycle.failRetry at wanted
  rw [if_neg unneeded] at wanted
  exact unneeded wanted

theorem fail (paced : Paced state) {attempt : Attempt} (trying : state.attempt? = some attempt) :
    state.fail.Kept := by
  unfold Lifecycle.fail
  rcases owner_cases paced trying with ⟨task, stage, cancelled, owner, -⟩ | ⟨stage, cancelled, owner⟩
  · rw [owner]
    exact failRetry paced ⟨stage, cancelled, owner⟩
  · rw [owner]
    exact of_connect rfl

/-- Behind `_do_connect` the new loop runs, or the next attempt is on its way. -/
theorem settle (paced : Paced state) {attempt : Attempt} (trying : state.attempt? = some attempt)
    (raised : Bool) : (state.settle raised).Kept := by
  unfold Lifecycle.settle
  cases raised with
  | true => exact fail paced.startLoop trying
  | false =>
    have looping : state.startLoop.handleLoops = true := by
      unfold handleLoops startLoop
      simp
    rw [if_neg Bool.false_ne_true]
    unfold succeed
    split
    · exact fun _ _ => .inr (.inl looping)
    · exact fun _ _ => .inr (.inl looping)
    · exact fun _ _ => .inr (.inl looping)

theorem startReceiveTask (paced : Paced state) {attempt : Attempt}
    (trying : state.attempt? = some attempt) (raised : Bool) :
    (state.startReceiveTask raised).Kept := by
  unfold Lifecycle.startReceiveTask
  split
  · rename_i previous _
    split
    · -- the handle is empty while the task or `connect` waits for the loop from before
      rcases owner_cases paced trying with
        ⟨task, stage, cancelled, owner, retrying⟩ | ⟨stage, cancelled, owner⟩
      · apply of_retrying
        unfold Lifecycle.setAttempt
        rw [owner]
        exact retrying
      · unfold Lifecycle.setAttempt
        rw [owner]
        exact of_connect rfl
    · exact settle paced trying raised
  · exact settle paced trying raised

theorem scheduleReconnect (paced : Paced state) (created : state.retries task = some .created)
    (jitter stagger : Draw)
    (soon : state.reconnectInProgress = false → state.needReconnect = true →
      state.reconnectAttempts < 1024) :
    (state.scheduleReconnect doubles task jitter stagger).Kept := by
  have paced' := @Paced.scheduleReconnect doubles _ _ paced created jitter stagger
  unfold Lifecycle.scheduleReconnect at paced' ⊢
  by_cases flag : state.reconnectInProgress = true
  · -- the task that set the flag is another one, and goes on
    rw [if_pos flag] at paced' ⊢
    apply of_retrying
    obtain ⟨current, flagged, attempting⟩ := paced.single
    rw [flag] at flagged
    obtain ⟨other, rfl⟩ := Option.isSome_iff_exists.mp flagged.symm
    obtain ⟨phase, found, active⟩ := (attempting other).mpr rfl
    have apart : other ≠ task := by
      rintro rfl
      rw [created] at found
      cases found
      cases active
    apply @retrying_of_some _ other paced'
    unfold dropRetry
    dsimp only
    rw [Function.update_of_ne apart, found]
    rfl
  rw [if_neg flag] at paced' ⊢
  by_cases wanted : state.needReconnect = true
  · rw [if_pos wanted] at paced' ⊢
    cases drawn : reconnectDelay doubles state.reconnectAttempts jitter stagger with
    | none =>
      have late := reconnectDelay_eq_none_iff.mp drawn
      have early := soon (by simpa using flag) wanted
      omega
    | some delay =>
      rw [drawn] at paced'
      apply of_retrying
      apply @retrying_of_some _ task paced'
      unfold setPhase
      simp
  · rw [if_neg wanted]
    have unwanted : state.needReconnect = false := by simpa using wanted
    exact of_unwanted unwanted

theorem wakeRetry {delay : ℚ} (paced : Paced state)
    (sleeping : state.retries task = some (.sleeping delay)) : (state.wakeRetry task).Kept := by
  have paced' := paced.wakeRetry sleeping
  unfold Lifecycle.wakeRetry at paced' ⊢
  by_cases wanted : state.needReconnect = true
  · rw [if_pos wanted] at paced' ⊢
    apply of_retrying
    apply @retrying_of_some _ task paced'
    unfold setPhase
    simp
  · rw [if_neg wanted]
    have unwanted : state.needReconnect = false := by simpa using wanted
    exact of_unwanted unwanted

theorem lockRetry (paced : Paced state) (awaiting : state.retries task = some .awaitingLock) :
    (state.lockRetry task).Kept := by
  have paced' := paced.lockRetry awaiting
  by_cases wanted : state.needReconnect = true
  · apply of_retrying
    apply @retrying_of_some _ task paced'
    unfold Lifecycle.lockRetry
    rw [if_pos wanted]
    split
    · simp [setPhase]
    · simp [setPhase, beginRetry]
  · unfold Lifecycle.lockRetry
    rw [if_neg wanted]
    have unwanted : state.needReconnect = false := by simpa using wanted
    exact of_unwanted unwanted

theorem exitLoop (paced : Paced state) (kept : state.Kept) (loop : Nat) :
    (state.exitLoop loop).Kept := by
  unfold Lifecycle.exitLoop
  dsimp only
  by_cases own : state.recvTask = some loop
  · rw [if_pos own]
    apply spawn
    exact paced.of_same rfl rfl rfl (fun task => Iff.rfl)
  · rw [if_neg own]
    intro asked wanted
    rcases kept asked wanted with retrying | looping | underWay
    · exact .inl retrying
    · right; left
      unfold handleLoops at looping ⊢
      dsimp only
      cases handle : state.recvTask with
      | none =>
        rw [handle] at looping
        exact looping
      | some other =>
        have apart : other ≠ loop := by
          rintro rfl
          exact own handle
        rw [handle] at looping
        dsimp only at looping ⊢
        rw [Function.update_of_ne apart]
        exact looping
    · exact .inr (.inr underWay)

/-- A clean-up that is not abandoned ends in the attempt of `connect`, in a task for
the next one, or where no connection is wanted. -/
theorem afterCleanup (paced : Paced state) (willing : Willing state) {raised : Bool}
    (cleaning : state.cleanup? = some .draining)
    (persists : state.Abandons raised → state.Relieved) :
    (state.closeTransports.afterCleanup raised).Kept := by
  have given : state.Relieved →
      ({ state.closeTransports with lifecycleLock := none } : Lifecycle).Kept := by
    rintro (unwanted | ⟨task, live⟩)
    · exact of_unwanted unwanted
    · have retrying : state.Retrying := retrying_of_some paced live
      exact of_retrying retrying
  have lock : state.closeTransports.lifecycleLock = state.lifecycleLock := rfl
  unfold cleanup? at cleaning
  unfold Lifecycle.afterCleanup
  dsimp only
  rw [lock]
  cases owner : state.lifecycleLock with
  | none =>
    rw [owner] at cleaning
    cases cleaning
  | some holder =>
    cases holder with
    | retry task stage cancelled =>
      rw [owner] at cleaning
      cases cleaning
    | disconnect cleanup => exact given (.withdrawn (willing.restrained _ owner rfl))
    | connect stage cancelled =>
      cases stage with
      | attempt attempt =>
        rw [owner] at cleaning
        cases cleaning
      | closing cleanup =>
        dsimp only
        by_cases ended : cancelled = true
        · rw [if_pos ended]
          exact given (.withdrawn (willing.restrained _ owner rfl))
        · rw [if_neg ended]
          have begun : state.closeTransports.beginConnect.lifecycleLock =
              some (.connect (.attempt .handshake) false) := rfl
          exact of_connect begun
      | failed cleanup =>
        rw [owner] at cleaning
        cases cleaning
        dsimp only
        by_cases ended : (cancelled || raised) = true
        · rw [if_pos ended]
          exact given (persists (.inl ⟨cancelled, owner, ended⟩))
        · rw [if_neg ended]
          by_cases wanted : state.needReconnect = true
          · have free : ∀ task, ¬ state.OwnedBy task := Paced.unowned_of owner (by simp)
            have freed : Paced { state.closeTransports with lifecycleLock := none } :=
              paced.of_unowned free (Paced.unowned_of rfl (by simp)) rfl rfl rfl
            have asks : (state.closeTransports.needReconnect &&
                !state.closeTransports.disconnecting) = true := by
              rw [Bool.and_eq_true, Bool.not_eq_true']
              exact ⟨wanted, willing.unclosed wanted⟩
            rw [if_pos asks]
            exact spawn freed
          · have unwanted : state.needReconnect = false := by simpa using wanted
            have quiet : ¬ (state.closeTransports.needReconnect &&
                !state.closeTransports.disconnecting) = true := by
              rw [Bool.and_eq_true]
              exact fun both => wanted both.1
            rw [if_neg quiet]
            exact given (.withdrawn unwanted)
      | refused cleanup => exact given (.withdrawn (willing.restrained _ owner rfl))
      | cancelled cleanup =>
        rw [owner] at cleaning
        cases cleaning
        exact given (persists (.inr ⟨cancelled, owner⟩))

end Kept

end Lifecycle

namespace Lifecycle

variable {state : Lifecycle}

theorem cancelRetry_needReconnect (state : Lifecycle) :
    state.cancelRetry.needReconnect = state.needReconnect := by
  have owner : state.cancelOwner.needReconnect = state.needReconnect := by
    unfold cancelOwner
    split <;> rfl
  unfold cancelRetry
  split
  · rfl
  · split
    · rfl
    · rfl
    · rfl
    · rfl
    · exact owner

private theorem cancelRetry_lifecycleLock (free : ∀ task, ¬ state.OwnedBy task) :
    state.cancelRetry.lifecycleLock = state.lifecycleLock := by
  have owner : state.cancelOwner = state := by
    unfold cancelOwner
    split
    · rfl
    · rename_i held
      exact absurd ⟨_, _, held⟩ (free _)
    · rfl
  unfold cancelRetry
  split
  · rfl
  · split
    · rfl
    · rfl
    · rfl
    · rfl
    · rw [owner]

/-- A clean-up is owned by `connect`, or by an owner that wants no connection. -/
theorem cleanup_cases {cleanup : Cleanup} (cleaning : state.cleanup? = some cleanup) :
    (∃ stage cancelled, state.lifecycleLock = some (.connect stage cancelled)) ∨
    ∃ cleanup, state.lifecycleLock = some (.disconnect cleanup) := by
  unfold cleanup? at cleaning
  cases owner : state.lifecycleLock with
  | none =>
    rw [owner] at cleaning
    cases cleaning
  | some holder =>
    cases holder with
    | retry task stage cancelled =>
      rw [owner] at cleaning
      cases cleaning
    | connect stage cancelled => exact .inl ⟨stage, cancelled, rfl⟩
    | disconnect cleanup => exact .inr ⟨cleanup, rfl⟩

theorem unowned_of_cleanup {cleanup : Cleanup} (cleaning : state.cleanup? = some cleanup)
    (task : Nat) : ¬ state.OwnedBy task := by
  rcases cleanup_cases cleaning with ⟨stage, cancelled, owner⟩ | ⟨cleanup, owner⟩
  · exact Paced.unowned_of owner (by simp) task
  · exact Paced.unowned_of owner (by simp) task

private theorem setDraining_connect {stage : ConnectStage} {cancelled : Bool}
    (owner : state.lifecycleLock = some (.connect stage cancelled)) :
    state.setDraining.ConnectUnderWay := by
  unfold setDraining
  rw [owner]
  cases stage with
  | attempt attempt => exact ⟨_, _, owner⟩
  | closing cleanup => exact ⟨_, _, rfl⟩
  | failed cleanup => exact ⟨_, _, rfl⟩
  | refused cleanup => exact ⟨_, _, rfl⟩
  | cancelled cleanup => exact ⟨_, _, rfl⟩

end Lifecycle

variable {doubles} {state : Lifecycle} {event : Event}

theorem Willing.step (willing : Willing state) (persists : state.Persists event) :
    Willing (step doubles state event) := by
  rcases @step_moves doubles state event with stays | moves
  · rw [stays]
    exact willing
  generalize Reconnect.step doubles state event = next at moves
  cases moves with
  | connect free =>
    unfold connectLocked
    split
    · exact Willing.unwanted rfl willing.punctual
    · exact willing.beginConnect
  | cancelConnect => exact willing.cancelConnect
  | disconnect =>
    apply cancelRetry
    · exact Willing.unwanted rfl willing.punctual
    · exact .inl rfl
  | disconnectLocked free => exact Willing.unwanted rfl willing.punctual
  | cleanupCancels cleaning =>
    exact (willing.cancelRetry (.inr (unowned_of_cleanup cleaning))).setDraining
  | cleanupCloses cleaning drained =>
    have closed : Willing state.closeTransports :=
      ⟨willing.restrained, willing.unclosed, willing.punctual⟩
    exact closed.afterCleanup _
  | retryStarts created => exact willing.scheduleReconnect _ _ (persists created)
  | retryWakes sleeping =>
    unfold wakeRetry
    split
    · exact ⟨willing.restrained, willing.unclosed, willing.punctual⟩
    · exact willing.endRetry _
  | retryLocks awaiting free =>
    unfold lockRetry
    split
    · split
      · refine willing.of_same rfl rfl rfl ?_
        intro holder held restrained
        cases held
        cases restrained
      · refine willing.of_same rfl rfl rfl ?_
        intro holder held restrained
        cases held
        cases restrained
    · exact willing.endRetry _
  | @retryClosedSocket task cancelled owner =>
    refine willing.of_same rfl rfl rfl ?_
    intro holder held restrained
    cases held
    cases cancelled with
    | false => cases restrained
    | true => exact ⟨_, owner, rfl⟩
  | retryCancelled owner => exact (willing.endRetry _).release
  | retryCleared => exact ⟨willing.restrained, willing.unclosed, willing.punctual⟩
  | opened => exact ⟨willing.restrained, willing.unclosed, willing.punctual⟩
  | welcomed trying =>
    have set := willing.setAttempt .stoppingHeartbeats
    exact ⟨set.restrained, set.unclosed, set.punctual⟩
  | conflicted trying => exact willing.refuse
  | failed trying => exact willing.fail
  | heartbeatsStopped trying => exact willing.startReceiveTask _
  | loopStopped trying => exact willing.settle _
  | loopExits => exact willing.exitLoop _
  | serverDisconnects => exact ⟨willing.restrained, willing.unclosed, willing.punctual⟩
  | pingTimesOut => exact ⟨willing.restrained, willing.unclosed, willing.punctual⟩

theorem Lifecycle.Kept.step (kept : state.Kept) (paced : Paced state) (willing : Willing state)
    (persists : state.Persists event) : (step doubles state event).Kept := by
  rcases @step_moves doubles state event with stays | moves
  · rw [stays]
    exact kept
  generalize Reconnect.step doubles state event = next at moves
  cases moves with
  | connect free => exact connectLocked
  | cancelConnect => exact kept.cancelConnect
  | disconnect =>
    apply of_unwanted
    exact cancelRetry_needReconnect _
  | disconnectLocked free =>
    apply of_unwanted
    rfl
  | cleanupCancels cleaning =>
    have lock := cancelRetry_lifecycleLock (unowned_of_cleanup cleaning)
    rcases cleanup_cases cleaning with ⟨stage, cancelled, owner⟩ | ⟨cleanup, owner⟩
    · exact fun _ _ => .inr (.inr (setDraining_connect (lock.trans owner)))
    · have unwanted := willing.restrained _ owner rfl
      have still := (cancelRetry_needReconnect state).trans unwanted
      unfold setDraining
      rw [lock, owner]
      exact of_unwanted still
  | cleanupCloses cleaning drained => exact afterCleanup paced willing cleaning (persists drained)
  | retryStarts created => exact scheduleReconnect paced created _ _ (persists created)
  | retryWakes sleeping => exact wakeRetry paced sleeping
  | retryLocks awaiting free => exact lockRetry paced awaiting
  | retryClosedSocket owner =>
    refine kept.of_same rfl rfl rfl rfl rfl rfl ?_
    rintro ⟨stage, cancelled, never⟩
    rw [owner] at never
    cases never
  | retryCancelled owner =>
    have unwanted := willing.restrained _ owner rfl
    exact of_unwanted unwanted
  | retryCleared => exact kept.of_same rfl rfl rfl rfl rfl rfl id
  | opened => exact kept.of_same rfl rfl rfl rfl rfl rfl id
  | welcomed trying => exact (kept.setAttempt _).of_same rfl rfl rfl rfl rfl rfl id
  | conflicted trying =>
    unfold refuse
    rcases owner_cases paced trying with ⟨task, stage, cancelled, owner, -⟩ | ⟨stage, cancelled, owner⟩
    · rw [owner]
      exact of_unwanted rfl
    · rw [owner]
      exact of_unwanted rfl
  | failed trying => exact fail paced trying
  | heartbeatsStopped trying => exact startReceiveTask paced trying _
  | loopStopped trying => exact settle paced trying _
  | loopExits => exact exitLoop paced kept _
  | serverDisconnects => exact kept.of_same rfl rfl rfl rfl rfl rfl id
  | pingTimesOut => exact kept.of_same rfl rfl rfl rfl rfl rfl id

/-- All that a step keeps, when it meets the condition. -/
structure Sound (state : Lifecycle) : Prop where
  paced : Paced state
  willing : Willing state
  kept : state.Kept

private theorem sound_fresh : Sound Lifecycle.fresh where
  paced := by
    constructor
    · refine ⟨none, rfl, fun task => ?_⟩
      constructor
      · rintro ⟨phase, found, -⟩
        cases found
      · intro never
        cases never
    · intro task
      constructor
      · intro found
        cases found
      · rintro ⟨stage, cancelled, owner⟩
        cases owner
    · exact fun _ _ => rfl
    · intro task delay found
      cases found
  willing := by
    constructor
    · intro holder owner
      cases owner
    · exact fun _ => rfl
    · rfl
  kept := by
    intro asked
    cases asked

theorem sound_run {events : List Event} (along : (machine doubles).Along Persists events) :
    Sound ((machine doubles).run events) := by
  apply Machine.invariant_of_along sound_fresh _ along
  intro state event sound persists
  exact ⟨sound.paced.step event, sound.willing.step persists,
    sound.kept.step sound.paced sound.willing persists⟩

/-- Once a connection has been asked for and while it is wanted, a reconnect task lives
whenever no receive loop runs and no `connect` is under way; nothing is raised outside
the inner try, delays stay in their bounds, and no two attempts are in flight. -/
theorem lifecycle_retries (doubles : Doubles) (events : List Event)
    (along : (machine doubles).Along Persists events) :
    let state := (machine doubles).run events
    (state.begun = true → state.needReconnect = true → (∀ loop, state.loops loop = false) →
      ¬ state.ConnectUnderWay → ∃ task, (state.retries task).isSome = true) ∧
    state.overflowed = false ∧
    (∀ task delay, state.retries task = some (.sleeping delay) → 9 / 4 ≤ delay ∧ delay ≤ 80) ∧
    ∀ first second, state.Attempting first → state.Attempting second → first = second := by
  intro state
  obtain ⟨paced, willing, kept⟩ := sound_run along
  refine ⟨?_, willing.punctual, paced.delays, ?_⟩
  · intro asked wanted silent idle
    rcases kept asked wanted with ⟨task, -, found⟩ | looping | underWay
    · exact ⟨task, found⟩
    · unfold handleLoops at looping
      split at looping
      · rename_i loop _
        rw [silent loop] at looping
        cases looping
      · cases looping
    · exact absurd underWay idle
  · intro first second here there
    exact paced.lone there first here

/-- A first connection attempt that fails. -/
def failedConnect : List Event := [.connect true, .failed, .cleanupCancels, .cleanupCloses false]

private theorem failedConnect_persists :
    (machine doubles).Along Persists failedConnect := by
  apply Machine.along_of_follows
  refine ⟨trivial, trivial, trivial, ?_, trivial⟩
  rintro - (⟨cancelled, owner, ended⟩ | ⟨cancelled, owner⟩)
  · cases owner
    cases ended
  · cases owner

theorem lifecycle_retries_failedConnect :
    ∃ task, (((machine Doubles.rational).run failedConnect).retries task).isSome = true := by
  apply (lifecycle_retries Doubles.rational failedConnect failedConnect_persists).1
  · rfl
  · rfl
  · exact fun loop => rfl
  · rintro ⟨stage, cancelled, owner⟩
    cases owner

def lowest : Draw := ⟨0, le_refl 0, by norm_num⟩

/-- One more attempt that fails before the socket is open. -/
def failedRetry (task : Nat) : List Event :=
  [.retryStarts task lowest lowest, .retryWakes task, .retryLocks task, .failed]

def failures : Nat → List Event
  | 0 => failedConnect
  | count + 1 => failures count ++ failedRetry count

/-- What so many failed reconnects leave: the task for the next one. -/
def stalled (count : Nat) : Lifecycle :=
  { Lifecycle.fresh with
    reconnectAttempts := count
    httpSession := decide (0 < count)
    retries := Function.update (fun _ => none) count (some .created)
    reconnectTask := some count
    nextTask := count + 1
    begun := true }

private theorem failedRetry_stalled {count : Nat} (early : count < 1024) :
    (failedRetry count).foldl (step doubles) (stalled count) = stalled (count + 1) := by
  cases drawn : reconnectDelay doubles count lowest lowest with
  | none =>
    have late := reconnectDelay_eq_none_iff.mp drawn
    omega
  | some delay =>
    have next : Function.update (Function.update (Function.update (fun _ => none) count
        (some .holdingLock)) (count + 1) (some .created)) count none =
        Function.update (fun _ => none) (count + 1) (some RetryPhase.created) := by
      funext task
      by_cases here : task = count
      · simp [here]
      · simp [Function.update_of_ne here, Function.update_apply]
    simp [failedRetry, step, stalled, Lifecycle.fresh, scheduleReconnect, drawn, wakeRetry, lockRetry,
      setPhase, beginRetry, attempt?, Lifecycle.fail, Lifecycle.failRetry, spawnReconnectTask, launch,
      endRetry, dropRetry, next]

private theorem failures_stalled {count : Nat} (early : count ≤ 1024) :
    (machine doubles).run (failures count) = stalled count := by
  induction count with
  | zero =>
    have left : (machine doubles).run failedConnect =
        { Lifecycle.fresh with
          retries := Function.update (fun _ => none) 0 (some .created)
          reconnectTask := some 0
          nextTask := 1
          begun := true } := rfl
    exact left
  | succ count ih =>
    have before := ih (Nat.le_of_succ_le early)
    unfold Machine.run at before ⊢
    rw [failures, List.foldl_append, before]
    exact failedRetry_stalled early

/-- Behind 1024 failed reconnects the next one raises, and nobody tries again. -/
theorem failingRun_not_retries :
    let state := (machine Doubles.rational).run (failures 1024 ++ [.retryStarts 1024 lowest lowest])
    state.overflowed = true ∧
    ¬ (state.begun = true → state.needReconnect = true → (∀ loop, state.loops loop = false) →
      ¬ state.ConnectUnderWay → ∃ task, (state.retries task).isSome = true) := by
  intro state
  have last : state = { stalled 1024 with retries := fun _ => none, overflowed := true } := by
    have raised : reconnectDelay Doubles.rational 1024 lowest lowest = none :=
      reconnectDelay_eq_none_iff.mpr (Nat.le_refl _)
    have gone : Function.update (Function.update (fun _ => none) 1024
        (some RetryPhase.created)) 1024 none = fun _ => none := by
      rw [Function.update_idem]
      exact Function.update_eq_self 1024 _
    change (machine Doubles.rational).run (failures 1024 ++ [_]) = _
    rw [Machine.run_append, failures_stalled (Nat.le_refl _)]
    simp [machine, step, stalled, Lifecycle.fresh, scheduleReconnect, raised, endRetry, dropRetry,
      gone]
  rw [last]
  refine ⟨rfl, ?_⟩
  intro retries
  obtain ⟨task, found⟩ := retries rfl rfl (fun _ => rfl) (by
    rintro ⟨stage, cancelled, owner⟩
    cases owner)
  cases found

end OctoChannel.Adapter.Reconnect

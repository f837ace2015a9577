import OctoChannel.Foundation.Doubles
import OctoChannel.Foundation.Runs

/-! How a runtime gets its connection back: `connect`, the chain of
`_schedule_reconnect` tasks, `_do_connect` as far as tasks and flags go, the receive
loop, and `disconnect`. The lifecycle lock holds where its owner has got to; the tasks
take their steps in any order. -/

namespace OctoChannel.Adapter.Reconnect

open Foundation

def reconnectBaseDelay : ℚ := 3
def reconnectMaxDelay : ℚ := 60
def reconnectStaggerMaxS : ℚ := 5

/-- What `random.random()` draws. -/
abbrev Draw := { value : ℚ // 0 ≤ value ∧ value < 1 }

variable (doubles : Doubles)

/-- The backoff, its jitter and the stagger; `none` is the OverflowError of the
product of a float and an integer. -/
def reconnectDelay (reconnectAttempts : Nat) (jitter stagger : Draw) : Option ℚ :=
  match doubles.ofNat? (2 ^ reconnectAttempts) with
  | none => none
  | some power =>
    let exponential := min (doubles.mul reconnectBaseDelay power) reconnectMaxDelay
    let delay := doubles.mul exponential (doubles.add (3 / 4) (doubles.mul jitter.val (1 / 2)))
    some (doubles.add delay (doubles.mul stagger.val reconnectStaggerMaxS))

/-- Where a `_schedule_reconnect` task is, from its creation to its end. -/
inductive RetryPhase where
  | created
  | sleeping (delay : ℚ)
  | awaitingLock
  | holdingLock
  deriving DecidableEq

/-- The task has passed its dedup check. -/
def RetryPhase.attempting : RetryPhase → Bool
  | .created => false
  | _ => true

/-- Where `_do_connect` is: before its CONNACK, or behind it, where it stops the
heartbeat tasks and the receive loop from before. -/
inductive Attempt where
  | handshake
  | stoppingHeartbeats
  | stoppingLoop (previous : Nat)

/-- `_finalize_disconnect_resources`, before and while it waits for the tasks that it
has cancelled. -/
inductive Cleanup where
  | scheduled
  | draining

/-- Where `_connect_locked` is: in the `_disconnect_locked` of a connection that was
left open, in `_do_connect`, or in the clean-up behind an exception of it. -/
inductive ConnectStage where
  | closing (cleanup : Cleanup)
  | attempt (attempt : Attempt)
  | failed (cleanup : Cleanup)
  | refused (cleanup : Cleanup)
  | cancelled (cleanup : Cleanup)

/-- Where `_schedule_reconnect` is inside the lock. -/
inductive RetryStage where
  | closingSocket
  | attempt (attempt : Attempt)

/-- The owner of the lifecycle lock; `cancelled` once a cancellation of it has been
asked for and has not arrived or is put off. -/
inductive Holder where
  | connect (stage : ConnectStage) (cancelled : Bool)
  | retry (task : Nat) (stage : RetryStage) (cancelled : Bool)
  | disconnect (cleanup : Cleanup)

structure Lifecycle where
  needReconnect : Bool
  disconnecting : Bool
  connected : Bool
  reconnectAttempts : Nat
  reconnectInProgress : Bool
  httpSession : Bool
  ws : Bool
  lifecycleLock : Option Holder
  /-- The `_schedule_reconnect` tasks that are not done, and the handle. -/
  retries : Nat → Option RetryPhase
  reconnectTask : Option Nat
  /-- The receive loops that run, and the handle. -/
  loops : Nat → Bool
  recvTask : Option Nat
  nextTask : Nat
  /-- An attempt of `connect` has begun. -/
  begun : Bool
  /-- `_schedule_reconnect` has raised outside its inner try. -/
  overflowed : Bool

namespace Lifecycle

/-- The state that the constructor leaves. -/
def fresh : Lifecycle where
  needReconnect := true
  disconnecting := false
  connected := false
  reconnectAttempts := 0
  reconnectInProgress := false
  httpSession := false
  ws := false
  lifecycleLock := none
  retries := fun _ => none
  reconnectTask := none
  loops := fun _ => false
  recvTask := none
  nextTask := 0
  begun := false
  overflowed := false

variable (state : Lifecycle)

def launch : Lifecycle :=
  { state with
    retries := Function.update state.retries state.nextTask (some .created)
    reconnectTask := some state.nextTask
    nextTask := state.nextTask + 1 }

def spawnReconnectTask : Lifecycle :=
  if state.needReconnect then
    match state.reconnectTask with
    | some current => if (state.retries current).isSome then state else state.launch
    | none => state.launch
  else state

def setPhase (task : Nat) (phase : RetryPhase) : Lifecycle :=
  { state with retries := Function.update state.retries task (some phase) }

/-- A task that returns at its first checks. -/
def dropRetry (task : Nat) : Lifecycle :=
  { state with retries := Function.update state.retries task none }

/-- A task that ends through its `finally`. -/
def endRetry (task : Nat) : Lifecycle :=
  { state.dropRetry task with reconnectInProgress := false }

/-- From the first step of the task to its sleep. -/
def scheduleReconnect (task : Nat) (jitter stagger : Draw) : Lifecycle :=
  if state.reconnectInProgress then state.dropRetry task
  else if state.needReconnect then
    match reconnectDelay doubles state.reconnectAttempts jitter stagger with
    | none => { state.endRetry task with overflowed := true }
    | some delay =>
      { state.setPhase task (.sleeping delay) with
        reconnectInProgress := true
        reconnectAttempts := state.reconnectAttempts + 1 }
  else state.dropRetry task

def wakeRetry (task : Nat) : Lifecycle :=
  if state.needReconnect then state.setPhase task .awaitingLock else state.endRetry task

/-- `_do_connect` begins with a session if there is none. -/
def beginRetry (task : Nat) (cancelled : Bool) : Lifecycle :=
  { state with
    httpSession := true
    lifecycleLock := some (.retry task (.attempt .handshake) cancelled) }

def lockRetry (task : Nat) : Lifecycle :=
  if state.needReconnect then
    if state.ws then
      { state.setPhase task .holdingLock with
        lifecycleLock := some (.retry task .closingSocket false) }
    else (state.setPhase task .holdingLock).beginRetry task false
  else state.endRetry task

/-- The `except Exception` of a reconnect: the flag and the handle are cleared before
the next attempt is scheduled. -/
def failRetry (task : Nat) : Lifecycle :=
  let freed := { state with lifecycleLock := none }
  if state.needReconnect then
    { freed with
      reconnectInProgress := false
      reconnectTask := if state.reconnectTask = some task then none else state.reconnectTask
      }.spawnReconnectTask.endRetry task
  else freed.endRetry task

/-- A cancellation of the task that owns the lock: it ends where the cancellation
reaches it, but `_do_connect` takes one that reaches it while it stops the tasks from
before as the end of theirs. -/
def cancelOwner : Lifecycle :=
  match state.lifecycleLock with
  | some (.retry _ (.attempt .stoppingHeartbeats) _) => state
  | some (.retry owner stage _) => { state with lifecycleLock := some (.retry owner stage true) }
  | _ => state

/-- Cancelling the reconnect task of the handle. One that sleeps or waits for the lock
ends before anything else can use the flag. -/
def cancelRetry : Lifecycle :=
  match state.reconnectTask with
  | none => state
  | some task =>
    match state.retries task with
    | none => state
    | some .created => state.dropRetry task
    | some (.sleeping _) | some .awaitingLock => state.endRetry task
    | some .holdingLock => state.cancelOwner

/-- The attempt of `connect`. -/
def beginConnect : Lifecycle :=
  { state with
    disconnecting := false
    httpSession := true
    needReconnect := true
    begun := true
    lifecycleLock := some (.connect (.attempt .handshake) false) }

def startLoop : Lifecycle :=
  { state with
    connected := true
    loops := Function.update state.loops state.nextTask true
    recvTask := some state.nextTask
    nextTask := state.nextTask + 1 }

/-- `_do_connect` returns. -/
def succeed : Lifecycle :=
  match state.lifecycleLock with
  | some (.retry task _ _) => { state.endRetry task with lifecycleLock := none }
  | some (.connect _ _) => { state with lifecycleLock := none }
  | _ => state

/-- `_do_connect` raises. -/
def fail : Lifecycle :=
  match state.lifecycleLock with
  | some (.retry task _ _) => state.failRetry task
  | some (.connect _ _) =>
    { state with lifecycleLock := some (.connect (.failed .scheduled) false) }
  | _ => state

/-- The loop is started, and what follows it up to the end may raise. -/
def settle (raised : Bool) : Lifecycle :=
  if raised then state.startLoop.fail else state.startLoop.succeed

/-- `IdentityConflictError` from the claim. -/
def refuse : Lifecycle :=
  let unwanted := { state with needReconnect := false }
  match state.lifecycleLock with
  | some (.retry task _ _) => { unwanted.endRetry task with lifecycleLock := none }
  | some (.connect _ _) =>
    { unwanted with lifecycleLock := some (.connect (.refused .scheduled) false) }
  | _ => state

/-- Where the lock owner is in `_do_connect`. -/
def attempt? : Option Attempt :=
  match state.lifecycleLock with
  | some (.retry _ (.attempt attempt) _) => some attempt
  | some (.connect (.attempt attempt) _) => some attempt
  | _ => none

def setAttempt (attempt : Attempt) : Lifecycle :=
  match state.lifecycleLock with
  | some (.retry task _ cancelled) =>
    { state with lifecycleLock := some (.retry task (.attempt attempt) cancelled) }
  | some (.connect _ cancelled) =>
    { state with lifecycleLock := some (.connect (.attempt attempt) cancelled) }
  | _ => state

/-- A CONNACK that reports success. -/
def welcome : Lifecycle :=
  { state.setAttempt .stoppingHeartbeats with connected := true, reconnectAttempts := 0 }

/-- `_start_receive_task`: a loop that still runs is given up and awaited first. -/
def startReceiveTask (raised : Bool) : Lifecycle :=
  match state.recvTask with
  | some previous =>
    if state.loops previous then
      { state.setAttempt (.stoppingLoop previous) with recvTask := none }
    else state.settle raised
  | none => state.settle raised

/-- The owner's cancellation has been asked for. -/
def ownerCancelled : Bool :=
  match state.lifecycleLock with
  | some (.retry _ _ cancelled) => cancelled
  | some (.connect _ cancelled) => cancelled
  | _ => false

/-- The lock is owned by a clean-up in the given state. -/
def cleanup? : Option Cleanup :=
  match state.lifecycleLock with
  | some (.connect (.closing cleanup) _) => some cleanup
  | some (.connect (.failed cleanup) _) => some cleanup
  | some (.connect (.refused cleanup) _) => some cleanup
  | some (.connect (.cancelled cleanup) _) => some cleanup
  | some (.disconnect cleanup) => some cleanup
  | _ => none

def setDraining : Lifecycle :=
  match state.lifecycleLock with
  | some (.connect (.closing _) cancelled) =>
    { state with lifecycleLock := some (.connect (.closing .draining) cancelled) }
  | some (.connect (.failed _) cancelled) =>
    { state with lifecycleLock := some (.connect (.failed .draining) cancelled) }
  | some (.connect (.refused _) cancelled) =>
    { state with lifecycleLock := some (.connect (.refused .draining) cancelled) }
  | some (.connect (.cancelled _) cancelled) =>
    { state with lifecycleLock := some (.connect (.cancelled .draining) cancelled) }
  | some (.disconnect _) => { state with lifecycleLock := some (.disconnect .draining) }
  | _ => state

/-- The receive loop of the handle still runs. -/
def handleLoops : Bool :=
  match state.recvTask with
  | some loop => state.loops loop
  | none => false

/-- Behind the wait: the handles, the socket and the session are given up. -/
def closeTransports : Lifecycle :=
  { state with reconnectTask := none, recvTask := none, ws := false, httpSession := false }

/-- What follows a clean-up. Closing the session may raise, which only
`_disconnect_locked` catches. -/
def afterCleanup (raised : Bool) : Lifecycle :=
  let freed := { state with lifecycleLock := none }
  match state.lifecycleLock with
  | some (.connect (.closing _) cancelled) => if cancelled then freed else state.beginConnect
  | some (.connect (.failed _) cancelled) =>
    if cancelled || raised then freed
    else if state.needReconnect && !state.disconnecting then freed.spawnReconnectTask
    else freed
  | _ => freed

/-- The first part of `disconnect`, before the lock is asked for. -/
def askDisconnect : Lifecycle :=
  { state with needReconnect := false, disconnecting := true }.cancelRetry

/-- `_disconnect_locked` up to its clean-up, for the owner that runs it. -/
def disconnectLocked (owner : Holder) : Lifecycle :=
  { state with
    needReconnect := false
    disconnecting := true
    connected := false
    lifecycleLock := some owner }

/-- `_connect_locked` from the lock on, for a runtime with an URL and a token. -/
def connectLocked : Lifecycle :=
  if state.httpSession || state.ws then state.disconnectLocked (.connect (.closing .scheduled) false)
  else state.beginConnect

/-- The caller of a `connect` that owns the lock is cancelled. -/
def cancelConnect : Lifecycle :=
  match state.lifecycleLock with
  | some (.connect (.attempt .handshake) _) =>
    { state with lifecycleLock := some (.connect (.cancelled .scheduled) false) }
  | some (.connect (.attempt .stoppingHeartbeats) _) => state
  | some (.connect stage _) => { state with lifecycleLock := some (.connect stage true) }
  | _ => state

/-- The `finally` of a receive loop. -/
def exitLoop (loop : Nat) : Lifecycle :=
  let ended := { state with loops := Function.update state.loops loop false }
  if state.recvTask = some loop then { ended with connected := false }.spawnReconnectTask
  else ended

end Lifecycle

/-- The segments between two awaits, and what the network and the callers do. -/
inductive Event where
  | connect (configured : Bool)
  | cancelConnect
  | disconnect
  | disconnectLocked
  | cleanupCancels
  | cleanupCloses (raised : Bool)
  | retryStarts (task : Nat) (jitter stagger : Draw)
  | retryWakes (task : Nat)
  | retryLocks (task : Nat)
  | retryClosedSocket
  | retryCancelled
  | retryCleared
  | opened
  | welcomed
  | conflicted
  | failed
  | heartbeatsStopped (raised : Bool)
  | loopStopped (raised : Bool)
  | loopExits (loop : Nat)
  | serverDisconnects (loop : Nat)
  | pingTimesOut

open Lifecycle in
def step (state : Lifecycle) : Event → Lifecycle
  | .connect configured =>
    if configured && state.lifecycleLock.isNone then state.connectLocked else state
  | .cancelConnect => state.cancelConnect
  | .disconnect => state.askDisconnect
  | .disconnectLocked =>
    if state.lifecycleLock.isNone then state.disconnectLocked (.disconnect .scheduled) else state
  | .cleanupCancels =>
    match state.cleanup? with
    | some .scheduled => state.cancelRetry.setDraining
    | _ => state
  | .cleanupCloses raised =>
    match state.cleanup? with
    | some .draining =>
      if state.handleLoops then state else state.closeTransports.afterCleanup raised
    | _ => state
  | .retryStarts task jitter stagger =>
    match state.retries task with
    | some .created => state.scheduleReconnect doubles task jitter stagger
    | _ => state
  | .retryWakes task =>
    match state.retries task with
    | some (.sleeping _) => state.wakeRetry task
    | _ => state
  | .retryLocks task =>
    match state.retries task, state.lifecycleLock with
    | some .awaitingLock, none => state.lockRetry task
    | _, _ => state
  | .retryClosedSocket =>
    match state.lifecycleLock with
    | some (.retry task .closingSocket cancelled) =>
      { state with ws := false }.beginRetry task cancelled
    | _ => state
  | .retryCancelled =>
    match state.lifecycleLock with
    | some (.retry task .closingSocket true) | some (.retry task (.attempt .handshake) true) =>
      { state.endRetry task with lifecycleLock := none }
    | _ => state
  -- the done callback of the reconnect task
  | .retryCleared =>
    match state.reconnectTask with
    | some task => if (state.retries task).isSome then state else { state with reconnectTask := none }
    | none => state
  | .opened =>
    match state.attempt? with
    | some .handshake => { state with ws := true }
    | _ => state
  | .welcomed =>
    match state.attempt? with
    | some .handshake => state.welcome
    | _ => state
  | .conflicted =>
    match state.attempt? with
    | some .handshake => state.refuse
    | _ => state
  | .failed =>
    match state.attempt? with
    | some (.stoppingLoop previous) => if state.loops previous then state else state.fail
    | some _ => state.fail
    | none => state
  | .heartbeatsStopped raised =>
    match state.attempt? with
    | some .stoppingHeartbeats => state.startReceiveTask raised
    | _ => state
  -- a cancellation that arrives here is taken as the end of the previous loop
  | .loopStopped raised =>
    match state.attempt? with
    | some (.stoppingLoop previous) =>
      if state.loops previous && !state.ownerCancelled then state else state.settle raised
    | _ => state
  | .loopExits loop => if state.loops loop then state.exitLoop loop else state
  | .serverDisconnects loop => if state.loops loop then { state with connected := false } else state
  | .pingTimesOut => { state with connected := false }

def machine : Machine Lifecycle Event := ⟨Lifecycle.fresh, step doubles⟩

/-- The steps that are not skipped, with what has let them happen. -/
inductive Moves (state : Lifecycle) : Event → Lifecycle → Prop where
  | connect (free : state.lifecycleLock = none) : Moves state (.connect true) state.connectLocked
  | cancelConnect : Moves state .cancelConnect state.cancelConnect
  | disconnect : Moves state .disconnect state.askDisconnect
  | disconnectLocked (free : state.lifecycleLock = none) :
      Moves state .disconnectLocked (state.disconnectLocked (.disconnect .scheduled))
  | cleanupCancels {cleanup : Cleanup} (cleaning : state.cleanup? = some cleanup) :
      Moves state .cleanupCancels state.cancelRetry.setDraining
  | cleanupCloses {raised : Bool} (cleaning : state.cleanup? = some .draining)
      (drained : state.handleLoops = false) :
      Moves state (.cleanupCloses raised) (state.closeTransports.afterCleanup raised)
  | retryStarts {task : Nat} {jitter stagger : Draw} (created : state.retries task = some .created) :
      Moves state (.retryStarts task jitter stagger)
        (state.scheduleReconnect doubles task jitter stagger)
  | retryWakes {task : Nat} {delay : ℚ} (sleeping : state.retries task = some (.sleeping delay)) :
      Moves state (.retryWakes task) (state.wakeRetry task)
  | retryLocks {task : Nat} (awaiting : state.retries task = some .awaitingLock)
      (free : state.lifecycleLock = none) : Moves state (.retryLocks task) (state.lockRetry task)
  | retryClosedSocket {task : Nat} {cancelled : Bool}
      (owner : state.lifecycleLock = some (.retry task .closingSocket cancelled)) :
      Moves state .retryClosedSocket ({ state with ws := false }.beginRetry task cancelled)
  | retryCancelled {task : Nat} {stage : RetryStage}
      (owner : state.lifecycleLock = some (.retry task stage true)) :
      Moves state .retryCancelled { state.endRetry task with lifecycleLock := none }
  | retryCleared : Moves state .retryCleared { state with reconnectTask := none }
  | opened : Moves state .opened { state with ws := true }
  | welcomed {attempt : Attempt} (trying : state.attempt? = some attempt) :
      Moves state .welcomed state.welcome
  | conflicted {attempt : Attempt} (trying : state.attempt? = some attempt) :
      Moves state .conflicted state.refuse
  | failed {attempt : Attempt} (trying : state.attempt? = some attempt) :
      Moves state .failed state.fail
  | heartbeatsStopped {raised : Bool} {attempt : Attempt} (trying : state.attempt? = some attempt) :
      Moves state (.heartbeatsStopped raised) (state.startReceiveTask raised)
  | loopStopped {raised : Bool} {attempt : Attempt} (trying : state.attempt? = some attempt) :
      Moves state (.loopStopped raised) (state.settle raised)
  | loopExits {loop : Nat} : Moves state (.loopExits loop) (state.exitLoop loop)
  | serverDisconnects {loop : Nat} :
      Moves state (.serverDisconnects loop) { state with connected := false }
  | pingTimesOut : Moves state .pingTimesOut { state with connected := false }

section Told

variable (state : Lifecycle)

/-- The step is skipped, or the event's move is made. -/
private def Told (event : Event) : Prop :=
  step doubles state event = state ∨ Moves doubles state event (step doubles state event)

private theorem connect_told (configured : Bool) : Told doubles state (.connect configured) := by
  unfold Told step
  dsimp only
  split
  · rename_i entered
    rw [Bool.and_eq_true, Option.isNone_iff_eq_none] at entered
    obtain ⟨rfl, free⟩ := entered
    exact .inr (.connect free)
  · exact .inl rfl

private theorem disconnectLocked_told : Told doubles state .disconnectLocked := by
  unfold Told step
  dsimp only
  split
  · rename_i free
    exact .inr (.disconnectLocked (Option.isNone_iff_eq_none.mp free))
  · exact .inl rfl

private theorem cleanupCancels_told : Told doubles state .cleanupCancels := by
  unfold Told step
  dsimp only
  split
  · rename_i cleaning
    exact .inr (.cleanupCancels cleaning)
  · exact .inl rfl

private theorem cleanupCloses_told (raised : Bool) :
    Told doubles state (.cleanupCloses raised) := by
  unfold Told step
  dsimp only
  split
  · rename_i cleaning
    split
    · exact .inl rfl
    · rename_i drained
      exact .inr (.cleanupCloses cleaning (Bool.not_eq_true _ ▸ drained))
  · exact .inl rfl

private theorem retryStarts_told (task : Nat) (jitter stagger : Draw) :
    Told doubles state (.retryStarts task jitter stagger) := by
  unfold Told step
  dsimp only
  split
  · rename_i created
    exact .inr (.retryStarts created)
  · exact .inl rfl

private theorem retryWakes_told (task : Nat) : Told doubles state (.retryWakes task) := by
  unfold Told step
  dsimp only
  split
  · rename_i sleeping
    exact .inr (.retryWakes sleeping)
  · exact .inl rfl

private theorem retryLocks_told (task : Nat) : Told doubles state (.retryLocks task) := by
  unfold Told step
  dsimp only
  split
  · rename_i awaiting free
    exact .inr (.retryLocks awaiting free)
  · exact .inl rfl

private theorem retryClosedSocket_told : Told doubles state .retryClosedSocket := by
  unfold Told step
  dsimp only
  split
  · rename_i owner
    exact .inr (.retryClosedSocket owner)
  · exact .inl rfl

private theorem retryCancelled_told : Told doubles state .retryCancelled := by
  unfold Told step
  dsimp only
  split
  · rename_i owner
    exact .inr (.retryCancelled owner)
  · rename_i owner
    exact .inr (.retryCancelled owner)
  · exact .inl rfl

private theorem retryCleared_told : Told doubles state .retryCleared := by
  unfold Told step
  dsimp only
  split
  · split
    · exact .inl rfl
    · exact .inr .retryCleared
  · exact .inl rfl

private theorem opened_told : Told doubles state .opened := by
  unfold Told step
  dsimp only
  split
  · exact .inr .opened
  · exact .inl rfl

private theorem welcomed_told : Told doubles state .welcomed := by
  unfold Told step
  dsimp only
  split
  · rename_i trying
    exact .inr (.welcomed trying)
  · exact .inl rfl

private theorem conflicted_told : Told doubles state .conflicted := by
  unfold Told step
  dsimp only
  split
  · rename_i trying
    exact .inr (.conflicted trying)
  · exact .inl rfl

private theorem failed_told : Told doubles state .failed := by
  unfold Told step
  dsimp only
  split
  · rename_i trying
    split
    · exact .inl rfl
    · exact .inr (.failed trying)
  · rename_i trying
    exact .inr (.failed trying)
  · exact .inl rfl

private theorem heartbeatsStopped_told (raised : Bool) :
    Told doubles state (.heartbeatsStopped raised) := by
  unfold Told step
  dsimp only
  split
  · rename_i trying
    exact .inr (.heartbeatsStopped trying)
  · exact .inl rfl

private theorem loopStopped_told (raised : Bool) : Told doubles state (.loopStopped raised) := by
  unfold Told step
  dsimp only
  split
  · rename_i trying
    split
    · exact .inl rfl
    · exact .inr (.loopStopped trying)
  · exact .inl rfl

private theorem loopExits_told (loop : Nat) : Told doubles state (.loopExits loop) := by
  unfold Told step
  dsimp only
  split
  · exact .inr .loopExits
  · exact .inl rfl

private theorem serverDisconnects_told (loop : Nat) :
    Told doubles state (.serverDisconnects loop) := by
  unfold Told step
  dsimp only
  split
  · exact .inr .serverDisconnects
  · exact .inl rfl

variable {doubles} in
theorem step_moves (event : Event) :
    step doubles state event = state ∨ Moves doubles state event (step doubles state event) := by
  cases event with
  | connect configured => exact connect_told doubles state configured
  | cancelConnect => exact .inr .cancelConnect
  | disconnect => exact .inr .disconnect
  | disconnectLocked => exact disconnectLocked_told doubles state
  | cleanupCancels => exact cleanupCancels_told doubles state
  | cleanupCloses raised => exact cleanupCloses_told doubles state raised
  | retryStarts task jitter stagger => exact retryStarts_told doubles state task jitter stagger
  | retryWakes task => exact retryWakes_told doubles state task
  | retryLocks task => exact retryLocks_told doubles state task
  | retryClosedSocket => exact retryClosedSocket_told doubles state
  | retryCancelled => exact retryCancelled_told doubles state
  | retryCleared => exact retryCleared_told doubles state
  | opened => exact opened_told doubles state
  | welcomed => exact welcomed_told doubles state
  | conflicted => exact conflicted_told doubles state
  | failed => exact failed_told doubles state
  | heartbeatsStopped raised => exact heartbeatsStopped_told doubles state raised
  | loopStopped raised => exact loopStopped_told doubles state raised
  | loopExits loop => exact loopExits_told doubles state loop
  | serverDisconnects loop => exact serverDisconnects_told doubles state loop
  | pingTimesOut => exact .inr .pingTimesOut

end Told

end OctoChannel.Adapter.Reconnect

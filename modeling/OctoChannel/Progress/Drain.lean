import OctoChannel.Progress.Controller

namespace OctoChannel.Progress

open Foundation Identity

/-- The manifest lookup: the selected registry template, and whether cards are enabled. -/
structure ProfileAnswer where
  selected : Option TemplateRef
  enabled : Bool

/-- The classes `_progress_edit_retryable` tells apart. -/
inductive EditError where
  | api (status : Option Int)
  | typeOrValue
  | other
  deriving DecidableEq

inductive EditAnswer where
  | edited
  | raised (error : EditError)
  deriving DecidableEq

/-- How `_sync_reasoning_card_session` ends once the card has a message id: the session
is kept with its actions, or not, or the store of card sessions raises. -/
inductive SyncAnswer where
  | kept
  | withdrawn
  | raised
  deriving DecidableEq

/-- What the world answers to one step of a drain; a step reads what it waits for.
`none` is a call that raises, and `now` is read with each snapshot. -/
structure World where
  now : Int
  starts : Bool
  profile : Option ProfileAnswer
  renders : Bool
  sent : Option PyStr
  edited : EditAnswer
  synced : SyncAnswer
  discards : Bool

/-- `_progress_edit_retryable` -/
def progressEditRetryable : EditError → Bool
  | .api none => true
  | .api (some status) => status ∈ [408, 425, 429] || 500 ≤ status
  | .typeOrValue => false
  | .other => true

/-- `_sync_reasoning_card_session`; `none` when it raises. -/
def syncReasoningCardSession (turn : ProgressTurn) (preserveOnDrop : Bool) (answer : SyncAnswer) :
    Option ProgressTurn :=
  if turn.messageId.all (· = []) then some turn
  else
    match answer with
    | .kept => some { turn with preserveRegistrySessionOnDrop := preserveOnDrop }
    | .withdrawn => some { turn with preserveRegistrySessionOnDrop := false }
    | .raised => none

namespace Snapshot

variable (snap : Snapshot)

def isRegistry : Bool := snap.deliveryMode.any DeliveryMode.isRegistry

/-- `build_reasoning_process_wire_data` has something to show: an action in some phase. -/
def hasWireData : Bool := snap.tools.any fun tool => !tool.isThinking

/-- The way from the snapshot to the next await or lock section. A registry card is
built before its message is looked at, another card only for an edit. -/
def stage (renders : Bool) : Stage :=
  if snap.deliveryMode = none then .fetching
  else if snap.tools = [] then .idling
  else if snap.isRegistry then
    if !renders then .dropping .failed
    else if !snap.hasWireData then .idling
    else if snap.messageId = none then .announcing
    else .awaiting 0
  else if snap.messageId = none then .announcing
  else if !renders then .dropping .failed
  else .awaiting 0

end Snapshot

namespace Controller

variable (controller : Controller)

/-- `current`, when it is still the turn of the snapshot. -/
def current? (key : ProgressKey) (snap : Snapshot) : Option ProgressTurn :=
  (controller.states.get? key).filter (·.ident = snap.ident)

/-- The drain writes its current turn. -/
def write (drain : Drain) (turn : ProgressTurn) : Controller :=
  (controller.record (.changed drain.owner turn.ident)).store drain.key turn

/-- The lock section at the top of the loop, up to the next await or lock section. -/
def look (index : Nat) (drain : Drain) (world : World) : Controller :=
  match controller.states.get? drain.key with
  | none => controller.setDrain index drain.finish
  | some turn =>
    let status := controller.adapters turn.adapter
    if status.disconnecting ∨ !status.httpSession then
      (controller.dropStateLocked drain.key (.adapterGone drain.owner) world.discards).2.setDrain
        index drain.finish
    else
      let snap := turn.snapshot world.now
      let read := (controller.record (.read drain.owner turn.ident)).setDrain index
        (drain.moved (.working snap (snap.stage world.renders)))
      match snap.stage world.renders with
      | .awaiting _ => read.record (.edited drain.owner snap)
      | _ => read

/-- The drain drops whatever its key holds. A discard that raises lands in the handler
of the loop, which drops by key once more, or ends the coroutine when it is there. -/
def dropByKey (index : Nat) (drain : Drain) (snap : Snapshot) (reason : DropReason)
    (discards : Bool) : Controller :=
  match controller.dropStateLocked drain.key (.gaveUp drain.owner snap reason) discards with
  | (true, dropped) =>
    dropped.setDrain index
      (if reason = .failed then drain.finish else drain.moved (.working snap (.dropping .failed)))
  | (false, dropped) => dropped.setDrain index drain.finish

/-- The turn is delivered, or has nothing to render, and the drain leaves it. Inside the
`try` a discard that raises leads to the handler. -/
def leave (index : Nat) (drain : Drain) (snap : Snapshot) (cause : Cause) (turn : ProgressTurn)
    (inTry discards : Bool) : Controller :=
  let left := controller.write drain { turn with scheduled := false }
  if turn.final then
    match left.dropStateLocked drain.key cause discards with
    | (true, dropped) =>
      dropped.setDrain index
        (if inTry then drain.moved (.working snap (.dropping .failed)) else drain.finish)
    | (false, dropped) => dropped.setDrain index drain.finish
  else left.setDrain index drain.finish

/-- The manifest has been found enabled. -/
def choose (index : Nat) (drain : Drain) (snap : Snapshot) (selected : Option TemplateRef) :
    Controller :=
  match controller.current? drain.key snap with
  | none => controller.setDrain index drain.finish
  | some turn =>
    (controller.write drain { turn with
      deliveryMode := some (selected.elim .card .registry) }).setDrain index
        (drain.moved (.looking (some snap)))

/-- The early exits: no tools, or no wire data. -/
def idle (index : Nat) (drain : Drain) (snap : Snapshot) (discards : Bool) : Controller :=
  match controller.current? drain.key snap with
  | none => controller.setDrain index drain.finish
  | some turn =>
    controller.leave index drain snap (.idle drain.owner snap)
      { turn with deliveredRevision := snap.revision } true discards

/-- Before the first send, which is issued right after. -/
def announce (index : Nat) (drain : Drain) (snap : Snapshot) : Controller :=
  match controller.current? drain.key snap with
  | none => controller.setDrain index drain.finish
  | some turn =>
    ((controller.write drain { turn with sendStarted := true }).record
      (.sent drain.owner snap)).setDrain index (drain.moved (.working snap .sending))

/-- The registry session of a card follows it; the assertion that there is wire data
fails when the mode of the turn has changed since the snapshot. -/
def syncCurrent (turn : ProgressTurn) (snap : Snapshot) (preserveOnDrop : Bool)
    (answer : SyncAnswer) : Option ProgressTurn :=
  if !turn.deliveryMode.any DeliveryMode.isRegistry then some turn
  else if !snap.isRegistry then none
  else syncReasoningCardSession turn preserveOnDrop answer

/-- After the first send. -/
def post (index : Nat) (drain : Drain) (snap : Snapshot) (messageId : PyStr) (world : World) :
    Controller :=
  match controller.current? drain.key snap with
  | none => controller.setDrain index drain.finish
  | some turn =>
    let posted := { turn with
      sendStarted := false, messageId := some messageId, initialDelivery := true }
    match syncCurrent posted snap turn.final world.synced with
    | none =>
      (controller.write drain posted).setDrain index
        (drain.moved (.working snap (.dropping .failed)))
    | some synced =>
      let delivered := { synced with deliveredRevision := (snap.revision : Int) }
      if delivered.revision = snap.revision then
        controller.leave index drain snap (.delivered drain.owner snap) delivered true world.discards
      else
        (controller.write drain delivered).setDrain index (drain.moved (.looking (some snap)))

/-- After an edit that the server took. This section is outside the `try`: what raises
here ends the coroutine. -/
def commit (index : Nat) (drain : Drain) (snap : Snapshot) (world : World) : Controller :=
  match controller.current? drain.key snap with
  | none => controller.setDrain index drain.finish
  | some turn =>
    let edited := { turn with cardSeq := snap.nextSeq, deliveredRevision := (snap.revision : Int) }
    match if turn.final then syncCurrent edited snap true world.synced else some edited with
    | none => (controller.write drain edited).setDrain index drain.finish
    | some synced =>
      if synced.revision = snap.revision then
        controller.leave index drain snap (.delivered drain.owner snap) synced false world.discards
      else (controller.write drain synced).setDrain index (drain.moved (.looking (some snap)))

/-- The loop runs the callback of `_schedule_card_progress`. -/
def spawn (index : Nat) (drain : Drain) (starts : Bool) : Controller :=
  if (controller.adapters drain.adapter).disconnecting ∨ !starts then
    controller.setDrain index drain.finish
  else controller.setDrain index (drain.moved (.looking none))

/-- Where an answered edit leads; a third retryable failure ends a round. -/
def editAnswered (drain : Drain) (snap : Snapshot) (attempt : Nat) : EditAnswer → Drain
  | .edited => { drain with editExhaustions := 0, point := .working snap .delivered }
  | .raised error =>
    if !progressEditRetryable error then drain.moved (.working snap (.dropping .failed))
    else if attempt < 2 then drain.moved (.working snap (.pausing attempt))
    else
      let exhaustions := drain.editExhaustions + 1
      { drain with
        editExhaustions := exhaustions
        point := .working snap
          (if maxProgressEditExhaustions ≤ exhaustions then .dropping .exhausted else .resting) }

def advance (index : Nat) (drain : Drain) (world : World) : Controller :=
  match drain.point with
  | .queued => controller.spawn index drain world.starts
  | .looking _ => controller.look index drain world
  | .finished => controller
  | .working snap stage =>
    match stage with
    | .fetching =>
      controller.setDrain index (drain.moved (.working snap
        (match world.profile with
        | none => .dropping .failed
        | some answer => if answer.enabled then .choosing answer.selected else .dropping .disabled)))
    | .choosing selected => controller.choose index drain snap selected
    | .idling => controller.idle index drain snap world.discards
    | .announcing => controller.announce index drain snap
    | .sending =>
      controller.setDrain index (drain.moved (.working snap
        (world.sent.elim (.dropping .failed) .posted)))
    | .posted messageId => controller.post index drain snap messageId world
    | .awaiting attempt =>
      controller.setDrain index (editAnswered drain snap attempt world.edited)
    | .pausing attempt =>
      (controller.record (.edited drain.owner snap)).setDrain index
        (drain.moved (.working snap (.awaiting (attempt + 1))))
    | .resting => controller.look index drain world
    | .delivered => controller.commit index drain snap world
    | .dropping reason => controller.dropByKey index drain snap reason world.discards

end Controller

/-- A hook or a cancel from any thread, a change of an adapter, or a step of a drain. -/
inductive ProgressEvent where
  | begin (onBehalfOf : Bool) (adapter : Nat) (route : TrustedOctoRoute) (sessionId turnId : PyStr)
      (now : Int) (discards : Bool)
  | modelStarted (sessionId turnId modelCallId label : PyStr) (now : Int) (discards : Bool)
  | modelFinished (sessionId turnId : PyStr) (finish : ModelFinish) (discards : Bool)
  | toolStarted (sessionId turnId : PyStr) (start : ToolStart) (discards : Bool)
  | toolFinished (sessionId turnId : PyStr) (finish : ToolFinish) (discards : Bool)
  | complete (sessionId turnId : PyStr) (failed : Bool) (terminalPhase : PyStr) (now : Int)
      (discards : Bool)
  | rolloverForInbound (chatId requesterUid : PyStr) (now : Int) (discards : Bool)
  | cancelSession (sessionId : PyStr) (discards : ProgressKey → Bool)
  | cancelAdapter (adapter : Nat) (discards : ProgressKey → Bool)
  | cancelAll (discards : ProgressKey → Bool)
  | adapter (adapter : Nat) (status : AdapterStatus)
  | drain (index : Nat) (world : World)

/-- The drain an event is a step of, and what it is answered. -/
def ProgressEvent.drain? : ProgressEvent → Option (Nat × World)
  | .drain index world => some (index, world)
  | _ => none

def progressStep (controller : Controller) : ProgressEvent → Controller
  | .begin onBehalfOf adapter route sessionId turnId now discards =>
    controller.begin onBehalfOf adapter route sessionId turnId now discards
  | .modelStarted sessionId turnId modelCallId label now discards =>
    controller.modelStarted sessionId turnId modelCallId label now discards
  | .modelFinished sessionId turnId finish discards =>
    controller.modelFinished sessionId turnId finish discards
  | .toolStarted sessionId turnId start discards =>
    controller.toolStarted sessionId turnId start discards
  | .toolFinished sessionId turnId finish discards =>
    controller.toolFinished sessionId turnId finish discards
  | .complete sessionId turnId failed terminalPhase now discards =>
    controller.complete sessionId turnId failed terminalPhase now discards
  | .rolloverForInbound chatId requesterUid now discards =>
    controller.rolloverForInbound chatId requesterUid now discards
  | .cancelSession sessionId discards => controller.cancelSession sessionId discards
  | .cancelAdapter adapter discards => controller.cancelAdapter adapter discards
  | .cancelAll discards => controller.cancelAll discards
  | .adapter adapter status =>
    { controller with adapters := Function.update controller.adapters adapter status }
  | .drain index world =>
    match controller.drains[index]? with
    | none => controller
    | some drain => controller.advance index drain world

/-- Every call succeeds, and the card is an ordinary one. -/
def World.fine : World where
  now := 0
  starts := true
  profile := some ⟨none, true⟩
  renders := true
  sent := some (py "m")
  edited := .edited
  synced := .kept
  discards := true

/-- Every call succeeds, and the card is made from a registry template. -/
def World.registry : World := { World.fine with profile := some ⟨some ⟨py "r", py "1"⟩, true⟩ }

def onlineAdapters : Nat → AdapterStatus := fun _ => ⟨false, true, true⟩

def sampleRoute : TrustedOctoRoute := ⟨py "c", py "c", .DM, py "u", py "k"⟩

def sampleTool (callId : String) : ToolStart := ⟨py callId, py "read", [], [], 0⟩

def progressMachine (adapters : Nat → AdapterStatus) : Machine Controller ProgressEvent where
  start := .start adapters
  step := progressStep

end OctoChannel.Progress

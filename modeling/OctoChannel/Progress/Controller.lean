import OctoChannel.Progress.Turns
import OctoChannel.Foundation.Runs

/-! `CardProgressController`: the table of turns, the hooks that write it from any
thread, and the drains that deliver it. A drain is cut where another thread or another
coroutine may come in between: at its lock sections and at its awaits. -/

namespace OctoChannel.Progress

open Foundation Identity

/-- What the adapter of a turn says of itself. -/
structure AdapterStatus where
  disconnecting : Bool
  httpSession : Bool
  loopOpen : Bool

/-- What a drain copies of a turn under the lock; `ident` is its variable `state`. The other
locals it takes there, `template_ref`, `capabilities` and `reasoning_id`, stay what they are
once the turn has a delivery mode. -/
structure Snapshot where
  ident : Nat
  revision : Nat
  messageId : Option PyStr
  final : Bool
  phase : PyStr
  tools : List ProgressTool
  nextSeq : Nat
  deliveryMode : Option DeliveryMode
  elapsedMs : Nat
  deriving DecidableEq

def ProgressTurn.snapshot (turn : ProgressTurn) (now : Int) : Snapshot where
  ident := turn.ident
  revision := turn.revision
  messageId := turn.messageId
  final := turn.final
  phase := turn.shownPhase
  tools := turn.toolSnapshot
  nextSeq := turn.cardSeq + 1
  deliveryMode := turn.deliveryMode
  elapsedMs := (now - turn.startedAt).toNat

/-- Why a drain drops whatever its key holds. -/
inductive DropReason where
  | disabled
  | failed
  | exhausted
  deriving DecidableEq

/-- Where a drain with a snapshot waits: for the network, for a pause to end, or for
the lock. -/
inductive Stage where
  | fetching
  | choosing (selected : Option TemplateRef)
  | idling
  | announcing
  | sending
  | posted (messageId : PyStr)
  | awaiting (attempt : Nat)
  | pausing (attempt : Nat)
  | resting
  | delivered
  | dropping (reason : DropReason)
  deriving DecidableEq

inductive DrainPoint where
  | queued
  | looking (last : Option Snapshot)
  | working (snap : Snapshot) (stage : Stage)
  | finished
  deriving DecidableEq

/-- A `_drain(key)` coroutine; `owner` is the turn it was scheduled for, which the
coroutine itself does not know. -/
structure Drain where
  key : ProgressKey
  owner : Nat
  adapter : Nat
  editExhaustions : Nat
  point : DrainPoint

def maxProgressEditExhaustions : Nat := 2

namespace Drain

variable (drain : Drain)

def moved (point : DrainPoint) : Drain := { drain with point }

def finish : Drain := drain.moved .finished

def IsLive : Prop := drain.point ≠ .finished

/-- The value of the variable `state`. -/
def state? : Option Snapshot :=
  match drain.point with
  | .looking last => last
  | .working snap _ => some snap
  | _ => none

/-- The drain was scheduled for the turn, or has taken it up. -/
def Serves (ident : Nat) : Prop := drain.owner = ident ∨ ∃ snap ∈ drain.state?, snap.ident = ident

instance : Decidable drain.IsLive := inferInstanceAs (Decidable (drain.point ≠ .finished))

instance (ident : Nat) : Decidable (drain.Serves ident) :=
  inferInstanceAs (Decidable (_ ∨ ∃ snap ∈ drain.state?, _))

end Drain

/-- Why a turn left the table. -/
inductive Cause where
  | cancelled
  | rolledOver
  | nothingToRender
  | notScheduled
  | adapterGone (owner : Nat)
  | idle (owner : Nat) (snap : Snapshot)
  | delivered (owner : Nat) (snap : Snapshot)
  | gaveUp (owner : Nat) (snap : Snapshot) (reason : DropReason)

/-- The drain that removed the turn. -/
def Cause.owner? : Cause → Option Nat
  | .adapterGone owner | .idle owner _ | .delivered owner _ | .gaveUp owner _ _ => some owner
  | _ => none

/-- What happened to turns; no modelled function reads it. -/
inductive Record where
  | read (owner ident : Nat)
  | changed (owner ident : Nat)
  | sent (owner : Nat) (snap : Snapshot)
  | edited (owner : Nat) (snap : Snapshot)
  | removed (turn : ProgressTurn) (cause : Cause)

/-- `CardProgressController` with the adapters, the drains and a log, newest first. -/
structure Controller where
  states : Dict ProgressKey ProgressTurn
  created : Nat
  adapters : Nat → AdapterStatus
  drains : List Drain
  log : List Record

namespace Controller

variable (controller : Controller)

def start (adapters : Nat → AdapterStatus) : Controller := ⟨.empty, 0, adapters, [], []⟩

def record (entry : Record) : Controller := { controller with log := entry :: controller.log }

def store (key : ProgressKey) (turn : ProgressTurn) : Controller :=
  { controller with states := controller.states.set key turn }

def setDrain (index : Nat) (drain : Drain) : Controller :=
  { controller with drains := controller.drains.set index drain }

/-- `_drop_state_locked`. It raises when the store of card sessions refuses the discard:
the turn is gone by then, and its initial delivery stays unresolved. -/
def dropStateLocked (key : ProgressKey) (cause : Cause) (discards : Bool) : Bool × Controller :=
  match controller.states.get? key with
  | none => (false, controller)
  | some turn =>
    let raises := turn.holdsCardSession && !discards
    let left := if raises then turn else { turn with initialDelivery := true }
    (raises, { controller with
      states := controller.states.erase key
      log := .removed left cause :: controller.log })

/-- `_schedule_locked`; the adapter's `_schedule_card_progress` takes the drain unless it
is disconnecting or its loop is closed. -/
def scheduleLocked (key : ProgressKey) (discards : Bool) : Controller :=
  match controller.states.get? key with
  | none => controller
  | some turn =>
    if turn.scheduled then controller
    else if !turn.hasRealTool then
      if turn.final then (controller.dropStateLocked key .nothingToRender discards).2 else controller
    else
      let status := controller.adapters turn.adapter
      if status.disconnecting ∨ !status.loopOpen then
        (controller.dropStateLocked key .notScheduled discards).2
      else
        let drain : Drain := ⟨key, turn.ident, turn.adapter, 0, .queued⟩
        { controller.store key { turn with scheduled := true } with
          drains := controller.drains ++ [drain] }

/-- A turn object that is put under a key. -/
def insert (adapter : Nat) (route : TrustedOctoRoute) (key : ProgressKey)
    (deliveryMode : Option DeliveryMode) (now : Int) : Controller :=
  { controller.store key (.fresh ⟨controller.created, adapter, route, key, now⟩ deliveryMode) with
    created := controller.created + 1 }

/-- The keys of one turn. -/
def matching (sessionId turnId : PyStr) : List ProgressKey :=
  controller.states.keys.filter fun key => key.sessionId = sessionId ∧ key.turnId = turnId

def isFinal (key : ProgressKey) : Bool := (controller.states.get? key).all (·.final)

/-- `max(key[2] for key in matching, default=-1) + 1` -/
def nextSegment (keys : List ProgressKey) : Nat :=
  keys.foldr (fun key next => max (key.segmentNo + 1) next) 0

def begin (onBehalfOf : Bool) (adapter : Nat) (route : TrustedOctoRoute) (sessionId turnId : PyStr)
    (now : Int) (discards : Bool) : Controller :=
  if sessionId = [] ∨ turnId = [] ∨ onBehalfOf then controller
  else
    let matching := controller.matching sessionId turnId
    if matching.any fun key => !controller.isFinal key then controller
    else
      let key : ProgressKey := ⟨sessionId, turnId, nextSegment matching⟩
      (controller.insert adapter route key none now).scheduleLocked key discards

/-- `max(keys, key=lambda key: key[2], default=None)`: the first of the largest. -/
def latest : List ProgressKey → Option ProgressKey
  | [] => none
  | key :: rest =>
    match latest rest with
    | none => some key
    | some other => some (if key.segmentNo < other.segmentNo then other else key)

def candidates (sessionId : PyStr) : List ProgressKey :=
  (controller.states.entries.filter fun entry =>
    entry.1.sessionId = sessionId && !entry.2.final).map Prod.fst

/-- `_find_key_locked` -/
def findKeyLocked (sessionId turnId : PyStr) : Option ProgressKey :=
  if sessionId = [] then none
  else
    let candidates := controller.candidates sessionId
    let exact := if turnId = [] then [] else candidates.filter fun key => key.turnId = turnId
    if exact ≠ [] then latest exact
    else if (candidates.map fun key => (key.sessionId, key.turnId)).dedup.length ≠ 1 then none
    else latest candidates

/-- Put back what a hook made of a turn, and ask for a drain if the hook does. -/
def amend (key : ProgressKey) (discards : Bool) : Amended → Controller
  | .kept => controller
  | .quiet turn => controller.store key turn
  | .published turn => (controller.store key turn.publish).scheduleLocked key discards

def onTurn (sessionId turnId : PyStr) (discards : Bool) (hook : ProgressTurn → Amended) :
    Controller :=
  match controller.findKeyLocked sessionId turnId with
  | none => controller
  | some key =>
    match controller.states.get? key with
    | none => controller
    | some turn => controller.amend key discards (hook turn)

def modelStarted (sessionId turnId modelCallId label : PyStr) (now : Int) (discards : Bool) :
    Controller :=
  controller.onTurn sessionId turnId discards (·.modelStarted modelCallId label now)

def modelFinished (sessionId turnId : PyStr) (finish : ModelFinish) (discards : Bool) : Controller :=
  controller.onTurn sessionId turnId discards (·.modelFinished finish)

def toolStarted (sessionId turnId : PyStr) (start : ToolStart) (discards : Bool) : Controller :=
  controller.onTurn sessionId turnId discards (·.toolStarted start)

def toolFinished (sessionId turnId : PyStr) (finish : ToolFinish) (discards : Bool) : Controller :=
  controller.onTurn sessionId turnId discards (·.toolFinished finish)

def complete (sessionId turnId : PyStr) (failed : Bool) (terminalPhase : PyStr) (now : Int)
    (discards : Bool) : Controller :=
  controller.onTurn sessionId turnId discards (·.complete failed terminalPhase now)

/-- The turns a new message of the requester may stop. -/
def rolling (chatId requesterUid : PyStr) : List (ProgressKey × ProgressTurn) :=
  controller.states.entries.filter fun entry =>
    !entry.2.final && entry.2.route.chatId = chatId && entry.2.route.requesterUid = requesterUid

def rolloverForInbound (chatId requesterUid : PyStr) (now : Int) (discards : Bool) : Controller :=
  if chatId = [] ∨ requesterUid = [] then controller
  else
    match controller.rolling chatId requesterUid with
    | [(oldKey, turn)] =>
      if !turn.hasRealTool && turn.messageId = none then controller
      else
        let newKey := { turn.key with segmentNo := turn.key.segmentNo + 1 }
        let next := controller.insert turn.adapter turn.route newKey turn.deliveryMode now
        if turn.messageId = none && !turn.sendStarted then
          (next.dropStateLocked oldKey .rolledOver discards).2
        else next.amend oldKey discards (.published (turn.stopped now))
    | _ => controller

/-- Drop one key after the other; a drop that raises ends the call. -/
def dropAll (discards : ProgressKey → Bool) : List ProgressKey → Controller → Controller
  | [], controller => controller
  | key :: rest, controller =>
    match controller.dropStateLocked key .cancelled (discards key) with
    | (true, dropped) => dropped
    | (false, dropped) => dropAll discards rest dropped

def cancelSession (sessionId : PyStr) (discards : ProgressKey → Bool) : Controller :=
  if sessionId = [] then controller
  else
    dropAll discards (controller.states.keys.filter fun key => key.sessionId = sessionId) controller

def cancelAdapter (adapter : Nat) (discards : ProgressKey → Bool) : Controller :=
  dropAll discards
    ((controller.states.entries.filter fun entry => entry.2.adapter = adapter).map Prod.fst) controller

def cancelAll (discards : ProgressKey → Bool) : Controller :=
  dropAll discards controller.states.keys controller

end Controller

end OctoChannel.Progress

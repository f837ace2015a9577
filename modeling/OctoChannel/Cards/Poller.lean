import OctoChannel.Cards.Actions
import OctoChannel.Foundation.Runs

/-! The event poller: its cursor in memory and in a file, the batch it works through,
and the acknowledgements it owes. -/

namespace OctoChannel.Cards

open Foundation

/-- `_read_state_unlocked`, on the JSON value of the file; without one that can be
read the cursor is zero. -/
def readState : Option Json → Nat × Option Nat
  | some (.obj members) =>
    match safeEventId (Json.field (py "event_id") members) with
    | none => (0, none)
    | some eventId =>
      match safeEventId (Json.field (py "pending_ack_event_id") members) with
      | none => (eventId, none)
      | some pending => if pending > eventId then (eventId, none) else (eventId, some pending)
  | _ => (0, none)

/-- The document that `_save_sync` writes. -/
def cursorDocument (eventId : Nat) (pendingAck : Option Nat) : Json :=
  .obj ((py "event_id", .int eventId) ::
    (pendingAck.map fun pending => (py "pending_ack_event_id", Json.int pending)).toList)

/-- The checks of `save` and `_save_sync`. -/
def checkSave (eventId : Nat) (pendingAck : Option Nat) (file : Option Json) : Except PyError Unit :=
  if eventId > maxSafeEventId then .error (.valueError "invalid event cursor")
  else if pendingAck.any fun pending => pending > maxSafeEventId ∨ pending > eventId then
    .error (.valueError "invalid pending ack event id")
  else if eventId < (readState file).1 then
    .error (.valueError "event cursor cannot move backwards")
  else .ok ()

/-- An event above the cursor, with its id. -/
structure BotEvent where
  eventId : Nat
  event : Json

/-- What `_flush_pending_ack` is followed by: the fetch, or the rest of the batch. -/
inductive Resume where
  | fetch
  | batch (rest : List BotEvent)

/-- Where `poll_once` waits. The flag of a save is set once the file is replaced. -/
inductive Phase where
  | idle
  | acking (eventId attempt : Nat) (next : Resume)
  | clearing (eventId : Nat) (abandon replaced : Bool) (next : Resume)
  | fetching
  | handling (action : CardAction) (event : BotEvent) (rest : List BotEvent)
  | saving (eventId : Nat) (action : Option CardAction) (pendingAck : Option Nat) (replaced : Bool)
      (rest : List BotEvent)

/-- What statements about runs refer to; no modelled function reads it. -/
structure History where
  /-- Ids whose handler returned and whose save succeeded, latest first. -/
  handled : List Nat
  /-- Ids that the stored cursor passed with an acknowledgement pending. -/
  owed : List Nat
  acked : List Nat
  /-- One entry for each flush round that failed. -/
  failedRounds : List Nat
  abandoned : List Nat

/-- A save whose caller was cancelled: its thread may still replace the file. -/
inductive Stray where
  | flush (cursor ackId : Nat) (abandon : Bool)
  | event (eventId : Nat) (pendingAck : Option Nat)

def Stray.eventId : Stray → Nat
  | .flush cursor _ _ => cursor
  | .event eventId _ => eventId

def Stray.pendingAck : Stray → Option Nat
  | .flush _ _ _ => none
  | .event _ pendingAck => pendingAck

/-- One poller and its cursor file. -/
structure Poller where
  file : Option Json
  cursor : Nat
  pendingAck : Option Nat
  flushFailures : Nat
  phase : Phase
  strays : List Stray
  history : History

def ackAttempts : Nat := 3
def maxPendingAckFlushFailures : Nat := 3

def ackStatuses : List PyStr :=
  [py "completed", py "awaiting_text", py "expired", py "failed", py "dead_letter", py "invalid",
    py "duplicate", py "unsupported"]

def shouldAck (status : Option PyStr) : Bool := status.any (· ∈ ackStatuses)

/-- The events that pass the filter of `poll_once`. -/
def accept (cursor : Nat) (event : Json) : Option BotEvent :=
  match event with
  | .obj members =>
    match safeEventId (Json.field (py "event_id") members) with
    | some eventId => if eventId > cursor then some ⟨eventId, event⟩ else none
    | none => none
  | _ => none

def BotEvent.le (first second : BotEvent) : Prop := first.eventId ≤ second.eventId

instance : DecidableRel BotEvent.le :=
  fun first second => inferInstanceAs (Decidable (first.eventId ≤ second.eventId))

/-- `sorted` by event id, of the events that pass the filter. -/
def ordered (cursor : Nat) (events : List Json) : List BotEvent :=
  (events.filterMap (accept cursor)).insertionSort BotEvent.le

variable (runtime : Json.Runtime)

namespace Poller

/-- `initialize` of a new process. -/
def initialized (file : Option Json) (history : History) : Poller :=
  let (cursor, pendingAck) := readState file
  ⟨file, cursor, pendingAck, 0, .idle, [], history⟩

def blank : History := ⟨[], [], [], [], []⟩

variable (poller : Poller)

/-- A poll ends, whether it returns or raises. -/
def stop : Poller := { poller with phase := .idle }

/-- The loop of `poll_once` takes its next event: an event that is no card action
goes straight to the save. -/
def nextEvent : List BotEvent → Poller
  | [] => poller.stop
  | event :: rest =>
    match parseCardAction runtime event.event with
    | .error _ => poller.stop
    | .ok (some action) => { poller with phase := .handling action event rest }
    | .ok none => { poller with phase := .saving event.eventId none none false rest }

def resume : Resume → Poller
  | .fetch => { poller with phase := .fetching }
  | .batch rest => poller.nextEvent runtime rest

/-- `_flush_pending_ack`, up to its first request. -/
def flushPendingAck (next : Resume) : Poller :=
  match poller.pendingAck with
  | none => { poller with flushFailures := 0 }.resume runtime next
  | some eventId => { poller with phase := .acking eventId 0 next }

/-- One request of `_ack` is answered; the last failure ends the flush round. -/
def ackAnswered (eventId attempt : Nat) (next : Resume) (accepted : Bool) : Poller :=
  if accepted then
    { poller with
      phase := .clearing eventId false false next
      history.acked := eventId :: poller.history.acked }
  else if attempt + 1 < ackAttempts then
    { poller with phase := .acking eventId (attempt + 1) next }
  else
    let failed :=
      { poller with
        flushFailures := poller.flushFailures + 1
        history.failedRounds := eventId :: poller.history.failedRounds }
    if failed.flushFailures < maxPendingAckFlushFailures then failed.stop
    else { failed with phase := .clearing eventId true false next }

/-- The replacement of the file, in the save behind a flush. -/
def replaceClearing (eventId : Nat) (abandon : Bool) (next : Resume) : Poller :=
  match checkSave poller.cursor none poller.file with
  | .error _ => poller.stop
  | .ok _ =>
    { poller with
      file := some (cursorDocument poller.cursor none)
      phase := .clearing eventId abandon true next
      history.abandoned :=
        if abandon then eventId :: poller.history.abandoned else poller.history.abandoned }

/-- The replacement of the file, in the save of an event. -/
def replaceSaving (eventId : Nat) (action : Option CardAction) (pendingAck : Option Nat)
    (rest : List BotEvent) : Poller :=
  match checkSave eventId pendingAck poller.file with
  | .error _ => poller.stop
  | .ok _ =>
    { poller with
      file := some (cursorDocument eventId pendingAck)
      phase := .saving eventId action pendingAck true rest
      history.owed := pendingAck.toList ++ poller.history.owed }

/-- A cancellation ends the poll; a save that has not replaced the file yet goes on in its
thread. -/
def cancelled : Poller :=
  match poller.phase with
  | .clearing ackId abandon false _ =>
    { poller.stop with strays := .flush poller.cursor ackId abandon :: poller.strays }
  | .saving eventId _ pendingAck false _ =>
    { poller.stop with strays := .event eventId pendingAck :: poller.strays }
  | _ => poller.stop

/-- The thread of a save that nobody waits for gets to the replacement. -/
def strayReplaces (index : Nat) : Poller :=
  match poller.strays[index]? with
  | none => poller
  | some stray =>
    let left := { poller with strays := poller.strays.eraseIdx index }
    match checkSave stray.eventId stray.pendingAck poller.file with
    | .error _ => left
    | .ok _ =>
      { left with
        file := some (cursorDocument stray.eventId stray.pendingAck)
        history.owed := stray.pendingAck.toList ++ poller.history.owed
        history.abandoned :=
          match stray with
          | .flush _ ackId true => ackId :: poller.history.abandoned
          | _ => poller.history.abandoned }

/-- The save of an event returns: memory follows, and a pending ack is flushed. -/
def saved (eventId : Nat) (action : Option CardAction) (pendingAck : Option Nat)
    (rest : List BotEvent) : Poller :=
  let moved :=
    { poller with
      cursor := eventId
      pendingAck := pendingAck
      history.handled :=
        if action.isSome then eventId :: poller.history.handled else poller.history.handled }
  if pendingAck.isSome then moved.flushPendingAck runtime (.batch rest)
  else moved.nextEvent runtime rest

end Poller

/-- What the caller, the server, the handler and the disk may do; `raise` ends any wait with
an exception, and `cancel` with a cancellation. -/
inductive PollEvent where
  | poll
  | ackAnswer (accepted : Bool)
  | fetched (events : List Json)
  | handlerReturns (status : Option PyStr)
  | replace
  | saveReturns
  | raise
  | cancel
  | strayReplaces (index : Nat)
  | crash

/-- One step; an answer that nobody waits for changes nothing. -/
def step (poller : Poller) : PollEvent → Poller
  | .poll =>
    match poller.phase with
    | .idle => poller.flushPendingAck runtime .fetch
    | _ => poller
  | .ackAnswer accepted =>
    match poller.phase with
    | .acking eventId attempt next => poller.ackAnswered eventId attempt next accepted
    | _ => poller
  | .fetched events =>
    match poller.phase with
    | .fetching => poller.nextEvent runtime (ordered poller.cursor events)
    | _ => poller
  | .handlerReturns status =>
    match poller.phase with
    | .handling action event rest =>
      let pendingAck := if shouldAck status then some event.eventId else none
      { poller with phase := .saving event.eventId (some action) pendingAck false rest }
    | _ => poller
  | .replace =>
    match poller.phase with
    | .clearing eventId abandon false next => poller.replaceClearing eventId abandon next
    | .saving eventId action pendingAck false rest =>
      poller.replaceSaving eventId action pendingAck rest
    | _ => poller
  | .saveReturns =>
    match poller.phase with
    | .clearing _ _ true next =>
      { poller with pendingAck := none, flushFailures := 0 }.resume runtime next
    | .saving eventId action pendingAck true rest =>
      poller.saved runtime eventId action pendingAck rest
    | _ => poller
  | .raise => poller.stop
  | .cancel => poller.cancelled
  | .strayReplaces index => poller.strayReplaces index
  | .crash => .initialized poller.file poller.history

/-- The poller of a process that finds this cursor file. -/
def pollMachine (file : Option Json) : Machine Poller PollEvent where
  start := .initialized file Poller.blank
  step := step runtime

end OctoChannel.Cards

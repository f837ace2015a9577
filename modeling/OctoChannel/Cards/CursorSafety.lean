import OctoChannel.Cards.Poller

namespace OctoChannel.Cards

open Foundation

variable (runtime : Json.Runtime)

def IsCard (event : BotEvent) : Prop :=
  ∃ action, parseCardAction runtime event.event = .ok (some action)

namespace Poller

def storedCursor (poller : Poller) : Nat := (readState poller.file).1

def storedPending (poller : Poller) : Option Nat := (readState poller.file).2

end Poller

/-- The events of the batch whose handler has not returned. -/
def Phase.unreturned : Phase → List BotEvent
  | .handling _ event rest => event :: rest
  | .saving _ _ _ _ rest => rest
  | .acking _ _ (.batch rest) => rest
  | .clearing _ _ _ (.batch rest) => rest
  | _ => []

/-- The memory still knows of a stored pending ack, or is about to. -/
def Poller.Remembers (poller : Poller) (eventId : Nat) : Prop :=
  poller.pendingAck = some eventId ∨
    ∃ action rest, poller.phase = .saving eventId action (some eventId) true rest

/-- The safety of the cursors, event by event. -/
structure Poller.CursorSafe (poller : Poller) : Prop where
  /-- The stored cursor is that of the memory or the one being saved. -/
  stored : poller.storedCursor = poller.cursor ∨ ∃ action pendingAck rest,
    poller.phase = .saving poller.storedCursor action pendingAck true rest
  /-- No pending ack is above its cursor. -/
  pending : (∀ eventId, poller.storedPending = some eventId → eventId ≤ poller.storedCursor) ∧
    ∀ eventId, poller.pendingAck = some eventId → eventId ≤ poller.cursor
  /-- Neither cursor has passed a card event of the batch before its handler returned. -/
  passed : ∀ event ∈ poller.phase.unreturned, IsCard runtime event →
    poller.cursor < event.eventId ∧ poller.storedCursor < event.eventId
  /-- Handled ids increase, and only a larger one is handed over next. -/
  handled : poller.history.handled.Pairwise (· > ·)
  fresh : ∀ action event rest, poller.phase = .handling action event rest →
    ∀ eventId ∈ poller.history.handled, eventId < action.eventId
  /-- An ack that is owed was accepted, was given up, or is still pending. -/
  acked : ∀ eventId ∈ poller.history.owed,
    eventId ∈ poller.history.acked ∨ eventId ∈ poller.history.abandoned ∨
      (poller.storedPending = some eventId ∧ poller.Remembers eventId)
  abandoned : ∀ eventId ∈ poller.history.abandoned,
    maxPendingAckFlushFailures ≤ poller.history.failedRounds.count eventId

/-- The run ends in a safe state, and its last step moved no cursor backwards. -/
def CursorsKept (file : Option Json) (events : List PollEvent) : Prop :=
  ((pollMachine runtime file).run events).CursorSafe runtime ∧
    ∀ earlier event, events = earlier ++ [event] →
      ((pollMachine runtime file).run earlier).cursor ≤
          ((pollMachine runtime file).run events).cursor ∧
        ((pollMachine runtime file).run earlier).storedCursor ≤
          ((pollMachine runtime file).run events).storedCursor

/-- No save of an event ahead of the cursor has replaced the file. -/
def Poller.Unmoved (poller : Poller) : Prop :=
  ∀ eventId action pendingAck rest,
    poller.phase = .saving eventId action pendingAck true rest → eventId = poller.cursor

/-- The answers of server and disk that keep the cursors safe. -/
def PollMeets (poller : Poller) : PollEvent → Prop
  /- no card event comes behind another event of the batch with the same id -/
  | .fetched events => (ordered poller.cursor events).Pairwise fun first second =>
      IsCard runtime second → first.eventId ≠ second.eventId
  /- the save of an event does not raise, and is not cancelled, once it has moved the stored
  cursor -/
  | .raise | .cancel => poller.Unmoved
  /- the save of an event that was cancelled before is refused, or finds the file as it
  would leave it -/
  | .strayReplaces index => ∀ eventId pendingAck,
      poller.strays[index]? = some (.event eventId pendingAck) →
        checkSave eventId pendingAck poller.file = .ok () →
          readState poller.file = (eventId, pendingAck)
  | _ => True

variable {runtime} {poller : Poller} {event : BotEvent} {events rest : List BotEvent}
  {action : Option CardAction} {eventId cursor : Nat} {pendingAck : Option Nat}

theorem safeEventId_le {value : Json} (safe : safeEventId value = some eventId) :
    eventId ≤ maxSafeEventId := by
  unfold safeEventId at safe
  split at safe
  · split at safe
    · cases safe
      omega
    · cases safe
  · cases safe

theorem safeEventId_int (bounded : eventId ≤ maxSafeEventId) :
    safeEventId (.int eventId) = some eventId := by
  unfold safeEventId
  dsimp only
  rw [if_pos ⟨by omega, by exact_mod_cast bounded⟩, Int.toNat_natCast]

/-- What was saved is read back. -/
theorem readState_cursorDocument (bounded : eventId ≤ maxSafeEventId)
    (below : ∀ pending ∈ pendingAck, pending ≤ eventId) :
    readState (some (cursorDocument eventId pendingAck)) = (eventId, pendingAck) := by
  have here : Json.field (py "event_id")
      ((py "event_id", Json.int eventId) ::
        (pendingAck.map fun pending => (py "pending_ack_event_id", Json.int pending)).toList) =
      .int eventId := by
    simp [Json.field, Dict.lookup]
  have other : ¬ py "event_id" = py "pending_ack_event_id" := by decide
  unfold readState cursorDocument
  dsimp only
  rw [here, safeEventId_int bounded]
  cases pendingAck with
  | none => simp [Json.field, Dict.lookup, other, safeEventId]
  | some pending =>
    have small : pending ≤ eventId := below pending rfl
    have found : safeEventId (.int pending) = some pending :=
      safeEventId_int (small.trans bounded)
    simp [Json.field, Dict.lookup, other, found, small]

/-- A save that passes its checks is read back, and moves the stored cursor forward. -/
theorem readState_of_checkSave {file : Option Json}
    (checked : checkSave eventId pendingAck file = .ok ()) :
    readState (some (cursorDocument eventId pendingAck)) = (eventId, pendingAck) ∧
      (readState file).1 ≤ eventId := by
  unfold checkSave at checked
  split at checked
  · cases checked
  · rename_i bounded
    split at checked
    · cases checked
    · rename_i below
      split at checked
      · cases checked
      · rename_i forward
        refine ⟨readState_cursorDocument (Nat.le_of_not_lt bounded) ?_, Nat.le_of_not_lt forward⟩
        intro pending member
        rw [Option.mem_def] at member
        rw [member] at below
        simp at below
        exact below.2

theorem readState_bounded (file : Option Json) : (readState file).1 ≤ maxSafeEventId ∧
    ∀ pending, (readState file).2 = some pending → pending ≤ (readState file).1 := by
  unfold readState
  split
  · split
    · exact ⟨Nat.zero_le _, fun _ none => by cases none⟩
    · rename_i eventId found
      have bounded := safeEventId_le found
      split
      · exact ⟨bounded, fun _ none => by cases none⟩
      · split
        · exact ⟨bounded, fun _ none => by cases none⟩
        · rename_i below
          refine ⟨bounded, ?_⟩
          intro pending same
          cases same
          omega
  · exact ⟨Nat.zero_le _, fun _ none => by cases none⟩

variable (runtime) in
/-- The event is not behind this id, and in front of it when it is a card event. -/
def Ahead (eventId : Nat) (event : BotEvent) : Prop :=
  eventId ≤ event.eventId ∧ (IsCard runtime event → eventId < event.eventId)

private theorem Ahead.of_le {later : Nat} (ahead : Ahead runtime later event)
    (le : eventId ≤ later) :
    Ahead runtime eventId event :=
  ⟨le.trans ahead.1, fun card => lt_of_le_of_lt le (ahead.2 card)⟩

/-- The event carries its id, a safe one. -/
def BotEvent.Genuine (event : BotEvent) : Prop :=
  ∃ members, event.event = .obj members ∧
    safeEventId (Json.field (py "event_id") members) = some event.eventId

theorem BotEvent.Genuine.le (genuine : event.Genuine) : event.eventId ≤ maxSafeEventId := by
  obtain ⟨members, -, safe⟩ := genuine
  exact safeEventId_le safe

private theorem BotEvent.Genuine.eventId_eq (genuine : event.Genuine) {action : CardAction}
    (parsed : parseCardAction runtime event.event = .ok (some action)) :
    action.eventId = event.eventId := by
  obtain ⟨members, object, safe⟩ := genuine
  rw [object] at parsed
  have same := eventId_parseCardAction parsed
  rw [safe] at same
  exact (Option.some.inj same).symm

/-- What is left of a batch: in order, and ahead of the cursor. -/
structure Queue (runtime : Json.Runtime) (cursor : Nat) (rest : List BotEvent) : Prop where
  genuine : ∀ event ∈ rest, event.Genuine
  ahead : ∀ event ∈ rest, Ahead runtime cursor event
  ordered : rest.Pairwise fun first second => Ahead runtime first.eventId second

theorem Queue.tail (queue : Queue runtime cursor (event :: rest)) :
    Queue runtime event.eventId rest where
  genuine later member := queue.genuine later (List.mem_cons_of_mem _ member)
  ahead later member := (List.pairwise_cons.mp queue.ordered).1 later member
  ordered := (List.pairwise_cons.mp queue.ordered).2

instance : Std.Total BotEvent.le := ⟨fun first second => le_total first.eventId second.eventId⟩

instance : IsTrans BotEvent BotEvent.le := ⟨fun _ _ _ => le_trans⟩

private theorem queue_ordered {answer : List Json}
    (distinct : (ordered cursor answer).Pairwise fun first second =>
      IsCard runtime second → first.eventId ≠ second.eventId) :
    Queue runtime cursor (ordered cursor answer) := by
  have accepted : ∀ event ∈ ordered cursor answer, event.Genuine ∧ cursor < event.eventId := by
    intro event member
    obtain ⟨raw, -, passed⟩ :=
      List.mem_filterMap.mp ((List.mem_insertionSort BotEvent.le).mp member)
    unfold accept at passed
    split at passed
    · rename_i members
      split at passed
      · rename_i eventId safe
        split at passed
        · rename_i above
          cases passed
          exact ⟨⟨members, rfl, safe⟩, above⟩
        · cases passed
      · cases passed
    · cases passed
  have sorted : (ordered cursor answer).Pairwise BotEvent.le := by
    exact List.pairwise_insertionSort BotEvent.le _
  exact {
    genuine := fun event member => (accepted event member).1
    ahead := fun event member =>
      ⟨(accepted event member).2.le, fun _ => (accepted event member).2⟩
    ordered := by
      refine (List.Pairwise.and sorted distinct).imp ?_
      intro first second both
      exact ⟨both.1, fun card => lt_of_le_of_ne both.1 (both.2 card)⟩ }

/-- The ack was accepted or given up. -/
def History.Discharged (history : History) (eventId : Nat) : Prop :=
  eventId ∈ history.acked ∨ eventId ∈ history.abandoned

/-- The history behind the replacement of a flush. -/
def History.flushed (history : History) (ackId : Nat) (abandon : Bool) : History :=
  { history with
    abandoned := if abandon then ackId :: history.abandoned else history.abandoned }

private theorem History.Discharged.flushed {history : History} {other : Nat}
    (discharged : history.Discharged other) (ackId : Nat) (abandon : Bool) :
    (history.flushed ackId abandon).Discharged other := by
  refine discharged.imp_right fun given => ?_
  unfold History.flushed
  dsimp only
  split
  · exact List.mem_cons_of_mem _ given
  · exact given

section Flushed

variable {history : History} {ackId : Nat} {abandon : Bool}
  (settled : if abandon then maxPendingAckFlushFailures ≤ history.failedRounds.count ackId
    else ackId ∈ history.acked)
include settled

private theorem History.discharged_flushed : (history.flushed ackId abandon).Discharged ackId := by
  cases abandon with
  | true => exact .inr List.mem_cons_self
  | false => exact .inl settled

private theorem History.failed_of_flushed
    (abandoned : ∀ other ∈ history.abandoned,
      maxPendingAckFlushFailures ≤ history.failedRounds.count other) :
    ∀ other ∈ (history.flushed ackId abandon).abandoned,
      maxPendingAckFlushFailures ≤ history.failedRounds.count other := by
  intro other given
  cases abandon with
  | false => exact abandoned other given
  | true =>
    rcases List.mem_cons.mp given with rfl | before
    · exact settled
    · exact abandoned other before

end Flushed

/-- The save of a flush that was cancelled: the ack is settled, and no other one is stored
under its cursor. -/
structure Settled (memory : Nat) (file : Option Json) (history : History) (cursor ackId : Nat)
    (abandon : Bool) : Prop where
  passed : cursor ≤ memory
  stored : (readState file).1 = cursor → ∀ pending, (readState file).2 = some pending → pending = ackId
  settled : if abandon then maxPendingAckFlushFailures ≤ history.failedRounds.count ackId
    else ackId ∈ history.acked

/-- What holds wherever the poll waits. -/
structure Poller.Accounts (poller : Poller) : Prop where
  bounded : poller.cursor ≤ maxSafeEventId
  pending : ∀ eventId, poller.pendingAck = some eventId → eventId ≤ poller.cursor
  /-- The failures counted are failed rounds of the pending ack. -/
  rounds : poller.flushFailures ≤
    poller.pendingAck.elim 0 fun eventId => poller.history.failedRounds.count eventId
  handled : poller.history.handled.Pairwise (· > ·)
  below : ∀ eventId ∈ poller.history.handled, eventId ≤ poller.cursor
  owed : ∀ eventId ∈ poller.history.owed,
    poller.history.Discharged eventId ∨ poller.storedPending = some eventId
  abandoned : ∀ eventId ∈ poller.history.abandoned,
    maxPendingAckFlushFailures ≤ poller.history.failedRounds.count eventId
  strays : ∀ cursor ackId abandon, .flush cursor ackId abandon ∈ poller.strays →
    Settled poller.cursor poller.file poller.history cursor ackId abandon

/-- The file holds what the memory holds, but for an ack that is settled already. -/
structure Poller.Synced (poller : Poller) : Prop where
  cursor : poller.storedCursor = poller.cursor
  pending : poller.storedPending = poller.pendingAck ∨
    poller.storedPending = none ∧
      ∀ eventId, poller.pendingAck = some eventId → poller.history.Discharged eventId

/-- The batch that a flush goes back to. -/
def Resume.Queued (runtime : Json.Runtime) (cursor : Nat) : Resume → Prop
  | .fetch => True
  | .batch rest => Queue runtime cursor rest

/-- The event being saved is the next one, and only a handled one asks for an ack. -/
structure Saving (runtime : Json.Runtime) (poller : Poller) (eventId : Nat)
    (action : Option CardAction) (pendingAck : Option Nat) (rest : List BotEvent) : Prop where
  bounded : eventId ≤ maxSafeEventId
  above : poller.cursor ≤ eventId
  handled : action.isSome → poller.cursor < eventId
  idle : poller.pendingAck = none
  pending : pendingAck = none ∨ action.isSome ∧ pendingAck = some eventId
  queue : Queue runtime eventId rest

/-- What holds where this poll waits. -/
def Poller.Stage (runtime : Json.Runtime) (poller : Poller) : Phase → Prop
  | .idle => poller.Synced
  | .fetching => poller.Synced ∧ poller.pendingAck = none
  | .acking eventId _ next =>
    poller.Synced ∧ poller.pendingAck = some eventId ∧ next.Queued runtime poller.cursor
  | .clearing eventId abandon false next =>
    (poller.Synced ∧ poller.pendingAck = some eventId ∧ next.Queued runtime poller.cursor) ∧
      if abandon then maxPendingAckFlushFailures ≤ poller.history.failedRounds.count eventId
      else eventId ∈ poller.history.acked
  | .clearing eventId _ true next =>
    readState poller.file = (poller.cursor, none) ∧ poller.pendingAck = some eventId ∧
      next.Queued runtime poller.cursor ∧ poller.history.Discharged eventId
  | .handling action event rest =>
    poller.Synced ∧ poller.pendingAck = none ∧ Queue runtime poller.cursor (event :: rest) ∧
      parseCardAction runtime event.event = .ok (some action)
  | .saving eventId action pendingAck false rest =>
    poller.Synced ∧ Saving runtime poller eventId action pendingAck rest
  | .saving eventId action pendingAck true rest =>
    readState poller.file = (eventId, pendingAck) ∧
      Saving runtime poller eventId action pendingAck rest

structure Poller.Sound (runtime : Json.Runtime) (poller : Poller) : Prop where
  accounts : poller.Accounts
  stage : poller.Stage runtime poller.phase

/-- A step that keeps what is stored, or stores that no ack is pending, and forgets nothing
keeps a cancelled flush settled. -/
theorem Settled.of_step {memory later : Nat} {file after : Option Json} {history grown : History}
    {ackId : Nat} {abandon : Bool} (settles : Settled memory file history cursor ackId abandon)
    (forward : memory ≤ later)
    (stored : (readState after).1 = cursor →
      (readState after).2 = none ∨ readState after = readState file)
    (acked : history.acked ⊆ grown.acked)
    (rounds : history.failedRounds.count ackId ≤ grown.failedRounds.count ackId) :
    Settled later after grown cursor ackId abandon where
  passed := settles.passed.trans forward
  stored here pending found := by
    rcases stored here with none | same
    · cases none.symm.trans found
    · rw [same] at here found
      exact settles.stored here pending found
  settled := by
    have settled := settles.settled
    split at settled
    · rename_i given
      rw [if_pos given]
      exact settled.trans rounds
    · rename_i kept
      rw [if_neg kept]
      exact acked settled

namespace Poller

theorem Accounts.stop (accounts : poller.Accounts) (synced : poller.Synced) :
    poller.stop.Sound runtime :=
  ⟨{ accounts with }, { synced with }⟩

theorem Accounts.nextEvent (accounts : poller.Accounts) (synced : poller.Synced)
    (idle : poller.pendingAck = none) (queue : Queue runtime poller.cursor rest) :
    (poller.nextEvent runtime rest).Sound runtime := by
  cases rest with
  | nil => exact accounts.stop synced
  | cons event rest =>
    unfold nextEvent
    dsimp only
    split
    · exact accounts.stop synced
    · rename_i action parsed
      exact ⟨{ accounts with }, { synced with }, idle, queue, parsed⟩
    · exact ⟨{ accounts with }, { synced with }, {
        bounded := (queue.genuine event List.mem_cons_self).le
        above := (queue.ahead event List.mem_cons_self).1
        handled := fun impossible => by cases impossible
        idle := idle
        pending := .inl rfl
        queue := queue.tail }⟩

theorem Accounts.resume (accounts : poller.Accounts) (synced : poller.Synced)
    (idle : poller.pendingAck = none) {next : Resume} (queued : next.Queued runtime poller.cursor) :
    (poller.resume runtime next).Sound runtime := by
  cases next with
  | fetch => exact ⟨{ accounts with }, { synced with }, idle⟩
  | batch rest => exact accounts.nextEvent synced idle queued

theorem Accounts.flushPendingAck (accounts : poller.Accounts) (synced : poller.Synced)
    {next : Resume} (queued : next.Queued runtime poller.cursor) :
    (poller.flushPendingAck runtime next).Sound runtime := by
  unfold Poller.flushPendingAck
  split
  · rename_i idle
    have cleared : Accounts { poller with flushFailures := 0 } :=
      { accounts with rounds := Nat.zero_le _ }
    exact cleared.resume { synced with } idle queued
  · rename_i eventId outstanding
    exact ⟨{ accounts with }, { synced with }, outstanding, queued⟩

theorem Accounts.ackAnswered (accounts : poller.Accounts) (synced : poller.Synced)
    (outstanding : poller.pendingAck = some eventId) {next : Resume}
    (queued : next.Queued runtime poller.cursor) (attempt : Nat) (accepted : Bool) :
    (poller.ackAnswered eventId attempt next accepted).Sound runtime := by
  have rounds := accounts.rounds
  rw [outstanding] at rounds
  unfold Poller.ackAnswered
  split
  · have grown : ∀ other, poller.history.Discharged other →
        History.Discharged { poller.history with acked := eventId :: poller.history.acked } other :=
      fun other => Or.imp_left (List.mem_cons_of_mem _)
    refine ⟨{ accounts with owed := ?_, strays := ?_ },
      ⟨⟨synced.cursor, ?_⟩, outstanding, queued⟩, ?_⟩
    · exact fun other owed => (accounts.owed other owed).imp_left (grown other)
    · exact fun cursor ackId abandon member => (accounts.strays cursor ackId abandon member).of_step
        (Nat.le_refl _) (fun _ => .inr rfl) (List.subset_cons_self _ _) (Nat.le_refl _)
    · exact synced.pending.imp_right fun settled =>
        ⟨settled.1, fun other same => grown other (settled.2 other same)⟩
    · exact List.mem_cons_self
  · split
    · exact ⟨{ accounts with }, { synced with }, outstanding, queued⟩
    · have counted : poller.flushFailures + 1 ≤
          (eventId :: poller.history.failedRounds).count eventId := by
        rw [List.count_cons_self]
        exact Nat.succ_le_succ rounds
      have failed : Accounts
          { poller with
            flushFailures := poller.flushFailures + 1
            history.failedRounds := eventId :: poller.history.failedRounds } :=
        { accounts with
          rounds := by
            rw [outstanding]
            exact counted
          abandoned := fun other given =>
            (accounts.abandoned other given).trans List.count_le_count_cons
          strays := fun cursor ackId abandon member =>
            (accounts.strays cursor ackId abandon member).of_step (Nat.le_refl _)
              (fun _ => .inr rfl) (List.Subset.refl _) List.count_le_count_cons }
      dsimp only
      split
      · exact failed.stop { synced with }
      · rename_i exhausted
        exact ⟨{ failed with }, ⟨{ synced with }, outstanding, queued⟩,
          (Nat.le_of_not_lt exhausted).trans counted⟩

theorem Accounts.replaceClearing (accounts : poller.Accounts) (synced : poller.Synced)
    (outstanding : poller.pendingAck = some eventId) {next : Resume}
    (queued : next.Queued runtime poller.cursor) {abandon : Bool}
    (settled : if abandon then
        maxPendingAckFlushFailures ≤ poller.history.failedRounds.count eventId
      else eventId ∈ poller.history.acked) :
    (poller.replaceClearing eventId abandon next).Sound runtime := by
  unfold Poller.replaceClearing
  split
  · exact accounts.stop synced
  · have read : readState (some (cursorDocument poller.cursor none)) = (poller.cursor, none) :=
      readState_cursorDocument accounts.bounded (fun _ none => by cases none)
    have discharged := History.discharged_flushed settled
    refine ⟨{ accounts with owed := ?_, abandoned := ?_, strays := ?_ },
      read, outstanding, queued, discharged⟩
    · intro other owed
      left
      rcases accounts.owed other owed with before | stored
      · exact before.flushed eventId abandon
      · rcases synced.pending with same | ⟨missing, -⟩
        · rw [stored, outstanding] at same
          obtain rfl := Option.some.inj same
          exact discharged
        · rw [stored] at missing
          cases missing
    · exact History.failed_of_flushed settled accounts.abandoned
    · exact fun cursor ackId given member => (accounts.strays cursor ackId given member).of_step
        (Nat.le_refl _) (fun _ => .inl (congrArg Prod.snd read)) (List.Subset.refl _)
        (Nat.le_refl _)

theorem Accounts.replaceSaving (accounts : poller.Accounts) (synced : poller.Synced)
    (saving : Saving runtime poller eventId action pendingAck rest) :
    (poller.replaceSaving eventId action pendingAck rest).Sound runtime := by
  unfold Poller.replaceSaving
  split
  · exact accounts.stop synced
  · have read : readState (some (cursorDocument eventId pendingAck)) = (eventId, pendingAck) := by
      refine readState_cursorDocument saving.bounded ?_
      intro pending member
      rcases saving.pending with missing | ⟨-, same⟩
      · rw [missing] at member
        cases member
      · rw [same] at member
        exact le_of_eq (Option.some.inj member).symm
    refine ⟨{ accounts with owed := ?_, strays := ?_ }, read, { saving with }⟩
    · intro other owed
      rcases List.mem_append.mp owed with asked | before
      · right
        rw [storedPending, read]
        exact Option.mem_toList.mp asked
      · left
        rcases accounts.owed other before with discharged | stored
        · exact discharged
        · rcases synced.pending with same | ⟨missing, -⟩
          · rw [stored, saving.idle] at same
            cases same
          · rw [stored] at missing
            cases missing
    · intro cursor ackId abandon member
      have settles := accounts.strays cursor ackId abandon member
      refine settles.of_step (Nat.le_refl _) (fun here => .inl ?_) (List.Subset.refl _)
        (Nat.le_refl _)
      rw [read] at here ⊢
      -- a flush at the cursor of this save: then no handler asked for an ack
      rcases saving.pending with missing | ⟨handed, -⟩
      · exact missing
      · have above := saving.handled handed
        have passed := settles.passed
        dsimp only at here
        omega

theorem Accounts.cleared (accounts : poller.Accounts) {next : Resume}
    (read : readState poller.file = (poller.cursor, none))
    (queued : next.Queued runtime poller.cursor) :
    ({ poller with pendingAck := none, flushFailures := 0 }.resume runtime next).Sound runtime := by
  have cleared : Accounts { poller with pendingAck := none, flushFailures := 0 } :=
    { accounts with
      pending := fun _ gone => by cases gone
      rounds := Nat.le_refl _ }
  exact cleared.resume ⟨congrArg Prod.fst read, .inl (congrArg Prod.snd read)⟩ rfl queued

theorem Accounts.saved (accounts : poller.Accounts)
    (read : readState poller.file = (eventId, pendingAck))
    (saving : Saving runtime poller eventId action pendingAck rest) :
    (poller.saved runtime eventId action pendingAck rest).Sound runtime := by
  have rounds := accounts.rounds
  rw [saving.idle] at rounds
  have moved : Accounts
      { poller with
        cursor := eventId
        pendingAck := pendingAck
        history.handled :=
          if action.isSome then eventId :: poller.history.handled else poller.history.handled } :=
    { accounts with
      bounded := saving.bounded
      pending := fun other asked => by
        rcases saving.pending with missing | ⟨-, same⟩
        · cases missing.symm.trans asked
        · exact le_of_eq (Option.some.inj (asked.symm.trans same))
      rounds := rounds.trans (Nat.zero_le _)
      handled := by
        dsimp only
        split
        · rename_i handed
          refine List.pairwise_cons.mpr ⟨?_, accounts.handled⟩
          exact fun other member =>
            lt_of_le_of_lt (accounts.below other member) (saving.handled handed)
        · exact accounts.handled
      below := by
        intro other member
        dsimp only at member
        split at member
        · rcases List.mem_cons.mp member with rfl | before
          · exact Nat.le_refl _
          · exact (accounts.below other before).trans saving.above
        · exact (accounts.below other member).trans saving.above
      strays := fun cursor ackId abandon member =>
        (accounts.strays cursor ackId abandon member).of_step saving.above
          (fun _ => .inr rfl) (List.Subset.refl _) (Nat.le_refl _) }
  unfold Poller.saved
  dsimp only
  split
  · exact moved.flushPendingAck ⟨congrArg Prod.fst read, .inl (congrArg Prod.snd read)⟩
      saving.queue
  · rename_i unasked
    refine moved.nextEvent ⟨congrArg Prod.fst read, .inl (congrArg Prod.snd read)⟩ ?_ saving.queue
    simpa using unasked

theorem Sound.cursor_le (sound : poller.Sound runtime) : poller.cursor ≤ poller.storedCursor := by
  have stage := sound.stage
  unfold Stage at stage
  split at stage
  · exact le_of_eq stage.cursor.symm
  · exact le_of_eq stage.1.cursor.symm
  · exact le_of_eq stage.1.cursor.symm
  · exact le_of_eq stage.1.1.cursor.symm
  · rw [storedCursor, stage.1]
  · exact le_of_eq stage.1.cursor.symm
  · exact le_of_eq stage.1.cursor.symm
  · rw [storedCursor, stage.1]
    exact stage.2.above

theorem Sound.raise (sound : poller.Sound runtime) (unmoved : poller.Unmoved) :
    poller.stop.Sound runtime := by
  have stage := sound.stage
  unfold Stage at stage
  split at stage
  · exact sound.accounts.stop stage
  · exact sound.accounts.stop stage.1
  · exact sound.accounts.stop stage.1
  · exact sound.accounts.stop stage.1.1
  · obtain ⟨read, outstanding, -, discharged⟩ := stage
    refine sound.accounts.stop ⟨congrArg Prod.fst read, .inr ⟨congrArg Prod.snd read, ?_⟩⟩
    intro other same
    rw [outstanding] at same
    cases same
    exact discharged
  · exact sound.accounts.stop stage.1
  · exact sound.accounts.stop stage.1
  · rename_i eventId action pendingAck rest phase
    obtain ⟨read, saving⟩ := stage
    have same : eventId = poller.cursor := unmoved eventId action pendingAck rest phase
    -- an event at the cursor was not handled, so it asks for no ack
    have unasked : pendingAck = none := by
      rcases saving.pending with missing | ⟨handed, -⟩
      · exact missing
      · exact absurd same (saving.handled handed).ne'
    refine sound.accounts.stop ⟨(congrArg Prod.fst read).trans same, .inl ?_⟩
    rw [saving.idle, ← unasked]
    exact congrArg Prod.snd read

theorem sound_initialized {history : History} {file : Option Json}
    (handled : history.handled.Pairwise (· > ·))
    (below : ∀ eventId ∈ history.handled, eventId ≤ (readState file).1)
    (owed : ∀ eventId ∈ history.owed,
      history.Discharged eventId ∨ (readState file).2 = some eventId)
    (abandoned : ∀ eventId ∈ history.abandoned,
      maxPendingAckFlushFailures ≤ history.failedRounds.count eventId) :
    (initialized file history).Sound runtime := by
  obtain ⟨bounded, pending⟩ := readState_bounded file
  exact ⟨⟨bounded, pending, Nat.zero_le _, handled, below, owed, abandoned,
    fun _ _ _ none => by cases none⟩, ⟨rfl, .inl rfl⟩⟩

theorem Sound.crash (sound : poller.Sound runtime) :
    (initialized poller.file poller.history).Sound runtime := by
  refine sound_initialized sound.accounts.handled ?_ sound.accounts.owed sound.accounts.abandoned
  exact fun eventId member => (sound.accounts.below eventId member).trans sound.cursor_le

/-- A cancelled flush has settled its ack, and a cancelled save of an event may go on. -/
theorem Sound.cancelled (sound : poller.Sound runtime) (unmoved : poller.Unmoved) :
    poller.cancelled.Sound runtime := by
  have stopped := sound.raise unmoved
  have stage := sound.stage
  unfold Poller.cancelled
  split
  · rename_i ackId abandon next phase
    rw [phase] at stage
    obtain ⟨⟨synced, outstanding, -⟩, settled⟩ := stage
    refine ⟨{ stopped.accounts with strays := ?_ }, { synced with }⟩
    intro cursor other given member
    rcases List.mem_cons.mp member with same | before
    · cases same
      refine ⟨Nat.le_refl _, fun _ pending found => ?_, settled⟩
      rcases synced.pending with same | ⟨missing, -⟩
      · exact (Option.some.inj (outstanding.symm.trans (same.symm.trans found))).symm
      · cases missing.symm.trans found
    · exact sound.accounts.strays cursor other given before
  · rename_i eventId action pendingAck rest phase
    rw [phase] at stage
    refine ⟨{ stopped.accounts with strays := ?_ }, { stage.1 with }⟩
    intro cursor other given member
    rcases List.mem_cons.mp member with same | before
    · cases same
    · exact sound.accounts.strays cursor other given before
  · exact stopped

/-- Of the file only what it reads as counts. -/
theorem Stage.reread {phase : Phase} (stage : poller.Stage runtime phase) {file : Option Json}
    (same : readState file = readState poller.file) (strays : List Stray) (owed : List Nat) :
    Stage runtime
      { poller with file := file, strays := strays, history.owed := owed } phase := by
  have synced : poller.Synced →
      Synced { poller with file := file, strays := strays, history.owed := owed } := by
    rintro ⟨cursor, pending⟩
    refine ⟨?_, ?_⟩
    · rw [← cursor, storedCursor, storedCursor, same]
    · unfold storedPending at pending ⊢
      rw [same]
      exact pending
  unfold Stage at stage ⊢
  split at stage
  · exact synced stage
  · exact ⟨synced stage.1, stage.2⟩
  · exact ⟨synced stage.1, stage.2⟩
  · exact ⟨⟨synced stage.1.1, stage.1.2⟩, stage.2⟩
  · exact ⟨same.trans stage.1, stage.2⟩
  · exact ⟨synced stage.1, stage.2⟩
  · exact ⟨synced stage.1, { stage.2 with }⟩
  · exact ⟨same.trans stage.1, { stage.2 with }⟩

/-- An ack that the file holds is owed, whoever wrote it. -/
theorem Sound.reread (sound : poller.Sound runtime) {file : Option Json} {strays : List Stray}
    (same : readState file = readState poller.file) (fewer : strays ⊆ poller.strays) :
    ({ poller with
      file := file
      strays := strays
      history.owed := poller.storedPending.toList ++ poller.history.owed } : Poller).Sound runtime := by
  refine ⟨{ sound.accounts with owed := ?_, strays := ?_ }, sound.stage.reread same strays _⟩
  · intro other owed
    unfold storedPending at owed ⊢
    rw [same]
    rcases List.mem_append.mp owed with here | before
    · exact .inr (Option.mem_toList.mp here)
    · exact sound.accounts.owed other before
  · intro cursor ackId abandon member
    exact (sound.accounts.strays cursor ackId abandon (fewer member)).of_step (Nat.le_refl _)
      (fun _ => .inr same) (List.Subset.refl _) (Nat.le_refl _)

/-- The stored cursor stays, and no ack is stored any more. -/
private theorem Stage.flushedLate {phase : Phase} (stage : poller.Stage runtime phase)
    {file : Option Json} {ackId : Nat} {abandon : Bool}
    (read : readState file = (poller.storedCursor, none))
    (passed : poller.storedCursor ≤ poller.cursor)
    (discharged : ∀ other, poller.storedPending = some other →
      (poller.history.flushed ackId abandon).Discharged other) (strays : List Stray) :
    Stage runtime { poller with
      file := file, strays := strays, history := poller.history.flushed ackId abandon } phase := by
  have synced : poller.Synced →
      Synced { poller with
        file := file, strays := strays, history := poller.history.flushed ackId abandon } := by
    rintro ⟨same, pending⟩
    refine ⟨(congrArg Prod.fst read).trans same, .inr ⟨congrArg Prod.snd read, ?_⟩⟩
    intro other outstanding
    rcases pending with stored | ⟨-, before⟩
    · exact discharged other (stored.trans outstanding)
    · exact (before other outstanding).flushed ackId abandon
  unfold Stage at stage ⊢
  split at stage
  · exact synced stage
  · exact ⟨synced stage.1, stage.2⟩
  · exact ⟨synced stage.1, stage.2⟩
  · exact ⟨⟨synced stage.1.1, stage.1.2⟩, stage.2⟩
  · obtain ⟨before, outstanding, queued, given⟩ := stage
    refine ⟨?_, outstanding, queued, given.flushed ackId abandon⟩
    rw [read, storedCursor, before]
  · exact ⟨synced stage.1, stage.2⟩
  · exact ⟨synced stage.1, { stage.2 with }⟩
  · obtain ⟨before, saving⟩ := stage
    have here : poller.storedCursor = _ := congrArg Prod.fst before
    refine ⟨?_, { saving with }⟩
    rw [read, here]
    -- the event being saved is at the cursor, so no handler asked for an ack
    rcases saving.pending with missing | ⟨handed, -⟩
    · rw [missing]
    · have above := saving.handled handed
      omega

/-- The replacement that a cancelled flush makes late: the ack it takes out is settled. -/
private theorem Sound.flushedLate (sound : poller.Sound runtime) {ackId : Nat} {abandon : Bool}
    {file : Option Json} {strays : List Stray}
    (settled : Settled poller.cursor poller.file poller.history cursor ackId abandon)
    (read : readState file = (cursor, none)) (forward : poller.storedCursor ≤ cursor)
    (fewer : strays ⊆ poller.strays) :
    ({ poller with
      file := file
      strays := strays
      history.abandoned :=
        if abandon then ackId :: poller.history.abandoned else poller.history.abandoned } :
      Poller).Sound runtime := by
  -- the cursor of the flush is the stored one
  obtain rfl : poller.storedCursor = cursor :=
    Nat.le_antisymm forward (settled.passed.trans sound.cursor_le)
  have discharged : ∀ other, poller.storedPending = some other →
      (poller.history.flushed ackId abandon).Discharged other := by
    intro other stored
    obtain rfl := settled.stored rfl other stored
    exact History.discharged_flushed settled.settled
  refine ⟨{ sound.accounts with owed := ?_, abandoned := ?_, strays := ?_ }, ?_⟩
  · intro other owed
    exact .inl ((sound.accounts.owed other owed).elim (·.flushed ackId abandon)
      (discharged other))
  · exact History.failed_of_flushed settled.settled sound.accounts.abandoned
  · intro cursor other given member
    exact (sound.accounts.strays cursor other given (fewer member)).of_step (Nat.le_refl _)
      (fun _ => .inl (congrArg Prod.snd read)) (List.Subset.refl _) (Nat.le_refl _)
  · exact sound.stage.flushedLate read settled.passed discharged strays

theorem Sound.strayReplaces (sound : poller.Sound runtime) {index : Nat}
    (meets : PollMeets runtime poller (.strayReplaces index)) :
    (poller.strayReplaces index).Sound runtime := by
  have fewer : poller.strays.eraseIdx index ⊆ poller.strays := List.eraseIdx_subset
  unfold Poller.strayReplaces
  split
  · exact sound
  · rename_i stray found
    dsimp only
    split
    · exact ⟨{ sound.accounts with
        strays := fun cursor ackId abandon member =>
          sound.accounts.strays cursor ackId abandon (fewer member) },
      sound.stage.reread rfl _ poller.history.owed⟩
    · rename_i checked
      obtain ⟨read, forward⟩ := readState_of_checkSave checked
      cases stray with
      | flush cursor ackId abandon =>
        have settled := sound.accounts.strays cursor ackId abandon (List.mem_of_getElem? found)
        have flushed := sound.flushedLate settled read forward fewer
        cases abandon with
        | true => exact flushed
        | false => exact flushed
      | event eventId pendingAck =>
        have same := meets eventId pendingAck found checked
        have kept := sound.reread (read.trans same.symm) fewer
        rw [storedPending, same] at kept
        exact kept

/-- The invariant is kept by every step whose answer meets the condition. -/
theorem Sound.step (sound : poller.Sound runtime) (event : PollEvent)
    (meets : PollMeets runtime poller event) : (step runtime poller event).Sound runtime := by
  have stage := sound.stage
  unfold Cards.step
  cases event with
  | poll =>
    dsimp only
    split
    · rename_i phase
      rw [phase] at stage
      exact sound.accounts.flushPendingAck stage trivial
    · exact sound
  | ackAnswer accepted =>
    dsimp only
    split
    · rename_i eventId attempt next phase
      rw [phase] at stage
      obtain ⟨synced, outstanding, queued⟩ := stage
      exact sound.accounts.ackAnswered synced outstanding queued attempt accepted
    · exact sound
  | fetched answer =>
    dsimp only
    split
    · rename_i phase
      rw [phase] at stage
      exact sound.accounts.nextEvent stage.1 stage.2 (queue_ordered meets)
    · exact sound
  | handlerReturns status =>
    dsimp only
    split
    · rename_i action event rest phase
      rw [phase] at stage
      obtain ⟨synced, idle, queue, parsed⟩ := stage
      have above := (queue.ahead event List.mem_cons_self).2 ⟨action, parsed⟩
      refine ⟨{ sound.accounts with }, { synced with }, {
        bounded := (queue.genuine event List.mem_cons_self).le
        above := above.le
        handled := fun _ => above
        idle := idle
        pending := ?_
        queue := queue.tail }⟩
      by_cases asked : shouldAck status = true
      · rw [if_pos asked]
        exact .inr ⟨rfl, rfl⟩
      · rw [if_neg asked]
        exact .inl rfl
    · exact sound
  | replace =>
    dsimp only
    split
    · rename_i eventId abandon next phase
      rw [phase] at stage
      obtain ⟨⟨synced, outstanding, queued⟩, settled⟩ := stage
      exact sound.accounts.replaceClearing synced outstanding queued settled
    · rename_i eventId action pendingAck rest phase
      rw [phase] at stage
      exact sound.accounts.replaceSaving stage.1 stage.2
    · exact sound
  | saveReturns =>
    dsimp only
    split
    · rename_i next phase
      rw [phase] at stage
      obtain ⟨read, -, queued, -⟩ := stage
      exact sound.accounts.cleared read queued
    · rename_i eventId action pendingAck rest phase
      rw [phase] at stage
      exact sound.accounts.saved stage.1 stage.2
    · exact sound
  | raise => exact sound.raise meets
  | cancel => exact sound.cancelled meets
  | strayReplaces index => exact sound.strayReplaces meets
  | crash => exact sound.crash

theorem Sound.unreturned (sound : poller.Sound runtime) (member : event ∈ poller.phase.unreturned)
    (card : IsCard runtime event) :
    poller.cursor < event.eventId ∧ poller.storedCursor < event.eventId := by
  have stage := sound.stage
  unfold Phase.unreturned at member
  split at member
  · rename_i phase
    rw [phase] at stage
    obtain ⟨synced, -, queue, -⟩ := stage
    have above := (queue.ahead event member).2 card
    exact ⟨above, by rwa [synced.cursor]⟩
  · rename_i eventId action pendingAck replaced rest phase
    rw [phase] at stage
    cases replaced with
    | false =>
      obtain ⟨synced, saving⟩ := stage
      have above := ((saving.queue.ahead event member).of_le saving.above).2 card
      exact ⟨above, by rwa [synced.cursor]⟩
    | true =>
      obtain ⟨read, saving⟩ := stage
      have above := (saving.queue.ahead event member).2 card
      exact ⟨lt_of_le_of_lt saving.above above, by rwa [storedCursor, read]⟩
  · rename_i phase
    rw [phase] at stage
    obtain ⟨synced, -, queue⟩ := stage
    have above := (Queue.ahead queue event member).2 card
    exact ⟨above, by rwa [synced.cursor]⟩
  · rename_i eventId abandon replaced rest phase
    rw [phase] at stage
    cases replaced with
    | false =>
      obtain ⟨⟨synced, -, queue⟩, -⟩ := stage
      have above := (Queue.ahead queue event member).2 card
      exact ⟨above, by rwa [synced.cursor]⟩
    | true =>
      obtain ⟨read, -, queue, -⟩ := stage
      have above := (Queue.ahead queue event member).2 card
      exact ⟨above, by rwa [storedCursor, read]⟩
  · cases member

theorem Sound.remembers (sound : poller.Sound runtime) (stored : poller.storedPending = some eventId) :
    poller.history.Discharged eventId ∨ poller.Remembers eventId := by
  have stage := sound.stage
  have known : poller.Synced → poller.Remembers eventId := by
    intro synced
    rcases synced.pending with same | ⟨missing, -⟩
    · exact .inl (same.symm.trans stored)
    · cases missing.symm.trans stored
  unfold Stage at stage
  split at stage
  · exact .inr (known stage)
  · exact .inr (known stage.1)
  · exact .inr (known stage.1)
  · exact .inr (known stage.1.1)
  · rw [storedPending, stage.1] at stored
    cases stored
  · exact .inr (known stage.1)
  · exact .inr (known stage.1)
  · rename_i other action pendingAck rest phase
    obtain ⟨read, saving⟩ := stage
    rw [storedPending, read] at stored
    rcases saving.pending with missing | ⟨-, same⟩
    · cases missing.symm.trans stored
    · obtain rfl := Option.some.inj (same.symm.trans stored)
      exact .inr (.inr ⟨action, rest, by rw [phase, same]⟩)

private theorem Sound.cursorSafe (sound : poller.Sound runtime) : poller.CursorSafe runtime where
  stored := by
    have stage := sound.stage
    unfold Stage at stage
    split at stage
    · exact .inl stage.cursor
    · exact .inl stage.1.cursor
    · exact .inl stage.1.cursor
    · exact .inl stage.1.1.cursor
    · exact .inl (congrArg Prod.fst stage.1)
    · exact .inl stage.1.cursor
    · exact .inl stage.1.cursor
    · rename_i eventId action pendingAck rest phase
      have same : poller.storedCursor = eventId := congrArg Prod.fst stage.1
      exact .inr ⟨action, pendingAck, rest, by rw [phase, same]⟩
  pending := ⟨(readState_bounded poller.file).2, sound.accounts.pending⟩
  passed event member card := sound.unreturned member card
  handled := sound.accounts.handled
  fresh := by
    intro action event rest phase eventId member
    have stage := sound.stage
    rw [phase] at stage
    obtain ⟨-, -, queue, parsed⟩ := stage
    rw [(queue.genuine event List.mem_cons_self).eventId_eq parsed]
    exact lt_of_le_of_lt (sound.accounts.below eventId member)
      ((queue.ahead event List.mem_cons_self).2 ⟨action, parsed⟩)
  acked := by
    intro eventId owed
    rcases sound.accounts.owed eventId owed with discharged | stored
    · rcases discharged with accepted | given
      · exact .inl accepted
      · exact .inr (.inl given)
    · rcases sound.remembers stored with discharged | known
      · rcases discharged with accepted | given
        · exact .inl accepted
        · exact .inr (.inl given)
      · exact .inr (.inr ⟨stored, known⟩)
  abandoned := sound.accounts.abandoned

/-- Neither cursor is behind that of the other poller. -/
def Forward (before after : Poller) : Prop :=
  before.cursor ≤ after.cursor ∧ before.storedCursor ≤ after.storedCursor

/-- Both cursors are the same. -/
def SameCursors (before after : Poller) : Prop :=
  after.cursor = before.cursor ∧ after.file = before.file

theorem SameCursors.forward {after : Poller} (same : SameCursors poller after) :
    Forward poller after := by
  refine ⟨le_of_eq same.1.symm, ?_⟩
  rw [storedCursor, storedCursor, same.2]

theorem sameCursors_nextEvent (poller : Poller) (rest : List BotEvent) :
    SameCursors poller (poller.nextEvent runtime rest) := by
  cases rest with
  | nil => exact ⟨rfl, rfl⟩
  | cons event rest =>
    unfold nextEvent
    dsimp only
    split
    · exact ⟨rfl, rfl⟩
    · exact ⟨rfl, rfl⟩
    · exact ⟨rfl, rfl⟩

theorem sameCursors_resume (poller : Poller) (next : Resume) :
    SameCursors poller (poller.resume runtime next) := by
  cases next with
  | fetch => exact ⟨rfl, rfl⟩
  | batch rest => exact sameCursors_nextEvent poller rest

theorem sameCursors_flushPendingAck (poller : Poller) (next : Resume) :
    SameCursors poller (poller.flushPendingAck runtime next) := by
  unfold Poller.flushPendingAck
  split
  · exact sameCursors_resume { poller with flushFailures := 0 } next
  · exact ⟨rfl, rfl⟩

private theorem sameCursors_ackAnswered (poller : Poller) (eventId attempt : Nat) (next : Resume)
    (accepted : Bool) : SameCursors poller (poller.ackAnswered eventId attempt next accepted) := by
  unfold Poller.ackAnswered
  split
  · exact ⟨rfl, rfl⟩
  · split
    · exact ⟨rfl, rfl⟩
    · dsimp only
      split
      · exact ⟨rfl, rfl⟩
      · exact ⟨rfl, rfl⟩

theorem stored_le_of_checkSave {file : Option Json}
    (checked : checkSave eventId pendingAck file = .ok ()) :
    (readState file).1 ≤ (readState (some (cursorDocument eventId pendingAck))).1 := by
  obtain ⟨read, forward⟩ := readState_of_checkSave checked
  rw [read]
  exact forward

private theorem forward_replaceClearing (poller : Poller) (eventId : Nat) (abandon : Bool)
    (next : Resume) :
    Forward poller (poller.replaceClearing eventId abandon next) := by
  unfold Poller.replaceClearing
  cases checked : checkSave poller.cursor none poller.file with
  | error error => exact ⟨Nat.le_refl _, Nat.le_refl _⟩
  | ok _ => exact ⟨Nat.le_refl _, stored_le_of_checkSave checked⟩

private theorem forward_strayReplaces (poller : Poller) (index : Nat) :
    Forward poller (poller.strayReplaces index) := by
  unfold Poller.strayReplaces
  split
  · exact ⟨Nat.le_refl _, Nat.le_refl _⟩
  · rename_i stray _
    cases checked : checkSave stray.eventId stray.pendingAck poller.file with
    | error error => exact ⟨Nat.le_refl _, Nat.le_refl _⟩
    | ok _ => exact ⟨Nat.le_refl _, stored_le_of_checkSave checked⟩

private theorem sameCursors_cancelled (poller : Poller) : SameCursors poller poller.cancelled := by
  unfold Poller.cancelled
  split
  · exact ⟨rfl, rfl⟩
  · exact ⟨rfl, rfl⟩
  · exact ⟨rfl, rfl⟩

private theorem forward_replaceSaving (poller : Poller) (eventId : Nat) (action : Option CardAction)
    (pendingAck : Option Nat) (rest : List BotEvent) :
    Forward poller (poller.replaceSaving eventId action pendingAck rest) := by
  unfold Poller.replaceSaving
  cases checked : checkSave eventId pendingAck poller.file with
  | error error => exact ⟨Nat.le_refl _, Nat.le_refl _⟩
  | ok _ => exact ⟨Nat.le_refl _, stored_le_of_checkSave checked⟩

private theorem forward_saved (above : poller.cursor ≤ eventId) (action : Option CardAction)
    (pendingAck : Option Nat) (rest : List BotEvent) :
    Forward poller (poller.saved runtime eventId action pendingAck rest) := by
  have moved : ∀ {before after : Poller}, SameCursors before after → before.cursor = eventId →
      before.file = poller.file → Forward poller after := by
    intro before after same cursor file
    refine ⟨?_, ?_⟩
    · rw [same.1, cursor]
      exact above
    · rw [storedCursor, storedCursor, same.2, file]
  unfold Poller.saved
  dsimp only
  split
  · exact moved (sameCursors_flushPendingAck _ _) rfl rfl
  · exact moved (sameCursors_nextEvent _ _) rfl rfl

theorem Sound.forward (sound : poller.Sound runtime) (event : PollEvent) :
    Forward poller (Cards.step runtime poller event) := by
  have stage := sound.stage
  have still : Forward poller poller := ⟨Nat.le_refl _, Nat.le_refl _⟩
  unfold Cards.step
  cases event with
  | poll =>
    dsimp only
    split
    · exact (sameCursors_flushPendingAck poller .fetch).forward
    · exact still
  | ackAnswer accepted =>
    dsimp only
    split
    · exact (sameCursors_ackAnswered poller _ _ _ accepted).forward
    · exact still
  | fetched answer =>
    dsimp only
    split
    · exact (sameCursors_nextEvent poller _).forward
    · exact still
  | handlerReturns status =>
    dsimp only
    split
    · exact still
    · exact still
  | replace =>
    dsimp only
    split
    · exact forward_replaceClearing poller _ _ _
    · exact forward_replaceSaving poller _ _ _ _
    · exact still
  | saveReturns =>
    dsimp only
    split
    · exact (sameCursors_resume { poller with pendingAck := none, flushFailures := 0 } _).forward
    · rename_i eventId action pendingAck rest phase
      rw [phase] at stage
      exact forward_saved stage.2.above action pendingAck rest
    · exact still
  | raise => exact still
  | cancel => exact (sameCursors_cancelled poller).forward
  | strayReplaces index => exact forward_strayReplaces poller index
  | crash => exact ⟨sound.cursor_le, Nat.le_refl _⟩

end Poller

theorem pollRun_sound {file : Option Json} {done : List PollEvent}
    (meets : (pollMachine runtime file).Along (PollMeets runtime) done) :
    ((pollMachine runtime file).run done).Sound runtime :=
  Machine.invariant_of_along
    (Poller.sound_initialized List.Pairwise.nil (fun _ none => by cases none)
      (fun _ none => by cases none) (fun _ none => by cases none))
    (fun _ event sound meets => sound.step event meets) meets

/-- Over every run in which no answer of the server hides a card event behind its own
id, no save fails once it is done, and none that was cancelled moves the file later, the
cursors are safe. -/
theorem pollRun_cursorsKept (runtime : Json.Runtime) (file : Option Json) (events : List PollEvent)
    (meets : (pollMachine runtime file).Along (PollMeets runtime) events) :
    CursorsKept runtime file events := by
  refine ⟨(pollRun_sound meets).cursorSafe, ?_⟩
  intro earlier event split
  subst split
  rw [Machine.run_append]
  exact (pollRun_sound meets.front).forward event

/-- A press of a button, as the server reports it. -/
def press (eventId : Nat) : Json :=
  .obj [(py "event_id", .int eventId), (py "event_type", .str (py "card_action")),
    (py "event_data", .obj [(py "message_id", .str (py "m")), (py "channel_id", .str (py "c")),
      (py "channel_type", .int 1), (py "action_id", .str (py "a")),
      (py "operator_uid", .str (py "u"))])]

/-- A press is handled, and its save cancelled; it is handled again and saved before the first
save gets to the file. Its ack is still pending when the process dies, and fails once after
the restart. -/
def crashedRun : List PollEvent :=
  [.poll, .fetched [press 5], .handlerReturns (some (py "completed")), .cancel, .poll,
    .fetched [press 6, press 5], .handlerReturns (some (py "completed")), .replace,
    .strayReplaces 0, .crash, .poll, .ackAnswer false]

theorem pollRun_cursorsKept_crashed :
    CursorsKept ⟨1000, 1000, by decide, by decide, fun _ => "0.0"⟩ none crashedRun := by
  refine pollRun_cursorsKept _ _ _ (Machine.along_of_follows ?_)
  refine ⟨trivial, List.pairwise_singleton _ _, trivial, ?_, trivial, ?_, trivial, trivial, ?_,
    trivial, trivial, trivial, trivial⟩
  · intro eventId action pendingAck rest replaced
    cases replaced
  · have ids : (ordered 0 [press 6, press 5]).map BotEvent.eventId = [5, 6] := by decide +kernel
    have distinct : ((ordered 0 [press 6, press 5]).map BotEvent.eventId).Pairwise (· ≠ ·) := by
      rw [ids]
      decide
    change (ordered 0 [press 6, press 5]).Pairwise _
    refine (List.pairwise_map.mp distinct).imp ?_
    intro first second different _
    exact different
  · intro eventId pendingAck found _
    cases found
    decide +kernel

/-- The server lists one press twice; it is handed over again after it was handled,
saved and acknowledged. -/
def twiceRun : List PollEvent :=
  [.poll, .fetched [press 5, press 5], .handlerReturns (some (py "completed")), .replace,
    .saveReturns, .ackAnswer true, .replace, .saveReturns]

/-- The id that the handler was given, and those handled before. -/
def Poller.given (poller : Poller) : Option (Nat × List Nat) :=
  match poller.phase with
  | .handling action _ _ => some (action.eventId, poller.history.handled)
  | _ => none

/-- The save of a press is cancelled, and replaces the file all the same. -/
def strayRun : List PollEvent :=
  [.poll, .fetched [press 5], .handlerReturns (some (py "completed")), .cancel, .strayReplaces 0]

theorem runs_not_cursorsKept :
    let runtime : Json.Runtime := ⟨1000, 1000, by decide, by decide, fun _ => "0.0"⟩
    ¬ CursorsKept runtime none twiceRun ∧ ¬ CursorsKept runtime none strayRun := by
  intro runtime
  refine ⟨fun kept => ?_, fun kept => ?_⟩
  · have again : ((pollMachine runtime none).run twiceRun).given = some (5, [5]) := by
      decide +kernel
    unfold Poller.given at again
    split at again
    · rename_i action event rest phase
      obtain ⟨same, handled⟩ := Prod.mk.inj (Option.some.inj again)
      have larger := kept.1.fresh action event rest phase 5 (by rw [handled]; exact List.mem_cons_self)
      omega
    · cases again
  · have moved : ((pollMachine runtime none).run strayRun).storedCursor = 5 := by decide +kernel
    have behind : ((pollMachine runtime none).run strayRun).cursor = 0 := by decide +kernel
    rcases kept.1.stored with same | ⟨action, pendingAck, rest, saving⟩
    · rw [moved, behind] at same
      cases same
    · have idle : ((pollMachine runtime none).run strayRun).phase = .idle := by rfl
      cases idle.symm.trans saving

end OctoChannel.Cards

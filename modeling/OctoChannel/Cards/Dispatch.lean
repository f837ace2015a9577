import OctoChannel.Cards.Sessions
import OctoChannel.Foundation.Runs

/-! Presses and edits of cards, run side by side: `handle_card_action` and the edit tool,
each from await to await. -/

namespace OctoChannel.Cards

open Foundation

/-- What a run does once the store has taken its release or completion. -/
inductive AfterStore where
  | returns (result : PyStr)
  | reraises
  | reports (result : PyStr)

/-- Where a `handle_card_action` waits: for the first status edit, the dispatch
callback, the store, or the last status edit. -/
inductive PressPhase where
  | updating (session : CardSession) (attempts : Int)
  | dispatching (session : CardSession) (attempts : Int)
  | storing (after : AfterStore)
  | reporting (result : PyStr)

/-- Where an `octo_edit_card_handler` waits: inside its `try`, for the store, or for the
session to close behind the early return. -/
inductive EditPhase where
  | editing (final : Bool)
  | storing (closes : Bool)
  | closing (failed : Bool)

inductive CardRun where
  | press (action : CardAction) (phase : PressPhase)
  | edit (messageId : PyStr) (cardSeq : Nat) (phase : EditPhase)

/-- What statements about runs refer to; no modelled function reads it. -/
structure CardHistory where
  /-- Messages with a dispatch that was accepted with a terminal status. -/
  accepted : List PyStr
  /-- Messages a press of which called `complete`. -/
  pressCompleted : List PyStr
  /-- Messages a final edit of which called `complete`. -/
  editCompleted : List PyStr

/-- The registry of one identity, the monotonic clock, and the runs under way. -/
structure CardDesk where
  registry : CardRegistry
  now : Int
  runs : Dict Nat CardRun
  history : CardHistory

/-- How `handle_card_action` gets on after its claim. -/
inductive PressStart where
  | returned (status : PyStr)
  | raised (error : PyError)
  | waits (phase : PressPhase)

/-- What a dispatch callback returns: `bool | str`. -/
inductive Accepted where
  | flag (accepted : Bool)
  | status (text : PyStr)

def Accepted.terminalStatus : Accepted → PyStr
  | .flag true => py "completed"
  | .flag false => py "ignored"
  | .status text => text

def terminalStatuses : List PyStr :=
  [py "completed", py "awaiting_text", py "expired", py "failed"]

def ClaimStatus.text : ClaimStatus → PyStr
  | .claimed => py "claimed"
  | .duplicate => py "duplicate"
  | .missing => py "missing"

/-- A multi-select clarify card is confirmed without a valid choice. -/
def confirmsNothing (session : CardSession) (action : CardAction) : Bool :=
  match session.clarify with
  | none => false
  | some clarify =>
    clarify.multiSelect && some action.actionId = clarify.confirmActionId &&
      noneSelected clarify action

namespace CardDesk

variable (desk : CardDesk)

def fresh (registry : CardRegistry) (now : Int) : CardDesk :=
  ⟨registry, now, .empty, ⟨[], [], []⟩⟩

def setRun (run : Nat) (state : CardRun) : CardDesk := { desk with runs := desk.runs.set run state }

def endRun (run : Nat) : CardDesk := { desk with runs := desk.runs.erase run }

def release (messageId : PyStr) (eventId : Int) : CardDesk :=
  { desk with registry := desk.registry.release desk.now messageId eventId }

def complete (messageId : PyStr) (eventId : Int) : CardDesk :=
  { desk with registry := desk.registry.complete desk.now messageId eventId }

def pressRelease (action : CardAction) : CardDesk := desk.release action.messageId action.eventId

def pressComplete (action : CardAction) : CardDesk :=
  { desk.complete action.messageId action.eventId with
    history.pressCompleted := action.messageId :: desk.history.pressCompleted }

/-- `handle_card_action` up to its first await. A release is followed by its store
write like everywhere else. -/
def handleStart (action : CardAction) (moment : Moment) : PressStart × CardDesk :=
  let (outcome, registry) :=
    desk.registry.claim desk.now moment action.messageId action.eventId
  let claimed := { desk with registry, now := desk.now + moment.lapse }
  match outcome with
  | .error error => (.raised error, claimed)
  | .ok claim =>
    match claim.session with
    | none => (.returned claim.status.text, claimed)
    | some session =>
      match claim.status, actionMatchesSession action session with
      | .claimed, .ok true =>
        if confirmsNothing session action then
          (.waits (.storing (.reports (py "invalid"))), claimed.pressRelease action)
        else (.waits (.updating session claim.attempts), claimed)
      | .claimed, _ =>
        (.waits (.storing (.returns (py "ignored"))), claimed.pressRelease action)
      | _, .ok true => (.returned (py "duplicate"), claimed)
      | _, _ => (.returned (py "ignored"), claimed)

/-- A new run of `handle_card_action`. -/
def press (run : Nat) (action : CardAction) (moment : Moment) : CardDesk :=
  match desk.handleStart action moment with
  | (.waits phase, claimed) => claimed.setRun run (.press action phase)
  | (_, claimed) => claimed

/-- The dispatch callback returns. -/
def dispatchReturned (run : Nat) (action : CardAction) (accepted : Accepted) : CardDesk :=
  let status := accepted.terminalStatus
  if status ∈ terminalStatuses then
    let completed := desk.pressComplete action
    { completed with history.accepted := action.messageId :: completed.history.accepted }.setRun run
      (.press action (.storing (.reports status)))
  else (desk.pressRelease action).setRun run (.press action (.storing (.reports (py "ignored"))))

/-- The dispatch callback raises: the last attempt is a dead letter. -/
def dispatchRaised (run : Nat) (action : CardAction) (attempts : Int) : CardDesk :=
  if desk.registry.maxDispatchAttempts ≤ attempts then
    (desk.pressComplete action).setRun run
      (.press action (.storing (.reports (py "dead_letter"))))
  else (desk.pressRelease action).setRun run (.press action (.storing .reraises))

/-- The store write after a release or completion; when it raises, so does the run. -/
def stored (run : Nat) (action : CardAction) (after : AfterStore) (moment : Moment) : CardDesk :=
  let (outcome, registry) := desk.registry.persist desk.now moment
  let written := { desk with registry, now := desk.now + moment.lapse }
  match outcome, after with
  | .ok _, .reports result => written.setRun run (.press action (.reporting result))
  | _, _ => written.endRun run

/-- A new run of `octo_edit_card_handler`, from its claim on. -/
def edit (run : Nat) (args : EditArgs) (final : Bool) (moment : Moment) : CardDesk :=
  let (outcome, registry) := desk.registry.claimEdit desk.now moment args
  let claimed := { desk with registry, now := desk.now + moment.lapse }
  match outcome with
  | .ok (some cardSeq) => claimed.setRun run (.edit args.messageId cardSeq (.editing final))
  | _ => claimed

/-- The edit gives its claim back; the store write follows. -/
def editRelease (run : Nat) (messageId : PyStr) (cardSeq : Nat) (closes : Bool) : CardDesk :=
  (desk.release messageId (-(cardSeq : Int))).setRun run (.edit messageId cardSeq (.storing closes))

/-- The `try` is left with the edit made. -/
def edited (run : Nat) (messageId : PyStr) (cardSeq : Nat) (final : Bool) : CardDesk :=
  if final then
    { desk.complete messageId (-(cardSeq : Int)) with
      history.editCompleted := messageId :: desk.history.editCompleted }.setRun run
      (.edit messageId cardSeq (.storing false))
  else desk.editRelease run messageId cardSeq false

/-- The store write of an edit. One that raises inside the `try` leaves through its handlers,
once the session is closed. -/
def editStored (run : Nat) (messageId : PyStr) (cardSeq : Nat) (closes : Bool) (moment : Moment) :
    CardDesk :=
  let (outcome, registry) := desk.registry.persist desk.now moment
  let written := { desk with registry, now := desk.now + moment.lapse }
  if closes then written.setRun run (.edit messageId cardSeq (.closing (!outcome.isOk)))
  else written.endRun run

end CardDesk

/-- A callback or a network call of a run may end in any way, the clock goes on, and the store
may be written at any time by other calls. The steps of an edit tell how its `try` is left, and
that its session closes. -/
inductive CardEvent where
  | press (run : Nat) (action : CardAction) (moment : Moment)
  | statusUpdated (run : Nat)
  | dispatchReturns (run : Nat) (accepted : Accepted)
  | dispatchRaises (run : Nat)
  | cancel (run : Nat)
  | stored (run : Nat) (moment : Moment)
  | reported (run : Nat)
  | edit (run : Nat) (args : EditArgs) (final : Bool) (moment : Moment)
  | editUnavailable (run : Nat)
  | edited (run : Nat)
  | editRaises (run : Nat)
  | editCloses (run : Nat)
  | persist (moment : Moment)
  | tick (lapse : Nat)

/-- One step; an event that its run does not wait for changes nothing. -/
def cardStep (desk : CardDesk) : CardEvent → CardDesk
  | .press run action moment =>
    if (desk.runs.get? run).isSome then desk else desk.press run action moment
  | .statusUpdated run =>
    match desk.runs.get? run with
    | some (.press action (.updating session attempts)) =>
      desk.setRun run (.press action (.dispatching session attempts))
    | _ => desk
  | .dispatchReturns run accepted =>
    match desk.runs.get? run with
    | some (.press action (.dispatching _ _)) => desk.dispatchReturned run action accepted
    | _ => desk
  | .dispatchRaises run =>
    match desk.runs.get? run with
    | some (.press action (.dispatching _ attempts)) => desk.dispatchRaised run action attempts
    | _ => desk
  | .cancel run =>
    match desk.runs.get? run with
    | some (.press action (.updating _ _)) =>
      (desk.pressRelease action).setRun run (.press action (.storing .reraises))
    | some (.press action (.dispatching _ _)) =>
      (desk.pressRelease action).setRun run (.press action (.storing .reraises))
    | some (.press _ (.reporting _)) => desk.endRun run
    -- no handler of the edit tool catches a cancellation
    | some (.edit _ _ (.editing _)) => desk.endRun run
    | some (.edit _ _ (.closing _)) => desk.endRun run
    | _ => desk
  | .stored run moment =>
    match desk.runs.get? run with
    | some (.press action (.storing after)) => desk.stored run action after moment
    | some (.edit messageId cardSeq (.storing closes)) =>
      desk.editStored run messageId cardSeq closes moment
    | _ => desk
  | .reported run =>
    match desk.runs.get? run with
    | some (.press _ (.reporting _)) => desk.endRun run
    | _ => desk
  | .edit run args final moment =>
    if (desk.runs.get? run).isSome then desk else desk.edit run args final moment
  | .editUnavailable run =>
    match desk.runs.get? run with
    | some (.edit messageId cardSeq (.editing _)) => desk.editRelease run messageId cardSeq true
    | _ => desk
  | .edited run =>
    match desk.runs.get? run with
    | some (.edit messageId cardSeq (.editing final)) => desk.edited run messageId cardSeq final
    | _ => desk
  | .editRaises run =>
    match desk.runs.get? run with
    | some (.edit messageId cardSeq (.editing _)) => desk.editRelease run messageId cardSeq false
    | some (.edit messageId cardSeq (.closing _)) => desk.editRelease run messageId cardSeq false
    | _ => desk
  | .editCloses run =>
    match desk.runs.get? run with
    | some (.edit messageId cardSeq (.closing true)) =>
      desk.editRelease run messageId cardSeq false
    | some (.edit _ _ (.closing false)) => desk.endRun run
    | _ => desk
  | .persist moment =>
    { desk with
      registry := (desk.registry.persist desk.now moment).2
      now := desk.now + moment.lapse }
  | .tick lapse => { desk with now := desk.now + lapse }

def cardMachine (registry : CardRegistry) (now : Int) : Machine CardDesk CardEvent where
  start := .fresh registry now
  step := cardStep

namespace CardDesk

variable (desk : CardDesk)

/-- The desk after a claim, whatever its outcome. -/
def claimed (moment : Moment) (registry : CardRegistry) : CardDesk :=
  { desk with registry, now := desk.now + moment.lapse }

/-- The claim of the press took the pending entry and wrote the store. -/
structure Claims (action : CardAction) (moment : Moment) (entry : CardEntry)
    (registry : CardRegistry) : Prop where
  present : desk.registry.entries.get? action.messageId = some entry
  live : desk.now < entry.expiresAt
  pending : entry.state = .pending
  claimed : desk.registry.claim desk.now moment action.messageId action.eventId =
    (.ok ⟨.claimed, some entry.session, (CardRegistry.claimedBy entry action.eventId).dispatchAttempts⟩,
      registry)
  changes : desk.registry.Changes registry action.messageId
    (CardRegistry.claimedBy entry action.eventId)

/-- A press claims nothing, or it claims and goes on to its first status edit, or it claims
and gives the claim back at once. -/
theorem press_cases (run : Nat) (action : CardAction) (moment : Moment) :
    (desk.registry.Shrinks (desk.registry.claim desk.now moment action.messageId action.eventId).2 ∧
      (∀ claim, (desk.registry.claim desk.now moment action.messageId action.eventId).1 = .ok claim →
        claim.status ≠ .claimed) ∧
      desk.press run action moment = desk.claimed moment
        (desk.registry.claim desk.now moment action.messageId action.eventId).2) ∨
    ∃ entry registry, desk.Claims action moment entry registry ∧
      ((actionMatchesSession action entry.session = .ok true ∧
          desk.press run action moment = (desk.claimed moment registry).setRun run
            (.press action (.updating entry.session
              (CardRegistry.claimedBy entry action.eventId).dispatchAttempts))) ∨
        ∃ after, desk.press run action moment =
          ((desk.claimed moment registry).pressRelease action).setRun run
            (.press action (.storing after))) := by
  unfold CardDesk.press handleStart
  rcases desk.registry.claim_spec desk.now moment action.messageId action.eventId with
    ⟨shrinks, unclaimed⟩ | ⟨entry, present, live, pending, answered, changes⟩
  · refine .inl ⟨shrinks, unclaimed, ?_⟩
    rcases outcome : desk.registry.claim desk.now moment action.messageId action.eventId with
      ⟨error | claim, registry⟩
    · rfl
    · rw [outcome] at unclaimed
      have other := unclaimed claim rfl
      dsimp only
      cases claim.session with
      | none => rfl
      | some session =>
        cases status : claim.status with
        | claimed => exact absurd status other
        | duplicate | missing =>
          dsimp only
          cases actionMatchesSession action session with
          | error => rfl
          | ok matched => cases matched <;> rfl
  · refine .inr ?_
    rcases outcome : desk.registry.claim desk.now moment action.messageId action.eventId with
      ⟨result, registry⟩
    rw [outcome] at answered changes
    dsimp only at answered changes
    subst answered
    refine ⟨entry, registry, ⟨present, live, pending, outcome, changes⟩, ?_⟩
    dsimp only
    cases matched : actionMatchesSession action entry.session with
    | error => exact .inr ⟨_, rfl⟩
    | ok answer =>
      cases answer with
      | false => exact .inr ⟨_, rfl⟩
      | true =>
        dsimp only
        by_cases empty : confirmsNothing entry.session action = true
        · rw [if_pos empty]
          exact .inr ⟨_, rfl⟩
        · rw [if_neg empty]
          exact .inl ⟨rfl, rfl⟩

/-- An edit claims nothing, or it claims and goes on to its network calls. -/
theorem edit_cases (run : Nat) (args : EditArgs) (final : Bool) (moment : Moment) :
    (desk.registry.Shrinks (desk.registry.claimEdit desk.now moment args).2 ∧
      desk.edit run args final moment =
        desk.claimed moment (desk.registry.claimEdit desk.now moment args).2) ∨
    ∃ entry, desk.registry.entries.get? args.messageId = some entry ∧ entry.state = .pending ∧
      desk.registry.Changes (desk.registry.claimEdit desk.now moment args).2 args.messageId
        (CardRegistry.editedBy entry) ∧
      desk.edit run args final moment =
        (desk.claimed moment (desk.registry.claimEdit desk.now moment args).2).setRun run
          (.edit args.messageId (entry.cardSeq + 1) (.editing final)) := by
  unfold CardDesk.edit
  rcases desk.registry.claimEdit_spec desk.now moment args with
    ⟨shrinks, unclaimed⟩ | ⟨entry, present, -, pending, answered, changes⟩
  · refine .inl ⟨shrinks, ?_⟩
    rcases outcome : desk.registry.claimEdit desk.now moment args with
      ⟨error | _ | cardSeq, registry⟩
    · rfl
    · rfl
    · rw [outcome] at unclaimed
      exact absurd rfl (unclaimed cardSeq)
  · rcases outcome : desk.registry.claimEdit desk.now moment args with ⟨result, registry⟩
    rw [outcome] at answered changes
    dsimp only at answered changes
    subst answered
    exact .inr ⟨entry, present, pending, changes, rfl⟩

end CardDesk

end OctoChannel.Cards

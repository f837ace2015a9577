import OctoChannel.Cards.AtMostOnce
import OctoChannel.Cards.Poller

namespace OctoChannel.Cards

open Foundation

/-- The poller acknowledges what the press returned at once. -/
def PressStart.Consumed : PressStart → Prop
  | .returned status => shouldAck (some status) = true
  | _ => False

def CompletedIn (registry : CardRegistry) (messageId : PyStr) : Prop :=
  ∃ entry, registry.entries.get? messageId = some entry ∧ entry.state = .completed

/-- A duplicate is one of a card that an earlier action completed, durably; and no press
is consumed while the card is only held. -/
structure DuplicateSafe (registry : CardRegistry) (desk : CardDesk) (action : CardAction)
    (moment : Moment) : Prop where
  duplicate : (desk.handleStart action moment).1 = .returned (py "duplicate") →
    (∃ entry, desk.live? action.messageId = some entry ∧ entry.state = .completed) ∧
      (desk.handleStart action moment).2.registry.Durable action.messageId ∧
      (action.messageId ∈ desk.history.pressCompleted ∨ CompletedIn registry action.messageId)
  processing : ∀ entry, desk.live? action.messageId = some entry → entry.state = .processing →
    ¬ (desk.handleStart action moment).1.Consumed

/-- So it is for every press with which the run ends. -/
def DuplicatesSafe (registry : CardRegistry) (now : Int) (events : List CardEvent) : Prop :=
  ∀ earlier run action moment, events = earlier ++ [.press run action moment] →
    DuplicateSafe registry ((cardMachine registry now).run earlier) action moment

/-- A press of its session that comes through finds the card not held, and not
completed by a final edit. -/
def CardMeets (desk : CardDesk) : CardEvent → Prop
  | .press _ action moment => ∀ entry, desk.live? action.messageId = some entry →
      actionMatchesSession action entry.session = .ok true →
        (desk.registry.persistence = none ∨ moment.failure = none) →
          entry.state ≠ .processing ∧ action.messageId ∉ desk.history.editCompleted
  | _ => True

/-- Every completed card was completed by a press or an edit of the run, or before it. -/
def Attributed (registry : CardRegistry) (desk : CardDesk) : Prop :=
  ∀ messageId, CompletedIn desk.registry messageId →
    messageId ∈ desk.history.pressCompleted ∨ messageId ∈ desk.history.editCompleted ∨
      CompletedIn registry messageId

variable {registry before after : CardRegistry} {desk : CardDesk} {messageId : PyStr}
  {entry : CardEntry} {action : CardAction} {moment : Moment}

theorem completedIn_of_shrinks (shrinks : before.Shrinks after)
    (completed : CompletedIn after messageId) : CompletedIn before messageId := by
  obtain ⟨entry, found, state⟩ := completed
  exact ⟨entry, shrinks messageId entry found, state⟩

theorem completedIn_of_changes {changed : PyStr} (changes : before.Changes after changed entry)
    (open' : entry.state ≠ .completed) (completed : CompletedIn after messageId) :
    CompletedIn before messageId := by
  obtain ⟨found, present, state⟩ := completed
  rcases changes messageId found present with ⟨-, rfl⟩ | ⟨-, old⟩
  · exact absurd state open'
  · exact ⟨found, old, state⟩

theorem completedIn_release {now eventId : Int} {released : PyStr}
    (completed : CompletedIn (before.release now released eventId) messageId) :
    CompletedIn before messageId := by
  rcases before.release_spec now released eventId with shrinks | ⟨entry, -, -, changes⟩
  · exact completedIn_of_shrinks shrinks completed
  · exact completedIn_of_changes changes (fun same => by cases same) completed

theorem completedIn_complete {now eventId : Int} {finished : PyStr}
    (completed : CompletedIn (before.complete now finished eventId) messageId) :
    messageId = finished ∨ CompletedIn before messageId := by
  rcases before.complete_spec now finished eventId with ⟨shrinks, -⟩ | ⟨entry, -, -, changes⟩
  · exact .inr (completedIn_of_shrinks shrinks completed)
  · obtain ⟨found, present, state⟩ := completed
    rcases changes messageId found present with ⟨same, -⟩ | ⟨-, old⟩
    · exact .inl same
    · exact .inr ⟨found, old, state⟩

/-- Whatever a step completes it records. -/
structure Credits (desk after : CardDesk) : Prop where
  completed : ∀ messageId, CompletedIn after.registry messageId →
    CompletedIn desk.registry messageId ∨ messageId ∈ after.history.pressCompleted ∨
      messageId ∈ after.history.editCompleted
  press : desk.history.pressCompleted ⊆ after.history.pressCompleted
  edit : desk.history.editCompleted ⊆ after.history.editCompleted

theorem Credits.attributed {after : CardDesk} (credits : Credits desk after)
    (attributed : Attributed registry desk) : Attributed registry after := by
  intro messageId completed
  rcases credits.completed messageId completed with before | recorded | recorded
  · rcases attributed messageId before with pressed | edited | start
    · exact .inl (credits.press pressed)
    · exact .inr (.inl (credits.edit edited))
    · exact .inr (.inr start)
  · exact .inl recorded
  · exact .inr (.inl recorded)

/-- A step that records nothing completes nothing. -/
theorem credits_of_same {after : CardDesk}
    (completed : ∀ messageId, CompletedIn after.registry messageId →
      CompletedIn desk.registry messageId)
    (history : after.history = desk.history) : Credits desk after where
  completed messageId done := .inl (completed messageId done)
  press := by rw [history]; exact List.Subset.refl _
  edit := by rw [history]; exact List.Subset.refl _

theorem Credits.refl (desk : CardDesk) : Credits desk desk := credits_of_same (fun _ done => done) rfl

theorem credits_release {now : Int} (run : Nat) (state : CardRun) (eventId : Int) :
    Credits desk
      ({ desk with registry := desk.registry.release now messageId eventId }.setRun run state) :=
  credits_of_same (fun _ done => completedIn_release done) rfl

theorem credits_pressComplete (run : Nat) (state : CardRun) (accepted : List PyStr) :
    Credits desk
      ({ desk.pressComplete action with
          history.accepted := accepted }.setRun run state) where
  completed other done := by
    rcases completedIn_complete done with same | before
    · exact .inr (.inl (by rw [same]; exact List.mem_cons_self))
    · exact .inl before
  press := List.subset_cons_self _ _
  edit := List.Subset.refl _

private theorem credits_step (desk : CardDesk) (event : CardEvent) : Credits desk
    (cardStep desk event) := by
  have written : ∀ {now : Int} {moment : Moment} (messageId : PyStr),
      CompletedIn (desk.registry.persist now moment).2 messageId →
        CompletedIn desk.registry messageId :=
    fun _ done => completedIn_of_shrinks (desk.registry.shrinks_persist _ _) done
  have move := cardStep_move desk event
  generalize cardStep desk event = after at move ⊢
  cases move with
  | idle => exact .refl desk
  | missed free shrinks => exact credits_of_same (fun _ done => completedIn_of_shrinks shrinks done) rfl
  | claimed free claims matched =>
    exact credits_of_same
      (fun _ done => completedIn_of_changes claims.changes (fun same => by cases same) done) rfl
  | gaveBack free claims after =>
    exact credits_of_same
      (fun _ done => completedIn_of_changes claims.changes (fun same => by cases same)
        (completedIn_release done)) rfl
  | statusUpdated found => exact credits_of_same (fun _ done => done) rfl
  | accepted found terminal => exact credits_pressComplete _ _ _
  | refused found open' => exact credits_release _ _ _
  | deadLetter found last => exact credits_pressComplete _ _ _
  | raised found early => exact credits_release _ _ _
  | updateCancelled found => exact credits_release _ _ _
  | dispatchCancelled found => exact credits_release _ _ _
  | reportCancelled found => exact credits_of_same (fun _ done => done) rfl
  | stored found => exact credits_of_same written rfl
  | unreported found => exact credits_of_same written rfl
  | reported found => exact credits_of_same (fun _ done => done) rfl
  | editMissed free shrinks =>
    exact credits_of_same (fun _ done => completedIn_of_shrinks shrinks done) rfl
  | editClaimed free present pending changes =>
    exact credits_of_same
      (fun _ done => completedIn_of_changes changes (fun same => by cases same) done) rfl
  | editCompleted found =>
    exact {
      completed := fun other done => by
        rcases completedIn_complete done with same | before
        · exact .inr (.inr (by rw [same]; exact List.mem_cons_self))
        · exact .inl before
      press := List.Subset.refl _
      edit := List.subset_cons_self _ _ }
  | editReleased found => exact credits_release _ _ _
  | editStored found => exact credits_of_same written rfl
  | editLeft found => exact credits_of_same written rfl
  | editClosed found => exact credits_of_same (fun _ done => done) rfl
  | editCancelled found => exact credits_of_same (fun _ done => done) rfl
  | persist moment => exact credits_of_same written rfl
  | tick lapse => exact credits_of_same (fun _ done => done) rfl

private theorem cardRun_attributed (registry : CardRegistry) (now : Int) (events : List CardEvent) :
    Attributed registry ((cardMachine registry now).run events) :=
  Machine.invariant_of_steps (fun _ done => .inr (.inr done))
    (fun desk event attributed => (credits_step desk event).attributed attributed) events

/-- The answer of a press that waits for nothing: no card, or one that is not pending and
that the store has just been given. -/
inductive Answered (desk : CardDesk) (action : CardAction) (moment : Moment) : PyStr → Prop where
  | missing : Answered desk action moment (py "missing")
  | duplicate {entry : CardEntry} (live : desk.live? action.messageId = some entry)
      (taken : entry.state ≠ .pending)
      (matched : actionMatchesSession action entry.session = .ok true)
      (wrote : desk.registry.persist desk.now moment =
        (.ok (), (desk.handleStart action moment).2.registry)) :
      Answered desk action moment (py "duplicate")
  | ignored : Answered desk action moment (py "ignored")

theorem handleStart_returned {status : PyStr}
    (returned : (desk.handleStart action moment).1 = .returned status) :
    Answered desk action moment status := by
  have answered := @CardRegistry.claim_answered desk.registry action.messageId desk.now moment
    action.eventId
  have shape : ∀ {claim registry}, desk.registry.claim desk.now moment action.messageId
      action.eventId = (.ok claim, registry) → ∀ session, claim.session = some session →
        claim.status ≠ .claimed → actionMatchesSession action session = .ok true →
          (desk.handleStart action moment).2.registry = registry := by
    intro claim registry outcome session found unheld matched
    unfold CardDesk.handleStart
    rw [outcome]
    dsimp only
    rw [found]
    dsimp only
    cases status : claim.status with
    | claimed => exact absurd status unheld
    | duplicate | missing =>
      rw [matched]
  rcases outcome : desk.registry.claim desk.now moment action.messageId action.eventId with
    ⟨error | claim, registry⟩
  · unfold CardDesk.handleStart at returned
    rw [outcome] at returned
    cases returned
  · rw [outcome] at answered
    have start := returned
    unfold CardDesk.handleStart at start
    rw [outcome] at start
    dsimp only at start
    rcases desk.registry.claim_spec desk.now moment action.messageId action.eventId with
      ⟨-, unclaimed⟩ | ⟨entry, -, -, -, claimed, -⟩
    · rw [outcome] at unclaimed
      have held := unclaimed claim rfl
      rcases answered held rfl with rfl | ⟨entry, present, live, taken, rfl, wrote⟩
      · cases start
        exact .missing
      · dsimp only at start
        cases matched : actionMatchesSession action entry.session with
        | error =>
          rw [matched] at start
          cases start
          exact .ignored
        | ok answer =>
          rw [matched] at start
          cases answer with
          | false =>
            cases start
            exact .ignored
          | true =>
            cases start
            refine .duplicate (Option.filter_eq_some_iff.mpr ⟨present, by simpa using live⟩) taken
              matched ?_
            rw [shape outcome entry.session rfl held matched]
            exact wrote
    · rw [outcome] at claimed
      cases claimed
      dsimp only at start
      cases matched : actionMatchesSession action entry.session with
      | error =>
        rw [matched] at start
        cases start
      | ok answer =>
        rw [matched] at start
        cases answer with
        | false => cases start
        | true =>
          dsimp only at start
          split at start
          · cases start
          · cases start

theorem writes_of_persist {now : Int} (wrote : registry.persist now moment = (.ok (), after)) :
    registry.persistence = none ∨ moment.failure = none := by
  unfold CardRegistry.persist at wrote
  split at wrote
  · rename_i detached
    exact .inl detached
  · dsimp only at wrote
    split at wrote
    · cases wrote
    · rename_i works
      exact .inr works

private theorem duplicateSafe_of_meets {run : Nat} (attributed : Attributed registry desk)
    (meets : CardMeets desk (.press run action moment)) :
    DuplicateSafe registry desk action moment where
  duplicate returned := by
    have answered := handleStart_returned returned
    generalize same : py "duplicate" = status at answered
    cases answered with
    | missing => exact absurd same (by decide)
    | ignored => exact absurd same (by decide)
    | @duplicate entry live taken matched wrote =>
      obtain ⟨free, unedited⟩ := meets entry live matched (writes_of_persist wrote)
      have completed : entry.state = .completed := by
        cases state : entry.state with
        | pending => exact absurd state taken
        | processing => exact absurd state free
        | completed => rfl
      obtain ⟨found, -⟩ := Option.filter_eq_some_iff.mp live
      refine ⟨⟨entry, live, completed⟩, CardRegistry.durable_persist wrote _, ?_⟩
      rcases attributed action.messageId ⟨entry, found, completed⟩ with pressed | edited | start
      · exact .inl pressed
      · exact absurd edited unedited
      · exact .inr start
  processing := by
    intro entry live held consumed
    cases start : (desk.handleStart action moment).1 with
    | raised error =>
      rw [start] at consumed
      exact consumed
    | waits phase =>
      rw [start] at consumed
      exact consumed
    | returned status =>
      rw [start] at consumed
      have acked : shouldAck (some status) = true := consumed
      cases handleStart_returned start with
      | missing => exact absurd acked (by decide)
      | ignored => exact absurd acked (by decide)
      | @duplicate other same taken matched wrote =>
        cases live.symm.trans same
        exact (meets entry live matched (writes_of_persist wrote)).1 held

theorem cardRun_duplicatesSafe (registry : CardRegistry) (now : Int) (events : List CardEvent)
    (meets : (cardMachine registry now).Along CardMeets events) :
    DuplicatesSafe registry now events := by
  intro earlier run action moment split
  subst split
  exact duplicateSafe_of_meets (cardRun_attributed registry now earlier) meets.last

theorem cardMeets_of_free {run : Nat}
    (free : ∀ entry ∈ desk.registry.entries.entries, entry.2.state ≠ .processing)
    (unedited : desk.history.editCompleted = []) : CardMeets desk (.press run action moment) := by
  intro entry live _ _
  obtain ⟨found, -⟩ := Option.filter_eq_some_iff.mp live
  refine ⟨free _ ((Dict.mem_entries_iff _ _ _).mpr found), ?_⟩
  rw [unedited]
  exact List.not_mem_nil

/-- A second press of a card whose first press was accepted. -/
def repeatedRun : List CardEvent :=
  [.press 0 (buttonPress 1) ⟨0, none⟩, .statusUpdated 0, .dispatchReturns 0 (.flag true),
    .stored 0 ⟨0, none⟩, .press 1 (buttonPress 2) ⟨0, none⟩]

theorem cardRun_duplicatesSafe_repeated : DuplicatesSafe (buttonRegistry 5) 0 repeatedRun := by
  refine cardRun_duplicatesSafe _ _ _ (Machine.along_of_follows ?_)
  refine ⟨?_, trivial, trivial, trivial, ?_, trivial⟩
  · exact cardMeets_of_free (by decide +kernel) rfl
  · exact cardMeets_of_free (by decide +kernel) (by decide +kernel)

/-- The edit tool has the card when it is pressed. -/
def editedRun : List CardEvent :=
  [.edit 0 ⟨py "m", py "s", py "c", .Group, py "u"⟩ true ⟨0, none⟩, .press 1 (buttonPress 1) ⟨0, none⟩]

/-- What the press returns at once, if it does. -/
def PressStart.status? : PressStart → Option PyStr
  | .returned status => some status
  | _ => none

theorem editedRun_not_duplicatesSafe : ¬ ∀ registry now events,
    DuplicatesSafe registry now events := by
  intro always
  let desk := (cardMachine (buttonRegistry 5) 0).run
    [.edit 0 ⟨py "m", py "s", py "c", .Group, py "u"⟩ true ⟨0, none⟩]
  have safe := always (buttonRegistry 5) 0 editedRun [_] 1 (buttonPress 1) ⟨0, none⟩ rfl
  have answer : (desk.handleStart (buttonPress 1) ⟨0, none⟩).1.status? = some (py "duplicate") := by
    decide +kernel
  have held : ∀ entry ∈ desk.registry.entries.entries, entry.2.state = .processing := by
    decide +kernel
  have returned : (desk.handleStart (buttonPress 1) ⟨0, none⟩).1 = .returned (py "duplicate") := by
    revert answer
    cases (desk.handleStart (buttonPress 1) ⟨0, none⟩).1 with
    | returned status => exact fun same => congrArg _ (Option.some.inj same)
    | raised error => exact fun impossible => by cases impossible
    | waits phase => exact fun impossible => by cases impossible
  obtain ⟨⟨entry, live, completed⟩, -⟩ := safe.duplicate returned
  obtain ⟨found, -⟩ := Option.filter_eq_some_iff.mp live
  cases completed.symm.trans (held _ ((Dict.mem_entries_iff _ _ _).mpr found))

end OctoChannel.Cards

import OctoChannel.Cards.Moves

namespace OctoChannel.Cards

open Foundation

/-- The registration that a look at the registry finds. -/
def CardDesk.live? (desk : CardDesk) (messageId : PyStr) : Option CardEntry :=
  (desk.registry.entries.get? messageId).filter fun entry => desk.now < entry.expiresAt

/-- The dispatch callback of the run is in progress. -/
def Dispatching (desk : CardDesk) (run : Nat) (action : CardAction) (session : CardSession) : Prop :=
  ∃ attempts, desk.runs.get? run = some (.press action (.dispatching session attempts))

/-- The claim that a press has neither released nor completed. -/
def CardRun.claim? : CardRun → Option (CardAction × CardSession)
  | .press action (.updating session _) => some (action, session)
  | .press action (.dispatching session _) => some (action, session)
  | _ => none

def Claiming (desk : CardDesk) (run : Nat) (action : CardAction) (session : CardSession) : Prop :=
  (desk.runs.get? run).bind CardRun.claim? = some (action, session)

theorem Dispatching.claiming {desk : CardDesk} {run : Nat} {action : CardAction}
    {session : CardSession} (dispatching : Dispatching desk run action session) :
    Claiming desk run action session := by
  obtain ⟨attempts, found⟩ := dispatching
  rw [Claiming, found]
  rfl

/-- The entry is of this session and held by the claim of the action. -/
structure HeldBy (action : CardAction) (session : CardSession) (entry : CardEntry) : Prop where
  session : entry.session = session
  state : entry.state = .processing
  claimed : entry.claimedEventId = some (action.eventId : Int)

structure CardDesk.Exclusive (desk : CardDesk) : Prop where
  matched : ∀ run action session, Claiming desk run action session →
    actionMatchesSession action session = .ok true
  held : ∀ run action session, Claiming desk run action session →
    ∀ entry, desk.registry.entries.get? action.messageId = some entry →
      HeldBy action session entry
  unique : ∀ first second action other session another, Claiming desk first action session →
    Claiming desk second other another → action.messageId = other.messageId → first = second
  completed : ∀ messageId ∈ desk.history.accepted, ∀ entry,
    desk.registry.entries.get? messageId = some entry → entry.state = .completed
  accepted : ∀ run action session, Claiming desk run action session →
    action.messageId ∉ desk.history.accepted
  edits : ∀ run messageId cardSeq phase,
    desk.runs.get? run = some (.edit messageId cardSeq phase) → 0 < cardSeq

variable {desk after : CardDesk} {run : Nat} {action : CardAction} {session : CardSession}
  {messageId : PyStr} {entry : CardEntry}

theorem exclusive_fresh (registry : CardRegistry) (now : Int) :
    (CardDesk.fresh registry now).Exclusive where
  matched _ _ _ claiming := by cases claiming
  held _ _ _ claiming := by cases claiming
  unique _ _ _ _ _ _ claiming := by cases claiming
  completed _ none := by cases none
  accepted _ _ _ claiming := by cases claiming
  edits _ _ _ _ missing := by cases missing

/-- Entries only change where no claim is left; what is completed stays so. -/
def Spared (claims : CardAction → CardSession → Prop) (before after : CardRegistry) : Prop :=
  ∀ messageId entry, after.entries.get? messageId = some entry →
    ∃ old, before.entries.get? messageId = some old ∧
      (old.state = .completed → entry.state = .completed) ∧
      ∀ action session, claims action session → action.messageId = messageId →
        HeldBy action session old → entry = old

/-- What a step may do while it accepts no dispatch and starts no press: runs lose
claims, and entries only change where no claim is left. -/
structure Retires (desk after : CardDesk) : Prop where
  claims : ∀ run action session, Claiming after run action session → Claiming desk run action session
  entries : Spared (fun action session => ∃ run, Claiming after run action session) desk.registry
    after.registry
  accepted : after.history.accepted = desk.history.accepted
  edits : ∀ run messageId cardSeq phase,
    after.runs.get? run = some (.edit messageId cardSeq phase) → 0 < cardSeq

theorem CardDesk.Exclusive.retires (exclusive : desk.Exclusive) (retires : Retires desk after) :
    after.Exclusive where
  matched run action session claiming :=
    exclusive.matched run action session (retires.claims run action session claiming)
  held run action session claiming entry found := by
    have before := retires.claims run action session claiming
    obtain ⟨old, present, -, unchanged⟩ := retires.entries _ _ found
    have held := exclusive.held run action session before old present
    rw [unchanged action session ⟨run, claiming⟩ rfl held]
    exact held
  unique first second action other session another claiming rival same :=
    exclusive.unique first second action other session another
      (retires.claims _ _ _ claiming) (retires.claims _ _ _ rival) same
  completed messageId member entry found := by
    rw [retires.accepted] at member
    obtain ⟨old, present, kept, -⟩ := retires.entries _ _ found
    exact kept (exclusive.completed messageId member old present)
  accepted run action session claiming := by
    rw [retires.accepted]
    exact exclusive.accepted run action session (retires.claims run action session claiming)
  edits := retires.edits

theorem claiming_setRun {other : Nat} {state : CardRun} :
    Claiming (desk.setRun run state) other action session ↔
      if run = other then state.claim? = some (action, session)
      else Claiming desk other action session := by
  rw [Claiming, CardDesk.setRun, Dict.get?_set]
  split
  · rfl
  · rfl

theorem claiming_endRun {other : Nat} (claiming : Claiming (desk.endRun run) other action session) :
    Claiming desk other action session := by
  rw [Claiming, CardDesk.endRun, Dict.get?_erase] at claiming
  split at claiming
  · cases claiming
  · exact claiming

/-- A run that goes on without a claim leaves the claims of the others. -/
theorem claiming_of_setRun {other : Nat} {state : CardRun} (free : state.claim? = none)
    (claiming : Claiming (desk.setRun run state) other action session) :
    run ≠ other ∧ Claiming desk other action session := by
  rw [claiming_setRun] at claiming
  split at claiming
  · rw [free] at claiming
    cases claiming
  · rename_i different
    exact ⟨different, claiming⟩

theorem edits_setRun {state : CardRun}
    (edits : ∀ run messageId cardSeq phase,
      desk.runs.get? run = some (.edit messageId cardSeq phase) → 0 < cardSeq)
    (positive : ∀ messageId cardSeq phase, state = .edit messageId cardSeq phase → 0 < cardSeq)
    (other : Nat) (messageId : PyStr) (cardSeq : Nat) (phase : EditPhase)
    (found : (desk.setRun run state).runs.get? other = some (.edit messageId cardSeq phase)) :
    0 < cardSeq := by
  rw [CardDesk.setRun, Dict.get?_set] at found
  split at found
  · exact positive messageId cardSeq phase (Option.some.inj found)
  · exact edits other messageId cardSeq phase found

private theorem edits_endRun (exclusive : desk.Exclusive) (other : Nat) (messageId : PyStr)
    (cardSeq : Nat)
    (phase : EditPhase)
    (found : (desk.endRun run).runs.get? other = some (.edit messageId cardSeq phase)) :
    0 < cardSeq := by
  rw [CardDesk.endRun, Dict.get?_erase] at found
  split at found
  · cases found
  · exact exclusive.edits other messageId cardSeq phase found

variable {claims : CardAction → CardSession → Prop} {before registry : CardRegistry}

theorem spared_of_shrinks (shrinks : before.Shrinks registry) : Spared claims before registry :=
  fun messageId entry found =>
    ⟨entry, shrinks messageId entry found, id, fun _ _ _ _ _ => rfl⟩

theorem spared_of_changes {old new : CardEntry} (present : before.entries.get? messageId = some old)
    (changes : before.Changes registry messageId new)
    (completed : old.state = .completed → new.state = .completed)
    (free : ∀ action session, claims action session → action.messageId = messageId →
      ¬ HeldBy action session old) : Spared claims before registry := by
  intro other entry found
  rcases changes other entry found with ⟨rfl, rfl⟩ | ⟨-, unchanged⟩
  · exact ⟨old, present, completed,
      fun action session claim same held => absurd held (free action session claim same)⟩
  · exact ⟨entry, unchanged, id, fun _ _ _ _ _ => rfl⟩

/-- A claim on a pending entry is no one's. -/
theorem not_heldBy_of_pending (pending : entry.state = .pending) : ¬ HeldBy action session entry := by
  intro held
  cases pending.symm.trans held.state

/-- The claim of an edit is not that of an action. -/
theorem not_heldBy_of_edit {cardSeq : Nat} (positive : 0 < cardSeq)
    (held : CardRegistry.holds entry (-(cardSeq : Int)) = true) : ¬ HeldBy action session entry := by
  intro by'
  simp only [CardRegistry.holds, Bool.and_eq_true, decide_eq_true_eq] at held
  have same := Option.some.inj (held.2.symm.trans by'.claimed)
  omega

private theorem processing_of_holds {eventId : Int}
    (held : CardRegistry.holds entry eventId = true) :
    entry.state = .processing := by
  simp only [CardRegistry.holds, Bool.and_eq_true, decide_eq_true_eq] at held
  exact held.1

theorem HeldBy.holds (held : HeldBy action session entry) :
    CardRegistry.holds entry action.eventId = true := by
  simp [CardRegistry.holds, held.state, held.claimed]

theorem spared_release {now : Int} {eventId : Int} (registry : CardRegistry)
    (free : ∀ action session, claims action session → action.messageId = messageId →
      ∀ entry, registry.entries.get? messageId = some entry →
        CardRegistry.holds entry eventId = true → ¬ HeldBy action session entry) :
    Spared claims registry (registry.release now messageId eventId) := by
  rcases registry.release_spec now messageId eventId with shrinks | ⟨entry, present, held, changes⟩
  · exact spared_of_shrinks shrinks
  · refine spared_of_changes present changes ?_ ?_
    · intro completed
      cases (processing_of_holds held).symm.trans completed
    · exact fun action session claim same => free action session claim same entry present held

theorem spared_complete {now : Int} {eventId : Int} (registry : CardRegistry)
    (free : ∀ action session, claims action session → action.messageId = messageId →
      ∀ entry, registry.entries.get? messageId = some entry →
        CardRegistry.holds entry eventId = true → ¬ HeldBy action session entry) :
    Spared claims registry (registry.complete now messageId eventId) := by
  rcases registry.complete_spec now messageId eventId with
    ⟨shrinks, -⟩ | ⟨entry, present, held, changes⟩
  · exact spared_of_shrinks shrinks
  · refine spared_of_changes present changes (fun _ => rfl) ?_
    exact fun action session claim same => free action session claim same entry present held

namespace CardDesk

/-- A claiming press that goes on without its claim has released or completed it. -/
theorem Exclusive.lets_go (exclusive : desk.Exclusive) (claiming : Claiming desk run action session)
    {state : CardRun} (free : state.claim? = none)
    (uneditable : ∀ messageId cardSeq phase, state ≠ .edit messageId cardSeq phase)
    (registry : CardRegistry)
    (entries : ∀ claims : CardAction → CardSession → Prop,
      (∀ other another, claims other another → action.messageId ≠ other.messageId) →
        Spared claims desk.registry registry) (history : CardHistory)
    (accepted : history.accepted = desk.history.accepted) :
    ({ desk with registry, history }.setRun run state).Exclusive := by
  refine exclusive.retires {
    claims := fun other _ _ kept => (claiming_of_setRun free kept).2
    entries := entries _ ?_
    accepted := accepted
    edits := ?_ }
  · intro other another still same
    obtain ⟨second, kept⟩ := still
    obtain ⟨different, before⟩ := claiming_of_setRun free kept
    exact different (exclusive.unique run second action other session another claiming before same)
  · refine edits_setRun exclusive.edits ?_
    exact fun messageId cardSeq phase same => absurd same (uneditable messageId cardSeq phase)

theorem Exclusive.pressRelease (exclusive : desk.Exclusive)
    (claiming : Claiming desk run action session) (after : AfterStore) :
    ((desk.pressRelease action).setRun run (.press action (.storing after))).Exclusive := by
  refine exclusive.lets_go claiming rfl (fun _ _ _ same => by cases same) _ ?_ desk.history rfl
  intro claims others
  exact spared_release desk.registry fun other another claim same =>
    absurd same.symm (others other another claim)

theorem Exclusive.deadLetter (exclusive : desk.Exclusive)
    (claiming : Claiming desk run action session) (after : AfterStore) :
    ((desk.pressComplete action).setRun run (.press action (.storing after))).Exclusive := by
  refine exclusive.lets_go claiming rfl (fun _ _ _ same => by cases same) _ ?_ _ rfl
  intro claims others
  exact spared_complete desk.registry fun other another claim same =>
    absurd same.symm (others other another claim)

/-- The completed message takes no further claim. -/
theorem Exclusive.accept (exclusive : desk.Exclusive) (claiming : Claiming desk run action session)
    (after : AfterStore) :
    ({ desk.pressComplete action with
        history.accepted := action.messageId :: desk.history.accepted }.setRun run
      (.press action (.storing after))).Exclusive := by
  have completed := exclusive.deadLetter claiming after
  have others : ∀ other second another,
      Claiming ((desk.pressComplete action).setRun run (.press action (.storing after))) second other
        another → action.messageId ≠ other.messageId := by
    intro other second another kept same
    obtain ⟨different, before⟩ := claiming_of_setRun rfl kept
    exact different (exclusive.unique run second action other session another claiming before same)
  exact { completed with
    completed := by
      intro messageId member entry found
      rcases List.mem_cons.mp member with rfl | before
      · rcases desk.registry.complete_spec desk.now action.messageId action.eventId with
          ⟨shrinks, free⟩ | ⟨old, present, held, changes⟩
        · have held := exclusive.held run action session claiming entry (shrinks _ _ found)
          cases (free entry found).symm.trans held.holds
        · rcases changes _ entry found with ⟨-, rfl⟩ | ⟨different, -⟩
          · rfl
          · exact absurd rfl different
      · exact completed.completed messageId before entry found
    accepted := by
      intro second other another kept member
      rcases List.mem_cons.mp member with same | before
      · exact others other second another kept same.symm
      · exact completed.accepted second other another kept before }

/-- A change of the registry that spares every claim. -/
theorem Exclusive.withRegistry (exclusive : desk.Exclusive) (registry : CardRegistry) (now : Int)
    (entries : Spared (fun action session => ∃ run, Claiming desk run action session) desk.registry
      registry) : { desk with registry, now }.Exclusive :=
  exclusive.retires {
    claims := fun _ _ _ kept => kept
    entries := entries
    accepted := rfl
    edits := exclusive.edits }

theorem Exclusive.setRun (exclusive : desk.Exclusive) {state : CardRun} (free : state.claim? = none)
    (positive : ∀ messageId cardSeq phase, state = .edit messageId cardSeq phase → 0 < cardSeq) :
    (desk.setRun run state).Exclusive :=
  exclusive.retires {
    claims := fun _ _ _ kept => (claiming_of_setRun free kept).2
    entries := spared_of_shrinks (.refl desk.registry)
    accepted := rfl
    edits := edits_setRun exclusive.edits positive }

theorem Exclusive.endRun (exclusive : desk.Exclusive) : (desk.endRun run).Exclusive :=
  exclusive.retires {
    claims := fun _ _ _ kept => claiming_endRun kept
    entries := spared_of_shrinks (.refl desk.registry)
    accepted := rfl
    edits := edits_endRun exclusive }

/-- The claim of a press that matches its session: the run waits for the status edit. -/
theorem Exclusive.admit (exclusive : desk.Exclusive)
    (present : desk.registry.entries.get? action.messageId = some entry)
    (pending : entry.state = .pending) {registry : CardRegistry}
    (changes : desk.registry.Changes registry action.messageId
      (CardRegistry.claimedBy entry action.eventId))
    (matched : actionMatchesSession action entry.session = .ok true) (now attempts : Int) :
    ({ desk with registry, now }.setRun run
      (.press action (.updating entry.session attempts))).Exclusive := by
  have free : ∀ other second another, Claiming desk second other another →
      action.messageId ≠ other.messageId := by
    intro other second another claiming same
    rw [same] at present
    exact not_heldBy_of_pending pending (exclusive.held second other another claiming entry present)
  have open' : action.messageId ∉ desk.history.accepted := by
    intro member
    cases pending.symm.trans (exclusive.completed _ member entry present)
  have claims : ∀ second other another,
      Claiming ({ desk with registry, now }.setRun run
        (.press action (.updating entry.session attempts))) second other another →
      (run = second ∧ action = other ∧ entry.session = another) ∨
        (run ≠ second ∧ Claiming desk second other another) := by
    intro second other another claiming
    rw [claiming_setRun] at claiming
    split at claiming
    · rename_i same
      obtain ⟨rfl, rfl⟩ := Prod.mk.inj (Option.some.inj claiming)
      exact .inl ⟨same, rfl, rfl⟩
    · rename_i different
      exact .inr ⟨different, claiming⟩
  exact {
    matched := by
      intro second other another claiming
      rcases claims second other another claiming with ⟨-, rfl, rfl⟩ | ⟨-, before⟩
      · exact matched
      · exact exclusive.matched second other another before
    held := by
      intro second other another claiming found present'
      rcases claims second other another claiming with ⟨-, rfl, rfl⟩ | ⟨-, before⟩
      · rcases changes _ found present' with ⟨-, rfl⟩ | ⟨different, -⟩
        · exact ⟨rfl, rfl, rfl⟩
        · exact absurd rfl different
      · rcases changes _ found present' with ⟨same, -⟩ | ⟨-, old⟩
        · exact absurd same.symm (free other second another before)
        · exact exclusive.held second other another before found old
    unique := by
      intro first second other session' another third claiming rival same
      rcases claims _ _ _ claiming with ⟨here, rfl, -⟩ | ⟨-, before⟩
      · rcases claims _ _ _ rival with ⟨there, -, -⟩ | ⟨-, earlier⟩
        · exact here.symm.trans there
        · exact absurd same (free _ _ _ earlier)
      · rcases claims _ _ _ rival with ⟨-, rfl, -⟩ | ⟨-, earlier⟩
        · exact absurd same.symm (free _ _ _ before)
        · exact exclusive.unique _ _ _ _ _ _ before earlier same
    completed := by
      intro messageId member found present'
      rcases changes _ found present' with ⟨rfl, -⟩ | ⟨-, old⟩
      · exact absurd member open'
      · exact exclusive.completed messageId member found old
    accepted := by
      intro second other another claiming
      rcases claims second other another claiming with ⟨-, rfl, -⟩ | ⟨-, before⟩
      · exact open'
      · exact exclusive.accepted second other another before
    edits := edits_setRun exclusive.edits fun _ _ _ same => by cases same }

/-- A claim on a pending entry that is released at once. -/
theorem Exclusive.refuse (exclusive : desk.Exclusive)
    (present : desk.registry.entries.get? action.messageId = some entry)
    (pending : entry.state = .pending) {registry : CardRegistry}
    (changes : desk.registry.Changes registry action.messageId
      (CardRegistry.claimedBy entry action.eventId)) (now : Int) (after : AfterStore) :
    (({ desk with registry, now }.pressRelease action).setRun run
      (.press action (.storing after))).Exclusive := by
  refine Exclusive.setRun ?_ rfl (fun _ _ _ same => by cases same)
  refine exclusive.withRegistry (registry.release now action.messageId action.eventId) now ?_
  have elsewhere : ∀ other found, other ≠ action.messageId →
      (registry.release now action.messageId action.eventId).entries.get? other = some found →
        desk.registry.entries.get? other = some found := by
    intro other found different kept
    have middle : registry.entries.get? other = some found := by
      rcases registry.release_spec now action.messageId action.eventId with
        shrinks | ⟨_, -, -, released⟩
      · exact shrinks other found kept
      · rcases released other found kept with ⟨same, -⟩ | ⟨-, before⟩
        · exact absurd same different
        · exact before
    rcases changes other found middle with ⟨same, -⟩ | ⟨-, before⟩
    · exact absurd same different
    · exact before
  intro other found kept
  by_cases same : other = action.messageId
  · subst same
    refine ⟨entry, present, ?_, ?_⟩
    · intro completed
      cases pending.symm.trans completed
    · exact fun _ _ _ _ held => absurd held (not_heldBy_of_pending pending)
  · exact ⟨found, elsewhere other found same kept, id, fun _ _ _ _ _ => rfl⟩

/-- The claim of an edit on a pending entry. -/
theorem Exclusive.edit (exclusive : desk.Exclusive) {args : EditArgs}
    (present : desk.registry.entries.get? args.messageId = some entry)
    (pending : entry.state = .pending) {registry : CardRegistry}
    (changes : desk.registry.Changes registry args.messageId (CardRegistry.editedBy entry))
    (run : Nat) (final : Bool) (now : Int) :
    ({ desk with registry, now }.setRun run
      (.edit args.messageId (entry.cardSeq + 1) (.editing final))).Exclusive := by
  have kept : { desk with registry, now }.Exclusive := by
    refine exclusive.withRegistry registry now (spared_of_changes present changes ?_ ?_)
    · intro completed
      cases pending.symm.trans completed
    · exact fun _ _ _ _ => not_heldBy_of_pending pending
  refine kept.setRun rfl ?_
  intro messageId cardSeq phase same
  cases same
  exact Nat.succ_pos _

theorem Exclusive.editRelease (exclusive : desk.Exclusive) {cardSeq : Nat} (positive : 0 < cardSeq)
    (messageId : PyStr) : (desk.release messageId (-(cardSeq : Int))).Exclusive :=
  exclusive.withRegistry _ desk.now (spared_release desk.registry
    fun _ _ _ _ _ _ held => not_heldBy_of_edit positive held)

private theorem Exclusive.editFinal (exclusive : desk.Exclusive) {cardSeq : Nat}
    (positive : 0 < cardSeq)
    (messageId : PyStr) (history : CardHistory) (accepted : history.accepted = desk.history.accepted) :
    { desk.complete messageId (-(cardSeq : Int)) with history }.Exclusive :=
  exclusive.retires {
    claims := fun _ _ _ kept => kept
    entries := spared_complete desk.registry
      fun _ _ _ _ _ _ held => not_heldBy_of_edit positive held
    accepted := accepted
    edits := exclusive.edits }

/-- The invariant is kept by every step. -/
theorem Exclusive.step (exclusive : desk.Exclusive) (event : CardEvent) :
    (cardStep desk event).Exclusive := by
  have claims : ∀ {run : Nat} {state : CardRun} {action : CardAction} {session : CardSession},
      desk.runs.get? run = some state → state.claim? = some (action, session) →
        Claiming desk run action session := by
    intro run state action session found claim
    rw [Claiming, found]
    exact claim
  have written : ∀ moment : Moment,
      (desk.claimed moment (desk.registry.persist desk.now moment).2).Exclusive := fun moment =>
    exclusive.withRegistry _ _ (spared_of_shrinks (desk.registry.shrinks_persist desk.now moment))
  have move := cardStep_move desk event
  generalize cardStep desk event = after at move ⊢
  cases move with
  | idle => exact exclusive
  | missed free shrinks => exact exclusive.withRegistry _ _ (spared_of_shrinks shrinks)
  | claimed free claims matched =>
    exact exclusive.admit claims.present claims.pending claims.changes matched _ _
  | gaveBack free claims after =>
    exact exclusive.refuse claims.present claims.pending claims.changes _ after
  | @statusUpdated run action session attempts found =>
    refine exclusive.retires {
      claims := ?_
      entries := spared_of_shrinks (.refl desk.registry)
      accepted := rfl
      edits := edits_setRun exclusive.edits fun _ _ _ same => by cases same }
    intro other second another kept
    rw [claiming_setRun] at kept
    split at kept
    · rename_i same
      subst same
      exact claims found kept
    · exact kept
  | accepted found terminal => exact exclusive.accept (claims found rfl) _
  | refused found open' => exact exclusive.pressRelease (claims found rfl) _
  | deadLetter found last => exact exclusive.deadLetter (claims found rfl) _
  | raised found early => exact exclusive.pressRelease (claims found rfl) _
  | updateCancelled found => exact exclusive.pressRelease (claims found rfl) _
  | dispatchCancelled found => exact exclusive.pressRelease (claims found rfl) _
  | reportCancelled found => exact exclusive.endRun
  | stored found => exact (written _).setRun rfl fun _ _ _ same => by cases same
  | unreported found => exact (written _).endRun
  | reported found => exact exclusive.endRun
  | editMissed free shrinks => exact exclusive.withRegistry _ _ (spared_of_shrinks shrinks)
  | editClaimed free present pending changes => exact exclusive.edit present pending changes _ _ _
  | @editCompleted run messageId cardSeq found =>
    have positive := exclusive.edits run messageId cardSeq _ found
    have completed := exclusive.editFinal positive messageId
      { desk.history with editCompleted := messageId :: desk.history.editCompleted } rfl
    refine completed.setRun rfl ?_
    intro other number phase same
    cases same
    exact positive
  | @editReleased run messageId cardSeq phase closes event found =>
    have positive := exclusive.edits run messageId cardSeq phase found
    refine (exclusive.editRelease positive messageId).setRun rfl ?_
    intro other number phase same
    cases same
    exact positive
  | @editStored run messageId cardSeq closes failed moment found =>
    refine (written _).setRun rfl ?_
    intro other number phase same
    cases same
    exact exclusive.edits run messageId cardSeq _ found
  | editLeft found => exact (written _).endRun
  | editClosed found => exact exclusive.endRun
  | editCancelled found => exact exclusive.endRun
  | persist moment => exact written moment
  | tick lapse => exact exclusive.withRegistry desk.registry _ (spared_of_shrinks (.refl _))

end CardDesk

variable {now : Int} {events : List CardEvent}

theorem cardRun_exclusive (registry : CardRegistry) (now : Int) (events : List CardEvent) :
    ((cardMachine registry now).run events).Exclusive :=
  Machine.invariant_of_steps (exclusive_fresh registry now)
    (fun _ event exclusive => exclusive.step event) events

/-- A card with one button, registered until the given time. -/
def buttonCard (expiresAt : Int) : CardEntry where
  session := {
    messageId := py "m"
    bindingId := py "b"
    sessionKey := py "s"
    chatId := py "c"
    channelId := py "c"
    channelType := .Group
    requesterUid := py "u"
    card := .obj []
    plain := py "card"
    actionLabels := [(py "a", py "Go")]
    inputIds := []
    actionChannelIds := []
    maxInputTextBytes := none
    maxInputsBytes := none
    clarify := none
    kind := py "interactive" }
  expiresAt := expiresAt
  wallExpiresAt := expiresAt
  state := .pending
  claimedEventId := none
  attemptEventId := none
  dispatchAttempts := 0
  cardSeq := 0

/-- A registry with this card only, and nothing stored yet. -/
def buttonRegistry (expiresAt : Int) : CardRegistry :=
  ⟨1024, 86400, 3, Dict.empty.set (py "m") (buttonCard expiresAt), some []⟩

/-- A press of the button. -/
def buttonPress (eventId : Nat) : CardAction :=
  ⟨eventId, py "m", py "c", .Group, py "a", [], py "u",
    [(py "_octo_binding", .str (py "b"))]⟩

def CardDesk.dispatches (desk : CardDesk) (run : Nat) : Bool :=
  match desk.runs.get? run with
  | some (.press _ (.dispatching _ _)) => true
  | _ => false

end OctoChannel.Cards

import OctoChannel.Cards.Capacity
import OctoChannel.Cards.Moves

/-! Claims that outlive the run that made them: handlers that are cut off at an await, and
restarts. -/

namespace OctoChannel.Cards

open Foundation

/-- What may happen to the handlers: their own steps, an exception that is no `Exception`
at an await, and a crash with a restart. -/
inductive HostEvent where
  | card (event : CardEvent)
  | abort (run : Nat)
  | restart (now wall : Int) (readable : Bool)

/-- The run waits for a callback, or for the network. -/
def CardRun.awaits : CardRun → Bool
  | .press _ (.updating _ _) | .press _ (.dispatching _ _) | .press _ (.reporting _) => true
  | .edit _ _ (.editing _) | .edit _ _ (.closing _) => true
  | _ => false

def hostStep (desk : CardDesk) : HostEvent → CardDesk
  | .card event => cardStep desk event
  | .abort run => if (desk.runs.get? run).any CardRun.awaits then desk.endRun run else desk
  | .restart now wall readable => .fresh (desk.registry.restart wall now readable) now

/-- The calls of the registry around the handlers. -/
inductive KeepEvent where
  | host (event : HostEvent)
  | register (session : CardSession) (wall : Int) (moment : Moment)
  | discard (messageId : PyStr) (moment : Moment)
  | nextCardSeq (messageId : PyStr) (moment : Moment)

def keepStep (desk : CardDesk) : KeepEvent → CardDesk
  | .host event => hostStep desk event
  | .register session wall moment =>
    desk.claimed moment (desk.registry.register desk.now wall moment session).2
  | .discard messageId moment =>
    desk.claimed moment (desk.registry.discard desk.now moment messageId).2
  | .nextCardSeq messageId moment =>
    desk.claimed moment (desk.registry.nextCardSeq desk.now moment messageId).2

def keepMachine (registry : CardRegistry) (now : Int) : Machine CardDesk KeepEvent where
  start := .fresh registry now
  step := keepStep

/-- The claim that a run has not given back: the message and the id of the claim. -/
def CardRun.holding : CardRun → Option (PyStr × Int)
  | .press action (.updating _ _) => some (action.messageId, action.eventId)
  | .press action (.dispatching _ _) => some (action.messageId, action.eventId)
  | .edit messageId cardSeq (.editing _) => some (messageId, -(cardSeq : Int))
  | _ => none

def CardDesk.holding (desk : CardDesk) (run : Nat) : Option (PyStr × Int) :=
  (desk.runs.get? run).bind CardRun.holding

/-- Whatever is processing is so under the claim of a run that is under way. -/
def CardDesk.Kept (desk : CardDesk) : Prop :=
  ∀ messageId entry, desk.registry.entries.get? messageId = some entry →
    entry.state = .processing → ∃ run eventId, entry.claimedEventId = some eventId ∧
      desk.holding run = some (messageId, eventId)

/-- The claim does not hold the card any more. -/
def CardDesk.Lost (desk : CardDesk) (messageId : PyStr) (eventId : Int) : Prop :=
  ∀ entry, desk.registry.entries.get? messageId = some entry →
    CardRegistry.holds entry eventId = false

/-- No edit is cancelled inside its `try`, and no run is met by another exception that is no
`Exception`, while its claim still holds the card. -/
def GivesBack (desk : CardDesk) : KeepEvent → Prop
  | .host (.card (.cancel run)) => ∀ messageId cardSeq final,
      desk.runs.get? run = some (.edit messageId cardSeq (.editing final)) →
        desk.Lost messageId (-(cardSeq : Int))
  | .host (.abort run) => ∀ messageId eventId,
      desk.holding run = some (messageId, eventId) → desk.Lost messageId eventId
  | _ => True

variable {desk after : CardDesk} {run : Nat} {registry : CardRegistry} {messageId : PyStr}
  {eventId : Int} {entry : CardEntry} {action : CardAction}

theorem holding_setRun (desk : CardDesk) (run other : Nat) (state : CardRun) :
    (desk.setRun run state).holding other =
      if run = other then state.holding else desk.holding other := by
  rw [CardDesk.holding, CardDesk.setRun, Dict.get?_set]
  split
  · rfl
  · rfl

theorem holding_endRun_of_ne (desk : CardDesk) {run other : Nat} (different : run ≠ other) :
    (desk.endRun run).holding other = desk.holding other := by
  rw [CardDesk.holding, CardDesk.endRun, Dict.get?_erase, if_neg different]
  rfl

private theorem holds_of_processing (processing : entry.state = .processing)
    (claimed : entry.claimedEventId = some eventId) : CardRegistry.holds entry eventId = true := by
  simp [CardRegistry.holds, processing, claimed]

private theorem not_processing_of_read {record : CardRecord} {wall now : Int}
    (read : record.toEntry wall now = some entry) : entry.state ≠ .processing := by
  obtain ⟨-, -, -, same⟩ := toEntry_some read
  subst same
  dsimp only
  split
  · exact fun processing => by cases processing
  · assumption

namespace CardDesk

/-- A step that leaves the runs alone and makes no card processing. -/
theorem Kept.sameRuns (kept : desk.Kept) (now : Int)
    (entries : ∀ messageId entry, registry.entries.get? messageId = some entry →
      entry.state = .processing → ∃ old, desk.registry.entries.get? messageId = some old ∧
        old.state = .processing ∧ old.claimedEventId = entry.claimedEventId) :
    { desk with registry, now }.Kept := by
  intro messageId entry found processing
  obtain ⟨old, present, busy, claimed⟩ := entries messageId entry found processing
  obtain ⟨run, eventId, same, holding⟩ := kept messageId old present busy
  exact ⟨run, eventId, claimed ▸ same, holding⟩

theorem Kept.shrinks (kept : desk.Kept) (now : Int) (shrinks : desk.registry.Shrinks registry) :
    { desk with registry, now }.Kept :=
  kept.sameRuns now fun messageId entry found processing =>
    ⟨entry, shrinks messageId entry found, processing, rfl⟩

/-- A card is not processing under a run that has no claim. -/
theorem Kept.other (kept : desk.Kept) (none : desk.holding run = none)
    (found : desk.registry.entries.get? messageId = some entry)
    (processing : entry.state = .processing) :
    ∃ holder eventId, run ≠ holder ∧ entry.claimedEventId = some eventId ∧
      desk.holding holder = some (messageId, eventId) := by
  obtain ⟨holder, eventId, claimed, holding⟩ := kept messageId entry found processing
  refine ⟨holder, eventId, ?_, claimed, holding⟩
  intro equal
  rw [equal, holding] at none
  cases none

/-- A run that has no claim goes on or ends. -/
theorem Kept.free (kept : desk.Kept) (none : desk.holding run = none)
    (others : ∀ other, run ≠ other → after.holding other = desk.holding other)
    (same : after.registry = desk.registry) : after.Kept := by
  intro messageId entry found processing
  rw [same] at found
  obtain ⟨holder, eventId, different, claimed, holding⟩ := kept.other none found processing
  exact ⟨holder, eventId, claimed, (others holder different).trans holding⟩

/-- A run that gives its claim back: no card is left processing under it. -/
theorem Kept.givesBack (kept : desk.Kept) (mine : desk.holding run = some (messageId, eventId))
    (others : ∀ other, run ≠ other → after.holding other = desk.holding other)
    (entries : ∀ other entry, after.registry.entries.get? other = some entry →
      entry.state = .processing → desk.registry.entries.get? other = some entry ∧
        (other = messageId → CardRegistry.holds entry eventId = false)) : after.Kept := by
  intro other entry found processing
  obtain ⟨present, unheld⟩ := entries other entry found processing
  obtain ⟨holder, claim, claimed, holding⟩ := kept other entry present processing
  have different : run ≠ holder := by
    intro equal
    rw [← equal, mine] at holding
    obtain ⟨name, number⟩ := Prod.mk.inj (Option.some.inj holding)
    subst number
    have held := holds_of_processing processing claimed
    rw [unheld name.symm] at held
    cases held
  exact ⟨holder, claim, claimed, (others holder different).trans holding⟩

theorem holding_of_found {state : CardRun} (found : desk.runs.get? run = some state) :
    desk.holding run = state.holding := by
  rw [CardDesk.holding, found]
  rfl

theorem holding_setRun_of_ne (desk : CardDesk) {other : Nat} (state : CardRun)
    (different : run ≠ other) : (desk.setRun run state).holding other = desk.holding other := by
  rw [holding_setRun, if_neg different]

theorem holding_none_of_free (free : desk.runs.get? run = none) : desk.holding run = none := by
  rw [CardDesk.holding, free]
  rfl

theorem Kept.release (kept : desk.Kept) (mine : desk.holding run = some (messageId, eventId))
    (state : CardRun) : ((desk.release messageId eventId).setRun run state).Kept :=
  kept.givesBack mine (fun _ different => holding_setRun_of_ne _ state different)
    fun _ _ found processing => CardRegistry.release_processing found processing

/-- A run that starts with a claim on the entry it changes. -/
theorem Kept.claims (kept : desk.Kept) (free : desk.runs.get? run = none) {now : Int}
    {state : CardRun} (changes : desk.registry.Changes registry messageId entry)
    (claimed : entry.claimedEventId = some eventId)
    (mine : state.holding = some (messageId, eventId)) :
    ({ desk with registry, now }.setRun run state).Kept := by
  have none := holding_none_of_free free
  intro other found stored processing
  rcases changes other found stored with ⟨here, new⟩ | ⟨-, earlier⟩
  · refine ⟨run, eventId, new ▸ claimed, ?_⟩
    rw [holding_setRun, if_pos rfl, here]
    exact mine
  · obtain ⟨holder, eventId, different, claimed, holding⟩ := kept.other none earlier processing
    exact ⟨holder, eventId, claimed, (holding_setRun_of_ne _ _ different).trans holding⟩

/-- A press that releases its claim before it waits. -/
theorem Kept.gaveBack (kept : desk.Kept) (free : desk.runs.get? run = none) {moment : Moment}
    (claims : desk.Claims action moment entry registry) (state : CardRun) :
    (((desk.claimed moment registry).pressRelease action).setRun run state).Kept := by
  have none := holding_none_of_free free
  intro other found stored processing
  obtain ⟨present, unheld⟩ := CardRegistry.release_processing stored processing
  rcases claims.changes other found present with ⟨here, new⟩ | ⟨-, earlier⟩
  · have held := unheld here
    rw [new] at held
    simp [CardRegistry.holds, CardRegistry.claimedBy] at held
  · obtain ⟨holder, eventId, different, claimed, holding⟩ := kept.other none earlier processing
    exact ⟨holder, eventId, claimed, (holding_setRun_of_ne _ _ different).trans holding⟩

theorem Kept.setRun_free (kept : desk.Kept) (none : desk.holding run = none) (state : CardRun) :
    (desk.setRun run state).Kept :=
  kept.free none (fun _ different => holding_setRun_of_ne _ state different) rfl

theorem Kept.endRun_free (kept : desk.Kept) (none : desk.holding run = none) :
    (desk.endRun run).Kept :=
  kept.free none (fun _ different => holding_endRun_of_ne desk different) rfl

/-- A run that is cut off where its claim no longer holds the card. -/
theorem Kept.cutOff (kept : desk.Kept)
    (givesBack : ∀ messageId eventId, desk.holding run = some (messageId, eventId) →
      desk.Lost messageId eventId) : (desk.endRun run).Kept := by
  cases mine : desk.holding run with
  | none => exact kept.endRun_free mine
  | some claim =>
    apply kept.givesBack mine (fun _ different => holding_endRun_of_ne desk different)
    intro other entry found _
    exact ⟨found, fun same => givesBack claim.1 claim.2 mine entry (same ▸ found)⟩

/-- No step of a handler leaves a claim behind, but for the cancellation of an edit. -/
theorem Kept.step (kept : desk.Kept) (event : CardEvent)
    (givesBack : GivesBack desk (.host (.card event))) : (cardStep desk event).Kept := by
  have written : ∀ moment : Moment,
      (desk.claimed moment (desk.registry.persist desk.now moment).2).Kept := fun moment =>
    kept.shrinks _ (desk.registry.shrinks_persist desk.now moment)
  have move := cardStep_move desk event
  generalize cardStep desk event = after at move ⊢
  cases move with
  | idle => exact kept
  | missed free shrinks => exact kept.shrinks _ shrinks
  | claimed free claims matched => exact kept.claims free claims.changes rfl rfl
  | gaveBack free claims after => exact kept.gaveBack free claims _
  | statusUpdated found =>
    intro messageId entry stored processing
    obtain ⟨holder, eventId, claimed, holding⟩ := kept messageId entry stored processing
    refine ⟨holder, eventId, claimed, ?_⟩
    rw [holding_setRun]
    split
    · rename_i same
      rw [← same, holding_of_found found] at holding
      exact holding
    · exact holding
  | accepted found terminal =>
    exact kept.givesBack (holding_of_found found)
      (fun _ different => holding_setRun_of_ne _ _ different)
      fun _ _ stored processing => CardRegistry.complete_processing stored processing
  | refused found open' => exact kept.release (holding_of_found found) _
  | deadLetter found last =>
    exact kept.givesBack (holding_of_found found)
      (fun _ different => holding_setRun_of_ne _ _ different)
      fun _ _ stored processing => CardRegistry.complete_processing stored processing
  | raised found early => exact kept.release (holding_of_found found) _
  | updateCancelled found => exact kept.release (holding_of_found found) _
  | dispatchCancelled found => exact kept.release (holding_of_found found) _
  | reportCancelled found => exact kept.endRun_free (holding_of_found found)
  | stored found => exact (written _).setRun_free (holding_of_found found) _
  | unreported found => exact (written _).endRun_free (holding_of_found found)
  | reported found => exact kept.endRun_free (holding_of_found found)
  | editMissed free shrinks => exact kept.shrinks _ shrinks
  | editClaimed free present pending changes => exact kept.claims free changes rfl rfl
  | editCompleted found =>
    exact kept.givesBack (holding_of_found found)
      (fun _ different => holding_setRun_of_ne _ _ different)
      fun _ _ stored processing => CardRegistry.complete_processing stored processing
  | @editReleased run messageId cardSeq phase closes event found =>
    have left : (desk.release messageId (-(cardSeq : Int))).Kept :=
      kept.sameRuns desk.now fun other entry stored processing =>
        ⟨entry, (CardRegistry.release_processing stored processing).1, processing, rfl⟩
    cases phase with
    | editing final => exact kept.release (holding_of_found found) _
    | storing waits => exact left.setRun_free (holding_of_found found) _
    | closing failed => exact left.setRun_free (holding_of_found found) _
  | editStored found => exact (written _).setRun_free (holding_of_found found) _
  | editLeft found => exact (written _).endRun_free (holding_of_found found)
  | editClosed found => exact kept.endRun_free (holding_of_found found)
  | @editCancelled run messageId cardSeq final found =>
    apply kept.cutOff
    intro other eventId holding
    cases (holding_of_found found).symm.trans holding
    exact givesBack messageId cardSeq final found
  | persist moment => exact written moment
  | tick lapse => exact kept.shrinks _ (.refl desk.registry)

theorem kept_fresh (idle : ∀ messageId entry, registry.entries.get? messageId = some entry →
    entry.state ≠ .processing) (now : Int) : (fresh registry now).Kept :=
  fun messageId entry found processing => absurd processing (idle messageId entry found)

/-- What comes back after a restart is not processing. -/
private theorem kept_restart (registry : CardRegistry) (now wall : Int) (readable : Bool) :
    (fresh (registry.restart wall now readable) now).Kept := by
  apply kept_fresh
  apply @CardRegistry.restart_preserves registry fun registry => ∀ messageId entry,
    registry.entries.get? messageId = some entry → entry.state ≠ .processing
  · intro messageId entry none
    cases none
  · intro _ other idle records _ record _ entry read messageId found stored
    rw [CardRegistry.put, Dict.get?_set] at stored
    split at stored
    · cases stored
      exact not_processing_of_read read
    · exact idle messageId found stored

theorem Kept.keepStep (kept : desk.Kept) (event : KeepEvent) (givesBack : GivesBack desk event) :
    (Cards.keepStep desk event).Kept := by
  cases event with
  | host event =>
    cases event with
    | card event => exact kept.step event givesBack
    | abort run =>
      simp only [Cards.keepStep, hostStep]
      split
      · exact kept.cutOff givesBack
      · exact kept
    | restart now wall readable => exact kept_restart desk.registry now wall readable
  | register session wall moment =>
    apply kept.sameRuns
    intro messageId entry found processing
    rcases CardRegistry.register_entries found with old | new
    · exact ⟨entry, old, processing, rfl⟩
    · rw [new] at processing
      cases processing
  | discard messageId moment =>
    exact kept.shrinks _ ((CardRegistry.shrinks_drop desk.registry messageId).trans
      (CardRegistry.shrinks_persist _ desk.now moment))
  | nextCardSeq messageId moment =>
    apply kept.sameRuns
    intro other entry found processing
    obtain ⟨old, present, same⟩ := CardRegistry.nextCardSeq_entries found
    rw [same] at processing ⊢
    exact ⟨old, present, processing, rfl⟩

end CardDesk

/-- In every run in which no edit is cancelled inside its `try`, and no handler is met by
another exception that is no `Exception`, while its claim still holds the card, whatever is
processing is claimed by a run that is still under way. -/
theorem keepRun_kept (maxSessions : Nat) (ttlSeconds : Int) (maxDispatchAttempts : Nat)
    (persistence : Option (List CardRecord)) (now : Int) (events : List KeepEvent)
    (along : (keepMachine (.new maxSessions ttlSeconds maxDispatchAttempts persistence) now).Along
      GivesBack events) :
    ((keepMachine (.new maxSessions ttlSeconds maxDispatchAttempts persistence) now).run
      events).Kept := by
  apply Machine.invariant_of_along _ _ along
  · exact CardDesk.kept_fresh (fun _ _ none => by cases none) now
  · exact fun desk event kept givesBack => kept.keepStep event givesBack

def editableCard : CardSession where
  messageId := py "m"
  bindingId := py "b"
  sessionKey := py "k"
  chatId := py "c"
  channelId := py "c"
  channelType := .DM
  requesterUid := py "u"
  card := .null
  plain := []
  actionLabels := []
  inputIds := []
  actionChannelIds := []
  maxInputTextBytes := none
  maxInputsBytes := none
  clarify := none
  kind := py "interactive"

def cardEdit (run : Nat) : KeepEvent :=
  .host (.card (.edit run ⟨py "m", py "k", py "c", .DM, py "u"⟩ true ⟨0, none⟩))

/-- The profile offers no edits, and the first store write behind the release fails; another
edit is cancelled once its card has been discarded. -/
def failedEdit : List KeepEvent :=
  [.register editableCard 0 ⟨0, none⟩, cardEdit 0, .host (.card (.editUnavailable 0)),
    .host (.card (.stored 0 ⟨0, some .osError⟩)), .host (.card (.editCloses 0)),
    .host (.card (.stored 0 ⟨0, none⟩)), cardEdit 1, .discard (py "m") ⟨0, none⟩,
    .host (.card (.cancel 1))]

theorem keepRun_kept_failedEdit :
    ((keepMachine (.new 4 100 3 (some [])) 0).run failedEdit).Kept := by
  apply keepRun_kept 4 100 3 (some []) 0 failedEdit
  apply Machine.along_of_follows
  refine ⟨trivial, trivial, trivial, trivial, trivial, trivial, trivial, trivial, ?_, trivial⟩
  intro messageId cardSeq final found entry present
  cases found
  cases present

/-- An edit that is cancelled at its network call. -/
def cancelledEdit : List KeepEvent :=
  [.register editableCard 0 ⟨0, none⟩, cardEdit 0, .host (.card (.cancel 0))]

/-- The run is over, its claim still holds the card, and a later press is a duplicate. -/
theorem cancelledEdit_leaks :
    let desk := (keepMachine (.new 4 100 3 (some [])) 0).run cancelledEdit
    ¬ desk.Kept ∧ desk.runs.get? 0 = none ∧
      (desk.registry.claim 1 ⟨0, none⟩ (py "m") 7).1 = .ok ⟨.duplicate, some editableCard, 0⟩ := by
  refine ⟨fun kept => ?_, rfl, rfl⟩
  obtain ⟨run, eventId, -, holding⟩ := kept (py "m") _ (by rfl) (by rfl)
  cases holding

end OctoChannel.Cards

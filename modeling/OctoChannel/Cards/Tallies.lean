import OctoChannel.Cards.AtMostOnce
import OctoChannel.Cards.Leaks

/-! What is counted of the events of a card, and what its entry and its record on disk say
about the count. -/

namespace OctoChannel.Cards

open Foundation

/-- The event that claimed a card last, how often it did so in a row, and how often it was
dispatched meanwhile. -/
structure Tally where
  eventId : Int
  claims : Nat
  dispatches : Nat

/-- The handlers of one identity; no modelled function reads the tally. -/
structure AttemptDesk where
  desk : CardDesk
  tally : PyStr → Option Tally

/-- One more claim; that of another event begins anew. -/
def Tally.claim (tally : Option Tally) (eventId : Int) : Tally :=
  match tally with
  | some tally =>
    if tally.eventId = eventId then { tally with claims := tally.claims + 1 } else ⟨eventId, 1, 0⟩
  | none => ⟨eventId, 1, 0⟩

def Tally.dispatch (tally : Tally) (eventId : Int) : Tally :=
  if tally.eventId = eventId then { tally with dispatches := tally.dispatches + 1 } else tally

/-- The beginning of a press, or of its dispatch. -/
def CardEvent.counts : CardEvent → Bool
  | .press _ _ _ | .statusUpdated _ => true
  | _ => false

namespace AttemptDesk

variable (state : AttemptDesk)

def setTally (messageId : PyStr) (tally : Option Tally) : PyStr → Option Tally :=
  fun other => if other = messageId then tally else state.tally other

/-- The press claims the card. -/
def pressClaims (run : Nat) (action : CardAction) (moment : Moment) : Bool :=
  (state.desk.runs.get? run).isNone &&
    match (state.desk.registry.claim state.desk.now moment action.messageId action.eventId).1 with
    | .ok claim => claim.status = .claimed
    | .error _ => false

/-- Claims are counted when they succeed, dispatches when they begin. -/
def tallyAfter : HostEvent → PyStr → Option Tally
  | .card (.press run action moment) =>
    if state.pressClaims run action moment then
      state.setTally action.messageId
        (some (Tally.claim (state.tally action.messageId) action.eventId))
    else state.tally
  | .card (.statusUpdated run) =>
    match state.desk.runs.get? run with
    | some (.press action (.updating _ _)) =>
      state.setTally action.messageId
        ((state.tally action.messageId).map fun tally => tally.dispatch action.eventId)
    | _ => state.tally
  | _ => state.tally

/-- The event of the run has been dispatched as often as is allowed. -/
def Spent (action : CardAction) : Prop :=
  ∃ tally, state.tally action.messageId = some tally ∧
    state.desk.registry.maxDispatchAttempts ≤ tally.dispatches

end AttemptDesk

def attemptStep (state : AttemptDesk) (event : HostEvent) : AttemptDesk :=
  ⟨hostStep state.desk event, state.tallyAfter event⟩

def attemptMachine (registry : CardRegistry) (now : Int) : Machine AttemptDesk HostEvent where
  start := ⟨.fresh registry now, fun _ => none⟩
  step := attemptStep

/-- The last dispatch that is allowed does not end in a cancellation or in a refusal by the
callback, and no restart brings a card back whose event has had that many. -/
def EndsInOutcome (state : AttemptDesk) : HostEvent → Prop
  | .card (.cancel run) => ∀ action session attempts,
    state.desk.runs.get? run = some (.press action (.dispatching session attempts)) →
      ¬ state.Spent action
  | .card (.dispatchReturns run accepted) => ∀ action session attempts,
    state.desk.runs.get? run = some (.press action (.dispatching session attempts)) →
      accepted.terminalStatus ∉ terminalStatuses → ¬ state.Spent action
  | .restart now wall true => ∀ records, state.desk.registry.persistence = some records →
    ∀ record ∈ records, ∀ entry, record.toEntry wall now = some entry → entry.state = .pending →
      ∀ tally, state.tally record.session.messageId = some tally →
        tally.dispatches < state.desk.registry.maxDispatchAttempts
  | _ => True

namespace CardRegistry

variable {registry before middle after : CardRegistry} {messageId : PyStr} {now : Int}
  {moment : Moment} {eventId : Int} {args : EditArgs}

/-- The store holds what it did, or the entries as they are. -/
def Synced (before after : CardRegistry) : Prop :=
  after.persistence = before.persistence ∨ after.persistence = some after.records

/-- There is no store, or it holds the entries as they are. -/
def Current (registry : CardRegistry) : Prop :=
  registry.persistence = none ∨ registry.persistence = some registry.records

theorem synced_persist (registry : CardRegistry) (now : Int) (moment : Moment) :
    registry.Synced (registry.persist now moment).2 := by
  unfold persist
  split
  · exact .inl rfl
  · dsimp only
    split
    · exact .inl rfl
    · exact .inr rfl

private theorem current_persist (wrote : registry.persist now moment = (.ok (), after)) :
    after.Current := by
  unfold persist at wrote
  split at wrote
  · rename_i detached
    cases wrote
    exact .inl detached
  · dsimp only at wrote
    split at wrote
    · cases wrote
    · cases wrote
      exact .inr rfl

theorem persistence_entryLocked (registry : CardRegistry) (now : Int) (messageId : PyStr) :
    (registry.entryLocked now messageId).2.persistence = registry.persistence := by
  unfold entryLocked
  split
  · rfl
  · split
    · rfl
    · rfl

theorem persistence_takeBack (registry : CardRegistry) (messageId : PyStr) (entry : CardEntry) :
    (registry.takeBack messageId entry).persistence = registry.persistence := by
  unfold takeBack
  split
  · rfl
  · rfl

theorem persistence_failed {error : PyError}
    (failed : registry.persist now moment = (.error error, after)) :
    after.persistence = registry.persistence := by
  have pruned := (persist_failed (congrArg Prod.fst failed)).2.2
  rw [failed] at pruned
  dsimp only at pruned
  rw [pruned]
  rfl

private theorem persistence_release (registry : CardRegistry) (now : Int) (messageId : PyStr)
    (eventId : Int) : (registry.release now messageId eventId).persistence = registry.persistence := by
  have looked := persistence_entryLocked registry now messageId
  unfold release
  generalize registry.entryLocked now messageId = answer at looked ⊢
  obtain ⟨found, rest⟩ := answer
  cases found with
  | none => exact looked
  | some entry =>
    dsimp only
    split
    · exact looked
    · exact looked

private theorem persistence_complete (registry : CardRegistry) (now : Int) (messageId : PyStr)
    (eventId : Int) : (registry.complete now messageId eventId).persistence = registry.persistence := by
  have looked := persistence_entryLocked registry now messageId
  unfold complete
  generalize registry.entryLocked now messageId = answer at looked ⊢
  obtain ⟨found, rest⟩ := answer
  cases found with
  | none => exact looked
  | some entry =>
    dsimp only
    split
    · exact looked
    · exact looked

/-- A claim writes the store or leaves it, and one that succeeds leaves it current. -/
theorem synced_claim (registry : CardRegistry) (now : Int) (moment : Moment) (messageId : PyStr)
    (eventId : Int) :
    registry.Synced (registry.claim now moment messageId eventId).2 ∧
      ∀ claim, (registry.claim now moment messageId eventId).1 = .ok claim →
        claim.status = .claimed → (registry.claim now moment messageId eventId).2.Current := by
  have looked := persistence_entryLocked registry now messageId
  unfold claim
  generalize registry.entryLocked now messageId = answer at looked ⊢
  obtain ⟨found, rest⟩ := answer
  cases found with
  | none => exact ⟨.inl looked, fun claim missing claimed => by cases missing; cases claimed⟩
  | some entry =>
    dsimp only at looked ⊢
    split
    · have synced := synced_persist rest now moment
      rw [Synced, looked] at synced
      rcases wrote : rest.persist now moment with ⟨error | _, written⟩
      · rw [wrote] at synced
        exact ⟨synced, fun claim failed => by cases failed⟩
      · rw [wrote] at synced
        exact ⟨synced, fun claim duplicate claimed => by cases duplicate; cases claimed⟩
    · have synced := synced_persist (rest.put messageId (claimedBy entry eventId)) now moment
      rcases wrote : (rest.put messageId (claimedBy entry eventId)).persist now moment with
        ⟨error | _, written⟩
      · refine ⟨.inl ?_, fun claim failed => by cases failed⟩
        exact (persistence_takeBack written messageId entry).trans
          ((persistence_failed wrote).trans looked)
      · rw [wrote] at synced
        refine ⟨?_, fun _ _ _ => current_persist wrote⟩
        rcases synced with same | records
        · exact .inl (same.trans looked)
        · exact .inr records

theorem synced_claimEdit (registry : CardRegistry) (now : Int) (moment : Moment) (args : EditArgs) :
    registry.Synced (registry.claimEdit now moment args).2 := by
  have looked := persistence_entryLocked registry now args.messageId
  unfold claimEdit
  generalize registry.entryLocked now args.messageId = answer at looked ⊢
  obtain ⟨found, rest⟩ := answer
  cases found with
  | none => exact .inl looked
  | some entry =>
    dsimp only at looked ⊢
    split
    · exact .inl looked
    · have synced := synced_persist (rest.put args.messageId (editedBy entry)) now moment
      rcases wrote : (rest.put args.messageId (editedBy entry)).persist now moment with
        ⟨error | _, written⟩
      · refine .inl ?_
        exact (persistence_takeBack written args.messageId entry).trans
          ((persistence_failed wrote).trans looked)
      · rw [wrote] at synced
        rcases synced with same | records
        · exact .inl (same.trans looked)
        · exact .inr records

end CardRegistry

/-- Every step of a handler preserves what the parts of the calls preserve. -/
theorem CardRegistry.Closed.cardStep {Property : CardRegistry → Prop}
    {Entry : PyStr → CardEntry → Prop} (closed : Closed Property Entry) {desk : CardDesk}
    (holds : Property desk.registry) (event : CardEvent) :
    Property (Cards.cardStep desk event).registry := by
  have move := cardStep_move desk event
  generalize Cards.cardStep desk event = after at move ⊢
  cases move with
  | idle => exact holds
  | @missed run action moment =>
    exact closed.claim holds desk.now moment action.messageId action.eventId
  | @claimed run action moment entry registry free claims matched =>
    have claimed := closed.claim holds desk.now moment action.messageId action.eventId
    rw [claims.claimed] at claimed
    exact claimed
  | @gaveBack run action moment entry registry free claims after =>
    have claimed := closed.claim holds desk.now moment action.messageId action.eventId
    rw [claims.claimed] at claimed
    exact closed.release claimed _ _ _
  | statusUpdated found => exact holds
  | accepted found terminal => exact closed.complete holds _ _ _
  | refused found open' => exact closed.release holds _ _ _
  | deadLetter found last => exact closed.complete holds _ _ _
  | raised found early => exact closed.release holds _ _ _
  | updateCancelled found => exact closed.release holds _ _ _
  | dispatchCancelled found => exact closed.release holds _ _ _
  | reportCancelled found => exact holds
  | stored found => exact closed.persist holds _ _
  | unreported found => exact closed.persist holds _ _
  | reported found => exact holds
  | editMissed free shrinks => exact closed.claimEdit holds _ _ _
  | editClaimed free present pending changes => exact closed.claimEdit holds _ _ _
  | editCompleted found => exact closed.complete holds _ _ _
  | editReleased found => exact closed.release holds _ _ _
  | editStored found => exact closed.persist holds _ _
  | editLeft found => exact closed.persist holds _ _
  | editClosed found => exact holds
  | editCancelled found => exact holds
  | persist moment => exact closed.persist holds _ _
  | tick lapse => exact holds

/-- No event holds the entry: it is pending, or an edit has claimed it. -/
def CardEntry.Unclaimed (entry : CardEntry) : Prop :=
  entry.state = .pending ∨ ∃ eventId, entry.claimedEventId = some eventId ∧ eventId < 0

structure EntryFits (tally : PyStr → Option Tally) (limit : Nat) (messageId : PyStr)
    (entry : CardEntry) : Prop where
  named : entry.session.messageId = messageId
  natural : 0 ≤ entry.dispatchAttempts
  counted : ∀ count, tally messageId = some count →
    entry.attemptEventId = some count.eventId ∧ (count.claims : Int) ≤ entry.dispatchAttempts
  below : entry.Unclaimed → ∀ count, tally messageId = some count → count.dispatches < limit

theorem EntryFits.elsewhere {before tally : PyStr → Option Tally} {limit : Nat} {messageId : PyStr}
    {entry : CardEntry} (fits : EntryFits before limit messageId entry)
    (same : tally messageId = before messageId) : EntryFits tally limit messageId entry where
  named := fits.named
  natural := fits.natural
  counted count counts := fits.counted count (same.symm.trans counts)
  below free count counts := fits.below free count (same.symm.trans counts)

structure RecordFits (tally : PyStr → Option Tally) (record : CardRecord) : Prop where
  natural : 0 ≤ record.dispatchAttempts
  counted : ∀ count, tally record.session.messageId = some count →
    record.attemptEventId = some count.eventId ∧ (count.claims : Int) ≤ record.dispatchAttempts

structure RegistryFits (tally : PyStr → Option Tally) (limit : Nat) (registry : CardRegistry) :
    Prop where
  entries : ∀ messageId entry, registry.entries.get? messageId = some entry →
    EntryFits tally limit messageId entry
  records : ∀ records, registry.persistence = some records → ∀ record ∈ records,
    RecordFits tally record

variable {tally : PyStr → Option Tally} {limit : Nat} {registry after : CardRegistry}
  {messageId : PyStr} {entry : CardEntry} {eventId now : Int}

/-- The records of entries that fit are as the entries are. -/
theorem records_fit (entries : ∀ messageId entry, after.entries.get? messageId = some entry →
      EntryFits tally limit messageId entry) {record : CardRecord}
    (member : record ∈ after.records) : RecordFits tally record := by
  obtain ⟨⟨name, entry⟩, present, kept⟩ := List.mem_filterMap.mp member
  have fits := entries name entry ((Dict.mem_entries_iff _ name entry).mp present)
  cases toRecord_some kept
  refine ⟨fits.natural, fun count counts => fits.counted count ?_⟩
  rw [← fits.named]
  exact counts

namespace RegistryFits

theorem synced (fits : RegistryFits tally limit registry)
    (entries : ∀ messageId entry, after.entries.get? messageId = some entry →
      EntryFits tally limit messageId entry) (synced : registry.Synced after) :
    RegistryFits tally limit after := by
  refine ⟨entries, ?_⟩
  intro records stored record member
  rcases synced with same | current
  · exact fits.records records (same.symm.trans stored) record member
  · cases current.symm.trans stored
    exact records_fit entries member

theorem shrinks (fits : RegistryFits tally limit registry) (shrinks : registry.Shrinks after)
    (synced : registry.Synced after) : RegistryFits tally limit after :=
  fits.synced (fun messageId entry found => fits.entries messageId entry (shrinks messageId entry found))
    synced

theorem changes (fits : RegistryFits tally limit registry)
    (changes : registry.Changes after messageId entry) (new : EntryFits tally limit messageId entry)
    (synced : registry.Synced after) : RegistryFits tally limit after := by
  apply fits.synced _ synced
  intro other found stored
  rcases changes other found stored with ⟨same, equal⟩ | ⟨-, earlier⟩
  · rw [same, equal]
    exact new
  · exact fits.entries other found earlier

theorem release (fits : RegistryFits tally limit registry)
    (below : ∀ entry, registry.entries.get? messageId = some entry →
      CardRegistry.holds entry eventId = true → ∀ count, tally messageId = some count →
        count.dispatches < limit) :
    RegistryFits tally limit (registry.release now messageId eventId) := by
  have synced : registry.Synced (registry.release now messageId eventId) :=
    .inl (CardRegistry.persistence_release registry now messageId eventId)
  rcases registry.release_spec now messageId eventId with shrinks | ⟨entry, present, held, changes⟩
  · exact fits.shrinks shrinks synced
  · have old := fits.entries messageId entry present
    exact fits.changes changes
      ⟨old.named, old.natural, old.counted, fun _ => below entry present held⟩ synced

theorem complete (fits : RegistryFits tally limit registry) :
    RegistryFits tally limit (registry.complete now messageId eventId) := by
  have synced : registry.Synced (registry.complete now messageId eventId) :=
    .inl (CardRegistry.persistence_complete registry now messageId eventId)
  rcases registry.complete_spec now messageId eventId with
    ⟨shrinks, -⟩ | ⟨entry, present, -, changes⟩
  · exact fits.shrinks shrinks synced
  · have old := fits.entries messageId entry present
    refine fits.changes changes ⟨old.named, old.natural, old.counted, ?_⟩ synced
    rintro (pending | edited)
    · cases pending
    · exact old.below (.inr edited)

end RegistryFits

end OctoChannel.Cards

import OctoChannel.Cards.Sessions

namespace OctoChannel.Cards

open Foundation Identity

/-- `_bounded_message_id` -/
def boundedMessageId (messageId : PyStr) : Bool :=
  0 < messageId.length && messageId.length ≤ 128

/-- `_entry_from_record`: what was being dispatched is pending again. -/
def CardRecord.toEntry (record : CardRecord) (wallNow monoNow : Int) : Option CardEntry :=
  if record.expiresAt ≤ wallNow then none
  else if !boundedMessageId record.session.messageId then none
  else if record.session.kind ≠ py "interactive" then none
  else
    some {
      session := { record.session with clarify := none }
      expiresAt := monoNow + (record.expiresAt - wallNow)
      wallExpiresAt := record.expiresAt
      state := if record.state = .processing then .pending else record.state
      claimedEventId := none
      attemptEventId := record.attemptEventId
      dispatchAttempts := record.dispatchAttempts
      cardSeq := record.cardSeq }

theorem toEntry_some {record : CardRecord} {wallNow monoNow : Int} {entry : CardEntry}
    (read : record.toEntry wallNow monoNow = some entry) :
    wallNow < record.expiresAt ∧ boundedMessageId record.session.messageId = true ∧
      record.session.kind = py "interactive" ∧ entry = {
        session := { record.session with clarify := none }
        expiresAt := monoNow + (record.expiresAt - wallNow)
        wallExpiresAt := record.expiresAt
        state := if record.state = .processing then .pending else record.state
        claimedEventId := none
        attemptEventId := record.attemptEventId
        dispatchAttempts := record.dispatchAttempts
        cardSeq := record.cardSeq } := by
  unfold CardRecord.toEntry at read
  split at read
  · cases read
  · rename_i live
    split at read
    · cases read
    · rename_i bounded
      split at read
      · cases read
      · rename_i kind
        exact ⟨Int.not_le.mp live, by simpa using bounded, not_not.mp kind,
          (Option.some.inj read).symm⟩

namespace CardRegistry

/-- `CardSessionRegistry(...)` -/
def new (maxSessions : Nat) (ttlSeconds : Int) (maxDispatchAttempts : Nat)
    (persistence : Option (List CardRecord)) : CardRegistry where
  maxSessions := max 1 maxSessions
  ttlSeconds := max 1 ttlSeconds
  maxDispatchAttempts := max 1 maxDispatchAttempts
  entries := .empty
  persistence := persistence

variable (registry : CardRegistry)

def drop (messageId : PyStr) : CardRegistry :=
  { registry with entries := registry.entries.erase messageId }

def hasRoom : Bool := registry.entries.size < registry.maxSessions

def firstCompleted : Option PyStr :=
  (registry.entries.entries.find? fun item => item.2.state = .completed).map Prod.fst

/-- The eviction loop of `register`; a round without a completed entry gives up. -/
def evict : Nat → CardRegistry → Bool × CardRegistry
  | 0, registry => (registry.hasRoom, registry)
  | rounds + 1, registry =>
    if registry.hasRoom then (true, registry)
    else
      match registry.firstCompleted with
      | none => (false, registry)
      | some messageId => evict rounds (registry.drop messageId)

/-- Every round takes an entry away, so there are no more rounds than entries. -/
def makeRoom : Bool × CardRegistry := evict registry.entries.size registry

def newEntry (now wall : Int) (session : CardSession) : CardEntry where
  session := session
  expiresAt := now + registry.ttlSeconds
  wallExpiresAt := wall + registry.ttlSeconds
  state := .pending
  claimedEventId := none
  attemptEventId := none
  dispatchAttempts := 0
  cardSeq := 0

/-- The locked part of `register`. -/
def enroll (now wall : Int) (session : CardSession) : Except PyError Unit × CardRegistry :=
  if !boundedMessageId session.messageId then
    (.error (.valueError "invalid card session message_id"), registry)
  else
    let pruned := registry.prune now
    if (pruned.entries.get? session.messageId).any fun entry => entry.state ≠ .completed then
      (.error (.valueError "card session message_id already active"), pruned)
    else
      match (pruned.drop session.messageId).makeRoom with
      | (false, rest) => (.error (.valueError "card session registry capacity exhausted"), rest)
      | (true, rest) => (.ok (), rest.put session.messageId (registry.newEntry now wall session))

/-- `register`: the store is written behind the lock that admitted the session. -/
def register (now wall : Int) (moment : Moment) (session : CardSession) :
    Except PyError Unit × CardRegistry :=
  match registry.enroll now wall session with
  | (.error error, registry) => (.error error, registry)
  | (.ok _, registry) => registry.persist now moment

/-- The locked part of `next_card_seq`. -/
def allocate (now : Int) (messageId : PyStr) : Option Nat × CardRegistry :=
  match registry.entryLocked now messageId with
  | (none, registry) => (none, registry)
  | (some entry, registry) =>
    (some (entry.cardSeq + 1), registry.put messageId { entry with cardSeq := entry.cardSeq + 1 })

def nextCardSeq (now : Int) (moment : Moment) (messageId : PyStr) :
    Except PyError (Option Nat) × CardRegistry :=
  match registry.allocate now messageId with
  | (none, registry) => (.ok none, registry)
  | (some cardSeq, registry) =>
    match registry.persist now moment with
    | (.error error, registry) => (.error error, registry)
    | (.ok _, registry) => (.ok (some cardSeq), registry)

def discard (now : Int) (moment : Moment) (messageId : PyStr) : Except PyError Unit × CardRegistry :=
  (registry.drop messageId).persist now moment

/-- The loop of `_restore_locked` over the records that were loaded. -/
def rehydrate (wall now : Int) : List CardRecord → CardRegistry → CardRegistry
  | [], registry => registry
  | record :: rest, registry =>
    match record.toEntry wall now with
    | none => rehydrate wall now rest registry
    | some entry =>
      if registry.hasRoom then
        rehydrate wall now rest (registry.put entry.session.messageId entry)
      else registry

/-- `_restore_locked`; without a store, or when its file cannot be read, nothing is restored. -/
def restore (wall now : Int) (loaded : Except PyError (List CardRecord)) : CardRegistry :=
  match registry.persistence, loaded with
  | some _, .ok records => rehydrate wall now records registry
  | _, _ => registry

/-- A new process that attaches the store and restores what can be read of it. -/
def restart (wall now : Int) (readable : Bool) : CardRegistry :=
  { registry with entries := .empty }.restore wall now
    (if readable then .ok (registry.persistence.getD []) else .error .osError)

/-- What the entries of the records preserve holds after a restore. -/
theorem rehydrate_preserves {Property : CardRegistry → Prop} {wall now : Int}
    {records : List CardRecord} {registry : CardRegistry} (holds : Property registry)
    (put : ∀ registry, Property registry → ∀ record ∈ records, ∀ entry,
      record.toEntry wall now = some entry →
        Property (registry.put entry.session.messageId entry)) :
    Property (rehydrate wall now records registry) := by
  induction records generalizing registry with
  | nil => exact holds
  | cons record rest ih =>
    have later := fun registry holds record member =>
      put registry holds record (List.mem_cons_of_mem _ member)
    unfold rehydrate
    split
    · exact ih holds later
    · rename_i entry read
      split
      · exact ih (put registry holds record List.mem_cons_self entry read) later
      · exact holds

/-- What the stored entries preserve holds after a restart. -/
theorem restart_preserves {registry : CardRegistry} {Property : CardRegistry → Prop}
    {wall now : Int} {readable : Bool}
    (empty : Property { registry with entries := .empty })
    (put : readable = true → ∀ other, Property other → ∀ records,
      registry.persistence = some records → ∀ record ∈ records, ∀ entry,
        record.toEntry wall now = some entry →
          Property (other.put entry.session.messageId entry)) :
    Property (registry.restart wall now readable) := by
  unfold restart restore
  split
  · rename_i saved records stored loaded
    have stored : registry.persistence = some saved := stored
    rw [stored] at loaded
    cases readable with
    | true =>
      cases loaded
      exact rehydrate_preserves empty fun other holds record member entry read =>
        put rfl other holds saved stored record member entry read
    | false => cases loaded
  · exact empty

/-- A property of registries that the parts of the calls preserve, where `Entry` is what it
says of each entry. -/
structure Closed (Property : CardRegistry → Prop) (Entry : PyStr → CardEntry → Prop) : Prop where
  known : ∀ registry messageId entry, Property registry →
    registry.entries.get? messageId = some entry → Entry messageId entry
  put : ∀ registry messageId entry, Property registry → Entry messageId entry →
    Property (registry.put messageId entry)
  filter : ∀ registry keep, Property registry →
    Property { registry with entries := registry.entries.filterKeys keep }
  write : ∀ registry, Property registry → registry.persistence.isSome →
    Property { registry with persistence := some registry.records }
  claimed : ∀ messageId entry eventId, Entry messageId entry →
    Entry messageId (claimedBy entry eventId)
  edited : ∀ messageId entry, Entry messageId entry → Entry messageId (editedBy entry)
  released : ∀ messageId entry, Entry messageId entry →
    Entry messageId { entry with state := .pending, claimedEventId := none }
  completed : ∀ messageId entry, Entry messageId entry →
    Entry messageId { entry with state := .completed }

namespace Closed

variable {registry} {Property : CardRegistry → Prop} {Entry : PyStr → CardEntry → Prop}

theorem prune (closed : Closed Property Entry) (holds : Property registry) (now : Int) :
    Property (registry.prune now) := closed.filter registry _ holds

theorem drop (closed : Closed Property Entry) (holds : Property registry) (messageId : PyStr) :
    Property (registry.drop messageId) := closed.filter registry _ holds

theorem persist (closed : Closed Property Entry) (holds : Property registry) (now : Int)
    (moment : Moment) : Property (registry.persist now moment).2 := by
  unfold CardRegistry.persist
  split
  · exact holds
  · rename_i stored
    have pruned := closed.prune holds (now + moment.lapse)
    dsimp only
    split
    · exact pruned
    · apply closed.write _ pruned
      show registry.persistence.isSome
      rw [stored]
      rfl

theorem entryLocked (closed : Closed Property Entry) (holds : Property registry) (now : Int)
    (messageId : PyStr) : Property (registry.entryLocked now messageId).2 := by
  unfold CardRegistry.entryLocked
  split
  · exact holds
  · split
    · exact closed.drop holds messageId
    · exact holds

theorem takeBack (closed : Closed Property Entry) (holds : Property registry) {messageId : PyStr}
    {entry : CardEntry} (known : Entry messageId entry) :
    Property (registry.takeBack messageId entry) := by
  unfold CardRegistry.takeBack
  split
  · exact holds
  · exact closed.put registry messageId entry holds known

/-- A look at the registry that finds an entry finds one of the property. -/
theorem found (closed : Closed Property Entry) (holds : Property registry) {now : Int}
    {messageId : PyStr} {entry : CardEntry} {rest : CardRegistry}
    (looked : registry.entryLocked now messageId = (some entry, rest)) :
    Property rest ∧ Entry messageId entry := by
  have kept := closed.entryLocked holds now messageId
  have present := (entryLocked_some (congrArg Prod.fst looked)).1
  rw [looked] at kept
  exact ⟨kept, closed.known registry messageId entry holds present⟩

theorem claim (closed : Closed Property Entry) (holds : Property registry) (now : Int)
    (moment : Moment) (messageId : PyStr) (eventId : Int) :
    Property (registry.claim now moment messageId eventId).2 := by
  have kept := closed.entryLocked holds now messageId
  rcases looked : registry.entryLocked now messageId with ⟨found, rest⟩
  unfold CardRegistry.claim
  rw [looked] at kept ⊢
  cases found with
  | none => exact kept
  | some entry =>
    have known := (closed.found holds looked).2
    dsimp only
    split
    · have wrote := closed.persist kept now moment
      split <;> rename_i shape <;> rwa [shape] at wrote
    · have put := closed.put rest messageId _ kept (closed.claimed messageId entry eventId known)
      have wrote := closed.persist put now moment
      split
      · rename_i shape
        rw [shape] at wrote
        exact closed.takeBack wrote known
      · rename_i shape
        rwa [shape] at wrote

theorem claimEdit (closed : Closed Property Entry) (holds : Property registry) (now : Int)
    (moment : Moment) (args : EditArgs) : Property (registry.claimEdit now moment args).2 := by
  have kept := closed.entryLocked holds now args.messageId
  rcases looked : registry.entryLocked now args.messageId with ⟨found, rest⟩
  unfold CardRegistry.claimEdit
  rw [looked] at kept ⊢
  cases found with
  | none => exact kept
  | some entry =>
    have known := (closed.found holds looked).2
    dsimp only
    split
    · exact kept
    · have put := closed.put rest args.messageId _ kept (closed.edited args.messageId entry known)
      have wrote := closed.persist put now moment
      split
      · rename_i shape
        rw [shape] at wrote
        exact closed.takeBack wrote known
      · rename_i shape
        rwa [shape] at wrote

theorem release (closed : Closed Property Entry) (holds : Property registry) (now : Int)
    (messageId : PyStr) (eventId : Int) : Property (registry.release now messageId eventId) := by
  have kept := closed.entryLocked holds now messageId
  rcases looked : registry.entryLocked now messageId with ⟨found, rest⟩
  unfold CardRegistry.release
  rw [looked] at kept ⊢
  cases found with
  | none => exact kept
  | some entry =>
    have known := (closed.found holds looked).2
    dsimp only
    split
    · exact closed.put rest messageId _ kept (closed.released messageId entry known)
    · exact kept

theorem complete (closed : Closed Property Entry) (holds : Property registry) (now : Int)
    (messageId : PyStr) (eventId : Int) : Property (registry.complete now messageId eventId) := by
  have kept := closed.entryLocked holds now messageId
  rcases looked : registry.entryLocked now messageId with ⟨found, rest⟩
  unfold CardRegistry.complete
  rw [looked] at kept ⊢
  cases found with
  | none => exact kept
  | some entry =>
    have known := (closed.found holds looked).2
    dsimp only
    split
    · exact closed.put rest messageId _ kept (closed.completed messageId entry known)
    · exact kept

theorem evict (closed : Closed Property Entry) (holds : Property registry) (rounds : Nat) :
    Property (CardRegistry.evict rounds registry).2 := by
  induction rounds generalizing registry with
  | zero => exact holds
  | succ rounds ih =>
    unfold CardRegistry.evict
    split
    · exact holds
    · split
      · exact holds
      · exact ih (closed.drop holds _)

theorem enroll (closed : Closed Property Entry) (holds : Property registry) {now wall : Int}
    {session : CardSession}
    (fresh : (registry.enroll now wall session).1 = .ok () →
      Entry session.messageId (registry.newEntry now wall session)) :
    Property (registry.enroll now wall session).2 := by
  unfold CardRegistry.enroll at fresh ⊢
  split
  · exact holds
  · rename_i bounded
    rw [if_neg bounded] at fresh
    have pruned := closed.prune holds now
    dsimp only at fresh ⊢
    split
    · exact pruned
    · rename_i free
      rw [if_neg free] at fresh
      have room := closed.evict (closed.drop pruned session.messageId)
        ((registry.prune now).drop session.messageId).entries.size
      rw [← makeRoom] at room
      rcases made : ((registry.prune now).drop session.messageId).makeRoom with ⟨place, rest⟩
      rw [made] at room fresh
      cases place with
      | false => exact room
      | true => exact closed.put rest session.messageId _ room (fresh rfl)

theorem rehydrate (closed : Closed Property Entry) (holds : Property registry) {wall now : Int}
    {records : List CardRecord}
    (fresh : ∀ record ∈ records, ∀ entry, record.toEntry wall now = some entry →
      Entry entry.session.messageId entry) :
    Property (CardRegistry.rehydrate wall now records registry) :=
  rehydrate_preserves holds fun registry holds record member entry read =>
    closed.put registry _ entry holds (fresh record member entry read)

theorem restore (closed : Closed Property Entry) (holds : Property registry) {wall now : Int}
    {loaded : Except PyError (List CardRecord)}
    (fresh : ∀ (record : CardRecord) (entry : CardEntry), record.toEntry wall now = some entry →
      Entry entry.session.messageId entry) : Property (registry.restore wall now loaded) := by
  unfold CardRegistry.restore
  split
  · exact closed.rehydrate holds fun record _ entry read => fresh record entry read
  · exact holds

end Closed

/-- A closed property that also takes new entries and the next number. -/
structure Inclusive (Property : CardRegistry → Prop) (Entry : PyStr → CardEntry → Prop) : Prop
    extends Closed Property Entry where
  numbered : ∀ messageId entry, Entry messageId entry →
    Entry messageId { entry with cardSeq := entry.cardSeq + 1 }
  registered : ∀ (registry : CardRegistry) (now wall : Int) (session : CardSession),
    (registry.enroll now wall session).1 = .ok () →
      Entry session.messageId (registry.newEntry now wall session)

namespace Inclusive

variable {registry} {Property : CardRegistry → Prop} {Entry : PyStr → CardEntry → Prop}

theorem register (inclusive : Inclusive Property Entry) (holds : Property registry) (now wall : Int)
    (moment : Moment) (session : CardSession) :
    Property (registry.register now wall moment session).2 := by
  have enrolled := inclusive.enroll holds (inclusive.registered registry now wall session)
  unfold CardRegistry.register
  split
  · rename_i shape
    rwa [shape] at enrolled
  · rename_i shape
    rw [shape] at enrolled
    exact inclusive.persist enrolled now moment

theorem nextCardSeq (inclusive : Inclusive Property Entry) (holds : Property registry) (now : Int)
    (moment : Moment) (messageId : PyStr) :
    Property (registry.nextCardSeq now moment messageId).2 := by
  have kept := inclusive.entryLocked holds now messageId
  rcases looked : registry.entryLocked now messageId with ⟨found, rest⟩
  unfold CardRegistry.nextCardSeq allocate
  rw [looked] at kept ⊢
  cases found with
  | none => exact kept
  | some entry =>
    have known := (inclusive.found holds looked).2
    have wrote := inclusive.persist
      (inclusive.put rest messageId _ kept (inclusive.numbered messageId entry known)) now moment
    dsimp only
    split
    · rename_i shape
      rwa [shape] at wrote
    · rename_i shape
      rwa [shape] at wrote

end Inclusive

/-- The bounds of a registry, which no call changes. -/
structure SameSettings (before after : CardRegistry) : Prop where
  maxSessions : after.maxSessions = before.maxSessions
  ttlSeconds : after.ttlSeconds = before.ttlSeconds
  maxDispatchAttempts : after.maxDispatchAttempts = before.maxDispatchAttempts
  attached : after.persistence.isSome = before.persistence.isSome

variable {registry} {before middle after : CardRegistry} {messageId : PyStr} {now : Int}

theorem SameSettings.refl (registry : CardRegistry) : registry.SameSettings registry :=
  ⟨rfl, rfl, rfl, rfl⟩

theorem SameSettings.trans (first : before.SameSettings middle)
    (second : middle.SameSettings after) : before.SameSettings after where
  maxSessions := second.maxSessions.trans first.maxSessions
  ttlSeconds := second.ttlSeconds.trans first.ttlSeconds
  maxDispatchAttempts := second.maxDispatchAttempts.trans first.maxDispatchAttempts
  attached := second.attached.trans first.attached

theorem inclusive_settings (registry : CardRegistry) :
    Inclusive registry.SameSettings fun _ _ => True where
  known _ _ _ _ _ := trivial
  put _ _ _ same _ := same.trans ⟨rfl, rfl, rfl, rfl⟩
  filter _ _ same := same.trans ⟨rfl, rfl, rfl, rfl⟩
  write _ same attached := same.trans ⟨rfl, rfl, rfl, attached.symm⟩
  claimed _ _ _ _ := trivial
  edited _ _ _ := trivial
  released _ _ _ := trivial
  completed _ _ _ := trivial
  numbered _ _ _ := trivial
  registered _ _ _ _ _ := trivial

theorem settings_restart (registry : CardRegistry) (wall now : Int) (readable : Bool) :
    registry.SameSettings (registry.restart wall now readable) :=
  @restart_preserves registry registry.SameSettings wall now readable ⟨rfl, rfl, rfl, rfl⟩
    fun _ _ settings _ _ _ _ _ _ => settings.trans ⟨rfl, rfl, rfl, rfl⟩

theorem settings_put (registry : CardRegistry) (messageId : PyStr) (entry : CardEntry) :
    registry.SameSettings (registry.put messageId entry) := ⟨rfl, rfl, rfl, rfl⟩

theorem allocate_none (refused : registry.allocate now messageId = (none, after)) :
    after = (registry.entryLocked now messageId).2 := by
  unfold allocate at refused
  split at refused
  · rename_i looked
    cases refused
    rw [looked]
  · cases refused

/-- `next_card_seq` takes the next number of a live entry. -/
theorem allocate_some {cardSeq : Nat}
    (taken : registry.allocate now messageId = (some cardSeq, after)) :
    ∃ entry, registry.entries.get? messageId = some entry ∧ cardSeq = entry.cardSeq + 1 ∧
      after = registry.put messageId { entry with cardSeq := entry.cardSeq + 1 } := by
  unfold allocate at taken
  split at taken
  · cases taken
  · rename_i entry rest looked
    obtain ⟨present, -, unchanged⟩ := entryLocked_some (congrArg Prod.fst looked)
    rw [looked] at unchanged
    cases taken
    cases unchanged
    exact ⟨entry, present, rfl, rfl⟩

/-- `next_card_seq` changes nothing but the number of an entry. -/
theorem nextCardSeq_entries {moment : Moment} {other : PyStr} {entry : CardEntry}
    (found : (registry.nextCardSeq now moment messageId).2.entries.get? other = some entry) :
    ∃ old, registry.entries.get? other = some old ∧
      entry = { old with cardSeq := entry.cardSeq } := by
  unfold nextCardSeq at found
  rcases shape : registry.allocate now messageId with ⟨allocated, rest⟩
  rw [shape] at found
  cases allocated with
  | none =>
    rw [allocate_none shape] at found
    exact ⟨entry, shrinks_entryLocked registry now messageId other entry found, rfl⟩
  | some cardSeq =>
    obtain ⟨old, present, -, put⟩ := allocate_some shape
    have kept := (changes_put registry messageId { old with cardSeq := old.cardSeq + 1 }).shrinks
      (shrinks_persist _ now moment)
    rw [← put] at kept
    have stored : (rest.persist now moment).2.entries.get? other = some entry := by
      dsimp only at found
      split at found
      · rename_i wrote
        rwa [wrote]
      · rename_i wrote
        rwa [wrote]
    rcases kept other entry stored with ⟨same, new⟩ | ⟨-, earlier⟩
    · subst same new
      exact ⟨old, present, rfl⟩
    · exact ⟨entry, earlier, rfl⟩

end CardRegistry

end OctoChannel.Cards

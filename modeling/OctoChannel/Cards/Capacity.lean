import OctoChannel.Cards.Registering
import OctoChannel.Foundation.Runs

namespace OctoChannel.Cards

open Foundation

namespace CardRegistry

variable {registry before middle after : CardRegistry} {messageId : PyStr} {entry : CardEntry}
  {now wall time : Int} {moment : Moment} {session : CardSession} {eventId : Int} {args : EditArgs}

/-- A registry with no new message is no larger. -/
theorem size_le_of_known
    (known : ∀ messageId entry, after.entries.get? messageId = some entry →
      (before.entries.get? messageId).isSome) : after.entries.size ≤ before.entries.size := by
  apply @Dict.size_le_length PyStr CardEntry _ (PyStr × CardEntry) after.entries
    before.entries.entries Prod.fst
  intro messageId present
  obtain ⟨entry, found⟩ := Option.isSome_iff_exists.mp present
  obtain ⟨old, stored⟩ := Option.isSome_iff_exists.mp (known messageId entry found)
  exact ⟨(messageId, old), (Dict.mem_entries_iff _ _ _).mpr stored, rfl⟩

theorem Shrinks.size_le (shrinks : before.Shrinks after) :
    after.entries.size ≤ before.entries.size := by
  apply size_le_of_known
  intro messageId entry found
  rw [shrinks messageId entry found]
  rfl

theorem Changes.size_le {old : CardEntry} (changes : before.Changes after messageId entry)
    (present : before.entries.get? messageId = some old) :
    after.entries.size ≤ before.entries.size := by
  apply size_le_of_known
  intro other found stored
  rcases changes other found stored with ⟨same, -⟩ | ⟨-, earlier⟩
  · rw [same, present]
    rfl
  · rw [earlier]
    rfl

private theorem size_claim_le (registry : CardRegistry) (now : Int) (moment : Moment)
    (messageId : PyStr)
    (eventId : Int) :
    (registry.claim now moment messageId eventId).2.entries.size ≤ registry.entries.size := by
  rcases claim_spec registry now moment messageId eventId with
    ⟨shrinks, -⟩ | ⟨entry, present, -, -, -, changes⟩
  · exact shrinks.size_le
  · exact changes.size_le present

private theorem size_claimEdit_le (registry : CardRegistry) (now : Int) (moment : Moment)
    (args : EditArgs) :
    (registry.claimEdit now moment args).2.entries.size ≤ registry.entries.size := by
  rcases claimEdit_spec registry now moment args with
    ⟨shrinks, -⟩ | ⟨entry, present, -, -, -, changes⟩
  · exact shrinks.size_le
  · exact changes.size_le present

private theorem size_release_le (registry : CardRegistry) (now : Int) (messageId : PyStr)
    (eventId : Int) :
    (registry.release now messageId eventId).entries.size ≤ registry.entries.size := by
  rcases release_spec registry now messageId eventId with shrinks | ⟨entry, present, -, changes⟩
  · exact shrinks.size_le
  · exact changes.size_le present

private theorem size_complete_le (registry : CardRegistry) (now : Int) (messageId : PyStr)
    (eventId : Int) :
    (registry.complete now messageId eventId).entries.size ≤ registry.entries.size := by
  rcases complete_spec registry now messageId eventId with
    ⟨shrinks, -⟩ | ⟨entry, present, -, changes⟩
  · exact shrinks.size_le
  · exact changes.size_le present

private theorem size_nextCardSeq_le (registry : CardRegistry) (now : Int) (moment : Moment)
    (messageId : PyStr) :
    (registry.nextCardSeq now moment messageId).2.entries.size ≤ registry.entries.size := by
  apply size_le_of_known
  intro other entry found
  obtain ⟨old, present, -⟩ := nextCardSeq_entries found
  rw [present]
  rfl

theorem size_put_le (room : registry.hasRoom = true) (messageId : PyStr) (entry : CardEntry) :
    (registry.put messageId entry).entries.size ≤ registry.maxSessions := by
  have fits : registry.entries.size < registry.maxSessions := by simpa [hasRoom] using room
  rw [put, Dict.size_set]
  split
  · exact Nat.le_of_lt fits
  · exact fits

private theorem size_rehydrate_le (wall now : Int) (records : List CardRecord)
    (registry : CardRegistry)
    (fits : registry.entries.size ≤ registry.maxSessions) :
    (rehydrate wall now records registry).entries.size ≤ registry.maxSessions := by
  induction records generalizing registry with
  | nil => exact fits
  | cons record rest ih =>
    unfold rehydrate
    split
    · exact ih registry fits
    · rename_i entry _
      split
      · rename_i room
        exact ih (registry.put entry.session.messageId entry) (size_put_le room _ _)
      · exact fits

private theorem size_restore_le (registry : CardRegistry) (wall now : Int)
    (loaded : Except PyError (List CardRecord))
    (fits : registry.entries.size ≤ registry.maxSessions) :
    (registry.restore wall now loaded).entries.size ≤ registry.maxSessions := by
  unfold restore
  split
  · exact size_rehydrate_le wall now _ registry fits
  · exact fits

/-- Every entry that is neither expired at that time nor completed stays as it is. -/
def Keeps (time : Int) (before after : CardRegistry) : Prop :=
  ∀ messageId entry, before.entries.get? messageId = some entry → time < entry.expiresAt →
    entry.state ≠ .completed → after.entries.get? messageId = some entry

theorem Keeps.refl (time : Int) (registry : CardRegistry) : Keeps time registry registry :=
  fun _ _ found _ _ => found

theorem Keeps.trans (first : Keeps time before middle) (second : Keeps time middle after) :
    Keeps time before after :=
  fun messageId entry found live active =>
    second messageId entry (first messageId entry found live active) live active

theorem Keeps.later {later : Int} (keeps : Keeps time before after) (passed : time ≤ later) :
    Keeps later before after :=
  fun messageId entry found live active =>
    keeps messageId entry found (Int.lt_of_le_of_lt passed live) active

/-- Nothing that is live and not completed stands under the message. -/
def Free (registry : CardRegistry) (time : Int) (messageId : PyStr) : Prop :=
  ∀ entry, registry.entries.get? messageId = some entry → time < entry.expiresAt →
    entry.state = .completed

theorem Free.shrinks (free : before.Free time messageId) (shrinks : before.Shrinks after) :
    after.Free time messageId :=
  fun entry found live => free entry (shrinks messageId entry found) live

theorem keeps_prune (registry : CardRegistry) (now : Int) :
    Keeps now registry (registry.prune now) :=
  fun messageId entry found live _ => (untouched_prune registry now).stays messageId entry found live

private theorem keeps_persist (registry : CardRegistry) (now : Int) (moment : Moment) :
    Keeps (now + moment.lapse) registry (registry.persist now moment).2 := by
  unfold persist
  split
  · exact .refl _ registry
  · dsimp only
    split
    · exact keeps_prune registry _
    · exact keeps_prune registry _

theorem shrinks_drop (registry : CardRegistry) (messageId : PyStr) :
    registry.Shrinks (registry.drop messageId) := by
  intro other entry found
  rw [drop, Dict.get?_erase] at found
  split at found
  · cases found
  · exact found

theorem keeps_drop (free : registry.Free time messageId) :
    Keeps time registry (registry.drop messageId) := by
  intro other entry found live active
  rw [drop, Dict.get?_erase]
  split
  · rename_i same
    subst same
    exact absurd (free entry found live) active
  · exact found

private theorem keeps_put (free : registry.Free time messageId) (entry : CardEntry) :
    Keeps time registry (registry.put messageId entry) := by
  intro other old found live active
  rw [put, Dict.get?_set]
  split
  · rename_i same
    subst same
    exact absurd (free old found live) active
  · exact found

theorem firstCompleted_some (found : registry.firstCompleted = some messageId) :
    ∃ entry, registry.entries.get? messageId = some entry ∧ entry.state = .completed := by
  obtain ⟨⟨name, entry⟩, first, same⟩ := Option.map_eq_some_iff.mp found
  cases same
  refine ⟨entry, (Dict.mem_entries_iff _ _ _).mp (List.mem_of_find?_eq_some first), ?_⟩
  simpa using List.find?_some first

private theorem firstCompleted_none (none : registry.firstCompleted = none) :
    ∀ item ∈ registry.entries.entries, item.2.state ≠ .completed := by
  intro item member
  have found := List.find?_eq_none.mp (Option.map_eq_none_iff.mp none) item member
  simpa using found

private theorem free_of_completed (found : registry.entries.get? messageId = some entry)
    (completed : entry.state = .completed) : registry.Free time messageId := by
  intro other same _
  cases found.symm.trans same
  exact completed

private theorem shrinks_evict (rounds : Nat) (registry : CardRegistry) :
    registry.Shrinks (evict rounds registry).2 := by
  induction rounds generalizing registry with
  | zero => exact .refl registry
  | succ rounds ih =>
    unfold evict
    split
    · exact .refl registry
    · split
      · exact .refl registry
      · rename_i messageId _
        exact (shrinks_drop registry messageId).trans (ih _)

/-- Only completed entries are evicted. -/
private theorem keeps_evict (time : Int) (rounds : Nat) (registry : CardRegistry) :
    Keeps time registry (evict rounds registry).2 := by
  induction rounds generalizing registry with
  | zero => exact .refl time registry
  | succ rounds ih =>
    unfold evict
    split
    · exact .refl time registry
    · split
      · exact .refl time registry
      · rename_i messageId first
        obtain ⟨entry, found, completed⟩ := firstCompleted_some first
        exact (keeps_drop (free_of_completed found completed)).trans (ih _)

/-- A successful eviction leaves a place. -/
private theorem hasRoom_evict {rounds : Nat} (made : (evict rounds registry).1 = true) :
    (evict rounds registry).2.hasRoom = true := by
  induction rounds generalizing registry with
  | zero => exact made
  | succ rounds ih =>
    unfold evict at made ⊢
    split at made
    · rename_i room
      rw [if_pos room]
      exact room
    · rename_i full
      rw [if_neg full]
      split at made
      · cases made
      · exact ih made

/-- The sessions that no eviction takes away. -/
def unfinished (registry : CardRegistry) : List (PyStr × CardEntry) :=
  registry.entries.entries.filter fun item => item.2.state ≠ .completed

theorem length_unfinished_le (registry : CardRegistry) :
    registry.unfinished.length ≤ registry.entries.size := List.length_filter_le _ _

private theorem unfinished_drop (found : registry.entries.get? messageId = some entry)
    (completed : entry.state = .completed) :
    (registry.drop messageId).unfinished = registry.unfinished := by
  rw [unfinished, unfinished, drop, Dict.erase, Dict.filterKeys, List.filter_filter]
  apply List.filter_congr
  intro item member
  by_cases same : item.1 = messageId
  · have stored := (Dict.mem_entries_iff _ item.1 item.2).mp member
    rw [same, found] at stored
    cases stored
    simp [completed]
  · simp [same]

private theorem size_drop_lt (found : registry.entries.get? messageId = some entry) :
    (registry.drop messageId).entries.size < registry.entries.size := by
  apply List.length_filter_lt_length_iff_exists.mpr
  exact ⟨(messageId, entry), (Dict.mem_entries_iff _ _ _).mpr found, by simp⟩

/-- Given a round for each entry, eviction succeeds exactly when the unfinished sessions
leave a place. -/
private theorem evict_iff {rounds : Nat} (enough : registry.entries.size ≤ rounds) :
    (evict rounds registry).1 = true ↔ registry.unfinished.length < registry.maxSessions := by
  induction rounds generalizing registry with
  | zero =>
    have few := length_unfinished_le registry
    rw [evict, hasRoom, decide_eq_true_eq]
    omega
  | succ rounds ih =>
    have few := length_unfinished_le registry
    unfold evict
    by_cases room : registry.hasRoom = true
    · have fits : registry.entries.size < registry.maxSessions := by simpa [hasRoom] using room
      rw [if_pos room]
      exact ⟨fun _ => Nat.lt_of_le_of_lt few fits, fun _ => rfl⟩
    · have full : registry.maxSessions ≤ registry.entries.size := by simpa [hasRoom] using room
      rw [if_neg room]
      cases first : registry.firstCompleted with
      | none =>
        have all : registry.unfinished = registry.entries.entries := by
          apply List.filter_eq_self.mpr
          intro item member
          simpa using firstCompleted_none first item member
        have size : registry.unfinished.length = registry.entries.size := by rw [all]; rfl
        exact ⟨fun evicted => (by cases evicted), fun fits => by omega⟩
      | some messageId =>
        obtain ⟨entry, found, completed⟩ := firstCompleted_some first
        have smaller := size_drop_lt found
        dsimp only
        rw [@ih (registry.drop messageId) (by omega), unfinished_drop found completed]
        rfl

/-- `makeRoom` keeps what is not completed, and says whether there is a place. -/
private theorem makeRoom_spec (registry : CardRegistry) (time : Int) :
    (registry.makeRoom.1 = true ↔ registry.unfinished.length < registry.maxSessions) ∧
      registry.Shrinks registry.makeRoom.2 ∧ Keeps time registry registry.makeRoom.2 ∧
      (registry.makeRoom.1 = true → registry.makeRoom.2.hasRoom = true) :=
  ⟨evict_iff (Nat.le_refl _), shrinks_evict _ registry, keeps_evict time _ registry, hasRoom_evict⟩

/-- The unfinished live sessions of other messages. -/
def activeOthers (registry : CardRegistry) (now : Int) (messageId : PyStr) :
    List (PyStr × CardEntry) :=
  registry.entries.entries.filter fun item =>
    item.1 ≠ messageId && now < item.2.expiresAt && item.2.state ≠ .completed

/-- What `register` checks. -/
structure Admissible (registry : CardRegistry) (now : Int) (session : CardSession) : Prop where
  bounded : boundedMessageId session.messageId = true
  free : registry.Free now session.messageId
  room : (registry.activeOthers now session.messageId).length < registry.maxSessions

theorem get?_prune (registry : CardRegistry) (now : Int) (messageId : PyStr) :
    (registry.prune now).entries.get? messageId =
      (registry.entries.get? messageId).filter fun entry => now < entry.expiresAt := by
  rw [prune, Dict.get?_filterKeys]
  cases registry.entries.get? messageId with
  | none => rfl
  | some entry => by_cases live : now < entry.expiresAt <;> simp [live, Option.filter]

private theorem unfinished_prune_drop (registry : CardRegistry) (now : Int) (messageId : PyStr) :
    ((registry.prune now).drop messageId).unfinished = registry.activeOthers now messageId := by
  rw [unfinished, activeOthers, drop, Dict.erase, Dict.filterKeys, prune, Dict.filterKeys,
    List.filter_filter, List.filter_filter]
  apply List.filter_congr
  intro item member
  have stored := (Dict.mem_entries_iff _ item.1 item.2).mp member
  simp only [stored, Option.all_some]
  grind

theorem free_prune_iff (registry : CardRegistry) (now : Int) (messageId : PyStr) :
    (((registry.prune now).entries.get? messageId).any fun entry => entry.state ≠ .completed) =
      false ↔ registry.Free now messageId := by
  rw [get?_prune, Free]
  cases registry.entries.get? messageId with
  | none => simp
  | some entry => by_cases live : now < entry.expiresAt <;> simp [live]

/-- The locked part of a registration that is refused only takes finished or expired
entries away, and one that is not takes the place of none that is live and active. -/
theorem enroll_spec (registry : CardRegistry) (now wall : Int) (session : CardSession) :
    (¬ registry.Admissible now session ∧
      (∃ message, (registry.enroll now wall session).1 = .error (.valueError message)) ∧
      registry.Shrinks (registry.enroll now wall session).2 ∧
      Keeps now registry (registry.enroll now wall session).2) ∨
    (registry.Admissible now session ∧ (registry.enroll now wall session).1 = .ok () ∧
      ∃ rest, registry.Shrinks rest ∧ Keeps now registry rest ∧ rest.hasRoom = true ∧
        registry.SameSettings rest ∧ (registry.enroll now wall session).2 =
          rest.put session.messageId (registry.newEntry now wall session)) := by
  unfold enroll
  by_cases bounded : boundedMessageId session.messageId = true
  swap
  · rw [Bool.not_eq_true] at bounded
    rw [bounded]
    refine .inl ⟨fun admissible => ?_, ⟨_, rfl⟩, .refl registry, .refl now registry⟩
    rw [admissible.bounded] at bounded
    cases bounded
  rw [bounded]
  have pruned := shrinks_prune registry now
  have kept := keeps_prune registry now
  by_cases free : registry.Free now session.messageId
  swap
  · have active := mt (free_prune_iff registry now session.messageId).mp free
    rw [Bool.not_eq_false] at active
    dsimp only
    rw [active]
    exact .inl ⟨fun admissible => free admissible.free, ⟨_, rfl⟩, pruned, kept⟩
  dsimp only
  rw [(free_prune_iff registry now session.messageId).mpr free]
  have dropped := pruned.trans (shrinks_drop _ session.messageId)
  have spared := kept.trans (keeps_drop (free.shrinks pruned))
  have closed := inclusive_settings registry
  have settings := closed.drop (closed.prune (.refl registry) now) session.messageId
  have same : registry.SameSettings ((registry.prune now).drop session.messageId).makeRoom.2 :=
    closed.evict settings _
  obtain ⟨evicted, shrunk, left, place⟩ := makeRoom_spec ((registry.prune now).drop session.messageId) now
  rw [unfinished_prune_drop, settings.maxSessions] at evicted
  rcases made : ((registry.prune now).drop session.messageId).makeRoom with ⟨room, rest⟩
  rw [made] at evicted shrunk left place same
  cases room with
  | false =>
    refine .inl ⟨fun admissible => ?_, ⟨_, rfl⟩, dropped.trans shrunk, spared.trans left⟩
    cases evicted.mpr admissible.room
  | true =>
    exact .inr ⟨⟨bounded, free, evicted.mp rfl⟩, rfl, rest, dropped.trans shrunk,
      spared.trans left, place rfl, same, rfl⟩

/-- What a registration leaves alone, also when it raises. -/
structure Displaces (registry : CardRegistry) (now : Int) (moment : Moment) (session : CardSession)
    (after : CardRegistry) : Prop where
  kept : Keeps (now + moment.lapse) registry after
  others : ∀ messageId entry, messageId ≠ session.messageId →
    after.entries.get? messageId = some entry → registry.entries.get? messageId = some entry
  replaced : ∀ entry, after.entries.get? session.messageId = some entry →
    registry.entries.get? session.messageId ≠ some entry → registry.Free now session.messageId

/-- A call that raises has registered nothing. -/
def RegistersNothing (registry : CardRegistry) (outcome : Except PyError Unit)
    (after : CardRegistry) : Prop :=
  ∀ error, outcome = .error error → registry.Shrinks after

/-- The store fails behind a registration that was admitted and is still live. -/
structure FailsBehind (registry : CardRegistry) (now : Int) (moment : Moment)
    (session : CardSession) : Prop where
  admissible : registry.Admissible now session
  attached : registry.persistence.isSome
  failed : moment.failure.isSome
  live : (moment.lapse : Int) < registry.ttlSeconds

theorem lapse_le (now : Int) (moment : Moment) : now ≤ now + moment.lapse := by omega

theorem shrinks_of_refused (registry : CardRegistry) (now wall : Int) (moment : Moment)
    (session : CardSession) (refused : ¬ registry.Admissible now session) :
    registry.Shrinks (registry.register now wall moment session).2 ∧
      Keeps now registry (registry.register now wall moment session).2 := by
  rcases enroll_spec registry now wall session with
    ⟨-, ⟨message, raised⟩, shrinks, keeps⟩ | ⟨admissible, -⟩
  · rcases shape : registry.enroll now wall session with ⟨outcome, rest⟩
    rw [shape] at raised shrinks keeps
    dsimp only at raised
    unfold register
    rw [shape, raised]
    exact ⟨shrinks, keeps⟩
  · exact absurd admissible refused

/-- A registration that was admitted puts its entry in and writes the store. -/
theorem register_admitted (registry : CardRegistry) (now wall : Int) (moment : Moment)
    (session : CardSession) (admissible : registry.Admissible now session) :
    ∃ rest, registry.Shrinks rest ∧ Keeps now registry rest ∧ rest.hasRoom = true ∧
      registry.SameSettings rest ∧ registry.register now wall moment session =
        (rest.put session.messageId (registry.newEntry now wall session)).persist now moment := by
  rcases enroll_spec registry now wall session with
    ⟨refused, -⟩ | ⟨-, accepted, rest, shrinks, keeps, room, same, stored⟩
  · exact absurd admissible refused
  · refine ⟨rest, shrinks, keeps, room, same, ?_⟩
    rcases shape : registry.enroll now wall session with ⟨outcome, after⟩
    rw [shape] at accepted stored
    dsimp only at accepted stored
    unfold register
    rw [shape, accepted, stored]

/-- After a registration every entry is an old one or the new one. -/
theorem register_entries {other : PyStr}
    (found : (registry.register now wall moment session).2.entries.get? other = some entry) :
    registry.entries.get? other = some entry ∨ entry = registry.newEntry now wall session := by
  by_cases admissible : registry.Admissible now session
  · obtain ⟨rest, shrinks, -, -, -, same⟩ := register_admitted registry now wall moment session
      admissible
    rw [same] at found
    have changes := (changes_put rest session.messageId (registry.newEntry now wall session)).shrinks
      (shrinks_persist _ now moment)
    rcases changes other entry found with ⟨-, new⟩ | ⟨-, earlier⟩
    · exact .inr new
    · exact .inl (shrinks other entry earlier)
  · exact .inl ((shrinks_of_refused registry now wall moment session admissible).1 other entry found)

theorem displaces_register (registry : CardRegistry) (now wall : Int) (moment : Moment)
    (session : CardSession) :
    registry.Displaces now moment session (registry.register now wall moment session).2 := by
  by_cases admissible : registry.Admissible now session
  · obtain ⟨rest, shrinks, keeps, -, -, same⟩ := register_admitted registry now wall moment session
      admissible
    have changes := (changes_put rest session.messageId (registry.newEntry now wall session)).shrinks
      (shrinks_persist _ now moment)
    rw [same]
    refine ⟨?_, ?_, fun _ _ _ => admissible.free⟩
    · exact ((keeps.trans (keeps_put (admissible.free.shrinks shrinks) _)).later
        (lapse_le now moment)).trans (keeps_persist _ now moment)
    · intro other entry different found
      rcases changes other entry found with ⟨equal, -⟩ | ⟨-, earlier⟩
      · exact absurd equal different
      · exact shrinks other entry earlier
  · obtain ⟨shrinks, keeps⟩ := shrinks_of_refused registry now wall moment session admissible
    refine ⟨keeps.later (lapse_le now moment), fun other entry _ found => shrinks other entry found, ?_⟩
    intro entry found fresh
    exact absurd (shrinks session.messageId entry found) fresh

private theorem size_register_le (registry : CardRegistry) (now wall : Int) (moment : Moment)
    (session : CardSession) (fits : registry.entries.size ≤ registry.maxSessions) :
    (registry.register now wall moment session).2.entries.size ≤ registry.maxSessions := by
  by_cases admissible : registry.Admissible now session
  · obtain ⟨rest, -, -, room, settings, same⟩ := register_admitted registry now wall moment session
      admissible
    rw [same, ← settings.maxSessions]
    exact (shrinks_persist _ now moment).size_le.trans (size_put_le room _ _)
  · have shrinks := (shrinks_of_refused registry now wall moment session admissible).1
    exact shrinks.size_le.trans fits

theorem persist_failed {error : PyError} (raised : (registry.persist now moment).1 = .error error) :
    registry.persistence.isSome ∧ moment.failure.isSome ∧
      (registry.persist now moment).2 = registry.prune (now + moment.lapse) := by
  unfold persist at raised ⊢
  split at raised
  · cases raised
  · rename_i stored
    dsimp only at raised ⊢
    split at raised
    · rename_i failure
      exact ⟨by rw [stored]; rfl, by rw [failure]; rfl, rfl⟩
    · cases raised

theorem persist_fails (attached : registry.persistence.isSome) (failed : moment.failure.isSome)
    (now : Int) : ∃ error, registry.persist now moment =
      (.error error, registry.prune (now + moment.lapse)) := by
  obtain ⟨records, stored⟩ := Option.isSome_iff_exists.mp attached
  obtain ⟨error, failure⟩ := Option.isSome_iff_exists.mp failed
  refine ⟨error, ?_⟩
  unfold persist
  rw [stored, failure]

/-- A registration that raises leaves nothing behind exactly when the store did not fail
behind one that was admitted. -/
theorem registersNothing_iff (registry : CardRegistry) (now wall : Int) (moment : Moment)
    (session : CardSession) :
    registry.RegistersNothing (registry.register now wall moment session).1
      (registry.register now wall moment session).2 ↔
        ¬ registry.FailsBehind now moment session := by
  constructor
  · intro nothing behind
    obtain ⟨rest, -, -, -, settings, same⟩ := register_admitted registry now wall moment session
      behind.admissible
    have attached : (rest.put session.messageId
        (registry.newEntry now wall session)).persistence.isSome := by
      rw [(settings.trans (settings_put rest _ _)).attached]
      exact behind.attached
    obtain ⟨error, wrote⟩ := persist_fails attached behind.failed now
    rw [same, wrote] at nothing
    have live : now + moment.lapse < now + registry.ttlSeconds := by
      have short := behind.live
      omega
    have left : ((rest.put session.messageId (registry.newEntry now wall session)).prune
        (now + moment.lapse)).entries.get? session.messageId =
          some (registry.newEntry now wall session) := by
      rw [get?_prune, put, Dict.get?_set_self]
      simp [newEntry, live]
    have old := nothing error rfl session.messageId _ left
    have started : now < (registry.newEntry now wall session).expiresAt := by
      show now < now + registry.ttlSeconds
      omega
    cases behind.admissible.free _ old started
  · intro sound error raised
    by_cases admissible : registry.Admissible now session
    · obtain ⟨rest, shrinks, -, -, settings, same⟩ := register_admitted registry now wall moment
        session admissible
      rw [same] at raised ⊢
      obtain ⟨attached, failed, pruned⟩ := persist_failed raised
      have kept := (settings.trans (settings_put rest session.messageId
        (registry.newEntry now wall session))).attached
      have expired : registry.ttlSeconds ≤ moment.lapse := by
        by_contra live
        exact sound ⟨admissible, kept ▸ attached, failed, Int.not_le.mp live⟩
      rw [pruned]
      intro messageId entry found
      rw [get?_prune] at found
      obtain ⟨stored, live⟩ := Option.filter_eq_some_iff.mp found
      rw [decide_eq_true_eq] at live
      rcases changes_put rest session.messageId _ messageId entry stored with
        ⟨-, new⟩ | ⟨-, earlier⟩
      · subst new
        have ended : (registry.newEntry now wall session).expiresAt = now + registry.ttlSeconds := rfl
        omega
      · exact shrinks messageId entry earlier
    · exact (shrinks_of_refused registry now wall moment session admissible).1

end CardRegistry

/-- A registry with the monotonic and the wall clock. -/
structure CardShelf where
  registry : CardRegistry
  now : Int
  wall : Int

/-- Whole calls, the passing of time, and settings of the wall clock. -/
inductive ShelfEvent where
  | register (session : CardSession) (moment : Moment)
  | claim (messageId : PyStr) (eventId : Int) (moment : Moment)
  | claimEdit (args : EditArgs) (moment : Moment)
  | nextCardSeq (messageId : PyStr) (moment : Moment)
  | release (messageId : PyStr) (eventId : Int) (moment : Moment)
  | complete (messageId : PyStr) (eventId : Int) (moment : Moment)
  | discard (messageId : PyStr) (moment : Moment)
  | restore (loaded : Except PyError (List CardRecord))
  | tick (lapse : Nat)
  | setWall (wall : Int)

namespace CardShelf

variable (shelf : CardShelf)

/-- The clock after a call, and what the call left. -/
def put (moment : Moment) (registry : CardRegistry) : CardShelf :=
  { shelf with registry, now := shelf.now + moment.lapse }

def persisted (moment : Moment) (registry : CardRegistry) : CardShelf :=
  shelf.put moment (registry.persist shelf.now moment).2

end CardShelf

def shelfStep (shelf : CardShelf) : ShelfEvent → CardShelf
  | .register session moment =>
    shelf.put moment (shelf.registry.register shelf.now shelf.wall moment session).2
  | .claim messageId eventId moment =>
    shelf.put moment (shelf.registry.claim shelf.now moment messageId eventId).2
  | .claimEdit args moment => shelf.put moment (shelf.registry.claimEdit shelf.now moment args).2
  | .nextCardSeq messageId moment =>
    shelf.put moment (shelf.registry.nextCardSeq shelf.now moment messageId).2
  | .release messageId eventId moment =>
    shelf.persisted moment (shelf.registry.release shelf.now messageId eventId)
  | .complete messageId eventId moment =>
    shelf.persisted moment (shelf.registry.complete shelf.now messageId eventId)
  | .discard messageId moment =>
    shelf.put moment (shelf.registry.discard shelf.now moment messageId).2
  | .restore loaded => { shelf with registry := shelf.registry.restore shelf.wall shelf.now loaded }
  | .tick lapse => { shelf with now := shelf.now + lapse, wall := shelf.wall + lapse }
  | .setWall wall => { shelf with wall }

/-- A new registry, with whatever its store holds. -/
def emptyShelf (maxSessions : Nat) (ttlSeconds : Int) (maxDispatchAttempts : Nat)
    (persistence : Option (List CardRecord)) (now wall : Int) : CardShelf :=
  ⟨.new maxSessions ttlSeconds maxDispatchAttempts persistence, now, wall⟩

def shelfMachine (start : CardShelf) : Machine CardShelf ShelfEvent := ⟨start, shelfStep⟩

/-- Every call of the registry preserves what its parts preserve. -/
theorem CardRegistry.Inclusive.shelfStep {Property : CardRegistry → Prop}
    {Entry : PyStr → CardEntry → Prop} (inclusive : Inclusive Property Entry) {shelf : CardShelf}
    (holds : Property shelf.registry)
    (restored : ∀ (record : CardRecord) (wall now : Int) (entry : CardEntry),
      record.toEntry wall now = some entry → Entry entry.session.messageId entry)
    (event : ShelfEvent) : Property (Cards.shelfStep shelf event).registry := by
  cases event with
  | register session moment => exact inclusive.register holds _ _ moment session
  | claim messageId eventId moment => exact inclusive.claim holds _ moment messageId eventId
  | claimEdit args moment => exact inclusive.claimEdit holds _ moment args
  | nextCardSeq messageId moment => exact inclusive.nextCardSeq holds _ moment messageId
  | release messageId eventId moment =>
    exact inclusive.persist (inclusive.release holds _ messageId eventId) _ moment
  | complete messageId eventId moment =>
    exact inclusive.persist (inclusive.complete holds _ messageId eventId) _ moment
  | discard messageId moment => exact inclusive.persist (inclusive.drop holds messageId) _ moment
  | restore loaded =>
    exact inclusive.restore holds fun record entry read => restored record _ _ entry read
  | tick lapse => exact holds
  | setWall wall => exact holds

open CardRegistry in
theorem size_shelfStep_le (shelf : CardShelf) (event : ShelfEvent)
    (fits : shelf.registry.entries.size ≤ shelf.registry.maxSessions) :
    (shelfStep shelf event).registry.entries.size ≤ shelf.registry.maxSessions := by
  have written : ∀ moment {registry : CardRegistry},
      registry.entries.size ≤ shelf.registry.entries.size →
        (shelf.persisted moment registry).registry.entries.size ≤ shelf.registry.maxSessions :=
    fun moment registry smaller =>
      (shrinks_persist registry shelf.now moment).size_le.trans (smaller.trans fits)
  cases event with
  | register session moment => exact size_register_le _ _ _ _ _ fits
  | claim messageId eventId moment => exact (size_claim_le _ _ _ _ _).trans fits
  | claimEdit args moment => exact (size_claimEdit_le _ _ _ _).trans fits
  | nextCardSeq messageId moment => exact (size_nextCardSeq_le _ _ _ _).trans fits
  | release messageId eventId moment => exact written moment (size_release_le _ _ _ _)
  | complete messageId eventId moment => exact written moment (size_complete_le _ _ _ _)
  | discard messageId moment => exact written moment (shrinks_drop _ _).size_le
  | restore loaded => exact size_restore_le _ _ _ _ fits
  | tick lapse => exact fits
  | setWall wall => exact fits

/-- Every registration of the run that raises has registered nothing. -/
def RegistrationsAtomic (start : CardShelf) (events : List ShelfEvent) : Prop :=
  ∀ done session moment later, events = done ++ .register session moment :: later →
    let shelf := (shelfMachine start).run done
    let outcome := shelf.registry.register shelf.now shelf.wall moment session
    shelf.registry.RegistersNothing outcome.1 outcome.2

/-- The step is not a registration that was admitted and then fails at the store. -/
def StoreHolds (shelf : CardShelf) (event : ShelfEvent) : Prop :=
  ∀ session moment, event = .register session moment →
    ¬ shelf.registry.FailsBehind shelf.now moment session

/-- The registry stays within its bound, no registration displaces a live card that has not
completed, and the registrations that raise leave nothing behind exactly in the runs whose
store fails behind none of them. -/
theorem capacity_and_atomic_register (maxSessions : Nat) (ttlSeconds : Int)
    (maxDispatchAttempts : Nat) (persistence : Option (List CardRecord)) (now wall : Int)
    (events : List ShelfEvent) :
    let start := emptyShelf maxSessions ttlSeconds maxDispatchAttempts persistence now wall
    ((shelfMachine start).run events).registry.entries.size ≤ max 1 maxSessions ∧
      (∀ done session moment later, events = done ++ .register session moment :: later →
        let shelf := (shelfMachine start).run done
        shelf.registry.Displaces shelf.now moment session
          (shelf.registry.register shelf.now shelf.wall moment session).2) ∧
      (RegistrationsAtomic start events ↔ (shelfMachine start).Along StoreHolds events) := by
  intro start
  refine ⟨?_, ?_, ?_⟩
  · have bounded : ((shelfMachine start).run events).registry.maxSessions = max 1 maxSessions ∧
        ((shelfMachine start).run events).registry.entries.size ≤ max 1 maxSessions := by
      apply @Machine.invariant_of_steps _ _ (shelfMachine start) fun shelf =>
        shelf.registry.maxSessions = max 1 maxSessions ∧
          shelf.registry.entries.size ≤ max 1 maxSessions
      · exact ⟨rfl, Nat.zero_le _⟩
      · rintro shelf event ⟨bound, fits⟩
        rw [← bound] at fits ⊢
        have settings := (CardRegistry.inclusive_settings shelf.registry).shelfStep (.refl _)
          (fun _ _ _ _ _ => trivial) event
        exact ⟨settings.maxSessions, size_shelfStep_le shelf event fits⟩
    exact bounded.2
  · intro done session moment later _
    exact CardRegistry.displaces_register _ _ _ _ _
  · constructor
    · intro atomic done event later split session moment register
      subst register
      exact (CardRegistry.registersNothing_iff _ _ _ _ _).mp (atomic done session moment later split)
    · intro holds done session moment later split
      exact (CardRegistry.registersNothing_iff _ _ _ _ _).mpr
        (holds done _ later split session moment rfl)

/-- A card whose registration raised at the store is claimed by the next press. -/
theorem register_fails_and_claims :
    let session : CardSession := ⟨py "m", py "b", py "k", py "c", py "c", .DM, py "u", .null, [], [],
      [], [], none, none, none, py "interactive"⟩
    let start := emptyShelf 4 100 3 (some []) 0 0
    let outcome := start.registry.register 0 0 ⟨0, some .osError⟩ session
    ¬ RegistrationsAtomic start [.register session ⟨0, some .osError⟩] ∧
      outcome.1 = .error .osError ∧
      (outcome.2.claim 1 ⟨0, none⟩ (py "m") 7).1 = .ok ⟨.claimed, some session, 1⟩ := by
  refine ⟨fun atomic => ?_, rfl, rfl⟩
  have nothing := atomic [] _ _ [] rfl .osError rfl (py "m") _ (by rfl)
  cases nothing

end OctoChannel.Cards

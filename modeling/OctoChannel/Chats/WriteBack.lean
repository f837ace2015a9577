import OctoChannel.Chats.Scheduling

/-! GROUP.md and THREAD.md against their events: what a fetch that was overtaken still
writes, and what a key holds behind the last event, eviction or tool update of its group. -/

namespace OctoChannel.Chats

open Foundation Identity Caches

variable {Names : Type} {caches after before : Caches Names} {runtime : Runtime Names}

/-- Where the text of a key is kept. -/
inductive Store where
  | memory
  | disk
  deriving DecidableEq

/-- The text of a key. -/
def Store.text (store : Store) (caches : Caches Names) (key : PyStr) : Option PyStr :=
  match store with
  | .memory => (caches.groupMdCache.get? key).map MdEntry.content
  | .disk => (caches.mdFiles.get? key).map MdEntry.content

variable (store : Store) (key : PyStr)

theorem SameMd.text (same : SameMd after before) : store.text after key = store.text before key := by
  cases store with
  | memory => exact congrArg (fun texts => (texts.get? key).map MdEntry.content) same.texts
  | disk => exact congrArg (fun files => (files.get? key).map MdEntry.content) same.files

/-- Where texts are only dropped, a key has the text it had, or none. -/
theorem text_of_sub (texts : after.groupMdCache.Sub before.groupMdCache)
    (files : after.mdFiles.Sub before.mdFiles) :
    store.text after key = store.text before key ∨ store.text after key = none := by
  cases store with
  | memory =>
    rcases texts.same_or_none key with same | gone
    · exact .inl (congrArg (Option.map MdEntry.content) same)
    · exact .inr (congrArg (Option.map MdEntry.content) gone)
  | disk =>
    rcases files.same_or_none key with same | gone
    · exact .inl (congrArg (Option.map MdEntry.content) same)
    · exact .inr (congrArg (Option.map MdEntry.content) gone)

theorem memory_storeMd (caches : Caches Names) (written : PyStr) (entry : MdEntry)
    (write : MdWrite) :
    Store.memory.text (caches.storeMd written entry write) key =
      if written = key then some entry.content else Store.memory.text caches key := by
  have stored : (caches.storeMd written entry write).groupMdCache =
      caches.groupMdCache.set written entry := by
    cases write <;> rfl
  rw [Store.text, stored, Dict.get?_set]
  split <;> rfl

/-- A text that is stored reaches its own key only, and the disk perhaps not. -/
theorem text_storeMd (caches : Caches Names) (written : PyStr) (entry : MdEntry)
    (write : MdWrite) :
    store.text (caches.storeMd written entry write) key = store.text caches key ∨
      written = key ∧ store.text (caches.storeMd written entry write) key = some entry.content := by
  cases store with
  | memory =>
    rw [memory_storeMd]
    by_cases own : written = key
    · exact .inr ⟨own, if_pos own⟩
    · exact .inl (if_neg own)
  | disk =>
    have replaced : ∀ version, (((caches.mdFiles.set written ⟨entry.content, version⟩).get?
        key).map MdEntry.content = (caches.mdFiles.get? key).map MdEntry.content) ∨
        written = key ∧ ((caches.mdFiles.set written ⟨entry.content, version⟩).get?
          key).map MdEntry.content = some entry.content := by
      intro version
      rw [Dict.get?_set]
      by_cases own : written = key
      · exact .inr ⟨own, by rw [if_pos own, Option.map_some]⟩
      · exact .inl (by rw [if_neg own])
    cases write with
    | whole => exact replaced entry.version
    | contentOnly => exact replaced _
    | refused => exact .inl rfl

theorem text_toolUpdate (caches : Caches Names) (written : PyStr) (entry : MdEntry) (write : MdWrite) :
    store.text (caches.toolUpdate written entry write) key =
      store.text (caches.storeMd written entry write) key := by
  cases store <;> cases write <;> rfl

theorem text_sweepChannel (channelId : PyStr) :
    (caches.sweepChannel channelId).groupMdCache.Sub caches.groupMdCache ∧
      (caches.sweepChannel channelId).mdFiles = caches.mdFiles := by
  unfold sweepChannel
  dsimp only
  split <;> exact ⟨Dict.erase_sub _ channelId, rfl⟩

private theorem text_cleanupCaches (cutoff : Int) :
    store.text (caches.cleanupCaches cutoff) key = store.text caches key ∨
      store.text (caches.cleanupCaches cutoff) key = none := by
  apply text_of_sub
  · exact Dict.Sub.foldl groupMdCache (fun _ channelId => (text_sweepChannel channelId).1) _ caches
  · exact Dict.Sub.foldl mdFiles (fun _ channelId => .of_eq (text_sweepChannel channelId).2) _ caches

private theorem text_handleGroupMdEvent (channelId : PyStr) (deleted : Bool)
    (refused : PyStr → Bool) :
    store.text (caches.handleGroupMdEvent channelId deleted refused) key = store.text caches key ∨
      store.text (caches.handleGroupMdEvent channelId deleted refused) key = none := by
  apply text_of_sub
  · unfold handleGroupMdEvent
    dsimp only
    split
    · exact Dict.erase_sub _ channelId
    · exact .refl _
  · unfold handleGroupMdEvent
    dsimp only
    split
    · exact Dict.filterKeys_sub _ _
    · exact .refl _

theorem texts_evictGroupScope (groupNo : PyStr) (refused : PyStr → Bool) :
    (caches.evictGroupScope groupNo refused).groupMdCache.Sub caches.groupMdCache :=
  Dict.filterKeys_sub _ _

theorem files_evictGroupScope (groupNo : PyStr) (refused : PyStr → Bool) :
    (caches.evictGroupScope groupNo refused).mdFiles.Sub caches.mdFiles :=
  Dict.filterKeys_sub _ _

private theorem text_prefetchEnds (generations : Dict PyStr Nat) (answer : GroupsAnswer) (now : Int)
    (refused : PyStr → Bool) :
    store.text (caches.prefetchEnds generations answer now refused) key = store.text caches key ∨
      store.text (caches.prefetchEnds generations answer now refused) key = none := by
  unfold Caches.prefetchEnds
  split
  · exact .inl rfl
  · rename_i groups
    split
    · exact .inl rfl
    · rw [(sameScopes_indexGroups _ generations now groups).text]
      apply text_of_sub
      · exact Dict.Sub.foldl groupMdCache (fun _ groupNo => texts_evictGroupScope groupNo refused)
          _ caches
      · exact Dict.Sub.foldl mdFiles (fun _ groupNo => files_evictGroupScope groupNo refused)
          _ caches

/-- An answer without content leaves the text, or drops it. -/
private theorem text_ensureMdEnds (written groupNo : PyStr) (generation : Nat) (answer : MdAnswer)
    (write : MdWrite) :
    store.text (caches.ensureMdEnds written groupNo generation answer write) key =
        store.text caches key ∨
      generation = caches.groupScopeGeneration groupNo ∧ written = key ∧
        ∃ entry, answer.content? = some entry ∧
          store.text (caches.ensureMdEnds written groupNo generation answer write) key =
            some entry.content := by
  unfold ensureMdEnds
  split
  · exact .inl rfl
  · rename_i current
    cases answer with
    | failed => exact .inl rfl
    | found entry =>
      dsimp only
      have unchecked : ∀ checked, store.text { caches with groupMdChecked := checked } key =
          store.text caches key := by
        intro checked
        cases store <;> rfl
      split
      · exact .inl (unchecked _)
      · rename_i entry content
        have stored := text_storeMd store key { caches with
          groupMdChecked := insert written caches.groupMdChecked } written entry write
        rcases stored with same | ⟨own, brought⟩
        · exact .inl (same.trans (unchecked _))
        · exact .inr ⟨Classical.not_not.mp current, own, entry, content, brought⟩

private theorem text_refreshMdEnds (channelId parent : PyStr) (generation : Nat) (answer : MdAnswer)
    (write : MdWrite) (refused : PyStr → Bool) :
    let ended := caches.refreshMdEnds channelId parent generation answer write refused
    store.text ended key = store.text caches key ∨ store.text ended key = none ∨
      generation = caches.groupScopeGeneration parent ∧ channelId = key ∧
        ∃ entry, answer.content? = some entry ∧ store.text ended key = some entry.content := by
  intro ended
  unfold ended refreshMdEnds
  split
  · exact .inl rfl
  · rename_i current
    cases answer with
    | failed => exact .inl rfl
    | found entry =>
      dsimp only
      split
      · rename_i entry content
        rcases text_storeMd store key caches channelId entry write with same | ⟨own, brought⟩
        · exact .inl same
        · exact .inr (.inr ⟨Classical.not_not.mp current, own, entry, content, brought⟩)
      · rw [← or_assoc]
        left
        apply text_of_sub
        · exact Dict.erase_sub caches.groupMdCache channelId
        · exact Dict.filterKeys_sub caches.mdFiles _

/-- The key and the entry that a tool update writes. -/
def Event.tool? : Event → Option (PyStr × MdEntry)
  | .groupMdUpdate groupId entry _ => some (groupId, entry)
  | .threadMdUpdate groupId shortId entry _ => some (threadKey groupId shortId, entry)
  | _ => none

/-- The key that an MD request is about. -/
def Task.mdKey? : Task → Option PyStr
  | .ensureMd key _ _ => some key
  | .refreshMd channelId _ _ => some channelId
  | _ => none

namespace System

variable (system : System Names)

/-- A fetch comes back with content for a key, and its generation has not moved. -/
def Takes (event : Event) (id : Nat) (key : PyStr) (entry : MdEntry) : Prop :=
  ∃ answer write refused task group generation, event = .mdEnds id answer write refused ∧
    answer.content? = some entry ∧ system.task? id = some task ∧ task.mdKey? = some key ∧
    task.sampled? = some (group, generation) ∧
    generation = system.caches.groupScopeGeneration group

/-- Behind an event a key has the text it had, none, that of a tool or that of a fetch. -/
private theorem text_step (runtime : Runtime Names) (event : Event) :
    let ended := (system.step runtime event).caches
    store.text ended key = store.text system.caches key ∨ store.text ended key = none ∨
      (∃ entry, event.tool? = some (key, entry) ∧ store.text ended key = some entry.content) ∨
      ∃ id entry, system.Takes event id key entry ∧ store.text ended key = some entry.content := by
  have move := step_caches runtime system event
  generalize (system.step runtime event).caches = ended at move
  cases move with
  | kept unmarked => exact .inl rfl
  | recorded frame now => exact .inl ((sameScopes_recordFrame _ _ frame now).text store key)
  | passed id session frame now =>
    exact .inl ((sameScopes_throughGate _ _ frame now).text store key)
  | answered id fetch answer now =>
    exact .inl ((sameMd_rosterEnds system.caches runtime fetch answer).text store key)
  | answeredFrame id fetch frame answer now =>
    have ended := (sameMd_rosterEnds system.caches runtime fetch answer).text store key
    exact .inl (((sameScopes_throughGate _ _ frame now).text store key).trans ended)
  | handled channelId deleted session refused =>
    rcases text_handleGroupMdEvent store key channelId deleted refused with kept | gone
    · exact .inl kept
    · exact .inr (.inl gone)
  | @ensured id written groupNo generation found answer write refused =>
    rcases text_ensureMdEnds store key written groupNo generation answer write with
      same | ⟨current, own, entry, content, brought⟩
    · exact .inl same
    · subst own
      exact .inr (.inr (.inr ⟨id, entry, ⟨answer, write, refused, _, _, _, rfl, content, found,
        rfl, rfl, current⟩, brought⟩))
  | @refreshed id channelId parent generation found answer write refused =>
    rcases text_refreshMdEnds store key channelId parent generation answer write refused with
      same | gone | ⟨current, own, entry, content, brought⟩
    · exact .inl same
    · exact .inr (.inl gone)
    · subst own
      exact .inr (.inr (.inr ⟨id, entry, ⟨answer, write, refused, _, _, _, rfl, content, found,
        rfl, rfl, current⟩, brought⟩))
  | evicted groupNo refused =>
    rcases text_of_sub store key (texts_evictGroupScope groupNo refused)
        (files_evictGroupScope groupNo refused) with kept | gone
    · exact .inl kept
    · exact .inr (.inl gone)
  | swept cutoff =>
    rcases text_cleanupCaches store key cutoff with kept | gone
    · exact .inl kept
    · exact .inr (.inl gone)
  | groupUpdated groupId entry write =>
    have stored := text_toolUpdate store key system.caches groupId entry write
    rcases text_storeMd store key system.caches groupId entry write with same | ⟨own, written⟩
    · exact .inl (stored.trans same)
    · subst own
      exact .inr (.inr (.inl ⟨entry, rfl, stored.trans written⟩))
  | threadUpdated groupId shortId entry write =>
    have stored := text_toolUpdate store key system.caches (threadKey groupId shortId) entry write
    rcases text_storeMd store key system.caches (threadKey groupId shortId) entry write with
      same | ⟨own, written⟩
    · exact .inl (stored.trans same)
    · subst own
      exact .inr (.inr (.inl ⟨entry, rfl, stored.trans written⟩))
  | @prefetched id generations found answer now refused =>
    rcases text_prefetchEnds store key generations answer now refused with kept | gone
    · exact .inl kept
    · exact .inr (.inl gone)

/-- The fetches of a group that were issued before an id have sampled a generation that
the group has left behind. -/
structure Overtaken (system : System Names) (group : PyStr) (issued : Nat) : Prop where
  sound : system.Sound
  ids : issued ≤ system.nextId
  moved : ∀ id task generation, (id, task) ∈ system.tasks → id < issued →
    task.sampled? = some (group, generation) →
    generation < system.caches.groupScopeGeneration group

variable {system} {group : PyStr} {issued : Nat}

/-- An event or eviction of a group overtakes every fetch that waits. -/
theorem Sound.overtaken (sound : system.Sound) {mark : Event} (marks : system.Marks mark group) :
    (system.step runtime mark).Overtaken group system.nextId where
  sound := sound.step mark
  ids := nextId_step sound mark
  moved id task generation waits earlier sampled := by
    rcases mem_step_tasks sound mark waits with old | ⟨fresh, _⟩
    · exact Nat.lt_of_le_of_lt (sound.sampled id task group generation old sampled)
        ((generation_step mark group).2 marks)
    · omega

theorem Overtaken.step (overtaken : system.Overtaken group issued) (event : Event) :
    (system.step runtime event).Overtaken group issued where
  sound := overtaken.sound.step event
  ids := Nat.le_trans overtaken.ids (nextId_step overtaken.sound event)
  moved id task generation waits earlier sampled := by
    have before := overtaken.ids
    rcases mem_step_tasks overtaken.sound event waits with old | ⟨fresh, _⟩
    · exact Nat.lt_of_lt_of_le (overtaken.moved id task generation old earlier sampled)
        (generation_step event group).1
    · omega

theorem Overtaken.run (overtaken : system.Overtaken group issued) (runtime : Runtime Names)
    (events : List Event) :
    (system.run runtime events).Overtaken group issued := by
  induction events generalizing system with
  | nil => exact overtaken
  | cons event rest ih => exact ih (overtaken.step event)

/-- What fetches bring: texts, their files and the members of a group. -/
structure SameKnowledge (after before : Caches Names) : Prop where
  texts : after.groupMdCache = before.groupMdCache
  checked : after.groupMdChecked = before.groupMdChecked
  files : after.mdFiles = before.mdFiles
  rosters : after.groupMemberRosters = before.groupMemberRosters
  flags : after.groupRobotMap = before.groupRobotMap
  timestamps : after.groupCacheTimestamps = before.groupCacheTimestamps
  index : after.userGroupIndex = before.userGroupIndex
  names : after.names = before.names

theorem SameKnowledge.refl (caches : Caches Names) : SameKnowledge caches caches where
  texts := rfl
  checked := rfl
  files := rfl
  rosters := rfl
  flags := rfl
  timestamps := rfl
  index := rfl
  names := rfl

private theorem sameKnowledge_throughGate (caches : Caches Names) (settings : Settings)
    (frame : Frame)
    (now : Int) : SameKnowledge (caches.throughGate settings frame now) caches := by
  unfold throughGate
  split
  · exact ⟨rfl, rfl, rfl, rfl, rfl, rfl, rfl, rfl⟩
  · exact .refl caches
  · exact .refl caches

/-- The request that an event answers. -/
def answers? : Event → Option Nat
  | .rosterEnds id _ _ => some id
  | .mdEnds id _ _ _ => some id
  | _ => none

/-- The answer to an overtaken fetch is thrown away. -/
private theorem Overtaken.sameKnowledge (overtaken : system.Overtaken group issued) {ending : Event}
    {id : Nat} (answers : answers? ending = some id) (earlier : id < issued) {task : Task}
    {generation : Nat} (found : system.task? id = some task)
    (sampled : task.sampled? = some (group, generation)) :
    SameKnowledge (system.step runtime ending).caches system.caches := by
  have moved := overtaken.moved id task generation (mem_of_task? found) earlier sampled
  cases ending with
  | rosterEnds other answer now =>
    cases answers
    unfold System.step
    dsimp only
    rw [found]
    cases task with
    | roster fetch =>
      cases sampled
      have thrown : system.caches.rosterEnds runtime fetch answer = system.caches :=
        if_pos (Nat.ne_of_lt moved)
      dsimp only
      rw [thrown]
      split
      · exact .refl _
      · exact sameKnowledge_throughGate _ _ _ now
    | _ => exact .refl _
  | mdEnds other answer write refused =>
    cases answers
    unfold System.step
    dsimp only
    rw [found]
    cases task with
    | ensureMd key groupNo sample =>
      cases sampled
      have thrown : system.caches.ensureMdEnds key group generation answer write = system.caches :=
        if_pos (Nat.ne_of_lt moved)
      dsimp only
      rw [thrown]
      exact .refl _
    | refreshMd channelId parent sample =>
      cases sampled
      have thrown : system.caches.refreshMdEnds channelId group generation answer write refused =
          system.caches := if_pos (Nat.ne_of_lt moved)
      dsimp only
      rw [thrown]
      exact .refl _
    | _ => exact .refl _
  | _ => cases answers

/-- What stands in memory for a key behind a mark of its group. -/
def leaves (system : System Names) (mark : Event) (key : PyStr) : Option PyStr :=
  match mark with
  | .groupMdUpdate groupId entry _ =>
    if groupId = key then some entry.content else Store.memory.text system.caches key
  | .threadMdUpdate groupId shortId entry _ =>
    if threadKey groupId shortId = key then some entry.content
    else Store.memory.text system.caches key
  | .mdEvent channelId deleted _ _ =>
    if deleted = true ∧ channelId = key then none else Store.memory.text system.caches key
  | .evict _ _ => none
  | .prefetchEnds _ _ _ _ => none
  | _ => Store.memory.text system.caches key

/-- An event or eviction of the group, or a tool update of one of its keys. -/
def Touches (system : System Names) (event : Event) (group : PyStr) : Prop :=
  system.Marks event group ∨
    ∃ key entry, event.tool? = some (key, entry) ∧ parentGroupNo key = group

/-- The events, taken from the system on, touch the group no more. -/
def Quiet (runtime : Runtime Names) (left : System Names) (events : List Event) (group : PyStr) :
    Prop :=
  ∀ done event later, events = done ++ event :: later →
    ¬ (left.run runtime done).Touches event group

/-- No fetch issued before the id brings content for the key. -/
def OnlyLater (runtime : Runtime Names) (left : System Names) (events : List Event) (key : PyStr)
    (issued : Nat) : Prop :=
  ∀ done event later id entry, events = done ++ event :: later →
    (left.run runtime done).Takes event id key entry → issued ≤ id

/-- Behind the events a key has the text that was kept, none, or that of a fetch issued
since. -/
def Settled (runtime : Runtime Names) (left : System Names) (events : List Event) (store : Store)
    (key : PyStr) (issued : Nat) (kept : Option PyStr) : Prop :=
  let ended := store.text (left.run runtime events).caches key
  ended = kept ∨ ended = none ∨ ∃ done event later id entry, events = done ++ event :: later ∧
    issued ≤ id ∧ (left.run runtime done).Takes event id key entry ∧ ended = some entry.content

theorem run_append (events : List Event) (event : Event) :
    system.run runtime (events ++ [event]) = (system.run runtime events).step runtime event := by
  rw [System.run, List.foldl_append]
  rfl

theorem Quiet.front {left : System Names} {done later : List Event}
    (quiet : Quiet runtime left (done ++ later) group) : Quiet runtime left done group := by
  intro earlier event between split
  exact quiet earlier event (between ++ later) (by rw [split, List.append_assoc, List.cons_append])

theorem OnlyLater.front {left : System Names} {done later : List Event}
    (only : OnlyLater runtime left (done ++ later) key issued) :
    OnlyLater runtime left done key issued := by
  intro earlier event between id entry split
  exact only earlier event (between ++ later) id entry
    (by rw [split, List.append_assoc, List.cons_append])

private theorem Settled.weaken {left : System Names} {done : List Event} {event : Event}
    {kept : Option PyStr} (settled : Settled runtime left done store key issued kept)
    (same : store.text (left.run runtime (done ++ [event])).caches key =
      store.text (left.run runtime done).caches key) :
    Settled runtime left (done ++ [event]) store key issued kept := by
  unfold Settled
  rw [same]
  rcases settled with kept | gone | ⟨before, fetched, after, id, entry, split, later, takes, brought⟩
  · exact .inl kept
  · exact .inr (.inl gone)
  · refine .inr (.inr ⟨before, fetched, after ++ [event], id, entry, ?_, later, takes, brought⟩)
    rw [split, List.append_assoc, List.cons_append]

/-- While its group is touched no more, a key is settled. -/
theorem settled_run {left : System Names} {events : List Event}
    (quiet : Quiet runtime left events (parentGroupNo key))
    (only : OnlyLater runtime left events key issued) :
    Settled runtime left events store key issued (store.text left.caches key) := by
  induction events using List.reverseRecOn with
  | nil => exact .inl rfl
  | append_singleton done event ih =>
    have before := ih quiet.front only.front
    have changed := text_step store key (left.run runtime done) runtime event
    rw [← run_append] at changed
    rcases changed with same | gone | ⟨entry, tool, _⟩ | ⟨id, entry, takes, brought⟩
    · exact before.weaken store key same
    · exact .inr (.inl gone)
    · exact absurd (.inr ⟨key, entry, tool, rfl⟩) (quiet done event [] rfl)
    · exact .inr (.inr ⟨done, event, [], id, entry, rfl, only done event [] id entry rfl takes,
        takes, brought⟩)

/-- An overtaken fetch brings nothing. -/
private theorem Overtaken.onlyLater {left : System Names} {key : PyStr}
    (overtaken : left.Overtaken (parentGroupNo key) issued) (events : List Event) :
    OnlyLater runtime left events key issued := by
  intro done event later id entry _ takes
  by_contra earlier
  obtain ⟨answer, write, refused, task, group, generation, _, _, found, own, sampled, current⟩ :=
    takes
  have waits := mem_of_task? found
  have reached := overtaken.run runtime done
  have named := reached.sound.ownGroup id task waits
  have same : group = parentGroupNo key := by
    cases task with
    | ensureMd | refreshMd =>
      cases own
      cases sampled
      exact named.symm
    | _ => cases own
  subst same
  exact absurd current (Nat.ne_of_lt (reached.moved id task generation waits
    (Nat.lt_of_not_le earlier) sampled))

theorem memory_evictGroupScope {groupNo : PyStr} (own : parentGroupNo key = groupNo)
    (refused : PyStr → Bool) :
    Store.memory.text (caches.evictGroupScope groupNo refused) key = none := by
  subst own
  have kept := Dict.get?_filterKeys caches.groupMdCache (fun other =>
    !((caches.invalidateGroupScope (parentGroupNo key)).evictGroupMembershipCache
      (parentGroupNo key)).scopedKey (parentGroupNo key) other) key
  have gone : (caches.evictGroupScope (parentGroupNo key) refused).groupMdCache.get? key = none := by
    refine kept.trans ?_
    split
    · rename_i unscoped
      cases found : caches.groupMdCache.get? key with
      | none => rfl
      | some entry =>
        have here : ((caches.invalidateGroupScope (parentGroupNo key)).evictGroupMembershipCache
            (parentGroupNo key)).groupMdCache.get? key = some entry := found
        simp [scopedKey, inScope_parentGroupNo, here] at unscoped
    · rfl
  exact congrArg (Option.map MdEntry.content) gone

private theorem memory_evictions {groups : List PyStr} (listed : parentGroupNo key ∈ groups)
    (refused : PyStr → Bool) (caches : Caches Names) :
    Store.memory.text (groups.foldl (fun caches groupNo => caches.evictGroupScope groupNo refused)
      caches) key = none := by
  induction groups generalizing caches with
  | nil => cases listed
  | cons groupNo rest ih =>
    rcases List.mem_cons.mp listed with own | later
    · have gone : Store.memory.text (caches.evictGroupScope groupNo refused) key = none :=
        memory_evictGroupScope key own refused
      have fewer := Dict.Sub.foldl groupMdCache
        (fun _ groupNo => texts_evictGroupScope groupNo refused) rest
        (caches.evictGroupScope groupNo refused)
      rcases fewer.same_or_none key with same | none
      · exact (congrArg (Option.map MdEntry.content) same).trans gone
      · exact congrArg (Option.map MdEntry.content) none
    · exact ih later _

/-- What an event, an eviction or a tool update of the group leaves of a key in memory. -/
private theorem memory_mark {mark : Event} (touches : system.Touches mark (parentGroupNo key)) :
    Store.memory.text (system.step runtime mark).caches key = system.leaves mark key := by
  cases mark with
  | groupMdUpdate groupId entry write =>
    rw [step, caches_withCaches, text_toolUpdate, memory_storeMd, leaves]
  | threadMdUpdate groupId shortId entry write =>
    rw [step, caches_withCaches, text_toolUpdate, memory_storeMd, leaves]
  | mdEvent channelId deleted session refused =>
    have same : (system.step runtime (.mdEvent channelId deleted session refused)).caches =
        system.caches.handleGroupMdEvent channelId deleted refused := by
      unfold step
      dsimp only
      split <;> rfl
    rw [same, leaves]
    cases deleted with
    | false =>
      rw [if_neg (fun both => Bool.false_ne_true both.1)]
      rfl
    | true =>
      refine (congrArg (Option.map MdEntry.content) (Dict.get?_erase _ channelId key)).trans ?_
      by_cases own : channelId = key
      · rw [if_pos own, if_pos ⟨rfl, own⟩]
        rfl
      · rw [if_neg own, if_neg (fun both => own both.2)]
        rfl
  | evict groupNo refused =>
    rcases touches with own | ⟨_, _, tool, _⟩
    · exact memory_evictGroupScope key (Eq.symm own) refused
    · cases tool
  | prefetchEnds id answer now refused =>
    rcases touches with ⟨generations, found, evicts⟩ | ⟨_, _, tool, _⟩
    · unfold step leaves
      dsimp only
      rw [found]
      cases answer with
      | failed => cases evicts
      | groups groups =>
        dsimp only [caches_withCaches]
        unfold Caches.prefetchEnds
        dsimp only
        rw [if_neg evicts.1, (sameScopes_indexGroups _ generations now groups).text]
        exact memory_evictions key evicts.2 refused system.caches
    · cases tool
  | _ => rcases touches with none | ⟨_, _, none, _⟩ <;> cases none

/-- Behind the events every answer to a fetch of the group that was issued before the id is
thrown away. -/
def Discards (runtime : Runtime Names) (left : System Names) (events : List Event)
    (group : PyStr) (issued : Nat) : Prop :=
  let ended := left.run runtime events
  ∀ ending id task generation, answers? ending = some id → id < issued →
    ended.task? id = some task → task.sampled? = some (group, generation) →
    SameKnowledge (ended.step runtime ending).caches ended.caches

/-- A fetch issued before an event or eviction of its group writes nothing behind it. Behind
the last event, eviction or tool update of its group a key has the text that this left, the
text of a later fetch, or none; behind a tool update as long as only later fetches bring
content. -/
theorem staleFetches_discarded (runtime : Runtime Names) (names : Names)
    (mdFiles : Dict PyStr MdEntry) (before after : List Event) (mark : Event) :
    let reached := (start names mdFiles).run runtime before
    let left := reached.step runtime mark
    (∀ group, reached.Marks mark group → Discards runtime left after group reached.nextId) ∧
      ∀ key, reached.Touches mark (parentGroupNo key) →
        Quiet runtime left after (parentGroupNo key) →
        (mark.tool?.isSome → OnlyLater runtime left after key reached.nextId) →
        Settled runtime left after .memory key reached.nextId (reached.leaves mark key) ∧
          Settled runtime left after .disk key reached.nextId
            (Store.disk.text left.caches key) := by
  intro reached left
  have sound : reached.Sound := (Sound.start names mdFiles).run runtime before
  constructor
  · intro group marks ending id task generation answers earlier found sampled
    exact ((sound.overtaken marks).run runtime after).sameKnowledge answers earlier found sampled
  · intro key touches quiet tool
    have only : OnlyLater runtime left after key reached.nextId := by
      rcases touches with marks | ⟨written, entry, updated, _⟩
      · exact (sound.overtaken marks).onlyLater after
      · exact tool (by rw [updated, Option.isSome_some])
    constructor
    · rw [← memory_mark key touches]
      exact settled_run .memory key quiet only
    · exact settled_run .disk key quiet only

/-- A fetch of GROUP.md is under way. -/
def fetching : List Event := [.groupMdStarts (py "g") true]

/-- Its text comes back. -/
def fetched : Event := .mdEnds 0 (.found (some ⟨py "old", 1⟩)) .whole fun _ => false

def deletion : Event := .mdEvent (py "g") true true fun _ => false

theorem staleFetches_discarded_deletion :
    let reached := (start () .empty).run soleRuntime fetching
    let left := reached.step soleRuntime deletion
    SameKnowledge (left.step soleRuntime fetched).caches left.caches ∧
      Settled soleRuntime left [fetched] .memory (py "g") 1 none ∧
      Settled soleRuntime left [fetched] .disk (py "g") 1 none := by
  intro reached left
  have discarded := staleFetches_discarded soleRuntime () .empty fetching [] deletion
  have settled := staleFetches_discarded soleRuntime () .empty fetching [fetched] deletion
  refine ⟨discarded.1 (py "g") rfl fetched 0 (.ensureMd (py "g") (py "g") 0) 0 rfl (by decide) rfl rfl,
    settled.2 (py "g") (.inl rfl) ?_ nofun⟩
  intro done event later split touches
  cases done with
  | nil =>
    cases split
    rcases touches with none | ⟨_, _, none, _⟩ <;> cases none
  | cons first rest =>
    injection split with _ none
    exact absurd none.symm (by simp)

/-- An update event leaves the old text where it is, until it is fetched again. -/
theorem updateEvent_keepsText :
    let reached := (start () .empty).run soleRuntime (fetching ++ [fetched])
    let update := Event.mdEvent (py "g") false false fun _ => false
    reached.Marks update (py "g") ∧ update.tool? = none ∧
      ¬ Settled soleRuntime (reached.step soleRuntime update) [] .memory (py "g") reached.nextId
        none := by
  intro reached update
  refine ⟨rfl, rfl, ?_⟩
  intro settled
  rcases settled with none | none | ⟨done, event, later, _, _, split, _⟩
  · cases none
  · cases none
  · exact absurd split.symm (by simp)

end System

end OctoChannel.Chats

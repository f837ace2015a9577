import OctoChannel.Chats.Tasks
import OctoChannel.Chats.DirectMessages

namespace OctoChannel.Chats

open Foundation Identity Caches

variable {Names : Type} (caches : Caches Names) {after before : Caches Names}
  (runtime : Runtime Names)

/-- The generations, the texts and their files are as they were. -/
structure SameMd (after before : Caches Names) : Prop where
  generations : after.groupScopeGenerations = before.groupScopeGenerations
  texts : after.groupMdCache = before.groupMdCache
  files : after.mdFiles = before.mdFiles

/-- The generations and the robot flags are as they were. -/
structure SameFlags (after before : Caches Names) : Prop where
  generations : after.groupScopeGenerations = before.groupScopeGenerations
  flags : after.groupRobotMap = before.groupRobotMap

/-- Neither texts nor flags were written. -/
structure SameScopes (after before : Caches Names) : Prop extends
  SameMd after before, SameFlags after before

theorem SameScopes.refl : SameScopes caches caches where
  generations := rfl
  texts := rfl
  files := rfl
  flags := rfl

theorem SameScopes.trans {last middle first : Caches Names} (later : SameScopes last middle)
    (earlier : SameScopes middle first) : SameScopes last first where
  generations := later.generations.trans earlier.generations
  texts := later.texts.trans earlier.texts
  files := later.files.trans earlier.files
  flags := later.flags.trans earlier.flags

theorem sameScopes_touchCache (channelId : PyStr) (now : Int) :
    SameScopes (caches.touchCache channelId now) caches := by
  unfold touchCache
  split
  · exact .refl caches
  · exact ⟨⟨rfl, rfl, rfl⟩, rfl⟩

private theorem sameScopes_recordGroupFrame (channelId : PyStr) (kind : ChannelType) (now : Int) :
    SameScopes (caches.recordGroupFrame channelId kind now) caches := by
  have known : ∀ ids kinds, SameScopes
      { caches with knownGroupIds := ids, chatKind := kinds } caches :=
    fun ids kinds => ⟨⟨rfl, rfl, rfl⟩, rfl⟩
  unfold recordGroupFrame
  dsimp only
  split <;> split
  · exact (sameScopes_touchCache _ _ now).trans ((sameScopes_touchCache _ channelId now).trans
      (known _ _))
  · exact (sameScopes_touchCache _ _ now).trans ((sameScopes_touchCache _ channelId now).trans
      (known caches.knownGroupIds _))
  · exact (sameScopes_touchCache _ channelId now).trans (known _ _)
  · exact (sameScopes_touchCache _ channelId now).trans (known caches.knownGroupIds _)

theorem sameScopes_recordFrame (frame : Frame) (now : Int) :
    SameScopes (caches.recordFrame runtime frame now) caches := by
  unfold recordFrame
  split
  · exact sameScopes_recordGroupFrame caches frame.channelId _ now
  · split
    · exact .refl caches
    · exact (sameScopes_touchCache _ _ now).trans ⟨⟨rfl, rfl, rfl⟩, rfl⟩

theorem sameScopes_throughGate (settings : Settings) (frame : Frame) (now : Int) :
    SameScopes (caches.throughGate settings frame now) caches := by
  unfold throughGate
  split
  · exact ⟨⟨rfl, rfl, rfl⟩, rfl⟩
  · exact .refl caches
  · exact .refl caches

theorem sameScopes_indexGroup (generations : Dict PyStr Nat) (now : Int) (group : GroupInfo) :
    SameScopes (caches.indexGroup generations now group) caches := by
  unfold indexGroup
  split
  · exact .refl caches
  · have touched := sameScopes_touchCache { caches with
      knownGroupIds := caches.knownGroupIds.insert group.groupNo } group.groupNo now
    exact ⟨⟨touched.generations, touched.texts, touched.files⟩, touched.flags⟩

private theorem sameMd_cacheGroupMembers (robotId groupNo : PyStr) (members : List GroupMember) :
    SameMd (caches.cacheGroupMembers runtime.learn robotId groupNo members) caches := by
  unfold cacheGroupMembers updateUserGroupIndex
  dsimp only
  split <;> exact ⟨rfl, rfl, rfl⟩

theorem sameMd_rosterEnds (fetch : RosterFetch) (answer : RosterAnswer) :
    SameMd (caches.rosterEnds runtime fetch answer) caches := by
  unfold Caches.rosterEnds
  split
  · exact ⟨rfl, rfl, rfl⟩
  · cases answer with
    | failed => exact ⟨rfl, rfl, rfl⟩
    | members members =>
      dsimp only
      split
      · exact ⟨rfl, rfl, rfl⟩
      · have cached := sameMd_cacheGroupMembers caches runtime runtime.settings.robotId
          fetch.parent members
        exact ⟨cached.generations, cached.texts, cached.files⟩

theorem sameFlags_writeMdToDisk (key : PyStr) (entry : MdEntry) (write : MdWrite) :
    SameFlags (caches.writeMdToDisk key entry write) caches := by
  cases write <;> exact ⟨rfl, rfl⟩

theorem sameFlags_storeMd (key : PyStr) (entry : MdEntry) (write : MdWrite) :
    SameFlags (caches.storeMd key entry write) caches := by
  have written := sameFlags_writeMdToDisk { caches with
    groupMdCache := caches.groupMdCache.set key entry } key entry write
  exact ⟨written.generations, written.flags⟩

theorem sameFlags_ensureMdEnds (key groupNo : PyStr) (generation : Nat) (answer : MdAnswer)
    (write : MdWrite) :
    SameFlags (caches.ensureMdEnds key groupNo generation answer write) caches := by
  unfold ensureMdEnds
  split
  · exact ⟨rfl, rfl⟩
  · cases answer with
    | failed => exact ⟨rfl, rfl⟩
    | found entry =>
      dsimp only
      split
      · exact ⟨rfl, rfl⟩
      · rename_i entry _
        have stored := sameFlags_storeMd { caches with
          groupMdChecked := insert key caches.groupMdChecked } key entry write
        exact ⟨stored.generations, stored.flags⟩

theorem sameFlags_refreshMdEnds (channelId parent : PyStr) (generation : Nat) (answer : MdAnswer)
    (write : MdWrite) (refused : PyStr → Bool) :
    SameFlags (caches.refreshMdEnds channelId parent generation answer write refused) caches := by
  unfold refreshMdEnds
  split
  · exact ⟨rfl, rfl⟩
  · cases answer with
    | failed => exact ⟨rfl, rfl⟩
    | found entry =>
      dsimp only
      split
      · exact sameFlags_storeMd caches channelId _ write
      · exact ⟨rfl, rfl⟩

theorem sameFlags_toolUpdate (key : PyStr) (entry : MdEntry) (write : MdWrite) :
    SameFlags (caches.toolUpdate key entry write) caches := by
  have written := sameFlags_writeMdToDisk { caches with
    groupMdCache := caches.groupMdCache.set key entry
    groupMdChecked := insert key caches.groupMdChecked } key entry write
  exact ⟨written.generations, written.flags⟩

theorem groupScopeGeneration_congr (same : after.groupScopeGenerations = before.groupScopeGenerations)
    (group : PyStr) : after.groupScopeGeneration group = before.groupScopeGeneration group := by
  unfold groupScopeGeneration
  rw [same]

theorem groupScopeGeneration_invalidateGroupScope (groupNo group : PyStr) :
    (caches.invalidateGroupScope groupNo).groupScopeGeneration group =
      if groupNo = group then caches.groupScopeGeneration group + 1
      else caches.groupScopeGeneration group := by
  unfold groupScopeGeneration invalidateGroupScope
  rw [Dict.get?_set]
  split
  · rename_i same
    subst same
    rfl
  · rfl

private theorem generation_handleGroupMdEvent (channelId : PyStr) (deleted : Bool)
    (refused : PyStr → Bool)
    (group : PyStr) :
    (caches.handleGroupMdEvent channelId deleted refused).groupScopeGeneration group =
      if parentGroupNo channelId = group then caches.groupScopeGeneration group + 1
      else caches.groupScopeGeneration group := by
  rw [← splitThreadChannelId_fst, ← groupScopeGeneration_invalidateGroupScope]
  apply groupScopeGeneration_congr
  unfold handleGroupMdEvent
  dsimp only
  split <;> rfl

theorem generation_evictGroupScope (groupNo : PyStr) (refused : PyStr → Bool) (group : PyStr) :
    (caches.evictGroupScope groupNo refused).groupScopeGeneration group =
      if groupNo = group then caches.groupScopeGeneration group + 1
      else caches.groupScopeGeneration group := by
  rw [← groupScopeGeneration_invalidateGroupScope]
  exact groupScopeGeneration_congr rfl group

/-- Evictions one after the other only advance generations, and those of their groups. -/
private theorem generation_evictions (groups : List PyStr) (refused : PyStr → Bool)
    (group : PyStr) :
    caches.groupScopeGeneration group + (if group ∈ groups then 1 else 0) ≤
      (groups.foldl (fun caches groupNo => caches.evictGroupScope groupNo refused)
        caches).groupScopeGeneration group := by
  induction groups generalizing caches with
  | nil => exact Nat.le_refl _
  | cons groupNo rest ih =>
    have later := ih (caches.evictGroupScope groupNo refused)
    rw [generation_evictGroupScope] at later
    rw [List.foldl_cons]
    by_cases same : groupNo = group
    · subst same
      rw [if_pos rfl] at later
      rw [if_pos (List.mem_cons_self ..)]
      omega
    · rw [if_neg same] at later
      have listed : group ∈ groupNo :: rest ↔ group ∈ rest := by
        rw [List.mem_cons]
        exact or_iff_right (Ne.symm same)
      simp only [listed]
      exact later

theorem sameScopes_indexGroups (generations : Dict PyStr Nat) (now : Int)
    (groups : List GroupInfo) :
    SameScopes (groups.foldl (fun caches group => caches.indexGroup generations now group) caches)
      caches := by
  induction groups generalizing caches with
  | nil => exact .refl caches
  | cons group rest ih => exact (ih _).trans (sameScopes_indexGroup caches generations now group)

private theorem generations_sweepChannel (channelId : PyStr) :
    (caches.sweepChannel channelId).groupScopeGenerations = caches.groupScopeGenerations := by
  unfold sweepChannel
  dsimp only
  split <;> rfl

private theorem generations_cleanupCaches (cutoff : Int) :
    (caches.cleanupCaches cutoff).groupScopeGenerations = caches.groupScopeGenerations := by
  have general : ∀ (channels : List PyStr) (caches : Caches Names),
      (channels.foldl sweepChannel caches).groupScopeGenerations =
        caches.groupScopeGenerations := by
    intro channels
    induction channels with
    | nil => exact fun _ => rfl
    | cons channelId rest ih =>
      exact fun caches => (ih _).trans (generations_sweepChannel caches channelId)
  exact general _ caches

/-- The groups that a prefetch answer evicts. -/
def GroupsAnswer.Evicts (answer : GroupsAnswer) (caches : Caches Names) (group : PyStr) : Prop :=
  match answer with
  | .failed => False
  | .groups listed =>
    ¬ (listed.any fun group => group.groupNo = []) ∧ group ∈ caches.staleGroups listed

private theorem generation_prefetchEnds (generations : Dict PyStr Nat) (answer : GroupsAnswer)
    (now : Int)
    (refused : PyStr → Bool) (group : PyStr) :
    caches.groupScopeGeneration group ≤
        (caches.prefetchEnds generations answer now refused).groupScopeGeneration group ∧
      (answer.Evicts caches group → caches.groupScopeGeneration group <
        (caches.prefetchEnds generations answer now refused).groupScopeGeneration group) := by
  unfold Caches.prefetchEnds GroupsAnswer.Evicts
  cases answer with
  | failed => exact ⟨Nat.le_refl _, False.elim⟩
  | groups groups =>
    dsimp only
    split
    · rename_i malformed
      exact ⟨Nat.le_refl _, fun evicts => absurd malformed evicts.1⟩
    · have evicted := generation_evictions caches (caches.staleGroups groups) refused group
      rw [groupScopeGeneration_congr (sameScopes_indexGroups _ generations now groups).generations]
      constructor
      · exact Nat.le_trans (Nat.le_add_right _ _) evicted
      · intro evicts
        rw [if_pos evicts.2] at evicted
        exact evicted

/-- The group whose generation a task has sampled, and the sample. -/
def Task.sampled? : Task → Option (PyStr × Nat)
  | .frame _ => none
  | .roster fetch => some (fetch.parent, fetch.generation)
  | .ensureMd _ groupNo generation => some (groupNo, generation)
  | .scheduledMd _ parent generation => some (parent, generation)
  | .refreshMd _ parent generation => some (parent, generation)
  | .prefetch _ => none

/-- The group that a task samples is the parent of the key it writes. -/
def Task.OwnGroup : Task → Prop
  | .frame _ => True
  | .roster fetch => parentGroupNo fetch.parent = fetch.parent
  | .ensureMd key groupNo _ => parentGroupNo key = groupNo
  | .scheduledMd channelId parent _ => parentGroupNo channelId = parent
  | .refreshMd channelId parent _ => parentGroupNo channelId = parent
  | .prefetch _ => True

namespace System

variable {caches runtime} {system : System Names}

@[simp] theorem caches_spawn (task : Task) : (system.spawn task).caches = system.caches := rfl

@[simp] theorem caches_drop (id : Nat) : (system.drop id).caches = system.caches := rfl

@[simp] theorem caches_withCaches : (system.withCaches caches).caches = caches := rfl

@[simp] theorem caches_spawn? (task : Option Task) :
    (system.spawn? task).caches = system.caches := by
  cases task <;> rfl

/-- The events and evictions behind which what is known of a group is stale. -/
def Marks (system : System Names) : Event → PyStr → Prop
  | .mdEvent channelId _ _ _, group => parentGroupNo channelId = group
  | .evict groupNo _, group => groupNo = group
  | .prefetchEnds id answer _ _, group =>
    ∃ generations, system.task? id = some (.prefetch generations) ∧
      answer.Evicts system.caches group
  | _, _ => False

/-- What an event does to the caches. Where it leaves them alone, it marks no group. -/
inductive CachesMove (runtime : Runtime Names) (system : System Names) :
    Event → Caches Names → Prop where
  | kept {event : Event} (unmarked : ∀ group, ¬ system.Marks event group) :
      CachesMove runtime system event system.caches
  | recorded (frame : Frame) (now : Int) :
      CachesMove runtime system (.frameArrives frame now)
        (system.caches.recordFrame runtime frame now)
  | passed (id : Nat) (session : Bool) (frame : Frame) (now : Int) :
      CachesMove runtime system (.frameContinues id session now)
        (system.caches.throughGate runtime.settings frame now)
  | answered (id : Nat) (fetch : RosterFetch) (answer : RosterAnswer) (now : Int) :
      CachesMove runtime system (.rosterEnds id answer now)
        (system.caches.rosterEnds runtime fetch answer)
  | answeredFrame (id : Nat) (fetch : RosterFetch) (frame : Frame) (answer : RosterAnswer)
      (now : Int) :
      CachesMove runtime system (.rosterEnds id answer now)
        ((system.caches.rosterEnds runtime fetch answer).throughGate runtime.settings frame now)
  | handled (channelId : PyStr) (deleted session : Bool) (refused : PyStr → Bool) :
      CachesMove runtime system (.mdEvent channelId deleted session refused)
        (system.caches.handleGroupMdEvent channelId deleted refused)
  | ensured {id : Nat} {key groupNo : PyStr} {generation : Nat}
      (found : system.task? id = some (.ensureMd key groupNo generation)) (answer : MdAnswer)
      (write : MdWrite) (refused : PyStr → Bool) :
      CachesMove runtime system (.mdEnds id answer write refused)
        (system.caches.ensureMdEnds key groupNo generation answer write)
  | refreshed {id : Nat} {channelId parent : PyStr} {generation : Nat}
      (found : system.task? id = some (.refreshMd channelId parent generation))
      (answer : MdAnswer) (write : MdWrite) (refused : PyStr → Bool) :
      CachesMove runtime system (.mdEnds id answer write refused)
        (system.caches.refreshMdEnds channelId parent generation answer write refused)
  | evicted (groupNo : PyStr) (refused : PyStr → Bool) :
      CachesMove runtime system (.evict groupNo refused)
        (system.caches.evictGroupScope groupNo refused)
  | swept (cutoff : Int) :
      CachesMove runtime system (.sweep cutoff) (system.caches.cleanupCaches cutoff)
  | groupUpdated (groupId : PyStr) (entry : MdEntry) (write : MdWrite) :
      CachesMove runtime system (.groupMdUpdate groupId entry write)
        (system.caches.toolUpdate groupId entry write)
  | threadUpdated (groupId shortId : PyStr) (entry : MdEntry) (write : MdWrite) :
      CachesMove runtime system (.threadMdUpdate groupId shortId entry write)
        (system.caches.toolUpdate (threadKey groupId shortId) entry write)
  | prefetched {id : Nat} {generations : Dict PyStr Nat}
      (found : system.task? id = some (.prefetch generations)) (answer : GroupsAnswer)
      (now : Int) (refused : PyStr → Bool) :
      CachesMove runtime system (.prefetchEnds id answer now refused)
        (system.caches.prefetchEnds generations answer now refused)

theorem step_caches (runtime : Runtime Names) (system : System Names) (event : Event) :
    CachesMove runtime system event (system.step runtime event).caches := by
  cases event with
  | frameArrives frame now =>
    unfold step
    dsimp only
    split
    · exact .kept fun _ marks => marks
    · split <;> exact .recorded frame now
  | frameContinues id session now =>
    unfold step
    dsimp only
    split
    · split
      · exact .kept fun _ marks => marks
      · exact .passed id session _ now
    · exact .kept fun _ marks => marks
  | rosterStarts groupNo force session now =>
    rw [step, caches_spawn?]
    exact .kept fun _ marks => marks
  | rosterEnds id answer now =>
    unfold step
    dsimp only
    split
    · split
      · exact .answered id _ answer now
      · exact .answeredFrame id _ _ answer now
    · exact .kept fun _ marks => marks
  | mdEvent channelId deleted session refused =>
    unfold step
    dsimp only
    split <;> exact .handled channelId deleted session refused
  | refreshStarts id session =>
    unfold step
    dsimp only
    split
    · split <;> exact .kept fun _ marks => marks
    · exact .kept fun _ marks => marks
  | groupMdStarts channelId session =>
    rw [step, caches_spawn?]
    exact .kept fun _ marks => marks
  | threadMdStarts channelId session =>
    unfold step
    dsimp only
    split
    · exact .kept fun _ marks => marks
    · rw [caches_spawn?]
      exact .kept fun _ marks => marks
  | mdEnds id answer write refused =>
    unfold step
    dsimp only
    split
    · exact .ensured ‹_› answer write refused
    · exact .refreshed ‹_› answer write refused
    · exact .kept fun _ marks => marks
  | evict groupNo refused => exact .evicted groupNo refused
  | sweep cutoff => exact .swept cutoff
  | groupMdUpdate groupId entry write => exact .groupUpdated groupId entry write
  | threadMdUpdate groupId shortId entry write => exact .threadUpdated groupId shortId entry write
  | prefetchStarts session =>
    unfold step
    dsimp only
    split <;> exact .kept fun _ marks => marks
  | prefetchEnds id answer now refused =>
    unfold step
    dsimp only
    split
    · exact .prefetched ‹_› answer now refused
    · rename_i other
      refine .kept fun group marks => ?_
      obtain ⟨generations, found, -⟩ := marks
      exact other generations found
  | cancelled id => exact .kept fun _ marks => marks

theorem generation_step (event : Event) (group : PyStr) :
    system.caches.groupScopeGeneration group ≤
        (system.step runtime event).caches.groupScopeGeneration group ∧
      (system.Marks event group → system.caches.groupScopeGeneration group <
        (system.step runtime event).caches.groupScopeGeneration group) := by
  have unmoved : ∀ ended : Caches Names,
      ended.groupScopeGenerations = system.caches.groupScopeGenerations →
      system.caches.groupScopeGeneration group ≤ ended.groupScopeGeneration group ∧
        (False → system.caches.groupScopeGeneration group < ended.groupScopeGeneration group) :=
    fun ended same => ⟨(groupScopeGeneration_congr same group).ge, False.elim⟩
  have move := step_caches runtime system event
  generalize (system.step runtime event).caches = ended at move ⊢
  cases move with
  | kept unmarked => exact ⟨Nat.le_refl _, fun marks => absurd marks (unmarked group)⟩
  | recorded frame now => exact unmoved _ (sameScopes_recordFrame _ _ frame now).generations
  | passed id session frame now =>
    exact unmoved _ (sameScopes_throughGate _ _ frame now).generations
  | answered id fetch answer now =>
    exact unmoved _ (sameMd_rosterEnds system.caches runtime fetch answer).generations
  | answeredFrame id fetch frame answer now =>
    have ended := (sameMd_rosterEnds system.caches runtime fetch answer).generations
    exact unmoved _ ((sameScopes_throughGate _ _ frame now).generations.trans ended)
  | handled channelId deleted session refused =>
    have moved := generation_handleGroupMdEvent system.caches channelId deleted refused group
    rw [moved, Marks]
    by_cases own : parentGroupNo channelId = group <;> simp [own]
  | ensured found answer write refused =>
    exact unmoved _ (sameFlags_ensureMdEnds _ _ _ _ answer write).generations
  | refreshed found answer write refused =>
    exact unmoved _ (sameFlags_refreshMdEnds _ _ _ _ answer write refused).generations
  | evicted groupNo refused =>
    have moved := generation_evictGroupScope system.caches groupNo refused group
    rw [moved, Marks]
    by_cases own : groupNo = group <;> simp [own]
  | swept cutoff => exact unmoved _ (generations_cleanupCaches _ cutoff)
  | groupUpdated groupId entry write =>
    exact unmoved _ (sameFlags_toolUpdate _ groupId entry write).generations
  | threadUpdated groupId shortId entry write =>
    exact unmoved _ (sameFlags_toolUpdate _ _ entry write).generations
  | @prefetched id generations found answer now refused =>
    have moved := generation_prefetchEnds system.caches generations answer now refused group
    refine ⟨moved.1, fun marks => moved.2 ?_⟩
    obtain ⟨_, _, evicts⟩ := marks
    exact evicts

theorem mem_of_task? {id : Nat} {task : Task} (found : system.task? id = some task) :
    (id, task) ∈ system.tasks := by
  unfold task? at found
  obtain ⟨entry, first, rfl⟩ := Option.map_eq_some_iff.mp found
  have same : entry.1 = id := by simpa using List.find?_some first
  subst same
  exact List.mem_of_find?_eq_some first

theorem mem_spawn {entry : Nat × Task} {task : Task} :
    entry ∈ (system.spawn task).tasks ↔ entry = (system.nextId, task) ∨ entry ∈ system.tasks :=
  List.mem_cons

theorem mem_drop {entry : Nat × Task} {id : Nat} (left : entry ∈ (system.drop id).tasks) :
    entry ∈ system.tasks := (List.mem_filter.mp left).1

/-- What waits has an id of its own, names its own group and has sampled a generation
that the group has reached. -/
structure Sound (system : System Names) : Prop where
  issued : ∀ id task, (id, task) ∈ system.tasks → id < system.nextId
  ownGroup : ∀ id task, (id, task) ∈ system.tasks → task.OwnGroup
  sampled : ∀ id task group generation, (id, task) ∈ system.tasks →
    task.sampled? = some (group, generation) →
    generation ≤ system.caches.groupScopeGeneration group

/-- A task that is put to wait names its own group and samples the generation of now. -/
structure Started (task : Task) (caches : Caches Names) : Prop where
  ownGroup : task.OwnGroup
  sampled : ∀ group generation, task.sampled? = some (group, generation) →
    generation = caches.groupScopeGeneration group

private theorem started_frame (frame : Frame) : Started (.frame frame) caches := ⟨trivial, nofun⟩

private theorem started_prefetch (generations : Dict PyStr Nat) :
    Started (.prefetch generations) caches := ⟨trivial, nofun⟩

private theorem started_scheduledMd (channelId : PyStr) :
    Started (.scheduledMd channelId (splitThreadChannelId channelId).1
      (caches.groupScopeGeneration (splitThreadChannelId channelId).1)) caches := by
  refine ⟨(splitThreadChannelId_fst channelId).symm, ?_⟩
  intro group generation sampled
  cases sampled
  rfl

private theorem started_refreshMd {channelId parent : PyStr} {generation : Nat}
    (own : (Task.scheduledMd channelId parent generation).OwnGroup)
    (current : generation = caches.groupScopeGeneration parent) :
    Started (.refreshMd channelId parent generation) caches := by
  refine ⟨own, ?_⟩
  intro group sample sampled
  cases sampled
  exact current

theorem started_rosterFetch? {groupNo : PyStr} {force session : Bool} {now : Int}
    {waiter : Option Frame} {fetch : RosterFetch}
    (asked : caches.rosterFetch? groupNo force session now waiter = some fetch) :
    Started (.roster fetch) caches := by
  unfold rosterFetch? at asked
  dsimp only at asked
  split at asked
  · cases asked
  · split at asked
    · cases asked
    · cases asked
      refine ⟨parentGroupNo_idem groupNo, ?_⟩
      intro group generation sampled
      cases sampled
      rfl

theorem started_ensureMd? {key groupNo : PyStr} {session : Bool} {task : Task}
    (own : parentGroupNo key = groupNo)
    (asked : caches.ensureMd? key groupNo session = some task) : Started task caches := by
  unfold ensureMd? at asked
  dsimp only at asked
  split at asked
  · cases asked
  · split at asked
    · cases asked
    · split at asked
      · cases asked
      · cases asked
        refine ⟨own, ?_⟩
        intro group generation sampled
        cases sampled
        rfl

/-- What an event does to the tasks: some may go, and one may be put to wait. -/
inductive TasksMove (system ended : System Names) : Prop where
  | kept (old : ∀ waiting ∈ ended.tasks, waiting ∈ system.tasks)
      (next : ended.nextId = system.nextId)
  | started (new : Task)
      (old : ∀ waiting ∈ ended.tasks, waiting = (system.nextId, new) ∨ waiting ∈ system.tasks)
      (next : ended.nextId = system.nextId + 1) (started : Started new ended.caches)

theorem TasksMove.spawn {base : System Names} {new : Task}
    (kept : ∀ waiting ∈ base.tasks, waiting ∈ system.tasks) (next : base.nextId = system.nextId)
    (started : Started new base.caches) : TasksMove system (base.spawn new) := by
  refine .started new ?_ (congrArg (· + 1) next) started
  intro waiting waits
  rcases mem_spawn.mp waits with fresh | old
  · rw [← next]
    exact .inl fresh
  · exact .inr (kept waiting old)

theorem TasksMove.spawn? {asked : Option Task}
    (started : ∀ task, asked = some task → Started task system.caches) :
    TasksMove system (system.spawn? asked) := by
  cases asked with
  | none => exact .kept (fun _ old => old) rfl
  | some new => exact .spawn (fun _ old => old) rfl (started new rfl)

private theorem TasksMove.idle (caches : Caches Names) :
    TasksMove system (system.withCaches caches) :=
  .kept (fun _ old => old) rfl

private theorem TasksMove.dropped (id : Nat) (caches : Caches Names) :
    TasksMove system ((system.drop id).withCaches caches) :=
  .kept (fun _ => mem_drop) rfl

private theorem frame_tasks (frame : Frame) (now : Int) :
    TasksMove system (system.step runtime (.frameArrives frame now)) := by
  unfold step
  dsimp only
  split
  · exact .idle _
  · split
    · exact .idle _
    · exact .spawn (fun _ old => old) rfl (started_frame frame)

private theorem continued_tasks (id : Nat) (session : Bool) (now : Int) :
    TasksMove system (system.step runtime (.frameContinues id session now)) := by
  unfold step
  dsimp only
  split
  · split
    · rename_i fetch asked
      refine .spawn (fun _ => mem_drop) rfl ?_
      unfold frameFetch? at asked
      split at asked
      · exact started_rosterFetch? asked
      · cases asked
    · exact .dropped id _
  · exact .idle _

private theorem answer_tasks (id : Nat) (answer : RosterAnswer) (now : Int) :
    TasksMove system (system.step runtime (.rosterEnds id answer now)) := by
  unfold step
  dsimp only
  split
  · split <;> exact .dropped id _
  · exact .idle _

private theorem refresh_tasks (sound : system.Sound) (id : Nat) (session : Bool) :
    TasksMove system (system.step runtime (.refreshStarts id session)) := by
  unfold step
  dsimp only
  split
  · rename_i channelId parent generation found
    split
    · exact .dropped id system.caches
    · rename_i current
      have own := sound.ownGroup id _ (mem_of_task? found)
      have same := Classical.not_not.mp fun moved => current (.inl moved)
      exact .spawn (fun _ => mem_drop) rfl (started_refreshMd own same)
  · exact .idle _

private theorem thread_tasks (channelId : PyStr) (session : Bool) :
    TasksMove system (system.step runtime (.threadMdStarts channelId session)) := by
  unfold step
  dsimp only
  split
  · exact .idle _
  · rename_i parent shortId thread
    refine .spawn? ?_
    intro task asked
    refine started_ensureMd? ?_ asked
    have key := @threadKey_of_split channelId shortId (by rw [thread])
    have own := splitThreadChannelId_fst channelId
    rw [thread] at key own
    exact (congrArg parentGroupNo key).trans own.symm

theorem step_tasks (sound : system.Sound) (event : Event) :
    TasksMove system (system.step runtime event) := by
  cases event with
  | frameArrives frame now => exact frame_tasks frame now
  | frameContinues id session now => exact continued_tasks id session now
  | rosterStarts groupNo force session now =>
    refine .spawn? ?_
    intro task asked
    obtain ⟨fetch, fetched, rfl⟩ := Option.map_eq_some_iff.mp asked
    exact started_rosterFetch? fetched
  | rosterEnds id answer now => exact answer_tasks id answer now
  | mdEvent channelId deleted session refused =>
    unfold step
    dsimp only
    split
    · exact .spawn (fun _ old => old) rfl (started_scheduledMd channelId)
    · exact .idle _
  | refreshStarts id session => exact refresh_tasks sound id session
  | groupMdStarts channelId session =>
    refine .spawn? ?_
    intro task asked
    refine started_ensureMd? ?_ asked
    rw [splitThreadChannelId_fst, parentGroupNo_idem]
  | threadMdStarts channelId session => exact thread_tasks channelId session
  | mdEnds id answer write refused =>
    unfold step
    dsimp only
    split
    · exact .dropped id _
    · exact .dropped id _
    · exact .idle _
  | prefetchStarts session =>
    unfold step
    dsimp only
    split
    · exact .spawn (fun _ old => old) rfl (started_prefetch _)
    · exact .idle _
  | prefetchEnds id answer now refused =>
    unfold step
    dsimp only
    split
    · exact .dropped id _
    · exact .idle _
  | evict | sweep | groupMdUpdate | threadMdUpdate => exact .idle _
  | cancelled id => exact .dropped id system.caches

/-- Behind an event a task was there before, or is the one that the event started. -/
theorem mem_step_tasks (sound : system.Sound) (event : Event) {id : Nat} {task : Task}
    (waits : (id, task) ∈ (system.step runtime event).tasks) :
    (id, task) ∈ system.tasks ∨
      id = system.nextId ∧ (system.step runtime event).nextId = system.nextId + 1 ∧
        Started task (system.step runtime event).caches := by
  cases @step_tasks _ runtime _ sound event with
  | kept old next => exact .inl (old _ waits)
  | started new old next started =>
    rcases old _ waits with fresh | before
    · cases fresh
      exact .inr ⟨rfl, next, started⟩
    · exact .inl before

theorem nextId_step (sound : system.Sound) (event : Event) :
    system.nextId ≤ (system.step runtime event).nextId := by
  cases @step_tasks _ runtime _ sound event with
  | kept old next => exact next.ge
  | started new old next started => omega

theorem generation_run (system : System Names) (runtime : Runtime Names) (events : List Event)
    (group : PyStr) :
    system.caches.groupScopeGeneration group ≤
      (system.run runtime events).caches.groupScopeGeneration group := by
  induction events generalizing system with
  | nil => exact Nat.le_refl _
  | cons event rest ih => exact Nat.le_trans (generation_step event group).1 (ih _)

theorem Sound.start (names : Names) (mdFiles : Dict PyStr MdEntry) :
    (System.start names mdFiles).Sound where
  issued _ _ waits := by cases waits
  ownGroup _ _ waits := by cases waits
  sampled _ _ _ _ waits := by cases waits

theorem Sound.step (sound : system.Sound) (event : Event) : (system.step runtime event).Sound where
  issued id task waits := by
    rcases mem_step_tasks sound event waits with old | ⟨fresh, next, _⟩
    · exact Nat.lt_of_lt_of_le (sound.issued id task old) (nextId_step sound event)
    · omega
  ownGroup id task waits := by
    rcases mem_step_tasks sound event waits with old | ⟨_, _, started⟩
    · exact sound.ownGroup id task old
    · exact started.ownGroup
  sampled id task group generation waits sampled := by
    rcases mem_step_tasks sound event waits with old | ⟨_, _, started⟩
    · exact Nat.le_trans (sound.sampled id task group generation old sampled)
        (generation_step event group).1
    · exact (started.sampled group generation sampled).le

theorem Sound.run (sound : system.Sound) (runtime : Runtime Names) (events : List Event) :
    (system.run runtime events).Sound := by
  induction events generalizing system with
  | nil => exact sound
  | cons event rest ih => exact ih (sound.step event)

end System

/-- One identity, with its gate relaxed and no display names. -/
def soleRuntime : Runtime Unit := ⟨soleSettings, fun names _ => names⟩

end OctoChannel.Chats
